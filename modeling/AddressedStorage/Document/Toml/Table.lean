import AddressedStorage.Document.Basic

/-!
# Document/Toml/Table — which table a line belongs to

A TOML text is a sequence of headers and assignments.  Each says by a path where in a tree of tables it
belongs; what a later line may still do to a table depends on how the table came about.
-/

namespace AddressedStorage.Toml

/-- How a table came about. -/
inductive Origin where
  /-- By a header of its own. -/
  | header
  /-- On the way to a header further down. -/
  | passed
  /-- By the dots in the key of an assignment. -/
  | dotted
  deriving DecidableEq, Repr

/-- What stands under one key. -/
inductive Item where
  | value (d : Document)
  | table (origin : Origin) (entries : List (String × Item))
  /-- Tables that share a header, the last one apart. -/
  | tables (before : List (List (String × Item))) (last : List (String × Item))

/-- What stands under the keys of a table. -/
abbrev Entries := List (String × Item)

namespace Entries

/-- Changes what stands under a key, or puts something there. -/
def update (key : String) (f : Option Item → Option Item) : Entries → Option Entries
  | [] => (f none).map fun i => [(key, i)]
  | (k, i) :: rest =>
    if k = key then (f (some i)).map fun i => (k, i) :: rest
    else (update key f rest).map ((k, i) :: ·)

/-- Works on the table that a header's path leads to.  Tables that are not there come about on the
way, and of tables that share a header the last is meant. -/
def within (f : Entries → Option Entries) : (path : List String) → Entries → Option Entries
  | [], entries => f entries
  | key :: path, entries => update key (fun
      | none => (within f path []).map (.table .passed)
      | some (.value _) => none
      | some (.table origin sub) => (within f path sub).map (.table origin)
      | some (.tables before last) => (within f path last).map (.tables before)) entries

/-- Assigns a value to the key at the end of a dotted path.  The path may not lead into a table with a
header of its own, and must end in one that dots brought about; `ready` says so of the table it has
reached. -/
def assign (key : String) (d : Document) :
    (path : List String) → (ready : Bool) → Entries → Option Entries
  | [], ready, entries =>
    if ready then
      update key (fun
        | none => some (.value d)
        | some _ => none) entries
    else none
  | k :: path, _, entries => update k (fun
      | none => (assign key d path true []).map (.table .dotted)
      | some (.value _) => none
      | some (.table .header _) => none
      | some (.table origin sub) => (assign key d path (origin = .dotted) sub).map (.table origin)
      | some (.tables before last) => (assign key d path false last).map (.tables before)) entries

/-- Opens a table under a header.  One that was only passed on the way may get its header now. -/
def openTable (key : String) : Entries → Option Entries :=
  update key fun
    | none => some (.table .header [])
    | some (.table .passed sub) => some (.table .header sub)
    | some _ => none

/-- Opens one more of the tables that share a header. -/
def openNext (key : String) : Entries → Option Entries :=
  update key fun
    | none => some (.tables [] [])
    | some (.tables before last) => some (.tables (before ++ [last]) [])
    | some _ => none

end Entries

mutual
/-- An item as a document. -/
def Item.toDocument : Item → Document
  | .value d => d
  | .table _ entries => .record (documentFields entries)
  | .tables before last => .list (documentRecords before ++ [.record (documentFields last)])
/-- A table's entries as fields. -/
def documentFields : List (String × Item) → List (String × Document)
  | [] => []
  | (k, i) :: rest => (k, i.toDocument) :: documentFields rest
/-- Tables as records. -/
def documentRecords : List (List (String × Item)) → List Document
  | [] => []
  | t :: rest => .record (documentFields t) :: documentRecords rest
end

/-- A table as a document. -/
def Entries.toDocument (entries : Entries) : Document := .record (documentFields entries)

end AddressedStorage.Toml
