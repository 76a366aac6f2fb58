import AddressedStorage.Document.Toml.Scalar
import AddressedStorage.Document.Toml.Table

/-!
# Document/Toml — TOML texts

`Document.ofToml?` reads a whole text; `Document.toToml?` writes a record, the values in it on one line
each.
-/

namespace AddressedStorage.Toml

/-! ## Values that hold others -/

/-- The number of parts a key may have. -/
def keyLimit : Nat := 79

/-- How deep values may be nested. -/
def depthLimit : Nat := 79

/-- The text after blanks, comments and line ends.  `fuel` bounds the number of lines. -/
def skipGap : (fuel : Nat) → List Char → List Char
  | 0, cs => cs
  | fuel + 1, cs =>
    let cs := skipBlanks cs
    match newline? (skipComment cs) with
    | some next => skipGap fuel next
    | none => cs

mutual
/-- Reads a value that holds others at most `depth` deep. -/
def readValue (depth : Nat) : (fuel : Nat) → Reader Document
  | 0, _ => none
  | fuel + 1, cs =>
    match cs with
    | '"' :: rest => (readQuoted '"' rest).map fun (s, r) => (.text (String.ofList s), r)
    | '\'' :: rest => (readQuoted '\'' rest).map fun (s, r) => (.text (String.ofList s), r)
    | '[' :: rest =>
      match depth with
      | 0 => none
      | depth + 1 => (readItems depth fuel rest).map fun (ds, r) => (.list ds, r)
    | '\x7b' :: rest =>
      match depth with
      | 0 => none
      | depth + 1 =>
        match skipBlanks rest with
        | '\x7d' :: rest => some (.record [], rest)
        | rest => (readPairs depth fuel [] rest).map fun (es, r) => (es.toDocument, r)
    | 't' :: 'r' :: 'u' :: 'e' :: rest => some (.boolean true, rest)
    | 'f' :: 'a' :: 'l' :: 's' :: 'e' :: rest => some (.boolean false, rest)
    | cs => readNumber cs
/-- Reads the items of a list up to its closing bracket; a comma may end them. -/
def readItems (depth : Nat) : (fuel : Nat) → Reader (List Document)
  | 0, _ => none
  | fuel + 1, cs =>
    match skipGap fuel cs with
    | ']' :: rest => some ([], rest)
    | cs =>
      match readValue depth fuel cs with
      | none => none
      | some (d, rest) =>
        match skipGap fuel rest with
        | ',' :: rest => (readItems depth fuel rest).map fun (ds, r) => (d :: ds, r)
        | ']' :: rest => some ([d], rest)
        | _ => none
/-- Reads the assignments of a table on one line up to its closing brace. -/
def readPairs (depth : Nat) : (fuel : Nat) → Entries → Reader Entries
  | 0, _, _ => none
  | fuel + 1, entries, cs =>
    match readKey keyLimit cs with
    | some (parts, '=' :: rest) =>
      match readValue depth fuel (skipBlanks rest) with
      | none => none
      | some (d, rest) =>
        match entries.assign (parts.getLastD "") d parts.dropLast true with
        | none => none
        | some entries =>
          match skipBlanks rest with
          | ',' :: rest => readPairs depth fuel entries rest
          | '\x7d' :: rest => some (entries, rest)
          | _ => none
    | _ => none
end

/-! ## Lines -/

/-- What has been read: the tree, and the path of the header that holds now. -/
structure State where
  entries : Entries
  path : List String

/-- The text after the rest of a line. -/
def endLine (cs : List Char) : Option (List Char) :=
  match skipComment (skipBlanks cs) with
  | [] => some []
  | cs => newline? cs

/-- Reads a header. -/
def readHeader (s : State) (cs : List Char) : Option (State × List Char) := do
  let (many, cs) := match cs with
    | '[' :: rest => (true, rest)
    | cs => (false, cs)
  let (parts, cs) ← readKey keyLimit cs
  let cs ← readChar ']' cs
  let cs ← if many then readChar ']' cs else some cs
  let put := if many then Entries.openNext else Entries.openTable
  let entries ← s.entries.within (put (parts.getLastD "")) parts.dropLast
  return (⟨entries, parts⟩, cs)

/-- Reads an assignment. -/
def readAssignment (s : State) (cs : List Char) : Option (State × List Char) := do
  let (parts, cs) ← readKey keyLimit cs
  let cs ← readChar '=' cs
  let (d, cs) ← readValue depthLimit (2 * cs.length + 2) (skipBlanks cs)
  let entries ← s.entries.within
    (fun es => es.assign (parts.getLastD "") d parts.dropLast true) s.path
  return ({ s with entries }, cs)

/-- Reads line after line; there are at most `fuel`. -/
def readLinesOf : (fuel : Nat) → State → List Char → Option Entries
  | 0, _, _ => none
  | fuel + 1, s, cs =>
    match skipBlanks cs with
    | [] => some s.entries
    | '[' :: rest =>
      (readHeader s rest).bind fun (s, rest) => (endLine rest).bind (readLinesOf fuel s)
    | c :: rest =>
      if c = '#' ∨ c = '\n' ∨ c = '\r' then (endLine (c :: rest)).bind (readLinesOf fuel s)
      else (readAssignment s (c :: rest)).bind fun (s, rest) =>
        (endLine rest).bind (readLinesOf fuel s)

/-! ## Writing -/

/-- A character in a string. -/
def escapeChar (c : Char) : List Char :=
  if c.toNat = 0x7F then "\\u007f".toList else JsonSyntax.escapeChar c

/-- A string or a key between quotes. -/
def quoted (s : String) : List Char := '"' :: s.toList.flatMap escapeChar ++ ['"']

mutual
/-- A value on one line.  Nothing stands for a null, and decimals have no text here. -/
def write? : Document → Option (List Char)
  | .null | .decimal _ | .unreadable => none
  | .boolean b => some (if b then "true" else "false").toList
  | .integer i =>
    if Int64.minValue.toInt ≤ i ∧ i ≤ Int64.maxValue.toInt then some (toString i).toList else none
  | .text s => some (quoted s)
  | .foreign s => some s.toList
  | .list items => (writeItems? items).map fun ts => '[' :: JsonSyntax.commas ts ++ [']']
  | .record fields =>
    (writeFields? fields).map fun ts => '\x7b' :: JsonSyntax.commas ts ++ ['\x7d']
/-- The items of a list. -/
def writeItems? : List Document → Option (List (List Char))
  | [] => some []
  | d :: rest => do return (← write? d) :: (← writeItems? rest)
/-- Assignments.  A field that is null is left out. -/
def writeFields? : List (String × Document) → Option (List (List Char))
  | [] => some []
  | (_, .null) :: rest => writeFields? rest
  | (name, d) :: rest => do
    let text := quoted name ++ '=' :: (← write? d)
    return text :: (← writeFields? rest)
end

end AddressedStorage.Toml

namespace AddressedStorage.Document

/-- Reads a TOML text, which may start with a byte order mark. -/
def ofToml? (text : String) : Option Document :=
  let cs := match text.toList with
    | '\uFEFF' :: rest => rest
    | cs => cs
  (Toml.readLinesOf (cs.length + 1) ⟨[], []⟩ cs).map Toml.Entries.toDocument

/-- Writes a record as a TOML text, if it has one. -/
def toToml? : Document → Option String
  | record fields => do
    return String.ofList ((← Toml.writeFields? fields).flatMap (· ++ ['\n']))
  | _ => none

end AddressedStorage.Document
