/-!
# Document/Basic — structured values as they stand in a text

A `Document` is what a JSON or TOML text says before anyone asks what it means: records keep their
fields in the order of the text, repeated names included.  What is no text spoils a document only where
it is read or held.

The second half reads records.  A record type is a list of field names; its fields may be given by
name or, as a list, in that order.
-/

namespace AddressedStorage

/-- A decimal number that is not a 64-bit integer: `± digits · 10 ^ exponent`. -/
structure Decimal where
  negative : Bool
  digits : Nat
  exponent : Int
  deriving DecidableEq, Repr

namespace Decimal

/-- How many decimal digits a number has. -/
def width (n : Nat) : Nat := (Nat.toDigits 10 n).length

/-- The least magnitude that rounds past the double range: halfway from the largest double to the
next power of two. -/
def overflow : Nat := (1 <<< 1024) - (1 <<< 970)

/-- Whether the number is within the double range. -/
def isFinite (d : Decimal) : Bool :=
  if d.digits = 0 then true
  else
    let top := d.exponent + width d.digits
    if top < 300 then true
    else if 320 < top then false
    else if 0 ≤ d.exponent then d.digits * Nat.pow 10 d.exponent.toNat < overflow
    else d.digits < overflow * Nat.pow 10 (-d.exponent).toNat

end Decimal

/-- A structured value. -/
inductive Document where
  | null
  | boolean (value : Bool)
  /-- An integer of at most 64 bits. -/
  | integer (value : Int)
  | decimal (value : Decimal)
  | text (value : String)
  | list (items : List Document)
  | record (fields : List (String × Document))
  /-- A value of a kind that no record here has, such as a date. -/
  | foreign (spelling : String)
  /-- A text that is none, because its bytes are not UTF-8 or a surrogate stands alone in it, or a record
  with such a name.  It can be passed over, but not read. -/
  | unreadable
  deriving Inhabited

namespace Document

/-! ## Size -/

mutual
/-- How deep lists and records are nested. -/
def depth : Document → Nat
  | list items => 1 + depthOfItems items
  | record fields => 1 + depthOfFields fields
  | _ => 0
/-- The greatest depth of a list's items. -/
def depthOfItems : List Document → Nat
  | [] => 0
  | d :: rest => max d.depth (depthOfItems rest)
/-- The greatest depth of a record's values. -/
def depthOfFields : List (String × Document) → Nat
  | [] => 0
  | (_, d) :: rest => max d.depth (depthOfFields rest)
end

mutual
/-- Whether every number is within the double range, and every text is one. -/
def isSound : Document → Bool
  | decimal d => d.isFinite
  | list items => itemsAreSound items
  | record fields => fieldsAreSound fields
  | unreadable => false
  | _ => true
/-- Whether all items of a list are sound. -/
def itemsAreSound : List Document → Bool
  | [] => true
  | d :: rest => d.isSound && itemsAreSound rest
/-- Whether all values of a record are sound. -/
def fieldsAreSound : List (String × Document) → Bool
  | [] => true
  | (_, d) :: rest => d.isSound && fieldsAreSound rest
end

/-- The depth at which nesting is refused. -/
def depthLimit : Nat := 128

/-- Whether the whole value can be held where it stands, so many levels down: not nested too deep, and
sound. -/
def isHoldableAt (outside : Nat) (d : Document) : Bool :=
  outside + d.depth < depthLimit && d.isSound

/-- Whether the whole value can be held by itself. -/
def isHoldable (d : Document) : Bool := d.isHoldableAt 0

/-! ## Single values -/

/-- A text. -/
def text? : Document → Option String
  | text s => some s
  | _ => none

/-- A truth value. -/
def boolean? : Document → Option Bool
  | boolean b => some b
  | _ => none

/-- An integer from zero up to, but not including, `bound`. -/
def natBelow? (bound : Nat) : Document → Option Nat
  | integer (.ofNat n) => if n < bound then some n else none
  | _ => none

/-- An unsigned 64-bit integer. -/
def uint64? (d : Document) : Option UInt64 := (d.natBelow? UInt64.size).map Nat.toUInt64

/-- Whether a value is a list. -/
def isList : Document → Bool
  | list _ => true
  | _ => false

/-- A list of values read one by one. -/
def listOf? {α : Type} (read : Document → Option α) : Document → Option (List α)
  | list items => items.mapM read
  | _ => none

/-! ## Records -/

/-- A field by name.  A name that is given twice spoils the record. -/
def field? (fields : List (String × Document)) (name : String) : Option (Option Document) :=
  match fields.filter (·.1 = name) with
  | [] => some none
  | [(_, d)] => some (some d)
  | _ => none

/-- What is done with list items past the last field. -/
inductive Surplus where
  | refused
  | ignored
  deriving DecidableEq, Repr

/-- The fields of a record with the given names, each if it is there.  Other names are ignored. -/
def fields? (surplus : Surplus) (names : List String) : Document → Option (List (Option Document))
  | record fields => names.mapM (field? fields)
  | list items =>
    if surplus = .refused ∧ names.length < items.length then none
    else some ((List.range names.length).map fun i => items[i]?)
  | _ => none

/-- A field that must be there. -/
def required {α : Type} (read : Document → Option α) (d : Option Document) : Option α :=
  d.bind read

/-- A field that has a value also when it is not there. -/
def withDefault {α : Type} (default : α) (read : Document → Option α) (d : Option Document) :
    Option α :=
  match d with
  | none => some default
  | some d => read d

/-- A field that may be absent or null. -/
def optional {α : Type} (read : Document → Option α) (d : Option Document) : Option (Option α) :=
  match d with
  | none | some null => some none
  | some d => (read d).map some

/-- A record of one field that must be there. -/
def single? {α : Type} (name : String) (read : Document → Option α) (d : Document) :
    Option α := do
  match ← d.fields? .refused [name] with
  | [field] => required read field
  | _ => none

/-- The choice among named alternatives that carry nothing: its name, or a record that gives the
name a null. -/
def choice? {α : Type} (ofName : String → Option α) : Document → Option α
  | text name => ofName name
  | record [(name, null)] => ofName name
  | _ => none

end Document

end AddressedStorage
