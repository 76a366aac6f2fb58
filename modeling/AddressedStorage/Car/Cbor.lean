import AddressedStorage.Bytes.Cut
import AddressedStorage.Bytes.Radix

/-!
# Car/Cbor — the heads of CBOR items

A CBOR item opens with a head: three bits say what it is, and a number says how long it is or which
it is.  The number is written in the fewest bytes that hold it.
-/

namespace AddressedStorage.Cbor

/-- What an item is. -/
inductive Major where
  | unsigned
  | bytes
  | text
  | array
  | map
  | tag
  deriving DecidableEq, Repr

/-- The three bits of a kind of item. -/
def Major.code : Major → Nat
  | unsigned => 0
  | bytes => 2
  | text => 3
  | array => 4
  | map => 5
  | tag => 6

/-- The lowest `w` bytes of a number, highest first. -/
def bigEndian : (w n : Nat) → List UInt8
  | 0, _ => []
  | w + 1, n => (n >>> (8 * w)).toUInt8 :: bigEndian w n

/-- The head of an item. -/
def head (major : Major) (n : Nat) : List UInt8 :=
  let top := 32 * major.code
  if n < 24 then [(top + n).toUInt8]
  else if n < UInt8.size then (top + 24).toUInt8 :: bigEndian 1 n
  else if n < UInt16.size then (top + 25).toUInt8 :: bigEndian 2 n
  else if n < UInt32.size then (top + 26).toUInt8 :: bigEndian 4 n
  else (top + 27).toUInt8 :: bigEndian 8 n

/-- A byte string. -/
def bytes (content : List UInt8) : List UInt8 := head .bytes content.length ++ content

/-- A text. -/
def text (content : String) : List UInt8 :=
  let utf8 := content.toByteArray.data.toList
  head .text utf8.length ++ utf8

/-! ## Reading -/

/-- Reads a number of `w` bytes, highest first, and returns what follows it. -/
def readBigEndian? (w : Nat) (bytes : List UInt8) : Option (Nat × List UInt8) :=
  (Bytes.splitExactly? w bytes).map fun (front, rest) => (Radix.ofBytes front, rest)

/-- Reads the number of a head whose first byte ends in the bits `low`. -/
def readNumber? (low : Nat) (bytes : List UInt8) : Option (Nat × List UInt8) :=
  if low < 24 then some (low, bytes)
  else
    match low with
    | 24 => readBigEndian? 1 bytes
    | 25 => readBigEndian? 2 bytes
    | 26 => readBigEndian? 4 bytes
    | 27 => readBigEndian? 8 bytes
    | _ => none

/-- Reads the head of an item of one kind and returns its number and what follows. -/
def readHead? (major : Major) : List UInt8 → Option (Nat × List UInt8)
  | [] => none
  | b :: rest => if b.toNat / 32 = major.code then readNumber? (b.toNat % 32) rest else none

/-- Reads a byte string and returns what follows it. -/
def readBytes? (input : List UInt8) : Option (List UInt8 × List UInt8) := do
  let (n, rest) ← readHead? .bytes input
  Bytes.splitExactly? n rest

/-- Reads over what stands in front and returns what follows it. -/
def skip? (expected input : List UInt8) : Option (List UInt8) :=
  if expected.isPrefixOf input then some (input.drop expected.length) else none

end AddressedStorage.Cbor
