import AddressedStorage.Bytes.Radix

/-!
# Bytes/Base64 — bytes as padded URL-safe base-64 text

Six bits to a character in the URL-safe alphabet, filled up to a multiple of four characters with
`=`.  `decode` accepts exactly one spelling of each byte string: padding is required, and the bits
that fill the last character must be zero.

Texts are byte strings here, since a refusal names the byte it stopped at.
-/

namespace AddressedStorage.Base64

/-- The padding character. -/
def pad : UInt8 := 61

/-- The character of a digit below 64. -/
def symbol (d : Nat) : UInt8 :=
  if d < 26 then (65 + d).toUInt8
  else if d < 52 then (97 + (d - 26)).toUInt8
  else if d < 62 then (48 + (d - 52)).toUInt8
  else if d = 62 then 45
  else 95

/-- The value of a character, if it is in the alphabet. -/
def digit? (b : UInt8) : Option Nat :=
  if 65 ≤ b ∧ b ≤ 90 then some (b.toNat - 65)
  else if 97 ≤ b ∧ b ≤ 122 then some (b.toNat - 97 + 26)
  else if 48 ≤ b ∧ b ≤ 57 then some (b.toNat - 48 + 52)
  else if b = 45 then some 62
  else if b = 95 then some 63
  else none

/-- Why a text is not base 64. -/
inductive Error where
  | symbol (byte : UInt8) (offset : Nat)
  | length (n : Nat)
  | padding
  | lastSymbol (byte : UInt8) (offset : Nat)
  deriving DecidableEq, Repr

namespace Error

/-- The wording of a refusal. -/
def message : Error → String
  | symbol byte offset => s!"Invalid symbol {byte.toNat}, offset {offset}."
  | length n => s!"Invalid input length: {n}"
  | padding => "Invalid padding"
  | lastSymbol byte offset => s!"Invalid last symbol {byte.toNat}, offset {offset}."

end Error

/-- Reads digits only: padding is refused like any other foreign byte. -/
def readDigits (offset : Nat) : List UInt8 → Except Error (List Nat)
  | [] => .ok []
  | b :: rest =>
    match digit? b with
    | some d => (readDigits (offset + 1) rest).map (d :: ·)
    | none => .error (.symbol b offset)

/-- Reads the padding after digits: nothing else may follow the first `=`, which stands at
`offset`. -/
def readPadding (offset : Nat) : List UInt8 → Except Error Nat
  | [] => .ok 0
  | b :: rest => if b = pad then (readPadding offset rest).map (· + 1) else .error (.symbol pad offset)

/-- Reads the last group, of one to four bytes: digits, then padding, which may start at its third
byte at the earliest.  `read` counts the digits seen so far. -/
def readGroup (offset read : Nat) : List UInt8 → Except Error (List Nat × Nat)
  | [] => .ok ([], 0)
  | b :: rest =>
    if b = pad then
      if read < 2 then .error (.symbol b offset)
      else (readPadding offset (b :: rest)).map fun n => ([], n)
    else
      match digit? b with
      | some d => (readGroup (offset + 1) (read + 1) rest).map fun (ds, n) => (d :: ds, n)
      | none => .error (.symbol b offset)

/-- The length of the last group: what a multiple of four leaves, and four if that is nothing. -/
def groupLength (n : Nat) : Nat := if n % 4 = 0 then min 4 n else n % 4

/-- A single foreign byte after whole groups, such as a line end, is reported before all else. -/
def strayByte? (text : List UInt8) : Option Error :=
  match text.getLast? with
  | some b =>
    if text.length % 4 = 1 ∧ b ≠ pad ∧ digit? b = none then some (.symbol b (text.length - 1)) else none
  | none => none

/-- The bytes a text stands for. -/
def decode (text : List UInt8) : Except Error (List UInt8) := do
  if let some e := strayByte? text then
    throw e
  let start := text.length - groupLength text.length
  let front ← readDigits 0 (text.take start)
  let last := text.drop start
  let (ds, pads) ← readGroup start 0 last
  if last ≠ [] ∧ ds.length < 2 then
    throw (.length (start + ds.length))
  if (ds.length + pads) % 4 ≠ 0 then
    throw .padding
  let (bytes, spare) := Radix.bytesOfBits 6 (front ++ ds)
  if spare ≠ 0 then
    throw (.lastSymbol (last.getD (ds.length - 1) 0) (start + ds.length - 1))
  return bytes

/-- The text of a byte string. -/
def encode (bytes : List UInt8) : List UInt8 :=
  let ds := Radix.bitsOfBytes 6 bytes
  ds.map symbol ++ List.replicate ((4 - ds.length % 4) % 4) pad

/-- The text of a byte string, as a string. -/
def encodeString (bytes : List UInt8) : String :=
  String.ofList ((encode bytes).map fun b => Char.ofNat b.toNat)

end AddressedStorage.Base64
