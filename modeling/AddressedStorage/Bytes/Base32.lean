import AddressedStorage.Bytes.Radix

/-!
# Bytes/Base32 — bytes as unpadded base-32 text

Five bits to a character, upper-case letters and then the digits two to seven.  The last character
is filled up with zero bits and nothing is padded, so a text of length one, three or six modulo
eight cannot end on a byte.
-/

namespace AddressedStorage.Base32

/-- The character of a digit below 32. -/
def symbol (d : Nat) : Char :=
  if d < 26 then Char.ofNat ('A'.toNat + d) else Char.ofNat ('2'.toNat + (d - 26))

/-- The value of a character, if it is in the alphabet. -/
def digit? (c : Char) : Option Nat :=
  if 'A' ≤ c ∧ c ≤ 'Z' then some (c.toNat - 'A'.toNat)
  else if '2' ≤ c ∧ c ≤ '7' then some (c.toNat - '2'.toNat + 26)
  else none

/-- Why a text is not base 32. -/
inductive Error where
  /-- No number of bytes has a text of this length. -/
  | length (offset : Nat)
  /-- A character outside the alphabet. -/
  | symbol (offset : Nat)
  /-- The bits that fill the last character are not all zero. -/
  | trailingBits (offset : Nat)
  deriving DecidableEq, Repr

namespace Error

/-- The wording of a refusal. -/
def message : Error → String
  | length offset => s!"invalid length at {offset}"
  | symbol offset => s!"invalid symbol at {offset}"
  | trailingBits offset => s!"non-zero trailing bits at {offset}"

end Error

/-- Reads the digits, refusing the first character outside the alphabet. -/
def readDigits (offset : Nat) : List Char → Except Error (List Nat)
  | [] => .ok []
  | c :: rest =>
    match digit? c with
    | some d => (readDigits (offset + 1) rest).map (d :: ·)
    | none => .error (.symbol offset)

/-- The length of a text in bytes. -/
def byteLength : List Char → Nat
  | [] => 0
  | c :: rest => c.utf8Size + byteLength rest

/-- The bytes a text stands for.  Its length is judged first, then each character, then the bits
that are left over. -/
def decode (text : List Char) : Except Error (List UInt8) := do
  let n := byteLength text
  if n % 8 = 1 ∨ n % 8 = 3 ∨ n % 8 = 6 then
    throw (.length (n - 1))
  let ds ← readDigits 0 text
  let (bytes, spare) := Radix.bytesOfBits 5 ds
  if spare ≠ 0 then
    throw (.trailingBits (n - 1))
  return bytes

/-- The text of a byte string. -/
def encode (bytes : List UInt8) : List Char := (Radix.bitsOfBytes 5 bytes).map symbol

end AddressedStorage.Base32
