import AddressedStorage.Bytes.Hex

/-!
# Text/Numeral — reading unsigned 64-bit numbers

A numeral is digits of one base behind an optional plus sign.  It is read left to right; the first
character that is no digit, or that takes the value past 64 bits, ends the reading.
-/

namespace AddressedStorage.Numeral

/-- Why a text is no 64-bit number. -/
inductive Error where
  | empty
  | invalidDigit
  | tooLarge
  deriving DecidableEq, Repr

namespace Error

/-- The wording of a refusal. -/
def message : Error → String
  | empty => "cannot parse integer from empty string"
  | invalidDigit => "invalid digit found in string"
  | tooLarge => "number too large to fit in target type"

end Error

/-- The value of a character as a digit of base `b`, which is at most sixteen. -/
def digit? (b : Nat) (c : Char) : Option Nat := (Hex.digit? c).filter (· < b)

/-- Reads digits onto `n`. -/
def readDigits (b n : Nat) : List Char → Except Error Nat
  | [] => .ok n
  | c :: rest =>
    match digit? b c with
    | none => .error .invalidDigit
    | some d => if n * b + d < UInt64.size then readDigits b (n * b + d) rest else .error .tooLarge

/-- The digits of a numeral: its text without a leading plus sign. -/
def unsigned : List Char → List Char
  | '+' :: rest => rest
  | text => text

/-- The number a text names in base `b`.  A lone sign is a bad digit. -/
def read (b : Nat) (text : List Char) : Except Error UInt64 :=
  if text = [] then .error .empty
  else if unsigned text = [] then .error .invalidDigit
  else (readDigits b 0 (unsigned text)).map Nat.toUInt64

end AddressedStorage.Numeral
