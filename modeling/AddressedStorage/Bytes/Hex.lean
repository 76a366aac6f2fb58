import AddressedStorage.Bytes.Radix

/-!
# Bytes/Hex — hexadecimal text

Lower-case digits, two to a byte; `ofNat` writes a number with no leading zero.
-/

namespace AddressedStorage.Hex

/-- The lower-case digit of a number below sixteen. -/
def symbol (d : Nat) : Char := Nat.digitChar d

/-- The value of a digit in either case. -/
def digit? (c : Char) : Option Nat :=
  if '0' ≤ c ∧ c ≤ '9' then some (c.toNat - '0'.toNat)
  else if 'a' ≤ c ∧ c ≤ 'f' then some (c.toNat - 'a'.toNat + 10)
  else if 'A' ≤ c ∧ c ≤ 'F' then some (c.toNat - 'A'.toNat + 10)
  else none

/-- Two digits for each byte. -/
def encode (bytes : List UInt8) : String :=
  String.ofList (bytes.flatMap fun b => [symbol (b.toNat / 16), symbol (b.toNat % 16)])

/-- A number in hexadecimal, zero as one digit. -/
def ofNat (n : Nat) : String := String.ofList (Nat.toDigits 16 n)

/-- Reads pairs of digits back as bytes. -/
def decode? : List Char → Option (List UInt8)
  | [] => some []
  | [_] => none
  | hi :: lo :: rest => do
    let h ← digit? hi
    let l ← digit? lo
    return (16 * h + l).toUInt8 :: (← decode? rest)

end AddressedStorage.Hex
