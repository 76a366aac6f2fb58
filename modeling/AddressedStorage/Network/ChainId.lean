import AddressedStorage.FormatError
import AddressedStorage.Text.Blank

/-!
# Network/ChainId — which chain a node serves

A chain id is a 64-bit number.  Execution nodes write it as a hexadecimal quantity, beacon nodes in
decimal; both notations are read to the exact value or refused.
-/

namespace AddressedStorage

/-- The number of a chain. -/
structure ChainId where
  value : UInt64
  deriving DecidableEq, Repr, Inhabited

namespace ChainId

instance : ToString ChainId := ⟨fun id => ToString.toString id.value.toNat⟩

/-- Reads a numeral, keeping the whole text for the refusal. -/
def readNumeral (text : String) (base : Nat) (digits : List Char) : Except FormatError ChainId :=
  match Numeral.read base digits with
  | .ok n => .ok ⟨n⟩
  | .error cause => .error (.number text cause)

/-- Reads a hexadecimal quantity: `0x` or `0X`, then a numeral in base sixteen. -/
def ofHexQuantity (text : String) : Except FormatError ChainId :=
  match text.toList with
  | '0' :: x :: digits =>
    if x = 'x' ∨ x = 'X' then
      if digits = [] then .error (.noDigits text) else readNumeral text 16 digits
    else .error (.missingHexPrefix text)
  | _ => .error (.missingHexPrefix text)

/-- Reads a decimal numeral with blanks around it. -/
def ofDecimal (text : String) : Except FormatError ChainId :=
  readNumeral text 10 (trimBlanks text.toList)

end ChainId

end AddressedStorage
