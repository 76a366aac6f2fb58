import AddressedStorage.Bytes.Radix
import AddressedStorage.Text.Quoted

/-!
# Bytes/Base58 — bytes as base-58 text

The bytes are one big number written in base 58, with an alphabet that leaves out `0`, `O`, `I` and
`l`.  A leading zero byte adds nothing to the number, so each is written as one `1` in front.
-/

namespace AddressedStorage.Base58

/-- The digits in order of value. -/
def alphabet : List Char :=
  ['1', '2', '3', '4', '5', '6', '7', '8', '9',
   'A', 'B', 'C', 'D', 'E', 'F', 'G', 'H', 'J', 'K', 'L', 'M', 'N',
   'P', 'Q', 'R', 'S', 'T', 'U', 'V', 'W', 'X', 'Y', 'Z',
   'a', 'b', 'c', 'd', 'e', 'f', 'g', 'h', 'i', 'j', 'k',
   'm', 'n', 'o', 'p', 'q', 'r', 's', 't', 'u', 'v', 'w', 'x', 'y', 'z']

/-- The character of a digit below 58. -/
def symbol (d : Nat) : Char := alphabet.getD d '1'

/-- The value of a character, if it is in the alphabet. -/
def digit? (c : Char) : Option Nat := alphabet.idxOf? c

/-- Why a text is not base 58.  The offset counts characters; all before it are ASCII, so it counts
bytes as well. -/
inductive Error where
  | invalidCharacter (c : Char) (offset : Nat)
  | nonAscii (offset : Nat)
  deriving DecidableEq, Repr

namespace Error

/-- The wording of a refusal. -/
def message : Error → String
  | invalidCharacter c offset =>
    s!"provided string contained invalid character {Quoted.encodeChar c} at byte {offset}"
  | nonAscii offset =>
    s!"provided string contained non-ascii character starting at byte {offset}"

end Error

/-- Reads the digits, refusing the first character outside the alphabet. -/
def readDigits (offset : Nat) : List Char → Except Error (List Nat)
  | [] => .ok []
  | c :: rest =>
    match digit? c with
    | some d => (readDigits (offset + 1) rest).map (d :: ·)
    | none =>
      if c.toNat < 128 then .error (.invalidCharacter c offset) else .error (.nonAscii offset)

/-- The bytes a text stands for: one zero byte for each leading `1`, then the number. -/
def decode (text : List Char) : Except Error (List UInt8) :=
  (readDigits 0 text).map fun ds =>
    List.replicate (text.takeWhile (· = '1')).length 0 ++ Radix.toBytes (Radix.value 58 ds)

/-- The text of a byte string. -/
def encode (bytes : List UInt8) : List Char :=
  List.replicate (bytes.takeWhile (· = 0)).length '1' ++
    (Radix.digits 58 (Radix.ofBytes bytes)).map symbol

end AddressedStorage.Base58
