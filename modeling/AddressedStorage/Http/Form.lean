import AddressedStorage.Http.Percent
import AddressedStorage.Text.Pieces

/-!
# Http/Form — names and values in a query

Pairs are joined by `&`, name and value by `=`.  In both a space is written `+`, and all but letters,
digits and `*-._` is percent-encoded, so that none of the joining characters occurs in them.
-/

namespace AddressedStorage.Form

/-- What stands for itself in a name or a value. -/
def isPlain (b : UInt8) : Bool :=
  (0x30 ≤ b && b ≤ 0x39) || (0x41 ≤ b && b ≤ 0x5A) || (0x61 ≤ b && b ≤ 0x7A) ||
    b == '*'.toUInt8 || b == '-'.toUInt8 || b == '.'.toUInt8 || b == '_'.toUInt8

/-- How one byte is written. -/
def encodeByte (b : UInt8) : List Char :=
  if b = ' '.toUInt8 then ['+'] else Percent.encodeByte isPlain b

/-- A name or a value. -/
def encodeText (text : String) : List Char := (Percent.utf8 text.toList).flatMap encodeByte

/-- A name and its value. -/
abbrev Pair := String × String

/-- One pair. -/
def encodePair (p : Pair) : List Char := encodeText p.1 ++ '=' :: encodeText p.2

/-- Pairs in their order. -/
def encode : List Pair → List Char
  | [] => []
  | [p] => encodePair p
  | p :: rest => encodePair p ++ '&' :: encode rest

/-- A query with more pairs behind it. -/
def extend (query : List Char) (pairs : List Pair) : List Char :=
  if query = [] ∨ pairs = [] then query ++ encode pairs else query ++ '&' :: encode pairs

/-! ## Reading -/

/-- The bytes an encoded name or value stands for. -/
def decodeBytes (text : List Char) : List UInt8 :=
  Percent.decode ((Percent.utf8 text).map fun b => if b = '+'.toUInt8 then ' '.toUInt8 else b)

/-- The text an encoded name or value stands for, if its bytes make one. -/
def decodeText? (text : List Char) : Option String := String.fromUTF8? (decodeBytes text).toByteArray

/-- A pair, cut at the first `=`. -/
def decodePair? (text : List Char) : Option Pair := do
  let name ← decodeText? (text.takeWhile (· ≠ '='))
  let value ← decodeText? ((text.dropWhile (· ≠ '=')).drop 1)
  return (name, value)

/-- The pairs of a query.  Empty pieces name none. -/
def decode? (query : List Char) : Option (List Pair) :=
  ((pieces (· == '&') query).filter (· ≠ [])).mapM decodePair?

end AddressedStorage.Form
