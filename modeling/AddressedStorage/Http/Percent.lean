import AddressedStorage.Bytes.Hex

/-!
# Http/Percent — percent-encoding

A byte that may not stand for itself is written as `%` and two upper-case hexadecimal digits.  Which
bytes may depends on the place; no place keeps controls and bytes beyond ASCII.
-/

namespace AddressedStorage.Percent

/-- An upper-case digit below sixteen. -/
def symbol (d : Nat) : Char := (Hex.symbol d).toUpper

/-- A byte as percent sign and two digits. -/
def escape (b : UInt8) : List Char := ['%', symbol (b.toNat / 16), symbol (b.toNat % 16)]

/-- A byte as itself if it is kept, and escaped otherwise. -/
def encodeByte (keeps : UInt8 → Bool) (b : UInt8) : List Char :=
  if keeps b then [Char.ofNat b.toNat] else escape b

/-- Bytes with all but the kept ones escaped. -/
def encodeBytes (keeps : UInt8 → Bool) (bytes : List UInt8) : List Char :=
  bytes.flatMap (encodeByte keeps)

/-- The bytes of a text. -/
def utf8 (text : List Char) : List UInt8 := (String.ofList text).toByteArray.data.toList

/-- A text with all but the kept bytes escaped. -/
def encode (keeps : UInt8 → Bool) (text : List Char) : List Char :=
  encodeBytes keeps (utf8 text)

/-- The byte that three bytes escape, if they do. -/
def escaped? (mark high low : UInt8) : Option UInt8 :=
  if mark = '%'.toUInt8 then do
    let h ← Hex.digit? (Char.ofNat high.toNat)
    let l ← Hex.digit? (Char.ofNat low.toNat)
    return (16 * h + l).toUInt8
  else none

/-- Resolves escapes.  A percent sign without two digits stands for itself. -/
def decode : List UInt8 → List UInt8
  | b :: h :: l :: rest =>
    match escaped? b h l with
    | some v => v :: decode rest
    | none => b :: decode (h :: l :: rest)
  | bytes => bytes

/-! ## What is kept where -/

/-- A printable ASCII byte, the space included. -/
def isPrintable (b : UInt8) : Bool := 0x20 ≤ b && b < 0x7F

/-- A printable byte other than the reserved ones. -/
def isPrintableBut (reserved : String) (b : UInt8) : Bool :=
  isPrintable b && !reserved.toList.any fun c => c.toUInt8 == b

/-- What a fragment keeps. -/
def inFragment : UInt8 → Bool := isPrintableBut " \"<>`"

/-- What a query keeps. -/
def inQuery : UInt8 → Bool := isPrintableBut " \"#<>"

/-- What the query of a web address keeps. -/
def inSpecialQuery : UInt8 → Bool := isPrintableBut " \"#<>'"

/-- What a path keeps. -/
def inPath : UInt8 → Bool := isPrintableBut " \"#<>?`\x7b\x7d"

/-- What a user name or a password keeps. -/
def inUserInfo : UInt8 → Bool := isPrintableBut " \"#<>?^`\x7b\x7d/:;=@[\\]|"

end AddressedStorage.Percent
