import AddressedStorage.Cid.Binary

/-!
# Cid/Text — identifiers as text

Version 0 is written as base 58 of its bytes, 46 characters that start with `Qm`.  Version 1 is
written in a base that its first character names: `b` is base 32, and on reading `B` is base 32 in
upper case and `z` is base 58.
-/

namespace AddressedStorage.Cid

/-- The length of a version-0 text. -/
def v0TextLength : Nat := 46

/-- The canonical text of an identifier. -/
def toString : Cid → String
  | v0 d => String.ofList (Base58.encode (v0 d).toBytes)
  | v1 c d => String.ofList ('b' :: (Base32.encode (v1 c d).toBytes).map Char.toLower)

instance : ToString Cid := ⟨Cid.toString⟩

/-- Whether a text has the shape of a version-0 identifier.  It need not decode. -/
def isV0Text (text : String) : Bool :=
  match text.toList with
  | 'Q' :: 'm' :: _ => text.utf8ByteSize == v0TextLength
  | _ => false

/-- Reads a base-58 text. -/
def readBase58 (text : List Char) : Except FormatError (List UInt8) :=
  (Base58.decode text).mapError .base58

/-- Reads a base-32 text. -/
def readBase32 (text : List Char) : Except FormatError (List UInt8) :=
  (Base32.decode text).mapError .base32

/-- The bytes behind a multibase character. -/
def readMultibase : List Char → Except FormatError (List UInt8)
  | [] => .error .emptyIdentifier
  | 'b' :: rest => readBase32 (rest.map Char.toUpper)
  | 'B' :: rest => readBase32 rest
  | 'z' :: rest => readBase58 rest
  | c :: _ => .error (.multibase c)

/-- The identifier a text names.  A bare multihash is only read without a multibase character. -/
def parse (text : String) : Except FormatError Cid := do
  match text.toList with
  | 'Q' :: 'm' :: _ =>
    if text.utf8ByteSize ≠ v0TextLength then
      throw (.v0Length text.utf8ByteSize)
    ofBytes (← readBase58 text.toList)
  | chars =>
    match ← ofBytes (← readMultibase chars) with
    | v0 _ => throw .prefixedV0
    | c => return c

end AddressedStorage.Cid
