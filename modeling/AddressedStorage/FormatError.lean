import AddressedStorage.Bytes.Base32
import AddressedStorage.Bytes.Base58
import AddressedStorage.Bytes.Hex
import AddressedStorage.Cid.Codec
import AddressedStorage.Text.Numeral
import AddressedStorage.Text.Quoted

/-!
# FormatError — why an identifier or a quantity is refused

One constructor for each cause.  `FormatError.kind` sorts the causes into the three kinds callers
tell apart, and `FormatError.message` is the one place that words them.
-/

namespace AddressedStorage

/-- What callers tell apart about a refused text. -/
inductive FormatError.Kind where
  /-- The identifier could not be decoded at all. -/
  | malformedIdentifier
  /-- The identifier decodes, but to something this library does not speak. -/
  | unsupportedEncoding
  /-- The text names no quantity. -/
  | invalidQuantity
  deriving DecidableEq, Repr

/-- Why an identifier or a quantity is refused. -/
inductive FormatError where
  | emptyIdentifier
  /-- An unprefixed identifier of the wrong length in bytes. -/
  | v0Length (length : Nat)
  | base58 (cause : Base58.Error)
  | base32 (cause : Base32.Error)
  /-- A number field that is cut off or too long. -/
  | varint
  /-- A bare multihash that is not 34 bytes. -/
  | multihashSize (size : Nat)
  /-- A multihash that announces another digest length. -/
  | digestLength (length : UInt64)
  /-- A digest of another length than announced. -/
  | digestSize (size : Nat)
  /-- A bare multihash behind a multibase character. -/
  | prefixedV0
  | multibase (first : Char)
  | version (number : UInt64)
  | codec (code : UInt64)
  | hashFunction (code : UInt64)
  /-- Only DAG-PB blocks have a version-0 identifier. -/
  | noV0Form (codec : Codec)
  | missingHexPrefix (text : String)
  | noDigits (text : String)
  | number (text : String) (cause : Numeral.Error)
  /-- A refusal worded by someone else. -/
  | reported (kind : FormatError.Kind) (reason : String)
  deriving DecidableEq, Repr

namespace FormatError

/-- How each kind opens its message. -/
def Kind.label : Kind → String
  | malformedIdentifier => "malformed identifier"
  | unsupportedEncoding => "unsupported encoding"
  | invalidQuantity => "invalid quantity"

/-- The kind of a cause. -/
def kind : FormatError → Kind
  | emptyIdentifier | v0Length _ | base58 _ | base32 _ | varint | multihashSize _
  | digestLength _ | digestSize _ | prefixedV0 => .malformedIdentifier
  | multibase _ | version _ | codec _ | hashFunction _ | noV0Form _ => .unsupportedEncoding
  | missingHexPrefix _ | noDigits _ | number _ _ => .invalidQuantity
  | reported k _ => k

/-- The cause in words. -/
def reason : FormatError → String
  | emptyIdentifier => "empty string"
  | v0Length length => s!"CIDv0 must be 46 characters, got {length}"
  | base58 cause => cause.message
  | base32 cause => cause.message
  | varint => "failed to decode Protobuf message: invalid varint"
  | multihashSize size => s!"truncated or oversized multihash ({size} bytes)"
  | digestLength length => s!"sha2-256 digest length {length.toNat}"
  | digestSize size => s!"expected 32 digest bytes, got {size}"
  | prefixedV0 => "multibase-prefixed CIDv0"
  | multibase first => s!"multibase prefix '{first}'"
  | version v => s!"CID version {v.toNat}"
  | codec code => "multicodec 0x" ++ Hex.ofNat code.toNat
  | hashFunction code => "multihash function 0x" ++ Hex.ofNat code.toNat
  | noV0Form c => "codec 0x" ++ Hex.ofNat c.code.toNat ++ " has no CIDv0 form"
  | missingHexPrefix text => "missing 0x prefix: " ++ Quoted.encode text
  | noDigits text => "no digits: " ++ Quoted.encode text
  | number text cause => Quoted.encode text ++ ": " ++ cause.message
  | reported _ reason => reason

/-- The kind, then the cause. -/
def message (e : FormatError) : String := e.kind.label ++ ": " ++ e.reason

end FormatError

end AddressedStorage
