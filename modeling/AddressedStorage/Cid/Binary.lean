import AddressedStorage.Bytes.Cut
import AddressedStorage.Bytes.Varint
import AddressedStorage.Cid.Basic

/-!
# Cid/Binary — identifiers as bytes

A multihash is the hash function, the digest length and the digest.  Version 0 is the bare
multihash; version 1 puts the version and the codec in front.  All fields but the digest are
varints, so a bare multihash is told from version 1 by its length and its first two bytes.
-/

namespace AddressedStorage.Cid

/-- The hash function, the digest length and the digest. -/
def multihash (c : Cid) : List UInt8 :=
  Varint.encode hashCode.toNat ++ Varint.encode Digest.length ++ c.digest.toList

/-- The binary form. -/
def toBytes : Cid → List UInt8
  | v0 d => (v0 d).multihash
  | v1 c d => Varint.encode 1 ++ Varint.encode c.code.toNat ++ (v1 c d).multihash

/-- Reads one varint field. -/
def readField (bytes : List UInt8) : Except FormatError (UInt64 × List UInt8) :=
  match Varint.decode? bytes with
  | some r => .ok r
  | none => .error .varint

/-- Reads a digest and nothing after it. -/
def readDigest (bytes : List UInt8) : Except FormatError Digest :=
  match Digest.ofList? bytes with
  | some d => .ok d
  | none => .error (.digestSize bytes.length)

/-- Reads a multihash and nothing after it. -/
def readMultihash (bytes : List UInt8) : Except FormatError Digest := do
  let (function, rest) ← readField bytes
  if function ≠ hashCode then
    throw (.hashFunction function)
  let (length, rest) ← readField rest
  if length ≠ 32 then
    throw (.digestLength length)
  readDigest rest

/-- The digest of a bare multihash, if the bytes have its length and its first two bytes. -/
def bareMultihash? : List UInt8 → Option Digest
  | 0x12 :: 0x20 :: rest => Digest.ofList? rest
  | _ => none

/-- Reads the fields of a version-1 identifier. -/
def readVersioned (bytes : List UInt8) : Except FormatError Cid := do
  let (number, rest) ← readField bytes
  if number ≠ 1 then
    throw (if number = hashCode then .multihashSize bytes.length else .version number)
  let (code, rest) ← readField rest
  match Codec.ofCode? code with
  | none => throw (.codec code)
  | some codec => return v1 codec (← readMultihash rest)

/-- The identifier with a binary form: a bare multihash is version 0, all else must be version 1. -/
def ofBytes (bytes : List UInt8) : Except FormatError Cid :=
  match bareMultihash? bytes with
  | some d => .ok (v0 d)
  | none => readVersioned bytes

/-! ## Identifiers in front of other bytes -/

/-- Reads a digest and returns what follows it. -/
def digestFront? (bytes : List UInt8) : Option (Digest × List UInt8) := do
  let (front, rest) ← Bytes.splitExactly? Digest.length bytes
  return (← Digest.ofList? front, rest)

/-- Reads a varint that must have a certain value and returns what follows it. -/
def expectField? (expected : UInt64) (bytes : List UInt8) : Option (List UInt8) := do
  let (n, rest) ← Varint.decode? bytes
  if n = expected then some rest else none

/-- Reads a version-1 identifier and returns what follows it. -/
def versionedFront? (bytes : List UInt8) : Option (Cid × List UInt8) := do
  let (code, rest) ← Varint.decode? (← expectField? 1 bytes)
  let codec ← Codec.ofCode? code
  let (digest, rest) ← digestFront? (← expectField? 32 (← expectField? hashCode rest))
  return (v1 codec digest, rest)

/-- Reads an identifier and returns what follows it.  Both versions tell where they end. -/
def front? : List UInt8 → Option (Cid × List UInt8)
  | 0x12 :: 0x20 :: rest => (digestFront? rest).map fun (d, rest) => (v0 d, rest)
  | bytes => versionedFront? bytes

end AddressedStorage.Cid
