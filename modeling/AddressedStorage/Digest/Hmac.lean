import AddressedStorage.Digest.Basic

/-!
# Digest/Hmac — keyed digests

HMAC over any hash function that works in 64-byte blocks.  A key longer than a block is replaced by
its digest.
-/

namespace AddressedStorage.Hmac

/-- The length of a block. -/
def blockSize : Nat := 64

/-- The key filled up with zeros to one block. -/
def blockKey (hash : HashFunction) (key : List UInt8) : List UInt8 :=
  let short := if key.length ≤ blockSize then key else (hash key.toByteArray).toList
  short ++ List.replicate (blockSize - short.length) 0

/-- The keyed digest of a message. -/
def digest (hash : HashFunction) (key : List UInt8) (message : ByteArray) : Digest :=
  let k := blockKey hash key
  let inner := hash ((k.map (· ^^^ 0x36)).toByteArray ++ message)
  hash ((k.map (· ^^^ 0x5c)).toByteArray ++ inner.bytes)

end AddressedStorage.Hmac
