import AddressedStorage.Bytes.Equality

/-!
# Digest/Basic — 32-byte digests

A `Digest` is what a hash function with 32-byte output returns.  Content addressing needs no more of
a hash function than its type, so `HashFunction` is a parameter wherever blocks are named.
-/

namespace AddressedStorage

/-- A byte string of length 32. -/
structure Digest where
  bytes : ByteArray
  size_bytes : bytes.size = 32
  deriving DecidableEq

/-- A function that names byte strings by digests. -/
abbrev HashFunction := ByteArray → Digest

namespace Digest

/-- The length of every digest. -/
def length : Nat := 32

/-- The bytes as a list. -/
def toList (d : Digest) : List UInt8 := d.bytes.data.toList

/-- The digest with the given bytes, if they are 32. -/
def ofList? (bytes : List UInt8) : Option Digest :=
  if h : bytes.length = 32 then some ⟨bytes.toByteArray, by simpa using h⟩ else none

@[simp] theorem length_toList (d : Digest) : d.toList.length = 32 := by
  simpa [toList] using d.size_bytes

/-- A digest is read back from its bytes. -/
@[simp] theorem ofList?_toList (d : Digest) : ofList? d.toList = some d := by
  simp only [ofList?, length_toList, dif_pos]
  congr
  exact ByteArray.ext (by simp [toList])

/-- **Exactly the 32-byte strings are digests.** -/
theorem ofList?_eq_some_iff {bytes : List UInt8} {d : Digest} :
    ofList? bytes = some d ↔ d.toList = bytes := by
  constructor
  · intro h
    simp only [ofList?] at h
    split at h
    · cases h
      simp [toList]
    · simp at h
  · rintro rfl
    simp

/-- The all-zero digest. -/
def zero : Digest := ⟨(List.replicate 32 0).toByteArray, by simp⟩

instance : Inhabited Digest := ⟨zero⟩

end Digest

end AddressedStorage
