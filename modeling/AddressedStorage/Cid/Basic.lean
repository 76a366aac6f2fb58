import AddressedStorage.Digest.Basic
import AddressedStorage.FormatError

/-!
# Cid/Basic — content identifiers

A `Cid` names a block by the digest of its bytes.  Version 0 is the bare digest of a DAG-PB node;
version 1 says what the block is.  The two versions of one DAG-PB block are different values, and
`toV0` brings them together.
-/

namespace AddressedStorage

/-- A content identifier. -/
inductive Cid where
  | v0 (digest : Digest)
  | v1 (codec : Codec) (digest : Digest)
  deriving DecidableEq, Inhabited

namespace Cid

/-- The multihash code of SHA-256. -/
def hashCode : UInt64 := 0x12

/-- The version-1 identifier with a registered content code. -/
def ofCode (code : UInt64) (digest : Digest) : Except FormatError Cid :=
  match Codec.ofCode? code with
  | some c => .ok (v1 c digest)
  | none => .error (.codec code)

/-- The version number. -/
def version : Cid → Nat
  | v0 _ => 0
  | v1 _ _ => 1

/-- What the named block is. -/
def codec : Cid → Codec
  | v0 _ => .dagPb
  | v1 c _ => c

/-- The digest of the named block. -/
def digest : Cid → Digest
  | v0 d => d
  | v1 _ d => d

/-- The version-0 form, which only DAG-PB blocks have. -/
def toV0 : Cid → Except FormatError Cid
  | v0 d => .ok (v0 d)
  | v1 .dagPb d => .ok (v0 d)
  | v1 c _ => .error (.noV0Form c)

/-- The version-1 form. -/
def toV1 (c : Cid) : Cid := v1 c.codec c.digest

/-- The version-0 form where there is one, and the identifier itself where there is none: two
identifiers of one DAG-PB block have the same normal form. -/
def normal (c : Cid) : Cid :=
  match c.toV0 with
  | .ok v => v
  | .error _ => c

/-- Whether there is a version-0 form. -/
def HasV0 (c : Cid) : Prop := c.codec = .dagPb

instance (c : Cid) : Decidable c.HasV0 := inferInstanceAs (Decidable (c.codec = .dagPb))

/-- **Exactly the DAG-PB identifiers have a version-0 form**, and it keeps the digest. -/
theorem toV0_eq_ok_iff {c d : Cid} : c.toV0 = .ok d ↔ c.HasV0 ∧ d = v0 c.digest := by
  rcases c with _ | ⟨_ | _ | _, _⟩ <;>
    simp [toV0, HasV0, codec, digest, eq_comm]

theorem toV0_of_hasV0 {c : Cid} (h : c.HasV0) : c.toV0 = .ok (.v0 c.digest) :=
  toV0_eq_ok_iff.mpr ⟨h, rfl⟩

theorem toV0_of_not_hasV0 {c : Cid} (h : ¬ c.HasV0) :
    c.toV0 = .error (.noV0Form c.codec) := by
  rcases c with digest | ⟨_ | _ | _, digest⟩
  · exact absurd rfl h
  all_goals first | rfl | exact absurd rfl h

/-- What identifiers are ordered by: version, then codec, then digest. -/
def sortKey (c : Cid) : List Nat :=
  c.version :: c.codec.code.toNat :: c.digest.toList.map UInt8.toNat

instance : Ord Cid where
  compare a b := compare a.sortKey b.sortKey

end Cid

end AddressedStorage
