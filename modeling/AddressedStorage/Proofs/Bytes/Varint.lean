import AddressedStorage.Bytes.Varint
import Mathlib.Algebra.Group.Nat.Defs

/-!
# Proofs/Bytes/Varint — varints are read back

`decodeWithin_encode` is the one induction: a written number is read back from in front of any other
bytes, as long as it may take the bytes it takes.  Ten bytes are enough for 64 bits
(`length_le_maxBytes`), so every number a message can hold is read back.

A number has other written forms besides the shortest one, which end in groups of zero bits.  A reader
takes all of them (`decode?_eq_some_iff`).
-/

namespace AddressedStorage.Varint

/-- A small number is the value of its byte. -/
theorem toNat_toUInt8 {n : Nat} (h : n < 256) : n.toUInt8.toNat = n := by
  simp [Nat.toUInt8, Nat.mod_eq_of_lt h]

/-- `k` groups of seven bits hold every number below `128 ^ k`. -/
theorem length_le_of_lt : ∀ {k n : Nat}, n < 128 ^ (k + 1) → length n ≤ k + 1
  | 0, n, h => by
    have hone : length n = 1 := by rw [length, if_pos (by simpa using h)]
    exact Nat.le_of_eq hone
  | k + 1, n, h => by
    rw [length]
    split
    · omega
    · have hdiv : n / 128 < 128 ^ (k + 1) :=
        Nat.div_lt_of_lt_mul (by rwa [Nat.pow_succ, Nat.mul_comm] at h)
      have := length_le_of_lt hdiv
      omega

/-- A number of 64 bits takes at most ten bytes. -/
theorem length_le_maxBytes {n : Nat} (h : n < UInt64.size) : length n ≤ maxBytes :=
  length_le_of_lt (Nat.lt_trans h (by decide))

/-- **A number is read back from its bytes**, whatever follows them. -/
theorem decodeWithin_encode {n k : Nat} (h : length n ≤ k) (rest : List UInt8) :
    decodeWithin k (encode n ++ rest) = some (n, rest) := by
  induction n using Nat.strongRecOn generalizing k with
  | ind n ih =>
    rw [length] at h
    rw [encode]
    obtain ⟨k, rfl⟩ : ∃ j, k = j + 1 := ⟨k - 1, by split at h <;> omega⟩
    split at h
    · rename_i hlow
      rw [if_pos hlow, List.cons_append, List.nil_append, decodeWithin,
        toNat_toUInt8 (by omega), if_pos hlow]
    · rename_i hhigh
      rw [if_neg hhigh, List.cons_append, decodeWithin, toNat_toUInt8 (by omega),
        if_neg (by omega), ih (n / 128) (by omega) (by omega), Option.map_some]
      simp only [Option.some.injEq, Prod.mk.injEq, and_true]
      omega

/-- A number of 64 bits is read back from its bytes. -/
theorem decode?_encode {n : Nat} (h : n < UInt64.size) (rest : List UInt8) :
    decode? (encode n ++ rest) = some (n.toUInt64, rest) := by
  rw [decode?, decodeWithin_encode (length_le_maxBytes h)]
  exact if_pos h

@[simp] theorem decode?_encode_toNat (n : UInt64) (rest : List UInt8) :
    decode? (encode n.toNat ++ rest) = some (n, rest) := by
  rw [decode?_encode n.toNat_lt]
  simp

/-- A number of seven bits is its own byte. -/
theorem encode_of_lt {n : Nat} (h : n < 128) : encode n = [n.toUInt8] := by
  rw [encode, if_pos h]

/-- A number takes at least one byte. -/
theorem encode_ne_nil (n : Nat) : encode n ≠ [] := by
  rw [encode]
  split <;> simp

/-! ## Written forms -/

/-- Bytes that stand for a number: groups of seven bits, lowest first, under a high bit that is set in
every byte but the last. -/
inductive Spells : List UInt8 → Nat → Prop
  | last {b : UInt8} (h : b.toNat < 128) : Spells [b] b.toNat
  | more {b : UInt8} {bytes : List UInt8} {n : Nat} (h : 128 ≤ b.toNat) (hrest : Spells bytes n) :
      Spells (b :: bytes) (b.toNat - 128 + 128 * n)

/-- **What is read in front is a written form** of the number. -/
theorem spells_of_decodeWithin : ∀ {k : Nat} {bytes : List UInt8} {n : Nat} {rest : List UInt8},
    decodeWithin k bytes = some (n, rest) →
      ∃ front, bytes = front ++ rest ∧ Spells front n ∧ front.length ≤ k
  | 0, _, _, _, h => by cases h
  | _ + 1, [], _, _, h => by cases h
  | k + 1, b :: tail, n, rest, h => by
    rw [decodeWithin] at h
    split at h
    · rename_i hlow
      obtain ⟨rfl, rfl⟩ := Prod.mk.inj (Option.some.inj h)
      exact ⟨[b], rfl, .last hlow, Nat.succ_le_succ (Nat.zero_le k)⟩
    · rename_i hhigh
      obtain ⟨⟨m, r⟩, htail, heq⟩ := Option.map_eq_some_iff.mp h
      obtain ⟨rfl, rfl⟩ := Prod.mk.inj heq
      obtain ⟨front, rfl, hspells, hlength⟩ := spells_of_decodeWithin htail
      exact ⟨b :: front, rfl, .more (Nat.le_of_not_lt hhigh) hspells, Nat.succ_le_succ hlength⟩

/-- **Every written form is read**, if it may take the bytes it takes. -/
theorem Spells.decodeWithin {front : List UInt8} {n : Nat} (h : Spells front n) {k : Nat}
    (hk : front.length ≤ k) (rest : List UInt8) :
    Varint.decodeWithin k (front ++ rest) = some (n, rest) := by
  induction h generalizing k with
  | last hlow =>
    obtain ⟨k, rfl⟩ := Nat.exists_eq_succ_of_ne_zero (Nat.ne_of_gt hk)
    exact if_pos hlow
  | more hhigh _ ih =>
    obtain ⟨k, rfl⟩ := Nat.exists_eq_succ_of_ne_zero (Nat.ne_of_gt (Nat.zero_lt_of_lt hk))
    rw [List.cons_append, Varint.decodeWithin, if_neg (Nat.not_lt_of_le hhigh),
      ih (Nat.le_of_succ_le_succ hk)]
    rfl

/-- At most ten bytes that stand for a number of 64 bits, in its shortest form or not. -/
def IsField (bytes : List UInt8) (n : UInt64) : Prop :=
  Spells bytes n.toNat ∧ bytes.length ≤ maxBytes

/-- **Exactly the fields of a number are read as it.** -/
theorem decode?_eq_some_iff {bytes rest : List UInt8} {n : UInt64} :
    decode? bytes = some (n, rest) ↔ ∃ front, bytes = front ++ rest ∧ IsField front n := by
  constructor
  · intro h
    rw [decode?] at h
    split at h
    · rename_i m tail hread
      obtain ⟨hlt, heq⟩ := Option.ite_none_right_eq_some.mp h
      obtain ⟨rfl, rfl⟩ := Prod.mk.inj (Option.some.inj heq)
      obtain ⟨front, rfl, hspells, hlength⟩ := spells_of_decodeWithin hread
      have hvalue : m.toUInt64.toNat = m := UInt64.toNat_ofNat_of_lt' hlt
      exact ⟨front, rfl, hvalue.symm ▸ hspells, hlength⟩
    · cases h
  · rintro ⟨front, rfl, hspells, hlength⟩
    rw [decode?, hspells.decodeWithin hlength]
    simp [n.toNat_lt]

theorem IsField.decode? {front : List UInt8} {n : UInt64} (h : IsField front n)
    (rest : List UInt8) : Varint.decode? (front ++ rest) = some (n, rest) :=
  decode?_eq_some_iff.mpr ⟨front, rfl, h⟩

/-- The shortest form is a field. -/
theorem isField_encode (n : UInt64) : IsField (encode n.toNat) n := by
  obtain ⟨front, heq, hfield⟩ := decode?_eq_some_iff.mp (decode?_encode_toNat n [])
  rw [List.append_nil, List.append_nil] at heq
  exact heq ▸ hfield

end AddressedStorage.Varint
