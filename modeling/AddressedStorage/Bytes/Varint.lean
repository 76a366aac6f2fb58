/-!
# Bytes/Varint — numbers in seven-bit groups

A number is written in groups of seven bits, lowest first; every byte but the last has its high bit
set.  `decode?` takes at most ten bytes and refuses what does not fit 64 bits; no reader asks for the
shortest form.
-/

namespace AddressedStorage.Varint

/-- The bytes of a number. -/
def encode (n : Nat) : List UInt8 :=
  if n < 128 then [n.toUInt8] else (n % 128 + 128).toUInt8 :: encode (n / 128)
termination_by n
decreasing_by omega

/-- How many bytes a number takes. -/
def length (n : Nat) : Nat := if n < 128 then 1 else 1 + length (n / 128)
termination_by n
decreasing_by omega

/-- The written form has the counted length. -/
@[simp] theorem length_encode (n : Nat) : (encode n).length = length n := by
  induction n using Nat.strongRecOn with
  | ind n ih =>
    rw [encode, length]
    split
    · simp
    · rw [List.length_cons, ih (n / 128) (by omega), Nat.add_comm]

/-- Reads a number of at most `k` bytes and returns what follows it. -/
def decodeWithin : (k : Nat) → List UInt8 → Option (Nat × List UInt8)
  | 0, _ => none
  | _ + 1, [] => none
  | k + 1, b :: rest =>
    if b.toNat < 128 then some (b.toNat, rest)
    else (decodeWithin k rest).map fun (m, r) => (b.toNat - 128 + 128 * m, r)

/-- Reads a number of any size and returns what follows it. -/
def read? (bytes : List UInt8) : Option (Nat × List UInt8) := decodeWithin bytes.length bytes

/-- The most bytes a number may take where 64 bits have to hold it. -/
def maxBytes : Nat := 10

/-- Reads a number and returns what follows it. -/
def decode? (bytes : List UInt8) : Option (UInt64 × List UInt8) :=
  match decodeWithin maxBytes bytes with
  | some (n, rest) => if n < UInt64.size then some (n.toUInt64, rest) else none
  | none => none

/-- What a read leaves is shorter than what it was given. -/
theorem length_decodeWithin : ∀ {k : Nat} {bytes : List UInt8} {n : Nat} {rest : List UInt8},
    decodeWithin k bytes = some (n, rest) → rest.length < bytes.length
  | 0, _, _, _, h => by simp [decodeWithin] at h
  | _ + 1, [], _, _, h => by simp [decodeWithin] at h
  | k + 1, b :: tail, n, rest, h => by
    simp only [decodeWithin] at h
    split at h
    · simp only [Option.some.injEq, Prod.mk.injEq] at h
      simp [← h.2]
    · simp only [Option.map_eq_some_iff, Prod.mk.injEq, Prod.exists] at h
      obtain ⟨m, r, hd, -, rfl⟩ := h
      have := length_decodeWithin hd
      simp only [List.length_cons]
      omega

/-- What a read leaves is shorter than what it was given. -/
theorem length_decode? {bytes : List UInt8} {n : UInt64} {rest : List UInt8}
    (h : decode? bytes = some (n, rest)) : rest.length < bytes.length := by
  simp only [decode?] at h
  split at h
  · split at h
    · simp only [Option.some.injEq, Prod.mk.injEq] at h
      rename_i hd _
      exact h.2 ▸ length_decodeWithin hd
    · simp at h
  · simp at h

end AddressedStorage.Varint
