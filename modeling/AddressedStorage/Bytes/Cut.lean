/-!
# Bytes/Cut — taking bytes off the front
-/

namespace AddressedStorage.Bytes

/-- Splits off exactly `n` bytes. -/
def splitExactly? (n : Nat) (bytes : List UInt8) : Option (List UInt8 × List UInt8) :=
  if n ≤ bytes.length then some (bytes.take n, bytes.drop n) else none

/-- Splitting off as many bytes as stand in front gives back both parts. -/
theorem splitExactly?_append {n : Nat} {front rest : List UInt8} (h : front.length = n) :
    splitExactly? n (front ++ rest) = some (front, rest) := by
  subst h
  simp [splitExactly?]

/-- What is split off and what is left make up the whole. -/
theorem eq_append_of_splitExactly? {n : Nat} {bytes front rest : List UInt8}
    (h : splitExactly? n bytes = some (front, rest)) :
    bytes = front ++ rest ∧ front.length = n := by
  simp only [splitExactly?, Option.ite_none_right_eq_some, Option.some.injEq, Prod.mk.injEq] at h
  obtain ⟨hn, rfl, rfl⟩ := h
  exact ⟨(List.take_append_drop n bytes).symm, List.length_take_of_le hn⟩

/-- What is left is no longer than the whole. -/
theorem length_splitExactly? {n : Nat} {bytes front rest : List UInt8}
    (h : splitExactly? n bytes = some (front, rest)) : rest.length ≤ bytes.length := by
  rw [(eq_append_of_splitExactly? h).1, List.length_append]
  exact Nat.le_add_left _ _

end AddressedStorage.Bytes
