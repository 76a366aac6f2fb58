/-!
# Text/Pieces — a text cut at its separators

A text with `n` separators has `n + 1` pieces, some of them perhaps empty.
-/

namespace AddressedStorage

/-- One more character in front of pieces. -/
def Pieces.push (c : Char) : List (List Char) → List (List Char)
  | [] => [[c]]
  | p :: ps => (c :: p) :: ps

/-- The pieces between separators. -/
def pieces (separates : Char → Bool) (text : List Char) : List (List Char) :=
  text.foldr (fun c ps => if separates c then [] :: ps else Pieces.push c ps) [[]]

theorem Pieces.push_ne_nil (c : Char) (ps : List (List Char)) : push c ps ≠ [] := by
  cases ps <;> simp [push]

theorem pieces_nil (separates : Char → Bool) : pieces separates [] = [[]] := rfl

theorem pieces_cons (separates : Char → Bool) (c : Char) (text : List Char) :
    pieces separates (c :: text) =
      if separates c then [] :: pieces separates text
      else Pieces.push c (pieces separates text) := rfl

/-- There is always a piece. -/
theorem pieces_ne_nil (separates : Char → Bool) (text : List Char) :
    pieces separates text ≠ [] := by
  cases text with
  | nil => simp [pieces_nil]
  | cons c rest =>
    rw [pieces_cons]
    split
    · exact List.cons_ne_nil _ _
    · exact Pieces.push_ne_nil _ _

/-- A separator ends a piece. -/
theorem pieces_append_cons {separates : Char → Bool} {mark : Char} (a b : List Char)
    (h : separates mark) :
    pieces separates (a ++ mark :: b) = pieces separates a ++ pieces separates b := by
  induction a with
  | nil => rw [List.nil_append, pieces_cons, if_pos h, pieces_nil, List.singleton_append]
  | cons c a ih =>
    rw [List.cons_append, pieces_cons, pieces_cons, ih]
    split
    · rfl
    · obtain ⟨p, ps, hpieces⟩ := List.exists_cons_of_ne_nil (pieces_ne_nil separates a)
      rw [hpieces]
      rfl

/-- A text without separators is one piece. -/
theorem pieces_of_forall {separates : Char → Bool} {a : List Char}
    (h : ∀ c ∈ a, separates c = false) :
    pieces separates a = [a] := by
  induction a with
  | nil => rfl
  | cons c a ih =>
    obtain ⟨hc, ha⟩ := List.forall_mem_cons.mp h
    rw [pieces_cons, hc, if_neg Bool.false_ne_true, ih ha]
    rfl

end AddressedStorage
