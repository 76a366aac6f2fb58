import AddressedStorage.Http.Url
import Mathlib.Data.List.DropRight

/-!
# Proofs/Http/Url/Slashes — one slash between two texts

Joining takes the slashes off the end of one text and off the front of the next, and puts one in
between, so it does not matter how many there were (`join_slashes`).  What a text has between the
slashes at its ends is the same from whichever end they are taken off first
(`dropWhile_rdropWhile`), so three texts may be joined from either end (`joined_assoc`).  The whole
law is `joining_law`.
-/

namespace AddressedStorage.Url

/-! ## Both ends of a list -/

section

variable {α : Type} {p : α → Bool}

theorem rdropWhile_append (a b : List α) :
    (a ++ b).rdropWhile p =
      if b.rdropWhile p = [] then a.rdropWhile p else a ++ b.rdropWhile p := by
  simp only [List.rdropWhile, List.reverse_append, List.dropWhile_append, List.isEmpty_iff,
    List.reverse_eq_nil_iff]
  split
  · rfl
  · rw [List.reverse_append, List.reverse_reverse]

/-- **It does not matter which end is trimmed first.** -/
theorem dropWhile_rdropWhile (l : List α) :
    (l.rdropWhile p).dropWhile p = (l.dropWhile p).rdropWhile p := by
  induction l with
  | nil => rfl
  | cons x l ih =>
    have hcons : (x :: l).rdropWhile p =
        if l.rdropWhile p = [] then [x].rdropWhile p else x :: l.rdropWhile p :=
      rdropWhile_append [x] l
    rw [hcons, List.rdropWhile_singleton]
    by_cases hx : p x
    · rw [List.dropWhile_cons_of_pos hx, ← ih, if_pos hx]
      split
      · rw [‹l.rdropWhile p = []›]
      · rw [List.dropWhile_cons_of_pos hx]
    · -- The head is kept by the one, so the other does not get beyond it.
      rw [List.dropWhile_cons_of_neg hx, hcons, List.rdropWhile_singleton, if_neg hx]
      split <;> rw [List.dropWhile_cons_of_neg hx]

end

/-! ## Joining lists -/

variable (a b c : List Char)

/-- Two texts with one slash in between. -/
def joined : List Char := a.rdropWhile (· = '/') ++ '/' :: b.dropWhile (· = '/')

/-- What a text has between the slashes at its ends. -/
def core : List Char := (b.dropWhile (· = '/')).rdropWhile (· = '/')

theorem rdropWhile_joined : (joined a b).rdropWhile (· = '/') =
    a.rdropWhile (· = '/') ++ if core b = [] then [] else '/' :: core b := by
  have hbehind : ('/' :: b.dropWhile (· = '/')).rdropWhile (· = '/') =
      if core b = [] then [] else '/' :: core b := rdropWhile_append ['/'] _
  rw [joined, rdropWhile_append, hbehind]
  by_cases hcore : core b = []
  · rw [if_pos hcore, if_pos rfl, List.rdropWhile_idempotent, List.append_nil]
  · rw [if_neg hcore, if_neg (List.cons_ne_nil _ _)]

theorem dropWhile_joined : (joined b c).dropWhile (· = '/') =
    if core b = [] then c.dropWhile (· = '/') else core b ++ '/' :: c.dropWhile (· = '/') := by
  have hfront : (b.rdropWhile (· = '/')).dropWhile (· = '/') = core b := dropWhile_rdropWhile b
  rw [joined, List.dropWhile_append, hfront, List.dropWhile_cons_of_pos rfl,
    List.dropWhile_idempotent]
  by_cases hcore : core b = []
  · rw [if_pos hcore, if_pos (List.isEmpty_iff.mpr hcore)]
  · rw [if_neg hcore, if_neg fun hempty => hcore (List.isEmpty_iff.mp hempty)]

/-- **Three texts may be joined from either end.**  If there is nothing but slashes in the middle,
one is left either way. -/
theorem joined_assoc : joined (joined a b) c = joined a (joined b c) := by
  rw [joined, rdropWhile_joined, joined, dropWhile_joined]
  by_cases hcore : core b = []
  · rw [if_pos hcore, if_pos hcore, List.append_nil]
  · rw [if_neg hcore, if_neg hcore, List.append_assoc, List.cons_append]

theorem getLast?_rdropWhile_ne : (a.rdropWhile (· = '/')).getLast? ≠ some '/' := by
  intro h
  obtain ⟨hne, hlast⟩ := List.mem_getLast?_eq_getLast h
  exact List.rdropWhile_last_not (fun c : Char => decide (c = '/')) a hne
    (decide_eq_true hlast.symm)

theorem head?_dropWhile_ne : (b.dropWhile (· = '/')).head? ≠ some '/' := by
  intro h
  have hhead := List.head?_dropWhile_not (· = '/') b
  rw [h] at hhead
  cases hhead

/-! ## Joining strings -/

theorem toList_join (base path : String) :
    (join base path).toList = joined base.toList path.toList := String.toList_ofList

/-- A text of slashes. -/
def slashes (n : Nat) : String := String.ofList (List.replicate n '/')

theorem toList_slashes (n : Nat) : (slashes n).toList = List.replicate n '/' :=
  String.toList_ofList

theorem exists_slashes {text : List Char} (h : ∀ c ∈ text, c = '/') :
    ∃ n, (slashes n).toList = text := by
  refine ⟨text.length, ?_⟩
  rw [toList_slashes]
  exact (List.eq_replicate_of_mem h).symm

/-- **It does not matter how many slashes there are** where two texts are joined. -/
theorem join_slashes (base path : String) (m n : Nat) :
    join (base ++ slashes m) (slashes n ++ path) = join base path := by
  have hslash : ∀ k, ∀ c ∈ (slashes k).toList, decide (c = '/') := by
    intro k c hc
    rw [toList_slashes] at hc
    exact decide_eq_true (List.eq_of_mem_replicate hc)
  rw [← String.toList_inj, toList_join, toList_join, String.toList_append, String.toList_append,
    joined, joined, rdropWhile_append, if_pos (List.rdropWhile_eq_nil_iff.mpr (hslash m)),
    List.dropWhile_append_of_pos (hslash n)]

/-- A text is what is left of it if it is trimmed behind, and slashes. -/
theorem exists_append_slashes (base : String) : ∃ (b : String) (m : Nat),
    base = b ++ slashes m ∧ b.toList = base.toList.rdropWhile (· = '/') := by
  have hslash : ∀ c ∈ base.toList.rtakeWhile (· = '/'), c = '/' := fun c hc => by
    simpa using List.mem_rtakeWhile_imp hc
  obtain ⟨m, hm⟩ := exists_slashes hslash
  refine ⟨String.ofList (base.toList.rdropWhile (· = '/')), m, ?_, String.toList_ofList⟩
  rw [← String.toList_inj, String.toList_append, String.toList_ofList, hm,
    List.rdropWhile_append_rtakeWhile]

/-- A text is slashes, and what is left of it if it is trimmed in front. -/
theorem exists_slashes_append (path : String) : ∃ (p : String) (n : Nat),
    path = slashes n ++ p ∧ p.toList = path.toList.dropWhile (· = '/') := by
  have hslash : ∀ c ∈ path.toList.takeWhile (· = '/'), c = '/' := fun c hc => by
    simpa using List.mem_takeWhile_imp hc
  obtain ⟨n, hn⟩ := exists_slashes hslash
  refine ⟨String.ofList (path.toList.dropWhile (· = '/')), n, ?_, String.toList_ofList⟩
  rw [← String.toList_inj, String.toList_append, String.toList_ofList, hn,
    List.takeWhile_append_dropWhile]

/-- **The law of joining.**  Two texts are joined by one slash, the first without the slashes that
end it and the second without those it begins with.  So it does not matter how many those are, and
three texts may be joined from either end, also if some are empty or nothing but slashes. -/
theorem joining_law :
    (∀ base path : String, ∃ (b p : String) (m n : Nat),
      base = b ++ slashes m ∧ b.toList.getLast? ≠ some '/' ∧
      path = slashes n ++ p ∧ p.toList.head? ≠ some '/' ∧ join base path = b ++ "/" ++ p) ∧
    (∀ (base path : String) (m n : Nat),
      join (base ++ slashes m) (slashes n ++ path) = join base path) ∧
    (∀ a b c : String, join (join a b) c = join a (join b c)) := by
  refine ⟨fun base path => ?_, join_slashes, fun a b c => ?_⟩
  · obtain ⟨b, m, hbase, hb⟩ := exists_append_slashes base
    obtain ⟨p, n, hpath, hp⟩ := exists_slashes_append path
    refine ⟨b, p, m, n, hbase, hb ▸ getLast?_rdropWhile_ne _, hpath, hp ▸ head?_dropWhile_ne _, ?_⟩
    rw [← String.toList_inj, toList_join, joined, ← hb, ← hp, String.toList_append,
      String.toList_append, List.append_assoc]
    rfl
  · rw [← String.toList_inj, toList_join, toList_join, toList_join, toList_join, joined_assoc]

/-- Of texts that are empty or nothing but slashes, one slash is left. -/
example : join (join "http://a/" "//") "" = "http://a/" ∧ join "" "" = "/" := by decide

end AddressedStorage.Url
