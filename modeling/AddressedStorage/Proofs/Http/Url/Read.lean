import AddressedStorage.Proofs.Except
import AddressedStorage.Proofs.Http.Url.Path
import Mathlib.Data.List.TakeDrop
import Mathlib.Data.List.TakeWhile

/-!
# Proofs/Http/Url/Read — what an address was read from

An address is cut at its marks before it is read, so it has a query or a fragment just if its text has
the mark of one (`marks_eq_none_iff`).  Its path is written in printable characters
(`le_of_mem_pathText`): what stands in it was encoded, and dots move names in it without changing them.
-/

namespace AddressedStorage.Url

variable {before after text rest scheme segment : List Char} {mark c : Char}
  {names segments : List (List Char)} {u v : Url}

/-! ## Cutting -/

theorem span_append_of_head {p : Char → Bool} (a : List Char) {b : List Char}
    (h : ∀ c ∈ b.head?, p c = false) :
    (a ++ b).span p = (a.takeWhile p, a.dropWhile p ++ b) := by
  rw [List.span_eq_takeWhile_dropWhile]
  induction a with
  | nil =>
    cases b with
    | nil => rfl
    | cons c b =>
      have hc : p c = false := h c rfl
      simp [hc]
  | cons c a ih =>
    obtain ⟨htake, hdrop⟩ := Prod.mk.inj ih
    cases hc : p c <;> simp [hc, htake, hdrop]

theorem span_append_of_forall {p : Char → Bool} {a b : List Char} (ha : ∀ c ∈ a, p c)
    (hb : ∀ c ∈ b.head?, p c = false) : (a ++ b).span p = (a, b) := by
  rw [span_append_of_head a hb, List.takeWhile_eq_self_iff.mpr ha, List.dropWhile_eq_nil_iff.mpr ha,
    List.nil_append]

theorem cutAt_of_not_mem (h : mark ∉ text) : cutAt mark text = (text, none) := by
  have hall : ∀ c ∈ text, decide (c ≠ mark) := fun c hc =>
    decide_eq_true fun heq : c = mark => h (heq ▸ hc)
  have hspan := span_append_of_forall hall (b := []) nofun
  rw [List.append_nil] at hspan
  rw [cutAt, hspan]

theorem cutAt_append_cons (h : mark ∉ before) :
    cutAt mark (before ++ mark :: after) = (before, some after) := by
  have hall : ∀ c ∈ before, decide (c ≠ mark) := fun c hc =>
    decide_eq_true fun heq : c = mark => h (heq ▸ hc)
  rw [cutAt, span_append_of_forall hall]
  rintro c ⟨⟩
  exact decide_eq_false (not_not_intro rfl)

theorem counts_of_no_edge (h : isEdge c = false) : (c ≠ '\t' && c ≠ '\n' && c ≠ '\r') = true := by
  have hne : ∀ d, isEdge d → c ≠ d := fun d hd heq => by
    rw [heq, hd] at h
    cases h
  simp [hne '\t' rfl, hne '\n' rfl, hne '\r' rfl]

theorem significant_of_no_edge (h : ∀ c ∈ text, isEdge c = false) : significant text = text := by
  have hfront : text.dropWhile isEdge = text := by
    cases text with
    | nil => rfl
    | cons c text => rw [List.dropWhile_cons, h c List.mem_cons_self, if_neg Bool.false_ne_true]
  have hback : text.reverse.dropWhile isEdge = text.reverse := by
    cases hr : text.reverse with
    | nil => rfl
    | cons c rest =>
      have hc : c ∈ text := List.mem_reverse.mp (hr ▸ List.mem_cons_self)
      rw [List.dropWhile_cons, h c hc, if_neg Bool.false_ne_true]
  rw [significant, hfront, hback, List.reverse_reverse]
  exact List.filter_eq_self.mpr fun c hc => counts_of_no_edge (h c hc)

/-- **A scheme** is a letter and what may follow it, up to the first colon. -/
theorem cutScheme_eq_some_iff :
    cutScheme text = some (scheme, rest) ↔
      ∃ c more, text = c :: more ++ ':' :: rest ∧ c.isAlpha ∧ (∀ d ∈ more, inScheme d) ∧
        scheme = (c :: more).map Char.toLower := by
  constructor
  · intro h
    cases text with
    | nil => cases h
    | cons c text =>
      rw [cutScheme, List.span_eq_takeWhile_dropWhile] at h
      dsimp only at h
      split at h
      · rename_i after hafter
        split at h
        · rename_i halpha
          obtain ⟨rfl, rfl⟩ := Prod.mk.inj (Option.some.inj h)
          refine ⟨c, text.takeWhile inScheme, ?_, halpha, fun d hd => ?_, rfl⟩
          · rw [← hafter, List.cons_append, List.takeWhile_append_dropWhile]
          · exact List.mem_takeWhile_imp hd
        · cases h
      · cases h
  · rintro ⟨c, more, rfl, halpha, hmore, rfl⟩
    rw [List.cons_append, cutScheme, span_append_of_forall hmore]
    · exact if_pos halpha
    · rintro d ⟨⟩
      rfl

/-- A part is there just if its mark is. -/
theorem cutAt_snd_eq_none_iff : (cutAt mark text).2 = none ↔ mark ∉ text := by
  constructor
  · intro h hmem
    obtain ⟨before, after, rfl, hbefore⟩ := List.eq_append_cons_of_mem hmem
    rw [cutAt_append_cons hbefore] at h
    cases h
  · intro h
    rw [cutAt_of_not_mem h]

/-- Only controls and spaces do not count. -/
theorem mem_significant_iff (h : isEdge c = false) : c ∈ significant text ↔ c ∈ text := by
  have hdrop : ∀ l : List Char, c ∈ l.dropWhile isEdge ↔ c ∈ l := by
    intro l
    constructor
    · exact fun hmem => (List.dropWhile_sublist _).mem hmem
    · intro hmem
      rw [← List.takeWhile_append_dropWhile (p := isEdge) (l := l), List.mem_append] at hmem
      rcases hmem with htake | hdrop
      · rw [List.mem_takeWhile_imp htake] at h
        cases h
      · exact hdrop
  rw [significant, List.mem_filter, List.mem_reverse, hdrop, List.mem_reverse, hdrop]
  exact and_iff_left (counts_of_no_edge h)

/-- What follows the scheme, cut into its parts. -/
structure Parts where
  /-- Host and path. -/
  place : List Char
  query : Option (List Char)
  fragment : Option (List Char)

/-- Cuts off the fragment, then the query. -/
def Parts.cut (rest : List Char) : Parts :=
  let (rest, fragment) := cutAt '#' rest
  let (rest, query) := cutAt '?' rest
  ⟨rest, query, fragment⟩

/-! ## Paths -/

/-- Names in printable characters. -/
def Printed (names : List (List Char)) : Prop := ∀ n ∈ names, ∀ c ∈ n, 0x20 ≤ c.toNat

theorem Printed.append (h : Printed names) (h' : Printed segments) : Printed (names ++ segments) :=
  List.forall_mem_append.mpr ⟨h, h'⟩

theorem Printed.singleton (h : ∀ c ∈ segment, 0x20 ≤ c.toNat) : Printed [segment] :=
  List.forall_mem_singleton.mpr h

theorem printed_nil : Printed [[]] := .singleton (List.forall_mem_nil _)

theorem Printed.above (h : Printed names) : Printed (above names) := by
  rw [Url.above]
  split
  · exact h
  · exact fun n hn => h n (List.dropLast_subset names hn)

theorem Printed.walk (h : Printed names) (hs : ∀ c ∈ segment, 0x20 ≤ c.toNat) (last : Bool) :
    Printed (walk names segment last) := by
  have hlast : Printed (if last then [[]] else []) := by
    split
    · exact printed_nil
    · exact List.forall_mem_nil _
  rw [Url.walk]
  split
  · exact h.above.append hlast
  · split
    · exact h.append hlast
    · exact h.append (.singleton hs)

/-- Dots move names and make no others. -/
theorem Printed.resolve (h : Printed names) (hs : Printed segments) :
    Printed (resolve names segments) := by
  induction segments generalizing names with
  | nil => exact h
  | cons s segments ih =>
    obtain ⟨hfirst, hrest⟩ := List.forall_mem_cons.mp hs
    cases segments with
    | nil => exact h.walk hfirst true
    | cons t segments => exact ih (h.walk hfirst false) hrest

theorem Printed.walkFile {p : FilePath} (h : Printed p.names) (hs : ∀ c ∈ segment, 0x20 ≤ c.toNat)
    (last : Bool) : Printed (p.walk segment last).names := by
  have hcolon : 0x20 ≤ (':' : Char).toNat := by decide
  have hdrive : ∀ {c}, 0x20 ≤ c.toNat → Printed [[c, ':']] := fun hc =>
    .singleton (List.forall_mem_cons.mpr ⟨hc, List.forall_mem_singleton.mpr hcolon⟩)
  unfold FilePath.walk
  split
  · split
    · exact hdrive (List.forall_mem_cons.mp hs).1
    · exact Printed.walk (List.forall_mem_nil _) hs last
  · obtain ⟨hc, htail⟩ := List.forall_mem_cons.mp hs
    split
    · exact (hdrive hc).append (.singleton (List.forall_mem_cons.mp htail).2)
    · exact .singleton hs
  · exact h.walk hs last

theorem Printed.resolveFile {p : FilePath} (h : Printed p.names) (hs : Printed segments) :
    Printed (p.resolve segments).names := by
  induction segments generalizing p with
  | nil => exact h
  | cons s segments ih =>
    obtain ⟨hfirst, hrest⟩ := List.forall_mem_cons.mp hs
    cases segments with
    | nil => exact h.walkFile hfirst true
    | cons t segments => exact ih (h.walkFile hfirst false) hrest

theorem printed_map_encode (pieces : List (List Char)) :
    Printed (pieces.map (Percent.encode Percent.inPath)) := by
  intro n hn
  obtain ⟨piece, -, rfl⟩ := List.mem_map.mp hn
  exact fun c => Percent.le_of_mem_encode fun b hb => (Bool.and_eq_true_iff.mp hb).1

theorem printed_ofText (text : List Char) : Printed (FilePath.ofText text).names := by
  have hresolved : Printed (FilePath.resolve ⟨[], false⟩
      ((pieces Kind.file.isSlash text).map (Percent.encode Percent.inPath))).names :=
    Printed.resolveFile (List.forall_mem_nil _) (printed_map_encode _)
  unfold FilePath.ofText
  dsimp only
  split
  · exact printed_nil
  · exact fun n hn => hresolved n ((List.dropWhile_sublist _).mem hn)

/-- A path in printable characters. -/
def Path.Printed (path : Path) : Prop := ∀ c ∈ path.text, 0x20 ≤ c.toNat

theorem Printed.path (h : Printed names) : (Path.segments names).Printed := by
  intro c hc
  obtain ⟨n, hn, hc⟩ := List.mem_flatMap.mp hc
  rcases List.mem_cons.mp hc with rfl | hc
  · decide
  · exact h n hn c hc

theorem printed_readPath (k : Kind) (text : List Char) : (readPath k text).Printed := by
  have hnone : Printed [] := List.forall_mem_nil _
  exact (hnone.resolve (printed_map_encode _)).path

theorem printed_encode (text : List Char) :
    (Path.opaquePath (Percent.encode Percent.isPrintable text)).Printed :=
  fun _ => Percent.le_of_mem_encode fun _ hb => hb

/-! ## What was read -/

/-- What reading host and path does to an address: its marks are read already. -/
structure Completes (u v : Url) : Prop where
  scheme : v.scheme = u.scheme
  query : v.query = u.query
  fragment : v.fragment = u.fragment
  path : v.path.Printed

theorem of_readAuthority {atEnd : Bool} {tail : List Char}
    (h : readAuthority u atEnd text = .ok (v, tail)) :
    ∃ user password host port, v = { u with user, password, host, port } := by
  unfold readAuthority at h
  obtain ⟨⟨⟨user, password⟩, place⟩, -, h⟩ := bind_eq_ok_iff.mp h
  dsimp only at h
  split at h
  · cases h
  · obtain ⟨host, -, h⟩ := bind_eq_ok_iff.mp h
    obtain ⟨port, -, h⟩ := bind_eq_ok_iff.mp h
    obtain ⟨rfl, -⟩ := Prod.mk.inj (Except.ok.inj h)
    exact ⟨user, password, some host, port, rfl⟩

theorem completes_readWithAuthority (hu : u.path.Printed) (h : readWithAuthority u rest = .ok v) :
    Completes u v := by
  unfold readWithAuthority at h
  obtain ⟨⟨v', tail⟩, hread, h⟩ := bind_eq_ok_iff.mp h
  obtain ⟨user, password, host, port, rfl⟩ := of_readAuthority hread
  dsimp only at h
  split at h
  · obtain rfl := Except.ok.inj h
    split
    · exact ⟨rfl, rfl, rfl, hu⟩
    · exact ⟨rfl, rfl, rfl, printed_readPath _ _⟩
  · obtain rfl := Except.ok.inj h
    exact ⟨rfl, rfl, rfl, printed_readPath _ _⟩

theorem completes_readFile (h : readFile u rest = .ok v) : Completes u v := by
  unfold readFile at h
  dsimp only at h
  split at h
  · split at h
    · split at h
      · obtain rfl := Except.ok.inj h
        exact ⟨rfl, rfl, rfl, (printed_ofText _).path⟩
      · obtain ⟨host, -, h⟩ := bind_eq_ok_iff.mp h
        obtain rfl := Except.ok.inj h
        exact ⟨rfl, rfl, rfl, (printed_ofText _).path⟩
    · obtain rfl := Except.ok.inj h
      exact ⟨rfl, rfl, rfl, (printed_ofText _).path⟩
  · obtain rfl := Except.ok.inj h
    exact ⟨rfl, rfl, rfl, (printed_ofText _).path⟩

/-- **An address is read from its scheme on**: its marks first, and then host and path. -/
theorem completes_of_ofText (h : ofText text = .ok u) :
    ∃ rest, cutScheme (significant text) = some (u.scheme, rest) ∧
      Completes (bare u.scheme (Parts.cut rest).query (Parts.cut rest).fragment) u := by
  unfold ofText at h
  split at h
  · rename_i scheme rest hcut
    have hbare : ∀ query fragment, (bare scheme query fragment).path.Printed := fun _ _ =>
      Printed.path (List.forall_mem_nil _)
    have hcompletes : Completes (bare scheme (Parts.cut rest).query (Parts.cut rest).fragment) u := by
      dsimp only at h
      split at h
      · exact completes_readWithAuthority (hbare _ _) h
      · exact completes_readFile h
      · exact completes_readWithAuthority (hbare _ _) h
      · obtain rfl := Except.ok.inj h
        exact ⟨rfl, rfl, rfl, printed_readPath _ _⟩
      · obtain rfl := Except.ok.inj h
        exact ⟨rfl, rfl, rfl, printed_encode _⟩
    obtain rfl : u.scheme = scheme := hcompletes.scheme
    exact ⟨rest, hcut, hcompletes⟩
  · cases h

/-- **The path of an address is printable.** -/
theorem le_of_mem_pathText (h : ofText text = .ok u) (hc : c ∈ u.pathText) : 0x20 ≤ c.toNat := by
  obtain ⟨rest, -, hcompletes⟩ := completes_of_ofText h
  exact hcompletes.path c hc

/-- What cannot stand in a scheme stands behind it. -/
theorem mem_iff_of_cutScheme (h : cutScheme (significant text) = some (scheme, rest))
    (hedge : isEdge c = false) (hscheme : inScheme c = false) (hcolon : c ≠ ':') :
    c ∈ rest ↔ c ∈ text := by
  obtain ⟨d, more, htext, hd, hmore, -⟩ := cutScheme_eq_some_iff.mp h
  have hfront : c ∉ d :: more := by
    intro hc
    rcases List.mem_cons.mp hc with rfl | hc
    · simp [inScheme, Char.isAlphanum, hd] at hscheme
    · rw [hmore c hc] at hscheme
      cases hscheme
  have hmem : c ∈ significant text ↔ c ∈ text := mem_significant_iff hedge
  rw [← hmem, htext, List.mem_append, or_iff_right hfront, List.mem_cons, or_iff_right hcolon]

/-- **An address has marks just if its text does.** -/
theorem marks_eq_none_iff (h : ofText text = .ok u) :
    (u.query = none ∧ u.fragment = none) ↔ '?' ∉ text ∧ '#' ∉ text := by
  obtain ⟨rest, hcut, hcompletes⟩ := completes_of_ofText h
  have hmark : ∀ c, isEdge c = false → inScheme c = false → c ≠ ':' → (c ∈ rest ↔ c ∈ text) :=
    fun _ => mem_iff_of_cutScheme hcut
  rw [hcompletes.query, hcompletes.fragment, ← hmark '?' rfl rfl (by decide),
    ← hmark '#' rfl rfl (by decide)]
  simp only [bare, Option.map_eq_none_iff]
  change (cutAt '?' (cutAt '#' rest).1).2 = none ∧ (cutAt '#' rest).2 = none ↔ _
  rw [and_comm, and_comm (b := '#' ∉ rest), cutAt_snd_eq_none_iff]
  refine and_congr_right fun hhash => ?_
  rw [cutAt_of_not_mem hhash, cutAt_snd_eq_none_iff]

end AddressedStorage.Url
