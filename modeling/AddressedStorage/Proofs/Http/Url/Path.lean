import AddressedStorage.Http.Url
import AddressedStorage.Proofs.Http.Percent

/-!
# Proofs/Http/Url/Path — names at the end of a path

Names of letters and digits stand for themselves in a path, and dots before them do not reach them.
So a path with such names behind it ends in them (`readPath_append_text`), and is longer by them than
the path it was, if it is longer at all (`length_readPath_le`).
-/

namespace AddressedStorage.Url

variable {slashes : List Char} {names : List (List Char)} {separates : Char → Bool}

/-- A name of letters and digits. -/
def IsPlain (name : List Char) : Prop := name ≠ [] ∧ ∀ c ∈ name, c.isAlphanum

/-- A character of a path of plain names. -/
structure PlainChar (c : Char) : Prop where
  ascii : c.toNat < 128
  no_edge : isEdge c = false
  ne_hash : c ≠ '#'
  ne_query : c ≠ '?'
  inPath : Percent.inPath c.toUInt8
  inQuery : Percent.inSpecialQuery c.toUInt8
  inFragment : Percent.inFragment c.toUInt8

theorem toNat_lt_of_isAlphanum {c : Char} (h : c.isAlphanum) : c.toNat < 128 := by
  have hlt : ∀ {last : UInt32}, c.val ≤ last → last < 128 → c.toNat < 128 := fun hle hlast =>
    UInt32.lt_iff_toNat_lt.mp (UInt32.lt_of_le_of_lt hle hlast)
  rcases Bool.or_eq_true_iff.mp h with hletter | hdigit
  · rcases Bool.or_eq_true_iff.mp hletter with hupper | hlower
    · exact hlt (of_decide_eq_true hupper).2 (by decide)
    · exact hlt (of_decide_eq_true (Bool.and_eq_true_iff.mp hlower).2) (by decide)
  · exact hlt (of_decide_eq_true (Bool.and_eq_true_iff.mp hdigit).2) (by decide)

theorem plainChar_of_isAlphanum {c : Char} (h : c.isAlphanum) : PlainChar c := by
  have hascii := toNat_lt_of_isAlphanum h
  obtain ⟨hedge, hhash, hquery, hpath, hquery', hfragment⟩ :=
    Percent.forall_char_lt (P := fun c => c.isAlphanum → isEdge c = false ∧ c ≠ '#' ∧ c ≠ '?' ∧
      Percent.inPath c.toUInt8 ∧ Percent.inSpecialQuery c.toUInt8 ∧ Percent.inFragment c.toUInt8)
      (by decide +kernel) hascii h
  exact ⟨hascii, hedge, hhash, hquery, hpath, hquery', hfragment⟩

theorem plainChar_slash : PlainChar '/' := by constructor <;> decide

theorem pieces_append_text (hslash : separates '/') (hnames : ∀ n ∈ names, ∀ c ∈ n, separates c = false)
    (a : List Char) :
    pieces separates (a ++ Path.text (.segments names)) = pieces separates a ++ names := by
  induction names generalizing a with
  | nil => simp [Path.text]
  | cons n names ih =>
    obtain ⟨hn, hrest⟩ := List.forall_mem_cons.mp hnames
    have htext : Path.text (.segments (n :: names)) = '/' :: (n ++ Path.text (.segments names)) := rfl
    rw [htext, pieces_append_cons _ _ hslash, ih hrest, pieces_of_forall hn, List.singleton_append]

/-- Every segment but the last is walked as one that is not. -/
theorem resolve_append (path : List (List Char)) (front : List (List Char)) {names : List (List Char)}
    (h : names ≠ []) :
    resolve path (front ++ names) = resolve (front.foldl (walk · · false) path) names := by
  induction front generalizing path with
  | nil => rfl
  | cons s front ih =>
    obtain ⟨t, rest, hrest⟩ := List.exists_cons_of_ne_nil (List.append_ne_nil_of_right_ne_nil front h)
    rw [List.cons_append, hrest, resolve, ← hrest, ih, List.foldl_cons]
    exact nofun

theorem walk_of_isPlain {name : List Char} (h : IsPlain name) (path : List (List Char)) (last : Bool) :
    walk path name last = path ++ [name] := by
  obtain ⟨hne, hall⟩ := h
  obtain ⟨c, rest, rfl⟩ := List.exists_cons_of_ne_nil hne
  have hc := hall c List.mem_cons_self
  have hdot : afterDot? (c :: rest) = none := by
    unfold afterDot?
    split
    all_goals first | rfl | (rename_i heq; obtain ⟨rfl, -⟩ := List.cons.inj heq; cases hc)
  have hdouble : isDoubleDot (c :: rest) = false := by rw [isDoubleDot, hdot]; rfl
  have hsingle : isDot (c :: rest) = false := by rw [isDot, hdot]; rfl
  rw [walk, hdouble, hsingle]
  rfl

/-- Names are appended. -/
theorem resolve_of_isPlain (h : ∀ n ∈ names, IsPlain n) (path : List (List Char)) :
    resolve path names = path ++ names := by
  induction names generalizing path with
  | nil => simp [resolve]
  | cons n names ih =>
    obtain ⟨hn, hrest⟩ := List.forall_mem_cons.mp h
    cases names with
    | nil => rw [resolve, walk_of_isPlain hn]
    | cons m names =>
      rw [resolve, walk_of_isPlain hn, ih hrest, List.append_assoc]
      · rfl
      · exact nofun

/-- How long segments are as a path. -/
def Path.size (names : List (List Char)) : Nat := (Path.text (.segments names)).length

theorem Path.size_append (a b : List (List Char)) : size (a ++ b) = size a + size b := by
  simp [size, text]

theorem walk_nil (path : List (List Char)) (last : Bool) : walk path [] last = path ++ [[]] := rfl

/-- A last segment leaves no less than the same segment before others. -/
theorem size_walk_le (path : List (List Char)) (s : List Char) :
    Path.size (walk path s false) ≤ Path.size (walk path s true) := by
  rw [walk, walk]
  split
  · simp only [Path.size_append]
    exact Nat.le_add_right _ _
  · split
    · simp only [Path.size_append]
      exact Nat.le_add_right _ _
    · exact Nat.le_refl _

/-- Empty segments are appended. -/
theorem resolve_replicate (path : List (List Char)) (k : Nat) :
    resolve path (List.replicate k []) = path ++ List.replicate k [] := by
  induction k generalizing path with
  | zero => exact (List.append_nil path).symm
  | succ k ih =>
    cases k with
    | zero => rfl
    | succ k =>
      rw [List.replicate_succ, List.replicate_succ, resolve, ← List.replicate_succ, walk_nil, ih,
        List.append_assoc]
      · rfl
      · exact nofun

/-- Segments that come to an end leave no less than what is left for others. -/
theorem size_foldl_walk_le (path front : List (List Char)) (k : Nat) :
    Path.size (front.foldl (walk · · false) path) ≤
      Path.size (resolve path (front ++ List.replicate k [])) := by
  rcases k with _ | k
  · rw [List.replicate_zero, List.append_nil]
    rcases List.eq_nil_or_concat front with rfl | ⟨front, s, rfl⟩
    · exact Nat.le_refl _
    · rw [List.concat_eq_append, resolve_append path front (List.cons_ne_nil s []), List.foldl_append]
      exact size_walk_le _ s
  · rw [resolve_append path front (by simp), resolve_replicate, Path.size_append]
    exact Nat.le_add_right _ _

/-- Slashes are empty segments. -/
theorem text_replicate_nil (hslashes : ∀ c ∈ slashes, c = '/') :
    Path.text (.segments (List.replicate slashes.length [])) = slashes := by
  induction slashes with
  | nil => rfl
  | cons c slashes ih =>
    obtain ⟨rfl, hrest⟩ := List.forall_mem_cons.mp hslashes
    exact congrArg ('/' :: ·) (ih hrest)

theorem isSlash_of_isAlphanum (k : Kind) {c : Char} (h : c.isAlphanum) : k.isSlash c = false := by
  have hslash : c ≠ '/' := by
    rintro rfl
    cases h
  have hback : c ≠ '\\' := by
    rintro rfl
    cases h
  simp [Kind.isSlash, hslash, hback]

theorem map_encode_of_isPlain (hplain : ∀ n ∈ names, IsPlain n) :
    names.map (Percent.encode Percent.inPath) = names := by
  refine (List.map_congr_left fun n hn => ?_).trans (List.map_id names)
  refine Percent.encode_of_keeps fun c hc => ?_
  have hchar := plainChar_of_isAlphanum ((hplain n hn).2 c hc)
  exact ⟨hchar.ascii, hchar.inPath⟩

theorem isSlash_of_isPlain (hplain : ∀ n ∈ names, IsPlain n) (k : Kind) :
    ∀ n ∈ names, ∀ c ∈ n, k.isSlash c = false :=
  fun n hn c hc => isSlash_of_isAlphanum k ((hplain n hn).2 c hc)

/-- Reading a path of plain names. -/
theorem readPath_of_isPlain {name : List Char} (hname : IsPlain name)
    (hplain : ∀ n ∈ names, IsPlain n) (k : Kind) :
    readPath k (name ++ Path.text (.segments names)) = .segments (name :: names) := by
  have hall : ∀ n ∈ name :: names, IsPlain n := List.forall_mem_cons.mpr ⟨hname, hplain⟩
  have hslash := isSlash_of_isPlain hall k
  rw [readPath, pieces_append_text rfl (List.forall_mem_cons.mp hslash).2,
    pieces_of_forall (hslash name List.mem_cons_self), List.singleton_append,
    map_encode_of_isPlain hall, resolve_of_isPlain hall, List.nil_append]

/-- Reading a path with plain names at its end. -/
theorem readPath_append_text (hplain : ∀ n ∈ names, IsPlain n) (k : Kind) (a : List Char)
    (hne : names ≠ []) :
    readPath k (a ++ Path.text (.segments names)) =
      .segments (((pieces k.isSlash a).map (Percent.encode Percent.inPath)).foldl
        (walk · · false) [] ++ names) := by
  rw [readPath, pieces_append_text rfl (isSlash_of_isPlain hplain k), List.map_append,
    map_encode_of_isPlain hplain, resolve_append _ _ hne, resolve_of_isPlain hplain]

/-- **A path is longer by the names behind it**, if it is longer at all. -/
theorem length_readPath_le (hplain : ∀ n ∈ names, IsPlain n) (hne : names ≠ [])
    (hslashes : ∀ c ∈ slashes, c = '/') (k : Kind) (a : List Char) :
    (readPath k ((a ++ Path.text (.segments names)).drop 1)).text.length ≤
      (readPath k ((a ++ slashes).drop 1)).text.length + Path.size names := by
  cases a with
  | nil =>
    obtain ⟨n, rest, rfl⟩ := List.exists_cons_of_ne_nil hne
    obtain ⟨hn, hrest⟩ := List.forall_mem_cons.mp hplain
    change (readPath k (n ++ Path.text (.segments rest))).text.length ≤ _
    rw [readPath_of_isPlain hn hrest]
    exact Nat.le_add_left _ _
  | cons c a =>
    have hempty : ∀ n ∈ List.replicate slashes.length ([] : List Char), ∀ c ∈ n,
        k.isSlash c = false := fun n hn c hc => by
      rw [List.eq_of_mem_replicate hn] at hc
      cases hc
    have hback : readPath k (a ++ slashes) =
        .segments (resolve [] ((pieces k.isSlash a).map (Percent.encode Percent.inPath) ++
          List.replicate slashes.length [])) := by
      have hpieces : pieces k.isSlash (a ++ Path.text (.segments (.replicate slashes.length []))) =
          pieces k.isSlash a ++ List.replicate slashes.length [] := pieces_append_text rfl hempty a
      rw [text_replicate_nil hslashes] at hpieces
      rw [readPath, hpieces, List.map_append, List.map_replicate, Percent.encode_nil]
    change (readPath k (a ++ _)).text.length ≤ (readPath k (a ++ slashes)).text.length + _
    rw [readPath_append_text hplain k a hne, hback]
    have hsize := size_foldl_walk_le [] ((pieces k.isSlash a).map (Percent.encode Percent.inPath))
      slashes.length
    change Path.size _ ≤ Path.size _ + _
    rw [Path.size_append]
    exact Nat.add_le_add_right hsize _

end AddressedStorage.Url
