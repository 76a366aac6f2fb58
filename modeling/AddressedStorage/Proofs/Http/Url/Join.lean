import AddressedStorage.Proofs.Http.Url.Read
import AddressedStorage.Proofs.Http.Url.Slashes

/-!
# Proofs/Http/Url/Join — a path joined to an address

A path without marks belongs to the last part of the address it is joined to (`Parts.cut_append`), and
adds no mark to it (`marks_of_parse_join`).  Scheme, user and place are read as before, so it can be
joined to any web address without blanks (`exists_parse_join`); if it is a path of plain names, the
address gets longer by it at most (`parse_join`).
-/

namespace AddressedStorage.Url

variable {base slashes before after text rest scheme : List Char} {mark : Char}
  {names : List (List Char)}

/-! ## Cutting -/

/-- A mark that is no slash stays where it is when slashes are taken off the end. -/
theorem exists_of_append_slashes (hslashes : ∀ c ∈ slashes, c = '/') (hmark : mark ≠ '/')
    (h : base ++ slashes = before ++ mark :: after) :
    ∃ rest, base = before ++ mark :: rest ∧ after = rest ++ slashes := by
  have hmem : mark ∉ slashes := fun hmem => hmark (hslashes mark hmem)
  rcases List.append_eq_append_iff.mp h with ⟨more, -, hrest⟩ | ⟨more, hbase, hrest⟩
  · exact absurd (hrest ▸ List.mem_append_right more List.mem_cons_self) hmem
  · cases more with
    | nil =>
      rw [List.nil_append] at hrest
      exact absurd (hrest ▸ List.mem_cons_self) hmem
    | cons c rest =>
      obtain ⟨rfl, hafter⟩ := List.cons.inj hrest
      exact ⟨rest, hbase, hafter⟩

/-! ## Hosts -/

/-- Reads host and port, and what a backslash cuts off behind them. -/
def readPlace (scheme place : List Char) :
    Except Error (List Char × Option Nat × List Char) := do
  let web := Kind.ofScheme scheme = .web
  let (hostText, portText) := cutHost false place
  if hostText = [] ∧ (web ∨ portText.isSome) then
    throw (.host .empty)
  let host ← ((if web then Host.ofText else Host.ofOpaqueText) hostText).mapError .host
  let (digits, tail) := (portText.getD []).span (· ≠ '\\')
  let port ← readPort scheme digits
  return (host, port, tail)

/-- **User and place are read apart**, and nothing else of the address matters. -/
theorem readAuthority_eq (u : Url) (atEnd : Bool) (text : List Char) :
    readAuthority u atEnd text = do
      let ((user, password), place) ← cutUserInfo atEnd text
      let (host, port, tail) ← readPlace u.scheme place
      return ({ u with user, password, host := some host, port }, tail) := by
  rw [readAuthority]
  refine bind_congr fun ⟨⟨user, password⟩, place⟩ => ?_
  unfold readPlace
  dsimp only
  split
  · rfl
  · simp

theorem readPlace_nil (hweb : Kind.ofScheme scheme = .web) :
    readPlace scheme [] = .error (.host .empty) := by
  unfold readPlace
  dsimp only
  rw [if_pos ⟨rfl, .inl hweb⟩]
  rfl

/-- What is cut off begins with a backslash. -/
theorem head?_of_readPlace {place host tail : List Char} {port : Option Nat}
    (h : readPlace scheme place = .ok (host, port, tail)) : ∀ c ∈ tail.head?, c = '\\' := by
  unfold readPlace at h
  dsimp only at h
  split at h
  · cases h
  · obtain ⟨read, -, h⟩ := bind_eq_ok_iff.mp h
    obtain ⟨number, -, h⟩ := bind_eq_ok_iff.mp h
    obtain ⟨-, -, rfl⟩ := Except.ok.inj h
    intro c hc
    rw [List.span_eq_takeWhile_dropWhile] at hc
    have hhead := List.head?_dropWhile_not (· ≠ '\\') ((cutHost false place).2.getD [])
    rw [Option.mem_def.mp hc] at hhead
    simpa using hhead

/-- Whether the text ends here only matters where there is no place. -/
theorem cutUserInfo_of_ok {atEnd : Bool} {info : List Char × List Char} {place : List Char}
    (h : cutUserInfo atEnd text = .ok (info, place)) (hne : place ≠ []) (atEnd' : Bool) :
    cutUserInfo atEnd' text = .ok (info, place) := by
  unfold cutUserInfo at h ⊢
  split at h
  · exact h
  · dsimp only at h ⊢
    split at h
    · cases h
    · obtain ⟨rfl, rfl⟩ := Prod.mk.inj (Except.ok.inj h)
      rw [if_neg fun hempty => hne hempty.1]

/-- **What stands between slashes and path is read by itself.** -/
theorem readAuthority_of_ok {u v : Url} (hweb : Kind.ofScheme u.scheme = .web) {atEnd : Bool}
    {tail : List Char} (h : readAuthority u atEnd text = .ok (v, tail)) :
    ∃ user password host port,
      v = { u with user, password, host := some host, port } ∧ text ≠ [] ∧
      (∀ c ∈ tail.head?, c = '\\') ∧
      ∀ (w : Url) (atEnd' : Bool), w.scheme = u.scheme →
        readAuthority w atEnd' text = .ok ({ w with user, password, host := some host, port }, tail) := by
  rw [readAuthority_eq] at h
  obtain ⟨⟨⟨user, password⟩, place⟩, hinfo, h⟩ := bind_eq_ok_iff.mp h
  obtain ⟨⟨host, port, tail'⟩, hplace, h⟩ := bind_eq_ok_iff.mp h
  obtain ⟨rfl, rfl⟩ := Prod.mk.inj (Except.ok.inj h)
  have hne : place ≠ [] := by
    rintro rfl
    rw [readPlace_nil hweb] at hplace
    cases hplace
  refine ⟨user, password, host, port, rfl, ?_, head?_of_readPlace hplace, fun w atEnd' hw => ?_⟩
  · rintro rfl
    obtain ⟨-, rfl⟩ := Prod.mk.inj (Except.ok.inj hinfo)
    exact hne rfl
  · rw [readAuthority_eq, cutUserInfo_of_ok hinfo hne atEnd', hw]
    dsimp only [bind, Except.bind]
    rw [hplace]
    rfl

/-- The address with a user, a place and a path. -/
def located (u : Url) (user password host : List Char) (port : Option Nat) (path : Path) : Url :=
  { u with user, password, host := some host, port, path }

/-- Whether a character stands before the path. -/
def isPlace (c : Char) : Bool := !Kind.web.isSlash c

/-- What follows the place begins with a slash, which is left out of the path. -/
theorem readPath_tail (v : Url) {tail path : List Char} (htail : ∀ c ∈ tail.head?, c = '\\')
    (hpath : ∀ c ∈ path.head?, isPlace c = false) :
    (match tail ++ path with
      | [] => .ok (if Kind.web = .other then v else { v with path := readPath .web [] })
      | c :: path =>
        .ok { v with path := readPath .web (if Kind.web.isSlash c then path else c :: path) } :
      Except Error Url) = .ok { v with path := readPath .web ((tail ++ path).drop 1) } := by
  cases hfull : tail ++ path with
  | nil => rfl
  | cons c rest =>
    have hslash : Kind.web.isSlash c := by
      cases tail with
      | nil =>
        rw [List.nil_append] at hfull
        simpa [isPlace] using hpath c (by rw [hfull]; rfl)
      | cons d tail =>
        obtain ⟨rfl, -⟩ := List.cons.inj hfull
        rw [htail d rfl]
        rfl
    dsimp only
    rw [if_pos hslash]
    rfl

/-- **Host and path of a web address** are read apart, and nothing else of the address matters. -/
theorem readWithAuthority_of_ok {u v : Url} (hweb : Kind.ofScheme u.scheme = .web)
    (h : readWithAuthority u rest = .ok v) :
    ∃ user password host port tail,
      v = u.located user password host port
        (readPath .web ((tail ++ rest.dropWhile isPlace).drop 1)) ∧
      rest.takeWhile isPlace ≠ [] ∧
      ∀ (w : Url) (rest' : List Char), w.scheme = u.scheme →
        rest'.takeWhile isPlace = rest.takeWhile isPlace →
        readWithAuthority w rest' = .ok (w.located user password host port
          (readPath .web ((tail ++ rest'.dropWhile isPlace).drop 1))) := by
  have hspan : ∀ t : List Char, t.span (fun c => !Kind.web.isSlash c) =
      (t.takeWhile isPlace, t.dropWhile isPlace) := fun t => List.span_eq_takeWhile_dropWhile _ t
  have hhead : ∀ t : List Char, ∀ c ∈ (t.dropWhile isPlace).head?, isPlace c = false := by
    intro t c hc
    have hnot := List.head?_dropWhile_not isPlace t
    rw [Option.mem_def.mp hc] at hnot
    exact hnot
  unfold readWithAuthority at h
  rw [hweb] at h
  dsimp only at h
  rw [hspan] at h
  obtain ⟨⟨v', tail⟩, hread, h⟩ := bind_eq_ok_iff.mp h
  obtain ⟨user, password, host, port, rfl, hne, htail, hall⟩ := readAuthority_of_ok hweb hread
  have hv := (readPath_tail _ htail (hhead rest)).symm.trans h
  obtain rfl := Except.ok.inj hv
  refine ⟨user, password, host, port, tail, rfl, hne, fun w rest' hw hplace => ?_⟩
  unfold readWithAuthority
  rw [hw, hweb]
  dsimp only
  rw [hspan, hplace]
  dsimp only [bind, Except.bind]
  rw [hall w _ hw]
  exact readPath_tail _ htail (hhead rest')

/-! ## Whole addresses -/

/-- Reads a web address from its parts. -/
def Parts.read (scheme : List Char) (p : Parts) : Except Error Url :=
  readWithAuthority (bare scheme p.query p.fragment) (p.place.dropWhile Kind.web.isSlash)

/-- **Reading a web address.** -/
theorem ofText_of_web (htext : ∀ c ∈ text, isEdge c = false)
    (hcut : cutScheme text = some (scheme, rest)) (hweb : Kind.ofScheme scheme = .web) :
    ofText text = (Parts.cut rest).read scheme := by
  unfold ofText
  rw [significant_of_no_edge htext, hcut]
  dsimp only
  rw [hweb]
  rfl

/-- Two texts behind the parts of an address: they belong to the last part that is there. -/
inductive Parts.Behind (a b : List Char) : Parts → Parts → Prop where
  | fragment (place : List Char) (query : Option (List Char)) (front : List Char) :
      Behind a b ⟨place, query, some (front ++ a)⟩ ⟨place, query, some (front ++ b)⟩
  | query (place front : List Char) :
      Behind a b ⟨place, some (front ++ a), none⟩ ⟨place, some (front ++ b), none⟩
  | place (front : List Char) : Behind a b ⟨front ++ a, none, none⟩ ⟨front ++ b, none, none⟩

/-- **A text without marks goes to the end of the last part.** -/
theorem Parts.cut_append {a b : List Char} (ha : '#' ∉ a ∧ '?' ∉ a) (hb : '#' ∉ b ∧ '?' ∉ b)
    (front : List Char) : Behind a b (cut (front ++ a)) (cut (front ++ b)) := by
  have hnot : ∀ {mark : Char} {x y : List Char}, mark ∉ x → mark ∉ y → mark ∉ x ++ y :=
    fun hx hy hmem => (List.mem_append.mp hmem).elim hx hy
  by_cases hhash : '#' ∈ front
  · obtain ⟨rest, front, rfl, hrest⟩ := List.eq_append_cons_of_mem hhash
    simp only [cut, List.append_assoc, List.cons_append, cutAt_append_cons hrest]
    exact .fragment _ _ front
  · by_cases hquery : '?' ∈ front
    · obtain ⟨rest, front, rfl, hrest⟩ := List.eq_append_cons_of_mem hquery
      simp only [cut, cutAt_of_not_mem (hnot hhash ha.1), cutAt_of_not_mem (hnot hhash hb.1)]
      simp only [List.append_assoc, List.cons_append, cutAt_append_cons hrest]
      exact .query rest front
    · simp only [cut, cutAt_of_not_mem (hnot hhash ha.1), cutAt_of_not_mem (hnot hhash hb.1),
        cutAt_of_not_mem (hnot hquery ha.2), cutAt_of_not_mem (hnot hquery hb.2)]
      exact .place front

/-- What is written behind host and port. -/
def tailText (u : Url) : List Char := u.pathText ++ marked '?' u.query ++ marked '#' u.fragment

/-- The address with another path, query and fragment. -/
def pointed (u : Url) (path : Path) (query fragment : Option (List Char)) : Url :=
  { u with path, query, fragment }

theorem plainChar_of_mem_text (hplain : ∀ n ∈ names, IsPlain n) :
    ∀ c ∈ Path.text (.segments names), PlainChar c := by
  intro c hc
  obtain ⟨n, hn, hc⟩ := List.mem_flatMap.mp hc
  rcases List.mem_cons.mp hc with rfl | hc
  · exact plainChar_slash
  · exact plainChar_of_isAlphanum ((hplain n hn).2 c hc)

/-- A kept text behind another makes that longer by itself, if it makes it longer at all. -/
theorem length_encode_append_le (keeps : UInt8 → Bool)
    (h : ∀ c ∈ text, c.toNat < 128 ∧ keeps c.toUInt8) (a b : List Char) :
    (Percent.encode keeps (a ++ text)).length ≤
      (Percent.encode keeps (a ++ b)).length + text.length := by
  rw [Percent.encode_append, Percent.encode_append, Percent.encode_of_keeps h, List.length_append,
    List.length_append]
  omega

/-- What cannot belong to a place that was begun is cut off behind it. -/
theorem span_place_append {front b : List Char} (hfront : front.dropWhile Kind.web.isSlash ≠ [])
    (hb : ∀ c ∈ b.head?, isPlace c = false) :
    ((front ++ b).dropWhile Kind.web.isSlash).takeWhile isPlace =
        (front.dropWhile Kind.web.isSlash).takeWhile isPlace ∧
      ((front ++ b).dropWhile Kind.web.isSlash).dropWhile isPlace =
        (front.dropWhile Kind.web.isSlash).dropWhile isPlace ++ b := by
  have hbegun : ¬ (front.dropWhile Kind.web.isSlash).isEmpty := fun hempty =>
    hfront (List.isEmpty_iff.mp hempty)
  rw [List.dropWhile_append, if_neg hbegun]
  exact Prod.mk.inj ((List.span_eq_takeWhile_dropWhile _ _).symm.trans (span_append_of_head _ hb))

theorem isPlace_of_slashes (hslashes : ∀ c ∈ slashes, c = '/') :
    ∀ c ∈ slashes.head?, isPlace c = false := by
  intro c hc
  rw [hslashes c (List.mem_of_head? hc)]
  rfl

/-- A place does not begin with the slashes that end a text. -/
theorem begun_of_place {front : List Char} (hslashes : ∀ c ∈ slashes, c = '/')
    (hplace : ((front ++ slashes).dropWhile Kind.web.isSlash).takeWhile isPlace ≠ []) :
    front.dropWhile Kind.web.isSlash ≠ [] := by
  intro hempty
  have hall : ∀ c ∈ slashes, Kind.web.isSlash c := fun c hc => by
    rw [hslashes c hc]
    rfl
  refine hplace ?_
  rw [List.dropWhile_append, if_pos (List.isEmpty_iff.mpr hempty), List.dropWhile_eq_nil_iff.mpr hall]
  rfl

/-- **What does not belong to the place can be read** behind the parts of an address, in the place of
slashes. -/
theorem Parts.Behind.exists_read {p q : Parts} {b : List Char} (h : Behind slashes b p q)
    (hslashes : ∀ c ∈ slashes, c = '/') (hb : ∀ c ∈ b.head?, isPlace c = false)
    (hweb : Kind.ofScheme scheme = .web) {u : Url} (hread : p.read scheme = .ok u) :
    ∃ v, q.read scheme = .ok v := by
  obtain ⟨user, password, host, port, tail, -, hplace, hall⟩ :=
    readWithAuthority_of_ok (u := bare scheme p.query p.fragment) hweb hread
  cases h with
  | fragment place query front => exact ⟨_, hall (bare scheme query _) _ rfl rfl⟩
  | query place front => exact ⟨_, hall (bare scheme _ none) _ rfl rfl⟩
  | place front =>
    have hfront := begun_of_place hslashes hplace
    obtain ⟨htake, -⟩ := span_place_append hfront (isPlace_of_slashes hslashes)
    obtain ⟨htake', -⟩ := span_place_append hfront hb
    exact ⟨_, hall (bare scheme none none) _ rfl (htake'.trans htake.symm)⟩

/-- **A path of plain names behind the parts of an address**, in the place of slashes. -/
theorem Parts.Behind.read {p q : Parts} (h : Behind slashes (Path.text (.segments names)) p q)
    (hslashes : ∀ c ∈ slashes, c = '/') (hplain : ∀ n ∈ names, IsPlain n) (hne : names ≠ [])
    (hweb : Kind.ofScheme scheme = .web) {u : Url} (hread : p.read scheme = .ok u) :
    ∃ path query fragment, q.read scheme = .ok (u.pointed path query fragment) ∧
      (u.pointed path query fragment).tailText.length ≤ u.tailText.length + Path.size names := by
  have hchars := plainChar_of_mem_text hplain
  obtain ⟨user, password, host, port, tail, rfl, hplace, hall⟩ :=
    readWithAuthority_of_ok (u := bare scheme p.query p.fragment) hweb hread
  cases h with
  | fragment place query front =>
    refine ⟨_, _, _, hall (bare scheme query _) _ rfl rfl, ?_⟩
    have hlength := length_encode_append_le Percent.inFragment
      (fun c hc => ⟨(hchars c hc).ascii, (hchars c hc).inFragment⟩) front slashes
    simp only [tailText, pathText, pointed, located, bare, marked, Option.map_some, Option.getD_some,
      List.length_append, List.length_cons, Path.size]
    omega
  | query place front =>
    refine ⟨_, _, _, hall (bare scheme _ none) _ rfl rfl, ?_⟩
    have hlength := length_encode_append_le Percent.inSpecialQuery
      (fun c hc => ⟨(hchars c hc).ascii, (hchars c hc).inQuery⟩) front slashes
    simp only [tailText, pathText, pointed, located, bare, marked, hweb, reduceCtorEq, if_false,
      Option.map_some, Option.map_none, Option.getD_some, Option.getD_none, List.length_append,
      List.length_cons, List.length_nil, Path.size]
    omega
  | place front =>
    have hslash := isPlace_of_slashes hslashes
    have hnames : ∀ c ∈ (Path.text (.segments names)).head?, isPlace c = false := by
      obtain ⟨n, rest, rfl⟩ := List.exists_cons_of_ne_nil hne
      rintro c ⟨⟩
      rfl
    have hfront := begun_of_place hslashes hplace
    obtain ⟨htake, hdrop⟩ := span_place_append hfront hslash
    obtain ⟨htake', hdrop'⟩ := span_place_append hfront hnames
    rw [hdrop]
    refine ⟨_, none, none, hall (bare scheme none none)
      ((front ++ Path.text (.segments names)).dropWhile Kind.web.isSlash) rfl
      (htake'.trans htake.symm), ?_⟩
    rw [hdrop', ← List.append_assoc, ← List.append_assoc]
    have hlength := length_readPath_le hplain hne hslashes .web
      (tail ++ (front.dropWhile Kind.web.isSlash).dropWhile isPlace)
    simp only [tailText, pathText, pointed, located, bare, marked, Option.map_none,
      Option.getD_none, List.append_nil]
    exact hlength

/-- **A text without marks behind an address**, in the place of slashes that end it, goes behind the
parts of the address. -/
theorem exists_behind_of_ofText {u : Url} (hbase : ∀ c ∈ base ++ slashes, isEdge c = false)
    (hslashes : ∀ c ∈ slashes, c = '/') (h : ofText (base ++ slashes) = .ok u)
    (hweb : Kind.ofScheme u.scheme = .web) :
    ∃ p : Parts, p.read u.scheme = .ok u ∧
      ∀ b, (∀ c ∈ b, isEdge c = false ∧ c ≠ '#' ∧ c ≠ '?') →
        ∃ q, Parts.Behind slashes b p q ∧ ofText (base ++ b) = q.read u.scheme := by
  obtain ⟨rest, hcut, -⟩ := completes_of_ofText h
  rw [significant_of_no_edge hbase] at hcut
  obtain ⟨c, more, hparts, halpha, hmore, hscheme⟩ := cutScheme_eq_some_iff.mp hcut
  obtain ⟨front, rfl, rfl⟩ := exists_of_append_slashes hslashes (by decide) hparts
  rw [ofText_of_web hbase hcut hweb] at h
  refine ⟨_, h, fun b hb => ?_⟩
  have hedge : ∀ d ∈ (c :: more ++ ':' :: front) ++ b, isEdge d = false := by
    refine List.forall_mem_append.mpr ⟨fun d hd => ?_, fun d hd => (hb d hd).1⟩
    exact hbase d (List.mem_append_left _ hd)
  have hcut' : cutScheme ((c :: more ++ ':' :: front) ++ b) = some (u.scheme, front ++ b) :=
    cutScheme_eq_some_iff.mpr ⟨c, more, by simp, halpha, hmore, hscheme⟩
  have hmarks : '#' ∉ slashes ∧ '?' ∉ slashes :=
    ⟨fun hmem => absurd (hslashes _ hmem) (by decide), fun hmem => absurd (hslashes _ hmem) (by decide)⟩
  have hmarks' : '#' ∉ b ∧ '?' ∉ b :=
    ⟨fun hmem => (hb _ hmem).2.1 rfl, fun hmem => (hb _ hmem).2.2 rfl⟩
  exact ⟨_, Parts.cut_append hmarks hmarks' front, ofText_of_web hedge hcut' hweb⟩

/-- Joining takes the slashes off the end of an address and off the front of a path. -/
theorem exists_toList_join (base path : String) :
    ∃ front slashes, base.toList = front ++ slashes ∧ (∀ c ∈ slashes, c = '/') ∧
      (join base path).toList = front ++ '/' :: path.toList.dropWhile (· = '/') := by
  refine ⟨_, _, List.rdropWhile_append_rtakeWhile.symm, fun d hd => ?_, toList_join base path⟩
  simpa using List.mem_rtakeWhile_imp hd

/-- A path of plain names has one slash to take off. -/
theorem dropWhile_text (hplain : ∀ n ∈ names, IsPlain n) (hne : names ≠ []) :
    '/' :: (Path.text (.segments names)).dropWhile (· = '/') = Path.text (.segments names) := by
  obtain ⟨n, rest, rfl⟩ := List.exists_cons_of_ne_nil hne
  obtain ⟨⟨hn, hchars⟩, -⟩ := List.forall_mem_cons.mp hplain
  obtain ⟨c, n, rfl⟩ := List.exists_cons_of_ne_nil hn
  have hc : (c = '/' : Bool) = false := decide_eq_false fun heq => by
    have halnum := hchars c List.mem_cons_self
    rw [heq] at halnum
    cases halnum
  change '/' :: List.dropWhile _ ('/' :: c :: (n ++ Path.text (.segments rest))) = _
  rw [List.dropWhile_cons, if_pos (decide_eq_true rfl), List.dropWhile_cons, hc,
    if_neg Bool.false_ne_true]
  rfl

/-- **A path of plain names joined to an address.** -/
theorem parse_join {base : String} {u : Url} (hbase : ∀ c ∈ base.toList, isEdge c = false)
    (h : parse base = .ok u) (hweb : Kind.ofScheme u.scheme = .web)
    (hplain : ∀ n ∈ names, IsPlain n) (hne : names ≠ []) :
    ∃ path query fragment,
      parse (join base (String.ofList (Path.text (.segments names)))) =
        .ok (u.pointed path query fragment) ∧
      (u.pointed path query fragment).tailText.length ≤ u.tailText.length + Path.size names := by
  have hchars := plainChar_of_mem_text hplain
  obtain ⟨front, slashes, hparts, hslashes, hjoin⟩ :=
    exists_toList_join base (String.ofList (Path.text (.segments names)))
  rw [String.toList_ofList, dropWhile_text hplain hne] at hjoin
  rw [parse, hparts] at h
  rw [hparts] at hbase
  obtain ⟨p, hread, hbehind⟩ := exists_behind_of_ofText hbase hslashes h hweb
  obtain ⟨q, hq, htext⟩ := hbehind (Path.text (.segments names))
    fun c hc => ⟨(hchars c hc).no_edge, (hchars c hc).ne_hash, (hchars c hc).ne_query⟩
  rw [parse, hjoin, htext]
  exact hq.read hslashes hplain hne hweb hread

/-- **A path without marks can be joined** to a web address without blanks. -/
theorem exists_parse_join {base path : String} {u : Url}
    (hbase : ∀ c ∈ base.toList, isEdge c = false) (h : parse base = .ok u)
    (hweb : Kind.ofScheme u.scheme = .web)
    (hpath : ∀ c ∈ path.toList, isEdge c = false ∧ c ≠ '#' ∧ c ≠ '?') :
    ∃ v, parse (join base path) = .ok v := by
  obtain ⟨front, slashes, hparts, hslashes, hjoin⟩ := exists_toList_join base path
  rw [parse, hparts] at h
  rw [hparts] at hbase
  obtain ⟨p, hread, hbehind⟩ := exists_behind_of_ofText hbase hslashes h hweb
  have hslash : isEdge '/' = false ∧ '/' ≠ '#' ∧ '/' ≠ '?' := by decide
  obtain ⟨q, hq, htext⟩ := hbehind ('/' :: path.toList.dropWhile (· = '/'))
    (List.forall_mem_cons.mpr ⟨hslash, fun c hc => hpath c ((List.dropWhile_sublist _).mem hc)⟩)
  rw [parse, hjoin, htext]
  refine hq.exists_read hslashes ?_ hweb hread
  rintro c ⟨⟩
  rfl

/-- An address of a host with a query of characters that stand for themselves there. -/
theorem exists_parse_query {query : List Char} (h : ∀ c ∈ query, PlainChar c) :
    ∃ u, parse (String.ofList ("http://h?".toList ++ query)) = .ok u ∧
      u.scheme = "http".toList ∧ u.host = some ['h'] ∧ u.query = some query := by
  have hfront : ∀ c ∈ "http://h?".toList, isEdge c = false := by simp [isEdge]
  have hscheme : ∀ c ∈ "ttp".toList, inScheme c := by simp [inScheme]
  have hcut : cutScheme ("http://h?".toList ++ query) =
      some ("http".toList, "//h?".toList ++ query) :=
    cutScheme_eq_some_iff.mpr ⟨'h', "ttp".toList, rfl, rfl, hscheme, by decide⟩
  have hhash : '#' ∉ "//h?".toList ++ query := fun hmem =>
    (List.mem_append.mp hmem).elim (by decide) fun hc => (h _ hc).ne_hash rfl
  have hmark : '?' ∉ "//h".toList := by decide
  have hquery : cutAt '?' ("//h?".toList ++ query) = ("//h".toList, some query) :=
    cutAt_append_cons hmark
  have hparts : Parts.cut ("//h?".toList ++ query) = ⟨"//h".toList, some query, none⟩ := by
    rw [Parts.cut, cutAt_of_not_mem hhash]
    dsimp only
    rw [hquery]
  have hencode : Percent.encode Percent.inSpecialQuery query = query :=
    Percent.encode_of_keeps fun c hc => ⟨(h c hc).ascii, (h c hc).inQuery⟩
  -- The place is read as it is without a query.
  have hplace : readWithAuthority (bare "http".toList none none) ['h'] =
      .ok { bare "http".toList none none with host := some ['h'], path := .segments [[]] } := by
    decide +kernel
  have hweb : Kind.ofScheme "http".toList = .web := by decide
  obtain ⟨user, password, host, port, tail, hlocated, -, hall⟩ := readWithAuthority_of_ok hweb hplace
  obtain rfl : ['h'] = host := Option.some.inj (congrArg Url.host hlocated)
  have hread := hall (bare "http".toList (some query) none) ['h'] rfl rfl
  have hparse := ofText_of_web
    (List.forall_mem_append.mpr ⟨hfront, fun c hc => (h c hc).no_edge⟩) hcut hweb
  rw [hparts] at hparse
  exact ⟨_, (congrArg ofText String.toList_ofList).trans (hparse.trans hread), rfl, rfl,
    congrArg some hencode⟩

/-- **A joined address has no marks** if base and path have none. -/
theorem marks_of_parse_join {base path : String} {u v : Url} (h : parse base = .ok u)
    (hquery : u.query = none) (hfragment : u.fragment = none)
    (hpath : '?' ∉ path.toList ∧ '#' ∉ path.toList) (hjoin : parse (join base path) = .ok v) :
    v.query = none ∧ v.fragment = none := by
  obtain ⟨front, slashes, hparts, -, htext⟩ := exists_toList_join base path
  obtain ⟨hbase, hbase'⟩ := (marks_eq_none_iff h).mp ⟨hquery, hfragment⟩
  have hnot : ∀ c, c ≠ '/' → c ∉ base.toList → c ∉ path.toList → c ∉ (join base path).toList := by
    intro c hslash hbase hpath hc
    rw [htext, List.mem_append, List.mem_cons] at hc
    rcases hc with hfront | rfl | hrest
    · exact hbase (hparts ▸ List.mem_append_left slashes hfront)
    · exact hslash rfl
    · exact hpath ((List.dropWhile_sublist _).mem hrest)
  exact (marks_eq_none_iff hjoin).mpr
    ⟨hnot '?' (by decide) hbase hpath.1, hnot '#' (by decide) hbase' hpath.2⟩

end AddressedStorage.Url
