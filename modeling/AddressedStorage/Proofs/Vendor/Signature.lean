import AddressedStorage.Proofs.Http.Form
import AddressedStorage.Proofs.Vendor.Adapter

/-!
# Proofs/Vendor/Signature — a signature binds one request

Method, path and query are signed on a line each, and none of them has a line end in it, so what is
signed falls apart again into the three (`RequestSigner.signedText_inj`).  The query is read back as
arguments and time (`Gw3.IsSigned`).  So two calls that differ are not signed over one text
(`Gw3.sign_binds`).
-/

namespace AddressedStorage

open Http

/-- The word for a method stands on one line. -/
theorem Http.Method.newline_not_mem_name (m : Method) : '\n' ∉ m.name.toList := by
  intro hmem
  have htoken := m.isToken
  unfold Http.isToken at htoken
  have hchar := List.all_eq_true.mp (Bool.and_eq_true_iff.mp htoken).2 '\n' hmem
  revert hchar
  decide

/-- A method is its word. -/
theorem Http.Method.name_injective : Function.Injective Method.name := by
  rintro ⟨name, hname⟩ ⟨name', hname'⟩ h
  obtain rfl : name = name' := h
  rfl

namespace RequestSigner

variable {method path query method' path' query' : String}

theorem toList_signedText (method path query : String) :
    (signedText method path query).toList =
      method.toList ++ '\n' :: (path.toList ++ '\n' :: query.toList) := by
  simp [signedText, toString, String.toList_append]

/-- **What is signed falls apart** into method, path and query. -/
theorem signedText_inj (hmethod : '\n' ∉ method.toList) (hmethod' : '\n' ∉ method'.toList)
    (hpath : '\n' ∉ path.toList) (hpath' : '\n' ∉ path'.toList)
    (h : signedText method path query = signedText method' path' query') :
    method = method' ∧ path = path' ∧ query = query' := by
  have htext := congrArg (Url.cutAt '\n') (congrArg String.toList h)
  rw [toList_signedText, toList_signedText, Url.cutAt_append_cons hmethod,
    Url.cutAt_append_cons hmethod'] at htext
  obtain ⟨hname, hrest⟩ := Prod.mk.inj htext
  have hlines := congrArg (Url.cutAt '\n') (Option.some.inj hrest)
  rw [Url.cutAt_append_cons hpath, Url.cutAt_append_cons hpath'] at hlines
  obtain ⟨hplace, hquery⟩ := Prod.mk.inj hlines
  exact ⟨String.toList_inj.mp hname, String.toList_inj.mp hplace,
    String.toList_inj.mp (Option.some.inj hquery)⟩

theorem count_newline_signedText (hmethod : '\n' ∉ method.toList) (hpath : '\n' ∉ path.toList)
    (hquery : '\n' ∉ query.toList) : (signedText method path query).toList.count '\n' = 2 := by
  rw [toList_signedText, List.count_append, List.count_cons_self, List.count_append,
    List.count_cons_self, List.count_eq_zero.mpr hmethod, List.count_eq_zero.mpr hpath,
    List.count_eq_zero.mpr hquery]

end RequestSigner

namespace Vendor.Gw3

/-- The paths that calls are signed for: of content, of uploads and of pins. -/
inductive IsPath : String → Prop where
  | content (cid : Cid) : IsPath s!"{contentPath}/{cid}"
  | upload : IsPath s!"{contentPath}/"
  | pin : IsPath Kubo.pinPath

/-- A call that is signed: what is asked, where, with which arguments and when. -/
structure Call where
  method : Method
  path : String
  isPath : IsPath path
  arguments : List Form.Pair
  seconds : Nat

/-- The address of a call and its signature. -/
def Call.sign (hash : HashFunction) (g : Gw3) (call : Call) : Except ExchangeError (Url × String) :=
  g.signedUrl hash call.method call.path call.arguments call.seconds

/-- The text that a call is signed over: the method, and path and query of the address it goes to. -/
def signedOver (method : Method) (u : Url) : String :=
  RequestSigner.signedText method.name (String.ofList u.pathText) (String.ofList (u.query.getD []))

/-- What the address and the signature of a call tell of it. -/
structure IsSigned (hash : HashFunction) (g : Gw3) (call : Call) (u : Url) (signature : String) :
    Prop where
  /-- The query that is sent is there, and read back as the arguments and the time. -/
  query : ∃ query, u.query = some query ∧
    Form.decode? query = some (call.arguments ++ [("ts", toString call.seconds)])
  /-- Just that query is signed. -/
  signature_eq : signature = Base64.encodeString
    (Hmac.digest hash g.signer.secret (signedOver call.method u).toByteArray).toList
  /-- What is signed has three lines. -/
  lines : (signedOver call.method u).toList.count '\n' = 2

variable {hash : HashFunction} {g : Gw3} {base u u' v : Url} {path signature signature' : String}
  {call call' : Call}

theorem IsPath.no_marks (h : IsPath path) :
    ∀ c ∈ path.toList, Url.isEdge c = false ∧ c ≠ '#' ∧ c ≠ '?' := by
  cases h with
  | content cid =>
    intro c hc
    rw [contentPath_eq, String.toList_ofList] at hc
    have hchar := Url.plainChar_of_mem_text (isPlain_contentNames cid) c hc
    exact ⟨hchar.no_edge, hchar.ne_hash, hchar.ne_query⟩
  | upload => simp [contentPath, Url.isEdge, toString]
  | pin => simp [Kubo.pinPath, Url.isEdge]

/-- A signed call goes to a joined address with the arguments in its query. -/
theorem exists_of_sign (h : call.sign hash g = .ok (u, signature)) :
    ∃ v, Url.parse (Url.join g.url call.path) = .ok v ∧
      u = v.withPairs (signedPairs call.arguments call.seconds) ∧
      signature = Base64.encodeString
        (Hmac.digest hash g.signer.secret (signedOver call.method u).toByteArray).toList := by
  unfold Call.sign signedUrl at h
  dsimp only at h
  split at h
  · cases h
  · rename_i v hparse
    obtain ⟨rfl, rfl⟩ := Prod.mk.inj (Except.ok.inj h)
    exact ⟨v, hparse, rfl, rfl⟩

/-- Pairs are the whole query of an address without one. -/
theorem query_withPairs {pairs : List Form.Pair} (hquery : v.query = none) (hne : pairs ≠ []) :
    (v.withPairs pairs).query = some (Form.encode pairs) := by
  have hextend : Form.extend (v.query.getD []) pairs = Form.encode pairs := by
    rw [hquery]
    exact if_pos (.inl rfl)
  unfold Url.withPairs
  dsimp only
  rw [hextend, if_neg (Form.encode_ne_nil hne)]

theorem newline_not_mem_pathText {text : String} (h : Url.parse text = .ok v) :
    '\n' ∉ (String.ofList v.pathText).toList := by
  rw [String.toList_ofList]
  intro hmem
  have hprinted := Url.le_of_mem_pathText h hmem
  revert hprinted
  decide

/-- **A signed call** sends the query it signs. -/
theorem isSigned_of_sign (hbase : Url.parse g.url = .ok base) (hquery : base.query = none)
    (hfragment : base.fragment = none) (h : call.sign hash g = .ok (u, signature)) :
    IsSigned hash g call u signature := by
  obtain ⟨v, hparse, rfl, hsignature⟩ := exists_of_sign h
  have hmarks : '?' ∉ call.path.toList ∧ '#' ∉ call.path.toList :=
    ⟨fun hmem => (call.isPath.no_marks _ hmem).2.2 rfl,
      fun hmem => (call.isPath.no_marks _ hmem).2.1 rfl⟩
  obtain ⟨hnone, -⟩ := Url.marks_of_parse_join hbase hquery hfragment hmarks hparse
  have hsent := query_withPairs hnone (List.append_ne_nil_of_right_ne_nil call.arguments
    (List.cons_ne_nil ("ts", toString call.seconds) []))
  have hplace : '\n' ∉ (String.ofList v.pathText).toList := newline_not_mem_pathText hparse
  refine ⟨⟨_, hsent, Form.decode?_encode _⟩, hsignature, ?_⟩
  refine RequestSigner.count_newline_signedText call.method.newline_not_mem_name hplace ?_
  rw [signedPairs, hsent, Option.getD_some, String.toList_ofList]
  exact fun hmem => Form.ne_newline_of_mem_encode hmem rfl

/-- **What calls are signed over tells them apart.** -/
theorem eq_of_signedOver (hu : call.sign hash g = .ok (u, signature))
    (hu' : call'.sign hash g = .ok (u', signature')) (hsigned : IsSigned hash g call u signature)
    (hsigned' : IsSigned hash g call' u' signature')
    (h : signedOver call.method u = signedOver call'.method u') :
    call.method = call'.method ∧ u.pathText = u'.pathText ∧ call.arguments = call'.arguments ∧
      call.seconds = call'.seconds := by
  obtain ⟨v, hparse, rfl, -⟩ := exists_of_sign hu
  obtain ⟨v', hparse', rfl, -⟩ := exists_of_sign hu'
  have hplace : '\n' ∉ (String.ofList v.pathText).toList := newline_not_mem_pathText hparse
  have hplace' : '\n' ∉ (String.ofList v'.pathText).toList := newline_not_mem_pathText hparse'
  obtain ⟨hname, hpaths, hqueries⟩ := RequestSigner.signedText_inj call.method.newline_not_mem_name
    call'.method.newline_not_mem_name hplace hplace' h
  obtain ⟨query, hquery, hdecode⟩ := hsigned.query
  obtain ⟨query', hquery', hdecode'⟩ := hsigned'.query
  rw [hquery, hquery', Option.getD_some, Option.getD_some, String.ofList_inj] at hqueries
  rw [hqueries, hdecode', Option.some_inj] at hdecode
  obtain ⟨harguments, htime⟩ := List.append_inj' hdecode.symm rfl
  have hseconds : toString call.seconds = toString call'.seconds :=
    congrArg Prod.snd (List.singleton_inj.mp htime)
  exact ⟨Method.name_injective hname, String.ofList_inj.mp hpaths, harguments,
    Nat.repr_inj.mp hseconds⟩

/-- **A signature binds one request.**  At an address without query and fragment, the query that is sent
is the one that is signed, and it is read back as the arguments in their order and the time; what is
signed has just the two line ends that keep method, path and query apart.  So two calls that differ in
method, path, arguments or time are not signed over one text.  At a web address without blanks every
call can be signed. -/
theorem sign_binds (hash : HashFunction) {g : Gw3} {base : Url} (hbase : Url.parse g.url = .ok base)
    (hquery : base.query = none) (hfragment : base.fragment = none) :
    (∀ (call : Call) u signature, call.sign hash g = .ok (u, signature) →
      IsSigned hash g call u signature) ∧
    (∀ (call call' : Call) u u' signature signature', call.sign hash g = .ok (u, signature) →
      call'.sign hash g = .ok (u', signature') →
      (call.method ≠ call'.method ∨ u.pathText ≠ u'.pathText ∨ call.arguments ≠ call'.arguments ∨
        call.seconds ≠ call'.seconds) →
      signedOver call.method u ≠ signedOver call'.method u') ∧
    (Url.Kind.ofScheme base.scheme = .web → (∀ c ∈ g.url.toList, Url.isEdge c = false) →
      ∀ call : Call, ∃ u signature, call.sign hash g = .ok (u, signature)) := by
  have hsigned : ∀ (call : Call) u signature, call.sign hash g = .ok (u, signature) →
      IsSigned hash g call u signature := fun call u signature =>
    isSigned_of_sign hbase hquery hfragment
  refine ⟨hsigned, ?_, ?_⟩
  · intro call call' u u' signature signature' hu hu' hdiffer h
    obtain ⟨hmethod, hpath, harguments, hseconds⟩ :=
      eq_of_signedOver hu hu' (hsigned _ _ _ hu) (hsigned _ _ _ hu') h
    rcases hdiffer with hne | hne | hne | hne
    · exact hne hmethod
    · exact hne hpath
    · exact hne harguments
    · exact hne hseconds
  · intro hweb hedge call
    obtain ⟨v, hparse⟩ := Url.exists_parse_join hedge hbase hweb call.isPath.no_marks
    exact ⟨_, _, signedUrl_of_parse hparse hash call.arguments call.seconds⟩

/-- Two uploads to the gateway's own address: of one argument, and of two with the same characters. -/
theorem sign_binds_defaultUrl :
    let g : Gw3 := ⟨defaultUrl, ⟨"key", [1, 2, 3]⟩⟩
    let one : Call := ⟨.post, _, .upload, [("a", "b&c=d\n")], 0⟩
    let two : Call := ⟨.post, _, .upload, [("a", "b"), ("c", "d\n")], 0⟩
    ∃ u u' signature signature', one.sign (fun _ => .zero) g = .ok (u, signature) ∧
      two.sign (fun _ => .zero) g = .ok (u', signature') ∧
      IsSigned (fun _ => .zero) g one u signature ∧ signedOver .post u ≠ signedOver .post u' := by
  intro g one two
  have hbase : Url.parse g.url = .ok ⟨"https".toList, [], [], some "gw3.io".toList, none,
      .segments [[]], none, none⟩ := by decide +kernel
  obtain ⟨hsigned, hbinds, htotal⟩ := sign_binds (fun _ => .zero) hbase rfl rfl
  have hedge : ∀ c ∈ g.url.toList, Url.isEdge c = false := by simp [g, defaultUrl, Url.isEdge]
  obtain ⟨u, signature, hu⟩ := htotal (by decide +kernel) hedge one
  obtain ⟨u', signature', hu'⟩ := htotal (by decide +kernel) hedge two
  have hdiffer : one.arguments ≠ two.arguments := by decide
  exact ⟨u, u', signature, signature', hu, hu', hsigned one u signature hu,
    hbinds one two u u' signature signature' hu hu' (.inr (.inr (.inl hdiffer)))⟩

end Vendor.Gw3

end AddressedStorage
