import AddressedStorage.Proofs.Except
import AddressedStorage.Proofs.Http.Sent
import AddressedStorage.Proofs.Http.Url.Join

/-!
# Proofs/Http/Request — requests that can be sent

A request to a web server with an address of bounded length can be sent, and headers without control
characters leave that so (`Request.Ready`).  An address has **room** for as many characters as it may
get longer; a path joined to it and pairs in its query use it up (`Url.Roomy`).
-/

namespace AddressedStorage

open Http

variable {room : Nat} {u : Url}

namespace Url

/-- An address of a web server that may get longer by `room` characters.  The characters that its host
is free of are in no domain. -/
structure Roomy (room : Nat) (u : Url) : Prop where
  scheme : u.scheme = "http".toList ∨ u.scheme = "https".toList
  host : ∃ host, u.host = some host ∧ host ≠ [] ∧ host.any "\"`\x7b\x7d".toList.contains = false
  length : u.text.length + room ≤ Request.urlLimit

/-- An address that a path may be joined to: without blanks and controls, and read as one of a web
server with room. -/
structure WellFormed (room : Nat) (base : String) : Prop where
  no_edge : ∀ c ∈ base.toList, isEdge c = false
  roomy : ∃ u, parse base = .ok u ∧ u.Roomy room

theorem Roomy.mono {k : Nat} (h : u.Roomy k) (hle : room ≤ k) : u.Roomy room :=
  { h with length := (Nat.add_le_add_left hle _).trans h.length }

theorem WellFormed.mono {base : String} {k : Nat} (h : WellFormed k base) (hle : room ≤ k) :
    WellFormed room base where
  no_edge := h.no_edge
  roomy :=
    let ⟨u, hparse, hroomy⟩ := h.roomy
    ⟨u, hparse, hroomy.mono hle⟩

instance (room : Nat) (u : Url) : Decidable (u.Roomy room) :=
  decidable_of_iff
    ((u.scheme = "http".toList ∨ u.scheme = "https".toList) ∧
      (∃ host ∈ u.host, host ≠ [] ∧ host.any "\"`\x7b\x7d".toList.contains = false) ∧
      u.text.length + room ≤ Request.urlLimit)
    ⟨fun ⟨hscheme, hhost, hlength⟩ => ⟨hscheme, hhost, hlength⟩,
      fun h => ⟨h.scheme, h.host, h.length⟩⟩

instance (room : Nat) (base : String) : Decidable (WellFormed room base) :=
  decidable_of_iff
    (base.toList.all (fun c => !isEdge c) = true ∧ ∃ u ∈ (parse base).toOption, u.Roomy room)
    ⟨fun ⟨hedge, u, hu, hroomy⟩ => ⟨by simpa using hedge, u, toOption_eq_some_iff.mp hu, hroomy⟩,
      fun h => ⟨by simpa using h.no_edge,
        h.roomy.imp fun _ hu => ⟨toOption_eq_some_iff.mpr hu.1, hu.2⟩⟩⟩

theorem length_text (hhost : u.host.isSome) :
    u.text.length =
      u.scheme.length + 3 + u.userInfo.length + u.authority.length + u.tailText.length := by
  rw [text, if_pos hhost]
  simp only [tailText, List.length_append, List.length_cons]
  omega

/-- **Another path, query and fragment** use up room. -/
theorem Roomy.pointed {k : Nat} (h : u.Roomy (room + k)) {path : Path}
    {query fragment : Option (List Char)}
    (hle : (u.pointed path query fragment).tailText.length ≤ u.tailText.length + k) :
    (u.pointed path query fragment).Roomy room where
  scheme := h.scheme
  host := h.host
  length := by
    obtain ⟨host, hhost, -⟩ := h.host
    have hsome : u.host.isSome := hhost ▸ rfl
    have hlength := h.length
    rw [length_text hsome] at hlength
    rw [length_text (u := u.pointed path query fragment) hsome]
    change u.scheme.length + 3 + u.userInfo.length + u.authority.length + _ + room ≤ _
    omega

/-- A scheme of the web. -/
theorem Roomy.web (h : u.Roomy room) : Kind.ofScheme u.scheme = .web := by
  rcases h.scheme with hscheme | hscheme <;> rw [hscheme] <;> decide

/-- **A path of plain names joined to a well-formed address.** -/
theorem WellFormed.join {base : String} {names : List (List Char)}
    (h : WellFormed (room + Path.size names) base) (hplain : ∀ n ∈ names, IsPlain n)
    (hne : names ≠ []) :
    ∃ u, parse (join base (String.ofList (Path.text (.segments names)))) = .ok u ∧ u.Roomy room := by
  obtain ⟨u, hparse, hroomy⟩ := h.roomy
  obtain ⟨path, query, fragment, hjoin, hle⟩ := parse_join h.no_edge hparse hroomy.web hplain hne
  exact ⟨_, hjoin, hroomy.pointed hle⟩

theorem length_marked_le (query : List Char) :
    (marked '?' (if query = [] then none else some query)).length ≤ query.length + 1 := by
  split
  · exact Nat.zero_le _
  · exact Nat.le_refl _

theorem length_extend_le (query : List Char) (pairs : List Form.Pair) :
    (Form.extend query pairs).length ≤ query.length + 1 + (Form.encode pairs).length := by
  rw [Form.extend]
  split
  · rw [List.length_append]
    omega
  · rw [List.length_append, List.length_cons]
    omega

/-- **Pairs in the query** use up room. -/
theorem Roomy.withPairs {pairs : List Form.Pair}
    (h : u.Roomy (room + (1 + (Form.encode pairs).length))) : (u.withPairs pairs).Roomy room := by
  have hquery : (marked '?' (u.withPairs pairs).query).length ≤
      (marked '?' u.query).length + (1 + (Form.encode pairs).length) := by
    refine (length_marked_le _).trans ?_
    cases u.query with
    | none =>
      rw [Option.getD_none, Form.extend, if_pos (.inl rfl)]
      exact Nat.le_of_eq (by rw [List.nil_append, Nat.add_comm]; exact (Nat.zero_add _).symm)
    | some query =>
      have hextend := length_extend_le query pairs
      rw [Option.getD_some, marked, Option.map_some, Option.getD_some, List.length_cons]
      omega
  have hle : (u.withPairs pairs).tailText.length ≤
      u.tailText.length + (1 + (Form.encode pairs).length) := by
    simp only [tailText, List.length_append]
    change u.pathText.length + _ + (marked '#' u.fragment).length ≤ _
    omega
  exact h.pointed hle

/-- A login that is sent in a header leaves more room. -/
theorem Roomy.withoutLogin (h : u.Roomy room) :
    Roomy room { u with user := [], password := [] } where
  scheme := h.scheme
  host := h.host
  length := by
    obtain ⟨host, hhost, -⟩ := h.host
    have hsome : u.host.isSome := hhost ▸ rfl
    have hlength := h.length
    rw [length_text hsome] at hlength
    rw [length_text (u := { u with user := [], password := [] }) hsome]
    change u.scheme.length + 3 + 0 + u.authority.length + u.tailText.length + room ≤ _
    omega

end Url

namespace Http

/-- The header that a login in an address turns into. -/
def loginHeader? (u : Url) : Option Header :=
  (login? u).map fun login => basicAuthorization login.1 login.2

/-- The address without a login that is sent in a header. -/
def withoutLogin (u : Url) : Url :=
  if (login? u).isSome then { u with user := [], password := [] } else u

namespace Request

/-- **What is made of an address**: a login in it goes into a header, and there is no other. -/
theorem ofAddress_eq_ok_iff {method : Method} {address : String} {r : Request} :
    ofAddress method address = .ok r ↔ ∃ u, Url.parse address = .ok u ∧ u.host.getD [] ≠ [] ∧
      r = ⟨method, withoutLogin u, (loginHeader? u).toList, .empty⟩ := by
  have hbuilt : ∀ u : Url, u.host.getD [] ≠ [] →
      ofUrl method u = .ok ⟨method, withoutLogin u, (loginHeader? u).toList, .empty⟩ := fun u hhost => by
    rw [ofUrl, if_neg hhost, withoutLogin, loginHeader?]
    cases login? u <;> rfl
  rw [ofAddress]
  cases Url.parse address with
  | error e => simp
  | ok u =>
    change ofUrl method u = .ok r ↔ _
    constructor
    · intro h
      by_cases hhost : u.host.getD [] = []
      · rw [ofUrl, if_pos hhost] at h
        cases h
      · exact ⟨u, rfl, hhost, (Except.ok.inj ((hbuilt u hhost).symm.trans h)).symm⟩
    · rintro ⟨_, ⟨⟩, hhost, rfl⟩
      exact hbuilt u hhost

/-- Where nothing is made of an address, the request cannot be put together. -/
theorem ofAddress_eq_error {method : Method} {address : String} {failure : Failure}
    (h : ofAddress method address = .error failure) : ∃ url, failure = .unbuildable url := by
  rw [ofAddress] at h
  split at h
  · rw [ofUrl] at h
    split at h
    · exact ⟨_, (Except.error.inj h).symm⟩
    · split at h <;> cases h
  · exact ⟨_, (Except.error.inj h).symm⟩

/-- A request that can be put together and sent. -/
def Ready (request : Except Failure Request) : Prop := (sendable? request).isSome

theorem ready_iff {request : Except Failure Request} :
    Ready request ↔ ∃ r, request = .ok r ∧ r.isSendable := by
  cases request with
  | error failure => simp [Ready, sendable?, Except.toOption]
  | ok r => simp [Ready, sendable?, Except.toOption]

theorem isSendable_of_roomy {r : Request} (h : r.url.Roomy room) : r.isSendable := by
  obtain ⟨host, hhost, -, hclean⟩ := h.host
  have hscheme : (r.url.scheme == "http".toList || r.url.scheme == "https".toList) = true := by
    simpa using h.scheme
  have hlength : r.url.text.length ≤ urlLimit := Nat.le_of_add_right_le h.length
  rw [isSendable, hscheme, hhost, Option.getD_some, hclean, decide_eq_true hlength]
  rfl

/-- **A request to an address of a web server** can be sent. -/
theorem ready_ofUrl (h : u.Roomy room) (method : Method) : Ready (ofUrl method u) := by
  obtain ⟨host, hhost, hne, -⟩ := h.host
  have hgetD : u.host.getD [] ≠ [] := by rwa [hhost]
  rw [ofUrl, if_neg hgetD]
  cases login? u with
  | none => exact ready_iff.mpr ⟨_, rfl, isSendable_of_roomy h⟩
  | some login => exact ready_iff.mpr ⟨_, rfl, isSendable_of_roomy h.withoutLogin⟩

theorem ready_ofAddress {address : String} (hparse : Url.parse address = .ok u) (h : u.Roomy room)
    (method : Method) : Ready (ofAddress method address) := by
  rw [ofAddress, hparse]
  exact ready_ofUrl h method

/-- An address with too long a query cannot be asked. -/
theorem not_ready_of_query {address : String} {query : List Char}
    (hparse : Url.parse address = .ok u) (hquery : u.query = some query)
    (hlong : urlLimit < query.length) (method : Method) : ¬ Ready (ofAddress method address) := by
  intro hready
  obtain ⟨r, hr, hsendable⟩ := ready_iff.mp hready
  obtain ⟨v, hv, -, rfl⟩ := ofAddress_eq_ok_iff.mp hr
  obtain rfl : u = v := Except.ok.inj (hparse.symm.trans hv)
  have hkept : (withoutLogin u).query = some query := by
    rw [withoutLogin]
    split <;> exact hquery
  have hle : (withoutLogin u).text.length ≤ urlLimit := by
    simp only [isSendable, Bool.and_eq_true, decide_eq_true_eq] at hsendable
    exact hsendable.1.2
  rw [Url.text, hkept] at hle
  simp only [Url.marked, Option.map_some, Option.getD_some, List.length_append,
    List.length_cons] at hle
  omega

/-- **So can one with a header** that is one. -/
theorem Ready.withHeader {request : Except Failure Request} (h : Ready request) (name : String)
    {value : String} (hvalue : isHeaderValue value.toByteArray.data.toList) :
    Ready (request >>= Request.withHeader name value) := by
  obtain ⟨r, rfl, hr⟩ := ready_iff.mp h
  refine ready_iff.mpr ⟨{ r with headers := r.headers ++ [⟨name, value.toByteArray⟩] }, ?_, hr⟩
  exact if_pos hvalue

end Request

end Http

end AddressedStorage
