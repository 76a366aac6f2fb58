import AddressedStorage.Proofs.Fleet.Run
import AddressedStorage.Provider.Scripted

/-!
# Proofs/Fleet/Lasting — failures that come again

A failure is **lasting** if the same call fails in the same way whenever it is repeated.  A read gives a
provider up with such a failure at once and asks again after any other, as often as it may
(`fetch_gives_up_lasting`).  One lasting failure is taken for a passing one: an identifier that content
addressing refused (`fetch_repeats_wrapped`).
-/

namespace AddressedStorage

namespace ProviderError

/-- A failure that comes again whenever the call is repeated: a missing capability, an identifier that
cannot be read or verified, content that is too large. -/
inductive Lasting : ProviderError → Prop where
  | unsupported (provider : String) (operation : Operation) : Lasting (.unsupported provider operation)
  | identifier (cause : FormatError) : Lasting (.identifier cause)
  | wrapped (cause : FormatError) : Lasting (.addressing (.identifier cause))
  | contentTooLarge (size max : Nat) : Lasting (.addressing (.contentTooLarge size max))

/-- Whether the failure is an identifier that content addressing refused. -/
def isWrapped : ProviderError → Bool
  | addressing (.identifier _) => true
  | _ => false

/-- **The lasting failures but one are told from the passing ones.** -/
theorem isRetryable_eq_false_iff {e : ProviderError} :
    e.isRetryable = false ↔ e.Lasting ∧ e.isWrapped = false := by
  constructor
  · intro h
    rcases e with _ | _ | _ | ⟨provider, operation⟩ | _ | _ | cause |
      (⟨size, max⟩ | _ | reason | cause) <;> cases h
    · exact ⟨.unsupported provider operation, rfl⟩
    · exact ⟨.identifier cause, rfl⟩
    · exact ⟨.contentTooLarge size max, rfl⟩
  · rintro ⟨hlasting, hwrapped⟩
    cases hlasting with
    | wrapped cause => cases hwrapped
    | _ => rfl

end ProviderError

namespace Visit

variable {n retries : Nat} {v : Visit n} {outcome : Except ProviderError ByteArray}

/-- **A failure that leaves no hope ends a visit.** -/
theorem EndsWith.last_of_not_isRetryable (h : v.EndsWith retries outcome)
    {before after : List ProviderError} {e : ProviderError} (herrors : v.errors = before ++ e :: after)
    (he : e.isRetryable = false) : after = [] ∧ v.content = none ∧ outcome = .error e := by
  have hmem : e ∈ v.errors := herrors ▸ List.mem_append_right before List.mem_cons_self
  cases outcome with
  | ok content =>
    obtain ⟨-, -, hall⟩ := h
    cases he.symm.trans (hall e hmem)
  | error last =>
    obtain ⟨hcontent, ⟨earlier, hearlier, hall⟩, -, -⟩ := h
    rw [herrors] at hearlier
    rcases List.eq_nil_or_concat after with rfl | ⟨middle, f, rfl⟩
    · obtain ⟨-, heq⟩ := List.append_inj' hearlier rfl
      exact ⟨rfl, hcontent, congrArg Except.error (List.cons.inj heq).1.symm⟩
    · -- Something came after the failure, so it is among those that left hope.
      rw [List.concat_eq_append, ← List.cons_append, ← List.append_assoc] at hearlier
      obtain ⟨hfront, -⟩ := List.append_inj' hearlier rfl
      have hearly : e ∈ earlier := hfront ▸ List.mem_append_right before List.mem_cons_self
      cases he.symm.trans (hall e hearly)

/-- **After any other failure the provider is asked again** just if it was not yet asked as often as
allowed. -/
theorem EndsWith.asks_again_iff (h : v.EndsWith retries outcome) {before after : List ProviderError}
    {e : ProviderError} (herrors : v.errors = before ++ e :: after) (he : e.isRetryable) :
    (after ≠ [] ∨ v.content ≠ none) ↔ before.length + 1 < retries := by
  have hlength : v.errors.length = before.length + 1 + after.length := by
    rw [herrors, List.length_append, List.length_cons]
    omega
  cases outcome with
  | ok content =>
    obtain ⟨hcontent, hlt, -⟩ := h
    refine ⟨fun _ => by omega, fun _ => .inr ?_⟩
    rw [hcontent]
    exact Option.some_ne_none content
  | error last =>
    obtain ⟨hcontent, ⟨earlier, hearlier, -⟩, hle, heq⟩ := h
    constructor
    · rintro (hafter | hsome)
      · have := List.length_pos_of_ne_nil hafter
        omega
      · exact absurd hcontent hsome
    · intro hlt
      refine .inl fun hafter => ?_
      -- The failure is the last one, and it leaves hope.
      rw [herrors, hafter] at hearlier
      obtain ⟨-, hlast⟩ := List.append_inj' hearlier rfl
      have hfull := heq ((List.cons.inj hlast).1 ▸ he)
      rw [hlength, hafter, List.length_nil] at hfull
      omega

end Visit

namespace Fleet

variable {σ : Type} {hash : HashFunction} {fleet : Fleet σ} {cid : Cid} {start : Fin fleet.size}
  {frame : Option Frame} {visits : List (Visit fleet.size)} {result : Except FleetError ByteArray}
  {c : Cursor fleet.size} {s t : σ}

/-- **A walk goes on after a provider that did not answer**, as long as there are others. -/
theorem Walked.goes_on (h : fleet.Walked hash cid start frame 0 visits result c s t) {k : Nat}
    {v : Visit fleet.size} (hv : visits[k]? = some v) (hcontent : v.content = none)
    (hk : k + 1 < fleet.size) : k + 1 < visits.length := by
  have hlt : k < visits.length := (List.getElem?_eq_some_iff.mp hv).1
  cases hresult : result with
  | error e =>
    have := h.length_eq hresult
    omega
  | ok content =>
    cases h.ends with
    | exhausted => cases hresult
    | answered earlier hearlier hlast =>
      -- The last visit was answered, so it is not the one in question.
      have hne : k ≠ earlier.length := by
        rintro rfl
        rw [List.getElem?_concat_length] at hv
        obtain rfl := Option.some.inj hv
        exact Option.some_ne_none _ (hlast.1.symm.trans hcontent)
      rw [List.length_append, List.length_singleton] at hlt ⊢
      omega

/-- **A read gives up on what comes again.**  After any run it visits one provider after the other,
none twice.  A failure that is lasting, and not wrapped, is the last one of its visit; after any other
one the same provider is asked again until it was asked as often as allowed.  A provider that did not
answer is followed by the next one, if there is one left. -/
theorem fetch_gives_up_lasting (hash : HashFunction) (fleet : Fleet σ) (requests : List Request)
    (s : σ) (cid : Cid) (frame : Frame) :
    let x := fleet.after hash requests (fleet.cursor, s)
    let start := (x.1.enterFrame frame).current
    ∃ (visits : List (Visit fleet.size)) (result : Except FleetError ByteArray)
      (y : Session σ fleet.size),
      (fleet.fetch hash cid frame).run.run x = (result, y) ∧
      fleet.Attempts hash cid (visits.flatMap Visit.attempts) x.2 y.2 ∧
      visits.map Visit.place = (List.range visits.length).map (Cursor.ahead start) ∧
      (visits.map Visit.place).Nodup ∧
      ∀ (k : Nat) (v : Visit fleet.size), visits[k]? = some v →
        (v.content = none → k + 1 < fleet.size → k + 1 < visits.length) ∧
        ∀ (before : List ProviderError) (e : ProviderError) (after : List ProviderError),
          v.errors = before ++ e :: after →
            (e.Lasting ∧ e.isWrapped = false → after = [] ∧ v.content = none) ∧
            (¬ (e.Lasting ∧ e.isWrapped = false) →
              (after ≠ [] ∨ v.content ≠ none ↔ before.length + 1 < fleet.retries)) := by
  intro x start
  obtain ⟨visits, result, y, hrun, h⟩ :=
    fetch_walked hash fleet cid frame (settled_after requests s : x.1.Settled)
  have hplaces : visits.map Visit.place = (List.range visits.length).map (Cursor.ahead start) := by
    rw [h.places, List.range_eq_range']
  have hle : visits.length ≤ fleet.size := (Nat.zero_add _).symm.trans_le h.size_le
  refine ⟨visits, result, y, hrun, h.made, hplaces, hplaces ▸ Cursor.nodup_map_ahead start hle,
    fun k v hv => ⟨fun hcontent hk => h.goes_on hv hcontent hk, fun before e after herrors => ?_⟩⟩
  obtain ⟨outcome, hend⟩ := h.ends.endsWith v (List.mem_of_getElem? hv)
  refine ⟨fun he => ?_, fun he => ?_⟩
  · obtain ⟨hafter, hcontent, -⟩ :=
      hend.last_of_not_isRetryable herrors (ProviderError.isRetryable_eq_false_iff.mpr he)
    exact ⟨hafter, hcontent⟩
  · have hretry : e.isRetryable :=
      eq_true_of_ne_false fun hfalse => he (ProviderError.isRetryable_eq_false_iff.mp hfalse)
    exact hend.asks_again_iff herrors hretry

/-- One provider, which is read up to three times and writes down every read. -/
def thrice : Fleet (Script × List Backend.Call) where
  providers := #[⟨(Script.backend (fun _ => Digest.zero) "thrice" .full).journaled, .disabled⟩]
  retries := 3
  size_pos := Nat.one_pos
  retries_pos := Nat.succ_pos 2

/-- An identifier that content addressing refuses is lasting, but it is refused three times. -/
theorem fetch_repeats_wrapped :
    (ProviderError.addressing (.identifier .varint)).Lasting ∧
      ((thrice.fetch (fun _ => Digest.zero) (.v0 Digest.zero) ⟨0⟩).run.run (thrice.cursor,
        (⟨[fun _ => .error (.addressing (.identifier .varint))], [], []⟩, []))).2.2.2 =
          List.replicate 3 (.fetch (.v0 Digest.zero)) :=
  ⟨.wrapped .varint, by decide +kernel⟩

end Fleet

end AddressedStorage
