import AddressedStorage.Fleet.Consensus
import Mathlib.Data.List.Forall2
import Mathlib.Data.List.Perm.Basic

/-!
# Proofs/Fleet/Consensus — an identifier somebody reported

Uploading to all fails only if every provider failed (`exists_decide_of_ok`), and the identifier it
resolves to is one that some provider reported (`exists_ok_of_decide`), with a majority or without.

Every outcome is recorded once, as a success or as a failure, and in order (`perm_indices`,
`sublist_indices`).  Where only one identifier can be reported, all successes are votes for it, and it
has a majority if they are one (`decide_of_forall_eq`).
-/

namespace AddressedStorage

theorem PublishOutcome.success?_of_ok {o : PublishOutcome} {cid : Cid} (h : o.result = .ok cid) :
    o.success? = some ⟨o.index, o.provider, cid⟩ := by
  rw [success?, h]

theorem PublishOutcome.ok_of_success? {o : PublishOutcome} {s : PublishSuccess}
    (h : o.success? = some s) : o.result = .ok s.cid := by
  rw [success?] at h
  split at h
  · rename_i cid hok
    obtain rfl := Option.some.inj h
    exact hok
  · cases h

namespace Consensus

variable {total : Nat} {outcomes : List PublishOutcome} {o : PublishOutcome} {cid : Cid}

/-- Every identifier that is counted was voted for. -/
theorem mem_of_mem_count {votes : List Cid} {entry : Cid × Nat} (h : entry ∈ count votes) :
    entry.1 ∈ votes := by
  obtain ⟨c, hc, rfl⟩ := List.mem_map.mp h
  exact List.mem_eraseDups.mp hc

/-- **One success is enough.** -/
theorem exists_decide_of_ok (h : o ∈ outcomes) (hok : o.result = .ok cid) :
    ∃ r, decide total outcomes = .ok r := by
  have hmem : ⟨o.index, o.provider, cid⟩ ∈ outcomes.filterMap PublishOutcome.success? :=
    List.mem_filterMap.mpr ⟨o, h, PublishOutcome.success?_of_ok hok⟩
  rw [decide]
  split
  · rename_i hnil
    rw [hnil] at hmem
    cases hmem
  · exact ⟨_, rfl⟩

/-- **What all resolve to, some provider reported.** -/
theorem exists_ok_of_decide {r : Consensus} (h : decide total outcomes = .ok r) :
    ∃ o ∈ outcomes, o.result = .ok r.cid := by
  have hsuccess : r.cid ∈ (outcomes.filterMap PublishOutcome.success?).map PublishSuccess.cid := by
    rw [decide] at h
    split at h
    · cases h
    · rename_i first later hfirst
      obtain rfl := Except.ok.inj h
      dsimp only
      cases hfind : (count ((outcomes.filterMap PublishOutcome.success?).map
          PublishSuccess.cid)).find? fun entry => AddressedStorage.quorum total ≤ entry.2 with
      | none =>
        rw [hfirst]
        exact List.mem_cons_self
      | some entry => exact mem_of_mem_count (List.mem_of_find?_eq_some hfind)
  obtain ⟨s, hs, hcid⟩ := List.mem_map.mp hsuccess
  obtain ⟨o, ho, hsome⟩ := List.mem_filterMap.mp hs
  exact ⟨o, ho, hcid ▸ PublishOutcome.ok_of_success? hsome⟩

/-- **Where nothing is resolved, every failure is listed.** -/
theorem exists_failures_of_decide {e : FleetError} (h : decide total outcomes = .error e) :
    ∃ failures, e = .noProvidersAvailable .upload failures.length (.publishFailed failures) := by
  rw [decide] at h
  split at h
  · exact ⟨_, (Except.error.inj h).symm⟩
  · cases h

/-! ## Who answered what -/

theorem map_index_successes (outcomes : List PublishOutcome) :
    (outcomes.filterMap PublishOutcome.success?).map PublishSuccess.index =
      (outcomes.filter fun o => o.result.isOk).map PublishOutcome.index := by
  induction outcomes with
  | nil => rfl
  | cons o outcomes ih =>
    rcases o with ⟨index, provider, e | cid⟩
    · exact ih
    · exact congrArg (List.cons index) ih

theorem map_index_failures (outcomes : List PublishOutcome) :
    (outcomes.filterMap PublishOutcome.failure?).map ProviderFailure.index =
      (outcomes.filter fun o => !o.result.isOk).map PublishOutcome.index := by
  induction outcomes with
  | nil => rfl
  | cons o outcomes ih =>
    rcases o with ⟨index, provider, e | cid⟩
    · exact congrArg (List.cons index) ih
    · exact ih

/-- **Every outcome is recorded once.** -/
theorem perm_indices (outcomes : List PublishOutcome) :
    ((outcomes.filterMap PublishOutcome.success?).map PublishSuccess.index ++
      (outcomes.filterMap PublishOutcome.failure?).map ProviderFailure.index).Perm
        (outcomes.map PublishOutcome.index) := by
  rw [map_index_successes, map_index_failures, ← List.map_append]
  exact (List.filter_append_perm _ outcomes).map _

/-- **Outcomes are recorded in order.** -/
theorem sublist_indices (outcomes : List PublishOutcome) :
    ((outcomes.filterMap PublishOutcome.success?).map PublishSuccess.index).Sublist
        (outcomes.map PublishOutcome.index) ∧
      ((outcomes.filterMap PublishOutcome.failure?).map ProviderFailure.index).Sublist
        (outcomes.map PublishOutcome.index) := by
  rw [map_index_successes, map_index_failures]
  exact ⟨List.filter_sublist.map _, List.filter_sublist.map _⟩

/-- The successes are the outcomes with an answer. -/
theorem mem_map_index_successes {n : Nat} :
    n ∈ (outcomes.filterMap PublishOutcome.success?).map PublishSuccess.index ↔
      ∃ o ∈ outcomes, o.index = n ∧ ∃ cid, o.result = .ok cid := by
  have hisOk : ∀ o : PublishOutcome, o.result.isOk ↔ ∃ cid, o.result = .ok cid := by
    rintro ⟨index, provider, e | cid⟩
    · exact ⟨nofun, nofun⟩
    · exact ⟨fun _ => ⟨cid, rfl⟩, fun _ => rfl⟩
  simp only [map_index_successes, List.mem_map, List.mem_filter, hisOk]
  exact exists_congr fun o => ⟨fun h => ⟨h.1.1, h.2, h.1.2⟩, fun h => ⟨⟨h.1, h.2.2⟩, h.2.1⟩⟩

/-- Where nobody took the upload, every outcome is listed as a failure. -/
theorem decide_of_forall_error (h : ∀ o ∈ outcomes, ∃ e, o.result = .error e) :
    decide total outcomes = .error (.noProvidersAvailable .upload outcomes.length
      (.publishFailed (outcomes.filterMap PublishOutcome.failure?))) := by
  have hsuccesses : outcomes.filterMap PublishOutcome.success? = [] :=
    List.filterMap_eq_nil_iff.mpr fun o ho => by
      obtain ⟨e, he⟩ := h o ho
      rw [PublishOutcome.success?, he]
  have hlength := (perm_indices outcomes).length_eq
  rw [hsuccesses, List.map_nil, List.nil_append, List.length_map, List.length_map] at hlength
  rw [decide, hsuccesses, ← hlength]

/-- Each of those failures says who failed, and why. -/
theorem forall₂_failures (h : ∀ o ∈ outcomes, ∃ e, o.result = .error e) :
    List.Forall₂ (fun o f => f.index = o.index ∧ f.provider = o.provider ∧
      o.result = .error f.error) outcomes (outcomes.filterMap PublishOutcome.failure?) := by
  induction outcomes with
  | nil => exact .nil
  | cons o outcomes ih =>
    obtain ⟨⟨e, he⟩, hrest⟩ := List.forall_mem_cons.mp h
    have hsome : o.failure? = some ⟨o.index, o.provider, e⟩ := by
      rw [PublishOutcome.failure?, he]
    rw [List.filterMap_cons_some hsome]
    exact .cons ⟨rfl, rfl, he⟩ (ih hrest)

/-- Votes for one identifier are counted under it. -/
theorem count_of_forall_eq {votes : List Cid} (hne : votes ≠ []) (h : ∀ c ∈ votes, c = cid) :
    count votes = [(cid, votes.length)] := by
  have hcount : votes.count cid = votes.length :=
    List.count_eq_length.mpr fun c hc => (h c hc).symm
  obtain ⟨c, votes, rfl⟩ := List.exists_cons_of_ne_nil hne
  obtain ⟨rfl, hvotes⟩ := List.forall_mem_cons.mp h
  have hrest : votes.filter (fun b => !b == c) = [] :=
    List.filter_eq_nil_iff.mpr fun b hb => by simp [hvotes b hb]
  rw [count, List.eraseDups_cons, hrest, List.eraseDups_nil, List.map_singleton, hcount]

/-- What is recorded of the outcomes. -/
theorem parts_of_decide {r : Consensus} (h : decide total outcomes = .ok r) :
    r.successes = outcomes.filterMap PublishOutcome.success? ∧ r.successes ≠ [] ∧
      r.failures = outcomes.filterMap PublishOutcome.failure? ∧
      r.tally = count (r.successes.map PublishSuccess.cid) ∧
      r.reachedQuorum = (r.tally.find? fun entry => AddressedStorage.quorum total ≤ entry.2).isSome := by
  rw [decide] at h
  split at h
  · cases h
  · rename_i hfirst
    obtain rfl := Except.ok.inj h
    exact ⟨rfl, hfirst ▸ List.cons_ne_nil _ _, rfl, rfl, Option.isSome_map⟩

/-- **Where only one identifier can be reported, all resolve to it**, and the successes are its
votes. -/
theorem decide_of_forall_eq {r : Consensus} (h : decide total outcomes = .ok r)
    (hall : ∀ o ∈ outcomes, ∀ c, o.result = .ok c → c = cid) :
    r.cid = cid ∧ (∀ s ∈ r.successes, s.cid = cid) ∧ r.tally = [(cid, r.successes.length)] ∧
      (r.reachedQuorum ↔ AddressedStorage.quorum total ≤ r.successes.length) := by
  obtain ⟨hsuccesses, hne, -, htally, hquorum⟩ := parts_of_decide h
  have hcid : ∀ s ∈ r.successes, s.cid = cid := by
    intro s hs
    obtain ⟨o, ho, hsome⟩ := List.mem_filterMap.mp (hsuccesses ▸ hs)
    exact hall o ho s.cid (PublishOutcome.ok_of_success? hsome)
  have hvotes : ∀ c ∈ r.successes.map PublishSuccess.cid, c = cid := by
    intro c hc
    obtain ⟨s, hs, rfl⟩ := List.mem_map.mp hc
    exact hcid s hs
  rw [count_of_forall_eq (mt List.map_eq_nil_iff.mp hne) hvotes, List.length_map] at htally
  obtain ⟨o, ho, hreport⟩ := exists_ok_of_decide h
  refine ⟨hall o ho r.cid hreport, hcid, htally, ?_⟩
  rw [hquorum, htally]
  simp

end Consensus

end AddressedStorage
