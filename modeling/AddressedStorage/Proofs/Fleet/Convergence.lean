import AddressedStorage.Proofs.Fleet.Honest

/-!
# Proofs/Fleet/Convergence — verified uploads agree

Each provider is reached in the state that those before it left, so the outcomes of an upload to all
are one answer a provider, in order (`run_outcomes`).  Providers that do not get in each other's way
come to the same outcomes in any order, and so if all are asked at one time
(`run_outcomes_anyOrder`).  A verified provider answers just if its upload passes, and then with the
identifier the bytes hash to.  So an upload to all succeeds just if one passes, every success is a
vote for that one identifier (`Unanimous`), and operators who never heard of each other get the same
answer (`publish_converges`).
-/

namespace AddressedStorage.Fleet

variable {σ τ : Type} (hash : HashFunction) (fleet : Fleet σ) (content : ByteArray)
  (name : Option String)

/-! ## One provider after the other -/

/-- The state in which an upload reaches the provider at a place: those before it were asked. -/
def reached (s : σ) (i : Fin fleet.size) : σ :=
  ((((List.finRange fleet.size).take i).mapM (fleet.publishAt hash content name)).run s).2

/-- What the provider at a place answers there. -/
def answer (s : σ) (i : Fin fleet.size) : Except ProviderError Cid :=
  (((fleet.provider i).publish hash content name).run.run (fleet.reached hash content name s i)).1

/-- The upload to the provider at a place passes. -/
def Passed (s : σ) (i : Fin fleet.size) : Prop :=
  (fleet.provider i).Passes hash content name (fleet.reached hash content name s i)

/-- The outcome of the upload to the provider at a place. -/
def outcome (s : σ) (i : Fin fleet.size) : PublishOutcome where
  index := i
  provider := (fleet.provider i).name
  result := fleet.answer hash content name s i

/-- **The outcomes of an upload to all** are those of the providers, in order. -/
theorem run_outcomes (s : σ) :
    (((List.finRange fleet.size).mapM (fleet.publishAt hash content name)).run s).1 =
      (List.finRange fleet.size).map (fleet.outcome hash content name s) := by
  refine List.ext_getElem? fun i => ?_
  rw [getElem?_run_mapM, List.getElem?_map]
  rcases Nat.lt_or_ge i fleet.size with hlt | hge
  · rw [List.getElem?_eq_getElem (by simpa using hlt), List.getElem_finRange]
    rfl
  · rw [List.getElem?_eq_none (by simpa using hge)]
    rfl

/-- An upload to all resolves the outcomes. -/
theorem run_publishAll_eq (x : Session σ fleet.size) :
    ((fleet.publishAll hash content name).run.run x).1 =
      Consensus.decide fleet.size ((List.finRange fleet.size).map
        (fleet.outcome hash content name x.2)) := by
  rw [← run_outcomes]
  rfl

/-- **The order does not matter** if no provider gets in another's way.  Asked in any other order, each
comes to the same outcome, and all of them lead to one state. -/
theorem run_outcomes_anyOrder (h : Independent (fleet.publishAt hash content name))
    {order : List (Fin fleet.size)} (horder : order.Perm (List.finRange fleet.size)) (s : σ) :
    let run := (order.mapM (fleet.publishAt hash content name)).run s
    run.1.Perm ((List.finRange fleet.size).map (fleet.outcome hash content name s)) ∧
      ∀ c, ((fleet.publishAll hash content name).run.run (c, s)).2 = (c, run.2) := by
  have hnodup := horder.nodup_iff.mpr (List.nodup_finRange fleet.size)
  obtain ⟨hresults, hstate⟩ := h.run_mapM_perm hnodup horder s
  exact ⟨run_outcomes hash fleet content name s ▸ hresults, fun c => congrArg (c, ·) hstate.symm⟩

/-- An upload is an upload to all, of which the identifier is kept. -/
theorem run_publish (x : Session σ fleet.size) :
    (fleet.publish hash content name).run.run x =
      (((fleet.publishAll hash content name).run.run x).1.map Consensus.cid,
        ((fleet.publishAll hash content name).run.run x).2) := by
  rw [publish, run_bind]
  rcases (fleet.publishAll hash content name).run.run x with ⟨e | r, y⟩ <;> rfl

/-- The answer of an upload is the identifier that all resolve to. -/
theorem run_publish_eq (x : Session σ fleet.size) :
    ((fleet.publish hash content name).run.run x).1 =
      ((fleet.publishAll hash content name).run.run x).1.map Consensus.cid :=
  congrArg Prod.fst (run_publish hash fleet content name x)

/-! ## All votes are for one identifier -/

/-- What `n` providers resolve to if those whose uploads passed all report one identifier. -/
structure Unanimous {n : Nat} (key : Cid) (passed : Fin n → Prop) (r : Consensus) : Prop where
  cid_eq : r.cid = key
  vote_eq : ∀ s ∈ r.successes, s.cid = key
  /-- The identifier is counted once, with all the votes. -/
  tally_eq : r.tally = [(key, r.successes.length)]
  quorum_iff : r.reachedQuorum ↔ n / 2 + 1 ≤ r.successes.length
  passed_iff : ∀ i : Fin n, i.val ∈ r.successes.map PublishSuccess.index ↔ passed i
  /-- Every provider is recorded once, as a success or as a failure. -/
  perm : (r.successes.map PublishSuccess.index ++ r.failures.map ProviderFailure.index).Perm
    (List.range n)
  successes_ordered : (r.successes.map PublishSuccess.index).Sublist (List.range n)
  failures_ordered : (r.failures.map ProviderFailure.index).Sublist (List.range n)

variable {hash fleet content name} {s : σ}

theorem map_index_outcome :
    ((List.finRange fleet.size).map (fleet.outcome hash content name s)).map PublishOutcome.index =
      List.range fleet.size := by
  rw [List.map_map]
  exact List.map_coe_finRange_eq_range

variable (hverified : ∀ i, (fleet.provider i).verification = .enabled)

include hverified

/-- **A verified provider answers just if its upload passes.** -/
theorem passed_iff (i : Fin fleet.size) :
    (∃ cid, fleet.answer hash content name s i = .ok cid) ↔ fleet.Passed hash content name s i :=
  Provider.exists_publish_ok_iff (hverified i)

/-- **Verified providers report one identifier**, that of the bytes. -/
theorem contentCid_of_outcome {o : PublishOutcome} {cid : Cid}
    (ho : o ∈ (List.finRange fleet.size).map (fleet.outcome hash content name s))
    (hok : o.result = .ok cid) : Dag.contentCid hash content = .ok cid := by
  obtain ⟨i, -, rfl⟩ := List.mem_map.mp ho
  exact Provider.ensures_publish hash (hverified i) content name _ cid hok

/-- **An upload to verified providers succeeds just if one passes.** -/
theorem exists_publishAll_ok_iff (x : Session σ fleet.size) :
    (∃ r, ((fleet.publishAll hash content name).run.run x).1 = .ok r) ↔
      ∃ i, fleet.Passed hash content name x.2 i := by
  rw [run_publishAll_eq]
  constructor
  · rintro ⟨r, hr⟩
    obtain ⟨o, ho, hok⟩ := Consensus.exists_ok_of_decide hr
    obtain ⟨i, -, rfl⟩ := List.mem_map.mp ho
    exact ⟨i, (passed_iff hverified i).mp ⟨r.cid, hok⟩⟩
  · rintro ⟨i, hi⟩
    obtain ⟨cid, hcid⟩ := (passed_iff hverified i).mpr hi
    exact Consensus.exists_decide_of_ok (List.mem_map_of_mem (List.mem_finRange i)) hcid

/-- **What verified providers resolve to is unanimous.** -/
theorem unanimous_of_publishAll {x : Session σ fleet.size} {r : Consensus}
    (h : ((fleet.publishAll hash content name).run.run x).1 = .ok r) :
    Dag.contentCid hash content = .ok r.cid ∧
      Unanimous r.cid (fleet.Passed hash content name x.2) r := by
  rw [run_publishAll_eq] at h
  obtain ⟨o, ho, hok⟩ := Consensus.exists_ok_of_decide h
  have hcontent := contentCid_of_outcome hverified ho hok
  have hagree : ∀ o ∈ (List.finRange fleet.size).map (fleet.outcome hash content name x.2),
      ∀ c, o.result = .ok c → c = r.cid := fun o ho c hc =>
    Except.ok.inj ((contentCid_of_outcome hverified ho hc).symm.trans hcontent)
  obtain ⟨-, hvotes, htally, hquorum⟩ := Consensus.decide_of_forall_eq h hagree
  obtain ⟨hsuccesses, -, hfailures, -, -⟩ := Consensus.parts_of_decide h
  have hperm := Consensus.perm_indices
    ((List.finRange fleet.size).map (fleet.outcome hash content name x.2))
  have hordered := Consensus.sublist_indices
    ((List.finRange fleet.size).map (fleet.outcome hash content name x.2))
  rw [← hsuccesses, ← hfailures, map_index_outcome] at hperm hordered
  refine ⟨hcontent, rfl, hvotes, htally, hquorum, fun i => ?_, hperm, hordered.1, hordered.2⟩
  rw [hsuccesses, Consensus.mem_map_index_successes, ← passed_iff hverified i]
  constructor
  · rintro ⟨o, ho, hindex, hok⟩
    obtain ⟨j, -, rfl⟩ := List.mem_map.mp ho
    obtain rfl : j = i := Fin.ext hindex
    exact hok
  · exact fun hok => ⟨_, List.mem_map_of_mem (List.mem_finRange i), rfl, hok⟩

/-- **An upload that passes nowhere fails with all failures**, in order. -/
theorem run_publishAll_of_not_passed {x : Session σ fleet.size}
    (h : ∀ i, ¬ fleet.Passed hash content name x.2 i) :
    ∃ failures, ((fleet.publishAll hash content name).run.run x).1 =
        .error (.noProvidersAvailable .upload fleet.size (.publishFailed failures)) ∧
      List.Forall₂ (fun i f => f.index = i.val ∧ f.provider = (fleet.provider i).name ∧
        fleet.answer hash content name x.2 i = .error f.error) (List.finRange fleet.size)
          failures := by
  have herror : ∀ i, ∃ e, fleet.answer hash content name x.2 i = .error e := by
    intro i
    rcases hanswer : fleet.answer hash content name x.2 i with e | cid
    · exact ⟨e, rfl⟩
    · exact absurd ((passed_iff hverified i).mp ⟨cid, hanswer⟩) (h i)
  have hall : ∀ o ∈ (List.finRange fleet.size).map (fleet.outcome hash content name x.2),
      ∃ e, o.result = .error e := by
    intro o ho
    obtain ⟨i, -, rfl⟩ := List.mem_map.mp ho
    exact herror i
  rw [run_publishAll_eq, Consensus.decide_of_forall_error hall, List.length_map,
    List.length_finRange]
  exact ⟨_, rfl, List.forall₂_map_left_iff.mp (Consensus.forall₂_failures hall)⟩

/-- **An upload is answered with the identifier of the bytes**, or not at all. -/
theorem contentCid_of_publish {x : Session σ fleet.size} {cid : Cid}
    (h : ((fleet.publish hash content name).run.run x).1 = .ok cid) :
    Dag.contentCid hash content = .ok cid := by
  rw [run_publish_eq] at h
  obtain ⟨r, hr, rfl⟩ := map_eq_ok_iff.mp h
  exact (unanimous_of_publishAll hverified hr).1

omit hverified

/-- **Independent operators converge.**  Whatever verified providers two operators have, and whatever
was called before, their uploads of one payload are answered with its identifier if they are answered
at all.  An upload to all succeeds just if it passes at some provider, and then all votes are for that
identifier; if it passes nowhere, it fails with the failure of every provider. -/
theorem publish_converges {fleet : Fleet σ} {other : Fleet τ}
    (hfleet : ∀ i, (fleet.provider i).verification = .enabled)
    (hother : ∀ i, (other.provider i).verification = .enabled) (hash : HashFunction)
    (content : ByteArray) (name name' : Option String) (x : Session σ fleet.size)
    (y : Session τ other.size) :
    (∀ a b, ((fleet.publish hash content name).run.run x).1 = .ok a →
      ((other.publish hash content name').run.run y).1 = .ok b →
        a = b ∧ Dag.contentCid hash content = .ok a) ∧
    ((∃ r, ((fleet.publishAll hash content name).run.run x).1 = .ok r) ↔
      ∃ i, fleet.Passed hash content name x.2 i) ∧
    (∀ r, ((fleet.publishAll hash content name).run.run x).1 = .ok r →
      ∃ key, Dag.contentCid hash content = .ok key ∧
        Unanimous key (fleet.Passed hash content name x.2) r) ∧
    ((∀ i, ¬ fleet.Passed hash content name x.2 i) →
      ∃ failures, ((fleet.publishAll hash content name).run.run x).1 =
          .error (.noProvidersAvailable .upload fleet.size (.publishFailed failures)) ∧
        List.Forall₂ (fun i f => f.index = i.val ∧ f.provider = (fleet.provider i).name ∧
          fleet.answer hash content name x.2 i = .error f.error) (List.finRange fleet.size)
            failures) := by
  refine ⟨fun a b ha hb => ?_, exists_publishAll_ok_iff hfleet x, fun r hr => ?_,
    run_publishAll_of_not_passed hfleet⟩
  · have hcontent := contentCid_of_publish hfleet ha
    exact ⟨Except.ok.inj (hcontent.symm.trans (contentCid_of_publish hother hb)), hcontent⟩
  · exact ⟨r.cid, unanimous_of_publishAll hfleet hr⟩

/-- A store and no other provider. -/
def storeOnly (hash : HashFunction) : Fleet Memory where
  providers := #[⟨Memory.backend hash Memory.defaultName, .enabled⟩]
  retries := 1
  size_pos := Nat.succ_pos 0
  retries_pos := Nat.one_pos

theorem verified_storeOnly (hash : HashFunction) :
    ∀ i, ((storeOnly hash).provider i).verification = .enabled := by
  rintro ⟨_ | i, hi⟩
  · rfl
  · exact absurd hi (by simp [storeOnly, size])

/-- A liar before a store and a store by itself answer an upload of three bytes alike. -/
theorem publish_converges_liarAndStore :
    (∀ i, ((liarAndStore Sha256.digest).provider i).verification = .enabled) ∧
      (∀ i, ((storeOnly Sha256.digest).provider i).verification = .enabled) ∧
      ∃ key, Dag.contentCid Sha256.digest ⟨#[1, 2, 3]⟩ = .ok key ∧
        (((liarAndStore Sha256.digest).publish Sha256.digest ⟨#[1, 2, 3]⟩ none).run.run
          ((liarAndStore Sha256.digest).cursor, (Memory.empty, ()))).1 = .ok key ∧
        (((storeOnly Sha256.digest).publish Sha256.digest ⟨#[1, 2, 3]⟩ (some "report")).run.run
          ((storeOnly Sha256.digest).cursor, Memory.empty)).1 = .ok key := by
  have hliar := (oneHonest_liarAndStore Sha256.digest).verified
  have hstore := verified_storeOnly Sha256.digest
  have hsize : ByteArray.size ⟨#[1, 2, 3]⟩ ≤ Dag.maxContentLength := by decide
  obtain ⟨digest, hcontent⟩ := Dag.exists_contentCid_of_le Sha256.digest hsize
  obtain ⟨hagree, hpasses, -, -⟩ := publish_converges hliar hstore Sha256.digest ⟨#[1, 2, 3]⟩ none
    (some "report") ((liarAndStore Sha256.digest).cursor, (Memory.empty, ()))
    ((storeOnly Sha256.digest).cursor, Memory.empty)
  obtain ⟨-, hpasses', -, -⟩ := publish_converges hstore hliar Sha256.digest ⟨#[1, 2, 3]⟩
    (some "report") none ((storeOnly Sha256.digest).cursor, Memory.empty)
    ((liarAndStore Sha256.digest).cursor, (Memory.empty, ()))
  have hrun : ∀ s : Memory × Unit,
      (((liarAndStore Sha256.digest).provider ⟨1, Nat.one_lt_two⟩).backend.upload ⟨#[1, 2, 3]⟩
        none).run.run s = (.ok (.v0 digest), (s.1.insertNew (.v0 digest) ⟨#[1, 2, 3]⟩, s.2)) :=
    fun s => congrArg (fun r : Except ProviderError Cid × Memory => (r.1, (r.2, s.2)))
      (Memory.run_upload hcontent s.1)
  have hrun' : ∀ s : Memory,
      (((storeOnly Sha256.digest).provider ⟨0, Nat.one_pos⟩).backend.upload ⟨#[1, 2, 3]⟩
        (some "report")).run.run s = (.ok (.v0 digest), s.insertNew (.v0 digest) ⟨#[1, 2, 3]⟩) :=
    fun s => Memory.run_upload hcontent s
  obtain ⟨r, hr⟩ := hpasses.mpr
    ⟨⟨1, Nat.one_lt_two⟩, rfl, .v0 digest, .v0 digest, _, hrun _, rfl, hcontent⟩
  obtain ⟨r', hr'⟩ := hpasses'.mpr
    ⟨⟨0, Nat.one_pos⟩, rfl, .v0 digest, .v0 digest, _, hrun' _, rfl, hcontent⟩
  have hpublish := (run_publish_eq Sha256.digest _ _ none _).trans
    (congrArg (Except.map Consensus.cid) hr)
  have hpublish' := (run_publish_eq Sha256.digest _ _ (some "report") _).trans
    (congrArg (Except.map Consensus.cid) hr')
  obtain ⟨heq, hkey⟩ := hagree r.cid r'.cid hpublish hpublish'
  exact ⟨hliar, hstore, r.cid, hkey, hpublish, heq ▸ hpublish'⟩

end AddressedStorage.Fleet
