import AddressedStorage.Proofs.Fleet.Convergence
import AddressedStorage.Proofs.Fleet.Majority
import AddressedStorage.Proofs.Provider.Version

/-!
# Proofs/Fleet/Version — votes do not depend on the version reported

Providers that differ only in the version of the identifiers they report (`Matches`) give outcomes
that differ only in what mismatches say (`Matches.outcomes`), and such outcomes are resolved alike
(`alike_decide`).  So the version a vendor reports affects neither what an upload to all resolves to
nor what is pinned (`publishAll_ignores_version`).
-/

namespace AddressedStorage

/-! ## Outcomes that are alike -/

section Outcomes

variable {E : ProviderError → ProviderError → Prop}

/-- Outcomes of one provider: one answer, or errors that are alike. -/
structure PublishOutcome.Matches (E : ProviderError → ProviderError → Prop) (o o' : PublishOutcome) :
    Prop where
  index_eq : o.index = o'.index
  provider_eq : o.provider = o'.provider
  result : Alike E Eq o.result o'.result

/-- Failures of one provider with errors that are alike. -/
structure ProviderFailure.Matches (E : ProviderError → ProviderError → Prop)
    (f f' : ProviderFailure) : Prop where
  index_eq : f.index = f'.index
  provider_eq : f.provider = f'.provider
  error : E f.error f'.error

theorem filterMap_success?_eq {os os' : List PublishOutcome}
    (h : List.Forall₂ (PublishOutcome.Matches E) os os') :
    os.filterMap PublishOutcome.success? = os'.filterMap PublishOutcome.success? := by
  induction h with
  | nil => rfl
  | @cons o o' os os' ho _ ih =>
    have hsuccess : o.success? = o'.success? := by
      obtain ⟨index, provider, result⟩ := o
      obtain ⟨_, _, result'⟩ := o'
      obtain ⟨rfl, rfl, hresult⟩ := ho
      cases hresult with
      | ok h => exact congrArg (fun cid => some (PublishSuccess.mk index provider cid)) h
      | error _ => rfl
    rw [List.filterMap_cons, List.filterMap_cons, hsuccess, ih]

theorem forall₂_failure? {os os' : List PublishOutcome}
    (h : List.Forall₂ (PublishOutcome.Matches E) os os') :
    List.Forall₂ (ProviderFailure.Matches E) (os.filterMap PublishOutcome.failure?)
      (os'.filterMap PublishOutcome.failure?) := by
  induction h with
  | nil => exact .nil
  | @cons o o' os os' ho _ ih =>
    obtain ⟨index, provider, result⟩ := o
    obtain ⟨_, _, result'⟩ := o'
    obtain ⟨rfl, rfl, hresult⟩ := ho
    cases hresult with
    | ok _ => exact ih
    | error h => exact .cons ⟨rfl, rfl, h⟩ ih

namespace Consensus

/-- Two decisions that differ at most in the errors of the failures. -/
structure Matches (E : ProviderError → ProviderError → Prop) (r r' : Consensus) : Prop where
  cid_eq : r.cid = r'.cid
  quorum_eq : r.quorum = r'.quorum
  reachedQuorum_eq : r.reachedQuorum = r'.reachedQuorum
  tally_eq : r.tally = r'.tally
  successes_eq : r.successes = r'.successes
  failures : List.Forall₂ (ProviderFailure.Matches E) r.failures r'.failures

/-- Two refusals of all providers that differ at most in the errors of the failures. -/
inductive Refused (E : ProviderError → ProviderError → Prop) : FleetError → FleetError → Prop where
  | all {fs fs' : List ProviderFailure} (h : List.Forall₂ (ProviderFailure.Matches E) fs fs') :
    Refused E (.noProvidersAvailable .upload fs.length (.publishFailed fs))
      (.noProvidersAvailable .upload fs'.length (.publishFailed fs'))

/-- **Outcomes that are alike are resolved alike.** -/
theorem alike_decide {os os' : List PublishOutcome}
    (h : List.Forall₂ (PublishOutcome.Matches E) os os') {total total' : Nat}
    (htotal : total = total') :
    Alike (Refused E) (Matches E) (decide total os) (decide total' os') := by
  subst htotal
  have hfailures := forall₂_failure? h
  rw [decide, decide, ← filterMap_success?_eq h]
  cases os.filterMap PublishOutcome.success? with
  | nil => exact .error (.all hfailures)
  | cons first later => exact .ok ⟨rfl, rfl, rfl, rfl, rfl, hfailures⟩

theorem eq_of_forall₂_matches {fs fs' : List ProviderFailure}
    (h : List.Forall₂ (ProviderFailure.Matches Eq) fs fs') : fs = fs' := by
  refine List.forall₂_eq_eq_eq ▸ h.imp fun f f' hf => ?_
  obtain ⟨index, provider, error⟩ := f
  obtain ⟨rfl, rfl, rfl⟩ := hf
  rfl

/-- Where errors may not differ, nothing does. -/
theorem eq_of_alike {x y : Except FleetError Consensus} (h : Alike (Refused Eq) (Matches Eq) x y) :
    x = y := by
  cases h with
  | @ok r r' h =>
    obtain ⟨successes, failures, tally, quorum, cid, reachedQuorum⟩ := r
    obtain ⟨rfl, rfl, rfl, rfl, rfl, hfailures⟩ := h
    obtain rfl := eq_of_forall₂_matches hfailures
    rfl
  | error h =>
    obtain ⟨hfailures⟩ := h
    rw [eq_of_forall₂_matches hfailures]

end Consensus

end Outcomes

namespace Fleet

variable {σ τ : Type} {R : σ → τ → Prop} {E : ProviderError → ProviderError → Prop}
  {Q : Cid → Cid → Prop} (hash : HashFunction) {fleet : Fleet σ} {other : Fleet τ}
  {content : ByteArray} {name : Option String}

/-! ## Fleets that report one block -/

/-- Two fleets of as many providers, which match place by place. -/
structure Matches (R : σ → τ → Prop) (Q : Cid → Cid → Prop) (content : ByteArray)
    (name : Option String) (fleet : Fleet σ) (other : Fleet τ) : Prop where
  size_eq : fleet.size = other.size
  provider : ∀ (i : Fin fleet.size) (j : Fin other.size), i.val = j.val →
    (fleet.provider i).Matches R Q content name (other.provider j)

theorem forall₂_finRange {m n : Nat} (h : m = n) :
    List.Forall₂ (fun (i : Fin m) (j : Fin n) => i.val = j.val) (List.finRange m)
      (List.finRange n) := by
  subst h
  exact List.forall₂_same.mpr fun i _ => rfl

/-- **The outcomes of fleets that match are alike.** -/
theorem Matches.outcomes (h : fleet.Matches R Q content name other)
    (hE : Tolerates E Q) {s : σ} {t : τ} (hR : R s t) :
    List.Forall₂ (PublishOutcome.Matches E)
        (((List.finRange fleet.size).mapM (fleet.publishAt hash content name)).run s).1
        (((List.finRange other.size).mapM (other.publishAt hash content name)).run t).1 ∧
      R (((List.finRange fleet.size).mapM (fleet.publishAt hash content name)).run s).2
        (((List.finRange other.size).mapM (other.publishAt hash content name)).run t).2 := by
  refine Related.mapM (fun i j hij s t hR => ?_) (forall₂_finRange h.size_eq) hR
  have hprovider := h.provider i j hij
  obtain ⟨hresult, hstate⟩ := hprovider.publish hash hE s t hR
  exact ⟨⟨hij, hprovider.name_eq, hresult⟩, hstate⟩

/-- **Fleets that match resolve an upload alike**, and leave related states. -/
theorem Matches.publishAll (h : fleet.Matches R Q content name other)
    (hE : Tolerates E Q) (x : Session σ fleet.size) (y : Session τ other.size) (hR : R x.2 y.2) :
    Alike (Consensus.Refused E) (Consensus.Matches E)
        ((fleet.publishAll hash content name).run.run x).1
        ((other.publishAll hash content name).run.run y).1 ∧
      R ((fleet.publishAll hash content name).run.run x).2.2
        ((other.publishAll hash content name).run.run y).2.2 := by
  obtain ⟨houtcomes, hstate⟩ := h.outcomes hash hE hR
  exact ⟨Consensus.alike_decide houtcomes h.size_eq, hstate⟩

/-! ## Calls written down -/

/-- The fleet with every call to a backend written down. -/
def journaled (fleet : Fleet σ) : Fleet (σ × Journal) where
  providers := fleet.providers.mapIdx fun i p => p.noting i
  retries := fleet.retries
  size_pos := by simpa using fleet.size_pos
  retries_pos := fleet.retries_pos

theorem size_journaled (fleet : Fleet σ) : fleet.journaled.size = fleet.size :=
  Array.size_mapIdx

theorem provider_journaled (fleet : Fleet σ) (i : Fin fleet.size) (j : Fin fleet.journaled.size)
    (h : i.val = j.val) : fleet.journaled.provider j = (fleet.provider i).noting i := by
  obtain ⟨i, hi⟩ := i
  obtain ⟨j, hj⟩ := j
  obtain rfl : i = j := h
  exact Array.getElem_mapIdx ..

theorem matches_journaled (fleet : Fleet σ) (content : ByteArray) (name : Option String) :
    fleet.Matches (fun s (x : σ × Journal) => s = x.1) Eq content name fleet.journaled where
  size_eq := fleet.size_journaled.symm
  provider i j hij := by
    rw [provider_journaled fleet i j hij]
    exact Provider.matches_noting _ _

theorem Matches.journaled (h : fleet.Matches R Q content name other) :
    fleet.journaled.Matches (fun (x : σ × Journal) (y : τ × Journal) => R x.1 y.1 ∧ x.2 = y.2) Q
      content name other.journaled where
  size_eq := (fleet.size_journaled.trans h.size_eq).trans other.size_journaled.symm
  provider := by
    rintro ⟨i, hi⟩ ⟨j, hj⟩ hij
    obtain rfl : i = j := hij
    rw [provider_journaled fleet ⟨i, hi.trans_eq fleet.size_journaled⟩ ⟨i, hi⟩ rfl,
      provider_journaled other ⟨i, hj.trans_eq other.size_journaled⟩ ⟨i, hj⟩ rfl]
    exact (h.provider _ _ rfl).noting i

variable (fleet content name)

/-- An upload to all, with the calls it makes written down. -/
def publishNoting (s : σ) : Except FleetError Consensus × Session (σ × Journal) fleet.journaled.size :=
  (fleet.journaled.publishAll hash content name).run.run
    (fleet.journaled.cursor, (s, fun _ => []))

/-- The calls that an upload to all makes, backend by backend. -/
def calls (s : σ) : Journal := (fleet.publishNoting hash content name s).2.2.2

/-- **An upload that is written down is the upload.** -/
theorem publishNoting_eq (x : Session σ fleet.size) :
    (fleet.publishNoting hash content name x.2).1 =
        ((fleet.publishAll hash content name).run.run x).1 ∧
      (fleet.publishNoting hash content name x.2).2.2.1 =
        ((fleet.publishAll hash content name).run.run x).2.2 := by
  obtain ⟨hresult, hstate⟩ := (fleet.matches_journaled content name).publishAll hash tolerates_eq x
    (fleet.journaled.cursor, (x.2, fun _ => [])) rfl
  exact ⟨(Consensus.eq_of_alike hresult).symm, hstate.symm⟩

/-- What the backend at a place reports. -/
def report (s : σ) (i : Fin fleet.size) : Except ProviderError Cid :=
  (((fleet.provider i).backend.upload content name).run.run (fleet.reached hash content name s i)).1

variable {hash fleet content name}

/-- **Every success is the normal form of a report.** -/
theorem exists_report_of_success {x : Session σ fleet.size} {r : Consensus}
    (h : ((fleet.publishAll hash content name).run.run x).1 = .ok r) :
    ∀ s ∈ r.successes, ∃ (i : Fin fleet.size) (reported : Cid), s.index = i.val ∧
      fleet.report hash content name x.2 i = .ok reported ∧ s.cid = reported.normal := by
  intro s hs
  rw [run_publishAll_eq] at h
  rw [(Consensus.parts_of_decide h).1] at hs
  obtain ⟨o, ho, hsome⟩ := List.mem_filterMap.mp hs
  obtain ⟨i, -, rfl⟩ := List.mem_map.mp ho
  have hok := PublishOutcome.ok_of_success? hsome
  obtain ⟨reported, hreported, hcid⟩ := Provider.exists_report_of_publish hok
  rw [PublishOutcome.success?_of_ok hok] at hsome
  exact ⟨i, reported, congrArg PublishSuccess.index (Option.some.inj hsome).symm, hreported, hcid⟩

/-- **The version a vendor reports does not matter.**  Let two fleets match place by place but for the
version in which identifiers of DAG-PB blocks are reported.  Then an upload to all fails with both, or
resolves to one identifier with the same votes and successes, and the same providers fail; each
backend gets the same calls, and writing those down changes nothing.  Every success is counted under
the normal form of what was reported, so that all reports of one DAG-PB block are votes for its
identifier of version 0. -/
theorem publishAll_ignores_version (hash : HashFunction)
    (h : fleet.Matches R Cid.SameBlock content name other) (x : Session σ fleet.size)
    (y : Session τ other.size) (hR : R x.2 y.2) :
    Alike (Consensus.Refused ProviderError.SameButVersion)
        (Consensus.Matches ProviderError.SameButVersion)
        ((fleet.publishAll hash content name).run.run x).1
        ((other.publishAll hash content name).run.run y).1 ∧
      fleet.calls hash content name x.2 = other.calls hash content name y.2 ∧
      (fleet.publishNoting hash content name x.2).1 =
        ((fleet.publishAll hash content name).run.run x).1 ∧
      ∀ r, ((fleet.publishAll hash content name).run.run x).1 = .ok r →
        (∀ s ∈ r.successes, ∃ (i : Fin fleet.size) (reported : Cid), s.index = i.val ∧
          fleet.report hash content name x.2 i = .ok reported ∧ s.cid = reported.normal ∧
            (reported.HasV0 → s.cid = .v0 reported.digest)) ∧
        (∀ s ∈ r.successes, s.cid.HasV0 → s.cid.version = 0) ∧
        ∀ c, r.votes c = r.successes.countP (·.cid = c) := by
  refine ⟨(h.publishAll hash tolerates_sameBlock x y hR).1, ?_,
    (publishNoting_eq hash fleet content name x).1, fun r hr => ⟨fun s hs => ?_, fun s hs => ?_, ?_⟩⟩
  · exact (h.journaled.publishAll hash tolerates_sameBlock (fleet.journaled.cursor, (x.2, fun _ => []))
      (other.journaled.cursor, (y.2, fun _ => [])) ⟨hR, rfl⟩).2.2
  · obtain ⟨i, reported, hindex, hreport, hcid⟩ := exists_report_of_success hr s hs
    refine ⟨i, reported, hindex, hreport, hcid, fun hv0 => ?_⟩
    rw [hcid, Cid.normal_of_toV0 (Cid.toV0_of_hasV0 hv0)]
  · obtain ⟨i, reported, -, -, hcid⟩ := exists_report_of_success hr s hs
    rw [hcid]
    exact Cid.version_normal
  · rw [run_publishAll_eq] at hr
    intro c
    rw [Consensus.votes_of_decide hr, List.count_eq_countP, List.countP_map]
    rfl

/-- A vendor that reports one identifier for everything, and is believed. -/
def reporter (cid : Cid) : Provider Unit where
  backend :=
    { name := "reporter"
      capabilities := .full
      fetch := fun cid => throw (.fetch cid "not kept")
      upload := fun _ _ => return cid
      pin := fun _ => return }
  verification := .disabled

/-- Two of them. -/
def reporters (first second : Cid) : Fleet Unit where
  providers := #[reporter first, reporter second]
  retries := 1
  size_pos := Nat.two_pos
  retries_pos := Nat.one_pos

theorem matches_reporter {c d : Cid} (h : c.SameBlock d) (content : ByteArray)
    (name : Option String) :
    (reporter c).Matches (fun _ _ => True) Cid.SameBlock content name (reporter d) where
  name_eq := rfl
  capabilities_eq := rfl
  verification_eq := rfl
  upload := .ret h
  pin _ := .ret rfl

theorem matches_reporters {a b c d : Cid} (hac : a.SameBlock c) (hbd : b.SameBlock d)
    (content : ByteArray) (name : Option String) :
    (reporters a b).Matches (fun _ _ => True) Cid.SameBlock content name (reporters c d) where
  size_eq := rfl
  provider
    | ⟨0, _⟩, ⟨0, _⟩, _ => matches_reporter hac content name
    | ⟨1, _⟩, ⟨1, _⟩, _ => matches_reporter hbd content name

/-- Reports of one block in version 0 and 1, or in version 1 and 0, are two votes for it. -/
theorem publishAll_ignores_version_reporters :
    (reporters (.v0 .zero) (.v1 .dagPb .zero)).Matches (fun _ _ => True) Cid.SameBlock ⟨#[1, 2, 3]⟩
        none (reporters (.v1 .dagPb .zero) (.v0 .zero)) ∧
      ∃ r r', (((reporters (.v0 .zero) (.v1 .dagPb .zero)).publishAll Sha256.digest ⟨#[1, 2, 3]⟩
          none).run.run ((reporters (.v0 .zero) (.v1 .dagPb .zero)).cursor, ())).1 = .ok r ∧
        (((reporters (.v1 .dagPb .zero) (.v0 .zero)).publishAll Sha256.digest ⟨#[1, 2, 3]⟩
          none).run.run ((reporters (.v1 .dagPb .zero) (.v0 .zero)).cursor, ())).1 = .ok r' ∧
        r.tally = [(.v0 .zero, 2)] ∧ r'.tally = r.tally ∧ r'.cid = r.cid := by
  have hblock := Cid.sameBlock_versions .zero
  have hmatches := matches_reporters hblock hblock.symm ⟨#[1, 2, 3]⟩ none
  have hsame := (publishAll_ignores_version Sha256.digest hmatches
    ((reporters (.v0 .zero) (.v1 .dagPb .zero)).cursor, ())
    ((reporters (.v1 .dagPb .zero) (.v0 .zero)).cursor, ()) trivial).1
  refine ⟨hmatches, _, _, rfl, rfl, by decide +kernel, ?_⟩
  cases hsame with
  | ok h => exact ⟨h.tally_eq.symm, h.cid_eq.symm⟩

end Fleet

end AddressedStorage
