import AddressedStorage.Proofs.Dag.Binding
import AddressedStorage.Proofs.Fleet.Sticky
import AddressedStorage.Proofs.Fleet.Version

/-!
# Proofs/Fleet/SelfCheck — trouble is reported only where there is some

A self-check goes one of four ways (`Fleet.Checked`): the payload is not taken, it cannot be read, other
bytes are read, or it passes.  Other bytes can only come from a provider's answer (`Fleet.Brought`), so
between verified providers they collide with the payload.  Where all providers are stores in memory
(`Fleet.AllInMemory`) nothing but such a collision makes a self-check fail, in whatever state.
-/

namespace AddressedStorage

variable {σ : Type} {content : ByteArray} {name : Option String}

/-! ## Uploads read nothing -/

/-- No backend was asked to read. -/
def Fetchless (journal : Journal) : Prop := ∀ i, ∀ call ∈ journal i, call.operation ≠ .fetch

theorem Fetchless.update {journal : Journal} (h : Fetchless journal) (place : Nat)
    {call : Backend.Call} (hcall : call.operation ≠ .fetch) :
    Fetchless (Function.update journal place (journal place ++ [call])) := by
  intro i
  by_cases hi : i = place
  · rw [hi, Function.update_self]
    exact List.forall_mem_append.mpr ⟨h place, List.forall_mem_singleton.mpr hcall⟩
  · rw [Function.update_of_ne hi]
    exact h i

/-- Writing down the calls of an upload changes nothing, and none of them is a read. -/
theorem Provider.matches_noting_fetchless (p : Provider σ) (place : Nat) :
    p.Matches (fun s (x : σ × Journal) => s = x.1 ∧ Fetchless x.2) Eq content name
      (p.noting place) where
  name_eq := rfl
  capabilities_eq := rfl
  verification_eq := rfl
  upload := by
    rintro s ⟨_, journal⟩ ⟨rfl, h⟩
    exact ⟨.refl (fun _ => rfl) (fun _ => rfl) _, rfl, h.update place nofun⟩
  pin cid := by
    rintro s ⟨_, journal⟩ ⟨rfl, h⟩
    exact ⟨.refl (fun _ => rfl) (fun _ => rfl) _, rfl, h.update place nofun⟩

namespace Fleet

variable (hash : HashFunction) (fleet : Fleet σ)

variable (content name) in
theorem matches_journaled_fetchless :
    fleet.Matches (fun s (x : σ × Journal) => s = x.1 ∧ Fetchless x.2) Eq content name
      fleet.journaled where
  size_eq := fleet.size_journaled.symm
  provider i j hij := by
    rw [provider_journaled fleet i j hij]
    exact Provider.matches_noting_fetchless _ _

variable (content name) in
/-- **An upload asks no backend to read.** -/
theorem run_publish_noted (x : Session σ fleet.size) (c : Cursor fleet.journaled.size) :
    ∃ journal, (fleet.journaled.publish hash content name).run.run (c, (x.2, fun _ => [])) =
        (((fleet.publish hash content name).run.run x).1,
          (c, (((fleet.publish hash content name).run.run x).2.2, journal))) ∧
      Fetchless journal := by
  obtain ⟨hresult, hstate, hjournal⟩ :=
    (fleet.matches_journaled_fetchless content name).publishAll hash tolerates_eq x
      (c, (x.2, fun _ => [])) ⟨rfl, fun _ => List.forall_mem_nil _⟩
  refine ⟨_, ?_, hjournal⟩
  rw [run_publish, run_publish, Consensus.eq_of_alike hresult, hstate]
  rfl

/-! ## Where the result of a step comes from -/

/-- What a read comes to: what some provider answered, or that all were tried in vain. -/
inductive Brought (cid : Cid) : Except FleetError ByteArray → Prop where
  | answer {i : Fin fleet.size} {s : σ} {content : ByteArray}
      (hanswer : (((fleet.provider i).fetch hash cid).run.run s).1 = .ok content) :
      Brought cid (.ok content)
  | exhausted (attempted : Nat) (last : FleetError) :
      Brought cid (.error (.noProvidersAvailable .fetch attempted last))

/-- Wherever reading starts, some provider answers, or all were tried. -/
theorem brought_fetchFrom (cid : Cid) (c : Cursor fleet.size) (tried : Nat) (s : σ) :
    fleet.Brought hash cid ((fleet.fetchFrom hash cid c tried).run s).1.1 := by
  obtain ⟨v, outcome, t, hrun, -, hend, hlog⟩ := fetchAt_visit hash fleet c.current cid s
  rw [run_fetchFrom, hrun]
  cases outcome with
  | ok content =>
    obtain ⟨-, hasked⟩ := hlog.preserves (fun i => Backend.preserves_true _) trivial
    obtain ⟨u, -, hanswer⟩ := hasked _ (Visit.Answered.mem_attempts hend)
    exact .answer hanswer
  | error e =>
    by_cases hoffer : c.advance.offer? = none
    · simp only [Except.mapError, if_pos hoffer]
      exact .exhausted _ _
    · simp only [Except.mapError, if_neg hoffer]
      exact brought_fetchFrom cid c.advance (tried + 1) t
termination_by c.remaining
decreasing_by exact Cursor.remaining_advance_lt hoffer

theorem brought_fetch (cid : Cid) (frame : Frame) (x : Session σ fleet.size) :
    fleet.Brought hash cid ((fleet.fetch hash cid frame).run.run x).1 :=
  brought_fetchFrom hash fleet cid (x.1.enterFrame frame) 0 x.2

variable {hash fleet} {frame : Frame} {x y : Session σ fleet.size} {cid : Cid}

/-- An upload fails only with all failures. -/
theorem exists_failures_of_publish {e : FleetError}
    (h : ((fleet.publish hash content name).run.run x).1 = .error e) :
    ∃ failures, e = .noProvidersAvailable .upload failures.length (.publishFailed failures) := by
  rw [run_publish_eq, run_publishAll_eq] at h
  rcases hdecide : Consensus.decide fleet.size _ with e' | r <;> rw [hdecide] at h
  · cases h
    exact Consensus.exists_failures_of_decide hdecide
  · cases h

/-- **What is read through verified providers hashes to the identifier.** -/
theorem contentCid_of_fetch (hverified : ∀ i, (fleet.provider i).verification = .enabled)
    (h : ((fleet.fetch hash cid frame).run.run x).1 = .ok content) :
    ∃ key, cid.toV0 = .ok key ∧ Dag.contentCid hash content = .ok key := by
  have hbrought := brought_fetch hash fleet cid frame x
  rw [h] at hbrought
  cases hbrought with
  | answer hanswer => exact Provider.ensures_fetch hash (hverified _) cid _ content hanswer

/-! ## The ways through a self-check -/

variable (hash fleet) in
/-- What a self-check at a frame comes to, and what is kept. -/
inductive Checked (frame : Frame) (x : Session σ fleet.size) :
    Except FleetError Cid × Session σ fleet.size → Prop where
  | refused {e : FleetError} {y : Session σ fleet.size}
      (hpublish : (fleet.publish hash selfCheckPayload none).run.run x = (.error e, y)) :
      Checked frame x (.error e, y)
  | unread {cid : Cid} {e : FleetError} {y z : Session σ fleet.size}
      (hpublish : (fleet.publish hash selfCheckPayload none).run.run x = (.ok cid, y))
      (hfetch : (fleet.fetch hash cid frame).run.run y = (.error e, z)) :
      Checked frame x (.error e, z)
  | differs {cid : Cid} {content : ByteArray} {y z : Session σ fleet.size}
      (hpublish : (fleet.publish hash selfCheckPayload none).run.run x = (.ok cid, y))
      (hfetch : (fleet.fetch hash cid frame).run.run y = (.ok content, z))
      (hne : content ≠ selfCheckPayload) :
      Checked frame x (.error (.selfCheckMismatch cid), z)
  | passed {cid : Cid} {y z : Session σ fleet.size}
      (hpublish : (fleet.publish hash selfCheckPayload none).run.run x = (.ok cid, y))
      (hfetch : (fleet.fetch hash cid frame).run.run y = (.ok selfCheckPayload, z)) :
      Checked frame x (.ok cid, z)

variable (hash fleet frame x) in
/-- **A self-check goes one of four ways.** -/
theorem checked_selfCheck :
    fleet.Checked hash frame x ((fleet.selfCheck hash frame).run.run x) := by
  rw [selfCheck, run_bind]
  rcases hpublish : (fleet.publish hash selfCheckPayload none).run.run x with ⟨e | cid, y⟩
  · exact .refused hpublish
  · dsimp only
    rw [run_bind]
    rcases hfetch : (fleet.fetch hash cid frame).run.run y with ⟨e | content, z⟩
    · exact .unread hpublish hfetch
    · dsimp only
      by_cases hsame : content = selfCheckPayload
      · rw [if_pos hsame]
        exact .passed hpublish (hsame ▸ hfetch)
      · rw [if_neg hsame]
        exact .differs hpublish hfetch hsame

/-- What is read decides. -/
theorem run_selfCheck_of_read
    (hpublish : (fleet.publish hash selfCheckPayload none).run.run x = (.ok cid, y))
    (hfetch : ((fleet.fetch hash cid frame).run.run y).1 = .ok content) :
    ((fleet.selfCheck hash frame).run.run x).1 =
      if content = selfCheckPayload then .ok cid else .error (.selfCheckMismatch cid) := by
  obtain ⟨z, hread⟩ : ∃ z, (fleet.fetch hash cid frame).run.run y = (.ok content, z) :=
    ⟨_, Prod.ext hfetch rfl⟩
  rw [selfCheck, run_bind_of_ok hpublish, run_bind_of_ok hread]
  split <;> rfl

/-- **It passes just if the payload was taken and is read back.** -/
theorem selfCheck_eq_ok_iff :
    ((fleet.selfCheck hash frame).run.run x).1 = .ok cid ↔
      ∃ y, (fleet.publish hash selfCheckPayload none).run.run x = (.ok cid, y) ∧
        ((fleet.fetch hash cid frame).run.run y).1 = .ok selfCheckPayload := by
  constructor
  · intro h
    have hchecked := checked_selfCheck hash fleet frame x
    generalize (fleet.selfCheck hash frame).run.run x = run at h hchecked
    cases hchecked with
    | passed hpublish hfetch =>
      obtain rfl := Except.ok.inj h
      exact ⟨_, hpublish, congrArg Prod.fst hfetch⟩
    | _ => cases h
  · rintro ⟨y, hpublish, hfetch⟩
    rw [run_selfCheck_of_read hpublish hfetch, if_pos rfl]

/-- **It reports a mismatch just if other bytes are read back.** -/
theorem selfCheck_eq_mismatch_iff :
    ((fleet.selfCheck hash frame).run.run x).1 = .error (.selfCheckMismatch cid) ↔
      ∃ y content, (fleet.publish hash selfCheckPayload none).run.run x = (.ok cid, y) ∧
        ((fleet.fetch hash cid frame).run.run y).1 = .ok content ∧ content ≠ selfCheckPayload := by
  constructor
  · intro h
    have hchecked := checked_selfCheck hash fleet frame x
    generalize (fleet.selfCheck hash frame).run.run x = run at h hchecked
    cases hchecked with
    | refused hpublish =>
      obtain ⟨failures, rfl⟩ := exists_failures_of_publish (congrArg Prod.fst hpublish)
      cases h
    | @unread cid e y z hpublish hfetch =>
      have hbrought := brought_fetch hash fleet cid frame y
      rw [hfetch] at hbrought
      cases hbrought
      cases h
    | differs hpublish hfetch hne =>
      obtain rfl := FleetError.selfCheckMismatch.inj (Except.error.inj h)
      exact ⟨_, _, hpublish, congrArg Prod.fst hfetch, hne⟩
    | passed => cases h
  · rintro ⟨y, content, hpublish, hfetch, hne⟩
    rw [run_selfCheck_of_read hpublish hfetch, if_neg hne]

/-- **Where the payload is not taken, nothing is read.** -/
theorem selfCheck_of_refused {e : FleetError}
    (h : (fleet.publish hash selfCheckPayload none).run.run x = (.error e, y)) :
    (fleet.selfCheck hash frame).run.run x = (.error e, y) ∧ y.1 = x.1 ∧
      ∀ c, ∃ journal, (fleet.journaled.selfCheck hash frame).run.run (c, (x.2, fun _ => [])) =
        (.error e, (c, (y.2, journal))) ∧ Fetchless journal := by
  refine ⟨?_, ?_, fun c => ?_⟩
  · rw [selfCheck, run_bind, h]
  · rw [← cursor_of_publish hash fleet selfCheckPayload none x, h]
  · obtain ⟨journal, hnoted, hjournal⟩ := run_publish_noted selfCheckPayload none hash fleet x c
    rw [h] at hnoted
    refine ⟨journal, ?_, hjournal⟩
    rw [selfCheck, run_bind, hnoted]

/-! ## Stores in memory -/

/-- Every provider is a verified store in memory on a part of the state of its own. -/
structure AllInMemory (hash : HashFunction) (fleet : Fleet σ) (part : Fin fleet.size → σ → Memory) :
    Prop where
  store : ∀ i, ∃ put, (fleet.provider i).Stores hash (part i) put ∧
    ∀ j, j ≠ i → ∀ m s, part j (put m s) = part j s

namespace AllInMemory

variable {part : Fin fleet.size → σ → Memory} {key : Cid}

theorem verified (h : fleet.AllInMemory hash part) (i : Fin fleet.size) :
    (fleet.provider i).verification = .enabled := by
  obtain ⟨put, hstores, -⟩ := h.store i
  exact hstores.verified

/-- What stores preserve is preserved on every part. -/
theorem preserves (h : fleet.AllInMemory hash part) {P : Memory → Prop}
    (hP : ∀ name, (Memory.backend hash name).Preserves P) (j i : Fin fleet.size) :
    (fleet.provider i).backend.Preserves fun s => P (part j s) := by
  obtain ⟨put, hstores, hothers⟩ := h.store i
  by_cases hj : j = i
  · exact hj ▸ hstores.preserves hP
  · obtain ⟨name, hbackend⟩ := hstores.backend_eq
    rw [hbackend]
    refine Backend.preserves_zoom _ fun m s hs => ?_
    rwa [hothers j hj]

/-- **A self-check passes** from a settled cursor and sound stores, if no other content hashes to the
identifier of the payload. -/
theorem run_selfCheck (h : fleet.AllInMemory hash part)
    (hcontent : Dag.contentCid hash selfCheckPayload = .ok key) (hkey : key.toV0 = .ok key)
    (hunique : ∀ content, Dag.contentCid hash content = .ok key → content = selfCheckPayload)
    (frame : Frame) (i : Fin fleet.size) (hsettled : x.1.Settled) (hx : (part i x.2).Sound hash) :
    ((fleet.selfCheck hash frame).run.run x).1 = .ok key := by
  obtain ⟨put, hstores, -⟩ := h.store i
  have hsound := h.preserves (fun name => Memory.preserves_sound hash name) i
  have hholds := h.preserves (fun name => Memory.preserves_holds hash name key) i
  obtain ⟨y, hpublish, hy⟩ := run_publish_of_taken h.verified hsound hholds hcontent
    (fun s hs => hstores.run_publish hkey hcontent none hs) hx
  obtain ⟨content, hfetch, hread⟩ := run_fetch_of_served (x := (x.1, y)) h.verified hholds hkey
    (fun s hs => hstores.run_fetch hkey hs) frame hsettled hy
  obtain rfl := hunique content hread
  exact selfCheck_eq_ok_iff.mpr ⟨_, hpublish, hfetch⟩

end AllInMemory

/-- The payload of a self-check is not too large. -/
theorem size_selfCheckPayload_le : selfCheckPayload.size ≤ Dag.chunkSize := by decide

/-- **A self-check reports trouble only where there is some.**  In every state and at every frame it
passes just if the payload is taken and read back.  Where the payload is not taken, the failure of the
upload is reported, no backend is asked to read and the cursor stays.  Between verified providers a
self-check passes with the identifier of the payload only, and reports a mismatch only for other bytes
with that identifier.  If there are none, fresh stores in memory pass it after any calls. -/
theorem selfCheck_reports_trouble (hash : HashFunction) (fleet : Fleet σ) :
    (∀ frame x cid, ((fleet.selfCheck hash frame).run.run x).1 = .ok cid ↔
      ∃ y, (fleet.publish hash selfCheckPayload none).run.run x = (.ok cid, y) ∧
        ((fleet.fetch hash cid frame).run.run y).1 = .ok selfCheckPayload) ∧
    (∀ frame x e y, (fleet.publish hash selfCheckPayload none).run.run x = (.error e, y) →
      (fleet.selfCheck hash frame).run.run x = (.error e, y) ∧ y.1 = x.1 ∧
        ∀ c, ∃ journal, (fleet.journaled.selfCheck hash frame).run.run (c, (x.2, fun _ => [])) =
          (.error e, (c, (y.2, journal))) ∧ Fetchless journal) ∧
    ((∀ i, (fleet.provider i).verification = .enabled) →
      (∀ frame x cid, ((fleet.selfCheck hash frame).run.run x).1 = .ok cid →
        Dag.contentCid hash selfCheckPayload = .ok cid) ∧
      ∀ frame x cid, ((fleet.selfCheck hash frame).run.run x).1 = .error (.selfCheckMismatch cid) →
        ∃ y content, (fleet.publish hash selfCheckPayload none).run.run x = (.ok cid, y) ∧
          ((fleet.fetch hash cid frame).run.run y).1 = .ok content ∧ content ≠ selfCheckPayload ∧
            Dag.contentCid hash content = .ok cid ∧
              Dag.contentCid hash selfCheckPayload = .ok cid) ∧
    ∀ part, fleet.AllInMemory hash part →
      (∀ content, Dag.contentCid hash content = Dag.contentCid hash selfCheckPayload →
        content = selfCheckPayload) →
      ∀ requests s, (∀ i, part i s = Memory.empty) → ∀ frame,
        ∃ cid, Dag.contentCid hash selfCheckPayload = .ok cid ∧
          ((fleet.selfCheck hash frame).run.run
            (fleet.after hash requests (fleet.cursor, s))).1 = .ok cid := by
  obtain ⟨digest, hcontent⟩ := Dag.exists_contentCid_of_le hash
    (size_selfCheckPayload_le.trans (by decide) : selfCheckPayload.size ≤ Dag.maxContentLength)
  refine ⟨fun frame x cid => selfCheck_eq_ok_iff, fun frame x e y => selfCheck_of_refused,
    fun hverified => ⟨fun frame x cid hok => ?_, fun frame x cid hmismatch => ?_⟩,
    fun part hstores hunique requests s hempty frame => ⟨.v0 digest, hcontent, ?_⟩⟩
  · obtain ⟨y, hpublish, -⟩ := selfCheck_eq_ok_iff.mp hok
    exact contentCid_of_publish hverified (congrArg Prod.fst hpublish)
  · obtain ⟨y, content, hpublish, hfetch, hne⟩ := selfCheck_eq_mismatch_iff.mp hmismatch
    have hcid : Dag.contentCid hash selfCheckPayload = .ok cid :=
      contentCid_of_publish hverified (congrArg Prod.fst hpublish)
    -- The identifier is of version 0, so the one that was read under is the same.
    obtain rfl : cid = .v0 digest := Except.ok.inj (hcid.symm.trans hcontent)
    obtain ⟨key, hkey, hread⟩ := contentCid_of_fetch hverified hfetch
    obtain rfl : .v0 digest = key := Except.ok.inj hkey
    exact ⟨y, content, hpublish, hfetch, hne, hread, hcid⟩
  · let first : Fin fleet.size := ⟨0, fleet.size_pos⟩
    have hsound : fleet.Steady (fun s => (part first s).Sound hash)
        (fleet.after hash requests (fleet.cursor, s)) :=
      steady_after (hstores.preserves (fun name => Memory.preserves_sound hash name) first) requests
        (steady_cursor (hempty first ▸ Memory.sound_empty))
    exact hstores.run_selfCheck hcontent rfl
      (fun content h => hunique content (h.trans hcontent.symm)) frame first hsound.1 hsound.2

/-- Two stores. -/
def twoStores (hash : HashFunction) : Fleet (Memory × Memory) where
  providers := #[⟨(Memory.backend hash "m0").zoom Prod.fst fun m s => (m, s.2), .enabled⟩,
    ⟨(Memory.backend hash "m1").zoom Prod.snd fun m s => (s.1, m), .enabled⟩]
  retries := 2
  size_pos := Nat.two_pos
  retries_pos := Nat.two_pos

/-- The part of the state that each of them works on. -/
def storeOf (hash : HashFunction) : Fin (twoStores hash).size → Memory × Memory → Memory
  | ⟨0, _⟩, s => s.1
  | ⟨_ + 1, _⟩, s => s.2

theorem allInMemory_twoStores (hash : HashFunction) :
    (twoStores hash).AllInMemory hash (storeOf hash) where
  store
    | ⟨0, _⟩ => ⟨fun m s => (m, s.2), ⟨rfl, ⟨"m0", rfl⟩, fun _ _ => rfl⟩, fun
      | ⟨0, _⟩, hne => absurd rfl hne
      | ⟨_ + 1, _⟩, _ => fun _ _ => rfl⟩
    | ⟨1, _⟩ => ⟨fun m s => (s.1, m), ⟨rfl, ⟨"m1", rfl⟩, fun _ _ => rfl⟩, fun
      | ⟨0, _⟩, _ => fun _ _ => rfl
      | ⟨1, _⟩, hne => absurd rfl hne⟩

/-- A hash function that tells the leaf of the payload from everything else. -/
def marking : HashFunction := fun data =>
  if data = Dag.leafData selfCheckPayload then ⟨(List.replicate 32 1).toByteArray, by simp⟩ else .zero

theorem eq_of_marking {data : ByteArray}
    (h : marking data = marking (Dag.leafData selfCheckPayload)) :
    data = Dag.leafData selfCheckPayload := by
  by_contra hne
  rw [marking, marking, if_neg hne, if_pos rfl] at h
  have hbytes := List.toByteArray_inj.mp (congrArg Digest.bytes h)
  simp at hbytes

/-- After an upload and a self-check, two stores pass a self-check. -/
theorem selfCheck_reports_trouble_twoStores :
    (twoStores marking).AllInMemory marking (storeOf marking) ∧
      (∀ content, Dag.contentCid marking content = Dag.contentCid marking selfCheckPayload →
        content = selfCheckPayload) ∧
      ∃ cid, Dag.contentCid marking selfCheckPayload = .ok cid ∧
        (((twoStores marking).selfCheck marking ⟨11⟩).run.run
          ((twoStores marking).after marking [.publish ⟨#[1, 2, 3]⟩ none, .selfCheck ⟨10⟩]
            ((twoStores marking).cursor, (Memory.empty, Memory.empty)))).1 = .ok cid := by
  have hstores := allInMemory_twoStores marking
  have hunique : ∀ content,
      Dag.contentCid marking content = Dag.contentCid marking selfCheckPayload →
        content = selfCheckPayload :=
    fun content => Dag.eq_of_contentCid_eq size_selfCheckPayload_le fun _ => eq_of_marking
  obtain ⟨-, -, -, hpasses⟩ := selfCheck_reports_trouble marking (twoStores marking)
  refine ⟨hstores, hunique, hpasses _ hstores hunique _ _ ?_ ⟨11⟩⟩
  rintro ⟨_ | i, hi⟩ <;> rfl

end Fleet

end AddressedStorage
