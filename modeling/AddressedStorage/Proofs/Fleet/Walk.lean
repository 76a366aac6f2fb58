import AddressedStorage.Proofs.Fleet.Visit
import AddressedStorage.Proofs.Rotation.Cursor

/-!
# Proofs/Fleet/Walk — reading goes round the providers once

From a settled cursor reading visits one provider after the other and stops at the first that
answers (`fetchFrom_walk`).  Whether it is back where it started is read off the place that last
worked, which is why the cursor must be settled before: from there the round is complete when the
place comes up again, and not earlier.
-/

namespace AddressedStorage.Fleet

variable {σ : Type} (hash : HashFunction) (fleet : Fleet σ)

/-- How a walk ends: with the first provider that answers, or with the last one given up. -/
inductive Ends (start : Fin fleet.size) (frame : Option Frame) :
    List (Visit fleet.size) → Except FleetError ByteArray → Cursor fleet.size → Prop where
  | answered (earlier : List (Visit fleet.size)) {v : Visit fleet.size} {content : ByteArray}
      (hearlier : ∀ u ∈ earlier, ∃ e, u.GivenUp fleet.retries e)
      (hlast : v.Answered fleet.retries content) :
      Ends start frame (earlier ++ [v]) (.ok content) ⟨v.place, v.place, frame⟩
  | exhausted (earlier : List (Visit fleet.size)) {v : Visit fleet.size} {e : ProviderError}
      (hearlier : ∀ u ∈ earlier, ∃ e, u.GivenUp fleet.retries e)
      (hlast : v.GivenUp fleet.retries e) :
      Ends start frame (earlier ++ [v])
        (.error (.noProvidersAvailable .fetch fleet.size (fleet.gaveUp v.place e)))
        ⟨start, start, frame⟩

variable {fleet} {start : Fin fleet.size} {frame : Option Frame} {visits : List (Visit fleet.size)}
  {result : Except FleetError ByteArray} {c : Cursor fleet.size}

/-- A provider given up before makes a walk longer. -/
theorem Ends.cons (h : fleet.Ends start frame visits result c) {u : Visit fleet.size}
    {e : ProviderError} (hu : u.GivenUp fleet.retries e) :
    fleet.Ends start frame (u :: visits) result c := by
  cases h with
  | answered _ hearlier hlast =>
    exact .answered (u :: _) (List.forall_mem_cons.mpr ⟨⟨e, hu⟩, hearlier⟩) hlast
  | exhausted _ hearlier hlast =>
    exact .exhausted (u :: _) (List.forall_mem_cons.mpr ⟨⟨e, hu⟩, hearlier⟩) hlast

/-- **A walk leaves the cursor settled.** -/
theorem Ends.settled (h : fleet.Ends start frame visits result c) : c.Settled := by
  cases h <;> rfl

/-- A walk fails only if every provider it visited was given up. -/
theorem Ends.givenUp_of_error (h : fleet.Ends start frame visits result c) {e : FleetError}
    (he : result = .error e) : ∀ u ∈ visits, ∃ e, u.GivenUp fleet.retries e := by
  cases h with
  | answered => cases he
  | exhausted _ hearlier hlast =>
    exact List.forall_mem_append.mpr ⟨hearlier, List.forall_mem_singleton.mpr ⟨_, hlast⟩⟩

/-- A walk that succeeds visited a provider that answered. -/
theorem Ends.exists_answered_of_ok (h : fleet.Ends start frame visits result c)
    {content : ByteArray} (hok : result = .ok content) :
    ∃ v ∈ visits, v.Answered fleet.retries content := by
  cases h with
  | answered _ _ hlast => exact ⟨_, List.mem_concat_self, Except.ok.inj hok ▸ hlast⟩
  | exhausted => cases hok

/-- A walk that visited only providers that were given up fails. -/
theorem Ends.error_of_givenUp (h : fleet.Ends start frame visits result c)
    (hall : ∀ u ∈ visits, ∃ e, u.GivenUp fleet.retries e) : ∃ e, result = .error e := by
  cases h with
  | answered _ _ hlast =>
    obtain ⟨e, he⟩ := hall _ List.mem_concat_self
    exact absurd he (hlast.not_givenUp e)
  | exhausted => exact ⟨_, rfl⟩

/-- Every visit of a walk came to something. -/
theorem Ends.endsWith (h : fleet.Ends start frame visits result c) :
    ∀ v ∈ visits, ∃ outcome, v.EndsWith fleet.retries outcome := by
  have hgivenUp : ∀ {u : Visit fleet.size}, (∃ e, u.GivenUp fleet.retries e) →
      ∃ outcome, u.EndsWith fleet.retries outcome := fun ⟨e, he⟩ => ⟨.error e, he⟩
  cases h with
  | answered _ hearlier hlast =>
    exact List.forall_mem_append.mpr ⟨fun u hu => hgivenUp (hearlier u hu),
      List.forall_mem_singleton.mpr ⟨.ok _, hlast⟩⟩
  | exhausted _ hearlier hlast =>
    exact List.forall_mem_append.mpr ⟨fun u hu => hgivenUp (hearlier u hu),
      List.forall_mem_singleton.mpr ⟨.error _, hlast⟩⟩

variable (fleet)

/-- One provider, and what follows from its visit. -/
theorem run_fetchFrom (cid : Cid) (c : Cursor fleet.size) (tried : Nat) (s : σ) :
    (fleet.fetchFrom hash cid c tried).run s =
      match (fleet.fetchAt hash c.current cid).run s with
      | (.ok content, t) => ((.ok content, c.commit), t)
      | (.error e, t) =>
        if c.advance.offer? = none then
          ((.error (.noProvidersAvailable .fetch (tried + 1) e), c.advance), t)
        else (fleet.fetchFrom hash cid c.advance (tried + 1)).run t := by
  rw [fetchFrom, StateT.run_bind]
  rcases (fleet.fetchAt hash c.current cid).run s with ⟨e | content, t⟩
  · change StateT.run (if _ : c.advance.offer? = none then _ else _) t = _
    split <;> rfl
  · rfl

/-- The visits of a walk after `tried` providers were given up, and how it ends. -/
structure Walked (cid : Cid) (start : Fin fleet.size) (frame : Option Frame) (tried : Nat)
    (visits : List (Visit fleet.size)) (result : Except FleetError ByteArray)
    (c : Cursor fleet.size) (s t : σ) : Prop where
  places : visits.map Visit.place = (List.range' tried visits.length).map (Cursor.ahead start)
  made : fleet.Attempts hash cid (visits.flatMap Visit.attempts) s t
  ends : fleet.Ends start frame visits result c
  size_le : tried + visits.length ≤ fleet.size
  size_eq : ∀ e, result = .error e → tried + visits.length = fleet.size

variable {hash fleet} {cid : Cid} {tried : Nat} {s t u : σ}

/-- A walk of one visit. -/
theorem Walked.single {v : Visit fleet.size} (hplace : v.place = Cursor.ahead start tried)
    (hlog : fleet.Attempts hash cid v.attempts s t) (hends : fleet.Ends start frame [v] result c)
    (hle : tried + 1 ≤ fleet.size) (heq : ∀ e, result = .error e → tried + 1 = fleet.size) :
    fleet.Walked hash cid start frame tried [v] result c s t where
  places := congrArg (fun place => [place]) hplace
  made := by simpa using hlog
  ends := hends
  size_le := hle
  size_eq := heq

/-- A walk with one more visit before. -/
theorem Walked.cons (h : fleet.Walked hash cid start frame (tried + 1) visits result c t u)
    {v : Visit fleet.size} {e : ProviderError} (hplace : v.place = Cursor.ahead start tried)
    (hlog : fleet.Attempts hash cid v.attempts s t) (hlast : v.GivenUp fleet.retries e) :
    fleet.Walked hash cid start frame tried (v :: visits) result c s u where
  places := by
    rw [List.map_cons, List.length_cons, List.range'_succ, List.map_cons, hplace, h.places]
  made := hlog.append h.made
  ends := h.ends.cons hlast
  size_le := by
    have := h.size_le
    rw [List.length_cons]
    omega
  size_eq := fun e he => by
    have := h.size_eq e he
    rw [List.length_cons]
    omega

/-- A walk that fails visited as many providers as there are. -/
theorem Walked.length_eq (h : fleet.Walked hash cid start frame 0 visits result c s t)
    {e : FleetError} (he : result = .error e) : visits.length = fleet.size :=
  (Nat.zero_add _).symm.trans (h.size_eq e he)

/-- **A walk that fails visited every provider.** -/
theorem Walked.exists_visit (h : fleet.Walked hash cid start frame 0 visits result c s t)
    {e : FleetError} (he : result = .error e) (i : Fin fleet.size) : ∃ v ∈ visits, v.place = i := by
  obtain ⟨j, hj, rfl⟩ := Cursor.exists_ahead start i
  rw [← List.mem_map, h.places, h.length_eq he, ← List.range_eq_range']
  exact List.mem_map_of_mem (List.mem_range.mpr hj)

/-- **A walk that fails ends on the place before its start.** -/
theorem Walked.getLast?_place (h : fleet.Walked hash cid start frame 0 visits result c s t)
    {e : FleetError} (he : result = .error e) :
    visits.getLast?.map Visit.place = some (Cursor.ahead start (fleet.size - 1)) := by
  have hpos : fleet.size ≠ 0 := Nat.ne_of_gt fleet.size_pos
  rw [← List.getLast?_map, h.places, h.length_eq he, ← List.range_eq_range', List.getLast?_map,
    List.getLast?_range, if_neg hpos, Option.map_some]

variable (hash fleet)

/-- **The rest of a walk**, after `tried` providers were given up. -/
theorem fetchFrom_walked (cid : Cid) (start : Fin fleet.size) (frame : Option Frame) (tried : Nat)
    (s : σ) (h : tried < fleet.size) :
    ∃ (visits : List (Visit fleet.size)) (result : Except FleetError ByteArray)
      (c : Cursor fleet.size) (t : σ),
      (fleet.fetchFrom hash cid (.onTour start frame tried) tried).run s = ((result, c), t) ∧
        fleet.Walked hash cid start frame tried visits result c s t := by
  obtain ⟨v, outcome, t, hrun, hplace, hend, hlog⟩ :=
    fetchAt_visit hash fleet (Cursor.ahead start tried) cid s
  have hstep := run_fetchFrom hash fleet cid (.onTour start frame tried) tried s
  rw [Cursor.advance_onTour, Cursor.current_onTour, hrun] at hstep
  cases outcome with
  | ok content =>
    have hends : fleet.Ends start frame [v] (.ok content) ⟨v.place, v.place, frame⟩ :=
      .answered [] (List.forall_mem_nil _) hend
    rw [hplace] at hends
    exact ⟨[v], .ok content, _, t, hstep, .single hplace hlog hends h fun e he => nomatch he⟩
  | error e =>
    by_cases hlast : tried + 1 = fleet.size
    · -- The place after this one is the start again.
      have hends : fleet.Ends start frame [v] _ ⟨start, start, frame⟩ :=
        .exhausted [] (List.forall_mem_nil _) hend
      refine ⟨[v], _, _, t, hstep.trans (if_pos ?_), .single hplace hlog ?_ h fun _ _ => hlast⟩
      · rw [hlast, Cursor.offer?_onTour_size]
      · rw [hlast, Cursor.onTour, Cursor.ahead_size]
        exact hplace ▸ hends
    · have hlt : tried + 1 < fleet.size := Nat.lt_of_le_of_ne h hlast
      obtain ⟨visits, result, c, u, hrest, hwalked⟩ :=
        fetchFrom_walked cid start frame (tried + 1) t hlt
      have hoffer := Cursor.offer?_onTour_ne_none start frame (Nat.succ_pos tried) hlt
      exact ⟨v :: visits, result, c, u, (hstep.trans (if_neg hoffer)).trans hrest,
        hwalked.cons hplace hlog hend⟩
termination_by fleet.size - tried

end AddressedStorage.Fleet
