import AddressedStorage.Proofs.Fleet.Walk
import AddressedStorage.Proofs.Provider.Verified

/-!
# Proofs/Fleet/Run — whole runs of a fleet

A run makes one call after the other.  Between calls the cursor is settled, whatever the calls were
and whether they failed, and what every provider preserves holds of the backends (`steady_after`).
So every read of a run sets out from a settled cursor and goes round the providers once
(`fetch_after_walks_once`).
-/

namespace AddressedStorage.Fleet

variable {σ : Type} (hash : HashFunction) (fleet : Fleet σ)

/-- A call to a fleet. -/
inductive Request where
  | fetch (cid : Cid) (frame : Frame)
  | publish (content : ByteArray) (name : Option String)
  | publishAll (content : ByteArray) (name : Option String)
  | selfCheck (frame : Frame)

/-- What a call uploads, and under which file name. -/
def Request.upload? : Request → Option (ByteArray × Option String)
  | fetch _ _ => none
  | publish content name | publishAll content name => some (content, name)
  | selfCheck _ => some (selfCheckPayload, none)

/-- What is kept after a call. -/
def perform : Request → Session σ fleet.size → Session σ fleet.size
  | .fetch cid frame, x => ((fleet.fetch hash cid frame).run.run x).2
  | .publish content name, x => ((fleet.publish hash content name).run.run x).2
  | .publishAll content name, x => ((fleet.publishAll hash content name).run.run x).2
  | .selfCheck frame, x => ((fleet.selfCheck hash frame).run.run x).2

/-- What is kept after one call after the other. -/
def after (requests : List Request) (x : Session σ fleet.size) : Session σ fleet.size :=
  requests.foldl (fun x request => fleet.perform hash request x) x

/-! ## Reading -/

variable {hash fleet} in
theorem run_fetch_of_fetchFrom {cid : Cid} {frame : Frame} {c c' : Cursor fleet.size} {s t : σ}
    {result : Except FleetError ByteArray}
    (h : (fleet.fetchFrom hash cid (c.enterFrame frame) 0).run s = ((result, c'), t)) :
    (fleet.fetch hash cid frame).run.run (c, s) = (result, (c', t)) := by
  have hfetch : (fleet.fetch hash cid frame).run.run (c, s) =
      (fun r => (r.1.1, (r.1.2, r.2))) ((fleet.fetchFrom hash cid (c.enterFrame frame) 0).run s) :=
    rfl
  rw [hfetch, h]

/-- **A read from a settled cursor is a walk** from the place where the frame starts or where the
cursor stands. -/
theorem fetch_walked (cid : Cid) (frame : Frame) {x : Session σ fleet.size} (h : x.1.Settled) :
    ∃ (visits : List (Visit fleet.size)) (result : Except FleetError ByteArray)
      (y : Session σ fleet.size), (fleet.fetch hash cid frame).run.run x = (result, y) ∧
        fleet.Walked hash cid (x.1.enterFrame frame).current (some frame) 0 visits result y.1
          x.2 y.2 := by
  obtain ⟨c, s⟩ := x
  have hstart := (h.enterFrame frame).eq_onTour
  rw [Cursor.frame_enterFrame] at hstart
  obtain ⟨visits, result, c', t, hrun, hwalked⟩ :=
    fetchFrom_walked hash fleet cid (c.enterFrame frame).current (some frame) 0 s fleet.size_pos
  rw [← hstart] at hrun
  exact ⟨visits, result, (c', t), run_fetch_of_fetchFrom hrun, hwalked⟩

/-! ## What calls preserve -/

variable {hash fleet} {P : σ → Prop}

/-- Questions preserve what the backends preserve, so each is put in a state where it holds. -/
theorem Attempts.preserves (hP : ∀ i, (fleet.provider i).backend.Preserves P) {cid : Cid}
    {log : List (Attempt fleet.size)} {s t : σ} (h : fleet.Attempts hash cid log s t) (hs : P s) :
    P t ∧ ∀ a ∈ log, ∃ u, P u ∧ (((fleet.provider a.1).fetch hash cid).run.run u).1 = a.2 := by
  induction h with
  | none => exact ⟨hs, List.forall_mem_nil _⟩
  | @ask i answer log s t u hask hlog ih =>
    have hstep := (hP i).fetch_provider hash cid s hs
    rw [hask] at hstep
    obtain ⟨hend, hlater⟩ := ih hstep
    exact ⟨hend, List.forall_mem_cons.mpr ⟨⟨s, hs, congrArg Prod.fst hask⟩, hlater⟩⟩

variable (hash) in
/-- Every upload leaves the predicate in place. -/
theorem publishAt_preserves (hP : ∀ i, (fleet.provider i).backend.Preserves P)
    (content : ByteArray) (name : Option String) (i : Fin fleet.size) (s : σ) (hs : P s) :
    P ((fleet.publishAt hash content name i).run s).2 :=
  (hP i).publish_provider hash content name s hs

variable (fleet P) in
/-- The cursor is settled, and the predicate holds of the backends. -/
def Steady (x : Session σ fleet.size) : Prop := x.1.Settled ∧ P x.2

variable (hash) in
theorem steady_fetch (hP : ∀ i, (fleet.provider i).backend.Preserves P) (cid : Cid)
    (frame : Frame) : Preserves (fleet.Steady P) (fleet.fetch hash cid frame) := by
  rintro x ⟨hsettled, hx⟩
  obtain ⟨visits, result, y, hrun, hwalked⟩ := fetch_walked hash fleet cid frame hsettled
  rw [hrun]
  exact ⟨hwalked.ends.settled, (hwalked.made.preserves hP hx).1⟩

theorem steady_publishAll (hP : ∀ i, (fleet.provider i).backend.Preserves P) (content : ByteArray)
    (name : Option String) : Preserves (fleet.Steady P) (fleet.publishAll hash content name) :=
  fun x ⟨hsettled, hx⟩ =>
    ⟨hsettled, (Preserves.mapM (publishAt_preserves hash hP content name) _ x.2 hx).2⟩

theorem steady_publish (hP : ∀ i, (fleet.provider i).backend.Preserves P) (content : ByteArray)
    (name : Option String) : Preserves (fleet.Steady P) (fleet.publish hash content name) :=
  .bind (steady_publishAll hP content name) fun _ => .ret _

theorem steady_selfCheck (hP : ∀ i, (fleet.provider i).backend.Preserves P) (frame : Frame) :
    Preserves (fleet.Steady P) (fleet.selfCheck hash frame) := by
  refine .bind (steady_publish hP _ none) fun cid =>
    .bind (steady_fetch hash hP cid frame) fun content => ?_
  split
  · exact .ret cid
  · exact .fail _

/-- **Every call leaves the cursor settled**, and in place what every backend preserves. -/
theorem steady_perform (hP : ∀ i, (fleet.provider i).backend.Preserves P) (request : Request)
    {x : Session σ fleet.size} (h : fleet.Steady P x) :
    fleet.Steady P (fleet.perform hash request x) := by
  cases request with
  | fetch cid frame => exact steady_fetch hash hP cid frame x h
  | publish content name => exact steady_publish hP content name x h
  | publishAll content name => exact steady_publishAll hP content name x h
  | selfCheck frame => exact steady_selfCheck hP frame x h

/-- **So does every run.** -/
theorem steady_after (hP : ∀ i, (fleet.provider i).backend.Preserves P) (requests : List Request)
    {x : Session σ fleet.size} (h : fleet.Steady P x) :
    fleet.Steady P (fleet.after hash requests x) := by
  induction requests generalizing x with
  | nil => exact h
  | cons request requests ih => exact ih (steady_perform hP request h)

/-- A fresh fleet is settled. -/
theorem steady_cursor {s : σ} (hs : P s) : fleet.Steady P (fleet.cursor, s) :=
  ⟨Cursor.settled_start fleet.size_pos, hs⟩

/-- Between the calls of a run the cursor is settled. -/
theorem settled_after (requests : List Request) (s : σ) :
    (fleet.after hash requests (fleet.cursor, s)).1.Settled :=
  (steady_after (P := fun _ => True) (fun _ => Backend.preserves_true _) requests
    (steady_cursor trivial)).1

/-! ## One round a read -/

/-- **A read goes round the providers once.**  After any run, from the place `start` where the
cursor stands in the frame, it visits one provider after the other, none twice, and stops at the
first that answers.  It fails just if all were given up, the last being the one before `start`.
The cursor ends on the place that answered, or on `start`. -/
theorem fetch_after_walks_once (hash : HashFunction) (fleet : Fleet σ) (requests : List Request)
    (s : σ) (cid : Cid) (frame : Frame) :
    let x := fleet.after hash requests (fleet.cursor, s)
    let start := (x.1.enterFrame frame).current
    ∃ (visits : List (Visit fleet.size)) (result : Except FleetError ByteArray)
      (y : Session σ fleet.size),
      (fleet.fetch hash cid frame).run.run x = (result, y) ∧
      visits.map Visit.place = (List.range visits.length).map (Cursor.ahead start) ∧
      (visits.map Visit.place).Nodup ∧
      fleet.Attempts hash cid (visits.flatMap Visit.attempts) x.2 y.2 ∧
      fleet.Ends start (some frame) visits result y.1 ∧
      ((∃ e, result = .error e) ↔
        visits.length = fleet.size ∧ ∀ v ∈ visits, ∃ e, v.GivenUp fleet.retries e) ∧
      ∀ e, result = .error e →
        visits.getLast?.map Visit.place = some (Cursor.ahead start (fleet.size - 1)) := by
  intro x start
  obtain ⟨visits, result, y, hrun, h⟩ :=
    fetch_walked hash fleet cid frame (settled_after requests s : x.1.Settled)
  have hplaces : visits.map Visit.place = (List.range visits.length).map (Cursor.ahead start) := by
    rw [h.places, List.range_eq_range']
  have hle : visits.length ≤ fleet.size := by
    have := h.size_le
    omega
  refine ⟨visits, result, y, hrun, hplaces, hplaces ▸ Cursor.nodup_map_ahead start hle, h.made,
    h.ends, ⟨?_, fun hall => h.ends.error_of_givenUp hall.2⟩, fun e he => h.getLast?_place he⟩
  rintro ⟨e, he⟩
  exact ⟨h.length_eq he, h.ends.givenUp_of_error he⟩

end AddressedStorage.Fleet
