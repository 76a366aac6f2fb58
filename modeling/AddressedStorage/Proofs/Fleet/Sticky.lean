import AddressedStorage.Proofs.Fleet.Run
import AddressedStorage.Provider.Scripted

/-!
# Proofs/Fleet/Sticky — where reads start

A read is written down with every place it asked and what came of it (`read`); writing down changes
nothing (`run_fetch_eq_noting`).  The reads of a run, in order, tell where the next one starts
(`stickyPlace`): where the last answer came from since the frame was entered, or where the frame
starts.  The cursor stands there between calls (`Follows`), because a walk ends on the place that
answered or comes back to its start, and uploads leave it alone.
-/

namespace AddressedStorage.Fleet

variable {σ : Type} {n : Nat}

/-! ## Walks that are written down -/

/-- Asks one place after the other, as the cursor goes round, until one answers. -/
def walk (ask : Fin n → StateM σ (Except FleetError ByteArray)) (c : Cursor n) (tried : Nat) :
    StateM σ (Except FleetError ByteArray × Cursor n) := do
  match ← ask c.current with
  | .ok content => return (.ok content, c.commit)
  | .error e =>
    if _h : c.advance.offer? = none then
      return (.error (.noProvidersAvailable .fetch (tried + 1) e), c.advance)
    else walk ask c.advance (tried + 1)
termination_by c.remaining
decreasing_by exact Cursor.remaining_advance_lt _h

/-- A place that was asked, and what came of it. -/
abbrev Asked (n : Nat) := Fin n × Except FleetError ByteArray

/-- Asks, and writes down what came of it. -/
def noting (ask : Fin n → StateM σ (Except FleetError ByteArray)) (i : Fin n) :
    StateM (σ × List (Asked n)) (Except FleetError ByteArray) := fun (s, log) =>
  let (answer, t) := (ask i).run s
  (answer, (t, log ++ [(i, answer)]))

/-- The place that answered. -/
def answerer? (log : List (Asked n)) : Option (Fin n) := (log.find? (·.2.isOk)).map Prod.fst

/-- One place, and what follows from its answer. -/
theorem run_walk (ask : Fin n → StateM σ (Except FleetError ByteArray)) (c : Cursor n)
    (tried : Nat) (s : σ) :
    (walk ask c tried).run s =
      match (ask c.current).run s with
      | (.ok content, t) => ((.ok content, c.commit), t)
      | (.error e, t) =>
        if c.advance.offer? = none then
          ((.error (.noProvidersAvailable .fetch (tried + 1) e), c.advance), t)
        else (walk ask c.advance (tried + 1)).run t := by
  rw [walk, StateT.run_bind]
  rcases (ask c.current).run s with ⟨e | content, t⟩
  · change StateT.run (if _ : c.advance.offer? = none then _ else _) t = _
    split <;> rfl
  · rfl

/-- **Writing down changes nothing.**  What is written begins with the place the cursor stands on;
if any place answered, that is where the cursor ends. -/
theorem run_walk_noting (ask : Fin n → StateM σ (Except FleetError ByteArray)) (c : Cursor n)
    (tried : Nat) (s : σ) (log : List (Asked n)) :
    ∃ asked : List (Asked n),
      (walk (noting ask) c tried).run (s, log) =
        (((walk ask c tried).run s).1, (((walk ask c tried).run s).2, log ++ asked)) ∧
      asked.head?.map Prod.fst = some c.current ∧
      answerer? asked = ((walk ask c tried).run s).1.1.toOption.map fun _ =>
        ((walk ask c tried).run s).1.2.current := by
  have hnoting : (noting ask c.current).run (s, log) =
      (((ask c.current).run s).1, (((ask c.current).run s).2,
        log ++ [(c.current, ((ask c.current).run s).1)])) := rfl
  rw [run_walk, run_walk, hnoting]
  rcases (ask c.current).run s with ⟨e | content, t⟩
  · by_cases hoffer : c.advance.offer? = none
    · simp only [if_pos hoffer]
      exact ⟨_, rfl, rfl, rfl⟩
    · simp only [if_neg hoffer]
      obtain ⟨asked, hrun, -, hanswerer⟩ :=
        run_walk_noting ask c.advance (tried + 1) t (log ++ [(c.current, .error e)])
      refine ⟨(c.current, .error e) :: asked, ?_, rfl, hanswerer⟩
      rw [hrun, List.append_assoc, List.singleton_append]
  · exact ⟨_, rfl, rfl, rfl⟩
termination_by c.remaining
decreasing_by exact Cursor.remaining_advance_lt hoffer

/-! ## Reads that are written down -/

/-- A read at a frame: the places it asked, in order, and what came of each. -/
structure Read (n : Nat) where
  frame : Frame
  asked : List (Asked n)

namespace Read

/-- The place asked first. -/
def first? (r : Read n) : Option (Fin n) := r.asked.head?.map Prod.fst

/-- The place that answered the read. -/
def answeredBy? (r : Read n) : Option (Fin n) := answerer? r.asked

/-- What a read came to: its frame, and the place that answered it. -/
def outcome (r : Read n) : Frame × Option (Fin n) := (r.frame, r.answeredBy?)

end Read

variable (hash : HashFunction) (fleet : Fleet σ)

/-- Reading is a walk that asks the providers. -/
theorem fetchFrom_eq_walk (cid : Cid) (c : Cursor fleet.size) (tried : Nat) (s : σ) :
    (fleet.fetchFrom hash cid c tried).run s =
      (walk (fun i => fleet.fetchAt hash i cid) c tried).run s := by
  rw [run_fetchFrom, run_walk]
  rcases (fleet.fetchAt hash c.current cid).run s with ⟨e | content, t⟩
  · by_cases hoffer : c.advance.offer? = none
    · simp only [if_pos hoffer]
    · simp only [if_neg hoffer]
      exact fetchFrom_eq_walk cid c.advance (tried + 1) t
  · rfl
termination_by c.remaining
decreasing_by exact Cursor.remaining_advance_lt hoffer

/-- Reads, and writes down what was asked. -/
def fetchNoting (cid : Cid) (frame : Frame) (x : Session σ fleet.size) :
    (Except FleetError ByteArray × Cursor fleet.size) × (σ × List (Asked fleet.size)) :=
  (walk (noting fun i => fleet.fetchAt hash i cid) (x.1.enterFrame frame) 0).run (x.2, [])

/-- The read that a call makes. -/
def read (cid : Cid) (frame : Frame) (x : Session σ fleet.size) : Read fleet.size where
  frame := frame
  asked := (fleet.fetchNoting hash cid frame x).2.2

/-- The reads that a call makes: one, or none. -/
def readsOf : Request → Session σ fleet.size → List (Read fleet.size)
  | .fetch cid frame, x => [fleet.read hash cid frame x]
  | .publish _ _, _ | .publishAll _ _, _ => []
  | .selfCheck frame, x =>
    match (fleet.publish hash selfCheckPayload none).run.run x with
    | (.ok cid, y) => [fleet.read hash cid frame y]
    | (.error _, _) => []

/-- The reads that one call after the other makes. -/
def history : List Request → Session σ fleet.size → List (Read fleet.size)
  | [], _ => []
  | request :: later, x =>
    fleet.readsOf hash request x ++ history later (fleet.perform hash request x)

/-- **A read that is written down is the read.** -/
theorem run_fetch_eq_noting (cid : Cid) (frame : Frame) (x : Session σ fleet.size) :
    (fleet.fetch hash cid frame).run.run x =
      ((fleet.fetchNoting hash cid frame x).1.1,
        ((fleet.fetchNoting hash cid frame x).1.2, (fleet.fetchNoting hash cid frame x).2.1)) := by
  obtain ⟨asked, hrun, -⟩ := run_walk_noting (fun i => fleet.fetchAt hash i cid)
    (x.1.enterFrame frame) 0 x.2 []
  rw [fetchNoting, hrun, ← fetchFrom_eq_walk]
  rfl

/-- What a read asked first, and where the answer came from, if there was one. -/
theorem read_asked (cid : Cid) (frame : Frame) (x : Session σ fleet.size) :
    (fleet.read hash cid frame x).first? = some (x.1.enterFrame frame).current ∧
      (fleet.read hash cid frame x).answeredBy? =
        ((fleet.fetch hash cid frame).run.run x).1.toOption.map fun _ =>
          ((fleet.fetch hash cid frame).run.run x).2.1.current := by
  obtain ⟨asked, hrun, hfirst, hanswerer⟩ := run_walk_noting
    (fun i => fleet.fetchAt hash i cid) (x.1.enterFrame frame) 0 x.2 []
  have hasked : (fleet.read hash cid frame x).asked = asked := by
    rw [read, fetchNoting, hrun, List.nil_append]
  rw [run_fetch_eq_noting, fetchNoting, hrun, Read.first?, Read.answeredBy?, hasked]
  exact ⟨hfirst, hanswerer⟩

/-- **A read leaves the cursor on the place that answered**, or where it was. -/
theorem cursor_of_read (cid : Cid) (frame : Frame) {x : Session σ fleet.size} (h : x.1.Settled) :
    ∃ i, ((fleet.fetch hash cid frame).run.run x).2.1 = ⟨i, i, some frame⟩ ∧
      i = (fleet.read hash cid frame x).answeredBy?.getD (x.1.enterFrame frame).current := by
  obtain ⟨visits, result, ⟨c, t⟩, hrun, hwalked⟩ := fetch_walked hash fleet cid frame h
  rw [(read_asked hash fleet cid frame x).2, hrun]
  cases hwalked.ends with
  | answered => exact ⟨_, rfl, rfl⟩
  | exhausted => exact ⟨_, rfl, rfl⟩

/-! ## The rule -/

/-- Where the reads so far tell the next one at a frame to start: where the last answer came from
since the frame was entered, and where the frame starts if there was none. -/
def stickyPlace (reads : List (Read n)) (frame : Frame) : Nat :=
  match (reads.reverse.takeWhile (·.frame = frame)).findSome? Read.answeredBy? with
  | some i => i
  | none => frame.rotationIndex n

/-- One more read. -/
theorem stickyPlace_concat (reads : List (Read n)) (r : Read n) (frame : Frame) :
    stickyPlace (reads ++ [r]) frame =
      if r.frame = frame then r.answeredBy?.elim (stickyPlace reads frame) Fin.val
      else frame.rotationIndex n := by
  rw [stickyPlace, List.reverse_concat, List.takeWhile_cons]
  by_cases hframe : r.frame = frame
  · rw [if_pos hframe, if_pos (decide_eq_true hframe), List.findSome?_cons]
    cases r.answeredBy? <;> rfl
  · rw [if_neg hframe, if_neg (by simpa using hframe)]
    rfl

/-- Every read started where the ones before it tell. -/
def Sticky (reads : List (Read n)) : Prop :=
  ∀ k r, reads[k]? = some r →
    r.first?.map Fin.val = some (stickyPlace (reads.take k) r.frame)

theorem Sticky.concat {reads : List (Read n)} (h : Sticky reads) {r : Read n}
    (hr : r.first?.map Fin.val = some (stickyPlace reads r.frame)) : Sticky (reads ++ [r]) := by
  intro k r' hk
  rcases Nat.lt_trichotomy k reads.length with hlt | rfl | hgt
  · rw [List.getElem?_append_left hlt] at hk
    rw [List.take_append_of_le_length (Nat.le_of_lt hlt)]
    exact h k r' hk
  · obtain rfl : r = r' := by simpa using hk
    simpa using hr
  · have hnone : (reads ++ [r])[k]? = none :=
      List.getElem?_eq_none (by rw [List.length_append]; exact hgt)
    cases hnone.symm.trans hk

/-- The reads so far, and the cursor after them: it stands on the place that last worked, and where
the reads tell as soon as a frame is entered. -/
structure Follows (reads : List (Read n)) (c : Cursor n) : Prop where
  sticky : Sticky reads
  settled : c.Settled
  place : ∀ frame, (c.enterFrame frame).current.val = stickyPlace reads frame

/-- Before any read a frame starts on its own place. -/
theorem follows_start (h : 0 < n) : Follows [] (Cursor.start h) where
  sticky _ _ hk := nomatch hk
  settled := Cursor.settled_start h
  place _ := rfl

variable {hash fleet} {reads : List (Read fleet.size)} {x : Session σ fleet.size}

/-- **A read starts where the reads before it tell**, and the next one will. -/
theorem Follows.read (h : Follows reads x.1) (cid : Cid) (frame : Frame) :
    Follows (reads ++ [fleet.read hash cid frame x])
      ((fleet.fetch hash cid frame).run.run x).2.1 := by
  obtain ⟨i, hcursor, hi⟩ := cursor_of_read hash fleet cid frame h.settled
  have hframe : (fleet.read hash cid frame x).frame = frame := rfl
  rw [hcursor]
  refine ⟨h.sticky.concat ?_, rfl, fun later => ?_⟩
  · rw [(read_asked hash fleet cid frame x).1, Option.map_some, h.place, hframe]
  · rw [stickyPlace_concat, hframe, Cursor.enterFrame]
    by_cases hlater : frame = later
    · rw [if_pos hlater, if_pos (congrArg some hlater), ← h.place, ← hlater, hi]
      cases (fleet.read hash cid frame x).answeredBy? <;> rfl
    · rw [if_neg hlater, if_neg fun heq => hlater (Option.some.inj heq)]

/-! ## Whole runs -/

variable (hash fleet) in
/-- Uploads leave the cursor alone. -/
theorem cursor_of_publishAll (content : ByteArray) (name : Option String)
    (x : Session σ fleet.size) : ((fleet.publishAll hash content name).run.run x).2.1 = x.1 := rfl

variable (hash fleet) in
theorem cursor_of_publish (content : ByteArray) (name : Option String)
    (x : Session σ fleet.size) : ((fleet.publish hash content name).run.run x).2.1 = x.1 := by
  have hall := cursor_of_publishAll hash fleet content name x
  rw [publish, run_bind]
  rcases hrun : (fleet.publishAll hash content name).run.run x with ⟨e | r, y⟩ <;>
    rw [hrun] at hall <;> exact hall

/-- A self-check ends as its read did, or as its upload did if that failed. -/
theorem perform_selfCheck (frame : Frame) :
    fleet.perform hash (.selfCheck frame) x =
      match (fleet.publish hash selfCheckPayload none).run.run x with
      | (.ok cid, y) => ((fleet.fetch hash cid frame).run.run y).2
      | (.error _, y) => y := by
  rw [perform, selfCheck, run_bind]
  rcases (fleet.publish hash selfCheckPayload none).run.run x with ⟨e | cid, y⟩
  · rfl
  · dsimp only
    rw [run_bind]
    rcases (fleet.fetch hash cid frame).run.run y with ⟨e | content, z⟩
    · rfl
    · dsimp only
      split <;> rfl

/-- **The cursor follows the reads through one call.** -/
theorem Follows.perform (h : Follows reads x.1) (request : Request) :
    Follows (reads ++ fleet.readsOf hash request x) (fleet.perform hash request x).1 := by
  cases request with
  | fetch cid frame => exact h.read cid frame
  | publish content name =>
    rw [readsOf, List.append_nil, Fleet.perform, cursor_of_publish]
    exact h
  | publishAll content name =>
    rw [readsOf, List.append_nil, Fleet.perform, cursor_of_publishAll]
    exact h
  | selfCheck frame =>
    have hcursor := cursor_of_publish hash fleet selfCheckPayload none x
    rw [readsOf, perform_selfCheck]
    rcases hrun : (fleet.publish hash selfCheckPayload none).run.run x with ⟨e | cid, y⟩ <;>
      rw [hrun] at hcursor <;> rw [← hcursor] at h
    · rw [List.append_nil]
      exact h
    · exact h.read cid frame

/-- **The cursor follows the reads through every run.** -/
theorem Follows.after (h : Follows reads x.1) (requests : List Request) :
    Follows (reads ++ fleet.history hash requests x) (fleet.after hash requests x).1 := by
  induction requests generalizing reads x with
  | nil => simpa [history, Fleet.after] using h
  | cons request requests ih =>
    rw [history, ← List.append_assoc]
    exact ih (h.perform request)

/-- Only what the reads came to tells where the next one starts. -/
theorem stickyPlace_congr {reads reads' : List (Read n)}
    (h : reads.map Read.outcome = reads'.map Read.outcome) (frame : Frame) :
    stickyPlace reads frame = stickyPlace reads' frame := by
  have houtcomes : ∀ reads : List (Read n),
      (reads.reverse.takeWhile (·.frame = frame)).findSome? Read.answeredBy? =
        ((reads.map Read.outcome).reverse.takeWhile (·.1 = frame)).findSome? Prod.snd := by
    intro reads
    rw [← List.map_reverse, List.takeWhile_map, List.findSome?_map]
    rfl
  rw [stickyPlace, stickyPlace, houtcomes, houtcomes, h]

/-- **Reads are sticky.**  In every run, each read first asks the place that the reads before it
tell: where the last answer came from since the frame was entered, and where the frame starts if
there was none.  Uploads make no read and leave the cursor alone, so after the same outcomes reads
start on the same place, whatever was uploaded in between. -/
theorem history_sticky (hash : HashFunction) (fleet : Fleet σ) (s : σ) :
    (∀ requests k r, (fleet.history hash requests (fleet.cursor, s))[k]? = some r →
      r.first?.map Fin.val =
        some (stickyPlace ((fleet.history hash requests (fleet.cursor, s)).take k) r.frame)) ∧
    (∀ request content name, request = .publish content name ∨ request = .publishAll content name →
      ∀ x, fleet.readsOf hash request x = [] ∧ (fleet.perform hash request x).1 = x.1) ∧
    (∀ s' requests requests' k r r',
      (fleet.history hash requests (fleet.cursor, s))[k]? = some r →
      (fleet.history hash requests' (fleet.cursor, s'))[k]? = some r' → r.frame = r'.frame →
      ((fleet.history hash requests (fleet.cursor, s)).take k).map Read.outcome =
        ((fleet.history hash requests' (fleet.cursor, s')).take k).map Read.outcome →
      r.first? = r'.first?) := by
  have hsticky : ∀ s requests, Sticky (fleet.history hash requests (fleet.cursor, s)) := by
    intro s requests
    have hstart : Follows [] ((fleet.cursor, s) : Session σ fleet.size).1 :=
      follows_start fleet.size_pos
    exact (hstart.after requests).sticky
  refine ⟨fun requests => hsticky s requests, ?_, ?_⟩
  · rintro request content name (rfl | rfl) x
    · exact ⟨rfl, cursor_of_publish hash fleet content name x⟩
    · exact ⟨rfl, cursor_of_publishAll hash fleet content name x⟩
  · intro s' requests requests' k r r' hr hr' hframe houtcomes
    have hplace := hsticky s requests k r hr
    rw [stickyPlace_congr houtcomes, hframe, ← hsticky s' requests' k r' hr'] at hplace
    exact Option.map_injective (fun _ _ => Fin.ext) hplace

/-- Two providers that play one script between them. -/
def twoPlayers : Fleet Script where
  providers := #[⟨Script.backend (fun _ => Digest.zero) "first" .full, .disabled⟩,
    ⟨Script.backend (fun _ => Digest.zero) "second" .full, .disabled⟩]
  retries := 1
  size_pos := Nat.two_pos
  retries_pos := Nat.one_pos

/-- The first provider fails once.  Reads stay with the second, until another frame is entered in
between. -/
example : (twoPlayers.history (fun _ => Digest.zero)
    [.fetch (.v0 Digest.zero) ⟨2⟩, .publish ByteArray.empty none, .fetch (.v0 Digest.zero) ⟨2⟩,
      .selfCheck ⟨3⟩, .fetch (.v0 Digest.zero) ⟨2⟩]
    (twoPlayers.cursor,
      ⟨[fun cid => .error (.fetch cid "once"), fun _ => .ok ByteArray.empty], [], []⟩)).map
        (fun r => r.asked.map fun a => a.1.val) = [[0, 1], [1], [1], [0]] := by
  cbv

end AddressedStorage.Fleet
