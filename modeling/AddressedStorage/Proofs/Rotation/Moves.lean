import AddressedStorage.Proofs.Rotation.Cursor
import Mathlib.Data.List.Induction
import Mathlib.Logic.Function.Iterate

/-!
# Proofs/Rotation/Moves — a cursor moved in any order

A cursor is moved by entering frames, by advancing and by marking the place it stands on, in any order.
However it got where it stands, advancing offers the places between there and the place that last
worked, one by one, and then none (`answers_eq`).  Before a settled cursor that is every place but its
own (`Settled.mem_between_iff`).  The whole law is `rotation_law`.
-/

namespace AddressedStorage.Cursor

variable {n : Nat}

/-! ## Moves -/

/-- A call that moves a cursor. -/
inductive Move where
  | enterFrame (frame : Frame)
  | advance
  | commit
  deriving DecidableEq, Repr

/-- The frame that a call enters. -/
def Move.frame? : Move → Option Frame
  | enterFrame frame => some frame
  | advance | commit => none

/-- The frame entered last. -/
def lastEntered (moves : List Move) : Option Frame := (moves.filterMap Move.frame?).getLast?

/-- The cursor after a call. -/
def move (c : Cursor n) : Move → Cursor n
  | .enterFrame frame => c.enterFrame frame
  | .advance => c.advance
  | .commit => c.commit

/-- The cursor after one call after the other. -/
def after (c : Cursor n) (moves : List Move) : Cursor n := moves.foldl move c

theorem after_concat (c : Cursor n) (moves : List Move) (m : Move) :
    c.after (moves ++ [m]) = (c.after moves).move m := by
  rw [after, List.foldl_append]
  rfl

theorem lastEntered_concat (moves : List Move) (m : Move) :
    lastEntered (moves ++ [m]) = m.frame?.or (lastEntered moves) := by
  rw [lastEntered, List.filterMap_append, List.getLast?_append]
  cases m <;> rfl

/-- Only entering a frame changes it. -/
theorem frame_move (c : Cursor n) (m : Move) : (c.move m).frame = m.frame?.or c.frame := by
  cases m with
  | enterFrame frame => exact frame_enterFrame c frame
  | advance | commit => rfl

/-- **The frame is the one entered last**, or the first one if none was. -/
theorem frame_after (c : Cursor n) (moves : List Move) :
    (c.after moves).frame = (lastEntered moves).or c.frame := by
  -- On the last move, since that is the one that counts.
  induction moves using List.reverseRecOn with
  | nil => rfl
  | append_singleton moves m ih =>
    rw [after_concat, frame_move, ih, lastEntered_concat, Option.or_assoc]

/-! ## Entering a frame -/

/-- Entering the frame the cursor is in changes nothing. -/
theorem enterFrame_of_eq {c : Cursor n} {frame : Frame} (h : c.frame = some frame) :
    c.enterFrame frame = c ∧ c.isNewFrame frame = false :=
  ⟨if_pos h, decide_eq_false (Classical.not_not.mpr h)⟩

/-- Entering another one puts the cursor where that frame starts. -/
theorem enterFrame_of_ne {c : Cursor n} {frame : Frame} (h : c.frame ≠ some frame) :
    (c.enterFrame frame).current.val = frame.number.toNat % n ∧
      (c.enterFrame frame).lastWorking.val = frame.number.toNat % n ∧
      c.isNewFrame frame = true := by
  rw [enterFrame, if_neg h]
  exact ⟨rfl, rfl, decide_eq_true h⟩

/-! ## Advancing -/

theorem ahead_next (i : Fin n) (j : Nat) : ahead (next i) j = ahead i (j + 1) := by
  refine Fin.ext ?_
  rw [val_ahead, val_ahead, next, Nat.mod_add_mod, Nat.add_right_comm, Nat.add_assoc]

/-- Advancing moves the place and nothing else. -/
theorem iterate_advance (c : Cursor n) (j : Nat) :
    advance^[j] c = { c with current := ahead c.current j } := by
  induction j with
  | zero => rw [Function.iterate_zero_apply, ahead_zero]
  | succ j ih => rw [Function.iterate_succ_apply', ih, advance, next_ahead]

/-- What can still be advanced is the distance to the place that last worked, less one. -/
theorem remaining_eq (c : Cursor n) :
    (c.remaining : Int) = ((c.lastWorking.val : Int) - c.current.val - 1) % n := by
  have hcurrent := c.current.isLt
  have hsum : ((c.lastWorking.val + (n - 1 - c.current.val) : Nat) : Int) =
      (c.lastWorking.val : Int) - c.current.val - 1 + n := by omega
  rw [remaining, Int.natCast_mod, hsum, Int.add_emod_right]

theorem remaining_lt (c : Cursor n) : c.remaining < n :=
  Nat.mod_lt _ (Nat.zero_lt_of_lt c.current.isLt)

/-- One place further stands the one that last worked. -/
theorem ahead_remaining (c : Cursor n) : ahead c.current (c.remaining + 1) = c.lastWorking := by
  have hcurrent := c.current.isLt
  have hsum : c.current.val + 1 + (c.lastWorking.val + (n - 1 - c.current.val)) =
      c.lastWorking.val + n := by omega
  refine Fin.ext ?_
  rw [val_ahead, ← Nat.add_assoc, Nat.add_right_comm, remaining, Nat.add_mod_mod, hsum,
    Nat.add_mod_right, Nat.mod_eq_of_lt c.lastWorking.isLt]

/-- No place before that is the one that last worked. -/
theorem ahead_ne_lastWorking (c : Cursor n) {j : Nat} (hpos : 0 < j) (hle : j ≤ c.remaining) :
    ahead c.current j ≠ c.lastWorking := by
  intro h
  have hj : j < n := Nat.lt_of_le_of_lt hle c.remaining_lt
  rw [← ahead_remaining] at h
  rcases Nat.lt_or_ge (c.remaining + 1) n with hlt | hge
  · have := ahead_injOn hj hlt h
    omega
  · have hround : c.remaining + 1 = n := Nat.le_antisymm c.remaining_lt hge
    rw [hround, ahead_size] at h
    have := ahead_injOn hj (Nat.zero_lt_of_lt hj) (h.trans (ahead_zero c.current).symm)
    omega

/-- **Short of the place that last worked, the next place is offered.** -/
theorem offer?_iterate_advance (c : Cursor n) {j : Nat} (hpos : 0 < j) (hle : j ≤ c.remaining) :
    (advance^[j] c).offer? = some (ahead c.current j) := by
  rw [iterate_advance, offer?, if_neg (c.ahead_ne_lastWorking hpos hle)]

/-- **There, none is.** -/
theorem offer?_iterate_advance_remaining (c : Cursor n) :
    (advance^[c.remaining + 1] c).offer? = none := by
  rw [iterate_advance, offer?, if_pos c.ahead_remaining]

/-- What `k` calls in a row offer. -/
def answers (c : Cursor n) (k : Nat) : List (Option (Fin n)) :=
  (List.range k).map fun j => (advance^[j + 1] c).offer?

/-- The places between where the cursor stands and the place that last worked. -/
def between (c : Cursor n) : List (Fin n) :=
  (List.range c.remaining).map fun j => ahead c.current (j + 1)

/-- **Each place in between is offered, in order, and then none.** -/
theorem answers_eq (c : Cursor n) :
    c.answers (c.remaining + 1) = c.between.map some ++ [none] := by
  rw [answers, List.range_succ, List.map_append, List.map_singleton,
    offer?_iterate_advance_remaining, between, List.map_map]
  refine congrArg (· ++ [none]) (List.map_congr_left fun j hj => ?_)
  exact c.offer?_iterate_advance (Nat.succ_pos j) (List.mem_range.mp hj)

/-- In between, no place comes up twice. -/
theorem nodup_between (c : Cursor n) : c.between.Nodup := by
  have hnext : c.between = (List.range c.remaining).map (ahead (next c.current)) :=
    List.map_congr_left fun j _ => (ahead_next c.current j).symm
  rw [hnext]
  exact nodup_map_ahead _ (Nat.le_of_lt c.remaining_lt)

/-- A settled cursor has all but one round before it. -/
theorem Settled.remaining_eq {c : Cursor n} (h : c.Settled) : c.remaining = n - 1 := by
  have hlt := c.lastWorking.isLt
  have hcurrent : c.current.val = c.lastWorking.val := congrArg Fin.val h
  rw [remaining, Nat.mod_eq_of_lt (by omega)]
  omega

/-- **For a settled cursor, every other place is in between.** -/
theorem Settled.mem_between_iff {c : Cursor n} (h : c.Settled) {i : Fin n} :
    i ∈ c.between ↔ i ≠ c.current := by
  rw [between, List.mem_map]
  constructor
  · rintro ⟨j, hj, rfl⟩
    have hne := c.ahead_ne_lastWorking (Nat.succ_pos j) (Nat.succ_le_of_lt (List.mem_range.mp hj))
    exact fun heq => hne (heq.trans h)
  · intro hne
    obtain ⟨j, hj, rfl⟩ := exists_ahead c.current i
    cases j with
    | zero => exact absurd (ahead_zero c.current) hne
    | succ j => exact ⟨j, List.mem_range.mpr (by rw [h.remaining_eq]; omega), rfl⟩

/-! ## The law -/

/-- **The law of the cursor.**  However a cursor is moved, its places are among the `n` and its frame
is the one entered last.  Entering that frame again does nothing; entering another puts both places
where it starts.  From where the cursor stands, advancing goes through the places one by one: as many
as lie before the place that last worked are offered, and then none is, on that place.  So if the
cursor stands on it, all other places are offered, each once. -/
theorem rotation_law (h : 0 < n) (moves : List Move) :
    let c := (start h).after moves
    (c.current.val < n ∧ c.lastWorking.val < n ∧ c.frame = lastEntered moves) ∧
    (∀ frame, c.frame = some frame → c.enterFrame frame = c ∧ c.isNewFrame frame = false) ∧
    (∀ frame, c.frame ≠ some frame → (c.enterFrame frame).current.val = frame.number.toNat % n ∧
      (c.enterFrame frame).lastWorking.val = frame.number.toNat % n ∧ c.isNewFrame frame = true) ∧
    (∃ k : Nat, (k : Int) = ((c.lastWorking.val : Int) - c.current.val - 1) % n ∧
      (∀ j, (advance^[j] c).current.val = (c.current.val + j) % n) ∧
      (∀ j, 0 < j → j ≤ k → (advance^[j] c).offer? = some (advance^[j] c).current) ∧
      (advance^[k + 1] c).offer? = none ∧ (advance^[k + 1] c).current = c.lastWorking) ∧
    (c.current = c.lastWorking → ∃ offered : List (Fin n),
      c.answers n = offered.map some ++ [none] ∧ offered.length = n - 1 ∧ offered.Nodup ∧
        ∀ i, i ∈ offered ↔ i ≠ c.current) := by
  intro c
  refine ⟨⟨c.current.isLt, c.lastWorking.isLt, ?_⟩, ?_, ?_, ?_, ?_⟩
  · exact (frame_after (start h) moves).trans Option.or_none
  · exact fun frame => enterFrame_of_eq
  · exact fun frame => enterFrame_of_ne
  · refine ⟨c.remaining, c.remaining_eq, ?_, ?_, c.offer?_iterate_advance_remaining, ?_⟩
    · intro j
      rw [iterate_advance, val_ahead]
    · intro j hpos hle
      rw [c.offer?_iterate_advance hpos hle, iterate_advance]
    · rw [iterate_advance]
      exact c.ahead_remaining
  · intro hsettled
    have hremaining : c.remaining = n - 1 := Settled.remaining_eq hsettled
    have hround : c.remaining + 1 = n := by omega
    refine ⟨c.between, ?_, ?_, c.nodup_between, fun i => Settled.mem_between_iff hsettled⟩
    · rw [← c.answers_eq, hround]
    · rw [between, List.length_map, List.length_range, hremaining]

/-- Halfway round, a cursor that stands past the place that last worked offers just the places that
lie before it. -/
theorem rotation_law_midway : 0 < 3 ∧
    let c := (start (Nat.succ_pos 2)).after [.enterFrame ⟨7⟩, .advance, .commit, .advance]
    c.current ≠ c.lastWorking ∧ c.frame = some ⟨7⟩ ∧
      (advance^[1] c).offer? = some (advance^[1] c).current ∧ (advance^[2] c).offer? = none := by
  obtain ⟨⟨-, -, hframe⟩, -, -, ⟨k, hk, -, hoffered, hend, -⟩, -⟩ :=
    rotation_law (Nat.succ_pos 2) [.enterFrame ⟨7⟩, .advance, .commit, .advance]
  obtain rfl : k = 1 := Int.ofNat.inj hk
  exact ⟨Nat.succ_pos 2, by decide, hframe, hoffered 1 Nat.one_pos (Nat.le_refl 1), hend⟩

end AddressedStorage.Cursor
