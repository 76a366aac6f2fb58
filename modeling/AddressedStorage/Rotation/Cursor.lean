import AddressedStorage.Rotation.Frame

/-!
# Rotation/Cursor — where reading stands

A cursor walks round `n` places.  Entering a new frame jumps to the frame's place; within a frame
the cursor stays where the last read succeeded.  `advance` goes one place on and offers it, until it
is back at the place that last worked.
-/

namespace AddressedStorage

/-- A place among `n`, the place that last worked, and the frame both belong to. -/
structure Cursor (n : Nat) where
  current : Fin n
  lastWorking : Fin n
  frame : Option Frame
  deriving DecidableEq, Repr

namespace Cursor

variable {n : Nat}

/-- The cursor on the first place, in no frame. -/
def start (h : 0 < n) : Cursor n where
  current := ⟨0, h⟩
  lastWorking := ⟨0, h⟩
  frame := none

/-- The place after a place, the first after the last. -/
def next (i : Fin n) : Fin n := ⟨(i.val + 1) % n, Nat.mod_lt _ (Nat.zero_lt_of_lt i.isLt)⟩

/-- Goes to the place of a frame, unless that is the frame the cursor is in. -/
def enterFrame (c : Cursor n) (frame : Frame) : Cursor n :=
  if c.frame = some frame then c
  else
    let place := ⟨frame.rotationIndex n, frame.rotationIndex_lt (Nat.zero_lt_of_lt c.current.isLt)⟩
    { current := place, lastWorking := place, frame := some frame }

/-- Whether entering a frame moves the cursor. -/
def isNewFrame (c : Cursor n) (frame : Frame) : Bool := c.frame ≠ some frame

/-- Goes one place on. -/
def advance (c : Cursor n) : Cursor n := { c with current := next c.current }

/-- The place the cursor stands on, unless it is the one that last worked. -/
def offer? (c : Cursor n) : Option (Fin n) :=
  if c.current = c.lastWorking then none else some c.current

/-- Marks the place the cursor stands on as the one that last worked. -/
def commit (c : Cursor n) : Cursor n := { c with lastWorking := c.current }

/-- How often the cursor can advance before it is back at the place that last worked. -/
def remaining (c : Cursor n) : Nat := (c.lastWorking.val + (n - 1 - c.current.val)) % n

/-- Each place that is offered leaves fewer to come. -/
theorem remaining_advance_lt {c : Cursor n} (h : c.advance.offer? ≠ none) :
    c.advance.remaining < c.remaining := by
  obtain ⟨⟨i, hi⟩, ⟨j, hj⟩, frame⟩ := c
  simp only [offer?, advance, next, ne_eq, ite_eq_left_iff, Fin.mk.injEq, reduceCtorEq, imp_false,
    Classical.not_not] at h
  simp only [remaining, advance, next]
  by_cases hlast : i + 1 = n
  · subst hlast
    simp only [Nat.mod_self] at h ⊢
    rw [Nat.mod_eq_sub_mod (by omega), Nat.mod_eq_of_lt (by omega), Nat.mod_eq_of_lt (by omega)]
    omega
  · rw [Nat.mod_eq_of_lt (by omega : i + 1 < n)] at h ⊢
    by_cases hle : j ≤ i
    · rw [Nat.mod_eq_of_lt (by omega), Nat.mod_eq_of_lt (by omega)]
      omega
    · rw [Nat.mod_eq_sub_mod (by omega), Nat.mod_eq_of_lt (by omega),
        Nat.mod_eq_sub_mod (by omega), Nat.mod_eq_of_lt (by omega)]
      omega

end Cursor

end AddressedStorage
