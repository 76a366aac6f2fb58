import AddressedStorage.Rotation.Cursor
import Mathlib.Data.List.Nodup
import Mathlib.Data.Nat.ModEq

/-!
# Proofs/Rotation/Cursor — the places ahead of a place

`ahead i j` is `j` places on from `i`.  The first `n` of them are all places, each once
(`nodup_map_ahead`), and the one after those is `i` again (`ahead_size`).  A cursor that stands on
the place that last worked is **settled**; advanced from there, it is offered every place but that
one (`offer?_onTour_ne_none`) and then none (`offer?_onTour_size`).
-/

namespace AddressedStorage.Cursor

variable {n : Nat}

/-! ## Places ahead -/

/-- The place `j` places on. -/
def ahead (i : Fin n) (j : Nat) : Fin n :=
  ⟨(i.val + j) % n, Nat.mod_lt _ (Nat.zero_lt_of_lt i.isLt)⟩

@[simp] theorem val_ahead (i : Fin n) (j : Nat) : (ahead i j).val = (i.val + j) % n := rfl

@[simp] theorem ahead_zero (i : Fin n) : ahead i 0 = i :=
  Fin.ext (Nat.mod_eq_of_lt i.isLt)

/-- All the way round. -/
@[simp] theorem ahead_size (i : Fin n) : ahead i n = i :=
  Fin.ext ((Nat.add_mod_right i.val n).trans (Nat.mod_eq_of_lt i.isLt))

/-- One place on from there. -/
@[simp] theorem next_ahead (i : Fin n) (j : Nat) : next (ahead i j) = ahead i (j + 1) :=
  Fin.ext (Nat.mod_add_mod (i.val + j) n 1)

/-- **Less than one round apart, places differ.** -/
theorem ahead_injOn {i : Fin n} {j k : Nat} (hj : j < n) (hk : k < n)
    (h : ahead i j = ahead i k) : j = k := by
  have hmod : i.val + j ≡ i.val + k [MOD n] := congrArg Fin.val h
  exact Nat.ModEq.eq_of_lt_of_lt (Nat.ModEq.add_left_cancel' i.val hmod) hj hk

/-- **In one round no place comes up twice.** -/
theorem nodup_map_ahead (i : Fin n) {k : Nat} (h : k ≤ n) :
    ((List.range k).map (ahead i)).Nodup := by
  refine List.Nodup.map_on (fun a ha b hb => ?_) List.nodup_range
  exact ahead_injOn (Nat.lt_of_lt_of_le (List.mem_range.mp ha) h)
    (Nat.lt_of_lt_of_le (List.mem_range.mp hb) h)

/-- **In one round every place comes up.** -/
theorem exists_ahead (i k : Fin n) : ∃ j < n, ahead i j = k := by
  rcases Nat.lt_or_ge k.val i.val with hlt | hle
  · refine ⟨k.val + n - i.val, by omega, Fin.ext ?_⟩
    have hsum : i.val + (k.val + n - i.val) = k.val + n := by omega
    rw [val_ahead, hsum, Nat.add_mod_right, Nat.mod_eq_of_lt k.isLt]
  · refine ⟨k.val - i.val, by omega, Fin.ext ?_⟩
    rw [val_ahead, Nat.add_sub_cancel' hle, Nat.mod_eq_of_lt k.isLt]

/-! ## Settled cursors -/

/-- The cursor stands on the place that last worked. -/
def Settled (c : Cursor n) : Prop := c.current = c.lastWorking

theorem settled_start (h : 0 < n) : (start h).Settled := rfl

/-- A frame starts on one place, whether it is new or not. -/
theorem Settled.enterFrame {c : Cursor n} (h : c.Settled) (frame : Frame) :
    (c.enterFrame frame).Settled := by
  rw [Cursor.enterFrame]
  split
  · exact h
  · rfl

@[simp] theorem frame_enterFrame (c : Cursor n) (frame : Frame) :
    (c.enterFrame frame).frame = some frame := by
  rw [Cursor.enterFrame]
  split
  · assumption
  · rfl

/-- The cursor `j` places on from a place that last worked. -/
def onTour (i : Fin n) (frame : Option Frame) (j : Nat) : Cursor n where
  current := ahead i j
  lastWorking := i
  frame := frame

/-- A settled cursor is about to set out. -/
theorem Settled.eq_onTour {c : Cursor n} (h : c.Settled) : c = onTour c.current c.frame 0 := by
  obtain ⟨current, lastWorking, frame⟩ := c
  obtain rfl : current = lastWorking := h
  rw [onTour, ahead_zero]

@[simp] theorem current_onTour (i : Fin n) (frame : Option Frame) (j : Nat) :
    (onTour i frame j).current = ahead i j := rfl

@[simp] theorem advance_onTour (i : Fin n) (frame : Option Frame) (j : Nat) :
    (onTour i frame j).advance = onTour i frame (j + 1) := by
  simp only [advance, onTour, next_ahead]

/-- **Short of a round, the next place is offered.** -/
theorem offer?_onTour_ne_none (i : Fin n) (frame : Option Frame) {j : Nat} (hpos : 0 < j)
    (hlt : j < n) : (onTour i frame j).offer? ≠ none := by
  have hne : ahead i j ≠ i := fun h => by
    have := ahead_injOn hlt (Nat.lt_trans hpos hlt) (h.trans (ahead_zero i).symm)
    omega
  rw [offer?, onTour, if_neg hne]
  exact Option.some_ne_none _

/-- **After a round, none is.** -/
theorem offer?_onTour_size (i : Fin n) (frame : Option Frame) :
    (onTour i frame n).offer? = none := by
  rw [offer?, onTour, ahead_size, if_pos rfl]

end AddressedStorage.Cursor
