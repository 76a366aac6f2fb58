/-!
# Rotation/Frame — reporting periods

Reports come in numbered frames.  A frame decides which of `n` providers is read first.
-/

namespace AddressedStorage

/-- The number of a reporting period. -/
structure Frame where
  number : UInt64
  deriving DecidableEq, Repr, Inhabited

namespace Frame

instance : ToString Frame := ⟨fun f => ToString.toString f.number.toNat⟩

/-- The place a frame starts on among `n`. -/
def rotationIndex (f : Frame) (n : Nat) : Nat := f.number.toNat % n

/-- The place is one of the `n`. -/
theorem rotationIndex_lt (f : Frame) {n : Nat} (h : 0 < n) : f.rotationIndex n < n :=
  Nat.mod_lt _ h

end Frame

end AddressedStorage
