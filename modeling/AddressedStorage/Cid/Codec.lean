/-!
# Cid/Codec — what the bytes behind an identifier are

The three content types that identifiers of this library can name, with their registered codes.
-/

namespace AddressedStorage

/-- The content type of the block an identifier names. -/
inductive Codec where
  /-- A DAG-PB node. -/
  | dagPb
  /-- Raw bytes, no framing. -/
  | raw
  /-- A CAR archive. -/
  | car
  deriving DecidableEq, Repr, Inhabited

namespace Codec

/-- The registered code of a content type. -/
def code : Codec → UInt64
  | dagPb => 0x70
  | raw => 0x55
  | car => 0x0202

/-- The content type with a registered code. -/
def ofCode? (n : UInt64) : Option Codec :=
  if n = 0x70 then some dagPb else if n = 0x55 then some raw else if n = 0x0202 then some car else none

/-- A content type is read back from its code. -/
@[simp] theorem ofCode?_code (c : Codec) : ofCode? c.code = some c := by cases c <;> rfl

/-- **A code names at most one content type**, and that one has the code. -/
theorem ofCode?_eq_some_iff {n : UInt64} {c : Codec} : ofCode? n = some c ↔ c.code = n := by
  constructor
  · intro h
    simp only [ofCode?] at h
    split at h
    · cases h; exact Eq.symm ‹_›
    · split at h
      · cases h; exact Eq.symm ‹_›
      · split at h
        · cases h; exact Eq.symm ‹_›
        · cases h
  · rintro rfl
    simp

end Codec

end AddressedStorage
