import AddressedStorage.Bytes.Equality
import Mathlib.Algebra.Ring.Nat

/-!
# Proofs/Bytes/Concat — byte strings one after the other

`concat` joins byte strings in order.  Messages are the concatenation of their fields and payloads
that of their chunks.
-/

namespace AddressedStorage.Bytes

/-- The byte strings one after the other. -/
def concat (pieces : List ByteArray) : ByteArray := pieces.foldl (· ++ ·) ByteArray.empty

@[simp] theorem concat_nil : concat [] = ByteArray.empty := rfl

/-- What is joined goes behind what is there. -/
theorem foldl_append (pieces : List ByteArray) (front : ByteArray) :
    pieces.foldl (· ++ ·) front = front ++ concat pieces := by
  simp only [concat]
  induction pieces generalizing front with
  | nil => simp
  | cons p pieces ih =>
    rw [List.foldl_cons, List.foldl_cons, ih, ih (ByteArray.empty ++ p), ByteArray.empty_append,
      ByteArray.append_assoc]

@[simp] theorem concat_cons (p : ByteArray) (pieces : List ByteArray) :
    concat (p :: pieces) = p ++ concat pieces := by
  rw [concat, List.foldl_cons, foldl_append, ByteArray.empty_append]

@[simp] theorem concat_append (front back : List ByteArray) :
    concat (front ++ back) = concat front ++ concat back := by
  rw [concat, List.foldl_append, foldl_append]
  rfl

/-- The size of the whole is the sum of the sizes. -/
theorem size_concat (pieces : List ByteArray) :
    (concat pieces).size = (pieces.map ByteArray.size).sum := by
  induction pieces with
  | nil => rfl
  | cons p pieces ih => rw [concat_cons, ByteArray.size_append, ih, List.map_cons, List.sum_cons]

/-- A byte string is made of its bytes. -/
@[simp] theorem toByteArray_toList (content : ByteArray) :
    content.data.toList.toByteArray = content :=
  ByteArray.ext (by simp)

end AddressedStorage.Bytes
