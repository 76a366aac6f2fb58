import AddressedStorage.Dag.File
import AddressedStorage.Proofs.Bytes.Concat
import Mathlib.Algebra.Order.Floor.Div

/-!
# Proofs/Dag/Chunks — cutting a payload

The chunks of a payload, one after the other, are the payload (`concat_chunks`).  There are as many
as the size divided by `chunkSize`, rounded up; all but the last are full, and the last is not
empty.
-/

namespace AddressedStorage.Dag

/-- As many chunks as it takes. -/
theorem length_chunks (content : ByteArray) :
    (chunks content).length = content.size ⌈/⌉ chunkSize := by
  rw [chunks, List.length_map, List.length_range, Nat.ceilDiv_eq_add_pred_div]

/-- The chunks reach the end of the payload, and the last of them begins before it. -/
theorem length_chunks_bounds {content : ByteArray} (h : 0 < content.size) :
    ((chunks content).length - 1) * chunkSize < content.size ∧
      content.size ≤ (chunks content).length * chunkSize := by
  simp only [chunks, List.length_map, List.length_range, chunkSize]
  omega

/-- A chunk is a stretch of the payload. -/
theorem getElem_chunks (content : ByteArray) (i : Nat) (h : i < (chunks content).length) :
    (chunks content)[i] = content.extract (i * chunkSize) ((i + 1) * chunkSize) := by
  simp only [chunks, List.getElem_map, List.getElem_range]

/-- The first `k` stretches, one after the other, are the front of the payload. -/
theorem concat_stretches (content : ByteArray) (k : Nat) :
    Bytes.concat ((List.range k).map fun i =>
        content.extract (i * chunkSize) ((i + 1) * chunkSize)) =
      content.extract 0 (k * chunkSize) := by
  induction k with
  | zero => simp
  | succ k ih =>
    rw [List.range_succ, List.map_append, Bytes.concat_append, ih, List.map_singleton,
      Bytes.concat_cons, Bytes.concat_nil, ByteArray.append_empty,
      ByteArray.extract_append_extract, Nat.zero_min,
      Nat.max_eq_right (Nat.mul_le_mul_right chunkSize (Nat.le_succ k))]

/-- **The chunks, one after the other, are the payload.** -/
theorem concat_chunks (content : ByteArray) : Bytes.concat (chunks content) = content := by
  have hreach : content.size ≤ (content.size + chunkSize - 1) / chunkSize * chunkSize := by
    simp only [chunkSize]
    omega
  rw [chunks, concat_stretches, ← Nat.max_eq_left hreach, ByteArray.extract_zero_max_size]

/-- The sizes of the chunks add up. -/
theorem sum_size_chunks (content : ByteArray) :
    ((chunks content).map ByteArray.size).sum = content.size := by
  rw [← Bytes.size_concat, concat_chunks]

/-- A chunk ends where the next begins, or where the payload ends. -/
theorem size_getElem_chunks (content : ByteArray) (i : Nat) (h : i < (chunks content).length) :
    ((chunks content)[i]).size = min ((i + 1) * chunkSize) content.size - i * chunkSize := by
  rw [getElem_chunks, ByteArray.size_extract]

/-- No chunk is larger than `chunkSize`. -/
theorem size_le_of_mem_chunks {content piece : ByteArray} (h : piece ∈ chunks content) :
    piece.size ≤ chunkSize := by
  obtain ⟨i, hi, rfl⟩ := List.getElem_of_mem h
  rw [size_getElem_chunks, chunkSize]
  omega

/-- The size of a chunk fits 64 bits. -/
theorem lt_of_mem_sizes_chunks {content : ByteArray} {n : Nat}
    (h : n ∈ (chunks content).map ByteArray.size) : n < UInt64.size := by
  obtain ⟨piece, hpiece, rfl⟩ := List.mem_map.mp h
  exact Nat.lt_of_le_of_lt (size_le_of_mem_chunks hpiece) (by decide)

/-- Only a payload with bytes has chunks. -/
theorem size_pos_of_lt_length_chunks {content : ByteArray} {i : Nat}
    (h : i < (chunks content).length) : 0 < content.size := by
  simp only [chunks, List.length_map, List.length_range, chunkSize] at h
  omega

/-- An element that is not the last has one behind it.  Stated for any list: at `chunks` the checker
would compute its length. -/
theorem exists_getElem_of_mem_dropLast {α : Type} {xs : List α} {x : α} (h : x ∈ xs.dropLast) :
    ∃ (i : Nat) (hi : i < xs.length), i < xs.length - 1 ∧ xs[i] = x := by
  obtain ⟨i, hi, rfl⟩ := List.getElem_of_mem h
  have hlast : i < xs.length - 1 := by rwa [List.length_dropLast] at hi
  exact ⟨i, by omega, hlast, (List.getElem_dropLast hi).symm⟩

/-- **Every chunk but the last is full.** -/
theorem size_eq_of_mem_dropLast_chunks {content piece : ByteArray}
    (h : piece ∈ (chunks content).dropLast) : piece.size = chunkSize := by
  obtain ⟨i, hi, hlast, rfl⟩ := exists_getElem_of_mem_dropLast h
  have hfull : (i + 1) * chunkSize ≤ ((chunks content).length - 1) * chunkSize :=
    Nat.mul_le_mul_right chunkSize hlast
  have hbegin := (length_chunks_bounds (size_pos_of_lt_length_chunks hi)).1
  have hend : (i + 1) * chunkSize ≤ content.size := Nat.le_trans hfull (Nat.le_of_lt hbegin)
  rw [size_getElem_chunks, Nat.min_eq_left hend, ← Nat.sub_mul, Nat.add_sub_cancel_left,
    Nat.one_mul]

/-- **The last chunk is not empty.** -/
theorem size_pos_of_mem_getLast?_chunks {content piece : ByteArray}
    (h : piece ∈ (chunks content).getLast?) : 0 < piece.size := by
  rw [Option.mem_def, List.getLast?_eq_getElem?] at h
  obtain ⟨hi, rfl⟩ := List.getElem?_eq_some_iff.mp h
  have hlast := (length_chunks_bounds (size_pos_of_lt_length_chunks hi)).1
  rw [size_getElem_chunks, Nat.succ_mul, chunkSize] at *
  omega

/-- A payload of more than one chunk has at least two. -/
theorem two_le_length_chunks {content : ByteArray} (h : chunkSize < content.size) :
    2 ≤ (chunks content).length := by
  have hreach := (length_chunks_bounds (Nat.lt_of_le_of_lt (Nat.zero_le _) h)).2
  simp only [chunkSize] at h hreach
  omega

/-- A payload that is not too large has no more chunks than a root has links. -/
theorem length_chunks_le_maxLinks {content : ByteArray} (h : content.size ≤ maxContentLength) :
    (chunks content).length ≤ maxLinks := by
  simp only [chunks, List.length_map, List.length_range, maxContentLength, maxLinks,
    chunkSize] at *
  omega

end AddressedStorage.Dag
