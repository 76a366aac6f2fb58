import AddressedStorage.Car.Cbor
import AddressedStorage.Proofs.Bytes.Radix

/-!
# Proofs/Car/Cbor — CBOR items are read back

A head is read back from in front of any other bytes, in whichever of its five forms its number puts
it (`readHead?_head`).  The number must fit 64 bits, since no head has room for more.  A byte string
is its head and as many bytes as that says (`readBytes?_bytes`).
-/

namespace AddressedStorage.Cbor

/-! ## Numbers -/

@[simp] theorem length_bigEndian (w n : Nat) : (bigEndian w n).length = w := by
  induction w with
  | zero => rfl
  | succ w ih => rw [bigEndian, List.length_cons, ih]

/-- The first byte of a number is worth its place. -/
theorem ofBytes_cons (b : UInt8) (bytes : List UInt8) :
    Radix.ofBytes (b :: bytes) = b.toNat * 256 ^ bytes.length + Radix.ofBytes bytes := by
  have happend := Radix.value_append 256 [b.toNat] (bytes.map UInt8.toNat)
  rw [List.length_map] at happend
  simpa [Radix.ofBytes, Radix.value] using happend

/-- The bytes of a number name what their width leaves of it. -/
theorem ofBytes_bigEndian (w n : Nat) : Radix.ofBytes (bigEndian w n) = n % 256 ^ w := by
  induction w with
  | zero => exact (Nat.mod_one n).symm
  | succ w ih =>
    have hbyte : (n >>> (8 * w)).toUInt8.toNat = n / 256 ^ w % 256 := by
      rw [Nat.shiftRight_eq_div_pow, Nat.pow_mul]
      exact UInt8.toNat_ofNat'
    rw [bigEndian, ofBytes_cons, ih, length_bigEndian, hbyte, Nat.pow_succ, Nat.mod_mul,
      Nat.add_comm, Nat.mul_comm]

/-- **A number is read back from the bytes that have room for it.** -/
theorem readBigEndian?_bigEndian {w n : Nat} (h : n < 256 ^ w) (rest : List UInt8) :
    readBigEndian? w (bigEndian w n ++ rest) = some (n, rest) := by
  rw [readBigEndian?, Bytes.splitExactly?_append (length_bigEndian w n), Option.map_some]
  simp only [ofBytes_bigEndian, Nat.mod_eq_of_lt h]

/-! ## Heads -/

theorem Major.code_lt (major : Major) : major.code < 8 := by cases major <;> decide

/-- The first byte of a head says what the item is, and leaves five bits. -/
theorem readHead?_cons (major : Major) {low : Nat} (h : low < 32) (rest : List UInt8) :
    readHead? major ((32 * major.code + low).toUInt8 :: rest) = readNumber? low rest := by
  have hcode := major.code_lt
  have hbyte : (32 * major.code + low).toUInt8.toNat = 32 * major.code + low :=
    UInt8.toNat_ofNat_of_lt' (by simp only [UInt8.size]; omega)
  rw [readHead?, hbyte, if_pos (by omega), Nat.mul_add_mod, Nat.mod_eq_of_lt h]

/-- Behind the first byte stands the number, if the five bits say how wide it is. -/
theorem readHead?_wide (major : Major) {low w n : Nat} (hlow : low < 32)
    (hwidth : ∀ bytes, readNumber? low bytes = readBigEndian? w bytes) (h : n < 256 ^ w)
    (rest : List UInt8) :
    readHead? major ((32 * major.code + low).toUInt8 :: bigEndian w n ++ rest) =
      some (n, rest) := by
  rw [List.cons_append, readHead?_cons major hlow, hwidth, readBigEndian?_bigEndian h]

/-- **A head is read back from in front of any bytes.** -/
theorem readHead?_head (major : Major) {n : Nat} (h : n < UInt64.size) (rest : List UInt8) :
    readHead? major (head major n ++ rest) = some (n, rest) := by
  simp only [UInt64.size] at h
  simp only [head, UInt8.size, UInt16.size, UInt32.size]
  -- A number below 24 stands in the first byte itself; above there is one case for each width.
  split
  · rename_i hn
    rw [List.singleton_append, readHead?_cons major (by omega)]
    exact if_pos hn
  split
  · rename_i hn
    exact readHead?_wide major (by decide) (fun _ => rfl) hn rest
  split
  · rename_i hn
    exact readHead?_wide major (by decide) (fun _ => rfl) hn rest
  split
  · rename_i hn
    exact readHead?_wide major (by decide) (fun _ => rfl) hn rest
  · exact readHead?_wide major (by decide) (fun _ => rfl) h rest

/-- **A byte string is read back from in front of any bytes.** -/
theorem readBytes?_bytes {content : List UInt8} (h : content.length < UInt64.size)
    (rest : List UInt8) : readBytes? (bytes content ++ rest) = some (content, rest) := by
  rw [readBytes?, bytes, List.append_assoc, readHead?_head .bytes h]
  exact Bytes.splitExactly?_append rfl

/-- What is expected in front is read over. -/
@[simp] theorem skip?_append (expected rest : List UInt8) :
    skip? expected (expected ++ rest) = some rest := by
  have hprefix : expected.isPrefixOf (expected ++ rest) :=
    List.isPrefixOf_iff_prefix.mpr (List.prefix_append expected rest)
  rw [skip?, if_pos hprefix, List.drop_left]

end AddressedStorage.Cbor
