import AddressedStorage.Bytes.Base32
import AddressedStorage.Proofs.Bytes.Radix
import Mathlib

/-!
# Proofs/Bytes/Base32 — bytes are read back from their text

The text of a byte string has a length that some number of bytes has, its characters are digits, and
what fills up the last one is zero, so bytes are read back from it (`decode_encode`).  A text in
small or mixed letters is read as well, once its letters are made large (`map_toUpper_map_toLower`).
-/

namespace AddressedStorage.Base32

/-! ## The alphabet -/

/-- A digit is read back from its character. -/
theorem digit?_symbol {d : Nat} (h : d < 32) : digit? (symbol d) = some d :=
  (by decide +kernel : ∀ d < 32, digit? (symbol d) = some d) d h

/-- Characters of the alphabet are one byte long. -/
theorem utf8Size_symbol {d : Nat} (h : d < 32) : (symbol d).utf8Size = 1 :=
  (by decide +kernel : ∀ d < 32, (symbol d).utf8Size = 1) d h

/-- Large letters are large already. -/
theorem toUpper_symbol {d : Nat} (h : d < 32) : (symbol d).toUpper = symbol d :=
  (by decide +kernel : ∀ d < 32, (symbol d).toUpper = symbol d) d h

/-! ## Texts -/

/-- Digits are read back from their characters. -/
theorem readDigits_map_symbol {ds : List Nat} (h : ∀ d ∈ ds, d < 32) (offset : Nat) :
    readDigits offset (ds.map symbol) = .ok ds := by
  induction ds generalizing offset with
  | nil => rfl
  | cons d ds ih =>
    obtain ⟨hd, hds⟩ := List.forall_mem_cons.mp h
    rw [List.map_cons, readDigits, digit?_symbol hd]
    dsimp only
    rw [ih hds (offset + 1)]
    rfl

theorem byteLength_map_symbol {ds : List Nat} (h : ∀ d ∈ ds, d < 32) :
    byteLength (ds.map symbol) = ds.length := by
  induction ds with
  | nil => rfl
  | cons d ds ih =>
    obtain ⟨hd, hds⟩ := List.forall_mem_cons.mp h
    rw [List.map_cons, byteLength, utf8Size_symbol hd, ih hds, List.length_cons, Nat.add_comm]

theorem lt_of_mem_bitsOfBytes {bytes : List UInt8} : ∀ d ∈ Radix.bitsOfBytes 5 bytes, d < 32 :=
  fun _ hd => Radix.lt_of_mem_padded (by decide) hd

@[simp] theorem length_bitsOfBytes (bytes : List UInt8) :
    (Radix.bitsOfBytes 5 bytes).length = (8 * bytes.length + 4) / 5 := by
  simp [Radix.bitsOfBytes]

/-- **Bytes are read back from their text.** -/
theorem decode_encode (bytes : List UInt8) : decode (encode bytes) = .ok bytes := by
  have hlength : ¬((8 * bytes.length + 4) / 5 % 8 = 1 ∨ (8 * bytes.length + 4) / 5 % 8 = 3 ∨
      (8 * bytes.length + 4) / 5 % 8 = 6) := by omega
  simp only [decode, encode, byteLength_map_symbol lt_of_mem_bitsOfBytes, length_bitsOfBytes,
    if_neg hlength, readDigits_map_symbol lt_of_mem_bitsOfBytes]
  change (if (Radix.bytesOfBits 5 (Radix.bitsOfBytes 5 bytes)).2 ≠ 0 then _ else _) = _
  rw [Radix.bytesOfBits_bitsOfBytes (by decide) (by decide), if_neg (not_not_intro rfl)]
  rfl

/-- **The case of the letters does not matter** once they are made large. -/
theorem map_toUpper_map_toLower (text : List Char) :
    (text.map Char.toLower).map Char.toUpper = text.map Char.toUpper := by
  rw [List.map_map]
  exact List.map_congr_left fun c _ => Char.toUpper_toLower_eq_toUpper c

/-- The text of a byte string is in large letters. -/
@[simp] theorem map_toUpper_encode (bytes : List UInt8) :
    (encode bytes).map Char.toUpper = encode bytes := by
  rw [encode, List.map_map]
  exact List.map_congr_left fun d hd => toUpper_symbol (lt_of_mem_bitsOfBytes d hd)

end AddressedStorage.Base32
