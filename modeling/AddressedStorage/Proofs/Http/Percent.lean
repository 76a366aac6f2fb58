import AddressedStorage.Http.Percent
import AddressedStorage.Proofs.Bytes.Radix

/-!
# Proofs/Http/Percent — what percent-encoding keeps

A text is encoded character by character, so a text after another is encoded after it
(`encode_append`).  ASCII characters that are kept stand for themselves (`encode_of_keeps`), and no
control is written (`le_of_mem_encode`).
-/

namespace AddressedStorage.Percent

variable {keeps : UInt8 → Bool}

/-- What holds of the first characters is checked number by number. -/
theorem forall_char_lt {P : Char → Prop} {bound : Nat} (h : ∀ n < bound, P (Char.ofNat n))
    {c : Char} (hc : c.toNat < bound) : P c := by
  have hchar := h c.toNat hc
  rwa [Char.ofNat_toNat] at hchar

theorem utf8_eq_flatMap (text : List Char) : utf8 text = text.flatMap String.utf8EncodeChar := by
  rw [utf8, String.toByteArray_ofList, List.utf8Encode, List.data_toByteArray]

/-- An ASCII character is one byte. -/
theorem utf8EncodeChar_of_lt {c : Char} (h : c.toNat < 128) :
    String.utf8EncodeChar c = [c.toUInt8] := by
  have hsize : c.utf8Size = 1 :=
    Char.utf8Size_eq_one_iff.mpr (UInt32.le_iff_toNat_le.mpr (Nat.le_of_lt_succ h))
  exact String.utf8EncodeChar_eq_singleton hsize

theorem ofNat_toUInt8_of_lt {c : Char} (h : c.toNat < 128) : Char.ofNat c.toUInt8.toNat = c := by
  have htoNat : c.toUInt8.toNat = c.toNat % 256 := rfl
  rw [htoNat, Nat.mod_eq_of_lt (by omega), Char.ofNat_toNat]

/-- Text of ASCII is a byte a character. -/
theorem utf8_of_ascii {text : List Char} (h : ∀ c ∈ text, c.toNat < 128) :
    utf8 text = text.map Char.toUInt8 := by
  rw [utf8_eq_flatMap]
  induction text with
  | nil => rfl
  | cons c text ih =>
    obtain ⟨hc, htext⟩ := List.forall_mem_cons.mp h
    rw [List.flatMap_cons, utf8EncodeChar_of_lt hc, ih htext]
    rfl

theorem encode_nil : encode keeps [] = [] := by
  rw [encode, utf8_eq_flatMap]
  rfl

theorem encode_append (a b : List Char) :
    encode keeps (a ++ b) = encode keeps a ++ encode keeps b := by
  simp only [encode, encodeBytes, utf8_eq_flatMap, List.flatMap_append]

/-- **What is kept stands for itself.** -/
theorem encode_of_keeps {text : List Char} (h : ∀ c ∈ text, c.toNat < 128 ∧ keeps c.toUInt8) :
    encode keeps text = text := by
  induction text with
  | nil => exact encode_nil
  | cons c text ih =>
    obtain ⟨⟨hascii, hkeeps⟩, htext⟩ := List.forall_mem_cons.mp h
    rw [← List.singleton_append, encode_append, ih htext, encode, utf8_eq_flatMap,
      List.flatMap_singleton, utf8EncodeChar_of_lt hascii, encodeBytes, List.flatMap_singleton,
      encodeByte, if_pos hkeeps, ofNat_toUInt8_of_lt hascii]

/-- A digit is no control. -/
theorem le_toNat_symbol {d : Nat} (h : d < 16) : 0x20 ≤ (symbol d).toNat := by
  have hall : ∀ d < 16, 0x20 ≤ (symbol d).toNat := by decide
  exact hall d h

theorem le_of_mem_escape {b : UInt8} {c : Char} (h : c ∈ escape b) : 0x20 ≤ c.toNat := by
  have hlt : b.toNat < 256 := b.toNat_lt
  rw [escape, List.mem_cons, List.mem_cons, List.mem_singleton] at h
  rcases h with rfl | rfl | rfl
  · decide
  · exact le_toNat_symbol (by omega)
  · exact le_toNat_symbol (by omega)

/-- **No control is written.** -/
theorem le_of_mem_encode (hkeeps : ∀ b, keeps b → isPrintable b) {text : List Char} {c : Char}
    (h : c ∈ encode keeps text) : 0x20 ≤ c.toNat := by
  obtain ⟨b, -, hc⟩ := List.mem_flatMap.mp h
  rw [encodeByte] at hc
  split at hc
  · rename_i hb
    rw [List.mem_singleton.mp hc]
    exact Radix.forall_byte (P := fun b => isPrintable b → 0x20 ≤ (Char.ofNat b.toNat).toNat)
      (by decide +kernel) b (hkeeps b hb)
  · exact le_of_mem_escape hc

end AddressedStorage.Percent
