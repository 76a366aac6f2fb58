import AddressedStorage.Bytes.Base58
import AddressedStorage.Proofs.Bytes.Radix
import AddressedStorage.Proofs.Except

/-!
# Proofs/Bytes/Base58 — one text for each byte string

Base-58 text is the numeral of the bytes in base 58, with one leading `1` for each leading zero byte.
Changing the base keeps leading zeros and undoes itself, so bytes are read back from their text
(`decode_encode`), and a text that can be read is the one its bytes are written as
(`encode_of_decode`).
-/

namespace AddressedStorage.Base58

/-! ## The alphabet -/

/-- A digit is read back from its character. -/
theorem digit?_symbol {d : Nat} (h : d < 58) : digit? (symbol d) = some d :=
  (by decide +kernel : ∀ d < 58, digit? (symbol d) = some d) d h

/-- Only zero is written `1`. -/
theorem symbol_eq_one_iff {d : Nat} (h : d < 58) : symbol d = '1' ↔ d = 0 :=
  (by decide +kernel : ∀ d < 58, symbol d = '1' ↔ d = 0) d h

/-- Characters of the alphabet are one byte long. -/
theorem utf8Size_symbol {d : Nat} (h : d < 58) : (symbol d).utf8Size = 1 :=
  (by decide +kernel : ∀ d < 58, (symbol d).utf8Size = 1) d h

/-- A character that can be read is the one its digit is written as. -/
theorem symbol_of_digit? {c : Char} {d : Nat} (h : digit? c = some d) : d < 58 ∧ symbol d = c := by
  obtain ⟨hlt, hc, -⟩ := List.findIdx?_eq_some_iff_getElem.mp h
  refine ⟨hlt, ?_⟩
  rw [symbol, List.getD_eq_getElem?_getD, List.getElem?_eq_getElem hlt, Option.getD_some]
  exact eq_of_beq hc

/-! ## Digits -/

/-- Digits are read back from their characters. -/
theorem readDigits_map_symbol {ds : List Nat} (h : ∀ d ∈ ds, d < 58) (offset : Nat) :
    readDigits offset (ds.map symbol) = .ok ds := by
  induction ds generalizing offset with
  | nil => rfl
  | cons d ds ih =>
    obtain ⟨hd, hds⟩ := List.forall_mem_cons.mp h
    rw [List.map_cons, readDigits, digit?_symbol hd]
    dsimp only
    rw [ih hds (offset + 1)]
    rfl

/-- A text whose digits can be read is what they are written as. -/
theorem map_symbol_of_readDigits {text : List Char} {offset : Nat} {ds : List Nat}
    (h : readDigits offset text = .ok ds) : (∀ d ∈ ds, d < 58) ∧ ds.map symbol = text := by
  induction text generalizing offset ds with
  | nil =>
    obtain rfl := Except.ok.inj h
    exact ⟨List.forall_mem_nil _, rfl⟩
  | cons c text ih =>
    rw [readDigits] at h
    split at h
    · rename_i d hd
      obtain ⟨es, hrest, rfl⟩ := map_eq_ok_iff.mp h
      obtain ⟨hlt, hc⟩ := symbol_of_digit? hd
      obtain ⟨hes, htext⟩ := ih hrest
      exact ⟨List.forall_mem_cons.mpr ⟨hlt, hes⟩, by rw [List.map_cons, hc, htext]⟩
    · split at h <;> cases h

/-- Leading zeros are leading `1`s. -/
theorem length_takeWhile_map_symbol {ds : List Nat} (h : ∀ d ∈ ds, d < 58) :
    ((ds.map symbol).takeWhile (· = '1')).length = Radix.leadingZeros ds := by
  rw [List.takeWhile_map, List.length_map, Radix.leadingZeros]
  induction ds with
  | nil => rfl
  | cons d ds ih =>
    obtain ⟨hd, hds⟩ := List.forall_mem_cons.mp h
    simp only [List.takeWhile_cons, Function.comp_apply, symbol_eq_one_iff hd]
    split
    · rw [List.length_cons, List.length_cons, ih hds]
    · rfl

/-! ## Texts -/

/-- The text of a byte string is its numeral in base 58. -/
theorem encode_eq_rebase (bytes : List UInt8) :
    encode bytes = (Radix.rebase 256 58 (bytes.map UInt8.toNat)).map symbol := by
  have hzeros : (bytes.takeWhile (· = 0)).length = Radix.leadingZeros (bytes.map UInt8.toNat) := by
    rw [Radix.leadingZeros, List.takeWhile_map, List.length_map]
    congr 2
    funext b
    simp [← UInt8.toNat_inj]
  rw [encode, hzeros, Radix.rebase, List.map_append, List.map_replicate]
  rfl

/-- Digits are read as their numeral in base 256. -/
theorem decode_map_symbol {ds : List Nat} (h : ∀ d ∈ ds, d < 58) :
    decode (ds.map symbol) = .ok ((Radix.rebase 58 256 ds).map Nat.toUInt8) := by
  rw [decode, readDigits_map_symbol h, length_takeWhile_map_symbol h, Radix.rebase, List.map_append,
    List.map_replicate]
  rfl

/-- **Bytes are read back from their text.** -/
theorem decode_encode (bytes : List UInt8) : decode (encode bytes) = .ok bytes := by
  have hdigits : ∀ d ∈ Radix.rebase 256 58 (bytes.map UInt8.toNat), d < 58 :=
    fun d hd => Radix.lt_of_mem_rebase (by decide) hd
  rw [encode_eq_rebase, decode_map_symbol hdigits,
    Radix.rebase_rebase (by decide) (by decide) (Radix.toNat_lt_of_mem bytes),
    Radix.map_toUInt8_toNat]

/-- **A text that can be read is the one its bytes are written as.** -/
theorem encode_of_decode {text : List Char} {bytes : List UInt8} (h : decode text = .ok bytes) :
    encode bytes = text := by
  obtain ⟨ds, hdigits, -⟩ := map_eq_ok_iff.mp h
  obtain ⟨hds, rfl⟩ := map_symbol_of_readDigits hdigits
  obtain rfl := Except.ok.inj ((decode_map_symbol hds).symm.trans h)
  rw [encode_eq_rebase, Radix.map_toNat_toUInt8 fun d hd => Radix.lt_of_mem_rebase (by decide) hd,
    Radix.rebase_rebase (by decide) (by decide) hds]

/-- **Exactly one text stands for each byte string.** -/
theorem decode_eq_ok_iff {text : List Char} {bytes : List UInt8} :
    decode text = .ok bytes ↔ text = encode bytes :=
  ⟨fun h => (encode_of_decode h).symm, fun h => h ▸ decode_encode bytes⟩

theorem utf8Size_of_mem_encode {bytes : List UInt8} : ∀ c ∈ encode bytes, c.utf8Size = 1 := by
  intro c hc
  rw [encode_eq_rebase] at hc
  obtain ⟨d, hd, rfl⟩ := List.mem_map.mp hc
  exact utf8Size_symbol (Radix.lt_of_mem_rebase (by decide) hd)

end AddressedStorage.Base58
