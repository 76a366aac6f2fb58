import AddressedStorage.Bytes.Base64
import AddressedStorage.Proofs.Bytes.Radix
import AddressedStorage.Proofs.Except

/-!
# Proofs/Bytes/Base64 — one text for each byte string

A text is read just if it is digits and then padding, fills whole groups of four, has two paddings at
most and leaves no bit over (`decode_eq_ok_iff_spells`).  There is one such text for each byte string,
the one it is written as (`decode_eq_ok_iff`).
-/

namespace AddressedStorage.Base64

variable {text bytes : List UInt8} {ds : List Nat} {pads offset read : Nat}

/-! ## The alphabet -/

/-- A digit is read back from its character. -/
theorem digit?_symbol {d : Nat} (h : d < 64) : digit? (symbol d) = some d :=
  (by decide +kernel : ∀ d < 64, digit? (symbol d) = some d) d h

/-- No digit is written as padding. -/
theorem symbol_ne_pad {d : Nat} (h : d < 64) : symbol d ≠ pad :=
  (by decide +kernel : ∀ d < 64, symbol d ≠ pad) d h

/-- A character that can be read is the one its digit is written as. -/
theorem symbol_of_digit? {b : UInt8} {d : Nat} (h : digit? b = some d) : d < 64 ∧ symbol d = b :=
  Radix.forall_byte (P := fun b => ∀ d ∈ digit? b, d < 64 ∧ symbol d = b) (by decide +kernel) b d h

/-! ## Groups -/

/-- Digits are read back from their characters. -/
theorem readDigits_map_symbol (h : ∀ d ∈ ds, d < 64) (offset : Nat) :
    readDigits offset (ds.map symbol) = .ok ds := by
  induction ds generalizing offset with
  | nil => rfl
  | cons d ds ih =>
    obtain ⟨hd, hds⟩ := List.forall_mem_cons.mp h
    rw [List.map_cons, readDigits, digit?_symbol hd]
    exact map_eq_ok_iff.mpr ⟨ds, ih hds (offset + 1), rfl⟩

/-- A text whose digits can be read is what they are written as. -/
theorem map_symbol_of_readDigits (h : readDigits offset text = .ok ds) :
    (∀ d ∈ ds, d < 64) ∧ text = ds.map symbol := by
  induction text generalizing offset ds with
  | nil =>
    obtain rfl := Except.ok.inj h
    exact ⟨List.forall_mem_nil _, rfl⟩
  | cons b text ih =>
    rw [readDigits] at h
    split at h
    · rename_i d hd
      obtain ⟨es, hrest, rfl⟩ := map_eq_ok_iff.mp h
      obtain ⟨hlt, rfl⟩ := symbol_of_digit? hd
      obtain ⟨hes, rfl⟩ := ih hrest
      exact ⟨List.forall_mem_cons.mpr ⟨hlt, hes⟩, rfl⟩
    · cases h

theorem readPadding_replicate (offset pads : Nat) :
    readPadding offset (.replicate pads pad) = .ok pads := by
  induction pads with
  | zero => rfl
  | succ pads ih =>
    rw [List.replicate_succ, readPadding, if_pos rfl, ih]
    rfl

theorem replicate_of_readPadding (h : readPadding offset text = .ok pads) :
    text = .replicate pads pad := by
  induction text generalizing pads with
  | nil =>
    obtain rfl := Except.ok.inj h
    rfl
  | cons b text ih =>
    rw [readPadding] at h
    split at h
    · rename_i hb
      obtain ⟨n, hrest, rfl⟩ := map_eq_ok_iff.mp h
      rw [ih hrest, hb, List.replicate_succ]
    · cases h

/-- Padding is read behind digits, from the third place of a group on. -/
theorem readGroup_append (h : ∀ d ∈ ds, d < 64) (hpads : pads = 0 ∨ 2 ≤ read + ds.length)
    (offset : Nat) :
    readGroup offset read (ds.map symbol ++ .replicate pads pad) = .ok (ds, pads) := by
  induction ds generalizing offset read with
  | nil =>
    cases pads with
    | zero => rfl
    | succ pads =>
      have hread : ¬ read < 2 := Nat.not_lt.mpr (hpads.resolve_left (Nat.succ_ne_zero pads))
      rw [List.map_nil, List.nil_append, List.replicate_succ, readGroup, if_pos rfl, if_neg hread,
        ← List.replicate_succ, readPadding_replicate]
      rfl
  | cons d ds ih =>
    obtain ⟨hd, hds⟩ := List.forall_mem_cons.mp h
    have hrest : pads = 0 ∨ 2 ≤ read + 1 + ds.length := by
      rw [List.length_cons] at hpads
      omega
    rw [List.map_cons, List.cons_append, readGroup, if_neg (symbol_ne_pad hd), digit?_symbol hd]
    exact map_eq_ok_iff.mpr ⟨(ds, pads), ih hds hrest (offset + 1), rfl⟩

/-- **A group that can be read** is digits and then padding. -/
theorem append_of_readGroup (h : readGroup offset read text = .ok (ds, pads)) :
    (∀ d ∈ ds, d < 64) ∧ text = ds.map symbol ++ .replicate pads pad := by
  induction text generalizing offset read ds with
  | nil =>
    obtain ⟨rfl, rfl⟩ := Prod.mk.inj (Except.ok.inj h)
    exact ⟨List.forall_mem_nil _, rfl⟩
  | cons b text ih =>
    rw [readGroup] at h
    split at h
    · split at h
      · cases h
      · obtain ⟨n, hpads, heq⟩ := map_eq_ok_iff.mp h
        obtain ⟨rfl, rfl⟩ := Prod.mk.inj heq
        exact ⟨List.forall_mem_nil _, replicate_of_readPadding hpads⟩
    · split at h
      · rename_i d hd
        obtain ⟨⟨es, n⟩, hrest, heq⟩ := map_eq_ok_iff.mp h
        obtain ⟨rfl, rfl⟩ := Prod.mk.inj heq
        obtain ⟨hlt, rfl⟩ := symbol_of_digit? hd
        obtain ⟨hes, rfl⟩ := ih hrest
        exact ⟨List.forall_mem_cons.mpr ⟨hlt, hes⟩, rfl⟩
      · cases h

/-! ## Texts -/

/-- Digits and then at most two paddings, in whole groups of four. -/
structure Spells (text : List UInt8) (ds : List Nat) (pads : Nat) : Prop where
  lt : ∀ d ∈ ds, d < 64
  text_eq : text = ds.map symbol ++ .replicate pads pad
  aligned : (ds.length + pads) % 4 = 0
  pads_lt : pads < 3

theorem Spells.length_eq (h : Spells text ds pads) : text.length = ds.length + pads := by
  rw [h.text_eq, List.length_append, List.length_map, List.length_replicate]

theorem groupLength_le (n : Nat) : groupLength n ≤ 4 ∧ groupLength n ≤ n := by
  rw [groupLength]
  split <;> omega

/-- Whole groups stand before the last. -/
theorem sub_groupLength_mod (n : Nat) : (n - groupLength n) % 4 = 0 := by
  rw [groupLength]
  split <;> omega

/-- What a text is checked for: its last group is read apart from the groups before. -/
theorem decode_eq_ok_iff_groups :
    decode text = .ok bytes ↔ strayByte? text = none ∧ ∃ front ds pads,
      readDigits 0 (text.take (text.length - groupLength text.length)) = .ok front ∧
      readGroup (text.length - groupLength text.length) 0
        (text.drop (text.length - groupLength text.length)) = .ok (ds, pads) ∧
      (text.drop (text.length - groupLength text.length) = [] ∨ 2 ≤ ds.length) ∧
      (ds.length + pads) % 4 = 0 ∧ Radix.bytesOfBits 6 (front ++ ds) = (bytes, 0) := by
  unfold decode
  cases strayByte? text with
  | some e => exact ⟨nofun, fun h => nomatch h.1⟩
  | none =>
    dsimp only
    generalize text.length - groupLength text.length = start
    constructor
    · intro h
      obtain ⟨front, hfront, h⟩ := bind_eq_ok_iff.mp h
      obtain ⟨⟨ds, pads⟩, hlast, h⟩ := bind_eq_ok_iff.mp h
      split at h
      · cases h
      rename_i htwo
      split at h
      · cases h
      rename_i haligned
      split at h
      · cases h
      rename_i hspare
      exact ⟨rfl, front, ds, pads, hfront, hlast, by grind, not_not.mp haligned,
        Prod.ext (Except.ok.inj h) (not_not.mp hspare)⟩
    · rintro ⟨-, front, ds, pads, hfront, hlast, htwo, haligned, hbits⟩
      have hdigits : ¬ (text.drop start ≠ [] ∧ ds.length < 2) := by grind
      simp only [hfront, hlast, bind, Except.bind, if_neg hdigits, haligned, hbits, ne_eq,
        not_true_eq_false, if_false]
      rfl

/-- **What can be read** is digits and padding that leave no bit over. -/
theorem spells_of_decode (h : decode text = .ok bytes) :
    ∃ ds pads, Spells text ds pads ∧ Radix.bytesOfBits 6 ds = (bytes, 0) := by
  obtain ⟨-, front, ds, pads, hfront, hlast, htwo, haligned, hbits⟩ := decode_eq_ok_iff_groups.mp h
  obtain ⟨hgroup, hle⟩ := groupLength_le text.length
  have hstart := sub_groupLength_mod text.length
  generalize groupLength text.length = group at hgroup hle hstart hfront hlast htwo
  obtain ⟨hfrontLt, hfrontText⟩ := map_symbol_of_readDigits hfront
  obtain ⟨hlastLt, hlastText⟩ := append_of_readGroup hlast
  have hfrontLen := congrArg List.length hfrontText
  have hlastLen := congrArg List.length hlastText
  simp only [List.length_take, List.length_drop, List.length_append, List.length_map,
    List.length_replicate] at hfrontLen hlastLen
  refine ⟨front ++ ds, pads, ⟨List.forall_mem_append.mpr ⟨hfrontLt, hlastLt⟩, ?_, ?_, ?_⟩, hbits⟩
  · rw [List.map_append, List.append_assoc, ← hlastText, ← hfrontText, List.take_append_drop]
  · rw [List.length_append]
    omega
  · rcases htwo with hnil | htwo
    · rw [hnil] at hlastText
      have := congrArg List.length hlastText
      simp only [List.length_nil, List.length_append, List.length_map, List.length_replicate] at this
      omega
    · omega

/-- **Digits and padding that leave no bit over can be read.** -/
theorem Spells.decode (h : Spells text ds pads) (hbits : Radix.bytesOfBits 6 ds = (bytes, 0)) :
    decode text = .ok bytes := by
  have hlength := h.length_eq
  have haligned := h.aligned
  have hpads := h.pads_lt
  have hgroup : groupLength text.length = min 4 text.length := if_pos (hlength ▸ haligned)
  obtain ⟨start, hstart⟩ : ∃ start, text.length - min 4 text.length = start := ⟨_, rfl⟩
  have hwhole : start ≤ (ds.map symbol).length := by
    rw [List.length_map]
    omega
  have hfront : text.take start = (ds.take start).map symbol := by
    rw [h.text_eq, List.take_append_of_le_length hwhole, List.map_take]
  have hlast : text.drop start = (ds.drop start).map symbol ++ .replicate pads pad := by
    rw [h.text_eq, List.drop_append_of_le_length hwhole, List.map_drop]
  have hlastLen : (ds.drop start).length = ds.length - start := List.length_drop
  have htwo : text.drop start = [] ∨ 2 ≤ (ds.drop start).length := by
    rw [List.drop_eq_nil_iff]
    omega
  have hstray : strayByte? text = none := by
    unfold strayByte?
    split
    · exact if_neg fun hone => by omega
    · rfl
  rw [decode_eq_ok_iff_groups, hgroup, hstart]
  refine ⟨hstray, ds.take start, ds.drop start, pads, ?_, ?_, htwo, by omega, ?_⟩
  · rw [hfront, readDigits_map_symbol fun d hd => h.lt d (List.mem_of_mem_take hd)]
  · rw [hlast]
    refine readGroup_append (fun d hd => h.lt d (List.mem_of_mem_drop hd)) ?_ start
    omega
  · rwa [List.take_append_drop]

/-- **A text is read** just if it is digits and padding that leave no bit over. -/
theorem decode_eq_ok_iff_spells :
    decode text = .ok bytes ↔
      ∃ ds pads, Spells text ds pads ∧ Radix.bytesOfBits 6 ds = (bytes, 0) :=
  ⟨spells_of_decode, fun ⟨_, _, h, hbits⟩ => h.decode hbits⟩

/-! ## One text for each byte string -/

theorem length_bitsOfBytes (bytes : List UInt8) :
    (Radix.bitsOfBytes 6 bytes).length = (8 * bytes.length + 5) / 6 :=
  Radix.length_padded ..

/-- What is written is digits and padding. -/
theorem spells_encode (bytes : List UInt8) :
    Spells (encode bytes) (Radix.bitsOfBytes 6 bytes)
      ((4 - (Radix.bitsOfBytes 6 bytes).length % 4) % 4) where
  lt _ hd := Radix.lt_of_mem_padded (by decide) hd
  text_eq := rfl
  aligned := by omega
  pads_lt := by
    rw [length_bitsOfBytes]
    omega

/-- Digits that leave no bit over are filled up in one way. -/
theorem Spells.eq_encode (h : Spells text ds pads) (hbits : Radix.bytesOfBits 6 ds = (bytes, 0)) :
    text = encode bytes := by
  have haligned := h.aligned
  have hpads := h.pads_lt
  have hds : Radix.bitsOfBytes 6 (Radix.bytesOfBits 6 ds).1 = ds :=
    Radix.bitsOfBytes_bytesOfBits h.lt (by omega) (by rw [hbits])
  have hcount : (4 - ds.length % 4) % 4 = pads := by omega
  rw [hbits] at hds
  rw [h.text_eq, ← hcount, ← hds]
  rfl

/-- **A text is read** just if it is the one its bytes are written as. -/
theorem decode_eq_ok_iff : decode text = .ok bytes ↔ text = encode bytes := by
  constructor
  · intro h
    obtain ⟨ds, pads, hspells, hbits⟩ := spells_of_decode h
    exact hspells.eq_encode hbits
  · rintro rfl
    exact (spells_encode bytes).decode
      (Radix.bytesOfBits_bitsOfBytes (by decide) (by decide) bytes)

/-- No two byte strings are written alike. -/
theorem encode_injective : Function.Injective encode := fun a b h => by
  have ha : decode (encode a) = .ok a := decode_eq_ok_iff.mpr rfl
  have hb : decode (encode a) = .ok b := decode_eq_ok_iff.mpr h
  exact Except.ok.inj (ha.symm.trans hb)

end AddressedStorage.Base64
