import AddressedStorage.Network.ChainId
import AddressedStorage.Proofs.Text.Numeral

/-!
# Proofs/Network/ChainId — two notations for the number of a chain

A chain is written as a hexadecimal quantity or as a decimal with white space around it, and both
notations are said here without the readers.  Whoever uses one of them is read to the exact number or,
if that does not fit 64 bits, refused (`reads_isHexQuantity`, `reads_isDecimal`).  Besides the
quantities, one more spelling is taken for a quantity: a plus sign may stand behind the `0x`
(`ofHexQuantity_reads_quantities`, `ofHexQuantity_takes_sign`).
-/

namespace AddressedStorage.ChainId

open Numeral

variable {text : String} {n : Nat} {id : ChainId} {e : FormatError} {x : Char}
  {digits : List Char}

/-! ## Notations -/

/-- A hexadecimal quantity: `0x` or `0X`, then digits of a number and nothing else. -/
def IsHexQuantity (text : String) (n : Nat) : Prop :=
  ∃ x digits, (x = 'x' ∨ x = 'X') ∧ text.toList = '0' :: x :: digits ∧ Names 16 digits n

/-- A decimal: digits of a number with white space around them. -/
def IsDecimal (text : String) (n : Nat) : Prop :=
  ∃ before digits after, text.toList = before ++ digits ++ after ∧ Names 10 digits n ∧
    (∀ c ∈ before, c.toNat ∈ whiteSpace) ∧ ∀ c ∈ after, c.toNat ∈ whiteSpace

/-- The quantity a chain is written as. -/
def toHexQuantity (id : ChainId) : String := "0x" ++ Hex.ofNat id.value.toNat

theorem isHexQuantity_toHexQuantity (id : ChainId) :
    IsHexQuantity id.toHexQuantity id.value.toNat := by
  refine ⟨'x', _, .inl rfl, ?_, names_toDigits (by decide) _⟩
  rw [toHexQuantity, Hex.ofNat, String.toList_append, String.toList_ofList, String.toList_ofList]
  rfl

theorem isDecimal_toString (id : ChainId) : IsDecimal (toString id) id.value.toNat := by
  refine ⟨[], _, [], ?_, names_toDigits (by decide) _, List.forall_mem_nil _, List.forall_mem_nil _⟩
  rw [List.nil_append, List.append_nil]
  exact Nat.toList_repr

/-! ## Reading -/

/-- A reader gives exactly the number, or refuses it as no quantity if it does not fit 64 bits. -/
def Reads (x : Except FormatError ChainId) (n : Nat) : Prop :=
  (n < UInt64.size → ∃ id, x = .ok id ∧ id.value.toNat = n) ∧
    (UInt64.size ≤ n → ∃ e, x = .error e ∧ e.kind = .invalidQuantity)

/-- What fits is read to the one chain of that number. -/
theorem Reads.eq_ok {x : Except FormatError ChainId} (h : Reads x id.value.toNat) : x = .ok id := by
  obtain ⟨id', hx, hvalue⟩ := h.1 id.value.toNat_lt
  have hid : id' = id := by
    cases id
    cases id'
    exact congrArg ChainId.mk (UInt64.toNat_inj.mp hvalue)
  exact hid ▸ hx

theorem readNumeral_eq_ok_iff {b : Nat} (hb : b ≤ 16) :
    readNumeral text b digits = .ok id ↔ Names b (unsigned digits) id.value.toNat := by
  rw [← read_eq_ok_iff hb, readNumeral]
  cases Numeral.read b digits with
  | ok w =>
    constructor
    · intro h
      exact congrArg Except.ok (congrArg ChainId.value (Except.ok.inj h))
    · intro h
      rw [Except.ok.inj h]
  | error cause => exact ⟨nofun, nofun⟩

theorem reads_readNumeral {b : Nat} (hb : b ≤ 16) (h : Names b digits n) :
    Reads (readNumeral text b digits) n := by
  rw [readNumeral, read_of_names hb h]
  constructor
  · intro hfits
    rw [if_pos hfits]
    exact ⟨_, rfl, UInt64.toNat_ofNat_of_lt' hfits⟩
  · intro hlarge
    rw [if_neg (Nat.not_lt.mpr hlarge)]
    exact ⟨_, rfl, rfl⟩

theorem kind_of_readNumeral {b : Nat} (h : readNumeral text b digits = .error e) :
    e.kind = .invalidQuantity := by
  unfold readNumeral at h
  split at h
  · cases h
  · exact Except.error.inj h ▸ rfl

/-- Behind `0x` there is a numeral, if there is anything. -/
theorem ofHexQuantity_of_toList (htext : text.toList = '0' :: x :: digits) (hx : x = 'x' ∨ x = 'X')
    (hne : digits ≠ []) : ofHexQuantity text = readNumeral text 16 digits := by
  rw [ofHexQuantity, htext]
  exact (if_pos hx).trans (if_neg hne)

/-- **A quantity is read to its exact number or refused.** -/
theorem reads_isHexQuantity (h : IsHexQuantity text n) : Reads (ofHexQuantity text) n := by
  obtain ⟨x, digits, hx, htext, hnames⟩ := h
  rw [ofHexQuantity_of_toList htext hx hnames.1]
  exact reads_readNumeral (by decide) hnames

/-- **A decimal is read to its exact number or refused.** -/
theorem reads_isDecimal (h : IsDecimal text n) : Reads (ofDecimal text) n := by
  obtain ⟨before, digits, after, htext, hnames, hbefore, hafter⟩ := h
  rw [ofDecimal, htext, trimBlanks_of_names (by decide) hnames hbefore hafter]
  exact reads_readNumeral (by decide) hnames

/-! ## What is taken for a quantity -/

/-- What is read as a quantity has the `0x`, and behind it what is read as a numeral. -/
theorem ofHexQuantity_eq_ok_iff :
    ofHexQuantity text = .ok id ↔ ∃ x digits, (x = 'x' ∨ x = 'X') ∧
      text.toList = '0' :: x :: digits ∧ Names 16 (unsigned digits) id.value.toNat := by
  constructor
  · intro h
    unfold ofHexQuantity at h
    split at h
    · rename_i x digits htext
      split at h
      · rename_i hx
        split at h
        · cases h
        · exact ⟨x, digits, hx, htext, (readNumeral_eq_ok_iff (by decide)).mp h⟩
      · cases h
    · cases h
  · rintro ⟨x, digits, hx, htext, hnames⟩
    have hne : digits ≠ [] := by
      rintro rfl
      exact hnames.1 rfl
    rw [ofHexQuantity_of_toList htext hx hne]
    exact (readNumeral_eq_ok_iff (by decide)).mpr hnames

theorem kind_of_ofHexQuantity (h : ofHexQuantity text = .error e) : e.kind = .invalidQuantity := by
  unfold ofHexQuantity at h
  split at h
  · split at h
    · split at h
      · exact Except.error.inj h ▸ rfl
      · exact kind_of_readNumeral h
    · exact Except.error.inj h ▸ rfl
  · exact Except.error.inj h ▸ rfl

/-- **What is taken for a quantity** is `0x` or `0X`, a plus sign or none, and the digits of a number
that fits 64 bits; everything else is refused as no quantity.  So without a plus sign nothing but
quantities is taken for one. -/
theorem ofHexQuantity_reads_quantities (text : String) :
    (∀ id, ofHexQuantity text = .ok id ↔
      ∃ x sign digits, (x = 'x' ∨ x = 'X') ∧ (sign = [] ∨ sign = ['+']) ∧
        text.toList = '0' :: x :: (sign ++ digits) ∧ Names 16 digits id.value.toNat) ∧
    ((¬ ∃ id, ofHexQuantity text = .ok id) →
      ∃ e, ofHexQuantity text = .error e ∧ e.kind = .invalidQuantity) ∧
    ('+' ∉ text.toList → ∀ id, ofHexQuantity text = .ok id → IsHexQuantity text id.value.toNat) := by
  have hread : ∀ id, ofHexQuantity text = .ok id ↔
      ∃ x sign digits, (x = 'x' ∨ x = 'X') ∧ (sign = [] ∨ sign = ['+']) ∧
        text.toList = '0' :: x :: (sign ++ digits) ∧ Names 16 digits id.value.toNat := by
    intro id
    rw [ofHexQuantity_eq_ok_iff]
    constructor
    · rintro ⟨x, rest, hx, htext, hrest⟩
      obtain ⟨sign, digits, hsign, rfl, hdigits⟩ := (names_unsigned_iff (by decide)).mp hrest
      exact ⟨x, sign, digits, hx, hsign, htext, hdigits⟩
    · rintro ⟨x, sign, digits, hx, hsign, htext, hdigits⟩
      exact ⟨x, _, hx, htext,
        (names_unsigned_iff (by decide)).mpr ⟨sign, digits, hsign, rfl, hdigits⟩⟩
  refine ⟨hread, fun hnone => ?_, fun hplus id h => ?_⟩
  · cases hresult : ofHexQuantity text with
    | ok id => exact absurd ⟨id, hresult⟩ hnone
    | error e => exact ⟨e, rfl, kind_of_ofHexQuantity hresult⟩
  · obtain ⟨x, sign, digits, hx, hsign, htext, hdigits⟩ := (hread id).mp h
    rcases hsign with rfl | rfl
    · exact ⟨x, digits, hx, htext, hdigits⟩
    · rw [htext] at hplus
      simp at hplus

/-- A sign is taken for part of a quantity. -/
theorem ofHexQuantity_takes_sign :
    ofHexQuantity "0x+1" = .ok ⟨1⟩ ∧ ∀ n, ¬ IsHexQuantity "0x+1" n := by
  refine ⟨by decide +kernel, ?_⟩
  rintro n ⟨x, digits, -, htext, -, ds, hds, -⟩
  have hsplit : ['0', 'x', '+', '1'] = '0' :: x :: digits := htext ▸ by decide +kernel
  simp only [List.cons.injEq, true_and] at hsplit
  obtain ⟨-, rfl⟩ := hsplit
  cases hds with
  | cons hdigit _ => exact hdigit.ne_plus (by decide) rfl

end AddressedStorage.ChainId
