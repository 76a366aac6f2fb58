import AddressedStorage.Proofs.Except
import AddressedStorage.Proofs.Http.Percent
import AddressedStorage.Text.Blank
import AddressedStorage.Text.Numeral

/-!
# Proofs/Text/Numeral — a numeral is read to its exact value

What a text of digits names is said apart from the reader: every character is a digit, in either case,
and counts at its place (`Names`).  The reader stops at the first place where the value passes 64 bits.
That refuses no number that fits, since further digits make no number smaller: a text is read just if
the number it names fits (`read_of_names`).  All that is read besides is such a text behind a plus
sign (`read_eq_ok_iff`).
-/

namespace AddressedStorage.Numeral

variable {b n d : Nat} {c : Char} {text : List Char} {ds : List Nat}

/-! ## What a text names -/

/-- A character is the digit `d` of base `b`, in either case. -/
def IsDigit (b : Nat) (c : Char) (d : Nat) : Prop :=
  d < b ∧ (c = Nat.digitChar d ∨ c = (Nat.digitChar d).toUpper)

instance : Decidable (IsDigit b c d) := inferInstanceAs (Decidable (_ ∧ _))

/-- A text of digits, of which there is at least one, names a number in base `b`. -/
def Names (b : Nat) (text : List Char) (n : Nat) : Prop :=
  text ≠ [] ∧ ∃ ds, List.Forall₂ (IsDigit b) text ds ∧ Radix.value b ds = n

/-- The characters that are digits of base sixteen. -/
theorem digit?_hex_iff : Hex.digit? c = some d ↔ IsDigit 16 c d := by
  constructor
  · intro h
    have hlow : c.toNat < 128 := by
      unfold Hex.digit? at h
      split at h
      · rename_i hrange
        exact Nat.lt_of_le_of_lt hrange.2 (by decide)
      split at h
      · rename_i hrange
        exact Nat.lt_of_le_of_lt hrange.2 (by decide)
      split at h
      · rename_i hrange
        exact Nat.lt_of_le_of_lt hrange.2 (by decide)
      · cases h
    exact Percent.forall_char_lt (P := fun c => ∀ d ∈ Hex.digit? c, IsDigit 16 c d)
      (by decide +kernel) hlow d h
  · rintro ⟨hd, rfl | rfl⟩
    · exact (by decide +kernel : ∀ d < 16, Hex.digit? (Nat.digitChar d) = some d) d hd
    · exact (by decide +kernel : ∀ d < 16, Hex.digit? (Nat.digitChar d).toUpper = some d) d hd

theorem digit?_eq_some_iff (hb : b ≤ 16) : digit? b c = some d ↔ IsDigit b c d := by
  rw [digit?, Option.filter_eq_some_iff, digit?_hex_iff, decide_eq_true_eq]
  constructor
  · exact fun h => ⟨h.2, h.1.2⟩
  · exact fun h => ⟨⟨Nat.lt_of_lt_of_le h.1 hb, h.2⟩, h.1⟩

/-- A digit is no sign. -/
theorem IsDigit.ne_plus (hb : b ≤ 16) (h : IsDigit b c d) : c ≠ '+' := by
  rintro rfl
  have hhex : IsDigit 16 '+' d := ⟨Nat.lt_of_lt_of_le h.1 hb, h.2⟩
  exact (by decide +kernel : ∀ d < 16, ¬ IsDigit 16 '+' d) d hhex.1 hhex

/-- **A number is named by the numeral it is written as.** -/
theorem names_toDigits (hb : 1 < b) (n : Nat) : Names b (Nat.toDigits b n) n := by
  refine ⟨Nat.toDigits_ne_nil, ?_⟩
  induction n using Nat.strongRecOn with
  | ind n ih =>
    rcases Nat.lt_or_ge n b with hlt | hle
    · rw [Nat.toDigits_of_lt_base hlt]
      exact ⟨[n], .cons ⟨hlt, .inl rfl⟩ .nil, by simp [Radix.value]⟩
    · obtain ⟨ds, hds, hvalue⟩ := ih (n / b) (Nat.div_lt_self (by omega) hb)
      have hlast : IsDigit b (Nat.digitChar (n % b)) (n % b) :=
        ⟨Nat.mod_lt _ (by omega), .inl rfl⟩
      rw [Nat.toDigits_of_base_le hb hle]
      refine ⟨ds ++ [n % b], List.rel_append hds (.cons hlast .nil), ?_⟩
      rw [Radix.value_concat, hvalue, Nat.div_add_mod']

/-! ## Reading digits -/

/-- Further digits make no number smaller. -/
theorem value_le_append (hb : 0 < b) (es ds : List Nat) :
    Radix.value b es ≤ Radix.value b (es ++ ds) := by
  rw [Radix.value_append]
  exact Nat.le_add_right_of_le (Nat.le_mul_of_pos_right _ (Nat.pow_pos hb))

/-- One more digit is read if the value still fits. -/
theorem readDigits_cons (hb : b ≤ 16) (h : IsDigit b c d) :
    readDigits b n (c :: text) =
      if n * b + d < UInt64.size then readDigits b (n * b + d) text else .error .tooLarge := by
  rw [readDigits, (digit?_eq_some_iff hb).mpr h]

/-- **Digits are read to the number they name**, behind those read before, if it fits 64 bits. -/
theorem readDigits_of_digits (hb : b ≤ 16) (h : List.Forall₂ (IsDigit b) text ds) (es : List Nat)
    (hes : Radix.value b es < UInt64.size) :
    readDigits b (Radix.value b es) text =
      if Radix.value b (es ++ ds) < UInt64.size then .ok (Radix.value b (es ++ ds))
      else .error .tooLarge := by
  induction h generalizing es with
  | nil => rw [List.append_nil, if_pos hes, readDigits]
  | @cons c d text ds hdigit _ ih =>
    rw [readDigits_cons hb hdigit, List.append_cons, ← Radix.value_concat]
    by_cases hfits : Radix.value b (es ++ [d]) < UInt64.size
    · rw [if_pos hfits, ih _ hfits]
    · have hle := value_le_append (Nat.zero_lt_of_lt hdigit.1) (es ++ [d]) ds
      rw [if_neg hfits, if_neg fun h => hfits (Nat.lt_of_le_of_lt hle h)]

/-- What is read are digits. -/
theorem exists_digits_of_readDigits (hb : b ≤ 16) {m : Nat} (h : readDigits b n text = .ok m) :
    ∃ ds, List.Forall₂ (IsDigit b) text ds := by
  induction text generalizing n with
  | nil => exact ⟨[], .nil⟩
  | cons c text ih =>
    cases hdigit : digit? b c with
    | none =>
      rw [readDigits, hdigit] at h
      cases h
    | some d =>
      rw [digit?_eq_some_iff hb] at hdigit
      rw [readDigits_cons hb hdigit] at h
      by_cases hfits : n * b + d < UInt64.size
      · rw [if_pos hfits] at h
        obtain ⟨ds, hds⟩ := ih h
        exact ⟨d :: ds, .cons hdigit hds⟩
      · rw [if_neg hfits] at h
        cases h

/-! ## Reading numerals -/

theorem unsigned_cons (h : c ≠ '+') : unsigned (c :: text) = c :: text := by
  unfold unsigned
  split
  · rename_i heq
    exact absurd (List.cons.inj heq).1 h
  · rfl

/-- No digit is cut off as a sign. -/
theorem unsigned_of_names (hb : b ≤ 16) (h : Names b text n) : unsigned text = text := by
  obtain ⟨hne, ds, hds, -⟩ := h
  cases hds with
  | nil => exact absurd rfl hne
  | cons hdigit _ => exact unsigned_cons (hdigit.ne_plus hb)

/-- What is left without a sign names a number just if digits do, with or without a plus sign. -/
theorem names_unsigned_iff (hb : b ≤ 16) :
    Names b (unsigned text) n ↔
      ∃ sign digits, (sign = [] ∨ sign = ['+']) ∧ text = sign ++ digits ∧ Names b digits n := by
  constructor
  · intro h
    cases text with
    | nil => exact absurd rfl h.1
    | cons c rest =>
      by_cases hsign : c = '+'
      · subst hsign
        exact ⟨['+'], rest, .inr rfl, rfl, h⟩
      · exact ⟨[], c :: rest, .inl rfl, rfl, unsigned_cons hsign ▸ h⟩
  · rintro ⟨sign, digits, rfl | rfl, rfl, hdigits⟩
    · exact (unsigned_of_names hb hdigits).symm ▸ hdigits
    · exact hdigits

/-- A numeral is read from its digits on. -/
theorem read_of_unsigned_ne_nil (h : unsigned text ≠ []) :
    read b text = (readDigits b (Radix.value b []) (unsigned text)).map Nat.toUInt64 := by
  have htext : text ≠ [] := by
    rintro rfl
    exact h rfl
  rw [read, if_neg htext, if_neg h]
  rfl

theorem read_of_names_unsigned (hb : b ≤ 16) (h : Names b (unsigned text) n) :
    read b text = if n < UInt64.size then .ok n.toUInt64 else .error .tooLarge := by
  obtain ⟨hne, ds, hds, rfl⟩ := h
  have hread := readDigits_of_digits hb hds [] (by simp [Radix.value])
  rw [List.nil_append] at hread
  rw [read_of_unsigned_ne_nil hne, hread]
  split <;> rfl

/-- **A text of digits is read just if the number it names fits 64 bits**, and to that number. -/
theorem read_of_names (hb : b ≤ 16) (h : Names b text n) :
    read b text = if n < UInt64.size then .ok n.toUInt64 else .error .tooLarge :=
  read_of_names_unsigned hb ((unsigned_of_names hb h).symm ▸ h)

/-- **What is read** is a text of digits, with or without a plus sign before it. -/
theorem read_eq_ok_iff (hb : b ≤ 16) {w : UInt64} :
    read b text = .ok w ↔ Names b (unsigned text) w.toNat := by
  constructor
  · intro h
    have hne : unsigned text ≠ [] := by
      intro hnil
      rw [read, if_pos hnil] at h
      split at h <;> cases h
    have hdigits := h
    rw [read_of_unsigned_ne_nil hne, map_eq_ok_iff] at hdigits
    obtain ⟨m, hm, -⟩ := hdigits
    obtain ⟨ds, hds⟩ := exists_digits_of_readDigits hb hm
    have hnames : Names b (unsigned text) (Radix.value b ds) := ⟨hne, ds, hds, rfl⟩
    rw [read_of_names_unsigned hb hnames] at h
    by_cases hfits : Radix.value b ds < UInt64.size
    · rw [if_pos hfits] at h
      obtain rfl := Except.ok.inj h
      rwa [Nat.toUInt64_eq, UInt64.toNat_ofNat_of_lt' hfits]
    · rw [if_neg hfits] at h
      cases h
  · intro h
    rw [read_of_names_unsigned hb h, if_pos w.toNat_lt, Nat.toUInt64_eq, UInt64.ofNat_toNat]

/-! ## Blanks around a numeral -/

/-- The code points of white space in Unicode. -/
def whiteSpace : List Nat :=
  [0x9, 0xA, 0xB, 0xC, 0xD, 0x20, 0x85, 0xA0, 0x1680, 0x2000, 0x2001, 0x2002, 0x2003, 0x2004,
    0x2005, 0x2006, 0x2007, 0x2008, 0x2009, 0x200A, 0x2028, 0x2029, 0x202F, 0x205F, 0x3000]

theorem isBlank_iff : isBlank c ↔ c.toNat ∈ whiteSpace := by
  simp only [isBlank, whiteSpace, Bool.or_eq_true, Bool.and_eq_true, decide_eq_true_eq, beq_iff_eq,
    List.mem_cons, List.not_mem_nil, or_false]
  omega

/-- A digit is no white space. -/
theorem IsDigit.not_isBlank (hb : b ≤ 16) (h : IsDigit b c d) : isBlank c = false := by
  obtain ⟨hd, rfl | rfl⟩ := h
  · exact (by decide +kernel : ∀ d < 16, isBlank (Nat.digitChar d) = false) d
      (Nat.lt_of_lt_of_le hd hb)
  · exact (by decide +kernel : ∀ d < 16, isBlank (Nat.digitChar d).toUpper = false) d
      (Nat.lt_of_lt_of_le hd hb)

theorem not_isBlank_of_digits (hb : b ≤ 16) (h : List.Forall₂ (IsDigit b) text ds) :
    ∀ c ∈ text, isBlank c = false := by
  induction h with
  | nil => exact List.forall_mem_nil _
  | cons hdigit _ ih => exact List.forall_mem_cons.mpr ⟨hdigit.not_isBlank hb, ih⟩

/-- Nothing is cut off before the first character that is no white space. -/
theorem dropWhile_isBlank_append {cs : List Char} (rest : List Char) (hne : cs ≠ [])
    (h : ∀ c ∈ cs, isBlank c = false) : (cs ++ rest).dropWhile isBlank = cs ++ rest := by
  cases cs with
  | nil => exact absurd rfl hne
  | cons c cs => exact List.dropWhile_cons_of_neg (by simp [h c List.mem_cons_self])

/-- **White space around a text of digits is cut off**, and nothing else. -/
theorem trimBlanks_of_names (hb : b ≤ 16) (h : Names b text n) {before after : List Char}
    (hbefore : ∀ c ∈ before, c.toNat ∈ whiteSpace) (hafter : ∀ c ∈ after, c.toNat ∈ whiteSpace) :
    trimBlanks (before ++ text ++ after) = text := by
  obtain ⟨hne, ds, hds, -⟩ := h
  have hdigits := not_isBlank_of_digits hb hds
  rw [trimBlanks, List.append_assoc,
    List.dropWhile_append_of_pos fun c hc => isBlank_iff.mpr (hbefore c hc),
    dropWhile_isBlank_append after hne hdigits, List.reverse_append,
    List.dropWhile_append_of_pos fun c hc => isBlank_iff.mpr (hafter c (List.mem_reverse.mp hc))]
  have hreverse := dropWhile_isBlank_append [] (List.reverse_ne_nil_iff.mpr hne)
    fun c hc => hdigits c (List.mem_reverse.mp hc)
  rw [List.append_nil] at hreverse
  rw [hreverse, List.reverse_reverse]

end AddressedStorage.Numeral
