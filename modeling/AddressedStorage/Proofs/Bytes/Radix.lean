import AddressedStorage.Bytes.Radix
import Mathlib.Data.List.TakeWhile
import Mathlib.Data.Nat.Digits.Lemmas

/-!
# Proofs/Bytes/Radix — numerals are read back

A number is read back from its numeral, shortest or padded, and a numeral without a leading zero from
its number (`digits_value`).  Two ways to write byte strings are built on that: `rebase` changes the
base and keeps the leading zeros, and undoes itself (`rebase_rebase`); regrouping bytes as digits of
at most eight bits fills up the last digit with zeros, and is undone by cutting those off
(`bytesOfBits_bitsOfBytes`).  Digits that are filled up so are regrouped from the bytes they make
(`bitsOfBytes_bytesOfBits`).
-/

namespace AddressedStorage.Radix

variable {b c : Nat} {ds es : List Nat}

/-! ## The number of a numeral -/

/-- Read from its last digit on, a numeral has its lowest digit first. -/
theorem value_eq_ofDigits (b : Nat) (ds : List Nat) : value b ds = Nat.ofDigits b ds.reverse := by
  induction ds using List.reverseRecOn with
  | nil => rfl
  | append_singleton ds d ih =>
    rw [value_concat, ih, List.reverse_concat, Nat.ofDigits_cons, Nat.add_comm, Nat.mul_comm b]

/-- A numeral in front is worth its number at the place where it ends. -/
theorem value_append (b : Nat) (ds es : List Nat) :
    value b (ds ++ es) = value b ds * b ^ es.length + value b es := by
  simp only [value_eq_ofDigits, List.reverse_append, Nat.ofDigits_append, List.length_reverse]
  rw [Nat.add_comm, Nat.mul_comm]

/-- Leading zeros are worth nothing. -/
@[simp] theorem value_replicate_append (b z : Nat) (ds : List Nat) :
    value b (List.replicate z 0 ++ ds) = value b ds := by
  simp [value_eq_ofDigits]

/-- A numeral of `w` digits names a number below `b ^ w`. -/
theorem value_lt (hb : 1 < b) (h : ∀ d ∈ ds, d < b) : value b ds < b ^ ds.length := by
  rw [value_eq_ofDigits, ← List.length_reverse]
  exact Nat.ofDigits_lt_base_pow_length hb fun d hd => h d (List.mem_reverse.mp hd)

/-! ## Shortest numerals -/

theorem digitsOnto_eq_append (hb : 1 < b) (n : Nat) (acc : List Nat) :
    digitsOnto b n acc = (Nat.digits b n).reverse ++ acc := by
  induction n using Nat.strongRecOn generalizing acc with
  | ind n ih =>
    rw [digitsOnto]
    split
    · rename_i h
      rw [ih (n / b) (Nat.div_lt_self h.2 hb), Nat.digits_of_two_le_of_pos hb h.2,
        List.reverse_cons, List.append_assoc]
      rfl
    · have hn : n = 0 := by omega
      rw [hn, Nat.digits_zero]
      rfl

/-- The digits of a number, highest first. -/
theorem digits_eq_reverse (hb : 1 < b) (n : Nat) : digits b n = (Nat.digits b n).reverse := by
  rw [digits, digitsOnto_eq_append hb, List.append_nil]

/-- **A number is read back from its shortest numeral.** -/
theorem value_digits (hb : 1 < b) (n : Nat) : value b (digits b n) = n := by
  rw [value_eq_ofDigits, digits_eq_reverse hb, List.reverse_reverse, Nat.ofDigits_digits]

theorem lt_of_mem_digits (hb : 1 < b) {n d : Nat} (h : d ∈ digits b n) : d < b := by
  rw [digits_eq_reverse hb] at h
  exact Nat.digits_lt_base hb (List.mem_reverse.mp h)

/-- A shortest numeral has no leading zero. -/
theorem head?_digits_ne_zero (hb : 1 < b) (n : Nat) : (digits b n).head? ≠ some 0 := by
  rw [digits_eq_reverse hb, List.head?_reverse]
  intro h
  have hne : Nat.digits b n ≠ [] := fun hnil => by simp [hnil] at h
  rw [List.getLast?_eq_some_getLast hne] at h
  exact Nat.getLast_digit_ne_zero b (Nat.digits_ne_nil_iff_ne_zero.mp hne) (Option.some.inj h)

/-- **A numeral without a leading zero is the shortest one of its number.** -/
theorem digits_value (hb : 1 < b) (h : ∀ d ∈ ds, d < b) (hhead : ds.head? ≠ some 0) :
    digits b (value b ds) = ds := by
  rw [digits_eq_reverse hb, value_eq_ofDigits, Nat.digits_ofDigits b hb, List.reverse_reverse]
  · exact fun d hd => h d (List.mem_reverse.mp hd)
  · intro hne hlast
    rw [List.getLast_reverse] at hlast
    exact hhead (hlast ▸ List.head?_eq_some_head _)

/-! ## Padded numerals -/

theorem paddedOnto_eq_append (b : Nat) : ∀ (w n : Nat) (acc : List Nat),
    paddedOnto b w n acc = padded b w n ++ acc
  | 0, _, _ => rfl
  | w + 1, n, acc => by
    rw [padded, paddedOnto, paddedOnto, paddedOnto_eq_append b w, paddedOnto_eq_append b w,
      List.append_assoc]
    rfl

/-- A padded numeral ends with the lowest digit. -/
theorem padded_succ (b w n : Nat) : padded b (w + 1) n = padded b w (n / b) ++ [n % b] :=
  paddedOnto_eq_append b w (n / b) [n % b]

theorem lt_of_mem_padded (hb : 0 < b) {w n d : Nat} (h : d ∈ padded b w n) : d < b := by
  induction w generalizing n with
  | zero => cases h
  | succ w ih =>
    rw [padded_succ, List.mem_append, List.mem_singleton] at h
    rcases h with hfront | rfl
    · exact ih hfront
    · exact Nat.mod_lt n hb

/-- A padded numeral names what its width leaves of the number. -/
theorem value_padded (b w n : Nat) : value b (padded b w n) = n % b ^ w := by
  induction w generalizing n with
  | zero => simp [padded, paddedOnto, value, Nat.mod_one]
  | succ w ih =>
    rw [padded_succ, value_concat, ih, Nat.pow_succ', Nat.mod_mul, Nat.add_comm, Nat.mul_comm]

/-- **A numeral is the padded one of its number and its length.** -/
theorem padded_value (h : ∀ d ∈ ds, d < b) : padded b ds.length (value b ds) = ds := by
  induction ds using List.reverseRecOn with
  | nil => rfl
  | append_singleton ds d ih =>
    have hd : d < b := h d List.mem_concat_self
    have hfront : ∀ d ∈ ds, d < b := fun e he => h e (List.mem_append_left _ he)
    rw [List.length_append, List.length_singleton, padded_succ, value_concat, Nat.mul_comm,
      Nat.mul_add_div (Nat.zero_lt_of_lt hd), Nat.div_eq_of_lt hd, Nat.add_zero, ih hfront,
      Nat.mul_add_mod, Nat.mod_eq_of_lt hd]

/-- **The first digits of a number** that starts with `lead` are those of `lead`. -/
theorem digits_mul_pow_add (hb : 1 < b) (lead : List Nat) (h : ∀ d ∈ lead, d < b)
    (hhead : lead.head? ≠ some 0) (hne : lead ≠ []) {w r : Nat} (hr : r < b ^ w) :
    digits b (value b lead * b ^ w + r) = lead ++ padded b w r := by
  have hvalue : value b (lead ++ padded b w r) = value b lead * b ^ w + r := by
    rw [value_append, value_padded, length_padded, Nat.mod_eq_of_lt hr]
  rw [← hvalue, digits_value hb]
  · exact List.forall_mem_append.mpr
      ⟨h, fun d hd => lt_of_mem_padded (Nat.zero_lt_of_lt hb) hd⟩
  · rwa [List.head?_append_of_ne_nil _ hne]

/-! ## Another base -/

/-- How many zeros a numeral starts with. -/
def leadingZeros (ds : List Nat) : Nat := (ds.takeWhile (· = 0)).length

/-- The numeral of the same number in another base, with as many zeros in front. -/
def rebase (b c : Nat) (ds : List Nat) : List Nat :=
  List.replicate (leadingZeros ds) 0 ++ digits c (value b ds)

theorem leadingZeros_of_head? (h : ds.head? ≠ some 0) : leadingZeros ds = 0 := by
  cases ds with
  | nil => rfl
  | cons d ds =>
    have hd : d ≠ 0 := fun hzero => h (congrArg some hzero)
    simp [leadingZeros, hd]

@[simp] theorem leadingZeros_replicate_append (z : Nat) (ds : List Nat) :
    leadingZeros (List.replicate z 0 ++ ds) = z + leadingZeros ds := by
  simp [leadingZeros, List.takeWhile_append_of_pos]

/-- A numeral is its leading zeros and a numeral without any. -/
theorem exists_eq_replicate_append (ds : List Nat) :
    ∃ es, ds = List.replicate (leadingZeros ds) 0 ++ es ∧ es.head? ≠ some 0 := by
  refine ⟨ds.dropWhile (· = 0), ?_, ?_⟩
  · have hzeros : ds.takeWhile (· = 0) = List.replicate (leadingZeros ds) 0 :=
      List.eq_replicate_of_mem fun d hd => by simpa using List.mem_takeWhile_imp hd
    rw [← hzeros, List.takeWhile_append_dropWhile]
  · intro h
    have := List.head?_dropWhile_not (fun d => decide (d = 0)) ds
    simp [h] at this

theorem lt_of_mem_rebase (hc : 1 < c) {d : Nat} (h : d ∈ rebase b c ds) : d < c := by
  rcases List.mem_append.mp h with hzero | hdigit
  · rw [List.eq_of_mem_replicate hzero]
    exact Nat.zero_lt_of_lt hc
  · exact lt_of_mem_digits hc hdigit

@[simp] theorem leadingZeros_rebase (hc : 1 < c) : leadingZeros (rebase b c ds) = leadingZeros ds := by
  rw [rebase, leadingZeros_replicate_append, leadingZeros_of_head? (head?_digits_ne_zero hc _),
    Nat.add_zero]

/-- **Changing the base and changing it back** gives the numeral back, leading zeros and all. -/
theorem rebase_rebase (hb : 1 < b) (hc : 1 < c) (h : ∀ d ∈ ds, d < b) :
    rebase c b (rebase b c ds) = ds := by
  obtain ⟨es, hds, hhead⟩ := exists_eq_replicate_append ds
  have hes : ∀ d ∈ es, d < b := fun d hd => h d (hds ▸ List.mem_append_right _ hd)
  have hvalue : value b ds = value b es := by rw [hds, value_replicate_append]
  rw [rebase, leadingZeros_rebase hc, rebase, value_replicate_append, value_digits hc, hvalue,
    digits_value hb hes hhead, ← hds]

/-! ## Bytes -/

/-- What holds of every byte is checked number by number. -/
theorem forall_byte {P : UInt8 → Prop} (h : ∀ n < 256, P (UInt8.ofNat n)) (b : UInt8) : P b := by
  have hbyte := h b.toNat b.toNat_lt
  rwa [UInt8.ofNat_toNat] at hbyte

/-- A byte is the value of its number. -/
@[simp] theorem map_toUInt8_toNat (bytes : List UInt8) :
    (bytes.map UInt8.toNat).map Nat.toUInt8 = bytes := by
  rw [List.map_map]
  exact (List.map_congr_left fun _ _ => UInt8.ofNat_toNat).trans (List.map_id _)

/-- Digits in base 256 are bytes. -/
theorem map_toNat_toUInt8 (h : ∀ d ∈ ds, d < 256) : (ds.map Nat.toUInt8).map UInt8.toNat = ds := by
  rw [List.map_map]
  exact (List.map_congr_left fun d hd => UInt8.toNat_ofNat_of_lt' (h d hd)).trans (List.map_id _)

theorem toNat_lt_of_mem (bytes : List UInt8) : ∀ d ∈ bytes.map UInt8.toNat, d < 256 := by
  intro d hd
  obtain ⟨byte, -, rfl⟩ := List.mem_map.mp hd
  exact byte.toNat_lt

theorem ofBytes_lt (bytes : List UInt8) : ofBytes bytes < 256 ^ bytes.length := by
  simpa [ofBytes] using value_lt (by decide) (toNat_lt_of_mem bytes)

/-- **A byte string is read back from its number and its length.** -/
theorem toPaddedBytes_ofBytes (bytes : List UInt8) :
    toPaddedBytes bytes.length (ofBytes bytes) = bytes := by
  have hpadded := padded_value (toNat_lt_of_mem bytes)
  rw [List.length_map] at hpadded
  rw [toPaddedBytes, ofBytes, hpadded, map_toUInt8_toNat]

/-- **Bytes are read back from the digits they were regrouped in**, of at most eight bits each: what
fills up the last digit is less than a byte, and is zero. -/
theorem bytesOfBits_bitsOfBytes {k : Nat} (hk : 0 < k) (hle : k ≤ 8) (bytes : List UInt8) :
    bytesOfBits k (bitsOfBytes k bytes) = (bytes, 0) := by
  obtain ⟨width, hwidth⟩ : ∃ width, (8 * bytes.length + k - 1) / k = width := ⟨_, rfl⟩
  obtain ⟨fill, hfill, hlt⟩ : ∃ fill, width * k = 8 * bytes.length + fill ∧ fill < k := by
    have hdiv := Nat.div_add_mod (8 * bytes.length + k - 1) k
    have hmod := Nat.mod_lt (8 * bytes.length + k - 1) hk
    rw [hwidth, Nat.mul_comm] at hdiv
    exact ⟨width * k - 8 * bytes.length, by omega, by omega⟩
  have hbound : ofBytes bytes * 2 ^ fill < (2 ^ k) ^ width := by
    have hbytes := ofBytes_lt bytes
    rw [← Nat.pow_mul, Nat.mul_comm k, hfill, Nat.pow_add, Nat.pow_mul]
    exact Nat.mul_lt_mul_of_pos_right hbytes (Nat.two_pow_pos fill)
  have hspare : width * k % 8 = fill := by omega
  have hwhole : width * k / 8 = bytes.length := by omega
  have hbits : bitsOfBytes k bytes = padded (2 ^ k) width (ofBytes bytes * 2 ^ fill) := by
    simp only [bitsOfBytes, hwidth, hfill, Nat.add_sub_cancel_left, Nat.shiftLeft_eq, Nat.one_mul]
  simp only [bytesOfBits, hbits, length_padded, Nat.shiftLeft_eq, Nat.one_mul, value_padded,
    Nat.mod_eq_of_lt hbound, Nat.mul_comm k, hspare, hwhole]
  rw [Nat.mul_div_cancel _ (Nat.two_pow_pos fill), Nat.mul_mod_left, toPaddedBytes_ofBytes]

/-- The byte string of a width names what the width leaves of the number. -/
theorem ofBytes_toPaddedBytes (w n : Nat) : ofBytes (toPaddedBytes w n) = n % 256 ^ w := by
  rw [ofBytes, toPaddedBytes, map_toNat_toUInt8 fun d hd => lt_of_mem_padded (by decide) hd,
    value_padded]

theorem length_toPaddedBytes (w n : Nat) : (toPaddedBytes w n).length = w := by
  rw [toPaddedBytes, List.length_map, length_padded]

/-- **Digits are read back from the bytes they make**, if no digit is only filling and what fills up
the last byte is zero. -/
theorem bitsOfBytes_bytesOfBits {k : Nat} (h : ∀ d ∈ ds, d < 2 ^ k)
    (hfill : k * ds.length % 8 < k) (hspare : (bytesOfBits k ds).2 = 0) :
    bitsOfBytes k (bytesOfBits k ds).1 = ds := by
  obtain ⟨fill, hbits⟩ : ∃ fill, k * ds.length % 8 = fill := ⟨_, rfl⟩
  obtain ⟨whole, hwhole⟩ : ∃ whole, k * ds.length / 8 = whole := ⟨_, rfl⟩
  obtain ⟨n, hn⟩ : ∃ n, value (2 ^ k) ds = n := ⟨_, rfl⟩
  have hsum : ds.length * k = 8 * whole + fill := by
    rw [← hwhole, ← hbits, Nat.div_add_mod, Nat.mul_comm]
  have hwidth : (8 * whole + k - 1) / k = ds.length := by
    have hnext : (ds.length + 1) * k = ds.length * k + k := Nat.add_one_mul _ _
    exact Nat.div_eq_of_lt_le (by omega) (by omega)
  have hlt : n < 256 ^ whole * 2 ^ fill := by
    have hone : 1 < 2 ^ k := Nat.one_lt_two_pow (Nat.ne_zero_of_lt hfill)
    have hvalue := value_lt hone h
    rwa [hn, ← Nat.pow_mul, Nat.mul_comm, hsum, Nat.pow_add, Nat.pow_mul] at hvalue
  simp only [bytesOfBits, Nat.shiftLeft_eq, Nat.one_mul, hbits, hwhole, hn] at hspare ⊢
  have hnumber : ofBytes (toPaddedBytes whole (n / 2 ^ fill)) * 2 ^ fill = n := by
    rw [ofBytes_toPaddedBytes, Nat.mod_eq_of_lt (Nat.div_lt_of_lt_mul (Nat.mul_comm _ _ ▸ hlt)),
      Nat.div_mul_cancel (Nat.dvd_of_mod_eq_zero hspare)]
  simp only [bitsOfBytes, length_toPaddedBytes, hwidth, hsum, Nat.add_sub_cancel_left,
    Nat.shiftLeft_eq, Nat.one_mul, hnumber]
  rw [← hn]
  exact padded_value h

end AddressedStorage.Radix
