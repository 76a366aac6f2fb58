/-!
# Http/Punycode — letters beyond ASCII in a host label

The ASCII characters of a label come first, then, from the least other code point upwards, where
each further character goes in, as a number of variable length.  How long digits are at each place
adapts to the sizes met so far.  `decode?` puts the characters back where the numbers say.
-/

namespace AddressedStorage.Punycode

/-- The letter or digit of a number below 36. -/
def symbol (d : Nat) : Char :=
  if d < 26 then Char.ofNat ('a'.toNat + d) else Char.ofNat ('0'.toNat + (d - 26))

/-- The least value of a last digit at a place that stands `k` from the start. -/
def threshold (k bias : Nat) : Nat := if k ≤ bias then 1 else min 26 (k - bias)

theorem threshold_pos (k bias : Nat) : 0 < threshold k bias := by
  unfold threshold
  split <;> omega

/-- A number in digits, lowest first, from place `k`. -/
def digits (k bias q : Nat) : List Char :=
  if q < threshold k bias then [symbol q]
  else
    symbol (threshold k bias + (q - threshold k bias) % (36 - threshold k bias)) ::
      digits (k + 36) bias ((q - threshold k bias) / (36 - threshold k bias))
termination_by q
decreasing_by
  have := threshold_pos k bias
  exact Nat.lt_of_le_of_lt (Nat.div_le_self _ _) (by omega)

/-- The value of a letter or digit. -/
def value? (c : Char) : Option Nat :=
  if 'a' ≤ c ∧ c ≤ 'z' then some (c.toNat - 'a'.toNat)
  else if 'A' ≤ c ∧ c ≤ 'Z' then some (c.toNat - 'A'.toNat)
  else if '0' ≤ c ∧ c ≤ '9' then some (c.toNat - '0'.toNat + 26)
  else none

/-- Reads a number from place `k` on, and returns what follows it.  A number stays below 2^32, and
so does the weight of a place. -/
def number? (k bias weight : Nat) : List Char → Option (Nat × List Char)
  | [] => none
  | c :: rest => do
    let d ← value? c
    if d < threshold k bias then
      if d * weight < UInt32.size then some (d * weight, rest) else none
    else
      let weight' := weight * (36 - threshold k bias)
      if weight' < UInt32.size then
        let (n, rest) ← number? (k + 36) bias weight' rest
        if n + d * weight < UInt32.size then some (n + d * weight, rest) else none
      else none

/-- Reading a number uses up a digit at least. -/
theorem length_lt_of_number? {k bias weight n : Nat} {text rest : List Char}
    (h : number? k bias weight text = some (n, rest)) : rest.length < text.length := by
  induction text generalizing k weight n rest with
  | nil => simp [number?] at h
  | cons c text ih =>
    simp only [number?, Option.bind_eq_bind, Option.bind_eq_some_iff] at h
    obtain ⟨d, -, h⟩ := h
    split at h
    · split at h
      · simp only [Option.some.injEq, Prod.mk.injEq] at h
        simp [h.2]
      · simp at h
    · split at h
      · simp only [Option.bind_eq_some_iff] at h
        obtain ⟨⟨m, tail⟩, hm, h⟩ := h
        split at h
        · simp only [Option.some.injEq, Prod.mk.injEq] at h
          obtain ⟨-, rfl⟩ := h
          exact Nat.lt_succ_of_lt (ih hm)
        · simp at h
      · simp at h

/-- Brings a difference down to at most 455 and counts 36 for each division. -/
def shrink (delta : Nat) : Nat × Nat :=
  if delta ≤ 455 then (delta, 0)
  else
    let (d, k) := shrink (delta / 35)
    (d, k + 36)
termination_by delta
decreasing_by exact Nat.div_lt_self (by omega) (by omega)

/-- The bias after a difference, with `written` characters in place. -/
def adapt (delta written : Nat) (first : Bool) : Nat :=
  let halved := if first then delta / 700 else delta / 2
  let (d, k) := shrink (halved + halved / written)
  k + 36 * d / (d + 38)

/-- Where encoding stands. -/
structure State where
  /-- Every lower code point is in place. -/
  next : Nat
  /-- Places passed since the last character went in. -/
  delta : Nat
  bias : Nat
  written : Nat
  first : Bool
  output : List Char

/-- Passes one character of the label while characters of code point `n` go in. -/
def pass (n : Nat) (s : State) (c : Nat) : State :=
  if c < n then { s with delta := s.delta + 1 }
  else if c = n then
    { s with
      delta := 0
      bias := adapt s.delta (s.written + 1) s.first
      written := s.written + 1
      first := false
      output := s.output ++ digits 36 s.bias s.delta }
  else s

/-- Puts in all characters of one code point. -/
def insert (label : List Nat) (s : State) (n : Nat) : State :=
  let s := { s with delta := s.delta + (n - s.next) * (s.written + 1) }
  let s := label.foldl (pass n) s
  { s with next := n + 1, delta := s.delta + 1 }

/-- The encoding of a label. -/
def encode (label : List Char) : List Char :=
  let plain := label.filter (·.toNat < 128)
  let others := (label.map Char.toNat).filter (128 ≤ ·)
  let start : State :=
    { next := 128, delta := 0, bias := 72, written := plain.length, first := true
      output := if plain = [] then [] else plain ++ ['-'] }
  ((others.mergeSort).eraseDups.foldl (insert (label.map Char.toNat)) start).output

/-! ## Decoding -/

/-- Puts in one character for each number that is left: the number says how many places are passed,
from place `i` and code point `n` on, where each round through the label raises the code point. -/
def decodeFrom (n i bias : Nat) (first : Bool) (label code : List Char) : Option (List Char) :=
  if code = [] then some label
  else
    match h : number? 36 bias 1 code with
    | none => none
    | some (delta, rest) =>
      let size := label.length + 1
      let n' := n + (i + delta) / size
      let place := (i + delta) % size
      if i + delta < UInt32.size ∧ n'.isValidChar then
        decodeFrom n' (place + 1) (adapt delta size first) false
          (label.insertIdx place (Char.ofNat n')) rest
      else none
termination_by code.length
decreasing_by exact length_lt_of_number? h

/-- The characters before the last `-`, and the digits behind it.  A `-` in front is no separator. -/
def cutPlain (code : List Char) : List Char × List Char :=
  match code.reverse.span (· ≠ '-') with
  | (digits, _ :: plain@(_ :: _)) => (plain.reverse, digits.reverse)
  | _ => ([], code)

/-- The label of a code. -/
def decode? (code : List Char) : Option (List Char) :=
  let (plain, digits) := cutPlain code
  if plain.all (·.toNat < 128) then decodeFrom 128 0 72 true plain digits else none

end AddressedStorage.Punycode
