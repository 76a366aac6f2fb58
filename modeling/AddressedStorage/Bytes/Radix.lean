/-!
# Bytes/Radix — positional numerals

A numeral is a list of digits, most significant first.  `value b` is the number a numeral names,
`digits b` the shortest numeral of a number and `padded b w` its numeral of width `w`; every text
encoding of bytes in this library changes base through these three.
-/

namespace AddressedStorage.Radix

/-- The number a numeral names in base `b`. -/
def value (b : Nat) (ds : List Nat) : Nat := ds.foldl (fun n d => n * b + d) 0

/-- The digits of `n` in base `b`, written in front of `acc`.  Below base two there are none. -/
def digitsOnto (b n : Nat) (acc : List Nat) : List Nat :=
  if 2 ≤ b ∧ 0 < n then digitsOnto b (n / b) (n % b :: acc) else acc
termination_by n
decreasing_by exact Nat.div_lt_self (by omega) (by omega)

/-- The shortest numeral of `n` in base `b`: zero has no digits. -/
def digits (b n : Nat) : List Nat := digitsOnto b n []

/-- The lowest `w` digits of `n` in base `b`, written in front of `acc`. -/
def paddedOnto (b : Nat) : (w n : Nat) → (acc : List Nat) → List Nat
  | 0, _, acc => acc
  | w + 1, n, acc => paddedOnto b w (n / b) (n % b :: acc)

/-- The numeral of width `w` in base `b`: the lowest `w` digits, zeros in front. -/
def padded (b w n : Nat) : List Nat := paddedOnto b w n []

theorem length_paddedOnto (b : Nat) : ∀ (w n : Nat) (acc : List Nat),
    (paddedOnto b w n acc).length = w + acc.length
  | 0, _, _ => by simp [paddedOnto]
  | w + 1, n, acc => by
      rw [paddedOnto, length_paddedOnto b w]
      simp only [List.length_cons]
      omega

/-- A padded numeral has its width. -/
@[simp] theorem length_padded (b w n : Nat) : (padded b w n).length = w := by
  simp [padded, length_paddedOnto]

/-- A digit is worth its place: reading one more digit multiplies by the base. -/
theorem value_concat (b : Nat) (ds : List Nat) (d : Nat) :
    value b (ds ++ [d]) = value b ds * b + d := by
  simp [value]

/-- The number a byte string names, first byte most significant. -/
def ofBytes (bytes : List UInt8) : Nat := value 256 (bytes.map UInt8.toNat)

/-- The shortest byte string that names `n`. -/
def toBytes (n : Nat) : List UInt8 := (digits 256 n).map Nat.toUInt8

/-- The byte string of width `w` that names `n`. -/
def toPaddedBytes (w n : Nat) : List UInt8 := (padded 256 w n).map Nat.toUInt8

/-- Reads a numeral of `k`-bit digits as bytes.  Bits past the last whole byte are left over and
come back beside the bytes. -/
def bytesOfBits (k : Nat) (ds : List Nat) : List UInt8 × Nat :=
  let bits := k * ds.length
  let spare := 1 <<< (bits % 8)
  let n := value (1 <<< k) ds
  (toPaddedBytes (bits / 8) (n / spare), n % spare)

/-- Writes bytes as `k`-bit digits, filling the last digit with zero bits. -/
def bitsOfBytes (k : Nat) (bytes : List UInt8) : List Nat :=
  let bits := 8 * bytes.length
  let width := (bits + k - 1) / k
  padded (1 <<< k) width (ofBytes bytes <<< (width * k - bits))

end AddressedStorage.Radix
