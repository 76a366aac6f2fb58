import AddressedStorage.Document.Basic

/-!
# Document/Shortest — decimal numbers as text

A decimal is kept to double precision: `nearest` is the multiple of a power of two that it rounds to.
Its text has the fewest digits that round to the same double and, of those, the digits nearest to it.
-/

namespace AddressedStorage

/-- The number `mantissa · 2 ^ exponent`, of at most 53 bits. -/
structure Binary where
  mantissa : Nat
  exponent : Int
  deriving DecidableEq, Repr

namespace Binary

/-- Where the mantissas end: they have 53 bits. -/
def limit : Nat := 1 <<< 53

/-- The least exponent. -/
def minExponent : Int := -1074

/-- A quotient rounded to the nearest integer, a half to the even neighbour. -/
def roundDiv (num den : Nat) : Nat :=
  let q := num / den
  let r := num % den
  if 2 * r < den ∨ (2 * r = den ∧ q % 2 = 0) then q else q + 1

/-- A quotient in units of `2 ^ exponent`. -/
def inUnits (num den : Nat) (exponent : Int) : Nat :=
  roundDiv (num <<< (-exponent).toNat) (den <<< exponent.toNat)

/-- The number of at most 53 bits next to a quotient. -/
def ofQuotient (num den : Nat) : Binary :=
  let e := max minExponent ((Nat.log2 num : Int) - Nat.log2 den - 53)
  let m := inUnits num den e
  if m < limit then ⟨m, e⟩
  else
    let m := inUnits num den (e + 1)
    if m < limit then ⟨m, e + 1⟩ else ⟨m / 2, e + 2⟩

/-- Whether `digits · 10 ^ power` rounds to the number: whether it lies between the midpoints to its
neighbours, or on one if the mantissa is even. -/
def isNear (b : Binary) (digits : Nat) (power : Int) : Bool :=
  let unit := b.exponent - 2
  let scale (x : Nat) : Nat := (x * Nat.pow 10 (-power).toNat) <<< unit.toNat
  let value := (digits * Nat.pow 10 power.toNat) <<< (-unit).toNat
  let below := if 2 * b.mantissa = limit ∧ minExponent < b.exponent then 1 else 2
  let low := scale (4 * b.mantissa - below)
  let high := scale (4 * b.mantissa + 2)
  if b.mantissa % 2 = 0 then low ≤ value && value ≤ high else low < value && value < high

/-- The quotient of the number by `10 ^ power`. -/
def quotient (b : Binary) (power : Int) : Nat × Nat :=
  ((b.mantissa <<< b.exponent.toNat) * Nat.pow 10 (-power).toNat,
    (1 <<< (-b.exponent).toNat) * Nat.pow 10 power.toNat)

/-- The multiple of `10 ^ power` next to the number that rounds to it, if there is one. -/
def onGrid? (b : Binary) (power : Int) : Option Nat :=
  let (num, den) := b.quotient power
  let nearest := roundDiv num den
  if b.isNear nearest power then some nearest
  else [num / den, num / den + 1].find? (b.isNear · power)

/-- The place of the leading decimal digit. -/
def leading (b : Binary) : Int :=
  let (num, den) := b.quotient 0
  if den ≤ num then (Decimal.width (num / den) : Int) - 1
  else -((Decimal.width ((den - 1) / num) : Nat) : Int)

/-- The fewest digits that round to the number, and the power of ten of the last. -/
def shortest (b : Binary) : Nat × Int :=
  let powers := (List.range 18).map fun i => b.leading - (i : Nat)
  match powers.findSome? fun p => (b.onGrid? p).map (·, p) with
  | some r => r
  | none => (b.mantissa, 0)

end Binary

namespace Decimal

/-- The double a magnitude rounds to. -/
def nearest (d : Decimal) : Binary :=
  if d.digits = 0 ∨ d.exponent + width d.digits < -400 then ⟨0, 0⟩
  else
    .ofQuotient (d.digits * Nat.pow 10 d.exponent.toNat) (Nat.pow 10 (-d.exponent).toNat)

/-- Digits with the decimal point `point` places behind the first one's front: positional up to
sixteen places before the point and five zeros behind it, and with an exponent beyond. -/
def place (digits : List Char) (point : Int) : List Char :=
  let n := digits.length
  if (n : Int) ≤ point ∧ point ≤ 16 then
    digits ++ List.replicate (point.toNat - n) '0' ++ ['.', '0']
  else if 0 < point ∧ point ≤ 16 then digits.take point.toNat ++ '.' :: digits.drop point.toNat
  else if -5 < point ∧ point ≤ 0 then
    '0' :: '.' :: List.replicate (-point).toNat '0' ++ digits
  else
    let front := if n = 1 then digits else digits.take 1 ++ '.' :: digits.drop 1
    front ++ 'e' :: (ToString.toString (point - 1)).toList

/-- Digits without the zeros at their end, and how many those were. -/
def trimZeros (digits : List Char) : List Char × Nat :=
  let kept := (digits.reverse.dropWhile (· = '0')).reverse
  (kept, digits.length - kept.length)

/-- The number as text. -/
def text (d : Decimal) : List Char :=
  let b := d.nearest
  let magnitude :=
    if b.mantissa = 0 then ['0', '.', '0']
    else
      let (digits, power) := b.shortest
      let (kept, zeros) := trimZeros (Nat.toDigits 10 digits)
      place kept (power + zeros + kept.length)
  if d.negative then '-' :: magnitude else magnitude

end Decimal

end AddressedStorage
