import AddressedStorage.Text.Composed.Table
import AddressedStorage.Text.Mark

/-!
# Text/Composed — one spelling for letters with marks

A letter with marks can be one character or several.  `compose (decompose text)` is the same for all
spellings of a text: characters are taken apart, the marks of each letter put in order, and what has a
character of its own is put together again.
-/

namespace AddressedStorage.Composed

/-! ## Hangul syllables

A syllable is a leading consonant, a vowel and perhaps a trailing consonant; its code point counts
through all of them. -/

/-- The first syllable. -/
def syllableBase : Nat := 0xAC00

/-- The first leading consonant. -/
def leadingBase : Nat := 0x1100

/-- The first vowel. -/
def vowelBase : Nat := 0x1161

/-- One before the first trailing consonant: no consonant. -/
def trailingBase : Nat := 0x11A7

/-- The letters of a syllable. -/
def letters? (c : Char) : Option (List Char) :=
  if syllableBase ≤ c.toNat ∧ c.toNat < syllableBase + 19 * 21 * 28 then
    let n := c.toNat - syllableBase
    some ([Char.ofNat (leadingBase + n / 28 / 21), Char.ofNat (vowelBase + n / 28 % 21)] ++
      if n % 28 = 0 then [] else [Char.ofNat (trailingBase + n % 28)])
  else none

/-- The syllable of a consonant and a vowel, or of such a syllable and a trailing consonant. -/
def syllable? (s c : Char) : Option Char :=
  let (m, n) := (s.toNat, c.toNat)
  if leadingBase ≤ m ∧ m < leadingBase + 19 ∧ vowelBase ≤ n ∧ n < vowelBase + 21 then
    some (Char.ofNat (syllableBase + ((m - leadingBase) * 21 + (n - vowelBase)) * 28))
  else if syllableBase ≤ m ∧ m < syllableBase + 19 * 21 * 28 ∧ (m - syllableBase) % 28 = 0 ∧
      trailingBase < n ∧ n < trailingBase + 28 then
    some (Char.ofNat (m + (n - trailingBase)))
  else none

/-! ## Taking apart -/

/-- What one character is composed of: itself, if it is not composed. -/
def parts (c : Char) : List Char := (letters? c).getD (decompositions.image c)

/-- Puts a character in front of a text whose marks are in order. -/
def place (c : Char) : List Char → List Char
  | [] => [c]
  | d :: rest =>
    if 0 < markClass d ∧ markClass d < markClass c then d :: place c rest else c :: d :: rest

/-- A text with the marks between letters in the order of their classes. -/
def arrange (text : List Char) : List Char := text.foldr place []

/-- A text taken apart. -/
def decompose (text : List Char) : List Char := arrange (text.flatMap parts)

/-! ## Putting together -/

/-- The composed characters, by the code points that they are composed of. -/
def compositions : Std.HashMap (List Nat) Char :=
  decompositions.images.fold
    (fun m n parts =>
      if neverComposed.contains (Char.ofNat n) then m
      else m.insert (parts.map Char.toNat) (Char.ofNat n)) ∅

/-- The character that a letter and one more character make. -/
def pair? (s c : Char) : Option Char :=
  (syllable? s c).or compositions[(parts s ++ [c]).map Char.toNat]?

/-- Whether a character can reach the letter past the marks between them: their classes are less
than its own. -/
def reaches (between : List Char) (c : Char) : Bool :=
  between.getLast?.all fun d => markClass d < markClass c

/-- Puts a text together from a letter on, with the marks that stay behind it. -/
def composeFrom (s : Char) (between : List Char) : List Char → List Char
  | [] => s :: between
  | c :: rest =>
    match if reaches between c then pair? s c else none with
    | some t => composeFrom t between rest
    | none =>
      if markClass c = 0 then s :: between ++ composeFrom c [] rest
      else composeFrom s (between ++ [c]) rest

/-- A text put together.  Marks before the first letter stay as they are. -/
def compose : List Char → List Char
  | [] => []
  | c :: rest => if markClass c = 0 then composeFrom c [] rest else c :: compose rest

/-- The one spelling of a text. -/
def ofText (text : List Char) : List Char := compose (decompose text)

end AddressedStorage.Composed
