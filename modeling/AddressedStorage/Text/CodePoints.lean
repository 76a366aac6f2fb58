import Std.Data.HashMap
import AddressedStorage.Bytes.Hex
import AddressedStorage.Text.Pieces

/-!
# Text/CodePoints — tables of characters

Properties of characters come as tables of code points in hexadecimal, all of them those of Unicode
17.  A `CharSet` is written as its ranges in ascending order: `30-39 5F` holds the digits and the low
line.  A `CharMap` is written in runs: behind `C0:` come the images of U+00C0 and of the characters
that follow it, `61.62` for two characters, `61-63` for the images of three characters in a row, and
`=` where a character has none.
-/

namespace AddressedStorage

/-- A number in hexadecimal. -/
def CodePoint.ofHex (digits : List Char) : Nat :=
  digits.foldl (fun n c => 16 * n + (Hex.digit? c).getD 0) 0

/-- The words of a table. -/
def CodePoint.words (text : String) : List (List Char) :=
  (pieces (fun c => c == ' ' || c == '\n') text.toList).filter (· ≠ [])

/-- A range `A-B`, or `A` alone, as its two ends. -/
def CodePoint.range (word : List Char) : Nat × Nat :=
  match word.span (· ≠ '-') with
  | (first, _ :: last) => (ofHex first, ofHex last)
  | (first, []) => (ofHex first, ofHex first)

/-! ## Sets -/

/-- A set of characters: ranges of code points, in ascending order. -/
structure CharSet where
  ranges : List (Nat × Nat)

namespace CharSet

/-- Reads a set. -/
def ofText (text : String) : CharSet := ⟨(CodePoint.words text).map CodePoint.range⟩

/-- Whether a number lies in one of ascending ranges. -/
def covers (n : Nat) : List (Nat × Nat) → Bool
  | [] => false
  | (lo, hi) :: rest => decide (lo ≤ n) && (decide (n ≤ hi) || covers n rest)

/-- Whether a character is in the set. -/
def contains (s : CharSet) (c : Char) : Bool := covers c.toNat s.ranges

end CharSet

/-! ## Maps -/

/-- A map from some characters, looked up by their code points, to texts. -/
structure CharMap where
  images : Std.HashMap Nat (List Char)

namespace CharMap

/-- Whether a character has an image. -/
def contains (m : CharMap) (c : Char) : Bool := m.images.contains c.toNat

/-- The image of a character: itself, if the map has none. -/
def image (m : CharMap) (c : Char) : List Char := m.images.getD c.toNat [c]

/-- Where the reading of a map stands: the code point whose image comes next, and what is read. -/
structure Reading where
  next : Nat
  images : Std.HashMap Nat (List Char)

/-- Takes in the images of a row of characters. -/
def Reading.take (r : Reading) (images : List (List Char)) : Reading :=
  images.foldl (fun r image => ⟨r.next + 1, r.images.insert r.next image⟩) r

/-- Takes in a word. -/
def Reading.step (r : Reading) (word : List Char) : Reading :=
  if word.getLast? = some ':' then { r with next := CodePoint.ofHex word.dropLast }
  else if word = ['='] then { r with next := r.next + 1 }
  else if '-' ∈ word then
    let (lo, hi) := CodePoint.range word
    r.take ((List.range (hi + 1 - lo)).map fun i => [Char.ofNat (lo + i)])
  else r.take [(pieces (· == '.') word).map fun digits => Char.ofNat (CodePoint.ofHex digits)]

/-- Reads a map. -/
def ofText (text : String) : CharMap :=
  ⟨((CodePoint.words text).foldl Reading.step ⟨0, ∅⟩).images⟩

end CharMap

end AddressedStorage
