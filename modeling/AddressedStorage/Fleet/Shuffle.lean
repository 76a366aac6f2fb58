/-!
# Fleet/Shuffle — a random order

Places are swapped from the last down, each with one drawn from the places up to it.  A draw below
`range` takes 32-bit outputs of a generator until one falls in the zone where every place is equally
likely.  The generator is a list of outputs, repeated forever.
-/

namespace AddressedStorage.Shuffle

/-- A generator: its outputs, and those still to come before they start over. -/
structure Generator where
  outputs : List UInt32
  upcoming : List UInt32
  deriving DecidableEq, Repr

/-- The generator that repeats a list of outputs. -/
def Generator.ofList (outputs : List UInt32) : Generator where
  outputs := outputs
  upcoming := outputs

/-- The next output, zero if there are none. -/
def Generator.next (g : Generator) : UInt32 × Generator :=
  match g.upcoming, g.outputs with
  | x :: rest, _ => (x, { g with upcoming := rest })
  | [], x :: rest => (x, { g with upcoming := rest })
  | [], [] => (0, g)

/-- The largest low half of a product that is accepted. -/
def zone (range : Nat) : Nat := (range <<< (31 - Nat.log2 range)) - 1

/-- Draws a number below `range` with at most `tries` further outputs refused.  A generator that
repeats fewer outputs than that either has one that is accepted or never will. -/
def drawWithin (range : Nat) : (tries : Nat) → Generator → Nat × Generator
  | 0, g => (0, g)
  | tries + 1, g =>
    let (x, g) := g.next
    let product := x.toNat * range
    if product % UInt32.size ≤ zone range then (product / UInt32.size, g)
    else drawWithin range tries g

/-- Draws a number below `range`. -/
def draw (range : Nat) (g : Generator) : Nat × Generator :=
  drawWithin range (g.outputs.length + 1) g

/-- Swaps the places from `i` down to the second. -/
def swapDown {α : Type} : (i : Nat) → Array α → Generator → Array α
  | 0, xs, _ => xs
  | i + 1, xs, g =>
    let (j, g) := draw (i + 2) g
    swapDown i (xs.swapIfInBounds (i + 1) j) g

/-- The elements in a random order. -/
def shuffle {α : Type} (xs : Array α) (g : Generator) : Array α := swapDown (xs.size - 1) xs g

/-! ## Nothing is lost -/

variable {α : Type}

theorem swapIfInBounds_perm (xs : Array α) (i j : Nat) : (xs.swapIfInBounds i j).Perm xs := by
  rw [Array.swapIfInBounds_def]
  split
  · split
    · exact Array.swap_perm _ _
    · exact .rfl
  · exact .rfl

theorem swapDown_perm (i : Nat) (xs : Array α) (g : Generator) : (swapDown i xs g).Perm xs := by
  induction i generalizing xs g with
  | zero => exact .rfl
  | succ i ih =>
    rw [swapDown]
    exact (ih _ _).trans (swapIfInBounds_perm xs _ _)

/-- **Every element is still there, as often as before**, whatever the generator puts out. -/
theorem shuffle_perm (xs : Array α) (g : Generator) : (shuffle xs g).Perm xs :=
  swapDown_perm _ xs g

end AddressedStorage.Shuffle
