import AddressedStorage.Digest.Basic

/-!
# Digest/Sha256 — the SHA-256 hash function

A message is padded to whole 64-byte blocks (`pad`); each block is spread over 64 words (`schedule`)
and stirred into eight words of state by 64 rounds (`compress`).
-/

namespace AddressedStorage.Sha256

/-- The eight words carried from block to block. -/
structure State where
  a : UInt32
  b : UInt32
  c : UInt32
  d : UInt32
  e : UInt32
  f : UInt32
  g : UInt32
  h : UInt32
  deriving DecidableEq, Repr

/-- The state before the first block. -/
def State.initial : State where
  a := 0x6a09e667
  b := 0xbb67ae85
  c := 0x3c6ef372
  d := 0xa54ff53a
  e := 0x510e527f
  f := 0x9b05688c
  g := 0x1f83d9ab
  h := 0x5be0cd19

/-- Wordwise sum. -/
def State.add (s t : State) : State where
  a := s.a + t.a
  b := s.b + t.b
  c := s.c + t.c
  d := s.d + t.d
  e := s.e + t.e
  f := s.f + t.f
  g := s.g + t.g
  h := s.h + t.h

/-- The round constants. -/
def constants : Array UInt32 := #[
  0x428a2f98, 0x71374491, 0xb5c0fbcf, 0xe9b5dba5, 0x3956c25b, 0x59f111f1, 0x923f82a4, 0xab1c5ed5,
  0xd807aa98, 0x12835b01, 0x243185be, 0x550c7dc3, 0x72be5d74, 0x80deb1fe, 0x9bdc06a7, 0xc19bf174,
  0xe49b69c1, 0xefbe4786, 0x0fc19dc6, 0x240ca1cc, 0x2de92c6f, 0x4a7484aa, 0x5cb0a9dc, 0x76f988da,
  0x983e5152, 0xa831c66d, 0xb00327c8, 0xbf597fc7, 0xc6e00bf3, 0xd5a79147, 0x06ca6351, 0x14292967,
  0x27b70a85, 0x2e1b2138, 0x4d2c6dfc, 0x53380d13, 0x650a7354, 0x766a0abb, 0x81c2c92e, 0x92722c85,
  0xa2bfe8a1, 0xa81a664b, 0xc24b8b70, 0xc76c51a3, 0xd192e819, 0xd6990624, 0xf40e3585, 0x106aa070,
  0x19a4c116, 0x1e376c08, 0x2748774c, 0x34b0bcb5, 0x391c0cb3, 0x4ed8aa4a, 0x5b9cca4f, 0x682e6ff3,
  0x748f82ee, 0x78a5636f, 0x84c87814, 0x8cc70208, 0x90befffa, 0xa4506ceb, 0xbef9a3f7, 0xc67178f2]

/-- Rotation to the right. -/
@[inline] def rotr (x n : UInt32) : UInt32 := (x >>> n) ||| (x <<< (32 - n))

/-- The byte at a position, zero past the end. -/
@[inline] def byteAt (m : ByteArray) (i : Nat) : UInt32 :=
  if h : i < m.size then m[i].toUInt32 else 0

/-- The big-endian word at a position. -/
@[inline] def wordAt (m : ByteArray) (i : Nat) : UInt32 :=
  (byteAt m i <<< 24) ||| (byteAt m (i + 1) <<< 16) ||| (byteAt m (i + 2) <<< 8) ||| byteAt m (i + 3)

/-- The 16 words of the block at `offset`, pushed one by one. -/
def blockWords (m : ByteArray) : (n offset : Nat) → Array UInt32 → Array UInt32
  | 0, _, w => w
  | n + 1, offset, w => blockWords m n (offset + 4) (w.push (wordAt m offset))

/-- Appends `n` words, each mixed from the words 16, 15, 7 and 2 places before it. -/
def extend : (n : Nat) → Array UInt32 → Array UInt32
  | 0, w => w
  | n + 1, w =>
    let t := w.size
    let x := w.getD (t - 15) 0
    let y := w.getD (t - 2) 0
    let s0 := rotr x 7 ^^^ rotr x 18 ^^^ (x >>> 3)
    let s1 := rotr y 17 ^^^ rotr y 19 ^^^ (y >>> 10)
    extend n (w.push (w.getD (t - 16) 0 + s0 + w.getD (t - 7) 0 + s1))

/-- The 64 words of the block at `offset`. -/
def schedule (m : ByteArray) (offset : Nat) : Array UInt32 :=
  extend 48 (blockWords m 16 offset (Array.mkEmpty 64))

/-- The last `n` of the 64 rounds. -/
def rounds (w : Array UInt32) : (n : Nat) → (a b c d e f g h : UInt32) → State
  | 0, a, b, c, d, e, f, g, h => { a, b, c, d, e, f, g, h }
  | n + 1, a, b, c, d, e, f, g, h =>
    let i := 63 - n
    let s1 := rotr e 6 ^^^ rotr e 11 ^^^ rotr e 25
    let ch := (e &&& f) ^^^ (~~~e &&& g)
    let t1 := h + s1 + ch + constants.getD i 0 + w.getD i 0
    let s0 := rotr a 2 ^^^ rotr a 13 ^^^ rotr a 22
    let maj := (a &&& b) ^^^ (a &&& c) ^^^ (b &&& c)
    rounds w n (t1 + (s0 + maj)) a b c (d + t1) e f g

/-- Stirs the block at `offset` into a state. -/
def compress (m : ByteArray) (offset : Nat) (s : State) : State :=
  s.add (rounds (schedule m offset) 64 s.a s.b s.c s.d s.e s.f s.g s.h)

/-- Stirs in `n` blocks from `offset` on. -/
def absorb (m : ByteArray) : (n offset : Nat) → State → State
  | 0, _, s => s
  | n + 1, offset, s => absorb m n (offset + 64) (compress m offset s)

/-- The four bytes of a word, highest first. -/
def wordBytes (x : UInt32) : List UInt8 :=
  [(x >>> 24).toUInt8, (x >>> 16).toUInt8, (x >>> 8).toUInt8, x.toUInt8]

/-- The length in bits, as eight bytes. -/
def lengthBytes (n : Nat) : List UInt8 :=
  let bits := 8 * n
  wordBytes (bits >>> 32).toUInt32 ++ wordBytes bits.toUInt32

/-- The message filled up to whole blocks: one set bit, zeros, and the length in bits. -/
def pad (m : ByteArray) : ByteArray :=
  m ++ (0x80 :: List.replicate ((119 - m.size % 64) % 64) 0 ++ lengthBytes m.size).toByteArray

/-- The bytes of a state. -/
def State.toBytes (s : State) : List UInt8 :=
  wordBytes s.a ++ wordBytes s.b ++ wordBytes s.c ++ wordBytes s.d ++
    wordBytes s.e ++ wordBytes s.f ++ wordBytes s.g ++ wordBytes s.h

/-- A state has 32 bytes. -/
@[simp] theorem State.length_toBytes (s : State) : s.toBytes.length = 32 := rfl

/-- The SHA-256 digest of a message. -/
def digest (m : ByteArray) : Digest :=
  let padded := pad m
  let s := absorb padded (padded.size / 64) 0 State.initial
  ⟨s.toBytes.toByteArray, by simp⟩

end AddressedStorage.Sha256
