import AddressedStorage.Car.Archive

/-!
# Car/Contents — what is in an archive

An archive is read back from its frames alone: the header names the roots, and in every later frame
the identifier tells where it ends and the bytes of its block begin.  Nothing may be left over.
-/

namespace AddressedStorage.Car

/-- The roots and the blocks of an archive, in order. -/
structure Contents where
  roots : List Cid
  blocks : List Dag.Block
  deriving DecidableEq

/-- Reads one frame and returns what follows it. -/
def readFrame? (bytes : List UInt8) : Option (List UInt8 × List UInt8) := do
  let (n, rest) ← Varint.read? bytes
  Bytes.splitExactly? n rest

/-- A frame takes at least one byte. -/
theorem length_readFrame? {bytes framed rest : List UInt8}
    (h : readFrame? bytes = some (framed, rest)) : rest.length < bytes.length := by
  simp only [readFrame?, Option.bind_eq_bind, Option.bind_eq_some_iff, Prod.exists] at h
  obtain ⟨n, tail, hn, hs⟩ := h
  exact Nat.lt_of_le_of_lt (Bytes.length_splitExactly? hs) (Varint.length_decodeWithin hn)

/-- Reads a root of the header and returns what follows it. -/
def readRoot? (bytes : List UInt8) : Option (Cid × List UInt8) := do
  let rest ← Cbor.skip? (Cbor.head .tag cidTag) bytes
  match ← Cbor.readBytes? rest with
  | (0 :: link, rest) => return (← (Cid.ofBytes link).toOption, rest)
  | _ => none

/-- Reads `n` roots and returns what follows them. -/
def readRoots? : (n : Nat) → List UInt8 → Option (List Cid × List UInt8)
  | 0, bytes => some ([], bytes)
  | n + 1, bytes => do
    let (root, rest) ← readRoot? bytes
    let (roots, rest) ← readRoots? n rest
    return (root :: roots, rest)

/-- Reads the roots a header names. -/
def readHeader? (bytes : List UInt8) : Option (List Cid) := do
  let rest ← Cbor.skip? (Cbor.head .map 2 ++ Cbor.text "roots") bytes
  let (n, rest) ← Cbor.readHead? .array rest
  let (roots, rest) ← readRoots? n rest
  let rest ← Cbor.skip? (Cbor.text "version" ++ Cbor.head .unsigned version) rest
  if rest = [] then some roots else none

/-- Reads the block in a frame. -/
def readBlock? (framed : List UInt8) : Option Dag.Block :=
  (Cid.front? framed).map fun (cid, data) => ⟨cid, data.toByteArray⟩

/-- Reads frames up to the end, one block in each. -/
def readBlocks? (bytes : List UInt8) : Option (List Dag.Block) :=
  if bytes = [] then some []
  else
    match _h : readFrame? bytes with
    | none => none
    | some (framed, rest) => do
      let block ← readBlock? framed
      return block :: (← readBlocks? rest)
termination_by bytes.length
decreasing_by exact length_readFrame? _h

/-- Reads an archive. -/
def Contents.ofBytes? (archive : ByteArray) : Option Contents := do
  let (framed, rest) ← readFrame? archive.data.toList
  return { roots := ← readHeader? framed, blocks := ← readBlocks? rest }

end AddressedStorage.Car
