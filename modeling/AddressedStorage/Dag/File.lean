import AddressedStorage.Cid.Binary
import AddressedStorage.Dag.Node
import AddressedStorage.Dag.UnixFs

/-!
# Dag/File — the blocks of a file

A payload is cut into chunks of `chunkSize` bytes.  One chunk makes one leaf, which is the root;
more make one root that links the leaves in order.  The root holds at most `maxLinks` links, so a
payload over `maxContentLength` is refused.

The identifier of a payload is that of its root (`contentCid_eq`).  It depends on the hash function
alone, so it is computed the same way by whoever holds the bytes (`contentCid`).
-/

namespace AddressedStorage

/-- Why content has no identifier or no archive. -/
inductive AddressingError where
  /-- The payload needs more leaves than a root can link. -/
  | contentTooLarge (size max : Nat)
  /-- An archive must name at least one root. -/
  | noRoots
  /-- An archive header could not be written. -/
  | carHeader (reason : String)
  /-- The identifier to compare with has no version-0 form. -/
  | identifier (cause : FormatError)
  deriving DecidableEq, Repr

/-- The wording of a refusal. -/
def AddressingError.message : AddressingError → String
  | contentTooLarge size max =>
    s!"content too large for a single-level DAG: {size} bytes (max {max})"
  | noRoots => "CAR archive needs at least one root"
  | carHeader reason => s!"failed to encode CAR header: {reason}"
  | identifier cause => cause.message

namespace Dag

/-- The size of every chunk but the last. -/
def chunkSize : Nat := 262144

/-- The most links in one root. -/
def maxLinks : Nat := 174

/-- The largest payload one root can hold. -/
def maxContentLength : Nat := chunkSize * maxLinks

/-- A serialized block and its identifier. -/
structure Block where
  cid : Cid
  data : ByteArray
  deriving DecidableEq, Inhabited

/-- The blocks of a file: leaves in payload order, the root last. -/
structure FileDag where
  root : Cid
  blocks : List Block
  deriving DecidableEq, Inhabited

/-- The serialized leaf of one chunk. -/
def leafData (chunk : ByteArray) : ByteArray := (Node.leaf (UnixFs.fileLeaf chunk).encode).encode

/-- The chunks of a payload of more than none bytes. -/
def chunks (content : ByteArray) : List ByteArray :=
  (List.range ((content.size + chunkSize - 1) / chunkSize)).map fun i =>
    content.extract (i * chunkSize) ((i + 1) * chunkSize)

variable (hash : HashFunction)

/-- The block with the given bytes. -/
def Block.ofData (data : ByteArray) : Block := ⟨.v0 (hash data), data⟩

/-- The link to a leaf: its multihash and its size. -/
def leafLink (leaf : Block) : Link :=
  .unnamed leaf.cid.multihash.toByteArray leaf.data.size.toUInt64

/-- The serialized root over the leaves of the given chunks. -/
def rootData (leaves : List Block) (sizes : List Nat) : ByteArray :=
  Node.encode
    { links := leaves.map leafLink
      data := some (UnixFs.fileRoot (sizes.map Nat.toUInt64)).encode }

/-- The single block of a payload of at most one chunk. -/
def singleLeaf (content : ByteArray) : FileDag :=
  let leaf := Block.ofData hash (leafData content)
  { root := leaf.cid, blocks := [leaf] }

/-- The leaves of a payload of several chunks, and their root. -/
def manyLeaves (content : ByteArray) : FileDag :=
  let pieces := chunks content
  let leaves := pieces.map fun chunk => Block.ofData hash (leafData chunk)
  let root := Block.ofData hash (rootData leaves (pieces.map ByteArray.size))
  { root := root.cid, blocks := leaves ++ [root] }

/-- Every block of a payload. -/
def build (content : ByteArray) : Except AddressingError FileDag :=
  if content.size ≤ chunkSize then .ok (singleLeaf hash content)
  else if content.size ≤ maxContentLength then .ok (manyLeaves hash content)
  else .error (.contentTooLarge content.size maxContentLength)

/-- The identifier of a payload.  One chunk is hashed without building anything. -/
def contentCid (content : ByteArray) : Except AddressingError Cid :=
  if content.size ≤ chunkSize then .ok (.v0 (hash (leafData content)))
  else (build hash content).map FileDag.root

/-- **The identifier of a payload is that of its root**, also where nothing is built. -/
theorem contentCid_eq (content : ByteArray) :
    contentCid hash content = (build hash content).map FileDag.root := by
  rw [contentCid]
  split
  · rw [build, if_pos ‹_›]
    rfl
  · rfl

/-- Whether a payload has the expected identifier, in either version. -/
def verify (content : ByteArray) (expected : Cid) : Except AddressingError Bool := do
  let expected ← expected.toV0.mapError .identifier
  return (← contentCid hash content) = expected

end Dag

end AddressedStorage
