import AddressedStorage.Car.Cbor
import AddressedStorage.Dag.File

/-!
# Car/Archive — blocks in one CAR archive

An archive is a header that names its roots, then the blocks.  Header and blocks are each framed by
their length as a varint; a block is its identifier followed by its bytes.
-/

namespace AddressedStorage.Car

/-- The version every header states. -/
def version : Nat := 1

/-- The tag of an identifier inside the header. -/
def cidTag : Nat := 42

/-- An identifier inside the header: tagged bytes with a zero in front. -/
def rootLink (c : Cid) : List UInt8 := Cbor.head .tag cidTag ++ Cbor.bytes (0 :: c.toBytes)

/-- The header: a map of the roots and the version, the shorter key first. -/
def header (roots : List Cid) : List UInt8 :=
  Cbor.head .map 2 ++
    (Cbor.text "roots" ++ (Cbor.head .array roots.length ++ roots.flatMap rootLink)) ++
    (Cbor.text "version" ++ Cbor.head .unsigned version)

/-- Bytes behind their length. -/
def frame (content : ByteArray) : ByteArray :=
  (Varint.encode content.size).toByteArray ++ content

/-- The framed section of a block. -/
def blockSection (b : Dag.Block) : ByteArray := frame (b.cid.toBytes.toByteArray ++ b.data)

/-- The archive of the given roots and blocks, in order.  Nothing checks that the two fit. -/
def encode (roots : List Cid) (blocks : List Dag.Block) : Except AddressingError ByteArray :=
  if roots = [] then .error .noRoots
  else .ok (blocks.foldl (fun written b => written ++ blockSection b) (frame (header roots).toByteArray))

/-- A payload packed as one archive. -/
structure Archive where
  bytes : ByteArray
  /-- The identifier of the payload. -/
  root : Cid
  /-- The identifier of the archive itself. -/
  shard : Cid
  deriving DecidableEq, Inhabited

/-- Packs a payload: its blocks in order under its root. -/
def pack (hash : HashFunction) (content : ByteArray) : Except AddressingError Archive := do
  let dag ← Dag.build hash content
  let bytes ← encode [dag.root] dag.blocks
  return { bytes, root := dag.root, shard := .v1 .car (hash bytes) }

end AddressedStorage.Car
