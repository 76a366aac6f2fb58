import AddressedStorage.Wire.Field

/-!
# Dag/UnixFs — what a node says about a file

The payload of a DAG-PB node says what kind of thing the node is, how large it is, and how its bytes
are spread over the children.  A leaf carries its bytes; a root carries none and lists the sizes of
its leaves.
-/

namespace AddressedStorage.Dag

/-- The kinds of node that have a name. -/
inductive NodeKind where
  | raw
  | directory
  | file
  | metadata
  | symlink
  | hamtShard
  deriving DecidableEq, Repr, Inhabited

namespace NodeKind

/-- The number of a kind. -/
def code : NodeKind → Int32
  | raw => 0
  | directory => 1
  | file => 2
  | metadata => 3
  | symlink => 4
  | hamtShard => 5

/-- The word for a kind. -/
def name : NodeKind → String
  | raw => "Raw"
  | directory => "Directory"
  | file => "File"
  | metadata => "Metadata"
  | symlink => "Symlink"
  | hamtShard => "HamtShard"

/-- The kind with a number. -/
def ofCode? (n : Int32) : Option NodeKind :=
  [raw, directory, file, metadata, symlink, hamtShard].find? (·.code = n)

/-- A kind is read back from its number. -/
@[simp] theorem ofCode?_code (k : NodeKind) : ofCode? k.code = some k := by cases k <;> rfl

end NodeKind

/-- The payload of a node.  The kind is any number, also one without a name. -/
structure UnixFs where
  kind : Int32
  data : Option ByteArray
  filesize : Option UInt64
  blocksizes : List UInt64
  deriving DecidableEq, Inhabited

namespace UnixFs

/-- A leaf that carries one chunk of a file.  An empty chunk is left out. -/
def fileLeaf (chunk : ByteArray) : UnixFs where
  kind := NodeKind.file.code
  data := if chunk.size = 0 then none else some chunk
  filesize := some chunk.size.toUInt64
  blocksizes := []

/-- The root of a file cut into chunks of the given sizes. -/
def fileRoot (sizes : List UInt64) : UnixFs where
  kind := NodeKind.file.code
  data := none
  filesize := some (sizes.foldl (· + ·) 0)
  blocksizes := sizes

/-- The fields in order of number.  The kind is always there, as a 64-bit number; the sizes are not
packed. -/
def fields (u : UnixFs) : List Wire.Field :=
  ⟨1, .varint u.kind.toInt64.toUInt64⟩ ::
    (u.data.map fun d => ⟨2, .bytes d⟩).toList ++
    (u.filesize.map fun n => ⟨3, .varint n⟩).toList ++
    u.blocksizes.map fun n => ⟨4, .varint n⟩

/-- The serialized payload. -/
def encode (u : UnixFs) : ByteArray := Wire.encode u.fields

/-- The length of the serialized payload, counted without writing it. -/
def encodedLength (u : UnixFs) : Nat := Wire.encodedLength u.fields

/-- A kind is the low 32 bits of its field. -/
def kindOfField (n : UInt64) : Int32 := n.toUInt32.toInt32

/-- The payload a field list describes.  A missing kind is zero, and runs of sizes may be packed. -/
def ofFields? (fields : List Wire.Field) : Option UnixFs := do
  let kind ← Wire.last? 1 Wire.Value.varint? fields
  let data ← Wire.last? 2 Wire.Value.bytes? fields
  let filesize ← Wire.last? 3 Wire.Value.varint? fields
  let sizes ← Wire.all? 4 Wire.Value.varints? fields
  return { kind := (kind.map kindOfField).getD 0, data, filesize, blocksizes := sizes.flatten }

/-- Reads a serialized payload. -/
def decode? (bytes : ByteArray) : Option UnixFs := do
  ofFields? (← Wire.decode? bytes.data.toList)

end UnixFs

end AddressedStorage.Dag
