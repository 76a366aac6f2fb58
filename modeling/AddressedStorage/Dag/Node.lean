import AddressedStorage.Wire.Field

/-!
# Dag/Node — DAG-PB nodes

A node is a list of links to other blocks and a payload.  The links are written in front of the
payload although their field number is higher; on reading, the order of fields does not matter.
-/

namespace AddressedStorage.Dag

/-- A link to a child block. -/
structure Link where
  /-- The multihash of the child. -/
  hash : Option ByteArray
  name : Option String
  /-- The total size of the child. -/
  tsize : Option UInt64
  deriving DecidableEq, Inhabited

/-- A DAG-PB node. -/
structure Node where
  links : List Link
  data : Option ByteArray
  deriving DecidableEq, Inhabited

namespace Link

/-- A link with an empty name, which is written all the same. -/
def unnamed (hash : ByteArray) (tsize : UInt64) : Link where
  hash := some hash
  name := some ""
  tsize := some tsize

/-- The fields that are present, in order of number. -/
def fields (l : Link) : List Wire.Field :=
  (l.hash.map fun h => ⟨1, .bytes h⟩).toList ++
    (l.name.map fun n => ⟨2, .bytes n.toByteArray⟩).toList ++
    (l.tsize.map fun n => ⟨3, .varint n⟩).toList

/-- The link a field list describes. -/
def ofFields? (fields : List Wire.Field) : Option Link := do
  let hash ← Wire.last? 1 Wire.Value.bytes? fields
  let name ← Wire.last? 2 Wire.Value.text? fields
  let tsize ← Wire.last? 3 Wire.Value.varint? fields
  return { hash, name, tsize }

/-- The link inside a field of a node.  Groups in it have one level less. -/
def ofValue? (v : Wire.Value) : Option Link := do
  ofFields? (← Wire.decodeAt? (Wire.maxDepth - 1) (← v.bytes?).data.toList)

end Link

namespace Node

/-- A node with a payload and no links. -/
def leaf (data : ByteArray) : Node where
  links := []
  data := some data

/-- The links, then the payload. -/
def fields (n : Node) : List Wire.Field :=
  n.links.map (fun l => ⟨2, .bytes (Wire.encode l.fields)⟩) ++
    (n.data.map fun d => ⟨1, .bytes d⟩).toList

/-- The serialized node. -/
def encode (n : Node) : ByteArray := Wire.encode n.fields

/-- The length of the links within a node, counted without writing them. -/
def linksLength : List Link → Nat
  | [] => 0
  | l :: rest =>
    let size := Wire.encodedLength l.fields
    Varint.length 16 + Varint.length size + size + linksLength rest

/-- The length of the serialized node, counted without writing it. -/
def encodedLength (n : Node) : Nat :=
  linksLength n.links + Wire.encodedLength (n.data.map fun d => ⟨1, .bytes d⟩).toList

/-- The node a field list describes. -/
def ofFields? (fields : List Wire.Field) : Option Node := do
  let data ← Wire.last? 1 Wire.Value.bytes? fields
  let links ← Wire.all? 2 Link.ofValue? fields
  return { links, data }

/-- Reads a serialized node. -/
def decode? (bytes : ByteArray) : Option Node := do
  ofFields? (← Wire.decode? bytes.data.toList)

end Node

end AddressedStorage.Dag
