import AddressedStorage.Dag.File
import AddressedStorage.Proofs.Dag.RoundTrip

/-!
# Proofs/Dag/Blocks — the blocks of a file are read back

A leaf of at most `chunkSize` bytes is read back as a node without links whose payload carries the
chunk, so different chunks have different leaves (`leafData_injective`).  A root of at most
`maxLinks` leaves is read back as the links it was made of, so no root is a leaf
(`leafData_ne_rootData`).
-/

namespace AddressedStorage.Dag

/-! ## Leaves -/

/-- An empty chunk is left out, and is what an absent one stands for. -/
@[simp] theorem getD_data_fileLeaf (chunk : ByteArray) :
    (UnixFs.fileLeaf chunk).data.getD ByteArray.empty = chunk := by
  simp only [UnixFs.fileLeaf]
  split
  · rename_i h
    exact (ByteArray.size_eq_zero_iff.mp h).symm
  · rfl

/-- The payload of a leaf is not much longer than its chunk. -/
theorem size_encode_fileLeaf_le {chunk : ByteArray} (h : chunk.size ≤ chunkSize) :
    (UnixFs.fileLeaf chunk).encode.size ≤ 3 * (20 + chunkSize) := by
  refine UnixFs.size_encode_le chunkSize (by decide) fun d hd => ?_
  simp only [UnixFs.fileLeaf, Option.mem_def, Option.ite_none_left_eq_some, Option.some.injEq] at hd
  exact hd.2 ▸ h

/-- The leaf is not much longer than its payload. -/
theorem size_leafData_le {chunk : ByteArray} (h : chunk.size ≤ chunkSize) :
    (leafData chunk).size ≤ 20 + 3 * (20 + chunkSize) := by
  have hsize := Node.size_encode_le (n := Node.leaf (UnixFs.fileLeaf chunk).encode)
    (3 * (20 + chunkSize)) (by decide) (by simp [Node.leaf])
    (by simpa [Node.leaf] using size_encode_fileLeaf_le h)
  simpa [leafData, Node.leaf] using hsize

/-- **A leaf is read back as a node without links.** -/
theorem decode?_leafData {chunk : ByteArray} (h : chunk.size ≤ chunkSize) :
    Node.decode? (leafData chunk) = some (Node.leaf (UnixFs.fileLeaf chunk).encode) :=
  Node.decode?_encode (Nat.lt_of_le_of_lt (size_leafData_le h) (by decide))

/-- **The payload of a leaf is read back as the chunk it carries.** -/
theorem decode?_fileLeaf {chunk : ByteArray} (h : chunk.size ≤ chunkSize) :
    UnixFs.decode? (UnixFs.fileLeaf chunk).encode = some (UnixFs.fileLeaf chunk) :=
  UnixFs.decode?_encode (Nat.lt_of_le_of_lt (size_encode_fileLeaf_le h) (by decide))

/-- **Different chunks have different leaves.** -/
theorem leafData_injective {a b : ByteArray} (ha : a.size ≤ chunkSize) (hb : b.size ≤ chunkSize)
    (h : leafData a = leafData b) : a = b := by
  have hnode : Node.leaf (UnixFs.fileLeaf a).encode = Node.leaf (UnixFs.fileLeaf b).encode :=
    Option.some.inj (by rw [← decode?_leafData ha, h, decode?_leafData hb])
  have hpayload : (UnixFs.fileLeaf a).encode = (UnixFs.fileLeaf b).encode :=
    Option.some.inj (congrArg Node.data hnode)
  have hfile : UnixFs.fileLeaf a = UnixFs.fileLeaf b :=
    Option.some.inj (by rw [← decode?_fileLeaf ha, hpayload, decode?_fileLeaf hb])
  rw [← getD_data_fileLeaf a, hfile, getD_data_fileLeaf]

/-! ## Roots -/

/-- The root over the leaves of the given chunks. -/
def rootNode (leaves : List Block) (sizes : List Nat) : Node where
  links := leaves.map leafLink
  data := some (UnixFs.fileRoot (sizes.map Nat.toUInt64)).encode

/-- Sizes that fit 64 bits are recorded exactly. -/
theorem map_toNat_toUInt64 {sizes : List Nat} (h : ∀ n ∈ sizes, n < UInt64.size) :
    (sizes.map Nat.toUInt64).map UInt64.toNat = sizes := by
  rw [List.map_map]
  exact (List.map_congr_left fun n hn => UInt64.toNat_ofNat_of_lt' (h n hn)).trans (List.map_id _)

/-- A multihash has 34 bytes. -/
@[simp] theorem length_multihash (c : Cid) : c.multihash.length = 34 := by
  simp [Cid.multihash, Cid.hashCode, Digest.length, Varint.length]

/-- Blocks with one multihash have one digest. -/
theorem digest_eq_of_multihash_eq {c d : Cid} (h : c.multihash = d.multihash) :
    c.digest = d.digest := by
  have hlist : c.digest.toList = d.digest.toList := List.append_cancel_left h
  exact Option.some.inj (by rw [← Digest.ofList?_toList, hlist, Digest.ofList?_toList])

/-- The links of a root are short. -/
theorem size_encode_leafLink_le (leaf : Block) :
    (Wire.encode (leafLink leaf).fields).size ≤ 162 :=
  Link.size_encode_le 34 (by decide) (by simp [leafLink, Link.unnamed])
    (by simp [leafLink, Link.unnamed])

/-- The payload of a root is short. -/
theorem size_encode_fileRoot_le {sizes : List UInt64} (h : sizes.length ≤ maxLinks) :
    (UnixFs.fileRoot sizes).encode.size ≤ 3540 := by
  have hsize := UnixFs.size_encode_le (u := UnixFs.fileRoot sizes) 0 (by decide)
    (by simp [UnixFs.fileRoot])
  have hsizes : (UnixFs.fileRoot sizes).blocksizes.length ≤ maxLinks := h
  simp only [maxLinks] at hsizes
  omega

/-- **A root is read back as its links and its payload.** -/
theorem decode?_rootData {leaves : List Block} {sizes : List Nat}
    (hleaves : leaves.length ≤ maxLinks) (hsizes : sizes.length ≤ maxLinks) :
    Node.decode? (rootData leaves sizes) = some (rootNode leaves sizes) := by
  have hlinks : ∀ l ∈ (rootNode leaves sizes).links, (Wire.encode l.fields).size ≤ 3540 := by
    intro l hl
    obtain ⟨leaf, -, rfl⟩ := List.mem_map.mp hl
    exact Nat.le_trans (size_encode_leafLink_le leaf) (by decide)
  have hpayload : ∀ d ∈ (rootNode leaves sizes).data, d.size ≤ 3540 := by
    intro d hd
    obtain rfl := Option.some.inj hd
    exact size_encode_fileRoot_le (by simpa using hsizes)
  have hsize := Node.size_encode_le 3540 (by decide) hlinks hpayload
  have hlength : (rootNode leaves sizes).links.length ≤ maxLinks := by
    simpa [rootNode] using hleaves
  have hlt : (rootNode leaves sizes).encode.size < UInt64.size := by
    simp only [maxLinks, UInt64.size] at *
    omega
  exact Node.decode?_encode hlt

/-- **The payload of a root is read back as the sizes it lists.** -/
theorem decode?_fileRoot {sizes : List UInt64} (h : sizes.length ≤ maxLinks) :
    UnixFs.decode? (UnixFs.fileRoot sizes).encode = some (UnixFs.fileRoot sizes) :=
  UnixFs.decode?_encode (Nat.lt_of_le_of_lt (size_encode_fileRoot_le h) (by decide))

/-- **No root is a leaf**: a root has links. -/
theorem leafData_ne_rootData {chunk : ByteArray} {leaves : List Block} {sizes : List Nat}
    (hchunk : chunk.size ≤ chunkSize) (hne : leaves ≠ []) (hleaves : leaves.length ≤ maxLinks)
    (hsizes : sizes.length ≤ maxLinks) : leafData chunk ≠ rootData leaves sizes := by
  intro h
  have hnode : Node.leaf (UnixFs.fileLeaf chunk).encode = rootNode leaves sizes :=
    Option.some.inj (by rw [← decode?_leafData hchunk, h, decode?_rootData hleaves hsizes])
  have hlinks : ([] : List Link) = leaves.map leafLink := congrArg Node.links hnode
  exact hne (List.map_eq_nil_iff.mp hlinks.symm)

end AddressedStorage.Dag
