import AddressedStorage.Proofs.Dag.Layout
import Mathlib.Algebra.Order.BigOperators.Group.List
import Mathlib.Data.List.Forall2

/-!
# Proofs/Dag/Reassembly — the blocks of a file give the payload back

Whoever holds the blocks reads the payload off them: every leaf says which bytes it carries, and the
root says in which order the leaves stand, how long each of them is as a block and how many bytes of
the file it holds.  The three places that record a size agree (`build_reassembles`).
-/

namespace AddressedStorage.Dag

/-! ## What a block says -/

/-- The links of a serialized block and what it says about a file. -/
def readBlock? (data : ByteArray) : Option (List Link × UnixFs) := do
  let node ← Node.decode? data
  return (node.links, ← UnixFs.decode? (← node.data))

/-- A block without links that carries a piece of a file. -/
def Carries (data piece : ByteArray) : Prop :=
  ∃ file, readBlock? data = some ([], file) ∧ file.kind = NodeKind.file.code ∧
    file.data.getD ByteArray.empty = piece ∧
    file.filesize.map UInt64.toNat = some piece.size ∧ file.blocksizes = []

/-- A link without a name that holds the multihash and the size of a block. -/
structure Link.PointsTo (link : Link) (block : Block) : Prop where
  hash : link.hash = some block.cid.multihash.toByteArray
  name : link.name = some ""
  tsize : link.tsize.map UInt64.toNat = some block.data.size

/-- A block that links the leaves of a file in order, lists the sizes of their pieces, and carries
nothing itself. -/
def Lists (data : ByteArray) (leaves : List Block) (pieces : List ByteArray) : Prop :=
  ∃ links file, readBlock? data = some (links, file) ∧ List.Forall₂ Link.PointsTo links leaves ∧
    file.kind = NodeKind.file.code ∧ file.data = none ∧
    file.blocksizes.map UInt64.toNat = pieces.map ByteArray.size ∧
    file.filesize.map UInt64.toNat = some (pieces.map ByteArray.size).sum

/-- The blocks of a file hold its payload in pieces, one to a leaf. -/
structure Reassembles (hash : HashFunction) (content : ByteArray) (dag : FileDag)
    (leaves : List Block) (pieces : List ByteArray) : Prop where
  /-- Every block is named by its digest. -/
  cid_eq : ∀ block ∈ dag.blocks, block.cid = .v0 (hash block.data)
  /-- The root is the last block. -/
  root_eq : dag.blocks.getLast?.map Block.cid = some dag.root
  carries : List.Forall₂ (fun leaf piece => Carries leaf.data piece) leaves pieces
  full : ∀ piece ∈ pieces.dropLast, piece.size = chunkSize
  last : ∀ piece ∈ pieces.getLast?,
    piece.size ≤ chunkSize ∧ (0 < content.size → 0 < piece.size)
  concat_eq : Bytes.concat pieces = content
  sum_size : (pieces.map ByteArray.size).sum = content.size
  /-- A payload of at most one chunk is its leaf. -/
  single : content.size ≤ chunkSize → dag.blocks = leaves ∧ leaves.length = 1
  /-- A larger one is its leaves and a root over them. -/
  many : chunkSize < content.size →
    leaves.length = content.size ⌈/⌉ chunkSize ∧ 2 ≤ leaves.length ∧ leaves.length ≤ maxLinks ∧
      ∃ root, dag.blocks = leaves ++ [root] ∧ Lists root.data leaves pieces

/-! ## Leaves -/

variable {hash : HashFunction}

/-- **A leaf carries its chunk.** -/
theorem carries_leafData {chunk : ByteArray} (h : chunk.size ≤ chunkSize) :
    Carries (leafData chunk) chunk := by
  refine ⟨UnixFs.fileLeaf chunk, ?_, rfl, getD_data_fileLeaf chunk, ?_, rfl⟩
  · simp [readBlock?, decode?_leafData h, Node.leaf, decode?_fileLeaf h]
  · have hsize : chunk.size.toUInt64.toNat = chunk.size :=
      UInt64.toNat_ofNat_of_lt' (Nat.lt_of_le_of_lt h (by decide))
    simp only [UnixFs.fileLeaf, Option.map_some, hsize]

/-- **A link to a leaf points to it.** -/
theorem pointsTo_leafLink {chunk : ByteArray} (h : chunk.size ≤ chunkSize) :
    (leafLink (Block.ofData hash (leafData chunk))).PointsTo
      (Block.ofData hash (leafData chunk)) := by
  refine ⟨rfl, rfl, congrArg some ?_⟩
  exact UInt64.toNat_ofNat_of_lt' (Nat.lt_of_le_of_lt (size_leafData_le h) (by decide))

/-! ## Roots -/

/-- Sizes that fit 64 bits together are added exactly. -/
theorem toNat_foldl_add (sizes : List UInt64) (start : UInt64)
    (h : start.toNat + (sizes.map UInt64.toNat).sum < UInt64.size) :
    (sizes.foldl (· + ·) start).toNat = start.toNat + (sizes.map UInt64.toNat).sum := by
  induction sizes generalizing start with
  | nil => simp
  | cons n sizes ih =>
    rw [List.map_cons, List.sum_cons] at h ⊢
    have hadd : (start + n).toNat = start.toNat + n.toNat := by
      rw [UInt64.toNat_add, Nat.mod_eq_of_lt]
      simp only [UInt64.size] at h
      omega
    rw [List.foldl_cons, ih _ (by omega), hadd, Nat.add_assoc]

/-- The size of a file of several pieces is recorded exactly. -/
theorem toNat_filesize_fileRoot {sizes : List Nat} (h : sizes.sum < UInt64.size) :
    ((UnixFs.fileRoot (sizes.map Nat.toUInt64)).filesize.map UInt64.toNat) = some sizes.sum := by
  have hexact := map_toNat_toUInt64 fun n hn =>
    Nat.lt_of_le_of_lt (List.le_sum_of_mem hn) h
  have hadd := toNat_foldl_add (sizes.map Nat.toUInt64) 0 (by simpa [hexact] using h)
  rw [hexact] at hadd
  simpa [UnixFs.fileRoot] using hadd

/-- **The root over the leaves of some pieces lists them.** -/
theorem lists_rootData {pieces : List ByteArray} (hpiece : ∀ p ∈ pieces, p.size ≤ chunkSize)
    (hlength : pieces.length ≤ maxLinks) (hsum : (pieces.map ByteArray.size).sum < UInt64.size) :
    Lists (rootData (pieces.map fun p => Block.ofData hash (leafData p))
      (pieces.map ByteArray.size)) (pieces.map fun p => Block.ofData hash (leafData p)) pieces := by
  have hlinks : List.Forall₂ Link.PointsTo
      ((pieces.map fun p => Block.ofData hash (leafData p)).map leafLink)
      (pieces.map fun p => Block.ofData hash (leafData p)) := by
    rw [List.forall₂_map_left_iff, List.forall₂_same]
    intro leaf hleaf
    obtain ⟨p, hmem, rfl⟩ := List.mem_map.mp hleaf
    exact pointsTo_leafLink (hpiece p hmem)
  have hsizes : ∀ n ∈ pieces.map ByteArray.size, n < UInt64.size := fun n hn =>
    Nat.lt_of_le_of_lt (List.le_sum_of_mem hn) hsum
  refine ⟨_, UnixFs.fileRoot ((pieces.map ByteArray.size).map Nat.toUInt64), ?_, hlinks, rfl, rfl,
    map_toNat_toUInt64 hsizes, toNat_filesize_fileRoot hsum⟩
  have hlist : ((pieces.map ByteArray.size).map Nat.toUInt64).length ≤ maxLinks := by
    simpa using hlength
  rw [readBlock?, decode?_rootData (by simpa using hlength) (by simpa using hlength)]
  simp only [rootNode, Option.bind_eq_bind, Option.bind_some, Option.pure_def,
    decode?_fileRoot hlist]

/-! ## Files -/

/-- A payload of at most one chunk is the piece its leaf carries. -/
theorem reassembles_singleLeaf (hash : HashFunction) {content : ByteArray}
    (h : content.size ≤ chunkSize) :
    Reassembles hash content (singleLeaf hash content) [Block.ofData hash (leafData content)]
      [content] where
  cid_eq := by simp [Block.ofData]
  root_eq := rfl
  carries := .cons (carries_leafData h) .nil
  full := by simp
  last := by simp [h]
  concat_eq := by simp
  sum_size := by simp
  single := fun _ => ⟨rfl, rfl⟩
  many := fun hlt => absurd h (Nat.not_le.mpr hlt)

/-- A larger payload is cut into the pieces its leaves carry. -/
theorem reassembles_manyLeaves (hash : HashFunction) {content : ByteArray}
    (hlt : chunkSize < content.size) (hle : content.size ≤ maxContentLength) :
    Reassembles hash content (manyLeaves hash content) (chunkLeaves hash content)
      (chunks content) where
  cid_eq := by
    intro block hblock
    rw [blocks_manyLeaves, List.mem_append, List.mem_singleton] at hblock
    rcases hblock with hleaf | rfl
    · obtain ⟨piece, -, rfl⟩ := List.mem_map.mp hleaf
      rfl
    · rfl
  root_eq := by simp [Block.ofData]
  carries := by
    rw [chunkLeaves, List.forall₂_map_left_iff, List.forall₂_same]
    exact fun piece hmem => carries_leafData (size_le_of_mem_chunks hmem)
  full := fun piece hmem => size_eq_of_mem_dropLast_chunks hmem
  last := fun piece hmem =>
    ⟨size_le_of_mem_chunks (List.mem_of_getLast? hmem),
      fun _ => size_pos_of_mem_getLast?_chunks hmem⟩
  concat_eq := concat_chunks content
  sum_size := sum_size_chunks content
  single := fun hsingle => absurd hsingle (Nat.not_le.mpr hlt)
  many := by
    intro _
    have hlength := length_chunkLeaves hash content
    refine ⟨hlength.trans (length_chunks content), ?_, ?_, _, blocks_manyLeaves content,
      lists_rootData (fun _ => size_le_of_mem_chunks) (length_chunks_le_maxLinks hle) ?_⟩
    · exact hlength ▸ two_le_length_chunks hlt
    · exact hlength ▸ length_chunks_le_maxLinks hle
    · exact sum_size_chunks content ▸ Nat.lt_of_le_of_lt hle (by decide)

/-- **Either a payload is too large, or its blocks give it back**: whether it is depends on its size
alone. -/
theorem build_reassembles (hash : HashFunction) (content : ByteArray) :
    (maxContentLength < content.size ∧
      build hash content = .error (.contentTooLarge content.size maxContentLength)) ∨
    (content.size ≤ maxContentLength ∧ ∃ dag leaves pieces,
      build hash content = .ok dag ∧ contentCid hash content = .ok dag.root ∧
        Reassembles hash content dag leaves pieces) := by
  rcases Nat.lt_or_ge maxContentLength content.size with hlarge | hmax
  · exact .inl ⟨hlarge, build_of_maxContentLength_lt hlarge⟩
  refine .inr ⟨hmax, ?_⟩
  rcases Nat.lt_or_ge chunkSize content.size with hlt | hle
  · have hbuild : build hash content = .ok (manyLeaves hash content) := build_of_lt hlt hmax
    exact ⟨_, _, _, hbuild, contentCid_of_build hbuild, reassembles_manyLeaves hash hlt hmax⟩
  · have hbuild : build hash content = .ok (singleLeaf hash content) := build_of_le hle
    exact ⟨_, _, _, hbuild, contentCid_of_build hbuild, reassembles_singleLeaf hash hle⟩

end AddressedStorage.Dag
