import AddressedStorage.Proofs.Dag.Layout

/-!
# Proofs/Dag/Binding — an identifier binds its payload

The hash function is any function.  Two payloads with one identifier are the same payload, or their
blocks hold a collision: two different byte strings with one digest.

The argument goes down from the roots.  Different roots with one digest are a collision.  One root
fixes the digest of every leaf, and payloads that differ have a chunk that differs, hence a leaf
that differs (`leafData_injective`).
-/

namespace AddressedStorage.Dag

/-- Two different byte strings among the blocks have one digest. -/
def Collision (hash : HashFunction) (blocks : List Block) : Prop :=
  ∃ x ∈ blocks, ∃ y ∈ blocks, x.data ≠ y.data ∧ hash x.data = hash y.data

namespace FileDag

/-- The serialized root, which is the last block. -/
def rootBytes? (dag : FileDag) : Option ByteArray := dag.blocks.getLast?.map Block.data

/-- The digests of the blocks in front of the root. -/
def leafDigests (hash : HashFunction) (dag : FileDag) : List Digest :=
  dag.blocks.dropLast.map fun leaf => hash leaf.data

end FileDag

variable {hash : HashFunction} {a b : ByteArray}

@[simp] theorem rootBytes?_singleLeaf (content : ByteArray) :
    (singleLeaf hash content).rootBytes? = some (leafData content) := rfl

@[simp] theorem rootBytes?_manyLeaves (content : ByteArray) :
    (manyLeaves hash content).rootBytes? = some (chunkedRoot hash content) := by
  simp [FileDag.rootBytes?, Block.ofData]

@[simp] theorem leafDigests_manyLeaves (content : ByteArray) :
    (manyLeaves hash content).leafDigests hash =
      (chunks content).map fun chunk => hash (leafData chunk) := by
  simp [FileDag.leafDigests, chunkLeaves, Block.ofData, Function.comp_def]

/-! ## Lists that agree under a function

Stated for lists at large: at `chunks` the checker would compute how many there are. -/

section Agree

variable {α β γ : Type} {f : α → β}

/-- Lists that agree under `f` agree under what `f` decides. -/
theorem map_eq_map_of {g : α → γ} : ∀ {xs ys : List α},
    (∀ x ∈ xs, ∀ y ∈ ys, f x = f y → g x = g y) → xs.map f = ys.map f → xs.map g = ys.map g
  | [], [], _, _ => rfl
  | [], _ :: _, _, h => by simp at h
  | _ :: _, [], _, h => by simp at h
  | x :: xs, y :: ys, hfg, h => by
    obtain ⟨hhead, htail⟩ := List.cons.inj h
    rw [List.map_cons, List.map_cons,
      hfg x List.mem_cons_self y List.mem_cons_self hhead,
      map_eq_map_of (fun x hx y hy => hfg x (.tail _ hx) y (.tail _ hy)) htail]

/-- Different lists that agree under `f` have different elements that agree. -/
theorem exists_ne_of_map_eq {xs ys : List α} (h : xs.map f = ys.map f) (hne : xs ≠ ys) :
    ∃ x ∈ xs, ∃ y ∈ ys, x ≠ y ∧ f x = f y := by
  by_contra hall
  have hinj : ∀ x ∈ xs, ∀ y ∈ ys, f x = f y → id x = id y := by
    intro x hx y hy hxy
    by_contra hdiff
    exact hall ⟨x, hx, y, hy, hdiff, hxy⟩
  exact hne (by simpa using map_eq_map_of hinj h)

end Agree

/-! ## What a root fixes -/

/-- **A leaf is no root of a chunked payload.** -/
theorem leafData_ne_chunkedRoot (ha : a.size ≤ chunkSize) (hlt : chunkSize < b.size)
    (hle : b.size ≤ maxContentLength) : leafData a ≠ chunkedRoot hash b := by
  have hlength := length_chunks_le_maxLinks hle
  have hne : chunkLeaves hash b ≠ [] := by
    rw [← List.length_pos_iff, length_chunkLeaves]
    exact Nat.lt_of_lt_of_le (by decide) (two_le_length_chunks hlt)
  exact leafData_ne_rootData ha hne (by simpa using hlength) (by simpa using hlength)

/-- Leaves with one link have one digest. -/
theorem digest_eq_of_leafLink_eq {x y : ByteArray}
    (h : leafLink (Block.ofData hash x) = leafLink (Block.ofData hash y)) : hash x = hash y := by
  have hbytes := Option.some.inj (congrArg Link.hash h)
  exact digest_eq_of_multihash_eq (List.toByteArray_inj.mp hbytes)

/-- One serialized root is one node. -/
theorem rootNode_eq_of_chunkedRoot_eq (ha : a.size ≤ maxContentLength)
    (hb : b.size ≤ maxContentLength) (h : chunkedRoot hash a = chunkedRoot hash b) :
    rootNode (chunkLeaves hash a) ((chunks a).map ByteArray.size) =
      rootNode (chunkLeaves hash b) ((chunks b).map ByteArray.size) :=
  Option.some.inj (by rw [← decode?_chunkedRoot ha, h, decode?_chunkedRoot hb])

/-- **One root fixes the digest of every leaf.** -/
theorem digests_eq_of_chunkedRoot_eq (ha : a.size ≤ maxContentLength)
    (hb : b.size ≤ maxContentLength) (h : chunkedRoot hash a = chunkedRoot hash b) :
    ((chunks a).map fun chunk => hash (leafData chunk)) =
      (chunks b).map fun chunk => hash (leafData chunk) := by
  have hlinks : (chunkLeaves hash a).map leafLink = (chunkLeaves hash b).map leafLink :=
    congrArg Node.links (rootNode_eq_of_chunkedRoot_eq ha hb h)
  rw [chunkLeaves, chunkLeaves, List.map_map, List.map_map] at hlinks
  exact map_eq_map_of (fun x _ y _ hxy => digest_eq_of_leafLink_eq hxy) hlinks

/-- **One root fixes the size of every chunk.** -/
theorem sizes_eq_of_chunkedRoot_eq (ha : a.size ≤ maxContentLength)
    (hb : b.size ≤ maxContentLength) (h : chunkedRoot hash a = chunkedRoot hash b) :
    (chunks a).map ByteArray.size = (chunks b).map ByteArray.size := by
  have hpayload := Option.some.inj (congrArg Node.data (rootNode_eq_of_chunkedRoot_eq ha hb h))
  have hfile := Option.some.inj
    ((decode?_chunkedFile ha).symm.trans ((congrArg _ hpayload).trans (decode?_chunkedFile hb)))
  have hwords : ((chunks a).map ByteArray.size).map Nat.toUInt64 =
      ((chunks b).map ByteArray.size).map Nat.toUInt64 := congrArg UnixFs.blocksizes hfile
  rw [← map_toNat_toUInt64 fun _ => lt_of_mem_sizes_chunks, hwords,
    map_toNat_toUInt64 fun _ => lt_of_mem_sizes_chunks]

/-! ## Collisions -/

/-- Blocks of different bytes with one digest are a collision. -/
theorem Collision.intro {blocks : List Block} {x y : ByteArray}
    (hx : Block.ofData hash x ∈ blocks) (hy : Block.ofData hash y ∈ blocks) (hne : x ≠ y)
    (h : hash x = hash y) : Collision hash blocks :=
  ⟨_, hx, _, hy, hne, h⟩

/-- **Different chunked payloads with one root have leaves that collide.** -/
theorem collision_of_chunkedRoot_eq (ha : a.size ≤ maxContentLength)
    (hb : b.size ≤ maxContentLength) (hne : a ≠ b)
    (h : chunkedRoot hash a = chunkedRoot hash b) :
    Collision hash (chunkLeaves hash a ++ chunkLeaves hash b) := by
  have hchunks : chunks a ≠ chunks b := fun heq =>
    hne (by rw [← concat_chunks a, heq, concat_chunks])
  obtain ⟨x, hx, y, hy, hxy, hdigest⟩ :=
    exists_ne_of_map_eq (digests_eq_of_chunkedRoot_eq ha hb h) hchunks
  exact .intro (List.mem_append_left _ (List.mem_map_of_mem hx))
    (List.mem_append_right _ (List.mem_map_of_mem hy))
    (fun hleaf => hxy (leafData_injective (size_le_of_mem_chunks hx) (size_le_of_mem_chunks hy)
      hleaf)) hdigest

/-- A collision among some blocks is one among more. -/
theorem Collision.mono {few many : List Block} (h : Collision hash few) (hsub : few ⊆ many) :
    Collision hash many := by
  obtain ⟨x, hx, y, hy, hxy⟩ := h
  exact ⟨x, hsub hx, y, hsub hy, hxy⟩

/-- **Different payloads with one root identifier have blocks that collide.** -/
theorem collision_of_root_eq {da db : FileDag} (ha : build hash a = .ok da)
    (hb : build hash b = .ok db) (hne : a ≠ b) (hroot : da.root = db.root) :
    Collision hash (da.blocks ++ db.blocks) := by
  rcases layout_of_build ha with ⟨hca, rfl⟩ | ⟨hlta, hlea, rfl⟩ <;>
    rcases layout_of_build hb with ⟨hcb, rfl⟩ | ⟨hltb, hleb, rfl⟩ <;>
    simp only [root_singleLeaf, root_manyLeaves, Cid.v0.injEq] at hroot
  · exact .intro (by simp) (by simp) (fun h => hne (leafData_injective hca hcb h)) hroot
  · exact .intro (by simp) (by simp) (leafData_ne_chunkedRoot hca hltb hleb) hroot
  · exact .intro (by simp) (by simp) (leafData_ne_chunkedRoot hcb hlta hlea).symm hroot
  · by_cases hdata : chunkedRoot hash a = chunkedRoot hash b
    · exact (collision_of_chunkedRoot_eq hlea hleb hne hdata).mono fun x hx => by
        rcases List.mem_append.mp hx with hx | hx <;> simp [hx]
    · exact .intro (by simp) (by simp) hdata hroot

/-- **A payload of one chunk is bound by its leaf**: if nothing else has the digest of the leaf, no
other payload has the identifier. -/
theorem eq_of_contentCid_eq (hb : b.size ≤ chunkSize)
    (hleaf : ∀ data, hash data = hash (leafData b) → data = leafData b)
    (h : contentCid hash a = contentCid hash b) : a = b := by
  rw [contentCid_of_build (build_of_le hb), root_singleLeaf] at h
  obtain ⟨dag, hdag⟩ := exists_build_of_le hash (size_le_of_contentCid h)
  have hroot := Except.ok.inj ((contentCid_of_build hdag).symm.trans h)
  rcases layout_of_build hdag with ⟨hle, rfl⟩ | ⟨hlt, hmax, rfl⟩
  · exact leafData_injective hle hb (hleaf _ (Cid.v0.inj hroot))
  · exact absurd (hleaf _ (Cid.v0.inj hroot)).symm (leafData_ne_chunkedRoot hb hlt hmax)

/-- **An identifier binds its payload.**  Different payloads with one identifier have blocks that
collide, a leaf is never a root, and one serialized root has one list of chunk sizes and of leaf
digests. -/
theorem contentCid_binds_content (hash : HashFunction) {a b : ByteArray}
    (ha : a.size ≤ maxContentLength) (hb : b.size ≤ maxContentLength) :
    ∃ da db, build hash a = .ok da ∧ build hash b = .ok db ∧
      (a ≠ b → contentCid hash a = contentCid hash b →
        Collision hash (da.blocks ++ db.blocks)) ∧
      (a.size ≤ chunkSize → chunkSize < b.size → da.rootBytes? ≠ db.rootBytes?) ∧
      (chunkSize < a.size → chunkSize < b.size → da.rootBytes? = db.rootBytes? →
        (chunks a).map ByteArray.size = (chunks b).map ByteArray.size ∧
          da.leafDigests hash = db.leafDigests hash) := by
  obtain ⟨da, hda⟩ := exists_build_of_le hash ha
  obtain ⟨db, hdb⟩ := exists_build_of_le hash hb
  refine ⟨da, db, hda, hdb, fun hne hcid => ?_, fun hca hltb => ?_, fun hlta hltb hroot => ?_⟩
  · rw [contentCid_of_build hda, contentCid_of_build hdb] at hcid
    exact collision_of_root_eq hda hdb hne (Except.ok.inj hcid)
  · rw [build_of_le hca] at hda
    rw [build_of_lt hltb hb] at hdb
    cases hda
    cases hdb
    simpa using leafData_ne_chunkedRoot hca hltb hb
  · rw [build_of_lt hlta ha] at hda
    rw [build_of_lt hltb hb] at hdb
    cases hda
    cases hdb
    have hdata : chunkedRoot hash a = chunkedRoot hash b := by simpa using hroot
    exact ⟨sizes_eq_of_chunkedRoot_eq ha hb hdata,
      by simpa using digests_eq_of_chunkedRoot_eq ha hb hdata⟩

/-- `n` times the same byte. -/
def filled (n : Nat) (byte : UInt8) : ByteArray := (List.replicate n byte).toByteArray

@[simp] theorem size_filled (n : Nat) (byte : UInt8) : (filled n byte).size = n := by
  simp [filled]

/-- Under a hash function that tells nothing apart, two chunked payloads have blocks that
collide. -/
theorem contentCid_binds_filled :
    (filled (chunkSize + 1) 0).size ≤ maxContentLength ∧
      (filled (chunkSize + 1) 1).size ≤ maxContentLength ∧
      ∃ da db, build (fun _ => Digest.zero) (filled (chunkSize + 1) 0) = .ok da ∧
        build (fun _ => Digest.zero) (filled (chunkSize + 1) 1) = .ok db ∧
        Collision (fun _ => Digest.zero) (da.blocks ++ db.blocks) := by
  have hsize : ∀ byte, (filled (chunkSize + 1) byte).size ≤ maxContentLength := fun byte => by
    rw [size_filled]
    decide
  have hne : filled (chunkSize + 1) 0 ≠ filled (chunkSize + 1) 1 := fun h => by
    have := List.toByteArray_inj.mp h
    simp [List.replicate_succ] at this
  obtain ⟨da, db, hda, hdb, hcollision, -⟩ :=
    contentCid_binds_content (fun _ => Digest.zero) (hsize 0) (hsize 1)
  refine ⟨hsize 0, hsize 1, da, db, hda, hdb, hcollision hne ?_⟩
  rw [contentCid_of_build (build_of_lt (by simp) (hsize 0)),
    contentCid_of_build (build_of_lt (by simp) (hsize 1)), root_manyLeaves, root_manyLeaves]

end AddressedStorage.Dag
