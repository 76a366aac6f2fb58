import AddressedStorage.Proofs.Dag.Blocks
import AddressedStorage.Proofs.Dag.Chunks
import AddressedStorage.Proofs.Except

/-!
# Proofs/Dag/Layout — the two layouts of a file

A payload of at most one chunk is its leaf; a larger one is the leaves of its chunks and a root over
them; one that is too large has no blocks.  The root of a chunked payload is read back as the links
to its leaves (`decode?_chunkedRoot`) and as the sizes of its chunks (`decode?_chunkedFile`).
-/

namespace AddressedStorage.Dag

variable {hash : HashFunction}

@[simp] theorem build_of_le {content : ByteArray} (h : content.size ≤ chunkSize) :
    build hash content = .ok (singleLeaf hash content) := if_pos h

@[simp] theorem build_of_lt {content : ByteArray} (hlt : chunkSize < content.size)
    (hle : content.size ≤ maxContentLength) :
    build hash content = .ok (manyLeaves hash content) := by
  rw [build, if_neg (by omega), if_pos hle]

/-- A payload that is too large has no blocks. -/
theorem build_of_maxContentLength_lt {content : ByteArray} (h : maxContentLength < content.size) :
    build hash content = .error (.contentTooLarge content.size maxContentLength) := by
  have hchunk : chunkSize < content.size := Nat.lt_trans (by decide) h
  rw [build, if_neg (by omega), if_neg (by omega)]

/-- A payload that is not too large has blocks. -/
theorem exists_build_of_le (hash : HashFunction) {content : ByteArray}
    (h : content.size ≤ maxContentLength) : ∃ dag, build hash content = .ok dag := by
  rcases Nat.lt_or_ge chunkSize content.size with hlt | hle
  · exact ⟨_, build_of_lt hlt h⟩
  · exact ⟨_, build_of_le hle⟩

/-- Blocks are laid out in one of two ways, or the payload is too large. -/
theorem layout_of_build {content : ByteArray} {dag : FileDag} (h : build hash content = .ok dag) :
    (content.size ≤ chunkSize ∧ dag = singleLeaf hash content) ∨
      (chunkSize < content.size ∧ content.size ≤ maxContentLength ∧
        dag = manyLeaves hash content) := by
  rcases Nat.lt_or_ge chunkSize content.size with hlt | hle
  · rcases Nat.lt_or_ge maxContentLength content.size with hlarge | hmax
    · rw [build_of_maxContentLength_lt hlarge] at h
      cases h
    · rw [build_of_lt hlt hmax] at h
      cases h
      exact .inr ⟨hlt, hmax, rfl⟩
  · rw [build_of_le hle] at h
    cases h
    exact .inl ⟨hle, rfl⟩

/-- The leaves of the chunks. -/
def chunkLeaves (hash : HashFunction) (content : ByteArray) : List Block :=
  (chunks content).map fun chunk => Block.ofData hash (leafData chunk)

/-- The serialized root of a payload of several chunks. -/
def chunkedRoot (hash : HashFunction) (content : ByteArray) : ByteArray :=
  rootData (chunkLeaves hash content) ((chunks content).map ByteArray.size)

@[simp] theorem blocks_singleLeaf (content : ByteArray) :
    (singleLeaf hash content).blocks = [Block.ofData hash (leafData content)] := rfl

@[simp] theorem blocks_manyLeaves (content : ByteArray) :
    (manyLeaves hash content).blocks =
      chunkLeaves hash content ++ [Block.ofData hash (chunkedRoot hash content)] := rfl

@[simp] theorem root_singleLeaf (content : ByteArray) :
    (singleLeaf hash content).root = .v0 (hash (leafData content)) := rfl

@[simp] theorem root_manyLeaves (content : ByteArray) :
    (manyLeaves hash content).root = .v0 (hash (chunkedRoot hash content)) := rfl

theorem contentCid_of_build {content : ByteArray} {dag : FileDag}
    (h : build hash content = .ok dag) : contentCid hash content = .ok dag.root := by
  rw [contentCid_eq, h]
  rfl

/-- **A payload that is not too large has an identifier**, of version 0. -/
theorem exists_contentCid_of_le (hash : HashFunction) {content : ByteArray}
    (h : content.size ≤ maxContentLength) :
    ∃ digest, contentCid hash content = .ok (.v0 digest) := by
  rcases Nat.lt_or_ge chunkSize content.size with hlt | hle
  · exact ⟨_, contentCid_of_build (build_of_lt hlt h)⟩
  · exact ⟨_, contentCid_of_build (build_of_le hle)⟩

/-- Content that has an identifier is not too large. -/
theorem size_le_of_contentCid {content : ByteArray} {cid : Cid}
    (h : contentCid hash content = .ok cid) : content.size ≤ maxContentLength := by
  by_contra hlarge
  rw [contentCid_eq, build_of_maxContentLength_lt (Nat.lt_of_not_le hlarge)] at h
  cases h

/-- The identifier of content is of version 0. -/
theorem version_of_contentCid {content : ByteArray} {cid : Cid}
    (h : contentCid hash content = .ok cid) : cid.version = 0 := by
  obtain ⟨digest, hdigest⟩ := exists_contentCid_of_le hash (size_le_of_contentCid h)
  obtain rfl := Except.ok.inj (h.symm.trans hdigest)
  rfl

/-- Content is judged if both identifiers can be had. -/
theorem verify_eq_ok_iff {content : ByteArray} {cid : Cid} {verdict : Bool} :
    verify hash content cid = .ok verdict ↔
      ∃ expected actual, cid.toV0 = .ok expected ∧ contentCid hash content = .ok actual ∧
        decide (actual = expected) = verdict := by
  simp only [verify, bind_eq_ok_iff, mapError_eq_ok_iff, pure, Except.pure, Except.ok.injEq,
    exists_and_left]

@[simp] theorem length_chunkLeaves (hash : HashFunction) (content : ByteArray) :
    (chunkLeaves hash content).length = (chunks content).length := by simp [chunkLeaves]

/-- The links of a root that is not too large are read back. -/
theorem decode?_chunkedRoot {content : ByteArray} (h : content.size ≤ maxContentLength) :
    Node.decode? (chunkedRoot hash content) =
      some (rootNode (chunkLeaves hash content) ((chunks content).map ByteArray.size)) := by
  have hlength := length_chunks_le_maxLinks h
  exact decode?_rootData (by simpa using hlength) (by simpa using hlength)

/-- The payload of a root that is not too large is read back. -/
theorem decode?_chunkedFile {content : ByteArray} (h : content.size ≤ maxContentLength) :
    UnixFs.decode? (UnixFs.fileRoot (((chunks content).map ByteArray.size).map Nat.toUInt64)).encode
      = some (UnixFs.fileRoot (((chunks content).map ByteArray.size).map Nat.toUInt64)) :=
  decode?_fileRoot (by simpa using length_chunks_le_maxLinks h)

end AddressedStorage.Dag
