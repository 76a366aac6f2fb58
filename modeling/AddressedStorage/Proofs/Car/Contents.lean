import AddressedStorage.Car.Contents
import AddressedStorage.Proofs.Car.Cbor
import AddressedStorage.Proofs.Cid.Grammar
import AddressedStorage.Proofs.Dag.Layout

/-!
# Proofs/Car/Contents — an archive is its roots and its blocks

Every part of an archive tells where it ends: a frame by its length, a root of the header by the
head of its byte string, and the identifier of a block by its own fields.  So the parts are read
back one after the other, and an archive is read as the roots and the blocks it was made of
(`ofBytes?_of_encode`).  The header counts its roots, which must fit 64 bits; blocks are not
counted, and nothing bounds their number or their size.
-/

namespace AddressedStorage.Car

/-! ## Frames -/

/-- **What is framed is read back from in front of any bytes.** -/
theorem readFrame?_frame (content : ByteArray) (rest : List UInt8) :
    readFrame? ((frame content).data.toList ++ rest) = some (content.data.toList, rest) := by
  have hbytes : (frame content).data.toList ++ rest =
      Varint.encode content.size ++ (content.data.toList ++ rest) := by
    simp [frame]
  have hread := Varint.decodeWithin_encode (n := content.size)
    (k := (Varint.encode content.size ++ (content.data.toList ++ rest)).length) (by simp)
    (content.data.toList ++ rest)
  rw [hbytes, readFrame?, Varint.read?, hread]
  exact Bytes.splitExactly?_append (by simp)

theorem frame_ne_nil (content : ByteArray) : (frame content).data.toList ≠ [] := by
  simp [frame, Varint.encode_ne_nil]

/-! ## The header -/

/-- An identifier is short. -/
theorem length_toBytes_le (c : Cid) : c.toBytes.length ≤ 45 := by
  cases c with
  | v0 d => rw [Cid.toBytes, Dag.length_multihash]; decide
  | v1 c d =>
    have hcode := Varint.length_le_maxBytes c.code.toNat_lt
    simp only [Varint.maxBytes] at hcode
    simp only [Cid.toBytes, List.length_append, Dag.length_multihash, Varint.length_encode,
      Varint.encode_of_lt (by decide : 1 < 128), List.length_singleton]
    omega

/-- **A root is read back from in front of any bytes.** -/
theorem readRoot?_rootLink (c : Cid) (rest : List UInt8) :
    readRoot? (rootLink c ++ rest) = some (c, rest) := by
  have hlength : (0 :: c.toBytes).length < UInt64.size :=
    Nat.lt_of_le_of_lt (Nat.succ_le_succ (length_toBytes_le c)) (by decide)
  rw [readRoot?, rootLink, List.append_assoc, Cbor.skip?_append]
  simp only [Option.bind_eq_bind, Option.bind_some, Cbor.readBytes?_bytes hlength]
  rw [Cid.ofBytes_toBytes]
  rfl

/-- Roots are read back one after the other. -/
theorem readRoots?_rootLinks (roots : List Cid) (rest : List UInt8) :
    readRoots? roots.length (roots.flatMap rootLink ++ rest) = some (roots, rest) := by
  induction roots with
  | nil => rfl
  | cons c roots ih =>
    rw [List.flatMap_cons, List.append_assoc, List.length_cons, readRoots?, readRoot?_rootLink]
    simp only [Option.bind_eq_bind, Option.bind_some, ih, Option.pure_def]

/-- **The header names its roots.** -/
theorem readHeader?_header {roots : List Cid} (h : roots.length < UInt64.size) :
    readHeader? (header roots) = some roots := by
  have hversion := Cbor.skip?_append (Cbor.text "version" ++ Cbor.head .unsigned version) []
  rw [List.append_nil] at hversion
  have hbytes : header roots = (Cbor.head .map 2 ++ Cbor.text "roots") ++
      (Cbor.head .array roots.length ++ (roots.flatMap rootLink ++
        (Cbor.text "version" ++ Cbor.head .unsigned version))) := by
    simp only [header, List.append_assoc]
  rw [hbytes, readHeader?, Cbor.skip?_append]
  simp only [Option.bind_eq_bind, Option.bind_some, Cbor.readHead?_head .array h,
    readRoots?_rootLinks, hversion, if_true]

/-! ## The blocks -/

/-- A block is read back from its section. -/
theorem readBlock?_section (b : Dag.Block) :
    readBlock? (b.cid.toBytes.toByteArray ++ b.data).data.toList = some b := by
  have hbytes : (b.cid.toBytes.toByteArray ++ b.data).data.toList =
      b.cid.toBytes ++ b.data.data.toList := by
    simp
  rw [hbytes, readBlock?, Cid.front?_toBytes_append, Option.map_some]
  simp only [Bytes.toByteArray_toList]

/-- One block is read back from in front of others. -/
theorem readBlocks?_section_append (b : Dag.Block) (rest : List UInt8) :
    readBlocks? ((blockSection b).data.toList ++ rest) = (readBlocks? rest).map (b :: ·) := by
  have hframe : readFrame? ((blockSection b).data.toList ++ rest) =
      some ((b.cid.toBytes.toByteArray ++ b.data).data.toList, rest) := readFrame?_frame _ rest
  have hne : (blockSection b).data.toList ++ rest ≠ [] := fun h =>
    frame_ne_nil _ (List.append_eq_nil_iff.mp h).1
  rw [readBlocks?, if_neg hne]
  split
  · rename_i hnone
    cases hnone.symm.trans hframe
  · rename_i framed tail hsome
    obtain ⟨rfl, rfl⟩ := Prod.mk.inj (Option.some.inj (hsome.symm.trans hframe))
    rw [readBlock?_section]
    cases readBlocks? tail <;> rfl

/-- **Blocks are read back one after the other**, up to the end. -/
theorem readBlocks?_sections (blocks : List Dag.Block) :
    readBlocks? (Bytes.concat (blocks.map blockSection)).data.toList = some blocks := by
  induction blocks with
  | nil =>
    rw [readBlocks?]
    exact if_pos rfl
  | cons b blocks ih =>
    rw [List.map_cons, Bytes.concat_cons, ByteArray.data_append, Array.toList_append,
      readBlocks?_section_append, ih, Option.map_some]

/-! ## Archives -/

variable {roots : List Cid} {blocks : List Dag.Block} {archive : ByteArray}

/-- An archive is its framed header and the sections of its blocks. -/
theorem encode_of_ne_nil (h : roots ≠ []) (blocks : List Dag.Block) :
    encode roots blocks =
      .ok (frame (header roots).toByteArray ++ Bytes.concat (blocks.map blockSection)) := by
  rw [encode, if_neg h, ← List.foldl_map, Bytes.foldl_append]

/-- **An archive is read as the roots and the blocks it was made of.** -/
theorem ofBytes?_of_encode (hroots : roots.length < UInt64.size)
    (h : encode roots blocks = .ok archive) :
    Contents.ofBytes? archive = some ⟨roots, blocks⟩ := by
  have hne : roots ≠ [] := by
    rintro rfl
    cases h
  rw [encode_of_ne_nil hne] at h
  obtain rfl := Except.ok.inj h
  rw [Contents.ofBytes?, ByteArray.data_append, Array.toList_append, readFrame?_frame]
  simp only [Option.bind_eq_bind, Option.bind_some, readBlocks?_sections]
  rw [show (header roots).toByteArray.data.toList = header roots by simp, readHeader?_header hroots]
  rfl

/-- **Only an archive without roots is refused.** -/
theorem encode_eq_error_iff {e : AddressingError} :
    encode roots blocks = .error e ↔ roots = [] ∧ e = .noRoots := by
  constructor
  · intro h
    by_cases hne : roots = []
    · rw [hne, encode, if_pos rfl] at h
      exact ⟨hne, (Except.error.inj h).symm⟩
    · rw [encode_of_ne_nil hne] at h
      cases h
  · rintro ⟨rfl, rfl⟩
    exact if_pos rfl

/-- **One archive has one list of roots and one list of blocks.** -/
theorem encode_injective {roots' : List Cid} {blocks' : List Dag.Block}
    (hroots : roots.length < UInt64.size) (hroots' : roots'.length < UInt64.size)
    (h : encode roots blocks = .ok archive) (h' : encode roots' blocks' = .ok archive) :
    roots = roots' ∧ blocks = blocks' := by
  have hread := (ofBytes?_of_encode hroots h).symm.trans (ofBytes?_of_encode hroots' h')
  exact Contents.mk.inj (Option.some.inj hread)

/-! ## Packed payloads -/

variable {hash : HashFunction} {content : ByteArray} {dag : Dag.FileDag}

/-- **A payload that has blocks is packed**, under its root, and the archive is named by its
digest. -/
theorem pack_of_build (h : Dag.build hash content = .ok dag) :
    ∃ bytes, encode [dag.root] dag.blocks = .ok bytes ∧
      pack hash content = .ok ⟨bytes, dag.root, .v1 .car (hash bytes)⟩ := by
  have hencode := encode_of_ne_nil (List.cons_ne_nil dag.root []) dag.blocks
  refine ⟨_, hencode, ?_⟩
  simp only [pack, h, hencode, bind, Except.bind, pure, Except.pure]

/-- A payload that has none is not. -/
theorem pack_of_build_error {e : AddressingError} (h : Dag.build hash content = .error e) :
    pack hash content = .error (.contentTooLarge content.size Dag.maxContentLength) := by
  have hlarge : Dag.maxContentLength < content.size := by
    by_contra hle
    obtain ⟨dag, hdag⟩ := Dag.exists_build_of_le hash (Nat.le_of_not_lt hle)
    cases h.symm.trans hdag
  rw [pack, Dag.build_of_maxContentLength_lt hlarge]
  rfl

/-- **Archives are uniquely decodable.**  An archive of at least one root is read to its end as the
roots and the blocks it was made of, whatever these are and whether they fit together, so no two
pairs of lists share an archive; without roots there is none.  A payload that has blocks is packed
as one archive that is read as its identifier and its blocks in order, and that is itself named by
its digest; any other payload is too large. -/
theorem archive_uniquely_decodable (hash : HashFunction) :
    (∀ roots blocks, roots ≠ [] → roots.length < UInt64.size →
      ∃ archive, encode roots blocks = .ok archive ∧
        Contents.ofBytes? archive = some ⟨roots, blocks⟩) ∧
    (∀ roots roots' blocks blocks' archive, roots.length < UInt64.size →
      roots'.length < UInt64.size → encode roots blocks = .ok archive →
        encode roots' blocks' = .ok archive → roots = roots' ∧ blocks = blocks') ∧
    (∀ roots blocks e, encode roots blocks = .error e ↔ roots = [] ∧ e = .noRoots) ∧
    (∀ content dag, Dag.build hash content = .ok dag →
      ∃ archive, pack hash content = .ok archive ∧ Dag.contentCid hash content = .ok archive.root ∧
        Contents.ofBytes? archive.bytes = some ⟨[archive.root], dag.blocks⟩ ∧
        archive.shard = .v1 .car (hash archive.bytes)) ∧
    (∀ content e, Dag.build hash content = .error e →
      pack hash content = .error (.contentTooLarge content.size Dag.maxContentLength)) := by
  refine ⟨fun roots blocks hne hroots => ?_, fun _ _ _ _ _ => encode_injective,
    fun _ _ _ => encode_eq_error_iff, fun content dag hdag => ?_, fun _ _ => pack_of_build_error⟩
  · have hencode := encode_of_ne_nil hne blocks
    exact ⟨_, hencode, ofBytes?_of_encode hroots hencode⟩
  · obtain ⟨bytes, hencode, hpack⟩ := pack_of_build hdag
    have hone : [dag.root].length < UInt64.size := (by decide : 1 < UInt64.size)
    exact ⟨_, hpack, Dag.contentCid_of_build hdag, ofBytes?_of_encode hone hencode, rfl⟩

/-- Two roots of either version and two blocks, one without bytes and neither named by its digest,
are read back. -/
theorem archive_uniquely_decodable_twoRoots :
    [Cid.v0 .zero, .v1 .car .zero] ≠ [] ∧ [Cid.v0 .zero, .v1 .car .zero].length < UInt64.size ∧
      ∃ archive, encode [.v0 .zero, .v1 .car .zero]
          [⟨.v1 .raw .zero, ByteArray.empty⟩, ⟨.v0 .zero, ⟨#[1, 2, 3]⟩⟩] = .ok archive ∧
        Contents.ofBytes? archive = some ⟨[.v0 .zero, .v1 .car .zero],
          [⟨.v1 .raw .zero, ByteArray.empty⟩, ⟨.v0 .zero, ⟨#[1, 2, 3]⟩⟩]⟩ := by
  have hne : [Cid.v0 .zero, .v1 .car .zero] ≠ [] := List.cons_ne_nil _ _
  have hroots : [Cid.v0 .zero, .v1 .car .zero].length < UInt64.size := by decide
  exact ⟨hne, hroots, (archive_uniquely_decodable fun _ => Digest.zero).1 _ _ hne hroots⟩

end AddressedStorage.Car
