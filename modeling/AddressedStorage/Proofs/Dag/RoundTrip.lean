import AddressedStorage.Dag.Node
import AddressedStorage.Dag.UnixFs
import AddressedStorage.Proofs.Wire.RoundTrip

/-!
# Proofs/Dag/RoundTrip — nodes and their payloads are read back

Both message types are read back from what they write, as long as the whole message is shorter than
`2 ^ 64` bytes: `Node.decode?_encode` and `UnixFs.decode?_encode`.  Each is the round trip of field
lists, then the lookups of `Wire` on the fields of one message.
-/

namespace AddressedStorage.Dag

/-! ## UnixFS payloads -/

namespace UnixFs

/-- The low half of a sign-extended kind is the kind. -/
@[simp] theorem kindOfField_toUInt64 (kind : Int32) :
    kindOfField kind.toInt64.toUInt64 = kind := by
  rw [kindOfField, ← Int32.toBitVec_inj]
  apply BitVec.eq_of_getLsbD_eq
  intro i hi
  simp only [UInt32.toBitVec_toInt32, UInt64.toBitVec_toUInt32, Int64.toBitVec_toUInt64,
    Int32.toBitVec_toInt64, BitVec.getLsbD_setWidth, BitVec.getLsbD_signExtend, hi]
  simp [show i < 64 by omega]

/-- Every field of a payload has a written form. -/
theorem known_fields (u : UnixFs) : ∀ f ∈ u.fields, f.Known := by
  intro f hf
  simp only [fields, List.cons_append, List.mem_cons, List.mem_append, Option.mem_toList,
    Option.map_eq_some_iff, List.mem_map] at hf
  rcases hf with rfl | (⟨d, -, rfl⟩ | ⟨n, -, rfl⟩) | ⟨n, -, rfl⟩
  · exact .varint (by decide) (by decide) _
  · exact .bytes (by decide) (by decide) d
  · exact .varint (by decide) (by decide) n
  · exact .varint (by decide) (by decide) n

/-- The fields of a payload as lists of values. -/
theorem fields_eq (u : UnixFs) :
    u.fields = ⟨1, .varint u.kind.toInt64.toUInt64⟩ ::
      (u.data.toList.map fun d => ⟨2, .bytes d⟩) ++
      (u.filesize.toList.map fun n => ⟨3, .varint n⟩) ++
      u.blocksizes.map fun n => ⟨4, .varint n⟩ := by
  simp only [fields, Option.toList_map]

/-- A payload is little longer than the bytes it carries. -/
theorem size_encode_le {u : UnixFs} (bound : Nat) (hbound : bound < UInt64.size)
    (h : ∀ d ∈ u.data, d.size ≤ bound) :
    u.encode.size ≤ (3 + u.blocksizes.length) * (20 + bound) := by
  have hvalues : ∀ f ∈ u.fields, f.value.size ≤ bound := by
    simp only [fields_eq, List.cons_append, List.mem_cons, List.mem_append, List.mem_map,
      Option.mem_toList]
    rintro f (rfl | (⟨d, hd, rfl⟩ | ⟨n, -, rfl⟩) | ⟨n, -, rfl⟩)
    · exact Nat.zero_le bound
    · exact h d hd
    · exact Nat.zero_le bound
    · exact Nat.zero_le bound
  have hlength : u.fields.length ≤ 3 + u.blocksizes.length := by
    simp only [fields_eq, List.length_append, List.length_cons, List.length_map]
    cases u.data <;> cases u.filesize <;> simp
  exact Nat.le_trans (Wire.size_encode_le u.known_fields hbound hvalues)
    (Nat.mul_le_mul_right _ hlength)

/-- A payload is found again in its fields. -/
theorem ofFields?_fields (u : UnixFs) : ofFields? u.fields = some u := by
  have hkind : Wire.all? 1 Wire.Value.varint? u.fields = some [u.kind.toInt64.toUInt64] := by
    rw [fields_eq, List.cons_append, List.cons_append, Wire.all?_cons_self (by rfl)]
    simp [Wire.all?_append, Wire.all?_map_ne]
  have hdata : Wire.all? 2 Wire.Value.bytes? u.fields = some u.data.toList := by
    simp [fields_eq, Wire.all?_cons_ne, Wire.all?_append, Wire.all?_map_ne]
  have hfilesize : Wire.all? 3 Wire.Value.varint? u.fields = some u.filesize.toList := by
    simp [fields_eq, Wire.all?_cons_ne, Wire.all?_append, Wire.all?_map_ne]
  have hsizes : Wire.all? 4 Wire.Value.varints? u.fields =
      some (u.blocksizes.map fun n => [n]) := by
    have hread : ∀ n ∈ u.blocksizes, Wire.Value.varints? (.varint n) = some [n] := fun _ _ => rfl
    rw [fields_eq, Wire.all?_append, Wire.all?_map hread]
    simp [Wire.all?_cons_ne, Wire.all?_append, Wire.all?_map_ne]
  have hflat : (u.blocksizes.map fun n => [n]).flatten = u.blocksizes := by
    rw [← List.flatMap_def, List.flatMap_singleton']
  simp [ofFields?, Wire.last?, hkind, hdata, hfilesize, hsizes, hflat]

/-- **A payload is read back from its bytes.** -/
theorem decode?_encode {u : UnixFs} (h : u.encode.size < UInt64.size) :
    decode? u.encode = some u := by
  rw [decode?, encode, Wire.decode?_encode u.known_fields h]
  exact u.ofFields?_fields

end UnixFs

/-! ## Links -/

namespace Link

/-- The fields of a link as lists of values. -/
theorem fields_eq (l : Link) :
    l.fields = (l.hash.toList.map fun h => ⟨1, .bytes h⟩) ++
      (l.name.toList.map fun n => ⟨2, .bytes n.toByteArray⟩) ++
      l.tsize.toList.map fun n => ⟨3, .varint n⟩ := by
  simp only [fields, Option.toList_map]

/-- Every field of a link has a written form. -/
theorem known_fields (l : Link) : ∀ f ∈ l.fields, f.Known := by
  intro f hf
  simp only [fields_eq, List.mem_append, List.mem_map] at hf
  rcases hf with (⟨h, -, rfl⟩ | ⟨n, -, rfl⟩) | ⟨n, -, rfl⟩
  · exact .bytes (by decide) (by decide) h
  · exact .bytes (by decide) (by decide) n.toByteArray
  · exact .varint (by decide) (by decide) n

/-- A link is little longer than its hash and its name. -/
theorem size_encode_le {l : Link} (bound : Nat) (hbound : bound < UInt64.size)
    (hhash : ∀ h ∈ l.hash, h.size ≤ bound) (hname : ∀ n ∈ l.name, n.utf8ByteSize ≤ bound) :
    (Wire.encode l.fields).size ≤ 3 * (20 + bound) := by
  have hvalues : ∀ f ∈ l.fields, f.value.size ≤ bound := by
    simp only [fields_eq, List.mem_append, List.mem_map, Option.mem_toList]
    rintro f ((⟨h, hh, rfl⟩ | ⟨n, hn, rfl⟩) | ⟨n, -, rfl⟩)
    · exact hhash h hh
    · exact hname n hn
    · exact Nat.zero_le bound
  have hlength : l.fields.length ≤ 3 := by
    simp only [fields_eq, List.length_append, List.length_map]
    cases l.hash <;> cases l.name <;> cases l.tsize <;> simp
  exact Nat.le_trans (Wire.size_encode_le l.known_fields hbound hvalues)
    (Nat.mul_le_mul_right _ hlength)

/-- A link is found again in its fields. -/
theorem ofFields?_fields (l : Link) : ofFields? l.fields = some l := by
  have hhash : Wire.all? 1 Wire.Value.bytes? l.fields = some l.hash.toList := by
    simp [fields_eq, Wire.all?_append, Wire.all?_map_ne]
  have hname : Wire.all? 2 Wire.Value.text? l.fields = some l.name.toList := by
    simp [fields_eq, Wire.all?_append, Wire.all?_map_ne]
  have htsize : Wire.all? 3 Wire.Value.varint? l.fields = some l.tsize.toList := by
    simp [fields_eq, Wire.all?_append, Wire.all?_map_ne]
  simp [ofFields?, Wire.last?, hhash, hname, htsize]

/-- A link is read back from the field of a node that holds it. -/
theorem ofValue?_bytes {l : Link} (h : (Wire.encode l.fields).size < UInt64.size) :
    ofValue? (.bytes (Wire.encode l.fields)) = some l := by
  have hfields : Wire.decodeAt? (Wire.maxDepth - 1) (Wire.encode l.fields).data.toList =
      some l.fields := Wire.decodeAt?_encode l.known_fields h _
  simp [ofValue?, Wire.Value.bytes?, hfields, ofFields?_fields]

end Link

/-! ## Nodes -/

namespace Node

/-- The fields of a node as lists of values. -/
theorem fields_eq (n : Node) :
    n.fields = (n.links.map fun l => ⟨2, .bytes (Wire.encode l.fields)⟩) ++
      n.data.toList.map fun d => ⟨1, .bytes d⟩ := by
  simp only [fields, Option.toList_map]

/-- Every field of a node has a written form. -/
theorem known_fields (n : Node) : ∀ f ∈ n.fields, f.Known := by
  intro f hf
  simp only [fields_eq, List.mem_append, List.mem_map] at hf
  rcases hf with ⟨l, -, rfl⟩ | ⟨d, -, rfl⟩
  · exact .bytes (by decide) (by decide) (Wire.encode l.fields)
  · exact .bytes (by decide) (by decide) d

/-- A node is little longer than its links and its payload. -/
theorem size_encode_le {n : Node} (bound : Nat) (hbound : bound < UInt64.size)
    (hlinks : ∀ l ∈ n.links, (Wire.encode l.fields).size ≤ bound)
    (hdata : ∀ d ∈ n.data, d.size ≤ bound) :
    n.encode.size ≤ (n.links.length + 1) * (20 + bound) := by
  have hvalues : ∀ f ∈ n.fields, f.value.size ≤ bound := by
    simp only [fields_eq, List.mem_append, List.mem_map, Option.mem_toList]
    rintro f (⟨l, hl, rfl⟩ | ⟨d, hd, rfl⟩)
    · exact hlinks l hl
    · exact hdata d hd
  have hlength : n.fields.length ≤ n.links.length + 1 := by
    simp only [fields_eq, List.length_append, List.length_map]
    cases n.data <;> simp
  exact Nat.le_trans (Wire.size_encode_le n.known_fields hbound hvalues)
    (Nat.mul_le_mul_right _ hlength)

/-- A link is no longer than the node that holds it. -/
theorem size_link_le {n : Node} {l : Link} (h : l ∈ n.links) :
    (Wire.encode l.fields).size ≤ n.encode.size := by
  refine Nat.le_trans (Wire.size_le_size_encode 2 _) (Wire.size_encode_le_of_mem ?_)
  rw [fields_eq]
  exact List.mem_append_left _ (List.mem_map_of_mem h)

/-- A node is found again in its fields. -/
theorem ofFields?_fields {n : Node} (h : n.encode.size < UInt64.size) :
    ofFields? n.fields = some n := by
  have hdata : Wire.all? 1 Wire.Value.bytes? n.fields = some n.data.toList := by
    simp [fields_eq, Wire.all?_append, Wire.all?_map_ne]
  have hread : ∀ l ∈ n.links, Link.ofValue? (.bytes (Wire.encode l.fields)) = some l :=
    fun l hl => Link.ofValue?_bytes (Nat.lt_of_le_of_lt (size_link_le hl) h)
  have hlinks : Wire.all? 2 Link.ofValue? n.fields = some n.links := by
    rw [fields_eq, Wire.all?_append, Wire.all?_map_self hread]
    simp [Wire.all?_map_ne]
  simp [ofFields?, Wire.last?, hdata, hlinks]

/-- **A node is read back from its bytes.** -/
theorem decode?_encode {n : Node} (h : n.encode.size < UInt64.size) :
    decode? n.encode = some n := by
  rw [decode?, encode, Wire.decode?_encode n.known_fields h]
  exact ofFields?_fields h

end Node

end AddressedStorage.Dag
