import AddressedStorage.Proofs.Dag.RoundTrip
import Mathlib.Data.List.Perm.Basic

/-!
# Proofs/Dag/Arrangement — the links of a node, and where its payload stands

A node is written with its links in front of its payload, and in as many bytes as are counted for it
(`Node.size_encode`).  On reading, the order of the links counts and the place of the payload among
them does not (`Node.decode?_fieldsAt`).  What is read back must be shorter than `2 ^ 64` bytes, as
every byte string of a running program is; the length is right in any case.
-/

namespace AddressedStorage.Dag

/-- A link as a field of its node. -/
def Link.field (l : Link) : Wire.Field := ⟨2, .bytes (Wire.encode l.fields)⟩

namespace Node

/-- A payload as a field of its node. -/
def dataField (data : ByteArray) : Wire.Field := ⟨1, .bytes data⟩

/-- The fields of a node with the payload behind the first `k` links. -/
def fieldsAt (n : Node) (k : Nat) : List Wire.Field :=
  (n.links.take k).map Link.field ++ n.data.toList.map dataField ++
    (n.links.drop k).map Link.field

/-- The links stand first, then the payload. -/
theorem fields_eq_append (n : Node) :
    n.fields = n.links.map Link.field ++ n.data.toList.map dataField := n.fields_eq

/-! ## The length counted ahead -/

/-- The links of a node have the length that is counted for them. -/
theorem encodedLength_links (links : List Link) :
    Wire.encodedLength (links.map Link.field) = linksLength links := by
  induction links with
  | nil => rfl
  | cons l links ih =>
    rw [List.map_cons, Wire.encodedLength, ih, linksLength, ← Wire.size_encode]
    rfl

/-- **A node has the length that is counted for it.** -/
theorem size_encode (n : Node) : n.encode.size = n.encodedLength := by
  rw [encode, Wire.size_encode, fields, Wire.encodedLength_append, encodedLength]
  exact congrArg (· + _) (encodedLength_links n.links)

/-! ## Another order -/

variable (n : Node) (k : Nat)

/-- Moving the payload adds no field and loses none. -/
theorem fieldsAt_perm : (n.fieldsAt k).Perm n.fields := by
  have hlinks : n.links.map Link.field =
      (n.links.take k).map Link.field ++ (n.links.drop k).map Link.field := by
    rw [← List.map_append, List.take_append_drop]
  rw [fieldsAt, fields_eq_append, hlinks, List.append_assoc, List.append_assoc]
  exact List.perm_append_comm.append_left _

/-- Nor does it change the order of the fields of any one number. -/
theorem filter_fieldsAt (number : Nat) :
    (n.fieldsAt k).filter (·.number = number) = n.fields.filter (·.number = number) := by
  have hlinks : ∀ links : List Link, (links.map Link.field).filter (·.number = number) =
      if 2 = number then links.map Link.field else [] := Wire.filter_map_of_number fun _ => rfl
  have hdata : ∀ data : List ByteArray, (data.map dataField).filter (·.number = number) =
      if 1 = number then data.map dataField else [] := Wire.filter_map_of_number fun _ => rfl
  simp only [fieldsAt, fields_eq_append, List.filter_append, hlinks, hdata]
  by_cases hnumber : 2 = number
  · subst hnumber
    rw [if_pos rfl, if_pos rfl, if_pos rfl, if_neg (by decide), List.append_nil, List.append_nil,
      ← List.map_append, List.take_append_drop]
  · simp only [if_neg hnumber, List.nil_append, List.append_nil]

variable {n}

theorem ofFields?_congr {fields fields' : List Wire.Field}
    (h : ∀ number, fields.filter (·.number = number) = fields'.filter (·.number = number)) :
    ofFields? fields = ofFields? fields' := by
  rw [ofFields?, ofFields?, Wire.last?, Wire.last?, Wire.all?_congr (h 1), Wire.all?_congr (h 2)]

/-- **A node is read back wherever its payload stands.** -/
theorem decode?_fieldsAt (h : n.encode.size < UInt64.size) (k : Nat) :
    decode? (Wire.encode (n.fieldsAt k)) = some n := by
  have hperm := n.fieldsAt_perm k
  have known : ∀ f ∈ n.fieldsAt k, f.Known := fun f hf => n.known_fields f (hperm.mem_iff.mp hf)
  have hsize : (Wire.encode (n.fieldsAt k)).size < UInt64.size :=
    Nat.lt_of_le_of_lt (Nat.le_of_eq (Wire.size_encode_of_perm hperm)) h
  rw [decode?, Wire.decode?_encode known hsize]
  exact (ofFields?_congr (n.filter_fieldsAt k)).trans (ofFields?_fields h)

/-- **A node is read back from its bytes, in whatever order they hold its parts.**  It takes as many
bytes as are counted for it; they hold its links, in order, and then its payload; and if the payload
is moved in front of the links or between any two of them, the node is still what is read. -/
theorem decode?_encode_anyOrder (n : Node) :
    n.encode.size = n.encodedLength ∧
    (n.encode.size < UInt64.size →
      decode? n.encode = some n ∧
      Wire.decode? n.encode.data.toList =
        some (n.links.map Link.field ++ n.data.toList.map dataField) ∧
      ∀ k, decode? (Wire.encode (n.fieldsAt k)) = some n) := by
  refine ⟨n.size_encode, fun h => ⟨decode?_encode h, ?_, decode?_fieldsAt h⟩⟩
  rw [← fields_eq_append]
  exact Wire.decode?_encode n.known_fields h

/-- Two links that lack what the other has, and a payload without bytes. -/
def twoLinks : Node where
  links := [⟨none, some "", some 0xffffffffffffffff⟩, ⟨some ByteArray.empty, none, none⟩]
  data := some ByteArray.empty

/-- A payload between two links is read back. -/
theorem decode?_encode_anyOrder_twoLinks :
    twoLinks.encode.size < UInt64.size ∧
      decode? (Wire.encode (twoLinks.fieldsAt 1)) = some twoLinks := by
  have hlinks : ∀ l ∈ twoLinks.links, (Wire.encode l.fields).size ≤ 60 := by
    intro l hl
    refine Link.size_encode_le 0 (by decide) ?_ ?_ <;>
      rcases List.mem_pair.mp hl with rfl | rfl <;> simp
  have hsize : twoLinks.encode.size ≤ 240 :=
    size_encode_le 60 (by decide) hlinks (by simp [twoLinks])
  have hlt : twoLinks.encode.size < UInt64.size := Nat.lt_of_le_of_lt hsize (by decide)
  obtain ⟨-, hread⟩ := decode?_encode_anyOrder twoLinks
  exact ⟨hlt, (hread hlt).2.2 1⟩

end Node

end AddressedStorage.Dag
