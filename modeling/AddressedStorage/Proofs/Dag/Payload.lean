import AddressedStorage.Proofs.Dag.RoundTrip
import Mathlib.Data.List.Perm.Basic

/-!
# Proofs/Dag/Payload — the other forms of a payload

A payload is written with its kind in front and its sizes one by one at the end.  A reader also takes
the sizes in runs, each of them packed into one field or not, and the other fields at any place before,
between and behind them (`Arranged`).  All of these forms are read as the same payload
(`Arranged.decode?`), because the fields of one number keep their order and unpacking a run gives back
its numbers (`unpack?_pack`).
-/

namespace AddressedStorage

namespace Wire

/-- A run of numbers in one byte string. -/
def pack (ns : List UInt64) : ByteArray := (ns.flatMap fun n => Varint.encode n.toNat).toByteArray

/-- **A run is unpacked into its numbers.** -/
theorem unpack?_pack (ns : List UInt64) : unpack? (pack ns).data.toList = some ns := by
  rw [pack, List.data_toByteArray]
  induction ns with
  | nil =>
    rw [unpack?]
    exact if_pos rfl
  | cons n ns ih =>
    have hne : Varint.encode n.toNat ++ ns.flatMap (fun n => Varint.encode n.toNat) ≠ [] :=
      List.append_ne_nil_of_left_ne_nil (Varint.encode_ne_nil _) _
    have hread := Varint.decode?_encode_toNat n (ns.flatMap fun n => Varint.encode n.toNat)
    rw [List.flatMap_cons, unpack?, if_neg hne]
    split
    · rename_i h
      cases h.symm.trans hread
    · rename_i h
      obtain ⟨rfl, rfl⟩ := Prod.mk.inj (Option.some.inj (h.symm.trans hread))
      rw [ih, Option.map_some]

end Wire

namespace Dag.UnixFs

/-! ## Runs of sizes -/

/-- A stretch of the sizes of a payload, as it stands in one field. -/
inductive SizeRun where
  | single (n : UInt64)
  | packed (ns : List UInt64)

namespace SizeRun

/-- The sizes of a run. -/
def sizes : SizeRun → List UInt64
  | single n => [n]
  | packed ns => ns

/-- What the field of a run holds. -/
def value : SizeRun → Wire.Value
  | single n => .varint n
  | packed ns => .bytes (Wire.pack ns)

/-- The field of a run. -/
def field (r : SizeRun) : Wire.Field := ⟨4, r.value⟩

/-- **A run is read as its sizes.** -/
theorem varints?_value (r : SizeRun) : Wire.Value.varints? r.value = some r.sizes := by
  cases r with
  | single n => rfl
  | packed ns => exact Wire.unpack?_pack ns

theorem known_field (r : SizeRun) : r.field.Known := by
  cases r with
  | single n => exact .varint (by decide) (by decide) n
  | packed ns => exact .bytes (by decide) (by decide) (Wire.pack ns)

end SizeRun

/-! ## Fields at other places -/

variable (u : UnixFs)

/-- The field of the kind, which is always there. -/
def kindField : Wire.Field := ⟨1, .varint u.kind.toInt64.toUInt64⟩

/-- The fields of a payload besides its sizes, each of them at most once. -/
def soleFields : List Wire.Field :=
  u.kindField :: (u.data.toList.map fun d => ⟨2, .bytes d⟩) ++
    u.filesize.toList.map fun n => ⟨3, .varint n⟩

/-- The sizes stand behind the other fields, one by one. -/
theorem fields_eq_soleFields :
    u.fields = u.soleFields ++ (u.blocksizes.map SizeRun.single).map SizeRun.field := by
  rw [fields_eq, List.map_map]
  rfl

/-- The fields of each number. -/
theorem filter_soleFields (runs : List SizeRun) (number : Nat) :
    (u.soleFields ++ runs.map SizeRun.field).filter (·.number = number) =
      (if 1 = number then [u.kindField] else []) ++
      (if 2 = number then u.data.toList.map fun d => ⟨2, .bytes d⟩ else []) ++
      (if 3 = number then u.filesize.toList.map fun n => ⟨3, .varint n⟩ else []) ++
      (if 4 = number then runs.map SizeRun.field else []) := by
  have hkind : [u.kindField].filter (·.number = number) =
      if 1 = number then [u.kindField] else [] := by
    by_cases hnumber : 1 = number <;> simp [kindField, hnumber]
  have hdata : ∀ ds : List ByteArray,
      (ds.map fun d => (⟨2, .bytes d⟩ : Wire.Field)).filter (·.number = number) =
        if 2 = number then ds.map fun d => ⟨2, .bytes d⟩ else [] :=
    Wire.filter_map_of_number fun _ => rfl
  have hfilesize : ∀ ns : List UInt64,
      (ns.map fun n => (⟨3, .varint n⟩ : Wire.Field)).filter (·.number = number) =
        if 3 = number then ns.map fun n => ⟨3, .varint n⟩ else [] :=
    Wire.filter_map_of_number fun _ => rfl
  have hsizes : ∀ rs : List SizeRun, (rs.map SizeRun.field).filter (·.number = number) =
      if 4 = number then rs.map SizeRun.field else [] := Wire.filter_map_of_number fun _ => rfl
  rw [soleFields, List.cons_append, ← List.singleton_append]
  simp only [List.filter_append, hkind, hdata, hfilesize, hsizes, List.append_assoc]

/-- Fields of a payload in any order, in which the sizes keep theirs and stand in runs. -/
structure Arranged (runs : List SizeRun) (fields : List Wire.Field) : Prop where
  sizes : runs.flatMap SizeRun.sizes = u.blocksizes
  perm : fields.Perm (u.soleFields ++ runs.map SizeRun.field)
  order : fields.filter (·.number = 4) = runs.map SizeRun.field

variable {u} {runs : List SizeRun} {fields : List Wire.Field}

/-- The form in which a payload is written is one of them. -/
theorem arranged_fields (u : UnixFs) : u.Arranged (u.blocksizes.map .single) u.fields where
  sizes := by rw [List.flatMap_map]; exact List.flatMap_singleton' _
  perm := .of_eq u.fields_eq_soleFields
  order := by rw [fields_eq_soleFields, filter_soleFields]; rfl

theorem Arranged.known (h : u.Arranged runs fields) : ∀ f ∈ fields, f.Known := by
  intro f hf
  rcases List.mem_append.mp (h.perm.mem_iff.mp hf) with hsole | hrun
  · refine u.known_fields f ?_
    rw [fields_eq_soleFields]
    exact List.mem_append_left _ hsole
  · obtain ⟨r, -, rfl⟩ := List.mem_map.mp hrun
    exact r.known_field

/-- Lists of the same elements, of which there is one at most, are the same. -/
theorem eq_of_perm_of_length_le {α : Type} {xs ys : List α} (h : xs.Perm ys)
    (hlength : ys.length ≤ 1) : xs = ys := by
  match ys, hlength with
  | [], _ => exact List.perm_nil.mp h
  | [y], _ => exact List.perm_singleton.mp h

/-- **The fields of each number stand as if none had been moved.** -/
theorem Arranged.filter_eq (h : u.Arranged runs fields) (number : Nat) :
    fields.filter (·.number = number) =
      (u.soleFields ++ runs.map SizeRun.field).filter (·.number = number) := by
  by_cases hnumber : 4 = number
  · subst hnumber
    rw [h.order, filter_soleFields]
    rfl
  · refine eq_of_perm_of_length_le (h.perm.filter _) ?_
    have hdata : u.data.toList.length ≤ 1 := by cases u.data <;> simp
    have hfilesize : u.filesize.toList.length ≤ 1 := by cases u.filesize <;> simp
    rw [filter_soleFields, if_neg hnumber, List.append_nil]
    split_ifs <;> simp_all <;> omega

/-- A payload is found in its fields if its sizes stand behind the others in runs. -/
theorem ofFields?_runs (h : runs.flatMap SizeRun.sizes = u.blocksizes) :
    ofFields? (u.soleFields ++ runs.map SizeRun.field) = some u := by
  have hfields : u.soleFields ++ runs.map SizeRun.field =
      ⟨1, .varint u.kind.toInt64.toUInt64⟩ :: (u.data.toList.map fun d => ⟨2, .bytes d⟩) ++
        (u.filesize.toList.map fun n => ⟨3, .varint n⟩) ++ runs.map fun r => ⟨4, r.value⟩ := rfl
  have hkind : Wire.all? 1 Wire.Value.varint? (u.soleFields ++ runs.map SizeRun.field) =
      some [u.kind.toInt64.toUInt64] := by
    rw [hfields, List.cons_append, List.cons_append, Wire.all?_cons_self (by rfl)]
    simp [Wire.all?_append, Wire.all?_map_ne]
  have hdata : Wire.all? 2 Wire.Value.bytes? (u.soleFields ++ runs.map SizeRun.field) =
      some u.data.toList := by
    simp [hfields, Wire.all?_cons_ne, Wire.all?_append, Wire.all?_map_ne]
  have hfilesize : Wire.all? 3 Wire.Value.varint? (u.soleFields ++ runs.map SizeRun.field) =
      some u.filesize.toList := by
    simp [hfields, Wire.all?_cons_ne, Wire.all?_append, Wire.all?_map_ne]
  have hsizes : Wire.all? 4 Wire.Value.varints? (u.soleFields ++ runs.map SizeRun.field) =
      some (runs.map SizeRun.sizes) := by
    rw [hfields, Wire.all?_append, Wire.all?_map fun r _ => r.varints?_value]
    simp [Wire.all?_cons_ne, Wire.all?_append, Wire.all?_map_ne]
  have hflat : (runs.map SizeRun.sizes).flatten = u.blocksizes := List.flatMap_def ▸ h
  simp [ofFields?, Wire.last?, hkind, hdata, hfilesize, hsizes, hflat]

/-- **A payload is read back from its fields, however they are arranged.** -/
theorem Arranged.decode? (h : u.Arranged runs fields)
    (hsize : (Wire.encode fields).size < UInt64.size) :
    UnixFs.decode? (Wire.encode fields) = some u := by
  have hfields : ofFields? fields = ofFields? (u.soleFields ++ runs.map SizeRun.field) := by
    simp only [ofFields?, Wire.last?, Wire.all?_congr (h.filter_eq _)]
  rw [UnixFs.decode?, Wire.decode?_encode h.known hsize]
  exact hfields.trans (ofFields?_runs h.sizes)

/-- **A payload is read back from its bytes, in whatever form they hold it.**  It takes as many bytes as
are counted for it, and they begin with its kind.  If its sizes are packed in runs, all of them in one
or otherwise, and the other fields moved to any places, the payload is still what is read. -/
theorem decode?_encode_anyForm (u : UnixFs) :
    u.encode.size = u.encodedLength ∧
    (u.encode.size < UInt64.size → decode? u.encode = some u ∧
      ∃ rest, Wire.decode? u.encode.data.toList = some (u.kindField :: rest)) ∧
    ∀ runs fields, u.Arranged runs fields → (Wire.encode fields).size < UInt64.size →
      decode? (Wire.encode fields) = some u := by
  refine ⟨Wire.size_encode u.fields, fun hsize => ⟨?_, ?_⟩, fun _ _ h hsize => h.decode? hsize⟩
  · exact u.arranged_fields.decode? hsize
  · exact ⟨_, Wire.decode?_encode u.known_fields hsize⟩

/-- A payload of a kind without a name, which carries no bytes. -/
def unnamed : UnixFs where
  kind := -7
  data := some ByteArray.empty
  filesize := some 0xffffffffffffffff
  blocksizes := [0, 0xffffffffffffffff, 300]

/-- Its fields with two sizes packed in front, the third between the others and the kind at the
end. -/
def unnamedFields : List Wire.Field :=
  [(SizeRun.packed [0, 0xffffffffffffffff]).field, ⟨3, .varint 0xffffffffffffffff⟩,
    (SizeRun.single 300).field, ⟨2, .bytes ByteArray.empty⟩, unnamed.kindField]

/-- It is read back from them. -/
theorem decode?_encode_anyForm_unnamed :
    unnamed.Arranged [.packed [0, 0xffffffffffffffff], .single 300] unnamedFields ∧
      (Wire.encode unnamedFields).size < UInt64.size ∧
      decode? (Wire.encode unnamedFields) = some unnamed := by
  have harranged : unnamed.Arranged [.packed [0, 0xffffffffffffffff], .single 300] unnamedFields :=
    ⟨rfl, by decide +kernel, rfl⟩
  have hsize : (Wire.encode unnamedFields).size < UInt64.size := by
    rw [Wire.size_encode]
    decide +kernel
  obtain ⟨-, -, hread⟩ := decode?_encode_anyForm unnamed
  exact ⟨harranged, hsize, hread _ _ harranged hsize⟩

end Dag.UnixFs

end AddressedStorage
