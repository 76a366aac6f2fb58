import AddressedStorage.Proofs.Bytes.Concat
import AddressedStorage.Proofs.Bytes.Varint
import AddressedStorage.Wire.Field

/-!
# Proofs/Wire/RoundTrip — field lists are read back

A field list of known shapes is read back from its bytes at any depth (`decodeAt?_encode`): a key
tells number and shape, a varint where it ends, and a byte string its length.  The lengths must fit
64 bits, which every byte string of a running program does.
-/

namespace AddressedStorage.Wire

/-! ## Writing field by field -/

/-- A message is the concatenation of its fields. -/
theorem encode_eq_concat (fields : List Field) :
    encode fields = Bytes.concat (fields.map Field.encode) := by
  rw [encode, Bytes.concat, List.foldl_map]

@[simp] theorem encode_nil : encode [] = ByteArray.empty := rfl

@[simp] theorem encode_cons (f : Field) (fields : List Field) :
    encode (f :: fields) = f.encode ++ encode fields := by
  simp only [encode_eq_concat, List.map_cons, Bytes.concat_cons]

/-- A number as a field. -/
theorem toList_encode_varint (number : Nat) (n : UInt64) :
    (Field.encode ⟨number, .varint n⟩).data.toList =
      key number .varint ++ Varint.encode n.toNat := by
  simp [Field.encode]

/-- A byte string as a field. -/
theorem toList_encode_bytes (number : Nat) (content : ByteArray) :
    (Field.encode ⟨number, .bytes content⟩).data.toList =
      key number .bytes ++ (Varint.encode content.size ++ content.data.toList) := by
  simp [Field.encode]

/-- A byte string is no longer than the field that holds it. -/
theorem size_le_size_encode (number : Nat) (content : ByteArray) :
    content.size ≤ (Field.encode ⟨number, .bytes content⟩).size := by
  simp only [Field.encode, ByteArray.size_append]
  omega

/-! ## Reading what was written -/

/-- A field of a shape that has a written form, with a key that fits 32 bits. -/
structure Field.Known (f : Field) : Prop where
  number_pos : 0 < f.number
  number_lt : 8 * f.number + 8 ≤ UInt32.size
  not_foreign : f.value ≠ .foreign

theorem Field.Known.varint {number : Nat} (hpos : 0 < number)
    (hlt : 8 * number + 8 ≤ UInt32.size) (n : UInt64) : Field.Known ⟨number, .varint n⟩ :=
  ⟨hpos, hlt, by simp⟩

theorem Field.Known.bytes {number : Nat} (hpos : 0 < number)
    (hlt : 8 * number + 8 ≤ UInt32.size) (content : ByteArray) :
    Field.Known ⟨number, .bytes content⟩ :=
  ⟨hpos, hlt, by simp⟩

@[simp] theorem ofCode?_code (s : Shape) : Shape.ofCode? s.code = some s := by cases s <;> rfl

theorem code_lt (s : Shape) : s.code < 8 := by cases s <;> decide

/-- A key is read back from its bytes. -/
theorem readKey_key {number : Nat} (hpos : 0 < number) (hlt : 8 * number + 8 ≤ UInt32.size)
    (s : Shape) (rest : List UInt8) : readKey (key number s ++ rest) = some (number, s, rest) := by
  have hcode := code_lt s
  have hsize : UInt32.size < UInt64.size := by decide
  have hkey : (8 * number + s.code).toUInt64.toNat = 8 * number + s.code :=
    UInt64.toNat_ofNat_of_lt' (by omega)
  simp only [readKey, key, Varint.decode?_encode (by omega : 8 * number + s.code < UInt64.size),
    hkey]
  rw [if_pos (by omega), Nat.mul_add_mod, Nat.mod_eq_of_lt hcode, ofCode?_code, Option.map_some,
    Nat.mul_add_div (by decide), Nat.div_eq_of_lt hcode, Nat.add_zero]

/-- A number is read back from behind its key. -/
theorem readValue_varint (depth number : Nat) (n : UInt64) (rest : List UInt8) :
    readValue depth number .varint (Varint.encode n.toNat ++ rest) = some (.varint n, rest) := by
  simp [readValue, readScalar]

/-- A byte string is read back from behind its key. -/
theorem readValue_bytes (depth number : Nat) {content : ByteArray}
    (h : content.size < UInt64.size) (rest : List UInt8) :
    readValue depth number .bytes
        (Varint.encode content.size ++ (content.data.toList ++ rest)) =
      some (.bytes content, rest) := by
  have hsize : content.size.toUInt64.toNat = content.size := UInt64.toNat_ofNat_of_lt' h
  simp only [readValue, readScalar, Varint.decode?_encode h, hsize]
  rw [Bytes.splitExactly?_append (by simp), Option.map_some]
  simp

/-- One field is read back from in front of any bytes. -/
theorem decodeAt?_cons {depth number : Nat} {s : Shape} {value : Value} {payload : List UInt8}
    (hpos : 0 < number) (hlt : 8 * number + 8 ≤ UInt32.size)
    (hread : ∀ rest, readValue depth number s (payload ++ rest) = some (value, rest))
    (rest : List UInt8) :
    decodeAt? depth (key number s ++ payload ++ rest) =
      (decodeAt? depth rest).map (⟨number, value⟩ :: ·) := by
  have hne : key number s ++ payload ++ rest ≠ [] := by
    simp [key, Varint.encode_ne_nil]
  have hkey := readKey_key hpos hlt s (payload ++ rest)
  rw [decodeAt?, if_neg hne]
  split
  · rename_i h
    simp [List.append_assoc, hkey] at h
  · rename_i h
    rw [List.append_assoc, hkey] at h
    cases h
    split
    · rename_i h
      simp [hread] at h
    · rename_i h
      rw [hread] at h
      cases h
      rfl

/-- **A field list is read back from its bytes**, however deep it stands. -/
theorem decodeAt?_encode {fields : List Field} (known : ∀ f ∈ fields, f.Known)
    (hsize : (encode fields).size < UInt64.size) (depth : Nat) :
    decodeAt? depth (encode fields).data.toList = some fields := by
  induction fields with
  | nil =>
    rw [decodeAt?]
    exact if_pos rfl
  | cons f fields ih =>
    obtain ⟨hpos, hlt, hforeign⟩ := known f List.mem_cons_self
    rw [encode_cons, ByteArray.size_append] at hsize
    have hrest := ih (fun g hg => known g (List.mem_cons_of_mem f hg)) (by omega)
    rcases f with ⟨number, n | content | _⟩
    case varint =>
      rw [encode_cons, ByteArray.data_append, Array.toList_append, toList_encode_varint,
        decodeAt?_cons hpos hlt (readValue_varint depth number n), hrest, Option.map_some]
    case bytes =>
      have hcontent : content.size < UInt64.size := by
        have := size_le_size_encode number content
        omega
      have hread : ∀ rest, readValue depth number .bytes
          ((Varint.encode content.size ++ content.data.toList) ++ rest) =
            some (.bytes content, rest) := fun rest => by
        rw [List.append_assoc, readValue_bytes depth number hcontent]
      rw [encode_cons, ByteArray.data_append, Array.toList_append, toList_encode_bytes,
        decodeAt?_cons hpos hlt hread, hrest, Option.map_some]
    case foreign => exact absurd rfl hforeign

/-- A message that stands by itself is read back. -/
theorem decode?_encode {fields : List Field} (known : ∀ f ∈ fields, f.Known)
    (hsize : (encode fields).size < UInt64.size) :
    decode? (encode fields).data.toList = some fields :=
  decodeAt?_encode known hsize maxDepth

/-! ## The length counted ahead -/

/-- The shape of a field does not make its key longer. -/
theorem length_key (number : Nat) (s : Shape) :
    (key number s).length = Varint.length (8 * number) := by
  have hcode := code_lt s
  have hlow : 8 * number + s.code < 128 ↔ 8 * number < 128 := by omega
  have hdiv : (8 * number + s.code) / 128 = 8 * number / 128 := by omega
  rw [key, Varint.length_encode, Varint.length.eq_def, Varint.length.eq_def (8 * number), hdiv]
  simp only [hlow]

/-- **A field has the length that is counted for it.** -/
theorem Field.size_encode (f : Field) : f.encode.size = f.length := by
  rcases f with ⟨number, n | content | _⟩
  case varint => simp [encode, length, length_key]
  case bytes => simp [encode, length, length_key]
  case foreign => rfl

/-- The length of a message is that of its fields together. -/
theorem encodedLength_eq_sum (fields : List Field) :
    encodedLength fields = (fields.map Field.length).sum := by
  induction fields with
  | nil => rfl
  | cons f fields ih => rw [encodedLength, ih, List.map_cons, List.sum_cons]

theorem encodedLength_append (front back : List Field) :
    encodedLength (front ++ back) = encodedLength front + encodedLength back := by
  simp only [encodedLength_eq_sum, List.map_append, List.sum_append]

/-- **A message has the length that is counted for it.** -/
theorem size_encode (fields : List Field) : (encode fields).size = encodedLength fields := by
  have hsizes : ByteArray.size ∘ Field.encode = Field.length := funext Field.size_encode
  rw [encode_eq_concat, Bytes.size_concat, List.map_map, hsizes, encodedLength_eq_sum]

/-- The order of the fields does not change it. -/
theorem size_encode_of_perm {fields fields' : List Field} (h : fields.Perm fields') :
    (encode fields).size = (encode fields').size := by
  rw [size_encode, size_encode, encodedLength_eq_sum, encodedLength_eq_sum]
  exact (h.map Field.length).sum_nat

/-! ## How long a message gets -/

/-- The bytes a value carries besides its key and its number. -/
def Value.size : Value → Nat
  | .bytes content => content.size
  | _ => 0

/-- A field takes at most twenty bytes more than it carries. -/
theorem Field.Known.size_encode_le {f : Field} (known : f.Known)
    (hsize : f.value.size < UInt64.size) : f.encode.size ≤ 20 + f.value.size := by
  obtain ⟨-, hlt, hforeign⟩ := known
  have hkey : ∀ s : Shape, (key f.number s).length ≤ Varint.maxBytes := fun s => by
    have hcode := code_lt s
    rw [key, Varint.length_encode]
    exact Varint.length_le_maxBytes (by simp only [UInt32.size, UInt64.size] at *; omega)
  rcases f with ⟨number, n | content | _⟩
  case varint =>
    have hn : Varint.length n.toNat ≤ Varint.maxBytes := Varint.length_le_maxBytes n.toNat_lt
    have := hkey .varint
    simp only [Field.encode, Value.size, List.size_toByteArray, List.length_append,
      Varint.length_encode, Varint.maxBytes] at *
    omega
  case bytes =>
    have hn : Varint.length content.size ≤ Varint.maxBytes := Varint.length_le_maxBytes hsize
    have := hkey .bytes
    simp only [Field.encode, Value.size, ByteArray.size_append, List.size_toByteArray,
      List.length_append, Varint.length_encode, Varint.maxBytes] at *
    omega
  case foreign => exact absurd rfl hforeign

/-- Fields that carry little make a short message. -/
theorem size_encode_le {fields : List Field} {bound : Nat} (known : ∀ f ∈ fields, f.Known)
    (hbound : bound < UInt64.size) (h : ∀ f ∈ fields, f.value.size ≤ bound) :
    (encode fields).size ≤ fields.length * (20 + bound) := by
  induction fields with
  | nil => simp
  | cons f fields ih =>
    have hf := h f List.mem_cons_self
    have hsize := (known f List.mem_cons_self).size_encode_le (Nat.lt_of_le_of_lt hf hbound)
    have hrest := ih (fun g hg => known g (List.mem_cons_of_mem f hg))
      fun g hg => h g (List.mem_cons_of_mem f hg)
    rw [encode_cons, ByteArray.size_append, List.length_cons, Nat.succ_mul]
    omega

/-- A field is no longer than the message it is in. -/
theorem size_encode_le_of_mem {f : Field} {fields : List Field} (h : f ∈ fields) :
    f.encode.size ≤ (encode fields).size := by
  induction h with
  | head => rw [encode_cons, ByteArray.size_append]; omega
  | tail _ _ ih => rw [encode_cons, ByteArray.size_append]; omega

/-! ## Looking fields up -/

section Lookup

variable {α : Type} {number : Nat} {read : Value → Option α}

@[simp] theorem all?_nil : all? number read [] = some [] := rfl

/-- Fields of one number are all picked by it, and by no other. -/
theorem filter_map_of_number {β : Type} {number other : Nat} {field : β → Field}
    (h : ∀ b, (field b).number = number) (bs : List β) :
    (bs.map field).filter (·.number = other) = if number = other then bs.map field else [] := by
  split
  · rename_i heq
    refine List.filter_eq_self.mpr fun f hf => ?_
    obtain ⟨b, -, rfl⟩ := List.mem_map.mp hf
    simpa [h b] using heq
  · rename_i hne
    refine List.filter_eq_nil_iff.mpr fun f hf => ?_
    obtain ⟨b, -, rfl⟩ := List.mem_map.mp hf
    simpa [h b] using hne

/-- Only the fields of the number count, and their order. -/
theorem all?_congr {fields fields' : List Field}
    (h : fields.filter (·.number = number) = fields'.filter (·.number = number)) :
    all? number read fields = all? number read fields' := by
  rw [all?, h, all?]

/-- A field of another number is passed over. -/
theorem all?_cons_ne {f : Field} (h : f.number ≠ number) (fields : List Field) :
    all? number read (f :: fields) = all? number read fields := by
  rw [all?, List.filter_cons_of_neg (by simpa using h), all?]

/-- A field of the number that can be read comes first. -/
theorem all?_cons_self {value : Value} {x : α} (h : read value = some x) (fields : List Field) :
    all? number read (⟨number, value⟩ :: fields) = (all? number read fields).map (x :: ·) := by
  rw [all?, List.filter_cons_of_pos (by simp), List.mapM_cons, h, all?]
  cases List.mapM (fun f : Field => read f.value) (fields.filter (·.number = number)) <;> rfl

/-- What is found in a whole is what is found in its parts. -/
theorem all?_append (front back : List Field) :
    all? number read (front ++ back) =
      (all? number read front).bind fun xs => (all? number read back).map (xs ++ ·) := by
  simp only [all?, List.filter_append, List.mapM_append, Option.map_eq_bind]
  rfl

/-- Values written under one number are all found. -/
theorem all?_map {β : Type} {write : β → Value} {value : β → α} {bs : List β}
    (h : ∀ b ∈ bs, read (write b) = some (value b)) :
    all? number read (bs.map fun b => ⟨number, write b⟩) = some (bs.map value) := by
  induction bs with
  | nil => rfl
  | cons b bs ih =>
    rw [List.map_cons, all?_cons_self (h b List.mem_cons_self),
      ih fun c hc => h c (List.mem_cons_of_mem b hc), Option.map_some, List.map_cons]

/-- Values that are read back as they were written are all found. -/
theorem all?_map_self {write : α → Value} {xs : List α}
    (h : ∀ x ∈ xs, read (write x) = some x) :
    all? number read (xs.map fun x => ⟨number, write x⟩) = some xs := by
  rw [all?_map h, List.map_id']

/-- Values written under another number are passed over. -/
theorem all?_map_ne {β : Type} {other : Nat} (h : other ≠ number) (write : β → Value)
    (bs : List β) : all? number read (bs.map fun b => ⟨other, write b⟩) = some [] := by
  induction bs with
  | nil => rfl
  | cons b bs ih => rw [List.map_cons, all?_cons_ne h, ih]

@[simp] theorem all?_varint (ns : List UInt64) :
    all? number Value.varint? (ns.map fun n => ⟨number, .varint n⟩) = some ns :=
  all?_map_self fun _ _ => rfl

@[simp] theorem all?_bytes (contents : List ByteArray) :
    all? number Value.bytes? (contents.map fun c => ⟨number, .bytes c⟩) = some contents :=
  all?_map_self fun _ _ => rfl

@[simp] theorem all?_text (texts : List String) :
    all? number Value.text? (texts.map fun t => ⟨number, .bytes t.toByteArray⟩) = some texts :=
  all?_map_self fun t _ => by
    simp only [Value.text?, String.fromUTF8?, Option.dite_none_right_eq_some]
    exact ⟨t.isValidUTF8, rfl⟩

/-- The last of at most one value. -/
@[simp] theorem getLast?_toList (x : Option α) : x.toList.getLast? = x := by cases x <;> rfl

end Lookup

end AddressedStorage.Wire
