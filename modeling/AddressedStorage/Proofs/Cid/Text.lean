import AddressedStorage.Cid.Text
import AddressedStorage.Proofs.Bytes.Base32
import AddressedStorage.Proofs.Bytes.Base58
import AddressedStorage.Proofs.Cid.Grammar

/-!
# Proofs/Cid/Text — which texts name what

Version 0 has one spelling.  A number of 34 bytes that starts with `0x12 0x20` has 46 digits in base
58, of which the first two are `Q` and `m`; and a number of 46 digits that starts with `Q` and `m` has
34 bytes, of which the first is `0x12`, so it is no version 1.  All other texts start with a multibase
character and name version 1 only (`parse_eq_ok_iff`).
-/

namespace AddressedStorage.Cid

/-! ## The number behind version 0 -/

/-- **34 bytes are 46 digits.**  The first two bytes of a multihash fix the first two digits. -/
theorem digits_multihash {r : Nat} (hr : r < 256 ^ 32) :
    ∃ ds, Radix.digits 58 (0x1220 * 256 ^ 32 + r) = 23 :: 44 :: ds ∧ ds.length = 44 := by
  -- 1378 is the number of the two digits.
  obtain ⟨t, ht, hsum⟩ : ∃ t < 58 ^ 44, 0x1220 * 256 ^ 32 + r = 1378 * 58 ^ 44 + t :=
    ⟨0x1220 * 256 ^ 32 + r - 1378 * 58 ^ 44, by omega, by omega⟩
  refine ⟨Radix.padded 58 44 t, ?_, Radix.length_padded _ _ _⟩
  rw [hsum]
  exact Radix.digits_mul_pow_add (by decide) [23, 44] (by decide) (by decide) (by decide) ht

/-- **46 digits are 34 bytes.**  The first two digits of a text of version 0 fix the first byte. -/
theorem digits_v0Text {r : Nat} (hr : r < 58 ^ 44) :
    ∃ ds, Radix.digits 256 (1378 * 58 ^ 44 + r) = 0x12 :: ds := by
  obtain ⟨t, ht, hsum⟩ : ∃ t < 256 ^ 33, 1378 * 58 ^ 44 + r = 0x12 * 256 ^ 33 + t :=
    ⟨1378 * 58 ^ 44 + r - 0x12 * 256 ^ 33, by omega, by omega⟩
  refine ⟨Radix.padded 256 33 t, ?_⟩
  rw [hsum]
  exact Radix.digits_mul_pow_add (by decide) [0x12] (by decide) (by decide) (by decide) ht

/-- A multihash is written with 46 characters that start with `Qm`. -/
theorem encode_multihash (d : Digest) :
    ∃ rest, Base58.encode (0x12 :: 0x20 :: d.toList) = 'Q' :: 'm' :: rest ∧ rest.length = 44 := by
  have hr : Radix.ofBytes d.toList < 256 ^ 32 := by
    simpa using Radix.ofBytes_lt d.toList
  have hvalue : Radix.ofBytes (0x12 :: 0x20 :: d.toList) =
      0x1220 * 256 ^ 32 + Radix.ofBytes d.toList := by
    have happend := Radix.value_append 256 [0x12, 0x20] (d.toList.map UInt8.toNat)
    rwa [List.length_map, Digest.length_toList] at happend
  obtain ⟨ds, hdigits, hlength⟩ := digits_multihash hr
  refine ⟨ds.map Base58.symbol, ?_, (List.length_map _).trans hlength⟩
  rw [Base58.encode, hvalue, hdigits]
  rfl

/-- A text of 46 characters that starts with `Qm` stands for bytes that start with the hash function of
a multihash. -/
theorem decode_v0Text {rest : List Char} {bytes : List UInt8} (hlength : rest.length = 44)
    (h : Base58.decode ('Q' :: 'm' :: rest) = .ok bytes) : ∃ tail, bytes = 0x12 :: tail := by
  have hlead : ∀ d < 58, (Base58.symbol d = 'Q' → d = 23) ∧ (Base58.symbol d = 'm' → d = 44) := by
    decide +kernel
  obtain ⟨ds, hdigits, hbytes⟩ := map_eq_ok_iff.mp h
  obtain ⟨hall, htext⟩ := Base58.map_symbol_of_readDigits hdigits
  obtain ⟨d, ds, rfl, hQ, htail⟩ := List.map_eq_cons_iff.mp htext
  obtain ⟨d', ds, rfl, hm, hrest⟩ := List.map_eq_cons_iff.mp htail
  obtain ⟨hd, hd', hlt⟩ : d < 58 ∧ d' < 58 ∧ ∀ e ∈ ds, e < 58 := by simpa using hall
  obtain rfl := (hlead d hd).1 hQ
  obtain rfl := (hlead d' hd').2 hm
  have hds : ds.length = 44 := by rw [← hlength, ← hrest, List.length_map]
  have hr : Radix.value 58 ds < 58 ^ 44 := hds ▸ Radix.value_lt (by decide) hlt
  have hvalue : Radix.value 58 (23 :: 44 :: ds) = 1378 * 58 ^ 44 + Radix.value 58 ds := by
    have happend := Radix.value_append 58 [23, 44] ds
    rwa [hds] at happend
  obtain ⟨es, hes⟩ := digits_v0Text hr
  refine ⟨es.map Nat.toUInt8, ?_⟩
  rw [← hbytes, hvalue, Radix.toBytes, hes]
  rfl

/-! ## Version 0 as text -/

variable {text : String} {rest : List Char} {bytes : List UInt8} {cid : Cid} {c : Codec} {d : Digest}

/-- A text whose characters are one byte long has as many bytes as characters. -/
theorem utf8ByteSize_eq_length (h : ∀ c ∈ text.toList, c.utf8Size = 1) :
    text.utf8ByteSize = text.toList.length := by
  have hsize : ∀ cs : List Char, (∀ c ∈ cs, c.utf8Size = 1) →
      (String.ofList cs).utf8ByteSize = cs.length := by
    intro cs hcs
    induction cs with
    | nil => rfl
    | cons c cs ih =>
      obtain ⟨hc, hcs⟩ := List.forall_mem_cons.mp hcs
      rw [String.ofList_cons, String.utf8ByteSize_append, String.utf8ByteSize_singleton, hc, ih hcs,
        List.length_cons, Nat.add_comm]
  simpa using hsize text.toList h

@[simp] theorem toList_toString_v0 (d : Digest) :
    (v0 d).toString.toList = Base58.encode (v0 d).toBytes := by
  rw [toString, String.toList_ofList]

/-- **Version 0 is written with 46 characters that start with `Qm`.** -/
theorem exists_toList_toString_v0 (d : Digest) :
    ∃ rest, (v0 d).toString.toList = 'Q' :: 'm' :: rest ∧ rest.length = 44 := by
  rw [toList_toString_v0, bare_toBytes d]
  exact encode_multihash d

@[simp] theorem utf8ByteSize_toString_v0 (d : Digest) : (v0 d).toString.utf8ByteSize = 46 := by
  obtain ⟨rest, htext, hlength⟩ := exists_toList_toString_v0 d
  rw [utf8ByteSize_eq_length, htext, List.length_cons, List.length_cons, hlength]
  exact toList_toString_v0 d ▸ Base58.utf8Size_of_mem_encode

/-- The shape of version 0 is two characters and a length. -/
theorem isV0Text_iff :
    isV0Text text ↔ (∃ rest, text.toList = 'Q' :: 'm' :: rest) ∧ text.utf8ByteSize = 46 := by
  rw [isV0Text]
  split
  · rename_i rest htext
    simp [htext, v0TextLength]
  · rename_i hne
    simp only [Bool.false_eq_true, false_iff, not_and]
    rintro ⟨rest, htext⟩
    exact absurd htext (hne rest)

/-! ## Behind a multibase character -/

/-- The bytes behind a multibase character: base 32 in letters of any case, in capitals, or base 58. -/
inductive Multibase : List Char → List UInt8 → Prop
  | anyCase {rest : List Char} {bytes : List UInt8}
      (h : Base32.decode (rest.map Char.toUpper) = .ok bytes) : Multibase ('b' :: rest) bytes
  | capitals {rest : List Char} {bytes : List UInt8} (h : Base32.decode rest = .ok bytes) :
      Multibase ('B' :: rest) bytes
  | base58 {rest : List Char} {bytes : List UInt8} (h : Base58.decode rest = .ok bytes) :
      Multibase ('z' :: rest) bytes

/-- **Three multibase characters are known.** -/
theorem readMultibase_eq_ok_iff {chars : List Char} :
    readMultibase chars = .ok bytes ↔ Multibase chars bytes := by
  constructor
  · intro h
    rw [readMultibase.eq_def] at h
    split at h
    · cases h
    · exact .anyCase (mapError_eq_ok_iff.mp h)
    · exact .capitals (mapError_eq_ok_iff.mp h)
    · exact .base58 (mapError_eq_ok_iff.mp h)
    · cases h
  · rintro (h | h | h)
    · exact mapError_eq_ok_iff.mpr h
    · exact mapError_eq_ok_iff.mpr h
    · exact mapError_eq_ok_iff.mpr h

/-- No multibase character starts version 0. -/
theorem Multibase.ne_v0Text (h : Multibase text.toList bytes) : text.toList ≠ 'Q' :: 'm' :: rest := by
  intro htext
  rw [htext] at h
  cases h

/-! ## Reading a text -/

theorem parse_of_v0Text (h : text.toList = 'Q' :: 'm' :: rest) :
    parse text =
      if text.utf8ByteSize ≠ v0TextLength then .error (.v0Length text.utf8ByteSize)
      else readBase58 text.toList >>= ofBytes := by
  simp only [parse, h]
  rfl

theorem parse_of_ne (h : ∀ rest, text.toList ≠ 'Q' :: 'm' :: rest) :
    parse text = (readMultibase text.toList >>= ofBytes) >>= fun cid =>
      match cid with
      | v0 _ => .error .prefixedV0
      | cid => .ok cid := by
  rw [parse]
  split
  · rename_i rest htext
    exact absurd htext (h rest)
  · rw [bind_assoc]
    rfl

/-- Behind a multibase character stands version 1. -/
theorem parse_of_multibase (h : Multibase text.toList bytes) :
    parse text = ofBytes bytes >>= fun cid =>
      match cid with
      | v0 _ => .error .prefixedV0
      | cid => .ok cid := by
  rw [parse_of_ne fun _ => h.ne_v0Text, readMultibase_eq_ok_iff.mpr h]
  rfl

/-- **Version 0 is read back from its text.** -/
theorem parse_toString_v0 (d : Digest) : parse (v0 d).toString = .ok (v0 d) := by
  obtain ⟨rest, htext, -⟩ := exists_toList_toString_v0 d
  have hsize : ¬ (v0 d).toString.utf8ByteSize ≠ v0TextLength :=
    not_not_intro (utf8ByteSize_toString_v0 d)
  rw [parse_of_v0Text htext, if_neg hsize, toList_toString_v0, readBase58, Base58.decode_encode]
  exact ofBytes_toBytes (v0 d)

/-- **Every version-1 form behind a multibase character is read.** -/
theorem parse_of_versioned (h : Multibase text.toList bytes) (hbytes : Versioned bytes c d) :
    parse text = .ok (v1 c d) := by
  rw [parse_of_multibase h, hbytes.ofBytes]
  rfl

/-- **A text of version 0 is the one its identifier is written as.** -/
theorem eq_toString_of_parse_v0Text (htext : text.toList = 'Q' :: 'm' :: rest)
    (h : parse text = .ok cid) : ∃ d, cid = v0 d ∧ text = (v0 d).toString := by
  rw [parse_of_v0Text htext] at h
  split at h
  · cases h
  · rename_i hsize
    obtain ⟨bytes, hread, hcid⟩ := bind_eq_ok_iff.mp h
    have hdecode : Base58.decode text.toList = .ok bytes := mapError_eq_ok_iff.mp hread
    have hencode : text.toList = Base58.encode bytes := Base58.decode_eq_ok_iff.mp hdecode
    have hlength : rest.length = 44 := by
      have hbytes := utf8ByteSize_eq_length (hencode ▸ Base58.utf8Size_of_mem_encode)
      rw [not_not.mp hsize, htext] at hbytes
      exact (Nat.succ.inj (Nat.succ.inj hbytes)).symm
    obtain ⟨tail, hhead⟩ := decode_v0Text hlength (htext ▸ hdecode)
    rcases ofBytes_eq_ok_iff.mp hcid with ⟨d, hbare, rfl⟩ | ⟨c, d, hversioned, -⟩
    · refine ⟨d, rfl, String.toList_injective ?_⟩
      rw [toList_toString_v0, bare_toBytes d, hencode, hbare]
    · exact absurd (hhead ▸ hversioned) (not_versioned_hashFunction tail)

/-- **Exactly these texts name identifiers**: the one of version 0, and version-1 forms behind a
multibase character. -/
theorem parse_eq_ok_iff :
    parse text = .ok cid ↔ (∃ d, cid = v0 d ∧ text = (v0 d).toString) ∨
      ∃ bytes c d, cid = v1 c d ∧ Multibase text.toList bytes ∧ Versioned bytes c d := by
  constructor
  · intro h
    by_cases hv0 : ∃ rest, text.toList = 'Q' :: 'm' :: rest
    · obtain ⟨rest, htext⟩ := hv0
      exact .inl (eq_toString_of_parse_v0Text htext h)
    · rw [parse_of_ne fun rest htext => hv0 ⟨rest, htext⟩] at h
      obtain ⟨named, hnamed, hcid⟩ := bind_eq_ok_iff.mp h
      obtain ⟨bytes, hread, hbytes⟩ := bind_eq_ok_iff.mp hnamed
      rcases ofBytes_eq_ok_iff.mp hbytes with ⟨d, -, rfl⟩ | ⟨c, d, hversioned, rfl⟩
      · cases hcid
      · exact .inr ⟨bytes, c, d, (Except.ok.inj hcid).symm, readMultibase_eq_ok_iff.mp hread,
          hversioned⟩
  · rintro (⟨d, rfl, rfl⟩ | ⟨bytes, c, d, rfl, hread, hversioned⟩)
    · exact parse_toString_v0 d
    · exact parse_of_versioned hread hversioned

/-- **Version 0 has one spelling, and its shape tells it apart.**  A text that names an identifier
names version 0 just if it has the shape of one, and then is the canonical text; it names version 1
behind a multibase character, by bytes that name it.  A bare multihash behind a multibase character is
refused, and no text that starts with `Qm` names version 1. -/
theorem parse_canonical (text : String) :
    (∀ cid, parse text = .ok cid →
      (cid.version = 0 ↔ isV0Text text) ∧ (cid.version = 0 → text = cid.toString) ∧
        (cid.version = 1 → ∃ bytes, Multibase text.toList bytes ∧ ofBytes bytes = .ok cid)) ∧
    (∀ bytes d, Multibase text.toList bytes → Bare bytes d → parse text = .error .prefixedV0) ∧
    (∀ rest, text.toList = 'Q' :: 'm' :: rest → ∀ c d, parse text ≠ .ok (v1 c d)) := by
  refine ⟨fun cid h => ?_, fun bytes d hread hbare => ?_, fun rest htext c d h => ?_⟩
  · rcases parse_eq_ok_iff.mp h with ⟨d, rfl, rfl⟩ | ⟨bytes, c, d, rfl, hread, hversioned⟩
    · obtain ⟨rest, htext, -⟩ := exists_toList_toString_v0 d
      have hshape := isV0Text_iff.mpr ⟨⟨rest, htext⟩, utf8ByteSize_toString_v0 d⟩
      exact ⟨⟨fun _ => hshape, fun _ => rfl⟩, fun _ => rfl, nofun⟩
    · refine ⟨⟨nofun, fun hshape => ?_⟩, nofun, fun _ => ⟨bytes, hread, hversioned.ofBytes⟩⟩
      obtain ⟨⟨rest, htext⟩, -⟩ := isV0Text_iff.mp hshape
      exact absurd htext hread.ne_v0Text
  · rw [parse_of_multibase hread, ofBytes_of_bare hbare]
    rfl
  · obtain ⟨d', heq, -⟩ := eq_toString_of_parse_v0Text htext h
    cases heq

/-! ## Writing and reading back -/

@[simp] theorem toList_toString_v1 (c : Codec) (d : Digest) :
    (v1 c d).toString.toList = 'b' :: (Base32.encode (v1 c d).toBytes).map Char.toLower := by
  rw [toString, String.toList_ofList]

/-- The spellings of version 1: the canonical text with letters of any case behind its `b`, the same
in capitals throughout, and base 58 behind a `z`. -/
inductive Spelling (cid : Cid) : List Char → Prop
  | anyCase {rest : List Char} (h : cid.toString.toList = 'b' :: rest.map Char.toLower) :
      Spelling cid ('b' :: rest)
  | capitals : Spelling cid (cid.toString.toList.map Char.toUpper)
  | base58 : Spelling cid ('z' :: Base58.encode cid.toBytes)

/-- **Every spelling stands for the binary form.** -/
theorem Spelling.multibase {chars : List Char} (h : Spelling (v1 c d) chars) :
    Multibase chars (v1 c d).toBytes := by
  have hdecode := Base32.decode_encode (v1 c d).toBytes
  cases h with
  | @anyCase rest h =>
    rw [toList_toString_v1] at h
    have hrest : (Base32.encode (v1 c d).toBytes).map Char.toLower = rest.map Char.toLower :=
      (List.cons.inj h).2
    refine .anyCase ?_
    rwa [← Base32.map_toUpper_map_toLower, ← hrest, Base32.map_toUpper_map_toLower,
      Base32.map_toUpper_encode]
  | capitals =>
    rw [toList_toString_v1, List.map_cons, Base32.map_toUpper_map_toLower, Base32.map_toUpper_encode]
    exact .capitals hdecode
  | base58 => exact .base58 (Base58.decode_encode _)

/-- **Version 1 is read back from every spelling.** -/
theorem parse_of_spelling (h : Spelling (v1 c d) text.toList) : parse text = .ok (v1 c d) :=
  parse_of_versioned h.multibase (versioned_toBytes c d)

/-- The canonical text is a spelling: small letters made small stay as they are. -/
theorem spelling_toString_v1 (c : Codec) (d : Digest) :
    Spelling (v1 c d) (v1 c d).toString.toList := by
  rw [toList_toString_v1]
  refine .anyCase ?_
  rw [toList_toString_v1, List.map_map]
  exact congrArg _ (List.map_congr_left fun c _ => (Char.toLower_toLower_eq_toLower c).symm)

/-- **An identifier is read back from its text.** -/
theorem parse_toString : ∀ cid : Cid, parse cid.toString = .ok cid
  | v0 d => parse_toString_v0 d
  | v1 c d => parse_of_spelling (spelling_toString_v1 c d)

/-- **Different identifiers have different texts.** -/
theorem toString_injective : Function.Injective Cid.toString := fun a b h =>
  Except.ok.inj ((parse_toString a).symm.trans ((congrArg parse h).trans (parse_toString b)))

/-- **Every identifier is read back from all its spellings.**  The canonical text names it and no other;
that of version 0 always has the shape its reader looks for, and version 1 may be spelled in letters of
any case, in capitals or in base 58. -/
theorem parse_spellings (cid : Cid) :
    parse cid.toString = .ok cid ∧
    (∀ other : Cid, other ≠ cid → other.toString ≠ cid.toString) ∧
    (cid.version = 0 → cid.toString.length = 46 ∧ (∃ rest, cid.toString.toList = 'Q' :: 'm' :: rest) ∧
      isV0Text cid.toString) ∧
    (cid.version = 1 → ∀ text : String, Spelling cid text.toList → parse text = .ok cid) := by
  refine ⟨parse_toString cid, fun other hne h => hne (toString_injective h), ?_, ?_⟩
  · intro hzero
    cases cid with
    | v0 d =>
      obtain ⟨rest, htext, hlength⟩ := exists_toList_toString_v0 d
      refine ⟨?_, ⟨rest, htext⟩, isV0Text_iff.mpr ⟨⟨rest, htext⟩, utf8ByteSize_toString_v0 d⟩⟩
      rw [← String.length_toList, htext, List.length_cons, List.length_cons, hlength]
    | v1 c d => cases hzero
  · intro hone text h
    cases cid with
    | v0 d => cases hone
    | v1 c d => exact parse_of_spelling h

end AddressedStorage.Cid
