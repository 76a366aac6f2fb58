import AddressedStorage.FormatError
import AddressedStorage.Cid.Binary
import AddressedStorage.Proofs.Bytes.Varint

/-!
# Proofs/Cid/Grammar — which byte strings name what

A byte string names an identifier in one of two ways, which no byte string has in common: as a bare
multihash of 34 bytes (`Bare`), or as four fields and a digest (`Versioned`).  The fields may be
written longer than they need be.  All else is refused, and what counts is the first field that does
not fit: a number that means something else to others is unsupported (`Unsupported`), and anything
else is malformed.
-/

namespace AddressedStorage.Cid

open Varint (IsField)

/-! ## The grammar -/

/-- A multihash of 34 bytes and nothing around it. -/
def Bare (bytes : List UInt8) (digest : Digest) : Prop := bytes = 0x12 :: 0x20 :: digest.toList

/-- The version, the codec, the hash function and the digest length as fields, then the digest. -/
def Versioned (bytes : List UInt8) (codec : Codec) (digest : Digest) : Prop :=
  ∃ version code function length,
    bytes = version ++ (code ++ (function ++ (length ++ digest.toList))) ∧
      IsField version 1 ∧ IsField code codec.code ∧ IsField function 0x12 ∧ IsField length 0x20

/-- The first field that does not fit is a number: a version other than 1, which is not the hash
function of a bare multihash either, a code of no known codec, or another hash function. -/
inductive Unsupported : List UInt8 → Prop
  | version {front : List UInt8} {n : UInt64} (h : IsField front n) (hn : n ≠ 1) (hbare : n ≠ 0x12)
      (rest : List UInt8) : Unsupported (front ++ rest)
  | codec {version front : List UInt8} {n : UInt64} (hversion : IsField version 1)
      (h : IsField front n) (hn : ∀ c : Codec, c.code ≠ n) (rest : List UInt8) :
      Unsupported (version ++ (front ++ rest))
  | function {version code front : List UInt8} {c : Codec} {n : UInt64}
      (hversion : IsField version 1) (hcode : IsField code c.code) (h : IsField front n)
      (hn : n ≠ 0x12) (rest : List UInt8) : Unsupported (version ++ (code ++ (front ++ rest)))

variable {bytes front rest : List UInt8} {c : Codec} {d : Digest} {e : FormatError}

/-! ## Reading field by field -/

theorem readField_append {n : UInt64} (h : IsField front n) (rest : List UInt8) :
    readField (front ++ rest) = .ok (n, rest) := by
  rw [readField, h.decode?]

/-- A number is read from its field, or there is no field in front. -/
theorem readField_cases (bytes : List UInt8) :
    (∃ front n rest, bytes = front ++ rest ∧ IsField front n) ∨
      readField bytes = .error .varint := by
  rw [readField]
  split
  · rename_i r hread
    obtain ⟨front, rfl, hfield⟩ := Varint.decode?_eq_some_iff.mp hread
    exact .inl ⟨front, r.1, r.2, rfl, hfield⟩
  · exact .inr rfl

theorem readDigest_toList (d : Digest) : readDigest d.toList = .ok d := by
  rw [readDigest, Digest.ofList?_toList]

theorem readDigest_cases (bytes : List UInt8) :
    (∃ d : Digest, bytes = d.toList) ∨ readDigest bytes = .error (.digestSize bytes.length) := by
  rw [readDigest]
  split
  · rename_i d hd
    exact .inl ⟨d, (Digest.ofList?_eq_some_iff.mp hd).symm⟩
  · exact .inr rfl

/-! ## Reading a multihash -/

/-- A multihash starts with the hash function. -/
theorem readMultihash_append {n : UInt64} (h : IsField front n) (rest : List UInt8) :
    readMultihash (front ++ rest) =
      if n ≠ 0x12 then .error (.hashFunction n)
      else (do
        let (length, rest) ← readField rest
        if length ≠ 32 then
          throw (.digestLength length)
        readDigest rest) := by
  rw [readMultihash, readField_append h]
  rfl

/-- Behind the hash function stand the length and the digest. -/
theorem readMultihash_of_digest {function length : List UInt8} (hfunction : IsField function 0x12)
    (hlength : IsField length 0x20) (d : Digest) :
    readMultihash (function ++ (length ++ d.toList)) = .ok d := by
  rw [readMultihash_append hfunction, if_neg (not_not_intro rfl), readField_append hlength]
  exact readDigest_toList d

/-- A multihash is read, or its hash function is another one, or it is malformed. -/
theorem readMultihash_cases (bytes : List UInt8) :
    (∃ function length d, bytes = function ++ (length ++ Digest.toList d) ∧
        IsField function 0x12 ∧ IsField length 0x20) ∨
      (∃ front n rest, bytes = front ++ rest ∧ IsField front n ∧ n ≠ 0x12) ∨
      ∃ e : FormatError, readMultihash bytes = .error e ∧ e.kind = .malformedIdentifier := by
  rcases readField_cases bytes with ⟨function, n, tail, rfl, hfunction⟩ | herror
  · by_cases hn : n = 0x12
    · subst hn
      rw [readMultihash_append hfunction, if_neg (not_not_intro rfl)]
      rcases readField_cases tail with ⟨length, m, tail, rfl, hlength⟩ | herror
      · by_cases hm : m = 32
        · subst hm
          rw [readField_append hlength]
          rcases readDigest_cases tail with ⟨d, rfl⟩ | herror
          · exact .inl ⟨function, length, d, rfl, hfunction, hlength⟩
          · exact .inr (.inr ⟨_, herror, rfl⟩)
        · rw [readField_append hlength]
          exact .inr (.inr ⟨_, if_pos hm, rfl⟩)
      · exact .inr (.inr ⟨.varint, by rw [herror]; rfl, rfl⟩)
    · exact .inr (.inl ⟨function, n, tail, rfl, hfunction, hn⟩)
  · exact .inr (.inr ⟨.varint, by rw [readMultihash, herror]; rfl, rfl⟩)

/-! ## Reading the fields -/

/-- The version comes first. -/
theorem readVersioned_of_ne {n : UInt64} (h : IsField front n) (hn : n ≠ 1) (rest : List UInt8) :
    readVersioned (front ++ rest) =
      .error (if n = hashCode then .multihashSize (front ++ rest).length else .version n) := by
  rw [readVersioned, readField_append h]
  exact if_pos hn

/-- Behind the version stand the codec and the multihash. -/
theorem readVersioned_of_one (h : IsField front 1) (rest : List UInt8) :
    readVersioned (front ++ rest) = (do
      let (code, rest) ← readField rest
      match Codec.ofCode? code with
      | none => throw (.codec code)
      | some codec => return v1 codec (← readMultihash rest)) := by
  rw [readVersioned, readField_append h]
  rfl

theorem readVersioned_of_unknown {n : UInt64} {version : List UInt8} (hversion : IsField version 1)
    (h : IsField front n) (hn : ∀ c : Codec, c.code ≠ n) (rest : List UInt8) :
    readVersioned (version ++ (front ++ rest)) = .error (.codec n) := by
  have hnone : Codec.ofCode? n = none :=
    Option.eq_none_iff_forall_ne_some.mpr fun c hc => hn c (Codec.ofCode?_eq_some_iff.mp hc)
  rw [readVersioned_of_one hversion, readField_append h]
  change (match Codec.ofCode? n with | none => _ | some codec => _) = _
  rw [hnone]
  rfl

theorem readVersioned_of_codec {version code : List UInt8} (hversion : IsField version 1)
    (hcode : IsField code c.code) (rest : List UInt8) :
    readVersioned (version ++ (code ++ rest)) = (readMultihash rest).map (v1 c) := by
  rw [readVersioned_of_one hversion, readField_append hcode]
  change (match Codec.ofCode? c.code with | none => _ | some codec => _) = _
  rw [Codec.ofCode?_code]
  rfl

/-! ## The two readings, and the two refusals -/

/-- **Every version-1 form is read.** -/
theorem Versioned.readVersioned (h : Versioned bytes c d) : Cid.readVersioned bytes = .ok (v1 c d) := by
  obtain ⟨version, code, function, length, rfl, hversion, hcode, hfunction, hlength⟩ := h
  rw [readVersioned_of_codec hversion hcode, readMultihash_of_digest hfunction hlength]
  rfl

/-- **What is unsupported is refused as such.** -/
theorem Unsupported.readVersioned (h : Unsupported bytes) :
    ∃ e, Cid.readVersioned bytes = .error e ∧ e.kind = .unsupportedEncoding := by
  cases h with
  | version h hn hbare rest =>
    exact ⟨_, readVersioned_of_ne h hn rest, by rw [if_neg (show _ ≠ hashCode from hbare)]; rfl⟩
  | codec hversion h hn rest => exact ⟨_, readVersioned_of_unknown hversion h hn rest, rfl⟩
  | function hversion hcode h hn rest =>
    rw [readVersioned_of_codec hversion hcode, readMultihash_append h, if_pos hn]
    exact ⟨_, rfl, rfl⟩

/-- All else is malformed. -/
theorem readVersioned_cases (bytes : List UInt8) :
    (∃ c d, Versioned bytes c d) ∨ Unsupported bytes ∨
      ∃ e, readVersioned bytes = .error e ∧ e.kind = .malformedIdentifier := by
  rcases readField_cases bytes with ⟨version, n, tail, rfl, hversion⟩ | herror
  · by_cases hn : n = 1
    · subst hn
      rcases readField_cases tail with ⟨code, m, tail, rfl, hcode⟩ | herror
      · by_cases hknown : ∃ c : Codec, c.code = m
        · obtain ⟨c, rfl⟩ := hknown
          rcases readMultihash_cases tail with ⟨function, length, d, rfl, hfunction, hlength⟩ |
            ⟨front, k, rest, rfl, hfront, hk⟩ | ⟨e, herror, hkind⟩
          · exact .inl ⟨c, d, version, code, function, length, rfl, hversion, hcode, hfunction,
              hlength⟩
          · exact .inr (.inl (.function hversion hcode hfront hk rest))
          · refine .inr (.inr ⟨e, ?_, hkind⟩)
            rw [readVersioned_of_codec hversion hcode, herror]
            rfl
        · exact .inr (.inl (.codec hversion hcode (fun c hc => hknown ⟨c, hc⟩) tail))
      · refine .inr (.inr ⟨.varint, ?_, rfl⟩)
        rw [readVersioned_of_one hversion, herror]
        rfl
    · by_cases hbare : n = hashCode
      · exact .inr (.inr ⟨_, readVersioned_of_ne hversion hn tail, by rw [if_pos hbare]; rfl⟩)
      · exact .inr (.inl (.version hversion hn hbare tail))
  · exact .inr (.inr ⟨.varint, by rw [readVersioned, herror]; rfl, rfl⟩)

theorem bareMultihash?_eq_some_iff : bareMultihash? bytes = some d ↔ Bare bytes d := by
  constructor
  · intro h
    rw [bareMultihash?.eq_def] at h
    split at h
    · rw [← Digest.ofList?_eq_some_iff.mp h]
      rfl
    · cases h
  · rintro rfl
    exact Digest.ofList?_toList d

/-- The first byte of a bare multihash is a field by itself. -/
theorem isField_hashFunction : IsField [0x12] hashCode := ⟨.last (by decide), by decide⟩

/-- The hash function of a bare multihash is no version. -/
theorem readVersioned_hashFunction (rest : List UInt8) :
    readVersioned (0x12 :: rest) = .error (.multihashSize (rest.length + 1)) :=
  readVersioned_of_ne isField_hashFunction (by decide) rest

theorem not_versioned_hashFunction (rest : List UInt8) : ¬ Versioned (0x12 :: rest) c d := by
  intro h
  cases (readVersioned_hashFunction rest).symm.trans h.readVersioned

/-- **The two forms have no byte string in common.** -/
theorem Bare.not_versioned {d' : Digest} (h : Bare bytes d) : ¬ Versioned bytes c d' :=
  h ▸ not_versioned_hashFunction _

/-! ## Reading an identifier -/

theorem ofBytes_of_bare (h : Bare bytes d) : ofBytes bytes = .ok (v0 d) := by
  rw [ofBytes, bareMultihash?_eq_some_iff.mpr h]

/-- What is no bare multihash must be version 1. -/
theorem ofBytes_of_not_bare (h : ∀ d, ¬ Bare bytes d) : ofBytes bytes = readVersioned bytes := by
  have hnone : bareMultihash? bytes = none :=
    Option.eq_none_iff_forall_ne_some.mpr fun d hd => h d (bareMultihash?_eq_some_iff.mp hd)
  rw [ofBytes, hnone]

theorem Versioned.ofBytes (h : Versioned bytes c d) : Cid.ofBytes bytes = .ok (v1 c d) := by
  rw [ofBytes_of_not_bare fun _ hbare => hbare.not_versioned h, h.readVersioned]

/-- Every byte string names an identifier, or is refused as what it is. -/
theorem ofBytes_cases (bytes : List UInt8) :
    (∃ d, Bare bytes d) ∨ (∃ c d, Versioned bytes c d) ∨
      ∃ e, ofBytes bytes = .error e ∧
        (Unsupported bytes ∧ e.kind = .unsupportedEncoding ∨
          ¬ Unsupported bytes ∧ e.kind = .malformedIdentifier) := by
  by_cases hbare : ∃ d, Bare bytes d
  · exact .inl hbare
  · rw [ofBytes_of_not_bare fun d hd => hbare ⟨d, hd⟩]
    rcases readVersioned_cases bytes with hversioned | hunsupported | ⟨e, herror, hkind⟩
    · exact .inr (.inl hversioned)
    · obtain ⟨e, herror, hkind⟩ := hunsupported.readVersioned
      exact .inr (.inr ⟨e, herror, .inl ⟨hunsupported, hkind⟩⟩)
    · refine .inr (.inr ⟨e, herror, .inr ⟨fun hunsupported => ?_, hkind⟩⟩)
      obtain ⟨e', herror', hkind'⟩ := hunsupported.readVersioned
      obtain rfl := Except.error.inj (herror.symm.trans herror')
      cases hkind.symm.trans hkind'

/-- **Exactly the grammar is accepted.** -/
theorem ofBytes_eq_ok_iff {cid : Cid} :
    ofBytes bytes = .ok cid ↔
      (∃ d, Bare bytes d ∧ cid = v0 d) ∨ ∃ c d, Versioned bytes c d ∧ cid = v1 c d := by
  constructor
  · intro h
    rcases ofBytes_cases bytes with ⟨d, hbare⟩ | ⟨c, d, hversioned⟩ | ⟨e, herror, -⟩
    · exact .inl ⟨d, hbare, Except.ok.inj (h.symm.trans (ofBytes_of_bare hbare))⟩
    · exact .inr ⟨c, d, hversioned, Except.ok.inj (h.symm.trans hversioned.ofBytes)⟩
    · cases h.symm.trans herror
  · rintro (⟨d, hbare, rfl⟩ | ⟨c, d, hversioned, rfl⟩)
    · exact ofBytes_of_bare hbare
    · exact hversioned.ofBytes

/-- The binary form of version 0 is the bare multihash. -/
theorem bare_toBytes (d : Digest) : Bare (v0 d).toBytes d := by
  rw [Bare, toBytes, multihash, Varint.encode_of_lt (by decide), Varint.encode_of_lt (by decide)]
  rfl

/-- The binary form of version 1 has every field in its shortest form. -/
theorem versioned_toBytes (c : Codec) (d : Digest) : Versioned (v1 c d).toBytes c d := by
  refine ⟨_, _, _, _, ?_, Varint.isField_encode 1, Varint.isField_encode c.code,
    Varint.isField_encode 0x12, Varint.isField_encode 0x20⟩
  simp only [toBytes, multihash, List.append_assoc]
  rfl

/-- **An identifier is read back from its binary form.** -/
@[simp] theorem ofBytes_toBytes (cid : Cid) : ofBytes cid.toBytes = .ok cid := by
  cases cid with
  | v0 d => exact ofBytes_of_bare (bare_toBytes d)
  | v1 c d => exact (versioned_toBytes c d).ofBytes

/-! ## Identifiers in front of other bytes -/

/-- A digest is read back from in front of any bytes. -/
theorem digestFront?_append (d : Digest) (rest : List UInt8) :
    digestFront? (d.toList ++ rest) = some (d, rest) := by
  rw [digestFront?, Bytes.splitExactly?_append (n := Digest.length) d.length_toList]
  simp only [Option.bind_eq_bind, Option.bind_some, Digest.ofList?_toList, Option.pure_def]

/-- A field is read over if it has the expected value. -/
theorem expectField?_append {n : UInt64} (h : IsField front n) (expected : UInt64)
    (rest : List UInt8) :
    expectField? expected (front ++ rest) = if n = expected then some rest else none := by
  rw [expectField?, h.decode?]
  rfl

/-- A version-1 identifier is read back from in front of any bytes. -/
theorem Versioned.versionedFront? (h : Versioned bytes c d) (rest : List UInt8) :
    Cid.versionedFront? (bytes ++ rest) = some (v1 c d, rest) := by
  obtain ⟨version, code, function, length, rfl, hversion, hcode, hfunction, hlength⟩ := h
  simp only [List.append_assoc, Cid.versionedFront?, expectField?_append hversion, hcode.decode?,
    expectField?_append hfunction, expectField?_append hlength, Codec.ofCode?_code,
    digestFront?_append, Option.bind_eq_bind, Option.bind_some, Option.pure_def, if_true, hashCode]

theorem versionedFront?_hashFunction (rest : List UInt8) :
    versionedFront? (0x12 :: rest) = none := by
  have hversion : expectField? 1 (0x12 :: rest) = none :=
    (expectField?_append isField_hashFunction 1 rest).trans (if_neg (by decide))
  rw [versionedFront?, hversion]
  rfl

/-- **An identifier tells where it ends**: it is read back from in front of any bytes. -/
theorem front?_toBytes_append (cid : Cid) (rest : List UInt8) :
    front? (cid.toBytes ++ rest) = some (cid, rest) := by
  cases cid with
  | v0 d =>
    have hbytes : (v0 d).toBytes = 0x12 :: 0x20 :: d.toList := bare_toBytes d
    rw [hbytes, List.cons_append, List.cons_append, front?, digestFront?_append, Option.map_some]
  | v1 c d =>
    have hread := (versioned_toBytes c d).versionedFront? rest
    rw [front?.eq_def]
    split
    · rename_i heq
      rw [heq, versionedFront?_hashFunction] at hread
      cases hread
    · exact hread

/-- **Exactly the grammar names identifiers.**  A byte string names version 0 as a bare multihash and
version 1 as four fields and a digest, never both; every other is refused, as unsupported if the
first field that does not fit is a number of others, and as malformed otherwise.  So every identifier
is read back from its binary form. -/
theorem ofBytes_reads_grammar :
    (∀ bytes cid, ofBytes bytes = .ok cid ↔
      (∃ d, Bare bytes d ∧ cid = v0 d) ∨ ∃ c d, Versioned bytes c d ∧ cid = v1 c d) ∧
    (∀ bytes d c d', ¬ (Bare bytes d ∧ Versioned bytes c d')) ∧
    (∀ bytes, (∃ d, Bare bytes d) ∨ (∃ c d, Versioned bytes c d) ∨
      ∃ e, ofBytes bytes = .error e ∧
        (Unsupported bytes ∧ e.kind = .unsupportedEncoding ∨
          ¬ Unsupported bytes ∧ e.kind = .malformedIdentifier)) ∧
    ∀ cid : Cid, ofBytes cid.toBytes = .ok cid :=
  ⟨fun _ _ => ofBytes_eq_ok_iff, fun _ _ _ _ h => h.1.not_versioned h.2, ofBytes_cases,
    ofBytes_toBytes⟩

end AddressedStorage.Cid
