import AddressedStorage.Proofs.Bytes.Base64
import AddressedStorage.Proofs.Http.Percent
import AddressedStorage.Vendor.Credentials

/-!
# Proofs/Vendor/Signer — what a request signer signs with

A secret is accepted in one spelling, so the secret a signer uses is the one its text was written from,
and a text with a slip in it is refused instead of standing for another secret
(`RequestSigner.ofText_spellings`).
-/

namespace AddressedStorage

/-! ## Base 64 as text -/

namespace Base64

variable {text : String} {bytes : List UInt8}

/-- What a text is written in: digits of the URL-safe alphabet, filled up with padding to whole groups,
that leave no bit over. -/
def IsSpelling (text : List UInt8) : Prop :=
  ∃ ds pads, Spells text ds pads ∧ (Radix.bytesOfBits 6 ds).2 = 0

theorem exists_decode_iff {text : List UInt8} :
    (∃ bytes, decode text = .ok bytes) ↔ IsSpelling text := by
  simp only [decode_eq_ok_iff_spells]
  constructor
  · rintro ⟨bytes, ds, pads, hspells, hbits⟩
    exact ⟨ds, pads, hspells, congrArg Prod.snd hbits⟩
  · rintro ⟨ds, pads, hspells, hspare⟩
    exact ⟨_, ds, pads, hspells, Prod.ext rfl hspare⟩

/-- A character of a written byte string: a digit or padding. -/
def isSymbol (c : Char) : Bool := c.isAlphanum || c == '-' || c == '_' || c == '='

/-- A character of a written byte string is one byte. -/
theorem of_mem_encode {b : UInt8} (h : b ∈ encode bytes) :
    String.utf8EncodeChar (Char.ofNat b.toNat) = [b] ∧ isSymbol (Char.ofNat b.toNat) := by
  rcases List.mem_append.mp h with hdigit | hpad
  · obtain ⟨d, hd, rfl⟩ := List.mem_map.mp hdigit
    exact (by decide +kernel : ∀ d < 64,
        String.utf8EncodeChar (Char.ofNat (symbol d).toNat) = [symbol d] ∧
          isSymbol (Char.ofNat (symbol d).toNat)) d (Radix.lt_of_mem_padded (by decide) hd)
  · rw [List.eq_of_mem_replicate hpad]
    decide +kernel

/-- The bytes of the string are those written. -/
theorem bytes_encodeString (bytes : List UInt8) :
    (encodeString bytes).toByteArray.data.toList = encode bytes := by
  have htext := Percent.utf8_eq_flatMap ((encode bytes).map fun b => Char.ofNat b.toNat)
  rw [Percent.utf8] at htext
  rw [encodeString, htext, List.flatMap_map]
  exact (List.flatMap_congr fun b hb => (of_mem_encode hb).1).trans (List.flatMap_singleton' _)

theorem bytes_eq_encode_iff :
    text.toByteArray.data.toList = encode bytes ↔ text = encodeString bytes := by
  rw [← bytes_encodeString]
  constructor
  · intro h
    exact String.toByteArray_inj.mp (ByteArray.ext (Array.ext' h))
  · rintro rfl
    rfl

theorem encodeString_injective : Function.Injective encodeString := fun a b h =>
  encode_injective (by rw [← bytes_encodeString, h, bytes_encodeString])

theorem isSymbol_of_mem_encodeString {c : Char} (h : c ∈ (encodeString bytes).toList) :
    isSymbol c := by
  rw [encodeString, String.toList_ofList] at h
  obtain ⟨b, hb, rfl⟩ := List.mem_map.mp h
  exact (of_mem_encode hb).2

/-- A byte string is written in whole groups of four characters. -/
theorem length_encodeString_mod (bytes : List UInt8) : (encodeString bytes).toList.length % 4 = 0 := by
  have hspells := spells_encode bytes
  rw [encodeString, String.toList_ofList, List.length_map, hspells.length_eq, hspells.aligned]

end Base64

/-! ## Secrets -/

namespace RequestSigner

variable {key text : String} {s : RequestSigner}

/-- **What a signer is made from** is the text of its secret. -/
theorem ofText_eq_ok_iff :
    ofText key text = .ok s ↔ s.key = key ∧ text = Base64.encodeString s.secret := by
  unfold ofText
  rw [← Base64.bytes_eq_encode_iff, ← Base64.decode_eq_ok_iff]
  cases Base64.decode text.toByteArray.data.toList with
  | error cause => exact ⟨nofun, fun h => nomatch h.2⟩
  | ok secret =>
    constructor
    · intro h
      obtain rfl := Except.ok.inj h
      exact ⟨rfl, rfl⟩
    · rintro ⟨rfl, hsecret⟩
      rw [Except.ok.inj hsecret]

/-- What is no text of a secret is an invalid configuration. -/
theorem of_ofText_eq_error {e : ExchangeError} (h : ofText key text = .error e) :
    ∃ cause, Base64.decode text.toByteArray.data.toList = .error cause ∧
      e = .invalidConfig (.accessSecret cause) := by
  unfold ofText at h
  split at h
  · cases h
  · rename_i cause hcause
    exact ⟨cause, hcause, (Except.error.inj h).symm⟩

/-- A signer is made from what spells some secret. -/
theorem exists_ofText_iff :
    (∃ s, ofText key text = .ok s) ↔ Base64.IsSpelling text.toByteArray.data.toList := by
  rw [← Base64.exists_decode_iff]
  constructor
  · rintro ⟨s, hs⟩
    exact ⟨s.secret, Base64.decode_eq_ok_iff.mpr
      (Base64.bytes_eq_encode_iff.mpr (ofText_eq_ok_iff.mp hs).2)⟩
  · rintro ⟨secret, hsecret⟩
    exact ⟨⟨key, secret⟩, ofText_eq_ok_iff.mpr
      ⟨rfl, Base64.bytes_eq_encode_iff.mp (Base64.decode_eq_ok_iff.mp hsecret)⟩⟩

/-- **A secret has one spelling.**  A text is accepted just if it is the one some byte string is written
as, and then that byte string is what keys the digest of a signature; every other text is an invalid
configuration.  So the texts of two signers differ just if their secrets do.  An accepted text is
padded digits of the URL-safe alphabet that leave no bit over: it has no blank and no character of
another alphabet, and fills whole groups of four. -/
theorem ofText_spellings (key text : String) :
    ((∃ s, ofText key text = .ok s) ↔ ∃ secret, text = Base64.encodeString secret) ∧
    (∀ secret, text = Base64.encodeString secret →
      ∃ s, ofText key text = .ok s ∧ s.key = key ∧ ∀ hash method path query,
        s.sign hash method path query = Base64.encodeString
          (Hmac.digest hash secret s!"{method}\n{path}\n{query}".toByteArray).toList) ∧
    ((¬ ∃ s, ofText key text = .ok s) →
      ∃ cause, ofText key text = .error (.invalidConfig (.accessSecret cause))) ∧
    (∀ key' text' s s', ofText key text = .ok s → ofText key' text' = .ok s' →
      (s.secret = s'.secret ↔ text = text')) ∧
    ((∃ s, ofText key text = .ok s) ↔ Base64.IsSpelling text.toByteArray.data.toList) ∧
    ((∃ s, ofText key text = .ok s) →
      text.toList.length % 4 = 0 ∧ ∀ c ∈ text.toList, Base64.isSymbol c) := by
  have hwritten : (∃ s, ofText key text = .ok s) ↔ ∃ secret, text = Base64.encodeString secret := by
    constructor
    · rintro ⟨s, hs⟩
      exact ⟨s.secret, (ofText_eq_ok_iff.mp hs).2⟩
    · rintro ⟨secret, htext⟩
      exact ⟨⟨key, secret⟩, ofText_eq_ok_iff.mpr ⟨rfl, htext⟩⟩
  refine ⟨hwritten, ?_, ?_, ?_, exists_ofText_iff, ?_⟩
  · intro secret htext
    exact ⟨⟨key, secret⟩, ofText_eq_ok_iff.mpr ⟨rfl, htext⟩, rfl, fun _ _ _ _ => rfl⟩
  · intro hnone
    cases hresult : ofText key text with
    | ok s => exact absurd ⟨s, hresult⟩ hnone
    | error e =>
      obtain ⟨cause, -, rfl⟩ := of_ofText_eq_error hresult
      exact ⟨cause, rfl⟩
  · intro key' text' s s' hs hs'
    obtain ⟨-, htext⟩ := ofText_eq_ok_iff.mp hs
    obtain ⟨-, htext'⟩ := ofText_eq_ok_iff.mp hs'
    constructor
    · intro hsecret
      rw [htext, htext', hsecret]
    · rintro rfl
      exact Base64.encodeString_injective (htext.symm.trans htext')
  · rintro haccepted
    obtain ⟨secret, rfl⟩ := hwritten.mp haccepted
    exact ⟨Base64.length_encodeString_mod secret, fun c => Base64.isSymbol_of_mem_encodeString⟩

end RequestSigner

end AddressedStorage
