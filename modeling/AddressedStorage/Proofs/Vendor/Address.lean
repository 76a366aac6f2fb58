import AddressedStorage.Proofs.Bytes.Base32
import AddressedStorage.Proofs.Cid.Text
import AddressedStorage.Proofs.Http.Request
import AddressedStorage.Vendor.Basic

/-!
# Proofs/Vendor/Address — where content is asked for

An identifier is written in letters and digits, at most 61 of them.  So the address of any content
behind a well-formed one can be asked for (`parse_contentUrl`), but not behind one that is too long
already (`not_ready_queried`).
-/

namespace AddressedStorage

/-! ## Identifiers in an address -/

namespace Cid

theorem isAlphanum_symbol58 {d : Nat} (h : d < 58) : (Base58.symbol d).isAlphanum :=
  (by decide +kernel : ∀ d < 58, (Base58.symbol d).isAlphanum) d h

theorem isAlphanum_toLower_symbol32 {d : Nat} (h : d < 32) :
    (Base32.symbol d).toLower.isAlphanum :=
  (by decide +kernel : ∀ d < 32, (Base32.symbol d).toLower.isAlphanum) d h

/-- **An identifier is written in letters and digits.** -/
theorem isPlain_toString (cid : Cid) : Url.IsPlain cid.toString.toList := by
  cases cid with
  | v0 d =>
    obtain ⟨rest, htext, -⟩ := exists_toList_toString_v0 d
    refine ⟨htext ▸ List.cons_ne_nil _ _, fun c hc => ?_⟩
    rw [toList_toString_v0, Base58.encode_eq_rebase] at hc
    obtain ⟨digit, hdigit, rfl⟩ := List.mem_map.mp hc
    exact isAlphanum_symbol58 (Radix.lt_of_mem_rebase (by decide) hdigit)
  | v1 c d =>
    rw [toList_toString_v1]
    refine ⟨List.cons_ne_nil _ _, List.forall_mem_cons.mpr ⟨rfl, fun c hc => ?_⟩⟩
    rw [Base32.encode, List.map_map] at hc
    obtain ⟨digit, hdigit, rfl⟩ := List.mem_map.mp hc
    exact isAlphanum_toLower_symbol32 (Base32.lt_of_mem_bitsOfBytes digit hdigit)

/-- The length of the longest text of an identifier. -/
def longest : Nat := 61

theorem length_toString_le (cid : Cid) : cid.toString.toList.length ≤ longest := by
  cases cid with
  | v0 d =>
    obtain ⟨rest, htext, hlength⟩ := exists_toList_toString_v0 d
    rw [htext, List.length_cons, List.length_cons, hlength]
    decide
  | v1 c d =>
    have hbytes : (v1 c d).toBytes.length ≤ 37 := by
      have hversion : Varint.length 1 ≤ 1 := Varint.length_le_of_lt (k := 0) (by decide)
      have hcode : Varint.length c.code.toNat ≤ 2 :=
        Varint.length_le_of_lt (k := 1) (by cases c <;> decide)
      have hhash : Varint.length hashCode.toNat ≤ 1 := Varint.length_le_of_lt (k := 0) (by decide)
      have hdigest : Varint.length Digest.length ≤ 1 := Varint.length_le_of_lt (k := 0) (by decide)
      have hlength := Digest.length_toList d
      simp only [toBytes, multihash, digest, List.length_append, Varint.length_encode]
      omega
    rw [toList_toString_v1, List.length_cons, List.length_map, Base32.encode, List.length_map,
      Base32.length_bitsOfBytes]
    have : longest = 61 := rfl
    omega

end Cid

namespace Form

/-- **A number is written digit by digit.** -/
theorem length_encodeText_toString (n : Nat) :
    (encodeText (toString n)).length = (Nat.toDigits 10 n).length := by
  have hdigits : ∀ c ∈ Nat.toDigits 10 n, c.isDigit := fun c hc =>
    Nat.isDigit_of_mem_toDigits (by decide) (by decide) hc
  have htext : (toString n).toList = Nat.toDigits 10 n := Nat.toList_repr
  rw [encodeText, htext, Percent.utf8_eq_flatMap]
  generalize Nat.toDigits 10 n = digits at hdigits
  induction digits with
  | nil => rfl
  | cons c digits ih =>
    obtain ⟨hc, hdigits⟩ := List.forall_mem_cons.mp hdigits
    have hascii : c.toNat < 128 := Url.toNat_lt_of_isAlphanum (by simp [Char.isAlphanum, hc])
    have hone : (encodeByte c.toUInt8).length = 1 :=
      Percent.forall_char_lt (P := fun c => c.isDigit → (encodeByte c.toUInt8).length = 1)
        (by decide +kernel) hascii hc
    rw [List.flatMap_cons, Percent.utf8EncodeChar_of_lt hascii, List.singleton_append,
      List.flatMap_cons, List.length_append, hone, ih hdigits, List.length_cons, Nat.add_comm]

end Form

namespace Vendor

open Http

/-- The names in the path of content. -/
def contentNames (cid : Cid) : List (List Char) := [['i', 'p', 'f', 's'], cid.toString.toList]

theorem isPlain_contentNames (cid : Cid) : ∀ n ∈ contentNames cid, Url.IsPlain n := by
  refine List.forall_mem_cons.mpr ⟨⟨List.cons_ne_nil _ _, List.all_eq_true.mp rfl⟩, ?_⟩
  exact List.forall_mem_singleton.mpr cid.isPlain_toString

/-- The room that the path of any content takes. -/
def contentRoom : Nat := 6 + Cid.longest

theorem size_contentNames_le (cid : Cid) : Url.Path.size (contentNames cid) ≤ contentRoom := by
  have hlength := cid.length_toString_le
  simp only [Url.Path.size, Url.Path.text, contentNames, List.flatMap_cons, List.flatMap_nil,
    List.length_append, List.length_cons, List.length_nil, contentRoom]
  omega

/-- The path of content is made of its names. -/
theorem contentPath_eq (cid : Cid) :
    s!"{contentPath}/{cid}" = String.ofList (Url.Path.text (.segments (contentNames cid))) := by
  refine String.toList_inj.mp ?_
  rw [String.toList_ofList, contentNames]
  simp [contentPath, Url.Path.text, toString, String.toList_append]

/-- **The address of content** behind a well-formed address. -/
theorem parse_contentUrl {room : Nat} {base : String}
    (h : Url.WellFormed (room + contentRoom) base) (cid : Cid) :
    ∃ u, Url.parse (contentUrl base cid) = .ok u ∧ u.Roomy room := by
  rw [contentUrl, contentPath_eq]
  have hroom := Nat.add_le_add_left (size_contentNames_le cid) room
  exact (h.mono hroom).join (isPlain_contentNames cid) (List.cons_ne_nil _ _)

/-- The address of a gateway, with a query of some length. -/
def queried (n : Nat) : String := String.ofList ("http://h?".toList ++ List.replicate (n + 1) 'a')

theorem toList_queried (n : Nat) :
    (queried n).toList = "http://h?".toList ++ List.replicate (n + 1) 'a' := String.toList_ofList

theorem plainChar_of_mem_replicate {n : Nat} : ∀ c ∈ List.replicate n 'a', Url.PlainChar c := by
  intro c hc
  obtain rfl := List.eq_of_mem_replicate hc
  exact Url.plainChar_of_isAlphanum rfl

/-- It is one of a web server. -/
theorem exists_parse_queried (n : Nat) :
    ∃ u, Url.parse (queried n) = .ok u ∧ u.scheme = "http".toList ∧ u.host = some ['h'] := by
  obtain ⟨u, hparse, hscheme, hhost, -⟩ := Url.exists_parse_query plainChar_of_mem_replicate
  exact ⟨u, hparse, hscheme, hhost⟩

/-- **It is too long** if the query is. -/
theorem not_ready_of_urlLimit_le {n : Nat} (hn : Request.urlLimit ≤ n) (method : Method) :
    ¬ Request.Ready (Request.ofAddress method (queried n)) := by
  obtain ⟨u, hparse, -, -, hquery⟩ := Url.exists_parse_query plainChar_of_mem_replicate
  refine Request.not_ready_of_query hparse hquery ?_ method
  rw [List.length_replicate]
  omega

/-- **The address of any content there is too long** if the query is. -/
theorem not_ready_queried {n : Nat} (hn : Request.urlLimit ≤ n) (cid : Cid) :
    ¬ Request.Ready (Request.ofAddress .get (contentUrl (queried n) cid)) := by
  have hplain := isPlain_contentNames cid
  have hbase : ("http://h?".toList ++ List.replicate (n + 1) 'a').rdropWhile (· = '/') =
      "http://h?".toList ++ List.replicate (n + 1) 'a' := by
    rw [List.replicate_succ', ← List.append_assoc]
    exact List.rdropWhile_concat_neg _ _ _ (by decide)
  have htext : (contentUrl (queried n) cid).toList = "http://h?".toList ++
      (List.replicate (n + 1) 'a' ++ Url.Path.text (.segments (contentNames cid))) := by
    rw [contentUrl, contentPath_eq, Url.toList_join, toList_queried, Url.joined, hbase,
      String.toList_ofList (l := Url.Path.text _), Url.dropWhile_text hplain (List.cons_ne_nil _ _),
      List.append_assoc]
  obtain ⟨u, hparse, -, -, hquery⟩ := Url.exists_parse_query
    (List.forall_mem_append.mpr ⟨plainChar_of_mem_replicate, Url.plainChar_of_mem_text hplain⟩)
  rw [← htext, String.ofList_toList] at hparse
  refine Request.not_ready_of_query hparse hquery ?_ .get
  rw [List.length_append, List.length_replicate]
  omega

end Vendor

end AddressedStorage
