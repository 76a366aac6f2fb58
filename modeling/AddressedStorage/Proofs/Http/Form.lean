import AddressedStorage.Http.Form
import AddressedStorage.Proofs.Bytes.Concat
import AddressedStorage.Proofs.Bytes.Radix
import AddressedStorage.Proofs.Http.Percent

/-!
# Proofs/Http/Form — pairs are read back

A name or a value is written in characters that join nothing (`joins_eq_false`), so a query falls apart
again where its pairs were joined, and each name and value is read back byte by byte
(`decode?_encode`).
-/

namespace AddressedStorage.Form

variable {text : String} {c : Char}

/-! ## Bytes -/

/-- The bytes of an encoded text, spaces in the place of plus signs. -/
def spaced (text : List Char) : List UInt8 :=
  (Percent.utf8 text).map fun b => if b = '+'.toUInt8 then ' '.toUInt8 else b

theorem spaced_append (a b : List Char) : spaced (a ++ b) = spaced a ++ spaced b := by
  simp only [spaced, Percent.utf8_eq_flatMap, List.flatMap_append, List.map_append]

/-- A byte that begins no escape stands for itself. -/
theorem decode_cons_of_ne {b : UInt8} (h : b ≠ '%'.toUInt8) (bytes : List UInt8) :
    Percent.decode (b :: bytes) = b :: Percent.decode bytes := by
  match bytes with
  | [] => rfl
  | [_] => rfl
  | high :: low :: rest =>
    have hnone : Percent.escaped? b high low = none := if_neg h
    rw [Percent.decode, hnone]

/-- How a byte is written: as itself or a plus sign, or as an escape. -/
def isRead (b : UInt8) : Bool :=
  match spaced (encodeByte b) with
  | [c] => c == b && b != '%'.toUInt8
  | [mark, high, low] => Percent.escaped? mark high low == some b
  | _ => false

theorem isRead_eq_true (b : UInt8) : isRead b = true :=
  Radix.forall_byte (P := fun b => isRead b = true) (by decide +kernel) b

/-- **A byte is read back** in front of others. -/
theorem decode_spaced_encodeByte (b : UInt8) (bytes : List UInt8) :
    Percent.decode (spaced (encodeByte b) ++ bytes) = b :: Percent.decode bytes := by
  have hread := isRead_eq_true b
  unfold isRead at hread
  split at hread
  · rename_i c hself
    obtain ⟨hc, hb⟩ := Bool.and_eq_true_iff.mp hread
    obtain rfl := eq_of_beq hc
    rw [hself, List.singleton_append, decode_cons_of_ne (bne_iff_ne.mp hb)]
  · rename_i mark high low hescape
    rw [hescape]
    change Percent.decode (mark :: high :: low :: bytes) = _
    rw [Percent.decode, eq_of_beq hread]
  · cases hread

/-- **A name or a value is read back.** -/
theorem decodeText?_encodeText (text : String) : decodeText? (encodeText text) = some text := by
  have hbytes : ∀ bytes, Percent.decode (spaced (bytes.flatMap encodeByte)) = bytes := by
    intro bytes
    induction bytes with
    | nil => rfl
    | cons b bytes ih => rw [List.flatMap_cons, spaced_append, decode_spaced_encodeByte, ih]
  have htext : (Percent.utf8 text.toList).toByteArray = text.toByteArray := by
    rw [Percent.utf8, String.ofList_toList, Bytes.toByteArray_toList]
  rw [decodeText?]
  change String.fromUTF8? (Percent.decode (spaced (encodeText text))).toByteArray = some text
  rw [encodeText, hbytes, htext]
  exact dif_pos text.isValidUTF8

/-! ## Pairs -/

/-- What joins pairs, or a name and its value, or lines. -/
def joins (c : Char) : Bool := c == '&' || c == '=' || c == '\n'

/-- **Nothing joins in a name or a value.** -/
theorem joins_eq_false (h : c ∈ encodeText text) : joins c = false := by
  obtain ⟨b, -, hc⟩ := List.mem_flatMap.mp h
  have hbyte : (encodeByte b).all (fun c => !joins c) = true :=
    Radix.forall_byte (P := fun b => (encodeByte b).all (fun c => !joins c) = true)
      (by decide +kernel) b
  simpa using List.all_eq_true.mp hbyte c hc

theorem ne_of_mem_encodeText (h : c ∈ encodeText text) : c ≠ '&' ∧ c ≠ '=' ∧ c ≠ '\n' := by
  have hjoins := joins_eq_false h
  simpa [joins, and_assoc] using hjoins

/-- **A pair is read back**: the first `=` in it is the one that joins it. -/
theorem decodePair?_encodePair (p : Pair) : decodePair? (encodePair p) = some p := by
  have hname : ∀ c ∈ encodeText p.1, decide (c ≠ '=') := fun c hc =>
    decide_eq_true (ne_of_mem_encodeText hc).2.1
  have htake : (encodePair p).takeWhile (· ≠ '=') = encodeText p.1 := by
    rw [encodePair, List.takeWhile_append_of_pos hname, List.takeWhile_cons]
    exact List.append_nil _
  have hdrop : (encodePair p).dropWhile (· ≠ '=') = '=' :: encodeText p.2 := by
    rw [encodePair, List.dropWhile_append_of_pos hname, List.dropWhile_cons]
    rfl
  rw [decodePair?, htake, hdrop, decodeText?_encodeText, List.drop_one, List.tail_cons,
    decodeText?_encodeText]
  rfl

theorem of_mem_encodePair {p : Pair} (h : c ∈ encodePair p) : c ≠ '&' ∧ c ≠ '\n' := by
  rcases List.mem_append.mp h with hname | hvalue
  · exact ⟨(ne_of_mem_encodeText hname).1, (ne_of_mem_encodeText hname).2.2⟩
  · rcases List.mem_cons.mp hvalue with rfl | hvalue
    · decide
    · exact ⟨(ne_of_mem_encodeText hvalue).1, (ne_of_mem_encodeText hvalue).2.2⟩

theorem encodePair_ne_nil (p : Pair) : encodePair p ≠ [] :=
  List.append_ne_nil_of_right_ne_nil _ (List.cons_ne_nil _ _)

theorem encode_ne_nil {pairs : List Pair} (h : pairs ≠ []) : encode pairs ≠ [] := by
  match pairs, h with
  | [p], _ => exact encodePair_ne_nil p
  | p :: q :: rest, _ => exact List.append_ne_nil_of_right_ne_nil _ (List.cons_ne_nil _ _)

/-- A query stands on one line. -/
theorem ne_newline_of_mem_encode {pairs : List Pair} (h : c ∈ encode pairs) : c ≠ '\n' := by
  induction pairs with
  | nil => cases h
  | cons p pairs ih =>
    cases pairs with
    | nil => exact (of_mem_encodePair h).2
    | cons q pairs =>
      rw [encode, List.mem_append, List.mem_cons] at h
      · rcases h with hpair | rfl | hrest
        · exact (of_mem_encodePair hpair).2
        · decide
        · exact ih hrest
      · exact nofun

/-- A query falls apart into its pairs. -/
theorem pieces_encode (pairs : List Pair) :
    (pieces (· == '&') (encode pairs)).filter (· ≠ []) = pairs.map encodePair := by
  have hone : ∀ p, pieces (· == '&') (encodePair p) = [encodePair p] := fun p =>
    pieces_of_forall fun c hc => beq_eq_false_iff_ne.mpr (of_mem_encodePair hc).1
  have hkept : ∀ p, [encodePair p].filter (· ≠ []) = [encodePair p] := fun p =>
    List.filter_eq_self.mpr (List.forall_mem_singleton.mpr (decide_eq_true (encodePair_ne_nil p)))
  induction pairs with
  | nil => rfl
  | cons p pairs ih =>
    cases pairs with
    | nil => rw [encode, hone, hkept, List.map_cons, List.map_nil]
    | cons q pairs =>
      have hcut : pieces (· == '&') (encodePair p ++ '&' :: encode (q :: pairs)) =
          pieces (· == '&') (encodePair p) ++ pieces (· == '&') (encode (q :: pairs)) :=
        pieces_append_cons _ _ (beq_self_eq_true '&')
      rw [encode, hcut, hone, List.filter_append, hkept, ih, List.map_cons, List.singleton_append]
      · rfl
      · exact nofun

/-- **Pairs are read back** from the query they are written as, in their order. -/
theorem decode?_encode (pairs : List Pair) : decode? (encode pairs) = some pairs := by
  rw [decode?, pieces_encode]
  induction pairs with
  | nil => rfl
  | cons p pairs ih =>
    rw [List.map_cons, List.mapM_cons, decodePair?_encodePair]
    change (List.mapM decodePair? (pairs.map encodePair) >>= fun rest => some (p :: rest)) = _
    rw [ih]
    rfl

end AddressedStorage.Form
