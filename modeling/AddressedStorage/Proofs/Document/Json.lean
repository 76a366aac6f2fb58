import AddressedStorage.Document.Json
import AddressedStorage.Proofs.Bytes.Concat
import AddressedStorage.Proofs.Http.Percent

/-!
# Proofs/Document/Json — a grammar of JSON texts

`Spells` says which value a text without blanks and escapes stands for.  Reading undoes it
(`ofJsonBytes?_of_spells`): each level of the descent is one character at least, so the length of the
text is fuel enough (`Spells.readValue_append`).
-/

namespace AddressedStorage.JsonSyntax

variable {text name : List Char} {d : Document}

/-! ## Strings -/

/-- A character that stands for itself in a string. -/
structure Bare (c : Char) : Prop where
  ascii : c.toNat < 128
  printable : 0x20 ≤ c.toNat
  ne_quote : c ≠ '"'
  ne_backslash : c ≠ '\\'

instance (c : Char) : Decidable (Bare c) :=
  decidable_of_iff (c.toNat < 128 ∧ 0x20 ≤ c.toNat ∧ c ≠ '"' ∧ c ≠ '\\')
    ⟨fun h => ⟨h.1, h.2.1, h.2.2.1, h.2.2.2⟩, fun h => ⟨h.1, h.2, h.3, h.4⟩⟩

/-- All characters of a text may be checked at once. -/
theorem Bare.of_all (h : text.all fun c => decide (Bare c)) : ∀ c ∈ text, Bare c :=
  fun c hc => of_decide_eq_true (List.all_eq_true.mp h c hc)

/-- Each bare character is one piece. -/
theorem readString_append (h : ∀ c ∈ text, Bare c) (rest : List Char) :
    readString (text ++ '"' :: rest) = some (text.map fun c => .byte c.toUInt8, rest) := by
  induction text with
  | nil => rfl
  | cons c text ih =>
    obtain ⟨hc, htext⟩ := List.forall_mem_cons.mp h
    have hread : readString (c :: (text ++ '"' :: rest)) =
        if c.toNat < 0x20 then none
        else (readString (text ++ '"' :: rest)).map fun read =>
          (.byte c.toNat.toUInt8 :: read.1, read.2) := by
      have hquote := hc.ne_quote
      have hbackslash := hc.ne_backslash
      rw [readString] <;> simp_all
    rw [List.cons_append, hread, if_neg (Nat.not_lt.mpr hc.printable), ih htext]
    rfl

theorem bytes?_map_byte (bytes : List UInt8) : bytes? (bytes.map .byte) = some bytes := by
  induction bytes with
  | nil => rfl
  | cons b bytes ih => rw [List.map_cons, bytes?, ih, Option.map_some]

/-- Bare characters make the text they are. -/
theorem text?_of_bare (h : ∀ c ∈ text, Bare c) :
    text? (text.map fun c => .byte c.toUInt8) = some (String.ofList text) := by
  have hmap : (text.map fun c => Piece.byte c.toUInt8) = (text.map Char.toUInt8).map .byte := by
    rw [List.map_map]
    rfl
  have hbytes := Percent.utf8_of_ascii fun c hc => (h c hc).ascii
  rw [hmap, text?, bytes?_map_byte, Option.bind_some, ← hbytes, Percent.utf8,
    Bytes.toByteArray_toList]
  exact dif_pos (String.ofList text).isValidUTF8

/-! ## Values -/

mutual
/-- A text that stands for a value. -/
inductive Spells : List Char → Document → Prop where
  | null : Spells "null".toList .null
  | boolean (b : Bool) : Spells (if b then "true" else "false").toList (.boolean b)
  | text {text : List Char} (h : ∀ c ∈ text, Bare c) :
    Spells ('"' :: (text ++ ['"'])) (.text (String.ofList text))
  | noItems : Spells ['[', ']'] (.list [])
  | list {text : List Char} {items : List Document} (h : SpellsItems text items) :
    Spells ('[' :: text) (.list items)
  | noFields : Spells ['\x7b', '\x7d'] (.record [])
  | record {text : List Char} {fields : List (String × Document)} (h : SpellsFields text fields) :
    Spells ('\x7b' :: text) (.record fields)
/-- A text that stands for the items of a list, up to its closing bracket. -/
inductive SpellsItems : List Char → List Document → Prop where
  | last {text : List Char} {d : Document} (h : Spells text d) : SpellsItems (text ++ [']']) [d]
  | cons {text later : List Char} {d : Document} {items : List Document} (h : Spells text d)
      (hlater : SpellsItems later items) : SpellsItems (text ++ ',' :: later) (d :: items)
/-- A text that stands for the fields of a record, up to its closing brace. -/
inductive SpellsFields : List Char → List (String × Document) → Prop where
  | last {name text : List Char} {d : Document} (hname : ∀ c ∈ name, Bare c) (h : Spells text d) :
    SpellsFields ('"' :: (name ++ '"' :: ':' :: (text ++ ['\x7d']))) [(String.ofList name, d)]
  | cons {name text later : List Char} {d : Document} {fields : List (String × Document)}
      (hname : ∀ c ∈ name, Bare c) (h : Spells text d) (hlater : SpellsFields later fields) :
    SpellsFields ('"' :: (name ++ '"' :: ':' :: (text ++ ',' :: later)))
      ((String.ofList name, d) :: fields)
end

/-- The text of a value starts with a mark of its own, and that closes no list. -/
theorem Spells.exists_cons (h : Spells text d) :
    ∃ c rest, text = c :: rest ∧ isSpace c = false ∧ c ≠ ']' := by
  cases h with
  | boolean b => cases b <;> exact ⟨_, _, rfl, by decide, by decide⟩
  | _ => exact ⟨_, _, rfl, by decide, by decide⟩

theorem SpellsItems.exists_cons {items : List Document} (h : SpellsItems text items) :
    ∃ c rest, text = c :: rest ∧ isSpace c = false ∧ c ≠ ']' := by
  cases h with
  | last h =>
    obtain ⟨c, rest, rfl, hc⟩ := h.exists_cons
    exact ⟨c, _, rfl, hc⟩
  | cons h hlater =>
    obtain ⟨c, rest, rfl, hc⟩ := h.exists_cons
    exact ⟨c, _, rfl, hc⟩

/-- A field whose name is a text. -/
def named (field : String × Document) : Option String × Document := (some field.1, field.2)

theorem recordValue_map (fields : List (String × Document)) :
    recordValue (fields.map named) = .record fields := by
  have hnames : (fields.map named).mapM (fun f => f.1.map (·, f.2)) = some fields := by
    induction fields with
    | nil => rfl
    | cons f fields ih =>
      rw [List.map_cons, List.mapM_cons, ih]
      rfl
  rw [recordValue]
  simp only [hnames]

theorem SpellsFields.exists_cons {fields : List (String × Document)}
    (h : SpellsFields text fields) : ∃ rest, text = '"' :: rest := by
  cases h with
  | last => exact ⟨_, rfl⟩
  | cons => exact ⟨_, rfl⟩

/-- The last field of a record is read if its value is. -/
theorem readFields_last {fuel : Nat} {more rest : List Char} (hname : ∀ c ∈ name, Bare c)
    (hvalue : readValue fuel more = some (d, '\x7d' :: rest)) :
    readFields (fuel + 1) ('"' :: (name ++ '"' :: ':' :: more)) =
      some ([(some (String.ofList name), d)], rest) := by
  have hquote : skipSpace ('"' :: (name ++ '"' :: ':' :: more)) =
      '"' :: (name ++ '"' :: ':' :: more) := rfl
  have hcolon : skipSpace (':' :: more) = ':' :: more := rfl
  have hbrace : skipSpace ('\x7d' :: rest) = '\x7d' :: rest := rfl
  rw [readFields, hquote]
  simp only [readString_append hname, hcolon, hvalue, hbrace, text?_of_bare hname]

/-- A field before others is read if its value is, and they are. -/
theorem readFields_cons {fuel : Nat} {more later rest : List Char}
    {fields : List (Option String × Document)} (hname : ∀ c ∈ name, Bare c)
    (hvalue : readValue fuel more = some (d, ',' :: later))
    (hlater : readFields fuel later = some (fields, rest)) :
    readFields (fuel + 1) ('"' :: (name ++ '"' :: ':' :: more)) =
      some ((some (String.ofList name), d) :: fields, rest) := by
  have hquote : skipSpace ('"' :: (name ++ '"' :: ':' :: more)) =
      '"' :: (name ++ '"' :: ':' :: more) := rfl
  have hcolon : skipSpace (':' :: more) = ':' :: more := rfl
  have hcomma : skipSpace (',' :: later) = ',' :: later := rfl
  rw [readFields, hquote]
  simp only [readString_append hname, hcolon, hvalue, hcomma, hlater, Option.map_some,
    text?_of_bare hname]

mutual
/-- **A value is read** from its text, whatever follows. -/
theorem Spells.readValue_append {text : List Char} {d : Document} (h : Spells text d) (fuel : Nat)
    (hfuel : text.length ≤ fuel) (rest : List Char) :
    readValue fuel (text ++ rest) = some (d, rest) := by
  obtain _ | fuel := fuel
  · obtain ⟨c, _, rfl, _⟩ := h.exists_cons
    cases hfuel
  cases h with
  | null => rfl
  | boolean b => cases b <;> rfl
  | noItems => rfl
  | noFields => rfl
  | @text text h =>
    have hread : readValue (fuel + 1) ('"' :: (text ++ '"' :: rest)) =
        (readString (text ++ '"' :: rest)).map fun read => (textValue (text? read.1), read.2) := rfl
    rw [List.cons_append, List.append_assoc, List.singleton_append, hread, readString_append h,
      Option.map_some]
    dsimp only
    rw [text?_of_bare h, textValue]
  | @list text items h =>
    obtain ⟨c, more, rfl, hspace, hbracket⟩ := h.exists_cons
    have hitems := h.readItems_append fuel (by simpa using hfuel) rest
    have hread : readValue (fuel + 1) ('[' :: c :: (more ++ rest)) =
        (readItems fuel (c :: (more ++ rest))).map fun read => (.list read.1, read.2) := by
      have hopen : skipSpace ('[' :: c :: (more ++ rest)) = '[' :: c :: (more ++ rest) := rfl
      have hfirst : skipSpace (c :: (more ++ rest)) = c :: (more ++ rest) :=
        List.dropWhile_cons_of_neg (by simp [hspace])
      rw [readValue, hopen]
      simp only [hfirst]
      split <;> simp_all
    rw [List.cons_append, List.cons_append, hread, ← List.cons_append, hitems, Option.map_some]
  | @record text fields h =>
    obtain ⟨more, rfl⟩ := h.exists_cons
    have hfields := h.readFields_append fuel (by simpa using hfuel) rest
    have hread : readValue (fuel + 1) ('\x7b' :: '"' :: (more ++ rest)) =
        (readFields fuel ('"' :: (more ++ rest))).map fun read => (recordValue read.1, read.2) := rfl
    rw [List.cons_append, List.cons_append, hread, ← List.cons_append, hfields, Option.map_some]
    dsimp only
    rw [recordValue_map]
/-- **Items are read** from their text. -/
theorem SpellsItems.readItems_append {text : List Char} {items : List Document}
    (h : SpellsItems text items) (fuel : Nat) (hfuel : text.length ≤ fuel) (rest : List Char) :
    readItems fuel (text ++ rest) = some (items, rest) := by
  obtain _ | fuel := fuel
  · obtain ⟨c, _, rfl, _⟩ := h.exists_cons
    cases hfuel
  cases h with
  | @last text d h =>
    have hlength : text.length ≤ fuel := by simpa using hfuel
    have hclose : skipSpace (']' :: rest) = ']' :: rest := rfl
    rw [List.append_assoc, List.singleton_append, readItems,
      h.readValue_append fuel hlength (']' :: rest)]
    simp only [hclose]
  | @cons text later d items h hlater =>
    have hlength : text.length + later.length ≤ fuel := by
      rw [List.length_append, List.length_cons] at hfuel
      omega
    have hcomma : skipSpace (',' :: (later ++ rest)) = ',' :: (later ++ rest) := rfl
    rw [List.append_assoc, List.cons_append, readItems,
      h.readValue_append fuel (by omega) (',' :: (later ++ rest))]
    simp only [hcomma, hlater.readItems_append fuel (by omega) rest, Option.map_some]
/-- **Fields are read** from their text. -/
theorem SpellsFields.readFields_append {text : List Char} {fields : List (String × Document)}
    (h : SpellsFields text fields) (fuel : Nat) (hfuel : text.length ≤ fuel) (rest : List Char) :
    readFields fuel (text ++ rest) = some (fields.map named, rest) := by
  obtain _ | fuel := fuel
  · obtain ⟨_, rfl⟩ := h.exists_cons
    cases hfuel
  cases h with
  | @last name text d hname h =>
    have hlength : text.length ≤ fuel := by
      simp only [List.length_cons, List.length_append] at hfuel
      omega
    have hvalue := h.readValue_append fuel hlength ('\x7d' :: rest)
    simpa [named] using readFields_last hname hvalue
  | @cons name text later d fields hname h hlater =>
    have hlength : text.length + later.length ≤ fuel := by
      simp only [List.length_cons, List.length_append] at hfuel
      omega
    have hvalue := h.readValue_append fuel (by omega) (',' :: (later ++ rest))
    have hfields := hlater.readFields_append fuel (by omega) rest
    simpa [named] using readFields_cons hname hvalue hfields
end

/-! ## Whole texts -/

theorem Bare.forall_ascii (h : ∀ c ∈ text, Bare c) : ∀ c ∈ text, c.toNat < 128 :=
  fun c hc => (h c hc).ascii

mutual
/-- All of this is ASCII. -/
theorem Spells.ascii {text : List Char} {d : Document} (h : Spells text d) :
    ∀ c ∈ text, c.toNat < 128 := by
  cases h with
  | null => exact Bare.forall_ascii (.of_all (by decide))
  | boolean b => cases b <;> exact Bare.forall_ascii (.of_all (by decide))
  | noItems => exact Bare.forall_ascii (.of_all (by decide))
  | noFields => exact Bare.forall_ascii (.of_all (by decide))
  | text h => simpa [or_imp, forall_and] using Bare.forall_ascii h
  | list h => simpa using h.ascii
  | record h => simpa using h.ascii
theorem SpellsItems.ascii {text : List Char} {items : List Document} (h : SpellsItems text items) :
    ∀ c ∈ text, c.toNat < 128 := by
  cases h with
  | last h => simpa [or_imp, forall_and] using h.ascii
  | cons h hlater => simpa [or_imp, forall_and] using ⟨h.ascii, hlater.ascii⟩
theorem SpellsFields.ascii {text : List Char} {fields : List (String × Document)}
    (h : SpellsFields text fields) : ∀ c ∈ text, c.toNat < 128 := by
  cases h with
  | last hname h =>
    simpa [or_imp, forall_and] using ⟨Bare.forall_ascii hname, h.ascii⟩
  | cons hname h hlater =>
    simpa [or_imp, forall_and] using ⟨Bare.forall_ascii hname, h.ascii, hlater.ascii⟩
end

end AddressedStorage.JsonSyntax

namespace AddressedStorage.Document

/-- **A text is read as the value it spells.** -/
theorem ofJsonBytes?_of_spells {text : List Char} {d : Document} (h : JsonSyntax.Spells text d) :
    ofJsonBytes? (Percent.utf8 text) = some d := by
  have hchars : (text.map Char.toUInt8).map (fun b => Char.ofNat b.toNat) = text := by
    rw [List.map_map]
    exact (List.map_congr_left fun c hc => Percent.ofNat_toUInt8_of_lt (h.ascii c hc)).trans text.map_id
  have hread := h.readValue_append (2 * text.length + 2) (by omega) []
  rw [List.append_nil] at hread
  rw [ofJsonBytes?, Percent.utf8_of_ascii h.ascii, hchars]
  simp only [hread]
  rfl

end AddressedStorage.Document
