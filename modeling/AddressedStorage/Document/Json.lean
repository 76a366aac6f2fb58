import AddressedStorage.Bytes.Hex
import AddressedStorage.Document.Shortest

/-!
# Document/Json — JSON texts

`Document.ofJson?` reads one JSON value with nothing but blanks around it; `Document.toJson` writes
one without blanks, the fields of each record sorted by name.

Reading is by descent.  Every step of the descent either consumes a character or goes one level
down, so twice the length of the text bounds their number.  A text is read as bytes, each for the
character of its number, and only the bytes of a string have to be UTF-8, where it is asked for.
-/

namespace AddressedStorage.JsonSyntax

/-! ## Reading -/

/-- A blank between tokens. -/
def isSpace (c : Char) : Bool := c == ' ' || c == '\t' || c == '\n' || c == '\r'

/-- The text after leading blanks. -/
def skipSpace (cs : List Char) : List Char := cs.dropWhile isSpace

/-- A code unit of four hexadecimal digits. -/
def unit? (a b c d : Char) : Option Nat := do
  return 4096 * (← Hex.digit? a) + 256 * (← Hex.digit? b) + 16 * (← Hex.digit? c) + (← Hex.digit? d)

/-- The character behind a backslash, other than a code unit. -/
def escape? : Char → Option Char
  | '"' => some '"'
  | '\\' => some '\\'
  | '/' => some '/'
  | 'b' => some '\x08'
  | 'f' => some '\x0c'
  | 'n' => some '\n'
  | 'r' => some '\r'
  | 't' => some '\t'
  | _ => none

/-- Whether a code unit opens a pair. -/
def isHigh (n : Nat) : Bool := 0xD800 ≤ n && n < 0xDC00

/-- Whether a code unit closes a pair. -/
def isLow (n : Nat) : Bool := 0xDC00 ≤ n && n < 0xE000

/-- A piece of a string: a byte as it stands there, or a code unit that is escaped. -/
inductive Piece where
  | byte (b : UInt8)
  | unit (n : Nat)

/-- Reads the pieces of a string up to its closing quote. -/
def readString : List Char → Option (List Piece × List Char)
  | [] => none
  | '"' :: rest => some ([], rest)
  | '\\' :: 'u' :: a :: b :: c :: d :: rest =>
    match unit? a b c d with
    | none => none
    | some n => (readString rest).map fun (pieces, r) => (.unit n :: pieces, r)
  | '\\' :: e :: rest =>
    match escape? e with
    | none => none
    | some c => (readString rest).map fun (pieces, r) => (.byte c.toNat.toUInt8 :: pieces, r)
  | c :: rest =>
    if c.toNat < 0x20 then none
    else (readString rest).map fun (pieces, r) => (.byte c.toNat.toUInt8 :: pieces, r)

/-- The bytes that pieces make.  A surrogate must stand in a pair. -/
def bytes? : List Piece → Option (List UInt8)
  | [] => some []
  | .byte b :: rest => (bytes? rest).map (b :: ·)
  | .unit n :: rest =>
    if isHigh n then
      match rest with
      | .unit m :: more =>
        if isLow m then
          let c := Char.ofNat (0x10000 + (n - 0xD800) * 0x400 + (m - 0xDC00))
          (bytes? more).map (String.utf8EncodeChar c ++ ·)
        else none
      | _ => none
    else if isLow n then none
    else (bytes? rest).map (String.utf8EncodeChar (Char.ofNat n) ++ ·)

/-- The text that pieces make, if they make one. -/
def text? (pieces : List Piece) : Option String :=
  (bytes? pieces).bind fun bytes => String.fromUTF8? bytes.toByteArray

/-- A text as a value. -/
def textValue : Option String → Document
  | some text => .text text
  | none => .unreadable

/-- A record of fields, if all their names are texts. -/
def recordValue (fields : List (Option String × Document)) : Document :=
  match fields.mapM fun (name, d) => name.map (·, d) with
  | some fields => .record fields
  | none => .unreadable

/-- The leading digits and what follows them. -/
def readDigits (cs : List Char) : List Char × List Char := cs.span Char.isDigit

/-- The number that decimal digits name. -/
def digitsValue (ds : List Char) : Nat := ds.foldl (fun n c => 10 * n + (c.toNat - '0'.toNat)) 0

/-- The integer part of a number: no digit may follow a leading zero. -/
def readWhole (cs : List Char) : Option (List Char × List Char) :=
  match readDigits cs with
  | ([], _) => none
  | ('0' :: _ :: _, _) => none
  | r => some r

/-- The digits behind a point, if there is one. -/
def readFraction : List Char → Option (List Char × List Char)
  | '.' :: rest =>
    match readDigits rest with
    | ([], _) => none
    | r => some r
  | cs => some ([], cs)

/-- Reads the digits of an exponent. -/
def readExponentDigits (negative : Bool) (cs : List Char) : Option (Option Int × List Char) :=
  match readDigits cs with
  | ([], _) => none
  | (ds, rest) =>
    let n : Int := digitsValue ds
    some (some (if negative then -n else n), rest)

/-- The exponent, if there is one. -/
def readExponent : List Char → Option (Option Int × List Char)
  | e :: rest =>
    if e = 'e' ∨ e = 'E' then
      match rest with
      | '+' :: rest => readExponentDigits false rest
      | '-' :: rest => readExponentDigits true rest
      | rest => readExponentDigits false rest
    else some (none, e :: rest)
  | [] => some (none, [])

/-- The value of a number from its parts.  Without fraction and exponent it is an integer if 64 bits
hold it; minus zero is not one. -/
def number (negative : Bool) (whole fraction : List Char) (exponent : Option Int) : Document :=
  let n := digitsValue whole
  if fraction = [] ∧ exponent = none ∧ negative = false ∧ n < UInt64.size then .integer n
  else if fraction = [] ∧ exponent = none ∧ negative = true ∧ 0 < n ∧ 2 * n ≤ UInt64.size then
    .integer (-(n : Int))
  else
    .decimal { negative, digits := digitsValue (whole ++ fraction),
               exponent := exponent.getD 0 - (fraction.length : Int) }

/-- Reads a number. -/
def readNumber (cs : List Char) : Option (Document × List Char) := do
  let (negative, cs) := match cs with
    | '-' :: rest => (true, rest)
    | cs => (false, cs)
  let (whole, cs) ← readWhole cs
  let (fraction, cs) ← readFraction cs
  let (exponent, cs) ← readExponent cs
  return (number negative whole fraction exponent, cs)

mutual
/-- Reads a value and returns what follows it. -/
def readValue : (fuel : Nat) → List Char → Option (Document × List Char)
  | 0, _ => none
  | fuel + 1, cs =>
    match skipSpace cs with
    | 'n' :: 'u' :: 'l' :: 'l' :: rest => some (.null, rest)
    | 't' :: 'r' :: 'u' :: 'e' :: rest => some (.boolean true, rest)
    | 'f' :: 'a' :: 'l' :: 's' :: 'e' :: rest => some (.boolean false, rest)
    | '"' :: rest => (readString rest).map fun (pieces, r) => (textValue (text? pieces), r)
    | '[' :: rest =>
      match skipSpace rest with
      | ']' :: rest => some (.list [], rest)
      | rest => (readItems fuel rest).map fun (items, r) => (.list items, r)
    | '{' :: rest =>
      match skipSpace rest with
      | '}' :: rest => some (.record [], rest)
      | rest => (readFields fuel rest).map fun (fields, r) => (recordValue fields, r)
    | cs => readNumber cs
/-- Reads the items of a list up to its closing bracket. -/
def readItems : (fuel : Nat) → List Char → Option (List Document × List Char)
  | 0, _ => none
  | fuel + 1, cs =>
    match readValue fuel cs with
    | none => none
    | some (d, rest) =>
      match skipSpace rest with
      | ',' :: rest => (readItems fuel rest).map fun (ds, r) => (d :: ds, r)
      | ']' :: rest => some ([d], rest)
      | _ => none
/-- Reads the fields of a record up to its closing brace. -/
def readFields : (fuel : Nat) → List Char → Option (List (Option String × Document) × List Char)
  | 0, _ => none
  | fuel + 1, cs =>
    match skipSpace cs with
    | '"' :: rest =>
      match readString rest with
      | none => none
      | some (name, rest) =>
        match skipSpace rest with
        | ':' :: rest =>
          match readValue fuel rest with
          | none => none
          | some (d, rest) =>
            match skipSpace rest with
            | ',' :: rest =>
              (readFields fuel rest).map fun (fs, r) => ((text? name, d) :: fs, r)
            | '}' :: rest => some ([(text? name, d)], rest)
            | _ => none
        | _ => none
    | _ => none
end

/-! ## Writing -/

/-- How one character is written in a string. -/
def escapeChar (c : Char) : List Char :=
  match c with
  | '"' => ['\\', '"']
  | '\\' => ['\\', '\\']
  | '\x08' => ['\\', 'b']
  | '\x0c' => ['\\', 'f']
  | '\n' => ['\\', 'n']
  | '\r' => ['\\', 'r']
  | '\t' => ['\\', 't']
  | c =>
    if c.toNat < 0x20 then
      ['\\', 'u', '0', '0', Hex.symbol (c.toNat / 16), Hex.symbol (c.toNat % 16)]
    else [c]

/-- A string between quotes. -/
def quoted (s : String) : List Char := '"' :: s.toList.flatMap escapeChar ++ ['"']

/-- Puts a field among fields sorted by name, in the place of one of the same name. -/
def insertField {α : Type} (field : String × α) : List (String × α) → List (String × α)
  | [] => [field]
  | f :: rest =>
    if field.1 < f.1 then field :: f :: rest
    else if field.1 = f.1 then field :: rest
    else f :: insertField field rest

/-- Fields sorted by name; of several with one name the last counts. -/
def sortFields {α : Type} (fields : List (String × α)) : List (String × α) :=
  fields.foldl (fun sorted f => insertField f sorted) []

/-- Texts with commas between them. -/
def commas : List (List Char) → List Char
  | [] => []
  | [t] => t
  | t :: rest => t ++ ',' :: commas rest

mutual
/-- A value without blanks. -/
def write : Document → List Char
  | .null => "null".toList
  | .boolean b => (if b then "true" else "false").toList
  | .integer i => (toString i).toList
  | .decimal d => d.text
  | .text s => quoted s
  | .list items => '[' :: commas (writeItems items) ++ [']']
  | .record fields =>
    let texts := (sortFields (writeFields fields)).map fun (name, t) => quoted name ++ ':' :: t
    '\x7b' :: commas texts ++ ['\x7d']
  | .foreign s => quoted s
  | .unreadable => "null".toList
/-- Each item of a list. -/
def writeItems : List Document → List (List Char)
  | [] => []
  | d :: rest => write d :: writeItems rest
/-- Each value of a record, beside its name. -/
def writeFields : List (String × Document) → List (String × List Char)
  | [] => []
  | (name, d) :: rest => (name, write d) :: writeFields rest
end

end AddressedStorage.JsonSyntax

namespace AddressedStorage.Document

/-- Reads the bytes of a JSON text. -/
def ofJsonBytes? (bytes : List UInt8) : Option Document :=
  let cs := bytes.map fun b => Char.ofNat b.toNat
  match JsonSyntax.readValue (2 * cs.length + 2) cs with
  | some (d, rest) => if JsonSyntax.skipSpace rest = [] then some d else none
  | none => none

/-- Reads a JSON text. -/
def ofJson? (text : String) : Option Document := ofJsonBytes? text.toByteArray.data.toList

/-- Writes a JSON text. -/
def toJson (d : Document) : String := String.ofList (JsonSyntax.write d)

end AddressedStorage.Document
