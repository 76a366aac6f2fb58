import AddressedStorage.Document.Json
import AddressedStorage.Text.Numeral

/-!
# Document/Toml/Scalar — keys, strings, numbers and dates

Readers for the values that hold no others.  Each returns what it read and the text that follows.
-/

namespace AddressedStorage.Toml

/-- A reader of a prefix of a text. -/
abbrev Reader (α : Type) := List Char → Option (α × List Char)

/-! ## Blanks -/

/-- A blank within a line. -/
def isBlank (c : Char) : Bool := c == ' ' || c == '\t'

/-- The text after leading blanks. -/
def skipBlanks (cs : List Char) : List Char := cs.dropWhile isBlank

/-- The text after a line end. -/
def newline? : List Char → Option (List Char)
  | '\n' :: rest => some rest
  | '\r' :: '\n' :: rest => some rest
  | _ => none

/-- A character that may stand in a comment or a one-line string. -/
def isLineChar (c : Char) : Bool := c == '\t' || (0x20 ≤ c.toNat && c.toNat ≠ 0x7F)

/-- The text after a comment, if there is one. -/
def skipComment : List Char → List Char
  | '#' :: rest => rest.dropWhile isLineChar
  | cs => cs

/-! ## Strings -/

/-- Reads `n` hexadecimal digits onto a number. -/
def readHex : (n value : Nat) → Reader Nat
  | 0, value, cs => some (value, cs)
  | n + 1, value, c :: rest => (Hex.digit? c).bind fun d => readHex n (16 * value + d) rest
  | _ + 1, _, [] => none

/-- The character of a code point that is one. -/
def scalar? (n : Nat) : Option Char :=
  if n < 0xD800 ∨ (0xDFFF < n ∧ n < 0x110000) then some (Char.ofNat n) else none

/-- Reads what follows a backslash. -/
def readEscape : Reader Char
  | 'u' :: rest => (readHex 4 0 rest).bind fun (n, rest) => (scalar? n).map (·, rest)
  | 'U' :: rest => (readHex 8 0 rest).bind fun (n, rest) => (scalar? n).map (·, rest)
  | '/' :: _ => none
  | c :: rest => (JsonSyntax.escape? c).map (·, rest)
  | [] => none

/-- The text after line ends and blanks. -/
def skipLines : List Char → List Char
  | '\r' :: '\n' :: rest => skipLines rest
  | c :: rest => if isBlank c ∨ c = '\n' then skipLines rest else c :: rest
  | [] => []

/-- How many copies of a quote stand in front, and the text after them. -/
def countQuotes (quote : Char) (cs : List Char) : Nat × List Char :=
  ((cs.takeWhile (· = quote)).length, cs.dropWhile (· = quote))

/-- Reads a one-line string up to its closing quote.  `fuel` bounds the number of characters. -/
def readLine (quote : Char) (escapes : Bool) : (fuel : Nat) → Reader (List Char)
  | 0, _ => none
  | _ + 1, [] => none
  | fuel + 1, c :: rest =>
    if c = quote then some ([], rest)
    else if c = '\\' ∧ escapes then
      (readEscape rest).bind fun (e, rest) =>
        (readLine quote escapes fuel rest).map fun (s, r) => (e :: s, r)
    else if isLineChar c then (readLine quote escapes fuel rest).map fun (s, r) => (c :: s, r)
    else none

/-- Reads a string of several lines.  Three quotes close it, and one or two before them belong to it; a
backslash at the end of a line joins it to the next text. -/
def readLines (quote : Char) (escapes : Bool) : (fuel : Nat) → Reader (List Char)
  | 0, _ => none
  | _ + 1, [] => none
  | fuel + 1, c :: rest =>
    if c = quote then
      let (n, after) := countQuotes quote (c :: rest)
      if n < 3 then
        (readLines quote escapes fuel after).map fun (s, r) => (List.replicate n quote ++ s, r)
      else if n ≤ 5 then some (List.replicate (n - 3) quote, after)
      else none
    else if c = '\\' ∧ escapes then
      match newline? (skipBlanks rest) with
      | some next => readLines quote escapes fuel (skipLines next)
      | none =>
        (readEscape rest).bind fun (e, rest) =>
          (readLines quote escapes fuel rest).map fun (s, r) => (e :: s, r)
    else
      match newline? (c :: rest) with
      | some next => (readLines quote escapes fuel next).map fun (s, r) => ('\n' :: s, r)
      | none =>
        if isLineChar c then (readLines quote escapes fuel rest).map fun (s, r) => (c :: s, r)
        else none

/-- Reads a string of either kind behind its first quote; double quotes allow escapes. -/
def readQuoted (quote : Char) (rest : List Char) : Option (List Char × List Char) :=
  let escapes := quote == '"'
  match countQuotes quote rest with
  | (0, _) => readLine quote escapes (rest.length + 1) rest
  | (1, after) => some ([], after)
  | _ =>
    let body := rest.drop 2
    readLines quote escapes (body.length + 1) ((newline? body).getD body)

/-! ## Keys -/

/-- A character of a key without quotes. -/
def isKeyChar (c : Char) : Bool := c.isAlphanum || c == '-' || c == '_'

/-- Reads one part of a key. -/
def readKeyPart : Reader String
  | '"' :: rest =>
    (readLine '"' true (rest.length + 1) rest).map fun (s, r) => (String.ofList s, r)
  | '\'' :: rest =>
    (readLine '\'' false (rest.length + 1) rest).map fun (s, r) => (String.ofList s, r)
  | cs =>
    match cs.span isKeyChar with
    | ([], _) => none
    | (key, rest) => some (String.ofList key, rest)

/-- Reads the parts of a key between dots, of which there are at most `fuel`. -/
def readKey : (fuel : Nat) → Reader (List String)
  | 0, _ => none
  | fuel + 1, cs =>
    (readKeyPart (skipBlanks cs)).bind fun (part, rest) =>
      match skipBlanks rest with
      | '.' :: rest => (readKey fuel rest).map fun (parts, r) => (part :: parts, r)
      | rest => some ([part], rest)

/-! ## Numbers -/

/-- Reads digits that single underscores may separate. -/
def readDigits (isDigit : Char → Bool) : Reader (List Char)
  | c :: '_' :: rest =>
    if isDigit c then (readDigits isDigit rest).map fun (ds, r) => (c :: ds, r) else none
  | c :: rest =>
    if isDigit c then
      match rest with
      | d :: _ =>
        if isDigit d then (readDigits isDigit rest).map fun (ds, r) => (c :: ds, r)
        else some ([c], rest)
      | [] => some ([c], [])
    else none
  | [] => none

/-- Reads a sign, if there is one: whether it is a minus. -/
def readSign : List Char → Bool × List Char
  | '+' :: rest => (false, rest)
  | '-' :: rest => (true, rest)
  | cs => (false, cs)

/-- Reads the digits of a whole number: no digit follows a leading zero. -/
def readWhole : Reader (List Char)
  | '0' :: rest => some (['0'], rest)
  | cs => readDigits Char.isDigit cs

/-- An integer of 64 bits. -/
def integer? (i : Int) : Option Document :=
  if Int64.minValue.toInt ≤ i ∧ i ≤ Int64.maxValue.toInt then some (.integer i) else none

/-- Reads an integer of another base behind its mark. -/
def readBased (base : Nat) (cs : List Char) : Option (Document × List Char) :=
  (readDigits (fun c => (Numeral.digit? base c).isSome) cs).bind fun (ds, rest) =>
    let n := ds.foldl (fun n c => n * base + (Numeral.digit? base c).getD 0) 0
    (integer? n).map (·, rest)

/-- Reads an integer. -/
def readInteger : Reader Document
  | '0' :: 'x' :: rest => readBased 16 rest
  | '0' :: 'o' :: rest => readBased 8 rest
  | '0' :: 'b' :: rest => readBased 2 rest
  | cs =>
    let (negative, cs) := readSign cs
    (readWhole cs).bind fun (ds, rest) =>
      let n : Int := JsonSyntax.digitsValue ds
      (integer? (if negative then -n else n)).map (·, rest)

/-- Reads a fraction behind its point. -/
def readFraction : Reader (List Char)
  | '.' :: rest => readDigits Char.isDigit rest
  | _ => none

/-- Reads an exponent behind its mark. -/
def readExponent : Reader Int
  | e :: rest =>
    if e = 'e' ∨ e = 'E' then
      let (negative, rest) := readSign rest
      (readDigits Char.isDigit rest).map fun (ds, rest) =>
        let n : Int := JsonSyntax.digitsValue ds
        (if negative then -n else n, rest)
    else none
  | [] => none

/-- Reads a number with a fraction or an exponent.  One that is too large is refused. -/
def readDecimal (cs : List Char) : Option (Option Document × List Char) :=
  let (negative, cs) := readSign cs
  match readWhole cs with
  | none => none
  | some (whole, rest) =>
    let finish (fraction : List Char) (exponent : Int) (rest : List Char) :=
      let d : Decimal := { negative, digits := JsonSyntax.digitsValue (whole ++ fraction),
                           exponent := exponent - (fraction.length : Int) }
      some (if negative ∨ d.isFinite then some (.decimal d) else none, rest)
    match readFraction rest with
    | some (fraction, rest) =>
      match readExponent rest with
      | some (exponent, rest) => finish fraction exponent rest
      | none => finish fraction 0 rest
    | none =>
      match readExponent rest with
      | some (exponent, rest) => finish [] exponent rest
      | none => none

/-- Reads a number without digits. -/
def readSpecial (cs : List Char) : Option (Document × List Char) :=
  match (readSign cs).2 with
  | 'i' :: 'n' :: 'f' :: rest => some (.foreign "inf", rest)
  | 'n' :: 'a' :: 'n' :: rest => some (.foreign "nan", rest)
  | _ => none

/-! ## Dates -/

/-- Reads exactly `n` decimal digits. -/
def readFixed (n : Nat) (cs : List Char) : Option (Nat × List Char) :=
  let ds := cs.take n
  if ds.length = n ∧ ds.all Char.isDigit then some (JsonSyntax.digitsValue ds, cs.drop n) else none

/-- Reads a number of two digits within bounds. -/
def readTwo (low high : Nat) (cs : List Char) : Option (List Char) :=
  (readFixed 2 cs).bind fun (n, rest) => if low ≤ n ∧ n ≤ high then some rest else none

/-- Reads one character. -/
def readChar (c : Char) : List Char → Option (List Char)
  | d :: rest => if d = c then some rest else none
  | [] => none

/-- The days of a month. -/
def daysOf (year month : Nat) : Nat :=
  if month = 2 then if (year % 4 = 0 ∧ year % 100 ≠ 0) ∨ year % 400 = 0 then 29 else 28
  else if [4, 6, 9, 11].contains month then 30
  else 31

/-- The text after a day. -/
def readDay (cs : List Char) : Option (List Char) := do
  let (year, cs) ← readFixed 4 cs
  let cs ← readChar '-' cs
  let (month, cs) ← readFixed 2 cs
  let cs ← readChar '-' cs
  if 1 ≤ month ∧ month ≤ 12 then readTwo 1 (daysOf year month) cs else none

/-- The text after a part of a second, if there is one. -/
def skipFraction : List Char → List Char
  | '.' :: c :: rest => if c.isDigit then rest.dropWhile Char.isDigit else '.' :: c :: rest
  | cs => cs

/-- The text after a time. -/
def readTime (cs : List Char) : Option (List Char) := do
  let cs ← readChar ':' (← readTwo 0 23 cs)
  let cs ← readChar ':' (← readTwo 0 59 cs)
  return skipFraction (← readTwo 0 60 cs)

/-- The text after a time zone, if there is one. -/
def skipZone (cs : List Char) : List Char :=
  match cs with
  | 'Z' :: rest => rest
  | 'z' :: rest => rest
  | sign :: rest =>
    if sign = '+' ∨ sign = '-' then
      (do readTwo 0 59 (← readChar ':' (← readTwo 0 23 rest))).getD cs
    else cs
  | [] => cs

/-- The text after a date or a time. -/
def skipDate (cs : List Char) : Option (List Char) :=
  match readDay cs with
  | none => readTime cs
  | some rest =>
    match rest with
    | 'T' :: time => some (((readTime time).map skipZone).getD rest)
    | 't' :: time => some (((readTime time).map skipZone).getD rest)
    | ' ' :: time => some (((readTime time).map skipZone).getD rest)
    | _ => some rest

/-- The name that a date's text goes by. -/
def dateName : String := "$date"

/-- Reads a date: a record that says nothing but when. -/
def readDate (cs : List Char) : Option (Document × List Char) :=
  (skipDate cs).map fun rest =>
    (.record [(dateName, .text (String.ofList (cs.take (cs.length - rest.length))))], rest)

/-- Reads a number or a date. -/
def readNumber (cs : List Char) : Option (Document × List Char) :=
  match readDate cs with
  | some r => some r
  | none =>
    match readDecimal cs with
    | some (d, rest) => d.map (·, rest)
    | none =>
      match readSpecial cs with
      | some r => some r
      | none => readInteger cs

end AddressedStorage.Toml
