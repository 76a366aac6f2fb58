import AddressedStorage.Http.DomainName
import AddressedStorage.Http.Percent

/-!
# Http/Host — the host of a URL

A host is written in one way however it was spelled: names in lower case, IPv4 addresses as four
decimal numbers, IPv6 addresses in brackets with their longest run of zeros left out.
-/

namespace AddressedStorage.Host

/-- Why a text is no host. -/
inductive Error where
  | empty
  | name
  | ipv4
  | ipv6
  /-- A character that no host outside the web may have. -/
  | character
  deriving DecidableEq, Repr

/-- The wording of a refusal. -/
def Error.message : Error → String
  | empty => "empty host"
  | name => "invalid international domain name"
  | ipv4 => "invalid IPv4 address"
  | ipv6 => "invalid IPv6 address"
  | character => "invalid domain character"

/-- Digits of base `b` as a number. -/
def number? (b : Nat) (digits : List Char) : Option Nat :=
  digits.foldlM (fun n c => (Hex.digit? c).bind fun d => if d < b then some (n * b + d) else none) 0

/-! ## IPv4 -/

/-- A part of an IPv4 address: hexadecimal behind `0x`, octal behind `0`, else decimal. -/
def ipv4Part? : List Char → Option Nat
  | [] => none
  | '0' :: 'x' :: digits => number? 16 digits
  | '0' :: 'X' :: digits => number? 16 digits
  | ['0'] => some 0
  | '0' :: digits => number? 8 digits
  | digits => number? 10 digits

/-- The parts of a name, without an empty last one. -/
def parts (name : List Char) : List (List Char) :=
  let ps := pieces (· == '.') name
  if ps.getLast? = some [] then ps.dropLast else ps

/-- Whether a name has to be an IPv4 address: its last part is a number. -/
def endsInNumber (name : List Char) : Bool :=
  match (parts name).getLast? with
  | none => false
  | some p => (p ≠ [] && p.all Char.isDigit) || (ipv4Part? p).isSome

/-- The address that numbers name: the last one fills all the bytes the others leave. -/
def ipv4Value? (numbers : List Nat) : Option Nat :=
  match numbers.reverse with
  | [] => none
  | last :: front =>
    let k := front.length
    if 3 < k ∨ 1 <<< (8 * (4 - k)) ≤ last ∨ front.any (255 < ·) then none
    else some ((front.reverse.foldl (fun n b => n * 256 + b) 0 <<< (8 * (4 - k))) + last)

/-- Reads an IPv4 address. -/
def ipv4? (name : List Char) : Option Nat := ((parts name).mapM ipv4Part?).bind ipv4Value?

/-- An address as four decimal numbers. -/
def ipv4Text (n : Nat) : List Char :=
  s!"{(n >>> 24) % 256}.{(n >>> 16) % 256}.{(n >>> 8) % 256}.{n % 256}".toList

/-! ## IPv6 -/

/-- One of the four decimal numbers at the end of an IPv6 address. -/
def decimalByte? (digits : List Char) : Option Nat :=
  if digits = [] ∨ (digits.head? = some '0' ∧ digits ≠ ['0']) then none
  else (number? 10 digits).filter (· < 256)

/-- The 16-bit pieces that a text between colons names: one, or two in decimal where that is
allowed. -/
def ipv6Piece? (last : Bool) (text : List Char) : Option (List Nat) :=
  if last ∧ '.' ∈ text then
    match (pieces (· == '.') text).mapM decimalByte? with
    | some [a, b, c, d] => some [a * 256 + b, c * 256 + d]
    | _ => none
  else if text = [] ∨ 4 < text.length then none
  else (number? 16 text).map ([·])

/-- The pieces of a text without `::`. -/
def ipv6Pieces? (last : Bool) (text : List Char) : Option (List Nat) :=
  if text = [] then some []
  else
    let ps := pieces (· == ':') text
    (ps.zipIdx.mapM fun (p, i) => ipv6Piece? (last && i + 1 == ps.length) p).map List.flatten

/-- The text before and after the first `::`. -/
def cutGap : List Char → Option (List Char × List Char)
  | ':' :: ':' :: rest => some ([], rest)
  | c :: rest => (cutGap rest).map fun (a, b) => (c :: a, b)
  | [] => none

/-- The eight pieces of an IPv6 address. -/
def ipv6? (text : List Char) : Option (List Nat) :=
  match cutGap text with
  | none => (ipv6Pieces? true text).filter (·.length = 8)
  | some (before, after) => do
    let a ← ipv6Pieces? false before
    let b ← ipv6Pieces? true after
    if a.length + b.length < 8 then
      some (a ++ List.replicate (8 - a.length - b.length) 0 ++ b)
    else none

/-- The start and length of the first longest run of zeros. -/
def longestZeros (pieces : List Nat) : Nat × Nat :=
  let runs := (List.range 8).map fun i => (i, ((pieces.drop i).takeWhile (· = 0)).length)
  runs.foldl (fun best r => if best.2 < r.2 then r else best) (0, 0)

/-- Pieces in hexadecimal between colons. -/
def colons (pieces : List Nat) : List Char :=
  (":".intercalate (pieces.map Hex.ofNat)).toList

/-- An address in brackets. -/
def ipv6Text (pieces : List Nat) : List Char :=
  let (start, n) := longestZeros pieces
  let body := if n < 2 then colons pieces
    else colons (pieces.take start) ++ ':' :: ':' :: colons (pieces.drop (start + n))
  '[' :: body ++ [']']

/-! ## Names -/

/-- A character that no name has. -/
def isForbidden (c : Char) : Bool :=
  c.toNat ≤ 0x20 || c.toNat == 0x7F || "#/:<>?@[\\]^|%".toList.contains c

/-- A name in the form in which it is looked up. -/
def name? (text : List Char) : Option (List Char) :=
  (DomainName.toAscii? text).filter fun name => !name.any isForbidden

/-- Reads the host of a web address. -/
def ofText (text : List Char) : Except Error (List Char) :=
  match text with
  | '[' :: rest =>
    if rest.getLast? = some ']' then
      match ipv6? rest.dropLast with
      | some pieces => .ok (ipv6Text pieces)
      | none => .error .ipv6
    else .error .ipv6
  | _ =>
    match (String.fromUTF8? (Percent.decode (Percent.utf8 text)).toByteArray).bind
        fun s => name? s.toList with
    | none => .error .name
    | some [] => .error .empty
    | some name =>
      if endsInNumber name then
        match ipv4? name with
        | some n => .ok (ipv4Text n)
        | none => .error .ipv4
      else .ok name

/-- Reads the host of any other address: a bracketed IPv6 address, or a name as it is. -/
def ofOpaqueText (text : List Char) : Except Error (List Char) :=
  match text with
  | '[' :: _ => ofText text
  | _ =>
    if text.any "\x00 #/:<>?@[\\]^|".toList.contains then .error .character
    else .ok (Percent.encode Percent.isPrintable text)

end AddressedStorage.Host
