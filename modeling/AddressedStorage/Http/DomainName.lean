import AddressedStorage.Http.DomainName.Direction
import AddressedStorage.Http.DomainName.Joining
import AddressedStorage.Http.DomainName.Mapping
import AddressedStorage.Http.Punycode
import AddressedStorage.Text.Composed

/-!
# Http/DomainName — international domain names

A name in any script has one form in ASCII, in which it is looked up.  The characters of the name are
replaced by those they stand for and spelled in the one way; then each label is judged, and encoded if
it goes beyond ASCII.  A label that comes encoded is decoded and must be what encoding would give.
-/

namespace AddressedStorage.DomainName

/-- A text with all characters replaced by what they stand for, in the one spelling. -/
def normalize (text : List Char) : List Char := Composed.ofText (text.flatMap image)

/-- Whether a character is in ASCII. -/
def isAscii (c : Char) : Bool := c.toNat < 128

/-- The mark of an encoded label. -/
def mark : List Char := ['x', 'n', '-', '-']

/-- What follows the mark of an encoded label. -/
def code? (label : List Char) : Option (List Char) :=
  if label.take 4 = mark then some (label.drop 4) else none

/-- Whether a label may be part of a name: no mark begins it, its characters stand for themselves, and
its joiners are where they may be. -/
def isLabel (label : List Char) : Bool :=
  !(label.head?.any isMark) && label.all isPlain && Joining.areAllowed label

/-- A label as it is read and as it is looked up. -/
structure Label where
  spelled : List Char
  ascii : List Char
  deriving DecidableEq, Repr

namespace Label

/-- The longest label that is encoded. -/
def encodeLimit : Nat := 1000

/-- The longest code that is decoded. -/
def decodeLimit : Nat := 2000

/-- The label of a code: something beyond ASCII in its one spelling. -/
def ofCode? (code : List Char) : Option Label :=
  if decodeLimit < code.length then none
  else
    match Punycode.decode? code with
    | none => none
    | some spelled =>
      if spelled.all isAscii ∨ normalize spelled ≠ spelled ∨ isLabel spelled = false ∨
          (code? spelled).isSome then
        none
      else some ⟨spelled, mark ++ code⟩

/-- A label of a normalized name. -/
def ofText? (text : List Char) : Option Label :=
  match code? text with
  | some code => ofCode? code
  | none =>
    if isLabel text = false then none
    else if text.all isAscii then some ⟨text, text⟩
    else if encodeLimit < text.length then none
    else some ⟨text, mark ++ Punycode.encode text⟩

end Label

/-- The labels of a name, if all of them are in order. -/
def labels? (name : List Char) : Option (List Label) := do
  let labels ← (pieces (· == '.') (normalize name)).mapM Label.ofText?
  if labels.any (Direction.needsCheck ·.spelled) && !labels.all (Direction.isUniform ·.spelled) then
    none
  else some labels

/-- Labels with dots between them. -/
def join (labels : List (List Char)) : List Char :=
  (".".intercalate (labels.map String.ofList)).toList

/-- A character that needs no looking up: a small letter of ASCII, a digit, a hyphen or a dot. -/
def isSimple (c : Char) : Bool := c.isLower || c.isDigit || c == '-' || c == '.'

/-- The form of a name in ASCII.  A name of simple characters, none of its labels encoded, has it
already. -/
def toAscii? (name : List Char) : Option (List Char) :=
  if name.all isSimple && (pieces (· == '.') name).all (fun label => (code? label).isNone) then
    some name
  else (labels? name).map fun labels => join (labels.map Label.ascii)

end AddressedStorage.DomainName
