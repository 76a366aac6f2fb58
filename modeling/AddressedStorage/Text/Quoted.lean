import AddressedStorage.Text.Visible

/-!
# Text/Quoted — texts and characters between quotes, on one visible line

Quotes, backslashes and line controls get a backslash; any other character that does not show by
itself is written by its code point.  Everything else stands as it is.
-/

namespace AddressedStorage.Quoted

/-- How one character is written between quotes. -/
def escape (c : Char) : List Char :=
  match c with
  | '\x00' => ['\\', '0']
  | '\t' => ['\\', 't']
  | '\r' => ['\\', 'r']
  | '\n' => ['\\', 'n']
  | '\\' => ['\\', '\\']
  | '"' => ['\\', '"']
  | c => if isVisible c then [c] else s!"\\u\x7b".toList ++ (Hex.ofNat c.toNat).toList ++ ['}']

/-- A text between quotes. -/
def encode (text : String) : String :=
  String.ofList ('"' :: text.toList.flatMap escape ++ ['"'])

/-- A character between single quotes, where a double quote needs no mark and a single one does. -/
def encodeChar (c : Char) : String :=
  String.ofList
    ('\'' :: (if c = '"' then [c] else if c = '\'' then ['\\', c] else escape c) ++ ['\''])

end AddressedStorage.Quoted
