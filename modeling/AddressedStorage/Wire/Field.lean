import AddressedStorage.Bytes.Cut
import AddressedStorage.Bytes.Equality
import AddressedStorage.Bytes.Varint

/-!
# Wire/Field — messages as lists of numbered fields

A serialized message is a sequence of fields, each a number and a value.  Only two shapes of value
carry meaning here, a varint and a byte string; the fixed-width and group shapes of foreign fields
are read over.

`encode` writes a field list and `decode?` reads one.  Which field means what is decided by the
message types, which turn themselves into field lists and back.
-/

namespace AddressedStorage.Wire

/-- What a field holds. -/
inductive Value where
  | varint (n : UInt64)
  | bytes (content : ByteArray)
  /-- A shape no known field has: eight bytes, four bytes, or a group. -/
  | foreign
  deriving DecidableEq, Inhabited

/-- A numbered value. -/
structure Field where
  number : Nat
  value : Value
  deriving DecidableEq, Inhabited

/-- How the bytes after a key are laid out. -/
inductive Shape where
  | varint
  | fixed64
  | bytes
  | groupStart
  | groupEnd
  | fixed32
  deriving DecidableEq, Repr

namespace Shape

/-- The code of a shape in a key. -/
def code : Shape → Nat
  | varint => 0
  | fixed64 => 1
  | bytes => 2
  | groupStart => 3
  | groupEnd => 4
  | fixed32 => 5

/-- The shape with a code. -/
def ofCode? : Nat → Option Shape
  | 0 => some varint
  | 1 => some fixed64
  | 2 => some bytes
  | 3 => some groupStart
  | 4 => some groupEnd
  | 5 => some fixed32
  | _ => none

end Shape

/-! ## Writing -/

/-- The key in front of a value: field number and shape in one varint. -/
def key (number : Nat) (shape : Shape) : List UInt8 := Varint.encode (8 * number + shape.code)

/-- One field.  A foreign value has no written form. -/
def Field.encode (f : Field) : ByteArray :=
  match f.value with
  | .varint n => (key f.number .varint ++ Varint.encode n.toNat).toByteArray
  | .bytes content =>
    (key f.number .bytes ++ Varint.encode content.size).toByteArray ++ content
  | .foreign => ByteArray.empty

/-- The fields one after the other. -/
def encode (fields : List Field) : ByteArray :=
  fields.foldl (fun written f => written ++ f.encode) ByteArray.empty

/-- The length of a field, counted without writing it. -/
def Field.length (f : Field) : Nat :=
  match f.value with
  | .varint n => Varint.length (8 * f.number) + Varint.length n.toNat
  | .bytes content =>
    Varint.length (8 * f.number) + Varint.length content.size + content.size
  | .foreign => 0

/-- The length of a message, counted without writing it. -/
def encodedLength : List Field → Nat
  | [] => 0
  | f :: rest => f.length + encodedLength rest

/-! ## Reading -/

/-- The most groups that may be open at once in a message that stands by itself. -/
def maxDepth : Nat := 100

/-- Reads a key.  The number is at least one and the whole key fits 32 bits. -/
def readKey (bytes : List UInt8) : Option (Nat × Shape × List UInt8) :=
  match Varint.decode? bytes with
  | none => none
  | some (k, rest) =>
    let n := k.toNat
    if n < UInt32.size ∧ 8 ≤ n then (Shape.ofCode? (n % 8)).map fun s => (n / 8, s, rest) else none

theorem length_readKey {bytes : List UInt8} {n : Nat} {s : Shape} {rest : List UInt8}
    (h : readKey bytes = some (n, s, rest)) : rest.length < bytes.length := by
  simp only [readKey] at h
  split at h
  · simp at h
  · rename_i hk
    split at h
    · simp only [Option.map_eq_some_iff, Prod.mk.injEq] at h
      obtain ⟨_, -, -, -, rfl⟩ := h
      exact Varint.length_decode? hk
    · simp at h

/-- Reads the value of a field that is no group. -/
def readScalar (s : Shape) (bytes : List UInt8) : Option (Value × List UInt8) :=
  match s with
  | .varint => (Varint.decode? bytes).map fun (n, rest) => (.varint n, rest)
  | .bytes =>
    match Varint.decode? bytes with
    | none => none
    | some (n, rest) =>
      (Bytes.splitExactly? n.toNat rest).map fun (content, rest) => (.bytes content.toByteArray, rest)
  | .fixed64 => (Bytes.splitExactly? 8 bytes).map fun (_, rest) => (.foreign, rest)
  | .fixed32 => (Bytes.splitExactly? 4 bytes).map fun (_, rest) => (.foreign, rest)
  | .groupStart | .groupEnd => none

theorem length_readScalar {s : Shape} {bytes : List UInt8} {v : Value} {rest : List UInt8}
    (h : readScalar s bytes = some (v, rest)) : rest.length ≤ bytes.length := by
  unfold readScalar at h
  split at h
  · simp only [Option.map_eq_some_iff, Prod.mk.injEq, Prod.exists] at h
    obtain ⟨_, _, hd, -, rfl⟩ := h
    exact Nat.le_of_lt (Varint.length_decode? hd)
  · split at h
    · simp at h
    · rename_i hd
      simp only [Option.map_eq_some_iff, Prod.mk.injEq, Prod.exists] at h
      obtain ⟨_, _, hs, -, rfl⟩ := h
      exact Nat.le_trans (Bytes.length_splitExactly? hs) (Nat.le_of_lt (Varint.length_decode? hd))
  · simp only [Option.map_eq_some_iff, Prod.mk.injEq, Prod.exists] at h
    obtain ⟨_, _, hs, -, rfl⟩ := h
    exact Bytes.length_splitExactly? hs
  · simp only [Option.map_eq_some_iff, Prod.mk.injEq, Prod.exists] at h
    obtain ⟨_, _, hs, -, rfl⟩ := h
    exact Bytes.length_splitExactly? hs
  · simp at h
  · simp at h

/-- Reads over the fields of the opened groups, innermost first, up to the end of the outermost.
Inside a group there must be room for one level more. -/
def skipGroups (depth : Nat) (opened : List Nat) (bytes : List UInt8) : Option (List UInt8) :=
  match opened with
  | [] => some bytes
  | number :: outer =>
    match _h : readKey bytes with
    | none => none
    | some (m, .groupEnd, rest) => if m = number then skipGroups depth outer rest else none
    | some (m, .groupStart, rest) =>
      if opened.length < depth then skipGroups depth (m :: opened) rest else none
    | some (_, s, rest) =>
      if opened.length < depth then
        match _hs : readScalar s rest with
        | none => none
        | some (_, rest) => skipGroups depth opened rest
      else none
termination_by bytes.length
decreasing_by
  · exact length_readKey _h
  · exact length_readKey _h
  · exact Nat.lt_of_le_of_lt (length_readScalar _hs) (length_readKey _h)

theorem length_skipGroups {depth : Nat} {opened : List Nat} {bytes rest : List UInt8}
    (h : skipGroups depth opened bytes = some rest) : rest.length ≤ bytes.length := by
  fun_induction skipGroups depth opened bytes <;>
    grind [→ length_readKey, → length_readScalar]

/-- Reads the value of a field. -/
def readValue (depth number : Nat) (s : Shape) (bytes : List UInt8) :
    Option (Value × List UInt8) :=
  match s with
  | .groupStart => (skipGroups depth [number] bytes).map fun rest => (.foreign, rest)
  | s => readScalar s bytes

theorem length_readValue {depth number : Nat} {s : Shape} {bytes : List UInt8} {v : Value}
    {rest : List UInt8} (h : readValue depth number s bytes = some (v, rest)) :
    rest.length ≤ bytes.length := by
  unfold readValue at h
  split at h
  · simp only [Option.map_eq_some_iff, Prod.mk.injEq] at h
    obtain ⟨_, hs, -, rfl⟩ := h
    exact length_skipGroups hs
  · exact length_readScalar h

/-- Reads fields up to the end, with at most `depth` groups open at once. -/
def decodeAt? (depth : Nat) (bytes : List UInt8) : Option (List Field) :=
  if bytes = [] then some []
  else
    match _hk : readKey bytes with
    | none => none
    | some (number, s, rest) =>
      match _hv : readValue depth number s rest with
      | none => none
      | some (value, rest) => (decodeAt? depth rest).map (⟨number, value⟩ :: ·)
termination_by bytes.length
decreasing_by exact Nat.lt_of_le_of_lt (length_readValue _hv) (length_readKey _hk)

/-- Reads a message that stands by itself. -/
def decode? (bytes : List UInt8) : Option (List Field) := decodeAt? maxDepth bytes

/-! ## Looking fields up -/

/-- The values of one field, in order, each read by `read`; one that cannot be read spoils all. -/
def all? {α : Type} (number : Nat) (read : Value → Option α) (fields : List Field) :
    Option (List α) :=
  (fields.filter (·.number = number)).mapM fun f => read f.value

/-- The value of a field that occurs at most once in a well-written message: the last one counts. -/
def last? {α : Type} (number : Nat) (read : Value → Option α) (fields : List Field) :
    Option (Option α) :=
  (all? number read fields).map List.getLast?

/-- A varint. -/
def Value.varint? : Value → Option UInt64
  | .varint n => some n
  | _ => none

/-- A byte string. -/
def Value.bytes? : Value → Option ByteArray
  | .bytes content => some content
  | _ => none

/-- A byte string that is valid UTF-8. -/
def Value.text? : Value → Option String
  | .bytes content => String.fromUTF8? content
  | _ => none

/-- The varints a byte string is made of. -/
def unpack? (bytes : List UInt8) : Option (List UInt64) :=
  if bytes = [] then some []
  else
    match _h : Varint.decode? bytes with
    | none => none
    | some (n, rest) => (unpack? rest).map (n :: ·)
termination_by bytes.length
decreasing_by exact Varint.length_decode? _h

/-- One entry of a list of numbers, or a packed run of them. -/
def Value.varints? : Value → Option (List UInt64)
  | .varint n => some [n]
  | .bytes content => unpack? content.data.toList
  | .foreign => none

end AddressedStorage.Wire
