import AddressedStorage.Http.Form
import AddressedStorage.Http.Host

/-!
# Http/Url — addresses

A `Url` is read from text once, in its one normal form, and written from that.  The schemes of the
web always have a host and take a backslash for a slash, and so do files, whose host may be empty; any
other address may lack a host, and what then does not start with a slash is one opaque path.
-/

namespace AddressedStorage

/-- What stands behind host and port. -/
inductive Url.Path where
  /-- Segments, each behind a slash. -/
  | segments (names : List (List Char))
  | opaquePath (text : List Char)
  deriving DecidableEq, Repr, Inhabited

/-- An address, all parts encoded as they are written. -/
structure Url where
  scheme : List Char
  user : List Char
  password : List Char
  host : Option (List Char)
  port : Option Nat
  path : Url.Path
  query : Option (List Char)
  fragment : Option (List Char)
  deriving DecidableEq, Repr, Inhabited

namespace Url

/-- Why a text is no address. -/
inductive Error where
  | noScheme
  | port
  | host (cause : Host.Error)
  deriving DecidableEq, Repr

/-- The wording of a refusal. -/
def Error.message : Error → String
  | noScheme => "relative URL without a base"
  | port => "invalid port number"
  | host cause => cause.message

/-! ## Writing -/

/-- A path as text. -/
def Path.text : Path → List Char
  | segments names => names.flatMap ('/' :: ·)
  | opaquePath text => text

/-- The path as text. -/
def pathText (u : Url) : List Char := u.path.text

/-- User name and password in front of the host. -/
def userInfo (u : Url) : List Char :=
  if u.user = [] ∧ u.password = [] then []
  else u.user ++ (if u.password = [] then [] else ':' :: u.password) ++ ['@']

/-- Host and port. -/
def authority (u : Url) : List Char :=
  u.host.getD [] ++ (u.port.map fun p => ':' :: (ToString.toString p).toList).getD []

/-- A part behind its mark, if it is there. -/
def marked (mark : Char) (part : Option (List Char)) : List Char := (part.map (mark :: ·)).getD []

/-- What keeps a path apart from a host: a path without a host that begins with two slashes stands
behind a dot. -/
def pathGuard (u : Url) : List Char :=
  if u.pathText.take 2 = ['/', '/'] then ['/', '.'] else []

/-- The whole address. -/
def text (u : Url) : List Char :=
  u.scheme ++ ':' ::
      (if u.host.isSome then '/' :: '/' :: u.userInfo ++ u.authority else u.pathGuard) ++
    u.pathText ++ marked '?' u.query ++ marked '#' u.fragment

/-- The whole address as a string. -/
def toString (u : Url) : String := String.ofList u.text

instance : ToString Url := ⟨Url.toString⟩

/-! ## Reading -/

/-- The port a scheme of the web has when none is given. -/
def defaultPort? (scheme : List Char) : Option Nat :=
  match String.ofList scheme with
  | "http" | "ws" => some 80
  | "https" | "wss" => some 443
  | "ftp" => some 21
  | _ => none

/-- What an address is read as. -/
inductive Kind where
  | web
  | file
  | other
  deriving DecidableEq, Repr

/-- The kind that a scheme tells. -/
def Kind.ofScheme (scheme : List Char) : Kind :=
  if (defaultPort? scheme).isSome then web
  else if scheme = "file".toList then file
  else other

/-- A character that may follow the first letter of a scheme. -/
def inScheme (c : Char) : Bool := c.isAlphanum || c == '+' || c == '-' || c == '.'

/-- A control or a space, dropped at both ends. -/
def isEdge (c : Char) : Bool := c.toNat ≤ 0x20

/-- The text that counts: without controls and spaces at the ends, tabs and line ends. -/
def significant (text : List Char) : List Char :=
  ((text.dropWhile isEdge).reverse.dropWhile isEdge).reverse.filter fun c =>
    c ≠ '\t' && c ≠ '\n' && c ≠ '\r'

/-- The scheme in lower case and what follows its colon. -/
def cutScheme : List Char → Option (List Char × List Char)
  | [] => none
  | c :: rest =>
    let (more, after) := rest.span inScheme
    match after with
    | ':' :: after => if c.isAlpha then some ((c :: more).map Char.toLower, after) else none
    | _ => none

/-- A text cut at the first mark; the second part is there if the mark is. -/
def cutAt (mark : Char) (text : List Char) : List Char × Option (List Char) :=
  match text.span (· ≠ mark) with
  | (before, _ :: after) => (before, some after)
  | (before, []) => (before, none)

/-- Whether a character separates segments. -/
def Kind.isSlash (k : Kind) (c : Char) : Bool := c == '/' || (k != other && c == '\\')

/-- A text cut at the last `@`. -/
def cutLastAt (text : List Char) : Option (List Char × List Char) :=
  match text.reverse.span (· ≠ '@') with
  | (after, _ :: before) => some (before.reverse, after.reverse)
  | (_, []) => none

/-- Host and port, apart: the first colon outside brackets stands between them. -/
def cutHost (inside : Bool) : List Char → List Char × Option (List Char)
  | [] => ([], none)
  | c :: rest =>
    if c = ':' ∧ inside = false then ([], some rest)
    else
      let (host, port) := cutHost (if c = '[' then true else if c = ']' then false else inside) rest
      (c :: host, port)

/-- Reads a port.  No digits, and the port the scheme has anyway, are no port. -/
def readPort (scheme : List Char) (digits : List Char) : Except Error (Option Nat) :=
  match Host.number? 10 digits with
  | none => .error .port
  | some n =>
    if 65536 ≤ n then .error .port
    else .ok (if digits = [] ∨ defaultPort? scheme = some n then none else some n)

/-- A dot, plain or escaped, taken off the front of a segment. -/
def afterDot? : List Char → Option (List Char)
  | '.' :: rest => some rest
  | '%' :: '2' :: 'e' :: rest => some rest
  | '%' :: '2' :: 'E' :: rest => some rest
  | _ => none

/-- Whether a segment stands for the place it is in. -/
def isDot (segment : List Char) : Bool := afterDot? segment == some []

/-- Whether a segment stands for the place above. -/
def isDoubleDot (segment : List Char) : Bool := (afterDot? segment).bind afterDot? == some []

/-- What separates the letter of a drive from nothing or from more. -/
def isDriveMark (c : Char) : Bool := c == ':' || c == '|'

/-- Whether a segment names a drive: a letter and a mark. -/
def isDrive : List Char → Bool
  | [c, d] => c.isAlpha && isDriveMark d
  | _ => false

/-- Whether a segment stays when dots move up from it: it names a drive, with or without something
behind a backslash. -/
def isAnchor : List Char → Bool
  | c :: d :: '\\' :: _ => isDrive [c, d]
  | segment => isDrive segment

/-- The path above. -/
def above (path : List (List Char)) : List (List Char) :=
  if path.getLast?.any isAnchor then path else path.dropLast

/-- Adds a segment to a path; dots move in it and leave an empty segment behind if they end it. -/
def walk (path : List (List Char)) (segment : List Char) (last : Bool) : List (List Char) :=
  if isDoubleDot segment then above path ++ if last then [[]] else []
  else if isDot segment then path ++ if last then [[]] else []
  else path ++ [segment]

/-- Resolves the dots among segments. -/
def resolve (path : List (List Char)) : List (List Char) → List (List Char)
  | [] => path
  | [s] => walk path s true
  | s :: rest => resolve (walk path s false) rest

/-- Reads a path, without its first slash. -/
def readPath (k : Kind) (text : List Char) : Path :=
  .segments (resolve [] ((pieces k.isSlash text).map (Percent.encode Percent.inPath)))

/-! ### Paths of files -/

/-- A path on the way through its segments, and whether it begins with a drive. -/
structure FilePath where
  names : List (List Char)
  onDrive : Bool
  deriving DecidableEq, Repr

namespace FilePath

/-- Adds a segment.  A drive that begins the path is marked by a colon, and what follows it in its
segment is a segment by itself. -/
def walk (p : FilePath) (segment : List Char) (last : Bool) : FilePath :=
  match p.names, segment with
  | [], [c, d] =>
    if isDrive [c, d] then ⟨[[c, ':']], true⟩ else { p with names := Url.walk [] [c, d] last }
  | [], c :: ':' :: rest =>
    if c.isAlpha then { p with names := [[c, ':'], rest] }
    else { p with names := [c :: ':' :: rest] }
  | names, segment => { p with names := Url.walk names segment last }

/-- Resolves the dots among segments. -/
def resolve (p : FilePath) : List (List Char) → FilePath
  | [] => p
  | [s] => p.walk s true
  | s :: rest => resolve (p.walk s false) rest

/-- Reads a path, without its first slash.  Empty segments do not begin it. -/
def ofText (text : List Char) : FilePath :=
  let p := resolve ⟨[], false⟩
    ((pieces Kind.file.isSlash text).map (Percent.encode Percent.inPath))
  match p.names.dropWhile (· = []) with
  | [] => { p with names := [[]] }
  | names => { p with names }

end FilePath

/-! ### Parts and the whole -/

/-- An address with nothing but scheme, query and fragment. -/
def bare (scheme : List Char) (query fragment : Option (List Char)) : Url where
  scheme := scheme
  user := []
  password := []
  host := none
  port := none
  path := .segments []
  query := query.map (Percent.encode
    (if Kind.ofScheme scheme = .other then Percent.inQuery else Percent.inSpecialQuery))
  fragment := fragment.map (Percent.encode Percent.inFragment)

/-- Reads user name and password. -/
def readUserInfo (text : List Char) : List Char × List Char :=
  let (user, password) := cutAt ':' text
  (Percent.encode Percent.inUserInfo user,
    (password.map (Percent.encode Percent.inUserInfo)).getD [])

/-- User name and password, and the place behind the last `@`.  They must have a place, and an `@` with
nothing before it may stand without one only at the end. -/
def cutUserInfo (atEnd : Bool) (text : List Char) :
    Except Error ((List Char × List Char) × List Char) :=
  match cutLastAt text with
  | none => .ok (([], []), text)
  | some (info, place) =>
    let info' := readUserInfo info
    if place = [] ∧ (info' ≠ ([], []) ∨ (info = [] ∧ atEnd = false)) then .error (.host .empty)
    else .ok (info', place)

/-- Reads the part between `//` and the path.  What a backslash cuts off the port belongs to the
path. -/
def readAuthority (u : Url) (atEnd : Bool) (text : List Char) : Except Error (Url × List Char) := do
  let web := Kind.ofScheme u.scheme = .web
  let ((user, password), place) ← cutUserInfo atEnd text
  let (hostText, portText) := cutHost false place
  if hostText = [] ∧ (web ∨ portText.isSome) then
    throw (.host .empty)
  let host ← ((if web then Host.ofText else Host.ofOpaqueText) hostText).mapError .host
  let (digits, tail) := (portText.getD []).span (· ≠ '\\')
  let port ← readPort u.scheme digits
  return ({ u with user, password, host := some host, port }, tail)

/-- Reads host and path of a web address, or of any other one with a host. -/
def readWithAuthority (u : Url) (rest : List Char) : Except Error Url := do
  let k := Kind.ofScheme u.scheme
  let (place, path) := rest.span fun c => !k.isSlash c
  let (u, tail) ← readAuthority u (path = [] && u.query.isNone && u.fragment.isNone) place
  match tail ++ path with
  | [] => return if k = .other then u else { u with path := readPath k [] }
  | c :: path => return { u with path := readPath k (if k.isSlash c then path else c :: path) }

/-- Reads the host of a file: none, if it is this machine. -/
def readFileHost (text : List Char) : Except Error (List Char) :=
  if text = [] then .ok []
  else
    match Host.ofText text with
    | .error e => .error (.host e)
    | .ok host => .ok (if host = "localhost".toList then [] else host)

/-- Reads host and path of a file.  Two slashes open the host, but a drive there begins the path; a
path on a drive has no host. -/
def readFile (u : Url) (rest : List Char) : Except Error Url := do
  let slash := Kind.file.isSlash
  match rest with
  | a :: b :: more =>
    if slash a && slash b then
      let (place, path) := more.span fun c => !slash c
      let (host, path) ←
        if isDrive place then pure ([], FilePath.ofText more)
        else pure (← readFileHost place, FilePath.ofText (path.drop 1))
      return { u with
        host := some (if path.onDrive then [] else host), path := .segments path.names }
    else
      let path := FilePath.ofText (if slash a then b :: more else rest)
      return { u with host := some [], path := .segments path.names }
  | rest =>
    let path := FilePath.ofText (rest.dropWhile slash)
    return { u with host := some [], path := .segments path.names }

/-- Reads an address.  Behind the scheme of a web address any number of slashes opens the host;
elsewhere exactly two do. -/
def ofText (text : List Char) : Except Error Url := do
  let some (scheme, rest) := cutScheme (significant text)
    | throw .noScheme
  let (rest, fragment) := cutAt '#' rest
  let (rest, query) := cutAt '?' rest
  let u := bare scheme query fragment
  match Kind.ofScheme scheme, rest with
  | .web, rest => readWithAuthority u (rest.dropWhile Kind.web.isSlash)
  | .file, rest => readFile u rest
  | .other, '/' :: '/' :: rest => readWithAuthority u rest
  | .other, '/' :: rest => return { u with path := readPath .other rest }
  | .other, rest => return { u with path := .opaquePath (Percent.encode Percent.isPrintable rest) }

/-- Reads an address from a string. -/
def parse (s : String) : Except Error Url := ofText s.toList

/-! ## Changing -/

/-- The address with more pairs in its query.  An empty query is none. -/
def withPairs (u : Url) (pairs : List Form.Pair) : Url :=
  let query := Form.extend (u.query.getD []) pairs
  { u with query := if query = [] then none else some query }

/-- Joins an address and a path by one slash. -/
def join (base path : String) : String :=
  String.ofList ((base.toList.reverse.dropWhile (· = '/')).reverse ++
    '/' :: path.toList.dropWhile (· = '/'))

end Url

end AddressedStorage
