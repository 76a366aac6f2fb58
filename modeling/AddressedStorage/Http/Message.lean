import AddressedStorage.Bytes.Base64
import AddressedStorage.Bytes.Equality
import AddressedStorage.Document.Basic
import AddressedStorage.Http.Url

/-!
# Http/Message — requests and responses

A request is put together step by step, and a step that cannot be taken leaves a `Failure`: an address
that does not parse or has no host, or a header value with a control character in it.
-/

namespace AddressedStorage.Http

/-- Whether a text is a token: not empty, and of letters, digits and a few marks. -/
def isToken (text : String) : Bool :=
  !text.isEmpty && text.toList.all fun c => c.isAlphanum || "!#$%&'*+-.^_`|~".toList.contains c

/-- What a request asks for: any token is a method, not only the ones used here. -/
structure Method where
  /-- The word for the method. -/
  name : String
  isToken : isToken name = true
  deriving DecidableEq, Repr

namespace Method

/-- Asks for content. -/
def get : Method := ⟨"GET", by decide⟩

/-- Hands something over to be dealt with. -/
def post : Method := ⟨"POST", by decide⟩

/-- Hands something over to be kept. -/
def put : Method := ⟨"PUT", by decide⟩

instance : Inhabited Method := ⟨get⟩

end Method

/-- A header; its name is in lower case. -/
structure Header where
  name : String
  value : ByteArray
  deriving DecidableEq

/-- One file of a multipart form. -/
structure Part where
  name : String
  fileName : String
  content : ByteArray
  deriving DecidableEq

namespace Part

/-- What stands for itself in the name of a part. -/
def keepsInName : UInt8 → Bool := Percent.isPrintableBut " \"#<>?`\x7b\x7d/%"

/-- The name of a part: between quotes, or percent-encoded if some of it cannot stand there. -/
def nameText (name : String) : String :=
  if (Percent.utf8 name.toList).all keepsInName then "name=\"" ++ name ++ "\""
  else "name*=utf-8''" ++ String.ofList (Percent.encode keepsInName name.toList)

/-- A file name between quotes; a backslash marks the quotes and backslashes in it. -/
def fileNameText (name : String) : String :=
  let marked := name.toList.flatMap fun c => if c = '\\' ∨ c = '"' then ['\\', c] else [c]
  "filename=\"" ++ String.ofList marked ++ "\""

/-- How a part is announced. -/
def disposition (p : Part) : String := s!"form-data; {nameText p.name}; {fileNameText p.fileName}"

end Part

/-- What a request carries. -/
inductive Body where
  | empty
  | bytes (content : ByteArray)
  | json (value : Document)
  | form (parts : List Part)
  deriving Inhabited

/-- A request as it is sent. -/
structure Request where
  method : Method
  url : Url
  headers : List Header
  body : Body
  deriving Inhabited

/-- What a server answers. -/
structure Answer where
  status : Nat
  headers : List Header
  /-- There is none if the body breaks off. -/
  body : Option ByteArray
  deriving DecidableEq

/-- An answer and the address that gave it, which is another than the one that was asked if the request
was redirected. -/
structure Response extends Answer where
  url : Url
  deriving DecidableEq

/-! ## Failures -/

/-- What became of a request that got no answer. -/
inductive Loss where
  /-- No connection was made. -/
  | refused
  | timeout
  /-- The connection ended without an answer. -/
  | closed
  deriving DecidableEq, Repr

/-- Why an exchange failed below the level of statuses. -/
inductive Failure where
  /-- The request cannot be put together. -/
  | unbuildable (url : Option Url)
  | unanswered (loss : Loss) (url : Option Url)
  /-- The request was redirected too often. -/
  | misdirected (url : Option Url)
  /-- The answer's body breaks off, or is not what was asked for. -/
  | undecodable
  deriving DecidableEq, Repr

namespace Failure

/-- The address a failure names. -/
def place : Option Url → String
  | none => ""
  | some u => s!" for url ({u})"

/-- The failure in words. -/
def message : Failure → String
  | unbuildable url => "builder error" ++ place url
  | unanswered _ url => "error sending request" ++ place url
  | misdirected url => "error following redirect" ++ place url
  | undecodable => "error decoding response body"

/-- The failure without the address. -/
def withoutUrl : Failure → Failure
  | unbuildable _ => unbuildable none
  | unanswered loss _ => unanswered loss none
  | misdirected _ => misdirected none
  | undecodable => undecodable

/-- Whether no answer came, but one may come to another attempt. -/
def isTransient : Failure → Bool
  | unanswered .refused _ | unanswered .timeout _ => true
  | _ => false

end Failure

/-! ## Putting requests together -/

/-- Whether bytes may stand in a header value: no controls but tabs. -/
def isHeaderValue (value : List UInt8) : Bool := value.all fun b => (0x20 ≤ b && b ≠ 0x7F) || b == 9

/-- The most bytes a header name may have. -/
def headerNameLimit : Nat := 65535

/-- Whether a text may be a header name: a token of bounded length. -/
def isHeaderName (name : String) : Bool := isToken name && name.utf8ByteSize ≤ headerNameLimit

/-- The characters of the other base-64 alphabet. -/
def plainBase64 (c : Char) : Char :=
  if c = '-' then '+' else if c = '_' then '/' else c

/-- The text that an encoded part of an address stands for, if its bytes make one. -/
def plainText? (part : List Char) : Option String :=
  String.fromUTF8? (Percent.decode (Percent.utf8 part)).toByteArray

/-- The user name and the password in an address, if there are any and the name is a text.  A password
that is none does not count. -/
def login? (u : Url) : Option (String × String) := do
  let name ← plainText? u.user
  let password := (plainText? u.password).getD ""
  if name = "" ∧ password = "" then none else some (name, password)

/-- The header that a user name and a password turn into. -/
def basicAuthorization (name password : String) : Header :=
  let pair := Base64.encodeString (s!"{name}:{password}").toByteArray.data.toList
  ⟨"authorization", ("Basic " ++ String.ofList (pair.toList.map plainBase64)).toByteArray⟩

namespace Request

/-- A request to a parsed address, which must have a host.  A login in the address is sent in a header
instead. -/
def ofUrl (method : Method) (url : Url) : Except Failure Request :=
  if url.host.getD [] = [] then .error (.unbuildable (some url))
  else
    match login? url with
    | none => .ok { method, url, headers := [], body := .empty }
    | some (name, password) =>
      .ok { method, url := { url with user := [], password := [] },
            headers := [basicAuthorization name password], body := .empty }

/-- A request to an address. -/
def ofAddress (method : Method) (url : String) : Except Failure Request :=
  match Url.parse url with
  | .ok u => ofUrl method u
  | .error _ => .error (.unbuildable none)

/-- The request with one header more. -/
def withHeader (name value : String) (r : Request) : Except Failure Request :=
  if isHeaderValue value.toByteArray.data.toList then
    .ok { r with headers := r.headers ++ [⟨name, value.toByteArray⟩] }
  else .error (.unbuildable none)

/-- The request with headers that take the place of those with their names. -/
def withHeaders (headers : List Header) (r : Request) : Request :=
  { r with headers := r.headers.filter (fun h => !headers.any (·.name = h.name)) ++ headers }

/-- The request with more pairs in its query. -/
def withPairs (pairs : List Form.Pair) (r : Request) : Request :=
  { r with url := r.url.withPairs pairs }

/-- The address that is asked for: a fragment is not sent. -/
def target (r : Request) : String := Url.toString { r.url with fragment := none }

/-- The longest address that is sent. -/
def urlLimit : Nat := 65534

/-- Whether a request can be sent at all: to a web server, and with an address of bounded length. -/
def isSendable (r : Request) : Bool :=
  (r.url.scheme == "http".toList || r.url.scheme == "https".toList) &&
    r.url.text.length ≤ urlLimit &&
    !(r.url.host.getD []).any "\"`\x7b\x7d".toList.contains

end Request

namespace Response

/-- Whether the status reports success. -/
def isSuccess (r : Response) : Bool := 200 ≤ r.status && r.status < 300

/-- The value of the first header of a name. -/
def header? (r : Response) (name : String) : Option ByteArray :=
  (r.headers.find? (·.name = name)).map Header.value

/-- A space or a tab. -/
def isPadding (b : UInt8) : Bool := b == 0x20 || b == 9

/-- A header value as text, without blanks around it, if it is visible ASCII. -/
def headerText? (r : Response) (name : String) : Option String := do
  let value := (← r.header? name).data.toList
  let trimmed := ((value.dropWhile isPadding).reverse.dropWhile isPadding).reverse
  if trimmed.all fun b => (0x20 ≤ b && b < 0x7F) || b == 9 then
    return String.ofList (trimmed.map fun b => Char.ofNat b.toNat)
  else none

end Response

end AddressedStorage.Http
