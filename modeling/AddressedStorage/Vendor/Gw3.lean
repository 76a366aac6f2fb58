import AddressedStorage.Vendor.Basic
import AddressedStorage.Vendor.Kubo

/-!
# Vendor/Gw3 — a gateway whose calls are signed

Each call carries the time and a signature over exactly the query that is sent.  An upload takes two
steps: a signed call is answered with the address the content then goes to.
-/

namespace AddressedStorage.Vendor

/-- An account at the gateway. -/
structure Gw3 where
  url : String
  signer : RequestSigner
  deriving DecidableEq

namespace Gw3

/-- The gateway's own address. -/
def defaultUrl : String := "https://gw3.io"

/-- The name shown for the gateway. -/
def name : String := "gw3"

/-- The header that reports the identifier of an upload. -/
def hashHeader : String := "IPFS-Hash"

/-- An account with a key and a secret. -/
def ofKey (accessKey accessSecret url : String) : Except ExchangeError Gw3 :=
  (RequestSigner.ofText accessKey accessSecret).map fun signer => { url, signer }

/-- The arguments of a call followed by the time. -/
def signedPairs (arguments : List Form.Pair) (seconds : Nat) : List Form.Pair :=
  arguments ++ [("ts", toString seconds)]

variable (hash : HashFunction) (g : Gw3)

/-- The address of a signed call and its signature. -/
def signedUrl (method : Http.Method) (path : String) (arguments : List Form.Pair)
    (seconds : Nat) : Except ExchangeError (Url × String) :=
  let base := Url.join g.url path
  match Url.parse base with
  | .error cause => .error (.invalidConfig (.signedUrl base cause))
  | .ok u =>
    let u := u.withPairs (signedPairs arguments seconds)
    .ok (u, g.signer.sign hash method.name (String.ofList u.pathText)
      (String.ofList (u.query.getD [])))

/-- The request of a signed call. -/
def signedRequest (method : Http.Method) (u : Url) (signature : String) :
    Except Http.Failure Http.Request := do
  let r ← Http.Request.ofUrl method u
  let r ← r.withHeader "x-access-key" g.signer.key
  r.withHeader "x-access-signature" signature

variable {σ : Type} (c : Http.Client σ)

/-- Makes a signed call.  The clock is read once. -/
def call (method : Http.Method) (path : String) (arguments : List Form.Pair) :
    Http.Exchange σ Http.Response := do
  match ← (c.network.now : StateM σ Int) with
  | .negSucc _ => throw (.signing .clock)
  | .ofNat seconds =>
    let (u, signature) ← Http.Exchange.ofExcept (g.signedUrl hash method path arguments seconds)
    c.send (g.signedRequest method u signature)

/-- Reads content. -/
def fetch (cid : Cid) : Action σ ByteArray :=
  Http.Exchange.asFetch cid do
    (← g.call hash c .get s!"{contentPath}/{cid}" []).content

/-- The address an upload is sent to. -/
def uploadUrl? : Document → Option String :=
  Document.single? "data" (Document.single? "url" Document.text?)

/-- Asks where content may go and sends it there. -/
def upload (content : ByteArray) : Action σ Cid := do
  let arguments := [("size", toString content.size)]
  let slot ← (g.call hash c .post s!"{contentPath}/" arguments).asUpload
  let url ← (slot.decode uploadUrl?).asUpload
  let request := do
    return { ← Http.Request.ofAddress .post url with body := .bytes content }
  let response ← (c.send request).asUpload
  match response.headerText? hashHeader.toLower with
  | some text => reportedCid text
  | none => throw (.upload s!"response has no {hashHeader} header")

/-- Pins an identifier. -/
def pin (cid : Cid) : Action σ Unit :=
  Http.Exchange.asPin cid do
    let _ ← g.call hash c .post Kubo.pinPath [("arg", cid.toString)]

/-- An account as a backend. -/
def backend : Backend σ where
  name := name
  capabilities := .full
  fetch := g.fetch hash c
  upload content _ := g.upload hash c content
  pin := g.pin hash c

end Gw3

end AddressedStorage.Vendor
