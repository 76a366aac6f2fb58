import AddressedStorage.Vendor.Basic

/-!
# Vendor/PinningNode — a cluster run by an operator

The cluster pins and replicates every upload by itself, so that a pin call has nothing to do, and
serves nothing but its own uploads.
-/

namespace AddressedStorage.Vendor

/-- An account at a cluster. -/
structure PinningNode where
  host : String
  token : String
  deriving DecidableEq

namespace PinningNode

/-- Where files are added. -/
def addPath : String := "/add"

/-- On how many machines an upload is kept. -/
def replication : String := "3"

/-- The name this library gives itself. -/
def userAgent : String := "ora/0.1.0"

/-- The name shown for a cluster. -/
def name (n : PinningNode) : String := s!"pinning-node({n.host})"

/-- What a cluster can do. -/
def capabilities : Capabilities :=
  { Capabilities.full with pinsOnUpload := true, fetchScope := .ownUploads }

/-- An account with a token, which must not be empty. -/
def ofToken (host token : String) : Except ExchangeError PinningNode :=
  if token = "" then .error (.invalidConfig .emptyToken) else .ok { host, token }

variable {σ : Type} (n : PinningNode) (c : Http.Client σ)

/-- A request with the account's token. -/
def request (method : Http.Method) (url : String) : Except Http.Failure Http.Request := do
  let r ← Http.Request.ofAddress method url
  let r ← (Credentials.bearer n.token).apply r
  r.withHeader "user-agent" userAgent

/-- Reads one of the cluster's uploads. -/
def fetch (cid : Cid) : Action σ ByteArray :=
  Http.Exchange.asFetch cid do
    (← c.send (n.request .get (contentUrl n.host cid))).content

/-- How an upload is to be stored. -/
def arguments (fileName : String) : List Form.Pair :=
  importArguments ++
    [("name", fileName), ("replication-min", replication), ("replication-max", replication)]

/-- Adds a file. -/
def upload (content : ByteArray) (name : Option String) : Action σ Cid := do
  let fileName := name.getD defaultFileName
  let request := do
    let r := (← n.request .post (Url.join n.host addPath)).withPairs (arguments fileName)
    return { r with body := .form [⟨"file", fileName, content⟩] }
  let response ← (c.send request).asUpload
  reportedCid (← (response.decode (Document.single? "cid" Document.text?)).asUpload)

/-- An account as a backend. -/
def backend : Backend σ where
  name := n.name
  capabilities := capabilities
  fetch := n.fetch c
  upload := n.upload c
  pin _ := return

end PinningNode

end AddressedStorage.Vendor
