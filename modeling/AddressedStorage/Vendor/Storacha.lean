import AddressedStorage.Car.Archive
import AddressedStorage.Vendor.Basic

/-!
# Vendor/Storacha — archives in a space

Content is packed into an archive here.  A bridge is told of the archive, may say where to put it, and
is then told which root the archive belongs to.  What was uploaded stays in the space, so that pinning
is not offered.
-/

namespace AddressedStorage.Vendor

/-- An account at a bridge and a space it may write to. -/
structure Storacha where
  authSecret : String
  authorization : String
  space : String
  bridgeUrl : String
  gatewayUrl : String
  deriving DecidableEq

namespace Storacha

/-- The service's own bridge. -/
def defaultBridgeUrl : String := "https://up.storacha.network"

/-- The service's own gateway. -/
def defaultGatewayUrl : String := "https://storacha.link"

/-- Where tasks go. -/
def bridgePath : String := "/bridge"

/-- The name shown for the service. -/
def name : String := "storacha"

/-- What the service can do. -/
def capabilities : Capabilities := { Capabilities.full with pin := false, pinsOnUpload := true }

/-- An account.  Neither credential may be empty, and a space is named by a decentralised
identifier. -/
def ofSecret (authSecret authorization space bridgeUrl gatewayUrl : String) :
    Except ExchangeError Storacha :=
  if authSecret = "" ∨ authorization = "" then .error (.invalidConfig .emptyCredentials)
  else if "did:".toList.isPrefixOf space.toList then
    .ok { authSecret, authorization, space, bridgeUrl, gatewayUrl }
  else .error (.invalidConfig (.spaceName space))

/-! ## Receipts -/

/-- What a task came to. -/
inductive Outcome (α : Type) where
  | done (value : α)
  | failed (reason : Document)

/-- How many levels down a receipt tells why a task failed. -/
def reasonLevel : Nat := 4

/-- Reads what a task came to: one of two names, and what belongs to it. -/
def outcome? {α : Type} (read : Document → Option α) : Document → Option (Outcome α)
  | .record [("ok", d)] => (read d).map .done
  | .record [("error", d)] => if d.isHoldableAt reasonLevel then some (.failed d) else none
  | _ => none

/-- Reads a receipt. -/
def receipt? {α : Type} (read : Document → Option α) : Document → Option (Outcome α) :=
  Document.single? "p" (Document.single? "out" (outcome? read))

/-- The answer to an announced archive. -/
structure StoreAdded where
  status : String
  url : Option String
  headers : List (String × String)

/-- Reads a table of headers, which is kept sorted by name.  Of several with one name the last
counts. -/
def headers? : Document → Option (List (String × String))
  | .record fields => do
    let texts ← fields.mapM fun (name, d) => (d.text?).map (name, ·)
    return JsonSyntax.sortFields texts
  | _ => none

/-- Reads the answer to an announced archive. -/
def storeAdded? (d : Document) : Option StoreAdded := do
  match ← d.fields? .refused ["status", "url", "headers"] with
  | [status, url, headers] =>
    return { status := ← Document.required Document.text? status
             url := ← Document.optional Document.text? url
             headers := ← Document.withDefault [] headers? headers }
  | _ => none

/-- Reads the answer to a linked root. -/
def linkedRoot? : Document → Option String :=
  Document.single? "root" (Document.single? "/" Document.text?)

/-! ## Tasks -/

/-- An identifier as a task refers to it. -/
def link (cid : Cid) : Document := .record [("/", .text cid.toString)]

/-- What is told of an archive. -/
def storeArguments (car : Car.Archive) : Document :=
  .record [("link", link car.shard), ("size", .integer car.bytes.size)]

/-- What is told of a root. -/
def linkArguments (car : Car.Archive) : Document :=
  .record [("root", link car.root), ("shards", .list [link car.shard])]

variable {σ : Type} (s : Storacha) (c : Http.Client σ)

/-- The request of a task. -/
def taskRequest (ability : String) (arguments : Document) : Except Http.Failure Http.Request := do
  let r ← Http.Request.ofAddress .post (Url.join s.bridgeUrl bridgePath)
  let r ← (Credentials.authSecret s.authSecret s.authorization).apply r
  let task := Document.list [.text ability, .text s.space, arguments]
  return { r with body := .json (.record [("tasks", .list [task])]) }

/-- Gives the bridge a task and returns what it came to. -/
def invoke {α : Type} (ability : String) (arguments : Document) (read : Document → Option α) :
    Http.Exchange σ α := do
  let response ← c.send (s.taskRequest ability arguments)
  match ← response.decode (Document.listOf? (receipt? read)) with
  | [] => throw (.invalidResponse (.noReceipt ability))
  | .done value :: _ => return value
  | .failed reason :: _ => throw (.invalidResponse (.taskFailed ability reason))

/-! ## Shards -/

/-- Reads the headers a shard is to be sent with, up to the first that is none. -/
def shardHeaders : List (String × String) → Except ExchangeError (List Http.Header)
  | [] => .ok []
  | (name, value) :: rest =>
    if !Http.isHeaderName name then .error (.invalidResponse .shardHeaderName)
    else if !Http.isHeaderValue value.toByteArray.data.toList then
      .error (.invalidResponse .shardHeaderValue)
    else (shardHeaders rest).map (⟨name.toLower, value.toByteArray⟩ :: ·)

/-- A failure without the address of a shard, which is a secret. -/
def hideUrl : ExchangeError → ExchangeError
  | .status _ code => .invalidResponse (.shardStatus code)
  | .http failure => .http failure.withoutUrl
  | e => e

/-- Puts an archive where the bridge said.  The headers are visited in an order that differs from run to
run, and the first that is none is reported. -/
def putShard (added : StoreAdded) (car : Car.Archive) : Http.Exchange σ Unit := do
  match added.url with
  | none => throw (.invalidResponse .noUploadUrl)
  | some url =>
    let entries ← (c.network.arrange added.headers : StateM σ _)
    let headers ← Http.Exchange.ofExcept (shardHeaders entries)
    let request := do
      let r ← Http.Request.ofAddress .put url
      return { r.withHeaders headers with body := .bytes car.bytes }
    let _ ← ExceptT.adapt hideUrl (c.send request)

/-- Packs content and goes through the steps of an upload. -/
def upload (hash : HashFunction) (content : ByteArray) : Action σ Cid := do
  let car ← Action.ofExcept ((Car.pack hash content).mapError fun e => .upload e.message)
  let added ← (s.invoke c "store/add" (storeArguments car) storeAdded?).asUpload
  if added.status = "upload" then
    (putShard c added car).asUpload
  let root ← (s.invoke c "upload/add" (linkArguments car) linkedRoot?).asUpload
  reportedCid root

/-- An account as a backend. -/
def backend (hash : HashFunction) : Backend σ where
  name := name
  capabilities := capabilities
  fetch := fetchFrom c s.gatewayUrl
  upload content _ := s.upload c hash content
  pin _ := deny name .pin

end Storacha

end AddressedStorage.Vendor
