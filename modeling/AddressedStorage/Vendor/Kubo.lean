import AddressedStorage.Vendor.Basic

/-!
# Vendor/Kubo — a node of one's own

A Kubo node takes files and pins through its RPC interface and serves content through its gateway.
-/

namespace AddressedStorage.Vendor

/-- A node, by the addresses of its two interfaces. -/
structure Kubo where
  rpcUrl : String
  gatewayUrl : String
  deriving DecidableEq

namespace Kubo

/-- Where files are added. -/
def addPath : String := "/api/v0/add"

/-- Where pins are added. -/
def pinPath : String := "/api/v0/pin/add"

/-- The node on a host, which may end in slashes. -/
def ofHost (host : String) (rpcPort gatewayPort : UInt16) : Kubo :=
  let host := String.ofList (host.toList.reverse.dropWhile (· = '/')).reverse
  { rpcUrl := s!"{host}:{rpcPort.toNat}", gatewayUrl := s!"{host}:{gatewayPort.toNat}" }

/-- The name shown for a node. -/
def name (k : Kubo) : String := s!"kubo({k.rpcUrl})"

variable {σ : Type} (k : Kubo) (c : Http.Client σ)

/-- Adds a file under its name. -/
def upload (content : ByteArray) (name : Option String) : Action σ Cid := do
  let field := name.getD defaultFileName
  let request := do
    let r := (← Http.Request.ofAddress .post (Url.join k.rpcUrl addPath)).withPairs importArguments
    return { r with body := .form [⟨field, field, content⟩] }
  let response ← (c.send request).asUpload
  reportedCid (← (response.decode (Document.single? "Hash" Document.text?)).asUpload)

/-- Reads the list of pins in an answer, empty if it is not there. -/
def pins? (d : Document) : Option (List String) := do
  match ← d.fields? .refused ["Pins"] with
  | [pins] => Document.withDefault [] (Document.listOf? Document.text?) pins
  | _ => none

/-- Pins an identifier.  The node must report just that identifier first. -/
def pin (cid : Cid) : Action σ Unit := do
  let request := do
    return (← Http.Request.ofAddress .post (Url.join k.rpcUrl pinPath)).withPairs [("arg", cid.toString)]
  let response ← (c.send request).asPin cid
  match ← (response.decode pins?).asPin cid with
  | [] => throw (.pin cid "empty pin list")
  | pinned :: _ =>
    if pinned = cid.toString then return
    else throw (.pin cid s!"node pinned unexpected CID {pinned}")

/-- A node as a backend. -/
def backend : Backend σ where
  name := k.name
  capabilities := .full
  fetch := fetchFrom c k.gatewayUrl
  upload := k.upload c
  pin := k.pin c

end Kubo

end AddressedStorage.Vendor
