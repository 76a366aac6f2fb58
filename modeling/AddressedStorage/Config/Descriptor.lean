import AddressedStorage.Vendor.Gw3
import AddressedStorage.Vendor.Pinata
import AddressedStorage.Vendor.PinningNode
import AddressedStorage.Vendor.PublicGateway
import AddressedStorage.Vendor.Storacha

/-!
# Config/Descriptor — one configured vendor

A descriptor says which vendor to use and how to reach it.  In a document its field `kind` names the
vendor, and the other fields are that vendor's.
-/

namespace AddressedStorage

/-- One configured vendor. -/
inductive Descriptor where
  | kubo (host : String) (rpcPort gatewayPort : UInt16)
  | pinata (jwt : String) (apiUrl gatewayUrl : Option String)
  | publicGateway (url : Option String)
  | gw3 (accessKey accessSecret : String) (url : Option String)
  | pinningNode (host token : String)
  | storacha (authSecret authorization space : String) (bridgeUrl gatewayUrl : Option String)
  deriving DecidableEq

namespace Descriptor

/-- The word for the vendor. -/
def kind : Descriptor → String
  | kubo .. => "kubo"
  | pinata .. => "pinata"
  | publicGateway _ => "public-gateway"
  | gw3 .. => "gw3"
  | pinningNode .. => "pinning-node"
  | storacha .. => "storacha"

/-! ## Documents -/

/-- A port. -/
def port? (d : Document) : Option UInt16 := (d.natBelow? UInt16.size).map Nat.toUInt16

/-- A text that must be there. -/
def text? : Option Document → Option String := Document.required Document.text?

/-- A text that may be missing. -/
def optionalText? : Option Document → Option (Option String) := Document.optional Document.text?

/-- The names of a vendor's fields, in order. -/
def fieldNames : String → Option (List String)
  | "kubo" => some ["host", "rpc_port", "gateway_port"]
  | "pinata" => some ["jwt", "api_url", "gateway_url"]
  | "public-gateway" => some ["url"]
  | "gw3" => some ["access_key", "access_secret", "url"]
  | "pinning-node" => some ["host", "token"]
  | "storacha" =>
    some ["auth_secret", "authorization", "space_did", "bridge_url", "gateway_url"]
  | _ => none

/-- A vendor from the fields it was given, in order. -/
def ofFields? (kind : String) (fields : List (Option Document)) : Option Descriptor := do
  match kind, fields with
  | "kubo", [host, rpc, gateway] =>
    return .kubo (← text? host) (← Document.withDefault 5001 port? rpc)
      (← Document.withDefault 8080 port? gateway)
  | "pinata", [jwt, api, gateway] =>
    return .pinata (← text? jwt) (← optionalText? api) (← optionalText? gateway)
  | "public-gateway", [url] => return .publicGateway (← optionalText? url)
  | "gw3", [key, secret, url] => return .gw3 (← text? key) (← text? secret) (← optionalText? url)
  | "pinning-node", [host, token] => return .pinningNode (← text? host) (← text? token)
  | "storacha", [secret, authorization, space, bridge, gateway] =>
    return .storacha (← text? secret) (← text? authorization) (← text? space)
      (← optionalText? bridge) (← optionalText? gateway)
  | _, _ => none

/-- Splits a document into the word for the vendor and what else is there. -/
def split? : Document → Option (String × Document)
  | .record fields => do
    let kind ← text? (← Document.field? fields "kind")
    return (kind, .record fields)
  | .list (kind :: rest) => return (← kind.text?, .list rest)
  | _ => none

/-- Reads a descriptor. -/
def ofDocument? (d : Document) : Option Descriptor := do
  let (kind, rest) ← split? d
  ofFields? kind (← rest.fields? .refused (← fieldNames kind))

/-- A text or nothing. -/
def optionalText (t : Option String) : Document := (t.map Document.text).getD .null

/-- The values of the vendor's fields, in order. -/
def fieldValues : Descriptor → List Document
  | kubo host rpc gateway => [.text host, .integer rpc.toNat, .integer gateway.toNat]
  | pinata jwt api gateway => [.text jwt, optionalText api, optionalText gateway]
  | publicGateway url => [optionalText url]
  | gw3 key secret url => [.text key, .text secret, optionalText url]
  | pinningNode host token => [.text host, .text token]
  | storacha secret authorization space bridge gateway =>
    [.text secret, .text authorization, .text space, optionalText bridge, optionalText gateway]

/-- Writes a descriptor. -/
def toDocument (d : Descriptor) : Document :=
  .record (("kind", .text d.kind) :: ((fieldNames d.kind).getD []).zip d.fieldValues)

/-! ## Backends -/

/-- The same vendor at its own addresses. -/
def atDefaultUrls : Descriptor → Descriptor
  | pinata jwt _ _ => pinata jwt none none
  | publicGateway _ => publicGateway none
  | gw3 key secret _ => gw3 key secret none
  | storacha secret authorization space _ _ => storacha secret authorization space none none
  | d => d

/-- The backend a descriptor names. -/
def backend {σ : Type} (hash : HashFunction) (c : Http.Client σ) :
    Descriptor → Except ExchangeError (Backend σ)
  | kubo host rpc gateway => .ok ((Vendor.Kubo.ofHost host rpc gateway).backend c)
  | pinata jwt api gateway => do
    return (← Vendor.Pinata.ofToken jwt (api.getD Vendor.Pinata.defaultApiUrl)
      (gateway.getD Vendor.Pinata.defaultGatewayUrl)).backend c
  | publicGateway url =>
    .ok ((Vendor.PublicGateway.mk (url.getD Vendor.PublicGateway.defaultUrl)).backend c)
  | gw3 key secret url => do
    return (← Vendor.Gw3.ofKey key secret (url.getD Vendor.Gw3.defaultUrl)).backend hash c
  | pinningNode host token => do
    return (← Vendor.PinningNode.ofToken host token).backend c
  | storacha secret authorization space bridge gateway => do
    return (← Vendor.Storacha.ofSecret secret authorization space
      (bridge.getD Vendor.Storacha.defaultBridgeUrl)
      (gateway.getD Vendor.Storacha.defaultGatewayUrl)).backend c hash

end Descriptor

end AddressedStorage
