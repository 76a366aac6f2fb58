import AddressedStorage.Http.Client
import AddressedStorage.Network.ChainId

/-!
# Network/Identity — asking a node which chain it serves

Three kinds of node are asked, each in its own way and once: execution nodes by a remote call, beacon
nodes for their deposit contract, keys services for their status.
-/

namespace AddressedStorage

/-- A node that can be asked for its chain. -/
structure ChainEndpoint (σ : Type) where
  /-- The name the node goes by in reports. -/
  name : String
  chainId : Http.Exchange σ ChainId

namespace ChainEndpoint

variable {σ : Type}

/-- The chain id a text names, if it can be read. -/
def reportedId (x : Except FormatError ChainId) : Http.Exchange σ ChainId :=
  Http.Exchange.ofExcept (x.mapError fun cause => .invalidResponse (.chainId cause))

/-! ## Execution nodes -/

/-- The question to an execution node. -/
def executionCall : Document :=
  .record [("jsonrpc", .text "2.0"), ("method", .text "eth_chainId"), ("params", .list []),
    ("id", .integer 1)]

/-- Reads an answer: a quantity or an error, either of which may be missing. -/
def executionAnswer? (d : Document) : Option (Option String × Option Document) := do
  match ← d.fields? .refused ["result", "error"] with
  | [result, error] =>
    if d.isList ∧ (result.isNone ∨ error.isNone) then none
    else
      return (← Document.optional Document.text? result,
        ← Document.optional (fun e => if e.isHoldableAt 1 then some e else none) error)
  | _ => none

/-- An execution node.  An error counts before a quantity. -/
def execution (c : Http.Client σ) (url : String) : ChainEndpoint σ where
  name := url
  chainId := do
    let request := do
      return { ← Http.Request.ofAddress .post url with body := .json executionCall }
    let response ← c.sendOnce url request
    match ← response.decode executionAnswer? with
    | (_, some reason) => throw (.invalidResponse (.rpcError reason))
    | (none, none) => throw (.invalidResponse .noRpcResult)
    | (some quantity, none) => reportedId (ChainId.ofHexQuantity quantity)

/-! ## Beacon nodes -/

/-- Where a beacon node names its deposit contract. -/
def depositContractPath : String := "/eth/v1/config/deposit_contract"

/-- A beacon node. -/
def beacon (c : Http.Client σ) (url : String) : ChainEndpoint σ where
  name := url
  chainId := do
    let place := Url.join url depositContractPath
    let response ← c.sendOnce place (Http.Request.ofAddress .get place)
    let text ← response.decode (Document.single? "data"
      (Document.single? "chain_id" Document.text?))
    reportedId (ChainId.ofDecimal text)

/-! ## Keys services -/

/-- Where a keys service tells its status. -/
def statusPath : String := "/v1/status"

/-- A keys service. -/
def keysApi (c : Http.Client σ) (url : String) : ChainEndpoint σ where
  name := url
  chainId := do
    let place := Url.join url statusPath
    let response ← c.sendOnce place (Http.Request.ofAddress .get place)
    return ⟨← response.decode (Document.single? "chainId" Document.uint64?)⟩

end ChainEndpoint

end AddressedStorage
