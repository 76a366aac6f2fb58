import AddressedStorage.Network.Identity

/-!
# Network/Consistency — whether nodes serve one chain

Nodes of one layer are asked in order; the first answer is what the others are held to, and the first
node that fails or differs ends the check.  Layers agree if all of them name the same chain; a layer
without nodes names none.
-/

namespace AddressedStorage

/-- Why nodes do not make one network. -/
inductive NetworkError where
  /-- A node did not answer. -/
  | unreachable (index : Nat) (endpoint : String) (cause : ExchangeError)
  /-- A node serves another chain than the first one. -/
  | inconsistent (index : Nat) (expected got : ChainId)
  /-- Layers serve different chains. -/
  | incompatible (layers : List (String × Option ChainId))

namespace NetworkError

/-- A layer and the chain it serves. -/
def layerText : String × Option ChainId → String
  | (name, some id) => s!"{name}={id}"
  | (name, none) => s!"{name}=none"

/-- The failure in words. -/
def message : NetworkError → String
  | unreachable index endpoint _ => s!"endpoint [{index}] {endpoint} is not responding"
  | inconsistent index expected got =>
    s!"different chain ids detected for endpoint [{index}]: expected {expected}, got {got}"
  | incompatible layers =>
    "different chain ids detected: " ++ ", ".intercalate (layers.map layerText)

end NetworkError

namespace Network

variable {σ : Type}

/-- A step of a check. -/
abbrev Check (σ : Type) := ExceptT NetworkError (StateM σ)

/-- Asks one node. -/
def ask (index : Nat) (e : ChainEndpoint σ) : Check σ ChainId :=
  ExceptT.adapt (NetworkError.unreachable index e.name) e.chainId

/-- Holds the nodes from `index` on to a chain. -/
def checkRest (expected : ChainId) (index : Nat) : List (ChainEndpoint σ) → Check σ Unit
  | [] => return
  | e :: rest => do
    let got ← ask index e
    if got = expected then checkRest expected (index + 1) rest
    else throw (.inconsistent index expected got)

/-- The chain all nodes of a layer serve. -/
def checkConsistency : List (ChainEndpoint σ) → Check σ (Option ChainId)
  | [] => return none
  | e :: rest => do
    let expected ← ask 0 e
    checkRest expected 1 rest
    return some expected

/-- The chain all layers serve. -/
def sameNetwork (layers : List (String × Option ChainId)) :
    Except NetworkError (Option ChainId) :=
  match layers with
  | [] => .ok none
  | (_, first) :: rest =>
    if rest.all (·.2 = first) then .ok first else .error (.incompatible layers)

/-- The nodes of the three layers. -/
structure Endpoints (σ : Type) where
  execution : List (ChainEndpoint σ)
  consensus : List (ChainEndpoint σ)
  keysApi : List (ChainEndpoint σ)

/-- The chain that all nodes of all layers serve. -/
def Endpoints.checkChainIds (e : Endpoints σ) : Check σ (Option ChainId) := do
  let keysApi ← checkConsistency e.keysApi
  let consensus ← checkConsistency e.consensus
  let execution ← checkConsistency e.execution
  ExceptT.mk (pure (sameNetwork
    [("execution", execution), ("consensus", consensus), ("keys-api", keysApi)]))

end Network

end AddressedStorage
