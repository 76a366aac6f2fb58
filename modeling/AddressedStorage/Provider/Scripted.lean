import AddressedStorage.Provider.Backend

/-!
# Provider/Scripted — a backend that plays a script

Each operation has a list of answers, one to a call; the last is given again and again.
-/

namespace AddressedStorage

/-- The answers still to be given. -/
structure Script where
  fetches : List (Cid → Except ProviderError ByteArray)
  uploads : List (ByteArray → Except ProviderError Cid)
  pins : List (Cid → Except ProviderError Unit)
  deriving Inhabited

namespace Script

/-- What remains after one answer: the last stays. -/
def rest {α : Type} : List α → List α
  | _ :: next :: later => next :: later
  | answers => answers

/-- Fetching without a script fails, uploading reports the real identifier and pinning succeeds. -/
def fetch (cid : Cid) : Action Script ByteArray := do
  let s ← get
  set { s with fetches := rest s.fetches }
  match s.fetches with
  | [] => throw (.fetch cid "scripted failure")
  | answer :: _ => Action.ofExcept (answer cid)

/-- Gives the next upload answer. -/
def upload (hash : HashFunction) (content : ByteArray) : Action Script Cid := do
  let s ← get
  set { s with uploads := rest s.uploads }
  match s.uploads with
  | [] => Action.contentCid hash content
  | answer :: _ => Action.ofExcept (answer content)

/-- Gives the next pin answer. -/
def pin (cid : Cid) : Action Script Unit := do
  let s ← get
  set { s with pins := rest s.pins }
  match s.pins with
  | [] => return
  | answer :: _ => Action.ofExcept (answer cid)

/-- A script as a backend. -/
def backend (hash : HashFunction) (name : String) (capabilities : Capabilities) :
    Backend Script where
  name := name
  capabilities := capabilities
  fetch := fetch
  upload content _ := upload hash content
  pin := pin

end Script

end AddressedStorage
