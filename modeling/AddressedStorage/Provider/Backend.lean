import AddressedStorage.Provider.Error

/-!
# Provider/Backend — access to one vendor

A backend moves bytes and checks nothing.  Its behaviour is an arbitrary step function on some state
`σ`: a store, a script, or the network that several backends share.  A failing step keeps the state
it reached.

`Backend.zoom` runs a backend inside a larger state and `Backend.journaled` writes down every call
that reaches it.
-/

namespace AddressedStorage

/-- A step on a state that may fail. -/
abbrev Action (σ : Type) := ExceptT ProviderError (StateM σ)

namespace Action

variable {σ : Type}

/-- A check as a step that leaves the state alone. -/
def ofExcept {α : Type} (x : Except ProviderError α) : Action σ α := ExceptT.mk (pure x)

/-- The version-0 form of an identifier. -/
def toV0 (cid : Cid) : Action σ Cid := ofExcept (cid.toV0.mapError .identifier)

/-- The identifier of content. -/
def contentCid (hash : HashFunction) (content : ByteArray) : Action σ Cid :=
  ofExcept ((Dag.contentCid hash content).mapError .addressing)

end Action

/-- Access to one vendor. -/
structure Backend (σ : Type) where
  name : String
  capabilities : Capabilities
  /-- The bytes stored under an identifier. -/
  fetch : Cid → Action σ ByteArray
  /-- Stores bytes, under a file name if one is given, and returns the identifier the vendor
  reports. -/
  upload : ByteArray → Option String → Action σ Cid
  /-- Asks the vendor to keep the content behind an identifier. -/
  pin : Cid → Action σ Unit

namespace Backend

/-- Runs a step on a part of a larger state. -/
def zoomAction {σ τ α : Type} (get : τ → σ) (set : σ → τ → τ) (x : Action σ α) : Action τ α :=
  ExceptT.mk fun t =>
    let (result, s) := x.run (get t)
    (result, set s t)

/-- A backend that works on a part of a larger state. -/
def zoom {σ τ : Type} (get : τ → σ) (set : σ → τ → τ) (b : Backend σ) : Backend τ where
  name := b.name
  capabilities := b.capabilities
  fetch cid := zoomAction get set (b.fetch cid)
  upload content name := zoomAction get set (b.upload content name)
  pin cid := zoomAction get set (b.pin cid)

/-- A call that reached a backend. -/
inductive Call where
  | fetch (cid : Cid)
  | upload (content : ByteArray) (name : Option String)
  | pin (cid : Cid)
  deriving DecidableEq

/-- The operation a call asks for. -/
def Call.operation : Call → Operation
  | fetch _ => .fetch
  | upload _ _ => .upload
  | pin _ => .pin

/-- A call on one line.  Of uploaded bytes only their number is told. -/
def Call.text : Call → String
  | fetch cid => s!"fetch {cid}"
  | upload content none => s!"upload {content.size}"
  | upload content (some name) => s!"upload {content.size} as {name}"
  | pin cid => s!"pin {cid}"

/-- Writes down a call and makes it. -/
def note {σ α : Type} (call : Call) (x : Action σ α) : Action (σ × List Call) α :=
  ExceptT.mk fun (s, calls) =>
    let (result, s) := x.run s
    (result, (s, calls ++ [call]))

/-- A backend that writes down its calls, oldest first. -/
def journaled {σ : Type} (b : Backend σ) : Backend (σ × List Call) where
  name := b.name
  capabilities := b.capabilities
  fetch cid := note (.fetch cid) (b.fetch cid)
  upload content name := note (.upload content name) (b.upload content name)
  pin cid := note (.pin cid) (b.pin cid)

end Backend

end AddressedStorage
