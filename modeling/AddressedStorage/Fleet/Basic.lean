import AddressedStorage.Fleet.Consensus
import AddressedStorage.Provider.Verified
import AddressedStorage.Rotation.Cursor

/-!
# Fleet/Basic — several providers as one

Reads go to one provider at a time.  The frame decides where to start; a provider that fails is
tried again as long as that may help, then the next one is tried, until all were.  Writes go to
every provider, and the answers are resolved to one identifier.

Only reads move the cursor.
-/

namespace AddressedStorage

/-- At least one provider, in fixed order, and how often each is tried. -/
structure Fleet (σ : Type) where
  providers : Array (Provider σ)
  retries : Nat
  size_pos : 0 < providers.size
  retries_pos : 0 < retries

namespace Fleet

/-- The fleet with the given providers in the given order. -/
def ofOrdered {σ : Type} (providers : Array (Provider σ)) (retries : Nat) :
    Except FleetError (Fleet σ) :=
  if hp : 0 < providers.size then
    if hr : 0 < retries then .ok { providers, retries, size_pos := hp, retries_pos := hr }
    else .error .noRetries
  else .error .noProviders

variable {σ : Type} (hash : HashFunction) (fleet : Fleet σ)

/-- The number of providers. -/
def size : Nat := fleet.providers.size

/-- The cursor a fresh fleet reads from. -/
def cursor : Cursor fleet.size := .start fleet.size_pos

/-- The provider at a place. -/
def provider (i : Fin fleet.size) : Provider σ :=
  have h : i.val < fleet.providers.size := i.isLt
  fleet.providers[i.val]

/-- Reads from one provider with `left` attempts to go after this one. -/
def fetchRetrying (i : Fin fleet.size) (cid : Cid) (left : Nat) :
    StateM σ (Except FleetError ByteArray) := do
  match ← ((fleet.provider i).fetch hash cid).run with
  | .ok content => return .ok content
  | .error e =>
    if e.isRetryable then
      match left with
      | 0 => return .error (.retriesExhausted i (fleet.provider i).name fleet.retries e)
      | left + 1 => fetchRetrying i cid left
    else return .error (.providerFailed i (fleet.provider i).name e)
termination_by left

/-- Reads from one provider, as often as the fleet allows. -/
def fetchAt (i : Fin fleet.size) (cid : Cid) : StateM σ (Except FleetError ByteArray) :=
  fleet.fetchRetrying hash i cid (fleet.retries - 1)

/-- Reads from the provider the cursor stands on and, while that fails, from the ones after it.
`tried` counts the providers that failed before. -/
def fetchFrom (cid : Cid) (c : Cursor fleet.size) (tried : Nat) :
    StateM σ (Except FleetError ByteArray × Cursor fleet.size) := do
  match ← fleet.fetchAt hash c.current cid with
  | .ok content => return (.ok content, c.commit)
  | .error e =>
    if _h : c.advance.offer? = none then
      return (.error (.noProvidersAvailable .fetch (tried + 1) e), c.advance)
    else fetchFrom cid c.advance (tried + 1)
termination_by c.remaining
decreasing_by exact Cursor.remaining_advance_lt _h

/-- What a fleet keeps between calls: where reading stands, and the state of the backends. -/
abbrev Session (σ : Type) (n : Nat) := Cursor n × σ

/-- A step of a fleet that may fail. -/
abbrev Step (σ : Type) (n : Nat) := ExceptT FleetError (StateM (Session σ n))

/-- Reads from the provider the frame starts on, or from the next ones. -/
def fetch (cid : Cid) (frame : Frame) : Step σ fleet.size ByteArray :=
  ExceptT.mk fun (c, s) =>
    let ((result, c), s) := (fleet.fetchFrom hash cid (c.enterFrame frame) 0).run s
    (result, (c, s))

/-- What the provider at a place answers to an upload. -/
def publishAt (content : ByteArray) (name : Option String) (i : Fin fleet.size) :
    StateM σ PublishOutcome := do
  let result ← ((fleet.provider i).publish hash content name).run
  return { index := i, provider := (fleet.provider i).name, result }

/-- Uploads to every provider and resolves the answers, which stand in the order of the providers.  The
uploads may all be under way at one time; they are made here one after the other, which comes to the same
where no provider gets in another's way. -/
def publishAll (content : ByteArray) (name : Option String) : Step σ fleet.size Consensus :=
  ExceptT.mk fun (c, s) =>
    let (outcomes, s) := ((List.finRange fleet.size).mapM (fleet.publishAt hash content name)).run s
    (Consensus.decide fleet.size outcomes, (c, s))

/-- Uploads to every provider and returns the identifier they agree on. -/
def publish (content : ByteArray) (name : Option String) : Step σ fleet.size Cid := do
  return (← fleet.publishAll hash content name).cid

/-- The payload of a self-check. -/
def selfCheckPayload : ByteArray := "ora storage self-check".toByteArray

/-- Writes a fixed payload and reads it back. -/
def selfCheck (frame : Frame) : Step σ fleet.size Cid := do
  let cid ← fleet.publish hash selfCheckPayload none
  let content ← fleet.fetch hash cid frame
  if content = selfCheckPayload then return cid
  else throw (.selfCheckMismatch cid)

end Fleet

end AddressedStorage
