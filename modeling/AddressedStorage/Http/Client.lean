import AddressedStorage.Http.Error
import AddressedStorage.Provider.Backend

/-!
# Http/Client — exchanges that are tried again

A `Network` sends one request at a time and is otherwise arbitrary.  A request counts as sent once
however often it is redirected on its way, and its answer is the one at the end of that way.  A `Client`
repeats a request while the answer is a passing trouble and attempts are left, and waits between
attempts, each time twice as long as the time before.
-/

namespace AddressedStorage.Http

/-- How a client treats its requests. -/
structure Options where
  timeoutSeconds : UInt64
  /-- Attempts after the first. -/
  retries : UInt32
  /-- The wait before the first repetition, in milliseconds. -/
  backoff : UInt64
  deriving DecidableEq, Repr

namespace Options

/-- What holds where nothing is configured. -/
def standard : Options where
  timeoutSeconds := 30
  retries := 3
  backoff := 500

/-- The milliseconds to wait before a repetition, counted from one.  The wait doubles sixteen times
and fits 64 bits. -/
def delay (o : Options) (attempt : Nat) : Nat :=
  min (UInt64.size - 1) (o.backoff.toNat <<< min (attempt - 1) 16)

end Options

/-- Statuses that may pass. -/
def retryStatuses : List Nat := [418, 429, 500, 502, 503, 504]

/-- Whether a status may pass. -/
def isRetryStatus (status : Nat) : Bool := retryStatuses.contains status

/-- A way to reach services, and what else differs from run to run. -/
structure Network (σ : Type) where
  /-- Sends a request, follows redirects and waits for the answer. -/
  send : Request → StateM σ (Except Failure Response)
  /-- Waits a number of milliseconds. -/
  wait : Nat → StateM σ Unit
  /-- The seconds since the epoch. -/
  now : StateM σ Int
  /-- The order in which the entries of a table are visited. -/
  arrange : List (String × String) → StateM σ (List (String × String)) := fun entries => return entries
  arrange_perm : ∀ entries s, ((arrange entries).run s).1.Perm entries := by exact fun _ _ => .refl _

/-- A step on a network that may fail. -/
abbrev Exchange (σ : Type) := ExceptT ExchangeError (StateM σ)

namespace Exchange

variable {σ α : Type}

/-- A check as a step. -/
def ofExcept (x : Except ExchangeError α) : Exchange σ α := ExceptT.mk (pure x)

/-- The failure of a fetch. -/
def asFetch (cid : Cid) (x : Exchange σ α) : Action σ α :=
  ExceptT.adapt (fun e => .fetch cid e.message) x

/-- The failure of an upload. -/
def asUpload (x : Exchange σ α) : Action σ α := ExceptT.adapt (fun e => .upload e.message) x

/-- The failure of a pin. -/
def asPin (cid : Cid) (x : Exchange σ α) : Action σ α :=
  ExceptT.adapt (fun e => .pin cid e.message) x

end Exchange

/-- A network and how to use it. -/
structure Client (σ : Type) where
  network : Network σ
  options : Options

namespace Client

variable {σ : Type} (c : Client σ)

/-- Sends a request once.  One that cannot be sent never reaches the network. -/
def attempt (r : Request) : StateM σ (Except Failure Response) :=
  if r.isSendable then c.network.send r else return .error (.unbuildable (some r.url))

/-- Sends a request that was sent `done` times, and again up to `left` times. -/
def sendFrom (r : Request) (done left : Nat) : StateM σ (Except ExchangeError Response) := do
  match ← c.attempt r with
  | .ok response =>
    if response.isSuccess then return .ok response
    else
      match left with
      | left + 1 =>
        if isRetryStatus response.status then
          c.network.wait (c.options.delay (done + 1))
          sendFrom r (done + 1) left
        else return .error (.status response.url.toString response.status)
      | 0 => return .error (.status response.url.toString response.status)
  | .error failure =>
    match left with
    | left + 1 =>
      if failure.isTransient then
        c.network.wait (c.options.delay (done + 1))
        sendFrom r (done + 1) left
      else return .error (.http failure)
    | 0 => return .error (.http failure)
termination_by left

/-- Sends a request as often as it takes and the options allow, and returns a successful answer.  A
status other than success is reported with the address that answered. -/
def send (request : Except Failure Request) : Exchange σ Response :=
  match request with
  | .ok r => ExceptT.mk (c.sendFrom r 0 c.options.retries.toNat)
  | .error failure => throw (.http failure)

/-- Sends a request once.  A status other than success is reported with the address as the caller
wrote it. -/
def sendOnce (url : String) (request : Except Failure Request) : Exchange σ Response := do
  match request with
  | .error failure => throw (.http failure)
  | .ok r =>
    match ← (c.attempt r : StateM σ _) with
    | .error failure => throw (.http failure)
    | .ok response =>
      if response.isSuccess then return response else throw (.status url response.status)

end Client

namespace Response

variable {σ α : Type}

/-- The body of an answer. -/
def content (r : Response) : Exchange σ ByteArray :=
  match r.body with
  | some bytes => return bytes
  | none => throw (.http .undecodable)

/-- The body of an answer as a JSON text. -/
def document? (r : Response) : Option Document := do
  Document.ofJsonBytes? (← r.body).data.toList

/-- What a JSON body says. -/
def decode (read : Document → Option α) (r : Response) : Exchange σ α :=
  match r.document?.bind read with
  | some a => return a
  | none => throw (.http .undecodable)

end Response

/-- The bytes behind an address. -/
def Client.getBytes {σ : Type} (c : Client σ) (url : String) : Exchange σ ByteArray := do
  (← c.send (Request.ofAddress .get url)).content

end AddressedStorage.Http
