import AddressedStorage.Provider.Backend

/-!
# Provider/Verified — a backend behind capability checks and hashing

A `Provider` hashes what it moves.  Fetched bytes must hash to the requested identifier, and the
identifier reported for an upload must be the one the uploaded bytes hash to.  An operation the
backend does not offer, and a fetch whose identifier cannot be verified, fail before the backend is
called.
-/

namespace AddressedStorage

/-- Whether a provider hashes what it moves. -/
inductive Verification where
  | enabled
  | disabled
  deriving DecidableEq, Repr, Inhabited

namespace Verification

/-- The configuration word for a mode. -/
def name : Verification → String
  | enabled => "enabled"
  | disabled => "disabled"

/-- The mode as it is shown. -/
def shown : Verification → String
  | enabled => "Enabled"
  | disabled => "Disabled"

/-- The mode a flag switches on or off. -/
def ofFlag (flag : Bool) : Verification := if flag then enabled else disabled

end Verification

/-- A backend and the mode it is used in. -/
structure Provider (σ : Type) where
  backend : Backend σ
  verification : Verification

namespace Provider

variable {σ : Type} (hash : HashFunction) (p : Provider σ)

/-- The name of the backend. -/
def name : String := p.backend.name

/-- What the backend can do. -/
def capabilities : Capabilities := p.backend.capabilities

/-- The provider as it is shown: name and mode. -/
def shown : String :=
  "Provider \x7b name: " ++ Quoted.encode p.name ++ ", verification: " ++ p.verification.shown ++ " \x7d"

/-- Fails if the backend does not offer the operation. -/
def require (operation : Operation) : Action σ Unit :=
  if p.capabilities.supports operation then return
  else throw (.unsupported p.name operation)

/-- The bytes behind an identifier.  Under verification the identifier must have a version-0 form,
which is judged first, and the bytes must hash to it. -/
def fetch (cid : Cid) : Action σ ByteArray := do
  p.require .fetch
  match p.verification with
  | .disabled => p.backend.fetch cid
  | .enabled =>
    let expected ← Action.toV0 cid
    let content ← p.backend.fetch cid
    let actual ← Action.contentCid hash content
    if actual = expected then return content
    else throw (.contentValidation cid actual)

/-- Stores bytes and returns their identifier in version 0, or as reported where there is no such
form.  Under verification the reported identifier must be the one the bytes hash to. -/
def upload (content : ByteArray) (name : Option String) : Action σ Cid := do
  p.require .upload
  let reported ← p.backend.upload content name
  match p.verification with
  | .disabled => return reported.normal
  | .enabled =>
    let expected ← Action.contentCid hash content
    let normal ← Action.toV0 reported
    if normal = expected then return expected
    else throw (.contentValidation expected reported)

/-- Asks the backend to keep an identifier.  Nothing is verified. -/
def pin (cid : Cid) : Action σ Unit := do
  p.require .pin
  p.backend.pin cid

/-- Whether an upload needs a pin call of its own. -/
def pinsSeparately : Bool := p.capabilities.pin && !p.capabilities.pinsOnUpload

/-- Makes a step and forgets whether it failed. -/
def attempt (x : Action σ Unit) : Action σ Unit := tryCatch x fun _ => return

/-- Uploads, and pins the identifier where that takes a call of its own.  A pin that fails does not
matter. -/
def publish (content : ByteArray) (name : Option String) : Action σ Cid := do
  let cid ← p.upload hash content name
  if p.pinsSeparately then
    attempt (p.backend.pin cid)
  return cid

end Provider

end AddressedStorage
