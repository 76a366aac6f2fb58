/-!
# Provider/Capability — what a provider can do

The three operations a provider may offer, and the record that says which of them it does.
-/

namespace AddressedStorage

/-- An operation on a provider. -/
inductive Operation where
  | fetch
  | upload
  | pin
  deriving DecidableEq, Repr, Inhabited

/-- The word for an operation. -/
def Operation.name : Operation → String
  | fetch => "fetch"
  | upload => "upload"
  | pin => "pin"

/-- Which content a provider can serve. -/
inductive FetchScope where
  /-- Anything reachable on the storage network. -/
  | global
  /-- Only what the provider itself stored. -/
  | ownUploads
  deriving DecidableEq, Repr, Inhabited

/-- The configuration word for a scope. -/
def FetchScope.name : FetchScope → String
  | global => "global"
  | ownUploads => "own-uploads"

/-- A scope as it is shown. -/
def FetchScope.shown : FetchScope → String
  | global => "Global"
  | ownUploads => "OwnUploads"

/-- What a provider can do. -/
structure Capabilities where
  fetch : Bool
  upload : Bool
  pin : Bool
  /-- An upload is pinned already, so that a pin call of its own is not needed. -/
  pinsOnUpload : Bool
  fetchScope : FetchScope
  deriving DecidableEq, Repr, Inhabited

namespace Capabilities

/-- All three operations, over the whole network. -/
def full : Capabilities where
  fetch := true
  upload := true
  pin := true
  pinsOnUpload := false
  fetchScope := .global

/-- Reading only. -/
def fetchOnly : Capabilities where
  fetch := true
  upload := false
  pin := false
  pinsOnUpload := false
  fetchScope := .global

/-- Whether an operation is offered. -/
def supports (c : Capabilities) : Operation → Bool
  | .fetch => c.fetch
  | .upload => c.upload
  | .pin => c.pin

end Capabilities

end AddressedStorage
