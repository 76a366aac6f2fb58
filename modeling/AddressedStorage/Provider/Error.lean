import AddressedStorage.Cid.Text
import AddressedStorage.Dag.File
import AddressedStorage.Provider.Capability

/-!
# Provider/Error — why a provider failed

`isRetryable` says whether the same call may succeed when it is repeated: a missing capability, an
identifier that does not decode and content that is too large fail the same way every time.
-/

namespace AddressedStorage

/-- Why an operation of one provider failed. -/
inductive ProviderError where
  /-- No content could be had for the identifier. -/
  | fetch (cid : Cid) (reason : String)
  | upload (reason : String)
  | pin (cid : Cid) (reason : String)
  /-- The provider does not offer the operation. -/
  | unsupported (provider : String) (operation : Operation)
  /-- Bytes and identifier disagree: fetched bytes with the requested identifier, or uploaded bytes
  with the reported one. -/
  | contentValidation (expected actual : Cid)
  | transport (reason : String)
  /-- An identifier could not be decoded, or has no version-0 form. -/
  | identifier (cause : FormatError)
  | addressing (cause : AddressingError)
  deriving DecidableEq

namespace ProviderError

/-- The failure in words. -/
def message : ProviderError → String
  | fetch cid reason => s!"unable to fetch {cid}: {reason}"
  | upload reason => s!"unable to upload: {reason}"
  | pin cid reason => s!"unable to pin {cid}: {reason}"
  | unsupported provider operation => s!"{provider} does not support {operation.name}"
  | contentValidation expected actual =>
    s!"content validation failed: expected {expected}, got {actual}"
  | transport reason => s!"transport error: {reason}"
  | identifier cause => s!"invalid identifier: {cause.message}"
  | addressing cause => cause.message

/-- How many causes stand below a failure. -/
def depth : ProviderError → Nat
  | identifier _ => 1
  | _ => 0

/-- Whether repeating the call may succeed. -/
def isRetryable : ProviderError → Bool
  | unsupported _ _ | identifier _ | addressing (.contentTooLarge _ _) => false
  | _ => true

/-- Whether bytes and identifier disagreed. -/
def isContentMismatch : ProviderError → Bool
  | contentValidation _ _ => true
  | _ => false

end ProviderError

end AddressedStorage
