import AddressedStorage.Provider.Error

/-!
# Fleet/Error — why a whole set of providers failed
-/

namespace AddressedStorage

/-- One provider's failure in a call to all. -/
structure ProviderFailure where
  index : Nat
  provider : String
  error : ProviderError
  deriving DecidableEq

/-- The failure in words. -/
def ProviderFailure.message (f : ProviderFailure) : String :=
  s!"[{f.index}] {f.provider}: {f.error.message}"

/-- Why a set of providers failed, or cannot be made. -/
inductive FleetError where
  /-- Every attempt at one provider failed. -/
  | retriesExhausted (index : Nat) (provider : String) (attempts : Nat) (cause : ProviderError)
  /-- One provider failed in a way that repeating does not change. -/
  | providerFailed (index : Nat) (provider : String) (cause : ProviderError)
  /-- All failed; the last failure stands for them. -/
  | noProvidersAvailable (operation : Operation) (attempted : Nat) (last : FleetError)
  /-- No provider took the upload. -/
  | publishFailed (failures : List ProviderFailure)
  /-- What was read back is not what was written. -/
  | selfCheckMismatch (cid : Cid)
  | noProviders
  | noRetries
  deriving DecidableEq

namespace FleetError

/-- The failure in words. -/
def message : FleetError → String
  | retriesExhausted index provider attempts _ =>
    s!"provider [{index}] {provider} failed {attempts} attempts"
  | providerFailed index provider _ => s!"provider [{index}] {provider} failed"
  | noProvidersAvailable operation attempted _ =>
    s!"no providers available for {operation.name} after trying {attempted}"
  | publishFailed failures =>
    "every provider rejected the upload: " ++
      "; ".intercalate (failures.map ProviderFailure.message)
  | selfCheckMismatch cid => s!"self-check fetched different bytes for {cid}"
  | noProviders => "invalid configuration: no storage providers configured"
  | noRetries => "invalid configuration: retries must be at least 1"

/-- How many causes stand below a failure. -/
def depth : FleetError → Nat
  | retriesExhausted _ _ _ cause | providerFailed _ _ cause => 1 + cause.depth
  | noProvidersAvailable _ _ last => 1 + depth last
  | _ => 0

end FleetError

end AddressedStorage
