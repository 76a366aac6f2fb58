import AddressedStorage.Fleet.Error

/-!
# Fleet/Consensus — one identifier out of many answers

Each provider that took an upload votes for the identifier it reports.  An identifier with a
majority of all providers wins; without one, the first answer in provider order does.
-/

namespace AddressedStorage

/-- How many providers out of `total` make a majority. -/
def quorum (total : Nat) : Nat := total / 2 + 1

/-- What one provider answered to an upload. -/
structure PublishOutcome where
  index : Nat
  provider : String
  result : Except ProviderError Cid

/-- A provider that took the upload. -/
structure PublishSuccess where
  index : Nat
  provider : String
  cid : Cid
  deriving DecidableEq

/-- The outcome as a success. -/
def PublishOutcome.success? (o : PublishOutcome) : Option PublishSuccess :=
  match o.result with
  | .ok cid => some ⟨o.index, o.provider, cid⟩
  | .error _ => none

/-- The outcome as a failure. -/
def PublishOutcome.failure? (o : PublishOutcome) : Option ProviderFailure :=
  match o.result with
  | .ok _ => none
  | .error e => some ⟨o.index, o.provider, e⟩

/-- What an upload to all resolved to. -/
structure Consensus where
  successes : List PublishSuccess
  failures : List ProviderFailure
  /-- Each identifier that was reported, once, with its votes. -/
  tally : List (Cid × Nat)
  quorum : Nat
  cid : Cid
  /-- Whether the identifier has a majority, or was picked as the first answer. -/
  reachedQuorum : Bool
  deriving DecidableEq

namespace Consensus

/-- Each vote once, with how often it occurs. -/
def count (votes : List Cid) : List (Cid × Nat) :=
  votes.eraseDups.map fun c => (c, votes.count c)

/-- The votes for an identifier. -/
def votes (r : Consensus) (cid : Cid) : Nat := (r.tally.lookup cid).getD 0

/-- Resolves the outcomes of an upload to `total` providers. -/
def decide (total : Nat) (outcomes : List PublishOutcome) : Except FleetError Consensus :=
  let successes := outcomes.filterMap PublishOutcome.success?
  let failures := outcomes.filterMap PublishOutcome.failure?
  match successes with
  | [] => .error (.noProvidersAvailable .upload failures.length (.publishFailed failures))
  | first :: _ =>
    let needed := AddressedStorage.quorum total
    let tally := count (successes.map PublishSuccess.cid)
    let agreed := (tally.find? fun entry => needed ≤ entry.2).map Prod.fst
    .ok { successes, failures, tally, quorum := needed, cid := agreed.getD first.cid,
          reachedQuorum := agreed.isSome }

end Consensus

end AddressedStorage
