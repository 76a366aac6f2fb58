import AddressedStorage.Proofs.Provider.Verdict
import AddressedStorage.Proofs.Vendor.Adapter

/-!
# Proofs/Vendor/Service — reading from a vendor as a fleet does

A `Service` is a vendor, how its requests are treated, and whether what it serves is verified.
Verification adds no request and turns no passing trouble into another failure
(`Service.sends_fetch`): it refuses an identifier before anything is sent, and content after.
-/

namespace AddressedStorage.Vendor

open Http

variable {σ κ : Type}

/-- A vendor, how its requests are treated, and whether its content is verified. -/
structure Service where
  adapter : Adapter
  options : Options
  verification : Verification

namespace Service

/-- The service as a provider on a network. -/
def provider (hash : HashFunction) (network : Network σ) (s : Service) : Provider σ where
  backend := s.adapter.backend hash ⟨network, s.options⟩
  verification := s.verification

/-- What it serves for an identifier can be judged. -/
def CanJudge (s : Service) (cid : Cid) : Prop := s.verification = .enabled → cid.HasV0

instance (s : Service) (cid : Cid) : Decidable (s.CanJudge cid) :=
  inferInstanceAs (Decidable (_ → _))

/-- What it serves for an identifier is accepted: it verifies, where that is asked for. -/
def Accepts (hash : HashFunction) (s : Service) (cid : Cid) (content : ByteArray) : Prop :=
  s.verification = .enabled → Dag.verify hash content cid = .ok true

variable {hash : HashFunction} {network : Network σ} {s : Service} {cid : Cid}

theorem supports_fetch : (s.provider hash network).capabilities.supports .fetch :=
  s.adapter.supports_fetch hash _

/-- Without verification a read is a call. -/
theorem run_fetch_of_disabled (h : s.verification = .disabled) :
    ((s.provider hash network).fetch hash cid).run =
      ((s.provider hash network).backend.fetch cid).run := by
  refine StateT.ext fun y => ?_
  rw [Provider.fetch, run_bind_of_ok (Provider.run_require supports_fetch y)]
  have hverification : (s.provider hash network).verification = .disabled := h
  rw [hverification]

/-- With verification it is a call and a verdict. -/
theorem run_fetch_of_enabled (h : s.verification = .enabled) (hcid : cid.HasV0) :
    ((s.provider hash network).fetch hash cid).run = (do
      let result ← ((s.provider hash network).backend.fetch cid).run
      return result >>= Provider.fetchVerdict hash cid) :=
  StateT.ext fun y => Provider.run_fetch h ⟨supports_fetch, hcid⟩ y

/-- **Reading from a service** sends what reading from its vendor sends. -/
theorem sends_fetch (hash : HashFunction) (network : Network σ) (s : Service) (sender : κ)
    (cid : Cid) :
    Sends (Reading sender s.options.retries.toNat
        (s.adapter.WellFormed ∧ s.CanJudge cid ∧ Timely network) (s.Accepts hash cid))
      ((s.provider hash (network.noting sender)).fetch hash cid).run := by
  have hvendor := s.adapter.sends_fetch hash network s.options sender cid
  have hready : s.adapter.WellFormed ∧ s.CanJudge cid ∧ Timely network →
      s.adapter.WellFormed ∧ Timely network := fun h => ⟨h.1, h.2.2⟩
  cases hverification : s.verification with
  | disabled =>
    rw [run_fetch_of_disabled hverification]
    refine hvendor.mono fun sent result h => ?_
    exact (bind_pure result) ▸ (h.mono hready).judged fun _ _ => rfl
  | enabled =>
    by_cases hcid : cid.HasV0
    · rw [run_fetch_of_enabled hverification hcid]
      refine hvendor.bind fun sent result h => .ret ?_
      rw [List.append_nil]
      refine (h.mono hready).judged fun content haccepts => ?_
      exact Provider.fetchVerdict_eq_ok_iff.mpr ⟨rfl, haccepts hverification⟩
    · intro y
      have hrefused : ((s.provider hash (network.noting sender)).fetch hash cid).run.run y = _ :=
        Provider.run_fetch_of_not_asks hverification (fun hasks => hcid hasks.2) y
      refine ⟨[], ?_, ?_⟩
      · rw [hrefused, List.append_nil]
      · rw [hrefused]
        exact .none (fun h => hcid (h.2.1 hverification)) _

end Service

end AddressedStorage.Vendor
