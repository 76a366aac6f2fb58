import AddressedStorage.Config.Basic
import AddressedStorage.Proofs.Except
import AddressedStorage.Proofs.Vendor.Signer
import Mathlib.Data.List.DropRight

/-!
# Proofs/Config/Build — all vendors or none

What is wrong with a descriptor that is not valid is a fault of its own (`Descriptor.exists_hasFault`).
What a valid one stands for shows the name of its vendor, can do what that vendor can, and is used in
the configured mode (`StorageConfig.Described`).  So a fleet has a provider for all that is described,
or the first thing that stands in the way is reported: a fault before a missing vendor, and that
before missing attempts (`StorageConfig.build_all_or_none`).
-/

namespace AddressedStorage

variable {σ : Type} {hash : HashFunction}

namespace Descriptor

/-! ## Vendors -/

/-- The name a vendor shows.  A node's host is shown without the slashes it ends in. -/
def vendorName : Descriptor → String
  | kubo host rpcPort _ =>
    let base := String.ofList (host.toList.rdropWhile (· = '/'))
    s!"kubo({base}:{rpcPort.toNat})"
  | pinata .. => "pinata"
  | publicGateway url => "gateway(" ++ url.getD "https://ipfs.io" ++ ")"
  | gw3 .. => "gw3"
  | pinningNode host _ => s!"pinning-node({host})"
  | storacha .. => "storacha"

/-- What a vendor can do. -/
def vendorCapabilities : Descriptor → Capabilities
  | kubo .. | gw3 .. => .full
  | publicGateway _ => .fetchOnly
  | pinata .. | storacha .. => ⟨true, true, false, true, .global⟩
  | pinningNode .. => ⟨true, true, true, true, .ownUploads⟩

/-! ## Faults -/

/-- A vendor can be reached with what is configured. -/
def Valid : Descriptor → Prop
  | kubo .. | publicGateway _ => True
  | pinata jwt _ _ => jwt ≠ ""
  | gw3 _ accessSecret _ => Base64.IsSpelling accessSecret.toByteArray.data.toList
  | pinningNode _ token => token ≠ ""
  | storacha authSecret authorization space _ _ =>
    authSecret ≠ "" ∧ authorization ≠ "" ∧ "did:".toList <+: space.toList

/-- What is wrong with a descriptor.  A space is looked at only if there are credentials. -/
inductive HasFault : Descriptor → ConfigFault → Prop where
  | jwt (apiUrl gatewayUrl : Option String) : HasFault (pinata "" apiUrl gatewayUrl) .emptyJwt
  | token (host : String) : HasFault (pinningNode host "") .emptyToken
  | accessSecret {accessKey accessSecret : String} {url : Option String} {cause : Base64.Error}
      (h : Base64.decode accessSecret.toByteArray.data.toList = .error cause) :
      HasFault (gw3 accessKey accessSecret url) (.accessSecret cause)
  | credentials {authSecret authorization space : String} {bridgeUrl gatewayUrl : Option String}
      (h : authSecret = "" ∨ authorization = "") :
      HasFault (storacha authSecret authorization space bridgeUrl gatewayUrl) .emptyCredentials
  | space {authSecret authorization space : String} {bridgeUrl gatewayUrl : Option String}
      (hsecret : authSecret ≠ "") (hauthorization : authorization ≠ "")
      (h : ¬ "did:".toList <+: space.toList) :
      HasFault (storacha authSecret authorization space bridgeUrl gatewayUrl) (.spaceName space)

variable {d : Descriptor} {fault : ConfigFault}

/-- **What is not valid has a fault.** -/
theorem exists_hasFault (h : ¬ d.Valid) : ∃ fault, d.HasFault fault := by
  cases d with
  | kubo | publicGateway => exact absurd trivial h
  | pinata jwt apiUrl gatewayUrl =>
    obtain rfl : jwt = "" := Classical.not_not.mp h
    exact ⟨_, .jwt apiUrl gatewayUrl⟩
  | pinningNode host token =>
    obtain rfl : token = "" := Classical.not_not.mp h
    exact ⟨_, .token host⟩
  | gw3 accessKey accessSecret url =>
    cases hsecret : Base64.decode accessSecret.toByteArray.data.toList with
    | ok bytes => exact absurd (Base64.exists_decode_iff.mp ⟨bytes, hsecret⟩) h
    | error cause => exact ⟨_, .accessSecret hsecret⟩
  | storacha authSecret authorization space bridgeUrl gatewayUrl =>
    by_cases hsecret : authSecret = ""
    · exact ⟨_, .credentials (.inl hsecret)⟩
    by_cases hauthorization : authorization = ""
    · exact ⟨_, .credentials (.inr hauthorization)⟩
    exact ⟨_, .space hsecret hauthorization fun hspace => h ⟨hsecret, hauthorization, hspace⟩⟩

variable (hash) (c : Http.Client σ)

/-- **A valid descriptor names a backend** of its vendor. -/
theorem exists_backend (h : d.Valid) : ∃ b, d.backend hash c = .ok b ∧
    b.name = d.vendorName ∧ b.capabilities = d.vendorCapabilities := by
  cases d with
  | kubo | publicGateway => exact ⟨_, rfl, rfl, rfl⟩
  | pinata jwt apiUrl gatewayUrl =>
    have hmade : (pinata jwt apiUrl gatewayUrl).backend hash c =
        .ok (Vendor.Pinata.backend ⟨jwt, apiUrl.getD Vendor.Pinata.defaultApiUrl,
          gatewayUrl.getD Vendor.Pinata.defaultGatewayUrl⟩ c) := by
      rw [backend, Vendor.Pinata.ofToken, if_neg h]
      rfl
    exact ⟨_, hmade, rfl, rfl⟩
  | pinningNode host token =>
    have hmade : (pinningNode host token).backend hash c =
        .ok (Vendor.PinningNode.backend ⟨host, token⟩ c) := by
      rw [backend, Vendor.PinningNode.ofToken, if_neg h]
      rfl
    exact ⟨_, hmade, rfl, rfl⟩
  | gw3 accessKey accessSecret url =>
    obtain ⟨signer, hsigner⟩ := RequestSigner.exists_ofText_iff.mpr h
    have hmade : (gw3 accessKey accessSecret url).backend hash c =
        .ok (Vendor.Gw3.backend hash ⟨url.getD Vendor.Gw3.defaultUrl, signer⟩ c) := by
      rw [backend, Vendor.Gw3.ofKey, hsigner]
      rfl
    exact ⟨_, hmade, rfl, rfl⟩
  | storacha authSecret authorization space bridgeUrl gatewayUrl =>
    obtain ⟨hsecret, hauthorization, hspace⟩ := h
    have hmade : (storacha authSecret authorization space bridgeUrl gatewayUrl).backend hash c =
        .ok (Vendor.Storacha.backend ⟨authSecret, authorization, space,
          bridgeUrl.getD Vendor.Storacha.defaultBridgeUrl,
          gatewayUrl.getD Vendor.Storacha.defaultGatewayUrl⟩ c hash) := by
      rw [backend, Vendor.Storacha.ofSecret, if_neg (not_or.mpr ⟨hsecret, hauthorization⟩),
        if_pos (List.isPrefixOf_iff_prefix.mpr hspace)]
      rfl
    exact ⟨_, hmade, rfl, rfl⟩

/-- **A descriptor with a fault names none**, and the fault is reported. -/
theorem HasFault.backend_eq (h : d.HasFault fault) :
    d.backend hash c = .error (.invalidConfig fault) := by
  cases h with
  | jwt | token => rfl
  | accessSecret h =>
    rw [backend, Vendor.Gw3.ofKey, RequestSigner.ofText, h]
    rfl
  | credentials h =>
    rw [backend, Vendor.Storacha.ofSecret, if_pos h]
    rfl
  | space hsecret hauthorization h =>
    rw [backend, Vendor.Storacha.ofSecret, if_neg (not_or.mpr ⟨hsecret, hauthorization⟩),
      if_neg (mt List.isPrefixOf_iff_prefix.mp h)]
    rfl

variable {hash} {c} {b : Backend σ}

/-- **Only a valid descriptor names a backend.** -/
theorem of_backend_eq_ok (h : d.backend hash c = .ok b) :
    d.Valid ∧ b.name = d.vendorName ∧ b.capabilities = d.vendorCapabilities := by
  by_cases hvalid : d.Valid
  · obtain ⟨b', hb', hshown⟩ := exists_backend hash c hvalid
    obtain rfl := Except.ok.inj (h.symm.trans hb')
    exact ⟨hvalid, hshown⟩
  · obtain ⟨fault, hfault⟩ := exists_hasFault hvalid
    cases h.symm.trans (hfault.backend_eq hash c)

end Descriptor

namespace StorageConfig

variable (hash) (network : Http.Network σ) (s : StorageConfig)

/-- What a descriptor stands for in a configuration. -/
structure Described (d : Descriptor) (p : Provider σ) : Prop where
  backend_eq : d.backend hash ⟨network, s.http⟩ = .ok p.backend
  name_eq : p.name = d.vendorName
  capabilities_eq : p.capabilities = d.vendorCapabilities
  verification_eq : p.verification = if s.verifyContent then .enabled else .disabled

variable {hash} {network} {s} {d : Descriptor} {p : Provider σ} {ps : List (Provider σ)}
  {g : Shuffle.Generator}

/-- A valid descriptor stands for a provider, and no other does. -/
theorem exists_described_iff : (∃ p, s.Described hash network d p) ↔ d.Valid := by
  constructor
  · rintro ⟨p, hp⟩
    exact (Descriptor.of_backend_eq_ok hp.backend_eq).1
  · intro h
    obtain ⟨b, hb, hname, hcapabilities⟩ := Descriptor.exists_backend hash ⟨network, s.http⟩ h
    exact ⟨⟨b, .ofFlag s.verifyContent⟩, hb, hname, hcapabilities, rfl⟩

/-! ## The providers -/

variable (hash) (network) (s) in
/-- The provider of one descriptor. -/
def provider (d : Descriptor) : Except ExchangeError (Provider σ) := do
  return ⟨← d.backend hash ⟨network, s.http⟩, .ofFlag s.verifyContent⟩

theorem backends_eq_mapM : s.backends hash network = s.providers.mapM (s.provider hash network) :=
  rfl

theorem provider_eq_ok_iff : s.provider hash network d = .ok p ↔ s.Described hash network d p := by
  rw [provider, bind_eq_ok_iff]
  constructor
  · rintro ⟨b, hb, hp⟩
    obtain rfl := Except.ok.inj hp
    obtain ⟨-, hname, hcapabilities⟩ := Descriptor.of_backend_eq_ok hb
    exact ⟨hb, hname, hcapabilities, rfl⟩
  · intro h
    obtain ⟨b, v⟩ := p
    obtain rfl : v = .ofFlag s.verifyContent := h.verification_eq
    exact ⟨b, h.backend_eq, rfl⟩

/-- The providers are those the descriptors stand for, in order. -/
theorem backends_eq_ok_iff : s.backends hash network = .ok ps ↔
    List.Forall₂ (s.Described hash network) s.providers ps := by
  simp only [backends_eq_mapM, mapM_eq_ok_iff, provider_eq_ok_iff]

theorem exists_backends_iff :
    (∃ ps, s.backends hash network = .ok ps) ↔ ∀ d ∈ s.providers, d.Valid := by
  simp only [backends_eq_mapM, exists_mapM_iff, provider_eq_ok_iff, exists_described_iff]

/-- **The first fault is the one that is reported.** -/
theorem backends_eq_error {before after : List Descriptor} {fault : ConfigFault}
    (hproviders : s.providers = before ++ d :: after) (hbefore : ∀ x ∈ before, x.Valid)
    (hfault : d.HasFault fault) : s.backends hash network = .error (.invalidConfig fault) := by
  rw [backends_eq_mapM, hproviders]
  refine mapM_eq_error (fun x hx => ?_) ?_
  · obtain ⟨p, hp⟩ := exists_described_iff.mpr (hbefore x hx)
    exact ⟨p, provider_eq_ok_iff.mpr hp⟩
  · exact bind_eq_error_iff.mpr (.inl (hfault.backend_eq hash ⟨network, s.http⟩))

end StorageConfig

/-! ## The fleet -/

namespace Fleet

variable {providers : Array (Provider σ)} {retries : Nat} {fleet : Fleet σ}

/-- A fleet has what it is made of. -/
theorem ofOrdered_eq_ok_iff : ofOrdered providers retries = .ok fleet ↔
    0 < providers.size ∧ 0 < retries ∧ fleet.providers = providers ∧ fleet.retries = retries := by
  obtain ⟨providers', retries', hsize, hretries⟩ := fleet
  rw [ofOrdered]
  split <;> rename_i hp
  · split <;> rename_i hr
    · simp [hp, hr, eq_comm]
    · simp [hr]
  · simp [hp]

/-- No provider is what is reported, whatever the number of attempts. -/
theorem ofOrdered_empty (retries : Nat) :
    ofOrdered (#[] : Array (Provider σ)) retries = .error .noProviders := rfl

theorem ofOrdered_zero (h : 0 < providers.size) : ofOrdered providers 0 = .error .noRetries := by
  rw [ofOrdered, dif_pos h]
  rfl

end Fleet

namespace StorageConfig

variable {network : Http.Network σ} {s : StorageConfig} {ps : List (Provider σ)}
  {g : Shuffle.Generator} {fleet : Fleet σ}

/-- A fleet is built of providers that are all there, in some order. -/
theorem build_eq_ok_iff : s.build hash network g = .ok fleet ↔
    ∃ ps, s.backends hash network = .ok ps ∧
      Fleet.ofOrdered (Shuffle.shuffle ps.toArray g) s.retries.toNat = .ok fleet := by
  simp only [build, bind_eq_ok_iff, mapError_eq_ok_iff]

theorem build_of_backends_eq_error {e : ExchangeError} (h : s.backends hash network = .error e) :
    s.build hash network g = .error (.descriptor e) :=
  bind_eq_error_iff.mpr (.inl (mapError_eq_error_iff.mpr ⟨e, h, rfl⟩))

theorem build_of_ofOrdered_eq_error {e : FleetError} (hps : s.backends hash network = .ok ps)
    (h : Fleet.ofOrdered (Shuffle.shuffle ps.toArray g) s.retries.toNat = .error e) :
    s.build hash network g = .error (.fleet e) :=
  bind_eq_error_iff.mpr (.inr ⟨ps, mapError_eq_ok_iff.mpr hps, mapError_eq_error_iff.mpr ⟨e, h, rfl⟩⟩)

/-- There is a provider just if there is a descriptor. -/
theorem size_shuffle_pos_iff (h : s.backends hash network = .ok ps) (g : Shuffle.Generator) :
    0 < (Shuffle.shuffle ps.toArray g).size ↔ s.providers ≠ [] := by
  rw [(Shuffle.shuffle_perm ps.toArray g).size_eq, List.size_toArray,
    ← (backends_eq_ok_iff.mp h).length_eq, List.length_pos_iff]

/-- **All or none.**  A fleet is built just if there is a vendor, an attempt at each is allowed and all
descriptors are valid.  It then has the configured attempts and, in some order, one provider for each
descriptor: the vendor's backend under the vendor's name, able to do what the vendor can, in the
configured mode.  Otherwise the fault of the first descriptor that is not valid is reported; where all
are valid, that there is no vendor; and where there is one, that no attempt is allowed. -/
theorem build_all_or_none (hash : HashFunction) (network : Http.Network σ) (s : StorageConfig)
    (g : Shuffle.Generator) :
    ((∃ fleet, s.build hash network g = .ok fleet) ↔
      s.providers ≠ [] ∧ 1 ≤ s.retries.toNat ∧ ∀ d ∈ s.providers, d.Valid) ∧
    (∀ fleet, s.build hash network g = .ok fleet → fleet.retries = s.retries.toNat ∧
      ∃ ps, fleet.providers.toList.Perm ps ∧
        List.Forall₂ (s.Described hash network) s.providers ps) ∧
    (∀ before d after, s.providers = before ++ d :: after → (∀ x ∈ before, x.Valid) → ¬ d.Valid →
      ∃ fault, d.HasFault fault ∧
        s.build hash network g = .error (.descriptor (.invalidConfig fault))) ∧
    (s.providers = [] → s.build hash network g = .error (.fleet .noProviders)) ∧
    (s.providers ≠ [] → (∀ d ∈ s.providers, d.Valid) → s.retries = 0 →
      s.build hash network g = .error (.fleet .noRetries)) := by
  refine ⟨⟨?_, ?_⟩, ?_, ?_, ?_, ?_⟩
  · rintro ⟨fleet, hfleet⟩
    obtain ⟨ps, hps, hmade⟩ := build_eq_ok_iff.mp hfleet
    obtain ⟨hsize, hretries, -, -⟩ := Fleet.ofOrdered_eq_ok_iff.mp hmade
    exact ⟨(size_shuffle_pos_iff hps g).mp hsize, hretries, exists_backends_iff.mp ⟨ps, hps⟩⟩
  · rintro ⟨hsome, hretries, hvalid⟩
    obtain ⟨ps, hps⟩ := exists_backends_iff.mpr hvalid
    have hsize := (size_shuffle_pos_iff hps g).mpr hsome
    exact ⟨⟨_, _, hsize, hretries⟩, build_eq_ok_iff.mpr ⟨ps, hps,
      Fleet.ofOrdered_eq_ok_iff.mpr ⟨hsize, hretries, rfl, rfl⟩⟩⟩
  · intro fleet hfleet
    obtain ⟨ps, hps, hmade⟩ := build_eq_ok_iff.mp hfleet
    obtain ⟨-, -, hproviders, hretries⟩ := Fleet.ofOrdered_eq_ok_iff.mp hmade
    refine ⟨hretries, ps, ?_, backends_eq_ok_iff.mp hps⟩
    rw [hproviders]
    exact (Shuffle.shuffle_perm ps.toArray g).toList
  · intro before d after hproviders hbefore hinvalid
    obtain ⟨fault, hfault⟩ := Descriptor.exists_hasFault hinvalid
    exact ⟨fault, hfault, build_of_backends_eq_error (backends_eq_error hproviders hbefore hfault)⟩
  · intro hnone
    have hps : s.backends hash network = .ok [] := backends_eq_ok_iff.mpr (hnone ▸ .nil)
    exact build_of_ofOrdered_eq_error hps (Fleet.ofOrdered_empty _)
  · intro hsome hvalid hzero
    obtain ⟨ps, hps⟩ := exists_backends_iff.mpr hvalid
    refine build_of_ofOrdered_eq_error hps ?_
    rw [hzero]
    exact Fleet.ofOrdered_zero ((size_shuffle_pos_iff hps g).mpr hsome)

example (network : Http.Network σ) (g : Shuffle.Generator) :
    build hash network ⟨0, true, .standard, [.publicGateway none, .pinningNode "http://10.0.0.5" "",
      .pinata "" none none]⟩ g = .error (.descriptor (.invalidConfig .emptyToken)) := rfl

end StorageConfig

end AddressedStorage
