import AddressedStorage.Proofs.Provider.Related
import AddressedStorage.Proofs.Provider.Verified
import Mathlib.Logic.Function.Basic

/-!
# Proofs/Provider/Version — in which version an upload is reported

A provider answers an upload with the normal form of what its backend reports
(`exists_report_of_publish`), and asks for that form to be pinned.  So two backends that differ only
in the version of the identifiers they report (`Matches`) make the same provider, up to what a
mismatch says was reported (`Matches.publish`).

Calls are written down place by place, and writing down changes nothing (`matches_noting`).
-/

namespace AddressedStorage

/-! ## Identifiers of one block -/

namespace Cid

/-- Two identifiers of one block: one identifier, or the two versions of a DAG-PB block's. -/
def SameBlock (c d : Cid) : Prop := c = d ∨ c.HasV0 ∧ d.HasV0 ∧ c.digest = d.digest

variable {c d : Cid}

theorem sameBlock_versions (digest : Digest) : (v0 digest).SameBlock (v1 .dagPb digest) :=
  .inr ⟨rfl, rfl, rfl⟩

theorem SameBlock.symm (h : c.SameBlock d) : d.SameBlock c :=
  h.imp Eq.symm fun ⟨hc, hd, hdigest⟩ => ⟨hd, hc, hdigest.symm⟩

theorem SameBlock.toV0_eq (h : c.SameBlock d) : c.toV0 = d.toV0 := by
  obtain rfl | ⟨hc, hd, hdigest⟩ := h
  · rfl
  · rw [toV0_of_hasV0 hc, toV0_of_hasV0 hd, hdigest]

theorem normal_of_toV0 {key : Cid} (h : c.toV0 = .ok key) : c.normal = key := by
  rw [normal, h]

theorem normal_of_not_hasV0 (h : ¬ c.HasV0) : c.normal = c := by
  rw [normal, toV0_of_not_hasV0 h]

/-- **Identifiers of one block have one normal form.** -/
theorem SameBlock.normal_eq (h : c.SameBlock d) : c.normal = d.normal := by
  obtain rfl | ⟨hc, hd, hdigest⟩ := h
  · rfl
  · rw [normal_of_toV0 (toV0_of_hasV0 hc), normal_of_toV0 (toV0_of_hasV0 hd), hdigest]

/-- **A normal form is of version 0 if it can be.** -/
theorem version_normal (h : c.normal.HasV0) : c.normal.version = 0 := by
  by_cases hc : c.HasV0
  · rw [normal_of_toV0 (toV0_of_hasV0 hc)]
    rfl
  · rw [normal_of_not_hasV0 hc] at h
    exact absurd h hc

end Cid

/-- Errors that are alike: the same error, or mismatches with reports of one block. -/
inductive ProviderError.SameButVersion : ProviderError → ProviderError → Prop where
  | refl (e : ProviderError) : SameButVersion e e
  | mismatch (expected : Cid) {c d : Cid} (h : c.SameBlock d) :
    SameButVersion (.contentValidation expected c) (.contentValidation expected d)

/-- Reports that a provider does not tell apart but in a mismatch. -/
structure Tolerates (E : ProviderError → ProviderError → Prop) (Q : Cid → Cid → Prop) : Prop where
  refl : ∀ e, E e e
  toV0_eq : ∀ c d, Q c d → c.toV0 = d.toV0
  normal_eq : ∀ c d, Q c d → c.normal = d.normal
  mismatch : ∀ expected c d, Q c d →
    E (.contentValidation expected c) (.contentValidation expected d)

theorem tolerates_eq : Tolerates Eq Eq where
  refl _ := rfl
  toV0_eq _ _ h := h ▸ rfl
  normal_eq _ _ h := h ▸ rfl
  mismatch _ _ _ h := h ▸ rfl

theorem tolerates_sameBlock : Tolerates ProviderError.SameButVersion Cid.SameBlock where
  refl := .refl
  toV0_eq _ _ h := h.toV0_eq
  normal_eq _ _ h := h.normal_eq
  mismatch expected _ _ h := .mismatch expected h

variable {σ τ : Type} {R : σ → τ → Prop} {E : ProviderError → ProviderError → Prop}
  {Q : Cid → Cid → Prop} {content : ByteArray} {name : Option String} {p : Provider σ}
  {q : Provider τ}

/-! ## Providers that report one block -/

namespace Provider

/-- Two providers whose uploads of a payload differ only in what is reported: from related states
both are taken or both fail alike, and the reports are related. -/
structure Matches (R : σ → τ → Prop) (Q : Cid → Cid → Prop) (content : ByteArray)
    (name : Option String) (p : Provider σ) (q : Provider τ) : Prop where
  name_eq : p.name = q.name
  capabilities_eq : p.capabilities = q.capabilities
  verification_eq : p.verification = q.verification
  upload : Related R Eq Q (p.backend.upload content name) (q.backend.upload content name)
  pin : ∀ cid, Related R Eq Eq (p.backend.pin cid) (q.backend.pin cid)

theorem related_attempt {x : Action σ Unit} {y : Action τ Unit} (h : Related R Eq Eq x y) :
    Related R E Eq (attempt x) (attempt y) := by
  intro s t hR
  rw [run_attempt, run_attempt]
  exact ⟨.ok rfl, (h s t hR).2⟩

theorem Matches.require (h : p.Matches R Q content name q) (hE : ∀ e, E e e)
    (operation : Operation) : Related R E Eq (p.require operation) (q.require operation) := by
  rw [Provider.require, Provider.require, h.capabilities_eq, h.name_eq]
  split
  · exact .ret rfl
  · exact .fail (hE _)

/-- **What is reported is answered in its normal form.** -/
theorem Matches.uploads (hash : HashFunction) (h : p.Matches R Q content name q)
    (hE : Tolerates E Q) : Related R E Eq (p.upload hash content name) (q.upload hash content name) := by
  refine .bind (h.require hE.refl .upload) fun _ _ _ =>
    .bind (h.upload.mono fun e _ he => he ▸ hE.refl e) fun reported reported' hreported => ?_
  rw [h.verification_eq]
  cases q.verification with
  | disabled => exact .ret (hE.normal_eq _ _ hreported)
  | enabled =>
    refine .bind (.ofExcept (.refl hE.refl (fun _ => rfl) _)) fun expected _ heq => ?_
    obtain rfl := heq
    rw [Action.toV0, Action.toV0, hE.toV0_eq _ _ hreported]
    refine .bind (.ofExcept (.refl hE.refl (fun _ => rfl) _)) fun normal _ heq => ?_
    obtain rfl := heq
    split
    · exact .ret rfl
    · exact .fail (hE.mismatch _ _ _ hreported)

/-- **So is what is pinned.** -/
theorem Matches.publish (hash : HashFunction) (h : p.Matches R Q content name q)
    (hE : Tolerates E Q) :
    Related R E Eq (p.publish hash content name) (q.publish hash content name) := by
  refine .bind (h.uploads hash hE) fun cid _ heq => ?_
  obtain rfl := heq
  rw [pinsSeparately, pinsSeparately, h.capabilities_eq]
  split
  · exact .bind (related_attempt (h.pin cid)) fun _ _ _ => .ret rfl
  · exact .ret rfl

/-- An upload that is not verified is a call. -/
theorem run_upload_unverified {hash : HashFunction} (h : p.verification = .disabled)
    (hupload : p.capabilities.supports .upload) (s : σ) :
    (p.upload hash content name).run.run s =
      (((p.backend.upload content name).run.run s).1.map Cid.normal,
        ((p.backend.upload content name).run.run s).2) := by
  rw [Provider.upload, run_bind_of_ok (run_require hupload s), h, run_bind]
  rcases (p.backend.upload content name).run.run s with ⟨e | reported, t⟩ <;> rfl

theorem exists_report_of_upload {hash : HashFunction} {s : σ} {cid : Cid}
    (h : ((p.upload hash content name).run.run s).1 = .ok cid) :
    ∃ reported, ((p.backend.upload content name).run.run s).1 = .ok reported ∧
      cid = reported.normal := by
  cases hmode : p.verification with
  | disabled =>
    by_cases hupload : p.capabilities.supports .upload
    · rw [run_upload_unverified hmode hupload] at h
      obtain ⟨reported, hreported, rfl⟩ := map_eq_ok_iff.mp h
      exact ⟨reported, hreported, rfl⟩
    · rw [run_upload_of_not_supports hupload] at h
      cases h
  | enabled =>
    obtain ⟨-, reported, hreported, hkey, -⟩ := (upload_eq_ok_iff hmode).mp h
    exact ⟨reported, hreported, (Cid.normal_of_toV0 hkey).symm⟩

/-- **An answer is the normal form of a report.** -/
theorem exists_report_of_publish {hash : HashFunction} {s : σ} {cid : Cid}
    (h : ((p.publish hash content name).run.run s).1 = .ok cid) :
    ∃ reported, ((p.backend.upload content name).run.run s).1 = .ok reported ∧
      cid = reported.normal := by
  obtain ⟨key, t, hupload, hpublish⟩ := exists_of_run_bind_ok h
  have hkey : key = cid := by
    split at hpublish
    · obtain ⟨_, _, _, hret⟩ := exists_of_run_bind_ok hpublish
      exact Except.ok.inj hret
    · exact Except.ok.inj hpublish
  exact exists_report_of_upload (hkey ▸ congrArg Prod.fst hupload)

end Provider

/-! ## Calls written down -/

/-- The calls that reached the backend at each place, oldest first. -/
abbrev Journal := Nat → List Backend.Call

namespace Provider

/-- The provider at a place, with its backend's calls written down there. -/
def noting (place : Nat) (p : Provider σ) : Provider (σ × Journal) where
  backend := p.backend.journaled.zoom (fun x => (x.1, x.2 place))
    fun y x => (y.1, Function.update x.2 place y.2)
  verification := p.verification

/-- **Writing down changes nothing.** -/
theorem matches_noting (p : Provider σ) (place : Nat) :
    p.Matches (fun s (x : σ × Journal) => s = x.1) Eq content name (p.noting place) where
  name_eq := rfl
  capabilities_eq := rfl
  verification_eq := rfl
  upload := by
    rintro s ⟨_, journal⟩ rfl
    exact ⟨.refl (fun _ => rfl) (fun _ => rfl) _, rfl⟩
  pin cid := by
    rintro s ⟨_, journal⟩ rfl
    exact ⟨.refl (fun _ => rfl) (fun _ => rfl) _, rfl⟩

/-- **Providers that match make the same calls.** -/
theorem Matches.noting (h : p.Matches R Q content name q) (place : Nat) :
    (p.noting place).Matches (fun (x : σ × Journal) (y : τ × Journal) => R x.1 y.1 ∧ x.2 = y.2) Q
      content name (q.noting place) where
  name_eq := h.name_eq
  capabilities_eq := h.capabilities_eq
  verification_eq := h.verification_eq
  upload := by
    rintro ⟨s, journal⟩ ⟨t, _⟩ ⟨hR, rfl⟩
    obtain ⟨hresult, hstate⟩ := h.upload s t hR
    exact ⟨hresult, hstate, rfl⟩
  pin cid := by
    rintro ⟨s, journal⟩ ⟨t, _⟩ ⟨hR, rfl⟩
    obtain ⟨hresult, hstate⟩ := h.pin cid s t hR
    exact ⟨hresult, hstate, rfl⟩

end Provider

end AddressedStorage
