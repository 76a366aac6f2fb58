import AddressedStorage.Digest.Sha256
import AddressedStorage.Proofs.Dag.Layout
import AddressedStorage.Proofs.Provider.Action
import AddressedStorage.Provider.Scripted
import AddressedStorage.Provider.Verified

/-!
# Proofs/Provider/Verdict — what a verified call comes to

A verified call is one call to the backend and then a verdict on the answer, which depends on
nothing else (`run_fetch`, `run_upload`).  What is refused before that reaches no backend, and a
backend that fails is not judged at all.  So a provider vouches for exactly the content it hashed
(`vouches_for_hashed`).
-/

namespace AddressedStorage

namespace Provider

variable {σ : Type} (hash : HashFunction)

/-! ## Verdicts -/

/-- The verdict on fetched bytes. -/
def fetchVerdict (cid : Cid) (content : ByteArray) : Except ProviderError ByteArray := do
  let expected ← cid.toV0.mapError .identifier
  let actual ← (Dag.contentCid hash content).mapError .addressing
  if actual = expected then return content
  else throw (.contentValidation cid actual)

/-- The verdict on the identifier reported for uploaded bytes. -/
def uploadVerdict (content : ByteArray) (reported : Cid) : Except ProviderError Cid := do
  let expected ← (Dag.contentCid hash content).mapError .addressing
  let normal ← reported.toV0.mapError .identifier
  if normal = expected then return expected
  else throw (.contentValidation expected reported)

variable {hash} {p : Provider σ} {s : σ} {cid : Cid} {content : ByteArray} {name : Option String}

/-- **Bytes pass just if they verify.** -/
theorem fetchVerdict_eq_ok_iff {bytes : ByteArray} :
    fetchVerdict hash cid content = .ok bytes ↔
      bytes = content ∧ Dag.verify hash content cid = .ok true := by
  rw [Dag.verify_eq_ok_iff]
  simp only [fetchVerdict, bind_eq_ok_iff, mapError_eq_ok_iff, decide_eq_true_eq]
  constructor
  · rintro ⟨expected, hexpected, actual, hactual, hjudged⟩
    split at hjudged
    · exact ⟨(Except.ok.inj hjudged).symm, expected, actual, hexpected, hactual, ‹_›⟩
    · cases hjudged
  · rintro ⟨rfl, expected, actual, hexpected, hactual, hsame⟩
    exact ⟨expected, hexpected, actual, hactual, if_pos hsame⟩

/-- **They are refused as a mismatch just if they verify as another content.** -/
theorem fetchVerdict_eq_mismatch_iff {expected actual : Cid} :
    fetchVerdict hash cid content = .error (.contentValidation expected actual) ↔
      expected = cid ∧ Dag.contentCid hash content = .ok actual ∧
        Dag.verify hash content cid = .ok false := by
  rw [Dag.verify_eq_ok_iff]
  simp only [fetchVerdict, bind_eq_error_iff, mapError_eq_error_iff, mapError_eq_ok_iff,
    reduceCtorEq, and_false, exists_false, false_or, decide_eq_false_iff_not]
  constructor
  · rintro ⟨key, hkey, found, hfound, hjudged⟩
    split at hjudged
    · cases hjudged
    · cases hjudged
      exact ⟨rfl, hfound, key, actual, hkey, hfound, ‹_›⟩
  · rintro ⟨rfl, hactual, key, found, hkey, hfound, hother⟩
    obtain rfl := Except.ok.inj (hactual.symm.trans hfound)
    exact ⟨key, hkey, actual, hactual, if_neg hother⟩

/-- **A report passes just if it is the identifier of the bytes**, in either version. -/
theorem uploadVerdict_eq_ok_iff {reported : Cid} :
    uploadVerdict hash content reported = .ok cid ↔
      reported.toV0 = .ok cid ∧ Dag.contentCid hash content = .ok cid := by
  simp only [uploadVerdict, bind_eq_ok_iff, mapError_eq_ok_iff]
  constructor
  · rintro ⟨expected, hexpected, normal, hnormal, hjudged⟩
    split at hjudged
    · rename_i hsame
      obtain rfl := Except.ok.inj hjudged
      exact ⟨hsame ▸ hnormal, hexpected⟩
    · cases hjudged
  · rintro ⟨hnormal, hexpected⟩
    exact ⟨cid, hexpected, cid, hnormal, if_pos rfl⟩

/-! ## Calls -/

theorem run_require {operation : Operation} (h : p.capabilities.supports operation) (s : σ) :
    (p.require operation).run.run s = (.ok (), s) := by
  rw [require, if_pos h]
  rfl

theorem run_require_of_not {operation : Operation} (h : ¬ p.capabilities.supports operation)
    (s : σ) : (p.require operation).run.run s = (.error (.unsupported p.name operation), s) := by
  rw [require, if_neg h]
  rfl

/-- The provider calls its backend for the bytes behind an identifier: reads are offered, and the
bytes can be judged. -/
def Asks (p : Provider σ) (cid : Cid) : Prop :=
  p.capabilities.supports .fetch ∧ cid.HasV0

instance (p : Provider σ) (cid : Cid) : Decidable (p.Asks cid) :=
  inferInstanceAs (Decidable (_ ∧ _))

/-- **A verified read is a call and a verdict.** -/
theorem run_fetch (h : p.verification = .enabled) (hasks : p.Asks cid) (s : σ) :
    (p.fetch hash cid).run.run s =
      (((p.backend.fetch cid).run.run s).1 >>= fetchVerdict hash cid,
        ((p.backend.fetch cid).run.run s).2) := by
  have hkey := Cid.toV0_of_hasV0 hasks.2
  have hverdict : ∀ bytes, (do
      let actual ← Action.contentCid hash bytes
      if actual = .v0 cid.digest then return bytes else throw (.contentValidation cid actual)) =
        (Action.ofExcept (fetchVerdict hash cid bytes) : Action σ ByteArray) := by
    intro bytes
    rw [fetchVerdict, hkey]
    exact ofExcept_bind fun actual => by split <;> rfl
  rw [Provider.fetch, run_bind_of_ok (run_require hasks.1 s), h]
  dsimp only
  rw [run_bind_of_ok (run_toV0 hkey s), run_bind]
  simp only [hverdict]
  rcases (p.backend.fetch cid).run.run s with ⟨e | bytes, t⟩ <;> rfl

/-- **A verified write is a call and a verdict.** -/
theorem run_upload (h : p.verification = .enabled) (hupload : p.capabilities.supports .upload)
    (s : σ) :
    (p.upload hash content name).run.run s =
      (((p.backend.upload content name).run.run s).1 >>= uploadVerdict hash content,
        ((p.backend.upload content name).run.run s).2) := by
  have hverdict : ∀ reported, (do
      let expected ← Action.contentCid hash content
      let normal ← Action.toV0 reported
      if normal = expected then return expected
      else throw (.contentValidation expected reported)) =
        (Action.ofExcept (uploadVerdict hash content reported) : Action σ Cid) := fun reported =>
    ofExcept_bind fun expected => ofExcept_bind fun normal => by split <;> rfl
  rw [Provider.upload, run_bind_of_ok (run_require hupload s), h, run_bind]
  dsimp only
  simp only [hverdict]
  rcases (p.backend.upload content name).run.run s with ⟨e | reported, t⟩ <;> rfl

/-! ## What reaches the backend -/

/-- Why a read does not reach the backend. -/
def refusal (p : Provider σ) (cid : Cid) : ProviderError :=
  if p.capabilities.supports .fetch then .identifier (.noV0Form cid.codec)
  else .unsupported p.name .fetch

theorem refusal_ne_mismatch (expected actual : Cid) :
    p.refusal cid ≠ .contentValidation expected actual := by
  rw [refusal]
  split <;> nofun

/-- **What is not asked for is refused**, and nothing happens. -/
theorem run_fetch_of_not_asks (h : p.verification = .enabled) (hasks : ¬ p.Asks cid) (s : σ) :
    (p.fetch hash cid).run.run s = (.error (p.refusal cid), s) := by
  by_cases hfetch : p.capabilities.supports .fetch
  · rw [Provider.fetch, run_bind_of_ok (run_require hfetch s), h, refusal, if_pos hfetch]
    dsimp only
    rw [run_bind, Action.toV0, Cid.toV0_of_not_hasV0 fun hcid => hasks ⟨hfetch, hcid⟩]
    rfl
  · rw [Provider.fetch, run_bind, run_require_of_not hfetch, refusal, if_neg hfetch]

theorem run_upload_of_not_supports (hupload : ¬ p.capabilities.supports .upload) (s : σ) :
    (p.upload hash content name).run.run s = (.error (.unsupported p.name .upload), s) := by
  rw [Provider.upload, run_bind, run_require_of_not hupload]

/-- The provider with its backend's calls written down. -/
def journaled (p : Provider σ) : Provider (σ × List Backend.Call) where
  backend := p.backend.journaled
  verification := p.verification

/-- **A verified read is one call to the backend, or none.** -/
theorem run_fetch_journaled (h : p.verification = .enabled) (s : σ) (calls : List Backend.Call) :
    (p.journaled.fetch hash cid).run.run (s, calls) =
      (((p.fetch hash cid).run.run s).1, (((p.fetch hash cid).run.run s).2,
        if p.Asks cid then calls ++ [.fetch cid] else calls)) := by
  have h' : p.journaled.verification = .enabled := h
  by_cases hasks : p.Asks cid
  · have hasks' : p.journaled.Asks cid := hasks
    rw [if_pos hasks, run_fetch h hasks, run_fetch h' hasks']
    rfl
  · have hasks' : ¬ p.journaled.Asks cid := hasks
    rw [if_neg hasks, run_fetch_of_not_asks h hasks, run_fetch_of_not_asks h' hasks']
    rfl

/-! ## What is vouched for -/

/-- **A read is answered just with bytes that verify.** -/
theorem fetch_eq_ok_iff (h : p.verification = .enabled) :
    ((p.fetch hash cid).run.run s).1 = .ok content ↔
      p.Asks cid ∧ ((p.backend.fetch cid).run.run s).1 = .ok content ∧
        Dag.verify hash content cid = .ok true := by
  by_cases hasks : p.Asks cid
  · rw [run_fetch h hasks, bind_eq_ok_iff]
    simp only [fetchVerdict_eq_ok_iff]
    constructor
    · rintro ⟨bytes, hbytes, rfl, hverify⟩
      exact ⟨hasks, hbytes, hverify⟩
    · rintro ⟨-, hbytes, hverify⟩
      exact ⟨content, hbytes, rfl, hverify⟩
  · rw [run_fetch_of_not_asks h hasks]
    exact ⟨nofun, fun hall => absurd hall.1 hasks⟩

/-- **A mismatch is reported just for bytes that do not verify**, or because the backend reported
one itself. -/
theorem fetch_eq_mismatch_iff (h : p.verification = .enabled) {expected actual : Cid} :
    ((p.fetch hash cid).run.run s).1 = .error (.contentValidation expected actual) ↔
      p.Asks cid ∧
        (((p.backend.fetch cid).run.run s).1 = .error (.contentValidation expected actual) ∨
          ∃ content, ((p.backend.fetch cid).run.run s).1 = .ok content ∧ expected = cid ∧
            Dag.contentCid hash content = .ok actual ∧
              Dag.verify hash content cid = .ok false) := by
  by_cases hasks : p.Asks cid
  · rw [run_fetch h hasks, bind_eq_error_iff]
    simp only [fetchVerdict_eq_mismatch_iff, hasks, true_and]
  · rw [run_fetch_of_not_asks h hasks]
    constructor
    · intro hrefused
      exact absurd (Except.error.inj hrefused) (refusal_ne_mismatch expected actual)
    · exact fun hall => absurd hall.1 hasks

/-- **A write is answered just with the identifier of the bytes**, if that was reported. -/
theorem upload_eq_ok_iff (h : p.verification = .enabled) :
    ((p.upload hash content name).run.run s).1 = .ok cid ↔
      p.capabilities.supports .upload ∧
        ∃ reported, ((p.backend.upload content name).run.run s).1 = .ok reported ∧
          reported.toV0 = .ok cid ∧ Dag.contentCid hash content = .ok cid := by
  by_cases hupload : p.capabilities.supports .upload
  · rw [run_upload h hupload, bind_eq_ok_iff]
    simp only [uploadVerdict_eq_ok_iff, hupload, true_and]
  · rw [run_upload_of_not_supports hupload]
    exact ⟨nofun, fun hall => absurd hall.1 hupload⟩

/-- **A backend that fails is not judged.** -/
theorem fetch_of_backend_error (h : p.verification = .enabled) (hasks : p.Asks cid)
    {e : ProviderError} (herror : ((p.backend.fetch cid).run.run s).1 = .error e) :
    ((p.fetch hash cid).run.run s).1 = .error e := by
  rw [run_fetch h hasks, herror]
  rfl

theorem upload_of_backend_error (h : p.verification = .enabled)
    (hupload : p.capabilities.supports .upload) {e : ProviderError}
    (herror : ((p.backend.upload content name).run.run s).1 = .error e) :
    ((p.upload hash content name).run.run s).1 = .error e := by
  rw [run_upload h hupload, herror]
  rfl

/-- **A verifying provider vouches for the content it hashed, and for all of it**, whatever the
backend says.  A read is answered with the bytes of the backend just if they verify, and fails as a
mismatch just if they do not or the backend failed so itself; the backend is called once, or not at
all where nothing could be judged.  A write is answered just with the identifier of the bytes, which
is of version 0, and just if the backend reported it in either version.  An error of the backend is
passed on, also for content that is too large to hash. -/
theorem vouches_for_hashed (hash : HashFunction) (p : Provider σ) (h : p.verification = .enabled) :
    (∀ cid s content, ((p.fetch hash cid).run.run s).1 = .ok content ↔
      p.Asks cid ∧ ((p.backend.fetch cid).run.run s).1 = .ok content ∧
        Dag.verify hash content cid = .ok true) ∧
    (∀ cid s actual, ((p.fetch hash cid).run.run s).1 = .error (.contentValidation cid actual) ↔
      p.Asks cid ∧
        (((p.backend.fetch cid).run.run s).1 = .error (.contentValidation cid actual) ∨
          ∃ content, ((p.backend.fetch cid).run.run s).1 = .ok content ∧
            Dag.contentCid hash content = .ok actual ∧
              Dag.verify hash content cid = .ok false)) ∧
    (∀ cid s calls, (p.journaled.fetch hash cid).run.run (s, calls) =
      (((p.fetch hash cid).run.run s).1, (((p.fetch hash cid).run.run s).2,
        if p.Asks cid then calls ++ [.fetch cid] else calls))) ∧
    (∀ content name s cid, ((p.upload hash content name).run.run s).1 = .ok cid ↔
      p.capabilities.supports .upload ∧ content.size ≤ Dag.maxContentLength ∧
        ∃ reported, ((p.backend.upload content name).run.run s).1 = .ok reported ∧
          reported.HasV0 ∧ reported.toV0 = .ok cid ∧ Dag.contentCid hash content = .ok cid) ∧
    (∀ content name s cid, ((p.upload hash content name).run.run s).1 = .ok cid →
      cid.version = 0) ∧
    (∀ cid s e, p.Asks cid → ((p.backend.fetch cid).run.run s).1 = .error e →
      ((p.fetch hash cid).run.run s).1 = .error e) ∧
    (∀ content name s e, p.capabilities.supports .upload →
      ((p.backend.upload content name).run.run s).1 = .error e →
        ((p.upload hash content name).run.run s).1 = .error e) := by
  refine ⟨fun cid s content => fetch_eq_ok_iff h, fun cid s actual => ?_,
    fun cid s calls => run_fetch_journaled h s calls, fun content name s cid => ?_,
    fun content name s cid hok => ?_, fun cid s e hasks => fetch_of_backend_error h hasks,
    fun content name s e hupload => upload_of_backend_error h hupload⟩
  · simp only [fetch_eq_mismatch_iff h, true_and]
  · rw [upload_eq_ok_iff h]
    constructor
    · rintro ⟨hupload, reported, hreported, hnormal, hcid⟩
      exact ⟨hupload, Dag.size_le_of_contentCid hcid, reported, hreported,
        (Cid.toV0_eq_ok_iff.mp hnormal).1, hnormal, hcid⟩
    · rintro ⟨hupload, -, reported, hreported, -, hnormal, hcid⟩
      exact ⟨hupload, reported, hreported, hnormal, hcid⟩
  · obtain ⟨-, -, -, -, hcid⟩ := (upload_eq_ok_iff h).mp hok
    exact Dag.version_of_contentCid hcid

/-- A backend that serves three bytes for everything and reports one identifier for everything. -/
def threeBytes : Provider Script where
  backend := Script.backend Sha256.digest "three bytes" .full
  verification := .enabled

/-- What it plays. -/
def threeBytesScript : Script where
  fetches := [fun _ => .ok ⟨#[1, 2, 3]⟩]
  uploads := [fun _ => .ok (.v0 Digest.zero)]
  pins := []

theorem vouches_for_hashed_threeBytes :
    threeBytes.verification = .enabled ∧ ∃ key,
      ((threeBytes.fetch Sha256.digest (.v0 key)).run.run threeBytesScript).1 =
        .ok ⟨#[1, 2, 3]⟩ ∧
      ((threeBytes.fetch Sha256.digest (.v1 .dagPb Digest.zero)).run.run threeBytesScript).1 =
        .error (.contentValidation (.v1 .dagPb Digest.zero) (.v0 key)) ∧
      ((threeBytes.journaled.fetch Sha256.digest (.v1 .raw key)).run.run
        (threeBytesScript, [])).2.2 = [] ∧
      ∀ cid, ((threeBytes.upload Sha256.digest ⟨#[1, 2, 3]⟩ none).run.run threeBytesScript).1 ≠
        .ok cid := by
  obtain ⟨hanswered, hmismatch, hcalls, hwritten, -⟩ :=
    vouches_for_hashed Sha256.digest threeBytes rfl
  obtain ⟨key, hkey⟩ := Dag.exists_contentCid_of_le Sha256.digest
    (by decide : ByteArray.size ⟨#[1, 2, 3]⟩ ≤ Dag.maxContentLength)
  have hother : key ≠ Digest.zero := by
    rintro rfl
    exact absurd hkey (by decide +kernel)
  refine ⟨rfl, key, (hanswered _ _ _).mpr ⟨⟨rfl, rfl⟩, rfl, ?_⟩,
    (hmismatch _ _ _).mpr ⟨⟨rfl, rfl⟩, .inr ⟨⟨#[1, 2, 3]⟩, rfl, hkey, ?_⟩⟩, ?_, ?_⟩
  · exact Dag.verify_eq_ok_iff.mpr ⟨_, _, rfl, hkey, decide_eq_true rfl⟩
  · exact Dag.verify_eq_ok_iff.mpr ⟨_, _, rfl, hkey,
      decide_eq_false fun hsame => hother (Cid.v0.inj hsame)⟩
  · have hasks : ¬ threeBytes.Asks (.v1 .raw key) := fun hasks => nomatch hasks.2
    rw [hcalls, if_neg hasks]
  · intro cid hok
    obtain ⟨-, -, reported, hreported, -, hnormal, hcid⟩ := (hwritten _ _ _ _).mp hok
    obtain rfl : Cid.v0 Digest.zero = reported := Except.ok.inj hreported
    obtain rfl : Cid.v0 Digest.zero = cid := Except.ok.inj hnormal
    exact hother (Cid.v0.inj (Except.ok.inj (hkey.symm.trans hcid)))

end Provider

end AddressedStorage
