import AddressedStorage.Proofs.Provider.Verdict

/-!
# Proofs/Provider/Verified — what verification leaves of a backend

A provider calls its backend or leaves the state alone, so it preserves what the backend preserves
(`Backend.Preserves.fetch_provider`, `Backend.Preserves.publish_provider`).  Under verification
nothing the backend says is taken on trust: fetched bytes hash to the identifier asked for
(`ensures_fetch`), and an upload is answered with the identifier of the bytes (`ensures_publish`).
An honest answer passes (`run_fetch_of_backend`, `run_upload_of_backend`).
-/

namespace AddressedStorage

variable {σ : Type}

/-- A step of which it is forgotten whether it failed. -/
theorem run_attempt (x : Action σ Unit) (s : σ) :
    (Provider.attempt x).run.run s = (.ok (), (x.run.run s).2) := by
  rw [Provider.attempt, ExceptT.run_tryCatch, StateT.run_bind]
  rcases x.run.run s with ⟨e | a, t⟩ <;> rfl

/-! ## What is preserved -/

theorem Preserves.attempt {P : σ → Prop} {x : Action σ Unit} (hx : Preserves P x) :
    Preserves P (Provider.attempt x) := by
  intro s hs
  rw [run_attempt]
  exact hx s hs

variable {P : σ → Prop} {p : Provider σ} (hash : HashFunction)

theorem Preserves.require (operation : Operation) : Preserves P (p.require operation) := by
  rw [Provider.require]
  split
  · exact ret ()
  · exact fail _

/-- **Reading through a provider preserves what its backend preserves.** -/
theorem Backend.Preserves.fetch_provider (h : p.backend.Preserves P) (cid : Cid) :
    AddressedStorage.Preserves P (p.fetch hash cid) := by
  refine .bind (.require _) fun _ => ?_
  cases p.verification with
  | disabled => exact h.fetch cid
  | enabled =>
    refine .bind (.ofExcept _) fun expected => .bind (h.fetch cid) fun content =>
      .bind (.ofExcept _) fun actual => ?_
    split
    · exact .ret content
    · exact .fail _

theorem Backend.Preserves.upload_provider (h : p.backend.Preserves P) (content : ByteArray)
    (name : Option String) : AddressedStorage.Preserves P (p.upload hash content name) := by
  refine .bind (.require _) fun _ => .bind (h.upload content name) fun reported => ?_
  cases p.verification with
  | disabled => exact .ret _
  | enabled =>
    refine .bind (.ofExcept _) fun expected => .bind (.ofExcept _) fun normal => ?_
    split
    · exact .ret expected
    · exact .fail _

/-- **So does writing.** -/
theorem Backend.Preserves.publish_provider (h : p.backend.Preserves P) (content : ByteArray)
    (name : Option String) : AddressedStorage.Preserves P (p.publish hash content name) := by
  refine .bind (h.upload_provider hash content name) fun cid => ?_
  split
  · exact .bind (.attempt (h.pin cid)) fun _ => .ret cid
  · exact .ret cid

/-! ## What is ensured -/

namespace Provider

/-- **Verified bytes hash to the identifier asked for.** -/
theorem ensures_fetch (h : p.verification = .enabled) (cid : Cid) :
    Ensures (fun content => ∃ key, cid.toV0 = .ok key ∧ Dag.contentCid hash content = .ok key)
      (p.fetch hash cid) := by
  intro s content hok
  obtain ⟨-, -, hverify⟩ := (fetch_eq_ok_iff h).mp hok
  obtain ⟨expected, actual, hexpected, hactual, hsame⟩ := Dag.verify_eq_ok_iff.mp hverify
  obtain rfl : actual = expected := of_decide_eq_true hsame
  exact ⟨actual, hexpected, hactual⟩

theorem ensures_upload (h : p.verification = .enabled) (content : ByteArray)
    (name : Option String) :
    Ensures (fun cid => Dag.contentCid hash content = .ok cid) (p.upload hash content name) := by
  intro s cid hok
  obtain ⟨-, reported, -, -, hcid⟩ := (upload_eq_ok_iff h).mp hok
  exact hcid

/-- **A verified upload is answered with the identifier of the bytes.** -/
theorem ensures_publish (h : p.verification = .enabled) (content : ByteArray)
    (name : Option String) :
    Ensures (fun cid => Dag.contentCid hash content = .ok cid) (p.publish hash content name) := by
  refine .bind (ensures_upload hash h content name) fun cid hcid => ?_
  split
  · exact .bind (.any _) fun _ _ => .ret hcid
  · exact .ret hcid

/-! ## Honest answers -/

variable {hash} {s t : σ} {cid key : Cid} {content : ByteArray}

/-- **Bytes that hash to the identifier asked for pass.** -/
theorem run_fetch_of_backend (h : p.verification = .enabled)
    (hfetch : p.capabilities.supports .fetch) (hkey : cid.toV0 = .ok key)
    (hcontent : Dag.contentCid hash content = .ok key)
    (hrun : (p.backend.fetch cid).run.run s = (.ok content, t)) :
    (p.fetch hash cid).run.run s = (.ok content, t) := by
  have hverify : Dag.verify hash content cid = .ok true :=
    Dag.verify_eq_ok_iff.mpr ⟨key, key, hkey, hcontent, decide_eq_true rfl⟩
  have hpasses : fetchVerdict hash cid content = .ok content :=
    fetchVerdict_eq_ok_iff.mpr ⟨rfl, hverify⟩
  rw [run_fetch h ⟨hfetch, (Cid.toV0_eq_ok_iff.mp hkey).1⟩, hrun]
  exact congrArg (fun r => (r, t)) hpasses

/-- **A report of the identifier the bytes hash to passes.** -/
theorem run_upload_of_backend (h : p.verification = .enabled)
    (hupload : p.capabilities.supports .upload) {name : Option String} (hkey : cid.toV0 = .ok key)
    (hcontent : Dag.contentCid hash content = .ok key)
    (hrun : (p.backend.upload content name).run.run s = (.ok cid, t)) :
    (p.upload hash content name).run.run s = (.ok key, t) := by
  have hpasses : uploadVerdict hash content cid = .ok key :=
    uploadVerdict_eq_ok_iff.mpr ⟨hkey, hcontent⟩
  rw [run_upload h hupload, hrun]
  exact congrArg (fun r => (r, t)) hpasses

/-- **An upload that passes is published**, whatever comes of the pin. -/
theorem run_publish_of_upload {name : Option String}
    (hrun : (p.upload hash content name).run.run s = (.ok key, t)) :
    ((p.publish hash content name).run.run s).1 = .ok key ∧
      ∀ P : σ → Prop, p.backend.Preserves P → P t →
        P ((p.publish hash content name).run.run s).2 := by
  rw [Provider.publish, run_bind_of_ok hrun]
  split
  · rw [run_bind_of_ok (run_attempt _ t)]
    exact ⟨rfl, fun P hP ht => hP.pin key t ht⟩
  · exact ⟨rfl, fun _ _ ht => ht⟩

variable (hash p) in
/-- The provider offers uploads, and the backend reports, in either version, the identifier the bytes
hash to. -/
def Passes (content : ByteArray) (name : Option String) (s : σ) : Prop :=
  p.capabilities.supports .upload ∧ ∃ reported key t,
    (p.backend.upload content name).run.run s = (.ok reported, t) ∧ reported.toV0 = .ok key ∧
      Dag.contentCid hash content = .ok key

theorem passes_of_run_upload (h : p.verification = .enabled) {name : Option String}
    (hrun : (p.upload hash content name).run.run s = (.ok key, t)) :
    p.Passes hash content name s := by
  obtain ⟨hsupports, reported, hreported, hkey, hcontent⟩ :=
    (upload_eq_ok_iff h).mp (congrArg Prod.fst hrun)
  exact ⟨hsupports, reported, key, _, Prod.ext hreported rfl, hkey, hcontent⟩

/-- **Just the uploads that pass are answered**, whatever comes of the pin. -/
theorem exists_publish_ok_iff (h : p.verification = .enabled) {name : Option String} :
    (∃ key, ((p.publish hash content name).run.run s).1 = .ok key) ↔
      p.Passes hash content name s := by
  constructor
  · rintro ⟨key, hpublish⟩
    obtain ⟨key', t, hupload, -⟩ := exists_of_run_bind_ok hpublish
    exact passes_of_run_upload h hupload
  · rintro ⟨hsupports, reported, key, t, hreported, hkey, hcontent⟩
    exact ⟨key, (run_publish_of_upload
      (run_upload_of_backend h hsupports hkey hcontent hreported)).1⟩

end Provider

end AddressedStorage
