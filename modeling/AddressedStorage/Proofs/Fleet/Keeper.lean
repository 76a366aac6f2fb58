import AddressedStorage.Proofs.Fleet.Consensus
import AddressedStorage.Proofs.Fleet.Run
import AddressedStorage.Proofs.Provider.Memory

/-!
# Proofs/Fleet/Keeper — one provider that keeps what it is given

A verified store in memory takes every upload (`Provider.Stores.run_publish`) and answers for what
it holds (`Provider.Stores.run_fetch`).  Where all providers are verified, one that does so is enough:
an upload to all is answered with the identifier that one gives, because verification lets no other
answer pass (`run_publishAll_of_taken`), and a read cannot fail, because it would have given up that one
as well (`run_fetch_of_served`).
-/

namespace AddressedStorage

variable {σ : Type} {hash : HashFunction} {cid key : Cid} {content : ByteArray}

/-! ## A store on a part of the state -/

namespace Provider

/-- The provider is a verified store in memory on a part of the state. -/
structure Stores (hash : HashFunction) (get : σ → Memory) (put : Memory → σ → σ) (p : Provider σ) :
    Prop where
  verified : p.verification = .enabled
  backend_eq : ∃ name, p.backend = (Memory.backend hash name).zoom get put
  get_put : ∀ m s, get (put m s) = m

namespace Stores

variable {get : σ → Memory} {put : Memory → σ → σ} {p : Provider σ} {s : σ}

/-- A store offers everything. -/
theorem supports (h : p.Stores hash get put) (operation : Operation) :
    p.capabilities.supports operation := by
  obtain ⟨name, hbackend⟩ := h.backend_eq
  rw [capabilities, hbackend]
  cases operation <;> rfl

/-- What stores preserve is preserved on the part. -/
theorem preserves (h : p.Stores hash get put) {P : Memory → Prop}
    (hP : ∀ name, (Memory.backend hash name).Preserves P) :
    p.backend.Preserves fun s => P (get s) := by
  obtain ⟨name, hbackend⟩ := h.backend_eq
  rw [hbackend]
  exact (hP name).zoom h.get_put

/-- **A store answers for what it holds.** -/
theorem run_fetch (h : p.Stores hash get put) (hkey : cid.toV0 = .ok key)
    (hs : (get s).Holds hash key) :
    ∃ content t, (p.fetch hash cid).run.run s = (.ok content, t) := by
  obtain ⟨content, hfind⟩ := Option.isSome_iff_exists.mp hs.2
  obtain ⟨name, hbackend⟩ := h.backend_eq
  refine ⟨content, put (get s) s, run_fetch_of_backend h.verified (h.supports .fetch) hkey
    (hs.1 key content hfind) ?_⟩
  rw [hbackend]
  exact congrArg (fun r => (r.1, put r.2 s)) (Memory.run_fetch hkey hfind)

/-- **A store takes every upload**, and holds it from then on. -/
theorem run_publish (h : p.Stores hash get put) (hkey : key.toV0 = .ok key)
    (hcontent : Dag.contentCid hash content = .ok key) (name : Option String)
    (hs : (get s).Sound hash) :
    ((p.publish hash content name).run.run s).1 = .ok key ∧
      (get ((p.publish hash content name).run.run s).2).Holds hash key := by
  obtain ⟨label, hbackend⟩ := h.backend_eq
  have hupload : (p.backend.upload content name).run.run s =
      (.ok key, put ((get s).insertNew key content) s) := by
    rw [hbackend]
    exact congrArg (fun r => (r.1, put r.2 s)) (Memory.run_upload hcontent (get s))
  obtain ⟨hok, hkeeps⟩ := run_publish_of_upload
    (run_upload_of_backend h.verified (h.supports .upload) hkey hcontent hupload)
  refine ⟨hok, hkeeps _ (h.preserves fun name => Memory.preserves_holds hash name key) ?_⟩
  rw [h.get_put]
  exact hs.holds_insertNew hcontent

end Stores

end Provider

/-! ## One such provider among others -/

namespace Fleet

variable {fleet : Fleet σ} {P Q : σ → Prop} {keeper : Fin fleet.size}
  {x : Session σ fleet.size}

variable (hverified : ∀ i, (fleet.provider i).verification = .enabled)

include hverified

/-- **What one provider takes is answered with its identifier**, whatever the others say. -/
theorem run_publishAll_of_taken {name : Option String}
    (hP : ∀ i, (fleet.provider i).backend.Preserves P)
    (hQ : ∀ i, (fleet.provider i).backend.Preserves Q)
    (hcontent : Dag.contentCid hash content = .ok key)
    (htakes : ∀ s, P s → (((fleet.provider keeper).publish hash content name).run.run s).1 = .ok key ∧
      Q (((fleet.provider keeper).publish hash content name).run.run s).2) (hx : P x.2) :
    ∃ r y, (fleet.publishAll hash content name).run.run x = (.ok r, (x.1, y)) ∧ r.cid = key ∧
      Q y := by
  have hready := publishAt_preserves hash hP content name
  have hkept := publishAt_preserves hash hQ content name
  obtain ⟨houtcomes, -⟩ := Preserves.mapM hready (List.finRange fleet.size) x.2 hx
  have hend := Preserves.mapM_of_mem hready hkept (List.mem_finRange keeper)
    (fun s hs => (htakes s hs).2) x.2 hx
  -- The keeper reports the identifier, so some provider does.
  obtain ⟨o, ho, t, ht, hanswer⟩ :=
    exists_right_of_forall₂ houtcomes keeper (List.mem_finRange keeper)
  obtain ⟨r, hr⟩ : ∃ r, Consensus.decide fleet.size _ = .ok r :=
    Consensus.exists_decide_of_ok ho
      ((congrArg PublishOutcome.result hanswer).symm.trans (htakes t ht).1)
  -- Whoever reports one, reports this one.
  obtain ⟨o', ho', hreport⟩ := Consensus.exists_ok_of_decide hr
  obtain ⟨i, -, u, hu, hanswer'⟩ := exists_left_of_forall₂ houtcomes o' ho'
  have hcid : Dag.contentCid hash content = .ok r.cid :=
    Provider.ensures_publish hash (hverified i) content name u r.cid
      ((congrArg PublishOutcome.result hanswer').trans hreport)
  refine ⟨r, _, congrArg (fun result => (result, (x.1, _))) hr, ?_, hend⟩
  exact Except.ok.inj (hcid.symm.trans hcontent)

theorem run_publish_of_taken {name : Option String}
    (hP : ∀ i, (fleet.provider i).backend.Preserves P)
    (hQ : ∀ i, (fleet.provider i).backend.Preserves Q)
    (hcontent : Dag.contentCid hash content = .ok key)
    (htakes : ∀ s, P s → (((fleet.provider keeper).publish hash content name).run.run s).1 = .ok key ∧
      Q (((fleet.provider keeper).publish hash content name).run.run s).2) (hx : P x.2) :
    ∃ y, (fleet.publish hash content name).run.run x = (.ok key, (x.1, y)) ∧ Q y := by
  obtain ⟨r, y, hrun, rfl, hy⟩ := run_publishAll_of_taken hverified hP hQ hcontent htakes hx
  exact ⟨y, run_bind_of_ok hrun, hy⟩

/-- **What one provider serves is answered**, with bytes that hash to the identifier. -/
theorem run_fetch_of_served (hQ : ∀ i, (fleet.provider i).backend.Preserves Q)
    (hkey : cid.toV0 = .ok key)
    (hserves : ∀ s, Q s → ∃ content t,
      ((fleet.provider keeper).fetch hash cid).run.run s = (.ok content, t))
    (frame : Frame) (hsettled : x.1.Settled) (hx : Q x.2) :
    ∃ content, ((fleet.fetch hash cid frame).run.run x).1 = .ok content ∧
      Dag.contentCid hash content = .ok key := by
  obtain ⟨visits, result, y, hrun, hwalked⟩ := fetch_walked hash fleet cid frame hsettled
  obtain ⟨-, hasked⟩ := hwalked.made.preserves hQ hx
  rw [hrun]
  cases result with
  | error e =>
    -- The keeper was given up as well, but it answers.
    obtain ⟨v, hv, rfl⟩ := hwalked.exists_visit rfl keeper
    obtain ⟨last, hlast⟩ := hwalked.ends.givenUp_of_error rfl v hv
    obtain ⟨u, hu, hanswer⟩ := hasked _ (List.mem_flatMap.mpr ⟨v, hv, hlast.mem_attempts⟩)
    obtain ⟨content, t, hfetch⟩ := hserves u hu
    cases (congrArg Prod.fst hfetch).symm.trans hanswer
  | ok content =>
    obtain ⟨v, hv, hlast⟩ := hwalked.ends.exists_answered_of_ok rfl
    obtain ⟨u, -, hanswer⟩ := hasked _ (List.mem_flatMap.mpr ⟨v, hv, hlast.mem_attempts⟩)
    obtain ⟨expected, hexpected, hcontent⟩ :=
      Provider.ensures_fetch hash (hverified v.place) cid u content hanswer
    obtain rfl : expected = key := Except.ok.inj (hexpected.symm.trans hkey)
    exact ⟨content, rfl, hcontent⟩

end Fleet

end AddressedStorage
