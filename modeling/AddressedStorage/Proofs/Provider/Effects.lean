import AddressedStorage.Proofs.Provider.Verified

/-!
# Proofs/Provider/Effects — which calls reach a backend

A step on a backend whose calls are written down does what it does on the backend itself, and adds
its calls to the journal (`Journals`): one rule for each way a step is put together.  So what an
operation of a provider delivers is known from its answer (`Provider.calls`), and in a run of
operations nothing that the capabilities deny is delivered (`Provider.supports_of_mem_after`).
-/

namespace AddressedStorage

open Backend (Call)

variable {σ α β : Type}

/-! ## Journals -/

/-- In a state `s` a step comes to the same if its calls are written down, and these are `calls`. -/
def Journals (x : Action σ α) (y : Action (σ × List Call) α) (s : σ) (calls : List Call) : Prop :=
  ∀ journal, y.run.run (s, journal) = ((x.run.run s).1, ((x.run.run s).2, journal ++ calls))

namespace Journals

variable {x : Action σ α} {y : Action (σ × List Call) α} {f : α → Action σ β}
  {g : α → Action (σ × List Call) β} {s t : σ} {calls later : List Call}

theorem ofExcept (r : Except ProviderError α) (s : σ) :
    Journals (Action.ofExcept r : Action σ α) (Action.ofExcept r) s [] :=
  fun journal => congrArg (fun calls => (r, (s, calls))) (List.append_nil journal).symm

theorem note (call : Call) (x : Action σ α) (s : σ) : Journals x (Backend.note call x) s [call] :=
  fun _ => rfl

theorem require (p : Provider σ) (operation : Operation) (s : σ) :
    Journals (p.require operation) (p.journaled.require operation) s [] := by
  intro journal
  have hjournaled : p.journaled.capabilities = p.capabilities := rfl
  rw [Provider.require, Provider.require, hjournaled, List.append_nil]
  split <;> rfl

/-- What follows an answer adds its calls. -/
theorem bind_of_ok {a : α} (h : Journals x y s calls) (hrun : x.run.run s = (.ok a, t))
    (hnext : Journals (f a) (g a) t later) :
    Journals (x >>= f) (y >>= g) s (calls ++ later) := by
  intro journal
  have hy : y.run.run (s, journal) = (.ok a, (t, journal ++ calls)) := by rw [h journal, hrun]
  rw [run_bind_of_ok hy, run_bind_of_ok hrun, hnext, List.append_assoc]

/-- Nothing follows a failure. -/
theorem bind_of_error {e : ProviderError} (h : Journals x y s calls)
    (hrun : x.run.run s = (.error e, t)) : Journals (x >>= f) (y >>= g) s calls := by
  intro journal
  rw [run_bind, run_bind, h journal, hrun]

/-- What follows may add no calls. -/
theorem bind_silent (h : Journals x y s calls) (hnext : ∀ a t, Journals (f a) (g a) t []) :
    Journals (x >>= f) (y >>= g) s calls := by
  rcases hrun : x.run.run s with ⟨e | a, t⟩
  · exact h.bind_of_error hrun
  · exact List.append_nil calls ▸ h.bind_of_ok hrun (hnext a t)

/-- A failure that does not matter. -/
theorem attempt {x : Action σ Unit} {y : Action (σ × List Call) Unit} (h : Journals x y s calls) :
    Journals (Provider.attempt x) (Provider.attempt y) s calls := by
  intro journal
  rw [run_attempt, run_attempt, h journal]

end Journals

/-! ## One operation -/

namespace Provider

/-- An operation of a provider, with what it is about. -/
inductive Step where
  | fetch (cid : Cid)
  | upload (content : ByteArray) (name : Option String)
  | pin (cid : Cid)
  | publish (content : ByteArray) (name : Option String)

variable (hash : HashFunction) (p : Provider σ)

/-- The state that an operation leaves, whatever it answers. -/
def next (s : σ) : Step → σ
  | .fetch cid => ((p.fetch hash cid).run.run s).2
  | .upload content name => ((p.upload hash content name).run.run s).2
  | .pin cid => ((p.pin cid).run.run s).2
  | .publish content name => ((p.publish hash content name).run.run s).2

/-- The pin that belongs to the answer of an upload. -/
def pinOf : Except ProviderError Cid → List Call
  | .ok cid => if p.pinsSeparately then [.pin cid] else []
  | .error _ => []

/-- The calls that an operation delivers to the backend. -/
def calls (s : σ) : Step → List Call
  | .fetch cid =>
    if p.capabilities.supports .fetch ∧ (p.verification = .enabled → cid.HasV0) then [.fetch cid]
    else []
  | .upload content name =>
    if p.capabilities.supports .upload then [.upload content name] else []
  | .pin cid => if p.capabilities.supports .pin then [.pin cid] else []
  | .publish content name =>
    if p.capabilities.supports .upload then
      .upload content name :: p.pinOf ((p.upload hash content name).run.run s).1
    else []

variable {p} {s : σ} {x : Action σ α} {y : Action (σ × List Call) α}

/-- Behind a check there are calls just if it passes. -/
theorem journals_require {operation : Operation} {calls : List Call} (h : Journals x y s calls) :
    Journals (p.require operation >>= fun _ => x) (p.journaled.require operation >>= fun _ => y) s
      (if p.capabilities.supports operation then calls else []) := by
  have hcheck := Journals.require p operation s
  split
  · exact hcheck.bind_of_ok (run_require ‹_› s) h
  · exact hcheck.bind_of_error (run_require_of_not ‹_› s)

variable {hash}

theorem journals_fetch (cid : Cid) (s : σ) :
    Journals (p.fetch hash cid) (p.journaled.fetch hash cid) s (p.calls hash s (.fetch cid)) := by
  have hcall : Journals (p.backend.fetch cid) (p.journaled.backend.fetch cid) s [.fetch cid] :=
    .note _ _ s
  rw [calls, ite_and]
  refine journals_require ?_
  have hverification : p.journaled.verification = p.verification := rfl
  rw [hverification]
  cases p.verification with
  | disabled => exact hcall
  | enabled =>
    have hkey := Journals.ofExcept (cid.toV0.mapError .identifier) s
    by_cases hcid : cid.HasV0
    · rw [if_pos fun _ => hcid]
      refine hkey.bind_of_ok (run_toV0 (Cid.toV0_of_hasV0 hcid) s) (hcall.bind_silent ?_)
      refine fun content t => (Journals.ofExcept _ t).bind_silent fun actual t => ?_
      split
      · exact .ofExcept (.ok content) t
      · exact .ofExcept (.error _) t
    · -- The identifier is judged before the backend is called.
      rw [if_neg fun h => hcid (h rfl)]
      refine hkey.bind_of_error (e := .identifier (.noV0Form cid.codec)) (t := s) ?_
      rw [Action.toV0, Cid.toV0_of_not_hasV0 hcid]
      rfl

theorem journals_upload (content : ByteArray) (name : Option String) (s : σ) :
    Journals (p.upload hash content name) (p.journaled.upload hash content name) s
      (p.calls hash s (.upload content name)) := by
  have hcall : Journals (p.backend.upload content name) (p.journaled.backend.upload content name) s
    [.upload content name] := .note _ _ s
  refine journals_require (hcall.bind_silent fun reported t => ?_)
  have hverification : p.journaled.verification = p.verification := rfl
  rw [hverification]
  cases p.verification with
  | disabled => exact .ofExcept (.ok reported.normal) t
  | enabled =>
    refine (Journals.ofExcept _ t).bind_silent fun expected t =>
      (Journals.ofExcept _ t).bind_silent fun normal t => ?_
    split
    · exact .ofExcept (.ok expected) t
    · exact .ofExcept (.error _) t

theorem journals_pin (cid : Cid) (s : σ) :
    Journals (p.pin cid) (p.journaled.pin cid) s (p.calls hash s (.pin cid)) :=
  journals_require (.note _ _ s)

theorem journals_publish (content : ByteArray) (name : Option String) (s : σ) :
    Journals (p.publish hash content name) (p.journaled.publish hash content name) s
      (p.calls hash s (.publish content name)) := by
  have hupload : Journals (p.upload hash content name) (p.journaled.upload hash content name) s
    (p.calls hash s (.upload content name)) := journals_upload content name s
  by_cases hsupports : p.capabilities.supports .upload
  · rw [calls, if_pos hsupports] at hupload
    rw [calls, if_pos hsupports]
    rcases hrun : (p.upload hash content name).run.run s with ⟨e | cid, t⟩
    · exact hupload.bind_of_error hrun
    · refine hupload.bind_of_ok hrun ?_
      have hpins : p.journaled.pinsSeparately = p.pinsSeparately := rfl
      rw [hpins]
      change Journals _ _ t (if p.pinsSeparately then [.pin cid] else [])
      split
      · have hpin : Journals (p.backend.pin cid) (p.journaled.backend.pin cid) t [.pin cid] :=
          .note _ _ t
        exact hpin.attempt.bind_silent fun _ => .ofExcept (.ok cid)
      · exact .ofExcept (.ok cid) t
  · rw [calls, if_neg hsupports] at hupload
    rw [calls, if_neg hsupports]
    exact hupload.bind_of_error (run_upload_of_not_supports hsupports s)

/-- **Every operation delivers its calls**, and writing them down changes nothing. -/
theorem next_journaled (s : σ) (journal : List Call) (step : Step) :
    p.journaled.next hash (s, journal) step =
      (p.next hash s step, journal ++ p.calls hash s step) := by
  cases step with
  | fetch cid => exact congrArg Prod.snd (journals_fetch cid s journal)
  | upload content name => exact congrArg Prod.snd (journals_upload content name s journal)
  | pin cid => exact congrArg Prod.snd (journals_pin cid s journal)
  | publish content name => exact congrArg Prod.snd (journals_publish content name s journal)

/-! ## Only what is offered -/

/-- A pin of its own is made only where pins are offered. -/
theorem supports_of_mem_pinOf {r : Except ProviderError Cid} {call : Call} (h : call ∈ p.pinOf r) :
    p.capabilities.supports call.operation := by
  cases r with
  | error e => cases h
  | ok cid =>
    obtain ⟨hpins, hcall⟩ := List.mem_ite_nil_right.mp h
    exact List.mem_singleton.mp hcall ▸ (Bool.and_eq_true_iff.mp hpins).1

/-- **An operation delivers only what is offered.** -/
theorem supports_of_mem_calls {step : Step} {call : Call} (h : call ∈ p.calls hash s step) :
    p.capabilities.supports call.operation := by
  cases step with
  | fetch cid =>
    obtain ⟨⟨hsupports, -⟩, hcall⟩ := List.mem_ite_nil_right.mp h
    exact List.mem_singleton.mp hcall ▸ hsupports
  | upload content name =>
    obtain ⟨hsupports, hcall⟩ := List.mem_ite_nil_right.mp h
    exact List.mem_singleton.mp hcall ▸ hsupports
  | pin cid =>
    obtain ⟨hsupports, hcall⟩ := List.mem_ite_nil_right.mp h
    exact List.mem_singleton.mp hcall ▸ hsupports
  | publish content name =>
    obtain ⟨hsupports, hcall⟩ := List.mem_ite_nil_right.mp h
    rcases List.mem_cons.mp hcall with rfl | hpin
    · exact hsupports
    · exact supports_of_mem_pinOf hpin

/-- The state after any operations. -/
def after (hash : HashFunction) (p : Provider σ) (steps : List Step) (s : σ) : σ :=
  steps.foldl (p.next hash) s

/-- **So do any operations in a row.** -/
theorem supports_of_mem_after (steps : List Step) (x : σ × List Call)
    (h : ∀ call ∈ x.2, p.capabilities.supports call.operation) :
    ∀ call ∈ (p.journaled.after hash steps x).2, p.capabilities.supports call.operation := by
  induction steps generalizing x with
  | nil => exact h
  | cons step steps ih =>
    refine ih (p.journaled.next hash x step) fun call hcall => ?_
    rw [next_journaled, List.mem_append] at hcall
    exact hcall.elim (h call) supports_of_mem_calls

/-! ## Publishing -/

/-- **Whatever comes of a pin, publishing answers what the upload answers.** -/
theorem publish_eq_upload (content : ByteArray) (name : Option String) (s : σ) :
    ((p.publish hash content name).run.run s).1 = ((p.upload hash content name).run.run s).1 := by
  rcases hrun : (p.upload hash content name).run.run s with ⟨e | cid, t⟩
  · rw [publish, run_bind, hrun]
  · exact (run_publish_of_upload hrun).1

/-- **What publishing does to a backend**, in either mode.  Where no upload is offered it delivers
nothing.  Elsewhere it delivers the upload, and then a pin of the identifier that is answered, just
if there is one and a pin takes a call of its own.  It answers as the upload does, whatever the pin
may be; and no operations in a row deliver what the capabilities deny. -/
theorem publish_delivers (hash : HashFunction) (p : Provider σ) :
    (∀ content name s journal,
      let upload := (p.upload hash content name).run.run s
      let publish := (p.publish hash content name).run.run s
      ∃ calls, (p.journaled.publish hash content name).run.run (s, journal) =
          (upload.1, (publish.2, journal ++ calls)) ∧
        (¬ p.capabilities.supports .upload → calls = []) ∧
        (p.capabilities.supports .upload →
          ((∀ e, upload.1 = .error e → calls = [.upload content name]) ∧
            ∀ cid, upload.1 = .ok cid → calls =
              if p.capabilities.supports .pin ∧ ¬ p.capabilities.pinsOnUpload then
                [.upload content name, .pin cid]
              else [.upload content name]))) ∧
    (∀ content name s (pin : Cid → Action σ Unit),
      (((⟨{ p.backend with pin }, p.verification⟩ : Provider σ).publish hash content name).run.run
        s).1 = ((p.upload hash content name).run.run s).1) ∧
    (∀ steps s, ∀ call ∈ (p.journaled.after hash steps (s, [])).2,
      p.capabilities.supports call.operation) := by
  refine ⟨fun content name s journal => ?_, fun content name s pin => ?_, fun steps s => ?_⟩
  · refine ⟨p.calls hash s (.publish content name),
      publish_eq_upload (p := p) content name s ▸ journals_publish content name s journal,
      fun hsupports => if_neg hsupports, fun hsupports => ⟨fun e he => ?_, fun cid hcid => ?_⟩⟩
    · rw [calls, if_pos hsupports, he]
      rfl
    · rw [calls, if_pos hsupports, hcid, pinOf]
      have hpins : p.pinsSeparately ↔
          p.capabilities.supports .pin ∧ ¬ p.capabilities.pinsOnUpload := by
        simp [pinsSeparately, Capabilities.supports]
      simp only [hpins]
      split <;> rfl
  · exact publish_eq_upload content name s
  · exact supports_of_mem_after steps (s, []) (List.forall_mem_nil _)

/-- A pin that fails is made, and forgotten. -/
example :
    let p : Provider Script := ⟨Script.backend (fun _ => .zero) "no pins" .full, .disabled⟩
    let run := (p.journaled.publish (fun _ => .zero) ByteArray.empty none).run.run
      (⟨[], [fun _ => .ok (.v0 .zero)], [fun cid => .error (.pin cid "never")]⟩, [])
    run.1.toOption = some (.v0 .zero) ∧
      run.2.2 = [.upload ByteArray.empty none, .pin (.v0 .zero)] := by
  decide

end Provider

end AddressedStorage
