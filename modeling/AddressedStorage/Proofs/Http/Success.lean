import AddressedStorage.Proofs.Http.Exchange
import AddressedStorage.Proofs.Http.Request

/-!
# Proofs/Http/Success — the answer that counts

Of all answers to a request that is sent again, one at most reports success, and that is what
sending returns (`Exchanged.successes_eq`).  So what a step makes of its answers can be read off the
successes among them (`successes`), whatever else was answered (`Client.sends_tried`).
-/

namespace AddressedStorage.Http

variable {σ κ α β ε δ : Type}

/-- The answer, if it reports success. -/
def Sent.success? (x : Sent κ) : Option Response := x.answer.toOption.filter Response.isSuccess

/-- The answers that report success. -/
def successes (sent : List (Sent κ)) : List Response := sent.filterMap Sent.success?

@[simp] theorem successes_nil : successes ([] : List (Sent κ)) = [] := rfl

@[simp] theorem successes_append (sent later : List (Sent κ)) :
    successes (sent ++ later) = successes sent ++ successes later := List.filterMap_append

/-- A passing trouble is no success. -/
theorem success?_of_isPassing {x : Sent κ} (h : isPassing x.answer) : x.success? = none := by
  rw [Sent.success?]
  rcases hanswer : x.answer with failure | response
  · rfl
  · rw [hanswer] at h
    simp [Except.toOption, isSuccess_of_isRetryStatus h]

/-- An answer after which nothing is sent comes to a success just if it reports one. -/
theorem success?_eq_outcome (sender : κ) (r : Request) (answer : Except Failure Response) :
    Sent.success? ⟨sender, r, answer⟩ = (outcome answer).toOption := by
  rcases answer with failure | response
  · rfl
  · rw [Sent.success?, outcome, Except.toOption, Option.filter_some]
    split <;> rfl

/-- **Sending returns the one success**, if there is one. -/
theorem Exchanged.successes_eq {sender : κ} {r : Request} {left : Nat} {sent : List (Sent κ)}
    {result : Except ExchangeError Response} (h : Exchanged sender r left sent result) :
    successes sent = result.toOption.toList := by
  induction h with
  | @last left answer =>
    rw [successes, List.filterMap_cons, success?_eq_outcome]
    cases (outcome answer).toOption <;> rfl
  | again hpassing _ ih =>
    rw [successes, List.filterMap_cons_none (success?_of_isPassing hpassing)]
    exact ih

theorem Exchanged.request_eq {sender : κ} {r : Request} {left : Nat} {sent : List (Sent κ)}
    {result : Except ExchangeError Response} (h : Exchanged sender r left sent result) :
    sent ≠ [] ∧ ∀ x ∈ sent, x.request = r := by
  induction h with
  | last => exact ⟨List.cons_ne_nil _ _, List.forall_mem_singleton.mpr rfl⟩
  | again _ _ ih => exact ⟨List.cons_ne_nil _ _, List.forall_mem_cons.mpr ⟨rfl, ih.2⟩⟩

/-! ## Trying a request -/

/-- What is sent for a request: nothing if it cannot be sent, and else the request, again after each
passing trouble while attempts are left. -/
inductive Tried (sender : κ) (o : Options) (request : Except Failure Request) :
    List (Sent κ) → Prop where
  | sent {r : Request} {sent : List (Sent κ)} {result : Except ExchangeError Response}
      (hrequest : Request.sendable? request = some r)
      (h : Exchanged sender r o.retries.toNat sent result) : Tried sender o request sent
  | unsendable (hrequest : Request.sendable? request = none) : Tried sender o request []

namespace Tried

variable {sender : κ} {o : Options} {request : Except Failure Request} {sent : List (Sent κ)}

/-- It is sent if it can be. -/
theorem ne_nil_iff (h : Tried sender o request sent) : sent ≠ [] ↔ Request.Ready request := by
  rw [Request.Ready]
  cases h with
  | sent hrequest h => simp [hrequest, h.request_eq.1]
  | unsendable hrequest => simp [hrequest]

/-- One answer at most is a success. -/
theorem exists_successes_eq (h : Tried sender o request sent) :
    ∃ answer : Option Response, successes sent = answer.toList := by
  cases h with
  | sent _ h => exact ⟨_, h.successes_eq⟩
  | unsendable => exact ⟨none, rfl⟩

/-- **Nothing else is sent.** -/
theorem request_eq (h : Tried sender o request sent) : ∀ x ∈ sent, request = .ok x.request := by
  cases h with
  | sent hrequest h =>
    intro x hx
    rw [h.request_eq.2 x hx]
    exact toOption_eq_some_iff.mp (Option.filter_eq_some_iff.mp hrequest).1
  | unsendable hrequest => exact List.forall_mem_nil _

end Tried

/-- **Sending a request returns its one success**, if there is one. -/
theorem Client.sends_tried (network : Network σ) (options : Options) (sender : κ)
    (request : Except Failure Request) :
    Sends (fun sent result =>
        Tried sender options request sent ∧ successes sent = result.toOption.toList)
      (send ⟨network.noting sender, options⟩ request).run := by
  refine (sends_send network options sender request).mono fun sent result h => ?_
  cases hrequest : Request.sendable? request with
  | none =>
    rw [hrequest] at h
    obtain ⟨rfl, e, rfl⟩ := h
    exact ⟨.unsendable hrequest, rfl⟩
  | some r =>
    rw [hrequest] at h
    exact ⟨.sent hrequest h, h.successes_eq⟩

/-! ## Failures in other words -/

namespace Sends

theorem adapt {P : List (Sent κ) → Except ε α → Prop} {x : ExceptT ε (StateM (σ × List (Sent κ))) α}
    (hx : Sends P x.run) (f : ε → δ) :
    Sends (fun sent result => ∃ answer, P sent answer ∧ result = answer.mapError f)
      (ExceptT.adapt f x).run := fun y =>
  let ⟨sent, hsent, hP⟩ := hx y
  ⟨sent, hsent, _, hP, rfl⟩

/-- A step whose failures are those of an upload, and what follows it. -/
theorem bindUpload {P : List (Sent κ) → Except ExchangeError α → Prop}
    {R : List (Sent κ) → Except ProviderError β → Prop} {x : Exchange (σ × List (Sent κ)) α}
    {f : α → Action (σ × List (Sent κ)) β} (hx : Sends P x.run)
    (herror : ∀ sent e, P sent (.error e) → R sent (.error (.upload e.message)))
    (hf : ∀ sent a, P sent (.ok a) → Sends (fun later b => R (sent ++ later) b) (f a).run) :
    Sends R (x.asUpload >>= f).run := by
  refine (hx.adapt _).bindExcept (fun sent e ⟨answer, hP, he⟩ => ?_)
    fun sent a ⟨answer, hP, ha⟩ => ?_
  · obtain ⟨cause, rfl, rfl⟩ := mapError_eq_error_iff.mp he.symm
    exact herror sent cause hP
  · obtain rfl := mapError_eq_ok_iff.mp ha.symm
    exact hf sent a hP

end Sends

/-- A success is returned at once. -/
theorem Client.run_send_of_success {c : Client σ} {r : Request} {x : Response} {s s' : σ}
    (hr : r.isSendable) (hanswer : (c.network.send r).run s = (.ok x, s')) (hx : x.isSuccess) :
    (c.send (.ok r)).run.run s = (.ok x, s') := by
  have hattempt : (c.attempt r).run s = (.ok x, s') := by rw [attempt, if_pos hr, hanswer]
  have hpassing : ¬ isPassing (.ok x) := fun h =>
    Bool.noConfusion (hx.symm.trans (isSuccess_of_isRetryStatus h))
  have houtcome : outcome (.ok x) = .ok x := if_pos hx
  change (c.sendFrom r 0 c.options.retries.toNat).run s = _
  rcases c.options.retries.toNat with _ | left
  · rw [sendFrom_zero, StateT.run_bind, hattempt]
    exact congrArg (·, s') houtcome
  · rw [sendFrom_succ, StateT.run_bind, hattempt]
    change (if isPassing (.ok x) then _ else _ : StateM σ _).run s' = _
    rw [if_neg hpassing]
    exact congrArg (·, s') houtcome

/-- What succeeds does so whatever its failure would be called. -/
theorem Exchange.run_asUpload_of_ok {α : Type} {x : Exchange σ α} {a : α} {s s' : σ}
    (h : x.run.run s = (.ok a, s')) : x.asUpload.run.run s = (.ok a, s') := by
  have hmap : x.asUpload.run.run s =
      ((x.run.run s).1.mapError fun e => .upload e.message, (x.run.run s).2) := rfl
  rw [hmap, h]
  rfl

/-! ## Requests that go to one address -/

/-- What can be sent stays so if its headers and its body are others. -/
theorem Request.ready_map_iff {request : Except Failure Request} {f : Request → Request}
    (h : ∀ r, (f r).url = r.url) : Ready (request.map f) ↔ Ready request := by
  rw [ready_iff, ready_iff]
  have hsendable : ∀ r, (f r).isSendable = r.isSendable := fun r => by
    rw [isSendable, isSendable, h]
  cases request <;> simp [Except.map, hsendable]

end AddressedStorage.Http
