import AddressedStorage.Proofs.Http.Sent

/-!
# Proofs/Http/Exchange — how often a request is sent, and how that ends

A request is sent again after each passing trouble while attempts are left, and the last answer
decides (`Exchanged`, which follows the recursion).  So it is sent as often as allowed if every answer
is a passing trouble, and not again after a success.  Reading a body (`Reading`) has the same three
properties, one for each way a step is put together.
-/

namespace AddressedStorage.Http

variable {σ κ : Type}

/-! ## Answers -/

/-- Whether an answer is a trouble that may pass. -/
def isPassing : Except Failure Response → Bool
  | .ok response => isRetryStatus response.status
  | .error failure => failure.isTransient

/-- The body of a success. -/
def content? : Except Failure Response → Option ByteArray
  | .ok response => if response.isSuccess then response.body else none
  | .error _ => none

/-- What an answer comes to if nothing is sent after it.  A status that is no success is reported with
the address that answered. -/
def outcome : Except Failure Response → Except ExchangeError Response
  | .ok response =>
    if response.isSuccess then .ok response
    else .error (.status response.url.toString response.status)
  | .error failure => .error (.http failure)

/-- A status that may pass is no success. -/
theorem isSuccess_of_isRetryStatus {response : Response} (h : isRetryStatus response.status) :
    response.isSuccess = false := by
  have hstatus : ∀ n ∈ retryStatuses, (200 ≤ n && n < 300) = false := by decide
  exact hstatus _ (List.contains_iff_mem.mp h)

theorem content?_of_isPassing {answer : Except Failure Response} (h : isPassing answer) :
    content? answer = none := by
  cases answer with
  | error failure => rfl
  | ok response =>
    rw [content?, isSuccess_of_isRetryStatus h]
    rfl

/-- A passing trouble comes to a failure. -/
theorem exists_outcome_eq_error {answer : Except Failure Response} (h : isPassing answer) :
    ∃ e, outcome answer = .error e := by
  cases answer with
  | error failure => exact ⟨_, rfl⟩
  | ok response =>
    rw [outcome, isSuccess_of_isRetryStatus h]
    exact ⟨_, rfl⟩

/-- A body of a success comes to that success. -/
theorem exists_outcome_eq_ok {answer : Except Failure Response} {content : ByteArray}
    (h : content? answer = some content) :
    ∃ response, outcome answer = .ok response ∧ response.body = some content := by
  cases answer with
  | error failure => cases h
  | ok response =>
    rw [content?] at h
    split at h
    · exact ⟨response, if_pos ‹_›, h⟩
    · cases h

/-! ## Sending again -/

/-- The answers to a request that could be sent again `left` times after the first, and what they
came to. -/
inductive Exchanged (sender : κ) (r : Request) :
    Nat → List (Sent κ) → Except ExchangeError Response → Prop where
  | last {left : Nat} {answer : Except Failure Response} (h : isPassing answer → left = 0) :
      Exchanged sender r left [⟨sender, r, answer⟩] (outcome answer)
  | again {left : Nat} {answer : Except Failure Response} {sent : List (Sent κ)}
      {result : Except ExchangeError Response} (hpassing : isPassing answer)
      (hrest : Exchanged sender r left sent result) :
      Exchanged sender r (left + 1) (⟨sender, r, answer⟩ :: sent) result

namespace Exchanged

variable {sender : κ} {r : Request} {left : Nat} {sent : List (Sent κ)}
  {result : Except ExchangeError Response}

theorem length_le (h : Exchanged sender r left sent result) : sent.length ≤ left + 1 := by
  induction h with
  | last => exact Nat.le_add_left _ _
  | again _ _ ih => exact Nat.succ_le_succ ih

theorem sender_eq (h : Exchanged sender r left sent result) : ∀ x ∈ sent, x.sender = sender := by
  induction h with
  | last => exact List.forall_mem_singleton.mpr rfl
  | again _ _ ih => exact List.forall_mem_cons.mpr ⟨rfl, ih⟩

/-- **A request is sent as often as allowed** if every answer is a passing trouble. -/
theorem exhausted (h : Exchanged sender r left sent result)
    (hall : ∀ x ∈ sent, isPassing x.answer) : sent.length = left + 1 ∧ ∃ e, result = .error e := by
  induction h with
  | last hlast =>
    have hpassing := hall _ List.mem_cons_self
    exact ⟨(hlast hpassing).symm ▸ rfl, exists_outcome_eq_error hpassing⟩
  | again _ _ ih =>
    obtain ⟨hlength, herror⟩ := ih (List.forall_mem_cons.mp hall).2
    exact ⟨congrArg Nat.succ hlength, herror⟩

/-- **Nothing is sent after a success**, which is what is returned. -/
theorem accepted (h : Exchanged sender r left sent result) {before after : List (Sent κ)}
    {x : Sent κ} {content : ByteArray} (hsent : sent = before ++ x :: after)
    (hcontent : content? x.answer = some content) :
    after = [] ∧ ∃ response, result = .ok response ∧ response.body = some content := by
  induction h generalizing before with
  | last =>
    rcases List.cons_eq_append_iff.mp hsent with ⟨-, hx⟩ | ⟨before', -, hrest⟩
    · obtain ⟨rfl, rfl⟩ := List.cons.inj hx
      exact ⟨rfl, exists_outcome_eq_ok hcontent⟩
    · exact absurd hrest.symm (List.append_ne_nil_of_right_ne_nil _ (List.cons_ne_nil _ _))
  | again hpassing _ ih =>
    rcases List.cons_eq_append_iff.mp hsent with ⟨-, hx⟩ | ⟨before', -, hrest⟩
    · obtain ⟨rfl, -⟩ := List.cons.inj hx
      rw [content?_of_isPassing hpassing] at hcontent
      cases hcontent
    · exact ih hrest

end Exchanged

namespace Client

variable (network : Network σ) (options : Options) (sender : κ)

/-- One attempt with others left, and what follows from the answer. -/
theorem sendFrom_succ (c : Client σ) (r : Request) (done left : Nat) :
    c.sendFrom r done (left + 1) = do
      let answer ← c.attempt r
      if isPassing answer then
        c.network.wait (c.options.delay (done + 1))
        c.sendFrom r (done + 1) left
      else return outcome answer := by
  rw [sendFrom]
  refine bind_congr fun answer => ?_
  cases answer with
  | error failure => rfl
  | ok response =>
    by_cases hsuccess : response.isSuccess
    · have hpassing : ¬ isRetryStatus response.status := fun h =>
        Bool.noConfusion (hsuccess.symm.trans (isSuccess_of_isRetryStatus h))
      simp [outcome, isPassing, hsuccess, hpassing]
    · simp [outcome, isPassing, hsuccess]

/-- The last attempt. -/
theorem sendFrom_zero (c : Client σ) (r : Request) (done : Nat) :
    c.sendFrom r done 0 = return outcome (← c.attempt r) := by
  rw [sendFrom]
  refine bind_congr fun answer => ?_
  cases answer with
  | error failure => rfl
  | ok response => cases hsuccess : response.isSuccess <;> simp [outcome, hsuccess]

/-- **Sending a request again** while that may help. -/
theorem sends_sendFrom {r : Request} (hr : r.isSendable) (done left : Nat) :
    Sends (Exchanged sender r left) (sendFrom ⟨network.noting sender, options⟩ r done left) := by
  have hattempt := sends_attempt network options sender hr
  induction left generalizing done with
  | zero =>
    rw [sendFrom_zero]
    exact hattempt.bind fun sent answer hsent => .ret (hsent ▸ .last fun _ => rfl)
  | succ left ih =>
    rw [sendFrom_succ]
    refine hattempt.bind fun sent answer hsent => ?_
    obtain rfl := hsent
    by_cases hpassing : isPassing answer
    · rw [if_pos hpassing]
      refine (Sends.wait network sender _).bind fun nothing _ hnothing => ?_
      obtain rfl := hnothing
      exact (ih (done + 1)).mono fun later result hlater => .again hpassing hlater
    · rw [if_neg hpassing]
      exact .ret (.last fun h => absurd h hpassing)

/-- A request that cannot be sent fails at once. -/
theorem sendFrom_of_not_isSendable (c : Client σ) {r : Request} (hr : ¬ r.isSendable)
    (done left : Nat) :
    c.sendFrom r done left = return .error (.http (.unbuildable (some r.url))) := by
  cases left with
  | zero =>
    rw [sendFrom_zero, attempt_of_not_isSendable c hr, pure_bind]
    rfl
  | succ left =>
    rw [sendFrom_succ, attempt_of_not_isSendable c hr, pure_bind]
    rfl

/-- **Sending a request**: nothing if it cannot be sent at all. -/
theorem sends_send (request : Except Failure Request) :
    Sends (fun sent result => match Request.sendable? request with
        | some r => Exchanged sender r options.retries.toNat sent result
        | none => sent = [] ∧ ∃ e, result = .error e)
      (send ⟨network.noting sender, options⟩ request).run := by
  cases request with
  | error failure => exact .ret ⟨rfl, _, rfl⟩
  | ok r =>
    rw [Request.sendable?, Except.toOption, Option.filter_some]
    by_cases hr : r.isSendable
    · rw [if_pos hr]
      exact sends_sendFrom network options sender hr 0 _
    · rw [if_neg hr]
      have hrun := sendFrom_of_not_isSendable ⟨network.noting sender, options⟩ hr 0
        options.retries.toNat
      rw [send, ExceptT.run_mk, hrun]
      exact .ret ⟨rfl, _, rfl⟩

end Client

/-! ## Reading a body -/

/-- What reading sends, and what comes of it.  A body it accepts ends it; and if it is `ready`, it
sends as much as is allowed while every answer is a passing trouble. -/
structure Reading (sender : κ) (retries : Nat) (ready : Prop) (accepts : ByteArray → Prop)
    (sent : List (Sent κ)) (result : Except ProviderError ByteArray) : Prop where
  length_le : sent.length ≤ retries + 1
  sender_eq : ∀ x ∈ sent, x.sender = sender
  accepted : ∀ (before : List (Sent κ)) (x : Sent κ) (after : List (Sent κ)) (content : ByteArray),
    sent = before ++ x :: after → content? x.answer = some content → accepts content →
      after = [] ∧ result = .ok content
  exhausted : ready → (∀ x ∈ sent, isPassing x.answer) →
    sent.length = retries + 1 ∧ ∃ e, result = .error e ∧ e.isRetryable

namespace Reading

variable {sender : κ} {retries : Nat} {ready : Prop} {accepts : ByteArray → Prop}
  {sent : List (Sent κ)} {result : Except ProviderError ByteArray}

/-- A reading that is not ready may fail at once. -/
theorem none (h : ¬ ready) (e : ProviderError) :
    Reading sender retries ready accepts [] (.error e) where
  length_le := Nat.zero_le _
  sender_eq := List.forall_mem_nil _
  accepted _ _ _ _ hsent := absurd hsent.symm
    (List.append_ne_nil_of_right_ne_nil _ (List.cons_ne_nil _ _))
  exhausted hready := absurd hready h

theorem mono {ready' : Prop} (h : Reading sender retries ready accepts sent result)
    (hready : ready' → ready) : Reading sender retries ready' accepts sent result :=
  { h with exhausted := fun h' => h.exhausted (hready h') }

/-- A verdict on what was read makes it accept less.  It does not matter where nothing was read. -/
theorem judged (h : Reading sender retries ready (fun _ => True) sent result)
    {verdict : ByteArray → Except ProviderError ByteArray}
    (hverdict : ∀ content, accepts content → verdict content = .ok content) :
    Reading sender retries ready accepts sent (result >>= verdict) where
  length_le := h.length_le
  sender_eq := h.sender_eq
  accepted before x after content hsent hcontent haccepts := by
    obtain ⟨hafter, rfl⟩ := h.accepted before x after content hsent hcontent trivial
    exact ⟨hafter, hverdict content haccepts⟩
  exhausted hready hall := by
    obtain ⟨hlength, e, rfl, he⟩ := h.exhausted hready hall
    exact ⟨hlength, e, rfl, he⟩

end Reading

/-- The body of an answer, if it is there. -/
def Response.judged (r : Response) : Except ExchangeError ByteArray :=
  match r.body with
  | some content => .ok content
  | none => .error (.http .undecodable)

theorem Response.content_eq_judged (r : Response) :
    (r.content : Exchange σ ByteArray) = ExceptT.mk (pure r.judged) := by
  rw [content, judged]
  cases r.body <;> rfl

/-- **Reading the body of an answer**, for a fetch. -/
theorem Client.sends_content (network : Network σ) (options : Options) (sender : κ)
    (request : Except Failure Request) (cid : Cid) :
    Sends (fun sent result =>
        Reading sender options.retries.toNat (Request.sendable? request).isSome (fun _ => True) sent
          (result.mapError fun e => .fetch cid e.message))
      (send ⟨network.noting sender, options⟩ request >>= Response.content).run := by
  refine ((sends_send network options sender request).bindJudged
    Response.content_eq_judged).mono ?_
  rintro sent _ ⟨response, hsent, rfl⟩
  cases hrequest : Request.sendable? request with
  | none =>
    rw [hrequest] at hsent
    obtain ⟨rfl, e, rfl⟩ := hsent
    exact .none Bool.false_ne_true _
  | some r =>
    rw [hrequest] at hsent
    refine ⟨hsent.length_le, hsent.sender_eq, fun before x after content hparts hcontent _ => ?_,
      fun _ hall => ?_⟩
    · obtain ⟨hafter, answer, rfl, hbody⟩ := hsent.accepted hparts hcontent
      refine ⟨hafter, ?_⟩
      simp only [Except.bind, Response.judged, hbody]
      rfl
    · obtain ⟨hlength, e, rfl⟩ := hsent.exhausted hall
      exact ⟨hlength, _, rfl, rfl⟩

end AddressedStorage.Http
