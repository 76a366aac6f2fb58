import AddressedStorage.Proofs.Http.Agree
import AddressedStorage.Proofs.Http.Trail
import Mathlib.Data.ENat.Lattice

/-!
# Proofs/Http/Retry — which replies a request consumes

A request that is sent again after every reply, with the waits in between, is given a sequence of
replies (`Client.replyAt`), each of them from the end of the way on which it was redirected.  Some of
them are **final** (`Final`), the others may pass.  Sending consumes the replies up to the first final
one, as far as the budget reaches, and no other (`Client.send_consumes_prefix`).

A counter of 32 bits is enough for that, because it never gets beyond the budget
(`Client.run_send_eq_sendBuilding`).
-/

namespace AddressedStorage.Http

variable {σ : Type}

/-! ## Final replies -/

/-- A reply after which nothing is sent: a success, a status that does not pass, or a failure other
than a refused connection and a timeout. -/
inductive Final : Except Failure Response → Prop where
  | success {response : Response} (h : 200 ≤ response.status ∧ response.status < 300) :
    Final (.ok response)
  | status {response : Response} (h : response.status ∉ [418, 429, 500, 502, 503, 504]) :
    Final (.ok response)
  | failure {failure : Failure}
      (h : ∀ url, failure ≠ .unanswered .refused url ∧ failure ≠ .unanswered .timeout url) :
    Final (.error failure)

theorem isSuccess_iff {response : Response} :
    response.isSuccess ↔ 200 ≤ response.status ∧ response.status < 300 := by
  simp [Response.isSuccess]

theorem isRetryStatus_iff {status : Nat} :
    isRetryStatus status ↔ status ∈ [418, 429, 500, 502, 503, 504] := List.contains_iff_mem

theorem isTransient_iff {failure : Failure} :
    failure.isTransient ↔
      ∃ url, failure = .unanswered .refused url ∨ failure = .unanswered .timeout url := by
  rcases failure with url | ⟨_ | _ | _, url⟩ | _ <;> simp [Failure.isTransient]

/-- **The final replies are those that are no passing trouble.** -/
theorem final_iff {reply : Except Failure Response} : Final reply ↔ isPassing reply = false := by
  rw [← Bool.not_eq_true]
  constructor
  · rintro (h | h | h) hpassing
    · have hfailed := isSuccess_of_isRetryStatus hpassing
      exact Bool.false_ne_true (hfailed.symm.trans (isSuccess_iff.mpr h))
    · exact h (isRetryStatus_iff.mp hpassing)
    · obtain ⟨url, rfl | rfl⟩ := isTransient_iff.mp hpassing
      · exact (h url).1 rfl
      · exact (h url).2 rfl
  · intro h
    cases reply with
    | ok response => exact .status fun hstatus => h (isRetryStatus_iff.mpr hstatus)
    | error failure => exact .failure fun url => ⟨fun hf => h (hf ▸ rfl), fun hf => h (hf ▸ rfl)⟩

/-- The number of replies before the first final one, if there is one. -/
structure FinalAfter (replies : Nat → Except Failure Response) (k : ℕ∞) : Prop where
  passing : ∀ i : ℕ, i < k → ¬ Final (replies i)
  final : ∀ i : ℕ, k = i → Final (replies i)

theorem exists_finalAfter (replies : Nat → Except Failure Response) :
    ∃ k, FinalAfter replies k := by
  classical
  by_cases h : ∃ i, Final (replies i)
  · refine ⟨Nat.find h, fun i hi => Nat.find_min h (Nat.cast_lt.mp hi), fun i hi => ?_⟩
    exact Nat.cast_inj.mp hi ▸ Nat.find_spec h
  · exact ⟨⊤, fun i _ hi => h ⟨i, hi⟩, fun i hi => absurd hi.symm (ENat.natCast_ne_top i)⟩

/-! ## The sequence of replies -/

namespace Client

variable (c : Client σ) (r : Request) (s : σ)

/-- The state in which a request is sent for the `i`-th time, counted from zero, if it is sent again
after every reply. -/
def stateAt : Nat → σ
  | 0 => s
  | i + 1 =>
    ((c.network.wait (c.options.delay (i + 1))).run ((c.network.send r).run (stateAt i)).2).2

/-- The reply it is then given. -/
def replyAt (i : Nat) : Except Failure Response := ((c.network.send r).run (c.stateAt r s i)).1

variable {r} in
/-- **A request consumes passing troubles** up to a reply that is none, or until the budget is used
up. -/
theorem run_sendFrom (hr : r.isSendable) {done left n : Nat} (hle : n ≤ left)
    (hpassing : ∀ i < n, isPassing (c.replyAt r s (done + i)))
    (hlast : n < left → isPassing (c.replyAt r s (done + n)) = false) :
    (c.sendFrom r done left).run (c.stateAt r s done) =
      (outcome (c.replyAt r s (done + n)),
        ((c.network.send r).run (c.stateAt r s (done + n))).2) := by
  have hattempt : ∀ i, (c.attempt r).run (c.stateAt r s i) =
      (c.replyAt r s i, ((c.network.send r).run (c.stateAt r s i)).2) := fun i => by
    rw [attempt, if_pos hr]
    rfl
  -- Each passing trouble takes one from the budget, and moves the sequence of replies on by one.
  induction n generalizing done left with
  | zero =>
    cases left with
    | zero =>
      rw [sendFrom_zero, runState_bind (hattempt done)]
      rfl
    | succ left =>
      have hfinal : isPassing (c.replyAt r s done) = false := hlast (Nat.succ_pos left)
      rw [sendFrom_succ, runState_bind (hattempt done), hfinal, if_neg Bool.false_ne_true]
      rfl
  | succ n ih =>
    cases left with
    | zero => cases hle
    | succ left =>
      have hfirst : isPassing (c.replyAt r s done) := hpassing 0 (Nat.succ_pos n)
      have hshift : ∀ i, done + (i + 1) = done + 1 + i := fun i => by omega
      rw [sendFrom_succ, runState_bind (hattempt done), if_pos hfirst, hshift n]
      exact ih (Nat.le_of_succ_le_succ hle)
        (fun i hi => hshift i ▸ hpassing (i + 1) (Nat.succ_lt_succ hi))
        fun hlt => hshift n ▸ hlast (Nat.succ_lt_succ hlt)

end Client

/-! ## What happens at the network -/

/-- What happens at a network: a request is sent and given a reply, or time goes by. -/
inductive Event where
  | sent (request : Request) (reply : Except Failure Response)
  | waited (milliseconds : Nat)

/-- The request that is sent. -/
def Event.request? : Event → Option Request
  | sent request _ => some request
  | waited _ => none

/-- A network that writes down what happens, oldest first. -/
def Network.recording (network : Network σ) : Network (σ × List Event) where
  send r := fun (s, events) =>
    let (reply, s) := (network.send r).run s
    (reply, (s, events ++ [.sent r reply]))
  wait n := fun (s, events) => ((), (((network.wait n).run s).2, events ++ [.waited n]))
  now := fun (s, events) =>
    let (seconds, s) := network.now.run s
    (seconds, (s, events))
  arrange entries := fun (s, events) =>
    let (entries, s) := (network.arrange entries).run s
    (entries, (s, events))
  arrange_perm entries s := network.arrange_perm entries s.1

namespace Client

variable (c : Client σ) (r : Request) (s : σ)

/-- The client on the network that writes down what happens. -/
def recording : Client (σ × List Event) := ⟨c.network.recording, c.options⟩

/-- What happens while a request is given the first `n` replies and the client waits after each. -/
def events (n : Nat) : List Event :=
  (List.range n).flatMap fun i => [.sent r (c.replyAt r s i), .waited (c.options.delay (i + 1))]

/-- What happens while it is given one reply more, after which nothing is sent. -/
def consumed (n : Nat) : List Event := c.events r s n ++ [.sent r (c.replyAt r s n)]

theorem events_succ (n : Nat) : c.events r s (n + 1) =
    c.consumed r s n ++ [.waited (c.options.delay (n + 1))] := by
  rw [consumed, events, List.range_succ, List.flatMap_append, List.append_assoc]
  rfl

/-- **The requests are one request, as often as it is given a reply.** -/
theorem requests_consumed (n : Nat) :
    (c.consumed r s n).filterMap Event.request? = List.replicate (n + 1) r := by
  induction n with
  | zero => rfl
  | succ n ih =>
    have hreplicate : List.replicate (n + 1 + 1) r = List.replicate (n + 1) r ++ [r] :=
      List.replicate_succ'
    rw [consumed, events_succ, List.filterMap_append, List.filterMap_append, ih, hreplicate]
    simp [Event.request?]

theorem stateAt_recording (i : Nat) :
    c.recording.stateAt r (s, []) i = (c.stateAt r s i, c.events r s i) := by
  induction i with
  | zero => rfl
  | succ i ih =>
    rw [stateAt, ih, events_succ, consumed]
    rfl

/-- **Writing down changes no reply.** -/
theorem replyAt_recording (i : Nat) :
    c.recording.replyAt r (s, []) i = c.replyAt r s i := by
  rw [replyAt, stateAt_recording]
  rfl

end Client

/-! ## A counter of 32 bits -/

/-- **Below the budget a counter does not overflow.** -/
theorem toNat_succ_of_lt {attempt retries : UInt32} (h : attempt < retries) :
    (attempt + 1).toNat = attempt.toNat + 1 := by
  have hlt := UInt32.lt_iff_toNat_lt.mp h
  have hsize := retries.toNat_lt
  rw [UInt32.toNat_add, UInt32.toNat_one, Nat.mod_eq_of_lt (by omega)]

namespace Client

variable (c : Client σ)

/-- Puts a request together and sends it, and does both again while that may help.  The attempts are
counted in 32 bits, and the count goes back to zero beyond them. -/
def sendBuilding (build : UInt32 → Except Failure Request) (attempt : UInt32) :
    StateM σ (Except ExchangeError Response) := do
  match build attempt with
  | .error failure => return .error (.http failure)
  | .ok r =>
    let reply ← c.attempt r
    if h : attempt < c.options.retries then
      if isPassing reply then
        c.network.wait (c.options.delay (attempt + 1).toNat)
        sendBuilding build (attempt + 1)
      else return outcome reply
    else return outcome reply
termination_by c.options.retries.toNat - attempt.toNat
decreasing_by
  have hlt := UInt32.lt_iff_toNat_lt.mp h
  have hnext := toNat_succ_of_lt h
  omega

theorem sendBuilding_eq_sendFrom (r : Request) {attempt : UInt32} {left : Nat}
    (h : attempt.toNat + left = c.options.retries.toNat) :
    c.sendBuilding (fun _ => .ok r) attempt = c.sendFrom r attempt.toNat left := by
  induction left generalizing attempt with
  | zero =>
    have hlast : ¬ attempt < c.options.retries := fun hlt => by
      have := UInt32.lt_iff_toNat_lt.mp hlt
      omega
    rw [sendBuilding, sendFrom_zero]
    simp only [dif_neg hlast]
  | succ left ih =>
    have hlt : attempt < c.options.retries := UInt32.lt_iff_toNat_lt.mpr (by omega)
    have hnext := toNat_succ_of_lt hlt
    rw [sendBuilding, sendFrom_succ]
    simp only [dif_pos hlt]
    rw [ih (by omega), hnext]

/-- **Putting a request together once is as good as putting it together for every attempt**, and the
count of attempts stays in its bounds. -/
theorem run_send_eq_sendBuilding (request : Except Failure Request) :
    (c.send request).run = c.sendBuilding (fun _ => request) 0 := by
  cases request with
  | error failure =>
    rw [sendBuilding]
    rfl
  | ok r =>
    have hzero : (0 : UInt32).toNat + c.options.retries.toNat = c.options.retries.toNat :=
      Nat.zero_add _
    exact (c.sendBuilding_eq_sendFrom r hzero).symm

end Client

/-! ## Sending -/

namespace Client

variable (c : Client σ)

/-- A request that cannot be put together or sent fails at once, and nothing happens. -/
theorem exists_run_send_of_not_sendable {request : Except Failure Request}
    (h : Request.sendable? request = none) (s : σ) :
    ∃ failure, (c.send request).run.run s = (.error (.http failure), s) := by
  cases request with
  | error failure => exact ⟨failure, rfl⟩
  | ok r =>
    have hr : ¬ r.isSendable := fun hr => by
      rw [Request.sendable?, Except.toOption, Option.filter_some, if_pos hr] at h
      cases h
    refine ⟨.unbuildable (some r.url), ?_⟩
    rw [send, ExceptT.run_mk, c.sendFrom_of_not_isSendable hr]
    rfl

/-- **The last reply decides**: the first that is no passing trouble, or the one that uses up the
budget. -/
theorem run_send_of_least {r : Request} (hr : r.isSendable) (s : σ) {n : Nat}
    (hle : n ≤ c.options.retries.toNat) (hpassing : ∀ i < n, isPassing (c.replyAt r s i))
    (hlast : n < c.options.retries.toNat → isPassing (c.replyAt r s n) = false) :
    (c.send (.ok r)).run.run s =
      (outcome (c.replyAt r s n), ((c.network.send r).run (c.stateAt r s n)).2) := by
  have hfirst : ∀ i < n, isPassing (c.replyAt r s (0 + i)) := fun i hi =>
    (Nat.zero_add i).symm ▸ hpassing i hi
  have hrun := c.run_sendFrom s hr hle hfirst fun hlt => (Nat.zero_add n).symm ▸ hlast hlt
  rw [Nat.zero_add] at hrun
  exact hrun

/-- **A request consumes the replies up to the first final one**, or one more than the budget allows
to repeat if that is fewer, whatever the network does.  It is the same request every time, before it
is sent again the client waits as long as the number of the attempt says, and the last reply decides
the result: a status that is no success is reported with the address that answered.  Its count of
attempts fits in 32 bits, and putting the request together for every attempt makes no difference.  A
request that cannot be sent leaves the network alone.  Where the network follows redirects, no reply is
one that is followed; and if none is on the wire, what is sent there is what the client sends. -/
theorem send_consumes_prefix (s : σ) :
    (∀ r : Request, r.isSendable →
      ∃ (k : ℕ∞) (n : ℕ) (result : Except ExchangeError Response) (after : σ),
        FinalAfter (c.replyAt r s) k ∧ (n : ℕ∞) = min (c.options.retries.toNat : ℕ∞) k ∧
        (c.send (.ok r)).run.run s = (result, after) ∧
        (c.recording.send (.ok r)).run.run (s, []) = (result, after, c.consumed r s n) ∧
        (c.consumed r s n).filterMap Event.request? = List.replicate (n + 1) r ∧
        (∀ response, c.replyAt r s n = .ok response →
          result = if 200 ≤ response.status ∧ response.status < 300 then .ok response
            else .error (.status response.url.toString response.status)) ∧
        (∀ failure, c.replyAt r s n = .error failure → result = .error (.http failure)) ∧
        n < UInt32.size) ∧
    (∀ request, (c.send request).run = c.sendBuilding (fun _ => request) 0) ∧
    (∀ request, Request.sendable? request = none → ∃ failure,
      (c.recording.send request).run.run (s, []) = (.error (.http failure), s, [])) ∧
    ∀ (wire : Network σ) (rule : Redirects), c.network = wire.following rule →
      (∀ r i response, c.replyAt r s i = .ok response →
        ∃ asked, rule.next asked response = none) ∧
      ((∀ asked s response, ((wire.send asked).run s).1 = .ok response →
        rule.next asked response = none) → ∀ r, c.network.send r = wire.send r) := by
  refine ⟨fun r hr => ?_, c.run_send_eq_sendBuilding,
    fun request h => c.recording.exists_run_send_of_not_sendable h (s, []), ?_⟩
  swap
  · intro wire rule hfollowing
    refine ⟨fun r i response hreply => ?_, fun hnone r => ?_⟩
    · rw [replyAt, hfollowing] at hreply
      exact Network.exists_next_eq_none hreply
    · rw [hfollowing]
      exact Network.sendOn_eq_send hnone rule.limit
  obtain ⟨k, hk⟩ := exists_finalAfter (c.replyAt r s)
  obtain ⟨n, hn⟩ : ∃ n : ℕ, (n : ℕ∞) = min (c.options.retries.toNat : ℕ∞) k :=
    ENat.ne_top_iff_exists.mp (ne_top_of_le_ne_top (ENat.natCast_ne_top _) (min_le_left _ _))
  have hle : n ≤ c.options.retries.toNat := Nat.cast_le.mp (hn.trans_le (min_le_left _ _))
  have hpassing : ∀ i < n, isPassing (c.replyAt r s i) := fun i hi => by
    have hbefore : (i : ℕ∞) < k := (Nat.cast_lt.mpr hi).trans_le (hn.trans_le (min_le_right _ _))
    simpa [final_iff] using hk.passing i hbefore
  have hlast : n < c.options.retries.toNat → isPassing (c.replyAt r s n) = false := fun hlt => by
    refine final_iff.mp (hk.final n ?_)
    -- The budget is not used up, so the minimum is the number of replies before the final one.
    rcases min_choice (c.options.retries.toNat : ℕ∞) k with hmin | hmin
    · exact absurd (Nat.cast_inj.mp (hn.trans hmin)) hlt.ne
    · exact (hn.trans hmin).symm
  have hrun := c.run_send_of_least hr s hle hpassing hlast
  have hrecorded := c.recording.run_send_of_least hr (s, []) hle
    (fun i hi => c.replyAt_recording r s i ▸ hpassing i hi)
    (fun hlt => c.replyAt_recording r s n ▸ hlast hlt)
  refine ⟨k, n, _, _, hk, hn, hrun, ?_, c.requests_consumed r s n, fun response hresponse => ?_,
    fun failure hfailure => ?_, hle.trans_lt c.options.retries.toNat_lt⟩
  · rw [hrecorded, replyAt_recording, stateAt_recording]
    rfl
  · rw [hresponse, outcome]
    simp only [isSuccess_iff]
  · rw [hfailure]
    rfl

/-- A reply that leads to another address, and the one that is given there. -/
def redirecting : List (Except Loss Answer) :=
  [.ok ⟨303, [⟨"location", "http://h/b".toByteArray⟩], none⟩, .ok ⟨404, [], none⟩]

/-- **On the wire, a final reply need not be the last.**  Both of these are final, and the first is
followed, so that two requests are made where none may be repeated.  The second decides, and it is
reported with the address that gave it. -/
theorem send_beyond_final :
    let c : Client _ := ⟨Network.playing.tracing .seeOther (), ⟨30, 0, 500⟩⟩
    let run := (c.send (Request.ofAddress .get "http://h/a")).run.run (((redirecting, 0), []), [])
    (∀ x ∈ run.2.1.2, Final x.answer) ∧
      (run.2.1.2.map fun x => x.request.url.toString) = ["http://h/a", "http://h/b"] ∧
      run.1.mapError ExchangeError.message = .error "http://h/b answered with status 404" := by
  intro c run
  have hfinal : ∀ x ∈ run.2.1.2, isPassing x.answer = false := by decide +kernel
  exact ⟨fun x hx => final_iff.mpr (hfinal x hx), by decide +kernel, by decide +kernel⟩

/-- Two passing troubles and a success. -/
example :
    let url : Url := { (default : Url) with scheme := "http".toList, host := some ['a'] }
    let run := ((recording ⟨Network.playing, .standard⟩).send (.ok ⟨.get, url, [], .empty⟩)).run.run
      (([.ok ⟨503, [], none⟩, .ok ⟨429, [], none⟩, .ok ⟨200, [], none⟩], 0), [])
    run.1.toOption = some ⟨⟨200, [], none⟩, url⟩ ∧ (run.2.2.filterMap Event.request?).length = 3 ∧
      run.2.2.filterMap (fun | .waited n => some n | .sent _ _ => none) = [500, 1000] := by
  decide +kernel

end Client

end AddressedStorage.Http
