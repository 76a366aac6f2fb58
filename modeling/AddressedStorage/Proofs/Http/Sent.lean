import AddressedStorage.Http.Client
import AddressedStorage.Proofs.Provider.Action

/-!
# Proofs/Http/Sent — which requests reach the network

A network can be made to note every request that reaches it, with its answer (`Network.noting`).
What a step adds to the notes is **sent** by it (`Sends`): one rule for each way a step is put
together.  A request that is made once is sent once, unless it cannot be put together or sent at all
(`sends_sendOnce`).
-/

namespace AddressedStorage.Http

variable {σ κ α β ε : Type}

/-- A request that reached the network, who sent it, and what came of it. -/
structure Sent (κ : Type) where
  sender : κ
  request : Request
  answer : Except Failure Response

/-- A network that notes the requests of a sender, oldest first. -/
def Network.noting (network : Network σ) (sender : κ) : Network (σ × List (Sent κ)) where
  send r := fun (s, notes) =>
    let (answer, s) := (network.send r).run s
    (answer, (s, notes ++ [⟨sender, r, answer⟩]))
  wait n := fun (s, notes) => ((), (((network.wait n).run s).2, notes))
  now := fun (s, notes) =>
    let (seconds, s) := network.now.run s
    (seconds, (s, notes))
  arrange entries := fun (s, notes) =>
    let (entries, s) := (network.arrange entries).run s
    (entries, (s, notes))
  arrange_perm entries s := network.arrange_perm entries s.1

/-- What a step sends, and what it then answers, satisfy a predicate. -/
def Sends (P : List (Sent κ) → α → Prop) (x : StateM (σ × List (Sent κ)) α) : Prop :=
  ∀ y, ∃ sent, (x.run y).2.2 = y.2 ++ sent ∧ P sent (x.run y).1

namespace Sends

variable {P Q : List (Sent κ) → α → Prop} {R : List (Sent κ) → β → Prop}

theorem mono {x : StateM (σ × List (Sent κ)) α} (hx : Sends P x) (h : ∀ sent a, P sent a → Q sent a) :
    Sends Q x := fun y =>
  let ⟨sent, hnotes, hP⟩ := hx y
  ⟨sent, hnotes, h sent _ hP⟩

theorem ret {a : α} (h : P [] a) : Sends P (pure a : StateM (σ × List (Sent κ)) α) :=
  fun y => ⟨[], (List.append_nil y.2).symm, h⟩

/-- What is sent by one step after another is sent in that order. -/
theorem bind {x : StateM (σ × List (Sent κ)) α} {f : α → StateM (σ × List (Sent κ)) β}
    (hx : Sends P x)
    (hf : ∀ sent a, P sent a → Sends (fun later b => R (sent ++ later) b) (f a)) :
    Sends R (x >>= f) := by
  intro y
  obtain ⟨sent, hsent, hP⟩ := hx y
  obtain ⟨later, hlater, hR⟩ := hf sent _ hP (x.run y).2
  exact ⟨sent ++ later, by rw [← List.append_assoc, ← hsent]; exact hlater, hR⟩

/-- The same for steps that may fail: what follows a failure is not sent. -/
theorem bindExcept {P : List (Sent κ) → Except ε α → Prop} {R : List (Sent κ) → Except ε β → Prop}
    {x : ExceptT ε (StateM (σ × List (Sent κ))) α}
    {f : α → ExceptT ε (StateM (σ × List (Sent κ))) β} (hx : Sends P x.run)
    (herror : ∀ sent e, P sent (.error e) → R sent (.error e))
    (hf : ∀ sent a, P sent (.ok a) → Sends (fun later b => R (sent ++ later) b) (f a).run) :
    Sends R (x >>= f).run := by
  rw [ExceptT.run_bind]
  refine hx.bind fun sent result hP => ?_
  cases result with
  | error e => exact ret ((List.append_nil sent).symm ▸ herror sent e hP)
  | ok a => exact hf sent a hP

/-- A step that cannot fail, and what follows it. -/
theorem bindLift {R : List (Sent κ) → Except ε β → Prop} {x : StateM (σ × List (Sent κ)) α}
    {f : α → ExceptT ε (StateM (σ × List (Sent κ))) β} (hx : Sends P x)
    (hf : ∀ sent a, P sent a → Sends (fun later b => R (sent ++ later) b) (f a).run) :
    Sends R ((liftM x : ExceptT ε (StateM (σ × List (Sent κ))) α) >>= f).run := by
  change Sends R (ExceptT.lift x >>= f).run
  rw [ExceptT.run_bind_lift]
  exact hx.bind hf

/-- Nothing is sent by judging an answer. -/
theorem bindJudged {P : List (Sent κ) → Except ε α → Prop}
    {x : ExceptT ε (StateM (σ × List (Sent κ))) α}
    {f : α → ExceptT ε (StateM (σ × List (Sent κ))) β} {g : α → Except ε β} (hx : Sends P x.run)
    (hf : ∀ a, f a = ExceptT.mk (pure (g a))) :
    Sends (fun sent result => ∃ answer, P sent answer ∧ result = answer.bind g)
      (x >>= f).run := by
  refine hx.bindExcept (fun sent e h => ⟨.error e, h, rfl⟩) fun sent a h => ?_
  rw [hf]
  exact ret ⟨.ok a, (List.append_nil sent).symm ▸ h, rfl⟩

/-- A step whose failures are those of a fetch. -/
theorem asFetch {cid : Cid} {P : List (Sent κ) → Except ProviderError α → Prop}
    {x : Exchange (σ × List (Sent κ)) α}
    (hx : Sends (fun sent result => P sent (result.mapError fun e => .fetch cid e.message)) x.run) :
    Sends P (x.asFetch cid).run := hx

/-- Sending a request. -/
theorem send (network : Network σ) (sender : κ) (r : Request) :
    Sends (fun sent answer => sent = [⟨sender, r, answer⟩]) ((network.noting sender).send r) :=
  fun _ => ⟨_, rfl, rfl⟩

/-- Nothing is sent by waiting. -/
theorem wait (network : Network σ) (sender : κ) (n : Nat) :
    Sends (fun sent _ => sent = []) ((network.noting sender).wait n) :=
  fun y => ⟨[], (List.append_nil y.2).symm, rfl⟩

/-- Nothing is sent by looking at the clock. -/
theorem now (network : Network σ) (sender : κ) :
    Sends (fun sent seconds => sent = [] ∧ ∃ s, (network.now.run s).1 = seconds)
      (network.noting sender).now :=
  fun y => ⟨[], (List.append_nil y.2).symm, rfl, y.1, rfl⟩

/-- Nothing is sent by visiting the entries of a table. -/
theorem arrange (network : Network σ) (sender : κ) (entries : List (String × String)) :
    Sends (fun sent arranged => sent = [] ∧ arranged.Perm entries)
      ((network.noting sender).arrange entries) :=
  fun y => ⟨[], (List.append_nil y.2).symm, rfl, network.arrange_perm entries y.1⟩

end Sends

/-- The request that is sent, if it can be put together and sent at all. -/
def Request.sendable? (request : Except Failure Request) : Option Request :=
  request.toOption.filter Request.isSendable

namespace Client

variable (network : Network σ) (options : Options) (sender : κ) {r : Request}

/-- An attempt at a request that can be sent sends it. -/
theorem sends_attempt (hr : r.isSendable) :
    Sends (fun sent answer => sent = [⟨sender, r, answer⟩])
      (attempt ⟨network.noting sender, options⟩ r) := by
  rw [attempt, if_pos hr]
  exact .send network sender r

/-- What an attempt at any other request comes to. -/
theorem attempt_of_not_isSendable (c : Client σ) (hr : ¬ r.isSendable) :
    c.attempt r = return .error (.unbuildable (some r.url)) := if_neg hr

/-- **A request that is made once is sent once**, and not at all if it cannot be. -/
theorem sends_sendOnce (url : String) (request : Except Failure Request) :
    Sends (fun sent _ => sent.map Sent.request = (Request.sendable? request).toList)
      (sendOnce ⟨network.noting sender, options⟩ url request).run := by
  cases request with
  | error failure => exact .ret rfl
  | ok r =>
    have hattempt : Sends
        (fun sent _ => sent.map Sent.request = (Request.sendable? (.ok r)).toList)
        (attempt ⟨network.noting sender, options⟩ r) := by
      by_cases hr : r.isSendable
      · refine (sends_attempt network options sender hr).mono fun sent answer hsent => ?_
        rw [hsent, Request.sendable?, Except.toOption, Option.filter_some, if_pos hr]
        rfl
      · rw [attempt_of_not_isSendable _ hr]
        refine .ret ?_
        rw [Request.sendable?, Except.toOption, Option.filter_some, if_neg hr]
        rfl
    refine .bindLift hattempt fun sent answer hsent => ?_
    cases answer with
    | error failure => exact .ret ((List.append_nil sent).symm ▸ hsent)
    | ok response =>
      dsimp only
      split <;> exact .ret ((List.append_nil sent).symm ▸ hsent)

end Client

end AddressedStorage.Http
