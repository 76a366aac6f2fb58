import AddressedStorage.Http.Redirect
import AddressedStorage.Proofs.Http.Exchange

/-!
# Proofs/Http/Trail — what a redirected request sends

A request that may be redirected leaves a **trail** of hops (`Trail`, which follows the recursion of
`Network.sendOn`): one more than redirects are followed, at most.  The requests of a client are **laid
out** in hops (`Laid`), trail by trail.  If every hop meets a passing trouble, the hops are the requests
(`Laid.eq_of_passing`), and the hop that is answered with content is the last of its trail
(`Laid.accepted`).  A network that notes both (`Network.tracing`) keeps them so (`preserves_traced`).
-/

namespace AddressedStorage.Http

variable {σ κ : Type}

/-- A redirect is no passing trouble. -/
theorem Redirects.not_isPassing {rule : Redirects} {r r' : Request} {x : Response}
    (h : rule.next r x = some r') : isPassing (.ok x) = false := by
  have hstatus : ∀ status ∈ redirectStatuses, isRetryStatus status = false := by decide
  exact hstatus _ (rule.status_of_next h)

/-- Nor does a redirect carry content. -/
theorem Redirects.content?_eq_none {rule : Redirects} {r r' : Request} {x : Response}
    (h : rule.next r x = some r') : content? (.ok x) = none := by
  have hstatus : ∀ status ∈ redirectStatuses, ¬ (200 ≤ status && status < 300) := by decide
  exact if_neg (hstatus _ (rule.status_of_next h))

/-! ## One request -/

/-- The hops of a request that may be redirected `left` times, and what they come to. -/
inductive Trail (rule : Redirects) (sender : κ) :
    Nat → Request → List (Sent κ) → Except Failure Response → Prop where
  | ended {left : Nat} {r : Request} {answer : Except Failure Response}
      (h : ∀ x, answer = .ok x → rule.next r x = none) :
    Trail rule sender left r [⟨sender, r, answer⟩] answer
  | lost {r r' : Request} {x : Response} (h : rule.next r x = some r') :
    Trail rule sender 0 r [⟨sender, r, .ok x⟩] (.error (.misdirected (some x.url)))
  | redirected {left : Nat} {r r' : Request} {x : Response} {hops : List (Sent κ)}
      {answer : Except Failure Response} (h : rule.next r x = some r')
      (hrest : Trail rule sender left r' hops answer) :
    Trail rule sender (left + 1) r (⟨sender, r, .ok x⟩ :: hops) answer

namespace Trail

variable {rule : Redirects} {sender : κ} {left : Nat} {r : Request} {hops : List (Sent κ)}
  {answer : Except Failure Response}

theorem length_le (h : Trail rule sender left r hops answer) : hops.length ≤ left + 1 := by
  induction h with
  | ended => exact Nat.le_add_left _ _
  | lost => exact Nat.le_refl _
  | redirected _ _ ih => exact Nat.succ_le_succ ih

theorem sender_eq (h : Trail rule sender left r hops answer) : ∀ x ∈ hops, x.sender = sender := by
  induction h with
  | ended => exact List.forall_mem_singleton.mpr rfl
  | lost => exact List.forall_mem_singleton.mpr rfl
  | redirected _ _ ih => exact List.forall_mem_cons.mpr ⟨rfl, ih⟩

/-- **A request that meets passing trouble only is not redirected.** -/
theorem eq_of_passing (h : Trail rule sender left r hops answer)
    (hall : ∀ x ∈ hops, isPassing x.answer) : hops = [⟨sender, r, answer⟩] := by
  cases h with
  | ended => rfl
  | lost h => exact absurd (hall _ List.mem_cons_self) (by simp [Redirects.not_isPassing h])
  | redirected h => exact absurd (hall _ List.mem_cons_self) (by simp [Redirects.not_isPassing h])

/-- **A trail ends where content is found**, and that is its answer. -/
theorem accepted (h : Trail rule sender left r hops answer) {before after : List (Sent κ)}
    {x : Sent κ} {content : ByteArray} (hhops : hops = before ++ x :: after)
    (hcontent : content? x.answer = some content) : after = [] ∧ answer = x.answer := by
  induction h generalizing before with
  | ended =>
    rcases List.cons_eq_append_iff.mp hhops with ⟨-, hx⟩ | ⟨before', -, hrest⟩
    · obtain ⟨rfl, rfl⟩ := List.cons.inj hx
      exact ⟨rfl, rfl⟩
    · exact absurd hrest.symm (List.append_ne_nil_of_right_ne_nil _ (List.cons_ne_nil _ _))
  | lost h =>
    rcases List.cons_eq_append_iff.mp hhops with ⟨-, hx⟩ | ⟨before', -, hrest⟩
    · obtain ⟨rfl, -⟩ := List.cons.inj hx
      cases (Redirects.content?_eq_none h).symm.trans hcontent
    · exact absurd hrest.symm (List.append_ne_nil_of_right_ne_nil _ (List.cons_ne_nil _ _))
  | redirected h _ ih =>
    rcases List.cons_eq_append_iff.mp hhops with ⟨-, hx⟩ | ⟨before', -, hrest⟩
    · obtain ⟨rfl, -⟩ := List.cons.inj hx
      cases (Redirects.content?_eq_none h).symm.trans hcontent
    · exact ih hrest

end Trail

namespace Network

variable {n : Network σ} {rule : Redirects} {sender : κ} {r : Request}

/-- One hop, and what going on leaves behind it. -/
theorem sends_hop {T : List (Sent κ) → Except Failure Response → Prop}
    {onward : Response → Request → StateM (σ × List (Sent κ)) (Except Failure Response)}
    (hended : ∀ answer, (∀ x, answer = .ok x → rule.next r x = none) →
      T [⟨sender, r, answer⟩] answer)
    (honward : ∀ x r', rule.next r x = some r' →
      Sends (fun hops answer => T (⟨sender, r, .ok x⟩ :: hops) answer) (onward x r')) :
    Sends T ((n.noting sender).hop rule onward r) := by
  refine (Sends.send n sender r).bind fun hops answer hhops => ?_
  obtain rfl := hhops
  rcases answer with failure | x
  · exact .ret (hended _ fun _ h => nomatch h)
  · cases hnext : rule.next r x with
    | none =>
      simp only [hnext]
      exact .ret (hended _ fun _ h => Except.ok.inj h ▸ hnext)
    | some r' =>
      simp only [hnext]
      exact honward x r' hnext

variable (n rule sender r) in
/-- **A request leaves a trail of hops.** -/
theorem sends_sendOn (left : Nat) :
    Sends (Trail rule sender left r) ((n.noting sender).sendOn rule left r) := by
  induction left generalizing r with
  | zero => exact sends_hop (fun _ => .ended) fun x r' hnext => .ret (.lost hnext)
  | succ left ih =>
    exact sends_hop (fun _ => .ended) fun x r' hnext =>
      (ih r').mono fun _ _ hrest => .redirected hnext hrest

section

variable {s t : σ} {x : Response} {r' : Request}
  {onward : Response → Request → StateM σ (Except Failure Response)}

/-- A hop that gets no answer. -/
theorem run_hop_of_error {failure : Failure} (h : (n.send r).run s = (.error failure, t)) :
    (n.hop rule onward r).run s = (.error failure, t) := by
  rw [hop, runState_bind h]
  rfl

/-- A hop that is not redirected. -/
theorem run_hop_of_ended (h : (n.send r).run s = (.ok x, t)) (hnext : rule.next r x = none) :
    (n.hop rule onward r).run s = (.ok x, t) := by
  rw [hop, runState_bind h]
  simp only [hnext]
  rfl

/-- A hop that is redirected. -/
theorem run_hop_of_redirected (h : (n.send r).run s = (.ok x, t))
    (hnext : rule.next r x = some r') :
    (n.hop rule onward r).run s = (onward x r').run t := by
  rw [hop, runState_bind h]
  simp only [hnext]

theorem exists_next_eq_none_of_hop (h : ((n.hop rule onward r).run s).1 = .ok x)
    (honward : ∀ y r' t, ((onward y r').run t).1 = .ok x → ∃ asked, rule.next asked x = none) :
    ∃ asked, rule.next asked x = none := by
  rcases hanswer : (n.send r).run s with ⟨failure | y, t⟩
  · rw [run_hop_of_error hanswer] at h
    cases h
  · rcases hnext : rule.next r y with _ | r'
    · rw [run_hop_of_ended hanswer hnext] at h
      exact ⟨r, Except.ok.inj h ▸ hnext⟩
    · rw [run_hop_of_redirected hanswer hnext] at h
      exact honward y r' t h

end

/-- **What is answered on a network that follows redirects** redirects nothing any more. -/
theorem exists_next_eq_none {left : Nat} {x : Response} {s : σ}
    (h : ((n.sendOn rule left r).run s).1 = .ok x) : ∃ asked, rule.next asked x = none := by
  induction left generalizing r s with
  | zero =>
    refine exists_next_eq_none_of_hop h fun _ _ _ hlost => ?_
    cases hlost
  | succ left ih => exact exists_next_eq_none_of_hop h fun _ _ _ => ih

/-- **Where nothing redirects**, following redirects is sending. -/
theorem sendOn_eq_send
    (h : ∀ asked s x, ((n.send asked).run s).1 = .ok x → rule.next asked x = none) (left : Nat) :
    n.sendOn rule left r = n.send r := by
  have hhop : ∀ onward s, (n.hop rule onward r).run s = (n.send r).run s := by
    intro onward s
    rcases hanswer : (n.send r).run s with ⟨failure | x, t⟩
    · exact run_hop_of_error hanswer
    · exact run_hop_of_ended hanswer (h r s x (congrArg Prod.fst hanswer))
  cases left <;> exact funext (hhop _)

end Network

/-! ## The requests of a client -/

/-- Requests and the hops they took, one trail after the other. -/
inductive Laid (rule : Redirects) : List (Sent κ) → List (Sent κ) → Prop where
  | nil : Laid rule [] []
  | cons {x : Sent κ} {sent trail hops : List (Sent κ)}
      (htrail : Trail rule x.sender rule.limit x.request trail x.answer)
      (hrest : Laid rule sent hops) : Laid rule (x :: sent) (trail ++ hops)

namespace Laid

variable {rule : Redirects} {sent later hops rest : List (Sent κ)}

theorem append (h : Laid rule sent hops) (hlater : Laid rule later rest) :
    Laid rule (sent ++ later) (hops ++ rest) := by
  induction h with
  | nil => exact hlater
  | cons htrail _ ih =>
    rw [List.append_assoc]
    exact .cons htrail ih

/-- **Redirects lengthen what is sent by a bounded factor.** -/
theorem length_le (h : Laid rule sent hops) : hops.length ≤ sent.length * (rule.limit + 1) := by
  induction h with
  | nil => exact Nat.zero_le _
  | cons htrail _ ih =>
    rw [List.length_append, List.length_cons, Nat.succ_mul, Nat.add_comm]
    exact Nat.add_le_add ih htrail.length_le

/-- **Where every hop meets a passing trouble, the hops are the requests.** -/
theorem eq_of_passing (h : Laid rule sent hops) (hall : ∀ x ∈ hops, isPassing x.answer) :
    hops = sent := by
  induction h with
  | nil => rfl
  | cons htrail _ ih =>
    obtain ⟨hfirst, hrest⟩ := List.forall_mem_append.mp hall
    rw [htrail.eq_of_passing hfirst, ih hrest]
    rfl

/-- **The hop that finds content** is the last of a request that is answered with it. -/
theorem accepted (h : Laid rule sent hops) {before after : List (Sent κ)} {x : Sent κ}
    {content : ByteArray} (hhops : hops = before ++ x :: after)
    (hcontent : content? x.answer = some content) :
    ∃ earlier y later, sent = earlier ++ y :: later ∧ y.sender = x.sender ∧ y.answer = x.answer ∧
      Laid rule later after := by
  induction h generalizing before with
  | nil => exact absurd hhops.symm (List.append_ne_nil_of_right_ne_nil _ (List.cons_ne_nil _ _))
  | @cons z sent trail hops htrail hrest ih =>
    rcases List.append_eq_append_iff.mp hhops with ⟨front, -, hafter⟩ | ⟨back, hback, hafter⟩
    · obtain ⟨earlier, y, later, rfl, hy⟩ := ih hafter
      exact ⟨z :: earlier, y, later, rfl, hy⟩
    · cases back with
      | nil =>
        obtain ⟨earlier, y, later, rfl, hy⟩ := ih (hafter.symm.trans (List.nil_append _).symm)
        exact ⟨z :: earlier, y, later, rfl, hy⟩
      | cons y back =>
        obtain ⟨rfl, rfl⟩ := List.cons.inj hafter
        obtain ⟨rfl, hanswer⟩ := htrail.accepted hback hcontent
        have hsender := htrail.sender_eq x (hback ▸ List.mem_append_cons_self)
        exact ⟨[], z, sent, rfl, hsender.symm, hanswer, hrest⟩

end Laid

/-! ## Noting both -/

/-- Every step on a network preserves a predicate. -/
structure Network.Preserves (P : σ → Prop) (n : Network σ) : Prop where
  send : ∀ r s, P s → P ((n.send r).run s).2
  wait : ∀ k s, P s → P ((n.wait k).run s).2
  now : ∀ s, P s → P (n.now.run s).2
  arrange : ∀ entries s, P s → P ((n.arrange entries).run s).2

/-- A network that follows redirects, and notes the requests of a sender and the hops they take. -/
def Network.tracing (wire : Network σ) (rule : Redirects) (sender : κ) :
    Network ((σ × List (Sent κ)) × List (Sent κ)) :=
  ((wire.noting sender).following rule).noting sender

/-- The hops noted since a start are those of the requests noted since then. -/
def Traced (rule : Redirects) (start y : (σ × List (Sent κ)) × List (Sent κ)) : Prop :=
  ∃ sent hops, y.2 = start.2 ++ sent ∧ y.1.2 = start.1.2 ++ hops ∧ Laid rule sent hops

/-- To begin with there are none. -/
theorem Traced.refl (rule : Redirects) (start : (σ × List (Sent κ)) × List (Sent κ)) :
    Traced rule start start :=
  ⟨[], [], (List.append_nil _).symm, (List.append_nil _).symm, .nil⟩

/-- **Requests and hops are noted together.** -/
theorem Network.preserves_traced (wire : Network σ) (rule : Redirects) (sender : κ)
    (start : (σ × List (Sent κ)) × List (Sent κ)) :
    (wire.tracing rule sender).Preserves (Traced rule start) where
  send r := by
    rintro y ⟨sent, hops, hsent, hhops, hlaid⟩
    obtain ⟨trail, hnoted, htrail⟩ := wire.sends_sendOn rule sender r rule.limit y.1
    have hone := Laid.cons (x := ⟨sender, r, _⟩) htrail .nil
    rw [List.append_nil] at hone
    refine ⟨_, _, ?_, ?_, hlaid.append hone⟩
    · rw [← List.append_assoc, ← hsent]
      rfl
    · rw [← List.append_assoc, ← hhops]
      exact hnoted
  wait _ _ h := h
  now _ h := h
  arrange _ _ h := h

end AddressedStorage.Http
