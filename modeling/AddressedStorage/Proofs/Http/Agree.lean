import AddressedStorage.Http.Redirect
import AddressedStorage.Proofs.Http.Exchange
import AddressedStorage.Proofs.Provider.Related

/-!
# Proofs/Http/Agree — two networks side by side

Two networks **agree** if like requests are answered alike or lost in the same way, if their clocks
show the same time, and if both visit the entries of a table in one order (`Network.Agree`).  What may
differ in requests and answers is a parameter.  Like requests are then sent equally often, and come to
like answers or to failures that differ in the address they name only (`Agree.send_alike`).  They still
agree if they note requests (`Agree.noting`), or follow redirects that keep requests like
(`Agree.following`).  Networks that play replies agree if their replies do (`agree_playing`).
-/

namespace AddressedStorage.Http

variable {σ τ κ α β : Type}

/-- Two requests are answered alike, or lost in the same way.  Requests to one address are answered
from one address as well. -/
inductive Answered (P : Response → Response → Prop) (r r' : Request) :
    Except Failure Response → Except Failure Response → Prop where
  | response {x y : Response} (hstatus : x.status = y.status)
      (hurl : r.url = r'.url → x.url = y.url) (h : P x y) : Answered P r r' (.ok x) (.ok y)
  | lost {f g : Failure} (hkind : f.withoutUrl = g.withoutUrl) (hurl : r.url = r'.url → f = g) :
    Answered P r r' (.error f) (.error g)

/-- Two failures of one kind, which are the same if the addresses that were asked are. -/
inductive Refused (u u' : Url) : ExchangeError → ExchangeError → Prop where
  | status (code : Nat) {place place' : String} (hurl : u = u' → place = place') :
    Refused u u' (.status place code) (.status place' code)
  | http {f g : Failure} (hkind : f.withoutUrl = g.withoutUrl) (hurl : u = u' → f = g) :
    Refused u u' (.http f) (.http g)

/-- Failures at one address are the same. -/
theorem Refused.eq {u : Url} {e d : ExchangeError} (h : Refused u u e d) : e = d := by
  cases h with
  | status code hurl => rw [hurl rfl]
  | http hkind hurl => rw [hurl rfl]

/-- Whether a failure may pass does not depend on the address it names. -/
theorem isTransient_withoutUrl (f : Failure) : f.withoutUrl.isTransient = f.isTransient := by
  rcases f with _ | ⟨_ | _ | _, _⟩ | _ | _ <;> rfl

/-- From related states, like requests are answered alike and leave related states behind. -/
structure Network.Agree (R : σ → τ → Prop) (Q : Request → Request → Prop)
    (P : Response → Response → Prop) (n : Network σ) (m : Network τ) : Prop where
  send : ∀ r r', Q r r' → Paired R (Answered P r r') (n.send r) (m.send r')
  wait : ∀ k, Paired R (fun _ _ => True) (n.wait k) (m.wait k)
  now : Paired R Eq n.now m.now
  arrange : ∀ entries, Paired R Eq (n.arrange entries) (m.arrange entries)

namespace Answered

variable {P : Response → Response → Prop} {r r' : Request} {x y : Except Failure Response}

theorem isPassing_eq (h : Answered P r r' x y) : isPassing x = isPassing y := by
  cases h with
  | response hstatus => exact congrArg isRetryStatus hstatus
  | @lost f g hkind =>
    change f.isTransient = g.isTransient
    rw [← isTransient_withoutUrl, hkind, isTransient_withoutUrl]

/-- What is like from two addresses is so from two others, if these are one only where those are. -/
theorem of_url {q q' : Request} (h : Answered P q q' x y) (hurl : r.url = r'.url → q.url = q'.url) :
    Answered P r r' x y := by
  cases h with
  | response hstatus hsame h => exact .response hstatus (hsame ∘ hurl) h
  | lost hkind hsame => exact .lost hkind (hsame ∘ hurl)

/-- What comes of like answers. -/
theorem outcome (h : Answered P r r' x y) :
    Alike (Refused r.url r'.url) P (outcome x) (outcome y) := by
  cases h with
  | lost hkind hurl => exact .error (.http hkind hurl)
  | @response x y hstatus hurl h =>
    have hsuccess : x.isSuccess = y.isSuccess := by
      rw [Response.isSuccess, Response.isSuccess, hstatus]
    rw [Http.outcome, Http.outcome, ← hsuccess, ← hstatus]
    split
    · exact .ok h
    · exact .error (.status x.status fun hsame => by rw [hurl hsame])

end Answered

/-- Like answers to like requests lead to like requests or are no redirects, and from one address they
lead to one address. -/
def Redirects.Respects (rule : Redirects) (Q : Request → Request → Prop)
    (P : Response → Response → Prop) : Prop :=
  ∀ r r' x y, Q r r' → Answered P r r' (.ok x) (.ok y) →
    Option.Rel (fun q q' => Q q q' ∧ (r.url = r'.url → q.url = q'.url)) (rule.next r x)
      (rule.next r' y)

/-- What is to be seen instead is read off the status and the headers. -/
theorem Redirects.seeOther_respects {Q : Request → Request → Prop} {P : Response → Response → Prop}
    (hP : ∀ x y, P x y → x.headers = y.headers)
    (hQ : ∀ r r' x y u, Q r r' → x.status = y.status → x.headers = y.headers →
      seeOther.next r x = some (reading r u) → seeOther.next r' y = some (reading r' u) →
        Q (reading r u) (reading r' u)) : seeOther.Respects Q P := by
  rintro r r' x y hr hxy
  cases hxy with
  | response hstatus hurl h =>
    have hheaders := hP x y h
    have hlocation : location? x = location? y := by
      rw [location?, location?, Response.headerText?, Response.headerText?, Response.header?,
        Response.header?, hheaders]
    have hleft : seeOther.next r x = if x.status = 303 then (location? x).map (reading r) else none := rfl
    have hright : seeOther.next r' y = if y.status = 303 then (location? y).map (reading r') else none :=
      rfl
    rw [hlocation, hstatus] at hleft
    by_cases hsee : y.status = 303
    · rw [if_pos hsee] at hleft hright
      cases hu : location? y with
      | none =>
        rw [hleft, hright, hu]
        exact .none
      | some u =>
        rw [hu] at hleft hright
        rw [hleft, hright]
        exact .some ⟨hQ r r' x y u hr hstatus hheaders hleft hright, fun _ => rfl⟩
    · rw [if_neg hsee] at hleft hright
      rw [hleft, hright]
      exact .none

/-! ## Sending -/

namespace Network.Agree

variable {R : σ → τ → Prop} {Q : Request → Request → Prop} {P : Response → Response → Prop}
  {n : Network σ} {m : Network τ}

/-- **Networks that agree still do if they note the requests**, which stay like. -/
theorem noting (h : n.Agree R Q P m) (sender : κ) :
    (n.noting sender).Agree
      (fun x y => R x.1 y.1 ∧ List.Forall₂ Q (x.2.map Sent.request) (y.2.map Sent.request)) Q P
      (m.noting sender) where
  send r r' hr := by
    rintro ⟨s, notes⟩ ⟨t, notes'⟩ ⟨hR, hnotes⟩
    obtain ⟨hanswer, hstate⟩ := h.send r r' hr s t hR
    refine ⟨hanswer, hstate, ?_⟩
    change List.Forall₂ Q ((notes ++ [_]).map Sent.request) ((notes' ++ [_]).map Sent.request)
    rw [List.map_append, List.map_append]
    exact List.rel_append hnotes (.cons hr .nil)
  wait k := fun _ _ ⟨hR, hnotes⟩ => ⟨trivial, (h.wait k _ _ hR).2, hnotes⟩
  now := fun _ _ ⟨hR, hnotes⟩ => ⟨(h.now _ _ hR).1, (h.now _ _ hR).2, hnotes⟩
  arrange entries := fun _ _ ⟨hR, hnotes⟩ =>
    ⟨(h.arrange entries _ _ hR).1, (h.arrange entries _ _ hR).2, hnotes⟩

variable {rule : Redirects} {o : Options} {r r' : Request}

/-- One hop, if going on is alike. -/
theorem hop (h : n.Agree R Q P m) (hrule : rule.Respects Q P) (hr : Q r r')
    {onward : Response → Request → StateM σ (Except Failure Response)}
    {onward' : Response → Request → StateM τ (Except Failure Response)}
    (honward : ∀ x y q q', (r.url = r'.url → x.url = y.url) → Q q q' →
      (r.url = r'.url → q.url = q'.url) → Paired R (Answered P r r') (onward x q) (onward' y q')) :
    Paired R (Answered P r r') (n.hop rule onward r) (m.hop rule onward' r') := by
  refine (h.send r r' hr).bind fun answer answer' hanswer => ?_
  cases hanswer with
  | lost hkind hurl => exact .ret (.lost hkind hurl)
  | @response x y hstatus hurl hP =>
    have hnext := hrule r r' x y hr (.response hstatus hurl hP)
    dsimp only
    generalize rule.next r x = next, rule.next r' y = next' at hnext ⊢
    cases hnext with
    | none => exact .ret (.response hstatus hurl hP)
    | some hq => exact honward x y _ _ hurl hq.1 hq.2

/-- Like requests are sent on in the same way. -/
theorem sendOn (h : n.Agree R Q P m) (hrule : rule.Respects Q P) (left : Nat) (hr : Q r r') :
    Paired R (Answered P r r') (n.sendOn rule left r) (m.sendOn rule left r') := by
  induction left generalizing r r' with
  | zero => exact h.hop hrule hr fun x y _ _ hurl _ _ => .ret (.lost rfl fun hsame => by rw [hurl hsame])
  | succ left ih =>
    exact h.hop hrule hr fun _ _ _ _ _ hq hurl s t hR =>
      ⟨((ih hq s t hR).1).of_url hurl, (ih hq s t hR).2⟩

/-- **Networks that agree still do if they follow redirects.** -/
theorem following (h : n.Agree R Q P m) (hrule : rule.Respects Q P) :
    (n.following rule).Agree R Q P (m.following rule) :=
  { h with send := fun _ _ hr => h.sendOn hrule rule.limit hr }

/-- **Like requests are sent equally often**, and come to like answers or failures. -/
theorem sendFrom (h : n.Agree R Q P m) (hr : Q r r') (hsendable : r.isSendable = r'.isSendable)
    (done left : Nat) :
    Paired R (Alike (Refused r.url r'.url) P) (Client.sendFrom ⟨n, o⟩ r done left)
      (Client.sendFrom ⟨m, o⟩ r' done left) := by
  by_cases hs : r.isSendable
  · have hattempt : Paired R (Answered P r r') (Client.attempt ⟨n, o⟩ r)
        (Client.attempt ⟨m, o⟩ r') := by
      rw [Client.attempt, Client.attempt, if_pos hs, if_pos (hsendable ▸ hs)]
      exact h.send r r' hr
    induction left generalizing done with
    | zero =>
      rw [Client.sendFrom_zero, Client.sendFrom_zero]
      exact hattempt.bind fun x y hxy => .ret hxy.outcome
    | succ left ih =>
      rw [Client.sendFrom_succ, Client.sendFrom_succ]
      refine hattempt.bind fun x y hxy => ?_
      rw [hxy.isPassing_eq]
      by_cases hpassing : isPassing y
      · rw [if_pos hpassing, if_pos hpassing]
        exact (h.wait _).bind fun _ _ _ => ih (done + 1)
      · rw [if_neg hpassing, if_neg hpassing]
        exact .ret hxy.outcome
  · rw [Client.sendFrom_of_not_isSendable _ hs,
      Client.sendFrom_of_not_isSendable _ (hsendable ▸ hs)]
    exact .ret (.error (.http rfl fun hsame => by rw [hsame]))

/-- **Sending like requests.**  What may differ in the failures is a parameter as well. -/
theorem send_alike {E : ExchangeError → ExchangeError → Prop} (h : n.Agree R Q P m)
    {request request' : Except Failure Request}
    (hrequest : Alike (fun f g => E (.http f) (.http g))
      (fun r r' => Q r r' ∧ r.isSendable = r'.isSendable ∧ ∀ e d, Refused r.url r'.url e d → E e d)
      request request') :
    Related R E P (Client.send ⟨n, o⟩ request) (Client.send ⟨m, o⟩ request') := by
  cases hrequest with
  | error hE => exact .fail hE
  | ok hr =>
    obtain ⟨hQ, hsendable, hE⟩ := hr
    intro s t hR
    obtain ⟨hresult, hstate⟩ := h.sendFrom hQ hsendable 0 o.retries.toNat s t hR
    exact ⟨hresult.mono hE fun _ _ => id, hstate⟩

/-- **Requests to one address** fail alike in every word. -/
theorem send_eq (h : n.Agree R Q P m) {request request' : Except Failure Request}
    (hrequest : Alike Eq (fun r r' => Q r r' ∧ r.url = r'.url) request request') :
    Related R Eq P (Client.send ⟨n, o⟩ request) (Client.send ⟨m, o⟩ request') := by
  refine h.send_alike (hrequest.mono (fun _ _ => congrArg _) ?_)
  rintro r r' ⟨hQ, hurl⟩
  refine ⟨hQ, ?_, fun e d he => (hurl ▸ he).eq⟩
  rw [Request.isSendable, Request.isSendable, hurl]

end Network.Agree

/-! ## Reading answers -/

section

variable {R : σ → τ → Prop} {x y : Response}

/-- The body of one answer. -/
theorem related_content (x : Response) :
    Related R Eq Eq (x.content : Exchange σ ByteArray) (x.content : Exchange τ ByteArray) := by
  rw [Response.content_eq_judged, Response.content_eq_judged]
  exact .judged (.refl (fun _ => rfl) (fun _ => rfl) _)

/-- What two answers say, if both are understood or neither. -/
theorem related_decode {Q : α → β → Prop} {read : Document → Option α}
    {read' : Document → Option β}
    (h : Option.Rel Q (x.document?.bind read) (y.document?.bind read')) :
    Related R Eq Q (x.decode read : Exchange σ α) (y.decode read' : Exchange τ β) := by
  rw [Response.decode, Response.decode]
  generalize x.document?.bind read = said, y.document?.bind read' = other at h ⊢
  cases h with
  | some h => exact .ret h
  | none => exact .fail rfl

end

/-! ## Playing replies -/

namespace Network

/-- A network that plays a list of replies, one to a request, at a fixed time.  Each comes from the
address that was asked.  When the list is at its end nobody listens any more. -/
def playing : Network (List (Except Loss Answer) × Int) where
  send r := fun (replies, seconds) =>
    match replies with
    | [] => (.error (.unanswered .refused (some r.url)), ([], seconds))
    | .ok content :: later => (.ok { content with url := r.url }, (later, seconds))
    | .error loss :: later => (.error (.unanswered loss (some r.url)), (later, seconds))
  wait _ := return
  now := return (← get).2

/-- A network that plays replies and on which the entries of a table are visited in some order. -/
def visiting (order : List (String × String) → List (String × String))
    (h : ∀ entries, (order entries).Perm entries) : Network (List (Except Loss Answer) × Int) :=
  { playing with
    arrange := fun entries => return order entries
    arrange_perm := fun entries _ => h entries }

/-- **Replies that are alike, played at one time.** -/
theorem agree_playing {Q : Request → Request → Prop} {A : Answer → Answer → Prop}
    {P : Response → Response → Prop}
    (hP : ∀ r r' a b, Q r r' → A a b →
      P { toAnswer := a, url := r.url } { toAnswer := b, url := r'.url }) :
    playing.Agree (fun x y =>
        List.Forall₂ (Alike Eq fun a b => a.status = b.status ∧ A a b) x.1 y.1 ∧ x.2 = y.2)
      Q P playing where
  send r r' hr := by
    have hlost : ∀ loss, Answered P r r' (.error (.unanswered loss (some r.url)))
        (.error (.unanswered loss (some r'.url))) := fun loss =>
      .lost rfl fun hsame => by rw [hsame]
    rintro ⟨replies, seconds⟩ ⟨replies', seconds'⟩ ⟨hreplies, hseconds⟩
    cases hreplies with
    | nil => exact ⟨hlost .refused, .nil, hseconds⟩
    | cons hreply hlater =>
      cases hreply with
      | ok h => exact ⟨.response h.1 id (hP r r' _ _ hr h.2), hlater, hseconds⟩
      | @error loss _ h => exact ⟨h ▸ hlost loss, hlater, hseconds⟩
  wait _ := .ret trivial
  now := fun _ _ h => ⟨h.2, h⟩
  arrange _ := .ret rfl

end Network

end AddressedStorage.Http
