import AddressedStorage.Proofs.Http.Trail
import AddressedStorage.Proofs.Vendor.Adapter

/-!
# Proofs/Vendor/Steady — what every call to a vendor preserves

A call to a vendor is put together from steps on a network and from checks.  So what every step on the
network preserves (`Network.Preserves`) is preserved by sending a request, whatever is answered
(`Client.preserves_send`), and by every call to every vendor (`Adapter.preserves`).
-/

namespace AddressedStorage

open Http

variable {σ α : Type} {P : σ → Prop}

/-! ## Sending -/

namespace Preserves

variable {ε : Type}

/-- A step that cannot fail. -/
theorem lift {x : StateM σ α} (hx : ∀ s, P s → P (x.run s).2) :
    Preserves P (liftM x : ExceptT ε (StateM σ) α) := hx

theorem asFetch {x : Exchange σ α} (hx : Preserves P x) (cid : Cid) :
    Preserves P (x.asFetch cid) := hx

theorem asUpload {x : Exchange σ α} (hx : Preserves P x) : Preserves P x.asUpload := hx

theorem asPin {x : Exchange σ α} (hx : Preserves P x) (cid : Cid) : Preserves P (x.asPin cid) := hx

/-- A check in the middle of an exchange. -/
theorem check (x : Except ExchangeError α) :
    Preserves P (Exchange.ofExcept x : Exchange σ α) := fun _ h => h

theorem content (r : Response) : Preserves P (r.content : Exchange σ ByteArray) := by
  rw [Response.content_eq_judged]
  exact check _

theorem decode (read : Document → Option α) (r : Response) :
    Preserves P (r.decode read : Exchange σ α) := by
  rw [Response.decode]
  cases r.document?.bind read with
  | some a => exact ret a
  | none => exact fail _

end Preserves

namespace Http.Client

variable {c : Client σ} (h : c.network.Preserves P)

include h

theorem preserves_attempt (r : Request) (s : σ) (hs : P s) : P ((c.attempt r).run s).2 := by
  rw [attempt]
  split
  · exact h.send r s hs
  · exact hs

theorem preserves_sendFrom (r : Request) (done left : Nat) (s : σ) (hs : P s) :
    P ((c.sendFrom r done left).run s).2 := by
  induction left generalizing done s with
  | zero =>
    rw [sendFrom_zero]
    exact preserves_attempt h r s hs
  | succ left ih =>
    have hattempt := preserves_attempt h r s hs
    rcases hanswer : (c.attempt r).run s with ⟨answer, t⟩
    rw [hanswer] at hattempt
    rw [sendFrom_succ, runState_bind hanswer]
    split
    · exact ih (done + 1) _ (h.wait _ t hattempt)
    · exact hattempt

/-- **Sending a request** preserves what its network preserves. -/
theorem preserves_send (request : Except Failure Request) :
    AddressedStorage.Preserves P (c.send request) := by
  cases request with
  | error failure => exact .fail _
  | ok r => exact fun s hs => preserves_sendFrom h r 0 _ s hs

omit h in
/-- A request that cannot be sent leaves everything as it is. -/
theorem preserves_send_of_not_ready {request : Except Failure Request}
    (hrequest : ¬ Request.Ready request) : AddressedStorage.Preserves P (c.send request) := by
  cases request with
  | error failure => exact .fail _
  | ok r =>
    have hr : ¬ r.isSendable := fun hr => hrequest (Request.ready_iff.mpr ⟨r, rfl, hr⟩)
    intro s hs
    rw [send, ExceptT.run_mk, sendFrom_of_not_isSendable c hr]
    exact hs

end Http.Client

/-! ## Each vendor -/

namespace Vendor

variable {c : Client σ} (h : c.network.Preserves P)

theorem preserves_reportedCid (text : String) : Preserves P (reportedCid text : Action σ Cid) :=
  .ofExcept _

theorem preserves_deny (provider : String) (operation : Operation) :
    Preserves P (deny provider operation : Action σ α) := .fail _

include h

theorem preserves_fetchFrom (base : String) (cid : Cid) : Preserves P (fetchFrom c base cid) :=
  .asFetch (.bind (Client.preserves_send h _) .content) cid

/-- An upload whose answer reports the identifier in a field. -/
theorem preserves_upload (request : Except Failure Request) (field : String) :
    Preserves P (do
      let response ← (c.send request).asUpload
      reportedCid (← (response.decode (Document.single? field Document.text?)).asUpload)) :=
  .bind (.asUpload (Client.preserves_send h _)) fun response =>
    .bind (.asUpload (.decode _ response)) preserves_reportedCid

theorem PublicGateway.preserves (g : PublicGateway) : (g.backend c).Preserves P where
  fetch cid := preserves_fetchFrom h g.url cid
  upload _ _ := preserves_deny g.name .upload
  pin _ := preserves_deny g.name .pin

omit h in
/-- A gateway that cannot be asked leaves everything as it is. -/
theorem PublicGateway.preserves_of_not_ready {g : PublicGateway}
    (hg : ∀ cid, ¬ Request.Ready (Request.ofAddress .get (contentUrl g.url cid))) :
    (g.backend c).Preserves P where
  fetch cid := .asFetch (.bind (Client.preserves_send_of_not_ready (hg cid)) .content) cid
  upload _ _ := preserves_deny g.name .upload
  pin _ := preserves_deny g.name .pin

theorem Kubo.preserves (k : Kubo) : (k.backend c).Preserves P where
  fetch cid := preserves_fetchFrom h k.gatewayUrl cid
  upload _ _ := preserves_upload h _ "Hash"
  pin cid := by
    refine .bind (.asPin (Client.preserves_send h _) cid) fun response =>
      .bind (.asPin (.decode _ response) cid) fun pins => ?_
    cases pins with
    | nil => exact .fail _
    | cons pinned others =>
      dsimp only
      split
      · exact .ret _
      · exact .fail _

theorem Pinata.preserves (p : Pinata) : (p.backend c).Preserves P where
  fetch cid := preserves_fetchFrom h p.gatewayUrl cid
  upload _ _ := preserves_upload h _ "IpfsHash"
  pin _ := preserves_deny Pinata.name .pin

theorem PinningNode.preserves (k : PinningNode) : (k.backend c).Preserves P where
  fetch cid := .asFetch (.bind (Client.preserves_send h _) .content) cid
  upload _ _ := preserves_upload h _ "cid"
  pin _ := .ret _

theorem Gw3.preserves_call (hash : HashFunction) (g : Gw3) (method : Method) (path : String)
    (arguments : List Form.Pair) : Preserves P (g.call hash c method path arguments) := by
  refine .bind (.lift h.now) fun time => ?_
  cases time with
  | negSucc k => exact .fail _
  | ofNat seconds => exact .bind (.check _) fun signed => Client.preserves_send h _

theorem Gw3.preserves (hash : HashFunction) (g : Gw3) : (g.backend hash c).Preserves P where
  fetch cid := .asFetch (.bind (g.preserves_call h hash _ _ _) .content) cid
  upload content _ := by
    refine .bind (.asUpload (g.preserves_call h hash _ _ _)) fun slot =>
      .bind (.asUpload (.decode _ slot)) fun url =>
      .bind (.asUpload (Client.preserves_send h _)) fun response => ?_
    cases response.headerText? Gw3.hashHeader.toLower with
    | some text => exact preserves_reportedCid text
    | none => exact .fail _
  pin cid := .asPin (.bind (g.preserves_call h hash _ _ _) fun _ => .ret _) cid

namespace Storacha

theorem preserves_invoke (s : Storacha) (ability : String) (arguments : Document)
    (read : Document → Option α) : Preserves P (s.invoke c ability arguments read) := by
  refine .bind (Client.preserves_send h _) fun response => .bind (.decode _ response) ?_
  rintro (_ | ⟨value | reason, rest⟩)
  · exact .fail _
  · exact .ret _
  · exact .fail _

theorem preserves_putShard (added : StoreAdded) (car : Car.Archive) :
    Preserves P (putShard c added car) := by
  rw [putShard]
  cases added.url with
  | none => exact .fail _
  | some url =>
    exact .bind (.lift (h.arrange added.headers)) fun entries => .bind (.check _) fun headers =>
      .bind (Client.preserves_send h _) fun _ => .ret _

theorem preserves (hash : HashFunction) (s : Storacha) : (s.backend c hash).Preserves P where
  fetch cid := preserves_fetchFrom h s.gatewayUrl cid
  upload content _ := by
    refine .bind (.ofExcept _) fun car => .bind (.asUpload (s.preserves_invoke h _ _ _)) fun added => ?_
    have hlink : Preserves P (do
        reportedCid (← (s.invoke c "upload/add" (linkArguments car) linkedRoot?).asUpload)) :=
      .bind (.asUpload (s.preserves_invoke h _ _ _)) preserves_reportedCid
    by_cases hstatus : added.status = "upload"
    · simp only [if_pos hstatus]
      exact .bind (.asUpload (preserves_putShard h added car)) fun _ => hlink
    · simp only [if_neg hstatus]
      exact hlink
  pin _ := preserves_deny Storacha.name .pin

end Storacha

/-- **Every call to every vendor** preserves what its network preserves. -/
theorem Adapter.preserves (hash : HashFunction) (a : Adapter) : (a.backend hash c).Preserves P := by
  cases a with
  | kubo k => exact k.preserves h
  | pinata p => exact p.preserves h
  | pinningNode k => exact k.preserves h
  | gw3 g => exact g.preserves h hash
  | storacha s => exact s.preserves h hash
  | publicGateway g => exact g.preserves h

end Vendor

end AddressedStorage
