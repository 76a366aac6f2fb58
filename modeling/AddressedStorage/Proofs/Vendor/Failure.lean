import AddressedStorage.Proofs.Vendor.Storacha

/-!
# Proofs/Vendor/Failure — how the calls of a vendor fail

The failures of an exchange are told in other words where a call ends: reading fails as a fetch of
what was asked for, pinning as a pin of it (`Fails`).  An upload comes to the identifier that is
reported, and where that stands in the answers differs from vendor to vendor
(`Adapter.reportedText?`).  A call of an operation that is not offered is refused (`Backend.Gated`).
-/

namespace AddressedStorage

open Http

variable {σ κ α β : Type}

/-! ## Kinds of failures -/

/-- What every failure of a step satisfies. -/
def Fails (E : ProviderError → Prop) (x : Action σ α) : Prop :=
  ∀ s e, (x.run.run s).1 = .error e → E e

namespace Fails

variable {E : ProviderError → Prop}

theorem ret (a : α) : Fails E (pure a : Action σ α) := fun _ _ h => nomatch h

theorem fail {e : ProviderError} (h : E e) : Fails E (throw e : Action σ α) :=
  fun _ _ he => Except.error.inj he ▸ h

theorem bind {x : Action σ α} {f : α → Action σ β} (hx : Fails E x) (hf : ∀ a, Fails E (f a)) :
    Fails E (x >>= f) := by
  intro s e he
  rw [run_bind] at he
  rcases hrun : x.run.run s with ⟨e' | a, t⟩ <;> rw [hrun] at he
  · obtain rfl := Except.error.inj he
    exact hx s e' (congrArg Prod.fst hrun)
  · exact hf a t e he

/-- A step whose failures are told in other words. -/
theorem adapt {x : Exchange σ α} {f : ExchangeError → ProviderError} (h : ∀ e, E (f e)) :
    Fails E (ExceptT.adapt f x : Action σ α) := by
  intro s e he
  obtain ⟨cause, -, rfl⟩ := mapError_eq_error_iff.mp (he : ((x.run.run s).1.mapError f) = _)
  exact h cause

end Fails

/-- A call is refused just if the operation is not offered, and then nothing happens. -/
structure Backend.Gated (b : Backend σ) (operation : Operation) (x : Action σ α) : Prop where
  refused_iff : ∀ s,
    (∃ provider refused, (x.run.run s).1 = .error (.unsupported provider refused)) ↔
      ¬ b.capabilities.supports operation
  run_of_denied : ¬ b.capabilities.supports operation →
    ∀ s, x.run.run s = (.error (.unsupported b.name operation), s)

namespace Backend.Gated

variable {b : Backend σ} {operation : Operation}

/-- A call of an operation that is offered is not refused. -/
theorem of_fails {E : ProviderError → Prop} {x : Action σ α}
    (hsupports : b.capabilities.supports operation) (h : Fails E x)
    (hE : ∀ provider refused, ¬ E (.unsupported provider refused)) : b.Gated operation x where
  refused_iff s := by
    refine iff_of_false ?_ (not_not_intro hsupports)
    rintro ⟨provider, refused, hrefused⟩
    exact hE provider refused (h s _ hrefused)
  run_of_denied hdenied := absurd hsupports hdenied

theorem of_denied (hdenied : ¬ b.capabilities.supports operation) :
    b.Gated operation (Vendor.deny b.name operation : Action σ α) where
  refused_iff _ := iff_of_true ⟨_, _, rfl⟩ hdenied
  run_of_denied _ _ := rfl

end Backend.Gated

namespace Vendor

variable (network : Network σ) (o : Options) (sender : κ)

/-! ## Reading -/

/-- **A vendor is read from with failures to fetch only.** -/
theorem Adapter.fails_fetch (hash : HashFunction) (c : Client σ) (a : Adapter) (cid : Cid) :
    Fails (fun e => ∃ reason, e = .fetch cid reason) ((a.backend hash c).fetch cid) := by
  cases a <;> exact .adapt fun _ => ⟨_, rfl⟩

/-! ## Pinning -/

theorem Kubo.fails_pin (k : Kubo) (c : Client σ) (cid : Cid) :
    Fails (fun e => ∃ reason, e = .pin cid reason) (k.pin c cid) := by
  refine .bind (.adapt fun _ => ⟨_, rfl⟩) fun response =>
    .bind (.adapt fun _ => ⟨_, rfl⟩) fun pins => ?_
  cases pins with
  | nil => exact .fail ⟨_, rfl⟩
  | cons pinned others =>
    dsimp only
    split
    · exact .ret ()
    · exact .fail ⟨_, rfl⟩

/-- **A vendor that offers pins fails to pin only.** -/
theorem Adapter.fails_pin (hash : HashFunction) (c : Client σ) (a : Adapter) (cid : Cid)
    (h : (a.backend hash c).capabilities.supports .pin) :
    Fails (fun e => ∃ reason, e = .pin cid reason) ((a.backend hash c).pin cid) := by
  cases a with
  | kubo k => exact k.fails_pin c cid
  | pinata p => cases h
  | pinningNode n => exact .ret ()
  | gw3 g => exact .adapt fun _ => ⟨_, rfl⟩
  | storacha s => cases h
  | publicGateway g => cases h

/-! ## Uploading -/

/-- What a JSON answer says in a field. -/
def fieldText? (name : String) : List Response → Option String
  | [response] => response.document?.bind (Document.single? name Document.text?)
  | _ => none

/-- What the gateway says in a header, once it was asked for a place. -/
def Gw3.headerText? : List Response → Option String
  | [slot, response] => (slot.document?.bind Gw3.uploadUrl?).bind fun _ =>
    response.headerText? Gw3.hashHeader.toLower
  | _ => none

/-- What a bridge says of a root, behind what it says of the archive. -/
def Storacha.rootText? : List Response → Option String
  | [] => none
  | announced :: later => do
    let added ← reported? storeAdded? announced
    let linked ← later[if added.status = "upload" then 1 else 0]?
    reported? linkedRoot? linked

/-- The text that stands for an identifier in the successful answers to an upload, if these are
well-formed otherwise. -/
def Adapter.reportedText? : Adapter → List Response → Option String
  | kubo _ => fieldText? "Hash"
  | pinata _ => fieldText? "IpfsHash"
  | pinningNode _ => fieldText? "cid"
  | gw3 _ => Gw3.headerText?
  | storacha _ => Storacha.rootText?
  | publicGateway _ => fun _ => none

/-- Who takes no uploads reports nothing. -/
theorem Adapter.reportedText?_of_denied (hash : HashFunction) (c : Client σ) {a : Adapter}
    (h : ¬ (a.backend hash c).capabilities.supports .upload) (answers : List Response) :
    a.reportedText? answers = none := by
  cases a with
  | publicGateway g => rfl
  | _ => exact absurd rfl h

/-- An upload whose answer reports the identifier in a field. -/
theorem sends_fieldText (request : Except Failure Request) (field : String) :
    Sends (fun sent result => Reported (fieldText? field (successes sent)) result)
      (do let response ← (Client.send ⟨network.noting sender, o⟩ request).asUpload
          reportedCid
            (← (response.decode (Document.single? field Document.text?)).asUpload)).run := by
  refine (Client.sends_tried network o sender request).bindUpload (fun sent _ h => .failed ?_)
    fun sent response h => ?_
  · rw [h.2]
    rfl
  · have hfield : fieldText? field (successes sent) =
        response.document?.bind (Document.single? field Document.text?) := by
      rw [h.2]
      rfl
    rw [Response.decode]
    generalize response.document?.bind (Document.single? field Document.text?) = said at hfield ⊢
    cases said with
    | none =>
      refine .ret ?_
      rw [List.append_nil]
      exact .failed hfield
    | some text =>
      refine .ret ?_
      rw [List.append_nil]
      exact .parsed hfield

/-- A signed call returns its one success, if there is one. -/
theorem Gw3.sends_call (hash : HashFunction) (g : Gw3) (method : Method) (path : String)
    (arguments : List Form.Pair) :
    Sends (fun sent result => successes sent = result.toOption.toList)
      (g.call hash ⟨network.noting sender, o⟩ method path arguments).run := by
  refine .bindLift (Sends.now network sender) ?_
  rintro _ time ⟨rfl, -⟩
  cases time with
  | negSucc n => exact .ret rfl
  | ofNat seconds =>
    dsimp only
    cases g.signedUrl hash method path arguments seconds with
    | error e => exact .ret rfl
    | ok signed =>
      exact (Client.sends_tried network o sender (g.signedRequest method signed.1 signed.2)).mono
        fun sent result h => h.2

theorem Gw3.sends_reported (hash : HashFunction) (g : Gw3) (content : ByteArray) :
    Sends (fun sent result => Reported (Gw3.headerText? (successes sent)) result)
      (g.upload hash ⟨network.noting sender, o⟩ content).run := by
  refine (Gw3.sends_call network o sender hash g .post _ _).bindUpload
    (fun sent _ hsuccess => .failed (by rw [hsuccess]; rfl)) fun sent slot hslot => ?_
  rw [Response.decode]
  cases hurl : slot.document?.bind Gw3.uploadUrl? with
  | none =>
    refine .ret (.failed ?_)
    rw [List.append_nil, hslot]
    rfl
  | some url =>
    refine (Client.sends_tried network o sender _).bindUpload (fun later _ h => .failed ?_)
      fun later response h => ?_
    · rw [successes_append, hslot, h.2]
      rfl
    · have hsaid : Gw3.headerText? (successes (sent ++ later)) =
          response.headerText? Gw3.hashHeader.toLower := by
        rw [successes_append, hslot, h.2]
        change (slot.document?.bind uploadUrl?).bind _ = _
        rw [hurl]
        rfl
      cases hheader : response.headerText? Gw3.hashHeader.toLower with
      | none =>
        refine .ret (.failed ?_)
        rw [← List.append_assoc, List.append_nil, hsaid, hheader]
      | some text =>
        refine .ret ?_
        rw [← List.append_assoc, List.append_nil]
        exact .parsed (hsaid.trans hheader)

namespace Storacha

/-- What is told was said in the one success. -/
theorem exists_successes_of_told {read : Document → Option α} {a : α}
    {request : Except Failure Request} {sent : List (Sent κ)} (h : Tried sender o request sent)
    (htold : told read sent = some a) :
    ∃ response, successes sent = [response] ∧ reported? read response = some a := by
  obtain ⟨_ | response, hsent⟩ := h.exists_successes_eq
  · rw [told, hsent] at htold
    cases htold
  · rw [told, hsent] at htold
    exact ⟨response, hsent, htold⟩

/-- Behind what was said of the archive stands what is said of the root, or one further behind. -/
theorem rootText?_cons {announced : Response} {added : StoreAdded}
    (h : reported? storeAdded? announced = some added) (later : List Response) :
    rootText? (announced :: later) =
      later[if added.status = "upload" then 1 else 0]?.bind (reported? linkedRoot?) := by
  change (reported? storeAdded? announced).bind _ = _
  rw [h]
  rfl

/-- **The root is read off the success that belongs to it.** -/
theorem rootText?_of_followed {s : Storacha} {car : Car.Archive}
    {store put link : List (Sent κ)} {result : Except ProviderError Cid}
    (h : Followed o sender s car store put link result) :
    rootText? (successes (store ++ put ++ link)) = told linkedRoot? link := by
  rw [successes_append, successes_append]
  cases h with
  | unannounced hstore htold =>
    obtain ⟨_ | announced, hsent⟩ := hstore.exists_successes_eq
    · rw [hsent]
      rfl
    · rw [told, hsent] at htold
      rw [hsent]
      change (reported? storeAdded? announced).bind _ = none
      rw [show reported? storeAdded? announced = none from htold]
      rfl
  | refused hstore htold hstatus hput hnone =>
    obtain ⟨announced, hsent, hadded⟩ := exists_successes_of_told o sender hstore htold
    rw [hsent, hnone]
    exact (rootText?_cons hadded _).trans (by rw [if_pos hstatus]; rfl)
  | taken hstore htold hstatus hput hsome hlink =>
    obtain ⟨announced, hsent, hadded⟩ := exists_successes_of_told o sender hstore htold
    obtain ⟨_ | taken, hput⟩ := hput.exists_successes_eq
    · exact absurd hput hsome
    · rw [hsent, hput, told, List.head?_eq_getElem?]
      exact (rootText?_cons hadded _).trans (by rw [if_pos hstatus]; rfl)
  | known hstore htold hstatus hlink =>
    obtain ⟨announced, hsent, hadded⟩ := exists_successes_of_told o sender hstore htold
    rw [hsent, told, List.head?_eq_getElem?]
    exact (rootText?_cons hadded _).trans (by rw [if_neg hstatus]; rfl)

theorem sends_reported (hash : HashFunction) (s : Storacha) (content : ByteArray) :
    Sends (fun sent result => Reported (rootText? (successes sent)) result)
      (s.upload ⟨network.noting sender, o⟩ hash content).run := by
  cases hpack : Car.pack hash content with
  | error e =>
    intro x
    have hrun := run_upload_of_pack_error s ⟨network.noting sender, o⟩ hpack x
    refine ⟨[], ?_, ?_⟩ <;> rw [hrun]
    · exact (List.append_nil x.2).symm
    · exact .failed rfl
  | ok car =>
    refine (sends_upload network o sender s hpack).mono ?_
    rintro _ result ⟨store, put, link, rfl, h⟩
    rw [rootText?_of_followed o sender h]
    exact h.reported

end Storacha

/-- **A vendor that takes uploads answers with the identifier it reports**, if it reports one. -/
theorem Adapter.sends_upload (hash : HashFunction) (a : Adapter) (content : ByteArray)
    (name : Option String)
    (h : (a.backend hash ⟨network.noting sender, o⟩).capabilities.supports .upload) :
    Sends (fun sent result => Reported (a.reportedText? (successes sent)) result)
      ((a.backend hash ⟨network.noting sender, o⟩).upload content name).run := by
  cases a with
  | kubo k => exact sends_fieldText network o sender _ "Hash"
  | pinata p => exact sends_fieldText network o sender _ "IpfsHash"
  | pinningNode n => exact sends_fieldText network o sender _ "cid"
  | gw3 g => exact Gw3.sends_reported network o sender hash g content
  | storacha s => exact Storacha.sends_reported network o sender hash s content
  | publicGateway g => cases h

theorem Adapter.fails_upload (hash : HashFunction) (a : Adapter) (content : ByteArray)
    (name : Option String)
    (h : (a.backend hash ⟨network.noting sender, o⟩).capabilities.supports .upload) :
    Fails (fun e => (∃ reason, e = .upload reason) ∨ ∃ cause, e = .identifier cause)
      ((a.backend hash ⟨network.noting sender, o⟩).upload content name) := fun x _ he =>
  let ⟨_, _, hreported⟩ := a.sends_upload network o sender hash content name h x
  hreported.error he

/-! ## Refusing -/

theorem Adapter.gated_fetch (hash : HashFunction) (c : Client σ) (a : Adapter) (cid : Cid) :
    (a.backend hash c).Gated .fetch ((a.backend hash c).fetch cid) :=
  .of_fails (a.supports_fetch hash c) (a.fails_fetch hash c cid) fun _ _ ⟨_, h⟩ => nomatch h

theorem Adapter.gated_pin (hash : HashFunction) (c : Client σ) (a : Adapter) (cid : Cid) :
    (a.backend hash c).Gated .pin ((a.backend hash c).pin cid) := by
  by_cases hsupports : (a.backend hash c).capabilities.supports .pin
  · exact .of_fails hsupports (a.fails_pin hash c cid hsupports) fun _ _ ⟨_, h⟩ => nomatch h
  · cases a with
    | kubo k => exact absurd rfl hsupports
    | pinata p => exact .of_denied hsupports
    | pinningNode n => exact absurd rfl hsupports
    | gw3 g => exact absurd rfl hsupports
    | storacha s => exact .of_denied hsupports
    | publicGateway g => exact .of_denied hsupports

theorem Adapter.gated_upload (hash : HashFunction) (a : Adapter) (content : ByteArray)
    (name : Option String) :
    let b := a.backend hash ⟨network.noting sender, o⟩
    b.Gated .upload (b.upload content name) := by
  intro b
  by_cases hsupports : b.capabilities.supports .upload
  · refine .of_fails hsupports (a.fails_upload network o sender hash content name hsupports) ?_
    rintro provider refused (⟨reason, h⟩ | ⟨cause, h⟩) <;> cases h
  · cases a with
    | publicGateway g => exact .of_denied hsupports
    | _ => exact absurd rfl hsupports

/-- **A vendor fails in terms of what it was asked**, whatever is answered.  Reading fails as a
fetch of the identifier that was asked for, which may be tried again, and pinning as a pin of it.
An upload fails as one, or because the text that stands for an identifier in well-formed answers does
not parse.  Besides, an operation is refused just if it is not offered, and then nothing is sent.  The
network is arbitrary, so that an answer may stand at the end of redirects. -/
theorem Adapter.fails_as_asked (hash : HashFunction) (network : Network σ) (o : Options)
    (a : Adapter) :
    let b := a.backend hash ⟨network.noting (), o⟩
    (∀ cid x e, ((b.fetch cid).run.run x).1 = .error e →
      (∃ reason, e = .fetch cid reason) ∧ e.isRetryable ∧ ∀ reason, e ≠ .transport reason) ∧
    (∀ cid x e, ((b.pin cid).run.run x).1 = .error e →
      (∃ reason, e = .pin cid reason) ∨ ∃ provider refused, e = .unsupported provider refused) ∧
    (∀ content name x e, ((b.upload content name).run.run x).1 = .error e →
      (∃ reason, e = .upload reason) ∨ (∃ cause, e = .identifier cause) ∨
        ∃ provider refused, e = .unsupported provider refused) ∧
    (∀ content name x notes, ∃ sent,
      let run := (b.upload content name).run.run (x, notes)
      run.2.2 = notes ++ sent ∧
        (∀ cause, run.1 = .error (.identifier cause) ↔
          ∃ text, a.reportedText? (successes sent) = some text ∧ Cid.parse text = .error cause) ∧
        ∀ cid, run.1 = .ok cid ↔
          ∃ text, a.reportedText? (successes sent) = some text ∧ Cid.parse text = .ok cid) ∧
    (∀ cid, b.Gated .fetch (b.fetch cid)) ∧
    (∀ content name, b.Gated .upload (b.upload content name)) ∧
    ∀ cid, b.Gated .pin (b.pin cid) := by
  intro b
  have hupload := fun content name => a.gated_upload network o () hash content name
  have hpin := fun cid => a.gated_pin hash ⟨network.noting (), o⟩ cid
  refine ⟨fun cid x e he => ?_, fun cid x e he => ?_, fun content name x e he => ?_,
    fun content name x notes => ?_, a.gated_fetch hash _, hupload, hpin⟩
  · obtain ⟨reason, rfl⟩ := a.fails_fetch hash _ cid x e he
    exact ⟨⟨reason, rfl⟩, rfl, nofun⟩
  · by_cases hsupports : b.capabilities.supports .pin
    · exact .inl (a.fails_pin hash _ cid hsupports x e he)
    · rw [(hpin cid).run_of_denied hsupports x] at he
      exact .inr ⟨_, _, (Except.error.inj he).symm⟩
  · by_cases hsupports : b.capabilities.supports .upload
    · have hkind := a.fails_upload network o () hash content name hsupports x e he
      exact hkind.imp_right .inl
    · rw [(hupload content name).run_of_denied hsupports x] at he
      exact .inr (.inr ⟨_, _, (Except.error.inj he).symm⟩)
  · by_cases hsupports : b.capabilities.supports .upload
    · obtain ⟨sent, hsent, hreported⟩ :=
        a.sends_upload network o () hash content name hsupports (x, notes)
      exact ⟨sent, hsent, fun cause => hreported.eq_identifier_iff, fun cid => hreported.eq_ok_iff⟩
    · refine ⟨[], ?_⟩
      intro run
      have hrun : run = _ := (hupload content name).run_of_denied hsupports (x, notes)
      rw [hrun, Adapter.reportedText?_of_denied hash _ hsupports]
      exact ⟨(List.append_nil notes).symm, by simp, by simp⟩

end Vendor

end AddressedStorage
