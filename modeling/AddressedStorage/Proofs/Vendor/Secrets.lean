import AddressedStorage.Proofs.Vendor.Adapter
import AddressedStorage.Proofs.Vendor.Bridge

/-!
# Proofs/Vendor/Secrets — accounts that differ in secrets only

Two accounts at one vendor that differ in their secrets only put together requests that differ in
three headers only (`Request.SameButSecrets`).  On networks that answer such requests in the same way,
every call gives the same result, in every word of its errors, and sends such requests
(`Adapter.twins`).  The six vendors put their calls together from a few steps, and each step
is related to its twin.
-/

namespace AddressedStorage

open Http

/-! ## Requests -/

namespace Http

/-- The headers that carry secrets. -/
def secretHeaders : List String := ["authorization", "x-auth-secret", "x-access-signature"]

namespace Request

/-- Headers that are the same, or carry a secret under one name. -/
def SameButValue (h h' : Header) : Prop :=
  h.name = h'.name ∧ (h.name ∈ secretHeaders ∨ h.value = h'.value)

/-- Requests that are the same but for the values of the headers that carry secrets. -/
structure SameButSecrets (r r' : Request) : Prop where
  method_eq : r.method = r'.method
  url_eq : r.url = r'.url
  headers : List.Forall₂ SameButValue r.headers r'.headers
  body_eq : r.body = r'.body

namespace SameButSecrets

theorem refl (r : Request) : r.SameButSecrets r where
  method_eq := rfl
  url_eq := rfl
  headers := List.forall₂_same.mpr fun _ _ => ⟨rfl, .inr rfl⟩
  body_eq := rfl

theorem alike_refl (request : Except Failure Request) :
    Alike Eq SameButSecrets request request := .refl (fun _ => rfl) refl request

variable {r r' : Request} (h : r.SameButSecrets r')

include h

theorem withBody (body : Body) : SameButSecrets { r with body } { r' with body } :=
  { h with body_eq := rfl }

theorem withPairs (pairs : List Form.Pair) :
    (r.withPairs pairs).SameButSecrets (r'.withPairs pairs) :=
  { h with url_eq := congrArg (·.withPairs pairs) h.url_eq }

/-- One more header. -/
theorem withHeader (name value : String) :
    Alike Eq SameButSecrets (r.withHeader name value) (r'.withHeader name value) := by
  rw [Request.withHeader, Request.withHeader]
  split
  · exact .ok { h with headers := List.rel_append h.headers (.cons ⟨rfl, .inr rfl⟩ .nil) }
  · exact .error rfl

/-- **One more header that carries a secret.** -/
theorem withSecret {name value value' : String} (hname : name ∈ secretHeaders)
    (hvalue : isHeaderValue value.toByteArray.data.toList)
    (hvalue' : isHeaderValue value'.toByteArray.data.toList) :
    Alike Eq SameButSecrets (r.withHeader name value) (r'.withHeader name value') := by
  rw [Request.withHeader, Request.withHeader, if_pos hvalue, if_pos hvalue']
  exact .ok { h with headers := List.rel_append h.headers (.cons ⟨rfl, .inl hname⟩ .nil) }

/-- Two tokens. -/
theorem bearer {token token' : String} (htoken : isHeaderValue token.toByteArray.data.toList)
    (htoken' : isHeaderValue token'.toByteArray.data.toList) :
    Alike Eq SameButSecrets ((Credentials.bearer token).apply r)
      ((Credentials.bearer token').apply r') :=
  h.withSecret (by decide) (Vendor.isHeaderValue_append (by decide +kernel) htoken)
    (Vendor.isHeaderValue_append (by decide +kernel) htoken')

/-- Two pairs of credentials. -/
theorem authSecret {secret secret' authorization authorization' : String}
    (hsecret : isHeaderValue secret.toByteArray.data.toList)
    (hsecret' : isHeaderValue secret'.toByteArray.data.toList)
    (hauthorization : isHeaderValue authorization.toByteArray.data.toList)
    (hauthorization' : isHeaderValue authorization'.toByteArray.data.toList) :
    Alike Eq SameButSecrets ((Credentials.authSecret secret authorization).apply r)
      ((Credentials.authSecret secret' authorization').apply r') :=
  (h.withSecret (by decide) hsecret hsecret').bind fun _ _ hr =>
    hr.withSecret (by decide) hauthorization hauthorization'

/-- What such requests are sent on as differs in the like. -/
theorem reading (u : Url) : SameButSecrets (Redirects.reading r u) (Redirects.reading r' u) where
  method_eq := rfl
  url_eq := rfl
  headers := by
    have hnamed : ∀ (keep : String → Bool) (heads heads' : List Header),
        List.Forall₂ SameButValue heads heads' → List.Forall₂ SameButValue
          (heads.filter fun x => keep x.name) (heads'.filter fun x => keep x.name) := by
      intro keep heads heads' hheads
      refine List.rel_filter (p := fun x : Header => keep x.name) (q := fun x => keep x.name) ?_ hheads
      exact fun x y hxy => iff_of_eq (congrArg (keep · = true) hxy.1)
    rw [Redirects.reading, Redirects.reading, h.url_eq]
    exact List.rel_append
      (hnamed (fun name => !(Redirects.referer? r'.url u).toList.any (·.name = name)) _ _
        (hnamed (Redirects.keeps r'.url u) _ _ h.headers))
      (List.forall₂_same.mpr fun _ _ => ⟨rfl, .inr rfl⟩)
  body_eq := rfl

end SameButSecrets

/-- What is to be seen instead does not depend on secrets. -/
theorem seeOther_respects_sameButSecrets : Redirects.seeOther.Respects SameButSecrets Eq :=
  Redirects.seeOther_respects (fun _ _ h => h ▸ rfl) fun _ _ _ _ u hr _ _ _ _ => hr.reading u

end Request

end Http

/-! ## Steps that all vendors share -/

/-- Backends whose calls are related to one another and have the same results. -/
structure Backend.Twins {σ τ : Type} (R : σ → τ → Prop) (b : Backend σ) (b' : Backend τ) :
    Prop where
  fetch : ∀ cid, Related R Eq Eq (b.fetch cid) (b'.fetch cid)
  upload : ∀ content name, Related R Eq Eq (b.upload content name) (b'.upload content name)
  pin : ∀ cid, Related R Eq Eq (b.pin cid) (b'.pin cid)

namespace Vendor

variable {σ τ α β : Type} {R : σ → τ → Prop}

theorem related_asFetch {Q : α → β → Prop} {x : Exchange σ α} {y : Exchange τ β} (cid : Cid)
    (h : Related R Eq Q x y) : Related R Eq Q (x.asFetch cid) (y.asFetch cid) :=
  h.adapt fun _ _ he => he ▸ rfl

theorem related_asUpload {Q : α → β → Prop} {x : Exchange σ α} {y : Exchange τ β}
    (h : Related R Eq Q x y) : Related R Eq Q x.asUpload y.asUpload :=
  h.adapt fun _ _ he => he ▸ rfl

theorem related_asPin {Q : α → β → Prop} {x : Exchange σ α} {y : Exchange τ β} (cid : Cid)
    (h : Related R Eq Q x y) : Related R Eq Q (x.asPin cid) (y.asPin cid) :=
  h.adapt fun _ _ he => he ▸ rfl

theorem related_reportedCid (text : String) :
    Related R Eq Eq (reportedCid text : Action σ Cid) (reportedCid text) :=
  .ofExcept (.refl (fun _ => rfl) (fun _ => rfl) _)

theorem related_deny (provider : String) (operation : Operation) :
    Related R Eq Eq (deny provider operation : Action σ α) (deny provider operation) := .fail rfl

/-- What an answer says. -/
theorem related_said (x : Response) (read : Document → Option α) :
    Related R Eq Eq (x.decode read : Exchange σ α) (x.decode read) := by
  refine related_decode ?_
  cases x.document?.bind read with
  | none => exact .none
  | some a => exact .some rfl

variable {n : Network σ} {m : Network τ} {o : Options} {request request' : Except Failure Request}

section

variable (h : n.Agree R Request.SameButSecrets Eq m)

include h

theorem related_send (hrequest : Alike Eq Request.SameButSecrets request request') :
    Related R Eq Eq (Client.send ⟨n, o⟩ request) (Client.send ⟨m, o⟩ request') :=
  h.send_eq (hrequest.mono (fun _ _ => id) fun _ _ hr => ⟨hr, hr.url_eq⟩)

/-- Reading the body of an answer. -/
theorem related_body (hrequest : Alike Eq Request.SameButSecrets request request') (cid : Cid) :
    Related R Eq Eq
      (Exchange.asFetch cid (Client.send ⟨n, o⟩ request >>= Response.content))
      (Exchange.asFetch cid (Client.send ⟨m, o⟩ request' >>= Response.content)) :=
  related_asFetch cid ((related_send h hrequest).bind fun x _ hx => hx ▸ related_content x)

/-- Reading from a gateway. -/
theorem related_fetchFrom (base : String) (cid : Cid) :
    Related R Eq Eq (fetchFrom ⟨n, o⟩ base cid) (fetchFrom ⟨m, o⟩ base cid) :=
  related_body h (Request.SameButSecrets.alike_refl _) cid

/-- An upload whose answer reports the identifier in a field. -/
theorem related_upload (hrequest : Alike Eq Request.SameButSecrets request request')
    (field : String) :
    Related R Eq Eq
      (do let response ← (Client.send ⟨n, o⟩ request).asUpload
          reportedCid (← (response.decode (Document.single? field Document.text?)).asUpload))
      (do let response ← (Client.send ⟨m, o⟩ request').asUpload
          reportedCid (← (response.decode (Document.single? field Document.text?)).asUpload)) := by
  refine (related_asUpload (related_send h hrequest)).bind fun x _ hx => ?_
  obtain rfl := hx
  refine (related_asUpload (related_said x _)).bind fun text _ htext => ?_
  obtain rfl := htext
  exact related_reportedCid text

/-! ## Each vendor -/

theorem PublicGateway.twins (g : PublicGateway) : (g.backend ⟨n, o⟩).Twins R (g.backend ⟨m, o⟩) where
  fetch cid := related_fetchFrom h g.url cid
  upload _ _ := related_deny g.name .upload
  pin _ := related_deny g.name .pin

theorem Kubo.twins (k : Kubo) : (k.backend ⟨n, o⟩).Twins R (k.backend ⟨m, o⟩) where
  fetch cid := related_fetchFrom h k.gatewayUrl cid
  upload _ _ := related_upload h (Request.SameButSecrets.alike_refl _) "Hash"
  pin cid := by
    refine (related_asPin cid (related_send h (Request.SameButSecrets.alike_refl _))).bind
      fun x _ hx => ?_
    obtain rfl := hx
    refine (related_asPin cid (related_said x _)).bind fun pins _ hpins => ?_
    obtain rfl := hpins
    cases pins with
    | nil => exact .fail rfl
    | cons pinned others =>
      dsimp only
      split
      · exact .ret rfl
      · exact .fail rfl

theorem Pinata.twins (p : Pinata) {jwt : String}
    (hjwt : isHeaderValue p.jwt.toByteArray.data.toList)
    (hjwt' : isHeaderValue jwt.toByteArray.data.toList) :
    (p.backend ⟨n, o⟩).Twins R (Pinata.backend { p with jwt } ⟨m, o⟩) where
  fetch cid := related_fetchFrom h p.gatewayUrl cid
  upload _ _ :=
    related_upload h ((Request.SameButSecrets.alike_refl _).bind fun _ _ hr =>
      (hr.bearer hjwt hjwt').bind fun _ _ hr => .ok (hr.withBody _)) "IpfsHash"
  pin _ := related_deny Pinata.name .pin

omit h in
theorem PinningNode.alike_request (k : PinningNode) {token : String}
    (htoken : isHeaderValue k.token.toByteArray.data.toList)
    (htoken' : isHeaderValue token.toByteArray.data.toList) (method : Method) (url : String) :
    Alike Eq Request.SameButSecrets (k.request method url)
      (PinningNode.request { k with token } method url) :=
  (Request.SameButSecrets.alike_refl _).bind fun _ _ hr =>
    (hr.bearer htoken htoken').bind fun _ _ hr => hr.withHeader _ _

theorem PinningNode.twins (k : PinningNode) {token : String}
    (htoken : isHeaderValue k.token.toByteArray.data.toList)
    (htoken' : isHeaderValue token.toByteArray.data.toList) :
    (k.backend ⟨n, o⟩).Twins R (PinningNode.backend { k with token } ⟨m, o⟩) where
  fetch cid := related_body h (k.alike_request htoken htoken' .get _) cid
  upload _ _ :=
    related_upload h ((k.alike_request htoken htoken' .post _).bind fun _ _ hr =>
      .ok ((hr.withPairs _).withBody _)) "cid"
  pin _ := .ret rfl

omit h in
/-- The address of a signed call does not depend on the secret, and a signature is legal. -/
theorem Gw3.alike_signedUrl (hash : HashFunction) (g : Gw3) (secret : List UInt8) (method : Method)
    (path : String) (arguments : List Form.Pair) (seconds : Nat) :
    Alike Eq (fun signed signed' : Url × String => signed.1 = signed'.1 ∧
        isHeaderValue signed.2.toByteArray.data.toList ∧
        isHeaderValue signed'.2.toByteArray.data.toList)
      (g.signedUrl hash method path arguments seconds)
      (Gw3.signedUrl hash { g with signer := { g.signer with secret } } method path arguments
        seconds) := by
  rw [signedUrl, signedUrl]
  cases Url.parse (Url.join g.url path) with
  | error cause => exact .error rfl
  | ok u =>
    exact .ok ⟨rfl, isHeaderValue_sign hash _ _ _ _, isHeaderValue_sign hash _ _ _ _⟩

theorem Gw3.related_call (hash : HashFunction) (g : Gw3) (secret : List UInt8) (method : Method)
    (path : String) (arguments : List Form.Pair) :
    Related R Eq Eq (g.call hash ⟨n, o⟩ method path arguments)
      (Gw3.call hash { g with signer := { g.signer with secret } } ⟨m, o⟩ method path arguments) := by
  refine h.now.bindLift fun time _ htime => ?_
  obtain rfl := htime
  cases time with
  | negSucc k => exact .fail rfl
  | ofNat seconds =>
    refine (Related.judged (g.alike_signedUrl hash secret method path arguments seconds)).bind ?_
    rintro ⟨u, signature⟩ ⟨_, signature'⟩ ⟨rfl, hsignature, hsignature'⟩
    refine related_send h ((Request.SameButSecrets.alike_refl (Request.ofUrl method u)).bind
      fun _ _ hr => (hr.withHeader "x-access-key" g.signer.key).bind fun _ _ hr => ?_)
    exact hr.withSecret (by decide) hsignature hsignature'

theorem Gw3.twins (hash : HashFunction) (g : Gw3) (secret : List UInt8) :
    (g.backend hash ⟨n, o⟩).Twins R
      (Gw3.backend hash { g with signer := { g.signer with secret } } ⟨m, o⟩) where
  fetch cid :=
    related_asFetch cid ((g.related_call h hash secret .get _ []).bind fun x _ hx =>
      hx ▸ related_content x)
  upload content _ := by
    refine (related_asUpload (g.related_call h hash secret .post _ _)).bind fun x _ hx => ?_
    obtain rfl := hx
    refine (related_asUpload (related_said x _)).bind fun url _ hurl => ?_
    obtain rfl := hurl
    refine (related_asUpload (related_send h (Request.SameButSecrets.alike_refl _))).bind
      fun answer _ hanswer => ?_
    obtain rfl := hanswer
    cases answer.headerText? Gw3.hashHeader.toLower with
    | some text => exact related_reportedCid text
    | none => exact .fail rfl
  pin cid :=
    related_asPin cid ((g.related_call h hash secret .post _ _).bind fun _ _ _ => .ret rfl)

end

/-! ## The steps of a bridge -/

namespace Storacha

/-- What two tasks came to is alike. -/
inductive Outcome.Alike (Q : α → β → Prop) : Outcome α → Outcome β → Prop where
  | done {a : α} {b : β} (h : Q a b) : Alike Q (.done a) (.done b)
  | failed (reason : Document) : Alike Q (.failed reason) (.failed reason)

/-- Two lists of receipts are alike in the first, which is the one that counts. -/
def AlikeFirst (Q : α → β → Prop) (x : List (Outcome α)) (y : List (Outcome β)) : Prop :=
  Option.Rel (Outcome.Alike Q) x.head? y.head?

/-- What two answers say of a task is alike. -/
def AlikeReceipts (Q : α → β → Prop) (read : Document → Option α) (read' : Document → Option β)
    (x y : Response) : Prop :=
  Option.Rel (AlikeFirst Q) (x.document?.bind (Document.listOf? (receipt? read)))
    (y.document?.bind (Document.listOf? (receipt? read')))

theorem alikeReceipts_self {Q : α → α → Prop} (hQ : ∀ a, Q a a) (read : Document → Option α)
    (x : Response) : AlikeReceipts Q read read x x := by
  rw [AlikeReceipts]
  rcases x.document?.bind (Document.listOf? (receipt? read)) with _ | (_ | ⟨value | reason, rest⟩)
  · exact .none
  · exact .some .none
  · exact .some (.some (.done (hQ value)))
  · exact .some (.some (.failed reason))

variable {P : Response → Response → Prop} {Q : α → β → Prop} {s s' : Storacha} {c : Client σ}
  {c' : Client τ}

/-- **A task**, for answers that say the like of it. -/
theorem related_invoke {ability : String} {arguments : Document} {read : Document → Option α}
    {read' : Document → Option β}
    (hsend : Related R Eq P (c.send (s.taskRequest ability arguments))
      (c'.send (s'.taskRequest ability arguments)))
    (hread : ∀ x y, P x y → AlikeReceipts Q read read' x y) :
    Related R Eq Q (s.invoke c ability arguments read) (s'.invoke c' ability arguments read') := by
  refine hsend.bind fun x y hxy => (related_decode (hread x y hxy)).bind ?_
  rintro (_ | ⟨first, rest⟩) (_ | ⟨first', rest'⟩) hfirst
  · exact .fail rfl
  · cases hfirst
  · cases hfirst
  · cases hfirst with
    | some hfirst =>
      cases hfirst with
      | done h => exact .ret h
      | failed reason => exact .fail rfl

/-- **Putting an archive somewhere.**  Failures may differ in what is hidden of them. -/
theorem related_putShard_of {a a' : StoreAdded} {car : Car.Archive}
    (harrange : ∀ entries, Paired R Eq (c.network.arrange entries) (c'.network.arrange entries))
    (hheaders : a.headers = a'.headers)
    (hput : ∀ headers, Option.Rel (fun url url' =>
      Related R (fun e d => hideUrl e = hideUrl d) P (c.send (shardRequest url headers car))
        (c'.send (shardRequest url' headers car))) a.url a'.url) :
    Related R Eq Eq (putShard c a car) (putShard c' a' car) := by
  rw [putShard, putShard, ← hheaders]
  generalize a.url = address, a'.url = address' at hput ⊢
  cases hput [] with
  | none => exact .fail rfl
  | some _ =>
    refine (harrange a.headers).bindLift fun entries _ hentries => ?_
    obtain rfl := hentries
    have hheads : Related R Eq Eq (Exchange.ofExcept (shardHeaders entries) : Exchange σ _)
        (Exchange.ofExcept (shardHeaders entries) : Exchange τ _) :=
      .judged (.refl (fun _ => rfl) (fun _ => rfl) _)
    refine hheads.bind fun headers _ h => ?_
    obtain rfl := h
    cases hput headers with
    | some hsend => exact (hsend.adapt fun _ _ => id).bind fun _ _ _ => .ret rfl

/-- **An upload**, for answers that say the like of the archive. -/
theorem related_upload_of {A : StoreAdded → StoreAdded → Prop}
    (hstatus : ∀ a a', A a a' → a.status = a'.status)
    (hstore : ∀ car, Related R Eq A (s.invoke c "store/add" (storeArguments car) storeAdded?)
      (s'.invoke c' "store/add" (storeArguments car) storeAdded?))
    (hput : ∀ a a' car, A a a' → Related R Eq Eq (putShard c a car) (putShard c' a' car))
    (hlink : ∀ car, Related R Eq Eq (s.invoke c "upload/add" (linkArguments car) linkedRoot?)
      (s'.invoke c' "upload/add" (linkArguments car) linkedRoot?))
    (hash : HashFunction) (content : ByteArray) :
    Related R Eq Eq (s.upload c hash content) (s'.upload c' hash content) := by
  have hpack : Related R Eq Eq
      (Action.ofExcept ((Car.pack hash content).mapError fun e => .upload e.message) : Action σ _)
      (Action.ofExcept ((Car.pack hash content).mapError fun e => .upload e.message)) :=
    .ofExcept (.refl (fun _ => rfl) (fun _ => rfl) _)
  refine hpack.bind fun car _ hcar => ?_
  obtain rfl := hcar
  refine (related_asUpload (hstore car)).bind fun a a' ha => ?_
  have hrest : ∀ u u' : Unit, u = u' → Related R Eq Eq
      (do reportedCid (← (s.invoke c "upload/add" (linkArguments car) linkedRoot?).asUpload))
      (do reportedCid (← (s'.invoke c' "upload/add" (linkArguments car) linkedRoot?).asUpload)) :=
    fun _ _ _ => (related_asUpload (hlink car)).bind fun text _ htext =>
      htext ▸ related_reportedCid text
  rw [← hstatus a a' ha]
  by_cases hupload : a.status = "upload"
  · simp only [if_pos hupload]
    exact (related_asUpload (hput a a' car ha)).bind hrest
  · simp only [if_neg hupload]
    exact hrest () () rfl

end Storacha

section

variable (h : n.Agree R Request.SameButSecrets Eq m)

include h

theorem Storacha.related_putShard (added : StoreAdded) (car : Car.Archive) :
    Related R Eq Eq (putShard ⟨n, o⟩ added car) (putShard ⟨m, o⟩ added car) := by
  refine related_putShard_of (P := Eq) h.arrange rfl fun headers => ?_
  cases added.url with
  | none => exact .none
  | some url =>
    have hsend := related_send (o := o) h
      (Request.SameButSecrets.alike_refl (shardRequest url headers car))
    exact .some (hsend.mono fun _ _ => congrArg hideUrl)

theorem Storacha.twins (hash : HashFunction) (s : Storacha) {authSecret authorization : String}
    (hsecret : isHeaderValue s.authSecret.toByteArray.data.toList)
    (hsecret' : isHeaderValue authSecret.toByteArray.data.toList)
    (hauthorization : isHeaderValue s.authorization.toByteArray.data.toList)
    (hauthorization' : isHeaderValue authorization.toByteArray.data.toList) :
    (s.backend ⟨n, o⟩ hash).Twins R
      (Storacha.backend { s with authSecret, authorization } ⟨m, o⟩ hash) where
  fetch cid := related_fetchFrom h s.gatewayUrl cid
  upload content _ := by
    have hsend : ∀ ability arguments, Related R Eq Eq
        (Client.send ⟨n, o⟩ (s.taskRequest ability arguments))
        (Client.send ⟨m, o⟩
          (taskRequest { s with authSecret, authorization } ability arguments)) :=
      fun _ _ => related_send h ((Request.SameButSecrets.alike_refl _).bind fun _ _ hr =>
        (hr.authSecret hsecret hsecret' hauthorization hauthorization').bind fun _ _ hr =>
          .ok (hr.withBody _))
    refine related_upload_of (A := Eq) (fun _ _ ha => congrArg _ ha) (fun car => ?_) ?_
      (fun car => ?_) hash content
    · exact related_invoke (hsend _ _) fun x _ hx => hx ▸ alikeReceipts_self (fun _ => rfl) _ x
    · rintro added _ car rfl
      exact related_putShard h added car
    · exact related_invoke (hsend _ _) fun x _ hx => hx ▸ alikeReceipts_self (fun _ => rfl) _ x
  pin _ := related_deny Storacha.name .pin

end

/-! ## Any vendor -/

/-- Accounts that differ in their secrets only, which may stand in headers. -/
inductive Adapter.SameButSecrets : Adapter → Adapter → Prop where
  | kubo (k : Kubo) : SameButSecrets (.kubo k) (.kubo k)
  | pinata (p : Pinata) {jwt : String} (hjwt : isHeaderValue p.jwt.toByteArray.data.toList)
      (hjwt' : isHeaderValue jwt.toByteArray.data.toList) :
    SameButSecrets (.pinata p) (.pinata { p with jwt })
  | pinningNode (k : PinningNode) {token : String}
      (htoken : isHeaderValue k.token.toByteArray.data.toList)
      (htoken' : isHeaderValue token.toByteArray.data.toList) :
    SameButSecrets (.pinningNode k) (.pinningNode { k with token })
  | gw3 (g : Gw3) (secret : List UInt8) :
    SameButSecrets (.gw3 g) (.gw3 { g with signer := { g.signer with secret } })
  | storacha (s : Storacha) {authSecret authorization : String}
      (hsecret : isHeaderValue s.authSecret.toByteArray.data.toList)
      (hsecret' : isHeaderValue authSecret.toByteArray.data.toList)
      (hauthorization : isHeaderValue s.authorization.toByteArray.data.toList)
      (hauthorization' : isHeaderValue authorization.toByteArray.data.toList) :
    SameButSecrets (.storacha s) (.storacha { s with authSecret, authorization })
  | publicGateway (g : PublicGateway) : SameButSecrets (.publicGateway g) (.publicGateway g)

/-- **Accounts that differ in their secrets only** cannot be told apart by what their calls come
to. -/
theorem Adapter.twins (h : n.Agree R Request.SameButSecrets Eq m) (hash : HashFunction)
    {a b : Adapter} (hab : a.SameButSecrets b) :
    (a.backend hash ⟨n, o⟩).Twins R (b.backend hash ⟨m, o⟩) := by
  cases hab with
  | kubo k => exact k.twins h
  | pinata p hjwt hjwt' => exact p.twins h hjwt hjwt'
  | pinningNode k htoken htoken' => exact k.twins h htoken htoken'
  | gw3 g secret => exact g.twins h hash secret
  | storacha s hsecret hsecret' hauthorization hauthorization' =>
    exact s.twins h hash hsecret hsecret' hauthorization hauthorization'
  | publicGateway g => exact g.twins h

end Vendor

end AddressedStorage
