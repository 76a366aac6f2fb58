import AddressedStorage.Proofs.Http.Success
import AddressedStorage.Proofs.Vendor.Secrets
import Mathlib.Data.List.Forall2

/-!
# Proofs/Vendor/Presigned — where a shard goes is a secret

A bridge answers the announcement of an archive with an address that carries a signature.  Two answers
that differ in that address only (`Response.SameButUrl`) lead to uploads with one result, and what is
sent differs in where the archive is put only (`Storacha.SameButTarget`): no failure names the
address.

With accounts that differ in their secrets only this makes up `results_hide_secrets`.
-/

namespace AddressedStorage

open Http

/-! ## Answers -/

namespace Document

variable {α β : Type} {T : Document → Document → Prop} {index : Nat} {name : String}
  {d d' : Document}

/-- Records that are the same but for one field.  A list may stand for a record, and then the field
has its place there. -/
inductive DifferAt (index : Nat) (name : String) (T : Document → Document → Prop) :
    Document → Document → Prop where
  | field (before after : List (String × Document)) {a b : Document} (h : T a b) :
    DifferAt index name T (.record (before ++ (name, a) :: after))
      (.record (before ++ (name, b) :: after))
  | item (before after : List Document) {a b : Document} (hindex : before.length = index)
      (h : T a b) :
    DifferAt index name T (.list (before ++ a :: after)) (.list (before ++ b :: after))

/-- Another field is the same. -/
theorem field?_of_ne {other : String} (hname : name ≠ other) (before after : List (String × Document))
    (a b : Document) :
    field? (before ++ (name, a) :: after) other = field? (before ++ (name, b) :: after) other := by
  have hfilter : ∀ d : Document, (before ++ (name, d) :: after).filter (·.1 = other) =
      before.filter (·.1 = other) ++ after.filter (·.1 = other) := fun d => by
    rw [List.filter_append, List.filter_cons_of_neg (by simpa using hname)]
  rw [field?, field?, hfilter, hfilter]

/-- The field itself is read in both, or given twice in both. -/
theorem field?_self (before after : List (String × Document)) {a b : Document} (h : T a b) :
    Option.Rel (Option.Rel T) (field? (before ++ (name, a) :: after) name)
      (field? (before ++ (name, b) :: after) name) := by
  have hfilter : ∀ d : Document, (before ++ (name, d) :: after).filter (·.1 = name) =
      before.filter (·.1 = name) ++ (name, d) :: after.filter (·.1 = name) := fun d => by
    rw [List.filter_append, List.filter_cons_of_pos (by simp)]
  rw [field?, field?, hfilter, hfilter]
  generalize before.filter (·.1 = name) = earlier, after.filter (·.1 = name) = later
  rcases earlier with _ | ⟨f, _ | ⟨f', fs⟩⟩ <;> rcases later with _ | ⟨g, gs⟩
  · exact Option.Rel.some (.some h)
  all_goals exact Option.Rel.none

/-- **A record of one field**, if it is the one that differs. -/
theorem DifferAt.single? {read : Document → Option α} {read' : Document → Option β}
    {Q : α → β → Prop} (h : DifferAt 0 name T d d')
    (hread : ∀ a b, T a b → Option.Rel Q (read a) (read' b)) :
    Option.Rel Q (d.single? name read) (d'.single? name read') := by
  cases h with
  | @field before after a b hab =>
    have hfield : Option.Rel (Option.Rel T) (field? (before ++ (name, a) :: after) name)
        (field? (before ++ (name, b) :: after) name) := field?_self before after hab
    simp only [Document.single?, fields?, List.mapM_cons, List.mapM_nil]
    generalize field? (before ++ (name, a) :: after) name = x,
      field? (before ++ (name, b) :: after) name = y at hfield ⊢
    cases hfield with
    | none => exact .none
    | some hsome =>
      cases hsome with
      | none => exact .none
      | some hxy => exact hread _ _ hxy
  | @item before after a b hindex hab =>
    obtain rfl := List.eq_nil_of_length_eq_zero hindex
    cases after with
    | nil => exact hread a b hab
    | cons c after =>
      have hnone : ∀ {α : Type} (read : Document → Option α) (d : Document),
          (Document.list ([] ++ d :: c :: after)).single? name read = none := by
        intro α read d
        simp [Document.single?, fields?]
      rw [hnone, hnone]
      exact .none

/-- **A record of one field**, if another one differs. -/
theorem DifferAt.single?_eq {other : String} (hname : name ≠ other) (hindex : index ≠ 0)
    (h : DifferAt index name T d d') (read : Document → Option α) :
    d.single? other read = d'.single? other read := by
  cases h with
  | @field before after a b hab =>
    simp only [Document.single?, fields?, List.mapM_cons, List.mapM_nil,
      field?_of_ne hname before after a b]
  | @item before after a b hlength hab =>
    have hnone : ∀ d : Document, (Document.list (before ++ d :: after)).single? other read = none := by
      intro d
      have hlong : 1 < (before ++ d :: after).length := by
        rw [List.length_append, List.length_cons]
        omega
      simp only [Document.single?, fields?, List.length_singleton, hlong, and_self, if_true]
      rfl
    rw [hnone, hnone]

/-- **A record of three fields**, if the second differs. -/
theorem DifferAt.fields? {first last : String} (hfirst : name ≠ first) (hlast : name ≠ last)
    (h : DifferAt 1 name T d d') :
    Option.Rel
      (fun row row' => ∃ a b b' c, row = [a, b, c] ∧ row' = [a, b', c] ∧ Option.Rel T b b')
      (d.fields? .refused [first, name, last]) (d'.fields? .refused [first, name, last]) := by
  cases h with
  | @field before after a b hab =>
    have hfield : Option.Rel (Option.Rel T) (field? (before ++ (name, a) :: after) name)
        (field? (before ++ (name, b) :: after) name) := field?_self before after hab
    simp only [Document.fields?, List.mapM_cons, List.mapM_nil, field?_of_ne hfirst before after a b,
      field?_of_ne hlast before after a b]
    generalize field? (before ++ (name, a) :: after) name = x,
      field? (before ++ (name, b) :: after) name = y at hfield ⊢
    rcases field? (before ++ (name, b) :: after) first with _ | x₁
    · exact .none
    rcases hfield with ⟨hxy⟩ | _
    · rcases field? (before ++ (name, b) :: after) last with _ | x₃
      · exact .none
      · exact .some ⟨x₁, _, _, x₃, rfl, rfl, hxy⟩
    · exact .none
  | @item before after a b hindex hab =>
    obtain ⟨c, rfl⟩ := List.length_eq_one_iff.mp hindex
    rcases after with _ | ⟨e, _ | ⟨f, after⟩⟩
    · exact .some ⟨some c, some a, some b, none, rfl, rfl, .some hab⟩
    · exact .some ⟨some c, some a, some b, some e, rfl, rfl, .some hab⟩
    · have hnone : ∀ d : Document,
          (Document.list ([c] ++ d :: e :: f :: after)).fields? .refused [first, name, last] =
            none := by
        intro d
        simp [Document.fields?]
      rw [hnone, hnone]
      exact .none

/-- Texts of two addresses: a shard can be put to both of them, or to neither. -/
def Addresses (d d' : Document) : Prop :=
  ∃ url url', d = .text url ∧ d' = .text url' ∧
    (Request.Ready (Request.ofAddress .put url) ↔ Request.Ready (Request.ofAddress .put url'))

/-- Receipts that are the same but for the address in the first of them. -/
inductive SameButUrl : Document → Document → Prop where
  | first {a b : Document} (rest : List Document)
      (h : DifferAt 0 "p" (DifferAt 0 "out" (DifferAt 0 "ok" (DifferAt 1 "url" Addresses))) a b) :
    SameButUrl (.list (a :: rest)) (.list (b :: rest))

end Document

/-- Answers that are the same but for the address in the first receipt. -/
structure Http.Response.SameButUrl (x y : Response) : Prop where
  headers_eq : x.headers = y.headers
  body : x.body = y.body ∨
    ∃ d d', x.document? = some d ∧ y.document? = some d' ∧ d.SameButUrl d'

namespace Vendor.Storacha

variable {α : Type} {d d' : Document} {T : Document → Document → Prop} {index : Nat}

/-! ## What the answers say -/

/-- A record of two fields is no outcome. -/
theorem outcome?_cons_cons (read : Document → Option α) (f g : String × Document)
    (fields : List (String × Document)) : outcome? read (.record (f :: g :: fields)) = none := by
  unfold outcome?
  split <;> simp_all

theorem outcome?_of_differAt {Q : α → α → Prop} {read : Document → Option α}
    (h : Document.DifferAt index "ok" T d d')
    (hread : ∀ a b, T a b → Option.Rel Q (read a) (read b)) :
    Option.Rel (Outcome.Alike Q) (outcome? read d) (outcome? read d') := by
  cases h with
  | item before after hindex hab => exact .none
  | @field before after a b hab =>
    rcases before with _ | ⟨f, _ | ⟨f', before⟩⟩
    · rcases after with _ | ⟨g, after⟩
      · have hvalue := hread a b hab
        rw [List.nil_append, List.nil_append, outcome?, outcome?]
        generalize read a = x, read b = y at hvalue ⊢
        cases hvalue with
        | none => exact .none
        | some h => exact .some (.done h)
      · exact .none
    all_goals
      rw [List.cons_append, List.cons_append]
      first
        | rw [List.nil_append, List.nil_append, outcome?_cons_cons, outcome?_cons_cons]
        | rw [List.cons_append, List.cons_append, outcome?_cons_cons, outcome?_cons_cons]
      exact .none

/-- **Receipts that differ in an address** say the like if what they report is read alike. -/
theorem alikeReceipts_of_sameButUrl {Q : α → α → Prop} (hQ : ∀ a, Q a a)
    {read : Document → Option α}
    (hread : ∀ a b, Document.DifferAt 1 "url" Document.Addresses a b → Option.Rel Q (read a) (read b))
    {x y : Response} (h : x.SameButUrl y) : AlikeReceipts Q read read x y := by
  rcases h.body with hbody | ⟨d, d', hx, hy, hdocument⟩
  · have hdocument : x.document? = y.document? := by
      rw [Response.document?, Response.document?, hbody]
    rw [AlikeReceipts, hdocument]
    exact alikeReceipts_self hQ read y
  · cases hdocument with
    | @first a b rest hfirst =>
      have hreceipt : Option.Rel (Outcome.Alike Q) (receipt? read a) (receipt? read b) :=
        hfirst.single? fun _ _ h => h.single? fun _ _ h => outcome?_of_differAt h hread
      rw [AlikeReceipts, hx, hy, Option.bind_some, Option.bind_some, Document.listOf?,
        Document.listOf?, List.mapM_cons, List.mapM_cons]
      generalize receipt? read a = o, receipt? read b = o' at hreceipt ⊢
      cases hreceipt with
      | none => exact .none
      | some h =>
        rcases rest.mapM (receipt? read) with _ | outcomes
        · exact .none
        · exact .some (.some h)

/-- No address in both or the same, or two of which both can be asked or neither. -/
def SameButAddress (u u' : Option String) : Prop :=
  u = u' ∨ ∃ url url', u = some url ∧ u' = some url' ∧
    (Request.Ready (Request.ofAddress .put url) ↔ Request.Ready (Request.ofAddress .put url'))

/-- Where to put an archive: the same but for the address. -/
structure StoreAdded.SameButUrl (a a' : StoreAdded) : Prop where
  status_eq : a.status = a'.status
  headers_eq : a.headers = a'.headers
  url : SameButAddress a.url a'.url

theorem StoreAdded.SameButUrl.refl (a : StoreAdded) : a.SameButUrl a := ⟨rfl, rfl, .inl rfl⟩

theorem storeAdded?_of_differAt (h : Document.DifferAt 1 "url" Document.Addresses d d') :
    Option.Rel StoreAdded.SameButUrl (storeAdded? d) (storeAdded? d') := by
  have hstatus : "url" ≠ "status" := by decide
  have hheaders : "url" ≠ "headers" := by decide
  have hrows := h.fields? hstatus hheaders
  rw [storeAdded?, storeAdded?]
  generalize d.fields? .refused ["status", "url", "headers"] = row,
    d'.fields? .refused ["status", "url", "headers"] = row' at hrows ⊢
  cases hrows with
  | none => exact .none
  | some hrow =>
    obtain ⟨status, url, url', headers, rfl, rfl, hurl⟩ := hrow
    have haddress : ∃ u u', Document.optional Document.text? url = some u ∧
        Document.optional Document.text? url' = some u' ∧ SameButAddress u u' := by
      rcases hurl with ⟨address, address', rfl, rfl, hready⟩ | _
      · exact ⟨_, _, rfl, rfl, .inr ⟨_, _, rfl, rfl, hready⟩⟩
      · exact ⟨_, _, rfl, rfl, .inl rfl⟩
    obtain ⟨u, u', hu, hu', hsame⟩ := haddress
    simp only [Option.bind_eq_bind, Option.bind_some, hu, hu']
    rcases Document.required Document.text? status with _ | status
    · exact .none
    rcases Document.withDefault [] headers? headers with _ | headers
    · exact .none
    · exact .some ⟨rfl, rfl, hsame⟩

theorem linkedRoot?_of_differAt (h : Document.DifferAt 1 "url" Document.Addresses d d') :
    Option.Rel Eq (linkedRoot? d) (linkedRoot? d') := by
  rw [linkedRoot?, h.single?_eq (by decide) (by decide)]
  cases d'.single? "root" (Document.single? "/" Document.text?) with
  | none => exact .none
  | some root => exact .some rfl

/-! ## What is sent -/

/-- Requests that put one archive to two addresses with the same given headers, and what such requests
are sent on as where answers with the same status and headers redirect both. -/
inductive PutApart (rule : Redirects) : Request → Request → Prop where
  | put (u u' : Url) (given : List Header) (car : Car.Archive) :
    PutApart rule (shardPut u given car) (shardPut u' given car)
  | led {r r' q q' : Request} {x x' : Response} (h : PutApart rule r r')
      (hstatus : x.status = x'.status) (hheaders : x.headers = x'.headers)
      (hnext : rule.next r x = some q) (hnext' : rule.next r' x' = some q') : PutApart rule q q'

/-- Requests that are the same, or put one archive to two addresses. -/
def SameButTarget (rule : Redirects) (r r' : Request) : Prop := r = r' ∨ PutApart rule r r'

theorem seeOther_respects_sameButTarget :
    Redirects.seeOther.Respects (SameButTarget .seeOther) Response.SameButUrl :=
  Redirects.seeOther_respects (fun _ _ h => h.headers_eq)
    fun _ _ _ _ _ hr hstatus hheaders hnext hnext' =>
      hr.imp (fun hsame => by rw [hsame]) fun hput => .led hput hstatus hheaders hnext hnext'

variable {σ τ : Type} {R : σ → τ → Prop} {n : Network σ} {m : Network τ} {o : Options}
  {rule : Redirects}

/-- Nothing that is told of a failure to put an archive somewhere depends on where. -/
theorem hideUrl_eq_of_refused {u u' : Url} {e e' : ExchangeError} (h : Refused u u' e e') :
    hideUrl e = hideUrl e' := by
  cases h with
  | status => rfl
  | http hkind => exact congrArg ExchangeError.http hkind

section

variable (h : n.Agree R (SameButTarget rule) Response.SameButUrl m)

include h

/-- The same request is sent by both. -/
theorem related_send_self (request : Except Failure Request) :
    Related R Eq Response.SameButUrl (Client.send ⟨n, o⟩ request) (Client.send ⟨m, o⟩ request) :=
  h.send_eq (.refl (fun _ => rfl) (fun _ => ⟨.inl rfl, rfl⟩) request)

/-- **One archive is sent to two addresses.** -/
theorem related_send_shard {url url' : String}
    (hready : Request.Ready (Request.ofAddress .put url) ↔
      Request.Ready (Request.ofAddress .put url')) (given : List Header) (car : Car.Archive) :
    Related R (fun e d => hideUrl e = hideUrl d) Response.SameButUrl
      (Client.send ⟨n, o⟩ (shardRequest url given car))
      (Client.send ⟨m, o⟩ (shardRequest url' given car)) := by
  by_cases hurl : Request.Ready (Request.ofAddress .put url)
  · have hurl' := hready.mp hurl
    rw [← ready_shardRequest_iff url given car] at hurl
    rw [← ready_shardRequest_iff url' given car] at hurl'
    obtain ⟨r, hr, hsendable⟩ := Request.ready_iff.mp hurl
    obtain ⟨r', hr', hsendable'⟩ := Request.ready_iff.mp hurl'
    rw [hr, hr']
    obtain ⟨u, -, -, rfl⟩ := shardRequest_eq_ok_iff.mp hr
    obtain ⟨u', -, -, rfl⟩ := shardRequest_eq_ok_iff.mp hr'
    exact h.send_alike (.ok ⟨.inr (.put u u' given car), hsendable.trans hsendable'.symm,
      fun _ _ => hideUrl_eq_of_refused⟩)
  · obtain ⟨e, hsend, he⟩ := exists_send_of_not_ready hurl ⟨n, o⟩ given car
    obtain ⟨e', hsend', he'⟩ :=
      exists_send_of_not_ready (fun hurl' => hurl (hready.mpr hurl')) ⟨m, o⟩ given car
    rw [hsend, hsend']
    exact .fail (he.trans he'.symm)

/-- **Putting an archive to two addresses.** -/
theorem related_putShard_of_sameButUrl {a a' : StoreAdded} (ha : a.SameButUrl a')
    (car : Car.Archive) :
    Related R Eq Eq (putShard ⟨n, o⟩ a car) (putShard ⟨m, o⟩ a' car) := by
  refine related_putShard_of (P := Response.SameButUrl) h.arrange ha.headers_eq fun headers => ?_
  rcases ha.url with hurl | ⟨url, url', hurl, hurl', hready⟩
  · rw [hurl]
    cases a'.url with
    | none => exact .none
    | some url => exact .some (related_send_shard h Iff.rfl headers car)
  · rw [hurl, hurl']
    exact .some (related_send_shard h hready headers car)

/-- **An upload whose archive goes to two addresses.** -/
theorem related_upload_of_sameButUrl (hash : HashFunction) (s : Storacha) (content : ByteArray) :
    Related R Eq Eq (s.upload ⟨n, o⟩ hash content) (s.upload ⟨m, o⟩ hash content) := by
  refine related_upload_of (fun _ _ ha => ha.status_eq) (fun car => ?_)
    (fun _ _ car ha => related_putShard_of_sameButUrl h ha car) (fun car => ?_) hash content
  · exact related_invoke (related_send_self h _) fun x y hxy =>
      alikeReceipts_of_sameButUrl .refl (fun _ _ => storeAdded?_of_differAt) hxy
  · exact related_invoke (related_send_self h _) fun x y hxy =>
      alikeReceipts_of_sameButUrl (fun _ => rfl) (fun _ _ => linkedRoot?_of_differAt) hxy

end

end Vendor.Storacha

/-! ## Two runs -/

namespace Vendor

variable {σ τ α : Type}

/-- Two steps cannot be told apart: from related states they have one result, lead to related states
and send requests that correspond to one another. -/
def Indistinct (R : σ → τ → Prop) (Q : Request → Request → Prop)
    (x : Action (σ × List (Sent Unit)) α) (y : Action (τ × List (Sent Unit)) α) : Prop :=
  ∀ s t, R s t →
    let left := x.run.run (s, [])
    let right := y.run.run (t, [])
    left.1 = right.1 ∧ R left.2.1 right.2.1 ∧
      List.Forall₂ Q (left.2.2.map Sent.request) (right.2.2.map Sent.request)

theorem indistinct_of_related {R : σ → τ → Prop} {Q : Request → Request → Prop}
    {x : Action (σ × List (Sent Unit)) α} {y : Action (τ × List (Sent Unit)) α}
    (h : Related (fun s t => R s.1 t.1 ∧
      List.Forall₂ Q (s.2.map Sent.request) (t.2.map Sent.request)) Eq Eq x y) :
    Indistinct R Q x y := by
  intro s t hR
  obtain ⟨hresult, hstate, hsent⟩ := h (s, []) (t, []) ⟨hR, .nil⟩
  exact ⟨hresult.eq, hstate, hsent⟩

/-- A cluster is read with a token. -/
def readWith (token : String) (replies : List (Except Loss Answer)) :
    Except ProviderError ByteArray × (List (Except Loss Answer) × Int) × List (Sent Unit) :=
  (((Adapter.pinningNode ⟨"http://h", token⟩).backend (fun _ => Digest.zero)
    ⟨(Network.playing.noting ()).following .seeOther, .standard⟩).fetch (.v0 Digest.zero)).run.run
      ((replies, 0), [])

/-- An answer that says to see elsewhere. -/
def seeAt (url : String) : Answer := ⟨303, [⟨"location", url.toByteArray⟩], none⟩

/-- An answer that forbids what was asked for. -/
def forbidden : Answer := ⟨403, [], none⟩

/-- Replies to an upload whose archive is put to an address, but is to go elsewhere and is refused. -/
def refusedAt (url : String) : List (Except Loss Answer) :=
  [.ok (Storacha.addressed url), .ok (seeAt "http://c/"), .ok forbidden]

/-- Answers that are the same but for an address, wherever they come from. -/
def SameButOffer (a b : Answer) : Prop :=
  ∀ u u', Response.SameButUrl { toAnswer := a, url := u } { toAnswer := b, url := u' }

theorem sameButOffer_addressed {url url' : String} (h : ∀ c ∈ url.toList, JsonSyntax.Bare c)
    (h' : ∀ c ∈ url'.toList, JsonSyntax.Bare c)
    (hready : Request.Ready (Request.ofAddress .put url) ↔
      Request.Ready (Request.ofAddress .put url')) :
    SameButOffer (Storacha.addressed url) (Storacha.addressed url') := fun u u' =>
  have haddresses : Document.Addresses (.text url) (.text url') := ⟨_, _, rfl, rfl, hready⟩
  { headers_eq := rfl
    body := .inr ⟨_, _, Storacha.document?_addressed h u, Storacha.document?_addressed h' u',
      .first [] (.field [] [] (.field [] [] (.field [] [] (.field [_] [] haddresses))))⟩ }

/-- Replies that differ in the address only. -/
theorem forall₂_refusedAt {url url' : String} (h : ∀ c ∈ url.toList, JsonSyntax.Bare c)
    (h' : ∀ c ∈ url'.toList, JsonSyntax.Bare c)
    (hready : Request.Ready (Request.ofAddress .put url) ↔
      Request.Ready (Request.ofAddress .put url')) :
    List.Forall₂ (Alike Eq fun a b => a.status = b.status ∧ SameButOffer a b) (refusedAt url)
      (refusedAt url') := by
  have hself : ∀ a : Answer, a.status = a.status ∧ SameButOffer a a := fun a =>
    ⟨rfl, fun _ _ => ⟨rfl, .inl rfl⟩⟩
  have hstatus : (Storacha.addressed url).status = (Storacha.addressed url').status := rfl
  exact .cons (.ok ⟨hstatus, sameButOffer_addressed h h' hready⟩)
    (.cons (.ok (hself _)) (.cons (.ok (hself _)) .nil))

/-- The answer of a bridge that gives two headers, neither of which is one. -/
def misheaded : Answer :=
  Storacha.receipt (Storacha.fieldText "status" (Storacha.stringText "upload") (',' ::
    Storacha.fieldText "url" (Storacha.stringText "http://h/a") (',' ::
      Storacha.fieldText "headers" ('\x7b' :: Storacha.fieldText "bad name" (Storacha.stringText "v")
        (',' :: Storacha.fieldText "x" (Storacha.stringText "\x7f") ['\x7d'])) ['\x7d'])))

end Vendor

end AddressedStorage
