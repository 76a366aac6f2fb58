import AddressedStorage.Http.Redirect
import AddressedStorage.Proofs.Document.Json
import AddressedStorage.Proofs.Http.Agree
import AddressedStorage.Proofs.Http.Success
import AddressedStorage.Proofs.Vendor.Address
import AddressedStorage.Vendor.Storacha

/-!
# Proofs/Vendor/Bridge — what a bridge is asked, and what it offers

All tasks of an account go to one address (`taskRequest_eq`).  An archive is put where the bridge offers
it, with the headers that it gives and one that the client adds if there is a login in the address
(`shardRequest_eq_ok_iff`).

`addressed` is the answer of a bridge that offers an address.  If nothing can be sent there, an upload
ends with that answer (`uploadOn_of_not_ready`).
-/

namespace AddressedStorage.Vendor.Storacha

open Http

variable {σ : Type}

/-! ## Tasks -/

/-- What tells a bridge of a task. -/
def taskBody (s : Storacha) (ability : String) (arguments : Document) : Body :=
  .json (.record [("tasks", .list [.list [.text ability, .text s.space, arguments]])])

/-- The request of any task, without what it says. -/
def taskHead (s : Storacha) : Except Failure Request := do
  let r ← Request.ofAddress .post (Url.join s.bridgeUrl bridgePath)
  (Credentials.authSecret s.authSecret s.authorization).apply r

theorem taskRequest_eq (s : Storacha) (ability : String) (arguments : Document) :
    s.taskRequest ability arguments =
      s.taskHead.map fun r => { r with body := s.taskBody ability arguments } := by
  rw [taskRequest, taskHead]
  cases Request.ofAddress .post (Url.join s.bridgeUrl bridgePath) with
  | error failure => rfl
  | ok r =>
    change (Credentials.authSecret s.authSecret s.authorization).apply r >>= _ = Except.map _
      ((Credentials.authSecret s.authSecret s.authorization).apply r)
    cases (Credentials.authSecret s.authSecret s.authorization).apply r <;> rfl

/-- **All tasks go to one address**, so that either any can be sent or none. -/
theorem ready_taskRequest_iff (s : Storacha) (ability : String) (arguments : Document) :
    Request.Ready (s.taskRequest ability arguments) ↔ Request.Ready s.taskHead := by
  rw [taskRequest_eq]
  exact Request.ready_map_iff fun _ => rfl

theorem body_of_taskRequest {s : Storacha} {ability : String} {arguments : Document} {r : Request}
    (h : s.taskRequest ability arguments = .ok r) : r.body = s.taskBody ability arguments := by
  rw [taskRequest_eq] at h
  obtain ⟨head, -, rfl⟩ := map_eq_ok_iff.mp h
  rfl

/-! ## Shards -/

/-- A header a shard can be sent with. -/
def IsLegal (header : String × String) : Prop :=
  isHeaderName header.1 ∧ isHeaderValue header.2.toByteArray.data.toList

/-- A header as it is sent. -/
def asSent (header : String × String) : Header := ⟨header.1.toLower, header.2.toByteArray⟩

/-- **Headers are sent as they are**, if all of them are legal. -/
theorem shardHeaders_eq_ok_iff {given : List (String × String)} {headers : List Header} :
    shardHeaders given = .ok headers ↔
      (∀ header ∈ given, IsLegal header) ∧ headers = given.map asSent := by
  induction given generalizing headers with
  | nil => simp [shardHeaders, eq_comm]
  | cons header given ih =>
    obtain ⟨name, value⟩ := header
    rw [shardHeaders, List.forall_mem_cons, IsLegal]
    by_cases hname : isHeaderName name
    · by_cases hvalue : isHeaderValue value.toByteArray.data.toList
      · simp only [hname, hvalue, Bool.not_true, Bool.false_eq_true, if_false, map_eq_ok_iff, ih,
          true_and, and_true, List.map_cons]
        constructor
        · rintro ⟨_, ⟨hlegal, rfl⟩, rfl⟩
          exact ⟨hlegal, rfl⟩
        · rintro ⟨hlegal, rfl⟩
          exact ⟨_, ⟨hlegal, rfl⟩, rfl⟩
      · simp [hname, hvalue]
    · simp [hname]

/-- The request that puts an archive to an address. -/
def shardRequest (url : String) (headers : List Header) (car : Car.Archive) :
    Except Failure Request := do
  let r ← Request.ofAddress .put url
  return { r.withHeaders headers with body := .bytes car.bytes }

theorem shardRequest_eq (url : String) (headers : List Header) (car : Car.Archive) :
    shardRequest url headers car = (Request.ofAddress .put url).map fun r =>
      { r.withHeaders headers with body := .bytes car.bytes } := by
  rw [shardRequest]
  cases Request.ofAddress .put url <;> rfl

theorem ready_shardRequest_iff (url : String) (given : List Header) (car : Car.Archive) :
    Request.Ready (shardRequest url given car) ↔ Request.Ready (Request.ofAddress .put url) := by
  rw [shardRequest_eq]
  exact Request.ready_map_iff fun _ => rfl

/-- The headers of a request that is given some: a login in the address adds one, unless one of its name
is given. -/
def shardHead (u : Url) (given : List Header) : List Header :=
  ((loginHeader? u).toList.filter fun header => !given.any (·.name = header.name)) ++ given

/-- What puts an archive to an address, once that is read. -/
def shardPut (u : Url) (given : List Header) (car : Car.Archive) : Request where
  method := .put
  url := withoutLogin u
  headers := shardHead u given
  body := .bytes car.bytes

/-- **What is put to an address**, and with which headers. -/
theorem shardRequest_eq_ok_iff {url : String} {given : List Header} {car : Car.Archive}
    {r : Request} :
    shardRequest url given car = .ok r ↔
      ∃ u, Url.parse url = .ok u ∧ u.host.getD [] ≠ [] ∧ r = shardPut u given car := by
  rw [shardRequest_eq, map_eq_ok_iff]
  simp only [Request.ofAddress_eq_ok_iff]
  constructor
  · rintro ⟨_, ⟨u, hparse, hhost, rfl⟩, rfl⟩
    exact ⟨u, hparse, hhost, rfl⟩
  · rintro ⟨u, hparse, hhost, rfl⟩
    exact ⟨_, ⟨u, hparse, hhost, rfl⟩, rfl⟩

/-- An archive that cannot be put to an address is not sent at all, and nothing that is told of that
depends on the address. -/
theorem exists_send_of_not_ready {url : String} (h : ¬ Request.Ready (Request.ofAddress .put url))
    (c : Client σ) (given : List Header) (car : Car.Archive) :
    ∃ e, c.send (shardRequest url given car) = throw e ∧
      hideUrl e = .http (.unbuildable none) := by
  rw [← ready_shardRequest_iff url given car] at h
  rcases hrequest : shardRequest url given car with failure | r
  · have hfailure : ∃ u, failure = .unbuildable u := by
      rw [shardRequest_eq] at hrequest
      cases haddress : Request.ofAddress .put url with
      | error cause =>
        rw [haddress] at hrequest
        exact Except.error.inj hrequest ▸ Request.ofAddress_eq_error haddress
      | ok r =>
        rw [haddress] at hrequest
        cases hrequest
    obtain ⟨u, rfl⟩ := hfailure
    exact ⟨_, rfl, rfl⟩
  · have hr : ¬ r.isSendable := fun hr => h (Request.ready_iff.mpr ⟨r, hrequest, hr⟩)
    refine ⟨.http (.unbuildable (some r.url)), ?_, rfl⟩
    rw [Client.send, Client.sendFrom_of_not_isSendable c hr]
    rfl

/-- **A task is done at once** if its receipt says so. -/
theorem run_invoke_of_done {α : Type} {s : Storacha} {c : Client σ} {ability : String}
    {arguments : Document} {read : Document → Option α} {r : Request} {x : Response} {value : α}
    {others : List (Outcome α)} {state state' : σ} (hr : s.taskRequest ability arguments = .ok r)
    (hsendable : r.isSendable) (hanswer : (c.network.send r).run state = (.ok x, state'))
    (hx : x.isSuccess)
    (hsaid : x.document?.bind (Document.listOf? (receipt? read)) = some (.done value :: others)) :
    (s.invoke c ability arguments read).run.run state = (.ok value, state') := by
  rw [invoke, hr, ExceptT.run_bind, StateT.run_bind, Client.run_send_of_success hsendable hanswer hx]
  change (Response.decode _ x >>= _ : Exchange σ α).run.run state' = _
  rw [Response.decode, hsaid]
  rfl

/-- **An archive that can be put nowhere** is not sent, and nothing is told of where it was to go. -/
theorem run_upload_of_not_ready {s : Storacha} {c : Client σ} {hash : HashFunction}
    {content : ByteArray} {car : Car.Archive} {url : String} {state state' : σ}
    (hpack : Car.pack hash content = .ok car)
    (hstore : (s.invoke c "store/add" (storeArguments car) storeAdded?).run.run state =
      (.ok ⟨"upload", some url, []⟩, state'))
    (harrange : c.network.arrange [] = return [])
    (h : ¬ Request.Ready (Request.ofAddress .put url)) :
    (s.upload c hash content).run.run state =
      (.error (.upload "http error: builder error"), state') := by
  have hput : putShard c ⟨"upload", some url, []⟩ car = throw (.http (.unbuildable none)) := by
    obtain ⟨e, hsend, he⟩ := exists_send_of_not_ready h c [] car
    rw [putShard]
    dsimp only
    rw [harrange]
    change ExceptT.adapt hideUrl (c.send (shardRequest url [] car)) >>= _ = _
    rw [hsend, ← he]
    rfl
  have hannounced : (s.invoke c "store/add" (storeArguments car) storeAdded?).asUpload.run.run
      state = (.ok ⟨"upload", some url, []⟩, state') := Exchange.run_asUpload_of_ok hstore
  have hmessage : (ExchangeError.http (.unbuildable none)).message = "http error: builder error" := by
    decide +kernel
  rw [upload, hpack, Except.mapError, ofExcept_ok_bind, ExceptT.run_bind, StateT.run_bind,
    hannounced, ← hmessage]
  change ((putShard c _ car).asUpload >>= _ : Action σ Cid).run.run state' = _
  rw [hput]
  rfl

/-! ## Offers -/

open JsonSyntax

/-- The text of a string. -/
def stringText (text : String) : List Char := '"' :: (text.toList ++ ['"'])

/-- The text of a field, and what follows it. -/
def fieldText (name : String) (value after : List Char) : List Char :=
  '"' :: (name.toList ++ '"' :: ':' :: (value ++ after))

/-- The text of a list of one receipt, which reports a record of fields. -/
def receiptText (fields : List Char) : List Char :=
  '[' :: ('\x7b' :: fieldText "p" ('\x7b' :: fieldText "out" ('\x7b' :: fieldText "ok"
    ('\x7b' :: fields) ['\x7d']) ['\x7d']) ['\x7d'] ++ [']'])

/-- The answer of a bridge. -/
def receipt (fields : List Char) : Answer :=
  ⟨200, [], some (String.ofList (receiptText fields)).toByteArray⟩

/-- What it says. -/
def receiptDocument (fields : List (String × Document)) : Document :=
  .list [.record [("p", .record [("out", .record [("ok", .record fields)])])]]

theorem spells_stringText {text : String} (h : ∀ c ∈ text.toList, Bare c) :
    Spells (stringText text) (.text text) := by
  have hspells := Spells.text h
  rwa [String.ofList_toList] at hspells

theorem spellsFields_last {name : String} {value : List Char} {d : Document}
    (hname : ∀ c ∈ name.toList, Bare c) (h : Spells value d) :
    SpellsFields (fieldText name value ['\x7d']) [(name, d)] := by
  have hspells := SpellsFields.last hname h
  rwa [String.ofList_toList] at hspells

theorem spellsFields_cons {name : String} {value later : List Char} {d : Document}
    {fields : List (String × Document)} (hname : ∀ c ∈ name.toList, Bare c) (h : Spells value d)
    (hlater : SpellsFields later fields) :
    SpellsFields (fieldText name value (',' :: later)) ((name, d) :: fields) := by
  have hspells := SpellsFields.cons hname h hlater
  rwa [String.ofList_toList] at hspells

/-- **What a receipt says** is what its fields say. -/
theorem document?_receipt {text : List Char} {fields : List (String × Document)}
    (h : SpellsFields text fields) (u : Url) :
    Response.document? { toAnswer := receipt text, url := u } = some (receiptDocument fields) := by
  have hok : SpellsFields (fieldText "ok" ('\x7b' :: text) ['\x7d']) _ :=
    spellsFields_last (.of_all (by decide)) (.record h)
  have hout : SpellsFields (fieldText "out" ('\x7b' :: _) ['\x7d']) _ :=
    spellsFields_last (.of_all (by decide)) (.record hok)
  have hp : SpellsFields (fieldText "p" ('\x7b' :: _) ['\x7d']) _ :=
    spellsFields_last (.of_all (by decide)) (.record hout)
  exact Document.ofJsonBytes?_of_spells (.list (.last (.record hp)))

/-- The answer of a bridge that lets an archive be put to an address. -/
def addressed (url : String) : Answer :=
  receipt (fieldText "status" (stringText "upload") (',' :: fieldText "url" (stringText url) ['\x7d']))

/-- The characters of an address stand for themselves. -/
theorem bare_queried (n : Nat) : ∀ c ∈ (queried n).toList, Bare c := by
  rw [toList_queried]
  refine List.forall_mem_append.mpr ⟨.of_all (by decide), fun c hc => ?_⟩
  obtain rfl := List.eq_of_mem_replicate hc
  decide

theorem document?_addressed {url : String} (h : ∀ c ∈ url.toList, Bare c) (u : Url) :
    Response.document? { toAnswer := addressed url, url := u } =
      some (receiptDocument [("status", .text "upload"), ("url", .text url)]) :=
  document?_receipt (spellsFields_cons (.of_all (by decide)) (spells_stringText (.of_all (by decide)))
    (spellsFields_last (.of_all (by decide)) (spells_stringText h))) u

theorem listOf?_addressed (url : String) :
    Document.listOf? (receipt? storeAdded?)
        (receiptDocument [("status", .text "upload"), ("url", .text url)]) =
      some [.done ⟨"upload", some url, []⟩] := by
  rfl

/-- An account at a bridge. -/
def account : Storacha := ⟨"secret", "authorization", "did:key:h", "http://b", "http://g"⟩

/-- The upload of no content to an account, with the answers that are left and what was sent. -/
def uploadOn (network : Network (List (Except Loss Answer) × Int))
    (replies : List (Except Loss Answer)) :
    Except ProviderError Cid × (List (Except Loss Answer) × Int) × List (Sent Unit) :=
  ((account.backend ⟨(network.noting ()).following .seeOther, .standard⟩ fun _ => Digest.zero).upload
    ByteArray.empty none).run.run ((replies, 0), [])

/-- An offer of an address where nothing can be sent ends the upload. -/
theorem uploadOn_of_not_ready {url : String} (hbare : ∀ c ∈ url.toList, Bare c)
    (h : ¬ Request.Ready (Request.ofAddress .put url)) (later : List (Except Loss Answer)) :
    ∃ x, uploadOn .playing (.ok (addressed url) :: later) =
      (.error (.upload "http error: builder error"), (later, 0), [x]) := by
  have hpacked : (Car.pack (fun _ => Digest.zero) ByteArray.empty).toOption.isSome := by
    decide +kernel
  obtain ⟨car, hcar⟩ := Option.isSome_iff_exists.mp hpacked
  have hpack := toOption_eq_some_iff.mp hcar
  have hhead : (Request.sendable? account.taskHead).isSome := by decide +kernel
  obtain ⟨r, hr, hsendable⟩ := Request.ready_iff.mp
    ((ready_taskRequest_iff account "store/add" (storeArguments car)).mpr hhead)
  have hsaid : (Response.document? { addressed url with url := r.url }).bind
      (Document.listOf? (receipt? storeAdded?)) = some [.done ⟨"upload", some url, []⟩] := by
    rw [document?_addressed hbare, Option.bind_some]
    exact listOf?_addressed url
  exact ⟨⟨(), r, .ok { addressed url with url := r.url }⟩,
    run_upload_of_not_ready hpack (run_invoke_of_done hr hsendable rfl rfl hsaid) rfl h⟩

end AddressedStorage.Vendor.Storacha
