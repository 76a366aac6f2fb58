import AddressedStorage.Proofs.Car.Contents
import AddressedStorage.Proofs.Http.Success
import AddressedStorage.Proofs.Vendor.Presigned
import AddressedStorage.Proofs.Vendor.Steady

/-!
# Proofs/Vendor/Storacha — the steps of an upload to a space

An upload announces an archive to a bridge, puts it where the bridge says, if it does, and links the
root to it.  Each step is a request that is tried (`Tried`), and comes to what its one success says
(`told`).  There are four ways through the steps (`Followed`), and all of them keep to one protocol
(`Protocol`), which says what each request carries and when it is made.
-/

namespace AddressedStorage.Vendor

open Http

/-! ## What a vendor reports -/

/-- An upload comes to the identifier that is reported, if one is reported at all. -/
inductive Reported (said : Option String) : Except ProviderError Cid → Prop where
  | parsed {text : String} (h : said = some text) :
    Reported said ((Cid.parse text).mapError .identifier)
  | failed {reason : String} (h : said = none) : Reported said (.error (.upload reason))

namespace Reported

variable {said : Option String} {result : Except ProviderError Cid}

/-- An identifier is answered just if it was reported. -/
theorem eq_ok_iff (h : Reported said result) {cid : Cid} :
    result = .ok cid ↔ ∃ text, said = some text ∧ Cid.parse text = .ok cid := by
  cases h with
  | parsed hsome => simp [hsome]
  | failed hnone => simp [hnone]

/-- It is refused as none just if what was reported is none. -/
theorem eq_identifier_iff (h : Reported said result) {cause : FormatError} :
    result = .error (.identifier cause) ↔
      ∃ text, said = some text ∧ Cid.parse text = .error cause := by
  cases h with
  | parsed hsome => simp [hsome]
  | failed hnone => simp [hnone]

theorem error (h : Reported said result) {e : ProviderError} (he : result = .error e) :
    (∃ reason, e = .upload reason) ∨ ∃ cause, e = .identifier cause := by
  cases h with
  | parsed =>
    obtain ⟨cause, -, rfl⟩ := mapError_eq_error_iff.mp he
    exact .inr ⟨cause, rfl⟩
  | failed => exact .inl ⟨_, (Except.error.inj he).symm⟩

end Reported

namespace Storacha

variable {σ κ α : Type}

/-! ## What a bridge says -/

/-- What the first receipt in an answer reports to be done. -/
def reported? (read : Document → Option α) (response : Response) : Option α :=
  match response.document?.bind (Document.listOf? (receipt? read)) with
  | some (.done value :: _) => some value
  | _ => none

/-- What the success among the answers reports to be done. -/
def told (read : Document → Option α) (sent : List (Sent κ)) : Option α :=
  (successes sent).head?.bind (reported? read)

/-! ## Requests -/

/-- The request that puts an archive where the bridge said, with headers in some order, if all of that is
in legal terms. -/
def putRequest (added : StoreAdded) (entries : List (String × String)) (car : Car.Archive) :
    Except Failure Request :=
  match added.url, shardHeaders entries with
  | some url, .ok headers => shardRequest url headers car
  | _, _ => .error (.unbuildable none)

theorem ready_putRequest_iff {added : StoreAdded} {entries : List (String × String)}
    (h : entries.Perm added.headers) {car : Car.Archive} :
    Request.Ready (putRequest added entries car) ↔
      ∃ url, added.url = some url ∧ Request.Ready (Request.ofAddress .put url) ∧
        ∀ header ∈ added.headers, IsLegal header := by
  have hillegal : ¬ Request.Ready (.error (.unbuildable none)) := Bool.false_ne_true
  have hentries : (∀ header ∈ entries, IsLegal header) ↔ ∀ header ∈ added.headers, IsLegal header :=
    forall_congr' fun _ => imp_congr_left h.mem_iff
  rw [putRequest, ← hentries]
  cases hurl : added.url with
  | none => simp [hillegal]
  | some url =>
    cases hheaders : shardHeaders entries with
    | error e =>
      refine ⟨fun h => absurd h hillegal, fun ⟨_, _, _, hlegal⟩ => ?_⟩
      cases hheaders.symm.trans (shardHeaders_eq_ok_iff.mpr ⟨hlegal, rfl⟩)
    | ok headers =>
      have hlegal := (shardHeaders_eq_ok_iff.mp hheaders).1
      refine ⟨fun h => ⟨url, rfl, (ready_shardRequest_iff url headers car).mp h, hlegal⟩, ?_⟩
      rintro ⟨_, ⟨⟩, h, -⟩
      exact (ready_shardRequest_iff url headers car).mpr h

/-- What is sent to put an archive where the bridge said, its headers visited in some order. -/
def Putting (o : Options) (sender : κ) (car : Car.Archive) (added : StoreAdded)
    (put : List (Sent κ)) : Prop :=
  ∃ entries, entries.Perm added.headers ∧ Tried sender o (putRequest added entries car) put

namespace Putting

variable {o : Options} {sender : κ} {car : Car.Archive} {added : StoreAdded} {put : List (Sent κ)}

theorem ne_nil_iff (h : Putting o sender car added put) :
    put ≠ [] ↔ ∃ url, added.url = some url ∧ Request.Ready (Request.ofAddress .put url) ∧
      ∀ header ∈ added.headers, IsLegal header := by
  obtain ⟨entries, hperm, htried⟩ := h
  rw [htried.ne_nil_iff, ready_putRequest_iff hperm]

theorem exists_successes_eq (h : Putting o sender car added put) :
    ∃ answer : Option Response, successes put = answer.toList :=
  let ⟨_, _, htried⟩ := h
  htried.exists_successes_eq

end Putting

/-! ## Steps -/

variable (network : Network σ) (o : Options) (sender : κ) (s : Storacha)

/-- **A task is tried**, and comes to what the first receipt reports. -/
theorem sends_invoke (ability : String) (arguments : Document) (read : Document → Option α) :
    Sends (fun sent result =>
        Tried sender o (s.taskRequest ability arguments) sent ∧ result.toOption = told read sent)
      (s.invoke ⟨network.noting sender, o⟩ ability arguments read).run := by
  refine (Client.sends_tried network o sender _).bindExcept (fun sent e h => ⟨h.1, ?_⟩) ?_
  · rw [told, h.2]
    rfl
  · rintro sent response ⟨htried, hsuccess⟩
    have htold : told read sent = reported? read response := by
      rw [told, hsuccess]
      rfl
    rw [reported?] at htold
    rw [Response.decode]
    generalize response.document?.bind (Document.listOf? (receipt? read)) = receipts at htold ⊢
    rcases receipts with _ | (_ | ⟨value | reason, rest⟩) <;>
      refine .ret ⟨(List.append_nil sent).symm ▸ htried, ?_⟩ <;>
      rw [List.append_nil, htold] <;> rfl

/-- **Putting an archive is tried**, and done with the first success. -/
theorem sends_putShard (added : StoreAdded) (car : Car.Archive) :
    Sends (fun put result => Putting o sender car added put ∧ (result = .ok () ↔ successes put ≠ []))
      (putShard ⟨network.noting sender, o⟩ added car).run := by
  have hillegal : ∀ entries, putRequest added entries car = .error (.unbuildable none) →
      Tried sender o (putRequest added entries car) [] := fun _ h => h ▸ .unsendable rfl
  rw [putShard]
  cases hurl : added.url with
  | none =>
    have hrequest : putRequest added added.headers car = .error (.unbuildable none) := by
      rw [putRequest, hurl]
    exact .ret ⟨⟨_, .refl _, hillegal _ hrequest⟩, by simp⟩
  | some url =>
    refine (Sends.arrange network sender added.headers).bindLift fun nothing entries hentries => ?_
    obtain ⟨rfl, hperm⟩ := hentries
    cases hheaders : shardHeaders entries with
    | error e =>
      have hrequest : putRequest added entries car = .error (.unbuildable none) := by
        rw [putRequest, hurl, hheaders]
      exact .ret ⟨⟨_, hperm, hillegal _ hrequest⟩, by simp⟩
    | ok headers =>
      have hrequest : putRequest added entries car = shardRequest url headers car := by
        rw [putRequest, hurl, hheaders]
      have hsend := Client.sends_tried network o sender (shardRequest url headers car)
      refine (hsend.adapt hideUrl).bindExcept ?_ ?_
      · rintro sent e ⟨answer, ⟨htried, hsuccess⟩, he⟩
        obtain ⟨cause, rfl, -⟩ := mapError_eq_error_iff.mp he.symm
        refine ⟨⟨entries, hperm, hrequest ▸ htried⟩, fun hok => ?_, fun hsome => ?_⟩
        · cases hok
        · exact absurd hsuccess hsome
      · rintro sent response ⟨answer, ⟨htried, hsuccess⟩, hok⟩
        obtain rfl := mapError_eq_ok_iff.mp hok.symm
        refine .ret ?_
        rw [List.nil_append, List.append_nil, hsuccess]
        exact ⟨⟨entries, hperm, hrequest ▸ htried⟩, fun _ => List.cons_ne_nil _ _, fun _ => rfl⟩

/-- What linking a root sends, and what it comes to. -/
structure Linked (car : Car.Archive) (sent : List (Sent κ)) (result : Except ProviderError Cid) :
    Prop where
  tried : Tried sender o (s.taskRequest "upload/add" (linkArguments car)) sent
  reported : Reported (told linkedRoot? sent) result

/-- **Linking a root is tried**, and comes to the identifier that is reported. -/
theorem sends_link (car : Car.Archive) :
    Sends (Linked o sender s car)
      (do reportedCid (← (s.invoke ⟨network.noting sender, o⟩ "upload/add" (linkArguments car)
        linkedRoot?).asUpload)).run := by
  refine (sends_invoke network o sender s "upload/add" (linkArguments car) linkedRoot?).bindUpload
    (fun sent e ⟨htried, htold⟩ => ⟨htried, .failed htold.symm⟩) fun sent text h => .ret ?_
  rw [List.append_nil]
  exact ⟨h.1, .parsed h.2.symm⟩

/-! ## An upload -/

/-- What an upload sends for an archive, step by step, and what it comes to. -/
inductive Followed (car : Car.Archive) :
    List (Sent κ) → List (Sent κ) → List (Sent κ) → Except ProviderError Cid → Prop where
  /-- The bridge takes no announcement. -/
  | unannounced {store : List (Sent κ)} {reason : String}
      (hstore : Tried sender o (s.taskRequest "store/add" (storeArguments car)) store)
      (htold : told storeAdded? store = none) :
    Followed car store [] [] (.error (.upload reason))
  /-- The archive is not taken where the bridge said. -/
  | refused {store put : List (Sent κ)} {added : StoreAdded} {reason : String}
      (hstore : Tried sender o (s.taskRequest "store/add" (storeArguments car)) store)
      (htold : told storeAdded? store = some added) (hstatus : added.status = "upload")
      (hput : Putting o sender car added put) (hnone : successes put = []) :
    Followed car store put [] (.error (.upload reason))
  /-- The archive is taken, and linked. -/
  | taken {store put link : List (Sent κ)} {added : StoreAdded}
      {result : Except ProviderError Cid}
      (hstore : Tried sender o (s.taskRequest "store/add" (storeArguments car)) store)
      (htold : told storeAdded? store = some added) (hstatus : added.status = "upload")
      (hput : Putting o sender car added put) (hsome : successes put ≠ [])
      (hlink : Linked o sender s car link result) : Followed car store put link result
  /-- The archive is there already, and linked. -/
  | known {store link : List (Sent κ)} {added : StoreAdded} {result : Except ProviderError Cid}
      (hstore : Tried sender o (s.taskRequest "store/add" (storeArguments car)) store)
      (htold : told storeAdded? store = some added) (hstatus : added.status ≠ "upload")
      (hlink : Linked o sender s car link result) : Followed car store [] link result

/-- **An upload goes through its steps.** -/
theorem sends_upload {hash : HashFunction} {content : ByteArray} {car : Car.Archive}
    (hpack : Car.pack hash content = .ok car) :
    Sends (fun sent result => ∃ store put link, sent = store ++ put ++ link ∧
        Followed o sender s car store put link result)
      (s.upload ⟨network.noting sender, o⟩ hash content).run := by
  have hlink := sends_link network o sender s car
  rw [upload, hpack, Except.mapError, ofExcept_ok_bind]
  refine (sends_invoke network o sender s "store/add" (storeArguments car) storeAdded?).bindUpload
    ?_ ?_
  · rintro store e ⟨hstore, htold⟩
    exact ⟨store, [], [], by simp, .unannounced hstore htold.symm⟩
  · rintro store added ⟨hstore, htold⟩
    by_cases hstatus : added.status = "upload"
    · simp only [if_pos hstatus]
      refine (sends_putShard network o sender added car).bindUpload ?_ ?_
      · rintro put e ⟨hput, hresult⟩
        -- A step that fails had no success, or else it would not have failed.
        have hnone : successes put = [] := by
          by_contra hsome
          cases hresult.mpr hsome
        exact ⟨store, put, [], by simp, .refused hstore htold.symm hstatus hput hnone⟩
      · rintro put done ⟨hput, hresult⟩
        refine hlink.mono fun link result hlinked => ?_
        exact ⟨store, put, link, by simp,
          .taken hstore htold.symm hstatus hput (hresult.mp rfl) hlinked⟩
    · simp only [if_neg hstatus]
      refine hlink.mono fun link result hlinked => ?_
      exact ⟨store, [], link, by simp, .known hstore htold.symm hstatus hlinked⟩

/-- Content that is too large is not announced. -/
theorem run_upload_of_pack_error {hash : HashFunction} {content : ByteArray} {e : AddressingError}
    (c : Client σ) (hpack : Car.pack hash content = .error e) (x : σ) :
    (s.upload c hash content).run.run x = (.error (.upload e.message), x) := by
  rw [upload, hpack]
  rfl

/-! ## The protocol -/

/-- A request that puts an archive where the bridge said.  It has the headers that the bridge gave, in
some order, and one that is made of a login in the address, unless one of its name was given. -/
def Puts (added : StoreAdded) (car : Car.Archive) (r : Request) : Prop :=
  ∃ url u given, added.url = some url ∧ Url.parse url = .ok u ∧
    List.Perm given (added.headers.map asSent) ∧ r = shardPut u given car

theorem puts_of_putRequest {added : StoreAdded} {entries : List (String × String)}
    {car : Car.Archive} {r : Request} (hperm : entries.Perm added.headers)
    (h : putRequest added entries car = .ok r) : Puts added car r := by
  rw [putRequest] at h
  split at h
  · rename_i url headers hurl hheaders
    obtain ⟨-, rfl⟩ := shardHeaders_eq_ok_iff.mp hheaders
    obtain ⟨u, hparse, -, rfl⟩ := shardRequest_eq_ok_iff.mp h
    exact ⟨url, u, _, hurl, hparse, hperm.map asSent, rfl⟩
  · cases h

/-- **The protocol of an upload.**  Each of its steps is a list of requests. -/
structure Protocol (car : Car.Archive) (store put link : List (Sent κ))
    (result : Except ProviderError Cid) : Prop where
  /-- The archive is announced, again only after a passing trouble. -/
  store_tried : Tried sender o (s.taskRequest "store/add" (storeArguments car)) store
  /-- It is announced by its identifier and its length. -/
  store_body : ∀ x ∈ store, x.request.body = .json (.record [("tasks", .list [.list
    [.text "store/add", .text s.space, .record
      [("link", .record [("/", .text car.shard.toString)]), ("size", .integer car.bytes.size)]]])])
  /-- It is put somewhere just if the bridge says so, and where, in legal terms. -/
  put_iff : put ≠ [] ↔ ∃ added url, told storeAdded? store = some added ∧
    added.status = "upload" ∧ added.url = some url ∧
    Request.Ready (Request.ofAddress .put url) ∧ ∀ header ∈ added.headers, IsLegal header
  /-- It is put there with the headers the bridge gave, and by one request, again only after a passing
  trouble. -/
  put_request : ∀ x ∈ put, ∃ added, told storeAdded? store = some added ∧ Puts added car x.request
  put_tried : ∃ request, Tried sender o request put
  /-- The root is linked just if the bridge has the archive, or just got it. -/
  link_iff : link ≠ [] ↔ ∃ added, told storeAdded? store = some added ∧
    (added.status ≠ "upload" ∨ successes put ≠ [])
  /-- It is linked to the archive. -/
  link_body : ∀ x ∈ link, x.request.body = .json (.record [("tasks", .list [.list
    [.text "upload/add", .text s.space, .record
      [("root", .record [("/", .text car.root.toString)]),
        ("shards", .list [.record [("/", .text car.shard.toString)]])]]])])
  link_tried : link = [] ∨ Tried sender o (s.taskRequest "upload/add" (linkArguments car)) link
  /-- An identifier is answered just if it is reported for the root. -/
  answer : ∀ cid, result = .ok cid ↔
    ∃ text, told linkedRoot? link = some text ∧ Cid.parse text = .ok cid
  failure : ∀ e, result = .error e → (∃ reason, e = .upload reason) ∨ ∃ cause, e = .identifier cause

variable {o sender s} {car : Car.Archive} {store put link : List (Sent κ)}
  {result : Except ProviderError Cid}

theorem body_of_tried {ability : String} {arguments : Document} {sent : List (Sent κ)}
    (h : Tried sender o (s.taskRequest ability arguments) sent) :
    ∀ x ∈ sent, x.request.body = s.taskBody ability arguments :=
  fun x hx => body_of_taskRequest (h.request_eq x hx)

/-- Where nothing was sent, nothing is told. -/
theorem ne_nil_of_told {read : Document → Option α} {a : α} {sent : List (Sent κ)}
    (h : told read sent = some a) : sent ≠ [] := by
  rintro rfl
  cases h

/-- **A bridge that can be told of an archive can be told of its root.** -/
theorem Linked.ne_nil {added : StoreAdded} (h : Linked o sender s car link result)
    (hstore : Tried sender o (s.taskRequest "store/add" (storeArguments car)) store)
    (htold : told storeAdded? store = some added) : link ≠ [] := by
  -- Both tasks go to one address, and what was told came from there.
  have hready := hstore.ne_nil_iff.mp (ne_nil_of_told htold)
  rw [ready_taskRequest_iff] at hready
  exact h.tried.ne_nil_iff.mpr ((ready_taskRequest_iff s _ _).mpr hready)

namespace Followed

variable (h : Followed o sender s car store put link result)

include h

theorem tried_store : Tried sender o (s.taskRequest "store/add" (storeArguments car)) store := by
  cases h with
  | unannounced hstore => exact hstore
  | refused hstore => exact hstore
  | taken hstore => exact hstore
  | known hstore => exact hstore

/-- An archive is put somewhere as the bridge said. -/
theorem putting : put = [] ∨ ∃ added, told storeAdded? store = some added ∧
    Putting o sender car added put := by
  cases h with
  | unannounced => exact .inl rfl
  | refused _ htold _ hput => exact .inr ⟨_, htold, hput⟩
  | taken _ htold _ hput => exact .inr ⟨_, htold, hput⟩
  | known => exact .inl rfl

theorem tried_link : link = [] ∨
    Tried sender o (s.taskRequest "upload/add" (linkArguments car)) link := by
  cases h with
  | unannounced => exact .inl rfl
  | refused => exact .inl rfl
  | taken _ _ _ _ _ hlink => exact .inr hlink.tried
  | known _ _ _ hlink => exact .inr hlink.tried

/-- What the bridge says decides whether the archive is put somewhere. -/
theorem put_ne_nil_iff : put ≠ [] ↔ ∃ added, told storeAdded? store = some added ∧
    added.status = "upload" ∧ ∃ url, added.url = some url ∧
      Request.Ready (Request.ofAddress .put url) ∧ ∀ header ∈ added.headers, IsLegal header := by
  cases h with
  | unannounced _ htold => simp [htold]
  | refused _ htold hstatus hput => simp [htold, hstatus, hput.ne_nil_iff]
  | taken _ htold hstatus hput => simp [htold, hstatus, hput.ne_nil_iff]
  | known _ htold hstatus => simp [htold, hstatus]

/-- What the bridge says, and whether it got the archive, decides whether the root is linked. -/
theorem link_ne_nil_iff : link ≠ [] ↔ ∃ added, told storeAdded? store = some added ∧
    (added.status ≠ "upload" ∨ successes put ≠ []) := by
  cases h with
  | unannounced _ htold => simp [htold]
  | refused _ htold hstatus _ hnone => simp [htold, hstatus, hnone]
  | taken hstore htold _ _ hsome hlink => simp [htold, hsome, hlink.ne_nil hstore htold]
  | known hstore htold hstatus hlink => simp [htold, hstatus, hlink.ne_nil hstore htold]

/-- **An upload comes to the identifier that is reported for the root.** -/
theorem reported : Reported (told linkedRoot? link) result := by
  cases h with
  | unannounced => exact .failed rfl
  | refused => exact .failed rfl
  | taken _ _ _ _ _ hlink => exact hlink.reported
  | known _ _ _ hlink => exact hlink.reported

/-- **What follows the steps keeps to the protocol.** -/
theorem protocol : Protocol o sender s car store put link result where
  store_tried := h.tried_store
  store_body := body_of_tried h.tried_store
  put_iff := by
    rw [h.put_ne_nil_iff]
    simp only [exists_and_left]
  put_request x hx := by
    obtain rfl | ⟨added, htold, entries, hperm, hput⟩ := h.putting
    · cases hx
    · exact ⟨added, htold, puts_of_putRequest hperm (hput.request_eq x hx)⟩
  put_tried := by
    obtain rfl | ⟨added, -, entries, -, hput⟩ := h.putting
    · exact ⟨.error (.unbuildable none), .unsendable rfl⟩
    · exact ⟨_, hput⟩
  link_iff := h.link_ne_nil_iff
  link_body x hx := by
    obtain rfl | hlink := h.tried_link
    · cases hx
    · exact body_of_tried hlink x hx
  link_tried := h.tried_link
  answer _ := h.reported.eq_ok_iff
  failure _ he := h.reported.error he

end Followed

/-- What is sent of an upload, hop by hop: the methods, and the names of the headers. -/
def shown (replies : List (Except Loss Answer)) : List (Method × List String) :=
  (uploadOn .playing replies).2.2.map fun x => (x.request.method, x.request.headers.map Header.name)

/-- An archive is announced, put where the bridge says, and linked. -/
example :
    let linked := receipt (fieldText "root" ('\x7b' :: fieldText "/" (stringText (Cid.v0 .zero).toString)
      ['\x7d']) ['\x7d'])
    let replies := [.ok (addressed "http://h/a"), .ok ⟨200, [], none⟩, .ok linked]
    (uploadOn .playing replies).1.toOption = some (.v0 .zero) ∧
      (shown replies).map Prod.fst = [.post, .put, .post] := by
  decide +kernel

/-- What an offer of an address is read as. -/
theorem reported?_addressed {url : String} (h : ∀ c ∈ url.toList, JsonSyntax.Bare c) (u : Url) :
    reported? storeAdded? { toAnswer := addressed url, url := u } =
      some ⟨"upload", some url, []⟩ := by
  rw [reported?, document?_addressed h, Option.bind_some, listOf?_addressed]

end Storacha

end AddressedStorage.Vendor
