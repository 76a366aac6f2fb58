import AddressedStorage.Proofs.Fleet.Run
import AddressedStorage.Proofs.Vendor.Service
import AddressedStorage.Proofs.Vendor.Steady

/-!
# Proofs/Fleet/Requests — how many requests one read makes

Two layers try again: a client repeats a request, and a fleet repeats an attempt at a provider and
then goes on to the next one.  The layers **multiply**, and nothing else adds requests but redirects,
which the client follows on the wire (`Service.Multiplies`): a read is at most `size * retries` attempts
(`Ends.length_attempts_le`), what each of them sends is laid out one after the other
(`Attempts.inquired`), and so are the hops that this takes.
-/

namespace AddressedStorage

open Http Vendor

variable {σ κ : Type} {n : Nat}

/-! ## How many attempts -/

namespace Visit

variable {v : Visit n} {retries : Nat}

theorem length_attempts (v : Visit n) :
    v.attempts.length = v.errors.length + v.content.toList.length := by
  simp [attempts]

/-- **A visit is as long as the fleet allows**, at most. -/
theorem EndsWith.length_attempts_le {outcome : Except ProviderError ByteArray}
    (h : v.EndsWith retries outcome) : v.attempts.length ≤ retries := by
  cases outcome with
  | ok content =>
    obtain ⟨hcontent, hlength, -⟩ := h
    rw [length_attempts, hcontent]
    exact hlength
  | error last =>
    obtain ⟨hcontent, -, hlength, -⟩ := h
    rw [length_attempts, hcontent]
    exact hlength

/-- A visit is as long as that if its last error left hope. -/
theorem GivenUp.length_attempts {last : ProviderError} (h : v.GivenUp retries last)
    (hlast : last.isRetryable) : v.attempts.length = retries := by
  obtain ⟨hcontent, -, -, hlength⟩ := h
  rw [Visit.length_attempts, hcontent]
  exact hlength hlast

/-- A provider that was given up gave errors only. -/
theorem GivenUp.error_of_mem {last : ProviderError} (h : v.GivenUp retries last) :
    ∀ a ∈ v.attempts, ∃ e, a.2 = .error e := by
  intro a ha
  rw [attempts, h.1, Option.toList_none, List.map_nil, List.append_nil] at ha
  obtain ⟨answer, hanswer, rfl⟩ := List.mem_map.mp ha
  obtain ⟨e, -, rfl⟩ := List.mem_map.mp hanswer
  exact ⟨e, rfl⟩

/-- A provider that answered gave its answer last, after errors. -/
theorem Answered.attempts_eq {content : ByteArray} (h : v.Answered retries content) :
    v.attempts = v.errors.map (fun e => (v.place, .error e)) ++ [(v.place, .ok content)] := by
  rw [attempts, h.1, List.map_append, List.map_map]
  rfl

end Visit

namespace Fleet

variable {fleet : Fleet σ} {hash : HashFunction} {cid : Cid} {start : Fin fleet.size}
  {frame : Option Frame} {visits : List (Visit fleet.size)} {result : Except FleetError ByteArray}
  {c : Cursor fleet.size} {s t : σ}

/-- **A walk is as many attempts as its visits may be long**, at most. -/
theorem Ends.length_attempts_le (h : fleet.Ends start frame visits result c) :
    (visits.flatMap Visit.attempts).length ≤ visits.length * fleet.retries := by
  have hvisits : ∀ k ∈ visits.map fun v => v.attempts.length, k ≤ fleet.retries := by
    intro k hk
    obtain ⟨v, hv, rfl⟩ := List.mem_map.mp hk
    obtain ⟨outcome, houtcome⟩ := h.endsWith v hv
    exact houtcome.length_attempts_le
  have hsum := List.sum_le_card_nsmul _ _ hvisits
  rwa [← List.length_flatMap, List.length_map, smul_eq_mul] at hsum

/-- **Nothing is asked after an answer**, which is what is returned. -/
theorem Ends.answered_last (h : fleet.Ends start frame visits result c)
    {earlier later : List (Attempt fleet.size)} {i : Fin fleet.size} {content : ByteArray}
    (hlog : visits.flatMap Visit.attempts = earlier ++ (i, .ok content) :: later) :
    later = [] ∧ result = .ok content := by
  have hgivenUp : ∀ {given : List (Visit fleet.size)},
      (∀ u ∈ given, ∃ e, u.GivenUp fleet.retries e) →
        (i, .ok content) ∉ given.flatMap Visit.attempts := by
    intro given hgiven hmem
    obtain ⟨u, hu, hanswer⟩ := List.mem_flatMap.mp hmem
    obtain ⟨e, he⟩ := hgiven u hu
    obtain ⟨e', he'⟩ := he.error_of_mem _ hanswer
    cases he'
  cases h with
  | exhausted _ hearlier hlast =>
    have hall := List.forall_mem_append.mpr ⟨hearlier, List.forall_mem_singleton.mpr ⟨_, hlast⟩⟩
    exact absurd (hlog ▸ List.mem_append_cons_self) (hgivenUp hall)
  | @answered given v found hearlier hlast =>
    rw [List.flatMap_append, List.flatMap_singleton, hlast.attempts_eq, ← List.append_assoc] at hlog
    rcases List.eq_nil_or_concat' later with rfl | ⟨middle, last, rfl⟩
    · obtain ⟨-, hanswer⟩ := List.append_inj' hlog rfl
      have hanswer := congrArg Prod.snd (List.cons.inj hanswer).1
      exact ⟨rfl, congrArg Except.ok (Except.ok.inj hanswer)⟩
    · -- The answer would stand among the errors.
      rw [← List.cons_append, ← List.append_assoc] at hlog
      have hfront := (List.append_inj' hlog rfl).1
      have hmem : (i, .ok content) ∈
          given.flatMap Visit.attempts ++ v.errors.map fun e => (v.place, .error e) :=
        hfront ▸ List.mem_append_cons_self
      rcases List.mem_append.mp hmem with hgiven | herror
      · exact absurd hgiven (hgivenUp hearlier)
      · obtain ⟨e, -, he⟩ := List.mem_map.mp herror
        cases congrArg Prod.snd he

/-- **A walk asks as often as it may** if every attempt fails and leaves hope. -/
theorem Walked.exhausted (h : fleet.Walked hash cid start frame 0 visits result c s t)
    (hall : ∀ a ∈ visits.flatMap Visit.attempts, ∃ e, a.2 = .error e ∧ e.isRetryable) :
    (visits.flatMap Visit.attempts).length = fleet.size * fleet.retries ∧
      ∃ last, result = .error (.noProvidersAvailable .fetch fleet.size last) := by
  have hnone : ∀ v ∈ visits, ∀ content, ¬ v.Answered fleet.retries content := by
    intro v hv content hanswered
    obtain ⟨e, he, -⟩ := hall _ (List.mem_flatMap_of_mem hv hanswered.mem_attempts)
    cases he
  have hlengths : ∀ k ∈ visits.map fun v => v.attempts.length, k = fleet.retries := by
    intro k hk
    obtain ⟨v, hv, rfl⟩ := List.mem_map.mp hk
    obtain ⟨outcome, houtcome⟩ := h.ends.endsWith v hv
    cases outcome with
    | ok content => exact absurd houtcome (hnone v hv content)
    | error last =>
      obtain ⟨e, he, hretry⟩ := hall _ (List.mem_flatMap_of_mem hv houtcome.mem_attempts)
      obtain rfl := Except.error.inj he
      exact houtcome.length_attempts hretry
  have hresult : ∃ last, result = .error (.noProvidersAvailable .fetch fleet.size last) := by
    cases h.ends with
    | answered _ _ hlast => exact absurd hlast (hnone _ List.mem_concat_self _)
    | exhausted => exact ⟨_, rfl⟩
  obtain ⟨last, hlast⟩ := hresult
  have hsum := List.sum_eq_card_nsmul _ _ hlengths
  rw [← List.length_flatMap, List.length_map, smul_eq_mul, h.length_eq hlast] at hsum
  exact ⟨hsum, last, hlast⟩

end Fleet

/-! ## What attempts send -/

/-- Attempts one after the other, and what they sent. -/
inductive Inquired (P : Fin n → List (Sent κ) → Except ProviderError ByteArray → Prop) :
    List (Attempt n) → List (Sent κ) → Prop where
  | none : Inquired P [] []
  | ask {i : Fin n} {answer : Except ProviderError ByteArray} {log : List (Attempt n)}
      {sent later : List (Sent κ)} (hask : P i sent answer) (hlog : Inquired P log later) :
      Inquired P ((i, answer) :: log) (sent ++ later)

/-- **What attempts send is laid out one after the other.** -/
theorem Fleet.Attempts.inquired {fleet : Fleet (σ × List (Sent κ))} {hash : HashFunction}
    {cid : Cid} {P : Fin fleet.size → List (Sent κ) → Except ProviderError ByteArray → Prop}
    (hP : ∀ i, Sends (P i) ((fleet.provider i).fetch hash cid).run)
    {log : List (Attempt fleet.size)} {s t : σ × List (Sent κ)}
    (h : fleet.Attempts hash cid log s t) : ∃ sent, t.2 = s.2 ++ sent ∧ Inquired P log sent := by
  induction h with
  | none s => exact ⟨[], (List.append_nil s.2).symm, .none⟩
  | @ask i answer log s t u hask hlog ih =>
    obtain ⟨sent, hsent, hanswer⟩ := hP i s
    obtain ⟨later, hlater, hinquired⟩ := ih
    rw [hask] at hsent hanswer
    exact ⟨sent ++ later, by rw [hlater, hsent, List.append_assoc], .ask hanswer hinquired⟩

namespace Inquired

variable {retries : Nat} {ready : Fin n → Prop} {accepts : Fin n → ByteArray → Prop}
  {log : List (Attempt n)} {sent : List (Sent Nat)}

theorem length_le (h : Inquired (fun i => Reading i.val retries (ready i) (accepts i)) log sent) :
    sent.length ≤ log.length * (retries + 1) := by
  induction h with
  | none => exact Nat.zero_le _
  | ask hask _ ih =>
    rw [List.length_append, List.length_cons, Nat.succ_mul, Nat.add_comm]
    exact Nat.add_le_add ih hask.length_le

theorem sender_lt (h : Inquired (fun i => Reading i.val retries (ready i) (accepts i)) log sent) :
    ∀ x ∈ sent, x.sender < n := by
  induction h with
  | none => exact List.forall_mem_nil _
  | @ask i _ _ _ _ hask _ ih =>
    exact List.forall_mem_append.mpr ⟨fun x hx => hask.sender_eq x hx ▸ i.isLt, ih⟩

/-- **Every attempt sends as much as it may** if every answer is a passing trouble, and leaves
hope. -/
theorem exhausted
    (h : Inquired (fun i => Reading i.val retries (ready i) (accepts i)) log sent)
    (hready : ∀ i, ready i) (hall : ∀ x ∈ sent, isPassing x.answer) :
    sent.length = log.length * (retries + 1) ∧
      ∀ a ∈ log, ∃ e, a.2 = .error e ∧ e.isRetryable := by
  induction h with
  | none => exact ⟨(Nat.zero_mul _).symm, List.forall_mem_nil _⟩
  | @ask i _ _ _ _ hask _ ih =>
    obtain ⟨hsent, hlater⟩ := List.forall_mem_append.mp hall
    obtain ⟨hlength, herror⟩ := hask.exhausted (hready i) hsent
    obtain ⟨hrest, herrors⟩ := ih hlater
    refine ⟨?_, List.forall_mem_cons.mpr ⟨herror, herrors⟩⟩
    rw [List.length_append, List.length_cons, Nat.succ_mul, Nat.add_comm, hlength, hrest]

/-- **The attempt that was sent an accepted body** is answered with it, and sends nothing more. -/
theorem accepted
    (h : Inquired (fun i => Reading i.val retries (ready i) (accepts i)) log sent)
    {before after : List (Sent Nat)} {x : Sent Nat} {i : Fin n} {content : ByteArray}
    (hsent : sent = before ++ x :: after) (hsender : x.sender = i.val)
    (hcontent : content? x.answer = some content) (haccepts : accepts i content) :
    ∃ earlier later, log = earlier ++ (i, .ok content) :: later ∧
      Inquired (fun i => Reading i.val retries (ready i) (accepts i)) later after := by
  induction h generalizing before with
  | none => exact absurd hsent.symm (List.append_ne_nil_of_right_ne_nil _ (List.cons_ne_nil _ _))
  | @ask j answer log sent rest hask hlog ih =>
    rcases List.append_eq_append_iff.mp hsent with ⟨front, -, hrest⟩ | ⟨back, hback, hrest⟩
    · obtain ⟨earlier, later, rfl, hlater⟩ := ih hrest
      exact ⟨(j, answer) :: earlier, later, rfl, hlater⟩
    · cases back with
      | nil =>
        obtain ⟨earlier, later, rfl, hlater⟩ := ih (hrest.symm.trans (List.nil_append _).symm)
        exact ⟨(j, answer) :: earlier, later, rfl, hlater⟩
      | cons y back =>
        obtain ⟨rfl, rfl⟩ := List.cons.inj hrest
        have hplace : i = j := Fin.ext (hsender.symm.trans
          (hask.sender_eq x (hback ▸ List.mem_append_cons_self)))
        subst hplace
        obtain ⟨rfl, rfl⟩ := hask.accepted before x back content hback hcontent haccepts
        exact ⟨[], log, rfl, hlog⟩

end Inquired

/-! ## Fleets of services -/

namespace Vendor.Service

variable {τ : Type}

/-- The fleet that reads from services, each on its own network and tried `attempts` times. -/
def fleet (hash : HashFunction) (network : Nat → Network τ) (services : Array Service)
    (attempts : Nat) (hsize : 0 < services.size) (hattempts : 0 < attempts) : Fleet τ where
  providers := services.mapIdx fun i s => s.provider hash (network i)
  retries := attempts
  size_pos := by rwa [Array.size_mapIdx]
  retries_pos := hattempts

/-- What one read of services sends, and what comes of it, if each of them is tried `attempts` times
and repeats a request `retries` times.  What is sent takes as many hops on the wire, and more only where
redirects are followed.  It is as much as that allows if the read is `ready` and every hop meets a
passing trouble, and nothing after a body that is accepted. -/
structure Multiplies (hash : HashFunction) (services : Array Service) (attempts retries : Nat)
    (cid : Cid) (rule : Redirects) (ready : Prop) (sent hops : List (Sent Nat))
    (result : Except FleetError ByteArray) : Prop where
  sender_lt : ∀ x ∈ sent, x.sender < services.size
  length_le : sent.length ≤ services.size * attempts * (retries + 1)
  laid : Laid rule sent hops
  hops_le : hops.length ≤ services.size * attempts * (retries + 1) * (rule.limit + 1)
  exhausted : ready → (∀ x ∈ hops, isPassing x.answer) →
    hops.length = services.size * attempts * (retries + 1) ∧
      ∃ last, result = .error (.noProvidersAvailable .fetch services.size last)
  accepted : ∀ (before : List (Sent Nat)) (x : Sent Nat) (after : List (Sent Nat)) (s : Service)
    (content : ByteArray), hops = before ++ x :: after → services[x.sender]? = some s →
      content? x.answer = some content → s.Accepts hash cid content →
        after = [] ∧ result = .ok content

variable {hash : HashFunction} {network : Nat → Network τ} {services : Array Service}
  {attempts retries : Nat} {hsize : 0 < services.size} {hattempts : 0 < attempts}

theorem size_fleet : (fleet hash network services attempts hsize hattempts).size = services.size :=
  Array.size_mapIdx

theorem exists_provider (i : Fin (fleet hash network services attempts hsize hattempts).size) :
    ∃ s, services[i.val]? = some s ∧
      (fleet hash network services attempts hsize hattempts).provider i =
        s.provider hash (network i.val) := by
  have hi : i.val < services.size := i.isLt.trans_eq size_fleet
  refine ⟨services[i.val], Array.getElem?_eq_getElem hi, ?_⟩
  exact Array.getElem_mapIdx ..

/-- What every step on the networks preserves is preserved by every service. -/
theorem preserves_provider {P : τ → Prop} (hP : ∀ i, (network i).Preserves P)
    (i : Fin (fleet hash network services attempts hsize hattempts).size) :
    ((fleet hash network services attempts hsize hattempts).provider i).backend.Preserves P := by
  obtain ⟨s, -, hprovider⟩ := exists_provider i
  rw [hprovider]
  exact s.adapter.preserves (c := ⟨network i.val, s.options⟩) (hP i.val) hash

/-- The service at each place, and what reading from it sends. -/
theorem exists_sends_fetch (hash : HashFunction) (wire : Network σ) (rule : Redirects)
    (hsize : 0 < services.size) (hattempts : 0 < attempts)
    (hretries : ∀ s ∈ services, s.options.retries.toNat = retries) (cid : Cid) :
    let fleet := fleet hash (wire.tracing rule) services attempts hsize hattempts
    ∃ service : Fin fleet.size → Service, (∀ i, services[i.val]? = some (service i)) ∧
      ∀ i, Sends (Reading i.val retries
          ((service i).adapter.WellFormed ∧ (service i).CanJudge cid ∧ Timely wire)
          ((service i).Accepts hash cid)) ((fleet.provider i).fetch hash cid).run := by
  intro fleet
  have hproviders : ∀ i : Fin fleet.size, ∃ s, services[i.val]? = some s ∧
      fleet.provider i = s.provider hash (wire.tracing rule i.val) := exists_provider
  choose service hservice hprovider using hproviders
  refine ⟨service, hservice, fun i => ?_⟩
  rw [hprovider i, ← hretries _ (Array.mem_of_getElem? (hservice i))]
  refine (sends_fetch hash ((wire.noting i.val).following rule) (service i) i.val cid).mono
    fun sent result h => h.mono ?_
  rintro ⟨hwell, hjudge, htimely⟩
  exact ⟨hwell, hjudge, fun s => htimely s.1⟩

/-- **The two layers multiply, and nothing but redirects adds requests.**  After any calls, a read of
services sends `size * attempts * (retries + 1)` requests at most, in every order of answers, each of
them in one hop and one more for every redirect that is followed, and nothing after a body that is
accepted.  It sends exactly so many, and fails for want of providers, if every answer is a passing
trouble, as long as the services are well-formed, what they serve can be judged, and the clock stands
behind the epoch. -/
theorem fetch_multiplies (hash : HashFunction) (wire : Network σ) (rule : Redirects)
    (hsize : 0 < services.size) (hattempts : 0 < attempts)
    (hretries : ∀ s ∈ services, s.options.retries.toNat = retries) (requests : List Fleet.Request)
    (start : (σ × List (Sent Nat)) × List (Sent Nat)) (cid : Cid) (frame : Frame) :
    let fleet := fleet hash (wire.tracing rule) services attempts hsize hattempts
    let x := fleet.after hash requests (fleet.cursor, start)
    let read := (fleet.fetch hash cid frame).run.run x
    ∃ sent hops, read.2.2.2 = x.2.2 ++ sent ∧ read.2.2.1.2 = x.2.1.2 ++ hops ∧
      Multiplies hash services attempts retries cid rule
        ((∀ s ∈ services, s.adapter.WellFormed ∧ s.CanJudge cid) ∧ Timely wire) sent hops read.1 := by
  intro fleet x read
  have hsize' : fleet.size = services.size := size_fleet
  obtain ⟨service, hservice, hsends⟩ :=
    exists_sends_fetch hash wire rule hsize hattempts hretries cid
  have hmem : ∀ i, service i ∈ services := fun i => Array.mem_of_getElem? (hservice i)
  have hsettled : x.1.Settled := Fleet.settled_after requests start
  -- Requests and hops are noted side by side by every call.
  have htraced := (Fleet.steady_fetch hash
    (preserves_provider (wire.preserves_traced rule · x.2)) cid frame x ⟨hsettled, .refl rule x.2⟩).2
  obtain ⟨visits, result, y, hrun, h⟩ := Fleet.fetch_walked hash fleet cid frame hsettled
  obtain ⟨noted, hnoted, hinquired⟩ := h.made.inquired hsends
  have hread : read = (result, y) := hrun
  obtain ⟨sent, hops, hsent, hhops, hlaid⟩ := htraced
  change read.2.2.2 = x.2.2 ++ sent at hsent
  change read.2.2.1.2 = x.2.1.2 ++ hops at hhops
  rw [hread] at hsent hhops ⊢
  obtain rfl : noted = sent := List.append_cancel_left (hnoted.symm.trans hsent)
  have hlength : noted.length ≤ services.size * attempts * (retries + 1) := by
    have hvisits : visits.length ≤ services.size := by
      have hle := h.size_le
      omega
    have hlog := h.ends.length_attempts_le.trans (Nat.mul_le_mul_right attempts hvisits)
    exact hinquired.length_le.trans (Nat.mul_le_mul_right _ hlog)
  refine ⟨noted, hops, hsent, hhops, hsize' ▸ hinquired.sender_lt, hlength, hlaid,
    hlaid.length_le.trans (Nat.mul_le_mul_right _ hlength), ?_, ?_⟩
  · rintro ⟨hready, htimely⟩ hall
    obtain rfl := hlaid.eq_of_passing hall
    obtain ⟨hexact, herrors⟩ := hinquired.exhausted
      (fun i => ⟨(hready _ (hmem i)).1, (hready _ (hmem i)).2, htimely⟩) hall
    obtain ⟨hlog, last, hlast⟩ := h.exhausted herrors
    rw [hlog, hsize'] at hexact
    exact ⟨hexact, last, hsize' ▸ hlast⟩
  · intro before z after s content hparts hs hcontent haccepts
    obtain ⟨earlier, w, later, hsplit, hsender, hanswer, hafter⟩ := hlaid.accepted hparts hcontent
    rw [← hsender] at hs
    rw [← hanswer] at hcontent
    have hi : w.sender < fleet.size := hsize' ▸ (Array.getElem?_eq_some_iff.mp hs).1
    obtain rfl : service ⟨w.sender, hi⟩ = s :=
      Option.some.inj ((hservice ⟨w.sender, hi⟩).symm.trans hs)
    obtain ⟨front, back, hlog, hback⟩ := hinquired.accepted hsplit rfl hcontent haccepts
    obtain ⟨rfl, hresult⟩ := h.ends.answered_last hlog
    cases hback
    cases hafter
    exact ⟨rfl, hresult⟩

/-! ### Busy networks and others -/

/-- A gateway, one whose calls are signed, and a cluster that asks for a token. -/
def assorted : Array Service :=
  #[⟨.publicGateway ⟨PublicGateway.defaultUrl⟩, ⟨30, 1, 500⟩, .enabled⟩,
    ⟨.gw3 ⟨Gw3.defaultUrl, "key", []⟩, ⟨30, 1, 500⟩, .disabled⟩,
    ⟨.pinningNode ⟨"https://localhost", "token"⟩, ⟨30, 1, 500⟩, .enabled⟩]

/-- A network on which every server is busy, at one time. -/
def busy (now : Int) : Network Unit where
  send r := return .ok { status := 503, headers := [], body := none, url := r.url }
  wait _ := return
  now := return now

/-- On a busy network each of the three is sent two times two requests, whatever signatures look
like. -/
theorem fetch_multiplies_busy :
    let fleet := fleet (fun _ => .zero) ((busy 0).tracing .seeOther) assorted 2 (by decide) (by decide)
    let x := fleet.after (fun _ => .zero) [] (fleet.cursor, (((), []), []))
    let read := (fleet.fetch (fun _ => .zero) (.v0 .zero) ⟨0⟩).run.run x
    (∀ s ∈ assorted, s.options.retries.toNat = 1) ∧
      (∀ s ∈ assorted, s.adapter.WellFormed ∧ s.CanJudge (.v0 .zero)) ∧ Timely (busy 0) ∧
      (∀ x ∈ read.2.2.1.2, isPassing x.answer) ∧ read.2.2.1.2.length = 3 * 2 * (1 + 1) ∧
      ∃ last, read.1 = .error (.noProvidersAvailable .fetch 3 last) := by
  have hretries : ∀ s ∈ assorted, s.options.retries.toNat = 1 := by decide
  have hready : ∀ s ∈ assorted, s.adapter.WellFormed ∧ s.CanJudge (.v0 .zero) := by
    decide +kernel
  have htimely : Timely (busy 0) := fun _ => ⟨0, by decide, rfl⟩
  intro fleet x read
  have hpassing : ∀ x ∈ read.2.2.1.2, isPassing x.answer := by decide +kernel
  obtain ⟨sent, hops, -, hhops, hmultiplies⟩ :=
    fetch_multiplies (fun _ => .zero) (busy 0) .seeOther (show 0 < assorted.size by decide)
      (show 0 < 2 by decide) hretries [] (((), []), []) (.v0 .zero) ⟨0⟩
  have hnotes : read.2.2.1.2 = hops := hhops
  obtain ⟨hlength, hlast⟩ := hmultiplies.exhausted ⟨hready, htimely⟩ (hnotes ▸ hpassing)
  exact ⟨hretries, hready, htimely, hpassing, hnotes ▸ hlength, hlast⟩

/-- A network on which every request is redirected to one address, and there again. -/
def circling : Network Unit where
  send r := return .ok { status := 303, headers := [⟨"location", "http://h/".toByteArray⟩],
                         body := none, url := r.url }
  wait _ := return
  now := return 0

/-- The fleet of one service, which is tried once. -/
def alone (wire : Network Unit) (a : Adapter) : Fleet ((Unit × List (Sent Nat)) × List (Sent Nat)) :=
  fleet Sha256.digest (wire.tracing .seeOther) #[⟨a, ⟨30, 0, 500⟩, .disabled⟩] 1 Nat.zero_lt_one
    Nat.zero_lt_one

/-- The hops of its first read. -/
def hops (wire : Network Unit) (a : Adapter) : List (Sent Nat) :=
  (((alone wire a).fetch Sha256.digest (.v0 .zero) ⟨0⟩).run.run
    ((alone wire a).cursor, (((), []), []))).2.2.1.2

/-- A gateway that cannot be asked is sent nothing. -/
theorem hops_of_not_ready {wire : Network Unit} {g : PublicGateway}
    (hg : ∀ cid, ¬ Request.Ready (Request.ofAddress .get (contentUrl g.url cid))) :
    hops wire (.publicGateway g) = [] := by
  have hP : ∀ i, ((alone wire (.publicGateway g)).provider i).backend.Preserves
      (fun y => y.1.2 = []) := by
    intro i
    obtain ⟨s, hs, hprovider⟩ := exists_provider i
    obtain rfl : s = ⟨.publicGateway g, ⟨30, 0, 500⟩, .disabled⟩ :=
      Array.mem_singleton.mp (Array.mem_of_getElem? hs)
    have halone : (alone wire (.publicGateway g)).provider i = _ := hprovider
    rw [halone]
    exact PublicGateway.preserves_of_not_ready hg
  exact (Fleet.steady_fetch Sha256.digest hP (.v0 .zero) ⟨0⟩ _ (Fleet.steady_cursor rfl)).2

/-- **A read of one well-formed service that is tried once is not always one request**, even if every
answer is a passing trouble.  It is eleven where a server redirects each of them, and none at all before
the epoch, where nothing can be signed, and at an address that is too long to be sent. -/
theorem not_one_request :
    ((Adapter.publicGateway ⟨"http://h"⟩).WellFormed ∧
      (hops circling (.publicGateway ⟨"http://h"⟩)).length = 11) ∧
    ((Adapter.gw3 ⟨Gw3.defaultUrl, "key", []⟩).WellFormed ∧
      hops (busy (-1)) (.gw3 ⟨Gw3.defaultUrl, "key", []⟩) = []) ∧
    (∃ u, Url.parse (queried Request.urlLimit) = .ok u ∧ u.scheme = "http".toList ∧
        u.host = some ['h']) ∧
      hops (busy 0) (.publicGateway ⟨queried Request.urlLimit⟩) = [] := by
  refine ⟨⟨by decide +kernel, by decide +kernel⟩, ⟨by decide +kernel, ?_⟩,
    exists_parse_queried _, hops_of_not_ready (not_ready_queried (Nat.le_refl _))⟩
  exact List.length_eq_zero_iff.mp (by decide +kernel)

end Vendor.Service

end AddressedStorage
