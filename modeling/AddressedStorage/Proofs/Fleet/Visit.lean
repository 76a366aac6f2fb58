import AddressedStorage.Fleet.Basic

/-!
# Proofs/Fleet/Visit — how long reading stays with one provider

Reading asks one provider until it answers, until an error shows that asking again does not help, or
until it was asked as often as the fleet allows.  What was asked and answered is a **visit**
(`fetchRetrying_visit`); each question is put to the backends as the one before left them
(`Attempts`).
-/

namespace AddressedStorage

variable {σ : Type} {n : Nat}

/-! ## What is asked, and what is answered -/

/-- A question to the provider at a place and its answer. -/
abbrev Attempt (n : Nat) := Fin n × Except ProviderError ByteArray

/-- The errors a provider gave, in order, and the bytes after them, if any. -/
structure Visit (n : Nat) where
  place : Fin n
  errors : List ProviderError
  content : Option ByteArray

namespace Visit

/-- Each question of a visit and its answer. -/
def attempts (v : Visit n) : List (Attempt n) :=
  (v.errors.map Except.error ++ v.content.toList.map Except.ok).map (Prod.mk v.place)

/-- The visit with one more error before the others. -/
def after (e : ProviderError) (v : Visit n) : Visit n := { v with errors := e :: v.errors }

/-- The provider answered, before it was asked `retries` times in vain and after errors that left
hope only. -/
def Answered (retries : Nat) (v : Visit n) (content : ByteArray) : Prop :=
  v.content = some content ∧ v.errors.length < retries ∧ ∀ e ∈ v.errors, e.isRetryable

/-- The provider was given up: with the `retries`-th error if all of them left hope, and otherwise
with the first that did not. -/
def GivenUp (retries : Nat) (v : Visit n) (last : ProviderError) : Prop :=
  v.content = none ∧ (∃ earlier, v.errors = earlier ++ [last] ∧ ∀ e ∈ earlier, e.isRetryable) ∧
    v.errors.length ≤ retries ∧ (last.isRetryable → v.errors.length = retries)

/-- What a visit came to. -/
def EndsWith (retries : Nat) (v : Visit n) : Except ProviderError ByteArray → Prop
  | .ok content => v.Answered retries content
  | .error last => v.GivenUp retries last

/-- A visit that ends with its first question, which is answered. -/
theorem endsWith_of_ok {retries : Nat} (i : Fin n) (content : ByteArray) (h : 0 < retries) :
    (Visit.mk i [] (some content)).EndsWith retries (.ok content) :=
  ⟨rfl, h, List.forall_mem_nil _⟩

/-- A visit that ends with its first question, which fails. -/
theorem endsWith_of_error {retries : Nat} (i : Fin n) {e : ProviderError} (h : 0 < retries)
    (hlast : e.isRetryable → retries = 1) :
    (Visit.mk i [e] none).EndsWith retries (.error e) :=
  ⟨rfl, ⟨[], rfl, List.forall_mem_nil _⟩, h, fun he => (hlast he).symm⟩

/-- An error that leaves hope makes a visit longer by one question. -/
theorem EndsWith.after {retries : Nat} {v : Visit n} {outcome : Except ProviderError ByteArray}
    (h : v.EndsWith retries outcome) {e : ProviderError} (he : e.isRetryable) :
    (v.after e).EndsWith (retries + 1) outcome := by
  cases outcome with
  | ok content =>
    obtain ⟨hcontent, hlength, herrors⟩ := h
    exact ⟨hcontent, Nat.succ_lt_succ hlength, List.forall_mem_cons.mpr ⟨he, herrors⟩⟩
  | error last =>
    obtain ⟨hcontent, ⟨earlier, herrors, hearlier⟩, hle, heq⟩ := h
    exact ⟨hcontent, ⟨e :: earlier, congrArg (List.cons e) herrors,
      List.forall_mem_cons.mpr ⟨he, hearlier⟩⟩, Nat.succ_le_succ hle,
      fun hlast => congrArg Nat.succ (heq hlast)⟩

/-- A provider that answered was not given up. -/
theorem Answered.not_givenUp {retries : Nat} {v : Visit n} {content : ByteArray}
    (h : v.Answered retries content) (last : ProviderError) : ¬ v.GivenUp retries last :=
  fun hlast => Option.some_ne_none content (h.1.symm.trans hlast.1)

/-- The answer is among the attempts. -/
theorem Answered.mem_attempts {retries : Nat} {v : Visit n} {content : ByteArray}
    (h : v.Answered retries content) : (v.place, .ok content) ∈ v.attempts := by
  rw [attempts, h.1]
  exact List.mem_map_of_mem (List.mem_append_right _ List.mem_cons_self)

/-- So is the error a provider was given up with. -/
theorem GivenUp.mem_attempts {retries : Nat} {v : Visit n} {last : ProviderError}
    (h : v.GivenUp retries last) : (v.place, .error last) ∈ v.attempts := by
  obtain ⟨-, ⟨earlier, herrors, -⟩, -⟩ := h
  have hlast : last ∈ v.errors := herrors ▸ List.mem_concat_self
  exact List.mem_map_of_mem (List.mem_append_left _ (List.mem_map_of_mem hlast))

end Visit

namespace Fleet

variable (hash : HashFunction) (fleet : Fleet σ)

/-- Questions put to the providers one after the other, from one state of the backends to
another. -/
inductive Attempts (cid : Cid) : List (Attempt fleet.size) → σ → σ → Prop where
  | none (s : σ) : Attempts cid [] s s
  | ask {i : Fin fleet.size} {answer : Except ProviderError ByteArray}
      {log : List (Attempt fleet.size)} {s t u : σ}
      (hask : ((fleet.provider i).fetch hash cid).run.run s = (answer, t))
      (hlog : Attempts cid log t u) : Attempts cid ((i, answer) :: log) s u

variable {hash fleet}

theorem Attempts.append {cid : Cid} {log log' : List (Attempt fleet.size)} {s t u : σ}
    (h : fleet.Attempts hash cid log s t) (h' : fleet.Attempts hash cid log' t u) :
    fleet.Attempts hash cid (log ++ log') s u := by
  induction h with
  | none => exact h'
  | ask hask _ ih => exact .ask hask (ih h')

/-! ## One provider -/

variable (hash fleet)

/-- The failure that stands for a provider that was given up. -/
def gaveUp (i : Fin fleet.size) (last : ProviderError) : FleetError :=
  if last.isRetryable then
    .retriesExhausted i (fleet.provider i).name fleet.retries last
  else .providerFailed i (fleet.provider i).name last

/-- One question, and what follows from the answer. -/
theorem run_fetchRetrying (i : Fin fleet.size) (cid : Cid) (left : Nat) (s : σ) :
    (fleet.fetchRetrying hash i cid left).run s =
      match ((fleet.provider i).fetch hash cid).run.run s with
      | (.ok content, t) => (.ok content, t)
      | (.error e, t) =>
        if e.isRetryable then
          match left with
          | 0 => (.error (fleet.gaveUp i e), t)
          | left + 1 => (fleet.fetchRetrying hash i cid left).run t
        else (.error (fleet.gaveUp i e), t) := by
  rw [fetchRetrying, StateT.run_bind]
  rcases ((fleet.provider i).fetch hash cid).run.run s with ⟨e | content, t⟩
  · change StateT.run (if e.isRetryable then _ else _) t = _
    cases hretry : e.isRetryable <;> cases left <;> simp [gaveUp, hretry] <;> rfl
  · rfl

/-- **Reading from one provider is a visit**, `left + 1` questions long at most. -/
theorem fetchRetrying_visit (i : Fin fleet.size) (cid : Cid) (left : Nat) (s : σ) :
    ∃ (v : Visit fleet.size) (outcome : Except ProviderError ByteArray) (t : σ),
      (fleet.fetchRetrying hash i cid left).run s = (outcome.mapError (fleet.gaveUp i), t) ∧
      v.place = i ∧ v.EndsWith (left + 1) outcome ∧ fleet.Attempts hash cid v.attempts s t := by
  induction left generalizing s with
  | zero =>
    rw [run_fetchRetrying]
    rcases hask : ((fleet.provider i).fetch hash cid).run.run s with ⟨e | content, t⟩
    · exact ⟨⟨i, [e], none⟩, .error e, t, ite_self _, rfl,
        Visit.endsWith_of_error i Nat.zero_lt_one fun _ => rfl, .ask hask (.none t)⟩
    · exact ⟨⟨i, [], some content⟩, .ok content, t, rfl, rfl,
        Visit.endsWith_of_ok i content Nat.zero_lt_one, .ask hask (.none t)⟩
  | succ left ih =>
    rw [run_fetchRetrying]
    rcases hask : ((fleet.provider i).fetch hash cid).run.run s with ⟨e | content, t⟩
    · by_cases hretry : e.isRetryable
      · obtain ⟨v, outcome, u, hrun, rfl, hend, hlog⟩ := ih t
        exact ⟨v.after e, outcome, u, (if_pos hretry).trans hrun, rfl, hend.after hretry,
          .ask hask hlog⟩
      · exact ⟨⟨i, [e], none⟩, .error e, t, if_neg hretry, rfl,
          Visit.endsWith_of_error i (Nat.succ_pos _) fun h => absurd h hretry, .ask hask (.none t)⟩
    · exact ⟨⟨i, [], some content⟩, .ok content, t, rfl, rfl,
        Visit.endsWith_of_ok i content (Nat.succ_pos _), .ask hask (.none t)⟩

/-- **Reading as often as the fleet allows is a visit.** -/
theorem fetchAt_visit (i : Fin fleet.size) (cid : Cid) (s : σ) :
    ∃ (v : Visit fleet.size) (outcome : Except ProviderError ByteArray) (t : σ),
      (fleet.fetchAt hash i cid).run s = (outcome.mapError (fleet.gaveUp i), t) ∧
      v.place = i ∧ v.EndsWith fleet.retries outcome ∧ fleet.Attempts hash cid v.attempts s t := by
  have hretries : fleet.retries - 1 + 1 = fleet.retries := Nat.sub_add_cancel fleet.retries_pos
  have hvisit := fetchRetrying_visit hash fleet i cid (fleet.retries - 1) s
  rwa [hretries] at hvisit

end Fleet

end AddressedStorage
