import AddressedStorage.Proofs.Http.Retry

/-!
# Proofs/Http/Delay — how long a client waits

The wait doubles from repetition to repetition, sixteen times at most, and stays at the greatest
word where a doubled wait would not fit (`Options.delay_succ`).  Computed in words of 32 and 64 bits
it is the same, because no shift goes too far and a product that does is noticed
(`Options.exists_delayInWords?`).  A client waits for these delays in turn, once between two requests
(`Client.waits_send`), so it never waits shorter than before.  The whole law is `delay_law`.
-/

namespace AddressedStorage.Http

variable {σ : Type}

/-! ## The delay -/

namespace Options

variable (o : Options)

/-- The delay as a product. -/
theorem delay_eq (n : Nat) :
    o.delay n = min (2 ^ 64 - 1) (o.backoff.toNat * 2 ^ min (n - 1) 16) := by
  rw [delay, Nat.shiftLeft_eq]
  rfl

theorem delay_mono : Monotone o.delay := by
  intro m n h
  rw [delay_eq, delay_eq]
  gcongr
  decide

theorem delay_le_of_backoff_le {o o' : Options} (h : o.backoff ≤ o'.backoff) (n : Nat) :
    o.delay n ≤ o'.delay n := by
  have hbackoff : o.backoff.toNat ≤ o'.backoff.toNat := UInt64.le_iff_toNat_le.mp h
  rw [delay_eq, delay_eq]
  gcongr

/-- **The wait doubles** sixteen times, as far as that fits. -/
theorem delay_succ {n : Nat} (hpos : 1 ≤ n) (hle : n ≤ 16) :
    o.delay (n + 1) = min (2 ^ 64 - 1) (2 * o.delay n) := by
  obtain ⟨k, rfl⟩ := Nat.exists_eq_add_of_le' hpos
  have hdouble : o.backoff.toNat * 2 ^ (k + 1) = 2 * (o.backoff.toNat * 2 ^ k) := by
    rw [Nat.pow_succ', Nat.mul_left_comm]
  rw [delay_eq, delay_eq, Nat.add_sub_cancel, Nat.add_sub_cancel, min_eq_left hle,
    min_eq_left (Nat.le_of_succ_le hle), hdouble]
  omega

theorem delay_succ_eq_iff {n : Nat} (hpos : 1 ≤ n) (hle : n ≤ 16) :
    o.delay (n + 1) = 2 * o.delay n ↔ 2 * o.delay n < 2 ^ 64 := by
  rw [o.delay_succ hpos hle, min_eq_right_iff]
  omega

/-- Then it stays as it is. -/
theorem delay_of_le {n : Nat} (h : 17 ≤ n) : o.delay n = o.delay 17 := by
  rw [delay_eq, delay_eq, min_eq_right (Nat.le_sub_one_of_lt h)]
  rfl

end Options

/-! ## Words -/

namespace Word

/-- A power of two in 64 bits, unless the shift is as wide as that. -/
def powerOfTwo? (exponent : UInt32) : Option UInt64 :=
  if exponent < 64 then some (1 <<< exponent.toUInt64) else none

/-- A product in 64 bits, unless it does not fit. -/
def product? (x y : UInt64) : Option UInt64 :=
  if x.toNat * y.toNat < 2 ^ 64 then some (x * y) else none

/-- A product in 64 bits.  The greatest word stands for one that does not fit. -/
def saturatedProduct (x y : UInt64) : UInt64 := (product? x y).getD (.ofNat (2 ^ 64 - 1))

theorem exists_powerOfTwo? {exponent : UInt32} (h : exponent.toNat < 64) :
    ∃ w, powerOfTwo? exponent = some w ∧ w.toNat = 2 ^ exponent.toNat := by
  refine ⟨_, if_pos (UInt32.lt_iff_toNat_lt.mpr h), ?_⟩
  rw [UInt64.toNat_shiftLeft, UInt32.toNat_toUInt64, Nat.mod_eq_of_lt h, UInt64.toNat_one,
    Nat.one_shiftLeft, Nat.mod_eq_of_lt (Nat.pow_lt_pow_right Nat.one_lt_two h)]

theorem toNat_saturatedProduct (x y : UInt64) :
    (saturatedProduct x y).toNat = min (2 ^ 64 - 1) (x.toNat * y.toNat) := by
  rw [saturatedProduct, product?]
  split
  case isTrue h =>
    have hle : x.toNat * y.toNat ≤ 2 ^ 64 - 1 := Nat.le_sub_one_of_lt h
    rw [Option.getD_some, UInt64.toNat_mul, Nat.mod_eq_of_lt h, min_eq_right hle]
  case isFalse h =>
    have hle : 2 ^ 64 - 1 ≤ x.toNat * y.toNat := by omega
    rw [Option.getD_none, UInt64.toNat_ofNat_of_lt' (by decide), min_eq_left hle]

/-- How often the wait has doubled before a repetition, counted from one. -/
def doublings (attempt : UInt32) : UInt32 := min (if 1 ≤ attempt then attempt - 1 else 0) 16

theorem toNat_doublings (attempt : UInt32) :
    (doublings attempt).toNat = min (attempt.toNat - 1) 16 := by
  have hbefore : (if 1 ≤ attempt then attempt - 1 else 0).toNat = attempt.toNat - 1 := by
    split
    case isTrue h => exact UInt32.toNat_sub_of_le attempt 1 h
    case isFalse h =>
      have hlt : attempt.toNat < 1 := UInt32.lt_iff_toNat_lt.mp (UInt32.not_le.mp h)
      rw [Nat.lt_one_iff.mp hlt]
      rfl
  rw [doublings, UInt32.toNat_min, hbefore]
  rfl

/-- **The shift does not go too far.** -/
theorem exists_factor (attempt : UInt32) : ∃ factor, powerOfTwo? (doublings attempt) = some factor ∧
    factor.toNat = 2 ^ min (attempt.toNat - 1) 16 := by
  rw [← toNat_doublings]
  refine exists_powerOfTwo? ?_
  rw [toNat_doublings]
  exact Nat.lt_of_le_of_lt (min_le_right _ _) (by decide)

end Word

namespace Options

/-- The delay, with every step of the computation in words. -/
def delayInWords? (o : Options) (attempt : UInt32) : Option UInt64 :=
  (Word.powerOfTwo? (Word.doublings attempt)).map (Word.saturatedProduct o.backoff)

/-- **In words the delay is the same.** -/
theorem exists_delayInWords? (o : Options) (attempt : UInt32) :
    ∃ wait, o.delayInWords? attempt = some wait ∧ wait.toNat = o.delay attempt.toNat := by
  obtain ⟨factor, hfactor, hvalue⟩ := Word.exists_factor attempt
  refine ⟨Word.saturatedProduct o.backoff factor, ?_, ?_⟩
  · rw [delayInWords?, hfactor, Option.map_some]
  · rw [Word.toNat_saturatedProduct, hvalue, delay_eq]

end Options

/-! ## Waiting -/

/-- How long is waited. -/
def Event.milliseconds? : Event → Option Nat
  | sent _ _ => none
  | waited milliseconds => some milliseconds

/-- The waits among what happens, in order. -/
def waits (events : List Event) : List Nat := events.filterMap Event.milliseconds?

theorem waits_concat_sent (events : List Event) (r : Request) (reply : Except Failure Response) :
    waits (events ++ [.sent r reply]) = waits events := by
  rw [waits, List.filterMap_append]
  exact List.append_nil _

theorem waits_concat_waited (events : List Event) (n : Nat) :
    waits (events ++ [.waited n]) = waits events ++ [n] := List.filterMap_append

/-- Within a budget, a condition holds up to where it fails or the budget is used up. -/
theorem exists_least (condition : Nat → Bool) (budget : Nat) :
    ∃ n ≤ budget, (∀ i < n, condition i) ∧ (n < budget → condition n = false) := by
  have hends : ∃ n, n = budget ∨ condition n = false := ⟨budget, .inl rfl⟩
  refine ⟨Nat.find hends, Nat.find_min' hends (.inl rfl), fun i hi => ?_, fun hlt => ?_⟩
  · have hgoes := (not_or.mp (Nat.find_min hends hi)).2
    exact (Bool.not_eq_false _).mp hgoes
  · exact (Nat.find_spec hends).resolve_left hlt.ne

namespace Client

variable (c : Client σ)

/-- **Between two replies a client waits for the delay** of the repetition. -/
theorem waits_consumed (r : Request) (s : σ) (n : Nat) :
    waits (c.consumed r s n) = (List.range' 1 n).map c.options.delay := by
  rw [consumed, waits_concat_sent]
  induction n with
  | zero => rfl
  | succ n ih =>
    rw [events_succ, waits_concat_waited, consumed, waits_concat_sent, ih, List.range'_1_concat,
      List.map_append, List.map_singleton, Nat.add_comm 1 n]

/-- What happens while a request is sent is that it consumes replies, within the budget. -/
theorem exists_consumed {r : Request} (hr : r.isSendable) (s : σ) :
    ∃ n ≤ c.options.retries.toNat,
      ((c.recording.send (.ok r)).run.run (s, [])).2.2 = c.consumed r s n := by
  obtain ⟨n, hle, hpassing, hlast⟩ :=
    exists_least (fun i => isPassing (c.recording.replyAt r (s, []) i)) c.options.retries.toNat
  refine ⟨n, hle, ?_⟩
  rw [c.recording.run_send_of_least hr (s, []) hle hpassing hlast, stateAt_recording]
  rfl

/-- **A client waits for the delays in turn**, once between two requests. -/
theorem waits_send (request : Except Failure Request) (s : σ) :
    let events := ((c.recording.send request).run.run (s, [])).2.2
    ∃ n ≤ c.options.retries.toNat, (events.filterMap Event.request?).length - 1 = n ∧
      waits events = (List.range' 1 n).map c.options.delay := by
  intro events
  cases hrequest : Request.sendable? request with
  | none =>
    obtain ⟨failure, hrun⟩ := c.recording.exists_run_send_of_not_sendable hrequest (s, [])
    have hevents : events = [] := congrArg (fun x => x.2.2) hrun
    rw [hevents]
    exact ⟨0, Nat.zero_le _, rfl, rfl⟩
  | some r =>
    obtain ⟨hok, hr⟩ := Option.filter_eq_some_iff.mp hrequest
    obtain rfl := toOption_eq_some_iff.mp hok
    obtain ⟨n, hle, hevents⟩ : ∃ n ≤ c.options.retries.toNat, events = c.consumed r s n :=
      c.exists_consumed hr s
    rw [hevents]
    refine ⟨n, hle, ?_, c.waits_consumed r s n⟩
    rw [requests_consumed, List.length_replicate, Nat.add_sub_cancel]

end Client

/-- **The law of waiting.**  The wait before a repetition, counted from one, is the backoff doubled
once for each repetition before it, sixteen times at most, or the greatest word if that is more.
Computed in words it is the same, and no shift goes too far.  So the waits grow with the number of
the repetition and with the backoff, they double as long as that fits, and they stay as they are
from the seventeenth on.  Whatever a client sends, and whatever the network does, it waits once
between two requests, and no wait is shorter than the one before. -/
theorem delay_law :
    (∀ (o : Options) (attempt : UInt32),
      o.delay attempt.toNat =
        min (2 ^ 64 - 1) (o.backoff.toNat * 2 ^ min (max attempt.toNat 1 - 1) 16) ∧
      ∃ factor wait : UInt64,
        Word.powerOfTwo? (Word.doublings attempt) = some factor ∧
        factor.toNat = 2 ^ min (max attempt.toNat 1 - 1) 16 ∧
        o.delayInWords? attempt = some wait ∧ wait.toNat = o.delay attempt.toNat) ∧
    (∀ o : Options, Monotone o.delay) ∧
    (∀ (o o' : Options) (n : Nat), o.backoff ≤ o'.backoff → o.delay n ≤ o'.delay n) ∧
    (∀ (o : Options) (n : Nat), 1 ≤ n → n ≤ 16 →
      (o.delay (n + 1) = 2 * o.delay n ↔ 2 * o.delay n < 2 ^ 64)) ∧
    (∀ (o : Options) (n : Nat), 17 ≤ n → o.delay n = o.delay 17) ∧
    (∀ {σ : Type} (c : Client σ) (request : Except Failure Request) (s : σ),
      let events := ((c.recording.send request).run.run (s, [])).2.2
      ∃ n ≤ c.options.retries.toNat, (events.filterMap Event.request?).length - 1 = n ∧
        waits events = (List.range' 1 n).map c.options.delay ∧
        (waits events).Pairwise (· ≤ ·)) := by
  refine ⟨fun o attempt => ?_, Options.delay_mono,
    fun o o' n h => Options.delay_le_of_backoff_le h n, fun o n => o.delay_succ_eq_iff,
    fun o n => o.delay_of_le, fun c request s => ?_⟩
  · have hbefore : max attempt.toNat 1 - 1 = attempt.toNat - 1 := by omega
    obtain ⟨factor, hfactor, hvalue⟩ := Word.exists_factor attempt
    obtain ⟨wait, hwait, hdelay⟩ := o.exists_delayInWords? attempt
    rw [hbefore]
    exact ⟨o.delay_eq _, factor, wait, hfactor, hvalue, hwait, hdelay⟩
  · obtain ⟨n, hle, hrequests, hwaits⟩ := c.waits_send request s
    refine ⟨n, hle, hrequests, hwaits, ?_⟩
    rw [hwaits]
    exact (List.pairwise_le_range' 1).map _ c.options.delay_mono

/-- A backoff that can be doubled once. -/
theorem delay_law_onceDoubled : (1 ≤ 1 ∧ 2 ≤ 16 ∧ 17 ≤ 4294967295) ∧
    let o : Options := { Options.standard with backoff := 0x4000000000000000 }
    Options.standard.backoff ≤ o.backoff ∧ 2 * o.delay 1 < 2 ^ 64 ∧ ¬ 2 * o.delay 2 < 2 ^ 64 ∧
      Options.standard.delay 3 ≤ o.delay 3 ∧ o.delay 2 = 2 * o.delay 1 ∧
      o.delay 3 ≠ 2 * o.delay 2 ∧ o.delay 4294967295 = o.delay 17 := by
  obtain ⟨-, -, hbackoff, hdoubles, hstays, -⟩ := delay_law
  have hle : Options.standard.backoff ≤ 0x4000000000000000 := by decide
  refine ⟨by decide, hle, by decide, by decide, hbackoff _ _ 3 hle, ?_, fun h => ?_, ?_⟩
  · exact (hdoubles _ 1 (by decide) (by decide)).mpr (by decide)
  · exact absurd ((hdoubles _ 2 (by decide) (by decide)).mp h) (by decide)
  · exact hstays _ 4294967295 (by decide)

end AddressedStorage.Http
