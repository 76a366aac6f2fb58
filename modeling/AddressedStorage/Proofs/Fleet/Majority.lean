import AddressedStorage.Proofs.Fleet.Consensus
import Mathlib

/-!
# Proofs/Fleet/Majority — at most one identifier has a majority

The tally gives each identifier that was reported its number of votes (`votes_of_decide`), so its
counts add up to the number of successes.  Two identifiers cannot both be reported by more than half
of all providers (`eq_of_quorum_le_count`): whoever goes through the tally, in whatever order, finds
the same winner (`find?_perm_of_unique`), and the outcomes may arrive in any order
(`decide_of_perm`).
-/

namespace AddressedStorage

/-- The outcome that a success records. -/
def PublishSuccess.outcome (s : PublishSuccess) : PublishOutcome := ⟨s.index, s.provider, .ok s.cid⟩

/-- The outcome that a failure records. -/
def ProviderFailure.outcome (f : ProviderFailure) : PublishOutcome :=
  ⟨f.index, f.provider, .error f.error⟩

/-! ## Outcomes kept -/

theorem map_outcome_successes (outcomes : List PublishOutcome) :
    (outcomes.filterMap PublishOutcome.success?).map PublishSuccess.outcome =
      outcomes.filter fun o => o.result.isOk := by
  induction outcomes with
  | nil => rfl
  | cons o outcomes ih =>
    rcases o with ⟨index, provider, e | cid⟩
    · exact ih
    · exact congrArg (List.cons _) ih

theorem map_outcome_failures (outcomes : List PublishOutcome) :
    (outcomes.filterMap PublishOutcome.failure?).map ProviderFailure.outcome =
      outcomes.filter fun o => !o.result.isOk := by
  induction outcomes with
  | nil => rfl
  | cons o outcomes ih =>
    rcases o with ⟨index, provider, e | cid⟩
    · exact congrArg (List.cons _) ih
    · exact ih

/-! ## Counting -/

section Counting

variable {α : Type} [DecidableEq α]

theorem nodup_eraseDups (votes : List α) : votes.eraseDups.Nodup := by
  match votes with
  | [] => exact List.nodup_nil
  | c :: votes =>
    rw [List.eraseDups_cons, List.nodup_cons, List.mem_eraseDups]
    refine ⟨fun hmem => ?_, nodup_eraseDups _⟩
    simpa using (List.mem_filter.mp hmem).2
termination_by votes.length
decreasing_by exact Nat.lt_succ_of_le (List.length_filter_le ..)

/-- Whoever counts each vote under its identifier counts all votes. -/
theorem sum_count_eraseDups (votes : List α) :
    (votes.eraseDups.map fun c => votes.count c).sum = votes.length := by
  have hperm : votes.eraseDups.Perm votes.dedup :=
    (List.perm_ext_iff_of_nodup (nodup_eraseDups votes) votes.nodup_dedup).mpr fun c => by
      rw [List.mem_eraseDups, List.mem_dedup]
  rw [(hperm.map _).sum_eq, List.sum_map_count_dedup_eq_length]

/-- Nobody votes twice. -/
theorem count_add_count_le (votes : List α) {a b : α} (h : a ≠ b) :
    votes.count a + votes.count b ≤ votes.length := by
  rw [votes.length_eq_countP_add_countP (· == a), List.count_eq_countP, List.count_eq_countP]
  refine Nat.add_le_add_left (List.countP_mono_left fun c _ hc => ?_) _
  obtain rfl := eq_of_beq hc
  simpa using h.symm

/-- **Two majorities of one list are one.** -/
theorem eq_of_quorum_le_count {total : Nat} {votes : List α} (hlength : votes.length ≤ total)
    {a b : α} (ha : quorum total ≤ votes.count a) (hb : quorum total ≤ votes.count b) : a = b := by
  by_contra hne
  have hsum := count_add_count_le votes hne
  rw [quorum] at ha hb
  omega

omit [DecidableEq α] in
/-- What at most one element of a list satisfies is found in whatever order the list is gone
through. -/
theorem find?_perm_of_unique {p : α → Bool} {l l' : List α} (h : l'.Perm l)
    (hunique : ∀ a ∈ l, ∀ b ∈ l, p a → p b → a = b) : l'.find? p = l.find? p := by
  cases hfind : l.find? p with
  | none =>
    exact List.find?_eq_none.mpr fun a ha => List.find?_eq_none.mp hfind a (h.mem_iff.mp ha)
  | some a =>
    have ha := List.mem_of_find?_eq_some hfind
    obtain ⟨b, hb⟩ : ∃ b, l'.find? p = some b :=
      Option.isSome_iff_exists.mp
        (List.find?_isSome.mpr ⟨a, h.mem_iff.mpr ha, List.find?_some hfind⟩)
    have hmem := h.mem_iff.mp (List.mem_of_find?_eq_some hb)
    rw [hb, hunique b hmem a ha (List.find?_some hb) (List.find?_some hfind)]

end Counting

namespace Consensus

/-! ## The tally -/

theorem lookup_count (votes : List Cid) (c : Cid) :
    ((count votes).lookup c).getD 0 = votes.count c := by
  by_cases hmem : c ∈ votes
  · rw [count, List.lookup_graph votes.count (List.mem_eraseDups.mpr hmem), Option.getD_some]
  · have hnone : (count votes).lookup c = none :=
      List.lookup_eq_none_iff.mpr fun entry hentry => by
        have hne : c ≠ entry.1 := fun heq => hmem (heq ▸ mem_of_mem_count hentry)
        simpa using hne
    rw [hnone, Option.getD_none, List.count_eq_zero_of_not_mem hmem]

theorem eq_count_of_mem {votes : List Cid} {entry : Cid × Nat} (h : entry ∈ count votes) :
    entry.2 = votes.count entry.1 := by
  obtain ⟨c, -, rfl⟩ := List.mem_map.mp h
  rfl

theorem mem_count {votes : List Cid} {c : Cid} (h : c ∈ votes) :
    (c, votes.count c) ∈ count votes :=
  List.mem_map_of_mem (List.mem_eraseDups.mpr h)

theorem map_fst_count (votes : List Cid) : (count votes).map Prod.fst = votes.eraseDups := by
  rw [count, List.map_map]
  exact List.map_id _

theorem sum_map_snd_count (votes : List Cid) :
    ((count votes).map Prod.snd).sum = votes.length := by
  rw [count, List.map_map]
  exact sum_count_eraseDups votes

/-- The first identifier with enough votes, in the order in which a tally is gone through. -/
def agreed (needed : Nat) (tally : List (Cid × Nat)) : Option Cid :=
  (tally.find? fun entry => needed ≤ entry.2).map Prod.fst

/-- An identifier that is agreed on has enough votes. -/
theorem le_count_of_agreed {needed : Nat} {votes : List Cid} {c : Cid}
    (h : agreed needed (count votes) = some c) : needed ≤ votes.count c := by
  obtain ⟨entry, hfind, rfl⟩ := Option.map_eq_some_iff.mp h
  rw [← eq_count_of_mem (List.mem_of_find?_eq_some hfind)]
  simpa using List.find?_some hfind

/-- **Where there is a majority, it is agreed on.** -/
theorem agreed_of_le_count {total : Nat} {votes : List Cid} (hlength : votes.length ≤ total)
    {c : Cid} (h : AddressedStorage.quorum total ≤ votes.count c) :
    agreed (AddressedStorage.quorum total) (count votes) = some c := by
  have hpos : 0 < votes.count c := Nat.lt_of_lt_of_le (Nat.succ_pos _) h
  obtain ⟨c', hc'⟩ : ∃ c', agreed (AddressedStorage.quorum total) (count votes) = some c' := by
    refine Option.isSome_iff_exists.mp (Option.isSome_map.trans (List.find?_isSome.mpr ?_))
    exact ⟨_, mem_count (List.count_pos_iff.mp hpos), decide_eq_true h⟩
  rw [hc', eq_of_quorum_le_count hlength (le_count_of_agreed hc') h]

/-- **The order of a tally does not matter.** -/
theorem agreed_perm {total : Nat} {votes : List Cid} (hlength : votes.length ≤ total)
    {tally : List (Cid × Nat)} (h : tally.Perm (count votes)) :
    agreed (AddressedStorage.quorum total) tally =
      agreed (AddressedStorage.quorum total) (count votes) := by
  refine congrArg (Option.map Prod.fst) (find?_perm_of_unique h fun a ha b hb hpa hpb => ?_)
  have hca := eq_count_of_mem ha
  have hcb := eq_count_of_mem hb
  have hfst : a.1 = b.1 := eq_of_quorum_le_count hlength (hca ▸ of_decide_eq_true hpa)
    (hcb ▸ of_decide_eq_true hpb)
  exact Prod.ext hfst (by rw [hca, hcb, hfst])

/-! ## The decision -/

variable {total : Nat} {outcomes outcomes' : List PublishOutcome} {r r' : Consensus}

/-- **What is decided**: the identifier agreed on, or that of the first success. -/
theorem agreed_of_decide (h : decide total outcomes = .ok r) :
    r.quorum = AddressedStorage.quorum total ∧
      r.reachedQuorum = (agreed r.quorum r.tally).isSome ∧
      ∃ first, r.successes.head? = some first ∧
        r.cid = (agreed r.quorum r.tally).getD first.cid := by
  rw [decide] at h
  split at h
  · cases h
  · rename_i first later hfirst
    obtain rfl := Except.ok.inj h
    exact ⟨rfl, rfl, first, congrArg List.head? hfirst, rfl⟩

/-- **The votes for an identifier are the successes that report it.** -/
theorem votes_of_decide (h : decide total outcomes = .ok r) (c : Cid) :
    r.votes c = (r.successes.map PublishSuccess.cid).count c := by
  obtain ⟨-, -, -, htally, -⟩ := parts_of_decide h
  rw [votes, htally, lookup_count]

/-- There are no more votes than outcomes. -/
theorem length_successes_le (h : decide total outcomes = .ok r) :
    (r.successes.map PublishSuccess.cid).length ≤ outcomes.length := by
  rw [(parts_of_decide h).1, List.length_map]
  exact List.length_filterMap_le _ _

/-- What `total` providers resolve to by majority. -/
structure Majority (total : Nat) (outcomes : List PublishOutcome) (r : Consensus) : Prop where
  /-- The successes are kept as they came. -/
  successes_eq : r.successes.map PublishSuccess.outcome = outcomes.filter fun o => o.result.isOk
  /-- So are the failures. -/
  failures_eq : r.failures.map ProviderFailure.outcome = outcomes.filter fun o => !o.result.isOk
  quorum_eq : r.quorum = total / 2 + 1
  votes_eq : ∀ c, r.votes c = r.successes.countP (·.cid = c)
  /-- Each identifier is counted once. -/
  nodup_tally : (r.tally.map Prod.fst).Nodup
  sum_tally : (r.tally.map Prod.snd).sum = r.successes.length
  /-- At most one identifier has a majority. -/
  unique : ∀ c c', r.quorum ≤ r.votes c → r.quorum ≤ r.votes c' → c = c'
  reached_iff : r.reachedQuorum ↔ ∃ c, r.quorum ≤ r.votes c
  /-- An identifier with a majority wins. -/
  cid_of_quorum : ∀ c, r.quorum ≤ r.votes c → r.cid = c
  /-- Without one, the first success does. -/
  cid_of_tie : r.reachedQuorum = false → r.successes.head?.map PublishSuccess.cid = some r.cid
  /-- The tally may be gone through in any order. -/
  agreed_eq : ∀ tally, tally.Perm r.tally →
    agreed r.quorum tally = if r.reachedQuorum then some r.cid else none

theorem majority_of_decide (hlength : outcomes.length ≤ total) (h : decide total outcomes = .ok r) :
    Majority total outcomes r := by
  obtain ⟨hsuccesses, -, hfailures, htally, -⟩ := parts_of_decide h
  obtain ⟨hquorum, hreached, first, hfirst, hcid⟩ := agreed_of_decide h
  have hvotes := votes_of_decide h
  have hle := Nat.le_trans (length_successes_le h) hlength
  have hagreed : ∀ c, r.quorum ≤ r.votes c → agreed r.quorum r.tally = some c := by
    intro c hc
    rw [htally, hquorum]
    exact agreed_of_le_count hle (hvotes c ▸ hquorum ▸ hc)
  have hle_votes : ∀ c, agreed r.quorum r.tally = some c → r.quorum ≤ r.votes c := by
    intro c hc
    rw [hvotes]
    exact le_count_of_agreed (htally ▸ hc)
  refine ⟨?_, ?_, hquorum, fun c => ?_, ?_, ?_, fun c c' hc hc' => ?_, ?_, fun c hc => ?_,
    fun htie => ?_, fun tally hperm => ?_⟩
  · rw [hsuccesses, map_outcome_successes]
  · rw [hfailures, map_outcome_failures]
  · rw [hvotes, List.count_eq_countP, List.countP_map]
    rfl
  · rw [htally, map_fst_count]
    exact nodup_eraseDups _
  · rw [htally, sum_map_snd_count, List.length_map]
  · exact Option.some.inj ((hagreed c hc).symm.trans (hagreed c' hc'))
  · rw [hreached, Option.isSome_iff_exists]
    exact exists_congr fun c => ⟨hle_votes c, hagreed c⟩
  · rw [hcid, hagreed c hc, Option.getD_some]
  · rw [hreached, Option.isSome_eq_false_iff, Option.isNone_iff_eq_none] at htie
    rw [hfirst, Option.map_some, hcid, htie, Option.getD_none]
  · rw [htally] at hperm
    rw [hquorum, agreed_perm hle hperm, ← htally, ← hquorum, hreached, hcid]
    cases agreed r.quorum r.tally <;> rfl

/-- **The order of the outcomes does not matter to a majority.** -/
theorem decide_of_perm (hlength : outcomes.length ≤ total) (h : decide total outcomes = .ok r)
    (hreached : r.reachedQuorum) (hperm : outcomes'.Perm outcomes) :
    ∃ r', decide total outcomes' = .ok r' ∧ r'.reachedQuorum ∧ r'.cid = r.cid ∧
      ∀ c, r'.votes c = r.votes c := by
  obtain ⟨o, ho, hok⟩ := exists_ok_of_decide h
  obtain ⟨r', hr'⟩ : ∃ r', decide total outcomes' = .ok r' :=
    exists_decide_of_ok (hperm.mem_iff.mpr ho) hok
  have hvotes : ∀ c, r'.votes c = r.votes c := by
    intro c
    rw [votes_of_decide hr', votes_of_decide h, (parts_of_decide hr').1, (parts_of_decide h).1]
    exact ((hperm.filterMap _).map _).count_eq c
  have hmajority := majority_of_decide hlength h
  have hmajority' := majority_of_decide (hperm.length_eq.trans_le hlength) hr'
  obtain ⟨c, hc⟩ := hmajority.reached_iff.mp hreached
  have hc' : r'.quorum ≤ r'.votes c := by
    rw [hvotes, hmajority'.quorum_eq, ← hmajority.quorum_eq]
    exact hc
  exact ⟨r', hr', hmajority'.reached_iff.mpr ⟨c, hc'⟩,
    (hmajority'.cid_of_quorum c hc').trans (hmajority.cid_of_quorum c hc).symm, hvotes⟩

/-- **The majority of all providers decides.**  Of at most `total` outcomes every one is kept, and
the successes are counted by identifier.  The identifier that more than half of all providers report
wins, in whatever order the tally is gone through and the outcomes arrive; where there is none, the
first success decides.  Where there is no success either, every failure is listed. -/
theorem decide_by_majority (total : Nat) (outcomes : List PublishOutcome)
    (hlength : outcomes.length ≤ total) :
    ((∃ o ∈ outcomes, ∃ cid, o.result = .ok cid) →
      ∃ r, decide total outcomes = .ok r ∧ Majority total outcomes r ∧
        (r.reachedQuorum → ∀ outcomes', outcomes'.Perm outcomes →
          ∃ r', decide total outcomes' = .ok r' ∧ r'.reachedQuorum ∧ r'.cid = r.cid ∧
            ∀ c, r'.votes c = r.votes c)) ∧
    ((∀ o ∈ outcomes, ∃ e, o.result = .error e) →
      ∃ failures, decide total outcomes = .error (.noProvidersAvailable .upload outcomes.length
          (.publishFailed failures)) ∧
        failures.map ProviderFailure.outcome = outcomes) := by
  constructor
  · rintro ⟨o, ho, cid, hok⟩
    obtain ⟨r, hr⟩ : ∃ r, decide total outcomes = .ok r := exists_decide_of_ok ho hok
    exact ⟨r, hr, majority_of_decide hlength hr, fun hreached _ hperm =>
      decide_of_perm hlength hr hreached hperm⟩
  · intro herror
    refine ⟨_, decide_of_forall_error herror, ?_⟩
    rw [map_outcome_failures]
    refine List.filter_eq_self.mpr fun o ho => ?_
    obtain ⟨e, he⟩ := herror o ho
    rw [he]
    rfl

/-- Five uploads: one that failed, and three for one identifier after one for another. -/
def splitVote : List PublishOutcome :=
  [⟨0, "first", .ok (.v1 .raw .zero)⟩, ⟨1, "second", .error (.upload "full")⟩,
    ⟨2, "third", .ok (.v0 .zero)⟩, ⟨3, "fourth", .ok (.v0 .zero)⟩, ⟨4, "fifth", .ok (.v0 .zero)⟩]

theorem decide_by_majority_splitVote :
    splitVote.length ≤ 5 ∧
      (∃ r, decide 5 splitVote = .ok r ∧ r.cid = .v0 .zero ∧
        ∃ r', decide 5 splitVote.reverse = .ok r' ∧ r'.cid = .v0 .zero) ∧
      ∃ failures, decide 5 (splitVote.take 2).tail = .error (.noProvidersAvailable .upload 1
          (.publishFailed failures)) ∧
        failures.map ProviderFailure.outcome = (splitVote.take 2).tail := by
  have hlength : splitVote.length ≤ 5 := by decide
  obtain ⟨r, hr, hmajority, hperm⟩ := (decide_by_majority 5 splitVote hlength).1
    ⟨_, List.mem_cons_self, _, rfl⟩
  have hvotes : r.votes (.v0 .zero) = 3 := by
    rw [votes_of_decide hr, (parts_of_decide hr).1]
    decide
  have hquorum : r.quorum ≤ r.votes (.v0 .zero) := by
    rw [hmajority.quorum_eq, hvotes]
  have hcid := hmajority.cid_of_quorum _ hquorum
  obtain ⟨r', hr', -, hcid', -⟩ := hperm (hmajority.reached_iff.mpr ⟨_, hquorum⟩) _
    splitVote.reverse_perm
  exact ⟨hlength, ⟨r, hr, hcid, r', hr', hcid'.trans hcid⟩,
    (decide_by_majority 5 (splitVote.take 2).tail (by decide)).2
      (List.forall_mem_singleton.mpr ⟨_, rfl⟩)⟩

end Consensus

end AddressedStorage
