import AddressedStorage.Proofs.Network.Identity

/-!
# Proofs/Network/FirstOffence — a check ends with the first offence

Nodes of any kind, each with any effect, are asked one after another.  `answers` asks all of them,
whatever they answer, and says who offends: who does not answer, or names another chain than the first
node (`Offends`).  A check asks the same nodes and goes on just as long as they name one chain
(`Course`).  So it is the first offence that is reported, and nobody is asked after that
(`checkConsistency_first_offence`).
-/

namespace AddressedStorage

variable {σ : Type}

namespace ChainEndpoint

/-- The node, noting its place whenever it is asked. -/
def noting (place : Nat) (e : ChainEndpoint σ) : ChainEndpoint (σ × List Nat) where
  name := e.name
  chainId := ExceptT.mk fun (s, asked) =>
    let (answer, t) := e.chainId.run.run s
    (answer, (t, asked ++ [place]))

theorem run_chainId_noting (place : Nat) (e : ChainEndpoint σ) {s t : σ}
    {answer : Except ExchangeError ChainId} (h : e.chainId.run.run s = (answer, t))
    (asked : List Nat) :
    (e.noting place).chainId.run.run (s, asked) = (answer, (t, asked ++ [place])) :=
  congrArg (fun out : Except ExchangeError ChainId × σ => (out.1, (out.2, asked ++ [place]))) h

end ChainEndpoint

namespace Network

/-- The nodes, each noting its place in the list. -/
def noted (endpoints : List (ChainEndpoint σ)) : List (ChainEndpoint (σ × List Nat)) :=
  endpoints.mapIdx ChainEndpoint.noting

/-- What the nodes answer one after the other, whatever they answer. -/
def answers (endpoints : List (ChainEndpoint σ)) :
    StateM σ (List (Except ExchangeError ChainId)) :=
  endpoints.mapM fun e => e.chainId.run

/-- The node at a place offends: it does not answer, or names another chain than the first. -/
inductive Offends (endpoints : List (ChainEndpoint σ))
    (replies : List (Except ExchangeError ChainId)) (j : Nat) : NetworkError → Prop where
  | silent {e : ChainEndpoint σ} {cause : ExchangeError} (he : endpoints[j]? = some e)
      (hreply : replies[j]? = some (.error cause)) :
      Offends endpoints replies j (.unreachable j e.name cause)
  | differs {expected got : ChainId} (hfirst : replies[0]? = some (.ok expected))
      (hreply : replies[j]? = some (.ok got)) (hne : got ≠ expected) :
      Offends endpoints replies j (.inconsistent j expected got)

/-! ## Asking all -/

variable {endpoints before after : List (ChainEndpoint σ)} {e : ChainEndpoint σ} {s t u v : σ}
  {replies others : List (Except ExchangeError ChainId)} {answer : Except ExchangeError ChainId}

/-- One node, and those after it. -/
theorem run_answers_cons (he : e.chainId.run.run s = (answer, t))
    (hafter : (answers after).run t = (others, u)) :
    (answers (e :: after)).run s = (answer :: others, u) := by
  rw [answers, List.mapM_cons, runState_bind he]
  exact runState_bind hafter

/-- Those who are asked first, and those after them. -/
theorem run_answers_append (hbefore : (answers before).run s = (replies, t))
    (hafter : (answers after).run t = (others, u)) :
    (answers (before ++ after)).run s = (replies ++ others, u) := by
  rw [answers, List.mapM_append]
  exact (runState_bind hbefore).trans (runState_bind hafter)

/-- Every node that is asked answers. -/
theorem length_answers (h : (answers endpoints).run s = (replies, t)) :
    replies.length = endpoints.length := by
  induction endpoints generalizing s replies with
  | nil =>
    obtain ⟨rfl, rfl⟩ := Prod.mk.inj h
    rfl
  | cons e endpoints ih =>
    rcases hrest : (answers endpoints).run (e.chainId.run.run s).2 with ⟨others, u⟩
    obtain ⟨rfl, rfl⟩ := Prod.mk.inj ((run_answers_cons rfl hrest).symm.trans h)
    rw [List.length_cons, ih hrest, List.length_cons]

/-- **Noting changes no answer**, and every node that is asked is noted once, in order. -/
theorem run_answers_noting (h : (answers endpoints).run s = (replies, t)) (start : Nat)
    (asked : List Nat) :
    (answers (endpoints.mapIdx fun i e => e.noting (start + i))).run (s, asked) =
      (replies, (t, asked ++ List.range' start endpoints.length)) := by
  induction endpoints generalizing s replies start asked with
  | nil =>
    obtain ⟨rfl, rfl⟩ := Prod.mk.inj h
    exact congrArg (fun places => ([], (s, places))) (List.append_nil asked).symm
  | cons e endpoints ih =>
    rcases hask : e.chainId.run.run s with ⟨answer, u⟩
    rcases hrest : (answers endpoints).run u with ⟨others, v⟩
    obtain ⟨rfl, rfl⟩ := Prod.mk.inj ((run_answers_cons hask hrest).symm.trans h)
    have hlater := ih hrest (start + 1) (asked ++ [start])
    simp only [Nat.add_right_comm start 1] at hlater
    rw [List.append_assoc, List.singleton_append, ← List.range'_succ] at hlater
    rw [List.mapIdx_cons]
    exact run_answers_cons (e.run_chainId_noting start hask asked) hlater

/-! ## Holding nodes to a chain -/

variable {expected : ChainId} {err : NetworkError}

/-- Why the node at a place is refused, if nodes are held to a chain. -/
inductive Refuses (expected : ChainId) (place : Nat) (name : String) :
    Except ExchangeError ChainId → NetworkError → Prop where
  | silent (cause : ExchangeError) :
      Refuses expected place name (.error cause) (.unreachable place name cause)
  | differs {got : ChainId} (hne : got ≠ expected) :
      Refuses expected place name (.ok got) (.inconsistent place expected got)

/-- How it ends if nodes are held to a chain: all name it, or some do and the next is refused. -/
inductive Held (expected : ChainId) (index : Nat) (endpoints : List (ChainEndpoint σ)) (s : σ) :
    Except NetworkError Unit × σ → Prop where
  | passed {t : σ}
      (hask : (answers endpoints).run s = (.replicate endpoints.length (.ok expected), t)) :
      Held expected index endpoints s (.ok (), t)
  | stopped (before after : List (ChainEndpoint σ)) {e : ChainEndpoint σ} {t u : σ}
      {answer : Except ExchangeError ChainId} {err : NetworkError}
      (hendpoints : endpoints = before ++ e :: after)
      (hbefore : (answers before).run s = (.replicate before.length (.ok expected), t))
      (hask : e.chainId.run.run t = (answer, u))
      (hrefused : Refuses expected (index + before.length) e.name answer err) :
      Held expected index endpoints s (.error err, u)

/-- A node that names the chain, before others. -/
theorem Held.cons {index : Nat} {out : Except NetworkError Unit × σ}
    (hask : e.chainId.run.run s = (.ok expected, t))
    (h : Held expected (index + 1) after t out) : Held expected index (e :: after) s out := by
  cases h with
  | passed hrest => exact .passed (run_answers_cons hask hrest)
  | @stopped before later f u v answer err hafter hbefore hnext hrefused =>
    refine .stopped (e :: before) later (congrArg (e :: ·) hafter) (run_answers_cons hask hbefore)
      hnext ?_
    rwa [List.length_cons, ← Nat.add_assoc, Nat.add_right_comm]

/-- **The check goes on just as long as nodes name the chain.** -/
theorem checkRest_held (expected : ChainId) (index : Nat) (endpoints : List (ChainEndpoint σ))
    (s : σ) : Held expected index endpoints s ((checkRest expected index endpoints).run.run s) := by
  induction endpoints generalizing index s with
  | nil => exact .passed rfl
  | cons e endpoints ih =>
    rcases hask : e.chainId.run.run s with ⟨cause | got, t⟩
    · rw [checkRest, run_bind, run_ask, hask]
      exact .stopped [] endpoints rfl rfl hask (.silent cause)
    · have hgoes : (ask index e).run.run s = (.ok got, t) := by rw [run_ask, hask]; rfl
      rw [checkRest, run_bind_of_ok hgoes]
      by_cases hgot : got = expected
      · rw [if_pos hgot]
        exact .cons (hgot ▸ hask) (ih (index + 1) t)
      · rw [if_neg hgot]
        exact .stopped [] endpoints rfl rfl hask (.differs hgot)

/-! ## The first offence -/

/-- A place has one offence. -/
theorem Offends.unique {j : Nat} {err' : NetworkError} (h : Offends endpoints replies j err)
    (h' : Offends endpoints replies j err') : err = err' := by
  cases h with
  | silent he hreply =>
    cases h' with
    | silent he' hreply' =>
      obtain rfl := Option.some.inj (he.symm.trans he')
      obtain rfl := Except.error.inj (Option.some.inj (hreply.symm.trans hreply'))
      rfl
    | differs _ hreply' => cases Option.some.inj (hreply.symm.trans hreply')
  | differs hfirst hreply _ =>
    cases h' with
    | silent _ hreply' => cases Option.some.inj (hreply.symm.trans hreply')
    | differs hfirst' hreply' _ =>
      obtain rfl := Except.ok.inj (Option.some.inj (hfirst.symm.trans hfirst'))
      obtain rfl := Except.ok.inj (Option.some.inj (hreply.symm.trans hreply'))
      rfl

/-- Nobody offends at a place where the chain is named that the first node names. -/
theorem not_offends {j : Nat} (hfirst : replies[0]? = some (.ok expected))
    (hreply : replies[j]? = some (.ok expected)) : ¬ Offends endpoints replies j err := by
  intro h
  cases h with
  | silent _ hsilent => cases Option.some.inj (hsilent.symm.trans hreply)
  | differs hfirst' hreply' hne =>
    obtain rfl := Except.ok.inj (Option.some.inj (hfirst.symm.trans hfirst'))
    exact hne (Except.ok.inj (Option.some.inj (hreply'.symm.trans hreply)))

/-- How a check of nodes goes, told by what they answer if all of them are asked. -/
inductive Course (endpoints : List (ChainEndpoint σ))
    (replies : List (Except ExchangeError ChainId)) (s : σ) :
    Except NetworkError (Option ChainId) × σ → Prop where
  | empty (hnil : endpoints = []) : Course endpoints replies s (.ok none, s)
  | agreed {id : ChainId} (hne : endpoints ≠ []) (hreplies : ∀ answer ∈ replies, answer = .ok id) :
      Course endpoints replies s (.ok (some id), ((answers endpoints).run s).2)
  | stopped {j : Nat} {err : NetworkError} (hoffends : Offends endpoints replies j err)
      (hclean : ∀ i < j, ∀ err, ¬ Offends endpoints replies i err) :
      Course endpoints replies s (.error err, ((answers (endpoints.take (j + 1))).run s).2)

/-- Nodes name one chain, and the next is refused: it is the first that offends. -/
theorem Course.of_refused (before : List (ChainEndpoint σ)) (expected : ChainId)
    (hreplies : (answers (before ++ e :: after)).run s = (replies, v))
    (hbefore : (answers before).run s = (.replicate before.length (.ok expected), t))
    (hask : e.chainId.run.run t = (answer, u))
    (hrefused : Refuses expected before.length e.name answer err)
    (hfirst : before = [] → ∃ cause, answer = .error cause) :
    Course (before ++ e :: after) replies s (.error err, u) := by
  rcases hothers : (answers after).run u with ⟨others, w⟩
  obtain ⟨rfl, -⟩ := Prod.mk.inj
    ((run_answers_append hbefore (run_answers_cons hask hothers)).symm.trans hreplies)
  have hheld : ∀ i < before.length,
      (.replicate before.length (.ok expected) ++ answer :: others)[i]? = some (.ok expected) := by
    intro i hi
    rw [List.getElem?_append_left (by rwa [List.length_replicate]), List.getElem?_replicate,
      if_pos hi]
  have hreply :
      (.replicate before.length (.ok expected) ++ answer :: others)[before.length]? =
        some answer := by
    simp
  have hnode : (before ++ e :: after)[before.length]? = some e := by simp
  have hlast : (answers [e]).run t = ([answer], u) := run_answers_cons hask rfl
  have hstate : ((answers ((before ++ e :: after).take (before.length + 1))).run s).2 = u := by
    rw [List.take_length_add_append, List.take_succ_cons, List.take_zero,
      run_answers_append hbefore hlast]
  have hoffends : Offends (before ++ e :: after)
      (.replicate before.length (.ok expected) ++ answer :: others) before.length err := by
    cases hrefused with
    | silent cause => exact .silent hnode hreply
    | differs hne =>
      have hpos : 0 < before.length := by
        refine List.length_pos_of_ne_nil fun hnil => ?_
        obtain ⟨cause, hcause⟩ := hfirst hnil
        cases hcause
      exact .differs (hheld 0 hpos) hreply hne
  rw [← hstate]
  exact .stopped hoffends fun i hi err =>
    not_offends (hheld 0 (Nat.zero_lt_of_lt hi)) (hheld i hi)

/-- **How the check of nodes goes.** -/
theorem checkConsistency_course (endpoints : List (ChainEndpoint σ)) (s : σ) :
    Course endpoints ((answers endpoints).run s).1 s ((checkConsistency endpoints).run.run s) := by
  cases endpoints with
  | nil => exact .empty rfl
  | cons first rest =>
    rcases hask : first.chainId.run.run s with ⟨cause | id, t⟩
    · rw [checkConsistency, run_bind, run_ask, hask]
      exact .of_refused [] ⟨0⟩ rfl rfl hask (.silent cause)
        fun _ => ⟨cause, rfl⟩
    · have hgoes : (ask 0 first).run.run s = (.ok id, t) := by rw [run_ask, hask]; rfl
      rw [checkConsistency, run_bind_of_ok hgoes, run_bind]
      have hheld := checkRest_held id 1 rest t
      rcases hrun : (checkRest id 1 rest).run.run t with ⟨result, u⟩
      rw [hrun] at hheld
      cases hheld with
      | passed hrest =>
        have hreplies := run_answers_cons hask hrest
        have hagreed : Course (first :: rest)
            (((answers (first :: rest)).run s).1) s
            (.ok (some id), ((answers (first :: rest)).run s).2) := by
          refine .agreed (List.cons_ne_nil _ _) fun answer hanswer => ?_
          rw [hreplies, ← List.replicate_succ] at hanswer
          exact List.eq_of_mem_replicate hanswer
        rwa [hreplies] at hagreed ⊢
      | @stopped before after e v w answer err hsplit hbefore hlast hrefused =>
        subst hsplit
        refine .of_refused (first :: before) id rfl (run_answers_cons hask hbefore) hlast ?_
          nofun
        rwa [List.length_cons, Nat.add_comm]

namespace Course

variable {out : Except NetworkError (Option ChainId) × σ} {j : Nat}

/-- **The first offence ends the check.** -/
theorem eq_of_first (h : Course endpoints replies s out) (hlength : replies.length = endpoints.length)
    (hoffends : Offends endpoints replies j err)
    (hclean : ∀ i < j, ∀ err, ¬ Offends endpoints replies i err) :
    out = (.error err, ((answers (endpoints.take (j + 1))).run s).2) := by
  cases h with
  | empty hnil =>
    rw [hnil, List.length_nil, List.length_eq_zero_iff] at hlength
    rw [hlength] at hoffends
    cases hoffends with
    | silent _ hreply => cases hreply
    | differs _ hreply _ => cases hreply
  | agreed _ hreplies =>
    cases hoffends with
    | silent _ hreply => cases hreplies _ (List.mem_of_getElem? hreply)
    | differs hfirst hreply hne =>
      obtain rfl := Except.ok.inj (hreplies _ (List.mem_of_getElem? hfirst))
      exact absurd (Except.ok.inj (hreplies _ (List.mem_of_getElem? hreply))) hne
  | @stopped k err' hoffends' hclean' =>
    rcases Nat.lt_trichotomy j k with hlt | rfl | hlt
    · exact absurd hoffends (hclean' j hlt err)
    · rw [hoffends.unique hoffends']
    · exact absurd hoffends' (hclean k hlt err')

/-- **Without an offence the nodes name one chain.** -/
theorem exists_of_clean (h : Course endpoints replies s out) (hne : endpoints ≠ [])
    (hclean : ∀ j err, ¬ Offends endpoints replies j err) :
    ∃ id, (∀ answer ∈ replies, answer = .ok id) ∧
      out = (.ok (some id), ((answers endpoints).run s).2) := by
  cases h with
  | empty hnil => exact absurd hnil hne
  | @agreed id _ hreplies => exact ⟨id, hreplies, rfl⟩
  | @stopped j err hoffends _ => exact absurd hoffends (hclean j err)

/-- The answers tell all of the course. -/
theorem unique {out' : Except NetworkError (Option ChainId) × σ}
    (hlength : replies.length = endpoints.length) (h : Course endpoints replies s out)
    (h' : Course endpoints replies s out') : out = out' := by
  cases h' with
  | stopped hoffends hclean => exact h.eq_of_first hlength hoffends hclean
  | empty hnil =>
    cases h with
    | empty => rfl
    | agreed hne => exact absurd hnil hne
    | stopped hoffends hclean =>
      exact ((Course.empty hnil).eq_of_first hlength hoffends hclean).symm
  | @agreed id' hne hreplies' =>
    cases h with
    | empty hnil => exact absurd hnil hne
    | stopped hoffends hclean =>
      exact ((Course.agreed hne hreplies').eq_of_first hlength hoffends hclean).symm
    | agreed _ hreplies =>
      have hpos : replies ≠ [] := List.ne_nil_of_length_pos
        (hlength ▸ List.length_pos_of_ne_nil hne)
      obtain ⟨answer, hanswer⟩ := List.exists_mem_of_ne_nil replies hpos
      rw [Except.ok.inj ((hreplies answer hanswer).symm.trans (hreplies' answer hanswer))]

end Course

/-! ## Who is asked -/

/-- Who offends does not depend on noting. -/
theorem offends_noted_iff {j : Nat} :
    Offends (noted endpoints) replies j err ↔ Offends endpoints replies j err := by
  constructor
  · intro h
    cases h with
    | silent he hreply =>
      rw [noted, List.getElem?_mapIdx] at he
      obtain ⟨e, hnode, rfl⟩ := Option.map_eq_some_iff.mp he
      exact .silent hnode hreply
    | differs hfirst hreply hne => exact .differs hfirst hreply hne
  · intro h
    cases h with
    | @silent e cause he hreply =>
      exact .silent (e := e.noting j) (by rw [noted, List.getElem?_mapIdx, he, Option.map_some])
        hreply
    | differs hfirst hreply hne => exact .differs hfirst hreply hne

/-- The first nodes are noted by themselves. -/
theorem take_noted (k : Nat) (endpoints : List (ChainEndpoint σ)) :
    (noted endpoints).take k = noted (endpoints.take k) := by
  refine List.ext_getElem? fun i => ?_
  rw [noted, noted, List.getElem?_mapIdx, List.getElem?_take, List.getElem?_take,
    List.getElem?_mapIdx]
  split <;> rfl

theorem run_answers_noted (endpoints : List (ChainEndpoint σ)) (s : σ) :
    (answers (noted endpoints)).run (s, []) =
      (((answers endpoints).run s).1,
        (((answers endpoints).run s).2, List.range endpoints.length)) := by
  have hrun := run_answers_noting (rfl : (answers endpoints).run s = _) 0 []
  simp only [Nat.zero_add, List.nil_append, ← List.range_eq_range'] at hrun
  exact hrun

/-- How the check goes does not depend on noting. -/
theorem Course.forget {out : Except NetworkError (Option ChainId) × σ × List Nat}
    (h : Course (noted endpoints) replies (s, []) out) :
    Course endpoints replies s (out.1, out.2.1) := by
  cases h with
  | empty hnil => exact .empty (List.mapIdx_eq_nil_iff.mp hnil)
  | agreed hne hreplies =>
    rw [run_answers_noted]
    exact .agreed (mt List.mapIdx_eq_nil_iff.mpr hne) hreplies
  | stopped hoffends hclean =>
    rw [take_noted, run_answers_noted]
    exact .stopped (offends_noted_iff.mp hoffends) fun i hi err hi' =>
      hclean i hi err (offends_noted_iff.mpr hi')

/-- Nodes answer and are found at the same places. -/
theorem Offends.lt_length {j : Nat} (h : Offends endpoints replies j err) : j < replies.length := by
  cases h with
  | silent _ hreply => exact (List.getElem?_eq_some_iff.mp hreply).1
  | differs _ hreply _ => exact (List.getElem?_eq_some_iff.mp hreply).1

/-- **A check reports the first offence and asks nobody after it.**  Without nodes there is no chain
and nobody is asked.  If some node offends, the check fails with the offence of the first that does,
and the nodes up to that one were asked, once each and in order; otherwise all nodes were, and the
chain they all name is the answer. -/
theorem checkConsistency_first_offence (endpoints : List (ChainEndpoint σ)) (s : σ) :
    let replies := ((answers endpoints).run s).1
    let run := (checkConsistency (noted endpoints)).run.run (s, [])
    (checkConsistency endpoints).run.run s = (run.1, run.2.1) ∧
    replies.length = endpoints.length ∧
    (endpoints = [] → run.1 = .ok none ∧ run.2.2 = []) ∧
    (∀ j err, Offends endpoints replies j err →
      (∀ i < j, ∀ err, ¬ Offends endpoints replies i err) →
        run.1 = .error err ∧ run.2.2 = List.range (j + 1)) ∧
    ((∀ j err, ¬ Offends endpoints replies j err) → endpoints ≠ [] →
      ∃ id, (∀ answer ∈ replies, answer = .ok id) ∧ run.1 = .ok (some id) ∧
        run.2.2 = List.range endpoints.length) := by
  intro replies run
  have hlength : replies.length = endpoints.length := length_answers rfl
  have hcourse : Course (noted endpoints) replies (s, []) run := by
    have hnoted := checkConsistency_course (noted endpoints) (s, [])
    rwa [run_answers_noted] at hnoted
  have hlengthNoted : replies.length = (noted endpoints).length :=
    hlength.trans List.length_mapIdx.symm
  refine ⟨?_, hlength, ?_, ?_, ?_⟩
  · exact (checkConsistency_course endpoints s).unique hlength hcourse.forget
  · rintro rfl
    exact ⟨rfl, rfl⟩
  · intro j err hoffends hclean
    have hrun := hcourse.eq_of_first hlengthNoted (offends_noted_iff.mpr hoffends)
      fun i hi err hi' => hclean i hi err (offends_noted_iff.mp hi')
    have hj : j + 1 ≤ endpoints.length := hlength ▸ hoffends.lt_length
    rw [take_noted, run_answers_noted, List.length_take, Nat.min_eq_left hj] at hrun
    rw [hrun]
    exact ⟨rfl, rfl⟩
  · intro hclean hne
    obtain ⟨id, hreplies, hrun⟩ := hcourse.exists_of_clean (mt List.mapIdx_eq_nil_iff.mp hne)
      fun j err hj => hclean j err (offends_noted_iff.mp hj)
    rw [run_answers_noted] at hrun
    rw [hrun]
    exact ⟨id, hreplies, rfl, rfl⟩

end Network

end AddressedStorage
