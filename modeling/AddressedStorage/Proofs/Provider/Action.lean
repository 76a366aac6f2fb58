import AddressedStorage.Provider.Backend
import AddressedStorage.Proofs.Except
import Mathlib.Data.List.Forall2

/-!
# Proofs/Provider/Action — what a step preserves and what its answers satisfy

A step that fails keeps the state it reached, so a predicate of the state is **preserved** by a step
only if it holds afterwards in either case (`Preserves`).  What holds of its answers is **ensured**
(`Ensures`).  Both are proved along the step: one rule for each way it is put together.
-/

namespace AddressedStorage

variable {ε σ α β : Type}

/-- A step that goes on after one that cannot fail. -/
theorem runState_bind {x : StateM σ α} {f : α → StateM σ β} {s t : σ} {a : α}
    (h : x.run s = (a, t)) : (x >>= f).run s = (f a).run t := by
  rw [StateT.run_bind, h]
  rfl

/-- A step that goes on after another, if that did not fail. -/
theorem run_bind (x : ExceptT ε (StateM σ) α) (f : α → ExceptT ε (StateM σ) β) (s : σ) :
    (x >>= f).run.run s =
      match x.run.run s with
      | (.error e, t) => (.error e, t)
      | (.ok a, t) => (f a).run.run t := by
  rw [ExceptT.run_bind, StateT.run_bind]
  rcases x.run.run s with ⟨e | a, t⟩ <;> rfl

/-- A step that goes on after an answer. -/
theorem run_bind_of_ok {x : ExceptT ε (StateM σ) α} {f : α → ExceptT ε (StateM σ) β} {s t : σ}
    {a : α} (h : x.run.run s = (.ok a, t)) : (x >>= f).run.run s = (f a).run.run t := by
  rw [run_bind, h]

/-- An answer was given to an answer. -/
theorem exists_of_run_bind_ok {x : ExceptT ε (StateM σ) α} {f : α → ExceptT ε (StateM σ) β} {s : σ}
    {b : β} (h : ((x >>= f).run.run s).1 = .ok b) :
    ∃ a t, x.run.run s = (.ok a, t) ∧ ((f a).run.run t).1 = .ok b := by
  rw [run_bind] at h
  rcases hrun : x.run.run s with ⟨e | a, t⟩ <;> rw [hrun] at h
  · cases h
  · exact ⟨a, t, rfl, h⟩

/-- **Each step of a row is made in the state that those before it left.** -/
theorem getElem?_run_mapM (f : α → StateM σ β) (xs : List α) (s : σ) (i : Nat) :
    ((xs.mapM f).run s).1[i]? =
      xs[i]?.map fun a => ((f a).run (((xs.take i).mapM f).run s).2).1 := by
  induction xs generalizing s i with
  | nil => rfl
  | cons a xs ih =>
    rw [List.mapM_cons]
    cases i with
    | zero => rfl
    | succ i =>
      rw [List.take_succ_cons, List.mapM_cons, List.getElem?_cons_succ]
      exact ih ((f a).run s).2 i

/-- Steps of which none changes what another comes to, and two of which lead to one state in either
order. -/
structure Independent (f : α → StateM σ β) : Prop where
  result : ∀ i j, i ≠ j → ∀ s, ((f i).run ((f j).run s).2).1 = ((f i).run s).1
  state : ∀ i j, i ≠ j → ∀ s, ((f i).run ((f j).run s).2).2 = ((f j).run ((f i).run s).2).2

/-- Steps that keep to a place of their own each are independent. -/
theorem Independent.of_places {τ : α → Type} [DecidableEq α] {f : α → StateM (∀ i, τ i) β}
    (g : ∀ i, StateM (τ i) β)
    (h : ∀ i s, (f i).run s =
      (((g i).run (s i)).1, Function.update s i ((g i).run (s i)).2)) : Independent f where
  result i j hne s := by
    rw [h i, h j, h i]
    dsimp only
    rw [Function.update_of_ne hne]
  state i j hne s := by
    rw [h i, h j, h i, h j]
    dsimp only
    rw [Function.update_of_ne hne, Function.update_of_ne hne.symm, Function.update_comm hne]

/-- **Independent steps** come to the same in any order, and lead to one state. -/
theorem Independent.run_mapM_perm {f : α → StateM σ β} (h : Independent f) {l l' : List α}
    (hnodup : l.Nodup) (hperm : l.Perm l') (s : σ) :
    ((l.mapM f).run s).1.Perm ((l'.mapM f).run s).1 ∧
      ((l.mapM f).run s).2 = ((l'.mapM f).run s).2 := by
  have hcons : ∀ i (l : List α) s, (((i :: l).mapM f).run s) =
      (((f i).run s).1 :: ((l.mapM f).run ((f i).run s).2).1, ((l.mapM f).run ((f i).run s).2).2) := by
    intro i l s
    rw [List.mapM_cons]
    rfl
  induction hperm generalizing s with
  | nil => exact ⟨.refl _, rfl⟩
  | @cons i l l' _ ih =>
    rw [hcons, hcons]
    obtain ⟨hresults, hstate⟩ := ih (List.nodup_cons.mp hnodup).2 ((f i).run s).2
    exact ⟨hresults.cons _, hstate⟩
  | @swap i j l =>
    have hne : j ≠ i := fun heq => (List.nodup_cons.mp hnodup).1 (heq ▸ List.mem_cons_self)
    rw [hcons, hcons, hcons, hcons, h.result i j hne.symm, h.result j i hne, h.state j i hne]
    exact ⟨.swap _ _ _, rfl⟩
  | trans hperm _ ih ih' =>
    obtain ⟨hresults, hstate⟩ := ih hnodup s
    obtain ⟨hresults', hstate'⟩ := ih' (hperm.nodup_iff.mp hnodup) s
    exact ⟨hresults.trans hresults', hstate.trans hstate'⟩

theorem run_toV0 {cid key : Cid} (h : cid.toV0 = .ok key) (s : σ) :
    (Action.toV0 cid : Action σ Cid).run.run s = (.ok key, s) := by
  rw [Action.toV0, h]
  rfl

theorem run_contentCid {hash : HashFunction} {content : ByteArray} {key : Cid}
    (h : Dag.contentCid hash content = .ok key) (s : σ) :
    (Action.contentCid hash content : Action σ Cid).run.run s = (.ok key, s) := by
  rw [Action.contentCid, h]
  rfl

/-- A check after a check is one check. -/
theorem ofExcept_bind {x : Except ProviderError α} {f : α → Action σ β}
    {g : α → Except ProviderError β} (h : ∀ a, f a = Action.ofExcept (g a)) :
    Action.ofExcept x >>= f = Action.ofExcept (x >>= g) := by
  cases x with
  | error e => rfl
  | ok a => exact h a

theorem ofExcept_ok_bind (a : α) (f : α → Action σ β) : Action.ofExcept (.ok a) >>= f = f a := rfl

/-- What is paired with an element of the first list. -/
theorem exists_right_of_forall₂ {R : α → β → Prop} {xs : List α} {ys : List β}
    (h : List.Forall₂ R xs ys) : ∀ a ∈ xs, ∃ b ∈ ys, R a b := by
  induction h with
  | nil => exact List.forall_mem_nil _
  | @cons a b xs ys hab _ ih =>
    refine List.forall_mem_cons.mpr ⟨⟨b, List.mem_cons_self, hab⟩, fun a ha => ?_⟩
    obtain ⟨b, hb, hab⟩ := ih a ha
    exact ⟨b, List.mem_cons_of_mem _ hb, hab⟩

/-- What is paired with an element of the second list. -/
theorem exists_left_of_forall₂ {R : α → β → Prop} {xs : List α} {ys : List β}
    (h : List.Forall₂ R xs ys) : ∀ b ∈ ys, ∃ a ∈ xs, R a b :=
  exists_right_of_forall₂ h.flip

/-- The predicate holds after the step if it held before. -/
def Preserves (P : σ → Prop) (x : ExceptT ε (StateM σ) α) : Prop :=
  ∀ s, P s → P (x.run.run s).2

namespace Preserves

variable {P : σ → Prop}

theorem ret (a : α) : Preserves P (pure a : ExceptT ε (StateM σ) α) := fun _ h => h

theorem fail (e : ε) : Preserves P (throw e : ExceptT ε (StateM σ) α) := fun _ h => h

theorem ofExcept (x : Except ProviderError α) : Preserves P (Action.ofExcept x) := fun _ h => h

theorem read : Preserves P (get : ExceptT ε (StateM σ) σ) := fun _ h => h

theorem write {f : σ → σ} (hf : ∀ s, P s → P (f s)) :
    Preserves P (modify f : ExceptT ε (StateM σ) PUnit) := hf

theorem bind {x : ExceptT ε (StateM σ) α} {f : α → ExceptT ε (StateM σ) β} (hx : Preserves P x)
    (hf : ∀ a, Preserves P (f a)) : Preserves P (x >>= f) := by
  intro s hs
  have hmid := hx s hs
  rw [run_bind]
  rcases hrun : x.run.run s with ⟨e | a, t⟩ <;> rw [hrun] at hmid
  · exact hmid
  · exact hf a t hmid

/-- What follows a check may rely on it. -/
theorem ofExcept_bind {x : Except ProviderError α} {f : α → Action σ β}
    (hf : ∀ a, x = .ok a → Preserves P (f a)) : Preserves P (Action.ofExcept x >>= f) := by
  cases x with
  | ok a => exact hf a rfl
  | error e => exact fail e

/-- Steps one after the other, each of which preserves the predicate: every answer was given in a
state where it held. -/
theorem mapM {f : α → StateM σ β} (hf : ∀ a s, P s → P ((f a).run s).2) (xs : List α) (s : σ)
    (hs : P s) :
    List.Forall₂ (fun a b => ∃ t, P t ∧ ((f a).run t).1 = b) xs ((xs.mapM f).run s).1 ∧
      P ((xs.mapM f).run s).2 := by
  induction xs generalizing s with
  | nil => exact ⟨.nil, hs⟩
  | cons a xs ih =>
    obtain ⟨htail, hend⟩ := ih ((f a).run s).2 (hf a s hs)
    rw [List.mapM_cons]
    exact ⟨.cons ⟨s, hs, rfl⟩ htail, hend⟩

/-- Steps one after the other, one of which makes a predicate hold that all preserve. -/
theorem mapM_of_mem {Q : σ → Prop} {f : α → StateM σ β} (hP : ∀ a s, P s → P ((f a).run s).2)
    (hQ : ∀ a s, Q s → Q ((f a).run s).2) {xs : List α} {a : α} (ha : a ∈ xs)
    (hmakes : ∀ s, P s → Q ((f a).run s).2) (s : σ) (hs : P s) : Q ((xs.mapM f).run s).2 := by
  induction xs generalizing s with
  | nil => cases ha
  | cons b xs ih =>
    rw [List.mapM_cons]
    rcases List.mem_cons.mp ha with rfl | hmem
    · exact (mapM hQ xs _ (hmakes s hs)).2
    · exact ih hmem _ (hP b s hs)

end Preserves

/-- What every answer of the step satisfies. -/
def Ensures (Q : α → Prop) (x : ExceptT ε (StateM σ) α) : Prop :=
  ∀ s a, (x.run.run s).1 = .ok a → Q a

namespace Ensures

variable {Q : α → Prop} {R : β → Prop}

theorem ret {a : α} (h : Q a) : Ensures Q (pure a : ExceptT ε (StateM σ) α) :=
  fun _ _ hb => Except.ok.inj hb ▸ h

theorem any (x : ExceptT ε (StateM σ) α) : Ensures (fun _ => True) x := fun _ _ _ => trivial

theorem bind {x : ExceptT ε (StateM σ) α} {f : α → ExceptT ε (StateM σ) β} (hx : Ensures Q x)
    (hf : ∀ a, Q a → Ensures R (f a)) : Ensures R (x >>= f) := by
  intro s b hb
  rw [run_bind] at hb
  rcases hrun : x.run.run s with ⟨e | a, t⟩ <;> rw [hrun] at hb
  · cases hb
  · exact hf a (hx s a (congrArg Prod.fst hrun)) t b hb

end Ensures

/-! ## Backends -/

/-- The predicate holds after every call to the backend if it held before. -/
structure Backend.Preserves (P : σ → Prop) (b : Backend σ) : Prop where
  fetch : ∀ cid, AddressedStorage.Preserves P (b.fetch cid)
  upload : ∀ content name, AddressedStorage.Preserves P (b.upload content name)
  pin : ∀ cid, AddressedStorage.Preserves P (b.pin cid)

/-- Of nothing, nothing is lost. -/
theorem Backend.preserves_true (b : Backend σ) : b.Preserves fun _ => True where
  fetch _ _ _ := trivial
  upload _ _ _ _ := trivial
  pin _ _ _ := trivial

variable {τ : Type}

/-- A backend on a part of a state preserves there what it preserved by itself. -/
theorem Backend.Preserves.zoom {P : σ → Prop} {b : Backend σ} (h : b.Preserves P) {get : τ → σ}
    {put : σ → τ → τ} (hget : ∀ s x, get (put s x) = s) :
    (b.zoom get put).Preserves fun x => P (get x) where
  fetch cid x hx := by
    have hstep := h.fetch cid (get x) hx
    rwa [← hget ((b.fetch cid).run.run (get x)).2 x] at hstep
  upload content name x hx := by
    have hstep := h.upload content name (get x) hx
    rwa [← hget ((b.upload content name).run.run (get x)).2 x] at hstep
  pin cid x hx := by
    have hstep := h.pin cid (get x) hx
    rwa [← hget ((b.pin cid).run.run (get x)).2 x] at hstep

/-- A backend on a part does not reach what no write to the part changes. -/
theorem Backend.preserves_zoom {Q : τ → Prop} (b : Backend σ) {get : τ → σ} {put : σ → τ → τ}
    (hput : ∀ s x, Q x → Q (put s x)) : (b.zoom get put).Preserves Q where
  fetch cid x := hput ((b.fetch cid).run.run (get x)).2 x
  upload content name x := hput ((b.upload content name).run.run (get x)).2 x
  pin cid x := hput ((b.pin cid).run.run (get x)).2 x

end AddressedStorage
