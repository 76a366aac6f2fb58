import AddressedStorage.Proofs.Provider.Action

/-!
# Proofs/Provider/Related — two runs side by side

Two steps on two kinds of state are **related** if they lead from related states to related states,
and there both answer or both fail (`Related`).  What may differ in the answers and in the errors is
a parameter.  Relations are proved along the steps: one rule for each way they are put together.
-/

namespace AddressedStorage

variable {ε δ σ τ α β α' β' : Type}

/-- Two results that are alike: two answers, or two failures. -/
inductive Alike (E : ε → δ → Prop) (Q : α → β → Prop) : Except ε α → Except δ β → Prop where
  | ok {a : α} {b : β} (h : Q a b) : Alike E Q (.ok a) (.ok b)
  | error {e : ε} {d : δ} (h : E e d) : Alike E Q (.error e) (.error d)

namespace Alike

variable {E E' : ε → δ → Prop} {Q Q' : α → β → Prop}

theorem mono {x : Except ε α} {y : Except δ β} (h : Alike E Q x y) (hE : ∀ e d, E e d → E' e d)
    (hQ : ∀ a b, Q a b → Q' a b) : Alike E' Q' x y := by
  cases h with
  | ok h => exact .ok (hQ _ _ h)
  | error h => exact .error (hE _ _ h)

theorem refl {E : ε → ε → Prop} {Q : α → α → Prop} (hE : ∀ e, E e e) (hQ : ∀ a, Q a a)
    (x : Except ε α) : Alike E Q x x := by
  cases x with
  | ok a => exact .ok (hQ a)
  | error e => exact .error (hE e)

theorem bind {x : Except ε α} {y : Except δ β} {f : α → Except ε α'} {g : β → Except δ β'}
    {T : α' → β' → Prop} (h : Alike E Q x y) (hfg : ∀ a b, Q a b → Alike E T (f a) (g b)) :
    Alike E T (x >>= f) (y >>= g) := by
  cases h with
  | ok h => exact hfg _ _ h
  | error h => exact .error h

/-- Where nothing may differ, nothing does. -/
theorem eq {x y : Except ε α} (h : Alike Eq Eq x y) : x = y := by
  cases h with
  | ok h => exact congrArg _ h
  | error h => exact congrArg _ h

end Alike

/-- From related states the steps lead to like results and related states. -/
def Related (R : σ → τ → Prop) (E : ε → δ → Prop) (Q : α → β → Prop)
    (x : ExceptT ε (StateM σ) α) (y : ExceptT δ (StateM τ) β) : Prop :=
  ∀ s t, R s t → Alike E Q (x.run.run s).1 (y.run.run t).1 ∧ R (x.run.run s).2 (y.run.run t).2

namespace Related

variable {R : σ → τ → Prop} {E E' : ε → δ → Prop} {Q : α → β → Prop} {Q' : α' → β' → Prop}

theorem ret {a : α} {b : β} (h : Q a b) :
    Related R E Q (pure a : ExceptT ε (StateM σ) α) (pure b : ExceptT δ (StateM τ) β) :=
  fun _ _ hR => ⟨.ok h, hR⟩

theorem fail {e : ε} {d : δ} (h : E e d) :
    Related R E Q (throw e : ExceptT ε (StateM σ) α) (throw d : ExceptT δ (StateM τ) β) :=
  fun _ _ hR => ⟨.error h, hR⟩

/-- Results that are there at once. -/
theorem judged {x : Except ε α} {y : Except δ β} (h : Alike E Q x y) :
    Related R E Q (ExceptT.mk (pure x) : ExceptT ε (StateM σ) α) (ExceptT.mk (pure y)) :=
  fun _ _ hR => ⟨h, hR⟩

theorem ofExcept {E : ProviderError → ProviderError → Prop} {x : Except ProviderError α}
    {y : Except ProviderError β} (h : Alike E Q x y) :
    Related R E Q (Action.ofExcept x : Action σ α) (Action.ofExcept y : Action τ β) :=
  judged h

theorem mono {x : ExceptT ε (StateM σ) α} {y : ExceptT δ (StateM τ) β} (h : Related R E Q x y)
    (hE : ∀ e d, E e d → E' e d) : Related R E' Q x y :=
  fun s t hR => ⟨(h s t hR).1.mono hE fun _ _ => id, (h s t hR).2⟩

theorem bind {x : ExceptT ε (StateM σ) α} {y : ExceptT δ (StateM τ) β}
    {f : α → ExceptT ε (StateM σ) α'} {g : β → ExceptT δ (StateM τ) β'} (hxy : Related R E Q x y)
    (hfg : ∀ a b, Q a b → Related R E Q' (f a) (g b)) : Related R E Q' (x >>= f) (y >>= g) := by
  intro s t hR
  have hstep := hxy s t hR
  rw [run_bind, run_bind]
  revert hstep
  rcases x.run.run s with ⟨e | a, s'⟩ <;> rcases y.run.run t with ⟨d | b, t'⟩ <;>
    rintro ⟨hresult, hstate⟩
  · cases hresult with
    | error h => exact ⟨.error h, hstate⟩
  · cases hresult
  · cases hresult
  · cases hresult with
    | ok h => exact hfg a b h s' t' hstate

/-- Errors that are told in other words. -/
theorem adapt {ε' δ' : Type} {E' : ε' → δ' → Prop} {x : ExceptT ε (StateM σ) α}
    {y : ExceptT δ (StateM τ) β} {f : ε → ε'} {g : δ → δ'} (h : Related R E Q x y)
    (hE : ∀ e d, E e d → E' (f e) (g d)) :
    Related R E' Q (ExceptT.adapt f x) (ExceptT.adapt g y) := by
  intro s t hR
  have hrun : ∀ {σ ε ε' α : Type} (f : ε → ε') (x : ExceptT ε (StateM σ) α) (s : σ),
      (ExceptT.adapt f x).run.run s = ((x.run.run s).1.mapError f, (x.run.run s).2) :=
    fun _ _ _ => rfl
  obtain ⟨hresult, hstate⟩ := h s t hR
  rw [hrun, hrun]
  refine ⟨?_, hstate⟩
  generalize (x.run.run s).1 = result, (y.run.run t).1 = other at hresult
  cases hresult with
  | ok h => exact .ok h
  | error h => exact .error (hE _ _ h)

/-- Two rows of related steps. -/
theorem mapM {S : α → β → Prop} {T : α' → β' → Prop} {f : α → StateM σ α'} {g : β → StateM τ β'}
    (hfg : ∀ a b, S a b → ∀ s t, R s t →
      T ((f a).run s).1 ((g b).run t).1 ∧ R ((f a).run s).2 ((g b).run t).2)
    {xs : List α} {ys : List β} (h : List.Forall₂ S xs ys) {s : σ} {t : τ} (hR : R s t) :
    List.Forall₂ T ((xs.mapM f).run s).1 ((ys.mapM g).run t).1 ∧
      R ((xs.mapM f).run s).2 ((ys.mapM g).run t).2 := by
  induction h generalizing s t with
  | nil => exact ⟨.nil, hR⟩
  | @cons a b xs ys hab _ ih =>
    obtain ⟨hhead, hnext⟩ := hfg a b hab s t hR
    obtain ⟨htail, hend⟩ := ih hnext
    rw [List.mapM_cons, List.mapM_cons]
    exact ⟨.cons hhead htail, hend⟩

end Related

/-! ## Steps that cannot fail -/

/-- From related states the steps lead to related answers and related states. -/
def Paired (R : σ → τ → Prop) (T : α → β → Prop) (x : StateM σ α) (y : StateM τ β) : Prop :=
  ∀ s t, R s t → T (x.run s).1 (y.run t).1 ∧ R (x.run s).2 (y.run t).2

namespace Paired

variable {R : σ → τ → Prop} {T : α → β → Prop} {T' : α' → β' → Prop} {x : StateM σ α}
  {y : StateM τ β}

theorem ret {a : α} {b : β} (h : T a b) :
    Paired R T (pure a : StateM σ α) (pure b : StateM τ β) := fun _ _ hR => ⟨h, hR⟩

theorem bind {f : α → StateM σ α'} {g : β → StateM τ β'} (hxy : Paired R T x y)
    (hfg : ∀ a b, T a b → Paired R T' (f a) (g b)) : Paired R T' (x >>= f) (y >>= g) :=
  fun s t hR => hfg _ _ (hxy s t hR).1 _ _ (hxy s t hR).2

/-- What follows such a step may fail. -/
theorem bindLift {E : ε → δ → Prop} {f : α → ExceptT ε (StateM σ) α'}
    {g : β → ExceptT δ (StateM τ) β'} (hxy : Paired R T x y)
    (hfg : ∀ a b, T a b → Related R E T' (f a) (g b)) :
    Related R E T' ((liftM x : ExceptT ε (StateM σ) α) >>= f)
      ((liftM y : ExceptT δ (StateM τ) β) >>= g) :=
  Paired.bind hxy hfg

end Paired

end AddressedStorage
