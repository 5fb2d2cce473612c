import Mathlib.Data.List.Forall2

namespace TypedLogging.Outcome

variable {ε ζ α β γ δ : Type}

theorem bind_eq_ok {x : Except ε α} {f : α → Except ε β} {b : β} :
    (x >>= f) = .ok b ↔ ∃ a, x = .ok a ∧ f a = .ok b := by
  cases x with
  | error e => simp [bind, Except.bind]
  | ok a => simp [bind, Except.bind]

theorem bind_eq_error {x : Except ε α} {f : α → Except ε β} {e : ε} :
    (x >>= f) = .error e ↔ x = .error e ∨ ∃ a, x = .ok a ∧ f a = .error e := by
  cases x with
  | error e' => simp [bind, Except.bind]
  | ok a => simp [bind, Except.bind]

theorem exists_eq_ok_of_isOk {x : Except ε α} (h : x.isOk = true) : ∃ a, x = .ok a := by
  cases x with
  | error e => cases h
  | ok a => exact ⟨a, rfl⟩

theorem pure_eq_ok {a b : α} : (pure a : Except ε α) = .ok b ↔ a = b := by
  simp [pure, Except.pure]

theorem map_eq_ok {x : Except ε α} {f : α → β} {b : β} :
    f <$> x = .ok b ↔ ∃ a, x = .ok a ∧ b = f a := by
  cases x with
  | error e => simp [Functor.map, Except.map]
  | ok a => simp [Functor.map, Except.map, eq_comm]

theorem map_eq_error {x : Except ε α} {f : α → β} {e : ε} : f <$> x = .error e ↔ x = .error e := by
  cases x <;> simp [Functor.map, Except.map]

theorem forall₂_of_mapM_eq_ok {f : α → Except ε β} {xs : List α} {ys : List β}
    (h : xs.mapM f = .ok ys) : List.Forall₂ (fun x y => f x = .ok y) xs ys := by
  induction xs generalizing ys with
  | nil =>
      rw [List.mapM_nil, pure_eq_ok] at h
      rw [← h]
      exact .nil
  | cons x rest ih =>
      rw [List.mapM_cons, bind_eq_ok] at h
      obtain ⟨y, hy, h⟩ := h
      obtain ⟨rest', hrest, h⟩ := bind_eq_ok.mp h
      rw [← pure_eq_ok.mp h]
      exact .cons hy (ih hrest)

theorem exists_mem_of_forall₂ {R : α → β → Prop} {xs : List α} {ys : List β} {y : β}
    (h : List.Forall₂ R xs ys) (hy : y ∈ ys) : ∃ x ∈ xs, R x y := by
  induction h with
  | nil => cases hy
  | cons hfirst _ ih =>
      rcases List.mem_cons.mp hy with rfl | hy
      · exact ⟨_, List.mem_cons_self, hfirst⟩
      · obtain ⟨x, hx, hrelated⟩ := ih hy
        exact ⟨x, List.mem_cons_of_mem _ hx, hrelated⟩

theorem length_of_mapM_eq_ok {f : α → Except ε β} {xs : List α} {ys : List β}
    (h : xs.mapM f = .ok ys) : ys.length = xs.length :=
  (forall₂_of_mapM_eq_ok h).length_eq.symm

/-- A failure of the step, if there is one, satisfies `P`. -/
def Fails (P : ε → Prop) (x : Except ε α) : Prop := ∀ e, x = .error e → P e

namespace Fails

variable {P : ε → Prop}

theorem ok (a : α) : Fails P (.ok a : Except ε α) := nofun

theorem error {e : ε} (h : P e) : Fails P (.error e : Except ε α) := by
  rintro _ ⟨⟩
  exact h

theorem bind {x : Except ε α} {f : α → Except ε β} (hx : Fails P x) (hf : ∀ a, Fails P (f a)) :
    Fails P (x >>= f) := by
  intro e he
  rcases bind_eq_error.mp he with he | ⟨a, -, he⟩
  · exact hx e he
  · exact hf a e he

theorem mapM {f : α → Except ε β} (h : ∀ a, Fails P (f a)) (xs : List α) :
    Fails P (xs.mapM f) := by
  induction xs with
  | nil => exact ok []
  | cons x rest ih =>
      rw [List.mapM_cons]
      exact (h x).bind fun y => ih.bind fun ys => ok (y :: ys)

end Fails

/-- Both fail, with related errors, or both succeed, with related values. -/
inductive Related (errors : ε → ζ → Prop) (values : α → γ → Prop) : Except ε α → Except ζ γ → Prop
  | error {e : ε} {e' : ζ} (h : errors e e') : Related errors values (.error e) (.error e')
  | ok {a : α} {a' : γ} (h : values a a') : Related errors values (.ok a) (.ok a')

namespace Related

variable {errors : ε → ζ → Prop} {values : α → γ → Prop} {values' : β → δ → Prop}
  {x : Except ε α} {y : Except ζ γ}

theorem bind {f : α → Except ε β} {g : γ → Except ζ δ} (h : Related errors values x y)
    (hnext : ∀ a a', values a a' → Related errors values' (f a) (g a')) :
    Related errors values' (x >>= f) (y >>= g) := by
  cases h with
  | error h => exact .error h
  | ok h => exact hnext _ _ h

theorem of_eq_error {e : ε} (h : Related errors values x y) (he : x = .error e) :
    ∃ e', y = .error e' ∧ errors e e' := by
  cases h with
  | error h =>
      cases he
      exact ⟨_, rfl, h⟩
  | ok h => cases he

theorem of_eq_ok {a : α} (h : Related errors values x y) (ha : x = .ok a) :
    ∃ a', y = .ok a' ∧ values a a' := by
  cases h with
  | error h => cases ha
  | ok h =>
      cases ha
      exact ⟨_, rfl, h⟩

end Related

end TypedLogging.Outcome
