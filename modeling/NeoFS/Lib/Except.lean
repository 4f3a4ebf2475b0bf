import Mathlib.Control.Basic

set_option autoImplicit false

/- Inversion rules for a run in the `Except` monad: a successful do block is walked one bind
   at a time, a successful `mapM` succeeded on every element, and a successful `foldlM` keeps
   what every one of its steps keeps. -/
namespace Lib.Except

variable {ε ε' α β : Type}

@[simp]
theorem ok_bind (a : α) (f : α → Except ε β) : (Except.ok a >>= f) = f a := rfl

@[simp]
theorem pure_eq_ok (a : α) : (pure a : Except ε α) = .ok a := rfl

@[simp]
theorem throw_eq_error (e : ε) : (throw e : Except ε α) = .error e := rfl

@[simp]
theorem ok_map_error (a : α) (f : ε → ε') : (Except.ok a : Except ε α).mapError f = .ok a := rfl

@[simp]
theorem error_map_error (e : ε) (f : ε → ε') : (Except.error e : Except ε α).mapError f = .error (f e) := rfl

@[simp]
theorem map_ok_eq (f : α → β) (a : α) : f <$> (Except.ok a : Except ε α) = .ok (f a) := rfl

theorem bind_ok {x : Except ε α} {f : α → Except ε β} {r : β} (ok : x.bind f = .ok r) :
    ∃ a, x = .ok a ∧ f a = .ok r := by
  cases x with
  | error e => cases ok
  | ok a => exact ⟨a, rfl, ok⟩

theorem guard_ok {c : Prop} [Decidable c] {e : ε} {u : Unit}
    (ok : (if c then throw e else pure () : Except ε Unit) = .ok u) : ¬ c := by
  intro holds
  rw [if_pos holds] at ok
  cases ok

theorem map_ok {x : Except ε α} {f : α → β} {r : β} (ok : x.map f = .ok r) : ∃ a, x = .ok a ∧ r = f a := by
  cases x with
  | error e => cases ok
  | ok a =>
      cases ok
      exact ⟨a, rfl, rfl⟩

theorem map_error_ok {x : Except ε α} {f : ε → ε'} {r : α} (ok : x.mapError f = .ok r) : x = .ok r := by
  cases x with
  | error e => cases ok
  | ok a =>
      cases ok
      rfl

theorem map_m_ok {f : α → Except ε β} {xs : List α} {ys : List β} (ok : xs.mapM f = .ok ys) :
    ∀ x ∈ xs, ∃ y, f x = .ok y := by
  induction xs generalizing ys with
  | nil => simp
  | cons x rest ih =>
      rw [List.mapM_cons] at ok
      obtain ⟨y, first, ok⟩ := bind_ok ok
      obtain ⟨ys', others, -⟩ := bind_ok ok
      intro x' mem
      rcases List.mem_cons.mp mem with rfl | later
      · exact ⟨y, first⟩
      · exact ih others x' later

-- The invariant rule of a fold: `P rest s` holds of the state before the elements `rest`.
theorem foldl_m_ok_invariant {σ : Type} {f : σ → α → Except ε σ} (P : List α → σ → Prop)
    (step : ∀ a rest s s', P (a :: rest) s → f s a = .ok s' → P rest s') :
    ∀ {xs : List α} {s r : σ}, P xs s → xs.foldlM f s = .ok r → P [] r := by
  intro xs
  induction xs with
  | nil =>
      intro s r holds ok
      cases ok
      exact holds
  | cons a rest ih =>
      intro s r holds ok
      rw [List.foldlM_cons] at ok
      obtain ⟨s', first, ok⟩ := bind_ok ok
      exact ih (step a rest s s' holds first) ok

theorem map_bind_of {α' β' : Type} {e : Except ε α} {k : α → Except ε β} {k' : α' → Except ε β'}
    (G : α → α') (H : β → β') (agree : ∀ a, (k a).map H = k' (G a)) :
    (e >>= k).map H = e.map G >>= k' := by
  cases e with
  | error err => rfl
  | ok a => exact agree a

theorem map_map_error (e : Except ε α) (G : α → β) (w : ε → ε') :
    (e.mapError w).map G = (e.map G).mapError w := by
  cases e <;> rfl

@[simp]
theorem map_id' (e : Except ε α) : e.map (fun a => a) = e := by
  cases e <;> rfl

end Lib.Except
