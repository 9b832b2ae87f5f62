/-!
# Two results side by side

Two computations of the same shape are compared step by step: `Paired E R` says that both fail, with
errors that `E` relates, or both succeed, with values that `R` relates. What follows a pair of
related steps keeps the two in line.
-/

namespace UsedCss

variable {ε ε' δ δ' α α' β β' : Type} {E : ε → ε' → Prop} {D : δ → δ' → Prop} {R : α → α' → Prop}
  {S : β → β' → Prop} {x : Except ε α} {y : Except ε' α'}

/-- Results that fail with related errors or succeed with related values. -/
inductive Paired (E : ε → ε' → Prop) (R : α → α' → Prop) : Except ε α → Except ε' α' → Prop
  | error {e e'} : E e e' → Paired E R (.error e) (.error e')
  | ok {a a'} : R a a' → Paired E R (.ok a) (.ok a')

namespace Paired

theorem mono (h : Paired E R x y) {E' : ε → ε' → Prop} {R' : α → α' → Prop}
    (hE : ∀ e e', E e e' → E' e e') (hR : ∀ a a', R a a' → R' a a') : Paired E' R' x y := by
  cases h with
  | error he => exact .error (hE _ _ he)
  | ok ha => exact .ok (hR _ _ ha)

/-- Related values are the values of the results. -/
theorem tagged (h : Paired E R x y) : Paired E (fun a a' => x = .ok a ∧ R a a') x y := by
  cases h with
  | error he => exact .error he
  | ok ha => exact .ok ⟨rfl, ha⟩

theorem swap (h : Paired E R x y) : Paired (fun e' e => E e e') (fun a' a => R a a') y x := by
  cases h with
  | error he => exact .error he
  | ok ha => exact .ok ha

theorem map (h : Paired E R x y) {f : α → β} {g : α' → β'} (hf : ∀ a a', R a a' → S (f a) (g a')) :
    Paired E S (x.map f) (y.map g) := by
  cases h with
  | error he => exact .error he
  | ok ha => exact .ok (hf _ _ ha)

theorem mapError (h : Paired E R x y) {f : ε → δ} {g : ε' → δ'}
    (hf : ∀ e e', E e e' → D (f e) (g e')) : Paired D R (x.mapError f) (y.mapError g) := by
  cases h with
  | error he => exact .error (hf _ _ he)
  | ok ha => exact .ok ha

theorem bind (h : Paired E R x y) {f : α → Except ε β} {g : α' → Except ε' β'}
    (hf : ∀ a a', R a a' → Paired E S (f a) (g a')) : Paired E S (x.bind f) (y.bind g) := by
  cases h with
  | error he => exact .error he
  | ok ha => exact hf _ _ ha

/-- One fails if and only if the other does. -/
theorem exists_error_iff (h : Paired E R x y) : (∃ e, x = .error e) ↔ ∃ e, y = .error e := by
  cases h with
  | error _ => simp
  | ok _ => simp

theorem of_ok (h : Paired E R x y) {a : α} (hx : x = .ok a) : ∃ a', y = .ok a' ∧ R a a' := by
  cases h with
  | error _ => cases hx
  | ok ha =>
    cases hx
    exact ⟨_, rfl, ha⟩

/-- Results with equal errors fail with the same one. -/
theorem error_iff {y : Except ε α'} (h : Paired Eq R x y) (e : ε) : x = .error e ↔ y = .error e := by
  cases h with
  | error he => simp [he]
  | ok _ => simp

theorem eq {y : Except ε α} (h : Paired Eq Eq x y) : x = y := by
  cases h with
  | error he => rw [he]
  | ok ha => rw [ha]

theorem refl {x : Except ε α} {R : α → α → Prop} (hR : ∀ a, R a a) : Paired Eq R x x := by
  cases x with
  | error _ => exact .error rfl
  | ok a => exact .ok (hR a)

end Paired

end UsedCss
