import Mathlib.Data.List.Forall2

/-! Outcomes of two runs, side by side: both fail or both succeed, and what they fail or succeed with
is related. -/
namespace Tabular

/-- Two outcomes with related errors or with related results. -/
inductive Except.Rel {ε ε' α β : Type} (E : ε → ε' → Prop) (R : α → β → Prop) :
    Except ε α → Except ε' β → Prop
  | error {e : ε} {e' : ε'} (h : E e e') : Rel E R (.error e) (.error e')
  | ok {a : α} {b : β} (h : R a b) : Rel E R (.ok a) (.ok b)

namespace Except.Rel
variable {ε ε' ε₁ ε₁' α α' β β' γ γ' : Type} {E : ε → ε' → Prop} {R : α → α' → Prop}
  {S : β → β' → Prop} {T : γ → γ' → Prop}

theorem bind {x : Except ε α} {y : Except ε' α'} {f : α → Except ε β} {g : α' → Except ε' β'}
    (h : Rel E R x y) (hf : ∀ a b, R a b → Rel E S (f a) (g b)) :
    Rel E S (x >>= f) (y >>= g) := by
  cases h with
  | error h => exact .error h
  | ok h => exact hf _ _ h

theorem map {x : Except ε α} {y : Except ε' α'} {f : α → β} {g : α' → β'} (h : Rel E R x y)
    (hf : ∀ a b, R a b → S (f a) (g b)) : Rel E S (f <$> x) (g <$> y) := by
  cases h with
  | error h => exact .error h
  | ok h => exact .ok (hf _ _ h)

theorem mapError {E' : ε₁ → ε₁' → Prop} {x : Except ε α} {y : Except ε' α'} {f : ε → ε₁}
    {g : ε' → ε₁'} (h : Rel E R x y) (hf : ∀ e e', E e e' → E' (f e) (g e')) :
    Rel E' R (x.mapError f) (y.mapError g) := by
  cases h with
  | error h => exact .error (hf _ _ h)
  | ok h => exact .ok h

theorem mapM {xs : List γ} {ys : List γ'} {f : γ → Except ε α} {g : γ' → Except ε' α'}
    (h : List.Forall₂ T xs ys) (hf : ∀ x y, T x y → Rel E R (f x) (g y)) :
    Rel E (List.Forall₂ R) (xs.mapM f) (ys.mapM g) := by
  induction h with
  | nil => exact .ok .nil
  | @cons x y xs ys hxy hrest ih =>
    rw [List.mapM_cons, List.mapM_cons]
    refine (hf x y hxy).bind fun a b hab => ih.bind fun as bs habs => ?_
    exact .ok (.cons hab habs)

/-- Related steps over related lists, each from where the one before it has led. -/
theorem foldlM {xs : List γ} {ys : List γ'} {f : α → γ → Except ε α} {g : α' → γ' → Except ε' α'}
    (h : List.Forall₂ T xs ys)
    (hf : ∀ a b x y, R a b → T x y → Rel E R (f a x) (g b y)) {a : α} {b : α'} (hab : R a b) :
    Rel E R (xs.foldlM f a) (ys.foldlM g b) := by
  induction h generalizing a b with
  | nil => exact .ok hab
  | @cons x y xs ys hxy hrest ih =>
    rw [List.foldlM_cons, List.foldlM_cons]
    exact (hf a b x y hab hxy).bind fun _ _ => ih

end Except.Rel

end Tabular
