import Mathlib.Tactic.Common

namespace Conduit.Runs

variable {σ α : Type} {step : α → σ → σ → Prop}

inductive Run (step : α → σ → σ → Prop) : σ → List α → σ → Prop
  | nil (s : σ) : Run step s [] s
  | cons {a : α} {s t u : σ} {l : List α} (head : step a s t) (tail : Run step t l u) :
    Run step s (a :: l) u

lemma Run.append {s t u : σ} {l m : List α} (h₁ : Run step s l t) (h₂ : Run step t m u) :
    Run step s (l ++ m) u := by
  induction h₁ with
  | nil s => exact h₂
  | cons head tail ih => exact .cons head (ih h₂)

variable {l : List α} {s t : σ}

lemma Run.mono {step' : α → σ → σ → Prop} (hi : ∀ a s t, step a s t → step' a s t)
    (h : Run step s l t) : Run step' s l t := by
  induction h with
  | nil s => exact .nil s
  | cons head tail ih => exact .cons (hi _ _ _ head) ih

lemma Run.restrict {p : α → Prop} (h : Run step s l t) (hp : ∀ a ∈ l, p a) :
    Run (fun a s t => p a ∧ step a s t) s l t := by
  induction h with
  | nil s => exact .nil s
  | cons head tail ih =>
    exact .cons ⟨hp _ List.mem_cons_self, head⟩ (ih fun a ha => hp a (List.mem_cons_of_mem _ ha))

variable {I : σ → Prop}

lemma Run.invariant (hst : ∀ a s t, I s → step a s t → I t) (h : Run step s l t) (hs : I s) :
    I t := by
  induction h with
  | nil s => exact hs
  | cons head tail ih => exact ih (hst _ _ _ hs head)

lemma Run.related {R : σ → σ → Prop} (hr : ∀ s, I s → R s s)
    (ht : ∀ s t u, R s t → R t u → R s u) (hst : ∀ a s t, I s → step a s t → I t ∧ R s t)
    (h : Run step s l t) (hs : I s) : R s t := by
  induction h with
  | nil s => exact hr s hs
  | cons head tail ih =>
    obtain ⟨hI, hR⟩ := hst _ _ _ hs head
    exact ht _ _ _ hR (ih hI)

lemma Run.of_foldlM {act : σ → α → Option σ} (ha : ∀ a s t, act s a = some t → step a s t)
    (h : l.foldlM act s = some t) : Run step s l t := by
  induction l generalizing s with
  | nil =>
    obtain rfl := Option.some.inj h
    exact .nil s
  | cons a l ih =>
    obtain ⟨u, hu, hr⟩ := Option.bind_eq_some_iff.1 h
    exact .cons (ha a s u hu) (ih hr)

end Conduit.Runs
