import Mathlib.Tactic.Common

namespace Conduit

structure Emitting (ω α : Type) where
  emitted : List ω
  /-- `none` if the computation gave up. -/
  value : Option α

namespace Emitting

variable {ω α β : Type}

def give (a : Option α) : Emitting ω α := ⟨[], a⟩

def require (p : Prop) [Decidable p] : Emitting ω Unit := give (if p then some () else none)

def emit (e : ω) (answer : Option α) : Emitting ω α := ⟨[e], answer⟩

instance : Monad (Emitting ω) where
  pure a := ⟨[], some a⟩
  bind m f :=
    { emitted := m.emitted ++ (m.value.elim [] fun a => (f a).emitted)
      value := m.value.bind fun a => (f a).value }

variable {m : Emitting ω α} {f : α → Emitting ω β}

lemma value_bind : (m >>= f).value = m.value.bind fun a => (f a).value := rfl

lemma bind_value {b : β} :
    (m >>= f).value = some b ↔ ∃ a, m.value = some a ∧ (f a).value = some b := by
  rw [value_bind, Option.bind_eq_some_iff]

variable {a : α} {e : ω} {p : Prop}

lemma emitted_bind (h : m.value = some a) : (m >>= f).emitted = m.emitted ++ (f a).emitted := by
  change m.emitted ++ (m.value.elim [] fun a => (f a).emitted) = _
  rw [h]
  rfl

@[simp] lemma value_pure : (pure a : Emitting ω α).value = some a := rfl

@[simp] lemma emitted_pure : (pure a : Emitting ω α).emitted = [] := rfl

variable {a : Option α}

@[simp] lemma value_give : (give a : Emitting ω α).value = a := rfl

@[simp] lemma emitted_give : (give a : Emitting ω α).emitted = [] := rfl

@[simp] lemma value_emit : (emit e a).value = a := rfl

@[simp] lemma emitted_emit : (emit e a).emitted = [e] := rfl

@[simp] lemma emitted_require [Decidable p] : (require p : Emitting ω Unit).emitted = [] := rfl

@[simp] lemma value_require [Decidable p] {u : Unit} :
    (require p : Emitting ω Unit).value = some u ↔ p := by
  unfold require
  by_cases hp : p <;> simp [hp]

end Emitting

end Conduit
