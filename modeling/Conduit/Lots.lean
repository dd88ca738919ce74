import Mathlib.Algebra.Order.Group.Int
import Mathlib.Data.List.Basic

namespace Conduit.Lots

variable {κ : Type}

/-- What stands under the keys of `old` has not grown. -/
def Stems (fresh : κ → Prop) (old new : List (κ × Int)) : Prop :=
  ∀ k q, (k, q) ∈ new → (∃ p, (k, p) ∈ old ∧ q ≤ p) ∨ fresh k

variable {fresh fresh' : κ → Prop} {a b c : List (κ × Int)}

lemma Stems.of_subset (h : b ⊆ a) : Stems fresh a b :=
  fun _ q hq => .inl ⟨q, h hq, le_refl q⟩

lemma Stems.refl (a : List (κ × Int)) : Stems fresh a a := .of_subset (List.Subset.refl a)

lemma Stems.trans (hab : Stems fresh a b) (hbc : Stems fresh' b c)
    (hm : ∀ k, fresh' k → fresh k) : Stems fresh a c := by
  intro k q hq
  rcases hbc k q hq with ⟨p, hp, hqp⟩ | hf
  · rcases hab k p hp with ⟨r, hr, hpr⟩ | hf
    · exact .inl ⟨r, hr, hqp.trans hpr⟩
    · exact .inr hf
  · exact .inr (hm k hf)

variable {keys : List κ} {k : κ}

lemma Stems.gone (h : Stems fresh a b) (hk : ¬ fresh k) (ha : ∀ q, (k, q) ∉ a) :
    ∀ q, (k, q) ∉ b := by
  intro q hq
  rcases h k q hq with ⟨p, hp, -⟩ | hf
  · exact ha p hp
  · exact hk hf

lemma Stems.bounded (h : Stems fresh a b) {q : Int} (hk : ¬ fresh k) (hq : (k, q) ∈ b) :
    ∃ p, (k, p) ∈ a ∧ q ≤ p :=
  (h k q hq).resolve_right hk

variable [DecidableEq κ]

def without (keys : List κ) (lots : List (κ × Int)) : List (κ × Int) :=
  lots.filter fun lot => decide (lot.1 ∉ keys)

lemma mem_without {lot : κ × Int} : lot ∈ without keys a ↔ lot ∈ a ∧ lot.1 ∉ keys := by
  simp [without]

lemma without_append (keys : List κ) : without keys (a ++ b) =
    without keys a ++ without keys b := by
  simp [without]

lemma without_without (keys keys' : List κ) :
    without keys' (without keys a) = without (keys ++ keys') a := by
  simp only [without, List.filter_filter]
  simp [List.mem_append, not_or, Bool.and_comm]

lemma without_eq_self (h : ∀ lot ∈ a, lot.1 ∉ keys) : without keys a = a := by
  apply List.filter_eq_self.2
  intro lot hl
  simpa using h lot hl

end Conduit.Lots
