import Mathlib.Data.List.Perm.Basic
import Mathlib.Data.List.Induction
import Mathlib.Algebra.Order.Group.Int

namespace Conduit

open List

structure Reading (α ι : Type) where
  (id previousId : α → ι)
  (sequence time : α → Int)

namespace Reading

variable {α ι : Type} {R : Reading α ι} {root : ι} {start : Int} {l m : List α} {a : α}

/-- The entry that the next one has to name. -/
def lastId (R : Reading α ι) (root : ι) (l : List α) : ι := (l.getLast?.map R.id).getD root

def lastTime (R : Reading α ι) (start : Int) (l : List α) : Int :=
  (l.getLast?.map R.time).getD start

@[simp] lemma lastId_nil : R.lastId root [] = root := rfl

@[simp] lemma lastId_concat : R.lastId root (l ++ [a]) = R.id a := by
  simp [lastId]

@[simp] lemma lastTime_concat : R.lastTime start (l ++ [a]) = R.time a := by
  simp [lastTime]

/-- The entries are numbered from one, each names its predecessor, and time never goes back. -/
structure Chain (R : Reading α ι) (root : ι) (start : Int) (l : List α) : Prop where
  sequence : ∀ (i : Nat) (a : α), l[i]? = some a → R.sequence a = i + 1
  previousId : ∀ (i : Nat) (a : α), l[i]? = some a → R.previousId a = R.lastId root (l.take i)
  start : ∀ a ∈ l, start ≤ R.time a
  time : (l.map R.time).Pairwise (· ≤ ·)

lemma Chain.nil : R.Chain root start [] := by
  refine ⟨?_, ?_, ?_, Pairwise.nil⟩ <;> simp

section

variable (h : R.Chain root start l)
include h

lemma Chain.start_le : start ≤ R.lastTime start l := by
  rcases eq_nil_or_concat' l with rfl | ⟨l, a, rfl⟩
  · exact le_refl start
  · rw [lastTime_concat]
    exact h.start a (by simp)

lemma Chain.time_le (ha : a ∈ l) : R.time a ≤ R.lastTime start l := by
  rcases eq_nil_or_concat' l with rfl | ⟨l, b, rfl⟩
  · simp at ha
  · rw [lastTime_concat]
    have ht := h.time
    rw [map_append, pairwise_append] at ht
    rcases mem_append.1 ha with ha | ha
    · exact ht.2.2 _ (mem_map_of_mem ha) _ (by simp)
    · obtain rfl := mem_singleton.1 ha
      exact le_refl _

lemma Chain.concat (hs : R.sequence a = l.length + 1)
    (hp : R.previousId a = R.lastId root l) (hti : R.lastTime start l ≤ R.time a) :
    R.Chain root start (l ++ [a]) := by
  refine ⟨?_, ?_, ?_, ?_⟩
  · intro i b hb
    by_cases hi : i < l.length
    · rw [List.getElem?_append_left hi] at hb
      exact h.sequence i b hb
    · obtain ⟨rfl, rfl⟩ : i = l.length ∧ a = b := by
        rw [List.getElem?_append_right (by omega)] at hb
        have := (List.getElem?_eq_some_iff.1 hb).1
        simp only [length_singleton] at this
        have hil : i - l.length = 0 := by omega
        rw [hil] at hb
        exact ⟨by omega, Option.some.inj hb⟩
      exact hs
  · intro i b hb
    by_cases hi : i < l.length
    · rw [List.getElem?_append_left hi] at hb
      rw [take_append_of_le_length hi.le]
      exact h.previousId i b hb
    · have hl := (List.getElem?_eq_some_iff.1 hb).1
      obtain rfl : i = l.length := by
        simp only [length_append, length_singleton] at hl
        omega
      obtain rfl : a = b := by simpa using hb
      rw [take_left]
      exact hp
  · intro b hb
    rcases mem_append.1 hb with hb | hb
    · exact h.start b hb
    · obtain rfl := mem_singleton.1 hb
      exact h.start_le.trans hti
  · rw [map_append, pairwise_append]
    refine ⟨h.time, pairwise_singleton _ _, ?_⟩
    intro t ht u hu
    obtain ⟨b, hb, rfl⟩ := mem_map.1 ht
    obtain rfl : u = R.time a := by simpa using hu
    exact (h.time_le hb).trans hti

end

lemma Chain.of_append (h : R.Chain root start (l ++ m)) : R.Chain root start l := by
  have hg : ∀ (i : Nat) (b : α), l[i]? = some b → i < l.length ∧ (l ++ m)[i]? = some b := by
    intro i b hb
    have hi := (List.getElem?_eq_some_iff.1 hb).1
    exact ⟨hi, by rw [List.getElem?_append_left hi, hb]⟩
  refine ⟨fun i b hb => h.sequence i b (hg i b hb).2, ?_,
    fun b hb => h.start b (mem_append_left m hb), ?_⟩
  · intro i b hb
    obtain ⟨hi, hb'⟩ := hg i b hb
    rw [h.previousId i b hb', take_append_of_le_length hi.le]
  · have ht := h.time
    rw [map_append, pairwise_append] at ht
    exact ht.1

lemma Chain.last (h : R.Chain root start (l ++ [a])) :
    R.sequence a = l.length + 1 ∧ R.previousId a = R.lastId root l ∧
      R.lastTime start l ≤ R.time a := by
  have ha : (l ++ [a])[l.length]? = some a := by simp
  refine ⟨h.sequence _ a ha, ?_, ?_⟩
  · rw [h.previousId _ a ha, take_left]
  · rcases eq_nil_or_concat' l with rfl | ⟨l, b, rfl⟩
    · exact h.start a (by simp)
    · rw [lastTime_concat]
      have ht := h.time
      rw [map_append, pairwise_append] at ht
      exact ht.2.2 _ (mem_map_of_mem (by simp)) _ (by simp)

lemma Chain.sequence_lt (h : R.Chain root start l) :
    l.Pairwise fun a b => R.sequence a < R.sequence b := by
  rw [pairwise_iff_getElem]
  intro i j hi hj hij
  rw [h.sequence i _ (getElem?_eq_getElem hi), h.sequence j _ (getElem?_eq_getElem hj)]
  omega

lemma Chain.eq_of_lastId {start' : Int} (hl : R.Chain root start l) (hm : R.Chain root start' m)
    (hlen : l.length = m.length) (ha : ∀ a ∈ l, ∀ b ∈ m, R.id a = R.id b → a = b)
    (hla : R.lastId root l = R.lastId root m) : l = m := by
  induction l using reverseRecOn generalizing m with
  | nil => exact (eq_nil_of_length_eq_zero hlen.symm).symm
  | append_singleton l a ih =>
    rcases eq_nil_or_concat' m with rfl | ⟨m, b, rfl⟩
    · simp at hlen
    · rw [lastId_concat, lastId_concat] at hla
      obtain rfl : a = b := ha a (by simp) b (by simp) hla
      have hp : R.lastId root l = R.lastId root m :=
        hl.last.2.1.symm.trans hm.last.2.1
      have hs : l.length = m.length := by simpa using hlen
      rw [ih hl.of_append hm.of_append hs _ hp]
      intro x hx y hy hid
      exact ha x (mem_append_left _ hx) y (mem_append_left _ hy) hid

end Reading

end Conduit
