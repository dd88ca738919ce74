import Mathlib.Data.List.Perm.Basic
import Mathlib.Data.List.Sort

namespace Conduit.Sequenced

open List Prod

variable {β : Type}

def inOrder (l : List (Int × β)) : List β :=
  (l.mergeSort fun a b => decide (a.1 ≤ b.1)).map Prod.snd

lemma pairwise_sorted (l : List (Int × β)) :
    (l.mergeSort fun a b => decide (a.1 ≤ b.1)).Pairwise fun a b => a.1 ≤ b.1 := by
  have h := @pairwise_mergeSort (Int × β) (fun a b => decide (a.1 ≤ b.1))
    (fun a b c hab hbc => by
      simp only [decide_eq_true_eq] at *
      exact le_trans hab hbc)
    (fun a b => by simpa using le_total a.1 b.1) l
  exact h.imp of_decide_eq_true

variable {l : List (Int × β)}

lemma eq_of_fst_eq (hnd : (l.map fst).Nodup) {a b : Int × β} (ha : a ∈ l) (hb : b ∈ l)
    (h : a.1 = b.1) : a = b :=
  inj_on_of_nodup_map hnd ha hb h

variable {l' : List (Int × β)}

lemma sorted_unique (hpm : l.Perm l') (hnd : (l.map fst).Nodup)
    (h : l.Pairwise fun a b => a.1 ≤ b.1) (h' : l'.Pairwise fun a b => a.1 ≤ b.1) : l = l' := by
  refine hpm.eq_of_pairwise (fun a b ha hb hab hba => ?_) h h'
  exact eq_of_fst_eq hnd ha (hpm.mem_iff.2 hb) (le_antisymm hab hba)

lemma inOrder_congr (hpm : l.Perm l') (hnd : (l.map fst).Nodup) : inOrder l = inOrder l' := by
  unfold inOrder
  congr 1
  have hs : ((l.mergeSort fun a b => decide (a.1 ≤ b.1)).map fst).Nodup :=
    ((mergeSort_perm l _).map fst).nodup_iff.2 hnd
  refine sorted_unique ?_ hs (pairwise_sorted l) (pairwise_sorted l')
  exact (mergeSort_perm l _).trans (hpm.trans (mergeSort_perm l' _).symm)

lemma inOrder_concat {x : Int × β} (hnd : (l.map fst).Nodup) (hlt : ∀ y ∈ l, y.1 < x.1) :
    inOrder (l ++ [x]) = inOrder l ++ [x.2] := by
  have hall : ((l ++ [x]).map fst).Nodup := by
    rw [map_append, nodup_append]
    refine ⟨hnd, nodup_singleton _, ?_⟩
    intro a ha b hb
    obtain ⟨y, hy, rfl⟩ := mem_map.1 ha
    obtain rfl : b = x.1 := by simpa using hb
    exact ne_of_lt (hlt y hy)
  have hm : ((l ++ [x]).mergeSort fun a b => decide (a.1 ≤ b.1)) =
      (l.mergeSort fun a b => decide (a.1 ≤ b.1)) ++ [x] := by
    have hpm := mergeSort_perm (l ++ [x]) fun a b => decide (a.1 ≤ b.1)
    refine sorted_unique ?_ ((hpm.map fst).nodup_iff.2 hall) (pairwise_sorted _) ?_
    · exact hpm.trans ((mergeSort_perm l _).symm.append_right [x])
    · rw [pairwise_append]
      refine ⟨pairwise_sorted l, pairwise_singleton _ _, ?_⟩
      intro a ha b hb
      obtain rfl := mem_singleton.1 hb
      exact le_of_lt (hlt a (mem_mergeSort.1 ha))
  unfold inOrder
  rw [hm, map_append, map_singleton]

end Conduit.Sequenced
