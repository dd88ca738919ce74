import Conduit.Js.Text

namespace Conduit.Js

open List

/-- `parts.join(c)` on one character. -/
def joinWith (c : Char) : List Text → Text
  | [] => []
  | [part] => part
  | part :: next :: parts => part ++ c :: joinWith c (next :: parts)

variable {c d : Char} {s t : Text} {parts : List Text}

lemma split_ne_nil (c : Char) (s : Text) : split c s ≠ [] := by
  cases s with
  | nil => exact cons_ne_nil _ _
  | cons d s =>
    unfold split
    split
    · exact cons_ne_nil _ _
    · split <;> exact cons_ne_nil _ _

lemma split_of_not_mem (h : c ∉ s) : split c s = [s] := by
  induction s with
  | nil => rfl
  | cons d s ih =>
    obtain ⟨hcd, hs⟩ := not_or.1 (mt mem_cons.2 h)
    rw [split, if_neg (Ne.symm hcd), ih hs]

lemma split_append_cons (c : Char) (s t : Text) :
    split c (s ++ c :: t) = split c s ++ split c t := by
  induction s with
  | nil => simp only [nil_append, split, ↓reduceIte, cons_append]
  | cons d s ih =>
    by_cases hd : d = c
    · simp only [cons_append, split, if_pos hd, ih]
    · simp only [cons_append, split, if_neg hd, ih]
      cases hs : split c s with
      | nil => exact absurd hs (split_ne_nil c s)
      | cons part rest => rfl

lemma split_joinWith (h : parts ≠ []) : split c (joinWith c parts) = parts.flatMap (split c) := by
  induction parts with
  | nil => exact absurd rfl h
  | cons part parts ih =>
    cases parts with
    | nil => simp only [joinWith, flatMap_cons, flatMap_nil, append_nil]
    | cons next parts =>
      rw [joinWith, split_append_cons, ih (cons_ne_nil _ _)]
      rfl

lemma exists_mem_split (h : d ∈ s) (hne : d ≠ c) : ∃ part ∈ split c s, d ∈ part := by
  induction s with
  | nil => cases h
  | cons e s ih =>
    by_cases he : e = c
    · rw [split, if_pos he]
      have hs : d ∈ s := (mem_cons.1 h).resolve_left fun hde => hne (hde.trans he)
      obtain ⟨part, hp, hd⟩ := ih hs
      exact ⟨part, .tail _ hp, hd⟩
    · rw [split, if_neg he]
      cases hs : split c s with
      | nil => exact absurd hs (split_ne_nil c s)
      | cons first rest =>
        rw [hs] at ih
        rcases mem_cons.1 h with rfl | hm
        · exact ⟨d :: first, .head _, .head _⟩
        · obtain ⟨part, hp, hd⟩ := ih hm
          rcases mem_cons.1 hp with rfl | hr
          · exact ⟨e :: part, .head _, .tail _ hd⟩
          · exact ⟨part, .tail _ hr, hd⟩

end Conduit.Js
