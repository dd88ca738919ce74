import Mathlib.Data.List.Perm.Subperm

namespace Conduit.Tickets

variable {κ : Type} {claimed claimed' : κ → Prop} {held held' used : List κ} {k : κ}

structure Sound (claimed : κ → Prop) (held used : List κ) : Prop where
  unique : (held ++ used).Nodup
  claimed : ∀ k ∈ held ++ used, claimed k

lemma Sound.start (claimed : κ → Prop) : Sound claimed [] [] :=
  ⟨List.nodup_nil, fun _ h => absurd h List.not_mem_nil⟩

section

variable (h : Sound claimed held used)
include h

lemma Sound.claim (hn : ¬ claimed k) (hm : ∀ j, claimed j → claimed' j) (hk : claimed' k) :
    Sound claimed' (k :: held) used := by
  constructor
  · exact List.nodup_cons.2 ⟨fun hmem => hn (h.claimed k hmem), h.unique⟩
  · intro j hj
    rcases List.mem_cons.1 hj with rfl | hj
    · exact hk
    · exact hm j (h.claimed j hj)

lemma Sound.use (hpm : held.Perm (k :: held')) : Sound claimed held' (k :: used) := by
  have ha : (held ++ used).Perm (held' ++ k :: used) :=
    (hpm.append_right used).trans List.perm_middle.symm
  exact ⟨ha.nodup h.unique, fun j hj => h.claimed j (ha.mem_iff.2 hj)⟩

lemma Sound.lose (hs : held'.Subperm held) : Sound claimed held' used := by
  have ha : (held' ++ used).Subperm (held ++ used) := hs.append (List.Subperm.refl used)
  obtain ⟨l, hpm, hl⟩ := ha
  exact ⟨hpm.nodup (h.unique.sublist hl), fun j hj =>
    h.claimed j (hl.subset (hpm.mem_iff.2 hj))⟩

lemma Sound.used_nodup : used.Nodup :=
  (List.nodup_append.1 h.unique).2.1

end

end Conduit.Tickets
