import Conduit.Throwing

namespace Conduit.Agreement

open Throwing List

variable {ε σ φ : Type}

/-- A recorder of the facts that satisfy `F`. `I l s`: the state `s` holds the facts of `l`, newest
first. -/
structure Recorder (step : σ → φ → Except ε σ) (F admits : φ → Prop) (agrees : φ → φ → Prop)
    (I : List φ → σ → Prop) : Prop where
  symm : ∀ f g, agrees f g → agrees g f
  accepts : ∀ l s f, I l s → ((∃ t, step s f = .ok t) ↔ admits f ∧ ∀ g ∈ l, agrees f g)
  keeps : ∀ l s f t, I l s → F f → step s f = .ok t → I (f :: l) t

namespace Recorder

variable {step : σ → φ → Except ε σ} {F admits : φ → Prop} {agrees : φ → φ → Prop}
  {I : List φ → σ → Prop}

section

variable (hr : Recorder step F admits agrees I)
include hr

lemma run_keeps {l m : List φ} {s t : σ} (hs : I m s) (hF : ∀ f ∈ l, F f)
    (h : foldResult step s l = .ok t) : I (l.reverse ++ m) t := by
  induction l generalizing m s with
  | nil => exact Except.ok.inj h ▸ hs
  | cons f l ih =>
    obtain ⟨u, hu, h⟩ := foldResult_cons_ok.1 h
    have hI := ih (hr.keeps m s f u hs (hF f mem_cons_self) hu)
      (fun g hg => hF g (mem_cons_of_mem f hg)) h
    rw [reverse_cons, append_assoc]
    exact hI

lemma run_accepts {l m : List φ} {s : σ} (hs : I m s) (hF : ∀ f ∈ l, F f) :
    (∃ t, foldResult step s l = .ok t) ↔
      (∀ f ∈ l, admits f) ∧ l.Pairwise agrees ∧ ∀ f ∈ l, ∀ g ∈ m, agrees f g := by
  induction l generalizing m s with
  | nil => simp [foldResult]
  | cons f l ih =>
    have hsp : (∃ t, foldResult step s (f :: l) = .ok t) ↔
        ∃ u, step s f = .ok u ∧ ∃ t, foldResult step u l = .ok t := by
      simp only [foldResult_cons_ok]
      constructor
      · rintro ⟨t, u, hu, ht⟩
        exact ⟨u, hu, t, ht⟩
      · rintro ⟨u, hu, t, ht⟩
        exact ⟨t, u, hu, ht⟩
    have hf := hF f mem_cons_self
    have hl : ∀ g ∈ l, F g := fun g hg => hF g (mem_cons_of_mem f hg)
    rw [hsp, pairwise_cons, forall_mem_cons, forall_mem_cons]
    constructor
    · rintro ⟨u, hu, hre⟩
      obtain ⟨ha, hfm⟩ := (hr.accepts m s f hs).1 ⟨u, hu⟩
      obtain ⟨hres, hp, hlm⟩ := (ih (hr.keeps m s f u hs hf hu) hl).1 hre
      refine ⟨⟨ha, hres⟩, ⟨fun g hg => ?_, hp⟩, hfm, fun g hg k hk => ?_⟩
      · exact hr.symm g f (hlm g hg f mem_cons_self)
      · exact hlm g hg k (mem_cons_of_mem f hk)
    · rintro ⟨⟨ha, hres⟩, ⟨hfl, hp⟩, hfm, hlm⟩
      obtain ⟨u, hu⟩ := (hr.accepts m s f hs).2 ⟨ha, hfm⟩
      refine ⟨u, hu, (ih (hr.keeps m s f u hs hf hu) hl).2
        ⟨hres, hp, fun g hg k hk => ?_⟩⟩
      rcases mem_cons.1 hk with rfl | hk
      · exact hr.symm k g (hfl g hg)
      · exact hlm g hg k hk

lemma run_perm {l l' : List φ} {s t : σ} (hs : I [] s) (hF : ∀ f ∈ l, F f) (hp : l.Perm l')
    (h : foldResult step s l = .ok t) : ∃ t', foldResult step s l' = .ok t' := by
  obtain ⟨ha, hpa, -⟩ := (hr.run_accepts hs hF).1 ⟨t, h⟩
  refine (hr.run_accepts hs fun f hf => hF f (hp.mem_iff.2 hf)).2 ⟨fun f hf => ha f (hp.mem_iff.2 hf), ?_, by simp⟩
  exact hp.pairwise hpa fun hfg => hr.symm _ _ hfg

end

end Recorder

end Conduit.Agreement
