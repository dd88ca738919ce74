import Mathlib.Data.List.Nodup

namespace Conduit.Ancestry

open List

variable {α β κ : Type} {key : α → κ} {parents : α → List κ}

/-- The keys that the walk has entered, and the entries that it has left. -/
structure Visit (α κ : Type) where
  seen : List κ
  order : List α

inductive Descends (parents : α → List κ) (get : κ → Option α) (target : κ) : α → Prop
  | parent {a : α} (h : target ∈ parents a) : Descends parents get target a
  | step {a b : α} {p : κ} (hp : p ∈ parents a) (hget : get p = some b)
    (h : Descends parents get target b) : Descends parents get target a

structure Ranked (key : α → κ) (parents : α → List κ) (get : κ → Option α) (rank : α → Nat) :
    Prop where
  key_get : ∀ k a, get k = some a → key a = k
  parent : ∀ k a, get k = some a → ∀ p ∈ parents a, ∃ b, get p = some b ∧ rank b < rank a

def Topological (key : α → κ) (parents : α → List κ) (order : List α) : Prop :=
  ∀ l b r, order = l ++ b :: r → ∀ p ∈ parents b, p ∈ l.map key

lemma topological_nil : Topological key parents [] := by
  intro l b r h
  cases l <;> cases h

lemma Topological.concat {order : List α} {a : α} (h : Topological key parents order)
    (ha : ∀ p ∈ parents a, p ∈ order.map key) : Topological key parents (order ++ [a]) := by
  intro l b r heq p hp
  rcases eq_nil_or_concat r with rfl | ⟨r', c, rfl⟩
  · have hs := append_inj' heq rfl
    obtain rfl : a = b := singleton_inj.1 hs.2
    rw [← hs.1]
    exact ha p hp
  · rw [concat_eq_append, ← cons_append, ← append_assoc] at heq
    exact h l b r' (append_inj' heq rfl).1 p hp

structure Visit.Sound (key : α → κ) (parents : α → List κ) (get : κ → Option α)
    (pending : List κ) (v : Visit α κ) : Prop where
  seen_iff : ∀ k, k ∈ v.seen ↔ k ∈ v.order.map key ∨ k ∈ pending
  apart : ∀ k ∈ pending, k ∉ v.order.map key
  nodup : (v.order.map key).Nodup
  known : ∀ b ∈ v.order, get (key b) = some b
  topological : Topological key parents v.order

/-- What a walk adds to the order: `a` itself, and ancestors of `a` only. -/
structure Visit.Adds (of : α → Prop) (v v' : Visit α κ) : Prop where
  grows : ∃ new, v'.order = v.order ++ new ∧ ∀ b ∈ new, of b

section
variable {get : κ → Option α} {rank : α → Nat} {v v' v'' : Visit α κ} {of of' : α → Prop}

lemma Visit.Adds.refl : Visit.Adds of v v :=
  ⟨[], (append_nil _).symm, fun _ h => absurd h not_mem_nil⟩

lemma Visit.Adds.trans (h₁ : Visit.Adds of v v')
    (h₂ : Visit.Adds of v' v'') : Visit.Adds of v v'' := by
  obtain ⟨l, hl, hof⟩ := h₁.grows
  obtain ⟨m, hm, hof'⟩ := h₂.grows
  refine ⟨l ++ m, by rw [hm, hl, append_assoc], fun b hb => ?_⟩
  exact (mem_append.1 hb).elim (hof b) (hof' b)

lemma Visit.Adds.mono (h : Visit.Adds of v v') (hi : ∀ b, of b → of' b) : Visit.Adds of' v v' := by
  obtain ⟨l, hl, hof⟩ := h.grows
  exact ⟨l, hl, fun b hb => hi b (hof b hb)⟩

lemma Visit.Adds.mem (h : Visit.Adds of v v') {k : κ}
    (hk : k ∈ v.order.map key) : k ∈ v'.order.map key := by
  obtain ⟨l, hl, -⟩ := h.grows
  rw [hl, map_append]
  exact mem_append_left _ hk

lemma foldlM_visit (of : α → Prop) {f : Visit α κ → κ → Option (Visit α κ)} {pend : List κ}
    {l : List κ} (hs : ∀ p ∈ l, ∀ v, v.Sound key parents get pend → ∃ v', f v p = some v' ∧
      v'.Sound key parents get pend ∧ Visit.Adds of v v' ∧
      p ∈ v'.order.map key) (hv : v.Sound key parents get pend) :
    ∃ v', l.foldlM f v = some v' ∧ v'.Sound key parents get pend ∧
      Visit.Adds of v v' ∧ ∀ p ∈ l, p ∈ v'.order.map key := by
  induction l generalizing v with
  | nil => exact ⟨v, rfl, hv, .refl, fun _ h => absurd h not_mem_nil⟩
  | cons p l ih =>
    obtain ⟨w, hw, hsnd, ha, hm⟩ := hs p mem_cons_self v hv
    obtain ⟨v', hv', hsnd', ha', hm'⟩ :=
      ih (fun q hq => hs q (mem_cons_of_mem _ hq)) hsnd
    refine ⟨v', ?_, hsnd', ha.trans ha', fun q hq => ?_⟩
    · rw [foldlM_cons, hw]
      exact hv'
    · exact (mem_cons.1 hq).elim (fun h => h ▸ ha'.mem hm) (hm' q)

end

section
variable [DecidableEq κ] {get : κ → Option α} {rank : α → Nat} {v : Visit α κ}

/-- The walk from `a`; `none` where a parent is missing or the fuel runs out. -/
def visit (key : α → κ) (parents : α → List κ) (get : κ → Option α) :
    Nat → Visit α κ → α → Option (Visit α κ)
  | 0, _, _ => none
  | fuel + 1, v, a =>
    if key a ∈ v.seen then some v
    else do
      let v ← (parents a).foldlM
        (fun v p => do
          let b ← get p
          visit key parents get fuel v b)
        { v with seen := key a :: v.seen }
      return { v with order := v.order ++ [a] }

/-- Whether `target` is an ancestor of `a`. -/
def descendsFrom (parents : α → List κ) (get : κ → Option α) (target : κ) : Nat → α → Option Bool
  | 0, _ => none
  | fuel + 1, a =>
    (parents a).anyM fun p =>
      if p = target then some true
      else do
        let b ← get p
        descendsFrom parents get target fuel b

omit [DecidableEq κ] in
variable {fuel : Nat} {σ : Type} {a : α} {target : κ} {f : σ → Option Bool} {b : Bool}

lemma foldlM_some_mono {f g : σ → κ → Option σ} (h : ∀ s k t, f s k = some t → g s k = some t)
    {l : List κ} {s t : σ} (hf : l.foldlM f s = some t) : l.foldlM g s = some t := by
  induction l generalizing s with
  | nil => exact hf
  | cons k l ih =>
    rw [foldlM_cons] at hf ⊢
    obtain ⟨u, hu, hr⟩ := Option.bind_eq_some_iff.1 hf
    exact Option.bind_eq_some_iff.2 ⟨u, h _ _ _ hu, ih hr⟩

lemma visit_sound (hran : Ranked key parents get rank) (hg : get (key a) = some a)
    (hfuel : rank a < fuel) {pend : List κ}
    (hpe : ∀ k ∈ pend, ∀ b, get k = some b → rank a < rank b) (hv : v.Sound key parents get pend) :
    ∃ v', visit key parents get fuel v a = some v' ∧ v'.Sound key parents get pend ∧
      Visit.Adds (fun b => b = a ∨ Descends parents get (key b) a) v v' ∧
      key a ∈ v'.order.map key := by
  induction fuel generalizing a v pend with
  | zero => omega
  | succ fuel ih =>
    rw [visit]
    by_cases hse : key a ∈ v.seen
    · rw [if_pos hse]
      refine ⟨v, rfl, hv, .refl, ?_⟩
      refine ((hv.seen_iff _).1 hse).resolve_right fun hk => ?_
      exact absurd (hpe _ hk a hg) (Nat.lt_irrefl _)
    · have hn := not_or.1 (mt (hv.seen_iff _).2 hse)
      have he : Visit.Sound key parents get (key a :: pend)
          { v with seen := key a :: v.seen } := by
        refine ⟨fun k => ?_, fun k hk => ?_, hv.nodup, hv.known, hv.topological⟩
        · show k ∈ key a :: v.seen ↔ k ∈ v.order.map key ∨ k ∈ key a :: pend
          rw [mem_cons, mem_cons, hv.seen_iff]
          exact or_left_comm
        · exact (mem_cons.1 hk).elim (fun h => h ▸ hn.1) (hv.apart k)
      obtain ⟨w, hw, hs, ha, hpar⟩ := foldlM_visit
        (fun b => b = a ∨ Descends parents get (key b) a)
        (f := fun v p => do
          let b ← get p
          visit key parents get fuel v b)
        (l := parents a) (fun p hp u hu => by
          obtain ⟨b, hb, hr⟩ := hran.parent _ _ hg p hp
          obtain rfl := hran.key_get _ _ hb
          have hi : ∀ k ∈ key a :: pend, ∀ c, get k = some c → rank b < rank c := by
            intro k hk c hc
            rcases mem_cons.1 hk with rfl | hk
            · obtain rfl : a = c := Option.some.inj (hg.symm.trans hc)
              exact hr
            · exact Nat.lt_trans hr (hpe k hk c hc)
          obtain ⟨u', hu', hs, ha, hm⟩ := ih hb (by omega) hi hu
          refine ⟨u', by rw [hb]; exact hu', hs, ha.mono fun c hc => ?_, hm⟩
          rcases hc with rfl | hc
          · exact .inr (.parent hp)
          · exact .inr (.step hp hb hc)) he
      refine ⟨{ w with order := w.order ++ [a] }, by rw [if_neg hse, hw]; rfl, ?_, ?_, ?_⟩
      · have hf : key a ∉ w.order.map key := hs.apart _ mem_cons_self
        refine ⟨fun k => ?_, fun k hk => ?_, ?_, fun b hb => ?_, hs.topological.concat hpar⟩
        · show k ∈ w.seen ↔ k ∈ (w.order ++ [a]).map key ∨ k ∈ pend
          rw [hs.seen_iff, map_append, mem_append, mem_cons, map_singleton, mem_singleton, or_assoc]
        · show k ∉ (w.order ++ [a]).map key
          rw [map_append, mem_append, map_singleton, mem_singleton, not_or]
          refine ⟨hs.apart k (mem_cons_of_mem _ hk), fun h => ?_⟩
          exact hn.2 (h ▸ hk)
        · show ((w.order ++ [a]).map key).Nodup
          rw [map_append, map_singleton]
          refine nodup_append.2 ⟨hs.nodup, nodup_singleton _, fun k hk c hc => ?_⟩
          rw [mem_singleton] at hc
          exact fun h => hf (hc ▸ h ▸ hk)
        · rcases mem_append.1 hb with hb | hb
          · exact hs.known b hb
          · rw [mem_singleton] at hb
            rw [hb]
            exact hg
      · obtain ⟨new, hn, hof⟩ := ha.grows
        refine ⟨new ++ [a], ?_, fun b hb => ?_⟩
        · show w.order ++ [a] = v.order ++ (new ++ [a])
          rw [hn, append_assoc]
        · exact (mem_append.1 hb).elim (hof b) fun h => .inl (mem_singleton.1 h)
      · show key a ∈ (w.order ++ [a]).map key
        rw [map_append]
        exact mem_append_right _ mem_cons_self

variable {fuel' : Nat} {l : List σ}

lemma visit_mono {get : κ → Option α} (h : fuel ≤ fuel') {v v' : Visit α κ}
    (hv : visit key parents get fuel v a = some v') :
    visit key parents get fuel' v a = some v' := by
  induction fuel generalizing fuel' v v' a with
  | zero => cases hv
  | succ fuel ih =>
    obtain ⟨fuel', rfl⟩ : ∃ m, fuel' = m + 1 := ⟨fuel' - 1, by omega⟩
    rw [visit] at hv ⊢
    by_cases hs : key a ∈ v.seen
    · rwa [if_pos hs] at hv ⊢
    · rw [if_neg hs] at hv ⊢
      obtain ⟨w, hw, hd⟩ := Option.bind_eq_some_iff.1 hv
      refine Option.bind_eq_some_iff.2 ⟨w, foldlM_some_mono (fun u p u' hu => ?_) hw, hd⟩
      obtain ⟨b, hb, hvi⟩ := Option.bind_eq_some_iff.1 hu
      exact Option.bind_eq_some_iff.2 ⟨b, hb, ih (by omega) hvi⟩

/-- The answer of a search that ends: it is yes exactly where `p` holds. -/
def Decides (answer : Option Bool) (p : Prop) : Prop := ∃ b, answer = some b ∧ (b = true ↔ p)

omit [DecidableEq κ] in
lemma anyM_decides {p : σ → Prop} (h : ∀ k ∈ l, Decides (f k) (p k)) :
    Decides (l.anyM f) (∃ k ∈ l, p k) := by
  induction l with
  | nil => exact ⟨false, rfl, by simp⟩
  | cons k l ih =>
    obtain ⟨b, hb, hi⟩ := h k mem_cons_self
    obtain ⟨c, hc, hi'⟩ := ih fun m hm => h m (mem_cons_of_mem _ hm)
    rw [anyM, hb]
    cases b with
    | true => exact ⟨true, rfl, by simp [← hi]⟩
    | false =>
      have hk : ¬ p k := fun hp => Bool.false_ne_true (hi.2 hp)
      refine ⟨c, hc, hi'.trans ?_⟩
      simp [hk]

omit [DecidableEq κ] in
lemma anyM_some_mono {g : σ → Option Bool} (h : ∀ s b, f s = some b → g s = some b)
    (hf : l.anyM f = some b) : l.anyM g = some b := by
  induction l with
  | nil => exact hf
  | cons k l ih =>
    rw [anyM] at hf ⊢
    obtain ⟨c, hc, hr⟩ := Option.bind_eq_some_iff.1 hf
    refine Option.bind_eq_some_iff.2 ⟨c, h _ _ hc, ?_⟩
    cases c with
    | true => exact hr
    | false => exact ih hr

lemma descendsFrom_mono (h : fuel ≤ fuel') (hb : descendsFrom parents get target fuel a = some b) :
    descendsFrom parents get target fuel' a = some b := by
  induction fuel generalizing fuel' a b with
  | zero => cases hb
  | succ fuel ih =>
    obtain ⟨fuel', rfl⟩ : ∃ m, fuel' = m + 1 := ⟨fuel' - 1, by omega⟩
    refine anyM_some_mono (fun p c hc => ?_) hb
    split at hc
    · rw [if_pos ‹_›]
      exact hc
    · rw [if_neg ‹_›]
      obtain ⟨d, hd, hs⟩ := Option.bind_eq_some_iff.1 hc
      exact Option.bind_eq_some_iff.2 ⟨d, hd, ih (by omega) hs⟩

lemma descendsFrom_decides (hr : Ranked key parents get rank) {k : κ} (hg : get k = some a)
    (hfuel : rank a < fuel) :
    Decides (descendsFrom parents get target fuel a) (Descends parents get target a) := by
  induction fuel generalizing a k with
  | zero => omega
  | succ fuel ih =>
    obtain ⟨b, hb, hi⟩ := anyM_decides (l := parents a) (p := fun p => p = target ∨
        ∃ b, get p = some b ∧ Descends parents get target b)
      (f := fun p => if p = target then some true else do
        let b ← get p
        descendsFrom parents get target fuel b) fun p hp => by
      obtain ⟨b, hb, hrank⟩ := hr.parent _ _ hg p hp
      by_cases heq : p = target
      · exact ⟨true, if_pos heq, by simp [heq]⟩
      · obtain ⟨c, hc, hi⟩ := ih hb (by omega)
        refine ⟨c, by rw [if_neg heq, hb]; exact hc, hi.trans ?_⟩
        simp [heq, hb]
    refine ⟨b, hb, hi.trans ⟨?_, fun h => ?_⟩⟩
    · rintro ⟨p, hp, rfl | ⟨b, hb, h⟩⟩
      · exact .parent hp
      · exact .step hp hb h
    · cases h with
      | parent h => exact ⟨target, h, .inl rfl⟩
      | step hp hb h => exact ⟨_, hp, .inr ⟨_, hb, h⟩⟩

end

section
variable (key : α → κ) (parents : α → List κ) (get : κ → Option α) (f : α → β) (keyβ : β → κ)
  (parentsβ : β → List κ)

def Visit.map (f : α → β) (v : Visit α κ) : Visit β κ := ⟨v.seen, v.order.map f⟩

lemma foldlM_map_option {σ τ : Type} {m : σ → τ} {g : σ → κ → Option σ} {n : τ → κ → Option τ}
    (h : ∀ s k, n (m s) k = (g s k).map m) (l : List κ) (s : σ) :
    l.foldlM n (m s) = (l.foldlM g s).map m := by
  induction l generalizing s with
  | nil => rfl
  | cons k l ih =>
    rw [foldlM_cons, foldlM_cons, h]
    cases g s k with
    | none => rfl
    | some t => exact ih t

lemma visit_map [DecidableEq κ] (hk : ∀ a, keyβ (f a) = key a)
    (hp : ∀ a, parentsβ (f a) = parents a) (fuel : Nat) (v : Visit α κ) (a : α) :
    visit keyβ parentsβ (fun k => (get k).map f) fuel (v.map f) (f a) =
      (visit key parents get fuel v a).map (Visit.map f) := by
  induction fuel generalizing v a with
  | zero => rfl
  | succ fuel ih =>
    rw [visit, visit, hk, hp]
    by_cases hs : key a ∈ v.seen
    · rw [if_pos (show key a ∈ (v.map f).seen from hs), if_pos hs]
      rfl
    · rw [if_neg (show key a ∉ (v.map f).seen from hs), if_neg hs]
      have hf := foldlM_map_option (m := Visit.map f)
        (g := fun v p => do
          let b ← get p
          visit key parents get fuel v b)
        (n := fun v p => do
          let b ← (get p).map f
          visit keyβ parentsβ (fun k => (get k).map f) fuel v b)
        (fun u p => by
          cases get p with
          | none => rfl
          | some b => exact ih u b) (parents a) { v with seen := key a :: v.seen }
      have hsta : Visit.map f { v with seen := key a :: v.seen } =
          { v.map f with seen := key a :: (v.map f).seen } := rfl
      rw [← hsta, hf]
      cases (parents a).foldlM (fun v p => do
          let b ← get p
          visit key parents get fuel v b) { v with seen := key a :: v.seen } with
      | none => rfl
      | some w =>
        simp [Visit.map]

lemma descendsFrom_map [DecidableEq κ] (hp : ∀ a, parentsβ (f a) = parents a) (target : κ)
    (fuel : Nat) (a : α) : descendsFrom parentsβ (fun k => (get k).map f) target fuel (f a) =
      descendsFrom parents get target fuel a := by
  induction fuel generalizing a with
  | zero => rfl
  | succ fuel ih =>
    rw [descendsFrom, descendsFrom, hp]
    congr 1
    funext p
    split
    · rfl
    · cases get p with
      | none => rfl
      | some b => exact ih b

end

end Conduit.Ancestry
