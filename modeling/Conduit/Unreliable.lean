import Mathlib.Tactic.Common

namespace Conduit.Unreliable

inductive Fault where
  | none
  | throws
  | crash

inductive Ending (ε α : Type) where
  | returned (a : α)
  | thrown (e : ε)
  | crashed

def Faulty (σ ε α : Type) : Type := List Fault → σ → Ending ε α × σ × List Fault

variable {σ ε α β : Type}

namespace Faulty

def ret (a : α) : Faulty σ ε α := fun faults s => (.returned a, s, faults)

def throw (e : ε) : Faulty σ ε α := fun faults s => (.thrown e, s, faults)

def bind (m : Faulty σ ε α) (k : α → Faulty σ ε β) : Faulty σ ε β := fun faults s =>
  match m faults s with
  | (.returned a, t, rest) => k a rest t
  | (.thrown e, t, rest) => (.thrown e, t, rest)
  | (.crashed, t, rest) => (.crashed, t, rest)

instance : Monad (Faulty σ ε) where
  pure := ret
  bind := bind

variable (failure : ε)

/-- One access to the store, which throws `failure` when the store does. -/
def access (f : σ → α × σ) : Faulty σ ε α
  | [], s => (.returned (f s).1, (f s).2, [])
  | .none :: rest, s => (.returned (f s).1, (f s).2, rest)
  | .throws :: rest, s => (.thrown failure, s, rest)
  | .crash :: rest, s => (.crashed, s, rest)

def read (f : σ → α) : Faulty σ ε α := access failure fun s => (f s, s)

def write (g : σ → σ) : Faulty σ ε Unit := access failure fun s => ((), g s)

def ofResult : Except ε α → Faulty σ ε α
  | .ok a => ret a
  | .error e => throw e

/-- `if (bad) throw e`. -/
def rejectIf (bad : Prop) [Decidable bad] (e : ε) : Faulty σ ε Unit :=
  if bad then throw e else ret ()

/-- `try { return m } catch { return a }`. -/
def orElse (m : Faulty σ ε α) (a : α) : Faulty σ ε α := fun faults s =>
  match m faults s with
  | (.thrown _, t, rest) => (.returned a, t, rest)
  | other => other

end Faulty

open Faulty

/-- From `pre`, the computation returns with `post` or stops with `stop`. -/
def Triple (pre : σ → Prop) (m : Faulty σ ε α) (post : α → σ → Prop) (stop : σ → Prop) : Prop :=
  ∀ faults s, pre s → match m faults s with
    | (.returned a, t, _) => post a t
    | (.thrown _, t, _) => stop t
    | (.crashed, t, _) => stop t

section
variable {pre : σ → Prop} {m : Faulty σ ε α} {k : α → Faulty σ ε β} {post : α → σ → Prop}
  {mid : β → σ → Prop} {stop : σ → Prop} {failure e : ε} {a : α}

lemma Triple.ret (h : ∀ s, pre s → post a s) : Triple pre (Faulty.ret a : Faulty σ ε α) post stop :=
  fun _ s hs => h s hs

lemma Triple.pure (h : ∀ s, pre s → post a s) :
    Triple pre (Pure.pure a : Faulty σ ε α) post stop := .ret h

lemma Triple.throw (h : ∀ s, pre s → stop s) :
    Triple pre (Faulty.throw e : Faulty σ ε α) post stop :=
  fun _ s hs => h s hs

lemma Triple.bind {q : α → σ → Prop} (hm : Triple pre m q stop)
    (hk : ∀ a, Triple (q a) (k a) mid stop) : Triple pre (m >>= k) mid stop := by
  intro faults s hs
  have hf := hm faults s hs
  show match Faulty.bind m k faults s with
    | (.returned a, t, _) => mid a t
    | (.thrown _, t, _) => stop t
    | (.crashed, t, _) => stop t
  unfold Faulty.bind
  rcases ho : m faults s with ⟨e, t, rest⟩
  rw [ho] at hf
  cases e with
  | returned a => exact hk a rest t hf
  | thrown e => exact hf
  | crashed => exact hf

lemma Triple.weaken {pre' : σ → Prop} {post' : α → σ → Prop} {stop' : σ → Prop}
    (h : Triple pre m post stop) (hpre : ∀ s, pre' s → pre s)
    (hp : ∀ a s, post a s → post' a s) (hst : ∀ s, stop s → stop' s) :
    Triple pre' m post' stop' := by
  intro faults s hs
  have hm := h faults s (hpre s hs)
  rcases ho : m faults s with ⟨e, t, rest⟩
  rw [ho] at hm
  cases e with
  | returned a => exact hp a t hm
  | thrown e => exact hst t hm
  | crashed => exact hst t hm

lemma Triple.access {f : σ → α × σ} (hp : ∀ s, pre s → post (f s).1 (f s).2)
    (hst : ∀ s, pre s → stop s) : Triple pre (Faulty.access failure f) post stop := by
  intro faults s hs
  match faults with
  | [] => exact hp s hs
  | .none :: rest => exact hp s hs
  | .throws :: rest => exact hst s hs
  | .crash :: rest => exact hst s hs

lemma Triple.read {f : σ → α} (hp : ∀ s, pre s → post (f s) s) (hs : ∀ s, pre s → stop s) :
    Triple pre (Faulty.read failure f) post stop :=
  .access hp hs

lemma Triple.write {g : σ → σ} {post : Unit → σ → Prop} (hp : ∀ s, pre s → post () (g s))
    (hs : ∀ s, pre s → stop s) : Triple pre (Faulty.write failure g) post stop :=
  .access hp hs

lemma Triple.ofResult {x : Except ε α} (hok : ∀ a, x = .ok a → ∀ s, pre s → post a s)
    (hs : ∀ s, pre s → stop s) : Triple pre (Faulty.ofResult x : Faulty σ ε α) post stop := by
  cases x with
  | ok a => exact .ret (hok a rfl)
  | error e => exact .throw hs

lemma Triple.rejectIf {bad : Prop} [Decidable bad] {post : Unit → σ → Prop}
    (hok : ¬ bad → ∀ s, pre s → post () s) (hs : ∀ s, pre s → stop s) :
    Triple pre (Faulty.rejectIf bad e : Faulty σ ε Unit) post stop := by
  unfold Faulty.rejectIf
  split_ifs with h
  · exact .throw hs
  · exact .ret (hok h)

lemma Triple.orElse (hm : Triple pre m post stop) (ha : ∀ s, stop s → post a s) :
    Triple pre (m.orElse a) post stop := by
  intro faults s hs
  have h := hm faults s hs
  unfold Faulty.orElse
  rcases ho : m faults s with ⟨e, t, rest⟩
  rw [ho] at h
  cases e with
  | returned a => exact h
  | thrown e => exact ha t h
  | crashed => exact h

lemma Triple.final {I : σ → Prop} (hm : Triple pre m (fun _ => I) I) (faults : List Fault)
    {s : σ} (hs : pre s) : I (m faults s).2.1 := by
  have h := hm faults s hs
  rcases ho : m faults s with ⟨e, t, rest⟩
  rw [ho] at h
  cases e <;> exact h

end

section Undisturbed
variable {m : Faulty σ ε α} {k : α → Faulty σ ε β} {s t : σ} {a : α}

/-- What the computation gives when nothing fails. -/
def Gives (m : Faulty σ ε α) (s : σ) (a : α) (t : σ) : Prop := m [] s = (.returned a, t, [])

lemma Gives.then (hm : Gives m s a t) (k : α → Faulty σ ε β) : (m >>= k) [] s = k a [] t := by
  show Faulty.bind m k [] s = _
  unfold Faulty.bind
  rw [show m [] s = _ from hm]

variable {failure e : ε} {b : β}

lemma then_of_thrown (hm : m [] s = (.thrown e, t, [])) (k : α → Faulty σ ε β) :
    (m >>= k) [] s = (.thrown e, t, []) := by
  show Faulty.bind m k [] s = _
  unfold Faulty.bind
  rw [hm]

lemma bind_pure_ne {faults : List Fault} {c : β} (hne : b ≠ c) :
    ((m >>= fun _ => Pure.pure b) faults s).1 ≠ .returned c := by
  show (Faulty.bind m (fun _ => Faulty.ret b) faults s).1 ≠ _
  unfold Faulty.bind
  rcases m faults s with ⟨e, t, rest⟩
  cases e with
  | returned a =>
    intro h
    exact hne (Ending.returned.inj h)
  | thrown e => rintro ⟨⟩
  | crashed => rintro ⟨⟩

lemma Gives.pure (a : α) (s : σ) : Gives (Pure.pure a : Faulty σ ε α) s a s := rfl

lemma Gives.bind {u : σ} (hm : Gives m s a t) (hk : Gives (k a) t b u) : Gives (m >>= k) s b u :=
  (hm.then k).trans hk

lemma Gives.read (f : σ → α) (s : σ) : Gives (Faulty.read failure f) s (f s) s := rfl

lemma Gives.write (g : σ → σ) (s : σ) : Gives (Faulty.write failure g) s () (g s) := rfl

lemma Gives.ofResult {x : Except ε α} (h : x = .ok a) (s : σ) :
    Gives (Faulty.ofResult x) s a s := by
  rw [h]
  rfl

lemma Gives.rejectIf {bad : Prop} [Decidable bad] (h : ¬ bad) (s : σ) :
    Gives (Faulty.rejectIf bad e) s () s := by
  unfold Faulty.rejectIf
  rw [if_neg h]
  rfl

lemma rejectIf_gives_or_throws (bad : Prop) [Decidable bad] (e : ε) (s : σ) :
    ¬ bad ∧ Gives (Faulty.rejectIf bad e) s () s ∨
      (Faulty.rejectIf bad e : Faulty σ ε Unit) [] s = (.thrown e, s, []) := by
  by_cases h : bad
  · right
    unfold Faulty.rejectIf
    rw [if_pos h]
    rfl
  · exact .inl ⟨h, .rejectIf h s⟩

lemma Gives.orElse {b : α} (h : Gives m s a t) : Gives (m.orElse b) s a t := by
  show Faulty.orElse m b [] s = _
  unfold Faulty.orElse
  rw [show m [] s = _ from h]

end Undisturbed

end Conduit.Unreliable
