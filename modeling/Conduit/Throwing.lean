import Mathlib.Data.List.Forall2
import Mathlib.Data.Option.Basic

namespace Conduit.Throwing

open List

variable {ε α β : Type}

/-- `reject bad e` is the statement `if (bad) throw e`. -/
def reject (bad : Prop) [Decidable bad] (e : ε) : Except ε Unit :=
  if bad then .error e else .ok ()

variable {l : List α} {f : α → Except ε β} {r : List β} {a : α}
  {bad p : Prop} {b : β} {e : ε} {u : Unit} {o : Option α}

lemma bind_ok {x : Except ε α} : x >>= f = .ok b ↔ ∃ a, x = .ok a ∧ f a = .ok b := by
  cases x <;> simp [bind, Except.bind]

lemma pure_ok {a b : α} : (pure a : Except ε α) = .ok b ↔ a = b := by
  simp [pure, Except.pure]

lemma ok_bind : (.ok a : Except ε α) >>= f = f a := rfl

@[simp] lemma reject_ok [Decidable bad] : reject bad e = .ok u ↔ ¬ bad := by
  unfold reject; split <;> simp_all

lemma exists_reject [Decidable bad] {p : Unit → Prop} :
    (∃ u, reject bad e = .ok u ∧ p u) ↔ ¬ bad ∧ p () := by
  simp [Unique.exists_iff]

lemma rejects_ok [Decidable bad] {f : Unit → Except ε β} :
    reject bad e >>= f = .ok b ↔ ¬ bad ∧ f () = .ok b := by
  rw [bind_ok]
  constructor
  · rintro ⟨u, hu, hf⟩
    exact ⟨reject_ok.1 hu, hf⟩
  · rintro ⟨hb, hf⟩
    exact ⟨(), reject_ok.2 hb, hf⟩

lemma run_ok : (∀ {α β : Type} {x : Except ε α} {f : α → Except ε β} {b : β},
      x >>= f = .ok b ↔ ∃ a, x = .ok a ∧ f a = .ok b) ∧
    (∀ {bad : Prop} [Decidable bad] {e : ε} {p : Unit → Prop},
      (∃ u, reject bad e = .ok u ∧ p u) ↔ ¬ bad ∧ p ()) ∧
    ∀ {α : Type} {a b : α}, (pure a : Except ε α) = .ok b ↔ a = b :=
  ⟨bind_ok, exists_reject, pure_ok⟩

lemma reject_of_not [Decidable bad] (h : ¬ bad) : reject bad e = .ok () := if_neg h

lemma bind_gives {x : Option α} {f : α → Option β} :
    x >>= f = some b ↔ ∃ a, x = some a ∧ f a = some b := Option.bind_eq_some_iff

lemma guard_gives [Decidable p] : (guard p : Option Unit) = some u ↔ p := by
  by_cases h : p <;> simp [guard, h]

lemma exists_guard [Decidable p] {q : Unit → Prop} :
    (∃ u, (guard p : Option Unit) = some u ∧ q u) ↔ p ∧ q () := by
  simp [Unique.exists_iff, guard_gives]

lemma pure_gives {a b : α} : (pure a : Option α) = some b ↔ a = b := Option.some_inj

lemma run_gives : (∀ {α β : Type} {x : Option α} {f : α → Option β} {b : β},
      x >>= f = some b ↔ ∃ a, x = some a ∧ f a = some b) ∧
    (∀ {p : Prop} [Decidable p] {q : Unit → Prop},
      (∃ u, (guard p : Option Unit) = some u ∧ q u) ↔ p ∧ q ()) ∧
    ∀ {α : Type} {a b : α}, (pure a : Option α) = some b ↔ a = b :=
  ⟨bind_gives, exists_guard, pure_gives⟩

lemma forall₂_left {R : α → β → Prop} (h : Forall₂ R l r) (ha : a ∈ l) : ∃ b ∈ r, R a b := by
  induction h with
  | nil => cases ha
  | @cons c b cs bs hcb _ ih =>
    rcases mem_cons.1 ha with rfl | ha
    · exact ⟨b, .head _, hcb⟩
    · obtain ⟨d, hd, had⟩ := ih ha
      exact ⟨d, .tail b hd, had⟩

/-- `items.map(f)` for a callback that may throw. -/
def mapResult (f : α → Except ε β) : List α → Except ε (List β)
  | [] => .ok []
  | a :: l => do
    let b ← f a
    let bs ← mapResult f l
    return b :: bs

lemma mapResult_cons_ok : mapResult f (a :: l) = .ok r ↔
      ∃ b bs, f a = .ok b ∧ mapResult f l = .ok bs ∧ r = b :: bs := by
  simp only [mapResult, bind_ok, pure_ok]
  constructor
  · rintro ⟨b, hb, bs, hbs, rfl⟩
    exact ⟨b, bs, hb, hbs, rfl⟩
  · rintro ⟨b, bs, hb, hbs, rfl⟩
    exact ⟨b, hb, bs, hbs, rfl⟩

lemma mapResult_ok_iff : mapResult f l = .ok r ↔ Forall₂ (fun a b => f a = .ok b) l r := by
  induction l generalizing r with
  | nil =>
    simp only [mapResult, Except.ok.injEq, forall₂_nil_left_iff, eq_comm]
  | cons a l ih =>
    rw [mapResult_cons_ok, forall₂_cons_left_iff]
    simp only [ih]

lemma mapResult_length (h : mapResult f l = .ok r) : r.length = l.length :=
  (mapResult_ok_iff.1 h).length_eq.symm

lemma mapResult_eq_ok_getElem? : mapResult f l = .ok r ↔ l.length = r.length ∧
      ∀ (i : Nat) (a : α) (b : β), l[i]? = some a → r[i]? = some b → f a = .ok b := by
  rw [mapResult_ok_iff, forall₂_iff_get]
  refine and_congr_right fun hlen => ?_
  constructor
  · intro h i a b ha hb
    obtain ⟨hi, rfl⟩ := List.getElem?_eq_some_iff.1 ha
    obtain ⟨hj, rfl⟩ := List.getElem?_eq_some_iff.1 hb
    exact h i hi hj
  · intro h i hi hj
    exact h i _ _ (List.getElem?_eq_getElem hi) (List.getElem?_eq_getElem hj)

lemma mapResult_self_iff {f : α → Except ε α} : mapResult f l = .ok l ↔ ∀ a ∈ l, f a = .ok a := by
  rw [mapResult_ok_iff, forall₂_same]

lemma mapResult_eq_self {f : α → Except ε α} {l r : List α}
    (hf : ∀ a ∈ l, ∀ b, f a = .ok b → b = a) (h : mapResult f l = .ok r) : r = l := by
  have ha := mapResult_ok_iff.1 h
  clear h
  induction ha with
  | nil => rfl
  | @cons a b l r hab _ ih =>
    rw [hf a mem_cons_self b hab, ih fun c hc => hf c (mem_cons_of_mem a hc)]

lemma mapResult_map {γ : Type} {g : β → γ} {k : α → γ} (hf : ∀ a b, f a = .ok b → g b = k a)
    (h : mapResult f l = .ok r) : r.map g = l.map k := by
  have ha := mapResult_ok_iff.1 h
  clear h
  induction ha with
  | nil => rfl
  | cons hab _ ih => rw [map_cons, map_cons, ih, hf _ _ hab]

lemma mapResult_of_ok {g : α → β} (h : ∀ a ∈ l, f a = .ok (g a)) :
    mapResult f l = .ok (l.map g) := by
  induction l with
  | nil => rfl
  | cons a l ih =>
    simp only [mapResult, h a mem_cons_self, ih fun b hb => h b (mem_cons_of_mem a hb), ok_bind]
    rfl

/-- `items.filter(f)` for a callback that may throw. -/
def filterResult (f : α → Except ε Bool) : List α → Except ε (List α)
  | [] => .ok []
  | a :: l => do
    let keep ← f a
    let rest ← filterResult f l
    return if keep = true then a :: rest else rest

lemma filterResult_cons_ok {f : α → Except ε Bool} {l r : List α} :
    filterResult f (a :: l) = .ok r ↔ ∃ keep rest, f a = .ok keep ∧ filterResult f l = .ok rest ∧
      r = if keep = true then a :: rest else rest := by
  simp only [filterResult, bind_ok, pure_ok]
  constructor
  · rintro ⟨keep, hk, rest, hr, rfl⟩
    exact ⟨keep, rest, hk, hr, rfl⟩
  · rintro ⟨keep, rest, hk, hr, rfl⟩
    exact ⟨keep, hk, rest, hr, rfl⟩

section

variable {f : α → Except ε Bool} {l r : List α} (h : filterResult f l = .ok r)
include h

lemma filterResult_accepts (ha : a ∈ l) : ∃ keep, f a = .ok keep := by
  induction l generalizing r with
  | nil => cases ha
  | cons b l ih =>
    obtain ⟨keep, rest, hk, hr, -⟩ := filterResult_cons_ok.1 h
    rcases mem_cons.1 ha with rfl | ha
    · exact ⟨keep, hk⟩
    · exact ih hr ha

lemma mem_filterResult : a ∈ r ↔ a ∈ l ∧ f a = .ok true := by
  induction l generalizing r with
  | nil =>
    cases h
    simp
  | cons b l ih =>
    obtain ⟨keep, rest, hk, hr, rfl⟩ := filterResult_cons_ok.1 h
    cases keep with
    | true =>
      rw [if_pos rfl, mem_cons, mem_cons, ih hr]
      constructor
      · rintro (rfl | ⟨ha, hf⟩)
        · exact ⟨.inl rfl, hk⟩
        · exact ⟨.inr ha, hf⟩
      · rintro ⟨rfl | ha, hf⟩
        · exact .inl rfl
        · exact .inr ⟨ha, hf⟩
    | false =>
      rw [if_neg Bool.false_ne_true, ih hr, mem_cons]
      constructor
      · rintro ⟨ha, hf⟩
        exact ⟨.inr ha, hf⟩
      · rintro ⟨rfl | ha, hf⟩
        · rw [hk] at hf
          cases hf
        · exact ⟨ha, hf⟩

end

lemma mapResult_accepts (h : mapResult f l = .ok r) (ha : a ∈ l) : ∃ b ∈ r, f a = .ok b :=
  forall₂_left (mapResult_ok_iff.1 h) ha

lemma mem_of_mapResult (h : mapResult f l = .ok r) (hb : b ∈ r) : ∃ a ∈ l, f a = .ok b :=
  forall₂_left (mapResult_ok_iff.1 h).flip hb

/-- `value !== undefined ? f(value) : undefined`. -/
def optionResult (f : α → Except ε β) : Option α → Except ε (Option β)
  | none => .ok none
  | some a => do return some (← f a)

lemma optionResult_ok {r : Option β} (h : optionResult f o = .ok r) :
    (o = none ∧ r = none) ∨ ∃ a b, o = some a ∧ r = some b ∧ f a = .ok b := by
  cases o with
  | none => exact .inl ⟨rfl, by simpa [optionResult, eq_comm] using h⟩
  | some a =>
    simp only [optionResult, bind_ok, pure_ok] at h
    obtain ⟨b, hb, rfl⟩ := h
    exact .inr ⟨a, b, rfl, rfl, hb⟩

variable {r : Option α} {c : β}

lemma optionResult_idem {f : α → Except ε α} (hf : ∀ a b, f a = .ok b → f b = .ok b)
    (h : optionResult f o = .ok r) : optionResult f r = .ok r := by
  rcases optionResult_ok h with ⟨-, rfl⟩ | ⟨a, b, -, rfl, hab⟩
  · rfl
  · simp only [optionResult, hf a b hab]
    rfl

lemma optionResult_eq_self {f : α → Except ε α} (hf : ∀ a b, f a = .ok b → b = a)
    (h : optionResult f o = .ok r) : r = o := by
  rcases optionResult_ok h with ⟨rfl, rfl⟩ | ⟨a, b, rfl, rfl, hab⟩
  · rfl
  · rw [hf a b hab]

lemma mapResult_idem {f : α → Except ε α} (hf : ∀ a b, f a = .ok b → f b = .ok b)
    {l r : List α} (h : mapResult f l = .ok r) : mapResult f r = .ok r := by
  refine mapResult_self_iff.2 fun b hb => ?_
  obtain ⟨a, -, hab⟩ := mem_of_mapResult h hb
  exact hf a b hab

/-- A loop over a list whose body may throw. -/
def foldResult (f : β → α → Except ε β) : β → List α → Except ε β
  | b, [] => .ok b
  | b, a :: l => do
    let b' ← f b a
    foldResult f b' l

lemma foldResult_keeps {f : β → α → Except ε β} {p : β → Prop} {b' : β}
    (hs : ∀ a ∈ l, ∀ c c', p c → f c a = .ok c' → p c') (hb : p b)
    (h : foldResult f b l = .ok b') : p b' := by
  induction l generalizing b with
  | nil => exact Except.ok.inj h ▸ hb
  | cons a l ih =>
    simp only [foldResult, bind_ok] at h
    obtain ⟨c, hc, h⟩ := h
    exact ih (fun a' ha' => hs a' (mem_cons_of_mem a ha'))
      (hs a mem_cons_self b c hb hc) h

lemma foldResult_append {f : β → α → Except ε β} {l m : List α} :
    foldResult f b (l ++ m) = .ok c ↔ ∃ d, foldResult f b l = .ok d ∧ foldResult f d m = .ok c := by
  induction l generalizing b with
  | nil => simp [foldResult]
  | cons a l ih =>
    simp only [cons_append, foldResult, bind_ok, ih]
    constructor
    · rintro ⟨b', hb', d, hd, hc⟩
      exact ⟨d, ⟨b', hb', hd⟩, hc⟩
    · rintro ⟨d, ⟨b', hb', hd⟩, hc⟩
      exact ⟨b', hb', d, hd, hc⟩

lemma foldResult_cons_ok {f : β → α → Except ε β} :
    foldResult f b (a :: l) = .ok c ↔ ∃ d, f b a = .ok d ∧ foldResult f d l = .ok c := by
  simp only [foldResult, bind_ok]

lemma foldResult_latches {f : β → α → Except ε β} {inv holds : β → Prop} {marks : α → Prop}
    {good : β → α → Prop} (hinv : ∀ b a c, inv b → f b a = .ok c → inv c)
    (hstays : ∀ b a c, inv b → holds b → f b a = .ok c → holds c)
    (hm : ∀ b a c, inv b → marks a → f b a = .ok c → (holds c ↔ good b a)) {final : β}
    (hb : inv b) (hrun : foldResult f b l = .ok final) :
    (∀ before a after c, before ++ a :: after <+: l → marks a →
        foldResult f b (before ++ a :: after) = .ok c → holds c) ↔
      ∀ before a after c, l = before ++ a :: after → marks a → foldResult f b before = .ok c →
        good c a := by
  constructor
  · intro h before a after c hl ha hbef
    rw [hl, foldResult_append] at hrun
    obtain ⟨c', hc', hr⟩ := hrun
    obtain rfl : c' = c := Except.ok.inj (hc'.symm.trans hbef)
    obtain ⟨d, hd, -⟩ := foldResult_cons_ok.1 hr
    have hc : inv c' := foldResult_keeps (fun a' _ e e' he hst => hinv e a' e' he hst) hb hc'
    refine (hm c' a d hc ha hd).1 (h before a [] d ?_ ha ?_)
    · exact ⟨after, by rw [hl, append_assoc]; rfl⟩
    · exact foldResult_append.2 ⟨c', hc', foldResult_cons_ok.2 ⟨d, hd, rfl⟩⟩
  · rintro h before a after c ⟨rest, hl⟩ ha hc
    obtain ⟨d, hd, hr⟩ := foldResult_append.1 hc
    obtain ⟨e, he, haf⟩ := foldResult_cons_ok.1 hr
    have hin : inv d := foldResult_keeps (fun a' _ b' c' hi hst => hinv b' a' c' hi hst) hb hd
    have hh : holds e := (hm d a e hin ha he).2
      (h before a (after ++ rest) d (by rw [← hl, append_assoc]; rfl) ha hd)
    have hst : ∀ a' ∈ after, ∀ b' c', inv b' ∧ holds b' → f b' a' = .ok c' →
        inv c' ∧ holds c' :=
      fun a' _ b' c' hi hs => ⟨hinv b' a' c' hi.1 hs, hstays b' a' c' hi.1 hi.2 hs⟩
    exact (foldResult_keeps hst ⟨hinv d a e hin he, hh⟩ haf).2

end Conduit.Throwing
