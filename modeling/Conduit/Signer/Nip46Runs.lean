import Conduit.Signer.Nip46
import Mathlib.Data.List.Nodup
import Mathlib.Data.List.Perm.Basic
import Mathlib.Data.Option.Basic

namespace Conduit.Signer.Nip46

open Js Runs List Option

section
variable {P : Nip46Platform} {t u : Transport} {extra : List Text} {call : Text}

lemma requestId_inj {g g' : Nat} {c c' : Text} (h : requestId g c = requestId g' c') :
    g = g' ∧ c = c' := by
  have hc : ∀ n : Nat, ∀ x ∈ numberText n, x ≠ ':' := by
    intro n x hx hc
    subst hc
    exact not_mem_toDigits (by decide) _ hx
  have hs : ∀ (n : Nat) (c : Text),
      (requestId n c).takeWhile (fun x => decide (x ≠ ':')) = numberText n ∧
        (requestId n c).dropWhile (fun x => decide (x ≠ ':')) = ':' :: c := by
    intro n c
    have ha : ∀ x ∈ numberText n, decide (x ≠ ':') = true :=
      fun x hx => decide_eq_true (hc n x hx)
    unfold requestId
    rw [append_assoc, takeWhile_append_of_pos ha, dropWhile_append_of_pos ha]
    simp
  have hh := (hs g c).1
  have ht := (hs g c).2
  rw [h, (hs g' c').1] at hh
  rw [h, (hs g' c').2] at ht
  have hnum := numberText_inj hh
  exact ⟨by omega, (cons.inj ht).2.symm⟩

def resultJson : Option Text → JsonValue
  | some text => .string text
  | none => .null

structure Carries (P : Nip46Platform) (event : ResponseEvent) (id : Text) (result : Option Text) :
    Prop where
  valid : IsResponse P event
  readable : ∃ response, P.decryptJson event.content = some response ∧
    response.field "id" = some (.string id) ∧
    response.field "result" = some (resultJson result)

/-- The calls in `extra` are made, and neither registered nor settled yet. -/
structure Weak (P : Nip46Platform) (extra : List Text) (t : Transport) : Prop where
  calls : t.calls.Nodup
  accounted : (t.pending.map PendingRequest.call ++ t.settled.map Settled.call ++
    extra).Perm t.calls
  ids : ∀ p ∈ t.pending, p.id = requestId p.generation p.call
  published : t.published.Nodup
  known : ∀ c ∈ t.published, c ∈ t.calls ∧ c ∉ extra
  resolved : ∀ e ∈ t.settled, ∀ result event receivedIn,
    e.outcome = .resolved result event receivedIn →
      Carries P event (requestId e.generation e.call) result ∧ receivedIn = e.generation

section

variable (h : Weak P extra t)
include h

lemma Weak.congr (hc : u.calls = t.calls) (hp : u.pending = t.pending)
    (hpub : u.published = t.published) (hs : u.settled = t.settled) : Weak P extra u := by
  constructor
  · rw [hc]
    exact h.calls
  · rw [hc, hp, hs]
    exact h.accounted
  · rw [hp]
    exact h.ids
  · rw [hpub]
    exact h.published
  · rw [hpub, hc]
    exact h.known
  · rw [hs]
    exact h.resolved

lemma Weak.pending_nodup : (t.pending.map PendingRequest.call).Nodup :=
  (h.accounted.nodup_iff.2 h.calls).sublist
    ((sublist_append_left _ _).trans (sublist_append_left _ _))

lemma Weak.eq_of_call {p q : PendingRequest} (hp : p ∈ t.pending) (hq : q ∈ t.pending)
    (hc : p.call = q.call) : p = q :=
  inj_on_of_nodup_map h.pending_nodup hp hq hc

lemma Weak.eq_of_id {p q : PendingRequest} (hp : p ∈ t.pending) (hq : q ∈ t.pending)
    (hid : p.id = q.id) : p = q := by
  rw [h.ids p hp, h.ids q hq] at hid
  exact h.eq_of_call hp hq (requestId_inj hid).2

end

variable {closing : Transport → Transport} {p : PendingRequest} {outcome : Outcome} {method : Text}
  {f g : Transport → Transport}

lemma Weak.settle_perm (h : Weak P extra t) (hp : p ∈ t.pending) :
    t.pending.Perm (p :: t.pending.filter fun q => decide (q.id ≠ p.id)) := by
  have hnd : t.pending.Nodup := h.pending_nodup.of_map _
  have hf : (t.pending.filter fun q => decide (q.id ≠ p.id)) = t.pending.erase p := by
    rw [hnd.erase_eq_filter]
    apply filter_congr
    intro q hq
    by_cases hqp : q = p
    · simp [hqp]
    · have hid : q.id ≠ p.id := fun hid => hqp (h.eq_of_id hq hp hid)
      simp [hqp, hid]
  rw [hf]
  exact perm_cons_erase hp

lemma Weak.settle (h : Weak P extra t) (hp : p ∈ t.pending) (ho : ∀ result event receivedIn,
      outcome = .resolved result event receivedIn →
        Carries P event p.id result ∧ receivedIn = p.generation) :
    Weak P extra (settle t p outcome) := by
  refine ⟨h.calls, ?_, fun q hq => h.ids q (mem_filter.1 hq).1, h.published, h.known,
    fun e he => ?_⟩
  · refine Perm.trans ?_ h.accounted
    have hpm := (h.settle_perm hp).map PendingRequest.call
    apply perm_iff_count.2
    intro c
    have hc := hpm.count_eq c
    simp only [Nip46.settle, map_append, map_cons, map_nil, count_append,
      count_cons, count_nil] at hc ⊢
    omega
  · rcases mem_append.1 he with he | he
    · exact h.resolved e he
    · rw [mem_singleton] at he
      subst he
      rw [← h.ids p hp]
      exact ho

lemma Weak.rejectPending (h : Weak P extra t) (code : Nip46TransportErrorCode) :
    Weak P extra (rejectPending t code) := by
  refine ⟨h.calls, ?_, fun p hp => absurd hp not_mem_nil, h.published, h.known, fun e he => ?_⟩
  · refine Perm.trans ?_ h.accounted
    have hm : (t.pending.map fun p => (⟨p.call, p.generation, .rejected code⟩ : Settled)).map
        Settled.call = t.pending.map PendingRequest.call := map_map
    apply perm_iff_count.2
    simp only [Nip46.rejectPending, map_append, hm, map_nil, count_append, count_nil]
    omega
  · rcases mem_append.1 he with he | he
    · exact h.resolved e he
    · obtain ⟨p, -, rfl⟩ := mem_map.1 he
      exact nofun

lemma Weak.rejectCall (h : Weak P (call :: extra) t) : Weak P extra (rejectCall t call) := by
  refine ⟨h.calls, ?_, h.ids, h.published, fun c hc => ?_, fun e he => ?_⟩
  · refine Perm.trans ?_ h.accounted
    apply perm_iff_count.2
    simp only [Nip46.rejectCall, map_append, map_cons, map_nil, count_append, count_cons, count_nil]
    omega
  · obtain ⟨hm, hextra⟩ := h.known c hc
    exact ⟨hm, fun hc => hextra (.tail _ hc)⟩
  · rcases mem_append.1 he with he | he
    · exact h.resolved e he
    · rw [mem_singleton] at he
      subst he
      exact nofun

lemma Weak.make (h : Weak P extra t) (hn : call ∉ t.calls) :
    Weak P (call :: extra) { t with calls := t.calls ++ [call] } := by
  refine ⟨?_, ?_, h.ids, h.published, fun c hc => ?_, h.resolved⟩
  · refine nodup_append.2 ⟨h.calls, by simp, fun a ha b hb hab => ?_⟩
    rw [mem_singleton] at hb
    exact hn (hb ▸ hab ▸ ha)
  · refine Perm.trans ?_ (h.accounted.append_right [call])
    apply perm_iff_count.2
    simp only [count_append, count_cons, count_nil]
    omega
  · obtain ⟨hm, he⟩ := h.known c hc
    refine ⟨mem_append_left _ hm, fun hc => ?_⟩
    rcases mem_cons.1 hc with rfl | hc
    · exact hn hm
    · exact he hc

def Fit (t : Transport) : Prop :=
  ∀ p ∈ t.pending, t.state = .active ∧ p.generation = t.generation ∧ p.call ∉ t.aborted

def Open (t : Transport) : Prop :=
  t.pending ≠ [] → t.restartingSubscriptions = false → t.subscriptions ≠ []

def Sound (t : Transport) : Prop := t.misplaced = [] → Fit t ∧ Open t

structure Good (P : Nip46Platform) (f : Transport → Transport) : Prop where
  weak : ∀ extra t, Weak P extra t → Weak P extra (f t)
  misplaced : ∀ t, (f t).misplaced = [] → t.misplaced = []
  restarting : ∀ t, (f t).restartingSubscriptions = true → t.restartingSubscriptions = true
  settled : ∀ t, t.settled ⊆ (f t).settled
  sound : ∀ extra t, Weak P extra t → Sound t → Sound (f t)

/-- While subscriptions open, a pending request may be without one for a moment. -/
structure Opens (P : Nip46Platform) (f : Transport → Transport) : Prop where
  weak : ∀ extra t, Weak P extra t → Weak P extra (f t)
  misplaced : ∀ t, (f t).misplaced = [] → t.misplaced = []
  restarting : ∀ t, (f t).restartingSubscriptions = true → t.restartingSubscriptions = true
  settled : ∀ t, t.settled ⊆ (f t).settled
  fit : ∀ extra t, Weak P extra t → (t.misplaced = [] → Fit t) → (f t).misplaced = [] → Fit (f t)

/-- What one handler may do to a transport: the fields of `Good` at one state. -/
structure Moves (P : Nip46Platform) (t t' : Transport) : Prop where
  weak : ∀ extra, Weak P extra t → Weak P extra t'
  misplaced : t'.misplaced = [] → t.misplaced = []
  restarting : t'.restartingSubscriptions = true → t.restartingSubscriptions = true
  settled : t.settled ⊆ t'.settled
  sound : ∀ extra, Weak P extra t → Sound t → Sound t'

lemma Moves.refl (t : Transport) : Moves P t t :=
  ⟨fun _ h => h, fun h => h, fun h => h, .refl _, fun _ _ h => h⟩

variable {f : Transport → Transport} {event : ResponseEvent} {response : JsonValue}

lemma Good.moves (h : Good P f) (t : Transport) : Moves P t (f t) :=
  ⟨fun extra => h.weak extra t, h.misplaced t, h.restarting t, h.settled t,
    fun extra => h.sound extra t⟩

lemma Good.of_moves (h : ∀ t, Moves P t (f t)) : Good P f :=
  ⟨fun extra t => (h t).weak extra, fun t => (h t).misplaced, fun t => (h t).restarting,
    fun t => (h t).settled, fun extra t => (h t).sound extra⟩

lemma good_id : Good P id :=
  .of_moves .refl

lemma Good.comp (hf : Good P f) (hg : Good P g) : Good P fun t => g (f t) :=
  ⟨fun extra t h => hg.weak extra _ (hf.weak extra t h),
    fun t h => hf.misplaced t (hg.misplaced _ h),
    fun t h => hf.restarting t (hg.restarting _ h),
    fun t => Subset.trans (hf.settled t) (hg.settled _),
    fun extra t hw h => hg.sound extra _ (hf.weak extra t hw) (hf.sound extra t hw h)⟩

lemma Opens.comp (hf : Opens P f) (hg : Opens P g) : Opens P fun t => g (f t) :=
  ⟨fun extra t h => hg.weak extra _ (hf.weak extra t h),
    fun t h => hf.misplaced t (hg.misplaced _ h),
    fun t h => hf.restarting t (hg.restarting _ h),
    fun t => Subset.trans (hf.settled t) (hg.settled _),
    fun extra t hw h => hg.fit extra _ (hf.weak extra t hw) (hf.fit extra t hw h)⟩

lemma sound_of_pending_nil (h : t.pending = []) : Sound t := by
  intro _
  refine ⟨fun p hp => ?_, fun hne => absurd h hne⟩
  rw [h] at hp
  cases hp

lemma Fit.pending_nil (h : Fit t) (hst : t.state ≠ .active) : t.pending = [] := by
  apply eq_nil_iff_forall_not_mem.2
  intro p hp
  exact hst (h p hp).1

lemma closeSubscriptions_weak (hc : Good P closing) (h : Weak P extra t) :
    Weak P extra (closeSubscriptions closing t) :=
  (hc.weak extra _ (h.congr (u := { t with restartingSubscriptions := true }) rfl rfl
    rfl rfl)).congr
    rfl rfl rfl rfl

lemma rejectPending_settled (t : Transport) (code : Nip46TransportErrorCode) :
    t.settled ⊆ (rejectPending t code).settled :=
  subset_append_left _ _

lemma closeSubscriptions_misplaced (hc : Good P closing)
    (h : (closeSubscriptions closing t).misplaced = []) : t.misplaced = [] :=
  hc.misplaced { t with restartingSubscriptions := true } h

lemma failTransport_good (hc : Good P closing) (code : Nip46TransportErrorCode) :
    Good P (failTransport closing code) := by
  apply Good.of_moves
  intro t
  unfold failTransport
  split
  · exact .refl t
  · constructor
    · intro extra h
      have hf : Weak P extra { t with
          state := .unavailable
          generation := t.generation + 1 } := h.congr rfl rfl rfl rfl
      exact (closeSubscriptions_weak hc hf).rejectPending code
    · exact fun h => closeSubscriptions_misplaced (t := { t with
        state := .unavailable
        generation := t.generation + 1 }) hc h
    · exact nofun
    · exact Subset.trans (hc.settled { t with
        state := .unavailable
        generation := t.generation + 1
        restartingSubscriptions := true }) (rejectPending_settled _ _)
    · exact fun _ _ _ => sound_of_pending_nil rfl

lemma failTransport_sound {code : Nip46TransportErrorCode} (hc : Good P closing)
    (h : t.misplaced = [] → Fit t) : Sound (failTransport closing code t) := by
  intro hm
  have hf := h ((failTransport_good hc code).misplaced t hm)
  unfold failTransport
  split
  · next hst =>
    have hn := hf.pending_nil hst
    exact ⟨hf, fun hne => absurd hn hne⟩
  · exact ⟨fun p hp => absurd hp not_mem_nil, fun hne => absurd rfl hne⟩

lemma handleSubscriptionClose_good (hc : Good P closing) (relay : Text) (gen : Nat) :
    Good P (handleSubscriptionClose closing relay gen) := by
  have hfa := failTransport_good hc .unavailable
  apply Good.of_moves
  intro t
  unfold handleSubscriptionClose
  split
  · exact .refl t
  · split
    · exact .refl t
    · dsimp only
      split
      · next hs =>
        refine ⟨fun _ h => h.congr rfl rfl rfl rfl, fun h => h, fun h => h, .refl _,
          fun extra _ h hmis => ?_⟩
        obtain ⟨hfit, -⟩ := h hmis
        refine ⟨hfit, fun hpe hr => ?_⟩
        obtain ⟨p, hp⟩ := exists_mem_of_ne_nil _ hpe
        -- With a request pending and no restart going on, another subscription is left.
        rcases hs with hs | hs | hs
        · rw [hr] at hs
          cases hs
        · exact absurd (hfit p hp).1 hs
        · exact hs
      · have hf := hfa.moves (t.unsubscribe relay)
        exact ⟨fun extra h => hf.weak extra (h.congr rfl rfl rfl rfl), hf.misplaced,
          hf.restarting, hf.settled,
          fun extra _ h => failTransport_sound hc fun hm => (h hm).1⟩

lemma settle_sound (h : Sound t) : Sound (settle t p outcome) := by
  intro hm
  obtain ⟨hf, ho⟩ := h hm
  refine ⟨fun q hq => hf q (mem_filter.1 hq).1, fun hne => ho fun hn => hne ?_⟩
  simp [settle, hn]

lemma settle_moves (hp : p ∈ t.pending)
    (ho : ∀ result event receivedIn, outcome = .resolved result event receivedIn →
      Carries P event p.id result ∧ receivedIn = p.generation) : Moves P t (settle t p outcome) :=
  ⟨fun _ h => h.settle hp ho, fun h => h, fun h => h, subset_append_left _ _,
    fun _ _ h => settle_sound h⟩

lemma settleRequest_good {id : Text}
    (ho : ∀ result event receivedIn, outcome ≠ .resolved result event receivedIn) :
    Good P fun t => settleRequest t id outcome := by
  apply Good.of_moves
  intro t
  unfold settleRequest
  split
  · next p hp =>
    exact settle_moves (mem_of_find?_eq_some hp) fun r e i heq => absurd heq (ho r e i)
  · exact .refl t

lemma rememberResponse_good (id : Text) : Good P fun t => rememberResponse t id :=
  ⟨fun _ _ h => h.congr rfl rfl rfl rfl, fun _ h => h, fun _ h => h,
    fun _ => .refl _, fun _ _ _ h => h⟩

lemma readAnswer_result {result : Option Text} (h : readAnswer P method response = .result result) :
    response.field "result" = some (resultJson result) := by
  unfold readAnswer at h
  dsimp only at h
  split at h
  · cases h
  · split at h
    · split at h
      · cases h
      · split at h
        · cases h
        · split at h <;> cases h
    · split at h
      · next text hf =>
        cases h
        exact hf
      · next hf =>
        cases h
        exact hf
      · cases h

lemma responseRecord_eq_some {id : Text} (h : responseRecord P event = some (id, response)) :
    P.decryptJson event.content = some response ∧ response.field "id" = some (.string id) := by
  simp only [responseRecord, bind_eq_bind, bind_eq_some_iff, guard_eq_some',
    exists_const, some.injEq, Prod.mk.injEq] at h
  obtain ⟨_, hd, _, ⟨value, hf, hs⟩, -, rfl, rfl⟩ := h
  refine ⟨hd, ?_⟩
  rw [hf]
  cases value with
  | string s =>
    cases hs
    rfl
  | null | bool _ | int _ | number _ | array _ | object _ => cases hs

lemma answerResponse_good (hc : Good P closing) (hev : IsResponse P event) :
    Good P (answerResponse P closing event) := by
  have hf := failTransport_good hc .invalid_response
  apply Good.of_moves
  intro t
  unfold answerResponse
  split
  · exact hf.moves t
  · next id response hr =>
    split
    · exact .refl t
    · next p hp =>
      split
      · exact .refl t
      · next hg =>
        split
        · exact .refl t
        · next code _ =>
          have hs : Good P fun t => settleRequest t id (.rejected code) :=
            settleRequest_good fun _ _ _ => nofun
          exact hs.moves t
        · exact hf.moves t
        · next result ha =>
          -- The request is settled with what the event says to its own id, in its generation.
          have hid : p.id = id := by simpa using find?_some hp
          obtain ⟨hd, hfi⟩ := responseRecord_eq_some hr
          unfold settleRequest
          rw [hp]
          apply settle_moves (mem_of_find?_eq_some hp)
          intro r e i heq
          cases heq
          exact ⟨⟨hev, response, hd, hid ▸ hfi, readAnswer_result ha⟩,
            (Decidable.of_not_not hg).symm⟩

lemma handleResponse_good (hc : Good P closing) (event : ResponseEvent) :
    Good P (handleResponse P closing event) := by
  apply Good.of_moves
  intro t
  unfold handleResponse
  split
  · exact .refl t
  · next hp =>
    rw [not_or, not_or, Decidable.not_not] at hp
    have ha := answerResponse_good hc (Decidable.of_not_not hp.2.1)
    exact ((rememberResponse_good (P := P) event.id).comp ha).moves t

def subscribing (relay : Text) (t : Transport) : Transport :=
  { t with
    subscriptions := t.subscriptions ++ [⟨relay, t.generation, t.nextSerial⟩]
    nextSerial := t.nextSerial + 1 }

lemma subscribeRelay_eq (during : Transport → Transport) (succeeds : Bool) (relay : Text)
    (t : Transport) : subscribeRelay during succeeds relay t = t ∨
      subscribeRelay during succeeds relay t = during (subscribing relay t) ∨
      subscribeRelay during succeeds relay t = (during
        (subscribing relay t)).unsubscribe relay := by
  unfold subscribeRelay
  split
  · exact .inl rfl
  · dsimp only
    split
    · exact .inr (.inr rfl)
    · exact .inr (.inl rfl)

lemma subscribeRelay_opens {during : Transport → Transport} (hd : Good P during)
    (succeeds : Bool) (relay : Text) : Opens P (subscribeRelay during succeeds relay) := by
  constructor
  · intro extra t h
    have hs : Weak P extra (subscribing relay t) := h.congr rfl rfl rfl rfl
    have hdur := hd.weak extra _ hs
    rcases subscribeRelay_eq during succeeds relay t with heq | heq | heq
    · rw [heq]
      exact h
    · rw [heq]
      exact hdur
    · rw [heq]
      exact hdur.congr rfl rfl rfl rfl
  · intro t h
    rcases subscribeRelay_eq during succeeds relay t with heq | heq | heq
    · rw [heq] at h
      exact h
    · rw [heq] at h
      exact hd.misplaced (subscribing relay t) h
    · rw [heq] at h
      exact hd.misplaced (subscribing relay t) h
  · intro t h
    rcases subscribeRelay_eq during succeeds relay t with heq | heq | heq
    · rw [heq] at h
      exact h
    · rw [heq] at h
      exact hd.restarting (subscribing relay t) h
    · rw [heq] at h
      exact hd.restarting (subscribing relay t) h
  · intro t
    rcases subscribeRelay_eq during succeeds relay t with heq | heq | heq
    · rw [heq]
      exact .refl _
    · rw [heq]
      exact hd.settled (subscribing relay t)
    · rw [heq]
      exact hd.settled (subscribing relay t)
  · intro extra t hw h
    have hs : Weak P extra (subscribing relay t) := hw.congr rfl rfl rfl rfl
    have hsnd : Sound (subscribing relay t) :=
      fun hm => ⟨h hm, fun _ _ => by simp [subscribing]⟩
    have hdur := hd.sound extra _ hs hsnd
    rcases subscribeRelay_eq during succeeds relay t with heq | heq | heq
    · rw [heq]
      exact h
    · rw [heq]
      exact fun hm => (hdur hm).1
    · rw [heq]
      exact fun hm => (hdur hm).1

lemma opens_id : Opens P id :=
  ⟨fun _ _ h => h, fun _ h => h, fun _ h => h, fun _ => .refl _, fun _ _ _ h => h⟩

lemma Opens.foldl {f : Text → Transport → Transport} (hf : ∀ relay, Opens P (f relay))
    (relays : List Text) : Opens P fun t => relays.foldl (fun t relay => f relay t) t := by
  induction relays with
  | nil => exact opens_id
  | cons relay relays ih => exact (hf relay).comp ih

def registered (call method : Text) (t : Transport) : Transport :=
  { t with
    pending := t.pending ++ [⟨requestId t.generation call, method, t.generation, call⟩]
    published := t.published ++ [call]
    misplaced := if t.state = .active ∧ call ∉ t.aborted then t.misplaced
      else t.misplaced ++ [call] }

lemma registered_misplaced (h : (registered call method t).misplaced = []) :
    t.misplaced = [] ∧ t.state = .active ∧ call ∉ t.aborted := by
  unfold registered at h
  split at h
  · next hp => exact ⟨h, hp⟩
  · simp at h

lemma Weak.register (h : Weak P (call :: extra) t) (method : Text) :
    Weak P extra (registered call method t) := by
  have hnd := h.accounted.nodup_iff.2 h.calls
  have hm : call ∈ t.calls := h.accounted.mem_iff.1 (by simp)
  have hn : call ∉ extra := (nodup_cons.1 (nodup_append.1 hnd).2.1).1
  refine ⟨h.calls, ?_, fun p hp => ?_, ?_, fun c hc => ?_, h.resolved⟩
  · refine Perm.trans ?_ h.accounted
    apply perm_iff_count.2
    simp only [registered, map_append, map_cons, map_nil, count_append, count_cons, count_nil]
    omega
  · rcases mem_append.1 hp with hp | hp
    · exact h.ids p hp
    · rw [mem_singleton] at hp
      subst hp
      rfl
  · refine nodup_append.2 ⟨h.published, by simp, fun a ha b hb hab => ?_⟩
    rw [mem_singleton] at hb
    subst hab hb
    exact (h.known _ ha).2 mem_cons_self
  · rcases mem_append.1 hc with hc | hc
    · obtain ⟨hca, he⟩ := h.known c hc
      exact ⟨hca, fun hc => he (mem_cons_of_mem _ hc)⟩
    · rw [mem_singleton] at hc
      subst hc
      exact ⟨hm, hn⟩

lemma registered_sound (hf : t.misplaced = [] → Fit t) (ho : t.subscriptions ≠ []) :
    Sound (registered call method t) := by
  intro hm
  obtain ⟨hpl, hact, ha⟩ := registered_misplaced hm
  refine ⟨fun p hp => ?_, fun _ _ => ho⟩
  rcases mem_append.1 hp with hp | hp
  · exact hf hpl p hp
  · rw [mem_singleton] at hp
    subst hp
    exact ⟨hact, rfl, ha⟩

lemma afterRegister_good {publishing closing : Transport → Transport} (hp : Good P publishing)
    (hc : Good P closing) (outcome : PublishOutcome) : Good P fun t => match outcome with
      | .published => publishing t
      | .throws | .noRoute => failTransport closing .unavailable (publishing t) := by
  cases outcome with
  | published => exact hp
  | throws | noRoute => exact hp.comp (failTransport_good hc _)

lemma sendRequest_good {opening publishing closing : Transport → Transport}
    (ho : Opens P opening) (hp : Good P publishing) (hc : Good P closing) (call method : Text)
    (outcome : PublishOutcome) :
    Good P (sendRequest opening publishing closing call method outcome) := by
  have ha := afterRegister_good hp hc outcome
  apply Good.of_moves
  intro t
  unfold sendRequest
  split
  · exact .refl t
  · next hn =>
    dsimp only
    split
    · exact ⟨fun _ h => (h.make hn).rejectCall, fun h => h, fun h => h,
        subset_append_left _ _, fun _ _ h => h⟩
    · split
      · exact ⟨fun _ h => (h.make hn).rejectCall, fun h => h, fun h => h,
          subset_append_left _ _, fun _ _ h => h⟩
      · have hmis := ho.misplaced { t with calls := t.calls ++ [call] }
        have hr := ho.restarting { t with calls := t.calls ++ [call] }
        have hset := ho.settled { t with calls := t.calls ++ [call] }
        have hfit : ∀ extra, Weak P extra t → Sound t →
            (opening { t with calls := t.calls ++ [call] }).misplaced = [] →
            Fit (opening { t with calls := t.calls ++ [call] }) :=
          fun _ hw h => ho.fit _ _ (hw.make hn) fun hm => (h hm).1
        split
        · have hf := (failTransport_good hc .unavailable).moves
            (opening { t with calls := t.calls ++ [call] })
          exact ⟨fun _ h => (hf.weak _ (ho.weak _ _ (h.make hn))).rejectCall,
            fun h => hmis (hf.misplaced h), fun h => hr (hf.restarting h),
            Subset.trans (Subset.trans hset hf.settled)
              (subset_append_left _ _),
            fun extra hw h => failTransport_sound hc (hfit extra hw h)⟩
        · next hopen =>
          have hs := ha.moves (registered call method
            (opening { t with calls := t.calls ++ [call] }))
          exact ⟨fun _ h => hs.weak _ ((ho.weak _ _ (h.make hn)).register method),
            fun h => hmis (registered_misplaced (hs.misplaced h)).1,
            fun h => hr (hs.restarting h), Subset.trans hset hs.settled,
            fun extra hw h => hs.sound extra
              ((ho.weak _ _ (hw.make hn)).register method)
              (registered_sound (hfit extra hw h) hopen)⟩

/-- The transport of `resume` when its subscriptions open again. -/
def restarted (closing : Transport → Transport) (t : Transport) : Transport :=
  { closeSubscriptions closing
      (rejectPending { t with generation := t.generation + 1 } .unavailable) with
    state := .active }

lemma restarted_settled (hc : Good P closing) (t : Transport) :
    (rejectPending { t with generation := t.generation + 1 } .unavailable).settled ⊆
      (restarted closing t).settled :=
  hc.settled { rejectPending { t with generation := t.generation + 1 } .unavailable with
    restartingSubscriptions := true }

lemma restarted_opens (hc : Good P closing) : Opens P (restarted closing) := by
  have hwe : ∀ extra t, Weak P extra t →
      Weak P extra (rejectPending { t with generation := t.generation + 1 } .unavailable) := by
    intro extra t h
    have hn : Weak P extra { t with generation := t.generation + 1 } := h.congr rfl rfl rfl rfl
    exact hn.rejectPending .unavailable
  constructor
  · exact fun extra t h => (closeSubscriptions_weak hc (hwe extra t h)).congr rfl rfl rfl rfl
  · intro t h
    have hcl : (closeSubscriptions closing
        (rejectPending { t with generation := t.generation + 1 } .unavailable)).misplaced = [] := h
    exact closeSubscriptions_misplaced
      (t := rejectPending { t with generation := t.generation + 1 } .unavailable) hc hcl
  · exact fun t h => absurd h nofun
  · exact fun t => Subset.trans (rejectPending_settled _ _) (restarted_settled hc t)
  · intro extra t hw _ hm
    have hcls := hc.sound extra { rejectPending { t with generation := t.generation + 1 }
      .unavailable with restartingSubscriptions := true }
      ((hwe extra t hw).congr rfl rfl rfl rfl) (sound_of_pending_nil rfl)
    intro p hp
    exact ⟨rfl, ((hcls hm).1 p hp).2⟩

lemma resume_eq (closing opening failing : Transport → Transport) (t : Transport) :
    resume closing opening failing t =
      if t.state = .closed then t
      else if (opening (restarted closing t)).subscriptions = [] then
        failTransport failing .unavailable (opening (restarted closing t))
      else opening (restarted closing t) :=
  rfl

lemma resume_good {closing opening failing : Transport → Transport} (hc : Good P closing)
    (ho : Opens P opening) (hf : Good P failing) : Good P (resume closing opening failing) := by
  have hopens := (restarted_opens hc).comp ho
  apply Good.of_moves
  intro t
  rw [resume_eq]
  split
  · exact .refl t
  · split
    · have hfa := (failTransport_good hf .unavailable).moves (opening (restarted closing t))
      exact ⟨fun extra h => hfa.weak extra (hopens.weak extra t h),
        fun h => hopens.misplaced t (hfa.misplaced h),
        fun h => hopens.restarting t (hfa.restarting h),
        Subset.trans (hopens.settled t) hfa.settled,
        fun extra hw h => failTransport_sound hf (hopens.fit extra t hw fun hm => (h hm).1)⟩
    · next hopen =>
      -- A subscription opened, so what the requests still need is there.
      exact ⟨fun extra => hopens.weak extra t, hopens.misplaced t, hopens.restarting t,
        hopens.settled t, fun extra hw h hmis =>
          ⟨hopens.fit extra t hw (fun hm => (h hm).1) hmis, fun _ _ => hopen⟩⟩

lemma resume_settles {closing opening failing : Transport → Transport} (hc : Good P closing)
    (ho : Opens P opening) (hf : Good P failing) (hopen : t.state ≠ .closed) (hp : p ∈ t.pending) :
    ⟨p.call, p.generation, .rejected .unavailable⟩ ∈
      (resume closing opening failing t).settled := by
  have hr := restarted_settled hc t
    (mem_append_right t.settled (mem_map_of_mem hp))
  have hopnd := ho.settled _ hr
  rw [resume_eq, if_neg hopen]
  split
  · exact (failTransport_good hf .unavailable).settled _ hopnd
  · exact hopnd

lemma close_good (hc : Good P closing) : Good P (close closing) := by
  apply Good.of_moves
  intro t
  unfold close
  split
  · exact .refl t
  · constructor
    · intro extra h
      have hcls : Weak P extra { t with
          state := .closed
          generation := t.generation + 1 } := h.congr rfl rfl rfl rfl
      exact (closeSubscriptions_weak hc hcls).rejectPending .unavailable
    · exact fun h => closeSubscriptions_misplaced (t := { t with
        state := .closed
        generation := t.generation + 1 }) hc h
    · exact nofun
    · exact Subset.trans (hc.settled { t with
        state := .closed
        generation := t.generation + 1
        restartingSubscriptions := true }) (rejectPending_settled _ _)
    · exact fun _ _ _ => sound_of_pending_nil rfl

lemma abort_good (call : Text) : Good P (abort call) := by
  apply Good.of_moves
  intro t
  unfold abort
  dsimp only
  split
  · next p hp =>
    have hmem := mem_of_find?_eq_some hp
    have hc : p.call = call := by simpa using find?_some hp
    refine ⟨fun extra h => ?_, fun h => h, fun h => h, subset_append_left _ _,
      fun extra hw h hm => ?_⟩
    · have ha : Weak P extra { t with aborted := t.aborted ++ [call] } :=
        h.congr rfl rfl rfl rfl
      exact ha.settle hmem fun _ _ _ => nofun
    · obtain ⟨hf, ho⟩ := h hm
      refine ⟨fun q hq => ?_, fun hne => ho fun hnil => hne ?_⟩
      · -- The request of the aborted call is the settled one, and no other has that call.
        obtain ⟨hq, hoth⟩ := mem_filter.1 hq
        obtain ⟨hact, hg, ha⟩ := hf q hq
        refine ⟨hact, hg, fun hl => ?_⟩
        rcases mem_append.1 hl with hl | hl
        · exact ha hl
        · rw [mem_singleton, ← hc] at hl
          exact of_decide_eq_true hoth (hw.eq_of_call hq hmem hl ▸ rfl)
      · simp [settle, hnil]
  · next hn =>
    refine ⟨fun _ h => h.congr rfl rfl rfl rfl, fun h => h, fun h => h, .refl _, fun _ _ h hm => ?_⟩
    obtain ⟨hf, ho⟩ := h hm
    refine ⟨fun q hq => ?_, ho⟩
    obtain ⟨hact, hg, ha⟩ := hf q hq
    refine ⟨hact, hg, fun hl => ?_⟩
    rcases mem_append.1 hl with hl | hl
    · exact ha hl
    · rw [mem_singleton] at hl
      exact of_decide_eq_false (Bool.eq_false_iff.2 (find?_eq_none.1 hn q hq)) hl

lemma publishFails_good (hc : Good P closing) (call : Text) :
    Good P (publishFails closing call) := by
  apply Good.of_moves
  intro t
  unfold publishFails
  split
  · exact (failTransport_good hc .unavailable).moves t
  · exact .refl t

mutual

lemma event_good (P : Nip46Platform) : ∀ e : Event, Good P (e.run P)
  | .subscriptionCloses relay generation closing =>
    handleSubscriptionClose_good (events_good P closing) relay generation
  | .responds event closing => handleResponse_good (events_good P closing) event
  | .aborts call => abort_good call
  | .publishFails call closing => publishFails_good (events_good P closing) call
  | .sendRequest call method opening publishing outcome closing =>
    sendRequest_good (openings_opens P opening P.relays) (events_good P publishing)
      (events_good P closing) call method outcome
  | .resume closing opening failing =>
    resume_good (events_good P closing) (openings_opens P opening P.relays)
      (events_good P failing)
  | .close closing => close_good (events_good P closing)

lemma events_good (P : Nip46Platform) : ∀ es : Events, Good P (es.run P)
  | .nil => good_id
  | .cons event rest => (event_good P event).comp (events_good P rest)

lemma openings_opens (P : Nip46Platform) :
    ∀ (os : Openings) (relays : List Text), Opens P (os.run P relays)
  | .nil, relays => Opens.foldl (fun relay => subscribeRelay_opens good_id true relay) relays
  | .cons _ _ _, [] => opens_id
  | .cons during succeeds rest, relay :: relays =>
    (subscribeRelay_opens (events_good P during) succeeds relay).comp
      (openings_opens P rest relays)

end

end

section
variable {P : Nip46Platform} {start t : Transport} {l : List Event}

lemma weak_empty (P : Nip46Platform) : Weak P [] .empty :=
  ⟨nodup_nil, Perm.nil, nofun, nodup_nil, nofun, nofun⟩

lemma Constructed.weak (h : Constructed P start) : Weak P [] start := by
  obtain ⟨opening, rfl, -⟩ := h
  exact (openings_opens P opening P.relays).weak [] _ (weak_empty P)

lemma Constructed.restarting (h : Constructed P start) : start.restartingSubscriptions = false := by
  obtain ⟨opening, rfl, -⟩ := h
  exact Bool.eq_false_iff.2 fun hr =>
    absurd ((openings_opens P opening P.relays).restarting _ hr) nofun

lemma Constructed.sound (h : Constructed P start) : Sound start := by
  obtain ⟨opening, rfl, ho⟩ := h
  intro hm
  exact ⟨(openings_opens P opening P.relays).fit [] _ (weak_empty P)
    (fun _ => nofun) hm, fun _ _ => ho⟩

structure Reached (P : Nip46Platform) (t : Transport) : Prop where
  weak : Weak P [] t
  restarting : t.restartingSubscriptions = false
  sound : Sound t

lemma Reached.step {e : Event} {s : Transport} (h : Reached P s) (hs : Nip46Step P e s t) :
    Reached P t := by
  have hg := event_good P e
  subst hs
  refine ⟨hg.weak [] s h.weak, Bool.eq_false_iff.2 fun hr => ?_, hg.sound [] s h.weak h.sound⟩
  have hb := hg.restarting s hr
  rw [h.restarting] at hb
  cases hb

lemma Reached.run (hsta : Constructed P start) (h : Run (Nip46Step P) start l t) : Reached P t :=
  Run.invariant (I := Reached P) (fun _ _ _ hs hst => hs.step hst) h
    ⟨hsta.weak, hsta.restarting, hsta.sound⟩

lemma handleResponse_stale {closing : Transport → Transport} {event : ResponseEvent} {id : Text}
    {response : JsonValue} (hr : responseRecord P event = some (id, response))
    (hs : ∀ p ∈ t.pending, p.id = id → p.generation ≠ t.generation) :
    handleResponse P closing event t = t ∨
      handleResponse P closing event t = rememberResponse t event.id := by
  unfold handleResponse
  split
  · exact .inl rfl
  · refine .inr ?_
    unfold answerResponse
    rw [hr]
    dsimp only
    split
    · rfl
    · next p hp =>
      have hid : p.id = id := by simpa using find?_some hp
      exact if_pos (hs p (mem_of_find?_eq_some hp) hid)

/-- Calls are registered and published once, pending or settled, and resolve with their response.
Without a request on a failed or aborted transport, the pending ones belong to an active one. -/
theorem pending_request_live (hstart : Constructed P start) (h : Run (Nip46Step P) start l t) :
    (t.published.Nodup ∧ t.calls.Nodup ∧
      (t.pending.map PendingRequest.call ++ t.settled.map Settled.call).Perm t.calls) ∧
    (∀ e ∈ t.settled, ∀ result event receivedIn, e.outcome = .resolved result event receivedIn →
      Carries P event (requestId e.generation e.call) result ∧ receivedIn = e.generation) ∧
    (∀ event closing, ¬ IsResponse P event → (Event.responds event closing).run P t = t) ∧
    (∀ event closing id response, responseRecord P event = some (id, response) →
      (∀ p ∈ t.pending, p.id = id → p.generation ≠ t.generation) →
      (Event.responds event closing).run P t = t ∨
        (Event.responds event closing).run P t = rememberResponse t event.id) ∧
    (∀ closing opening failing, t.state ≠ .closed → ∀ p ∈ t.pending,
      ⟨p.call, p.generation, .rejected .unavailable⟩ ∈
        ((Event.resume closing opening failing).run P t).settled) ∧
    (t.misplaced = [] → ∀ p ∈ t.pending, t.state = .active ∧ t.subscriptions ≠ [] ∧
      p.generation = t.generation ∧ p.call ∉ t.aborted) := by
  have hreached := Reached.run hstart h
  refine ⟨⟨hreached.weak.published, hreached.weak.calls, ?_⟩, hreached.weak.resolved, ?_, ?_, ?_,
    ?_⟩
  · simpa using hreached.weak.accounted
  · intro event closing hforeign
    exact if_pos (Or.inr (Or.inl hforeign))
  · intro event closing id response hrecord hstale
    exact handleResponse_stale hrecord hstale
  · intro closing opening failing hopen p hp
    exact resume_settles (events_good P closing) (openings_opens P opening P.relays)
      (events_good P failing) hopen hp
  · intro hmisplaced p hp
    obtain ⟨hfit, hopen⟩ := hreached.sound hmisplaced
    obtain ⟨hactive, hgeneration, haborted⟩ := hfit p hp
    exact ⟨hactive, hopen (ne_nil_of_mem hp) hreached.restarting, hgeneration, haborted⟩

def samplePlatform : Nip46Platform where
  clientPubkey := "client"
  remotePubkey := "signer"
  relays := ["near", "far"]
  verifyEvent _ := some true
  decryptJson _ := some (.object [("id".toList, .string "0:sign"), ("result".toList, .string "ok")])
  isUnsupported _ := false
  isInvalidNip44CiphertextError _ := false

def sampleResponse : ResponseEvent :=
  ⟨"event", 24133, "signer", [["p".toList, "client".toList]], "sealed"⟩

def sampleStart : Transport := Openings.nil.run samplePlatform samplePlatform.relays .empty

def answeredTwice : List Event :=
  [.sendRequest "sign" "sign_event" .nil .nil .published .nil, .responds sampleResponse .nil,
    .responds sampleResponse .nil]

lemma sampleStart_constructed : Constructed samplePlatform sampleStart :=
  ⟨.nil, rfl, by decide⟩

lemma run_of_foldl (P : Nip46Platform) (l : List Event) (s : Transport) :
    Run (Nip46Step P) s l (l.foldl (fun t e => e.run P t) s) := by
  induction l generalizing s with
  | nil => exact .nil s
  | cons e l ih => exact .cons rfl (ih _)

theorem pending_request_live_answered :
    (answeredTwice.foldl (fun t e => e.run samplePlatform t) sampleStart).settled.map Settled.call =
        ["sign"] ∧
      (answeredTwice.foldl (fun t e => e.run samplePlatform t) sampleStart).published.Nodup :=
  ⟨by decide +kernel, (pending_request_live sampleStart_constructed
    (run_of_foldl samplePlatform answeredTwice sampleStart)).1.1⟩

def closedWhileOpening : List Event :=
  [.subscriptionCloses "near" 0 .nil,
    .sendRequest "sign" "sign_event"
      (.cons (.cons (.subscriptionCloses "far" 0 .nil)
        (.cons (.subscriptionCloses "near" 0 .nil) .nil)) true .nil)
      .nil .published .nil]

/-- The request is then pending and published on a transport that failed. -/
theorem request_pending_on_failed_transport :
    ∃ t, Run (Nip46Step samplePlatform) sampleStart closedWhileOpening t ∧
      Constructed samplePlatform sampleStart ∧ t.published = ["sign".toList] ∧
      t.pending.map PendingRequest.call = ["sign".toList] ∧ t.state = .unavailable :=
  ⟨_, run_of_foldl samplePlatform closedWhileOpening sampleStart, sampleStart_constructed,
    by decide +kernel, by decide +kernel, by decide +kernel⟩

end

end Conduit.Signer.Nip46
