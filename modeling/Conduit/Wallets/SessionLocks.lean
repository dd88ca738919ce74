import Conduit.Throwing
import Conduit.Wallets.Sessions
import Mathlib.Data.Option.Basic

namespace Conduit.Wallets.Sessions

open Js Runs Function Throwing List Option

/-- The locks that a call of `#open` holds, and whether its client exists. -/
def Opens (s : Tabs) (c : Session) : Opening → Prop
  | .closing | .derivesKeys | .releasingRegistration | .releasing false _ => c ∉ s.created
  | .lockingIdentity => c ∉ s.created ∧ s.held (.registration c.walletId) = some c
  | .creating => c ∉ s.created ∧ s.held (.registration c.walletId) = some c ∧
    s.held (.identity c.identityKey) = some c
  | .listening | .removingListener | .disconnecting _ =>
    c ∈ s.created ∧ s.held (.registration c.walletId) = some c
  | .releasing true _ => c ∈ s.created ∧ s.held (.registration c.walletId) = some c ∧
    s.disconnected c = true

/-- A client in a manager's maps. -/
structure Attached (s : Tabs) (p : Place) (c : Session) : Prop where
  place : c.place = p
  created : c ∈ s.created
  lease : s.sessionLeases p = some c
  locked : s.held (.registration c.walletId) = some c
  opened : s.opening c = none
  disconnected : s.disconnectedWallets p = true → s.disconnected c = true

structure Inv (s : Tabs) : Prop where
  attached : ∀ p c, s.clients p = some c → Attached s p c
  detached : ∀ p, s.clients p = none → s.disconnectedWallets p = false
  closing : ∀ p a, s.closeAttempts p = some a → s.clients p = some a.client ∧
    a.lease = some a.client ∧ s.quarantinedWallets p = true ∧
    (a.phase = .releasing → s.disconnected a.client = true)
  connected : ∀ c ∈ s.created, s.disconnected c = false →
    s.held (.registration c.walletId) = some c ∧ s.held (.identity c.identityKey) = some c
  opening : ∀ c o, s.opening c = some o → Opens s c o ∧ c.id < s.nextId
  live : ∀ p c, s.clients p = some c → s.quarantinedWallets p = false →
    s.closed c = false ∧ (c.signIn ≠ none → s.authorities p = c.signIn)
  unclean : ∀ c, s.unclean c = true →
    s.clients c.place = some c ∧ s.quarantinedWallets c.place = true
  closed : ∀ c, s.closed c = true → c ∈ s.created ∧ s.opening c = none
  known : ∀ c ∈ s.created, c.id < s.nextId
  nodup : s.created.Nodup
  sends : ∀ x ∈ s.sends, x.late = false

section
variable {s t : Tabs} {c d : Session} {p : Place} {o : Opening}

lemma inv_start : Inv .start where
  attached _ _ := nofun
  detached _ _ := rfl
  closing _ _ := nofun
  connected _ := nofun
  opening _ _ := nofun
  live _ _ := nofun
  unclean _ := nofun
  closed _ := nofun
  known _ := nofun
  nodup := nodup_nil
  sends _ := nofun

section

variable (h : Inv s)
include h

section

variable (ho : s.opening c ≠ none)
include ho

lemma Inv.not_attached : s.clients p ≠ some c :=
  fun hc => ho (h.attached p c hc).opened

lemma Inv.not_closed : s.closed c = false :=
  Bool.eq_false_iff.2 fun hc => ho (h.closed c hc).2

lemma Inv.vacant (hh : s.held (.registration c.walletId) = some c) : s.clients c.place = none := by
  apply eq_none_iff_forall_ne_some.2
  intro d hd
  have ha := h.attached _ _ hd
  have hw : d.walletId = c.walletId := congrArg Prod.snd ha.place
  have hl := ha.locked
  rw [hw, hh] at hl
  cases hl
  exact h.not_attached ho hd

end

lemma Inv.setOpening {phase : Option Opening}
    (hph : ∀ o, phase = some o → Opens s c o ∧ c.id < s.nextId ∧ s.closed c = false ∧
      ∀ p, s.clients p ≠ some c) : Inv (setOpening s c phase) where
  attached p d hd := by
    have ha := h.attached p d hd
    refine ⟨ha.place, ha.created, ha.lease, ha.locked, ?_, ha.disconnected⟩
    by_cases hdc : d = c
    · subst hdc
      cases phase with
      | none => exact update_self ..
      | some o => exact absurd hd ((hph o rfl).2.2.2 p)
    · exact (update_of_ne hdc ..).trans ha.opened
  detached := h.detached
  closing := h.closing
  connected := h.connected
  opening d o ho := by
    have hopens : ∀ d o, Opens (Sessions.setOpening s c phase) d o ↔ Opens s d o :=
      fun d o => by cases o <;> rfl
    have hp : update s.opening c phase d = some o := ho
    rw [update_apply] at hp
    split at hp
    · next hdc =>
      subst hdc
      have hn := hph o hp
      exact ⟨(hopens d o).2 hn.1, hn.2.1⟩
    · obtain ⟨hold, hid⟩ := h.opening d o hp
      exact ⟨(hopens d o).2 hold, hid⟩
  live := h.live
  unclean := h.unclean
  closed d hd := by
    refine ⟨(h.closed d hd).1, ?_⟩
    by_cases hdc : d = c
    · subst hdc
      cases phase with
      | none => exact update_self ..
      | some o =>
        have hc := (hph o rfl).2.2.1
        rw [show s.closed d = true from hd] at hc
        cases hc
    · exact (update_of_ne hdc ..).trans (h.closed d hd).2
  known := h.known
  nodup := h.nodup
  sends := h.sends

lemma Inv.advance (ho : s.opening c ≠ none) {o : Opening} (hopens : Opens s c o) :
    Inv (Sessions.setOpening s c (some o)) := by
  obtain ⟨o', ho'⟩ := ne_none_iff_exists'.1 ho
  apply h.setOpening
  intro o'' heq
  cases heq
  exact ⟨hopens, (h.opening c o' ho').2, h.not_closed ho, fun p => h.not_attached ho⟩

lemma Inv.stop : Inv (Sessions.setOpening s c none) :=
  h.setOpening fun _ => nofun

end

lemma opens_congr (hm : t.created = s.created) (hh : t.held = s.held)
    (hd : t.disconnected = s.disconnected) (h : Opens s c o) : Opens t c o := by
  unfold Opens at *
  rw [hm, hh, hd]
  exact h

lemma Inv.beginClose (h : Inv s) (wallets : Place → Bool) : Inv (beginClose s wallets) where
  attached p c hc :=
    let hatt := h.attached p c hc
    ⟨hatt.place, hatt.created, hatt.lease, hatt.locked, hatt.opened,
      hatt.disconnected⟩
  detached := h.detached
  closing p a ha := by
    simp only [Sessions.beginClose] at ha ⊢
    split at ha
    · next hb =>
      obtain ⟨c, hc, rfl⟩ := map_eq_some_iff.1 ha
      refine ⟨hc, (h.attached p c hc).lease, ?_, fun hph => ?_⟩
      · rw [hb, hc]
        simp
      · apply (h.attached p c hc).disconnected
        by_contra hd
        simp [closePhase] at hph
        split at hph <;> cases hph
    · obtain ⟨hc, hl, hq, hph⟩ := h.closing p a ha
      refine ⟨hc, hl, ?_, hph⟩
      rw [hq, Bool.true_or]
  connected := h.connected
  opening c o ho := ⟨opens_congr (s := s) rfl rfl rfl (h.opening c o ho).1, (h.opening c o ho).2⟩
  live p c hc hq := by
    have hatt := h.attached p c hc
    simp only [Sessions.beginClose, Bool.or_eq_false_iff] at hq ⊢
    obtain ⟨hqu, hb⟩ := hq
    rw [show s.clients p = some c from hc] at hb
    simp only [isSome_some, Bool.and_true] at hb
    obtain ⟨hcls, hau⟩ := h.live p c hc hqu
    refine ⟨⟨hcls, ?_⟩, fun hs => ?_⟩
    · rw [hatt.place]
      by_contra hwal
      have hw : wallets p = true := by
        by_contra hw
        simp [hw] at hwal
      -- The att that is joined has quarantined the wallet.
      rw [hw, Bool.true_and, isNone_eq_false_iff] at hb
      obtain ⟨a, ha⟩ := isSome_iff_exists.1 hb
      have hj := (h.closing p a ha).2.2.1
      rw [hqu] at hj
      cases hj
    · rw [if_neg (by rw [hb]; exact Bool.false_ne_true)]
      exact hau hs
  unclean c hc := by
    obtain ⟨hclt, hq⟩ := h.unclean c hc
    refine ⟨hclt, ?_⟩
    simp only [Sessions.beginClose, hq, Bool.true_or]
  closed c hc := by
    simp only [Sessions.beginClose, Bool.or_eq_true, Bool.and_eq_true, decide_eq_true_eq] at hc
    rcases hc with hc | ⟨-, hc⟩
    · exact h.closed c hc
    · exact ⟨(h.attached _ c hc).created, (h.attached _ c hc).opened⟩
  known := h.known
  nodup := h.nodup
  sends := h.sends

lemma Inv.endClose (h : Inv s) (p : Place) (ok : Bool) : Inv (endClose s p ok) where
  attached q c hc := by
    have hatt := h.attached q c hc
    refine ⟨hatt.place, hatt.created, hatt.lease, hatt.locked, ?_, hatt.disconnected⟩
    simp only [Sessions.endClose]
    rw [if_neg]
    · exact hatt.opened
    · rintro ⟨-, ho⟩
      rw [hatt.opened] at ho
      cases ho
  detached := h.detached
  closing q a ha := by
    simp only [Sessions.endClose, update_apply] at ha
    split at ha
    · cases ha
    · exact h.closing q a ha
  connected := h.connected
  opening c o ho := by
    simp only [Sessions.endClose] at ho
    split at ho
    · next hcls =>
      obtain ⟨hopens, hid⟩ := h.opening c .closing hcls.2
      split at ho
      · cases ho
        exact ⟨hopens, hid⟩
      · cases ho
    · obtain ⟨hopens, hid⟩ := h.opening c o ho
      exact ⟨opens_congr (s := s) rfl rfl rfl hopens, hid⟩
  live := h.live
  unclean := h.unclean
  closed c hc := by
    obtain ⟨hm, hopen⟩ := h.closed c hc
    refine ⟨hm, ?_⟩
    simp only [Sessions.endClose]
    rw [if_neg]
    · exact hopen
    · rintro ⟨-, ho⟩
      rw [hopen] at ho
      cases ho
  known := h.known
  nodup := h.nodup
  sends := h.sends

variable {a : Closing} {held : LockName → Option Session} {outcome : Release}

section

variable (h : Inv s)
include h

lemma Inv.setClosing (hclt : s.clients p = some a.client) (hl : a.lease = some a.client)
    (hqu : s.quarantinedWallets p = true)
    (hph : a.phase = .releasing → s.disconnected a.client = true) : Inv (setClosing s p a) where
  attached q c hc :=
    let ha := h.attached q c hc
    ⟨ha.place, ha.created, ha.lease, ha.locked, ha.opened,
      ha.disconnected⟩
  detached := h.detached
  closing q b hb := by
    simp only [Sessions.setClosing, update_apply] at hb
    split at hb
    · next hq =>
      cases hb
      subst hq
      exact ⟨hclt, hl, hqu, hph⟩
    · exact h.closing q b hb
  connected := h.connected
  opening c o ho := ⟨opens_congr (s := s) rfl rfl rfl (h.opening c o ho).1, (h.opening c o ho).2⟩
  live := h.live
  unclean := h.unclean
  closed := h.closed
  known := h.known
  nodup := h.nodup
  sends := h.sends

lemma Inv.setListeners (eventListeners : Place → Bool) :
    Inv { s with eventListeners := eventListeners } where
  attached q c hc :=
    let ha := h.attached q c hc
    ⟨ha.place, ha.created, ha.lease, ha.locked, ha.opened,
      ha.disconnected⟩
  detached := h.detached
  closing := h.closing
  connected := h.connected
  opening c o ho := ⟨opens_congr (s := s) rfl rfl rfl (h.opening c o ho).1, (h.opening c o ho).2⟩
  live := h.live
  unclean := h.unclean
  closed := h.closed
  known := h.known
  nodup := h.nodup
  sends := h.sends

lemma Inv.removedListener (ha : s.closeAttempts p = some a) (ok : Bool) :
    Inv (removedListener s p a ok) := by
  obtain ⟨hc, hl, hq, -⟩ := h.closing p a ha
  have hph : closePhase s p = .releasing → s.disconnected a.client = true := by
    intro hph
    apply (h.attached p _ hc).disconnected
    by_contra hd
    simp [closePhase, hd] at hph
  cases ok with
  | true =>
    exact (h.setListeners (update s.eventListeners p false)).setClosing hc hl
      hq hph
  | false => exact h.setClosing hc hl hq hph

lemma Inv.disconnect (c : Session) :
    Inv { s with disconnected := update s.disconnected c true } := by
  have hk : ∀ d, s.disconnected d = true → update s.disconnected c true d = true := by
    intro d hd
    rw [update_apply]
    split
    · rfl
    · exact hd
  constructor
  · intro q d hd
    have hatt := h.attached q d hd
    exact ⟨hatt.place, hatt.created, hatt.lease, hatt.locked, hatt.opened,
      fun hdi => hk d (hatt.disconnected hdi)⟩
  · exact h.detached
  · intro q a ha
    obtain ⟨hc, hl, hq, hph⟩ := h.closing q a ha
    exact ⟨hc, hl, hq, fun hr => hk _ (hph hr)⟩
  · intro d hd hdi
    apply h.connected d hd
    by_contra hb
    rw [Bool.not_eq_false] at hb
    have haf := hk d hb
    rw [show update s.disconnected c true d = false from hdi] at haf
    cases haf
  · intro d o ho
    obtain ⟨hopens, hid⟩ := h.opening d o ho
    refine ⟨?_, hid⟩
    cases o with
    | releasing created listener =>
      cases created with
      | true => exact ⟨hopens.1, hopens.2.1, hk d hopens.2.2⟩
      | false => exact hopens
    | closing | derivesKeys | lockingIdentity | releasingRegistration | creating | listening |
      removingListener | disconnecting _ => exact hopens
  · exact h.live
  · exact h.unclean
  · exact h.closed
  · exact h.known
  · exact h.nodup
  · exact h.sends

lemma Inv.markDisconnected (hc : s.clients p = some c) (hdi : s.disconnected c = true) :
    Inv { s with disconnectedWallets := update s.disconnectedWallets p true } := by
  constructor
  · intro q d hd
    have ha := h.attached q d hd
    refine ⟨ha.place, ha.created, ha.lease, ha.locked, ha.opened, fun hm => ?_⟩
    by_cases hq : q = p
    · subst hq
      have hdc : d = c := some.inj (hd.symm.trans hc)
      exact hdc ▸ hdi
    · exact ha.disconnected ((update_of_ne hq true s.disconnectedWallets).symm.trans hm)
  · intro q hq
    have hne : q ≠ p := by
      rintro rfl
      rw [show s.clients q = none from hq] at hc
      cases hc
    exact (update_of_ne hne true s.disconnectedWallets).trans (h.detached q hq)
  · exact h.closing
  · exact h.connected
  · exact fun d o ho => ⟨opens_congr (s := s) rfl rfl rfl (h.opening d o ho).1,
      (h.opening d o ho).2⟩
  · exact h.live
  · exact h.unclean
  · exact h.closed
  · exact h.known
  · exact h.nodup
  · exact h.sends

lemma Inv.markUnclean (hc : s.clients c.place = some c) (hq : s.quarantinedWallets c.place = true) :
    Inv { s with unclean := update s.unclean c true } := by
  constructor
  · intro q d hd
    have ha := h.attached q d hd
    exact ⟨ha.place, ha.created, ha.lease, ha.locked, ha.opened, ha.disconnected⟩
  · exact h.detached
  · exact h.closing
  · exact h.connected
  · exact fun d o ho => ⟨opens_congr (s := s) rfl rfl rfl (h.opening d o ho).1,
      (h.opening d o ho).2⟩
  · exact h.live
  · intro d hd
    by_cases hdc : d = c
    · subst hdc
      exact ⟨hc, hq⟩
    · exact h.unclean d ((update_of_ne hdc true s.unclean).symm.trans hd)
  · exact h.closed
  · exact h.known
  · exact h.nodup
  · exact h.sends

lemma Inv.disconnectedClosing (ha : s.closeAttempts p = some a) (ok : Bool) :
    Inv (disconnectedClosing s p a ok) := by
  obtain ⟨hc, hl, hq, -⟩ := h.closing p a ha
  have hp := (h.attached p _ hc).place
  cases ok with
  | true =>
    have hd : update s.disconnected a.client true a.client = true := update_self ..
    exact ((h.disconnect a.client).markDisconnected hc hd).setClosing hc hl
      hq fun _ => hd
  | false =>
    subst hp
    exact (h.markUnclean hc hq).endClose _ _

end

lemma unlock_keeps {name n : LockName} (hne : d ≠ c) (h : held n = some d) :
    unlock held name c n = some d := by
  unfold unlock
  split
  · next hn =>
    rw [update_apply]
    split
    · next heq =>
      subst heq
      exact absurd (some.inj (h.symm.trans hn)) hne
    · exact h
  · exact h

lemma releaseLease_keeps {n : LockName} (hne : d ≠ c) (h : held n = some d) :
    releaseLease held c outcome n = some d := by
  cases outcome with
  | released => exact unlock_keeps hne (unlock_keeps hne h)
  | failed registrationFreed identityFreed =>
    have hr : (if registrationFreed = true then
        unlock held (.registration c.walletId) c else held) n = some d := by
      split
      · exact unlock_keeps hne h
      · exact h
    simp only [releaseLease]
    split
    · exact unlock_keeps hne hr
    · exact hr

lemma releaseLease_registration {identityFreed : Bool} {walletId : Text} :
    releaseLease held c (.failed false identityFreed) (.registration walletId) =
      held (.registration walletId) := by
  simp only [releaseLease, Bool.false_eq_true, if_false]
  split
  · unfold unlock
    split
    · exact update_of_ne (by simp) ..
    · rfl
  · rfl

lemma Inv.setHeld (h : Inv s) (hl : ∀ n d, s.held n = some d → held n = some d ∨
      (d ∈ s.created → s.disconnected d = true) ∧ s.opening d = none ∧
        (n = .registration d.walletId → ∀ p, s.clients p ≠ some d)) :
    Inv { s with held := held } := by
  have hopen : ∀ n d, s.held n = some d → s.opening d ≠ none → held n = some d := by
    intro n d hn ho
    rcases hl n d hn with hk | ⟨-, hno, -⟩
    · exact hk
    · exact absurd hno ho
  have hc : ∀ n d, s.held n = some d → d ∈ s.created → s.disconnected d = false →
      held n = some d := by
    intro n d hn hm hdi
    rcases hl n d hn with hk | ⟨hlo, -⟩
    · exact hk
    · rw [hlo hm] at hdi
      cases hdi
  constructor
  · intro q d hd
    have ha := h.attached q d hd
    refine ⟨ha.place, ha.created, ha.lease, ?_, ha.opened, ha.disconnected⟩
    rcases hl _ d ha.locked with hk | ⟨-, -, hno⟩
    · exact hk
    · exact absurd hd (hno rfl q)
  · exact h.detached
  · exact h.closing
  · intro d hd hdi
    obtain ⟨hr, hi⟩ := h.connected d hd hdi
    exact ⟨hc _ d hr hd hdi, hc _ d hi hd hdi⟩
  · intro d o ho
    obtain ⟨hopens, hid⟩ := h.opening d o ho
    have hne : s.opening d ≠ none := by
      rw [show s.opening d = some o from ho]
      exact some_ne_none o
    refine ⟨?_, hid⟩
    cases o with
    | releasing created listener =>
      cases created with
      | true => exact ⟨hopens.1, hopen _ d hopens.2.1 hne, hopens.2.2⟩
      | false => exact hopens
    | lockingIdentity => exact ⟨hopens.1, hopen _ d hopens.2 hne⟩
    | creating => exact ⟨hopens.1, hopen _ d hopens.2.1 hne, hopen _ d hopens.2.2 hne⟩
    | listening | removingListener | disconnecting _ =>
      exact ⟨hopens.1, hopen _ d hopens.2 hne⟩
    | closing | derivesKeys | releasingRegistration => exact hopens
  · exact h.live
  · exact h.unclean
  · exact h.closed
  · exact h.known
  · exact h.nodup
  · exact h.sends

lemma Inv.lock (h : Inv s) {name : LockName} (hf : s.held name = none) (c : Session) :
    Inv { s with held := update s.held name (some c) } := by
  apply h.setHeld
  intro n d hn
  refine .inl ?_
  have hne : n ≠ name := by
    rintro rfl
    rw [hf] at hn
    cases hn
  exact (update_of_ne hne ..).trans hn

lemma Inv.release (h : Inv s) (hc : c ∈ s.created → s.disconnected c = true)
    (ho : s.opening c = none) (ha : ∀ p, s.clients p = some c →
      ∃ identityFreed, outcome = .failed false identityFreed) :
    Inv { s with held := releaseLease s.held c outcome } := by
  apply h.setHeld
  intro n d hn
  by_cases hdc : d = c
  · subst hdc
    by_cases hk : releaseLease s.held d outcome n = some d
    · exact .inl hk
    · refine .inr ⟨hc, ho, ?_⟩
      rintro rfl q hq
      obtain ⟨identityFreed, rfl⟩ := ha q hq
      exact hk (releaseLease_registration.trans hn)
  · exact .inl (releaseLease_keeps hdc hn)

lemma Inv.forget (h : Inv s) (hc : s.clients p = some c) (ha : s.closeAttempts p = none) :
    Inv (forget { s with unclean := update s.unclean c false } p) := by
  have hoth : ∀ q d, update s.clients p none q = some d → q ≠ p ∧ s.clients q = some d := by
    intro q d hd
    rw [update_apply] at hd
    split at hd
    · cases hd
    · next hq => exact ⟨hq, hd⟩
  constructor
  · intro q d hd
    obtain ⟨hq, hd⟩ := hoth q d hd
    have hatt := h.attached q d hd
    refine ⟨hatt.place, hatt.created, ?_, hatt.locked, hatt.opened, fun hm => ?_⟩
    · simp only [Sessions.forget, update_of_ne hq]
      exact hatt.lease
    · simp only [Sessions.forget, update_of_ne hq] at hm
      exact hatt.disconnected hm
  · intro q hq
    by_cases hqp : q = p
    · subst hqp
      simp only [Sessions.forget, update_self]
    · simp only [Sessions.forget, update_of_ne hqp] at hq ⊢
      exact h.detached q hq
  · intro q a hqa
    have hqp : q ≠ p := by
      rintro rfl
      rw [show s.closeAttempts q = some a from hqa] at ha
      cases ha
    simp only [Sessions.forget, update_of_ne hqp]
    exact h.closing q a hqa
  · exact h.connected
  · exact fun d o ho => ⟨opens_congr (s := s) rfl rfl rfl (h.opening d o ho).1,
      (h.opening d o ho).2⟩
  · intro q d hd hqu
    obtain ⟨hq, hd⟩ := hoth q d hd
    simp only [Sessions.forget, update_of_ne hq] at hqu
    exact h.live q d hd hqu
  · intro d hd
    have hu : update s.unclean c false d = true := hd
    rw [update_apply] at hu
    split at hu
    · cases hu
    · next hdc =>
      have hk := h.unclean d hu
      have hdp : d.place ≠ p := by
        intro heq
        rw [heq, hc] at hk
        exact hdc (some.inj hk.1).symm
      simp only [Sessions.forget, update_of_ne hdp]
      exact hk
  · exact h.closed
  · exact h.known
  · exact h.nodup
  · exact h.sends

lemma Inv.releasedClosing (h : Inv s) (ha : s.closeAttempts p = some a) (hph : a.phase = .releasing)
    (hk : ∀ registrationFreed identityFreed, outcome = .failed registrationFreed identityFreed →
      registrationFreed = false) : Inv (releasedClosing s p a outcome) := by
  obtain ⟨hc, hl, hqu, hd⟩ := h.closing p a ha
  have hatt := h.attached p _ hc
  unfold Sessions.releasedClosing
  rw [hl]
  cases outcome with
  | released =>
    have he := h.endClose p (!a.cleanupErrors)
    have hf := he.forget hc (update_self ..)
    have hg : ∀ q, update s.clients p none q ≠ some a.client := by
      intro q hm
      rw [update_apply] at hm
      split at hm
      · cases hm
      · next hqp => exact hqp ((h.attached q _ hm).place.symm.trans hatt.place)
    have hr : Inv { Sessions.forget { Sessions.endClose s p (!a.cleanupErrors) with
        unclean := update s.unclean a.client false } p with
          held := releaseLease s.held a.client .released } :=
      hf.release (fun _ => hd hph) (he.attached p _ hc).opened
        fun q hq => absurd hq (hg q)
    exact hr
  | failed registrationFreed identityFreed =>
    obtain rfl := hk _ _ rfl
    have hp := hatt.place
    subst hp
    exact ((h.release (fun _ => hd hph) hatt.opened
      fun q hq => ⟨identityFreed, rfl⟩).markUnclean hc hqu).endClose _ _

section

variable (h : Inv s)
include h

lemma Inv.update_clients (ho : s.opening c ≠ none) {q : Place}
    (hd : update s.clients c.place (some c) q = some d) :
    q = c.place ∧ d = c ∨ q ≠ c.place ∧ d ≠ c ∧ s.clients q = some d := by
  rw [update_apply] at hd
  split at hd
  · next hq => exact .inl ⟨hq, (some.inj hd).symm⟩
  · next hq =>
    refine .inr ⟨hq, fun hdc => ?_, hd⟩
    subst hdc
    exact h.not_attached ho hd

lemma Inv.not_closing (hc : s.clients p = none) : s.closeAttempts p ≠ some a := by
  intro ha
  have hclt := (h.closing p a ha).1
  rw [hc] at hclt
  cases hclt

lemma Inv.not_unclean (hc : s.clients c.place = none) : s.unclean c ≠ true := by
  intro hu
  have hclt := (h.unclean c hu).1
  rw [hc] at hclt
  cases hclt

lemma Inv.opening_update (hd : update s.opening c none d = some o) :
    Opens s d o ∧ d.id < s.nextId := by
  rw [update_apply] at hd
  split at hd
  · cases hd
  · exact h.opening d o hd

lemma Inv.closed_update (hd : s.closed d = true) (c : Session) :
    d ∈ s.created ∧ update s.opening c none d = none := by
  obtain ⟨hm, hopen⟩ := h.closed d hd
  refine ⟨hm, ?_⟩
  rw [update_apply]
  split
  · rfl
  · exact hopen

lemma Inv.attach (ho : s.opening c ≠ none) (hma : c ∈ s.created)
    (hh : s.held (.registration c.walletId) = some c) (listener : Bool) :
    Inv (attach s c listener) := by
  have hv := h.vacant ho hh
  constructor
  · intro q d hd
    rcases h.update_clients ho hd with ⟨rfl, rfl⟩ | ⟨hq, hdc, hd⟩
    · refine ⟨rfl, hma, ?_, hh, ?_, fun hm => ?_⟩
      · simp only [Sessions.attach, update_self]
      · simp only [Sessions.attach, update_self]
      · simp only [Sessions.attach, update_self] at hm
        cases hm
    · have hatt := h.attached q d hd
      refine ⟨hatt.place, hatt.created, ?_, hatt.locked, ?_, fun hm => ?_⟩
      · simp only [Sessions.attach, update_of_ne hq]
        exact hatt.lease
      · simp only [Sessions.attach, update_of_ne hdc]
        exact hatt.opened
      · simp only [Sessions.attach, update_of_ne hq] at hm
        exact hatt.disconnected hm
  · intro q hq
    by_cases hqp : q = c.place
    · subst hqp
      simp only [Sessions.attach, update_self]
    · simp only [Sessions.attach, update_of_ne hqp] at hq ⊢
      exact h.detached q hq
  · intro q a ha
    have hold := h.closing q a ha
    have hqp : q ≠ c.place := fun heq => h.not_closing (heq ▸ hv) ha
    simp only [Sessions.attach, update_of_ne hqp]
    exact hold
  · exact h.connected
  · intro d o hd
    obtain ⟨hopens, hid⟩ := h.opening_update hd
    exact ⟨opens_congr (s := s) rfl rfl rfl hopens, hid⟩
  · intro q d hd hqu
    rcases h.update_clients ho hd with ⟨rfl, rfl⟩ | ⟨hq, hdc, hd⟩
    · refine ⟨h.not_closed ho, fun hs => ?_⟩
      simp only [Sessions.attach, if_neg hs, update_self]
    · simp only [Sessions.attach, update_of_ne hq] at hqu ⊢
      obtain ⟨hc, hau⟩ := h.live q d hd hqu
      refine ⟨hc, fun hs => ?_⟩
      split
      · exact hau hs
      · rw [update_of_ne hq]
        exact hau hs
  · intro d hd
    have hold := h.unclean d hd
    have hdp : d.place ≠ c.place := fun heq => h.not_unclean (heq ▸ hv) hd
    simp only [Sessions.attach, update_of_ne hdp]
    exact hold
  · exact fun d hd => h.closed_update hd c
  · exact h.known
  · exact h.nodup
  · exact h.sends

lemma Inv.keepUnclean (ho : s.opening c ≠ none) (hma : c ∈ s.created)
    (hh : s.held (.registration c.walletId) = some c) (disconnected : Bool)
    (hdi : disconnected = true → s.disconnected c = true) (listener : Bool) :
    Inv (keepUnclean s c disconnected listener) := by
  have hv := h.vacant ho hh
  constructor
  · intro q d hd
    rcases h.update_clients ho hd with ⟨rfl, rfl⟩ | ⟨hq, hdc, hd⟩
    · refine ⟨rfl, hma, ?_, hh, ?_, fun hm => ?_⟩
      · simp only [Sessions.keepUnclean, update_self]
      · simp only [Sessions.keepUnclean, update_self]
      · simp only [Sessions.keepUnclean] at hm
        split at hm
        · next hf => exact hdi hf
        · rw [h.detached _ hv] at hm
          cases hm
    · have hatt := h.attached q d hd
      refine ⟨hatt.place, hatt.created, ?_, hatt.locked, ?_, fun hm => ?_⟩
      · simp only [Sessions.keepUnclean, update_of_ne hq]
        exact hatt.lease
      · simp only [Sessions.keepUnclean, update_of_ne hdc]
        exact hatt.opened
      · simp only [Sessions.keepUnclean] at hm
        split at hm
        · rw [update_of_ne hq] at hm
          exact hatt.disconnected hm
        · exact hatt.disconnected hm
  · intro q hq
    have hqp : q ≠ c.place := by
      rintro rfl
      simp only [Sessions.keepUnclean, update_self] at hq
      cases hq
    simp only [Sessions.keepUnclean, update_of_ne hqp] at hq ⊢
    split
    · rw [update_of_ne hqp]
      exact h.detached q hq
    · exact h.detached q hq
  · intro q a ha
    have hold := h.closing q a ha
    have hqp : q ≠ c.place := fun heq => h.not_closing (heq ▸ hv) ha
    simp only [Sessions.keepUnclean, update_of_ne hqp]
    exact hold
  · exact h.connected
  · intro d o hd
    obtain ⟨hopens, hid⟩ := h.opening_update hd
    exact ⟨opens_congr (s := s) rfl rfl rfl hopens, hid⟩
  · intro q d hd hqu
    rcases h.update_clients ho hd with ⟨rfl, rfl⟩ | ⟨hq, hdc, hd⟩
    · simp only [Sessions.keepUnclean, update_self] at hqu
      cases hqu
    · simp only [Sessions.keepUnclean, update_of_ne hq] at hqu
      exact h.live q d hd hqu
  · intro d hd
    by_cases hdc : d = c
    · subst hdc
      simp only [Sessions.keepUnclean, update_self, and_self]
    · simp only [Sessions.keepUnclean, update_of_ne hdc] at hd
      have hold := h.unclean d hd
      have hdp : d.place ≠ c.place := fun heq => h.not_unclean (heq ▸ hv) hd
      simp only [Sessions.keepUnclean, update_of_ne hdp]
      exact hold
  · exact fun d hd => h.closed_update hd c
  · exact h.known
  · exact h.nodup
  · exact h.sends

lemma Inv.create (ho : s.opening c = some .creating) :
    Inv (Sessions.setOpening { s with created := c :: s.created } c (some .listening)) := by
  obtain ⟨⟨hnew, hr, hi⟩, hid⟩ := h.opening c .creating ho
  have hne : s.opening c ≠ none := by
    rw [ho]
    exact some_ne_none _
  have hs : ∀ d, s.opening d = none → d ≠ c ∧ update s.opening c (some .listening)
    d = none := by
    intro d hd
    have hdc : d ≠ c := by
      rintro rfl
      exact hne hd
    exact ⟨hdc, (update_of_ne hdc (some Opening.listening) s.opening).trans hd⟩
  constructor
  · intro q d hd
    have ha := h.attached q d hd
    exact ⟨ha.place, .tail _ ha.created, ha.lease, ha.locked, (hs d ha.opened).2, ha.disconnected⟩
  · exact h.detached
  · exact h.closing
  · intro d hd hdi
    rcases mem_cons.1 hd with rfl | hd
    · exact ⟨hr, hi⟩
    · exact h.connected d hd hdi
  · intro d o hd
    have hp : update s.opening c (some .listening) d = some o := hd
    rw [update_apply] at hp
    split at hp
    · next hdc =>
      subst hdc
      cases hp
      exact ⟨⟨.head _, hr⟩, hid⟩
    · next hdc =>
      obtain ⟨hopens, hd⟩ := h.opening d o hp
      have hn : d ∉ s.created → d ∉ c :: s.created := by
        intro hd hm
        rcases mem_cons.1 hm with hm | hm
        · exact hdc hm
        · exact hd hm
      refine ⟨?_, hd⟩
      cases o with
      | releasing created listener =>
        cases created with
        | true => exact ⟨.tail _ hopens.1, hopens.2⟩
        | false => exact hn hopens
      | lockingIdentity | creating => exact ⟨hn hopens.1, hopens.2⟩
      | listening | removingListener | disconnecting _ =>
        exact ⟨.tail _ hopens.1, hopens.2⟩
      | closing | derivesKeys | releasingRegistration => exact hn hopens
  · exact h.live
  · exact h.unclean
  · intro d hd
    obtain ⟨hma, hopen⟩ := h.closed d hd
    exact ⟨.tail _ hma, (hs d hopen).2⟩
  · intro d hd
    rcases mem_cons.1 hd with rfl | hd
    · exact hid
    · exact h.known d hd
  · exact nodup_cons.2 ⟨hnew, h.nodup⟩
  · exact h.sends

lemma Inv.finishOpening (ho : s.opening c ≠ none) (hm : c ∈ s.created)
    (hh : s.held (.registration c.walletId) = some c) (listener : Bool) :
    Inv (finishOpening s c listener) := by
  unfold Sessions.finishOpening
  split
  · apply h.advance ho
    split
    · exact ⟨hm, hh⟩
    · exact ⟨hm, hh⟩
  · exact h.attach ho hm hh listener

lemma Inv.releasedOpening {created listener : Bool}
    (ho : s.opening c = some (.releasing created listener))
    (hkps : ∀ registrationFreed identityFreed, outcome = .failed registrationFreed identityFreed →
      registrationFreed = false) : Inv (releasedOpening s c created listener outcome) := by
  have hne : s.opening c ≠ none := by
    rw [ho]
    exact some_ne_none _
  have hd : c ∈ s.created → s.disconnected c = true := by
    intro hm
    obtain ⟨hopens, -⟩ := h.opening c _ ho
    cases created with
    | true => exact hopens.2.2
    | false => exact absurd hm hopens
  -- The call ends first; then its lease is released.
  have hs : Inv { Sessions.setOpening s c none with held := releaseLease s.held c outcome } :=
    h.stop.release hd (update_self ..) fun p hp => absurd hp (h.not_attached hne)
  unfold Sessions.releasedOpening
  cases outcome with
  | released => exact hs
  | failed registrationFreed identityFreed =>
    obtain rfl := hkps _ _ rfl
    dsimp only
    split
    · next hma =>
      subst hma
      obtain ⟨⟨hm, hh, hg⟩, -⟩ := h.opening c _ ho
      have hk := h.keepUnclean hne hm hh true (fun _ => hg) listener
      have hr : Inv { Sessions.keepUnclean s c true listener with
          held := releaseLease s.held c (.failed false identityFreed) } :=
        hk.release hd (update_self ..) fun p hp => ⟨identityFreed, rfl⟩
      exact hr
    · exact hs

end

lemma Inv.congr (h : Inv s) (hh : t.held = s.held) (hcl : t.clients = s.clients)
    (hl : t.sessionLeases = s.sessionLeases) (hq : t.quarantinedWallets = s.quarantinedWallets)
    (hmrk : t.disconnectedWallets = s.disconnectedWallets)
    (haut : t.authorities = s.authorities) (hcls : t.closeAttempts = s.closeAttempts)
    (hopen : t.opening = s.opening) (hid : s.nextId ≤ t.nextId) (hm : t.created = s.created)
    (hd : t.disconnected = s.disconnected) (hclosed : t.closed = s.closed)
    (hu : t.unclean = s.unclean) (hs : ∀ x ∈ t.sends, x.late = false) : Inv t := by
  constructor
  · intro p c hc
    rw [hcl] at hc
    have ha := h.attached p c hc
    refine ⟨ha.place, ?_, ?_, ?_, ?_, ?_⟩
    · rw [hm]
      exact ha.created
    · rw [hl]
      exact ha.lease
    · rw [hh]
      exact ha.locked
    · rw [hopen]
      exact ha.opened
    · rw [hmrk, hd]
      exact ha.disconnected
  · rw [hcl, hmrk]
    exact h.detached
  · rw [hcls, hcl, hq, hd]
    exact h.closing
  · rw [hm, hd, hh]
    exact h.connected
  · intro c o ho
    rw [hopen] at ho
    obtain ⟨hopens, hold⟩ := h.opening c o ho
    exact ⟨opens_congr hm hh hd hopens, lt_of_lt_of_le hold hid⟩
  · rw [hcl, hq, hclosed, haut]
    exact h.live
  · rw [hu, hcl, hq]
    exact h.unclean
  · rw [hclosed, hm, hopen]
    exact h.closed
  · rw [hm]
    exact fun c hc => lt_of_lt_of_le (h.known c hc) hid
  · rw [hm]
    exact h.nodup
  · exact hs

lemma Inv.getClient (h : Inv s) (hc : s.getClient p = some c) : s.ended c = false := by
  unfold Tabs.getClient at hc
  split at hc
  · cases hc
  · next hopen =>
    rw [not_or, Bool.not_eq_true, Bool.not_eq_true] at hopen
    obtain ⟨hcls, ha⟩ := h.live p c hc hopen.1
    unfold Tabs.ended
    rw [hcls]
    by_cases hs : c.signIn = none
    · rw [hs]
      rfl
    · rw [← ha hs]
      exact hopen.2

lemma Inv.setCheckoutOperations (h : Inv s) (checkoutOperations : Session → Nat) :
    Inv { s with checkoutOperations := checkoutOperations } :=
  h.congr rfl rfl rfl rfl rfl rfl rfl rfl le_rfl rfl rfl rfl rfl h.sends

lemma Inv.setPayments (h : Inv s) (payments : List Session) : Inv { s with payments := payments } :=
  h.congr rfl rfl rfl rfl rfl rfl rfl rfl le_rfl rfl rfl rfl rfl h.sends

lemma Inv.startSend (h : Inv s) (hc : s.ended c = false) : Inv (startSend s c) := by
  refine h.congr rfl rfl rfl rfl rfl rfl rfl rfl le_rfl rfl rfl rfl rfl fun x hx => ?_
  rcases mem_append.1 hx with hx | hx
  · exact h.sends x hx
  · rw [mem_singleton] at hx
    subst hx
    exact hc

lemma Inv.step {e : Event} (h : Inv s) (hact : act s e = some t) (hme : e.Meets s) : Inv t := by
  have hne : ∀ {c o}, s.opening c = some o → s.opening c ≠ none := by
    intro c o ho
    rw [ho]
    exact some_ne_none o
  cases e with
  | «open» c =>
    simp only [act, run_gives, some.injEq] at hact
    obtain ⟨hid, rfl⟩ := hact
    have hb := (h.congr (t := { s with nextId := s.nextId + 1 }) rfl rfl rfl rfl rfl rfl rfl rfl
      (Nat.le_succ _) rfl rfl rfl rfl h.sends).beginClose fun p => decide (p = c.place)
    -- Session ids are never reused, so no earlier client is this one.
    have hnew : c ∉ s.created := fun hc => absurd (h.known c hc) (by omega)
    apply hb.setOpening
    intro o ho
    refine ⟨?_, ?_, ?_, fun p hp => hnew (h.attached p c hp).created⟩
    · cases ho
      split
      · exact hnew
      · exact hnew
    · show c.id < s.nextId + 1
      omega
    · rw [Bool.eq_false_iff]
      exact fun hcls => hnew (hb.closed c hcls).1
  | deriveFails c =>
    simp only [act, run_gives, some.injEq] at hact
    obtain ⟨-, rfl⟩ := hact
    exact h.stop
  | locksRegistration c granted =>
    simp only [act, run_gives] at hact
    obtain ⟨ho, hact⟩ := hact
    split at hact
    · simp only [run_gives, some.injEq] at hact
      obtain ⟨hf, rfl⟩ := hact
      exact (h.lock hf c).advance (hne ho) ⟨(h.opening c _ ho).1, update_self ..⟩
    · cases hact
      exact h.stop
  | locksIdentity c granted =>
    simp only [act, run_gives] at hact
    obtain ⟨ho, hact⟩ := hact
    obtain ⟨⟨hnew, hr⟩, -⟩ := h.opening c _ ho
    split at hact
    · simp only [run_gives, some.injEq] at hact
      obtain ⟨hf, rfl⟩ := hact
      apply (h.lock hf c).advance (hne ho)
      -- The sign-in may have ended while the locks were awaited.
      split
      · exact hnew
      · have hoth : LockName.registration c.walletId ≠ .identity c.identityKey := nofun
        have hk : update s.held (.identity c.identityKey) (some c) (.registration c.walletId) =
            some c := (update_of_ne hoth ..).trans hr
        exact ⟨hnew, hk, update_self ..⟩
    · cases hact
      exact h.advance (hne ho) hnew
  | releasesRegistration c freed =>
    simp only [act, run_gives, some.injEq] at hact
    obtain ⟨ho, rfl⟩ := hact
    have hnew : c ∉ s.created := (h.opening c _ ho).1
    split
    · have hrel : Inv { Sessions.setOpening s c none with
          held := unlock s.held (.registration c.walletId) c } := by
        apply h.stop.setHeld
        intro n d hn
        by_cases hdc : d = c
        · subst hdc
          exact .inr ⟨fun hd => absurd hd hnew, update_self ..,
            fun _ p hp => h.not_attached (hne ho) hp⟩
        · exact .inl (unlock_keeps hdc hn)
      exact hrel
    · exact h.stop
  | creates c listens =>
    simp only [act, run_gives, some.injEq] at hact
    obtain ⟨ho, rfl⟩ := hact
    have hm := h.create ho
    split
    · exact hm
    · have hopen : (Sessions.setOpening { s with created := c :: s.created } c
          (some .listening)).opening c ≠ none := by
        simp [Sessions.setOpening]
      have hfin := hm.finishOpening hopen mem_cons_self
        (h.opening c _ ho).1.2.1 false
      simp only [Sessions.finishOpening, Sessions.setOpening, Sessions.attach, update_idem] at hfin ⊢
      exact hfin
  | createFails c =>
    simp only [act, run_gives, some.injEq] at hact
    obtain ⟨ho, rfl⟩ := hact
    exact h.advance (hne ho) (h.opening c _ ho).1.1
  | listens c ok =>
    simp only [act, run_gives, some.injEq] at hact
    obtain ⟨ho, rfl⟩ := hact
    obtain ⟨⟨hm, hh⟩, -⟩ := h.opening c _ ho
    split
    · exact h.finishOpening (hne ho) hm hh true
    · exact h.advance (hne ho) ⟨hm, hh⟩
  | removesListener c ok =>
    simp only [act, run_gives, some.injEq] at hact
    obtain ⟨ho, rfl⟩ := hact
    exact h.advance (hne ho) (h.opening c _ ho).1
  | disconnects c ok =>
    simp only [act] at hact
    split at hact
    · next listener ho =>
      obtain ⟨⟨hm, hh⟩, -⟩ := h.opening c _ ho
      split at hact
      · cases hact
        exact (h.disconnect c).advance (hne ho) ⟨hm, hh, update_self ..⟩
      · cases hact
        -- A client that cannot be disconnected keeps its locks and its place in the maps.
        exact h.keepUnclean (hne ho) hm hh false nofun listener
    · cases hact
  | releases c outcome =>
    simp only [act] at hact
    split at hact
    · next created listener ho =>
      cases hact
      refine h.releasedOpening ho fun registrationFreed identityFreed hout => ?_
      subst hout
      exact hme
    · cases hact
  | close p =>
    cases hact
    exact h.beginClose _
  | closeWalletsExcept tab walletIds =>
    cases hact
    exact h.beginClose _
  | closeRemovesListener p ok =>
    simp only [act, run_gives, some.injEq] at hact
    obtain ⟨a, ha, -, rfl⟩ := hact
    exact h.removedListener ha ok
  | closeDisconnects p ok =>
    simp only [act, run_gives, some.injEq] at hact
    obtain ⟨a, ha, -, rfl⟩ := hact
    exact h.disconnectedClosing ha ok
  | closeReleases p outcome =>
    simp only [act, run_gives, some.injEq] at hact
    obtain ⟨a, ha, hph, rfl⟩ := hact
    refine h.releasedClosing ha hph fun registrationFreed identityFreed hout => ?_
    subst hout
    exact hme
  | signInEnds n =>
    cases hact
    exact h.congr rfl rfl rfl rfl rfl rfl rfl rfl le_rfl rfl rfl rfl rfl h.sends
  | confirmSend p =>
    simp only [act, bind_gives, some.injEq] at hact
    obtain ⟨c, hc, rfl⟩ := hact
    exact h.startSend (h.getClient hc)
  | checkoutOperation p moves =>
    simp only [act, bind_gives, some.injEq] at hact
    obtain ⟨c, hc, rfl⟩ := hact
    have hco : Inv { s with
        checkoutOperations := update s.checkoutOperations c (s.checkoutOperations c + 1) } :=
      h.setCheckoutOperations _
    split
    · exact hco.startSend (h.getClient hc)
    · exact hco
  | checkoutReturns c =>
    simp only [act, run_gives, some.injEq] at hact
    obtain ⟨-, rfl⟩ := hact
    exact h.setCheckoutOperations _
  | payInvoice p =>
    simp only [act, bind_gives, some.injEq] at hact
    obtain ⟨c, -, rfl⟩ := hact
    exact h.setPayments _
  | paymentSends c =>
    simp only [act, run_gives, some.injEq] at hact
    obtain ⟨-, rfl⟩ := hact
    -- The client was fetched before the approval, so only `hme` says the session goes on.
    exact (h.setPayments (s.payments.erase c)).startSend hme
  | paymentStops c =>
    simp only [act, run_gives, some.injEq] at hact
    obtain ⟨-, rfl⟩ := hact
    exact h.setPayments _

def Connected (s : Tabs) (c : Session) : Prop := c ∈ s.created ∧ s.disconnected c = false

lemma Inv.exclusive (h : Inv s) (hc : Connected s c) (hd : Connected s d)
    (heq : c.walletId = d.walletId ∨ c.identityKey = d.identityKey) : c = d := by
  obtain ⟨hcr, hci⟩ := h.connected c hc.1 hc.2
  obtain ⟨hdr, hdi⟩ := h.connected d hd.1 hd.2
  rcases heq with heq | heq
  · rw [heq, hdr] at hcr
    exact (some.inj hcr).symm
  · rw [heq, hdi] at hci
    exact (some.inj hci).symm

lemma closeWalletsExcept_spares {tab : Nat} {walletIds : List Text}
    (hr : s.checkoutOperations c ≠ 0) (hact : act s (.closeWalletsExcept tab walletIds) = some t) :
    t.closed c = s.closed c ∧ ∀ p a, t.closeAttempts p = some a → a.client = c →
      s.closeAttempts p = some a := by
  cases hact
  have hs : ∀ p, s.clients p = some c → stale s tab walletIds p = false := by
    intro p hp
    simp [stale, hp, hr]
  constructor
  · simp only [Sessions.beginClose]
    by_cases hc : s.clients c.place = some c
    · rw [hs _ hc, Bool.false_and, Bool.or_false]
    · rw [decide_eq_false hc, Bool.and_false, Bool.or_false]
  · intro p a ha hclt
    simp only [Sessions.beginClose] at ha
    split at ha
    · next hb =>
      obtain ⟨d, hd, rfl⟩ := map_eq_some_iff.1 ha
      subst hclt
      rw [hs p hd] at hb
      cases hb
    · exact ha

lemma Inv.run {start : Tabs} {l : List Event} (h : Inv start)
    (hr : Run (fun e s t => act s e = some t ∧ e.Meets s) start l t) : Inv t :=
  Run.invariant (I := Inv) (fun _ _ _ hs hst => hs.step hst.1 hst.2) hr h

/-- Of a wallet and of a seed at most one client runs, with its locks; an unclean one is
quarantined; a refresh spares checkouts; no payment starts on an ended session. -/
theorem sessions_exclusive {l : List Event}
    (hrun : Run (fun e s t => act s e = some t ∧ e.Meets s) .start l t) : t.created.Nodup ∧
    (∀ c d, Connected t c → Connected t d →
      c.walletId = d.walletId ∨ c.identityKey = d.identityKey → c = d) ∧
    (∀ c, Connected t c → t.held (.registration c.walletId) = some c ∧
      t.held (.identity c.identityKey) = some c) ∧
    (∀ c, t.unclean c = true → t.clients c.place = some c ∧ t.getClient c.place = none ∧
      t.held (.registration c.walletId) = some c) ∧
    (∀ tab walletIds c u, act t (.closeWalletsExcept tab walletIds) = some u →
      t.checkoutOperations c ≠ 0 → u.closed c = t.closed c ∧
        ∀ p a, u.closeAttempts p = some a → a.client = c → t.closeAttempts p = some a) ∧
    ∀ send ∈ t.sends, send.late = false := by
  have hinv := inv_start.run hrun
  refine ⟨hinv.nodup, fun c d hc hd => hinv.exclusive hc hd,
    fun c hc => hinv.connected c hc.1 hc.2, fun c hc => ?_, ?_, hinv.sends⟩
  · obtain ⟨hclient, hquarantined⟩ := hinv.unclean c hc
    refine ⟨hclient, ?_, (hinv.attached _ c hclient).locked⟩
    unfold Tabs.getClient
    rw [if_pos (Or.inl hquarantined)]
  · exact fun tab walletIds c u hact hrunning => closeWalletsExcept_spares hrunning hact

end

def sampleSession : Session := ⟨0, 0, "wallet".toList, "seed".toList, some 7⟩

def samplePlace : Place := (0, "wallet".toList)

def opened : List Event :=
  [.open sampleSession, .locksRegistration sampleSession true, .locksIdentity sampleSession true,
    .creates sampleSession true, .listens sampleSession true]

def disconnectFails : List Event :=
  opened ++ [.confirmSend samplePlace, .close samplePlace, .closeRemovesListener samplePlace true,
    .closeDisconnects samplePlace false]

def closedWhilePaying : List Event :=
  opened ++ [.payInvoice samplePlace, .close samplePlace, .paymentSends sampleSession]

def actMeets (s : Tabs) (e : Event) : Option Tabs := if e.Meets s then act s e else none

lemma run_of_meets {l : List Event} {s t : Tabs} (h : l.foldlM actMeets s = some t) :
    Run (fun e s t => act s e = some t ∧ e.Meets s) s l t := by
  apply Run.of_foldlM _ h
  intro e s t ha
  unfold actMeets at ha
  split at ha
  · next hm => exact ⟨ha, hm⟩
  · cases ha

theorem sessions_exclusive_unclean : ∃ t,
    Run (fun e s t => act s e = some t ∧ e.Meets s) .start disconnectFails t ∧
      t.unclean sampleSession = true ∧ t.sends.length = 1 ∧
      (t.clients sampleSession.place = some sampleSession ∧
        t.getClient sampleSession.place = none ∧
        t.held (.registration sampleSession.walletId) = some sampleSession) := by
  have hcheck : (disconnectFails.foldlM actMeets Tabs.start).any (fun t =>
      decide (t.unclean sampleSession = true ∧ t.sends.length = 1)) = true := by decide +kernel
  obtain ⟨t, hrun, ht⟩ := (any_eq_true _ _).1 hcheck
  obtain ⟨hunclean, hsends⟩ := of_decide_eq_true ht
  have hkept := (sessions_exclusive (run_of_meets hrun)).2.2.2.1 sampleSession hunclean
  exact ⟨t, run_of_meets hrun, hunclean, hsends, hkept⟩

/-- The payment is started on the client after its close was called. -/
theorem payment_after_close : ∃ t, Run (fun e s t => act s e = some t) .start closedWhilePaying t ∧
    t.sends = [⟨sampleSession, true⟩] ∧ t.getClient samplePlace = none := by
  have hcheck : (closedWhilePaying.foldlM act Tabs.start).any (fun t =>
      decide (t.sends = [⟨sampleSession, true⟩] ∧ t.getClient samplePlace = none)) = true := by
    decide +kernel
  obtain ⟨t, hrun, ht⟩ := (any_eq_true _ _).1 hcheck
  exact ⟨t, Run.of_foldlM (fun _ _ _ h => h) hrun, of_decide_eq_true ht⟩

end Conduit.Wallets.Sessions
