import Conduit.Wallets.Migration

namespace Conduit.Wallets

open Js Runs Throwing List Database Option Table

section
variable {d d' : Database} {id uri : Text} {w : WalletDescriptor}

lemma mem_list_delete : w ∈ (d.delete id).list ↔ w ∈ d.list ∧ w.id ≠ id := by
  simp only [list, delete, mem_filter, mem_remove]
  exact and_right_comm

lemma getNwcCredential_eq_some {credential : Text} : d.getNwcCredential id = some credential ↔
    ∃ c ∈ d.walletCredentials.rows, c.walletId = id ∧ c.providerId = .nwc ∧
      c.credential = credential := by
  unfold getNwcCredential
  rw [bind_eq_some_iff]
  constructor
  · rintro ⟨c, hc, hcr⟩
    have hr := get_eq_some.1 hc
    split at hcr
    · next hn => exact ⟨c, hr.1, hr.2, hn, some.inj hcr⟩
    · cases hcr
  · rintro ⟨c, hc, hid, hn, hcr⟩
    refine ⟨c, get_eq_some.2 ⟨hc, hid⟩, ?_⟩
    rw [if_pos hn, hcr]

lemma getNwcCredential_delete (hne : w.id ≠ id) :
    (d.deleteNwcCredential id).getNwcCredential w.id = d.getNwcCredential w.id := by
  apply ext
  intro credential
  simp only [getNwcCredential_eq_some, deleteNwcCredential, mem_remove]
  constructor
  · rintro ⟨c, ⟨hc, -⟩, h⟩
    exact ⟨c, hc, h⟩
  · rintro ⟨c, hc, h⟩
    exact ⟨c, ⟨hc, h.1 ▸ hne⟩, h⟩

lemma getNwcCredential_put (walletId : Text) :
    (d.putNwcCredential id uri).getNwcCredential walletId =
      if walletId = id then some uri else d.getNwcCredential walletId := by
  unfold getNwcCredential putNwcCredential
  rw [get_put]
  split
  · rfl
  · rfl

lemma add_ok (h : d.add id = .ok (w, d')) : (∀ v ∈ d.list, v.id ≠ id) ∧ w.id = id ∧
    (∀ v, v ∈ d'.list ↔ v = w ∨ v ∈ d.list) ∧ d'.walletCredentials = d.walletCredentials := by
  unfold add at h
  rw [rejects_ok, pure_ok, Prod.mk.injEq] at h
  obtain ⟨hnew, rfl, rfl⟩ := h
  have hn : ∀ v ∈ d.list, v.id ≠ id := fun v hv hid => hnew (.inr ⟨v, hv, hid⟩)
  refine ⟨hn, rfl, fun v => ?_, rfl⟩
  simp only [list, mem_filter, mem_put, decide_eq_true_eq]
  constructor
  · rintro ⟨rfl | ⟨hv, -⟩, hl⟩
    · exact .inl rfl
    · exact .inr ⟨hv, hl⟩
  · rintro (rfl | ⟨hv, hl⟩)
    · exact ⟨.inl rfl, .inl nofun⟩
    · refine ⟨.inr ⟨hv, hn v ?_⟩, hl⟩
      simp [list, hv, hl]

end

section
variable {getNwcUriFingerprint : Text → Option Text} {d d' : Database} {uri : Text}

variable (getNwcUriFingerprint) in
def HoldsFingerprint (d : Database) (w : WalletDescriptor) (fingerprint : Text) : Prop :=
  ∃ credential, d.getNwcCredential w.id = some credential ∧
    getNwcUriFingerprint credential = some fingerprint

variable (getNwcUriFingerprint) in
def Connected (uri : Text) (d : Database) : Prop :=
  ∃ w ∈ d.list, w.kind = .connected ∧ w.providerId = .nwc ∧
    ∃ fingerprint, HoldsFingerprint getNwcUriFingerprint d w fingerprint ∧
      getNwcUriFingerprint uri = some fingerprint

variable (getNwcUriFingerprint) in
def Distinct (d : Database) : Prop :=
  ∀ w ∈ d.list, ∀ w' ∈ d.list, ∀ fingerprint, HoldsFingerprint getNwcUriFingerprint d
    w fingerprint →
    HoldsFingerprint getNwcUriFingerprint d w' fingerprint → w = w'

lemma fingerprintOf_ok {fingerprint : Text} :
    fingerprintOf getNwcUriFingerprint uri = .ok fingerprint ↔
      getNwcUriFingerprint uri = some fingerprint := by
  unfold fingerprintOf
  cases getNwcUriFingerprint uri <;> simp

structure Keeps (d d' : Database) : Prop where
  listed : ∀ w ∈ d.list, w ∈ d'.list
  credential : ∀ w ∈ d.list, d'.getNwcCredential w.id = d.getNwcCredential w.id

lemma Keeps.connected (h : Keeps d d') (hd : Connected getNwcUriFingerprint uri d) :
    Connected getNwcUriFingerprint uri d' := by
  obtain ⟨w, hw, hk, hp, fingerprint, ⟨credential, hc, hh⟩, hu⟩ := hd
  exact ⟨w, h.listed w hw, hk, hp, fingerprint, ⟨credential, (h.credential w hw).trans hc, hh⟩, hu⟩

lemma repairs_keep {registeredWallets : List WalletDescriptor} {ids : List Text}
    {old existing' : Option WalletDescriptor}
    (h : ids.foldlM (repair registeredWallets) (old, d) = .ok (existing', d')) :
    d'.wallets = d.wallets ∧
      (∀ w ∈ registeredWallets, d'.getNwcCredential w.id = d.getNwcCredential w.id) ∧
      (existing' = none → ∀ w ∈ registeredWallets, w.id ∉ ids) := by
  induction ids generalizing old d with
  | nil =>
    obtain ⟨rfl, rfl⟩ := h
    exact ⟨rfl, fun _ _ => rfl, fun _ _ _ => not_mem_nil⟩
  | cons id ids ih =>
    rw [foldlM_cons, bind_ok] at h
    obtain ⟨⟨found, d₁⟩, hf, hr⟩ := h
    obtain ⟨hwal, hc, hn⟩ := ih hr
    unfold repair at hf
    split at hf
    · next registeredWallet hfi =>
      rw [rejects_ok, pure_ok, Prod.mk.injEq] at hf
      obtain ⟨-, rfl, rfl⟩ := hf
      refine ⟨hwal, hc, fun he => ?_⟩
      -- Once a wallet is found the loop never forgets it.
      have hs : ∀ (ids : List Text) (found : WalletDescriptor) (d : Database),
          ids.foldlM (repair registeredWallets) (some found, d) ≠ .ok (none, d') := by
        intro ids
        induction ids with
        | nil => simp [pure, Except.pure]
        | cons id ids ih =>
          intro found d heq
          rw [foldlM_cons, bind_ok] at heq
          obtain ⟨⟨found', d₁⟩, hf, hr⟩ := heq
          unfold repair at hf
          split at hf
          · rw [rejects_ok] at hf
            exact absurd (by simp) hf.1
          · rw [pure_ok, Prod.mk.injEq] at hf
            obtain ⟨rfl, rfl⟩ := hf
            exact ih _ _ hr
      subst he
      exact absurd hr (hs _ _ _)
    · next hfi =>
      obtain ⟨rfl, rfl⟩ := hf
      have hne : ∀ w ∈ registeredWallets, w.id ≠ id := by
        intro w hw
        simpa using find?_eq_none.1 hfi w hw
      refine ⟨hwal, fun w hw => ?_, fun he w hw => ?_⟩
      · rw [hc w hw, getNwcCredential_delete (hne w hw)]
      · rw [mem_cons, not_or]
        exact ⟨hne w hw, hn he w hw⟩

lemma list_congr (h : d'.wallets = d.wallets) : d'.list = d.list := by
  unfold list
  rw [h]

variable {reg : NwcWalletRegistration} {answers : RegistrationAnswers}

section

variable
  (h : registerNwcWalletAtomically getNwcUriFingerprint uri answers d = .ok (reg, d'))

include h

lemma registerNwcWalletAtomically_keeps : Keeps d d' ∧ ((∀ w ∈ d'.list, w ∈ d.list) ∨
      ∃ wallet, (∀ w ∈ d'.list, w = wallet ∨ w ∈ d.list) ∧
        ∃ fingerprint, d'.getNwcCredential wallet.id = some (trim uri) ∧
          getNwcUriFingerprint (trim uri) = some fingerprint ∧
          ∀ w ∈ d.list, ¬ HoldsFingerprint getNwcUriFingerprint d w fingerprint) := by
  unfold registerNwcWalletAtomically at h
  rw [rejects_ok, rejects_ok, bind_ok] at h
  obtain ⟨-, -, ids, hi, h⟩ := h
  obtain ⟨⟨old, d₁⟩, hlo, h⟩ := bind_ok.1 h
  obtain ⟨hwal, hcred, hn⟩ := repairs_keep hlo
  have hl : d₁.list = d.list := list_congr hwal
  cases old with
  | some wallet =>
    simp only [rejects_ok, pure_ok, Prod.mk.injEq] at h
    obtain ⟨-, -, rfl⟩ := h
    refine ⟨⟨fun w hw => hl ▸ hw, hcred⟩, .inl fun w hw => hl ▸ hw⟩
  | none =>
    obtain ⟨⟨wallet, d₂⟩, ha, h⟩ := bind_ok.1 h
    simp only [rejects_ok] at h
    obtain ⟨-, -, -, h⟩ := h
    obtain ⟨hnew, hid, hls, hs⟩ := add_ok ha
    rw [hl] at hnew hls
    have hd' : d' = d₂.putNwcCredential wallet.id (trim uri) := by
      split at h
      · rw [pure_ok, Prod.mk.injEq] at h
        exact h.2.symm
      · cases h
    subst hd'
    have hsto : ∀ w ∈ d.list, (d₂.putNwcCredential wallet.id (trim uri)).getNwcCredential w.id =
        d.getNwcCredential w.id := by
      intro w hw
      rw [getNwcCredential_put, if_neg (fun heq => hnew w hw (heq.trans hid)), ← hcred w hw]
      unfold getNwcCredential
      rw [hs]
    refine ⟨⟨fun w hw => (hls w).2 (.inr hw), hsto⟩, .inr ⟨wallet, fun w hw => (hls w).1 hw, ?_⟩⟩
    unfold findMatchingNwcCredentialWalletIds at hi
    rw [bind_ok] at hi
    obtain ⟨fingerprint, hf, hi⟩ := hi
    rw [pure_ok] at hi
    refine ⟨fingerprint, by rw [getNwcCredential_put, if_pos rfl], fingerprintOf_ok.1 hf, ?_⟩
    rintro w hw ⟨credential, hcr, hh⟩
    obtain ⟨c, hc, hcid, hnwc, rfl⟩ := getNwcCredential_eq_some.1 hcr
    apply hn rfl w hw
    rw [← hi, ← hcid]
    exact mem_map_of_mem (mem_filter.2 ⟨hc, by simp [hnwc, hh]⟩)

lemma registerNwcWalletAtomically_distinct (hd : Distinct getNwcUriFingerprint d) :
    Distinct getNwcUriFingerprint d' := by
  obtain ⟨hk, hold | ⟨wallet, hl, fingerprint, hsto, hwal, hn⟩⟩ :=
    registerNwcWalletAtomically_keeps h
  · have hb : ∀ w ∈ d'.list, ∀ f, HoldsFingerprint getNwcUriFingerprint d' w f →
        HoldsFingerprint getNwcUriFingerprint d w f := by
      rintro w hw f ⟨credential, hc, hh⟩
      exact ⟨credential, (hk.credential w (hold w hw)).symm.trans hc, hh⟩
    intro w hw w' hw' f hf hf'
    exact hd w (hold w hw) w' (hold w' hw') f (hb w hw f hf) (hb w' hw' f hf')
  · have hb : ∀ w ∈ d.list, ∀ f, HoldsFingerprint getNwcUriFingerprint d' w f →
        HoldsFingerprint getNwcUriFingerprint d w f ∧ f ≠ fingerprint := by
      rintro w hw f ⟨credential, hc, hh⟩
      have hhe : HoldsFingerprint getNwcUriFingerprint d w f :=
        ⟨credential, (hk.credential w hw).symm.trans hc, hh⟩
      exact ⟨hhe, fun heq => hn w hw (heq ▸ hhe)⟩
    have hs : ∀ f, HoldsFingerprint getNwcUriFingerprint d' wallet f → f = fingerprint := by
      rintro f ⟨credential, hc, hh⟩
      rw [hsto, some.injEq] at hc
      rw [← hc, hwal, some.injEq] at hh
      exact hh.symm
    intro w hw w' hw' f hf hf'
    rcases hl w hw with rfl | hw <;> rcases hl w' hw' with rfl | hw'
    · rfl
    · exact absurd (hs f hf) (hb w' hw' f hf').2
    · exact absurd (hs f hf') (hb w hw f hf).2
    · exact hd w hw w' hw' f (hb w hw f hf).1 (hb w' hw' f hf').1

end

lemma Distinct.delete {id : Text} (h : Distinct getNwcUriFingerprint d) :
    Distinct getNwcUriFingerprint (d.delete id) := by
  have hb : ∀ w ∈ (d.delete id).list, ∀ f, HoldsFingerprint getNwcUriFingerprint
    (d.delete id) w f → w ∈ d.list ∧ HoldsFingerprint getNwcUriFingerprint d w f := by
    rintro w hw f ⟨credential, hc, hh⟩
    obtain ⟨hw, hne⟩ := mem_list_delete.1 hw
    exact ⟨hw, credential, (getNwcCredential_delete hne).symm.trans hc, hh⟩
  intro w hw w' hw' f hf hf'
  obtain ⟨hw, hf⟩ := hb w hw f hf
  obtain ⟨hw', hf'⟩ := hb w' hw' f hf'
  exact h w hw w' hw' f hf hf'

variable {wallet : WalletDescriptor} {s : Device}

lemma connected_of_check (h : checkMigrated getNwcUriFingerprint uri wallet d = .ok ()) :
    Connected getNwcUriFingerprint uri d := by
  unfold checkMigrated at h
  dsimp only at h
  split at h
  · next credential registered hc hf =>
    rw [rejects_ok] at h
    obtain ⟨hcon, h⟩ := h
    simp only [bind_ok, fingerprintOf_ok, reject_ok, not_not] at h
    obtain ⟨stored, hs, expected, he, rfl⟩ := h
    have hid : registered.id = wallet.id := by simpa using find?_some hf
    refine ⟨registered, mem_of_find?_eq_some hf, ?_, ?_, stored, ⟨credential, hid ▸ hc, hs⟩, he⟩
    · exact Decidable.of_not_not fun hne => hcon (.inr hne)
    · exact Decidable.of_not_not fun hne => hcon (.inl hne)
  · cases h

/-- What a run returns unless it throws or stops. -/
def Phase.result : Phase → Option Bool
  | .compensating _ result | .done result => result
  | _ => none

variable (getNwcUriFingerprint) in
structure Inv (uri : Text) (s : Device) : Prop where
  credential : s.legacy = some uri ∨ Connected getNwcUriFingerprint uri s.database
  distinct : Distinct getNwcUriFingerprint s.database
  retired : ∀ i, (s.phases i).result = some true → s.legacy ≠ some uri

def LegacyKept (uri : Text) (a : Action) (s : Device) : Prop :=
  ∀ i, a = .compensate i → s.legacy = some uri

instance (uri : Text) (a : Action) (s : Device) : Decidable (LegacyKept uri a s) :=
  match a with
  | .compensate i => decidable_of_iff (s.legacy = some uri)
      ⟨fun h _ _ => h, fun h => h i rfl⟩
  | .start .. | .connectFails _ | .register .. | .connectThrows _ | .connectReturns _
  | .verifyFails _ | .verify .. | .compensateFails _ => isTrue nofun

lemma result_finish {retirement : RetirementStatus} {result : Option Bool} :
    (finish reg retirement result).result = result := by
  unfold finish
  split <;> rfl

lemma Inv.setPhase {i : Nat} {phase : Phase} (h : Inv getNwcUriFingerprint uri s)
    (hph : phase.result = some true → s.legacy ≠ some uri) :
    Inv getNwcUriFingerprint uri (s.setPhase i phase) := by
  refine ⟨h.credential, h.distinct, fun j hj => ?_⟩
  by_cases hij : j = i
  · subst hij
    exact hph (by simpa [Device.setPhase] using hj)
  · exact h.retired j (by simpa [Device.setPhase, hij] using hj)

lemma leaves_cases (legacy : Option Text) (retirement : Retirement) :
    retirement.leaves legacy = legacy ∨ retirement.leaves legacy = none := by
  cases retirement with
  | unchanged storageError => exact .inl rfl
  | completed => exact .inr rfl
  | uncertain gone | throws gone =>
    cases gone with
    | true => exact .inr rfl
    | false => exact .inl rfl

lemma verifyMigration_cases {answers : VerificationAnswers} {legacy : Option Text}
    (v : Verification) (h : verifyMigration getNwcUriFingerprint uri wallet answers d legacy = v) :
    v.legacy = legacy ∧ v.result ≠ some true ∨
      Connected getNwcUriFingerprint uri d ∧
        ((v.legacy = legacy ∧ v.result ≠ some true) ∨ v.legacy = none) := by
  unfold verifyMigration at h
  dsimp only at h
  split at h
  · subst h
    split <;> simp
  · split at h
    · subst h
      exact .inl ⟨rfl, nofun⟩
    · next hc =>
      refine .inr ⟨connected_of_check hc, ?_⟩
      split at h
      · subst h
        split <;> simp
      · split at h
        · subst h
          exact .inr rfl
        · subst h
          split <;> simp
        · subst h
          exact (leaves_cases legacy answers.retireLegacy).imp (fun h => ⟨h, nofun⟩) id

lemma Inv.step {a : Action} {t : Device} (h : Inv getNwcUriFingerprint uri s)
    (hk : LegacyKept uri a s) (hs : MigrationStep getNwcUriFingerprint uri a s t) :
    Inv getNwcUriFingerprint uri t := by
  unfold MigrationStep at hs
  cases a with
  | start i shouldContinue =>
    simp only [act] at hs
    split at hs
    · cases hs
      apply h.setPhase
      cases shouldContinue <;> simp [Phase.result]
    · cases hs
  | connectFails i =>
    simp only [act] at hs
    split at hs
    · cases hs
      exact h.setPhase nofun
    · cases hs
  | register i answers =>
    simp only [act] at hs
    split at hs
    · split at hs
      · next reg d' hreg =>
        cases hs
        -- Registering adds or repairs wallets only; a wallet that held the connection still does.
        have hkps := (registerNwcWalletAtomically_keeps hreg).1
        have hi : Inv getNwcUriFingerprint uri { s with database := d' } :=
          ⟨h.credential.imp_right hkps.connected,
            registerNwcWalletAtomically_distinct hreg h.distinct, h.retired⟩
        exact hi.setPhase nofun
      · cases hs
        exact h.setPhase nofun
    · cases hs
  | connectThrows i =>
    simp only [act] at hs
    split at hs
    · cases hs
      exact h.setPhase (by rw [result_finish]; exact nofun)
    · cases hs
  | connectReturns i =>
    simp only [act] at hs
    split at hs
    · cases hs
      exact h.setPhase nofun
    · cases hs
  | verifyFails i =>
    simp only [act] at hs
    split at hs
    · cases hs
      exact h.setPhase (by rw [result_finish]; exact nofun)
    · cases hs
  | verify i answers =>
    simp only [act] at hs
    split at hs
    · next reg _ =>
      cases hs
      -- The legacy copy goes only after the wallet was read back and checked.
      obtain ⟨hl, hr⟩ | ⟨hc, ⟨hl, hr⟩ | hl⟩ :=
        verifyMigration_cases (verifyMigration getNwcUriFingerprint uri reg.wallet answers
          s.database s.legacy) rfl
      · rw [hl]
        exact Inv.setPhase h fun hph => absurd (result_finish.symm.trans hph) hr
      · rw [hl]
        exact Inv.setPhase h fun hph => absurd (result_finish.symm.trans hph) hr
      · rw [hl]
        have hi : Inv getNwcUriFingerprint uri { s with legacy := none } :=
          ⟨.inr hc, h.distinct, fun _ _ => nofun⟩
        exact hi.setPhase fun _ => nofun
    · cases hs
  | compensateFails i =>
    simp only [act] at hs
    split at hs
    · cases hs
      exact h.setPhase nofun
    · cases hs
  | compensate i =>
    have hl := hk i rfl
    simp only [act] at hs
    split at hs
    · next walletId result hph =>
      have hr : result = some true → s.legacy ≠ some uri := fun hr =>
        h.retired i (by rw [hph, hr]; rfl)
      split at hs
      · cases hs
        -- The deleted wallet may be one that another run adopted; the legacy copy is left.
        have hi : Inv getNwcUriFingerprint uri
            { s with database := s.database.delete walletId } :=
          ⟨.inl hl, h.distinct.delete, h.retired⟩
        exact hi.setPhase hr
      · cases hs
        exact h.setPhase hr
      · cases hs
        exact h.setPhase nofun
    · cases hs

end

variable {getNwcUriFingerprint : Text → Option Text} {uri : Text} {l : List Action} {s t : Device}

variable (getNwcUriFingerprint) in
/-- Before the runs: the account's credential is in one of its places, and no two wallets share
one. -/
structure Starts (uri : Text) (s : Device) : Prop where
  waiting : ∀ i, s.phases i = .waiting
  credential : s.legacy = some uri ∨ Connected getNwcUriFingerprint uri s.database
  distinct : Distinct getNwcUriFingerprint s.database

/-- While the legacy owner compensates, a wallet holds the credential, and `true` leaves a
registered one. -/
theorem migration_keeps_credential (hs : Starts getNwcUriFingerprint uri s)
    (run : Run (fun a s t => LegacyKept uri a s ∧ MigrationStep getNwcUriFingerprint uri a s t)
      s l t) : (t.legacy = some uri ∨ Connected getNwcUriFingerprint uri t.database) ∧
      Distinct getNwcUriFingerprint t.database ∧
      ∀ i, t.phases i = .done (some true) → Connected getNwcUriFingerprint uri t.database := by
  have hinv : Inv getNwcUriFingerprint uri t :=
    run.invariant (fun _ _ _ hi hstep => hi.step hstep.1 hstep.2)
      ⟨hs.credential, hs.distinct, fun i hi => by rw [hs.waiting i] at hi; cases hi⟩
  refine ⟨hinv.credential, hinv.distinct, fun i hi => ?_⟩
  exact hinv.credential.resolve_left (hinv.retired i (by rw [hi]; rfl))

namespace TwoTabs

def connection : Text :=
  ("nostr+walletconnect://" : Text) ++
    "b889ff5b1513b641e2a139f661a661364979c5beee91842f8f0ef42ab558e9d4" ++
    "?relay=wss://relay.example.com&secret=" ++
    "71a8c14c1407c113601079c4302dab36460f0ccd0ad506f1f2dc73b5100e4f3c"

def fingerprint : Text := "f1b6708ec484bab1553a7398b54126cb94591140cb9eb5a68923e23aeac0a2c5"

def fingerprints (uri : Text) : Option Text :=
  if trim uri = connection then some fingerprint else none

def device : Device := ⟨⟨.empty, .empty⟩, some connection, fun _ => .waiting⟩

lemma starts : Starts fingerprints connection device :=
  ⟨fun _ => rfl, .inl rfl, fun _ hw => nomatch hw⟩

def registering : List Action :=
  [.start 0 true, .register 0 ⟨true, "wallet-1", true⟩, .connectReturns 0,
    .start 1 true, .register 1 ⟨true, "wallet-2", true⟩, .connectReturns 1]

/-- The second tab retires the legacy copy. -/
def retiring : Action := .verify 1 ⟨true, true, .completed, false⟩

/-- The first tab no longer continues, and compensates. -/
def compensating : List Action := [.verify 0 ⟨false, false, .completed, false⟩, .compensate 0]

def retried : List Action :=
  [.start 0 true, .register 0 ⟨true, "wallet-1", true⟩, .connectThrows 0, .compensate 0] ++
    [.start 2 true, .register 2 ⟨true, "wallet-3", true⟩, .connectReturns 2,
      .verify 2 ⟨true, true, .completed, false⟩]

end TwoTabs

open TwoTabs in
theorem migration_keeps_credential_retried : ∃ t : Device,
    t.phases 2 = .done (some true) ∧ t.legacy = none ∧
      Connected fingerprints connection t.database := by
  have hcheck : (retried.foldlM (fun s a =>
      if LegacyKept connection a s then act fingerprints connection s a else none) device).any
      (fun t => decide (t.phases 2 = .done (some true) ∧ t.legacy = none)) = true := by
    decide +kernel
  obtain ⟨t, ht, hdone⟩ := (Option.any_eq_true _ _).1 hcheck
  obtain ⟨hdone, hlegacy⟩ := of_decide_eq_true hdone
  refine ⟨t, hdone, hlegacy, ?_⟩
  have run : Run (fun a s t => LegacyKept connection a s ∧
      MigrationStep fingerprints connection a s t) device retried t := by
    apply Run.of_foldlM ?_ ht
    intro a s t hact
    split at hact
    · next hkept => exact ⟨hkept, hact⟩
    · cases hact
  exact (migration_keeps_credential starts run).2.2 2 hdone

open TwoTabs in
/-- The first tab deletes the wallet that the second verified before it retired the legacy copy. -/
theorem adopted_wallet_deleted : ∃ t : Device,
    Run (MigrationStep fingerprints connection) device
      (registering ++ retiring :: compensating) t ∧ t.phases 1 = .done (some true) ∧
      t.legacy = none ∧ t.database.list = [] ∧
      ¬ (t.legacy = some connection ∨ Connected fingerprints connection t.database) := by
  have hcheck : ((registering ++ retiring :: compensating).foldlM (act fingerprints connection)
      device).any (fun t => decide (t.phases 1 = .done (some true) ∧ t.legacy = none ∧
        t.database.list = [])) = true := by
    decide +kernel
  obtain ⟨t, ht, hend⟩ := (Option.any_eq_true _ _).1 hcheck
  obtain ⟨hdone, hlegacy, hlist⟩ := of_decide_eq_true hend
  refine ⟨t, Run.of_foldlM (fun _ _ _ h => h) ht, hdone, hlegacy, hlist, ?_⟩
  rintro (h | ⟨w, hw, -⟩)
  · rw [hlegacy] at h
    cases h
  · rw [hlist] at hw
    cases hw

end Conduit.Wallets
