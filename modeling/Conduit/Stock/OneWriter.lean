import Conduit.Stock.Transfer
import Mathlib.Data.List.Chain

namespace Conduit.Stock

open Js Throwing List Option Sample Table Function WriterState JournalOp

/-- The devices by their ids, and the device on which a market's writer is registered first. -/
structure Fleet (δ : Type) where
  ids : δ → Text
  distinct : Function.Injective ids
  first : Text → δ

def Journal.empty : Journal where
  pools := Table.empty
  entries := Table.empty
  writers := Table.empty

def Journal.Sends (db : Journal) (rumor : HandoverRumor) : Prop :=
  ∃ row ∈ db.writers.get (organizerStockWriterKey rumor.content.organizerPubkey
    rumor.content.marketCoordinate), row.outgoing = some rumor

inductive FleetStep {δ : Type} [DecidableEq δ] (P : WriterPlatform) (fleet : Fleet δ) :
    (δ → Journal) → (δ → Journal) → Prop
  | register {s : δ → Journal} {i : δ} {input : RegisterInput} {db : Journal}
      (hfirst : i = fleet.first input.marketCoordinate) (hdevice : input.deviceId = fleet.ids i)
      (h : registerOrganizerStockWriterDevice P (s i) input = .ok db) :
      FleetStep P fleet s (Function.update s i db)
  | prepareTarget {s : δ → Journal} {i : δ} {input : PrepareTargetInput} {db : Journal}
      (hdevice : input.targetDeviceId = fleet.ids i)
      (h : prepareOrganizerStockWriterTarget P (s i) input = .ok db) :
      FleetStep P fleet s (Function.update s i db)
  | beginHandover {s : δ → Journal} {i : δ} {input : BeginInput} {db : Journal}
      (h : beginOrganizerStockWriterHandover P (s i) input = .ok db) :
      FleetStep P fleet s (Function.update s i db)
  | restore {s : δ → Journal} {i j : δ} {input : RestoreInput} {rumor : HandoverRumor}
      {db : Journal} (hdevice : input.expectedTargetDeviceId = fleet.ids j)
      (hopen : P.openHandover input.envelope input.envelopes = some rumor)
      (hsends : (s i).Sends rumor)
      (h : restoreOrganizerStockWriterHandover P (s j) input = .ok db) :
      FleetStep P fleet s (Function.update s j db)
  | operate {s : δ → Journal} {i : δ} {op : JournalOp} {db : Journal}
      (h : op.apply P.toStockPlatform (s i) = .ok db) :
      FleetStep P fleet s (Function.update s i db)
  | retain {s : δ → Journal} {i : δ} {account : Text} {rumor : Rumor} {envelope : SignedEvent}
      {db : Journal} (h : retainGrantEnvelope (s i) account rumor envelope = .ok db) :
      FleetStep P fleet s (Function.update s i db)

def Journal.messages (db : Journal) : List Rumor :=
  db.pools.rows.map Pool.grantRumor ++ db.entries.rows.map Entry.rumor

def HashesApart {δ : Type} (s : δ → Journal) : Prop :=
  ∀ i j, ∀ r ∈ (s i).messages, ∀ r' ∈ (s j).messages, r.id = r'.id → r = r'

/-- A run of the devices. -/
def Reaches {δ : Type} [DecidableEq δ] (P : WriterPlatform) (fleet : Fleet δ) :
    (δ → Journal) → (δ → Journal) → Prop :=
  Relation.ReflTransGen fun s s' => HashesApart s ∧ FleetStep P fleet s s'

/-- A device that is registered for the market can add an entry under the writer. -/
def Journal.CanAppend (P : StockPlatform) (seat : Seat P.toPlatform) (writerId : Text)
    (db : Journal) : Prop :=
  (db.writers.get seat.key).isSome ∧ ∃ (op : JournalOp) (db' : Journal) (poolId : Text)
    (pool : Pool), op.apply P db = .ok db' ∧ db'.Entrusts P seat poolId pool ∧
      pool.writerId = writerId ∧ db'.history seat.account poolId ≠ db.history seat.account poolId

/-- The order in which a registration passes through its states. -/
def WriterState.rank : WriterState → Nat
  | .target => 0
  | .active => 1
  | .retired => 2

/-- The device keeps what it has of the market. -/
structure Onward (P : StockPlatform) (seat : Seat P.toPlatform) (db db' : Journal) : Prop where
  grows : Extends P seat db db'
  frozen : ∀ row ∈ db.writers.get seat.key, row.state = .retired → Extends P seat db' db
  rank : ∀ row ∈ db.writers.get seat.key, ∃ row' ∈ db'.writers.get seat.key,
    row.state.rank ≤ row'.state.rank ∧ (row.state = .retired → row'.outgoing = row.outgoing)

structure Quiet (P : StockPlatform) (seat : Seat P.toPlatform) (db db' : Journal) : Prop where
  grows : Extends P seat db db'
  still : ∀ row ∈ db.writers.get seat.key, row.state ≠ .active → Extends P seat db' db
  standing : (db'.writers.get seat.key).map Writer.standing =
    (db.writers.get seat.key).map Writer.standing

section
variable {P : StockPlatform} {seat : Seat P.toPlatform} {db db' db'' : Journal}

lemma Quiet.refl (P : StockPlatform) (seat : Seat P.toPlatform) (db : Journal) :
    Quiet P seat db db :=
  ⟨.refl P seat db, fun _ _ _ => .refl P seat db, rfl⟩

lemma Quiet.of_steady (hs : Steady P seat db db')
    (hg : db'.writers.get seat.key = db.writers.get seat.key) : Quiet P seat db db' :=
  ⟨hs.1, fun _ _ _ => hs.2, by rw [hg]⟩

lemma Quiet.row (h : Quiet P seat db db') {row : Writer}
    (hr : row ∈ db.writers.get seat.key) : ∃ row' ∈ db'.writers.get seat.key,
      row'.state = row.state ∧ row'.outgoing = row.outgoing := by
  have hs := h.standing
  rw [hr] at hs
  obtain ⟨row', hg, heq⟩ := map_eq_some_iff.1 hs
  exact ⟨row', hg, (congrArg Writer.state heq : row'.standing.state = row.standing.state),
    (congrArg Writer.outgoing heq : row'.standing.outgoing = row.standing.outgoing)⟩

lemma Quiet.row_back (h : Quiet P seat db db') {row' : Writer}
    (hr : row' ∈ db'.writers.get seat.key) : ∃ row ∈ db.writers.get seat.key,
      row'.state = row.state ∧ row'.outgoing = row.outgoing := by
  have hs := h.standing
  rw [hr] at hs
  obtain ⟨row, hg, heq⟩ := map_eq_some_iff.1 hs.symm
  exact ⟨row, hg, (congrArg Writer.state heq.symm : row'.standing.state = row.standing.state),
    (congrArg Writer.outgoing heq.symm : row'.standing.outgoing = row.standing.outgoing)⟩

lemma Quiet.onward (h : Quiet P seat db db') : Onward P seat db db' := by
  refine ⟨h.grows, fun row hr hret => ?_, fun row hr => ?_⟩
  · refine h.still row hr ?_
    rw [hret]
    decide
  · obtain ⟨row', hr', hst, ho⟩ := h.row hr
    exact ⟨row', hr', by rw [hst], fun _ => ho⟩

lemma Onward.refl (P : StockPlatform) (seat : Seat P.toPlatform) (db : Journal) :
    Onward P seat db db :=
  (Quiet.refl P seat db).onward

lemma WriterState.retired_of_rank {a b : WriterState} (h : a.rank ≤ b.rank)
    (ha : a = .retired) : b = .retired := by
  subst ha
  cases b with
  | retired => rfl
  | target | active => exact absurd h (by decide)

lemma Onward.trans (h : Onward P seat db db') (h' : Onward P seat db' db'') :
    Onward P seat db db'' := by
  refine ⟨h.grows.trans h'.grows, fun row hr hret => ?_, fun row hr => ?_⟩
  · obtain ⟨row', hr', hle, -⟩ := h.rank row hr
    exact (h'.frozen row' hr' (retired_of_rank hle hret)).trans
      (h.frozen row hr hret)
  · obtain ⟨row', hr', hle, ho⟩ := h.rank row hr
    obtain ⟨row'', hr'', hle', ho'⟩ := h'.rank row' hr'
    refine ⟨row'', hr'', hle.trans hle', fun hret => ?_⟩
    rw [ho' (retired_of_rank hle hret), ho hret]

lemma Journal.CanAppend.active {writerId : Text} (hdb : db.Sound P)
    (h : db.CanAppend P seat writerId) : ∃ row ∈ db.writers.get seat.key, row.state = .active := by
  obtain ⟨hs, op, db', poolId, pool, hop, hp, -, hne⟩ := h
  obtain ⟨row, hr⟩ := isSome_iff_exists.1 hs
  refine ⟨row, hr, ?_⟩
  by_contra hst
  obtain ⟨hf, hb⟩ := (apply_writes seat hdb hop).2 (blocked_of_get hr hst)
  obtain ⟨earlier, he, -⟩ := hb.pools poolId pool hp
  exact hne ((hb.history poolId pool hp).eq_of_length_le
    (hf.history poolId earlier he).length_le)

lemma JournalOp.apply_quiet (seat : Seat P.toPlatform) (hdb : db.Sound P) {op : JournalOp}
    (h : op.apply P db = .ok db') : Quiet P seat db db' := by
  obtain ⟨hs, hstd⟩ := apply_writes seat hdb h
  refine ⟨((op.apply_moves h).extends hdb).1 seat, fun row hr hst => ?_, hs seat.key⟩
  exact (hstd (blocked_of_get hr hst)).2

lemma seat_of_key {account market : Text} (hm : IsMarketOf P.toPlatform market account)
    (hk : seat.key = organizerStockWriterKey account market) :
    account = seat.account ∧ market = seat.market := by
  have hh : ∀ {m a : Text}, IsMarketOf P.toPlatform m a → IsHex64 a := by
    intro m a h
    obtain ⟨c, hc, rfl⟩ := map_eq_some_iff.1 h
    unfold CheckoutSpark.parseAddressableCoordinate at hc
    split at hc
    · dsimp only at hc
      split_ifs at hc with hv
      cases hc
      exact hv.2.2.2.2.2.2.1
    · cases hc
  have hi := entryKey_inj (hh seat.isMarket) (hh hm) hk
  exact ⟨hi.1.symm, hi.2.symm⟩

end

/-- The message states the market's pools of a device as the device keeps them. -/
structure Sent (P : StockPlatform) (seat : Seat P.toPlatform) (db : Journal)
    (rumor : HandoverRumor) : Prop where
  account : rumor.content.organizerPubkey = seat.account
  market : rumor.content.marketCoordinate = seat.market
  valid : rumor.content.snapshot.Valid P seat.account seat.market
  source : ∃ source : Journal, source.Sound P ∧ Steady P seat db source ∧
    rumor.content.snapshot.Captures P seat source

section
variable {δ : Type}

structure Passes (P : StockPlatform) (fleet : Fleet δ) (seat : Seat P.toPlatform)
    (s : δ → Journal) (a b : δ) : Prop where
  grows : Extends P seat (s a) (s b)
  names : ∃ row ∈ (s a).writers.get seat.key, row.state = .retired ∧
    ∃ rumor ∈ row.outgoing, rumor.content.targetDeviceId = fleet.ids b

structure Handed (P : StockPlatform) (fleet : Fleet δ) (seat : Seat P.toPlatform)
    (s : δ → Journal) (line : List δ) : Prop where
  registered : ∀ i, i ∈ line ↔ ∃ row ∈ (s i).writers.get seat.key, row.state ≠ .target
  first : ∀ i ∈ line.head?, i = fleet.first seat.market
  nodup : line.Nodup
  passes : line.IsChain (Passes P fleet seat s)
  prepared : ∀ i, ∀ row ∈ (s i).writers.get seat.key, row.state = .target →
    ∀ pool ∈ (s i).pools.rows, ¬ pool.For P seat
  sent : ∀ i, ∀ row ∈ (s i).writers.get seat.key, ∀ rumor ∈ row.outgoing,
    row.state = .retired ∧ Sent P seat (s i) rumor

/-- What every step keeps of the devices. -/
structure FleetSound (P : StockPlatform) (fleet : Fleet δ) (s : δ → Journal) : Prop where
  sound : ∀ i, (s i).Sound P
  handed : ∀ seat, ∃ line, Handed P fleet seat s line

variable {P : StockPlatform} {fleet : Fleet δ} {seat : Seat P.toPlatform} {s s' : δ → Journal}
  {line : List δ} {i j : δ}

lemma Passes.onward {a b : δ} (h : Passes P fleet seat s a b)
    (hs : ∀ i, Onward P seat (s i) (s' i)) : Passes P fleet seat s' a b := by
  obtain ⟨row, hr, hret, rumor, hrum, ht⟩ := h.names
  obtain ⟨row', hr', hle, ho⟩ := (hs a).rank row hr
  refine ⟨((hs a).frozen row hr hret).trans (h.grows.trans (hs b).grows), row', hr',
    retired_of_rank hle hret, rumor, ?_, ht⟩
  rw [ho hret]
  exact hrum

variable {rumor : HandoverRumor} {row : Writer}

lemma Sent.onward {db db' : Journal} (h : Sent P seat db rumor) (hs : Steady P seat db db') :
    Sent P seat db' rumor := by
  obtain ⟨source, hsrc, heq, hc⟩ := h.source
  exact ⟨h.account, h.market, h.valid, source, hsrc, hs.symm.trans heq, hc⟩

variable {row : Writer} {before : List δ}

section

variable (h : Handed P fleet seat s line)
include h

lemma Handed.next {after : List δ} {b : δ} (hl : line = before ++ i :: b :: after) :
    Passes P fleet seat s i b := by
  have hp := h.passes
  rw [hl] at hp
  exact (isChain_cons_cons.1 hp.right_of_append).1

lemma Handed.last (hr : row ∈ (s i).writers.get seat.key) (hst : row.state = .active) :
    ∃ before, line = before ++ [i] := by
  have hm : i ∈ line := (h.registered i).2 ⟨row, hr, by rw [hst]; decide⟩
  obtain ⟨before, after, hl⟩ := mem_iff_append.1 hm
  cases after with
  | nil => exact ⟨before, hl⟩
  | cons b after =>
    obtain ⟨row', hr', hret, -⟩ := (h.next hl).names
    obtain rfl := some.inj (hr.symm.trans hr')
    rw [hst] at hret
    cases hret

lemma Handed.reaches (hr : row ∈ (s i).writers.get seat.key) (hrum : rumor ∈ row.outgoing)
    (ht : rumor.content.targetDeviceId = fleet.ids j) :
    (∃ before, line = before ++ [i]) ∨ j ∈ line ∧ Passes P fleet seat s i j := by
  have hret := (h.sent i row hr rumor hrum).1
  have hm : i ∈ line := (h.registered i).2 ⟨row, hr, by rw [hret]; decide⟩
  obtain ⟨before, after, hl⟩ := mem_iff_append.1 hm
  cases after with
  | nil => exact .inl ⟨before, hl⟩
  | cons b after =>
    have hp := h.next hl
    obtain ⟨row', hr', -, rumor', hrum', ht'⟩ := hp.names
    obtain rfl := some.inj (hr.symm.trans hr')
    obtain rfl := some.inj (hrum.symm.trans hrum')
    obtain rfl := fleet.distinct (ht.symm.trans ht')
    exact .inr ⟨by simp [hl], hp⟩

lemma Handed.behind (hl : line = before ++ [j]) (hi : i ∈ line) : Extends P seat (s i) (s j) := by
  have hc : line.IsChain fun a b => Extends P seat (s a) (s b) :=
    h.passes.imp fun a b hpa => hpa.grows
  have : Trans (fun a b : δ => Extends P seat (s a) (s b))
      (fun a b : δ => Extends P seat (s a) (s b)) (fun a b : δ => Extends P seat (s a) (s b)) :=
    ⟨Extends.trans⟩
  have hp := isChain_iff_pairwise.1 hc
  rw [hl] at hi hp
  rcases mem_append.1 hi with hi | hi
  · exact (pairwise_append.1 hp).2.2 i hi j (mem_singleton_self j)
  · obtain rfl := mem_singleton.1 hi
    exact .refl P seat (s i)

lemma Handed.quiet (hsnd : ∀ i, (s' i).Sound P) (hs : ∀ i, Quiet P seat (s i) (s' i)) :
    Handed P fleet seat s' line := by
  refine ⟨fun i => ?_, h.first, h.nodup,
    h.passes.imp fun a b hp => hp.onward fun i => (hs i).onward, ?_, ?_⟩
  · rw [h.registered i]
    constructor
    · rintro ⟨row, hr, hne⟩
      obtain ⟨row', hr', hst, -⟩ := (hs i).row hr
      exact ⟨row', hr', hst ▸ hne⟩
    · rintro ⟨row', hr', hne⟩
      obtain ⟨row, hr, hst, -⟩ := (hs i).row_back hr'
      exact ⟨row, hr, hst ▸ hne⟩
  · intro i row' hr' ht pool hpo hf
    obtain ⟨row, hr, hst, -⟩ := (hs i).row_back hr'
    rw [hst] at ht
    have hb := (hs i).still row hr (by rw [ht]; decide)
    obtain ⟨earlier, he, -⟩ := hb.pools pool.poolId pool
      ((hsnd i).entrusts_iff.2 ⟨hpo, hf, rfl⟩)
    exact h.prepared i row hr ht earlier (mem_of_get he.1) he.2
  · intro i row' hr' rumor hrum
    obtain ⟨row, hr, hst, ho⟩ := (hs i).row_back hr'
    rw [ho] at hrum
    obtain ⟨hret, hse⟩ := h.sent i row hr rumor hrum
    refine ⟨hst.trans hret, hse.onward ⟨(hs i).grows, ?_⟩⟩
    exact (hs i).still row hr (by rw [hret]; decide)

end

variable [DecidableEq δ] {db : Journal}

lemma onward_update (h : Onward P seat (s i) db) (k : δ) :
    Onward P seat (s k) (update s i db k) := by
  by_cases hk : k = i
  · subst hk
    rw [update_self]
    exact h
  · rw [update_of_ne hk]
    exact .refl P seat (s k)

lemma quiet_update (h : Quiet P seat (s i) db) (k : δ) : Quiet P seat (s k) (update s i db k) := by
  by_cases hk : k = i
  · subst hk
    rw [update_self]
    exact h
  · rw [update_of_ne hk]
    exact .refl P seat (s k)

lemma sound_update (i : δ) (hs : ∀ k, (s k).Sound P) (h : db.Sound P) (k : δ) :
    (update s i db k).Sound P := by
  by_cases hk : k = i
  · subst hk
    rw [update_self]
    exact h
  · rw [update_of_ne hk]
    exact hs k

def Journal.register (db : Journal) (row : Writer) : Journal :=
  { db with writers := db.writers.put row }

omit [DecidableEq δ] in
lemma get_register (hid : row.id = seat.key) :
    (db.register row).writers.get seat.key = some row := by
  rw [← hid]
  exact get_put_self _ _

omit [DecidableEq δ] in
lemma onward_register (hid : row.id = seat.key)
    (hp : ∀ prior ∈ db.writers.get seat.key, prior.state.rank ≤ row.state.rank ∧
      prior.state ≠ .retired) : Onward P seat db (db.register row) := by
  have hs : Steady P seat db (db.register row) := steady_of_writers rfl rfl
  refine ⟨hs.1, fun _ _ _ => hs.2, fun prior hg => ?_⟩
  exact ⟨row, get_register hid, (hp prior hg).1, fun h => absurd h (hp prior hg).2⟩

section

variable (h : Handed P fleet seat s line)
include h

lemma Handed.register (hf : i = fleet.first seat.market)
    (hn : (s i).writers.get seat.key = none) (hid : row.id = seat.key)
    (hst : row.state = .active) (ho : row.outgoing = none) :
    Handed P fleet seat (update s i ((s i).register row)) [i] := by
  have he : ∀ k, k ∉ line := by
    intro k hk
    cases line with
    | nil => cases hk
    | cons a line =>
      have ha := h.first a rfl
      obtain ⟨row, hr, -⟩ := (h.registered a).1 mem_cons_self
      rw [ha, ← hf, hn] at hr
      cases hr
  have hg : (update s i ((s i).register row) i).writers.get seat.key = some row := by
    rw [update_self]
    exact get_register hid
  refine ⟨fun k => ?_, ?_, nodup_singleton i, isChain_singleton i, fun k => ?_, fun k => ?_⟩
  · by_cases hk : k = i
    · subst hk
      exact ⟨fun _ => ⟨row, hg, by rw [hst]; decide⟩, fun _ => mem_singleton_self k⟩
    · rw [update_of_ne hk, ← h.registered k]
      simp [hk, he k]
  · rintro a ⟨⟩
    exact hf
  · by_cases hk : k = i
    · subst hk
      rintro row' hr' ht
      obtain rfl := some.inj (hg.symm.trans hr')
      rw [hst] at ht
      cases ht
    · rw [update_of_ne hk]
      exact h.prepared k
  · by_cases hk : k = i
    · subst hk
      rintro row' hr' rumor hrum
      obtain rfl := some.inj (hg.symm.trans hr')
      rw [ho] at hrum
      cases hrum
    · rw [update_of_ne hk]
      exact h.sent k

lemma Handed.prepareTarget (hn : (s i).writers.get seat.key = none)
    (hps : ∀ pool ∈ (s i).pools.rows, ¬ pool.For P seat) (hid : row.id = seat.key)
    (hst : row.state = .target) (ho : row.outgoing = none) :
    Handed P fleet seat (update s i ((s i).register row)) line := by
  have hg : (update s i ((s i).register row) i).writers.get seat.key = some row := by
    rw [update_self]
    exact get_register hid
  have honw : Onward P seat (s i) ((s i).register row) := by
    refine onward_register hid fun prior hp => ?_
    rw [hn] at hp
    cases hp
  refine ⟨fun k => ?_, h.first, h.nodup, h.passes.imp fun a b hpa =>
    hpa.onward (onward_update honw), fun k => ?_, fun k => ?_⟩
  · rw [h.registered k]
    by_cases hk : k = i
    · subst hk
      constructor
      · rintro ⟨row', hr', -⟩
        rw [hn] at hr'
        cases hr'
      · rintro ⟨row', hr', hne⟩
        obtain rfl := some.inj (hg.symm.trans hr')
        exact absurd hst hne
    · rw [update_of_ne hk]
  · by_cases hk : k = i
    · subst hk
      rintro - - -
      rw [update_self]
      exact hps
    · rw [update_of_ne hk]
      exact h.prepared k
  · by_cases hk : k = i
    · subst hk
      rintro row' hr' rumor hrum
      obtain rfl := some.inj (hg.symm.trans hr')
      rw [ho] at hrum
      cases hrum
    · rw [update_of_ne hk]
      exact h.sent k

lemma Handed.beginHandover {prior : Writer} (hp : (s i).writers.get seat.key = some prior)
    (ha : prior.state = .active) (hs : Sent P seat (s i) rumor) :
    Handed P fleet seat (update s i ((s i).register (prior.retire rumor))) line := by
  have hid : (prior.retire rumor).id = seat.key :=
    (key_of_get hp : prior.id = seat.key)
  have hg : (update s i ((s i).register (prior.retire rumor)) i).writers.get seat.key =
      some (prior.retire rumor) := by
    rw [update_self]
    exact get_register hid
  have ho : Onward P seat (s i) ((s i).register (prior.retire rumor)) := by
    refine onward_register hid fun row hr => ?_
    obtain rfl := some.inj (hp.symm.trans hr)
    rw [ha]
    exact ⟨(by decide : active.rank ≤ retired.rank), by decide⟩
  refine ⟨fun k => ?_, h.first, h.nodup, h.passes.imp fun a b hpa =>
    hpa.onward (onward_update ho), fun k => ?_, fun k => ?_⟩
  · rw [h.registered k]
    by_cases hk : k = i
    · subst hk
      exact ⟨fun _ => ⟨_, hg, fun hne => by cases hne⟩, fun _ => ⟨prior, hp, by rw [ha]; decide⟩⟩
    · rw [update_of_ne hk]
  · by_cases hk : k = i
    · subst hk
      rintro row' hr' ht
      obtain rfl := some.inj (hg.symm.trans hr')
      cases ht
    · rw [update_of_ne hk]
      exact h.prepared k
  · by_cases hk : k = i
    · subst hk
      rintro row' hr' rumor' hrum
      obtain rfl := some.inj (hg.symm.trans hr')
      cases hrum
      rw [update_self]
      exact ⟨rfl, hs.onward (steady_of_writers rfl rfl)⟩
    · rw [update_of_ne hk]
      exact h.sent k

lemma Handed.restore {target new : Writer} (hr : row ∈ (s i).writers.get seat.key)
    (hrum : rumor ∈ row.outgoing) (htar : rumor.content.targetDeviceId = fleet.ids j)
    (ht : target ∈ (s j).writers.get seat.key) (hst : target.state = .target)
    (hgrw : Extends P seat (s i) db) (ho : Onward P seat (s j) db)
    (hg : db.writers.get seat.key = some new) (hact : new.state = .active)
    (hout : new.outgoing = none) : Handed P fleet seat (update s j db) (line ++ [j]) := by
  have hf : j ∉ line := by
    intro hj
    obtain ⟨row', hr', hne⟩ := (h.registered j).1 hj
    obtain rfl := some.inj (ht.symm.trans hr')
    exact hne hst
  -- the sender is the last device of the line: no other has followed it yet
  obtain ⟨before, hl⟩ : ∃ before, line = before ++ [i] :=
    (h.reaches hr hrum htar).resolve_right fun hp => hf hp.1
  have hret := (h.sent i row hr rumor hrum).1
  have hne : i ≠ j := by
    rintro rfl
    exact hf (by simp [hl])
  have hg' : (update s j db j).writers.get seat.key = some new := by
    rw [update_self]
    exact hg
  refine ⟨fun k => ?_, ?_, ?_, ?_, fun k => ?_, fun k => ?_⟩
  · rw [mem_append, mem_singleton, h.registered k]
    by_cases hk : k = j
    · subst hk
      exact ⟨fun _ => ⟨new, hg', by rw [hact]; decide⟩, fun _ => .inr rfl⟩
    · rw [update_of_ne hk, or_iff_left hk]
  · intro a ha
    refine h.first a ?_
    rw [head?_append] at ha
    cases hh : line.head? with
    | none =>
      rw [head?_eq_none_iff.1 hh] at hl
      simp at hl
    | some b => rwa [hh, some_or] at ha
  · exact nodup_append.2 ⟨h.nodup, nodup_singleton j, fun a ha b hb => by
      obtain rfl := mem_singleton.1 hb
      exact fun heq => hf (heq ▸ ha)⟩
  · refine isChain_append.2 ⟨h.passes.imp fun a b hp =>
      hp.onward (onward_update ho), isChain_singleton j, ?_⟩
    intro a ha b hb
    obtain rfl : i = a := by simpa [hl] using ha
    obtain rfl : j = b := by simpa using hb
    refine ⟨?_, row, ?_, hret, rumor, hrum, htar⟩
    · rw [update_of_ne hne, update_self]
      exact hgrw
    · rw [update_of_ne hne]
      exact hr
  · by_cases hk : k = j
    · subst hk
      rintro row' hr' ht
      obtain rfl := some.inj (hg'.symm.trans hr')
      rw [hact] at ht
      cases ht
    · rw [update_of_ne hk]
      exact h.prepared k
  · by_cases hk : k = j
    · subst hk
      rintro row' hr' rumor' hrum'
      obtain rfl := some.inj (hg'.symm.trans hr')
      rw [hout] at hrum'
      cases hrum'
    · rw [update_of_ne hk]
      exact h.sent k

end

end

section
variable {δ : Type} [DecidableEq δ] {P : WriterPlatform} {fleet : Fleet δ} {s s' : δ → Journal}

/-- What a step does to the devices, for each market. -/
structure FleetKept (P : StockPlatform) (fleet : Fleet δ) (s s' : δ → Journal) : Prop where
  sound : FleetSound P fleet s'
  onward : ∀ seat i, Onward P seat (s i) (s' i)

omit [DecidableEq δ] in
variable {rumor : HandoverRumor} {row : Writer} {i : δ}

lemma quiet_register (P : StockPlatform) {seat : Seat P.toPlatform} {db : Journal}
    (hid : seat.key ≠ row.id) : Quiet P seat db (db.register row) :=
  .of_steady (steady_of_writers rfl rfl) (get_put_of_ne hid)

variable {db : Journal} {i : δ}

section

variable (h : FleetSound P.toStockPlatform fleet s)
include h

lemma FleetKept.of_quiet (hsnd : db.Sound P.toStockPlatform)
    (hq : ∀ seat, Quiet P.toStockPlatform seat (s i) db) :
    FleetKept P.toStockPlatform fleet s (update s i db) := by
  have hs := sound_update i h.sound hsnd
  refine ⟨⟨hs, fun seat => ?_⟩, fun seat => onward_update (hq seat).onward⟩
  obtain ⟨line, hl⟩ := h.handed seat
  exact ⟨line, hl.quiet hs (quiet_update (hq seat))⟩

lemma FleetKept.same : FleetKept P.toStockPlatform fleet s (update s i (s i)) :=
  .of_quiet h (h.sound i) fun seat => .refl _ seat (s i)

lemma FleetKept.of_register {account market : Text} (hm : IsMarketOf P.toPlatform market account)
    (hid : row.id = organizerStockWriterKey account market)
    (ho : ∀ seat : Seat P.toPlatform, seat.account = account → seat.market = market →
      (∀ prior ∈ (s i).writers.get seat.key, prior.state.rank ≤ row.state.rank ∧
        prior.state ≠ .retired) ∧
      ∀ line, Handed P.toStockPlatform fleet seat s line → ∃ line',
        Handed P.toStockPlatform fleet seat (update s i ((s i).register row)) line') :
    FleetKept P.toStockPlatform fleet s (update s i ((s i).register row)) := by
  have hsnd : ((s i).register row).Sound P.toStockPlatform := (h.sound i).of_writers rfl rfl
  have hs := sound_update i h.sound hsnd
  have hse : ∀ seat : Seat P.toPlatform, seat.key = row.id →
      seat.account = account ∧ seat.market = market := by
    intro seat hk
    obtain ⟨ha, hm⟩ := seat_of_key hm (hk.trans hid)
    exact ⟨ha.symm, hm.symm⟩
  refine ⟨⟨hs, fun seat => ?_⟩, fun seat => ?_⟩
  · obtain ⟨line, hl⟩ := h.handed seat
    by_cases hk : seat.key = row.id
    · obtain ⟨ha, hm⟩ := hse seat hk
      exact (ho seat ha hm).2 line hl
    · exact ⟨line, hl.quiet hs (quiet_update (quiet_register _ hk))⟩
  · by_cases hk : seat.key = row.id
    · obtain ⟨ha, hm⟩ := hse seat hk
      exact onward_update (onward_register hk.symm (ho seat ha hm).1)
    · exact onward_update (quiet_register _ hk).onward

lemma keeps_register {input : RegisterInput} (hf : i = fleet.first input.marketCoordinate)
    (hstep : registerOrganizerStockWriterDevice P (s i) input = .ok db) :
    FleetKept P.toStockPlatform fleet s (update s i db) := by
  rcases registerOrganizerStockWriterDevice_writes hstep with
    rfl | ⟨hm, hn, row, hid, hst, ho, rfl⟩
  · exact .same h
  · refine .of_register h hm hid fun seat ha hs => ?_
    have hk := seat.key_eq ha hs
    rw [← hk] at hn hid
    refine ⟨fun prior hp => ?_, fun line hl =>
      ⟨[i], hl.register (hs ▸ hf) hn hid hst ho⟩⟩
    rw [hn] at hp
    cases hp

lemma keeps_prepareTarget {input : PrepareTargetInput}
    (hstep : prepareOrganizerStockWriterTarget P (s i) input = .ok db) :
    FleetKept P.toStockPlatform fleet s (update s i db) := by
  rcases prepareOrganizerStockWriterTarget_writes (h.sound i) hstep with
    rfl | ⟨hm, hn, hps, row, hid, hst, ho, rfl⟩
  · exact .same h
  · refine .of_register h hm hid fun seat ha hs => ?_
    have hk := seat.key_eq ha hs
    rw [← hk] at hn hid
    refine ⟨fun prior hpr => ?_, fun line hl =>
      ⟨line, hl.prepareTarget hn ?_ hid hst ho⟩⟩
    · rw [hn] at hpr
      cases hpr
    · rintro pool hpo ⟨hp, grant, hgr, hg⟩
      exact hps pool hpo (hp.trans ha) grant hgr
        (hg.trans hs)

lemma keeps_beginHandover {input : BeginInput}
    (hst : beginOrganizerStockWriterHandover P (s i) input = .ok db) :
    FleetKept P.toStockPlatform fleet s (update s i db) := by
  rcases beginOrganizerStockWriterHandover_writes hst with
    rfl | ⟨prior, captured, rumor, commitments, hp, hact, hcoh, hc, hm,
      hv, rfl⟩
  · exact .same h
  · have hid : (prior.retire rumor).id = organizerStockWriterKey input.authenticatedPubkey
        input.marketCoordinate := (key_of_get hp : prior.id = _)
    refine .of_register h hm hid fun seat ha hs => ?_
    have hk := seat.key_eq ha hs
    rw [← hk] at hp
    rw [← ha, ← hs] at hcoh hv
    have hse : Sent P.toStockPlatform seat (s i) rumor := by
      refine ⟨?_, ?_, hv, s i, h.sound i, .refl _ seat (s i), ?_⟩
      · rw [hc, ha]
        rfl
      · rw [hc, hs]
        rfl
      · rw [hc]
        exact cohort_captures (h.sound i) hcoh commitments
    refine ⟨fun row hr => ?_, fun line hl =>
      ⟨line, hl.beginHandover hp hact hse⟩⟩
    obtain rfl := some.inj (hp.symm.trans hr)
    rw [hact]
    exact ⟨(by decide : active.rank ≤ retired.rank), by decide⟩

end

lemma Sent.holds {P : StockPlatform} {seat : Seat P.toPlatform} (h : Sent P seat db rumor) :
    (∀ pool ∈ rumor.content.snapshot.pools, pool.grantRumor ∈ db.messages) ∧
      ∀ e ∈ rumor.content.snapshot.entries, e.rumor ∈ db.messages := by
  obtain ⟨source, hs, hstd, hc⟩ := h.source
  have hent : ∀ pool ∈ rumor.content.snapshot.pools,
      source.Entrusts P seat pool.poolId pool := by
    intro pool hp
    obtain ⟨hr, hf⟩ := (hc.pools pool).1 hp
    exact hs.entrusts_iff.2 ⟨hr, hf, rfl⟩
  constructor
  · intro pool hp
    obtain ⟨later, hl, hk⟩ := hstd.2.pools pool.poolId pool (hent pool hp)
    rw [← hk.grantRumor]
    exact mem_append_left _ (mem_map_of_mem (mem_of_get hl.1))
  · intro e he
    obtain ⟨pool, hp, hpid, -⟩ := h.valid.owned e he
    have hs : e ∈ source.entriesOf seat.account pool.poolId :=
      (hc.entries pool.poolId pool (hent pool hp)).mem_iff.1
        (mem_filter.2 ⟨he, by simpa using hpid.symm⟩)
    obtain ⟨later, hl, hk⟩ :=
      hstd.2.entries pool.poolId pool (hent pool hp) e hs
    rw [← hk.rumor]
    exact mem_append_right _ (mem_map_of_mem (mem_entriesOf.1 hl).1)

omit [DecidableEq δ] in
lemma Sent.apart {P : StockPlatform} {seat : Seat P.toPlatform} {s : δ → Journal}
    (h : Sent P seat (s i) rumor) (ha : HashesApart s) (j : δ) :
    rumor.content.snapshot.Apart (s j) := by
  obtain ⟨hps, hent⟩ := h.holds
  refine ⟨fun p hp q hq hid => ?_, fun e he f hf hid => ?_⟩
  · exact ha i j _ (hps p hp) _
      (mem_append_left _ (mem_map_of_mem hq)) hid
  · exact ha i j _ (hent e he) _
      (mem_append_right _ (mem_map_of_mem hf)) hid

lemma keeps_restore {j : δ} {input : RestoreInput} (h : FleetSound P.toStockPlatform fleet s)
    (hapart : HashesApart s) (hdev : input.expectedTargetDeviceId = fleet.ids j)
    (ho : P.openHandover input.envelope input.envelopes = some rumor) (hsends : (s i).Sends rumor)
    (hstep : restoreOrganizerStockWriterHandover P (s j) input = .ok db) :
    FleetKept P.toStockPlatform fleet s (update s j db) ∧
      ∀ seat : Seat P.toPlatform, rumor.content.organizerPubkey = seat.account →
        rumor.content.marketCoordinate = seat.market →
        Extends P.toStockPlatform seat (s i) db := by
  obtain ⟨rumor', ho', ha, htar, hm, target, ht, hwrote⟩ :=
    restoreOrganizerStockWriterHandover_writes hstep
  obtain rfl : rumor = rumor' := some.inj (ho.symm.trans ho')
  let own : Seat P.toPlatform :=
    ⟨rumor.content.organizerPubkey, rumor.content.marketCoordinate, hm⟩
  obtain ⟨line, hl⟩ := h.handed own
  obtain ⟨row, hr, hrum⟩ := hsends
  obtain ⟨hret, hs⟩ := hl.sent i row hr rumor hrum
  have hnm := htar.trans hdev
  have hse : ∀ seat : Seat P.toPlatform, rumor.content.organizerPubkey = seat.account →
      rumor.content.marketCoordinate = seat.market → seat = own := by
    rintro ⟨account, market, _⟩ rfl rfl
    rfl
  rcases hwrote with ⟨hact, rfl⟩ | ⟨hst, rfl⟩
  · -- an exact retry: the target follows its sender already
    refine ⟨.same h, fun seat ha hm => ?_⟩
    obtain rfl := hse seat ha hm
    rcases hl.reaches hr hrum hnm with ⟨before, hla⟩ | ⟨-, hpass⟩
    · obtain ⟨before', hla'⟩ := hl.last ht hact
      obtain ⟨-, heq⟩ := append_inj' (hla.symm.trans hla') rfl
      obtain rfl : i = j := by simpa using heq
      exact .refl _ own (s i)
    · exact hpass.grows
  · have hval := hs.valid
    have hn := hl.prepared j target ht hst
    have happ := hs.apart hapart j
    obtain ⟨source, hsrc, hstd, hcap⟩ := hs.source
    have hres := hval.sound_restored (h.sound j) hn happ
    let db' : Journal := ((s j).withSnapshot rumor.content.snapshot).register
      (rumor.activated input.authenticatedPubkey input.envelope)
    have hsa : ∀ seat : Seat P.toPlatform,
        Steady P.toStockPlatform seat ((s j).withSnapshot rumor.content.snapshot) db' :=
      fun seat => steady_of_writers rfl rfl
    have hsnd : db'.Sound P.toStockPlatform := hres.of_writers rfl rfl
    have hgrw : Extends P.toStockPlatform own (s i) db' :=
      (hstd.1.trans (hval.extends_restored (h.sound j) hn happ hsrc hcap)).trans
        (hsa own).1
    have hid : (rumor.activated input.authenticatedPubkey input.envelope).id = own.key := by
      rw [← ha]
      rfl
    have honw : Onward P.toStockPlatform own (s j) db' := by
      refine ⟨⟨?_, ?_, ?_⟩, fun row hr hret => ?_, fun row hr => ?_⟩
      · exact fun _ pool hp => absurd hp.2 (hn pool (mem_of_get hp.1))
      · exact fun _ pool hp => absurd hp.2 (hn pool (mem_of_get hp.1))
      · exact fun _ pool hp => absurd hp.2 (hn pool (mem_of_get hp.1))
      · obtain rfl := some.inj (ht.symm.trans hr)
        rw [hst] at hret
        cases hret
      · obtain rfl := some.inj (ht.symm.trans hr)
        refine ⟨_, get_register hid, ?_, fun hret => ?_⟩
        · rw [hst]
          exact Nat.zero_le _
        · rw [hst] at hret
          cases hret
    have hoth : ∀ seat : Seat P.toPlatform, seat ≠ own →
        Quiet P.toStockPlatform seat (s j) db' := by
      intro seat hne
      have hdif : ¬ (own.account = seat.account ∧ own.market = seat.market) :=
        fun heq => hne (hse seat heq.1 heq.2)
      refine .of_steady ((hval.steady_restored (h.sound j) hn happ hdif).trans
        (hsa seat)) (get_put_of_ne fun hkey => hdif ?_)
      exact seat_of_key hm (hkey.trans hid)
    have hsoun := sound_update j h.sound hsnd
    refine ⟨⟨⟨hsoun, fun seat => ?_⟩, fun seat => ?_⟩, fun seat ha hm => ?_⟩
    · by_cases heq : seat = own
      · subst heq
        exact ⟨line ++ [j], hl.restore hr hrum hnm ht hst hgrw honw
          (get_register hid) rfl rfl⟩
      · obtain ⟨line', hl'⟩ := h.handed seat
        exact ⟨line', hl'.quiet hsoun (quiet_update (hoth seat heq))⟩
    · by_cases heq : seat = own
      · subst heq
        exact onward_update honw
      · exact onward_update (hoth seat heq).onward
    · obtain rfl := hse seat ha hm
      exact hgrw

lemma FleetStep.keeps (h : FleetStep P fleet s s') (ha : HashesApart s)
    (hs : FleetSound P.toStockPlatform fleet s) : FleetKept P.toStockPlatform fleet s s' := by
  cases h with
  | register hf _ h => exact keeps_register hs hf h
  | prepareTarget _ h => exact keeps_prepareTarget hs h
  | beginHandover h => exact keeps_beginHandover hs h
  | restore hd ho hse h =>
    exact (keeps_restore hs ha hd ho hse h).1
  | @operate i op db h =>
    exact .of_quiet hs ((op.apply_moves h).extends (hs.sound i)).2
      fun seat => apply_quiet seat (hs.sound i) h
  | @retain i account rumor envelope db h =>
    obtain ⟨hw, hstd, hdb⟩ := retainGrantEnvelope_writes (hs.sound i) h
    exact .of_quiet hs hdb fun seat => .of_steady (hstd seat) (by rw [hw])

omit [DecidableEq δ] in
lemma fleetSound_start (P : StockPlatform) (fleet : Fleet δ) :
    FleetSound P fleet fun _ => Journal.empty := by
  refine ⟨fun _ => ⟨?_, ?_, ?_, ?_⟩, fun seat => ⟨[], ?_, ?_, nodup_nil, isChain_nil, ?_, ?_⟩⟩
  · rintro pool ⟨⟩
  · rintro e ⟨⟩
  · rintro e ⟨⟩
  · intro account poolId
    exact nodup_nil
  · intro i
    constructor
    · rintro ⟨⟩
    · rintro ⟨row, ⟨⟩, -⟩
  · rintro i ⟨⟩
  · rintro i row ⟨⟩
  · rintro i row ⟨⟩

lemma Reaches.keeps (h : Reaches P fleet s s') (hsnd : FleetSound P.toStockPlatform fleet s) :
    FleetKept P.toStockPlatform fleet s s' := by
  induction h with
  | refl => exact ⟨hsnd, fun seat i => .refl _ seat (s i)⟩
  | tail _ hs ih =>
    have hn := hs.2.keeps hs.1 ih.sound
    exact ⟨hn.sound, fun seat i => (ih.onward seat i).trans (hn.onward seat i)⟩

end

/-- One stock writer at a time, in every run of any number of devices. -/
theorem one_stock_writer {δ : Type} [DecidableEq δ] (P : WriterPlatform) (fleet : Fleet δ)
    (seat : Seat P.toPlatform) {s : δ → Journal}
    (hrun : Reaches P fleet (fun _ => Journal.empty) s) :
    -- at most one device can append an entry for the market and a writer
    (∀ writerId i j, (s i).CanAppend P.toStockPlatform seat writerId →
      (s j).CanAppend P.toStockPlatform seat writerId → i = j) ∧
    -- every device's entry list for a pool is a prefix of the longest one
    (∃ k, ∀ i, ((s i).writers.get seat.key).isSome → ∀ poolId pool,
      (s i).Entrusts P.toStockPlatform seat poolId pool →
        (s i).history seat.account poolId <+: (s k).history seat.account poolId) ∧
    -- a restored target holds every entry, closing and handout that the source has frozen
    (∀ i j (input : RestoreInput) rumor db, HashesApart s →
      input.expectedTargetDeviceId = fleet.ids j →
      P.openHandover input.envelope input.envelopes = some rumor → (s i).Sends rumor →
      rumor.content.organizerPubkey = seat.account → rumor.content.marketCoordinate = seat.market →
      restoreOrganizerStockWriterHandover P (s j) input = .ok db →
        Extends P.toStockPlatform seat (s i) db) ∧
    -- nothing is lost later, and a registration goes from target over active to retired only
    (∀ t, Reaches P fleet s t → ∀ i, Extends P.toStockPlatform seat (s i) (t i) ∧
      ∀ row ∈ (s i).writers.get seat.key, ∃ row' ∈ (t i).writers.get seat.key,
        row.state.rank ≤ row'.state.rank) := by
  have hsound := (hrun.keeps (fleetSound_start P.toStockPlatform fleet)).sound
  obtain ⟨line, hline⟩ := hsound.handed seat
  refine ⟨fun writerId i j hi hj => ?_, ?_, ?_, fun t hrun' i => ?_⟩
  · obtain ⟨row, hrow, hactive⟩ := hi.active (hsound.sound i)
    obtain ⟨row', hrow', hactive'⟩ := hj.active (hsound.sound j)
    obtain ⟨before, hlast⟩ := hline.last hrow hactive
    obtain ⟨before', hlast'⟩ := hline.last hrow' hactive'
    obtain ⟨-, heq⟩ := append_inj' (hlast.symm.trans hlast') rfl
    simpa using heq
  · have hline' : ∃ k, ∀ i ∈ line, Extends P.toStockPlatform seat (s i) (s k) := by
      rcases eq_nil_or_concat' line with hnil | ⟨before, k, hlast⟩
      · exact ⟨fleet.first seat.market, fun i hi => by rw [hnil] at hi; cases hi⟩
      · exact ⟨k, fun i hi => hline.behind hlast hi⟩
    obtain ⟨k, hk⟩ := hline'
    refine ⟨k, fun i hsome poolId pool hpool => ?_⟩
    obtain ⟨row, hrow⟩ := isSome_iff_exists.1 hsome
    by_cases htarget : row.state = .target
    · exact absurd hpool.2 (hline.prepared i row hrow htarget pool (mem_of_get hpool.1))
    · exact (hk i ((hline.registered i).2 ⟨row, hrow, htarget⟩)).history poolId pool hpool
  · intro i j input rumor db hapart hdevice hopen hsends haccount hmarket hstep
    exact (keeps_restore hsound hapart hdevice hopen hsends hstep).2 seat haccount hmarket
  · have honward := (hrun'.keeps hsound).onward seat i
    refine ⟨honward.grows, fun row hrow => ?_⟩
    obtain ⟨row', hrow', hle, -⟩ := honward.rank row hrow
    exact ⟨row', hrow', hle⟩

namespace Sample

def laptop : Text := "0b8f6d1e-3c2a-4f5b-9d7e-6a5b4c3d2e1f"

def tablet : Text := "1c9a7e2f-4d3b-4a6c-8e8f-7b6c5d4e3f2a"

def devices : Fleet Bool where
  ids isLaptop := if isLaptop then laptop else tablet
  distinct a b h := by
    cases a <;> cases b
    · rfl
    · exact absurd h (by decide)
    · exact absurd h (by decide)
    · rfl
  first _ := true

def envelope (content : Text) : SignedEvent where
  id := hexText 64 0x5f0c8b1a77e0c1f6f2a95d5ed6a30b91c4f7b0dfb58e2c9a4410d3a7e6b21f08
  pubkey := merchant
  createdAt := 1800000130
  kind := 1059
  tags := [["p", organizer]]
  content := content
  sig := []

def transferId : Text := hexText 64
  0x8a1f30d2c7b94e65f08d11c2a3b4c5d6e7f8091a2b3c4d5e6f708192a3b4c5d6

def sendingPlatform : WriterPlatform :=
  { organizerPlatform with
    isValidSignedEvent := fun event => decide (event = committedEvent ∨ event = envelope "grant")
    unwrap := fun event => if event = envelope "grant" then some grantRumor else none
    handoverHash := fun _ => transferId
    handoverBytes := fun _ => 6000
    fitsPackets := fun _ => true
    openHandover := fun _ _ => none }

def done (before : Journal) : Result Journal → Journal
  | .ok db => db
  | .error _ => before

def registration : RegisterInput where
  authenticatedPubkey := organizer
  marketCoordinate := market
  writerId := writer
  deviceId := laptop
  expectedPoolIds := [poolId]
  shouldContinue := true

def preparation : PrepareTargetInput where
  authenticatedPubkey := organizer
  marketCoordinate := market
  targetDeviceId := tablet
  shouldContinue := true

def beginning : BeginInput where
  authenticatedPubkey := organizer
  marketCoordinate := market
  writerId := writer
  targetDeviceId := tablet
  evidence := [committedEvent]
  shouldContinue := true
  nowMs := 1800000300000

def restoration : RestoreInput where
  authenticatedPubkey := organizer
  envelope := envelope "handover"
  envelopes := []
  expectedTargetDeviceId := tablet
  shouldContinue := true
  nowMs := 1800000400000

section
variable (P : WriterPlatform)

def installed : Journal :=
  done Journal.empty (JournalOp.apply P.toStockPlatform Journal.empty (.install install))

def retained : Journal :=
  done (installed P) (retainGrantEnvelope (installed P) organizer grantRumor (envelope "grant"))

def sold : Journal :=
  done (retained P)
    (JournalOp.apply P.toStockPlatform (retained P) (.order (sale "order-1" 1800000200000)))

def registered : Journal :=
  done (sold P) (registerOrganizerStockWriterDevice P (sold P) registration)

def prepared : Journal :=
  done Journal.empty (prepareOrganizerStockWriterTarget P Journal.empty preparation)

def retired : Journal :=
  done (registered P) (beginOrganizerStockWriterHandover P (registered P) beginning)

end

def handover : Option HandoverRumor :=
  ((retired sendingPlatform).writers.get (organizerStockWriterKey organizer market)).bind
    Writer.outgoing

def delivering (P : WriterPlatform) (sent : Option HandoverRumor) : WriterPlatform :=
  { P with openHandover := fun event _ => if event = envelope "handover" then sent else none }

lemma delivering_opens (P : WriterPlatform) (sent : Option HandoverRumor) :
    (delivering P sent).openHandover restoration.envelope restoration.envelopes = sent := by
  change (if restoration.envelope = envelope "handover" then sent else none) = sent
  exact if_pos rfl

def writerPlatform : WriterPlatform := delivering sendingPlatform handover

def restored : Journal :=
  done (prepared writerPlatform)
    (restoreOrganizerStockWriterHandover writerPlatform (prepared writerPlatform) restoration)

def both (laptop tablet : Journal) (isLaptop : Bool) : Journal :=
  if isLaptop then laptop else tablet

variable {P : WriterPlatform}

lemma laptop_step {a b a' : Journal}
    (h : FleetStep P devices (both a b) (update (both a b) true a')) :
    FleetStep P devices (both a b) (both a' b) := by
  have hu : update (both a b) true a' = both a' b := by
    funext isLaptop
    cases isLaptop <;> rfl
  exact hu ▸ h

lemma tablet_step {a b b' : Journal}
    (h : FleetStep P devices (both a b) (update (both a b) false b')) :
    FleetStep P devices (both a b) (both a b') := by
  have hu : update (both a b) false b' = both a b' := by
    funext isLaptop
    cases isLaptop <;> rfl
  exact hu ▸ h

lemma done_eq {before : Journal} {x : Result Journal} (h : x.toBool = true) :
    x = .ok (done before x) := by
  cases x with
  | ok db => rfl
  | error e => cases h

instance (s : Bool → Journal) : Decidable (HashesApart s) := by
  unfold HashesApart; infer_instance

def seat : Seat writerPlatform.toPlatform := ⟨organizer, market, by decide +kernel⟩

lemma steps_succeed :
    (apply writerPlatform.toStockPlatform Journal.empty (.install install)).toBool ∧
      (retainGrantEnvelope (installed writerPlatform) organizer grantRumor
        (envelope "grant")).toBool ∧
      (apply writerPlatform.toStockPlatform (retained writerPlatform)
        (.order (sale "order-1" 1800000200000))).toBool ∧
      (registerOrganizerStockWriterDevice writerPlatform (sold writerPlatform)
        registration).toBool ∧
      (prepareOrganizerStockWriterTarget writerPlatform Journal.empty preparation).toBool ∧
      (beginOrganizerStockWriterHandover writerPlatform (registered writerPlatform)
        beginning).toBool ∧
      (restoreOrganizerStockWriterHandover writerPlatform (prepared writerPlatform)
        restoration).toBool ∧
      ∃ rumor ∈ handover, ∃ row ∈ (retired writerPlatform).writers.get (organizerStockWriterKey
        rumor.content.organizerPubkey rumor.content.marketCoordinate),
          row.outgoing = some rumor := by
  decide +kernel

lemma steps_apart : HashesApart (both Journal.empty Journal.empty) ∧
      HashesApart (both (installed writerPlatform) Journal.empty) ∧
      HashesApart (both (retained writerPlatform) Journal.empty) ∧
      HashesApart (both (sold writerPlatform) Journal.empty) ∧
      HashesApart (both (registered writerPlatform) Journal.empty) ∧
      HashesApart (both (registered writerPlatform) (prepared writerPlatform)) ∧
      HashesApart (both (retired writerPlatform) (prepared writerPlatform)) := by
  decide +kernel

lemma run : Reaches writerPlatform devices (fun _ => Journal.empty)
    (both (retired writerPlatform) restored) := by
  let P := writerPlatform
  obtain ⟨hi, hr, hs, hreg, hp, hb, hres, rumor, hrum, hse⟩ :=
    steps_succeed
  obtain ⟨h₁, h₂, h₃, h₄, h₅, h₆, h₇⟩ := steps_apart
  have hs' : apply P.toStockPlatform (retained P)
      (.order (sale "order-1" 1800000200000)) = .ok (sold P) := done_eq hs
  have ho := (delivering_opens sendingPlatform handover).trans hrum
  have hsent : (both (retired P) (prepared P) true).Sends rumor := hse
  have hl : FleetStep P devices (both (retired P) (prepared P))
      (update (both (retired P) (prepared P)) false restored) :=
    .restore rfl ho hsent (done_eq hres)
  have hsta : (fun _ => Journal.empty) = both Journal.empty Journal.empty := by
    funext isLaptop
    cases isLaptop <;> rfl
  rw [hsta]
  refine .tail (.tail (.tail (.tail (.tail (.tail (.tail .refl
    ⟨h₁, laptop_step (.operate (done_eq hi))⟩)
    ⟨h₂, laptop_step (.retain (done_eq hr))⟩)
    ⟨h₃, laptop_step (.operate hs')⟩)
    ⟨h₄, laptop_step (.register rfl rfl (done_eq hreg))⟩)
    ⟨h₅, tablet_step (.prepareTarget rfl (done_eq hp))⟩)
    ⟨h₆, laptop_step (.beginHandover (done_eq hb))⟩)
    ⟨h₇, tablet_step hl⟩

end Sample

theorem one_stock_writer_sample : ∃ s : Bool → Journal,
      Reaches writerPlatform devices (fun _ => Journal.empty) s ∧
      (s false).writers.rows.map Writer.state = [.active] ∧
      (s true).writers.rows.map Writer.state = [.retired] ∧
      (s false).entries.rows.map Entry.orderId = ["order-1".toList] ∧
      ∀ writerId i j, (s i).CanAppend writerPlatform.toStockPlatform seat writerId →
        (s j).CanAppend writerPlatform.toStockPlatform seat writerId → i = j :=
  ⟨_, run, by decide +kernel, by decide +kernel, by decide +kernel,
    (one_stock_writer writerPlatform devices seat run).1⟩

end Conduit.Stock
