import Conduit.Stock.JournalOrder

namespace Conduit.Stock

open Js Throwing CheckoutSpark List Sample Table OrderAcceptanceInput Entry

structure OrderReply where
  replayed : Bool
  entries : List Entry

def Entry.bound (binding : List PoolLine) (e : Entry) : Entry :=
  if e.orderPoolBinding = none then { e with orderPoolBinding := some binding } else e

/-- `commitOrganizerStockOrder` with what it returns. -/
def replyOrganizerStockOrder (P : StockPlatform) (db : Journal) (input : OrderAcceptanceInput) :
    Result (Journal × OrderReply) := do
  let db' ← commitOrganizerStockOrder P db input
  let (_, results) ← acceptLines P input db input.entries
  return (db', {
    replayed := results.all (·.replayed)
    entries := results.map fun r => r.entry.bound input.orderPoolBinding })

def Journal.Indexed (db : Journal) : Prop :=
  ∀ e ∈ db.entries.rows, ∀ f ∈ db.entries.rows, e.Collides f → e = f

variable (input : OrderAcceptanceInput)

def OrderAcceptanceInput.Owns (e : Entry) : Prop :=
  e.accountPubkey = input.authenticatedPubkey ∧ e.orderId = input.orderId

variable (P : StockPlatform)

def Journal.Serves (db : Journal) (account : Text) (line : PoolLine) : Prop :=
  ∃ pool grant, db.pools.get (poolKey account line.poolId) = some pool ∧
    pool.organizerPubkey = account ∧ pool.writerId = line.writerId ∧
    assertPool P pool = .ok grant

def OrderAcceptanceInput.Records (input : OrderAcceptanceInput) (nowMs : Int)
    (line : PoolLine) (e : Entry) : Prop :=
  input.Owns e ∧ e.poolId = line.poolId ∧ e.evidence = input.evidence ∧
    e.orderPoolBinding = some input.orderPoolBinding ∧
    ∃ a, parseStockAuthorityRumor P e.rumor = .ok (.accepted a) ∧
      a.identityBinding = input.identityBinding ∧ a.termsBinding = input.termsBinding ∧
      a.claimRef = input.claimRef ∧ a.quantity = line.quantity ∧ a.acceptedAtMs = nowMs

/-- An exact unique organizer pool is missing on some line. -/
def OrderAcceptanceInput.Malformed : Prop :=
  input.entries = [] ∨ (∃ entry ∈ input.entries, ¬ IsHex64 entry.poolId ∨
    ¬ IsUuidV4 entry.writerId ∨ entry.quantity < 1 ∨ entry.quantity > 2147483647) ∨
    ¬ (input.entries.map (·.poolId)).Nodup

def OrderAcceptanceInput.Valid : Prop :=
  ¬ input.Malformed ∧ ¬ (input.evidence = [] ∨ utf8ByteLength input.evidence > 65536)

structure OrderAcceptanceInput.Decided (P : StockPlatform) (input : OrderAcceptanceInput)
    (nowMs : Int) (db : Journal) (entries : List Entry) : Prop where
  valid : input.Valid
  records : List.Forall₂ (input.Records P nowMs) input.entries entries
  complete : ∀ e, e ∈ entries ↔ e ∈ db.entries.rows ∧ input.Owns e
  serves : ∀ line ∈ input.entries, db.Serves P input.authenticatedPubkey line

def OrderAcceptanceInput.Debits (db db' : Journal) (line : PoolLine) (e : Entry) : Prop :=
  ∃ pool, db.pools.get (poolKey input.authenticatedPubkey line.poolId) = some pool ∧
    line.quantity ≤ pool.quantity - pool.acceptedQuantity ∧
    db'.pools.get (poolKey input.authenticatedPubkey line.poolId) =
      some (pool.accepts line.quantity e.rumor)

structure OrderAcceptanceInput.Commits (P : StockPlatform) (input : OrderAcceptanceInput)
    (db db' : Journal) (reply : OrderReply) : Prop where
  first : reply.replayed = false ∧ ∀ e ∈ db.entries.rows, ¬ input.Owns e
  entries : db'.entries.rows = db.entries.rows ++ reply.entries
  debits : List.Forall₂ (input.Debits db db') input.entries reply.entries
  others : ∀ key, (∀ line ∈ input.entries, key ≠ poolKey input.authenticatedPubkey line.poolId) →
    db'.pools.get key = db.pools.get key
  writers : db'.writers = db.writers

structure OrderAcceptanceInput.Replays (input : OrderAcceptanceInput) (db db' : Journal)
    (reply : OrderReply) : Prop where
  replayed : reply.replayed = true
  entries : ∀ e, e ∈ db'.entries.rows ↔ e ∈ db.entries.rows ∧ ¬ input.Owns e ∨
    ∃ f ∈ db.entries.rows, input.Owns f ∧ e = f.bound input.orderPoolBinding
  pools : db'.pools = db.pools
  writers : db'.writers = db.writers

def OrderAcceptanceInput.Repeats (later input : OrderAcceptanceInput) : Prop :=
  later.entries.Perm input.entries ∧ later.identityBinding = input.identityBinding ∧
    later.termsBinding = input.termsBinding ∧ later.claimRef = input.claimRef ∧
    later.evidence = input.evidence

def OrderAcceptanceInput.Current (input : OrderAcceptanceInput) (db : Journal) : Prop :=
  IsTime input.nowMs ∧ input.shouldContinue = true ∧ ∀ line ∈ input.entries, ∀ pool grant,
    db.pools.get (poolKey input.authenticatedPubkey line.poolId) = some pool →
    readGrant P pool.grantRumor = .ok grant →
    assertOrganizerStockWriterCurrent db input.authenticatedPubkey grant.marketCoordinate
      line.writerId = .ok ()

/-- What may follow: operations, but for a single pool's acceptance of the same order, and any
change of the writers. -/
inductive OrderAcceptanceInput.Follows (P : StockPlatform) (input : OrderAcceptanceInput) :
    Journal → Journal → Prop
  | op {db : Journal} (op : JournalOp) (hop : ∀ a, op = .acceptance a →
      ¬ (a.authenticatedPubkey = input.authenticatedPubkey ∧ a.orderId = input.orderId)) :
      input.Follows P db (db.after P op)
  | writers {db : Journal} (writers : Table Writer Writer.id) :
      input.Follows P db { db with writers := writers }

section
variable {P : StockPlatform} {db db' : Journal} {input : OrderAcceptanceInput} {line : PoolLine}
  {account : Text} {lines : List PoolLine} {results : List Accepted} {binding : List PoolLine}

/-- Writes keep every pool that passes its check. -/
def Journal.Upholds (P : StockPlatform) (db db' : Journal) : Prop :=
  ∀ account line, db.Serves P account line → db'.Serves P account line

variable {reply : OrderReply} {a : AcceptanceInput} {e : Entry} {pool : Pool}

lemma serves_put {new : Pool} {entries : Table Entry Entry.id} (hp : pool ∈ db.pools.rows)
    (hid : new.id = pool.id) (ho : new.organizerPubkey = pool.organizerPubkey)
    (hwr : new.writerId = pool.writerId) (hn : ∃ grant, assertPool P new = .ok grant) :
    db.Upholds P { db with entries := entries, pools := db.pools.put new } := by
  rintro account line ⟨row, grant, hg, haccount, hl, ha⟩
  by_cases hk : poolKey account line.poolId = new.id
  · obtain rfl : row = pool := Option.some.inj
      (hg.symm.trans (hk.trans hid ▸ get_of_mem hp))
    obtain ⟨grant', ha'⟩ := hn
    exact ⟨new, grant', hk ▸ get_put_self _ _, ho.trans haccount, hwr.trans hl, ha'⟩
  · exact ⟨row, grant, (get_put_of_ne hk).trans hg, haccount, hl, ha⟩

section

variable (hhex : ∀ message, IsHex64 (P.eventHash message))
include hhex

lemma AcceptanceInput.Fresh.asserts {grant : StockGrant} {rumor : Rumor}
    (h : a.Fresh P db pool grant rumor) (ha : assertPool P pool = .ok grant) :
    assertPool P (pool.accepts a.quantity rumor) = .ok grant := by
  obtain ⟨hgr, hc, haccount, ⟨⟨hq, hq'⟩, ⟨hs, hs'⟩, ⟨hi, hi'⟩, ⟨hn, hn'⟩, hle, hle', hin, hiq,
    -, -, hno, -, himp⟩, hcls⟩ := assertPool_ok.1 ha
  obtain ⟨-, -, -, -, rfl⟩ := createStockAuthorityRumor_ok.1 h.created
  have hqty := h.quantity
  have hleft := h.left
  have hsame := hc.2.2.2.2.2.2.2
  refine assertPool_ok.2 ⟨hgr, hc, haccount, ?_, fun hst => ?_⟩
  · simp only [Pool.CountersInOrder, WithinQuantity, Pool.accepts]
    refine ⟨by omega, by omega, by omega, by omega, by omega, hle', by omega, by omega, ?_, ?_, hno,
      hhex _, himp⟩ <;> intro heq <;> omega
  · exact absurd (h.active.symm.trans hst.1) (by decide)

lemma commitOrganizerStockAcceptance_upholds {accepted : Accepted}
    (h : commitOrganizerStockAcceptance P db a = .ok (db', accepted)) : db.Upholds P db' := by
  obtain ⟨-, pool, grant, hs, ⟨-, -, -, -, rfl, -⟩ | ⟨rumor, hf, rfl, -⟩⟩ :=
    commitOrganizerStockAcceptance_cases h
  · exact fun _ _ hser => hser
  · exact serves_put (mem_of_get hs.get) rfl rfl rfl
      ⟨grant, hf.asserts hhex hs.asserts⟩

lemma acceptLines_upholds (h : acceptLines P input db lines = .ok (db', results)) :
    db.Upholds P db' := by
  induction lines generalizing db results with
  | nil =>
    cases h
    exact fun _ _ hs => hs
  | cons line lines ih =>
    simp only [acceptLines, run_ok] at h
    obtain ⟨⟨db₁, accepted⟩, hf, ⟨db₂, rest⟩, hr, h⟩ := h
    cases h
    exact fun account line hs => ih hr account line
      (commitOrganizerStockAcceptance_upholds hhex hf account line hs)

end

lemma acceptLines_entries (h : acceptLines P input db lines = .ok (db', results)) :
    (∀ e, ¬ input.Owns e → (e ∈ db'.entries.rows ↔ e ∈ db.entries.rows)) ∧
      Forall₂ (fun line r => r.entry ∈ db'.entries.rows ∧ input.Owns r.entry ∧
        r.entry.poolId = line.poolId) lines results := by
  induction lines generalizing db results with
  | nil =>
    cases h
    exact ⟨fun _ _ => Iff.rfl, .nil⟩
  | cons line lines ih =>
    simp only [acceptLines, run_ok] at h
    obtain ⟨⟨db₁, accepted⟩, hf, ⟨db₂, rest⟩, hre, h⟩ := h
    cases h
    obtain ⟨heq, hls⟩ := ih hre
    have hk := (acceptLines_moves hre).2.2
    obtain ⟨-, pool, grant, hs, ⟨prior, hp, ho, -, rfl, rfl⟩ | ⟨rumor, hfrs, rfl, rfl⟩⟩ :=
      commitOrganizerStockAcceptance_cases hf
    · exact ⟨heq, .cons ⟨hk _ hp, ⟨ho.1, ho.2.2⟩, ho.2.1⟩ hls⟩
    · refine ⟨fun e he => (heq e he).trans ?_,
        .cons ⟨hk _ (mem_put.2 (.inl rfl)), ⟨rfl, rfl⟩, hs.poolId⟩ hls⟩
      rw [mem_put]
      constructor
      · rintro (rfl | ⟨hr, -⟩)
        · exact absurd ⟨rfl, rfl⟩ he
        · exact hr
      · exact fun hr => .inr ⟨hr, get_eq_none.1 hfrs.key e hr⟩

lemma acceptLines_replays
    (hp : ∀ line ∈ lines, ∃ e ∈ db.entries.rows, input.Owns e ∧ e.poolId = line.poolId)
    (h : acceptLines P input db lines = .ok (db', results)) :
    db' = db ∧ Forall₂ (fun line r => r.replayed = true ∧
      replayAcceptance P r.entry (input.line line) = .ok () ∧
      db.Serves P input.authenticatedPubkey line) lines results := by
  induction lines generalizing results with
  | nil =>
    cases h
    exact ⟨rfl, .nil⟩
  | cons line lines ih =>
    rw [forall_mem_cons] at hp
    simp only [acceptLines, run_ok] at h
    obtain ⟨⟨db₁, accepted⟩, hf, ⟨db₂, rest⟩, hr, h⟩ := h
    cases h
    obtain ⟨-, pool, grant, hs, ⟨prior, -, -, hrep, rfl, rfl⟩ | ⟨rumor, hfrs, -, -⟩⟩ :=
      commitOrganizerStockAcceptance_cases hf
    · obtain ⟨rfl, ha⟩ := ih hp.2 hr
      exact ⟨rfl, .cons ⟨rfl, hrep, pool, grant, hs.get, hs.organizer, hs.writer, hs.asserts⟩ ha⟩
    · obtain ⟨e, he, ho, hpo⟩ := hp.1
      refine absurd ho.2 (hfrs.new e (mem_entriesOf.2 ⟨he, ?_, ?_⟩))
      · exact ho.1.trans hs.account.symm
      · exact hpo.trans hs.poolId.symm

lemma poolKey_ne {a : Text} {p q : Text} (h : p ≠ q) : poolKey a p ≠ poolKey a q :=
  fun heq => h (append_cancel_left heq)

lemma acceptLines_commits (hhex : ∀ message, IsHex64 (P.eventHash message))
    (hnd : (lines.map (·.poolId)).Nodup)
    (hn : ∀ e ∈ db.entries.rows, input.Owns e → ∀ line ∈ lines, e.poolId ≠ line.poolId)
    (h : acceptLines P input db lines = .ok (db', results)) :
    db'.entries.rows = db.entries.rows ++ results.map (·.entry) ∧
      db'.writers = db.writers ∧
      (∀ key, (∀ line ∈ lines, key ≠ poolKey input.authenticatedPubkey line.poolId) →
        db'.pools.get key = db.pools.get key) ∧
      Forall₂ (fun line r => input.Debits db db' line r.entry ∧ r.replayed = false ∧
        input.Records P input.nowMs line r.entry ∧ db.Serves P input.authenticatedPubkey line)
        lines results := by
  induction lines generalizing db results with
  | nil =>
    cases h
    exact ⟨(append_nil _).symm, rfl, fun _ _ => rfl, .nil⟩
  | cons line lines ih =>
    rw [map_cons, nodup_cons] at hnd
    simp only [acceptLines, run_ok] at h
    obtain ⟨⟨db₁, accepted⟩, hfst, ⟨db₂, rest⟩, hre, h⟩ := h
    cases h
    obtain ⟨-, pool, grant, hs, ⟨prior, hp, ho, -, -, -⟩ | ⟨rumor, hf, rfl, rfl⟩⟩ :=
      commitOrganizerStockAcceptance_cases hfst
    · exact absurd ho.2.1 (hn prior hp ⟨ho.1, ho.2.2⟩ line mem_cons_self)
    have hoth : ∀ other ∈ lines, other.poolId ≠ line.poolId := fun other hm heq =>
      hnd.1 (heq ▸ mem_map_of_mem hm)
    have hkey : pool.id = poolKey input.authenticatedPubkey line.poolId :=
      key_of_get hs.get
    obtain ⟨hro, hwrs, hps, hall⟩ := ih hnd.2 (by
      intro e he ho other hm
      rcases mem_put.1 he with rfl | ⟨he, -⟩
      · exact fun heq => hoth other hm (heq.symm.trans hs.poolId)
      · exact hn e he ho other (mem_cons_of_mem line hm)) hre
    have hown := (hps _ fun other hm => poolKey_ne (hoth other hm).symm).trans
      (hkey ▸ get_put_self db.pools (pool.accepts line.quantity rumor))
    refine ⟨?_, hwrs, fun key hk => ?_, .cons ⟨⟨pool, hs.get, hf.left, hown⟩, rfl,
      ⟨⟨rfl, rfl⟩, hs.poolId, rfl, rfl, _, createStockAuthorityRumor_parses hhex hf.created,
        rfl, rfl, rfl, rfl, rfl⟩, pool, grant, hs.get, hs.organizer, hs.writer,
        hs.asserts⟩ ?_⟩
    · rw [hro, put_of_get_none hf.key, append_assoc]
      rfl
    · rw [forall_mem_cons] at hk
      rw [hps key hk.2]
      exact get_put_of_ne (hkey ▸ hk.1)
    · refine ((forall₂_and_left ..).2 ⟨hoth, hall⟩).imp ?_
      rintro other r ⟨hne, ⟨row, hr, hl, hr'⟩, hrep, hrecs, later, grant', hget, hser⟩
      have hsa : ∀ {q}, (db.pools.put (pool.accepts line.quantity rumor)).get
          (poolKey input.authenticatedPubkey other.poolId) = some q →
          db.pools.get (poolKey input.authenticatedPubkey other.poolId) = some q := fun hq =>
        (get_put_of_ne (a := pool.accepts line.quantity rumor)
          (fun heq => poolKey_ne hne (heq.trans hkey))).symm.trans hq
      exact ⟨⟨row, hsa hr, hl, hr'⟩, hrep, hrecs, later, grant', hsa hget, hser⟩

lemma foldl_bindEntry_self (h : ∀ r ∈ results, r.entry.orderPoolBinding ≠ none) :
    results.foldl (bindEntry binding) db = db := by
  induction results with
  | nil => rfl
  | cons r results ih =>
    rw [forall_mem_cons] at h
    rw [foldl_cons, bindEntry, if_neg h.1]
    exact ih h.2

lemma mem_bindEntry (binding : List PoolLine) {r : Accepted} (hr : r.entry ∈ db.entries.rows) :
    (bindEntry binding db r).pools = db.pools ∧ (bindEntry binding db r).writers = db.writers ∧
      ∀ e, e ∈ (bindEntry binding db r).entries.rows ↔
        e = r.entry.bound binding ∨ e ∈ db.entries.rows ∧ e ≠ r.entry := by
  unfold bindEntry bound
  split_ifs with hnone
  · refine ⟨rfl, rfl, fun e => mem_put.trans (or_congr_right (and_congr_right fun he => ?_))⟩
    exact not_congr ⟨fun hid => Keyed.eq_of_key_eq db.entries.nodup he hr hid, fun heq => heq ▸ rfl⟩
  · refine ⟨rfl, rfl, fun e => ⟨fun he => ?_, ?_⟩⟩
    · exact (em (e = r.entry)).imp_right fun hne => ⟨he, hne⟩
    · rintro (rfl | ⟨he, -⟩)
      · exact hr
      · exact he

lemma Entry.bound_id (e : Entry) : (e.bound binding).id = e.id := by
  unfold bound
  split_ifs <;> rfl

lemma mem_foldl_bindEntry (binding : List PoolLine) (hr : ∀ r ∈ results, r.entry ∈ db.entries.rows)
    (ha : results.Pairwise fun r s => r.entry.id ≠ s.entry.id) :
    (results.foldl (bindEntry binding) db).pools = db.pools ∧
      (results.foldl (bindEntry binding) db).writers = db.writers ∧
      ∀ e, e ∈ (results.foldl (bindEntry binding) db).entries.rows ↔
        e ∈ db.entries.rows ∧ (∀ r ∈ results, e ≠ r.entry) ∨
          ∃ r ∈ results, e = r.entry.bound binding := by
  induction results generalizing db with
  | nil => simp
  | cons r results ih =>
    rw [forall_mem_cons] at hr
    rw [pairwise_cons] at ha
    obtain ⟨hps, hw, hm⟩ := mem_bindEntry binding hr.1
    obtain ⟨hps', hw', hm'⟩ := ih (fun s hs => (hm s.entry).2
      (.inr ⟨hr.2 s hs, fun heq => ha.1 s hs (heq ▸ rfl)⟩)) ha.2
    refine ⟨hps'.trans hps, hw'.trans hw, fun e => (hm' e).trans ?_⟩
    simp only [hm, forall_mem_cons, exists_mem_cons_iff]
    constructor
    · rintro (⟨rfl | ⟨he, hne⟩, hre⟩ | h)
      · exact .inr (.inl rfl)
      · exact .inl ⟨he, hne, hre⟩
      · exact .inr (.inr h)
    · rintro (⟨he, hne, hre⟩ | rfl | h)
      · exact .inl ⟨.inr ⟨he, hne⟩, hre⟩
      · refine .inl ⟨.inl rfl, fun s hs heq => ha.1 s hs ?_⟩
        rw [← heq, bound_id]
      · exact .inr h

lemma checkPriorEntries_ok {prior : List Entry} : checkPriorEntries P input prior = .ok () ↔
      (∀ e ∈ prior, (∃ line ∈ input.entries, line.poolId = e.poolId) ∧
        (e.orderPoolBinding = none ∨ e.orderPoolBinding = some input.orderPoolBinding)) ∧
      (prior = [] ∨ prior.length = input.entries.length) ∧
      ∃ nowMs, ∀ e ∈ prior, ∃ a, parseStockAuthorityRumor P e.rumor = .ok (.accepted a) ∧
        a.acceptedAtMs = nowMs := by
  simp only [checkPriorEntries, bind_ok, reject_ok, exists_const]
  refine and_congr ?_ (and_congr ?_ ⟨?_, ?_⟩)
  · refine not_exists.trans (forall_congr' fun e => not_and.trans (imp_congr_right fun _ => ?_))
    rw [not_or, not_not, not_and_or, not_not, not_not]
  · rw [not_and_or, not_not, not_not]
  · rintro ⟨accepted, hm, ht⟩
    have hp : ∀ e ∈ prior, ∃ a ∈ accepted,
        parseStockAuthorityRumor P e.rumor = .ok (.accepted a) := fun e he =>
      (mapResult_accepts hm he).imp fun a ha => ⟨ha.1, parseAcceptance_ok.1 ha.2⟩
    rcases accepted with _ | ⟨a₀, accepted⟩
    · exact ⟨0, fun e he => absurd (hp e he).choose_spec.1 not_mem_nil⟩
    · refine ⟨a₀.acceptedAtMs, fun e he => ?_⟩
      obtain ⟨a, ha, hea⟩ := hp e he
      exact ⟨a, hea, by_contra fun hne => ht ⟨a, ha, a₀, mem_cons_self, hne⟩⟩
  · rintro ⟨nowMs, hp⟩
    rcases prior with _ | ⟨e₀, prior⟩
    · exact ⟨[], rfl, by simp⟩
    · have : Nonempty StockAcceptance := ⟨(hp e₀ mem_cons_self).choose⟩
      choose! accepted hac using hp
      refine ⟨_, mapResult_of_ok fun e he => parseAcceptance_ok.2 (hac e he).1, ?_⟩
      rintro ⟨a, ha, b, hb, hne⟩
      obtain ⟨e, he, rfl⟩ := mem_map.1 ha
      obtain ⟨f, hf, rfl⟩ := mem_map.1 hb
      exact hne ((hac e he).2.trans (hac f hf).2.symm)

def Journal.prior (db : Journal) (input : OrderAcceptanceInput) : List Entry :=
  db.entries.rows.filter fun e =>
    e.accountPubkey = input.authenticatedPubkey ∧ e.orderId = input.orderId

lemma mem_prior : e ∈ db.prior input ↔ e ∈ db.entries.rows ∧ input.Owns e := by
  simp [Journal.prior, Owns]

lemma OrderAcceptanceInput.nodup_of_valid (h : ¬ input.Malformed) :
    (input.entries.map (·.poolId)).Nodup :=
  not_not.1 (not_or.1 (not_or.1 h).2).2

lemma commitOrganizerStockOrder_ok : commitOrganizerStockOrder P db input = .ok db' ↔
    IsTime input.nowMs ∧ input.shouldContinue = true ∧ ¬ input.Malformed ∧
      checkPriorEntries P input (db.prior input) = .ok () ∧
      ∃ db₁ results, acceptLines P input db input.entries = .ok (db₁, results) ∧
        results.foldl (bindEntry input.orderPoolBinding) db₁ = db' := by
  simp only [commitOrganizerStockOrder, requireJournalTime, bind_ok, reject_ok, pure_ok,
    not_not, Bool.not_eq_false, Prod.exists, Journal.prior, Unique.exists_iff,
    Malformed]

lemma replyOrganizerStockOrder_ok : replyOrganizerStockOrder P db input = .ok (db', reply) ↔
      commitOrganizerStockOrder P db input = .ok db' ∧
      ∃ db₁ results, acceptLines P input db input.entries = .ok (db₁, results) ∧
        reply = {
          replayed := results.all (·.replayed)
          entries := results.map fun r => r.entry.bound input.orderPoolBinding } := by
  simp only [replyOrganizerStockOrder, run_ok, Prod.exists, Prod.mk.injEq]
  constructor
  · rintro ⟨_, hc, db₁, results, ha, rfl, rfl⟩
    exact ⟨hc, db₁, results, ha, rfl⟩
  · rintro ⟨hc, db₁, results, ha, rfl⟩
    exact ⟨db', hc, db₁, results, ha, rfl, rfl⟩

lemma acceptLines_evidence (h : acceptLines P input db lines = .ok (db', results))
    (hne : lines ≠ []) : ¬ (input.evidence = [] ∨ utf8ByteLength input.evidence > 65536) := by
  cases lines with
  | nil => exact absurd rfl hne
  | cons line lines =>
    obtain ⟨⟨db₁, accepted⟩, hf, -⟩ := bind_ok.1 h
    exact (commitOrganizerStockAcceptance_cases hf).1

lemma results_apart (hnd : (lines.map (·.poolId)).Nodup)
    (hls : Forall₂ (fun line r => r.entry ∈ db.entries.rows ∧ input.Owns r.entry ∧
      r.entry.poolId = line.poolId) lines results) :
    results.Pairwise fun r s => r.entry.id ≠ s.entry.id := by
  have hps : lines.map (·.poolId) = results.map fun r => r.entry.poolId := by
    rw [← forall₂_eq_eq_eq, forall₂_map_left_iff, forall₂_map_right_iff]
    exact hls.imp fun line r h => h.2.2.symm
  rw [hps, Nodup, pairwise_map] at hnd
  refine hnd.imp_of_mem fun hr hs hne hid => hne ?_
  obtain ⟨-, -, hr, -⟩ := forall₂_left hls.flip hr
  obtain ⟨-, -, hs, -⟩ := forall₂_left hls.flip hs
  rw [Keyed.eq_of_key_eq db.entries.nodup hr hs hid]

lemma Entry.bound_eq (h : e.orderPoolBinding = none ∨ e.orderPoolBinding = some binding) :
    e.bound binding = { e with orderPoolBinding := some binding } := by
  unfold bound
  split_ifs with hn
  · rfl
  · rw [← h.resolve_left hn]

lemma replyOrganizerStockOrder_commits (hhex : ∀ message, IsHex64 (P.eventHash message))
    (hn : ∀ e ∈ db.entries.rows, ¬ input.Owns e)
    (h : replyOrganizerStockOrder P db input = .ok (db', reply)) :
    input.Commits P db db' reply ∧ input.Decided P input.nowMs db' reply.entries := by
  obtain ⟨hc, db₁, results, ha, rfl⟩ := replyOrganizerStockOrder_ok.1 h
  obtain ⟨-, -, hv, -, _, _, ha', rfl⟩ := commitOrganizerStockOrder_ok.1 hc
  cases ha.symm.trans ha'
  have hne := (not_or.1 hv).1
  obtain ⟨hro, hw, hps, hall⟩ := acceptLines_commits hhex
    (nodup_of_valid hv) (fun e he ho => absurd ho (hn e he)) ha
  have hre : ∀ r ∈ results, ∃ line, input.Records P input.nowMs line r.entry := fun r hr => by
    obtain ⟨line, -, -, -, hre, -⟩ := forall₂_left hall.flip hr
    exact ⟨line, hre⟩
  have hent : results.map (fun r => r.entry.bound input.orderPoolBinding) =
      results.map fun r => r.entry := map_congr_left fun r hr => by
    obtain ⟨line, -, -, -, hb, -⟩ := hre r hr
    rw [bound, if_neg (by simp [hb])]
  have hs : results.foldl (bindEntry input.orderPoolBinding) db₁ = db₁ :=
    foldl_bindEntry_self fun r hr => by
      obtain ⟨line, -, -, -, hb, -⟩ := hre r hr
      simp [hb]
  rw [hs, hent]
  refine ⟨⟨⟨?_, hn⟩, hro, ?_, hps, hw⟩, ⟨hv, acceptLines_evidence ha hne⟩,
    ?_, fun e => ?_, fun line hl => ?_⟩
  · obtain ⟨line, hl⟩ := exists_mem_of_ne_nil _ hne
    obtain ⟨r, hr, -, hrep, -⟩ := forall₂_left hall hl
    exact all_eq_false.2 ⟨r, hr, by simp [hrep]⟩
  · exact forall₂_map_right_iff.2 (hall.imp fun _ _ h => h.1)
  · exact forall₂_map_right_iff.2 (hall.imp fun _ _ h => h.2.2.1)
  · rw [hro, mem_append]
    constructor
    · intro he
      obtain ⟨r, hr, rfl⟩ := mem_map.1 he
      exact ⟨.inr he, (hre r hr).choose_spec.1⟩
    · exact fun he => he.1.resolve_left fun hrow => hn e hrow he.2
  · obtain ⟨r, -, -, -, -, hser⟩ := forall₂_left hall hl
    exact acceptLines_upholds hhex ha _ _ hser

lemma lines_have_entries (hdb : db.Indexed)
    (hc : checkPriorEntries P input (db.prior input) = .ok ())
    (hpr : ∃ e ∈ db.entries.rows, input.Owns e) :
    ∀ line ∈ input.entries, ∃ e ∈ db.entries.rows, input.Owns e ∧ e.poolId = line.poolId := by
  obtain ⟨hm, hle, -⟩ := checkPriorEntries_ok.1 hc
  have hi : ((db.prior input).map poolId).Nodup := by
    refine Nodup.map_on (fun e he f hf hp => ?_) (db.entries.nodup.of_map.filter _)
    obtain ⟨he, ho⟩ := mem_prior.1 he
    obtain ⟨hf, ho'⟩ := mem_prior.1 hf
    exact hdb e he f hf ⟨ho.1.trans ho'.1.symm, hp, .inr (.inl (ho.2.trans ho'.2.symm))⟩
  have hs : (db.prior input).map poolId ⊆ input.entries.map fun line => line.poolId := by
    intro pool hp
    obtain ⟨e, he, rfl⟩ := mem_map.1 hp
    obtain ⟨line, hl, heq⟩ := (hm e he).1
    exact heq ▸ mem_map_of_mem hl
  obtain ⟨e, he, ho⟩ := hpr
  have hlen := hle.resolve_left (ne_nil_of_mem (mem_prior.2 ⟨he, ho⟩))
  have hpm := (subperm_of_subset hi hs).perm_of_length_le (by simp [hlen])
  intro line hl
  obtain ⟨f, hf, hp⟩ := mem_map.1 (hpm.mem_iff.2 (mem_map_of_mem hl))
  exact ⟨f, (mem_prior.1 hf).1, (mem_prior.1 hf).2, hp⟩

lemma replyOrganizerStockOrder_replays (hdb : db.Indexed) (hp : ∃ e ∈ db.entries.rows, input.Owns e)
    (h : replyOrganizerStockOrder P db input = .ok (db', reply)) :
    input.Replays db db' reply ∧ ∃ nowMs, input.Decided P nowMs db' reply.entries := by
  obtain ⟨hcmt, db₁, results, ha, rfl⟩ := replyOrganizerStockOrder_ok.1 h
  obtain ⟨-, -, hv, hchk, _, _, ha', rfl⟩ := commitOrganizerStockOrder_ok.1 hcmt
  cases ha.symm.trans ha'
  have hne := (not_or.1 hv).1
  have hnd := nodup_of_valid hv
  obtain ⟨hm, -, nowMs, ht⟩ := checkPriorEntries_ok.1 hchk
  have hall := lines_have_entries hdb hchk hp
  obtain ⟨rfl, hrep⟩ := acceptLines_replays hall ha
  have hro := (acceptLines_entries ha).2
  have hrow : ∀ r ∈ results, r.entry ∈ db₁.entries.rows ∧ input.Owns r.entry := fun r hr => by
    obtain ⟨line, -, hrow, ho, -⟩ := forall₂_left hro.flip hr
    exact ⟨hrow, ho⟩
  obtain ⟨hps, hwrs, hmem⟩ := mem_foldl_bindEntry input.orderPoolBinding
    (fun r hr => (hrow r hr).1) (results_apart hnd hro)
  have howned : ∀ e ∈ db₁.entries.rows, input.Owns e → ∃ r ∈ results, e = r.entry := by
    intro e he ho
    obtain ⟨line, hl, hpo⟩ := (hm e (mem_prior.2 ⟨he, ho⟩)).1
    obtain ⟨r, hr, hrow, hrowns, hrpool⟩ := forall₂_left hro hl
    exact ⟨r, hr, hdb e he _ hrow ⟨ho.1.trans hrowns.1.symm, hpo.symm.trans hrpool.symm,
      .inr (.inl (ho.2.trans hrowns.2.symm))⟩⟩
  have hbd : ∀ r ∈ results, r.entry.bound input.orderPoolBinding =
      { r.entry with orderPoolBinding := some input.orderPoolBinding } := fun r hr =>
    bound_eq (hm r.entry (mem_prior.2 (hrow r hr))).2
  refine ⟨⟨?_, fun e => ?_, hps, hwrs⟩, nowMs, ⟨hv, acceptLines_evidence ha hne⟩, ?_,
    fun e => ?_, fun line hl => ?_⟩
  · refine all_eq_true.2 fun r hr => ?_
    obtain ⟨-, -, hreplayed, -⟩ := forall₂_left hrep.flip hr
    exact hreplayed
  · rw [hmem]
    refine or_congr (and_congr_right fun he => ⟨fun hne ho => ?_, fun hn r hr heq => ?_⟩)
      ⟨?_, ?_⟩
    · obtain ⟨r, hr, heq⟩ := howned e he ho
      exact hne r hr heq
    · exact hn (heq ▸ (hrow r hr).2)
    · rintro ⟨r, hr, rfl⟩
      exact ⟨r.entry, (hrow r hr).1, (hrow r hr).2, rfl⟩
    · rintro ⟨f, hf, ho, rfl⟩
      obtain ⟨r, hr, rfl⟩ := howned f hf ho
      exact ⟨r, hr, rfl⟩
  · refine forall₂_map_right_iff.2 (Forall₂.mp (fun line r hl hent => ?_) hrep
      hro)
    obtain ⟨hrow, ho, hpo⟩ := hent
    have hp := mem_prior.2 ⟨hrow, ho⟩
    have hre := hl.2.1
    simp only [replayAcceptance, bind_ok, reject_ok, parseAcceptance_ok, not_or, not_not] at hre
    obtain ⟨a, hprs, hi, hterms, hclm, hqty, -, hevid⟩ := hre
    obtain ⟨a', hprs', htime⟩ := ht r.entry hp
    cases hprs.symm.trans hprs'
    rw [bound_eq (hm r.entry hp).2]
    exact ⟨ho, hpo, hevid, rfl, a, hprs, hi, hterms, hclm, hqty, htime⟩
  · rw [hmem]
    constructor
    · intro he
      obtain ⟨r, hr, rfl⟩ := mem_map.1 he
      refine ⟨.inr ⟨r, hr, rfl⟩, ?_⟩
      rw [hbd r hr]
      exact (hrow r hr).2
    · rintro ⟨⟨he, hn⟩ | ⟨r, hr, rfl⟩, ho⟩
      · obtain ⟨r, hr, heq⟩ := howned e he ho
        exact absurd heq (hn r hr)
      · exact mem_map.2 ⟨r, hr, rfl⟩
  · obtain ⟨r, -, -, -, hser⟩ := forall₂_left hrep hl
    unfold Journal.Serves
    rw [hps]
    exact hser

section
variable {later : OrderAcceptanceInput} {nowMs : Int} {entries : List Entry}

section

variable (h : input.Decided P nowMs db entries)
include h

lemma OrderAcceptanceInput.Decided.nodup : (entries.map poolId).Nodup := by
  have hps : input.entries.map (·.poolId) = entries.map poolId := by
    rw [← forall₂_eq_eq_eq, forall₂_map_left_iff, forall₂_map_right_iff]
    exact h.records.imp fun line e h => h.2.1.symm
  exact hps ▸ nodup_of_valid h.valid.1

lemma OrderAcceptanceInput.Decided.accepts (hc : input.Current P db) {e : Entry}
    (hl : line ∈ input.entries) (he : e ∈ entries) (hr : input.Records P nowMs line e) :
    commitOrganizerStockAcceptance P db (input.line line) =
      .ok (db, { replayed := true, entry := e }) := by
  obtain ⟨pool, grant, hg, horg, hwr, ha⟩ := h.serves line hl
  have hwrs := hc.2.2 line hl pool grant hg (assertPool_ok.1 ha).1
  obtain ⟨ho, hp, hev, hbin, a, hprs, hi, ht, hclm, hqty, -⟩ :=
    hr
  have hrep : replayAcceptance P e (input.line line) = .ok () := by
    simp only [replayAcceptance, bind_ok, reject_ok, parseAcceptance_ok, not_or, not_not]
    exact ⟨a, hprs, hi, ht, hclm, hqty, fun hne => hne.2 hbin, hev⟩
  simp only [commitOrganizerStockAcceptance, requireJournalTime, bind_ok, reject_ok,
    Unique.exists_iff]
  refine ⟨not_not.2 hc.1, by simp [OrderAcceptanceInput.line, hc.2.1], h.valid.2, ?_⟩
  simp only [OrderAcceptanceInput.line] at hrep ⊢
  simp only [hg, bind_ok, Unique.exists_iff]
  refine ⟨by simp [horg, hwr], grant, ha, hwrs, ?_⟩
  split
  · next f hf =>
    have hfo := find?_some hf
    obtain ⟨haccount, hp', hord⟩ := of_decide_eq_true hfo
    obtain rfl := inj_on_of_nodup_map h.nodup
      ((h.complete f).2 ⟨mem_of_find?_eq_some hf, haccount, hord⟩) he
      (hp'.trans hp.symm)
    rw [hrep]
    rfl
  · next hf =>
    refine absurd (find?_eq_none.1 hf e ((h.complete e).1 he).1) (not_not.2 ?_)
    exact decide_eq_true ⟨ho.1, hp, ho.2⟩

lemma OrderAcceptanceInput.Decided.replays (hc : input.Current P db) :
    replyOrganizerStockOrder P db input = .ok (db, { replayed := true, entries }) := by
  have hli : ∀ {ls es}, Forall₂ (input.Records P nowMs) ls es →
      (∀ line ∈ ls, line ∈ input.entries) → (∀ e ∈ es, e ∈ entries) →
      acceptLines P input db ls = .ok (db, es.map fun e => { replayed := true, entry := e }) := by
    intro ls es hall
    induction hall with
    | nil => exact fun _ _ => rfl
    | cons hre _ ih =>
      intro hls hes
      rw [forall_mem_cons] at hls hes
      simp only [acceptLines, h.accepts hc hls.1 hes.1 hre, ih hls.2 hes.2, ok_bind]
      rfl
  have ha := hli h.records (fun _ hl => hl) fun _ he => he
  have hbd : ∀ e ∈ entries, e.orderPoolBinding = some input.orderPoolBinding := fun e he => by
    obtain ⟨line, -, -, -, -, hb, -⟩ := forall₂_left h.records.flip he
    exact hb
  have hchk : checkPriorEntries P input (db.prior input) = .ok () := by
    refine checkPriorEntries_ok.2 ⟨fun e he => ?_, .inr ?_, nowMs, fun e he => ?_⟩
    · have he := (h.complete e).2 (mem_prior.1 he)
      obtain ⟨line, hline, -, hp, -⟩ := forall₂_left h.records.flip he
      exact ⟨⟨line, hline, hp.symm⟩, .inr (hbd e he)⟩
    · rw [h.records.length_eq]
      exact ((perm_ext_iff_of_nodup (db.entries.nodup.of_map.filter _) h.nodup.of_map).2
        fun e => mem_prior.trans (h.complete e).symm).length_eq
    · obtain ⟨line, -, -, -, -, -, a, hprs, -, -, -, -, ht⟩ :=
        forall₂_left h.records.flip ((h.complete e).2 (mem_prior.1 he))
      exact ⟨a, hprs, ht⟩
  refine replyOrganizerStockOrder_ok.2 ⟨commitOrganizerStockOrder_ok.2 ⟨hc.1,
    hc.2.1, h.valid.1, hchk, _, _, ha, foldl_bindEntry_self ?_⟩, _, _, ha, ?_⟩
  · intro r hr
    obtain ⟨e, he, rfl⟩ := mem_map.1 hr
    simp [hbd e he]
  · simp only [OrderReply.mk.injEq]
    refine ⟨by simp, ?_⟩
    rw [map_map]
    refine (map_id _).symm.trans (map_congr_left fun e he => ?_)
    exact (if_neg (by simp [hbd e he])).symm

end

lemma orderPoolBinding_eq_iff (hnd : (input.entries.map (·.poolId)).Nodup) :
    later.orderPoolBinding = input.orderPoolBinding ↔ later.entries.Perm input.entries := by
  have hs : ∀ o : OrderAcceptanceInput,
      o.orderPoolBinding.Pairwise fun a b => TextLe a.poolId b.poolId := fun o =>
    (pairwise_mergeSort (fun a b c hab hbc => by
      simp only [decide_eq_true_eq] at *
      exact IsTrans.trans (r := TextLe) _ _ _ hab hbc)
      (fun a b => by simpa using Std.Total.total (r := TextLe) a.poolId b.poolId)
      o.entries).imp of_decide_eq_true
  have hpm : ∀ o : OrderAcceptanceInput, o.orderPoolBinding.Perm o.entries := fun o =>
    mergeSort_perm _ _
  constructor
  · intro heq
    exact (hpm later).symm.trans (heq ▸ hpm input)
  · intro h
    have hsa := (hpm later).trans (h.trans (hpm input).symm)
    refine hsa.eq_of_pairwise (fun a b ha hb hab hba => ?_) (hs later) (hs input)
    exact inj_on_of_nodup_map hnd ((hpm input).mem_iff.1 (hsa.mem_iff.1 ha))
      ((hpm input).mem_iff.1 hb) (textLe_antisymm hab hba)

section

variable (h : input.Decided P nowMs db entries)
include h

section

variable (haccount : later.authenticatedPubkey = input.authenticatedPubkey)
include haccount

lemma OrderAcceptanceInput.Decided.permute (ho : later.orderId = input.orderId)
    (hr : later.Repeats input) :
    ∃ entries', entries'.Perm entries ∧ later.Decided P nowMs db entries' := by
  obtain ⟨hpm, hi, ht, hc, he⟩ := hr
  have hb := (orderPoolBinding_eq_iff (nodup_of_valid h.valid.1)).2 hpm
  have hv : later.Valid ↔ input.Valid := by
    simp only [Valid, Malformed, he, hpm.mem_iff,
      (hpm.map (·.poolId)).nodup_iff, ← length_eq_zero_iff, hpm.length_eq]
  obtain ⟨entries', hrecs, hent⟩ := perm_comp_forall₂ hpm h.records
  refine ⟨entries', hent, hv.2 h.valid, ?_, fun e => ?_, fun line hl => ?_⟩
  · unfold Records Owns at *
    rwa [haccount, ho, hi, ht, hc, he, hb]
  · rw [hent.mem_iff, h.complete e]
    unfold Owns
    rw [haccount, ho]
  · exact haccount ▸ h.serves line (hpm.mem_iff.1 hl)

lemma OrderAcceptanceInput.Decided.repeats (hord : later.orderId = input.orderId)
    (hok : commitOrganizerStockOrder P db later = .ok db') : later.Repeats input ∧ db' = db := by
  obtain ⟨-, -, hval, hchk, db₁, results, ha, rfl⟩ := commitOrganizerStockOrder_ok.1 hok
  have hm := (checkPriorEntries_ok.1 hchk).1
  have ho : ∀ e, later.Owns e ↔ input.Owns e := fun e => by
    unfold Owns
    rw [haccount, hord]
  have hp : ∀ e ∈ entries, e ∈ db.prior later := fun e he =>
    mem_prior.2 (((h.complete e).1 he).imp_right (ho e).2)
  obtain ⟨line₀, hl₀⟩ := exists_mem_of_ne_nil _ (not_or.1 h.valid.1).1
  obtain ⟨e₀, he₀, hrecs₀⟩ := forall₂_left h.records hl₀
  have hbin : later.orderPoolBinding = input.orderPoolBinding := by
    have hbd := (hm e₀ (hp e₀ he₀)).2
    rw [hrecs₀.2.2.2.1] at hbd
    exact (Option.some.inj (hbd.resolve_left (by simp))).symm
  have hpm := (orderPoolBinding_eq_iff (nodup_of_valid h.valid.1)).1 hbin
  obtain ⟨rfl, hrep⟩ := acceptLines_replays (fun line hl => by
    obtain ⟨e, he, ho', hpo, -⟩ := forall₂_left h.records (hpm.mem_iff.1 hl)
    exact ⟨e, ((h.complete e).1 he).1, (ho e).2 ho', hpo⟩) ha
  have hro := (acceptLines_entries ha).2
  have hrecd : ∀ r ∈ results, ∃ line, input.Records P nowMs line r.entry := fun r hr => by
    obtain ⟨-, -, hrow, hr, -⟩ := forall₂_left hro.flip hr
    obtain ⟨line, -, hrecs⟩ := forall₂_left h.records.flip
      ((h.complete _).2 ⟨hrow, (ho _).1 hr⟩)
    exact ⟨line, hrecs⟩
  obtain ⟨r, hr, -, hre, -⟩ := forall₂_left hrep (hpm.mem_iff.2 hl₀)
  obtain ⟨line, -, -, hev, -, a, hprs, hi, ht, hc, -⟩ := hrecd r hr
  simp only [replayAcceptance, bind_ok, reject_ok, parseAcceptance_ok, not_or, not_not] at hre
  obtain ⟨a', hprs', hi', ht', hc', -, -, hev'⟩ := hre
  cases hprs.symm.trans hprs'
  refine ⟨⟨hpm, hi'.symm.trans hi, ht'.symm.trans ht,
    hc'.symm.trans hc, hev'.symm.trans hev⟩, foldl_bindEntry_self fun r hr => ?_⟩
  obtain ⟨line, -, -, -, hbd, -⟩ := hrecd r hr
  simp [hbd]

end

lemma OrderAcceptanceInput.Decided.keeps (hu : db.Upholds P db')
    (hr : ∀ e, input.Owns e → (e ∈ db'.entries.rows ↔ e ∈ db.entries.rows)) :
    input.Decided P nowMs db' entries where
  valid := h.valid
  records := h.records
  complete e := (h.complete e).trans (and_congr_left fun ho => (hr e ho).symm)
  serves line hl := hu _ line (h.serves line hl)

end

lemma installOrganizerStockHandover_upholds {i : InstallInput}
    (h : installOrganizerStockHandover P db i = .ok db') :
    db.Upholds P db' ∧ db'.entries = db.entries := by
  simp only [installOrganizerStockHandover, run_ok] at h
  obtain ⟨grant, hgr, u, -, -, -, u₁, -, u₂, -, h⟩ := h
  cases hg : db.pools.get (poolKey grant.organizerPubkey i.grantRumor.id) with
  | some prior =>
    simp only [hg, run_ok] at h
    obtain ⟨-, -, -, rfl⟩ := h
    exact ⟨fun _ _ hs => hs, rfl⟩
  | none =>
    simp only [hg, installPool, run_ok] at h
    obtain ⟨-, db₁, hf, h⟩ := h
    obtain ⟨hrun, hn⟩ := closeOverlapping_acknowledges
      (db.pools.nodup.sublist (filter_sublist.map _))
      (fun q hq => mem_of_mem_filter hq) hf
    have hc : db.Upholds P db₁ ∧ db₁.entries = db.entries := by
      clear h hn hf
      induction hrun with
      | refl => exact ⟨fun _ _ hs => hs, rfl⟩
      | tail _ hst ih =>
        obtain ⟨pool, hp, -, -, -, quantity, sequence, lastId, rfl, ha⟩ := hst
        refine ⟨fun account line hs => ?_, ih.2⟩
        refine serves_put hp ?_ ?_ ?_ ha account line (ih.1 account line hs) <;> rfl
    have hi : db.Upholds P { db₁ with
        pools := db₁.pools.put (newPool grant.organizerPubkey i.grantRumor grant .active) } := by
      intro account line hs
      obtain ⟨row, grant', hr, hre⟩ := hc.1 account line hs
      refine ⟨row, grant', (get_put_of_ne fun heq => ?_).trans hr, hre⟩
      rw [heq] at hr
      cases hr.symm.trans (hn _ hg)
    split at h
    · obtain rfl := pure_ok.1 h
      exact ⟨hi, hc.2⟩
    · obtain rfl := pure_ok.1 h
      exact ⟨hi, hc.2⟩

lemma OrderAcceptanceInput.Decided.follows (hhex : ∀ message, IsHex64 (P.eventHash message))
    (h : input.Decided P nowMs db entries) (hst : input.Follows P db db') :
    input.Decided P nowMs db' entries := by
  cases hst with
  | writers writers => exact h.keeps (fun _ _ hser => hser) fun _ _ => Iff.rfl
  | op op hop =>
    unfold Journal.after
    cases ha : op.apply P db with
    | error e => exact h
    | ok db' =>
      cases op with
      | install i =>
        obtain ⟨hu, hent⟩ := installOrganizerStockHandover_upholds ha
        exact h.keeps hu fun e _ => by rw [hent]
      | acceptance a =>
        obtain ⟨⟨db₁, accepted⟩, hcmt, ha⟩ := bind_ok.1 ha
        obtain rfl := pure_ok.1 ha
        refine h.keeps (commitOrganizerStockAcceptance_upholds hhex hcmt) fun e ho => ?_
        obtain ⟨-, pool, grant, hstnd, ⟨-, -, -, -, rfl, -⟩ | ⟨rumor, hf, rfl, -⟩⟩ :=
          commitOrganizerStockAcceptance_cases hcmt
        · rfl
        · refine mem_put.trans ⟨?_, fun he => .inr ⟨he, get_eq_none.1 hf.key e he⟩⟩
          rintro (rfl | ⟨he, -⟩)
          · exact absurd ho (hop a rfl)
          · exact he
      | order later =>
        by_cases hs : later.authenticatedPubkey = input.authenticatedPubkey ∧
            later.orderId = input.orderId
        · exact (h.repeats hs.1 hs.2 ha).2 ▸ h
        obtain ⟨-, -, hv, -, db₁, results, hac, rfl⟩ :=
          commitOrganizerStockOrder_ok.1 ha
        obtain ⟨hro, hls⟩ := acceptLines_entries hac
        have hrow : ∀ r ∈ results, r.entry ∈ db₁.entries.rows ∧ later.Owns r.entry := fun r hr => by
          obtain ⟨line, -, hrow, ho, -⟩ := forall₂_left hls.flip hr
          exact ⟨hrow, ho⟩
        obtain ⟨hps, -, hm⟩ := mem_foldl_bindEntry later.orderPoolBinding
          (fun r hr => (hrow r hr).1) (results_apart (nodup_of_valid hv)
            hls)
        have hoth : ∀ e, input.Owns e → ¬ later.Owns e := fun e ho ho' =>
          hs ⟨ho'.1.symm.trans ho.1, ho'.2.symm.trans ho.2⟩
        refine h.keeps (fun account line hser => ?_) fun e ho => (hm e).trans ?_
        · unfold Journal.Serves
          rw [hps]
          exact acceptLines_upholds hhex hac account line hser
        · rw [← hro e (hoth e ho)]
          constructor
          · rintro (⟨he, -⟩ | ⟨r, hr, rfl⟩)
            · exact he
            · refine absurd ?_ (hoth _ ho)
              unfold bound
              split_ifs <;> exact (hrow r hr).2
          · exact fun he => .inl ⟨he, fun r hr heq => hoth e ho (heq ▸ (hrow r hr).2)⟩
      | close i =>
        obtain ⟨⟨db₁, rumor⟩, hc, ha⟩ := bind_ok.1 ha
        obtain rfl := pure_ok.1 ha
        obtain ⟨pool, grant, hget, -, -, hasrt, -, rfl | ⟨-, -, -, -, -, rfl⟩⟩ :=
          beginOrganizerStockClose_cases hc
        · exact h
        · refine h.keeps (serves_put (mem_of_get hget) rfl rfl rfl ⟨grant, ?_⟩) fun _ _ => Iff.rfl
          obtain ⟨hgr, hcar, haccount, hco, -⟩ := assertPool_ok.1 hasrt
          exact assertPool_ok.2 ⟨hgr, hcar, haccount, hco, by simp⟩

end

end

lemma exists_of_isOk {α : Type} {x : Result α} (h : x.isOk = true) : ∃ a, x = .ok a := by
  cases x with
  | error e => cases h
  | ok a => exact ⟨a, rfl⟩

namespace Sample

def decidingPlatform : StockPlatform :=
  { organizerPlatform with
    eventHash := fun message =>
      if message = authorityMessage (.grant grant) 1800000100 then poolId
      else if message = authorityMessage (.accepted acceptance) 1800000200 then acceptedId
      else hexText 64 0 }

lemma eventHash_hex (message : Unsigned) : IsHex64 (decidingPlatform.eventHash message) := by
  change IsHex64 (if _ then _ else if _ then _ else _)
  split_ifs <;> decide

def entrustedJournal : Journal :=
  { emptyJournal with
    pools := emptyJournal.pools.put (newPool organizer grantRumor grant .active) }

def firstSale : OrderAcceptanceInput := sale "order-1" 1800000200000

def unboundEntry : Entry :=
  { (firstSale.line { poolId, writerId := writer, quantity := 2 }).entry
      (newPool organizer grantRumor grant .active)
      { authorityMessage (.accepted acceptance) 1800000200 with id := acceptedId } with
    orderPoolBinding := none }

def unboundJournal : Journal :=
  { emptyJournal with
    pools := emptyJournal.pools.put
      ((newPool organizer grantRumor grant .active).accepts 2 unboundEntry.rumor)
    entries := emptyJournal.entries.put unboundEntry }

end Sample

end Conduit.Stock
