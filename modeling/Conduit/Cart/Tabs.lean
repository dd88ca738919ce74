import Conduit.Cart.Taking

namespace Conduit.Cart

open Js Throwing Runs Lots List Option

inductive CartPersistenceMode where
  | persistent
  | memory

/-- One page load. `seen` records every cart that it published. -/
structure Tab where
  persistenceMode : CartPersistenceMode
  (publishedRecord memoryRecord reading : Option CanonicalCartRecord)
  seen : List CanonicalCartRecord

def Tab.opened : Tab := ⟨.persistent, none, none, none, []⟩

/-- `publishRecord(record, mode)`. -/
def Tab.publish (tab : Tab) (mode : CartPersistenceMode) (record : CanonicalCartRecord) : Tab :=
  { tab with
    persistenceMode := mode
    publishedRecord := some record
    reading := none
    seen := record :: tab.seen }

def Tab.remember (tab : Tab) (record : CanonicalCartRecord) : Tab :=
  { tab.publish .memory record with memoryRecord := some record }

structure Browser where
  stored : Option CanonicalCartRecord
  tabs : Nat → Tab

def Browser.setTab (s : Browser) (t : Nat) (tab : Tab) : Browser :=
  { s with tabs := Function.update s.tabs t tab }

def Browser.acting (s : Browser) (t : Nat) : Option CanonicalCartRecord :=
  match (s.tabs t).persistenceMode with
  | .persistent => s.stored
  | .memory => (s.tabs t).memoryRecord

def CartOp.allocations : CartOp → List CartAllocation
  | .remove observed identity => (observedLine observed identity).toList.map CartLine.allocation
  | .clear observed => observed.lines.map CartLine.allocation
  | .clearPurchase observed purchaseId => purchaseAllocations observed purchaseId
  | .consume claim => claim.allocations
  | _ => []

def CartOp.ObservedIn (op : CartOp) (observed : CanonicalCartRecord) : Prop :=
  match op with
  | .decrement seen _ | .remove seen _ | .clear seen | .clearPurchase seen _ => seen = observed
  | .consume claim => claim.allocations = purchaseAllocations observed claim.purchaseId
  | _ => True

def Tab.Observed (tab : Tab) (observed : CanonicalCartRecord) : Prop :=
  observed ∈ tab.seen ∨ observed.lines = []

/-- An installation never falls back to memory. -/
def CartOp.isInstall : CartOp → Bool
  | .install .. => true
  | _ => false

def CartOp.Refused (P : CartPlatform) (now : Int) (op : CartOp) (record : CanonicalCartRecord) :
    Prop :=
  match op with
  | .install proposed expectedRevision replaceExisting =>
    ∃ refusal, installCheckoutIntentPurchase P proposed expectedRevision replaceExisting now
      record = .error refusal
  | _ => False

inductive TabAction where
  | initializeCartRepository (t : Nat)
  | refresh (t : Nat)
  | read (t : Nat)
  | retry (t : Nat)
  | mutate (t : Nat) (op : CartOp) (before after : CanonicalCartRecord)
  | loseStorage (t : Nat)

variable (P : CartPlatform)

structure Mutates (tab : Tab) (op : CartOp) (now : Int) (before after : CanonicalCartRecord) :
    Prop where
  observed : ∃ observed, tab.Observed observed ∧ op.ObservedIn observed
  after : after = (op.next P now before).getD before

inductive TabStep : TabAction → Browser → Browser → Prop
  | initializeStored {s : Browser} {t : Nat} {legacy : List CartItem} {now : Int}
    {admits : Text → Admission} {row record : CanonicalCartRecord}
    (opened : s.tabs t = Tab.opened)
    (row_eq : row = s.stored.getD (createRecordFromLegacy P legacy now))
    (restored : restoreStoredRecord P admits row = .ok record ∨
      restoreStoredRecord P admits row = .error verificationUnavailable ∧
        parseStoredRecord P (fun _ => false) row = .ok record) :
    TabStep (.initializeCartRepository t) s
      ({ s with stored := some row }.setTab t ((s.tabs t).publish .persistent record))
  | initializeInMemory {s : Browser} {t : Nat} {legacy : List CartItem} {now : Int}
    {stored : Option CanonicalCartRecord}
    (opened : s.tabs t = Tab.opened)
    (stored_eq : stored = s.stored ∨
      stored = some (s.stored.getD (createRecordFromLegacy P legacy now))) :
    TabStep (.initializeCartRepository t) s
      ({ s with stored := stored }.setTab t
        ((s.tabs t).remember (createRecordFromLegacy P legacy now)))
  /-- `refreshCanonical`, and what a purchase is captured from. -/
  | refresh {s : Browser} {t : Nat} {admits : Text → Admission}
    {published row record : CanonicalCartRecord}
    (hydrated : (s.tabs t).publishedRecord = some published)
    (persistent : (s.tabs t).persistenceMode = .persistent) (stored : s.stored = some row)
    (restored : restoreStoredRecord P admits row = .ok record) :
    TabStep (.refresh t) s (s.setTab t ((s.tabs t).publish .persistent record))
  | read {s : Browser} {t : Nat} {row published : CanonicalCartRecord}
    (hydrated : (s.tabs t).publishedRecord = some published)
    (persistent : (s.tabs t).persistenceMode = .persistent) (stored : s.stored = some row) :
    TabStep (.read t) s (s.setTab t { s.tabs t with reading := some row })
  | retry {s : Browser} {t : Nat} {row : CanonicalCartRecord}
    (reading : (s.tabs t).reading = some row) (changed : s.stored ≠ some row) :
    TabStep (.retry t) s (s.setTab t { s.tabs t with reading := none })
  | commit {s : Browser} {t : Nat} {op : CartOp} {now : Int} {admits : Text → Admission}
    {row before after : CanonicalCartRecord}
    (persistent : (s.tabs t).persistenceMode = .persistent)
    (reading : (s.tabs t).reading = some row) (unchanged : s.stored = some row)
    (loads : op.load P admits row = .ok before) (accepted : ¬ op.Refused P now before)
    (mutates : Mutates P (s.tabs t) op now before after) :
    TabStep (.mutate t op before after) s
      ({ s with stored := some (op.row P now row before) }.setTab t
        ((s.tabs t).publish .persistent after))
  | fallBack {s : Browser} {t : Nat} {op : CartOp} {now : Int}
    {before after : CanonicalCartRecord}
    (persistent : (s.tabs t).persistenceMode = .persistent)
    (published : (s.tabs t).publishedRecord = some before) (remembers : op.isInstall = false)
    (mutates : Mutates P (s.tabs t) op now before after) :
    TabStep (.mutate t op before after) s (s.setTab t ((s.tabs t).remember after))
  | inMemory {s : Browser} {t : Nat} {op : CartOp} {now : Int}
    {before after : CanonicalCartRecord}
    (memory : (s.tabs t).persistenceMode = .memory)
    (record : (s.tabs t).memoryRecord = some before) (remembers : op.isInstall = false)
    (mutates : Mutates P (s.tabs t) op now before after) :
    TabStep (.mutate t op before after) s (s.setTab t ((s.tabs t).remember after))
  | loseStorage {s : Browser} {t : Nat} {now : Int} {published : CanonicalCartRecord}
    (persistent : (s.tabs t).persistenceMode = .persistent)
    (hydrated : (s.tabs t).publishedRecord = some published)
    (clock : published.nextSequence ≤ now) :
    TabStep (.loseStorage t) s
      (s.setTab t ((s.tabs t).remember (createMemoryRecordFromSnapshot
        (materializeLines published.lines) published.revision now)))

variable {P}

/-- `earlier` is a cart that `later` came from. -/
def Precedes (earlier later : CanonicalCartRecord) : Prop :=
  earlier.Named ∧ later.Follows earlier

structure TabOk (acting : Option CanonicalCartRecord) (tab : Tab) : Prop where
  published : ∀ observed ∈ tab.seen, ∃ record, tab.publishedRecord = some record ∧
    Precedes observed record
  acting : ∀ record, tab.publishedRecord = some record → record ∈ tab.seen ∧
    ∃ current, acting = some current ∧ Precedes record current
  memory : tab.persistenceMode = .memory → tab.memoryRecord = tab.publishedRecord

structure BrowserOk (s : Browser) : Prop where
  stored : ∀ row, s.stored = some row → row.Named
  tabs : ∀ t, TabOk (s.acting t) (s.tabs t)

variable {record : CanonicalCartRecord} {isVerified : Text → Bool}
  {acting current : Option CanonicalCartRecord} {a b c : CanonicalCartRecord}
  {admits : Text → Admission}

lemma Precedes.refl (h : record.Named) : Precedes record record :=
  ⟨h, .refl h⟩

lemma Precedes.trans (hab : Precedes a b) (hbc : Precedes b c) : Precedes a c :=
  ⟨hab.1, Cart.Follows.trans hab.2 hbc.2⟩

variable {op : CartOp} {tab : Tab} {now : Int} {record : CanonicalCartRecord}

lemma TabOk.publish {mode : CartPersistenceMode} (h : TabOk acting tab) (hnm : record.Named)
    (hpr : ∀ pub, tab.publishedRecord = some pub → Precedes pub record)
    (ha : ∃ r, current = some r ∧ Precedes record r) (hm : mode = .persistent) :
    TabOk current (tab.publish mode record) where
  published := by
    intro observed ho
    refine ⟨record, rfl, ?_⟩
    rcases mem_cons.1 ho with rfl | ho
    · exact .refl hnm
    · obtain ⟨pub, hpub, hp⟩ := h.published observed ho
      exact hp.trans (hpr pub hpub)
  acting := by
    rintro r ⟨rfl⟩
    exact ⟨.head _, ha⟩
  memory := by
    intro hmem
    have : mode = .memory := hmem
    rw [hm] at this
    cases this

lemma TabOk.remember {acting : Option CanonicalCartRecord} (h : TabOk acting tab)
    (hnm : record.Named) (hpr : ∀ pub, tab.publishedRecord = some pub → Precedes pub record) :
    TabOk (some record) (tab.remember record) where
  published := by
    intro observed ho
    refine ⟨record, rfl, ?_⟩
    rcases mem_cons.1 ho with rfl | ho
    · exact .refl hnm
    · obtain ⟨pub, hpub, hp⟩ := h.published observed ho
      exact hp.trans (hpr pub hpub)
  acting := by
    rintro r ⟨rfl⟩
    exact ⟨.head _, record, rfl, .refl hnm⟩
  memory := fun _ => rfl

lemma TabOk.moved (h : TabOk acting tab)
    (hm : ∀ r, acting = some r → ∃ r', current = some r' ∧ Precedes r r') : TabOk current tab where
  published := h.published
  acting := by
    intro record hrec
    obtain ⟨hs, r, hr, hp⟩ := h.acting record hrec
    obtain ⟨r', hr', hp'⟩ := hm r hr
    exact ⟨hs, r', hr', hp.trans hp'⟩
  memory := h.memory

structure SameLots (record record' : CanonicalCartRecord) : Prop where
  nextSequence : record'.nextSequence = record.nextSequence
  lines : List.Forall₂ (fun a b : CartLine => b.id = a.id ∧ b.batches = a.batches)
    record.lines record'.lines

lemma SameLots.refl (record : CanonicalCartRecord) : SameLots record record :=
  ⟨rfl, forall₂_same.2 fun _ _ => ⟨rfl, rfl⟩⟩

section

variable {record' : CanonicalCartRecord} (h : SameLots record record')
include h

lemma SameLots.precedes (hnm : record.Named) : Precedes record record' := by
  refine ⟨hnm, ?_⟩
  have hf := Cart.Named.follows_same hnm h.lines
  unfold CanonicalCartRecord.Follows
  rw [h.nextSequence]
  exact hf

lemma SameLots.symm : SameLots record' record :=
  ⟨h.nextSequence.symm, h.lines.flip.imp fun _ _ hs => ⟨hs.1.symm, hs.2.symm⟩⟩

end

lemma SameLots.trans (hab : SameLots a b) (hbc : SameLots b c) : SameLots a c := by
  refine ⟨hbc.nextSequence.trans hab.nextSequence, ?_⟩
  have ht : ∀ {l m n : List CartLine},
      Forall₂ (fun a b : CartLine => b.id = a.id ∧ b.batches = a.batches) l m →
      Forall₂ (fun a b : CartLine => b.id = a.id ∧ b.batches = a.batches) m n →
      Forall₂ (fun a b : CartLine => b.id = a.id ∧ b.batches = a.batches) l n := by
    intro l m n hlm hmn
    induction hlm generalizing n with
    | nil =>
      cases hmn
      exact .nil
    | cons hxy _ ih =>
      cases hmn with
      | cons hyz hmn => exact .cons ⟨hyz.1.trans hxy.1, hyz.2.trans hxy.2⟩ (ih hmn)
  exact ht hab.lines hbc.lines

lemma parseStoredLine_same {line parsed : CartLine}
    (h : parseStoredLine P isVerified line = some parsed) :
    parsed.id = line.id ∧ parsed.batches = line.batches := by
  unfold parseStoredLine at h
  split at h
  · obtain ⟨item, -, rfl⟩ := map_eq_some_iff.1 h
    exact ⟨rfl, rfl⟩
  · cases h

lemma parseStoredLines_same {lines parsed : List CartLine} {lineIds : List Text}
    {lineKeys : List ((Text × Text) × FulfillmentId)}
    (h : parseStoredLines P isVerified lines lineIds lineKeys = .ok parsed) :
    Forall₂ (fun a b : CartLine => b.id = a.id ∧ b.batches = a.batches) lines parsed := by
  induction lines generalizing lineIds lineKeys parsed with
  | nil =>
    cases h
    exact .nil
  | cons line rest ih =>
    rw [parseStoredLines] at h
    split at h
    · cases h
    · rename_i first hf
      split at h
      · cases h
      · split at h
        · cases h
        · simp only [run_ok] at h
          obtain ⟨others, ho, rfl⟩ := h
          exact .cons (parseStoredLine_same hf) (ih ho)

variable {value row : CanonicalCartRecord}

lemma parseStoredRecord_same (h : parseStoredRecord P isVerified value = .ok record) :
    SameLots value record := by
  simp only [parseStoredRecord, run_ok] at h
  obtain ⟨-, lines, hls, rfl⟩ := h
  exact ⟨rfl, parseStoredLines_same hls⟩

lemma restoreStoredRecord_same (h : restoreStoredRecord P admits value = .ok record) :
    SameLots value record := by
  simp only [restoreStoredRecord, bind_ok] at h
  obtain ⟨lines, hls, hp⟩ := h
  have hr : SameLots value { value with lines := lines } := by
    refine ⟨rfl, (mapResult_ok_iff.1 hls).imp fun _ _ hl => ?_⟩
    obtain ⟨hid, hb, -⟩ := restoreLine_ok (P := P) hl
    exact ⟨hid, hb⟩
  exact hr.trans (parseStoredRecord_same hp)

lemma CartOp.load_same (h : op.load P admits row = .ok record) : SameLots row record := by
  unfold CartOp.load at h
  split at h
  · exact restoreStoredRecord_same h
  · exact parseStoredRecord_same h

lemma CartOp.row_same {before : CanonicalCartRecord} (h : SameLots row before) :
    SameLots ((op.next P now before).getD before) (op.row P now row before) := by
  unfold CartOp.row
  cases hnext : op.next P now before with
  | none => exact h.symm
  | some next =>
    dsimp only [getD_some]
    split
    · exact .refl next
    · refine ⟨rfl, ?_⟩
      apply forall₂_map_right_iff.2
      exact forall₂_same.2 fun _ _ => ⟨rfl, rfl⟩

lemma next_precedes (h : record.Named) : Precedes record ((op.next P now record).getD record) := by
  cases hn : op.next P now record with
  | none => exact .refl h
  | some next => exact ⟨h, CartOp.next_follows h hn⟩

lemma createRecordFromLegacy_named (items : List CartItem) (now : Int) :
    (createRecordFromLegacy P items now).Named := by
  have hf : ∀ (items : List CartItem) (record : CanonicalCartRecord), record.Named →
      (items.foldl (pushLegacyItem P) record).Named := by
    intro items
    induction items with
    | nil => exact fun _ h => h
    | cons item rest ih =>
      intro record h
      have hp : 0 < max 1 item.quantity := by omega
      exact ih _ (Cart.Named.follows_concat h _ hp).named
  apply hf
  exact ⟨by simp [createEmptyRecord], by simp [createEmptyRecord], nodup_nil,
    by simp [createEmptyRecord]⟩

/-- What a snapshot's lines become. -/
structure FromSnapshot (n n' : Int) (line line' : CartLine) : Prop where
  id : line'.id = line.id
  batches : ∃ k q, n ≤ k ∧ k < n' ∧ 0 < q ∧ line'.batches = [⟨memoryBatchIdOf k, q⟩]

lemma pushSnapshot_lines (lines : List CartLine) (record : CanonicalCartRecord) : ∃ added,
      ((materializeLines lines).foldl pushSnapshotItem record).lines = record.lines ++ added ∧
      record.nextSequence ≤ ((materializeLines lines).foldl pushSnapshotItem record).nextSequence ∧
      Forall₂ (FromSnapshot record.nextSequence
        ((materializeLines lines).foldl pushSnapshotItem record).nextSequence) lines added := by
  induction lines generalizing record with
  | nil => exact ⟨[], (append_nil _).symm, le_refl _, .nil⟩
  | cons line rest ih =>
    obtain ⟨added, hls, hle, ha⟩ := ih (pushSnapshotItem record (materializeLine line))
    have hnext : (pushSnapshotItem record (materializeLine line)).nextSequence =
      record.nextSequence + 1 := rfl
    refine ⟨⟨line.id, { materializeLine line with
        cartLineId := none
        quantity := max 1 line.total },
      [⟨memoryBatchIdOf record.nextSequence, max 1 line.total⟩]⟩ :: added, ?_, ?_, .cons ?_ ?_⟩
    · change ((materializeLines rest).foldl pushSnapshotItem
        (pushSnapshotItem record (materializeLine line))).lines = _
      rw [hls]
      exact append_assoc _ _ _
    · change _ ≤ ((materializeLines rest).foldl pushSnapshotItem
        (pushSnapshotItem record (materializeLine line))).nextSequence
      omega
    · refine ⟨rfl, record.nextSequence, max 1 line.total, le_refl _, ?_, by omega, rfl⟩
      change _ < ((materializeLines rest).foldl pushSnapshotItem
        (pushSnapshotItem record (materializeLine line))).nextSequence
      omega
    · apply ha.imp
      rintro a b ⟨hid, k, q, hk, hk', hq, hb⟩
      exact ⟨hid, k, q, by omega, hk', hq, hb⟩

lemma createMemoryRecord_precedes {pub : CanonicalCartRecord} (h : pub.Named)
    (hclock : pub.nextSequence ≤ now) :
    Precedes pub (createMemoryRecordFromSnapshot (materializeLines pub.lines)
      pub.revision now) := by
  obtain ⟨added, hls, hle, ha⟩ := pushSnapshot_lines pub.lines
    { createEmptyRecord now with revision := pub.revision, nextSequence := max 1 now }
  unfold createMemoryRecordFromSnapshot
  set record := (materializeLines pub.lines).foldl pushSnapshotItem
    { createEmptyRecord now with revision := pub.revision, nextSequence := max 1 now }
  have hsta : max 1 now ≤ record.nextSequence := hle
  have hids : added.map (·.id) = pub.lines.map fun line => line.id :=
    (forall₂_eq_eq_eq ▸ forall₂_map_left_iff.2
      (forall₂_map_right_iff.2 (ha.imp fun _ _ hs => hs.id.symm)) :
      map _ pub.lines = map _ added).symm
  have hf : ∀ l ∈ added, ∃ line ∈ pub.lines,
      FromSnapshot (max 1 now) record.nextSequence line l := by
    intro l hl
    obtain ⟨i, hi, rfl⟩ := mem_iff_getElem.1 hl
    have hi' : i < pub.lines.length := ha.length_eq ▸ hi
    exact ⟨pub.lines[i], getElem_mem hi', (forall₂_iff_get.1 ha).2 i hi' hi⟩
  refine ⟨h, by omega, ?_, ?_⟩
  · rw [hls]
    refine ⟨?_, ?_, hids ▸ h.lineIds, ?_⟩
    · intro l hl
      obtain ⟨line, -, -, k, q, -, -, hq, hbat⟩ := hf l hl
      rw [hbat]
      refine ⟨by simp, ?_⟩
      intro b hb
      obtain rfl := mem_singleton.1 hb
      exact hq
    · intro l hl
      obtain ⟨line, hli, hid, k, q, -, hk, -, hbat⟩ := hf l hl
      rw [hid, hbat]
      refine ⟨(h.issued line hli).1.mono (by omega), ?_⟩
      intro b hb
      obtain rfl := mem_singleton.1 hb
      exact (isTaken_memoryBatchIdOf k).issuedBelow hk
    · intro l hl
      obtain ⟨line, -, -, k, q, -, -, -, hbat⟩ := hf l hl
      rw [hbat]
      simp
  · rw [hls]
    intro key q hq
    obtain ⟨l, hl, -, b, hb, hid, -⟩ := mem_lots.1 hq
    obtain ⟨line, -, -, k, _, hk, -, -, hbat⟩ := hf l hl
    rw [hbat] at hb
    obtain rfl := mem_singleton.1 hb
    exact .inr ⟨k, by omega, hid ▸ isTaken_memoryBatchIdOf k⟩

end Conduit.Cart
