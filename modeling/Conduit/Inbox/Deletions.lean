import Conduit.Inbox.Tabs
import Conduit.Js.Map

namespace Conduit.Inbox

open Js Stock Runs Throwing List Option Table

def InboxProjectionRow.author (row : InboxProjectionRow) : Text := row.value.value.author

def Genuine (authorOf : Text → Text) (p : InboxProjection) : Prop :=
  IsHex64 p.id ∧ authorOf p.id = p.author

def Action.Genuine (authorOf : Text → Text) : Action → Prop
  | .commitSeal call _ => ∀ p ∈ call.projection, Inbox.Genuine authorOf p
  | .putSeal p _ _ => Inbox.Genuine authorOf p
  | .migrate task => ∀ old ∈ task.rest.head?, Inbox.Genuine authorOf (quarantined old)
  | _ => True

def Spared (principal : Text) (s : InboxTabs) : Action → Prop
  | .migrate task => ∀ old ∈ task.rest.head?,
      (tombstone principal old.senderPubkey old.id s.db).isSome = true →
        (s.db.commerceInboxRecords.get (key principal old.id)).isSome = true
  | _ => True

/-- The author of the `deleteRecords` call that moves. -/
def Action.deletes : Action → Option Text
  | .deleteRecords _ author => some author
  | .deleteRead task => some task.author
  | .deleteMark task => some task.author
  | .deleteReturn task => some task.author
  | _ => none

def GenuineStep (P : StorePlatform) (principal : Text) (authorOf : Text → Text) (a : Action)
    (s t : InboxTabs) : Prop :=
  a.Genuine authorOf ∧ Step P principal a s t

def SparingStep (P : StorePlatform) (principal : Text) (authorOf : Text → Text) (a : Action)
    (s t : InboxTabs) : Prop :=
  Spared principal s a ∧ GenuineStep P principal authorOf a s t

section
variable (principal : Text) (authorOf : Text → Text)

def RowGenuine (row : InboxProjectionRow) : Prop :=
  row.accountPubkey = principal →
    row.id = key principal row.logicalId ∧ IsHex64 row.logicalId ∧
      authorOf row.logicalId = row.author

structure Started (s : InboxTabs) : Prop where
  rows : ∀ row ∈ s.db.commerceInboxRecords.rows, RowGenuine principal authorOf row
  commits : s.commits = []
  puts : s.puts = []
  deletes : s.deletes = []
  migrations : s.migrations = []
  returned : s.returned = []

def Covered (ids : List Text) (author : Text) (db : InboxDb) : Prop :=
  ∀ id ∈ ids, IsHex64 id → (tombstone principal author id db).isSome = true

def OnlyMarked (marks ids : List Text) (author : Text) (now : Int) (db : InboxDb) : Prop :=
  ∀ row ∈ db.commerceInboxRecords.rows, Shown principal now row → row.logicalId ∈ ids →
    row.author = author → row.id ∈ marks

def CommitOk (task : CommitTask) : Prop :=
  ∀ p v, task.call.target = some p → task.value = some v →
    Genuine authorOf p ∧ v.value.author = p.author

def PutOk (task : PutTask) : Prop :=
  Genuine authorOf task.projection ∧ task.value.value.author = task.projection.author

def MigrateOk (task : MigrateTask) : Prop :=
  ∀ old rest values, task.rest = old :: rest → task.values = some values →
    ∀ v ∈ values, v.value.author = old.senderPubkey

structure DeleteOk (now : Int) (db : InboxDb) (task : DeleteTask) : Prop where
  covered : Covered principal task.ids task.author db
  marked : ∀ marks, task.marks = some marks → OnlyMarked principal marks task.ids task.author now db
  own : ∀ marks, task.marks = some marks → ∀ rowId ∈ marks,
    ∃ id, rowId = key principal id ∧ authorOf id = task.author

structure ReturnedOk (now : Int) (db : InboxDb) (d : List Text × Text) : Prop where
  covered : Covered principal d.1 d.2 db
  gone : OnlyMarked principal [] d.1 d.2 now db

structure Inv (s : InboxTabs) : Prop where
  rows : ∀ row ∈ s.db.commerceInboxRecords.rows, RowGenuine principal authorOf row
  commits : ∀ task ∈ s.commits, CommitOk authorOf task
  puts : ∀ task ∈ s.puts, PutOk authorOf task
  migrations : ∀ task ∈ s.migrations, MigrateOk task
  deletes : ∀ task ∈ s.deletes, DeleteOk principal authorOf s.now s.db task
  returned : ∀ d ∈ s.returned, ReturnedOk principal s.now s.db d

/-- A row that is `old` but for the marks on it. -/
def SameRow (old row : InboxProjectionRow) : Prop :=
  row.id = old.id ∧ row.accountPubkey = old.accountPubkey ∧ row.logicalId = old.logicalId ∧
    row.value = old.value ∧ row.expiresAt = old.expiresAt ∧
    (row.deleted = false → old.deleted = false)

def Inserted (db : InboxDb) (row : InboxProjectionRow) : Prop :=
  RowGenuine principal authorOf row ∧
    (row.accountPubkey = principal → tombstone principal row.author row.logicalId db = none)

structure Follows (db db' : InboxDb) : Prop where
  tombstones : ∀ author id, (tombstone principal author id db).isSome = true →
    (tombstone principal author id db').isSome = true
  rows : ∀ row ∈ db'.commerceInboxRecords.rows,
    (∃ old ∈ db.commerceInboxRecords.rows, SameRow old row) ∨ Inserted principal authorOf db row

structure StepFacts (s t : InboxTabs) : Prop where
  follows : Follows principal authorOf s.db t.db
  now : s.now ≤ t.now
  commits : ∀ task ∈ t.commits, task ∈ s.commits ∨ CommitOk authorOf task
  puts : ∀ task ∈ t.puts, task ∈ s.puts ∨ PutOk authorOf task
  migrations : ∀ task ∈ t.migrations, task ∈ s.migrations ∨ MigrateOk task
  deletes : ∀ task ∈ t.deletes, task ∈ s.deletes ∨ DeleteOk principal authorOf t.now t.db task
  returned : ∀ d ∈ t.returned, d ∈ s.returned ∨ ReturnedOk principal t.now t.db d

end

variable {P : StorePlatform} {principal : Text} {authorOf : Text → Text} {s t : InboxTabs}
  {db db' db'' : InboxDb} {row old : InboxProjectionRow} {now : Int}

lemma SameRow.trans {row' : InboxProjectionRow} (h : SameRow old row) (h' : SameRow row row') :
    SameRow old row' :=
  ⟨h'.1.trans h.1, h'.2.1.trans h.2.1, h'.2.2.1.trans h.2.2.1, h'.2.2.2.1.trans h.2.2.2.1,
    h'.2.2.2.2.1.trans h.2.2.2.2.1, fun hd => h.2.2.2.2.2 (h'.2.2.2.2.2 hd)⟩

lemma SameRow.author (h : SameRow old row) : row.author = old.author := by
  rw [InboxProjectionRow.author, h.2.2.2.1]
  rfl

lemma SameRow.genuine (h : SameRow old row) (hold : RowGenuine principal authorOf old) :
    RowGenuine principal authorOf row := by
  intro ha
  rw [h.1, h.2.2.1, h.author]
  exact hold (h.2.1.symm.trans ha)

variable {task : DeleteTask} {now' : Int} {legacy : LegacyRow} {v : InboxCipher} {author : Text}
  {p : InboxProjection}

lemma lapsed_mono {e : Option Int} (hnow : now ≤ now') (h : Lapsed now e) : Lapsed now' e := by
  obtain ⟨n, hn, hne, hle⟩ := h
  exact ⟨n, hn, hne, hle.trans hnow⟩

lemma SameRow.shown (h : SameRow old row) (hn : now ≤ now') (hsh : Shown principal now' row)
    : Shown principal now old := by
  refine ⟨h.2.1 ▸ hsh.1, h.2.2.2.2.2 hsh.2.1, fun hl => hsh.2.2 ?_⟩
  rw [h.2.2.2.2.1]
  exact lapsed_mono hn hl

lemma SameRow.refl (row : InboxProjectionRow) : SameRow row row :=
  ⟨rfl, rfl, rfl, rfl, rfl, id⟩

lemma Inserted.same (h : SameRow old row) (hold : Inserted principal authorOf db old) :
    Inserted principal authorOf db row := by
  refine ⟨h.genuine hold.1, fun ha => ?_⟩
  rw [h.author, h.2.2.1]
  exact hold.2 (h.2.1.symm.trans ha)

lemma Follows.refl (db : InboxDb) : Follows principal authorOf db db :=
  ⟨fun _ _ h => h, fun row hr => .inl ⟨row, hr, .refl row⟩⟩

lemma Follows.trans (h : Follows principal authorOf db db')
    (h' : Follows principal authorOf db' db'') : Follows principal authorOf db db'' := by
  refine ⟨fun author id hso => h'.tombstones author id (h.tombstones author id hso), ?_⟩
  intro row hr
  rcases h'.rows row hr with ⟨mid, hm, heq⟩ | ⟨hg, hn⟩
  · rcases h.rows mid hm with ⟨old, hold, heq'⟩ | hi
    · exact .inl ⟨old, hold, heq'.trans heq⟩
    · exact .inr (hi.same heq)
  · refine .inr ⟨hg, fun ha => ?_⟩
    -- a tombstone that is missing later was missing before
    by_contra hso
    have hl := h.tombstones row.author row.logicalId
      (isSome_iff_ne_none.2 hso)
    rw [hn ha] at hl
    cases hl

lemma Follows.of_eq (hr : db'.commerceInboxRecords = db.commerceInboxRecords)
    (hd : db'.commerceInboxDeletions = db.commerceInboxDeletions) :
    Follows principal authorOf db db' := by
  refine ⟨fun author id h => ?_, fun row hrow => .inl ⟨row, hr ▸ hrow, .refl row⟩⟩
  rw [tombstone, hd]
  exact h

lemma Follows.of_put (hr : Inserted principal authorOf db row)
    (hre : db'.commerceInboxRecords = db.commerceInboxRecords.put row)
    (hd : db'.commerceInboxDeletions = db.commerceInboxDeletions) :
    Follows principal authorOf db db' := by
  refine ⟨fun author id h => ?_, fun row' hr' => ?_⟩
  · rw [tombstone, hd]
    exact h
  · rw [hre, mem_put] at hr'
    rcases hr' with rfl | ⟨hold, -⟩
    · exact .inr hr
    · exact .inl ⟨row', hold, .refl row'⟩

lemma Follows.of_modify {f : InboxProjectionRow → InboxProjectionRow}
    (hf : ∀ row, (f row).id = row.id) (heq : ∀ row, SameRow row (f row)) :
    Follows principal authorOf db
      { db with commerceInboxRecords := db.commerceInboxRecords.modify f hf } := by
  refine ⟨fun _ _ h => h, fun row hr => ?_⟩
  obtain ⟨old, hold, rfl⟩ := mem_map.1 hr
  exact .inl ⟨old, hold, heq old⟩

lemma Follows.markRead (ids : List Text) :
    Follows principal authorOf db (Inbox.markRead principal ids db) := by
  refine .of_modify _ fun row => ?_
  split
  · exact ⟨rfl, rfl, rfl, rfl, rfl, id⟩
  · exact .refl row

lemma Follows.markDeleted (rowId : Text) :
    Follows principal authorOf db (Inbox.markDeleted rowId db) := by
  refine .of_modify _ fun row => ?_
  split
  · exact ⟨rfl, rfl, rfl, rfl, rfl, fun h => (by cases h)⟩
  · exact .refl row

lemma Follows.putTombstones (ids : List Text) (author : Text) :
    Follows principal authorOf db (Inbox.putTombstones principal now ids author db) := by
  refine ⟨fun author id h => ?_, fun row hr => .inl ⟨row, hr, .refl row⟩⟩
  exact get_foldl_put_isSome h

lemma covered_putTombstones (ids : List Text) (author : Text) :
    Covered principal ids author (Inbox.putTombstones principal now ids author db) := by
  intro id hid hh
  have hm : (⟨key principal (author ++ ':' :: id), principal, id, author, now⟩ :
        InboxDeletionRow) ∈ (ids.filter fun id => decide (IsHex64 id)).map fun id =>
        ⟨key principal (author ++ ':' :: id), principal, id, author, now⟩ :=
    mem_map_of_mem (mem_filter.2 ⟨hid, decide_eq_true hh⟩)
  exact get_foldl_put_of_mem hm

variable {nonces : List Nat} {call : CommitCall} {read : Bool} {nonce : Nat} {ids : List Text}

lemma Inserted.stored {wrapId : Option Text} {expiresAt : Option Int} (hp : Genuine authorOf p)
    (hv : v.value.author = p.author) (hn : tombstone principal p.author p.id db = none) :
    Inserted principal authorOf db (storedRow principal p v wrapId expiresAt read) := by
  have ha : (storedRow principal p v wrapId expiresAt read).author = p.author := hv
  refine ⟨fun _ => ⟨rfl, hp.1, ?_⟩, fun _ => ?_⟩
  · rw [ha]
    exact hp.2
  · rw [ha]
    exact hn

lemma Follows.commit {task : CommitTask} (ht : CommitOk authorOf task)
    (h : commitTransaction principal now task.call task.retained task.value db = some db') :
    Follows principal authorOf db db' := by
  obtain rfl | ⟨current, next, stored, -, -, -, -, -, rfl, hsto⟩ := commitTransaction_cases h
  · exact .refl _
  · rcases hsto with rfl | ⟨p, v, expiresAt, hp, hv, hr⟩
    · exact .of_eq rfl rfl
    · obtain rfl | ⟨hn, -, rfl⟩ := commitRecord_cases hr
      · exact .of_eq rfl rfl
      · obtain ⟨hg, ha⟩ := ht p v hp hv
        exact .of_put (.stored hg ha hn) rfl rfl

lemma Follows.put {task : PutTask} (ht : PutOk authorOf task)
    (h : putProjection principal task.projection task.read task.value db = some db') :
    Follows principal authorOf db db' := by
  obtain ⟨hn, rfl⟩ := putProjection_cases h
  exact .of_put (.stored ht.1 ht.2 hn) rfl rfl

lemma Follows.claim (id owner : Text) (retry : Bool) :
    Follows principal authorOf db (Inbox.claim principal now id owner retry db) := by
  unfold Inbox.claim
  split <;> exact .of_eq rfl rfl

lemma Follows.heartbeat (id owner : Text) :
    Follows principal authorOf db (Inbox.heartbeat principal now id owner db) := by
  unfold Inbox.heartbeat
  split
  · split <;> exact .of_eq rfl rfl
  · exact .of_eq rfl rfl

lemma Follows.receive {event : SignedEvent} {sources : List Text}
    (h : Inbox.receive P principal now event sources db = some db') :
    Follows principal authorOf db db' := by
  unfold Inbox.receive at h
  split_ifs at h
  cases h
  exact .of_eq rfl rfl

lemma Follows.putMigrated (hg : Genuine authorOf (quarantined legacy))
    (hv : v.value.author = legacy.senderPubkey)
    (hsp : (tombstone principal legacy.senderPubkey legacy.id db).isSome = true →
      (db.commerceInboxRecords.get (key principal legacy.id)).isSome = true) :
    Follows principal authorOf db (Inbox.putMigrated P legacy db v) := by
  unfold Inbox.putMigrated
  split
  · exact .refl _
  · rename_i hget
    refine .of_put ⟨fun ha => ⟨?_, hg.1, ?_⟩, fun ha => ?_⟩ rfl rfl
    · change key v.account legacy.id = key principal legacy.id
      rw [show v.account = principal from ha]
    · exact hg.2.trans hv.symm
    · change tombstone principal v.value.author legacy.id db = none
      rw [hv]
      by_contra hso
      have := hsp (isSome_iff_ne_none.2 hso)
      rw [← show v.account = principal from ha, hget] at this
      cases this

lemma putMigrated_isSome {k : Text} (h : (db.commerceInboxRecords.get k).isSome = true) :
    ((Inbox.putMigrated P legacy db v).commerceInboxRecords.get k).isSome = true := by
  unfold Inbox.putMigrated
  split
  · exact h
  · exact get_put_isSome h

lemma Follows.migrate {values : List InboxCipher} (hg : Genuine authorOf (quarantined legacy))
    (hv : ∀ v ∈ values, v.value.author = legacy.senderPubkey)
    (hsp : (tombstone principal legacy.senderPubkey legacy.id db).isSome = true →
      (db.commerceInboxRecords.get (key principal legacy.id)).isSome = true) :
    Follows principal authorOf db (migrateRow P legacy values db) := by
  have hf : Follows principal authorOf db (values.foldl (Inbox.putMigrated P legacy) db) := by
    induction values generalizing db with
    | nil => exact .refl _
    | cons v values ih =>
      rw [forall_mem_cons] at hv
      have hh := Follows.putMigrated (P := P) hg hv.1 hsp
      refine hh.trans (ih hv.2 fun ht => putMigrated_isSome (hsp ?_))
      have heq : (Inbox.putMigrated P legacy db v).commerceInboxDeletions =
          db.commerceInboxDeletions := by
        unfold Inbox.putMigrated
        split <;> rfl
      rw [tombstone, heq] at ht
      exact ht
  refine hf.trans ?_
  cases legacy <;> exact .of_eq rfl rfl

lemma Covered.follows (h : Covered principal ids author db) (hf : Follows principal authorOf db db')
    : Covered principal ids author db' :=
  fun id hid hh => hf.tombstones author id (h id hid hh)

lemma OnlyMarked.follows {marks : List Text} (hc : Covered principal ids author db)
    (h : OnlyMarked principal marks ids author now db) (hf : Follows principal authorOf db db')
    (hnow : now ≤ now') : OnlyMarked principal marks ids author now' db' := by
  intro row hr hsh hid ha
  rcases hf.rows row hr with ⟨old, hold, heq⟩ | ⟨hg, hn⟩
  · rw [heq.1]
    exact h old hold (heq.shown hnow hsh) (heq.2.2.1 ▸ hid) (heq.author ▸ ha)
  · have ht := hc row.logicalId hid (hg hsh.1).2.1
    rw [← ha, hn hsh.1] at ht
    cases ht

lemma DeleteOk.follows (h : DeleteOk principal authorOf now db task)
    (hf : Follows principal authorOf db db') (hn : now ≤ now') :
    DeleteOk principal authorOf now' db' task :=
  ⟨h.covered.follows hf, fun marks hm => (h.marked marks hm).follows h.covered hf hn,
    h.own⟩

lemma ReturnedOk.follows {d : List Text × Text} (h : ReturnedOk principal now db d)
    (hf : Follows principal authorOf db db') (hn : now ≤ now') : ReturnedOk principal now' db' d :=
  ⟨h.covered.follows hf, h.gone.follows h.covered hf hn⟩

lemma StepFacts.inv (h : StepFacts principal authorOf s t) (hs : Inv principal authorOf s) :
    Inv principal authorOf t where
  rows row hr := by
    rcases h.follows.rows row hr with ⟨old, hold, heq⟩ | hi
    · exact heq.genuine (hs.rows old hold)
    · exact hi.1
  commits task ht := (h.commits task ht).elim (hs.commits task) id
  puts task ht := (h.puts task ht).elim (hs.puts task) id
  migrations task ht := (h.migrations task ht).elim (hs.migrations task) id
  deletes task ht :=
    (h.deletes task ht).elim (fun hold => (hs.deletes task hold).follows h.follows h.now) id
  returned d hd :=
    (h.returned d hd).elim (fun hold => (hs.returned d hold).follows h.follows h.now) id

lemma StepFacts.of_db (hf : Follows principal authorOf s.db db') :
    StepFacts principal authorOf s { s with db := db' } :=
  ⟨hf, le_rfl, fun _ => .inl, fun _ => .inl, fun _ => .inl, fun _ => .inl,
    fun _ => .inl⟩

lemma legacyProjection_author (legacy : LegacyRow) :
    (legacyProjection P legacy).author = legacy.senderPubkey := by
  cases legacy with
  | direct row =>
    simp only [legacyProjection]
    split <;> rfl
  | order row =>
    simp only [legacyProjection]
    cases hm : cachedOrderMessage P row with
    | none => rfl
    | some message =>
      simp only [cachedOrderMessage, run_gives] at hm
      obtain ⟨cached, -, heq, body, -, hb⟩ := hm
      cases hb
      exact heq.2.1

lemma nextProjection_author {p next : InboxProjection} {retained : Option InboxProjectionRow}
    (h : nextProjection principal p retained = some next) : next.author = p.author := by
  unfold nextProjection at h
  split at h
  · rename_i r row hc
    have hr : p = .record r := by
      cases p with
      | record r' =>
        simp only [InboxProjection.commerceRecord] at hc
        split_ifs at hc
        rw [some.inj hc]
      | _ => cases hc
    subst hr
    split_ifs at h
    · obtain ⟨saved, -, rfl⟩ := map_eq_some_iff.1 h
      split <;> rfl
    · cases h
      rfl
  · cases h
    rfl

lemma mem_sealLegacy (h : v ∈ sealLegacy P legacy nonces) :
    v.value = legacyProjection P legacy := by
  obtain ⟨⟨account, nonce⟩, -, rfl⟩ := mem_map.1 h
  rfl

lemma rowsToMark_spec {marks : List Text} (h : rowsToMark principal now ids author db = some marks)
    : OnlyMarked principal marks ids author now db ∧ ∀ rowId ∈ marks,
      ∃ row ∈ db.commerceInboxRecords.rows, row.id = rowId ∧ Shown principal now row ∧
        row.author = author := by
  obtain ⟨shown, hsh, rfl⟩ := map_eq_some_iff.1 h
  obtain ⟨hf, hto⟩ := mapM_eq_some_mem hsh
  have ho : ∀ (row : InboxProjectionRow) (p : InboxProjectionRow × InboxProjection),
      (openCipher principal row.value row.logicalId).map (fun q => (row, q)) = some p →
        p.1 = row ∧ p.2.author = row.author := by
    intro row p hp
    obtain ⟨q, hq, rfl⟩ := map_eq_some_iff.1 hp
    unfold openCipher at hq
    split_ifs at hq
    cases hq
    exact ⟨rfl, rfl⟩
  refine ⟨fun row hrow hr hid ha => ?_, fun rowId hmem => ?_⟩
  · obtain ⟨p, hp, hro⟩ := hto row (mem_filter.2 ⟨hrow, decide_eq_true hr⟩)
    obtain ⟨hpr, hpa⟩ := ho row p hro
    refine mem_map.2 ⟨p, mem_filter.2 ⟨hp, decide_eq_true ⟨?_, ?_⟩⟩, congrArg _ hpr⟩
    · rw [hpr]
      exact hid
    · rw [hpa]
      exact ha
  · obtain ⟨p, hp, rfl⟩ := mem_map.1 hmem
    obtain ⟨hp, hm⟩ := mem_filter.1 hp
    obtain ⟨row, hrow, hro⟩ := hf p hp
    obtain ⟨hrow, hr⟩ := mem_filter.1 hrow
    obtain ⟨rfl, hpa⟩ := ho row p hro
    exact ⟨p.1, hrow, rfl, of_decide_eq_true hr, hpa ▸ (of_decide_eq_true hm).2⟩

lemma target_eq (h : call.target = some p) : call.projection = some p := (filter_eq_some_iff.1 h).1

lemma StepFacts.commitSeal (hg : ∀ p ∈ call.projection, Genuine authorOf p)
    (h : Inbox.commitSeal principal call nonce s = some t) : StepFacts principal authorOf s t := by
  have hn : ∀ (task : CommitTask) (values : List InboxCipher), CommitOk authorOf task →
      StepFacts principal authorOf s
        { s with commits := task :: s.commits, sealedValues := values } := by
    intro task values ht
    refine ⟨.refl _, le_rfl, fun other ho => ?_, fun _ => .inl, fun _ => .inl,
      fun _ => .inl, fun _ => .inl⟩
    rcases mem_cons.1 ho with rfl | hold
    · exact .inr ht
    · exact .inl hold
  unfold Inbox.commitSeal at h
  split at h
  · cases h
    exact hn _ _ fun _ _ _ hva => (by cases hva)
  · rename_i p htgt
    simp only [run_gives] at h
    obtain ⟨-, next, hne, heq⟩ := h
    cases heq
    apply hn
    intro q v hq hv
    obtain rfl : p = q := some.inj (htgt.symm.trans hq)
    cases hv
    exact ⟨hg p (target_eq htgt), nextProjection_author hne⟩

lemma StepFacts.commit {task : CommitTask} (hs : Inv principal authorOf s)
    (h : commitRun principal task s = some t) : StepFacts principal authorOf s t := by
  simp only [commitRun, run_gives] at h
  obtain ⟨ht, h⟩ := h
  split at h <;> obtain rfl := some.inj h
  · rename_i db' hdb
    exact ⟨.commit (hs.commits task ht) hdb, le_rfl,
      fun _ hm => .inl (mem_of_mem_erase hm), fun _ => .inl, fun _ => .inl,
      fun _ => .inl, fun _ => .inl⟩
  · exact ⟨.refl _, le_rfl, fun _ hm => .inl (mem_of_mem_erase hm), fun _ => .inl,
      fun _ => .inl, fun _ => .inl, fun _ => .inl⟩

lemma StepFacts.putSeal (hg : Genuine authorOf p)
    (h : Inbox.putSeal principal p read nonce s = some t) : StepFacts principal authorOf s t := by
  simp only [Inbox.putSeal, run_gives] at h
  obtain ⟨-, heq⟩ := h
  cases heq
  refine ⟨.refl _, le_rfl, fun _ => .inl, fun task ht => ?_, fun _ => .inl,
    fun _ => .inl, fun _ => .inl⟩
  rcases mem_cons.1 ht with rfl | hold
  · exact .inr ⟨hg, rfl⟩
  · exact .inl hold

lemma StepFacts.put {task : PutTask} (hs : Inv principal authorOf s)
    (h : putRun principal task s = some t) : StepFacts principal authorOf s t := by
  simp only [putRun, run_gives] at h
  obtain ⟨ht, h⟩ := h
  split at h <;> obtain rfl := some.inj h
  · rename_i db' hdb
    exact ⟨.put (hs.puts task ht) hdb, le_rfl, fun _ => .inl,
      fun _ hm => .inl (mem_of_mem_erase hm), fun _ => .inl, fun _ => .inl,
      fun _ => .inl⟩
  · exact ⟨.refl _, le_rfl, fun _ => .inl, fun _ hm => .inl (mem_of_mem_erase hm),
      fun _ => .inl, fun _ => .inl, fun _ => .inl⟩

lemma StepFacts.of_delete {rest : List DeleteTask} (hf : Follows principal authorOf s.db db')
    (hr : rest ⊆ s.deletes) (ht : DeleteOk principal authorOf s.now db' task) :
    StepFacts principal authorOf s { s with db := db', deletes := task :: rest } := by
  refine ⟨hf, le_rfl, fun _ => .inl, fun _ => .inl, fun _ => .inl, fun other ho => ?_,
    fun _ => .inl⟩
  rcases mem_cons.1 ho with rfl | hold
  · exact .inr ht
  · exact .inl (hr hold)

lemma StepFacts.deleteRecords (ids : List Text) (author : Text) :
    StepFacts principal authorOf s { s with
      db := Inbox.putTombstones principal s.now ids author s.db
      deletes := ⟨ids, author, none⟩ :: s.deletes } :=
  .of_delete (.putTombstones ids author) (.refl _)
    ⟨covered_putTombstones ids author, fun _ h => (by cases h), fun _ h => (by cases h)⟩

section

variable (hs : Inv principal authorOf s)
include hs

lemma StepFacts.deleteRead (h : Inbox.deleteRead principal task s = some t) :
    StepFacts principal authorOf s t := by
  simp only [Inbox.deleteRead, run_gives] at h
  obtain ⟨⟨ht, -⟩, marks, hm, heq⟩ := h
  cases heq
  obtain ⟨ho, hown⟩ := rowsToMark_spec hm
  refine .of_delete (.refl _) (erase_subset) ⟨(hs.deletes task ht).covered, ?_, ?_⟩
  · intro marks' hm'
    cases hm'
    exact ho
  · intro marks' hm' rowId hr
    cases hm'
    obtain ⟨row, hrow, rfl, hsh, ha⟩ := hown rowId hr
    obtain ⟨hid, -, haut⟩ := hs.rows row hrow hsh.1
    exact ⟨row.logicalId, hid, haut.trans ha⟩

lemma StepFacts.deleteMark (h : Inbox.deleteMark task s = some t) :
    StepFacts principal authorOf s t := by
  simp only [Inbox.deleteMark, run_gives] at h
  obtain ⟨ht, h⟩ := h
  split at h
  · rename_i rowId rest hm
    cases h
    have hf : Follows principal authorOf s.db (Inbox.markDeleted rowId s.db) := .markDeleted rowId
    have hok := hs.deletes task ht
    refine .of_delete hf (erase_subset) ⟨hok.covered.follows hf, ?_, ?_⟩
    · intro marks' hm' row hrow hsh hid ha
      cases hm'
      have hmem := ((hok.marked _ hm).follows hok.covered hf le_rfl) row hrow hsh hid ha
      refine (mem_cons.1 hmem).resolve_left fun hmrk => ?_
      -- the row that has just been marked is not shown
      obtain ⟨old, -, rfl⟩ := mem_map.1 hrow
      have hd := hsh.2.1
      by_cases hold : old.id = rowId
      · rw [if_pos hold] at hd
        cases hd
      · rw [if_neg hold] at hmrk
        exact hold hmrk
    · intro marks' hm' rowId' hr'
      cases hm'
      exact hok.own _ hm rowId' (.tail _ hr')
  · cases h

lemma StepFacts.deleteReturn (h : Inbox.deleteReturn task s = some t) :
    StepFacts principal authorOf s t := by
  simp only [Inbox.deleteReturn, run_gives] at h
  obtain ⟨⟨ht, hm⟩, heq⟩ := h
  cases heq
  have hok := hs.deletes task ht
  refine ⟨.refl _, le_rfl, fun _ => .inl, fun _ => .inl, fun _ => .inl,
    fun _ hmem => .inl (mem_of_mem_erase hmem), fun d hd => ?_⟩
  rcases mem_cons.1 hd with rfl | hold
  · exact .inr ⟨hok.covered, hok.marked [] hm⟩
  · exact .inl hold

end

variable {task : MigrateTask} {a : Action}

lemma StepFacts.migrateSeal (h : Inbox.migrateSeal P task nonces s = some t) :
    StepFacts principal authorOf s t := by
  simp only [Inbox.migrateSeal, run_gives] at h
  obtain ⟨-, legacy, hh, -, heq⟩ := h
  cases heq
  refine ⟨.refl _, le_rfl, fun _ => .inl, fun _ => .inl, fun other ho => ?_,
    fun _ => .inl, fun _ => .inl⟩
  rcases mem_cons.1 ho with rfl | hold
  · refine .inr fun old rest values hr hva v hv => ?_
    cases hva
    rw [hr] at hh
    obtain rfl := some.inj hh
    rw [mem_sealLegacy hv]
    exact legacyProjection_author old
  · exact .inl (mem_of_mem_erase hold)

lemma StepFacts.migrate (hs : Inv principal authorOf s)
    (hg : ∀ old ∈ task.rest.head?, Genuine authorOf (quarantined old))
    (hsp : Spared principal s (.migrate task)) (h : migrateRun P task s = some t) :
    StepFacts principal authorOf s t := by
  simp only [migrateRun, run_gives] at h
  obtain ⟨ht, h⟩ := h
  split at h
  · rename_i legacy rest values hr hv
    cases h
    have hh : legacy ∈ task.rest.head? := by
      rw [hr]
      rfl
    have hf : Follows principal authorOf s.db (migrateRow P legacy values s.db) :=
      .migrate (hg legacy hh) (hs.migrations task ht legacy rest values hr hv)
        (hsp legacy hh)
    refine ⟨hf, le_rfl, fun _ => .inl, fun _ => .inl, fun other ho => ?_, fun _ => .inl,
      fun _ => .inl⟩
    rcases mem_cons.1 ho with rfl | hold
    · exact .inr fun _ _ _ _ hn => (by cases hn)
    · exact .inl (mem_of_mem_erase hold)
  · cases h

lemma SparingStep.facts (hs : Inv principal authorOf s) (h : SparingStep P principal authorOf a s t)
    : StepFacts principal authorOf s t := by
  obtain ⟨hsp, hg, hst⟩ := h
  cases a with
  | tick now =>
    simp only [Step, InboxTabs.next] at hst
    split_ifs at hst with hle
    cases hst
    exact ⟨.refl _, hle, fun _ => .inl, fun _ => .inl, fun _ => .inl, fun _ => .inl, fun _ => .inl⟩
  | receive event sources =>
    obtain ⟨db', hdb, rfl⟩ := map_eq_some_iff.1 hst
    exact .of_db (.receive hdb)
  | claim id owner retry =>
    cases hst
    exact .of_db (.claim id owner retry)
  | heartbeat id owner =>
    cases hst
    exact .of_db (.heartbeat id owner)
  | markRead ids =>
    cases hst
    exact .of_db (.markRead ids)
  | commitSeal call nonce => exact .commitSeal hg hst
  | commit task => exact .commit hs hst
  | putSeal p read nonce => exact .putSeal hg hst
  | put task => exact .put hs hst
  | deleteRecords ids author =>
    cases hst
    exact .deleteRecords ids author
  | deleteRead task => exact .deleteRead hs hst
  | deleteMark task => exact .deleteMark hs hst
  | deleteReturn task => exact .deleteReturn hs hst
  | migrateRead =>
    cases hst
    refine ⟨.refl _, le_rfl, fun _ => .inl, fun _ => .inl, fun task ht => ?_,
      fun _ => .inl, fun _ => .inl⟩
    rcases mem_cons.1 ht with rfl | hold
    · exact .inr fun _ _ _ _ hv => (by cases hv)
    · exact .inl hold
  | migrateSeal task nonces => exact .migrateSeal hst
  | migrate task => exact .migrate hs hg hsp hst

lemma Started.inv (h : Started principal authorOf s) : Inv principal authorOf s where
  rows := h.rows
  commits := by simp [h.commits]
  puts := by simp [h.puts]
  migrations := by simp [h.migrations]
  deletes := by simp [h.deletes]
  returned := by simp [h.returned]

lemma kept_by_deletion (hs : Inv principal authorOf s) (hst : Step P principal a s t)
    (ha : a.deletes = some author) (hrow : row ∈ s.db.commerceInboxRecords.rows)
    (hsh : Shown principal s.now row) (hau : row.author ≠ author) :
    row ∈ t.db.commerceInboxRecords.rows ∧ Shown principal t.now row := by
  cases a with
  | deleteRecords ids by_ =>
    cases hst
    exact ⟨hrow, hsh⟩
  | deleteRead task =>
    simp only [Step, InboxTabs.next, Inbox.deleteRead, run_gives] at hst
    obtain ⟨-, marks, -, heq⟩ := hst
    cases heq
    exact ⟨hrow, hsh⟩
  | deleteReturn task =>
    simp only [Step, InboxTabs.next, Inbox.deleteReturn, run_gives] at hst
    obtain ⟨-, heq⟩ := hst
    cases heq
    exact ⟨hrow, hsh⟩
  | deleteMark task =>
    cases ha
    simp only [Step, InboxTabs.next, Inbox.deleteMark, run_gives] at hst
    obtain ⟨ht, hst⟩ := hst
    split at hst
    · rename_i rowId rest hm
      cases hst
      -- the row to be marked is under the id of a message of the deletion's author
      have hne : row.id ≠ rowId := by
        intro heq
        obtain ⟨id, hid, haut⟩ := (hs.deletes task ht).own _ hm rowId
          mem_cons_self
        obtain ⟨hk, -, hr⟩ := hs.rows row hrow hsh.1
        have hsa : row.logicalId = id := key_inj (hk.symm.trans (heq.trans hid))
        exact hau (hr.symm.trans (hsa ▸ haut))
      refine ⟨mem_map.2 ⟨row, hrow, if_neg hne⟩, hsh⟩
    · cases hst
  | _ => cases ha

/-- Where no deleted message is migrated, the deleted stays hidden, and no other author's message
is. -/
theorem deleted_stays_deleted {l : List Action} (hs : Started principal authorOf s)
    (h : Run (SparingStep P principal authorOf) s l t) :
    (∀ d ∈ t.returned, ∀ row ∈ t.db.commerceInboxRecords.rows, Shown principal t.now row →
      row.logicalId ∈ d.1 → ∀ p, openCipher principal row.value row.logicalId = some p →
        p.author ≠ d.2) ∧
    ∀ a u author, SparingStep P principal authorOf a t u → a.deletes = some author →
      ∀ row ∈ t.db.commerceInboxRecords.rows, Shown principal t.now row →
        ∀ p, openCipher principal row.value row.logicalId = some p → p.author ≠ author →
          row ∈ u.db.commerceInboxRecords.rows ∧ Shown principal u.now row := by
  have hinv : Inv principal authorOf t :=
    h.invariant (fun a s t hs hstep => (hstep.facts hs).inv hs) hs.inv
  have hopen : ∀ (row : InboxProjectionRow) p,
      openCipher principal row.value row.logicalId = some p → p.author = row.author := by
    intro row p hp
    unfold openCipher at hp
    split_ifs at hp
    rw [← some.inj hp]
    rfl
  constructor
  · intro d hd row hrow hshown hid p hp hauthor
    have := (hinv.returned d hd).gone row hrow hshown hid ((hopen row p hp).symm.trans hauthor)
    cases this
  · intro a u author hstep ha row hrow hshown p hp hauthor
    exact kept_by_deletion hinv hstep.2.2 ha hrow hshown (hopen row p hp ▸ hauthor)

def messageBuyer : Text := "ae3f7f3701bc83712ba7aec50375187db2dfd1d5c802f836896fa74e49a3f60c"

def messageMerchant : Text := "daec2a9dc1829df1633d8e5b023c83a3bb4f633a0d0f9abc244db3945be671aa"

def messageId : Text := "8e40dd9717e185936478212d9c3fc2b67196c90f6a499a3da0c3fd1fc18e098a"

def keptMessage : StoredMessage where
  id := messageId
  senderPubkey := messageBuyer
  recipientPubkey := messageMerchant
  content := "Is the honey still available?"
  decrypted := none
  createdAt := 1700000000000
  kind := 14
  read := false

def plainPlatform : StorePlatform where
  isValidSignedEvent _ := true
  wireChars _ := 503
  isMachineContent _ := false
  parseCachedOrder _ := none
  parseOrderBody _ := none

def emptyInbox : InboxDb := ⟨.empty, .empty, .empty, .empty, .empty⟩

def buyerMessage : InboxProjection := legacyProjection plainPlatform (.direct keptMessage)

def buyerPut (nonce : Nat) : PutTask :=
  ⟨buyerMessage, false, ⟨nonce, messageMerchant, messageId, buyerMessage⟩⟩

def buyerRow : Text := key messageMerchant messageId

def keptInbox : InboxDb := { emptyInbox with messages := Table.empty.put keptMessage }

def tabsOn (db : InboxDb) : InboxTabs where
  db := db
  now := 1700000100000
  sealedValues := []
  commits := []
  puts := []
  deletes := []
  migrations := []
  returned := []
  associated := []

def storedAgain : List Action :=
  [.putSeal buyerMessage false 1, .put (buyerPut 1), .deleteRecords [messageId] messageBuyer,
    .deleteRead ⟨[messageId], messageBuyer, none⟩,
    .deleteMark ⟨[messageId], messageBuyer, some [buyerRow]⟩,
    .deleteReturn ⟨[messageId], messageBuyer, some []⟩, .putSeal buyerMessage false 2,
    .put (buyerPut 2)]

theorem deleted_stays_deleted_sample : ∃ t,
    Run (SparingStep plainPlatform messageMerchant fun _ => messageBuyer) (tabsOn emptyInbox)
      storedAgain t ∧
    t.returned = [([messageId], messageBuyer)] ∧
    ∀ d ∈ t.returned, ∀ row ∈ t.db.commerceInboxRecords.rows, Shown messageMerchant t.now row →
      row.logicalId ∈ d.1 → ∀ p, openCipher messageMerchant row.value row.logicalId = some p →
        p.author ≠ d.2 := by
  have hstored : ∃ t, Run (SparingStep plainPlatform messageMerchant fun _ => messageBuyer)
      (tabsOn emptyInbox) storedAgain t ∧ t.returned = [([messageId], messageBuyer)] := by
    have hgenuine : Genuine (fun _ => messageBuyer) buyerMessage := ⟨by decide, rfl⟩
    exact ⟨_, .cons ⟨trivial, hgenuine, rfl⟩ (.cons ⟨trivial, trivial, rfl⟩
      (.cons ⟨trivial, trivial, rfl⟩ (.cons ⟨trivial, trivial, rfl⟩
        (.cons ⟨trivial, trivial, rfl⟩ (.cons ⟨trivial, trivial, rfl⟩
          (.cons ⟨trivial, hgenuine, rfl⟩ (.cons ⟨trivial, trivial, rfl⟩ (.nil _)))))))), rfl⟩
  obtain ⟨t, hrun, hreturned⟩ := hstored
  refine ⟨t, hrun, hreturned, ?_⟩
  exact (deleted_stays_deleted
    ⟨fun row hrow => absurd hrow not_mem_nil, rfl, rfl, rfl, rfl, rfl⟩ hrun).1

def migratedAfterDeletion : List Action :=
  [.deleteRecords [messageId] messageBuyer, .deleteRead ⟨[messageId], messageBuyer, none⟩,
    .deleteReturn ⟨[messageId], messageBuyer, some []⟩, .migrateRead,
    .migrateSeal ⟨[.direct keptMessage], none⟩ [1, 2],
    .migrate ⟨[.direct keptMessage],
      some (sealLegacy plainPlatform (.direct keptMessage) [1, 2])⟩]

theorem deleted_message_migrated : ∃ t,
    Started messageMerchant (fun _ => messageBuyer) (tabsOn keptInbox) ∧
    Run (GenuineStep plainPlatform messageMerchant fun _ => messageBuyer) (tabsOn keptInbox)
      migratedAfterDeletion t ∧
    ∃ d ∈ t.returned, ∃ row ∈ t.db.commerceInboxRecords.rows, Shown messageMerchant t.now row ∧
      row.logicalId ∈ d.1 ∧ ∃ p, openCipher messageMerchant row.value row.logicalId = some p ∧
        p.author = d.2 := by
  refine ⟨_, ⟨fun row hrow => absurd hrow not_mem_nil, rfl, rfl, rfl, rfl, rfl⟩,
    .cons ⟨trivial, rfl⟩ (.cons ⟨trivial, rfl⟩ (.cons ⟨trivial, rfl⟩ (.cons ⟨trivial, rfl⟩
      (.cons ⟨trivial, rfl⟩ (.cons ⟨?_, rfl⟩ (.nil _)))))), ?_⟩
  · intro old hold
    cases hold
    exact ⟨by decide, rfl⟩
  · refine ⟨([messageId], messageBuyer), mem_cons_self,
      migratedRow plainPlatform (.direct keptMessage)
        ⟨2, messageMerchant, messageId, legacyProjection plainPlatform (.direct keptMessage)⟩,
      ?_, ⟨rfl, rfl, by decide⟩, mem_cons_self, _, rfl, rfl⟩
    decide

end Conduit.Inbox
