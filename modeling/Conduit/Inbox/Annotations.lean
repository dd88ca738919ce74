import Conduit.Inbox.Deletions

namespace Conduit.Inbox

open Js Stock Runs Throwing Option Table

/-- The projection that `associate` puts; `none` where it throws. -/
def associate (record : DecodedCommerceMessage) (orderId : Text) : Option InboxProjection :=
  if record.category ≠ .commerce ∨ trim orderId = [] ∨ 128 < length orderId then none
  else some (.record { record with association := some (trim orderId) })

def Decoded (commerce : Text → Bool) (p : InboxProjection) : Prop :=
  p.commerceRecord.isSome = commerce p.id

def Action.Decoded (commerce : Text → Bool) : Action → Prop
  | .commitSeal call _ => ∀ p ∈ call.projection, Inbox.Decoded commerce p
  | .putSeal p _ _ => Inbox.Decoded commerce p
  | _ => True

def DecodedStep (P : StorePlatform) (principal : Text) (commerce : Text → Bool) (a : Action)
    (s t : InboxTabs) : Prop :=
  a.Decoded commerce ∧ Step P principal a s t

section
variable (principal : Text) (commerce : Text → Bool)

def SealedRow (sealedValues : List InboxCipher) (row : InboxProjectionRow) : Prop :=
  row.value ∈ sealedValues ∧ row.kind = row.value.value.kind ∧
    key row.value.account row.value.id = row.id

structure Begun (s : InboxTabs) : Prop where
  unique : ∀ c ∈ s.sealedValues, ∀ d ∈ s.sealedValues, c.nonce = d.nonce → c = d
  rows : ∀ row ∈ s.db.commerceInboxRecords.rows, SealedRow s.sealedValues row
  commits : s.commits = []
  puts : s.puts = []
  migrations : s.migrations = []
  associated : s.associated = []

def Associated (id : Text) (association : Option Text) (db : InboxDb) : Prop :=
  ∃ row r, db.commerceInboxRecords.get (key principal id) = some row ∧
    row.value.value.commerceRecord = some r ∧ r.association = association

structure SealedCommit (sealedValues : List InboxCipher) (task : CommitTask) (p : InboxProjection)
    (v : InboxCipher) : Prop where
  decoded : Decoded commerce p
  mem : v ∈ sealedValues
  account : v.account = principal
  id : v.id = p.id
  next : nextProjection principal p task.retained = some v.value
  retained : ∀ row ∈ task.retained, SealedRow sealedValues row ∧ row.id = key principal p.id

structure SealedPut (sealedValues : List InboxCipher) (task : PutTask) : Prop where
  decoded : Decoded commerce task.projection
  mem : task.value ∈ sealedValues
  account : task.value.account = principal
  id : task.value.id = task.projection.id
  value : task.value.value = task.projection

structure SealedMigration (P : StorePlatform) (sealedValues : List InboxCipher) (old : LegacyRow)
    (v : InboxCipher) : Prop where
  mem : v ∈ sealedValues
  id : v.id = old.id
  value : v.value = legacyProjection P old

structure Noted (P : StorePlatform) (s : InboxTabs) : Prop where
  unique : ∀ c ∈ s.sealedValues, ∀ d ∈ s.sealedValues, c.nonce = d.nonce → c = d
  rows : ∀ row ∈ s.db.commerceInboxRecords.rows, SealedRow s.sealedValues row
  commits : ∀ task ∈ s.commits, ∀ p v, task.call.target = some p → task.value = some v →
    SealedCommit principal commerce s.sealedValues task p v
  puts : ∀ task ∈ s.puts, SealedPut principal commerce s.sealedValues task
  migrations : ∀ task ∈ s.migrations, ∀ old rest values, task.rest = old :: rest →
    task.values = some values → ∀ v ∈ values, SealedMigration P s.sealedValues old v
  associated : ∀ id a, s.associated.lookup id = some a →
    commerce id = true ∧ Associated principal id a s.db

end

structure Kept (db db' : InboxDb) : Prop where
  records : ∀ k row, db.commerceInboxRecords.get k = some row →
    ∃ row', db'.commerceInboxRecords.get k = some row' ∧ (row.read = true → row'.read = true)
  wrappers : ∀ k w, db.commerceInboxWrappers.get k = some w →
    ∃ w', db'.commerceInboxWrappers.get k = some w' ∧ (∀ url ∈ w.sources, url ∈ w'.sources) ∧
      (w.state = .deleted ∨ w.state = .expired → w'.state = w.state)

variable {P : StorePlatform} {principal : Text} {commerce : Text → Bool} {s t : InboxTabs}
  {db db' db'' : InboxDb} {row : InboxProjectionRow} {now : Int}

lemma Kept.refl (db : InboxDb) : Kept db db :=
  ⟨fun _ row h => ⟨row, h, id⟩, fun _ w h => ⟨w, h, fun _ => id, fun _ => rfl⟩⟩

lemma Kept.trans (h : Kept db db') (h' : Kept db' db'') : Kept db db'' := by
  constructor
  · intro k row hr
    obtain ⟨row', hr', hre⟩ := h.records k row hr
    obtain ⟨row'', hr'', hre'⟩ := h'.records k row' hr'
    exact ⟨row'', hr'', hre' ∘ hre⟩
  · intro k w hw
    obtain ⟨w', hw', hso, hst⟩ := h.wrappers k w hw
    obtain ⟨w'', hw'', hso', hst'⟩ := h'.wrappers k w' hw'
    refine ⟨w'', hw'', fun url hu => hso' url (hso url hu), fun hold => ?_⟩
    have heq := hst hold
    exact (hst' (heq ▸ hold)).trans heq

lemma Kept.of_eq (hr : db'.commerceInboxRecords = db.commerceInboxRecords)
    (hw : db'.commerceInboxWrappers = db.commerceInboxWrappers) : Kept db db' := by
  refine ⟨fun _ row h => ⟨row, hr ▸ h, id⟩, fun _ w h => ⟨w, hw ▸ h, fun _ => id, ?_⟩⟩
  exact fun _ => rfl

lemma Kept.of_put_record
    (hr : ∀ old, db.commerceInboxRecords.get row.id = some old → old.read = true →
      row.read = true) (hre : db'.commerceInboxRecords = db.commerceInboxRecords.put row)
    (hw : db'.commerceInboxWrappers = db.commerceInboxWrappers) : Kept db db' := by
  refine ⟨fun k old hold => ?_, fun _ w h => ⟨w, hw ▸ h, fun _ => id, fun _ => rfl⟩⟩
  rw [hre, get_put]
  split
  · rename_i hk
    subst hk
    exact ⟨row, rfl, hr old hold⟩
  · exact ⟨old, hold, id⟩

variable {a : Option Text} {id : Text} {sealedValues : List InboxCipher} {p : InboxProjection}
  {v : InboxCipher} {task : CommitTask} {f : InboxProjectionRow → InboxProjectionRow}
  {retained : Option InboxProjectionRow}

lemma Kept.of_modify (hf : ∀ row, (f row).id = row.id)
    (hr : ∀ row, row.read = true → (f row).read = true) :
    Kept db { db with commerceInboxRecords := db.commerceInboxRecords.modify f hf } := by
  refine ⟨fun k row hrow => ⟨f row, ?_, hr row⟩, fun _ w h => ⟨w, h, fun _ => id, fun _ => rfl⟩⟩
  rw [get_modify, hrow]
  rfl

variable {r : DecodedCommerceMessage} {sealedValues : List InboxCipher} {expiresAt : Option Int}
  {read : Bool} {legacy : LegacyRow} {call : CommitCall} {next : InboxWrapperRow}

lemma Kept.of_put_wrapper (hold : ∀ w, db.commerceInboxWrappers.get next.id = some w →
      (∀ url ∈ w.sources, url ∈ next.sources) ∧
        (w.state = .deleted ∨ w.state = .expired → next.state = w.state)) :
    Kept db { db with commerceInboxWrappers := db.commerceInboxWrappers.put next } := by
  refine ⟨fun _ row h => ⟨row, h, id⟩, fun k w hw => ?_⟩
  rw [get_put]
  split
  · rename_i hk
    subst hk
    exact ⟨next, rfl, hold w hw⟩
  · exact ⟨w, hw, fun _ => id, fun _ => rfl⟩

lemma Kept.receive {event : SignedEvent} {sources : List Text}
    (h : Inbox.receive P principal now event sources db = some db') : Kept db db' := by
  unfold Inbox.receive at h
  split_ifs at h
  cases h
  apply Kept.of_put_wrapper
  intro w hw
  cases hold : db.commerceInboxWrappers.get (key principal event.id) with
  | none =>
    rw [hold] at hw
    have hn : db.commerceInboxWrappers.get (key principal event.id) = some w := hw
    cases hold.symm.trans hn
  | some old =>
    have hid : old.id = key principal event.id := key_of_get hold
    rw [hold] at hw
    change db.commerceInboxWrappers.get old.id = some w at hw
    rw [hid, hold] at hw
    cases hw
    refine ⟨fun url hu => ?_, fun hst => if_pos hst⟩
    exact List.mem_eraseDups.2 (List.mem_append_left _ hu)

lemma claimedRow_cases {owner : Text} {retry : Bool} {row : InboxWrapperRow}
    (h : claimedRow principal now owner retry row = some next) :
    ¬(row.state = .deleted ∨ row.state = .expired) ∧ next.id = row.id ∧
      next.sources = row.sources := by
  simp only [claimedRow] at h
  split_ifs at h with hr
  cases h
  refine ⟨fun hst => hr (.inr ?_), rfl, rfl⟩
  exact hst.elim .inl fun h => .inr (.inl h)

lemma Kept.over {w : InboxWrapperRow} {k : Text} (hg : db.commerceInboxWrappers.get k = some w)
    (hst : w.state = .deleted ∨ w.state = .expired → next.state = w.state) (hid : next.id = w.id)
    (hso : next.sources = w.sources) :
    Kept db { db with commerceInboxWrappers := db.commerceInboxWrappers.put next } := by
  apply Kept.of_put_wrapper
  intro old hold
  have hk : next.id = k := hid.trans (key_of_get hg)
  rw [hk, hg] at hold
  cases hold
  exact ⟨fun url hu => hso ▸ hu, hst⟩

lemma Kept.claim (id owner : Text) (retry : Bool) :
    Kept db (Inbox.claim principal now id owner retry db) := by
  unfold Inbox.claim
  split
  · rename_i next hn
    obtain ⟨w, hw, hc⟩ := bind_eq_some_iff.1 hn
    obtain ⟨hl, hid, hso⟩ := claimedRow_cases hc
    exact .over hw (fun hst => absurd hst hl) hid hso
  · exact .refl db

lemma Kept.heartbeat (id owner : Text) : Kept db (Inbox.heartbeat principal now id owner db) := by
  unfold Inbox.heartbeat
  split
  · rename_i w hw
    split
    · exact .over hw (fun _ => rfl) rfl rfl
    · exact .refl db
  · exact .refl db

lemma Kept.commitRecord {wrapId : Text}
    (h : Inbox.commitRecord principal wrapId expiresAt p retained v db = some db') :
    Kept db db' := by
  obtain rfl | ⟨-, -, rfl⟩ := commitRecord_cases h
  · exact .refl _
  · refine .of_put_record (fun old hold hr => ?_) rfl rfl
    rw [show db.commerceInboxRecords.get (key principal p.id) = some old from hold]
    exact hr

lemma Kept.commit {value : Option InboxCipher}
    (h : commitTransaction principal now call retained value db = some db') : Kept db db' := by
  obtain rfl | ⟨current, next, stored, hc, -, hl, hid, hso, rfl, hsto⟩ :=
    commitTransaction_cases h
  · exact .refl _
  · have hr : Kept db stored ∧ stored.commerceInboxWrappers = db.commerceInboxWrappers := by
      rcases hsto with rfl | ⟨p, v, expiresAt, -, -, hcmt⟩
      · exact ⟨.refl _, rfl⟩
      · refine ⟨.commitRecord hcmt, ?_⟩
        obtain rfl | ⟨-, -, rfl⟩ := commitRecord_cases hcmt <;> rfl
    rw [← hr.2] at hc ⊢
    exact hr.1.trans (.over hc (fun hst => absurd hst hl) hid hso)

lemma Kept.put (h : putProjection principal p read v db = some db') : Kept db db' := by
  obtain ⟨-, rfl⟩ := putProjection_cases h
  refine .of_put_record (fun old hold hr => ?_) rfl rfl
  rw [show db.commerceInboxRecords.get (key principal p.id) = some old from hold]
  exact hr

lemma Kept.putMigrated (legacy : LegacyRow) (v : InboxCipher) :
    Kept db (Inbox.putMigrated P legacy db v) := by
  unfold Inbox.putMigrated
  split
  · exact .refl db
  · rename_i hn
    refine .of_put_record (fun old hold => ?_) rfl rfl
    rw [show db.commerceInboxRecords.get (key v.account legacy.id) = some old from hold] at hn
    cases hn

lemma Kept.migrate (legacy : LegacyRow) (values : List InboxCipher) :
    Kept db (migrateRow P legacy values db) := by
  have hf : Kept db (values.foldl (Inbox.putMigrated P legacy) db) := by
    induction values generalizing db with
    | nil => exact .refl db
    | cons v values ih => exact (Kept.putMigrated legacy v).trans ih
  refine hf.trans ?_
  cases legacy <;> exact .of_eq rfl rfl

section

variable (h : Associated principal id a db)
include h

lemma Associated.of_get (hg : ∀ row, db.commerceInboxRecords.get (key principal id) = some row →
      ∃ row', db'.commerceInboxRecords.get (key principal id) = some row' ∧
        row'.value = row.value) : Associated principal id a db' := by
  obtain ⟨row, r, hrow, hr, ha⟩ := h
  obtain ⟨row', hrow', hv⟩ := hg row hrow
  exact ⟨row', r, hrow', hv ▸ hr, ha⟩

lemma Associated.of_eq (hr : db'.commerceInboxRecords = db.commerceInboxRecords) :
    Associated principal id a db' :=
  h.of_get fun row hrow => ⟨row, hr ▸ hrow, rfl⟩

lemma Associated.of_modify (hf : ∀ row, (f row).id = row.id)
    (hv : ∀ row, (f row).value = row.value) : Associated principal id a
      { db with commerceInboxRecords := db.commerceInboxRecords.modify f hf } := by
  refine h.of_get fun row hr => ⟨f row, ?_, hv row⟩
  rw [get_modify, hr]
  rfl

lemma Associated.of_put_ne (hne : key principal id ≠ row.id) :
    Associated principal id a { db with commerceInboxRecords := db.commerceInboxRecords.put row } :=
  h.of_get fun old hold => ⟨old, (get_put_of_ne hne).trans hold, rfl⟩

lemma Associated.putMigrated (legacy : LegacyRow) (v : InboxCipher) :
    Associated principal id a (Inbox.putMigrated P legacy db v) := by
  unfold Inbox.putMigrated
  split
  · exact h
  · rename_i hn
    apply h.of_put_ne
    intro heq
    obtain ⟨row, r, hr, -⟩ := h
    rw [heq, show db.commerceInboxRecords.get (migratedRow P legacy v).id = none from hn] at hr
    cases hr

lemma Associated.migrate (legacy : LegacyRow) (values : List InboxCipher) :
    Associated principal id a (migrateRow P legacy values db) := by
  have hf : Associated principal id a (values.foldl (Inbox.putMigrated P legacy) db) := by
    induction values generalizing db with
    | nil => exact h
    | cons v values ih => exact ih (h.putMigrated legacy v)
  cases legacy <;> exact hf.of_eq rfl

end

lemma commerceRecord_eq (h : p.commerceRecord = some r) :
    p = .record r ∧ r.category = .commerce := by
  cases p with
  | record r' =>
    simp only [InboxProjection.commerceRecord] at h
    split_ifs at h with hc
    cases h
    exact ⟨rfl, hc⟩
  | _ => cases h

lemma SealedCommit.associated
    (hu : ∀ c ∈ sealedValues, ∀ d ∈ sealedValues, c.nonce = d.nonce → c = d)
    (ht : SealedCommit principal commerce sealedValues task p v)
    (hrow : SealedRow sealedValues row) (hr : row.value.value.commerceRecord = some r)
    (hc : p.commerceRecord.isSome = true)
    (hno : some row.value.nonce = task.retained.map (·.value.nonce)) :
    ∃ r', v.value.commerceRecord = some r' ∧ r'.association = r.association := by
  obtain ⟨retained, hret, heq⟩ := map_eq_some_iff.1 hno.symm
  obtain ⟨hsld, hid⟩ := ht.retained retained hret
  have hv : retained.value = row.value := hu _ hsld.1 _ hrow.1 heq
  obtain ⟨d, hd⟩ := isSome_iff_exists.1 hc
  obtain ⟨hrec, hcat⟩ := commerceRecord_eq hr
  have hk : retained.kind = .record := by
    rw [hsld.2.1, hv, hrec]
    rfl
  have ho : openCipher principal retained.value p.id = some row.value.value := by
    rw [openCipher, if_pos (hsld.2.2.trans hid), hv]
  have hn := ht.next
  rw [hret] at hn
  simp only [nextProjection, hd, if_pos hk, ho, map_some, hr] at hn
  refine ⟨{ d with association := r.association }, ?_, rfl⟩
  rw [← some.inj hn]
  exact if_pos (commerceRecord_eq hd).2

lemma Associated.commit (hs : Noted principal commerce P s) (hid : commerce id = true)
    (h : Associated principal id a s.db) (ht : task ∈ s.commits)
    (hcmt : commitTransaction principal now task.call task.retained task.value s.db = some db') :
    Associated principal id a db' := by
  obtain rfl | ⟨current, next, stored, -, -, -, -, -, rfl, hsto⟩ :=
    commitTransaction_cases hcmt
  · exact h
  · suffices Associated principal id a stored from this.of_eq rfl
    rcases hsto with rfl | ⟨p, v, expiresAt, hp, hv, hrec⟩
    · exact h
    · obtain rfl | ⟨-, hno, rfl⟩ := commitRecord_cases hrec
      · exact h
      · by_cases heq : key principal id = key principal p.id
        · -- the stored record is the one that the decode retained
          obtain rfl := key_inj heq
          have hsld := hs.commits task ht p v hp hv
          have hc : p.commerceRecord.isSome = true := hsld.decoded.trans hid
          obtain ⟨row, r, hrow, hr, rfl⟩ := h
          have hn := hno hc
          rw [hrow] at hn
          obtain ⟨r', hr', ha⟩ := hsld.associated hs.unique (hs.rows row (mem_of_get hrow))
            hr hc hn
          exact ⟨_, r', get_put_self _ _, hr', ha⟩
        · exact h.of_put_ne heq

variable {more : List InboxCipher}

lemma SealedRow.mono (h : SealedRow sealedValues row) (hsub : sealedValues ⊆ more) :
    SealedRow more row :=
  ⟨hsub h.1, h.2.1, h.2.2⟩

lemma SealedCommit.mono (h : SealedCommit principal commerce sealedValues task p v)
    (hsub : sealedValues ⊆ more) : SealedCommit principal commerce more task p v :=
  { h with
    mem := hsub h.mem
    retained := fun row hr => ⟨(h.retained row hr).1.mono hsub, (h.retained row hr).2⟩ }

lemma SealedPut.mono {task : PutTask} (h : SealedPut principal commerce sealedValues task)
    (hsub : sealedValues ⊆ more) : SealedPut principal commerce more task :=
  { h with mem := hsub h.mem }

lemma SealedMigration.mono {old : LegacyRow} (h : SealedMigration P sealedValues old v)
    (hsub : sealedValues ⊆ more) : SealedMigration P more old v :=
  { h with mem := hsub h.mem }

lemma SealedRow.stored {wrapId : Option Text} (hm : v ∈ sealedValues)
    (ha : v.account = principal) (hid : v.id = p.id) (hk : v.value.kind = p.kind) :
    SealedRow sealedValues (storedRow principal p v wrapId expiresAt read) := by
  refine ⟨hm, hk.symm, ?_⟩
  change key v.account v.id = key principal p.id
  rw [ha, hid]

def SealedRows (sealedValues : List InboxCipher) (db : InboxDb) : Prop :=
  ∀ row ∈ db.commerceInboxRecords.rows, SealedRow sealedValues row

section

variable (h : SealedRows sealedValues db)
include h

lemma SealedRows.put (hrow : SealedRow sealedValues row)
    (hr : db'.commerceInboxRecords = db.commerceInboxRecords.put row) :
    SealedRows sealedValues db' := by
  intro other ho
  rw [hr, mem_put] at ho
  rcases ho with rfl | ⟨hold, -⟩
  · exact hrow
  · exact h other hold

lemma SealedRows.of_eq (hr : db'.commerceInboxRecords = db.commerceInboxRecords) :
    SealedRows sealedValues db' :=
  fun row hrow => h row (hr ▸ hrow)

lemma SealedRows.of_modify (hf : ∀ row, (f row).id = row.id)
    (hv : ∀ row, (f row).value = row.value) (hki : ∀ row, (f row).kind = row.kind) :
    SealedRows sealedValues
      { db with commerceInboxRecords := db.commerceInboxRecords.modify f hf } := by
  intro row hr
  obtain ⟨old, hold, rfl⟩ := List.mem_map.1 hr
  obtain ⟨hm, hk, hkey⟩ := h old hold
  refine ⟨?_, ?_, ?_⟩
  · rw [hv]
    exact hm
  · rw [hv, hki]
    exact hk
  · rw [hv, hf]
    exact hkey

lemma SealedRows.putMigrated (hv : SealedMigration P sealedValues legacy v) :
    SealedRows sealedValues (Inbox.putMigrated P legacy db v) := by
  unfold Inbox.putMigrated
  split
  · exact h
  · have hr : SealedRow sealedValues (migratedRow P legacy v) := by
      refine ⟨hv.mem, ?_, ?_⟩
      · change (legacyProjection P legacy).kind = v.value.kind
        rw [hv.value]
      · change key v.account v.id = key v.account legacy.id
        rw [hv.id]
    exact h.put hr rfl

lemma SealedRows.migrate {values : List InboxCipher}
    (hv : ∀ v ∈ values, SealedMigration P sealedValues legacy v) :
    SealedRows sealedValues (migrateRow P legacy values db) := by
  have hf : SealedRows sealedValues (values.foldl (Inbox.putMigrated P legacy) db) := by
    induction values generalizing db with
    | nil => exact h
    | cons v values ih =>
      rw [List.forall_mem_cons] at hv
      exact ih (h.putMigrated hv.1) hv.2
  cases legacy <;> exact hf.of_eq rfl

end

lemma nextProjection_kind {p next : InboxProjection}
    (h : nextProjection principal p retained = some next) : next.kind = p.kind := by
  unfold nextProjection at h
  split at h
  · rename_i r row hr
    obtain ⟨rfl, -⟩ := commerceRecord_eq hr
    split_ifs at h
    · obtain ⟨saved, -, rfl⟩ := map_eq_some_iff.1 h
      split <;> rfl
    · cases h
      rfl
  · cases h
    rfl

lemma SealedRows.commit (hs : Noted principal commerce P s) (ht : task ∈ s.commits)
    (hc : commitTransaction principal now task.call task.retained task.value s.db = some db') :
    SealedRows s.sealedValues db' := by
  have hr : SealedRows s.sealedValues s.db := hs.rows
  obtain rfl | ⟨current, next, stored, -, -, -, -, -, rfl, hsto⟩ :=
    commitTransaction_cases hc
  · exact hr
  · suffices SealedRows s.sealedValues stored from this.of_eq rfl
    rcases hsto with rfl | ⟨p, v, expiresAt, hp, hv, hrec⟩
    · exact hr
    · obtain rfl | ⟨-, -, rfl⟩ := commitRecord_cases hrec
      · exact hr
      · have hsld := hs.commits task ht p v hp hv
        exact hr.put (.stored hsld.mem hsld.account hsld.id
          (nextProjection_kind hsld.next)) rfl

structure NoteFacts (P : StorePlatform) (principal : Text) (commerce : Text → Bool)
    (s t : InboxTabs) : Prop where
  kept : Kept s.db t.db
  mono : s.sealedValues ⊆ t.sealedValues
  unique : ∀ c ∈ t.sealedValues, ∀ d ∈ t.sealedValues, c.nonce = d.nonce → c = d
  rows : SealedRows t.sealedValues t.db
  commits : ∀ task ∈ t.commits, task ∈ s.commits ∨ ∀ p v, task.call.target = some p →
    task.value = some v → SealedCommit principal commerce t.sealedValues task p v
  puts : ∀ task ∈ t.puts, task ∈ s.puts ∨ SealedPut principal commerce t.sealedValues task
  migrations : ∀ task ∈ t.migrations, task ∈ s.migrations ∨ ∀ old rest values,
    task.rest = old :: rest → task.values = some values →
      ∀ v ∈ values, SealedMigration P t.sealedValues old v
  associated : ∀ id a, t.associated.lookup id = some a →
    commerce id = true ∧ Associated principal id a t.db

lemma NoteFacts.noted (h : NoteFacts P principal commerce s t)
    (hs : Noted principal commerce P s) : Noted principal commerce P t where
  unique := h.unique
  rows := h.rows
  commits task ht p v hp hv :=
    (h.commits task ht).elim (fun hold => (hs.commits task hold p v hp hv).mono h.mono)
      fun hn => hn p v hp hv
  puts task ht := (h.puts task ht).elim (fun hold => (hs.puts task hold).mono h.mono) id
  migrations task ht old rest values hr hva v hv :=
    (h.migrations task ht).elim
      (fun hold => (hs.migrations task hold old rest values hr hva v hv).mono h.mono)
      fun hn => hn old rest values hr hva v hv
  associated := h.associated

section

variable (hs : Noted principal commerce P s)
include hs

lemma NoteFacts.of_db (hk : Kept s.db t.db) (hr : SealedRows s.sealedValues t.db)
    (ha : ∀ id a, commerce id = true → Associated principal id a s.db →
      Associated principal id a t.db) (hsld : t.sealedValues = s.sealedValues)
    (hl : t.associated = s.associated) (hc : t.commits ⊆ s.commits)
    (hp : t.puts ⊆ s.puts) (hm : t.migrations ⊆ s.migrations) :
    NoteFacts P principal commerce s t where
  kept := hk
  mono := by rw [hsld]; exact .refl _
  unique := by rw [hsld]; exact hs.unique
  rows := by rw [hsld]; exact hr
  commits _ ht := .inl (hc ht)
  puts _ ht := .inl (hp ht)
  migrations _ ht := .inl (hm ht)
  associated id a hlk := by
    rw [hl] at hlk
    obtain ⟨hcom, h⟩ := hs.associated id a hlk
    exact ⟨hcom, ha id a hcom h⟩

lemma NoteFacts.of_seal (hdb : t.db = s.db) (hl : t.associated = s.associated)
    (values : List InboxCipher) (hsld : t.sealedValues = values ++ s.sealedValues)
    (hf : Fresh s (values.map (·.nonce)))
    (hcom : ∀ task ∈ t.commits, task ∈ s.commits ∨ ∀ p v, task.call.target = some p →
      task.value = some v → SealedCommit principal commerce t.sealedValues task p v)
    (hp : ∀ task ∈ t.puts, task ∈ s.puts ∨ SealedPut principal commerce t.sealedValues task)
    (hmig : ∀ task ∈ t.migrations, task ∈ s.migrations ∨ ∀ old rest values,
      task.rest = old :: rest → task.values = some values →
        ∀ v ∈ values, SealedMigration P t.sealedValues old v) :
    NoteFacts P principal commerce s t := by
  have hm : s.sealedValues ⊆ t.sealedValues := by
    rw [hsld]
    exact List.subset_append_right _ _
  refine ⟨hdb ▸ .refl _, hm, ?_, ?_, hcom, hp, hmig, ?_⟩
  · rw [hsld]
    intro c hc d hd hn
    rcases List.mem_append.1 hc with hc | hc <;> rcases List.mem_append.1 hd with hd | hd
    · exact List.inj_on_of_nodup_map hf.1 hc hd hn
    · exact absurd hn.symm (hf.2 _ (List.mem_map_of_mem hc) d hd)
    · exact absurd hn (hf.2 _ (List.mem_map_of_mem hd) c hc)
    · exact hs.unique c hc d hd hn
  · rw [hdb]
    exact fun row hr => (hs.rows row hr).mono hm
  · rw [hdb, hl]
    exact hs.associated

lemma NoteFacts.commitSeal {nonce : Nat} (hd : ∀ p ∈ call.projection, Decoded commerce p)
    (h : Inbox.commitSeal principal call nonce s = some t) :
    NoteFacts P principal commerce s t := by
  unfold Inbox.commitSeal at h
  split at h
  · rename_i htgt
    cases h
    refine .of_seal hs rfl rfl [] rfl ⟨List.nodup_nil, fun _ hn => (by cases hn)⟩
      (fun task ht => ?_) (fun _ => .inl) fun _ => .inl
    rcases List.mem_cons.1 ht with rfl | hold
    · exact .inr fun _ _ _ hva => (by cases hva)
    · exact .inl hold
  · rename_i p htgt
    simp only [run_gives] at h
    obtain ⟨hf, next, hne, heq⟩ := h
    cases heq
    refine .of_seal hs rfl rfl [⟨nonce, principal, p.id, next⟩] rfl hf
      (fun task ht => ?_) (fun _ => .inl) fun _ => .inl
    rcases List.mem_cons.1 ht with rfl | hold
    · refine .inr fun q v hq hv => ?_
      obtain rfl : p = q := some.inj (htgt.symm.trans hq)
      cases hv
      refine ⟨hd p (target_eq htgt), .head _, rfl, rfl, hne, ?_⟩
      intro row hr
      have hg : s.db.commerceInboxRecords.get (key principal p.id) = some row := by
        unfold retainedRow at hr
        split at hr
        · exact hr
        · cases hr
      refine ⟨(hs.rows row (mem_of_get hg)).mono ?_, key_of_get hg⟩
      exact List.subset_cons_self _ _
    · exact .inl hold

lemma NoteFacts.commit (h : commitRun principal task s = some t) :
    NoteFacts P principal commerce s t := by
  simp only [commitRun, run_gives] at h
  obtain ⟨ht, h⟩ := h
  split at h <;> obtain rfl := some.inj h
  · rename_i db' hc
    exact .of_db hs (.commit hc) (.commit hs ht hc)
      (fun id a hid ha => ha.commit hs hid ht hc) rfl rfl
      List.erase_subset (.refl _) (.refl _)
  · exact .of_db hs (.refl _) hs.rows (fun _ _ _ => id) rfl rfl List.erase_subset
      (.refl _) (.refl _)

lemma NoteFacts.putSeal {nonce : Nat} (hd : Decoded commerce p)
    (h : Inbox.putSeal principal p read nonce s = some t) : NoteFacts P principal commerce s t := by
  simp only [Inbox.putSeal, run_gives] at h
  obtain ⟨hf, heq⟩ := h
  cases heq
  refine .of_seal hs rfl rfl [⟨nonce, principal, p.id, p⟩] rfl hf
    (fun _ => .inl) (fun task ht => ?_) fun _ => .inl
  rcases List.mem_cons.1 ht with rfl | hold
  · exact .inr ⟨hd, .head _, rfl, rfl, rfl⟩
  · exact .inl hold

lemma Associated.put {task : PutTask} (ht : task ∈ s.puts)
    (hput : putProjection principal task.projection task.read task.value s.db = some db')
    (hlk : List.lookup id (match task.projection.commerceRecord with
      | some r => (r.provenance.rumorId, r.association) :: s.associated
      | none => s.associated) = some a) : commerce id = true ∧ Associated principal id a db' := by
  have hsld := hs.puts task ht
  obtain ⟨-, rfl⟩ := putProjection_cases hput
  by_cases hsa : id = task.projection.id
  · subst hsa
    cases hr : task.projection.commerceRecord with
    | some r =>
      obtain ⟨hp, -⟩ := commerceRecord_eq hr
      have hid : task.projection.id = r.provenance.rumorId := by
        rw [hp]
        rfl
      rw [hr] at hlk
      simp only [hid, List.lookup_cons_self] at hlk
      refine ⟨by rw [← hsld.decoded, hr]; rfl, _, r, get_put_self _ _, ?_, some.inj hlk⟩
      change task.value.value.commerceRecord = some r
      rw [hsld.value, hr]
    | none =>
      -- an id with an association is a commerce record's
      rw [hr] at hlk
      have hc := (hs.associated _ a hlk).1
      rw [← hsld.decoded, hr] at hc
      cases hc
  · have hold : s.associated.lookup id = some a := by
      cases hr : task.projection.commerceRecord with
      | some r =>
        obtain ⟨hp, -⟩ := commerceRecord_eq hr
        have hid : task.projection.id = r.provenance.rumorId := by
          rw [hp]
          rfl
        rw [hr] at hlk
        have hne : (id == r.provenance.rumorId) = false := by simpa [hid] using hsa
        simpa only [List.lookup_cons, hne] using hlk
      | none =>
        rw [hr] at hlk
        exact hlk
    obtain ⟨hc, ha⟩ := hs.associated id a hold
    exact ⟨hc, ha.of_put_ne fun heq => hsa (key_inj heq)⟩

lemma NoteFacts.put {task : PutTask} (h : putRun principal task s = some t) :
    NoteFacts P principal commerce s t := by
  simp only [putRun, run_gives] at h
  obtain ⟨ht, h⟩ := h
  split at h <;> obtain rfl := some.inj h
  · rename_i db' hp
    have hsld := hs.puts task ht
    have hr : SealedRows s.sealedValues db' := by
      have hold : SealedRows s.sealedValues s.db := hs.rows
      obtain ⟨-, rfl⟩ := putProjection_cases hp
      refine hold.put (.stored hsld.mem hsld.account hsld.id ?_) rfl
      rw [hsld.value]
    exact ⟨.put hp, .refl _, hs.unique, hr, fun _ => .inl,
      fun _ hm => .inl (List.mem_of_mem_erase hm), fun _ => .inl,
      fun id a hlk => Associated.put hs ht hp hlk⟩
  · exact .of_db hs (.refl _) hs.rows (fun _ _ _ => id) rfl rfl (.refl _)
      List.erase_subset (.refl _)

variable {task : MigrateTask}

lemma NoteFacts.migrateSeal {nonces : List Nat} (h : Inbox.migrateSeal P task nonces s = some t) :
    NoteFacts P principal commerce s t := by
  simp only [Inbox.migrateSeal, run_gives] at h
  obtain ⟨⟨-, -, hf⟩, legacy, hh, hl, heq⟩ := h
  cases heq
  have hn : (sealLegacy P legacy nonces).map (·.nonce) = nonces := by
    unfold sealLegacy
    rw [List.map_map]
    exact List.map_snd_zip hl.le
  refine .of_seal hs rfl rfl _ rfl (hn.symm ▸ hf) (fun _ => .inl) (fun _ => .inl)
    fun other ho => ?_
  rcases List.mem_cons.1 ho with rfl | hold
  · refine .inr fun old rest values hr hva v hv => ?_
    cases hva
    rw [hr] at hh
    cases hh
    refine ⟨List.mem_append_left _ hv, ?_, mem_sealLegacy hv⟩
    obtain ⟨⟨account, nonce⟩, -, rfl⟩ := List.mem_map.1 hv
    rfl
  · exact .inl (List.mem_of_mem_erase hold)

lemma NoteFacts.migrate (h : migrateRun P task s = some t) :
    NoteFacts P principal commerce s t := by
  simp only [migrateRun, run_gives] at h
  obtain ⟨ht, h⟩ := h
  split at h
  · rename_i legacy rest values hr hv
    cases h
    have hsld := hs.migrations task ht legacy rest values hr hv
    have hold : SealedRows s.sealedValues s.db := hs.rows
    refine ⟨.migrate legacy values, .refl _, hs.unique, hold.migrate hsld,
      fun _ => .inl, fun _ => .inl, fun other ho => ?_, fun id a hlk => ?_⟩
    · rcases List.mem_cons.1 ho with rfl | hm
      · exact .inr fun _ _ _ _ hn => (by cases hn)
      · exact .inl (List.mem_of_mem_erase hm)
    · obtain ⟨hc, ha⟩ := hs.associated id a hlk
      exact ⟨hc, ha.migrate legacy values⟩
  · cases h

lemma NoteFacts.of_records (hk : Kept s.db db')
    (hr : db'.commerceInboxRecords = s.db.commerceInboxRecords) :
    NoteFacts P principal commerce s { s with db := db' } := by
  have hro : SealedRows s.sealedValues s.db := hs.rows
  exact .of_db hs hk (hro.of_eq hr) (fun _ _ _ h => h.of_eq hr) rfl rfl
    (.refl _) (.refl _) (.refl _)

end

lemma NoteFacts.of_modify (deletes : List DeleteTask) (hs : Noted principal commerce P s)
    (hf : ∀ row, (f row).id = row.id) (hv : ∀ row, (f row).value = row.value)
    (hk : ∀ row, (f row).kind = row.kind) (hr : ∀ row, row.read = true → (f row).read = true)
    : NoteFacts P principal commerce s { s with
      db := { s.db with commerceInboxRecords := s.db.commerceInboxRecords.modify f hf }
      deletes := deletes } := by
  have hro : SealedRows s.sealedValues s.db := hs.rows
  exact .of_db hs (.of_modify hf hr) (hro.of_modify hf hv hk)
    (fun _ _ _ h => h.of_modify hf hv) rfl rfl (.refl _) (.refl _)
    (.refl _)

lemma claim_records (id owner : Text) (retry : Bool) :
    (Inbox.claim principal now id owner retry db).commerceInboxRecords =
      db.commerceInboxRecords := by
  unfold Inbox.claim
  split <;> rfl

lemma heartbeat_records (id owner : Text) :
    (Inbox.heartbeat principal now id owner db).commerceInboxRecords = db.commerceInboxRecords := by
  unfold Inbox.heartbeat
  split
  · split <;> rfl
  · rfl

lemma DecodedStep.facts {a : Action} (hs : Noted principal commerce P s)
    (h : DecodedStep P principal commerce a s t) : NoteFacts P principal commerce s t := by
  obtain ⟨hd, hst⟩ := h
  have hu : ∀ {u : InboxTabs}, u.db = s.db → u.sealedValues = s.sealedValues →
      u.associated = s.associated → u.commits = s.commits → u.puts = s.puts →
      u.migrations = s.migrations → NoteFacts P principal commerce s u := by
    intro u hdb hsld hl hc hp hm
    refine .of_db hs (hdb ▸ .refl _) (hdb ▸ hs.rows) (fun _ _ _ h => hdb ▸ h) hsld hl ?_ ?_ ?_
    · exact hc ▸ .refl _
    · exact hp ▸ .refl _
    · exact hm ▸ .refl _
  cases a with
  | tick now =>
    simp only [Step, InboxTabs.next] at hst
    split_ifs at hst
    cases hst
    exact hu rfl rfl rfl rfl rfl rfl
  | receive event sources =>
    obtain ⟨db', hdb, rfl⟩ := map_eq_some_iff.1 hst
    refine .of_records hs (.receive hdb) ?_
    unfold Inbox.receive at hdb
    split_ifs at hdb
    cases hdb
    rfl
  | claim id owner retry =>
    cases hst
    exact .of_records hs (.claim id owner retry) (claim_records id owner retry)
  | heartbeat id owner =>
    cases hst
    exact .of_records hs (.heartbeat id owner) (heartbeat_records id owner)
  | markRead ids =>
    cases hst
    refine .of_modify s.deletes hs _ (fun row => ?_) (fun row => ?_) fun row hr => ?_
    · split <;> rfl
    · split <;> rfl
    · split
      · rfl
      · exact hr
  | commitSeal call nonce => exact .commitSeal hs hd hst
  | commit task => exact .commit hs hst
  | putSeal p read nonce => exact .putSeal hs hd hst
  | put task => exact .put hs hst
  | deleteRecords ids author =>
    cases hst
    exact .of_db hs (.of_eq rfl rfl) hs.rows (fun _ _ _ h => h.of_eq rfl) rfl rfl
      (.refl _) (.refl _) (.refl _)
  | deleteRead task =>
    simp only [Step, InboxTabs.next, Inbox.deleteRead, run_gives] at hst
    obtain ⟨-, marks, -, heq⟩ := hst
    cases heq
    exact hu rfl rfl rfl rfl rfl rfl
  | deleteMark task =>
    simp only [Step, InboxTabs.next, Inbox.deleteMark, run_gives] at hst
    obtain ⟨-, hst⟩ := hst
    split at hst
    · cases hst
      refine .of_modify _ hs _ (fun row => ?_) (fun row => ?_) fun row hr => ?_
      · split <;> rfl
      · split <;> rfl
      · split
        · exact hr
        · exact hr
    · cases hst
  | deleteReturn task =>
    simp only [Step, InboxTabs.next, Inbox.deleteReturn, run_gives] at hst
    obtain ⟨-, heq⟩ := hst
    cases heq
    exact hu rfl rfl rfl rfl rfl rfl
  | migrateRead =>
    cases hst
    refine ⟨.refl _, .refl _, hs.unique, hs.rows, fun _ => .inl, fun _ => .inl,
      fun task ht => ?_, hs.associated⟩
    rcases List.mem_cons.1 ht with rfl | hold
    · exact .inr fun _ _ _ _ hv => (by cases hv)
    · exact .inl hold
  | migrateSeal task nonces => exact .migrateSeal hs hst
  | migrate task => exact .migrate hs hst

lemma Begun.noted (h : Begun s) : Noted principal commerce P s where
  unique := h.unique
  rows := h.rows
  commits := by simp [h.commits]
  puts := by simp [h.puts]
  migrations := by simp [h.migrations]
  associated := by simp [h.associated]

lemma commit_taken_over (h : commitRun principal task s = some t)
    (hc : ∀ current, s.db.commerceInboxWrappers.get task.call.row.id = some current →
      current.claim.map (·.owner) ≠ some task.call.owner) : t.db = s.db := by
  simp only [commitRun, run_gives] at h
  obtain ⟨-, h⟩ := h
  split at h <;> obtain rfl := some.inj h
  · rename_i db' hcmt
    obtain rfl | ⟨current, next, stored, hcur, ho, -⟩ := commitTransaction_cases hcmt
    · rfl
    · exact absurd ho (hc current hcur)
  · rfl

def estimateWrap : SignedEvent where
  id := "5d8761c56d7bfbdece9d4c45277261427aa70d341378230c1968b0d9613d1afd"
  pubkey := "93ca89034082881ff7abaacee1c8be7105b79c7bf4e328ddf75ea71d9da250f3"
  createdAt := 1699990000
  kind := 1059
  tags := [["p", messageMerchant]]
  content := "AgUsealed"
  sig := hexText 128 0xf7d82e931afb192f6f3eba51135345e8e43566da0363ee47440e79679dbe70f49382340c01c13285521e0aa0a68880cdcbc4104d2d0239d2f0d8bbda0755c411

def estimateId : Text := "a614758c9b6427a349e448e0c635d1f3a2cf7ee9e738b5a07ffb1655d6951de0"

def estimateRecord (association : Option Text) : InboxProjection :=
  .record ⟨.commerce, ⟨estimateId, messageBuyer, some 1700000000⟩, association, "Thursday"⟩

def estimateKey : Text := key messageMerchant estimateWrap.id

def estimateCall (owner : Text) : CommitCall where
  row := receivedRow messageMerchant 1700000100000 estimateWrap ["wss://relay.example/"] none
  owner := owner
  state := .unsupported
  projection := some (estimateRecord none)
  innerExpiresAt := none

def estimateCipher (nonce : Nat) (association : Option Text) : InboxCipher :=
  ⟨nonce, messageMerchant, estimateId, estimateRecord association⟩

def estimateRow (read : Bool) (value : InboxCipher) : InboxProjectionRow :=
  storedRow messageMerchant (estimateRecord none) value (some estimateWrap.id) none read

def estimatePut : PutTask :=
  ⟨estimateRecord (some "order-7".toList), false, estimateCipher 3 (some "order-7".toList)⟩

def estimateOpened : List Action :=
  [.receive estimateWrap ["wss://relay.example/"], .claim estimateKey "tab-1" false,
    .commitSeal (estimateCall "tab-1") 1,
    .commit ⟨estimateCall "tab-1", none, some (estimateCipher 1 none)⟩, .markRead [estimateId]]

/-- The second tab's first attempt finds the association that was put meanwhile. -/
def estimateReopened : List Action :=
  [.claim estimateKey "tab-2" true, .commitSeal (estimateCall "tab-2") 2,
    .putSeal (estimateRecord (some "order-7".toList)) false 3, .put estimatePut,
    .commit ⟨estimateCall "tab-2", some (estimateRow true (estimateCipher 1 none)),
      some (estimateCipher 2 none)⟩,
    .commitSeal (estimateCall "tab-2") 4,
    .commit ⟨estimateCall "tab-2",
      some (estimateRow true (estimateCipher 3 (some "order-7".toList))),
      some (estimateCipher 4 (some "order-7".toList))⟩]

end Conduit.Inbox
