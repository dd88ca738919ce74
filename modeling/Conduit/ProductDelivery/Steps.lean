import Conduit.ProductDelivery.RemovalGrowth

namespace Conduit.ProductDelivery

open Js Runs Stock Throwing List Table Option

structure Later (s t : Outboxes) : Prop where
  listings : ∀ j ∈ s.listings.rows, ∃ k ∈ t.listings.rows, ListingGrows j k
  deletions : ∀ j ∈ s.deletions.rows, ∃ k ∈ t.deletions.rows, DeletionGrows j k
  log : ∀ e ∈ s.log, e ∈ t.log

lemma Later.refl (s : Outboxes) : Later s s :=
  ⟨fun j hj => ⟨j, hj, .refl j⟩, fun j hj => ⟨j, hj, .refl j⟩, fun _ he => he⟩

lemma Later.trans {s t u : Outboxes} (h : Later s t) (h' : Later t u) : Later s u := by
  refine ⟨fun j hj => ?_, fun j hj => ?_, fun e he => h'.log e (h.log e he)⟩
  · obtain ⟨k, hk, hjk⟩ := h.listings j hj
    obtain ⟨l, hl, hkl⟩ := h'.listings k hk
    exact ⟨l, hl, hjk.trans hkl⟩
  · obtain ⟨k, hk, hjk⟩ := h.deletions j hj
    obtain ⟨l, hl, hkl⟩ := h'.deletions k hk
    exact ⟨l, hl, hjk.trans hkl⟩

variable (s : Outboxes)

variable (log : List Event)

def FamilyAcked (listingId : Text) : Prop :=
  ∃ l ∈ s.listings.rows, l.id = listingId ∧ l.signedEvents ≠ [] ∧ ∃ target ∈ l.relayTargets,
    ∀ event ∈ l.signedEvents, .listingAcked listingId event.id target.relayUrl ∈ log

def Shipped (job : ListingJob) (relayUrl : Text) : Prop :=
  ∀ id ∈ job.prerequisiteShippingEventIds, .shippingAcked id relayUrl ∈ log

def ListingPhase.relay : ListingPhase → Option Text
  | .loaded | .waiting _ _ => none
  | .admitted _ relayUrl | .claimed _ relayUrl | .started _ relayUrl | .answering _ relayUrl
  | .recording _ relayUrl _ => some relayUrl

structure ListingTaskOk (s : Outboxes) (task : ListingTask) : Prop where
  stored : ∃ row ∈ s.listings.rows, ListingGrows task.stored row
  shipped : ∀ relayUrl ∈ task.phase.relay, Shipped s.log task.stored relayUrl

def Released (job : DeletionJob) : Prop :=
  ∀ listingId ∈ job.companionListingJobId, FamilyAcked s log listingId

def DeletionTaskOk (task : DeletionTask) : Prop :=
  ∃ row ∈ s.deletions.rows, row.id = task.id ∧ match task.phase with
    | .loaded stored => DeletionGrows stored row
    | .attempted current _ _ _ => DeletionGrows current row ∧ Released s s.log row
    | _ => Released s s.log row

def EventOk (earlier : List Event) : Event → Prop
  | .listingPublished id event relayUrl => ∃ row ∈ s.listings.rows, row.id = id ∧
    event ∈ row.signedEvents ∧ (∃ target ∈ row.relayTargets, target.relayUrl = relayUrl) ∧
    Shipped earlier row relayUrl
  | .deletionPublished id event relayUrl => ∃ row ∈ s.deletions.rows, row.id = id ∧
    event = row.signedEvent ∧ (∃ target ∈ row.relayPlan, target.relayUrl = relayUrl) ∧
    Released s earlier row
  | _ => True

def LogOk (s : Outboxes) : List Event → Prop
  | [] => True
  | e :: earlier => EventOk s earlier e ∧ LogOk s earlier

structure Inv (P : DeliveryPlatform) (s : Outboxes) : Prop where
  listings : ∀ job ∈ s.listings.rows, ListingOk job
  acks : ∀ job ∈ s.listings.rows, ∀ d ∈ job.relayDelivery, d.status = .acked →
    .listingAcked job.id d.eventId d.relayUrl ∈ s.log
  deletions : ∀ job ∈ s.deletions.rows, DeletionOk P job
  shipping : ∀ row ∈ s.shipping.rows, ∀ relayUrl ∈ row.acknowledgedRelayUrls,
    .shippingAcked row.id relayUrl ∈ s.log
  listingRuns : ∀ task ∈ s.listingRuns, ListingTaskOk s task
  deletionRuns : ∀ task ∈ s.deletionRuns.rows, DeletionTaskOk s task
  log : LogOk s s.log

lemma Inv.start (P : DeliveryPlatform) : Inv P .start :=
  ⟨fun _ h => absurd h not_mem_nil, fun _ h => absurd h not_mem_nil,
    fun _ h => absurd h not_mem_nil, fun _ h => absurd h not_mem_nil,
    fun _ h => absurd h not_mem_nil, fun _ h => absurd h not_mem_nil, trivial⟩

section
variable {P : DeliveryPlatform} {s t : Outboxes} {log log' : List Event} {id : Text}

lemma FamilyAcked.later (h : FamilyAcked s log id) (hlat : Later s t)
    (hlog : ∀ e ∈ log, e ∈ log') : FamilyAcked t log' id := by
  obtain ⟨l, hl, hid, hne, target, ht, ha⟩ := h
  obtain ⟨k, hk, hg⟩ := hlat.listings l hl
  obtain ⟨heq, -, he, htar, -⟩ := hg.intent
  refine ⟨k, hk, heq.trans hid, by rw [he]; exact hne, target, by rw [htar]; exact ht,
    fun event hev => hlog _ (ha event ?_)⟩
  rwa [he] at hev

lemma Released.later {j k : DeletionJob} (h : Released s log j) (hl : Later s t)
    (hg : DeletionGrows j k) (hlog : ∀ e ∈ log, e ∈ log') : Released t log' k := by
  intro listingId hid
  rw [hg.companion] at hid
  exact (h listingId hid).later hl hlog

lemma ListingTaskOk.later {task : ListingTask} (h : ListingTaskOk s task) (hl : Later s t) :
    ListingTaskOk t task := by
  obtain ⟨row, hrow, hg⟩ := h.stored
  obtain ⟨k, hk, hg'⟩ := hl.listings row hrow
  exact ⟨⟨k, hk, hg.trans hg'⟩, fun relayUrl hr eid hid =>
    hl.log _ (h.shipped relayUrl hr eid hid)⟩

variable {task : DeletionTask} {e : Event}

lemma DeletionTaskOk.later (h : DeletionTaskOk s task) (hl : Later s t) :
    DeletionTaskOk t task := by
  obtain ⟨row, hr, hid, hph⟩ := h
  obtain ⟨k, hk, hg⟩ := hl.deletions row hr
  refine ⟨k, hk, hg.id.trans hid, ?_⟩
  revert hph
  cases task.phase with
  | loaded stored => exact fun hph => hph.trans hg
  | attempted current relayUrl rest attemptAt =>
    exact fun hph => ⟨hph.1.trans hg, hph.2.later hl hg hl.log⟩
  | _ => exact fun hph => hph.later hl hg hl.log

lemma EventOk.later {earlier : List Event} (h : EventOk s earlier e) (hl : Later s t) :
    EventOk t earlier e := by
  cases e with
  | listingPublished id event relayUrl =>
    obtain ⟨row, hr, hid, hev, ⟨target, ht, hu⟩, hs⟩ := h
    obtain ⟨k, hk, hg⟩ := hl.listings row hr
    obtain ⟨heq, -, heven, htar, -, -, hp⟩ := hg.intent
    refine ⟨k, hk, heq.trans hid, by rw [heven]; exact hev,
      ⟨target, by rw [htar]; exact ht, hu⟩, fun id hid => hs id ?_⟩
    rwa [hp] at hid
  | deletionPublished id event relayUrl =>
    obtain ⟨row, hr, hid, hev, ⟨target, ht, hu⟩, hrel⟩ := h
    obtain ⟨k, hk, hg⟩ := hl.deletions row hr
    exact ⟨k, hk, hg.id.trans hid, hev.trans hg.signedEvent.symm,
      ⟨target, by rw [hg.relayPlan]; exact ht, hu⟩,
      hrel.later hl hg fun _ he => he⟩
  | listingAcked id eventId relayUrl => trivial
  | shippingAcked eventId relayUrl => trivial

lemma LogOk.later (h : LogOk s log) (hl : Later s t) : LogOk t log := by
  induction log with
  | nil => trivial
  | cons e log ih => exact ⟨h.1.later hl, ih h.2⟩

lemma LogOk.append {extra : List Event} (h : LogOk s log)
    (hextra : ∀ e ∈ extra, ∀ earlier, EventOk s earlier e) : LogOk s (extra ++ log) := by
  induction extra with
  | nil => exact h
  | cons e extra ih =>
    exact ⟨hextra e mem_cons_self _, ih fun e' he' => hextra e' (mem_cons_of_mem _ he')⟩

lemma Later.of_eq (hl : t.listings = s.listings) (hd : t.deletions = s.deletions)
    (hlog : t.log = s.log) : Later s t := by
  refine ⟨fun j hj => ⟨j, ?_, .refl j⟩, fun j hj => ⟨j, ?_, .refl j⟩, fun e he => ?_⟩
  · rwa [hl]
  · rwa [hd]
  · rwa [hlog]

section

variable (h : Inv P s)
include h

lemma Inv.setListingRuns {runs : List ListingTask} (hr : ∀ task ∈ runs, ListingTaskOk s task) :
    Inv P { s with listingRuns := runs } := by
  have hl : Later s { s with listingRuns := runs } := .of_eq rfl rfl rfl
  exact ⟨h.listings, h.acks, h.deletions, h.shipping, fun task ht => (hr task ht).later hl,
    fun task ht => (h.deletionRuns task ht).later hl, h.log.later hl⟩

lemma Inv.moveListing {task : ListingTask} {next : List ListingTask}
    (hn : ∀ other ∈ next, ListingTaskOk s other) : Inv P (s.moveListing task next) := by
  refine h.setListingRuns fun other ho => ?_
  rcases mem_append.1 ho with hnew | hold
  · exact hn other hnew
  · exact h.listingRuns other (mem_of_mem_erase hold)

lemma Inv.setDeletionRuns {runs : Table DeletionTask DeletionTask.key}
    (hr : ∀ task ∈ runs.rows, DeletionTaskOk s task) : Inv P { s with deletionRuns := runs } := by
  have hl : Later s { s with deletionRuns := runs } := .of_eq rfl rfl rfl
  exact ⟨h.listings, h.acks, h.deletions, h.shipping,
    fun task ht => (h.listingRuns task ht).later hl,
    fun task ht => (hr task ht).later hl, h.log.later hl⟩

lemma Inv.moveDeletion {phase : DeletionPhase}
    (hn : DeletionTaskOk s { task with phase := phase }) :
    Inv P (s.moveDeletion task phase) := by
  refine h.setDeletionRuns fun other ho => ?_
  rcases mem_put.1 ho with rfl | ⟨hold, -⟩
  · exact hn
  · exact h.deletionRuns other hold

lemma Inv.endDeletion (task : DeletionTask) : Inv P (s.endDeletion task) :=
  h.setDeletionRuns fun other ho => h.deletionRuns other (mem_remove.1 ho).1

lemma Inv.setClock (now : Int) : Inv P { s with clock := now } := by
  have hl : Later s { s with clock := now } := .of_eq rfl rfl rfl
  exact ⟨h.listings, h.acks, h.deletions, h.shipping,
    fun task ht => (h.listingRuns task ht).later hl,
    fun task ht => (h.deletionRuns task ht).later hl, h.log.later hl⟩

lemma Inv.log_cons (he : EventOk s s.log e) : Inv P { s with log := e :: s.log } := by
  have hl : Later s { s with log := e :: s.log } :=
    ⟨fun j hj => ⟨j, hj, .refl j⟩, fun j hj => ⟨j, hj, .refl j⟩,
      fun _ hm => .tail _ hm⟩
  exact ⟨h.listings, fun job hjob d hd ha => hl.log _ (h.acks job hjob d hd ha),
    h.deletions, fun row hr url hu => hl.log _ (h.shipping row hr url hu),
    fun task ht => (h.listingRuns task ht).later hl,
    fun task ht => (h.deletionRuns task ht).later hl,
    ⟨he.later hl, h.log.later hl⟩⟩

end

def ackEvents (id : Text) : Option (Text × Text) → List Event
  | some outcome => [.listingAcked id outcome.1 outcome.2]
  | none => []

variable {outcome : Option (Text × Text)}

lemma Inv.putListing (h : Inv P s) {j k : ListingJob} (hj : s.listings.get id = some j)
    (hw : ListingWrite outcome j k) :
    Inv P { s with listings := s.listings.put k, log := ackEvents id outcome ++ s.log } ∧
      Later s { s with listings := s.listings.put k, log := ackEvents id outcome ++ s.log } := by
  obtain ⟨hm, hid⟩ := get_eq_some.1 hj
  have hk : k.id = j.id := hw.grows.intent.1
  have hlat : Later s
      { s with listings := s.listings.put k, log := ackEvents id outcome ++ s.log } := by
    refine ⟨fun l hl => ?_, fun l hl => ⟨l, hl, .refl l⟩, fun e he => mem_append_right _ he⟩
    by_cases heq : l.id = k.id
    · have hlj : l = j := by
        have hg := Table.get_of_mem hl
        rw [heq, hk, hid, hj] at hg
        exact (some.inj hg).symm
      subst hlj
      exact ⟨k, mem_put.2 (.inl rfl), hw.grows⟩
    · exact ⟨l, mem_put.2 (.inr ⟨hl, heq⟩), .refl l⟩
  refine ⟨⟨fun job hjob => ?_, fun job hjob d hd ha => ?_, h.deletions,
    fun row hr url hu => hlat.log _ (h.shipping row hr url hu),
    fun task ht => (h.listingRuns task ht).later hlat,
    fun task ht => (h.deletionRuns task ht).later hlat, ?_⟩, hlat⟩
  · rcases mem_put.1 hjob with rfl | ⟨hold, -⟩
    · exact hw.ok (h.listings j hm)
    · exact h.listings job hold
  · rcases mem_put.1 hjob with rfl | ⟨hold, -⟩
    · rcases hw.acks d hd ha with ⟨d', hd', hev, hu, ha'⟩ | ho
      · have hlog := h.acks j hm d' hd' ha'
        rw [hev, hu, ← hk] at hlog
        exact hlat.log _ hlog
      · apply mem_append_left
        rw [ho, hk, hid]
        exact .head _
    · exact hlat.log _ (h.acks job hold d hd ha)
  · refine (h.log.later hlat).append fun e he earlier => ?_
    cases outcome with
    | none => cases he
    | some pair =>
      obtain rfl := mem_singleton.1 he
      trivial

lemma Inv.updateListing (h : Inv P s) {f : ListingJob → ListingJob} {next : ListingJob}
    (hu : s.updateListing id f = some (next, t)) (hf : ∀ j, ListingWrite outcome j (f j)) :
    Inv P { t with log := ackEvents id outcome ++ t.log } ∧
      Later s { t with log := ackEvents id outcome ++ t.log } := by
  simp only [Outboxes.updateListing, run_gives, Prod.mk.injEq] at hu
  obtain ⟨j, hj, -, rfl, rfl⟩ := hu
  exact h.putListing hj (hf j)

lemma Inv.updateDeletion (h : Inv P s) {f : DeletionJob → Result DeletionJob} {next : DeletionJob}
    (hu : s.updateDeletion id f = some (next, t))
    (hf : ∀ j k, DeletionOk P j → f j = .ok k → DeletionWrite P j k) :
    Inv P t ∧ Later s t ∧ ∃ j, s.deletions.get id = some j ∧ f j = .ok next ∧
      DeletionGrows j next ∧ next ∈ t.deletions.rows ∧ next.id = id := by
  simp only [Outboxes.updateDeletion, run_gives, Prod.mk.injEq] at hu
  obtain ⟨j, hj, k, hk, ⟨hkid, -, -⟩, rfl, rfl⟩ := hu
  have hfk : f j = .ok k := by
    cases hfj : f j with
    | error e => rw [hfj] at hk; cases hk
    | ok k' =>
      rw [hfj] at hk
      exact congrArg Except.ok (some.inj hk)
  obtain ⟨hm, hid⟩ := get_eq_some.1 hj
  have hw := hf j k (h.deletions j hm) hfk
  have hlat : Later s { s with deletions := s.deletions.put k } := by
    refine ⟨fun l hl => ⟨l, hl, .refl l⟩, fun l hl => ?_, fun _ he => he⟩
    by_cases heq : l.id = k.id
    · have hlj : l = j := by
        have hg := Table.get_of_mem hl
        rw [heq, hkid, hj] at hg
        exact (some.inj hg).symm
      subst hlj
      exact ⟨k, mem_put.2 (.inl rfl), hw.grows⟩
    · exact ⟨l, mem_put.2 (.inr ⟨hl, heq⟩), .refl l⟩
  refine ⟨⟨h.listings, h.acks, fun job hjob => ?_, h.shipping,
    fun task ht => (h.listingRuns task ht).later hlat,
    fun task ht => (h.deletionRuns task ht).later hlat, h.log.later hlat⟩, hlat, j, hj,
    hfk, hw.grows, mem_put.2 (.inl rfl), hkid⟩
  rcases mem_put.1 hjob with rfl | ⟨hold, -⟩
  · exact hw.ok (h.deletions j hm)
  · exact h.deletions job hold

end

end Conduit.ProductDelivery
