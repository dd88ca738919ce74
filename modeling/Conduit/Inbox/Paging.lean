import Conduit.Inbox.History
import Conduit.Runs

namespace Conduit.Inbox

open Js Stock Runs List

/-- The wrappers that a relay holds for a recipient. -/
structure Holdings where
  events : List SignedEvent
  ids : (events.map (·.id)).Nodup
  timestamps : ∀ e ∈ events, 0 ≤ e.createdAt

structure Holdings.Answers (held : Holdings) (limit : Nat) (since untilAt : Option Int)
    (events : List SignedEvent) : Prop where
  kept : ∀ e ∈ events, e ∈ held.events ∧ WithinRange since untilAt e
  newest : ∀ w ∈ held.events, WithinRange since untilAt w →
    w ∈ events ∨ limit ≤ events.length ∧ ∀ e ∈ events, w.createdAt ≤ e.createdAt

section
variable {P : HistoryPlatform} {options : PageOptions} {held : Holdings}

structure PageAnswers.Honest (answers : PageAnswers) (P : HistoryPlatform) (options : PageOptions)
    (held : Holdings) : Prop where
  page : ∀ answer ∈ answers.page,
    IsCompleteProtectedInboxRead P answer.read pageLimit options.principal none options.untilAt
      options.transport → held.Answers pageLimit none options.untilAt answer.read.events
  boundary : ∀ at_, ∀ answer ∈ answers.boundary at_,
    IsCompleteProtectedInboxRead P answer.read boundaryLimit options.principal (some at_) (some at_)
      options.transport → held.Answers boundaryLimit (some at_) (some at_) answer.read.events

structure PageRun.Stays (run : PageRun) (cursor : Option HistoryCursor) : Prop where
  status : ∀ r ∈ run.result, r.status ≠ .advanced ∧ r.status ≠ .sourceEose
  cursor : ∀ r ∈ run.result, r.nextCursor = cursor

structure PageRun.Descends (run : PageRun) (held : Holdings) (untilAt : Option Int) (r : PageResult)
    (next : HistoryCursor) : Prop where
  result : run.result = some r
  status : r.status = .advanced
  nextCursor : r.nextCursor = some next
  nonneg : 0 ≤ next.untilAt
  below : ∀ n ∈ untilAt, next.untilAt < n
  visited : ∀ w ∈ held.events, next.untilAt < w.createdAt → (∀ n ∈ untilAt, w.createdAt ≤ n) →
    w ∈ run.visited
  passed : ∃ w ∈ held.events, next.untilAt < w.createdAt ∧ ∀ n ∈ untilAt, w.createdAt ≤ n

/-- A call that reaches the end of what the relay holds. -/
structure PageRun.Ends (run : PageRun) (held : Holdings) (untilAt : Option Int) (r : PageResult) :
    Prop where
  result : run.result = some r
  status : r.status = .sourceEose
  nextCursor : r.nextCursor = none
  visited : ∀ w ∈ held.events, (∀ n ∈ untilAt, w.createdAt ≤ n) → w ∈ run.visited

variable {visits : Nat → VisitAnswer} {events : List SignedEvent} {range : RangeEvidence}
  {selected : List SignedEvent} {since untilAt : Option Int} {answers : PageAnswers}
  {nextUntil : Option Int} {answer : ReadAnswer} {w : SignedEvent} {limit n : Nat}

lemma visitEvents_finished (h : (visitEvents visits n events).2.2 = .finished) :
    (visitEvents visits n events).1 = events := by
  induction events generalizing n with
  | nil => rfl
  | cons event events ih =>
    unfold visitEvents at h ⊢
    cases hv : visits n with
    | stale | expired | failed => rw [hv] at h; cases h
    | visited =>
      rw [hv] at h
      simp only
      rw [ih h]

lemma retainIncomplete_stays {status : PageStatus} (ha : status ≠ .advanced)
    (he : status ≠ .sourceEose) :
    (retainIncomplete P options visits range status events).Stays options.cursor := by
  unfold retainIncomplete
  dsimp only
  constructor
  · intro r hr
    split at hr
    · cases hr
    · cases hr
      exact ⟨ha, he⟩
    · cases hr
      exact ⟨ha, he⟩
  · intro r hr
    split at hr
    · cases hr
    · cases hr
      rfl
    · cases hr
      rfl

lemma mem_of_finished
    (h : (visitEvents visits 0 (selected.mergeSort (newestFirst P))).2.2 = .finished)
    (hw : w ∈ selected) : w ∈ (visitEvents visits 0 (selected.mergeSort (newestFirst P))).1 := by
  rw [visitEvents_finished h]
  exact mem_mergeSort.2 hw

lemma visitSelected_cases :
    (visitSelected P options visits range selected nextUntil).Stays options.cursor ∨
      (∀ w ∈ selected, w ∈ (visitSelected P options visits range selected nextUntil).visited) ∧
      ∃ r, (visitSelected P options visits range selected nextUntil).result = some r ∧
        (nextUntil = none → r.status = .sourceEose ∧ r.nextCursor = none) ∧
        ∀ n, nextUntil = some n → r.status = .advanced ∧
          r.nextCursor = some ⟨options.relayUrl, n, options.sessionScope⟩ := by
  unfold visitSelected
  dsimp only
  cases he : (visitEvents visits 0 (selected.mergeSort (newestFirst P))).2.2 with
  | threw =>
    refine .inl ⟨fun r hr => ?_, fun r hr => ?_⟩
    · cases hr
    · cases hr
  | expired =>
    refine .inl ⟨fun r hr => ?_, fun r hr => ?_⟩
    · cases hr
      exact ⟨fun h => (by cases h), fun h => (by cases h)⟩
    · cases hr
      rfl
  | finished =>
    refine .inr ⟨fun w hw => mem_of_finished he hw, ?_⟩
    cases nextUntil with
    | none => exact ⟨_, rfl, fun _ => ⟨rfl, rfl⟩, fun n h => by cases h⟩
    | some m =>
      refine ⟨_, rfl, fun h => (by cases h), fun n h => ?_⟩
      cases h
      exact ⟨rfl, rfl⟩

lemma stays_of_throw {visited : List SignedEvent} {cursor : Option HistoryCursor} :
    (PageRun.mk visited none).Stays cursor :=
  ⟨fun r hr => (by cases hr), fun r hr => (by cases hr)⟩

lemma readPage_complete (h : (readPage P options limit since untilAt answer).2 ≠ false) :
    (readPage P options limit since untilAt answer).1 = answer.read ∧
      IsCompleteProtectedInboxRead P answer.read limit options.principal since untilAt
        options.transport := by
  unfold readPage at h ⊢
  split
  · exact ⟨rfl, ‹_›⟩
  · rw [if_neg ‹_›] at h
    split at h
    · exact absurd rfl h
    · exact absurd rfl h

lemma saturated_iff {read : InboxRead} {who : Text} {transport : Option Transport}
    (h : IsCompleteProtectedInboxRead P read limit who since untilAt transport) :
    (∃ relay ∈ read.relays.head?, n ≤ relay.eventCount) ↔ n ≤ read.events.length := by
  obtain ⟨-, -, -, -, -, ⟨relay, hr, -, hc, -, -⟩, -⟩ := h
  rw [hr]
  simp [hc]

lemma exists_oldest (h : events ≠ []) : ∃ e ∈ events, e.createdAt = oldest events := by
  unfold oldest
  cases hm : (events.map (·.createdAt)).min? with
  | none =>
    rw [min?_eq_none_iff, map_eq_nil_iff] at hm
    exact absurd hm h
  | some m =>
    obtain ⟨e, he, heq⟩ := mem_map.1 (min?_eq_some_iff.1 hm).1
    exact ⟨e, he, heq⟩

lemma Holdings.Answers.window {events boundary : List SignedEvent} {untilAt : Option Int}
    (hp : held.Answers pageLimit none untilAt events)
    (hb : held.Answers boundaryLimit (some (oldest events)) (some (oldest events)) boundary)
    (hless : boundary.length < boundaryLimit) (hw : w ∈ held.events)
    (hr : ∀ n ∈ untilAt, w.createdAt ≤ n) (hnewer : oldest events ≤ w.createdAt)
    (hne : events ≠ []) : w ∈ mapOf (·.id) (events ++ boundary) := by
  have hmem : w ∈ events ++ boundary := by
    rcases hp.newest w hw ⟨fun n hn => (by cases hn), hr⟩ with hin | ⟨-, hold⟩
    · exact mem_append_left _ hin
    · obtain ⟨e, he, heq⟩ := exists_oldest hne
      have hat : w.createdAt = oldest events := le_antisymm (heq ▸ hold e he) hnewer
      have hwit : WithinRange (some (oldest events)) (some (oldest events)) w :=
        ⟨fun n hn => Option.some.inj hn ▸ hat.ge, fun n hn => Option.some.inj hn ▸ hat.le⟩
      rcases hb.newest w hw hwit with hin | ⟨hfull, -⟩
      · exact mem_append_right _ hin
      · omega
  have hm := mapOf_holds (fun e : SignedEvent => e.id) (events ++ boundary)
  obtain ⟨v, hv, hid⟩ := mem_map.1 (hm.held w hmem)
  have hh : v ∈ held.events := by
    rcases mem_append.1 (hm.from_entries v hv) with hv | hv
    · exact (hp.kept v hv).1
    · exact (hb.kept v hv).1
  rwa [← inj_on_of_nodup_map held.ids hh hw hid]

lemma visitBoundary_cases (hhon : answers.Honest P options held)
    (hp : held.Answers pageLimit none options.untilAt events) (hf : pageLimit ≤ events.length)
    : (visitBoundary P options answers range events (oldest events)).Stays options.cursor ∨
      (∃ r next, (visitBoundary P options answers range events (oldest events)).Descends held
        options.untilAt r next) ∨
      ∃ r, (visitBoundary P options answers range events (oldest events)).Ends held
        options.untilAt r := by
  have hne : events ≠ [] := by
    rintro rfl
    exact absurd hf (by decide)
  obtain ⟨first, hfst, holdest⟩ := exists_oldest hne
  unfold visitBoundary
  cases hans : answers.boundary (oldest events) with
  | none => exact .inl stays_of_throw
  | some answer =>
    dsimp only
    split
    · exact .inl (retainIncomplete_stays (by decide) (by decide))
    split
    · exact .inl (retainIncomplete_stays (by decide) (by decide))
    rename_i _ hc
    obtain ⟨hre, hi⟩ := readPage_complete hc
    have hbo := hhon.boundary _ answer hans hi
    rw [hre]
    split
    · exact .inl (retainIncomplete_stays (by decide) (by decide))
    rename_i hu
    rw [saturated_iff hi, not_le] at hu
    split
    · exact .inl (retainIncomplete_stays (by decide) (by decide))
    have hwin := fun (w : SignedEvent) (hw : w ∈ held.events)
      (hra : ∀ n ∈ options.untilAt, w.createdAt ≤ n) (hnewer : oldest events ≤ w.createdAt) =>
        hp.window hbo hu hw hra hnewer hne
    have hk := hp.kept first hfst
    split
    · -- the cursor descends below the boundary
      split
      · exact .inl (retainIncomplete_stays (by decide) (by decide))
      rename_i hb
      rcases visitSelected_cases with hs | ⟨hv, r, hr, -, hsome⟩
      · exact .inl hs
      · obtain ⟨hst, hnext⟩ := hsome _ rfl
        refine .inr (.inl ⟨r, _, hr, hst, hnext, ?_, fun n hn => ?_,
          fun w hw hgt hra => ?_, first, hk.1, ?_, hk.2.2⟩)
        · show 0 ≤ oldest events - 1
          omega
        · show oldest events - 1 < n
          by_contra hge
          exact hb ⟨n, hn, by omega⟩
        · exact hv w (hwin w hw hra (by
            have : oldest events - 1 < w.createdAt := hgt
            omega))
        · show oldest events - 1 < first.createdAt
          omega
    · rcases visitSelected_cases with hs | ⟨hv, r, hr, hnone, -⟩
      · exact .inl hs
      · obtain ⟨hst, hnext⟩ := hnone rfl
        refine .inr (.inr ⟨r, hr, hst, hnext, fun w hw hra => ?_⟩)
        have := held.timestamps w hw
        exact hv w (hwin w hw hra (by omega))

lemma visitProtectedInboxHistoryPage_cases (hh : answers.Honest P options held) :
    (visitProtectedInboxHistoryPage P options answers).Stays options.cursor ∨
      (∃ r next, (visitProtectedInboxHistoryPage P options answers).Descends held
        options.untilAt r next) ∨
      ∃ r, (visitProtectedInboxHistoryPage P options answers).Ends held options.untilAt r := by
  unfold visitProtectedInboxHistoryPage
  dsimp only
  split
  · exact .inl stays_of_throw
  split
  · exact .inl stays_of_throw
  rename_i answer ha
  split
  · exact .inl (retainIncomplete_stays (by decide) (by decide))
  split
  · exact .inl (retainIncomplete_stays (by decide) (by decide))
  rename_i _ hc
  obtain ⟨hre, hi⟩ := readPage_complete hc
  have hp := hh.page answer ha hi
  rw [hre]
  split
  · rename_i hs
    exact visitBoundary_cases hh hp
      ((saturated_iff hi).1 (of_decide_eq_true hs))
  · rename_i hs
    have hless : answer.read.events.length < pageLimit := by
      by_contra hge
      exact hs (decide_eq_true ((saturated_iff hi).2 (not_lt.1 hge)))
    rcases visitSelected_cases with hstays | ⟨hv, r, hr, hno, -⟩
    · exact .inl hstays
    · obtain ⟨hst, hne⟩ := hno rfl
      refine .inr (.inr ⟨r, hr, hst, hne, fun w hw hra => ?_⟩)
      rcases hp.newest w hw ⟨fun n hn => (by cases hn), hra⟩ with hin | ⟨hfull, -⟩
      · exact hv w hin
      · omega

structure PageAnswers.Undisturbed (answers : PageAnswers) (P : HistoryPlatform)
    (options : PageOptions) : Prop where
  starts : answers.starts = true
  authorized : options.relayUrl ∈ (options.authorizedRelayUrls.or options.declaredRelayUrls).getD []
  cursor : ValidCursor options
  page : ∃ answer ∈ answers.page, IsCompleteProtectedInboxRead P answer.read pageLimit
    options.principal none options.untilAt options.transport
  boundary : ∀ at_, ∃ answer ∈ answers.boundary at_, IsCompleteProtectedInboxRead P answer.read
    boundaryLimit options.principal (some at_) (some at_) options.transport
  visits : ∀ n, answers.visits n = .visited

lemma visitEvents_undisturbed (h : ∀ n, visits n = .visited) (n : Nat) (events : List SignedEvent)
    : (visitEvents visits n events).2.2 = .finished := by
  induction events generalizing n with
  | nil => rfl
  | cons event events ih =>
    unfold visitEvents
    rw [h n]
    exact ih (n + 1)

/-- The outcomes that close a page, or give it up for good. -/
def PageRun.Settled (run : PageRun) : Prop :=
  ∃ r, run.result = some r ∧ (r.status = .advanced ∨ r.status = .sourceEose ∨ r.status = .capped)

lemma retainIncomplete_capped (h : ∀ n, visits n = .visited) :
    (retainIncomplete P options visits range .capped events).Settled := by
  unfold retainIncomplete PageRun.Settled
  dsimp only
  rw [visitEvents_undisturbed h]
  exact ⟨_, rfl, .inr (.inr rfl)⟩

lemma visitSelected_settled (h : ∀ n, visits n = .visited) :
    (visitSelected P options visits range selected nextUntil).Settled := by
  unfold visitSelected PageRun.Settled
  dsimp only
  rw [visitEvents_undisturbed h]
  cases nextUntil with
  | none => exact ⟨_, rfl, .inr (.inl rfl)⟩
  | some n => exact ⟨_, rfl, .inl rfl⟩

lemma readPage_of_complete
    (h : IsCompleteProtectedInboxRead P answer.read limit options.principal since untilAt
      options.transport) :
    readPage P options limit since untilAt answer = (answer.read, true) := if_pos h

lemma undisturbed_settled (h : answers.Undisturbed P options) :
    (visitProtectedInboxHistoryPage P options answers).Settled := by
  obtain ⟨answer, ha, hc⟩ := h.page
  have hcov : ¬ answer.read.coverage = .unavailable := by
    rw [hc.1]
    decide
  unfold visitProtectedInboxHistoryPage
  have hp : ¬ (answers.starts = false ∨
      options.relayUrl ∉ (options.authorizedRelayUrls.or options.declaredRelayUrls).getD [] ∨
      ¬ ValidCursor options) := by
    rintro (hs | hu | hcur)
    · rw [h.starts] at hs
      cases hs
    · exact hu h.authorized
    · exact hcur h.cursor
  rw [if_neg hp, Option.mem_def.1 ha]
  dsimp only
  rw [readPage_of_complete hc]
  dsimp only
  rw [if_neg hcov, if_neg (by decide)]
  split
  · obtain ⟨second, hsnd, hb⟩ := h.boundary (oldest answer.read.events)
    have hcov' : ¬ second.read.coverage = .unavailable := by
      rw [hb.1]
      decide
    unfold visitBoundary
    rw [Option.mem_def.1 hsnd]
    dsimp only
    rw [readPage_of_complete hb]
    dsimp only
    rw [if_neg hcov', if_neg (by decide)]
    split
    · exact retainIncomplete_capped h.visits
    split
    · exact retainIncomplete_capped h.visits
    split
    · split
      · exact retainIncomplete_capped h.visits
      · exact visitSelected_settled h.visits
    · exact visitSelected_settled h.visits
  · exact visitSelected_settled h.visits

end

structure RelayInbox where
  (relayUrl principal : Text)
  transport : Option Transport
  held : Holdings

structure PageCall where
  options : PageOptions
  answers : PageAnswers

structure Paging where
  cursor : Option Int
  visited : List SignedEvent
  advanced : Nat
  ended : Bool

def Paging.start (cursor : Option Int) : Paging := ⟨cursor, [], 0, false⟩

variable (P : HistoryPlatform)

def PageCall.run (call : PageCall) : PageRun :=
  visitProtectedInboxHistoryPage P call.options call.answers

def Paging.after (s : Paging) (call : PageCall) : Paging where
  cursor := match (call.run P).result with
    | none => s.cursor
    | some r => r.nextCursor.map (·.untilAt)
  visited := s.visited ++ (call.run P).visited
  advanced :=
    s.advanced + if ∃ r ∈ (call.run P).result, r.status = .advanced then 1 else 0
  ended := decide (∃ r ∈ (call.run P).result, r.status = .sourceEose)

structure PageCall.Resumes (call : PageCall) (P : HistoryPlatform) (box : RelayInbox) (s : Paging) :
    Prop where
  relay : call.options.relayUrl = box.relayUrl
  principal : call.options.principal = box.principal
  transport : call.options.transport = box.transport
  cursor : call.options.untilAt = s.cursor
  honest : call.answers.Honest P call.options box.held

def PageStep (box : RelayInbox) (call : PageCall) (s t : Paging) : Prop :=
  s.ended = false ∧ call.Resumes P box s ∧ t = s.after P call

section
variable {P : HistoryPlatform} {box : RelayInbox} {call : PageCall} {s t : Paging}

structure Paging.Covers (s : Paging) (held : Holdings) (bound : Option Int) : Prop where
  above : ∀ w ∈ held.events, (∀ n ∈ bound, w.createdAt ≤ n) → ∀ n ∈ s.cursor, n < w.createdAt →
    w ∈ s.visited
  ended : s.ended = true → ∀ w ∈ held.events, (∀ n ∈ bound, w.createdAt ≤ n) → w ∈ s.visited
  unbound : s.ended = false → s.cursor = none → bound = none

/-- The wrappers that the next page may still reach. -/
def Holdings.remaining (held : Holdings) (cursor : Option Int) : List SignedEvent :=
  held.events.filter fun w => ∀ n ∈ cursor, w.createdAt ≤ n

lemma remaining_lt {held : Holdings} {cursor : Option Int} {next : Int}
    (hb : ∀ n ∈ cursor, next < n)
    (hp : ∃ w ∈ held.events, next < w.createdAt ∧ ∀ n ∈ cursor, w.createdAt ≤ n) :
    (held.remaining (some next)).length < (held.remaining cursor).length := by
  have hs : held.remaining (some next) =
      (held.remaining cursor).filter fun w => decide (w.createdAt ≤ next) := by
    unfold Holdings.remaining
    rw [filter_filter]
    refine filter_congr fun w _ => ?_
    rw [Bool.eq_iff_iff]
    simp only [Option.mem_some_iff, forall_eq', decide_eq_true_eq, Bool.and_eq_true]
    exact ⟨fun h => ⟨h, fun n hn => h.trans (hb n hn).le⟩, (·.1)⟩
  rw [hs, length_filter_lt_length_iff_exists]
  obtain ⟨w, hw, hgt, hle⟩ := hp
  refine ⟨w, mem_filter.2 ⟨hw, decide_eq_true hle⟩, ?_⟩
  simpa using hgt

section

variable (h : PageStep P box call s t)
include h

lemma PageStep.cases : (t.cursor = s.cursor ∧ t.ended = false ∧ t.advanced = s.advanced ∧
      t.visited = s.visited ++ (call.run P).visited) ∨
    (∃ r next, (call.run P).Descends box.held s.cursor r next ∧ t.cursor = some next.untilAt ∧
      t.ended = false ∧ t.advanced = s.advanced + 1 ∧
      t.visited = s.visited ++ (call.run P).visited) ∨
    ∃ r, (call.run P).Ends box.held s.cursor r ∧ t.cursor = none ∧ t.ended = true ∧
      t.advanced = s.advanced ∧ t.visited = s.visited ++ (call.run P).visited := by
  obtain ⟨-, hres, rfl⟩ := h
  have hc := visitProtectedInboxHistoryPage_cases hres.honest
  rw [hres.cursor] at hc
  rcases hc with hs | ⟨r, next, hd⟩ | ⟨r, he⟩
  · refine .inl ⟨?_, ?_, ?_, rfl⟩
    · show (match (call.run P).result with
        | none => s.cursor
        | some r => r.nextCursor.map (·.untilAt)) = s.cursor
      split
      · rfl
      · rename_i r hr
        rw [hs.cursor r hr]
        exact hres.cursor
    · refine decide_eq_false ?_
      rintro ⟨r, hr, heo⟩
      exact (hs.status r hr).2 heo
    · have hn : ¬ ∃ r ∈ (call.run P).result, r.status = .advanced := by
        rintro ⟨r, hr, ha⟩
        exact (hs.status r hr).1 ha
      show s.advanced + (if _ then 1 else 0) = s.advanced
      rw [if_neg hn, Nat.add_zero]
  · refine .inr (.inl ⟨r, next, hd, ?_, ?_, ?_, rfl⟩)
    · simp only [Paging.after, PageCall.run, hd.result, hd.nextCursor]
      rfl
    · refine decide_eq_false ?_
      rintro ⟨r', hr', heo⟩
      obtain rfl := Option.some.inj (hd.result.symm.trans hr')
      rw [hd.status] at heo
      cases heo
    · show s.advanced + (if _ then 1 else 0) = s.advanced + 1
      rw [if_pos ⟨r, hd.result, hd.status⟩]
  · refine .inr (.inr ⟨r, he, ?_, ?_, ?_, rfl⟩)
    · simp only [Paging.after, PageCall.run, he.result, he.nextCursor]
      rfl
    · exact decide_eq_true ⟨r, he.result, he.status⟩
    · have hn : ¬ ∃ r ∈ (call.run P).result, r.status = .advanced := by
        rintro ⟨r', hr', ha⟩
        obtain rfl := Option.some.inj (he.result.symm.trans hr')
        rw [he.status] at ha
        cases ha
      show s.advanced + (if _ then 1 else 0) = s.advanced
      rw [if_neg hn, Nat.add_zero]

lemma PageStep.covers {bound : Option Int} (hs : s.Covers box.held bound) :
    t.Covers box.held bound := by
  have hmem : ∀ {w : SignedEvent}, w ∈ s.visited → w ∈ s.visited ++ (call.run P).visited :=
    fun hw => mem_append_left _ hw
  rcases h.cases with ⟨hc, he, -, hv⟩ |
    ⟨r, next, hd, hc, he, -, hv⟩ | ⟨r, hen, hc, he, -, hv⟩
  · refine ⟨fun w hw hbd n hn hgt => ?_, fun hend => ?_, fun _ hno => ?_⟩
    · rw [hc] at hn
      rw [hv]
      exact hmem (hs.above w hw hbd n hn hgt)
    · rw [he] at hend
      cases hend
    · exact hs.unbound h.1 (hc ▸ hno)
  · refine ⟨fun w hw hbd n hn hgt => ?_, fun hend => ?_, fun _ hno => ?_⟩
    · rw [hc] at hn
      cases hn
      rw [hv]
      by_cases hr : ∀ m ∈ s.cursor, w.createdAt ≤ m
      · exact mem_append_right _ (hd.visited w hw hgt hr)
      · push Not at hr
        obtain ⟨m, hm, hlt⟩ := hr
        exact hmem (hs.above w hw hbd m hm hlt)
    · rw [he] at hend
      cases hend
    · rw [hc] at hno
      cases hno
  · refine ⟨fun w hw hbd n hn => ?_, fun _ w hw hbd => ?_, fun hend => ?_⟩
    · rw [hc] at hn
      cases hn
    · rw [hv]
      by_cases hr : ∀ m ∈ s.cursor, w.createdAt ≤ m
      · exact mem_append_right _ (hen.visited w hw hr)
      · push Not at hr
        obtain ⟨m, hm, hlt⟩ := hr
        exact hmem (hs.above w hw hbd m hm hlt)
    · rw [he] at hend
      cases hend

lemma PageStep.measure (hs : s.ended = false →
      s.advanced + (box.held.remaining s.cursor).length ≤ box.held.events.length)
    (hs' : s.advanced ≤ box.held.events.length) : (t.ended = false →
      t.advanced + (box.held.remaining t.cursor).length ≤ box.held.events.length) ∧
      t.advanced ≤ box.held.events.length := by
  have hm := hs h.1
  rcases h.cases with ⟨hc, he, ha, -⟩ |
    ⟨r, next, hd, hc, he, ha, -⟩ | ⟨r, hends, hc, he, ha, -⟩
  · rw [hc, ha]
    exact ⟨fun _ => hm, hs'⟩
  · have hlt := remaining_lt hd.below hd.passed
    rw [hc, ha]
    exact ⟨fun _ => by omega, by omega⟩
  · rw [he, ha]
    exact ⟨fun hend => (by cases hend), hs'⟩

end

end

namespace Sample

def recipient : Text := hexText 64
  0xdaec2a9dc1829df1633d8e5b023c83a3bb4f633a0d0f9abc244db3945be671aa

def wrapper : SignedEvent where
  id := hexText 64 0x4bf911b9a51784b5a1597377d410436e0c50904916195e7f6f17e539d8cdafc3
  pubkey := hexText 64 0xc4b707384f330f72836a13481077e04ad094a943382197bf7d4ebb121fc12e3e
  createdAt := 1800000000
  kind := 1059
  tags := [["p", recipient]]
  content := ""
  sig := hexText 128 0xd8892cda2d24cf1ffa1eaacafa97adb0d12b9a143bd5500aa697e7434b8b4039634d129f481bc57f0d639e22e77906041d9b45ce3060fb2df0b73eb197a75404

def historyPlatform : HistoryPlatform where
  isValidSignedEvent event := decide (event = wrapper)
  localeLe a b := decide (List.le (a.map Char.toNat) (b.map Char.toNat))

def inbox : RelayInbox where
  relayUrl := "wss://relay.example"
  principal := recipient
  transport := none
  held := ⟨[wrapper], by decide, by decide⟩

def pageCall : PageCall where
  options := {
    principalPubkey := recipient
    transport := none
    relayUrl := "wss://relay.example"
    authorizedRelayUrls := some ["wss://relay.example"]
    declaredRelayUrls := none
    sessionScope := "session"
    cursor := none }
  answers := {
    starts := true
    page := some {
      read := {
        events := [wrapper]
        coverage := .complete
        status := .success
        attemptedCount := 1
        completedCount := 1
        failedCount := 0
        relays := [⟨.success, 1, 0, 0⟩]
        observations := [("event", 0), ("eose", 0)] }
      streamed := [wrapper] }
    boundary := fun _ => none
    visits := fun _ => .visited }

lemma pageStep : PageStep historyPlatform inbox pageCall (Paging.start none)
    ((Paging.start none).after historyPlatform pageCall) := by
  refine ⟨rfl, ⟨rfl, by decide +kernel, rfl, rfl, ⟨fun answer ha _ => ?_, fun _ _ h => ?_⟩⟩, rfl⟩
  · cases ha
    exact ⟨fun e he => ⟨he, fun n hn => (by cases hn), fun n hn => (by cases hn)⟩,
      fun w hw _ => .inl hw⟩
  · cases h

end Sample

open Sample

end Conduit.Inbox
