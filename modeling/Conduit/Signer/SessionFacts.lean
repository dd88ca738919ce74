import Conduit.Signer.Session
import Mathlib.Data.List.Perm.Basic

namespace Conduit.Signer

open List

section
variable {s t u : Session} {code : FailureCode} {id : Nat}

lemma reject_eq (h : s.invalidated = false) : reject s code = { s with
    foregroundQueue := []
    backgroundQueue := []
    invalidated := true
    frames := (abort s (classifyNostrSignerError code)).frames
    settled := s.settled ++ rejectQueue (s.foregroundQueue ++ s.backgroundQueue) code } := by
  unfold reject
  rw [h]
  rfl

/-- The check passed, or it ended the session. -/
def Rejects (s t : Session) : Prop := t = s ∨ s.invalidated = false ∧ ∃ code, t = reject s code

lemma Rejects.refl (s : Session) : Rejects s s := .inl rfl

lemma rejects_reject (s : Session) (code : FailureCode) : Rejects s (reject s code) := by
  cases h : s.invalidated with
  | true => exact .inl (by unfold reject; rw [h]; rfl)
  | false => exact .inr ⟨h, code, rfl⟩

lemma assertAuthority_rejects (s : Session) (authority identity : Bool) :
    Rejects s (assertAuthority s authority identity).1 := by
  unfold assertAuthority
  split
  · exact rejects_reject s _
  · split
    · exact rejects_reject s _
    · exact Rejects.refl s

lemma assertAuthority_passes {authority identity : Bool}
    (h : (assertAuthority s authority identity).2 = none) :
    (assertAuthority s authority identity).1 = s ∧ s.invalidated = false ∧ authority = true := by
  unfold assertAuthority at h ⊢
  split
  · next hb =>
    rw [if_pos hb] at h
    cases h
  · next hg =>
    rw [if_neg hg] at h
    simp only [not_or, Bool.not_eq_true, Bool.not_eq_false] at hg
    split
    · next hi =>
      rw [if_pos hi] at h
      cases h
    · exact ⟨rfl, hg⟩

variable {failure : Option FailureCode}

lemma assertAuthority_eq {authority identity : Bool}
    (h : assertAuthority s authority identity = (t, failure)) : Rejects s t ∧
      (failure = none → t = s ∧ s.invalidated = false ∧ authority = true) := by
  have hr := assertAuthority_rejects s authority identity
  rw [h] at hr
  refine ⟨hr, fun hn => ?_⟩
  have hn' : (assertAuthority s authority identity).2 = none := by rw [h]; exact hn
  have hp := assertAuthority_passes hn'
  rwa [h] at hp

lemma assertCurrent_eq {checks : Checks} {operationCurrent : Bool}
    (h : assertCurrent s checks operationCurrent = (t, failure)) : Rejects s t ∧
      (failure = none → t = s ∧ s.invalidated = false ∧ checks.authorityAgain = true) := by
  unfold assertCurrent at h
  split at h
  · cases h
    exact ⟨Rejects.refl s, nofun⟩
  · split at h
    · cases h
      exact ⟨Rejects.refl s, nofun⟩
    · split at h
      · next hf =>
        cases h
        exact ⟨(assertAuthority_eq hf).1, nofun⟩
      · next hf =>
        obtain ⟨rfl, -⟩ := (assertAuthority_eq hf).2 rfl
        split at h
        · next hs =>
          cases h
          exact ⟨(assertAuthority_eq hs).1, nofun⟩
        · next hs =>
          cases h
          obtain ⟨hr, hp⟩ := assertAuthority_eq hs
          exact ⟨hr, fun _ => hp rfl⟩

lemma assertCurrent_rejects (s : Session) (checks : Checks) (operationCurrent : Bool) :
    Rejects s (assertCurrent s checks operationCurrent).1 := by
  cases h : assertCurrent s checks operationCurrent with
  | mk t failure => exact (assertCurrent_eq h).1

lemma operationAnswer_rejects (s : Session) (method : Method) (answer : SignerAnswer)
    (authority identity : Bool) :
    Rejects s (operationAnswer s method answer authority identity).1 := by
  unfold operationAnswer
  split
  · exact Rejects.refl s
  · split
    · next hf => exact (assertAuthority_eq hf).1
    · next hf =>
      obtain ⟨rfl, -⟩ := (assertAuthority_eq hf).2 rfl
      split
      · exact Rejects.refl _
      · exact rejects_reject _ _
  · split
    · next hf => exact (assertAuthority_eq hf).1
    · next hf => exact (assertAuthority_eq hf).1
  · exact Rejects.refl s

lemma Rejects.frames (h : Rejects s t) :
    t.frames = s.frames ∨ ∃ code, t.frames = (abort s code).frames := by
  obtain rfl | ⟨hv, code, rfl⟩ := h
  · exact .inl rfl
  · rw [reject_eq hv]
    exact .inr ⟨_, rfl⟩

structure Quiet (s t : Session) : Prop where
  foreground : t.foregroundQueue.Sublist s.foregroundQueue
  background : t.backgroundQueue.Sublist s.backgroundQueue
  foregroundTaken : t.foregroundTaken = s.foregroundTaken
  backgroundTaken : t.backgroundTaken = s.backgroundTaken
  foregroundBurst : t.foregroundBurst = s.foregroundBurst
  started : t.started = s.started
  settled : s.settled <+: t.settled

lemma Quiet.refl (s : Session) : Quiet s s :=
  ⟨Sublist.refl _, Sublist.refl _, rfl, rfl, rfl, rfl, prefix_refl _⟩

lemma Quiet.trans (h : Quiet s t) (h' : Quiet t u) : Quiet s u :=
  ⟨h'.foreground.trans h.foreground, h'.background.trans h.background,
    h'.foregroundTaken.trans h.foregroundTaken, h'.backgroundTaken.trans h.backgroundTaken,
    h'.foregroundBurst.trans h.foregroundBurst, h'.started.trans h.started,
    h.settled.trans h'.settled⟩

lemma Rejects.quiet (h : Rejects s t) : Quiet s t := by
  obtain rfl | ⟨hv, code, rfl⟩ := h
  · exact Quiet.refl _
  · rw [reject_eq hv]
    exact ⟨nil_sublist _, nil_sublist _, rfl, rfl, rfl, rfl, prefix_append _ _⟩

lemma invalidateLocal_quiet (s : Session) (cause : FailureCode) :
    Quiet s (invalidateLocal s cause) := by
  unfold invalidateLocal
  split <;>
    exact ⟨nil_sublist _, nil_sublist _, rfl, rfl, rfl, rfl, prefix_append _ _⟩

lemma caught_quiet (s : Session) (code : FailureCode) : Quiet s (caught s code) := by
  unfold caught
  split
  · exact ⟨Sublist.refl _, nil_sublist _, rfl, rfl, rfl, rfl, prefix_append _ _⟩
  · exact Quiet.refl s

lemma timeOut_quiet (s : Session) (f : Frame) : Quiet s (timeOut f s) :=
  ⟨nil_sublist _, nil_sublist _, rfl, rfl, rfl, rfl, prefix_append _ _⟩

lemma executeOperation_quiet (answers : StartAnswers) (r : Request) (s : Session) :
    Quiet s { executeOperation answers r s with started := s.started } := by
  unfold executeOperation
  dsimp only
  split
  · next failed code hchk =>
    have hq := (assertCurrent_eq hchk).1.quiet.trans (caught_quiet failed code)
    exact ⟨hq.foreground, hq.background, hq.foregroundTaken, hq.backgroundTaken,
      hq.foregroundBurst, rfl, hq.settled.trans (prefix_append _ _)⟩
  · next passed hchk =>
    have hq := (assertCurrent_eq hchk).1.quiet
    split
    · exact ⟨hq.foreground, hq.background, hq.foregroundTaken, hq.backgroundTaken,
        hq.foregroundBurst, rfl, hq.settled⟩
    · next checks hchks =>
      generalize hs : ({ passed with started := _ } : Session) = started
      have hca : Rejects started (assertCurrent started checks true).1 :=
        assertCurrent_rejects started checks true
      have hc := hca.quiet
      have heq : Quiet passed { started with started := passed.started } := by
        rw [← hs]
        exact Quiet.refl passed
      refine ⟨hc.foreground.trans (heq.foreground.trans hq.foreground),
        hc.background.trans (heq.background.trans hq.background),
        hc.foregroundTaken.trans (heq.foregroundTaken.trans hq.foregroundTaken),
        hc.backgroundTaken.trans (heq.backgroundTaken.trans hq.backgroundTaken),
        hc.foregroundBurst.trans (heq.foregroundBurst.trans hq.foregroundBurst), rfl,
        hq.settled.trans (heq.settled.trans hc.settled)⟩

end

structure Frame.Ok (f : Frame) : Prop where
  returned : f.returned = true → f.race.isSome = true
  settled : f.providerSettled = true → f.answer.isSome = true ∧ f.race.isSome = true

structure Core (extra : List Nat) (s : Session) : Prop where
  single : s.frames.length ≤ 1
  running : s.running = true ↔ s.frames ≠ []
  unavailable : s.providerUnavailable = true → s.frames ≠ []
  ended : s.invalidated = true → s.foregroundQueue = [] ∧ s.backgroundQueue = []
  accounted : (s.open ++ s.settled.map Settled.id ++ extra).Perm s.accepted
  nodup : s.accepted.Nodup
  frame : ∀ f ∈ s.frames, f.Ok
  started : ∀ e ∈ s.started, e.invalidated = false ∧ e.authority = true
  resolved : ∀ e ∈ s.settled, ∀ invalidated authority,
    e.outcome = .resolved invalidated authority → invalidated = false ∧ authority = true

section
variable {s t : Session} {extra : List Nat} {code : FailureCode} {id : Nat}

lemma rejectQueue_ids (queue : List Request) (code : FailureCode) :
    (rejectQueue queue code).map Settled.id = queue.map Request.id := by
  unfold rejectQueue
  rw [map_map]
  rfl

lemma not_resolved_of_rejectQueue {queue : List Request} {e : Settled}
    (h : e ∈ rejectQueue queue code) {invalidated authority : Bool} :
    e.outcome ≠ .resolved invalidated authority := by
  obtain ⟨r, -, rfl⟩ := mem_map.1 h
  exact nofun

variable {change : Frame → Frame}

lemma frames_map {frames : List Frame}
    (hid : ∀ f ∈ frames, (change f).request = f.request ∧ (change f).returned = f.returned) :
    ((frames.map change).filter fun f => !f.returned).map (·.request.id) =
      (frames.filter fun f => !f.returned).map fun f => f.request.id := by
  induction frames with
  | nil => rfl
  | cons f frames ih =>
    obtain ⟨hreq, hret⟩ := hid f mem_cons_self
    have hr := ih fun g hg => hid g (mem_cons_of_mem _ hg)
    rw [map_cons]
    by_cases h : f.returned = true
    · rw [filter_cons_of_neg (by simp [hret, h]), filter_cons_of_neg (by simp [h])]
      exact hr
    · rw [filter_cons_of_pos (by simp [hret, h]), filter_cons_of_pos (by simp [h])]
      rw [map_cons, map_cons, hr, hreq]

section

variable (h : Core extra s)
include h

lemma Core.mapFrames
    (hid : ∀ f ∈ s.frames, (change f).request = f.request ∧ (change f).returned = f.returned)
    (hok : ∀ f ∈ s.frames, f.Ok → (change f).Ok) :
    Core extra { s with frames := s.frames.map change } := by
  refine ⟨by simpa using h.single, ?_, fun hu => ?_, h.ended, ?_, h.nodup, ?_, h.started,
    h.resolved⟩
  · simpa using h.running
  · simpa using h.unavailable hu
  · unfold Session.open
    rw [frames_map hid]
    exact h.accounted
  · intro f hf
    obtain ⟨g, hg, rfl⟩ := mem_map.1 hf
    exact hok g hg (h.frame g hg)

lemma Core.abort (code : FailureCode) : Core extra (abort s code) := by
  apply h.mapFrames
  · intro f _
    split <;> exact ⟨rfl, rfl⟩
  · intro f _ hok
    split
    · exact ⟨fun _ => rfl, fun hs => ⟨(hok.settled hs).1, rfl⟩⟩
    · exact hok

lemma Core.rejectQueued (code : FailureCode) : Core extra (rejectQueued s code) := by
  refine ⟨h.single, h.running, h.unavailable, fun _ => ⟨rfl, rfl⟩, ?_, h.nodup, h.frame, h.started,
    fun e he => ?_⟩
  · refine Perm.trans ?_ h.accounted
    apply perm_iff_count.2
    simp only [Signer.rejectQueued, Session.open, map_append, count_append,
      rejectQueue_ids, append_nil, map_nil, count_nil]
    omega
  · rcases mem_append.1 he with he | he
    · exact h.resolved e he
    · exact fun i a heq => absurd heq (not_resolved_of_rejectQueue he)

lemma Core.rejectBackground (code : FailureCode) : Core extra (rejectBackground s code) := by
  refine ⟨h.single, h.running, h.unavailable, fun hi => ⟨(h.ended hi).1, rfl⟩, ?_, h.nodup, h.frame,
    h.started, fun e he => ?_⟩
  · refine Perm.trans ?_ h.accounted
    apply perm_iff_count.2
    simp only [Signer.rejectBackground, Session.open, map_append, count_append,
      rejectQueue_ids, append_nil]
    omega
  · rcases mem_append.1 he with he | he
    · exact h.resolved e he
    · exact fun i a heq => absurd heq (not_resolved_of_rejectQueue he)

lemma Core.invalidate (he : s.foregroundQueue = [] ∧ s.backgroundQueue = []) :
    Core extra { s with invalidated := true } :=
  ⟨h.single, h.running, h.unavailable, fun _ => he, h.accounted, h.nodup, h.frame, h.started,
    h.resolved⟩

lemma Core.rejects (hr : Rejects s t) : Core extra t := by
  obtain rfl | ⟨hv, code, rfl⟩ := hr
  · exact h
  · have hc := ((h.abort (classifyNostrSignerError code)).rejectQueued code).invalidate
      ⟨rfl, rfl⟩
    rw [reject_eq hv]
    exact hc

lemma Core.invalidateLocal (cause : FailureCode) : Core extra (invalidateLocal s cause) := by
  unfold Signer.invalidateLocal
  split
  · exact h.rejectQueued _
  · exact ((h.abort (classifyNostrSignerError cause)).rejectQueued _).invalidate ⟨rfl, rfl⟩

lemma Core.caught (code : FailureCode) : Core extra (caught s code) := by
  unfold Signer.caught
  split
  · have hp : Core extra { s with backgroundPaused := true } :=
      ⟨h.single, h.running, h.unavailable, h.ended, h.accounted, h.nodup, h.frame, h.started,
        h.resolved⟩
    exact hp.rejectBackground _
  · exact h

end

lemma Core.settle {outcome : Outcome} (h : Core (id :: extra) s)
    (ho : ∀ invalidated authority, outcome = .resolved invalidated authority →
      invalidated = false ∧ authority = true) : Core extra (s.settle id outcome) := by
  refine ⟨h.single, h.running, h.unavailable, h.ended, ?_, h.nodup, h.frame, h.started,
    fun e he => ?_⟩
  · refine Perm.trans ?_ h.accounted
    apply perm_iff_count.2
    simp only [Session.settle, Session.open, map_append, count_append, map_cons,
      map_nil, count_cons, count_nil]
    omega
  · rcases mem_append.1 he with he | he
    · exact h.resolved e he
    · rw [mem_singleton] at he
      subst he
      exact ho

variable {f : Frame}

lemma Core.frames_eq (h : Core extra s) (hf : s.frame id = some f) :
    s.frames = [f] ∧ f.request.id = id := by
  have hid : f.request.id = id := by simpa using find?_some hf
  have hm := mem_of_find?_eq_some hf
  refine ⟨?_, hid⟩
  cases hfrm : s.frames with
  | nil => rw [hfrm] at hm; cases hm
  | cons g rest =>
    have hl := h.single
    rw [hfrm, length_cons] at hl
    obtain rfl : rest = [] := length_eq_zero_iff.1 (by omega)
    rw [hfrm, mem_singleton] at hm
    rw [hm]

lemma Core.finish (h : Core extra s) (hf : s.frames = [f]) {pending : List Nat}
    (hp : f.returned = false ∧ pending = f.request.id :: extra ∨
      f.returned = true ∧ pending = extra) : Core pending (finish s f.request.id) := by
  have hn : (Signer.finish s f.request.id).frames = [] := by
    unfold Signer.finish
    rw [hf]
    simp
  refine ⟨by rw [hn]; simp, ?_, nofun, h.ended, ?_, h.nodup, ?_, h.started, h.resolved⟩
  · rw [hn]
    simp [Signer.finish]
  · refine Perm.trans ?_ h.accounted
    simp only [Session.open, hn, hf]
    rcases hp with ⟨ho, rfl⟩ | ⟨hr, rfl⟩
    · apply perm_iff_count.2
      simp only [Signer.finish, count_append, ho, filter_nil, map_nil,
        count_nil, count_cons, Bool.not_false, filter_cons_of_pos, map_cons]
      omega
    · simp [Signer.finish, hr, count_append]
  · intro g hg
    rw [hn] at hg
    cases hg

lemma Core.returns (h : Core extra s) (hf : s.frames = [f]) (ho : f.returned = false)
    (hr : f.race.isSome = true) : Core (f.request.id :: extra) (s.setFrame f.request.id fun f =>
      { f with operationCurrent := false, returned := true }) := by
  have hfrm : (s.setFrame f.request.id fun f =>
      { f with operationCurrent := false, returned := true }).frames =
      [{ f with operationCurrent := false, returned := true }] := by
    simp [Session.setFrame, hf]
  refine ⟨by rw [hfrm]; simp, ?_, fun _ => by rw [hfrm]; simp, h.ended, ?_, h.nodup, ?_,
    h.started, h.resolved⟩
  · rw [hfrm]
    have hrun := h.running
    rw [hf] at hrun
    simpa [Session.setFrame] using hrun
  · refine Perm.trans ?_ h.accounted
    apply perm_iff_count.2
    simp only [Session.open, hfrm, hf]
    simp [Session.setFrame, ho, count_append, count_cons]
    omega
  · intro g hg
    rw [hfrm, mem_singleton] at hg
    subst hg
    exact ⟨fun _ => hr, (h.frame f (by rw [hf]; exact mem_singleton_self f)).settled⟩

end

end Conduit.Signer
