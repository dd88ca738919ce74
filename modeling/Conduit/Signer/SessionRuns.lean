import Conduit.Signer.SessionFacts
import Conduit.Throwing
import Mathlib.Data.List.Infix
import Mathlib.Data.Option.Basic

namespace Conduit.Signer

open Runs Throwing List Option Session

section
variable {s t : Session} {extra : List Nat} {id : Nat}

lemma Core.start (h : Core [] s) (started : Started)
    (hs : started.invalidated = false ∧ started.authority = true) :
    Core [] { s with started := s.started ++ [started] } := by
  refine ⟨h.single, h.running, h.unavailable, h.ended, h.accounted, h.nodup, h.frame,
    fun e he => ?_,
    h.resolved⟩
  rcases mem_append.1 he with he | he
  · exact h.started e he
  · rw [mem_singleton] at he
    subst he
    exact hs

lemma caught_frames (s : Session) (code : FailureCode) : (caught s code).frames = s.frames := by
  unfold caught
  split <;> rfl

variable {r : Request} {f : Frame} {answers : Nat → StartAnswers} {s₁ : Session}
  {maxQueuedOperations : Nat}

lemma executeOperation_core (answers : StartAnswers) (h : Core [r.id] s) (hi : s.frames = []) :
    Core [] (executeOperation answers r s) := by
  have ho : Core [] { s with
      running := true
      frames := s.frames ++ [⟨r, true, false, none, false, none, false⟩] } := by
    refine ⟨by simp [hi], by simp, fun _ => by simp, h.ended, ?_, h.nodup, ?_, h.started,
      h.resolved⟩
    · refine Perm.trans ?_ h.accounted
      apply perm_iff_count.2
      simp [Session.open, hi, count_append, count_cons]
    · intro f hf
      rw [hi, nil_append, mem_singleton] at hf
      subst hf
      refine ⟨?_, ?_⟩ <;> intro hf <;> cases hf
  unfold executeOperation
  dsimp only
  split
  · next failed code hc =>
    have hr := (assertCurrent_eq hc).1
    have hca := (ho.rejects hr).caught code
    -- The operation has not installed its abort listener.
    have hfrm : (caught failed code).frames =
        [⟨r, true, false, none, false, none, false⟩] := by
      rw [caught_frames]
      rcases hr.frames with h | ⟨code', h⟩
      · rw [h, hi]
        rfl
      · rw [h]
        simp [abort, hi]
    apply (hca.finish hfrm (.inl ⟨rfl, rfl⟩)).settle
    intro _ _ heq
    cases heq
  · next passed hc =>
    obtain ⟨hr, hp⟩ := assertCurrent_eq hc
    obtain ⟨hsa, hv, ha⟩ := hp rfl
    subst hsa
    have hs := ho.start ⟨r.id, s.invalidated, answers.checks.authorityAgain⟩
      ⟨hv, ha⟩
    refine Core.mapFrames ?_ ?_ ?_
    · split
      · exact hs
      · exact hs.rejects (assertCurrent_rejects _ _ true)
    · intro f _
      split <;> exact ⟨rfl, rfl⟩
    · intro f _ hok
      split
      · exact ⟨hok.returned, hok.settled⟩
      · exact hok

/-- One turn of `pump` takes the first request of a queue. -/
inductive Takes : Request → Session → Session → Prop
  | foreground {s : Session} {r : Request} {queue : List Request}
    (hqueue : s.foregroundQueue = r :: queue)
    (hturn : s.backgroundQueue = [] ∨ s.foregroundBurst < 4) :
    Takes r s { s with
      foregroundQueue := queue
      foregroundBurst := s.foregroundBurst + 1
      foregroundTaken := s.foregroundTaken + 1 }
  | background {s : Session} {r : Request} {queue : List Request}
    (hqueue : s.backgroundQueue = r :: queue) :
    Takes r s { s with
      backgroundQueue := queue
      foregroundBurst := 0
      backgroundTaken := s.backgroundTaken + 1 }

lemma pump_blocked (answers : Nat → StartAnswers) (fuel : Nat)
    (h : s.running = true ∨ s.invalidated = true ∨ s.providerUnavailable = true) :
    pump answers fuel s = s := by
  cases fuel with
  | zero => rfl
  | succ fuel => exact if_pos h

lemma pump_cases (answers : Nat → StartAnswers) (fuel : Nat) (s : Session) :
    (s.running = true ∨ s.invalidated = true ∨ s.providerUnavailable = true) ∨
      (s.foregroundQueue = [] ∧ s.backgroundQueue = [] ∧
        pump answers (fuel + 1) s = { s with foregroundBurst := 0 }) ∨
      s.running = false ∧ ∃ r s₁, Takes r s s₁ ∧
        pump answers (fuel + 1) s = pump answers fuel (executeOperation (answers r.id) r s₁) := by
  by_cases hblk : s.running = true ∨ s.invalidated = true ∨ s.providerUnavailable = true
  · exact .inl hblk
  · have hi : s.running = false := by
      rw [not_or, Bool.not_eq_true] at hblk
      exact hblk.1
    refine .inr ?_
    rw [pump, if_neg hblk]
    split
    · next _ _ r foregroundQueue hf =>
      split
      · next hb =>
        exact .inr ⟨hi, r, _, .foreground hf (.inl hb), rfl⟩
      · next b backgroundQueue hb =>
        split
        · next hbu =>
          exact .inr ⟨hi, r, _, .foreground hf (.inr hbu), rfl⟩
        · exact .inr ⟨hi, b, _, .background hb, rfl⟩
    · next b backgroundQueue _ hb =>
      exact .inr ⟨hi, b, _, .background hb, rfl⟩
    · next hf hb => exact .inl ⟨hf, hb, rfl⟩

lemma Core.frames_nil (h : Core extra s) (hi : s.running = false) : s.frames = [] := by
  by_contra hne
  rw [h.running.2 hne] at hi
  cases hi

lemma Core.takes (h : Core [] s) (ht : Takes r s s₁) : Core [r.id] s₁ ∧ s₁.frames = s.frames := by
  cases ht with
  | foreground hq hturn =>
    refine ⟨⟨h.single, h.running, h.unavailable, fun hi => ?_, ?_, h.nodup, h.frame, h.started,
      h.resolved⟩, rfl⟩
    · have he := (h.ended hi).1
      rw [hq] at he
      cases he
    · refine Perm.trans ?_ h.accounted
      apply perm_iff_count.2
      simp only [Session.open, hq, map_append, map_cons, count_append, count_cons, count_nil]
      omega
  | background hq =>
    refine ⟨⟨h.single, h.running, h.unavailable, fun hi => ?_, ?_, h.nodup, h.frame, h.started,
      h.resolved⟩, rfl⟩
    · have he := (h.ended hi).2
      rw [hq] at he
      cases he
    · refine Perm.trans ?_ h.accounted
      apply perm_iff_count.2
      simp only [Session.open, hq, map_append, map_cons, count_append, count_cons, count_nil]
      omega

lemma Core.burst (h : Core extra s) (burst : Nat) :
    Core extra { s with foregroundBurst := burst } :=
  ⟨h.single, h.running, h.unavailable, h.ended, h.accounted, h.nodup, h.frame, h.started,
    h.resolved⟩

lemma pump_core (answers : Nat → StartAnswers) (fuel : Nat) (h : Core [] s) :
    Core [] (pump answers fuel s) := by
  induction fuel generalizing s with
  | zero => exact h
  | succ fuel ih =>
    obtain hb | ⟨-, -, heq⟩ | ⟨hi, r, s₁, ht, heq⟩ := pump_cases answers fuel s
    · rw [pump_blocked answers _ hb]
      exact h
    · rw [heq]
      exact h.burst 0
    · rw [heq]
      obtain ⟨hc, hf⟩ := h.takes ht
      exact ih (executeOperation_core _ hc (hf.trans (h.frames_nil hi)))

/-- While the session is valid and nothing is executed, nothing waits. -/
def Idle (s : Session) : Prop :=
  s.frames = [] → s.invalidated = false → s.foregroundQueue = [] ∧ s.backgroundQueue = []

def Session.waiting (s : Session) : Nat := s.foregroundQueue.length + s.backgroundQueue.length

lemma Takes.waiting (h : Takes r s s₁) : s.waiting = s₁.waiting + 1 := by
  cases h with
  | foreground hq hturn =>
    simp only [waiting, hq, length_cons]
    omega
  | background hq =>
    simp only [waiting, hq, length_cons]
    omega

lemma pump_idle (answers : Nat → StartAnswers) {fuel : Nat} (h : Core [] s)
    (hfu : s.waiting < fuel) : Idle (pump answers fuel s) := by
  induction fuel generalizing s with
  | zero => omega
  | succ fuel ih =>
    obtain hblk | ⟨hfor, hb, heq⟩ | ⟨hi, r, s₁, ht, heq⟩ :=
      pump_cases answers fuel s
    · rw [pump_blocked answers _ hblk]
      intro hf hv
      rcases hblk with hr | he | hu
      · exact absurd hf (h.running.1 hr)
      · rw [hv] at he
        cases he
      · exact absurd hf (h.unavailable hu)
    · rw [heq]
      intro _ _
      exact ⟨hfor, hb⟩
    · rw [heq]
      obtain ⟨hc, hf⟩ := h.takes ht
      apply ih (executeOperation_core _ hc (hf.trans (h.frames_nil hi)))
      have hq := executeOperation_quiet (answers r.id) r s₁
      have hfor := hq.foreground.length_le
      have hb := hq.background.length_le
      have hw := ht.waiting
      simp only [waiting] at hw hfu ⊢
      dsimp only at hfor hb
      omega

def Fair (s t : Session) : Prop :=
  t.foregroundTaken + 4 * s.backgroundTaken + min s.foregroundBurst 4 ≤
    s.foregroundTaken + 4 * t.backgroundTaken + min t.foregroundBurst 4

lemma Fair.trans {u : Session} (h : Fair s t) (h' : Fair t u) : Fair s u := by
  unfold Fair at *
  omega

lemma fair_of_eq (hfor : t.foregroundTaken = s.foregroundTaken)
    (hbac : t.backgroundTaken = s.backgroundTaken)
    (hburst : t.foregroundBurst = s.foregroundBurst) : Fair s t := by
  unfold Fair
  omega

variable {s' : Session} {b : Request}

lemma Takes.fair {r : Request} (h : Takes r s s₁) (hb : b ∈ s₁.backgroundQueue) :
    Fair s s₁ ∧ b ∈ s.backgroundQueue := by
  cases h with
  | foreground hq ht =>
    refine ⟨?_, hb⟩
    have hne : s.backgroundQueue ≠ [] := ne_nil_of_mem hb
    have hburst := ht.resolve_left hne
    unfold Fair
    dsimp only
    omega
  | background hq =>
    refine ⟨?_, hq ▸ .tail r hb⟩
    unfold Fair
    dsimp only
    omega

lemma pump_fair (answers : Nat → StartAnswers) (fuel : Nat)
    (hb : b ∈ (pump answers fuel s).backgroundQueue) :
    Fair s (pump answers fuel s) ∧ b ∈ s.backgroundQueue := by
  induction fuel generalizing s with
  | zero => exact ⟨fair_of_eq rfl rfl rfl, hb⟩
  | succ fuel ih =>
    obtain hblk | ⟨-, hbac, heq⟩ | ⟨-, r, s₁, ht, heq⟩ := pump_cases answers fuel s
    · rw [pump_blocked answers _ hblk] at hb ⊢
      exact ⟨fair_of_eq rfl rfl rfl, hb⟩
    · rw [heq] at hb
      rw [show ({ s with foregroundBurst := 0 } : Session).backgroundQueue = [] from
        hbac] at hb
      cases hb
    · rw [heq] at hb ⊢
      obtain ⟨hr, hb⟩ := ih hb
      have hq := executeOperation_quiet (answers r.id) r s₁
      have he : Fair s₁ (executeOperation (answers r.id) r s₁) :=
        fair_of_eq hq.foregroundTaken hq.backgroundTaken hq.foregroundBurst
      obtain ⟨hta, hb⟩ := ht.fair (hq.background.subset hb)
      exact ⟨hta.trans (he.trans hr), hb⟩

lemma Takes.settled (h : Takes r s s₁) : s₁.settled = s.settled := by
  cases h <;> rfl

lemma pump_settled (answers : Nat → StartAnswers) (fuel : Nat) :
    s.settled <+: (pump answers fuel s).settled := by
  induction fuel generalizing s with
  | zero => exact prefix_refl _
  | succ fuel ih =>
    obtain hb | ⟨-, -, heq⟩ | ⟨-, r, s₁, ht, heq⟩ := pump_cases answers fuel s
    · rw [pump_blocked answers _ hb]
    · rw [heq]
    · rw [heq, ← ht.settled]
      have he : s₁.settled <+: (executeOperation (answers r.id) r s₁).settled :=
        (executeOperation_quiet (answers r.id) r s₁).settled
      exact he.trans ih

structure Inv (s : Session) : Prop where
  core : Core [] s
  idle : Idle s

def Held (s : Session) : Prop :=
  s.invalidated = true ∨ ∃ f ∈ s.frames, f.providerSettled = false

structure Moves (s t : Session) : Prop where
  inv : Inv t
  settled : s.settled <+: t.settled
  fair : ∀ b ∈ s.backgroundQueue, b ∈ t.backgroundQueue → Fair s t
  held : Held s → t.started = s.started

lemma Moves.of_quiet (hi : Inv t) (h : Quiet s t) : Moves s t :=
  ⟨hi, h.settled, fun _ _ _ => fair_of_eq h.foregroundTaken h.backgroundTaken h.foregroundBurst,
    fun _ => h.started⟩

lemma Moves.of_pump (answers : Nat → StartAnswers) (hc : Core [] s') (heq : Fair s s')
    (hst : s'.started = s.started) (hset : s.settled <+: s'.settled)
    (hh : Held s → s'.running = true ∨ s'.invalidated = true) : Moves s (s'.pump answers) := by
  refine ⟨⟨pump_core answers _ hc, pump_idle answers hc (Nat.lt_succ_self _)⟩,
    hset.trans (pump_settled answers _), fun b _ hb =>
      heq.trans (pump_fair answers _ hb).1, fun hs => ?_⟩
  have hblk : s'.pump answers = s' :=
    pump_blocked answers _ ((hh hs).imp_right .inl)
  rw [hblk, hst]

lemma Inv.rejects (h : Inv s) (hr : Rejects s t) : Inv t := by
  refine ⟨h.core.rejects hr, ?_⟩
  obtain rfl | ⟨hv, code, rfl⟩ := hr
  · exact h.idle
  · rw [reject_eq hv]
    exact nofun

lemma Moves.of_rejects (h : Inv s) (hr : Rejects s t) : Moves s t :=
  Moves.of_quiet (h.rejects hr) hr.quiet

lemma Inv.invalidateLocal (h : Inv s) (cause : FailureCode) : Inv (invalidateLocal s cause) := by
  refine ⟨h.core.invalidateLocal cause, fun _ hval => ?_⟩
  unfold Signer.invalidateLocal
  split <;> exact ⟨rfl, rfl⟩

lemma Inv.mapFrames {change : Frame → Frame} (h : Inv s)
    (hid : ∀ f ∈ s.frames, (change f).request = f.request ∧ (change f).returned = f.returned)
    (hok : ∀ f ∈ s.frames, f.Ok → (change f).Ok) : Inv { s with frames := s.frames.map change } :=
  ⟨h.core.mapFrames hid hok, fun hf => h.idle (map_eq_nil_iff.1 hf)⟩

lemma held_running (hc : Core extra s) (h : Held s) : s.running = true ∨ s.invalidated = true := by
  rcases h with he | ⟨f, hf, -⟩
  · exact .inr he
  · exact .inl (hc.running.2 (ne_nil_of_mem hf))

lemma Core.push (h : Core [] s) (hv : s.invalidated = false) (hn : id ∉ s.accepted)
    {foregroundQueue backgroundQueue : List Request}
    (hq : ((foregroundQueue ++ backgroundQueue).map Request.id).Perm
      ((s.foregroundQueue ++ s.backgroundQueue).map Request.id ++ [id])) : Core [] { s with
      accepted := s.accepted ++ [id]
      foregroundQueue := foregroundQueue
      backgroundQueue := backgroundQueue } := by
  refine ⟨h.single, h.running, h.unavailable, fun hi => ?_, ?_, ?_, h.frame, h.started, h.resolved⟩
  · rw [hv] at hi
    cases hi
  · refine Perm.trans ?_ (h.accounted.append_right [id])
    apply perm_iff_count.2
    intro n
    have hc := hq.count_eq n
    simp only [Session.open, count_append, count_nil] at hc ⊢
    omega
  · refine nodup_append.2 ⟨h.nodup, by simp, fun a ha b hb => ?_⟩
    rw [mem_singleton] at hb
    exact fun hab => hn (hb ▸ hab ▸ ha)

lemma runOperation_moves {auth ident : Bool} (h : Inv s) (hn : r.id ∉ s.accepted) :
    Moves s (runOperation maxQueuedOperations answers r auth ident s) := by
  unfold runOperation
  split
  · next hc => exact Moves.of_rejects h (assertAuthority_eq hc).1
  · next passed hc =>
    obtain ⟨heq, hv, -⟩ := (assertAuthority_eq hc).2 rfl
    subst passed
    split
    · exact Moves.of_rejects h (Rejects.refl s)
    · split
      · exact Moves.of_rejects h (Rejects.refl s)
      · split
        · exact Moves.of_rejects h (Rejects.refl s)
        · dsimp only
          -- The request joins the queue of its own priority.
          split
          · apply Moves.of_pump answers
            · apply h.core.push hv hn
              rw [map_append, map_append, map_append, append_assoc, append_assoc]
              exact perm_append_comm.append_left _
            · exact fair_of_eq rfl rfl rfl
            · rfl
            · exact prefix_refl _
            · exact held_running h.core
          · apply Moves.of_pump answers
            · apply h.core.push hv hn
              rw [← append_assoc, map_append]
              exact Perm.refl _
            · exact fair_of_eq rfl rfl rfl
            · rfl
            · exact prefix_refl _
            · exact held_running h.core

lemma callMethod_moves {input : CallInput} (h : Inv s) (hn : r.id ∉ s.accepted) :
    Moves s (callMethod maxQueuedOperations answers r input s) := by
  unfold callMethod
  split
  · exact Moves.of_rejects h (Rejects.refl s)
  · split
    · split
      · next hc => exact Moves.of_rejects h (assertAuthority_eq hc).1
      · next passed hc =>
        obtain ⟨heq, -⟩ := (assertAuthority_eq hc).2 rfl
        subst passed
        split
        · exact Moves.of_rejects h (rejects_reject s _)
        · exact runOperation_moves h hn
    · exact runOperation_moves h hn

lemma timeOut_moves (h : Inv s) (hf : s.frame id = some f) : Moves s (timeOut f s) := by
  obtain ⟨hfrm, -⟩ := h.core.frames_eq hf
  refine Moves.of_quiet ⟨?_, fun _ _ => ⟨rfl, rfl⟩⟩ (timeOut_quiet s f)
  have hc : Core [] (s.setFrame f.request.id fun f =>
      { f with operationCurrent := false, race := some .timedOut }) := by
    apply h.core.mapFrames
    · intro g _
      split <;> exact ⟨rfl, rfl⟩
    · intro g _ hok
      split
      · exact ⟨fun _ => rfl, fun hs => ⟨(hok.settled hs).1, rfl⟩⟩
      · exact hok
  have hu : Core [] { s.setFrame f.request.id fun f =>
      { f with operationCurrent := false, race := some .timedOut } with
      providerUnavailable := true } :=
    ⟨hc.single, hc.running, fun _ => by simp [setFrame, hfrm],
      hc.ended, hc.accounted, hc.nodup, hc.frame, hc.started,
      hc.resolved⟩
  exact hu.rejectQueued _

lemma finallyDo_moves {outcome : Outcome} (hm : s.frames = [f]) (hc : Core [] s')
    (hf : s'.frames = [f]) (hr : f.returned = false) (hra : f.race.isSome = true)
    (hq : Quiet s s') (hi : s.invalidated = true → s'.invalidated = true)
    (ho : ∀ invalidated auth, outcome = .resolved invalidated auth →
      invalidated = false ∧ auth = true) :
    Moves s (finallyDo answers f (s'.settle f.request.id outcome)) := by
  unfold finallyDo
  split
  · next hs =>
    have hfin : Core [] (finish (s'.settle f.request.id outcome) f.request.id) :=
      (hc.finish hf (.inl ⟨hr, rfl⟩)).settle ho
    apply Moves.of_pump answers hfin
      (fair_of_eq hq.foregroundTaken hq.backgroundTaken hq.foregroundBurst)
      hq.started (hq.settled.trans (prefix_append _ _))
    -- Nothing held the session back but its end, since the provider has settled.
    rintro (he | ⟨g, hg, hu⟩)
    · exact .inr (hi he)
    · rw [hm, mem_singleton] at hg
      subst hg
      rw [hs] at hu
      cases hu
  · -- The provider is late: the frame stays and holds the queues back until `finish`.
    have hs := (hc.returns hf hr hra).settle ho
    refine Moves.of_quiet ⟨hs, fun hn => ?_⟩
      ⟨hq.foreground, hq.background, hq.foregroundTaken, hq.backgroundTaken,
        hq.foregroundBurst, hq.started, hq.settled.trans (prefix_append _ _)⟩
    simp [setFrame, settle, hf] at hn

lemma Core.frame_of_mem (h : Core extra s) (hf : f ∈ s.frames) : s.frame f.request.id = some f := by
  unfold Session.frame
  cases hfi : s.frames.find? fun g => decide (g.request.id = f.request.id) with
  | none => simpa using find?_eq_none.1 hfi f hf
  | some g =>
    obtain ⟨hfrm, -⟩ := h.frames_eq hfi
    rw [hfrm, mem_singleton] at hf
    rw [hf]

lemma Rejects.frames_eq (h : Rejects s t) (hf : s.frames = [f]) (hr : f.race.isSome = true) :
    t.frames = [f] := by
  rcases h.frames with heq | ⟨code, heq⟩
  · rw [heq, hf]
  · rw [heq]
    have hne : f.race ≠ none := fun hn => by
      rw [hn] at hr
      cases hr
    simp [abort, hf, hne]

lemma Rejects.invalidated (h : Rejects s t) (hs : s.invalidated = true) : t.invalidated = true := by
  obtain rfl | ⟨hv, -⟩ := h
  · exact hs
  · rw [hv] at hs
    cases hs

lemma caught_invalidated (s : Session) (code : FailureCode) :
    (caught s code).invalidated = s.invalidated := by
  unfold caught
  split <;> rfl

lemma continueOperation_moves {checks : Checks} {race : Race} (h : Inv s)
    (hf : s.frame id = some f) (hra : f.race = some race) (hret : f.returned = false) :
    Moves s (continueOperation answers checks f race s) := by
  obtain ⟨hfrm, -⟩ := h.core.frames_eq hf
  have hs : f.race.isSome = true := by rw [hra]; rfl
  -- A failure is caught, whatever threw it.
  have hfa : ∀ {s' : Session} (code : FailureCode), Rejects s s' → Moves s
      (finallyDo answers f ((caught s' code).settle f.request.id (.failed code))) := by
    intro s' code hr
    apply finallyDo_moves hfrm ((h.core.rejects hr).caught code)
    · rw [caught_frames]
      exact hr.frames_eq hfrm hs
    · exact hret
    · exact hs
    · exact hr.quiet.trans (caught_quiet s' code)
    · rw [caught_invalidated]
      exact hr.invalidated
    · exact nofun
  unfold continueOperation
  cases race with
  | answered failure =>
    cases failure with
    | none =>
      cases hc : assertCurrent s checks f.operationCurrent with
      | mk s' failure =>
        obtain ⟨hr, hp⟩ := assertCurrent_eq hc
        cases failure with
        | some code => exact hfa code hr
        | none =>
          -- The only way to a result is the check of the auth right before it.
          obtain ⟨hsame, hv, ha⟩ := hp rfl
          subst s'
          apply finallyDo_moves hfrm h.core hfrm hret hs (Quiet.refl s) (fun hi => hi)
          intro invalidated auth heq
          cases heq
          exact ⟨hv, ha⟩
    | some code => exact hfa code (Rejects.refl s)
  | cancelled code => exact hfa code (Rejects.refl s)
  | timedOut => exact hfa .timeout (Rejects.refl s)

lemma finish_moves (h : Inv s) (hf : s.frame id = some f) (hr : f.returned = true)
    (hs : f.providerSettled = true) : Moves s ((finish s id).pump answers) := by
  obtain ⟨hfrm, rfl⟩ := h.core.frames_eq hf
  apply Moves.of_pump answers (h.core.finish hfrm (.inr ⟨hr, rfl⟩))
  · exact fair_of_eq rfl rfl rfl
  · rfl
  · exact prefix_refl _
  · rintro (he | ⟨g, hg, hu⟩)
    · exact .inr he
    · rw [hfrm, mem_singleton] at hg
      subst hg
      rw [hs] at hu
      cases hu

lemma SessionStep.moves {a : Action} (h : Inv s) (hst : SessionStep maxQueuedOperations a s t) :
    Moves s t := by
  unfold SessionStep at hst
  cases a with
  | call r input answers =>
    simp only [act] at hst
    split at hst
    · cases hst
    · next hn =>
      cases hst
      exact callMethod_moves h hn
  | invalidateLocal cause =>
    cases hst
    exact Moves.of_quiet (h.invalidateLocal cause) (invalidateLocal_quiet s cause)
  | resumeBackgroundOperations authority identity answers =>
    simp only [act] at hst
    split at hst
    · next hc =>
      cases hst
      exact Moves.of_rejects h (assertAuthority_eq hc).1
    · next passed hc =>
      obtain ⟨hsame, -⟩ := (assertAuthority_eq hc).2 rfl
      subst passed
      cases hst
      have hco : Core [] { s with backgroundPaused := false } :=
        ⟨h.core.single, h.core.running, h.core.unavailable, h.core.ended, h.core.accounted,
          h.core.nodup, h.core.frame, h.core.started, h.core.resolved⟩
      apply Moves.of_pump answers hco
      · exact fair_of_eq rfl rfl rfl
      · rfl
      · exact prefix_refl _
      · exact held_running h.core
  | read authority identity =>
    cases hst
    exact Moves.of_rejects h (assertAuthority_rejects s authority identity)
  | assertCurrent id checks =>
    obtain ⟨f, -, heq⟩ := bind_eq_some_iff.1 hst
    cases heq
    exact Moves.of_rejects h (assertCurrent_rejects s checks f.operationCurrent)
  | signerSettles id answer authority identity =>
    simp only [act, run_gives, some.injEq] at hst
    obtain ⟨f, hf, hnone, rfl⟩ := hst
    have hrej := operationAnswer_rejects s f.request.method answer authority identity
    refine Moves.of_quiet ?_ ?_
    · apply (h.rejects hrej).mapFrames
      · intro g _
        split <;> exact ⟨rfl, rfl⟩
      · intro g _ hok
        split
        · exact ⟨hok.returned, fun hs => ⟨rfl, (hok.settled hs).2⟩⟩
        · exact hok
    · have hq := hrej.quiet
      exact ⟨hq.foreground, hq.background, hq.foregroundTaken, hq.backgroundTaken,
        hq.foregroundBurst, hq.started, hq.settled⟩
  | providerSettles id =>
    simp only [act, run_gives, some.injEq] at hst
    obtain ⟨f, hf, answer, ha, huns, rfl⟩ := hst
    obtain ⟨hfrm, hid⟩ := h.core.frames_eq hf
    refine Moves.of_quiet ?_ ?_
    · apply h.mapFrames
      · intro g _
        split <;> exact ⟨rfl, rfl⟩
      · intro g hg hok
        rw [hfrm, mem_singleton] at hg
        subst hg
        rw [if_pos hid]
        exact ⟨fun _ => by simp, fun _ => ⟨by rw [ha]; rfl, by simp⟩⟩
    · exact ⟨Sublist.refl _, Sublist.refl _, rfl, rfl, rfl, rfl, prefix_refl _⟩
  | timeOut id =>
    simp only [act, run_gives, some.injEq] at hst
    obtain ⟨f, hf, hra, rfl⟩ := hst
    exact timeOut_moves h hf
  | continueOperation id checks answers =>
    simp only [act, run_gives, some.injEq] at hst
    obtain ⟨f, hf, race, hra, hr, rfl⟩ := hst
    exact continueOperation_moves h hf hra hr
  | finish id answers =>
    simp only [act, run_gives, some.injEq] at hst
    obtain ⟨f, hf, hr, rfl⟩ := hst
    exact finish_moves h hf hr.1 hr.2

lemma continueOperation_settles (answers : Nat → StartAnswers) (checks : Checks) (f : Frame)
    (race : Race) (s : Session) : ∃ outcome,
      ⟨f.request.id, outcome⟩ ∈ (continueOperation answers checks f race s).settled := by
  have hf : ∀ (s : Session) (outcome : Outcome), ⟨f.request.id, outcome⟩ ∈
      (finallyDo answers f (s.settle f.request.id outcome)).settled := by
    intro s outcome
    have hm : ⟨f.request.id, outcome⟩ ∈ (s.settle f.request.id outcome).settled :=
      mem_append_right _ (mem_singleton_self _)
    unfold finallyDo
    split
    · exact (pump_settled answers _).subset hm
    · exact hm
  unfold continueOperation
  cases race with
  | answered failure =>
    cases failure with
    | none =>
      cases assertCurrent s checks f.operationCurrent with
      | mk s' failure =>
        cases failure with
        | none => exact ⟨_, hf s' _⟩
        | some code => exact ⟨_, hf (caught s' code) _⟩
    | some code => exact ⟨_, hf (caught s code) _⟩
  | cancelled code => exact ⟨_, hf (caught s code) _⟩
  | timedOut => exact ⟨_, hf (caught s .timeout) _⟩

lemma inv_start : Inv start :=
  ⟨⟨by simp [start], by simp [start], nofun, nofun, Perm.refl _,
    nodup_nil, fun _ hf => absurd hf not_mem_nil, fun _ he => absurd he not_mem_nil,
    fun _ he => absurd he not_mem_nil⟩, fun _ _ => ⟨rfl, rfl⟩⟩

lemma Core.frames_nil_of_quiet (h : Core extra s) (hsig : s.signing = []) (hd : s.due = []) :
    s.frames = [] := by
  apply eq_nil_iff_forall_not_mem.2
  intro f hf
  have hs : f.answer.isSome = true := by
    have hnil := filter_eq_nil_iff.1 (map_eq_nil_iff.1 hsig) f hf
    rwa [isNone_iff_eq_none, ← ne_eq, ← isSome_iff_ne_none] at hnil
  have hn := filter_eq_nil_iff.1 (map_eq_nil_iff.1 hd) f hf
  have hok := h.frame f hf
  simp only [hs, Bool.true_and, Bool.or_eq_true, Bool.and_eq_true, Bool.not_eq_true',
    not_or, Bool.not_eq_false] at hn
  obtain ⟨⟨hset, hra⟩, hr⟩ := hn
  have hr' : f.returned = true := by
    by_contra ho
    rw [Bool.not_eq_true] at ho
    exact hra ⟨(hok.settled hset).2, ho⟩
  exact hr ⟨hr', hset⟩

end

def WaitingStep (maxQueuedOperations : Nat) (b : Request) (a : Action) (s t : Session) : Prop :=
  SessionStep maxQueuedOperations a s t ∧ b ∈ s.backgroundQueue ∧ b ∈ t.backgroundQueue

def Late (f : Frame) : Prop := f.race = some .timedOut ∧ f.providerSettled = false

/-- One operation at a time and none left waiting; requests settle once, under authority; a late
provider holds all back; four foreground ones go before a background one. -/
theorem one_operation_at_a_time {maxQueuedOperations : Nat} {l : List Action} {s : Session}
    (run : Run (SessionStep maxQueuedOperations) .start l s) :
    s.signing.length ≤ 1 ∧ (s.running = true ↔ s.frames ≠ []) ∧
      (s.signing = [] → s.due = [] → s.invalidated = false →
        s.foregroundQueue = [] ∧ s.backgroundQueue = []) ∧
      (s.open ++ s.settled.map Settled.id).Perm s.accepted ∧ s.accepted.Nodup ∧
      (∀ a t, SessionStep maxQueuedOperations a s t → s.settled <+: t.settled) ∧
      (∀ f ∈ s.frames, f.race.isSome = true → f.returned = false → ∀ checks answers, ∃ t outcome,
        SessionStep maxQueuedOperations (.continueOperation f.request.id checks answers) s t ∧
          ⟨f.request.id, outcome⟩ ∈ t.settled) ∧
      (∀ e ∈ s.started, e.invalidated = false ∧ e.authority = true) ∧
      (∀ e ∈ s.settled, ∀ invalidated authority,
        e.outcome = .resolved invalidated authority → invalidated = false ∧ authority = true) ∧
      (∀ a t, SessionStep maxQueuedOperations a s t →
        (s.invalidated = true ∨ ∃ f ∈ s.frames, Late f) → t.started = s.started) ∧
      ∀ b l' t, Run (WaitingStep maxQueuedOperations b) s l' t →
        t.foregroundTaken + 4 * s.backgroundTaken ≤
          s.foregroundTaken + 4 * t.backgroundTaken + 4 := by
  have hinv : Inv s := run.invariant (fun _ _ _ hi hstep => (hstep.moves hi).inv) inv_start
  refine ⟨?_, hinv.core.running, fun hsigning hdue hvalid => ?_, ?_, hinv.core.nodup,
    fun a t hstep => (hstep.moves hinv).settled, fun f hf hrace hreturned checks answers => ?_,
    hinv.core.started, hinv.core.resolved, fun a t hstep hheld => ?_, fun b l' t hwaits => ?_⟩
  · unfold signing
    rw [length_map]
    exact Nat.le_trans (length_filter_le _ _) hinv.core.single
  · exact hinv.idle (hinv.core.frames_nil_of_quiet hsigning hdue) hvalid
  · have haccounted := hinv.core.accounted
    rwa [append_nil] at haccounted
  · obtain ⟨race, hrace⟩ := isSome_iff_exists.1 hrace
    obtain ⟨outcome, hsettles⟩ := continueOperation_settles answers checks f race s
    refine ⟨_, outcome, ?_, hsettles⟩
    simp [SessionStep, act, hinv.core.frame_of_mem hf, hrace, hreturned]
  · exact (hstep.moves hinv).held (hheld.imp_right fun ⟨f, hf, hlate⟩ => ⟨f, hf, hlate.2⟩)
  · have hfair : Fair s t := hwaits.related (I := Inv) (R := Fair)
      (fun _ _ => fair_of_eq rfl rfl rfl) (fun _ _ _ => Fair.trans)
      (fun a s t hi hstep => ⟨(hstep.1.moves hi).inv,
        (hstep.1.moves hi).fair b hstep.2.1 hstep.2.2⟩)
      hinv
    unfold Fair at hfair
    omega

namespace LatePrompt

def granted : Checks := ⟨none, true, true, true, true, true⟩

def answers : Nat → StartAnswers := fun _ => ⟨granted, none⟩

def call (r : Request) : Action := .call r ⟨true, true, true, true, true, true⟩ answers

/-- The second decryption starts after the late answer, and returns. -/
def actions : List Action :=
  [call ⟨0, .signEvent, .foreground⟩, call ⟨1, .decryptNip44, .background⟩, .timeOut 0,
    .continueOperation 0 granted answers, .signerSettles 0 .value true true, .providerSettles 0,
    .finish 0 answers, call ⟨2, .decryptNip44, .background⟩,
    call ⟨3, .encryptNip44, .foreground⟩, .signerSettles 2 .value true true, .providerSettles 2,
    .continueOperation 2 granted answers]

end LatePrompt

open LatePrompt in
theorem one_operation_at_a_time_late : ∃ s : Session,
    s.signing = [3] ∧ s.settled = [⟨1, .rejected .provider_unavailable⟩, ⟨0, .failed .timeout⟩,
      ⟨2, .resolved false true⟩] ∧ (s.open ++ s.settled.map Settled.id).Perm s.accepted := by
  have hcheck : (actions.foldlM (act 4) .start).any (fun s => decide (s.signing = [3] ∧
      s.settled = [⟨1, .rejected .provider_unavailable⟩, ⟨0, .failed .timeout⟩,
        ⟨2, .resolved false true⟩])) = true := by
    decide +kernel
  obtain ⟨s, hs, hend⟩ := (any_eq_true _ _).1 hcheck
  obtain ⟨hsigning, hsettled⟩ := of_decide_eq_true hend
  have run : Run (SessionStep 4) .start actions s := Run.of_foldlM (fun _ _ _ h => h) hs
  exact ⟨s, hsigning, hsettled, (one_operation_at_a_time run).2.2.2.1⟩

end Conduit.Signer
