import Conduit.Gateway.Checks
import Conduit.Tickets

namespace Conduit.Gateway

open Js Runs Throwing Tickets List Bool Table

variable (P : GatewayPlatform) (env : Env) (names : List ApprovedName)

variable (log : List Event)

def Granted (request : Request) (now : Int) (checked : Checked) : Prop :=
  Proven P request checked now ∧ (checked.operation = .register →
    ∃ n ∈ checked.approval, ∃ o, .observed o ∈ log ∧ o.identity = checked.identity ∧
      Recovered o checked.name n now)

def StageOk (request : Request) (now : Int) (checked : Checked) : Stage → Prop
  | .observing => checked.operation = .register
  | .claiming => checked.operation.Changes ∧ Granted P log request now checked
  | .limiting => checked.operation = .recover
  | .forwarding => checked.operation.Changes → Granted P log request now checked
  | _ => checked.operation = .recover ∧ .forwarded ⟨request, some checked.raw, now⟩ ∈ log

def TaskOk : Task → Prop
  | .receiving request _ => isPublicReceivingPath (P.pathname request.url) = true
  | .managing request now checked stage =>
    management P names request now = .ok checked ∧ StageOk P log request now checked stage ∧
      validateApprovedNames P names = .ok ()

def EventOk (earlier : List Event) : Event → Prop
  | .forwarded f => ∀ identity operation, routeOf P f.request = some (identity, operation) →
    operation.Changes → validateApprovedNames P names = .ok () ∧
      ∃ checked, management P names f.request f.now = .ok checked ∧ f.body = some checked.raw ∧
        Granted P earlier f.request f.now checked
  | .observed o => ∃ f checked, .forwarded f ∈ earlier ∧
    management P names f.request f.now = .ok checked ∧ f.body = some checked.raw ∧
      checked.operation = .recover ∧ checked.identity = o.identity ∧ f.now = o.observedAt

def LogOk : List Event → Prop
  | [] => True
  | e :: earlier => EventOk P names earlier e ∧ LogOk earlier

/-- The claim that a request holds until it is forwarded. -/
def heldTicket : Task → Option Text
  | .managing _ _ checked .forwarding =>
    if checked.operation.Changes then
      some (statementHash P checked.identity checked.verifiedStatements)
    else none
  | _ => none

def usedTicket : Event → Option Text
  | .forwarded f => (signedStatements P f.request f.body).map fun signed =>
    statementHash P signed.1 signed.2
  | .observed _ => none

def Claimed (s : GatewayState) (statement : Text) : Prop :=
  ∃ row ∈ s.claims.rows, row.statementHash = statement

structure Inv (s : GatewayState) : Prop where
  tasks : ∀ task ∈ s.tasks, TaskOk P names s.log task
  observations : ∀ o ∈ s.observations.rows, .observed o ∈ s.log
  log : LogOk P names s.log
  tickets : Sound (Claimed s) (s.tasks.filterMap (heldTicket P)) (s.log.filterMap (usedTicket P))

variable {P env names} {s t : GatewayState} {log log' : List Event} {task : Task}
  {request : Request} {now : Int} {checked : Checked} {stage : Stage}

section

variable (hlog : ∀ e ∈ log, e ∈ log')
include hlog

lemma Granted.mono (h : Granted P log request now checked) :
    Granted P log' request now checked := by
  refine ⟨h.1, fun hreg => ?_⟩
  obtain ⟨n, hn, o, ho, hr⟩ := h.2 hreg
  exact ⟨n, hn, o, hlog _ ho, hr⟩

lemma StageOk.mono (h : StageOk P log request now checked stage) :
    StageOk P log' request now checked stage := by
  cases stage with
  | observing => exact h
  | claiming => exact ⟨h.1, h.2.mono hlog⟩
  | limiting => exact h
  | forwarding => exact fun hc => (h hc).mono hlog
  | answering => exact ⟨h.1, hlog _ h.2⟩
  | pruning seen => exact ⟨h.1, hlog _ h.2⟩
  | storing seen => exact ⟨h.1, hlog _ h.2⟩

lemma TaskOk.mono (h : TaskOk P names log task) : TaskOk P names log' task := by
  cases task with
  | receiving request now => exact h
  | managing request now checked stage => exact ⟨h.1, h.2.1.mono hlog, h.2.2⟩

end

variable {seen : Option Text} {next : Option Task}

lemma mem_move {other : Task} (h : other ∈ (s.move task next).tasks) :
    other ∈ next ∨ other ∈ s.tasks := by
  rcases mem_append.1 h with hn | hold
  · exact .inl (Option.mem_toList.1 hn)
  · exact .inr (mem_of_mem_erase hold)

lemma Inv.move (h : Inv P names s) (hn : ∀ other ∈ next, TaskOk P names s.log other)
    (hh : ∀ other ∈ next, heldTicket P other = none) : Inv P names (s.move task next) := by
  refine ⟨?_, h.observations, h.log, h.tickets.lose ?_⟩
  · intro other ho
    rcases mem_move ho with hm | hm
    · exact hn other hm
    · exact h.tasks other hm
  · have he : next.toList.filterMap (heldTicket P) = [] := by
      apply filterMap_eq_nil_iff.2
      intro other ho
      exact hh other (Option.mem_toList.1 ho)
    show (filterMap (heldTicket P) (next.toList ++ s.tasks.erase task)).Subperm _
    rw [filterMap_append, he, nil_append]
    exact ((erase_sublist).filterMap _).subperm

lemma Inv.event {e : Event} (h : Inv P names s) (he : EventOk P names s.log e)
    (hu : usedTicket P e = none) : Inv P names { s with log := e :: s.log } := by
  refine ⟨fun task ht => (h.tasks task ht).mono fun _ => .tail _,
    fun o ho => .tail _ (h.observations o ho), ⟨he, h.log⟩, ?_⟩
  rw [filterMap_cons_none hu]
  exact h.tickets

lemma Inv.start : Inv P names .start :=
  ⟨fun _ h => absurd h not_mem_nil, fun _ h => absurd h not_mem_nil, trivial,
    .start _⟩

lemma changes_of_afterProof (h : afterProof P env request now checked = some stage) :
    Proven P request checked now ∧ stage = .claiming := by
  simp only [afterProof, run_gives] at h
  exact ⟨h.1, h.2.2.symm⟩

lemma stageOk_of_firstStage (hchk : management P names request now = .ok checked)
    (h : firstStage P env request now checked = some stage) :
    StageOk P log request now checked stage := by
  obtain ⟨body, hpa⟩ := management_ok hchk
  unfold firstStage at h
  cases hop : checked.operation with
  | register =>
    rw [hop] at h
    cases h
    exact hop
  | recover =>
    rw [hop] at h
    cases h
    exact hop
  | available =>
    rw [hop] at h
    cases h
    intro hc
    rw [hop] at hc
    exact absurd hc (by decide)
  | unregister =>
    rw [hop] at h
    obtain ⟨hp, rfl⟩ := changes_of_afterProof h
    refine ⟨.inr (.inl hop), hp, fun hr => ?_⟩
    rw [hop] at hr
    cases hr
  | transfer =>
    rw [hop] at h
    obtain ⟨hp, rfl⟩ := changes_of_afterProof h
    refine ⟨.inr (.inr hop), hp, fun hr => ?_⟩
    rw [hop] at hr
    cases hr
  | metadata => exact absurd hop hpa.notMetadata

lemma heldTicket_of_firstStage (h : firstStage P env request now checked = some stage) :
    heldTicket P (.managing request now checked stage) = none := by
  cases stage with
  | forwarding =>
    refine if_neg fun hc => ?_
    unfold firstStage at h
    rcases hc with hop | hop | hop <;> rw [hop] at h
    · cases h
    · cases (changes_of_afterProof h).2
    · cases (changes_of_afterProof h).2
  | _ => rfl

variable {admitted : Bool}

lemma valid_of_handlerOf (h : handlerOf P env names request admitted ≠ .replies) :
    validateApprovedNames P names = .ok () := by
  by_contra hi
  exact h (if_pos hi)

lemma handlerOf_receiving (h : handlerOf P env names request admitted = .receiving) :
    isPublicReceivingPath (P.pathname request.url) = true := by
  simp only [handlerOf] at h
  split_ifs at h with _ _ _ _ _ _ hp
  exact hp.2

lemma firstTask_ok (h : task ∈ firstTask P env names request now admitted) :
    TaskOk P names log task ∧ heldTicket P task = none := by
  unfold firstTask at h
  cases hh : handlerOf P env names request admitted with
  | management =>
    have hv : validateApprovedNames P names = .ok () :=
      valid_of_handlerOf (by rw [hh]; exact Handler.noConfusion)
    simp only [hh] at h
    cases hc : management P names request now with
    | error reply => simp only [hc] at h; cases h
    | ok checked =>
      simp only [hc, Option.mem_def, Option.map_eq_some_iff] at h
      obtain ⟨stage, hst, rfl⟩ := h
      exact ⟨⟨hc, stageOk_of_firstStage hc hst, hv⟩, heldTicket_of_firstStage hst⟩
  | receiving =>
    simp only [hh, Option.mem_def, Option.some.injEq] at h
    subst h
    exact ⟨handlerOf_receiving hh, rfl⟩
  | replies => simp only [hh] at h; cases h
  | nameRequest => simp only [hh] at h; cases h

section

variable (hs : Inv P names s)
include hs

lemma receive_inv (h : receive P env names request now admitted s = some t) : Inv P names t := by
  simp only [receive, run_gives] at h
  obtain ⟨-, rfl⟩ := h
  refine ⟨?_, hs.observations, hs.log, hs.tickets.lose ?_⟩
  · intro task ht
    rcases mem_append.1 ht with hf | hold
    · exact (firstTask_ok (Option.mem_toList.1 hf)).1
    · exact hs.tasks task hold
  · have he : (firstTask P env names request now admitted).toList.filterMap (heldTicket P) =
        [] := by
      apply filterMap_eq_nil_iff.2
      intro task ht
      have hf : TaskOk P names s.log task ∧ heldTicket P task = none :=
        firstTask_ok (Option.mem_toList.1 ht)
      exact hf.2
    rw [filterMap_append, he, nil_append]

lemma observe_inv (h : observe P env request now checked s = some t) : Inv P names t := by
  simp only [observe, run_gives] at h
  obtain ⟨ht, seen, ho, n, hn, hr, stage, hst, rfl⟩ := h
  obtain ⟨hc, hreg, hv⟩ := hs.tasks _ ht
  obtain ⟨hp, rfl⟩ := changes_of_afterProof hst
  apply hs.move
  · rintro other ⟨⟩
    refine ⟨hc, ⟨.inl hreg, hp, fun _ => ⟨n, hn, seen, ?_, ?_, hr⟩⟩, hv⟩
    · exact hs.observations seen (mem_of_get ho)
    · exact key_of_get ho
  · rintro other ⟨⟩
    rfl

lemma claim_inv {answered : Bool} (h : claim P request now checked answered s = some t) :
    Inv P names t := by
  simp only [claim, run_gives] at h
  obtain ⟨ht, hn, rfl⟩ := h
  obtain ⟨hc, ⟨hchg, hg⟩, hv⟩ := hs.tasks _ ht
  set statement := statementHash P checked.identity checked.verifiedStatements with hstat
  set row : Claim := ⟨statement, checked.identity, checked.timestamp + 600⟩
  have hm : ∀ k, Claimed s k → ∃ r ∈ (s.claims.put row).rows, r.statementHash = k := by
    rintro k ⟨r, hr, rfl⟩
    refine ⟨r, mem_put.2 (.inr ⟨hr, ?_⟩), rfl⟩
    exact get_eq_none.1 hn r hr
  have hsnd : Sound (fun k => ∃ r ∈ (s.claims.put row).rows, r.statementHash = k)
      (statement :: s.tasks.filterMap (heldTicket P)) (s.log.filterMap (usedTicket P)) := by
    apply hs.tickets.claim
    · rintro ⟨r, hr, hk⟩
      exact get_eq_none.1 hn r hr hk
    · exact hm
    · exact ⟨row, mem_put.2 (.inl rfl), rfl⟩
  have hre : (filterMap (heldTicket P) (s.tasks.erase
      (.managing request now checked .claiming))).Subperm (s.tasks.filterMap (heldTicket P)) :=
    (erase_sublist.filterMap _).subperm
  cases answered with
  | false =>
    refine ⟨fun other ho => ?_, hs.observations, hs.log, hsnd.lose ?_⟩
    · exact hs.tasks other (mem_of_mem_erase ho)
    · exact hre.trans (sublist_cons_self _ _).subperm
  | true =>
    refine ⟨fun other ho => ?_, hs.observations, hs.log, hsnd.lose ?_⟩
    · rcases mem_cons.1 ho with rfl | hold
      · exact ⟨hc, fun _ => hg, hv⟩
      · exact hs.tasks other (mem_of_mem_erase hold)
    · have hh : heldTicket P (.managing request now checked .forwarding) = some statement :=
        if_pos hchg
      show (filterMap (heldTicket P) (_ :: s.tasks.erase _)).Subperm _
      rw [filterMap_cons_some hh]
      exact (subperm_cons statement).2 hre

lemma limit_inv (h : limit env request now checked s = some t) : Inv P names t := by
  simp only [limit, run_gives] at h
  obtain ⟨ht, -, rfl⟩ := h
  obtain ⟨hc, hr, hv⟩ := hs.tasks _ ht
  have hn : ¬ checked.operation.Changes := by
    rw [show checked.operation = .recover from hr]
    decide
  apply hs.move
  · rintro other ⟨⟩
    exact ⟨hc, fun hchg => absurd hchg hn, hv⟩
  · rintro other ⟨⟩
    exact if_neg hn

lemma answer_inv {reply : Answer} (h : answer P env names request now checked reply s = some t) :
    Inv P names t := by
  simp only [answer, run_gives] at h
  obtain ⟨ht, seen, hobs, hreg, rfl⟩ := h
  obtain ⟨hc, hf, hv⟩ := hs.tasks _ ht
  apply hs.move
  · rintro other ⟨⟩
    exact ⟨hc, hf, hv⟩
  · rintro other ⟨⟩
    rfl

lemma prune_inv (h : prune request now checked seen s = some t) : Inv P names t := by
  simp only [prune, run_gives] at h
  obtain ⟨ht, rfl⟩ := h
  obtain ⟨hc, hf, hv⟩ := hs.tasks _ ht
  have hm : Inv P names (s.move (.managing request now checked (.pruning seen))
      (some (.managing request now checked (.storing seen)))) := by
    apply hs.move
    · rintro other ⟨⟩
      exact ⟨hc, hf, hv⟩
    · rintro other ⟨⟩
      rfl
  refine ⟨hm.tasks, fun o ho => hs.observations o ?_, hm.log, hm.tickets⟩
  exact mem_of_mem_filter ho

lemma store_inv (h : store request now checked seen s = some t) : Inv P names t := by
  simp only [store, run_gives] at h
  obtain ⟨ht, -, rfl⟩ := h
  obtain ⟨hc, ⟨hr, hf⟩, hval⟩ := hs.tasks _ ht
  have hm : Inv P names (s.move (.managing request now checked (.storing seen)) none) := by
    apply hs.move
    · rintro other ⟨⟩
    · rintro other ⟨⟩
  have hev : EventOk P names s.log (.observed ⟨checked.identity, seen, now⟩) :=
    ⟨_, checked, hf, hc, rfl, hr, rfl, rfl⟩
  have hl := hm.event hev rfl
  refine ⟨hl.tasks, fun o ho => ?_, hl.log, hl.tickets⟩
  rcases mem_put.1 ho with rfl | ⟨hold, -⟩
  · exact .head _
  · exact .tail _ (hs.observations o hold)

end

lemma managementPath_of_receiving {pathname : Text} (h : isPublicReceivingPath pathname = true) :
    managementPath pathname = none := by
  have ho : "lnurlp".toList ≠ "lnurlpay".toList := by decide
  have hkn : ".well-known".toList ≠ "lnurlpay".toList := by decide
  unfold isPublicReceivingPath at h
  unfold managementPath
  split at h
  next hsp =>
    simp only [and_eq_true, beq_iff_eq] at h
    rw [hsp]
    exact if_neg fun hp => ho (h.1.2.symm.trans hp.2.1)
  next hsp =>
    simp only [and_eq_true, or_eq_true, beq_iff_eq] at h
    rw [hsp]
    refine if_neg fun hp => ?_
    rcases h.2 with (hf | hf) | hf
    · exact hkn (hf.1.1.symm.trans hp.2.1)
    · exact ho (hf.1.1.symm.trans hp.2.1)
    · exact ho (hf.1.1.symm.trans hp.2.1)
  next hsp => rw [hsp]
  next => cases h

lemma forwardReceiving_inv (hs : Inv P names s)
    (h : forwardReceiving env request now s = some t) : Inv P names t := by
  simp only [forwardReceiving, run_gives] at h
  obtain ⟨ht, -, rfl⟩ := h
  have hr : routeOf P request = none := by
    rw [routeOf, managementPath_of_receiving (hs.tasks _ ht)]
    rfl
  have hm : Inv P names (s.move (.receiving request now) none) := by
    apply hs.move
    · rintro other ⟨⟩
    · rintro other ⟨⟩
  apply hm.event
  · intro ident op hso
    rw [hr] at hso
    cases hso
  · simp only [usedTicket, signedStatements, hr, Option.bind_eq_bind, Option.bind_none,
      Option.map_none]

lemma usedTicket_of_passed {body : JsonValue} (h : Passed P names request now checked body) :
    usedTicket P (.forwarded ⟨request, some checked.raw, now⟩) =
      heldTicket P (.managing request now checked .forwarding) := by
  by_cases hc : checked.operation.Changes
  · rw [usedTicket, h.signedStatements hc, heldTicket, if_pos hc]
    rfl
  · rw [heldTicket, if_neg hc]
    simp only [usedTicket, signedStatements, h.route, Option.bind_eq_bind, Option.bind_some,
      hc, guard_false, Option.failure_eq_none, Option.bind_none, Option.map_none]

lemma forward_inv (hs : Inv P names s) (h : forward env request now checked s = some t) :
    Inv P names t := by
  simp only [forward, run_gives] at h
  obtain ⟨hta, -, rfl⟩ := h
  obtain ⟨hc, hg, hv⟩ := hs.tasks _ hta
  obtain ⟨body, hp⟩ := management_ok hc
  set task := Task.managing request now checked .forwarding
  set event := Event.forwarded ⟨request, some checked.raw, now⟩
  have hev : EventOk P names s.log event := by
    intro ident op hr hchg
    obtain ⟨-, rfl⟩ := Prod.mk.inj (Option.some.inj (hp.route.symm.trans hr))
    exact ⟨hv, checked, hc, rfl, hg hchg⟩
  have hu : usedTicket P event = heldTicket P task := usedTicket_of_passed hp
  have hlog : ∀ e ∈ s.log, e ∈ event :: s.log := fun _ => .tail _
  refine ⟨?_, fun o ho => hlog _ (hs.observations o ho), ⟨hev, hs.log⟩, ?_⟩
  · intro other hoth
    rcases mem_move hoth with hn | hold
    · split_ifs at hn with hrec
      · cases hn
        exact ⟨hc, ⟨hrec, .head _⟩, hv⟩
      · cases hn
    · exact (hs.tasks other hold).mono hlog
  · have hn : (if checked.operation = .recover then
        some (Task.managing request now checked .answering) else none).toList.filterMap
          (heldTicket P) = [] := by
      split_ifs <;> rfl
    have hpm : (s.tasks.filterMap (heldTicket P)).Perm
        ((task :: s.tasks.erase task).filterMap (heldTicket P)) :=
      (perm_cons_erase hta).filterMap _
    show Sound _ (filterMap (heldTicket P) (_ ++ s.tasks.erase task))
      ((event :: s.log).filterMap (usedTicket P))
    rw [filterMap_append, hn, nil_append]
    cases ht : heldTicket P task with
    | none =>
      rw [filterMap_cons_none (hu.trans ht)]
      rw [filterMap_cons_none ht] at hpm
      exact hs.tickets.lose hpm.symm.subperm
    | some ticket =>
      rw [filterMap_cons_some (hu.trans ht)]
      rw [filterMap_cons_some ht] at hpm
      exact hs.tickets.use hpm

lemma step_inv {a : Action} (hs : Inv P names s) (h : Step P env names a s t) : Inv P names t := by
  cases a with
  | receive request now admitted => exact receive_inv hs h
  | observe request now checked => exact observe_inv hs h
  | claim request now checked answered => exact claim_inv hs h
  | limit request now checked => exact limit_inv hs h
  | forward request now checked => exact forward_inv hs h
  | forwardReceiving request now => exact forwardReceiving_inv hs h
  | answer request now checked reply => exact answer_inv hs h
  | prune request now checked seen => exact prune_inv hs h
  | store request now checked seen => exact store_inv hs h

lemma run_inv {actions : List Action} (h : Run (Step P env names) .start actions s) :
    Inv P names s :=
  h.invariant (I := Inv P names) (fun _ _ _ hs hst => step_inv hs hst) .start

end Conduit.Gateway
