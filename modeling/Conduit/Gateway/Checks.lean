import Conduit.Gateway.Requests
import Mathlib.Data.Option.Basic

namespace Conduit.Gateway

open Js Throwing List

variable {P : GatewayPlatform} {names : List ApprovedName} {request : Request} {now : Int}
  {checked : Checked} {body : JsonValue} {identity name description : Text} {timestamp : Int}
  {approval : Option ApprovedName} {statements : List Text} {operation : Operation}

def routeOf (P : GatewayPlatform) (request : Request) : Option (Text × Operation) :=
  (managementPath (P.pathname request.url)).map fun route =>
    (route.1, operationOf route.2 request.method)

def approvalOf (names : List ApprovedName) (name identity : Text) : Option ApprovedName :=
  names.find? fun n => decide (n.name = name ∧ n.sparkIdentity = identity)

structure Passed (P : GatewayPlatform) (names : List ApprovedName) (request : Request) (now : Int)
    (checked : Checked) (body : JsonValue) : Prop where
  route : routeOf P request = some (checked.identity, checked.operation)
  identity : ValidSparkIdentity P checked.identity
  notMetadata : checked.operation ≠ .metadata
  raw : request.body = some checked.raw
  parsed : P.parse checked.raw = some body
  timestamp : fresh (body.field "timestamp") now = some checked.timestamp
  name : checked.name = stringOrEmpty (body.field "username")
  validName : checked.operation ≠ .recover → ValidName checked.name
  approval : checked.approval = approvalOf names checked.name checked.identity
  statements : statementsOf P checked.operation body checked.identity checked.name
    checked.timestamp checked.approval now = .ok checked.verifiedStatements

lemma management_ok (h : management P names request now = .ok checked) :
    ∃ body, Passed P names request now checked body := by
  obtain ⟨⟨identity, segment⟩, hr, h⟩ := bind_ok.1 h
  obtain ⟨hi, h⟩ := rejects_ok.1 h
  obtain ⟨hm, h⟩ := rejects_ok.1 h
  obtain ⟨-, h⟩ := rejects_ok.1 h
  obtain ⟨raw, hraw, h⟩ := bind_ok.1 h
  obtain ⟨body, hb, h⟩ := bind_ok.1 h
  obtain ⟨-, h⟩ := rejects_ok.1 h
  obtain ⟨timestamp, ht, h⟩ := bind_ok.1 h
  obtain ⟨hn, h⟩ := rejects_ok.1 h
  obtain ⟨statements, hs, h⟩ := bind_ok.1 h
  obtain rfl := pure_ok.1 h
  refine ⟨body, ?_, not_not.1 hi, hm, ?_, orReply_ok.1 hb, orReply_ok.1 ht, rfl, ?_, rfl, hs⟩
  · rw [routeOf, orReply_ok.1 hr]
    rfl
  · exact (Option.filter_eq_some_iff.1 (orReply_ok.1 hraw)).1
  · intro hop
    by_contra hinv
    exact hn (.inr ⟨hop, hinv⟩)

variable {value : Option JsonValue}

lemma fresh_eq_some {n : Int} (h : fresh value now = some n) :
    value = some (.int n) ∧ IsSafeInteger n ∧ (now - n).natAbs ≤ 600 := by
  simp only [fresh, run_gives, Option.bind_eq_some_iff] at h
  obtain ⟨m, ⟨json, hj, hm⟩, hf, rfl⟩ := h
  refine ⟨?_, hf⟩
  cases json with
  | int k =>
    obtain rfl : k = m := Option.some.inj hm
    exact hj
  | _ => cases hm

lemma eq_string_of_stringOrEmpty {s : Text} (h : stringOrEmpty value = s) (hs : s ≠ []) :
    value = some (.string s) := by
  match value with
  | some (.string t) => exact congrArg (fun t => some (JsonValue.string t)) h
  | none => exact absurd h.symm hs
  | some .null => exact absurd h.symm hs
  | some (.bool _) => exact absurd h.symm hs
  | some (.int _) => exact absurd h.symm hs
  | some (.number _) => exact absurd h.symm hs
  | some (.array _) => exact absurd h.symm hs
  | some (.object _) => exact absurd h.symm hs

lemma ValidName.ne_nil (h : ValidName name) : name ≠ [] := by
  rintro rfl
  exact (h.2 [] mem_cons_self).1 rfl

lemma approvalOf_eq_some {n : ApprovedName} (h : approvalOf names name identity = some n) :
    n ∈ names ∧ n.name = name ∧ n.sparkIdentity = identity :=
  ⟨mem_of_find?_eq_some h, of_decide_eq_true
    (find?_some (p := fun n : ApprovedName =>
      decide (n.name = name ∧ n.sparkIdentity = identity)) h)⟩

structure Transferred (P : GatewayPlatform) (body : JsonValue)
    (identity name description : Text) (timestamp : Int) (approval : Option ApprovedName)
    (now : Int) (source : Text) : Prop where
  given : fromPubkey body = some source
  approved : Transferable approval source identity now
  signedFrom : ∃ signature ∈ textOf (body.field "from_signature"), VerifyAddressWalletSignature P
    (transferFromMessage name source identity timestamp) signature source
  signedTo : ∃ signature ∈ textOf (body.field "to_signature"), VerifyAddressWalletSignature P
    (transferToMessage P name source identity description timestamp) signature identity

lemma transferStatements_ok
    (h : transferStatements P body identity name description timestamp approval now =
      .ok statements) :
    ∃ source, Transferred P body identity name description timestamp approval now source ∧
      statements = [transferFromMessage name source identity timestamp,
        transferToMessage P name source identity description timestamp] := by
  obtain ⟨source, hs, h⟩ := bind_ok.1 h
  obtain ⟨ha, h⟩ := rejects_ok.1 h
  obtain ⟨fromSignature, hfr, h⟩ := bind_ok.1 h
  obtain ⟨hf, h⟩ := rejects_ok.1 h
  obtain ⟨toSignature, hto, h⟩ := bind_ok.1 h
  obtain ⟨ht, h⟩ := rejects_ok.1 h
  refine ⟨source, ⟨orReply_ok.1 hs, not_not.1 ha, ?_, ?_⟩, (pure_ok.1 h).symm⟩
  · exact ⟨fromSignature, orReply_ok.1 hfr, not_not.1 hf⟩
  · exact ⟨toSignature, orReply_ok.1 hto, not_not.1 ht⟩

def ownMessage (P : GatewayPlatform) (operation : Operation)
    (identity name description : Text) (timestamp : Int) : Text :=
  if operation = .unregister then unregisterMessage name timestamp
  else breezAddressMessage P operation identity name description timestamp

lemma ownStatement_ok
    (h : ownStatement P operation body identity name description timestamp approval now =
      .ok statements) :
    (∃ signature ∈ textOf (body.field "signature"), VerifyAddressWalletSignature P
      (ownMessage P operation identity name description timestamp) signature identity) ∧
    (operation = .unregister → Deletable approval now) ∧
    (operation = .register → Registrable approval) ∧
    statements = [ownMessage P operation identity name description timestamp] := by
  obtain ⟨signature, hsig, h⟩ := bind_ok.1 h
  obtain ⟨hs, h⟩ := rejects_ok.1 h
  obtain ⟨-, h⟩ := rejects_ok.1 h
  obtain ⟨hu, h⟩ := rejects_ok.1 h
  obtain ⟨hr, h⟩ := rejects_ok.1 h
  refine ⟨⟨signature, orReply_ok.1 hsig, not_not.1 hs⟩, ?_, ?_, (pure_ok.1 h).symm⟩
  · intro hop
    by_contra hn
    exact hu ⟨hop, hn⟩
  · intro hop
    by_contra hn
    exact hr ⟨hop, hn⟩

def signedStatements (P : GatewayPlatform) (request : Request) (sent : Option Text) :
    Option (Text × List Text) := do
  let (identity, operation) ← routeOf P request
  guard operation.Changes
  let raw ← sent
  let body ← P.parse raw
  let timestamp ← (body.field "timestamp").bind JsonValue.int?
  let name := stringOrEmpty (body.field "username")
  let description := stringOrEmpty (body.field "description")
  if operation = .transfer then
    let source ← fromPubkey body
    pure (identity, [transferFromMessage name source identity timestamp,
      transferToMessage P name source identity description timestamp])
  else pure (identity, [ownMessage P operation identity name description timestamp])

lemma Passed.signedStatements (h : Passed P names request now checked body)
    (hc : checked.operation.Changes) : signedStatements P request (some checked.raw) =
      some (checked.identity, checked.verifiedStatements) := by
  obtain ⟨htim, -, -⟩ := fresh_eq_some h.timestamp
  have hs := h.statements
  unfold statementsOf at hs
  simp only [Gateway.signedStatements, h.route, Option.bind_eq_bind, Option.bind_some, hc,
    guard_true, h.parsed, htim, JsonValue.int?, Option.pure_def, ← h.name]
  split_ifs at hs ⊢ with htransfer
  · obtain ⟨source, ht, heq⟩ := transferStatements_ok hs
    rw [ht.given, heq]
    rfl
  · rw [(ownStatement_ok hs).2.2.2]

end Conduit.Gateway
