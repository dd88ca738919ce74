import Conduit.Gateway.Steps

namespace Conduit.Gateway

open Js Runs Throwing Tickets List Option

variable (P : GatewayPlatform) (env : Env) (names : List ApprovedName)

def Allows (n : ApprovedName) (operation : Operation) (body : JsonValue) (identity : Text)
    (now : Int) : Prop :=
  match operation with
  | .register => n.registration = true
  | .unregister => ApprovalWindow n.deleteUntil now
  | .transfer => ∃ source, fromPubkey body = some source ∧ n.transferFrom = some source ∧
      ApprovalWindow n.transferUntil now ∧ source ≠ identity
  | _ => False

def WalletSigned (operation : Operation) (body : JsonValue) (identity name description : Text)
    (timestamp : Int) : Prop :=
  match operation with
  | .transfer => ∃ source, fromPubkey body = some source ∧
      (∃ signature ∈ textOf (body.field "from_signature"), VerifyAddressWalletSignature P
        (transferFromMessage name source identity timestamp) signature source) ∧
      ∃ signature ∈ textOf (body.field "to_signature"), VerifyAddressWalletSignature P
        (transferToMessage P name source identity description timestamp) signature identity
  | _ => ∃ signature ∈ textOf (body.field "signature"), VerifyAddressWalletSignature P
      (ownMessage P operation identity name description timestamp) signature identity

/-- What stands behind a change that the provider is sent. -/
structure Authorised (earlier : List Event) (f : Forwarded) (identity : Text)
    (operation : Operation) (n : ApprovedName) (body : JsonValue) (timestamp : Int) : Prop where
  approved : n ∈ names ∧ n.sparkIdentity = identity
  sent : f.body = f.request.body ∧ f.body.bind P.parse = some body
  username : body.field "username" = some (.string n.name)
  stamped : body.field "timestamp" = some (.int timestamp)
  fresh : (f.now - timestamp).natAbs ≤ 600
  allowed : Allows n operation body identity f.now
  signed : WalletSigned P operation body identity n.name
    (stringOrEmpty (body.field "description")) timestamp
  proven : ∃ raw ∈ f.body, ValidManagementAccountProof P f.request raw n.ownerPubkey f.now
  recovered : operation = .register →
    ∃ o, .observed o ∈ earlier ∧ o.identity = identity ∧ Recovered o n.name n f.now

def walletStatement : Event → Option (Text × Text)
  | .forwarded f => (signedStatements P f.request f.body).bind fun signed =>
    signed.2.getLast?.map fun statement => (signed.1, statement)
  | .observed _ => none

variable {P env names} {s : GatewayState} {log earlier later : List Event} {f g : Forwarded}
  {checked checked' : Checked} {body body' : JsonValue} {n : ApprovedName} {operation : Operation}
  {req request' : Request} {now now' : Int} {identity identity' name name' : Text}
  {source source' description description' : Text} {timestamp timestamp' : Int}

lemma Passed.allows (h : Passed P names req now checked body)
    (hc : checked.operation.Changes) (hn : checked.approval = some n) :
    Allows n checked.operation body checked.identity now ∧
      WalletSigned P checked.operation body checked.identity checked.name
        (stringOrEmpty (body.field "description")) checked.timestamp := by
  have hs := h.statements
  rcases hc with hop | hop | hop <;> rw [hop] at hs ⊢
  · obtain ⟨hsig, -, hreg, -⟩ := ownStatement_ok hs
    obtain ⟨m, hm, hr⟩ := hreg rfl
    obtain rfl := some.inj (hn.symm.trans hm)
    exact ⟨hr, hsig⟩
  · obtain ⟨hsig, hu, -, -⟩ := ownStatement_ok hs
    obtain ⟨m, hm, hw⟩ := hu rfl
    obtain rfl := some.inj (hn.symm.trans hm)
    exact ⟨hw, hsig⟩
  · obtain ⟨source, ht, -⟩ := transferStatements_ok hs
    obtain ⟨m, hm, hw⟩ := ht.approved
    obtain rfl := some.inj (hn.symm.trans hm)
    exact ⟨⟨source, ht.given, hw⟩, ⟨source, ht.given, ht.signedFrom, ht.signedTo⟩⟩

lemma changes_ne_recover (h : operation.Changes) : operation ≠ .recover := by
  rintro rfl
  exact absurd h (by decide)

lemma authorised_of_eventOk (h : EventOk P names earlier (.forwarded f))
    (hr : routeOf P f.request = some (identity, operation)) (hc : operation.Changes) :
    ∃ n body timestamp, Authorised P names earlier f identity operation n body timestamp := by
  obtain ⟨-, checked, hchk, hb, ⟨n, hn, hpr⟩, hreg⟩ :=
    h identity operation hr hc
  obtain ⟨body, hp⟩ := management_ok hchk
  obtain ⟨rfl, rfl⟩ := Prod.mk.inj (some.inj (hp.route.symm.trans hr))
  obtain ⟨hmem, hna, hi⟩ := approvalOf_eq_some (hp.approval.symm.trans hn)
  obtain ⟨ht, -, hf⟩ := fresh_eq_some hp.timestamp
  obtain ⟨ha, hs⟩ := hp.allows hc hn
  have hv := hp.validName (changes_ne_recover hc)
  refine ⟨n, body, checked.timestamp, ⟨hmem, hi⟩, ⟨?_, ?_⟩, ?_, ht, hf, ha,
    ?_, ⟨checked.raw, hb, hpr⟩, fun hop => ?_⟩
  · rw [hb, hp.raw]
  · rw [hb]
    exact hp.parsed
  · rw [hna]
    exact eq_string_of_stringOrEmpty hp.name.symm hv.ne_nil
  · rw [hna]
    exact hs
  · obtain ⟨m, hm, o, ho, hown, hrec⟩ := hreg hop
    obtain rfl := some.inj (hn.symm.trans hm)
    exact ⟨o, ho, hown, hna ▸ hrec⟩

variable {e : Event}

lemma LogOk.eventOk (h : LogOk P names log) (hl : log = later ++ e :: earlier) :
    EventOk P names earlier e := by
  induction later generalizing log with
  | nil =>
    subst hl
    exact h.1
  | cons first later ih =>
    subst hl
    exact ih h.2 rfl

lemma split_lines {parts : List Text} (hne : parts ≠ []) :
    split '\n' (lines parts) = parts.flatMap (split '\n') :=
  split_joinWith hne

lemma split_ownMessage (hop : operation ≠ .transfer) (hc : operation.Changes) : ∃ rest,
    split '\n' (ownMessage P operation identity name description timestamp) =
      "breez-lnurl:v2".toList ::
        (if operation = .unregister then "unregister".toList else "register".toList) :: rest := by
  have hf : split '\n' "breez-lnurl:v2".toList = ["breez-lnurl:v2".toList] := by decide
  have hr : split '\n' "register".toList = ["register".toList] := by decide
  have hu : split '\n' "unregister".toList = ["unregister".toList] := by decide
  rcases hc with rfl | rfl | rfl
  · refine ⟨[domain, name, P.addressRequestHash description, numberText timestamp].flatMap
      (split '\n'), ?_⟩
    rw [ownMessage, if_neg (by decide), breezAddressMessage, split_lines (cons_ne_nil _ _),
      flatMap_cons, flatMap_cons, hf, hr]
    rfl
  · refine ⟨[domain, name, numberText timestamp].flatMap (split '\n'), ?_⟩
    rw [ownMessage, if_pos rfl, unregisterMessage, split_lines (cons_ne_nil _ _),
      flatMap_cons, flatMap_cons, hf, hu]
    rfl
  · exact absurd rfl hop

lemma split_transferToMessage (hn : '\n' ∉ name) (hs : '\n' ∉ source) (hi : '\n' ∉ identity) :
    split '\n' (transferToMessage P name source identity description timestamp) =
      ["breez-lnurl:v2".toList, "transfer-to".toList, domain, name, source, identity] ++
        (split '\n' (P.addressRequestHash description) ++ [numberText timestamp]) := by
  have hf : split '\n' "breez-lnurl:v2".toList = ["breez-lnurl:v2".toList] := by decide
  have ht : split '\n' "transfer-to".toList = ["transfer-to".toList] := by decide
  have hd : split '\n' domain = [domain] := by decide
  rw [transferToMessage, split_lines (cons_ne_nil _ _)]
  simp only [flatMap_cons, flatMap_nil, hf, ht, hd,
    split_of_not_mem hn, split_of_not_mem hs, split_of_not_mem hi,
    split_of_not_mem (newline_not_mem_numberText timestamp), append_nil, cons_append,
    nil_append]

lemma transferToMessage_inj (hn : '\n' ∉ name) (hsrc : '\n' ∉ source)
    (hi : '\n' ∉ identity) (hn' : '\n' ∉ name') (hsrc' : '\n' ∉ source') (hi' : '\n' ∉ identity')
    (h : transferToMessage P name source identity description timestamp =
      transferToMessage P name' source' identity' description' timestamp') :
    name = name' ∧ source = source' ∧ identity = identity' ∧ timestamp = timestamp' := by
  have hs := congrArg (split '\n') h
  rw [split_transferToMessage hn hsrc hi, split_transferToMessage hn' hsrc' hi'] at hs
  simp only [cons_append, nil_append, cons.injEq, true_and] at hs
  obtain ⟨rfl, rfl, rfl, hr⟩ := hs
  have hl := congrArg getLast? hr
  rw [getLast?_concat, getLast?_concat] at hl
  exact ⟨rfl, rfl, rfl, numberText_inj (some.inj hl)⟩

lemma Passed.statement (h : Passed P names req now checked body)
    (hv : ∀ n ∈ names, ValidApproval P n) :
    (checked.operation ≠ .transfer ∧ ∃ description, checked.verifiedStatements =
      [ownMessage P checked.operation checked.identity checked.name description
        checked.timestamp]) ∨
    (checked.operation = .transfer ∧ ∃ source description, '\n' ∉ source ∧
      checked.verifiedStatements =
        [transferFromMessage checked.name source checked.identity checked.timestamp,
          transferToMessage P checked.name source checked.identity description
            checked.timestamp]) := by
  have hs := h.statements
  unfold statementsOf at hs
  by_cases htr : checked.operation = .transfer
  · right
    rw [if_pos htr] at hs
    obtain ⟨source, ht, heq⟩ := transferStatements_ok hs
    obtain ⟨n, hn, hsrc, -⟩ := ht.approved
    have hm := (approvalOf_eq_some (h.approval.symm.trans hn)).1
    have hval : ValidSparkIdentity P source := (hv n hm).2.2.2.2.1 source hsrc
    exact ⟨htr, source, _, newline_not_mem_of_isCompressedPubkey hval.1, heq⟩
  · left
    rw [if_neg htr] at hs
    exact ⟨htr, _, (ownStatement_ok hs).2.2.2⟩

lemma not_transferTo_eq_own (hn : '\n' ∉ name) (hsrc : '\n' ∉ source)
    (hi : '\n' ∉ identity) (hop : operation ≠ .transfer) (hc : operation.Changes) :
    ownMessage P operation identity' name' description' timestamp' ≠
      transferToMessage P name source identity description timestamp := by
  intro h
  have hs : ∃ rest, split '\n' (ownMessage P operation identity' name' description'
      timestamp') = "breez-lnurl:v2".toList ::
        (if operation = .unregister then "unregister".toList else "register".toList) :: rest :=
    split_ownMessage hop hc
  obtain ⟨rest, hr⟩ := hs
  rw [h, split_transferToMessage hn hsrc hi] at hr
  simp only [cons_append, cons.injEq] at hr
  revert hr
  split_ifs <;> exact fun hr => absurd hr.2.1 (by decide)

lemma statements_eq_of_getLast (h : Passed P names req now checked body)
    (h' : Passed P names request' now' checked' body') (hv : ∀ n ∈ names, ValidApproval P n)
    (hc : checked.operation.Changes) (hc' : checked'.operation.Changes)
    (hl : checked.verifiedStatements.getLast? = checked'.verifiedStatements.getLast?) :
    checked.verifiedStatements = checked'.verifiedStatements := by
  have hn := (h.validName (changes_ne_recover hc)).newline_not_mem
  have hn' := (h'.validName (changes_ne_recover hc')).newline_not_mem
  have hi := newline_not_mem_of_isCompressedPubkey h.identity.1
  have hi' := newline_not_mem_of_isCompressedPubkey h'.identity.1
  rcases h.statement hv with ⟨hop, d, hd⟩ | ⟨-, source, d, hs, hd⟩ <;>
    rcases h'.statement hv with ⟨hop', d', hd'⟩ | ⟨-, source', d', hs', hd'⟩ <;>
    rw [hd, hd'] at hl ⊢
  · exact congrArg (fun message => [message]) (some.inj hl)
  · exact absurd (some.inj hl) (not_transferTo_eq_own hn' hs' hi' hop
      hc)
  · exact absurd (some.inj hl).symm (not_transferTo_eq_own hn hs hi hop'
      hc')
  · have hto := some.inj hl
    obtain ⟨hna, hso, hid, ht⟩ :=
      transferToMessage_inj hn hs hi hn' hs' hi' hto
    refine congrArg₂ (fun base target => [base, target]) ?_ hto
    rw [hna, hso, hid, ht]

lemma signed_changes {sent : Option Text} {signed : Text × List Text}
    (h : signedStatements P req sent = some signed) :
    ∃ identity operation, routeOf P req = some (identity, operation) ∧ operation.Changes := by
  simp only [signedStatements, run_gives] at h
  obtain ⟨⟨identity, operation⟩, hr, hc, -⟩ := h
  exact ⟨identity, operation, hr, hc⟩

lemma signed_of_walletStatement {signed : Text × Text} (he : EventOk P names earlier e)
    (h : walletStatement P e = some signed) :
    (∀ n ∈ names, ValidApproval P n) ∧ ∃ req now checked body,
      Passed P names req now checked body ∧ checked.operation.Changes ∧
      usedTicket P e = some (statementHash P checked.identity checked.verifiedStatements) ∧
      checked.identity = signed.1 ∧ checked.verifiedStatements.getLast? = some signed.2 := by
  cases e with
  | observed o => cases h
  | forwarded f =>
    obtain ⟨both, hs, hl⟩ := bind_eq_some_iff.1 h
    obtain ⟨identity, operation, hr, hc⟩ := signed_changes hs
    obtain ⟨hv, checked, hchk, hbo, -⟩ := he identity operation hr hc
    obtain ⟨body, hp⟩ := management_ok hchk
    obtain ⟨rfl, rfl⟩ := Prod.mk.inj (some.inj (hp.route.symm.trans hr))
    have hb := hp.signedStatements hc
    rw [← hbo, hs] at hb
    cases hb
    obtain ⟨statement, hst, rfl⟩ := map_eq_some_iff.1 hl
    refine ⟨valid_of_validateApprovedNames hv, f.request, f.now, checked, body, hp,
      hc, ?_, rfl, hst⟩
    rw [usedTicket, hs]
    rfl

lemma LogOk.exists_eventOk (h : LogOk P names log) (he : e ∈ log) :
    ∃ earlier, EventOk P names earlier e := by
  obtain ⟨later, earlier, hs⟩ := append_of_mem he
  exact ⟨earlier, h.eventOk hs⟩

lemma walletStatements_nodup (hs : Inv P names s) :
    (s.log.filterMap (walletStatement P)).Nodup := by
  have hu := hs.tickets.used_nodup
  unfold Nodup at hu ⊢
  rw [pairwise_filterMap] at hu ⊢
  refine hu.imp_of_mem ?_
  intro e e' hm hm' hne signed hsig signed' hsig' heq
  subst heq
  obtain ⟨earlier, he⟩ := hs.log.exists_eventOk hm
  obtain ⟨earlier', he'⟩ := hs.log.exists_eventOk hm'
  obtain ⟨hv, req, now, checked, body, hp, hc, ht, hi, hl⟩ :=
    signed_of_walletStatement he hsig
  obtain ⟨-, request', now', checked', body', hp', hc', ht', hi', hl'⟩ :=
    signed_of_walletStatement he' hsig'
  have hst := statements_eq_of_getLast hp hp' hv hc hc'
    (hl.trans hl'.symm)
  refine hne _ ht _ ht' ?_
  rw [hst, hi, hi']

/-- Changes are authorised, no wallet's statement is sent twice, and observations come from a
recovery. -/
theorem name_changes_authorised {actions : List Action}
    (h : Run (Step P env names) .start actions s) :
    (∀ later f earlier, s.log = later ++ .forwarded f :: earlier → ∀ identity operation,
      routeOf P f.request = some (identity, operation) → operation.Changes →
        ∃ n body timestamp, Authorised P names earlier f identity operation n body timestamp) ∧
    (∀ later o earlier, s.log = later ++ .observed o :: earlier → ∃ f, .forwarded f ∈ earlier ∧
      routeOf P f.request = some (o.identity, .recover) ∧ f.now = o.observedAt) ∧
    (s.log.filterMap (walletStatement P)).Nodup := by
  have hs := run_inv h
  refine ⟨fun later f earlier hlog identity operation hroute hchanges => ?_,
    fun later o earlier hlog => ?_, walletStatements_nodup hs⟩
  · exact authorised_of_eventOk (hs.log.eventOk hlog) hroute hchanges
  · obtain ⟨f, checked, hf, hchecked, -, hrecover, hidentity, hnow⟩ := hs.log.eventOk hlog
    obtain ⟨body, hpassed⟩ := management_ok hchecked
    refine ⟨f, hf, ?_, hnow⟩
    rw [hpassed.route, hrecover, hidentity]

def replay (P : GatewayPlatform) (env : Env) (names : List ApprovedName) :
    List Action → GatewayState → Option GatewayState
  | [], s => some s
  | a :: actions, s => (apply P env names s a).bind (replay P env names actions)

lemma run_of_replay {actions : List Action} {s t : GatewayState}
    (h : replay P env names actions s = some t) : Run (Step P env names) s actions t := by
  induction actions generalizing s with
  | nil =>
    obtain rfl := some.inj h
    exact .nil s
  | cons a actions ih =>
    obtain ⟨mid, hm, hr⟩ := bind_eq_some_iff.1 h
    exact .cons hm (ih hr)

namespace Sample

def hex : Nat → Nat → Text
  | 0, _ => []
  | k + 1, n => hex k (n / 16) ++ [Nat.digitChar (n % 16)]

def previous : Text :=
  hex 66 0x025cbdf0646e5db4eaa398f365f2ea7a0e3d419b7e0330e39ce92bddedcac4f9bc

def wallet : Text :=
  hex 66 0x03774ae7f858a9411e5ef4246b70c65aac5649980be5c17891bbec17895da008cb

def owner : Text :=
  hex 64 0xf28773c2d975288bc7d1d205c3748651b075fbc6610e58cddeeddf8f19405aa8

def approval : ApprovedName :=
  ⟨"alice".toList, owner, wallet, false, none, none, some previous, some 1000⟩

def url : Text := "https://conduit.cash/lnurlpay/".toList ++ wallet ++ "/transfer".toList

def fromSignature : Text :=
  hex 71 0x3045022100cc099db6562d6de4eb84f1010ee675211d4ba8a047522f496ec58d8c0a93d ++
    hex 71 0x49b02200a8032211b56eb4d23a058842120fcb329917589821d81505179e7713ab6124c

structure Transfer where
  descriptionText : Text
  description : JsonValue
  (statement toSignature payload eventId eventSignature claim : Text)

def unnamed : Transfer where
  descriptionText := "7".toList
  description := .int 7
  statement := hex 64 0xe3b0c44298fc1c149afbf4c8996fb92427ae41e4649b934ca495991b7852b855
  toSignature :=
    hex 71 0x3045022100ab6c294da52222d470936938daa8d00d66b61e5004616f0825f4a4d265b2f ++
    hex 71 0x5c002205fa1bd29074d6756f64caedd53cfa03e6bb5f8b56ffd94c7600d566fb0e02733
  payload := hex 64 0xd07024ee4df70c34980fdc088265bc533dbf6a3abdd25da1f23fbb686b34bf4c
  eventId := hex 64 0x0caa868f20f76318884966c07750be083378724b26dd6f66e390de7b065b1b6c
  eventSignature :=
    hex 64 0x2af1cd90c01121d764533ca54bb88964de195ef0ee2fdf57977c18433c546afd ++
    hex 64 0x372a729bf825524da4d46dd83d0a6db59e7d037b6bf0ca83b9b305f41e4cc0fa
  claim := hex 64 0xd8422cb0172977c94095eac8fa3c8d687fd3319b28a54e949a517cc3a7e9335e

def renamed : Transfer where
  descriptionText := "\"b\"".toList
  description := .string "b".toList
  statement := hex 64 0x3e23e8160039594a33894f6564e1b1348bbd7a0088d42c4acb73eeaed59c009d
  toSignature :=
    hex 71 0x3045022100baf2ef3d44f7df50b30bae33c519b55391494e4395a99fbb6d5682098b5ff ++
    hex 71 0x1330220286290018b8d16af64dfd2a6a1aa83c311560192e0c58bae48eb9663876825a3
  payload := hex 64 0x15b394774ac61222158d56cc97f9d3862560da88650f9fc8b4ca031b39d41f00
  eventId := hex 64 0x93c14f075fe1fdb57fa20b41ddbe994d794aa38a02e0094d9c08073bb25f19a1
  eventSignature :=
    hex 64 0x652cc2369e900d6fb434006bb6fbc9e3459dc646221cdcec823f8409873cf78e ++
    hex 64 0xbf9cfe90f5f23c1c96ac4bd7f43af0a97df4d430b61d74618c556cf0ef4cd116
  claim := hex 64 0xc4fda6f189e92100fad0330c35e0f8a7c627ea8c0a5afc620aeec28254d8f590

def base : Text := transferFromMessage "alice".toList previous wallet 1000

variable (t : Transfer)

def targetOf : Text :=
  lines ["breez-lnurl:v2", "transfer-to", domain, "alice", previous, wallet, t.statement,
    numberText 1000]

def quoted (s : Text) : Text :=
  "\"".toList ++ (s.flatMap fun c => if c = '\n' then "\\n".toList else [c]) ++ "\"".toList

def stringify (texts : List Text) : Text :=
  "[".toList ++ joinWith ',' (texts.map quoted) ++ "]".toList

def objectText (fields : List (Text × Text)) : Text :=
  "\x7b".toList ++ joinWith ',' (fields.map fun entry => quoted entry.1 ++ ":".toList ++ entry.2) ++
    "\x7d".toList

def rawOf : Text :=
  objectText [("username".toList, quoted "alice".toList),
    ("description".toList, t.descriptionText), ("timestamp".toList, "1000".toList),
    ("from_pubkey".toList, quoted previous), ("from_signature".toList, quoted fromSignature),
    ("to_signature".toList, quoted t.toSignature)]

def bodyOf : JsonValue :=
  .object [("username".toList, .string "alice".toList), ("description".toList, t.description),
    ("timestamp".toList, .int 1000), ("from_pubkey".toList, .string previous),
    ("from_signature".toList, .string fromSignature),
    ("to_signature".toList, .string t.toSignature)]

def tagsOf : List (List Text) :=
  [["u", url], ["method", "POST"], ["payload", t.payload]]

def eventTextOf : Text :=
  objectText [("kind".toList, "27235".toList), ("created_at".toList, "1000".toList),
    ("tags".toList, "[".toList ++ joinWith ',' ((tagsOf t).map stringify) ++ "]".toList),
    ("content".toList, quoted []), ("pubkey".toList, quoted owner), ("id".toList, quoted t.eventId),
    ("sig".toList, quoted t.eventSignature)]

def eventOf : JsonValue :=
  .object [("kind".toList, .int 27235), ("created_at".toList, .int 1000),
    ("tags".toList, .array ((tagsOf t).map fun tag => .array (tag.map .string))),
    ("content".toList, .string []), ("pubkey".toList, .string owner),
    ("id".toList, .string t.eventId), ("sig".toList, .string t.eventSignature)]

def base64Digit (n : Nat) : Char :=
  if n < 26 then Char.ofNat (n + 65)
  else if n < 52 then Char.ofNat (n + 71)
  else if n < 62 then Char.ofNat (n - 4)
  else if n = 62 then '+' else '/'

def base64 : Text → Text
  | a :: b :: c :: rest =>
    let n := a.toNat * 65536 + b.toNat * 256 + c.toNat
    base64Digit (n / 262144) :: base64Digit (n / 4096 % 64) :: base64Digit (n / 64 % 64) ::
      base64Digit (n % 64) :: base64 rest
  | [a, b] =>
    let n := a.toNat * 1024 + b.toNat * 4
    [base64Digit (n / 4096), base64Digit (n / 64 % 64), base64Digit (n % 64), '=']
  | [a] => [base64Digit (a.toNat / 4), base64Digit (a.toNat % 4 * 16), '=', '=']
  | [] => []

def lookup {α : Type} (entries : List (Text × α)) (key : Text) : Option α :=
  (entries.find? fun entry => decide (entry.1 = key)).map Prod.snd

lemma lookup_head {α : Type} (key : Text) (a : α) (entries : List (Text × α)) :
    lookup ((key, a) :: entries) key = some a := by
  simp only [lookup, find?_cons, decide_true, map_some]

def otherDocuments : List (Text × JsonValue) :=
  [(rawOf renamed, bodyOf renamed), (eventTextOf unnamed, eventOf unnamed),
    (eventTextOf renamed, eventOf renamed)]

def platform : GatewayPlatform where
  pathname value := if value = url then "/lnurlpay/".toList ++ wallet ++ "/transfer".toList else []
  search _ := []
  isPoint value := value ∈ [previous, wallet]
  addressRequestHash value := ((lookup [([], unnamed.statement), ("b".toList, renamed.statement),
    (rawOf unnamed, unnamed.payload), (rawOf renamed, renamed.payload),
    (stringify [wallet, base, targetOf unnamed], unnamed.claim),
    (stringify [wallet, base, targetOf renamed], renamed.claim)]) value).getD []
  verify signature message identity := (signature, message, identity) ∈
    [(fromSignature, base, previous), (unnamed.toSignature, targetOf unnamed, wallet),
      (renamed.toSignature, targetOf renamed, wallet)]
  verifyEvent event := (event.field "sig").bind JsonValue.string? ∈
    [some unnamed.eventSignature, some renamed.eventSignature]
  parse := lookup ((rawOf unnamed, bodyOf unnamed) :: otherDocuments)
  stringify := stringify
  atob := lookup [(base64 (eventTextOf unnamed), eventTextOf unnamed),
    (base64 (eventTextOf renamed), eventTextOf renamed)]

def settings : Env := ⟨true, [], "shared".toList, "key".toList, "true".toList⟩

def requestOf : Request :=
  ⟨"POST".toList, url, none, some ("Nostr ".toList ++ base64 (eventTextOf t)), some (rawOf t)⟩

def checkedOf : Checked :=
  ⟨wallet, .transfer, rawOf t, "alice".toList, 1000, some approval, [base, targetOf t]⟩

def actionsOf : List Action :=
  [.receive (requestOf t) 1000 false, .claim (requestOf t) 1000 (checkedOf t) true,
    .forward (requestOf t) 1000 (checkedOf t)]

def forwardedOf : Forwarded := ⟨requestOf t, some (rawOf t), 1000⟩

def stopped : Option GatewayState :=
  replay platform settings [approval] (actionsOf unnamed ++ actionsOf renamed) .start

lemma log_eq : stopped.map GatewayState.log =
    some [.forwarded (forwardedOf renamed), .forwarded (forwardedOf unnamed)] := by
  decide +kernel

lemma parse_unnamed : platform.parse (rawOf unnamed) = some (bodyOf unnamed) := by
  have hp : platform.parse = lookup ((rawOf unnamed, bodyOf unnamed) :: otherDocuments) := rfl
  rw [hp, lookup_head]

lemma exists_run : ∃ s, Run (Step platform settings [approval]) .start
    (actionsOf unnamed ++ actionsOf renamed) s ∧
    s.log = [.forwarded (forwardedOf renamed), .forwarded (forwardedOf unnamed)] := by
  obtain ⟨s, hs, hl⟩ := map_eq_some_iff.1 log_eq
  exact ⟨s, run_of_replay hs, hl⟩

lemma routeOf_eq (t : Transfer) : routeOf platform (requestOf t) = some (wallet, .transfer) := by
  show (managementPath (platform.pathname url)).map _ = _
  have hp : managementPath (platform.pathname url) = some (wallet, some "transfer".toList) := by
    decide +kernel
  rw [hp]
  rfl

end Sample

open Sample in
theorem name_changes_authorised_transfers : ∃ s : GatewayState,
    s.log = [.forwarded (forwardedOf renamed), .forwarded (forwardedOf unnamed)] ∧
    (∃ n body timestamp, Authorised platform [approval] [] (forwardedOf unnamed) wallet .transfer n
      body timestamp) ∧
    (s.log.filterMap (walletStatement platform)).Nodup := by
  obtain ⟨s, hrun, hlog⟩ := exists_run
  obtain ⟨hauthorised, -, hnodup⟩ := name_changes_authorised hrun
  exact ⟨s, hlog, hauthorised [.forwarded (forwardedOf renamed)] _ [] hlog wallet .transfer
    (routeOf_eq unnamed) (by decide), hnodup⟩

def ReadsDescription (body : JsonValue) (description : Text) : Prop :=
  body.field "description" = some (.string description) ∨
    body.field "description" = none ∧ description = []

open Sample in
/-- A description that is no string is forwarded under the signature of the empty one. -/
theorem transfer_statement_forwarded_twice : validateApprovedNames platform [approval] = .ok () ∧
    ∃ actions s, Run (Step platform settings [approval]) .start actions s ∧
      s.log = [.forwarded (forwardedOf renamed), .forwarded (forwardedOf unnamed)] ∧
      (forwardedOf unnamed).body = some (rawOf unnamed) ∧
      platform.parse (rawOf unnamed) = some (bodyOf unnamed) ∧
      (¬ ∃ description, ReadsDescription (bodyOf unnamed) description) ∧
      signedStatements platform (forwardedOf unnamed).request (forwardedOf unnamed).body =
        some (wallet, [base, targetOf unnamed]) ∧
      signedStatements platform (forwardedOf renamed).request (forwardedOf renamed).body =
        some (wallet, [base, targetOf renamed]) := by
  obtain ⟨s, hrun, hlog⟩ := exists_run
  refine ⟨by decide +kernel, _, s, hrun, hlog, rfl, ?_, ?_, ?_, ?_⟩
  · exact parse_unnamed
  · rintro ⟨description, hread | ⟨hread, -⟩⟩ <;> cases hread
  · decide +kernel
  · decide +kernel

end Conduit.Gateway
