import Conduit.Telemetry

namespace Conduit.Telemetry

open Js JsonValue Throwing List

variable {Body : Type} (P : TelemetryPlatform Body)

structure AllowedOriginContext where
  (app origin : Text)

def posthogAnonymousDistinctId : Text := "conduit-browser-telemetry"

/-- `/^phc_[A-Za-z0-9]{16,64}$/`. -/
def isProjectToken (token : Text) : Bool :=
  let rest := token.drop 4
  startsWith token "phc_" && decide (16 ≤ rest.length ∧ rest.length ≤ 64) &&
    rest.all (Char.isAlphanum ·)

def isUuid (versions s : Text) : Bool :=
  match split '-' (toLowerCase s) with
  | [a, b, c, d, e] =>
    decide ([a, b, c, d, e].map List.length = [8, 4, 4, 4, 12]) &&
      [a, b, c, d, e].all (·.all isHexChar) && c.head?.any (versions.contains ·) &&
      d.head?.any ("89ab".toList.contains ·)
  | _ => false

def workerAllowedEventNames : List Text :=
  texts ["$pageleave", "$pageview", "$web_vitals"] ++ browserTelemetryEventNames

def providerLifecycleRequiredPropertyNames (eventName : Text) : Option (List Text) :=
  if eventName = "$pageview" then
    some (texts ["app", "page_url", "page_path", "$session_id", "$pageview_id"])
  else if eventName = "$pageleave" ∨ eventName = "$web_vitals" then
    some (texts ["app", "page_url", "page_path", "$session_id"])
  else none

def workerLabelPropertyNames : List Text :=
  browserTelemetryPropertyNames.filter fun name => name ≠ "page_path" ∧ name ≠ "page_url"

def pagePathPropertyNames : List Text := texts ["page_path", "$pathname"]

def pageUrlPropertyNames : List Text := texts ["page_url", "$current_url"]

def sessionUuidPropertyNames : List Text := texts
  ["$session_id", "$pageview_id", "$prev_pageview_id"]

def pageLeavePercentagePropertyNames : List Text := texts
  ["$prev_pageview_last_content_percentage", "$prev_pageview_last_scroll_percentage",
    "$prev_pageview_max_content_percentage", "$prev_pageview_max_scroll_percentage"]

def webVitalValuePropertyNames : List Text := texts ["$web_vitals_CLS_value",
  "$web_vitals_FCP_value", "$web_vitals_INP_value", "$web_vitals_LCP_value"]

def allowedTopLevelEventKeys : List Text := texts
  ["event", "properties", "uuid", "timestamp", "offset"]

def sanitizedStaticRouteSegments : List Text := texts ["about", "cart", "checkout", "messages",
  "network", "payments", "profile", "shipping", "wallet"]

def sanitizedRoutes : List Text := texts
  ["/", "/:param", "/products", "/products/:productId", "/:identity", "/orders"]

structure ProductAddressReference where
  (authorPubkey dTag addressId : Text)
  relayHints : List Text

def addressId (pubkey dTag : Text) : Text := "30402:".toList ++ pubkey ++ ':' :: dTag

def isHexKey (key : Text) : Bool := key.length = 64 && (toLowerCase key).all isHexChar

/-- `/^30402:([0-9a-f]{64}):([\s\S]+)$/i`. -/
def parseProductAddressReference (value : Text) : Option ProductAddressReference :=
  let key := (value.drop 6).take 64
  match value.drop 70 with
  | ':' :: c :: dTag =>
    if startsWith value "30402:" = true ∧ isHexKey key = true then
      some ⟨toLowerCase key, c :: dTag, addressId (toLowerCase key) (c :: dTag), []⟩
    else none
  | _ => none

def decodeProductReference (value : Text) : Option ProductAddressReference :=
  match parseProductAddressReference value with
  | some reference => some reference
  | none => do
    let decodedValue ← decodeURIComponent value
    if startsWith (toLowerCase decodedValue) "naddr1" then
      let data ← P.nip19Decode decodedValue
      guard (data.kind = 30402 ∧ isHexKey data.pubkey = true ∧ data.identifier ≠ [])
      let authorPubkey := toLowerCase data.pubkey
      return ⟨authorPubkey, data.identifier, addressId authorPubkey data.identifier,
        P.normalizeProductRelayHints data.relays⟩
    else parseProductAddressReference decodedValue

def encodeProductNaddr (value : Text) : Option Text := do
  let reference ← decodeProductReference P value
  guard (utf8ByteLength reference.dTag ≤ 255)
  P.naddrEncode ⟨30402, reference.authorPubkey, reference.dTag,
    P.normalizeProductRelayHints reference.relayHints⟩

/-- `/^\/products\/naddr1q[…]{74,481}$/`, and the reference is the one that its product has. -/
def isCanonicalProductNaddrPath (value : Text) : Bool :=
  let naddr := value.drop 10
  let rest := naddr.drop 7
  startsWith value "/products/naddr1q" && decide (74 ≤ rest.length ∧ rest.length ≤ 481) &&
    rest.all ("qpzry9x8gf2tvdw0s3jn54khce6mua7l".toList.contains ·) &&
    (decodeProductReference P naddr).any fun reference =>
      decide (encodeProductNaddr P reference.addressId = some naddr)

/-- `/^\/([a-z]+)(\/:param)?$/` with a static segment. -/
def isStaticRoute : Text → Bool
  | '/' :: rest =>
    let segment := rest.takeWhile isLowerAlpha
    let suffix := rest.dropWhile isLowerAlpha
    decide ((suffix = [] ∨ suffix = "/:param") ∧ segment ∈ sanitizedStaticRouteSegments)
  | _ => false

def isSanitizedTelemetryRoutePath (value : Text) : Bool :=
  decide (Js.length value ≤ 512) && (decide (value ∈ sanitizedRoutes) ||
    isCanonicalProductNaddrPath P value || isStaticRoute value)

def isSanitizedPagePath (value eventName : Text) : Bool :=
  isSanitizedTelemetryRoutePath P value &&
    (decide (eventName = "$pageview") || !isCanonicalProductNaddrPath P value)

def officialProductTelemetryHostnames : List Text := texts
  ["shop.conduit.market", "sell.conduit.market"]

def isSanitizedPageUrl (value eventName : Text) : Bool :=
  decide (Js.length value ≤ 640) && (P.parseUrl value).any fun url =>
    decide (url.protocol = "https:".toList ∧ url.port = [] ∧ url.search = [] ∧ url.hash = [] ∧
      url.username = [] ∧ url.password = []) &&
    isSanitizedPagePath P url.pathname eventName && decide (value = url.origin ++ url.pathname ∧
      toLowerCase (trim url.hostname) ∈ officialProductTelemetryHostnames)

def isBoundedNumber (value : JsonValue) (max : Int) : Bool :=
  match value with
  | .int n => 0 ≤ n ∧ n ≤ max
  | .number text => ∃ x ∈ P.finite text, 0 ≤ x ∧ x ≤ max
  | _ => false

def isCanonicalIsoTimestamp (value : Text) : Bool :=
  decide (Js.length value ≤ 40) &&
    (P.parseDate value).any fun ms => decide (P.toISOString ms = value)

/-- `value === false`. -/
def isFalse : JsonValue → Bool
  | .bool false => true
  | _ => false

variable (pinnedToken : Option Text) (eventName : Text)

def measureBound (key : Text) : Option Int :=
  if eventName = "$pageleave" then
    if key = "$prev_pageview_duration" then some 86400
    else if key ∈ pageLeavePercentagePropertyNames then some 1
    else none
  else if eventName = "$web_vitals" ∧ key ∈ webVitalValuePropertyNames then some 900000
  else none

def isAllowedValue (key : Text) (value : JsonValue) : Bool :=
  if key ∈ workerLabelPropertyNames then
    value.string?.any (isAllowedBrowserTelemetryLabelValue P key · eventName)
  else if key ∈ pagePathPropertyNames then value.string?.any (isSanitizedPagePath P · eventName)
  else if key ∈ pageUrlPropertyNames then value.string?.any (isSanitizedPageUrl P · eventName)
  else if key ∈ sessionUuidPropertyNames then value.string?.any (isUuid "7")
  else if eventName = "$pageleave" ∧ key = "$prev_pageview_pathname" then
    value.string?.any (isSanitizedPagePath P · eventName)
  else (measureBound eventName key).any (isBoundedNumber P value)

/-- One property: `none` refuses the event, `some none` skips it. -/
def rebuildProperty (isCounter : Bool) (key : Text) (value : JsonValue) :
    Option (Option JsonValue) :=
  if key = "distinct_id" then
    if value.string? = some posthogAnonymousDistinctId then some none else none
  else if key = "$process_person_profile" then if isFalse value then some none else none
  else if key = "token" then do
    let token ← value.string?
    guard (isProjectToken token = true ∧ ∀ pinned ∈ pinnedToken, pinned = [] ∨ token = pinned)
    return some (.string (pinnedToken.getD token))
  else if eventName ∈ browserTelemetryEventNames ∧ key ∈ browserTelemetryPropertyNames ∧
      isAllowedBrowserTelemetryEventProperty eventName key = false then none
  else if eventName ∉ browserTelemetryEventNames ∧ key ∈ workerLabelPropertyNames ∧ key ≠ "app" then
    none
  else if isAllowedValue P eventName key value then
    some (if isCounter = true ∧ key ∈ sessionUuidPropertyNames then none else some value)
  else none

def rebuildProperties (isCounter : Bool) : Properties → Properties → Option Properties
  | rebuilt, [] => some rebuilt
  | rebuilt, (key, value) :: rest =>
    match rebuildProperty P pinnedToken eventName isCounter key value with
    | none => none
    | some none => rebuildProperties isCounter rebuilt rest
    | some (some value) => rebuildProperties isCounter (mapSet Prod.fst rebuilt (key, value)) rest

def anonymousProperties : Properties :=
  [("$process_person_profile".toList, .bool false),
    ("distinct_id".toList, .string posthogAnonymousDistinctId)]

def withToken (rebuilt : Properties) : Option Properties :=
  if (get rebuilt "token").isSome then some rebuilt
  else match pinnedToken with
    | none | some [] => none
    | some pinned => some (mapSet Prod.fst rebuilt ("token".toList, .string pinned))

def hasTrustedPageContext (properties : Properties) (originContext : AllowedOriginContext) :
    Bool :=
  let text (key : Text) := (get properties key).bind string?
  text "app" = some originContext.app ∧
    ∃ pageUrl ∈ text "page_url", ∃ pagePath ∈ text "page_path",
      (∃ url ∈ P.parseUrl pageUrl, url.origin = originContext.origin ∧ url.pathname = pagePath) ∧
      (∀ value ∈ get properties "$current_url", value.string? = some pageUrl) ∧
      (∀ value ∈ get properties "$pathname", value.string? = some pagePath) ∧
      ∀ value ∈ get properties "$prev_pageview_pathname", value.string? = some pagePath

def isComplete (rebuilt : Properties) : Bool :=
  (if eventName ∈ browserTelemetryEventNames then
    hasRequiredBrowserTelemetryEventProperties P eventName rebuilt
  else (providerLifecycleRequiredPropertyNames eventName).any fun required =>
    required.all fun key => (get rebuilt key).isSome) &&
  (eventName ≠ "$web_vitals" || webVitalValuePropertyNames.any fun key => (get rebuilt key).isSome)

def rebuildIngestEventProperties (value : Option JsonValue)
    (originContext : AllowedOriginContext) : Option Properties :=
  match value with
  | some (.object properties) => do
    let isCounter := isCheckoutAttributionTelemetryEvent eventName properties
    let rebuilt ← rebuildProperties P pinnedToken eventName isCounter anonymousProperties properties
    let rebuilt ← withToken pinnedToken rebuilt
    guard (isComplete P eventName rebuilt = true ∧
      hasTrustedPageContext P rebuilt originContext = true)
    return rebuilt
  | _ => none

structure IngestEvent where
  event : Text
  properties : Properties
  (uuid timestamp : Option Text)
  offset : Option JsonValue

def optionalField (value : Option JsonValue) (ok : JsonValue → Bool) : Option (Option JsonValue) :=
  if ∀ v ∈ value, ok v = true then some value else none

def hourOf (timestamp : Text) : Option Int := (P.parseDate timestamp).map (· / 3600000)

def rebuildIngestEvent (value : JsonValue) (originContext : AllowedOriginContext) :
    Option IngestEvent :=
  match value with
  | .object fields => do
    guard (∀ entry ∈ fields, entry.1 ∈ allowedTopLevelEventKeys)
    let eventName ← (get fields "event").bind string?
    guard (eventName ∈ workerAllowedEventNames)
    let properties ← rebuildIngestEventProperties P pinnedToken eventName (get fields "properties")
      originContext
    let isAttributionCounter := isCheckoutAttributionTelemetryEvent eventName properties
    let uuid ← optionalField (get fields "uuid") fun v => v.string?.any (isUuid "12345678")
    let timestamp ← optionalField (get fields "timestamp") fun v =>
      v.string?.any (isCanonicalIsoTimestamp P)
    let offset ← optionalField (get fields "offset") (isBoundedNumber P · 86400000)
    return {
      event := eventName
      properties
      uuid := if isAttributionCounter then none else uuid.bind string?
      timestamp := (timestamp.bind string?).bind fun text =>
        if isAttributionCounter then (hourOf P text).map fun hour => P.toISOString (hour * 3600000)
        else some text
      offset := if isAttributionCounter then none else offset }
  | _ => none

inductive Shape where
  | single
  | batch
  | captureBatch
  deriving DecidableEq

structure RebuiltIngestPayload where
  shape : Shape
  events : List IngestEvent
  (apiKey sentAt : Option Text)

def captureEnvelope (fields : Properties) : Option (List JsonValue × Text × Text) := do
  guard (∀ entry ∈ fields, entry.1 ∈ texts ["api_key", "batch", "sent_at"])
  let .array batch ← get fields "batch" | none
  let apiKey ← (get fields "api_key").bind string?
  guard (isProjectToken apiKey = true ∧ ∀ pinned ∈ pinnedToken, pinned = [] ∨ apiKey = pinned)
  let sentAt ← (get fields "sent_at").bind string?
  guard (isCanonicalIsoTimestamp P sentAt = true)
  return (batch, pinnedToken.getD apiKey, sentAt)

def candidatesOf (parsed : JsonValue) :
    Option (Shape × List JsonValue × Option Text × Option Text) :=
  match parsed with
  | .array candidates => some (.batch, candidates, none, none)
  | .object fields =>
    if (get fields "batch").isSome then
      (captureEnvelope P pinnedToken fields).map fun (batch, apiKey, sentAt) =>
        (.captureBatch, batch, some apiKey, some sentAt)
    else some (.single, [parsed], none, none)
  | _ => some (.single, [parsed], none, none)

def rebuildPostHogIngestPayload (body : Body) (originContext : AllowedOriginContext) :
    Except String RebuiltIngestPayload :=
  match (P.parseBody body).bind (candidatesOf P pinnedToken) with
  | none => .error "invalid_payload"
  | some (shape, candidates, apiKey, sentAt) => do
    reject (candidates.length = 0 ∨ 100 < candidates.length) "invalid_payload"
    let events := candidates.filterMap (rebuildIngestEvent P pinnedToken · originContext)
    return ⟨shape, events.filter fun event => shape ≠ .captureBatch ∨
      (get event.properties "token").bind string? = apiKey, apiKey, sentAt⟩

inductive ClosedLabel : Text → Text → Prop
  | listed {key value : Text} {values : List Text}
      (h : (key, values) ∈ browserTelemetryLabelValues) (hv : value ∈ values) :
      ClosedLabel key value
  | partner {value : Text} (h : value ∈ activeCheckoutPartnerCodes checkoutPartnerRegistry) :
      ClosedLabel "partner_code" value
  | other : ClosedLabel "source_domain" "other"
  | domain {value : Text} {entry : CheckoutPartnerRegistration} {domains : List Text}
      (h : entry ∈ checkoutPartnerRegistry) (hd : domains ∈ entry.domains) (hv : value ∈ domains) :
      ClosedLabel "source_domain" value

def RouteClass (path : Text) : Prop :=
  path ∈ sanitizedRoutes ∨
    (∃ segment ∈ sanitizedStaticRouteSegments,
      path = '/' :: segment ∨ path = '/' :: (segment ++ "/:param".toList)) ∨
    eventName = "$pageview" ∧ isCanonicalProductNaddrPath P path = true

inductive Permitted : Text → JsonValue → Prop
  | distinctId : Permitted "distinct_id" (.string posthogAnonymousDistinctId)
  | noProfile : Permitted "$process_person_profile" (.bool false)
  | token {text : Text} (h : isProjectToken text = true ∨ text ∈ pinnedToken) :
      Permitted "token" (.string text)
  | label {key text : Text} (hk : key ∈ workerLabelPropertyNames)
      (documented : eventName ∈ browserTelemetryEventNames →
        isAllowedBrowserTelemetryEventProperty eventName key = true)
      (lifecycle : eventName ∉ browserTelemetryEventNames → key = "app")
      (closed : ClosedLabel key text) : Permitted key (.string text)
  | path {key text : Text} (hk : key ∈ pagePathPropertyNames ∨
      eventName = "$pageleave" ∧ key = "$prev_pageview_pathname")
      (h : RouteClass P eventName text) : Permitted key (.string text)
  | url {key text : Text} (hk : key ∈ pageUrlPropertyNames)
      (h : ∃ url ∈ P.parseUrl text, text = url.origin ++ url.pathname) :
      Permitted key (.string text)
  | session {key text : Text} (hk : key ∈ sessionUuidPropertyNames) (h : isUuid "7" text = true) :
      Permitted key (.string text)
  | measure {key : Text} {value : JsonValue} (max : Int)
      (hk : measureBound eventName key = some max) (h : isBoundedNumber P value max = true) : Permitted key value

structure IngestEvent.Anonymous (originContext : AllowedOriginContext) (e : IngestEvent) :
    Prop where
  permitted : ∀ key value, get e.properties key = some value →
    Permitted P pinnedToken e.event key value
  identity : get e.properties "distinct_id" = some (.string posthogAnonymousDistinctId) ∧
    get e.properties "$process_person_profile" = some (.bool false)
  page : ∃ pagePath, RouteClass P e.event pagePath ∧
    get e.properties "page_path" = some (.string pagePath) ∧
    get e.properties "page_url" = some (.string (originContext.origin ++ pagePath)) ∧
    (∀ value ∈ get e.properties "$current_url",
      value = .string (originContext.origin ++ pagePath)) ∧
    ∀ key ∈ texts ["$pathname", "$prev_pageview_pathname"],
      ∀ value ∈ get e.properties key, value = .string pagePath
  counter : isCheckoutAttributionTelemetryEvent e.event e.properties = true →
    e.uuid = none ∧ e.offset = none ∧ ∀ key ∈ sessionUuidPropertyNames, get e.properties key = none

/-- Two inputs that differ in their ids and offset, and in their time within an hour. -/
structure DiffersInLinks (fields fields' : Properties) : Prop where
  event : get fields "event" = get fields' "event"
  properties : ∃ sent sent', get fields "properties" = some (.object sent) ∧
    get fields' "properties" = some (.object sent') ∧
    (sent.filter fun entry => entry.1 ∉ sessionUuidPropertyNames) =
      sent'.filter fun entry => entry.1 ∉ sessionUuidPropertyNames
  timestamp : get fields "timestamp" = get fields' "timestamp" ∨ ∃ time time',
    get fields "timestamp" = some (.string time) ∧
    get fields' "timestamp" = some (.string time') ∧ hourOf P time = hourOf P time'

section
variable {P pinnedToken eventName} {key text : Text} {value v : JsonValue} {isCounter : Bool}
  {r t sent fields : Properties} {originContext : AllowedOriginContext}

lemma string_eq (h : v.string? = some text) : v = .string text := by
  cases v with
  | string s => exact congrArg _ (Option.some.inj h)
  | _ => cases h

lemma any_string {ok : Text → Bool} (h : v.string?.any ok = true) :
    ∃ text, v = .string text ∧ ok text = true := by
  obtain ⟨text, ht, ho⟩ := (Option.any_eq_true _ _).1 h
  exact ⟨text, string_eq ht, ho⟩

lemma get_isSome : (get t key).isSome = true ↔ key ∈ t.map Prod.fst := by
  simp [get, JsonValue.field, find?_isSome]

lemma get_mapSet (k : Text) :
    get (mapSet Prod.fst t (k, v)) key = if k = key then some v else get t key := by
  induction t with
  | nil => by_cases h : k = key <;> simp [mapSet, get, JsonValue.field, h]
  | cons first t ih =>
    rw [mapSet]
    by_cases hk : first.1 = k
    · rw [if_pos hk]
      by_cases h : k = key <;> simp [get, JsonValue.field, h, hk]
    · rw [if_neg hk]
      by_cases h : first.1 = key
      · simp [get, JsonValue.field, h, show k ≠ key from fun he => hk (h.trans he.symm)]
      · simpa [get, JsonValue.field, h] using ih

lemma resolved_domain {registry : List CheckoutPartnerRegistration}
    (h : resolveCheckoutPartnerDomain P text registry ≠ none) :
    ∃ entry ∈ registry, ∃ domains ∈ entry.domains, text ∈ domains := by
  unfold resolveCheckoutPartnerDomain at h
  split at h
  · exact absurd rfl h
  · dsimp only at h
    split at h
    next entry hm =>
      obtain ⟨he, hp⟩ := mem_filter.1 (hm ▸ mem_singleton_self entry)
      obtain ⟨-, domains, hd, -, -, hv⟩ := of_decide_eq_true hp
      exact ⟨entry, he, domains, hd, hv⟩
    next => exact absurd rfl h

lemma closedLabel (h : isAllowedBrowserTelemetryLabelValue P key text eventName = true) :
    ClosedLabel key text := by
  unfold isAllowedBrowserTelemetryLabelValue at h
  split_ifs at h with hp hs
  · subst hp
    have hr := of_decide_eq_true h
    unfold resolveCheckoutPartnerCode at hr
    split at hr
    next ha => exact .partner ha.2
    next => cases hr
  · subst hs
    rcases of_decide_eq_true h with rfl | ⟨-, hd⟩
    · exact .other
    · obtain ⟨entry, he, domains, hd, hv⟩ := resolved_domain hd
      exact .domain he hd hv
  · obtain ⟨⟨⟨k, values⟩, hm, rfl, hv⟩, -⟩ := of_decide_eq_true h
    exact .listed hm hv

lemma routeClass (h : isSanitizedPagePath P text eventName = true) :
    RouteClass P eventName text := by
  simp only [isSanitizedPagePath, isSanitizedTelemetryRoutePath, Bool.and_eq_true, Bool.or_eq_true,
    decide_eq_true_eq, Bool.not_eq_true'] at h
  obtain ⟨⟨-, (hr | hc) | hs⟩, he⟩ := h
  · exact .inl hr
  · exact .inr (.inr ⟨he.resolve_right (by simp [hc]), hc⟩)
  · unfold isStaticRoute at hs
    split at hs
    next rest =>
      obtain ⟨hsuf, hm⟩ := of_decide_eq_true hs
      have hrest := takeWhile_append_dropWhile (p := isLowerAlpha) (l := rest)
      refine .inr (.inl ⟨_, hm, hsuf.imp (fun hd => ?_) fun hd => ?_⟩)
      · rw [hd, append_nil] at hrest
        exact congrArg _ hrest.symm
      · rw [hd] at hrest
        exact congrArg _ hrest.symm
    next => cases hs

lemma pageUrl_eq (h : isSanitizedPageUrl P text eventName = true) :
    ∃ url ∈ P.parseUrl text, text = url.origin ++ url.pathname := by
  simp only [isSanitizedPageUrl, Bool.and_eq_true, Option.any_eq_true, decide_eq_true_eq] at h
  obtain ⟨-, url, hu, ⟨-, -⟩, heq, -⟩ := h
  exact ⟨url, hu, heq⟩

lemma rebuildProperty_copied
    (h : rebuildProperty P pinnedToken eventName isCounter key value = some (some v)) :
    key ∉ texts ["distinct_id", "$process_person_profile"] ∧
      (isCounter = true → key ∉ sessionUuidPropertyNames) ∧
      Permitted P pinnedToken eventName key v := by
  rcases ite_eq_iff.1 h with ⟨-, h⟩ | ⟨hid, h⟩
  · rcases ite_eq_iff.1 h with ⟨-, h⟩ | ⟨-, h⟩ <;> cases h
  rcases ite_eq_iff.1 h with ⟨-, h⟩ | ⟨hprof, h⟩
  · rcases ite_eq_iff.1 h with ⟨-, h⟩ | ⟨-, h⟩ <;> cases h
  refine ⟨fun hk => (mem_cons.1 hk).elim hid fun hk => hprof (mem_singleton.1 hk), ?_⟩
  rcases ite_eq_iff.1 h with ⟨rfl, h⟩ | ⟨-, h⟩
  · obtain ⟨token, -, h⟩ := bind_gives.1 h
    obtain ⟨_, hok, h⟩ := bind_gives.1 h
    have hok := guard_gives.1 hok
    cases pure_gives.1 h
    refine ⟨fun _ => by decide, .token ?_⟩
    cases pinnedToken with
    | none => exact .inl hok.1
    | some pinned => exact .inr rfl
  rcases ite_eq_iff.1 h with ⟨-, h⟩ | ⟨hdoc, h⟩
  · cases h
  rcases ite_eq_iff.1 h with ⟨-, h⟩ | ⟨hlife, h⟩
  · cases h
  rcases ite_eq_iff.1 h with ⟨ho, h⟩ | ⟨-, h⟩
  swap
  · cases h
  rcases ite_eq_iff.1 (Option.some.inj h) with ⟨-, h⟩ | ⟨hs, h⟩
  · cases h
  cases h
  refine ⟨fun hc hk => hs ⟨hc, hk⟩, ?_⟩
  rcases ite_eq_iff.1 ho with ⟨hk, ho⟩ | ⟨-, ho⟩
  · obtain ⟨text, rfl, ho⟩ := any_string ho
    refine .label hk (fun hb => ?_) (fun hb => ?_) (closedLabel ho)
    · exact Bool.eq_true_of_not_eq_false fun hf => hdoc ⟨hb, (mem_filter.1 hk).1, hf⟩
    · exact of_not_not fun hne => hlife ⟨hb, hk, hne⟩
  rcases ite_eq_iff.1 ho with ⟨hk, ho⟩ | ⟨-, ho⟩
  · obtain ⟨text, rfl, ho⟩ := any_string ho
    exact .path (.inl hk) (routeClass ho)
  rcases ite_eq_iff.1 ho with ⟨hk, ho⟩ | ⟨-, ho⟩
  · obtain ⟨text, rfl, ho⟩ := any_string ho
    exact .url hk (pageUrl_eq ho)
  rcases ite_eq_iff.1 ho with ⟨hk, ho⟩ | ⟨-, ho⟩
  · obtain ⟨text, rfl, ho⟩ := any_string ho
    exact .session hk ho
  rcases ite_eq_iff.1 ho with ⟨hk, ho⟩ | ⟨-, ho⟩
  · obtain ⟨text, rfl, ho⟩ := any_string ho
    exact .path (.inr hk) (routeClass ho)
  obtain ⟨max, hmax, ho⟩ := (Option.any_eq_true _ _).1 ho
  exact .measure max hmax ho

lemma get_rebuildProperties
    (h : rebuildProperties P pinnedToken eventName isCounter r fields = some t) (key : Text) :
    get t key = get r key ∨ ∃ value v, (key, value) ∈ fields ∧ get t key = some v ∧
      rebuildProperty P pinnedToken eventName isCounter key value = some (some v) := by
  induction fields generalizing r with
  | nil =>
    cases h
    exact .inl rfl
  | cons first fields ih =>
    rw [rebuildProperties] at h
    split at h
    next => cases h
    next => exact (ih h).imp_right fun ⟨value, v, hm, hv⟩ => ⟨value, v, .tail _ hm, hv⟩
    next v hp =>
      rcases ih h with hg | ⟨value, w, hm, hw⟩
      · rw [get_mapSet] at hg
        split at hg
        next hk =>
          subst hk
          exact .inr ⟨_, v, .head _, hg, hp⟩
        next => exact .inl hg
      · exact .inr ⟨value, w, .tail _ hm, hw⟩

lemma rebuildProperties_unlinked
    (h : rebuildProperties P pinnedToken eventName true r fields = some t) :
    rebuildProperties P pinnedToken eventName true r
      (fields.filter fun entry => entry.1 ∉ sessionUuidPropertyNames) = some t := by
  induction fields generalizing r with
  | nil => exact h
  | cons first fields ih =>
    rw [rebuildProperties] at h
    by_cases hk : first.1 ∈ sessionUuidPropertyNames
    · rw [filter_cons_of_neg (by simpa using hk)]
      split at h
      next => cases h
      next => exact ih h
      next v hp => exact absurd hk ((rebuildProperty_copied hp).2.1 rfl)
    · rw [filter_cons_of_pos (by simpa using hk), rebuildProperties]
      split at h
      next => cases h
      next => exact ih h
      next => exact ih h

def Rebuilt (P : TelemetryPlatform Body) (pinnedToken : Option Text) (eventName : Text)
    (sent t : Properties) : Prop :=
  ∀ key, get t key = get anonymousProperties key ∨
    key = "token" ∧ (∃ pinned ∈ pinnedToken, get t key = some (.string pinned)) ∨
    ∃ value v, (key, value) ∈ sent ∧ get t key = some v ∧ rebuildProperty P pinnedToken eventName
      (isCheckoutAttributionTelemetryEvent eventName sent) key value = some (some v)

lemma rebuildIngestEventProperties_spec {given : Option JsonValue}
    (h : rebuildIngestEventProperties P pinnedToken eventName given originContext = some t) :
    ∃ sent r, given = some (.object sent) ∧
      rebuildProperties P pinnedToken eventName (isCheckoutAttributionTelemetryEvent eventName sent)
        anonymousProperties sent = some r ∧ withToken pinnedToken r = some t ∧
      hasTrustedPageContext P t originContext = true ∧ Rebuilt P pinnedToken eventName sent t := by
  unfold rebuildIngestEventProperties at h
  split at h
  next sent =>
    simp only [run_gives] at h
    obtain ⟨r, hr, w, hw, ⟨-, hc⟩, rfl⟩ := h
    refine ⟨sent, r, rfl, hr, hw, hc, fun key => ?_⟩
    have hg := get_rebuildProperties hr key
    unfold withToken at hw
    split at hw
    · cases hw
      exact hg.imp_right .inr
    · split at hw
      · cases hw
      · cases hw
      next pinned _ =>
        cases hw
        rw [get_mapSet]
        split
        next hk => exact .inr (.inl ⟨hk.symm, pinned, rfl, rfl⟩)
        next => exact hg.imp_right .inr
  next => cases h

lemma Rebuilt.permitted (h : Rebuilt P pinnedToken eventName sent t) (hg : get t key = some v) :
    Permitted P pinnedToken eventName key v := by
  rcases h key with heq | ⟨rfl, pinned, hp, heq⟩ | ⟨value, w, -, heq, hp⟩ <;> rw [hg] at heq
  · obtain ⟨entry, he, rfl⟩ := Option.map_eq_some_iff.1 heq.symm
    obtain rfl : entry.1 = key := of_decide_eq_true (find?_some he :)
    rcases mem_cons.1 (mem_of_find?_eq_some he) with rfl | hin
    · exact .noProfile
    · cases mem_singleton.1 hin
      exact .distinctId
  · cases Option.some.inj heq
    exact .token (.inr hp)
  · cases Option.some.inj heq
    exact (rebuildProperty_copied hp).2.2

lemma Rebuilt.identity (h : Rebuilt P pinnedToken eventName sent t)
    (hk : key ∈ texts ["distinct_id", "$process_person_profile"]) :
    get t key = get anonymousProperties key := by
  rcases h key with heq | ⟨rfl, -⟩ | ⟨value, w, -, -, hp⟩
  · exact heq
  · exact absurd hk (by decide)
  · exact absurd hk (rebuildProperty_copied hp).1

lemma Rebuilt.counts (h : Rebuilt P pinnedToken eventName sent t)
    (hc : isCheckoutAttributionTelemetryEvent eventName t = true) :
    isCheckoutAttributionTelemetryEvent eventName sent = true := by
  refine decide_eq_true ((of_decide_eq_true hc).imp_right fun ⟨key, hk, hin⟩ => ⟨key, hk, ?_⟩)
  rcases h key with heq | ⟨rfl, -⟩ | ⟨value, w, hs, -⟩
  · have hnone : ∀ k ∈ texts checkoutSourcePropertyNames,
        (get anonymousProperties k).isNone = true := by decide
    rw [heq] at hin
    exact absurd hin (by simp [Option.isNone_iff_eq_none.1 (hnone key hk)])
  · exact absurd hk (by decide)
  · exact get_isSome.2 (mem_map.2 ⟨_, hs, rfl⟩)

lemma Rebuilt.unlinked (h : Rebuilt P pinnedToken eventName sent t)
    (hc : isCheckoutAttributionTelemetryEvent eventName t = true)
    (hk : key ∈ sessionUuidPropertyNames) : get t key = none := by
  rcases h key with heq | ⟨rfl, -⟩ | ⟨value, w, -, -, hp⟩
  · have hnone : ∀ k ∈ sessionUuidPropertyNames, (get anonymousProperties k).isNone = true := by
      decide
    exact heq.trans (Option.isNone_iff_eq_none.1 (hnone key hk))
  · exact absurd hk (by decide)
  · exact absurd hk ((rebuildProperty_copied hp).2.1 (h.counts hc))

lemma isCounter_filter : isCheckoutAttributionTelemetryEvent eventName
    (t.filter fun entry => entry.1 ∉ sessionUuidPropertyNames) =
      isCheckoutAttributionTelemetryEvent eventName t := by
  refine decide_eq_decide.2 (or_congr_right (exists_congr fun key => and_congr_right fun hk => ?_))
  have hnot : ∀ k ∈ texts checkoutSourcePropertyNames, k ∉ sessionUuidPropertyNames := by decide
  rw [get_isSome, get_isSome]
  constructor
  · intro h
    exact (filter_sublist.map _).subset h
  · intro h
    obtain ⟨entry, he, rfl⟩ := mem_map.1 h
    exact mem_map_of_mem (mem_filter.2 ⟨he, decide_eq_true (hnot _ hk)⟩)

lemma Permitted.page (h : Permitted P pinnedToken eventName key (.string text)) :
    (key = "page_path" → RouteClass P eventName text) ∧
      (key = "page_url" → ∃ url ∈ P.parseUrl text, text = url.origin ++ url.pathname) := by
  cases h with
  | path hk h =>
    refine ⟨fun _ => h, ?_⟩
    rintro rfl
    exact hk.elim (absurd · (by decide)) fun hk => absurd hk.2 (by decide)
  | url hk h =>
    refine ⟨?_, fun _ => h⟩
    rintro rfl
    exact absurd hk (by decide)
  | measure max hk h => cases h
  | distinctId => exact ⟨fun h => absurd h (by decide), fun h => absurd h (by decide)⟩
  | token => exact ⟨fun h => absurd h (by decide), fun h => absurd h (by decide)⟩
  | label hk | session hk =>
    constructor <;> rintro rfl
    · exact absurd hk (by decide)
    · exact absurd hk (by decide)

lemma rebuilt_anonymous {e : IngestEvent} {given : JsonValue}
    (h : rebuildIngestEvent P pinnedToken given originContext = some e) :
    e.Anonymous P pinnedToken originContext := by
  unfold rebuildIngestEvent at h
  split at h
  next fields =>
    simp only [run_gives] at h
    obtain ⟨-, eventName, -, -, t, ht, uuid, -, timestamp, -, offset, -, rfl⟩ := h
    obtain ⟨sent, r, -, -, -, hc, hr⟩ := rebuildIngestEventProperties_spec ht
    obtain ⟨-, pageUrl, hu, pagePath, hp, ⟨url, hurl, ho, hpath⟩, hcur, hname, hprev⟩ :=
      of_decide_eq_true hc
    have hget : ∀ {key text}, text ∈ (get t key).bind string? →
        get t key = some (.string text) := by
      intro key text hb
      obtain ⟨v, hg, hs⟩ := Option.bind_eq_some_iff.1 hb
      rw [hg, string_eq hs]
    obtain ⟨url', hurl', heq⟩ := (hr.permitted (hget hu)).page.2 rfl
    cases Option.some.inj (hurl.symm.trans hurl')
    rw [ho, hpath] at heq
    subst heq
    refine ⟨fun key value => hr.permitted, ⟨hr.identity (.head _), hr.identity (.tail _ (.head _))⟩,
      ⟨pagePath, (hr.permitted (hget hp)).page.1 rfl, hget hp, hget hu,
        fun v hv => string_eq (hcur v hv), forall_mem_cons.2 ⟨fun v hv => string_eq (hname v hv),
          forall_mem_singleton.2 fun v hv => string_eq (hprev v hv)⟩⟩, fun hcount => ?_⟩
    exact ⟨if_pos hcount, if_pos hcount, fun key hk => hr.unlinked hcount hk⟩
  next => cases h

lemma optionalField_eq {o x : Option JsonValue} {ok : JsonValue → Bool}
    (h : optionalField o ok = some x) : x = o :=
  (ite_eq_iff.1 h).elim (fun h => (Option.some.inj h.2).symm) fun h => nomatch h.2

lemma rebuilt_unlinked {e e' : IngestEvent} {fields' : Properties}
    (h : rebuildIngestEvent P pinnedToken (.object fields) originContext = some e)
    (h' : rebuildIngestEvent P pinnedToken (.object fields') originContext = some e')
    (hc : isCheckoutAttributionTelemetryEvent e.event e.properties = true)
    (hd : DiffersInLinks P fields fields') : e = e' := by
  simp only [rebuildIngestEvent, run_gives] at h h'
  obtain ⟨-, name, hev, -, t, ht, uuid, -, time, hst, offset, -, rfl⟩ := h
  obtain ⟨-, name', hev', -, t', ht', uuid', -, time', hst', offset', -, rfl⟩ := h'
  obtain ⟨sent, sent', hs, hs', hsent⟩ := hd.properties
  rw [hd.event, hev'] at hev
  obtain rfl : name' = name := Option.some.inj hev
  have hprops : t = t' := by
    obtain ⟨_, r, hg, hr, hw, -, hreb⟩ := rebuildIngestEventProperties_spec ht
    obtain ⟨_, r', hg', hr', hw', -, -⟩ := rebuildIngestEventProperties_spec ht'
    cases hs.symm.trans hg
    cases hs'.symm.trans hg'
    have hcount := hreb.counts hc
    have hcount' : isCheckoutAttributionTelemetryEvent name' sent' = true := by
      rw [← isCounter_filter, ← hsent, isCounter_filter]
      exact hcount
    rw [hcount] at hr
    rw [hcount'] at hr'
    have hu := rebuildProperties_unlinked hr
    rw [hsent, rebuildProperties_unlinked hr'] at hu
    cases Option.some.inj hu
    exact Option.some.inj (hw.symm.trans hw')
  subst hprops
  rw [optionalField_eq hst, optionalField_eq hst']
  simp only [show isCheckoutAttributionTelemetryEvent name' t = true from hc, if_true]
  rcases hd.timestamp with heq | ⟨time, time', ha, ha', hh⟩
  · rw [heq]
  · simp only [ha, ha', Option.bind_some, string?, hh]

end

/-- Forwarded events are anonymous, and a counter's reports within an hour are one event. -/
theorem telemetry_stays_anonymous (originContext : AllowedOriginContext) :
    (∀ body payload,
      rebuildPostHogIngestPayload P pinnedToken body originContext = .ok payload →
      ∀ e ∈ payload.events, e.Anonymous P pinnedToken originContext) ∧
    ∀ fields fields' e e',
      rebuildIngestEvent P pinnedToken (.object fields) originContext = some e →
      rebuildIngestEvent P pinnedToken (.object fields') originContext = some e' →
      isCheckoutAttributionTelemetryEvent e.event e.properties = true →
      DiffersInLinks P fields fields' → e = e' := by
  constructor
  · intro body payload h e he
    unfold rebuildPostHogIngestPayload at h
    split at h
    · cases h
    · obtain ⟨-, h⟩ := rejects_ok.1 h
      cases Except.ok.inj h
      obtain ⟨given, -, hg⟩ := mem_filterMap.1 (mem_filter.1 he).1
      exact rebuilt_anonymous hg
  · intro fields fields' e e' h h' hc hd
    exact rebuilt_unlinked h h' hc hd

end Conduit.Telemetry
