import Conduit.Js.Json
import Conduit.Js.Map
import Conduit.Js.Uri
import Conduit.Lightning

namespace Conduit.Telemetry

open Js JsonValue Throwing List

abbrev texts (l : List String) : List Text := l.map String.toList

def browserTelemetryEventNames : List Text := texts
  ["app_load_result", "client_error_result", "signer_connected", "signer_disconnected", "cart_add",
    "cart_remove", "cart_clear", "checkout_initiated", "checkout_step_result", "checkout_success",
    "checkout_result", "checkout_handoff_result", "checkout_router_operation_result",
    "relay_connect_result", "relay_publish_result", "nip17_compatibility_result",
    "wallet_connect_result", "payment_attempt_result", "merchant_setup_step_result",
    "product_publish_result", "shipping_publish_result", "market_browse_action",
    "product_detail_action"]

def browserTelemetryPropertyNames : List Text := texts
  ["event_name", "app", "network", "status", "latency_bucket", "count", "time_bucket", "surface",
    "action", "step", "mode", "rail", "method", "event_family", "count_bucket",
    "result_count_bucket", "amount_bucket", "product_type", "declaration_class", "delivery_route",
    "ack_outcome", "repair_outcome", "block_reason", "handoff_stage", "partner_code",
    "source_domain", "source_method", "page_url", "page_path"]

structure BrowserTelemetryEventPropertyContract where
  (apps required optional : List String)

def browserTelemetryBasePropertyNames : List String :=
  ["event_name", "app", "page_url", "page_path"]

def countAndTimePropertyNames : List String := ["count", "time_bucket"]

def timePropertyNames : List String := ["time_bucket"]

def checkoutSourcePropertyNames : List String := ["source_domain", "source_method", "partner_code"]

def sharedTelemetryApps : List String := ["market", "merchant"]

def marketTelemetryApps : List String := ["market"]

def merchantTelemetryApps : List String := ["merchant"]

def cartContract : BrowserTelemetryEventPropertyContract :=
  ⟨marketTelemetryApps, ["surface", "action", "status", "count_bucket", "product_type"],
    timePropertyNames⟩

def relayContract : BrowserTelemetryEventPropertyContract :=
  ⟨sharedTelemetryApps, ["network", "status"], "latency_bucket" :: countAndTimePropertyNames⟩

def signerContract : BrowserTelemetryEventPropertyContract :=
  ⟨sharedTelemetryApps, ["method", "status"], countAndTimePropertyNames⟩

def publishContract : BrowserTelemetryEventPropertyContract :=
  ⟨merchantTelemetryApps, ["event_family", "status", "latency_bucket"], countAndTimePropertyNames⟩

def browserTelemetryEventPropertyContracts :
    List (String × BrowserTelemetryEventPropertyContract) :=
  [("app_load_result", relayContract),
    ("client_error_result", ⟨sharedTelemetryApps,
      ["surface", "action", "event_family", "mode", "status"], []⟩),
    ("signer_connected", signerContract),
    ("signer_disconnected", signerContract),
    ("cart_add", cartContract),
    ("cart_remove", cartContract),
    ("cart_clear", cartContract),
    ("checkout_initiated", ⟨marketTelemetryApps,
      ["surface", "status", "count_bucket", "product_type"], timePropertyNames⟩),
    ("checkout_step_result", ⟨marketTelemetryApps, ["surface", "step", "mode", "rail", "status",
      "count_bucket", "amount_bucket", "product_type"],
      "latency_bucket" :: timePropertyNames ++ checkoutSourcePropertyNames⟩),
    ("checkout_success", ⟨marketTelemetryApps, ["surface", "mode", "rail", "status",
      "count_bucket", "amount_bucket", "product_type"],
      timePropertyNames ++ checkoutSourcePropertyNames⟩),
    ("checkout_result", ⟨marketTelemetryApps, ["surface", "mode", "rail", "network", "status",
      "count_bucket", "amount_bucket", "product_type"],
      timePropertyNames ++ checkoutSourcePropertyNames⟩),
    ("checkout_handoff_result", ⟨marketTelemetryApps, ["surface", "handoff_stage", "mode"],
      checkoutSourcePropertyNames⟩),
    ("checkout_router_operation_result", ⟨sharedTelemetryApps,
      ["step", "status", "latency_bucket", "count_bucket"], []⟩),
    ("relay_connect_result", relayContract),
    ("relay_publish_result", relayContract),
    ("nip17_compatibility_result", ⟨sharedTelemetryApps, ["action", "declaration_class",
      "delivery_route", "ack_outcome", "repair_outcome", "block_reason"], []⟩),
    ("wallet_connect_result", ⟨marketTelemetryApps, ["rail", "method", "status"],
      "latency_bucket" :: countAndTimePropertyNames⟩),
    ("payment_attempt_result", ⟨marketTelemetryApps,
      ["rail", "mode", "status", "latency_bucket", "amount_bucket"], countAndTimePropertyNames⟩),
    ("merchant_setup_step_result", ⟨merchantTelemetryApps, ["surface", "step", "status"],
      countAndTimePropertyNames⟩),
    ("product_publish_result", publishContract),
    ("shipping_publish_result", publishContract),
    ("market_browse_action", ⟨marketTelemetryApps,
      ["surface", "action", "status", "result_count_bucket"],
      "product_type" :: timePropertyNames⟩),
    ("product_detail_action", ⟨marketTelemetryApps, ["surface", "action", "product_type"],
      timePropertyNames⟩)]

def getBrowserTelemetryEventPropertyContract (eventName : Text) :
    Option BrowserTelemetryEventPropertyContract :=
  (browserTelemetryEventPropertyContracts.find? fun entry =>
    decide (entry.1.toList = eventName)).map Prod.snd

def isAllowedBrowserTelemetryEventProperty (eventName propertyName : Text) : Bool :=
  (getBrowserTelemetryEventPropertyContract eventName).any fun contract =>
    propertyName ∈ texts (browserTelemetryBasePropertyNames ++ contract.required ++
      contract.optional)

def isAllowedBrowserTelemetryEventApp (eventName app : Text) : Bool :=
  (getBrowserTelemetryEventPropertyContract eventName).any fun contract => app ∈ texts contract.apps

def checkoutSparkOperationSteps : List String :=
  ["router_preparation", "router_funding_preparation", "router_recipient_profiles",
    "router_recipient_metadata", "router_funding_observation", "router_commerce_verification",
    "router_outgoing_observation", "router_native_commitment", "router_merchant_recovery"]

def countBucketValues : List String := ["0", "1", "2_3", "4_10", "11_plus"]

def browserTelemetryLabelValues : List (Text × List Text) :=
  ("event_name".toList, browserTelemetryEventNames) :: [("app", ["market", "merchant"]),
    ("network", ["browser"]),
    ("status", ["success", "failure", "blocked", "unavailable", "ambiguous", "invalid",
      "disconnected", "connecting", "connected", "pay_capable", "unsupported", "unreachable",
      "error", "started", "failed", "order_sent", "order_sent_local_tracking_failed",
      "success_local_tracking_failed"]),
    ("latency_bucket", ["unknown", "lt_250ms", "250ms_1s", "1s_3s", "3s_10s", "10s_plus"]),
    ("count", []), ("time_bucket", []),
    ("surface", ["browser", "cart", "checkout", "merchant_readiness", "product_detail",
      "storefront"]),
    ("action", ["window_error", "unhandled_rejection", "react_error_boundary", "add", "remove",
      "clear_all", "clear_merchant", "clear_purchase", "storefront_search",
      "storefront_search_clear", "add_to_cart", "view_cart", "order_delivery",
      "declaration_repair"]),
    ("step", checkoutSparkOperationSteps ++ ["availability", "checkout_revalidation", "profile",
      "payments", "shipping", "network", "order_delivery", "order_submit", "direct_payment"]),
    ("mode", ["buy", "cart", "unknown", "handled", "unhandled", "automatic", "checkout",
      "order_first", "anonymous_public_zap", "public_zap_as_shopper", "private_checkout"]),
    ("rail", ["lightning", "wallet", "nwc", "webln", "none"]),
    ("method", ["nip07", "nip46", "local", "nwc"]),
    ("event_family", ["type_error", "reference_error", "range_error", "syntax_error",
      "aggregate_error", "dom_exception", "error", "non_error", "create", "update",
      "delivery_retry", "publish", "clear"]),
    ("count_bucket", countBucketValues), ("result_count_bucket", countBucketValues),
    ("amount_bucket", ["unknown", "lt_1k_sats", "1k_10k_sats", "10k_100k_sats", "100k_1m_sats",
      "1m_plus_sats"]),
    ("product_type", ["physical", "digital", "mixed", "unknown"]),
    ("declaration_class", ["declared", "distribution_pending", "signed_empty", "not_observed",
      "lookup_partial", "lookup_unavailable", "malformed", "unknown"]),
    ("delivery_route", ["declared_inbox", "compatibility_order", "blocked", "not_applicable"]),
    ("ack_outcome", ["unavailable", "zero", "partial", "positive", "not_applicable"]),
    ("repair_outcome", ["discoverable", "confirmation_pending", "failed", "not_applicable"]),
    ("block_reason", ["sender_not_ready", "recipient_not_ready", "recipient_relays_excluded",
      "recipient_lookup_failed", "recipient_declaration_distribution_pending",
      "recipient_declaration_signed_empty", "recipient_declaration_malformed",
      "not_applicable"]),
    ("handoff_stage", ["arrival", "products_resolved", "checkout_ready", "cart_conflict",
      "retryable_lookup_failure", "rejected_link", "order_submitted"]),
    ("partner_code", []), ("source_domain", []),
    ("source_method", ["claimed", "referrer", "partner", "none"])].map fun entry =>
      (entry.1.toList, texts entry.2)

structure Url where
  (protocol hostname port pathname search hash username password origin : Text)

/-- What `parse` of `tldts` finds of a host name. -/
structure TldtsResult where
  (isIp isIcann isPrivate : Bool)
  domain : Option Text

structure NaddrPointer where
  kind : Int
  (pubkey identifier : Text)
  relays : List Text

structure TelemetryPlatform (Body : Type) where
  /-- `JSON.parse` of the body's UTF-8 text. -/
  parseBody : Body → Option JsonValue
  parseUrl : Text → Option Url
  parseDomain : Text → TldtsResult
  /-- The finite number of a `JsonValue.number`. -/
  finite : Text → Option Rat
  parseDate : Text → Option Int
  toISOString : Int → Text
  nip19Decode : Text → Option NaddrPointer
  naddrEncode : NaddrPointer → Option Text
  normalizeProductRelayHints : List Text → List Text

variable {Body : Type} (P : TelemetryPlatform Body)

structure CheckoutPartnerRegistration where
  (code account : Text)
  active : Bool
  domains : Option (List Text)

def checkoutPartnerRegistry : List CheckoutPartnerRegistration := []

/-- `/^[a-z0-9][a-z0-9_-]{2,63}$/`. -/
def isPartnerCode (code : Text) : Bool :=
  code.head?.any isLowerAlphanumeric && decide (3 ≤ code.length ∧ code.length ≤ 64) &&
    code.all fun c => isLowerAlphanumeric c || c == '_' || c == '-'

def activeCheckoutPartnerCodes (registry : List CheckoutPartnerRegistration) : List Text :=
  if 64 < registry.length then []
  else
    let codes := (registry.filter fun entry =>
      entry.active && !entry.account.isEmpty && isPartnerCode entry.code).map (·.code)
    codes.filter fun code => codes.count code = 1

def resolveCheckoutPartnerCode (claim : Text) (registry : List CheckoutPartnerRegistration) :
    Option Text :=
  if isPartnerCode claim = true ∧ claim ∈ activeCheckoutPartnerCodes registry then some claim
  else none

/-- `/^[a-z0-9](?:[a-z0-9-]{0,61}[a-z0-9])?$/`. -/
def isHostLabel (label : Text) : Bool :=
  label.head?.any isLowerAlphanumeric && label.getLast?.any isLowerAlphanumeric &&
    decide (label.length ≤ 63) && label.all fun c => isLowerAlphanumeric c || c == '-'

def reservedHosts : List Text := texts ["localhost", "local", "test", "invalid", "internal", "lan",
  "home", "onion", "alt", "arpa", "example"]

def normalizeCheckoutSourceDomain (value : Text) : Option Text := do
  guard (Js.length value ≤ 512)
  let input := trim value
  guard (input ≠ [] ∧ input.all (fun c => !isSpace c && !":/?#@\\%[]".toList.contains c) = true)
  let url ← P.parseUrl ("https://".toList ++ input)
  let lower := toLowerCase url.hostname
  let hostname := if lower.getLast? = some '.' then lower.dropLast else lower
  let labels := split '.' hostname
  guard (Js.length hostname ≤ 253 ∧ labels.all isHostLabel = true)
  guard (∀ last ∈ labels.getLast?, last ∉ reservedHosts)
  let result := P.parseDomain hostname
  guard (result.isIp = false ∧ (result.isIcann = true ∨ result.isPrivate = true) ∧
    result.domain ≠ some [])
  result.domain

def resolveCheckoutPartnerDomain (domain : Text) (registry : List CheckoutPartnerRegistration) :
    Option Text :=
  if domain = [] ∨ normalizeCheckoutSourceDomain P domain ≠ some domain ∨ 64 < registry.length then
    none
  else
    let activeCodes := activeCheckoutPartnerCodes registry
    let isMatch (entry : CheckoutPartnerRegistration) : Bool :=
      entry.code ∈ activeCodes ∧ ∃ domains ∈ entry.domains, domains.length ≤ 8 ∧
        (∀ item ∈ domains, normalizeCheckoutSourceDomain P item = some item) ∧ domain ∈ domains
    match registry.filter isMatch with
    | [entry] => some entry.code
    | _ => none

abbrev Properties := List (Text × JsonValue)

/-- `properties[key]`. -/
def get (properties : Properties) (key : Text) : Option JsonValue :=
  (JsonValue.object properties).field key

def hasValidCheckoutAttributionTelemetry (properties : Properties) : Bool :=
  let domain := get properties "source_domain"
  let method := get properties "source_method"
  let code := get properties "partner_code"
  let isResolved := ∃ text ∈ code.bind string?,
    resolveCheckoutPartnerCode text checkoutPartnerRegistry = some text
  if domain.isNone ∧ method.isNone then true
  else match method.bind string? with
    | none => false
    | some method =>
      if method = "none" then domain.isNone && code.isNone
      else if method = "partner" then domain.isNone && decide isResolved
      else if method ≠ "claimed" ∧ method ≠ "referrer" then false
      else match domain.bind string? with
        | none => false
        | some domain =>
          let mapped := if domain = "other" then none
            else resolveCheckoutPartnerDomain P domain checkoutPartnerRegistry
          if domain ≠ "other" ∧ (normalizeCheckoutSourceDomain P domain ≠ some domain ∨
            mapped = none) then false
          else if method = "claimed" then
            match mapped with
            | none => code.isNone
            | some mapped => decide (code.bind string? = some mapped)
          else match code with
            | none => mapped.isNone
            | some _ => decide isResolved

def hasRequiredBrowserTelemetryEventProperties (eventName : Text) (properties : Properties) :
    Bool :=
  (getBrowserTelemetryEventPropertyContract eventName).any fun contract =>
    hasValidCheckoutAttributionTelemetry P properties &&
      (texts (browserTelemetryBasePropertyNames ++ contract.required)).all fun key =>
        (get properties key).isSome

def isAllowedBrowserTelemetryLabelValue (propertyName value eventName : Text) : Bool :=
  if propertyName = "partner_code" then
    resolveCheckoutPartnerCode value checkoutPartnerRegistry = some value
  else if propertyName = "source_domain" then
    value = "other" ∨ normalizeCheckoutSourceDomain P value = some value ∧
      resolveCheckoutPartnerDomain P value checkoutPartnerRegistry ≠ none
  else
    (∃ entry ∈ browserTelemetryLabelValues, entry.1 = propertyName ∧ value ∈ entry.2) ∧
      ¬ (propertyName = "app" ∧ (getBrowserTelemetryEventPropertyContract eventName).isSome ∧
        isAllowedBrowserTelemetryEventApp eventName value = false) ∧
      (propertyName ≠ "event_name" ∨ value = eventName)

def isCheckoutAttributionTelemetryEvent (eventName : Text) (properties : Properties) : Bool :=
  eventName = "checkout_handoff_result" ∨
    ∃ key ∈ texts checkoutSourcePropertyNames, (get properties key).isSome = true

end Conduit.Telemetry
