import Conduit.CheckoutSpark.EventBinding
import Conduit.Joined
import Mathlib.Algebra.Order.BigOperators.Group.List
import Mathlib.Tactic.Linarith

namespace Conduit.ShippingShares

open Js Throwing CheckoutSpark List

structure ShippingPolicyQuoteItem where
  (productId productEventId : Text)
  quantity : Int
  deriving DecidableEq

structure ShippingPolicyQuote where
  (merchantPubkey policyCoordinate policyEventId currency : Text)
  amountMinor : Int
  amountSats : Option Int
  pricingRate : Option Text
  items : List ShippingPolicyQuoteItem
  /-- The other terms, in the canonical text that `hasSameShippingPolicyQuote` compares. -/
  terms : Text
  deriving DecidableEq

structure ShippingPlatform where
  parseShippingPolicyQuote : ShippingPolicyQuote → Option ShippingPolicyQuote
  convertToSats : Int → Text → Option Int
  freezeCommercePricing : Text → Option Text
  isPricingRateQuoteFresh : Text → Int → Bool

structure ShippingPolicyLine where
  quote : ShippingPolicyQuote
  allocatedCostSats : Int

/-- What the check reads of a line of the order. -/
structure QuoteLine where
  (productCoordinate productEventId merchantPubkey : Text)
  (quantity unitShippingSats : Int)
  sourceShippingCost : Option Text
  shippingOption : Option EventReference
  shippingPolicy : Option ShippingPolicyLine

def unavailable : String := "Checkout Spark signed fulfillment evidence is unavailable."

def itemLe (a b : ShippingPolicyQuoteItem) : Bool := TextLe a.productId b.productId

def handOut : Int → List (Text × Int) → List (Text × Int)
  | _, [] => []
  | remaining, share :: rest =>
    if remaining ≤ 0 then share :: rest
    else (share.1, share.2 + 1) :: handOut (remaining - 1) rest

variable (P : ShippingPlatform)

variable (quote : ShippingPolicyQuote)

def ShippingPolicyQuote.amount : Option Int :=
  quote.amountSats <|> P.convertToSats quote.amountMinor quote.currency

def ShippingPolicyQuote.totalQuantity : Int :=
  (quote.items.map (·.quantity)).sum

/-- Neither operand of the division is negative. -/
def floors (amount total : Int) (ordered : List ShippingPolicyQuoteItem) : List (Text × Int) :=
  ordered.map fun item => (item.productId, amount * item.quantity / total)

def allocateCheckoutSparkShippingPolicySats : Except String (List (Text × Int)) := do
  let amount ← (quote.amount P).elim (.error "Invalid shipping amount.") .ok
  let totalQuantity := quote.totalQuantity
  reject (¬ IsSafeInteger amount ∨ amount < 0 ∨ ¬ IsSafeInteger totalQuantity ∨ totalQuantity ≤ 0 ∨
    ∃ item ∈ quote.items, ¬ IsSafeInteger item.quantity ∨ item.quantity ≤ 0) unavailable
  let ordered := sortBy itemLe quote.items
  reject (¬ (ordered.map (·.productId)).Nodup) unavailable
  let result := floors amount totalQuantity ordered
  return handOut (amount - (result.map (·.2)).sum) result

def policyKey (line : QuoteLine) : Option Text := line.shippingPolicy.map (·.quote.policyEventId)

def group (key : Text) (lines : List QuoteLine) : List QuoteLine :=
  lines.filter fun line => policyKey line = some key

/-- `allocated.get(productId)`. -/
def shareOf (productId : Text) (allocated : List (Text × Int)) : Option Int :=
  (Conduit.lookup (·.1) productId allocated).map (·.2)

def LineOk (policy : ShippingPolicyQuote) (allocated : List (Text × Int)) (line : QuoteLine) : Prop :=
  ∃ source ∈ policy.items.find? fun item => item.productId = line.productCoordinate,
    ∃ own ∈ line.shippingPolicy, own.quote = policy ∧ source.productEventId = line.productEventId ∧
      source.quantity = line.quantity ∧ policy.merchantPubkey = line.merchantPubkey ∧
      line.shippingOption = some ⟨policy.policyCoordinate, policy.policyEventId⟩ ∧
      line.unitShippingSats = 0 ∧ line.sourceShippingCost = none ∧
      shareOf line.productCoordinate allocated = some own.allocatedCostSats
  deriving Decidable

variable (acceptedAtMs : Option Int)

def RateOk (policy : ShippingPolicyQuote) : Prop :=
  ∀ rate ∈ policy.pricingRate, ∃ frozen ∈ P.freezeCommercePricing rate,
    ∃ acceptedAt ∈ acceptedAtMs, P.isPricingRateQuoteFresh frozen acceptedAt = true
  deriving Decidable

variable (lines : List QuoteLine)

def checkGroup : Except String Unit := do
  let own ← (lines.head?.bind (·.shippingPolicy)).elim (.error "unreachable") .ok
  let policy ← (P.parseShippingPolicyQuote own.quote).elim (.error "ZodError") .ok
  reject (¬ RateOk P acceptedAtMs policy) unavailable
  let allocated ← allocateCheckoutSparkShippingPolicySats P policy
  reject (policy.items.length ≠ lines.length ∨ ∃ line ∈ lines, ¬ LineOk policy allocated line)
    unavailable

def assertCheckoutSparkCommerceShippingPolicies
    (acceptedAtMs : Option Int) : Except String (List Unit) :=
  mapResult (fun key => checkGroup P acceptedAtMs (group key lines))
    (lines.filterMap policyKey).eraseDups

section
variable {P : ShippingPlatform} {quote : ShippingPolicyQuote} {l : List (Text × Int)} {r : Int}
  {items : List ShippingPolicyQuoteItem} {amount total : Int} {share : Text × Int}

lemma handOut_ids (r : Int) : (handOut r l).map (·.1) = l.map (·.1) := by
  induction l generalizing r with
  | nil => rfl
  | cons share rest ih =>
    rw [handOut]
    split
    · rfl
    · rw [map_cons, map_cons, ih]

lemma handOut_sum (hn : 0 ≤ r) (hle : r ≤ l.length) :
    ((handOut r l).map (·.2)).sum = (l.map (·.2)).sum + r := by
  induction l generalizing r with
  | nil =>
    have hz : r = 0 := le_antisymm hle hn
    rw [hz]
    rfl
  | cons share rest ih =>
    rw [length_cons, Nat.cast_succ] at hle
    rw [handOut]
    split
    · omega
    · rw [map_cons, sum_cons, ih (by omega) (by omega), map_cons, sum_cons]
      omega

lemma mem_handOut (h : share ∈ handOut r l) :
    ∃ floor, (share.1, floor) ∈ l ∧ (share.2 = floor ∨ share.2 = floor + 1) := by
  induction l generalizing r with
  | nil => cases h
  | cons first rest ih =>
    rw [handOut] at h
    split at h
    · exact ⟨share.2, h, .inl rfl⟩
    · rcases mem_cons.1 h with rfl | h
      · exact ⟨first.2, mem_cons_self, .inr rfl⟩
      · obtain ⟨floor, hf, hsh⟩ := ih h
        exact ⟨floor, mem_cons_of_mem _ hf, hsh⟩

lemma floors_sum (amount : Int) (items : List ShippingPolicyQuoteItem) (ht : 0 < total) :
    ((floors amount total items).map (·.2)).sum * total ≤ amount * (items.map (·.quantity)).sum ∧
      amount * (items.map (·.quantity)).sum ≤
        (((floors amount total items).map (·.2)).sum + items.length) * total := by
  induction items with
  | nil => simp [floors]
  | cons item items ih =>
    have hfloor := Int.ediv_mul_le (amount * item.quantity) ht.ne'
    have hc := Int.lt_ediv_add_one_mul_self (amount * item.quantity) ht
    simp only [floors, map_cons, sum_cons, length_cons, Nat.cast_succ, add_mul, mul_add,
      one_mul] at ih hc ⊢
    constructor <;> linarith

structure Shippable (P : ShippingPlatform) (quote : ShippingPolicyQuote) (amount : Int) : Prop where
  sats : quote.amount P = some amount
  safe : IsSafeInteger amount ∧ 0 ≤ amount
  items : quote.items ≠ []
  quantities : ∀ item ∈ quote.items, IsSafeInteger item.quantity ∧ 0 < item.quantity
  totalSafe : IsSafeInteger quote.totalQuantity
  products : (quote.items.map (·.productId)).Nodup

structure Exact (quote : ShippingPolicyQuote) (amount : Int) (shares : List (Text × Int)) : Prop where
  products : (shares.map (·.1)).Perm (quote.items.map (·.productId))
  sum : (shares.map (·.2)).sum = amount
  near : ∀ item ∈ quote.items, ∃ share, shareOf item.productId shares = some share ∧ 0 ≤ share ∧
    -quote.totalQuantity < share * quote.totalQuantity - amount * item.quantity ∧
    share * quote.totalQuantity - amount * item.quantity ≤ quote.totalQuantity

lemma separates_itemLe : Separates (·.productId) itemLe where
  total a b := by simpa [itemLe] using Std.Total.total (r := TextLe) a.productId b.productId
  trans a b c := by simpa [itemLe] using IsTrans.trans (r := TextLe) _ _ _
  antisymm a b := by simpa [itemLe] using textLe_antisymm

lemma shareOf_of_mem (hnd : (l.map (·.1)).Nodup) (h : share ∈ l) :
    shareOf share.1 l = some share.2 := by
  rw [shareOf, (lookup_eq_some hnd).2 ⟨h, rfl⟩]
  rfl

lemma totalQuantity_pos (h : Shippable P quote amount) : 0 < quote.totalQuantity := by
  refine List.sum_pos _ (fun q hq => ?_) (by simpa using h.items)
  obtain ⟨item, hi, rfl⟩ := mem_map.1 hq
  exact (h.quantities item hi).2

lemma sortBy_eq_of_perm (hnd : (quote.items.map (·.productId)).Nodup)
    (hpm : items.Perm quote.items) : sortBy itemLe items = sortBy itemLe quote.items := by
  have hi := (hpm.map (·.productId)).nodup_iff.2 hnd
  refine Canonical.ext separates_itemLe (canonical_sortBy separates_itemLe hi)
    (canonical_sortBy separates_itemLe hnd) fun k => ?_
  rw [lookup_sortBy hi, lookup_sortBy hnd]
  exact Keyed.find?_key_perm hnd hpm k

def sharesOf (amount : Int) (quote : ShippingPolicyQuote) : List (Text × Int) :=
  let result := floors amount quote.totalQuantity (sortBy itemLe quote.items)
  handOut (amount - (result.map (·.2)).sum) result

lemma allocate_eq (h : Shippable P quote amount) :
    allocateCheckoutSparkShippingPolicySats P quote = .ok (sharesOf amount quote) := by
  have hpos := totalQuantity_pos h
  have hn : ¬ (¬ IsSafeInteger amount ∨ amount < 0 ∨ ¬ IsSafeInteger quote.totalQuantity ∨
      quote.totalQuantity ≤ 0 ∨
        ∃ item ∈ quote.items, ¬ IsSafeInteger item.quantity ∨ item.quantity ≤ 0) := by
    rintro (hb | hb | hb | hb | ⟨item, hi, hb⟩)
    · exact hb h.safe.1
    · exact absurd h.safe.2 (by omega)
    · exact hb h.totalSafe
    · omega
    · obtain ⟨hs, hqty⟩ := h.quantities item hi
      exact hb.elim (· hs) (by omega)
  have hnd := (canonical_sortBy separates_itemLe h.products).nodup
  simp only [allocateCheckoutSparkShippingPolicySats, h.sats, Option.elim, ok_bind,
    reject_of_not hn, reject_of_not (not_not.2 hnd)]
  rfl

lemma sharesOf_exact (h : Shippable P quote amount) : Exact quote amount (sharesOf amount quote) := by
  have hp := totalQuantity_pos h
  have hpm : (sortBy itemLe quote.items).Perm quote.items := sortBy_perm
  have hsu := floors_sum amount (sortBy itemLe quote.items) hp
  have ht : ((sortBy itemLe quote.items).map (·.quantity)).sum = quote.totalQuantity :=
    (hpm.map (·.quantity)).sum_eq
  rw [ht] at hsu
  have hids : (floors amount quote.totalQuantity (sortBy itemLe quote.items)).map (·.1) =
      (sortBy itemLe quote.items).map (·.productId) := by
    rw [floors, map_map]
    rfl
  have hpr : ((sharesOf amount quote).map (·.1)).Perm (quote.items.map (·.productId)) := by
    rw [sharesOf, handOut_ids, hids]
    exact hpm.map _
  have hnd := hpr.nodup_iff.2 h.products
  refine ⟨hpr, ?_, ?_⟩
  · -- The floors lose at most a sat each, so that the loop hands out all that is left.
    have hlow := le_of_mul_le_mul_right hsu.1 hp
    have hhigh := le_of_mul_le_mul_right hsu.2 hp
    have hlen : (floors amount quote.totalQuantity (sortBy itemLe quote.items)).length =
      (sortBy itemLe quote.items).length := length_map _
    rw [sharesOf, handOut_sum (by omega) (by omega)]
    omega
  · intro item hi
    obtain ⟨share, hsh, hid⟩ := mem_map.1 (hpr.mem_iff.2 (mem_map_of_mem hi))
    obtain ⟨floor, hf, hs⟩ := mem_handOut hsh
    obtain ⟨source, hsrc, heq⟩ := mem_map.1 hf
    have hitems := hpm.mem_iff.1 hsrc
    obtain rfl : source = item := Keyed.eq_of_key_eq h.products hitems hi
      ((congrArg Prod.fst heq).trans hid)
    obtain rfl : amount * source.quantity / quote.totalQuantity = floor := congrArg Prod.snd heq
    have hle := Int.ediv_mul_le (amount * source.quantity) hp.ne'
    have hlt := Int.lt_ediv_add_one_mul_self (amount * source.quantity) hp
    have hn := Int.ediv_nonneg (mul_nonneg h.safe.2 (h.quantities source hi).2.le) hp.le
    refine ⟨share.2, hid ▸ shareOf_of_mem hnd hsh, ?_⟩
    rw [add_mul, one_mul] at hlt
    -- The share is the floor of the proportion, or one sat more.
    rcases hs with hs | hs
    · rw [hs]
      exact ⟨hn, by linarith, by linarith⟩
    · rw [hs, add_mul, one_mul]
      exact ⟨by omega, by linarith, by linarith⟩

end

structure Carried (P : ShippingPlatform) (own : ShippingPolicyLine) (line : QuoteLine) : Prop where
  item : ⟨line.productCoordinate, line.productEventId, line.quantity⟩ ∈ own.quote.items
  merchant : line.merchantPubkey = own.quote.merchantPubkey
  policy : line.shippingOption = some ⟨own.quote.policyCoordinate, own.quote.policyEventId⟩
  unit : line.unitShippingSats = 0
  source : line.sourceShippingCost = none
  share : ∃ shares, allocateCheckoutSparkShippingPolicySats P own.quote = .ok shares ∧
    shareOf line.productCoordinate shares = some own.allocatedCostSats

structure Carries (P : ShippingPlatform) (acceptedAtMs : Option Int)
    (policies : List ShippingPolicyQuote) (lines : List QuoteLine) : Prop where
  events : (policies.map (·.policyEventId)).Nodup
  parses : ∀ quote ∈ policies, P.parseShippingPolicyQuote quote = some quote
  rates : ∀ quote ∈ policies, RateOk P acceptedAtMs quote
  amounts : ∀ quote ∈ policies, ∃ amount, Shippable P quote amount
  own : ∀ line ∈ lines, ∀ own ∈ line.shippingPolicy, own.quote ∈ policies ∧ Carried P own line
  whole : ∀ quote ∈ policies, (group quote.policyEventId lines).length = quote.items.length

def Accepted : Prop :=
  ∃ u, assertCheckoutSparkCommerceShippingPolicies P lines acceptedAtMs = .ok u

section
variable {P : ShippingPlatform} {acceptedAtMs : Option Int} {quote : ShippingPolicyQuote}
  {policies : List ShippingPolicyQuote} {lines changed : List QuoteLine} {line : QuoteLine}
  {own : ShippingPolicyLine} {key : Text} {i : Nat}

lemma accepted_iff : Accepted P acceptedAtMs lines ↔ ∀ line ∈ lines, ∀ own ∈ line.shippingPolicy,
    checkGroup P acceptedAtMs (group own.quote.policyEventId lines) = .ok () := by
  constructor
  · rintro ⟨u, h⟩ line hl own ho
    have hk : own.quote.policyEventId ∈ (lines.filterMap policyKey).eraseDups :=
      mem_eraseDups.2 (mem_filterMap.2 ⟨line, hl, by rw [policyKey, ho]; rfl⟩)
    obtain ⟨⟨⟩, -, hc⟩ := mapResult_accepts h hk
    exact hc
  · intro h
    refine ⟨_, mapResult_of_ok (g := fun _ => ()) fun key hk => ?_⟩
    obtain ⟨line, hl, hk⟩ := mem_filterMap.1 (mem_eraseDups.1 hk)
    obtain ⟨own, ho, rfl⟩ := Option.map_eq_some_iff.1 hk
    exact h line hl own ho

lemma mem_group : line ∈ group key lines ↔
    line ∈ lines ∧ ∃ own ∈ line.shippingPolicy, own.quote.policyEventId = key := by
  simp [group, policyKey]

lemma accepted_group (h : Accepted P acceptedAtMs lines) (hl : line ∈ lines)
    (ho : own ∈ line.shippingPolicy) :
    ∃ shares, allocateCheckoutSparkShippingPolicySats P own.quote = .ok shares ∧
      own.quote.items.length = (group own.quote.policyEventId lines).length ∧
      shareOf line.productCoordinate shares = some own.allocatedCostSats := by
  have hc := accepted_iff.1 h line hl own ho
  simp only [checkGroup, bind_ok, reject_ok] at hc
  obtain ⟨_, -, policy, -, -, -, shares, hs, hg⟩ := hc
  rw [not_or, not_not, not_exists] at hg
  have hok := hg.2 line
  rw [not_and, not_not] at hok
  obtain ⟨_, -, own', ho', hp, -, -, -, -, -, -, hsh⟩ :=
    hok (mem_group.2 ⟨hl, own, ho, rfl⟩)
  obtain rfl : own = own' := Option.some.inj (ho.symm.trans ho')
  rw [hp]
  exact ⟨shares, hs, by rw [hg.1, hp], hsh⟩

lemma Carries.accepted (h : Carries P acceptedAtMs policies lines) :
    Accepted P acceptedAtMs lines := by
  rw [accepted_iff]
  intro line hl own ho
  obtain ⟨hqt, -⟩ := h.own line hl own ho
  -- Every line of the group names this very policy, as their events are distinct.
  have hg : ∀ other ∈ group own.quote.policyEventId lines,
      ∃ own' ∈ other.shippingPolicy, own'.quote = own.quote ∧ Carried P own' other := by
    intro other hoth
    obtain ⟨hoth, own', ho', hev⟩ := mem_group.1 hoth
    obtain ⟨hqt', hc⟩ := h.own other hoth own' ho'
    exact ⟨own', ho', Keyed.eq_of_key_eq h.events hqt' hqt hev, hc⟩
  obtain ⟨amount, ha⟩ := h.amounts own.quote hqt
  obtain ⟨first, rest, hls⟩ := exists_cons_of_ne_nil
    (ne_nil_of_mem (mem_group.2 ⟨hl, own, ho, rfl⟩))
  obtain ⟨own', ho', heq, -⟩ := hg first (hls ▸ mem_cons_self)
  have hh : (group own.quote.policyEventId lines).head?.bind (·.shippingPolicy) = some own' := by
    rw [hls]
    exact ho'
  have hr : ¬ (own.quote.items.length ≠ (group own.quote.policyEventId lines).length ∨
      ∃ line ∈ group own.quote.policyEventId lines,
        ¬ LineOk own.quote (sharesOf amount own.quote) line) := by
    rintro (hlen | ⟨other, hoth, hb⟩)
    · exact hlen (h.whole own.quote hqt).symm
    · obtain ⟨own', ho', heq, hc⟩ := hg other hoth
      obtain ⟨shares, hs, hsh⟩ := hc.share
      have hi := hc.item
      have hm := hc.merchant
      have hopt := hc.policy
      rw [heq] at hs hi hm hopt
      obtain rfl := Except.ok.inj ((allocate_eq ha).symm.trans hs)
      exact hb ⟨_, (Keyed.find?_key_iff ha.products).2 ⟨hi, rfl⟩, own', ho', heq, rfl,
        rfl, hm.symm, hopt, hc.unit, hc.source, hsh⟩
  simp only [checkGroup, hh, Option.elim, ok_bind, heq, h.parses own.quote hqt,
    reject_of_not (not_not.2 (h.rates own.quote hqt)), allocate_eq ha, reject_of_not hr]

lemma Carries.not_accepted (h : Carries P acceptedAtMs policies lines) (hl : line ∈ lines)
    (ho : own ∈ line.shippingPolicy) (hc : line ∈ changed)
    (hlen : (group own.quote.policyEventId changed).length ≠
      (group own.quote.policyEventId lines).length) : ¬ Accepted P acceptedAtMs changed := by
  intro ha
  obtain ⟨-, -, hi, -⟩ := accepted_group ha hc ho
  rw [h.whole own.quote (h.own line hl own ho).1] at hlen
  exact hlen hi.symm

lemma Carries.not_accepted_set (h : Carries P acceptedAtMs policies lines) (hi : lines[i]? = some line)
    (ho : own ∈ line.shippingPolicy) {share : Int} (hne : share ≠ own.allocatedCostSats) :
    ¬ Accepted P acceptedAtMs
      (lines.set i { line with shippingPolicy := some { own with allocatedCostSats := share } }) := by
  intro ha
  obtain ⟨hlt, -⟩ := List.getElem?_eq_some_iff.1 hi
  obtain ⟨shares, hs, -, hsh⟩ :=
    accepted_group ha (mem_set hlt _) (Option.mem_some_self _)
  obtain ⟨shares', hs', hsh'⟩ := (h.own line (mem_of_getElem? hi) own ho).2.share
  obtain rfl := Except.ok.inj (hs.symm.trans hs')
  exact hne (Option.some.inj (hsh.symm.trans hsh'))

lemma Carries.not_accepted_eraseIdx (h : Carries P acceptedAtMs policies lines)
    (hi : lines[i]? = some line) (ho : own ∈ line.shippingPolicy)
    (htwo : 2 ≤ own.quote.items.length) : ¬ Accepted P acceptedAtMs (lines.eraseIdx i) := by
  obtain ⟨before, after, hls, -, he⟩ := Keyed.split_at hi
  have hl := mem_of_getElem? hi
  have hs : policyKey line = some own.quote.policyEventId := by rw [policyKey, ho]; rfl
  have hlen : (group own.quote.policyEventId lines).length =
      (group own.quote.policyEventId (lines.eraseIdx i)).length + 1 := by
    rw [he, hls, group, group, filter_append, filter_append,
      filter_cons_of_pos (by simpa using hs), length_append, length_append, length_cons]
    rfl
  have hwhole := h.whole own.quote (h.own line hl own ho).1
  -- Another line of the policy is left, and it misses the one that was dropped.
  obtain ⟨other, hoth⟩ := exists_mem_of_length_pos
    (l := group own.quote.policyEventId (lines.eraseIdx i)) (by omega)
  obtain ⟨hm, own', ho', hev⟩ := mem_group.1 hoth
  refine h.not_accepted (mem_of_mem_eraseIdx hm) ho' hm ?_
  rw [hev]
  omega

lemma Carries.not_accepted_cons (h : Carries P acceptedAtMs policies lines)
    (ho : own ∈ line.shippingPolicy) (hqt : quote ∈ policies)
    (hev : own.quote.policyEventId = quote.policyEventId) (hpm : changed.Perm (line :: lines)) :
    ¬ Accepted P acceptedAtMs changed := by
  obtain ⟨amount, ha⟩ := h.amounts quote hqt
  have hs : policyKey line = some quote.policyEventId := by rw [policyKey, ho, ← hev]; rfl
  have hlen : (group quote.policyEventId changed).length =
      (group quote.policyEventId lines).length + 1 := by
    rw [group, (hpm.filter _).length_eq, filter_cons_of_pos (by simpa using hs), length_cons]
    rfl
  obtain ⟨other, hoth⟩ := exists_mem_of_length_pos (l := group quote.policyEventId lines)
    (by rw [h.whole quote hqt]; exact length_pos_of_ne_nil ha.items)
  obtain ⟨hm, own', ho', hev'⟩ := mem_group.1 hoth
  refine h.not_accepted hm ho' (hpm.mem_iff.2 (mem_cons_of_mem _ hm)) ?_
  rw [hev']
  omega

end

/-- The shares conserve the amount, each within one sat of its proportion, in any order of the
items. Lines are accepted with exactly these shares, and with no share changed, dropped or added. -/
theorem shippingShares_conserve : (∀ quote amount, Shippable P quote amount →
      ∃ shares, allocateCheckoutSparkShippingPolicySats P quote = .ok shares ∧
        Exact quote amount shares ∧
        ∀ items, items.Perm quote.items →
          allocateCheckoutSparkShippingPolicySats P { quote with items := items } = .ok shares) ∧
    ∀ acceptedAtMs policies lines, Carries P acceptedAtMs policies lines →
      Accepted P acceptedAtMs lines ∧
      (∀ i line, lines[i]? = some line → ∀ own ∈ line.shippingPolicy,
        (∀ share ≠ own.allocatedCostSats, ¬ Accepted P acceptedAtMs (lines.set i
          { line with shippingPolicy := some { own with allocatedCostSats := share } })) ∧
        (2 ≤ own.quote.items.length → ¬ Accepted P acceptedAtMs (lines.eraseIdx i))) ∧
      ∀ line, ∀ own ∈ line.shippingPolicy, ∀ quote ∈ policies,
        own.quote.policyEventId = quote.policyEventId →
          ∀ changed, changed.Perm (line :: lines) → ¬ Accepted P acceptedAtMs changed := by
  constructor
  · intro quote amount h
    refine ⟨_, allocate_eq h, sharesOf_exact h, fun items hpm => ?_⟩
    have hoth : Shippable P { quote with items := items } amount :=
      { sats := h.sats
        safe := h.safe
        items := fun hnil => h.items (hpm.symm.trans (Perm.of_eq hnil)).eq_nil
        quantities := fun item hitem => h.quantities item (hpm.mem_iff.1 hitem)
        totalSafe := by
          rw [ShippingPolicyQuote.totalQuantity, (hpm.map _).sum_eq]
          exact h.totalSafe
        products := (hpm.map _).nodup_iff.2 h.products }
    rw [allocate_eq hoth, sharesOf, sharesOf, sortBy_eq_of_perm h.products hpm,
      ShippingPolicyQuote.totalQuantity, (hpm.map _).sum_eq]
    rfl
  · intro acceptedAtMs policies lines h
    refine ⟨h.accepted, fun i line hi own hown => ⟨fun share hne => ?_, fun htwo => ?_⟩,
      fun line own hown quote hqt hev changed hpm => ?_⟩
    · exact h.not_accepted_set hi hown hne
    · exact h.not_accepted_eraseIdx hi hown htwo
    · exact h.not_accepted_cons hown hqt hev hpm

def parcelPlatform : ShippingPlatform where
  parseShippingPolicyQuote := some
  convertToSats minor _ := some minor
  freezeCommercePricing rate := some rate
  isPricingRateQuoteFresh _ _ := true

def parcelQuote (amount : Int) (items : List ShippingPolicyQuoteItem) : ShippingPolicyQuote where
  merchantPubkey := "m"
  policyCoordinate := "30406:m:policy"
  policyEventId := "e"
  currency := "SATS"
  amountMinor := amount
  amountSats := none
  pricingRate := none
  items := items
  terms := []

def parcelLine (quote : ShippingPolicyQuote) (item : ShippingPolicyQuoteItem) (share : Int) :
    QuoteLine where
  productCoordinate := item.productId
  productEventId := item.productEventId
  merchantPubkey := "m"
  quantity := item.quantity
  unitShippingSats := 0
  sourceShippingCost := none
  shippingOption := some ⟨"30406:m:policy", "e"⟩
  shippingPolicy := some ⟨quote, share⟩

def parcels : ShippingPolicyQuote :=
  parcelQuote 2 [⟨"a", "1", 2⟩, ⟨"b", "2", 1⟩, ⟨"c", "3", 1⟩]

def parcel : ShippingPolicyQuote := parcelQuote 5 [⟨"a", "1", 1⟩]

lemma shippable_parcels : Shippable parcelPlatform parcels 2 where
  sats := rfl
  safe := by decide
  items := by decide
  quantities := by decide
  totalSafe := by decide
  products := by decide

lemma shares_parcels : allocateCheckoutSparkShippingPolicySats parcelPlatform parcels =
    .ok [("a", 2), ("b", 0), ("c", 0)] :=
  (allocate_eq shippable_parcels).trans (congrArg Except.ok (by decide))

lemma shippable_parcel : Shippable parcelPlatform parcel 5 where
  sats := rfl
  safe := by decide
  items := by decide
  quantities := by decide
  totalSafe := by decide
  products := by decide

lemma carries_parcel :
    Carries parcelPlatform none [parcel] [parcelLine parcel ⟨"a", "1", 1⟩ 5] where
  events := by decide
  parses _ _ := rfl
  rates := by simp [RateOk, parcel, parcelQuote]
  amounts := by simpa using ⟨5, shippable_parcel⟩
  own := by
    simp only [mem_singleton, forall_eq, parcelLine, Option.mem_some_iff, forall_eq', true_and]
    exact ⟨by decide, rfl, rfl, rfl, rfl, _, allocate_eq shippable_parcel, by decide⟩
  whole := by decide

theorem parcel_conserved :
    (∃ shares, allocateCheckoutSparkShippingPolicySats parcelPlatform parcels = .ok shares ∧
      Exact parcels 2 shares) ∧
    Accepted parcelPlatform none [parcelLine parcel ⟨"a", "1", 1⟩ 5] := by
  obtain ⟨shares, hshar, hexact, -⟩ :=
    (shippingShares_conserve parcelPlatform).1 parcels 2 shippable_parcels
  exact ⟨⟨shares, hshar, hexact⟩,
    ((shippingShares_conserve parcelPlatform).2 none _ _ carries_parcel).1⟩

/-- A share may differ by exactly one sat, and the only line of a policy may be dropped. -/
theorem parcels_one_sat_off : (Shippable parcelPlatform parcels 2 ∧
      allocateCheckoutSparkShippingPolicySats parcelPlatform parcels =
        .ok [("a", 2), ("b", 0), ("c", 0)] ∧
      ¬ 2 * parcels.totalQuantity - 2 * 2 < parcels.totalQuantity) ∧
    Carries parcelPlatform none [parcel] [parcelLine parcel ⟨"a", "1", 1⟩ 5] ∧
      Accepted parcelPlatform none ([parcelLine parcel ⟨"a", "1", 1⟩ 5].eraseIdx 0) :=
  ⟨⟨shippable_parcels, shares_parcels, by decide⟩, carries_parcel, [], rfl⟩

end Conduit.ShippingShares
