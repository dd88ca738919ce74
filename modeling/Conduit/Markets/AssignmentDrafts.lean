import Conduit.Markets.Revisions
import Conduit.Stock.Guarantees

namespace Conduit.AssignmentDrafts

open Js List CheckoutSpark Stock

structure RelayHints where
  (market occurrence product : Option Text)

structure AssignmentDraftInput where
  (marketCoordinate occurrenceCoordinate productCoordinate merchantPubkey : Text)
  state : AssignmentState
  inventory : Inventory
  fulfillmentMethods : List Method
  previousEventId : Option Text
  relayHints : RelayHints
  organizerStockPool : Option AssignmentStockPool

structure EventDraft where
  kind : Int
  content : Text
  tags : List (List Text)

def assignmentStateText : AssignmentState → Text
  | .active => "active"
  | .removed => "removed"

def projectionStateText : ProjectionState → Text
  | .active => "active"
  | .closed => "closed"

def methodText : Method → Text
  | .ordinary => "ordinary"
  | .pickup => "pickup"
  | .shipping => "shipping"
  | .digital => "digital"

def ValidInventory : Inventory → Prop
  | .untracked => True
  | .tracked quantity => 0 ≤ quantity ∧ quantity ≤ Stock.maxStock

instance (inventory : Inventory) : Decidable (ValidInventory inventory) :=
  match inventory with
  | .untracked => instDecidableTrue
  | .tracked _ => instDecidableAnd

def tag (name : Text) (values : List Text) : List Text := name :: values

def inventoryTag : Inventory → List Text
  | .tracked quantity => tag "inventory" ["tracked".toList, numberText quantity]
  | .untracked => tag "inventory" ["untracked".toList]

def reference (coordinate : Text) (hint : Option Text) : List Text :=
  tag "a" (coordinate :: hint.toList)

def stockPoolTag (pool : AssignmentStockPool) : List Text :=
  tag "conduit_stock_pool" ["1".toList, projectionStateText pool.state, pool.poolId, pool.organizerPubkey,
    numberText pool.quantity, numberText pool.importedQuantity]

variable (P : StockPlatform) (input : AssignmentDraftInput)

/-- `parseTuple` on the coordinates of an input. -/
def AssignmentDraftInput.tuple : Option AssignmentTuple := do
  let market ← parseCanonicalCoordinate P input.marketCoordinate [30409]
  let occurrence ← parseCanonicalCoordinate P input.occurrenceCoordinate [31922, 31923]
  let product ← parseCanonicalCoordinate P input.productCoordinate [30402]
  guard (market.authorPubkey = occurrence.authorPubkey)
  return { market, occurrence, product }

def draftTags : List (List Text) :=
  [tag "d" [computeEventMarketAssignmentDTag P.toPlatform input.marketCoordinate
      input.occurrenceCoordinate input.productCoordinate],
    tag "openmarkets" ["event-market-assignment".toList, "1".toList],
    reference input.marketCoordinate input.relayHints.market,
    reference input.occurrenceCoordinate input.relayHints.occurrence,
    reference input.productCoordinate input.relayHints.product,
    tag "state" [assignmentStateText input.state], inventoryTag input.inventory] ++
  input.fulfillmentMethods.map (fun method => tag "fulfillment" [methodText method]) ++
  input.previousEventId.toList.map (fun id => tag "prev" [id]) ++
  input.organizerStockPool.toList.map stockPoolTag ++
  [tag "alt" ["Open Markets occurrence product assignment".toList]]

def buildEventMarketAssignmentDraft : Option EventDraft := do
  let tuple ← input.tuple P
  guard (tuple.product.authorPubkey = input.merchantPubkey ∧ ValidInventory input.inventory ∧
    .ordinary ∉ input.fulfillmentMethods ∧
    ValidFulfillment input.fulfillmentMethods input.state input.inventory ∧
    (∀ id ∈ input.previousEventId, IsHex64 id) ∧ ValidRelayHint P input.relayHints.market ∧
    ValidRelayHint P input.relayHints.occurrence ∧ ValidRelayHint P input.relayHints.product ∧
    ∀ pool ∈ input.organizerStockPool,
      ValidOrganizerStockPool pool tuple.market.authorPubkey input.inventory)
  return { kind := 30410, content := [], tags := draftTags P input }

/-- The `relayHints` that the parser returns beside the fields of `ParsedAssignment`. -/
def parsedRelayHints (event : SignedEvent) : RelayHints where
  market := hintOf ["30409:"]
  occurrence := hintOf ["31922:", "31923:"]
  product := hintOf ["30402:"]
where
  hintOf (starts : List Text) : Option Text :=
    ((tagsNamed event.tags "a").find? fun tag =>
      starts.any fun start => startsWith ((tag[1]?).getD []) start).bind (·[2]?)

section
variable {P : StockPlatform} {input : AssignmentDraftInput} {n : Int}

lemma digitsValue_numberText (hn : 0 ≤ n) : (digitsValue (numberText n) : Int) = n := by
  obtain ⟨k, rfl⟩ := Int.eq_ofNat_of_zero_le hn
  exact congrArg Int.ofNat (Nat.ofDigitChars_ten_toDigits (n := k))

lemma head_toDigits {k : Nat} (hk : 0 < k) : (Nat.toDigits 10 k).head? ≠ some '0' := by
  induction k using Nat.strongRecOn with
  | _ k ih =>
    by_cases hlt : k < 10
    · rw [Nat.toDigits_of_lt_base hlt]
      simpa using hk.ne'
    · rw [Nat.toDigits_of_base_le (by decide) (not_lt.1 hlt), head?_append,
        Option.or_of_isSome (by simp [isSome_head?])]
      -- The first digit of a number from ten on is that of its tenth.
      exact ih (k / 10) (by omega) (by omega)

lemma isDecimal_numberText (hn : 0 ≤ n) : IsDecimal (numberText n) := by
  obtain ⟨k, rfl⟩ := Int.eq_ofNat_of_zero_le hn
  refine ⟨Nat.toDigits_ne_nil, all_eq_true.2 fun c hc => ?_, fun hh => ?_⟩
  · have hd := Nat.isDigit_of_mem_toDigits (by decide) (by decide) hc
    simpa [isDigitChar, Char.isDigit, UInt32.le_iff_toNat_le] using hd
  · rcases k.eq_zero_or_pos with rfl | hk
    · rfl
    · exact absurd hh (head_toDigits hk)

lemma tagsNamed_append (l m : List (List Text)) (name : Text) :
    tagsNamed (l ++ m) name = tagsNamed l name ++ tagsNamed m name := filter_append ..

lemma tagsNamed_cons (name other : Text) (values : List Text) (l : List (List Text)) :
    tagsNamed (tag name values :: l) other =
      if name = other then tag name values :: tagsNamed l other else tagsNamed l other := by
  simp [tagsNamed, tag, filter_cons]

lemma tagsNamed_map {α : Type} (f : α → List Text) (name other : Text) (l : List α) :
    tagsNamed (l.map fun a => tag name (f a)) other =
      if name = other then l.map fun a => tag name (f a) else [] := by
  induction l with
  | nil => simp [tagsNamed]
  | cons a l ih => rw [map_cons, tagsNamed_cons, ih]; split <;> rfl

lemma inventoryTag_eq (inventory : Inventory) :
    ∃ values, inventoryTag inventory = tag "inventory" values := by
  cases inventory <;> exact ⟨_, rfl⟩

structure Named (P : StockPlatform) (input : AssignmentDraftInput) (tags : List (List Text)) :
    Prop where
  d : tagsNamed tags "d" = [tag "d" [computeEventMarketAssignmentDTag P.toPlatform
    input.marketCoordinate input.occurrenceCoordinate input.productCoordinate]]
  marker : tagsNamed tags "openmarkets" =
    [tag "openmarkets" ["event-market-assignment".toList, "1".toList]]
  a : tagsNamed tags "a" = [reference input.marketCoordinate input.relayHints.market,
    reference input.occurrenceCoordinate input.relayHints.occurrence,
    reference input.productCoordinate input.relayHints.product]
  state : tagsNamed tags "state" = [tag "state" [assignmentStateText input.state]]
  inventory : tagsNamed tags "inventory" = [inventoryTag input.inventory]
  fulfillment : tagsNamed tags "fulfillment" =
    input.fulfillmentMethods.map fun method => tag "fulfillment" [methodText method]
  prev : tagsNamed tags "prev" = input.previousEventId.toList.map fun id => tag "prev" [id]
  pool : tagsNamed tags "conduit_stock_pool" = input.organizerStockPool.toList.map stockPoolTag
  alt : tagsNamed tags "alt" = [tag "alt" ["Open Markets occurrence product assignment".toList]]

lemma named_draftTags : Named P input (draftTags P input) := by
  obtain ⟨values, hi⟩ := inventoryTag_eq input.inventory
  have hp : ∀ name, tagsNamed (input.organizerStockPool.toList.map stockPoolTag) name =
      if "conduit_stock_pool".toList = name then input.organizerStockPool.toList.map stockPoolTag
      else [] := fun _ => tagsNamed_map _ _ _ _
  -- Every tag of the draft starts with a literal name, and each filter decides by it.
  constructor <;>
    simp only [draftTags, tagsNamed_append, reference, hi, tagsNamed_cons, tagsNamed_map,
      hp] <;> simp [tagsNamed]

lemma canonical_eq {value : Text} {kinds : List Nat} {c : AddressableCoordinate}
    (h : parseCanonicalCoordinate P value kinds = some c) :
    c.coordinate = value ∧ ∃ k ∈ kinds, ∃ rest, value = numberText k ++ ':' :: rest := by
  rw [parseCanonicalCoordinate, Option.filter_eq_some_iff, decide_eq_true_eq] at h
  refine ⟨h.2, c.kind, ?_, c.authorPubkey ++ ":" ++ c.dTag, ?_⟩
  · have hp := h.1
    unfold parseAddressableCoordinate at hp
    split at hp
    · dsimp only at hp
      split_ifs at hp with hif
      cases hp
      exact hif.2.2.2.2.2.1
    · cases hp
  · rw [← h.2, AddressableCoordinate.coordinate]
    simp

lemma coordinates_draft {tuple : AssignmentTuple} (h : input.tuple P = some tuple) :
    ∃ m o p, ∃ k : Nat, (k = 31922 ∨ k = 31923) ∧
      input.marketCoordinate = numberText 30409 ++ ':' :: m ∧
      input.occurrenceCoordinate = numberText k ++ ':' :: o ∧
      input.productCoordinate = numberText 30402 ++ ':' :: p := by
  simp only [AssignmentDraftInput.tuple, Option.bind_eq_bind, Option.bind_eq_some_iff] at h
  obtain ⟨market, hma, occurrence, hocc, product, hpr, -⟩ := h
  obtain ⟨-, k, hk, m, hm⟩ := canonical_eq hma
  obtain ⟨-, k', hk', o, ho⟩ := canonical_eq hocc
  obtain ⟨-, k'', hk'', p, hp⟩ := canonical_eq hpr
  simp only [mem_cons, not_mem_nil, or_false] at hk hk' hk''
  subst hk hk''
  exact ⟨m, o, p, k', hk', hm, ho, hp⟩

lemma references_draft {tuple : AssignmentTuple} (h : input.tuple P = some tuple) :
    oneReference [input.marketCoordinate, input.occurrenceCoordinate, input.productCoordinate]
        ["30409:"] = some input.marketCoordinate ∧
      oneReference [input.marketCoordinate, input.occurrenceCoordinate, input.productCoordinate]
        ["31922:", "31923:"] = some input.occurrenceCoordinate ∧
      oneReference [input.marketCoordinate, input.occurrenceCoordinate, input.productCoordinate]
        ["30402:"] = some input.productCoordinate := by
  obtain ⟨m, o, p, k, hk, hm, ho, hp⟩ := coordinates_draft h
  rw [hm, ho, hp]
  -- The kinds of the three differ, and each list of prefixes finds one of them.
  rcases hk with rfl | rfl <;> exact ⟨rfl, rfl, rfl⟩

lemma mem_reference {c : Text} {hint : Option Text} (h : ValidRelayHint P hint) :
    ((reference c hint).length = 2 ∨ (reference c hint).length = 3) ∧
      ValidRelayHint P (reference c hint)[2]? := by
  cases hint with
  | none => exact ⟨.inl rfl, h⟩
  | some hint => exact ⟨.inr rfl, h⟩

lemma parseTuple_draft {tuple : AssignmentTuple} (h : input.tuple P = some tuple)
    (hm : ValidRelayHint P input.relayHints.market)
    (ho : ValidRelayHint P input.relayHints.occurrence)
    (hp : ValidRelayHint P input.relayHints.product) :
    parseTuple P [reference input.marketCoordinate input.relayHints.market,
      reference input.occurrenceCoordinate input.relayHints.occurrence,
      reference input.productCoordinate input.relayHints.product] = some tuple := by
  obtain ⟨hma, hocc, hpr⟩ := references_draft h
  have ha : ∀ tag ∈ [reference input.marketCoordinate input.relayHints.market,
      reference input.occurrenceCoordinate input.relayHints.occurrence,
      reference input.productCoordinate input.relayHints.product],
      (tag.length = 2 ∨ tag.length = 3) ∧ ValidRelayHint P tag[2]? := by
    simp only [forall_mem_cons]
    exact ⟨mem_reference hm, mem_reference ho, mem_reference hp, by simp⟩
  rw [parseTuple, (Option.guard_eq_some' ()).2 ⟨rfl, ha⟩]
  let refs := [input.marketCoordinate, input.occurrenceCoordinate, input.productCoordinate]
  change (oneReference refs _).bind (fun market => (oneReference refs _).bind fun occurrence =>
    (oneReference refs _).bind fun product => _) = _
  rw [hma, hocc, hpr]
  exact h

lemma parseInventory_tag (h : ValidInventory input.inventory) :
    parseInventory (inventoryTag input.inventory) = some input.inventory := by
  cases hi : input.inventory with
  | untracked => rfl
  | tracked quantity =>
    rw [hi] at h
    have hle : (digitsValue (numberText quantity) : Int) ≤ Stock.maxStock := by
      rw [digitsValue_numberText h.1]
      exact h.2
    rw [inventoryTag, tag, parseInventory, if_pos ⟨rfl, isDecimal_numberText h.1, hle⟩,
      digitsValue_numberText h.1]

lemma parseMethod_text {m : Method} (h : .ordinary ≠ m) : parseMethod (methodText m) = some m := by
  cases m with
  | ordinary => exact absurd rfl h
  | pickup => rfl
  | shipping => rfl
  | digital => rfl

lemma parseFulfillment_tags {methods : List Method} (h : .ordinary ∉ methods) :
    parseFulfillment (methods.map fun method => tag "fulfillment" [methodText method]) =
      some methods := by
  have ha : ∀ t ∈ methods.map fun method => tag "fulfillment" [methodText method], t.length = 2 := by
    intro t ht
    obtain ⟨m, -, rfl⟩ := mem_map.1 ht
    rfl
  have hm : (methods.map fun method => tag "fulfillment" [methodText method]).mapM
      (fun tag => parseMethod ((tag[1]?).getD [])) = some methods := by
    clear ha
    induction methods with
    | nil => rfl
    | cons m methods ih =>
      rw [mem_cons, not_or] at h
      rw [map_cons, mapM_cons, ih h.2]
      change (parseMethod (methodText m)).bind _ = _
      rw [parseMethod_text h.1]
      rfl
  rw [parseFulfillment, (Option.guard_eq_some' ()).2 ha]
  exact hm

lemma parsePrevious_tags {eventId : Text} (h : ∀ id ∈ input.previousEventId, IsHex64 id)
    (hne : input.previousEventId ≠ some eventId) :
    parsePrevious eventId (input.previousEventId.toList.map fun id => tag "prev" [id]) =
      some input.previousEventId := by
  cases hp : input.previousEventId with
  | none => rfl
  | some id => exact if_pos ⟨h id hp, fun heq => hne (heq ▸ hp)⟩

lemma parsePool_tags {tags : List (List Text)} {organizer : Text}
    (ht : tagsNamed tags "conduit_stock_pool" = input.organizerStockPool.toList.map stockPoolTag)
    (h : ∀ pool ∈ input.organizerStockPool,
      ValidOrganizerStockPool pool organizer input.inventory) :
    parseOrganizerStockPool tags organizer input.inventory =
      input.organizerStockPool.elim .absent .valid := by
  rw [parseOrganizerStockPool, ht]
  cases hp : input.organizerStockPool with
  | none => rfl
  | some pool =>
    obtain ⟨-, -, -, -, hpos, -, hi, -⟩ := h pool hp
    have hne : numberText pool.quantity ≠ ['0'] := fun h0 =>
      hpos.ne' (numberText_inj (h0.trans (by decide : ['0'] = numberText 0)))
    -- The parser checks the pool that it has read, so it is read back first.
    have hr : (⟨if projectionStateText pool.state = "active" then .active else .closed, pool.poolId,
        pool.organizerPubkey, digitsValue (numberText pool.quantity),
        digitsValue (numberText pool.importedQuantity)⟩ : AssignmentStockPool) = pool := by
      rw [digitsValue_numberText hpos.le, digitsValue_numberText hi]
      cases pool with
      | mk state => cases state <;> rfl
    have hs : projectionStateText pool.state = "active" ∨ projectionStateText pool.state = "closed" := by
      cases pool.state
      · exact .inl rfl
      · exact .inr rfl
    change (if _ then StockPoolStatus.valid _ else _) = _
    rw [hr, if_pos ⟨rfl, hs, ⟨isDecimal_numberText hpos.le, hne⟩, isDecimal_numberText hi,
      h pool hp⟩]
    rfl

end

structure Signs (P : StockPlatform) (input : AssignmentDraftInput) (draft : EventDraft)
    (event : SignedEvent) : Prop where
  kind : event.kind = draft.kind
  content : event.content = draft.content
  tags : event.tags = draft.tags
  pubkey : event.pubkey = input.merchantPubkey
  valid : P.isValidSignedEvent event = true
  size : P.eventBytes event ≤ 65536
  fresh : input.previousEventId ≠ some event.id

structure ReadsBack (input : AssignmentDraftInput) (event : SignedEvent) (parsed : ParsedAssignment) :
    Prop where
  tuple : parsed.marketCoordinate = input.marketCoordinate ∧
    parsed.occurrenceCoordinate = input.occurrenceCoordinate ∧
    parsed.productCoordinate = input.productCoordinate
  state : parsed.state = input.state
  inventory : parsed.inventory = input.inventory
  fulfillmentMethods : parsed.fulfillmentMethods = input.fulfillmentMethods
  previousEventId : parsed.previousEventId = input.previousEventId
  relayHints : parsedRelayHints event = input.relayHints
  stockPool : parsed.stockPool = input.organizerStockPool.elim .absent .valid

section
variable {P : StockPlatform} {input : AssignmentDraftInput} {draft : EventDraft}
  {event : SignedEvent} {parsed : ParsedAssignment}

lemma parsedRelayHints_draft {tuple : AssignmentTuple} (h : input.tuple P = some tuple)
    (ht : event.tags = draftTags P input) : parsedRelayHints event = input.relayHints := by
  obtain ⟨m, o, p, k, hk, hm, ho, hp⟩ := coordinates_draft h
  have hh : ∀ hint : Option Text, hint.toList[0]? = hint := by
    intro hint
    cases hint <;> rfl
  have hhi : ∀ r : RelayHints, (⟨r.market.toList[0]?, r.occurrence.toList[0]?,
      r.product.toList[0]?⟩ : RelayHints) = r := by
    intro r
    rw [hh, hh, hh]
  have hs : ∀ starts, parsedRelayHints.hintOf event starts =
      ([reference input.marketCoordinate input.relayHints.market,
        reference input.occurrenceCoordinate input.relayHints.occurrence,
        reference input.productCoordinate input.relayHints.product].find? fun tag =>
          starts.any fun start => startsWith ((tag[1]?).getD []) start).bind (·[2]?) := by
    intro starts
    rw [parsedRelayHints.hintOf, ht, named_draftTags.a]
  rw [parsedRelayHints, hs, hs, hs, hm, ho, hp]
  rcases hk with rfl | rfl <;> exact hhi input.relayHints

lemma parse_draft (hh : ∀ v, IsHex64 (P.digest v))
    (hb : buildEventMarketAssignmentDraft P input = some draft) (hs : Signs P input draft event) :
    ∃ parsed, parseEventMarketAssignmentEvent P event = some parsed ∧
      ReadsBack input event parsed := by
  simp only [buildEventMarketAssignmentDraft, Option.bind_eq_bind, Option.bind_eq_some_iff,
    Option.guard_eq_some', Option.pure_def, Option.some.injEq, exists_const] at hb
  obtain ⟨tuple, ht, ⟨ha, hinv, hord, hful, hpr, hm, ho, hp, hpool⟩, rfl⟩ := hb
  have hN : Named P input event.tags := hs.tags ▸ named_draftTags
  have hc : tuple.market.coordinate = input.marketCoordinate ∧
      tuple.occurrence.coordinate = input.occurrenceCoordinate ∧
      tuple.product.coordinate = input.productCoordinate := by
    have h := ht
    simp only [AssignmentDraftInput.tuple, Option.bind_eq_bind, Option.bind_eq_some_iff,
      Option.guard_eq_some', Option.pure_def, Option.some.injEq, exists_const] at h
    obtain ⟨market, hma, occurrence, hocc, product, hprod, -, rfl⟩ := h
    exact ⟨(canonical_eq hma).1, (canonical_eq hocc).1, (canonical_eq hprod).1⟩
  let dTag := computeEventMarketAssignmentDTag P.toPlatform input.marketCoordinate
    input.occurrenceCoordinate input.productCoordinate
  have hd : oneTag event.tags "d" 2 = some (tag "d" [dTag]) := by rw [oneTag, hN.d]; rfl
  have hmarker : oneTag event.tags "openmarkets" 3 =
      some (tag "openmarkets" ["event-market-assignment".toList, "1".toList]) := by
    rw [oneTag, hN.marker]; rfl
  have halt : oneTag event.tags "alt" 2 =
      some (tag "alt" ["Open Markets occurrence product assignment".toList]) := by
    rw [oneTag, hN.alt]; rfl
  have hst : oneTag event.tags "state" 2 = some (tag "state" [assignmentStateText input.state]) := by
    rw [oneTag, hN.state]; rfl
  have hread : parseAssignmentState (tag "state" [assignmentStateText input.state]) =
      some input.state := by
    cases input.state <;> rfl
  have hpa : parseEventMarketAssignmentEvent P event = some
      { marketCoordinate := tuple.market.coordinate
        occurrenceCoordinate := tuple.occurrence.coordinate
        productCoordinate := tuple.product.coordinate
        coordinate := ("30410:" : Text) ++ event.pubkey ++ ":" ++ dTag
        eventId := event.id
        createdAt := event.createdAt
        organizerPubkey := tuple.market.authorPubkey
        merchantPubkey := event.pubkey
        state := input.state
        inventory := input.inventory
        fulfillmentMethods := input.fulfillmentMethods
        previousEventId := input.previousEventId
        stockPool := parseOrganizerStockPool event.tags tuple.market.authorPubkey
          input.inventory } := by
    simp only [parseEventMarketAssignmentEvent, Option.bind_eq_bind, Option.bind_eq_some_iff,
      Option.guard_eq_some', exists_const]
    -- The guards of the parser, in its order, each by what the builder has checked.
    refine ⟨⟨hs.kind, hs.content, hs.valid, hs.size⟩, _, hd, _, rfl, hh _, _, hmarker, ⟨rfl, rfl⟩, _,
      halt, rfl, _, ⟨_, hst, hread⟩, _, hN.prev ▸ parsePrevious_tags hpr hs.fresh, tuple,
      hN.a ▸ parseTuple_draft ht hm ho hp, ⟨ha.trans hs.pubkey.symm, ?_⟩, ?_⟩
    · rw [hc.1, hc.2.1, hc.2.2]
    · rw [hN.inventory]
      simp only [Option.bind_some, Option.bind_eq_some_iff]
      exact ⟨_, parseInventory_tag hinv, _, hN.fulfillment ▸ parseFulfillment_tags hord, (),
        (Option.guard_eq_some' ()).2 hful, rfl⟩
  exact ⟨_, hpa, hc, rfl, rfl, rfl, rfl, parsedRelayHints_draft ht hs.tags,
    parsePool_tags hN.pool hpool⟩

lemma dTag_of_parse (h : parseEventMarketAssignmentEvent P event = some parsed) :
    tagsNamed event.tags "d" = [["d".toList, computeEventMarketAssignmentDTag P.toPlatform
      parsed.marketCoordinate parsed.occurrenceCoordinate parsed.productCoordinate]] ∧
    parsed.coordinate = ("30410:" : Text) ++ parsed.merchantPubkey ++ ":" ++
      computeEventMarketAssignmentDTag P.toPlatform parsed.marketCoordinate
        parsed.occurrenceCoordinate parsed.productCoordinate := by
  simp only [parseEventMarketAssignmentEvent, Option.bind_eq_bind, Option.bind_eq_some_iff,
    Option.guard_eq_some', Option.pure_def, exists_const] at h
  obtain ⟨-, d, hd, dTag, hdT, -, _, -, -, _, -, -, _, -, _, -, tuple, -, ⟨-, hh⟩, h⟩ := h
  split at h
  swap
  · simp only [Option.bind_none, reduceCtorEq] at h
  simp only [Option.bind_some, Option.bind_eq_some_iff, Option.some.injEq] at h
  obtain ⟨inventory, -, -, -, -, -, rfl⟩ := h
  rw [hh]
  exact ⟨Markets.dTag_of_oneTag hd hdT, rfl⟩

end

def hashedTuple (parsed : ParsedAssignment) : Json :=
  .arr [.str parsed.marketCoordinate, .str parsed.occurrenceCoordinate, .str parsed.productCoordinate]

/-- A draft is read back as authored, and coordinates are shared exactly where the tuples are the
same. -/
theorem assignmentDraft_readsBack (P : StockPlatform) (hhash : ∀ v, IsHex64 (P.digest v)) :
    (∀ input draft event, buildEventMarketAssignmentDraft P input = some draft →
      Signs P input draft event → ∃ parsed,
        parseEventMarketAssignmentEvent P event = some parsed ∧ ReadsBack input event parsed) ∧
    (∀ event parsed, parseEventMarketAssignmentEvent P event = some parsed →
      tagsNamed event.tags "d" = [["d".toList, computeEventMarketAssignmentDTag P.toPlatform
        parsed.marketCoordinate parsed.occurrenceCoordinate parsed.productCoordinate]]) ∧
    ∀ e e' a b, parseEventMarketAssignmentEvent P e = some a →
      parseEventMarketAssignmentEvent P e' = some b → a.merchantPubkey = b.merchantPubkey →
      (P.digest (hashedTuple a) = P.digest (hashedTuple b) → hashedTuple a = hashedTuple b) →
      (a.coordinate = b.coordinate ↔ a.marketCoordinate = b.marketCoordinate ∧
        a.occurrenceCoordinate = b.occurrenceCoordinate ∧
        a.productCoordinate = b.productCoordinate) := by
  refine ⟨fun input draft event hbuild hs => parse_draft hhash hbuild hs,
    fun event parsed h => (dTag_of_parse h).1, fun e e' a b ha hb hmerchant hinj => ?_⟩
  rw [(dTag_of_parse ha).2, (dTag_of_parse hb).2, hmerchant]
  constructor
  · intro heq
    have htuple := hinj (append_cancel_left heq)
    simp only [hashedTuple, Json.arr.injEq, cons.injEq, Json.str.injEq, and_true] at htuple
    exact htuple
  · rintro ⟨hm, ho, hp⟩
    rw [hm, ho, hp]

def fairPlatform : StockPlatform :=
  { Stock.Sample.platform with
    digest := fun _ => Stock.Sample.assignmentHash
    isValidSignedEvent := fun _ => true
    eventBytes := fun _ => 980
    isRelayHint := fun hint => startsWith hint "wss://" }

def fairInput : AssignmentDraftInput where
  marketCoordinate := Stock.Sample.market
  occurrenceCoordinate := Stock.Sample.occurrence
  productCoordinate := Stock.Sample.product
  merchantPubkey := Stock.Sample.merchant
  state := .active
  inventory := .tracked 5
  fulfillmentMethods := [.pickup]
  previousEventId := none
  relayHints := ⟨some "wss://relay.conduit.cash".toList, none, none⟩
  organizerStockPool := none

def fairEvent : SignedEvent where
  id := hexText 64 0x5269446c4f692fed686b51e46ff35a5107000de3ced80d406811dea70f3131ef
  pubkey := Stock.Sample.merchant
  createdAt := 1800000100
  kind := 30410
  tags := draftTags fairPlatform fairInput
  content := []
  sig := []

theorem fair_readsBack : ∃ parsed,
    parseEventMarketAssignmentEvent fairPlatform fairEvent = some parsed ∧
      ReadsBack fairInput fairEvent parsed := by
  refine (assignmentDraft_readsBack fairPlatform fun _ => ?_).1 fairInput
    ⟨30410, [], draftTags fairPlatform fairInput⟩ fairEvent ?_
    ⟨rfl, rfl, rfl, rfl, rfl, by decide, nofun⟩
  · exact (by decide +kernel : IsHex64 Stock.Sample.assignmentHash)
  · rfl

end Conduit.AssignmentDrafts
