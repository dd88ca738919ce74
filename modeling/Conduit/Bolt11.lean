import Conduit.CheckoutSpark.EventBinding
import Conduit.Js.Map
import Mathlib.Tactic.Linarith

namespace Conduit.Bolt11

open Js Throwing CheckoutSpark List Option

def bech32Charset : Text := "qpzry9x8gf2tvdw0s3jn54khce6mua7l"

def bech32Generators : List Nat := [0x3b6a57b2, 0x26508e6d, 0x1ea119fa, 0x3d4233dd, 0x2a1462b3]

def bolt11TimestampWordCount : Nat := 7

def bolt11SignatureWordCount : Nat := 104

def bech32ChecksumWordCount : Nat := 6

def bolt11PaymentHashWordCount : Nat := 52

structure Bolt11TaggedField where
  tag : Char
  words : List Nat

structure ParsedBolt11Invoice where
  hrp : Text
  values : List Nat
  taggedFields : List Bolt11TaggedField

def bech32Polymod (values : List Nat) : Nat :=
  values.foldl (fun chk value =>
    let top := chk >>> 25
    bech32Generators.zipIdx.foldl
      (fun chk generator => if (top >>> generator.2) % 2 = 1 then chk ^^^ generator.1 else chk)
      (((chk % 0x2000000) <<< 5) ^^^ value)) 1

def bech32HrpExpand (hrp : Text) : List Nat :=
  (codeUnits hrp).map (· / 32) ++ 0 :: (codeUnits hrp).map (· % 32)

/-- The texts before and after the separator at `lastIndexOf("1")`. -/
def splitSeparator : Text → Option (Text × Text)
  | [] => none
  | c :: rest =>
    match splitSeparator rest with
    | some (hrp, dataPart) => some (c :: hrp, dataPart)
    | none => if c = '1' then some ([], rest) else none

def dataWords (dataPart : Text) : Option (List Nat) :=
  dataPart.mapM fun c => bech32Charset.idxOf? c

variable (invoice : Text)

def isValidBech32Invoice : Bool :=
  (splitSeparator invoice).any fun (hrp, dataPart) =>
    toLowerCase invoice = invoice ∧ hrp ≠ [] ∧ bech32ChecksumWordCount ≤ dataPart.length ∧
      (dataWords dataPart).any fun values => bech32Polymod (bech32HrpExpand hrp ++ values) = 1

/-- The alternatives of `(?:bcrt|tbs|bc|tb|sb)`, in their order. -/
def networkPrefixes : List Text := ["bcrt", "tbs", "bc", "tb", "sb"]

def amountUnits : Text := "munp"

/-- `/^(?:\d+[munp]?)?$/`. -/
def IsAmount (rest : Text) : Prop :=
  rest = [] ∨ rest.takeWhile isDigitChar ≠ [] ∧
    rest.dropWhile isDigitChar ∈ [] :: amountUnits.map fun unit => [unit]
  deriving Decidable

/-- `/^ln(?:bcrt|tbs|bc|tb|sb)(?:\d+[munp]?)?$/`. -/
def IsHrp (hrp : Text) : Prop :=
  ∃ network ∈ networkPrefixes, "ln".toList ++ network <+: hrp ∧
    IsAmount (hrp.drop (network.length + 2))
  deriving Decidable

/-- The loop over the tagged fields: `none` out of fuel, `some none` for `null`. -/
def readFields : Nat → List Nat → Option (Option (List Bolt11TaggedField))
  | _, [] => some (some [])
  | 0, _ :: _ => none
  | fuel + 1, tag :: high :: low :: rest =>
    let length := high * 32 + low
    match bech32Charset[tag]? with
    | none => some none
    | some tag =>
      if rest.length < length then some none
      else
        (readFields fuel (rest.drop length)).map fun fields =>
          fields.map fun fields => ⟨tag, rest.take length⟩ :: fields
  | _ + 1, _ => some none

def taggedWords (values : List Nat) : List Nat :=
  (values.take (values.length - bech32ChecksumWordCount - bolt11SignatureWordCount)).drop
    bolt11TimestampWordCount

def parseBolt11Invoice : Option ParsedBolt11Invoice := do
  let raw := normalizeLightningInvoice invoice
  guard (isMixedCase raw = false)
  let normalized := toLowerCase raw
  guard (isValidBech32Invoice normalized = true)
  let (hrp, dataPart) ← splitSeparator normalized
  guard (IsHrp hrp)
  let values ← dataWords dataPart
  guard (bolt11TimestampWordCount + bolt11SignatureWordCount + bech32ChecksumWordCount ≤
    values.length)
  let taggedFields ← (readFields values.length (taggedWords values)).join
  return { hrp, values, taggedFields }

/-- `([munp]?)1`, after the digits `taken`. -/
def matchUnit (taken : Text) : Text → Option (Text × Text)
  | [] => none
  | c :: rest =>
    if c ∈ amountUnits ∧ rest.head? = some '1' then some (taken, [c])
    else if c = '1' then some (taken, [])
    else none

/-- `(\d+)?([munp]?)1`: as many digits as lead to a match. -/
def matchAmount (taken : Text) : Text → Option (Text × Text)
  | [] => none
  | c :: rest =>
    if isDigitChar c then (matchAmount (taken ++ [c]) rest).or (matchUnit taken (c :: rest))
    else matchUnit taken (c :: rest)

/-- `/^ln(?:bcrt|tbs|bc|tb|sb)(\d+)?([munp]?)1/`. -/
def matchInvoiceAmount (normalized : Text) : Option (Text × Text) :=
  networkPrefixes.findSome? fun network =>
    if "ln".toList ++ network <+: normalized then
      matchAmount [] (normalized.drop (network.length + 2))
    else none

inductive AmountCurrency where
  | sats
  | msats

structure DecodedLightningInvoiceAmount where
  msats : Option Nat := none
  sats : Option Nat := none
  currency : Option AmountCurrency := none

/-- The millisats of an amount in a unit, where `BigInt` arithmetic has an exact one. -/
def amountMsats (amount : Nat) : Text → Option Nat
  | [] => some (amount * 100_000_000_000)
  | ['m'] => some (amount * 100_000_000)
  | ['u'] => some (amount * 100_000)
  | ['n'] => some (amount * 100)
  | ['p'] => if amount % 10 ≠ 0 then none else some (amount / 10)
  | _ => none

def decodeLightningInvoiceAmount : DecodedLightningInvoiceAmount :=
  let normalized := toLowerCase (normalizeLightningInvoice invoice)
  if isValidBech32Invoice normalized = false then {}
  else
    match matchInvoiceAmount normalized with
    | none => {}
    | some (rawAmount, rawUnit) =>
      if rawAmount = [] then {}
      else
        match amountMsats (digitsValue rawAmount) rawUnit with
        | none => {}
        | some msats =>
          if 9007199254740991 < msats then {}
          else if msats % 1000 = 0 then
            { msats := some msats, sats := some (msats / 1000), currency := some .sats }
          else { msats := some msats, currency := some .msats }

def wordsToBigInt (words : List Nat) : Nat := words.foldl (fun acc word => acc * 32 + word) 0

/-- The state of `wordsToBytes`. -/
structure ByteBuffer where
  bytes : List Nat := []
  value : Nat := 0
  bits : Nat := 0

def ByteBuffer.push (b : ByteBuffer) (word : Nat) : ByteBuffer :=
  let value := b.value * 32 + word
  let bits := b.bits + 5
  if 8 ≤ bits then ⟨b.bytes ++ [value / 2 ^ (bits - 8) % 256], value % 2 ^ (bits - 8), bits - 8⟩
  else ⟨b.bytes, value, bits⟩

def wordsToBytes (words : List Nat) (expectedLength : Nat) : Option (List Nat) := do
  guard (∀ word ∈ words, word ≤ 31)
  let buffer := words.foldl ByteBuffer.push {}
  guard (buffer.value = 0 ∧ buffer.bytes.length = expectedLength)
  return buffer.bytes

def bytesToHex (bytes : List Nat) : Text := bytes.flatMap (hexText 2)

def ParsedBolt11Invoice.fields (parsed : ParsedBolt11Invoice) (tag : Char) :
    List Bolt11TaggedField :=
  parsed.taggedFields.filter fun field => field.tag = tag

def decodeLightningInvoicePaymentHash : Option Text := do
  let parsed ← parseBolt11Invoice invoice
  match parsed.fields 'p' with
  | [paymentHash] =>
    guard (paymentHash.words.length = bolt11PaymentHashWordCount)
    return bytesToHex (← wordsToBytes paymentHash.words 32)
  | _ => none

structure LightningInvoiceMetadata extends DecodedLightningInvoiceAmount where
  createdAt : Option Nat := none
  expiresAt : Option Nat := none

/-- A `BigInt` as a number, where it is a safe one. -/
def safeNumber (n : Nat) : Option Nat := if n ≤ 9007199254740991 then some n else none

def decodeLightningInvoiceMetadata : LightningInvoiceMetadata :=
  let amount := decodeLightningInvoiceAmount invoice
  match parseBolt11Invoice invoice with
  | none => { amount with }
  | some parsed =>
    let createdAt := safeNumber (wordsToBigInt (parsed.values.take bolt11TimestampWordCount))
    let expirySeconds := match parsed.fields 'x' with
      | [expiry] => wordsToBigInt expiry.words
      | _ => 3600
    { amount with
      createdAt
      expiresAt := createdAt.bind fun createdAt =>
        (safeNumber expirySeconds).bind fun expirySeconds =>
          safeNumber (createdAt + expirySeconds) }

/-- `config.lightningNetwork`. -/
inductive ConfiguredNetwork where
  | mainnet
  | signet
  | testnet
  | mock

def getExpectedLightningNetworks : ConfiguredNetwork → List LightningInvoiceNetwork
  | .mock => [.regtest]
  | .mainnet => [.mainnet]
  | .signet => [.signet, .testnet]
  | .testnet => [.testnet, .signet]

structure PaymentCheckInput where
  invoice : Text
  expectedAmountMsats : Int
  expectedNetwork : Option LightningInvoiceNetwork
  nowSeconds : Int
  allowExpired : Bool

variable (config : ConfiguredNetwork)

variable (input : PaymentCheckInput)

def PaymentCheckInput.NetworkOk : Prop :=
  match input.expectedNetwork with
  | some expected => getLightningInvoiceNetwork input.invoice = expected
  | none => getLightningInvoiceNetwork input.invoice ∈ getExpectedLightningNetworks config

instance (config : ConfiguredNetwork) (input : PaymentCheckInput) :
    Decidable (input.NetworkOk config) := by
  unfold PaymentCheckInput.NetworkOk; split <;> infer_instance

def networkName : LightningInvoiceNetwork → String
  | .mainnet => "mainnet"
  | .testnet => "testnet"
  | .signet => "signet"
  | .regtest => "regtest"
  | .unknown => "unknown"

def expectedLabel : ConfiguredNetwork → String
  | .mock => "mock/regtest"
  | .signet => "signet/testnet"
  | .mainnet => "mainnet"
  | .testnet => "testnet"

def getLightningNetworkMismatchMessage (invoice : Text) : Option String :=
  let actual := getLightningInvoiceNetwork invoice
  if actual = .unknown then
    some "This invoice format could not be verified against the current Lightning network."
  else if actual ∈ getExpectedLightningNetworks config then none
  else
    some ("This invoice is for " ++ networkName actual ++ ", but Conduit is currently running in " ++
      expectedLabel config ++ " mode.")

def networkRefusal : String :=
  let actual := getLightningInvoiceNetwork input.invoice
  let mismatch := (getLightningNetworkMismatchMessage config input.invoice).getD
    "The invoice returned by the merchant is for a different Lightning network."
  match input.expectedNetwork with
  | some expected =>
    if actual = .unknown then mismatch
    else "This invoice is for " ++ networkName actual ++ ", but " ++ networkName expected ++
      " was required."
  | none => mismatch

/-- The invoice is `ok` where no reason against it is given. -/
structure LightningInvoiceValidation where
  reason : Option String
  metadata : LightningInvoiceMetadata

def validateLightningInvoiceForPayment : LightningInvoiceValidation :=
  let metadata := decodeLightningInvoiceMetadata input.invoice
  let reason :=
    if ¬ input.NetworkOk config then some (networkRefusal config input)
    else if metadata.msats = none then
      some "The invoice returned by the merchant does not encode an amount."
    else if metadata.msats.map Int.ofNat ≠ some input.expectedAmountMsats then
      some "The invoice amount does not match this order total."
    else
      match metadata.expiresAt with
      | none => some "The invoice returned by the merchant has an invalid expiry."
      | some expiresAt =>
        if input.allowExpired = false ∧ expiresAt ≤ input.nowSeconds then
          some "The invoice returned by the merchant is already expired."
        else none
  ⟨reason, metadata⟩

section
variable {s hrp dataPart amount unit rest : Text} {c : Char}

lemma splitSeparator_spec (s : Text) : match splitSeparator s with
    | some (hrp, dataPart) => s = hrp ++ '1' :: dataPart ∧ '1' ∉ dataPart
    | none => '1' ∉ s := by
  induction s with
  | nil => exact not_mem_nil
  | cons c rest ih =>
    rw [splitSeparator]
    cases hr : splitSeparator rest with
    | some parts =>
      simp only [hr] at ih
      exact ⟨congrArg (c :: ·) ih.1, ih.2⟩
    | none =>
      simp only [hr] at ih
      by_cases hc : c = '1'
      · simp [hc, ih]
      · simp [hc, ih, Ne.symm hc]

lemma splitSeparator_eq_some (h : splitSeparator s = some (hrp, dataPart)) :
    s = hrp ++ '1' :: dataPart ∧ '1' ∉ dataPart := by
  have := splitSeparator_spec s
  rwa [h] at this

lemma matchAmount_none (taken : Text) (h : '1' ∉ rest) : matchAmount taken rest = none := by
  have hu : ∀ taken rest : Text, '1' ∉ rest → matchUnit taken rest = none := by
    rintro taken (_ | ⟨c, rest⟩) h
    · rfl
    · simp only [mem_cons, not_or] at h
      have hh : rest.head? ≠ some '1' := fun hh => h.2 (mem_of_mem_head? hh)
      simp [matchUnit, hh, Ne.symm h.1]
  induction rest generalizing taken with
  | nil => rfl
  | cons c rest ih =>
    simp only [matchAmount, hu taken _ h, ih _ fun hm => h (.tail c hm), or_none, ite_self]

def IsUnit (unit : Text) : Prop := unit = [] ∨ ∃ c ∈ amountUnits, unit = [c]

lemma matchAmount_eq (taken : Text) (ha : amount.all isDigitChar = true)
    (hu : IsUnit unit) (hda : '1' ∉ dataPart) :
    matchAmount taken (amount ++ unit ++ '1' :: dataPart) = some (taken ++ amount, unit) := by
  induction amount generalizing taken with
  | nil =>
    rcases hu with rfl | ⟨c, hc, rfl⟩
    · have hd : isDigitChar '1' = true := by decide
      have hn : '1' ∉ amountUnits := by decide
      simp [matchAmount, hd, matchAmount_none _ hda, matchUnit, hn]
    · have hd : isDigitChar c = false := by
        rcases (by simpa [amountUnits] using hc : c = 'm' ∨ c = 'u' ∨ c = 'n' ∨ c = 'p') with
          rfl | rfl | rfl | rfl <;> rfl
      simp [matchAmount, hd, matchUnit, hc]
  | cons d amount ih =>
    rw [all_cons, Bool.and_eq_true] at ha
    have hr := ih (taken ++ [d]) ha.2
    simp only [append_assoc, cons_append, nil_append] at hr ⊢
    simp [matchAmount, ha.1, hr]

lemma IsAmount.split (h : IsAmount rest) : ∃ amount unit, rest = amount ++ unit ∧
    amount.all isDigitChar = true ∧ IsUnit unit ∧ (amount = [] → unit = []) := by
  rcases h with rfl | ⟨hd, hu⟩
  · exact ⟨[], [], rfl, rfl, .inl rfl, fun h => h⟩
  · have hu' := (mem_cons.1 hu).imp_right List.mem_map.1
    exact ⟨_, _, takeWhile_append_dropWhile.symm, all_takeWhile,
      hu'.imp_right fun ⟨c, hc, h⟩ => ⟨c, hc, h.symm⟩, fun h => absurd h hd⟩

lemma IsHrp.split (h : IsHrp hrp) : ∃ network ∈ networkPrefixes, ∃ amount unit,
    hrp = "ln".toList ++ network ++ amount ++ unit ∧ amount.all isDigitChar = true ∧
      IsUnit unit ∧ (amount = [] → unit = []) := by
  obtain ⟨network, hn, ⟨rest, rfl⟩, ha⟩ := h
  rw [drop_append_of_le_length (by simp), drop_of_length_le (by simp)] at ha
  obtain ⟨amount, unit, rfl, hr⟩ := ha.split
  exact ⟨network, hn, amount, unit, by simp, hr⟩

def networkOf (network : Text) : LightningInvoiceNetwork :=
  if network = "bcrt".toList then .regtest
  else if network = "bc".toList then .mainnet
  else if network = "tb".toList then .testnet
  else .signet

lemma invoice_start {network : Text} (hn : network ∈ networkPrefixes)
    (ha : amount.all isDigitChar = true) (hu : IsUnit unit)
    (he : amount = [] → unit = []) (hda : '1' ∉ dataPart)
    (hs : s = "ln".toList ++ network ++ amount ++ unit ++ '1' :: dataPart) :
    matchInvoiceAmount s = some (amount, unit) ∧
      ∀ invoice, toLowerCase (normalizeLightningInvoice invoice) = s →
        getLightningInvoiceNetwork invoice = networkOf network := by
  have hm := matchAmount_eq [] ha hu hda
  obtain ⟨c, t, hre, hc⟩ : ∃ c t, amount ++ unit ++ '1' :: dataPart = c :: t ∧
      isDigitChar c = true := by
    cases amount with
    | nil => exact ⟨'1', dataPart, by simp [he rfl], by decide⟩
    | cons d amount => exact ⟨d, _, rfl, (all_eq_true.1 ha) d mem_cons_self⟩
  have hne : ∀ d : Char, isDigitChar d = false → d ≠ c := by
    rintro d hd rfl
    cases hd.symm.trans hc
  have hr := hne 'r' (by decide)
  have hs' := hne 's' (by decide)
  have hsta : s = "ln".toList ++ network ++ (amount ++ unit ++ '1' :: dataPart) := by
    rw [hs]
    simp only [append_assoc]
  rw [hre] at hsta hm
  subst hsta
  constructor
  · simp only [networkPrefixes, mem_cons, not_mem_nil, or_false] at hn
    rcases hn with rfl | rfl | rfl | rfl | rfl <;>
      simp [matchInvoiceAmount, networkPrefixes, findSome?, hm, hr, hs']
  · intro invoice hi
    unfold getLightningInvoiceNetwork
    rw [hi]
    simp only [networkPrefixes, mem_cons, not_mem_nil, or_false] at hn
    rcases hn with rfl | rfl | rfl | rfl | rfl <;>
      simp [startsWith, networkOf, hr, hs']

variable {invoice : Text} {msats : Nat}

lemma parseBolt11Invoice_eq_some {parsed : ParsedBolt11Invoice}
    (h : parseBolt11Invoice invoice = some parsed) : ∃ dataPart,
      toLowerCase (normalizeLightningInvoice invoice) = parsed.hrp ++ '1' :: dataPart ∧
      '1' ∉ dataPart ∧
      isValidBech32Invoice (toLowerCase (normalizeLightningInvoice invoice)) = true ∧
      IsHrp parsed.hrp ∧ dataWords dataPart = some parsed.values ∧
      bolt11TimestampWordCount + bolt11SignatureWordCount + bech32ChecksumWordCount ≤
        parsed.values.length ∧
      readFields parsed.values.length (taggedWords parsed.values) =
        some (some parsed.taggedFields) := by
  unfold parseBolt11Invoice at h
  dsimp only at h
  simp only [bind_gives, guard_gives, pure_gives, Unique.exists_iff] at h
  obtain ⟨-, hv, ⟨hrp, dataPart⟩, hsp, hh, values, hw, hl, fields, hf, rfl⟩ := h
  obtain ⟨hs, hd⟩ := splitSeparator_eq_some hsp
  exact ⟨dataPart, hs, hd, hv, hh, hw, hl, join_eq_some_iff.1 hf⟩

/-- The tenths of a millisat that one of the unit is worth. -/
def tenthsOfMsat : Text → Nat
  | [] => 1_000_000_000_000
  | ['m'] => 1_000_000_000
  | ['u'] => 1_000_000
  | ['n'] => 1_000
  | _ => 1

lemma amountMsats_eq_some {n : Nat} (hun : IsUnit unit) :
    amountMsats n unit = some msats ↔ 10 * msats = n * tenthsOfMsat unit := by
  rcases hun with rfl | ⟨c, hc, rfl⟩
  · simp only [amountMsats, tenthsOfMsat, some.injEq]
    omega
  · have hu : c = 'm' ∨ c = 'u' ∨ c = 'n' ∨ c = 'p' := by simpa [amountUnits] using hc
    rcases hu with rfl | rfl | rfl | rfl
    · simp only [amountMsats, tenthsOfMsat, some.injEq]
      omega
    · simp only [amountMsats, tenthsOfMsat, some.injEq]
      omega
    · simp only [amountMsats, tenthsOfMsat, some.injEq]
      omega
    · change (if n % 10 ≠ 0 then none else some (n / 10)) = some msats ↔ 10 * msats = n * 1
      split
      next hsub =>
        simp only [reduceCtorEq, false_iff]
        omega
      next hwhole =>
        simp only [some.injEq]
        omega

lemma decodeLightningInvoiceAmount_msats (hu : IsUnit unit)
    (hv : isValidBech32Invoice (toLowerCase (normalizeLightningInvoice invoice)) = true)
    (hm : matchInvoiceAmount (toLowerCase (normalizeLightningInvoice invoice)) =
      some (amount, unit)) : (decodeLightningInvoiceAmount invoice).msats = some msats ↔
      amount ≠ [] ∧ 10 * msats = digitsValue amount * tenthsOfMsat unit ∧
        msats ≤ 9007199254740991 := by
  unfold decodeLightningInvoiceAmount
  simp only [hv, hm, Bool.true_eq_false, if_false]
  split
  next hn => simp [hn]
  next hne =>
    rw [← amountMsats_eq_some hu]
    cases hexact : amountMsats (digitsValue amount) unit with
    | none => simp
    | some exact =>
      simp only [some.injEq]
      split
      next hlarge =>
        simp only [reduceCtorEq, false_iff]
        rintro ⟨-, rfl, hsafe⟩
        omega
      next hsmall => split <;> simp only [some.injEq] <;> grind

/-- An accepted invoice is charged what its human-readable part says, on the network it names. -/
theorem invoiceAmount_exact {invoice : Text} {parsed : ParsedBolt11Invoice}
    (h : parseBolt11Invoice invoice = some parsed) :
    ∃ network ∈ networkPrefixes, ∃ amount unit dataPart,
      toLowerCase (normalizeLightningInvoice invoice) = parsed.hrp ++ '1' :: dataPart ∧
      '1' ∉ dataPart ∧ parsed.hrp = "ln".toList ++ network ++ amount ++ unit ∧
      amount.all isDigitChar = true ∧ IsUnit unit ∧ (amount = [] → unit = []) ∧
      (∀ msats, (decodeLightningInvoiceAmount invoice).msats = some msats ↔
        amount ≠ [] ∧ 10 * msats = digitsValue amount * tenthsOfMsat unit ∧
          msats ≤ 9007199254740991) ∧
      ((decodeLightningInvoiceAmount invoice).msats = none ↔
        amount = [] ∨ ¬ 10 ∣ digitsValue amount * tenthsOfMsat unit ∨
          10 * 9007199254740991 < digitsValue amount * tenthsOfMsat unit) ∧
      getLightningInvoiceNetwork invoice = networkOf network := by
  obtain ⟨dataPart, hs, hdata, hvalid, hhrp, -⟩ := parseBolt11Invoice_eq_some h
  obtain ⟨network, hnetwork, amount, unit, hsplit, hamount, hunit, hempty⟩ := hhrp.split
  obtain ⟨hmatch, hname⟩ := invoice_start hnetwork hamount hunit hempty hdata (hsplit ▸ hs)
  have hmsats : ∀ msats, (decodeLightningInvoiceAmount invoice).msats = some msats ↔ _ :=
    fun _ => decodeLightningInvoiceAmount_msats hunit hvalid hmatch
  refine ⟨network, hnetwork, amount, unit, dataPart, hs, hdata, hsplit, hamount, hunit, hempty,
    hmsats, ?_, hname invoice rfl⟩
  rw [eq_none_iff_forall_ne_some]
  simp only [ne_eq, hmsats]
  constructor
  · intro hnone
    by_cases hne : amount = []
    · exact Or.inl hne
    · by_cases hdvd : 10 ∣ digitsValue amount * tenthsOfMsat unit
      · obtain ⟨msats, hexact⟩ := hdvd
        have := hnone msats
        refine Or.inr (Or.inr ?_)
        by_contra hsmall
        exact this ⟨hne, hexact.symm, by omega⟩
      · exact Or.inr (Or.inl hdvd)
  · rintro (hnil | hsub | hlarge) msats ⟨hne, hexact, hsafe⟩
    · exact hne hnil
    · exact hsub ⟨msats, hexact.symm⟩
    · omega

end

def Bolt11TaggedField.serialize (field : Bolt11TaggedField) : List Nat :=
  bech32Charset.idxOf field.tag :: field.words.length / 32 :: field.words.length % 32 ::
    field.words

def Spells (fields : List Bolt11TaggedField) (words : List Nat) : Prop :=
  fields.flatMap Bolt11TaggedField.serialize = words ∧ ∀ field ∈ fields, field.tag ∈ bech32Charset

section
variable {words : List Nat} {fields : List Bolt11TaggedField} {fuel : Nat}

lemma readFields_isSome (h : words.length ≤ fuel) : (readFields fuel words).isSome := by
  induction fuel generalizing words with
  | zero =>
    rw [eq_nil_of_length_eq_zero (Nat.le_zero.1 h)]
    rfl
  | succ fuel ih =>
    rcases words with _ | ⟨tag, _ | ⟨high, _ | ⟨low, rest⟩⟩⟩
    · rfl
    · rfl
    · rfl
    · rw [readFields]
      split
      · rfl
      · split
        · rfl
        · rw [isSome_map]
          refine ih ?_
          simp only [length_cons, length_drop] at h ⊢
          omega

lemma readFields_spells (hw : ∀ word ∈ words, word < 32)
    (h : readFields fuel words = some (some fields)) : Spells fields words := by
  induction fuel generalizing words fields with
  | zero =>
    cases words with
    | nil =>
      cases h
      exact ⟨rfl, fun _ h => nomatch h⟩
    | cons tag rest => cases h
  | succ fuel ih =>
    rcases words with _ | ⟨tag, _ | ⟨high, _ | ⟨low, rest⟩⟩⟩
    · cases h
      exact ⟨rfl, fun _ h => nomatch h⟩
    · cases h
    · cases h
    · rw [readFields] at h
      cases ht : bech32Charset[tag]? with
      | none => simp [ht] at h
      | some c =>
        simp only [ht] at h
        split at h
        · cases h
        next hlen =>
          obtain ⟨read, hr, hf⟩ := map_eq_some_iff.1 h
          obtain ⟨others, rfl, rfl⟩ := map_eq_some_iff.1 hf
          have hre : ∀ word ∈ rest.drop (high * 32 + low), word < 32 := fun word hwo =>
            hw word (by simp [mem_of_mem_drop hwo])
          obtain ⟨ho, hta⟩ := ih hre hr
          obtain ⟨hi, hc⟩ := List.getElem?_eq_some_iff.1 ht
          have hlow := hw low (by simp)
          have htake : (rest.take (high * 32 + low)).length = high * 32 + low := by
            rw [length_take]
            omega
          refine ⟨?_, forall_mem_cons.2 ⟨hc ▸ getElem_mem hi, hta⟩⟩
          rw [flatMap_cons, ho, Bolt11TaggedField.serialize, htake, ← hc,
            List.Nodup.idxOf_getElem (by decide), show (high * 32 + low) / 32 = high by omega,
            show (high * 32 + low) % 32 = low by omega]
          simp only [cons_append, take_append_drop]

lemma readFields_of_spells (h : Spells fields words) (hfu : words.length ≤ fuel) :
    readFields fuel words = some (some fields) := by
  obtain ⟨rfl, ht⟩ := h
  induction fields generalizing fuel with
  | nil => cases fuel <;> rfl
  | cons field fields ih =>
    rw [flatMap_cons, Bolt11TaggedField.serialize] at hfu ⊢
    simp only [cons_append, length_cons, length_append] at hfu
    obtain ⟨fuel, rfl⟩ : ∃ n, fuel = n + 1 := ⟨fuel - 1, by omega⟩
    have hl : field.words.length / 32 * 32 + field.words.length % 32 = field.words.length := by
      omega
    have htag : bech32Charset[bech32Charset.idxOf field.tag]? = some field.tag :=
      getElem?_idxOf (ht field mem_cons_self)
    simp only [cons_append, readFields, htag, hl, length_append, drop_left, take_left]
    rw [if_neg (by omega), ih (fun f hf => ht f (mem_cons_of_mem field hf)) (by omega)]
    rfl

lemma dataWords_lt {dataPart : Text} {values : List Nat} (h : dataWords dataPart = some values) :
    ∀ word ∈ values, word < 32 := by
  intro word hw
  obtain ⟨c, -, hc⟩ := (mapM_eq_some_mem h).1 word hw
  exact (findIdx?_eq_some_iff_getElem.1 hc).1

end

section
variable {words read : List Nat} {b : ByteBuffer}

lemma wordsToBigInt_append (word : Nat) :
    wordsToBigInt (words ++ [word]) = wordsToBigInt words * 32 + word :=
  foldl_concat ..

lemma wordsToBigInt_lt (h : ∀ word ∈ words, word < 32) :
    wordsToBigInt words < 32 ^ words.length := by
  induction words using reverseRecOn with
  | nil => exact Nat.one_pos
  | append_singleton words word ih =>
    have hrest := ih fun w hw => h w (mem_append_left _ hw)
    have hword := h word (by simp)
    rw [wordsToBigInt_append, length_append, length_singleton, pow_succ]
    omega

def bytesNumber (bytes : List Nat) : Nat := bytes.foldl (fun acc byte => acc * 256 + byte) 0

structure Encodes (b : ByteBuffer) (read : List Nat) : Prop where
  bits_lt : b.bits < 8
  value_lt : b.value < 2 ^ b.bits
  bytes_lt : ∀ byte ∈ b.bytes, byte < 256
  size : 8 * b.bytes.length + b.bits = 5 * read.length
  exact : bytesNumber b.bytes * 2 ^ b.bits + b.value = wordsToBigInt read

lemma Encodes.push (h : Encodes b read) {word : Nat} (hword : word ≤ 31) :
    Encodes (b.push word) (read ++ [word]) := by
  obtain ⟨bytes, value, bits⟩ := b
  obtain ⟨hbi, hv, hb, hs, he⟩ := h
  dsimp only at hbi hv hb hs he
  have hlen : (read ++ [word]).length = read.length + 1 := length_append
  unfold ByteBuffer.push
  dsimp only
  split
  next hf =>
    obtain ⟨k, rfl⟩ : ∃ k, bits = k + 3 := ⟨bits - 3, by omega⟩
    rw [show k + 3 + 5 - 8 = k by omega]
    have hk : 2 ^ (k + 3) = 2 ^ k * 8 := by rw [pow_add]; rfl
    rw [hk] at hv he
    have hdiv := Nat.div_add_mod (value * 32 + word) (2 ^ k)
    have hby : (value * 32 + word) / 2 ^ k < 256 := Nat.div_lt_of_lt_mul (by omega)
    refine ⟨by dsimp only; omega, Nat.mod_lt _ (Nat.two_pow_pos k), ?_, ?_, ?_⟩
    · intro byte hm
      rcases mem_append.1 hm with hm | hm
      · exact hb byte hm
      · rw [mem_singleton.1 hm]
        exact Nat.mod_lt _ (by omega)
    · rw [length_append, length_singleton]
      dsimp only
      omega
    · rw [wordsToBigInt_append, ← he, Nat.mod_eq_of_lt hby]
      simp only [bytesNumber, foldl_append, foldl_cons, foldl_nil]
      linarith
  next hf =>
    have hp : 2 ^ (bits + 5) = 2 ^ bits * 32 := by rw [pow_add]; rfl
    refine ⟨by dsimp only; omega, by dsimp only; omega, hb, by dsimp only; omega, ?_⟩
    rw [wordsToBigInt_append, ← he]
    dsimp only
    rw [hp]
    linarith

lemma encodes_foldl (h : ∀ word ∈ words, word ≤ 31) :
    Encodes (words.foldl ByteBuffer.push {}) words := by
  induction words using reverseRecOn with
  | nil => exact ⟨by decide, by decide, fun _ h => absurd h not_mem_nil, rfl, rfl⟩
  | append_singleton words word ih =>
    rw [foldl_concat]
    exact (ih fun w hw => h w (mem_append_left _ hw)).push (h word (by simp))

end

section
variable {config : ConfiguredNetwork} {input : PaymentCheckInput} {invoice : Text}
  {parsed : ParsedBolt11Invoice}

section

variable (h : parseBolt11Invoice invoice = some parsed)
include h

lemma parsed_values_lt : ∀ word ∈ parsed.values, word < 32 := by
  obtain ⟨_, -, -, -, -, hw, -⟩ := parseBolt11Invoice_eq_some h
  exact dataWords_lt hw

lemma parsed_spells : Spells parsed.taggedFields (taggedWords parsed.values) := by
  obtain ⟨_, -, -, -, -, -, -, hf⟩ := parseBolt11Invoice_eq_some h
  exact readFields_spells (fun word hw => parsed_values_lt h word
    (mem_of_mem_take (mem_of_mem_drop hw))) hf

lemma parsed_unique {fields : List Bolt11TaggedField}
    (hf : Spells fields (taggedWords parsed.values)) : fields = parsed.taggedFields := by
  obtain ⟨_, -, -, -, -, -, -, hr⟩ := parseBolt11Invoice_eq_some h
  have hl : (taggedWords parsed.values).length ≤ parsed.values.length := by
    simp only [taggedWords, length_drop, length_take]
    omega
  have := (readFields_of_spells hf hl).symm.trans hr
  exact some.inj (some.inj this)

end

lemma safeNumber_eq_some {n m : Nat} : safeNumber n = some m ↔ n = m ∧ n ≤ 9007199254740991 := by
  unfold safeNumber
  split
  next h => simp [h]
  next h => simp [h]

def ParsedBolt11Invoice.timestamp (parsed : ParsedBolt11Invoice) : Nat :=
  wordsToBigInt (parsed.values.take bolt11TimestampWordCount)

lemma timestamp_lt (h : parseBolt11Invoice invoice = some parsed) :
    parsed.timestamp < 34359738368 := by
  have hlt : parsed.timestamp < 32 ^ (parsed.values.take bolt11TimestampWordCount).length :=
    wordsToBigInt_lt fun word hw => parsed_values_lt h word (mem_of_mem_take hw)
  exact hlt.trans_le (Nat.pow_le_pow_right (by omega) (length_take_le _ _))

lemma expiresAt_eq_some {expiresAt : Nat} :
    (decodeLightningInvoiceMetadata invoice).expiresAt = some expiresAt ↔
      ∃ parsed ∈ parseBolt11Invoice invoice, ∃ expiry, expiry ≤ 9007199254740991 ∧
        expiresAt = parsed.timestamp + expiry ∧ expiresAt ≤ 9007199254740991 ∧
        expiry = match parsed.fields 'x' with
          | [expiry] => wordsToBigInt expiry.words
          | _ => 3600 := by
  unfold decodeLightningInvoiceMetadata
  cases h : parseBolt11Invoice invoice with
  | none => simp
  | some parsed =>
    have := timestamp_lt h
    simp only [bind_eq_some_iff, safeNumber_eq_some, mem_def, some.injEq]
    constructor
    · rintro ⟨created, ⟨rfl, -⟩, expiry, ⟨he, hs⟩, rfl, hsum⟩
      exact ⟨parsed, rfl, expiry, he ▸ hs, rfl, hsum, he.symm⟩
    · rintro ⟨_, rfl, expiry, hs, rfl, hsum, he⟩
      exact ⟨parsed.timestamp, ⟨rfl, this.le.trans (by omega)⟩, expiry,
        ⟨he.symm, he ▸ hs⟩, rfl, hsum⟩

lemma metadata_msats : (decodeLightningInvoiceMetadata invoice).msats =
    (decodeLightningInvoiceAmount invoice).msats := by
  unfold decodeLightningInvoiceMetadata
  dsimp only
  split <;> rfl

lemma accepts_iff : (validateLightningInvoiceForPayment config input).reason = none ↔
    input.NetworkOk config ∧
      (decodeLightningInvoiceAmount input.invoice).msats.map Int.ofNat =
        some input.expectedAmountMsats ∧
      ∃ expiresAt, (decodeLightningInvoiceMetadata input.invoice).expiresAt = some expiresAt ∧
        (input.allowExpired = true ∨ input.nowSeconds < expiresAt) := by
  unfold validateLightningInvoiceForPayment
  dsimp only
  rw [metadata_msats]
  by_cases hn : input.NetworkOk config
  · by_cases ha : (decodeLightningInvoiceAmount input.invoice).msats.map Int.ofNat =
        some input.expectedAmountMsats
    · have hs : (decodeLightningInvoiceAmount input.invoice).msats ≠ none := by
        rintro hno
        simp [hno] at ha
      cases hexpy : (decodeLightningInvoiceMetadata input.invoice).expiresAt with
      | none => simp [hn, ha, hs]
      | some expiresAt =>
        cases input.allowExpired <;> simp [hn, ha, hs]
    · simp only [hn, ha, not_true_eq_false, if_false, false_and, and_false, iff_false]
      split <;> simp
  · simp [hn]

/-- The fields are the only reading of the words, the hash and the expiry those of the only `p` and
`x`, or an hour. -/
structure Unambiguous (config : ConfiguredNetwork) (input : PaymentCheckInput) : Prop where
  terminates : ∀ values, (readFields values.length (taggedWords values)).isSome
  fields : ∀ parsed ∈ parseBolt11Invoice input.invoice, ∀ fields,
    Spells fields (taggedWords parsed.values) ↔ fields = parsed.taggedFields
  paymentHash : ∀ hash ∈ decodeLightningInvoicePaymentHash input.invoice,
    ∃ parsed ∈ parseBolt11Invoice input.invoice, ∃ field bytes, parsed.fields 'p' = [field] ∧
      hash = bytesToHex bytes ∧ bytes.length = 32 ∧ (∀ byte ∈ bytes, byte < 256) ∧
      field.words.length = 52 ∧ bytesNumber bytes * 16 = wordsToBigInt field.words
  expiry : (validateLightningInvoiceForPayment config input).reason = none →
    ∃ parsed ∈ parseBolt11Invoice input.invoice, ∃ expiry,
      (validateLightningInvoiceForPayment config input).metadata.expiresAt =
        some (parsed.timestamp + expiry) ∧
      (parsed.fields 'x' = [] ∧ expiry = 3600 ∨
        ∃ field, parsed.fields 'x' = [field] ∧ expiry = wordsToBigInt field.words)

/-- Several `x` fields, and with an hour in their place the invoice passes. -/
def GuessesExpiry (config : ConfiguredNetwork) (input : PaymentCheckInput) : Prop :=
  ∃ parsed ∈ parseBolt11Invoice input.invoice,
    (∃ fields, Spells fields (taggedWords parsed.values) ∧
      2 ≤ (fields.filter fun field => field.tag = 'x').length) ∧
    input.NetworkOk config ∧
    (decodeLightningInvoiceAmount input.invoice).msats.map Int.ofNat =
        some input.expectedAmountMsats ∧
    (input.allowExpired = true ∨ input.nowSeconds < parsed.timestamp + 3600)

lemma decodeLightningInvoicePaymentHash_exact {hash : Text}
    (h : decodeLightningInvoicePaymentHash invoice = some hash) :
    ∃ parsed ∈ parseBolt11Invoice invoice, ∃ field bytes, parsed.fields 'p' = [field] ∧
      hash = bytesToHex bytes ∧ bytes.length = 32 ∧ (∀ byte ∈ bytes, byte < 256) ∧
      field.words.length = 52 ∧ bytesNumber bytes * 16 = wordsToBigInt field.words := by
  unfold decodeLightningInvoicePaymentHash at h
  obtain ⟨parsed, hp, h⟩ := bind_gives.1 h
  split at h
  next field hf =>
    simp only [bind_gives, guard_gives, pure_gives, Unique.exists_iff, wordsToBytes] at h
    obtain ⟨hl, bytes, ⟨hw, ⟨hv, hb⟩, rfl⟩, rfl⟩ := h
    have he := encodes_foldl hw
    have hs := he.size
    have hexact := he.exact
    rw [hb, hl, bolt11PaymentHashWordCount] at hs
    rw [hv, show (field.words.foldl ByteBuffer.push {}).bits = 4 by omega] at hexact
    exact ⟨parsed, hp, field, _, hf, rfl, hb, he.bytes_lt, hl, by omega⟩
  · cases h

/-- The fields are read as they should be if and only if no hour stands in for several expiries. -/
theorem unambiguous_iff (config : ConfiguredNetwork) (input : PaymentCheckInput) :
    Unambiguous config input ↔ ¬ GuessesExpiry config input := by
  constructor
  · rintro h ⟨parsed, hparsed, ⟨fields, hspells, hseveral⟩, hnetwork, hamount, hnow⟩
    rw [parsed_unique hparsed hspells] at hseveral
    have hfields : (parsed.fields 'x').length = (parsed.taggedFields.filter fun field =>
      field.tag = 'x').length := rfl
    have htimestamp := timestamp_lt hparsed
    have haccepts : (validateLightningInvoiceForPayment config input).reason = none := by
      refine accepts_iff.2 ⟨hnetwork, hamount, parsed.timestamp + 3600,
        expiresAt_eq_some.2 ⟨parsed, hparsed, 3600, by omega, rfl, by omega, ?_⟩, ?_⟩
      · split
        next hone =>
          rw [← hfields, hone] at hseveral
          simp at hseveral
        · rfl
      · exact_mod_cast hnow
    obtain ⟨parsed', hparsed', _, -, hone⟩ := h.expiry haccepts
    cases hparsed.symm.trans hparsed'
    rcases hone with ⟨hnone, -⟩ | ⟨field, hone, -⟩
    · simp [← hfields, hnone] at hseveral
    · simp [← hfields, hone] at hseveral
  · intro h
    refine ⟨fun values => readFields_isSome ?_, fun parsed hparsed fields =>
      ⟨parsed_unique hparsed, fun hfields => hfields ▸ parsed_spells hparsed⟩,
      fun hash hhash => decodeLightningInvoicePaymentHash_exact hhash, fun haccepts => ?_⟩
    · simp only [taggedWords, length_drop, length_take]
      omega
    · obtain ⟨hnetwork, hamount, expiresAt, hexpires, hnow⟩ := accepts_iff.1 haccepts
      obtain ⟨parsed, hparsed, expiry, -, rfl, -, hexpiry⟩ := expiresAt_eq_some.1 hexpires
      refine ⟨parsed, hparsed, expiry, hexpires, ?_⟩
      split at hexpiry
      next field hone => exact Or.inr ⟨field, hone, hexpiry⟩
      next hmany =>
        cases hfields : parsed.fields 'x' with
        | nil => exact Or.inl ⟨rfl, hexpiry⟩
        | cons first rest =>
          cases rest with
          | nil => exact absurd hfields (hmany first)
          | cons second rest =>
            refine absurd ⟨parsed, hparsed, ⟨_, parsed_spells hparsed, ?_⟩, hnetwork, hamount, ?_⟩ h
            · have : (parsed.fields 'x').length = rest.length + 2 := by rw [hfields]; rfl
              exact this ▸ Nat.le_add_left 2 _
            · subst hexpiry
              exact_mod_cast hnow

end

/-- An invoice of a thousand sats with an expiry of a minute and one of ten minutes. -/
def twoExpiries : Text := "lnbc10u1pj48ugqxqzpuxqzjcqqqqqqqqqqqqqqqqqqqqqqqqqqqqqqqqqqqqqqqqqqqqqqqqqqqqqqqqqqqqqqqqqqqqqqqqqqqqqqqqqqqqqqqqqqqqqqqqqqqqqqqquz6g7n"

set_option maxRecDepth 4000 in
theorem twoExpiries_ambiguous :
    ¬ Unambiguous .mainnet ⟨twoExpiries, 1000000, none, 1700003000, false⟩ := by
  intro h
  have haccepts : (validateLightningInvoiceForPayment .mainnet
      ⟨twoExpiries, 1000000, none, 1700003000, false⟩).reason = none := by decide +kernel
  obtain ⟨parsed, hparsed, _, -, hone⟩ := h.expiry haccepts
  replace hparsed : parseBolt11Invoice twoExpiries = some parsed := hparsed
  have htwo : (parseBolt11Invoice twoExpiries).map (fun parsed => (parsed.fields 'x').length) =
      some 2 := by decide +kernel
  rw [hparsed] at htwo
  rcases hone with ⟨hnone, -⟩ | ⟨field, hone, -⟩
  · simp [hnone] at htwo
  · simp [hone] at htwo

set_option maxRecDepth 4000 in
theorem twoExpiries_amount :
    ∃ amount unit, 10 * 1000000 = digitsValue amount * tenthsOfMsat unit := by
  have hsome : (parseBolt11Invoice twoExpiries).isSome = true := by decide +kernel
  have hmsats : (decodeLightningInvoiceAmount twoExpiries).msats = some 1000000 := by
    decide +kernel
  obtain ⟨parsed, hparsed⟩ := isSome_iff_exists.1 hsome
  obtain ⟨_, -, amount, unit, _, -, -, -, -, -, -, hexact, -⟩ := invoiceAmount_exact hparsed
  exact ⟨amount, unit, ((hexact _).1 hmsats).2.1⟩

end Conduit.Bolt11
