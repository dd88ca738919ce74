import Conduit.Stock.Records
import Mathlib.Data.Nat.Digits.Defs

namespace Conduit.WireSize

open Js Throwing Stock List

def maxRelayMessageChars : Nat := 512 * 1024

/-- A character in a text of `JSON.stringify`. -/
def escapeChar (c : Char) : Text :=
  match c.toNat with
  | 8 => "\\b"
  | 9 => "\\t"
  | 10 => "\\n"
  | 12 => "\\f"
  | 13 => "\\r"
  | 34 => ['\\', c]
  | 92 => ['\\', c]
  | n => if n < 32 then "\\u00".toList ++ [Nat.digitChar (n / 16), Nat.digitChar (n % 16)] else [c]

def quote (s : Text) : Text := '\x22' :: s.flatMap escapeChar ++ ['\x22']

def jsonArray (items : List Text) : Text := '[' :: [','].intercalate items ++ [']']

def jsonObject (fields : List (Text × Text)) : Text :=
  '\x7b' :: [','].intercalate (fields.map fun field => quote field.1 ++ ':' :: field.2) ++ ['\x7d']

def jsonTags (tags : List (List Text)) : Text :=
  jsonArray (tags.map fun tag => jsonArray (tag.map quote))

/-- `JSON.stringify` of a signed event. -/
def stringifyEvent (event : SignedEvent) : Text :=
  jsonObject [("id", quote event.id), ("pubkey", quote event.pubkey),
    ("created_at", numberText event.createdAt), ("kind", numberText event.kind),
    ("tags", jsonTags event.tags), ("content", quote event.content), ("sig", quote event.sig)]

structure UnsignedNostrEvent where
  pubkey : Text
  (kind createdAt : Int)
  tags : List (List Text)
  content : Text

/-- `JSON.stringify({ ...rumor, id })`. -/
def stringifyRumor (rumor : UnsignedNostrEvent) (id : Text) : Text :=
  jsonObject [("pubkey", quote rumor.pubkey), ("kind", numberText rumor.kind),
    ("created_at", numberText rumor.createdAt), ("tags", jsonTags rumor.tags),
    ("content", quote rumor.content), ("id", quote id)]

/-- The frame of an event, `["EVENT", subscription, event]`. -/
def frame (subscription : Text) (event : SignedEvent) : Text :=
  jsonArray [quote "EVENT", quote subscription, stringifyEvent event]

def hex64 : Text := replicate 64 '0'

def acceptsAuthenticatedSealMetadata (tags : List (List Text)) : Prop :=
  tags = [] ∨ ∃ values : List Text, tags = ["client".toList :: values] ∧ 1 ≤ values.length ∧
    values.length ≤ 3 ∧ ∀ value ∈ values, Js.length value ≤ 512

/-- What the code takes from libraries. -/
structure WirePlatform where
  calcPaddedLen : Nat → Nat
  getEventHash : UnsignedNostrEvent → Text
  sha256 : Text → Text
  verify : Text → Text → Text → Bool
  createWrap : SignedEvent → Text → SignedEvent

variable (P : WirePlatform)

variable (event : SignedEvent)

def WirePlatform.computeEventId : Text :=
  P.sha256 (jsonArray ["0", quote event.pubkey, numberText event.createdAt, numberText event.kind,
    jsonTags event.tags, quote event.content])

/-- `/^[0-9a-f]{n}$/i`. -/
def IsHexText (n : Nat) (s : Text) : Prop := s.length = n ∧ (toLowerCase s).all isHexChar = true
  deriving Decidable

/-- The cache of verdicts on signatures changes none and is left out. -/
def WirePlatform.isValidSignedPublicNostrEvent : Bool :=
  (IsHexText 64 event.id ∧ IsHexText 64 event.pubkey ∧ IsHexText 128 event.sig ∧
    IsSafeInteger event.createdAt ∧ 0 ≤ event.createdAt ∧ IsSafeInteger event.kind ∧
    (∀ tag ∈ event.tags, tag ≠ []) ∧ P.computeEventId event = toLowerCase event.id) &&
  P.verify event.sig event.id event.pubkey

def WirePlatform.encryptedChars (plaintextBytes : Nat) : Nat :=
  let prefixBytes := if plaintextBytes < 65536 then 2 else 6
  4 * ((65 + prefixBytes + P.calcPaddedLen plaintextBytes + 2) / 3)

def signedShell : SignedEvent where
  id := hex64
  pubkey := hex64
  createdAt := maxSafeInteger
  kind := 13
  tags := []
  content := []
  sig := replicate 128 '0'

variable (rumor : UnsignedNostrEvent)

def frameChars : Nat :=
  let rumorBytes := utf8ByteLength (stringifyRumor rumor hex64)
  let sealBytes := Js.length (stringifyEvent signedShell) + P.encryptedChars rumorBytes
  Js.length (frame hex64 { signedShell with kind := 1059, tags := [["p".toList, hex64]] }) +
    P.encryptedChars sealBytes

def tooLarge : String := "This message is too large to send securely. For an order, remove items from the cart or contact the merchant to arrange a smaller order."

def assertPrivateMessageFitsTransport : Except String Unit :=
  reject (maxRelayMessageChars < frameChars P rumor) tooLarge

structure PrivateMessageEvent where
  pubkey : Text := []
  kind : Option Int := none
  createdAt : Option Int := none
  tags : List (List Text)
  content : Text

structure NostrKeySigner where
  getPublicKey : Except String Text
  encryptNip44 : Text → Text → Except String Text
  /-- The template of `signEvent` is the event without its id and signature. -/
  signEvent : UnsignedNostrEvent → Except String SignedEvent

/-- The observer of the operations replaces no result and is left out. -/
def wrapPrivateMessage (signer : NostrKeySigner) (event : PrivateMessageEvent) (recipient : Text)
    (rumorKind : Option Int) (now sealedAt : Int) : Except String SignedEvent := do
  let pubkey ← signer.getPublicKey
  reject (event.pubkey ≠ [] ∧ event.pubkey ≠ pubkey) "authority_changed"
  let rumor : UnsignedNostrEvent := {
    pubkey
    kind := (rumorKind <|> event.kind).getD 14
    createdAt := event.createdAt.getD now
    tags := event.tags
    content := event.content }
  assertPrivateMessageFitsTransport P rumor
  let content ← signer.encryptNip44 recipient (stringifyRumor rumor (P.getEventHash rumor))
  let sealed ← signer.signEvent { pubkey, kind := 13, createdAt := sealedAt, tags := [], content }
  reject (P.isValidSignedPublicNostrEvent sealed = false ∨ sealed.pubkey ≠ pubkey) "invalid_response"
  return P.createWrap sealed recipient

/-- The size check of `receive`. -/
def RefusedForSize : Prop :=
  maxRelayMessageChars < Js.length (frame hex64 event)

section
variable {s t : Text} {c : Char} {n : Int}

lemma bytes_append : utf8ByteLength (s ++ t) = utf8ByteLength s + utf8ByteLength t := by
  simp [utf8ByteLength]

lemma bytes_cons : utf8ByteLength (c :: s) = c.utf8Size + utf8ByteLength s := rfl

lemma units_le_utf8Size : (if c.toNat < 0x10000 then 1 else 2) ≤ c.utf8Size := by
  have hp := c.utf8Size_pos
  split
  next => exact hp
  next hlarge =>
    have hsmall : c.utf8Size = 1 → c.toNat ≤ 127 := fun h =>
      UInt32.le_iff_toNat_le.1 (Char.utf8Size_eq_one_iff.1 h)
    omega

lemma length_le_bytes : Js.length s ≤ utf8ByteLength s := by
  induction s with
  | nil => exact Nat.le_refl 0
  | cons c s ih => exact Nat.add_le_add units_le_utf8Size ih

lemma bytes_escapeChar : utf8ByteLength (escapeChar c) ≤ 6 * if c.toNat < 0x10000 then 1 else 2 := by
  have hd : ∀ d < 16, (Nat.digitChar d).utf8Size = 1 := by decide
  have hs := c.utf8Size_le_four
  have hone : 1 ≤ if c.toNat < 0x10000 then 1 else 2 := by split <;> decide
  have hsix : utf8ByteLength (escapeChar c) ≤ 6 := by
    unfold escapeChar
    split
    case h_8 =>
      split
      next hlt =>
        rw [bytes_append, bytes_cons, bytes_cons, hd _ (by omega), hd _ (by omega)]
        decide
      next =>
        rw [bytes_cons]
        exact Nat.le_trans hs (by decide)
    all_goals
      first
      | decide
      | rw [bytes_cons, bytes_cons]
        exact Nat.le_trans (Nat.add_le_add_left (Nat.add_le_add_right hs _) _) (by decide)
  omega

lemma bytes_quote_le : utf8ByteLength (quote s) ≤ 6 * Js.length s + 2 := by
  have hesc : utf8ByteLength (s.flatMap escapeChar) ≤ 6 * Js.length s := by
    induction s with
    | nil => exact Nat.le_refl 0
    | cons c s ih =>
      rw [flatMap_cons, bytes_append, Js.length, map_cons, sum_cons, Nat.mul_add]
      exact Nat.add_le_add bytes_escapeChar ih
  rw [quote, cons_append, bytes_cons, bytes_append]
  change 1 + (_ + 1) ≤ _
  omega

/-- Hexadecimal digits and the characters of base64. -/
def isPlainChar (c : Char) : Bool :=
  (48 ≤ c.toNat && c.toNat ≤ 57) || (65 ≤ c.toNat && c.toNat ≤ 90) ||
    (97 ≤ c.toNat && c.toNat ≤ 122) || c.toNat = 43 || c.toNat = 47 || c.toNat = 61

lemma bytes_quote_plain (h : s.all isPlainChar = true) :
    utf8ByteLength (quote s) = s.length + 2 := by
  have he : utf8ByteLength (s.flatMap escapeChar) = s.length := by
    induction s with
    | nil => rfl
    | cons c s ih =>
      simp only [all_cons, Bool.and_eq_true, isPlainChar, Bool.or_eq_true, decide_eq_true_eq] at h
      have hs : c.utf8Size = 1 := by
        rw [Char.utf8Size_eq_one_iff, UInt32.le_iff_toNat_le]
        change c.toNat ≤ 127
        omega
      have hc : escapeChar c = [c] := by
        unfold escapeChar
        split <;> first | omega | exact if_neg (by omega)
      rw [flatMap_cons, hc, singleton_append, bytes_cons, hs, length_cons, ih h.2]
      exact Nat.add_comm ..
  rw [quote, cons_append, bytes_cons, bytes_append, he]
  change 1 + (_ + 1) = _
  omega

lemma bytes_quote_hex {n : Nat} (h : IsHexText n s) : utf8ByteLength (quote s) = n + 2 := by
  rw [← h.1]
  refine bytes_quote_plain (all_eq_true.2 fun c hc => ?_)
  have hh := all_eq_true.1 h.2 (lowerChar c) (mem_map_of_mem hc)
  simp only [isHexChar, isPlainChar, Bool.or_eq_true, Bool.and_eq_true, decide_eq_true_eq,
    toNat_lowerChar] at hh ⊢
  split_ifs at hh <;> omega

lemma hex64_isHexText : IsHexText 64 hex64 := by decide

lemma bytes_intercalate (items : List Text) : utf8ByteLength ([','].intercalate items) ≤
    (items.map fun item => utf8ByteLength item + 1).sum := by
  induction items with
  | nil => exact Nat.le_refl 0
  | cons item items ih =>
    cases items with
    | nil => simp [intercalate]
    | cons next items =>
      rw [intercalate_cons_cons, bytes_append, bytes_append, map_cons, sum_cons]
      exact Nat.add_le_add_left ih _

lemma bytes_jsonArray_le (items : List Text) : utf8ByteLength (jsonArray items) ≤
    (items.map fun item => utf8ByteLength item + 1).sum + 2 := by
  rw [jsonArray, cons_append, bytes_cons, bytes_append]
  have := bytes_intercalate items
  change 1 + (_ + 1) ≤ _
  omega

lemma bytes_jsonObject_le (fields : List (Text × Text)) : utf8ByteLength (jsonObject fields) ≤
    (fields.map fun field => utf8ByteLength (quote field.1) + utf8ByteLength field.2 + 2).sum + 2 := by
  have hl := bytes_intercalate (fields.map fun field => quote field.1 ++ ':' :: field.2)
  have hf : ∀ field : Text × Text, utf8ByteLength (quote field.1 ++ ':' :: field.2) + 1 =
      utf8ByteLength (quote field.1) + utf8ByteLength field.2 + 2 := by
    intro field
    rw [bytes_append, bytes_cons]
    change _ + (1 + _) + 1 = _
    omega
  simp only [map_map, Function.comp_def, hf] at hl
  rw [jsonObject, cons_append, bytes_cons, bytes_append]
  change 1 + (_ + 1) ≤ _
  omega

lemma bytes_le : utf8ByteLength s ≤ 4 * s.length := by
  induction s with
  | nil => exact Nat.le_refl 0
  | cons c s ih =>
    rw [bytes_cons, length_cons]
    have := c.utf8Size_le_four
    omega

lemma bytes_numberText (h : IsSafeInteger n) : utf8ByteLength (numberText n) ≤ 68 := by
  have hdigs : (Nat.toDigits 10 n.natAbs).length ≤ 16 :=
    Nat.toDigits_length _ _ _ (by decide) (by unfold IsSafeInteger at h; omega)
  refine Nat.le_trans bytes_le ?_
  unfold numberText
  split
  · rw [length_cons]
    omega
  · omega

lemma bytes_jsonTags_le {tags : List (List Text)} (h : acceptsAuthenticatedSealMetadata tags) :
    utf8ByteLength (jsonTags tags) ≤ 9300 := by
  rcases h with rfl | ⟨values, rfl, -, hl, hva⟩
  · decide
  · have hs : ((values.map quote).map fun item => utf8ByteLength item + 1).sum ≤
        values.length * 3075 := by
      clear hl
      induction values with
      | nil => exact Nat.le_refl 0
      | cons value values ih =>
        have hvalue := hva value mem_cons_self
        have hqt := bytes_quote_le (s := value)
        have hrest := ih fun v hv => hva v (mem_cons_of_mem value hv)
        rw [map_cons, map_cons, sum_cons, length_cons]
        omega
    have ht := bytes_jsonArray_le (("client".toList :: values).map quote)
    rw [map_cons, map_cons, sum_cons, show utf8ByteLength (quote "client".toList) = 8 by decide] at ht
    have hta := bytes_jsonArray_le [jsonArray (("client".toList :: values).map quote)]
    simp only [map_cons, map_nil, sum_cons, sum_nil] at hta ht hs
    simp only [jsonTags, map_cons, map_nil]
    omega

end

/-- The padded length that NIP-44 documents, from thirty-two bytes on. -/
structure WirePlatform.PadsInChunks : Prop where
  least : ∀ len ≤ 32, P.calcPaddedLen len = 32
  chunks : ∀ k len, 5 ≤ k → 2 ^ k < len → len ≤ 2 ^ (k + 1) →
    P.calcPaddedLen len = 2 ^ max 5 (k - 2) * ((len - 1) / 2 ^ max 5 (k - 2) + 1)

section
variable {P : WirePlatform} {len m : Nat}

lemma exists_power (h : 32 < len) : ∃ k, 5 ≤ k ∧ 2 ^ k < len ∧ len ≤ 2 ^ (k + 1) := by
  have hne : len - 1 ≠ 0 := by omega
  have hlow := Nat.log2_self_le hne
  have hhigh := Nat.lt_log2_self (n := len - 1)
  exact ⟨(len - 1).log2, (Nat.le_log2 hne).2 (by omega), by omega, by omega⟩

variable (hP : P.PadsInChunks) {j : Nat} (hj : 5 ≤ j) (hm : m < 8)
include hP hj hm

lemma padded_le (hp : 0 < m) (h : len ≤ m * 2 ^ j) : P.calcPaddedLen len ≤ m * 2 ^ j := by
  by_cases hs : len ≤ 32
  · rw [hP.least len hs]
    exact Nat.le_trans (Nat.pow_le_pow_right (n := 2) (by decide) hj)
      (Nat.le_mul_of_pos_left _ hp)
  · obtain ⟨k, hk, hl, hh⟩ := exists_power (Nat.lt_of_not_le hs)
    have hpow : 2 ^ k < 2 ^ (j + 3) := by
      rw [pow_add]
      have := Nat.mul_le_mul_right (2 ^ j) (Nat.le_of_lt hm)
      omega
    have hkj : k < j + 3 := (Nat.pow_lt_pow_iff_right (by decide)).1 hpow
    obtain ⟨d, hd⟩ : ∃ d, j = max 5 (k - 2) + d := ⟨j - max 5 (k - 2), by omega⟩
    rw [hP.chunks k len hk hl hh]
    have hsp : m * 2 ^ j = 2 ^ max 5 (k - 2) * (m * 2 ^ d) := by
      rw [hd, pow_add, Nat.mul_left_comm]
    rw [hsp] at h ⊢
    exact Nat.mul_le_mul_left _ (Nat.succ_le_of_lt (Nat.div_lt_of_lt_mul (by omega)))

lemma le_padded (hl : 4 ≤ m) (h : m * 2 ^ j < len) : (m + 1) * 2 ^ j ≤ P.calcPaddedLen len := by
  have hbase : 2 ^ 5 ≤ 2 ^ j := Nat.pow_le_pow_right (by decide) hj
  have hfour := Nat.mul_le_mul_right (2 ^ j) hl
  obtain ⟨k, hk, hl, hh⟩ := exists_power (show 32 < len by omega)
  have hp : 2 ^ (j + 2) < 2 ^ (k + 1) := by
    rw [pow_add _ j]
    omega
  have hjk : j + 2 < k + 1 := (Nat.pow_lt_pow_iff_right (by decide)).1 hp
  rw [hP.chunks k len hk hl hh]
  by_cases heq : k = j + 2
  · rw [heq, show max 5 (j + 2 - 2) = j by omega, Nat.mul_comm (2 ^ j)]
    exact Nat.mul_le_mul_right _ (Nat.succ_le_succ ((Nat.le_div_iff_mul_le (by omega)).2 (by omega)))
  · have hla : 2 ^ (j + 3) ≤ 2 ^ k := Nat.pow_le_pow_right (by decide) (by omega)
    have hceil := Nat.lt_mul_div_succ (len - 1) (Nat.two_pow_pos (max 5 (k - 2)))
    have height := Nat.mul_le_mul_right (2 ^ j) (show m + 1 ≤ 8 from hm)
    rw [pow_add] at hla
    omega

end

def WirePlatform.IsPayload (content plaintext : Text) : Prop :=
  content.all isPlainChar = true ∧ content.length = P.encryptedChars (utf8ByteLength plaintext)

structure IsSigned (event : SignedEvent) : Prop where
  id : IsHexText 64 event.id
  pubkey : IsHexText 64 event.pubkey
  sig : IsHexText 128 event.sig
  createdAt : IsSafeInteger event.createdAt
  kind : IsSafeInteger event.kind

structure WirePlatform.Documented : Prop extends P.PadsInChunks where
  hash : ∀ rumor, IsHexText 64 (P.getEventHash rumor)
  wrap : ∀ sealed recipient, (P.createWrap sealed recipient).kind = 1059 ∧
    (P.createWrap sealed recipient).tags = [["p".toList, recipient]] ∧
    IsSigned (P.createWrap sealed recipient) ∧
    P.IsPayload (P.createWrap sealed recipient).content (stringifyEvent sealed)

structure NostrKeySigner.Seals (signer : NostrKeySigner) : Prop where
  encrypts : ∀ recipient plaintext content,
    signer.encryptNip44 recipient plaintext = .ok content → P.IsPayload content plaintext
  signs : ∀ template sealed, signer.signEvent template = .ok sealed →
    sealed.content = template.content ∧ acceptsAuthenticatedSealMetadata sealed.tags

section
variable {P : WirePlatform} {event : SignedEvent} {rumor : UnsignedNostrEvent} {id : Text}

lemma isSigned_of_valid (h : ¬ P.isValidSignedPublicNostrEvent event = false) : IsSigned event := by
  simp only [WirePlatform.isValidSignedPublicNostrEvent, Bool.not_eq_false, Bool.and_eq_true,
    decide_eq_true_eq] at h
  obtain ⟨⟨hid, hp, hs, hc, -, hk, -⟩, -⟩ := h
  exact ⟨hid, hp, hs, hc, hk⟩

lemma bytes_stringifyEvent_le (h : IsSigned event) (hco : event.content.all isPlainChar = true) :
    utf8ByteLength (stringifyEvent event) ≤
      event.content.length + utf8ByteLength (jsonTags event.tags) + 600 := by
  obtain ⟨hid, hp, hs, hc, hk⟩ := h
  have hb := bytes_jsonObject_le [("id".toList, quote event.id),
    ("pubkey".toList, quote event.pubkey), ("created_at".toList, numberText event.createdAt),
    ("kind".toList, numberText event.kind), ("tags".toList, jsonTags event.tags),
    ("content".toList, quote event.content), ("sig".toList, quote event.sig)]
  have hnum := bytes_numberText hc
  have hnum' := bytes_numberText hk
  have hn : utf8ByteLength (quote "id".toList) = 4 ∧ utf8ByteLength (quote "pubkey".toList) = 8 ∧
      utf8ByteLength (quote "created_at".toList) = 12 ∧ utf8ByteLength (quote "kind".toList) = 6 ∧
      utf8ByteLength (quote "tags".toList) = 6 ∧ utf8ByteLength (quote "content".toList) = 9 ∧
      utf8ByteLength (quote "sig".toList) = 5 := by decide
  simp only [map_cons, map_nil, sum_cons, sum_nil, bytes_quote_hex hid, bytes_quote_hex hs,
    bytes_quote_hex hp, bytes_quote_plain hco, hn] at hb
  unfold stringifyEvent
  omega

lemma bytes_stringifyRumor (h : IsHexText 64 id) :
    utf8ByteLength (stringifyRumor rumor id) = utf8ByteLength (stringifyRumor rumor hex64) := by
  have heq : utf8ByteLength (quote id) = utf8ByteLength (quote hex64) := by
    rw [bytes_quote_hex h, bytes_quote_hex hex64_isHexText]
  simp only [stringifyRumor, jsonObject, map_cons, map_nil, intercalate_cons_cons,
    intercalate_singleton, cons_append, bytes_cons, bytes_append, heq]

lemma fits_bytes (hP : P.PadsInChunks) (h : assertPrivateMessageFitsTransport P rumor = .ok ()) :
    utf8ByteLength (stringifyRumor rumor hex64) ≤ 7 * 2 ^ 15 := by
  have hf := Nat.le_of_not_lt (reject_ok.1 h)
  simp only [frameChars, maxRelayMessageChars] at hf
  generalize utf8ByteLength (stringifyRumor rumor hex64) = rumorBytes at hf ⊢
  generalize Js.length (stringifyEvent signedShell) = shell at hf
  -- A byte more than five chunks of 2 ^ 16 is padded to six of them, and the frame is too long.
  have hs : shell + P.encryptedChars rumorBytes ≤ 5 * 2 ^ 16 := by
    by_contra hl
    have hp := le_padded hP (j := 16) (m := 5) (by decide) (by decide) (by decide)
      (Nat.lt_of_not_le hl)
    rw [WirePlatform.encryptedChars, if_neg (by omega)] at hf
    omega
  -- In the same way a byte more than seven chunks of 2 ^ 15 makes the seal too long.
  by_contra hl
  have hp := le_padded hP (j := 15) (m := 7) (by decide) (by decide) (by decide)
    (Nat.lt_of_not_le hl)
  rw [WirePlatform.encryptedChars, if_neg (by omega)] at hs
  omega

lemma encryptedChars_le (hP : P.PadsInChunks) {b j m : Nat} (hj : 5 ≤ j) (hm : m < 8)
    (hp : 0 < m) (h : b ≤ m * 2 ^ j) : P.encryptedChars b ≤ 4 * ((73 + m * 2 ^ j) / 3) := by
  have hpad := padded_le hP hj hm hp h
  unfold WirePlatform.encryptedChars
  dsimp only
  split <;> omega

/-- Every accepted private message fits, whatever tags its seal has of those that a reader allows. -/
theorem wrapPrivateMessage_fits (hP : P.Documented) {signer : NostrKeySigner}
    (hsig : signer.Seals P) {message : PrivateMessageEvent} {recipient : Text}
    {rumorKind : Option Int} {now sealedAt : Int} {wrap : SignedEvent} (hrcp : IsHexText 64 recipient)
    (h : wrapPrivateMessage P signer message recipient rumorKind now sealedAt = .ok wrap)
    {subscription : Text} (hsub : IsHexText 64 subscription) :
    Js.length (frame subscription wrap) ≤ maxRelayMessageChars ∧ ¬ RefusedForSize wrap := by
  have hpads := hP.toPadsInChunks
  simp only [wrapPrivateMessage, run_ok] at h
  obtain ⟨pubkey, -, -, _, hfits, content, hcont, sealed, hsld, hval, rfl⟩ := h
  obtain ⟨hplain, hlen⟩ := hsig.encrypts _ _ _ hcont
  obtain ⟨heq, htags⟩ := hsig.signs _ _ hsld
  dsimp only at heq
  rw [bytes_stringifyRumor (hP.hash _)] at hlen
  have hrum := encryptedChars_le hpads (by decide) (by decide) (by decide) (fits_bytes hpads hfits)
  -- The seal is the shell with the encrypted rumor and at most the tags that a reader allows.
  have hseal := bytes_stringifyEvent_le (isSigned_of_valid (not_or.1 hval).1) (heq ▸ hplain)
  have hmeta := bytes_jsonTags_le htags
  rw [heq] at hseal
  obtain ⟨-, hwrapTags, hsigned, hwrapPlain, hwrapLength⟩ := hP.wrap sealed recipient
  have hwrap := encryptedChars_le hpads (b := utf8ByteLength (stringifyEvent sealed)) (j := 16)
    (m := 5) (by decide) (by decide) (by decide) (by omega)
  have hev := bytes_stringifyEvent_le hsigned hwrapPlain
  have hp : utf8ByteLength (jsonTags [["p".toList, recipient]]) ≤ 76 := by
    have htag := bytes_jsonArray_le (["p".toList, recipient].map quote)
    have hlist := bytes_jsonArray_le [jsonArray (["p".toList, recipient].map quote)]
    simp only [map_cons, map_nil, sum_cons, sum_nil, bytes_quote_hex hrcp, show utf8ByteLength (quote "p".toList) = 3 by decide] at htag hlist
    simp only [jsonTags, map_cons, map_nil]
    omega
  have hall : ∀ {id : Text}, IsHexText 64 id →
      Js.length (frame id (P.createWrap sealed recipient)) ≤ maxRelayMessageChars := by
    intro id hid
    have hframe := bytes_jsonArray_le [quote "EVENT".toList, quote id,
      stringifyEvent (P.createWrap sealed recipient)]
    simp only [map_cons, map_nil, sum_cons, sum_nil, bytes_quote_hex hid, show utf8ByteLength (quote "EVENT".toList) = 7 by decide] at hframe
    -- The limit counts code units, of which there are no more than bytes.
    refine Nat.le_trans length_le_bytes ?_
    rw [hwrapTags] at hev
    unfold frame maxRelayMessageChars
    omega
  exact ⟨hall hsub, Nat.not_lt.2 (hall ⟨by decide, by decide⟩)⟩

end

def paddedLen (len : Nat) : Nat :=
  if len ≤ 32 then 32
  else
    let chunk := 2 ^ max 5 ((len - 1).log2 - 2)
    chunk * ((len - 1) / chunk + 1)

def payload (plaintext : Text) : Text :=
  let bytes := utf8ByteLength plaintext
  replicate (4 * ((65 + (if bytes < 65536 then 2 else 6) + paddedLen bytes + 2) / 3)) 'A'

def signedWith (kind : Int) (tags : List (List Text)) (content : Text) : SignedEvent :=
  { signedShell with kind, tags, content }

def samplePlatform : WirePlatform where
  calcPaddedLen := paddedLen
  getEventHash _ := hex64
  sha256 _ := hex64
  verify _ _ _ := true
  createWrap sealed recipient :=
    signedWith 1059 [["p".toList, recipient]] (payload (stringifyEvent sealed))

def clientSigner : NostrKeySigner where
  getPublicKey := .ok hex64
  encryptNip44 _ plaintext := .ok (payload plaintext)
  signEvent template :=
    .ok (signedWith template.kind [["client".toList, "Conduit".toList]] template.content)

lemma signedWith_isSigned {kind : Int} (h : IsSafeInteger kind) (tags : List (List Text))
    (content : Text) : IsSigned (signedWith kind tags content) :=
  ⟨hex64_isHexText, hex64_isHexText, (by decide +kernel : IsHexText 128 (replicate 128 '0')),
    (by decide : IsSafeInteger maxSafeInteger), h⟩

lemma payload_isPayload (plaintext : Text) : samplePlatform.IsPayload (payload plaintext) plaintext :=
  ⟨all_eq_true.2 fun c hc => by rw [eq_of_mem_replicate hc]; decide, length_replicate⟩

lemma samplePlatform_documented : samplePlatform.Documented where
  least len h := if_pos h
  chunks k len hk hlow hhigh := by
    have hlog : (len - 1).log2 = k := by
      rw [Nat.log2_eq_iff (by omega)]
      omega
    have hl : ¬ len ≤ 32 := by
      have := Nat.pow_le_pow_right (n := 2) (by decide) hk
      omega
    change paddedLen len = _
    rw [paddedLen, if_neg hl, hlog]
  hash _ := hex64_isHexText
  wrap _ _ := ⟨rfl, rfl, signedWith_isSigned (by decide) _ _, payload_isPayload _⟩

lemma clientSigner_seals : clientSigner.Seals samplePlatform where
  encrypts _ plaintext _ h := by
    cases h
    exact payload_isPayload plaintext
  signs _ _ h := by
    cases h
    exact ⟨rfl, .inr ⟨["Conduit".toList], rfl, by decide⟩⟩

def hello : PrivateMessageEvent := { tags := [["p".toList, hex64]], content := "hello" }

lemma hello_wraps : ∃ wrap, wrapPrivateMessage samplePlatform clientSigner hello hex64 none
    1700000000 1699990000 = .ok wrap := by
  simp only [wrapPrivateMessage, run_ok]
  exact ⟨_, hex64, rfl, by decide, (), reject_of_not (by decide +kernel), _, rfl, _, rfl,
    by decide +kernel, rfl⟩

theorem hello_fits : ∃ wrap, wrapPrivateMessage samplePlatform clientSigner hello hex64 none
    1700000000 1699990000 = .ok wrap ∧
      Js.length (frame hex64 wrap) ≤ maxRelayMessageChars ∧ ¬ RefusedForSize wrap := by
  obtain ⟨wrap, hwrap⟩ := hello_wraps
  exact ⟨wrap, hwrap, wrapPrivateMessage_fits samplePlatform_documented clientSigner_seals
    hex64_isHexText hwrap hex64_isHexText⟩

end Conduit.WireSize
