import Conduit.Bolt11
import Mathlib.Data.Nat.Digits.Lemmas
import Mathlib.Tactic.Ring

namespace Conduit.Lnurl

open Js Throwing Bolt11 List Option

/-- `new TextEncoder().encode(s)`. -/
def encodeUtf8 (s : Text) : List Nat := (String.ofList s).toByteArray.data.toList.map UInt8.toNat

/-- `new TextDecoder("utf-8", { fatal: true }).decode(bytes)`, and `none` where it throws. -/
def decodeUtf8 (bytes : List Nat) : Option Text :=
  (ByteArray.mk (bytes.map UInt8.ofNat).toArray).utf8Decode?.map Array.toList

/-- The inner loop of `toWords`, with the bits that it leaves. -/
def takeWords (value : Nat) : Nat → List Nat × Nat
  | bits + 5 => ((value >>> bits) % 32 :: (takeWords value bits).1, (takeWords value bits).2)
  | bits => ([], bits)

/-- The state of `toWords`; the accumulator is never masked and has 32 bits. -/
structure WordBuffer where
  words : List Nat := []
  value : Nat := 0
  bits : Nat := 0

def WordBuffer.push (b : WordBuffer) (byte : Nat) : WordBuffer :=
  let value := (b.value <<< 8) % 2 ^ 32 + byte
  let taken := takeWords value (b.bits + 8)
  ⟨b.words ++ taken.1, value, taken.2⟩

def toWords (bytes : List Nat) : List Nat :=
  let buffer := bytes.foldl WordBuffer.push {}
  if 0 < buffer.bits then buffer.words ++ [(buffer.value <<< (5 - buffer.bits)) % 32]
  else buffer.words

def fromWords (words : List Nat) (pad : Bool) : Option (List Nat) := do
  guard (∀ word ∈ words, word ≤ 31)
  let buffer := words.foldl ByteBuffer.push {}
  if pad = true ∧ 0 < buffer.bits then
    return buffer.bytes ++ [(buffer.value <<< (8 - buffer.bits)) % 256]
  guard ¬(5 ≤ buffer.bits ∨ buffer.value ≠ 0)
  return buffer.bytes

def createBech32Checksum (hrp : Text) (words : List Nat) : List Nat :=
  let polymod := bech32Polymod (bech32HrpExpand hrp ++ words ++ [0, 0, 0, 0, 0, 0]) ^^^ 1
  (range 6).map fun index => (polymod >>> (5 * (5 - index))) % 32

/-- `words.map((word) => BECH32_CHARSET[word]!).join("")`. -/
def spell (words : List Nat) : Text := words.filterMap fun word => bech32Charset[word]?

def encodeLnurl (url : Text) : Text :=
  let words := toWords (encodeUtf8 url)
  "lnurl1".toList ++ spell (words ++ createBech32Checksum "lnurl" words)

variable (protocol : Text → Option Text)

/-- `["https:", "http:"]` holds the protocol of `new URL(url)`, which `protocol` reads. -/
def IsHttp (url : Text) : Prop :=
  protocol url = some "https:".toList ∨ protocol url = some "http:".toList
  deriving Decidable

def decodeLnurl (value : Text) : Option Text := do
  guard (value ≠ [] ∧ trim value = value)
  guard (isMixedCase value = false)
  let (hrp, dataPart) ← splitSeparator (toLowerCase value)
  guard (hrp = "lnurl".toList ∧ bech32ChecksumWordCount ≤ dataPart.length)
  let values ← dataWords dataPart
  guard (bech32Polymod (bech32HrpExpand "lnurl" ++ values) = 1)
  let bytes ← fromWords (values.take (values.length - bech32ChecksumWordCount)) false
  let decoded ← decodeUtf8 bytes
  guard (IsHttp protocol decoded)
  return decoded

section
variable {words cs : List Nat} {a b s t v w : Nat} {hrp : Text}

def generated (top : Nat) (index : Nat) (generator : Nat) : Nat :=
  if (top >>> index) % 2 = 1 then generator else 0

/-- The body of the loop of `bech32Polymod`. -/
def feed (chk value : Nat) : Nat :=
  let top := chk >>> 25
  bech32Generators.zipIdx.foldl
    (fun chk generator => if (top >>> generator.2) % 2 = 1 then chk ^^^ generator.1 else chk)
    (((chk % 0x2000000) <<< 5) ^^^ value)

lemma generated_xor (index generator : Nat) : generated (a ^^^ b) index generator =
      generated a index generator ^^^ generated b index generator := by
  have hb : ∀ n : Nat, (n >>> index) % 2 = 1 ↔ n.testBit index = true := by
    intro n
    rw [Nat.testBit_eq_decide_div_mod_eq, decide_eq_true_iff, Nat.shiftRight_eq_div_pow]
  simp only [generated, hb, Nat.testBit_xor]
  cases a.testBit index <;> cases b.testBit index <;> simp

lemma feed_eq (chk value : Nat) : feed chk value = ((chk % 2 ^ 25) <<< 5) ^^^
    (generated (chk >>> 25) 0 0x3b6a57b2 ^^^ generated (chk >>> 25) 1 0x26508e6d ^^^
      generated (chk >>> 25) 2 0x1ea119fa ^^^ generated (chk >>> 25) 3 0x3d4233dd ^^^
      generated (chk >>> 25) 4 0x2a1462b3) ^^^ value := by
  have hif : ∀ (p : Prop) [Decidable p] (x g : Nat),
      (if p then x ^^^ g else x) = x ^^^ if p then g else 0 := by
    intro p _ x g
    split <;> simp
  simp only [feed, bech32Generators, zipIdx_cons, zipIdx_nil, foldl_cons, foldl_nil, hif]
  rw [show 0x2000000 = 2 ^ 25 by rfl]
  unfold generated
  ac_rfl

lemma feed_xor : feed (s ^^^ t) (v ^^^ w) = feed s v ^^^ feed t w := by
  simp only [feed_eq, Nat.shiftRight_xor_distrib, generated_xor, Nat.xor_mod_two_pow,
    Nat.shiftLeft_xor_distrib]
  ac_rfl

lemma feed_lt (chk : Nat) : feed chk 0 < 2 ^ 30 := by
  have hg : ∀ index, ∀ generator < 2 ^ 30,
      generated (chk >>> 25) index generator < 2 ^ 30 := by
    intro index generator h
    unfold generated
    split
    · exact h
    · exact Nat.two_pow_pos 30
  have hl : (chk % 2 ^ 25) <<< 5 < 2 ^ 30 := by
    rw [Nat.shiftLeft_eq]
    omega
  rw [feed_eq, Nat.xor_zero]
  exact Nat.xor_lt_two_pow hl (Nat.xor_lt_two_pow (Nat.xor_lt_two_pow (Nat.xor_lt_two_pow
    (Nat.xor_lt_two_pow (hg 0 _ (by decide)) (hg 1 _ (by decide)))
    (hg 2 _ (by decide))) (hg 3 _ (by decide))) (hg 4 _ (by decide)))

lemma feed_of_lt (hs : s < 2 ^ 25) (hv : v < 32) : feed s v = s * 32 + v := by
  have ht : s >>> 25 = 0 := by rw [Nat.shiftRight_eq_div_pow, Nat.div_eq_of_lt hs]
  have hn : ∀ index generator, generated 0 index generator = 0 := by
    intro index generator
    simp [generated]
  simp only [feed_eq, ht, hn, Nat.xor_zero, Nat.mod_eq_of_lt hs]
  have hd := Nat.xor_div_two_pow (a := s <<< 5) (b := v) (n := 5)
  have hm := Nat.xor_mod_two_pow (a := s <<< 5) (b := v) (n := 5)
  rw [Nat.shiftLeft_eq, Nat.mul_div_cancel _ (by decide), Nat.div_eq_of_lt hv, Nat.xor_zero] at hd
  rw [Nat.shiftLeft_eq, Nat.mul_mod_left, Nat.mod_eq_of_lt hv, Nat.zero_xor] at hm
  rw [Nat.shiftLeft_eq]
  omega

lemma foldl_feed_xor (hl : words.length = cs.length) :
    (zipWith (· ^^^ ·) words cs).foldl feed (s ^^^ t) = words.foldl feed s ^^^ cs.foldl feed t := by
  induction words generalizing cs s t with
  | nil =>
    cases length_eq_zero_iff.1 hl.symm
    rfl
  | cons w words ih =>
    obtain ⟨c, cs, rfl⟩ := exists_cons_of_length_eq_add_one hl.symm
    simp only [zipWith_cons_cons, foldl_cons, feed_xor]
    exact ih (Nat.succ.inj hl)

lemma foldl_feed_zero (hcs : ∀ c ∈ cs, c < 32) (hl : cs.length ≤ 6) :
    cs.foldl feed 0 = wordsToBigInt cs := by
  induction cs using reverseRecOn with
  | nil => rfl
  | append_singleton cs c ih =>
    rw [length_append, length_singleton] at hl
    have hr : ∀ d ∈ cs, d < 32 := fun d hd => hcs d (mem_append_left _ hd)
    have hlt := wordsToBigInt_lt hr
    have hpow : 32 ^ cs.length ≤ 32 ^ 5 := Nat.pow_le_pow_right (by decide) (by omega)
    -- Five words are below 2 ^ 25, so that no generator is added before the sixth.
    rw [foldl_concat, ih hr (by omega), wordsToBigInt_append,
      feed_of_lt (by omega) (hcs c (by simp))]

lemma foldl_feed (hcs : ∀ c ∈ cs, c < 32) (hl : cs.length = 6) :
    cs.foldl feed s = [0, 0, 0, 0, 0, 0].foldl feed s ^^^ wordsToBigInt cs := by
  -- The words are fed as six zeros after `s`, and as themselves after zero.
  have hx := foldl_feed_xor (s := s) (t := 0) (show (replicate 6 0).length = cs.length by simp [hl])
  have hz : zipWith (· ^^^ ·) (replicate 6 0) cs = cs := by
    apply ext_getElem (by simp [hl])
    intro i h₁ h₂
    rw [getElem_zipWith, getElem_replicate, Nat.zero_xor]
  rw [hz, Nat.xor_zero, foldl_feed_zero hcs hl.le] at hx
  exact hx

lemma number_inj {b : Nat} (hb : 1 < b) (hl : words.length = cs.length)
    (hw : ∀ w ∈ words, w < b) (hcs : ∀ c ∈ cs, c < b)
    (h : words.foldl (fun acc w => acc * b + w) 0 = cs.foldl (fun acc w => acc * b + w) 0) :
    words = cs := by
  have hd : ∀ l : List Nat,
      l.foldl (fun acc w => acc * b + w) 0 = Nat.ofDigits b l.reverse := by
    intro l
    rw [Nat.ofDigits_eq_foldr, foldr_reverse]
    congr 1
    funext acc w
    rw [Nat.cast_id, Nat.mul_comm, Nat.add_comm]
  rw [hd, hd] at h
  exact reverse_injective (Nat.ofDigits_inj_of_len_eq hb (by simpa using hl)
    (by simpa using hw) (by simpa using hcs) h)

lemma checksum_length : (createBech32Checksum hrp words).length = 6 := by
  rw [createBech32Checksum, length_map, length_range]

lemma checksum_lt : ∀ c ∈ createBech32Checksum hrp words, c < 32 := by
  intro c hc
  obtain ⟨index, -, rfl⟩ := List.mem_map.1 hc
  exact Nat.mod_lt _ (by decide)

lemma checksum_number : wordsToBigInt (createBech32Checksum hrp words) =
    bech32Polymod (bech32HrpExpand hrp ++ words ++ [0, 0, 0, 0, 0, 0]) ^^^ 1 := by
  have hlt : bech32Polymod (bech32HrpExpand hrp ++ words ++ [0, 0, 0, 0, 0, 0]) ^^^ 1 < 2 ^ 30 := by
    refine Nat.xor_lt_two_pow ?_ (by decide)
    have hc : bech32HrpExpand hrp ++ words ++ [0, 0, 0, 0, 0, 0] =
      (bech32HrpExpand hrp ++ words ++ [0, 0, 0, 0, 0]) ++ [0] := by simp
    rw [hc, bech32Polymod, foldl_concat]
    exact feed_lt _
  revert hlt
  rw [createBech32Checksum]
  generalize bech32Polymod (bech32HrpExpand hrp ++ words ++ [0, 0, 0, 0, 0, 0]) ^^^ 1 = p
  intro hlt
  -- Six words of five bits hold all thirty bits of the remainder.
  simp only [show range 6 = [0, 1, 2, 3, 4, 5] by rfl, wordsToBigInt, map_cons, map_nil, foldl_cons,
    foldl_nil, Nat.shiftRight_eq_div_pow]
  omega

lemma polymod_iff (hcs : ∀ c ∈ cs, c < 32) (hl : cs.length = 6) :
    bech32Polymod (bech32HrpExpand hrp ++ words ++ cs) = 1 ↔ cs = createBech32Checksum hrp words := by
  have hf : bech32Polymod (bech32HrpExpand hrp ++ words ++ cs) =
      bech32Polymod (bech32HrpExpand hrp ++ words ++ [0, 0, 0, 0, 0, 0]) ^^^ wordsToBigInt cs := by
    have hp : ∀ values, bech32Polymod values = values.foldl feed 1 := fun _ => rfl
    simp only [hp, foldl_append]
    exact foldl_feed hcs hl
  rw [hf]
  constructor
  · intro h
    refine number_inj (b := 32) (by decide) (hl.trans checksum_length.symm) hcs checksum_lt ?_
    change wordsToBigInt cs = wordsToBigInt _
    rw [checksum_number, ← h, ← Nat.xor_assoc, Nat.xor_self, Nat.zero_xor]
  · rintro rfl
    rw [checksum_number, ← Nat.xor_assoc, Nat.xor_self, Nat.zero_xor]

end

section
variable {bytes words : List Nat} {b : WordBuffer} {byte : Nat}

structure Carries (b : WordBuffer) (read : List Nat) : Prop where
  bits_lt : b.bits < 5
  words_lt : ∀ word ∈ b.words, word < 32
  size : 5 * b.words.length + b.bits = 8 * read.length
  exact : wordsToBigInt b.words * 2 ^ b.bits + b.value % 2 ^ b.bits = bytesNumber read

lemma takeWords_spec (value bits : Nat) (words : List Nat) :
    (takeWords value bits).2 < 5 ∧ (∀ word ∈ (takeWords value bits).1, word < 32) ∧
      5 * (takeWords value bits).1.length + (takeWords value bits).2 = bits ∧
      wordsToBigInt (words ++ (takeWords value bits).1) * 2 ^ (takeWords value bits).2 +
        value % 2 ^ (takeWords value bits).2 = wordsToBigInt words * 2 ^ bits + value % 2 ^ bits := by
  induction bits using takeWords.induct generalizing words with
  | case1 bits ih =>
    obtain ⟨hb, hlt, hsize, he⟩ := ih (words ++ [(value >>> bits) % 32])
    rw [append_assoc, singleton_append, wordsToBigInt_append, Nat.shiftRight_eq_div_pow] at he
    simp only [takeWords, Nat.shiftRight_eq_div_pow, mem_cons, length_cons]
    refine ⟨hb, ?_, by omega, ?_⟩
    · rintro word (rfl | hw)
      · exact Nat.mod_lt _ (by decide)
      · exact hlt word hw
    · change _ = wordsToBigInt words * 2 ^ (bits + 5) + value % 2 ^ (bits + 5)
      rw [he, pow_add, show (2 : Nat) ^ 5 = 32 by rfl, Nat.mod_mul]
      ring
  | case2 bits hb =>
    have hlt : bits < 5 := by
      by_contra hle
      exact hb (bits - 5) (by omega)
    rw [takeWords.eq_def]
    split
    · omega
    · exact ⟨hlt, fun _ h => absurd h not_mem_nil, by simp, by rw [append_nil]⟩

lemma Carries.push {read : List Nat} (h : Carries b read) (hbyte : byte < 256) :
    Carries (b.push byte) (read ++ [byte]) := by
  obtain ⟨words, value, bits⟩ := b
  obtain ⟨hb, hwo, hs, he⟩ := h
  dsimp only at hb hwo hs he
  obtain ⟨ht, hlt, hlen, hn⟩ :=
    takeWords_spec ((value <<< 8) % 2 ^ 32 + byte) (bits + 8) words
  have hv : ((value <<< 8) % 2 ^ 32 + byte) % 2 ^ (bits + 8) = value % 2 ^ bits * 256 + byte := by
    -- The accumulator loses only bits that no word reads again.
    rw [Nat.add_mod, Nat.mod_mod_of_dvd _ (pow_dvd_pow 2 (by omega)), ← Nat.add_mod,
      Nat.shiftLeft_eq, pow_add, Nat.mul_comm (2 ^ bits), Nat.mod_mul,
      show (value * 2 ^ 8 + byte) / 2 ^ 8 = value by omega]
    omega
  refine ⟨ht, ?_, ?_, ?_⟩
  · intro word hw
    rcases mem_append.1 hw with hw | hw
    · exact hwo word hw
    · exact hlt word hw
  · simp only [WordBuffer.push, length_append, length_singleton]
    omega
  · rw [hv, pow_add] at hn
    simp only [WordBuffer.push, hn, bytesNumber, foldl_concat] at he ⊢
    rw [← he]
    ring

lemma carries_foldl (h : ∀ byte ∈ bytes, byte < 256) :
    Carries (bytes.foldl WordBuffer.push {}) bytes := by
  induction bytes using reverseRecOn with
  | nil => exact ⟨by decide, fun _ h => absurd h not_mem_nil, rfl, rfl⟩
  | append_singleton bytes byte ih =>
    rw [foldl_concat]
    exact (ih fun c hc => h c (mem_append_left _ hc)).push (h byte (by simp))

lemma toWords_spec (h : ∀ byte ∈ bytes, byte < 256) : (∀ word ∈ toWords bytes, word < 32) ∧
    ∃ p < 5, 5 * (toWords bytes).length = 8 * bytes.length + p ∧
      wordsToBigInt (toWords bytes) = bytesNumber bytes * 2 ^ p := by
  have hc := carries_foldl h
  revert hc
  unfold toWords
  generalize bytes.foldl WordBuffer.push {} = b
  rintro ⟨hbits, hwo, hsize, he⟩
  dsimp only
  split
  next hp =>
    refine ⟨?_, 5 - b.bits, by omega, ?_, ?_⟩
    · intro word hw
      rcases mem_append.1 hw with hw | hw
      · exact hwo word hw
      · rw [mem_singleton.1 hw]
        exact Nat.mod_lt _ (by decide)
    · rw [length_append, length_singleton]
      omega
    · have hs : 2 ^ b.bits * 2 ^ (5 - b.bits) = 32 := by
        rw [← pow_add, show b.bits + (5 - b.bits) = 5 by omega]
        rfl
      rw [wordsToBigInt_append, Nat.shiftLeft_eq, ← he, ← hs, Nat.mul_mod_mul_right]
      ring
  next hp =>
    have hz : b.bits = 0 := by omega
    refine ⟨hwo, 0, by decide, by omega, ?_⟩
    rw [hz] at he
    rw [← he]
    simp [Nat.mod_one]

lemma fromWords_eq_some : fromWords words false = some bytes ↔ (∀ word ∈ words, word ≤ 31) ∧
    (words.foldl ByteBuffer.push {}).bits < 5 ∧ (words.foldl ByteBuffer.push {}).value = 0 ∧
      (words.foldl ByteBuffer.push {}).bytes = bytes := by
  simp only [fromWords, run_gives, Bool.false_eq_true, false_and, if_false, not_or, not_not, not_le,
    and_assoc]

lemma fromWords_toWords (h : ∀ byte ∈ bytes, byte < 256) :
    fromWords (toWords bytes) false = some bytes := by
  obtain ⟨hlt, p, hp, hs, hn⟩ := toWords_spec h
  have hwo : ∀ word ∈ toWords bytes, word ≤ 31 := fun w hw => Nat.le_of_lt_succ (hlt w hw)
  have henc := encodes_foldl hwo
  rw [fromWords_eq_some]
  generalize (toWords bytes).foldl ByteBuffer.push {} = b at henc
  obtain ⟨hbits, hv, hb, hs', he⟩ := henc
  obtain rfl : b.bits = p := by omega
  -- The bits that are left are the padding, which is zero.
  rw [hn, Nat.mul_comm, Nat.mul_comm _ (2 ^ b.bits)] at he
  have hz : b.value = 0 := by
    have hm := congrArg (· % 2 ^ b.bits) he
    simpa [Nat.mod_eq_of_lt hv] using hm
  rw [hz, Nat.add_zero] at he
  exact ⟨hwo, hp, hz, number_inj (b := 256) (by decide) (by omega) hb h
    (Nat.eq_of_mul_eq_mul_left (Nat.two_pow_pos _) he)⟩

lemma toWords_fromWords (h : fromWords words false = some bytes) :
    (∀ byte ∈ bytes, byte < 256) ∧ toWords bytes = words := by
  obtain ⟨hwo, hbi, hz, rfl⟩ := fromWords_eq_some.1 h
  have henc := encodes_foldl hwo
  generalize words.foldl ByteBuffer.push {} = b at henc hbi hz
  obtain ⟨-, -, hb, hs, he⟩ := henc
  obtain ⟨hlt, p, hp, hs', hn⟩ := toWords_spec hb
  obtain rfl : b.bits = p := by omega
  refine ⟨hb, number_inj (b := 32) (by decide) (by omega) hlt
    (fun w hw => Nat.lt_succ_of_le (hwo w hw)) ?_⟩
  rw [hz, Nat.add_zero] at he
  exact hn.trans he

end

section
variable {words bytes : List Nat} {url value dataPart : Text} {w : Nat} {c : Char}

lemma idxOf?_charset : bech32Charset.idxOf? c = some w ↔ bech32Charset[w]? = some c := by
  constructor
  · intro h
    obtain ⟨hw, hc, -⟩ := findIdx?_eq_some_iff_getElem.1 h
    rw [List.getElem?_eq_getElem hw, eq_of_beq hc]
  · intro h
    obtain ⟨hw, rfl⟩ := List.getElem?_eq_some_iff.1 h
    have ha : ∀ i : Fin 32, bech32Charset.idxOf? (bech32Charset.get i) = some i.val := by decide
    exact ha ⟨w, hw⟩

lemma dataWords_spell (h : ∀ word ∈ words, word < 32) : dataWords (spell words) = some words := by
  induction words with
  | nil => rfl
  | cons w words ih =>
    have hw : bech32Charset[w]? = some (bech32Charset.get ⟨w, h w mem_cons_self⟩) :=
      List.getElem?_eq_getElem _
    have hr := ih fun v hv => h v (mem_cons_of_mem w hv)
    rw [dataWords] at hr
    rw [spell, filterMap_cons_some hw, dataWords, mapM_cons, idxOf?_charset.2 hw]
    exact congrArg (·.bind fun rest => some (w :: rest)) hr

lemma spell_dataWords (h : dataWords dataPart = some words) :
    spell words = dataPart ∧ words.length = dataPart.length := by
  induction dataPart generalizing words with
  | nil =>
    cases h
    exact ⟨rfl, rfl⟩
  | cons c dataPart ih =>
    simp only [dataWords, mapM_cons, run_gives] at h
    obtain ⟨w, hw, rest, hr, rfl⟩ := h
    obtain ⟨hs, hl⟩ := ih hr
    rw [spell, filterMap_cons_some (idxOf?_charset.1 hw), length_cons, hl]
    exact ⟨congrArg (c :: ·) hs, rfl⟩

lemma map_ofNat_toNat (l : List UInt8) : (l.map UInt8.toNat).map UInt8.ofNat = l := by
  rw [List.map_map]
  exact (map_congr_left fun b _ => UInt8.ofNat_toNat).trans (List.map_id l)

lemma decodeUtf8_encodeUtf8 : decodeUtf8 (encodeUtf8 url) = some url := by
  rw [decodeUtf8, encodeUtf8, map_ofNat_toNat, Array.toArray_toList, String.toByteArray_ofList,
    List.utf8Decode?_utf8Encode]
  rfl

lemma encodeUtf8_decodeUtf8 (hb : ∀ byte ∈ bytes, byte < 256)
    (h : decodeUtf8 bytes = some url) : encodeUtf8 url = bytes := by
  obtain ⟨decoded, hd, rfl⟩ := Option.map_eq_some_iff.1 h
  have he := ByteArray.utf8Encode_get_utf8Decode? (h := isSome_of_eq_some hd)
  simp only [hd, Option.get_some] at he
  rw [encodeUtf8, String.toByteArray_ofList, he, List.map_map]
  refine (map_congr_left fun byte hby => ?_).trans (List.map_id bytes)
  exact UInt8.toNat_ofNat_of_lt' (hb byte hby)

lemma encodeUtf8_lt (url : Text) : ∀ byte ∈ encodeUtf8 url, byte < 256 := by
  intro byte hb
  obtain ⟨b, -, rfl⟩ := List.mem_map.1 hb
  exact b.toNat_lt

lemma mem_charset_of_mem_spell (h : c ∈ spell words) : c ∈ bech32Charset := by
  obtain ⟨w, -, hw⟩ := mem_filterMap.1 h
  exact mem_of_getElem? hw

lemma lnurl_text (words : List Nat) : let value := "lnurl1".toList ++ spell words
    trim value = value ∧ isMixedCase value = false ∧ toLowerCase value = value ∧
      splitSeparator value = some ("lnurl".toList, spell words) := by
  have hch : ∀ c ∈ "lnurl1".toList ++ bech32Charset, isSpace c = false ∧
      (65 ≤ c.toNat && c.toNat ≤ 90) = false ∧ lowerChar c = c := by
    have ha : (("lnurl1".toList ++ bech32Charset).all fun c => decide (isSpace c = false ∧
      (65 ≤ c.toNat && c.toNat ≤ 90) = false ∧ lowerChar c = c)) = true := by decide
    simpa only [List.all_eq_true, decide_eq_true_eq] using ha
  have ht : ∀ c ∈ "lnurl1".toList ++ spell words, c ∈ "lnurl1".toList ++ bech32Charset :=
    fun c hc => (mem_append.1 hc).elim (mem_append_left _) fun hc =>
      mem_append_right _ (mem_charset_of_mem_spell hc)
  have ho : '1' ∉ spell words := fun h => absurd (mem_charset_of_mem_spell h) (by decide)
  refine ⟨trim_of_forall fun c hc => (hch c (ht c hc)).1, ?_, ?_, ?_⟩
  · rw [isMixedCase, Bool.and_eq_false_iff]
    exact .inr (any_eq_false.2 fun c hc => Bool.not_eq_true _ ▸ (hch c (ht c hc)).2.1)
  · exact (map_congr_left fun c hc => (hch c (ht c hc)).2.2).trans (List.map_id _)
  · have hn : splitSeparator (spell words) = none := by
      have hs := splitSeparator_spec (spell words)
      cases hsp : splitSeparator (spell words) with
      | none => rfl
      | some parts =>
        rw [hsp] at hs
        exact absurd (hs.1 ▸ mem_append_right _ mem_cons_self) ho
    simp [splitSeparator, hn]

end

section
variable {protocol : Text → Option Text} {words bytes : List Nat} {url value : Text}

lemma decodeLnurl_eq_some : decodeLnurl protocol value = some url ↔
    (value ≠ [] ∧ trim value = value) ∧ isMixedCase value = false ∧
      ∃ parts, splitSeparator (toLowerCase value) = some parts ∧
        (parts.1 = "lnurl".toList ∧ bech32ChecksumWordCount ≤ parts.2.length) ∧
        ∃ values, dataWords parts.2 = some values ∧
          bech32Polymod (bech32HrpExpand "lnurl" ++ values) = 1 ∧
          ∃ bytes, fromWords (values.take (values.length - bech32ChecksumWordCount)) false =
            some bytes ∧ ∃ decoded, decodeUtf8 bytes = some decoded ∧
              IsHttp protocol decoded ∧ decoded = url := by
  simp only [decodeLnurl, run_gives]

lemma decodeLnurl_encodeLnurl (h : IsHttp protocol url) :
    decodeLnurl protocol (encodeLnurl url) = some url := by
  have hw := (toWords_spec (encodeUtf8_lt url)).1
  obtain ⟨ht, hc, hl, hs⟩ := lnurl_text
    (toWords (encodeUtf8 url) ++ createBech32Checksum "lnurl" (toWords (encodeUtf8 url)))
  have ha : ∀ word ∈ toWords (encodeUtf8 url) ++
      createBech32Checksum "lnurl" (toWords (encodeUtf8 url)), word < 32 :=
    fun word hwo => (mem_append.1 hwo).elim (hw word) (checksum_lt word)
  have hv := dataWords_spell ha
  rw [decodeLnurl_eq_some]
  refine ⟨⟨nofun, ht⟩, hc, _, hl ▸ hs, ⟨rfl, ?_⟩, _, hv, ?_, encodeUtf8 url, ?_,
    url, decodeUtf8_encodeUtf8, h, rfl⟩
  · rw [← (spell_dataWords hv).2, length_append, checksum_length]
    exact Nat.le_add_left ..
  · rw [← append_assoc]
    exact (polymod_iff checksum_lt checksum_length).2 rfl
  · rw [length_append, checksum_length, bech32ChecksumWordCount, Nat.add_sub_cancel, take_left]
    exact fromWords_toWords (encodeUtf8_lt _)

lemma encodeLnurl_decodeLnurl (h : decodeLnurl protocol value = some url) :
    encodeLnurl url = toLowerCase value := by
  obtain ⟨-, -, ⟨_, dataPart⟩, hs, ⟨rfl, hl⟩, values, hv, hp, bytes, hb,
    _, hd, -, rfl⟩ := decodeLnurl_eq_some.1 h
  have hlt := dataWords_lt hv
  obtain ⟨hby, hw⟩ := toWords_fromWords hb
  rw [← (spell_dataWords hv).2] at hl
  rw [← take_append_drop (values.length - bech32ChecksumWordCount) values, ← append_assoc,
    polymod_iff (fun c hc => hlt c (mem_of_mem_drop hc))
      (by rw [length_drop]; unfold bech32ChecksumWordCount at *; omega)] at hp
  rw [encodeLnurl, encodeUtf8_decodeUtf8 hby hd, hw, ← hp, take_append_drop,
    (spell_dataWords hv).1, (splitSeparator_eq_some hs).1]
  rfl

end

section
open CheckoutSpark (codeUnits isDigitChar codeUnits_injective)

variable {p q x y : List Nat} {s t : Nat} {before typed mistyped after : Text}

lemma eq_of_xor_eq_zero (h : s ^^^ t = 0) : s = t := by
  rw [← Nat.xor_zero s, ← Nat.xor_self t, ← Nat.xor_assoc, h, Nat.zero_xor]

lemma feed_eq_zero (hs : s < 2 ^ 30) (h : feed s 0 = 0) : s = 0 := by
  have hm := congrArg (· % 2 ^ 5) h
  simp only [feed_eq, Nat.xor_mod_two_pow, Nat.shiftLeft_eq, Nat.mul_mod_left, Nat.zero_xor,
    Nat.zero_mod, Nat.xor_zero] at hm
  -- The low words of the generators are independent.
  have hg : ∀ top : Fin 32, generated top 0 0x3b6a57b2 % 2 ^ 5 ^^^
      (generated top 1 0x26508e6d % 2 ^ 5 ^^^ generated top 2 0x1ea119fa % 2 ^ 5 ^^^
        generated top 3 0x3d4233dd % 2 ^ 5 ^^^ generated top 4 0x2a1462b3 % 2 ^ 5) = 0 →
      top = 0 := by decide
  have ht : s >>> 25 < 32 := by
    rw [Nat.shiftRight_eq_div_pow]
    omega
  have hz := hg ⟨s >>> 25, ht⟩ (by simpa only [Nat.xor_assoc] using hm)
  have hlt : s < 2 ^ 25 := by
    have he : s >>> 25 = 0 := congrArg Fin.val hz
    rw [Nat.shiftRight_eq_div_pow] at he
    omega
  rw [feed_of_lt hlt (by decide)] at h
  omega

lemma foldl_feed_inj (hs : s ^^^ t < 2 ^ 30) (h : y.foldl feed s = y.foldl feed t) : s = t := by
  induction y generalizing s t with
  | nil => exact h
  | cons v y ih =>
    have hx : feed s v ^^^ feed t v = feed (s ^^^ t) 0 := by rw [← feed_xor, Nat.xor_self]
    have he := ih (hx ▸ feed_lt _) h
    rw [he, Nat.xor_self] at hx
    exact eq_of_xor_eq_zero (feed_eq_zero hs hx.symm)

/-- A burst of errors within six words changes the remainder. -/
lemma polymod_burst (hl : p.length = q.length) (h6 : p.length ≤ 6) (hp : ∀ w ∈ p, w < 32)
    (hq : ∀ w ∈ q, w < 32) (h : bech32Polymod (x ++ p ++ y) = bech32Polymod (x ++ q ++ y)) :
    p = q := by
  have hf : ∀ values, bech32Polymod values = values.foldl feed 1 := fun _ => rfl
  simp only [hf, foldl_append] at h
  have hz : ∀ w ∈ zipWith (· ^^^ ·) p q, w < 32 := by
    intro w hw
    obtain ⟨i, hi, rfl⟩ := getElem_of_mem hw
    rw [getElem_zipWith]
    exact Nat.xor_lt_two_pow (n := 5) (hp _ (getElem_mem _)) (hq _ (getElem_mem _))
  have hlen : (zipWith (· ^^^ ·) p q).length = p.length := by simp [hl]
  have hx := foldl_feed_xor (s := x.foldl feed 1) (t := x.foldl feed 1) hl
  rw [Nat.xor_self, foldl_feed_zero hz (hlen.trans_le h6)] at hx
  have hlt : wordsToBigInt (zipWith (· ^^^ ·) p q) < 2 ^ 30 :=
    (wordsToBigInt_lt hz).trans_le (hlen ▸ (Nat.pow_le_pow_right (by decide) h6).trans (by decide))
  have he := foldl_feed_inj (hx ▸ hlt) h
  rw [he, Nat.xor_self] at hx
  have hr : zipWith (· ^^^ ·) p q = replicate p.length 0 := by
    refine number_inj (b := 32) (by decide) (by simp [hl]) hz ?_ (hx.trans ?_)
    · intro c hc
      rw [eq_of_mem_replicate hc]
      decide
    · induction p.length with
      | zero => rfl
      | succ n ih => exact ih
  apply ext_getElem hl
  intro i h₁ h₂
  have hi := congrArg (·[i]?) hr
  exact eq_of_xor_eq_zero (by simpa [h₁, h₂] using hi)

lemma dataWords_append {a b : Text} {values : List Nat} (h : dataWords (a ++ b) = some values) :
    ∃ v w, dataWords a = some v ∧ dataWords b = some w ∧ v ++ w = values := by
  simp only [dataWords, mapM_append, run_gives] at h
  obtain ⟨v, hv, w, hw, rfl⟩ := h
  exact ⟨v, w, hv, hw, rfl⟩

/-- One expansion, and data that differ within six characters. -/
lemma typed_eq {expanded v w : List Nat} (hl : typed.length = mistyped.length)
    (h6 : typed.length ≤ 6) (hv : dataWords (before ++ typed ++ after) = some v)
    (hw : dataWords (before ++ mistyped ++ after) = some w)
    (h : bech32Polymod (expanded ++ v) = bech32Polymod (expanded ++ w)) : typed = mistyped := by
  obtain ⟨_, va, hbt, ha, rfl⟩ := dataWords_append hv
  obtain ⟨vb, vt, hb, ht, rfl⟩ := dataWords_append hbt
  obtain ⟨_, wa, hbt', ha', rfl⟩ := dataWords_append hw
  obtain ⟨wb, wt, hb', ht', rfl⟩ := dataWords_append hbt'
  obtain rfl := some.inj (hb.symm.trans hb')
  obtain rfl := some.inj (ha.symm.trans ha')
  obtain ⟨hs, hlt⟩ := spell_dataWords ht
  obtain ⟨hs', hlt'⟩ := spell_dataWords ht'
  simp only [← append_assoc] at h
  rw [← hs, ← hs', polymod_burst (by omega) (hlt.trans_le h6) (dataWords_lt ht) (dataWords_lt ht') h]

/-- A typing error within six adjacent characters is detected, if it is more than another case. -/
theorem lnurl_detects_burst (protocol : Text → Option Text) {url : Text}
    (hl : typed.length = mistyped.length) (h6 : typed.length ≤ 6)
    (hne : toLowerCase typed ≠ toLowerCase mistyped)
    (h : decodeLnurl protocol (before ++ typed ++ after) = some url) :
    decodeLnurl protocol (before ++ mistyped ++ after) = none := by
  rw [eq_none_iff_forall_ne_some]
  intro other h'
  obtain ⟨-, -, ⟨_, data⟩, hs, ⟨rfl, -⟩, v, hv, hp, -⟩ := decodeLnurl_eq_some.1 h
  obtain ⟨-, -, ⟨_, data'⟩, hs', ⟨rfl, -⟩, w, hw, hp', -⟩ := decodeLnurl_eq_some.1 h'
  have he := (splitSeparator_eq_some hs).1
  have he' := (splitSeparator_eq_some hs').1
  simp only [toLowerCase, map_append] at he he'
  have hk : (map lowerChar typed).length = (map lowerChar mistyped).length := by simp [hl]
  -- What differs behind the prefix is in the data.
  have hd := congrArg (drop 6) he
  have hd' := congrArg (drop 6) he'
  simp only [drop_append, length_append, ← hk] at hd hd'
  change _ = data at hd
  change _ = data' at hd'
  have ht := typed_eq (by simp [hl]) (by rw [length_drop, length_map]; omega) (hd ▸ hv) (hd' ▸ hw)
    (hp.trans hp'.symm)
  rw [ht] at hd
  obtain rfl := hd.symm.trans hd'
  exact hne (append_cancel_left (append_cancel_right (he.trans he'.symm)))

/-- `new URL(url).protocol` of a secure address. -/
def secureProtocol (url : Text) : Option Text :=
  if startsWith url "https:" then some "https:".toList else none

theorem lnurl_detects_burst_swapped :
    decodeLnurl secureProtocol ("lnurl1dp68g".toList ++ "ru".toList ++ "n8ghj7cfwvg8cuzpc".toList) =
      none := by
  have he : "lnurl1dp68g".toList ++ "ur".toList ++ "n8ghj7cfwvg8cuzpc".toList =
    encodeLnurl "https://a.b" := by decide +kernel
  have h : decodeLnurl secureProtocol (encodeLnurl "https://a.b") = some "https://a.b" :=
    decodeLnurl_encodeLnurl (by decide)
  exact lnurl_detects_burst _ (by decide) (by decide) (by decide) (he ▸ h)

lemma splitSeparator_append {hrp data : Text} (h : '1' ∉ data) :
    splitSeparator (hrp ++ '1' :: data) = some (hrp, data) := by
  induction hrp with
  | nil =>
    have hs := splitSeparator_spec data
    cases hr : splitSeparator data with
    | none => simp [splitSeparator, hr]
    | some parts =>
      rw [hr] at hs
      exact absurd (hs.1 ▸ mem_append_right _ mem_cons_self) h
  | cons c hrp ih => rw [cons_append, splitSeparator, ih]

lemma isValid_append {hrp data : Text} (hd : '1' ∉ data)
    (h : isValidBech32Invoice (hrp ++ '1' :: data) = true) : ∃ values,
    dataWords data = some values ∧ bech32Polymod (bech32HrpExpand hrp ++ values) = 1 := by
  simp only [isValidBech32Invoice, splitSeparator_append hd, Option.any_some, Option.any_eq_true,
    decide_eq_true_eq] at h
  exact h.2.2.2

lemma codeUnits_digits {digits : Text} (h : digits.all isDigitChar = true) :
    (codeUnits digits).length = digits.length ∧ ∀ n ∈ codeUnits digits, n / 32 = 1 := by
  induction digits with
  | nil => exact ⟨rfl, fun n hn => absurd hn not_mem_nil⟩
  | cons c digits ih =>
    simp only [all_cons, isDigitChar, Bool.and_eq_true, decide_eq_true_eq] at h
    obtain ⟨hl, hd⟩ := ih (by simpa [isDigitChar] using h.2)
    have he : codeUnits (c :: digits) = c.toNat :: codeUnits digits := by
      simp [codeUnits, show c.toNat < 0x10000 by omega]
    rw [he]
    exact ⟨congrArg (· + 1) hl, forall_mem_cons.2 ⟨by omega, hd⟩⟩

end

end Conduit.Lnurl
