import Conduit.Js.Text
import Mathlib.Tactic.IntervalCases

namespace Conduit.Js

open List Option

def utf8Bytes (c : Char) : List Nat :=
  let n := c.toNat
  if n < 0x80 then [n]
  else if n < 0x800 then [0xC0 + n / 64, 0x80 + n % 64]
  else if n < 0x10000 then [0xE0 + n / 4096, 0x80 + n / 64 % 64, 0x80 + n % 64]
  else [0xF0 + n / 262144, 0x80 + n / 4096 % 64, 0x80 + n / 64 % 64, 0x80 + n % 64]

def isContinuation (b : Nat) : Bool := decide (0x80 ≤ b ∧ b < 0xC0)

/-- A code point that must be at least as large as its number of bytes tells. -/
def charFrom (least n : Nat) : Option Char :=
  if least ≤ n ∧ n.isValidChar then some (Char.ofNat n) else none

/-- Overlong forms, surrogates and lone continuations are refused. -/
def decodeUtf8 : List Nat → Option Text
  | [] => some []
  | a :: rest =>
    if a < 0x80 then do
      let t ← decodeUtf8 rest
      return Char.ofNat a :: t
    else match rest with
      | [] => none
      | b :: rest =>
        if ¬ isContinuation b then none
        else if 0xC0 ≤ a ∧ a < 0xE0 then do
          let c ← charFrom 0x80 ((a - 0xC0) * 64 + (b - 0x80))
          let t ← decodeUtf8 rest
          return c :: t
        else match rest with
          | [] => none
          | c :: rest =>
            if ¬ isContinuation c then none
            else if 0xE0 ≤ a ∧ a < 0xF0 then do
              let c ← charFrom 0x800 ((a - 0xE0) * 4096 + (b - 0x80) * 64 + (c - 0x80))
              let t ← decodeUtf8 rest
              return c :: t
            else match rest with
              | [] => none
              | d :: rest =>
                if ¬ isContinuation d then none
                else if 0xF0 ≤ a ∧ a < 0xF8 then do
                  let c ← charFrom 0x10000 ((a - 0xF0) * 262144 + (b - 0x80) * 4096 +
                    (c - 0x80) * 64 + (d - 0x80))
                  let t ← decodeUtf8 rest
                  return c :: t
                else none

variable {c : Char}

lemma charFrom_toNat {least : Nat} (h : least ≤ c.toNat) : charFrom least c.toNat = some c := by
  rw [charFrom, if_pos ⟨h, c.valid⟩, Char.ofNat_toNat]

lemma toNat_lt (c : Char) : c.toNat < 0x110000 := by
  rcases c.valid with h | h
  · exact lt_trans h (by decide)
  · exact h.2

lemma decodeUtf8_bytes (c : Char) (rest : List Nat) :
    decodeUtf8 (utf8Bytes c ++ rest) = (decodeUtf8 rest).map (c :: ·) := by
  have hlt := toNat_lt c
  have hc : ∀ n, isContinuation (0x80 + n % 64) = true := by
    simp only [isContinuation, decide_eq_true_eq]
    omega
  unfold utf8Bytes
  simp only
  split_ifs with h₁ h₂ h₃
  · rw [singleton_append, decodeUtf8.eq_def]
    simp only [if_pos h₁, Char.ofNat_toNat]
    cases decodeUtf8 rest <;> rfl
  · have hn : (0xC0 + c.toNat / 64 - 0xC0) * 64 + (0x80 + c.toNat % 64 - 0x80) = c.toNat := by
      omega
    rw [cons_append, singleton_append, decodeUtf8.eq_def]
    simp only [hc, not_true_eq_false, if_false]
    rw [if_neg (by omega), if_pos (by omega), hn, charFrom_toNat (by omega)]
    cases decodeUtf8 rest <;> rfl
  · have hn : (0xE0 + c.toNat / 4096 - 0xE0) * 4096 + (0x80 + c.toNat / 64 % 64 - 0x80) * 64 +
        (0x80 + c.toNat % 64 - 0x80) = c.toNat := by omega
    rw [cons_append, cons_append, singleton_append, decodeUtf8.eq_def]
    simp only [hc, not_true_eq_false, if_false]
    rw [if_neg (by omega), if_neg (by omega), if_pos (by omega), hn, charFrom_toNat (by omega)]
    cases decodeUtf8 rest <;> rfl
  · have hn : (0xF0 + c.toNat / 262144 - 0xF0) * 262144 +
        (0x80 + c.toNat / 4096 % 64 - 0x80) * 4096 + (0x80 + c.toNat / 64 % 64 - 0x80) * 64 +
        (0x80 + c.toNat % 64 - 0x80) = c.toNat := by omega
    rw [cons_append, cons_append, cons_append, singleton_append, decodeUtf8.eq_def]
    simp only [hc, not_true_eq_false, if_false]
    rw [if_neg (by omega), if_neg (by omega), if_neg (by omega), if_pos (by omega), hn,
      charFrom_toNat (by omega)]
    cases decodeUtf8 rest <;> rfl

lemma decodeUtf8_text (t : Text) : decodeUtf8 (t.flatMap utf8Bytes) = some t := by
  induction t with
  | nil => rfl
  | cons c t ih => rw [flatMap_cons, decodeUtf8_bytes, ih]; rfl

/-- A hexadecimal digit, as an escape is written. -/
def hexDigit (n : Nat) : Char := "0123456789ABCDEF".toList.getD n '0'

/-- A digit of either case, as an escape is read. -/
def hexValue (c : Char) : Option Nat :=
  if '0' ≤ c ∧ c ≤ '9' then some (c.toNat - 48)
  else if 'A' ≤ c ∧ c ≤ 'F' then some (c.toNat - 55)
  else if 'a' ≤ c ∧ c ≤ 'f' then some (c.toNat - 87)
  else none

/-- The characters that are not escaped. -/
def isUnreserved (c : Char) : Bool :=
  c.isAlphanum || "-_.!~*'()".toList.contains c

def escape (b : Nat) : Text := ['%', hexDigit (b / 16), hexDigit (b % 16)]

def encodeURIComponent (t : Text) : Text :=
  t.flatMap fun c => if isUnreserved c then [c] else (utf8Bytes c).flatMap escape

def unescape : Text → Option (List Nat)
  | [] => some []
  | [c] => if c = '%' then none else some (utf8Bytes c)
  | [c, d] => if c = '%' ∨ d = '%' then none else some (utf8Bytes c ++ utf8Bytes d)
  | c :: h :: l :: rest =>
    if c = '%' then do
      let high ← hexValue h
      let low ← hexValue l
      let bytes ← unescape rest
      return (16 * high + low) :: bytes
    else do
      let bytes ← unescape (h :: l :: rest)
      return utf8Bytes c ++ bytes

/-- Nothing where the function throws. -/
def decodeURIComponent (t : Text) : Option Text := (unescape t).bind decodeUtf8

lemma unescape_cons (hc : c ≠ '%') (t : Text) :
    unescape (c :: t) = (unescape t).map (utf8Bytes c ++ ·) := by
  match t with
  | [] => simp [unescape, hc]
  | [d] =>
    by_cases hd : d = '%' <;> simp [unescape, hc, hd]
  | h :: l :: rest =>
    rw [unescape, if_neg hc]
    cases unescape (h :: l :: rest) <;> rfl

lemma hexValue_hexDigit {n : Nat} (h : n < 16) : hexValue (hexDigit n) = some n := by
  interval_cases n <;> decide

lemma unescape_escape {b : Nat} (h : b < 256) (t : Text) :
    unescape (escape b ++ t) = (unescape t).map (b :: ·) := by
  show unescape ('%' :: hexDigit (b / 16) :: hexDigit (b % 16) :: t) = _
  rw [unescape, if_pos rfl, hexValue_hexDigit (by omega), hexValue_hexDigit (by omega)]
  have hb : 16 * (b / 16) + b % 16 = b := by omega
  cases unescape t with
  | none => rfl
  | some bytes => exact congrArg some (congrArg (· :: bytes) hb)

lemma utf8Bytes_lt (c : Char) : ∀ b ∈ utf8Bytes c, b < 256 := by
  have hlt := toNat_lt c
  unfold utf8Bytes
  simp only
  split_ifs <;> simp only [mem_cons, not_mem_nil, or_false] <;> intro b hb <;> omega

lemma unescape_escapes {bytes : List Nat} (h : ∀ b ∈ bytes, b < 256) (t : Text) :
    unescape (bytes.flatMap escape ++ t) = (unescape t).map (bytes ++ ·) := by
  induction bytes with
  | nil => cases h : unescape t <;> simp [h]
  | cons b bytes ih =>
    rw [flatMap_cons, append_assoc, unescape_escape (h b mem_cons_self),
      ih fun c hc => h c (mem_cons_of_mem _ hc)]
    cases unescape t <;> rfl

lemma unescape_encode (t : Text) :
    unescape (encodeURIComponent t) = some (t.flatMap utf8Bytes) := by
  induction t with
  | nil => rfl
  | cons c t ih =>
    have hco : encodeURIComponent (c :: t) =
        (if isUnreserved c then [c] else (utf8Bytes c).flatMap escape) ++ encodeURIComponent t :=
      flatMap_cons ..
    rw [hco, flatMap_cons]
    split_ifs with hc
    · have hne : c ≠ '%' := by
        rintro rfl
        exact absurd hc (by decide)
      rw [singleton_append, unescape_cons hne, ih]
      rfl
    · rw [unescape_escapes (utf8Bytes_lt c), ih]
      rfl

lemma decode_encode (t : Text) : decodeURIComponent (encodeURIComponent t) = some t := by
  rw [decodeURIComponent, unescape_encode, bind_some, decodeUtf8_text]

lemma encodeURIComponent_inj {s t : Text} (h : encodeURIComponent s = encodeURIComponent t) :
    s = t := by
  have hs := decode_encode s
  rw [h, decode_encode] at hs
  exact (some_inj.1 hs).symm

lemma not_mem_encode (hc : isUnreserved c = false) (hp : c ≠ '%')
    (hh : ∀ n < 16, hexDigit n ≠ c) (t : Text) : c ∉ encodeURIComponent t := by
  intro h
  obtain ⟨d, -, hd⟩ := mem_flatMap.1 h
  split_ifs at hd with hf
  · rw [mem_singleton] at hd
    rw [← hd, hc] at hf
    cases hf
  · obtain ⟨b, hb, hm⟩ := mem_flatMap.1 hd
    have hlt := utf8Bytes_lt d b hb
    simp only [escape, mem_cons, not_mem_nil, or_false] at hm
    rcases hm with h | h | h
    · exact hp h
    · exact hh _ (by omega) h.symm
    · exact hh _ (by omega) h.symm

end Conduit.Js
