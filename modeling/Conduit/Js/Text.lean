import Mathlib.Algebra.GroupWithZero.Nat
import Mathlib.Algebra.Ring.Int.Defs
import Mathlib.Data.List.DropRight

namespace Conduit.Js

open List Bool

/-- A JavaScript string, as the list of its characters. -/
abbrev Text := List Char

instance lawfulBEqText : LawfulBEq Text := List.instLawfulBEq

/-- Decided on the option; the characters are not gone through. -/
instance decidableExistsHead {p : Char → Prop} [DecidablePred p] (o : Option Char) :
    Decidable (∃ c ∈ o, p c) :=
  Option.decidableExistsMem o

instance : Coe String Text := ⟨String.toList⟩

/-- `String(n)` of an integer. -/
def numberText (n : Int) : Text :=
  if n < 0 then '-' :: Nat.toDigits 10 n.natAbs else Nat.toDigits 10 n.natAbs

variable {c : Char}

lemma not_mem_toDigits (hc : c.isDigit = false) (n : Nat) : c ∉ Nat.toDigits 10 n := by
  intro hm
  have := Nat.isDigit_of_mem_toDigits (by omega) (by omega) hm
  rw [hc] at this
  cases this

lemma numberText_inj {n m : Int} (h : numberText n = numberText m) : n = m := by
  have hd : ∀ {a b : Nat}, Nat.toDigits 10 a = Nat.toDigits 10 b → a = b := by
    intro a b hab
    rw [← Nat.ofDigitChars_ten_toDigits (n := a), hab, Nat.ofDigitChars_ten_toDigits]
  have hs : ∀ {a b : Nat}, '-' :: Nat.toDigits 10 a ≠ Nat.toDigits 10 b := by
    intro a b hab
    exact not_mem_toDigits (c := '-') (by decide) b (hab ▸ .head _)
  unfold numberText at h
  by_cases hn : n < 0 <;> by_cases hm : m < 0
  · rw [if_pos hn, if_pos hm, cons.injEq] at h
    have := hd h.2
    omega
  · rw [if_pos hn, if_neg hm] at h
    exact absurd h hs
  · rw [if_neg hn, if_pos hm] at h
    exact absurd h.symm hs
  · rw [if_neg hn, if_neg hm] at h
    have := hd h
    omega

variable (s : Text)

/-- `new TextEncoder().encode(s).byteLength`. -/
def utf8ByteLength : Nat := (s.map Char.utf8Size).sum

/-- `Number.MAX_SAFE_INTEGER`. -/
def maxSafeInteger : Int := 9007199254740991

/-- `Number.isSafeInteger` on the integers of a JavaScript number. -/
def IsSafeInteger (n : Int) : Prop := -9007199254740991 ≤ n ∧ n ≤ 9007199254740991
  deriving Decidable

/-- The white space and line terminators that `trim` removes. -/
def isSpace (c : Char) : Bool :=
  let n := c.toNat
  (9 ≤ n && n ≤ 13) || n == 32 || n == 0xA0 || n == 0x1680 || (0x2000 ≤ n && n ≤ 0x200A) ||
    n == 0x2028 || n == 0x2029 || n == 0x202F || n == 0x205F || n == 0x3000 || n == 0xFEFF

def trim : Text := (s.dropWhile isSpace).rdropWhile isSpace

/-- The Kelvin sign is the one character beyond ASCII whose lower case is an ASCII letter. -/
def lowerChar (c : Char) : Char :=
  if c.toNat = 0x212A then 'k'
  else if 65 ≤ c.toNat ∧ c.toNat ≤ 90 then Char.ofNat (c.toNat + 32)
  else c

def toLowerCase : Text := s.map lowerChar

/-- `s.length`: the number of UTF-16 code units. -/
def length : Nat := (s.map fun c => if c.toNat < 0x10000 then 1 else 2).sum

def isHexChar (c : Char) : Bool :=
  (48 ≤ c.toNat && c.toNat ≤ 57) || (97 ≤ c.toNat && c.toNat ≤ 102)

/-- `/^[0-9a-f]{64}$/`. -/
def IsHex64 : Prop := s.length = 64 ∧ s.all isHexChar = true
  deriving Decidable

/-- `/^(02|03)[0-9a-f]{64}$/`. -/
def IsCompressedPubkey : Prop :=
  match s with
  | '0' :: c :: rest => (c = '2' ∨ c = '3') ∧ rest.length = 64 ∧ rest.all isHexChar = true
  | _ => False

instance (s : Text) : Decidable (IsCompressedPubkey s) := by
  unfold IsCompressedPubkey; split <;> infer_instance

def startsWith (s start : Text) : Bool := start.isPrefixOf s

/-- `s.split(c)` on one character. -/
def split (c : Char) : Text → List Text
  | [] => [[]]
  | d :: l =>
    if d = c then [] :: split c l
    else match split c l with
      | [] => [[d]]
      | part :: parts => (d :: part) :: parts

lemma dropWhile_of_prefix {l m : Text} (h : l <+: m)
    (hm : m.dropWhile isSpace = m) : l.dropWhile isSpace = l := by
  obtain ⟨k, rfl⟩ := h
  rw [dropWhile_eq_self_iff] at hm ⊢
  intro hl
  have := hm (by rw [length_append]; omega)
  rwa [getElem_append_left hl] at this

@[simp] lemma trim_idem (s : Text) : trim (trim s) = trim s := by
  have hh : (trim s).dropWhile isSpace = trim s :=
    dropWhile_of_prefix (List.rdropWhile_prefix _ _) (dropWhile_idempotent _ _)
  rw [trim, hh]
  exact rdropWhile_idempotent _ _

lemma toNat_lowerChar (c : Char) : (lowerChar c).toNat = if c.toNat = 0x212A then 107
      else if 65 ≤ c.toNat ∧ c.toNat ≤ 90 then c.toNat + 32 else c.toNat := by
  unfold lowerChar
  split_ifs with h₁ h₂
  · rfl
  · have hv : (c.toNat + 32).isValidChar := .inl (by omega)
    rw [Char.ofNat, dif_pos hv]
    rfl
  · rfl

lemma lowerChar_idem (c : Char) : lowerChar (lowerChar c) = lowerChar c := by
  rw [← Char.toNat_inj]
  rw [toNat_lowerChar (lowerChar c), toNat_lowerChar c]
  split_ifs <;> omega

@[simp] lemma toLowerCase_idem (s : Text) : toLowerCase (toLowerCase s) = toLowerCase s := by
  simp only [toLowerCase, map_map]
  exact map_congr_left fun c _ => lowerChar_idem c

section

variable (h : isHexChar c = true)
include h

lemma isHexChar_toNat : 48 ≤ c.toNat ∧ c.toNat ≤ 57 ∨ 97 ≤ c.toNat ∧ c.toNat ≤ 102 := by
  simpa [isHexChar] using h

lemma lowerChar_of_isHexChar : lowerChar c = c := by
  rw [← Char.toNat_inj, toNat_lowerChar]
  have := isHexChar_toNat h
  split_ifs <;> omega

lemma not_isSpace_of_isHexChar : isSpace c = false := by
  have := isHexChar_toNat h
  simp only [isSpace, or_eq_false_iff, and_eq_false_iff, decide_eq_false_iff_not,
    beq_eq_false_iff_ne]
  omega

end

lemma trim_of_forall {s : Text} (h : ∀ c ∈ s, isSpace c = false) : trim s = s := by
  have hd : s.dropWhile isSpace = s := by
    cases s with
    | nil => rfl
    | cons c s => rw [dropWhile_cons_of_neg]; simp [h c mem_cons_self]
  unfold trim
  rw [hd, rdropWhile, dropWhile_eq_self_iff.2, reverse_reverse]
  intro hp
  have hm := getElem_mem hp
  rw [mem_reverse] at hm
  simpa only [not_eq_true] using h _ hm

lemma trim_of_all_isHexChar {s : Text} (h : s.all isHexChar = true) : trim s = s :=
  trim_of_forall fun c hc => not_isSpace_of_isHexChar (all_eq_true.1 h c hc)

lemma length_le (s : Text) : length s ≤ 2 * s.length := by
  unfold length
  induction s with
  | nil => simp
  | cons c s ih =>
    rw [map_cons, sum_cons, length_cons]
    split <;> omega

def positional (digits : Text) : Nat → Nat → Text
  | 0, _ => []
  | width + 1, n =>
    digits.getD (n / digits.length ^ width % digits.length) ' ' :: positional digits width n

def hexText : Nat → Nat → Text := positional "0123456789abcdef"

def bech32Text : Nat → Nat → Text := positional "qpzry9x8gf2tvdw0s3jn54khce6mua7l"

end Conduit.Js
