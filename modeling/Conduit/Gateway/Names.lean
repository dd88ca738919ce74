import Conduit.Js.Json
import Conduit.Platform

namespace Conduit.Gateway

open Js Throwing List

/-- What the runtime and the signature libraries provide; a reader that throws is `none`. -/
structure GatewayPlatform where
  (pathname search : Text → Text)
  isPoint : Text → Bool
  addressRequestHash : Text → Text
  verify : Text → Text → Text → Bool
  verifyEvent : JsonValue → Bool
  parse : Text → Option JsonValue
  stringify : List Text → Text
  atob : Text → Option Text

structure ApprovedName where
  (name ownerPubkey sparkIdentity : Text)
  registration : Bool
  replaces : Option Text
  deleteUntil : Option Int
  transferFrom : Option Text
  transferUntil : Option Int
  deriving DecidableEq

def isNameChar (c : Char) : Bool :=
  (97 ≤ c.toNat && c.toNat ≤ 122) || (48 ≤ c.toNat && c.toNat ≤ 57) || c == '_' || c == '-'

/-- `/^[a-z0-9_-]+(?:\.[a-z0-9_-]+)*$/` of at most 64 characters. -/
def ValidName (value : Text) : Prop :=
  Js.length value ≤ 64 ∧ ∀ part ∈ split '.' value, part ≠ [] ∧ part.all isNameChar = true
  deriving Decidable

variable (P : GatewayPlatform)

def ValidSparkIdentity (value : Text) : Prop :=
  IsCompressedPubkey value ∧ P.isPoint value = true
  deriving Decidable

def ValidUntil (bound : Option Int) : Prop := ∀ u ∈ bound, IsSafeInteger u ∧ 0 < u
  deriving Decidable

def ValidApproval (n : ApprovedName) : Prop :=
  ValidName n.name ∧ ValidSparkIdentity P n.sparkIdentity ∧ IsHex64 n.ownerPubkey ∧
    (∀ name ∈ n.replaces, ValidName name) ∧
    (∀ source ∈ n.transferFrom, ValidSparkIdentity P source) ∧
    ValidUntil n.deleteUntil ∧ ValidUntil n.transferUntil ∧
    n.transferFrom.isNone = n.transferUntil.isNone
  deriving Decidable

def checkNames (used : List Text) : List ApprovedName → Result Unit
  | [] => .ok ()
  | n :: names => do
    reject (n.name ∈ used ∨ ¬ ValidApproval P n) (.error "Invalid approved-name registry.")
    checkNames (n.name :: used) names

def validateApprovedNames (names : List ApprovedName) : Result Unit := do
  checkNames P [] names
  let registrations := (names.filter (·.registration)).map (·.sparkIdentity)
  reject (¬ registrations.Nodup) (.error "Conflicting wallet approvals.")

variable {P} {names : List ApprovedName}

lemma checkNames_ok {used : List Text} :
    checkNames P used names = .ok () ↔ (∀ n ∈ names, ValidApproval P n) ∧
      (names.map ApprovedName.name).Nodup ∧ ∀ n ∈ names, n.name ∉ used := by
  induction names generalizing used with
  | nil => simp only [checkNames, not_mem_nil, map_nil, nodup_nil]; tauto
  | cons n names ih =>
    simp only [checkNames, rejects_ok, ih, mem_cons, forall_eq_or_imp, map_cons,
      nodup_cons, mem_map, not_or, not_not]
    constructor
    · rintro ⟨⟨hu, hv⟩, hr, hnd, hn⟩
      refine ⟨⟨hv, hr⟩, ⟨?_, hnd⟩, hu, fun m hm => (hn m hm).2⟩
      rintro ⟨m, hm, hna⟩
      exact (hn m hm).1 hna
    · rintro ⟨⟨hv, hr⟩, ⟨hf, hnd⟩, hu, hn⟩
      exact ⟨⟨hu, hv⟩, hr, hnd, fun m hm => ⟨fun hna => hf ⟨m, hm, hna⟩, hn m hm⟩⟩

lemma valid_of_validateApprovedNames (h : validateApprovedNames P names = .ok ()) :
    ∀ n ∈ names, ValidApproval P n := by
  obtain ⟨u, hc, -⟩ := bind_ok.1 h
  exact (checkNames_ok.1 hc).1

variable {value : Text} {c : Char}

lemma isNameChar_ne_newline (h : isNameChar c = true) : c ≠ '\n' := by
  rintro rfl
  revert h
  decide

lemma ValidName.newline_not_mem (h : ValidName value) : '\n' ∉ value := by
  intro hm
  obtain ⟨part, hp, hin⟩ := exists_mem_split (c := '.') hm (by decide)
  exact isNameChar_ne_newline (all_eq_true.1 (h.2 part hp).2 _ hin) rfl

lemma isHexChar_ne_newline (h : isHexChar c = true) : c ≠ '\n' := by
  rintro rfl
  revert h
  decide

lemma newline_not_mem_of_isCompressedPubkey (h : IsCompressedPubkey value) : '\n' ∉ value := by
  unfold IsCompressedPubkey at h
  split at h
  next c rest =>
    obtain ⟨hc, -, ha⟩ := h
    intro hm
    rcases mem_cons.1 hm with hf | hm
    · exact absurd hf (by decide)
    rcases mem_cons.1 hm with rfl | hr
    · rcases hc with hc | hc <;> exact absurd hc (by decide)
    · exact isHexChar_ne_newline (all_eq_true.1 ha _ hr) rfl
  · exact h.elim

lemma newline_not_mem_numberText (n : Int) : '\n' ∉ numberText n := by
  unfold numberText
  have hd := not_mem_toDigits (c := '\n') (by decide) n.natAbs
  split
  · intro hm
    rcases mem_cons.1 hm with hf | hr
    · exact absurd hf (by decide)
    · exact hd hr
  · exact hd

end Conduit.Gateway
