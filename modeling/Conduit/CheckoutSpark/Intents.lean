import Conduit.CheckoutSpark.Steps

namespace Conduit.CheckoutSpark

open Js Throwing Option List

/-- One normalisation leaves the request in its final form. -/
def AcceptedRequest (request : Text) : Prop := IsCanonicalRequest (canonicalPaymentRequest request)

variable {r s : Text} {c : Char}

lemma acceptedRequest_of_canonical (h : IsCanonicalRequest r) : AcceptedRequest r := by
  unfold AcceptedRequest
  rw [show canonicalPaymentRequest r = r from h]
  exact h

lemma isSpace_lowerChar (h : isSpace c = false) : isSpace (lowerChar c) = false := by
  have hc := toNat_lowerChar c
  simp only [isSpace, Bool.or_eq_false_iff, Bool.and_eq_false_iff, decide_eq_false_iff_not,
    beq_eq_false_iff_ne] at h ⊢
  rw [hc]
  split_ifs <;> omega

lemma trim_eq_self (hh : ∀ c ∈ s.head?, isSpace c = false)
    (hl : ∀ c ∈ s.getLast?, isSpace c = false) : trim s = s := by
  have hd : s.dropWhile isSpace = s := by
    cases s with
    | nil => rfl
    | cons c s => exact dropWhile_cons_of_neg (by simp [hh c rfl])
  have hr : s.rdropWhile isSpace = s := by
    rw [rdropWhile_eq_self_iff]
    intro hne
    have := hl _ (getLast?_eq_some_getLast hne)
    simp [this]
  rw [trim, hd, hr]

lemma isSpace_getLast_trim (h : (trim s).getLast? = some c) : isSpace c = false := by
  unfold trim at h
  have hne : (s.dropWhile isSpace).rdropWhile isSpace ≠ [] := by
    intro hn
    rw [hn] at h
    cases h
  have hnot := rdropWhile_last_not isSpace (s.dropWhile isSpace) hne
  rw [getLast?_eq_some_getLast hne] at h
  cases h
  simpa using hnot

lemma acceptedRequest_of_prefix (h : hasBolt11Prefix (canonicalPaymentRequest r) = true) :
    AcceptedRequest r := by
  have hsta : ∃ c rest, canonicalPaymentRequest r = 'l' :: 'n' :: c :: rest := by
    simp only [hasBolt11Prefix, startsWith, Bool.or_eq_true, isPrefixOf_iff_prefix] at h
    obtain ((⟨rest, hr⟩ | ⟨rest, hr⟩) | ⟨rest, hr⟩) := h
    · exact ⟨'b', 'c' :: rest, hr.symm⟩
    · exact ⟨'t', 'b' :: rest, hr.symm⟩
    · exact ⟨'s', 'b' :: rest, hr.symm⟩
  have hl : ∀ c ∈ (canonicalPaymentRequest r).getLast?, isSpace c = false := by
    intro c hc
    have hm : (canonicalPaymentRequest r).getLast? =
        (stripLightningScheme (trim r)).getLast?.map lowerChar := getLast?_map
    rw [mem_def, hm] at hc
    obtain ⟨d, hd, rfl⟩ := map_eq_some_iff.1 hc
    apply isSpace_lowerChar
    unfold stripLightningScheme at hd
    split at hd
    · rw [getLast?_drop] at hd
      split at hd
      · cases hd
      · exact isSpace_getLast_trim hd
    · exact isSpace_getLast_trim hd
  obtain ⟨c, rest, hr⟩ := hsta
  have ht : trim (canonicalPaymentRequest r) = canonicalPaymentRequest r := by
    refine trim_eq_self ?_ hl
    rw [hr]
    rintro d ⟨⟩
    decide
  have hs : stripLightningScheme (canonicalPaymentRequest r) = canonicalPaymentRequest r := by
    rw [hr]
    apply if_neg
    intro hsch
    have hsnd : some (lowerChar 'n') = lightningScheme[1]? :=
      congrArg (fun l : Text => l[1]?) hsch
    revert hsnd
    decide
  unfold AcceptedRequest IsCanonicalRequest
  conv_lhs => rw [canonicalPaymentRequest, normalizeLightningInvoice, ht, hs]
  exact toLowerCase_idem _

section
variable {P : Platform} {plan : SettledPlan} {legId : Text} {alloc : Option Int}
  {input intent : LegIntent} {gen : Nat}

lemma normalizeInvoice_accepted {req hash : Text} {amountSats at_ : Int}
    {network : Network} {i : NormalizedInvoice}
    (h : normalizeInvoice P req hash amountSats network at_ = .ok i) :
    AcceptedRequest i.paymentRequest := by
  have hr := (normalizeInvoice_ok h).1
  simp only [normalizeInvoice, run_ok, not_or, Bool.not_eq_false] at h
  obtain ⟨r, ht, ⟨hv, -⟩, -⟩ := h
  obtain rfl := text_eq ht
  rw [hr]
  apply acceptedRequest_of_prefix
  unfold isValidLightningInvoice parseBolt11Invoice at hv
  dsimp only at hv
  split at hv
  · rename_i fields hf
    split at hf
    · cases hf
    · split at hf
      · assumption
      · cases hf
  · cases hv

variable {rcp : SettledRecipient}

lemma restoreIntentZap_eq {amount at_ : Int} {req : Text} {zap z : PublicZapContext}
    (h : restoreIntentZap P plan rcp amount at_ req zap = .ok z) : z = zap := by
  unfold restoreIntentZap at h
  split at h
  · cases h
  · simp only [rejects_ok] at h
    exact restorePublicZapContext_eq h.2

lemma assertReceiverBinding_eq {zap : Option PublicZapContext} {binding b : ReceiverBinding}
    (h : assertReceiverBinding P rcp zap binding = .ok b) : b = binding := by
  simp only [assertReceiverBinding, run_ok] at h
  obtain ⟨b', hb, -, rfl⟩ := h
  exact freezeReceiverBinding_eq hb

section

variable (h : normalizeIntent P plan legId alloc input gen = .ok intent)
include h

lemma normalizeIntent_eq :
    intent = { input with paymentRequest := canonicalPaymentRequest input.paymentRequest } ∧
      input.legId = legId ∧ AcceptedRequest intent.paymentRequest ∧
      NonnegativeSafe intent.preparedAt ∧ ∃ a, alloc = some a := by
  simp only [normalizeIntent, run_ok, not_not, ne_eq] at h
  obtain ⟨hl, transferId, htran, heq, h⟩ := h
  split at h
  · cases h
  · rename_i a
    simp only [run_ok, requireSome_ok] at h
    obtain ⟨amount, ha, fee, hf, at_, hat, -, invoice, hi, rcp, hrcp, zap,
      hz, binding, hb, rfl⟩ := h
    obtain rfl := sats_eq ha
    obtain rfl := sats_eq hf
    obtain ⟨rfl, ht⟩ := time_ok_iff.1 hat
    obtain rfl : zap = input.publicZap :=
      optionResult_eq_self (fun _ _ => restoreIntentZap_eq) hz
    obtain rfl : binding = input.receiverBinding :=
      optionResult_eq_self (fun _ _ => assertReceiverBinding_eq) hb
    obtain ⟨hr, hh⟩ := normalizeInvoice_ok hi
    refine ⟨?_, hl, normalizeInvoice_accepted hi, ht, a, rfl⟩
    rw [hr, hh, ← hl]

lemma normalizeIntent_idem (hc : IsCanonicalRequest intent.paymentRequest) :
    normalizeIntent P plan legId alloc intent gen = .ok intent := by
  have heq := (normalizeIntent_eq h).1
  subst heq
  have hr : canonicalPaymentRequest (canonicalPaymentRequest input.paymentRequest) =
      canonicalPaymentRequest input.paymentRequest := hc
  rw [← h]
  simp only [normalizeIntent, normalizeInvoice, hr]

end

end

end Conduit.CheckoutSpark
