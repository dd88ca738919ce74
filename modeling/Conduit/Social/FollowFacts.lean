import Conduit.Network.RelaySets
import Conduit.Social.FollowUpdates

namespace Conduit.Social

open Js CheckoutSpark List Bool

variable {P : SocialPlatform} {a b c e : ListEvent}

def AtLeast (a b : ListEvent) : Prop := ¬ Stronger b a

lemma AtLeast.createdAt (h : AtLeast a b) : b.createdAt ≤ a.createdAt := by
  by_contra hlt
  exact h (.inl (by omega))

lemma AtLeast.refl (a : ListEvent) : AtLeast a a := by
  rintro (hlt | ⟨-, -, hne⟩)
  · omega
  · exact hne rfl

lemma Stronger.atLeast (h : Stronger a b) : AtLeast a b := by
  rintro (hlt | ⟨heq, hle, hne⟩)
  · rcases h with hlt' | ⟨heq, -⟩
    · omega
    · omega
  · rcases h with hlt | ⟨-, hle', hne'⟩
    · omega
    · exact hne (CheckoutSpark.textLe_antisymm hle hle')

lemma AtLeast.trans (hab : AtLeast a b) (hbc : AtLeast b c) : AtLeast a c := by
  have htab := hab.createdAt
  have htbc := hbc.createdAt
  rintro (hlt | ⟨heq, hle, hne⟩)
  · omega
  · have hba : b.createdAt = a.createdAt := by omega
    have hcb : c.createdAt = b.createdAt := by omega
    have hi : TextLe a.id b.id := by
      rcases Std.Total.total (r := TextLe) a.id b.id with hab' | hba'
      · exact hab'
      · by_contra hn
        refine hab (.inr ⟨hba, hba', fun heq => hn ?_⟩)
        rw [heq]
        exact List.le_refl _
    have hid : TextLe b.id c.id := by
      rcases Std.Total.total (r := TextLe) b.id c.id with hbc' | hcb'
      · exact hbc'
      · by_contra hn
        refine hbc (.inr ⟨hcb, hcb', fun heq => hn ?_⟩)
        rw [heq]
        exact List.le_refl _
    exact hne (CheckoutSpark.textLe_antisymm hle (IsTrans.trans (r := TextLe) _ _ _ hi hid))

lemma selectLatest_pair (a b : ListEvent) :
    selectLatestFollowListEvent [a, b] = some (if Stronger b a then b else a) := by
  unfold selectLatestFollowListEvent
  simp only [foldl_cons, foldl_nil]
  split <;> rfl

lemma selectLatest_fold (l : List ListEvent) (best : Option ListEvent)
    (hb : l.foldl (fun best e => match best with
      | none => some e
      | some b => if Stronger e b then some e else some b) best = some e) :
    (best = some e ∨ e ∈ l) ∧ (∀ x, best = some x → AtLeast e x) ∧ ∀ x ∈ l, AtLeast e x := by
  induction l generalizing best with
  | nil =>
    refine ⟨.inl hb, fun x hx => ?_, fun x hx => absurd hx not_mem_nil⟩
    have hxe : x = e := Option.some.inj (hx.symm.trans hb)
    exact hxe ▸ AtLeast.refl x
  | cons y l ih =>
    obtain ⟨hm, hold, ha⟩ := ih _ hb
    cases best with
    | none =>
      have hey := hold y rfl
      refine ⟨.inr ?_, fun x hx => absurd hx nofun, fun x hx => ?_⟩
      · rcases hm with hm | hm
        · exact mem_cons.2 (.inl (Option.some.inj hm).symm)
        · exact .tail _ hm
      · rcases mem_cons.1 hx with rfl | hx
        · exact hey
        · exact ha x hx
    | some z =>
      dsimp only at hm hold
      by_cases hyz : Stronger y z
      · rw [if_pos hyz] at hm hold
        have hey := hold y rfl
        refine ⟨.inr ?_, fun x hx => ?_, fun x hx => ?_⟩
        · rcases hm with hm | hm
          · exact mem_cons.2 (.inl (Option.some.inj hm).symm)
          · exact .tail _ hm
        · cases hx
          exact hey.trans hyz.atLeast
        · rcases mem_cons.1 hx with rfl | hx
          · exact hey
          · exact ha x hx
      · rw [if_neg hyz] at hm hold
        have hez := hold z rfl
        refine ⟨?_, fun x hx => ?_, fun x hx => ?_⟩
        · rcases hm with hm | hm
          · exact .inl hm
          · exact .inr (.tail _ hm)
        · cases hx
          exact hez
        · rcases mem_cons.1 hx with rfl | hx
          · exact hez.trans hyz
          · exact ha x hx

lemma selectLatest_mem {l : List ListEvent} (h : selectLatestFollowListEvent l = some e) :
    e ∈ l := by
  rcases (selectLatest_fold l none h).1 with hn | hm
  · cases hn
  · exact hm

lemma choose_event (left : Option Snapshot) (right : Snapshot) :
    (chooseStrongestOwnContactListSnapshot left right).event = right.event ∨
      left = some (chooseStrongestOwnContactListSnapshot left right) := by
  unfold chooseStrongestOwnContactListSnapshot
  split
  · exact .inl rfl
  · split
    · exact .inl rfl
    · split
      · exact .inl rfl
      · exact .inr rfl

lemma choose_atLeast (left : Option Snapshot) (right : Snapshot) :
    AtLeast (chooseStrongestOwnContactListSnapshot left right).event right.event ∧
      ∀ x, left = some x →
        AtLeast (chooseStrongestOwnContactListSnapshot left right).event x.event := by
  unfold chooseStrongestOwnContactListSnapshot
  split
  · exact ⟨AtLeast.refl _, nofun⟩
  · next x =>
    split
    · next heq =>
      refine ⟨AtLeast.refl _, fun y hy => ?_⟩
      cases hy
      rw [heq]
      exact AtLeast.refl _
    · next hne =>
      rw [selectLatest_pair]
      by_cases hs : Stronger right.event x.event
      · rw [if_pos hs, if_pos rfl]
        refine ⟨AtLeast.refl _, fun y hy => ?_⟩
        cases hy
        exact hs.atLeast
      · rw [if_neg hs, if_neg fun heq => hne (Option.some.inj heq)]
        refine ⟨hs, fun y hy => ?_⟩
        cases hy
        exact AtLeast.refl _

lemma choose_pending {left : Option Snapshot} {right : Snapshot}
    (h : (chooseStrongestOwnContactListSnapshot left right).state = .pending) :
    right.state = .pending ∧
        (chooseStrongestOwnContactListSnapshot left right).event = right.event ∨
      left = some (chooseStrongestOwnContactListSnapshot left right) := by
  unfold chooseStrongestOwnContactListSnapshot at *
  split
  · exact .inl ⟨h, rfl⟩
  · next x =>
    split
    · next heq =>
      dsimp only at h
      rw [if_pos heq] at h
      split at h
      · cases h
      · next hs =>
        refine .inl ⟨?_, rfl⟩
        by_contra hst
        refine hs (.inr ?_)
        cases hr : right.state with
        | observed => rfl
        | pending => exact absurd hr hst
    · next hne =>
      dsimp only at h
      rw [if_neg hne] at h
      split
      · next hl =>
        rw [if_pos hl] at h
        exact .inl ⟨h, rfl⟩
      · exact .inr rfl

variable {tags : List (List Text)} {app : AppDefinition} {target : Text} {pubkey : Text}

lemma mem_extractFollowPubkeys :
    pubkey ∈ extractFollowPubkeys tags ↔ ∃ tag ∈ tags, followOf tag = some pubkey := by
  unfold extractFollowPubkeys
  rw [mem_eraseDups, mem_filterMap]

lemma normalizeHexPubkey_of_hex {key : Text} (h : IsHex64 key) :
    normalizeHexPubkey (some key) = some key := by
  have hl : toLowerCase key = key := by
    have hc := all_eq_true.1 h.2
    conv_rhs => rw [← map_id key]
    exact map_congr_left fun x hx => lowerChar_of_isHexChar (hc x hx)
  unfold normalizeHexPubkey
  rw [Option.map_some, trim_of_all_isHexChar h.2, hl]
  simp [h]

def Kept (target : Text) (app : AppDefinition) (tag : List Text) : Bool :=
  decide (followOf tag ≠ some target) && !isConduitClientTagForApp app tag

lemma followOf_follow (h : IsHex64 target) : followOf ["p".toList, target] = some target := by
  exact normalizeHexPubkey_of_hex h

lemma followOf_client {tag : List Text} (h : isConduitClientTagForApp app tag = true) :
    followOf tag = none := by
  unfold isConduitClientTagForApp at h
  rw [and_eq_true, decide_eq_true_eq] at h
  unfold followOf
  rw [if_neg]
  rw [h.1]
  decide

lemma client_of_append {address : Text} :
    isConduitClientTagForApp app ["client".toList, app.name, address, app.relayHint] = true := by
  unfold isConduitClientTagForApp
  simp

lemma follows_append : pubkey ∈ extractFollowPubkeys (appendConduitClientTag tags app) ↔
      pubkey ∈ extractFollowPubkeys tags := by
  rw [mem_extractFollowPubkeys, mem_extractFollowPubkeys]
  have hfil : (∃ tag ∈ tags.filter fun tag => !isConduitClientTagForApp app tag,
      followOf tag = some pubkey) ↔ ∃ tag ∈ tags, followOf tag = some pubkey := by
    constructor
    · rintro ⟨tag, ht, hf⟩
      exact ⟨tag, (mem_filter.1 ht).1, hf⟩
    · rintro ⟨tag, ht, hf⟩
      refine ⟨tag, mem_filter.2 ⟨ht, ?_⟩, hf⟩
      by_contra hc
      rw [not_eq_true, not_eq_false'] at hc
      rw [followOf_client hc] at hf
      cases hf
  unfold appendConduitClientTag
  split
  · exact hfil
  · next address _ =>
    rw [← hfil]
    constructor
    · rintro ⟨tag, ht, hf⟩
      rcases mem_append.1 ht with ht | ht
      · exact ⟨tag, ht, hf⟩
      · rw [mem_singleton] at ht
        subst ht
        cases hf
    · rintro ⟨tag, ht, hf⟩
      exact ⟨tag, mem_append_left _ ht, hf⟩

lemma kept_append :
    (appendConduitClientTag tags app).filter (Kept target app) = tags.filter (Kept target app) := by
  have hf : (tags.filter fun tag => !isConduitClientTagForApp app tag).filter
      (Kept target app) = tags.filter (Kept target app) := by
    rw [filter_filter]
    apply filter_congr
    intro tag _
    unfold Kept
    cases isConduitClientTagForApp app tag <;> simp
  unfold appendConduitClientTag
  split
  · exact hf
  · next address _ =>
    have hc : Kept target app ["client".toList, app.name, address, app.relayHint] = false := by
      unfold Kept
      rw [client_of_append]
      simp
    rw [filter_append, hf, filter_cons, hc]
    simp only [false_eq_true, if_false, filter_nil, append_nil]

variable {shouldFollow : Bool}

lemma follows_build (htgt : IsHex64 target) :
    pubkey ∈ extractFollowPubkeys (buildContactListUpdateTags tags target shouldFollow) ↔
      if pubkey = target then shouldFollow = true else pubkey ∈ extractFollowPubkeys tags := by
  unfold buildContactListUpdateTags
  simp only [decide_eq_true_eq, decide_eq_false_iff_not]
  split
  · next ha =>
    rw [mem_extractFollowPubkeys, mem_extractFollowPubkeys]
    constructor
    · rintro ⟨tag, ht, hf⟩
      split
      · exact ha.1
      · next hne =>
        rcases mem_append.1 ht with ht | ht
        · exact ⟨tag, ht, hf⟩
        · rw [mem_singleton] at ht
          subst ht
          rw [followOf_follow htgt] at hf
          exact absurd (Option.some.inj hf).symm hne
    · intro h
      split at h
      · next heq =>
        refine ⟨["p".toList, target], by simp, ?_⟩
        rw [followOf_follow htgt, heq]
      · obtain ⟨tag, ht, hf⟩ := h
        exact ⟨tag, mem_append_left _ ht, hf⟩
  · next hn =>
    split
    · next hr =>
      rw [mem_extractFollowPubkeys, mem_extractFollowPubkeys]
      constructor
      · rintro ⟨tag, ht, hf⟩
        obtain ⟨ht, hk⟩ := mem_filter.1 ht
        rw [hf] at hk
        split
        · next heq =>
          rw [heq] at hk
          simp at hk
        · exact ⟨tag, ht, hf⟩
      · intro h
        split at h
        · rw [hr.1] at h
          cases h
        · next hne =>
          obtain ⟨tag, ht, hf⟩ := h
          refine ⟨tag, mem_filter.2 ⟨ht, decide_eq_true ?_⟩, hf⟩
          rw [hf]
          exact fun heq => hne (Option.some.inj heq)
    · next hkps =>
      split
      · next heq =>
        subst heq
        cases shouldFollow with
        | true => simpa using hn
        | false => simpa using hkps
      · exact Iff.rfl

lemma kept_build (ht : IsHex64 target) :
    (buildContactListUpdateTags tags target shouldFollow).filter (Kept target app) =
      tags.filter (Kept target app) := by
  unfold buildContactListUpdateTags
  simp only
  split
  · have hn : Kept target app ["p".toList, target] = false := by
      unfold Kept
      rw [followOf_follow ht]
      simp
    rw [filter_append, filter_cons, hn]
    simp only [false_eq_true, if_false, filter_nil, append_nil]
  · split
    · rw [filter_filter]
      apply filter_congr
      intro tag _
      unfold Kept
      by_cases hf : followOf tag = some target
      · simp [hf]
      · simp [hf]
    · rfl

end Conduit.Social
