import Exosip.Parser.Message
import Exosip.Port.Fifo
import Exosip.Sdp.Message

/-! The two functions that delete the attributes of a session description or of one of its
media. -/
namespace Exosip
namespace Sdp

open CString Port

theorem osipListGet_eq_some_iff {α : Type} {li : List α} {pos : Int} {a : α} :
    osipListGet li pos = some a ↔ 0 ≤ pos ∧ li[pos.toNat]? = some a := by
  unfold osipListGet
  split_ifs with hpos
  · refine iff_of_false (fun h => absurd h (by simp)) ?_
    rintro ⟨hnonneg, hget⟩
    obtain ⟨hlt, -⟩ := List.getElem?_eq_some_iff.1 hget
    omega
  · rw [not_or, Int.not_lt] at hpos
    exact (and_iff_right hpos.1).symm

/-- A loop after a number of passes: it goes on, it has compared a name that is NULL, or it
has ended. -/
inductive Loop (α : Type) where
  | running
  | fault
  | ended (value : α)
  deriving DecidableEq, Repr

namespace Loop

def map {α β : Type} (f : α → β) : Loop α → Loop β
  | running => running
  | fault => fault
  | ended value => ended (f value)

theorem map_eq_ended_iff {α β : Type} {f : α → β} (hf : Function.Injective f) {loop : Loop α}
    {a : α} : loop.map f = .ended (f a) ↔ loop = .ended a := by
  cases loop <;> simp [map, hf.eq_iff]

end Loop

/-- One pass that removes the attribute at `i` when it has the name. -/
def removeNamed (attField : Str) (i : Nat) (attr : Attribute) (attributes : List Attribute)
    (next : Nat → List Attribute → Loop (List Attribute)) : Loop (List Attribute) :=
  match attr.aAttField with
  | none => .fault
  | some field =>
      if field = attField then next i (attributes.eraseIdx i) else next (i + 1) attributes

/-- The loop over the attributes with a name, in `passes` passes. -/
def delNamed (attField : Str) : Nat → Nat → List Attribute → Loop (List Attribute)
  | 0, _, _ => .running
  | passes + 1, i, attributes =>
      match attributes[i]? with
      | none => .ended attributes
      | some attr => removeNamed attField i attr attributes (delNamed attField passes)

/-- The loop of `sdp_message_a_attribute_del_at_index` over the attributes of a media, which looks
at `pos_attr` in every pass. -/
def delMedia (attField : Str) (posAttr : Int) : Nat → Nat → List Attribute → Loop (List Attribute)
  | 0, _, _ => .running
  | passes + 1, i, attributes =>
      match attributes[i]? with
      | none => .ended attributes
      | some attr =>
          if posAttr = -1 then
            removeNamed attField i attr attributes (delMedia attField posAttr passes)
          else match osipListGet attributes posAttr with
            | some _ => delMedia attField posAttr passes i (attributes.eraseIdx posAttr.toNat)
            | none => delMedia attField posAttr passes i attributes

def delSession (attField : Str) (posAttr : Int) (passes : Nat) (attributes : List Attribute) :
    Loop (List Attribute) :=
  if posAttr = -1 then delNamed attField passes 0 attributes
  else match osipListGet attributes posAttr with
    | some _ => .ended (attributes.eraseIdx posAttr.toNat)
    | none => .ended attributes

namespace SdpMessage

def setAttributes (sdp : SdpMessage) (attributes : List Attribute) : SdpMessage :=
  { sdp with aAttributes := attributes }

def setMediaAttributes (sdp : SdpMessage) (posMedia : Nat) (attributes : List Attribute) :
    SdpMessage :=
  { sdp with
    mMedias := sdp.mMedias.modify posMedia fun med => { med with aAttributes := attributes } }

/-- The frame that the two functions share: the checks of the media index, and the list that is
meant by it. -/
def attributeDel (sdp : SdpMessage) (posMedia : Int)
    (session media : List Attribute → Loop (List Attribute)) : Loop (Int × SdpMessage) :=
  if posMedia ≠ -1 ∧ (sdp.mMedias.length : Int) < posMedia + 1 then
    .ended (osipUndefinedError, sdp)
  else if posMedia = -1 then
    (session sdp.aAttributes).map fun attributes => (osipSuccess, sdp.setAttributes attributes)
  else match osipListGet sdp.mMedias posMedia with
    | none => .ended (osipUndefinedError, sdp)
    | some med =>
        (media med.aAttributes).map fun attributes =>
          (osipSuccess, sdp.setMediaAttributes posMedia.toNat attributes)

end SdpMessage

def sdpMessageAAttributeDel (passes : Nat) (sdp : SdpMessage) (posMedia : Int) (attField : Str) :
    Loop (Int × SdpMessage) :=
  sdp.attributeDel posMedia (delNamed attField passes 0) (delNamed attField passes 0)

def sdpMessageAAttributeDelAtIndex (passes : Nat) (sdp : SdpMessage) (posMedia : Int)
    (attField : Str) (posAttr : Int) : Loop (Int × SdpMessage) :=
  sdp.attributeDel posMedia (delSession attField posAttr passes)
    (delMedia attField posAttr passes 0)

/-! ### What is to be left -/

/-- The attributes that a deletion leaves, whichever list they are of. -/
def remaining (attField : Str) (posAttr : Int) (attributes : List Attribute) : List Attribute :=
  if posAttr = -1 then attributes.filter fun attr => attr.aAttField ≠ some attField
  else if posAttr < 0 then attributes
  else attributes.eraseIdx posAttr.toNat

/-- The deletion ends, with what is to be left where the media index is one; with the position
-1 it is the deletion by name. -/
structure DeletesRight (sdp : SdpMessage) (posMedia : Int) (attField : Str) (posAttr : Int) :
    Prop where
  ends : ∃ passes, sdpMessageAAttributeDelAtIndex passes sdp posMedia attField posAttr =
    sdp.attributeDel posMedia (fun attributes => .ended (remaining attField posAttr attributes))
      (fun attributes => .ended (remaining attField posAttr attributes))
  agrees : posAttr = -1 → ∀ passes,
    sdpMessageAAttributeDelAtIndex passes sdp posMedia attField posAttr =
      sdpMessageAAttributeDel passes sdp posMedia attField

/-- The list that a media index means. -/
def SdpMessage.attributesAt (sdp : SdpMessage) (posMedia : Int) : Option (List Attribute) :=
  if posMedia = -1 then some sdp.aAttributes
  else (osipListGet sdp.mMedias posMedia).map Media.aAttributes

/-- Every attribute has a name to compare; at a position of a media there is either nothing to
delete from, or one attribute and its position. -/
def Deletable (posMedia posAttr : Int) (attributes : List Attribute) : Prop :=
  (posAttr = -1 → ∀ attr ∈ attributes, attr.aAttField ≠ none) ∧
    (posMedia ≠ -1 → posAttr ≠ -1 → attributes = [] ∨ posAttr = 0 ∧ attributes.length = 1)

/-! ### The loops -/

theorem delNamed_append {attField : Str} {back : List Attribute}
    (hnamed : ∀ attr ∈ back, attr.aAttField ≠ none) {passes : Nat} (hpasses : back.length < passes)
    (front : List Attribute) :
    delNamed attField passes front.length (front ++ back) =
      .ended (front ++ remaining attField (-1) back) := by
  induction back generalizing passes front with
  | nil =>
      obtain ⟨passes, rfl⟩ := Nat.exists_eq_add_one.2 hpasses
      simp [delNamed, remaining]
  | cons attr back ih =>
      obtain ⟨passes, rfl⟩ := Nat.exists_eq_add_one.2 (Nat.zero_lt_of_lt hpasses)
      rw [List.forall_mem_cons] at hnamed
      rw [List.length_cons, Nat.add_lt_add_iff_right] at hpasses
      obtain ⟨field, hfield⟩ := Option.ne_none_iff_exists'.1 hnamed.1
      have hget : (front ++ attr :: back)[front.length]? = some attr := by simp
      rw [delNamed, hget]
      dsimp only
      rw [removeNamed, hfield]
      dsimp only
      split_ifs with hsame
      · have herase : (front ++ attr :: back).eraseIdx front.length = front ++ back := by
          rw [List.eraseIdx_append_of_length_le (Nat.le_refl _), Nat.sub_self,
            List.eraseIdx_cons_zero]
        rw [herase, ih hnamed.2 hpasses]
        simp [remaining, hfield, hsame]
      · have hnext := ih hnamed.2 hpasses (front ++ [attr])
        rw [List.length_append, List.length_singleton, List.append_assoc, List.singleton_append]
          at hnext
        rw [hnext]
        simp [remaining, hfield, hsame]

theorem delNamed_eq {attField : Str} {attributes : List Attribute}
    (hnamed : ∀ attr ∈ attributes, attr.aAttField ≠ none) :
    delNamed attField (attributes.length + 1) 0 attributes =
      .ended (remaining attField (-1) attributes) :=
  delNamed_append hnamed (Nat.lt_succ_self _) []

theorem delNamed_named {attField : Str} {passes : Nat} {front back left : List Attribute}
    (h : delNamed attField passes front.length (front ++ back) = .ended left) :
    ∀ attr ∈ back, attr.aAttField ≠ none := by
  induction passes generalizing front back with
  | zero => cases h
  | succ passes ih =>
      cases back with
      | nil => exact List.forall_mem_nil _
      | cons attr back =>
          have hget : (front ++ attr :: back)[front.length]? = some attr := by simp
          rw [delNamed, hget] at h
          dsimp only at h
          rw [removeNamed] at h
          cases hfield : attr.aAttField with
          | none =>
              rw [hfield] at h
              cases h
          | some field =>
              rw [hfield] at h
              dsimp only at h
              rw [List.forall_mem_cons]
              refine ⟨by rw [hfield]; exact Option.some_ne_none field, ?_⟩
              split_ifs at h with hsame
              · rw [List.eraseIdx_append_of_length_le (Nat.le_refl _), Nat.sub_self,
                  List.eraseIdx_cons_zero] at h
                exact ih h
              · refine @ih (front ++ [attr]) back ?_
                rw [List.length_append, List.length_singleton, List.append_assoc,
                  List.singleton_append]
                exact h

theorem delMedia_neg_one (attField : Str) (passes i : Nat) (attributes : List Attribute) :
    delMedia attField (-1) passes i attributes = delNamed attField passes i attributes := by
  induction passes generalizing i attributes with
  | zero => rfl
  | succ passes ih =>
      have hnext : delMedia attField (-1) passes = delNamed attField passes :=
        funext fun i => funext fun attributes => ih i attributes
      rw [delMedia, delNamed, hnext]
      rfl

/-- At a position the loop over a media ends only when it has removed everything, and that is
what it does at the first one. -/
theorem delMedia_ended_iff {attField : Str} {posAttr : Int} (hpos : posAttr ≠ -1)
    {attributes left : List Attribute} :
    (∃ passes, delMedia attField posAttr passes 0 attributes = .ended left) ↔
      left = [] ∧ (attributes = [] ∨ posAttr = 0) := by
  constructor
  · rintro ⟨passes, h⟩
    induction passes generalizing attributes with
    | zero => cases h
    | succ passes ih =>
        cases attributes with
        | nil =>
            cases h
            exact ⟨rfl, Or.inl rfl⟩
        | cons attr attributes =>
            rw [delMedia, List.getElem?_cons_zero] at h
            dsimp only at h
            rw [if_neg hpos] at h
            cases hget : osipListGet (attr :: attributes) posAttr with
            | none =>
                rw [hget] at h
                exact ih h
            | some found =>
                rw [hget] at h
                obtain ⟨hleft, hnil | hzero⟩ := ih h
                · obtain ⟨hnonneg, hget⟩ := osipListGet_eq_some_iff.1 hget
                  obtain ⟨hlt, -⟩ := List.getElem?_eq_some_iff.1 hget
                  have hlength := congrArg List.length hnil
                  rw [List.length_eraseIdx_of_lt hlt, List.length_nil] at hlength
                  exact ⟨hleft, Or.inr (by omega)⟩
                · exact ⟨hleft, Or.inr hzero⟩
  · rintro ⟨rfl, hends⟩
    refine ⟨attributes.length + 1, ?_⟩
    induction attributes with
    | nil => rfl
    | cons attr attributes ih =>
        obtain rfl := hends.resolve_left (List.cons_ne_nil _ _)
        have hget : osipListGet (attr :: attributes) 0 = some attr := by simp [osipListGet]
        rw [List.length_cons, delMedia, List.getElem?_cons_zero]
        dsimp only
        rw [if_neg hpos, hget]
        exact ih (Or.inr rfl)

theorem delSession_eq {attField : Str} {posAttr : Int} (hpos : posAttr ≠ -1)
    (passes : Nat) (attributes : List Attribute) :
    delSession attField posAttr passes attributes =
      .ended (remaining attField posAttr attributes) := by
  rw [delSession, remaining, if_neg hpos, if_neg hpos]
  cases hget : osipListGet attributes posAttr with
  | some attr =>
      dsimp only
      rw [if_neg (Int.not_lt.2 (osipListGet_eq_some_iff.1 hget).1)]
  | none =>
      dsimp only
      split_ifs with hneg
      · rfl
      · rw [List.eraseIdx_of_length_le]
        by_contra hlt
        rw [not_le] at hlt
        have hsome := osipListGet_eq_some_iff.2
          ⟨Int.not_lt.1 hneg, List.getElem?_eq_getElem (l := attributes) hlt⟩
        rw [hget] at hsome
        cases hsome

/-! ### Both levels -/

theorem delNamed_ends_iff {attField : Str} {attributes : List Attribute} :
    (∃ passes, delNamed attField passes 0 attributes =
        .ended (remaining attField (-1) attributes)) ↔
      ∀ attr ∈ attributes, attr.aAttField ≠ none :=
  ⟨fun ⟨_, h⟩ => @delNamed_named _ _ [] _ _ h, fun hnamed => ⟨_, delNamed_eq hnamed⟩⟩

theorem delSession_ends_iff {attField : Str} {posAttr : Int} {attributes : List Attribute} :
    (∃ passes, delSession attField posAttr passes attributes =
        .ended (remaining attField posAttr attributes)) ↔
      Deletable (-1) posAttr attributes := by
  by_cases hpos : posAttr = -1
  · subst hpos
    simp only [Deletable, delSession, if_true, delNamed_ends_iff, forall_const, ne_eq,
      not_true_eq_false, false_implies, and_true]
  · exact iff_of_true ⟨0, delSession_eq hpos 0 attributes⟩
      ⟨fun h => absurd h hpos, fun h => absurd rfl h⟩

theorem delMedia_ends_iff {attField : Str} {posMedia posAttr : Int} (hmedia : posMedia ≠ -1)
    {attributes : List Attribute} :
    (∃ passes, delMedia attField posAttr passes 0 attributes =
        .ended (remaining attField posAttr attributes)) ↔
      Deletable posMedia posAttr attributes := by
  by_cases hpos : posAttr = -1
  · subst hpos
    simp only [Deletable, delMedia_neg_one, delNamed_ends_iff, forall_const, ne_eq,
      not_true_eq_false, false_implies, implies_true, and_true]
  · rw [delMedia_ended_iff hpos, Deletable, remaining, if_neg hpos]
    simp only [hpos, hmedia, ne_eq, not_false_eq_true, false_implies, true_and, forall_const]
    cases attributes with
    | nil => simp
    | cons attr attributes =>
        simp only [List.cons_ne_nil, false_or, List.length_cons]
        refine and_comm.trans (and_congr_right ?_)
        rintro rfl
        simp

theorem delAtIndex_neg_one (passes : Nat) (sdp : SdpMessage) (posMedia : Int) (attField : Str) :
    sdpMessageAAttributeDelAtIndex passes sdp posMedia attField (-1) =
      sdpMessageAAttributeDel passes sdp posMedia attField := by
  have hmedia : delMedia attField (-1) passes 0 = delNamed attField passes 0 :=
    funext fun attributes => delMedia_neg_one attField passes 0 attributes
  rw [sdpMessageAAttributeDelAtIndex, sdpMessageAAttributeDel, hmedia]
  rfl

theorem setAttributes_injective (sdp : SdpMessage) :
    Function.Injective fun attributes => (osipSuccess, sdp.setAttributes attributes) :=
  fun _ _ h => congrArg (SdpMessage.aAttributes ∘ Prod.snd) h

theorem setMediaAttributes_injective {sdp : SdpMessage} {posMedia : Nat}
    (hlt : posMedia < sdp.mMedias.length) :
    Function.Injective fun attributes =>
      (osipSuccess, sdp.setMediaAttributes posMedia attributes) := by
  intro attributes attributes' h
  have hmedias := congrArg (fun sdp => (SdpMessage.mMedias sdp)[posMedia]?) (congrArg Prod.snd h)
  simpa [SdpMessage.setMediaAttributes, hlt] using hmedias

theorem delAtIndex_ends_iff (sdp : SdpMessage) (posMedia : Int) (attField : Str) (posAttr : Int) :
    (∃ passes, sdpMessageAAttributeDelAtIndex passes sdp posMedia attField posAttr =
      sdp.attributeDel posMedia (fun attributes => .ended (remaining attField posAttr attributes))
        (fun attributes => .ended (remaining attField posAttr attributes))) ↔
      ∀ attributes ∈ sdp.attributesAt posMedia, Deletable posMedia posAttr attributes := by
  have hall : ∀ (attributes : List Attribute) (P : List Attribute → Prop),
      (∀ a ∈ some attributes, P a) ↔ P attributes := by
    simp
  unfold sdpMessageAAttributeDelAtIndex SdpMessage.attributeDel SdpMessage.attributesAt
  by_cases hsession : posMedia = -1
  · subst hsession
    simp only [ne_eq, not_true_eq_false, false_and, if_false, if_true]
    rw [hall, ← delSession_ends_iff]
    exact exists_congr fun passes => Loop.map_eq_ended_iff (setAttributes_injective sdp)
  · simp only [ne_eq, hsession, not_false_eq_true, true_and, if_false]
    cases hget : osipListGet sdp.mMedias posMedia with
    | none =>
        refine iff_of_true ⟨0, ?_⟩ (by simp)
        split_ifs <;> rfl
    | some med =>
        obtain ⟨hnonneg, hmed⟩ := osipListGet_eq_some_iff.1 hget
        obtain ⟨hlt, -⟩ := List.getElem?_eq_some_iff.1 hmed
        have hbound : ¬ (sdp.mMedias.length : Int) < posMedia + 1 := by omega
        simp only [if_neg hbound]
        rw [Option.map_some, hall, ← delMedia_ends_iff hsession]
        exact exists_congr fun passes => Loop.map_eq_ended_iff (setMediaAttributes_injective hlt)

/-- The deletion at a position ends with the right attributes exactly where the names are there
and the loop over a media has no more to remove than its position. -/
theorem deletesRight_iff (sdp : SdpMessage) (posMedia : Int) (attField : Str) (posAttr : Int) :
    DeletesRight sdp posMedia attField posAttr ↔
      ∀ attributes ∈ sdp.attributesAt posMedia, Deletable posMedia posAttr attributes := by
  rw [← delAtIndex_ends_iff sdp posMedia attField posAttr]
  refine ⟨fun h => h.ends, fun h => ⟨h, ?_⟩⟩
  rintro rfl passes
  exact delAtIndex_neg_one passes sdp posMedia attField

/-- Two attributes of a media: at position 0 both are deleted. -/
theorem not_deletesRight : ¬ ∀ sdp posMedia attField posAttr,
    DeletesRight sdp posMedia attField posAttr := by
  intro h
  have hsafe := (delAtIndex_ends_iff
    { mMedias := [{ aAttributes := [⟨some "x".toList, none⟩, ⟨some "y".toList, none⟩] }] } 0
    "x".toList 0).1 (h _ _ _ _).ends [⟨some "x".toList, none⟩, ⟨some "y".toList, none⟩] rfl
  exact absurd (hsafe.2 (by decide) (by decide)) (by decide)

end Sdp
end Exosip
