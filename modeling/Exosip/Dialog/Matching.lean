import Exosip.Dialog.Basic
import Mathlib.Data.List.Perm.Basic
import Mathlib.Data.List.ReduceOption

/-! Which dialogs a message can match, and whether two dialogs can match the same one. -/
namespace Exosip

open CString Machine StrCalls

/-! ### Addresses that compare equal -/

/-- The test comes out as `b`, and every string that it looks at is there. -/
def Decides (x : StrCalls Bool) (b : Bool) : Prop := x.result = .ok b ∧ x.Safe

theorem decides_pure (b : Bool) : Decides (pure b) b := ⟨rfl, Traced.every_pure b⟩

theorem decides_strcmp (s t : Str) : Decides (strcmp (some s) (some t)) (s == t) :=
  ⟨rfl, by simp [Safe, Traced.Every, strcmp]⟩

theorem decides_andAlso {x y : StrCalls Bool} {a b : Bool} (hx : Decides x a) (hy : Decides y b) :
    Decides (andAlso x y) (a && b) := by
  unfold Decides andAlso
  rw [Traced.result_bind, hx.1, Safe, Traced.every_bind]
  cases a with
  | false =>
      refine ⟨rfl, hx.2, fun same hsame => ?_⟩
      rw [hx.1] at hsame
      cases hsame
      exact Traced.every_pure _
  | true =>
      refine ⟨hy.1, hx.2, fun same hsame => ?_⟩
      rw [hx.1] at hsame
      cases hsame
      exact hy.2

/-- Two strings that are the same when both are there. -/
def agree (s t : Option Str) : Bool := s.isNone || t.isNone || s == t

theorem decides_strcmpWhenBoth (s t : Option Str) : Decides (strcmpWhenBoth s t) (agree s t) := by
  cases s with
  | none => exact decides_pure true
  | some s =>
      cases t with
      | none => exact decides_pure true
      | some t => exact decides_strcmp s t

/-- The URIs without their tags: the strings when neither has a host. -/
def sameUrl (url1 url2 : Uri) : Bool :=
  if url1.host.isNone && url2.host.isNone then url1.string.isSome && url1.string == url2.string
  else url1.host.isSome && url1.host == url2.host && agree url1.username url2.username

/-- What `osip_from_compare` accepts. -/
def sameAddress (from1 from2 : Option From) : Bool :=
  match from1, from2 with
  | some ⟨_, some url1, genParams1⟩, some ⟨_, some url2, genParams2⟩ =>
      sameUrl url1 url2 &&
        (url1.host.isNone || agree (tagOfCompare genParams1) (tagOfCompare genParams2))
  | _, _ => false

theorem decides_compareUrls (url1 url2 : Uri) (tag1 tag2 : Option Str) :
    Decides (compareUrls url1 url2 tag1 tag2)
      (sameUrl url1 url2 && (url1.host.isNone || agree tag1 tag2)) := by
  unfold compareUrls sameUrl
  cases url1.host with
  | none =>
      cases url2.host with
      | none =>
          cases url1.string with
          | none => exact decides_pure false
          | some string1 =>
              cases url2.string with
              | none => exact decides_pure false
              | some string2 => simpa using decides_strcmp string1 string2
      | some host2 => exact decides_pure false
  | some host1 =>
      cases url2.host with
      | none => exact decides_pure false
      | some host2 =>
          have h := decides_andAlso (decides_strcmp host1 host2)
            (decides_andAlso (decides_strcmpWhenBoth url1.username url2.username)
              (decides_strcmpWhenBoth tag1 tag2))
          simpa [Bool.and_assoc] using h

theorem decides_osipFromCompare (from1 from2 : Option From) :
    Decides (osipFromCompare from1 from2) (sameAddress from1 from2) := by
  match from1, from2 with
  | some ⟨_, some url1, _⟩, some ⟨_, some url2, _⟩ => exact decides_compareUrls url1 url2 _ _
  | none, _ | some ⟨_, none, _⟩, _ | some ⟨_, some _, _⟩, none
  | some ⟨_, some _, _⟩, some ⟨_, none, _⟩ => exact decides_pure false

@[simp] theorem osipStrdup_result (ch : Option Str) : (osipStrdup ch).result = .ok ch := rfl

theorem result_test {α : Type} {x : StrCalls Bool} {b : Bool} (h : x.result = .ok b)
    (y z : StrCalls α) :
    (do if ← x then y else z).result = if b then y.result else z.result := by
  rw [Traced.result_bind, h]
  cases b with
  | true => rfl
  | false => rfl

/-! ### What matches -/

def tagValue (header : Option From) : Option Str :=
  (header.bind osipFromGetTag).bind GenericParam.gvalue

/-- A From tag and a To tag. -/
def SipFields.CarriesTags (sip : SipFields) : Prop :=
  (tagValue sip.fromHeader).isSome = true ∧ (tagValue sip.toHeader).isSome = true

namespace Dialog

def matchesAsUac (dlg : Dialog) (answer : SipFields) : Bool := (dlg.matchAsUac answer).result.isOk
def matchesAsUas (dlg : Dialog) (request : SipFields) : Bool := (dlg.matchAsUas request).result.isOk

/-- What the end of both matching functions accepts, for a message whose tag is `tag`. -/
def remoteMatches (dlg : Dialog) (tag : Str) (same : Bool) : Bool :=
  match dlg.remoteTag with
  | none => same
  | some remoteTag => tag == remoteTag

theorem matchRemoteTag_isOk (dlg : Dialog) {param : GenericParam} {tag : Str}
    (hvalue : param.gvalue = some tag) {sameUris : StrCalls Bool} {same : Bool}
    (hsame : Decides sameUris same) :
    (dlg.matchRemoteTag (some param) sameUris).result.isOk = dlg.remoteMatches tag same := by
  unfold matchRemoteTag remoteMatches
  cases dlg.remoteTag with
  | none =>
      dsimp only
      rw [result_test hsame.1]
      cases same with
      | true => rfl
      | false => rfl
  | some remoteTag =>
      dsimp only
      rw [hvalue, result_test (decides_strcmp tag remoteTag).1]
      cases tag == remoteTag with
      | true => rfl
      | false => rfl

theorem tagValue_eq_some {header : Option From} {tag : Str} (h : tagValue header = some tag) :
    ∃ f param, header = some f ∧ osipFromGetTag f = some param ∧ param.gvalue = some tag := by
  obtain ⟨param, hparam, hvalue⟩ := Option.bind_eq_some_iff.1 h
  obtain ⟨f, hf, hget⟩ := Option.bind_eq_some_iff.1 hparam
  exact ⟨f, param, hf, hget, hvalue⟩

/-- The call-id of the dialog and its local tag are there, and the message has that call-id. -/
def concerns (dlg : Dialog) (sip : SipFields) : Bool :=
  dlg.localTag.isSome && dlg.callId.any fun callId => callIdString sip.callId = .ok callId

theorem callIdString_some (callId : CallId) :
    callIdString (some callId) = osipCallIdToStr callId := rfl

/-- The start of both matching functions: `body` is reached when the call-ids are the same. -/
def matchCallId (dlg : Dialog) (sip : SipFields) (body : From → To → StrCalls Unit) : StrCalls Unit :=
  match dlg.callId, sip.callId, sip.fromHeader, sip.toHeader with
  | some callId, some sipCallId, some f, some t => do
      let tmp ← ofCode (osipCallIdToStr sipCallId)
      if ← strcmp (some callId) (some tmp) then body f t else returns osipUndefinedError
  | _, _, _, _ => returns osipBadparameter

def sameCallId (dlg : Dialog) (sip : SipFields) : Bool :=
  dlg.callId.any fun callId => callIdString sip.callId = .ok callId

theorem concerns_eq (dlg : Dialog) (sip : SipFields) :
    dlg.concerns sip = (dlg.localTag.isSome && dlg.sameCallId sip) := rfl

theorem matchAsUas_eq_matchCallId (dlg : Dialog) (request : SipFields) :
    dlg.matchAsUas request = dlg.matchCallId request fun requestFrom _ =>
      if dlg.localTag.isNone then returns osipSyntaxerror
      else
        matchRemoteTag dlg (osipFromGetTag requestFrom)
          (andAlso (osipFromCompare dlg.remoteUri request.fromHeader)
            (osipFromCompare dlg.localUri request.toHeader)) := rfl

theorem matchAsUac_eq_matchCallId (dlg : Dialog) (answer : SipFields) :
    dlg.matchAsUac answer = dlg.matchCallId answer fun answerFrom answerTo =>
      match osipFromGetTag answerFrom with
      | none => returns osipSyntaxerror
      | some tagParamLocal =>
          if dlg.localTag.isNone then returns osipSyntaxerror
          else (do
            if ← strcmp tagParamLocal.gvalue dlg.localTag then
              matchRemoteTag dlg (osipFromGetTag answerTo)
                (andAlso (osipFromCompare dlg.localUri answer.fromHeader)
                  (osipFromCompare dlg.remoteUri answer.toHeader))
            else returns osipUndefinedError) := rfl

theorem matchCallId_isOk {dlg : Dialog} {sip : SipFields} {f : From} {t : To}
    (hf : sip.fromHeader = some f) (ht : sip.toHeader = some t) (body : From → To → StrCalls Unit) :
    (dlg.matchCallId sip body).result.isOk = (dlg.sameCallId sip && (body f t).result.isOk) := by
  unfold matchCallId sameCallId
  rw [hf, ht]
  cases dlg.callId with
  | none => simp [returns, Except.isOk, Except.toBool]
  | some callId =>
      cases sip.callId with
      | none => simp [returns, callIdString, Except.isOk, Except.toBool]
      | some sipCallId =>
          dsimp only
          rw [Traced.result_bind, callIdString_some]
          cases osipCallIdToStr sipCallId with
          | error i =>
              simp [ofCode, SipFields.returnCode, Except.mapError, Except.isOk, Except.toBool,
                bind, Except.bind]
          | ok tmp =>
              rw [ofCode, Traced.result_lift, returnCode_ok]
              show (_ : StrCalls Unit).result.isOk = _
              rw [result_test (decides_strcmp callId tmp).1]
              by_cases hsame : callId = tmp
              · simp [hsame]
              · simp [hsame, Ne.symm hsame, returns, Except.isOk, Except.toBool]

theorem matchesAsUas_eq {dlg : Dialog} {request : SipFields} {fromTag toTag : Str}
    (hfrom : tagValue request.fromHeader = some fromTag)
    (hto : tagValue request.toHeader = some toTag) :
    dlg.matchesAsUas request =
      (dlg.concerns request &&
        dlg.remoteMatches fromTag
          (sameAddress dlg.remoteUri request.fromHeader &&
            sameAddress dlg.localUri request.toHeader)) := by
  obtain ⟨f, param, hf, hget, hvalue⟩ := tagValue_eq_some hfrom
  obtain ⟨t, _, ht, _, _⟩ := tagValue_eq_some hto
  have hremote := dlg.matchRemoteTag_isOk hvalue
    (decides_andAlso (decides_osipFromCompare dlg.remoteUri (some f))
      (decides_osipFromCompare dlg.localUri (some t)))
  rw [matchesAsUas, matchAsUas_eq_matchCallId, matchCallId_isOk hf ht, concerns_eq, hget, hf, ht]
  cases dlg.localTag with
  | none => simp [returns, Except.isOk, Except.toBool]
  | some localTag => simp [hremote]

theorem matchesAsUac_eq {dlg : Dialog} {answer : SipFields} {fromTag toTag : Str}
    (hfrom : tagValue answer.fromHeader = some fromTag)
    (hto : tagValue answer.toHeader = some toTag) :
    dlg.matchesAsUac answer =
      (dlg.concerns answer && (dlg.localTag == some fromTag &&
        dlg.remoteMatches toTag
          (sameAddress dlg.localUri answer.fromHeader &&
            sameAddress dlg.remoteUri answer.toHeader))) := by
  obtain ⟨f, param, hf, hget, hvalue⟩ := tagValue_eq_some hfrom
  obtain ⟨t, paramTo, ht, hgetTo, hvalueTo⟩ := tagValue_eq_some hto
  have hremote := dlg.matchRemoteTag_isOk hvalueTo
    (decides_andAlso (decides_osipFromCompare dlg.localUri (some f))
      (decides_osipFromCompare dlg.remoteUri (some t)))
  rw [matchesAsUac, matchAsUac_eq_matchCallId, matchCallId_isOk hf ht, concerns_eq, hget, hgetTo,
    hf, ht]
  cases dlg.localTag with
  | none => simp [returns, Except.isOk, Except.toBool]
  | some localTag =>
      simp only [Option.isNone_some, Bool.false_eq_true, if_false, hvalue]
      rw [result_test (decides_strcmp fromTag localTag).1]
      by_cases hlocal : fromTag = localTag
      · simp [hlocal, hremote]
      · simp [hlocal, Ne.symm hlocal, returns, Except.isOk, Except.toBool]

end Dialog

/-! ### Two dialogs and one message -/

def bothComparable (from1 from2 : Option From) : Bool :=
  match from1, from2 with
  | some ⟨_, some url1, _⟩, some ⟨_, some url2, _⟩ =>
      if url1.host.isNone && url2.host.isNone then url1.string.isSome && url1.string == url2.string
      else url1.host.isSome && url1.host == url2.host
  | _, _ => false

/-- An address that compares equal to the header if any does. It has a tag, but under a name
that the comparison passes over. -/
def addressLike (header : Option From) (tag : Str) : Option From :=
  some
    { displayname := none
      url := (header.bind From.url).map fun url => { url with username := none }
      genParams := [⟨"TAG".toList, some tag⟩] }

theorem agree_none (s : Option Str) : agree s none = true := by cases s <;> rfl

theorem tagValue_addressLike (header : Option From) (tag : Str) :
    tagValue (addressLike header tag) = some tag := rfl

theorem sameAddress_addressLike (from1 from2 : Option From) (tag : Str) :
    sameAddress from1 (addressLike from2 tag) = bothComparable from1 from2 := by
  have htag : tagOfCompare [⟨"TAG".toList, some tag⟩] = none := rfl
  match from1, from2 with
  | some ⟨_, some url1, _⟩, some ⟨_, some url2, _⟩ =>
      simp only [sameAddress, addressLike, Option.bind_some, Option.map_some, htag, agree_none,
        Bool.or_true, Bool.and_true, sameUrl, bothComparable]
  | none, _ | some ⟨_, none, _⟩, _ | some ⟨_, some _, _⟩, none
  | some ⟨_, some _, _⟩, some ⟨_, none, _⟩ => rfl

theorem bothComparable_of_sameAddress {from1 from2 header : Option From}
    (h1 : sameAddress from1 header = true) (h2 : sameAddress from2 header = true) :
    bothComparable from1 from2 = true := by
  match from1, from2, header with
  | some ⟨_, some url1, _⟩, some ⟨_, some url2, _⟩, some ⟨_, some url, _⟩ =>
      simp only [sameAddress, sameUrl, Bool.and_eq_true] at h1 h2
      have h1 := h1.1
      have h2 := h2.1
      simp only [bothComparable]
      cases hhost : url.host with
      | none =>
          cases hhost1 : url1.host with
          | none =>
              cases hhost2 : url2.host with
              | none => simp_all
              | some host2 => simp_all
          | some host1 => simp_all
      | some host =>
          cases hhost1 : url1.host with
          | none => simp_all
          | some host1 =>
              cases hhost2 : url2.host with
              | none => simp_all
              | some host2 => simp_all
  | none, _, _ | some ⟨_, none, _⟩, _, _ | some ⟨_, some _, _⟩, _, none
  | some ⟨_, some _, _⟩, _, some ⟨_, none, _⟩ => cases h1
  | some ⟨_, some _, _⟩, none, some ⟨_, some _, _⟩
  | some ⟨_, some _, _⟩, some ⟨_, none, _⟩, some ⟨_, some _, _⟩ => cases h2

namespace Dialog

def ExclusiveAsUas (d e : Dialog) : Prop :=
  ∀ request : SipFields, request.CarriesTags →
    ¬ (d.matchesAsUas request = true ∧ e.matchesAsUas request = true)

def ExclusiveAsUac (d e : Dialog) : Prop :=
  ∀ answer : SipFields, answer.CarriesTags →
    ¬ (d.matchesAsUac answer = true ∧ e.matchesAsUac answer = true)

/-- The remote tags keep the dialogs apart or, where one is missing, the addresses do. -/
def remotesApart (d e : Dialog) : Bool :=
  match d.remoteTag, e.remoteTag with
  | some tag1, some tag2 => tag1 != tag2
  | none, some _ => !(bothComparable d.remoteUri d.remoteUri && bothComparable d.localUri d.localUri)
  | some _, none => !(bothComparable e.remoteUri e.remoteUri && bothComparable e.localUri e.localUri)
  | none, none => !(bothComparable d.remoteUri e.remoteUri && bothComparable d.localUri e.localUri)

/-- One of the dialogs has no call-id or no local tag, so that it matches nothing, or their
call-ids differ, or they are kept apart by the other side. The local tags do not count. -/
def separated (d e : Dialog) : Bool :=
  d.callId != e.callId || d.callId.isNone || d.localTag.isNone || e.localTag.isNone ||
    remotesApart d e

theorem concerns_iff {dlg : Dialog} {sip : SipFields} :
    dlg.concerns sip = true ↔
      dlg.localTag.isSome = true ∧ ∃ callId, dlg.callId = some callId ∧
        callIdString sip.callId = .ok callId := by
  unfold concerns
  cases dlg.callId with
  | none => simp
  | some callId => simp

theorem callId_eq_of_concerns {d e : Dialog} {sip : SipFields} (hd : d.concerns sip = true)
    (he : e.concerns sip = true) : d.callId = e.callId := by
  obtain ⟨_, callId1, h1, hs1⟩ := concerns_iff.1 hd
  obtain ⟨_, callId2, h2, hs2⟩ := concerns_iff.1 he
  rw [h1, h2]
  rw [hs1] at hs2
  exact congrArg some (Except.ok.inj hs2)

theorem not_remotesApart {d e : Dialog} {tag : Str} {remote localHeader : Option From}
    (hd : d.remoteMatches tag (sameAddress d.remoteUri remote && sameAddress d.localUri localHeader) =
      true)
    (he : e.remoteMatches tag (sameAddress e.remoteUri remote && sameAddress e.localUri localHeader) =
      true) : remotesApart d e = false := by
  unfold remoteMatches at hd he
  unfold remotesApart
  cases hdr : d.remoteTag with
  | none =>
      rw [hdr] at hd
      have hd := Bool.and_eq_true_iff.1 hd
      cases her : e.remoteTag with
      | none =>
          rw [her] at he
          have he := Bool.and_eq_true_iff.1 he
          simp [bothComparable_of_sameAddress hd.1 he.1, bothComparable_of_sameAddress hd.2 he.2]
      | some tag2 =>
          simp [bothComparable_of_sameAddress hd.1 hd.1, bothComparable_of_sameAddress hd.2 hd.2]
  | some tag1 =>
      rw [hdr] at hd
      cases her : e.remoteTag with
      | none =>
          rw [her] at he
          have he := Bool.and_eq_true_iff.1 he
          simp [bothComparable_of_sameAddress he.1 he.1, bothComparable_of_sameAddress he.2 he.2]
      | some tag2 =>
          rw [her] at he
          simp [← eq_of_beq hd, ← eq_of_beq he]

def requestFor (callId tag : Str) (remote localHeader : Option From) : SipFields :=
  { SipFields.init with
    sipMethod := some "INFO".toList
    callId := some ⟨some callId, none⟩
    fromHeader := addressLike remote tag
    toHeader := addressLike localHeader tag }

theorem carriesTags_requestFor (callId tag : Str) (remote localHeader : Option From) :
    (requestFor callId tag remote localHeader).CarriesTags := ⟨rfl, rfl⟩

theorem matchesAsUas_requestFor {dlg : Dialog} {callId : Str} (hcallId : dlg.callId = some callId)
    (hlocal : dlg.localTag.isSome = true) (tag : Str) (remote localHeader : Option From) :
    dlg.matchesAsUas (requestFor callId tag remote localHeader) =
      dlg.remoteMatches tag
        (bothComparable dlg.remoteUri remote && bothComparable dlg.localUri localHeader) := by
  have hconcerns : dlg.concerns (requestFor callId tag remote localHeader) = true :=
    concerns_iff.2 ⟨hlocal, callId, hcallId, by simp [requestFor, callIdString, osipCallIdToStr]⟩
  rw [matchesAsUas_eq (tagValue_addressLike remote tag) (tagValue_addressLike localHeader tag),
    hconcerns, Bool.true_and]
  congr 1
  exact congrArg₂ _ (sameAddress_addressLike _ _ _) (sameAddress_addressLike _ _ _)

theorem bothComparable_self {from1 from2 : Option From} (h : bothComparable from1 from2 = true) :
    bothComparable from2 from2 = true := by
  match from1, from2 with
  | some ⟨_, some url1, _⟩, some ⟨_, some url2, _⟩ =>
      simp only [bothComparable] at h ⊢
      cases hhost1 : url1.host with
      | none =>
          cases hhost2 : url2.host with
          | none =>
              rw [hhost1, hhost2] at h
              have h := Bool.and_eq_true_iff.1 h
              simpa [eq_of_beq h.2] using h.1
          | some host2 => simp_all
      | some host1 =>
          cases hhost2 : url2.host with
          | none => simp_all
          | some host2 => simp_all
  | none, _ | some ⟨_, none, _⟩, _ | some ⟨_, some _, _⟩, none
  | some ⟨_, some _, _⟩, some ⟨_, none, _⟩ => cases h

theorem exists_matchesBoth {d e : Dialog} {callId : Str} (hd : d.callId = some callId)
    (he : e.callId = some callId) (hdlocal : d.localTag.isSome = true)
    (helocal : e.localTag.isSome = true) (h : remotesApart d e = false) :
    ∃ request : SipFields, request.CarriesTags ∧ d.matchesAsUas request = true ∧
      e.matchesAsUas request = true := by
  unfold remotesApart at h
  cases hdr : d.remoteTag with
  | none =>
      cases her : e.remoteTag with
      | none =>
          rw [hdr, her, Bool.not_eq_false', Bool.and_eq_true] at h
          refine ⟨requestFor callId [] e.remoteUri e.localUri, carriesTags_requestFor _ _ _ _, ?_, ?_⟩
          · rw [matchesAsUas_requestFor hd hdlocal]
            simp [hdr, remoteMatches, h]
          · rw [matchesAsUas_requestFor he helocal]
            simp [her, remoteMatches, bothComparable_self h.1, bothComparable_self h.2]
      | some tag2 =>
          refine ⟨requestFor callId tag2 d.remoteUri d.localUri, carriesTags_requestFor _ _ _ _, ?_, ?_⟩
          · rw [matchesAsUas_requestFor hd hdlocal]
            simpa [hdr, her, remoteMatches] using h
          · rw [matchesAsUas_requestFor he helocal]
            simp [her, remoteMatches]
  | some tag1 =>
      refine ⟨requestFor callId tag1 e.remoteUri e.localUri, carriesTags_requestFor _ _ _ _, ?_, ?_⟩
      · rw [matchesAsUas_requestFor hd hdlocal]
        simp [hdr, remoteMatches]
      · rw [matchesAsUas_requestFor he helocal]
        cases her : e.remoteTag with
        | none => simpa [hdr, her, remoteMatches] using h
        | some tag2 => simpa [hdr, her, remoteMatches] using h

theorem not_both_of_separated {d e : Dialog} (h : separated d e = true) {sip : SipFields} {tag : Str}
    {remote localHeader : Option From} (hd : d.concerns sip = true) (he : e.concerns sip = true)
    (hdm : d.remoteMatches tag
      (sameAddress d.remoteUri remote && sameAddress d.localUri localHeader) = true)
    (hem : e.remoteMatches tag
      (sameAddress e.remoteUri remote && sameAddress e.localUri localHeader) = true) : False := by
  have hd' := concerns_iff.1 hd
  have he' := concerns_iff.1 he
  obtain ⟨callId, hcallId, -⟩ := hd'.2
  rw [separated, not_remotesApart hdm hem, ← callId_eq_of_concerns hd he, hcallId] at h
  simp [Option.isNone_eq_false_iff.2 hd'.1, Option.isNone_eq_false_iff.2 he'.1] at h

def ident (dlg : Dialog) : Option Str × Option Str × Option Str :=
  (dlg.callId, dlg.localTag, dlg.remoteTag)

theorem exclusiveAsUas_iff (d e : Dialog) : ExclusiveAsUas d e ↔ separated d e = true := by
  constructor
  · intro h
    by_contra hsep
    simp only [separated, Bool.or_eq_true, not_or, bne_iff_ne, ne_eq, not_not,
      Option.isNone_iff_eq_none, Bool.not_eq_true] at hsep
    obtain ⟨⟨⟨⟨hcallId, hsome⟩, hdlocal⟩, helocal⟩, hremote⟩ := hsep
    obtain ⟨callId, hd⟩ := Option.ne_none_iff_exists'.1 hsome
    obtain ⟨request, htags, hboth⟩ := exists_matchesBoth hd (hcallId ▸ hd)
      (Option.isSome_iff_ne_none.2 hdlocal) (Option.isSome_iff_ne_none.2 helocal) hremote
    exact h request htags hboth
  · intro hsep request htags hboth
    obtain ⟨fromTag, hfrom⟩ := Option.isSome_iff_exists.1 htags.1
    obtain ⟨toTag, hto⟩ := Option.isSome_iff_exists.1 htags.2
    rw [matchesAsUas_eq hfrom hto, matchesAsUas_eq hfrom hto] at hboth
    simp only [Bool.and_eq_true (d.concerns _), Bool.and_eq_true (e.concerns _)] at hboth
    exact not_both_of_separated hsep hboth.1.1 hboth.2.1 hboth.1.2 hboth.2.2

theorem exclusiveAsUac_of_separated {d e : Dialog} (h : separated d e = true) :
    ExclusiveAsUac d e := by
  intro answer htags hboth
  obtain ⟨fromTag, hfrom⟩ := Option.isSome_iff_exists.1 htags.1
  obtain ⟨toTag, hto⟩ := Option.isSome_iff_exists.1 htags.2
  rw [matchesAsUac_eq hfrom hto, matchesAsUac_eq hfrom hto, Bool.and_comm (sameAddress d.localUri _),
    Bool.and_comm (sameAddress e.localUri _)] at hboth
  simp only [Bool.and_eq_true (d.concerns _), Bool.and_eq_true (e.concerns _),
    Bool.and_eq_true (_ == _)] at hboth
  exact not_both_of_separated h hboth.1.1 hboth.2.1 hboth.1.2.2 hboth.2.2.2

end Dialog

/-! ### The search through the calls -/

/-- The dialogs of a call, some of which have no `osip_dialog_t` yet. -/
abbrev CallDialogs := List (Option Dialog)

/-- The dialog that `_eXosip_process_newrequest` finds: the first one that matches, in the
first call that has one. -/
def findDialog (calls : List CallDialogs) (request : SipFields) : Option Dialog :=
  match calls with
  | [] => none
  | cDialogs :: calls =>
      match cDialogs.find? fun jd => jd.any fun dlg => dlg.matchesAsUas request with
      | some jd => jd
      | none => findDialog calls request

def allDialogs (calls : List CallDialogs) : List Dialog := calls.flatten.reduceOption

theorem find?_reduceOption {α : Type} (p : α → Bool) (l : List (Option α)) :
    l.reduceOption.find? p = (l.find? fun a => a.any p).bind id := by
  induction l with
  | nil => rfl
  | cons a l ih =>
      cases a with
      | none =>
          rw [List.reduceOption_cons_of_none, ih]
          rfl
      | some a =>
          rw [List.reduceOption_cons_of_some, List.find?_cons, List.find?_cons, Option.any_some, ih]
          cases p a with
          | true => rfl
          | false => rfl

theorem findDialog_eq (calls : List CallDialogs) (request : SipFields) :
    findDialog calls request =
      (allDialogs calls).find? fun dlg => dlg.matchesAsUas request := by
  unfold allDialogs
  induction calls with
  | nil => rfl
  | cons cDialogs calls ih =>
      rw [findDialog, ih, List.flatten_cons, List.reduceOption_append, List.find?_append,
        find?_reduceOption _ cDialogs]
      cases hfind : cDialogs.find? fun jd => jd.any fun dlg => dlg.matchesAsUas request with
      | none => rfl
      | some jd =>
          have hany := List.find?_some hfind
          cases jd with
          | none => cases hany
          | some dlg => rfl

theorem find?_perm {α : Type} {p : α → Bool} {l l' : List α} (hperm : l.Perm l')
    (h : l.Pairwise fun a b => ¬ (p a = true ∧ p b = true)) : l.find? p = l'.find? p := by
  have hfilter : ∀ k : List α, (k.Pairwise fun a b => ¬ (p a = true ∧ p b = true)) →
      k.filter p = [] ∨ ∃ a, k.filter p = [a] := by
    intro k hk
    have hpair := hk.filter p
    have hall : ∀ a ∈ k.filter p, p a = true := fun a ha => (List.mem_filter.1 ha).2
    match k.filter p, hpair, hall with
    | [], _, _ => exact .inl rfl
    | [a], _, _ => exact .inr ⟨a, rfl⟩
    | a :: b :: _, hpair, hall =>
        exact absurd ⟨hall a (by simp), hall b (by simp)⟩ (List.rel_of_pairwise_cons hpair (by simp))
  rw [← List.head?_filter, ← List.head?_filter]
  cases hfilter l h with
  | inl hnil =>
      have hnil' := (hperm.filter p).symm
      rw [hnil, List.perm_nil] at hnil'
      rw [hnil, hnil']
  | inr hsingle =>
      obtain ⟨a, ha⟩ := hsingle
      have hsingle' := (hperm.filter p).symm
      rw [ha, List.perm_singleton] at hsingle'
      rw [ha, hsingle']

namespace Dialog

/-- A message with both tags finds at most one of the dialogs, and the search for the dialog
of a request finds the same one in whatever order they are. -/
def Identified (calls : List CallDialogs) : Prop :=
  (allDialogs calls).Pairwise ExclusiveAsUas ∧ (allDialogs calls).Pairwise ExclusiveAsUac ∧
    ∀ calls', (allDialogs calls).Perm (allDialogs calls') → ∀ request : SipFields,
      request.CarriesTags → findDialog calls request = findDialog calls' request

theorem identified_iff (calls : List CallDialogs) :
    Identified calls ↔ (allDialogs calls).Pairwise fun d e => separated d e = true := by
  constructor
  · intro h
    exact h.1.imp fun hexclusive => (exclusiveAsUas_iff _ _).1 hexclusive
  · intro h
    refine ⟨h.imp fun hsep => (exclusiveAsUas_iff _ _).2 hsep, h.imp exclusiveAsUac_of_separated, ?_⟩
    intro calls' hperm request htags
    rw [findDialog_eq, findDialog_eq]
    apply find?_perm hperm
    exact h.imp fun hsep => (exclusiveAsUas_iff _ _).2 hsep request htags

/-- The address `<sip:host>;tag=tag`. -/
def hostAddress (host tag : Str) : Option From :=
  some
    { displayname := none
      url := some ⟨some "sip".toList, none, none, some host, none, [], [], none⟩
      genParams := [⟨"tag".toList, some tag⟩] }

/-- A dialog of a callee that answered with the tag `localTag`. -/
def calleeDialog (localTag : Str) : Dialog where
  callId := some "call1@host".toList
  localTag := some localTag
  remoteTag := some "r1".toList
  lineParam := none
  routeSet := []
  localCseq := 1
  remoteCseq := 1
  remoteUri := hostAddress "remote".toList "r1".toList
  localUri := hostAddress "host".toList localTag
  remoteContactUri := none
  secure := -1
  type := .callee
  state := .confirmed

/-- Two dialogs of one Call-ID and one remote tag differ in their local tags only, which nobody
compares: a request in the second finds the first. -/
theorem not_identified :
    ¬ ∀ calls : List CallDialogs,
      ((allDialogs calls).Pairwise fun d e => d.ident ≠ e.ident) → Identified calls := by
  intro h
  have hident := h [[some (calleeDialog "a".toList)], [some (calleeDialog "b".toList)]] (by decide)
  rw [identified_iff] at hident
  revert hident
  decide

end Dialog
end Exosip
