import Exosip.Dialog.Matching
import Exosip.Parser.Uri
import Exosip.Parser.Parse

/-! Which strings the dialog functions hand to `strcmp` and `osip_strdup`, and when one of
them is NULL. -/
namespace Exosip

open CString Machine StrCalls

/-- The calls by which a message reaches a dialog. -/
inductive DialogCall where
  | initAsUac (response : SipFields)
  | initAsUas (invite response : SipFields)
  | matchAsUac (dlg : Dialog) (answer : SipFields)
  | matchAsUas (dlg : Dialog) (request : SipFields)
  | updateTagAsUac (dlg : Dialog) (response : SipFields)

namespace DialogCall

def strings : DialogCall → List (Option Str)
  | initAsUac response => (Dialog.initAsUac response).calls
  | initAsUas invite response => (Dialog.initAsUas invite response).calls
  | matchAsUac dlg answer => (dlg.matchAsUac answer).calls
  | matchAsUas dlg request => (dlg.matchAsUas request).calls
  | updateTagAsUac dlg response => (dlg.updateTagAsUac response).calls

/-- No NULL is compared or copied. -/
def Safe (call : DialogCall) : Prop := ∀ s ∈ call.strings, s.isSome = true

end DialogCall

namespace Dialog

def tagsOfInit (response : SipFields) (localHeader remoteHeader : Option From) :
    List GenericParam :=
  match response.cseq, localHeader, remoteHeader, callIdString response.callId with
  | some _, some localHeader, some remoteHeader, .ok _ =>
      match osipFromGetTag localHeader with
      | none => []
      | some tag => tag :: (osipFromGetTag remoteHeader).toList
  | _, _, _, _ => []

/-- The remote tag of a message, when the dialog has one to compare it with. -/
def tagsOfMatchRemote (dlg : Dialog) (remoteHeader : Option From) : List GenericParam :=
  if dlg.remoteTag.isSome then (remoteHeader.bind osipFromGetTag).toList else []

/-- The tags of the answer that are compared with those of the dialog. -/
def tagsOfMatchAsUac (dlg : Dialog) (answer : SipFields) : List GenericParam :=
  if dlg.concerns answer ∧ answer.fromHeader.isSome ∧ answer.toHeader.isSome then
    match answer.fromHeader.bind osipFromGetTag with
    | none => []
    | some tag =>
        tag :: (if tag.gvalue = dlg.localTag then dlg.tagsOfMatchRemote answer.toHeader else [])
  else []

def tagsOfMatchAsUas (dlg : Dialog) (request : SipFields) : List GenericParam :=
  if dlg.concerns request ∧ request.fromHeader.isSome ∧ request.toHeader.isSome then
    dlg.tagsOfMatchRemote request.fromHeader
  else []

end Dialog

/-- The tag parameters whose value the call compares or copies without a look at it. -/
def DialogCall.tagsRead : DialogCall → List GenericParam
  | initAsUac response => Dialog.tagsOfInit response response.fromHeader response.toHeader
  | initAsUas _ response => Dialog.tagsOfInit response response.toHeader response.fromHeader
  | matchAsUac dlg answer => dlg.tagsOfMatchAsUac answer
  | matchAsUas dlg request => dlg.tagsOfMatchAsUas request
  | updateTagAsUac _ _ => []

/-! ### What is safe -/

@[simp] theorem safe_strcmp (s t : Option Str) :
    (strcmp s t).Safe ↔ s.isSome = true ∧ t.isSome = true := by
  simp [Safe, Traced.Every, strcmp]

@[simp] theorem safe_osipStrdup (ch : Option Str) : (osipStrdup ch).Safe ↔ ch.isSome = true := by
  simp [Safe, Traced.Every, osipStrdup]

@[simp] theorem safe_returns {α : Type} (i : Int) : (returns i : StrCalls α).Safe :=
  Traced.every_fail _

@[simp] theorem safe_ofCode {α : Type} (x : Except Int α) : (ofCode x).Safe := Traced.every_lift _

@[simp] theorem safe_pure {α : Type} (a : α) : (pure a : StrCalls α).Safe := Traced.every_pure a

theorem safe_bind {α β : Type} {x : StrCalls α} {f : α → StrCalls β} :
    (x >>= f).Safe ↔ x.Safe ∧ ∀ a, x.result = .ok a → (f a).Safe := Traced.every_bind

theorem safe_test {α : Type} {x : StrCalls Bool} {y z : StrCalls α} (hy : y.Safe) (hz : z.Safe) :
    (do if ← x then y else z).Safe ↔ x.Safe := by
  rw [safe_bind, and_iff_left]
  intro b _
  cases b with
  | true => exact hy
  | false => exact hz

theorem safe_decided {α : Type} {x : StrCalls Bool} {b : Bool} (h : Decides x b)
    (y z : StrCalls α) :
    (do if ← x then y else z).Safe ↔ if b then y.Safe else z.Safe := by
  rw [safe_bind, and_iff_right h.2, h.1]
  cases b with
  | true => simp
  | false => simp

theorem safe_ofCode_ok {α β : Type} (a : α) (f : α → StrCalls β) :
    (ofCode (.ok a) >>= f).Safe ↔ (f a).Safe := by
  rw [safe_bind, and_iff_right (safe_ofCode _)]
  simp [ofCode, returnCode_ok]

namespace Dialog

theorem safe_lineParamOf (invite : Option SipFields) : (lineParamOf invite).Safe := by
  unfold lineParamOf
  split
  · exact safe_pure _
  · split
    · exact Traced.every_fail _
    · split
      · exact safe_pure _
      · simp

theorem safe_init {invite : Option SipFields} {response remoteMsg : SipFields}
    {localHeader remoteHeader : Option From} {type : DialogType} {remoteCseq : Int} :
    (init invite response localHeader remoteHeader remoteMsg type remoteCseq).Safe ↔
      ∀ tag ∈ tagsOfInit response localHeader remoteHeader, tag.gvalue.isSome = true := by
  unfold init tagsOfInit
  cases response.cseq with
  | none => simp
  | some cseq =>
      cases localHeader with
      | none => simp
      | some localHeader =>
          cases remoteHeader with
          | none => simp
          | some remoteHeader =>
              cases hid : callIdString response.callId with
              | error i => simp [safe_bind, ofCode, SipFields.returnCode, Except.mapError]
              | ok callId =>
                  cases htag : osipFromGetTag localHeader with
                  | none => simp [safe_bind, htag]
                  | some tag =>
                      -- the tags are copied first, and nothing behind them can be NULL
                      cases hremote : osipFromGetTag remoteHeader with
                      | none =>
                          simp [safe_bind, htag, hremote, ofCode, returnCode_ok, strdupTag,
                            safe_lineParamOf]
                      | some remoteTag =>
                          simp [safe_bind, htag, hremote, ofCode, returnCode_ok, strdupTag,
                            safe_lineParamOf]

theorem safe_matchRemoteTag {dlg : Dialog} {remoteHeader : From} {sameUris : StrCalls Bool}
    (hsame : sameUris.Safe) :
    (dlg.matchRemoteTag (osipFromGetTag remoteHeader) sameUris).Safe ↔
      ∀ tag ∈ dlg.tagsOfMatchRemote (some remoteHeader), tag.gvalue.isSome = true := by
  unfold matchRemoteTag tagsOfMatchRemote
  rw [Option.bind_some]
  cases htag : osipFromGetTag remoteHeader with
  | none =>
      cases dlg.remoteTag with
      | none => simp [safe_test, hsame]
      | some remoteTag => simp
  | some tag =>
      cases dlg.remoteTag with
      | none => simp [safe_test, hsame]
      | some remoteTag => simp [safe_test]

theorem safe_compare (a b c d : Option From) :
    (andAlso (osipFromCompare a b) (osipFromCompare c d)).Safe :=
  (decides_andAlso (decides_osipFromCompare a b) (decides_osipFromCompare c d)).2

theorem safe_matchCallId {dlg : Dialog} {sip : SipFields} {body : From → To → StrCalls Unit} :
    (dlg.matchCallId sip body).Safe ↔
      ∀ f, sip.fromHeader = some f → ∀ t, sip.toHeader = some t → dlg.sameCallId sip = true →
        (body f t).Safe := by
  unfold matchCallId sameCallId
  cases dlg.callId with
  | none => simp
  | some callId =>
      cases sip.callId with
      | none => simp [callIdString]
      | some sipCallId =>
          cases sip.fromHeader with
          | none => simp
          | some sipFrom =>
              cases sip.toHeader with
              | none => simp
              | some sipTo =>
                  cases hid : osipCallIdToStr sipCallId with
                  | error i =>
                      simp [safe_bind, ofCode, hid, callIdString, SipFields.returnCode,
                        Except.mapError]
                  | ok tmp =>
                      dsimp only
                      rw [hid, safe_ofCode_ok, safe_decided (decides_strcmp callId tmp)]
                      by_cases hsame : callId = tmp
                      · simp [hsame, callIdString, hid]
                      · simp [hsame, Ne.symm hsame, callIdString, hid]

theorem safe_matchAsUas (dlg : Dialog) (request : SipFields) :
    (dlg.matchAsUas request).Safe ↔
      ∀ tag ∈ dlg.tagsOfMatchAsUas request, tag.gvalue.isSome = true := by
  rw [matchAsUas_eq_matchCallId, safe_matchCallId]
  unfold tagsOfMatchAsUas
  rw [concerns_eq]
  cases request.fromHeader with
  | none => simp
  | some requestFrom =>
      cases request.toHeader with
      | none => simp
      | some requestTo =>
          cases dlg.sameCallId request with
          | false => simp
          | true =>
              cases dlg.localTag with
              | none => simp
              | some localTag => simp [safe_matchRemoteTag (safe_compare _ _ _ _)]

theorem safe_matchAsUac (dlg : Dialog) (answer : SipFields) :
    (dlg.matchAsUac answer).Safe ↔
      ∀ tag ∈ dlg.tagsOfMatchAsUac answer, tag.gvalue.isSome = true := by
  rw [matchAsUac_eq_matchCallId, safe_matchCallId]
  unfold tagsOfMatchAsUac
  rw [concerns_eq]
  cases answer.fromHeader with
  | none => simp
  | some answerFrom =>
      cases answer.toHeader with
      | none => simp
      | some answerTo =>
          cases dlg.sameCallId answer with
          | false => simp
          | true =>
              cases htag : osipFromGetTag answerFrom with
              | none => simp [htag]
              | some tag =>
                  cases dlg.localTag with
                  | none => simp [htag]
                  | some localTag =>
                      cases hvalue : tag.gvalue with
                      | none => simp [htag, hvalue, safe_bind]
                      | some value =>
                          simp only [Option.some.injEq, forall_eq', forall_const, htag, hvalue,
                            Option.isNone_some, Bool.false_eq_true, if_false]
                          rw [safe_decided (decides_strcmp value localTag)]
                          by_cases hlocal : value = localTag
                          · simp [hlocal, htag, hvalue, safe_matchRemoteTag (safe_compare _ _ _ _)]
                          · simp [hlocal, htag, hvalue]

theorem safe_updateTagAsUac (dlg : Dialog) (response : SipFields) :
    (dlg.updateTagAsUac response).Safe := by
  unfold updateTagAsUac
  split
  · exact safe_returns _
  · split
    · exact safe_returns _
    · split
      · simp [safe_bind]
      · exact safe_pure _

end Dialog

/-- A call compares and copies no NULL exactly when every tag that it reads has a value. -/
theorem DialogCall.safe_iff (call : DialogCall) :
    call.Safe ↔ ∀ tag ∈ call.tagsRead, tag.gvalue.isSome = true := by
  cases call with
  | initAsUac response => exact Dialog.safe_init
  | initAsUas invite response =>
      show (Dialog.initAsUas invite response).Safe ↔ _
      unfold Dialog.initAsUas DialogCall.tagsRead
      cases hcseq : response.cseq with
      | none => simp [Dialog.tagsOfInit, hcseq]
      | some cseq => exact Dialog.safe_init
  | matchAsUac dlg answer => exact Dialog.safe_matchAsUac dlg answer
  | matchAsUas dlg request => exact Dialog.safe_matchAsUas dlg request
  | updateTagAsUac dlg response =>
      refine ⟨fun _ tag htag => ?_, fun _ => Dialog.safe_updateTagAsUac dlg response⟩
      cases htag

/-! ### A tag without a value -/

/-- The parsers of the source, with those left out that the text below has no use for. -/
def dialogParsers : MessageParsers :=
  { (default : MessageParsers) with
    fromParse := osipFromParse osipUriParse
    uriParse := osipUriParse }

def inviteAnswer : Str :=
  ("SIP/2.0 200 OK\nVia: SIP/2.0/UDP b\nFrom: <sip:b@b>;tag=t1\nTo: <sip:a@a>;tag=t2\n" ++
    "Call-ID: c1\nCSeq: 1 INVITE\n\n").toList

def taglessBye : Str :=
  ("BYE sip:b@b SIP/2.0\nVia: SIP/2.0/UDP a\nFrom: <sip:a@a>;tag\nTo: <sip:b@b>;tag=t1\n" ++
    "Call-ID: c1\nCSeq: 2 BYE\n\n").toList

instance (call : DialogCall) : Decidable call.Safe :=
  inferInstanceAs (Decidable (∀ s ∈ call.strings, s.isSome = true))

def unsafeFor (response request : Str) : Bool :=
  match SipMessage.parse dialogParsers response, SipMessage.parse dialogParsers request with
  | .ok response, .ok request =>
      match (Dialog.initAsUac response.fields).result with
      | .ok dlg => !decide (DialogCall.matchAsUas dlg request.fields).Safe
      | .error _ => false
  | _, _ => false

theorem taglessBye_unsafe : unsafeFor inviteAnswer taglessBye = true := by decide +kernel

/-- Both messages are accepted, and the NULL for the tag of the second is compared. -/
theorem not_safe_of_parsed :
    ¬ ∀ (buf1 buf2 : Str) (response request : SipMessage) (dlg : Dialog),
      SipMessage.parse dialogParsers buf1 = .ok response →
      SipMessage.parse dialogParsers buf2 = .ok request →
      (Dialog.initAsUac response.fields).result = .ok dlg →
      (DialogCall.matchAsUas dlg request.fields).Safe := by
  intro h
  have hunsafe := taglessBye_unsafe
  unfold unsafeFor at hunsafe
  split at hunsafe
  · next response request hresponse hrequest =>
      split at hunsafe
      · next dlg hdlg =>
          simp [h inviteAnswer taglessBye response request dlg hresponse hrequest hdlg] at hunsafe
      · cases hunsafe
  · cases hunsafe

end Exosip
