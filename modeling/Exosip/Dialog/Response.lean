import Exosip.Dialog.Basic

/-! `_eXosip_build_response_default`, and the Record-Routes of an answer that establishes a
dialog. -/
namespace Exosip

open CString

/-- What a response takes from its surroundings: the reason phrases of the parser library, a
fresh random number as a string and the name of the application. -/
structure ResponseContext where
  reason : Int → Option Str
  newRandom : Str
  userAgent : Str

namespace SipFields

/-- `osip_message_set_header`. -/
def addHeader (sip : SipFields) (hname : Str) (hvalue : Option Str) : SipFields :=
  { sip with headers := sip.headers ++ [SipMessage.newHeader hname hvalue] }

/-- `osip_message_header_get_byname` from the first position on. -/
def headerByname (sip : SipFields) (hname : Str) : Option Header :=
  sip.headers.find? fun header => osipStrcasecmp (header.hname.getD []) hname

def reasonPhraseFor (context : ResponseContext) (status : Int) (request : SipFields) : Str :=
  if request.toMessage.isNotify ∧ status = 481 then "Subscription Does Not Exist".toList
  else if request.toMessage.isSubscribe ∧ status = 202 then "Accepted subscription".toList
  else
    (context.reason status).getD
      (if status = 101 then "Dialog Establishement".toList else "Unknown code".toList)

def responseTo (context : ResponseContext) (dialog : Option Dialog) (status : Int) (header : To) : To :=
  if (osipFromGetTag header).isSome then header
  else
    match dialog.bind Dialog.localTag with
    | some localTag =>
        { header with genParams := GenericParam.add header.genParams "tag".toList (some localTag) }
    | none =>
        if status = 100 then header
        else
          { header with
            genParams := GenericParam.add header.genParams "tag".toList (some context.newRandom) }

/-- What a response to SUBSCRIBE says besides. The Expires header is only cloned when it was
not found. -/
def subscribeHeaders (request response : SipFields) : SipFields :=
  if request.toMessage.isSubscribe then
    match (request.headerByname "event".toList).bind Header.hvalue with
    | some hvalue => response.addHeader "Event".toList (some hvalue)
    | none => response.addHeader "Event".toList (some "presence".toList)
  else response

/-- `_eXosip_build_response_default`. -/
def buildResponseDefault (context : ResponseContext) (dialog : Option Dialog) (status : Int)
    (request : SipFields) : Except Int SipFields := do
  let toHeader ← fromCloneOf request.toHeader
  let fromHeader ← fromCloneOf request.fromHeader
  let vias ← osipListClone viaClone request.vias
  let callId ← cloneData callIdClone request.callId
  let cseq ← cloneData cseqClone request.cseq
  if callId.isNone ∨ cseq.isNone then .error osipBadparameter
  else
    let response : SipFields :=
      { init with
        sipVersion := some "SIP/2.0".toList
        statusCode := status
        reasonPhrase := some (reasonPhraseFor context status request)
        toHeader := some (responseTo context dialog status toHeader)
        fromHeader := some fromHeader
        vias
        callId
        cseq }
    .ok ((subscribeHeaders request response).addHeader "User-Agent".toList (some context.userAgent))

/-- The Record-Routes that `_eXosip_complete_answer_that_establish_a_dialog` copies. -/
def copyRecordRoutes (response request : SipFields) : Except Int SipFields := do
  let recordRoutes ← osipListClone fromClone request.recordRoutes
  .ok { response with recordRoutes := response.recordRoutes ++ recordRoutes }

theorem subscribeHeaders_recordRoutes (request response : SipFields) :
    (subscribeHeaders request response).recordRoutes = response.recordRoutes := by
  unfold subscribeHeaders
  split
  · split
    · rfl
    · rfl
  · rfl

theorem buildResponseDefault_recordRoutes {context : ResponseContext} {dialog : Option Dialog}
    {status : Int} {request response : SipFields}
    (h : buildResponseDefault context dialog status request = .ok response) :
    response.recordRoutes = [] := by
  unfold buildResponseDefault at h
  simp only [exists_ok_bind] at h
  obtain ⟨toHeader, -, fromHeader, -, vias, -, callId, -, cseq, -, h⟩ := h
  split at h
  · cases h
  · cases h
    exact subscribeHeaders_recordRoutes _ _

theorem copyRecordRoutes_recordRoutes {answer response request : SipFields}
    (h : copyRecordRoutes answer request = .ok response) :
    response.recordRoutes = answer.recordRoutes ++ request.recordRoutes := by
  unfold copyRecordRoutes at h
  simp only [exists_ok_bind, osipListClone_eq_ok copies_fromClone] at h
  obtain ⟨_, ⟨_, rfl⟩, hresponse⟩ := h
  cases hresponse
  rfl

end SipFields
end Exosip
