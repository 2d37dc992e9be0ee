import Exosip.Parser.Clone
import Exosip.Machine.Traced

/-! The dialogs of osip: creation from a request and a response, matching of incoming
messages, and the updates by later messages. -/
namespace Exosip

open CString Machine

abbrev osipWrongState : Int := -3

inductive DialogType where
  | caller
  | callee
  deriving DecidableEq, Repr

inductive DialogState where
  | early
  | confirmed
  | close
  deriving DecidableEq, Repr

/-- `osip_dialog_t`. -/
structure Dialog where
  callId : Option Str
  localTag : Option Str
  remoteTag : Option Str
  lineParam : Option Str
  routeSet : List RecordRoute
  localCseq : Int
  remoteCseq : Int
  remoteUri : Option To
  localUri : Option From
  remoteContactUri : Option Contact
  secure : Int
  type : DialogType
  state : DialogState
  deriving DecidableEq, Repr

/-- A computation that hands strings to `strcmp` and `osip_strdup`, each of which may be NULL. -/
abbrev StrCalls := Traced (Option Str) Failure

namespace StrCalls

/-- `0 == strcmp (s, t)`. -/
def strcmp (s t : Option Str) : StrCalls Bool where
  calls := [s, t]
  result :=
    match s, t with
    | some s, some t => .ok (s == t)
    | _, _ => .error .fault

/-- `osip_strdup`, which gives NULL for NULL. -/
def osipStrdup (ch : Option Str) : StrCalls (Option Str) := ⟨[ch], .ok ch⟩

def returns {α : Type} (i : Int) : StrCalls α := Traced.fail (.code i)

def ofCode {α : Type} (x : Except Int α) : StrCalls α := Traced.lift (SipFields.returnCode x)

/-- No string is NULL. -/
abbrev Safe {α : Type} (x : StrCalls α) : Prop := x.Every fun s => s.isSome = true

end StrCalls

open StrCalls

/-! ### Comparing two addresses -/

/-- `osip_from_get_tag` and `osip_to_get_tag`. -/
def osipFromGetTag (header : From) : Option GenericParam :=
  GenericParam.getByname header.genParams "tag".toList

def tagOfCompare (genParams : List GenericParam) : Option Str :=
  (genParams.find? fun param => "tag".toList.isPrefixOf param.gname).bind GenericParam.gvalue

def strcmpWhenBoth (s t : Option Str) : StrCalls Bool :=
  if s.isSome && t.isSome then strcmp s t else pure true

/-- The `&&` of the source: the second test is made only after the first holds. -/
def andAlso (x y : StrCalls Bool) : StrCalls Bool := do
  if ← x then y else pure false

/-- The part of `osip_from_compare` for two headers with their URIs. -/
def compareUrls (url1 url2 : Uri) (tag1 tag2 : Option Str) : StrCalls Bool :=
  match url1.host, url2.host with
  | none, none =>
      if url1.string.isNone || url2.string.isNone then pure false
      else strcmp url1.string url2.string
  | some host1, some host2 =>
      andAlso (strcmp (some host1) (some host2))
        (andAlso (strcmpWhenBoth url1.username url2.username) (strcmpWhenBoth tag1 tag2))
  | _, _ => pure false

/-- `osip_from_compare`, as the test for success. -/
def osipFromCompare (from1 from2 : Option From) : StrCalls Bool :=
  match from1, from2 with
  | some ⟨_, some url1, genParams1⟩, some ⟨_, some url2, genParams2⟩ =>
      compareUrls url1 url2 (tagOfCompare genParams1) (tagOfCompare genParams2)
  | _, _ => pure false

/-! ### Matching -/

namespace Dialog

/-- The end of both matching functions: the remote tag of the message against that of the
dialog. When the dialog has none the addresses decide. -/
def matchRemoteTag (dlg : Dialog) (tagParamRemote : Option GenericParam)
    (sameUris : StrCalls Bool) : StrCalls Unit :=
  match tagParamRemote, dlg.remoteTag with
  | none, some _ => returns osipSyntaxerror
  | _, none => do
      if ← sameUris then pure () else returns osipUndefinedError
  | some tag, some remoteTag => do
      if ← strcmp tag.gvalue (some remoteTag) then pure () else returns osipUndefinedError

/-- `osip_dialog_match_as_uac`. -/
def matchAsUac (dlg : Dialog) (answer : SipFields) : StrCalls Unit :=
  match dlg.callId, answer.callId, answer.fromHeader, answer.toHeader with
  | some callId, some answerCallId, some answerFrom, some answerTo => do
      let tmp ← ofCode (osipCallIdToStr answerCallId)
      if ← strcmp (some callId) (some tmp) then
        match osipFromGetTag answerFrom with
        | none => returns osipSyntaxerror
        | some tagParamLocal =>
            if dlg.localTag.isNone then returns osipSyntaxerror
            else do
              if ← strcmp tagParamLocal.gvalue dlg.localTag then
                matchRemoteTag dlg (osipFromGetTag answerTo)
                  (andAlso (osipFromCompare dlg.localUri answer.fromHeader)
                    (osipFromCompare dlg.remoteUri answer.toHeader))
              else returns osipUndefinedError
      else returns osipUndefinedError
  | _, _, _, _ => returns osipBadparameter

/-- `osip_dialog_match_as_uas`: the tag in the To header of the request is not looked at. -/
def matchAsUas (dlg : Dialog) (request : SipFields) : StrCalls Unit :=
  match dlg.callId, request.callId, request.fromHeader, request.toHeader with
  | some callId, some requestCallId, some requestFrom, some _ => do
      let tmp ← ofCode (osipCallIdToStr requestCallId)
      if ← strcmp (some callId) (some tmp) then
        if dlg.localTag.isNone then returns osipSyntaxerror
        else
          matchRemoteTag dlg (osipFromGetTag requestFrom)
            (andAlso (osipFromCompare dlg.remoteUri request.fromHeader)
              (osipFromCompare dlg.localUri request.toHeader))
      else returns osipUndefinedError
  | _, _, _, _ => returns osipBadparameter

end Dialog

/-! ### Creation -/

def SipFields.isStatus2xx (sip : SipFields) : Bool := 200 ≤ sip.statusCode && sip.statusCode < 300

/-- `osip_atoi` on a string that may be NULL. -/
def osipAtoiOf (number : Option Str) : Int :=
  match number with
  | none => osipUndefinedError
  | some number => osipAtoi number

/-- `osip_atoi (sip->cseq->number)`. -/
def SipFields.cseqNumber (sip : SipFields) : Int := osipAtoiOf (sip.cseq.bind Cseq.number)

/-- The call-id of a message as a string; a missing header is a bad parameter. -/
def callIdString (callId : Option CallId) : Except Int Str :=
  match callId with
  | none => .error osipBadparameter
  | some callId => osipCallIdToStr callId

/-- `osip_from_clone` of a header that may be NULL. -/
def fromCloneOf (header : Option From) : Except Int From :=
  match header with
  | none => .error osipBadparameter
  | some header => fromClone header

namespace Dialog

/-- The `line` parameter of the request-URI, which is remembered when it has a value. -/
def lineParamOf (invite : Option SipFields) : StrCalls (Option Str) :=
  match invite with
  | none => pure none
  | some invite =>
      match invite.reqUri with
      | none => Traced.fail .fault
      | some reqUri =>
          match (reqUri.uparamGetByname "line".toList).bind GenericParam.gvalue with
          | none => pure none
          | some gvalue => osipStrdup (some gvalue)

def strdupTag (tag : Option GenericParam) : StrCalls (Option Str) :=
  match tag with
  | none => pure none
  | some tag => osipStrdup tag.gvalue

def routeSetOf (invite : Option SipFields) (recordRoutes : List RecordRoute) : List RecordRoute :=
  if invite.isNone then recordRoutes.reverse else recordRoutes

def remoteContactOf (remoteMsg : SipFields) : Except Int (Option Contact) :=
  cloneData fromClone remoteMsg.contacts.head?

/-- `__osip_dialog_init`. The type and the remote CSeq are set by its callers. -/
def init (invite : Option SipFields) (response : SipFields) (localHeader : Option From)
    (remoteHeader : Option To) (remoteMsg : SipFields) (type : DialogType) (remoteCseq : Int) :
    StrCalls Dialog :=
  match response.cseq, localHeader, remoteHeader with
  | some cseq, some localUri, some remoteUri => do
      let callId ← ofCode (callIdString response.callId)
      match osipFromGetTag localUri with
      | none => returns osipUndefinedError
      | some tag => do
          let localTag ← osipStrdup tag.gvalue
          let remoteTag ← strdupTag (osipFromGetTag remoteUri)
          let lineParam ← lineParamOf invite
          let recordRoutes ← ofCode (osipListClone fromClone response.recordRoutes)
          let remoteUri ← ofCode (fromClone remoteUri)
          let localUri ← ofCode (fromClone localUri)
          let remoteContactUri ← ofCode (remoteContactOf remoteMsg)
          pure
            { callId := some callId
              localTag
              remoteTag
              lineParam
              routeSet := routeSetOf invite recordRoutes
              localCseq := osipAtoiOf cseq.number
              remoteCseq
              remoteUri := some remoteUri
              localUri := some localUri
              remoteContactUri
              secure := -1
              type
              state := if response.isStatus2xx then .confirmed else .early }
  | _, _, _ => returns osipSyntaxerror

/-- `osip_dialog_init_as_uac`. -/
def initAsUac (response : SipFields) : StrCalls Dialog :=
  init none response response.fromHeader response.toHeader response .caller (-1)

/-- `osip_dialog_init_as_uas`. -/
def initAsUas (invite response : SipFields) : StrCalls Dialog :=
  match response.cseq with
  | none => returns osipSyntaxerror
  | some cseq =>
      init (some invite) response response.toHeader response.fromHeader invite .callee
        (osipAtoiOf cseq.number)

/-! ### Updates -/

/-- `osip_dialog_set_state`. -/
def setState (dialog : Dialog) (state : DialogState) : Dialog := { dialog with state }

/-- The remote target of a later message replaces the one before, also when its clone fails. -/
def updateContact (dialog : Dialog) (sip : SipFields) : Int × Dialog :=
  match sip.contacts.head? with
  | none => (osipSuccess, dialog)
  | some contact =>
      match fromClone contact with
      | .error i => (i, { dialog with remoteContactUri := none })
      | .ok copy => (osipSuccess, { dialog with remoteContactUri := some copy })

/-- `osip_dialog_update_route_set_as_uas`. -/
def updateRouteSetAsUas (dialog : Dialog) (invite : SipFields) : Int × Dialog :=
  updateContact dialog invite

/-- `osip_dialog_update_osip_cseq_as_uas`. -/
def updateOsipCseqAsUas (dialog : Dialog) (invite : SipFields) : Int × Dialog :=
  match invite.cseq.bind Cseq.number with
  | none => (osipBadparameter, dialog)
  | some number => (osipSuccess, { dialog with remoteCseq := osipAtoi number })

def addRecordRoutes : List RecordRoute → List RecordRoute → Int × List RecordRoute
  | routeSet, [] => (osipSuccess, routeSet)
  | routeSet, rr :: recordRoutes =>
      match fromClone rr with
      | .error i => (i, routeSet)
      | .ok rr2 => addRecordRoutes (rr2 :: routeSet) recordRoutes

/-- `osip_dialog_update_route_set_as_uac`. -/
def updateRouteSetAsUac (dialog : Dialog) (response : SipFields) : Int × Dialog :=
  let contact := updateContact dialog response
  if contact.1 ≠ osipSuccess then contact
  else
    let routes :=
      if dialog.state = .early then addRecordRoutes [] response.recordRoutes
      else (osipSuccess, dialog.routeSet)
    let dialog := { contact.2 with routeSet := routes.2 }
    if routes.1 ≠ osipSuccess then (routes.1, dialog)
    else (osipSuccess, if response.isStatus2xx then dialog.setState .confirmed else dialog)

/-- `osip_dialog_update_tag_as_uac`. -/
def updateTagAsUac (dialog : Dialog) (response : SipFields) : StrCalls Dialog :=
  match response.toHeader with
  | none => returns osipBadparameter
  | some toHeader =>
      if dialog.remoteTag.isSome then returns osipWrongState
      else
        match osipFromGetTag toHeader with
        | some ⟨_, some gvalue⟩ => do pure { dialog with remoteTag := ← osipStrdup (some gvalue) }
        | _ => pure { dialog with remoteTag := none }

end Dialog
end Exosip
