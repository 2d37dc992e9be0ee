import Exosip.Dialog.RouteSet

/-! The callbacks for the responses to the requests that are sent in a dialog of a call. -/
namespace Exosip

open CString Machine

/-- `MSG_IS_RESPONSE_FOR`. -/
def SipFields.isResponseFor (sip : SipFields) (requestname : String) : Bool :=
  sip.statusCode ≠ 0 && sip.cseq.bind Cseq.method == some requestname.toList

/-- `MSG_TEST_CODE`. -/
def SipFields.testCode (sip : SipFields) (code : Int) : Bool :=
  sip.statusCode ≠ 0 && code == sip.statusCode

/-- The types of the events that the callbacks report. -/
inductive ResponseEventType where
  | callProceeding
  | callRinging
  | callAnswered
  | callRedirected
  | callRequestfailure
  | callServerfailure
  | callGlobalfailure
  | callMessageProceeding
  | callMessageAnswered
  | callMessageRedirected
  | callMessageRequestfailure
  | callMessageServerfailure
  | callMessageGlobalfailure
  | messageAnswered
  | messageRedirected
  | messageRequestfailure
  | messageServerfailure
  | messageGlobalfailure
  deriving DecidableEq, Repr

/-- `eXosip_dialog_t` of a call, with the retry counter of the call itself. -/
structure InCall where
  dDialog : Option Dialog
  dMincseq : Int
  dRetry : Int
  cRetry : Int
  deriving DecidableEq, Repr

inductive CallAction where
  | osipDialogFree (dialog : Dialog)
  | report (type : ResponseEventType)
  deriving DecidableEq, Repr

def CallAction.freed : CallAction → Option Dialog
  | osipDialogFree dialog => some dialog
  | report _ => none

namespace InCall

def setDialog (jd : InCall) (dialog : Dialog) : InCall := { jd with dDialog := some dialog }

/-- `osip_dialog_init_as_uac (&(jd->d_dialog), sip)`: there is no dialog when it fails. -/
def initDialog (jd : InCall) (sip : SipFields) : InCall :=
  { jd with dDialog := (Dialog.initAsUac sip).result.toOption }

/-- The dialog in `cb_rcv1xx`. -/
def update1xx (jd : InCall) (sip : SipFields) : InCall × List CallAction :=
  match jd.dDialog with
  | none => (jd, [])
  | some dialog =>
      match dialog.remoteTag with
      | none => (jd.setDialog ((dialog.updateRouteSetAsUac sip).2.takeTag sip), [])
      | some remoteTag =>
          if tagValue sip.toHeader = some remoteTag then
            (jd.setDialog (dialog.updateRouteSetAsUac sip).2, [])
          else (jd.initDialog sip, [.osipDialogFree dialog])

/-- `cb_rcv1xx`. In a call there are no events of subscriptions. -/
def cbRcv1xx : Step InCall SipFields CallAction := fun jd sip =>
  if sip.isResponseFor "OPTIONS" then (jd, [.report .callMessageProceeding])
  else if sip.isResponseFor "INVITE" && sip.testCode 100 then (jd, [.report .callProceeding])
  else if sip.isResponseFor "SUBSCRIBE" && sip.testCode 100 then (jd, [])
  else if sip.isResponseFor "REFER" && sip.testCode 100 then (jd, [])
  else if sip.isResponseFor "INVITE" then
    let updated := jd.update1xx sip
    let type := if sip.statusCode < 180 then ResponseEventType.callProceeding else .callRinging
    (updated.1, updated.2 ++ [.report type])
  else if sip.isResponseFor "REFER" || sip.isResponseFor "SUBSCRIBE" then jd.update1xx sip
  else (jd, [])

/-- The test of `cb_rcv2xx_4invite`: a tag without a value belongs to the dialog. -/
def sameDialog (remoteTag : Option Str) (tag : Option GenericParam) : Bool :=
  match remoteTag, tag with
  | none, none => true
  | some _, none => false
  | none, some _ => false
  | some remoteTag, some tag => tag.gvalue.all (· == remoteTag)

/-- The update by a 2xx of the same dialog. -/
def confirm (dialog : Dialog) (sip : SipFields) : Dialog :=
  let dialog := (dialog.updateRouteSetAsUac sip).2
  (if dialog.remoteTag.isNone then dialog.takeTag sip else dialog).setState .confirmed

def replace2xx (jd : InCall) (sip : SipFields) : InCall :=
  match (jd.initDialog sip).dDialog with
  | none => jd.initDialog sip
  | some dialog =>
      { jd with
        dDialog := some { dialog with localCseq := dialog.localCseq + jd.dMincseq }
        dMincseq := 0 }

def cbRcv2xx4invite : Step InCall SipFields CallAction := fun jd sip =>
  match jd.dDialog with
  | none => (jd, [])
  | some dialog =>
      if sameDialog dialog.remoteTag (sip.toHeader.bind osipFromGetTag) then
        (jd.setDialog (confirm dialog sip), [.report .callAnswered])
      else (jd.replace2xx sip, [.osipDialogFree dialog, .report .callAnswered])

/-- `cb_rcv2xx`. No registration has the transaction of a call. -/
def cbRcv2xx : Step InCall SipFields CallAction := fun jd sip =>
  if sip.isResponseFor "PUBLISH" then (jd, [.report .messageAnswered])
  else if sip.isResponseFor "REGISTER" then (jd, [])
  else
    let jd := { jd with dRetry := 0, cRetry := 0 }
    if sip.isResponseFor "INVITE" then jd.cbRcv2xx4invite sip
    else (jd, [.report .callMessageAnswered])

/-- `_eXosip_delete_early_dialog`. -/
def deleteEarlyDialog (jd : InCall) : InCall × List CallAction :=
  match jd.dDialog with
  | none => (jd, [])
  | some dialog =>
      if dialog.state = .early then ({ jd with dDialog := none }, [.osipDialogFree dialog])
      else (jd, [])

/-- What the callbacks for the final responses other than 2xx have in common; they report
`message` outside of calls, `call` for an INVITE and `callMessage` for other requests. -/
def cbRcvFailure (message call callMessage : ResponseEventType) : Step InCall SipFields CallAction :=
  fun jd sip =>
    if sip.isResponseFor "PUBLISH" then (jd, [.report message])
    else if sip.isResponseFor "REGISTER" then (jd, [])
    else if sip.isResponseFor "INVITE" then
      let deleted := jd.deleteEarlyDialog
      (deleted.1, .report call :: deleted.2)
    else (jd, [.report callMessage])

def cbRcv3xx := cbRcvFailure .messageRedirected .callRedirected .callMessageRedirected

def cbRcv4xx :=
  cbRcvFailure .messageRequestfailure .callRequestfailure .callMessageRequestfailure

def cbRcv5xx := cbRcvFailure .messageServerfailure .callServerfailure .callMessageServerfailure

def cbRcv6xx := cbRcvFailure .messageGlobalfailure .callGlobalfailure .callMessageGlobalfailure

def rcvResponse : Step InCall SipFields CallAction := fun jd sip =>
  if sip.statusCode < 200 then jd.cbRcv1xx sip
  else if sip.statusCode < 300 then jd.cbRcv2xx sip
  else if sip.statusCode < 400 then jd.cbRcv3xx sip
  else if sip.statusCode < 500 then jd.cbRcv4xx sip
  else if sip.statusCode < 600 then jd.cbRcv5xx sip
  else jd.cbRcv6xx sip

theorem rcvResponse_failure {sip : SipFields} (h : 300 ≤ sip.statusCode) (jd : InCall) :
    ∃ message call callMessage,
      jd.rcvResponse sip = jd.cbRcvFailure message call callMessage sip := by
  unfold rcvResponse
  rw [if_neg (by omega), if_neg (by omega)]
  split_ifs
  · exact ⟨_, _, _, rfl⟩
  · exact ⟨_, _, _, rfl⟩
  · exact ⟨_, _, _, rfl⟩
  · exact ⟨_, _, _, rfl⟩

end InCall
end Exosip
