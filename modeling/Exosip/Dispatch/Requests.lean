import Exosip.Dispatch.State

/-! What the dispatcher does with a request of each kind, once it knows where it belongs. -/
namespace Exosip

open CString StrCalls

/-- `eXosip_event_type_t`, as far as requests are reported. -/
inductive EXosipEventType where
  | callInvite
  | callReinvite
  | callAck
  | callCancelled
  | callMessageNew
  | callClosed
  | messageNew
  | inSubscriptionNew
  | subscriptionNotify
  deriving DecidableEq, Repr

/-- An answer given to a transaction, and an event for the application. -/
inductive Output where
  | answer (transactionid : Int) (response : SipFields)
  | event (type : EXosipEventType) (tid : Option Int)
  deriving DecidableEq

/-- Which of the pointers `reserved2` to `reserved5` of the transaction are set. -/
structure Reserved where
  jc : Bool
  jd : Bool
  jn : Bool
  js : Bool
  deriving DecidableEq, Repr

def Reserved.null : Reserved := ⟨false, false, false, false⟩

/-- What a handler leaves: `reserved` is none when there is no transaction or no longer one. -/
structure Dispatched where
  s : EXosip
  reserved : Option Reserved
  outputs : List Output

/-- What the dispatcher takes from its surroundings. -/
structure Env where
  io : Io
  transactionid : Int
  socket : Int
  context : ResponseContext

namespace SipFields

def isRefer (sip : SipFields) : Bool := sip.toMessage.isMethod "REFER"

/-- `osip_message_set_content_length (answer, "0")`. -/
def withoutBody (answer : SipFields) : SipFields :=
  { answer with contentLength := some ⟨some "0".toList⟩ }

/-- The tag that `osip_from_param_get_byname (sip->to, "tag", &tag)` finds. -/
def toTag (sip : SipFields) : Option GenericParam := sip.toHeader.bind osipFromGetTag

/-- `_eXosip_complete_answer_that_establish_a_dialog`, without the Contact that it adds. -/
def completeAnswer (response request : SipFields) : Result SipFields := do
  let response ← returnCode (copyRecordRoutes response request)
  if request.toMessage.isBye then .ok response
  else
    let _reqUri ← deref request.reqUri
    let toHeader ← deref request.toHeader
    let _url ← deref toHeader.url
    match response.vias.head?.bind Via.protocol with
    | none => .error (.code osipSyntaxerror)
    | some _ => .ok response

end SipFields

open SipFields

/-- `_eXosip_dialog_init_as_uas`: no dialog is made when the call fails. -/
def exosipDialogInitAsUas (invite response : SipFields) : Result (Option EXosipDialog) := do
  match ← returned (Dialog.initAsUas invite response).result with
  | none => .ok none
  | some dlg => .ok (some ⟨some { dlg with localCseq := 1 }, [], []⟩)

/-- `osip_dialog_init_as_uac_with_remote_request`. -/
def Dialog.initAsUacWithRemoteRequest (nextRequest : SipFields) (localCseq : Int) :
    StrCalls Dialog :=
  match nextRequest.cseq with
  | none => returns osipBadparameter
  | some cseq => do
      let dlg ← Dialog.init (some nextRequest) nextRequest nextRequest.toHeader
        nextRequest.fromHeader nextRequest .caller (osipAtoiOf cseq.number)
      pure { dlg with state := .confirmed, localCseq }

/-- `_eXosip_dialog_init_as_uac` for a request. -/
def exosipDialogInitAsUac (request : SipFields) : Result (Option Dialog) :=
  returned (Dialog.initAsUacWithRemoteRequest request (-1)).result

/-- `_eXosip_send_default_answer`. -/
def sendDefaultAnswer (env : Env) (dialog : Option Dialog) (tr : Tr) (status : Int)
    (reasonPhrase : Option Str) (sip : SipFields) : List Output :=
  -- no status between 101 and 299 for an INVITE
  if 100 < status ∧ status < 299 ∧ sip.toMessage.isInvite then []
  else
    match buildResponseDefault env.context dialog status sip with
    | .error _ => []
    | .ok answer =>
        let answer := { answer with reasonPhrase := reasonPhrase.or answer.reasonPhrase }.withoutBody
        if status = 500 then
          [.answer tr.transactionid (answer.addHeader "Retry-After".toList (some "10".toList))]
        else [.answer tr.transactionid answer]

/-- The transaction goes to `j_transactions` and is answered by default. -/
def rejectWith (env : Env) (s : EXosip) (dialog : Option Dialog) (tr : Tr) (status : Int)
    (reasonPhrase : Option Str) (sip : SipFields) : Dispatched :=
  ⟨s.addTransaction tr, some .null, sendDefaultAnswer env dialog tr status reasonPhrase sip⟩

/-! ### CANCEL -/

/-- `_cancel_match_invite`, as the test for success. -/
def cancelMatchInvite (invite : Tr) (cancel : SipFields) : Bool :=
  match cancel.vias.head? with
  | none => false
  | some via =>
      match invite.topvia.paramGetByname "branch".toList, via.paramGetByname "branch".toList with
      | some br, some br2 => br.gvalue.isSome && br.gvalue == br2.gvalue
      | none, none =>
          osipCallIdMatch (some invite.callid) cancel.callId &&
            osipToTagMatch (some invite.toHeader) cancel.toHeader &&
            osipFromTagMatch (some invite.fromHeader) cancel.fromHeader &&
            osipViaMatch invite.topvia via
      | _, _ => false

def findCancelledIn (cancel : SipFields) :
    List EXosipDialog → Option (Tr × List EXosipDialog × EXosipDialog × List EXosipDialog)
  | [] => none
  | jd :: jds =>
      match jd.dIncTrs.find? (cancelMatchInvite · cancel) with
      | some tr => some (tr, [], jd, jds)
      | none =>
          (findCancelledIn cancel jds).map fun found =>
            (found.1, jd :: found.2.1, found.2.2.1, found.2.2.2)

/-- The transaction that the CANCEL is for. When it is the first INVITE of a call, `jd` is the
first dialog of the call, if there is one. -/
def findCancelled (cancel : SipFields) : List EXosipCall → Option (Tr × Option (Place Unit))
  | [] => none
  | jc :: jcs =>
      match jc.incTr.filter (cancelMatchInvite · cancel) with
      | some tr =>
          match jc.dialogs with
          | [] => some (tr, none)
          | jd :: jds => some (tr, some ⟨[], jc, [], jd, jds, jcs⟩)
      | none =>
          match findCancelledIn cancel jc.dialogs with
          | some (tr, dialogsBefore, jd, dialogsAfter) =>
              some (tr, some ⟨[], jc, dialogsBefore, jd, dialogsAfter, jcs⟩)
          | none =>
              (findCancelled cancel jcs).map fun found =>
                (found.1, found.2.map fun p => { p with before := jc :: p.before })

theorem findCancelledIn_eq_some {cancel : SipFields} {jds : List EXosipDialog}
    {found : Tr × List EXosipDialog × EXosipDialog × List EXosipDialog}
    (h : findCancelledIn cancel jds = some found) :
    jds = found.2.1 ++ found.2.2.1 :: found.2.2.2 := by
  induction jds generalizing found with
  | nil => cases h
  | cons jd jds ih =>
      rw [findCancelledIn] at h
      split at h
      · cases h
        rfl
      · obtain ⟨found', hfound', rfl⟩ := Option.map_eq_some_iff.1 h
        rw [ih hfound']
        rfl

theorem elements_findCancelled {cancel : SipFields} {jcs : List EXosipCall} {tr : Tr}
    {p : Place Unit} (h : findCancelled cancel jcs = some (tr, some p)) : p.elements = jcs := by
  induction jcs generalizing p with
  | nil => cases h
  | cons jc jcs ih =>
      rw [findCancelled] at h
      split at h
      · split at h
        · cases h
        · rename_i hdialogs
          cases h
          simp [Place.elements, Place.current, ← hdialogs]
      · split at h
        · rename_i hfound
          cases h
          have hdialogs := findCancelledIn_eq_some hfound
          simp [Place.elements, Place.current, ← hdialogs]
        · obtain ⟨found, hfound, h⟩ := Option.map_eq_some_iff.1 h
          obtain ⟨htr, hp⟩ := Prod.mk.inj h
          obtain ⟨q, hq, rfl⟩ := Option.map_eq_some_iff.1 hp
          rw [← ih (p := q) (by rw [hfound, ← htr, ← hq])]
          rfl

/-- The transaction of the CANCEL goes to the dialog `jd` or, without one, to `j_transactions`. -/
def addToDialog (s : EXosip) (jd : Option (Place Unit)) (tr : Tr) : EXosip :=
  match jd with
  | none => s.addTransaction tr
  | some p => { s with jCalls := (p.addIncTr tr).elements }

/-- The answer to the cancelled INVITE. -/
def requestTerminated (env : Env) (dialog : Option Dialog) (tr : Tr) : List Output :=
  match tr.origRequest with
  | none => []
  | some origRequest =>
      match buildResponseDefault env.context dialog 487 origRequest with
      | .error _ => []
      | .ok answer => [.answer tr.transactionid answer.withoutBody]

/-- `_eXosip_process_cancel`. -/
def processCancel (env : Env) (s : EXosip) (transaction : Tr) (sip : SipFields) : Dispatched :=
  match findCancelled sip s.jCalls with
  | none =>
      match buildResponseDefault env.context none 481 sip with
      | .error _ => ⟨s.addTransaction transaction, some .null, []⟩
      | .ok answer =>
          ⟨s.addTransaction transaction, some .null,
            [.answer transaction.transactionid answer.withoutBody]⟩
  | some (tr, jd) =>
      let dialog := jd.bind fun p => p.dialog.dDialog
      if tr.state = .istTerminated ∨ tr.state = .istConfirmed ∨ tr.state = .istCompleted then
        match buildResponseDefault env.context dialog 481 sip with
        | .error _ => ⟨s.addTransaction transaction, some .null, []⟩
        | .ok answer =>
            ⟨addToDialog s jd transaction, some .null,
              [.answer transaction.transactionid answer.withoutBody]⟩
      else
        match buildResponseDefault env.context dialog 200 sip with
        | .error _ => ⟨s.addTransaction transaction, some .null, []⟩
        | .ok answer =>
            ⟨addToDialog s jd transaction, some ⟨true, jd.isSome, false, false⟩,
              .answer transaction.transactionid answer.withoutBody ::
                requestTerminated env dialog tr⟩

/-! ### Within a call -/

/-- `_eXosip_process_bye`. -/
def processBye (env : Env) (s : EXosip) (p : Place Unit) (transaction : Tr) (sip : SipFields) :
    Dispatched :=
  if s.autoanswerBye = 0 then
    ⟨{ s with jCalls := (p.addIncTr transaction).elements }, some ⟨true, true, false, false⟩, []⟩
  else
    match buildResponseDefault env.context p.dialog.dDialog 200 sip with
    | .error _ =>
        ⟨{ s with jCalls := p.elements }.addTransaction transaction,
          some ⟨true, false, false, false⟩, []⟩
    | .ok answer =>
        ⟨{ s with jCalls := ((p.addIncTr transaction).setDialog none).elements },
          some ⟨true, false, false, false⟩,
          [.answer transaction.transactionid answer.withoutBody,
            .event .callMessageNew (some transaction.transactionid),
            .event .callClosed (some transaction.transactionid)]⟩

/-- The transactions with that method, as `strcmp` compares it. -/
def Tr.hasMethod (tr : Tr) (method : String) : Bool := tr.cseq.method == some method.toList

/-- `_eXosip_find_last_inc_invite`. -/
def findLastIncInvite {ι : Type} (p : Place ι) : Option Tr :=
  (p.dialog.dIncTrs.find? (Tr.hasMethod · "INVITE")).or p.element.incTr

/-- `_eXosip_find_last_out_invite`. -/
def findLastOutInvite {ι : Type} (p : Place ι) : Option Tr :=
  (p.dialog.dOutTrs.find? (Tr.hasMethod · "INVITE")).or p.element.outTr

/-- `_eXosip_find_last_inc_transaction` and `_eXosip_find_last_out_transaction` in a list. -/
def findLastTransaction (trs : List Tr) (method : Str) : Option Tr :=
  trs.find? fun tr => osipStrcasecmp (tr.cseq.method.getD []) method

/-- `_eXosip_process_ack`. -/
def processAck (s : EXosip) (p : Place Unit) : Dispatched :=
  ⟨s, none, [.event .callAck ((findLastIncInvite p).map Tr.transactionid)]⟩

/-- `_eXosip_process_reinvite`. -/
def processReinvite (s : EXosip) (p : Place Unit) (transaction : Tr) : Dispatched :=
  ⟨{ s with jCalls := (p.addIncTr transaction).elements }, some ⟨true, true, false, false⟩,
    [.event .callReinvite (some transaction.transactionid)]⟩

/-- `_eXosip_process_message_within_dialog`. -/
def processMessageWithinDialog (s : EXosip) (p : Place Unit) (transaction : Tr) : Dispatched :=
  ⟨{ s with jCalls := (p.addIncTr transaction).elements }, some ⟨true, true, false, false⟩, []⟩

/-! ### New calls and notifications -/

/-- `_eXosip_process_new_invite`. -/
def processNewInvite (env : Env) (s : EXosip) (transaction : Tr) (sip : SipFields) :
    Result Dispatched :=
  if sip.toTag.isSome then
    match buildResponseDefault env.context none 481 sip with
    | .ok answer => .ok ⟨s, some .null, [.answer transaction.transactionid answer]⟩
    | .error _ => .ok ⟨s.addTransaction transaction, some .null, []⟩
  else
    let jc : EXosipCall := ⟨[], none, none, ()⟩
    let failed := ({ s with jCalls := jc :: s.jCalls } : EXosip).addTransaction transaction
    match buildResponseDefault env.context none 101 sip with
    | .error _ => .ok ⟨failed, some .null, []⟩
    | .ok answer => do
        match ← returned (completeAnswer answer.withoutBody sip) with
        | none => .ok ⟨failed, some .null, []⟩
        | some answer =>
            match ← exosipDialogInitAsUas sip answer with
            | none => .ok ⟨failed, some .null, []⟩
            | some jd =>
                let jc := { jc with dialogs := [jd], incTr := some transaction }
                .ok ⟨{ s with jCalls := jc :: s.jCalls }, some ⟨true, true, false, false⟩,
                  [.event .callInvite (some transaction.transactionid)]⟩

/-- `_eXosip_notify_set_refresh_interval`. -/
def notifySetRefreshInterval (now : Int) (jn : NotifyInfo) (incSubscribe : SipFields) : NotifyInfo :=
  let defaultExpires := if incSubscribe.isRefer then 120 else 600
  match (incSubscribe.headerByname "expires".toList).bind Header.hvalue with
  | none => { jn with nSsExpires := now + defaultExpires }
  | some hvalue =>
      if osipAtoi hvalue = -1 then { jn with nSsExpires := now + defaultExpires }
      else { jn with nSsExpires := now + osipAtoi hvalue }

/-- The transaction goes to `j_transactions`, and is answered when the answer can be built. -/
def refuse (env : Env) (s : EXosip) (transaction : Tr) (status : Int) (sip : SipFields) :
    Dispatched :=
  match buildResponseDefault env.context none status sip with
  | .error _ => ⟨s.addTransaction transaction, some .null, []⟩
  | .ok answer =>
      ⟨s.addTransaction transaction, some .null,
        [.answer transaction.transactionid answer.withoutBody]⟩

/-- `_eXosip_process_new_subscription`. -/
def processNewSubscription (env : Env) (s : EXosip) (transaction : Tr) (sip : SipFields) :
    Result Dispatched :=
  if sip.toTag.isSome then .ok (refuse env s transaction 481 sip)
  else if (sip.contacts.head?.bind From.url).isNone then .ok (refuse env s transaction 400 sip)
  else
    let info := notifySetRefreshInterval env.io.systemTime ⟨.unknown, 0⟩ sip
    match buildResponseDefault env.context none 101 sip with
    | .error _ => .ok ⟨s.addTransaction transaction, some .null, []⟩
    | .ok answer => do
        match ← returned (completeAnswer answer sip) with
        | none => .ok ⟨s.addTransaction transaction, some .null, []⟩
        | some answer =>
            match ← exosipDialogInitAsUas sip answer with
            | none => .ok ⟨s.addTransaction transaction, some .null, []⟩
            | some jd =>
                .ok ⟨{ s with jNotifies := ⟨[jd], some transaction, none, info⟩ :: s.jNotifies },
                  some ⟨false, true, true, false⟩, [.answer transaction.transactionid answer]⟩

/-! ### Within a subscription and within a notification -/

/-- `_eXosip_process_subscribe_within_call`. -/
def processSubscribeWithinCall (env : Env) (s : EXosip) (p : Place NotifyInfo) (transaction : Tr)
    (sip : SipFields) : Dispatched :=
  let info := notifySetRefreshInterval env.io.systemTime p.element.info sip
  let info :=
    if info.nSsExpires - env.io.systemTime ≤ 0 then { info with nSsStatus := .terminated } else info
  ⟨{ s with jNotifies := ((p.setInfo info).addIncTr transaction).elements },
    some ⟨false, true, true, false⟩, []⟩

def ssStatusOf (hvalue : Str) (status : SsStatus) : SsStatus :=
  if osipStrncasecmp hvalue "active".toList 6 then .active
  else if osipStrncasecmp hvalue "pending".toList 7 then .pending
  else status

/-- What `_eXosip_dialog_free` puts in front of `j_transactions`. -/
def EXosipDialog.released (jd : EXosipDialog) : List Tr := (jd.dIncTrs ++ jd.dOutTrs).reverse

/-- What `_eXosip_subscription_free` puts in front of `j_transactions`. -/
def subscriptionReleased (js : EXosipSubscribe) : List Tr :=
  js.outTr.toList ++ js.incTr.toList ++ (js.dialogs.map EXosipDialog.released).reverse.flatten

/-- `_eXosip_process_notify_within_dialog`. Its callers always have a dialog. -/
def processNotifyWithinDialog (env : Env) (s : EXosip) (p : Place SsStatus) (transaction : Tr)
    (sip : SipFields) : Dispatched :=
  let s := { s with jSubscribes := p.elements }
  match (sip.headerByname "subscription-state".toList).bind Header.hvalue with
  | none => rejectWith env s p.dialog.dDialog transaction 400 none sip
  | some hvalue =>
      match buildResponseDefault env.context p.dialog.dDialog 200 sip with
      | .error _ =>
          rejectWith env s p.dialog.dDialog transaction 500 (some "Internal SIP Error".toList) sip
      | .ok answer =>
          let p := p.setInfo (ssStatusOf hvalue p.element.info)
          if osipStrncasecmp hvalue "terminated".toList 10 then
            ⟨{ s with
                jSubscribes := p.before ++ p.after
                jTransactions := subscriptionReleased p.current ++ transaction :: s.jTransactions },
              some .null,
              [.event .subscriptionNotify (some transaction.transactionid),
                .answer transaction.transactionid answer]⟩
          else
            ⟨{ s with jSubscribes := (p.addIncTr transaction).elements },
              some ⟨false, true, false, true⟩, [.answer transaction.transactionid answer]⟩

/-- `_eXosip_match_notify_for_subscribe`, as the test for success. -/
def matchNotifyForSubscribe (js : EXosipSubscribe) (notify : SipFields) : Result Bool :=
  match js.outTr with
  | none => .ok false
  | some outSub =>
      if outSub.origRequest.isNone then .ok false
      else if (notify.cseq.bind Cseq.method).isNone ∨ notify.toHeader.isNone then .ok false
      else if osipCallIdMatch (some outSub.callid) notify.callId then
        match osipFromGetTag outSub.fromHeader, notify.toTag.bind GenericParam.gvalue with
        | some tagFrom, some tagTo => do .ok ((← deref tagFrom.gvalue) == tagTo)
        | _, _ => .ok false
      else .ok false

/-- The first subscription that the NOTIFY is for, between those before and after it. -/
def findSubscribe (notify : SipFields) :
    List EXosipSubscribe →
      Result (Option (List EXosipSubscribe × EXosipSubscribe × List EXosipSubscribe))
  | [] => .ok none
  | js :: jss => do
      if ← matchNotifyForSubscribe js notify then .ok (some ([], js, jss))
      else .ok ((← findSubscribe notify jss).map fun found => (js :: found.1, found.2))

end Exosip
