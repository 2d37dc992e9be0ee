import Exosip.Dispatch.Requests

/-! `_eXosip_process_newrequest`: every request that belongs to no server transaction. -/
namespace Exosip

open CString SipFields

/-- `_eXosip_transaction_init` for the kind of transaction that the request needs. -/
def transactionInit (env : Env) (sip : SipFields) : Except Int Tr :=
  if sip.toMessage.isInvite then
    (osipTransactionInit Ist env.io env.transactionid env.socket (some sip.toMessage)).map
      Tr.ofTransaction
  else
    (osipTransactionInit Nist env.io env.transactionid env.socket (some sip.toMessage)).map
      Tr.ofTransaction

def comparedBranches (via1 via2 : Via) : Option Bool :=
  match via1.branch, via2.branch with
  | some gvalue1, some gvalue2 => some (osipStrcasecmp gvalue1 gvalue2)
  | _, _ => none

/-- The request is the initial INVITE of the call again: whether it has the same branch. -/
def duplicateInvite (p : Place Unit) (transaction : Tr) (sip : SipFields) : Option Bool :=
  if sip.toMessage.isInvite ∧ sip.toTag.isNone then
    p.element.incTr.bind fun incTr => comparedBranches transaction.topvia incTr.topvia
  else none

/-- The check of the CSeq against that of the dialog `p`. It says nothing when the request
goes on. -/
def checkCseq (env : Env) (s : EXosip) (p : Place Unit) (transaction : Tr) (sip : SipFields) :
    Option Dispatched :=
  match sip.cseq.bind Cseq.number, p.dialog.dDialog with
  | some number, some dlg =>
      if dlg.remoteCseq > 0 then
        if osipAtoi number < dlg.remoteCseq then
          some (rejectWith env s (some dlg) transaction 500 none sip)
        else if osipAtoi number = dlg.remoteCseq then
          -- the initial INVITE on another path
          if duplicateInvite p transaction sip = some false then
            some (rejectWith env s none transaction 486 none sip)
          else some ⟨s.transactionFree transaction, none, []⟩
        else none
      else none
  | _, _ => none

/-- The 100 that answers an INVITE at once. -/
def trying (env : Env) (transaction : Tr) (sip : SipFields) : Except Int (List Output) :=
  if sip.toMessage.isInvite then
    (buildResponseDefault env.context none 100 sip).map fun answer =>
      [.answer transaction.transactionid answer.withoutBody]
  else .ok []

def invitePending (p : Place Unit) : Option (Int × Option Str) :=
  if (findLastIncInvite p).any fun tr =>
      tr.state ≠ .istCompleted && tr.state ≠ .istConfirmed && tr.state ≠ .istTerminated then
    some (500, some "Retry Later".toList)
  else if (findLastOutInvite p).any fun tr =>
      tr.state ≠ .ictCompleted && tr.state ≠ .ictTerminated then
    some (491, none)
  else none

def processWithinCall (env : Env) (s : EXosip) (p : Place Unit) (transaction : Tr)
    (sip : SipFields) : Dispatched :=
  let bye := findLastTransaction p.dialog.dIncTrs "BYE".toList
  if ¬ sip.toMessage.isBye ∧
      (bye.or (findLastTransaction p.dialog.dOutTrs "BYE".toList)).isSome then
    rejectWith env s p.dialog.dDialog transaction 481 none sip
  else
    let p := p.updateDialog (Dialog.updateOsipCseqAsUas · sip)
    let s := { s with jCalls := p.elements }
    if sip.toMessage.isInvite then
      match invitePending p with
      | some (status, reasonPhrase) =>
          rejectWith env s p.dialog.dDialog transaction status reasonPhrase sip
      | none =>
          processReinvite s (p.updateDialog (Dialog.updateRouteSetAsUas · sip)) transaction
    else if sip.toMessage.isBye then
      if (sip.toTag.bind GenericParam.gvalue).isNone then
        rejectWith env s p.dialog.dDialog transaction 481 (some "Missing tags in BYE".toList) sip
      else if bye.isSome then
        rejectWith env s p.dialog.dDialog transaction 500 (some "Call Already Terminated".toList) sip
      else processBye env s p transaction sip
    else processMessageWithinDialog s p transaction

/-- A request in the dialog of a subscription. -/
def processWithinSubscribe (env : Env) (s : EXosip) (p : Place SsStatus) (transaction : Tr)
    (sip : SipFields) : Dispatched :=
  if sip.toMessage.isNotify then
    -- `_eXosip_find_last_inc_notify` looks through the outgoing transactions
    if (p.dialog.dOutTrs.find? (Tr.hasMethod · "NOTIFY")).any fun tr =>
        tr.state ≠ .nistTerminated then
      rejectWith env s p.dialog.dDialog transaction 500 (some "Retry Later".toList) sip
    else
      let p := p.updateDialog (Dialog.updateOsipCseqAsUas · sip)
      let p := p.updateDialog (Dialog.updateRouteSetAsUas · sip)
      processNotifyWithinDialog env s p transaction sip
  else rejectWith env s p.dialog.dDialog transaction 501 none sip

/-- A NOTIFY outside of any dialog: it may make one with a subscription that waits for it. -/
def processNewNotify (env : Env) (s : EXosip) (transaction : Tr) (sip : SipFields) :
    Result Dispatched := do
  match ← findSubscribe sip s.jSubscribes with
  | none => .ok ⟨s.addTransaction transaction, some .null, []⟩
  | some (before, js, after) =>
      match ← exosipDialogInitAsUac sip with
      | none => .ok ⟨s, some .null, []⟩
      | some dlg =>
          let dlg :=
            match js.outTr.bind fun tr => tr.cseq.number with
            | none => dlg
            | some number => { dlg with localCseq := atoi number }
          let jd : EXosipDialog := ⟨some dlg, [], []⟩
          .ok
            (processNotifyWithinDialog env s ⟨before, js, [], jd, js.dialogs, after⟩ transaction sip)

/-- `_eXosip_find_last_inc_subscribe`. -/
def findLastIncSubscribe (p : Place NotifyInfo) : Option Tr :=
  (p.dialog.dIncTrs.find? fun tr => tr.hasMethod "SUBSCRIBE" || tr.hasMethod "REFER").or
    p.element.incTr

/-- A request in the dialog of a notification. -/
def processWithinNotify (env : Env) (s : EXosip) (p : Place NotifyInfo) (transaction : Tr)
    (sip : SipFields) : Dispatched :=
  if sip.toMessage.isSubscribe ∨ sip.isRefer then
    if (findLastIncSubscribe p).any fun tr =>
        tr.state ≠ .nistTerminated && tr.state ≠ .nistCompleted then
      rejectWith env s p.dialog.dDialog transaction 500 (some "Retry Later".toList) sip
    else
      let p := p.updateDialog (Dialog.updateOsipCseqAsUas · sip)
      let p := p.updateDialog (Dialog.updateRouteSetAsUas · sip)
      processSubscribeWithinCall env s p transaction sip
  else rejectWith env s p.dialog.dDialog transaction 501 none sip

/-- A REFER asks for a subscription unless its Refer-Sub says otherwise. -/
def referSubscribes (sip : SipFields) : Bool :=
  match (sip.headerByname "Refer-Sub".toList).bind Header.hvalue with
  | none => true
  | some hvalue => osipStrncasecmp hvalue "true".toList 4

/-- A request that is in no dialog at all. -/
def processOutOfDialog (env : Env) (s : EXosip) (transaction : Tr) (sip : SipFields) :
    Result Dispatched :=
  if (sip.isRefer ∧ referSubscribes sip) ∨ sip.toMessage.isSubscribe then
    processNewSubscription env s transaction sip
  else .ok ⟨s.addTransaction transaction, some .null, []⟩

/-- A request that is in no dialog of a call. -/
def processWithoutCall (env : Env) (s : EXosip) (transaction : Tr) (sip : SipFields) :
    Result Dispatched :=
  if sip.toMessage.isInfo then .ok (rejectWith env s none transaction 481 none sip)
  else if sip.toMessage.isInvite then processNewInvite env s transaction sip
  else if sip.toMessage.isBye then .ok (rejectWith env s none transaction 481 none sip)
  else do
    match ← findPlace sip s.jSubscribes with
    | some p => .ok (processWithinSubscribe env s p transaction sip)
    | none =>
        if sip.toMessage.isNotify then processNewNotify env s transaction sip
        else
          match ← findPlace sip s.jNotifies with
          | some p => .ok (processWithinNotify env s p transaction sip)
          | none => processOutOfDialog env s transaction sip

def afterTrying (env : Env) (s : EXosip) (transaction : Tr) (sip : SipFields)
    (rest : Result Dispatched) : Result Dispatched :=
  match trying env transaction sip with
  | .error _ => .ok ⟨s.transactionFree transaction, none, []⟩
  | .ok sent => rest.map fun d => { d with outputs := sent ++ d.outputs }

def processTransaction (env : Env) (s : EXosip) (transaction : Tr) (sip : SipFields) :
    Result Dispatched :=
  if sip.toMessage.isCancel then .ok (processCancel env s transaction sip)
  else do
    match ← findPlace sip s.jCalls with
    | some p =>
        match checkCseq env s p transaction sip with
        | some d => .ok d
        | none =>
            afterTrying env s transaction sip (.ok (processWithinCall env s p transaction sip))
    | none => afterTrying env s transaction sip (processWithoutCall env s transaction sip)

/-- `_eXosip_process_newrequest`. There is no transaction for an ACK, which goes to its dialog
or nowhere. -/
def exosipProcessNewrequest (env : Env) (s : EXosip) (sip : SipFields) :
    Result (Option Tr × Dispatched) :=
  if sip.toMessage.isAck then do
    match ← findPlace sip s.jCalls with
    | some p => .ok (none, processAck s p)
    | none => .ok (none, ⟨s, none, []⟩)
  else if sip.toMessage.isRequest then
    match transactionInit env sip with
    | .error _ => .ok (none, ⟨s, none, []⟩)
    | .ok transaction => do
        .ok (some transaction,
          ← processTransaction env (s.withTransaction transaction) transaction sip)
  else .ok (none, ⟨s, none, []⟩)

theorem checkCseq_state {env : Env} {s : EXosip} {p : Place Unit} {tr : Tr} {sip : SipFields}
    {d : Dispatched} (h : checkCseq env s p tr sip = some d) :
    d.s = s.addTransaction tr ∨ d.s = s.transactionFree tr := by
  unfold checkCseq at h
  split at h
  · split at h
    · split at h
      · cases h
        exact .inl rfl
      · split at h
        · split at h
          · cases h
            exact .inl rfl
          · cases h
            exact .inr rfl
        · cases h
    · cases h
  · cases h

theorem afterTrying_state {env : Env} {s : EXosip} {tr : Tr} {sip : SipFields}
    {rest : Result Dispatched} {d : Dispatched} (h : afterTrying env s tr sip rest = .ok d) :
    (d.s = s.transactionFree tr ∧ ∃ i, trying env tr sip = .error i) ∨
      (∃ d', rest = .ok d' ∧ d.s = d'.s) ∧ ∃ sent, trying env tr sip = .ok sent := by
  unfold afterTrying at h
  cases htrying : trying env tr sip with
  | error i =>
      rw [htrying] at h
      cases h
      exact .inl ⟨rfl, i, rfl⟩
  | ok sent =>
      rw [htrying] at h
      cases rest with
      | error i => cases h
      | ok d' =>
          cases h
          exact .inr ⟨⟨d', rfl, rfl⟩, sent, rfl⟩

/-- A request of that method and CSeq from `remote`, with the parameters of its To. -/
def requestOf (method number : String) (toParams : List GenericParam) : SipFields :=
  { SipFields.init with
    sipMethod := some method.toList
    reqUri := some (Dialog.sipUri "host" [])
    callId := some ⟨some "c1".toList, none⟩
    cseq := some ⟨some method.toList, some number.toList⟩
    fromHeader := some ⟨none, some (Dialog.sipUri "remote" []), [⟨"tag".toList, some "r1".toList⟩]⟩
    toHeader := some ⟨none, some (Dialog.sipUri "host" []), toParams⟩
    vias := [⟨some "2.0".toList, some "UDP".toList, some "remote".toList, none, none,
      [⟨"branch".toList, some "z9hG4bK1".toList⟩]⟩] }

/-- Surroundings in which every allocation succeeds. -/
def someEnv : Env where
  io := ⟨0, fun _ => ⟨⟨0, 0⟩, le_rfl, by decide⟩, true, 0⟩
  transactionid := 1
  socket := 0
  context := ⟨fun _ => none, "1".toList, "UA".toList⟩

end Exosip
