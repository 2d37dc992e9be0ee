import Exosip.Dialog.Basic
import Exosip.Transaction.Basic
import Mathlib.Logic.Function.Basic

/-! The calls as objects in memory: a transaction knows its call and its dialog by their
addresses, and the calls and dialogs list their transactions. Subscriptions, notifications
and registrations have lists of their own, which are not looked at here. -/
namespace Exosip

open CString

/-- `cseq->method`, as far as it is compared. -/
inductive RequestMethod where
  | invite | ack | bye | cancel | refer | subscribe | notify | prack
  | other (name : Str)
  deriving DecidableEq

/-- `osip_transaction_t`: `lastResponse` is the status code of the last response, and
`toTag` tells whether the To header of the request has a tag. -/
structure OwnedTr where
  method : RequestMethod
  toTag : Bool
  state : State
  birthTime : Int
  completedTime : Int
  lastResponse : Option Int
  reserved2 : Option Nat
  reserved3 : Option Nat
  deriving DecidableEq

/-- `eXosip_dialog_t`. `hasId` is false where `d_id` is -1. -/
structure OwnedDialog where
  address : Nat
  hasId : Bool
  dDialog : Option DialogState
  dIncTrs : List Nat
  dOutTrs : List Nat
  deriving DecidableEq

/-- `eXosip_call_t`. -/
structure OwnedCall where
  address : Nat
  expireTime : Int
  cIncTr : Option Nat
  cOutTr : Option Nat
  cDialogs : List OwnedDialog
  deriving DecidableEq

/-- The part of `eXosip_t` about calls, with the memory of the transactions. Addresses from
`fresh` on have not been given out. -/
structure Owners where
  memory : Nat → OwnedTr
  osipTransactions : List Nat
  jTransactions : List Nat
  jCalls : List OwnedCall
  fresh : Nat

namespace OwnedTr

/-- A transaction after `_eXosip_transaction_init`. -/
def init (method : RequestMethod) (toTag : Bool) (state : State) (now : Int) : OwnedTr where
  method
  toTag
  state
  birthTime := now
  completedTime := 0
  lastResponse := none
  reserved2 := none
  reserved3 := none

/-- `_eXosip_delete_reserved`. -/
def deleteReserved (tr : OwnedTr) : OwnedTr := { tr with reserved2 := none, reserved3 := none }

def answered (tr : OwnedTr) (codes : Int → Bool) : Bool := tr.lastResponse.any codes

end OwnedTr

namespace OwnedDialog

def trs (jd : OwnedDialog) : List Nat := jd.dIncTrs ++ jd.dOutTrs

/-- `osip_list_add (jd->d_inc_trs, transaction, 0)`. -/
def addIncTr (t : Nat) (jd : OwnedDialog) : OwnedDialog := { jd with dIncTrs := t :: jd.dIncTrs }

def addOutTr (t : Nat) (jd : OwnedDialog) : OwnedDialog := { jd with dOutTrs := t :: jd.dOutTrs }

def setDialog (dDialog : Option DialogState) (jd : OwnedDialog) : OwnedDialog :=
  { jd with dDialog }

/-- What `_eXosip_update` does to a dialog. -/
def update (jd : OwnedDialog) : OwnedDialog := { jd with hasId := jd.dDialog.isSome }

def removeIncTr (t : Nat) (jd : OwnedDialog) : OwnedDialog :=
  { jd with dIncTrs := jd.dIncTrs.erase t }

def removeOutTr (t : Nat) (jd : OwnedDialog) : OwnedDialog :=
  { jd with dOutTrs := jd.dOutTrs.erase t }

end OwnedDialog

namespace OwnedCall

def trs (jc : OwnedCall) : List Nat :=
  jc.cIncTr.toList ++ jc.cOutTr.toList ++ jc.cDialogs.flatMap OwnedDialog.trs

def mapDialogs (f : OwnedDialog → OwnedDialog) (jc : OwnedCall) : OwnedCall :=
  { jc with cDialogs := jc.cDialogs.map f }

def modifyDialog (d : Nat) (f : OwnedDialog → OwnedDialog) : OwnedCall → OwnedCall :=
  mapDialogs fun jd => if jd.address = d then f jd else jd

/-- `ADD_ELEMENT (jc->c_dialogs, jd)`. -/
def addDialog (jd : OwnedDialog) (jc : OwnedCall) : OwnedCall :=
  { jc with cDialogs := jd :: jc.cDialogs }

/-- `REMOVE_ELEMENT (jc->c_dialogs, jd)`. -/
def removeDialog (d : Nat) (jc : OwnedCall) : OwnedCall :=
  { jc with cDialogs := jc.cDialogs.filter fun jd => jd.address ≠ d }

/-- `_eXosip_remove_transaction_from_call`: a transaction is in one of these places. -/
def removeTransaction (t : Nat) (jc : OwnedCall) : OwnedCall :=
  if jc.cIncTr = some t then { jc with cIncTr := none }
  else if jc.cDialogs.any fun jd => t ∈ jd.dIncTrs then jc.mapDialogs (OwnedDialog.removeIncTr t)
  else if jc.cOutTr = some t then { jc with cOutTr := none }
  else jc.mapDialogs (OwnedDialog.removeOutTr t)

end OwnedCall

namespace Owners

def start : Owners where
  memory _ := OwnedTr.init (.other []) false .nictPreTrying 0
  osipTransactions := []
  jTransactions := []
  jCalls := []
  fresh := 0

def setTr (s : Owners) (t : Nat) (f : OwnedTr → OwnedTr) : Owners :=
  { s with memory := Function.update s.memory t (f (s.memory t)) }

/-- `osip_transaction_set_reserved2` and `osip_transaction_set_reserved3`. -/
def setReserved (s : Owners) (t : Nat) (reserved2 reserved3 : Option Nat) : Owners :=
  s.setTr t fun tr => { tr with reserved2, reserved3 }

/-- `osip_list_add (&excontext->j_transactions, transaction, 0)`. -/
def addTransaction (s : Owners) (t : Nat) : Owners :=
  { s with jTransactions := t :: s.jTransactions }

/-- `osip_remove_transaction`. -/
def removeTransaction (s : Owners) (t : Nat) : Owners :=
  { s with osipTransactions := s.osipTransactions.filter (· ≠ t) }

/-- `_eXosip_transaction_init`: the stack runs the new transaction. -/
def transactionInit (s : Owners) (method : RequestMethod) (toTag : Bool) (state : State)
    (now : Int) : Owners :=
  { s with
    memory := Function.update s.memory s.fresh (OwnedTr.init method toTag state now)
    osipTransactions := s.osipTransactions ++ [s.fresh]
    fresh := s.fresh + 1 }

def mapCalls (s : Owners) (f : OwnedCall → OwnedCall) : Owners :=
  { s with jCalls := s.jCalls.map f }

def modifyCall (s : Owners) (c : Nat) (f : OwnedCall → OwnedCall) : Owners :=
  s.mapCalls fun jc => if jc.address = c then f jc else jc

def modifyDialog (s : Owners) (c d : Nat) (f : OwnedDialog → OwnedDialog) : Owners :=
  s.modifyCall c (OwnedCall.modifyDialog d f)

/-- `_eXosip_update`. -/
def update (s : Owners) : Owners := s.mapCalls (OwnedCall.mapDialogs OwnedDialog.update)

/-- `ADD_ELEMENT (excontext->j_calls, jc)` for a new call. -/
def addCall (s : Owners) (outTr : Option Nat) : Owners :=
  { s with
    jCalls := ⟨s.fresh, 0, none, outTr, []⟩ :: s.jCalls
    fresh := s.fresh + 1 }

/-- `_eXosip_dialog_init_as_uac` or `_eXosip_dialog_init_as_uas`, and
`ADD_ELEMENT (jc->c_dialogs, jd)`. -/
def addDialog (s : Owners) (c : Nat) (state : DialogState) : Owners :=
  { s.modifyCall c (OwnedCall.addDialog ⟨s.fresh, false, some state, [], []⟩) with
    fresh := s.fresh + 1 }

/-! ### Searches -/

def callAt (s : Owners) (c : Nat) : Option OwnedCall := s.jCalls.find? (·.address = c)

def dialogAt (jc : OwnedCall) (d : Nat) : Option OwnedDialog := jc.cDialogs.find? (·.address = d)

def findInCalls (p : OwnedDialog → Bool) : List OwnedCall → Option (OwnedCall × OwnedDialog)
  | [] => none
  | jc :: jcs => (jc.cDialogs.find? p).elim (findInCalls p jcs) fun jd => some (jc, jd)

/-- `_eXosip_call_dialog_find`: the application names a dialog by its identifier. -/
def callDialogFind (s : Owners) (d : Nat) : Option (OwnedCall × OwnedDialog) :=
  findInCalls (fun jd => jd.hasId && jd.address = d) s.jCalls

def transactionOfCall (t : Nat) (jc : OwnedCall) : Option (Option OwnedDialog) :=
  if jc.cIncTr = some t || jc.cOutTr = some t then some jc.cDialogs.head?
  else (jc.cDialogs.find? fun jd => t ∈ jd.trs).map some

/-- `_eXosip_call_transaction_find`. -/
def callTransactionFind (t : Nat) : List OwnedCall → Option (OwnedCall × Option OwnedDialog)
  | [] => none
  | jc :: jcs => (transactionOfCall t jc).elim (callTransactionFind t jcs) fun jd => some (jc, jd)

/-- `_eXosip_find_last_inc_transaction` and `_eXosip_find_last_out_transaction`, on the list
of the dialog. -/
def findLast (s : Owners) (method : RequestMethod) (trs : List Nat) : Option Nat :=
  trs.find? fun t => (s.memory t).method = method

/-- `_eXosip_find_last_inc_invite`. -/
def findLastIncInvite (s : Owners) (jc : OwnedCall) (jd : Option OwnedDialog) : Option Nat :=
  (jd.bind fun jd => s.findLast .invite jd.dIncTrs).or jc.cIncTr

/-- `_eXosip_find_last_out_invite`. -/
def findLastOutInvite (s : Owners) (jc : OwnedCall) (jd : Option OwnedDialog) : Option Nat :=
  (jd.bind fun jd => s.findLast .invite jd.dOutTrs).or jc.cOutTr

/-- The choice that `_eXosip_find_last_invite` and `_eXosip_find_last_transaction` make. -/
def newer (s : Owners) (incTr outTr : Option Nat) : Option Nat :=
  match incTr, outTr with
  | none, outTr => outTr
  | incTr, none => incTr
  | some inc, some out =>
      if (s.memory inc).birthTime > (s.memory out).birthTime then some inc else some out

/-- Whether there is a transaction, and its state is not one of these. -/
def unfinished (s : Owners) (tr : Option Nat) (states : List State) : Bool :=
  tr.any fun t => (s.memory t).state ∉ states

/-! ### Requests of the application -/

/-- `eXosip_call_send_initial_invite`. -/
def callSendInitialInvite (s : Owners) (now : Int) : Owners :=
  let t := s.fresh
  let s := (s.transactionInit .invite false .ictPreCalling now)
  ((s.addCall (some t)).setReserved t (some s.fresh) none).update

/-- `eXosip_message_send_request` and what else sends a request out of any dialog. -/
def sendOutOfDialog (s : Owners) (method : RequestMethod) (now : Int) : Owners :=
  let t := s.fresh
  (s.transactionInit method false .nictPreTrying now).addTransaction t

/-- A new client transaction in a dialog, as `eXosip_create_transaction` makes it. -/
def createTransaction (s : Owners) (jc : OwnedCall) (jd : OwnedDialog) (method : RequestMethod)
    (state : State) (now : Int) : Owners :=
  let t := s.fresh
  ((s.transactionInit method true state now).modifyDialog jc.address jd.address
    (OwnedDialog.addOutTr t)).setReserved t (some jc.address) (some jd.address)

/-- `eXosip_call_send_request`. -/
def callSendRequest (s : Owners) (d : Nat) (method : RequestMethod) (now : Int) : Owners :=
  match s.callDialogFind d with
  | none => s
  | some (jc, jd) =>
      if method = .invite then
        if s.unfinished (s.newer (s.findLastIncInvite jc jd) (s.findLastOutInvite jc jd))
            [.ictTerminated, .istTerminated, .istConfirmed, .ictCompleted] then s
        else s.createTransaction jc jd method .ictPreCalling now
      else
        if s.unfinished (s.newer (s.findLast method jd.dIncTrs) (s.findLast method jd.dOutTrs))
            [.nictTerminated, .nistTerminated, .nictCompleted, .nistCompleted] then s
        else s.createTransaction jc jd method .nictPreTrying now

/-- `eXosip_call_send_prack` for the INVITE transaction. -/
def callSendPrack (s : Owners) (t : Nat) (now : Int) : Owners :=
  match callTransactionFind t s.jCalls with
  | some (jc, some jd) =>
      if jd.dDialog.isSome && (s.memory t).method = .invite && (s.memory t).state = .ictProceeding
      then s.createTransaction jc jd .prack .nictPreTrying now
      else s
  | _ => s

/-- `eXosip_call_send_answer`: a 2xx for an INVITE confirms the dialog. -/
def callSendAnswer (s : Owners) (t : Nat) (status : Int) : Owners :=
  match callTransactionFind t s.jCalls with
  | some (jc, some jd) =>
      if (s.memory t).state ∈
          [State.istCompleted, .istConfirmed, .istTerminated, .nistCompleted, .nistTerminated]
      then s
      else if (s.memory t).method = .invite && 200 ≤ status && status < 300 then
        (s.modifyDialog jc.address jd.address (OwnedDialog.setDialog (some .confirmed))).update
      else s.update
  | _ => s

/-- The BYE of `eXosip_call_terminate`. -/
def sendBye (s : Owners) (jc : OwnedCall) (jd : OwnedDialog) (now : Int) : Owners :=
  ((s.createTransaction jc jd .bye .nictPreTrying now).modifyDialog jc.address jd.address
    (OwnedDialog.setDialog none)).update

/-- `eXosip_call_terminate` of a call, with the dialog that it names. A ringing INVITE is
cancelled; one that came in is answered with 603, and only a re-INVITE goes on to the BYE. -/
def callTerminateIn (s : Owners) (jc : OwnedCall) (jd : Option OwnedDialog) (now : Int) :
    Owners :=
  let outTr := s.findLastOutInvite jc jd
  let ringing := fun t => (s.memory t).answered fun code => 100 ≤ code && code < 200
  if jd.all (fun jd => jd.dDialog ≠ some .confirmed) && outTr.any ringing then
    s.sendOutOfDialog .cancel now
  else
    match jd with
    | none => s
    | some jd =>
        if jd.dDialog.isNone then s
        else if outTr.isNone &&
            (s.findLastIncInvite jc jd).any fun t => ringing t && !(s.memory t).toTag then s.update
        else s.sendBye jc jd now

/-- `eXosip_call_terminate`. -/
def callTerminate (s : Owners) (c : Nat) (d : Option Nat) (now : Int) : Owners :=
  match d with
  | some d => (s.callDialogFind d).elim s fun found => s.callTerminateIn found.1 found.2 now
  | none => (s.callAt c).elim s fun jc => s.callTerminateIn jc none now

/-! ### Requests from the network -/

/-- How the CSeq of a request compares with that of the dialog: a lower one is refused, one
that was seen before is dropped, except for a copy of the initial INVITE that came another
way. -/
inductive CseqTest where
  | newer | older | seen | duplicate
  deriving DecidableEq

/-- A request, with what the headers say about it: the dialogs for which
`osip_dialog_match_as_uas` succeeds, the transactions for which `_cancel_match_invite` does,
and whether the answers and the dialog can be built. -/
structure Arrival where
  method : RequestMethod
  toTag : Bool
  matchesDialog : Nat → Bool
  matchesInvite : Nat → Bool
  cseqTest : CseqTest
  tryingBuilt : Bool
  answerBuilt : Bool
  dialogBuilt : Bool
  autoanswerBye : Bool

/-- `_eXosip_transaction_free`. -/
def transactionFree (s : Owners) (t : Nat) : Owners :=
  (s.removeTransaction t).setTr t OwnedTr.deleteReserved

def cancelledIn (a : Arrival) (jc : OwnedCall) : Option (Nat × Option OwnedDialog) :=
  match jc.cIncTr.filter a.matchesInvite with
  | some tr => some (tr, jc.cDialogs.head?)
  | none =>
      (jc.cDialogs.find? fun jd => jd.dIncTrs.any a.matchesInvite).bind fun jd =>
        (jd.dIncTrs.find? a.matchesInvite).map fun tr => (tr, some jd)

def findCancelled (a : Arrival) : List OwnedCall → Option (OwnedCall × Nat × Option OwnedDialog)
  | [] => none
  | jc :: jcs => (cancelledIn a jc).elim (findCancelled a jcs) fun found => some (jc, found)

def addCancel (s : Owners) (jc : OwnedCall) (jd : Option OwnedDialog) (t : Nat) : Owners :=
  match jd with
  | some jd => s.modifyDialog jc.address jd.address (OwnedDialog.addIncTr t)
  | none => s.addTransaction t

/-- `_eXosip_process_cancel`. -/
def processCancel (s : Owners) (a : Arrival) (t : Nat) : Owners :=
  match findCancelled a s.jCalls with
  | none => s.addTransaction t
  | some (jc, tr, jd) =>
      if !a.answerBuilt then s.addTransaction t
      else if (s.memory tr).state ∈ [State.istTerminated, .istConfirmed, .istCompleted] then
        s.addCancel jc jd t
      else
        (s.addCancel jc jd t).setReserved t (some jc.address) (jd.map (·.address))

/-- `_eXosip_process_new_invite`. -/
def processNewInvite (s : Owners) (a : Arrival) (t : Nat) : Owners :=
  if a.toTag then
    if a.answerBuilt then s.update else s.addTransaction t
  else
    let c := s.fresh
    let s := s.addCall none
    if !(a.answerBuilt && a.dialogBuilt) then s.addTransaction t
    else
      let d := s.fresh
      let s := ((s.addDialog c .early).setReserved t (some c) (some d)).update
      s.modifyCall c fun jc => { jc with cIncTr := some t }

/-- `_eXosip_process_reinvite` and `_eXosip_process_message_within_dialog`. -/
def processInDialog (s : Owners) (jc : OwnedCall) (jd : OwnedDialog) (t : Nat) : Owners :=
  (s.modifyDialog jc.address jd.address (OwnedDialog.addIncTr t)).setReserved t
    (some jc.address) (some jd.address)

/-- `_eXosip_process_bye`. -/
def processBye (s : Owners) (a : Arrival) (jc : OwnedCall) (jd : OwnedDialog) (t : Nat) :
    Owners :=
  if !a.autoanswerBye then s.processInDialog jc jd t
  else
    let s := s.setReserved t (some jc.address) none
    if !a.answerBuilt then s.addTransaction t
    else
      (s.modifyDialog jc.address jd.address fun jd => (jd.addIncTr t).setDialog none).update

/-- `_eXosip_process_newrequest` after a dialog has been found and the CSeq accepted. -/
def processWithinCall (s : Owners) (a : Arrival) (jc : OwnedCall) (jd : OwnedDialog) (t : Nat) :
    Owners :=
  let byeReceived := (s.findLast .bye jd.dIncTrs).isSome
  let byeSent := (s.findLast .bye jd.dOutTrs).isSome
  match a.method with
  | .bye =>
      if !a.toTag || byeReceived then s.addTransaction t else s.processBye a jc jd t
  | .invite =>
      if byeReceived || byeSent ||
          s.unfinished (s.findLastIncInvite jc jd) [.istCompleted, .istConfirmed, .istTerminated] ||
          s.unfinished (s.findLastOutInvite jc jd) [.ictCompleted, .ictTerminated] then
        s.addTransaction t
      else s.processInDialog jc jd t
  | _ => if byeReceived || byeSent then s.addTransaction t else s.processInDialog jc jd t

/-- `_eXosip_process_newrequest` for the transaction that was made. -/
def processTransactionOf (s : Owners) (a : Arrival) (t : Nat) : Owners :=
  if a.method = .cancel then s.processCancel a t
  else
    let found := findInCalls (fun jd => jd.dDialog.isSome && a.matchesDialog jd.address) s.jCalls
    match (if found.isSome then a.cseqTest else .newer) with
    | .older => s.addTransaction t
    | .duplicate => s.addTransaction t
    | .seen => s.transactionFree t
    | .newer =>
        if a.method = .invite && !a.tryingBuilt then s.transactionFree t
        else
          match found with
          | some (jc, jd) => s.processWithinCall a jc jd t
          | none => if a.method = .invite then s.processNewInvite a t else s.addTransaction t

/-- `_eXosip_process_newrequest`. An ACK has no transaction. -/
def processRequest (s : Owners) (a : Arrival) (now : Int) : Owners :=
  if a.method = .ack then s
  else
    let state := if a.method = .invite then State.istPreProceeding else .nistPreTrying
    (s.transactionInit a.method a.toTag state now).processTransactionOf a s.fresh

/-! ### Responses -/

/-- A response to a transaction: its status and the method of its CSeq, whether a dialog can
be built from it, and whether its To tag is another one than that of the dialog. -/
structure ResponseRead where
  status : Int
  method : RequestMethod
  dialogBuilt : Bool
  otherTag : Bool

/-- A dialog made by a response, for the call of the transaction. -/
def establish (s : Owners) (t c : Nat) (r : ResponseRead) (state : DialogState) : Owners :=
  if r.dialogBuilt && (s.callAt c).isSome then
    ((s.addDialog c state).setReserved t (some c) (some s.fresh)).update
  else s

/-- The `osip_dialog_t` is replaced by that of the response. -/
def replaceDialog (r : ResponseRead) (state : DialogState) (jd : OwnedDialog) : OwnedDialog :=
  jd.setDialog (if r.dialogBuilt then some state else none)

/-- `_eXosip_call_renew_expire_time`, which an INVITE asks for. -/
def renewExpireTime (s : Owners) (c : Nat) (r : ResponseRead) (now : Int) : Owners :=
  if r.method = .invite then s.modifyCall c fun jc => { jc with expireTime := now + 180 } else s

/-- `cb_rcv1xx`. -/
def cbRcv1xxOf (s : Owners) (t : Nat) (r : ResponseRead) (now : Int) : Owners :=
  if r.status = 100 || r.method ∉ [RequestMethod.invite, .refer, .subscribe] then s
  else
    match (s.memory t).reserved2, (s.memory t).reserved3 with
    | none, _ => s
    | some c, none =>
        if r.dialogBuilt then (s.establish t c r .early).renewExpireTime c r now else s
    | some c, some d =>
        (s.modifyDialog c d fun jd =>
          if jd.dDialog.isSome && r.otherTag then replaceDialog r .early jd
          else jd).renewExpireTime c r now

/-- `cb_rcv2xx`, which goes on to `cb_rcv2xx_4invite`. -/
def cbRcv2xxOf (s : Owners) (t : Nat) (r : ResponseRead) : Owners :=
  if r.method ≠ .invite then s
  else
    match (s.memory t).reserved2, (s.memory t).reserved3 with
    | none, _ => s
    | some c, none => s.establish t c r .confirmed
    | some c, some d =>
        s.modifyDialog c d fun jd =>
          if jd.dDialog.isNone then jd
          else if r.otherTag then replaceDialog r .confirmed jd
          else jd.setDialog (some .confirmed)

/-- `_eXosip_delete_early_dialog`. -/
def deleteEarlyDialog (s : Owners) (c d : Nat) : Owners :=
  if ((s.callAt c).bind (dialogAt · d)).any fun jd => jd.dDialog = some .early then
    (s.modifyDialog c d (OwnedDialog.setDialog none)).update
  else s

/-- `cb_rcv3xx` to `cb_rcv6xx`. -/
def cbRcvFailureOf (s : Owners) (t : Nat) (r : ResponseRead) : Owners :=
  match (s.memory t).reserved2, (s.memory t).reserved3 with
  | some c, some d => if r.method = .invite then s.deleteEarlyDialog c d else s
  | _, _ => s

def rcvResponseOf (s : Owners) (t : Nat) (r : ResponseRead) (now : Int) : Owners :=
  let s := s.setTr t fun tr => { tr with lastResponse := some r.status }
  if r.status < 200 then s.cbRcv1xxOf t r now
  else if r.status < 300 then s.cbRcv2xxOf t r
  else s.cbRcvFailureOf t r

end Owners
end Exosip
