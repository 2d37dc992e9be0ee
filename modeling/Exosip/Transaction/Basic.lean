import Exosip.Machine.Run
import Exosip.Parser.Message
import Exosip.Time.Timeval

/-! The transaction and its state machine interpreter: what `osip_transaction_execute`
works on, what it can do to the outside, and how it finds the handler of an event. -/
namespace Exosip

open CString

/-- `state_t`. -/
inductive State where
  | ictPreCalling | ictCalling | ictProceeding | ictCompleted | ictTerminated
  | istPreProceeding | istProceeding | istCompleted | istConfirmed | istTerminated
  | nictPreTrying | nictTrying | nictProceeding | nictCompleted | nictTerminated
  | nistPreTrying | nistTrying | nistProceeding | nistCompleted | nistTerminated
  deriving DecidableEq, Repr

/-- `type_t`. -/
inductive EventType where
  | timeoutA | timeoutB | timeoutD
  | timeoutE | timeoutF | timeoutK
  | timeoutG | timeoutH | timeoutI
  | timeoutJ
  | rcvReqinvite | rcvReqack | rcvRequest | rcvStatus1xx | rcvStatus2xx | rcvStatus3456xx
  | sndReqinvite | sndReqack | sndRequest | sndStatus1xx | sndStatus2xx | sndStatus3456xx
  | killTransaction | unknownEvt
  deriving DecidableEq, Repr

/-- `EVT_IS_MSG`: from `RCV_REQINVITE` to `SND_STATUS_3456XX`. -/
def EventType.isMsg : EventType → Bool
  | rcvReqinvite | rcvReqack | rcvRequest | rcvStatus1xx | rcvStatus2xx | rcvStatus3456xx
  | sndReqinvite | sndReqack | sndRequest | sndStatus1xx | sndStatus2xx | sndStatus3456xx => true
  | _ => false

/-- An event as it waits in the fifo. A message event carries its message; the
`MSG_IS_xxx` tests of a missing message are read as false. -/
structure Event where
  type : EventType
  transactionid : Int
  sip : Option Message
  deriving DecidableEq, Repr

def evtSetTypeIncomingSipmessage (sip : Message) : EventType :=
  if sip.isRequest then
    if sip.isInvite then .rcvReqinvite
    else if sip.isAck then .rcvReqack
    else .rcvRequest
  else if sip.isStatus1xx then .rcvStatus1xx
  else if sip.isStatus2xx then .rcvStatus2xx
  else .rcvStatus3456xx

def evtSetTypeOutgoingSipmessage (sip : Message) : EventType :=
  if sip.isRequest then
    if sip.isInvite then .sndReqinvite
    else if sip.isAck then .sndReqack
    else .sndRequest
  else if sip.isStatus1xx then .sndStatus1xx
  else if sip.isStatus2xx then .sndStatus2xx
  else .sndStatus3456xx

/-- `osip_message_callback_type_t`. -/
inductive MessageCallbackType where
  | ictInviteSent | ictInviteSentAgain | ictAckSent | ictAckSentAgain
  | ictStatus1xxReceived | ictStatus2xxReceived | ictStatus2xxReceivedAgain
  | ictStatus3xxReceived | ictStatus4xxReceived | ictStatus5xxReceived
  | ictStatus6xxReceived | ictStatus3456xxReceivedAgain
  | istInviteReceived | istInviteReceivedAgain | istAckReceived | istAckReceivedAgain
  | istStatus1xxSent | istStatus2xxSent | istStatus2xxSentAgain
  | istStatus3xxSent | istStatus4xxSent | istStatus5xxSent | istStatus6xxSent
  | istStatus3456xxSentAgain
  | nictRegisterSent | nictByeSent | nictOptionsSent | nictInfoSent | nictCancelSent
  | nictNotifySent | nictSubscribeSent | nictUnknownRequestSent | nictRequestSentAgain
  | nictStatus1xxReceived | nictStatus2xxReceived | nictStatus2xxReceivedAgain
  | nictStatus3xxReceived | nictStatus4xxReceived | nictStatus5xxReceived
  | nictStatus6xxReceived | nictStatus3456xxReceivedAgain
  | nistRegisterReceived | nistByeReceived | nistOptionsReceived | nistInfoReceived
  | nistCancelReceived | nistNotifyReceived | nistSubscribeReceived
  | nistUnknownRequestReceived | nistRequestReceivedAgain
  | nistStatus1xxSent | nistStatus2xxSent | nistStatus2xxSentAgain
  | nistStatus3xxSent | nistStatus4xxSent | nistStatus5xxSent | nistStatus6xxSent
  | nistStatus3456xxSentAgain
  | ictStatusTimeout | nictStatusTimeout
  deriving DecidableEq, Repr

/-- `osip_kill_callback_type_t`. -/
inductive KillCallbackType where
  | ictKillTransaction | istKillTransaction | nictKillTransaction | nistKillTransaction
  deriving DecidableEq, Repr

/-- `osip_transport_error_callback_type_t`. -/
inductive TransportErrorCallbackType where
  | ictTransportError | istTransportError | nictTransportError | nistTransportError
  deriving DecidableEq, Repr

/-- What a handler does besides changing the transaction: the calls it makes to
`cb_send_message` and to the three callback dispatchers, and the messages it frees. -/
inductive Effect where
  | sendMessage (sip : Option Message) (host : Option Str) (port outSocket result : Int)
  | messageCallback (type : MessageCallbackType) (sip : Option Message)
  | killTransactionCallback (type : KillCallbackType)
  | transportErrorCallback (type : TransportErrorCallbackType) (error : Int)
  | messageFree (sip : Message)
  deriving DecidableEq, Repr

def Effect.freed (sip : Option Message) : List Effect :=
  match sip with
  | none => []
  | some sip => [.messageFree sip]

/-- What the outside answers while one event is executed: the result of
`cb_send_message` (no handler sends twice), the successive readings of the clock,
whether the allocations succeed, and `osip_getsystemtime`. -/
structure Io where
  sendResult : Int
  gettimeofday : Nat → Instant
  mallocOk : Bool
  systemTime : Int

def Io.strdup (io : Io) (s : Option Str) : Option Str := if io.mallocOk then s else none

/-- `osip_transaction_t` with the context `κ` of its kind. The five headers are
there in every transaction that `osip_transaction_init` returns. -/
structure Transaction (κ : Type) where
  transactionid : Int
  transactionff : List Event
  topvia : Via
  fromHeader : From
  toHeader : To
  callid : CallId
  cseq : Cseq
  origRequest : Option Message
  lastResponse : Option Message
  ack : Option Message
  state : State
  birthTime : Int
  completedTime : Int
  outSocket : Int
  ctx : κ

/-- A transaction in the middle of a handler, and the effects so far. -/
structure Outcome (κ : Type) where
  tr : Transaction κ
  trace : List Effect

variable {κ : Type}

namespace Outcome

def start (tr : Transaction κ) : Outcome κ := ⟨tr, []⟩

def emit (out : Outcome κ) (effect : Effect) : Outcome κ :=
  { out with trace := out.trace ++ [effect] }

def assign (out : Outcome κ) (f : Transaction κ → Transaction κ) : Outcome κ :=
  { out with tr := f out.tr }

/-- An assignment to fields of the context of the kind. -/
def setCtx (out : Outcome κ) (f : κ → κ) : Outcome κ :=
  { out with tr := { out.tr with ctx := f out.tr.ctx } }

/-- `__osip_transaction_set_state`. -/
def setState (out : Outcome κ) (state : State) : Outcome κ :=
  { out with tr := { out.tr with state := state } }

/-- `osip->cb_send_message (tr, sip, host, port, tr->out_socket)`. -/
def cbSendMessage (out : Outcome κ) (io : Io) (sip : Option Message) (host : Option Str)
    (port : Int) : Outcome κ :=
  out.emit (.sendMessage sip host port out.tr.outSocket io.sendResult)

/-- `__osip_message_callback`. -/
def messageCallback (out : Outcome κ) (type : MessageCallbackType) (sip : Option Message) :
    Outcome κ :=
  out.emit (.messageCallback type sip)

/-- `__osip_kill_transaction_callback`. -/
def killTransactionCallback (out : Outcome κ) (io : Io) (type : KillCallbackType) : Outcome κ :=
  (out.assign fun tr => { tr with completedTime := io.systemTime }).emit
    (.killTransactionCallback type)

/-- `__osip_transport_error_callback`. -/
def transportErrorCallback (out : Outcome κ) (type : TransportErrorCallbackType)
    (error : Int) : Outcome κ :=
  out.emit (.transportErrorCallback type error)

/-- `osip_message_free`; NULL is not freed. -/
def messageFree (out : Outcome κ) (sip : Option Message) : Outcome κ :=
  { out with trace := out.trace ++ Effect.freed sip }

def replaceLastResponse (out : Outcome κ) (sip : Option Message) : Outcome κ :=
  (out.messageFree out.tr.lastResponse).assign fun tr => { tr with lastResponse := sip }

/-- The state is set to the terminated one of the kind and the kill callback is called. -/
def terminate (out : Outcome κ) (io : Io) (terminated : State) (kill : KillCallbackType) :
    Outcome κ :=
  (out.setState terminated).killTransactionCallback io kill

/-- The `xixt_handle_transport_error` of the four kinds. -/
def handleTransportError (type : TransportErrorCallbackType) (terminated : State)
    (kill : KillCallbackType) (io : Io) (out : Outcome κ) (err : Int) : Outcome κ :=
  (out.transportErrorCallback type err).terminate io terminated kill

section Projections

variable (out : Outcome κ) (tr : Transaction κ)

@[simp] theorem start_tr : (start tr).tr = tr := rfl
@[simp] theorem start_trace : (start tr).trace = [] := rfl
@[simp] theorem emit_tr (effect : Effect) : (out.emit effect).tr = out.tr := rfl
@[simp] theorem emit_trace (effect : Effect) :
    (out.emit effect).trace = out.trace ++ [effect] := rfl
@[simp] theorem assign_tr (f : Transaction κ → Transaction κ) :
    (out.assign f).tr = f out.tr := rfl
@[simp] theorem assign_trace (f : Transaction κ → Transaction κ) :
    (out.assign f).trace = out.trace := rfl
@[simp] theorem setCtx_tr (f : κ → κ) :
    (out.setCtx f).tr = { out.tr with ctx := f out.tr.ctx } := rfl
@[simp] theorem setCtx_trace (f : κ → κ) : (out.setCtx f).trace = out.trace := rfl
@[simp] theorem setState_tr (state : State) :
    (out.setState state).tr = { out.tr with state := state } := rfl
@[simp] theorem setState_trace (state : State) : (out.setState state).trace = out.trace := rfl
@[simp] theorem cbSendMessage_tr (io : Io) (sip : Option Message) (host : Option Str)
    (port : Int) : (out.cbSendMessage io sip host port).tr = out.tr := rfl
@[simp] theorem cbSendMessage_trace (io : Io) (sip : Option Message) (host : Option Str)
    (port : Int) : (out.cbSendMessage io sip host port).trace =
      out.trace ++ [.sendMessage sip host port out.tr.outSocket io.sendResult] := rfl
@[simp] theorem messageCallback_tr (type : MessageCallbackType) (sip : Option Message) :
    (out.messageCallback type sip).tr = out.tr := rfl
@[simp] theorem messageCallback_trace (type : MessageCallbackType) (sip : Option Message) :
    (out.messageCallback type sip).trace = out.trace ++ [.messageCallback type sip] := rfl
@[simp] theorem killTransactionCallback_tr (io : Io) (type : KillCallbackType) :
    (out.killTransactionCallback io type).tr =
      { out.tr with completedTime := io.systemTime } := rfl
@[simp] theorem killTransactionCallback_trace (io : Io) (type : KillCallbackType) :
    (out.killTransactionCallback io type).trace =
      out.trace ++ [.killTransactionCallback type] := rfl
@[simp] theorem transportErrorCallback_tr (type : TransportErrorCallbackType) (error : Int) :
    (out.transportErrorCallback type error).tr = out.tr := rfl
@[simp] theorem transportErrorCallback_trace (type : TransportErrorCallbackType) (error : Int) :
    (out.transportErrorCallback type error).trace =
      out.trace ++ [.transportErrorCallback type error] := rfl
@[simp] theorem messageFree_tr (sip : Option Message) :
    (out.messageFree sip).tr = out.tr := rfl
@[simp] theorem messageFree_trace (sip : Option Message) :
    (out.messageFree sip).trace = out.trace ++ Effect.freed sip := rfl
@[simp] theorem replaceLastResponse_tr (sip : Option Message) :
    (out.replaceLastResponse sip).tr = { out.tr with lastResponse := sip } := rfl
@[simp] theorem replaceLastResponse_trace (sip : Option Message) :
    (out.replaceLastResponse sip).trace = out.trace ++ Effect.freed out.tr.lastResponse := rfl

@[simp] theorem terminate_tr (io : Io) (terminated : State) (kill : KillCallbackType) :
    (out.terminate io terminated kill).tr =
      { out.tr with state := terminated, completedTime := io.systemTime } := rfl
@[simp] theorem terminate_trace (io : Io) (terminated : State) (kill : KillCallbackType) :
    (out.terminate io terminated kill).trace = out.trace ++ [.killTransactionCallback kill] := rfl
@[simp] theorem handleTransportError_tr (type : TransportErrorCallbackType) (terminated : State)
    (kill : KillCallbackType) (io : Io) (err : Int) :
    (handleTransportError type terminated kill io out err).tr =
      { out.tr with state := terminated, completedTime := io.systemTime } := rfl
@[simp] theorem handleTransportError_trace (type : TransportErrorCallbackType)
    (terminated : State) (kill : KillCallbackType) (io : Io) (err : Int) :
    (handleTransportError type terminated kill io out err).trace =
      out.trace ++ [.transportErrorCallback type err] ++ [.killTransactionCallback kill] := rfl

end Projections
end Outcome

/-- `transition_t`; the `next` pointers make a list of the table. -/
structure Transition (κ : Type) where
  state : State
  type : EventType
  method : Transaction κ → Event → Io → Outcome κ

/-- A kind of transaction: its table and what `osip_transaction_init` does for it. -/
class StateMachine (κ : Type) where
  transitions : List (Transition κ)
  preState : State
  contextInit : Io → Message → Except Int κ

variable [StateMachine κ]

def fsmFindmethod (type : EventType) (state : State) (statemachine : List (Transition κ)) :
    Option (Transition κ) :=
  statemachine.find? fun transition => transition.type = type && transition.state = state

/-- `none` when no transition is found and the event must be discarded. -/
def fsmCallmethod (io : Io) (type : EventType) (state : State)
    (statemachine : List (Transition κ)) (sipevent : Event) (transaction : Transaction κ) :
    Option (Outcome κ) :=
  (fsmFindmethod type state statemachine).map fun transition =>
    transition.method transaction sipevent io

def osipTransactionExecute (transaction : Transaction κ) (evt : Event) (io : Io) : Outcome κ :=
  if evt.type = .killTransaction then .start transaction
  else
    match fsmCallmethod io evt.type transaction.state (StateMachine.transitions (κ := κ)) evt
        transaction with
    | some out => out
    | none =>
        if evt.type.isMsg then (Outcome.start transaction).messageFree evt.sip
        else .start transaction

/-- `osip_transaction_init`; `transactionid` is the counter of the stack. -/
def osipTransactionInit (κ : Type) [StateMachine κ] (io : Io) (transactionid outSocket : Int)
    (request : Option Message) : Except Int (Transaction κ) :=
  match request with
  | none => .error osipBadparameter
  | some request =>
      if (request.callId.bind (·.number)).isNone then .error osipBadparameter
      else if !io.mallocOk then .error osipNomem
      else
        match request.vias[0]? with
        | none => .error osipSyntaxerror
        | some via =>
            match osipViaClone (some via), osipFromClone request.fromHeader,
                osipFromClone request.toHeader, osipCallIdClone request.callId,
                osipCseqClone request.cseq with
            | some topvia, some fromHeader, some toHeader, some callid, some cseq =>
                match StateMachine.contextInit (κ := κ) io request with
                | .error i => .error i
                | .ok ctx =>
                    .ok
                      { transactionid, transactionff := [], topvia, fromHeader, toHeader,
                        callid, cseq, origRequest := none, lastResponse := none, ack := none,
                        state := StateMachine.preState κ, birthTime := io.systemTime,
                        completedTime := 0, outSocket, ctx }
            | _, _, _, _, _ => .error osipBadparameter

/-- The event is discarded in the state of the transaction. -/
def Useless (tr : Transaction κ) (evt : Event) : Prop :=
  evt.type = .killTransaction ∨
    ∀ t ∈ StateMachine.transitions (κ := κ), tr.state = t.state → evt.type ≠ t.type

/-- What holds of every handler at its entry of the table, and of an event that
is discarded, holds of the execution of any event. The property is one of the
handler as a function of what the outside answers. -/
theorem execute_of_transitions {P : (Io → Outcome κ) → Prop} {tr : Transaction κ} {evt : Event}
    (hmethod : ∀ t ∈ StateMachine.transitions (κ := κ), tr.state = t.state → evt.type = t.type →
      P (t.method tr evt))
    (huseless : Useless tr evt → P fun _ => Outcome.start tr)
    (hfreed : Useless tr evt → P fun _ => (Outcome.start tr).messageFree evt.sip) :
    P (osipTransactionExecute tr evt) := by
  unfold osipTransactionExecute fsmCallmethod
  by_cases hkill : evt.type = .killTransaction
  · simpa only [hkill, if_true] using huseless (.inl hkill)
  · simp only [hkill, if_false]
    cases hfind : fsmFindmethod evt.type tr.state (StateMachine.transitions (κ := κ)) with
    | none =>
        have hdiscard : Useless tr evt := by
          right
          intro t ht hstate htype
          have := List.find?_eq_none.1 hfind t ht
          simp [hstate, htype] at this
        cases evt.type.isMsg with
        | false => simpa using huseless hdiscard
        | true => simpa using hfreed hdiscard
    | some t =>
        have hmem := List.mem_of_find?_eq_some hfind
        have hkey := List.find?_some hfind
        simp only [Bool.and_eq_true, decide_eq_true_eq] at hkey
        simpa using hmethod t hmem hkey.2.symm hkey.1.symm

def executeStep : Machine.Step (Transaction κ) (Io × Event) Effect := fun tr input =>
  let out := osipTransactionExecute tr input.2 input.1
  (out.tr, out.trace)

abbrev runTransaction (tr : Transaction κ) (inputs : List (Io × Event)) :
    Transaction κ × List Effect :=
  Machine.run executeStep tr inputs

end Exosip
