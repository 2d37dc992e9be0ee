import Exosip.Transaction.Ict

/-! The non-INVITE client transaction. -/
namespace Exosip

structure Nict where
  timerELength : Int
  timerEStart : Timeval
  timerFLength : Int
  timerFStart : Timeval
  timerKLength : Int
  timerKStart : Timeval
  destination : Option Str
  port : Int
  deriving DecidableEq, Repr

def Nict.initial (io : Io) (request : Message) (proto : Str) : Nict where
  timerELength := defaultT1
  timerEStart := Timeval.zero.notStarted
  timerFLength := 64 * defaultT1
  timerFStart := (io.gettimeofday 0).after (64 * defaultT1)
  timerKLength := if isReliableProtocol proto then 0 else defaultT4
  timerKStart := Timeval.zero.notStarted
  destination := io.strdup (requestDestination request).1
  port := (requestDestination request).2

def osipNictInit (io : Io) (request : Message) : Except Int Nict :=
  (initProtocol io osipUndefinedError request).map (Nict.initial io request)

abbrev nictHandleTransportError : Io → Outcome Nict → Int → Outcome Nict :=
  Outcome.handleTransportError .nictTransportError .nictTerminated .nictKillTransaction

def Nict.stopTimerE (ctx : Nict) : Nict :=
  { ctx with timerELength := -1, timerEStart := ctx.timerEStart.notStarted }

def nictRequestSent (sip : Option Message) : MessageCallbackType :=
  if sip.any (·.isRegister) then .nictRegisterSent
  else if sip.any (·.isBye) then .nictByeSent
  else if sip.any (·.isOptions) then .nictOptionsSent
  else if sip.any (·.isInfo) then .nictInfoSent
  else if sip.any (·.isCancel) then .nictCancelSent
  else if sip.any (·.isNotify) then .nictNotifySent
  else if sip.any (·.isSubscribe) then .nictSubscribeSent
  else .nictUnknownRequestSent

/-- The protocol of the top Via of the request decides what becomes of timer E;
without one the transaction ends with the error -1. -/
def nictWithProtocol (io : Io) (nict : Outcome Nict) (k : Str → Outcome Nict) : Outcome Nict :=
  match Message.getVia nict.tr.origRequest 0 with
  | .error _ => nictHandleTransportError io nict (-1)
  | .ok via =>
      match via.protocol with
      | none => nictHandleTransportError io nict (-1)
      | some proto => k proto

theorem nictWithProtocol_cases {P : Outcome Nict → Prop} {io : Io} {nict : Outcome Nict}
    {k : Str → Outcome Nict} (herror : P (nictHandleTransportError io nict (-1)))
    (hproto : ∀ proto, P (k proto)) : P (nictWithProtocol io nict k) := by
  unfold nictWithProtocol
  cases Message.getVia nict.tr.origRequest 0 with
  | error i => exact herror
  | ok via =>
      cases h : via.protocol with
      | none => simpa [h] using herror
      | some proto => simpa [h] using hproto proto

/-- Timer E once the request left with the result `sendResult`: stopped when a
reliable transport has sent it, short while the connection is in progress. -/
def Nict.sndRequestTimerE (ctx : Nict) (io : Io) (proto : Str) : Nict :=
  let adjusted :=
    if isReliableProtocol proto then
      if io.sendResult = 0 then ctx.stopTimerE
      else { ctx with timerELength := defaultT1TcpProgress }
    else ctx
  if adjusted.timerELength > 0 then
    { adjusted with timerEStart := (io.gettimeofday 0).after adjusted.timerELength }
  else adjusted

@[simp] theorem Nict.sndRequestTimerE_timerFStart (ctx : Nict) (io : Io) (proto : Str) :
    (ctx.sndRequestTimerE io proto).timerFStart = ctx.timerFStart := by
  simp only [sndRequestTimerE]
  split_ifs <;> rfl

@[simp] theorem Nict.sndRequestTimerE_timerKLength (ctx : Nict) (io : Io) (proto : Str) :
    (ctx.sndRequestTimerE io proto).timerKLength = ctx.timerKLength := by
  simp only [sndRequestTimerE]
  split_ifs <;> rfl

@[simp] theorem Nict.sndRequestTimerE_timerKStart (ctx : Nict) (io : Io) (proto : Str) :
    (ctx.sndRequestTimerE io proto).timerKStart = ctx.timerKStart := by
  simp only [sndRequestTimerE]
  split_ifs <;> rfl

def nictSndRequest (nict : Transaction Nict) (evt : Event) (io : Io) : Outcome Nict :=
  let sent := (Outcome.start { nict with origRequest := evt.sip }).cbSendMessage io evt.sip
    nict.ctx.destination nict.ctx.port
  if io.sendResult < 0 then nictHandleTransportError io sent io.sendResult
  else
    let announced := sent.messageCallback (nictRequestSent evt.sip) sent.tr.origRequest
    nictWithProtocol io announced fun proto =>
      (announced.setCtx (·.sndRequestTimerE io proto)).setState .nictTrying

def nextTimerELength (state : State) (timerELength : Int) : Int :=
  if state = .nictTrying then
    let length :=
      if timerELength < defaultT1 then timerELength + defaultT1TcpProgress
      else timerELength * 2
    if length > defaultT2 then defaultT2 else length
  else defaultT2

def osipNictTimeoutEEvent (nict : Transaction Nict) (_evt : Event) (io : Io) : Outcome Nict :=
  let timerELength := nextTimerELength nict.state nict.ctx.timerELength
  let timerEStart := (io.gettimeofday 0).after timerELength
  let sent := (Outcome.start { nict with ctx := { nict.ctx with timerELength, timerEStart } })
    |>.cbSendMessage io nict.origRequest nict.ctx.destination nict.ctx.port
  if io.sendResult < 0 then nictHandleTransportError io sent io.sendResult
  else if io.sendResult = 0 then
    nictWithProtocol io sent fun proto =>
      (if isReliableProtocol proto then sent.setCtx Nict.stopTimerE else sent).messageCallback
        .nictRequestSentAgain nict.origRequest
  else sent

def osipNictTimeoutFEvent (nict : Transaction Nict) (evt : Event) (io : Io) : Outcome Nict :=
  (Outcome.start nict).setCtx (fun ctx =>
      { ctx with timerFLength := -1, timerFStart := ctx.timerFStart.notStarted })
    |>.messageCallback .nictStatusTimeout evt.sip
    |>.terminate io .nictTerminated .nictKillTransaction

def osipNictTimeoutKEvent (nict : Transaction Nict) (_evt : Event) (io : Io) : Outcome Nict :=
  (Outcome.start nict).setCtx (fun ctx =>
      { ctx with timerKLength := -1, timerKStart := ctx.timerKStart.notStarted })
    |>.terminate io .nictTerminated .nictKillTransaction

/-- A provisional response slows the retransmissions down, where there are any. -/
def Nict.slowTimerE (ctx : Nict) (io : Io) : Nict :=
  if ctx.timerELength > 0 then
    { ctx with
      timerELength := defaultT2
      timerEStart := (io.gettimeofday 0).after defaultT2 }
  else ctx

@[simp] theorem Nict.slowTimerE_timerFStart (ctx : Nict) (io : Io) :
    (ctx.slowTimerE io).timerFStart = ctx.timerFStart := by
  unfold slowTimerE
  split_ifs <;> rfl

@[simp] theorem Nict.slowTimerE_timerKLength (ctx : Nict) (io : Io) :
    (ctx.slowTimerE io).timerKLength = ctx.timerKLength := by
  unfold slowTimerE
  split_ifs <;> rfl

@[simp] theorem Nict.slowTimerE_timerKStart (ctx : Nict) (io : Io) :
    (ctx.slowTimerE io).timerKStart = ctx.timerKStart := by
  unfold slowTimerE
  split_ifs <;> rfl

def nictRcv1xx (nict : Transaction Nict) (evt : Event) (io : Io) : Outcome Nict :=
  (Outcome.start nict).replaceLastResponse evt.sip
    |>.setCtx (·.slowTimerE io)
    |>.messageCallback .nictStatus1xxReceived evt.sip
    |>.setState .nictProceeding

/-- The callback of `nict_rcv_23456xx`; the class 2xx is read off the event. -/
def nictStatusReceived (evt : Event) : MessageCallbackType :=
  if evt.type = .rcvStatus2xx then .nictStatus2xxReceived
  else if evt.sip.any (·.isStatus3xx) then .nictStatus3xxReceived
  else if evt.sip.any (·.isStatus4xx) then .nictStatus4xxReceived
  else if evt.sip.any (·.isStatus5xx) then .nictStatus5xxReceived
  else .nictStatus6xxReceived

def Nict.startTimerK (ctx : Nict) (io : Io) : Nict :=
  { ctx with timerKStart := (io.gettimeofday 0).after ctx.timerKLength }

def nictRcv23456xx (nict : Transaction Nict) (evt : Event) (io : Io) : Outcome Nict :=
  (Outcome.start nict).replaceLastResponse evt.sip
    |>.messageCallback (nictStatusReceived evt) evt.sip
    |>.setCtx (fun ctx => if nict.state ≠ .nictCompleted then ctx.startTimerK io else ctx)
    |>.setState .nictCompleted

def nictTransition : List (Transition Nict) :=
  [⟨.nictPreTrying, .sndRequest, nictSndRequest⟩,
    ⟨.nictTrying, .timeoutF, osipNictTimeoutFEvent⟩,
    ⟨.nictTrying, .timeoutE, osipNictTimeoutEEvent⟩,
    ⟨.nictTrying, .rcvStatus1xx, nictRcv1xx⟩,
    ⟨.nictTrying, .rcvStatus2xx, nictRcv23456xx⟩,
    ⟨.nictTrying, .rcvStatus3456xx, nictRcv23456xx⟩,
    ⟨.nictProceeding, .timeoutF, osipNictTimeoutFEvent⟩,
    ⟨.nictProceeding, .timeoutE, osipNictTimeoutEEvent⟩,
    ⟨.nictProceeding, .rcvStatus1xx, nictRcv1xx⟩,
    ⟨.nictProceeding, .rcvStatus2xx, nictRcv23456xx⟩,
    ⟨.nictProceeding, .rcvStatus3456xx, nictRcv23456xx⟩,
    ⟨.nictCompleted, .timeoutK, osipNictTimeoutKEvent⟩]

instance : StateMachine Nict where
  transitions := nictTransition
  preState := .nictPreTrying
  contextInit := osipNictInit

theorem nict_execute_cases {P : (Io → Outcome Nict) → Prop} {nict : Transaction Nict}
    {evt : Event}
    (sndRequest : nict.state = .nictPreTrying → evt.type = .sndRequest →
      P (nictSndRequest nict evt))
    (timeoutF : nict.state = .nictTrying ∨ nict.state = .nictProceeding →
      evt.type = .timeoutF → P (osipNictTimeoutFEvent nict evt))
    (timeoutE : nict.state = .nictTrying ∨ nict.state = .nictProceeding →
      evt.type = .timeoutE → P (osipNictTimeoutEEvent nict evt))
    (rcv1xx : nict.state = .nictTrying ∨ nict.state = .nictProceeding →
      evt.type = .rcvStatus1xx → P (nictRcv1xx nict evt))
    (rcv23456xx : nict.state = .nictTrying ∨ nict.state = .nictProceeding →
      evt.type = .rcvStatus2xx ∨ evt.type = .rcvStatus3456xx → P (nictRcv23456xx nict evt))
    (timeoutK : nict.state = .nictCompleted → evt.type = .timeoutK →
      P (osipNictTimeoutKEvent nict evt))
    (useless : Useless nict evt → P fun _ => Outcome.start nict)
    (freed : Useless nict evt → P fun _ => (Outcome.start nict).messageFree evt.sip) :
    P (osipTransactionExecute nict evt) := by
  refine execute_of_transitions ?_ useless freed
  simp only [StateMachine.transitions, nictTransition, List.forall_mem_cons]
  exact ⟨sndRequest, fun h => timeoutF (.inl h), fun h => timeoutE (.inl h),
    fun h => rcv1xx (.inl h), fun h ht => rcv23456xx (.inl h) (.inl ht),
    fun h ht => rcv23456xx (.inl h) (.inr ht), fun h => timeoutF (.inr h),
    fun h => timeoutE (.inr h), fun h => rcv1xx (.inr h),
    fun h ht => rcv23456xx (.inr h) (.inl ht), fun h ht => rcv23456xx (.inr h) (.inr ht),
    timeoutK, List.forall_mem_nil _⟩

end Exosip
