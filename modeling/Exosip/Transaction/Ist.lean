import Exosip.Transaction.Ict

/-! The INVITE server transaction, and the sending of responses that both server
transactions share. -/
namespace Exosip

open CString

/-- The host and port that a response is sent to: the choice that
`__osip_transaction_snd_xxx` makes in the top Via of the response. -/
def sndXxxDestination (via : Via) : Option Str × Int :=
  let maddr := via.paramGetByname "maddr".toList
  let received := via.paramGetByname "received".toList
  let rport := via.paramGetByname "rport".toList
  let host :=
    match maddr, received with
    | some maddr, _ => maddr.gvalue
    | none, some received => received.gvalue
    | none, none => via.host
  let port :=
    match rport.bind (·.gvalue) with
    | none => (via.port.map osipAtoi).getD 5060
    | some gvalue => osipAtoi gvalue
  (host, port)

/-- `__osip_transaction_snd_xxx`, with its return value. -/
def osipTransactionSndXxx {κ : Type} (io : Io) (ist : Outcome κ) (msg : Option Message) :
    Outcome κ × Int :=
  match msg.bind (·.vias[0]?) with
  | none => (ist, osipSyntaxerror)
  | some via =>
      (ist.cbSendMessage io msg (sndXxxDestination via).1 (sndXxxDestination via).2,
        io.sendResult)

/-- The sending of `msg` with the test that every handler of the server transactions
makes: any result but 0 is a transport error. `k` is the rest of the handler. -/
def sndXxxOrError {κ : Type} (handleTransportError : Io → Outcome κ → Int → Outcome κ) (io : Io)
    (ist : Outcome κ) (msg : Option Message) (k : Outcome κ → Outcome κ) : Outcome κ :=
  let (sent, i) := osipTransactionSndXxx io ist msg
  if i ≠ 0 then handleTransportError io sent i else k sent

theorem sndXxxOrError_cases {κ : Type} {P : Outcome κ → Prop}
    {handleTransportError : Io → Outcome κ → Int → Outcome κ} {io : Io} {ist : Outcome κ}
    {msg : Option Message} {k : Outcome κ → Outcome κ}
    (hmissing : P (handleTransportError io ist osipSyntaxerror))
    (herror : ∀ host port, io.sendResult ≠ 0 →
      P (handleTransportError io (ist.cbSendMessage io msg host port) io.sendResult))
    (hsent : ∀ host port, io.sendResult = 0 → P (k (ist.cbSendMessage io msg host port))) :
    P (sndXxxOrError handleTransportError io ist msg k) := by
  unfold sndXxxOrError osipTransactionSndXxx
  cases msg.bind (·.vias[0]?) with
  | none => exact hmissing
  | some via =>
      simp only
      split
      · next h => exact herror _ _ h
      · next h => exact hsent _ _ (not_not.1 h)

structure Ist where
  timerGLength : Int
  timerGStart : Timeval
  timerHLength : Int
  timerHStart : Timeval
  timerILength : Int
  timerIStart : Timeval
  deriving DecidableEq, Repr

def Ist.initial (proto : Str) : Ist where
  timerGLength := if isReliableProtocol proto then -1 else defaultT1
  timerGStart := Timeval.zero.notStarted
  timerHLength := 64 * defaultT1
  timerHStart := Timeval.zero.notStarted
  timerILength := if isReliableProtocol proto then 0 else defaultT4
  timerIStart := Timeval.zero.notStarted

def osipIstInit (io : Io) (invite : Message) : Except Int Ist :=
  (initProtocol io osipUndefinedError invite).map Ist.initial

abbrev istHandleTransportError : Io → Outcome Ist → Int → Outcome Ist :=
  Outcome.handleTransportError .istTransportError .istTerminated .istKillTransaction

abbrev istSnd : Io → Outcome Ist → Option Message → (Outcome Ist → Outcome Ist) → Outcome Ist :=
  sndXxxOrError istHandleTransportError

def istStatusSentAgain (sip : Option Message) : MessageCallbackType :=
  if sip.any (·.isStatus1xx) then .istStatus1xxSent
  else if sip.any (·.isStatus2xx) then .istStatus2xxSentAgain
  else .istStatus3456xxSentAgain

def istRcvInvite (ist : Transaction Ist) (evt : Event) (io : Io) : Outcome Ist :=
  if ist.state = .istPreProceeding then
    (Outcome.start { ist with origRequest := evt.sip })
      |>.messageCallback .istInviteReceived evt.sip
      |>.setState .istProceeding
  else
    let again := ((Outcome.start ist).messageFree evt.sip).messageCallback
      .istInviteReceivedAgain ist.origRequest
    if ist.lastResponse.isSome then
      istSnd io again ist.lastResponse fun sent =>
        sent.messageCallback (istStatusSentAgain ist.lastResponse) ist.lastResponse
    else again

def osipIstTimeoutGEvent (ist : Transaction Ist) (_evt : Event) (io : Io) : Outcome Ist :=
  let timerGLength :=
    if ist.ctx.timerGLength * 2 > defaultT2 then defaultT2 else ist.ctx.timerGLength * 2
  let timerGStart := (io.gettimeofday 0).after timerGLength
  istSnd io (Outcome.start { ist with ctx := { ist.ctx with timerGLength, timerGStart } })
    ist.lastResponse fun sent =>
      sent.messageCallback .istStatus3456xxSentAgain ist.lastResponse

def osipIstTimeoutHEvent (ist : Transaction Ist) (_evt : Event) (io : Io) : Outcome Ist :=
  (Outcome.start ist).setCtx (fun ctx =>
      { ctx with timerHLength := -1, timerHStart := ctx.timerHStart.notStarted })
    |>.terminate io .istTerminated .istKillTransaction

def osipIstTimeoutIEvent (ist : Transaction Ist) (_evt : Event) (io : Io) : Outcome Ist :=
  (Outcome.start ist).setCtx (fun ctx =>
      { ctx with timerILength := -1, timerIStart := ctx.timerIStart.notStarted })
    |>.terminate io .istTerminated .istKillTransaction

def istSnd1xx (ist : Transaction Ist) (evt : Event) (io : Io) : Outcome Ist :=
  istSnd io ((Outcome.start ist).replaceLastResponse evt.sip) evt.sip fun sent =>
    sent.messageCallback .istStatus1xxSent evt.sip

def istSnd2xx (ist : Transaction Ist) (evt : Event) (io : Io) : Outcome Ist :=
  istSnd io ((Outcome.start ist).replaceLastResponse evt.sip) evt.sip fun sent =>
    sent.messageCallback .istStatus2xxSent evt.sip
      |>.terminate io .istTerminated .istKillTransaction

def istStatusSent (sip : Option Message) : MessageCallbackType :=
  if sip.any (·.isStatus3xx) then .istStatus3xxSent
  else if sip.any (·.isStatus4xx) then .istStatus4xxSent
  else if sip.any (·.isStatus5xx) then .istStatus5xxSent
  else .istStatus6xxSent

/-- Timer G is started where it is used, timer H always. -/
def Ist.startTimersGH (ctx : Ist) (io : Io) : Ist :=
  { ctx with
    timerGStart :=
      if ctx.timerGLength ≠ -1 then (io.gettimeofday 0).after ctx.timerGLength
      else ctx.timerGStart
    timerHStart := (io.gettimeofday 1).after ctx.timerHLength }

def istSnd3456xx (ist : Transaction Ist) (evt : Event) (io : Io) : Outcome Ist :=
  istSnd io ((Outcome.start ist).replaceLastResponse evt.sip) evt.sip fun sent =>
    sent.messageCallback (istStatusSent evt.sip) evt.sip
      |>.setCtx (·.startTimersGH io)
      |>.setState .istCompleted

def istRcvAck (ist : Transaction Ist) (evt : Event) (io : Io) : Outcome Ist :=
  let type : MessageCallbackType :=
    if ist.state = .istCompleted then .istAckReceived else .istAckReceivedAgain
  ((Outcome.start ist).messageFree ist.ack).assign (fun tr => { tr with ack := evt.sip })
    |>.messageCallback type evt.sip
    |>.setCtx (fun ctx =>
      { ctx with timerIStart := (io.gettimeofday 0).after ctx.timerILength })
    |>.setState .istConfirmed

def istTransition : List (Transition Ist) :=
  [⟨.istPreProceeding, .rcvReqinvite, istRcvInvite⟩,
    ⟨.istProceeding, .rcvReqinvite, istRcvInvite⟩,
    ⟨.istCompleted, .rcvReqinvite, istRcvInvite⟩,
    ⟨.istCompleted, .timeoutG, osipIstTimeoutGEvent⟩,
    ⟨.istCompleted, .timeoutH, osipIstTimeoutHEvent⟩,
    ⟨.istProceeding, .sndStatus1xx, istSnd1xx⟩,
    ⟨.istProceeding, .sndStatus2xx, istSnd2xx⟩,
    ⟨.istProceeding, .sndStatus3456xx, istSnd3456xx⟩,
    ⟨.istCompleted, .rcvReqack, istRcvAck⟩,
    ⟨.istConfirmed, .rcvReqack, istRcvAck⟩,
    ⟨.istConfirmed, .timeoutI, osipIstTimeoutIEvent⟩]

instance : StateMachine Ist where
  transitions := istTransition
  preState := .istPreProceeding
  contextInit := osipIstInit

theorem ist_execute_cases {P : (Io → Outcome Ist) → Prop} {ist : Transaction Ist} {evt : Event}
    (rcvInvite : ist.state = .istPreProceeding ∨ ist.state = .istProceeding ∨
      ist.state = .istCompleted → evt.type = .rcvReqinvite → P (istRcvInvite ist evt))
    (timeoutG : ist.state = .istCompleted → evt.type = .timeoutG →
      P (osipIstTimeoutGEvent ist evt))
    (timeoutH : ist.state = .istCompleted → evt.type = .timeoutH →
      P (osipIstTimeoutHEvent ist evt))
    (snd1xx : ist.state = .istProceeding → evt.type = .sndStatus1xx → P (istSnd1xx ist evt))
    (snd2xx : ist.state = .istProceeding → evt.type = .sndStatus2xx → P (istSnd2xx ist evt))
    (snd3456xx : ist.state = .istProceeding → evt.type = .sndStatus3456xx →
      P (istSnd3456xx ist evt))
    (rcvAck : ist.state = .istCompleted ∨ ist.state = .istConfirmed →
      evt.type = .rcvReqack → P (istRcvAck ist evt))
    (timeoutI : ist.state = .istConfirmed → evt.type = .timeoutI →
      P (osipIstTimeoutIEvent ist evt))
    (useless : Useless ist evt → P fun _ => Outcome.start ist)
    (freed : Useless ist evt → P fun _ => (Outcome.start ist).messageFree evt.sip) :
    P (osipTransactionExecute ist evt) := by
  refine execute_of_transitions ?_ useless freed
  simp only [StateMachine.transitions, istTransition, List.forall_mem_cons]
  exact ⟨fun h => rcvInvite (.inl h), fun h => rcvInvite (.inr (.inl h)),
    fun h => rcvInvite (.inr (.inr h)), timeoutG, timeoutH, snd1xx, snd2xx, snd3456xx,
    fun h => rcvAck (.inl h), fun h => rcvAck (.inr h), timeoutI, List.forall_mem_nil _⟩

end Exosip
