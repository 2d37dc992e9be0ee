import Exosip.Transaction.Basic

/-! The INVITE client transaction: its context, its handlers and its table. -/
namespace Exosip

open CString

abbrev defaultT1 : Int := 500
abbrev defaultT1TcpProgress : Int := 50
abbrev defaultT2 : Int := 4000
abbrev defaultT4 : Int := 5000

structure Ict where
  timerALength : Int
  timerAStart : Timeval
  timerBLength : Int
  timerBStart : Timeval
  timerDLength : Int
  timerDStart : Timeval
  destination : Option Str
  port : Int
  deriving DecidableEq, Repr

/-- Where a request goes without help of the application: the first route when it
is a loose router, else the request-uri with its `maddr` or the pair `x-obr`, `x-obp`. -/
def requestDestination (request : Message) : Option Str × Int :=
  let looseRoute := ((request.getRoute 0).bind (·.url)).filter fun url =>
    (url.uparamGetByname "lr".toList).isSome
  match looseRoute with
  | some url => (url.host, (url.port.map osipAtoi).getD 5060)
  | none =>
      let port := ((request.reqUri.bind (·.port)).map osipAtoi).getD 5060
      let uparam (name : String) : Option Str :=
        (request.reqUri.bind (·.uparamGetByname name.toList)).bind (·.gvalue)
      match uparam "maddr", uparam "x-obr", uparam "x-obp" with
      | some maddr, _, _ => (some maddr, port)
      | none, some obr, some obp => (some obr, osipAtoi obp)
      | none, _, _ => (request.reqUri.bind (·.host), port)

/-- The beginning of the four `__osip_xixt_init`: the protocol of the top Via. They
differ in the code for a Via without one. -/
def initProtocol (io : Io) (missing : Int) (request : Message) : Except Int Str :=
  if !io.mallocOk then .error osipNomem
  else
    match Message.getVia (some request) 0 with
    | .error i => .error i
    | .ok via =>
        match via.protocol with
        | none => .error missing
        | some proto => .ok proto

/-- The context built by `__osip_ict_init`. On a reliable transport timer A still runs:
the first attempts only make progress on the connection. -/
def Ict.initial (io : Io) (invite : Message) (proto : Str) : Ict where
  timerALength := defaultT1
  timerAStart := (io.gettimeofday 0).after defaultT1
  timerBLength := 64 * defaultT1
  timerBStart := (io.gettimeofday 1).after (64 * defaultT1)
  timerDLength := if isReliableProtocol proto then 0 else max 32000 (64 * defaultT1)
  timerDStart := Timeval.zero.notStarted
  destination := io.strdup (requestDestination invite).1
  port := (requestDestination invite).2

def osipIctInit (io : Io) (invite : Message) : Except Int Ict :=
  (initProtocol io osipSyntaxerror invite).map (Ict.initial io invite)

abbrev ictHandleTransportError : Io → Outcome Ict → Int → Outcome Ict :=
  Outcome.handleTransportError .ictTransportError .ictTerminated .ictKillTransaction

def Ict.stopTimerA (ctx : Ict) : Ict :=
  { ctx with timerALength := -1, timerAStart := ctx.timerAStart.notStarted }

/-- What `ict_snd_invite` and `osip_ict_timeout_a_event` do after the request was
sent: a reliable transport needs no timer A any more. `k` is the rest of the handler. -/
def ictRequestSent (io : Io) (ict : Outcome Ict) (k : Outcome Ict → Outcome Ict) : Outcome Ict :=
  match Message.getVia ict.tr.origRequest 0 with
  | .error i => ictHandleTransportError io ict i
  | .ok via =>
      match via.protocol with
      | none => ictHandleTransportError io ict 0
      | some proto => k (if isReliableProtocol proto then ict.setCtx Ict.stopTimerA else ict)

theorem ictRequestSent_cases {P : Outcome Ict → Prop} {io : Io} {ict : Outcome Ict}
    {k : Outcome Ict → Outcome Ict} (herror : ∀ err, P (ictHandleTransportError io ict err))
    (hreliable : P (k (ict.setCtx Ict.stopTimerA))) (hunreliable : P (k ict)) :
    P (ictRequestSent io ict k) := by
  unfold ictRequestSent
  cases Message.getVia ict.tr.origRequest 0 with
  | error i => exact herror i
  | ok via =>
      cases hproto : via.protocol with
      | none => simpa [hproto] using herror 0
      | some proto =>
          simp only [hproto]
          split
          · exact hreliable
          · exact hunreliable

def ictSndInvite (ict : Transaction Ict) (evt : Event) (io : Io) : Outcome Ict :=
  let sent := (Outcome.start { ict with origRequest := evt.sip }).cbSendMessage io evt.sip
    ict.ctx.destination ict.ctx.port
  let announce (out : Outcome Ict) :=
    (out.messageCallback .ictInviteSent out.tr.origRequest).setState .ictCalling
  if io.sendResult < 0 then ictHandleTransportError io sent io.sendResult
  else if io.sendResult = 0 then ictRequestSent io sent announce
  else announce sent

def osipIctTimeoutAEvent (ict : Transaction Ict) (_evt : Event) (io : Io) : Outcome Ict :=
  let timerALength := ict.ctx.timerALength * 2
  let timerAStart := (io.gettimeofday 0).after timerALength
  let sent := (Outcome.start { ict with ctx := { ict.ctx with timerALength, timerAStart } })
    |>.cbSendMessage io ict.origRequest ict.ctx.destination ict.ctx.port
  if io.sendResult < 0 then ictHandleTransportError io sent io.sendResult
  else if io.sendResult = 0 then
    ictRequestSent io sent fun out => out.messageCallback .ictInviteSentAgain out.tr.origRequest
  else sent

def osipIctTimeoutBEvent (ict : Transaction Ict) (evt : Event) (io : Io) : Outcome Ict :=
  (Outcome.start ict).setCtx (fun ctx =>
      { ctx with timerBLength := -1, timerBStart := ctx.timerBStart.notStarted })
    |>.messageCallback .ictStatusTimeout evt.sip
    |>.terminate io .ictTerminated .ictKillTransaction

def ictRcv1xx (ict : Transaction Ict) (evt : Event) (_io : Io) : Outcome Ict :=
  (Outcome.start ict).replaceLastResponse evt.sip
    |>.messageCallback .ictStatus1xxReceived evt.sip
    |>.setState .ictProceeding

def ictRcv2xx (ict : Transaction Ict) (evt : Event) (io : Io) : Outcome Ict :=
  (Outcome.start ict).replaceLastResponse evt.sip
    |>.messageCallback .ictStatus2xxReceived evt.sip
    |>.terminate io .ictTerminated .ictKillTransaction

/-- The ACK for a final response other than 2xx. The credentials of the request
are left out when the response asks for new ones. -/
def ictCreateAck (io : Io) (ict : Transaction Ict) (response : Option Message) :
    Option Message := do
  guard io.mallocOk
  let response ← response
  let orig ← ict.origRequest
  let fromHeader ← osipFromClone response.fromHeader
  let toHeader ← osipFromClone response.toHeader
  let callId ← osipCallIdClone response.callId
  let cseq ← osipCseqClone response.cseq
  let sipVersion ← orig.sipVersion
  let reqUri ← osipUriClone orig.reqUri
  let via ← osipViaClone orig.vias[0]?
  let routes ← orig.routes.mapM fun route => osipFromClone (some route)
  let challenge := response.statusCode = 401 ∨ response.statusCode = 407
  return { Message.init with
    fromHeader, toHeader, callId
    cseq := some { cseq with method := some "ACK".toList }
    sipMethod := some "ACK".toList
    sipVersion, reqUri
    vias := [via]
    routes
    authorizations := if challenge then [] else orig.authorizations
    proxyAuthorizations := if challenge then [] else orig.proxyAuthorizations }

def Ict.setAckDestination (ctx : Ict) (io : Io) (ack : Message) : Ict :=
  match ctx.destination with
  | some _ => ctx
  | none =>
      { ctx with
        destination := io.strdup (requestDestination ack).1
        port := (requestDestination ack).2 }

@[simp] theorem Ict.setAckDestination_timerAStart (ctx : Ict) (io : Io) (ack : Message) :
    (ctx.setAckDestination io ack).timerAStart = ctx.timerAStart := by
  unfold setAckDestination
  split <;> rfl

@[simp] theorem Ict.setAckDestination_timerALength (ctx : Ict) (io : Io) (ack : Message) :
    (ctx.setAckDestination io ack).timerALength = ctx.timerALength := by
  unfold setAckDestination
  split <;> rfl

@[simp] theorem Ict.setAckDestination_timerBStart (ctx : Ict) (io : Io) (ack : Message) :
    (ctx.setAckDestination io ack).timerBStart = ctx.timerBStart := by
  unfold setAckDestination
  split <;> rfl

@[simp] theorem Ict.setAckDestination_timerDLength (ctx : Ict) (io : Io) (ack : Message) :
    (ctx.setAckDestination io ack).timerDLength = ctx.timerDLength := by
  unfold setAckDestination
  split <;> rfl

/-- The callback of `ict_rcv_3456xx` for the class of the response. -/
def ictStatusReceived (sip : Option Message) : MessageCallbackType :=
  if sip.any (·.isStatus3xx) then .ictStatus3xxReceived
  else if sip.any (·.isStatus4xx) then .ictStatus4xxReceived
  else if sip.any (·.isStatus5xx) then .ictStatus5xxReceived
  else .ictStatus6xxReceived

def ictRcv3456xx (ict : Transaction Ict) (evt : Event) (io : Io) : Outcome Ict :=
  let received := (Outcome.start ict).replaceLastResponse evt.sip
  let complete (out : Outcome Ict) :=
    (out.setCtx fun ctx =>
      { ctx with timerDStart := (io.gettimeofday 0).after ctx.timerDLength })
      |>.setState .ictCompleted
  if ict.state ≠ .ictCompleted then
    match ictCreateAck io ict evt.sip with
    | none =>
        received.assign (fun tr => { tr with ack := none })
          |>.terminate io .ictTerminated .ictKillTransaction
    | some ack =>
        let routed := (received.assign fun tr => { tr with ack := some ack }).setCtx
          (·.setAckDestination io ack)
        let sent := routed.cbSendMessage io (some ack) routed.tr.ctx.destination
          routed.tr.ctx.port
        if io.sendResult ≠ 0 then ictHandleTransportError io sent io.sendResult
        else
          complete ((sent.messageCallback (ictStatusReceived evt.sip) evt.sip).messageCallback
            .ictAckSent (some ack))
  else complete received

def osipIctTimeoutDEvent (ict : Transaction Ict) (_evt : Event) (io : Io) : Outcome Ict :=
  (Outcome.start ict).setCtx (fun ctx =>
      { ctx with timerDLength := -1, timerDStart := ctx.timerDStart.notStarted })
    |>.terminate io .ictTerminated .ictKillTransaction

def ictRetransmitAck (ict : Transaction Ict) (evt : Event) (io : Io) : Outcome Ict :=
  let sent := (Outcome.start ict).messageCallback .ictStatus3456xxReceivedAgain evt.sip
    |>.messageFree evt.sip
    |>.cbSendMessage io ict.ack ict.ctx.destination ict.ctx.port
  if io.sendResult = 0 then
    (sent.messageCallback .ictAckSentAgain ict.ack).setState .ictCompleted
  else ictHandleTransportError io sent io.sendResult

def ictTransition : List (Transition Ict) :=
  [⟨.ictPreCalling, .sndReqinvite, ictSndInvite⟩,
    ⟨.ictCalling, .timeoutA, osipIctTimeoutAEvent⟩,
    ⟨.ictCalling, .timeoutB, osipIctTimeoutBEvent⟩,
    ⟨.ictCalling, .rcvStatus1xx, ictRcv1xx⟩,
    ⟨.ictCalling, .rcvStatus2xx, ictRcv2xx⟩,
    ⟨.ictCalling, .rcvStatus3456xx, ictRcv3456xx⟩,
    ⟨.ictProceeding, .rcvStatus1xx, ictRcv1xx⟩,
    ⟨.ictProceeding, .rcvStatus2xx, ictRcv2xx⟩,
    ⟨.ictProceeding, .rcvStatus3456xx, ictRcv3456xx⟩,
    ⟨.ictCompleted, .rcvStatus3456xx, ictRetransmitAck⟩,
    ⟨.ictCompleted, .timeoutD, osipIctTimeoutDEvent⟩]

instance : StateMachine Ict where
  transitions := ictTransition
  preState := .ictPreCalling
  contextInit := osipIctInit

/-- Every execution runs one of the handlers, in one of the states of the table,
or discards the event. -/
theorem ict_execute_cases {P : (Io → Outcome Ict) → Prop} {ict : Transaction Ict} {evt : Event}
    (sndInvite : ict.state = .ictPreCalling → evt.type = .sndReqinvite →
      P (ictSndInvite ict evt))
    (timeoutA : ict.state = .ictCalling → evt.type = .timeoutA →
      P (osipIctTimeoutAEvent ict evt))
    (timeoutB : ict.state = .ictCalling → evt.type = .timeoutB →
      P (osipIctTimeoutBEvent ict evt))
    (rcv1xx : ict.state = .ictCalling ∨ ict.state = .ictProceeding →
      evt.type = .rcvStatus1xx → P (ictRcv1xx ict evt))
    (rcv2xx : ict.state = .ictCalling ∨ ict.state = .ictProceeding →
      evt.type = .rcvStatus2xx → P (ictRcv2xx ict evt))
    (rcv3456xx : ict.state = .ictCalling ∨ ict.state = .ictProceeding →
      evt.type = .rcvStatus3456xx → P (ictRcv3456xx ict evt))
    (retransmitAck : ict.state = .ictCompleted → evt.type = .rcvStatus3456xx →
      P (ictRetransmitAck ict evt))
    (timeoutD : ict.state = .ictCompleted → evt.type = .timeoutD →
      P (osipIctTimeoutDEvent ict evt))
    (useless : Useless ict evt → P fun _ => Outcome.start ict)
    (freed : Useless ict evt → P fun _ => (Outcome.start ict).messageFree evt.sip) :
    P (osipTransactionExecute ict evt) := by
  refine execute_of_transitions ?_ useless freed
  simp only [StateMachine.transitions, ictTransition, List.forall_mem_cons]
  exact ⟨sndInvite, timeoutA, timeoutB, fun h => rcv1xx (.inl h), fun h => rcv2xx (.inl h),
    fun h => rcv3456xx (.inl h), fun h => rcv1xx (.inr h), fun h => rcv2xx (.inr h),
    fun h => rcv3456xx (.inr h), retransmitAck, timeoutD, List.forall_mem_nil _⟩

end Exosip
