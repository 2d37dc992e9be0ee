import Exosip.Transaction.Ist

/-! The non-INVITE server transaction. -/
namespace Exosip

structure Nist where
  timerJLength : Int
  timerJStart : Timeval
  deriving DecidableEq, Repr

def Nist.initial (proto : Str) : Nist where
  timerJLength := if isReliableProtocol proto then 0 else 64 * defaultT1
  timerJStart := Timeval.zero.notStarted

def osipNistInit (io : Io) (invite : Message) : Except Int Nist :=
  (initProtocol io osipUndefinedError invite).map Nist.initial

abbrev nistHandleTransportError : Io → Outcome Nist → Int → Outcome Nist :=
  Outcome.handleTransportError .nistTransportError .nistTerminated .nistKillTransaction

abbrev nistSnd : Io → Outcome Nist → Option Message → (Outcome Nist → Outcome Nist) → Outcome Nist :=
  sndXxxOrError nistHandleTransportError

/-- The callback for a new request, by its method. -/
def nistRequestReceived (sip : Option Message) : MessageCallbackType :=
  if sip.any (·.isRegister) then .nistRegisterReceived
  else if sip.any (·.isBye) then .nistByeReceived
  else if sip.any (·.isOptions) then .nistOptionsReceived
  else if sip.any (·.isInfo) then .nistInfoReceived
  else if sip.any (·.isCancel) then .nistCancelReceived
  else if sip.any (·.isNotify) then .nistNotifyReceived
  else if sip.any (·.isSubscribe) then .nistSubscribeReceived
  else .nistUnknownRequestReceived

def nistStatusSentAgain (sip : Option Message) : MessageCallbackType :=
  if sip.any (·.isStatus1xx) then .nistStatus1xxSent
  else if sip.any (·.isStatus2xx) then .nistStatus2xxSentAgain
  else .nistStatus3456xxSentAgain

def nistRcvRequest (nist : Transaction Nist) (evt : Event) (io : Io) : Outcome Nist :=
  if nist.state = .nistPreTrying then
    (Outcome.start { nist with origRequest := evt.sip })
      |>.messageCallback (nistRequestReceived evt.sip) evt.sip
      |>.setState .nistTrying
  else
    let again := ((Outcome.start nist).messageFree evt.sip).messageCallback
      .nistRequestReceivedAgain nist.origRequest
    if nist.lastResponse.isSome then
      nistSnd io again nist.lastResponse fun sent =>
        sent.messageCallback (nistStatusSentAgain nist.lastResponse) nist.lastResponse
    else again

def nistSnd1xx (nist : Transaction Nist) (evt : Event) (io : Io) : Outcome Nist :=
  nistSnd io ((Outcome.start nist).replaceLastResponse evt.sip) evt.sip fun sent =>
    (sent.messageCallback .nistStatus1xxSent evt.sip).setState .nistProceeding

def nistStatusSent (evt : Event) : MessageCallbackType :=
  if evt.type = .sndStatus2xx then .nistStatus2xxSent
  else if evt.sip.any (·.isStatus3xx) then .nistStatus3xxSent
  else if evt.sip.any (·.isStatus4xx) then .nistStatus4xxSent
  else if evt.sip.any (·.isStatus5xx) then .nistStatus5xxSent
  else .nistStatus6xxSent

def Nist.startTimerJ (ctx : Nist) (io : Io) : Nist :=
  { ctx with timerJStart := (io.gettimeofday 0).after ctx.timerJLength }

def nistSnd23456xx (nist : Transaction Nist) (evt : Event) (io : Io) : Outcome Nist :=
  nistSnd io ((Outcome.start nist).replaceLastResponse evt.sip) evt.sip fun sent =>
    sent.messageCallback (nistStatusSent evt) evt.sip
      |>.setCtx (fun ctx => if nist.state ≠ .nistCompleted then ctx.startTimerJ io else ctx)
      |>.setState .nistCompleted

def osipNistTimeoutJEvent (nist : Transaction Nist) (_evt : Event) (io : Io) : Outcome Nist :=
  (Outcome.start nist).setCtx (fun ctx =>
      { ctx with timerJLength := -1, timerJStart := ctx.timerJStart.notStarted })
    |>.terminate io .nistTerminated .nistKillTransaction

def nistTransition : List (Transition Nist) :=
  [⟨.nistPreTrying, .rcvRequest, nistRcvRequest⟩,
    ⟨.nistTrying, .sndStatus1xx, nistSnd1xx⟩,
    ⟨.nistTrying, .sndStatus2xx, nistSnd23456xx⟩,
    ⟨.nistTrying, .sndStatus3456xx, nistSnd23456xx⟩,
    ⟨.nistProceeding, .sndStatus1xx, nistSnd1xx⟩,
    ⟨.nistProceeding, .sndStatus2xx, nistSnd23456xx⟩,
    ⟨.nistProceeding, .sndStatus3456xx, nistSnd23456xx⟩,
    ⟨.nistProceeding, .rcvRequest, nistRcvRequest⟩,
    ⟨.nistCompleted, .timeoutJ, osipNistTimeoutJEvent⟩,
    ⟨.nistCompleted, .rcvRequest, nistRcvRequest⟩]

instance : StateMachine Nist where
  transitions := nistTransition
  preState := .nistPreTrying
  contextInit := osipNistInit

theorem nist_execute_cases {P : (Io → Outcome Nist) → Prop} {nist : Transaction Nist}
    {evt : Event}
    (rcvRequest : nist.state = .nistPreTrying ∨ nist.state = .nistProceeding ∨
      nist.state = .nistCompleted → evt.type = .rcvRequest → P (nistRcvRequest nist evt))
    (snd1xx : nist.state = .nistTrying ∨ nist.state = .nistProceeding →
      evt.type = .sndStatus1xx → P (nistSnd1xx nist evt))
    (snd23456xx : nist.state = .nistTrying ∨ nist.state = .nistProceeding →
      evt.type = .sndStatus2xx ∨ evt.type = .sndStatus3456xx → P (nistSnd23456xx nist evt))
    (timeoutJ : nist.state = .nistCompleted → evt.type = .timeoutJ →
      P (osipNistTimeoutJEvent nist evt))
    (useless : Useless nist evt → P fun _ => Outcome.start nist)
    (freed : Useless nist evt → P fun _ => (Outcome.start nist).messageFree evt.sip) :
    P (osipTransactionExecute nist evt) := by
  refine execute_of_transitions ?_ useless freed
  simp only [StateMachine.transitions, nistTransition, List.forall_mem_cons]
  exact ⟨fun h => rcvRequest (.inl h), fun h => snd1xx (.inl h),
    fun h ht => snd23456xx (.inl h) (.inl ht), fun h ht => snd23456xx (.inl h) (.inr ht),
    fun h => snd1xx (.inr h), fun h ht => snd23456xx (.inr h) (.inl ht),
    fun h ht => snd23456xx (.inr h) (.inr ht), fun h => rcvRequest (.inr (.inl h)), timeoutJ,
    fun h => rcvRequest (.inr (.inr h)), List.forall_mem_nil _⟩

end Exosip
