import Exosip.Transaction.Timers

/-! A transaction with its fifo. Timer passes and the application queue events, and the
execute passes take them off one at a time, in any interleaving. -/
namespace Exosip

variable {κ : Type}

def Transaction.identity (tr : Transaction κ) :
    Int × List Event × Via × From × To × CallId × Cseq :=
  (tr.transactionid, tr.transactionff, tr.topvia, tr.fromHeader, tr.toHeader, tr.callid, tr.cseq)

theorem Transaction.identity_transactionff {tr tr' : Transaction κ}
    (h : tr'.identity = tr.identity) : tr'.transactionff = tr.transactionff :=
  congrArg (·.2.1) h

section Identity

theorem ict_execute_identity (ict : Transaction Ict) (evt : Event) (io : Io) :
    (osipTransactionExecute ict evt io).tr.identity = ict.identity := by
  apply ict_execute_cases (P := fun handler => (handler io).tr.identity = ict.identity)
  case sndInvite =>
    intro _ _
    unfold ictSndInvite
    split_ifs
    · rfl
    · apply ictRequestSent_cases (P := fun out => out.tr.identity = ict.identity)
      · exact fun _ => rfl
      · rfl
      · simp [Transaction.identity]
    · simp [Transaction.identity]
  case timeoutA =>
    intro _ _
    unfold osipIctTimeoutAEvent
    split_ifs
    · rfl
    · apply ictRequestSent_cases (P := fun out => out.tr.identity = ict.identity)
      · exact fun _ => rfl
      · rfl
      · simp [Transaction.identity]
    · rfl
  case timeoutB => intro _ _; simp [osipIctTimeoutBEvent, Transaction.identity]
  case rcv1xx => intro _ _; simp [ictRcv1xx, Transaction.identity]
  case rcv2xx => intro _ _; simp [ictRcv2xx, Transaction.identity]
  case rcv3456xx =>
    intro _ _
    unfold ictRcv3456xx
    cases ictCreateAck io ict evt.sip <;> split_ifs <;> simp [Transaction.identity]
  case timeoutD => intro _ _; simp [osipIctTimeoutDEvent, Transaction.identity]
  case retransmitAck =>
    intro _ _
    unfold ictRetransmitAck
    split_ifs <;> simp [Transaction.identity]
  case useless => exact fun _ => rfl
  case freed => exact fun _ => rfl

theorem nict_execute_identity (nict : Transaction Nict) (evt : Event) (io : Io) :
    (osipTransactionExecute nict evt io).tr.identity = nict.identity := by
  apply nict_execute_cases (P := fun handler => (handler io).tr.identity = nict.identity)
  case sndRequest =>
    intro _ _
    unfold nictSndRequest
    split_ifs
    · rfl
    · apply nictWithProtocol_cases (P := fun out => out.tr.identity = nict.identity)
      · simp [Transaction.identity]
      · intro proto
        simp [Transaction.identity]
  case timeoutE =>
    intro _ _
    unfold osipNictTimeoutEEvent
    split_ifs
    · rfl
    · apply nictWithProtocol_cases (P := fun out => out.tr.identity = nict.identity)
      · simp [Transaction.identity]
      · intro proto
        split_ifs <;> simp [Transaction.identity]
    · rfl
  case timeoutF => intro _ _; simp [osipNictTimeoutFEvent, Transaction.identity]
  case rcv1xx => intro _ _; simp [nictRcv1xx, Transaction.identity]
  case rcv23456xx =>
    intro _ _
    unfold nictRcv23456xx
    simp [Transaction.identity]
  case timeoutK => intro _ _; simp [osipNictTimeoutKEvent, Transaction.identity]
  case useless => exact fun _ => rfl
  case freed => exact fun _ => rfl

theorem sndXxxOrError_identity {handleTransportError : Io → Outcome κ → Int → Outcome κ} {io : Io}
    {tr : Transaction κ} {ist : Outcome κ} {msg : Option Message} {k : Outcome κ → Outcome κ}
    (hstart : ist.tr.identity = tr.identity)
    (herror : ∀ (out : Outcome κ) (err : Int),
      (handleTransportError io out err).tr.identity = out.tr.identity)
    (hk : ∀ out : Outcome κ, out.tr = ist.tr → (k out).tr.identity = tr.identity) :
    (sndXxxOrError handleTransportError io ist msg k).tr.identity = tr.identity := by
  apply sndXxxOrError_cases (P := fun out => out.tr.identity = tr.identity)
  · rw [herror, hstart]
  · intro host port _
    rw [herror, Outcome.cbSendMessage_tr, hstart]
  · exact fun host port _ => hk _ rfl

theorem handleTransportError_identity (type : TransportErrorCallbackType) (terminated : State)
    (kill : KillCallbackType) (io : Io) (out : Outcome κ) (err : Int) :
    (Outcome.handleTransportError type terminated kill io out err).tr.identity =
      out.tr.identity := by
  simp [Transaction.identity]

theorem ist_execute_identity (ist : Transaction Ist) (evt : Event) (io : Io) :
    (osipTransactionExecute ist evt io).tr.identity = ist.identity := by
  have herror := handleTransportError_identity (κ := Ist) .istTransportError .istTerminated
    .istKillTransaction io
  apply ist_execute_cases (P := fun handler => (handler io).tr.identity = ist.identity)
  case rcvInvite =>
    intro _ _
    unfold istRcvInvite
    split_ifs
    · simp [Transaction.identity]
    · refine sndXxxOrError_identity (by simp) herror fun out hout => ?_
      simpa using congrArg Transaction.identity hout
    · simp
  case timeoutG =>
    intro _ _
    unfold osipIstTimeoutGEvent
    refine sndXxxOrError_identity ?_ herror fun out hout => ?_
    · simp [Transaction.identity]
    · simp [hout, Transaction.identity]
  case timeoutH => intro _ _; simp [osipIstTimeoutHEvent, Transaction.identity]
  case snd1xx =>
    intro _ _
    unfold istSnd1xx
    refine sndXxxOrError_identity ?_ herror fun out hout => ?_
    · simp [Transaction.identity]
    · simp [hout, Transaction.identity]
  case snd2xx =>
    intro _ _
    unfold istSnd2xx
    refine sndXxxOrError_identity ?_ herror fun out hout => ?_
    · simp [Transaction.identity]
    · simp [hout, Transaction.identity]
  case snd3456xx =>
    intro _ _
    unfold istSnd3456xx
    refine sndXxxOrError_identity ?_ herror fun out hout => ?_
    · simp [Transaction.identity]
    · simp [hout, Transaction.identity]
  case rcvAck => intro _ _; simp [istRcvAck, Transaction.identity]
  case timeoutI => intro _ _; simp [osipIstTimeoutIEvent, Transaction.identity]
  case useless => exact fun _ => rfl
  case freed => exact fun _ => rfl

theorem nist_execute_identity (nist : Transaction Nist) (evt : Event) (io : Io) :
    (osipTransactionExecute nist evt io).tr.identity = nist.identity := by
  have herror := handleTransportError_identity (κ := Nist) .nistTransportError .nistTerminated
    .nistKillTransaction io
  apply nist_execute_cases (P := fun handler => (handler io).tr.identity = nist.identity)
  case rcvRequest =>
    intro _ _
    unfold nistRcvRequest
    split_ifs
    · simp [Transaction.identity]
    · refine sndXxxOrError_identity (by simp) herror fun out hout => ?_
      simpa using congrArg Transaction.identity hout
    · simp
  case snd1xx =>
    intro _ _
    unfold nistSnd1xx
    refine sndXxxOrError_identity ?_ herror fun out hout => ?_
    · simp [Transaction.identity]
    · simp [hout, Transaction.identity]
  case snd23456xx =>
    intro _ _
    unfold nistSnd23456xx
    refine sndXxxOrError_identity ?_ herror fun out hout => ?_
    · simp [Transaction.identity]
    · simp [hout, Transaction.identity]
  case timeoutJ => intro _ _; simp [osipNistTimeoutJEvent, Transaction.identity]
  case useless => exact fun _ => rfl
  case freed => exact fun _ => rfl

end Identity

abbrev Clock := Nat → Instant

/-- A kind of transaction with the body of its `osip_timers_xixt_execute`: the event the
pass queues for one transaction. -/
class TimedMachine (κ : Type) extends StateMachine κ where
  timerEvent : Clock → Transaction κ → Option Event
  execute_identity : ∀ (tr : Transaction κ) (evt : Event) (io : Io),
    (osipTransactionExecute tr evt io).tr.identity = tr.identity

/-- Only the INVITE client pass leaves a transaction alone that has an event waiting. -/
instance : TimedMachine Ict where
  timerEvent clock tr :=
    if 1 ≤ tr.transactionff.length then none
    else
      osipIctNeedTimerBEvent (clock 0) tr.ctx tr.state tr.transactionid <|>
        osipIctNeedTimerAEvent (clock 1) tr.ctx tr.state tr.transactionid <|>
        osipIctNeedTimerDEvent (clock 2) tr.ctx tr.state tr.transactionid
  execute_identity := ict_execute_identity

instance : TimedMachine Ist where
  timerEvent clock tr :=
    osipIstNeedTimerIEvent (clock 0) tr.ctx tr.state tr.transactionid <|>
      osipIstNeedTimerHEvent (clock 1) tr.ctx tr.state tr.transactionid <|>
      osipIstNeedTimerGEvent (clock 2) tr.ctx tr.state tr.transactionid
  execute_identity := ist_execute_identity

instance : TimedMachine Nict where
  timerEvent clock tr :=
    osipNictNeedTimerKEvent (clock 0) tr.ctx tr.state tr.transactionid <|>
      osipNictNeedTimerFEvent (clock 1) tr.ctx tr.state tr.transactionid <|>
      osipNictNeedTimerEEvent (clock 2) tr.ctx tr.state tr.transactionid
  execute_identity := nict_execute_identity

instance : TimedMachine Nist where
  timerEvent clock tr :=
    osipNistNeedTimerJEvent (clock 0) tr.ctx tr.state tr.transactionid
  execute_identity := nist_execute_identity

/-- `osip_fifo_add`. -/
def Transaction.fifoAdd (tr : Transaction κ) (evt : Event) : Transaction κ :=
  { tr with transactionff := tr.transactionff ++ [evt] }

def osipTransactionAddEvent (tr : Transaction κ) (evt : Event) : Transaction κ :=
  tr.fifoAdd { evt with transactionid := tr.transactionid }

def EventType.isTimeout : EventType → Bool
  | timeoutA | timeoutB | timeoutD | timeoutE | timeoutF | timeoutK
  | timeoutG | timeoutH | timeoutI | timeoutJ => true
  | _ => false

/-- What happens to one transaction of the stack: a timer pass, one turn of the loop in
`osip_xixt_execute`, or a new event. Only the timer passes make timeout events. -/
inductive Action where
  | timersExecute (clock : Clock)
  | execute (io : Io)
  | addEvent (evt : { evt : Event // evt.type.isTimeout = false })

section Fifo

variable [TimedMachine κ]

def timersExecute (clock : Clock) (tr : Transaction κ) : Transaction κ :=
  match TimedMachine.timerEvent clock tr with
  | none => tr
  | some evt => tr.fifoAdd evt

/-- `osip_fifo_tryget` and, when there is an event, its execution. -/
def executeNext (io : Io) (tr : Transaction κ) : Transaction κ × List Effect :=
  match tr.transactionff with
  | [] => (tr, [])
  | se :: rest =>
      let out := osipTransactionExecute { tr with transactionff := rest } se io
      (out.tr, out.trace)

def fifoStep : Machine.Step (Transaction κ) Action Effect
  | tr, .timersExecute clock => (timersExecute clock tr, [])
  | tr, .execute io => executeNext io tr
  | tr, .addEvent evt => (osipTransactionAddEvent tr evt.1, [])

theorem fifoStep_cases {P : Transaction κ × List Effect → Prop} {tr : Transaction κ}
    {action : Action}
    (timer : ∀ clock evt, action = .timersExecute clock →
      TimedMachine.timerEvent clock tr = some evt → P (tr.fifoAdd evt, []))
    (execute : ∀ io se rest, action = .execute io → tr.transactionff = se :: rest →
      P ((osipTransactionExecute { tr with transactionff := rest } se io).tr,
        (osipTransactionExecute { tr with transactionff := rest } se io).trace))
    (add : ∀ evt : { evt : Event // evt.type.isTimeout = false }, action = .addEvent evt →
      P (osipTransactionAddEvent tr evt.1, []))
    (idle : P (tr, [])) : P (fifoStep tr action) := by
  cases action with
  | timersExecute clock =>
      simp only [fifoStep, timersExecute]
      split
      · exact idle
      · next evt hevt => exact timer clock evt rfl hevt
  | execute io =>
      simp only [fifoStep, executeNext]
      split
      · exact idle
      · next se rest hfifo => exact execute io se rest rfl hfifo
  | addEvent evt => exact add evt rfl

/-- An invariant of the execution of any event that does not look at the fifo is one of
every interleaving. -/
theorem fifo_run_invariant {I : Transaction κ → Prop}
    (hfifo : ∀ tr fifo, I tr → I { tr with transactionff := fifo })
    (hexecute : ∀ tr evt io, I tr → I (osipTransactionExecute tr evt io).tr)
    {tr : Transaction κ} (actions : List Action) (h : I tr) :
    I (Machine.run fifoStep tr actions).1 := by
  refine Machine.run_invariant fifoStep (fun tr action h => ?_) actions h
  apply fifoStep_cases (P := fun next => I next.1)
  case timer => exact fun _ _ _ _ => hfifo tr _ h
  case execute => exact fun io se rest _ _ => hexecute _ se io (hfifo tr rest h)
  case add => exact fun _ _ => hfifo tr _ h
  case idle => exact h

end Fifo

/-- A transaction that some interleaving of timer passes, executions and new events
leads to from its creation. -/
structure FifoReached [TimedMachine κ] (tr : Transaction κ) : Prop where
  reached : ∃ io transactionid outSocket request tr₀ actions,
    osipTransactionInit κ io transactionid outSocket request = .ok tr₀ ∧
      (Machine.run fifoStep tr₀ actions).1 = tr

end Exosip
