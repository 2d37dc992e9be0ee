import Exosip.Transaction.Timers

/-! A positive result of `cb_send_message` says that the transmission is pending. The
client requests are sent with a test for a negative result; the ACK of an INVITE
client and every response of a server are sent with a test for a result other than 0. -/
namespace Exosip

def State.isTerminated : State → Bool
  | ictTerminated | istTerminated | nictTerminated | nistTerminated => true
  | _ => false

@[simp] def Effect.isTransportError : Effect → Bool
  | transportErrorCallback .. => true
  | sendMessage .. | messageCallback .. | killTransactionCallback _ | messageFree _ => false

def Io.withResult (io : Io) (sendResult : Int) : Io := { io with sendResult }

variable {κ : Type}

def Outcome.failed (out : Outcome κ) : Bool := out.trace.any Effect.isTransportError

@[simp] theorem any_isTransportError_freed (sip : Option Message) :
    (Effect.freed sip).any Effect.isTransportError = false := by
  cases sip <;> rfl

/-- A pending transmission makes a handler fail or terminate the transaction only where
it does so after a complete one. -/
def PendingAccepted (handler : Io → Outcome κ) (io : Io) : Prop :=
  0 < io.sendResult →
    ((handler io).failed → (handler (io.withResult 0)).failed) ∧
    ((handler io).tr.state.isTerminated → (handler (io.withResult 0)).tr.state.isTerminated)

theorem PendingAccepted.of_const {handler : Io → Outcome κ} {io : Io}
    (h : handler (io.withResult 0) = handler io) : PendingAccepted handler io := by
  intro _
  rw [h]
  exact ⟨id, id⟩

theorem PendingAccepted.of_alive {handler : Io → Outcome κ} {io : Io}
    (hfailed : 0 < io.sendResult → (handler io).failed = false)
    (hstate : 0 < io.sendResult → (handler io).tr.state.isTerminated = false) :
    PendingAccepted handler io := by
  intro hpending
  rw [hfailed hpending, hstate hpending]
  exact ⟨nofun, nofun⟩

/-- The response can be sent at all: there is a Via to send it to. -/
def hasTopVia (sip : Option Message) : Bool := (sip.bind (·.vias[0]?)).isSome

section Server

variable {type : TransportErrorCallbackType} {terminated : State} {kill : KillCallbackType}

/-- The servers' sending accepts a pending transmission exactly where it sends nothing. -/
theorem sndXxxOrError_pendingAccepted {io : Io} {out : Io → Outcome κ} {msg : Option Message}
    {k : Io → Outcome κ → Outcome κ} (hterminated : terminated.isTerminated = true)
    (hk : ∀ host port, (k (io.withResult 0) ((out (io.withResult 0)).cbSendMessage
      (io.withResult 0) msg host port)).failed = false) :
    PendingAccepted (fun io =>
        sndXxxOrError (Outcome.handleTransportError type terminated kill) io (out io) msg (k io))
        io ↔
      (0 < io.sendResult → ¬ hasTopVia msg = true) := by
  unfold hasTopVia sndXxxOrError osipTransactionSndXxx
  cases hvia : msg.bind (·.vias[0]?) with
  | none => simp [PendingAccepted, Outcome.failed, hterminated]
  | some via =>
      simp only [Option.isSome_some, not_true_eq_false, imp_false]
      constructor
      · intro haccepted hpending
        have hne : io.sendResult ≠ 0 := by omega
        have hsent := (haccepted hpending).1 (by simp [hne, Outcome.failed])
        have hfine := hk (sndXxxDestination via).1 (sndXxxDestination via).2
        have hzero : (io.withResult 0).sendResult = 0 := rfl
        simp only [hzero, ne_eq, not_true_eq_false, if_false] at hsent
        rw [hsent] at hfine
        cases hfine
      · intro hnot hpending
        exact absurd hpending hnot

end Server

/-- The steps of an INVITE client that send an ACK. -/
def IctSendsAck (ict : Transaction Ict) (evt : Event) (io : Io) : Prop :=
  evt.type = .rcvStatus3456xx ∧
    ((ict.state = .ictCalling ∨ ict.state = .ictProceeding) ∧
        (ictCreateAck io ict evt.sip).isSome ∨
      ict.state = .ictCompleted)

/-- The steps of an INVITE server that send a response. -/
def IstSendsResponse (ist : Transaction Ist) (evt : Event) : Prop :=
  evt.type = .rcvReqinvite ∧ (ist.state = .istProceeding ∨ ist.state = .istCompleted) ∧
      hasTopVia ist.lastResponse ∨
    evt.type = .timeoutG ∧ ist.state = .istCompleted ∧ hasTopVia ist.lastResponse ∨
    (evt.type = .sndStatus1xx ∨ evt.type = .sndStatus2xx ∨ evt.type = .sndStatus3456xx) ∧
      ist.state = .istProceeding ∧ hasTopVia evt.sip

/-- The steps of a non-INVITE server that send a response. -/
def NistSendsResponse (nist : Transaction Nist) (evt : Event) : Prop :=
  evt.type = .rcvRequest ∧ (nist.state = .nistProceeding ∨ nist.state = .nistCompleted) ∧
      hasTopVia nist.lastResponse ∨
    (evt.type = .sndStatus1xx ∨ evt.type = .sndStatus2xx ∨ evt.type = .sndStatus3456xx) ∧
      (nist.state = .nistTrying ∨ nist.state = .nistProceeding) ∧ hasTopVia evt.sip

theorem Useless.not_ictSendsAck {ict : Transaction Ict} {evt : Event} (h : Useless ict evt)
    (io : Io) : ¬ IctSendsAck ict evt io := by
  rintro ⟨htype, hstate⟩
  rcases h with h | h
  · simp [htype] at h
  · simp only [StateMachine.transitions, ictTransition, List.forall_mem_cons] at h
    rcases hstate with ⟨hstate | hstate, -⟩ | hstate <;> simp_all

theorem Useless.not_istSendsResponse {ist : Transaction Ist} {evt : Event}
    (h : Useless ist evt) : ¬ IstSendsResponse ist evt := by
  intro hsends
  rcases h with h | h
  · simp [IstSendsResponse, h] at hsends
  · simp only [StateMachine.transitions, istTransition, List.forall_mem_cons] at h
    rcases hsends with ⟨htype, hstate | hstate, -⟩ | ⟨htype, hstate, -⟩ |
      ⟨htype | htype | htype, hstate, -⟩ <;> simp_all

theorem Useless.not_nistSendsResponse {nist : Transaction Nist} {evt : Event}
    (h : Useless nist evt) : ¬ NistSendsResponse nist evt := by
  intro hsends
  rcases h with h | h
  · simp [NistSendsResponse, h] at hsends
  · simp only [StateMachine.transitions, nistTransition, List.forall_mem_cons] at h
    rcases hsends with ⟨htype, hstate | hstate, -⟩ |
      ⟨htype | htype | htype, hstate | hstate, -⟩ <;> simp_all

theorem ist_pendingAccepted_iff (ist : Transaction Ist) (evt : Event) (io : Io) :
    PendingAccepted (osipTransactionExecute ist evt) io ↔
      (0 < io.sendResult → ¬ IstSendsResponse ist evt) := by
  apply ist_execute_cases (P := fun handler => PendingAccepted handler io ↔
    (0 < io.sendResult → ¬ IstSendsResponse ist evt))
  case rcvInvite =>
    intro hstate htype
    unfold istRcvInvite
    by_cases hpre : ist.state = .istPreProceeding
    · have hsends : ¬ IstSendsResponse ist evt := by simp [IstSendsResponse, hpre, htype]
      simp only [hpre, if_true, hsends, not_false_eq_true, implies_true, iff_true]
      exact .of_const rfl
    · have hsends : IstSendsResponse ist evt ↔ hasTopVia ist.lastResponse = true := by
        simp [IstSendsResponse, hstate.resolve_left hpre, htype]
      simp only [hpre, if_false, hsends]
      cases hlast : ist.lastResponse with
      | none =>
          simp only [Option.isSome_none, Bool.false_eq_true, if_false, hasTopVia,
            Option.bind_none, not_false_eq_true, implies_true, iff_true]
          exact .of_const rfl
      | some response =>
          simp only [Option.isSome_some, if_true]
          exact sndXxxOrError_pendingAccepted rfl (by simp [Outcome.failed])
  case timeoutG =>
    intro hstate htype
    have hsends : IstSendsResponse ist evt ↔ hasTopVia ist.lastResponse = true := by
      simp [IstSendsResponse, hstate, htype]
    rw [hsends]
    unfold osipIstTimeoutGEvent
    exact sndXxxOrError_pendingAccepted rfl (by simp [Outcome.failed])
  case snd1xx =>
    intro hstate htype
    have hsends : IstSendsResponse ist evt ↔ hasTopVia evt.sip = true := by
      simp [IstSendsResponse, hstate, htype]
    rw [hsends]
    unfold istSnd1xx
    exact sndXxxOrError_pendingAccepted rfl (by simp [Outcome.failed])
  case snd2xx =>
    intro hstate htype
    have hsends : IstSendsResponse ist evt ↔ hasTopVia evt.sip = true := by
      simp [IstSendsResponse, hstate, htype]
    rw [hsends]
    unfold istSnd2xx
    exact sndXxxOrError_pendingAccepted rfl (by simp [Outcome.failed])
  case snd3456xx =>
    intro hstate htype
    have hsends : IstSendsResponse ist evt ↔ hasTopVia evt.sip = true := by
      simp [IstSendsResponse, hstate, htype]
    rw [hsends]
    unfold istSnd3456xx
    exact sndXxxOrError_pendingAccepted rfl (by simp [Outcome.failed])
  case timeoutH =>
    intro hstate htype
    have hsends : ¬ IstSendsResponse ist evt := by simp [IstSendsResponse, htype]
    simp only [hsends, not_false_eq_true, implies_true, iff_true]
    exact .of_const rfl
  case rcvAck =>
    intro hstate htype
    have hsends : ¬ IstSendsResponse ist evt := by simp [IstSendsResponse, htype]
    simp only [hsends, not_false_eq_true, implies_true, iff_true]
    exact .of_const rfl
  case timeoutI =>
    intro hstate htype
    have hsends : ¬ IstSendsResponse ist evt := by simp [IstSendsResponse, htype]
    simp only [hsends, not_false_eq_true, implies_true, iff_true]
    exact .of_const rfl
  case useless =>
    intro hdiscard
    simp only [hdiscard.not_istSendsResponse, not_false_eq_true, implies_true, iff_true]
    exact .of_const rfl
  case freed =>
    intro hdiscard
    simp only [hdiscard.not_istSendsResponse, not_false_eq_true, implies_true, iff_true]
    exact .of_const rfl

theorem nist_pendingAccepted_iff (nist : Transaction Nist) (evt : Event) (io : Io) :
    PendingAccepted (osipTransactionExecute nist evt) io ↔
      (0 < io.sendResult → ¬ NistSendsResponse nist evt) := by
  apply nist_execute_cases (P := fun handler => PendingAccepted handler io ↔
    (0 < io.sendResult → ¬ NistSendsResponse nist evt))
  case rcvRequest =>
    intro hstate htype
    unfold nistRcvRequest
    by_cases hpre : nist.state = .nistPreTrying
    · have hsends : ¬ NistSendsResponse nist evt := by simp [NistSendsResponse, hpre, htype]
      simp only [hpre, if_true, hsends, not_false_eq_true, implies_true, iff_true]
      exact .of_const rfl
    · have hsends : NistSendsResponse nist evt ↔ hasTopVia nist.lastResponse = true := by
        simp [NistSendsResponse, hstate.resolve_left hpre, htype]
      simp only [hpre, if_false, hsends]
      cases hlast : nist.lastResponse with
      | none =>
          simp only [Option.isSome_none, Bool.false_eq_true, if_false, hasTopVia,
            Option.bind_none, not_false_eq_true, implies_true, iff_true]
          exact .of_const rfl
      | some response =>
          simp only [Option.isSome_some, if_true]
          exact sndXxxOrError_pendingAccepted rfl (by simp [Outcome.failed])
  case snd1xx =>
    intro hstate htype
    have hsends : NistSendsResponse nist evt ↔ hasTopVia evt.sip = true := by
      simp [NistSendsResponse, hstate, htype]
    rw [hsends]
    unfold nistSnd1xx
    exact sndXxxOrError_pendingAccepted rfl (by simp [Outcome.failed])
  case snd23456xx =>
    intro hstate htype
    have hsends : NistSendsResponse nist evt ↔ hasTopVia evt.sip = true := by
      rcases htype with htype | htype <;> simp [NistSendsResponse, hstate, htype]
    rw [hsends]
    unfold nistSnd23456xx
    exact sndXxxOrError_pendingAccepted rfl (by simp [Outcome.failed])
  case timeoutJ =>
    intro hstate htype
    have hsends : ¬ NistSendsResponse nist evt := by simp [NistSendsResponse, htype]
    simp only [hsends, not_false_eq_true, implies_true, iff_true]
    exact .of_const rfl
  case useless =>
    intro hdiscard
    simp only [hdiscard.not_nistSendsResponse, not_false_eq_true, implies_true, iff_true]
    exact .of_const rfl
  case freed =>
    intro hdiscard
    simp only [hdiscard.not_nistSendsResponse, not_false_eq_true, implies_true, iff_true]
    exact .of_const rfl

theorem nict_pendingAccepted (nict : Transaction Nict) (evt : Event) (io : Io) :
    PendingAccepted (osipTransactionExecute nict evt) io := by
  apply nict_execute_cases (P := fun handler => PendingAccepted handler io)
  case sndRequest =>
    intro _ _ hpending
    have hneg : ¬ io.sendResult < 0 := by omega
    unfold nictSndRequest nictWithProtocol
    -- without a Via or its protocol both results end in the error path, else neither
    cases hvia : Message.getVia evt.sip 0 with
    | error i => simp [hneg, hvia, Io.withResult, Outcome.failed, State.isTerminated]
    | ok via =>
        cases hproto : via.protocol <;>
          simp [hneg, hvia, hproto, Io.withResult, Outcome.failed, State.isTerminated]
  case timeoutE =>
    intro hstate _
    apply PendingAccepted.of_alive
    · intro hpending
      have hneg : ¬ io.sendResult < 0 := by omega
      have hne : io.sendResult ≠ 0 := by omega
      simp [osipNictTimeoutEEvent, hneg, hne, Outcome.failed]
    · intro hpending
      have hneg : ¬ io.sendResult < 0 := by omega
      have hne : io.sendResult ≠ 0 := by omega
      rcases hstate with hstate | hstate <;>
        simp [osipNictTimeoutEEvent, hneg, hne, hstate, State.isTerminated]
  case useless => exact fun _ => .of_const rfl
  case freed => exact fun _ => .of_const rfl
  all_goals exact fun _ _ => .of_const rfl

/-- The callback for the class of a final response, as the class tests define it. -/
def statusReceivedCallback (sip : Message) (type : MessageCallbackType) : Prop :=
  (sip.isStatus3xx ∧ type = .ictStatus3xxReceived) ∨
    (sip.isStatus4xx ∧ type = .ictStatus4xxReceived) ∨
    (sip.isStatus5xx ∧ type = .ictStatus5xxReceived) ∨
    (sip.isStatus6xx ∧ type = .ictStatus6xxReceived)

/-- A final response whose ACK was built, and was not refused by the transport, is
announced by the callback of its class and completes the transaction. -/
def FinalResponseCompletes (ict : Transaction Ict) (evt : Event) (io : Io) : Prop :=
  ∀ sip type, evt.sip = some sip → statusReceivedCallback sip type →
    (ict.state = .ictCalling ∨ ict.state = .ictProceeding) → evt.type = .rcvStatus3456xx →
    (ictCreateAck io ict evt.sip).isSome → 0 ≤ io.sendResult →
    Effect.messageCallback type evt.sip ∈ (osipTransactionExecute ict evt io).trace ∧
      (osipTransactionExecute ict evt io).tr.state = .ictCompleted

theorem ictStatusReceived_of_class {sip : Message} {type : MessageCallbackType}
    (h : statusReceivedCallback sip type) : ictStatusReceived (some sip) = type := by
  simp only [statusReceivedCallback, Message.isStatus3xx, Message.isStatus4xx,
    Message.isStatus5xx, Message.isStatus6xx, Message.isStatusClass, Bool.and_eq_true,
    decide_eq_true_eq] at h
  simp only [ictStatusReceived, Option.any_some, Message.isStatus3xx, Message.isStatus4xx,
    Message.isStatus5xx, Message.isStatusClass, Bool.and_eq_true, decide_eq_true_eq]
  split_ifs <;> rcases h with ⟨h, rfl⟩ | ⟨h, rfl⟩ | ⟨h, rfl⟩ | ⟨h, rfl⟩ <;> first | rfl | omega

theorem ict_execute_rcv3456xx {ict : Transaction Ict} {evt : Event} (io : Io)
    (hstate : ict.state = .ictCalling ∨ ict.state = .ictProceeding)
    (htype : evt.type = .rcvStatus3456xx) :
    osipTransactionExecute ict evt io = ictRcv3456xx ict evt io := by
  rcases hstate with hstate | hstate <;>
    simp [osipTransactionExecute, fsmCallmethod, fsmFindmethod, StateMachine.transitions,
      ictTransition, hstate, htype]

theorem ictRcv3456xx_of_ack {ict : Transaction Ict} {evt : Event} (io : Io)
    {ack : Message}
    (hstate : ict.state ≠ .ictCompleted) (hack : ictCreateAck io ict evt.sip = some ack)
    (hsent : io.sendResult = 0) :
    Effect.messageCallback (ictStatusReceived evt.sip) evt.sip ∈ (ictRcv3456xx ict evt io).trace ∧
      (ictRcv3456xx ict evt io).tr.state = .ictCompleted ∧
      (ictRcv3456xx ict evt io).failed = false := by
  simp [ictRcv3456xx, hstate, hack, hsent, Outcome.failed]

theorem ictRcv3456xx_of_ack_pending {ict : Transaction Ict} {evt : Event} (io : Io)
    {ack : Message}
    (hstate : ict.state ≠ .ictCompleted) (hack : ictCreateAck io ict evt.sip = some ack)
    (hsent : io.sendResult ≠ 0) :
    (ictRcv3456xx ict evt io).failed = true ∧
      (ictRcv3456xx ict evt io).tr.state = .ictTerminated := by
  simp [ictRcv3456xx, hstate, hack, hsent, Outcome.failed]

theorem ictCreateAck_withResult (io : Io) (i : Int) (ict : Transaction Ict)
    (response : Option Message) :
    ictCreateAck (io.withResult i) ict response = ictCreateAck io ict response := rfl

theorem ict_pendingAccepted_iff (ict : Transaction Ict) (evt : Event) (io : Io) :
    PendingAccepted (osipTransactionExecute ict evt) io ↔
      (0 < io.sendResult → ¬ IctSendsAck ict evt io) := by
  apply ict_execute_cases (P := fun handler => PendingAccepted handler io ↔
    (0 < io.sendResult → ¬ IctSendsAck ict evt io))
  case sndInvite =>
    intro hstate htype
    have hsends : ¬ IctSendsAck ict evt io := by simp [IctSendsAck, htype]
    simp only [hsends, not_false_eq_true, implies_true, iff_true]
    apply PendingAccepted.of_alive
    · intro hpending
      have hneg : ¬ io.sendResult < 0 := by omega
      have hne : io.sendResult ≠ 0 := by omega
      simp [ictSndInvite, hneg, hne, Outcome.failed]
    · intro hpending
      have hneg : ¬ io.sendResult < 0 := by omega
      have hne : io.sendResult ≠ 0 := by omega
      simp [ictSndInvite, hneg, hne, State.isTerminated]
  case timeoutA =>
    intro hstate htype
    have hsends : ¬ IctSendsAck ict evt io := by simp [IctSendsAck, htype]
    simp only [hsends, not_false_eq_true, implies_true, iff_true]
    apply PendingAccepted.of_alive
    · intro hpending
      have hneg : ¬ io.sendResult < 0 := by omega
      have hne : io.sendResult ≠ 0 := by omega
      simp [osipIctTimeoutAEvent, hneg, hne, Outcome.failed]
    · intro hpending
      have hneg : ¬ io.sendResult < 0 := by omega
      have hne : io.sendResult ≠ 0 := by omega
      simp [osipIctTimeoutAEvent, hneg, hne, hstate, State.isTerminated]
  case rcv3456xx =>
    intro hstate htype
    have hlive : ict.state ≠ .ictCompleted := by
      rcases hstate with hstate | hstate <;> simp [hstate]
    cases hack : ictCreateAck io ict evt.sip with
    | none =>
        have hsends : ¬ IctSendsAck ict evt io := by simp [IctSendsAck, hack, hlive]
        simp only [hsends, not_false_eq_true, implies_true, iff_true]
        apply PendingAccepted.of_const
        simp only [ictRcv3456xx, ictCreateAck_withResult, hack, hlive, ne_eq, not_false_eq_true,
          if_true]
        rfl
    | some ack =>
        have hsends : IctSendsAck ict evt io := ⟨htype, .inl ⟨hstate, by simp [hack]⟩⟩
        simp only [hsends, not_true_eq_false, imp_false]
        constructor
        · intro haccepted hpending
          have hfailed := (ictRcv3456xx_of_ack_pending io hlive hack (by omega)).1
          have hfine := (ictRcv3456xx_of_ack (io.withResult 0) hlive hack rfl).2.2
          have hsent := (haccepted hpending).1 hfailed
          rw [hfine] at hsent
          cases hsent
        · exact fun hnot hpending => absurd hpending hnot
  case retransmitAck =>
    intro hstate htype
    have hsends : IctSendsAck ict evt io := ⟨htype, .inr hstate⟩
    simp only [hsends, not_true_eq_false, imp_false]
    constructor
    · intro haccepted hpending
      have hne : io.sendResult ≠ 0 := by omega
      have hsent := (haccepted hpending).1 (by simp [ictRetransmitAck, hne, Outcome.failed])
      simp [ictRetransmitAck, Io.withResult, Outcome.failed] at hsent
    · exact fun hnot hpending => absurd hpending hnot
  case useless =>
    intro hdiscard
    simp only [hdiscard.not_ictSendsAck, not_false_eq_true, implies_true, iff_true]
    exact .of_const rfl
  case freed =>
    intro hdiscard
    simp only [hdiscard.not_ictSendsAck, not_false_eq_true, implies_true, iff_true]
    exact .of_const rfl
  all_goals
    intro hstate htype
    have hsends : ¬ IctSendsAck ict evt io := by simp [IctSendsAck, htype]
    simp only [hsends, not_false_eq_true, implies_true, iff_true]
    exact .of_const rfl

theorem finalResponseCompletes_of_accepted {ict : Transaction Ict} {evt : Event} {io : Io}
    (h : 0 < io.sendResult → ¬ IctSendsAck ict evt io) : FinalResponseCompletes ict evt io := by
  intro sip type hsip hclass hstate htype hack hresult
  have hzero : io.sendResult = 0 := by
    by_contra hne
    exact h (by omega) ⟨htype, .inl ⟨hstate, hack⟩⟩
  have hlive : ict.state ≠ .ictCompleted := by
    rcases hstate with hstate | hstate <;> simp [hstate]
  obtain ⟨ack, hack⟩ := Option.isSome_iff_exists.1 hack
  have hcompletes := ictRcv3456xx_of_ack io hlive hack hzero
  rw [ict_execute_rcv3456xx io hstate htype, ← ictStatusReceived_of_class hclass, ← hsip]
  exact ⟨hcompletes.1, hcompletes.2.1⟩

/-- What is asked of every step: a pending transmission is not a failure. -/
def StepAccepts [StateMachine κ] (tr : Transaction κ) (input : Io × Event) : Prop :=
  PendingAccepted (osipTransactionExecute tr input.2) input.1

/-- For an INVITE client also that a final response completes the transaction. -/
def IctStepAccepts (ict : Transaction Ict) (input : Io × Event) : Prop :=
  StepAccepts ict input ∧ FinalResponseCompletes ict input.2 input.1

theorem ictStepAccepts_iff (ict : Transaction Ict) (input : Io × Event) :
    IctStepAccepts ict input ↔ (0 < input.1.sendResult → ¬ IctSendsAck ict input.2 input.1) := by
  constructor
  · intro h
    exact (ict_pendingAccepted_iff ict input.2 input.1).1 h.1
  · intro h
    exact ⟨(ict_pendingAccepted_iff ict input.2 input.1).2 h,
      finalResponseCompletes_of_accepted h⟩

/-- A run of any of the four machines takes every pending transmission for what it is
exactly when none of its steps sends an ACK, or a response, and is told that the
transmission is pending. The requests of the clients are never at fault. -/
theorem pending_transmission_accepted_iff (ict : Transaction Ict) (nict : Transaction Nict)
    (ist : Transaction Ist) (nist : Transaction Nist) (inputs : List (Io × Event)) :
    (Machine.Guarded executeStep IctStepAccepts ict inputs ↔
      Machine.Guarded executeStep (fun tr input =>
        0 < input.1.sendResult → ¬ IctSendsAck tr input.2 input.1) ict inputs) ∧
    Machine.Guarded executeStep StepAccepts nict inputs ∧
    (Machine.Guarded executeStep StepAccepts ist inputs ↔
      Machine.Guarded executeStep (fun tr input =>
        0 < input.1.sendResult → ¬ IstSendsResponse tr input.2) ist inputs) ∧
    (Machine.Guarded executeStep StepAccepts nist inputs ↔
      Machine.Guarded executeStep (fun tr input =>
        0 < input.1.sendResult → ¬ NistSendsResponse tr input.2) nist inputs) := by
  refine ⟨?ict, ?nict, ?ist, ?nist⟩
  case ict => exact Machine.guarded_congr executeStep ictStepAccepts_iff ict inputs
  case nict =>
    exact Machine.guarded_of_forall executeStep
      (fun tr input => nict_pendingAccepted tr input.2 input.1) nict inputs
  case ist =>
    exact Machine.guarded_congr executeStep
      (fun tr input => ist_pendingAccepted_iff tr input.2 input.1) ist inputs
  case nist =>
    exact Machine.guarded_congr executeStep
      (fun tr input => nist_pendingAccepted_iff tr input.2 input.1) nist inputs

section Counterexample

def connecting : Io := { connected with sendResult := 1 }

/-- The 486 arrives while the connection is still in progress: the ACK is built and its
transmission is pending, which the transaction takes for a transport error. -/
theorem busyHere_while_connecting :
    ∃ ict₀ ict : Transaction Ict, ReachedFrom ict₀ ict ∧ ict.state = .ictCalling ∧
      ict.origRequest = some inviteOverTcp ∧
      (ictCreateAck connecting ict (some busyHere)).isSome ∧
      ¬ IctStepAccepts ict (connecting, ⟨.rcvStatus3456xx, 0, some busyHere⟩) := by
  refine ⟨_, _, ⟨⟨connecting, 0, 0, some inviteOverTcp, rfl⟩,
    [(connecting, ⟨.sndReqinvite, 0, some inviteOverTcp⟩)], rfl⟩, rfl, rfl, rfl, ?_⟩
  intro hstep
  exact (ictStepAccepts_iff _ _).1 hstep (by decide) ⟨rfl, .inl ⟨.inl rfl, rfl⟩⟩

end Counterexample
end Exosip
