import Exosip.Transaction.Nict
import Exosip.Transaction.Nist

/-! The life of a transaction: its state only moves forward, it is killed once, on
the step that enters the terminated state, and is silent from then on. -/
namespace Exosip

/-- The place of a state on the way from creation to termination. -/
def State.phase : State → Nat
  | ictPreCalling | istPreProceeding | nictPreTrying | nistPreTrying => 0
  | ictCalling | nictTrying | nistTrying => 1
  | ictProceeding | istProceeding | nictProceeding | nistProceeding => 2
  | ictCompleted | istCompleted | nictCompleted | nistCompleted => 3
  | istConfirmed => 4
  | ictTerminated | istTerminated | nictTerminated | nistTerminated => 5

namespace Effect

@[simp] def isKill : Effect → Bool
  | killTransactionCallback _ => true
  | sendMessage .. | messageCallback .. | transportErrorCallback .. | messageFree _ => false

/-- A message that is sent, or a message callback. -/
@[simp] def isActivity : Effect → Bool
  | sendMessage .. | messageCallback .. => true
  | killTransactionCallback _ | transportErrorCallback .. | messageFree _ => false

@[simp] theorem filter_isKill_freed (sip : Option Message) : (freed sip).filter isKill = [] := by
  cases sip <;> rfl

theorem isActivity_freed {sip : Option Message} {effect : Effect} (h : effect ∈ freed sip) :
    effect.isActivity = false := by
  cases sip with
  | none => cases h
  | some sip => rw [List.mem_singleton.1 h]; rfl

end Effect

variable {κ : Type}

/-- What one execution does to the life of a transaction. -/
structure Advances (terminated : State) (kill : KillCallbackType) (tr : Transaction κ)
    (out : Outcome κ) : Prop where
  forward : tr.state.phase ≤ out.tr.state.phase
  killed : out.trace.filter Effect.isKill =
    if ¬ tr.state = terminated ∧ out.tr.state = terminated then
      [.killTransactionCallback kill] else []
  absorbed : tr.state = terminated → out.tr.state = terminated
  quiet : tr.state = terminated → ∀ effect ∈ out.trace, effect.isActivity = false

namespace Advances

variable {terminated : State} {kill : KillCallbackType} {tr : Transaction κ} {out : Outcome κ}

theorem start : Advances terminated kill tr (Outcome.start tr) where
  forward := le_rfl
  killed := by simp
  absorbed := id
  quiet := by simp

theorem freed (sip : Option Message) :
    Advances terminated kill tr ((Outcome.start tr).messageFree sip) where
  forward := by simp
  killed := by simp
  absorbed := by simp
  quiet _ _ heffect := Effect.isActivity_freed (by simpa using heffect)

theorem alive (hstate : ¬ tr.state = terminated) (hnext : ¬ out.tr.state = terminated)
    (hforward : tr.state.phase ≤ out.tr.state.phase)
    (htrace : out.trace.filter Effect.isKill = []) : Advances terminated kill tr out where
  forward := hforward
  killed := by simp [hnext, htrace]
  absorbed h := absurd h hstate
  quiet h := absurd h hstate

theorem dead (hstate : ¬ tr.state = terminated) (hnext : out.tr.state = terminated)
    (hforward : tr.state.phase ≤ terminated.phase)
    (htrace : out.trace.filter Effect.isKill = [.killTransactionCallback kill]) :
    Advances terminated kill tr out where
  forward := hnext ▸ hforward
  killed := by simp [hstate, hnext, htrace]
  absorbed h := absurd h hstate
  quiet h := absurd h hstate

/-- The transport error path terminates the transaction, whatever ran before. -/
theorem transportError {type : TransportErrorCallbackType} {io : Io} {err : Int}
    (hstate : ¬ tr.state = terminated) (hforward : tr.state.phase ≤ terminated.phase)
    (htrace : out.trace.filter Effect.isKill = []) :
    Advances terminated kill tr
      (Outcome.handleTransportError type terminated kill io out err) := by
  apply Advances.dead hstate
  · simp
  · exact hforward
  · simp [htrace]

end Advances
theorem ict_execute_advances (ict : Transaction Ict) (evt : Event) (io : Io) :
    Advances .ictTerminated .ictKillTransaction ict (osipTransactionExecute ict evt io) := by
  apply ict_execute_cases
    (P := fun handler => Advances .ictTerminated .ictKillTransaction ict (handler io))
  case sndInvite =>
    intro h _
    unfold ictSndInvite
    split_ifs
    · apply Advances.transportError <;> simp [h, State.phase]
    · apply ictRequestSent_cases
      · intro err
        apply Advances.transportError <;> simp [h, State.phase]
      · apply Advances.alive <;> simp [h, State.phase]
      · apply Advances.alive <;> simp [h, State.phase]
    · apply Advances.alive <;> simp [h, State.phase]
  case timeoutA =>
    intro h _
    unfold osipIctTimeoutAEvent
    split_ifs
    · apply Advances.transportError <;> simp [h, State.phase]
    · apply ictRequestSent_cases
      · intro err
        apply Advances.transportError <;> simp [h, State.phase]
      · apply Advances.alive <;> simp [h]
      · apply Advances.alive <;> simp [h]
    · apply Advances.alive <;> simp [h]
  case timeoutB =>
    intro h _
    apply Advances.dead <;> simp [osipIctTimeoutBEvent, h, State.phase]
  case rcv1xx =>
    rintro (h | h) _ <;> apply Advances.alive <;> simp [ictRcv1xx, h, State.phase]
  case rcv2xx =>
    rintro (h | h) _ <;> apply Advances.dead <;> simp [ictRcv2xx, h, State.phase]
  case rcv3456xx =>
    rintro (h | h) _ <;> unfold ictRcv3456xx <;> cases ictCreateAck io ict evt.sip with
    | none => apply Advances.dead <;> simp [h, State.phase]
    | some ack =>
        simp only [h, ne_eq, reduceCtorEq, not_false_eq_true, if_true]
        split_ifs
        · apply Advances.alive <;> simp [h, State.phase]
        · apply Advances.transportError <;> simp [h, State.phase]
  case retransmitAck =>
    intro h _
    unfold ictRetransmitAck
    split_ifs
    · apply Advances.alive <;> simp [h]
    · apply Advances.transportError <;> simp [h, State.phase]
  case timeoutD =>
    intro h _
    apply Advances.dead <;> simp [osipIctTimeoutDEvent, h, State.phase]
  case useless => exact fun _ => .start
  case freed => exact fun _ => .freed _

theorem nict_execute_advances (nict : Transaction Nict) (evt : Event) (io : Io) :
    Advances .nictTerminated .nictKillTransaction nict (osipTransactionExecute nict evt io) := by
  apply nict_execute_cases
    (P := fun handler => Advances .nictTerminated .nictKillTransaction nict (handler io))
  case sndRequest =>
    intro h _
    unfold nictSndRequest
    split_ifs
    · apply Advances.transportError <;> simp [h, State.phase]
    · apply nictWithProtocol_cases
      · apply Advances.transportError <;> simp [h, State.phase]
      · intro proto
        apply Advances.alive <;> simp [h, State.phase]
  case timeoutE =>
    intro h _
    unfold osipNictTimeoutEEvent
    split_ifs
    · apply Advances.transportError <;> rcases h with h | h <;> simp [h, State.phase]
    · apply nictWithProtocol_cases
      · apply Advances.transportError <;> rcases h with h | h <;> simp [h, State.phase]
      · intro proto
        split_ifs <;> apply Advances.alive <;> rcases h with h | h <;> simp [h]
    · apply Advances.alive <;> rcases h with h | h <;> simp [h]
  case timeoutF =>
    rintro (h | h) _ <;> apply Advances.dead <;> simp [osipNictTimeoutFEvent, h, State.phase]
  case rcv1xx =>
    rintro (h | h) _ <;> apply Advances.alive <;> simp [nictRcv1xx, h, State.phase]
  case rcv23456xx =>
    rintro (h | h) _ <;> apply Advances.alive <;> simp [nictRcv23456xx, h, State.phase]
  case timeoutK =>
    intro h _
    apply Advances.dead <;> simp [osipNictTimeoutKEvent, h, State.phase]
  case useless => exact fun _ => .start
  case freed => exact fun _ => .freed _

theorem ist_execute_advances (ist : Transaction Ist) (evt : Event) (io : Io) :
    Advances .istTerminated .istKillTransaction ist (osipTransactionExecute ist evt io) := by
  apply ist_execute_cases
    (P := fun handler => Advances .istTerminated .istKillTransaction ist (handler io))
  case rcvInvite =>
    intro h _
    unfold istRcvInvite
    split_ifs with hpre
    · apply Advances.alive <;> simp [hpre, State.phase]
    · apply sndXxxOrError_cases
      · apply Advances.transportError <;> rcases h with h | h | h <;> simp [h, State.phase]
      · intro host port _
        apply Advances.transportError <;> rcases h with h | h | h <;> simp [h, State.phase]
      · intro host port _
        apply Advances.alive <;> rcases h with h | h | h <;> simp [h]
    · apply Advances.alive <;> rcases h with h | h | h <;> simp [h]
  case timeoutG =>
    intro h _
    unfold osipIstTimeoutGEvent
    apply sndXxxOrError_cases
    · apply Advances.transportError <;> simp [h, State.phase]
    · intro host port _
      apply Advances.transportError <;> simp [h, State.phase]
    · intro host port _
      apply Advances.alive <;> simp [h]
  case timeoutH =>
    intro h _
    apply Advances.dead <;> simp [osipIstTimeoutHEvent, h, State.phase]
  case snd1xx =>
    intro h _
    unfold istSnd1xx
    apply sndXxxOrError_cases
    · apply Advances.transportError <;> simp [h, State.phase]
    · intro host port _
      apply Advances.transportError <;> simp [h, State.phase]
    · intro host port _
      apply Advances.alive <;> simp [h]
  case snd2xx =>
    intro h _
    unfold istSnd2xx
    apply sndXxxOrError_cases
    · apply Advances.transportError <;> simp [h, State.phase]
    · intro host port _
      apply Advances.transportError <;> simp [h, State.phase]
    · intro host port _
      apply Advances.dead <;> simp [h, State.phase]
  case snd3456xx =>
    intro h _
    unfold istSnd3456xx
    apply sndXxxOrError_cases
    · apply Advances.transportError <;> simp [h, State.phase]
    · intro host port _
      apply Advances.transportError <;> simp [h, State.phase]
    · intro host port _
      apply Advances.alive <;> simp [h, State.phase]
  case rcvAck =>
    rintro (h | h) _ <;> apply Advances.alive <;> simp [istRcvAck, h, State.phase]
  case timeoutI =>
    intro h _
    apply Advances.dead <;> simp [osipIstTimeoutIEvent, h, State.phase]
  case useless => exact fun _ => .start
  case freed => exact fun _ => .freed _

theorem nist_execute_advances (nist : Transaction Nist) (evt : Event) (io : Io) :
    Advances .nistTerminated .nistKillTransaction nist (osipTransactionExecute nist evt io) := by
  apply nist_execute_cases
    (P := fun handler => Advances .nistTerminated .nistKillTransaction nist (handler io))
  case rcvRequest =>
    intro h _
    unfold nistRcvRequest
    split_ifs with hpre
    · apply Advances.alive <;> simp [hpre, State.phase]
    · apply sndXxxOrError_cases
      · apply Advances.transportError <;> rcases h with h | h | h <;> simp [h, State.phase]
      · intro host port _
        apply Advances.transportError <;> rcases h with h | h | h <;> simp [h, State.phase]
      · intro host port _
        apply Advances.alive <;> rcases h with h | h | h <;> simp [h]
    · apply Advances.alive <;> rcases h with h | h | h <;> simp [h]
  case snd1xx =>
    intro h _
    unfold nistSnd1xx
    apply sndXxxOrError_cases
    · apply Advances.transportError <;> rcases h with h | h <;> simp [h, State.phase]
    · intro host port _
      apply Advances.transportError <;> rcases h with h | h <;> simp [h, State.phase]
    · intro host port _
      apply Advances.alive <;> rcases h with h | h <;> simp [h, State.phase]
  case snd23456xx =>
    intro h _
    unfold nistSnd23456xx
    apply sndXxxOrError_cases
    · apply Advances.transportError <;> rcases h with h | h <;> simp [h, State.phase]
    · intro host port _
      apply Advances.transportError <;> rcases h with h | h <;> simp [h, State.phase]
    · intro host port _
      apply Advances.alive <;> rcases h with h | h <;> simp [h, State.phase]
  case timeoutJ =>
    intro h _
    apply Advances.dead <;> simp [osipNistTimeoutJEvent, h, State.phase]
  case useless => exact fun _ => .start
  case freed => exact fun _ => .freed _

/-- What a kind promises of every run: any events in any order, with any results of
sending. -/
structure RunsForward (κ : Type) [StateMachine κ] (terminated : State)
    (kill : KillCallbackType) : Prop where
  /-- The state moves forward between any two points of a run. -/
  forward : ∀ (tr : Transaction κ) (before after : List (Io × Event)),
    (runTransaction tr before).1.state.phase ≤ (runTransaction tr (before ++ after)).1.state.phase
  /-- The kill callback is called by the step that enters the terminated state, once, and by
  no other step. -/
  killedOnEntry : ∀ (tr : Transaction κ) (before : List (Io × Event)) (io : Io) (evt : Event),
    (osipTransactionExecute (runTransaction tr before).1 evt io).trace.filter Effect.isKill =
      if (runTransaction tr before).1.state ≠ terminated ∧
          (osipTransactionExecute (runTransaction tr before).1 evt io).tr.state = terminated then
        [.killTransactionCallback kill]
      else []
  /-- So a whole run calls it once when it ends terminated, and otherwise never. -/
  killedOnce : ∀ (tr : Transaction κ) (inputs : List (Io × Event)), tr.state ≠ terminated →
    (runTransaction tr inputs).2.filter Effect.isKill =
      if (runTransaction tr inputs).1.state = terminated then
        [.killTransactionCallback kill]
      else []
  /-- Nothing is sent or announced by the steps after the terminated state. -/
  silent : ∀ (tr : Transaction κ) (before after : List (Io × Event)),
    (runTransaction tr before).1.state = terminated →
    (runTransaction tr (before ++ after)).2 = (runTransaction tr before).2 ++
        (runTransaction (runTransaction tr before).1 after).2 ∧
      ∀ effect ∈ (runTransaction (runTransaction tr before).1 after).2,
        effect.isActivity = false

theorem RunsForward.of_steps [StateMachine κ] {terminated : State} {kill : KillCallbackType}
    (hstep : ∀ (tr : Transaction κ) (evt : Event) (io : Io),
      Advances terminated kill tr (osipTransactionExecute tr evt io)) :
    RunsForward κ terminated kill where
  forward tr before after := by
    have hrank := Machine.run_rank executeStep (fun tr : Transaction κ => tr.state.phase)
      (fun tr input => (hstep tr input.2 input.1).forward) (runTransaction tr before).1 after
    simpa only [runTransaction, Machine.run_append] using hrank
  killedOnEntry tr before io evt := (hstep _ evt io).killed
  killedOnce tr inputs hstate := by
    have hfilter := Machine.run_filter_entering executeStep
      (E := fun tr : Transaction κ => tr.state = terminated)
      (fun tr input => (hstep tr input.2 input.1).absorbed)
      (fun tr input => (hstep tr input.2 input.1).killed) tr inputs
    simpa only [hstate, not_false_eq_true, true_and] using hfilter
  silent tr before after hterminated := by
    refine ⟨by rw [runTransaction, Machine.run_append], ?_⟩
    exact Machine.run_outputs executeStep (I := fun tr : Transaction κ => tr.state = terminated)
      (fun tr input h =>
        ⟨(hstep tr input.2 input.1).absorbed h, (hstep tr input.2 input.1).quiet h⟩)
      after hterminated

/-- Every transaction of the four kinds, over every run. -/
theorem osipTransactionExecute_runsForward :
    RunsForward Ict .ictTerminated .ictKillTransaction ∧
      RunsForward Nict .nictTerminated .nictKillTransaction ∧
      RunsForward Ist .istTerminated .istKillTransaction ∧
      RunsForward Nist .nistTerminated .nistKillTransaction :=
  ⟨.of_steps ict_execute_advances, .of_steps nict_execute_advances,
    .of_steps ist_execute_advances, .of_steps nist_execute_advances⟩

end Exosip
