import Mathlib
import Exosip.Machine.Phase
import Exosip.Transaction.OneOutcome

/-! The timers that end a transaction: their deadlines stand from the state that starts
them to the end of the transaction, but for timer I, which every ACK starts anew. -/
namespace Exosip

variable {κ : Type} [StateMachine κ]

/-- In the run no deadline of the timer is moved to a later time, from any point in the
phase on and as long as the transaction is not terminated. -/
def NeverProlonged (phase : State → Prop) (terminated : State) (timer : κ → Timeval)
    (tr : Transaction κ) (inputs : List (Io × Event)) : Prop :=
  Machine.NeverRaised executeStep (fun tr => phase tr.state) (fun tr => tr.state = terminated)
    (fun tr => (timer tr.ctx).usecs) tr inputs

/-- One execution in the phase: the phase and the deadline stay, or the transaction ends. -/
structure Stands (phase : State → Prop) (terminated : State) (timer : κ → Timeval)
    (tr : Transaction κ) (out : Outcome κ) : Prop where
  stays : phase tr.state → phase out.tr.state ∨ out.tr.state = terminated
  fixed : phase tr.state → out.tr.state = terminated ∨ timer out.tr.ctx = timer tr.ctx

theorem NeverProlonged.of_steps {phase : State → Prop} {terminated : State} {timer : κ → Timeval}
    {kill : KillCallbackType}
    (hadvances : ∀ (tr : Transaction κ) (evt : Event) (io : Io),
      Advances terminated kill tr (osipTransactionExecute tr evt io))
    (hstands : ∀ (tr : Transaction κ) (evt : Event) (io : Io),
      Stands phase terminated timer tr (osipTransactionExecute tr evt io))
    (tr : Transaction κ) (inputs : List (Io × Event)) :
    NeverProlonged phase terminated timer tr inputs := by
  apply Machine.neverRaised_of_lowers
  · exact fun tr input => (hstands tr input.2 input.1).stays
  · exact fun tr input => (hadvances tr input.2 input.1).absorbed
  · intro tr input hphase hlive
    have htimer := ((hstands tr input.2 input.1).fixed hphase).resolve_left hlive
    exact (congrArg Timeval.usecs htimer).le

theorem ict_execute_stands (ict : Transaction Ict) (evt : Event) (io : Io) :
    Stands (· = .ictCompleted) .ictTerminated (·.timerDStart) ict
      (osipTransactionExecute ict evt io) := by
  apply ict_execute_cases
    (P := fun handler => Stands (· = .ictCompleted) .ictTerminated (·.timerDStart) ict (handler io))
  case retransmitAck =>
    intro h _
    unfold ictRetransmitAck
    split_ifs <;> constructor <;> simp
  case timeoutD => exact fun _ _ => ⟨fun _ => .inr rfl, fun _ => .inl rfl⟩
  case useless => exact fun _ => ⟨.inl, fun _ => .inr rfl⟩
  case freed => exact fun _ => ⟨.inl, fun _ => .inr rfl⟩
  all_goals
    intro hstate _
    constructor <;> intro hcompleted <;> simp [hcompleted] at hstate

theorem nict_execute_stands (nict : Transaction Nict) (evt : Event) (io : Io) :
    Stands (· = .nictCompleted) .nictTerminated (·.timerKStart) nict
      (osipTransactionExecute nict evt io) := by
  apply nict_execute_cases
    (P := fun handler =>
      Stands (· = .nictCompleted) .nictTerminated (·.timerKStart) nict (handler io))
  case timeoutK => exact fun _ _ => ⟨fun _ => .inr rfl, fun _ => .inl rfl⟩
  case useless => exact fun _ => ⟨.inl, fun _ => .inr rfl⟩
  case freed => exact fun _ => ⟨.inl, fun _ => .inr rfl⟩
  all_goals
    intro hstate _
    constructor <;> intro hcompleted <;> simp [hcompleted] at hstate

theorem nist_execute_stands (nist : Transaction Nist) (evt : Event) (io : Io) :
    Stands (· = .nistCompleted) .nistTerminated (·.timerJStart) nist
      (osipTransactionExecute nist evt io) := by
  apply nist_execute_cases
    (P := fun handler =>
      Stands (· = .nistCompleted) .nistTerminated (·.timerJStart) nist (handler io))
  case rcvRequest =>
    intro _ _
    unfold nistRcvRequest
    split_ifs with hpre
    · constructor <;> intro hcompleted <;> simp [hcompleted] at hpre
    · apply sndXxxOrError_cases
      · exact ⟨fun _ => .inr rfl, fun _ => .inl rfl⟩
      · exact fun host port _ => ⟨fun _ => .inr rfl, fun _ => .inl rfl⟩
      · exact fun host port _ => ⟨.inl, fun _ => .inr rfl⟩
    · exact ⟨.inl, fun _ => .inr rfl⟩
  case timeoutJ => exact fun _ _ => ⟨fun _ => .inr rfl, fun _ => .inl rfl⟩
  case useless => exact fun _ => ⟨.inl, fun _ => .inr rfl⟩
  case freed => exact fun _ => ⟨.inl, fun _ => .inr rfl⟩
  all_goals
    intro hstate _
    constructor <;> intro hcompleted <;> simp [hcompleted] at hstate

theorem ist_execute_stands (ist : Transaction Ist) (evt : Event) (io : Io) :
    Stands (fun state => state = .istCompleted ∨ state = .istConfirmed) .istTerminated
      (·.timerHStart) ist (osipTransactionExecute ist evt io) := by
  apply ist_execute_cases
    (P := fun handler => Stands (fun state => state = .istCompleted ∨ state = .istConfirmed)
      .istTerminated (·.timerHStart) ist (handler io))
  case rcvInvite =>
    intro _ _
    unfold istRcvInvite
    split_ifs with hpre
    · constructor <;> intro hlate <;> simp [hpre] at hlate
    · apply sndXxxOrError_cases
      · exact ⟨fun _ => .inr rfl, fun _ => .inl rfl⟩
      · exact fun host port _ => ⟨fun _ => .inr rfl, fun _ => .inl rfl⟩
      · exact fun host port _ => ⟨.inl, fun _ => .inr rfl⟩
    · exact ⟨.inl, fun _ => .inr rfl⟩
  case timeoutG =>
    intro _ _
    unfold osipIstTimeoutGEvent
    apply sndXxxOrError_cases
    · exact ⟨fun _ => .inr rfl, fun _ => .inl rfl⟩
    · exact fun host port _ => ⟨fun _ => .inr rfl, fun _ => .inl rfl⟩
    · exact fun host port _ => ⟨.inl, fun _ => .inr rfl⟩
  case rcvAck => exact fun _ _ => ⟨fun _ => .inl (.inr rfl), fun _ => .inr rfl⟩
  case timeoutH => exact fun _ _ => ⟨fun _ => .inr rfl, fun _ => .inl rfl⟩
  case timeoutI => exact fun _ _ => ⟨fun _ => .inr rfl, fun _ => .inl rfl⟩
  case useless => exact fun _ => ⟨.inl, fun _ => .inr rfl⟩
  case freed => exact fun _ => ⟨.inl, fun _ => .inr rfl⟩
  all_goals
    intro hstate _
    constructor <;> intro hlate <;> simp [hstate] at hlate

theorem ist_execute_confirmed (ist : Transaction Ist) (evt : Event) (io : Io)
    (h : ist.state = .istConfirmed) :
    (osipTransactionExecute ist evt io).tr.state = .istConfirmed ∨
      (osipTransactionExecute ist evt io).tr.state = .istTerminated := by
  apply ist_execute_cases
    (P := fun handler => (handler io).tr.state = .istConfirmed ∨
      (handler io).tr.state = .istTerminated)
  case rcvAck => exact fun _ _ => .inl rfl
  case timeoutI => exact fun _ _ => .inr rfl
  case useless => exact fun _ => .inl h
  case freed => exact fun _ => .inl h
  all_goals
    intro hstate _
    simp [h] at hstate

/-- The ACK restarts timer I, with a deadline that is not after the one that stands. -/
def AckInTime (ist : Transaction Ist) (input : Io × Event) : Prop :=
  ist.state = .istConfirmed → input.2.type = .rcvReqack →
    ((input.1.gettimeofday 0).after ist.ctx.timerILength).usecs ≤ ist.ctx.timerIStart.usecs

theorem Useless.not_rcvReqack {ist : Transaction Ist} {evt : Event} (h : Useless ist evt)
    (hstate : ist.state = .istConfirmed) : evt.type ≠ .rcvReqack := by
  rcases h with h | h
  · simp [h]
  · exact h ⟨.istConfirmed, .rcvReqack, istRcvAck⟩
      (by simp [StateMachine.transitions, istTransition]) hstate

theorem ist_execute_lowers_iff (ist : Transaction Ist) (input : Io × Event) :
    Machine.Lowers executeStep (fun ist : Transaction Ist => ist.state = .istConfirmed)
      (fun ist => ist.state = .istTerminated) (fun ist => ist.ctx.timerIStart.usecs) ist input ↔
      AckInTime ist input := by
  simp only [Machine.Lowers, executeStep, AckInTime]
  apply @ist_execute_cases
    (fun handler => (ist.state = .istConfirmed → (handler input.1).tr.state ≠ .istTerminated →
        (handler input.1).tr.ctx.timerIStart.usecs ≤ ist.ctx.timerIStart.usecs) ↔
      (ist.state = .istConfirmed → input.2.type = .rcvReqack →
        ((input.1.gettimeofday 0).after ist.ctx.timerILength).usecs ≤ ist.ctx.timerIStart.usecs))
    ist input.2
  case rcvAck =>
    intro _ htype
    simp [htype, istRcvAck]
  case timeoutI =>
    intro _ htype
    simp [htype, osipIstTimeoutIEvent]
  case useless =>
    intro huseless
    exact ⟨fun _ hconfirmed htype => absurd htype (huseless.not_rcvReqack hconfirmed),
      fun _ _ _ => le_rfl⟩
  case freed =>
    intro huseless
    exact ⟨fun _ hconfirmed htype => absurd htype (huseless.not_rcvReqack hconfirmed),
      fun _ _ _ => le_rfl⟩
  all_goals
    intro hstate htype
    have hnot : ist.state ≠ .istConfirmed := fun hconfirmed => by simp [hconfirmed] at hstate
    exact ⟨fun _ hconfirmed => absurd hconfirmed hnot, fun _ hconfirmed => absurd hconfirmed hnot⟩

/-- No deadline of the timers that end a transaction is moved to a later time, whatever
arrives, except that timer I is, by any ACK that a confirmed transaction executes so late
that its length from then on is after the deadline. -/
theorem neverProlonged_iff (ict : Transaction Ict) (nict : Transaction Nict)
    (ist : Transaction Ist) (nist : Transaction Nist) (inputs : List (Io × Event)) :
    NeverProlonged (· = .ictCompleted) .ictTerminated (·.timerDStart) ict inputs ∧
    NeverProlonged (· = .nictCompleted) .nictTerminated (·.timerKStart) nict inputs ∧
    NeverProlonged (· = .nistCompleted) .nistTerminated (·.timerJStart) nist inputs ∧
    NeverProlonged (fun state => state = .istCompleted ∨ state = .istConfirmed) .istTerminated
      (·.timerHStart) ist inputs ∧
    (NeverProlonged (· = .istConfirmed) .istTerminated (·.timerIStart) ist inputs ↔
      Machine.Guarded executeStep AckInTime ist inputs) := by
  refine ⟨.of_steps ict_execute_advances ict_execute_stands ict inputs,
    .of_steps nict_execute_advances nict_execute_stands nict inputs,
    .of_steps nist_execute_advances nist_execute_stands nist inputs,
    .of_steps ist_execute_advances ist_execute_stands ist inputs, ?_⟩
  unfold NeverProlonged
  rw [Machine.neverRaised_iff_guarded]
  · exact Machine.guarded_congr executeStep ist_execute_lowers_iff ist inputs
  · exact fun ist input => ist_execute_confirmed ist input.2 input.1
  · exact fun ist input => (ist_execute_advances ist input.2 input.1).absorbed

section Examples

/-- The transmissions succeed and the clock reads `n` seconds. -/
def atTime (n : Nat) : Io :=
  { connected with gettimeofday := fun _ => Instant.ofUsecs (n * 1000000) }

def overUdp (sip : Message) : Message :=
  { sip with vias := sip.vias.map fun via => { via with protocol := some "UDP".toList } }

def ackInvite : Message := { inviteOverTcp with sipMethod := some "ACK".toList }

def ackTwice : List (Io × Event) :=
  [(atTime 1, ⟨.rcvReqinvite, 0, some (overUdp inviteOverTcp)⟩),
    (atTime 1, ⟨.sndStatus3456xx, 0, some (overUdp busyHere)⟩),
    (atTime 2, ⟨.rcvReqack, 0, some (overUdp ackInvite)⟩),
    (atTime 5, ⟨.rcvReqack, 0, some (overUdp ackInvite)⟩)]

/-- The second ACK moves the deadline of timer I by three seconds. -/
theorem not_neverProlonged : ∃ ist : Transaction Ist,
    osipTransactionInit Ist connected 0 0 (some (overUdp inviteOverTcp)) = .ok ist ∧
      ¬ NeverProlonged (· = .istConfirmed) .istTerminated (·.timerIStart) ist ackTwice := by
  refine ⟨_, rfl, ?_⟩
  intro h
  have hraised := h (ackTwice.take 3) (ackTwice.drop 3) [] rfl rfl
  exact absurd (hraised (by decide)) (by decide)

end Examples
end Exosip
