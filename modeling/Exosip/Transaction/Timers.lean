import Exosip.Transaction.Nict
import Exosip.Transaction.Nist

/-! The timers that a transaction depends on to end: which one must run in which
state, and the event it produces once its time has come. -/
namespace Exosip

/-- `__osip_transaction_need_timer_x_event` at the time `now`. -/
def needTimerXEvent (now : Instant) (timer : Timeval) (condState : Bool) (transactionid : Int)
    (timerVal : EventType) : Option Event :=
  if condState then
    if timer.tvSec = -1 then none
    else if Timeval.osipTimercmpGt now.toTimeval timer then
      some { type := timerVal, transactionid, sip := none }
    else none
  else none

def osipIctNeedTimerAEvent (now : Instant) (ict : Ict) (state : State) (transactionid : Int) :
    Option Event :=
  needTimerXEvent now ict.timerAStart (state = .ictCalling) transactionid .timeoutA

def osipIctNeedTimerBEvent (now : Instant) (ict : Ict) (state : State) (transactionid : Int) :
    Option Event :=
  needTimerXEvent now ict.timerBStart (state = .ictCalling) transactionid .timeoutB

def osipIctNeedTimerDEvent (now : Instant) (ict : Ict) (state : State) (transactionid : Int) :
    Option Event :=
  needTimerXEvent now ict.timerDStart (state = .ictCompleted) transactionid .timeoutD

def osipIstNeedTimerGEvent (now : Instant) (ist : Ist) (state : State) (transactionid : Int) :
    Option Event :=
  needTimerXEvent now ist.timerGStart (state = .istCompleted) transactionid .timeoutG

def osipIstNeedTimerHEvent (now : Instant) (ist : Ist) (state : State) (transactionid : Int) :
    Option Event :=
  needTimerXEvent now ist.timerHStart (state = .istCompleted) transactionid .timeoutH

def osipIstNeedTimerIEvent (now : Instant) (ist : Ist) (state : State) (transactionid : Int) :
    Option Event :=
  needTimerXEvent now ist.timerIStart (state = .istConfirmed) transactionid .timeoutI

def osipNictNeedTimerEEvent (now : Instant) (nict : Nict) (state : State) (transactionid : Int) :
    Option Event :=
  needTimerXEvent now nict.timerEStart (state = .nictProceeding ∨ state = .nictTrying)
    transactionid .timeoutE

def osipNictNeedTimerFEvent (now : Instant) (nict : Nict) (state : State) (transactionid : Int) :
    Option Event :=
  needTimerXEvent now nict.timerFStart (state = .nictProceeding ∨ state = .nictTrying)
    transactionid .timeoutF

def osipNictNeedTimerKEvent (now : Instant) (nict : Nict) (state : State) (transactionid : Int) :
    Option Event :=
  needTimerXEvent now nict.timerKStart (state = .nictCompleted) transactionid .timeoutK

def osipNistNeedTimerJEvent (now : Instant) (nist : Nist) (state : State) (transactionid : Int) :
    Option Event :=
  needTimerXEvent now nist.timerJStart (state = .nistCompleted) transactionid .timeoutJ

theorem needTimerXEvent_of_armed {now : Instant} {timer : Timeval} {condState : Bool}
    {transactionid : Int} {timerVal : EventType} (hstate : condState = true)
    (harmed : timer.Armed) (hlate : timer.tvSec < now.tvSec) :
    needTimerXEvent now timer condState transactionid timerVal =
      some ⟨timerVal, transactionid, none⟩ := by
  have hgt : Timeval.osipTimercmpGt now.toTimeval timer = true := by
    rw [Timeval.osipTimercmpGt, if_neg (by omega)]
    exact decide_eq_true hlate
  rw [needTimerXEvent, if_pos hstate, if_neg harmed, if_pos hgt]

theorem needTimerXEvent_eq_some {now : Instant} {timer : Timeval} {condState : Bool}
    {transactionid : Int} {timerVal : EventType} {evt : Event}
    (h : needTimerXEvent now timer condState transactionid timerVal = some evt) :
    condState = true ∧ timer.Armed ∧ evt = ⟨timerVal, transactionid, none⟩ := by
  unfold needTimerXEvent at h
  split_ifs at h with hstate hsec hgt
  exact ⟨hstate, hsec, (Option.some.inj h).symm⟩

/-- The timer is armed, and some second after which its event is always returned
has been fixed. -/
structure Deadline (timer : Timeval) (needTimer : Instant → Option Event) (timeout : EventType)
    (transactionid : Int) : Prop where
  armed : timer.Armed
  fires : ∀ now : Instant, timer.tvSec < now.tvSec →
    needTimer now = some ⟨timeout, transactionid, none⟩

theorem osipTransactionInit_eq_ok {κ : Type} [StateMachine κ] {io : Io}
    {transactionid outSocket : Int} {request : Option Message} {tr : Transaction κ}
    (h : osipTransactionInit κ io transactionid outSocket request = .ok tr) :
    ∃ msg, request = some msg ∧ StateMachine.contextInit io msg = .ok tr.ctx ∧
      tr.state = StateMachine.preState κ ∧ tr.transactionff = [] ∧ tr.origRequest = none ∧
      tr.lastResponse = none := by
  unfold osipTransactionInit at h
  split at h
  · cases h
  · next msg =>
      split_ifs at h
      split at h
      · cases h
      · split at h
        · split at h
          · cases h
          · next hctx =>
              cases h
              exact ⟨msg, rfl, hctx, rfl, rfl, rfl, rfl⟩
        · cases h

section Ict

/-- Until the transaction ends, the deadline of timer B is the one of its creation
and timer D can be started. -/
structure IctTimed (deadline : Timeval) (ict : Transaction Ict) : Prop where
  timerB : ict.state ≠ .ictTerminated → ict.ctx.timerBStart = deadline
  timerDLength : ict.state ≠ .ictTerminated → 0 ≤ ict.ctx.timerDLength
  timerD : ict.state = .ictCompleted → ict.ctx.timerDStart.Armed

variable {io : Io} {deadline : Timeval} {ict : Transaction Ict} {out : Outcome Ict}

private theorem IctTimed.terminated (h : out.tr.state = .ictTerminated) :
    IctTimed deadline out.tr where
  timerB hstate := absurd h hstate
  timerDLength hstate := absurd h hstate
  timerD hstate := by simp [h] at hstate

/-- A handler that leaves timer B and the length of timer D alone keeps the invariant. -/
private theorem IctTimed.frame (h : IctTimed deadline ict) (hlive : ict.state ≠ .ictTerminated)
    (hB : out.tr.ctx.timerBStart = ict.ctx.timerBStart)
    (hDlength : out.tr.ctx.timerDLength = ict.ctx.timerDLength)
    (hD : out.tr.state = .ictCompleted → out.tr.ctx.timerDStart.Armed) :
    IctTimed deadline out.tr where
  timerB _ := hB.trans (h.timerB hlive)
  timerDLength _ := hDlength ▸ h.timerDLength hlive
  timerD := hD

theorem ict_execute_timed (evt : Event) (io : Io) (h : IctTimed deadline ict) :
    IctTimed deadline (osipTransactionExecute ict evt io).tr := by
  apply ict_execute_cases (P := fun handler => IctTimed deadline (handler io).tr)
  case sndInvite =>
    intro hstate _
    unfold ictSndInvite
    split_ifs
    · exact .terminated rfl
    · apply ictRequestSent_cases (P := fun out => IctTimed deadline out.tr)
      · intro err
        exact .terminated rfl
      · apply h.frame <;> simp [hstate, Ict.stopTimerA]
      · apply h.frame <;> simp [hstate]
    · apply h.frame <;> simp [hstate]
  case timeoutA =>
    intro hstate _
    unfold osipIctTimeoutAEvent
    split_ifs
    · exact .terminated rfl
    · apply ictRequestSent_cases (P := fun out => IctTimed deadline out.tr)
      · intro err
        exact .terminated rfl
      · apply h.frame <;> simp [hstate, Ict.stopTimerA]
      · apply h.frame <;> simp [hstate]
    · apply h.frame <;> simp [hstate]
  case timeoutB => exact fun _ _ => .terminated rfl
  case rcv1xx =>
    rintro (hstate | hstate) _ <;> apply h.frame <;> simp [ictRcv1xx, hstate]
  case rcv2xx => exact fun _ _ => .terminated rfl
  case rcv3456xx =>
    intro hstate _
    have hlive : ict.state ≠ .ictTerminated ∧ ict.state ≠ .ictCompleted := by
      rcases hstate with hstate | hstate <;> simp [hstate]
    have hlength := h.timerDLength hlive.1
    unfold ictRcv3456xx
    simp only [hlive.2, ne_eq, not_false_eq_true, if_true]
    cases ictCreateAck io ict evt.sip with
    | none => exact .terminated rfl
    | some ack =>
        simp only
        split_ifs
        · apply h.frame hlive.1 <;> simp [Instant.after_armed, hlength]
        · exact .terminated rfl
  case retransmitAck =>
    intro hstate _
    unfold ictRetransmitAck
    split_ifs
    · apply h.frame <;> simp [hstate, h.timerD hstate]
    · exact .terminated rfl
  case timeoutD => exact fun _ _ => .terminated rfl
  case useless => exact fun _ => h
  case freed => exact fun _ => h

theorem ict_init_timed {proto : Str} {invite : Message}
    (hctx : ict.ctx = Ict.initial io invite proto) (hstate : ict.state = .ictPreCalling) :
    IctTimed ict.ctx.timerBStart ict where
  timerB _ := rfl
  timerDLength _ := by
    simp only [hctx, Ict.initial]
    split <;> decide
  timerD h := by simp [hstate] at h

end Ict

section Nict

structure NictTimed (deadline : Timeval) (nict : Transaction Nict) : Prop where
  timerF : nict.state ≠ .nictTerminated → nict.ctx.timerFStart = deadline
  timerKLength : nict.state ≠ .nictTerminated → 0 ≤ nict.ctx.timerKLength
  timerK : nict.state = .nictCompleted → nict.ctx.timerKStart.Armed

variable {io : Io} {deadline : Timeval} {nict : Transaction Nict} {out : Outcome Nict}

private theorem NictTimed.terminated (h : out.tr.state = .nictTerminated) :
    NictTimed deadline out.tr where
  timerF hstate := absurd h hstate
  timerKLength hstate := absurd h hstate
  timerK hstate := by simp [h] at hstate

private theorem NictTimed.frame (h : NictTimed deadline nict)
    (hlive : nict.state ≠ .nictTerminated)
    (hF : out.tr.ctx.timerFStart = nict.ctx.timerFStart)
    (hKlength : out.tr.ctx.timerKLength = nict.ctx.timerKLength)
    (hK : out.tr.state = .nictCompleted → out.tr.ctx.timerKStart.Armed) :
    NictTimed deadline out.tr where
  timerF _ := hF.trans (h.timerF hlive)
  timerKLength _ := hKlength ▸ h.timerKLength hlive
  timerK := hK

theorem nict_execute_timed (evt : Event) (io : Io) (h : NictTimed deadline nict) :
    NictTimed deadline (osipTransactionExecute nict evt io).tr := by
  apply nict_execute_cases (P := fun handler => NictTimed deadline (handler io).tr)
  case sndRequest =>
    intro hstate _
    unfold nictSndRequest
    split_ifs
    · exact .terminated rfl
    · apply nictWithProtocol_cases (P := fun out => NictTimed deadline out.tr)
      · exact .terminated rfl
      · intro proto
        apply h.frame <;> simp [hstate]
  case timeoutE =>
    intro hstate _
    have hlive : nict.state ≠ .nictTerminated ∧ nict.state ≠ .nictCompleted := by
      rcases hstate with hstate | hstate <;> simp [hstate]
    unfold osipNictTimeoutEEvent
    split_ifs
    · exact .terminated rfl
    · apply nictWithProtocol_cases (P := fun out => NictTimed deadline out.tr)
      · exact .terminated rfl
      · intro proto
        split_ifs <;> apply h.frame hlive.1 <;> simp [Nict.stopTimerE, hlive.2]
    · apply h.frame hlive.1 <;> simp [hlive.2]
  case timeoutF => exact fun _ _ => .terminated rfl
  case rcv1xx =>
    rintro (hstate | hstate) _ <;> apply h.frame <;> simp [nictRcv1xx, hstate]
  case rcv23456xx =>
    intro hstate _
    have hlive : nict.state ≠ .nictTerminated ∧ nict.state ≠ .nictCompleted := by
      rcases hstate with hstate | hstate <;> simp [hstate]
    have hlength := h.timerKLength hlive.1
    apply h.frame hlive.1 <;>
      simp [nictRcv23456xx, Nict.startTimerK, hlive.2, Instant.after_armed, hlength]
  case timeoutK => exact fun _ _ => .terminated rfl
  case useless => exact fun _ => h
  case freed => exact fun _ => h

theorem nict_init_timed {proto : Str} {request : Message}
    (hctx : nict.ctx = Nict.initial io request proto) (hstate : nict.state = .nictPreTrying) :
    NictTimed nict.ctx.timerFStart nict where
  timerF _ := rfl
  timerKLength _ := by
    simp only [hctx, Nict.initial]
    split <;> decide
  timerK h := by simp [hstate] at h

end Nict

section Ist

structure IstTimed (ist : Transaction Ist) : Prop where
  lengths : ist.state ≠ .istTerminated → 0 ≤ ist.ctx.timerHLength ∧ 0 ≤ ist.ctx.timerILength
  timerH : ist.state = .istCompleted → ist.ctx.timerHStart.Armed
  timerI : ist.state = .istConfirmed → ist.ctx.timerIStart.Armed

variable {io : Io} {ist : Transaction Ist} {out : Outcome Ist}

private theorem IstTimed.terminated (h : out.tr.state = .istTerminated) : IstTimed out.tr where
  lengths hstate := absurd h hstate
  timerH hstate := by simp [h] at hstate
  timerI hstate := by simp [h] at hstate

private theorem IstTimed.frame (h : IstTimed ist) (hlive : ist.state ≠ .istTerminated)
    (hHlength : out.tr.ctx.timerHLength = ist.ctx.timerHLength)
    (hIlength : out.tr.ctx.timerILength = ist.ctx.timerILength)
    (hH : out.tr.state = .istCompleted → out.tr.ctx.timerHStart.Armed)
    (hI : out.tr.state = .istConfirmed → out.tr.ctx.timerIStart.Armed) : IstTimed out.tr where
  lengths _ := by
    rw [hHlength, hIlength]
    exact h.lengths hlive
  timerH := hH
  timerI := hI

theorem ist_execute_timed (evt : Event) (io : Io) (h : IstTimed ist) :
    IstTimed (osipTransactionExecute ist evt io).tr := by
  apply ist_execute_cases (P := fun handler => IstTimed (handler io).tr)
  case rcvInvite =>
    intro hstate _
    have hlive : ist.state ≠ .istTerminated ∧ ist.state ≠ .istConfirmed := by
      rcases hstate with hstate | hstate | hstate <;> simp [hstate]
    unfold istRcvInvite
    split_ifs
    · apply h.frame hlive.1 <;> simp
    · apply sndXxxOrError_cases (P := fun out => IstTimed out.tr)
      · exact .terminated rfl
      · exact fun _ _ _ => .terminated rfl
      · intro host port _
        exact h.frame hlive.1 rfl rfl h.timerH fun hI => absurd hI hlive.2
    · exact h.frame hlive.1 rfl rfl h.timerH fun hI => absurd hI hlive.2
  case timeoutG =>
    intro hstate _
    unfold osipIstTimeoutGEvent
    apply sndXxxOrError_cases (P := fun out => IstTimed out.tr)
    · exact .terminated rfl
    · exact fun _ _ _ => .terminated rfl
    · intro host port _
      apply h.frame <;> simp [hstate, h.timerH]
  case timeoutH => exact fun _ _ => .terminated rfl
  case snd1xx =>
    intro hstate _
    unfold istSnd1xx
    apply sndXxxOrError_cases (P := fun out => IstTimed out.tr)
    · exact .terminated rfl
    · exact fun _ _ _ => .terminated rfl
    · intro host port _
      apply h.frame <;> simp [hstate]
  case snd2xx =>
    intro _ _
    unfold istSnd2xx
    apply sndXxxOrError_cases (P := fun out => IstTimed out.tr)
    · exact .terminated rfl
    · exact fun _ _ _ => .terminated rfl
    · exact fun _ _ _ => .terminated rfl
  case snd3456xx =>
    intro hstate _
    have hlength := (h.lengths (by simp [hstate])).1
    unfold istSnd3456xx
    apply sndXxxOrError_cases (P := fun out => IstTimed out.tr)
    · exact .terminated rfl
    · exact fun _ _ _ => .terminated rfl
    · intro host port _
      apply h.frame <;> simp [hstate, Ist.startTimersGH, Instant.after_armed, hlength]
  case rcvAck =>
    intro hstate _
    have hlive : ist.state ≠ .istTerminated := by
      rcases hstate with hstate | hstate <;> simp [hstate]
    have hlength := (h.lengths hlive).2
    apply h.frame hlive <;> simp [istRcvAck, Instant.after_armed, hlength]
  case timeoutI => exact fun _ _ => .terminated rfl
  case useless => exact fun _ => h
  case freed => exact fun _ => h

theorem ist_init_timed {proto : Str} (hctx : ist.ctx = Ist.initial proto)
    (hstate : ist.state = .istPreProceeding) : IstTimed ist where
  lengths _ := by
    simp only [hctx, Ist.initial]
    split <;> decide
  timerH h := by simp [hstate] at h
  timerI h := by simp [hstate] at h

end Ist

section Nist

structure NistTimed (nist : Transaction Nist) : Prop where
  timerJLength : nist.state ≠ .nistTerminated → 0 ≤ nist.ctx.timerJLength
  timerJ : nist.state = .nistCompleted → nist.ctx.timerJStart.Armed

variable {io : Io} {nist : Transaction Nist} {out : Outcome Nist}

private theorem NistTimed.terminated (h : out.tr.state = .nistTerminated) :
    NistTimed out.tr where
  timerJLength hstate := absurd h hstate
  timerJ hstate := by simp [h] at hstate

private theorem NistTimed.frame (h : NistTimed nist) (hlive : nist.state ≠ .nistTerminated)
    (hJlength : out.tr.ctx.timerJLength = nist.ctx.timerJLength)
    (hJ : out.tr.state = .nistCompleted → out.tr.ctx.timerJStart.Armed) : NistTimed out.tr where
  timerJLength _ := hJlength ▸ h.timerJLength hlive
  timerJ := hJ

theorem nist_execute_timed (evt : Event) (io : Io) (h : NistTimed nist) :
    NistTimed (osipTransactionExecute nist evt io).tr := by
  apply nist_execute_cases (P := fun handler => NistTimed (handler io).tr)
  case rcvRequest =>
    intro hstate _
    have hlive : nist.state ≠ .nistTerminated := by
      rcases hstate with hstate | hstate | hstate <;> simp [hstate]
    unfold nistRcvRequest
    split_ifs
    · apply h.frame hlive <;> simp
    · apply sndXxxOrError_cases (P := fun out => NistTimed out.tr)
      · exact .terminated rfl
      · exact fun _ _ _ => .terminated rfl
      · intro host port _
        exact h.frame hlive rfl h.timerJ
    · exact h.frame hlive rfl h.timerJ
  case snd1xx =>
    intro hstate _
    have hlive : nist.state ≠ .nistTerminated := by
      rcases hstate with hstate | hstate <;> simp [hstate]
    unfold nistSnd1xx
    apply sndXxxOrError_cases (P := fun out => NistTimed out.tr)
    · exact .terminated rfl
    · exact fun _ _ _ => .terminated rfl
    · intro host port _
      apply h.frame hlive <;> simp
  case snd23456xx =>
    intro hstate _
    have hlive : nist.state ≠ .nistTerminated ∧ nist.state ≠ .nistCompleted := by
      rcases hstate with hstate | hstate <;> simp [hstate]
    have hlength := h.timerJLength hlive.1
    unfold nistSnd23456xx
    apply sndXxxOrError_cases (P := fun out => NistTimed out.tr)
    · exact .terminated rfl
    · exact fun _ _ _ => .terminated rfl
    · intro host port _
      apply h.frame hlive.1 <;> simp [hlive.2, Nist.startTimerJ, Instant.after_armed, hlength]
  case timeoutJ => exact fun _ _ => .terminated rfl
  case useless => exact fun _ => h
  case freed => exact fun _ => h

theorem nist_init_timed {proto : Str} (hctx : nist.ctx = Nist.initial proto)
    (hstate : nist.state = .nistPreTrying) : NistTimed nist where
  timerJLength _ := by
    simp only [hctx, Nist.initial]
    split <;> decide
  timerJ h := by simp [hstate] at h

end Nist

theorem except_map_eq_ok {ε α β : Type} {f : α → β} {x : Except ε α} {b : β}
    (h : x.map f = .ok b) : ∃ a, x = .ok a ∧ f a = b := by
  cases x with
  | error e => cases h
  | ok a => exact ⟨a, rfl, Except.ok.inj h⟩

/-- A state that some run of `osip_transaction_execute` reaches from the transaction
`tr₀` that `osip_transaction_init` returned. -/
structure ReachedFrom {κ : Type} [StateMachine κ] (tr₀ tr : Transaction κ) : Prop where
  created : ∃ io transactionid outSocket request,
    osipTransactionInit κ io transactionid outSocket request = .ok tr₀
  run : ∃ inputs, (runTransaction tr₀ inputs).1 = tr

theorem ReachedFrom.ict_timed {tr₀ tr : Transaction Ict} (h : ReachedFrom tr₀ tr) :
    tr₀.ctx.timerBStart.Armed ∧ IctTimed tr₀.ctx.timerBStart tr := by
  obtain ⟨⟨io, transactionid, outSocket, request, hinit⟩, inputs, rfl⟩ := h
  obtain ⟨invite, -, hctx, hstate, -⟩ := osipTransactionInit_eq_ok hinit
  obtain ⟨proto, -, hctx⟩ := except_map_eq_ok hctx
  refine ⟨?_, Machine.run_invariant executeStep
    (fun _ input => ict_execute_timed input.2 input.1) inputs (ict_init_timed hctx.symm hstate)⟩
  rw [← hctx]
  exact Instant.after_armed _ (by decide)

theorem ReachedFrom.nict_timed {tr₀ tr : Transaction Nict} (h : ReachedFrom tr₀ tr) :
    tr₀.ctx.timerFStart.Armed ∧ NictTimed tr₀.ctx.timerFStart tr := by
  obtain ⟨⟨io, transactionid, outSocket, request, hinit⟩, inputs, rfl⟩ := h
  obtain ⟨msg, -, hctx, hstate, -⟩ := osipTransactionInit_eq_ok hinit
  obtain ⟨proto, -, hctx⟩ := except_map_eq_ok hctx
  refine ⟨?_, Machine.run_invariant executeStep
    (fun _ input => nict_execute_timed input.2 input.1) inputs
    (nict_init_timed hctx.symm hstate)⟩
  rw [← hctx]
  exact Instant.after_armed _ (by decide)

theorem ReachedFrom.ist_timed {tr₀ tr : Transaction Ist} (h : ReachedFrom tr₀ tr) :
    IstTimed tr := by
  obtain ⟨⟨io, transactionid, outSocket, request, hinit⟩, inputs, rfl⟩ := h
  obtain ⟨msg, -, hctx, hstate, -⟩ := osipTransactionInit_eq_ok hinit
  obtain ⟨proto, -, hctx⟩ := except_map_eq_ok hctx
  exact Machine.run_invariant executeStep
    (fun _ input => ist_execute_timed input.2 input.1) inputs (ist_init_timed hctx.symm hstate)

theorem ReachedFrom.nist_timed {tr₀ tr : Transaction Nist} (h : ReachedFrom tr₀ tr) :
    NistTimed tr := by
  obtain ⟨⟨io, transactionid, outSocket, request, hinit⟩, inputs, rfl⟩ := h
  obtain ⟨msg, -, hctx, hstate, -⟩ := osipTransactionInit_eq_ok hinit
  obtain ⟨proto, -, hctx⟩ := except_map_eq_ok hctx
  exact Machine.run_invariant executeStep
    (fun _ input => nist_execute_timed input.2 input.1) inputs
    (nist_init_timed hctx.symm hstate)

/-- What must be armed in the states of each kind. The deadlines of the timers B and F
are those of the creation. -/
def IctDeadlines (tr₀ tr : Transaction Ict) : Prop :=
  (tr.state = .ictCalling → tr.ctx.timerBStart = tr₀.ctx.timerBStart ∧
    Deadline tr.ctx.timerBStart
      (osipIctNeedTimerBEvent · tr.ctx tr.state tr.transactionid) .timeoutB tr.transactionid) ∧
  (tr.state = .ictCompleted →
    Deadline tr.ctx.timerDStart
      (osipIctNeedTimerDEvent · tr.ctx tr.state tr.transactionid) .timeoutD tr.transactionid)

def NictDeadlines (tr₀ tr : Transaction Nict) : Prop :=
  (tr.state = .nictTrying ∨ tr.state = .nictProceeding →
    tr.ctx.timerFStart = tr₀.ctx.timerFStart ∧
    Deadline tr.ctx.timerFStart
      (osipNictNeedTimerFEvent · tr.ctx tr.state tr.transactionid) .timeoutF tr.transactionid) ∧
  (tr.state = .nictCompleted →
    Deadline tr.ctx.timerKStart
      (osipNictNeedTimerKEvent · tr.ctx tr.state tr.transactionid) .timeoutK tr.transactionid)

def IstDeadlines (tr : Transaction Ist) : Prop :=
  (tr.state = .istCompleted →
    Deadline tr.ctx.timerHStart
      (osipIstNeedTimerHEvent · tr.ctx tr.state tr.transactionid) .timeoutH tr.transactionid) ∧
  (tr.state = .istConfirmed →
    Deadline tr.ctx.timerIStart
      (osipIstNeedTimerIEvent · tr.ctx tr.state tr.transactionid) .timeoutI tr.transactionid)

def NistDeadlines (tr : Transaction Nist) : Prop :=
  tr.state = .nistCompleted →
    Deadline tr.ctx.timerJStart
      (osipNistNeedTimerJEvent · tr.ctx tr.state tr.transactionid) .timeoutJ tr.transactionid

theorem Deadline.of_armed {timer : Timeval} {condState : Bool} {transactionid : Int}
    {timeout : EventType} (hstate : condState = true) (harmed : timer.Armed) :
    Deadline timer (needTimerXEvent · timer condState transactionid timeout) timeout
      transactionid where
  armed := harmed
  fires _ hlate := needTimerXEvent_of_armed hstate harmed hlate

/-- No transaction is without a deadline, in any state that a run reaches. -/
theorem reachedFrom_deadlines :
    (∀ tr₀ tr : Transaction Ict, ReachedFrom tr₀ tr → IctDeadlines tr₀ tr) ∧
    (∀ tr₀ tr : Transaction Nict, ReachedFrom tr₀ tr → NictDeadlines tr₀ tr) ∧
    (∀ tr₀ tr : Transaction Ist, ReachedFrom tr₀ tr → IstDeadlines tr) ∧
    (∀ tr₀ tr : Transaction Nist, ReachedFrom tr₀ tr → NistDeadlines tr) := by
  refine ⟨?ict, ?nict, ?ist, ?nist⟩
  case ict =>
    intro tr₀ tr h
    obtain ⟨harmed, htimed⟩ := h.ict_timed
    constructor
    · intro hstate
      have hB := htimed.timerB (by simp [hstate])
      exact ⟨hB, .of_armed (decide_eq_true hstate) (hB ▸ harmed)⟩
    · intro hstate
      exact .of_armed (decide_eq_true hstate) (htimed.timerD hstate)
  case nict =>
    intro tr₀ tr h
    obtain ⟨harmed, htimed⟩ := h.nict_timed
    constructor
    · intro hstate
      have hF := htimed.timerF (by rcases hstate with hstate | hstate <;> simp [hstate])
      exact ⟨hF, .of_armed (decide_eq_true hstate.symm) (hF ▸ harmed)⟩
    · intro hstate
      exact .of_armed (decide_eq_true hstate) (htimed.timerK hstate)
  case ist =>
    intro tr₀ tr h
    constructor
    · intro hstate
      exact .of_armed (decide_eq_true hstate) (h.ist_timed.timerH hstate)
    · intro hstate
      exact .of_armed (decide_eq_true hstate) (h.ist_timed.timerI hstate)
  case nist =>
    intro tr₀ tr h hstate
    exact .of_armed (decide_eq_true hstate) (h.nist_timed.timerJ hstate)

section Examples

def connected : Io where
  sendResult := 0
  gettimeofday _ := Instant.ofUsecs 1000000
  mallocOk := true
  systemTime := 1

def bobUri : Uri where
  scheme := some "sip".toList
  username := some "bob".toList
  password := none
  host := some "192.0.2.4".toList
  port := none
  urlParams := []
  urlHeaders := []
  string := none

def inviteOverTcp : Message :=
  { Message.init with
    sipVersion := some "SIP/2.0".toList
    reqUri := some bobUri
    sipMethod := some "INVITE".toList
    callId := some ⟨some "a84b4c76e66710".toList, none⟩
    cseq := some ⟨some "INVITE".toList, some "1".toList⟩
    fromHeader := some ⟨none, some bobUri, [⟨"tag".toList, some "1928301774".toList⟩]⟩
    toHeader := some ⟨none, some bobUri, []⟩
    vias := [⟨some "2.0".toList, some "TCP".toList, some "192.0.2.1".toList, none, none,
      [⟨"branch".toList, some "z9hG4bK776asdhds".toList⟩]⟩] }

def busyHere : Message :=
  { inviteOverTcp with sipMethod := none, reqUri := none, statusCode := 486 }

/-- A server that has answered 486 is waiting for the ACK, or for timer H. -/
theorem reachedFrom_deadlines_busyHere :
    ∃ ist₀ ist : Transaction Ist,
      osipTransactionInit Ist connected 0 0 (some inviteOverTcp) = .ok ist₀ ∧
        ist.state = .istCompleted ∧ IstDeadlines ist := by
  refine ⟨_, _, rfl, ?_, reachedFrom_deadlines.2.2.1 _ _ ⟨⟨connected, 0, 0,
    some inviteOverTcp, rfl⟩, [(connected, ⟨.rcvReqinvite, 0, some inviteOverTcp⟩),
      (connected, ⟨.sndStatus3456xx, 0, some busyHere⟩)], rfl⟩⟩
  rfl

end Examples
end Exosip
