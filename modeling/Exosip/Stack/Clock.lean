import Exosip.Stack.Fifo

/-! The starts of all timers stay normalised times. For the timers A and G this needs the
fifo: a timeout of a stopped timer would start it with a negative delay, and is never
queued. -/
namespace Exosip

section Ict

/-- The starts are normalised, and timer A is armed only with a positive length. -/
structure Ict.ClockOk (ctx : Ict) : Prop where
  timerA : ctx.timerAStart.Normalised
  timerB : ctx.timerBStart.Normalised
  timerD : ctx.timerDStart.Normalised
  running : ctx.timerAStart.Armed → 0 < ctx.timerALength

variable {ict : Transaction Ict} {evt : Event}

theorem Ict.ClockOk.stopTimerA {ctx : Ict} (h : ctx.ClockOk) : ctx.stopTimerA.ClockOk where
  timerA := h.timerA
  timerB := h.timerB
  timerD := h.timerD
  running harmed := absurd rfl harmed

theorem Ict.ClockOk.setAckDestination {ctx : Ict} (h : ctx.ClockOk) (io : Io) (ack : Message) :
    (ctx.setAckDestination io ack).ClockOk := by
  unfold Ict.setAckDestination
  split
  · exact h
  · exact ⟨h.timerA, h.timerB, h.timerD, h.running⟩

theorem ict_execute_clockOk (h : ict.ctx.ClockOk)
    (hlength : ict.state ≠ .ictTerminated → 0 ≤ ict.ctx.timerDLength)
    (htimeout : evt.type = .timeoutA → 0 < ict.ctx.timerALength) (io : Io) :
    (osipTransactionExecute ict evt io).tr.ctx.ClockOk := by
  apply ict_execute_cases (P := fun handler => (handler io).tr.ctx.ClockOk)
  case sndInvite =>
    intro _ _
    unfold ictSndInvite
    split_ifs
    · exact h
    · apply ictRequestSent_cases (P := fun out => out.tr.ctx.ClockOk)
      · exact fun _ => h
      · exact h.stopTimerA
      · exact h
    · exact h
  case timeoutA =>
    intro _ htype
    have hpos : 0 < ict.ctx.timerALength * 2 := by
      have := htimeout htype
      omega
    have hnext : Ict.ClockOk { ict.ctx with
        timerALength := ict.ctx.timerALength * 2
        timerAStart := (io.gettimeofday 0).after (ict.ctx.timerALength * 2) } :=
      ⟨Instant.after_normalised _ hpos.le, h.timerB, h.timerD, fun _ => hpos⟩
    unfold osipIctTimeoutAEvent
    split_ifs
    · exact hnext
    · apply ictRequestSent_cases (P := fun out => out.tr.ctx.ClockOk)
      · exact fun _ => hnext
      · exact hnext.stopTimerA
      · exact hnext
    · exact hnext
  case timeoutB => exact fun _ _ => ⟨h.timerA, h.timerB, h.timerD, h.running⟩
  case rcv1xx => exact fun _ _ => h
  case rcv2xx => exact fun _ _ => h
  case rcv3456xx =>
    intro hstate _
    have hlive : ict.state ≠ .ictTerminated ∧ ict.state ≠ .ictCompleted := by
      rcases hstate with hstate | hstate <;> simp [hstate]
    unfold ictRcv3456xx
    simp only [hlive.2, ne_eq, not_false_eq_true, if_true]
    cases ictCreateAck io ict evt.sip with
    | none => exact h
    | some ack =>
        have hrouted := h.setAckDestination io ack
        simp only
        split_ifs
        · refine ⟨hrouted.timerA, hrouted.timerB, ?_, hrouted.running⟩
          exact Instant.after_normalised _ (by simpa using hlength hlive.1)
        · exact hrouted
  case retransmitAck =>
    intro _ _
    unfold ictRetransmitAck
    split_ifs <;> exact h
  case timeoutD => exact fun _ _ => ⟨h.timerA, h.timerB, h.timerD, h.running⟩
  case useless => exact fun _ => h
  case freed => exact fun _ => h

/-- A waiting TIMEOUT_A is the first event of the fifo, and timer A still runs. -/
structure IctFifo (deadline : Timeval) (ict : Transaction Ict) : Prop where
  timed : IctTimed deadline ict
  clock : ict.ctx.ClockOk
  first : ∀ se rest, ict.transactionff = se :: rest →
    (se.type = .timeoutA → 0 < ict.ctx.timerALength) ∧ ∀ evt ∈ rest, evt.type ≠ .timeoutA

theorem fifoStep_ictFifo {deadline : Timeval} {action : Action} (h : IctFifo deadline ict) :
    IctFifo deadline (fifoStep ict action).1 := by
  apply fifoStep_cases (P := fun next => IctFifo deadline next.1)
  case timer =>
    intro clock evt _ hevt
    simp only [TimedMachine.timerEvent] at hevt
    split_ifs at hevt with hempty
    have hnil : ict.transactionff = [] := List.length_eq_zero_iff.1 (by omega)
    refine ⟨⟨h.timed.timerB, h.timed.timerDLength, h.timed.timerD⟩, h.clock, ?_⟩
    intro se rest hfifo
    simp only [Transaction.fifoAdd, hnil, List.nil_append, List.cons.injEq] at hfifo
    obtain ⟨rfl, rfl⟩ := hfifo
    refine ⟨fun htype => ?_, by simp⟩
    simp only [Option.orElse_eq_orElse, Option.orElse_eq_or, Option.or_eq_some_iff] at hevt
    rcases hevt with hevt | ⟨-, hevt | ⟨-, hevt⟩⟩
    · simp [(needTimerXEvent_eq_some hevt).2.2] at htype
    · exact h.clock.running (needTimerXEvent_eq_some hevt).2.1
    · simp [(needTimerXEvent_eq_some hevt).2.2] at htype
  case execute =>
    intro io se rest _ hfifo
    obtain ⟨hfirst, hrest⟩ := h.first se rest hfifo
    have htimed : IctTimed deadline { ict with transactionff := rest } :=
      ⟨h.timed.timerB, h.timed.timerDLength, h.timed.timerD⟩
    have hclock : Ict.ClockOk ({ ict with transactionff := rest } : Transaction Ict).ctx :=
      h.clock
    refine ⟨ict_execute_timed se io htimed,
      ict_execute_clockOk hclock htimed.timerDLength hfirst io, ?_⟩
    have hkeep := Transaction.identity_transactionff
      (ict_execute_identity { ict with transactionff := rest } se io)
    intro se' rest' hfifo'
    rw [hkeep] at hfifo'
    dsimp only at hfifo'
    subst hfifo'
    exact ⟨fun htype => absurd htype (hrest se' List.mem_cons_self),
      fun evt hmem => hrest evt (List.mem_cons_of_mem _ hmem)⟩
  case add =>
    intro evt _
    refine ⟨⟨h.timed.timerB, h.timed.timerDLength, h.timed.timerD⟩, h.clock, ?_⟩
    have hne : evt.1.type ≠ .timeoutA := by
      intro htype
      have := evt.2
      simp [htype, EventType.isTimeout] at this
    intro se rest hfifo
    cases hff : ict.transactionff with
    | nil =>
        simp only [osipTransactionAddEvent, Transaction.fifoAdd, hff, List.nil_append,
          List.cons.injEq] at hfifo
        obtain ⟨rfl, rfl⟩ := hfifo
        exact ⟨fun htype => absurd htype hne, by simp⟩
    | cons first others =>
        simp only [osipTransactionAddEvent, Transaction.fifoAdd, hff, List.cons_append,
          List.cons.injEq] at hfifo
        obtain ⟨rfl, rfl⟩ := hfifo
        obtain ⟨hfirst, hrest⟩ := h.first first others hff
        refine ⟨hfirst, fun evt' hmem => ?_⟩
        rcases List.mem_append.1 hmem with hmem | hmem
        · exact hrest evt' hmem
        · rw [List.mem_singleton.1 hmem]
          exact hne
  case idle => exact h

theorem FifoReached.ict_clockOk (h : FifoReached ict) : ict.ctx.ClockOk := by
  obtain ⟨io, transactionid, outSocket, request, ict₀, actions, hinit, rfl⟩ := h
  obtain ⟨invite, -, hctx, hstate, hfifo, -⟩ := osipTransactionInit_eq_ok hinit
  obtain ⟨proto, -, hctx⟩ := except_map_eq_ok hctx
  have hclock : ict₀.ctx.ClockOk := by
    rw [← hctx]
    exact ⟨Instant.after_normalised _ (by decide), Instant.after_normalised _ (by decide),
      Timeval.zero_normalised, fun _ => (by decide : (0 : Int) < defaultT1)⟩
  have hinitial : IctFifo ict₀.ctx.timerBStart ict₀ :=
    ⟨ict_init_timed hctx.symm hstate, hclock, by simp [hfifo]⟩
  exact (Machine.run_invariant fifoStep (fun _ _ => fifoStep_ictFifo) actions hinitial).clock

end Ict

section Nict

structure Nict.ClockOk (ctx : Nict) : Prop where
  timerE : ctx.timerEStart.Normalised
  timerF : ctx.timerFStart.Normalised
  timerK : ctx.timerKStart.Normalised
  timerELength : -1 ≤ ctx.timerELength

variable {nict : Transaction Nict}

theorem nextTimerELength_pos (state : State) {timerELength : Int} (h : -1 ≤ timerELength) :
    0 < nextTimerELength state timerELength := by
  simp only [nextTimerELength, defaultT1, defaultT2, defaultT1TcpProgress]
  split_ifs <;> omega

theorem Nict.ClockOk.stopTimerE {ctx : Nict} (h : ctx.ClockOk) : ctx.stopTimerE.ClockOk :=
  ⟨h.timerE, h.timerF, h.timerK, le_refl _⟩

theorem Nict.ClockOk.sndRequestTimerE {ctx : Nict} (h : ctx.ClockOk) (io : Io) (proto : Str) :
    (ctx.sndRequestTimerE io proto).ClockOk := by
  have hstart {ctx : Nict} (h : ctx.ClockOk) : Nict.ClockOk
      (if ctx.timerELength > 0 then
        { ctx with timerEStart := (io.gettimeofday 0).after ctx.timerELength } else ctx) := by
    split_ifs with hpos
    · exact ⟨Instant.after_normalised _ hpos.le, h.timerF, h.timerK, h.timerELength⟩
    · exact h
  simp only [Nict.sndRequestTimerE]
  apply hstart
  split_ifs
  · exact h.stopTimerE
  · exact ⟨h.timerE, h.timerF, h.timerK, (by decide : (-1 : Int) ≤ defaultT1TcpProgress)⟩
  · exact h

theorem Nict.ClockOk.slowTimerE {ctx : Nict} (h : ctx.ClockOk) (io : Io) :
    (ctx.slowTimerE io).ClockOk := by
  unfold Nict.slowTimerE
  split_ifs
  · exact ⟨Instant.after_normalised _ (by decide), h.timerF, h.timerK,
      (by decide : (-1 : Int) ≤ defaultT2)⟩
  · exact h

theorem nict_execute_clockOk (h : nict.ctx.ClockOk)
    (hlength : nict.state ≠ .nictTerminated → 0 ≤ nict.ctx.timerKLength) (evt : Event) (io : Io) :
    (osipTransactionExecute nict evt io).tr.ctx.ClockOk := by
  apply nict_execute_cases (P := fun handler => (handler io).tr.ctx.ClockOk)
  case sndRequest =>
    intro _ _
    unfold nictSndRequest
    split_ifs
    · exact h
    · apply nictWithProtocol_cases (P := fun out => out.tr.ctx.ClockOk)
      · exact h
      · exact fun proto => h.sndRequestTimerE io proto
  case timeoutE =>
    intro _ _
    have hpos := nextTimerELength_pos nict.state h.timerELength
    have hnext : Nict.ClockOk { nict.ctx with
        timerELength := nextTimerELength nict.state nict.ctx.timerELength
        timerEStart := (io.gettimeofday 0).after
          (nextTimerELength nict.state nict.ctx.timerELength) } :=
      ⟨Instant.after_normalised _ hpos.le, h.timerF, h.timerK, by dsimp only; omega⟩
    unfold osipNictTimeoutEEvent
    split_ifs
    · exact hnext
    · apply nictWithProtocol_cases (P := fun out => out.tr.ctx.ClockOk)
      · exact hnext
      · intro proto
        split_ifs
        · exact hnext.stopTimerE
        · exact hnext
    · exact hnext
  case timeoutF => exact fun _ _ => ⟨h.timerE, h.timerF, h.timerK, h.timerELength⟩
  case rcv1xx => exact fun _ _ => h.slowTimerE io
  case rcv23456xx =>
    intro hstate _
    have hlive : nict.state ≠ .nictTerminated ∧ nict.state ≠ .nictCompleted := by
      rcases hstate with hstate | hstate <;> simp [hstate]
    have hstart : (nict.ctx.startTimerK io).ClockOk :=
      ⟨h.timerE, h.timerF, Instant.after_normalised _ (hlength hlive.1), h.timerELength⟩
    simpa [nictRcv23456xx, hlive.2] using hstart
  case timeoutK => exact fun _ _ => ⟨h.timerE, h.timerF, h.timerK, h.timerELength⟩
  case useless => exact fun _ => h
  case freed => exact fun _ => h

theorem FifoReached.nict_clockOk (h : FifoReached nict) : nict.ctx.ClockOk := by
  obtain ⟨io, transactionid, outSocket, request, nict₀, actions, hinit, rfl⟩ := h
  obtain ⟨msg, -, hctx, hstate, -⟩ := osipTransactionInit_eq_ok hinit
  obtain ⟨proto, -, hctx⟩ := except_map_eq_ok hctx
  have hclock : nict₀.ctx.ClockOk := by
    rw [← hctx]
    exact ⟨Timeval.zero_normalised, Instant.after_normalised _ (by decide),
      Timeval.zero_normalised, (by decide : (-1 : Int) ≤ defaultT1)⟩
  refine (fifo_run_invariant
    (I := fun tr => NictTimed nict₀.ctx.timerFStart tr ∧ tr.ctx.ClockOk) ?_ ?_ actions
    ⟨nict_init_timed hctx.symm hstate, hclock⟩).2
  · exact fun tr fifo h => ⟨⟨h.1.timerF, h.1.timerKLength, h.1.timerK⟩, h.2⟩
  · exact fun tr evt io h =>
      ⟨nict_execute_timed evt io h.1, nict_execute_clockOk h.2 h.1.timerKLength evt io⟩

end Nict
section Ist

/-- Timer G is either unused or runs with a positive length. -/
structure Ist.ClockOk (ctx : Ist) : Prop where
  timerG : ctx.timerGStart.Normalised
  timerH : ctx.timerHStart.Normalised
  timerI : ctx.timerIStart.Normalised
  timerGLength : ctx.timerGLength = -1 ∨ 0 < ctx.timerGLength
  running : ctx.timerGStart.Armed → 0 < ctx.timerGLength

variable {ist : Transaction Ist} {evt : Event}

theorem ist_execute_clockOk (h : ist.ctx.ClockOk)
    (hlength : ist.state ≠ .istTerminated →
      0 ≤ ist.ctx.timerHLength ∧ 0 ≤ ist.ctx.timerILength)
    (htimeout : evt.type = .timeoutG → 0 < ist.ctx.timerGLength) (io : Io) :
    (osipTransactionExecute ist evt io).tr.ctx.ClockOk ∧
      (0 < ist.ctx.timerGLength →
        0 < (osipTransactionExecute ist evt io).tr.ctx.timerGLength) := by
  apply ist_execute_cases (P := fun handler => (handler io).tr.ctx.ClockOk ∧
    (0 < ist.ctx.timerGLength → 0 < (handler io).tr.ctx.timerGLength))
  case rcvInvite =>
    intro _ _
    unfold istRcvInvite
    split_ifs
    · exact ⟨h, id⟩
    · apply sndXxxOrError_cases (P := fun out : Outcome Ist => out.tr.ctx.ClockOk ∧
        (0 < ist.ctx.timerGLength → 0 < out.tr.ctx.timerGLength))
      · exact ⟨h, id⟩
      · exact fun _ _ _ => ⟨h, id⟩
      · exact fun _ _ _ => ⟨h, id⟩
    · exact ⟨h, id⟩
  case timeoutG =>
    intro _ htype
    have hpos : 0 < (if ist.ctx.timerGLength * 2 > defaultT2 then defaultT2
        else ist.ctx.timerGLength * 2) := by
      have hused := htimeout htype
      have hT2 : (0 : Int) < defaultT2 := by decide
      split_ifs <;> omega
    have hnext : Ist.ClockOk { ist.ctx with
        timerGLength := if ist.ctx.timerGLength * 2 > defaultT2 then defaultT2
          else ist.ctx.timerGLength * 2
        timerGStart := (io.gettimeofday 0).after (if ist.ctx.timerGLength * 2 > defaultT2 then
          defaultT2 else ist.ctx.timerGLength * 2) } :=
      ⟨Instant.after_normalised _ hpos.le, h.timerH, h.timerI, .inr hpos, fun _ => hpos⟩
    unfold osipIstTimeoutGEvent
    apply sndXxxOrError_cases (P := fun out : Outcome Ist => out.tr.ctx.ClockOk ∧
      (0 < ist.ctx.timerGLength → 0 < out.tr.ctx.timerGLength))
    · exact ⟨hnext, fun _ => hpos⟩
    · exact fun _ _ _ => ⟨hnext, fun _ => hpos⟩
    · exact fun _ _ _ => ⟨hnext, fun _ => hpos⟩
  case timeoutH =>
    exact fun _ _ => ⟨⟨h.timerG, h.timerH, h.timerI, h.timerGLength, h.running⟩, id⟩
  case snd1xx =>
    intro _ _
    unfold istSnd1xx
    apply sndXxxOrError_cases (P := fun out : Outcome Ist => out.tr.ctx.ClockOk ∧
      (0 < ist.ctx.timerGLength → 0 < out.tr.ctx.timerGLength))
    · exact ⟨h, id⟩
    · exact fun _ _ _ => ⟨h, id⟩
    · exact fun _ _ _ => ⟨h, id⟩
  case snd2xx =>
    intro _ _
    unfold istSnd2xx
    apply sndXxxOrError_cases (P := fun out : Outcome Ist => out.tr.ctx.ClockOk ∧
      (0 < ist.ctx.timerGLength → 0 < out.tr.ctx.timerGLength))
    · exact ⟨h, id⟩
    · exact fun _ _ _ => ⟨h, id⟩
    · exact fun _ _ _ => ⟨h, id⟩
  case snd3456xx =>
    intro hstate _
    have hH := (hlength (by simp [hstate])).1
    have hnext : (ist.ctx.startTimersGH io).ClockOk := by
      refine ⟨?_, Instant.after_normalised _ hH, h.timerI, h.timerGLength, ?_⟩
      · simp only [Ist.startTimersGH]
        split_ifs with hused
        · exact Instant.after_normalised _ ((h.timerGLength.resolve_left hused).le)
        · exact h.timerG
      · simp only [Ist.startTimersGH]
        split_ifs with hused
        · exact fun _ => h.timerGLength.resolve_left hused
        · exact h.running
    unfold istSnd3456xx
    apply sndXxxOrError_cases (P := fun out : Outcome Ist => out.tr.ctx.ClockOk ∧
      (0 < ist.ctx.timerGLength → 0 < out.tr.ctx.timerGLength))
    · exact ⟨h, id⟩
    · exact fun _ _ _ => ⟨h, id⟩
    · exact fun _ _ _ => ⟨hnext, id⟩
  case rcvAck =>
    intro hstate _
    have hI : 0 ≤ ist.ctx.timerILength := by
      refine (hlength ?_).2
      rcases hstate with hstate | hstate <;> simp [hstate]
    exact ⟨⟨h.timerG, h.timerH, Instant.after_normalised _ hI, h.timerGLength, h.running⟩, id⟩
  case timeoutI =>
    exact fun _ _ => ⟨⟨h.timerG, h.timerH, h.timerI, h.timerGLength, h.running⟩, id⟩
  case useless => exact fun _ => ⟨h, id⟩
  case freed => exact fun _ => ⟨h, id⟩

/-- Where a TIMEOUT_G is waiting, timer G is used. -/
structure IstFifo (ist : Transaction Ist) : Prop where
  timed : IstTimed ist
  clock : ist.ctx.ClockOk
  used : ∀ se ∈ ist.transactionff, se.type = .timeoutG → 0 < ist.ctx.timerGLength

theorem fifoStep_istFifo {action : Action} (h : IstFifo ist) :
    IstFifo (fifoStep ist action).1 := by
  apply fifoStep_cases (P := fun next => IstFifo next.1)
  case timer =>
    intro clock evt _ hevt
    refine ⟨⟨h.timed.lengths, h.timed.timerH, h.timed.timerI⟩, h.clock, ?_⟩
    intro se hmem htype
    rcases List.mem_append.1 hmem with hmem | hmem
    · exact h.used se hmem htype
    · rw [List.mem_singleton.1 hmem] at htype
      simp only [TimedMachine.timerEvent, Option.orElse_eq_orElse, Option.orElse_eq_or,
        Option.or_eq_some_iff] at hevt
      rcases hevt with hevt | ⟨-, hevt | ⟨-, hevt⟩⟩
      · simp [(needTimerXEvent_eq_some hevt).2.2] at htype
      · simp [(needTimerXEvent_eq_some hevt).2.2] at htype
      · exact h.clock.running (needTimerXEvent_eq_some hevt).2.1
  case execute =>
    intro io se rest _ hfifo
    have htimed : IstTimed { ist with transactionff := rest } :=
      ⟨h.timed.lengths, h.timed.timerH, h.timed.timerI⟩
    have hclock : Ist.ClockOk ({ ist with transactionff := rest } : Transaction Ist).ctx :=
      h.clock
    have hnext := ist_execute_clockOk hclock htimed.lengths
      (h.used se (by rw [hfifo]; exact List.mem_cons_self)) io
    have hkeep := Transaction.identity_transactionff
      (ist_execute_identity { ist with transactionff := rest } se io)
    refine ⟨ist_execute_timed se io htimed, hnext.1, fun se' hmem htype => ?_⟩
    rw [hkeep] at hmem
    exact hnext.2 (h.used se' (by rw [hfifo]; exact List.mem_cons_of_mem _ hmem) htype)
  case add =>
    intro evt _
    refine ⟨⟨h.timed.lengths, h.timed.timerH, h.timed.timerI⟩, h.clock, ?_⟩
    intro se hmem htype
    rcases List.mem_append.1 hmem with hmem | hmem
    · exact h.used se hmem htype
    · have hadded := evt.2
      rw [List.mem_singleton.1 hmem] at htype
      dsimp only at htype
      simp [htype, EventType.isTimeout] at hadded
  case idle => exact h

theorem FifoReached.ist_clockOk (h : FifoReached ist) : ist.ctx.ClockOk := by
  obtain ⟨io, transactionid, outSocket, request, ist₀, actions, hinit, rfl⟩ := h
  obtain ⟨invite, -, hctx, hstate, hfifo, -⟩ := osipTransactionInit_eq_ok hinit
  obtain ⟨proto, -, hctx⟩ := except_map_eq_ok hctx
  have hclock : ist₀.ctx.ClockOk := by
    rw [← hctx]
    refine ⟨Timeval.zero_normalised, Timeval.zero_normalised, Timeval.zero_normalised, ?_,
      fun harmed => absurd rfl harmed⟩
    simp only [Ist.initial]
    split_ifs
    · exact .inl rfl
    · exact .inr (by decide)
  have hinitial : IstFifo ist₀ :=
    ⟨ist_init_timed hctx.symm hstate, hclock, by simp [hfifo]⟩
  exact (Machine.run_invariant fifoStep (fun _ _ => fifoStep_istFifo) actions hinitial).clock

end Ist

section Nist

variable {nist : Transaction Nist}

theorem nist_execute_clockOk (h : nist.ctx.timerJStart.Normalised)
    (hlength : nist.state ≠ .nistTerminated → 0 ≤ nist.ctx.timerJLength) (evt : Event) (io : Io) :
    (osipTransactionExecute nist evt io).tr.ctx.timerJStart.Normalised := by
  apply nist_execute_cases (P := fun handler => (handler io).tr.ctx.timerJStart.Normalised)
  case rcvRequest =>
    intro _ _
    unfold nistRcvRequest
    split_ifs
    · exact h
    · apply sndXxxOrError_cases (P := fun out : Outcome Nist => out.tr.ctx.timerJStart.Normalised)
      · exact h
      · exact fun _ _ _ => h
      · exact fun _ _ _ => h
    · exact h
  case snd1xx =>
    intro _ _
    unfold nistSnd1xx
    apply sndXxxOrError_cases (P := fun out : Outcome Nist => out.tr.ctx.timerJStart.Normalised)
    · exact h
    · exact fun _ _ _ => h
    · exact fun _ _ _ => h
  case snd23456xx =>
    intro hstate _
    have hlive : nist.state ≠ .nistTerminated ∧ nist.state ≠ .nistCompleted := by
      rcases hstate with hstate | hstate <;> simp [hstate]
    have hstart : (nist.ctx.startTimerJ io).timerJStart.Normalised :=
      Instant.after_normalised _ (hlength hlive.1)
    unfold nistSnd23456xx
    apply sndXxxOrError_cases (P := fun out : Outcome Nist => out.tr.ctx.timerJStart.Normalised)
    · exact h
    · exact fun _ _ _ => h
    · intro host port _
      simpa [hlive.2] using hstart
  case timeoutJ => exact fun _ _ => h
  case useless => exact fun _ => h
  case freed => exact fun _ => h

theorem FifoReached.nist_clockOk (h : FifoReached nist) :
    nist.ctx.timerJStart.Normalised := by
  obtain ⟨io, transactionid, outSocket, request, nist₀, actions, hinit, rfl⟩ := h
  obtain ⟨msg, -, hctx, hstate, -⟩ := osipTransactionInit_eq_ok hinit
  obtain ⟨proto, -, hctx⟩ := except_map_eq_ok hctx
  have hclock : nist₀.ctx.timerJStart.Normalised := by
    rw [← hctx]
    exact Timeval.zero_normalised
  refine (fifo_run_invariant
    (I := fun tr => NistTimed tr ∧ tr.ctx.timerJStart.Normalised) ?_ ?_ actions
    ⟨nist_init_timed hctx.symm hstate, hclock⟩).2
  · exact fun tr fifo h => ⟨⟨h.1.timerJLength, h.1.timerJ⟩, h.2⟩
  · exact fun tr evt io h =>
      ⟨nist_execute_timed evt io h.1, nist_execute_clockOk h.2 h.1.timerJLength evt io⟩

end Nist
end Exosip
