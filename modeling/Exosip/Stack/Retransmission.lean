import Exosip.Stack.Fifo

/-! Timer E over a reliable transport. The handler stops the timer when the request was
sent, but a second timeout that was already waiting in the fifo starts it again. -/
namespace Exosip

namespace Effect

/-- The result of a call of `cb_send_message`; a non-INVITE client only sends its request. -/
def sendResult : Effect → Option Int
  | sendMessage _ _ _ _ result => some result
  | messageCallback .. | transportErrorCallback .. | killTransactionCallback _
  | messageFree _ => none

@[simp] theorem sendResult_sendMessage (sip : Option Message) (host : Option Str)
    (port outSocket result : Int) :
    (sendMessage sip host port outSocket result).sendResult = some result := rfl
@[simp] theorem sendResult_messageCallback (type : MessageCallbackType) (sip : Option Message) :
    (messageCallback type sip).sendResult = none := rfl
@[simp] theorem sendResult_killTransactionCallback (type : KillCallbackType) :
    (killTransactionCallback type).sendResult = none := rfl
@[simp] theorem sendResult_transportErrorCallback (type : TransportErrorCallbackType)
    (error : Int) : (transportErrorCallback type error).sendResult = none := rfl
theorem sendResult_freed (sip : Option Message) :
    ∀ effect ∈ freed sip, effect.sendResult = none := by
  cases sip <;> simp [freed, sendResult]

/-- Once a send has returned 0 nothing is sent again. -/
def NoSendAfterSuccess (trace : List Effect) : Prop :=
  trace.Pairwise fun effect effect' =>
    effect.sendResult = some 0 → ¬ effect'.sendResult.isSome = true

instance (trace : List Effect) : Decidable (NoSendAfterSuccess trace) :=
  inferInstanceAs (Decidable (trace.Pairwise _))

end Effect

/-- The top Via of the request names TCP, TLS or SCTP. -/
def OverReliable (sip : Option Message) : Prop :=
  ∃ via proto, Message.getVia sip 0 = .ok via ∧ via.protocol = some proto ∧
    isReliableProtocol proto = true

def pendingTimeoutE (nict : Transaction Nict) : Nat :=
  nict.transactionff.countP fun se => se.type = .timeoutE

theorem pendingTimeoutE_fifoAdd (nict : Transaction Nict) (evt : Event) :
    pendingTimeoutE (nict.fifoAdd evt) =
      pendingTimeoutE nict + if evt.type = .timeoutE then 1 else 0 := by
  simp [pendingTimeoutE, Transaction.fifoAdd, List.countP_append, List.countP_cons]

theorem pendingTimeoutE_add {nict : Transaction Nict} {evt : Event}
    (h : evt.type.isTimeout = false) :
    pendingTimeoutE (osipTransactionAddEvent nict evt) = pendingTimeoutE nict := by
  have hne : evt.type ≠ .timeoutE := by
    intro htype
    simp [htype, EventType.isTimeout] at h
  simp [osipTransactionAddEvent, pendingTimeoutE_fifoAdd, hne]

theorem pendingTimeoutE_pop {nict : Transaction Nict} {se : Event} {rest : List Event}
    (h : nict.transactionff = se :: rest) :
    pendingTimeoutE nict =
      pendingTimeoutE { nict with transactionff := rest } +
        if se.type = .timeoutE then 1 else 0 := by
  simp [pendingTimeoutE, h, List.countP_cons]

def SendsReliably (_nict : Transaction Nict) : Action → Prop
  | .addEvent evt => evt.1.type = .sndRequest → OverReliable evt.1.sip
  | .timersExecute _ | .execute _ => True

def NoSecondTimeoutE (nict : Transaction Nict) : Action → Prop
  | .timersExecute clock =>
      0 < pendingTimeoutE nict →
        ∀ evt, TimedMachine.timerEvent clock nict = some evt → evt.type ≠ .timeoutE
  | .addEvent _ | .execute _ => True

/-- The request was not sent yet, and at most one timeout is waiting. -/
structure Unsent (nict : Transaction Nict) : Prop where
  once : pendingTimeoutE nict ≤ 1
  fresh : nict.state = .nictPreTrying → pendingTimeoutE nict = 0
  queued : ∀ se ∈ nict.transactionff, se.type = .sndRequest → OverReliable se.sip
  request : nict.state ≠ .nictPreTrying → OverReliable nict.origRequest

/-- The request was sent: timer E is stopped, and no timeout is waiting that could
start it again. -/
structure Settled (nict : Transaction Nict) : Prop where
  sent : nict.state ≠ .nictPreTrying
  stopped : nict.state = .nictTrying ∨ nict.state = .nictProceeding →
    nict.ctx.timerELength = -1 ∧ nict.ctx.timerEStart.tvSec = -1 ∧ pendingTimeoutE nict = 0

theorem nict_execute_settled {nict : Transaction Nict} {evt : Event} (h : Settled nict)
    (hevt : nict.state = .nictTrying ∨ nict.state = .nictProceeding → evt.type ≠ .timeoutE)
    (io : Io) :
    Settled (osipTransactionExecute nict evt io).tr ∧
      ∀ effect ∈ (osipTransactionExecute nict evt io).trace, effect.sendResult = none := by
  apply nict_execute_cases (P := fun handler =>
    Settled (handler io).tr ∧ ∀ effect ∈ (handler io).trace, effect.sendResult = none)
  case sndRequest => exact fun hstate _ => absurd hstate h.sent
  case timeoutE => exact fun hstate htype => absurd htype (hevt hstate)
  case timeoutF =>
    intro _ _
    exact ⟨⟨by simp [osipNictTimeoutFEvent], by simp [osipNictTimeoutFEvent]⟩, by simp [osipNictTimeoutFEvent]⟩
  case rcv1xx =>
    intro hstate _
    obtain ⟨hlength, hstart, hfifo⟩ := h.stopped hstate
    have hslow : nict.ctx.slowTimerE io = nict.ctx := by simp [Nict.slowTimerE, hlength]
    refine ⟨⟨by simp [nictRcv1xx], fun _ => ⟨?_, ?_, hfifo⟩⟩, ?_⟩
    · simpa [nictRcv1xx, hslow] using hlength
    · simpa [nictRcv1xx, hslow] using hstart
    · simpa [nictRcv1xx, or_imp, forall_and] using Effect.sendResult_freed _
  case rcv23456xx =>
    intro _ _
    refine ⟨⟨by simp [nictRcv23456xx], by simp [nictRcv23456xx]⟩, ?_⟩
    simpa [nictRcv23456xx, or_imp, forall_and] using Effect.sendResult_freed _
  case timeoutK =>
    intro _ _
    exact ⟨⟨by simp [osipNictTimeoutKEvent], by simp [osipNictTimeoutKEvent]⟩, by simp [osipNictTimeoutKEvent]⟩
  case useless => exact fun _ => ⟨h, by simp⟩
  case freed => exact fun _ => ⟨h, by simpa using Effect.sendResult_freed _⟩

/-- What a step makes of a transaction whose request was not sent yet. -/
structure UnsentStep (tr : Transaction Nict) (trace : List Effect) : Prop where
  single : Effect.NoSendAfterSuccess trace
  success : (∃ effect ∈ trace, effect.sendResult = some 0) → Settled tr
  other : (∀ effect ∈ trace, ¬ effect.sendResult = some 0) → Unsent tr

theorem UnsentStep.silent {tr : Transaction Nict} {trace : List Effect}
    (hsilent : ∀ effect ∈ trace, effect.sendResult = none) (h : Unsent tr) :
    UnsentStep tr trace where
  single := List.pairwise_iff_forall_sublist.2 fun {a b} hsub hsent => by
    have ha := hsilent a (hsub.subset (by simp))
    rw [ha] at hsent
    cases hsent
  success := by
    rintro ⟨effect, hmem, hsent⟩
    rw [hsilent effect hmem] at hsent
    cases hsent
  other _ := h

theorem UnsentStep.sent {tr : Transaction Nict} {sip : Option Message} {host : Option Str}
    {port outSocket result : Int} {rest : List Effect}
    (hrest : ∀ effect ∈ rest, effect.sendResult = none)
    (hsettled : result = 0 → Settled tr) (hunsent : result ≠ 0 → Unsent tr) :
    UnsentStep tr (.sendMessage sip host port outSocket result :: rest) where
  single := by
    refine List.pairwise_cons.2 ⟨fun effect hmem _ => by simp [hrest effect hmem], ?_⟩
    refine List.pairwise_iff_forall_sublist.2 fun {a b} hsub hsent => ?_
    rw [hrest a (hsub.subset (by simp))] at hsent
    cases hsent
  success := by
    rintro ⟨effect, hmem, hsent⟩
    rcases List.mem_cons.1 hmem with rfl | hmem
    · exact hsettled (by simpa using hsent)
    · rw [hrest effect hmem] at hsent
      cases hsent
  other hnone := hunsent fun hzero =>
    hnone _ List.mem_cons_self (by rw [Effect.sendResult_sendMessage, hzero])

theorem Unsent.frame {nict tr : Transaction Nict} (h : Unsent nict)
    (hfifo : tr.transactionff = nict.transactionff) (hstate : tr.state ≠ .nictPreTrying)
    (horig : OverReliable tr.origRequest) : Unsent tr where
  once := by
    rw [pendingTimeoutE, hfifo]
    exact h.once
  fresh hpre := absurd hpre hstate
  queued := by
    rw [hfifo]
    exact h.queued
  request _ := horig

theorem nictWithProtocol_of_reliable {io : Io} {out : Outcome Nict} {k : Str → Outcome Nict}
    {proto : Str} {via : Via} (hvia : Message.getVia out.tr.origRequest 0 = .ok via)
    (hproto : via.protocol = some proto) : nictWithProtocol io out k = k proto := by
  simp [nictWithProtocol, hvia, hproto]

theorem nict_execute_unsent {nict : Transaction Nict} {evt : Event} (h : Unsent nict)
    (hrequest : evt.type = .sndRequest → OverReliable evt.sip)
    (hfifo : evt.type = .timeoutE → pendingTimeoutE nict = 0) (io : Io) :
    UnsentStep (osipTransactionExecute nict evt io).tr
      (osipTransactionExecute nict evt io).trace := by
  apply nict_execute_cases (P := fun handler => UnsentStep (handler io).tr (handler io).trace)
  case sndRequest =>
    intro hstate htype
    obtain ⟨via, proto, hvia, hproto, hreliable⟩ := hrequest htype
    have hfresh := h.fresh hstate
    have horig : OverReliable evt.sip := hrequest htype
    unfold nictSndRequest
    split_ifs with hneg
    · apply UnsentStep.sent
      · simp
      · intro hzero
        omega
      · intro _
        exact h.frame rfl (by simp) horig
    · rw [nictWithProtocol_of_reliable hvia hproto]
      apply UnsentStep.sent
      · simp
      · intro hzero
        refine ⟨by simp, fun _ => ⟨?_, ?_, hfresh⟩⟩
        · simp [Nict.sndRequestTimerE, hreliable, hzero, Nict.stopTimerE]
        · simp [Nict.sndRequestTimerE, hreliable, hzero, Nict.stopTimerE]
      · intro _
        exact h.frame rfl (by simp) horig
  case timeoutE =>
    intro hstate htype
    have hlive : nict.state ≠ .nictPreTrying := by
      rcases hstate with hstate | hstate <;> simp [hstate]
    have horig := h.request hlive
    obtain ⟨via, proto, hvia, hproto, hreliable⟩ := horig
    unfold osipNictTimeoutEEvent
    split_ifs with hneg hzero
    · apply UnsentStep.sent
      · simp
      · intro hzero
        omega
      · intro _
        exact h.frame rfl (by simp) (h.request hlive)
    · rw [nictWithProtocol_of_reliable hvia hproto, if_pos hreliable]
      apply UnsentStep.sent
      · simp
      · intro _
        exact ⟨hlive, fun _ => ⟨rfl, rfl, hfifo htype⟩⟩
      · exact fun hne => absurd hzero hne
    · apply UnsentStep.sent
      · simp
      · exact fun h => absurd h hzero
      · intro _
        exact h.frame rfl hlive (h.request hlive)
  case timeoutF =>
    intro hstate _
    have hlive : nict.state ≠ .nictPreTrying := by
      rcases hstate with hstate | hstate <;> simp [hstate]
    apply UnsentStep.silent
    · simp [osipNictTimeoutFEvent]
    · exact h.frame rfl (by simp [osipNictTimeoutFEvent]) (h.request hlive)
  case rcv1xx =>
    intro hstate _
    have hlive : nict.state ≠ .nictPreTrying := by
      rcases hstate with hstate | hstate <;> simp [hstate]
    apply UnsentStep.silent
    · simpa [nictRcv1xx, or_imp, forall_and] using Effect.sendResult_freed _
    · exact h.frame rfl (by simp [nictRcv1xx]) (h.request hlive)
  case rcv23456xx =>
    intro hstate _
    have hlive : nict.state ≠ .nictPreTrying := by
      rcases hstate with hstate | hstate <;> simp [hstate]
    apply UnsentStep.silent
    · simpa [nictRcv23456xx, or_imp, forall_and] using Effect.sendResult_freed _
    · exact h.frame rfl (by simp [nictRcv23456xx]) (h.request hlive)
  case timeoutK =>
    intro hstate _
    apply UnsentStep.silent
    · simp [osipNictTimeoutKEvent]
    · exact h.frame rfl (by simp [osipNictTimeoutKEvent]) (h.request (by simp [hstate]))
  case useless => exact fun _ => .silent (by simp) h
  case freed => exact fun _ => .silent (by simpa using Effect.sendResult_freed _) h

theorem nict_timerEvent_eq_some {nict : Transaction Nict} {clock : Clock} {evt : Event}
    (hevt : TimedMachine.timerEvent clock nict = some evt) :
    evt.type = .timeoutK ∨ evt.type = .timeoutF ∨
      evt.type = .timeoutE ∧ (nict.state = .nictProceeding ∨ nict.state = .nictTrying) ∧
        nict.ctx.timerEStart.Armed := by
  simp only [TimedMachine.timerEvent, Option.orElse_eq_orElse, Option.orElse_eq_or,
    Option.or_eq_some_iff] at hevt
  rcases hevt with hevt | ⟨-, hevt | ⟨-, hevt⟩⟩
  · exact .inl (by rw [(needTimerXEvent_eq_some hevt).2.2])
  · exact .inr (.inl (by rw [(needTimerXEvent_eq_some hevt).2.2]))
  · obtain ⟨hstate, harmed, rfl⟩ := needTimerXEvent_eq_some hevt
    exact .inr (.inr ⟨rfl, of_decide_eq_true hstate, harmed⟩)

theorem fifoStep_settled {nict : Transaction Nict} {action : Action} (h : Settled nict) :
    Settled (fifoStep nict action).1 ∧
      ∀ effect ∈ (fifoStep nict action).2, ¬ effect.sendResult.isSome = true := by
  apply fifoStep_cases (P := fun next =>
    Settled next.1 ∧ ∀ effect ∈ next.2, ¬ effect.sendResult.isSome = true)
  case timer =>
    intro clock evt _ hevt
    have hne : evt.type ≠ .timeoutE := by
      rcases nict_timerEvent_eq_some hevt with htype | htype | ⟨-, hstate, harmed⟩
      · simp [htype]
      · simp [htype]
      · exact absurd (h.stopped hstate.symm).2.1 harmed
    refine ⟨⟨h.sent, fun hstate => ?_⟩, by simp⟩
    obtain ⟨hlength, hstart, hfifo⟩ := h.stopped hstate
    exact ⟨hlength, hstart, by rw [pendingTimeoutE_fifoAdd, hfifo, if_neg hne]⟩
  case execute =>
    intro io se rest _ hfifo
    have hpop := pendingTimeoutE_pop hfifo
    have hsettled : Settled { nict with transactionff := rest } := by
      refine ⟨h.sent, fun hstate => ?_⟩
      obtain ⟨hlength, hstart, hzero⟩ := h.stopped hstate
      exact ⟨hlength, hstart, by omega⟩
    have hevt : nict.state = .nictTrying ∨ nict.state = .nictProceeding → se.type ≠ .timeoutE := by
      intro hstate htype
      have hzero := (h.stopped hstate).2.2
      rw [if_pos htype] at hpop
      omega
    have hnext := nict_execute_settled hsettled hevt io
    exact ⟨hnext.1, fun effect hmem => by simp [hnext.2 effect hmem]⟩
  case add =>
    intro evt _
    refine ⟨⟨h.sent, fun hstate => ?_⟩, by simp⟩
    obtain ⟨hlength, hstart, hzero⟩ := h.stopped hstate
    exact ⟨hlength, hstart, by rw [pendingTimeoutE_add evt.2, hzero]⟩
  case idle => exact ⟨h, by simp⟩

theorem fifoStep_unsent {nict : Transaction Nict} {action : Action}
    (hreliable : SendsReliably nict action) (hsecond : NoSecondTimeoutE nict action)
    (h : Unsent nict) : UnsentStep (fifoStep nict action).1 (fifoStep nict action).2 := by
  apply fifoStep_cases (P := fun next => UnsentStep next.1 next.2)
  case timer =>
    rintro clock evt rfl hevt
    refine UnsentStep.silent (by simp) (?_ : Unsent (nict.fifoAdd evt))
    have hcount := pendingTimeoutE_fifoAdd nict evt
    refine ⟨?once, ?fresh, ?queued, h.request⟩
    case once =>
      have honce := h.once
      by_cases hzero : pendingTimeoutE nict = 0
      · split at hcount <;> omega
      · have hne := hsecond (by omega) evt hevt
        rw [hcount, if_neg hne]
        exact honce
    case fresh =>
      intro hpre
      have hne : evt.type ≠ .timeoutE := by
        rcases nict_timerEvent_eq_some hevt with htype | htype | ⟨-, hstate | hstate, -⟩
        · simp [htype]
        · simp [htype]
        · exact absurd (hpre.symm.trans hstate) nofun
        · exact absurd (hpre.symm.trans hstate) nofun
      rw [hcount, if_neg hne]
      exact h.fresh hpre
    case queued =>
      intro se hmem htype
      rcases List.mem_append.1 hmem with hmem | hmem
      · exact h.queued se hmem htype
      · rw [List.mem_singleton.1 hmem] at htype
        rcases nict_timerEvent_eq_some hevt with hevt | hevt | ⟨hevt, -⟩ <;> simp [hevt] at htype
  case execute =>
    intro io se rest _ hfifo
    have hpop := pendingTimeoutE_pop hfifo
    have honce := h.once
    have hunsent : Unsent { nict with transactionff := rest } := by
      refine ⟨by omega, fun hpre => ?_, fun se' hmem => ?_, h.request⟩
      · have := h.fresh hpre
        omega
      · exact h.queued se' (by rw [hfifo]; exact List.mem_cons_of_mem _ hmem)
    refine nict_execute_unsent hunsent (h.queued se (by rw [hfifo]; exact List.mem_cons_self)) ?_ io
    intro htype
    rw [if_pos htype] at hpop
    omega
  case add =>
    rintro evt rfl
    refine UnsentStep.silent (by simp) (?_ : Unsent (osipTransactionAddEvent nict evt.1))
    have hpending : pendingTimeoutE (osipTransactionAddEvent nict evt.1) = pendingTimeoutE nict :=
      pendingTimeoutE_add evt.2
    refine ⟨hpending ▸ h.once, fun hpre => hpending ▸ h.fresh hpre, ?_, h.request⟩
    intro se hmem htype
    rcases List.mem_append.1 hmem with hmem | hmem
    · exact h.queued se hmem htype
    · rw [List.mem_singleton.1 hmem] at htype ⊢
      exact hreliable htype
  case idle => exact .silent (by simp) h

/-- The actions of a run in which no timeout is queued twice. -/
def ReliableRun (nict : Transaction Nict) (actions : List Action) : Prop :=
  Machine.Guarded fifoStep (fun tr action => SendsReliably tr action ∧ NoSecondTimeoutE tr action)
    nict actions

/-- Over a reliable transport a request that was sent once is never sent again, in every
interleaving in which no timer pass adds a TIMEOUT_E to one that is still waiting. -/
theorem nict_request_not_retransmitted {io : Io} {transactionid outSocket : Int}
    {request : Option Message} {nict : Transaction Nict} {actions : List Action}
    (hinit : osipTransactionInit Nict io transactionid outSocket request = .ok nict)
    (hrun : ReliableRun nict actions) :
    Effect.NoSendAfterSuccess (Machine.run fifoStep nict actions).2 := by
  obtain ⟨msg, -, -, hstate, hfifo, -⟩ := osipTransactionInit_eq_ok hinit
  have hpending : pendingTimeoutE nict = 0 := by simp [pendingTimeoutE, hfifo]
  have hunsent : Unsent nict :=
    ⟨by omega, fun _ => hpending, by simp [hfifo], fun hpre => absurd hstate hpre⟩
  exact Machine.guarded_quiet_after fifoStep
    (fun tr action hallowed h =>
      have hstep := fifoStep_unsent hallowed.1 hallowed.2 h
      ⟨hstep.single, hstep.success, hstep.other⟩)
    (fun tr action _ h => fifoStep_settled h) hrun hunsent

section Examples

/-- The clock at `n` seconds, and the answer of `cb_send_message`. -/
def atSecond (n : Nat) (sendResult : Int) : Io where
  sendResult
  gettimeofday _ := Instant.ofUsecs (1000000 * n)
  mallocOk := true
  systemTime := n

def registrarUri : Uri where
  scheme := some "sip".toList
  username := none
  password := none
  host := some "192.0.2.4".toList
  port := none
  urlParams := []
  urlHeaders := []
  string := none

def registerOverTcp : Message :=
  { Message.init with
    sipVersion := some "SIP/2.0".toList
    reqUri := some registrarUri
    sipMethod := some "REGISTER".toList
    callId := some ⟨some "843817637684230".toList, none⟩
    cseq := some ⟨some "REGISTER".toList, some "1826".toList⟩
    fromHeader := some ⟨none, some registrarUri, [⟨"tag".toList, some "456248".toList⟩]⟩
    toHeader := some ⟨none, some registrarUri, []⟩
    vias := [⟨some "2.0".toList, some "TCP".toList, some "192.0.2.1".toList, none, none,
      [⟨"branch".toList, some "z9hG4bKnashds7".toList⟩]⟩] }

def sndRegister : Action :=
  .addEvent ⟨⟨.sndRequest, 0, some registerOverTcp⟩, rfl⟩

def oneTimeout : List Action :=
  [sndRegister, .execute (atSecond 1 1), .timersExecute (atSecond 2 0).gettimeofday,
    .execute (atSecond 2 0)]

theorem overReliable_registerOverTcp : OverReliable (some registerOverTcp) :=
  ⟨_, _, rfl, rfl, rfl⟩

/-- One timeout after the other keeps the promise. -/
theorem nict_request_not_retransmitted_oneTimeout :
    ∃ nict : Transaction Nict,
      osipTransactionInit Nict (atSecond 1 0) 0 0 (some registerOverTcp) = .ok nict ∧
        Effect.NoSendAfterSuccess (Machine.run fifoStep nict oneTimeout).2 := by
  refine ⟨_, rfl, ?_⟩
  refine nict_request_not_retransmitted
    (rfl : osipTransactionInit Nict (atSecond 1 0) 0 0 (some registerOverTcp) = .ok _) ?_
  refine ⟨⟨fun _ => overReliable_registerOverTcp, trivial⟩, ⟨trivial, trivial⟩,
    ⟨trivial, fun hpending => ?_⟩, ⟨trivial, trivial⟩, trivial⟩
  exact absurd hpending (by decide)

/-- Two timer passes before the execute pass: the request is sent, and sent again by the
second of the two timeouts. -/
theorem nict_request_retransmitted_twoTimeouts :
    ∃ nict : Transaction Nict,
      osipTransactionInit Nict (atSecond 1 0) 0 0 (some registerOverTcp) = .ok nict ∧
        OverReliable (some registerOverTcp) ∧
        ¬ Effect.NoSendAfterSuccess (Machine.run fifoStep nict
          [sndRegister, .execute (atSecond 1 1),
            .timersExecute (atSecond 2 0).gettimeofday,
            .timersExecute (atSecond 2 0).gettimeofday,
            .execute (atSecond 2 0), .execute (atSecond 2 0)]).2 := by
  refine ⟨_, rfl, overReliable_registerOverTcp, ?_⟩
  decide

end Examples
end Exosip
