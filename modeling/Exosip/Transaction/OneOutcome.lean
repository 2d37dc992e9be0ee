import Exosip.Machine.Commit
import Exosip.Transaction.Lifecycle
import Exosip.Transaction.Pending

/-! What a transaction tells its user: a client transaction notices one outcome and a
transport error as its last word, a server transaction sends one final response. -/
namespace Exosip

/-- What a client transaction notices through its message and transport callbacks. -/
inductive Notice where
  | provisional | final | timeout | repeated | transportError
  deriving DecidableEq, Repr

/-- The notices of the message callbacks; the others speak of what was sent. -/
def MessageCallbackType.notice : MessageCallbackType → Option Notice
  | ictStatus1xxReceived | nictStatus1xxReceived => some .provisional
  | ictStatus2xxReceived | ictStatus3xxReceived | ictStatus4xxReceived | ictStatus5xxReceived
  | ictStatus6xxReceived
  | nictStatus2xxReceived | nictStatus3xxReceived | nictStatus4xxReceived
  | nictStatus5xxReceived | nictStatus6xxReceived => some .final
  | ictStatusTimeout | nictStatusTimeout => some .timeout
  | ictStatus2xxReceivedAgain | ictStatus3456xxReceivedAgain
  | nictStatus2xxReceivedAgain | nictStatus3456xxReceivedAgain => some .repeated
  | _ => none

namespace Effect

def notice : Effect → Option Notice
  | messageCallback type _ => type.notice
  | transportErrorCallback .. => some .transportError
  | sendMessage .. | killTransactionCallback _ | messageFree _ => none

def transmission : Effect → Option (Option Message)
  | sendMessage sip .. => some sip
  | _ => none

@[simp] theorem filterMap_notice_freed (sip : Option Message) :
    (freed sip).filterMap notice = [] := by
  cases sip <;> rfl

@[simp] theorem filterMap_transmission_freed (sip : Option Message) :
    (freed sip).filterMap transmission = [] := by
  cases sip <;> rfl

end Effect

variable {κ : Type}

namespace Outcome

def notices (out : Outcome κ) : List Notice := out.trace.filterMap Effect.notice

def transmissions (out : Outcome κ) : List (Option Message) :=
  out.trace.filterMap Effect.transmission

section Projections

variable (out : Outcome κ) (tr : Transaction κ) (io : Io) (sip : Option Message)

@[simp] theorem notices_start : (start tr).notices = [] := rfl
@[simp] theorem notices_assign (f : Transaction κ → Transaction κ) :
    (out.assign f).notices = out.notices := rfl
@[simp] theorem notices_setCtx (f : κ → κ) : (out.setCtx f).notices = out.notices := rfl
@[simp] theorem notices_setState (state : State) :
    (out.setState state).notices = out.notices := rfl
@[simp] theorem notices_cbSendMessage (host : Option Str) (port : Int) :
    (out.cbSendMessage io sip host port).notices = out.notices := by
  simp [notices, Effect.notice]
@[simp] theorem notices_messageCallback (type : MessageCallbackType) :
    (out.messageCallback type sip).notices = out.notices ++ type.notice.toList := by
  cases h : type.notice <;> simp [notices, Effect.notice, h]
@[simp] theorem notices_messageFree : (out.messageFree sip).notices = out.notices := by
  simp [notices]
@[simp] theorem notices_replaceLastResponse :
    (out.replaceLastResponse sip).notices = out.notices := by
  simp [notices]
@[simp] theorem notices_terminate (terminated : State) (kill : KillCallbackType) :
    (out.terminate io terminated kill).notices = out.notices := by
  simp [notices, Effect.notice]
@[simp] theorem notices_handleTransportError (type : TransportErrorCallbackType)
    (terminated : State) (kill : KillCallbackType) (err : Int) :
    (handleTransportError type terminated kill io out err).notices =
      out.notices ++ [.transportError] := by
  simp [notices, Effect.notice]

@[simp] theorem transmissions_start : (start tr).transmissions = [] := rfl
@[simp] theorem transmissions_assign (f : Transaction κ → Transaction κ) :
    (out.assign f).transmissions = out.transmissions := rfl
@[simp] theorem transmissions_setCtx (f : κ → κ) :
    (out.setCtx f).transmissions = out.transmissions := rfl
@[simp] theorem transmissions_setState (state : State) :
    (out.setState state).transmissions = out.transmissions := rfl
@[simp] theorem transmissions_cbSendMessage (host : Option Str) (port : Int) :
    (out.cbSendMessage io sip host port).transmissions = out.transmissions ++ [sip] := by
  simp [transmissions, Effect.transmission]
@[simp] theorem transmissions_messageCallback (type : MessageCallbackType) :
    (out.messageCallback type sip).transmissions = out.transmissions := by
  simp [transmissions, Effect.transmission]
@[simp] theorem transmissions_messageFree :
    (out.messageFree sip).transmissions = out.transmissions := by
  simp [transmissions]
@[simp] theorem transmissions_replaceLastResponse :
    (out.replaceLastResponse sip).transmissions = out.transmissions := by
  simp [transmissions]
@[simp] theorem transmissions_terminate (terminated : State) (kill : KillCallbackType) :
    (out.terminate io terminated kill).transmissions = out.transmissions := by
  simp [transmissions, Effect.transmission]
@[simp] theorem transmissions_handleTransportError (type : TransportErrorCallbackType)
    (terminated : State) (kill : KillCallbackType) (err : Int) :
    (handleTransportError type terminated kill io out err).transmissions =
      out.transmissions := by
  simp [transmissions, Effect.transmission]

end Projections
end Outcome

namespace Notice

def IsOutcome (notice : Notice) : Prop := notice = final ∨ notice = timeout

/-- Responses and the timeout that takes the place of one. -/
def IsAnswer (notice : Notice) : Prop := notice ≠ transportError

/-- `later` may come after `earlier` in the notices of one transaction. -/
def MayPrecede (earlier later : Notice) : Prop :=
  (earlier.IsOutcome → ¬ later.IsOutcome ∧ later ≠ provisional) ∧ earlier ≠ transportError

instance (notice : Notice) : Decidable notice.IsOutcome :=
  inferInstanceAs (Decidable (_ ∨ _))

end Notice

/-- A transaction that is completed, confirmed or terminated. -/
def State.Late (state : State) : Prop := 3 ≤ state.phase

instance (state : State) : Decidable state.Late := inferInstanceAs (Decidable (_ ≤ _))

/-- The notices of one execution: at most one, and what it says about the states. -/
inductive Notifies (terminated : State) (tr : Transaction κ) (out : Outcome κ) : Prop where
  | silent (h : out.notices = [])
  | provisional (early : ¬ tr.state.Late) (h : out.notices = [.provisional])
  | outcome (notice : Notice) (is : notice.IsOutcome) (early : ¬ tr.state.Late)
      (late : out.tr.state.Late) (h : out.notices = [notice])
  | repeated (alive : tr.state ≠ terminated) (h : out.notices = [.repeated])
  | transportError (alive : tr.state ≠ terminated) (ended : out.tr.state = terminated)
      (h : out.notices = [.transportError] ∨ out.notices = [.repeated, .transportError])


theorem Notifies.start {terminated : State} {tr : Transaction κ} :
    Notifies terminated tr (.start tr) := .silent rfl

theorem Notifies.freed {terminated : State} {tr : Transaction κ} (sip : Option Message) :
    Notifies terminated tr ((Outcome.start tr).messageFree sip) :=
  .silent (by simp)

theorem Notifies.error {terminated : State} {tr : Transaction κ} {out : Outcome κ}
    (alive : tr.state ≠ terminated) (h : out.notices = [])
    {type : TransportErrorCallbackType} {kill : KillCallbackType} {io : Io} {err : Int} :
    Notifies terminated tr (Outcome.handleTransportError type terminated kill io out err) := by
  apply Notifies.transportError alive
  · simp
  · left
    simp [h]

theorem ictStatusReceived_notice (sip : Option Message) :
    (ictStatusReceived sip).notice = some .final := by
  unfold ictStatusReceived
  split_ifs <;> rfl

theorem nictStatusReceived_notice (evt : Event) :
    (nictStatusReceived evt).notice = some .final := by
  unfold nictStatusReceived
  split_ifs <;> rfl

theorem nictRequestSent_notice (sip : Option Message) : (nictRequestSent sip).notice = none := by
  unfold nictRequestSent
  split_ifs <;> rfl

theorem ict_execute_notices (ict : Transaction Ict) (evt : Event) (io : Io) :
    Notifies .ictTerminated ict (osipTransactionExecute ict evt io) := by
  apply ict_execute_cases (P := fun handler => Notifies .ictTerminated ict (handler io))
  case sndInvite =>
    intro h _
    have halive : ict.state ≠ .ictTerminated := by simp [h]
    unfold ictSndInvite
    split_ifs
    · exact .error halive (by simp)
    · apply ictRequestSent_cases
      · exact fun err => .error halive (by simp)
      · exact .silent rfl
      · exact .silent rfl
    · exact .silent rfl
  case timeoutA =>
    intro h _
    have halive : ict.state ≠ .ictTerminated := by simp [h]
    unfold osipIctTimeoutAEvent
    split_ifs
    · exact .error halive (by simp)
    · apply ictRequestSent_cases
      · exact fun err => .error halive (by simp)
      · exact .silent rfl
      · exact .silent rfl
    · exact .silent rfl
  case timeoutB =>
    intro h _
    apply Notifies.outcome .timeout (.inr rfl)
    · simp [h, State.Late, State.phase]
    · simp [osipIctTimeoutBEvent, State.Late, State.phase]
    · simp [osipIctTimeoutBEvent, MessageCallbackType.notice]
  case rcv1xx =>
    intro h _
    apply Notifies.provisional
    · rcases h with h | h <;> simp [h, State.Late, State.phase]
    · simp [ictRcv1xx, MessageCallbackType.notice]
  case rcv2xx =>
    intro h _
    apply Notifies.outcome .final (.inl rfl)
    · rcases h with h | h <;> simp [h, State.Late, State.phase]
    · simp [ictRcv2xx, State.Late, State.phase]
    · simp [ictRcv2xx, MessageCallbackType.notice]
  case rcv3456xx =>
    intro h _
    have hstate : ict.state ≠ .ictCompleted := by rcases h with h | h <;> simp [h]
    have halive : ict.state ≠ .ictTerminated := by rcases h with h | h <;> simp [h]
    have hearly : ¬ ict.state.Late := by rcases h with h | h <;> simp [h, State.Late, State.phase]
    unfold ictRcv3456xx
    cases ictCreateAck io ict evt.sip with
    | none => exact .silent (by simp [hstate])
    | some ack =>
        simp only [hstate, ne_eq, not_false_eq_true, if_true]
        split_ifs
        · apply Notifies.outcome .final (.inl rfl) hearly
          · simp [State.Late, State.phase]
          · have hack : MessageCallbackType.ictAckSent.notice = none := rfl
            simp [ictStatusReceived_notice, hack]
        · exact .error halive (by simp)
  case retransmitAck =>
    intro h _
    have halive : ict.state ≠ .ictTerminated := by simp [h]
    unfold ictRetransmitAck
    split_ifs
    · exact .repeated halive (by simp [MessageCallbackType.notice])
    · apply Notifies.transportError halive
      · simp
      · right
        simp [MessageCallbackType.notice]
  case timeoutD => exact fun _ _ => .silent rfl
  case useless => exact fun _ => .start
  case freed => exact fun _ => .freed _

theorem nict_execute_notices (nict : Transaction Nict) (evt : Event) (io : Io) :
    Notifies .nictTerminated nict (osipTransactionExecute nict evt io) := by
  apply nict_execute_cases (P := fun handler => Notifies .nictTerminated nict (handler io))
  case sndRequest =>
    intro h _
    have halive : nict.state ≠ .nictTerminated := by simp [h]
    unfold nictSndRequest
    split_ifs
    · exact .error halive (by simp)
    · apply nictWithProtocol_cases
      · exact .error halive (by simp [nictRequestSent_notice])
      · exact fun proto => .silent (by simp [nictRequestSent_notice])
  case timeoutE =>
    intro h _
    have halive : nict.state ≠ .nictTerminated := by rcases h with h | h <;> simp [h]
    unfold osipNictTimeoutEEvent
    split_ifs
    · exact .error halive (by simp)
    · apply nictWithProtocol_cases
      · exact .error halive (by simp)
      · intro proto
        split_ifs <;> exact .silent (by simp [MessageCallbackType.notice])
    · exact .silent (by simp)
  case timeoutF =>
    intro h _
    apply Notifies.outcome .timeout (.inr rfl)
    · rcases h with h | h <;> simp [h, State.Late, State.phase]
    · simp [osipNictTimeoutFEvent, State.Late, State.phase]
    · simp [osipNictTimeoutFEvent, MessageCallbackType.notice]
  case rcv1xx =>
    intro h _
    apply Notifies.provisional
    · rcases h with h | h <;> simp [h, State.Late, State.phase]
    · simp [nictRcv1xx, MessageCallbackType.notice]
  case rcv23456xx =>
    intro h _
    apply Notifies.outcome .final (.inl rfl)
    · rcases h with h | h <;> simp [h, State.Late, State.phase]
    · simp [nictRcv23456xx, State.Late, State.phase]
    · simp [nictRcv23456xx, nictStatusReceived_notice]
  case timeoutK => exact fun _ _ => .silent (by simp [osipNictTimeoutKEvent])
  case useless => exact fun _ => .start
  case freed => exact fun _ => .freed _

/-- What the notices so far say about the state of a client transaction. -/
structure Told (terminated state : State) (notices : List Notice) : Prop where
  order : notices.Pairwise Notice.MayPrecede
  late : ∀ notice ∈ notices, notice.IsOutcome → state.Late
  ended : .transportError ∈ notices → state = terminated

namespace Told

variable {terminated state : State} {notices : List Notice}

theorem forward (h : Told terminated state notices) {next : State}
    (hlate : state.Late → next.Late) (hended : state = terminated → next = terminated) :
    Told terminated next notices where
  order := h.order
  late notice hnotice ho := hlate (h.late notice hnotice ho)
  ended he := hended (h.ended he)

theorem concat (h : Told terminated state notices) {notice : Notice}
    (halive : .transportError ∉ notices)
    (hfirst : notice.IsOutcome ∨ notice = .provisional → ∀ r ∈ notices, ¬ r.IsOutcome)
    (hlate : notice.IsOutcome → state.Late) (hended : notice = .transportError →
      state = terminated) :
    Told terminated state (notices ++ [notice]) where
  order := by
    apply List.pairwise_append.2
    refine ⟨h.order, List.pairwise_singleton _ _, ?_⟩
    intro r hr r' hr'
    rw [List.mem_singleton.1 hr']
    constructor
    · intro ho
      exact ⟨fun ho' => hfirst (.inl ho') r hr ho, fun hp => hfirst (.inr hp) r hr ho⟩
    · exact fun he => halive (he ▸ hr)
  late r hr ho := by
    rcases List.mem_append.1 hr with hr | hr
    · exact h.late r hr ho
    · exact hlate (List.mem_singleton.1 hr ▸ ho)
  ended he := by
    rcases List.mem_append.1 he with he | he
    · exact h.ended he
    · exact hended (List.mem_singleton.1 he).symm

theorem step (hterminated : terminated.Late) {kill : KillCallbackType} {tr : Transaction κ}
    {out : Outcome κ} (h : Told terminated tr.state notices)
    (hadvances : Advances terminated kill tr out) (hnotices : Notifies terminated tr out) :
    Told terminated out.tr.state (notices ++ out.notices) := by
  have hnext : Told terminated out.tr.state notices :=
    h.forward (fun hl => hl.trans hadvances.forward) hadvances.absorbed
  have halive (ha : tr.state ≠ terminated) : .transportError ∉ notices := fun he => ha (h.ended he)
  have hfirst (he : ¬ tr.state.Late) : ∀ r ∈ notices, ¬ r.IsOutcome := fun r hr ho =>
    he (h.late r hr ho)
  have hearly (he : ¬ tr.state.Late) : tr.state ≠ terminated := fun heq => he (heq ▸ hterminated)
  cases hnotices with
  | silent hout => simpa [hout] using hnext
  | provisional early hout =>
      rw [hout]
      apply hnext.concat (halive (hearly early)) fun _ => hfirst early
      · simp [Notice.IsOutcome]
      · simp
  | outcome notice is early late hout =>
      rw [hout]
      apply hnext.concat (halive (hearly early)) (fun _ => hfirst early) fun _ => late
      rintro rfl
      simp [Notice.IsOutcome] at is
  | repeated alive hout =>
      rw [hout]
      apply hnext.concat (halive alive) <;> simp [Notice.IsOutcome]
  | transportError alive ended hout =>
      have herror {rs : List Notice} (hrs : Told terminated out.tr.state rs)
          (hnone : .transportError ∉ rs) :
          Told terminated out.tr.state (rs ++ [.transportError]) := by
        apply hrs.concat hnone _ _ fun _ => ended <;> simp [Notice.IsOutcome]
      rcases hout with hout | hout
      · rw [hout]
        exact herror hnext (halive alive)
      · have hagain : Told terminated out.tr.state (notices ++ [.repeated]) := by
          apply hnext.concat (halive alive) <;> simp [Notice.IsOutcome]
        rw [hout, ← List.singleton_append, ← List.append_assoc]
        exact herror hagain (by simpa using halive alive)

theorem run [StateMachine κ] (hterminated : terminated.Late) {kill : KillCallbackType}
    (hadvances : ∀ (tr : Transaction κ) (evt : Event) (io : Io),
      Advances terminated kill tr (osipTransactionExecute tr evt io))
    (hnotices : ∀ (tr : Transaction κ) (evt : Event) (io : Io),
      Notifies terminated tr (osipTransactionExecute tr evt io))
    (tr : Transaction κ) (inputs : List (Io × Event)) :
    Told terminated (runTransaction tr inputs).1.state
      ((runTransaction tr inputs).2.filterMap Effect.notice) := by
  apply Machine.run_trace_invariant executeStep
    (I := fun tr trace => Told terminated tr.state (trace.filterMap Effect.notice))
  · intro tr trace input h
    rw [List.filterMap_append]
    exact h.step hterminated (hadvances tr input.2 input.1) (hnotices tr input.2 input.1)
  · exact ⟨List.Pairwise.nil, by simp, by simp⟩

end Told

/-- The notices of every run of a client transaction. -/
structure OneOutcome (κ : Type) [StateMachine κ] : Prop where
  once : ∀ (tr : Transaction κ) (inputs : List (Io × Event)),
    ((runTransaction tr inputs).2.filterMap Effect.notice).countP
      (fun notice => decide notice.IsOutcome) ≤ 1
  provisionalBefore : ∀ (tr : Transaction κ) (inputs : List (Io × Event)),
    ((runTransaction tr inputs).2.filterMap Effect.notice).Pairwise fun earlier later =>
      earlier.IsOutcome → later ≠ .provisional
  errorOnce : ∀ (tr : Transaction κ) (inputs : List (Io × Event)),
    ((runTransaction tr inputs).2.filterMap Effect.notice).count .transportError ≤ 1
  errorLast : ∀ (tr : Transaction κ) (inputs : List (Io × Event)),
    ((runTransaction tr inputs).2.filterMap Effect.notice).Pairwise fun earlier later =>
      earlier = .transportError → ¬ later.IsAnswer

theorem OneOutcome.of_steps [StateMachine κ] {terminated : State} (hterminated : terminated.Late)
    {kill : KillCallbackType}
    (hadvances : ∀ (tr : Transaction κ) (evt : Event) (io : Io),
      Advances terminated kill tr (osipTransactionExecute tr evt io))
    (hnotices : ∀ (tr : Transaction κ) (evt : Event) (io : Io),
      Notifies terminated tr (osipTransactionExecute tr evt io)) : OneOutcome κ where
  once tr inputs := by
    apply Machine.countP_le_one_of_pairwise
    apply (Told.run hterminated hadvances hnotices tr inputs).order.imp
    intro earlier later h
    simpa only [decide_eq_true_eq] using fun ho => (h.1 ho).1
  provisionalBefore tr inputs := by
    apply (Told.run hterminated hadvances hnotices tr inputs).order.imp
    exact fun h ho => (h.1 ho).2
  errorOnce tr inputs := by
    apply Machine.countP_le_one_of_pairwise
    apply (Told.run hterminated hadvances hnotices tr inputs).order.imp
    intro earlier later h he
    exact absurd (eq_of_beq he) h.2
  errorLast tr inputs := by
    apply (Told.run hterminated hadvances hnotices tr inputs).order.imp
    exact fun h he => absurd he h.2

def Event.WellTyped (evt : Event) : Prop :=
  ∀ sip ∈ evt.sip, evt.type = evtSetTypeIncomingSipmessage sip ∨
    evt.type = evtSetTypeOutgoingSipmessage sip

def Message.IsFinal (sip : Option Message) : Prop := ∃ msg ∈ sip, 200 ≤ msg.statusCode

/-- What one execution of a server transaction transmits and stores. -/
structure Answers (tr : Transaction κ) (out : Outcome κ) : Prop where
  stored : ∀ sip ∈ out.transmissions, out.tr.lastResponse = sip
  kept : tr.state.Late → out.tr.lastResponse = tr.lastResponse
  pending : ¬ out.tr.state.Late → ¬ Message.IsFinal tr.lastResponse →
    ¬ Message.IsFinal out.tr.lastResponse

namespace Answers

variable {tr : Transaction κ} {out : Outcome κ}

theorem again (hkept : out.tr.lastResponse = tr.lastResponse)
    (hsent : ∀ sip ∈ out.transmissions, tr.lastResponse = sip) : Answers tr out where
  stored sip hsip := hkept.trans (hsent sip hsip)
  kept _ := hkept
  pending _ h := hkept ▸ h

theorem respond (hearly : ¬ tr.state.Late)
    (hsent : ∀ sip ∈ out.transmissions, out.tr.lastResponse = sip)
    (hpending : ¬ out.tr.state.Late → ¬ Message.IsFinal out.tr.lastResponse) :
    Answers tr out where
  stored := hsent
  kept h := absurd h hearly
  pending h _ := hpending h

end Answers

theorem not_isFinal_of_sndStatus1xx {evt : Event} (htyped : evt.WellTyped)
    (htype : evt.type = .sndStatus1xx) : ¬ Message.IsFinal evt.sip := by
  rintro ⟨msg, hmsg, hfinal⟩
  have hnot : msg.isStatus1xx = false := by
    simp only [Message.isStatus1xx, Message.isStatusClass, Bool.and_eq_false_iff,
      decide_eq_false_iff_not]
    omega
  have h := htyped msg hmsg
  rw [htype] at h
  simp only [evtSetTypeIncomingSipmessage, evtSetTypeOutgoingSipmessage, hnot] at h
  grind

theorem ist_execute_answers (ist : Transaction Ist) {evt : Event} (htyped : evt.WellTyped)
    (io : Io) : Answers ist (osipTransactionExecute ist evt io) := by
  apply ist_execute_cases (P := fun handler => Answers ist (handler io))
  case rcvInvite =>
    intro _ _
    unfold istRcvInvite
    split_ifs
    · exact .again rfl (by simp)
    · apply sndXxxOrError_cases
      · exact .again rfl (by simp)
      · exact fun host port _ => .again rfl (by simp)
      · exact fun host port _ => .again rfl (by simp)
    · exact .again rfl (by simp)
  case timeoutG =>
    intro _ _
    unfold osipIstTimeoutGEvent
    apply sndXxxOrError_cases
    · exact .again rfl (by simp)
    · exact fun host port _ => .again rfl (by simp)
    · exact fun host port _ => .again rfl (by simp)
  case timeoutH => exact fun _ _ => .again rfl (by simp [osipIstTimeoutHEvent])
  case snd1xx =>
    intro h htype
    have hearly : ¬ ist.state.Late := by simp [h, State.Late, State.phase]
    have hnot := not_isFinal_of_sndStatus1xx htyped htype
    unfold istSnd1xx
    apply sndXxxOrError_cases
    · exact .respond hearly (by simp) fun _ => hnot
    · exact fun host port _ => .respond hearly (by simp) fun _ => hnot
    · exact fun host port _ => .respond hearly (by simp) fun _ => hnot
  case snd2xx =>
    intro h _
    have hearly : ¬ ist.state.Late := by simp [h, State.Late, State.phase]
    have hlate : State.istTerminated.Late := by simp [State.Late, State.phase]
    unfold istSnd2xx
    apply sndXxxOrError_cases
    · exact .respond hearly (by simp) fun hopen => absurd hlate hopen
    · exact fun host port _ => .respond hearly (by simp) fun hopen => absurd hlate hopen
    · exact fun host port _ => .respond hearly (by simp) fun hopen => absurd hlate hopen
  case snd3456xx =>
    intro h _
    have hearly : ¬ ist.state.Late := by simp [h, State.Late, State.phase]
    have hlate : State.istTerminated.Late := by simp [State.Late, State.phase]
    have hcompleted : State.istCompleted.Late := by simp [State.Late, State.phase]
    unfold istSnd3456xx
    apply sndXxxOrError_cases
    · exact .respond hearly (by simp) fun hopen => absurd hlate hopen
    · exact fun host port _ => .respond hearly (by simp) fun hopen => absurd hlate hopen
    · exact fun host port _ => .respond hearly (by simp) fun hopen => absurd hcompleted hopen
  case rcvAck => exact fun _ _ => .again rfl (by simp [istRcvAck])
  case timeoutI => exact fun _ _ => .again rfl (by simp [osipIstTimeoutIEvent])
  case useless => exact fun _ => .again rfl (by simp)
  case freed => exact fun _ => .again rfl (by simp)

theorem nist_execute_answers (nist : Transaction Nist) {evt : Event} (htyped : evt.WellTyped)
    (io : Io) : Answers nist (osipTransactionExecute nist evt io) := by
  apply nist_execute_cases (P := fun handler => Answers nist (handler io))
  case rcvRequest =>
    intro _ _
    unfold nistRcvRequest
    split_ifs
    · exact .again rfl (by simp)
    · apply sndXxxOrError_cases
      · exact .again rfl (by simp)
      · exact fun host port _ => .again rfl (by simp)
      · exact fun host port _ => .again rfl (by simp)
    · exact .again rfl (by simp)
  case snd1xx =>
    intro h htype
    have hearly : ¬ nist.state.Late := by rcases h with h | h <;> simp [h, State.Late, State.phase]
    have hnot := not_isFinal_of_sndStatus1xx htyped htype
    unfold nistSnd1xx
    apply sndXxxOrError_cases
    · exact .respond hearly (by simp) fun _ => hnot
    · exact fun host port _ => .respond hearly (by simp) fun _ => hnot
    · exact fun host port _ => .respond hearly (by simp) fun _ => hnot
  case snd23456xx =>
    intro h _
    have hearly : ¬ nist.state.Late := by rcases h with h | h <;> simp [h, State.Late, State.phase]
    have hlate : State.nistTerminated.Late := by simp [State.Late, State.phase]
    have hcompleted : State.nistCompleted.Late := by simp [State.Late, State.phase]
    unfold nistSnd23456xx
    apply sndXxxOrError_cases
    · exact .respond hearly (by simp) fun hopen => absurd hlate hopen
    · exact fun host port _ => .respond hearly (by simp) fun hopen => absurd hlate hopen
    · exact fun host port _ => .respond hearly (by simp) fun hopen => absurd hcompleted hopen
  case timeoutJ => exact fun _ _ => .again rfl (by simp [osipNistTimeoutJEvent])
  case useless => exact fun _ => .again rfl (by simp)
  case freed => exact fun _ => .again rfl (by simp)

/-- The transmissions of every run of a server transaction, from its creation. -/
structure OneFinalResponse (κ : Type) [StateMachine κ] : Prop where
  stored : ∀ (io : Io) (transactionid outSocket : Int) (request : Option Message)
    (tr : Transaction κ), osipTransactionInit κ io transactionid outSocket request = .ok tr →
    ∀ inputs : List (Io × Event), (∀ input ∈ inputs, input.2.WellTyped) →
      ∀ effect ∈ (runTransaction tr inputs).2, ∀ sip, effect.transmission = some sip →
        Message.IsFinal sip → (runTransaction tr inputs).1.lastResponse = sip
  onlyAgain : ∀ (io : Io) (transactionid outSocket : Int) (request : Option Message)
    (tr : Transaction κ), osipTransactionInit κ io transactionid outSocket request = .ok tr →
    ∀ inputs : List (Io × Event), (∀ input ∈ inputs, input.2.WellTyped) →
      (runTransaction tr inputs).2.Pairwise fun earlier later =>
        ∀ sip, earlier.transmission = some sip → Message.IsFinal sip →
          ∀ sip', later.transmission = some sip' → sip' = sip

theorem osipTransactionInit_lastResponse [StateMachine κ] {io : Io} {transactionid outSocket : Int}
    {request : Option Message} {tr : Transaction κ}
    (h : osipTransactionInit κ io transactionid outSocket request = .ok tr) :
    tr.lastResponse = none := by
  unfold osipTransactionInit at h
  repeat' split at h
  all_goals cases h
  rfl

theorem OneFinalResponse.of_steps [StateMachine κ] {terminated : State} {kill : KillCallbackType}
    (hadvances : ∀ (tr : Transaction κ) (evt : Event) (io : Io),
      Advances terminated kill tr (osipTransactionExecute tr evt io))
    (hanswers : ∀ (tr : Transaction κ) {evt : Event}, evt.WellTyped → ∀ io : Io,
      Answers tr (osipTransactionExecute tr evt io)) : OneFinalResponse κ := by
  have hcommits : Machine.Commits (executeStep (κ := κ)) (fun _ input => input.2.WellTyped)
      (fun tr => tr.state.Late) Transaction.lastResponse Effect.transmission Message.IsFinal := by
    constructor
    · intro tr input htyped effect heffect sip hsip
      exact (hanswers tr htyped input.1).stored sip (List.mem_filterMap.2 ⟨effect, heffect, hsip⟩)
    · intro tr input htyped hlate
      exact ⟨hlate.trans (hadvances tr input.2 input.1).forward,
        (hanswers tr htyped input.1).kept hlate⟩
    · intro tr input htyped
      exact (hanswers tr htyped input.1).pending
  have hrun {tr : Transaction κ} (hinit : tr.lastResponse = none) {inputs : List (Io × Event)}
      (htyped : ∀ input ∈ inputs, input.2.WellTyped) :=
    hcommits.run_sent (Machine.guarded_of_forall_mem executeStep htyped tr)
      (by simp [Message.IsFinal, hinit])
  constructor
  · intro io transactionid outSocket request tr h inputs htyped
    exact (hrun (osipTransactionInit_lastResponse h) htyped).1
  · intro io transactionid outSocket request tr h inputs htyped
    exact (hrun (osipTransactionInit_lastResponse h) htyped).2

/-- A client transaction has one outcome, a server transaction one final response. -/
theorem osipTransactionExecute_oneOutcome :
    OneOutcome Ict ∧ OneOutcome Nict ∧ OneFinalResponse Ist ∧ OneFinalResponse Nist := by
  refine ⟨.of_steps ?_ ict_execute_advances ict_execute_notices,
    .of_steps ?_ nict_execute_advances nict_execute_notices,
    .of_steps ist_execute_advances ist_execute_answers,
    .of_steps nist_execute_advances nist_execute_answers⟩ <;> decide

section Examples

/-- The 486 to an INVITE, and the INVITE once more. -/
def busyInputs : List (Io × Event) :=
  [(connected, ⟨.rcvReqinvite, 0, some inviteOverTcp⟩),
    (connected, ⟨.sndStatus3456xx, 0, some busyHere⟩),
    (connected, ⟨.rcvReqinvite, 0, some inviteOverTcp⟩)]

/-- A server that has answered 486 keeps that answer. -/
theorem osipTransactionExecute_oneOutcome_busyHere : ∃ ist : Transaction Ist,
    osipTransactionInit Ist connected 0 0 (some inviteOverTcp) = .ok ist ∧
      (runTransaction ist busyInputs).1.lastResponse = some busyHere := by
  refine ⟨_, rfl, ?_⟩
  apply osipTransactionExecute_oneOutcome.2.2.1.stored connected 0 0 (some inviteOverTcp) _ rfl
    busyInputs ?_ (.sendMessage (some busyHere) (some "192.0.2.1".toList) 5060 0 0)
  · decide
  · rfl
  · exact ⟨busyHere, rfl, by decide⟩
  · intro input hinput sip hsip
    simp only [busyInputs, List.mem_cons, List.not_mem_nil, or_false] at hinput
    rcases hinput with rfl | rfl | rfl <;> cases hsip
    · exact .inl (by decide)
    · exact .inr (by decide)
    · exact .inl (by decide)

end Examples
end Exosip
