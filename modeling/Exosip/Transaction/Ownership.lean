import Exosip.Machine.Ownership
import Exosip.Transaction.OneOutcome

/-! Who owns the messages: the three slots of a transaction, what `osip_transaction_execute`
stores and frees, and what `osip_transaction_free` frees at the end. -/
namespace Exosip

open Machine (Disposal dispose)

/-- The members of `osip_transaction_t` that own a message. -/
inductive MessageSlot where
  | origRequest | lastResponse | ack
  deriving DecidableEq, Repr

/-- In the order of `osip_transaction_free2`. -/
def MessageSlot.all : List MessageSlot := [.origRequest, .lastResponse, .ack]

theorem MessageSlot.mem_all (slot : MessageSlot) : slot ∈ MessageSlot.all := by
  cases slot <;> decide

variable {κ : Type}

namespace Transaction

def slots (tr : Transaction κ) : MessageSlot → Option Message
  | .origRequest => tr.origRequest
  | .lastResponse => tr.lastResponse
  | .ack => tr.ack

end Transaction

namespace Effect

/-- The message that a `messageFree` releases. -/
def freedMessage : Effect → Option Message
  | messageFree sip => some sip
  | _ => none

@[simp] theorem filterMap_freedMessage_freed (sip : Option Message) :
    (freed sip).filterMap freedMessage = sip.toList := by
  cases sip <;> rfl

end Effect

/-- `osip_transaction_free2`: the messages of the events that still wait, and the three slots. -/
def osipTransactionFree2 (transaction : Transaction κ) : List Effect :=
  transaction.transactionff.flatMap (fun evt => Effect.freed evt.sip) ++
    Effect.freed transaction.origRequest ++ Effect.freed transaction.lastResponse ++
    Effect.freed transaction.ack

/-- An event as it is built: `__osip_event_new` for the timers, `osip_parse` and
`osip_new_outgoing_sipmessage` around a message. -/
inductive Event.Built : Event → Prop
  | timer {type : EventType} (transactionid : Int) (h : type.isMsg = false) :
      Built ⟨type, transactionid, none⟩
  | incoming (transactionid : Int) (sip : Message) :
      Built ⟨evtSetTypeIncomingSipmessage sip, transactionid, some sip⟩
  | outgoing (transactionid : Int) (sip : Message) :
      Built ⟨evtSetTypeOutgoingSipmessage sip, transactionid, some sip⟩

theorem evtSetType_isMsg (sip : Message) : (evtSetTypeIncomingSipmessage sip).isMsg = true ∧
    (evtSetTypeOutgoingSipmessage sip).isMsg = true := by
  constructor
  · unfold evtSetTypeIncomingSipmessage
    split_ifs <;> rfl
  · unfold evtSetTypeOutgoingSipmessage
    split_ifs <;> rfl

theorem Event.Built.sip {evt : Event} (h : evt.Built) :
    (evt.type.isMsg = false ∧ evt.sip = none) ∨
      ∃ sip, evt.type.isMsg = true ∧ evt.sip = some sip := by
  cases h with
  | timer transactionid h => exact Or.inl ⟨h, rfl⟩
  | incoming transactionid sip => exact Or.inr ⟨sip, (evtSetType_isMsg sip).1, rfl⟩
  | outgoing transactionid sip => exact Or.inr ⟨sip, (evtSetType_isMsg sip).2, rfl⟩

theorem Event.Built.sip_of_isMsg {evt : Event} (h : evt.Built) (htype : evt.type.isMsg = true) :
    ∃ sip, evt.sip = some sip := by
  obtain ⟨hmsg, -⟩ | ⟨sip, -, hsip⟩ := h.sip
  · rw [htype] at hmsg
    cases hmsg
  · exact ⟨sip, hsip⟩

theorem Event.Built.sip_of_not_isMsg {evt : Event} (h : evt.Built)
    (htype : evt.type.isMsg = false) : evt.sip = none := by
  obtain ⟨-, hsip⟩ | ⟨sip, hmsg, -⟩ := h.sip
  · exact hsip
  · rw [htype] at hmsg
    cases hmsg

namespace Outcome

def frees (out : Outcome κ) : List Message := out.trace.filterMap Effect.freedMessage

section Frees

variable (out : Outcome κ) (tr : Transaction κ) (io : Io) (sip : Option Message)

@[simp] theorem frees_start : (start tr).frees = [] := rfl
@[simp] theorem frees_assign (f : Transaction κ → Transaction κ) :
    (out.assign f).frees = out.frees := rfl
@[simp] theorem frees_setCtx (f : κ → κ) : (out.setCtx f).frees = out.frees := rfl
@[simp] theorem frees_setState (state : State) : (out.setState state).frees = out.frees := rfl
@[simp] theorem frees_cbSendMessage (host : Option Str) (port : Int) :
    (out.cbSendMessage io sip host port).frees = out.frees := by
  simp [frees, Effect.freedMessage]
@[simp] theorem frees_messageCallback (type : MessageCallbackType) :
    (out.messageCallback type sip).frees = out.frees := by
  simp [frees, Effect.freedMessage]
@[simp] theorem frees_messageFree : (out.messageFree sip).frees = out.frees ++ sip.toList := by
  simp [frees]
@[simp] theorem frees_replaceLastResponse :
    (out.replaceLastResponse sip).frees = out.frees ++ out.tr.lastResponse.toList := by
  simp [frees]
@[simp] theorem frees_terminate (terminated : State) (kill : KillCallbackType) :
    (out.terminate io terminated kill).frees = out.frees := by
  simp [frees, Effect.freedMessage]
@[simp] theorem frees_handleTransportError (type : TransportErrorCallbackType)
    (terminated : State) (kill : KillCallbackType) (err : Int) :
    (handleTransportError type terminated kill io out err).frees = out.frees := by
  simp [frees, Effect.freedMessage]

end Frees
end Outcome

/-! ### One execution -/

def State.beforeAck : State → Bool
  | ictPreCalling | ictCalling | ictProceeding => true
  | _ => false

/-- No slot is taken that a handler fills without a look at it: the request before the
transaction begins, and the ACK of an INVITE client before its final response. -/
structure Vacant [StateMachine κ] (tr : Transaction κ) : Prop where
  origRequest : tr.state = StateMachine.preState κ → tr.origRequest = none
  ack : tr.state.beforeAck = true → tr.ack = none

/-- The message of the event, then the one that is built for it, are stored or freed. -/
structure Disposes (tr : Transaction κ) (evt : Event) (built : Option Message) (out : Outcome κ)
    (taken : List (Disposal MessageSlot × Message)) : Prop where
  given : taken.map Prod.snd = evt.sip.toList ++ built.toList
  run : Machine.run dispose tr.slots taken = (out.tr.slots, out.frees)

/-- What one execution does with the messages. -/
structure Settles [StateMachine κ] (tr : Transaction κ) (evt : Event) (built : Option Message)
    (out : Outcome κ) : Prop where
  vacant : Vacant out.tr
  disposed : ∃ taken, Disposes tr evt built out taken

theorem slots_eq {tr tr' : Transaction κ} (horig : tr'.origRequest = tr.origRequest)
    (hlast : tr'.lastResponse = tr.lastResponse) (hack : tr'.ack = tr.ack) :
    tr'.slots = tr.slots := by
  funext slot
  cases slot with
  | origRequest => exact horig
  | lastResponse => exact hlast
  | ack => exact hack

theorem Disposes.store {tr : Transaction κ} {evt : Event} {out : Outcome κ} {sip : Message}
    (slot : MessageSlot) (hsip : evt.sip = some sip)
    (hslots : out.tr.slots = Function.update tr.slots slot (some sip))
    (hfrees : out.frees = (tr.slots slot).toList) :
    Disposes tr evt none out [(.store slot, sip)] where
  given := by rw [hsip]; rfl
  run := by
    rw [hslots, hfrees, Machine.run_singleton]
    rfl

section Settles

variable [StateMachine κ] {tr : Transaction κ} {evt : Event} {out : Outcome κ}

namespace Vacant

theorem later (hvacant : Vacant tr) (hpre : out.tr.state ≠ StateMachine.preState κ)
    (hearly : out.tr.state.beforeAck = true → tr.state.beforeAck = true)
    (hack : out.tr.ack = tr.ack) : Vacant out.tr where
  origRequest := fun h => absurd h hpre
  ack := fun h => by rw [hack, hvacant.ack (hearly h)]

end Vacant

namespace Settles

theorem useless (hvacant : Vacant tr) (hbuilt : evt.Built) (huseless : Useless tr evt) (io : Io) :
    Settles tr evt none (osipTransactionExecute tr evt io) := by
  have hstart (hsip : evt.sip = none) : Settles tr evt none (Outcome.start tr) :=
    ⟨hvacant, [], by rw [hsip]; rfl, rfl⟩
  unfold osipTransactionExecute
  by_cases hkill : evt.type = .killTransaction
  · rw [if_pos hkill]
    exact hstart (hbuilt.sip_of_not_isMsg (by rw [hkill]; rfl))
  · have hfind : fsmFindmethod evt.type tr.state (StateMachine.transitions (κ := κ)) = none := by
      rw [fsmFindmethod, List.find?_eq_none]
      intro t ht hkey
      rw [Bool.and_eq_true, decide_eq_true_eq, decide_eq_true_eq] at hkey
      exact huseless.resolve_left hkill t ht hkey.2.symm hkey.1.symm
    rw [if_neg hkill, fsmCallmethod, hfind]
    obtain ⟨hmsg, hsip⟩ | ⟨sip, hmsg, hsip⟩ := hbuilt.sip
    · simpa [hmsg] using hstart hsip
    · refine ⟨by simpa [hmsg] using hvacant, [(.release, sip)], by rw [hsip]; rfl, ?_⟩
      simp [hmsg, hsip]
      rfl

variable (hvacant : Vacant tr) (hpre : out.tr.state ≠ StateMachine.preState κ)
  (hearly : out.tr.state.beforeAck = true → tr.state.beforeAck = true) (hbuilt : evt.Built)
include hvacant hpre hearly hbuilt

theorem timer (htype : evt.type.isMsg = false) (horig : out.tr.origRequest = tr.origRequest)
    (hlast : out.tr.lastResponse = tr.lastResponse) (hack : out.tr.ack = tr.ack)
    (hfrees : out.frees = []) : Settles tr evt none out where
  vacant := hvacant.later hpre hearly hack
  disposed := by
    refine ⟨[], by rw [hbuilt.sip_of_not_isMsg htype]; rfl, ?_⟩
    rw [slots_eq horig hlast hack, hfrees]
    rfl

variable (htype : evt.type.isMsg = true)
include htype

theorem again (horig : out.tr.origRequest = tr.origRequest)
    (hlast : out.tr.lastResponse = tr.lastResponse) (hack : out.tr.ack = tr.ack)
    (hfrees : out.frees = evt.sip.toList) : Settles tr evt none out where
  vacant := hvacant.later hpre hearly hack
  disposed := by
    obtain ⟨sip, hsip⟩ := hbuilt.sip_of_isMsg htype
    refine ⟨[(.release, sip)], by rw [hsip]; rfl, ?_⟩
    rw [slots_eq horig hlast hack, hfrees, hsip]
    rfl

/-- The request is kept where there was none. -/
theorem request (hnone : tr.origRequest = none) (horig : out.tr.origRequest = evt.sip)
    (hlast : out.tr.lastResponse = tr.lastResponse) (hack : out.tr.ack = tr.ack)
    (hfrees : out.frees = []) : Settles tr evt none out where
  vacant := hvacant.later hpre hearly hack
  disposed := by
    obtain ⟨sip, hsip⟩ := hbuilt.sip_of_isMsg htype
    have hslots : out.tr.slots = Function.update tr.slots .origRequest (some sip) := by
      funext slot
      cases slot with
      | origRequest => exact horig.trans hsip
      | lastResponse => exact hlast
      | ack => exact hack
    have hvacated : out.frees = (tr.slots .origRequest).toList := by
      rw [hfrees, show tr.slots .origRequest = none from hnone]
      rfl
    exact ⟨_, .store .origRequest hsip hslots hvacated⟩

theorem response (horig : out.tr.origRequest = tr.origRequest)
    (hlast : out.tr.lastResponse = evt.sip) (hack : out.tr.ack = tr.ack)
    (hfrees : out.frees = tr.lastResponse.toList) : Settles tr evt none out where
  vacant := hvacant.later hpre hearly hack
  disposed := by
    obtain ⟨sip, hsip⟩ := hbuilt.sip_of_isMsg htype
    have hslots : out.tr.slots = Function.update tr.slots .lastResponse (some sip) := by
      funext slot
      cases slot with
      | origRequest => exact horig
      | lastResponse => exact hlast.trans hsip
      | ack => exact hack
    exact ⟨_, .store .lastResponse hsip hslots hfrees⟩

omit hvacant hearly

variable (hlate : out.tr.state.beforeAck = false)
include hlate

theorem acknowledged (horig : out.tr.origRequest = tr.origRequest)
    (hlast : out.tr.lastResponse = tr.lastResponse) (hack : out.tr.ack = evt.sip)
    (hfrees : out.frees = tr.ack.toList) : Settles tr evt none out where
  vacant := ⟨fun h => absurd h hpre, fun h => absurd h (Bool.eq_false_iff.1 hlate)⟩
  disposed := by
    obtain ⟨sip, hsip⟩ := hbuilt.sip_of_isMsg htype
    have hslots : out.tr.slots = Function.update tr.slots .ack (some sip) := by
      funext slot
      cases slot with
      | origRequest => exact horig
      | lastResponse => exact hlast
      | ack => exact hack.trans hsip
    exact ⟨_, .store .ack hsip hslots hfrees⟩

/-- A response takes the place of the last one, and the ACK that is built for it is kept where
there was none. -/
theorem answered (hnone : tr.ack = none) (ack : Message)
    (horig : out.tr.origRequest = tr.origRequest) (hlast : out.tr.lastResponse = evt.sip)
    (hack : out.tr.ack = some ack) (hfrees : out.frees = tr.lastResponse.toList) :
    Settles tr evt (some ack) out where
  vacant := ⟨fun h => absurd h hpre, fun h => absurd h (Bool.eq_false_iff.1 hlate)⟩
  disposed := by
    obtain ⟨sip, hsip⟩ := hbuilt.sip_of_isMsg htype
    have hslots : out.tr.slots = Function.update (Function.update tr.slots .lastResponse
        (some sip)) .ack (some ack) := by
      funext slot
      cases slot with
      | origRequest => exact horig
      | lastResponse => exact hlast.trans hsip
      | ack => exact hack
    refine ⟨[(.store .lastResponse, sip), (.store .ack, ack)], by rw [hsip]; rfl, ?_⟩
    rw [hslots, hfrees, Machine.run_cons, Machine.run_singleton]
    show (_, tr.lastResponse.toList ++ tr.ack.toList) = _
    rw [hnone]
    exact congrArg _ (List.append_nil _)

end Settles

end Settles

section Snd

variable [StateMachine κ] {tr : Transaction κ} {evt : Event} {io : Io}
  {type : TransportErrorCallbackType} {terminated : State} {kill : KillCallbackType}
  {k : Outcome κ → Outcome κ} (hvacant : Vacant tr)
  (hpre : terminated ≠ StateMachine.preState κ) (hlate : terminated.beforeAck = false)
  (hbuilt : evt.Built) (htype : evt.type.isMsg = true)
include hvacant hpre hlate hbuilt htype

/-- The response is stored before it is sent, so that a transport error does not lose it. -/
theorem Settles.responseSent (hk : ∀ host port, Settles tr evt none
      (k (((Outcome.start tr).replaceLastResponse evt.sip).cbSendMessage io evt.sip host port))) :
    Settles tr evt none (sndXxxOrError (Outcome.handleTransportError type terminated kill) io
      ((Outcome.start tr).replaceLastResponse evt.sip) evt.sip k) := by
  apply sndXxxOrError_cases
  · apply Settles.response hvacant _ _ hbuilt htype <;> simp [hpre, hlate]
  · intro host port _
    apply Settles.response hvacant _ _ hbuilt htype <;> simp [hpre, hlate]
  · intro host port _
    exact hk host port

theorem Settles.sentAgain {callback : MessageCallbackType} (hk : ∀ host port, Settles tr evt none
      (k ((((Outcome.start tr).messageFree evt.sip).messageCallback callback
        tr.origRequest).cbSendMessage io tr.lastResponse host port))) :
    Settles tr evt none (sndXxxOrError (Outcome.handleTransportError type terminated kill) io
      (((Outcome.start tr).messageFree evt.sip).messageCallback callback tr.origRequest)
      tr.lastResponse k) := by
  apply sndXxxOrError_cases
  · apply Settles.again hvacant _ _ hbuilt htype <;> simp [hpre, hlate]
  · intro host port _
    apply Settles.again hvacant _ _ hbuilt htype <;> simp [hpre, hlate]
  · intro host port _
    exact hk host port

end Snd

/-! ### The four state machines -/

@[simp] theorem preState_ict : StateMachine.preState Ict = .ictPreCalling := rfl
@[simp] theorem preState_ist : StateMachine.preState Ist = .istPreProceeding := rfl
@[simp] theorem preState_nict : StateMachine.preState Nict = .nictPreTrying := rfl
@[simp] theorem preState_nist : StateMachine.preState Nist = .nistPreTrying := rfl

/-- The ACK that `ict_rcv_3456xx` builds for the event. -/
def ictBuildsAck (io : Io) (ict : Transaction Ict) (evt : Event) : Option Message :=
  if (ict.state = .ictCalling ∨ ict.state = .ictProceeding) ∧ evt.type = .rcvStatus3456xx then
    ictCreateAck io ict evt.sip
  else none

theorem ictBuildsAck_of_type {io : Io} {ict : Transaction Ict} {evt : Event}
    (h : evt.type ≠ .rcvStatus3456xx) : ictBuildsAck io ict evt = none :=
  if_neg fun hbuilds => h hbuilds.2

theorem Useless.ictBuildsAck {ict : Transaction Ict} {evt : Event} (h : Useless ict evt)
    (io : Io) : ictBuildsAck io ict evt = none := by
  apply if_neg
  rintro ⟨hstate, htype⟩
  have htransition := h.resolve_left (by rw [htype]; decide)
  obtain hstate | hstate := hstate
  · exact htransition ⟨.ictCalling, .rcvStatus3456xx, ictRcv3456xx⟩
      (by simp [StateMachine.transitions, ictTransition]) hstate htype
  · exact htransition ⟨.ictProceeding, .rcvStatus3456xx, ictRcv3456xx⟩
      (by simp [StateMachine.transitions, ictTransition]) hstate htype

section Kinds

variable {evt : Event} (hbuilt : evt.Built) (io : Io)
include hbuilt

theorem ist_execute_settles {ist : Transaction Ist} (hvacant : Vacant ist) :
    Settles ist evt none (osipTransactionExecute ist evt io) := by
  by_cases huseless : Useless ist evt
  · exact Settles.useless hvacant hbuilt huseless io
  apply ist_execute_cases (P := fun handler => Settles ist evt none (handler io))
  case useless => exact fun h => absurd h huseless
  case freed => exact fun h => absurd h huseless
  case rcvInvite =>
    intro h htype
    have hmsg : evt.type.isMsg = true := by rw [htype]; rfl
    unfold istRcvInvite
    split_ifs with hpre
    · apply Settles.request hvacant _ _ hbuilt hmsg (hvacant.origRequest hpre) <;>
        simp [State.beforeAck]
    · have h : ist.state = .istProceeding ∨ ist.state = .istCompleted := h.resolve_left hpre
      apply Settles.sentAgain hvacant (by simp) rfl hbuilt hmsg
      intro host port
      apply Settles.again hvacant _ _ hbuilt hmsg <;> rcases h with h | h <;> simp [h]
    · have h : ist.state = .istProceeding ∨ ist.state = .istCompleted := h.resolve_left hpre
      apply Settles.again hvacant _ _ hbuilt hmsg <;> rcases h with h | h <;> simp [h]
  case timeoutG =>
    intro h htype
    have hmsg : evt.type.isMsg = false := by rw [htype]; rfl
    unfold osipIstTimeoutGEvent
    apply sndXxxOrError_cases
    · apply Settles.timer hvacant _ _ hbuilt hmsg <;> simp [State.beforeAck]
    · intro host port _
      apply Settles.timer hvacant _ _ hbuilt hmsg <;> simp [State.beforeAck]
    · intro host port _
      apply Settles.timer hvacant _ _ hbuilt hmsg <;> simp [h]
  case timeoutH =>
    intro h htype
    have hmsg : evt.type.isMsg = false := by rw [htype]; rfl
    apply Settles.timer hvacant _ _ hbuilt hmsg <;> simp [osipIstTimeoutHEvent, State.beforeAck]
  case timeoutI =>
    intro h htype
    have hmsg : evt.type.isMsg = false := by rw [htype]; rfl
    apply Settles.timer hvacant _ _ hbuilt hmsg <;> simp [osipIstTimeoutIEvent, State.beforeAck]
  case snd1xx =>
    intro h htype
    have hmsg : evt.type.isMsg = true := by rw [htype]; rfl
    unfold istSnd1xx
    apply Settles.responseSent hvacant (by simp) rfl hbuilt hmsg
    intro host port
    apply Settles.response hvacant _ _ hbuilt hmsg <;> simp [h]
  case snd2xx =>
    intro h htype
    have hmsg : evt.type.isMsg = true := by rw [htype]; rfl
    unfold istSnd2xx
    apply Settles.responseSent hvacant (by simp) rfl hbuilt hmsg
    intro host port
    apply Settles.response hvacant _ _ hbuilt hmsg <;> simp [State.beforeAck]
  case snd3456xx =>
    intro h htype
    have hmsg : evt.type.isMsg = true := by rw [htype]; rfl
    unfold istSnd3456xx
    apply Settles.responseSent hvacant (by simp) rfl hbuilt hmsg
    intro host port
    apply Settles.response hvacant _ _ hbuilt hmsg <;> simp [State.beforeAck]
  case rcvAck =>
    intro h htype
    have hmsg : evt.type.isMsg = true := by rw [htype]; rfl
    apply Settles.acknowledged _ hbuilt hmsg <;> simp [istRcvAck, State.beforeAck]

theorem nist_execute_settles {nist : Transaction Nist} (hvacant : Vacant nist) :
    Settles nist evt none (osipTransactionExecute nist evt io) := by
  by_cases huseless : Useless nist evt
  · exact Settles.useless hvacant hbuilt huseless io
  apply nist_execute_cases (P := fun handler => Settles nist evt none (handler io))
  case useless => exact fun h => absurd h huseless
  case freed => exact fun h => absurd h huseless
  case rcvRequest =>
    intro h htype
    have hmsg : evt.type.isMsg = true := by rw [htype]; rfl
    unfold nistRcvRequest
    split_ifs with hpre
    · apply Settles.request hvacant _ _ hbuilt hmsg (hvacant.origRequest hpre) <;>
        simp [State.beforeAck]
    · have h : nist.state = .nistProceeding ∨ nist.state = .nistCompleted := h.resolve_left hpre
      apply Settles.sentAgain hvacant (by simp) rfl hbuilt hmsg
      intro host port
      apply Settles.again hvacant _ _ hbuilt hmsg <;> rcases h with h | h <;> simp [h]
    · have h : nist.state = .nistProceeding ∨ nist.state = .nistCompleted := h.resolve_left hpre
      apply Settles.again hvacant _ _ hbuilt hmsg <;> rcases h with h | h <;> simp [h]
  case snd1xx =>
    intro h htype
    have hmsg : evt.type.isMsg = true := by rw [htype]; rfl
    unfold nistSnd1xx
    apply Settles.responseSent hvacant (by simp) rfl hbuilt hmsg
    intro host port
    apply Settles.response hvacant _ _ hbuilt hmsg <;> simp [State.beforeAck]
  case snd23456xx =>
    intro h htype
    have hmsg : evt.type.isMsg = true := by rcases htype with htype | htype <;> rw [htype] <;> rfl
    unfold nistSnd23456xx
    apply Settles.responseSent hvacant (by simp) rfl hbuilt hmsg
    intro host port
    apply Settles.response hvacant _ _ hbuilt hmsg <;> simp [State.beforeAck]
  case timeoutJ =>
    intro h htype
    have hmsg : evt.type.isMsg = false := by rw [htype]; rfl
    apply Settles.timer hvacant _ _ hbuilt hmsg <;> simp [osipNistTimeoutJEvent, State.beforeAck]

theorem nict_execute_settles {nict : Transaction Nict} (hvacant : Vacant nict) :
    Settles nict evt none (osipTransactionExecute nict evt io) := by
  by_cases huseless : Useless nict evt
  · exact Settles.useless hvacant hbuilt huseless io
  apply nict_execute_cases (P := fun handler => Settles nict evt none (handler io))
  case useless => exact fun h => absurd h huseless
  case freed => exact fun h => absurd h huseless
  case sndRequest =>
    intro h htype
    have hmsg : evt.type.isMsg = true := by rw [htype]; rfl
    have hnone := hvacant.origRequest h
    unfold nictSndRequest
    split_ifs
    · apply Settles.request hvacant _ _ hbuilt hmsg hnone <;> simp [State.beforeAck]
    · apply nictWithProtocol_cases
      · apply Settles.request hvacant _ _ hbuilt hmsg hnone <;> simp [State.beforeAck]
      · intro proto
        apply Settles.request hvacant _ _ hbuilt hmsg hnone <;> simp [State.beforeAck]
  case timeoutE =>
    intro h htype
    have hmsg : evt.type.isMsg = false := by rw [htype]; rfl
    unfold osipNictTimeoutEEvent
    split_ifs
    · apply Settles.timer hvacant _ _ hbuilt hmsg <;> simp [State.beforeAck]
    · apply nictWithProtocol_cases
      · apply Settles.timer hvacant _ _ hbuilt hmsg <;> simp [State.beforeAck]
      · intro proto
        split_ifs <;> apply Settles.timer hvacant _ _ hbuilt hmsg <;> rcases h with h | h <;>
          simp [h]
    · apply Settles.timer hvacant _ _ hbuilt hmsg <;> rcases h with h | h <;> simp [h]
  case timeoutF =>
    intro h htype
    have hmsg : evt.type.isMsg = false := by rw [htype]; rfl
    apply Settles.timer hvacant _ _ hbuilt hmsg <;> simp [osipNictTimeoutFEvent, State.beforeAck]
  case timeoutK =>
    intro h htype
    have hmsg : evt.type.isMsg = false := by rw [htype]; rfl
    apply Settles.timer hvacant _ _ hbuilt hmsg <;> simp [osipNictTimeoutKEvent, State.beforeAck]
  case rcv1xx =>
    intro h htype
    have hmsg : evt.type.isMsg = true := by rw [htype]; rfl
    apply Settles.response hvacant _ _ hbuilt hmsg <;> simp [nictRcv1xx, State.beforeAck]
  case rcv23456xx =>
    intro h htype
    have hmsg : evt.type.isMsg = true := by rcases htype with htype | htype <;> rw [htype] <;> rfl
    apply Settles.response hvacant _ _ hbuilt hmsg <;> simp [nictRcv23456xx, State.beforeAck]

theorem ict_execute_settles {ict : Transaction Ict} (hvacant : Vacant ict) :
    Settles ict evt (ictBuildsAck io ict evt) (osipTransactionExecute ict evt io) := by
  by_cases huseless : Useless ict evt
  · rw [huseless.ictBuildsAck io]
    exact Settles.useless hvacant hbuilt huseless io
  apply ict_execute_cases
    (P := fun handler => Settles ict evt (ictBuildsAck io ict evt) (handler io))
  case useless => exact fun h => absurd h huseless
  case freed => exact fun h => absurd h huseless
  case sndInvite =>
    intro h htype
    have hmsg : evt.type.isMsg = true := by rw [htype]; rfl
    rw [ictBuildsAck_of_type (by rw [htype]; decide)]
    have hnone := hvacant.origRequest h
    unfold ictSndInvite
    split_ifs
    · apply Settles.request hvacant _ _ hbuilt hmsg hnone <;> simp [State.beforeAck]
    · apply ictRequestSent_cases
      · intro err
        apply Settles.request hvacant _ _ hbuilt hmsg hnone <;> simp [State.beforeAck]
      · apply Settles.request hvacant _ _ hbuilt hmsg hnone <;> simp [h, State.beforeAck]
      · apply Settles.request hvacant _ _ hbuilt hmsg hnone <;> simp [h, State.beforeAck]
    · apply Settles.request hvacant _ _ hbuilt hmsg hnone <;> simp [h, State.beforeAck]
  case timeoutA =>
    intro h htype
    have hmsg : evt.type.isMsg = false := by rw [htype]; rfl
    rw [ictBuildsAck_of_type (by rw [htype]; decide)]
    unfold osipIctTimeoutAEvent
    split_ifs
    · apply Settles.timer hvacant _ _ hbuilt hmsg <;> simp [State.beforeAck]
    · apply ictRequestSent_cases
      · intro err
        apply Settles.timer hvacant _ _ hbuilt hmsg <;> simp [State.beforeAck]
      · apply Settles.timer hvacant _ _ hbuilt hmsg <;> simp [h]
      · apply Settles.timer hvacant _ _ hbuilt hmsg <;> simp [h]
    · apply Settles.timer hvacant _ _ hbuilt hmsg <;> simp [h]
  case timeoutB =>
    intro h htype
    have hmsg : evt.type.isMsg = false := by rw [htype]; rfl
    rw [ictBuildsAck_of_type (by rw [htype]; decide)]
    apply Settles.timer hvacant _ _ hbuilt hmsg <;> simp [osipIctTimeoutBEvent, State.beforeAck]
  case timeoutD =>
    intro h htype
    have hmsg : evt.type.isMsg = false := by rw [htype]; rfl
    rw [ictBuildsAck_of_type (by rw [htype]; decide)]
    apply Settles.timer hvacant _ _ hbuilt hmsg <;> simp [osipIctTimeoutDEvent, State.beforeAck]
  case rcv1xx =>
    intro h htype
    have hmsg : evt.type.isMsg = true := by rw [htype]; rfl
    rw [ictBuildsAck_of_type (by rw [htype]; decide)]
    apply Settles.response hvacant _ _ hbuilt hmsg <;> rcases h with h | h <;>
      simp [ictRcv1xx, h, State.beforeAck]
  case rcv2xx =>
    intro h htype
    have hmsg : evt.type.isMsg = true := by rw [htype]; rfl
    rw [ictBuildsAck_of_type (by rw [htype]; decide)]
    apply Settles.response hvacant _ _ hbuilt hmsg <;> simp [ictRcv2xx, State.beforeAck]
  case retransmitAck =>
    intro h htype
    have hmsg : evt.type.isMsg = true := by rw [htype]; rfl
    rw [ictBuildsAck, if_neg (by simp [h])]
    unfold ictRetransmitAck
    split_ifs
    · apply Settles.again hvacant _ _ hbuilt hmsg <;> simp [State.beforeAck]
    · apply Settles.again hvacant _ _ hbuilt hmsg <;> simp [State.beforeAck]
  case rcv3456xx =>
    intro h htype
    have hmsg : evt.type.isMsg = true := by rw [htype]; rfl
    have hnone : ict.ack = none := hvacant.ack (by rcases h with h | h <;> rw [h] <;> rfl)
    have hstate : ict.state ≠ .ictCompleted := by rcases h with h | h <;> rw [h] <;> decide
    unfold ictRcv3456xx
    rw [if_pos hstate, ictBuildsAck, if_pos ⟨h, htype⟩]
    cases ictCreateAck io ict evt.sip with
    | none =>
        apply Settles.response hvacant _ _ hbuilt hmsg <;> simp [hnone, State.beforeAck]
    | some ack =>
        dsimp only
        split_ifs
        · apply Settles.answered _ hbuilt hmsg _ hnone ack <;> simp [State.beforeAck]
        · apply Settles.answered _ hbuilt hmsg _ hnone ack <;> simp [State.beforeAck]

end Kinds

/-! ### A run -/

section Run

variable [StateMachine κ] (builds : Io → Transaction κ → Event → Option Message)

/-- What each execution of the run does with its messages. -/
def Records : Transaction κ → List (Io × Event) → List (List (Disposal MessageSlot × Message)) →
    Prop
  | _, [], [] => True
  | tr, (io, evt) :: inputs, taken :: steps =>
      Disposes tr evt (builds io tr evt) (osipTransactionExecute tr evt io) taken ∧
        Records (osipTransactionExecute tr evt io).tr inputs steps
  | _, _, _ => False

variable {builds} {tr : Transaction κ} {inputs : List (Io × Event)}
  {steps : List (List (Disposal MessageSlot × Message))}

theorem runTransaction_cons (tr : Transaction κ) (io : Io) (evt : Event)
    (inputs : List (Io × Event)) : runTransaction tr ((io, evt) :: inputs) =
      ((runTransaction (osipTransactionExecute tr evt io).tr inputs).1,
        (osipTransactionExecute tr evt io).trace ++
          (runTransaction (osipTransactionExecute tr evt io).tr inputs).2) := rfl

theorem exists_records (hsettles : ∀ (io : Io) (tr : Transaction κ) (evt : Event), evt.Built →
    Vacant tr → Settles tr evt (builds io tr evt) (osipTransactionExecute tr evt io))
    (hvacant : Vacant tr) (hbuilt : ∀ input ∈ inputs, input.2.Built) :
    ∃ steps, Records builds tr inputs steps := by
  induction inputs generalizing tr with
  | nil => exact ⟨[], trivial⟩
  | cons input inputs ih =>
      obtain ⟨io, evt⟩ := input
      rw [List.forall_mem_cons] at hbuilt
      obtain ⟨hvacant, taken, htaken⟩ := hsettles io tr evt hbuilt.1 hvacant
      obtain ⟨steps, hsteps⟩ := ih hvacant hbuilt.2
      exact ⟨taken :: steps, htaken, hsteps⟩

namespace Records

theorem run (h : Records builds tr inputs steps) :
    Machine.run dispose tr.slots steps.flatten = ((runTransaction tr inputs).1.slots,
      (runTransaction tr inputs).2.filterMap Effect.freedMessage) := by
  induction inputs generalizing tr steps with
  | nil =>
      cases steps with
      | nil => rfl
      | cons taken steps => exact h.elim
  | cons input inputs ih =>
      obtain ⟨io, evt⟩ := input
      cases steps with
      | nil => exact h.elim
      | cons taken steps =>
          rw [List.flatten_cons, Machine.run_append, h.1.run, ih h.2, runTransaction_cons,
            List.filterMap_append]
          rfl

theorem take (h : Records builds tr inputs steps) (n : Nat) :
    Records builds tr (inputs.take n) (steps.take n) := by
  induction inputs generalizing tr steps n with
  | nil =>
      cases steps with
      | nil => simpa using h
      | cons taken steps => exact h.elim
  | cons input inputs ih =>
      obtain ⟨io, evt⟩ := input
      cases steps with
      | nil => exact h.elim
      | cons taken steps =>
          cases n with
          | zero => trivial
          | succ n => exact ⟨h.1, ih h.2 n⟩

end Records
end Run

/-! ### Every message once -/

section Ledger

/-- The messages in the order in which they come, each with its number: two of them may read
the same. -/
def numbered (steps : List (List (Disposal MessageSlot × Message))) :
    List (Disposal MessageSlot × (Message × Nat)) :=
  steps.flatten.zipIdx.map fun taken => (taken.1.1, (taken.1.2, taken.2))

/-- The slots and the frees with the numbers. -/
def ledger (steps : List (List (Disposal MessageSlot × Message))) :
    (MessageSlot → Option (Message × Nat)) × List (Message × Nat) :=
  Machine.run dispose (fun _ => none) (numbered steps)

variable (steps : List (List (Disposal MessageSlot × Message)))

theorem numbered_map : (numbered steps).map (Prod.map id Prod.fst) = steps.flatten := by
  have hmap : (numbered steps).map (Prod.map id Prod.fst) = steps.flatten.zipIdx.map Prod.fst := by
    rw [numbered, List.map_map]
    rfl
  rw [hmap, List.zipIdx_map_fst]

theorem numbered_nodup : ((numbered steps).map Prod.snd).Nodup := by
  have hmap : ((numbered steps).map Prod.snd).map Prod.snd = steps.flatten.zipIdx.map Prod.snd := by
    rw [numbered, List.map_map, List.map_map]
    rfl
  apply List.Nodup.of_map Prod.snd
  rw [hmap, List.zipIdx_map_snd]
  exact List.nodup_range'

theorem ledger_perm : (Machine.held MessageSlot.all (ledger steps).1 ++ (ledger steps).2).Perm
    ((numbered steps).map Prod.snd) :=
  Machine.run_dispose_perm (by decide) MessageSlot.mem_all (fun _ => none) (numbered steps)

theorem run_flatten : Machine.run dispose (fun _ => none) steps.flatten =
    ((fun slot => ((ledger steps).1 slot).map Prod.fst), (ledger steps).2.map Prod.fst) := by
  have hmap := Machine.run_dispose_map Prod.fst (fun _ => none) (numbered steps)
  rw [numbered_map] at hmap
  exact hmap

end Ledger

/-- The messages of a transaction that has done `steps`, with the `frees` so far. -/
structure OwnsOnce (tr : Transaction κ) (frees : List Message)
    (steps : List (List (Disposal MessageSlot × Message))) : Prop where
  slots : tr.slots = fun slot => ((ledger steps).1 slot).map Prod.fst
  frees : frees = (ledger steps).2.map Prod.fst
  /-- No message is freed twice. -/
  nodup : (ledger steps).2.Nodup
  /-- Each is in one slot, or it has been freed. -/
  once : ∀ item ∈ (numbered steps).map Prod.snd,
    ((∃! slot, (ledger steps).1 slot = some item) ∧ item ∉ (ledger steps).2) ∨
      ((∀ slot, (ledger steps).1 slot ≠ some item) ∧ item ∈ (ledger steps).2)
  /-- The waiting events are emptied and the slots are freed. -/
  free : (osipTransactionFree2 tr).filterMap Effect.freedMessage =
    tr.transactionff.filterMap Event.sip ++
      (Machine.held MessageSlot.all (ledger steps).1).map Prod.fst
  /-- With that each has been freed once. -/
  freedOnce : (Machine.held MessageSlot.all (ledger steps).1 ++ (ledger steps).2).Perm
    ((numbered steps).map Prod.snd)

theorem held_all (slots : MessageSlot → Option Message) : Machine.held MessageSlot.all slots =
    (slots .origRequest).toList ++ (slots .lastResponse).toList ++ (slots .ack).toList := by
  rw [Machine.held, MessageSlot.all, List.filterMap_cons, List.filterMap_cons,
    List.filterMap_cons, List.filterMap_nil]
  cases slots .origRequest <;> cases slots .lastResponse <;> cases slots .ack <;> rfl

theorem filterMap_free2 (tr : Transaction κ) :
    (osipTransactionFree2 tr).filterMap Effect.freedMessage =
      tr.transactionff.filterMap Event.sip ++ Machine.held MessageSlot.all tr.slots := by
  have hfifo (events : List Event) : (events.flatMap fun evt => Effect.freed evt.sip).filterMap
      Effect.freedMessage = events.filterMap Event.sip := by
    induction events with
    | nil => rfl
    | cons evt events ih =>
        rw [List.flatMap_cons, List.filterMap_append, ih, Effect.filterMap_freedMessage_freed,
          List.filterMap_cons]
        cases evt.sip <;> rfl
  have hslots : Machine.held MessageSlot.all tr.slots =
      tr.origRequest.toList ++ tr.lastResponse.toList ++ tr.ack.toList := held_all tr.slots
  rw [osipTransactionFree2, List.filterMap_append, List.filterMap_append, List.filterMap_append,
    hfifo, hslots]
  simp only [Effect.filterMap_freedMessage_freed, List.append_assoc]

theorem OwnsOnce.of_run {tr : Transaction κ} {frees : List Message}
    {steps : List (List (Disposal MessageSlot × Message))}
    (h : Machine.run dispose (fun _ => none) steps.flatten = (tr.slots, frees)) :
    OwnsOnce tr frees steps := by
  rw [run_flatten, Prod.mk.injEq] at h
  obtain ⟨hslots, hfrees⟩ := h
  have hperm := ledger_perm steps
  have hnodup := hperm.nodup_iff.2 (numbered_nodup steps)
  rw [List.nodup_append'] at hnodup
  obtain ⟨hheld, hfreed, hdisjoint⟩ := hnodup
  refine ⟨hslots.symm, hfrees.symm, hfreed, fun item hitem => ?_, ?_, hperm⟩
  · have hmem := hperm.mem_iff.2 hitem
    rw [List.mem_append] at hmem
    obtain hmem | hmem := hmem
    · obtain ⟨slot, hslot, hitem⟩ := List.mem_filterMap.1 hmem
      exact Or.inl ⟨⟨slot, hitem, fun other hother =>
        Machine.slot_unique hheld (MessageSlot.mem_all other) hslot hother hitem⟩, hdisjoint hmem⟩
    · refine Or.inr ⟨fun slot hslot => ?_, hmem⟩
      exact hdisjoint (List.mem_filterMap.2 ⟨slot, MessageSlot.mem_all slot, hslot⟩) hmem
  · rw [filterMap_free2, ← hslots, Machine.held, Machine.held, List.map_filterMap]

theorem osipTransactionInit_vacant [StateMachine κ] {io : Io} {transactionid outSocket : Int}
    {request : Option Message} {tr : Transaction κ}
    (h : osipTransactionInit κ io transactionid outSocket request = .ok tr) :
    Vacant tr ∧ tr.slots = fun _ => none := by
  unfold osipTransactionInit at h
  repeat' split at h
  all_goals cases h
  exact ⟨⟨fun _ => rfl, fun _ => rfl⟩, funext fun slot => by cases slot <;> rfl⟩

/-- Every message that a run is handed is in one slot or has been freed, each once, after every
event. -/
def OwnsMessages [StateMachine κ] (builds : Io → Transaction κ → Event → Option Message) : Prop :=
  ∀ (io : Io) (transactionid outSocket : Int) (request : Option Message) (tr : Transaction κ),
    osipTransactionInit κ io transactionid outSocket request = .ok tr →
    ∀ inputs : List (Io × Event), (∀ input ∈ inputs, input.2.Built) →
      ∃ steps, Records builds tr inputs steps ∧
        ∀ n, OwnsOnce (runTransaction tr (inputs.take n)).1
          ((runTransaction tr (inputs.take n)).2.filterMap Effect.freedMessage) (steps.take n)

theorem OwnsMessages.of_settles [StateMachine κ]
    {builds : Io → Transaction κ → Event → Option Message}
    (hsettles : ∀ (io : Io) (tr : Transaction κ) (evt : Event), evt.Built → Vacant tr →
      Settles tr evt (builds io tr evt) (osipTransactionExecute tr evt io)) :
    OwnsMessages builds := by
  intro io transactionid outSocket request tr hinit inputs hbuilt
  obtain ⟨hvacant, hslots⟩ := osipTransactionInit_vacant hinit
  obtain ⟨steps, hrecords⟩ := exists_records hsettles hvacant hbuilt
  refine ⟨steps, hrecords, fun n => OwnsOnce.of_run ?_⟩
  rw [← hslots]
  exact (hrecords.take n).run

/-- The four state machines; only an INVITE client builds a message of its own. -/
theorem osipTransactionExecute_ownsMessages : OwnsMessages ictBuildsAck ∧
    OwnsMessages (κ := Ist) (fun _ _ _ => none) ∧ OwnsMessages (κ := Nict) (fun _ _ _ => none) ∧
    OwnsMessages (κ := Nist) (fun _ _ _ => none) :=
  ⟨.of_settles fun io _ _ hbuilt hvacant => ict_execute_settles hbuilt io hvacant,
    .of_settles fun io _ _ hbuilt hvacant => ist_execute_settles hbuilt io hvacant,
    .of_settles fun io _ _ hbuilt hvacant => nict_execute_settles hbuilt io hvacant,
    .of_settles fun io _ _ hbuilt hvacant => nist_execute_settles hbuilt io hvacant⟩

/-- The 486 to an INVITE takes the place of no response, and the INVITE that comes again is
freed. -/
theorem osipTransactionExecute_ownsMessages_busyHere : ∃ ist : Transaction Ist,
    osipTransactionInit Ist connected 0 0 (some inviteOverTcp) = .ok ist ∧
      ∃ steps, Records (fun _ _ _ => none) ist busyInputs steps ∧
        OwnsOnce (runTransaction ist (busyInputs.take 3)).1
          ((runTransaction ist (busyInputs.take 3)).2.filterMap Effect.freedMessage)
          (steps.take 3) := by
  refine ⟨_, rfl, ?_⟩
  obtain ⟨steps, hrecords, howns⟩ := osipTransactionExecute_ownsMessages.2.1 connected 0 0
    (some inviteOverTcp) _ rfl busyInputs (by
      intro input hinput
      simp only [busyInputs, List.mem_cons, List.not_mem_nil, or_false] at hinput
      obtain rfl | rfl | rfl := hinput
      · exact .incoming 0 inviteOverTcp
      · exact .outgoing 0 busyHere
      · exact .incoming 0 inviteOverTcp)
  exact ⟨steps, hrecords, howns 3⟩

end Exosip
