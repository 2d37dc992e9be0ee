import Mathlib.Data.List.ReduceOption
import Exosip.Machine.Duplex
import Exosip.Transaction.Ownership

/-! A transaction at one end of a network: what one execution of each kind sends and takes in,
and what this says about the transaction at any time of its life. -/
namespace Exosip

variable {κ κ' : Type}

/-! ### What is sent and what arrives -/

/-- The types that `osip_parse` gives to messages. -/
def EventType.isIncoming : EventType → Bool
  | rcvReqinvite | rcvReqack | rcvRequest | rcvStatus1xx | rcvStatus2xx | rcvStatus3456xx => true
  | _ => false

def EventType.isStatus : EventType → Bool
  | rcvStatus1xx | rcvStatus2xx | rcvStatus3456xx => true
  | _ => false

def EventType.isFinal : EventType → Bool
  | rcvStatus2xx | rcvStatus3456xx => true
  | _ => false

/-- What an outgoing message is at the other end. -/
def EventType.arriving : EventType → EventType
  | sndReqinvite => rcvReqinvite
  | sndReqack => rcvReqack
  | sndRequest => rcvRequest
  | sndStatus1xx => rcvStatus1xx
  | sndStatus2xx => rcvStatus2xx
  | sndStatus3456xx => rcvStatus3456xx
  | type => type

/-- The type that the message has where it arrives. -/
abbrev Message.kind (sip : Message) : EventType := evtSetTypeIncomingSipmessage sip

def Message.isFinalResponse (sip : Message) : Bool := sip.kind.isFinal

/-- The message that an event brings in from the network. -/
def Event.incoming (evt : Event) : Option Message :=
  if evt.type.isIncoming then evt.sip else none

theorem arriving_evtSetTypeOutgoingSipmessage (sip : Message) :
    (evtSetTypeOutgoingSipmessage sip).arriving = sip.kind := by
  unfold evtSetTypeOutgoingSipmessage Message.kind evtSetTypeIncomingSipmessage
  split_ifs <;> rfl

theorem isIncoming_kind (sip : Message) : sip.kind.isIncoming = true := by
  unfold Message.kind evtSetTypeIncomingSipmessage
  split_ifs <;> rfl

theorem isIncoming_evtSetTypeOutgoingSipmessage (sip : Message) :
    (evtSetTypeOutgoingSipmessage sip).isIncoming = false := by
  unfold evtSetTypeOutgoingSipmessage
  split_ifs <;> rfl

theorem isIncoming_isMsg {type : EventType} (h : type.isIncoming = true) : type.isMsg = true := by
  cases type <;> first | rfl | cases h

namespace Event.Built

variable {evt : Event}

theorem brings (h : evt.Built) {type : EventType} (htype : evt.type = type)
    (hin : type.isIncoming = true) : ∃ sip, evt.sip = some sip ∧ evt.incoming = some sip ∧
      sip.kind = type := by
  subst htype
  cases h with
  | timer transactionid hmsg =>
      have hcontra := isIncoming_isMsg hin
      rw [hmsg] at hcontra
      cases hcontra
  | incoming transactionid sip => exact ⟨sip, rfl, if_pos hin, rfl⟩
  | outgoing transactionid sip =>
      rw [isIncoming_evtSetTypeOutgoingSipmessage] at hin
      cases hin

theorem takes (h : evt.Built) {type : EventType} (htype : evt.type = type)
    (hmsg : type.isMsg = true) (hout : type.isIncoming = false) :
    ∃ sip, evt.sip = some sip ∧ sip.kind = type.arriving := by
  subst htype
  cases h with
  | timer transactionid hnot =>
      rw [hnot] at hmsg
      cases hmsg
  | incoming transactionid sip =>
      rw [isIncoming_kind] at hout
      cases hout
  | outgoing transactionid sip =>
      exact ⟨sip, rfl, (arriving_evtSetTypeOutgoingSipmessage sip).symm⟩

end Event.Built

/-- A transaction at one end of the network. It gets the events that the stack builds, the
incoming ones around messages that arrive, and sends what it gives to `cb_send_message`. -/
def transactionSide (κ : Type) [StateMachine κ] :
    Machine.Side (Transaction κ) (Io × Event) Message where
  step tr input :=
    let out := osipTransactionExecute tr input.2 input.1
    (out.tr, out.transmissions.reduceOption)
  accepts incoming input := input.2.Built ∧ ∀ sip ∈ input.2.incoming, incoming sip

/-- What the transports and parsers between the two ends may make of a message: `received` and
`rport` are added to the Via, for one. A message stays what it is. -/
structure Carriage where
  carries : Message → Message → Prop
  kind : ∀ {sip sip'}, carries sip sip' → sip'.kind = sip.kind

/-! ### The client -/

/-- What one execution of a client transaction does to the exchange. -/
inductive Asks (requestType : EventType) (tr : Transaction κ) (evt : Event) (out : Outcome κ) :
    Prop
  | discard (same : out.tr = tr) (quiet : out.transmissions = [])
  | ask (sip : Message) (fresh : tr.state.phase = 0) (moved : 0 < out.tr.state.phase)
      (kind : sip.kind = requestType) (request : out.tr.origRequest = some sip)
      (last : out.tr.lastResponse = tr.lastResponse) (ack : out.tr.ack = tr.ack)
      (sent : ∀ m ∈ out.transmissions, m = some sip)
  | again (running : 0 < tr.state.phase) (forward : tr.state.phase ≤ out.tr.state.phase)
      (request : out.tr.origRequest = tr.origRequest)
      (last : out.tr.lastResponse = tr.lastResponse) (ack : out.tr.ack = tr.ack)
      (sent : ∀ m ∈ out.transmissions, m = tr.origRequest ∨ m = tr.ack)
  | hear (sip : Message) (running : 0 < tr.state.phase) (pending : ¬ tr.state.Late)
      (moved : 0 < out.tr.state.phase) (incoming : evt.incoming = some sip)
      (status : sip.kind.isStatus = true)
      (provisional : ¬ out.tr.state.Late → out.tr.ack = tr.ack ∧ sip.kind = .rcvStatus1xx)
      (request : out.tr.origRequest = tr.origRequest) (last : out.tr.lastResponse = some sip)
      (ack : out.tr.ack = tr.ack ∨ out.tr.ack = none ∨
        ∃ ack, out.tr.ack = some ack ∧ ack.kind = .rcvReqack ∧ sip.kind = .rcvStatus3456xx)
      (sent : ∀ m ∈ out.transmissions, m = out.tr.ack)

theorem ictCreateAck_kind {io : Io} {ict : Transaction Ict} {response : Option Message}
    {ack : Message} (h : ictCreateAck io ict response = some ack) : ack.kind = .rcvReqack := by
  simp only [ictCreateAck, Option.bind_eq_bind, Option.bind_eq_some_iff, Option.pure_def,
    Option.some.injEq] at h
  obtain ⟨-, -, response, -, orig, -, _, -, _, -, _, -, _, -, _, -, _, -, _, -, _, -, rfl⟩ := h
  rfl

theorem ictSndInvite_asks {ict : Transaction Ict} {evt : Event} (hbuilt : evt.Built) (io : Io)
    (h : ict.state = .ictPreCalling) (htype : evt.type = .sndReqinvite) :
    Asks .rcvReqinvite ict evt (ictSndInvite ict evt io) := by
  obtain ⟨sip, hsip, hkind⟩ := hbuilt.takes htype rfl rfl
  have hfresh : ict.state.phase = 0 := by rw [h]; rfl
  unfold ictSndInvite
  split_ifs
  · exact .ask sip hfresh (by simp [State.phase]) hkind hsip rfl rfl (by simp [hsip])
  · apply ictRequestSent_cases
    · exact fun err => .ask sip hfresh (by simp [State.phase]) hkind hsip rfl rfl (by simp [hsip])
    · exact .ask sip hfresh (by simp [State.phase]) hkind hsip rfl rfl (by simp [hsip])
    · exact .ask sip hfresh (by simp [State.phase]) hkind hsip rfl rfl (by simp [hsip])
  · exact .ask sip hfresh (by simp [State.phase]) hkind hsip rfl rfl (by simp [hsip])

theorem osipIctTimeoutAEvent_asks {ict : Transaction Ict} {evt : Event} (io : Io)
    (h : ict.state = .ictCalling) :
    Asks .rcvReqinvite ict evt (osipIctTimeoutAEvent ict evt io) := by
  have hrunning : 0 < ict.state.phase := by rw [h]; decide
  have hforward : ict.state.phase ≤ State.ictTerminated.phase := by rw [h]; decide
  unfold osipIctTimeoutAEvent
  split_ifs
  · exact .again hrunning hforward rfl rfl rfl (by simp)
  · apply ictRequestSent_cases
    · exact fun err => .again hrunning hforward rfl rfl rfl (by simp)
    · exact .again hrunning le_rfl rfl rfl rfl (by simp)
    · exact .again hrunning le_rfl rfl rfl rfl (by simp)
  · exact .again hrunning le_rfl rfl rfl rfl (by simp)

theorem ictRcv3456xx_asks {ict : Transaction Ict} {evt : Event} (hbuilt : evt.Built) (io : Io)
    (h : ict.state = .ictCalling ∨ ict.state = .ictProceeding)
    (htype : evt.type = .rcvStatus3456xx) :
    Asks .rcvReqinvite ict evt (ictRcv3456xx ict evt io) := by
  obtain ⟨sip, hsip, hincoming, hkind⟩ := hbuilt.brings htype rfl
  have hrunning : 0 < ict.state.phase := by rcases h with h | h <;> rw [h] <;> decide
  have hpending : ¬ ict.state.Late := by rcases h with h | h <;> rw [h] <;> decide
  have hstatus : sip.kind.isStatus = true := by rw [hkind]; rfl
  have hstate : ict.state ≠ .ictCompleted := by rcases h with h | h <;> rw [h] <;> decide
  unfold ictRcv3456xx
  rw [if_pos hstate]
  cases hack : ictCreateAck io ict evt.sip with
  | none =>
      refine .hear sip hrunning hpending ?_ hincoming hstatus ?_ ?_ ?_ (.inr (.inl ?_)) ?_
      · simp [State.phase]
      · exact fun hopen => absurd (by simp [State.Late, State.phase]) hopen
      · rfl
      · exact hsip
      · rfl
      · simp
  | some ack =>
      have hackKind := ictCreateAck_kind hack
      dsimp only
      split_ifs
      all_goals
        refine .hear sip hrunning hpending ?_ hincoming hstatus ?_ ?_ ?_
          (.inr (.inr ⟨ack, ?_, hackKind, hkind⟩)) ?_
        · simp [State.phase]
        · exact fun hopen => absurd (by simp [State.Late, State.phase]) hopen
        · simp
        · simpa using hsip
        · simp
        · simp

theorem ict_execute_asks (ict : Transaction Ict) {evt : Event} (hbuilt : evt.Built) (io : Io) :
    Asks .rcvReqinvite ict evt (osipTransactionExecute ict evt io) := by
  apply ict_execute_cases (P := fun handler => Asks .rcvReqinvite ict evt (handler io))
  case sndInvite => exact fun h htype => ictSndInvite_asks hbuilt io h htype
  case timeoutA => exact fun h _ => osipIctTimeoutAEvent_asks io h
  case timeoutB =>
    intro h _
    exact .again (by rw [h]; decide) (by simp [h, osipIctTimeoutBEvent, State.phase]) rfl rfl rfl
      (by simp [osipIctTimeoutBEvent])
  case rcv1xx =>
    intro h htype
    obtain ⟨sip, hsip, hincoming, hkind⟩ := hbuilt.brings htype rfl
    exact .hear sip (by rcases h with h | h <;> rw [h] <;> decide)
      (by rcases h with h | h <;> rw [h] <;> decide) (Nat.succ_pos _) hincoming (by rw [hkind]; rfl)
      (fun _ => ⟨rfl, hkind⟩) rfl hsip (.inl rfl) (by simp [ictRcv1xx])
  case rcv2xx =>
    intro h htype
    obtain ⟨sip, hsip, hincoming, hkind⟩ := hbuilt.brings htype rfl
    exact .hear sip (by rcases h with h | h <;> rw [h] <;> decide)
      (by rcases h with h | h <;> rw [h] <;> decide) (Nat.succ_pos _) hincoming (by rw [hkind]; rfl)
      (fun hopen => absurd (by simp [ictRcv2xx, State.Late, State.phase]) hopen) rfl hsip
      (.inl rfl) (by simp [ictRcv2xx])
  case rcv3456xx => exact fun h htype => ictRcv3456xx_asks hbuilt io h htype
  case retransmitAck =>
    intro h _
    have hrunning : 0 < ict.state.phase := by rw [h]; decide
    unfold ictRetransmitAck
    simp only
    split_ifs
    · exact .again hrunning (by simp [h, State.phase]) rfl rfl rfl (by simp)
    · exact .again hrunning (by simp [h, State.phase]) rfl rfl rfl (by simp)
  case timeoutD =>
    intro h _
    exact .again (by rw [h]; decide) (by simp [h, osipIctTimeoutDEvent, State.phase]) rfl rfl rfl
      (by simp [osipIctTimeoutDEvent])
  case useless => exact fun _ => .discard rfl (by simp)
  case freed => exact fun _ => .discard rfl (by simp)

theorem nict_execute_asks (nict : Transaction Nict) {evt : Event} (hbuilt : evt.Built) (io : Io) :
    Asks .rcvRequest nict evt (osipTransactionExecute nict evt io) := by
  apply nict_execute_cases (P := fun handler => Asks .rcvRequest nict evt (handler io))
  case sndRequest =>
    intro h htype
    obtain ⟨sip, hsip, hkind⟩ := hbuilt.takes htype rfl rfl
    have hfresh : nict.state.phase = 0 := by rw [h]; rfl
    unfold nictSndRequest
    split_ifs
    · exact .ask sip hfresh (by simp [State.phase]) hkind hsip rfl rfl (by simp [hsip])
    · apply nictWithProtocol_cases
      · exact .ask sip hfresh (by simp [State.phase]) hkind hsip rfl rfl (by simp [hsip])
      · exact fun proto =>
          .ask sip hfresh (by simp [State.phase]) hkind hsip rfl rfl (by simp [hsip])
  case timeoutF =>
    intro h _
    exact .again (by rcases h with h | h <;> rw [h] <;> decide)
      (by rcases h with h | h <;> simp [h, osipNictTimeoutFEvent, State.phase]) rfl rfl rfl
      (by simp [osipNictTimeoutFEvent])
  case timeoutE =>
    intro h _
    have hrunning : 0 < nict.state.phase := by rcases h with h | h <;> rw [h] <;> decide
    have hforward : nict.state.phase ≤ State.nictTerminated.phase := by
      rcases h with h | h <;> rw [h] <;> decide
    unfold osipNictTimeoutEEvent
    simp only
    split_ifs
    · exact .again hrunning hforward rfl rfl rfl (by simp)
    · apply nictWithProtocol_cases
      · exact .again hrunning hforward rfl rfl rfl (by simp)
      · intro proto
        split_ifs
        · exact .again hrunning le_rfl rfl rfl rfl (by simp)
        · exact .again hrunning le_rfl rfl rfl rfl (by simp)
    · exact .again hrunning le_rfl rfl rfl rfl (by simp)
  case rcv1xx =>
    intro h htype
    obtain ⟨sip, hsip, hincoming, hkind⟩ := hbuilt.brings htype rfl
    exact .hear sip (by rcases h with h | h <;> rw [h] <;> decide)
      (by rcases h with h | h <;> rw [h] <;> decide) (Nat.succ_pos _) hincoming
      (by rw [hkind]; rfl) (fun _ => ⟨rfl, hkind⟩) rfl hsip (.inl rfl) (by simp [nictRcv1xx])
  case rcv23456xx =>
    intro h htype
    obtain ⟨sip, hsip, hincoming, hstatus⟩ : ∃ sip, evt.sip = some sip ∧
        evt.incoming = some sip ∧ sip.kind.isStatus = true := by
      rcases htype with htype | htype
      · obtain ⟨sip, hsip, hincoming, hkind⟩ := hbuilt.brings htype rfl
        exact ⟨sip, hsip, hincoming, by rw [hkind]; rfl⟩
      · obtain ⟨sip, hsip, hincoming, hkind⟩ := hbuilt.brings htype rfl
        exact ⟨sip, hsip, hincoming, by rw [hkind]; rfl⟩
    exact .hear sip (by rcases h with h | h <;> rw [h] <;> decide)
      (by rcases h with h | h <;> rw [h] <;> decide) (Nat.succ_pos _) hincoming hstatus
      (fun hopen => absurd (by simp [nictRcv23456xx, State.Late, State.phase]) hopen) rfl hsip
      (.inl rfl) (by simp [nictRcv23456xx])
  case timeoutK =>
    intro h _
    exact .again (by rw [h]; decide) (by simp [h, osipNictTimeoutKEvent, State.phase]) rfl rfl rfl
      (by simp [osipNictTimeoutKEvent])
  case useless => exact fun _ => .discard rfl (by simp)
  case freed => exact fun _ => .discard rfl (by simp)

/-- What a client transaction has sent and heard, at any time of its life. -/
structure Asking (requestType : EventType) (tr : Transaction κ) (sent : List Message)
    (incoming : Message → Prop) : Prop where
  fresh : tr.state.phase = 0 →
    tr.origRequest = none ∧ tr.lastResponse = none ∧ tr.ack = none ∧ sent = []
  request : ∀ m ∈ tr.origRequest, m.kind = requestType
  last : ∀ m ∈ tr.lastResponse, incoming m ∧ m.kind.isStatus = true
  pending : ¬ tr.state.Late → tr.ack = none ∧ ∀ m ∈ tr.lastResponse, m.kind = .rcvStatus1xx
  ack : ∀ m ∈ tr.ack,
    m.kind = .rcvReqack ∧ ∃ f, tr.lastResponse = some f ∧ f.kind = .rcvStatus3456xx
  sent : ∀ m ∈ sent, tr.origRequest = some m ∨ tr.ack = some m

namespace Asking

variable {requestType : EventType} {tr : Transaction κ} {sent : List Message}
  {incoming : Message → Prop}

theorem mono {incoming' : Message → Prop} (hmono : ∀ m, incoming m → incoming' m)
    (h : Asking requestType tr sent incoming) : Asking requestType tr sent incoming' :=
  { h with last := fun m hm => ⟨hmono m (h.last m hm).1, (h.last m hm).2⟩ }

theorem step (h : Asking requestType tr sent incoming) {evt : Event} {out : Outcome κ}
    (hasks : Asks requestType tr evt out) (hincoming : ∀ sip ∈ evt.incoming, incoming sip) :
    Asking requestType out.tr (sent ++ out.transmissions.reduceOption) incoming := by
  cases hasks with
  | discard same quiet =>
      rw [same, quiet, List.reduceOption_nil, List.append_nil]
      exact h
  | ask sip fresh moved kind request last ack hsent =>
      obtain ⟨-, hlast, hack, hnone⟩ := h.fresh fresh
      rw [hlast] at last
      rw [hack] at ack
      constructor
      · exact fun hzero => absurd hzero moved.ne'
      · simp [request, kind]
      · simp [last]
      · simp [last, ack]
      · simp [ack]
      · intro m hm
        rw [hnone, List.nil_append, List.reduceOption_mem_iff] at hm
        exact .inl (request.trans (hsent _ hm).symm)
  | again running forward request last ack hsent =>
      constructor
      · exact fun hzero => absurd hzero (running.trans_le forward).ne'
      · rw [request]; exact h.request
      · rw [last]; exact h.last
      · rw [last, ack]
        exact fun hopen => h.pending fun hlate => hopen (hlate.trans forward)
      · rw [last, ack]; exact h.ack
      · intro m hm
        rw [request, ack]
        rcases List.mem_append.1 hm with hm | hm
        · exact h.sent m hm
        · rcases hsent _ (List.reduceOption_mem_iff.1 hm) with hm | hm
          · exact .inl hm.symm
          · exact .inr hm.symm
  | hear sip running pending moved arrives status provisional request last ack hsent =>
      have hnone := (h.pending pending).1
      constructor
      · exact fun hzero => absurd hzero moved.ne'
      · rw [request]; exact h.request
      · rw [last]
        rintro m ⟨⟩
        exact ⟨hincoming _ arrives, status⟩
      · intro hopen
        rw [last, (provisional hopen).1]
        refine ⟨hnone, ?_⟩
        rintro m ⟨⟩
        exact (provisional hopen).2
      · intro m hm
        rcases ack with ack | ack | ⟨a, ack, hkind, hfinal⟩
        · rw [ack, hnone] at hm
          cases hm
        · rw [ack] at hm
          cases hm
        · rw [ack] at hm
          cases hm
          exact ⟨hkind, sip, last, hfinal⟩
      · intro m hm
        rcases List.mem_append.1 hm with hm | hm
        · rcases h.sent m hm with hm | hm
          · exact .inl (request.trans hm)
          · rw [hnone] at hm
            cases hm
        · exact .inr (hsent _ (List.reduceOption_mem_iff.1 hm)).symm

end Asking

/-! ### The server -/

/-- What one execution of a server transaction does to the exchange. -/
inductive Replies (requestType : EventType) (tr : Transaction κ) (evt : Event)
    (out : Outcome κ) : Prop
  | discard (same : out.tr = tr) (quiet : out.transmissions = [])
  | hear (sip : Message) (fresh : tr.state.phase = 0) (moved : 0 < out.tr.state.phase)
      (incoming : evt.incoming = some sip) (kind : sip.kind = requestType)
      (request : out.tr.origRequest = some sip) (last : out.tr.lastResponse = tr.lastResponse)
      (ack : out.tr.ack = tr.ack) (quiet : out.transmissions = [])
  | again (running : 0 < tr.state.phase) (forward : tr.state.phase ≤ out.tr.state.phase)
      (request : out.tr.origRequest = tr.origRequest)
      (last : out.tr.lastResponse = tr.lastResponse) (ack : out.tr.ack = tr.ack)
      (sent : ∀ m ∈ out.transmissions, m = tr.lastResponse)
  | answer (sip : Message) (running : 0 < tr.state.phase) (pending : ¬ tr.state.Late)
      (moved : 0 < out.tr.state.phase) (status : sip.kind.isStatus = true)
      (provisional : ¬ out.tr.state.Late → sip.kind = .rcvStatus1xx)
      (request : out.tr.origRequest = tr.origRequest) (last : out.tr.lastResponse = some sip)
      (ack : out.tr.ack = tr.ack) (sent : ∀ m ∈ out.transmissions, m = some sip)
  | acknowledge (sip : Message) (late : tr.state.Late)
      (forward : tr.state.phase ≤ out.tr.state.phase) (incoming : evt.incoming = some sip)
      (kind : sip.kind = .rcvReqack) (request : out.tr.origRequest = tr.origRequest)
      (last : out.tr.lastResponse = tr.lastResponse) (ack : out.tr.ack = some sip)
      (quiet : out.transmissions = [])

theorem ist_execute_replies (ist : Transaction Ist) {evt : Event} (hbuilt : evt.Built) (io : Io) :
    Replies .rcvReqinvite ist evt (osipTransactionExecute ist evt io) := by
  apply ist_execute_cases (P := fun handler => Replies .rcvReqinvite ist evt (handler io))
  case rcvInvite =>
    intro h htype
    obtain ⟨sip, hsip, hincoming, hkind⟩ := hbuilt.brings htype rfl
    unfold istRcvInvite
    split_ifs with hstate hlast
    · exact .hear sip (by rw [hstate]; rfl) (by simp [State.phase]) hincoming hkind hsip rfl rfl
        (by simp)
    · have hrunning : 0 < ist.state.phase := by
        rcases h.resolve_left hstate with h | h <;> rw [h] <;> decide
      have hforward : ist.state.phase ≤ State.istTerminated.phase := by
        rcases h.resolve_left hstate with h | h <;> rw [h] <;> decide
      apply sndXxxOrError_cases
      · exact .again hrunning hforward rfl rfl rfl (by simp)
      · exact fun host port _ => .again hrunning hforward rfl rfl rfl (by simp)
      · exact fun host port _ => .again hrunning le_rfl rfl rfl rfl (by simp)
    · have hrunning : 0 < ist.state.phase := by
        rcases h.resolve_left hstate with h | h <;> rw [h] <;> decide
      exact .again hrunning le_rfl rfl rfl rfl (by simp)
  case timeoutG =>
    intro h _
    have hrunning : 0 < ist.state.phase := by rw [h]; decide
    have hforward : ist.state.phase ≤ State.istTerminated.phase := by rw [h]; decide
    unfold osipIstTimeoutGEvent
    apply sndXxxOrError_cases
    · exact .again hrunning hforward rfl rfl rfl (by simp)
    · exact fun host port _ => .again hrunning hforward rfl rfl rfl (by simp)
    · exact fun host port _ => .again hrunning le_rfl rfl rfl rfl (by simp)
  case timeoutH =>
    intro h _
    exact .again (by rw [h]; decide) (by simp [h, osipIstTimeoutHEvent, State.phase]) rfl rfl rfl
      (by simp [osipIstTimeoutHEvent])
  case snd1xx =>
    intro h htype
    obtain ⟨sip, hsip, hkind⟩ := hbuilt.takes htype rfl rfl
    have hrunning : 0 < ist.state.phase := by rw [h]; decide
    have hpending : ¬ ist.state.Late := by rw [h]; decide
    have hstatus : sip.kind.isStatus = true := by rw [hkind]; rfl
    unfold istSnd1xx
    apply sndXxxOrError_cases
    · exact .answer sip hrunning hpending (by simp [State.phase]) hstatus (fun _ => hkind)
        rfl hsip rfl (by simp)
    · exact fun host port _ => .answer sip hrunning hpending (by simp [State.phase]) hstatus
        (fun _ => hkind) rfl hsip rfl (by simp [hsip])
    · exact fun host port _ => .answer sip hrunning hpending hrunning hstatus
        (fun _ => hkind) rfl hsip rfl (by simp [hsip])
  case snd2xx =>
    intro h htype
    obtain ⟨sip, hsip, hkind⟩ := hbuilt.takes htype rfl rfl
    have hrunning : 0 < ist.state.phase := by rw [h]; decide
    have hpending : ¬ ist.state.Late := by rw [h]; decide
    have hstatus : sip.kind.isStatus = true := by rw [hkind]; rfl
    have hlate : State.istTerminated.Late := by decide
    unfold istSnd2xx
    apply sndXxxOrError_cases
    · exact .answer sip hrunning hpending (by simp [State.phase]) hstatus
        (fun hopen => absurd hlate hopen) rfl hsip rfl (by simp)
    · exact fun host port _ => .answer sip hrunning hpending (by simp [State.phase]) hstatus
        (fun hopen => absurd hlate hopen) rfl hsip rfl (by simp [hsip])
    · exact fun host port _ => .answer sip hrunning hpending (by simp [State.phase]) hstatus
        (fun hopen => absurd hlate hopen) rfl hsip rfl (by simp [hsip])
  case snd3456xx =>
    intro h htype
    obtain ⟨sip, hsip, hkind⟩ := hbuilt.takes htype rfl rfl
    have hrunning : 0 < ist.state.phase := by rw [h]; decide
    have hpending : ¬ ist.state.Late := by rw [h]; decide
    have hstatus : sip.kind.isStatus = true := by rw [hkind]; rfl
    have hlate : State.istTerminated.Late := by decide
    have hcompleted : State.istCompleted.Late := by decide
    unfold istSnd3456xx
    apply sndXxxOrError_cases
    · exact .answer sip hrunning hpending (by simp [State.phase]) hstatus
        (fun hopen => absurd hlate hopen) rfl hsip rfl (by simp)
    · exact fun host port _ => .answer sip hrunning hpending (by simp [State.phase]) hstatus
        (fun hopen => absurd hlate hopen) rfl hsip rfl (by simp [hsip])
    · exact fun host port _ => .answer sip hrunning hpending (by simp [State.phase]) hstatus
        (fun hopen => absurd hcompleted hopen) rfl hsip rfl (by simp [hsip])
  case rcvAck =>
    intro h htype
    obtain ⟨sip, hsip, hincoming, hkind⟩ := hbuilt.brings htype rfl
    exact .acknowledge sip (by rcases h with h | h <;> rw [h] <;> decide)
      (by rcases h with h | h <;> simp [h, istRcvAck, State.phase]) hincoming hkind rfl rfl hsip
      (by simp [istRcvAck])
  case timeoutI =>
    intro h _
    exact .again (by rw [h]; decide) (by simp [h, osipIstTimeoutIEvent, State.phase]) rfl rfl rfl
      (by simp [osipIstTimeoutIEvent])
  case useless => exact fun _ => .discard rfl (by simp)
  case freed => exact fun _ => .discard rfl (by simp)

theorem nist_execute_replies (nist : Transaction Nist) {evt : Event} (hbuilt : evt.Built)
    (io : Io) : Replies .rcvRequest nist evt (osipTransactionExecute nist evt io) := by
  apply nist_execute_cases (P := fun handler => Replies .rcvRequest nist evt (handler io))
  case rcvRequest =>
    intro h htype
    obtain ⟨sip, hsip, hincoming, hkind⟩ := hbuilt.brings htype rfl
    unfold nistRcvRequest
    split_ifs with hstate hlast
    · exact .hear sip (by rw [hstate]; rfl) (by simp [State.phase]) hincoming hkind hsip rfl rfl
        (by simp)
    · have hrunning : 0 < nist.state.phase := by
        rcases h.resolve_left hstate with h | h <;> rw [h] <;> decide
      have hforward : nist.state.phase ≤ State.nistTerminated.phase := by
        rcases h.resolve_left hstate with h | h <;> rw [h] <;> decide
      apply sndXxxOrError_cases
      · exact .again hrunning hforward rfl rfl rfl (by simp)
      · exact fun host port _ => .again hrunning hforward rfl rfl rfl (by simp)
      · exact fun host port _ => .again hrunning le_rfl rfl rfl rfl (by simp)
    · have hrunning : 0 < nist.state.phase := by
        rcases h.resolve_left hstate with h | h <;> rw [h] <;> decide
      exact .again hrunning le_rfl rfl rfl rfl (by simp)
  case snd1xx =>
    intro h htype
    obtain ⟨sip, hsip, hkind⟩ := hbuilt.takes htype rfl rfl
    have hrunning : 0 < nist.state.phase := by rcases h with h | h <;> rw [h] <;> decide
    have hpending : ¬ nist.state.Late := by rcases h with h | h <;> rw [h] <;> decide
    have hstatus : sip.kind.isStatus = true := by rw [hkind]; rfl
    unfold nistSnd1xx
    apply sndXxxOrError_cases
    · exact .answer sip hrunning hpending (by simp [State.phase]) hstatus (fun _ => hkind)
        rfl hsip rfl (by simp)
    · exact fun host port _ => .answer sip hrunning hpending (by simp [State.phase]) hstatus
        (fun _ => hkind) rfl hsip rfl (by simp [hsip])
    · exact fun host port _ => .answer sip hrunning hpending (by simp [State.phase]) hstatus
        (fun _ => hkind) rfl hsip rfl (by simp [hsip])
  case snd23456xx =>
    intro h htype
    obtain ⟨sip, hsip, hstatus⟩ : ∃ sip, evt.sip = some sip ∧ sip.kind.isStatus = true := by
      rcases htype with htype | htype
      · obtain ⟨sip, hsip, hkind⟩ := hbuilt.takes htype rfl rfl
        exact ⟨sip, hsip, by rw [hkind]; rfl⟩
      · obtain ⟨sip, hsip, hkind⟩ := hbuilt.takes htype rfl rfl
        exact ⟨sip, hsip, by rw [hkind]; rfl⟩
    have hrunning : 0 < nist.state.phase := by rcases h with h | h <;> rw [h] <;> decide
    have hpending : ¬ nist.state.Late := by rcases h with h | h <;> rw [h] <;> decide
    have hlate : State.nistTerminated.Late := by decide
    have hcompleted : State.nistCompleted.Late := by decide
    unfold nistSnd23456xx
    apply sndXxxOrError_cases
    · exact .answer sip hrunning hpending (by simp [State.phase]) hstatus
        (fun hopen => absurd hlate hopen) rfl hsip rfl (by simp)
    · exact fun host port _ => .answer sip hrunning hpending (by simp [State.phase]) hstatus
        (fun hopen => absurd hlate hopen) rfl hsip rfl (by simp [hsip])
    · exact fun host port _ => .answer sip hrunning hpending (by simp [State.phase]) hstatus
        (fun hopen => absurd hcompleted hopen) rfl hsip rfl (by simp [hsip])
  case timeoutJ =>
    intro h _
    exact .again (by rw [h]; decide) (by simp [h, osipNistTimeoutJEvent, State.phase]) rfl rfl rfl
      (by simp [osipNistTimeoutJEvent])
  case useless => exact fun _ => .discard rfl (by simp)
  case freed => exact fun _ => .discard rfl (by simp)

/-- What a server transaction has heard and sent, at any time of its life. -/
structure Replying (requestType : EventType) (tr : Transaction κ) (sent : List Message)
    (incoming : Message → Prop) : Prop where
  fresh : tr.state.phase = 0 →
    tr.origRequest = none ∧ tr.lastResponse = none ∧ tr.ack = none ∧ sent = []
  request : ∀ m ∈ tr.origRequest, incoming m ∧ m.kind = requestType
  started : 0 < tr.state.phase → tr.origRequest.isSome
  last : ∀ m ∈ tr.lastResponse, m.kind.isStatus = true
  pending : ¬ tr.state.Late → tr.ack = none ∧ ∀ m ∈ tr.lastResponse, m.kind = .rcvStatus1xx
  ack : ∀ m ∈ tr.ack, incoming m ∧ m.kind = .rcvReqack
  sent : ∀ m ∈ sent, m.kind.isStatus = true ∧
    (m.isFinalResponse = true → tr.lastResponse = some m ∧ tr.state.Late)

theorem isFinalResponse_of_kind {sip : Message} (h : sip.kind = .rcvStatus1xx) :
    sip.isFinalResponse = false := by
  rw [Message.isFinalResponse, h]
  rfl

namespace Replying

variable {requestType : EventType} {tr : Transaction κ} {sent : List Message}
  {incoming : Message → Prop}

theorem mono {incoming' : Message → Prop} (hmono : ∀ m, incoming m → incoming' m)
    (h : Replying requestType tr sent incoming) : Replying requestType tr sent incoming' :=
  { h with
    request := fun m hm => ⟨hmono m (h.request m hm).1, (h.request m hm).2⟩
    ack := fun m hm => ⟨hmono m (h.ack m hm).1, (h.ack m hm).2⟩ }

theorem step (h : Replying requestType tr sent incoming) {evt : Event} {out : Outcome κ}
    (hreplies : Replies requestType tr evt out)
    (hincoming : ∀ sip ∈ evt.incoming, incoming sip) :
    Replying requestType out.tr (sent ++ out.transmissions.reduceOption) incoming := by
  cases hreplies with
  | discard same quiet =>
      rw [same, quiet, List.reduceOption_nil, List.append_nil]
      exact h
  | hear sip fresh moved arrives kind request last ack quiet =>
      obtain ⟨-, hlast, hack, hnone⟩ := h.fresh fresh
      rw [hlast] at last
      rw [hack] at ack
      rw [quiet, hnone]
      constructor
      · exact fun hzero => absurd hzero moved.ne'
      · rw [request]
        rintro m ⟨⟩
        exact ⟨hincoming _ arrives, kind⟩
      · simp [request]
      · simp [last]
      · simp [last, ack]
      · simp [ack]
      · simp
  | again running forward request last ack hsent =>
      have hrunning : 0 < out.tr.state.phase := running.trans_le forward
      constructor
      · exact fun hzero => absurd hzero hrunning.ne'
      · rw [request]; exact h.request
      · rw [request]; exact fun _ => h.started running
      · rw [last]; exact h.last
      · rw [last, ack]
        exact fun hopen => h.pending fun hlate => hopen (hlate.trans forward)
      · rw [ack]; exact h.ack
      · intro m hm
        rw [last]
        rcases List.mem_append.1 hm with hm | hm
        · obtain ⟨hstatus, hfinal⟩ := h.sent m hm
          exact ⟨hstatus, fun hm => ⟨(hfinal hm).1, (hfinal hm).2.trans forward⟩⟩
        · have hstored := hsent _ (List.reduceOption_mem_iff.1 hm)
          refine ⟨h.last m hstored.symm, fun hfinal => ⟨hstored.symm, ?_⟩⟩
          by_contra hopen
          have hkind := (h.pending fun hlate => hopen (hlate.trans forward)).2 m hstored.symm
          rw [isFinalResponse_of_kind hkind] at hfinal
          cases hfinal
  | answer sip running pending moved status provisional request last ack hsent =>
      obtain ⟨hnone, hprovisional⟩ := h.pending pending
      constructor
      · exact fun hzero => absurd hzero moved.ne'
      · rw [request]; exact h.request
      · rw [request]; exact fun _ => h.started running
      · rw [last]
        rintro m ⟨⟩
        exact status
      · intro hopen
        rw [last, ack]
        refine ⟨hnone, ?_⟩
        rintro m ⟨⟩
        exact provisional hopen
      · rw [ack]; exact h.ack
      · intro m hm
        rcases List.mem_append.1 hm with hm | hm
        · obtain ⟨hstatus, hfinal⟩ := h.sent m hm
          exact ⟨hstatus, fun hm => absurd (hfinal hm).2 pending⟩
        · cases hsent _ (List.reduceOption_mem_iff.1 hm)
          refine ⟨status, fun hfinal => ⟨last, ?_⟩⟩
          by_contra hopen
          rw [isFinalResponse_of_kind (provisional hopen)] at hfinal
          cases hfinal
  | acknowledge sip late forward arrives kind request last ack quiet =>
      have hrunning : 0 < tr.state.phase := lt_of_lt_of_le (by decide) late
      constructor
      · exact fun hzero => absurd hzero (hrunning.trans_le forward).ne'
      · rw [request]; exact h.request
      · rw [request]; exact fun _ => h.started hrunning
      · rw [last]; exact h.last
      · exact fun hopen => absurd (late.trans forward) hopen
      · rw [ack]
        rintro m ⟨⟩
        exact ⟨hincoming _ arrives, kind⟩
      · rw [quiet, List.reduceOption_nil, List.append_nil, last]
        intro m hm
        obtain ⟨hstatus, hfinal⟩ := h.sent m hm
        exact ⟨hstatus, fun hm => ⟨(hfinal hm).1, (hfinal hm).2.trans forward⟩⟩

end Replying

end Exosip
