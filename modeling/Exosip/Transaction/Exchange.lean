import Exosip.Machine.Exchange
import Exosip.Machine.Duplex
import Exosip.Transaction.Network

/-! A client transaction and the server transaction of its peer, over a network that loses,
delays, reorders and repeats messages. Together they are one exchange of a request for a final
response. -/
namespace Exosip

variable {κ κ' : Type}

/-- The two ends and what is under way between them. -/
abbrev Dialogue (κ κ' : Type) := Machine.Duplex (Transaction κ) (Transaction κ') Message

def exchange (link : Dialogue κ κ') : Machine.Exchange Message where
  asked := link.left.origRequest
  heard := link.right.origRequest
  answered := link.right.lastResponse.filter (·.isFinalResponse)
  learned := link.left.lastResponse.filter (·.isFinalResponse)
  acknowledged := link.right.ack.isSome

/-- Two kinds of transactions, the one made to ask the other. -/
structure Converse (requestType : EventType) (κ κ' : Type) [StateMachine κ] [StateMachine κ'] :
    Prop where
  clientFresh : (StateMachine.preState κ).phase = 0
  serverFresh : (StateMachine.preState κ').phase = 0
  notAck : requestType ≠ .rcvReqack
  asks : ∀ (tr : Transaction κ) {evt : Event}, evt.Built → ∀ io : Io,
    Asks requestType tr evt (osipTransactionExecute tr evt io)
  replies : ∀ (tr : Transaction κ') {evt : Event}, evt.Built → ∀ io : Io,
    Replies requestType tr evt (osipTransactionExecute tr evt io)

theorem ict_ist_converse : Converse .rcvReqinvite Ict Ist where
  clientFresh := rfl
  serverFresh := rfl
  notAck := by decide
  asks := ict_execute_asks
  replies := ist_execute_replies

theorem nict_nist_converse : Converse .rcvRequest Nict Nist where
  clientFresh := rfl
  serverFresh := rfl
  notAck := by decide
  asks := nict_execute_asks
  replies := nist_execute_replies

section Exchange

/-- One of the ends executes an event. -/
abbrev deliver [StateMachine κ] [StateMachine κ'] : Machine.Step (Dialogue κ κ') ((Io × Event) ⊕ (Io × Event)) Empty :=
  Machine.Duplex.step (transactionSide κ) (transactionSide κ')

/-- A message that an event brings was sent by the other end before. -/
abbrev Delivers [StateMachine κ] [StateMachine κ'] (way : Carriage) :
    Dialogue κ κ' → (Io × Event) ⊕ (Io × Event) → Prop :=
  Machine.Duplex.Accepts way.carries (transactionSide κ) (transactionSide κ')

variable {way : Carriage} {requestType : EventType}

abbrev Conversing (requestType : EventType) (way : Carriage) : Dialogue κ κ' → Prop :=
  Machine.Duplex.Both way.carries (Asking requestType) (Replying requestType)

theorem Converse.keeps_asking [StateMachine κ] [StateMachine κ'] (h : Converse requestType κ κ') :
    (transactionSide κ).Keeps (Asking requestType) where
  mono hmono hasking := hasking.mono hmono
  step hinput hasking := hasking.step (h.asks _ hinput.1 _) hinput.2

theorem Converse.keeps_replying [StateMachine κ] [StateMachine κ'] (h : Converse requestType κ κ') :
    (transactionSide κ').Keeps (Replying requestType) where
  mono hmono hreplying := hreplying.mono hmono
  step hinput hreplying := hreplying.step (h.replies _ hinput.1 _) hinput.2

theorem filter_isFinalResponse_eq_none {last : Option Message}
    (h : ∀ m ∈ last, m.kind = .rcvStatus1xx) : last.filter (·.isFinalResponse) = none := by
  rw [Option.filter_eq_none_iff]
  intro m hm
  rw [isFinalResponse_of_kind (h m hm)]
  simp

theorem isFinalResponse_of_carries {sip sip' : Message} (h : way.carries sip sip') :
    sip'.isFinalResponse = sip.isFinalResponse := by
  rw [Message.isFinalResponse, Message.isFinalResponse, way.kind h]

namespace Conversing

variable {link : Dialogue κ κ'}

theorem response (h : Conversing requestType way link) {f : Message}
    (harrives : Machine.Arrives way.carries link.toLeft f) (hfinal : f.isFinalResponse = true) :
    ∃ g, link.right.lastResponse = some g ∧ g.isFinalResponse = true ∧ way.carries g f ∧
      link.right.state.Late := by
  obtain ⟨g, hsent, hcarries⟩ := harrives
  rw [isFinalResponse_of_carries hcarries] at hfinal
  obtain ⟨hstored, hlate⟩ := (h.2.sent g hsent).2 hfinal
  exact ⟨g, hstored, hfinal, hcarries, hlate⟩

theorem request (h : Conversing requestType way link) (hnot : requestType ≠ .rcvReqack)
    {m : Message} (harrives : Machine.Arrives way.carries link.toRight m)
    (hkind : m.kind = requestType) :
    ∃ request, link.left.origRequest = some request ∧ way.carries request m := by
  obtain ⟨original, hsent, hcarries⟩ := harrives
  rcases h.1.sent original hsent with hrequest | hack
  · exact ⟨original, hrequest, hcarries⟩
  · have hackKind := (h.1.ack original hack).1
    rw [← way.kind hcarries, hkind] at hackKind
    exact absurd hackKind hnot

theorem acknowledged (h : Conversing requestType way link) (hnot : requestType ≠ .rcvReqack)
    {m : Message} (harrives : Machine.Arrives way.carries link.toRight m)
    (hkind : m.kind = .rcvReqack) :
    link.left.state.Late ∧
      ∃ f, link.left.lastResponse = some f ∧ f.kind = .rcvStatus3456xx := by
  obtain ⟨original, hsent, hcarries⟩ := harrives
  rw [way.kind hcarries] at hkind
  rcases h.1.sent original hsent with hrequest | hack
  · exact absurd ((h.1.request original hrequest).symm.trans hkind) hnot
  · refine ⟨?_, (h.1.ack original hack).2⟩
    by_contra hopen
    rw [(h.1.pending hopen).1] at hack
    cases hack

end Conversing

variable [StateMachine κ] [StateMachine κ']

theorem Converse.exchange_step (hconverse : Converse requestType κ κ') {link : Dialogue κ κ'}
    {input : (Io × Event) ⊕ (Io × Event)} (hinput : Delivers way link input)
    (h : Conversing requestType way link) :
    Relation.ReflGen (Machine.Exchange.Advance way.carries) (exchange link)
      (exchange (deliver link input).1) := by
  cases input with
  | inl input =>
      have hasks := hconverse.asks link.left hinput.1 input.1
      cases hasks with
      | discard same quiet =>
          have heq : exchange (deliver link (.inl input)).1 = exchange link := by
            simp [exchange, deliver, Machine.Duplex.step, transactionSide, same]
          rw [heq]
      | ask sip fresh moved kind request last ack sent =>
          have hfirst : (exchange link).asked = none := (h.1.fresh fresh).1
          have heq : exchange (deliver link (.inl input)).1 =
              { exchange link with asked := some sip } := by
            simp [exchange, deliver, Machine.Duplex.step, transactionSide, request, last]
          rw [heq]
          exact .single (.ask sip hfirst)
      | again running forward request last ack sent =>
          have heq : exchange (deliver link (.inl input)).1 = exchange link := by
            simp [exchange, deliver, Machine.Duplex.step, transactionSide, request, last]
          rw [heq]
      | hear sip running pending moved incoming status provisional request last ack sent =>
          have hfirst : (exchange link).learned = none :=
            filter_isFinalResponse_eq_none (h.1.pending pending).2
          have heq : exchange (deliver link (.inl input)).1 =
              { exchange link with learned := (some sip).filter (·.isFinalResponse) } := by
            simp [exchange, deliver, Machine.Duplex.step, transactionSide, request, last]
          rw [heq]
          by_cases hfinal : sip.isFinalResponse = true
          · obtain ⟨g, hstored, hg, hcarries, -⟩ := h.response (hinput.2 sip incoming) hfinal
            rw [Option.filter_some_pos hfinal]
            refine .single (.learn ?_ hcarries hfirst)
            exact (congrArg _ hstored).trans (Option.filter_some_pos hg)
          · rw [Option.filter_some_neg (Bool.eq_false_iff.2 hfinal), ← hfirst]
  | inr input =>
      have hreplies := hconverse.replies link.right hinput.1 input.1
      cases hreplies with
      | discard same quiet =>
          have heq : exchange (deliver link (.inr input)).1 = exchange link := by
            simp [exchange, deliver, Machine.Duplex.step, transactionSide, same]
          rw [heq]
      | hear sip fresh moved incoming kind request last ack quiet =>
          have hfirst : (exchange link).heard = none := (h.2.fresh fresh).1
          have heq : exchange (deliver link (.inr input)).1 =
              { exchange link with heard := some sip } := by
            simp [exchange, deliver, Machine.Duplex.step, transactionSide, request, last, ack]
          rw [heq]
          obtain ⟨original, hasked, hcarries⟩ :=
            h.request hconverse.notAck (hinput.2 sip incoming) kind
          exact .single (.hear hasked hcarries hfirst)
      | again running forward request last ack sent =>
          have heq : exchange (deliver link (.inr input)).1 = exchange link := by
            simp [exchange, deliver, Machine.Duplex.step, transactionSide, request, last, ack]
          rw [heq]
      | answer sip running pending moved status provisional request last ack sent =>
          have hfirst : (exchange link).answered = none :=
            filter_isFinalResponse_eq_none (h.2.pending pending).2
          have heq : exchange (deliver link (.inr input)).1 =
              { exchange link with answered := (some sip).filter (·.isFinalResponse) } := by
            simp [exchange, deliver, Machine.Duplex.step, transactionSide, request, last, ack]
          rw [heq]
          by_cases hfinal : sip.isFinalResponse = true
          · rw [Option.filter_some_pos hfinal]
            exact .single (.answer sip (h.2.started running) hfirst)
          · rw [Option.filter_some_neg (Bool.eq_false_iff.2 hfinal), ← hfirst]
      | acknowledge sip late forward incoming kind request last ack quiet =>
          have heq : exchange (deliver link (.inr input)).1 =
              { exchange link with acknowledged := true } := by
            simp [exchange, deliver, Machine.Duplex.step, transactionSide, request, last, ack]
          rw [heq]
          obtain ⟨-, f, hlast, hkind⟩ :=
            h.acknowledged hconverse.notAck (hinput.2 sip incoming) kind
          have hfinal : f.isFinalResponse = true := by
            rw [Message.isFinalResponse, hkind]
            rfl
          refine .single (.acknowledge ?_)
          simp [exchange, hlast, Option.filter, hfinal]

theorem osipTransactionInit_fresh {io : Io} {transactionid outSocket : Int}
    {request : Option Message} {tr : Transaction κ}
    (h : osipTransactionInit κ io transactionid outSocket request = .ok tr) :
    tr.state = StateMachine.preState κ ∧ tr.origRequest = none ∧ tr.lastResponse = none ∧
      tr.ack = none := by
  unfold osipTransactionInit at h
  repeat' split at h
  all_goals cases h
  exact ⟨rfl, rfl, rfl, rfl⟩

/-- Two transactions that were just created, with nothing under way between them. -/
structure NewDialogue (link : Dialogue κ κ') : Prop where
  client : ∃ io transactionid outSocket request,
    osipTransactionInit κ io transactionid outSocket request = .ok link.left
  server : ∃ io transactionid outSocket request,
    osipTransactionInit κ' io transactionid outSocket request = .ok link.right
  toRight : link.toRight = []
  toLeft : link.toLeft = []

theorem NewDialogue.exchange {link : Dialogue κ κ'} (h : NewDialogue link) :
    exchange link = .initial := by
  obtain ⟨_, _, _, _, hclient⟩ := h.client
  obtain ⟨_, _, _, _, hserver⟩ := h.server
  obtain ⟨-, hasked, hlearned, -⟩ := osipTransactionInit_fresh hclient
  obtain ⟨-, hheard, hanswered, hack⟩ := osipTransactionInit_fresh hserver
  simp [Exosip.exchange, Machine.Exchange.initial, hasked, hlearned, hheard, hanswered, hack]

theorem Converse.conversing (hconverse : Converse requestType κ κ') {link : Dialogue κ κ'}
    (h : NewDialogue link) : Conversing requestType way link := by
  obtain ⟨_, _, _, _, hclient⟩ := h.client
  obtain ⟨_, _, _, _, hserver⟩ := h.server
  obtain ⟨hcstate, hasked, hlearned, hcack⟩ := osipTransactionInit_fresh hclient
  obtain ⟨hsstate, hheard, hanswered, hsack⟩ := osipTransactionInit_fresh hserver
  have hfresh : link.right.state.phase = 0 := by rw [hsstate]; exact hconverse.serverFresh
  constructor
  · constructor <;> simp [hasked, hlearned, hcack, h.toRight]
  · constructor <;> simp [hheard, hanswered, hsack, h.toLeft, hfresh]

theorem Converse.refines (hconverse : Converse requestType κ κ') {link : Dialogue κ κ'}
    {inputs : List ((Io × Event) ⊕ (Io × Event))} (h : Conversing requestType way link)
    (hrun : Machine.Guarded deliver (Delivers way) link inputs) :
    Relation.ReflTransGen (Machine.Exchange.Advance way.carries) (exchange link)
      (exchange (Machine.run deliver link inputs).1) :=
  Machine.guarded_refines exchange
    (fun _ _ => Machine.Duplex.both_step hconverse.keeps_asking hconverse.keeps_replying)
    (fun _ _ => hconverse.exchange_step) hrun h

theorem Converse.advances (hconverse : Converse requestType κ κ') {link : Dialogue κ κ'}
    {before after : List ((Io × Event) ⊕ (Io × Event))} {input : (Io × Event) ⊕ (Io × Event)}
    (h : Conversing requestType way link)
    (hrun : Machine.Guarded deliver (Delivers way) link (before ++ input :: after)) :
    Relation.ReflGen (Machine.Exchange.Advance way.carries)
      (exchange (Machine.run deliver link before).1)
      (exchange (Machine.run deliver link (before ++ [input])).1) := by
  obtain ⟨hbefore, hinput, -⟩ := (Machine.guarded_append _).1 hrun
  have hreached : Conversing requestType way (Machine.run deliver link before).1 :=
    Machine.Duplex.both_run hconverse.keeps_asking hconverse.keeps_replying hbefore h
  rw [Machine.run_append, Machine.run_singleton]
  exact hconverse.exchange_step hinput hreached

/-- A way that leaves every message as it was sent. -/
def Carriage.plain : Carriage := ⟨Eq, fun h => by rw [h]⟩

/-- The INVITE, its arrival, the 486 and the arrival of that. -/
def busyCall : List ((Io × Event) ⊕ (Io × Event)) :=
  [.inl (connected, ⟨evtSetTypeOutgoingSipmessage inviteOverTcp, 0, some inviteOverTcp⟩),
    .inr (connected, ⟨evtSetTypeIncomingSipmessage inviteOverTcp, 0, some inviteOverTcp⟩),
    .inr (connected, ⟨evtSetTypeOutgoingSipmessage busyHere, 0, some busyHere⟩),
    .inl (connected, ⟨evtSetTypeIncomingSipmessage busyHere, 0, some busyHere⟩)]

theorem busyCall_delivered : ∃ link : Dialogue Ict Ist, NewDialogue link ∧
    Machine.Guarded deliver (Delivers .plain) link busyCall ∧
    (exchange (Machine.run deliver link busyCall).1).learned = some busyHere := by
  refine ⟨⟨_, _, [], []⟩, ⟨⟨connected, 0, 0, some inviteOverTcp, rfl⟩,
    ⟨connected, 0, 0, some inviteOverTcp, rfl⟩, rfl, rfl⟩, ⟨⟨.outgoing 0 _, ?_⟩,
    ⟨.incoming 0 _, ?_⟩, ⟨.outgoing 0 _, ?_⟩, ⟨.incoming 0 _, ?_⟩, trivial⟩, rfl⟩
  · rintro sip ⟨⟩
  · rintro sip ⟨⟩
    exact ⟨inviteOverTcp, List.Mem.head _, rfl⟩
  · rintro sip ⟨⟩
  · rintro sip ⟨⟩
    exact ⟨busyHere, List.Mem.head _, rfl⟩

/-- An INVITE transaction and its peer are an exchange, over any network. -/
theorem ict_ist_exchange (way : Carriage) {link : Dialogue Ict Ist} (hlink : NewDialogue link)
    {inputs : List ((Io × Event) ⊕ (Io × Event))}
    (hrun : Machine.Guarded deliver (Delivers way) link inputs) :
    exchange link = .initial ∧ ∀ before input after, inputs = before ++ input :: after →
      Relation.ReflGen (Machine.Exchange.Advance way.carries)
        (exchange (Machine.run deliver link before).1)
        (exchange (Machine.run deliver link (before ++ [input])).1) :=
  ⟨hlink.exchange, fun _ _ _ happend =>
    ict_ist_converse.advances (ict_ist_converse.conversing hlink) (happend ▸ hrun)⟩

theorem ict_ist_exchange_busyCall : ∃ link : Dialogue Ict Ist,
    (exchange (Machine.run deliver link busyCall).1).learned = some busyHere ∧
      exchange link = .initial ∧ ∀ before input after, busyCall = before ++ input :: after →
        Relation.ReflGen (Machine.Exchange.Advance Eq)
          (exchange (Machine.run deliver link before).1)
          (exchange (Machine.run deliver link (before ++ [input])).1) := by
  obtain ⟨link, hopened, hrun, hlearned⟩ := busyCall_delivered
  exact ⟨link, hlearned, ict_ist_exchange .plain hopened hrun⟩

/-- A non-INVITE transaction and its peer are an exchange, over any network. -/
theorem nict_nist_exchange (way : Carriage) {link : Dialogue Nict Nist} (hlink : NewDialogue link)
    {inputs : List ((Io × Event) ⊕ (Io × Event))}
    (hrun : Machine.Guarded deliver (Delivers way) link inputs) :
    exchange link = .initial ∧ ∀ before input after, inputs = before ++ input :: after →
      Relation.ReflGen (Machine.Exchange.Advance way.carries)
        (exchange (Machine.run deliver link before).1)
        (exchange (Machine.run deliver link (before ++ [input])).1) :=
  ⟨hlink.exchange, fun _ _ _ happend =>
    nict_nist_converse.advances (nict_nist_converse.conversing hlink) (happend ▸ hrun)⟩

def optionsOverTcp : Message :=
  { inviteOverTcp with
    sipMethod := some "OPTIONS".toList
    cseq := some ⟨some "OPTIONS".toList, some "1".toList⟩ }

def busyOptions : List ((Io × Event) ⊕ (Io × Event)) :=
  [.inl (connected, ⟨evtSetTypeOutgoingSipmessage optionsOverTcp, 0, some optionsOverTcp⟩),
    .inr (connected, ⟨evtSetTypeIncomingSipmessage optionsOverTcp, 0, some optionsOverTcp⟩),
    .inr (connected, ⟨evtSetTypeOutgoingSipmessage busyHere, 0, some busyHere⟩),
    .inr (connected, ⟨evtSetTypeIncomingSipmessage optionsOverTcp, 0, some optionsOverTcp⟩),
    .inl (connected, ⟨evtSetTypeIncomingSipmessage busyHere, 0, some busyHere⟩)]

theorem nict_nist_exchange_busyOptions : ∃ link : Dialogue Nict Nist,
    (exchange (Machine.run deliver link busyOptions).1).learned = some busyHere ∧
      exchange link = .initial ∧ ∀ before input after, busyOptions = before ++ input :: after →
        Relation.ReflGen (Machine.Exchange.Advance Eq)
          (exchange (Machine.run deliver link before).1)
          (exchange (Machine.run deliver link (before ++ [input])).1) := by
  refine ⟨⟨_, _, [], []⟩, rfl, nict_nist_exchange .plain
    ⟨⟨connected, 0, 0, some optionsOverTcp, rfl⟩,
      ⟨connected, 0, 0, some optionsOverTcp, rfl⟩, rfl, rfl⟩
    ⟨⟨.outgoing 0 _, ?_⟩, ⟨.incoming 0 _, ?_⟩, ⟨.outgoing 0 _, ?_⟩, ⟨.incoming 0 _, ?_⟩,
      ⟨.incoming 0 _, ?_⟩, trivial⟩⟩
  · rintro sip ⟨⟩
  · rintro sip ⟨⟩
    exact ⟨optionsOverTcp, List.Mem.head _, rfl⟩
  · rintro sip ⟨⟩
  · rintro sip ⟨⟩
    exact ⟨optionsOverTcp, List.Mem.head _, rfl⟩
  · rintro sip ⟨⟩
    exact ⟨busyHere, List.Mem.head _, rfl⟩

/-- What the two ends of an INVITE know of each other. -/
structure InviteAgreement (way : Carriage) (link : Dialogue Ict Ist) : Prop where
  request : ∀ m ∈ link.right.origRequest,
    ∃ invite, link.left.origRequest = some invite ∧ way.carries invite m
  response : ∀ f ∈ link.left.lastResponse, f.isFinalResponse = true →
    ∃ g, link.right.lastResponse = some g ∧ way.carries g f ∧ link.right.state.Late
  confirmed : link.right.state = .istConfirmed → link.left.state.Late ∧
    ∃ f g, link.left.lastResponse = some f ∧ link.right.lastResponse = some g ∧
      way.carries g f ∧ g.kind = .rcvStatus3456xx

def HasAck (ist : Transaction Ist) : Prop := ist.state = .istConfirmed → ist.ack.isSome

theorem ist_keeps_hasAck : (transactionSide Ist).Keeps fun tr _ _ => HasAck tr := by
  constructor
  · exact fun _ h => h
  · intro ist sent incoming input hinput h
    apply ist_execute_cases (P := fun handler => HasAck (handler input.1).tr)
    case rcvInvite =>
      intro hstate _
      have hnot : ist.state ≠ .istConfirmed := by
        rcases hstate with h | h | h <;> rw [h] <;> decide
      unfold istRcvInvite
      split_ifs
      · simp [HasAck]
      · apply sndXxxOrError_cases (P := fun out => HasAck out.tr) <;> simp [HasAck, hnot]
      · simp [HasAck, hnot]
    case timeoutG =>
      intro hstate _
      unfold osipIstTimeoutGEvent
      apply sndXxxOrError_cases (P := fun out => HasAck out.tr) <;> simp [HasAck, hstate]
    case timeoutH => simp [HasAck, osipIstTimeoutHEvent]
    case snd1xx =>
      intro hstate _
      unfold istSnd1xx
      apply sndXxxOrError_cases (P := fun out => HasAck out.tr) <;> simp [HasAck, hstate]
    case snd2xx =>
      intro _ _
      unfold istSnd2xx
      apply sndXxxOrError_cases (P := fun out => HasAck out.tr) <;> simp [HasAck]
    case snd3456xx =>
      intro _ _
      unfold istSnd3456xx
      apply sndXxxOrError_cases (P := fun out => HasAck out.tr) <;> simp [HasAck]
    case rcvAck =>
      intro _ htype
      obtain ⟨sip, hsip, -⟩ := hinput.1.brings htype rfl
      simp [HasAck, istRcvAck, hsip]
    case timeoutI => simp [HasAck, osipIstTimeoutIEvent]
    case useless => exact fun _ => h
    case freed => exact fun _ => h

/-- In every state that the two ends of an INVITE reach over the network, they agree: the
server has the request of the client, the client's final response is the one that the server
keeps, and a confirmed server has a client that knows of the failure. Later states of the run
keep all of this. -/
theorem ict_ist_agreement (way : Carriage) {link : Dialogue Ict Ist} (hlink : NewDialogue link)
    {before after : List ((Io × Event) ⊕ (Io × Event))}
    (hrun : Machine.Guarded deliver (Delivers way) link (before ++ after)) :
    InviteAgreement way (Machine.run deliver link before).1 ∧
      (exchange (Machine.run deliver link before).1).Keeps
        (exchange (Machine.run deliver link (before ++ after)).1) := by
  have hconverse := ict_ist_converse
  obtain ⟨hbefore, hafter⟩ := (Machine.guarded_append _).1 hrun
  have h : Conversing .rcvReqinvite way (Machine.run deliver link before).1 :=
    Machine.Duplex.both_run hconverse.keeps_asking hconverse.keeps_replying hbefore
      (hconverse.conversing hlink)
  have hconfirmed : HasAck (Machine.run deliver link before).1.right := by
    obtain ⟨_, _, _, _, hserver⟩ := hlink.server
    refine (Machine.Duplex.both_run hconverse.keeps_asking ist_keeps_hasAck hbefore
      ⟨(hconverse.conversing hlink).1, fun hcontra => ?_⟩).2
    rw [(osipTransactionInit_fresh hserver).1] at hcontra
    cases hcontra
  constructor
  · constructor
    · intro m hm
      exact h.request hconverse.notAck (h.2.request m hm).1 (h.2.request m hm).2
    · intro f hf hfinal
      obtain ⟨g, hstored, -, hcarries, hlate⟩ := h.response (h.1.last f hf).1 hfinal
      exact ⟨g, hstored, hcarries, hlate⟩
    · intro hstate
      obtain ⟨ack, hack⟩ := Option.isSome_iff_exists.1 (hconfirmed hstate)
      obtain ⟨harrives, hkind⟩ := h.2.ack ack hack
      obtain ⟨hlate, f, hlast, hfkind⟩ := h.acknowledged hconverse.notAck harrives hkind
      have hfinal : f.isFinalResponse = true := by
        rw [Message.isFinalResponse, hfkind]
        rfl
      obtain ⟨g, hstored, -, hcarries, -⟩ := h.response (h.1.last f hlast).1 hfinal
      exact ⟨hlate, f, g, hlast, hstored, hcarries, (way.kind hcarries).symm.trans hfkind⟩
  · rw [Machine.run_append]
    exact Machine.Exchange.keeps_of_advances (hconverse.refines h hafter)

theorem ict_ist_agreement_busyCall : ∃ link : Dialogue Ict Ist,
    (exchange (Machine.run deliver link busyCall).1).learned = some busyHere ∧
      InviteAgreement .plain (Machine.run deliver link busyCall).1 := by
  obtain ⟨link, hopened, hrun, hlearned⟩ := busyCall_delivered
  rw [← List.append_nil busyCall] at hrun
  exact ⟨link, hlearned, (ict_ist_agreement .plain hopened hrun).1⟩

end Exchange

end Exosip
