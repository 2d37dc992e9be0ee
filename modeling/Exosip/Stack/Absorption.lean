import Exosip.Stack.Matching
import Exosip.Transaction.Lifecycle

/-! A request that is received again, and the server transaction that was made for it: which
copies `osip_transaction_find` takes to that transaction. -/
namespace Exosip

open CString

/-- `EVT_IS_INCOMINGREQ`. -/
def Event.isIncomingReq (evt : Event) : Bool :=
  evt.type == .rcvReqinvite || evt.type == .rcvReqack || evt.type == .rcvRequest

/-- `EVT_IS_OUTGOINGREQ`. -/
def Event.isOutgoingReq (evt : Event) : Bool :=
  evt.type == .sndReqinvite || evt.type == .sndReqack || evt.type == .sndRequest

/-- A transaction of any kind. -/
inductive AnyTransaction where
  | ict (tr : Transaction Ict)
  | ist (tr : Transaction Ist)
  | nict (tr : Transaction Nict)
  | nist (tr : Transaction Nist)

def cseqReflectsMethod (sip : Message) : Bool :=
  match sip.cseq.bind (·.method), sip.sipMethod with
  | some cseqMethod, some sipMethod => cseqMethod == sipMethod
  | _, _ => false

/-- `osip_create_transaction`; none where it returns NULL. -/
def osipCreateTransaction (io : Io) (transactionid outSocket : Int) (evt : Event) :
    Option AnyTransaction :=
  match evt.sip with
  | none => none
  | some sip =>
      let invite := sip.cseq.bind (·.method) == some "INVITE".toList
      if sip.isRequest && !cseqReflectsMethod sip then none
      else if sip.isAck then none
      else if evt.isIncomingReq then
        if invite then
          (osipTransactionInit Ist io transactionid outSocket (some sip)).toOption.map .ist
        else (osipTransactionInit Nist io transactionid outSocket (some sip)).toOption.map .nist
      else if evt.isOutgoingReq then
        if invite then
          (osipTransactionInit Ict io transactionid outSocket (some sip)).toOption.map .ict
        else (osipTransactionInit Nict io transactionid outSocket (some sip)).toOption.map .nict
      else none

namespace AnyTransaction

def addEvent (evt : Event) : AnyTransaction → AnyTransaction
  | ict tr => ict (osipTransactionAddEvent tr evt)
  | ist tr => ist (osipTransactionAddEvent tr evt)
  | nict tr => nict (osipTransactionAddEvent tr evt)
  | nist tr => nist (osipTransactionAddEvent tr evt)

/-- Timer passes, executions and new events, in any order. -/
def run (actions : List Action) : AnyTransaction → AnyTransaction
  | ict tr => ict (Machine.run fifoStep tr actions).1
  | ist tr => ist (Machine.run fifoStep tr actions).1
  | nict tr => nict (Machine.run fifoStep tr actions).1
  | nist tr => nist (Machine.run fifoStep tr actions).1

/-- The transaction is in its list of the stack. -/
def In (osip : Osip) : AnyTransaction → Prop
  | ict tr => tr ∈ osip.ictTransactions
  | ist tr => tr ∈ osip.istTransactions
  | nict tr => tr ∈ osip.nictTransactions
  | nist tr => tr ∈ osip.nistTransactions

/-- The transaction has executed the event that it was made for. -/
def Started : AnyTransaction → Prop
  | ict tr => tr.state ≠ .ictPreCalling
  | ist tr => tr.state ≠ .istPreProceeding
  | nict tr => tr.state ≠ .nictPreTrying
  | nist tr => tr.state ≠ .nistPreTrying

end AnyTransaction

/-- A branch parameter of the top Via, when there is one, has a value. -/
def Message.BranchValued (request : Message) : Prop :=
  ∀ topvia ∈ request.vias[0]?, ∀ branch ∈ topvia.paramGetByname "branch".toList,
    branch.gvalue.isSome = true

/-- The top Via has a branch of a compliant client. -/
def Message.Compliant (request : Message) : Prop :=
  ∃ topvia ∈ request.vias[0]?, topvia.Compliant

/-- The tags of From and To, where there are some, have a value. -/
def Message.TagsValued (request : Message) : Prop :=
  (∀ header ∈ request.fromHeader, header.tag ≠ some none) ∧
    ∀ header ∈ request.toHeader, header.tag ≠ some none

section Copies

variable {κ : Type} {tr : Transaction κ} {request : Message}

theorem sentByMatch_self {via : Via} (h : via.host.isSome = true) : sentByMatch via via = true := by
  rw [sentByMatch_iff]
  exact ⟨h, rfl, rfl⟩

theorem osipViaMatch_self {via : Via} (h : osipViaClone (some via) = some via) :
    osipViaMatch via via = true := by
  obtain ⟨-, h⟩ := Option.filter_eq_some_iff.1 h
  simp only [Bool.and_eq_true, Option.isSome_iff_exists] at h
  obtain ⟨⟨⟨version, hversion⟩, protocol, hprotocol⟩, host, hhost⟩ := h
  rw [osipViaMatch_iff]
  simp only [osipViaToStr, hhost, hversion, hprotocol]
  exact ⟨_, rfl, rfl⟩

/-- What `osip_transaction_init` leaves of the headers that the search compares. -/
structure Cloned (request : Message) (tr : Transaction κ) : Prop where
  topvia : request.vias[0]? = some tr.topvia
  callid : request.callId = some tr.callid
  fromHeader : request.fromHeader = some tr.fromHeader
  toHeader : request.toHeader = some tr.toHeader
  cseq : request.cseq = some tr.cseq
  via : osipViaClone (some tr.topvia) = some tr.topvia
  callNumber : tr.callid.number.isSome = true
  cseqMethod : tr.cseq.method.isSome = true
  cseqNumber : tr.cseq.number.isSome = true

theorem osipTransactionInit_cloned [StateMachine κ] {io : Io} {transactionid outSocket : Int}
    (h : osipTransactionInit κ io transactionid outSocket (some request) = .ok tr) :
    Cloned request tr := by
  unfold osipTransactionInit at h
  dsimp only at h
  split_ifs at h
  split at h
  · cases h
  · next via hvia =>
      split at h
      · next topvia fromHeader toHeader callid cseq htop hfrom hto hcallid hcseq =>
          split at h
          · cases h
          · cases h
            have hclone := htop
            obtain ⟨htop, -⟩ := Option.filter_eq_some_iff.1 htop
            obtain ⟨hfrom, -⟩ := Option.filter_eq_some_iff.1 hfrom
            obtain ⟨hto, -⟩ := Option.filter_eq_some_iff.1 hto
            obtain ⟨hcallid, hnumber⟩ := Option.filter_eq_some_iff.1 hcallid
            obtain ⟨hcseq, hmethod⟩ := Option.filter_eq_some_iff.1 hcseq
            cases htop
            rw [Bool.and_eq_true] at hmethod
            exact ⟨hvia, hcallid, hfrom, hto, hcseq, hclone, hnumber, hmethod.1, hmethod.2⟩
      · cases h

theorem oldMatch_copy (h : Cloned request tr) :
    oldMatch tr request tr.topvia = true ↔ tr.fromHeader.tag ≠ some none := by
  rw [oldMatch, h.callid, h.fromHeader, h.cseq]
  rw [osipViaMatch_self h.via]
  simp only [Bool.and_eq_true, osipCallIdMatch_iff, osipFromTagMatch_iff, osipCseqMatch_iff,
    h.callNumber, h.cseqNumber, h.cseqMethod, true_and, and_true]

theorem matchingRequest_copy (h : Cloned request tr) :
    matchingRequestOsipToXist1723 tr request = true ↔
      request.BranchValued ∧ (request.Compliant ∨
        (oldToMatch tr request = true ∧ tr.fromHeader.tag ≠ some none)) := by
  obtain ⟨method, hmethod⟩ := Option.isSome_iff_exists.1 h.cseqMethod
  have hhost : tr.topvia.host.isSome = true := by
    obtain ⟨-, hclone⟩ := Option.filter_eq_some_iff.1 h.via
    exact (Bool.and_eq_true_iff.1 hclone).2
  have hvalued : request.BranchValued ↔
      ∀ branch ∈ tr.topvia.paramGetByname "branch".toList, branch.gvalue.isSome = true := by
    simp [Message.BranchValued, h.topvia]
  have hcompliant : request.Compliant ↔ tr.topvia.Compliant := by
    simp [Message.Compliant, h.topvia]
  rw [hvalued, hcompliant, ← oldMatch_copy h, ← Bool.and_eq_true]
  unfold matchingRequestOsipToXist1723
  rw [h.cseq, Option.bind_some, hmethod, h.topvia]
  dsimp only
  cases hbranch : tr.topvia.paramGetByname "branch".toList with
  | none =>
      have hnot : ¬ tr.topvia.Compliant := by
        rintro ⟨branch, hsome, -⟩
        rw [Via.branch, hbranch] at hsome
        cases hsome
      simp [hnot]
  | some branch =>
      cases hvalue : branch.gvalue with
      | none => simp [hvalue]
      | some gvalue =>
          have hvia : tr.topvia.branch = some gvalue := by
            rw [Via.branch, hbranch, Option.bind_some, hvalue]
          have hcookie : tr.topvia.Compliant ↔ startsWithCookie gvalue = true := by
            simp [Via.Compliant, hvia]
          rw [hcookie]
          by_cases hstart : startsWithCookie gvalue = true
          · simp [hvalue, hstart, sentByMatch_self hhost, cseqMethodMatch]
          · simp [hvalue, hstart]

end Copies

section Origin

/-- A transaction that has taken over a request keeps it. -/
structure KeepsRequest {κ : Type} (preState : State) (tr : Transaction κ) (out : Outcome κ) :
    Prop where
  origRequest : out.tr.origRequest = tr.origRequest
  state : out.tr.state ≠ preState

theorem ist_execute_keepsRequest {ist : Transaction Ist} (h : ist.state ≠ .istPreProceeding)
    (evt : Event) (io : Io) :
    KeepsRequest .istPreProceeding ist (osipTransactionExecute ist evt io) := by
  apply ist_execute_cases (P := fun handler => KeepsRequest .istPreProceeding ist (handler io))
  case rcvInvite =>
    intro _ _
    unfold istRcvInvite
    rw [if_neg h]
    split_ifs
    · apply sndXxxOrError_cases <;> intros <;> constructor <;> simp [h]
    · constructor <;> simp [h]
  case timeoutG =>
    intro _ _
    unfold osipIstTimeoutGEvent
    apply sndXxxOrError_cases <;> intros <;> constructor <;> simp [h]
  case timeoutH => intro _ _; constructor <;> simp [osipIstTimeoutHEvent]
  case snd1xx =>
    intro _ _
    unfold istSnd1xx
    apply sndXxxOrError_cases <;> intros <;> constructor <;> simp [h]
  case snd2xx =>
    intro _ _
    unfold istSnd2xx
    apply sndXxxOrError_cases <;> intros <;> constructor <;> simp
  case snd3456xx =>
    intro _ _
    unfold istSnd3456xx
    apply sndXxxOrError_cases <;> intros <;> constructor <;> simp
  case rcvAck => intro _ _; constructor <;> simp [istRcvAck]
  case timeoutI => intro _ _; constructor <;> simp [osipIstTimeoutIEvent]
  case useless => exact fun _ => ⟨rfl, h⟩
  case freed => exact fun _ => ⟨rfl, h⟩

theorem nist_execute_keepsRequest {nist : Transaction Nist} (h : nist.state ≠ .nistPreTrying)
    (evt : Event) (io : Io) :
    KeepsRequest .nistPreTrying nist (osipTransactionExecute nist evt io) := by
  apply nist_execute_cases (P := fun handler => KeepsRequest .nistPreTrying nist (handler io))
  case rcvRequest =>
    intro _ _
    unfold nistRcvRequest
    rw [if_neg h]
    split_ifs
    · apply sndXxxOrError_cases <;> intros <;> constructor <;> simp [h]
    · constructor <;> simp [h]
  case snd1xx =>
    intro _ _
    unfold nistSnd1xx
    apply sndXxxOrError_cases <;> intros <;> constructor <;> simp
  case snd23456xx =>
    intro _ _
    unfold nistSnd23456xx
    apply sndXxxOrError_cases <;> intros <;> constructor <;> simp
  case timeoutJ => intro _ _; constructor <;> simp [osipNistTimeoutJEvent]
  case useless => exact fun _ => ⟨rfl, h⟩
  case freed => exact fun _ => ⟨rfl, h⟩

/-- A kind of server transaction: its first event gives it the request. -/
class ServerMachine (κ : Type) extends TimedMachine κ where
  requestType : EventType
  execute_opens : ∀ (tr : Transaction κ) (evt : Event) (io : Io),
    tr.state = StateMachine.preState κ → evt.type = requestType →
    (osipTransactionExecute tr evt io).tr.origRequest = evt.sip ∧
      (osipTransactionExecute tr evt io).tr.state ≠ StateMachine.preState κ
  execute_keepsRequest : ∀ (tr : Transaction κ) (evt : Event) (io : Io),
    tr.state ≠ StateMachine.preState κ →
    KeepsRequest (StateMachine.preState κ) tr (osipTransactionExecute tr evt io)

instance : ServerMachine Ist where
  requestType := .rcvReqinvite
  execute_opens ist evt io hstate htype := by
    have hpre : ist.state = .istPreProceeding := hstate
    have hinvite : osipTransactionExecute ist evt io = istRcvInvite ist evt io := by
      simp [osipTransactionExecute, fsmCallmethod, fsmFindmethod, StateMachine.transitions,
        istTransition, hpre, htype]
    rw [hinvite, istRcvInvite, if_pos hpre]
    exact ⟨rfl, by simp [StateMachine.preState]⟩
  execute_keepsRequest ist evt io h := ist_execute_keepsRequest h evt io

instance : ServerMachine Nist where
  requestType := .rcvRequest
  execute_opens nist evt io hstate htype := by
    have hpre : nist.state = .nistPreTrying := hstate
    have hrequest : osipTransactionExecute nist evt io = nistRcvRequest nist evt io := by
      simp [osipTransactionExecute, fsmCallmethod, fsmFindmethod, StateMachine.transitions,
        nistTransition, hpre, htype]
    rw [hrequest, nistRcvRequest, if_pos hpre]
    exact ⟨rfl, by simp [StateMachine.preState]⟩
  execute_keepsRequest nist evt io h := nist_execute_keepsRequest h evt io

variable {κ : Type} [ServerMachine κ] {tr : Transaction κ} {request : Message}

/-- The transaction waits with the event of its request, or has taken the request over. -/
inductive Opened (request : Message) (tr : Transaction κ) : Prop
  | waiting (evt : Event) (rest : List Event) (hfifo : tr.transactionff = evt :: rest)
      (htype : evt.type = ServerMachine.requestType κ) (hsip : evt.sip = some request)
      (hstate : tr.state = StateMachine.preState κ) (horig : tr.origRequest = none)
  | started (hstate : tr.state ≠ StateMachine.preState κ) (horig : tr.origRequest = some request)

theorem Opened.fifoAdd (h : Opened request tr) (evt : Event) : Opened request (tr.fifoAdd evt) := by
  cases h with
  | waiting first rest hfifo htype hsip hstate horig =>
      refine .waiting first (rest ++ [evt]) ?_ htype hsip hstate horig
      rw [Transaction.fifoAdd, hfifo]
      rfl
  | started hstate horig => exact .started hstate horig

theorem Opened.step (h : Opened request tr) (action : Action) :
    Opened request (fifoStep tr action).1 := by
  apply fifoStep_cases (P := fun next => Opened request next.1)
  case timer => exact fun _ evt _ _ => h.fifoAdd evt
  case execute =>
    intro io se rest _ hse
    cases h with
    | waiting first rest' hfifo htype hsip hstate horig =>
        rw [hfifo] at hse
        cases hse
        obtain ⟨horig', hstate'⟩ :=
          ServerMachine.execute_opens { tr with transactionff := rest } se io hstate htype
        exact .started hstate' (horig'.trans hsip)
    | started hstate horig =>
        have hkeeps :=
          ServerMachine.execute_keepsRequest { tr with transactionff := rest } se io hstate
        exact .started hkeeps.state (hkeeps.origRequest.trans horig)
  case add => exact fun evt _ => h.fifoAdd _
  case idle => exact h

theorem Opened.run (h : Opened request tr) (actions : List Action) :
    Opened request (Machine.run fifoStep tr actions).1 :=
  Machine.run_invariant fifoStep (fun _ action h => h.step action) actions h

theorem Cloned.step (h : Cloned request tr) (action : Action) :
    Cloned request (fifoStep tr action).1 := by
  apply fifoStep_cases (P := fun next => Cloned request next.1)
  case timer => exact fun _ _ _ _ => { h with }
  case execute =>
    intro io se rest _ _
    have hkeep := TimedMachine.execute_identity { tr with transactionff := rest } se io
    simp only [Transaction.identity, Prod.mk.injEq] at hkeep
    obtain ⟨-, -, hvia, hfrom, hto, hcallid, hcseq⟩ := hkeep
    constructor <;> dsimp only
    · rw [hvia, h.topvia]
    · rw [hcallid, h.callid]
    · rw [hfrom, h.fromHeader]
    · rw [hto, h.toHeader]
    · rw [hcseq, h.cseq]
    · rw [hvia, h.via]
    · rw [hcallid, h.callNumber]
    · rw [hcseq, h.cseqMethod]
    · rw [hcseq, h.cseqNumber]
  case add => exact fun _ _ => { h with }
  case idle => exact h

theorem Cloned.run (h : Cloned request tr) (actions : List Action) :
    Cloned request (Machine.run fifoStep tr actions).1 :=
  Machine.run_invariant fifoStep (fun _ action h => h.step action) actions h

theorem oldToMatch_opened (h : Opened request tr) (hcloned : Cloned request tr)
    (hack : request.isAck = false) :
    oldToMatch tr request = true ↔
      tr.state ≠ StateMachine.preState κ ∧ tr.toHeader.tag ≠ some none := by
  rw [oldToMatch, hack, hcloned.toHeader]
  cases h with
  | waiting evt rest hfifo htype hsip hstate horig => simp [horig, hstate]
  | started hstate horig =>
      simp only [horig, Option.bind_some, hcloned.toHeader, osipToTagMatch]
      rw [if_neg Bool.false_ne_true, osipFromTagMatch_iff]
      simp only [true_and, ne_eq, hstate, not_false_eq_true]

theorem matchingRequest_opened (h : Opened request tr) (hcloned : Cloned request tr)
    (hack : request.isAck = false) :
    matchingRequestOsipToXist1723 tr request = true ↔
      request.BranchValued ∧ (request.Compliant ∨
        (tr.state ≠ StateMachine.preState κ ∧ request.TagsValued)) := by
  have htags : request.TagsValued ↔
      tr.fromHeader.tag ≠ some none ∧ tr.toHeader.tag ≠ some none := by
    simp [Message.TagsValued, hcloned.fromHeader, hcloned.toHeader]
  rw [matchingRequest_copy hcloned, oldToMatch_opened h hcloned hack, htags]
  tauto

theorem matchingRequest_run {io : Io} {transactionid outSocket : Int}
    (hinit : osipTransactionInit κ io transactionid outSocket (some request) = .ok tr)
    (htype : (requestEvent request).type = ServerMachine.requestType κ)
    (hack : request.isAck = false) (actions : List Action) :
    matchingRequestOsipToXist1723
        (Machine.run fifoStep (osipTransactionAddEvent tr (requestEvent request)) actions).1
        request = true ↔
      request.BranchValued ∧ (request.Compliant ∨
        ((Machine.run fifoStep (osipTransactionAddEvent tr (requestEvent request))
          actions).1.state ≠ StateMachine.preState κ ∧ request.TagsValued)) := by
  obtain ⟨_, -, -, hstate, hfifo, horig, -⟩ := osipTransactionInit_eq_ok hinit
  have hopened : Opened request (osipTransactionAddEvent tr (requestEvent request)) := by
    refine .waiting { requestEvent request with transactionid := tr.transactionid } [] ?_ htype rfl
      hstate horig
    rw [osipTransactionAddEvent, Transaction.fifoAdd, hfifo]
    rfl
  have hcloned : Cloned request (osipTransactionAddEvent tr (requestEvent request)) :=
    { osipTransactionInit_cloned hinit with }
  exact matchingRequest_opened (hopened.run actions) (hcloned.run actions) hack

end Origin

section Found

variable {κ : Type} {tr : Transaction κ} {request : Message}

/-- The search finds something in every list with the transaction, if and only if the
transaction matches. -/
theorem osipTransactionFind_isSome_iff :
    (∀ transactions : List (Transaction κ), tr ∈ transactions →
      (osipTransactionFind transactions request).isSome = true) ↔
      matchingRequestOsipToXist1723 tr request = true := by
  constructor
  · intro h
    have hfound := h [tr] (List.mem_singleton_self tr)
    simpa [osipTransactionFind] using hfound
  · intro hmatch transactions hmem
    rw [osipTransactionFind, List.findIdx?_isSome, List.any_eq_true]
    exact ⟨tr, hmem, hmatch⟩

theorem ist_found_iff (hsearch : searchesIst request = true) {tr : Transaction Ist} :
    (∀ osip, (AnyTransaction.ist tr).In osip → (osipFindTransaction osip request).isSome = true) ↔
      matchingRequestOsipToXist1723 tr request = true := by
  rw [← osipTransactionFind_isSome_iff]
  simp only [osipFindTransaction, if_pos hsearch]
  exact ⟨fun h transactions => h { Osip.init with istTransactions := transactions },
    fun h osip => h osip.istTransactions⟩

theorem nist_found_iff (hsearch : ¬ searchesIst request = true) {tr : Transaction Nist} :
    (∀ osip, (AnyTransaction.nist tr).In osip → (osipFindTransaction osip request).isSome = true) ↔
      matchingRequestOsipToXist1723 tr request = true := by
  rw [← osipTransactionFind_isSome_iff]
  simp only [osipFindTransaction, if_neg hsearch]
  exact ⟨fun h transactions => h { Osip.init with nistTransactions := transactions },
    fun h osip => h osip.nistTransactions⟩

/-- What a transaction is made for by an incoming message. -/
inductive CreatedFor (io : Io) (transactionid outSocket : Int) (request : Message) :
    AnyTransaction → Prop
  | ist (tr : Transaction Ist) (hack : request.isAck = false)
      (htype : (requestEvent request).type = .rcvReqinvite) (hsearch : searchesIst request = true)
      (hinit : osipTransactionInit Ist io transactionid outSocket (some request) = .ok tr) :
      CreatedFor io transactionid outSocket request (.ist tr)
  | nist (tr : Transaction Nist) (hack : request.isAck = false)
      (htype : (requestEvent request).type = .rcvRequest) (hsearch : ¬ searchesIst request = true)
      (hinit : osipTransactionInit Nist io transactionid outSocket (some request) = .ok tr) :
      CreatedFor io transactionid outSocket request (.nist tr)

theorem requestEvent_not_outgoing : (requestEvent request).isOutgoingReq = false := by
  simp only [requestEvent, Event.isOutgoingReq, evtSetTypeIncomingSipmessage]
  split_ifs <;> rfl

theorem requestEvent_incoming (h : (requestEvent request).isIncomingReq = true) :
    request.isRequest = true := by
  simp only [requestEvent, Event.isIncomingReq, evtSetTypeIncomingSipmessage] at h
  split_ifs at h <;> first | assumption | cases h

theorem cseqReflectsMethod_eq (h : cseqReflectsMethod request = true) :
    request.cseq.bind (·.method) = request.sipMethod ∧ request.sipMethod.isSome = true := by
  rw [cseqReflectsMethod] at h
  split at h
  · next cseqMethod sipMethod hcseq hsip =>
      rw [hcseq, hsip, beq_iff_eq.1 h]
      exact ⟨rfl, rfl⟩
  · cases h

theorem toOption_eq_some {ε α : Type} {x : Except ε α} {a : α} (h : x.toOption = some a) :
    x = .ok a := by
  cases x with
  | error _ => cases h
  | ok _ =>
      cases h
      rfl

theorem osipCreateTransaction_createdFor {io : Io} {transactionid outSocket : Int}
    {created : AnyTransaction}
    (h : osipCreateTransaction io transactionid outSocket (requestEvent request) = some created) :
    CreatedFor io transactionid outSocket request created := by
  have hsip : (requestEvent request).sip = some request := rfl
  rw [osipCreateTransaction, hsip] at h
  simp only [requestEvent_not_outgoing, Bool.false_eq_true, if_false] at h
  have hisMethod (hrequest : request.isRequest = true) (method : String) :
      request.isMethod method = true ↔ request.sipMethod = some method.toList := by
    simp [Message.isMethod, hrequest]
  split_ifs at h with hmismatch hack hincoming hinvite
  · have hrequest := requestEvent_incoming hincoming
    obtain ⟨tr, hinit, rfl⟩ := Option.map_eq_some_iff.1 h
    rw [hrequest, Bool.true_and, Bool.not_eq_true', Bool.not_eq_false] at hmismatch
    have hmethod := (cseqReflectsMethod_eq hmismatch).1
    have hcseq := beq_iff_eq.1 hinvite
    have hline : request.isInvite = true := (hisMethod hrequest "INVITE").2 (hmethod ▸ hcseq)
    refine .ist tr (by simpa using hack) ?_ ?_ (toOption_eq_some hinit)
    · simp [requestEvent, evtSetTypeIncomingSipmessage, hrequest, hline]
    · simp [searchesIst, hcseq]
  · have hrequest := requestEvent_incoming hincoming
    obtain ⟨tr, hinit, rfl⟩ := Option.map_eq_some_iff.1 h
    rw [hrequest, Bool.true_and, Bool.not_eq_true', Bool.not_eq_false] at hmismatch
    have hmethod := (cseqReflectsMethod_eq hmismatch).1
    have hcseq : request.cseq.bind (·.method) ≠ some "INVITE".toList := by simpa using hinvite
    have hline : ¬ request.isInvite = true := by
      intro hline
      exact hcseq (hmethod.trans ((hisMethod hrequest "INVITE").1 hline))
    have hnotAck : request.cseq.bind (·.method) ≠ some "ACK".toList := by
      intro hcseqAck
      exact hack ((hisMethod hrequest "ACK").2 (hmethod ▸ hcseqAck))
    refine .nist tr (by simpa using hack) ?_ ?_ (toOption_eq_some hinit)
    · simp [requestEvent, evtSetTypeIncomingSipmessage, hrequest, hline, hack]
    · simp only [searchesIst, Bool.or_eq_true, beq_iff_eq, not_or]
      exact ⟨hcseq, hnotAck⟩

end Found

/-- A copy of the request is found in every stack that still has the transaction of the
request, if and only if a branch has a value and, where it is not the one of a compliant
client, the transaction has started and the tags have values. -/
theorem retransmission_absorbed_iff {io : Io} {transactionid outSocket : Int} {request : Message}
    {created : AnyTransaction}
    (hcreate : osipCreateTransaction io transactionid outSocket (requestEvent request) =
      some created)
    (actions : List Action) :
    (∀ osip, ((created.addEvent (requestEvent request)).run actions).In osip →
      (osipFindTransaction osip request).isSome = true) ↔
    request.BranchValued ∧ (request.Compliant ∨
      (((created.addEvent (requestEvent request)).run actions).Started ∧
        request.TagsValued)) := by
  cases osipCreateTransaction_createdFor hcreate with
  | ist tr hack htype hsearch hinit =>
      exact (ist_found_iff hsearch).trans (matchingRequest_run hinit htype hack actions)
  | nist tr hack htype hsearch hinit =>
      exact (nist_found_iff hsearch).trans (matchingRequest_run hinit htype hack actions)

section Examples

def oldRequest : Message :=
  { requestWith "OPTIONS" "OPTIONS" "" "1" with
    vias := [⟨some "2.0".toList, some "UDP".toList, some "192.0.2.1".toList, none, none, []⟩] }

/-- Once the transaction has taken the request over, a copy is found. -/
theorem retransmission_absorbed_started :
    ∃ created, osipCreateTransaction (atSecond 1 0) 7 0 (requestEvent oldRequest) = some created ∧
      ∀ osip, ((created.addEvent (requestEvent oldRequest)).run [.execute (atSecond 1 0)]).In osip →
        (osipFindTransaction osip oldRequest).isSome = true := by
  have hcreate : osipCreateTransaction (atSecond 1 0) 7 0 (requestEvent oldRequest) = some _ := rfl
  refine ⟨_, hcreate, (retransmission_absorbed_iff hcreate _).2 ⟨?_, .inr ⟨?_, ?_⟩⟩⟩
  · intro topvia htop branch hbranch
    cases htop
    cases hbranch
  · show State.nistTrying ≠ .nistPreTrying
    decide
  · constructor <;> intro header hheader <;> cases hheader <;> decide

/-- A copy of the request without a branch comes before the execution of the event. -/
theorem retransmission_not_absorbed :
    ∃ created osip,
      osipCreateTransaction (atSecond 1 0) 7 0 (requestEvent oldRequest) = some created ∧
        (created.addEvent (requestEvent oldRequest)).In osip ∧
        osipFindTransaction osip oldRequest = none := by
  refine ⟨.nist _, { Osip.init with nistTransactions := [_] }, rfl, List.mem_singleton_self _, ?_⟩
  rfl

end Examples
end Exosip
