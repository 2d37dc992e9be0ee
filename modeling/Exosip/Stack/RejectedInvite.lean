import Exosip.Stack.Corresponds
import Exosip.Stack.Destination
import Exosip.Transaction.OneOutcome

/-! The ACK for a rejected INVITE, from the response of the server to the search of the
transaction that waits for it. -/
namespace Exosip

open CString

/-- What arrives of a request of the client at `source`: the server fixes its top Via. -/
def receivedFrom (source : SourceAddress) (request : Message) : Message :=
  (osipMessageFixLastViaHeader request source.ip source.port).1

/-- A rejected INVITE: the client sends it, the server answers what arrives with a 3xx to 6xx
response, and the client makes the ACK from that response. -/
structure Rejection where
  invite : Message
  isInvite : invite.isInvite = true
  compliant : invite.Compliant
  source : SourceAddress
  received : SipFields
  arrives : received.toMessage = receivedFrom source invite
  context : ResponseContext
  dialog : Option Dialog
  status : Int
  rejected : 300 ≤ status ∧ status < 700
  response : SipFields
  answered : SipFields.buildResponseDefault context dialog status received = .ok response
  ict : Transaction Ict
  sent : ict.origRequest = some invite
  io : Io
  ack : Message
  acknowledged : ictCreateAck io ict (some response.toMessage) = some ack

/-- The transaction is one that was made for the request, after anything that happened to it. -/
def MadeFor (request : Message) (ist : Transaction Ist) : Prop :=
  ∃ io transactionid outSocket ist₀ actions,
    osipTransactionInit Ist io transactionid outSocket (some request) = .ok ist₀ ∧
      ist = (Machine.run fifoStep ist₀ actions).1

theorem MadeFor.cloned {request : Message} {ist : Transaction Ist} (h : MadeFor request ist) :
    Cloned request ist := by
  obtain ⟨io, transactionid, outSocket, ist₀, actions, hinit, rfl⟩ := h
  exact (osipTransactionInit_cloned hinit).run actions

/-- The top Via headers differ in the branch or in the sent-by, where no port means 5060. -/
def OtherTop (request1 request2 : Message) : Prop :=
  (request1.vias[0]?).bind Via.branch ≠ (request2.vias[0]?).bind Via.branch ∨
    (request1.vias[0]?).bind Via.host ≠ (request2.vias[0]?).bind Via.host ∨
    (request1.vias[0]?).map (fun via => via.port.getD "5060".toList) ≠
      (request2.vias[0]?).map fun via => via.port.getD "5060".toList

/-- Some INVITE transaction of the server, with its INVITE. -/
structure Stranger where
  invite : Message
  ist : Transaction Ist
  madeFor : MadeFor invite ist

section Ack

theorem mapM_eq_of_copies {α : Type} {f : α → Option α} (hf : ∀ a b, f a = some b → b = a)
    {src dst : List α} (h : src.mapM f = some dst) : dst = src := by
  induction src generalizing dst with
  | nil =>
      simp only [List.mapM_nil, Option.pure_def, Option.some.injEq] at h
      exact h.symm
  | cons a src ih =>
      simp only [List.mapM_cons, Option.pure_def, Option.bind_eq_bind, Option.bind_eq_some_iff] at h
      obtain ⟨b, hb, bs, hbs, heq⟩ := h
      rw [Option.some.injEq] at heq
      rw [← heq, hf a b hb, ih hbs]

/-- What the ACK takes from the response and from the INVITE. -/
structure Acknowledges (invite response ack : Message) : Prop where
  isAck : ack.isAck = true
  fromHeader : ack.fromHeader = response.fromHeader
  toHeader : ack.toHeader = response.toHeader
  callId : ack.callId = response.callId
  cseq : ∃ cseq, response.cseq = some cseq ∧ ack.cseq = some { cseq with method := some "ACK".toList }
  reqUri : ack.reqUri = invite.reqUri
  routes : ack.routes = invite.routes
  vias : ∃ via, invite.vias[0]? = some via ∧ ack.vias = [via]

theorem ictCreateAck_acknowledges {io : Io} {ict : Transaction Ict} {invite response ack : Message}
    (hsent : ict.origRequest = some invite)
    (h : ictCreateAck io ict (some response) = some ack) : Acknowledges invite response ack := by
  simp only [ictCreateAck, hsent, Option.bind_eq_bind, Option.bind_eq_some_iff, guard,
    Option.pure_def, Option.some.injEq] at h
  obtain ⟨-, -, _, rfl, _, rfl, fromHeader, hfrom, toHeader, hto, callId, hcallId, cseq, hcseq,
    sipVersion, -, reqUri, hreqUri, via, hvia, routes, hroutes, rfl⟩ := h
  obtain ⟨hfrom, -⟩ := Option.filter_eq_some_iff.1 hfrom
  obtain ⟨hto, -⟩ := Option.filter_eq_some_iff.1 hto
  obtain ⟨hcallId, -⟩ := Option.filter_eq_some_iff.1 hcallId
  obtain ⟨hcseq, -⟩ := Option.filter_eq_some_iff.1 hcseq
  obtain ⟨hreqUri, -⟩ := Option.filter_eq_some_iff.1 hreqUri
  obtain ⟨hvia, -⟩ := Option.filter_eq_some_iff.1 hvia
  have hcopies (a b : From) (hclone : osipFromClone (some a) = some b) : b = a := by
    obtain ⟨heq, -⟩ := Option.filter_eq_some_iff.1 hclone
    exact (Option.some.inj heq).symm
  exact
    { isAck := rfl
      fromHeader := hfrom.symm
      toHeader := hto.symm
      callId := hcallId.symm
      cseq := ⟨cseq, hcseq, rfl⟩
      reqUri := hreqUri.symm
      routes := mapM_eq_of_copies hcopies hroutes
      vias := ⟨via, hvia, rfl⟩ }

end Ack

section Received

variable {source : SourceAddress} {request : Message} {via : Via} {host : Str}

theorem receivedFrom_eq (hrequest : request.isRequest = true) (htop : request.vias[0]? = some via)
    (hhost : via.host = some host) :
    receivedFrom source request =
      { request with vias := fixLastVia via host source.ip source.port :: request.vias.tail } := by
  have hresponse : request.isResponse = false := by
    simpa [Message.isRequest, Message.isResponse] using hrequest
  cases hvias : request.vias with
  | nil => simp [hvias] at htop
  | cons top vias =>
      rw [hvias, List.getElem?_cons_zero] at htop
      cases htop
      simp only [receivedFrom, osipMessageFixLastViaHeader, hresponse, hvias, hhost,
        Bool.false_eq_true, if_false, List.tail_cons]

theorem receivedFrom_of_host_none (htop : request.vias[0]? = some via) (hhost : via.host = none) :
    receivedFrom source request = request := by
  cases hvias : request.vias with
  | nil => simp [hvias] at htop
  | cons top vias =>
      rw [hvias, List.getElem?_cons_zero] at htop
      cases htop
      simp only [receivedFrom, osipMessageFixLastViaHeader, hvias, hhost]
      split <;> rfl

theorem fixLastVia_branch (ipAddr : Str) (port : Nat) :
    (fixLastVia via host ipAddr port).branch = via.branch := by
  unfold Via.branch
  rw [fixLastVia_paramGetByname, GenericParam.getByname_modifyByname_of_ne (fixRport_gname port)
    (by decide), if_neg (fun h => absurd h.2 (by decide)), Option.or_none]
  rfl

end Received

section Strangers

variable {κ : Type} {tr : Transaction κ} {request : Message} {topvia : Via}

theorem matchingRequest_other {branch method : Str} (htop : request.vias[0]? = some topvia)
    (hmethod : request.cseq.bind (·.method) = some method) (hbranch : topvia.branch = some branch)
    (hcookie : startsWithCookie branch = true)
    (hother : tr.topvia.branch ≠ topvia.branch ∨ ¬ sentByMatch tr.topvia topvia = true) :
    matchingRequestOsipToXist1723 tr request = true ↔
      (∃ origBranch, tr.topvia.branch = some origBranch ∧ origBranch.length = branch.length ∧
        startsWithCookie origBranch = false) ∧
      oldToMatch tr request = true ∧ oldMatch tr request topvia = true := by
  obtain ⟨bRequest, hparam, hgvalue⟩ := Option.bind_eq_some_iff.1 hbranch
  unfold matchingRequestOsipToXist1723
  rw [hmethod, htop]
  dsimp only
  rw [hparam]
  cases horig : tr.topvia.paramGetByname "branch".toList with
  | none =>
      have htr : tr.topvia.branch = none := by rw [Via.branch, horig, Option.bind_none]
      simp [htr]
  | some bOrigrequest =>
      have htr : tr.topvia.branch = bOrigrequest.gvalue := by
        rw [Via.branch, horig, Option.bind_some]
      dsimp only
      rw [hgvalue, htr]
      cases hvalue : bOrigrequest.gvalue with
      | none => simp
      | some origBranch =>
          rw [htr, hvalue, hbranch] at hother
          dsimp only
          by_cases hlength : origBranch.length = branch.length
          · cases hstart : startsWithCookie origBranch with
            | false => simp [hlength, hstart]
            | true =>
                have hnot : ¬ (origBranch = branch ∧ sentByMatch tr.topvia topvia = true) := by
                  rintro ⟨rfl, hsent⟩
                  exact hother.elim (fun hne => hne rfl) fun hne => hne hsent
                simp only [hlength, ne_eq, not_true_eq_false, if_false, hcookie, Bool.and_self,
                  if_true, Bool.and_eq_true, beq_iff_eq]
                constructor
                · exact fun h => absurd h.1 hnot
                · rintro ⟨⟨_, heq, -, hfalse⟩, -⟩
                  cases heq
                  rw [hstart] at hfalse
                  cases hfalse
          · simp [hlength]

theorem oldToMatch_ack {answerTo : To} (hack : request.isAck = true)
    (hto : request.toHeader = some answerTo) :
    oldToMatch tr request = true ↔ (tr.toHeader.tag = none ∧ answerTo.tag ≠ none) ∨
      osipToTagMatch (some tr.toHeader) (some answerTo) = true := by
  rw [oldToMatch, if_pos hack, hto, Option.bind_some]
  unfold From.tag osipToTagMatch osipFromTagMatch
  dsimp only
  cases GenericParam.getByname tr.toHeader.genParams "tag".toList with
  | none => cases GenericParam.getByname answerTo.genParams "tag".toList <;> simp
  | some tag =>
      cases GenericParam.getByname answerTo.genParams "tag".toList with
      | none => simp
      | some tag' => simp

end Strangers

namespace Rejection

variable (x : Rejection)

def ackReceived : Message := receivedFrom x.source x.ack

/-- The ACK finds the transaction of its INVITE and no other, and says what it has to. -/
structure Finds (other : Stranger) : Prop where
  own : ∀ ist, MadeFor x.received.toMessage ist →
    matchingRequestOsipToXist1723 ist x.ackReceived = true
  onlyOwn : OtherTop other.invite x.invite →
    matchingRequestOsipToXist1723 other.ist x.ackReceived = false
  callId : x.ackReceived.callId = x.invite.callId
  fromHeader : x.ackReceived.fromHeader = x.invite.fromHeader
  reqUri : x.ackReceived.reqUri = x.invite.reqUri
  routes : x.ackReceived.routes = x.invite.routes
  cseqNumber : x.ackReceived.cseq.bind (·.number) = x.invite.cseq.bind (·.number)
  toHeader : x.ackReceived.toHeader = x.response.toHeader

/-- The old rules, which read the whole Via as it is printed, take the ACK for that of an
INVITE without the cookie. -/
structure PrintedAlike (other : Stranger) : Prop where
  branch : ∃ origBranch branch, (other.invite.vias[0]?).bind Via.branch = some origBranch ∧
    (x.invite.vias[0]?).bind Via.branch = some branch ∧
    origBranch.length = branch.length ∧ startsWithCookie origBranch = false
  via : ∃ origVia via, other.invite.vias[0]? = some origVia ∧
    x.received.vias[0]? = some via ∧ osipViaMatch origVia via = true
  callId : osipCallIdMatch other.invite.callId x.invite.callId = true
  fromTag : osipFromTagMatch other.invite.fromHeader x.invite.fromHeader = true
  cseq : osipCseqMatch other.invite.cseq x.invite.cseq = true
  toTag : (∃ header, other.invite.toHeader = some header ∧ header.tag = none ∧
      ∃ answerTo, x.response.toHeader = some answerTo ∧ answerTo.tag ≠ none) ∨
    osipToTagMatch other.invite.toHeader x.response.toHeader = true

theorem isRequest_invite : x.invite.isRequest = true := by
  have h := x.isInvite
  simp only [Message.isInvite, Message.isMethod, Bool.and_eq_true] at h
  exact h.1

theorem answeredBy : SipFields.Answered x.context x.dialog x.status x.received x.response :=
  SipFields.buildResponseDefault_answered x.answered

theorem acknowledges : Acknowledges x.invite x.response.toMessage x.ack :=
  ictCreateAck_acknowledges x.sent x.acknowledged

/-- The top Via of the INVITE, as the client sent it and as the server keeps it. The builder
of the response has checked that it has a host. -/
theorem exists_topvia : ∃ via host, x.invite.vias[0]? = some via ∧ via.host = some host ∧
    via.Compliant ∧ x.received.toMessage =
      { x.invite with
        vias := fixLastVia via host x.source.ip x.source.port :: x.invite.vias.tail } := by
  obtain ⟨via, htop, hcompliant⟩ := x.compliant
  cases hhost : via.host with
  | none =>
      have hvias : x.received.vias = x.invite.vias := by
        have h := x.arrives
        rw [receivedFrom_of_host_none htop hhost] at h
        exact congrArg Message.vias h
      have hcomplete := x.answeredBy.viasComplete via
        (List.mem_of_getElem? (hvias ▸ htop : x.received.vias[0]? = some via))
      simp [Via.complete, hhost] at hcomplete
  | some host =>
      refine ⟨via, host, htop, hhost, hcompliant, ?_⟩
      rw [x.arrives, receivedFrom_eq x.isRequest_invite htop hhost]

theorem exists_ackTop : ∃ via, x.received.vias[0]? = some via ∧ x.ackReceived.vias = [via] ∧
    via.branch = (x.invite.vias[0]?).bind Via.branch ∧
    via.host = (x.invite.vias[0]?).bind Via.host ∧
    via.port = (x.invite.vias[0]?).bind Via.port ∧ via.Compliant ∧
    x.ackReceived = { x.ack with vias := [via] } := by
  obtain ⟨via, host, htop, hhost, hcompliant, hreceived⟩ := x.exists_topvia
  obtain ⟨ackVia, hackVia, hackVias⟩ := x.acknowledges.vias
  rw [htop] at hackVia
  cases hackVia
  have hrequest : x.ack.isRequest = true := by
    have h := x.acknowledges.isAck
    simp only [Message.isAck, Message.isMethod, Bool.and_eq_true] at h
    exact h.1
  have hack : x.ackReceived =
      { x.ack with vias := [fixLastVia via host x.source.ip x.source.port] } := by
    rw [ackReceived, receivedFrom_eq hrequest (by rw [hackVias]; rfl) hhost, hackVias]
    rfl
  refine ⟨fixLastVia via host x.source.ip x.source.port, ?_, ?_, ?_, ?_, ?_, ?_, hack⟩
  · have h := congrArg (fun msg : Message => msg.vias[0]?) hreceived
    exact h
  · rw [hack]
  · rw [fixLastVia_branch, htop, Option.bind_some]
  · rw [htop, Option.bind_some]
    rfl
  · rw [htop, Option.bind_some]
    rfl
  · obtain ⟨branch, hbranch, hcookie⟩ := hcompliant
    exact ⟨branch, (fixLastVia_branch _ _).trans hbranch, hcookie⟩

/-- The CSeq of the INVITE says so, or that it is an ACK. -/
def CseqOfInvite : Prop :=
  x.invite.cseq.bind (·.method) = some "INVITE".toList ∨
    x.invite.cseq.bind (·.method) = some "ACK".toList

theorem ackReceived_method : x.ackReceived.cseq.bind (·.method) = some "ACK".toList := by
  obtain ⟨via, -, -, -, -, -, -, hack⟩ := x.exists_ackTop
  obtain ⟨cseq, -, hcseq⟩ := x.acknowledges.cseq
  rw [hack]
  dsimp only
  rw [hcseq, Option.bind_some]

theorem received_eq : x.received.fromHeader = x.invite.fromHeader ∧
    x.received.callId = x.invite.callId ∧ x.received.cseq = x.invite.cseq := by
  obtain ⟨via, host, -, -, -, hreceived⟩ := x.exists_topvia
  exact ⟨congrArg Message.fromHeader hreceived, congrArg Message.callId hreceived,
    congrArg Message.cseq hreceived⟩

theorem cseqMethodMatch_ack (method : Option Str) :
    cseqMethodMatch method (some "ACK".toList) = true ↔
      method = some "INVITE".toList ∨ method = some "ACK".toList := by
  simp [cseqMethodMatch]

theorem matchingRequest_own {ist : Transaction Ist} (h : Cloned x.received.toMessage ist) :
    matchingRequestOsipToXist1723 ist x.ackReceived = true ↔ x.CseqOfInvite := by
  obtain ⟨via, htop, hackVias, -, -, -, hcompliant, -⟩ := x.exists_ackTop
  have hist : ist.topvia = via := by
    have heq : x.received.vias[0]? = some ist.topvia := h.topvia
    rw [htop] at heq
    exact (Option.some.inj heq).symm
  have hhost : via.host.isSome = true := by
    have hclone := hist ▸ h.via
    obtain ⟨-, hcomplete⟩ := Option.filter_eq_some_iff.1 hclone
    exact (Bool.and_eq_true_iff.1 hcomplete).2
  have hmethod : ist.cseq.method = x.invite.cseq.bind (·.method) := by
    rw [← x.received_eq.2.2]
    exact (congrArg (Option.bind · Cseq.method) h.cseq).symm
  rw [matchingRequest_iff (hist ▸ hcompliant) (by rw [hackVias]; rfl) x.ackReceived_method, hist,
    cseqMethodMatch_ack, hmethod]
  constructor
  · rintro (⟨-, -, -, hcseq⟩ | ⟨hnot, -⟩)
    · exact hcseq
    · exact absurd hcompliant hnot
  · exact fun hcseq => .inl ⟨hcompliant, rfl, sentByMatch_self hhost, hcseq⟩

theorem osipFromClone_eq {header : From} (h : header.complete = true) :
    osipFromClone (some header) = some header := by
  have hclone : fromClone header = .ok header := (copies_fromClone header header).2 ⟨h, rfl⟩
  unfold fromClone orBadparameter at hclone
  split at hclone
  · cases hclone
  · next copy hcopy =>
      cases hclone
      exact hcopy

theorem exists_madeFor : ∃ ist, MadeFor x.received.toMessage ist := by
  obtain ⟨via, htop, -⟩ := x.exists_ackTop
  have hvia := x.answeredBy.viasComplete via (List.mem_of_getElem? htop)
  obtain ⟨fromHeader, hfrom, hfromComplete⟩ := x.answeredBy.fromComplete
  obtain ⟨callId, hcallId, hcallIdComplete⟩ := x.answeredBy.callIdComplete
  obtain ⟨cseq, hcseq, hcseqComplete⟩ := x.answeredBy.cseqComplete
  obtain ⟨toHeader, hto, htoComplete, -⟩ := x.answeredBy.toHeader
  have hviaClone : osipViaClone (some via) = some via :=
    Option.filter_eq_some_iff.2 ⟨rfl, hvia⟩
  have hcallIdClone : osipCallIdClone (some callId) = some callId :=
    Option.filter_eq_some_iff.2 ⟨rfl, hcallIdComplete⟩
  have hcseqClone : osipCseqClone (some cseq) = some cseq :=
    Option.filter_eq_some_iff.2 ⟨rfl, hcseqComplete⟩
  have hnumber : callId.number.isNone = false := Option.isNone_eq_false_iff.2 hcallIdComplete
  simp only [Via.complete, Bool.and_eq_true, Option.isSome_iff_exists] at hvia
  obtain ⟨⟨-, protocol, hprotocol⟩, -⟩ := hvia
  have hinit : ∃ ist, osipTransactionInit Ist connected 0 0 (some x.received.toMessage) = .ok ist := by
    simp only [osipTransactionInit, SipFields.toMessage, hcallId, hfrom, hto, hcseq, htop,
      Option.bind_some, hnumber, hviaClone, hcallIdClone, hcseqClone,
      osipFromClone_eq hfromComplete, osipFromClone_eq htoComplete, StateMachine.contextInit,
      osipIstInit, initProtocol, Message.getVia, hprotocol]
    exact ⟨_, rfl⟩
  obtain ⟨ist, hist⟩ := hinit
  exact ⟨ist, connected, 0, 0, ist, [], hist, rfl⟩

theorem ackReceived_fields : x.ackReceived.fromHeader = x.invite.fromHeader ∧
    x.ackReceived.callId = x.invite.callId ∧
    ∃ cseq, x.invite.cseq = some cseq ∧
      x.ackReceived.cseq = some { cseq with method := some "ACK".toList } := by
  obtain ⟨via, -, -, -, -, -, -, hack⟩ := x.exists_ackTop
  obtain ⟨cseq, hresponseCseq, hackCseq⟩ := x.acknowledges.cseq
  rw [hack]
  refine ⟨?_, ?_, cseq, ?_, hackCseq⟩
  · rw [← x.received_eq.1, ← x.answeredBy.fromHeader]
    exact x.acknowledges.fromHeader
  · rw [← x.received_eq.2.1, ← x.answeredBy.callId]
    exact x.acknowledges.callId
  · rw [← x.received_eq.2.2, ← x.answeredBy.cseq]
    exact hresponseCseq

theorem osipCseqMatch_ack {cseq1 cseq2 : Cseq}
    (h : cseq2.method = some "INVITE".toList ∨ cseq2.method = some "ACK".toList) :
    osipCseqMatch (some cseq1) (some { cseq2 with method := some "ACK".toList }) =
      osipCseqMatch (some cseq1) (some cseq2) := by
  have hmethod : ({ cseq2 with method := some "ACK".toList } : Cseq).matchMethod =
      cseq2.matchMethod := by
    unfold Cseq.matchMethod
    rcases h with h | h
    · rw [h]
      rfl
    · rw [h]
  rw [Bool.eq_iff_iff, osipCseqMatch_iff, osipCseqMatch_iff, hmethod]

/-- Against a transaction whose INVITE has another top Via only the old rules can find the
ACK: the new ones compare branch and sent-by. -/
theorem matchingRequest_stranger (hcseq : x.CseqOfInvite) (other : Stranger)
    (hother : OtherTop other.invite x.invite) :
    matchingRequestOsipToXist1723 other.ist x.ackReceived = true ↔ x.PrintedAlike other := by
  obtain ⟨via, htop, hackVias, hbranch, hhost, hport, ⟨branch, hvia, hcookie⟩, hack⟩ :=
    x.exists_ackTop
  obtain ⟨answerTo, hanswerTo⟩ : ∃ answerTo, x.response.toHeader = some answerTo := by
    obtain ⟨_, -, -, h⟩ := x.answeredBy.toHeader
    exact ⟨_, h⟩
  have hcloned := other.madeFor.cloned
  have hdiffers : other.ist.topvia.branch ≠ via.branch ∨
      ¬ sentByMatch other.ist.topvia via = true := by
    rw [OtherTop, hcloned.topvia, ← hbranch, ← hhost] at hother
    rw [sentByMatch_iff]
    rcases hother with hother | hother | hother
    · exact .inl hother
    · exact .inr fun h => hother h.2.1
    · right
      rintro ⟨-, -, hsame⟩
      obtain ⟨inviteVia, hinviteVia⟩ : ∃ inviteVia, x.invite.vias[0]? = some inviteVia := by
        obtain ⟨inviteVia, h, -⟩ := x.compliant
        exact ⟨inviteVia, h⟩
      rw [hinviteVia, Option.bind_some] at hport
      rw [hinviteVia, Option.map_some, Option.map_some, hsame, hport] at hother
      exact hother rfl
  have hackTo : x.ackReceived.toHeader = some answerTo := by
    rw [hack]
    exact x.acknowledges.toHeader.trans hanswerTo
  have hisAck : x.ackReceived.isAck = true := by
    rw [hack]
    exact x.acknowledges.isAck
  rw [matchingRequest_other (by rw [hackVias]; rfl) x.ackReceived_method hvia hcookie hdiffers,
    oldToMatch_ack hisAck hackTo]
  have hold : oldMatch other.ist x.ackReceived via = true ↔
      osipCallIdMatch other.invite.callId x.invite.callId = true ∧
      osipFromTagMatch other.invite.fromHeader x.invite.fromHeader = true ∧
      osipCseqMatch other.invite.cseq x.invite.cseq = true ∧
      osipViaMatch other.ist.topvia via = true := by
    obtain ⟨hfrom, hcallId, cseq, hinviteCseq, hackCseq⟩ := x.ackReceived_fields
    rw [CseqOfInvite, hinviteCseq, Option.bind_some] at hcseq
    rw [oldMatch, hfrom, hcallId, hackCseq, hinviteCseq, osipCseqMatch_ack hcseq, hcloned.callid,
      hcloned.fromHeader, hcloned.cseq]
    simp only [Bool.and_eq_true, and_assoc]
  rw [hold]
  constructor
  · rintro ⟨⟨origBranch, horig, hlength, hstart⟩, hto, hcallId, hfrom, hcseqMatch, hprinted⟩
    exact
      { branch := ⟨origBranch, branch, by rw [hcloned.topvia]; exact horig, hbranch ▸ hvia,
          hlength, hstart⟩
        via := ⟨_, via, hcloned.topvia, htop, hprinted⟩
        callId := hcallId
        fromTag := hfrom
        cseq := hcseqMatch
        toTag := by
          rw [hcloned.toHeader, hanswerTo]
          exact hto.imp_left fun h => ⟨_, rfl, h.1, _, rfl, h.2⟩ }
  · intro h
    obtain ⟨origBranch, branch', horig, hbranch', hlength, hstart⟩ := h.branch
    obtain ⟨origVia, via', horigVia, htop', hprinted⟩ := h.via
    rw [← hbranch, hvia] at hbranch'
    rw [hcloned.topvia] at horig horigVia
    rw [htop] at htop'
    cases hbranch'
    cases horigVia
    cases htop'
    refine ⟨⟨origBranch, horig, hlength, hstart⟩, ?_, h.callId, h.fromTag, h.cseq, hprinted⟩
    have hto := h.toTag
    rw [hcloned.toHeader, hanswerTo] at hto
    refine hto.imp_left ?_
    rintro ⟨header, hheader, htag, answer, hanswer, hanswerTag⟩
    cases hheader
    cases hanswer
    exact ⟨htag, hanswerTag⟩

/-- The ACK of a rejected INVITE finds the transaction of the INVITE exactly when the CSeq
says INVITE (or ACK), and no other one unless that has no cookie and is printed alike. -/
theorem finds_iff (other : Stranger) :
    x.Finds other ↔
      x.CseqOfInvite ∧ (OtherTop other.invite x.invite → ¬ x.PrintedAlike other) := by
  constructor
  · intro h
    obtain ⟨ist, hist⟩ := x.exists_madeFor
    have hcseq : x.CseqOfInvite := (x.matchingRequest_own hist.cloned).1 (h.own ist hist)
    refine ⟨hcseq, ?_⟩
    intro hother halike
    have hmatch := (x.matchingRequest_stranger hcseq other hother).2 halike
    rw [h.onlyOwn hother] at hmatch
    cases hmatch
  · rintro ⟨hcseq, hothers⟩
    obtain ⟨via, -, -, -, -, -, -, hack⟩ := x.exists_ackTop
    obtain ⟨hfrom, hcallId, cseq, hinviteCseq, hackCseq⟩ := x.ackReceived_fields
    constructor
    case own => exact fun ist hist => (x.matchingRequest_own hist.cloned).2 hcseq
    case onlyOwn =>
      intro hother
      rw [← Bool.not_eq_true, x.matchingRequest_stranger hcseq other hother]
      exact hothers hother
    case callId => exact hcallId
    case fromHeader => exact hfrom
    case reqUri =>
      rw [hack]
      exact x.acknowledges.reqUri
    case routes =>
      rw [hack]
      exact x.acknowledges.routes
    case cseqNumber =>
      rw [hinviteCseq, hackCseq]
      rfl
    case toHeader =>
      rw [hack]
      exact x.acknowledges.toHeader

end Rejection

section Examples

def inviteWithCseq (method branch : String) : SipFields :=
  { requestOf "INVITE" "1" [] with
    sipVersion := some "SIP/2.0".toList
    cseq := some ⟨some method.toList, some "1".toList⟩
    vias := [⟨some "2.0".toList, some "UDP".toList, some "remote".toList, none, none,
      [⟨"branch".toList, some branch.toList⟩]⟩] }

def inviteArrived (method branch : String) : SipFields :=
  { inviteWithCseq method branch with
    vias := [⟨some "2.0".toList, some "UDP".toList, some "remote".toList, none, none,
      [⟨"branch".toList, some branch.toList⟩, ⟨"received".toList, some "192.0.2.1".toList⟩]⟩] }

def ictOf (invite : Message) : Transaction Ict where
  transactionid := 1
  transactionff := []
  topvia := ⟨none, none, none, none, none, []⟩
  fromHeader := ⟨none, none, []⟩
  toHeader := ⟨none, none, []⟩
  callid := ⟨none, none⟩
  cseq := ⟨none, none⟩
  origRequest := some invite
  lastResponse := none
  ack := none
  state := .ictProceeding
  birthTime := 0
  completedTime := 0
  outSocket := 0
  ctx := Ict.initial connected invite "UDP".toList

def busyRejection (method : String) : Rejection where
  invite := (inviteWithCseq method "z9hG4bK1").toMessage
  isInvite := rfl
  compliant := ⟨_, rfl, "z9hG4bK1".toList, by decide, by decide⟩
  source := { carol with port := 5060, port_lt := by decide }
  received := inviteArrived method "z9hG4bK1"
  arrives := rfl
  context := someEnv.context
  dialog := none
  status := 486
  rejected := by decide
  response := _
  answered := rfl
  ict := ictOf (inviteWithCseq method "z9hG4bK1").toMessage
  sent := rfl
  io := connected
  ack := _
  acknowledged := rfl

theorem finds_iff_invite : ∃ other : Stranger,
    OtherTop other.invite (busyRejection "INVITE").invite ∧ (busyRejection "INVITE").Finds other := by
  refine ⟨⟨(inviteArrived "INVITE" "z9hG4bK2").toMessage, _, connected, 0, 0, _, [], rfl, rfl⟩,
    .inl (by decide), ?_⟩
  apply ((busyRejection "INVITE").finds_iff _).2
  refine ⟨.inl (by decide), ?_⟩
  intro _ halike
  obtain ⟨origBranch, branch, horig, -, -, hcookie⟩ := halike.branch
  have hbranch : (((inviteArrived "INVITE" "z9hG4bK2").toMessage.vias[0]?).bind Via.branch) =
      some "z9hG4bK2".toList := by decide
  dsimp only at horig
  rw [hbranch] at horig
  cases horig
  exact absurd hcookie (by decide)

/-- The CSeq of the INVITE says OPTIONS: its transaction does not take the ACK. -/
theorem not_finds : ∃ (x : Rejection) (other : Stranger), ¬ x.Finds other := by
  obtain ⟨ist, hist⟩ := (busyRejection "OPTIONS").exists_madeFor
  refine ⟨busyRejection "OPTIONS", ⟨_, ist, hist⟩, ?_⟩
  intro h
  have hcseq := ((busyRejection "OPTIONS").matchingRequest_own hist.cloned).1 (h.own ist hist)
  rcases hcseq with hcseq | hcseq
  · exact absurd hcseq (by decide)
  · exact absurd hcseq (by decide)

end Examples
end Exosip
