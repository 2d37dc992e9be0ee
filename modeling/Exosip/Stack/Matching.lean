import Exosip.Parser.Via
import Exosip.Stack.Osip
import Exosip.Stack.Retransmission

/-! The search of the server transaction that a request belongs to. A transaction is made
for a request when the search finds none. -/
namespace Exosip

open CString

variable {κ : Type}

def Via.branch (via : Via) : Option Str :=
  (via.paramGetByname "branch".toList).bind (·.gvalue)

/-- `0 == strncmp (gvalue, "z9hG4bK", 7)`. -/
def startsWithCookie (gvalue : Str) : Bool := "z9hG4bK".toList.isPrefixOf gvalue

/-- The branch was made by a compliant client. -/
def Via.Compliant (via : Via) : Prop := ∃ branch, via.branch = some branch ∧ startsWithCookie branch

/-- The check of the sent-by values, where no port means 5060. -/
def sentByMatch (origvia topviaRequest : Via) : Bool :=
  match topviaRequest.host, origvia.host with
  | some bHost, some bOrighost =>
      bOrighost == bHost &&
        match topviaRequest.port, origvia.port with
        | some bPort, none => bPort == "5060".toList
        | none, some bOrigport => bOrigport == "5060".toList
        | some bPort, some bOrigport => bOrigport == bPort
        | none, none => true
  | _, _ => false

/-- The methods agree, or an ACK looks for its INVITE. -/
def cseqMethodMatch (trMethod method : Option Str) : Bool :=
  (trMethod == some "INVITE".toList && method == some "ACK".toList) || trMethod == method

def oldToMatch (tr : Transaction κ) (request : Message) : Bool :=
  if request.isAck then
    match GenericParam.getByname tr.toHeader.genParams "tag".toList,
        request.toHeader.bind (GenericParam.getByname ·.genParams "tag".toList) with
    | none, some _ => true
    | some _, none => false
    | _, _ => osipToTagMatch (some tr.toHeader) request.toHeader
  else
    match tr.origRequest.bind (·.toHeader) with
    | none => false
    | some origTo => osipToTagMatch (some origTo) request.toHeader

def oldMatch (tr : Transaction κ) (request : Message) (topviaRequest : Via) : Bool :=
  osipCallIdMatch (some tr.callid) request.callId &&
    osipFromTagMatch (some tr.fromHeader) request.fromHeader &&
    osipCseqMatch (some tr.cseq) request.cseq &&
    osipViaMatch tr.topvia topviaRequest

/-- `__osip_transaction_matching_request_osip_to_xist_17_2_3` on a server transaction. -/
def matchingRequestOsipToXist1723 (tr : Transaction κ) (request : Message) : Bool :=
  match request.cseq.bind (·.method), request.vias[0]? with
  | some method, some topviaRequest =>
      match tr.topvia.paramGetByname "branch".toList,
          topviaRequest.paramGetByname "branch".toList with
      | none, some _ => false
      | some _, none => false
      | none, none => oldToMatch tr request && oldMatch tr request topviaRequest
      | some bOrigrequest, some bRequest =>
          match bOrigrequest.gvalue, bRequest.gvalue with
          | some origBranch, some branch =>
              if origBranch.length ≠ branch.length then false
              else if startsWithCookie origBranch && startsWithCookie branch then
                origBranch == branch && sentByMatch tr.topvia topviaRequest &&
                  cseqMethodMatch tr.cseq.method (some method)
              else oldToMatch tr request && oldMatch tr request topviaRequest
          | _, _ => false
  | _, _ => false

def requestEvent (request : Message) : Event :=
  ⟨evtSetTypeIncomingSipmessage request, 0, some request⟩

/-- `osip_transaction_find` in one of the lists: the position of the first that matches. -/
def osipTransactionFind (transactions : List (Transaction κ)) (request : Message) : Option Nat :=
  transactions.findIdx? (matchingRequestOsipToXist1723 · request)

def searchesIst (request : Message) : Bool :=
  request.cseq.bind (·.method) == some "INVITE".toList ||
    request.cseq.bind (·.method) == some "ACK".toList

/-- `__osip_find_transaction` for a request that arrives. -/
def osipFindTransaction (osip : Osip) (request : Message) : Option Nat :=
  if searchesIst request then osipTransactionFind osip.istTransactions request
  else osipTransactionFind osip.nistTransactions request

def addEventAt (osip : Osip) (i : Nat) (request : Message) : Osip :=
  let evt := requestEvent request
  if searchesIst request then
    { osip with istTransactions := osip.istTransactions.modify i (osipTransactionAddEvent · evt) }
  else
    { osip with nistTransactions := osip.nistTransactions.modify i (osipTransactionAddEvent · evt) }

/-- No request matches two of the transactions that compliant clients opened. -/
def Unambiguous (transactions : List (Transaction κ)) : Prop :=
  transactions.Pairwise fun tr1 tr2 => tr1.topvia.Compliant → tr2.topvia.Compliant →
    ∀ request, ¬ (matchingRequestOsipToXist1723 tr1 request = true ∧
      matchingRequestOsipToXist1723 tr2 request = true)

/-- What the search compares of a transaction, apart from the To header of the old rules. -/
structure MatchingKey where
  topvia : Via
  callid : CallId
  fromHeader : From
  cseq : Cseq

def Transaction.matchingKey (tr : Transaction κ) : MatchingKey :=
  ⟨tr.topvia, tr.callid, tr.fromHeader, tr.cseq⟩

def Message.matchingKey (request : Message) : Option MatchingKey := do
  let topvia ← request.vias[0]?
  let callid ← request.callId
  let fromHeader ← request.fromHeader
  let cseq ← request.cseq
  return ⟨topvia, callid, fromHeader, cseq⟩

/-- The two transactions are the same by the rules for compliant clients. -/
structure SameBranch (key1 key2 : MatchingKey) : Prop where
  branch : key1.topvia.branch = key2.topvia.branch
  sentBy : sentByMatch key1.topvia key2.topvia = true
  method : key1.cseq.method = key2.cseq.method

/-- The two transactions are the same by the old rules. -/
structure SamePrinted (key1 key2 : MatchingKey) : Prop where
  callid : osipCallIdMatch (some key1.callid) (some key2.callid) = true
  fromTag : osipFromTagMatch (some key1.fromHeader) (some key2.fromHeader) = true
  cseq : osipCseqMatch (some key1.cseq) (some key2.cseq) = true
  via : osipViaMatch key1.topvia key2.topvia = true

section Relations

/-! Two transactions that both agree with a request agree with each other. -/

theorem sentByMatch_iff {via1 via2 : Via} :
    sentByMatch via1 via2 = true ↔ via1.host.isSome = true ∧ via1.host = via2.host ∧
      via1.port.getD "5060".toList = via2.port.getD "5060".toList := by
  generalize hdefault : "5060".toList = port5060
  unfold sentByMatch
  rw [hdefault]
  cases via2.host with
  | none => cases via1.host <;> simp
  | some host2 =>
      cases via1.host with
      | none => simp
      | some host1 => cases via2.port <;> cases via1.port <;> grind

theorem osipViaMatch_iff {via1 via2 : Via} :
    osipViaMatch via1 via2 = true ↔
      ∃ str, osipViaToStr via1 = .ok str ∧ osipViaToStr via2 = .ok str := by
  unfold osipViaMatch
  cases osipViaToStr via1 <;> cases osipViaToStr via2 <;> grind

-- a tab before the quote hides it from the parser, not from the printer
example : ∃ via1 via2,
    osipViaParse "SIP/2.0/UDP h;x=\t\"a;branch=z9hG4bKa;w=\"".toList = .ok via1 ∧
      osipViaParse "SIP/2.0/UDP h;x=\"a;branch=z9hG4bKa;w=\"".toList = .ok via2 ∧
      osipViaMatch via1 via2 = true ∧ via1.branch ≠ via2.branch :=
  ⟨_, _, rfl, rfl, by decide, by decide⟩

theorem osipCallIdMatch_iff {callid1 callid2 : CallId} :
    osipCallIdMatch (some callid1) (some callid2) = true ↔
      callid1.number.isSome = true ∧ callid1 = callid2 := by
  obtain ⟨number1, host1⟩ := callid1
  obtain ⟨number2, host2⟩ := callid2
  simp only [osipCallIdMatch, CallId.mk.injEq, Bool.and_eq_true, beq_iff_eq]
  constructor
  · exact fun h => ⟨h.1.1.1, h.1.2, h.2⟩
  · rintro ⟨hsome, rfl, rfl⟩
    exact ⟨⟨⟨hsome, hsome⟩, rfl⟩, rfl⟩

def From.tag (header : From) : Option (Option Str) :=
  (GenericParam.getByname header.genParams "tag".toList).map (·.gvalue)

theorem osipFromTagMatch_iff {from1 from2 : From} :
    osipFromTagMatch (some from1) (some from2) = true ↔
      from1.tag = from2.tag ∧ from1.tag ≠ some none := by
  unfold osipFromTagMatch From.tag
  dsimp only
  cases GenericParam.getByname from1.genParams "tag".toList with
  | none => cases GenericParam.getByname from2.genParams "tag".toList <;> simp
  | some tag1 =>
      cases GenericParam.getByname from2.genParams "tag".toList with
      | none => simp
      | some tag2 => simp [and_comm, Option.isSome_iff_ne_none]

def Cseq.matchMethod (cseq : Cseq) : Option Str :=
  cseq.method.map fun method => if method = "ACK".toList then "INVITE".toList else method

theorem osipCseqMatch_iff {cseq1 cseq2 : Cseq} :
    osipCseqMatch (some cseq1) (some cseq2) = true ↔
      cseq1.number.isSome = true ∧ cseq1.number = cseq2.number ∧
        cseq1.method.isSome = true ∧ cseq1.matchMethod = cseq2.matchMethod := by
  unfold osipCseqMatch Cseq.matchMethod
  generalize "INVITE".toList = invite
  generalize "ACK".toList = ack
  dsimp only
  cases cseq1.number <;> cases cseq2.number <;> cases cseq1.method <;> cases cseq2.method <;>
    grind

theorem osipCallIdMatch_of_both {callid1 callid2 : CallId} {callid : Option CallId}
    (h1 : osipCallIdMatch (some callid1) callid = true)
    (h2 : osipCallIdMatch (some callid2) callid = true) :
    osipCallIdMatch (some callid1) (some callid2) = true := by
  cases callid with
  | none => cases h1
  | some callid =>
      rw [osipCallIdMatch_iff] at *
      exact ⟨h1.1, h1.2.trans h2.2.symm⟩

theorem osipFromTagMatch_of_both {from1 from2 : From} {from' : Option From}
    (h1 : osipFromTagMatch (some from1) from' = true)
    (h2 : osipFromTagMatch (some from2) from' = true) :
    osipFromTagMatch (some from1) (some from2) = true := by
  cases from' with
  | none => cases h1
  | some from' =>
      rw [osipFromTagMatch_iff] at *
      exact ⟨h1.1.trans h2.1.symm, h1.2⟩

theorem osipCseqMatch_of_both {cseq1 cseq2 : Cseq} {cseq : Option Cseq}
    (h1 : osipCseqMatch (some cseq1) cseq = true) (h2 : osipCseqMatch (some cseq2) cseq = true) :
    osipCseqMatch (some cseq1) (some cseq2) = true := by
  cases cseq with
  | none => cases h1
  | some cseq =>
      rw [osipCseqMatch_iff] at *
      exact ⟨h1.1, h1.2.1.trans h2.2.1.symm, h1.2.2.1, h1.2.2.2.trans h2.2.2.2.symm⟩

theorem osipViaMatch_of_both {via1 via2 via : Via} (h1 : osipViaMatch via1 via = true)
    (h2 : osipViaMatch via2 via = true) : osipViaMatch via1 via2 = true := by
  rw [osipViaMatch_iff] at *
  obtain ⟨str, hstr1, hstr⟩ := h1
  obtain ⟨str', hstr2, hstr'⟩ := h2
  rw [hstr] at hstr'
  cases hstr'
  exact ⟨str, hstr1, hstr2⟩

end Relations

section Matching

variable {tr tr1 tr2 : Transaction κ} {request : Message} {topviaRequest : Via}

/-- The search on a compliant transaction: the rules for compliant clients where the request
is compliant too, and the old rules otherwise. -/
theorem matchingRequest_iff (htr : tr.topvia.Compliant)
    (htop : request.vias[0]? = some topviaRequest) {method : Str}
    (hmethod : request.cseq.bind (·.method) = some method) :
    matchingRequestOsipToXist1723 tr request = true ↔
      (topviaRequest.Compliant ∧ tr.topvia.branch = topviaRequest.branch ∧
        sentByMatch tr.topvia topviaRequest = true ∧
        cseqMethodMatch tr.cseq.method (some method) = true) ∨
      (¬ topviaRequest.Compliant ∧
        (∃ branch origBranch, topviaRequest.branch = some branch ∧
          tr.topvia.branch = some origBranch ∧ origBranch.length = branch.length) ∧
        oldToMatch tr request = true ∧ oldMatch tr request topviaRequest = true) := by
  obtain ⟨origBranch, horig, hcookie⟩ := htr
  obtain ⟨bOrigrequest, hparam, hgvalue⟩ := Option.bind_eq_some_iff.1 horig
  unfold matchingRequestOsipToXist1723
  rw [hmethod, htop]
  dsimp only
  rw [hparam, horig]
  cases hreq : topviaRequest.paramGetByname "branch".toList with
  | none =>
      have hbranch : topviaRequest.branch = none := by rw [Via.branch, hreq, Option.bind_none]
      simp [Via.Compliant, hbranch]
  | some bRequest =>
      have hbranch : topviaRequest.branch = bRequest.gvalue := by
        rw [Via.branch, hreq, Option.bind_some]
      dsimp only
      rw [hgvalue]
      cases hvalue : bRequest.gvalue with
      | none =>
          rw [hvalue] at hbranch
          simp [Via.Compliant, hbranch]
      | some branch =>
          rw [hvalue] at hbranch
          have hcompliant : topviaRequest.Compliant ↔ startsWithCookie branch = true := by
            simp [Via.Compliant, hbranch]
          rw [hcompliant, hbranch]
          by_cases hlength : origBranch.length = branch.length
          · by_cases hstart : startsWithCookie branch = true
            · simp [hlength, hstart, hcookie, and_assoc]
            · simp [hlength, hstart, hcookie]
          · have hne : origBranch ≠ branch := fun heq => hlength (congrArg List.length heq)
            simp [hlength, hne]

theorem matchingRequest_some (h : matchingRequestOsipToXist1723 tr request = true) :
    ∃ method topviaRequest, request.cseq.bind (·.method) = some method ∧
      request.vias[0]? = some topviaRequest := by
  unfold matchingRequestOsipToXist1723 at h
  split at h
  · next method topviaRequest hmethod htop => exact ⟨method, topviaRequest, hmethod, htop⟩
  · cases h

/-- Two compliant transactions of one method that match the same request agree with each
other by the same rules. -/
theorem same_of_matching_both (hc1 : tr1.topvia.Compliant) (hc2 : tr2.topvia.Compliant)
    (hmethods : tr1.cseq.method = some "INVITE".toList ↔ tr2.cseq.method = some "INVITE".toList)
    (h1 : matchingRequestOsipToXist1723 tr1 request = true)
    (h2 : matchingRequestOsipToXist1723 tr2 request = true) :
    SameBranch tr1.matchingKey tr2.matchingKey ∨ SamePrinted tr1.matchingKey tr2.matchingKey := by
  obtain ⟨method, topviaRequest, hmethod, htop⟩ := matchingRequest_some h1
  rw [matchingRequest_iff hc1 htop hmethod] at h1
  rw [matchingRequest_iff hc2 htop hmethod] at h2
  obtain ⟨hc, hbranch1, hsentBy1, hm1⟩ | ⟨hc, -, -, hold1⟩ := h1
  · obtain ⟨-, hbranch2, hsentBy2, hm2⟩ | ⟨hc', -⟩ := h2
    · refine .inl ⟨hbranch1.trans hbranch2.symm, ?_, ?_⟩
      · rw [sentByMatch_iff] at *
        exact ⟨hsentBy1.1, hsentBy1.2.1.trans hsentBy2.2.1.symm,
          hsentBy1.2.2.trans hsentBy2.2.2.symm⟩
      · simp only [cseqMethodMatch, Bool.or_eq_true, Bool.and_eq_true, beq_iff_eq] at hm1 hm2
        show tr1.cseq.method = tr2.cseq.method
        by_cases hinvite : tr1.cseq.method = some "INVITE".toList
        · rw [hinvite, hmethods.1 hinvite]
        · have hinvite2 := fun h => hinvite (hmethods.2 h)
          rw [hm1.resolve_left fun h => hinvite h.1, hm2.resolve_left fun h => hinvite2 h.1]
    · exact absurd hc hc'
  · obtain ⟨hc', -⟩ | ⟨-, -, -, hold2⟩ := h2
    · exact absurd hc' hc
    · simp only [oldMatch, Bool.and_eq_true] at hold1 hold2
      exact .inr ⟨osipCallIdMatch_of_both hold1.1.1.1 hold2.1.1.1,
        osipFromTagMatch_of_both hold1.1.1.2 hold2.1.1.2,
        osipCseqMatch_of_both hold1.1.2 hold2.1.2, osipViaMatch_of_both hold1.2 hold2.2⟩

theorem matching_of_sameBranch {key : MatchingKey} (hkey : request.matchingKey = some key)
    (htr : tr.topvia.Compliant) (hc : key.topvia.Compliant)
    (hmethod : key.cseq.method.isSome = true) (h : SameBranch tr.matchingKey key) :
    matchingRequestOsipToXist1723 tr request = true := by
  obtain ⟨hbranch, hsentBy, hm⟩ := h
  simp only [Message.matchingKey, Option.bind_eq_bind, Option.bind_eq_some_iff] at hkey
  obtain ⟨topvia, htop, callid, -, fromHeader, -, cseq, hcseq, hkey⟩ := hkey
  cases hkey
  obtain ⟨method, hmethod⟩ := Option.isSome_iff_exists.1 hmethod
  have hrequest : request.cseq.bind (·.method) = some method := by
    rw [hcseq, Option.bind_some, hmethod]
  rw [matchingRequest_iff htr htop hrequest]
  refine .inl ⟨hc, hbranch, hsentBy, ?_⟩
  have hm' : tr.cseq.method = some method := hm.trans hmethod
  rw [cseqMethodMatch, hm', beq_self_eq_true, Bool.or_true]

end Matching

theorem osipTransactionInit_matchingKey [StateMachine κ] {io : Io} {transactionid outSocket : Int}
    {request : Message} {tr : Transaction κ}
    (h : osipTransactionInit κ io transactionid outSocket (some request) = .ok tr) :
    request.matchingKey = some tr.matchingKey ∧ request.cseq = some tr.cseq ∧
      tr.cseq.method.isSome = true := by
  unfold osipTransactionInit at h
  dsimp only at h
  split_ifs at h
  split at h
  · cases h
  · next via hvia =>
      split at h
      · next topvia fromHeader toHeader callid cseq htop hfrom hto hcallid hcseq =>
          split at h
          · cases h
          · cases h
            obtain ⟨htop, -⟩ := Option.filter_eq_some_iff.1 htop
            obtain ⟨hfrom, -⟩ := Option.filter_eq_some_iff.1 hfrom
            obtain ⟨hcallid, -⟩ := Option.filter_eq_some_iff.1 hcallid
            obtain ⟨hcseq, hmethod⟩ := Option.filter_eq_some_iff.1 hcseq
            cases htop
            refine ⟨?_, hcseq, (Bool.and_eq_true_iff.1 hmethod).1⟩
            simp only [Message.matchingKey, hvia, hfrom, hcallid, hcseq, Option.bind_eq_bind,
              Option.bind_some, Option.pure_def, Transaction.matchingKey]
      · cases h

section Distinct

/-- Not both of two transactions of compliant clients can match one request. -/
def MatchingKey.Distinct (key1 key2 : MatchingKey) : Prop :=
  key1.topvia.Compliant → key2.topvia.Compliant →
    ¬ SameBranch key1 key2 ∧ ¬ SamePrinted key1 key2

/-- The keys of one list: those of INVITE transactions, or of all others. -/
structure KeysDistinct (invite : Prop) (keys : List MatchingKey) : Prop where
  distinct : keys.Pairwise MatchingKey.Distinct
  method : ∀ key ∈ keys, key.cseq.method = some "INVITE".toList ↔ invite

variable {invite : Prop} {transactions : List (Transaction κ)}

theorem KeysDistinct.unambiguous
    (h : KeysDistinct invite (transactions.map Transaction.matchingKey)) :
    Unambiguous transactions := by
  refine (List.pairwise_map.1 h.distinct).imp_of_mem fun {tr1 tr2} hmem1 hmem2 hdistinct => ?_
  intro hc1 hc2 request hboth
  have hmethods := (h.method _ (List.mem_map_of_mem hmem1)).trans
    (h.method _ (List.mem_map_of_mem hmem2)).symm
  obtain ⟨hbranch, hprinted⟩ := hdistinct hc1 hc2
  exact (same_of_matching_both hc1 hc2 hmethods hboth.1 hboth.2).elim hbranch hprinted

theorem KeysDistinct.sublist {keys keys' : List MatchingKey} (h : KeysDistinct invite keys)
    (hsub : keys'.Sublist keys) : KeysDistinct invite keys' :=
  ⟨h.distinct.sublist hsub, fun key hmem => h.method key (hsub.subset hmem)⟩

theorem map_matchingKey_modify {f : Transaction κ → Transaction κ}
    (hf : ∀ tr, (f tr).matchingKey = tr.matchingKey) (i : Nat) :
    (transactions.modify i f).map Transaction.matchingKey =
      transactions.map Transaction.matchingKey := by
  ext1 j
  rw [List.getElem?_map, List.getElem?_map, List.getElem?_modify]
  cases transactions[j]? with
  | none => rfl
  | some tr =>
      rw [Option.map_eq_map, Option.map_some, Option.map_some, Option.map_some]
      split_ifs
      · rw [hf]
      · rfl

theorem KeysDistinct.append [StateMachine κ] {io : Io} {transactionid outSocket : Int}
    {request : Message} {tr : Transaction κ} {evt : Event}
    (h : KeysDistinct invite (transactions.map Transaction.matchingKey))
    (hfind : osipTransactionFind transactions request = none)
    (hinit : osipTransactionInit κ io transactionid outSocket (some request) = .ok tr)
    (hmethod : request.cseq.bind (·.method) = some "INVITE".toList ↔ invite)
    (hprinted : ∀ other ∈ transactions.map Transaction.matchingKey,
      ∀ key, request.matchingKey = some key → other.topvia.Compliant → key.topvia.Compliant →
        ¬ SamePrinted other key) :
    KeysDistinct invite
      ((transactions ++ [osipTransactionAddEvent tr evt]).map Transaction.matchingKey) := by
  obtain ⟨hkey, hcseq, hsome⟩ := osipTransactionInit_matchingKey hinit
  have hadd : (osipTransactionAddEvent tr evt).matchingKey = tr.matchingKey := rfl
  rw [List.map_append, List.map_singleton, hadd]
  constructor
  · rw [List.pairwise_append]
    refine ⟨h.distinct, List.pairwise_singleton _ _, ?_⟩
    intro other hother new hnew hc1 hc2
    rw [List.mem_singleton.1 hnew] at hc2 ⊢
    refine ⟨fun hsame => ?_, hprinted other hother _ hkey hc1 hc2⟩
    obtain ⟨old, hold, rfl⟩ := List.mem_map.1 hother
    have hmatch := matching_of_sameBranch hkey hc1 hc2 hsome hsame
    rw [osipTransactionFind, List.findIdx?_eq_none_iff] at hfind
    exact absurd hmatch (by rw [hfind old hold]; decide)
  · intro key hmem
    rcases List.mem_append.1 hmem with hmem | hmem
    · exact h.method key hmem
    · rw [List.mem_singleton.1 hmem, ← hmethod, hcseq]
      rfl

end Distinct

section Examples

def requestWith (method cseqMethod branch callid : String) : Message :=
  { Message.init with
    sipVersion := some "SIP/2.0".toList
    reqUri := some registrarUri
    sipMethod := some method.toList
    callId := some ⟨some callid.toList, none⟩
    cseq := some ⟨some cseqMethod.toList, some "1".toList⟩
    fromHeader := some ⟨none, some registrarUri, [⟨"tag".toList, some "456248".toList⟩]⟩
    toHeader := some ⟨none, some registrarUri, []⟩
    vias := [⟨some "2.0".toList, some "UDP".toList, some "192.0.2.1".toList, none, none,
      [⟨"branch".toList, some branch.toList⟩]⟩] }

end Examples
end Exosip
