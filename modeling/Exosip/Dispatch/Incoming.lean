import Exosip.Dispatch.Newrequest

/-! A request from the network: it goes to the server transaction that the search finds, or
else to the dispatcher, with a transaction of its own. -/
namespace Exosip

variable {κ : Type}

/-- The transactions of the stack, and what the dispatcher looks at. -/
structure Excontext where
  jOsip : Osip
  exosip : EXosip

/-- `eXosip_init`. -/
def Excontext.init : Excontext := ⟨Osip.init, ⟨[], [], [], [], [], 1⟩⟩

/-- `_eXosip_transaction_init`, with the request as the first event. -/
def openTransaction (env : Env) (osip : Osip) (request : Message) : Osip :=
  let evt := { requestEvent request with transactionid := env.transactionid }
  if request.isInvite then
    match osipTransactionInit Ist env.io env.transactionid env.socket (some request) with
    | .error _ => osip
    | .ok tr => { osip with
        istTransactions := osip.istTransactions ++ [osipTransactionAddEvent tr evt] }
  else
    match osipTransactionInit Nist env.io env.transactionid env.socket (some request) with
    | .error _ => osip
    | .ok tr => { osip with
        nistTransactions := osip.nistTransactions ++ [osipTransactionAddEvent tr evt] }

def addEventTo (transactionid : Int) (evt : Event) (tr : Transaction κ) : Transaction κ :=
  if tr.transactionid = transactionid then osipTransactionAddEvent tr evt else tr

/-- `osip_new_outgoing_sipmessage`, and the event goes to the transaction that is answered. -/
def addAnswer (osip : Osip) : Output → Osip
  | .answer transactionid response =>
      let sip := response.toMessage
      let evt : Event := ⟨evtSetTypeOutgoingSipmessage sip, transactionid, some sip⟩
      { osip with
        istTransactions := osip.istTransactions.map (addEventTo transactionid evt)
        nistTransactions := osip.nistTransactions.map (addEventTo transactionid evt) }
  | .event _ _ => osip

/-- The dispatcher makes a transaction for the request and does not free it again. -/
def opensTransaction (env : Env) (s : EXosip) (sip : SipFields) : Bool :=
  match exosipProcessNewrequest env { s with osipTransactions := [] } sip with
  | .error _ => false
  | .ok (_, d) => !d.s.osipTransactions.isEmpty

/-- `_eXosip_process_newrequest` with the stack: the request, the answers to it and what else
it changes. A fault has no next state. -/
def dispatchRequest (env : Env) (s : Excontext) (sip : SipFields) : Excontext :=
  match exosipProcessNewrequest env { s.exosip with osipTransactions := [] } sip with
  | .error _ => s
  | .ok (_, d) =>
      let osip :=
        if opensTransaction env s.exosip sip then openTransaction env s.jOsip sip.toMessage
        else s.jOsip
      ⟨d.outputs.foldl addAnswer osip, d.s⟩

/-- `_eXosip_handle_incoming_message` for a request, from the check of the start line on. -/
def handleIncomingRequest (env : Env) (s : Excontext) (sip : SipFields) : Excontext :=
  if sip.toMessage.isResponse ∨ sip.sipMethod = none ∨ sip.reqUri = none then s
  else
    match osipFindTransaction s.jOsip sip.toMessage with
    | some i => { s with jOsip := addEventAt s.jOsip i sip.toMessage }
    | none => dispatchRequest env s sip

/-- What happens to the server transactions. Whatever the application and the callbacks do to
the calls, subscriptions and notifications is an `activity`. -/
inductive StackAction where
  | request (env : Env) (sip : SipFields)
  | activity (act : EXosip → EXosip)
  | ist (i : Nat) (action : Action)
  | nist (i : Nat) (action : Action)
  | removeIst (i : Nat)
  | removeNist (i : Nat)

def stackStep : Machine.Step Excontext StackAction Effect
  | s, .request env sip => (handleIncomingRequest env s sip, [])
  | s, .activity act => ({ s with exosip := act s.exosip }, [])
  | s, .ist i action =>
      let transactions := s.jOsip.istTransactions
      ({ s with jOsip.istTransactions := transactions.modify i (fifoStep · action |>.1) },
        (transactions[i]?.map fun tr => (fifoStep tr action).2).getD [])
  | s, .nist i action =>
      let transactions := s.jOsip.nistTransactions
      ({ s with jOsip.nistTransactions := transactions.modify i (fifoStep · action |>.1) },
        (transactions[i]?.map fun tr => (fifoStep tr action).2).getD [])
  | s, .removeIst i =>
      ({ s with jOsip.istTransactions := s.jOsip.istTransactions.eraseIdx i }, [])
  | s, .removeNist i =>
      ({ s with jOsip.nistTransactions := s.jOsip.nistTransactions.eraseIdx i }, [])

/-- A request that opens a transaction carries the method of its request line in the CSeq,
and does not have its Via printed like the different Via of an older transaction. -/
structure OpensDistinct (osip : Osip) (request : Message) : Prop where
  method : request.cseq.bind (·.method) = request.sipMethod
  printed : ∀ other ∈ (if request.isInvite then osip.istTransactions.map Transaction.matchingKey
      else osip.nistTransactions.map Transaction.matchingKey),
    ∀ key, request.matchingKey = some key → other.topvia.Compliant → key.topvia.Compliant →
      ¬ SamePrinted other key

def StepAllowed : Excontext → StackAction → Prop
  | s, .request env sip =>
      osipFindTransaction s.jOsip sip.toMessage = none → opensTransaction env s.exosip sip →
        OpensDistinct s.jOsip sip.toMessage
  | _, _ => True

/-- The server transactions of the stack have distinct keys. -/
structure ServersDistinct (osip : Osip) : Prop where
  ist : KeysDistinct True (osip.istTransactions.map Transaction.matchingKey)
  nist : KeysDistinct False (osip.nistTransactions.map Transaction.matchingKey)

section Steps

variable {osip : Osip}

theorem matchingKey_of_identity {tr tr' : Transaction κ} (h : tr'.identity = tr.identity) :
    tr'.matchingKey = tr.matchingKey := by
  simp only [Transaction.identity, Prod.mk.injEq] at h
  simp only [Transaction.matchingKey, h]

theorem fifoStep_matchingKey [TimedMachine κ] (tr : Transaction κ) (action : Action) :
    (fifoStep tr action).1.matchingKey = tr.matchingKey := by
  apply fifoStep_cases (P := fun next => next.1.matchingKey = tr.matchingKey)
  case timer => exact fun _ _ _ _ => rfl
  case execute =>
    intro io se rest _ _
    have hkeep := matchingKey_of_identity
      (TimedMachine.execute_identity { tr with transactionff := rest } se io)
    exact hkeep
  case add => exact fun _ _ => rfl
  case idle => rfl

theorem addEvent_matchingKey (evt : Event) (tr : Transaction κ) :
    (osipTransactionAddEvent tr evt).matchingKey = tr.matchingKey := rfl

theorem map_matchingKey_addEventTo (transactionid : Int) (evt : Event)
    (transactions : List (Transaction κ)) :
    (transactions.map (addEventTo transactionid evt)).map Transaction.matchingKey =
      transactions.map Transaction.matchingKey := by
  rw [List.map_map]
  refine List.map_congr_left fun tr _ => ?_
  rw [Function.comp_apply, addEventTo]
  split_ifs
  · exact addEvent_matchingKey evt tr
  · rfl

theorem addEventAt_distinct (h : ServersDistinct osip) (i : Nat) (request : Message) :
    ServersDistinct (addEventAt osip i request) := by
  unfold addEventAt
  dsimp only
  split_ifs
  · refine ⟨?_, h.nist⟩
    dsimp only
    rw [map_matchingKey_modify (addEvent_matchingKey _)]
    exact h.ist
  · refine ⟨h.ist, ?_⟩
    dsimp only
    rw [map_matchingKey_modify (addEvent_matchingKey _)]
    exact h.nist

theorem addAnswer_distinct (h : ServersDistinct osip) (output : Output) :
    ServersDistinct (addAnswer osip output) := by
  cases output with
  | answer transactionid response =>
      constructor
      · dsimp only [addAnswer]
        rw [map_matchingKey_addEventTo]
        exact h.ist
      · dsimp only [addAnswer]
        rw [map_matchingKey_addEventTo]
        exact h.nist
  | event type tid => exact h

theorem addAnswers_distinct (h : ServersDistinct osip) (outputs : List Output) :
    ServersDistinct (outputs.foldl addAnswer osip) := by
  induction outputs generalizing osip with
  | nil => exact h
  | cons output outputs ih => exact ih (addAnswer_distinct h output)

/-- A request line with INVITE opens an INVITE transaction, which is then searched in that
list too. -/
theorem openTransaction_distinct (h : ServersDistinct osip) {request : Message}
    (hfind : osipFindTransaction osip request = none) (hopens : OpensDistinct osip request)
    (hrequest : request.isRequest = true) (hack : ¬ request.isAck = true) (env : Env) :
    ServersDistinct (openTransaction env osip request) := by
  have hisMethod (method : String) : request.isMethod method = true ↔
      request.sipMethod = some method.toList := by
    simp [Message.isMethod, hrequest]
  unfold openTransaction
  dsimp only
  split_ifs with hinvite
  · cases hinit : osipTransactionInit Ist env.io env.transactionid env.socket (some request) with
    | error i => exact h
    | ok tr =>
        have hcseq : request.cseq.bind (·.method) = some "INVITE".toList :=
          hopens.method.trans ((hisMethod "INVITE").1 hinvite)
        have hsearch : searchesIst request = true := by simp [searchesIst, hcseq]
        rw [osipFindTransaction, if_pos hsearch] at hfind
        have hprinted := hopens.printed
        rw [if_pos hinvite] at hprinted
        exact ⟨h.ist.append hfind hinit (by simp [hcseq]) hprinted, h.nist⟩
  · cases hinit : osipTransactionInit Nist env.io env.transactionid env.socket (some request) with
    | error i => exact h
    | ok tr =>
        have hnotInvite : request.cseq.bind (·.method) ≠ some "INVITE".toList := by
          rw [hopens.method]
          exact fun heq => hinvite ((hisMethod "INVITE").2 heq)
        have hnotAck : request.cseq.bind (·.method) ≠ some "ACK".toList := by
          rw [hopens.method]
          exact fun heq => hack ((hisMethod "ACK").2 heq)
        have hsearch : ¬ searchesIst request = true := by
          simp only [searchesIst, Bool.or_eq_true, beq_iff_eq]
          exact fun h => h.elim hnotInvite hnotAck
        rw [osipFindTransaction, if_neg hsearch] at hfind
        have hprinted := hopens.printed
        rw [if_neg hinvite] at hprinted
        exact ⟨h.ist, h.nist.append hfind hinit (iff_false_intro hnotInvite) hprinted⟩

theorem not_isAck_of_opensTransaction {env : Env} {s : EXosip} {sip : SipFields}
    (h : opensTransaction env s sip = true) : ¬ sip.toMessage.isAck = true := by
  intro hack
  unfold opensTransaction exosipProcessNewrequest at h
  rw [if_pos hack] at h
  cases hplace : findPlace sip s.jCalls with
  | error e =>
      dsimp only at h
      rw [hplace] at h
      cases h
  | ok place =>
      dsimp only at h
      rw [hplace] at h
      cases place <;> cases h

theorem dispatchRequest_distinct {env : Env} {s : Excontext} {sip : SipFields}
    (h : ServersDistinct s.jOsip) (hfind : osipFindTransaction s.jOsip sip.toMessage = none)
    (hopens : opensTransaction env s.exosip sip → OpensDistinct s.jOsip sip.toMessage)
    (hrequest : sip.toMessage.isRequest = true) :
    ServersDistinct (dispatchRequest env s sip).jOsip := by
  unfold dispatchRequest
  split
  · exact h
  · apply addAnswers_distinct
    split_ifs with hopened
    · exact openTransaction_distinct h hfind (hopens hopened) hrequest
        (not_isAck_of_opensTransaction hopened) env
    · exact h

theorem stackStep_distinct {s : Excontext} {action : StackAction}
    (hallowed : StepAllowed s action) (h : ServersDistinct s.jOsip) :
    ServersDistinct (stackStep s action).1.jOsip := by
  cases action with
  | request env sip =>
      simp only [stackStep, handleIncomingRequest]
      split_ifs with hrefused
      · exact h
      · cases hfind : osipFindTransaction s.jOsip sip.toMessage with
        | some i => exact addEventAt_distinct h i sip.toMessage
        | none =>
            have hrequest : sip.toMessage.isRequest = true := by
              have := fun hr => hrefused (.inl hr)
              simpa [Message.isRequest, Message.isResponse] using this
            exact dispatchRequest_distinct h hfind (hallowed hfind) hrequest
  | activity act => exact h
  | ist i action =>
      refine ⟨?_, h.nist⟩
      dsimp only [stackStep]
      rw [map_matchingKey_modify fun tr => fifoStep_matchingKey tr action]
      exact h.ist
  | nist i action =>
      refine ⟨h.ist, ?_⟩
      dsimp only [stackStep]
      rw [map_matchingKey_modify fun tr => fifoStep_matchingKey tr action]
      exact h.nist
  | removeIst i => exact ⟨h.ist.sublist ((List.eraseIdx_sublist _ i).map _), h.nist⟩
  | removeNist i => exact ⟨h.ist, h.nist.sublist ((List.eraseIdx_sublist _ i).map _)⟩

end Steps

/-- In every run that opens transactions only for requests that name one method and are not
printed like an older one, no request matches two compliant server transactions. -/
theorem matching_request_unambiguous {actions : List StackAction}
    (hrun : Machine.Guarded stackStep StepAllowed Excontext.init actions) :
    Unambiguous (Machine.run stackStep Excontext.init actions).1.jOsip.istTransactions ∧
      Unambiguous (Machine.run stackStep Excontext.init actions).1.jOsip.nistTransactions := by
  have hinit : ServersDistinct Excontext.init.jOsip :=
    ⟨⟨List.Pairwise.nil, by simp [Excontext.init, Osip.init]⟩,
      ⟨List.Pairwise.nil, by simp [Excontext.init, Osip.init]⟩⟩
  have h := Machine.guarded_invariant stackStep (I := fun s => ServersDistinct s.jOsip)
    (fun _ _ => stackStep_distinct) hrun hinit
  exact ⟨h.ist.unambiguous, h.nist.unambiguous⟩

section Examples

def inCall (callid branch : String) (sip : SipFields) : SipFields :=
  { sip with
    callId := some ⟨some callid.toList, none⟩
    vias := [⟨some "2.0".toList, some "UDP".toList, some "remote".toList, none, none,
      [⟨"branch".toList, some branch.toList⟩]⟩] }

/-- The INVITEs arrive one after the other. -/
def receiveBoth (sip1 sip2 : SipFields) : List StackAction :=
  [.request someEnv sip1, .request { someEnv with transactionid := 2 } sip2]

def inviteAsAck : SipFields :=
  { requestOf "INVITE" "1" [] with cseq := some ⟨some "ACK".toList, some "1".toList⟩ }

/-- Two calls with branches of their own. -/
theorem matching_request_unambiguous_twoCalls :
    Unambiguous (Machine.run stackStep Excontext.init
      (receiveBoth (requestOf "INVITE" "1" [])
        (inCall "c2" "z9hG4bK2" (requestOf "INVITE" "1" [])))).1.jOsip.istTransactions := by
  refine (matching_request_unambiguous ?_).1
  refine ⟨fun _ _ => ⟨by decide, fun other hother => ?_⟩,
    fun _ _ => ⟨by decide, fun other hother key hkey _ _ hprinted => ?_⟩, trivial⟩
  · cases hother
  · cases hkey
    rw [List.mem_singleton.1 hother] at hprinted
    exact absurd hprinted.callid (by decide)

/-- The first request opens an INVITE transaction although its CSeq says ACK. The search for
the second one then compares INVITE with ACK, finds none, and there is no dialog of its call:
another is opened. The ACK matches both. -/
theorem matching_request_ambiguous :
    ¬ Unambiguous (Machine.run stackStep Excontext.init
      (receiveBoth inviteAsAck
        (inCall "c2" "z9hG4bK1" (requestOf "INVITE" "1" [])))).1.jOsip.istTransactions := by
  intro h
  have hboth := (List.pairwise_cons.1 h).1 _ List.mem_cons_self ⟨_, rfl, rfl⟩ ⟨_, rfl, rfl⟩
    (requestOf "ACK" "1" []).toMessage
  exact hboth ⟨by decide, by decide⟩

end Examples
end Exosip
