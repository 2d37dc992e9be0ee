import Exosip.Machine.Dict
import Exosip.Stack.Absorption

/-! The hash tables that stand beside the lists of transactions, one for each kind, and the
search that looks into a table before it goes through a list. The indexes read only what never
changes of a transaction, so that a transaction here stands for what it becomes, too. -/
namespace Exosip

open CString Machine

/-- `osip_fsm_type_t`. -/
inductive FsmType where
  | ict | ist | nict | nist
  deriving DecidableEq, Repr

/-- `__osip_transaction_matching_response_osip_to_xict_17_1_3` on a client transaction. -/
def matchingResponseOsipToXict1713 {κ : Type} (tr : Transaction κ) (response : Message) : Bool :=
  match response.cseq.bind (·.method), response.vias[0]? with
  | some method, some topviaResponse =>
      match tr.topvia.branch, topviaResponse.branch with
      | some bRequest, some bResponse =>
          bRequest == bResponse && some method == tr.cseq.method
      | _, _ => false
  | _, _ => false

namespace AnyTransaction

def ctxType : AnyTransaction → FsmType
  | ict _ => .ict
  | ist _ => .ist
  | nict _ => .nict
  | nist _ => .nist

def transactionid : AnyTransaction → Int
  | ict tr | ist tr | nict tr | nist tr => tr.transactionid

def branch : AnyTransaction → Option Str
  | ict tr | ist tr | nict tr | nist tr => tr.topvia.branch

def matchesRequest (request : Message) : AnyTransaction → Bool
  | ist tr | nist tr => matchingRequestOsipToXist1723 tr request
  | ict _ | nict _ => false

def matchesResponse (response : Message) : AnyTransaction → Bool
  | ict tr | nict tr => matchingResponseOsipToXict1713 tr response
  | ist _ | nist _ => false

end AnyTransaction

/-- `EVT_IS_INCOMINGRESP`. -/
def Event.isIncomingResp (evt : Event) : Bool :=
  evt.type == .rcvStatus1xx || evt.type == .rcvStatus2xx || evt.type == .rcvStatus3456xx

/-- `MSG_IS_RESPONSE_FOR (msg, "INVITE")`. -/
def Message.isResponseForInvite (msg : Message) : Bool :=
  msg.isResponse && msg.cseq.bind (·.method) == some "INVITE".toList

/-- The four lists of the stack with the four hash tables. -/
structure IndexedOsip (δ : Type) where
  transactions : FsmType → List AnyTransaction
  hastable : FsmType → δ

namespace IndexedOsip

variable {δ : Type} [Dict δ Str AnyTransaction]

/-- `osip_init`. -/
def init : IndexedOsip δ := ⟨fun _ => [], fun _ => Dict.empty⟩

/-- The `__osip_add_xxx` of the kind of the transaction. -/
def add (osip : IndexedOsip δ) (tr : AnyTransaction) : IndexedOsip δ where
  transactions := Function.update osip.transactions tr.ctxType
    (osip.transactions tr.ctxType ++ [tr])
  hastable :=
    match tr.branch with
    | none => osip.hastable
    | some branch => Function.update osip.hastable tr.ctxType
        (Dict.insert (osip.hastable tr.ctxType) branch tr)

/-- `__osip_remove_xxx_transaction`: the key goes, whoever has it, and the first transaction
with that id. -/
def remove (osip : IndexedOsip δ) (tr : AnyTransaction) : IndexedOsip δ where
  transactions := Function.update osip.transactions tr.ctxType
    ((osip.transactions tr.ctxType).eraseP fun tmp => tmp.transactionid == tr.transactionid)
  hastable :=
    match tr.branch with
    | none => osip.hastable
    | some branch => Function.update osip.hastable tr.ctxType
        (Dict.remove (osip.hastable tr.ctxType) branch)

/-- The scan of a list that `osip_transaction_find` makes. -/
def scan (osip : IndexedOsip δ) (list : FsmType) (evt : Event) : Option AnyTransaction :=
  if evt.isIncomingReq then
    evt.sip.bind fun sip => (osip.transactions list).find? (·.matchesRequest sip)
  else if evt.isIncomingResp then
    evt.sip.bind fun sip => (osip.transactions list).find? (·.matchesResponse sip)
  else (osip.transactions list).find? fun tr => tr.transactionid == evt.transactionid

def tableOf (sip : Message) : FsmType :=
  if sip.isResponse then if sip.isResponseForInvite then .ict else .nict
  else if sip.isInvite || sip.isAck then .ist else .nist

/-- `osip_transaction_find` with `HAVE_DICT_DICT_H`. The stack is known from the first
transaction of the list. -/
def find (osip : IndexedOsip δ) (list : FsmType) (evt : Event) : Option AnyTransaction :=
  if (osip.transactions list).length = 0 then none
  else if evt.isIncomingReq || evt.isIncomingResp then do
    let sip ← evt.sip
    let topvia ← sip.vias[0]?
    (topvia.branch.bind (Dict.search (osip.hastable (tableOf sip)))).or (osip.scan list evt)
  else osip.scan list evt

end IndexedOsip

/-- The list that `__osip_find_transaction` searches for an incoming message. -/
def listOf (sip : Message) : FsmType :=
  if sip.isRequest then if searchesIst sip then .ist else .nist
  else if sip.cseq.bind (·.method) == some "INVITE".toList then .ict else .nict

/-- A call of one of the `__osip_add_xxx` or `__osip_remove_xxx_transaction`. -/
inductive IndexCall where
  | add (tr : AnyTransaction)
  | remove (tr : AnyTransaction)

namespace IndexCall

variable {δ : Type} [Dict δ Str AnyTransaction]

def apply (osip : IndexedOsip δ) : IndexCall → IndexedOsip δ
  | add tr => osip.add tr
  | remove tr => osip.remove tr

def tableOp (kind : FsmType) : IndexCall → Option (Dict.Op Str AnyTransaction)
  | add tr => if tr.ctxType = kind then tr.branch.map (.insert · tr) else none
  | remove tr => if tr.ctxType = kind then tr.branch.map .remove else none

/-- The stack after a history of calls. -/
def run (history : List IndexCall) : IndexedOsip δ := history.foldl apply .init

/-- The first transaction of the kind that was added with the branch since the last removal of
one with the branch. -/
def firstAdded (history : List IndexCall) (kind : FsmType) (branch : Str) :
    Option AnyTransaction :=
  Dict.firstSince (history.filterMap (tableOp kind)) branch

theorem hastable_apply (osip : IndexedOsip δ) (call : IndexCall) (kind : FsmType) :
    (apply osip call).hastable kind =
      ((call.tableOp kind).toList).foldl Dict.Op.apply (osip.hastable kind) := by
  cases call with
  | add tr =>
      rw [apply, IndexedOsip.add, tableOp]
      by_cases hkind : tr.ctxType = kind
      · subst hkind
        cases tr.branch <;> simp [Dict.Op.apply]
      · cases tr.branch <;> simp [hkind, Ne.symm hkind]
  | remove tr =>
      rw [apply, IndexedOsip.remove, tableOp]
      by_cases hkind : tr.ctxType = kind
      · subst hkind
        cases tr.branch <;> simp [Dict.Op.apply]
      · cases tr.branch <;> simp [hkind, Ne.symm hkind]

theorem hastable_run (history : List IndexCall) (kind : FsmType) :
    (run history : IndexedOsip δ).hastable kind = Dict.run (history.filterMap (tableOp kind)) := by
  induction history using List.reverseRecOn with
  | nil => rfl
  | append_singleton history call ih =>
      rw [run, List.foldl_append, List.foldl_cons, List.foldl_nil, ← run, hastable_apply, ih,
        Dict.run, Dict.run, List.filterMap_append, List.foldl_append]
      cases hop : call.tableOp kind <;> simp [hop]

theorem search_run (history : List IndexCall) (kind : FsmType) (branch : Str) :
    Dict.search ((run history : IndexedOsip δ).hastable kind) branch =
      firstAdded history kind branch := by
  rw [hastable_run, Dict.search_run, firstAdded]

end IndexCall

def AnyTransaction.matchesMessage (sip : Message) (tr : AnyTransaction) : Bool :=
  if sip.isRequest then tr.matchesRequest sip else tr.matchesResponse sip

/-- The transaction is the first of the list that the message matches. -/
def FirstMatch (transactions : List AnyTransaction) (sip : Message) (tr : AnyTransaction) : Prop :=
  tr.matchesMessage sip = true ∧ ∃ before after, transactions = before ++ tr :: after ∧
    ∀ other ∈ before, other.matchesMessage sip = false

section Arrival

variable {δ : Type} [Dict δ Str AnyTransaction] {osip : IndexedOsip δ} {sip : Message}
  {kind : FsmType}

theorem requestEvent_incomingReq : (requestEvent sip).isIncomingReq = sip.isRequest := by
  simp only [requestEvent, Event.isIncomingReq, evtSetTypeIncomingSipmessage]
  split_ifs with hrequest <;> simp_all

theorem requestEvent_incomingResp (h : sip.isRequest = false) :
    (requestEvent sip).isIncomingResp = true := by
  simp only [requestEvent, Event.isIncomingResp, evtSetTypeIncomingSipmessage, h]
  split_ifs <;> simp_all

omit [Dict δ Str AnyTransaction] in
theorem scan_requestEvent :
    osip.scan kind (requestEvent sip) =
      (osip.transactions kind).find? (·.matchesMessage sip) := by
  have hsip : (requestEvent sip).sip = some sip := rfl
  rw [IndexedOsip.scan, requestEvent_incomingReq, hsip, Option.bind_some, Option.bind_some]
  cases hrequest : sip.isRequest with
  | true => simp only [AnyTransaction.matchesMessage, hrequest, if_true]
  | false =>
      rw [requestEvent_incomingResp hrequest]
      simp [AnyTransaction.matchesMessage, hrequest]

omit [Dict δ Str AnyTransaction] in
theorem scan_eq_some_iff {tr : AnyTransaction} :
    osip.scan kind (requestEvent sip) = some tr ↔ FirstMatch (osip.transactions kind) sip tr := by
  rw [scan_requestEvent, List.find?_eq_some_iff_append, FirstMatch]
  simp only [Bool.not_eq_true']

theorem find_requestEvent :
    osip.find kind (requestEvent sip) =
      if (osip.transactions kind).length = 0 then none
      else sip.vias[0]?.bind fun topvia =>
        (topvia.branch.bind (Dict.search (osip.hastable (IndexedOsip.tableOf sip)))).or
          (osip.scan kind (requestEvent sip)) := by
  have hsip : (requestEvent sip).sip = some sip := rfl
  have hincoming :
      ((requestEvent sip).isIncomingReq || (requestEvent sip).isIncomingResp) = true := by
    rw [requestEvent_incomingReq]
    cases hrequest : sip.isRequest with
    | true => rfl
    | false => exact requestEvent_incomingResp hrequest
  rw [IndexedOsip.find, if_pos hincoming, hsip]
  rfl

theorem matchesMessage_noVia (h : sip.vias[0]? = none) (tr : AnyTransaction) :
    tr.matchesMessage sip = false := by
  rw [AnyTransaction.matchesMessage]
  cases tr <;> simp [AnyTransaction.matchesRequest, AnyTransaction.matchesResponse,
    matchingRequestOsipToXist1723, matchingResponseOsipToXict1713, h]

/-- The lookup agrees with the scan, if and only if what the table has under the branch of the
message is the first match of the list. -/
theorem find_eq_scan_iff :
    osip.find kind (requestEvent sip) = osip.scan kind (requestEvent sip) ↔
      osip.transactions kind = [] ∨ ∀ topvia ∈ sip.vias[0]?, ∀ branch ∈ topvia.branch,
        ∀ tr ∈ Dict.search (osip.hastable (IndexedOsip.tableOf sip)) branch,
          FirstMatch (osip.transactions kind) sip tr := by
  rw [find_requestEvent]
  by_cases hempty : (osip.transactions kind).length = 0
  · have hnil := List.length_eq_zero_iff.1 hempty
    rw [if_pos hempty, scan_requestEvent, hnil]
    simp
  · have hne : osip.transactions kind ≠ [] := fun hnil => hempty (List.length_eq_zero_iff.2 hnil)
    rw [if_neg hempty]
    simp only [hne, false_or]
    cases hvia : sip.vias[0]? with
    | none =>
        have hnone : osip.scan kind (requestEvent sip) = none := by
          rw [scan_requestEvent, List.find?_eq_none]
          intro tr _
          rw [matchesMessage_noVia hvia]
          decide
        rw [hnone]
        simp
    | some topvia =>
        rw [Option.bind_some]
        cases hbranch : topvia.branch with
        | none => simp [hbranch]
        | some branch =>
            rw [Option.bind_some]
            cases hentry : Dict.search (osip.hastable (IndexedOsip.tableOf sip)) branch with
            | none => simp [hbranch, hentry]
            | some tr =>
                rw [Option.some_or, eq_comm, scan_eq_some_iff]
                simp [hbranch, hentry]

end Arrival

/-- After every history of additions and removals, and for every message that arrives: the
lookup in the table gives what the scan gives, if and only if the list is empty, or the
transaction that was added first under the branch of the message since the last removal under
it, if there is one, is the first match of the list. -/
theorem hashedLookup_agrees_iff {δ : Type} [Dict δ Str AnyTransaction] (history : List IndexCall)
    (sip : Message) :
    (IndexCall.run history : IndexedOsip δ).find (listOf sip) (requestEvent sip) =
        (IndexCall.run history : IndexedOsip δ).scan (listOf sip) (requestEvent sip) ↔
      (IndexCall.run history : IndexedOsip δ).transactions (listOf sip) = [] ∨
        ∀ topvia ∈ sip.vias[0]?, ∀ branch ∈ topvia.branch,
          ∀ tr ∈ IndexCall.firstAdded history (IndexedOsip.tableOf sip) branch,
            FirstMatch ((IndexCall.run history : IndexedOsip δ).transactions (listOf sip)) sip tr := by
  rw [find_eq_scan_iff]
  simp only [IndexCall.search_run]

section Examples

/-- The transaction that a request makes. -/
def created (request : Message) : Option AnyTransaction :=
  osipCreateTransaction (atSecond 1 0) 7 0 (requestEvent request)

def sameBranch : Message :=
  { requestWith "INVITE" "INVITE" "z9hG4bKa" "2" with
    vias := [⟨some "2.0".toList, some "UDP".toList, some "192.0.2.9".toList, none, none,
      [⟨"branch".toList, some "z9hG4bKa".toList⟩]⟩] }

/-- The scan compares the sent-by value and finds nothing, the lookup does not. -/
theorem hashedLookup_disagrees :
    ∃ tr, created (requestWith "INVITE" "INVITE" "z9hG4bKa" "1") = some tr ∧
      (IndexCall.run [.add tr] : IndexedOsip (Str → Option AnyTransaction)).find
        (listOf sameBranch) (requestEvent sameBranch) = some tr ∧
      (IndexCall.run [.add tr] : IndexedOsip (Str → Option AnyTransaction)).scan
        (listOf sameBranch) (requestEvent sameBranch) = none :=
  ⟨_, rfl, rfl, rfl⟩

end Examples
end Exosip
