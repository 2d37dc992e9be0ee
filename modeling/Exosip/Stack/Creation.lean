import Exosip.Parser.CloneBlocks
import Exosip.Stack.Hashtable

/-! The creation of a transaction when any of its allocations may fail: what it frees, and the
lists of the stack. -/
namespace Exosip
namespace Blocks

open CString Machine Alloc

structure FifoBlocks where
  self : Place
  qislocked : Option Place
  qisempty : Option Place
  deriving DecidableEq, Repr

/-- What `osip_fifo_free` frees. -/
def FifoBlocks.pointers (ff : FifoBlocks) : List (Option Place) :=
  [ff.qislocked, ff.qisempty, some ff.self]

structure ContextBlocks where
  self : Place
  destination : Option Place
  deriving DecidableEq, Repr

/-- What the `__osip_xixt_free` of its kind frees. A server transaction has no destination. -/
def ContextBlocks.pointers (ctx : ContextBlocks) : List (Option Place) :=
  [ctx.destination, some ctx.self]

structure TransactionBlocks where
  self : Place
  topvia : Option ViaBlocks
  fromHeader : Option FromBlocks
  toHeader : Option FromBlocks
  callid : Option CallIdBlocks
  cseq : Option CseqBlocks
  transactionff : Option FifoBlocks
  context : Option ContextBlocks
  deriving DecidableEq, Repr

/-- After the `memset`. -/
def TransactionBlocks.init (self : Place) : TransactionBlocks :=
  ⟨self, none, none, none, none, none, none, none⟩

/-- What `osip_transaction_free2` frees. -/
def TransactionBlocks.pointers (tr : TransactionBlocks) : List (Option Place) :=
  tr.context.elim [] ContextBlocks.pointers ++ tr.transactionff.elim [] FifoBlocks.pointers ++
    tr.topvia.elim [] ViaBlocks.pointers ++ tr.fromHeader.elim [] FromBlocks.pointers ++
    tr.toHeader.elim [] FromBlocks.pointers ++ tr.callid.elim [] CallIdBlocks.pointers ++
    tr.cseq.elim [] CseqBlocks.pointers ++ [some tr.self]

variable (ok : Place → Bool)

/-! ### The contexts -/

/-- The beginning and the allocations of the four `__osip_xixt_init`. They differ in the code for
a Via without a protocol, and one of them leaves the pointer to the context that it frees. -/
def xixtInit (missing : ErrorCode) (dangling : Bool) (destination : Option Str)
    (request : Message) : Alloc Place (Option ErrorCode × Option ContextBlocks) := do
  match ← malloc ok [.context, .self] with
  | none => pure (some .nomem, none)
  | some self =>
      let left : Option ContextBlocks := if dangling then some ⟨self, none⟩ else none
      match request.vias[0]? with
      | none => do
          free (some self)
          pure (some .undefinedError, left)
      | some via =>
          if via.protocol.isNone then do
            free (some self)
            pure (some missing, left)
          else do
            let destination ← strdup ok [.context, .destination] destination
            pure (none, some ⟨self, destination⟩)

def osipIctInit (invite : Message) : Alloc Place (Option ErrorCode × Option ContextBlocks) :=
  xixtInit ok .syntaxerror true (requestDestination invite).1 invite

def osipNictInit (request : Message) : Alloc Place (Option ErrorCode × Option ContextBlocks) :=
  xixtInit ok .undefinedError false (requestDestination request).1 request

def osipIstInit (invite : Message) : Alloc Place (Option ErrorCode × Option ContextBlocks) :=
  xixtInit ok .undefinedError false none invite

def osipNistInit (invite : Message) : Alloc Place (Option ErrorCode × Option ContextBlocks) :=
  xixtInit ok .undefinedError false none invite

def contextInit (ctxType : FsmType) (request : Message) :
    Alloc Place (Option ErrorCode × Option ContextBlocks) :=
  match ctxType with
  | .ict => osipIctInit ok request
  | .ist => osipIstInit ok request
  | .nict => osipNictInit ok request
  | .nist => osipNistInit ok request

def contextDestination (ctxType : FsmType) (request : Message) : Option Str :=
  match ctxType with
  | .ict | .nict => (requestDestination request).1
  | .ist | .nist => none

/-! ### The transaction -/

/-- The top Via of the request, and its clone. -/
def setTopvia (request : Message) : Alloc Place (Except ErrorCode ViaBlocks) :=
  match request.vias[0]? with
  | none => Alloc.refuse (.error .syntaxerror)
  | some topvia => osipViaClone ok [.topvia] topvia

/-- A header that is copied into the transaction; `k` is what comes after it. An error ends the
function. -/
def setHeader {α : Type} (tr : TransactionBlocks) (clone : Alloc Place (Except ErrorCode α))
    (k : α → Alloc Place (Option ErrorCode × TransactionBlocks)) :
    Alloc Place (Option ErrorCode × TransactionBlocks) := do
  match ← clone with
  | .error i => pure (some i, tr)
  | .ok header => k header

def setFifoAndContext (ctxType : FsmType) (request : Message) (tr : TransactionBlocks) :
    Alloc Place (Option ErrorCode × TransactionBlocks) := do
  match ← malloc ok [.transactionff, .self] with
  | none => pure (some .nomem, tr)
  | some ff => do
      let qislocked ← malloc ok [.transactionff, .qislocked]
      let qisempty ← malloc ok [.transactionff, .qisempty]
      let context ← contextInit ok ctxType request
      pure (context.1,
        { tr with
          transactionff := some ⟨ff, qislocked, qisempty⟩
          context := context.2 })

/-- `osip_transaction_init` from the allocated transaction on, up to its context. With an error
the transaction is as far as it was built. -/
def buildTransaction (ctxType : FsmType) (request : Message) (self : Place) :
    Alloc Place (Option ErrorCode × TransactionBlocks) :=
  let tr : TransactionBlocks := .init self
  setHeader tr (setTopvia ok request) fun topvia =>
  let tr := { tr with topvia := some topvia }
  setHeader tr (osipFromClone ok [.fromHeader] request.fromHeader) fun fromHeader =>
  let tr := { tr with fromHeader := some fromHeader }
  setHeader tr (osipFromClone ok [.toHeader] request.toHeader) fun toHeader =>
  let tr := { tr with toHeader := some toHeader }
  setHeader tr (osipCallIdClone ok [.callid] request.callId) fun callid =>
  let tr := { tr with callid := some callid }
  setHeader tr (osipCseqClone ok [.cseq] request.cseq) fun cseq =>
  let tr := { tr with cseq := some cseq }
  setFifoAndContext ok ctxType request tr

/-- A transaction in a list of the stack. -/
structure Listed where
  pointer : Nat
  transactionid : Int
  deriving DecidableEq, Repr

/-- The lists of `osip_t` with the counter of the identifiers, and the address that the next
transaction gets. -/
structure Stack where
  transactions : FsmType → List Listed
  transactionid : Int
  next : Nat
  next_fresh : ∀ ctxType, ∀ tr ∈ transactions ctxType, tr.pointer ≠ next

namespace Stack

/-- The `__osip_add_xxx` of the kind. -/
def add (osip : Stack) (ctxType : FsmType) : FsmType → List Listed :=
  Function.update osip.transactions ctxType
    (osip.transactions ctxType ++ [⟨osip.next, osip.transactionid⟩])

/-- The `__osip_remove_xxx_transaction` of the kind, which looks for the identifier. -/
def remove (osip : Stack) (ctxType : FsmType) : FsmType → List Listed :=
  Function.update osip.transactions ctxType
    ((osip.transactions ctxType).eraseP (·.transactionid == osip.transactionid))

end Stack

/-- What `osip_transaction_init` returns and leaves: the code, `*transaction`, the node of the
list and the lists. -/
structure Init where
  code : Option ErrorCode
  transaction : Option TransactionBlocks
  node : Option Place
  transactions : FsmType → List Listed

def osipTransactionInit (ctxType : FsmType) (osip : Stack) (request : Option Message) :
    Alloc Place Init :=
  match request with
  | none => pure ⟨some .badparameter, none, none, osip.transactions⟩
  | some request =>
      if (request.callId.bind CallId.number).isNone then
        pure ⟨some .badparameter, none, none, osip.transactions⟩
      else do
        match ← malloc ok [.transaction] with
        | none => pure ⟨some .nomem, none, none, osip.transactions⟩
        | some self => do
            let built ← buildTransaction ok ctxType request self
            match built.1 with
            | some i => do
                freeAll built.2.pointers
                pure ⟨some i, none, none, osip.remove ctxType⟩
            | none => do
                let node ← malloc ok [.node]
                pure ⟨none, some built.2, node,
                  if node.isSome then osip.add ctxType else osip.transactions⟩

/-! ### Atomicity -/

/-- A request: it has a request-URI. -/
structure Request where
  message : Message
  reqUri : message.reqUri.isSome = true

/-- Whatever fails, an error is returned; with an error nothing is left, and no block is freed
twice; without one the transaction is in its list and in no other. -/
def Atomic (ctxType : FsmType) (osip : Stack) (request : Option Request) : Prop :=
  ∀ live : Multiset Place, ∃ init h',
    osipTransactionInit ok ctxType osip (request.map Request.message) ⟨live, false⟩ =
        some (init, h') ∧
      (h'.failed = true → init.code.isSome = true) ∧
      (init.code.isSome = true →
        init.transaction = none ∧ init.transactions = osip.transactions ∧ h'.live = live) ∧
      (init.code = none → init.transaction.isSome = true ∧
        ∀ kind, (init.transactions kind).countP (fun tr => decide (tr.pointer = osip.next)) =
          if kind = ctxType then 1 else 0)

def setTopviaPlan (request : Message) : List (PlanStep Place) :=
  match request.vias[0]? with
  | none => [.refused]
  | some topvia => osipViaClonePlan [.topvia] topvia

/-- The allocations of `buildTransaction` in their order, with what happens when one fails. -/
def plan (ctxType : FsmType) (request : Message) : List (PlanStep Place) :=
  setTopviaPlan request ++ (osipFromClonePlan [.fromHeader] request.fromHeader ++
    (osipFromClonePlan [.toHeader] request.toHeader ++
    (osipCallIdClonePlan [.callid] request.callId ++ (osipCseqClonePlan [.cseq] request.cseq ++
    ([.checked [.transactionff, .self]] ++ ([.ignored [.transactionff, .qislocked]] ++
    ([.ignored [.transactionff, .qisempty]] ++
    (([.checked [.context, .self]] ++
      (strdupPlan .ignored [.context, .destination] (contextDestination ctxType request) ++ [])) ++
      []))))))))

/-- No block is lost; a failure that is noticed finds no other transaction with the identifier
of the new one, and where none is noticed there is none. -/
def Unharmed (ctxType : FsmType) (osip : Stack) (request : Option Request) : Prop :=
  ∀ r, request = some r → (r.message.callId.bind CallId.number).isSome = true →
    ok [.transaction] = true →
      loses ok (plan ctxType r.message) = false ∧
        (stops ok (plan ctxType r.message) = true →
          ∀ tr ∈ osip.transactions ctxType, tr.transactionid ≠ osip.transactionid) ∧
        (stops ok (plan ctxType r.message) = false →
          fails ok (plan ctxType r.message) = false ∧ ok [.node] = true)

variable {ok}

theorem follows_xixtInit {missing : ErrorCode} {dangling : Bool} {destination : Option Str}
    {request : Message} {via : Via} (hvia : request.vias[0]? = some via)
    (hproto : via.protocol.isNone = false) :
    Alloc.Follows ok ([.checked [.context, .self]] ++
        (strdupPlan .ignored [.context, .destination] destination ++ [])) 0
      (xixtInit ok missing dangling destination request) (fun context => context.1.isSome)
      fun context => blocks (context.2.elim [] ContextBlocks.pointers) := by
  refine (Alloc.Follows.mallocChecked _).step (fun self hself => ?_) (fun self hself => ?_)
  · cases self with
    | none => cases hself
    | some self =>
        simp only [hvia, hproto, Bool.false_eq_true, if_false]
        refine (follows_strdup _ _).andThen fun destination => ?_
        refine Alloc.Follows.pure ?_ rfl
        simp [ContextBlocks.pointers]
  · cases self with
    | none => exact Unwinds.pure rfl rfl
    | some self => cases hself

theorem follows_contextInit {ctxType : FsmType} {request : Message} {via : Via}
    (hvia : request.vias[0]? = some via) (hproto : via.protocol.isNone = false) :
    Alloc.Follows ok ([.checked [.context, .self]] ++
        (strdupPlan .ignored [.context, .destination] (contextDestination ctxType request) ++ [])) 0
      (contextInit ok ctxType request) (fun context => context.1.isSome)
      fun context => blocks (context.2.elim [] ContextBlocks.pointers) := by
  cases ctxType <;> exact follows_xixtInit hvia hproto

theorem clones_setTopvia (request : Message) :
    Clones ok ViaBlocks.pointers (setTopviaPlan request) (setTopvia ok request) := by
  unfold setTopviaPlan setTopvia
  cases request.vias[0]? with
  | none => exact Alloc.Follows.refuse rfl rfl
  | some topvia => exact clones_osipViaClone _ _

theorem exists_protocol {request : Message} (h : stops ok (setTopviaPlan request) = false) :
    ∃ via, request.vias[0]? = some via ∧ via.protocol.isNone = false := by
  unfold setTopviaPlan osipViaClonePlan at h
  cases hvia : request.vias[0]? with
  | none =>
      rw [hvia] at h
      cases h
  | some via =>
      refine ⟨via, rfl, ?_⟩
      rw [hvia] at h
      dsimp only at h
      split at h
      · cases h
      · next hcomplete =>
          cases hproto : via.protocol with
          | none => simp [hproto] at hcomplete
          | some protocol => rfl

/-- What a transaction under construction owns, with the code of the first error. -/
abbrev FollowsBuilt (ok : Place → Bool) (plan : List (PlanStep Place)) (held : Multiset Place)
    (x : Alloc Place (Option ErrorCode × TransactionBlocks)) : Prop :=
  Alloc.Follows ok plan held x (fun built => built.1.isSome) fun built => blocks built.2.pointers

theorem follows_setHeader {α : Type} {pointers : α → List (Option Place)}
    {p q : List (PlanStep Place)} {clone : Alloc Place (Except ErrorCode α)}
    {tr : TransactionBlocks} {held : Multiset Place}
    {k : α → Alloc Place (Option ErrorCode × TransactionBlocks)}
    (hclone : Clones ok pointers p clone) (hheld : held = blocks tr.pointers)
    (hk : ∀ header, stops ok p = false →
      FollowsBuilt ok q (blocks (pointers header) + held) (k header)) :
    FollowsBuilt ok (p ++ q) held (setHeader tr clone k) := by
  refine hclone.stepOf (fun header h hstops => ?_) (fun header h => ?_)
  · cases header with
    | error i => cases h
    | ok header => exact hk header hstops
  · cases header with
    | error i => exact Unwinds.pure (by simp [owned, hheld]) rfl
    | ok header => cases h

theorem follows_setFifoAndContext {ctxType : FsmType} {request : Message} {tr : TransactionBlocks}
    {held : Multiset Place} {via : Via} (hvia : request.vias[0]? = some via)
    (hproto : via.protocol.isNone = false) (hheld : held = blocks tr.pointers)
    (hff : tr.transactionff = none) (hcontext : tr.context = none) :
    FollowsBuilt ok
      ([.checked [.transactionff, .self]] ++ ([.ignored [.transactionff, .qislocked]] ++
        ([.ignored [.transactionff, .qisempty]] ++ (([.checked [.context, .self]] ++
          (strdupPlan .ignored [.context, .destination] (contextDestination ctxType request) ++
            [])) ++ [])))) held (setFifoAndContext ok ctxType request tr) := by
  refine (Alloc.Follows.mallocChecked _).step (fun ff h => ?_) (fun ff h => ?_)
  · cases ff with
    | none => cases h
    | some ff =>
        refine (Alloc.Follows.mallocIgnored _).andThen fun qislocked => ?_
        refine (Alloc.Follows.mallocIgnored _).andThen fun qisempty => ?_
        refine (follows_contextInit hvia hproto).step (fun context hgood => ?_)
          (fun context hbad => ?_)
        · refine Alloc.Follows.pure ?_ hgood
          simp [hheld, TransactionBlocks.pointers, FifoBlocks.pointers, hff, hcontext]
          abel
        · refine Unwinds.pure ?_ hbad
          simp [hheld, TransactionBlocks.pointers, FifoBlocks.pointers, hff, hcontext]
          abel
  · cases ff with
    | none => exact Unwinds.pure (by simp [hheld]) rfl
    | some ff => cases h

theorem follows_buildTransaction (ctxType : FsmType) (request : Message) (self : Place) :
    FollowsBuilt ok (plan ctxType request) {self} (buildTransaction ok ctxType request self) := by
  refine follows_setHeader (clones_setTopvia request) ?_ fun topvia hstops => ?_
  · simp [TransactionBlocks.pointers, TransactionBlocks.init]
  obtain ⟨via, hvia, hproto⟩ := exists_protocol hstops
  refine follows_setHeader (clones_osipFromClone _ _) ?_ fun fromHeader _ => ?_
  · simp [TransactionBlocks.pointers, TransactionBlocks.init]
  refine follows_setHeader (clones_osipFromClone _ _) ?_ fun toHeader _ => ?_
  · simp [TransactionBlocks.pointers, TransactionBlocks.init]
    abel
  refine follows_setHeader (clones_osipCallIdClone _ _) ?_ fun callid _ => ?_
  · simp [TransactionBlocks.pointers, TransactionBlocks.init]
    abel
  refine follows_setHeader (clones_osipCseqClone _ _) ?_ fun cseq _ => ?_
  · simp [TransactionBlocks.pointers, TransactionBlocks.init]
    abel
  refine follows_setFifoAndContext hvia hproto ?_ rfl rfl
  simp [TransactionBlocks.pointers, TransactionBlocks.init]
  abel

/-! ### The lists -/

namespace Stack

theorem remove_eq_iff (osip : Stack) (ctxType : FsmType) :
    osip.remove ctxType = osip.transactions ↔
      ∀ tr ∈ osip.transactions ctxType, tr.transactionid ≠ osip.transactionid := by
  rw [remove, Function.update_eq_self_iff, List.eraseP_eq_self_iff]
  simp

theorem countP_transactions (osip : Stack) (ctxType : FsmType) :
    (osip.transactions ctxType).countP (fun tr => decide (tr.pointer = osip.next)) = 0 := by
  rw [List.countP_eq_zero]
  intro tr htr
  simpa using osip.next_fresh ctxType tr htr

theorem countP_add (osip : Stack) (ctxType kind : FsmType) :
    (osip.add ctxType kind).countP (fun tr => decide (tr.pointer = osip.next)) =
      if kind = ctxType then 1 else 0 := by
  unfold add
  by_cases h : kind = ctxType
  · rw [if_pos h, h, Function.update_self, List.countP_append, osip.countP_transactions]
    simp
  · rw [if_neg h, Function.update_of_ne h, osip.countP_transactions]

end Stack

/-! ### One call -/

section Call

variable {ctxType : FsmType} (osip : Stack) {message : Message} (live : Multiset Place)

theorem run_malloc_transaction
    (hnumber : (message.callId.bind CallId.number).isNone = false)
    (hmalloc : ok [.transaction] = true) :
    osipTransactionInit ok ctxType osip (some message) ⟨live, false⟩ =
      (do
        let built ← buildTransaction ok ctxType message [.transaction]
        match built.1 with
        | some i => do
            freeAll built.2.pointers
            pure ⟨some i, none, none, osip.remove ctxType⟩
        | none => do
            let node ← malloc ok [.node]
            pure ⟨none, some built.2, node,
              if node.isSome then osip.add ctxType else osip.transactions⟩ : Alloc Place Init)
        ⟨[.transaction] ::ₘ live, false⟩ := by
  simp only [osipTransactionInit, hnumber, Bool.false_eq_true, if_false]
  simp [Bind.bind, StateT.bind, malloc, hmalloc]

/-- The function notices a failure: what is left is what was lost, and the lists without the
transaction that has the identifier. -/
theorem run_stops
    (hnumber : (message.callId.bind CallId.number).isNone = false)
    (hmalloc : ok [.transaction] = true)
    (hstops : stops ok (plan ctxType message) = true) :
    ∃ i lost, (lost = 0 ↔ loses ok (plan ctxType message) = false) ∧
      osipTransactionInit ok ctxType osip (some message) ⟨live, false⟩ =
        some (⟨some i, none, none, osip.remove ctxType⟩, ⟨lost + live, true⟩) := by
  have hfollows : FollowsBuilt ok _ _ _ := follows_buildTransaction ctxType message [.transaction]
  obtain ⟨built, h', lost, hrun, hlive, hcode, hlost, hfailed⟩ :=
    hfollows ⟨[.transaction] ::ₘ live, false⟩ live (Multiset.singleton_add _ _).symm
  rw [hstops] at hcode
  obtain ⟨i, hi⟩ := Option.isSome_iff_exists.1 hcode
  rw [fails_of_stops ok hstops, Bool.or_true] at hfailed
  refine ⟨i, lost, hlost, ?_⟩
  have hfree := run_freeAll built.2.pointers h' (lost + live) hlive
  rw [run_malloc_transaction osip live hnumber hmalloc]
  simp [Bind.bind, StateT.bind, hrun, hi, hfree, hfailed]
  rfl

theorem run_goes_through
    (hnumber : (message.callId.bind CallId.number).isNone = false)
    (hmalloc : ok [.transaction] = true)
    (hstops : stops ok (plan ctxType message) = false) :
    ∃ tr live', osipTransactionInit ok ctxType osip (some message) ⟨live, false⟩ =
      some (⟨none, some tr, if ok [.node] then some [.node] else none,
          if ok [.node] then osip.add ctxType else osip.transactions⟩,
        ⟨live', fails ok (plan ctxType message) || !ok [.node]⟩) := by
  have hfollows : FollowsBuilt ok _ _ _ := follows_buildTransaction ctxType message [.transaction]
  obtain ⟨built, h', lost, hrun, hlive, hcode, hlost, hfailed⟩ :=
    hfollows ⟨[.transaction] ::ₘ live, false⟩ live (Multiset.singleton_add _ _).symm
  rw [hstops] at hcode
  have hnone : built.1 = none := by simpa using hcode
  rw [Bool.false_or] at hfailed
  rw [run_malloc_transaction osip live hnumber hmalloc]
  cases hnode : ok [.node] with
  | true =>
      refine ⟨built.2, [.node] ::ₘ h'.live, ?_⟩
      simp [Bind.bind, StateT.bind, hrun, hnone, malloc, hnode, hfailed]
      rfl
  | false =>
      refine ⟨built.2, h'.live, ?_⟩
      simp [Bind.bind, StateT.bind, hrun, hnone, malloc, hnode]
      rfl

end Call

section Outcomes

variable {ctxType : FsmType} {osip : Stack} {request : Option Request}

theorem atomic_of_early {code : ErrorCode} {failed : Bool}
    (h : ∀ live, osipTransactionInit ok ctxType osip (request.map Request.message) ⟨live, false⟩ =
      some (⟨some code, none, none, osip.transactions⟩, ⟨live, failed⟩)) :
    Atomic ok ctxType osip request := by
  intro live
  exact ⟨_, _, h live, fun _ => rfl, fun _ => ⟨rfl, rfl, rfl⟩, fun hcode => by cases hcode⟩

theorem atomic_iff_of_stops {r : Request}
    (hnumber : (r.message.callId.bind CallId.number).isNone = false)
    (hmalloc : ok [.transaction] = true) (hstops : stops ok (plan ctxType r.message) = true) :
    Atomic ok ctxType osip (some r) ↔ loses ok (plan ctxType r.message) = false ∧
      ∀ tr ∈ osip.transactions ctxType, tr.transactionid ≠ osip.transactionid := by
  rw [← osip.remove_eq_iff]
  constructor
  · intro h
    obtain ⟨i, lost, hlost, hrun⟩ := run_stops osip 0 hnumber hmalloc hstops
    obtain ⟨init, h', hinit, -, herror, -⟩ := h 0
    rw [Option.map_some, hrun, Option.some.injEq, Prod.mk.injEq] at hinit
    obtain ⟨rfl, rfl⟩ := hinit
    obtain ⟨-, htransactions, hlive⟩ := herror rfl
    exact ⟨hlost.1 (by simpa using hlive), htransactions⟩
  · rintro ⟨hloses, hremove⟩ live
    obtain ⟨i, lost, hlost, hrun⟩ := run_stops osip live hnumber hmalloc hstops
    refine ⟨_, _, hrun, fun _ => rfl, fun _ => ⟨rfl, hremove, ?_⟩, fun hcode => by cases hcode⟩
    rw [hlost.2 hloses, zero_add]

theorem atomic_iff_of_goes_through {r : Request}
    (hnumber : (r.message.callId.bind CallId.number).isNone = false)
    (hmalloc : ok [.transaction] = true) (hstops : stops ok (plan ctxType r.message) = false) :
    Atomic ok ctxType osip (some r) ↔
      fails ok (plan ctxType r.message) = false ∧ ok [.node] = true := by
  constructor
  · intro h
    obtain ⟨tr, live', hrun⟩ :=
      run_goes_through osip 0 hnumber hmalloc hstops
    obtain ⟨init, h', hinit, hfailed, -⟩ := h 0
    rw [Option.map_some, hrun, Option.some.injEq, Prod.mk.injEq] at hinit
    obtain ⟨rfl, rfl⟩ := hinit
    simpa using mt hfailed
  · rintro ⟨hfails, hnode⟩ live
    obtain ⟨tr, live', hrun⟩ :=
      run_goes_through osip live hnumber hmalloc hstops
    refine ⟨_, _, hrun, fun hfailed => ?_, fun hcode => (by cases hcode),
      fun _ => ⟨rfl, fun kind => ?_⟩⟩
    · simp [hfails, hnode] at hfailed
    · simpa [hnode] using osip.countP_add ctxType kind

end Outcomes

/-- The creation is atomic exactly when no block is lost, a failure that is noticed finds no other
transaction with the identifier, and no failure goes unnoticed to the end. -/
theorem atomic_iff (ok : Place → Bool) (ctxType : FsmType) (osip : Stack)
    (request : Option Request) :
    Atomic ok ctxType osip request ↔ Unharmed ok ctxType osip request := by
  cases request with
  | none =>
      exact iff_of_true (@atomic_of_early _ _ _ _ .badparameter false fun live => rfl)
        fun r hr => by cases hr
  | some r =>
      cases hnumber : (r.message.callId.bind CallId.number).isNone with
      | true =>
          refine iff_of_true (@atomic_of_early _ _ _ _ .badparameter false fun live => ?_) ?_
          · simp only [Option.map_some, osipTransactionInit, hnumber, if_true]
            rfl
          · intro r' hr hsome
            cases hr
            rw [← Option.not_isNone, hnumber] at hsome
            cases hsome
      | false =>
          have hsome : (r.message.callId.bind CallId.number).isSome = true := by
            rw [← Option.not_isNone, hnumber, Bool.not_false]
          cases hmalloc : ok [.transaction] with
          | false =>
              refine iff_of_true (@atomic_of_early _ _ _ _ .nomem true fun live => ?_) ?_
              · simp only [Option.map_some, osipTransactionInit, hnumber, Bool.false_eq_true,
                  if_false]
                simp [Bind.bind, StateT.bind, malloc, hmalloc]
                rfl
              · intro r' _ _ hok
                rw [hmalloc] at hok
                cases hok
          | true =>
              have hunharmed : Unharmed ok ctxType osip (some r) ↔
                  loses ok (plan ctxType r.message) = false ∧
                  (stops ok (plan ctxType r.message) = true →
                    ∀ tr ∈ osip.transactions ctxType, tr.transactionid ≠ osip.transactionid) ∧
                  (stops ok (plan ctxType r.message) = false →
                    fails ok (plan ctxType r.message) = false ∧ ok [.node] = true) := by
                constructor
                · intro h
                  exact h r rfl hsome hmalloc
                · intro h r' hr _ _
                  cases hr
                  exact h
              rw [hunharmed]
              cases hstops : stops ok (plan ctxType r.message) with
              | true => simp [atomic_iff_of_stops hnumber hmalloc hstops]
              | false =>
                  rw [atomic_iff_of_goes_through hnumber hmalloc hstops]
                  simp only [Bool.false_eq_true, false_imp_iff, true_and, true_imp_iff]
                  constructor
                  · intro h
                    refine ⟨?_, h⟩
                    by_contra hloses
                    have hfails := fails_of_loses ok (Bool.eq_true_of_not_eq_false hloses)
                    rw [h.1] at hfails
                    cases hfails
                  · exact fun h => h.2

/-! ### A failure that goes unnoticed -/

def someFrom : From := ⟨none, some ⟨none, none, none, some "h".toList, none, [], [], none⟩, []⟩

def someVia : Via :=
  ⟨some "2.0".toList, some "UDP".toList, some "h".toList, none, none, []⟩

def someInvite : Request where
  message :=
    { Message.init with
      callId := some ⟨some "1".toList, none⟩
      cseq := some ⟨some "INVITE".toList, some "1".toList⟩
      fromHeader := some someFrom
      toHeader := some someFrom
      reqUri := someFrom.url
      vias := [someVia] }
  reqUri := rfl

/-- The destination of an INVITE is not copied, and the function returns success. -/
theorem not_atomic :
    ¬ ∀ (ok : Place → Bool) (ctxType : FsmType) (osip : Stack) (request : Option Request),
      Atomic ok ctxType osip request := by
  intro h
  have hunnoticed := h (fun place => place ≠ [.context, .destination]) .ict
    ⟨fun _ => [], 1, 0, by simp⟩ (some someInvite)
  obtain ⟨hfails, -⟩ := (atomic_iff_of_goes_through rfl rfl (by decide)).1 hunnoticed
  revert hfails
  decide

end Blocks
end Exosip
