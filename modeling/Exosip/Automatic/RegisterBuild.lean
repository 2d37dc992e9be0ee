import Exosip.Automatic.Failover
import Exosip.Call.Requests
import Exosip.Parser.Clone

/-! `_eXosip_register_build_register`: the next REGISTER is made from the last transaction of the
registration, which is given up on the way, and the passes look at registrations with a last
transaction only. -/
namespace Exosip

open CString Machine

/-- A transaction of a registration with its messages. -/
structure RegisterTransaction where
  state : State
  birthTime : Int
  origRequest : Option SipMessage
  lastResponse : Option SipMessage
  deriving DecidableEq

/-- What the passes and the build read of an `eXosip_reg_t` in `j_reg`; the identifiers are
counted from 1 on. -/
structure JReg where
  rId : Int
  rRegPeriod : Int
  rRegExpire : Int
  rRetry : Nat
  registrationStep : RegistrationStep
  rLastTr : Option RegisterTransaction
  rId_pos : 1 ≤ rId
  deriving DecidableEq

/-- The surroundings of a build: which allocations succeed, the copy of the Min-Expires value
and the new branch, the first REGISTER, and what is done to Contact, credentials and Date of a
request. -/
structure RegisterContext where
  clonesRequest : Bool
  clonesResponse : Bool
  copiesHost : Bool
  copiesNumber : Bool
  copiesExpires : Bool
  minExpiresCopy : Str → Option Str
  branch : Option Str
  generatingRegister : Int → Except Int SipFields
  complete : RegistrationStep → Option SipFields → SipFields → SipFields
  registerSetDate : SipFields → SipFields

def RegisterContext.working : RegisterContext where
  clonesRequest := true
  clonesResponse := true
  copiesHost := true
  copiesNumber := true
  copiesExpires := true
  minExpiresCopy := some
  branch := some "z9hG4bK2".toList
  generatingRegister := fun _ => .ok SipFields.init
  complete := fun _ _ reg => reg
  registerSetDate := id

/-- How a build ends: its return code or the request, the registration, and the transactions
that were put in front of `j_transactions`. -/
structure RegisterBuilt where
  result : Except Int SipFields
  jr : JReg
  jTransactions : List RegisterTransaction

namespace SipFields

/-- `_eXosip_update_top_via`. -/
def updateTopVia (context : RegisterContext) (sip : SipFields) : Except Int SipFields :=
  match sip.vias with
  | [] => .error osipSyntaxerror
  | via :: vias =>
      if !context.copiesHost then .error osipNomem
      else if ((via.paramGetByname "branch".toList).bind GenericParam.gvalue).isNone then
        .error osipSyntaxerror
      else
        .ok { sip with
          vias :=
            { via with
              host := some "999.999.999.999".toList
              viaParams := GenericParam.modifyByname via.viaParams "branch".toList
                fun br => { br with gvalue := context.branch } } :: vias }

def replaceValue (sip : SipFields) (hname : Str) (hvalue : Option Str) : SipFields :=
  { sip with
    headers := sip.headers.modify
      (sip.headers.findIdx fun header => osipStrcasecmp (header.hname.getD []) hname)
      fun header => { header with hvalue } }

def headerValue (sip : SipFields) (hname : Str) : Option Str :=
  (sip.headerByname hname).bind Header.hvalue

end SipFields

namespace RegisterTransaction

/-- The states from which another REGISTER may follow. -/
def isOver (tr : RegisterTransaction) : Bool :=
  tr.state = .nictTerminated || tr.state = .nictCompleted

/-- `osip_message_clone` of the request and of the response, if there is one. -/
def clones (context : RegisterContext) (tr : RegisterTransaction) :
    Except Int (SipFields × Option SipFields) :=
  match tr.origRequest with
  | none => .error osipBadparameter
  | some request =>
      if !context.clonesRequest then .error osipNomem
      else do
        let reg ← request.clone
        match tr.lastResponse with
        | none => .ok (reg.fields, none)
        | some response =>
            if !context.clonesResponse then .error osipNomem
            else do
              let lastResponse ← response.clone
              .ok (reg.fields, some lastResponse.fields)

/-- What the passes read of the transaction. -/
def sentTr (tr : RegisterTransaction) : SentTr where
  state := tr.state
  birthTime := tr.birthTime
  origRequest := tr.origRequest.map fun request => request.fields.sipMethod.getD []
  lastResponse := tr.lastResponse.map fun response => response.fields.statusCode

end RegisterTransaction

namespace JReg

/-- The lifetime that the request asks for: the one of a Min-Expires header after a 423. -/
def renewExpires (context : RegisterContext) (lastResponse : Option SipFields) (jr : JReg)
    (reg : SipFields) : Except Int (SipFields × JReg) :=
  if lastResponse.any (·.statusCode = 423) then
    match reg.headerValue "expires".toList,
        lastResponse.bind (·.headerValue "min-expires".toList) with
    | some _, some minExp =>
        .ok (reg.replaceValue "expires".toList (context.minExpiresCopy minExp),
          { jr with rRegPeriod := atoi minExp, rRegExpire := atoi minExp })
    | _, _ => .error osipSyntaxerror
  else if (reg.headerByname "expires".toList).isSome then
    if !context.copiesExpires then .error osipNomem
    else
      .ok (reg.replaceValue "expires".toList (some ((sprintfInt jr.rRegExpire).take 8)), jr)
  else .ok (reg, jr)

/-- The request of the last transaction becomes the next one. -/
def renew (context : RegisterContext) (lastResponse : Option SipFields) (jr : JReg)
    (reg : SipFields) : Except Int (SipFields × JReg) := do
  -- every request of a transaction has a CSeq number
  let number := (reg.cseq.bind Cseq.number).getD []
  let reg ← { reg with authorizations := [], proxyAuthorizations := [] }.updateTopVia context
  if !context.copiesNumber then .error osipNomem
  else
    jr.renewExpires context lastResponse
      (reg.withCseqNumber ((sprintfInt (osipAtoi number + 1)).take (number.length + 1)))

/-- The new Contact is put into one REGISTER only. -/
def stepBehind (jr : JReg) : JReg :=
  if jr.registrationStep = .masqueradingProceeding then { jr with registrationStep := .masqueraded }
  else jr

/-- `_eXosip_register_build_register`. -/
def buildRegister (context : RegisterContext) (jr : JReg) : RegisterBuilt :=
  match jr.rLastTr with
  | none => ⟨(context.generatingRegister jr.rRegExpire).map context.registerSetDate, jr, []⟩
  | some tr =>
      if !tr.isOver then ⟨.error osipWrongState, jr, []⟩
      else
        match tr.clones context with
        | .error i => ⟨.error i, jr, []⟩
        | .ok (reg, lastResponse) =>
            -- the transaction is given up here, before the request is finished
            let left := { jr with rLastTr := none }
            match left.renew context lastResponse reg with
            | .error i => ⟨.error i, left, [tr]⟩
            | .ok (reg, jr) =>
                ⟨.ok (context.registerSetDate
                  (context.complete jr.registrationStep lastResponse reg)), jr.stepBehind, [tr]⟩

/-! ### The passes -/

/-- `eXosip_register_send_register` without a request of the application; `inits` tells whether
`_eXosip_transaction_init` succeeds. The result is whether a REGISTER was sent. -/
def sendRegister (context : RegisterContext) (inits : Bool) (now : Int) (jr : JReg) :
    Bool × JReg :=
  if jr.rLastTr.any fun tr => !tr.isOver then (false, jr)
  else
    let built := jr.buildRegister context
    match built.result with
    | .error _ => (false, built.jr)
    | .ok reg =>
        if inits then
          (true, { built.jr with rLastTr := some ⟨.nictPreTrying, now, some ⟨reg, 2, none, 0⟩, none⟩ })
        else (false, built.jr)

/-- The registration when `eXosip_register_send_register` was called for it. -/
def afterSend (context : RegisterContext) (inits : Bool) (now : Int) (jr : JReg) :
    Decision → Option JReg
  | .nothing => none
  | .counted =>
      if jr.rRetry < 3 then
        some { (jr.sendRegister context inits now).2 with rRetry := jr.rRetry + 1 }
      else none
  | .uncounted | .refresh _ => some (jr.sendRegister context inits now).2
  | .proceed registrationStep =>
      let sent := { jr with registrationStep }.sendRegister context inits now
      some (if sent.1 then sent.2 else { sent.2 with registrationStep := jr.registrationStep })

/-- The loop of `eXosip_automatic_action` over the registrations, for one of them: what becomes
of it when a REGISTER is asked for. -/
def automaticAction (context : RegisterContext) (inits : Bool) (now : Int) (jr : JReg) :
    Option JReg :=
  if 1 ≤ jr.rId then
    jr.rLastTr.bind fun tr =>
      jr.afterSend context inits now
        (registrationRequest now ⟨jr.rRegPeriod, jr.registrationStep⟩ tr.sentTr)
  else none

/-- `_eXosip_release_terminated_registrations` removes the registration. -/
def isReleased (now : Int) (jr : JReg) : Bool :=
  jr.rRegPeriod = 0 && jr.rLastTr.any fun tr =>
    75 < now - tr.birthTime ||
      tr.lastResponse.any fun response =>
        200 ≤ response.fields.statusCode && response.fields.statusCode ≤ 299

inductive RegisterPass where
  | automatic (context : RegisterContext) (inits : Bool) (now : Int)
  | release (now : Int)

inductive RegisterEvent where
  | asked
  | released
  deriving DecidableEq, Repr

def pass : Step (Option JReg) RegisterPass RegisterEvent
  | none, _ => (none, [])
  | some jr, .automatic context inits now =>
      match jr.automaticAction context inits now with
      | none => (some jr, [])
      | some jr => (some jr, [.asked])
  | some jr, .release now => if jr.isReleased now then (none, [.released]) else (some jr, [])

/-- No pass asks for a REGISTER any more, and none removes the registration. -/
def Forgotten (jr : JReg) : Prop := ∀ passes, run pass (some jr) passes = (some jr, [])

/-- From some time on each pass deals with the registration: the automatic one asks for a
REGISTER as long as there is a period, the other one removes it when there is none. -/
def TakenCareOf (jr : JReg) : Prop :=
  ∃ since, ∀ now, since ≤ now →
    (jr.rRegPeriod ≠ 0 → ∀ context inits, (jr.automaticAction context inits now).isSome = true) ∧
      (jr.rRegPeriod = 0 → jr.isReleased now = true)

/-- When the build fails the registration has a last transaction, and the passes go on with
it. -/
def KeptAlive (context : RegisterContext) (jr : JReg) : Prop :=
  ∀ i, (jr.buildRegister context).result = .error i →
    (jr.buildRegister context).jr.rLastTr ≠ none ∧ (jr.buildRegister context).jr.TakenCareOf

/-- Both messages of the transaction can be copied. -/
def CopiesMessages (context : RegisterContext) (tr : RegisterTransaction) : Prop :=
  (∃ request ∈ tr.origRequest, request.fields.Clonable) ∧ context.clonesRequest = true ∧
    ∀ response ∈ tr.lastResponse, context.clonesResponse = true ∧ response.fields.Clonable

def HasBranch (sip : SipFields) : Prop :=
  ∃ via ∈ sip.vias.head?,
    ((via.paramGetByname "branch".toList).bind GenericParam.gvalue).isSome = true

/-- The request can be renewed: its top Via has a branch, the allocations succeed, and after a
423 there are an Expires and a Min-Expires value. -/
def Renewable (context : RegisterContext) (tr : RegisterTransaction) : Prop :=
  ∀ request ∈ tr.origRequest,
    HasBranch request.fields ∧ context.copiesHost = true ∧ context.copiesNumber = true ∧
    if ∃ response ∈ tr.lastResponse, response.fields.statusCode = 423 then
      (request.fields.headerValue "expires".toList).isSome = true ∧
        ∃ response ∈ tr.lastResponse,
          (response.fields.headerValue "min-expires".toList).isSome = true
    else (request.fields.headerByname "expires".toList).isSome = true → context.copiesExpires = true

/-! ### Where a build fails -/

theorem rLastTr_stepBehind (jr : JReg) : jr.stepBehind.rLastTr = jr.rLastTr := by
  unfold stepBehind
  split_ifs <;> rfl

theorem clones_of_copies {context : RegisterContext} {tr : RegisterTransaction}
    (h : CopiesMessages context tr) :
    ∃ request, tr.origRequest = some request ∧
      tr.clones context = .ok (request.fields, tr.lastResponse.map (·.fields)) := by
  obtain ⟨⟨request, hrequest, hclonable⟩, hclones, hresponse⟩ := h
  have hcopy := SipMessage.clone_eq_ok.2 ⟨hclonable, rfl⟩
  refine ⟨request, hrequest, ?_⟩
  unfold RegisterTransaction.clones
  rw [Option.mem_def.1 hrequest]
  cases hlast : tr.lastResponse with
  | none => simp [hclones, hcopy, bind, Except.bind]
  | some response =>
      have hanswer := hresponse response hlast
      have hsecond := SipMessage.clone_eq_ok.2 ⟨hanswer.2, rfl⟩
      simp [hclones, hcopy, hanswer.1, hsecond, bind, Except.bind]

theorem copies_of_clones {context : RegisterContext} {tr : RegisterTransaction}
    {copies : SipFields × Option SipFields} (h : tr.clones context = .ok copies) :
    CopiesMessages context tr := by
  unfold RegisterTransaction.clones at h
  cases hrequest : tr.origRequest with
  | none => simp [hrequest] at h
  | some request =>
      simp only [hrequest, Bool.not_eq_true'] at h
      cases hclones : context.clonesRequest with
      | false => simp [hclones] at h
      | true =>
          cases hcopy : request.clone with
          | error i => simp [hclones, hcopy, bind, Except.bind] at h
          | ok reg =>
              refine ⟨⟨request, hrequest, (SipMessage.clone_eq_ok.1 hcopy).1⟩, hclones, ?_⟩
              intro response hresponse
              simp only [hclones, hcopy, Option.mem_def.1 hresponse, bind, Except.bind] at h
              cases hsecond : context.clonesResponse with
              | false => simp [hsecond] at h
              | true =>
                  cases hanswer : response.clone with
                  | error i => simp [hsecond, hanswer] at h
                  | ok answer => exact ⟨rfl, (SipMessage.clone_eq_ok.1 hanswer).1⟩

theorem updateTopVia_of_branch {context : RegisterContext} {sip : SipFields}
    (hbranch : HasBranch sip) (hhost : context.copiesHost = true) :
    ∃ vias, sip.updateTopVia context = .ok { sip with vias } := by
  obtain ⟨via, hvia, hvalue⟩ := hbranch
  obtain ⟨vias, hvias⟩ := List.head?_eq_some_iff.1 hvia
  have hgiven : ¬ ((via.paramGetByname "branch".toList).bind GenericParam.gvalue).isNone = true := by
    rw [Option.isNone_iff_eq_none, ← ne_eq, ← Option.isSome_iff_ne_none]
    rw [Option.mem_def, hvias, List.head?_cons, Option.some.injEq] at hvia
    rwa [hvia]
  unfold SipFields.updateTopVia
  rw [hvias]
  dsimp only
  rw [if_neg (by rw [hhost]; decide), if_neg hgiven]
  exact ⟨_, rfl⟩

theorem branch_of_updateTopVia {context : RegisterContext} {sip sip' : SipFields}
    (h : sip.updateTopVia context = .ok sip') : HasBranch sip ∧ context.copiesHost = true := by
  unfold SipFields.updateTopVia at h
  cases hvias : sip.vias with
  | nil =>
      rw [hvias] at h
      cases h
  | cons via vias =>
      rw [hvias] at h
      dsimp only at h
      split_ifs at h with hhost hbranch
      rw [Option.isNone_iff_eq_none, ← ne_eq, ← Option.isSome_iff_ne_none] at hbranch
      exact ⟨⟨via, by rw [hvias]; rfl, hbranch⟩, by simpa using hhost⟩

/-- The lifetime of the next request can be set. -/
def ExpiresKnown (context : RegisterContext) (lastResponse : Option SipFields)
    (reg : SipFields) : Prop :=
  if lastResponse.any (·.statusCode = 423) then
    (reg.headerValue "expires".toList).isSome = true ∧
      (lastResponse.bind (·.headerValue "min-expires".toList)).isSome = true
  else (reg.headerByname "expires".toList).isSome = true → context.copiesExpires = true

theorem renewExpires_ok_iff {context : RegisterContext} {lastResponse : Option SipFields}
    {jr : JReg} {reg : SipFields} :
    (∃ renewed, jr.renewExpires context lastResponse reg = .ok renewed) ↔
      ExpiresKnown context lastResponse reg := by
  unfold renewExpires ExpiresKnown
  split_ifs with h423 hexpires hcopies
  · cases reg.headerValue "expires".toList with
    | none => simp only [reduceCtorEq, exists_false, Option.isSome_none, Bool.false_eq_true,
        false_and]
    | some expires =>
        cases lastResponse.bind (·.headerValue "min-expires".toList) with
        | none => simp only [reduceCtorEq, exists_false, Option.isSome_none, Bool.false_eq_true,
            and_false]
        | some minExp => simp only [Except.ok.injEq, exists_eq', Option.isSome_some, and_self]
  · rw [Bool.not_eq_true'] at hcopies
    simp only [exists_false, hexpires, hcopies, Bool.false_eq_true, imp_false, not_true]
  · rw [Bool.not_eq_true', Bool.not_eq_false] at hcopies
    simp only [Except.ok.injEq, exists_eq', hcopies, implies_true]
  · simp only [Except.ok.injEq, exists_eq', hexpires, Bool.false_eq_true, false_implies]

theorem renew_ok_iff {context : RegisterContext} {lastResponse : Option SipFields} {jr : JReg}
    {reg : SipFields} :
    (∃ renewed, jr.renew context lastResponse reg = .ok renewed) ↔
      HasBranch reg ∧ context.copiesHost = true ∧ context.copiesNumber = true ∧
      ExpiresKnown context lastResponse reg := by
  unfold renew
  dsimp only
  constructor
  · rintro ⟨renewed, h⟩
    obtain ⟨sip, hvia, h⟩ := exists_ok_bind.1 h
    have hbranch := branch_of_updateTopVia hvia
    obtain ⟨vias, hsip⟩ := updateTopVia_of_branch hbranch.1 hbranch.2
    rw [hvia, Except.ok.injEq] at hsip
    split_ifs at h with hnumber
    refine ⟨hbranch.1, hbranch.2, by simpa using hnumber, ?_⟩
    have hexpires := renewExpires_ok_iff.1 ⟨renewed, h⟩
    rw [hsip] at hexpires
    exact hexpires
  · rintro ⟨hbranch, hhost, hnumber, hexpires⟩
    obtain ⟨vias, hsip⟩ := updateTopVia_of_branch
      (show HasBranch { reg with authorizations := [], proxyAuthorizations := [] } from hbranch)
      hhost
    simp only [exists_ok_bind, hsip, Except.ok.injEq, exists_eq_left', hnumber, Bool.not_true,
      Bool.false_eq_true, if_false]
    exact renewExpires_ok_iff.2 hexpires

theorem expiresKnown_of_renewable {context : RegisterContext} {tr : RegisterTransaction}
    {request : SipMessage} (hrequest : tr.origRequest = some request) :
    Renewable context tr ↔
      HasBranch request.fields ∧ context.copiesHost = true ∧ context.copiesNumber = true ∧
      ExpiresKnown context (tr.lastResponse.map (·.fields)) request.fields := by
  unfold Renewable ExpiresKnown
  rw [hrequest]
  cases tr.lastResponse with
  | none =>
      simp only [Option.mem_def, Option.some.injEq, forall_eq', reduceCtorEq, false_and,
        exists_false, if_false, Option.map_none, Option.any_none, Bool.false_eq_true]
  | some response =>
      simp only [Option.mem_def, Option.some.injEq, forall_eq', exists_eq_left', Option.map_some,
        Option.any_some, decide_eq_true_eq, Option.bind_some]

theorem rLastTr_of_renew {context : RegisterContext} {lastResponse : Option SipFields}
    {jr : JReg} {reg : SipFields} {renewed : SipFields × JReg}
    (h : jr.renew context lastResponse reg = .ok renewed) : renewed.2.rLastTr = jr.rLastTr := by
  obtain ⟨sip, -, h⟩ := exists_ok_bind.1 h
  split_ifs at h with hnumber
  unfold renewExpires at h
  split_ifs at h with h423 hexpires hcopies
  · split at h
    · cases h
      rfl
    · cases h
  · cases h
    rfl
  · cases h
    rfl

/-- Behind the copies the transaction is given up, whatever becomes of the request. -/
theorem buildRegister_of_copies {context : RegisterContext} {jr : JReg}
    {tr : RegisterTransaction} (htr : jr.rLastTr = some tr) (hover : tr.isOver = true)
    (h : CopiesMessages context tr) :
    (Renewable context tr ∧ ∃ reg jr', jr'.rLastTr = none ∧
      jr.buildRegister context = ⟨.ok reg, jr', [tr]⟩) ∨
    (¬ Renewable context tr ∧ ∃ i,
      jr.buildRegister context = ⟨.error i, { jr with rLastTr := none }, [tr]⟩) := by
  obtain ⟨request, hrequest, hclones⟩ := clones_of_copies h
  have hrenews := @renew_ok_iff context (tr.lastResponse.map SipMessage.fields)
    { jr with rLastTr := none } request.fields
  rw [expiresKnown_of_renewable hrequest, ← hrenews]
  unfold buildRegister
  simp only [htr, hover, Bool.not_true, Bool.false_eq_true, if_false, hclones]
  cases hrenew : renew context (tr.lastResponse.map SipMessage.fields)
      { jr with rLastTr := none } request.fields with
  | error i =>
      right
      refine ⟨?_, i, rfl⟩
      rintro ⟨renewed, h⟩
      cases h
  | ok renewed =>
      refine Or.inl ⟨⟨renewed, rfl⟩, _, renewed.2.stepBehind, ?_, rfl⟩
      rw [rLastTr_stepBehind, rLastTr_of_renew hrenew]

theorem buildRegister_of_not_copies {context : RegisterContext} {jr : JReg}
    {tr : RegisterTransaction} (htr : jr.rLastTr = some tr)
    (h : ¬ (tr.isOver = true ∧ CopiesMessages context tr)) :
    ∃ i, jr.buildRegister context = ⟨.error i, jr, []⟩ := by
  unfold buildRegister
  rw [htr]
  dsimp only
  cases hover : tr.isOver with
  | false => exact ⟨osipWrongState, rfl⟩
  | true =>
      cases hclones : tr.clones context with
      | error i => exact ⟨i, rfl⟩
      | ok copies => exact absurd ⟨hover, copies_of_clones hclones⟩ h

/-- A build moves the last transaction to `j_transactions` or leaves it where it is. -/
theorem buildRegister_owned (context : RegisterContext) (jr : JReg) :
    (jr.buildRegister context).jr.rLastTr.toList ++ (jr.buildRegister context).jTransactions =
      jr.rLastTr.toList := by
  cases htr : jr.rLastTr with
  | none =>
      unfold buildRegister
      rw [htr]
      simp only [htr, Option.toList_none, List.append_nil]
  | some tr =>
      by_cases hcopies : tr.isOver = true ∧ CopiesMessages context tr
      · obtain ⟨-, reg, jr', hgone, hbuilt⟩ | ⟨-, i, hbuilt⟩ :=
          buildRegister_of_copies htr hcopies.1 hcopies.2
        · rw [hbuilt, hgone]
          rfl
        · rw [hbuilt]
          rfl
      · obtain ⟨i, hkept⟩ := buildRegister_of_not_copies htr hcopies
        rw [hkept, htr, List.append_nil]

/-! ### What the passes make of it -/

theorem pass_of_rLastTr {jr : JReg} (h : jr.rLastTr = none) (input : RegisterPass) :
    pass (some jr) input = (some jr, []) := by
  cases input with
  | automatic context inits now =>
      have hnone : jr.automaticAction context inits now = none := by
        unfold automaticAction
        rw [h, Option.bind_none, ite_self]
      rw [pass, hnone]
  | release now =>
      have hkept : jr.isReleased now = false := by
        unfold isReleased
        rw [h, Option.any_none, Bool.and_false]
      rw [pass, hkept, if_neg Bool.false_ne_true]

theorem forgotten_of_rLastTr {jr : JReg} (h : jr.rLastTr = none) : jr.Forgotten := by
  intro passes
  induction passes with
  | nil => rfl
  | cons input passes ih => rw [run_cons, pass_of_rLastTr h, ih, List.nil_append]

theorem takenCareOf_of_rLastTr {jr : JReg} (h : jr.rLastTr ≠ none) : jr.TakenCareOf := by
  obtain ⟨tr, htr⟩ := Option.ne_none_iff_exists'.1 h
  refine ⟨tr.birthTime + 901, ?_⟩
  intro now hnow
  constructor
  · intro hperiod context inits
    have hage : 900 < tr.sentTr.age now := by
      show 900 < now - tr.birthTime
      omega
    have hold : (jr.rRegPeriod ≠ 0 && 900 < tr.sentTr.age now) = true := by
      rw [decide_eq_true hperiod, decide_eq_true hage, Bool.and_self]
    unfold automaticAction registrationRequest
    rw [if_pos jr.rId_pos, htr, Option.bind_some, if_pos hold]
    rfl
  · intro hperiod
    unfold isReleased
    rw [htr, Option.any_some, hperiod]
    simp only [decide_true, Bool.true_and, Bool.or_eq_true, decide_eq_true_eq]
    left
    omega

theorem takenCareOf_iff {jr : JReg} : jr.TakenCareOf ↔ jr.rLastTr ≠ none := by
  refine ⟨?_, takenCareOf_of_rLastTr⟩
  rintro ⟨since, htaken⟩ hnone
  obtain ⟨hasks, hreleases⟩ := htaken since le_rfl
  by_cases hperiod : jr.rRegPeriod = 0
  · have hreleased := hreleases hperiod
    rw [isReleased, hnone, Option.any_none, Bool.and_false] at hreleased
    cases hreleased
  · have hasked := hasks hperiod RegisterContext.working true
    rw [automaticAction, hnone, Option.bind_none, ite_self] at hasked
    cases hasked

theorem forgotten_of_not_keptAlive {context : RegisterContext} {jr : JReg}
    (h : ¬ jr.KeptAlive context) : (jr.buildRegister context).jr.Forgotten := by
  apply forgotten_of_rLastTr
  by_contra hlast
  exact h fun _ _ => ⟨hlast, takenCareOf_iff.2 hlast⟩

/-- A failed build keeps the registration alive exactly when it fails before the transaction is
given up: a registration without one is built from nothing, and one with an answered
transaction that can be copied has a request that can be renewed. One that is not kept alive is
neither refreshed nor released by any pass behind it. -/
theorem keptAlive_iff (context : RegisterContext) (jr : JReg) :
    (jr.KeptAlive context ↔
      (jr.rLastTr = none → ∃ reg, context.generatingRegister jr.rRegExpire = .ok reg) ∧
      ∀ tr, jr.rLastTr = some tr → tr.isOver = true → CopiesMessages context tr →
        Renewable context tr) ∧
      (¬ jr.KeptAlive context → (jr.buildRegister context).jr.Forgotten) := by
  refine ⟨?_, forgotten_of_not_keptAlive⟩
  have hkept : jr.KeptAlive context ↔ ∀ i, (jr.buildRegister context).result = .error i →
      (jr.buildRegister context).jr.rLastTr ≠ none := by
    simp only [KeptAlive, takenCareOf_iff, and_self]
  rw [hkept]
  cases htr : jr.rLastTr with
  | none =>
      have hbuilt : jr.buildRegister context =
          ⟨(context.generatingRegister jr.rRegExpire).map context.registerSetDate, jr, []⟩ := by
        rw [buildRegister, htr]
      simp only [hbuilt, htr, ne_eq, not_true, imp_false, reduceCtorEq, false_implies,
        implies_true, and_true, forall_const]
      cases context.generatingRegister jr.rRegExpire with
      | error i => simp [Except.map]
      | ok reg => simp [Except.map]
  | some tr =>
      simp only [reduceCtorEq, false_implies, Option.some.injEq, forall_eq', true_and]
      by_cases hcopies : tr.isOver = true ∧ CopiesMessages context tr
      · obtain ⟨hrenewable, reg, jr', -, hbuilt⟩ | ⟨hrenewable, i, hbuilt⟩ :=
          buildRegister_of_copies htr hcopies.1 hcopies.2
        · rw [hbuilt]
          refine iff_of_true ?_ fun _ _ => hrenewable
          intro i hi
          cases hi
        · rw [hbuilt]
          refine iff_of_false ?_ fun hrenews => hrenewable (hrenews hcopies.1 hcopies.2)
          intro hlast
          exact hlast i rfl rfl
      · obtain ⟨i, hbuilt⟩ := buildRegister_of_not_copies htr hcopies
        rw [hbuilt]
        refine iff_of_true ?_ ?_
        · intro i hi
          rw [htr]
          exact Option.some_ne_none tr
        · intro hover hcopied
          exact absurd ⟨hover, hcopied⟩ hcopies

/-! ### The model of the fail-over -/

def registerTr (tr : RegisterTransaction) : RegisterTr where
  toSentTr := tr.sentTr
  callId := tr.origRequest.bind fun request => request.fields.callId.bind CallId.number
  expires := tr.origRequest.bind (·.fields.headerValue "expires".toList)
  minExpires := tr.lastResponse.bind (·.fields.headerValue "min-expires".toList)

def registration (rRetryfailover : Nat) (jr : JReg) : Registration where
  rId := jr.rId
  rRegPeriod := jr.rRegPeriod
  rRetry := jr.rRetry
  rRetryfailover := rRetryfailover
  registrationStep := jr.registrationStep
  rLastTr := jr.rLastTr.map registerTr

/-- Where no allocation fails and each request has a branch, the fail-over's view of a REGISTER
that is sent again agrees with the build. -/
theorem sendRegister_registration {context : RegisterContext} {jr : JReg}
    {tr : RegisterTransaction} (htr : jr.rLastTr = some tr) (rRetryfailover : Nat) (now : Int)
    (hcopies : tr.origRequest ≠ none → CopiesMessages context tr)
    (hbranch : ∀ request ∈ tr.origRequest, HasBranch request.fields)
    (hhost : context.copiesHost = true) (hnumber : context.copiesNumber = true)
    (hexpires : context.copiesExpires = true) :
    (jr.registration rRetryfailover).sendRegister (registerTr tr) =
      if (jr.sendRegister context true now).1 then none
      else some ((jr.sendRegister context true now).2.registration rRetryfailover) := by
  unfold Registration.sendRegister sendRegister
  have hstate : (registerTr tr).isOverNict = tr.isOver := rfl
  rw [hstate, htr, Option.any_some]
  cases hover : tr.isOver with
  | false => rfl
  | true =>
      simp only [Bool.not_true, Bool.false_eq_true, if_false]
      cases hrequest : tr.origRequest with
      | none =>
          have hlost : ¬ (tr.isOver = true ∧ CopiesMessages context tr) := by
            rintro ⟨-, ⟨request, hmem, -⟩, -⟩
            rw [hrequest] at hmem
            cases hmem
          obtain ⟨i, hbuilt⟩ := buildRegister_of_not_copies htr hlost
          have hnone : (registerTr tr).origRequest.isNone = true := by
            simp only [registerTr, RegisterTransaction.sentTr, hrequest, Option.map_none,
              Option.isNone_none]
          rw [hbuilt, if_pos hnone]
          rfl
      | some request =>
          have hsome : ¬ (registerTr tr).origRequest.isNone = true := by
            simp only [registerTr, RegisterTransaction.sentTr, hrequest, Option.map_some,
              Option.isNone_some, Bool.false_eq_true, not_false_eq_true]
          have hrenewable : Renewable context tr ↔
              ¬ (((registerTr tr).lastResponse = some 423 &&
                !((registerTr tr).expires.isSome && (registerTr tr).minExpires.isSome)) = true) := by
            rw [expiresKnown_of_renewable hrequest, ExpiresKnown]
            simp only [hbranch request hrequest, hhost, hnumber, hexpires, true_and, implies_true,
              registerTr, RegisterTransaction.sentTr, hrequest]
            cases tr.lastResponse with
            | none => simp only [Option.map_none, Option.any_none, Bool.false_eq_true, if_false,
                reduceCtorEq, decide_false, Bool.false_and, not_false_eq_true]
            | some response =>
                simp only [Option.map_some, Option.any_some, Option.bind_some, decide_eq_true_eq,
                  Option.some.injEq]
                by_cases h423 : response.fields.statusCode = 423
                · simp only [h423, if_true, decide_true, Bool.true_and, Bool.not_eq_true',
                    Bool.and_eq_false_iff, not_or, Bool.not_eq_false]
                · simp only [h423, if_false, decide_false, Bool.false_and, Bool.false_eq_true,
                    not_false_eq_true]
          have hcopied := hcopies (by rw [hrequest]; exact Option.some_ne_none request)
          rw [if_neg hsome]
          obtain ⟨hrenews, reg, jr', -, hbuilt⟩ | ⟨hfails, i, hbuilt⟩ :=
            buildRegister_of_copies htr hover hcopied
          · rw [hbuilt, if_neg (hrenewable.1 hrenews)]
            rfl
          · rw [hbuilt, if_pos (not_not.1 fun h => hfails (hrenewable.2 h))]
            rfl

/-- A registration that was asked to wait longer, by a response that does not say how long. -/
def intervalTooBrief : JReg where
  rId := 1
  rRegPeriod := 60
  rRegExpire := 60
  rRetry := 0
  registrationStep := .none
  rLastTr := some
    { state := .nictCompleted
      birthTime := 0
      origRequest := some
        ⟨{ SipFields.init with
            sipMethod := some "REGISTER".toList
            cseq := some ⟨some "REGISTER".toList, some "1".toList⟩
            vias := [⟨some "2.0".toList, some "UDP".toList, some "h".toList, none, none,
              [⟨"branch".toList, some "z9hG4bK1".toList⟩]⟩]
            headers := [⟨some "Expires".toList, some "60".toList⟩] }, 2, none, 0⟩
      lastResponse := some ⟨{ SipFields.init with statusCode := 423 }, 2, none, 0⟩ }
  rId_pos := by decide

/-- The build gives the transaction up and fails behind that. -/
theorem intervalTooBrief_not_keptAlive : ¬ intervalTooBrief.KeptAlive RegisterContext.working := by
  intro h
  exact (h osipSyntaxerror (by decide)).1 (by decide)

end JReg

end Exosip
