import Exosip.Dispatch.Newrequest

/-! Which transaction `_eXosip_process_cancel` turns to, and whether it is the INVITE that the
CANCEL names. -/
namespace Exosip

open CString SipFields

def incomingOf (jc : EXosipCall) : List Tr := jc.incTr.toList ++ jc.dialogs.flatMap (·.dIncTrs)

def EXosip.incoming (s : EXosip) : List Tr := s.jCalls.flatMap incomingOf

namespace State

def isPendingInvite : State → Bool
  | istPreProceeding => true
  | istProceeding => true
  | _ => false

def isAnsweredInvite (state : State) : Bool :=
  state = .istTerminated || state = .istConfirmed || state = .istCompleted

end State

/-- What a CANCEL and its INVITE agree in besides the branch. -/
structure SameRequest (cancel : SipFields) (invite : Tr) : Prop where
  sentBy : cancel.vias.head?.any (sentByMatch invite.topvia) = true
  callId : osipCallIdMatch (some invite.callid) cancel.callId = true
  fromTag : osipFromTagMatch (some invite.fromHeader) cancel.fromHeader = true
  cseqNumber : invite.cseq.number.isSome = true ∧ invite.cseq.number = cancel.cseq.bind Cseq.number

/-- The CANCEL is for this INVITE, and the INVITE has no final response yet. -/
structure Names (cancel : SipFields) (invite : Tr) : Prop where
  branch : cancel.vias.head?.any (·.branch = invite.topvia.branch) = true
  same : SameRequest cancel invite
  pending : invite.state.isPendingInvite = true

/-- A response to the CANCEL can be built. -/
def Answerable (env : Env) (cancel : SipFields) : Prop :=
  (buildResponseDefault env.context none 481 cancel).isOk = true

/-- The transaction that is taken for the cancelled INVITE. -/
def cancelled (env : Env) (s : EXosip) (sip : SipFields) : Option Tr :=
  match findCancelled sip s.jCalls with
  | none => none
  | some (tr, jd) =>
      if tr.state = .istTerminated ∨ tr.state = .istConfirmed ∨ tr.state = .istCompleted then none
      else if (buildResponseDefault env.context (jd.bind fun p => p.dialog.dDialog) 200 sip).isOk then
        some tr
      else none

/-- The transaction of the CANCEL is kept, in `j_transactions` or with a dialog of a call, and
all else stays as it is. -/
def AddsOnly (s s' : EXosip) (transaction : Tr) : Prop :=
  s' = s.addTransaction transaction ∨ ∃ p : Place Unit, p.elements = s.jCalls ∧
    s' = { s with jCalls := (p.addIncTr transaction).elements }

/-- The CANCEL is answered, the 487 goes to `tr`, and the call is reported as cancelled. -/
structure Cancels (env : Env) (transaction tr : Tr) (d : Dispatched) : Prop where
  outputs : ∃ response dialog,
    d.outputs = .answer transaction.transactionid response :: requestTerminated env dialog tr
  reported : d.reserved.any Reserved.jc = true

/-- The CANCEL is answered, and nothing is reported. -/
structure AnswersOnly (transaction : Tr) (d : Dispatched) : Prop where
  outputs : ∃ response, d.outputs = [.answer transaction.transactionid response]
  unreported : d.reserved = some .null

/-- The 487 goes to the INVITE that the CANCEL names and the call with this INVITE is reported as
cancelled, or the CANCEL is answered and nothing else happens. No other transaction is touched. -/
def OnlyNamed (env : Env) (s : EXosip) (transaction : Tr) (sip : SipFields) : Prop :=
  AddsOnly s (processCancel env s transaction sip).s transaction ∧
    match cancelled env s sip with
    | some tr => Names sip tr ∧ Cancels env transaction tr (processCancel env s transaction sip)
    | none => AnswersOnly transaction (processCancel env s transaction sip)

theorem isOk_buildResponseDefault (context : ResponseContext) (dialog dialog' : Option Dialog)
    (status status' : Int) (sip : SipFields) :
    (buildResponseDefault context dialog status sip).isOk =
      (buildResponseDefault context dialog' status' sip).isOk := by
  unfold buildResponseDefault
  cases fromCloneOf sip.toHeader with
  | error i => rfl
  | ok toHeader =>
      cases fromCloneOf sip.fromHeader with
      | error i => rfl
      | ok fromHeader =>
          cases osipListClone viaClone sip.vias with
          | error i => rfl
          | ok vias =>
              cases cloneData callIdClone sip.callId with
              | error i => rfl
              | ok callId =>
                  cases cloneData cseqClone sip.cseq with
                  | error i => rfl
                  | ok cseq =>
                      show Except.isOk (if _ then _ else _) = Except.isOk (if _ then _ else _)
                      split <;> rfl

theorem findCancelledIn_eq (cancel : SipFields) (dialogs : List EXosipDialog) :
    (findCancelledIn cancel dialogs).map (·.1) =
      (dialogs.flatMap (·.dIncTrs)).find? (cancelMatchInvite · cancel) := by
  induction dialogs with
  | nil => rfl
  | cons jd jds ih =>
      rw [findCancelledIn, List.flatMap_cons, List.find?_append]
      cases jd.dIncTrs.find? (cancelMatchInvite · cancel) with
      | some tr => rfl
      | none =>
          rw [Option.none_or, ← ih, Option.map_map]
          rfl

theorem findCancelled_eq (cancel : SipFields) (calls : List EXosipCall) :
    (findCancelled cancel calls).map (·.1) =
      (calls.flatMap incomingOf).find? (cancelMatchInvite · cancel) := by
  induction calls with
  | nil => rfl
  | cons jc jcs ih =>
      have hown : jc.incTr.toList.find? (cancelMatchInvite · cancel) =
          jc.incTr.filter (cancelMatchInvite · cancel) := by
        cases jc.incTr with
        | none => rfl
        | some tr =>
            rw [Option.toList_some, List.find?_singleton, Option.filter_some]
      rw [findCancelled, List.flatMap_cons, incomingOf, List.find?_append, List.find?_append, hown,
        ← findCancelledIn_eq, ← ih]
      cases jc.incTr.filter (cancelMatchInvite · cancel) with
      | some tr =>
          cases jc.dialogs with
          | nil => rfl
          | cons jd jds => rfl
      | none =>
          cases findCancelledIn cancel jc.dialogs with
          | some found => rfl
          | none =>
              rw [Option.map_map]
              rfl

theorem cancelled_eq (env : Env) (s : EXosip) (sip : SipFields) :
    cancelled env s sip = (s.incoming.find? (cancelMatchInvite · sip)).filter fun tr =>
      !tr.state.isAnsweredInvite && (buildResponseDefault env.context none 481 sip).isOk := by
  have hfound := findCancelled_eq sip s.jCalls
  rw [EXosip.incoming, ← hfound, cancelled]
  cases findCancelled sip s.jCalls with
  | none => rfl
  | some found =>
      obtain ⟨tr, jd⟩ := found
      dsimp only
      rw [isOk_buildResponseDefault env.context _ none 200 481 sip, Option.map_some,
        Option.filter_some]
      have hstate : tr.state.isAnsweredInvite = true ↔ tr.state = .istTerminated ∨
          tr.state = .istConfirmed ∨ tr.state = .istCompleted := by
        simp [State.isAnsweredInvite, or_assoc]
      by_cases hanswered : tr.state.isAnsweredInvite = true
      · rw [if_pos (hstate.1 hanswered), hanswered]
        rfl
      · rw [if_neg (mt hstate.2 hanswered), Bool.eq_false_iff.2 hanswered]
        rfl

theorem branch_of_cancelMatchInvite {invite : Tr} {cancel : SipFields}
    (h : cancelMatchInvite invite cancel = true) :
    cancel.vias.head?.any (·.branch = invite.topvia.branch) = true := by
  unfold cancelMatchInvite at h
  split at h
  · cases h
  · next via hvia =>
      rw [hvia, Option.any_some, decide_eq_true_eq, Via.branch, Via.branch]
      split at h
      · next br br2 hbr hbr2 =>
          rw [Bool.and_eq_true, beq_iff_eq] at h
          rw [hbr, hbr2, Option.bind_some, Option.bind_some, h.2]
      · next hbr hbr2 => rw [hbr, hbr2]
      · cases h

theorem addsOnly_addToDialog {s : EXosip} {jd : Option (Place Unit)}
    (hp : ∀ p, jd = some p → p.elements = s.jCalls) (tr : Tr) :
    AddsOnly s (addToDialog s jd tr) tr := by
  cases jd with
  | none => exact .inl rfl
  | some p => exact .inr ⟨p, hp p rfl, rfl⟩

theorem addsOnly_processCancel (env : Env) (s : EXosip) (transaction : Tr) (sip : SipFields) :
    AddsOnly s (processCancel env s transaction sip).s transaction := by
  unfold processCancel
  split
  · split
    · exact .inl rfl
    · exact .inl rfl
  · rename_i tr jd hfound
    have hp : ∀ p, jd = some p → p.elements = s.jCalls := by
      intro p hjd
      rw [hjd] at hfound
      exact elements_findCancelled hfound
    dsimp only
    split
    · split
      · exact .inl rfl
      · exact addsOnly_addToDialog hp transaction
    · split
      · exact .inl rfl
      · exact addsOnly_addToDialog hp transaction

theorem processCancel_outputs (env : Env) (s : EXosip) (transaction : Tr) (sip : SipFields) :
    match cancelled env s sip with
    | some tr => Cancels env transaction tr (processCancel env s transaction sip)
    | none => (processCancel env s transaction sip).reserved = some .null ∧
        ((Answerable env sip ∧ ∃ response, (processCancel env s transaction sip).outputs =
          [.answer transaction.transactionid response]) ∨
        (¬ Answerable env sip ∧ (processCancel env s transaction sip).outputs = [])) := by
  have hanswerable (dialog : Option Dialog) (status : Int) :
      Answerable env sip ↔ (buildResponseDefault env.context dialog status sip).isOk = true := by
    rw [Answerable, isOk_buildResponseDefault env.context dialog none status 481]
  unfold cancelled processCancel
  cases findCancelled sip s.jCalls with
  | none =>
      dsimp only
      have hbuilt := hanswerable none 481
      cases hbuild : buildResponseDefault env.context none 481 sip with
      | error i =>
          rw [hbuild] at hbuilt
          exact ⟨rfl, Or.inr ⟨mt hbuilt.1 Bool.false_ne_true, rfl⟩⟩
      | ok answer =>
          rw [hbuild] at hbuilt
          exact ⟨rfl, Or.inl ⟨hbuilt.2 rfl, answer.withoutBody, rfl⟩⟩
  | some found =>
      obtain ⟨tr, jd⟩ := found
      by_cases hanswered : tr.state = .istTerminated ∨ tr.state = .istConfirmed ∨
          tr.state = .istCompleted
      · simp only [if_pos hanswered]
        have hbuilt := hanswerable (jd.bind fun p => p.dialog.dDialog) 481
        cases hbuild : buildResponseDefault env.context (jd.bind fun p => p.dialog.dDialog) 481 sip with
        | error i =>
            rw [hbuild] at hbuilt
            exact ⟨rfl, Or.inr ⟨mt hbuilt.1 Bool.false_ne_true, rfl⟩⟩
        | ok answer =>
            rw [hbuild] at hbuilt
            exact ⟨rfl, Or.inl ⟨hbuilt.2 rfl, answer.withoutBody, rfl⟩⟩
      · simp only [if_neg hanswered]
        have hbuilt := hanswerable (jd.bind fun p => p.dialog.dDialog) 200
        cases hbuild : buildResponseDefault env.context (jd.bind fun p => p.dialog.dDialog) 200 sip with
        | error i =>
            rw [hbuild] at hbuilt
            exact ⟨rfl, Or.inr ⟨mt hbuilt.1 Bool.false_ne_true, rfl⟩⟩
        | ok answer => exact ⟨⟨answer.withoutBody, _, rfl⟩, rfl⟩

/-- Only the INVITE that a CANCEL names is cancelled exactly when the CANCEL can be answered and
the first incoming transaction with its branch (or, without branches, that the old rules take) is
that INVITE or one that has been answered. -/
theorem onlyNamed_iff (env : Env) (s : EXosip) (transaction : Tr) (sip : SipFields) :
    OnlyNamed env s transaction sip ↔
      Answerable env sip ∧ ∀ tr ∈ s.incoming.find? (cancelMatchInvite · sip),
        tr.state.isAnsweredInvite = true ∨
          (tr.state.isPendingInvite = true ∧ SameRequest sip tr) := by
  have houtputs := processCancel_outputs env s transaction sip
  have hcancelled := cancelled_eq env s sip
  rw [OnlyNamed, and_iff_right (addsOnly_processCancel env s transaction sip)]
  cases htr : cancelled env s sip with
  | some tr =>
      rw [htr] at houtputs hcancelled
      dsimp only at houtputs ⊢
      rw [and_iff_left houtputs]
      obtain ⟨hfound, hwhen⟩ := Option.filter_eq_some_iff.1 hcancelled.symm
      rw [Bool.and_eq_true, Bool.not_eq_true'] at hwhen
      have hmatch : cancelMatchInvite tr sip = true :=
        List.find?_some (p := (cancelMatchInvite · sip)) hfound
      have hbranch := branch_of_cancelMatchInvite hmatch
      constructor
      · intro h
        refine ⟨hwhen.2, ?_⟩
        intro tr' htr'
        rw [Option.mem_def, hfound, Option.some.injEq] at htr'
        rw [← htr']
        exact Or.inr ⟨h.pending, h.same⟩
      · intro h
        cases h.2 tr hfound with
        | inl hanswered =>
            rw [hwhen.1] at hanswered
            cases hanswered
        | inr hnamed => exact ⟨hbranch, hnamed.2, hnamed.1⟩
  | none =>
      rw [htr] at houtputs hcancelled
      dsimp only at houtputs ⊢
      obtain ⟨hnull, houtputs⟩ := houtputs
      constructor
      · intro h
        obtain ⟨response, hresponse⟩ := h.outputs
        cases houtputs with
        | inl houtputs =>
            refine ⟨houtputs.1, ?_⟩
            intro tr hfound
            rw [Option.mem_def] at hfound
            have hbuilt : (buildResponseDefault env.context none 481 sip).isOk = true := houtputs.1
            rw [hfound, Option.filter_some, hbuilt, Bool.and_true] at hcancelled
            left
            by_contra hanswered
            rw [Bool.eq_false_iff.2 hanswered] at hcancelled
            cases hcancelled
        | inr houtputs =>
            rw [houtputs.2] at hresponse
            cases hresponse
      · intro h
        cases houtputs with
        | inl houtputs => exact ⟨houtputs.2, hnull⟩
        | inr houtputs => exact absurd h.1 houtputs.1

/-- A transaction for a request of `remote`. -/
def trOf (method callId : String) (state : State) : Tr where
  transactionid := 7
  topvia := ⟨some "2.0".toList, some "UDP".toList, some "remote".toList, none, none,
    [⟨"branch".toList, some "z9hG4bK1".toList⟩]⟩
  fromHeader := ⟨none, some (Dialog.sipUri "remote" []), [⟨"tag".toList, some "r1".toList⟩]⟩
  toHeader := ⟨none, some (Dialog.sipUri "host" []), []⟩
  callid := ⟨some callId.toList, none⟩
  cseq := ⟨some method.toList, some "1".toList⟩
  origRequest := some (requestOf method "1" [])
  state

/-- A CANCEL with the branch of an INVITE of another call. -/
theorem not_onlyNamed : ¬ ∀ (env : Env) (s : EXosip) (transaction : Tr) (sip : SipFields),
    OnlyNamed env s transaction sip := by
  intro h
  let invite := trOf "INVITE" "c2" .istProceeding
  let cancel := requestOf "CANCEL" "1" []
  let s : EXosip := ⟨[⟨[], some invite, none, ()⟩], [], [], [], [], 1⟩
  have hnamed : Names cancel invite :=
    (h someEnv s (trOf "CANCEL" "c1" .nistPreTrying) cancel).2.1
  exact absurd hnamed.same.callId (by decide)

end Exosip
