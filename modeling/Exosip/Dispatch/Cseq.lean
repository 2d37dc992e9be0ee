import Exosip.Dispatch.Newrequest
import Exosip.Parser.Part
import Exosip.Stack.Absorption
import Mathlib.Data.List.Forall2

/-! The remote CSeq of the dialogs over a run of requests within them, and the events that
these requests give. -/
namespace Exosip

open CString SipFields

/-! ### The events of a request -/

def cbRcvrequest (autoanswerBye : Int) (reserved : Reserved) (sip : SipFields) :
    List EXosipEventType :=
  if reserved.jc then
    if sip.toMessage.isBye then if autoanswerBye = 0 then [.callMessageNew, .callClosed] else []
    else [.callMessageNew]
  else if reserved.jn then
    if sip.toMessage.isSubscribe ∨ sip.isRefer then [.inSubscriptionNew] else []
  else if reserved.js then if sip.toMessage.isNotify then [.subscriptionNotify] else []
  else [.messageNew]

/-- What the callback for the first execution of the transaction reports: `cb_rcvinvite`,
`cb_rcvregister`, `cb_rcvcancel` or `cb_rcvrequest`. -/
def cbReceived (autoanswerBye : Int) (reserved : Reserved) (sip : SipFields) :
    List EXosipEventType :=
  if sip.toMessage.isInvite then []
  else if sip.toMessage.isRegister then [.messageNew]
  else if sip.toMessage.isCancel then
    if reserved.jd ∧ reserved.jc then [.callCancelled] else []
  else cbRcvrequest autoanswerBye reserved sip

def Output.eventType : Output → Option EXosipEventType
  | .answer _ _ => none
  | .event type _ => some type

/-- All events of a request: those of the dispatcher, and those of the callback when the
transaction is still there. -/
def Dispatched.events (d : Dispatched) (sip : SipFields) : List EXosipEventType :=
  d.outputs.filterMap Output.eventType ++
    match d.reserved with
    | none => []
    | some reserved => cbReceived d.s.autoanswerBye reserved sip

/-! ### Requests within a dialog -/

inductive DialogKind where
  | call
  | subscribe
  | notify
  deriving DecidableEq, Repr

def dialogOf {ι : Type} (kind : DialogKind) (p : Place ι) : Option (DialogKind × Dialog) :=
  p.dialog.dDialog.map fun dlg => (kind, dlg)

/-- The dialog that a request is in, in the order of the search. An INVITE in no call makes a
call, and a NOTIFY in no subscription may make a dialog of one: these are not within a dialog. -/
def findDialogOfRequest (s : EXosip) (sip : SipFields) : Result (Option (DialogKind × Dialog)) := do
  match ← findPlace sip s.jCalls with
  | some p => .ok (dialogOf .call p)
  | none =>
      if sip.toMessage.isInvite then .ok none
      else
        match ← findPlace sip s.jSubscribes with
        | some p => .ok (dialogOf .subscribe p)
        | none =>
            if sip.toMessage.isNotify then .ok none
            else .ok ((← findPlace sip s.jNotifies).bind (dialogOf .notify))

/-- The CSeq is not higher than that of the dialog. -/
def Dialog.isStale (dlg : Dialog) (sip : SipFields) : Bool := sip.cseqNumber ≤ dlg.remoteCseq

def InDialog (s : EXosip) (sip : SipFields) (kind : DialogKind) (dlg : Dialog) : Prop :=
  findDialogOfRequest s sip = .ok (some (kind, dlg)) ∧ sip.toMessage.isAck = false ∧
    sip.toMessage.isCancel = false

/-- The CSeq is higher than that of the dialog or, in a call that has a CSeq, it is the same or
that of an INVITE. -/
def CseqChecked (sip : SipFields) (kind : DialogKind) (dlg : Dialog) : Prop :=
  dlg.isStale sip = false ∨
    (kind = .call ∧ 0 < dlg.remoteCseq ∧
      (sip.cseqNumber = dlg.remoteCseq ∨ sip.toMessage.isInvite = true))

/-! ### What no step may do -/

/-- The dialog is the one before with a CSeq that is not lower, or there is none now. -/
def DialogFollows (jd' jd : EXosipDialog) : Prop :=
  ∀ dlg', jd'.dDialog = some dlg' → ∃ dlg, jd.dDialog = some dlg ∧ dlg.remoteCseq ≤ dlg'.remoteCseq

def ElementFollows {ι : Type} (e' e : Element ι) : Prop :=
  List.SublistForall₂ DialogFollows e'.dialogs e.dialogs

def ElementsFollow {ι : Type} (elements' elements : List (Element ι)) : Prop :=
  List.SublistForall₂ ElementFollows elements' elements

/-- Of all dialogs that are left, no remote CSeq is lower than before. -/
structure Follows (s' s : EXosip) : Prop where
  calls : ElementsFollow s'.jCalls s.jCalls
  subscribes : ElementsFollow s'.jSubscribes s.jSubscribes
  notifies : ElementsFollow s'.jNotifies s.jNotifies

theorem dialogFollows_refl (jd : EXosipDialog) : DialogFollows jd jd :=
  fun dlg hdlg => ⟨dlg, hdlg, le_rfl⟩

theorem DialogFollows.trans {jd jd' jd'' : EXosipDialog} (h : DialogFollows jd'' jd')
    (h' : DialogFollows jd' jd) : DialogFollows jd'' jd := by
  intro dlg'' hdlg''
  obtain ⟨dlg', hdlg', hle⟩ := h dlg'' hdlg''
  obtain ⟨dlg, hdlg, hle'⟩ := h' dlg' hdlg'
  exact ⟨dlg, hdlg, hle'.trans hle⟩

instance : Std.Refl DialogFollows := ⟨dialogFollows_refl⟩

instance : IsTrans EXosipDialog DialogFollows := ⟨fun _ _ _ => DialogFollows.trans⟩

theorem elementFollows_refl {ι : Type} (e : Element ι) : ElementFollows e e :=
  List.SublistForall₂.is_refl.refl e.dialogs

theorem ElementFollows.trans {ι : Type} {e e' e'' : Element ι} (h : ElementFollows e'' e')
    (h' : ElementFollows e' e) : ElementFollows e'' e :=
  List.SublistForall₂.is_trans.trans _ _ _ h h'

instance {ι : Type} : Std.Refl (ElementFollows (ι := ι)) := ⟨elementFollows_refl⟩

instance {ι : Type} : IsTrans (Element ι) ElementFollows := ⟨fun _ _ _ => ElementFollows.trans⟩

theorem elementsFollow_refl {ι : Type} (elements : List (Element ι)) :
    ElementsFollow elements elements :=
  List.SublistForall₂.is_refl.refl elements

theorem follows_refl (s : EXosip) : Follows s s :=
  ⟨elementsFollow_refl _, elementsFollow_refl _, elementsFollow_refl _⟩

theorem Follows.trans {s s' s'' : EXosip} (h : Follows s'' s') (h' : Follows s' s) :
    Follows s'' s :=
  ⟨List.SublistForall₂.is_trans.trans _ _ _ h.calls h'.calls,
    List.SublistForall₂.is_trans.trans _ _ _ h.subscribes h'.subscribes,
    List.SublistForall₂.is_trans.trans _ _ _ h.notifies h'.notifies⟩

theorem Follows.addTransaction {s s' : EXosip} (h : Follows s' s) (tr : Tr) :
    Follows (s'.addTransaction tr) s :=
  ⟨h.calls, h.subscribes, h.notifies⟩

theorem follows_transactionFree (s : EXosip) (tr : Tr) : Follows (s.transactionFree tr) s :=
  ⟨elementsFollow_refl _, elementsFollow_refl _, elementsFollow_refl _⟩

/-! ### A dialog in its place -/

/-- The places are the same, with dialogs of which one follows the other. -/
structure PlaceFollows {ι : Type} (q p : Place ι) : Prop where
  before : q.before = p.before
  dialogsBefore : q.dialogsBefore = p.dialogsBefore
  dialog : DialogFollows q.dialog p.dialog
  dialogsAfter : q.dialogsAfter = p.dialogsAfter
  after : q.after = p.after

section Places

variable {ι : Type} {q p : Place ι}

theorem placeFollows_refl (p : Place ι) : PlaceFollows p p :=
  ⟨rfl, rfl, dialogFollows_refl _, rfl, rfl⟩

theorem PlaceFollows.addIncTr (h : PlaceFollows q p) (tr : Tr) : PlaceFollows (q.addIncTr tr) p :=
  ⟨h.before, h.dialogsBefore, h.dialog, h.dialogsAfter, h.after⟩

theorem PlaceFollows.setInfo (h : PlaceFollows q p) (info : ι) : PlaceFollows (q.setInfo info) p :=
  ⟨h.before, h.dialogsBefore, h.dialog, h.dialogsAfter, h.after⟩

theorem PlaceFollows.setDialog_none (h : PlaceFollows q p) : PlaceFollows (q.setDialog none) p :=
  ⟨h.before, h.dialogsBefore, fun _ hdlg => (Option.some_ne_none _ hdlg.symm).elim,
    h.dialogsAfter, h.after⟩

theorem PlaceFollows.updateDialog (h : PlaceFollows q p) {update : Dialog → Int × Dialog}
    (hupdate : ∀ dlg, q.dialog.dDialog = some dlg → dlg.remoteCseq ≤ (update dlg).2.remoteCseq) :
    PlaceFollows (q.updateDialog update) p := by
  refine ⟨h.before, h.dialogsBefore, DialogFollows.trans ?_ h.dialog, h.dialogsAfter, h.after⟩
  intro dlg' hdlg'
  obtain ⟨dlg, hdlg, rfl⟩ := Option.map_eq_some_iff.1 hdlg'
  exact ⟨dlg, hdlg, hupdate dlg hdlg⟩

theorem PlaceFollows.elements (h : PlaceFollows q p) : ElementsFollow q.elements p.elements := by
  apply List.sublistForall₂_iff.2
  refine ⟨p.elements, ?_, List.Sublist.refl _⟩
  have hcurrent : ElementFollows q.current p.current := by
    unfold ElementFollows Place.current
    rw [h.dialogsBefore, h.dialogsAfter]
    apply List.sublistForall₂_iff.2
    exact ⟨_, List.rel_append (List.forall₂_refl _) (.cons h.dialog (List.forall₂_refl _)),
      List.Sublist.refl _⟩
  unfold Place.elements
  rw [h.before, h.after]
  exact List.rel_append (List.forall₂_refl _) (.cons hcurrent (List.forall₂_refl _))

theorem elementsFollow_remove (p : Place ι) : ElementsFollow (p.before ++ p.after) p.elements := by
  apply List.sublistForall₂_iff.2
  exact ⟨p.before ++ p.after, List.forall₂_refl _,
    (List.Sublist.refl _).append (List.sublist_cons_self _ _)⟩

end Places

theorem le_updateCseq {dlg : Dialog} {sip : SipFields} (h : dlg.isStale sip = false) :
    dlg.remoteCseq ≤ (dlg.updateOsipCseqAsUas sip).2.remoteCseq := by
  have hlt := of_decide_eq_false h
  unfold SipFields.cseqNumber at hlt
  unfold Dialog.updateOsipCseqAsUas
  cases hnumber : sip.cseq.bind Cseq.number with
  | none => exact le_rfl
  | some number =>
      rw [hnumber] at hlt
      exact (not_le.1 hlt).le

theorem updateRouteSet_remoteCseq (dlg : Dialog) (sip : SipFields) :
    (dlg.updateRouteSetAsUas sip).2.remoteCseq = dlg.remoteCseq := by
  unfold Dialog.updateRouteSetAsUas Dialog.updateContact
  split
  · rfl
  · split
    · rfl
    · rfl

theorem PlaceFollows.updateRouteSet {ι : Type} {q p : Place ι} (h : PlaceFollows q p)
    (sip : SipFields) : PlaceFollows (q.updateDialog (Dialog.updateRouteSetAsUas · sip)) p :=
  h.updateDialog fun dlg _ => (updateRouteSet_remoteCseq dlg sip).ge

theorem placeFollows_updateCseq {ι : Type} {p : Place ι} {dlg : Dialog} {sip : SipFields}
    (hdlg : p.dialog.dDialog = some dlg) (h : dlg.isStale sip = false) :
    PlaceFollows (p.updateDialog (Dialog.updateOsipCseqAsUas · sip)) p := by
  apply (placeFollows_refl p).updateDialog
  intro dlg' hdlg'
  rw [hdlg] at hdlg'
  cases hdlg'
  exact le_updateCseq h

theorem follows_calls {s : EXosip} {q p : Place Unit} (hp : p.elements = s.jCalls)
    (h : PlaceFollows q p) : Follows { s with jCalls := q.elements } s :=
  ⟨hp ▸ h.elements, elementsFollow_refl _, elementsFollow_refl _⟩

/-! ### Fresh requests -/

theorem follows_processWithinCall {env : Env} {s : EXosip} {p : Place Unit} {dlg : Dialog}
    {sip : SipFields} (tr : Tr) (hp : p.elements = s.jCalls) (hdlg : p.dialog.dDialog = some dlg)
    (hfresh : dlg.isStale sip = false) : Follows (processWithinCall env s p tr sip).s s := by
  have hcseq := placeFollows_updateCseq hdlg hfresh
  unfold processWithinCall
  dsimp only
  split
  · exact (follows_refl s).addTransaction tr
  · split
    · split
      · exact (follows_calls hp hcseq).addTransaction tr
      · exact follows_calls hp ((hcseq.updateRouteSet sip).addIncTr tr)
    · split
      · split
        · exact (follows_calls hp hcseq).addTransaction tr
        · split
          · exact (follows_calls hp hcseq).addTransaction tr
          · unfold processBye
            split
            · exact follows_calls hp (hcseq.addIncTr tr)
            · split
              · exact (follows_calls hp hcseq).addTransaction tr
              · exact follows_calls hp (hcseq.addIncTr tr).setDialog_none
      · exact follows_calls hp (hcseq.addIncTr tr)

theorem follows_processNotifyWithinDialog {env : Env} {s : EXosip} {q p : Place SsStatus}
    (hp : p.elements = s.jSubscribes) (h : PlaceFollows q p) (tr : Tr) (sip : SipFields) :
    Follows (processNotifyWithinDialog env s q tr sip).s s := by
  have hsubscribes : ∀ r : Place SsStatus, PlaceFollows r p →
      Follows { s with jSubscribes := r.elements } s := fun r hr =>
    ⟨elementsFollow_refl _, hp ▸ hr.elements, elementsFollow_refl _⟩
  unfold processNotifyWithinDialog
  dsimp only
  split
  · exact (hsubscribes q h).addTransaction tr
  · split
    · exact (hsubscribes q h).addTransaction tr
    · split
      · refine ⟨elementsFollow_refl _, ?_, elementsFollow_refl _⟩
        show ElementsFollow (q.before ++ q.after) s.jSubscribes
        rw [h.before, h.after, ← hp]
        exact elementsFollow_remove p
      · exact hsubscribes _ ((h.setInfo _).addIncTr tr)

theorem follows_processWithinSubscribe {env : Env} {s : EXosip} {p : Place SsStatus} {dlg : Dialog}
    {sip : SipFields} (tr : Tr) (hp : p.elements = s.jSubscribes)
    (hdlg : p.dialog.dDialog = some dlg) (hfresh : dlg.isStale sip = false) :
    Follows (processWithinSubscribe env s p tr sip).s s := by
  unfold processWithinSubscribe
  split
  · split
    · exact (follows_refl s).addTransaction tr
    · exact follows_processNotifyWithinDialog hp
        ((placeFollows_updateCseq hdlg hfresh).updateRouteSet sip) tr sip
  · exact (follows_refl s).addTransaction tr

theorem follows_processWithinNotify {env : Env} {s : EXosip} {p : Place NotifyInfo} {dlg : Dialog}
    {sip : SipFields} (tr : Tr) (hp : p.elements = s.jNotifies)
    (hdlg : p.dialog.dDialog = some dlg) (hfresh : dlg.isStale sip = false) :
    Follows (processWithinNotify env s p tr sip).s s := by
  unfold processWithinNotify
  split
  · split
    · exact (follows_refl s).addTransaction tr
    · have hcseq := (placeFollows_updateCseq hdlg hfresh).updateRouteSet sip
      exact ⟨elementsFollow_refl _, elementsFollow_refl _,
        hp ▸ ((hcseq.setInfo _).addIncTr tr).elements⟩
  · exact (follows_refl s).addTransaction tr

/-! ### Stale requests -/

theorem events_sendDefaultAnswer (env : Env) (dialog : Option Dialog) (tr : Tr) (status : Int)
    (reasonPhrase : Option Str) (sip : SipFields) :
    (sendDefaultAnswer env dialog tr status reasonPhrase sip).filterMap Output.eventType = [] := by
  unfold sendDefaultAnswer
  split
  · rfl
  · split
    · rfl
    · dsimp only
      split
      · rfl
      · rfl

theorem events_rejectWith {env : Env} {s : EXosip} {dialog : Option Dialog} {tr : Tr} {status : Int}
    {reasonPhrase : Option Str} {sip : SipFields} (h : sip.toMessage.isInvite = true) :
    (rejectWith env s dialog tr status reasonPhrase sip).events sip = [] := by
  unfold Dispatched.events rejectWith
  rw [events_sendDefaultAnswer]
  show cbReceived _ _ _ = []
  rw [cbReceived, if_pos h]

theorem checkCseq_stale (env : Env) (s : EXosip) (tr : Tr) {p : Place Unit} {dlg : Dialog}
    {sip : SipFields} (hdlg : p.dialog.dDialog = some dlg)
    (hnumber : ∃ number, sip.cseq.bind Cseq.number = some number) (hstale : dlg.isStale sip = true)
    (hpos : 0 < dlg.remoteCseq)
    (h : sip.cseqNumber = dlg.remoteCseq ∨ sip.toMessage.isInvite = true) :
    ∃ d, checkCseq env s p tr sip = some d ∧ Follows d.s s ∧ d.events sip = [] := by
  obtain ⟨number, hnumber⟩ := hnumber
  have hle := of_decide_eq_true hstale
  simp only [SipFields.cseqNumber, hnumber, osipAtoiOf] at h hle
  unfold checkCseq
  rw [hnumber, hdlg]
  dsimp only
  rw [if_pos hpos]
  by_cases hlt : osipAtoi number < dlg.remoteCseq
  · have hinvite := h.resolve_left hlt.ne
    rw [if_pos hlt]
    exact ⟨_, rfl, (follows_refl s).addTransaction tr, events_rejectWith hinvite⟩
  · rw [if_neg hlt, if_pos (le_antisymm hle (not_lt.1 hlt))]
    by_cases hduplicate : duplicateInvite p tr sip = some false
    · have hinvite : sip.toMessage.isInvite = true := by
        unfold duplicateInvite at hduplicate
        split at hduplicate
        · rename_i hinvite
          exact hinvite.1
        · cases hduplicate
      exact ⟨_, if_pos hduplicate, (follows_refl s).addTransaction tr, events_rejectWith hinvite⟩
    · exact ⟨_, if_neg hduplicate, follows_transactionFree s tr, rfl⟩

theorem exists_cseqNumber {env : Env} {sip : SipFields} {tr : Tr}
    (h : transactionInit env sip = .ok tr) :
    ∃ number, sip.cseq.bind Cseq.number = some number := by
  have hcloned : ∃ cseq : Cseq, sip.cseq = some cseq ∧ cseq.number.isSome = true := by
    unfold transactionInit at h
    split at h
    · cases hinit : osipTransactionInit Ist env.io env.transactionid env.socket
          (some sip.toMessage) with
      | error i =>
          rw [hinit] at h
          cases h
      | ok ist =>
          have hist := osipTransactionInit_cloned hinit
          exact ⟨ist.cseq, hist.cseq, hist.cseqNumber⟩
    · cases hinit : osipTransactionInit Nist env.io env.transactionid env.socket
          (some sip.toMessage) with
      | error i =>
          rw [hinit] at h
          cases h
      | ok nist =>
          have hnist := osipTransactionInit_cloned hinit
          exact ⟨nist.cseq, hnist.cseq, hnist.cseqNumber⟩
  obtain ⟨cseq, hcseq, hnumber⟩ := hcloned
  rw [hcseq]
  exact Option.isSome_iff_exists.1 hnumber

/-! ### Runs -/

/-- A request, or anything else that changes the state between two requests. -/
inductive DialogInput where
  | request (env : Env) (sip : SipFields)
  | activity (act : EXosip → EXosip)

/-- The activity adds no dialog and lowers no remote CSeq by itself. -/
def DialogInput.Quiet : DialogInput → Prop
  | .request _ _ => True
  | .activity act => ∀ s, Follows (act s) s

/-- An event, with whether its request is stale. -/
structure Report where
  type : EXosipEventType
  stale : Bool
  deriving DecidableEq, Repr

def isStaleIn (s : EXosip) (sip : SipFields) : Bool :=
  match findDialogOfRequest s sip with
  | .ok (some (_, dlg)) => dlg.isStale sip
  | _ => false

def dialogStep : Machine.Step EXosip DialogInput Report
  | s, .activity act => (act s, [])
  | s, .request env sip =>
      match exosipProcessNewrequest env s sip with
      | .error _ => (s, [])
      | .ok (_, d) => (d.s, (d.events sip).map fun type => ⟨type, isStaleIn s sip⟩)

/-- The requests of the run are within dialogs and satisfy `P` there. -/
def Requested (P : SipFields → DialogKind → Dialog → Prop) (s : EXosip) : DialogInput → Prop
  | .activity _ => True
  | .request _ sip => ∃ kind dlg, InDialog s sip kind dlg ∧ P sip kind dlg

/-- Over every stretch of the run with quiet activities no remote CSeq is lowered, and no stale
request gives an event. -/
def CseqMonotone (s : EXosip) (inputs : List DialogInput) : Prop :=
  (∀ inputs₁ inputs₂ inputs₃, inputs = inputs₁ ++ (inputs₂ ++ inputs₃) →
    (∀ input ∈ inputs₂, input.Quiet) →
    Follows (Machine.run dialogStep s (inputs₁ ++ inputs₂)).1
      (Machine.run dialogStep s inputs₁).1) ∧
    ∀ report ∈ (Machine.run dialogStep s inputs).2, report.stale = false

theorem follows_checkCseq {env : Env} {s : EXosip} {p : Place Unit} {tr : Tr} {sip : SipFields}
    {d : Dispatched} (h : checkCseq env s p tr sip = some d) : Follows d.s s := by
  cases checkCseq_state h with
  | inl hadded =>
      rw [hadded]
      exact (follows_refl s).addTransaction tr
  | inr hfreed =>
      rw [hfreed]
      exact follows_transactionFree s tr

theorem follows_afterTrying {env : Env} {s : EXosip} {tr : Tr} {sip : SipFields}
    {rest : Result Dispatched} {d : Dispatched} (hrest : ∀ d', rest = .ok d' → Follows d'.s s)
    (h : afterTrying env s tr sip rest = .ok d) : Follows d.s s := by
  cases afterTrying_state h with
  | inl hfreed =>
      rw [hfreed.1]
      exact follows_transactionFree s tr
  | inr hsent =>
      obtain ⟨⟨d', hd', hs⟩, -⟩ := hsent
      rw [hs]
      exact hrest d' hd'

theorem dialogOf_eq_some {ι : Type} {kind kind' : DialogKind} {p : Place ι} {dlg : Dialog}
    (h : dialogOf kind p = some (kind', dlg)) : kind = kind' ∧ p.dialog.dDialog = some dlg := by
  obtain ⟨dlg', hdlg, hsame⟩ := Option.map_eq_some_iff.1 h
  cases hsame
  exact ⟨rfl, hdlg⟩

theorem kind_ne_call {s : EXosip} {sip : SipFields} {kind : DialogKind} {dlg : Dialog}
    (hcall : findPlace sip s.jCalls = .ok none)
    (h : findDialogOfRequest s sip = .ok (some (kind, dlg))) : kind ≠ .call := by
  rw [findDialogOfRequest, hcall, ok_bind] at h
  dsimp only at h
  split at h
  · cases h
  · rw [exists_ok_bind] at h
    obtain ⟨p, -, h⟩ := h
    cases p with
    | some p =>
        rw [← (dialogOf_eq_some (Except.ok.inj h)).1]
        decide
    | none =>
        dsimp only at h
        split at h
        · cases h
        · rw [exists_ok_bind] at h
          obtain ⟨q, -, h⟩ := h
          obtain ⟨q, -, hkind⟩ := Option.bind_eq_some_iff.1 (Except.ok.inj h)
          rw [← (dialogOf_eq_some hkind).1]
          decide

theorem follows_processWithoutCall {env : Env} {s : EXosip} {tr : Tr} {sip : SipFields}
    {kind : DialogKind} {dlg : Dialog} {d : Dispatched} (hcall : findPlace sip s.jCalls = .ok none)
    (hin : InDialog s sip kind dlg) (hfresh : dlg.isStale sip = false)
    (h : processWithoutCall env s tr sip = .ok d) : Follows d.s s := by
  have hfind := hin.1
  rw [findDialogOfRequest, hcall] at hfind
  unfold processWithoutCall at h
  split at h
  · cases h
    exact (follows_refl s).addTransaction tr
  · split at h
    · rename_i hinvite
      rw [ok_bind] at hfind
      dsimp only at hfind
      rw [if_pos hinvite] at hfind
      cases hfind
    · rename_i hinvite
      rw [ok_bind] at hfind
      dsimp only at hfind
      rw [if_neg hinvite, exists_ok_bind] at hfind
      obtain ⟨p, hp, hfind⟩ := hfind
      split at h
      · cases h
        exact (follows_refl s).addTransaction tr
      · rw [hp, ok_bind] at h
        cases p with
        | some p =>
            cases h
            have hdlg := (dialogOf_eq_some (Except.ok.inj hfind)).2
            exact follows_processWithinSubscribe tr (elements_findPlace hp) hdlg hfresh
        | none =>
            dsimp only at h hfind
            split at h
            · rename_i hnotify
              rw [if_pos hnotify] at hfind
              cases hfind
            · rename_i hnotify
              rw [if_neg hnotify, exists_ok_bind] at hfind
              obtain ⟨q, hq, hfind⟩ := hfind
              obtain ⟨q, rfl, hkind⟩ := Option.bind_eq_some_iff.1 (Except.ok.inj hfind)
              rw [hq, ok_bind] at h
              cases h
              exact follows_processWithinNotify tr (elements_findPlace hq)
                (dialogOf_eq_some hkind).2 hfresh

theorem processTransaction_keeps {env : Env} {s : EXosip} {tr : Tr} {sip : SipFields}
    {kind : DialogKind} {dlg : Dialog} {d : Dispatched}
    (hnumber : ∃ number, sip.cseq.bind Cseq.number = some number)
    (hin : InDialog s sip kind dlg) (hchecked : CseqChecked sip kind dlg)
    (h : processTransaction env s tr sip = .ok d) :
    Follows d.s s ∧ (dlg.isStale sip = false ∨ d.events sip = []) := by
  have hfind := hin.1
  rw [findDialogOfRequest, exists_ok_bind] at hfind
  obtain ⟨p, hp, hfind⟩ := hfind
  rw [processTransaction, hin.2.2, if_neg Bool.false_ne_true, hp, ok_bind] at h
  cases p with
  | some p =>
      obtain ⟨rfl, hdlg⟩ := dialogOf_eq_some (Except.ok.inj hfind)
      cases hstale : dlg.isStale sip with
      | true =>
          have hcall := hchecked.resolve_left (by simp [hstale])
          obtain ⟨d', hd', hfollows, hevents⟩ :=
            checkCseq_stale env s tr hdlg hnumber hstale hcall.2.1 hcall.2.2
          dsimp only at h
          rw [hd'] at h
          cases h
          exact ⟨hfollows, .inr hevents⟩
      | false =>
          refine ⟨?_, .inl rfl⟩
          dsimp only at h
          split at h
          · rename_i hcheck
            cases h
            exact follows_checkCseq hcheck
          · apply follows_afterTrying _ h
            intro d' hd'
            cases hd'
            exact follows_processWithinCall tr (elements_findPlace hp) hdlg hstale
  | none =>
      have hkind : kind ≠ .call := kind_ne_call hp hin.1
      have hfresh : dlg.isStale sip = false := by
        cases hchecked with
        | inl hfresh => exact hfresh
        | inr hcall => exact absurd hcall.1 hkind
      refine ⟨?_, .inl hfresh⟩
      apply follows_afterTrying _ h
      intro d' hd'
      exact follows_processWithoutCall hp hin hfresh hd'

theorem follows_ofTransaction {s : EXosip} {tr : Tr} {s' : EXosip}
    (h : Follows s' (s.withTransaction tr)) : Follows s' s :=
  ⟨h.calls, h.subscribes, h.notifies⟩

theorem processNewrequest_keeps {env : Env} {s : EXosip} {sip : SipFields} {kind : DialogKind}
    {dlg : Dialog} {created : Option Tr} {d : Dispatched} (hin : InDialog s sip kind dlg)
    (hchecked : CseqChecked sip kind dlg)
    (h : exosipProcessNewrequest env s sip = .ok (created, d)) :
    Follows d.s s ∧ (dlg.isStale sip = false ∨ d.events sip = []) := by
  rw [exosipProcessNewrequest, hin.2.1, if_neg Bool.false_ne_true] at h
  split at h
  · cases hinit : transactionInit env sip with
    | error i =>
        rw [hinit] at h
        cases h
        exact ⟨follows_refl s, .inr rfl⟩
    | ok tr =>
        rw [hinit] at h
        dsimp only at h
        rw [exists_ok_bind] at h
        obtain ⟨d', hd', h⟩ := h
        cases h
        have hkeeps := processTransaction_keeps (s := s.withTransaction tr)
          (exists_cseqNumber hinit) hin hchecked hd'
        exact ⟨follows_ofTransaction hkeeps.1, hkeeps.2⟩
  · cases h
    exact ⟨follows_refl s, .inr rfl⟩

theorem dialogStep_keeps (s : EXosip) (input : DialogInput) (h : Requested CseqChecked s input) :
    (input.Quiet → Follows (dialogStep s input).1 s) ∧
      ∀ report ∈ (dialogStep s input).2, report.stale = false := by
  cases input with
  | activity act => exact ⟨fun hquiet => hquiet s, fun report hreport => by cases hreport⟩
  | request env sip =>
      obtain ⟨kind, dlg, hin, hchecked⟩ := h
      have hstale : isStaleIn s sip = dlg.isStale sip := by rw [isStaleIn, hin.1]
      dsimp only [dialogStep]
      cases hd : exosipProcessNewrequest env s sip with
      | error i => exact ⟨fun _ => follows_refl s, fun report hreport => by cases hreport⟩
      | ok result =>
          obtain ⟨created, d⟩ := result
          have hkeeps := processNewrequest_keeps hin hchecked hd
          refine ⟨fun _ => hkeeps.1, ?_⟩
          intro report hreport
          obtain ⟨type, htype, rfl⟩ := List.mem_map.1 hreport
          cases hkeeps.2 with
          | inl hfresh => exact hstale.trans hfresh
          | inr hnone =>
              rw [hnone] at htype
              cases htype

/-- In a run of requests whose CSeq is checked, every remote CSeq is monotone. -/
theorem cseqMonotone_of_checked {s : EXosip} {inputs : List DialogInput}
    (h : Machine.Guarded dialogStep (Requested CseqChecked) s inputs) : CseqMonotone s inputs := by
  constructor
  · intro inputs₁ inputs₂ inputs₃ happend hquiet
    rw [happend, Machine.guarded_append, Machine.guarded_append] at h
    rw [Machine.run_append]
    refine Machine.guarded_invariant dialogStep
      (I := fun t => Follows t (Machine.run dialogStep s inputs₁).1) ?_
      (Machine.Guarded.and_of_forall dialogStep h.2.1 hquiet) (follows_refl _)
    intro t input hinput hfollows
    exact ((dialogStep_keeps t input hinput.1).1 hinput.2).trans hfollows
  · refine Machine.guarded_outputs dialogStep (I := fun _ => True)
      (Q := fun report => report.stale = false) ?_ h trivial
    intro t input hinput _
    exact ⟨trivial, (dialogStep_keeps t input hinput).2⟩

/-- The dialog of the requests from `remote`. -/
def dialogWith (remoteCseq : Int) : Dialog where
  callId := some "c1".toList
  localTag := some "h1".toList
  remoteTag := some "r1".toList
  lineParam := none
  routeSet := []
  localCseq := 1
  remoteCseq
  remoteUri := some (Dialog.nameAddr "remote" [])
  localUri := some (Dialog.nameAddr "host" [])
  remoteContactUri := some (Dialog.nameAddr "remote" [])
  secure := -1
  type := .callee
  state := .confirmed

def oneCall : EXosip :=
  ⟨[⟨[⟨some (dialogWith 1), [], []⟩], none, none, ()⟩], [], [], [], [], 1⟩

/-- An INFO in the call, and one with the same CSeq. -/
theorem cseqMonotone_infos :
    CseqMonotone oneCall
      [.request someEnv (requestOf "INFO" "2" [⟨"tag".toList, some "h1".toList⟩]),
        .request someEnv (requestOf "INFO" "2" [⟨"tag".toList, some "h1".toList⟩])] :=
  cseqMonotone_of_checked
    ⟨⟨.call, dialogWith 1, ⟨rfl, rfl, rfl⟩, .inl rfl⟩,
      ⟨.call, dialogWith 2, ⟨rfl, rfl, rfl⟩, .inr ⟨rfl, by decide, .inl rfl⟩⟩, trivial⟩

def oneSubscription : EXosip :=
  ⟨[], [⟨[⟨some (dialogWith 5), [], []⟩], none, none, .pending⟩], [], [], [], 1⟩

def notifyOf (number : String) : SipFields :=
  { requestOf "NOTIFY" number [⟨"tag".toList, some "h1".toList⟩] with
    headers := [SipMessage.newHeader "Subscription-State".toList (some "active".toList)] }

/-- A NOTIFY with a lower CSeq reaches the application, and its CSeq takes the place of the
higher one. -/
theorem not_cseqMonotone :
    ¬ ∀ (s : EXosip) (inputs : List DialogInput),
      Machine.Guarded dialogStep (Requested fun _ _ _ => True) s inputs → CseqMonotone s inputs := by
  intro h
  have hmonotone := h oneSubscription [.request someEnv (notifyOf "3")]
    ⟨⟨.subscribe, dialogWith 5, ⟨rfl, rfl, rfl⟩, trivial⟩, trivial⟩
  have hreports : (Machine.run dialogStep oneSubscription [.request someEnv (notifyOf "3")]).2 =
      [⟨.subscriptionNotify, true⟩] := rfl
  have hstale := hmonotone.2 ⟨.subscriptionNotify, true⟩ (by rw [hreports]; exact .head _)
  cases hstale

end Exosip
