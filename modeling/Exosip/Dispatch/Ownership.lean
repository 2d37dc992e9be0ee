import Exosip.Dispatch.Newrequest
import Mathlib.Algebra.Order.Group.Multiset
import Mathlib.Tactic.Abel

/-! Who holds the server transaction of a request once the dispatcher is done with it. -/
namespace Exosip

open CString SipFields

/-- The transactions in a list of calls, subscriptions or notifications: what `own` takes of
the two members of each, and what `inDialog` takes of each dialog. -/
def held {ι : Type} (own : Option Tr → Option Tr → List Tr) (inDialog : EXosipDialog → List Tr)
    (elements : List (Element ι)) : Multiset Tr :=
  ↑(elements.flatMap fun e => own e.incTr e.outTr ++ e.dialogs.flatMap inDialog)

namespace EXosip

/-- The owners of the incoming requests: `j_transactions`, every `c_inc_tr` and `n_inc_tr`, and
the `d_inc_trs` of all dialogs. -/
def owners (s : EXosip) : Multiset Tr :=
  s.jTransactions + held (fun inc _ => inc.toList) EXosipDialog.dIncTrs s.jCalls +
    held (fun inc _ => inc.toList) EXosipDialog.dIncTrs s.jNotifies +
    held (fun _ _ => []) EXosipDialog.dIncTrs s.jSubscribes

/-- The other places where a transaction can be. -/
def others (s : EXosip) : Multiset Tr :=
  held (fun _ out => out.toList) EXosipDialog.dOutTrs s.jCalls +
    held (fun _ out => out.toList) EXosipDialog.dOutTrs s.jNotifies +
    held (fun inc out => inc.toList ++ out.toList) EXosipDialog.dOutTrs s.jSubscribes

end EXosip

/-- The owners gain `new`, once, and besides only transactions that leave another place. -/
def Gains (s s' : EXosip) (new : Multiset Tr) : Prop :=
  ∃ moved, s.others = moved + s'.others ∧ s'.owners = new + moved + s.owners

/-- The transaction that was made for a request has one owner and is in the lists of the
stack, or it is freed and in none of them. -/
def HandedOver (s s' : EXosip) (created : Option Tr) : Prop :=
  match created with
  | none => Gains s s' 0 ∧ (s'.osipTransactions : Multiset Tr) = s.osipTransactions
  | some tr =>
      (Gains s s' {tr} ∧ (s'.osipTransactions : Multiset Tr) = {tr} + s.osipTransactions) ∨
        (Gains s s' 0 ∧ (s'.osipTransactions : Multiset Tr) = s.osipTransactions)

/-- An answer of that status to the request can be built. -/
def Buildable (env : Env) (status : Int) (sip : SipFields) : Prop :=
  ∃ answer, buildResponseDefault env.context none status sip = .ok answer

/-- An INVITE with a tag in its To that can be refused, or a NOTIFY for a subscription from which
no dialog can be made. -/
def OrphansWithoutCall (env : Env) (s : EXosip) (sip : SipFields) : Prop :=
  (sip.toMessage.isInvite = true ∧ sip.toTag.isSome = true ∧ Buildable env 481 sip) ∨
    (sip.toMessage.isNotify = true ∧ findPlace sip s.jSubscribes = .ok none ∧
      (∃ found, findSubscribe sip s.jSubscribes = .ok (some found)) ∧
      exosipDialogInitAsUac sip = .ok none)

/-- There is no dialog of a call for the request and, when it is an INVITE, there is a 100. -/
def OrphansInDispatch (env : Env) (s : EXosip) (sip : SipFields) : Prop :=
  findPlace sip s.jCalls = .ok none ∧ (sip.toMessage.isInvite = true → Buildable env 100 sip) ∧
    OrphansWithoutCall env s sip

def Orphans (env : Env) (s : EXosip) (sip : SipFields) : Prop :=
  (∃ tr, transactionInit env sip = .ok tr) ∧ OrphansInDispatch env s sip

/-! ### Counting -/

section Held

variable {ι : Type} (own : Option Tr → Option Tr → List Tr) (inDialog : EXosipDialog → List Tr)

@[simp] theorem held_nil : held own inDialog ([] : List (Element ι)) = 0 := rfl

@[simp] theorem held_cons (e : Element ι) (elements : List (Element ι)) :
    held own inDialog (e :: elements) =
      ↑(own e.incTr e.outTr) + ↑(e.dialogs.flatMap inDialog) + held own inDialog elements := by
  simp [held]

@[simp] theorem held_append (elements elements' : List (Element ι)) :
    held own inDialog (elements ++ elements') =
      held own inDialog elements + held own inDialog elements' := by
  simp [held]

theorem held_elements (p : Place ι) :
    held own inDialog p.elements =
      ↑(inDialog p.dialog) +
        (↑(own p.element.incTr p.element.outTr) + ↑(p.dialogsBefore.flatMap inDialog) +
          ↑(p.dialogsAfter.flatMap inDialog) + held own inDialog p.before +
          held own inDialog p.after) := by
  rw [Place.elements, held_append, held_cons, Place.current, List.flatMap_append,
    List.flatMap_cons, ← Multiset.coe_add, ← Multiset.coe_add]
  abel

theorem held_addIncTr (p : Place ι) (tr : Tr) :
    held own EXosipDialog.dIncTrs (p.addIncTr tr).elements =
      {tr} + held own EXosipDialog.dIncTrs p.elements := by
  rw [held_elements, held_elements, Place.addIncTr, ← Multiset.cons_coe, ← Multiset.singleton_add,
    add_assoc]

theorem held_addIncTr_out (p : Place ι) (tr : Tr) :
    held own EXosipDialog.dOutTrs (p.addIncTr tr).elements =
      held own EXosipDialog.dOutTrs p.elements := by
  rw [held_elements, held_elements, Place.addIncTr]

theorem held_setDialog (p : Place ι) (dDialog : Option Dialog) :
    held own EXosipDialog.dIncTrs (p.setDialog dDialog).elements =
        held own EXosipDialog.dIncTrs p.elements ∧
      held own EXosipDialog.dOutTrs (p.setDialog dDialog).elements =
        held own EXosipDialog.dOutTrs p.elements := by
  constructor
  · rw [held_elements, held_elements, Place.setDialog]
  · rw [held_elements, held_elements, Place.setDialog]

theorem held_setInfo (p : Place ι) (info : ι) :
    held own inDialog (p.setInfo info).elements = held own inDialog p.elements := by
  rw [held_elements, held_elements, Place.setInfo]

end Held

@[simp] theorem held_updateDialog {ι : Type} (own : Option Tr → Option Tr → List Tr) (p : Place ι)
    (update : Dialog → Int × Dialog) :
    held own EXosipDialog.dIncTrs (p.updateDialog update).elements =
      held own EXosipDialog.dIncTrs p.elements :=
  (held_setDialog own p _).1

@[simp] theorem held_updateDialog_out {ι : Type} (own : Option Tr → Option Tr → List Tr)
    (p : Place ι) (update : Dialog → Int × Dialog) :
    held own EXosipDialog.dOutTrs (p.updateDialog update).elements =
      held own EXosipDialog.dOutTrs p.elements :=
  (held_setDialog own p _).2

def Owned (s : EXosip) (d : Dispatched) (tr : Tr) : Prop :=
  Gains s d.s {tr} ∧ d.s.osipTransactions = s.osipTransactions

def Freed (s : EXosip) (d : Dispatched) (tr : Tr) : Prop :=
  Gains s d.s 0 ∧ d.s.osipTransactions = s.osipTransactions.erase tr

/-- The stack keeps a transaction that nobody gains. -/
def Lost (s : EXosip) (d : Dispatched) : Prop :=
  Gains s d.s 0 ∧ d.s.osipTransactions = s.osipTransactions

theorem gains_of_eq {s s' : EXosip} {new : Multiset Tr} (hothers : s'.others = s.others)
    (howners : s'.owners = new + s.owners) : Gains s s' new :=
  ⟨0, by rw [hothers, zero_add], by rw [howners, add_zero]⟩

theorem gains_refl (s : EXosip) : Gains s s 0 := gains_of_eq rfl (zero_add _).symm

theorem Gains.after {s s' s'' : EXosip} {new : Multiset Tr} (h : Gains s s' 0)
    (h' : Gains s' s'' new) : Gains s s'' new := by
  obtain ⟨moved, hothers, howners⟩ := h
  obtain ⟨moved', hothers', howners'⟩ := h'
  refine ⟨moved + moved', ?_, ?_⟩
  · rw [hothers, hothers', add_assoc]
  · rw [howners', howners]
    abel

theorem gains_addTransaction (s : EXosip) (tr : Tr) : Gains s (s.addTransaction tr) {tr} := by
  apply gains_of_eq
  · rfl
  · simp only [EXosip.owners, EXosip.addTransaction, ← Multiset.cons_coe, ← Multiset.singleton_add,
      add_assoc]

theorem owned_addTransaction (s : EXosip) (tr : Tr) (reserved : Option Reserved)
    (outputs : List Output) :
    Owned s ⟨s.addTransaction tr, reserved, outputs⟩ tr :=
  ⟨gains_addTransaction s tr, rfl⟩

theorem owned_rejectWith (env : Env) (s : EXosip) (dialog : Option Dialog) (tr : Tr) (status : Int)
    (reasonPhrase : Option Str) (sip : SipFields) :
    Owned s (rejectWith env s dialog tr status reasonPhrase sip) tr :=
  owned_addTransaction s tr _ _

theorem Owned.after {s s' : EXosip} {d : Dispatched} {tr : Tr} (h : Gains s s' 0)
    (hosip : s'.osipTransactions = s.osipTransactions) (h' : Owned s' d tr) : Owned s d tr :=
  ⟨h.after h'.1, h'.2.trans hosip⟩

section Calls

variable {s : EXosip} {p : Place Unit}

theorem gains_calls (hp : p.elements = s.jCalls) {q : Place Unit} {new : Multiset Tr}
    (hinc : held (fun inc _ => inc.toList) EXosipDialog.dIncTrs q.elements =
      new + held (fun inc _ => inc.toList) EXosipDialog.dIncTrs p.elements)
    (hout : held (fun _ out => out.toList) EXosipDialog.dOutTrs q.elements =
      held (fun _ out => out.toList) EXosipDialog.dOutTrs p.elements) :
    Gains s { s with jCalls := q.elements } new := by
  apply gains_of_eq
  · rw [EXosip.others, EXosip.others, hout, hp]
  · rw [EXosip.owners, EXosip.owners, hinc, hp]
    abel

theorem gains_updateCall (hp : p.elements = s.jCalls) (update : Dialog → Int × Dialog) :
    Gains s { s with jCalls := (p.updateDialog update).elements } 0 := by
  apply gains_calls hp
  · rw [held_updateDialog, zero_add]
  · rw [held_updateDialog_out]

theorem gains_addIncTr (hp : p.elements = s.jCalls) (tr : Tr) :
    Gains s { s with jCalls := (p.addIncTr tr).elements } {tr} :=
  gains_calls hp (held_addIncTr _ p tr) (held_addIncTr_out _ p tr)

theorem owned_addIncTr (hp : p.elements = s.jCalls) (tr : Tr) (reserved : Option Reserved)
    (outputs : List Output) :
    Owned s ⟨{ s with jCalls := (p.addIncTr tr).elements }, reserved, outputs⟩ tr :=
  ⟨gains_addIncTr hp tr, rfl⟩

theorem owned_processBye (env : Env) (hp : p.elements = s.jCalls) (tr : Tr) (sip : SipFields) :
    Owned s (processBye env s p tr sip) tr := by
  unfold processBye
  split
  · exact owned_addIncTr hp tr _ _
  · split
    · rw [hp]
      exact owned_addTransaction s tr _ _
    · refine ⟨gains_calls hp ?_ ?_, rfl⟩
      · rw [(held_setDialog _ _ _).1, held_addIncTr]
      · rw [(held_setDialog _ _ _).2, held_addIncTr_out]

theorem owned_processWithinCall (env : Env) (hp : p.elements = s.jCalls) (tr : Tr)
    (sip : SipFields) : Owned s (processWithinCall env s p tr sip) tr := by
  unfold processWithinCall
  have hcseq := gains_updateCall hp (Dialog.updateOsipCseqAsUas · sip)
  dsimp only
  split
  · exact owned_rejectWith env s _ tr _ _ sip
  · apply Owned.after hcseq rfl
    split
    · split
      · exact owned_rejectWith env _ _ tr _ _ sip
      · have hroutes := gains_updateCall
          (s := { s with jCalls := (p.updateDialog (Dialog.updateOsipCseqAsUas · sip)).elements })
          rfl (Dialog.updateRouteSetAsUas · sip)
        exact Owned.after hroutes rfl (owned_addIncTr rfl tr _ _)
    · split
      · split
        · exact owned_rejectWith env _ _ tr _ _ sip
        · split
          · exact owned_rejectWith env _ _ tr _ _ sip
          · exact owned_processBye env rfl tr sip
      · exact owned_addIncTr rfl tr _ _

end Calls

/-! ### CANCEL -/

theorem owned_addToDialog {s : EXosip} {jd : Option (Place Unit)}
    (hp : ∀ p, jd = some p → p.elements = s.jCalls) (tr : Tr) (reserved : Option Reserved)
    (outputs : List Output) : Owned s ⟨addToDialog s jd tr, reserved, outputs⟩ tr := by
  cases jd with
  | none => exact owned_addTransaction s tr _ _
  | some p => exact owned_addIncTr (hp p rfl) tr _ _

theorem owned_processCancel (env : Env) (s : EXosip) (transaction : Tr) (sip : SipFields) :
    Owned s (processCancel env s transaction sip) transaction := by
  unfold processCancel
  split
  · split
    · exact owned_addTransaction s transaction _ _
    · exact owned_addTransaction s transaction _ _
  · rename_i tr jd hfound
    have hp : ∀ p, jd = some p → p.elements = s.jCalls := by
      intro p hjd
      rw [hjd] at hfound
      exact elements_findCancelled hfound
    dsimp only
    split
    · split
      · exact owned_addTransaction s transaction _ _
      · exact owned_addToDialog hp transaction _ _
    · split
      · exact owned_addTransaction s transaction _ _
      · exact owned_addToDialog hp transaction _ _

/-! ### Subscriptions -/

theorem released_eq (js : EXosipSubscribe) :
    (subscriptionReleased js : Multiset Tr) =
      ↑(js.outTr.toList) + ↑(js.incTr.toList) +
        (↑(js.dialogs.flatMap EXosipDialog.dIncTrs) +
          ↑(js.dialogs.flatMap EXosipDialog.dOutTrs)) := by
  have hdialogs : ((js.dialogs.map EXosipDialog.released).reverse.flatten : Multiset Tr) =
      ↑(js.dialogs.flatMap EXosipDialog.dIncTrs) + ↑(js.dialogs.flatMap EXosipDialog.dOutTrs) := by
    induction js.dialogs with
    | nil => rfl
    | cons jd jds ih =>
        rw [List.map_cons, List.reverse_cons, List.flatten_append, ← Multiset.coe_add, ih,
          List.flatMap_cons, List.flatMap_cons, ← Multiset.coe_add, ← Multiset.coe_add,
          EXosipDialog.released, List.flatten_singleton, Multiset.coe_reverse, ← Multiset.coe_add]
        abel
  rw [subscriptionReleased, ← Multiset.coe_add, ← Multiset.coe_add, hdialogs]

section Subscribes

variable {s : EXosip} {p : Place SsStatus}

theorem gains_subscribes (hp : p.elements = s.jSubscribes) {q : Place SsStatus}
    {new : Multiset Tr}
    (hinc : held (fun _ _ => []) EXosipDialog.dIncTrs q.elements =
      new + held (fun _ _ => []) EXosipDialog.dIncTrs p.elements)
    (hout : held (fun inc out => inc.toList ++ out.toList) EXosipDialog.dOutTrs q.elements =
      held (fun inc out => inc.toList ++ out.toList) EXosipDialog.dOutTrs p.elements) :
    Gains s { s with jSubscribes := q.elements } new := by
  apply gains_of_eq
  · rw [EXosip.others, EXosip.others, hout, hp]
  · rw [EXosip.owners, EXosip.owners, hinc, hp]
    abel

theorem gains_updateSubscribe (hp : p.elements = s.jSubscribes) (update : Dialog → Int × Dialog) :
    Gains s { s with jSubscribes := (p.updateDialog update).elements } 0 := by
  apply gains_subscribes hp
  · rw [held_updateDialog, zero_add]
  · rw [held_updateDialog_out]

/-- The subscription ends: its transactions go to `j_transactions`, those of its requests from
another place. -/
theorem gains_subscriptionFree (hp : p.elements = s.jSubscribes) (info : SsStatus) (tr : Tr) :
    Gains s
      { s with
        jSubscribes := p.before ++ p.after
        jTransactions := subscriptionReleased (p.setInfo info).current ++ tr :: s.jTransactions }
      {tr} := by
  refine ⟨↑(p.element.incTr.toList ++ p.element.outTr.toList ++
    p.current.dialogs.flatMap EXosipDialog.dOutTrs), ?_, ?_⟩
  · simp only [EXosip.others, ← hp, Place.elements, Place.current, held_append, held_cons,
      ← Multiset.coe_add]
    abel
  · simp only [EXosip.owners, ← hp, Place.elements, Place.current, Place.setInfo, held_append,
      held_cons, ← Multiset.coe_add, ← Multiset.cons_coe, ← Multiset.singleton_add, released_eq,
      Multiset.coe_nil]
    abel

theorem owned_processNotifyWithinDialog (env : Env)
    (hp : Gains s { s with jSubscribes := p.elements } 0) (tr : Tr) (sip : SipFields) :
    Owned s (processNotifyWithinDialog env s p tr sip) tr := by
  apply Owned.after hp rfl
  unfold processNotifyWithinDialog
  dsimp only
  split
  · exact owned_rejectWith env _ _ tr _ _ sip
  · split
    · exact owned_rejectWith env _ _ tr _ _ sip
    · split
      · exact ⟨gains_subscriptionFree (s := { s with jSubscribes := p.elements }) rfl _ tr, rfl⟩
      · refine ⟨gains_subscribes (s := { s with jSubscribes := p.elements }) rfl ?_ ?_, rfl⟩
        · rw [held_addIncTr, held_setInfo]
        · rw [held_addIncTr_out, held_setInfo]

theorem owned_processWithinSubscribe (env : Env) (hp : p.elements = s.jSubscribes) (tr : Tr)
    (sip : SipFields) : Owned s (processWithinSubscribe env s p tr sip) tr := by
  unfold processWithinSubscribe
  split
  · split
    · exact owned_rejectWith env s _ tr _ _ sip
    · apply owned_processNotifyWithinDialog
      have hcseq := gains_updateSubscribe hp (Dialog.updateOsipCseqAsUas · sip)
      exact hcseq.after
        (gains_updateSubscribe
          (s := { s with jSubscribes := (p.updateDialog (Dialog.updateOsipCseqAsUas · sip)).elements })
          rfl (Dialog.updateRouteSetAsUas · sip))
  · exact owned_rejectWith env s _ tr _ _ sip

end Subscribes

theorem findSubscribe_eq_some {notify : SipFields} {jss : List EXosipSubscribe}
    {found : List EXosipSubscribe × EXosipSubscribe × List EXosipSubscribe}
    (h : findSubscribe notify jss = .ok (some found)) :
    jss = found.1 ++ found.2.1 :: found.2.2 := by
  induction jss generalizing found with
  | nil => cases h
  | cons js jss ih =>
      rw [findSubscribe, exists_ok_bind] at h
      obtain ⟨matching, -, h⟩ := h
      cases matching with
      | true =>
          cases h
          rfl
      | false =>
          rw [if_neg Bool.false_ne_true, exists_ok_bind] at h
          obtain ⟨found', hfound', h⟩ := h
          cases found' with
          | none => cases h
          | some found' =>
              cases h
              rw [ih hfound']
              rfl

theorem gains_addDialog {s : EXosip} {before after : List EXosipSubscribe} {js : EXosipSubscribe}
    (h : s.jSubscribes = before ++ js :: after) (dlg : Option Dialog) :
    Gains s
      { s with
        jSubscribes :=
          (⟨before, js, [], ⟨dlg, [], []⟩, js.dialogs, after⟩ : Place SsStatus).elements } 0 := by
  apply gains_of_eq
  · rw [EXosip.others, EXosip.others, h, held_elements, held_append, held_cons]
    simp only [List.flatMap_nil, Multiset.coe_nil]
    abel
  · rw [EXosip.owners, EXosip.owners, h, held_elements, held_append, held_cons]
    simp only [List.flatMap_nil, Multiset.coe_nil]
    abel

/-- The NOTIFY has an owner unless no dialog can be made from it. -/
theorem processNewNotify_cases {env : Env} {s : EXosip} {tr : Tr} {sip : SipFields}
    {d : Dispatched} (h : processNewNotify env s tr sip = .ok d) :
    (Owned s d tr ∧ (findSubscribe sip s.jSubscribes = .ok none ∨
        ∃ dlg, exosipDialogInitAsUac sip = .ok (some dlg))) ∨
      (Lost s d ∧ (∃ found, findSubscribe sip s.jSubscribes = .ok (some found)) ∧
        exosipDialogInitAsUac sip = .ok none) := by
  rw [processNewNotify, exists_ok_bind] at h
  obtain ⟨found, hfound, h⟩ := h
  cases found with
  | none =>
      cases h
      exact .inl ⟨owned_addTransaction s tr _ _, .inl hfound⟩
  | some found =>
      rw [exists_ok_bind] at h
      obtain ⟨dlg, hdlg, h⟩ := h
      cases dlg with
      | none =>
          cases h
          exact .inr ⟨⟨gains_refl s, rfl⟩, ⟨found, hfound⟩, hdlg⟩
      | some dlg =>
          cases h
          refine .inl ⟨owned_processNotifyWithinDialog env ?_ tr sip, .inr ⟨dlg, hdlg⟩⟩
          exact gains_addDialog (findSubscribe_eq_some hfound) _

/-! ### Notifications -/

theorem owned_processWithinNotify (env : Env) {s : EXosip} {p : Place NotifyInfo}
    (hp : p.elements = s.jNotifies) (tr : Tr) (sip : SipFields) :
    Owned s (processWithinNotify env s p tr sip) tr := by
  unfold processWithinNotify
  split
  · split
    · exact owned_rejectWith env s _ tr _ _ sip
    · refine ⟨gains_of_eq ?_ ?_, rfl⟩
      · simp only [EXosip.others, processSubscribeWithinCall, held_addIncTr_out, held_setInfo,
          held_updateDialog_out, hp]
      · simp only [EXosip.owners, processSubscribeWithinCall, held_addIncTr, held_setInfo,
          held_updateDialog, hp]
        abel
  · exact owned_rejectWith env s _ tr _ _ sip

theorem owned_refuse (env : Env) (s : EXosip) (tr : Tr) (status : Int) (sip : SipFields) :
    Owned s (refuse env s tr status sip) tr := by
  unfold refuse
  split
  · exact owned_addTransaction s tr _ _
  · exact owned_addTransaction s tr _ _

theorem trs_dialogInitAsUas {invite response : SipFields} {jd : EXosipDialog}
    (h : exosipDialogInitAsUas invite response = .ok (some jd)) :
    jd.dIncTrs = [] ∧ jd.dOutTrs = [] := by
  rw [exosipDialogInitAsUas, exists_ok_bind] at h
  obtain ⟨dlg, -, h⟩ := h
  cases dlg with
  | none => cases h
  | some dlg =>
      cases h
      exact ⟨rfl, rfl⟩

/-- The request that may make a dialog: its transaction has an owner with the dialog and
without it. -/
theorem owned_ofDialog {s : EXosip} {tr : Tr} {sip : SipFields} {d failed : Dispatched}
    {success : SipFields → EXosipDialog → Dispatched} {completed : Result (Option SipFields)}
    (hfailed : Owned s failed tr)
    (hsuccess : ∀ answer jd, jd.dIncTrs = [] → jd.dOutTrs = [] → Owned s (success answer jd) tr)
    (h : (do
      match ← completed with
      | none => .ok failed
      | some answer =>
          match ← exosipDialogInitAsUas sip answer with
          | none => .ok failed
          | some jd => .ok (success answer jd)) = (.ok d : Result Dispatched)) : Owned s d tr := by
  rw [exists_ok_bind] at h
  obtain ⟨answer, -, h⟩ := h
  cases answer with
  | none =>
      cases h
      exact hfailed
  | some answer =>
      rw [exists_ok_bind] at h
      obtain ⟨jd, hjd, h⟩ := h
      cases jd with
      | none =>
          cases h
          exact hfailed
      | some jd =>
          cases h
          exact hsuccess answer jd (trs_dialogInitAsUas hjd).1 (trs_dialogInitAsUas hjd).2

theorem owned_processNewSubscription {env : Env} {s : EXosip} {tr : Tr} {sip : SipFields}
    {d : Dispatched} (h : processNewSubscription env s tr sip = .ok d) : Owned s d tr := by
  unfold processNewSubscription at h
  dsimp only at h
  split at h
  · cases h
    exact owned_refuse env s tr 481 sip
  · split at h
    · cases h
      exact owned_refuse env s tr 400 sip
    · split at h
      · cases h
        exact owned_addTransaction s tr _ _
      · apply owned_ofDialog (owned_addTransaction s tr _ _) _ h
        intro answer jd hinc hout
        refine ⟨gains_of_eq ?_ ?_, rfl⟩
        · simp [EXosip.others, hout]
        · simp only [EXosip.owners, held_cons, List.flatMap_singleton, hinc, Option.toList_some,
            Multiset.coe_nil, Multiset.coe_singleton]
          abel

/-! ### New calls -/

theorem gains_addCall (s : EXosip) :
    Gains s { s with jCalls := (⟨[], none, none, ()⟩ : EXosipCall) :: s.jCalls } 0 := by
  apply gains_of_eq
  · simp [EXosip.others]
  · simp [EXosip.owners]

theorem owned_processNewInvite {env : Env} {s : EXosip} {tr : Tr} {sip : SipFields}
    {d : Dispatched} (htag : sip.toTag.isSome = false)
    (h : processNewInvite env s tr sip = .ok d) : Owned s d tr := by
  rw [processNewInvite, htag, if_neg Bool.false_ne_true] at h
  dsimp only at h
  have hfailed : ∀ reserved outputs,
      Owned s ⟨({ s with jCalls := (⟨[], none, none, ()⟩ : EXosipCall) :: s.jCalls } :
        EXosip).addTransaction tr, reserved, outputs⟩ tr := fun reserved outputs =>
    Owned.after (gains_addCall s) rfl (owned_addTransaction _ tr reserved outputs)
  split at h
  · cases h
    exact hfailed _ _
  · apply owned_ofDialog (hfailed _ _) _ h
    intro answer jd hinc hout
    refine ⟨gains_of_eq ?_ ?_, rfl⟩
    · simp [EXosip.others, hout]
    · simp only [EXosip.owners, held_cons, List.flatMap_singleton, hinc, Option.toList_some,
        Multiset.coe_nil, Multiset.coe_singleton]
      abel

theorem processNewInvite_cases {env : Env} {s : EXosip} {tr : Tr} {sip : SipFields}
    {d : Dispatched} (h : processNewInvite env s tr sip = .ok d) :
    (Owned s d tr ∧ ¬ (sip.toTag.isSome = true ∧ Buildable env 481 sip)) ∨
      (Lost s d ∧ sip.toTag.isSome = true ∧ Buildable env 481 sip) := by
  cases htag : sip.toTag.isSome with
  | false => exact .inl ⟨owned_processNewInvite htag h, by simp⟩
  | true =>
      rw [processNewInvite, htag, if_pos rfl] at h
      cases hanswer : buildResponseDefault env.context none 481 sip with
      | ok answer =>
          rw [hanswer] at h
          cases h
          exact .inr ⟨⟨gains_refl s, rfl⟩, rfl, answer, hanswer⟩
      | error i =>
          rw [hanswer] at h
          cases h
          refine .inl ⟨owned_addTransaction s tr _ _, ?_⟩
          intro hrefused
          obtain ⟨-, answer, hok⟩ := hrefused
          rw [hanswer] at hok
          cases hok

/-! ### The dispatcher -/

theorem isMethod_unique {msg : Message} {method method' : String} (h : msg.isMethod method = true)
    (h' : msg.isMethod method' = true) : method = method' := by
  simp only [Message.isMethod, Bool.and_eq_true, beq_iff_eq] at h h'
  have hsame := Option.some.inj (h.2.symm.trans h'.2)
  exact String.toList_inj.1 hsame

theorem isRequest_of_isMethod {msg : Message} {method : String} (h : msg.isMethod method = true) :
    msg.isRequest = true := by
  rw [Message.isMethod, Bool.and_eq_true] at h
  exact h.1

theorem not_orphansWithoutCall {env : Env} {s : EXosip} {sip : SipFields} {method : String}
    (h : sip.toMessage.isMethod method = true) (hinvite : method ≠ "INVITE")
    (hnotify : method ≠ "NOTIFY") : ¬ OrphansWithoutCall env s sip := by
  intro horphan
  cases horphan with
  | inl horphan => exact hinvite (isMethod_unique h horphan.1)
  | inr horphan => exact hnotify (isMethod_unique h horphan.1)

theorem processWithoutCall_cases {env : Env} {s : EXosip} {tr : Tr} {sip : SipFields}
    {d : Dispatched} (h : processWithoutCall env s tr sip = .ok d) :
    (Owned s d tr ∧ ¬ OrphansWithoutCall env s sip) ∨
      (Lost s d ∧ OrphansWithoutCall env s sip) := by
  unfold processWithoutCall at h
  split at h
  · rename_i hinfo
    cases h
    exact .inl ⟨owned_rejectWith env s _ tr _ _ sip,
      not_orphansWithoutCall hinfo (by decide) (by decide)⟩
  · split at h
    · rename_i hinvite
      have hnotify : ¬ sip.toMessage.isNotify = true := fun hnotify =>
        absurd (isMethod_unique hinvite hnotify) (by decide)
      simp only [OrphansWithoutCall, hinvite, hnotify, true_and, Bool.false_eq_true, false_and,
        or_false]
      exact processNewInvite_cases h
    · rename_i hinvite
      simp only [OrphansWithoutCall, hinvite, Bool.false_eq_true, false_and, false_or]
      split at h
      · rename_i hbye
        cases h
        refine .inl ⟨owned_rejectWith env s _ tr _ _ sip, ?_⟩
        intro horphan
        exact absurd (isMethod_unique hbye horphan.1) (by decide)
      · rw [exists_ok_bind] at h
        obtain ⟨p, hp, h⟩ := h
        cases p with
        | some p =>
            cases h
            refine .inl ⟨owned_processWithinSubscribe env (elements_findPlace hp) tr sip, ?_⟩
            simp [hp]
        | none =>
            simp only [hp, true_and]
            dsimp only at h
            split at h
            · rename_i hnotify
              simp only [hnotify, true_and]
              cases processNewNotify_cases h with
              | inl howned =>
                  refine .inl ⟨howned.1, ?_⟩
                  intro horphan
                  cases howned.2 with
                  | inl hnone =>
                      obtain ⟨found, hfound⟩ := horphan.1
                      rw [hnone] at hfound
                      cases hfound
                  | inr hdlg =>
                      obtain ⟨dlg, hdlg⟩ := hdlg
                      rw [hdlg] at horphan
                      cases horphan.2
              | inr hlost => exact .inr hlost
            · rename_i hnotify
              refine .inl ⟨?_, by simp [hnotify]⟩
              simp only [exists_ok_bind] at h
              obtain ⟨q, hq, h⟩ := h
              cases q with
              | some q =>
                  cases h
                  exact owned_processWithinNotify env (elements_findPlace hq) tr sip
              | none =>
                  dsimp only at h
                  unfold processOutOfDialog at h
                  split at h
                  · exact owned_processNewSubscription h
                  · cases h
                    exact owned_addTransaction s tr _ _

theorem checkCseq_cases {env : Env} {s : EXosip} {p : Place Unit} {tr : Tr} {sip : SipFields}
    {d : Dispatched} (h : checkCseq env s p tr sip = some d) : Owned s d tr ∨ Freed s d tr := by
  cases checkCseq_state h with
  | inl hadded =>
      left
      unfold Owned
      rw [hadded]
      exact ⟨gains_addTransaction s tr, rfl⟩
  | inr hfreed =>
      right
      unfold Freed
      rw [hfreed]
      exact ⟨gains_refl s, rfl⟩

theorem trying_eq_ok {env : Env} {tr : Tr} {sip : SipFields} :
    (∃ sent, trying env tr sip = .ok sent) ↔
      (sip.toMessage.isInvite = true → Buildable env 100 sip) := by
  unfold trying Buildable
  cases sip.toMessage.isInvite with
  | false => simp
  | true =>
      cases buildResponseDefault env.context none 100 sip with
      | error i => simp [Except.map]
      | ok answer => simp [Except.map]

theorem afterTrying_cases {env : Env} {s : EXosip} {tr : Tr} {sip : SipFields}
    {rest : Result Dispatched} {d : Dispatched} (h : afterTrying env s tr sip rest = .ok d) :
    (Freed s d tr ∧ ¬ (sip.toMessage.isInvite = true → Buildable env 100 sip)) ∨
      (∃ d', rest = .ok d' ∧ d.s = d'.s) ∧
        (sip.toMessage.isInvite = true → Buildable env 100 sip) := by
  rw [← @trying_eq_ok env tr sip]
  cases afterTrying_state h with
  | inl hfreed =>
      obtain ⟨hs, i, hi⟩ := hfreed
      left
      unfold Freed
      rw [hs, hi]
      exact ⟨⟨gains_refl s, rfl⟩, by simp⟩
  | inr hsent => exact .inr hsent

theorem Owned.congr {s : EXosip} {d d' : Dispatched} {tr : Tr} (h : Owned s d' tr)
    (hs : d.s = d'.s) : Owned s d tr := by
  unfold Owned
  rw [hs]
  exact h

theorem processTransaction_cases {env : Env} {s : EXosip} {tr : Tr} {sip : SipFields}
    {d : Dispatched} (h : processTransaction env s tr sip = .ok d) :
    ((Owned s d tr ∨ Freed s d tr) ∧ ¬ OrphansInDispatch env s sip) ∨
      (Lost s d ∧ OrphansInDispatch env s sip) := by
  unfold processTransaction at h
  split at h
  · rename_i hcancel
    cases h
    refine .inl ⟨.inl (owned_processCancel env s tr sip), ?_⟩
    intro horphan
    exact not_orphansWithoutCall hcancel (by decide) (by decide) horphan.2.2
  · rw [exists_ok_bind] at h
    obtain ⟨p, hp, h⟩ := h
    cases p with
    | some p =>
        have hsettled : Owned s d tr ∨ Freed s d tr := by
          dsimp only at h
          split at h
          · rename_i hcheck
            cases h
            exact checkCseq_cases hcheck
          · cases afterTrying_cases h with
            | inl hfreed => exact .inr hfreed.1
            | inr hsent =>
                obtain ⟨⟨d', hd', hs⟩, -⟩ := hsent
                cases hd'
                exact .inl ((owned_processWithinCall env (elements_findPlace hp) tr sip).congr hs)
        refine .inl ⟨hsettled, ?_⟩
        intro horphan
        rw [horphan.1] at hp
        cases hp
    | none =>
        cases afterTrying_cases h with
        | inl hfreed => exact .inl ⟨.inr hfreed.1, fun horphan => hfreed.2 horphan.2.1⟩
        | inr hsent =>
            obtain ⟨⟨d', hd', hs⟩, hbuildable⟩ := hsent
            cases processWithoutCall_cases hd' with
            | inl howned =>
                exact .inl ⟨.inl (howned.1.congr hs), fun horphan => howned.2 horphan.2.2⟩
            | inr hlost =>
                refine .inr ⟨?_, hp, hbuildable, hlost.2⟩
                unfold Lost
                rw [hs]
                exact hlost.1

theorem total_of_gains {s s' : EXosip} {new : Multiset Tr} (h : Gains s s' new) :
    s'.owners + s'.others = new + (s.owners + s.others) := by
  obtain ⟨moved, hothers, howners⟩ := h
  rw [howners, hothers]
  abel

theorem Gains.unique {s s' : EXosip} {new new' : Multiset Tr} (h : Gains s s' new)
    (h' : Gains s s' new') : new = new' :=
  add_right_cancel ((total_of_gains h).symm.trans (total_of_gains h'))

theorem coe_withTransaction (s : EXosip) (tr : Tr) :
    ((s.withTransaction tr).osipTransactions : Multiset Tr) = {tr} + s.osipTransactions := by
  rw [EXosip.withTransaction, ← Multiset.coe_add, Multiset.coe_singleton, add_comm]

theorem coe_erase_withTransaction (s : EXosip) (tr : Tr) :
    ((s.withTransaction tr).osipTransactions.erase tr : Multiset Tr) = s.osipTransactions := by
  rw [← Multiset.coe_erase, coe_withTransaction, Multiset.singleton_add, Multiset.erase_cons_head]

theorem handedOver_of_owned {s : EXosip} {d : Dispatched} {tr : Tr}
    (h : Owned (s.withTransaction tr) d tr) : HandedOver s d.s (some tr) := by
  left
  exact ⟨h.1, by rw [h.2, coe_withTransaction]⟩

theorem handedOver_of_freed {s : EXosip} {d : Dispatched} {tr : Tr}
    (h : Freed (s.withTransaction tr) d tr) : HandedOver s d.s (some tr) := by
  right
  exact ⟨h.1, by rw [h.2, coe_erase_withTransaction]⟩

theorem not_handedOver_of_lost {s : EXosip} {d : Dispatched} {tr : Tr}
    (h : Lost (s.withTransaction tr) d) : ¬ HandedOver s d.s (some tr) := by
  intro hhanded
  cases hhanded with
  | inl howned =>
      have hnone : ({tr} : Multiset Tr) = 0 := Gains.unique (s := s) howned.1 h.1
      exact Multiset.singleton_ne_zero tr hnone
  | inr hfreed =>
      have hosip := hfreed.2
      rw [h.2, coe_withTransaction] at hosip
      have hcard := congrArg Multiset.card hosip
      simp at hcard

/-- The transaction of a request is handed over or freed exactly when it is not an orphan. -/
theorem handedOver_iff {env : Env} {s : EXosip} {sip : SipFields} {created : Option Tr}
    {d : Dispatched} (h : exosipProcessNewrequest env s sip = .ok (created, d)) :
    HandedOver s d.s created ↔ ¬ Orphans env s sip := by
  unfold exosipProcessNewrequest at h
  cases hack : sip.toMessage.isAck with
  | true =>
      rw [hack, if_pos rfl, exists_ok_bind] at h
      obtain ⟨p, -, h⟩ := h
      have hs : created = none ∧ d.s = s := by
        cases p with
        | none =>
            cases h
            exact ⟨rfl, rfl⟩
        | some p =>
            cases h
            exact ⟨rfl, rfl⟩
      rw [hs.1, hs.2]
      refine iff_of_true ⟨gains_refl s, rfl⟩ ?_
      intro horphan
      exact not_orphansWithoutCall hack (by decide) (by decide) horphan.2.2.2
  | false =>
      rw [hack, if_neg Bool.false_ne_true] at h
      cases hinit : transactionInit env sip with
      | error i =>
          have hs : created = none ∧ d.s = s := by
            rw [hinit] at h
            split at h
            · cases h
              exact ⟨rfl, rfl⟩
            · cases h
              exact ⟨rfl, rfl⟩
          rw [hs.1, hs.2]
          refine iff_of_true ⟨gains_refl s, rfl⟩ ?_
          intro horphan
          obtain ⟨tr, htr⟩ := horphan.1
          rw [hinit] at htr
          cases htr
      | ok tr =>
          rw [hinit] at h
          split at h
          · rw [exists_ok_bind] at h
            obtain ⟨d', hd', h⟩ := h
            cases h
            have horphans : Orphans env s sip ↔ OrphansInDispatch env (s.withTransaction tr) sip :=
              ⟨fun horphan => horphan.2, fun horphan => ⟨⟨tr, hinit⟩, horphan⟩⟩
            rw [horphans]
            cases processTransaction_cases hd' with
            | inl hsettled =>
                refine iff_of_true ?_ hsettled.2
                cases hsettled.1 with
                | inl howned => exact handedOver_of_owned howned
                | inr hfreed => exact handedOver_of_freed hfreed
            | inr hlost => exact iff_of_false (not_handedOver_of_lost hlost.1) (not_not_intro hlost.2)
          · rename_i hrequest
            cases h
            refine iff_of_true ⟨gains_refl s, rfl⟩ ?_
            intro horphan
            apply hrequest
            cases horphan.2.2.2 with
            | inl hinvite => exact isRequest_of_isMethod hinvite.1
            | inr hnotify => exact isRequest_of_isMethod hnotify.1

/-- No call, no subscription and no notification. -/
def idle : EXosip := ⟨[], [], [], [], [], 1⟩

theorem handedOver_options :
    ∃ created d,
      exosipProcessNewrequest someEnv idle (requestOf "OPTIONS" "1" []) = .ok (created, d) ∧
      (HandedOver idle d.s created ↔ ¬ Orphans someEnv idle (requestOf "OPTIONS" "1" [])) :=
  ⟨_, _, rfl, handedOver_iff rfl⟩

/-- An INVITE with a tag in its To is answered with 481, and nobody keeps its transaction. -/
theorem not_handedOver :
    ¬ ∀ (env : Env) (s : EXosip) (sip : SipFields) (created : Option Tr) (d : Dispatched),
      exosipProcessNewrequest env s sip = .ok (created, d) → HandedOver s d.s created := by
  intro h
  have hhanded := h someEnv idle (requestOf "INVITE" "1" [⟨"tag".toList, some "h1".toList⟩]) _ _ rfl
  exact not_handedOver_of_lost (d := ⟨idle.withTransaction _, some .null, []⟩)
    ⟨gains_refl _, rfl⟩ hhanded

end Exosip
