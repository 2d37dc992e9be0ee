import Exosip.Automatic.Actions

/-! How many automatic retries there are for one object or dialog between two responses that
report success. -/
namespace Exosip

open CString Machine

namespace RetryObject

/-- A 2xx to a request of the object; for a dialog, one that belongs to the dialog. -/
def Succeeds (owner : Owner) (input : RetryInput) : Prop :=
  match input with
  | .response _ _ jd _ status _ =>
      200 ≤ status ∧ status < 300 ∧ (owner = .object ∨ ∃ index, owner = .dialog index ∧ jd = some index)
  | _ => False

/-- At most three retries for the object, and for each of its dialogs, between two 2xx. -/
def BoundedRetries (rules : RetryRules) (o : RetryObject) (inputs : List RetryInput) : Prop :=
  ∀ owner, SpendsAtMost (step rules) (Succeeds owner) (AutomaticRequest.retries owner) 3 o inputs

/-- A decision that is not a retry without a look at the counter: a refresh comes after a
request that succeeded. -/
def LooksAtCounter (decision : Decision) (tr : Option SentTr) : Prop :=
  match decision with
  | .nothing => True
  | .counted => True
  | .uncounted => False
  | .refresh _ => tr.all SentTr.succeeded = true
  | .proceed _ => tr.all SentTr.succeeded = true

def OwnCounted (rules : RetryRules) (p : Pass) (o : RetryObject) : Prop :=
  ∀ tr, o.outTr = some tr → rules.ownWhen o.dialogs = true →
    LooksAtCounter (rules.own p.now o.info tr) (some tr)

/-- The requests of the dialog are retried with its counter, which is not used for the request
of the object. -/
def DialogCounted (rules : RetryRules) (p : Pass) (info : RetryInfo) (outTr : Option SentTr)
    (jd : RetryDialog) : Prop :=
  jd.dDialog = true → rules.dialogWhen jd = true →
    LooksAtCounter (rules.dialog p.now info jd (jd.looksAt rules outTr)) (jd.looksAt rules outTr) ∧
      (rules.dialog p.now info jd (jd.looksAt rules outTr) = .counted → jd.dOutTrs ≠ [])

/-- What a pass finds is retried with the counters. The dialogs are looked at after the object
itself. -/
def Counted (rules : RetryRules) (o : RetryObject) (input : RetryInput) : Prop :=
  match input with
  | .pass p =>
      o.OwnCounted rules p ∧
        ∀ jd, some jd ∈ (o.ownAction rules p).1.dialogs →
          DialogCounted rules p (o.ownAction rules p).1.info (o.ownAction rules p).1.outTr jd
  | _ => True

/-! ### What is left of the counters -/

def dialogBudget (dialogs : List (Option RetryDialog)) (index : Nat) : Nat :=
  match RetryDialog.find dialogs index with
  | none => 3
  | some none => 0
  | some (some jd) => 3 - jd.dRetry

def budget (owner : Owner) (o : RetryObject) : Nat :=
  match owner with
  | .object => 3 - o.retry
  | .dialog index => dialogBudget o.dialogs index

theorem budget_le (owner : Owner) (o : RetryObject) : budget owner o ≤ 3 := by
  cases owner with
  | object => exact Nat.sub_le 3 o.retry
  | dialog index =>
      unfold budget dialogBudget
      dsimp only
      split <;> omega

theorem countP_sent (owner owner' : Owner) (tr : Option SentTr) :
    [Pass.sent owner' tr].countP (AutomaticRequest.retries owner) =
      if owner' = owner ∧ tr.all SentTr.succeeded = false then 1 else 0 := by
  cases tr with
  | none => simp [Pass.sent, AutomaticRequest.retries]
  | some tr =>
      by_cases howner : owner' = owner
      · cases tr.succeeded <;> simp_all [Pass.sent, AutomaticRequest.retries]
      · simp [Pass.sent, AutomaticRequest.retries, howner]

/-! ### The request of the object itself -/

theorem resend_counted {o : RetryObject} {p : Pass} (owner : Owner) (tr : SentTr) (info : RetryInfo)
    (h : o.retry < 3) :
    (o.resend p tr info).2.countP (AutomaticRequest.retries owner) +
      budget owner { (o.resend p tr info).1 with retry := o.retry + 1 } ≤ budget owner o := by
  unfold resend
  cases owner with
  | object =>
      split_ifs
      · rw [countP_sent]
        simp only [budget]
        split_ifs <;> omega
      · simp only [budget, List.countP_nil]
        omega
  | dialog index =>
      split_ifs
      · rw [countP_sent, if_neg (by simp)]
        simp [budget]
      · simp [budget]

theorem resend_succeeded {o : RetryObject} {p : Pass} (owner : Owner) {tr : SentTr}
    (info : RetryInfo) (h : (some tr).all SentTr.succeeded = true) :
    (o.resend p tr info).2.countP (AutomaticRequest.retries owner) +
      budget owner (o.resend p tr info).1 ≤ budget owner o := by
  unfold resend
  split_ifs
  · rw [countP_sent, if_neg (by simp [h])]
    cases owner <;> simp [budget]
  · simp

theorem ownAction_pays {rules : RetryRules} {p : Pass} {o : RetryObject} (owner : Owner)
    (h : o.OwnCounted rules p) :
    (o.ownAction rules p).2.countP (AutomaticRequest.retries owner) +
      budget owner (o.ownAction rules p).1 ≤ budget owner o := by
  have hnothing : ([] : List AutomaticRequest).countP (AutomaticRequest.retries owner) +
      budget owner o ≤ budget owner o := by simp
  unfold ownAction
  cases htr : o.outTr with
  | none => exact hnothing
  | some tr =>
      dsimp only
      by_cases hwhen : rules.ownWhen o.dialogs = true
      · have hlooks := h tr htr hwhen
        rw [if_pos hwhen]
        cases hdecision : rules.own p.now o.info tr with
        | nothing => exact hnothing
        | counted =>
            dsimp only
            by_cases hcounter : o.retry < 3
            · rw [if_pos hcounter]
              exact resend_counted owner tr o.info hcounter
            · rw [if_neg hcounter]
              exact hnothing
        | uncounted =>
            rw [hdecision] at hlooks
            exact hlooks.elim
        | refresh method =>
            rw [hdecision] at hlooks
            exact resend_succeeded owner o.info hlooks
        | proceed registrationStep =>
            rw [hdecision] at hlooks
            exact resend_succeeded owner _ hlooks
      · rw [if_neg hwhen]
        exact hnothing

/-! ### One dialog -/

/-- What a part of a pass about the dialog may leave: the request of the object, and a
counter that paid for the retries. -/
structure PaysDialog (index : Nat) (outTr : Option SentTr) (jd : RetryDialog)
    (out : Option SentTr × Option RetryDialog × List AutomaticRequest) : Prop where
  kept : out.1 = outTr
  owned : ∀ o ∈ out.2.2, o.owner = .dialog index
  pays : ∃ jd', out.2.1 = some jd' ∧
    out.2.2.countP (AutomaticRequest.retries (.dialog index)) + (3 - jd'.dRetry) ≤ 3 - jd.dRetry

theorem paysDialog_nothing (index : Nat) (outTr : Option SentTr) (jd : RetryDialog) :
    PaysDialog index outTr jd (outTr, some jd, []) :=
  ⟨rfl, by simp, jd, rfl, by simp⟩

theorem refresh_pays {p : Pass} {index : Nat} {outTr tr : Option SentTr} {method : Option Str}
    {jd : RetryDialog} (h : tr.all SentTr.succeeded = true) :
    PaysDialog index outTr jd (jd.refresh p index outTr tr method) := by
  unfold RetryDialog.refresh
  split_ifs
  · refine ⟨rfl, by simp [Pass.sent], _, rfl, ?_⟩
    rw [countP_sent, if_neg (by simp [h])]
    simp
  · exact paysDialog_nothing index outTr jd

theorem retry_pays {rules : RetryRules} {p : Pass} {index : Nat} {outTr : Option SentTr}
    {jd : RetryDialog} (hcounter : jd.dRetry < 3) (hown : jd.dOutTrs ≠ []) :
    PaysDialog index outTr jd
      ((jd.resend rules p index outTr).1,
        (jd.resend rules p index outTr).2.1.map fun jd => { jd with dRetry := jd.dRetry + 1 },
        (jd.resend rules p index outTr).2.2) := by
  unfold RetryDialog.resend
  cases hout : jd.dOutTrs with
  | nil => exact absurd hout hown
  | cons tr dOutTrs =>
      dsimp only
      split_ifs
      · refine ⟨rfl, by simp [Pass.sent], _, rfl, ?_⟩
        rw [countP_sent]
        dsimp only
        split_ifs <;> omega
      · refine ⟨rfl, by simp, _, rfl, ?_⟩
        rw [List.countP_nil]
        dsimp only
        omega

theorem action_pays {rules : RetryRules} {p : Pass} {info : RetryInfo} (index : Nat)
    {outTr : Option SentTr} {jd : RetryDialog} (h : DialogCounted rules p info outTr jd) :
    PaysDialog index outTr jd (jd.action rules p info index outTr) := by
  unfold RetryDialog.action
  by_cases hwhen : (jd.dDialog && rules.dialogWhen jd) = true
  · rw [if_pos hwhen]
    rw [Bool.and_eq_true] at hwhen
    obtain ⟨hlooks, hown⟩ := h hwhen.1 hwhen.2
    cases hdecision : rules.dialog p.now info jd (jd.looksAt rules outTr) with
    | nothing => exact paysDialog_nothing index outTr jd
    | counted =>
        dsimp only
        by_cases hcounter : jd.dRetry < 3
        · rw [if_pos hcounter]
          exact retry_pays hcounter (hown hdecision)
        · rw [if_neg hcounter]
          exact paysDialog_nothing index outTr jd
    | uncounted =>
        rw [hdecision] at hlooks
        exact hlooks.elim
    | refresh method =>
        rw [hdecision] at hlooks
        exact refresh_pays hlooks
    | proceed registrationStep => exact paysDialog_nothing index outTr jd
  · rw [if_neg hwhen]
    exact paysDialog_nothing index outTr jd

/-! ### All dialogs -/

theorem countP_of_owner {outputs : List AutomaticRequest} {owner' : Owner}
    (howned : ∀ o ∈ outputs, o.owner = owner') {owner : Owner} (hne : owner ≠ owner') :
    outputs.countP (AutomaticRequest.retries owner) = 0 := by
  rw [List.countP_eq_zero]
  intro o ho
  simp [AutomaticRequest.retries, howned o ho, Ne.symm hne]

theorem actions_length (rules : RetryRules) (p : Pass) (info : RetryInfo) (outTr : Option SentTr)
    (dialogs : List (Option RetryDialog)) :
    (RetryDialog.actions rules p info outTr dialogs).2.1.length = dialogs.length := by
  induction dialogs generalizing outTr with
  | nil => rfl
  | cons slot dialogs ih =>
      cases slot with
      | none => simp [RetryDialog.actions, ih]
      | some jd => simp [RetryDialog.actions, ih]

theorem dialogBudget_cons {slot : Option RetryDialog} {dialogs : List (Option RetryDialog)}
    {index : Nat} (h : index ≠ dialogs.length) :
    dialogBudget (slot :: dialogs) index = dialogBudget dialogs index := by
  rw [dialogBudget, RetryDialog.find, if_neg h, dialogBudget]

theorem actions_pays {rules : RetryRules} {p : Pass} {info : RetryInfo} {outTr : Option SentTr}
    {dialogs : List (Option RetryDialog)}
    (h : ∀ jd, some jd ∈ dialogs → DialogCounted rules p info outTr jd) :
    (∀ o ∈ (RetryDialog.actions rules p info outTr dialogs).2.2, ∃ index, index < dialogs.length ∧
      o.owner = .dialog index) ∧
    ∀ index, (RetryDialog.actions rules p info outTr dialogs).2.2.countP
        (AutomaticRequest.retries (.dialog index)) +
      dialogBudget (RetryDialog.actions rules p info outTr dialogs).2.1 index ≤
        dialogBudget dialogs index := by
  induction dialogs with
  | nil => simp [RetryDialog.actions]
  | cons slot dialogs ih =>
      obtain ⟨howned, hpays⟩ := ih fun jd hjd => h jd (List.mem_cons_of_mem _ hjd)
      have hlength := actions_length rules p info outTr dialogs
      have hlater : (RetryDialog.actions rules p info outTr dialogs).2.2.countP
          (AutomaticRequest.retries (.dialog dialogs.length)) = 0 := by
        rw [List.countP_eq_zero]
        intro o ho
        obtain ⟨index, hindex, howner⟩ := howned o ho
        simp [AutomaticRequest.retries, howner, hindex.ne]
      cases slot with
      | none =>
          rw [RetryDialog.actions]
          constructor
          · intro o ho
            obtain ⟨index, hindex, howner⟩ := howned o ho
            exact ⟨index, Nat.lt_succ_of_lt hindex, howner⟩
          · intro index
            by_cases hindex : index = dialogs.length
            · rw [hindex, hlater]
              simp [dialogBudget, RetryDialog.find, hlength]
            · rw [dialogBudget_cons (by rw [hlength]; exact hindex), dialogBudget_cons hindex]
              exact hpays index
      | some jd =>
          have hfirst := action_pays dialogs.length (h jd List.mem_cons_self)
          rw [RetryDialog.actions, hfirst.kept]
          constructor
          · intro o ho
            rcases List.mem_append.1 ho with ho | ho
            · exact ⟨dialogs.length, Nat.lt_succ_self _, hfirst.owned o ho⟩
            · obtain ⟨index, hindex, howner⟩ := howned o ho
              exact ⟨index, Nat.lt_succ_of_lt hindex, howner⟩
          · intro index
            rw [List.countP_append]
            by_cases hindex : index = dialogs.length
            · obtain ⟨jd', hjd', hcount⟩ := hfirst.pays
              rw [hindex, hlater, hjd', Nat.add_zero]
              simpa [dialogBudget, RetryDialog.find, hlength] using hcount
            · have hnone := @countP_of_owner _ _ hfirst.owned (.dialog index) (by simp [hindex])
              rw [hnone, Nat.zero_add, dialogBudget_cons (by rw [hlength]; exact hindex),
                dialogBudget_cons hindex]
              exact hpays index

theorem automaticAction_pays {rules : RetryRules} {p : Pass} {o : RetryObject} (owner : Owner)
    (h : Counted rules o (.pass p)) :
    (o.automaticAction rules p).2.countP (AutomaticRequest.retries owner) +
      budget owner (o.automaticAction rules p).1 ≤ budget owner o := by
  have hown := ownAction_pays owner h.1
  obtain ⟨howned, hdialogs⟩ := actions_pays h.2
  unfold automaticAction
  dsimp only
  rw [List.countP_append]
  cases owner with
  | object =>
      have hnone : (RetryDialog.actions rules p (o.ownAction rules p).1.info
          (o.ownAction rules p).1.outTr (o.ownAction rules p).1.dialogs).2.2.countP
            (AutomaticRequest.retries .object) = 0 := by
        rw [List.countP_eq_zero]
        intro request hrequest
        obtain ⟨index, -, howner⟩ := howned request hrequest
        simp [AutomaticRequest.retries, howner]
      rw [hnone]
      exact hown
  | dialog index =>
      have hloop := hdialogs index
      simp only [budget] at hown ⊢
      omega

/-! ### What happens besides -/

theorem length_modify (f : Option RetryDialog → Option RetryDialog) (index : Nat)
    (dialogs : List (Option RetryDialog)) :
    (RetryDialog.modify f index dialogs).length = dialogs.length := by
  induction dialogs with
  | nil => rfl
  | cons slot dialogs ih =>
      rw [RetryDialog.modify]
      split_ifs
      · rfl
      · rw [List.length_cons, ih, List.length_cons]

theorem find_modify (f : Option RetryDialog → Option RetryDialog) (index k : Nat)
    (dialogs : List (Option RetryDialog)) :
    RetryDialog.find (RetryDialog.modify f index dialogs) k =
      if k = index then (RetryDialog.find dialogs k).map f else RetryDialog.find dialogs k := by
  induction dialogs with
  | nil => simp [RetryDialog.modify, RetryDialog.find]
  | cons slot dialogs ih =>
      rw [RetryDialog.modify]
      by_cases hindex : index = dialogs.length
      · rw [if_pos hindex, RetryDialog.find, RetryDialog.find, hindex]
        by_cases hk : k = dialogs.length
        · simp [hk]
        · simp [hk]
      · rw [if_neg hindex, RetryDialog.find, length_modify, ih, RetryDialog.find]
        by_cases hk : k = dialogs.length
        · rw [if_pos hk, if_pos hk, if_neg (by rw [hk]; exact Ne.symm hindex)]
        · rw [if_neg hk, if_neg hk]

theorem find_of_length_le {dialogs : List (Option RetryDialog)} {k : Nat}
    (h : dialogs.length ≤ k) : RetryDialog.find dialogs k = none := by
  induction dialogs with
  | nil => rfl
  | cons slot dialogs ih =>
      rw [List.length_cons] at h
      rw [RetryDialog.find, if_neg (by omega)]
      exact ih (by omega)

theorem dialogBudget_modify {f : RetryDialog → RetryDialog} {index k : Nat}
    (dialogs : List (Option RetryDialog)) (h : k = index → ∀ jd, (f jd).dRetry = jd.dRetry) :
    dialogBudget (RetryDialog.modify (Option.map f) index dialogs) k = dialogBudget dialogs k := by
  unfold dialogBudget
  rw [find_modify]
  split_ifs with hk
  · cases RetryDialog.find dialogs k with
    | none => rfl
    | some slot =>
        cases slot with
        | none => rfl
        | some jd => simp [h hk jd]
  · rfl

theorem budget_modifyDialog {o : RetryObject} {owner : Owner} {index : Nat}
    {f : RetryDialog → RetryDialog}
    (h : owner = .dialog index → ∀ jd, (f jd).dRetry = jd.dRetry) :
    budget owner (o.modifyDialog index f) = budget owner o := by
  cases owner with
  | object => rfl
  | dialog k =>
      apply dialogBudget_modify
      intro hk
      exact h (by rw [hk])

theorem budget_answer (owner owner' : Owner) (o : RetryObject) (position : Nat) (state : State)
    (status : Int) : budget owner (o.answer owner' position state status) = budget owner o := by
  cases owner' with
  | object => cases owner <;> rfl
  | dialog index => exact budget_modifyDialog fun _ _ => rfl

theorem budget_resetRetries {o : RetryObject} {owner : Owner} {jd : Option Nat}
    (hobject : owner ≠ .object) (hdialog : ∀ index, owner = .dialog index → jd ≠ some index) :
    budget owner (o.resetRetries jd) = budget owner o := by
  cases owner with
  | object => exact absurd rfl hobject
  | dialog k =>
      cases jd with
      | none => rfl
      | some index =>
          have hne : k ≠ index := by
            intro heq
            exact hdialog k rfl (by rw [heq])
          exact dialogBudget_modify o.dialogs fun heq => absurd heq hne

theorem budget_addDialog (owner : Owner) (o : RetryObject) (jd : RetryDialog) :
    budget owner { o with dialogs := some { jd with dRetry := 0 } :: o.dialogs } =
      budget owner o := by
  cases owner with
  | object => rfl
  | dialog k =>
      simp only [budget]
      by_cases hk : k = o.dialogs.length
      · simp [dialogBudget, RetryDialog.find, find_of_length_le, hk]
      · exact dialogBudget_cons hk

theorem budget_freeDialog (owner : Owner) (o : RetryObject) (index : Nat) :
    budget owner { o with dialogs := RetryDialog.modify (fun _ => none) index o.dialogs } ≤
      budget owner o := by
  cases owner with
  | object => exact le_rfl
  | dialog k =>
      simp only [budget, dialogBudget]
      rw [find_modify]
      split_ifs
      · cases RetryDialog.find o.dialogs k with
        | none => exact le_rfl
        | some slot => exact Nat.zero_le _
      · exact le_rfl

theorem step_pays {rules : RetryRules} (owner : Owner) {o : RetryObject} {input : RetryInput}
    (h : Counted rules o input) (hnone : ¬ Succeeds owner input) :
    Pays (step rules) (AutomaticRequest.retries owner) (budget owner) o input := by
  cases input with
  | pass p => exact automaticAction_pays owner h
  | response owner' position jd state status method =>
      simp only [Pays, step, List.countP_nil, Nat.zero_add]
      split_ifs with hreset
      · have hothers : owner ≠ .object ∧ ∀ index, owner = .dialog index → jd ≠ some index := by
          constructor
          · intro hobject
            exact hnone ⟨hreset.1, hreset.2.1, .inl hobject⟩
          · intro index howner hjd
            exact hnone ⟨hreset.1, hreset.2.1, .inr ⟨index, howner, hjd⟩⟩
        rw [budget_resetRetries hothers.1 hothers.2, budget_answer]
      · rw [budget_answer]
  | ownRequest tr => cases owner <;> simp [Pays, step, budget]
  | dialogRequest index tr =>
      simp only [Pays, step, List.countP_nil, Nat.zero_add]
      apply le_of_eq
      apply budget_modifyDialog
      intro _ jd
      rfl
  | addDialog jd =>
      simp only [Pays, step, List.countP_nil, Nat.zero_add]
      exact (budget_addDialog owner o jd).le
  | clearDialog index =>
      simp only [Pays, step, List.countP_nil, Nat.zero_add]
      apply le_of_eq
      apply budget_modifyDialog
      intro _ jd
      rfl
  | freeDialog index =>
      simp only [Pays, step, List.countP_nil, Nat.zero_add]
      exact budget_freeDialog owner o index
  | setInfo info => cases owner <;> simp [Pays, step, budget]

/-- In every run in which each pass retries with the counters there are at most three retries
between two 2xx. -/
theorem boundedRetries_of_counted (kind : RetryKind) {o : RetryObject} {inputs : List RetryInput}
    (h : Guarded (step kind.rules) (Counted kind.rules) o inputs) :
    BoundedRetries kind.rules o inputs := by
  intro owner
  apply spendsAtMost_of_pays (budget_le owner) _ h
  intro o input hcounted hnone
  exact step_pays owner hcounted hnone

def answeredBy (status : Int) : RetryObject where
  retry := 0
  outTr := some ⟨.ictCompleted, 0, some "INVITE".toList, some status⟩
  dialogs := []
  info := ⟨0, .none⟩

def passAfter : Pass := ⟨1, fun _ => true⟩

def answerAgain (status : Int) : RetryInput :=
  .response .object 0 none .ictCompleted status "INVITE".toList

theorem boundedRetries_unauthorized :
    BoundedRetries RetryKind.call.rules (answeredBy 401)
      [.pass passAfter, answerAgain 401, .pass passAfter] :=
  boundedRetries_of_counted .call
    ⟨⟨fun tr htr _ => by cases htr; trivial, fun _ hjd => nomatch hjd⟩, trivial,
      ⟨fun tr htr _ => by cases htr; trivial, fun _ hjd => nomatch hjd⟩, trivial⟩

def redirectLoop : List RetryInput :=
  [.pass passAfter, answerAgain 302, .pass passAfter, answerAgain 302, .pass passAfter,
    answerAgain 302, .pass passAfter]

/-- The INVITE is sent again at each pass. -/
theorem not_boundedRetries :
    ¬ ∀ (kind : RetryKind) (o : RetryObject) (inputs : List RetryInput),
      BoundedRetries kind.rules o inputs := by
  intro h
  have hnone : ∀ input ∈ redirectLoop, ¬ Succeeds .object input := by
    simp [redirectLoop, answerAgain, Succeeds]
  have hbounded := h .call (answeredBy 302) redirectLoop .object [] redirectLoop []
    (List.append_nil _).symm hnone
  revert hbounded
  decide +kernel

end RetryObject
end Exosip
