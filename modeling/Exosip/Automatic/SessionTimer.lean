import Exosip.Automatic.Lifetime
import Exosip.Machine.Run
import Exosip.Parser.Setters

/-! The session timer of a call: what a 2xx agrees on, and the passes that refresh the session
with an UPDATE or an INVITE of their own. -/
namespace Exosip

open CString Machine

def SipFields.sessionExpires (sip : SipFields) : Option Header :=
  (sip.headerByname "session-expires".toList).or (sip.headerByname "x".toList)

def osipContentDispositionParse (hvalue : Str) : Except Int CallInfo :=
  elementParse hvalue ((strchr hvalue ';').getD [])

def refresherOf (genParams : List GenericParam) : Int :=
  match GenericParam.getByname genParams "refresher".toList with
  | none => 0
  | some param => if param.gvalue.any (osipStrcasecmp · "uac".toList) then 0 else 1

/-- The part of `cb_rcv2xx_4invite` and of `cb_rcv2xx` about the session timer. A header without
a value has no result: it is scanned from a null pointer. -/
def sessionTimer2xx (now : Int) (origRequest sip : SipFields) (jd : RetryDialog) :
    Option RetryDialog :=
  match origRequest.sessionExpires, sip.sessionExpires with
  | some _, some answer =>
      answer.hvalue.map fun hvalue =>
        match osipContentDispositionParse hvalue with
        | .ok ⟨some element, genParams⟩ =>
            { jd with
              dRefresher := refresherOf genParams
              dSessionTimerStart := now
              dSessionTimerLength := if atoi element ≤ 90 then 90 else atoi element }
        | _ => jd
  | _, _ => some jd

/-- A 2xx that agrees on an interval and makes this side the refresher. -/
structure Agreement where
  time : Int
  origRequest : SipFields
  sip : SipFields
  asked : origRequest.sessionExpires.isSome = true
  element : Str
  genParams : List GenericParam
  answered : (sip.sessionExpires.bind Header.hvalue).map osipContentDispositionParse =
    some (.ok ⟨some element, genParams⟩)
  ours : refresherOf genParams = 0

def Agreement.interval (a : Agreement) : Int := atoi a.element

/-- The interval that is stored: at least 90 seconds. -/
def Agreement.length (a : Agreement) : Int := if a.interval ≤ 90 then 90 else a.interval

/-- A dialog of a call with all transactions that are looked at before a request is sent. -/
structure SessionDialog where
  jd : RetryDialog
  dIncTrs : List SentTr
  cIncTr : Option SentTr
  cOutTr : Option SentTr
  deriving DecidableEq

namespace SessionDialog

/-- The choice that `_eXosip_find_last_invite` and `_eXosip_find_last_transaction` make. -/
def newer (incTr outTr : Option SentTr) : Option SentTr :=
  match incTr, outTr with
  | none, outTr => outTr
  | incTr, none => incTr
  | some inc, some out => if out.birthTime < inc.birthTime then some inc else some out

def isInvite (tr : SentTr) : Bool := tr.origRequest = some "INVITE".toList

/-- `_eXosip_find_last_invite`. -/
def findLastInvite (d : SessionDialog) : Option SentTr :=
  newer ((d.dIncTrs.find? isInvite).or d.cIncTr) ((d.jd.dOutTrs.find? isInvite).or d.cOutTr)

def hasMethod (method : Str) (tr : SentTr) : Bool := tr.origRequest.any (osipStrcasecmp · method)

/-- `_eXosip_find_last_transaction`. -/
def findLastTransaction (d : SessionDialog) (method : Str) : Option SentTr :=
  newer (d.dIncTrs.find? (hasMethod method)) (d.jd.dOutTrs.find? (hasMethod method))

def inviteGoesOn (tr : SentTr) : Bool :=
  tr.state ∉ [State.ictTerminated, .istTerminated, .istConfirmed, .ictCompleted]

def requestGoesOn (tr : SentTr) : Bool :=
  tr.state ∉ [State.nictTerminated, .nistTerminated, .nictCompleted, .nistCompleted]

/-- The request is refused by `eXosip_call_build_request` and `eXosip_call_send_request`. -/
def refuses (d : SessionDialog) (method : Str) : Bool :=
  if osipStrcasecmp method "INVITE".toList then d.findLastInvite.any inviteGoesOn
  else (d.findLastTransaction method).any requestGoesOn

/-- The request that refreshes the session. After it was sent the timer is put at the end of
the next interval. -/
def refresh (now : Int) (builds : Bool) (method : Str) (d : SessionDialog) :
    SessionDialog × List Str :=
  if d.refuses method || !builds then (d, [])
  else
    ({ d with
      jd := { d.jd with
        dOutTrs := Pass.newTr ⟨now, fun _ => true⟩ (some method) :: d.jd.dOutTrs
        dSessionTimerStart := now + d.jd.dSessionTimerLength } }, [method])

/-- What is sent again takes the dialog along when it is the call's own request. -/
def resend (now : Int) (retries : Bool) (d : SessionDialog) : Option SessionDialog :=
  let sent := d.jd.resend callRules ⟨now, fun _ => retries⟩ 0 d.cOutTr
  sent.2.1.map fun jd => { d with jd, cOutTr := sent.1 }

def looksAt (d : SessionDialog) : Option SentTr := d.jd.looksAt callRules d.cOutTr

/-- The body of the loop over the dialogs, with the requests that refresh the session. -/
def automaticAction (now : Int) (builds retries : Bool) (d : SessionDialog) :
    Option SessionDialog × List Str :=
  if !d.jd.dDialog then (some d, [])
  else
    match callDialog now d.jd d.looksAt with
    | .counted =>
        if d.jd.dRetry < 3 then
          ((d.resend now retries).map fun d =>
            { d with jd := { d.jd with dRetry := d.jd.dRetry + 1 } }, [])
        else (some d, [])
    | .uncounted => (d.resend now retries, [])
    | .refresh (some method) =>
        let sent := d.refresh now builds method
        (some sent.1, sent.2)
    | _ => (some d, [])

/-- Everything of the dialog may change but its session timer. -/
def progress (d d' : SessionDialog) : SessionDialog :=
  { d' with
    jd := { d'.jd with
      dRefresher := d.jd.dRefresher
      dSessionTimerStart := d.jd.dSessionTimerStart
      dSessionTimerLength := d.jd.dSessionTimerLength } }

end SessionDialog

/-- A pass, or what else happens in the dialog: requests of either side and answers to them, as
long as none is a 2xx that agrees on an interval. -/
inductive SessionInput where
  | pass (now : Int) (builds retries : Bool)
  | progress (d : SessionDialog)

namespace SessionInput

/-- The passes of the input lie within these times. -/
def Within (since now : Int) : SessionInput → Prop
  | pass time _ _ => since ≤ time ∧ time ≤ now
  | progress _ => True

end SessionInput

namespace SessionDialog

def step : Step (Option SessionDialog) SessionInput Str
  | none, _ => (none, [])
  | some d, .pass now builds retries => d.automaticAction now builds retries
  | some d, .progress d' => (some (d.progress d'), [])

def agreed (a : Agreement) (d : SessionDialog) : SessionDialog :=
  { d with jd := (sessionTimer2xx a.time a.origRequest a.sip d.jd).getD d.jd }

/-- No request of the dialog is waiting for its answer. -/
def NoPending (d : SessionDialog) : Prop :=
  (∀ tr ∈ d.dIncTrs ++ d.jd.dOutTrs,
    (if isInvite tr then inviteGoesOn tr else requestGoesOn tr) = false) ∧
    ∀ tr ∈ d.cIncTr.toList ++ d.cOutTr.toList, inviteGoesOn tr = false

def NoRetry (now : Int) (d : SessionDialog) : Prop :=
  ∀ tr ∈ d.looksAt, callRequest now tr = .nothing

/-- A refresh is due in the second half of the interval. -/
def Due (a : Agreement) (now : Int) (d : SessionDialog) : Prop :=
  d.jd.dDialog = true ∧ a.interval + 2 ≤ 2 * (now - a.time) ∧ now ≤ a.time + a.interval ∧
    d.NoPending ∧ d.NoRetry now

/-- The pass behind the history sends a refresh that is due, and none in the first half of the
interval. -/
def RefreshesInTime (a : Agreement) (d : SessionDialog) (history : List SessionInput) (now : Int)
    (builds retries : Bool) : Prop :=
  ∀ before, (run step (some (d.agreed a)) history).1 = some before →
    (before.Due a now → (before.automaticAction now builds retries).2 ≠ []) ∧
    (2 * (now - a.time) ≤ a.interval → (before.automaticAction now builds retries).2 = [])

/-! ### When the timer asks for a request -/

def refreshMethod (d : SessionDialog) : Str :=
  (if d.jd.dSessionTimerUseUpdate = 1 then "UPDATE" else "INVITE").toList

def SecondHalf (now : Int) (d : SessionDialog) : Prop :=
  now ≤ d.jd.dSessionTimerStart + d.jd.dSessionTimerLength ∧
    d.jd.dSessionTimerStart + d.jd.dSessionTimerLength - now < d.jd.dSessionTimerLength.tdiv 2

variable {d : SessionDialog} {now : Int} {builds retries : Bool}

theorem sessionTimer_of_secondHalf (hours : d.jd.dRefresher = 0) (h : d.SecondHalf now) :
    sessionTimer now d.jd = .refresh (some d.refreshMethod) := by
  have hlate : ¬ 0 < now - (d.jd.dSessionTimerStart + d.jd.dSessionTimerLength) := by
    have := h.1
    omega
  unfold sessionTimer
  rw [if_pos hours, if_neg hlate, if_pos h.2]
  rfl

theorem sessionTimer_of_not_secondHalf (h : ¬ d.SecondHalf now) :
    sessionTimer now d.jd = .nothing := by
  unfold SecondHalf at h
  unfold sessionTimer
  dsimp only
  split_ifs with hours hlate hdue
  · rfl
  · exact absurd ⟨by omega, hdue⟩ h
  · rfl
  · rfl

theorem callDialog_of_noRetry (h : d.NoRetry now) :
    callDialog now d.jd d.looksAt = sessionTimer now d.jd := by
  unfold callDialog
  cases hlooks : d.looksAt with
  | none => rfl
  | some tr =>
      rw [Option.map_some, h tr hlooks]

theorem automaticAction_of_noRetry (hdialog : d.jd.dDialog = true) (hours : d.jd.dRefresher = 0)
    (h : d.NoRetry now) :
    (d.automaticAction now builds retries).2 ≠ [] ↔
      d.SecondHalf now ∧ d.refuses d.refreshMethod = false ∧ builds = true := by
  unfold automaticAction
  rw [hdialog, callDialog_of_noRetry h]
  simp only [Bool.not_true, Bool.false_eq_true, if_false]
  by_cases hhalf : d.SecondHalf now
  · rw [sessionTimer_of_secondHalf hours hhalf]
    unfold refresh
    dsimp only
    cases d.refuses d.refreshMethod with
    | true => simp
    | false =>
        cases builds with
        | true => simp [hhalf]
        | false => simp
  · rw [sessionTimer_of_not_secondHalf hhalf]
    simp [hhalf]

theorem automaticAction_eq_nil (h : ¬ d.SecondHalf now) :
    (d.automaticAction now builds retries).2 = [] := by
  have hnothing := sessionTimer_of_not_secondHalf h
  unfold automaticAction callDialog
  rw [hnothing]
  by_cases hdialog : (!d.jd.dDialog) = true
  · rw [if_pos hdialog]
  · rw [if_neg hdialog]
    cases d.looksAt with
    | none => rfl
    | some tr =>
        rw [Option.map_some]
        cases callRequest now tr with
        | counted =>
            dsimp only
            split_ifs <;> rfl
        | uncounted => rfl
        | nothing => rfl
        | refresh method => rfl
        | proceed step => rfl

/-! ### What is pending -/

theorem newer_any {p : SentTr → Bool} {incTr outTr : Option SentTr}
    (hinc : ∀ tr ∈ incTr, p tr = false) (hout : ∀ tr ∈ outTr, p tr = false) :
    (newer incTr outTr).any p = false := by
  cases incTr with
  | none =>
      cases outTr with
      | none => rfl
      | some out => exact hout out rfl
  | some inc =>
      cases outTr with
      | none => exact hinc inc rfl
      | some out =>
          unfold newer
          dsimp only
          split_ifs
          · exact hinc inc rfl
          · exact hout out rfl

theorem mem_of_find_or {trs : List SentTr} {own : Option SentTr} {tr : SentTr} {p : SentTr → Bool}
    (h : tr ∈ (trs.find? p).or own) : (tr ∈ trs ∧ p tr = true) ∨ tr ∈ own := by
  cases hfind : trs.find? p with
  | none => exact Or.inr (by rwa [hfind, Option.none_or] at h)
  | some found =>
      rw [hfind, Option.some_or, Option.mem_some] at h
      rw [← h]
      exact Or.inl ⟨List.mem_of_find?_eq_some hfind, List.find?_some hfind⟩

theorem refuses_of_noPending (h : d.NoPending) : d.refuses d.refreshMethod = false := by
  obtain ⟨hlists, hown⟩ := h
  have hinvite : ∀ tr ∈ d.dIncTrs ++ d.jd.dOutTrs, isInvite tr = true →
      inviteGoesOn tr = false := by
    intro tr htr hmethod
    have hover := hlists tr htr
    rwa [if_pos hmethod] at hover
  have hother : ∀ tr ∈ d.dIncTrs ++ d.jd.dOutTrs, hasMethod "UPDATE".toList tr = true →
      requestGoesOn tr = false := by
    intro tr htr hmethod
    have hnot : ¬ isInvite tr = true := by
      intro hisInvite
      rw [isInvite, decide_eq_true_eq] at hisInvite
      rw [hasMethod, hisInvite] at hmethod
      revert hmethod
      decide
    have hover := hlists tr htr
    rwa [if_neg hnot] at hover
  unfold refreshMethod refuses
  by_cases hupdate : d.jd.dSessionTimerUseUpdate = 1
  · rw [if_pos hupdate, if_neg (by decide)]
    apply newer_any
    · intro tr htr
      exact hother tr (List.mem_append_left _ (List.mem_of_find?_eq_some htr))
        (List.find?_some htr)
    · intro tr htr
      exact hother tr (List.mem_append_right _ (List.mem_of_find?_eq_some htr))
        (List.find?_some htr)
  · rw [if_neg hupdate, if_pos (by decide)]
    apply newer_any
    · intro tr htr
      obtain ⟨hmem, hmethod⟩ | hmem := mem_of_find_or htr
      · exact hinvite tr (List.mem_append_left _ hmem) hmethod
      · exact hown tr (List.mem_append_left _ (Option.mem_toList.2 hmem))
    · intro tr htr
      obtain ⟨hmem, hmethod⟩ | hmem := mem_of_find_or htr
      · exact hinvite tr (List.mem_append_right _ hmem) hmethod
      · exact hown tr (List.mem_append_right _ (Option.mem_toList.2 hmem))

/-! ### The timer over a history -/

/-- The timer is where the 2xx has put it, or was put one interval further by a refresh. -/
structure Timed (a : Agreement) (d : SessionDialog) : Prop where
  refresher : d.jd.dRefresher = 0
  length : d.jd.dSessionTimerLength = a.length
  start : d.jd.dSessionTimerStart = a.time ∨ a.time + a.length ≤ d.jd.dSessionTimerStart

variable {a : Agreement}

theorem agreed_jd (a : Agreement) (d : SessionDialog) : (d.agreed a).jd = { d.jd with
    dRefresher := refresherOf a.genParams
    dSessionTimerStart := a.time
    dSessionTimerLength := a.length } := by
  obtain ⟨request, hrequest⟩ := Option.isSome_iff_exists.1 a.asked
  obtain ⟨hvalue, hheader, hparse⟩ := Option.map_eq_some_iff.1 a.answered
  obtain ⟨answer, hanswer, hvalue'⟩ := Option.bind_eq_some_iff.1 hheader
  unfold agreed sessionTimer2xx
  rw [hrequest, hanswer]
  dsimp only
  rw [hvalue', Option.map_some, hparse]
  rfl

theorem start_agreed (a : Agreement) (d : SessionDialog) :
    (d.agreed a).jd.dSessionTimerStart = a.time := by
  rw [agreed_jd]

theorem timed_agreed (a : Agreement) (d : SessionDialog) : (d.agreed a).Timed a where
  refresher := by
    rw [agreed_jd]
    exact a.ours
  length := by rw [agreed_jd]
  start := Or.inl (start_agreed a d)

/-- The timer of both is the same. -/
structure SameTimer (d d' : SessionDialog) : Prop where
  refresher : d'.jd.dRefresher = d.jd.dRefresher
  length : d'.jd.dSessionTimerLength = d.jd.dSessionTimerLength
  start : d'.jd.dSessionTimerStart = d.jd.dSessionTimerStart

theorem SameTimer.refl (d : SessionDialog) : SameTimer d d := ⟨rfl, rfl, rfl⟩

theorem sameTimer_resend {d' : SessionDialog} (hd' : d.resend now retries = some d') :
    SameTimer d d' := by
  unfold resend at hd'
  obtain ⟨jd, hjd, rfl⟩ := Option.map_eq_some_iff.1 hd'
  unfold RetryDialog.resend at hjd
  split at hjd
  · split_ifs at hjd
    · cases hjd
      exact ⟨rfl, rfl, rfl⟩
    · cases hjd
      exact ⟨rfl, rfl, rfl⟩
  · split_ifs at hjd with hsends hfrees
    · exact absurd rfl hfrees
    · cases hjd
      exact ⟨rfl, rfl, rfl⟩
  · cases hjd
    exact ⟨rfl, rfl, rfl⟩

/-- A refresh puts the timer one interval further than it should. -/
structure Refreshed (now : Int) (d d' : SessionDialog) : Prop where
  refresher : d'.jd.dRefresher = d.jd.dRefresher
  length : d'.jd.dSessionTimerLength = d.jd.dSessionTimerLength
  start : d'.jd.dSessionTimerStart = now + d.jd.dSessionTimerLength

theorem refresh_cases (method : Str) :
    (d.refresh now builds method).2 = [] ∧ SameTimer d (d.refresh now builds method).1 ∨
      (d.refresh now builds method).2 ≠ [] ∧ Refreshed now d (d.refresh now builds method).1 := by
  unfold refresh
  split_ifs
  · exact Or.inl ⟨rfl, SameTimer.refl d⟩
  · exact Or.inr ⟨List.cons_ne_nil _ _, rfl, rfl, rfl⟩

theorem automaticAction_cases {d' : SessionDialog}
    (hd' : (d.automaticAction now builds retries).1 = some d') :
    (d.automaticAction now builds retries).2 = [] ∧ SameTimer d d' ∨
      (d.automaticAction now builds retries).2 ≠ [] ∧ Refreshed now d d' := by
  unfold automaticAction at hd' ⊢
  by_cases hdialog : (!d.jd.dDialog) = true
  · rw [if_pos hdialog] at hd' ⊢
    cases hd'
    exact Or.inl ⟨rfl, SameTimer.refl d⟩
  rw [if_neg hdialog] at hd' ⊢
  cases hcall : callDialog now d.jd d.looksAt with
  | nothing =>
      rw [hcall] at hd'
      cases hd'
      exact Or.inl ⟨rfl, SameTimer.refl d⟩
  | counted =>
      rw [hcall] at hd'
      dsimp only at hd' ⊢
      split_ifs at hd' ⊢
      · obtain ⟨sent, hsent, rfl⟩ := Option.map_eq_some_iff.1 hd'
        have hsame := sameTimer_resend hsent
        exact Or.inl ⟨rfl, hsame.refresher, hsame.length, hsame.start⟩
      · cases hd'
        exact Or.inl ⟨rfl, SameTimer.refl d⟩
  | uncounted =>
      rw [hcall] at hd'
      exact Or.inl ⟨rfl, sameTimer_resend hd'⟩
  | refresh method =>
      rw [hcall] at hd'
      cases method with
      | none =>
          cases hd'
          exact Or.inl ⟨rfl, SameTimer.refl d⟩
      | some method =>
          cases hd'
          exact refresh_cases method
  | proceed step =>
      rw [hcall] at hd'
      cases hd'
      exact Or.inl ⟨rfl, SameTimer.refl d⟩

theorem step_cases {input : SessionInput} (hwithin : input.Within a.time now) {d' : SessionDialog}
    (hd' : (step (some d) input).1 = some d') :
    (step (some d) input).2 = [] ∧ SameTimer d d' ∨
      (step (some d) input).2 ≠ [] ∧ ∃ time, a.time ≤ time ∧ Refreshed time d d' := by
  cases input with
  | pass time builds retries =>
      exact (automaticAction_cases hd').imp_right fun h => ⟨h.1, time, hwithin.1, h.2⟩
  | progress other =>
      cases hd'
      exact Or.inl ⟨rfl, rfl, rfl, rfl⟩

theorem timed_step (h : d.Timed a) {input : SessionInput} (hwithin : input.Within a.time now)
    {d' : SessionDialog} (hd' : (step (some d) input).1 = some d') : d'.Timed a := by
  obtain ⟨-, hsame⟩ | ⟨-, time, htime, hrefreshed⟩ := step_cases hwithin hd'
  · exact
      { refresher := hsame.refresher.trans h.refresher
        length := hsame.length.trans h.length
        start := by
          rw [hsame.start]
          exact h.start }
  · refine ⟨hrefreshed.refresher.trans h.refresher, hrefreshed.length.trans h.length, Or.inr ?_⟩
    rw [hrefreshed.start, h.length]
    omega

theorem step_none (inputs : List SessionInput) : run step none inputs = (none, []) := by
  induction inputs with
  | nil => rfl
  | cons input inputs ih =>
      rw [run_cons, step, ih]
      rfl

theorem timed_run {history : List SessionInput}
    (hhistory : ∀ input ∈ history, input.Within a.time now) (h : d.Timed a)
    {before : SessionDialog} (hbefore : (run step (some d) history).1 = some before) :
    before.Timed a ∧
      ((run step (some d) history).2 = [] →
        before.jd.dSessionTimerStart = d.jd.dSessionTimerStart) ∧
      ((run step (some d) history).2 ≠ [] →
        a.time + a.length ≤ before.jd.dSessionTimerStart) := by
  induction history generalizing d with
  | nil =>
      cases hbefore
      exact ⟨h, fun _ => rfl, fun hsent => absurd rfl hsent⟩
  | cons input history ih =>
      rw [List.forall_mem_cons] at hhistory
      rw [run_cons] at hbefore ⊢
      dsimp only at hbefore ⊢
      cases hnext : (step (some d) input).1 with
      | none =>
          rw [hnext, step_none] at hbefore
          cases hbefore
      | some d' =>
          rw [hnext] at hbefore
          have htimed := timed_step h hhistory.1 hnext
          obtain ⟨hlast, hquiet, hsent⟩ := ih hhistory.2 htimed hbefore
          refine ⟨hlast, ?_, ?_⟩
          · intro hnone
            rw [List.append_eq_nil_iff] at hnone
            obtain ⟨-, hsame⟩ | ⟨hout, -⟩ := step_cases hhistory.1 hnext
            · exact (hquiet hnone.2).trans hsame.start
            · exact absurd hnone.1 hout
          · intro hout
            by_cases hrest : (run step (some d') history).2 = []
            · obtain ⟨hnone, -⟩ | ⟨-, time, htime, hrefreshed⟩ := step_cases hhistory.1 hnext
              · rw [hnone, hrest] at hout
                exact absurd rfl hout
              · rw [hquiet hrest, hrefreshed.start, h.length]
                omega
            · exact hsent hrest

theorem start_eq_iff {history : List SessionInput}
    (hhistory : ∀ input ∈ history, input.Within a.time now) {before : SessionDialog}
    (hbefore : (run step (some (d.agreed a)) history).1 = some before) :
    before.jd.dSessionTimerStart = a.time ↔ (run step (some (d.agreed a)) history).2 = [] := by
  obtain ⟨-, hquiet, hsent⟩ := timed_run hhistory (timed_agreed a d) hbefore
  have hagreed : (d.agreed a).jd.dSessionTimerStart = a.time := start_agreed a d
  have hpositive : 0 < a.length := by
    unfold Agreement.length
    split_ifs <;> omega
  constructor
  · intro hstart
    by_contra hout
    have := hsent hout
    omega
  · intro hout
    rw [hquiet hout, hagreed]

/-- A refresh that is due is sent exactly when it can be built and the timer still starts at the
2xx, so that no refresh has been sent since then; of an interval below 90 seconds the first 45
are waited for. In the first half nothing is sent. -/
theorem refreshesInTime_iff (a : Agreement) (d : SessionDialog) (history : List SessionInput)
    (now : Int) (builds retries : Bool)
    (hhistory : ∀ input ∈ history, input.Within a.time now) :
    RefreshesInTime a d history now builds retries ↔
      ∀ before, (run step (some (d.agreed a)) history).1 = some before → before.Due a now →
        builds = true ∧ before.jd.dSessionTimerStart = a.time ∧ 90 < 2 * (now - a.time) := by
  unfold RefreshesInTime
  refine forall₂_congr fun before hbefore => ?_
  have htimed := (timed_run hhistory (timed_agreed a d) hbefore).1
  have hlength := htimed.length
  have hstart := htimed.start
  unfold Agreement.length at hlength hstart
  have hhalf : before.SecondHalf now ↔ now ≤ before.jd.dSessionTimerStart +
      before.jd.dSessionTimerLength ∧ before.jd.dSessionTimerStart +
        before.jd.dSessionTimerLength - now < before.jd.dSessionTimerLength.tdiv 2 := Iff.rfl
  have hdiv : before.jd.dSessionTimerLength.tdiv 2 = before.jd.dSessionTimerLength / 2 :=
    Int.tdiv_eq_ediv_of_nonneg (by split_ifs at hlength <;> omega)
  rw [hdiv] at hhalf
  have hfirst : 2 * (now - a.time) ≤ a.interval →
      (before.automaticAction now builds retries).2 = [] := by
    intro hnow
    apply automaticAction_eq_nil
    rw [hhalf]
    split_ifs at hlength hstart <;> omega
  rw [and_iff_left hfirst]
  constructor
  · intro hsends hdue
    have hsent := (automaticAction_of_noRetry hdue.1 htimed.refresher hdue.2.2.2.2).1 (hsends hdue)
    rw [hhalf] at hsent
    obtain ⟨-, hsecond, hlast, -⟩ := hdue
    refine ⟨hsent.2.2, ?_, ?_⟩
    · split_ifs at hlength hstart <;> omega
    · split_ifs at hlength hstart <;> omega
  · intro hcond hdue
    obtain ⟨hbuilds, hat, hlate⟩ := hcond hdue
    rw [ne_eq, ← ne_eq, automaticAction_of_noRetry hdue.1 htimed.refresher hdue.2.2.2.2, hhalf]
    refine ⟨?_, refuses_of_noPending hdue.2.2.2.1, hbuilds⟩
    obtain ⟨-, hsecond, hlast, -⟩ := hdue
    split_ifs at hlength hstart <;> omega

def hundredSeconds : Agreement where
  time := 0
  origRequest := { SipFields.init with
    headers := [⟨some "Session-Expires".toList, some "100".toList⟩] }
  sip := { SipFields.init with
    headers := [⟨some "Session-Expires".toList, some "100;refresher=uac".toList⟩] }
  asked := by decide
  element := "100".toList
  genParams := [⟨"refresher".toList, some "uac".toList⟩]
  answered := by rfl
  ours := by decide

def answeredDialog : SessionDialog where
  jd := ⟨true, 1, 0, [], -1, 0, 0, 1⟩
  dIncTrs := []
  cIncTr := none
  cOutTr := some ⟨.ictTerminated, 0, some "INVITE".toList, some 200⟩

/-- The UPDATE of second 51 is answered with 500. -/
def failedRefresh : List SessionInput :=
  [.pass 51 true true,
    .progress { answeredDialog with
      jd := { answeredDialog.jd with
        dOutTrs := [⟨.nictCompleted, 51, some "UPDATE".toList, some 500⟩] } }]

theorem refreshesInTime_iff_failedRefresh :
    RefreshesInTime hundredSeconds answeredDialog failedRefresh 60 true true ↔
      ∀ before, (run step (some (answeredDialog.agreed hundredSeconds)) failedRefresh).1 =
          some before → before.Due hundredSeconds 60 →
        true = true ∧ before.jd.dSessionTimerStart = hundredSeconds.time ∧
          90 < 2 * (60 - hundredSeconds.time) := by
  apply refreshesInTime_iff hundredSeconds answeredDialog failedRefresh 60 true true
  intro input hinput
  obtain hpass | hprogress := List.mem_pair.1 hinput
  · rw [hpass]
    exact ⟨by decide, by decide⟩
  · rw [hprogress]
    trivial

/-- After a refresh that failed none is sent in the rest of the interval. -/
theorem failedRefresh_not_refreshesInTime :
    ¬ RefreshesInTime hundredSeconds answeredDialog failedRefresh 60 true true := by
  intro h
  obtain ⟨hsends, -⟩ := h _ rfl
  refine hsends ⟨rfl, by decide, by decide, ⟨?_, ?_⟩, ?_⟩ (by decide)
  · decide
  · decide
  · intro tr htr
    cases htr
    decide

end SessionDialog
end Exosip
