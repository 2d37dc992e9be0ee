import Exosip.Call.Callbacks
import Exosip.Machine.Steady

/-! What the responses do to a dialog that is established: it stays as it is exactly when
each of them carries the tag of the remote side. -/
namespace Exosip

open CString Machine

namespace InCall

/-- The dialog as it was established. -/
structure Keeps (dialog current : Dialog) : Prop where
  callId : current.callId = dialog.callId
  localTag : current.localTag = dialog.localTag
  remoteTag : current.remoteTag = dialog.remoteTag
  routeSet : current.routeSet = dialog.routeSet
  remoteCseq : dialog.remoteCseq ≤ current.remoteCseq
  state : current.state ≠ .early

def HasKept (dialog : Dialog) (jd : InCall) : Prop :=
  ∃ current, jd.dDialog = some current ∧ Keeps dialog current

/-- Over all the responses the dialog is neither freed nor changed. -/
def StaysEstablished (dialog : Dialog) (jd : InCall) (responses : List SipFields) : Prop :=
  Steady rcvResponse (HasKept dialog) (fun o => o.freed = none) jd responses

/-- A provisional response that `cb_rcv1xx` takes for one that creates a dialog. -/
def provisional (sip : SipFields) : Bool :=
  sip.statusCode < 200 && !sip.testCode 100 &&
    (sip.isResponseFor "INVITE" || sip.isResponseFor "REFER" || sip.isResponseFor "SUBSCRIBE")

def answer (sip : SipFields) : Bool := sip.isStatus2xx && sip.isResponseFor "INVITE"

/-- A response that may replace the dialog has the tag of the remote side, or none if that
has none. -/
def FromRemote (remoteTag : Option Str) (sip : SipFields) : Prop :=
  (provisional sip = true → tagValue sip.toHeader = remoteTag) ∧
    (answer sip = true → sameDialog remoteTag (sip.toHeader.bind osipFromGetTag) = true)

instance (remoteTag : Option Str) (sip : SipFields) : Decidable (FromRemote remoteTag sip) :=
  inferInstanceAs (Decidable (_ ∧ _))

/-! ### One response -/

/-- What happens to the dialog: where it points, and which dialogs were freed. -/
def effect (out : InCall × List CallAction) : Option Dialog × List Dialog :=
  (out.1.dDialog, out.2.filterMap CallAction.freed)

/-- The effect of a step that keeps the dialog. -/
def Kept (dialog : Dialog) (out : Option Dialog × List Dialog) : Prop :=
  (∃ current, out.1 = some current ∧ Keeps dialog current) ∧ out.2 = []

theorem steadily_iff {dialog : Dialog} {jd : InCall} {sip : SipFields} :
    Steadily rcvResponse (HasKept dialog) (fun o => o.freed = none) jd sip ↔
      Kept dialog (effect (jd.rcvResponse sip)) := by
  rw [Kept, effect, List.filterMap_eq_nil_iff]
  exact Iff.rfl

theorem isResponseFor_eq {sip : SipFields} {name other : String}
    (h : sip.isResponseFor name = true) : sip.isResponseFor other = decide (other = name) := by
  unfold SipFields.isResponseFor at h ⊢
  rw [Bool.and_eq_true, beq_iff_eq] at h
  rw [h.1, h.2, Bool.true_and, Bool.eq_iff_iff, beq_iff_eq, decide_eq_true_iff,
    Option.some.injEq, String.toList_inj]
  exact eq_comm

theorem isStatus2xx_iff {sip : SipFields} :
    sip.isStatus2xx = true ↔ 200 ≤ sip.statusCode ∧ sip.statusCode < 300 := by
  rw [SipFields.isStatus2xx, Bool.and_eq_true, decide_eq_true_iff, decide_eq_true_iff]

theorem not_isStatus2xx {sip : SipFields} (h : sip.statusCode < 200 ∨ 300 ≤ sip.statusCode) :
    sip.isStatus2xx = false := by
  rw [Bool.eq_false_iff, ne_eq, isStatus2xx_iff]
  omega

theorem effect_report (jd : InCall) (type : ResponseEventType) :
    effect (jd, [.report type]) = (jd.dDialog, []) := rfl

theorem effect_cbRcv1xx {jd : InCall} {sip : SipFields} (h : sip.statusCode < 200) :
    effect (jd.cbRcv1xx sip) =
      if provisional sip then effect (jd.update1xx sip) else (jd.dDialog, []) := by
  unfold cbRcv1xx provisional
  rw [decide_eq_true h]
  by_cases hinvite : sip.isResponseFor "INVITE" = true
  · simp only [isResponseFor_eq hinvite]
    cases sip.testCode 100 with
    | true => simp [effect_report]
    | false => simp [effect, CallAction.freed]
  · by_cases hrefer : sip.isResponseFor "REFER" = true
    · simp only [isResponseFor_eq hrefer]
      cases sip.testCode 100 with
      | true => simp [effect]
      | false => simp
    · by_cases hsubscribe : sip.isResponseFor "SUBSCRIBE" = true
      · simp only [isResponseFor_eq hsubscribe]
        cases sip.testCode 100 with
        | true => simp [effect]
        | false => simp
      · rw [Bool.not_eq_true] at hinvite hrefer hsubscribe
        simp only [hinvite, hrefer, hsubscribe]
        by_cases hoptions : sip.isResponseFor "OPTIONS" = true
        · simp [hoptions, effect_report]
        · simp [hoptions, effect]

theorem effect_cbRcv2xx {jd : InCall} {sip : SipFields} (h : sip.isStatus2xx = true) :
    effect (jd.cbRcv2xx sip) =
      if answer sip then effect (({ jd with dRetry := 0, cRetry := 0 } : InCall).cbRcv2xx4invite sip)
      else (jd.dDialog, []) := by
  unfold cbRcv2xx answer
  rw [h, Bool.true_and]
  by_cases hinvite : sip.isResponseFor "INVITE" = true
  · simp [isResponseFor_eq hinvite]
  · rw [if_neg hinvite, if_neg hinvite]
    split_ifs
    · rfl
    · rfl
    · rfl

theorem effect_cbRcvFailure {jd : InCall} {sip : SipFields} {dialog : Dialog}
    (hdialog : jd.dDialog = some dialog) (hstate : dialog.state ≠ .early)
    (message call callMessage : ResponseEventType) :
    effect (jd.cbRcvFailure message call callMessage sip) = (some dialog, []) := by
  have hdelete : jd.deleteEarlyDialog = (jd, []) := by
    unfold deleteEarlyDialog
    rw [hdialog]
    exact if_neg hstate
  unfold cbRcvFailure
  rw [hdelete, ← hdialog]
  split_ifs
  · rfl
  · rfl
  · rfl
  · rfl

/-! ### The updates of an established dialog -/

theorem updateContact_frame (dialog : Dialog) (sip : SipFields) :
    ∃ remoteContactUri, (dialog.updateContact sip).2 = { dialog with remoteContactUri } := by
  unfold Dialog.updateContact
  split
  · exact ⟨dialog.remoteContactUri, rfl⟩
  · split
    · exact ⟨none, rfl⟩
    · next copy _ => exact ⟨some copy, rfl⟩

theorem keeps_setState {dialog current : Dialog} (h : Keeps dialog current) :
    Keeps dialog (current.setState .confirmed) :=
  ⟨h.callId, h.localTag, h.remoteTag, h.routeSet, h.remoteCseq, by simp [Dialog.setState]⟩

theorem keeps_updateRouteSetAsUac {dialog current : Dialog} (h : Keeps dialog current)
    (sip : SipFields) : Keeps dialog (current.updateRouteSetAsUac sip).2 := by
  obtain ⟨remoteContactUri, hcontact⟩ := updateContact_frame current sip
  have hcopied : Keeps dialog (current.updateContact sip).2 := by
    rw [hcontact]
    exact ⟨h.callId, h.localTag, h.remoteTag, h.routeSet, h.remoteCseq, h.state⟩
  have hroutes : { (current.updateContact sip).2 with routeSet := current.routeSet } =
      (current.updateContact sip).2 := by rw [hcontact]
  unfold Dialog.updateRouteSetAsUac
  rw [if_neg h.state]
  dsimp only
  rw [hroutes]
  split_ifs
  · exact hcopied
  · exact hcopied
  · exact keeps_setState hcopied
  · exact hcopied

theorem takeTag_eq {dialog : Dialog} (hnone : dialog.remoteTag = none) (sip : SipFields) :
    dialog.takeTag sip = { dialog with remoteTag := tagValue sip.toHeader } := by
  have hself : { dialog with remoteTag := none } = dialog := by rw [← hnone]
  unfold Dialog.takeTag Dialog.updateTagAsUac tagValue
  rw [hnone]
  cases sip.toHeader with
  | none => exact hself.symm
  | some toHeader =>
      rw [Option.bind_some]
      dsimp only
      cases osipFromGetTag toHeader with
      | none => rfl
      | some tag =>
          obtain ⟨gname, gvalue⟩ := tag
          cases gvalue with
          | none => rfl
          | some gvalue => rfl

theorem keeps_takeTag_iff {dialog current : Dialog} (h : Keeps dialog current)
    (hnone : dialog.remoteTag = none) (sip : SipFields) :
    Keeps dialog (current.takeTag sip) ↔ tagValue sip.toHeader = none := by
  rw [takeTag_eq (h.remoteTag.trans hnone)]
  constructor
  · intro hkeeps
    exact hkeeps.remoteTag.trans hnone
  · intro htag
    exact ⟨h.callId, h.localTag, htag.trans hnone.symm, h.routeSet, h.remoteCseq, h.state⟩

theorem kept_update1xx_iff {dialog current : Dialog} {jd : InCall} {sip : SipFields}
    (hdialog : jd.dDialog = some current) (h : Keeps dialog current) :
    Kept dialog (effect (jd.update1xx sip)) ↔ tagValue sip.toHeader = dialog.remoteTag := by
  have hupdated := keeps_updateRouteSetAsUac h sip
  unfold update1xx
  rw [hdialog, ← h.remoteTag]
  dsimp only
  cases htag : current.remoteTag with
  | none =>
      have hnone := h.remoteTag.symm.trans htag
      rw [← keeps_takeTag_iff hupdated hnone]
      simp [Kept, effect, setDialog]
  | some remoteTag =>
      dsimp only
      split_ifs with hsame
      · exact iff_of_true ⟨⟨_, rfl, hupdated⟩, rfl⟩ hsame
      · exact iff_of_false (by simp [Kept, effect, CallAction.freed]) hsame

theorem kept_cbRcv2xx4invite_iff {dialog current : Dialog} {jd : InCall} {sip : SipFields}
    (hdialog : jd.dDialog = some current) (h : Keeps dialog current) :
    Kept dialog (effect (jd.cbRcv2xx4invite sip)) ↔
      sameDialog dialog.remoteTag (sip.toHeader.bind osipFromGetTag) = true := by
  have hupdated := keeps_updateRouteSetAsUac h sip
  unfold cbRcv2xx4invite
  rw [hdialog, ← h.remoteTag]
  dsimp only
  split_ifs with hsame
  · refine iff_of_true ⟨⟨_, rfl, ?_⟩, rfl⟩ hsame
    apply keeps_setState
    split_ifs with hnone
    · rw [Option.isNone_iff_eq_none] at hnone
      have hnone' := hupdated.remoteTag.symm.trans hnone
      apply (keeps_takeTag_iff hupdated hnone' sip).2
      rw [h.remoteTag, hnone'] at hsame
      unfold tagValue
      cases htag : sip.toHeader.bind osipFromGetTag with
      | none => rfl
      | some tag => simp [htag, sameDialog] at hsame
    · exact hupdated
  · exact iff_of_false (by simp [Kept, effect, CallAction.freed]) hsame

theorem steadily_rcvResponse_iff {dialog : Dialog} {jd : InCall} {sip : SipFields}
    (h : HasKept dialog jd) :
    Steadily rcvResponse (HasKept dialog) (fun o => o.freed = none) jd sip ↔
      FromRemote dialog.remoteTag sip := by
  obtain ⟨current, hdialog, hkeeps⟩ := h
  have hself : Kept dialog (jd.dDialog, []) := ⟨⟨current, hdialog, hkeeps⟩, rfl⟩
  rw [steadily_iff, FromRemote]
  by_cases h1xx : sip.statusCode < 200
  · have hanswer : answer sip = false := by
      rw [answer, not_isStatus2xx (Or.inl h1xx), Bool.false_and]
    rw [rcvResponse, if_pos h1xx, effect_cbRcv1xx h1xx, hanswer]
    split_ifs with hprovisional
    · simpa [hprovisional] using kept_update1xx_iff hdialog hkeeps
    · simpa [hprovisional] using hself
  · have hprovisional : provisional sip = false := by simp [provisional, h1xx]
    by_cases h2xx : sip.statusCode < 300
    · have hstatus : sip.isStatus2xx = true := isStatus2xx_iff.2 ⟨by omega, h2xx⟩
      rw [rcvResponse, if_neg h1xx, if_pos h2xx, effect_cbRcv2xx hstatus, hprovisional]
      split_ifs with hanswer
      · have hiff := @kept_cbRcv2xx4invite_iff dialog current
          { jd with dRetry := 0, cRetry := 0 } sip hdialog hkeeps
        simpa [hanswer] using hiff
      · simpa [hanswer] using hself
    · have hanswer : answer sip = false := by
        rw [answer, not_isStatus2xx (Or.inr (not_lt.1 h2xx)), Bool.false_and]
      have hstatus : 300 ≤ sip.statusCode := by omega
      obtain ⟨message, call, callMessage, hfailure⟩ := rcvResponse_failure hstatus jd
      rw [hfailure, effect_cbRcvFailure hdialog hkeeps.state, ← hdialog, hprovisional, hanswer]
      simpa using hself

theorem steady_iff_fromRemote {dialog : Dialog} {jd : InCall} (h : HasKept dialog jd)
    (responses : List SipFields) :
    StaysEstablished dialog jd responses ↔
      ∀ sip ∈ responses, FromRemote dialog.remoteTag sip := by
  apply steady_iff_forall _ h
  intro jd sip hkept
  exact steadily_rcvResponse_iff hkept

theorem hasKept_of_confirmed {dialog : Dialog} {jd : InCall} (hdialog : jd.dDialog = some dialog)
    (hconfirmed : dialog.state = .confirmed) : HasKept dialog jd :=
  ⟨dialog, hdialog, rfl, rfl, rfl, rfl, le_rfl, by simp [hconfirmed]⟩

/-- An established dialog stays as it is over a run of responses exactly when every one of
them that may replace it has the tag of the remote side. -/
theorem staysEstablished_iff {dialog : Dialog} {jd : InCall} (hdialog : jd.dDialog = some dialog)
    (hconfirmed : dialog.state = .confirmed) (responses : List SipFields) :
    StaysEstablished dialog jd responses ↔
      ∀ sip ∈ responses, FromRemote dialog.remoteTag sip :=
  steady_iff_fromRemote (hasKept_of_confirmed hdialog hconfirmed) responses

def answeredDialog : Dialog := { Dialog.exchangeUac with state := .confirmed }

def answered : InCall := ⟨some answeredDialog, 0, 0, 0⟩

/-- A 183 to its re-INVITE, with a tag of the To header or with none. -/
def sessionProgress (tag : String) : SipFields :=
  { Dialog.sentAnswer with statusCode := 183, toHeader := some (Dialog.party "uas" tag) }

theorem staysEstablished_reinvite :
    StaysEstablished answeredDialog answered [sessionProgress "t2", Dialog.receivedOk.sip] :=
  (staysEstablished_iff rfl rfl _).2 (by decide)

/-- The 183 without a tag replaces the dialog by an early one. -/
theorem not_staysEstablished :
    ¬ ∀ (dialog : Dialog) (jd : InCall), jd.dDialog = some dialog → dialog.state = .confirmed →
      ∀ responses, StaysEstablished dialog jd responses := by
  intro h
  have hstays := h answeredDialog answered rfl rfl [sessionProgress ""]
  rw [steady_iff_fromRemote (hasKept_of_confirmed rfl rfl)] at hstays
  revert hstays
  decide

end InCall
end Exosip
