import Mathlib
import Exosip.Call.Requests
import Exosip.Machine.Increasing

/-! The CSeq numbers of the requests of a dialog in the order of their creation. -/
namespace Exosip

open CString Machine

namespace InCall

/-- A dialog of a call and the number of the request that was created last in it. -/
structure Numbering where
  jd : InCall
  last : Int
  deriving DecidableEq

/-- What happens in the dialog. For an ACK `origRequest` is the last INVITE, `acknowledged` the
one that the 2xx answers. -/
inductive NumberingInput where
  | request (context : RequestContext) (method : Str)
  | buildPrack (context : RequestContext) (response1xx : SipFields)
  | sendPrack
  | retry (context : RequestContext) (origRequest : SipFields) (initial : Bool)
  | ack (context : RequestContext) (origRequest acknowledged : SipFields)
  | response (sip : SipFields)

inductive NumberingOutput where
  | request (sip : SipFields)
  | ack (sip acknowledged : SipFields)
  deriving DecidableEq

/-- Requests other than ACK and CANCEL. -/
def hasOwnNumber (sip : SipFields) : Bool :=
  sip.cseq.bind Cseq.method != some "ACK".toList && sip.cseq.bind Cseq.method != some "CANCEL".toList

namespace NumberingOutput

def number : NumberingOutput → Option Int
  | request sip => if hasOwnNumber sip then some sip.cseqNumber else none
  | ack _ _ => none

/-- An ACK has the number of the INVITE. -/
def Acknowledges : NumberingOutput → Prop
  | request _ => True
  | ack sip acknowledged =>
      ∀ number, acknowledged.cseq.bind Cseq.number = some number →
        sip.cseq.bind Cseq.number = some number

end NumberingOutput

namespace Numbering

def created (s : Numbering) (jd : InCall) (request : Result SipFields) :
    Numbering × List NumberingOutput :=
  match request with
  | .error _ => ({ s with jd }, [])
  | .ok sip => ({ jd, last := if hasOwnNumber sip then sip.cseqNumber else s.last }, [.request sip])

def step : Step Numbering NumberingInput NumberingOutput := fun s input =>
  match input, s.jd.dDialog with
  | .request context method, some dialog =>
      let built := dialog.buildRequestWithinDialog context method
      s.created (s.jd.setDialog built.2) built.1
  | .buildPrack context response1xx, some _ =>
      s.created s.jd (callBuildPrack context response1xx)
  | .sendPrack, _ => ({ s with jd := s.jd.callSendPrack }, [])
  | .retry context origRequest initial, some _ =>
      let retried := s.jd.callRetryRequest context origRequest initial
      s.created retried.2 retried.1
  | .ack context origRequest acknowledged, some dialog =>
      match callBuildAck context origRequest dialog with
      | .error _ => (s, [])
      | .ok ack => (s, [.ack ack acknowledged])
  | .response sip, _ => ({ s with jd := (s.jd.rcvResponse sip).1 }, [])
  | _, none => (s, [])

/-- The number before that of the request is not below the last one, and is not the largest. -/
def follows (s : Numbering) (n : Int) : Bool :=
  s.last ≤ n && -2147483648 ≤ n && n < 2147483647

/-- The counter of the dialog, the INVITE of a PRACK and the request of a retry are up to date,
and an ACK is for the last INVITE. -/
def upToDate (s : Numbering) (input : NumberingInput) : Bool :=
  match input, s.jd.dDialog with
  | .request _ method, some dialog =>
      method == "ACK".toList || method == "CANCEL".toList || s.follows dialog.localCseq
  | .buildPrack _ response1xx, some _ => s.follows response1xx.cseqNumber
  | .retry _ origRequest _, some _ => !hasOwnNumber origRequest || s.follows origRequest.cseqNumber
  | .ack _ origRequest acknowledged, some _ => origRequest == acknowledged
  | _, _ => true

/-- The numbers of the requests increase, and every ACK has that of its INVITE. -/
def NeverGoesBack (s : Numbering) (inputs : List NumberingInput) : Prop :=
  Increasing last NumberingOutput.number s (run step s inputs).2 ∧
    ∀ o ∈ (run step s inputs).2, o.Acknowledges

/-! ### One step -/

theorem follows_iff {s : Numbering} {n : Int} :
    s.follows n = true ↔ s.last ≤ n ∧ -2147483648 ≤ n ∧ n < 2147483647 := by
  simp [follows, and_assoc]

theorem ascends_created {s : Numbering} {input : NumberingInput} {jd : InCall}
    {request : Result SipFields} (hstep : step s input = s.created jd request)
    (hnumber : ∀ sip, request = .ok sip → hasOwnNumber sip = true → s.last < sip.cseqNumber) :
    Ascends step last NumberingOutput.number s input ∧ ∀ o ∈ (step s input).2, o.Acknowledges := by
  rw [hstep]
  cases request with
  | error e =>
      refine ⟨ascends_of_none ?_ ?_, ?_⟩
      · rw [hstep]
        rfl
      · rw [hstep]
        rfl
      · simp [created]
  | ok sip =>
      refine ⟨?_, by simp [created, NumberingOutput.Acknowledges]⟩
      cases hown : hasOwnNumber sip with
      | true =>
          refine @ascends_of_one _ _ _ _ _ step last NumberingOutput.number s input sip.cseqNumber
            ?_ (hnumber sip rfl hown) ?_
          · rw [hstep]
            simp [created, NumberingOutput.number, hown]
          · rw [hstep]
            simp [created, hown]
      | false =>
          apply ascends_of_none
          · rw [hstep]
            simp [created, NumberingOutput.number, hown]
          · rw [hstep]
            simp [created, hown]

theorem last_lt_cseqNumber {s : Numbering} {sip : SipFields} {method : Option Str} {n : Int}
    (hcseq : sip.cseq = some ⟨method, some (sprintfInt (n + 1))⟩) (hfollows : s.follows n = true) :
    s.last < sip.cseqNumber := by
  obtain ⟨hlast, hlow, hhigh⟩ := follows_iff.1 hfollows
  rw [SipFields.cseqNumber_sprintfInt hcseq (by omega) (by omega)]
  omega

theorem last_lt_built {s : Numbering} {context : RequestContext} {method : Str} {dialog : Dialog}
    {sip : SipFields} (hbuilt : (dialog.buildRequestWithinDialog context method).1 = .ok sip)
    (hack : method ≠ "ACK".toList) (hfollows : s.follows dialog.localCseq = true) :
    s.last < sip.cseqNumber := by
  have hcseq := (Dialog.buildRequestWithinDialog_ok hbuilt).2
  rw [Dialog.countRequest, if_neg hack] at hcseq
  exact last_lt_cseqNumber hcseq hfollows

theorem step_request {s : Numbering} {context : RequestContext} {method : Str} {dialog : Dialog}
    (hdialog : s.jd.dDialog = some dialog) (h : s.upToDate (.request context method) = true) :
    Ascends step last NumberingOutput.number s (.request context method) ∧
      ∀ o ∈ (step s (.request context method)).2, o.Acknowledges := by
  have hstep : step s (.request context method) =
      s.created (s.jd.setDialog (dialog.buildRequestWithinDialog context method).2)
        (dialog.buildRequestWithinDialog context method).1 := by
    simp only [step, hdialog]
  apply ascends_created hstep
  intro sip hsip hown
  simp only [upToDate, hdialog, Bool.or_eq_true, beq_iff_eq] at h
  simp only [hasOwnNumber, (Dialog.buildRequestWithinDialog_ok hsip).2, Option.bind_some,
    Bool.and_eq_true, bne_iff_ne, ne_eq, Option.some.injEq] at hown
  rcases h with (hack | hcancel) | hfollows
  · exact absurd hack hown.1
  · exact absurd hcancel hown.2
  · exact last_lt_built hsip hown.1 hfollows

theorem step_buildPrack {s : Numbering} {context : RequestContext} {response1xx : SipFields}
    {dialog : Dialog} (hdialog : s.jd.dDialog = some dialog)
    (h : s.upToDate (.buildPrack context response1xx) = true) :
    Ascends step last NumberingOutput.number s (.buildPrack context response1xx) ∧
      ∀ o ∈ (step s (.buildPrack context response1xx)).2, o.Acknowledges := by
  have hstep : step s (.buildPrack context response1xx) =
      s.created s.jd (callBuildPrack context response1xx) := by
    simp only [step, hdialog]
  apply ascends_created hstep
  intro sip hsip _
  simp only [upToDate, hdialog] at h
  rw [callBuildPrack, exists_ok_bind] at hsip
  obtain ⟨temporary, hinit, hbuilt⟩ := hsip
  -- the temporary dialog begins with the number of the INVITE
  have hlocal : temporary.localCseq = response1xx.cseqNumber := Dialog.localCseq_initAsUac hinit
  rw [← hlocal] at h
  exact last_lt_built hbuilt (by decide) h

theorem step_retry {s : Numbering} {context : RequestContext} {origRequest : SipFields}
    {initial : Bool} {dialog : Dialog} (hdialog : s.jd.dDialog = some dialog)
    (h : s.upToDate (.retry context origRequest initial) = true) :
    Ascends step last NumberingOutput.number s (.retry context origRequest initial) ∧
      ∀ o ∈ (step s (.retry context origRequest initial)).2, o.Acknowledges := by
  have hstep : step s (.retry context origRequest initial) =
      s.created (s.jd.callRetryRequest context origRequest initial).2
        (s.jd.callRetryRequest context origRequest initial).1 := by
    simp only [step, hdialog]
  apply ascends_created hstep
  intro sip hsip hown
  obtain ⟨cseq, horig, hcseq⟩ := callRetryRequest_ok hsip
  have hsame : hasOwnNumber origRequest = hasOwnNumber sip := by
    simp only [hasOwnNumber, horig, hcseq, Option.bind_some]
  simp only [upToDate, hdialog, hsame, hown, Bool.not_true, Bool.false_or] at h
  exact last_lt_cseqNumber hcseq h

theorem acknowledges_callBuildAck {context : RequestContext} {origRequest ack : SipFields}
    {dialog : Dialog} (h : callBuildAck context origRequest dialog = .ok ack) :
    (NumberingOutput.ack ack origRequest).Acknowledges := by
  intro number hnumber
  rw [callBuildAck, exists_ok_bind] at h
  obtain ⟨built, hbuilt, h⟩ := h
  rw [hnumber] at h
  cases h
  rw [SipFields.withCseqNumber, (Dialog.buildRequestWithinDialog_ok hbuilt).2]
  rfl

theorem step_ack {s : Numbering} {context : RequestContext} {origRequest acknowledged : SipFields}
    {dialog : Dialog} (hdialog : s.jd.dDialog = some dialog)
    (h : s.upToDate (.ack context origRequest acknowledged) = true) :
    Ascends step last NumberingOutput.number s (.ack context origRequest acknowledged) ∧
      ∀ o ∈ (step s (.ack context origRequest acknowledged)).2, o.Acknowledges := by
  simp only [upToDate, hdialog, beq_iff_eq] at h
  rw [← h]
  cases hack : callBuildAck context origRequest dialog with
  | error e =>
      have hstep : step s (.ack context origRequest origRequest) = (s, []) := by
        simp only [step, hdialog, hack]
      exact ⟨ascends_of_none (by rw [hstep]; rfl) (by rw [hstep]), by simp [hstep]⟩
  | ok ack =>
      have hstep : step s (.ack context origRequest origRequest) = (s, [.ack ack origRequest]) := by
        simp only [step, hdialog, hack]
      refine ⟨ascends_of_none (by rw [hstep]; rfl) (by rw [hstep]), ?_⟩
      rw [hstep]
      simpa using acknowledges_callBuildAck hack

theorem step_silent {s : Numbering} {input : NumberingInput} (hout : (step s input).2 = [])
    (hlast : (step s input).1.last = s.last) :
    Ascends step last NumberingOutput.number s input ∧ ∀ o ∈ (step s input).2, o.Acknowledges := by
  refine ⟨ascends_of_none (by rw [hout]; rfl) hlast, ?_⟩
  simp [hout]

theorem step_upToDate {s : Numbering} {input : NumberingInput} (h : s.upToDate input = true) :
    Ascends step last NumberingOutput.number s input ∧ ∀ o ∈ (step s input).2, o.Acknowledges := by
  cases hdialog : s.jd.dDialog with
  | none => cases input <;> exact step_silent (by simp [step, hdialog]) (by simp [step, hdialog])
  | some dialog =>
      cases input with
      | request context method => exact step_request hdialog h
      | buildPrack context response1xx => exact step_buildPrack hdialog h
      | sendPrack => exact step_silent rfl rfl
      | retry context origRequest initial => exact step_retry hdialog h
      | ack context origRequest acknowledged => exact step_ack hdialog h
      | response sip => exact step_silent rfl rfl

/-- In every run whose steps take their numbers from what is up to date, the numbers never go
back. -/
theorem neverGoesBack_of_upToDate {s : Numbering} {inputs : List NumberingInput}
    (h : Guarded step (fun s input => s.upToDate input = true) s inputs) :
    s.NeverGoesBack inputs := by
  constructor
  · exact guarded_increasing (fun s input hinput => (step_upToDate hinput).1) h
  · exact guarded_outputs step (I := fun _ => True)
      (fun s input hinput _ => ⟨trivial, (step_upToDate hinput).2⟩) h trivial

def calling : Numbering := ⟨⟨some Dialog.exchangeUac, 0, 0, 0⟩, 1⟩

def ringing : SipFields := Dialog.receivedAnswer.sip

/-- The 200 of the side that was ringing. -/
def pickedUp : SipFields := { Dialog.receivedAnswer.sip with statusCode := 200 }

def theInvite : SipFields := Dialog.exchangeInvite

theorem neverGoesBack_answered :
    calling.NeverGoesBack [.response pickedUp, .ack plainTexts.context theInvite theInvite,
      .request plainTexts.context "INFO".toList, .request plainTexts.context "BYE".toList] :=
  neverGoesBack_of_upToDate
    ⟨by decide +kernel, by decide +kernel, by decide +kernel, by decide +kernel, trivial⟩

/-- The PRACK and the BYE after it both have the number 2. -/
theorem not_neverGoesBack : ¬ ∀ inputs : List NumberingInput, calling.NeverGoesBack inputs := by
  intro h
  have hback := (h [.buildPrack plainTexts.context ringing, .sendPrack, .response pickedUp,
    .ack plainTexts.context theInvite theInvite, .request plainTexts.context "BYE".toList]).1
  revert hback
  unfold Increasing
  decide +kernel

end Numbering
end InCall
end Exosip
