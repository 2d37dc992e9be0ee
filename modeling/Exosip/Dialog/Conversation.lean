import Exosip.Dialog.Matching
import Exosip.Dialog.RouteSet
import Exosip.Parser.UriParts
import Exosip.Stack.NextHop
import Mathlib.Data.List.DropRight

/-! A session between two ends: whatever they do with their dialogs, a request that one of them
creates belongs to the dialog of the other one, and its answers to the dialog it came from. -/
namespace Exosip

open CString Machine

/-! ### The Call-ID -/

/-- The text of a Call-ID is read back as it is. -/
def CallIdReadsBack (text : Str) : Prop :=
  ∃ callId, osipCallIdParse text = .ok callId ∧ osipCallIdToStr callId = .ok text

theorem osipClrspace_idem (s : Str) : osipClrspace (osipClrspace s) = osipClrspace s := by
  have hfront : (osipClrspace s).dropWhile isBlank = osipClrspace s := by
    have hprefix : osipClrspace s <+: s.dropWhile isBlank := List.rdropWhile_prefix _ _
    cases hcase : osipClrspace s with
    | nil => rfl
    | cons c t =>
        rw [hcase] at hprefix
        obtain ⟨rest, hrest⟩ := hprefix
        have hfirst : isBlank c = false := by
          have hdropped := List.dropWhile_idempotent (p := isBlank) s
          rw [← hrest, List.cons_append, List.dropWhile_cons] at hdropped
          cases hblank : isBlank c with
          | false => rfl
          | true =>
              rw [if_pos hblank] at hdropped
              have hlength := congrArg List.length hdropped
              have hle := (List.dropWhile_sublist (p := isBlank) (l := t ++ rest)).length_le
              rw [List.length_cons] at hlength
              omega
        rw [List.dropWhile_cons, hfirst]
        rfl
  rw [osipClrspace, hfront]
  exact List.rdropWhile_idempotent isBlank _

theorem mem_of_mem_osipClrspace {c : Char} {s : Str} (h : c ∈ osipClrspace s) : c ∈ s := by
  have hfront : c ∈ s.dropWhile isBlank := (List.rdropWhile_prefix isBlank _).mem h
  exact (List.dropWhile_suffix isBlank).mem hfront

theorem callIdReadsBack_of_parse {hvalue text number : Str} {callId : CallId}
    (h : osipCallIdParse hvalue = .ok callId) (htext : osipCallIdToStr callId = .ok text)
    (hnumber : callId.number = some number) (hne : number ≠ []) : CallIdReadsBack text := by
  have hpos := List.length_pos_iff.mpr hne
  unfold osipCallIdParse at h
  dsimp only at h
  cases hhost : strchr hvalue '@' with
  | none =>
      rw [hhost, Option.getD_none, Option.map_none] at h
      split at h
      · cases h
      · have hvalueAt : '@' ∉ hvalue := strchr_eq_none_iff.1 hhost
        obtain rfl := Except.ok.inj h
        obtain rfl := Option.some.inj hnumber
        have hall : osipClrncpy hvalue (pointerDiff [] hvalue) = osipClrspace hvalue := by
          rw [osipClrncpy, pointerDiff, List.length_nil, Nat.sub_zero, List.take_length]
        rw [hall] at hpos htext
        obtain rfl : osipClrspace hvalue = text := by simpa [osipCallIdToStr] using htext
        have hnone : strchr (osipClrspace hvalue) '@' = none :=
          strchr_eq_none_iff.2 fun hmem => hvalueAt (mem_of_mem_osipClrspace hmem)
        refine ⟨⟨some (osipClrspace hvalue), none⟩, ?_, by simp [osipCallIdToStr]⟩
        have hlong : ¬ pointerDiff [] (osipClrspace hvalue) + 1 < 2 := by
          rw [pointerDiff, List.length_nil]
          omega
        unfold osipCallIdParse
        dsimp only
        rw [hnone, Option.getD_none, Option.map_none, if_neg hlong, osipClrncpy, pointerDiff,
          List.length_nil, Nat.sub_zero, List.take_length, osipClrspace_idem]
  | some rest =>
      obtain ⟨before, after, rfl, hbefore, rfl⟩ := strchr_eq_some_iff.1 hhost
      rw [hhost, Option.getD_some, Option.map_some] at h
      split at h
      · cases h
      · obtain rfl := Except.ok.inj h
        obtain rfl := Option.some.inj hnumber
        have hfront : osipClrncpy (before ++ '@' :: after)
            (pointerDiff ('@' :: after) (before ++ '@' :: after)) = osipClrspace before := by
          rw [pointerDiff_append, osipClrncpy, List.take_left]
        rw [hfront] at hpos htext
        obtain rfl : osipClrspace before ++ '@' :: osipClrspace after = text := by
          simpa [osipCallIdToStr, osipClrncpy] using htext
        have hnot : '@' ∉ osipClrspace before := fun hmem => hbefore (mem_of_mem_osipClrspace hmem)
        have hsome : strchr (osipClrspace before ++ '@' :: osipClrspace after) '@' =
            some ('@' :: osipClrspace after) :=
          strchr_eq_some_iff.2 ⟨_, _, rfl, hnot, rfl⟩
        refine ⟨⟨some (osipClrspace before), some (osipClrspace after)⟩, ?_,
          by simp [osipCallIdToStr]⟩
        have hlong : ¬ pointerDiff ('@' :: osipClrspace after)
            (osipClrspace before ++ '@' :: osipClrspace after) + 1 < 2 := by
          rw [pointerDiff_append]
          omega
        unfold osipCallIdParse
        dsimp only
        rw [hsome, Option.getD_some, Option.map_some, if_neg hlong, pointerDiff_append,
          osipClrncpy, List.take_left, osipClrspace_idem, List.tail_cons, osipClrncpy,
          List.take_length, osipClrspace_idem]

/-! ### The session -/

/-- What a request in a dialog with this Call-ID gets besides its addresses and its number:
`osip_message_set_call_id`, whose result is not looked at, and other header fields. -/
structure SessionContext (text : Str) extends RequestContext where
  complete_headers : ∀ sip sip', sip.callId = none → complete sip = .ok sip' →
    sip'.fromHeader = sip.fromHeader ∧ sip'.toHeader = sip.toHeader ∧
      sip'.callId = (osipCallIdParse text).toOption

inductive Side
  | caller
  | callee
  deriving DecidableEq, Repr

def Side.other : Side → Side
  | caller => callee
  | callee => caller

/-- The dialogs of the two ends. -/
structure Session where
  caller : Dialog
  callee : Dialog

namespace Session

def dialog (s : Session) : Side → Dialog
  | .caller => s.caller
  | .callee => s.callee

def setDialog (s : Session) (side : Side) (dialog : Dialog) : Session :=
  match side with
  | .caller => { s with caller := dialog }
  | .callee => { s with callee := dialog }

/-- What an end does with its dialog: it creates a request, takes a response, or takes a
request. The messages that it takes may be any. -/
inductive Move (text : Str) where
  | build (context : SessionContext text) (method : Str)
  | response (event : Dialog.UacEvent)
  | request (event : Dialog.UasEvent)

/-- One move of an end; the output is the request, with the end that created it. -/
def step (text : Str) : Step Session (Side × Move text) (Side × SipFields) := fun s move =>
  match move.2 with
  | .build context method =>
      let built := (s.dialog move.1).buildRequestWithinDialog context.toRequestContext method
      (s.setDialog move.1 built.2,
        match built.1 with
        | .ok sip => [(move.1, sip)]
        | .error _ => [])
  | .response event => (s.setDialog move.1 (Dialog.uacStep (s.dialog move.1) event).1, [])
  | .request event => (s.setDialog move.1 (Dialog.uasStep (s.dialog move.1) event).1, [])

end Session

/-! ### What identifies a dialog -/

/-- What a dialog is identified by. -/
structure Identity where
  callId : Str
  localTag : Str
  remoteTag : Str
  localUri : Option From
  remoteUri : Option From

def Identity.mirror (i : Identity) : Identity where
  callId := i.callId
  localTag := i.remoteTag
  remoteTag := i.localTag
  localUri := i.remoteUri
  remoteUri := i.localUri

/-- The dialog has the identity. -/
structure Dialog.Is (dialog : Dialog) (i : Identity) : Prop where
  callId : dialog.callId = some i.callId
  localTag : dialog.localTag = some i.localTag
  remoteTag : dialog.remoteTag = some i.remoteTag
  localUri : dialog.localUri = i.localUri
  remoteUri : dialog.remoteUri = i.remoteUri

namespace Dialog

variable {dialog : Dialog} {i : Identity}

theorem Is.updateContact (h : dialog.Is i) (sip : SipFields) :
    (dialog.updateContact sip).2.Is i := by
  unfold Dialog.updateContact
  split
  · exact h
  · split
    · exact ⟨h.callId, h.localTag, h.remoteTag, h.localUri, h.remoteUri⟩
    · exact ⟨h.callId, h.localTag, h.remoteTag, h.localUri, h.remoteUri⟩

theorem Is.updateRouteSetAsUac (h : dialog.Is i) (response : SipFields) :
    (dialog.updateRouteSetAsUac response).2.Is i := by
  have hcontact := h.updateContact response
  unfold Dialog.updateRouteSetAsUac
  dsimp only
  split
  · exact hcontact
  · generalize (if dialog.state = .early then addRecordRoutes [] response.recordRoutes
      else (osipSuccess, dialog.routeSet)) = routes
    split
    · exact ⟨hcontact.callId, hcontact.localTag, hcontact.remoteTag, hcontact.localUri,
        hcontact.remoteUri⟩
    · cases response.isStatus2xx with
      | true => exact ⟨hcontact.callId, hcontact.localTag, hcontact.remoteTag, hcontact.localUri,
          hcontact.remoteUri⟩
      | false => exact ⟨hcontact.callId, hcontact.localTag, hcontact.remoteTag, hcontact.localUri,
          hcontact.remoteUri⟩

theorem Is.takeTag (h : dialog.Is i) (response : SipFields) : (dialog.takeTag response).Is i := by
  have hkept : dialog.takeTag response = dialog := by
    unfold Dialog.takeTag updateTagAsUac
    cases response.toHeader with
    | none => rfl
    | some toHeader =>
        dsimp only
        rw [h.remoteTag]
        rfl
  rw [hkept]
  exact h

theorem Is.uacStep (h : dialog.Is i) (event : UacEvent) : (uacStep dialog event).1.Is i := by
  cases event with
  | update response => exact h.updateRouteSetAsUac response.sip
  | confirm response _ =>
      have htag := (h.updateRouteSetAsUac response.sip).takeTag response.sip
      exact ⟨htag.callId, htag.localTag, htag.remoteTag, htag.localUri, htag.remoteUri⟩

theorem Is.uasStep (h : dialog.Is i) (event : UasEvent) : (uasStep dialog event).1.Is i := by
  cases event with
  | updateRouteSet invite => exact h.updateContact invite
  | updateCseq invite =>
      unfold Dialog.uasStep updateOsipCseqAsUas
      dsimp only
      split
      · exact h
      · exact ⟨h.callId, h.localTag, h.remoteTag, h.localUri, h.remoteUri⟩
  | setState state => exact ⟨h.callId, h.localTag, h.remoteTag, h.localUri, h.remoteUri⟩

theorem Is.build (h : dialog.Is i) (context : RequestContext) (method : Str) :
    (dialog.buildRequestWithinDialog context method).2.Is i := by
  unfold buildRequestWithinDialog
  split
  · exact h
  · split
    · exact h
    · dsimp only
      unfold countRequest
      split
      · exact h
      · exact ⟨h.callId, h.localTag, h.remoteTag, h.localUri, h.remoteUri⟩

end Dialog

/-- A message between the two ends. -/
structure SipFields.Between (sip : SipFields) (i : Identity) : Prop where
  callId : callIdString sip.callId = .ok i.callId
  fromTag : tagValue sip.fromHeader = some i.localTag
  toTag : tagValue sip.toHeader = some i.remoteTag

theorem Dialog.Is.built {dialog : Dialog} {i : Identity} (h : dialog.Is i)
    (hread : CallIdReadsBack i.callId) (hlocal : tagValue i.localUri = some i.localTag)
    (hremote : tagValue i.remoteUri = some i.remoteTag) {context : SessionContext i.callId}
    {method : Str} {sip : SipFields}
    (hbuilt : (dialog.buildRequestWithinDialog context.toRequestContext method).1 = .ok sip) :
    sip.Between i := by
  unfold buildRequestWithinDialog at hbuilt
  split at hbuilt
  · cases hbuilt
  · split at hbuilt
    · cases hbuilt
    · next request haddressed =>
        obtain ⟨-, rfl⟩ := addressed_eq_ok.1 haddressed
        obtain ⟨hfrom, hto, hid⟩ := context.complete_headers _ _ rfl (returnCode_eq_ok.1 hbuilt)
        obtain ⟨callId, hparse, htext⟩ := hread
        rw [hparse] at hid
        refine ⟨?_, ?_, ?_⟩
        · rw [hid]
          exact htext
        · rw [hfrom]
          exact (congrArg tagValue h.localUri).trans hlocal
        · rw [hto]
          exact (congrArg tagValue h.remoteUri).trans hremote

/-- An answer keeps what identifies its request. -/
structure SipFields.Answers (answer request : SipFields) : Prop where
  callId : answer.callId = request.callId
  fromHeader : answer.fromHeader = request.fromHeader
  toHeader : answer.toHeader = request.toHeader

theorem SipFields.Between.answer {answer request : SipFields} {i : Identity}
    (h : request.Between i) (hanswer : answer.Answers request) : answer.Between i where
  callId := (congrArg callIdString hanswer.callId).trans h.callId
  fromTag := (congrArg tagValue hanswer.fromHeader).trans h.fromTag
  toTag := (congrArg tagValue hanswer.toHeader).trans h.toTag

theorem SipFields.Between.matchesAsUas {sip : SipFields} {i : Identity} (h : sip.Between i)
    {dialog : Dialog} (hdialog : dialog.Is i.mirror) : dialog.matchesAsUas sip = true := by
  rw [Dialog.matchesAsUas_eq h.fromTag h.toTag, Dialog.concerns, Dialog.remoteMatches,
    hdialog.callId, hdialog.localTag, hdialog.remoteTag]
  simp [Identity.mirror, h.callId]

theorem SipFields.Between.matchesAsUac {sip : SipFields} {i : Identity} (h : sip.Between i)
    {dialog : Dialog} (hdialog : dialog.Is i) : dialog.matchesAsUac sip = true := by
  rw [Dialog.matchesAsUac_eq h.fromTag h.toTag, Dialog.concerns, Dialog.remoteMatches,
    hdialog.callId, hdialog.localTag, hdialog.remoteTag]
  simp [h.callId]

/-! ### The runs -/

/-- The ends have the identity of the caller and that of the callee. -/
structure Session.Is (s : Session) (i : Identity) : Prop where
  caller : s.caller.Is i
  callee : s.callee.Is i.mirror

def Identity.of (i : Identity) : Side → Identity
  | .caller => i
  | .callee => i.mirror

theorem Identity.of_other (i : Identity) (side : Side) : i.of side.other = (i.of side).mirror := by
  cases side with
  | caller => rfl
  | callee => rfl

theorem Session.Is.dialog {s : Session} {i : Identity} (h : s.Is i) (side : Side) :
    (s.dialog side).Is (i.of side) := by
  cases side with
  | caller => exact h.caller
  | callee => exact h.callee

theorem Session.Is.setDialog {s : Session} {i : Identity} (h : s.Is i) {side : Side}
    {dialog : Dialog} (hdialog : dialog.Is (i.of side)) : (s.setDialog side dialog).Is i := by
  cases side with
  | caller => exact ⟨hdialog, h.callee⟩
  | callee => exact ⟨h.caller, hdialog⟩

theorem Session.Is.step {s : Session} {i : Identity} (h : s.Is i)
    (move : Side × Session.Move i.callId) : (Session.step i.callId s move).1.Is i := by
  obtain ⟨side, action⟩ := move
  cases action with
  | build context method => exact h.setDialog ((h.dialog side).build _ method)
  | response event => exact h.setDialog ((h.dialog side).uacStep event)
  | request event => exact h.setDialog ((h.dialog side).uasStep event)

theorem Session.Is.sent {s : Session} {i : Identity} (h : s.Is i) (hread : CallIdReadsBack i.callId)
    (hlocal : tagValue i.localUri = some i.localTag)
    (hremote : tagValue i.remoteUri = some i.remoteTag)
    (move : Side × Session.Move i.callId) {p : Side × SipFields}
    (hp : p ∈ (Session.step i.callId s move).2) : p.2.Between (i.of p.1) := by
  obtain ⟨side, action⟩ := move
  cases action with
  | build context method =>
      unfold Session.step at hp
      dsimp only at hp
      split at hp
      · next sip hbuilt =>
          rw [List.mem_singleton] at hp
          subst hp
          cases side with
          | caller => exact h.caller.built hread hlocal hremote hbuilt
          | callee => exact h.callee.built (i := i.mirror) hread hremote hlocal hbuilt
      · cases hp
  | response event => cases hp
  | request event => cases hp

theorem Session.Is.run {s : Session} {i : Identity} (h : s.Is i) (hread : CallIdReadsBack i.callId)
    (hlocal : tagValue i.localUri = some i.localTag)
    (hremote : tagValue i.remoteUri = some i.remoteTag)
    (moves : List (Side × Session.Move i.callId)) :
    (Machine.run (Session.step i.callId) s moves).1.Is i ∧
      ∀ p ∈ (Machine.run (Session.step i.callId) s moves).2, p.2.Between (i.of p.1) := by
  induction moves generalizing s with
  | nil => exact ⟨h, fun p hp => by cases hp⟩
  | cons move moves ih =>
      have hrest := ih (h.step move)
      refine ⟨hrest.1, ?_⟩
      intro p hp
      rw [run_cons, List.mem_append] at hp
      cases hp with
      | inl hp => exact h.sent hread hlocal hremote move hp
      | inr hp => exact hrest.2 p hp

/-- The two ends of an exchange: whatever they do with their dialogs afterwards, every request
that one of them has created belongs to the dialog of the other one, and every answer to it to
the dialog of the one that created it. -/
theorem session_keeps_together {context : ResponseContext} {status : Int}
    {invite sent received : SipFields} {uas uac : Dialog}
    (hanswer : Dialog.answerAndInit context status invite = .ok (sent, uas))
    (hsame : Dialog.SameAnswer sent received) (hinit : (Dialog.initAsUac received).result = .ok uac)
    (htags : sent.CarriesTags) {text : Str} (hcallId : callIdString sent.callId = .ok text)
    (hread : CallIdReadsBack text) (moves : List (Side × Session.Move text)) :
    ∀ p ∈ (run (Session.step text) ⟨uac, uas⟩ moves).2,
      ((run (Session.step text) ⟨uac, uas⟩ moves).1.dialog p.1.other).matchesAsUas p.2 = true ∧
        ∀ answer : SipFields, answer.Answers p.2 →
          ((run (Session.step text) ⟨uac, uas⟩ moves).1.dialog p.1).matchesAsUac answer = true := by
  obtain ⟨fromTag, hfromTag⟩ := Option.isSome_iff_exists.1 htags.1
  obtain ⟨toTag, htoTag⟩ := Option.isSome_iff_exists.1 htags.2
  have huas := (Dialog.answerAndInit_spec hanswer).2
  have huac := Dialog.created_of_init hinit
  obtain ⟨callId, hid, huasId⟩ := huas.callId
  obtain ⟨callId', hid', huacId⟩ := huac.callId
  rw [hcallId] at hid
  rw [hsame.callId, hcallId] at hid'
  obtain rfl := Except.ok.inj hid
  obtain rfl := Except.ok.inj hid'
  have hstart : Session.Is ⟨uac, uas⟩ ⟨text, fromTag, toTag, sent.fromHeader, sent.toHeader⟩ := by
    refine ⟨⟨huacId, ?_, ?_, ?_, ?_⟩, ⟨huasId, ?_, ?_, ?_, ?_⟩⟩
    · rw [huac.localTag, hsame.fromHeader]
      exact hfromTag
    · rw [huac.remoteTag, hsame.toHeader]
      exact htoTag
    · rw [huac.localUri, hsame.fromHeader]
    · rw [huac.remoteUri, hsame.toHeader]
    · rw [huas.localTag]
      exact htoTag
    · rw [huas.remoteTag]
      exact hfromTag
    · exact huas.localUri
    · exact huas.remoteUri
  have hrun := hstart.run hread hfromTag htoTag moves
  intro p hp
  have hbetween := hrun.2 p hp
  refine ⟨?_, ?_⟩
  · have hother := hrun.1.dialog p.1.other
    rw [Identity.of_other] at hother
    exact hbetween.matchesAsUas hother
  · intro answer hanswered
    exact (hbetween.answer hanswered).matchesAsUac (hrun.1.dialog p.1)

theorem complete_headers {texts : RequestTexts} (sip sip' : SipFields) (hnone : sip.callId = none)
    (h : texts.complete sip = .ok sip') :
    sip'.fromHeader = sip.fromHeader ∧ sip'.toHeader = sip.toHeader ∧
      sip'.callId = (osipCallIdParse texts.callId).toOption :=
  have hsame := RequestTexts.sameRequest_complete h
  ⟨hsame.fromHeader, hsame.toHeader, RequestTexts.complete_callId h hnone⟩

/-- The requests as the stack completes them. -/
def RequestTexts.session (texts : RequestTexts) : SessionContext texts.callId :=
  { texts.context with complete_headers := complete_headers }

def infoRun : Session × List (Side × SipFields) :=
  run (Session.step "c1".toList) ⟨Dialog.exchangeUac, Dialog.exchangeUas⟩
    [(.caller, .build plainTexts.session "INFO".toList), (.callee, .request (.setState .confirmed))]

theorem session_keeps_together_info :
    ∃ request, infoRun.2 = [(.caller, request)] ∧ infoRun.1.callee.matchesAsUas request = true ∧
      infoRun.1.caller.matchesAsUac request = true := by
  have htags : Dialog.sentAnswer.CarriesTags := ⟨by decide, by decide⟩
  have hread : CallIdReadsBack "c1".toList :=
    @callIdReadsBack_of_parse "c1".toList _ _ ⟨some "c1".toList, none⟩ (by decide) (by decide) rfl
      (by decide)
  have hsame : Dialog.SameAnswer Dialog.sentAnswer Dialog.receivedAnswer.sip :=
    ⟨rfl, rfl, rfl, rfl⟩
  obtain ⟨request, hrequest⟩ : ∃ request, infoRun.2 = [(.caller, request)] := ⟨_, rfl⟩
  have hmem : (Side.caller, request) ∈ infoRun.2 := by
    rw [hrequest]
    exact List.mem_singleton_self _
  have hkept := session_keeps_together Dialog.exchangeUas_init hsame Dialog.exchangeUac_init htags
    (by decide) hread _ _ hmem
  exact ⟨request, hrequest, hkept.1, hkept.2 request ⟨rfl, rfl, rfl⟩⟩

end Exosip
