import Exosip.Dialog.Matching
import Exosip.Dialog.Request
import Exosip.Dialog.Response
import Exosip.Machine.Run
import Exosip.Parser.Complete

/-! The route set of a dialog over all messages that it is given. -/
namespace Exosip

open CString Machine

/-- A message whose Record-Routes and Contacts can be cloned. -/
structure DialogMessage where
  sip : SipFields
  recordRoutes : ∀ rr ∈ sip.recordRoutes, rr.complete = true
  contacts : ∀ contact ∈ sip.contacts, contact.complete = true

def DialogMessage.ofParse {parsers : MessageParsers} (hparsers : SipMessage.Completes parsers)
    {buf : Str} {sip : SipMessage} (h : SipMessage.parse parsers buf = .ok sip) : DialogMessage where
  sip := sip.fields
  recordRoutes := (SipMessage.addresses_parse hparsers h).recordRoutes
  contacts := (SipMessage.addresses_parse hparsers h).contacts

namespace Dialog

/-! ### As a UAC -/

/-- What a UAC does with a response in the dialog: `osip_dialog_update_route_set_as_uac`, or the
confirmation of the dialog by a 2xx, which also takes the tag when there is none yet. -/
inductive UacEvent where
  | update (response : DialogMessage)
  | confirm (response : DialogMessage) (status : response.sip.isStatus2xx = true)

def UacEvent.response : UacEvent → DialogMessage
  | update response => response
  | confirm response _ => response

/-- `osip_dialog_update_tag_as_uac`, the result of which is not looked at. -/
def takeTag (dialog : Dialog) (response : SipFields) : Dialog :=
  match (dialog.updateTagAsUac response).result with
  | .ok dialog => dialog
  | .error _ => dialog

/-- One response; the output is the code that `osip_dialog_update_route_set_as_uac` returns. -/
def uacStep : Step Dialog UacEvent Int := fun dialog event =>
  match event with
  | .update response =>
      let updated := dialog.updateRouteSetAsUac response.sip
      (updated.2, [updated.1])
  | .confirm response _ =>
      let updated := dialog.updateRouteSetAsUac response.sip
      ((updated.2.takeTag response.sip).setState .confirmed, [updated.1])

def latestUntil2xx : DialogMessage → List DialogMessage → DialogMessage
  | response, [] => response
  | response, next :: responses =>
      if response.sip.isStatus2xx then response else latestUntil2xx next responses

/-- The dialog has the route set of the response and is confirmed when that is a 2xx. -/
structure RoutesOf (response : DialogMessage) (dialog : Dialog) : Prop where
  routeSet : dialog.routeSet = response.sip.recordRoutes.reverse
  state : dialog.state = if response.sip.isStatus2xx then .confirmed else .early

theorem updateContact_eq (dialog : Dialog) (message : DialogMessage) :
    dialog.updateContact message.sip =
      (osipSuccess, { dialog with
        remoteContactUri :=
          match message.sip.contacts.head? with
          | none => dialog.remoteContactUri
          | some contact => some contact }) := by
  unfold updateContact
  cases hcontact : message.sip.contacts.head? with
  | none => rfl
  | some contact =>
      have hclone := (copies_fromClone contact contact).2
        ⟨message.contacts contact (List.mem_of_mem_head? hcontact), rfl⟩
      dsimp only
      rw [hclone]

theorem addRecordRoutes_eq {routeSet recordRoutes : List RecordRoute}
    (h : ∀ rr ∈ recordRoutes, rr.complete = true) :
    addRecordRoutes routeSet recordRoutes = (osipSuccess, recordRoutes.reverse ++ routeSet) := by
  induction recordRoutes generalizing routeSet with
  | nil => rfl
  | cons rr recordRoutes ih =>
      have hclone := (copies_fromClone rr rr).2 ⟨h rr List.mem_cons_self, rfl⟩
      rw [addRecordRoutes, hclone]
      dsimp only
      rw [ih fun rr hrr => h rr (List.mem_cons_of_mem _ hrr), List.reverse_cons, List.append_assoc]
      rfl

theorem updateRouteSetAsUac_spec (dialog : Dialog) (response : DialogMessage) :
    (dialog.updateRouteSetAsUac response.sip).1 = osipSuccess ∧
      (dialog.updateRouteSetAsUac response.sip).2.routeSet =
        (if dialog.state = .early then response.sip.recordRoutes.reverse else dialog.routeSet) ∧
      (dialog.updateRouteSetAsUac response.sip).2.state =
        if response.sip.isStatus2xx then .confirmed else dialog.state := by
  unfold updateRouteSetAsUac
  rw [updateContact_eq, addRecordRoutes_eq response.recordRoutes, List.append_nil]
  by_cases hstate : dialog.state = .early
  · cases response.sip.isStatus2xx with
    | true => simp [hstate, setState]
    | false => simp [hstate]
  · cases response.sip.isStatus2xx with
    | true => simp [hstate, setState]
    | false => simp [hstate]

theorem updateTagAsUac_frame {dialog dialog' : Dialog} {response : SipFields}
    (h : (dialog.updateTagAsUac response).result = .ok dialog') :
    ∃ remoteTag, dialog' = { dialog with remoteTag } := by
  unfold updateTagAsUac at h
  split at h
  · cases h
  · split at h
    · cases h
    · split at h
      · next gvalue _ =>
          cases h
          exact ⟨some gvalue, rfl⟩
      · cases h
        exact ⟨none, rfl⟩

theorem takeTag_frame (dialog : Dialog) (response : SipFields) :
    ∃ remoteTag, dialog.takeTag response = { dialog with remoteTag } := by
  unfold takeTag
  split
  · next hresult => exact updateTagAsUac_frame hresult
  · exact ⟨dialog.remoteTag, rfl⟩

theorem routesOf_step {response : DialogMessage} {dialog : Dialog} (h : RoutesOf response dialog)
    (event : UacEvent) :
    RoutesOf (if response.sip.isStatus2xx then response else event.response)
      (uacStep dialog event).1 := by
  have hspec := updateRouteSetAsUac_spec dialog event.response
  have hstate := h.state
  cases event with
  | update next =>
      cases h2xx : response.sip.isStatus2xx with
      | true =>
          rw [h2xx] at hstate
          constructor
          · simpa [uacStep, UacEvent.response, hstate, h.routeSet] using hspec.2.1
          · simpa [uacStep, UacEvent.response, hstate, h2xx] using hspec.2.2
      | false =>
          rw [h2xx] at hstate
          constructor
          · simpa [uacStep, UacEvent.response, hstate] using hspec.2.1
          · simpa [uacStep, UacEvent.response, hstate] using hspec.2.2
  | confirm next status =>
      obtain ⟨remoteTag, hframe⟩ := takeTag_frame (dialog.updateRouteSetAsUac next.sip).2 next.sip
      cases h2xx : response.sip.isStatus2xx with
      | true =>
          rw [h2xx] at hstate
          constructor
          · simpa [uacStep, setState, UacEvent.response, hstate, h.routeSet, hframe] using hspec.2.1
          · simp [uacStep, setState, h2xx]
      | false =>
          rw [h2xx] at hstate
          constructor
          · simpa [uacStep, setState, UacEvent.response, hstate, hframe] using hspec.2.1
          · simp [uacStep, setState, UacEvent.response, status]

theorem latestUntil2xx_of_2xx {response : DialogMessage} (h : response.sip.isStatus2xx = true)
    (responses : List DialogMessage) : latestUntil2xx response responses = response := by
  cases responses with
  | nil => rfl
  | cons next responses => rw [latestUntil2xx, if_pos h]

theorem routesOf_run {response : DialogMessage} {dialog : Dialog} (h : RoutesOf response dialog)
    (events : List UacEvent) :
    RoutesOf (latestUntil2xx response (events.map UacEvent.response)) (run uacStep dialog events).1 := by
  induction events generalizing response dialog with
  | nil => exact h
  | cons event events ih =>
      have hnext := ih (routesOf_step h event)
      rw [List.map_cons, latestUntil2xx, run_cons]
      by_cases h2xx : response.sip.isStatus2xx = true
      · rw [if_pos h2xx, latestUntil2xx_of_2xx h2xx] at hnext
        rw [if_pos h2xx]
        exact hnext
      · rw [if_neg h2xx] at hnext
        rw [if_neg h2xx]
        exact hnext

/-! ### Creation -/

/-- What the creation of a dialog takes from the messages, when it succeeds. -/
structure Created (invite : Option SipFields) (response : SipFields)
    (localHeader remoteHeader : Option From) (dialog : Dialog) : Prop where
  routeSet : dialog.routeSet = routeSetOf invite response.recordRoutes
  state : dialog.state = if response.isStatus2xx then .confirmed else .early
  callId : ∃ callId, callIdString response.callId = .ok callId ∧ dialog.callId = some callId
  localTag : dialog.localTag = tagValue localHeader
  remoteTag : dialog.remoteTag = tagValue remoteHeader
  localUri : dialog.localUri = localHeader
  remoteUri : dialog.remoteUri = remoteHeader

theorem strdupTag_result (tag : Option GenericParam) :
    (strdupTag tag).result = .ok (tag.bind GenericParam.gvalue) := by
  cases tag with
  | none => rfl
  | some tag => rfl

theorem created_of_init {invite : Option SipFields} {response remoteMsg : SipFields}
    {localHeader remoteHeader : Option From} {type : DialogType} {remoteCseq : Int} {dialog : Dialog}
    (h : (init invite response localHeader remoteHeader remoteMsg type remoteCseq).result =
      .ok dialog) : Created invite response localHeader remoteHeader dialog := by
  unfold init at h
  split at h
  · next cseq localUri remoteUri _ =>
      rw [Traced.result_bind, exists_ok_bind] at h
      obtain ⟨callId, hcallId, h⟩ := h
      cases htag : osipFromGetTag localUri with
      | none =>
          rw [htag] at h
          cases h
      | some tag =>
          simp only [htag, Traced.result_bind, exists_ok_bind, StrCalls.ofCode, Traced.result_lift,
            returnCode_eq_ok, strdupTag_result, osipListClone_eq_ok copies_fromClone,
            osipStrdup_result, copies_fromClone _ _, Traced.result_pure, Except.ok.injEq] at h
          obtain ⟨_, rfl, _, rfl, lineParam, _, _, ⟨_, rfl⟩, _, ⟨_, rfl⟩, _, ⟨_, rfl⟩, contact, _, rfl⟩ := h
          constructor
          · rfl
          · rfl
          · exact ⟨callId, returnCode_eq_ok.1 hcallId, rfl⟩
          · rw [tagValue, Option.bind_some, htag, Option.bind_some]
          · rfl
          · rfl
          · rfl
  · cases h

theorem created_initAsUas {invite response : SipFields} {dialog : Dialog}
    (h : (initAsUas invite response).result = .ok dialog) :
    Created (some invite) response response.toHeader response.fromHeader dialog := by
  unfold initAsUas at h
  split at h
  · cases h
  · exact created_of_init h

/-! ### As a UAS -/

/-- What a UAS does with its dialog later on. -/
inductive UasEvent where
  | updateRouteSet (invite : SipFields)
  | updateCseq (invite : SipFields)
  | setState (state : DialogState)

def uasStep : Step Dialog UasEvent Int := fun dialog event =>
  match event with
  | .updateRouteSet invite =>
      let updated := dialog.updateRouteSetAsUas invite
      (updated.2, [updated.1])
  | .updateCseq invite =>
      let updated := dialog.updateOsipCseqAsUas invite
      (updated.2, [updated.1])
  | .setState state => (dialog.setState state, [])

theorem uasStep_routeSet (dialog : Dialog) (event : UasEvent) :
    (uasStep dialog event).1.routeSet = dialog.routeSet := by
  cases event with
  | updateRouteSet invite =>
      unfold uasStep updateRouteSetAsUas updateContact
      dsimp only
      split
      · rfl
      · split
        · rfl
        · rfl
  | updateCseq invite =>
      unfold uasStep updateOsipCseqAsUas
      dsimp only
      split
      · rfl
      · rfl
  | setState state => rfl

theorem uasRun_routeSet (dialog : Dialog) (events : List UasEvent) :
    (run uasStep dialog events).1.routeSet = dialog.routeSet :=
  run_invariant uasStep (I := fun d => d.routeSet = dialog.routeSet)
    (fun d event h => (uasStep_routeSet d event).trans h) events rfl

def answerAndInit (context : ResponseContext) (status : Int) (invite : SipFields) :
    Result (SipFields × Dialog) := do
  let answer ← SipFields.returnCode (SipFields.buildResponseDefault context none status invite)
  let response ← SipFields.returnCode (SipFields.copyRecordRoutes answer invite)
  let dialog ← (initAsUas invite response).result
  .ok (response, dialog)

theorem answerAndInit_spec {context : ResponseContext} {status : Int} {invite response : SipFields}
    {dialog : Dialog} (h : answerAndInit context status invite = .ok (response, dialog)) :
    response.recordRoutes = invite.recordRoutes ∧
      Created (some invite) response response.toHeader response.fromHeader dialog := by
  unfold answerAndInit at h
  simp only [exists_ok_bind, returnCode_eq_ok, Except.ok.injEq, Prod.mk.injEq] at h
  obtain ⟨answer, hanswer, _, hcopy, _, hinit, rfl, rfl⟩ := h
  refine ⟨?_, created_initAsUas hinit⟩
  rw [SipFields.copyRecordRoutes_recordRoutes hcopy, SipFields.buildResponseDefault_recordRoutes hanswer,
    List.nil_append]

/-! ### Both ends -/

/-- One response at its sender and at its receiver. -/
structure SameAnswer (sent received : SipFields) : Prop where
  callId : received.callId = sent.callId
  fromHeader : received.fromHeader = sent.fromHeader
  toHeader : received.toHeader = sent.toHeader
  recordRoutes : received.recordRoutes = sent.recordRoutes

/-- The dialogs of the two ends see each other. -/
structure Mirrored (uac uas : Dialog) : Prop where
  routeSet : uac.routeSet = uas.routeSet.reverse
  callId : uac.callId = uas.callId
  localTag : uac.localTag = uas.remoteTag
  remoteTag : uac.remoteTag = uas.localTag
  localUri : uac.localUri = uas.remoteUri
  remoteUri : uac.remoteUri = uas.localUri

theorem mirrored_of_created {invite sent received : SipFields} {uac uas : Dialog}
    (hsame : SameAnswer sent received)
    (huas : Created (some invite) sent sent.toHeader sent.fromHeader uas)
    (huac : Created none received received.fromHeader received.toHeader uac) : Mirrored uac uas := by
  obtain ⟨callId, hcallId, huasId⟩ := huas.callId
  obtain ⟨callId', hcallId', huacId⟩ := huac.callId
  rw [hsame.callId, hcallId] at hcallId'
  constructor
  · rw [huac.routeSet, huas.routeSet, hsame.recordRoutes]
    rfl
  · rw [huacId, huasId, Except.ok.inj hcallId']
  · rw [huac.localTag, huas.remoteTag, hsame.fromHeader]
  · rw [huac.remoteTag, huas.localTag, hsame.toHeader]
  · rw [huac.localUri, huas.remoteUri, hsame.fromHeader]
  · rw [huac.remoteUri, huas.localUri, hsame.toHeader]

/-- The route set of a UAC over all responses, that of a UAS over all requests, and the two
of one exchange. -/
theorem routeSets_of_messages :
    (∀ (first : DialogMessage) (events : List UacEvent) (dialog : Dialog),
      (initAsUac first.sip).result = .ok dialog →
        (run uacStep dialog events).1.routeSet =
          (latestUntil2xx first (events.map UacEvent.response)).sip.recordRoutes.reverse) ∧
    (∀ (context : ResponseContext) (status : Int) (invite response : SipFields) (dialog : Dialog),
      answerAndInit context status invite = .ok (response, dialog) →
        ∀ events : List UasEvent,
          (run uasStep dialog events).1.routeSet = invite.recordRoutes) ∧
    ∀ (context : ResponseContext) (status : Int) (invite sent received : SipFields)
      (uas uac : Dialog),
      answerAndInit context status invite = .ok (sent, uas) → SameAnswer sent received →
        (initAsUac received).result = .ok uac → Mirrored uac uas := by
  refine ⟨?_, ?_, ?_⟩
  · intro first events dialog hinit
    have hcreated := created_of_init hinit
    exact (routesOf_run ⟨hcreated.routeSet, hcreated.state⟩ events).routeSet
  · intro context status invite response dialog hanswer events
    obtain ⟨hroutes, hcreated⟩ := answerAndInit_spec hanswer
    rw [uasRun_routeSet, hcreated.routeSet, hroutes]
    rfl
  · intro context status invite sent received uas uac hanswer hsame hinit
    exact mirrored_of_created hsame (answerAndInit_spec hanswer).2 (created_of_init hinit)

def party (host tag : String) : From :=
  { nameAddr host [] with genParams := if tag = "" then [] else [⟨"tag".toList, some tag.toList⟩] }

def exchangeInvite : SipFields :=
  { newRequest "INVITE".toList with
    reqUri := some (sipUri "uas" [])
    callId := some ⟨some "c1".toList, none⟩
    cseq := some ⟨some "INVITE".toList, some "1".toList⟩
    fromHeader := some (party "uac" "t1")
    toHeader := some (party "uas" "")
    recordRoutes := [nameAddr "p2" [], nameAddr "p1" []] }

def exchangeContext : ResponseContext := ⟨fun _ => some "Ringing".toList, "t2".toList, "ua".toList⟩

def sentAnswer : SipFields :=
  { SipFields.init with
    sipVersion := some "SIP/2.0".toList
    statusCode := 180
    reasonPhrase := some "Ringing".toList
    callId := some ⟨some "c1".toList, none⟩
    cseq := some ⟨some "INVITE".toList, some "1".toList⟩
    fromHeader := some (party "uac" "t1")
    toHeader := some (party "uas" "t2")
    recordRoutes := [nameAddr "p2" [], nameAddr "p1" []]
    headers := [⟨some "User-Agent".toList, some "ua".toList⟩] }

/-- The answer when it arrives, and the 200 after it, which came over another proxy. -/
def receivedAnswer : DialogMessage where
  sip := { sentAnswer with contacts := [nameAddr "uas" []] }
  recordRoutes := by decide
  contacts := by decide

def receivedOk : DialogMessage where
  sip := { sentAnswer with statusCode := 200, recordRoutes := [nameAddr "p3" []] }
  recordRoutes := by decide
  contacts := by decide

def exchangeUas : Dialog where
  callId := some "c1".toList
  localTag := some "t2".toList
  remoteTag := some "t1".toList
  lineParam := none
  routeSet := [nameAddr "p2" [], nameAddr "p1" []]
  localCseq := 1
  remoteCseq := 1
  remoteUri := some (party "uac" "t1")
  localUri := some (party "uas" "t2")
  remoteContactUri := none
  secure := -1
  type := .callee
  state := .early

def exchangeUac : Dialog where
  callId := some "c1".toList
  localTag := some "t1".toList
  remoteTag := some "t2".toList
  lineParam := none
  routeSet := [nameAddr "p1" [], nameAddr "p2" []]
  localCseq := 1
  remoteCseq := -1
  remoteUri := some (party "uas" "t2")
  localUri := some (party "uac" "t1")
  remoteContactUri := some (nameAddr "uas" [])
  secure := -1
  type := .caller
  state := .early

theorem exchangeUac_init : (initAsUac receivedAnswer.sip).result = .ok exchangeUac := by
  decide +kernel

theorem exchangeUas_init :
    answerAndInit exchangeContext 180 exchangeInvite = .ok (sentAnswer, exchangeUas) := by
  decide +kernel

theorem routeSets_of_exchange :
    (run uacStep exchangeUac [.update receivedOk, .update receivedAnswer]).1.routeSet =
        [nameAddr "p3" []] ∧
      (run uasStep exchangeUas [.setState .confirmed]).1.routeSet = exchangeInvite.recordRoutes ∧
      Mirrored exchangeUac exchangeUas :=
  ⟨routeSets_of_messages.1 receivedAnswer [.update receivedOk, .update receivedAnswer] exchangeUac
      exchangeUac_init,
    routeSets_of_messages.2.1 exchangeContext 180 exchangeInvite sentAnswer exchangeUas
      exchangeUas_init [.setState .confirmed],
    routeSets_of_messages.2.2 exchangeContext 180 exchangeInvite sentAnswer receivedAnswer.sip
      exchangeUas exchangeUac exchangeUas_init ⟨rfl, rfl, rfl, rfl⟩ exchangeUac_init⟩

end Dialog
end Exosip
