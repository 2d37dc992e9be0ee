import Exosip.Call.Callbacks
import Exosip.Parser.Setters

/-! The requests that are created in a dialog of a call, and the CSeq number that each of them
gets. -/
namespace Exosip

open CString Machine

abbrev osipNoNetwork : Int := -10

/-- `sprintf` with `%i`. -/
def sprintfInt (n : Int) : Str :=
  if n < 0 then '-' :: Nat.toDigits 10 n.natAbs else Nat.toDigits 10 n.natAbs

namespace SipFields

def withCseqNumber (sip : SipFields) (number : Str) : SipFields :=
  { sip with cseq := sip.cseq.map fun cseq => { cseq with number := some number } }

end SipFields

/-- What the creation of a request takes from its surroundings. `complete` adds what comes
after the number (Via, Contact, credentials), `redirect` is what a retry does before it; both
leave the CSeq as it is. -/
structure RequestContext where
  enabled : Bool
  complete : SipFields → Except Int SipFields
  redirect : SipFields → Except Int SipFields
  complete_cseq : ∀ sip sip', complete sip = .ok sip' → sip'.cseq = sip.cseq
  redirect_cseq : ∀ sip sip', redirect sip = .ok sip' → sip'.cseq = sip.cseq

/-! ### The other header fields -/

/-- The texts of the stack that are in a request of a dialog. -/
structure RequestTexts where
  callId : Str
  transport : Str
  useRport : Bool
  branch : Nat
  contact : Str
  userAgent : Str

namespace RequestTexts

/-- The Via has placeholders, which the transport layer replaces. -/
def via (texts : RequestTexts) : Str :=
  ("SIP/2.0/".toList ++ texts.transport ++ " 999.999.999.999:99999".toList ++
    (if texts.useRport then ";rport".toList else []) ++ ";branch=z9hG4bK".toList ++
    Nat.toDigits 10 texts.branch).take 199

/-- `_eXosip_request_add_via`. -/
def addVia (texts : RequestTexts) (request : SipMessage) : Except Int SipMessage :=
  if request.fields.callId.isNone then .error osipSyntaxerror
  else .ok (request.setVia (some texts.via)).2

def parsers : HeaderParsers :=
  { (default : HeaderParsers) with fromParse := osipFromParse osipUriParse }

def addContact (texts : RequestTexts) (request : SipMessage) : SipMessage :=
  if request.fields.sipMethod ∈ [some "BYE".toList, some "CANCEL".toList] then request
  else (request.setContact parsers (some texts.contact)).2

def addAccept (request : SipMessage) : SipMessage :=
  if request.fields.sipMethod = some "OPTIONS".toList then
    (request.setAccept (some "application/sdp".toList)).2
  else request

/-- The request before its Via. -/
def identified (texts : RequestTexts) (sip : SipFields) : SipMessage :=
  (((SipMessage.init.withFields sip).setCallId (some texts.callId)).2.setHeader
    (some "70".toList) (some "Max-Forwards".toList)).2

/-- What `_eXosip_build_request_within_dialog` sets besides the addresses and the CSeq. Only the
Via may fail. -/
def complete (texts : RequestTexts) (sip : SipFields) : Except Int SipFields := do
  let request ← texts.addVia (texts.identified sip)
  let request := addAccept (texts.addContact request)
  .ok (request.setHeader (some texts.userAgent) (some "User-Agent".toList)).2.fields

end RequestTexts

/-- The fields that a setter of another header leaves as they are. -/
structure SipFields.SameRequest (sip sip' : SipFields) : Prop where
  cseq : sip'.cseq = sip.cseq
  fromHeader : sip'.fromHeader = sip.fromHeader
  toHeader : sip'.toHeader = sip.toHeader
  reqUri : sip'.reqUri = sip.reqUri
  routes : sip'.routes = sip.routes
  statusCode : sip'.statusCode = sip.statusCode

namespace RequestTexts

open SipFields

variable {texts : RequestTexts} {sip sip' sip'' : SipFields}

theorem sameRequest_refl (sip : SipFields) : sip.SameRequest sip := ⟨rfl, rfl, rfl, rfl, rfl, rfl⟩

theorem sameRequest_trans (h : sip.SameRequest sip') (h' : sip'.SameRequest sip'') :
    sip.SameRequest sip'' :=
  ⟨h'.cseq.trans h.cseq, h'.fromHeader.trans h.fromHeader, h'.toHeader.trans h.toHeader,
    h'.reqUri.trans h.reqUri, h'.routes.trans h.routes, h'.statusCode.trans h.statusCode⟩

theorem sameRequest_setList {α : Type} {request : SipMessage} {hvalue : Option Str}
    {parse : Str → Except Int α} {add : α → SipFields}
    (hadd : ∀ header, request.fields.SameRequest (add header)) :
    request.fields.SameRequest (SipMessage.setList request hvalue parse add).2.fields := by
  unfold SipMessage.setList
  split
  · exact sameRequest_refl _
  · split
    · exact sameRequest_refl _
    · exact hadd _

theorem sameRequest_setCallId (request : SipMessage) (hvalue : Option Str) :
    request.fields.SameRequest (request.setCallId hvalue).2.fields := by
  unfold SipMessage.setCallId SipMessage.setSimple
  split
  · exact sameRequest_refl _
  · split
    · exact sameRequest_refl _
    · split
      · exact sameRequest_refl _
      · exact ⟨rfl, rfl, rfl, rfl, rfl, rfl⟩

theorem sameRequest_setHeader (request : SipMessage) (hvalue : Option Str) (hname : Str) :
    request.fields.SameRequest (request.setHeader hvalue (some hname)).2.fields :=
  ⟨rfl, rfl, rfl, rfl, rfl, rfl⟩

theorem callId_setCallId {request : SipMessage} {text : Str} (hnone : request.fields.callId = none)
    (hsome : (request.setCallId (some text)).2.fields.callId.isSome = true) :
    (request.setCallId (some text)).2.fields.callId = (osipCallIdParse text).toOption := by
  unfold SipMessage.setCallId SipMessage.setSimple at *
  rw [Option.getD_some] at *
  by_cases htext : text = []
  · rw [if_pos htext, hnone] at hsome
    cases hsome
  · rw [if_neg htext, hnone, Option.isSome_none, if_neg Bool.false_ne_true]
    cases osipCallIdParse text with
    | error e => exact hnone
    | ok callId => rfl

theorem vias_setCallId (request : SipMessage) (hvalue : Option Str) :
    (request.setCallId hvalue).2.fields.vias = request.fields.vias := by
  unfold SipMessage.setCallId SipMessage.setSimple
  split
  · rfl
  · split
    · rfl
    · split <;> rfl

theorem callId_setVia (request : SipMessage) (hvalue : Option Str) :
    (request.setVia hvalue).2.fields.callId = request.fields.callId := by
  unfold SipMessage.setVia SipMessage.setList
  split
  · rfl
  · split <;> rfl

theorem sameRequest_addContact (request : SipMessage) :
    request.fields.SameRequest (texts.addContact request).fields := by
  unfold addContact
  split
  · exact sameRequest_refl _
  · exact sameRequest_setList fun _ => ⟨rfl, rfl, rfl, rfl, rfl, rfl⟩

theorem sameRequest_addAccept (request : SipMessage) :
    request.fields.SameRequest (addAccept request).fields := by
  unfold addAccept SipMessage.setAccept
  split
  · split
    · exact sameRequest_refl _
    · exact ⟨rfl, rfl, rfl, rfl, rfl, rfl⟩
  · exact sameRequest_refl _

theorem addContact_others (request : SipMessage) :
    (texts.addContact request).fields.vias = request.fields.vias ∧
      (texts.addContact request).fields.callId = request.fields.callId := by
  unfold addContact SipMessage.setContact SipMessage.setList
  split
  · exact ⟨rfl, rfl⟩
  · split
    · exact ⟨rfl, rfl⟩
    · split <;> exact ⟨rfl, rfl⟩

theorem addAccept_others (request : SipMessage) :
    (addAccept request).fields.vias = request.fields.vias ∧
      (addAccept request).fields.callId = request.fields.callId := by
  unfold addAccept SipMessage.setAccept
  split
  · split <;> exact ⟨rfl, rfl⟩
  · exact ⟨rfl, rfl⟩

theorem complete_eq_ok (h : texts.complete sip = .ok sip') :
    (texts.identified sip).fields.callId.isSome = true ∧
      ((addAccept (texts.addContact ((texts.identified sip).setVia (some texts.via)).2)).setHeader
        (some texts.userAgent) (some "User-Agent".toList)).2.fields = sip' := by
  unfold complete addVia at h
  cases hid : (texts.identified sip).fields.callId with
  | none =>
      rw [hid] at h
      cases h
  | some callId =>
      rw [hid] at h
      exact ⟨rfl, Except.ok.inj h⟩

theorem sameRequest_complete (h : texts.complete sip = .ok sip') : sip.SameRequest sip' := by
  obtain ⟨-, rfl⟩ := complete_eq_ok h
  have hid : sip.SameRequest (texts.identified sip).fields :=
    sameRequest_trans (sameRequest_setCallId (SipMessage.init.withFields sip) (some texts.callId))
      (sameRequest_setHeader _ _ _)
  have hvia : (texts.identified sip).fields.SameRequest
      ((texts.identified sip).setVia (some texts.via)).2.fields :=
    sameRequest_setList fun _ => ⟨rfl, rfl, rfl, rfl, rfl, rfl⟩
  have hrest := sameRequest_trans
    (@sameRequest_addContact texts ((texts.identified sip).setVia (some texts.via)).2)
    (sameRequest_addAccept _)
  have hlast := sameRequest_trans hrest
    (sameRequest_setHeader _ (some texts.userAgent) "User-Agent".toList)
  exact sameRequest_trans hid (sameRequest_trans hvia hlast)

/-- The Call-ID is the one of the dialog where there is none yet. -/
theorem complete_callId (h : texts.complete sip = .ok sip') (hnone : sip.callId = none) :
    sip'.callId = (osipCallIdParse texts.callId).toOption := by
  obtain ⟨hsome, rfl⟩ := complete_eq_ok h
  have hset : (texts.identified sip).fields.callId =
      (osipCallIdParse texts.callId).toOption :=
    @callId_setCallId (SipMessage.init.withFields sip) texts.callId hnone hsome
  have hlast : (addAccept (texts.addContact
      ((texts.identified sip).setVia (some texts.via)).2)).fields.callId =
      (texts.identified sip).fields.callId :=
    (addAccept_others _).2.trans ((addContact_others _).2.trans (callId_setVia _ _))
  exact hlast.trans hset

/-- A Via that can be parsed is behind those that are there. -/
theorem complete_vias {via : Via} (h : texts.complete sip = .ok sip')
    (hparse : osipViaParse texts.via = .ok via) (hlong : texts.via ≠ []) :
    sip'.vias = sip.vias ++ [via] := by
  obtain ⟨-, rfl⟩ := complete_eq_ok h
  have hid : (texts.identified sip).fields.vias = sip.vias :=
    vias_setCallId (SipMessage.init.withFields sip) (some texts.callId)
  have hvia : ((texts.identified sip).setVia (some texts.via)).2.fields.vias =
      (texts.identified sip).fields.vias ++ [via] := by
    unfold SipMessage.setVia SipMessage.setList
    rw [Option.getD_some, if_neg hlong, hparse]
    rfl
  have hlast : (addAccept (texts.addContact
      ((texts.identified sip).setVia (some texts.via)).2)).fields.vias =
      (texts.identified sip).fields.vias ++ [via] :=
    (addAccept_others _).1.trans ((addContact_others _).1.trans hvia)
  rw [← hid]
  exact hlast

theorem ok_cseq : ∀ sip sip' : SipFields, (Except.ok sip : Except Int SipFields) = .ok sip' →
    sip'.cseq = sip.cseq := by
  intro sip sip' h
  cases h
  rfl

/-- A retry that is not redirected. -/
def context (texts : RequestTexts) : RequestContext where
  enabled := true
  complete := texts.complete
  redirect := .ok
  complete_cseq _ _ h := (sameRequest_complete h).cseq
  redirect_cseq := ok_cseq

end RequestTexts

def plainTexts : RequestTexts where
  callId := "c1".toList
  transport := "UDP".toList
  useRport := true
  branch := 1
  contact := "<sip:a@a.com>".toList
  userAgent := "eXosip".toList

namespace Dialog

/-- The request with its request-URI and its routes. -/
def targeted (dialog : Dialog) (method : Str) (contact : Contact) : Result SipFields :=
  if dialog.routeSet = [] then do
    let reqUri ← SipFields.returnCode (uriCloneOf contact.url)
    .ok { newRequest method with reqUri := some reqUri }
  else dialog.fillRouteSet (newRequest method)

/-- The part of `_eXosip_build_request_within_dialog` before the CSeq. -/
def addressed (dialog : Dialog) (method : Str) : Result SipFields :=
  match dialog.remoteContactUri with
  | none => .error (.code osipSyntaxerror)
  | some contact => do
      let request ← dialog.targeted method contact
      let toHeader ← SipFields.returnCode (fromCloneOf dialog.remoteUri)
      let fromHeader ← SipFields.returnCode (fromCloneOf dialog.localUri)
      .ok { request with toHeader := some toHeader, fromHeader := some fromHeader }

/-- The dialog gives out the next number; an ACK takes the one that was given out last. -/
def countRequest (dialog : Dialog) (method : Str) : Dialog :=
  if method = "ACK".toList then dialog else { dialog with localCseq := dialog.localCseq + 1 }

/-- `_eXosip_build_request_within_dialog`. The number is used up also when the rest fails. -/
def buildRequestWithinDialog (context : RequestContext) (method : Str) (dialog : Dialog) :
    Result SipFields × Dialog :=
  if context.enabled = false then (.error (.code osipNoNetwork), dialog)
  else
    match dialog.addressed method with
    | .error e => (.error e, dialog)
    | .ok request =>
        let dialog := dialog.countRequest method
        let cseq : Cseq := ⟨some method, some (sprintfInt dialog.localCseq)⟩
        (SipFields.returnCode (context.complete { request with cseq := some cseq }), dialog)

end Dialog

namespace InCall

/-- The dialog in `eXosip_call_build_prack` is a temporary one. -/
def callBuildPrack (context : RequestContext) (response1xx : SipFields) : Result SipFields := do
  let dialog ← (Dialog.initAsUac response1xx).result
  (dialog.buildRequestWithinDialog context "PRACK".toList).1

/-- `eXosip_call_send_prack`. -/
def callSendPrack (jd : InCall) : InCall :=
  if jd.dDialog.isSome then { jd with dMincseq := jd.dMincseq + 1 } else jd

/-- `eXosip_call_build_ack` for the transaction of the last INVITE. -/
def callBuildAck (context : RequestContext) (origRequest : SipFields) (dialog : Dialog) :
    Result SipFields := do
  let ack ← (dialog.buildRequestWithinDialog context "ACK".toList).1
  match origRequest.cseq.bind Cseq.number with
  | none => .ok ack
  | some number => .ok (ack.withCseqNumber number)

/-- `jd->d_dialog->local_cseq++`, where there is a dialog. -/
def countRetry (jd : InCall) : InCall :=
  { jd with dDialog := jd.dDialog.map fun dialog => { dialog with localCseq := dialog.localCseq + 1 } }

/-- `_eXosip_call_retry_request` for a request of the dialog; with `initial` it is that of the
call itself, and the dialog is freed when it is sent again. -/
def callRetryRequest (context : RequestContext) (origRequest : SipFields) (initial : Bool)
    (jd : InCall) : Result SipFields × InCall :=
  match origRequest.vias.head?, origRequest.cseq.bind Cseq.number with
  | some _, some number =>
      match context.redirect origRequest with
      | .error e => (.error (.code e), jd)
      | .ok msg =>
          match context.complete (msg.withCseqNumber (sprintfInt (atoi number + 1))) with
          | .error e => (.error (.code e), jd.countRetry)
          | .ok msg =>
              (.ok msg, if initial then { jd with dDialog := none } else jd.countRetry)
  | _, _ => (.error (.code osipSyntaxerror), jd)

end InCall

/-! ### The numbers -/

theorem atoi_sprintfInt {n : Int} (hlow : -2147483648 ≤ n) (hhigh : n < 2147483648) :
    atoi (sprintfInt n) = n := by
  have hrange : toInt32 n = n := toInt32_of_range ⟨hlow, hhigh⟩
  rw [atoi, sprintfInt]
  by_cases hneg : n < 0
  · have hstr : strtol ('-' :: Nat.toDigits 10 n.natAbs) = n := by
      have hskip : ('-' :: Nat.toDigits 10 n.natAbs).dropWhile isSpace =
          '-' :: Nat.toDigits 10 n.natAbs := rfl
      rw [strtol, hskip]
      change max (-(decimal (Nat.toDigits 10 n.natAbs) : Int)) (-longMax - 1) = n
      rw [decimal_toDigits]
      unfold longMax
      omega
    rw [if_pos hneg, hstr, hrange]
  · have hlong : (n.natAbs : Int) ≤ longMax := by unfold longMax; omega
    rw [if_neg hneg, strtol_toDigits hlong, Int.natAbs_of_nonneg (not_lt.1 hneg), hrange]

namespace SipFields

theorem cseqNumber_sprintfInt {sip : SipFields} {method : Option Str} {n : Int}
    (hcseq : sip.cseq = some ⟨method, some (sprintfInt n)⟩) (hlow : -2147483648 ≤ n)
    (hhigh : n < 2147483648) : sip.cseqNumber = n := by
  rw [cseqNumber, hcseq]
  exact atoi_sprintfInt hlow hhigh

end SipFields

namespace Dialog

theorem localCseq_initAsUac {response : SipFields} {dialog : Dialog}
    (h : (initAsUac response).result = .ok dialog) :
    dialog.localCseq = response.cseqNumber := by
  unfold initAsUac init at h
  split at h
  · next cseq localUri remoteUri hcseq _ _ =>
      rw [Traced.result_bind, exists_ok_bind] at h
      obtain ⟨callId, _, h⟩ := h
      cases htag : osipFromGetTag localUri with
      | none =>
          rw [htag] at h
          cases h
      | some tag =>
          simp only [htag, Traced.result_bind, exists_ok_bind, Traced.result_pure,
            Except.ok.injEq] at h
          obtain ⟨_, _, _, _, _, _, _, _, _, _, _, _, _, _, rfl⟩ := h
          rw [SipFields.cseqNumber, hcseq]
          rfl
  · cases h

theorem buildRequestWithinDialog_ok {context : RequestContext} {method : Str} {dialog : Dialog}
    {sip : SipFields} (h : (dialog.buildRequestWithinDialog context method).1 = .ok sip) :
    (dialog.buildRequestWithinDialog context method).2 = dialog.countRequest method ∧
      sip.cseq = some ⟨some method, some (sprintfInt (dialog.countRequest method).localCseq)⟩ := by
  unfold buildRequestWithinDialog at h ⊢
  by_cases henabled : context.enabled = false
  · rw [if_pos henabled] at h
    cases h
  · rw [if_neg henabled] at h ⊢
    cases haddressed : dialog.addressed method with
    | error e =>
        rw [haddressed] at h
        cases h
    | ok request =>
        rw [haddressed] at h
        refine ⟨rfl, ?_⟩
        exact context.complete_cseq _ _ (returnCode_eq_ok.1 h)

end Dialog

namespace InCall

theorem callRetryRequest_ok {context : RequestContext} {origRequest sip : SipFields}
    {initial : Bool} {jd : InCall}
    (h : (jd.callRetryRequest context origRequest initial).1 = .ok sip) :
    ∃ cseq, origRequest.cseq = some cseq ∧
      sip.cseq = some ⟨cseq.method, some (sprintfInt (origRequest.cseqNumber + 1))⟩ := by
  unfold callRetryRequest at h
  cases hvia : origRequest.vias.head? with
  | none =>
      rw [hvia] at h
      cases h
  | some via =>
      cases hcseq : origRequest.cseq with
      | none =>
          rw [hvia, hcseq] at h
          cases h
      | some cseq =>
          cases hnumber : cseq.number with
          | none =>
              rw [hvia, hcseq, Option.bind_some, hnumber] at h
              cases h
          | some number =>
              rw [hvia, hcseq, Option.bind_some, hnumber] at h
              dsimp only at h
              cases hredirect : context.redirect origRequest with
              | error e =>
                  rw [hredirect] at h
                  cases h
              | ok msg =>
                  rw [hredirect] at h
                  dsimp only at h
                  split at h
                  · cases h
                  · next hcomplete =>
                      cases h
                      have hkept := context.complete_cseq _ _ hcomplete
                      have horig := context.redirect_cseq _ _ hredirect
                      refine ⟨cseq, rfl, ?_⟩
                      rw [hkept, SipFields.withCseqNumber, horig, hcseq, SipFields.cseqNumber,
                        hcseq, Option.bind_some, hnumber]
                      rfl

end InCall
end Exosip
