import Exosip.Dialog.Response
import Exosip.Dispatch.Newrequest
import Exosip.Stack.Hashtable

/-! What a response keeps of its request, and that the client finds its transaction by it. -/
namespace Exosip

open CString

/-- `osip_to_set_tag`. -/
def To.setTag (header : To) (tag : Str) : To :=
  { header with genParams := GenericParam.add header.genParams "tag".toList (some tag) }

/-- The response belongs to the request. -/
structure Corresponds (context : ResponseContext) (dialog : Option Dialog) (status : Int)
    (request response : SipFields) : Prop where
  vias : response.vias = request.vias
  fromHeader : response.fromHeader = request.fromHeader
  callId : response.callId = request.callId
  cseq : response.cseq = request.cseq
  toTagged : ∀ header, request.toHeader = some header → (osipFromGetTag header).isSome = true →
    response.toHeader = some header
  toLocalTag : ∀ header, request.toHeader = some header → osipFromGetTag header = none →
    ∀ localTag, dialog.bind Dialog.localTag = some localTag →
      response.toHeader = some (header.setTag localTag)
  toFreshTag : ∀ header, request.toHeader = some header → osipFromGetTag header = none →
    dialog.bind Dialog.localTag = none → status ≠ 100 →
      response.toHeader = some (header.setTag context.newRandom)
  toTrying : ∀ header, request.toHeader = some header → osipFromGetTag header = none →
    dialog.bind Dialog.localTag = none → status = 100 → response.toHeader = some header
  expires : request.toMessage.isSubscribe = true →
    ∀ header, request.headerByname "expires".toList = some header →
      response.headerByname "expires".toList = some header
  matched : ∀ {κ : Type} (tr : Transaction κ) (branch method : Str),
    (request.vias[0]?).bind Via.branch = some branch → request.cseq.bind (·.method) = some method →
    tr.topvia.branch = some branch → tr.cseq.method = some method →
      matchingResponseOsipToXict1713 tr response.toMessage = true

namespace SipFields

/-- What `buildResponseDefault` copies, and that the clones succeeded. -/
structure Answered (context : ResponseContext) (dialog : Option Dialog) (status : Int)
    (request response : SipFields) : Prop where
  statusCode : response.statusCode = status
  vias : response.vias = request.vias
  viasComplete : ∀ via ∈ request.vias, via.complete = true
  fromHeader : response.fromHeader = request.fromHeader
  fromComplete : ∃ header, request.fromHeader = some header ∧ header.complete = true
  callId : response.callId = request.callId
  callIdComplete : ∃ callId, request.callId = some callId ∧ callId.complete = true
  cseq : response.cseq = request.cseq
  cseqComplete : ∃ cseq, request.cseq = some cseq ∧ cseq.complete = true
  toHeader : ∃ header, request.toHeader = some header ∧ header.complete = true ∧
    response.toHeader = some (responseTo context dialog status header)
  headers : response.headers = (subscribeHeaders request init).headers ++
    [SipMessage.newHeader "User-Agent".toList (some context.userAgent)]

theorem fromCloneOf_eq_ok {header : Option From} {copy : From} :
    fromCloneOf header = .ok copy ↔ header = some copy ∧ copy.complete = true := by
  cases header with
  | none => simp [fromCloneOf]
  | some header =>
      rw [fromCloneOf, copies_fromClone header copy, Option.some.injEq]
      constructor
      · rintro ⟨hcomplete, rfl⟩
        exact ⟨rfl, hcomplete⟩
      · rintro ⟨rfl, hcomplete⟩
        exact ⟨hcomplete, rfl⟩

theorem subscribeHeaders_eq (request response : SipFields) :
    subscribeHeaders request response =
      { response with headers := response.headers ++ (subscribeHeaders request init).headers } := by
  unfold subscribeHeaders
  split
  · split <;> rfl
  · rw [show init.headers = [] from rfl, List.append_nil]

theorem buildResponseDefault_answered {context : ResponseContext} {dialog : Option Dialog}
    {status : Int} {request response : SipFields}
    (h : buildResponseDefault context dialog status request = .ok response) :
    Answered context dialog status request response := by
  unfold buildResponseDefault at h
  simp only [exists_ok_bind, fromCloneOf_eq_ok, osipListClone_eq_ok copies_viaClone,
    cloneData_eq_ok copies_callIdClone, cloneData_eq_ok copies_cseqClone] at h
  obtain ⟨toHeader, hto, fromHeader, hfrom, vias, hvias, callId, hcallId, cseq, hcseq, h⟩ := h
  obtain ⟨hviasComplete, rfl⟩ := hvias
  obtain ⟨hcallIdComplete, rfl⟩ := hcallId
  obtain ⟨hcseqComplete, rfl⟩ := hcseq
  split at h
  · cases h
  · next hpresent =>
    cases h
    simp only [not_or, Bool.not_eq_true, Option.isNone_eq_false_iff] at hpresent
    obtain ⟨callId, hsomeCallId⟩ := Option.isSome_iff_exists.1 hpresent.1
    obtain ⟨cseq, hsomeCseq⟩ := Option.isSome_iff_exists.1 hpresent.2
    rw [subscribeHeaders_eq]
    exact
      { statusCode := rfl
        vias := rfl
        viasComplete := hviasComplete
        fromHeader := hfrom.1.symm
        fromComplete := ⟨fromHeader, hfrom⟩
        callId := rfl
        callIdComplete := ⟨callId, hsomeCallId, hcallIdComplete callId hsomeCallId⟩
        cseq := rfl
        cseqComplete := ⟨cseq, hsomeCseq, hcseqComplete cseq hsomeCseq⟩
        toHeader := ⟨toHeader, hto.1, hto.2, rfl⟩
        headers := rfl }

theorem Answered.headerByname_expires {context : ResponseContext} {dialog : Option Dialog}
    {status : Int} {request response : SipFields}
    (h : Answered context dialog status request response) :
    response.headerByname "expires".toList = none := by
  have hother (hname : String) (hvalue : Option Str)
      (hne : osipStrcasecmp (osipClrncpy hname.toList hname.toList.length) "expires".toList = false) :
      osipStrcasecmp ((SipMessage.newHeader hname.toList hvalue).hname.getD []) "expires".toList =
        false := hne
  rw [headerByname, List.find?_eq_none, h.headers]
  intro header hheader
  rcases List.mem_append.1 hheader with hheader | hheader
  · unfold subscribeHeaders at hheader
    split at hheader
    · split at hheader
      · rw [List.mem_singleton.1 hheader, hother "Event" _ (by decide)]
        exact Bool.false_ne_true
      · rw [List.mem_singleton.1 hheader, hother "Event" _ (by decide)]
        exact Bool.false_ne_true
    · cases hheader
  · rw [List.mem_singleton.1 hheader, hother "User-Agent" _ (by decide)]
    exact Bool.false_ne_true

theorem Answered.corresponds {context : ResponseContext} {dialog : Option Dialog} {status : Int}
    {request response : SipFields} (h : Answered context dialog status request response)
    (hexpires : request.toMessage.isSubscribe = true →
      request.headerByname "expires".toList = none) :
    Corresponds context dialog status request response := by
  obtain ⟨toHeader, hto, -, hresponseTo⟩ := h.toHeader
  have hresponse {header : To} (heq : request.toHeader = some header) :
      response.toHeader = some (responseTo context dialog status header) := by
    rw [hto] at heq
    cases heq
    exact hresponseTo
  constructor
  case vias => exact h.vias
  case fromHeader => exact h.fromHeader
  case callId => exact h.callId
  case cseq => exact h.cseq
  case toTagged =>
    intro header heq htag
    rw [hresponse heq, responseTo, if_pos htag]
  case toLocalTag =>
    intro header heq htag localTag hlocal
    rw [hresponse heq, responseTo, htag, hlocal]
    rfl
  case toFreshTag =>
    intro header heq htag hlocal hstatus
    rw [hresponse heq, responseTo, htag, hlocal]
    simp [hstatus, To.setTag]
  case toTrying =>
    intro header heq htag hlocal hstatus
    rw [hresponse heq, responseTo, htag, hlocal]
    simp [hstatus]
  case expires =>
    intro hsubscribe header hheader
    rw [hexpires hsubscribe] at hheader
    cases hheader
  case matched =>
    intro κ tr branch method hbranch hmethod htrBranch htrMethod
    obtain ⟨via, hvia, hbranch⟩ := Option.bind_eq_some_iff.1 hbranch
    have htop : response.toMessage.vias[0]? = some via := by
      rw [← hvia, ← h.vias]
      rfl
    have hresponseMethod : response.toMessage.cseq.bind (·.method) = some method := by
      rw [← hmethod, ← h.cseq]
      rfl
    unfold matchingResponseOsipToXict1713
    rw [hresponseMethod, htop]
    dsimp only
    rw [htrBranch, hbranch, htrMethod]
    simp

end SipFields

/-- A response corresponds to its request exactly when the request is no SUBSCRIBE with an
Expires header, which the response never repeats. -/
theorem corresponds_iff {context : ResponseContext} {dialog : Option Dialog} {status : Int}
    {request response : SipFields}
    (h : SipFields.buildResponseDefault context dialog status request = .ok response) :
    Corresponds context dialog status request response ↔
      ¬ (request.toMessage.isSubscribe = true ∧
        (request.headerByname "expires".toList).isSome = true) := by
  have hanswered := SipFields.buildResponseDefault_answered h
  constructor
  · rintro hcorresponds ⟨hsubscribe, hsome⟩
    obtain ⟨header, hheader⟩ := Option.isSome_iff_exists.1 hsome
    have hrepeated := hcorresponds.expires hsubscribe header hheader
    rw [hanswered.headerByname_expires] at hrepeated
    cases hrepeated
  · intro hnot
    apply hanswered.corresponds
    intro hsubscribe
    by_contra hne
    exact hnot ⟨hsubscribe, Option.isSome_iff_ne_none.2 hne⟩

section Examples

theorem corresponds_invite : ∃ response,
    SipFields.buildResponseDefault someEnv.context none 486 (requestOf "INVITE" "1" []) =
      .ok response ∧
      Corresponds someEnv.context none 486 (requestOf "INVITE" "1" []) response :=
  ⟨_, rfl, (corresponds_iff rfl).2 (by decide)⟩

def subscribeFor (expires : String) : SipFields :=
  (requestOf "SUBSCRIBE" "1" []).addHeader "Expires".toList (some expires.toList)

/-- The 202 to a SUBSCRIBE does not say for how long. -/
theorem not_corresponds : ∃ response,
    SipFields.buildResponseDefault someEnv.context none 202 (subscribeFor "600") = .ok response ∧
      ¬ Corresponds someEnv.context none 202 (subscribeFor "600") response := by
  refine ⟨_, rfl, ?_⟩
  intro h
  have hexpires := h.expires (by decide) _ rfl
  exact absurd hexpires (by decide)

end Examples
end Exosip
