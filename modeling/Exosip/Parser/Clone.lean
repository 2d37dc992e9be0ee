import Exosip.Parser.Cache

/-! `osip_message_clone`, and when a clone prints as its original does. -/
namespace Exosip

open CString

section Steps

variable {α β : Type}

def osipListClone (cloneFunc : α → Except Int α) : List α → Except Int (List α)
  | [] => .ok []
  | data :: src => do
      let data2 ← cloneFunc data
      .ok (data2 :: (← osipListClone cloneFunc src))

def cloneData (cloneFunc : α → Except Int α) : Option α → Except Int (Option α)
  | none => .ok none
  | some header => do .ok (some (← cloneFunc header))

/-- A clone that gives nothing for a header that lacks a mandatory member. -/
def orBadparameter (cloneFunc : Option α → Option α) (header : α) : Except Int α :=
  match cloneFunc (some header) with
  | none => .error osipBadparameter
  | some copy => .ok copy

theorem orBadparameter_filter (complete : α → Bool) :
    orBadparameter (Option.filter complete) = cloneIf complete := by
  funext header
  cases h : complete header <;> simp [orBadparameter, cloneIf, Option.filter, h]

theorem cloneIf_eq_ok {complete : α → Bool} {header copy : α} :
    cloneIf complete header = .ok copy ↔ complete header = true ∧ header = copy := by
  cases h : complete header <;> simp [cloneIf, h]

/-- The clone function copies the headers of which `P` holds and refuses the others. -/
def Copies (cloneFunc : α → Except Int α) (P : α → Prop) : Prop :=
  ∀ header copy, cloneFunc header = .ok copy ↔ P header ∧ header = copy

theorem copies_cloneIf (complete : α → Bool) :
    Copies (cloneIf complete) fun header => complete header = true :=
  fun _ _ => cloneIf_eq_ok

theorem copies_ok : Copies (fun header : α => Except.ok header) fun _ => True :=
  fun _ _ => by simp

theorem osipListClone_eq_ok {cloneFunc : α → Except Int α} {P : α → Prop}
    (h : Copies cloneFunc P) {src dst : List α} :
    osipListClone cloneFunc src = .ok dst ↔ (∀ data ∈ src, P data) ∧ src = dst := by
  induction src generalizing dst with
  | nil => simp [osipListClone]
  | cons data src ih =>
      rw [osipListClone, exists_ok_bind, List.forall_mem_cons]
      simp only [exists_ok_bind, h data, ih, Except.ok.injEq]
      constructor
      · intro hclone
        obtain ⟨_, ⟨hdata, rfl⟩, _, ⟨hsrc, rfl⟩, hdst⟩ := hclone
        exact ⟨⟨hdata, hsrc⟩, hdst⟩
      · intro hclone
        exact ⟨data, ⟨hclone.1.1, rfl⟩, src, ⟨hclone.1.2, rfl⟩, hclone.2⟩

theorem cloneData_eq_ok {cloneFunc : α → Except Int α} {P : α → Prop}
    (h : Copies cloneFunc P) {header copy : Option α} :
    cloneData cloneFunc header = .ok copy ↔ (∀ data ∈ header, P data) ∧ header = copy := by
  cases header with
  | none => simp [cloneData]
  | some header =>
      rw [cloneData, exists_ok_bind]
      simp only [h header, Except.ok.injEq, Option.mem_def, Option.some.injEq]
      constructor
      · intro hclone
        obtain ⟨_, ⟨hheader, rfl⟩, hcopy⟩ := hclone
        exact ⟨fun _ heq => heq ▸ hheader, hcopy⟩
      · intro hclone
        exact ⟨header, ⟨hclone.1 header rfl, rfl⟩, hclone.2⟩

end Steps

def viaClone (via : Via) : Except Int Via := orBadparameter osipViaClone via
def fromClone (header : From) : Except Int From := orBadparameter osipFromClone header
def uriClone (url : Uri) : Except Int Uri := orBadparameter osipUriClone url
def callIdClone (callid : CallId) : Except Int CallId := orBadparameter osipCallIdClone callid
def cseqClone (cseq : Cseq) : Except Int Cseq := orBadparameter osipCseqClone cseq

namespace SipMessage

/-- `osip_message_clone`: the cached text is copied with `osip_strdup`, and its length with it. -/
def clone (sip : SipMessage) : Except Int SipMessage := do
  let reqUri ← cloneData uriClone sip.fields.reqUri
  let accepts ← osipListClone osipContentTypeClone sip.fields.accepts
  let acceptEncodings ← osipListClone osipCallInfoClone sip.fields.acceptEncodings
  let acceptLanguages ← osipListClone osipCallInfoClone sip.fields.acceptLanguages
  let alertInfos ← osipListClone osipCallInfoClone sip.fields.alertInfos
  let allows ← osipListClone osipContentLengthClone sip.fields.allows
  let authenticationInfos ←
    osipListClone osipAuthenticationInfoClone sip.fields.authenticationInfos
  let contentEncodings ← osipListClone osipContentLengthClone sip.fields.contentEncodings
  let errorInfos ← osipListClone osipCallInfoClone sip.fields.errorInfos
  let proxyAuthenticationInfos ←
    osipListClone osipAuthenticationInfoClone sip.fields.proxyAuthenticationInfos
  let callInfos ← osipListClone osipCallInfoClone sip.fields.callInfos
  let authorizations ← osipListClone osipAuthorizationClone sip.fields.authorizations
  let callId ← cloneData callIdClone sip.fields.callId
  let contacts ← osipListClone fromClone sip.fields.contacts
  let contentLength ← cloneData osipContentLengthClone sip.fields.contentLength
  let contentType ← cloneData osipContentTypeClone sip.fields.contentType
  let cseq ← cloneData cseqClone sip.fields.cseq
  let fromHeader ← cloneData fromClone sip.fields.fromHeader
  let mimeVersion ← cloneData osipContentLengthClone sip.fields.mimeVersion
  let proxyAuthenticates ← osipListClone osipWwwAuthenticateClone sip.fields.proxyAuthenticates
  let proxyAuthorizations ← osipListClone osipAuthorizationClone sip.fields.proxyAuthorizations
  let recordRoutes ← osipListClone fromClone sip.fields.recordRoutes
  let routes ← osipListClone fromClone sip.fields.routes
  let toHeader ← cloneData fromClone sip.fields.toHeader
  let vias ← osipListClone viaClone sip.fields.vias
  let wwwAuthenticates ← osipListClone osipWwwAuthenticateClone sip.fields.wwwAuthenticates
  let headers ← osipListClone osipHeaderClone sip.fields.headers
  let bodies ← osipListClone Body.clone sip.fields.bodies
  .ok
    { fields :=
        { sipVersion := sip.fields.sipVersion
          reqUri
          sipMethod := sip.fields.sipMethod
          statusCode := sip.fields.statusCode
          reasonPhrase := sip.fields.reasonPhrase
          accepts
          acceptEncodings
          acceptLanguages
          alertInfos
          allows
          authenticationInfos
          authorizations
          callId
          callInfos
          contacts
          contentEncodings
          contentLength
          contentType
          cseq
          errorInfos
          fromHeader
          mimeVersion
          proxyAuthenticates
          proxyAuthenticationInfos
          proxyAuthorizations
          recordRoutes
          routes
          toHeader
          vias
          wwwAuthenticates
          headers
          bodies }
      messageProperty := sip.messageProperty
      message := sip.message.map cString
      messageLength := sip.messageLength }

end SipMessage

/-- A body that can be cloned has a payload, and its headers have names. -/
def Body.Clonable (body : Body) : Prop :=
  body.body ≠ [] ∧ body.headers.all Header.complete = true

/-- No header lacks a mandatory member, and no body is empty. -/
@[mk_iff]
structure SipFields.Clonable (sip : SipFields) : Prop where
  reqUri : ∀ url ∈ sip.reqUri, url.complete = true
  acceptEncodings : ∀ header ∈ sip.acceptEncodings, header.complete = true
  acceptLanguages : ∀ header ∈ sip.acceptLanguages, header.complete = true
  alertInfos : ∀ header ∈ sip.alertInfos, header.complete = true
  errorInfos : ∀ header ∈ sip.errorInfos, header.complete = true
  callInfos : ∀ header ∈ sip.callInfos, header.complete = true
  callId : ∀ callid ∈ sip.callId, callid.complete = true
  contacts : ∀ contact ∈ sip.contacts, contact.complete = true
  cseq : ∀ cseq ∈ sip.cseq, cseq.complete = true
  fromHeader : ∀ header ∈ sip.fromHeader, header.complete = true
  proxyAuthenticates : ∀ header ∈ sip.proxyAuthenticates, header.complete = true
  recordRoutes : ∀ route ∈ sip.recordRoutes, route.complete = true
  routes : ∀ route ∈ sip.routes, route.complete = true
  toHeader : ∀ header ∈ sip.toHeader, header.complete = true
  vias : ∀ via ∈ sip.vias, via.complete = true
  wwwAuthenticates : ∀ header ∈ sip.wwwAuthenticates, header.complete = true
  headers : ∀ header ∈ sip.headers, header.complete = true
  bodies : ∀ body ∈ sip.bodies, body.Clonable

theorem copies_viaClone : Copies viaClone fun via => via.complete = true := by
  rw [show viaClone = cloneIf Via.complete from orBadparameter_filter _]
  exact copies_cloneIf _

theorem copies_uriClone : Copies uriClone fun url => url.complete = true := by
  rw [show uriClone = cloneIf Uri.complete from orBadparameter_filter _]
  exact copies_cloneIf _

theorem copies_callIdClone : Copies callIdClone fun callid => callid.complete = true := by
  rw [show callIdClone = cloneIf CallId.complete from orBadparameter_filter _]
  exact copies_cloneIf _

theorem copies_cseqClone : Copies cseqClone fun cseq => cseq.complete = true := by
  rw [show cseqClone = cloneIf Cseq.complete from orBadparameter_filter _]
  exact copies_cloneIf _

theorem copies_fromClone : Copies fromClone fun header => header.complete = true := by
  have hcomplete : osipFromClone = Option.filter From.complete := by
    funext header
    unfold osipFromClone
    congr 1
    funext f
    cases hurl : f.url with
    | none => simp [From.complete, hurl]
    | some url =>
        have hclone : (osipUriClone (some url)).isSome = url.complete := by
          cases hc : url.complete <;> simp_all [osipUriClone, Uri.complete, Option.filter]
        rw [hclone]
        simp [From.complete, hurl]
  rw [show fromClone = cloneIf From.complete from by
    unfold fromClone
    rw [hcomplete]
    exact orBadparameter_filter _]
  exact copies_cloneIf _

theorem copies_bodyClone : Copies Body.clone Body.Clonable := by
  intro body copy
  unfold Body.clone Body.Clonable
  by_cases hbody : body.body = []
  · simp [hbody]
  · rw [if_neg hbody]
    cases hheaders : body.headers.all Header.complete <;> simp [hbody]

namespace SipMessage

theorem clone_eq_ok {sip copy : SipMessage} :
    sip.clone = .ok copy ↔
      sip.fields.Clonable ∧ { sip with message := sip.message.map cString } = copy := by
  have hct : Copies osipContentTypeClone fun _ => True := copies_ok
  have hcl : Copies osipContentLengthClone fun _ => True := copies_ok
  have hau : Copies osipAuthorizationClone fun _ => True := copies_ok
  have hai : Copies osipAuthenticationInfoClone fun _ => True := copies_ok
  have hci : Copies osipCallInfoClone fun header => header.complete = true := copies_cloneIf _
  have hwa : Copies osipWwwAuthenticateClone fun header => header.complete = true :=
    copies_cloneIf _
  have hh : Copies osipHeaderClone fun header => header.complete = true := copies_cloneIf _
  simp only [clone, exists_ok_bind, cloneData_eq_ok copies_uriClone, osipListClone_eq_ok hct,
    osipListClone_eq_ok hci, osipListClone_eq_ok hcl, osipListClone_eq_ok hai,
    osipListClone_eq_ok hau, cloneData_eq_ok copies_callIdClone, osipListClone_eq_ok copies_fromClone,
    cloneData_eq_ok hcl, cloneData_eq_ok hct, cloneData_eq_ok copies_cseqClone,
    cloneData_eq_ok copies_fromClone, osipListClone_eq_ok hwa, osipListClone_eq_ok copies_viaClone,
    osipListClone_eq_ok hh, osipListClone_eq_ok copies_bodyClone, and_assoc, exists_and_left,
    exists_eq_left', implies_true, true_and, Except.ok.injEq, SipFields.clonable_iff]
/-- The cache, when it is valid, has all of the text that its length counts. -/
def Stored (sip : SipMessage) : Prop :=
  sip.messageProperty = 1 → ∃ buf, sip.message = some buf ∧ sip.messageLength = buf.length

theorem stored_of_announced {sip sip' : SipMessage} (h : sip.Stored)
    (hannounced : sip.Announced sip') : sip'.Stored := by
  cases hannounced with
  | inl hsame =>
      rw [hsame]
      exact h
  | inr hproperty =>
      intro hvalid
      rw [hproperty] at hvalid
      cases hvalid

theorem stored_toStr {sip : SipMessage} (h : sip.Stored) : sip.toStr.2.Stored := by
  unfold toStr
  split
  · exact h
  · next hinvalid =>
      split
      · intro hvalid
        exact absurd hvalid hinvalid
      · next dest hdest =>
          intro hvalid
          obtain ⟨text, -, hmessage, hlen⟩ := coherent_cached hdest hvalid
          exact ⟨text, hmessage, hlen⟩

theorem stored_step {parsers : HeaderParsers} {sip : SipMessage} {op : MessageOp}
    (h : sip.Stored) : (step parsers sip op).1.Stored := by
  cases op with
  | toStr => exact stored_toStr h
  | mutate mutator =>
      show (sip.apply parsers mutator).Stored
      cases hkeeps : mutator.keepsProperty with
      | false => exact stored_of_announced h (announced_apply parsers sip hkeeps)
      | true =>
          rw [apply_eq_withFields parsers sip hkeeps]
          exact h

/-- The message that the operations build from `osip_message_init`. The parser builds its
message with the same operations. -/
def built (parsers : HeaderParsers) (ops : List MessageOp) : SipMessage :=
  (Machine.run (step parsers) init ops).1

theorem stored_built (parsers : HeaderParsers) (ops : List MessageOp) :
    (built parsers ops).Stored := by
  apply Machine.run_invariant (step parsers) (I := Stored) (fun _ _ => stored_step)
  intro hvalid
  cases hvalid

end SipMessage

theorem cString_append {a : Str} (h : '\x00' ∉ a) (b : Str) : cString (a ++ b) = a ++ cString b := by
  apply List.takeWhile_append_of_pos
  intro c hc
  rw [bne_iff_ne]
  intro hnul
  rw [hnul] at hc
  exact h hc

/-- The copy of a text up to its first NUL is long enough for the length of the whole text
exactly when there is no NUL before the last byte. -/
theorem memcpy_cString {buf : Str} :
    memcpy (some (cString buf)) buf.length = .ok buf ↔ '\x00' ∉ buf.dropLast := by
  cases List.eq_nil_or_concat' buf with
  | inl hnil => simp [hnil, cString, memcpy]
  | inr hconcat =>
      obtain ⟨a, c, rfl⟩ := hconcat
      rw [List.dropLast_concat]
      by_cases hnul : '\x00' ∈ a
      · obtain ⟨u, v, rfl, hu⟩ := List.eq_append_cons_of_mem hnul
        have hlen : (cString (u ++ '\x00' :: v ++ [c])).length = u.length := by
          rw [List.append_assoc, cString_append hu]
          simp [cString]
        rw [memcpy, if_neg]
        · simp
        · simp only [hlen, List.length_append, List.length_cons, List.length_nil]
          omega
      · simp only [hnul, not_false_eq_true, iff_true]
        rw [cString_append hnul]
        by_cases hc : c = '\x00'
        · have hshort : cString ['\x00'] = [] := rfl
          have htake : (a ++ ['\x00']).take (a.length + 1) = a ++ ['\x00'] :=
            List.take_of_length_le (by simp)
          rw [hc, hshort, List.append_nil, memcpy, List.length_append, List.length_singleton,
            if_pos le_rfl, htake]
        · have hwhole : cString [c] = [c] := cString_eq_self (by simpa using Ne.symm hc)
          rw [hwhole]
          exact SipMessage.memcpy_all _

/-- The clone succeeds, and `osip_message_to_str` returns the same for it as for the original. -/
def CloneFaithful (sip : SipMessage) : Prop :=
  ∃ copy, sip.clone = .ok copy ∧ copy.toStr.1 = sip.toStr.1

theorem toStr_copy {sip : SipMessage} (h : sip.Stored) :
    ({ sip with message := sip.message.map cString } : SipMessage).toStr.1 = sip.toStr.1 ↔
      (sip.messageProperty = 1 → ∀ buf ∈ sip.message, '\x00' ∉ buf.dropLast) := by
  unfold SipMessage.toStr
  by_cases hvalid : sip.messageProperty = 1
  · obtain ⟨buf, hmessage, hlen⟩ := h hvalid
    simp only [hvalid, if_true, hmessage, hlen, Option.map_some, SipMessage.memcpy_all,
      memcpy_cString, Option.mem_def, Option.some.injEq, forall_eq', forall_const]
  · simp only [hvalid, if_false, false_implies, iff_true]
    split <;> rfl

/-- A clone is faithful on the wire exactly when nothing in the message lacks a mandatory
member, no body is empty, and a cached text has no NUL before its last byte. -/
theorem cloneFaithful_iff (parsers : HeaderParsers) (ops : List MessageOp) :
    CloneFaithful (SipMessage.built parsers ops) ↔
      (SipMessage.built parsers ops).fields.Clonable ∧
        ((SipMessage.built parsers ops).messageProperty = 1 →
          ∀ buf ∈ (SipMessage.built parsers ops).message, '\x00' ∉ buf.dropLast) := by
  rw [← toStr_copy (SipMessage.stored_built parsers ops)]
  simp only [CloneFaithful, SipMessage.clone_eq_ok, and_assoc, exists_and_left, exists_eq_left']

def binaryRequest : List MessageOp :=
  [.mutate (.setMethod (some "MESSAGE".toList)),
    .mutate (.setUri (some ⟨none, none, none, some "example.org".toList, none, [], [], none⟩)),
    .mutate (.setBody (some ['a', '\x00', 'b'])), .toStr]

/-- The clone has the text up to the NUL, and its serialisation copies beyond the end of it. -/
theorem binaryRequest_not_cloneFaithful :
    ¬ CloneFaithful (SipMessage.built default binaryRequest) := by
  intro h
  obtain ⟨copy, hclone, hsame⟩ := h
  obtain ⟨-, hcopy⟩ := SipMessage.clone_eq_ok.1 hclone
  rw [← hcopy] at hsame
  revert hsame
  decide +kernel

end Exosip
