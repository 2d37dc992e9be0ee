import Exosip.Machine.Run
import Exosip.Parser.Setters

/-! Whether the cached serialisation goes stale, over runs of the functions that change a
message and of `osip_message_to_str` in any order. -/
namespace Exosip

open CString

/-- The headers of a known kind, each with its own setter. -/
inductive HeaderKind where
  | via | recordRoute | route | contact | authorization | wwwAuthenticate | proxyAuthenticate
  | proxyAuthorization | authenticationInfo | proxyAuthenticationInfo | callInfo | alertInfo
  | errorInfo | acceptEncoding | acceptLanguage | allow | contentEncoding | accept | fromHeader
  | toHeader | callId | cseq | contentType | contentLength | mimeVersion
  deriving DecidableEq, Repr

inductive Mutator where
  | setReasonPhrase (reason : Option Str)
  | setStatusCode (statusCode : Int)
  | setMethod (sipMethod : Option Str)
  | setVersion (sipVersion : Option Str)
  | setUri (url : Option Uri)
  | setKnown (kind : HeaderKind) (hvalue : Option Str)
  | appendVia (hvalue : Option Str)
  | setHeader (hname hvalue : Option Str)
  | setTopheader (hname hvalue : Option Str)
  | replaceHeader (hname hvalue : Option Str)
  | setBody (buf : Option Str)
  | setBodyMime (buf : Option Str)
  | fixLastViaHeader (ipAddr : Str) (port : Nat)
  | forceUpdate
  deriving DecidableEq, Repr

/-- What a program does to a message. -/
inductive MessageOp where
  | mutate (mutator : Mutator)
  | toStr
  deriving DecidableEq, Repr

namespace SipMessage

def setKnown (parsers : HeaderParsers) (sip : SipMessage) (kind : HeaderKind)
    (hvalue : Option Str) : Int × SipMessage :=
  match kind with
  | .via => sip.setVia hvalue
  | .recordRoute => sip.setRecordRoute parsers hvalue
  | .route => sip.setRoute parsers hvalue
  | .contact => sip.setContact parsers hvalue
  | .authorization => sip.setAuthorization parsers hvalue
  | .wwwAuthenticate => sip.setWwwAuthenticate parsers hvalue
  | .proxyAuthenticate => sip.setProxyAuthenticate parsers hvalue
  | .proxyAuthorization => sip.setProxyAuthorization parsers hvalue
  | .authenticationInfo => sip.setAuthenticationInfo parsers hvalue
  | .proxyAuthenticationInfo => sip.setProxyAuthenticationInfo parsers hvalue
  | .callInfo => sip.setCallInfo hvalue
  | .alertInfo => sip.setAlertInfo hvalue
  | .errorInfo => sip.setErrorInfo hvalue
  | .acceptEncoding => sip.setAcceptEncoding hvalue
  | .acceptLanguage => sip.setAcceptLanguage hvalue
  | .allow => sip.setAllow hvalue
  | .contentEncoding => sip.setContentEncoding hvalue
  | .accept => sip.setAccept hvalue
  | .fromHeader => sip.setFrom parsers hvalue
  | .toHeader => sip.setTo parsers hvalue
  | .callId => sip.setCallId hvalue
  | .cseq => sip.setCseq hvalue
  | .contentType => sip.setContentType hvalue
  | .contentLength => sip.setContentLength hvalue
  | .mimeVersion => sip.setMimeVersion hvalue

def apply (parsers : HeaderParsers) (sip : SipMessage) : Mutator → SipMessage
  | .setReasonPhrase reason => sip.setReasonPhrase reason
  | .setStatusCode statusCode => sip.setStatusCode statusCode
  | .setMethod sipMethod => sip.setMethod sipMethod
  | .setVersion sipVersion => sip.setVersion sipVersion
  | .setUri url => sip.setUri url
  | .setKnown kind hvalue => (sip.setKnown parsers kind hvalue).2
  | .appendVia hvalue => (sip.appendVia hvalue).2
  | .setHeader hname hvalue => (sip.setHeader hvalue hname).2
  | .setTopheader hname hvalue => (sip.setTopheader hvalue hname).2
  | .replaceHeader hname hvalue => (sip.replaceHeader hvalue hname).2
  | .setBody buf => (sip.setBody buf).2
  | .setBodyMime buf => (sip.setBodyMime buf).2
  | .fixLastViaHeader ipAddr port => (sip.fixLastViaHeader ipAddr port).2
  | .forceUpdate => sip.forceUpdate

/-- One operation; a serialisation is put out beside the fields it should be of. -/
def step (parsers : HeaderParsers) : Machine.Step SipMessage MessageOp (SipFields × Result Str)
  | sip, .mutate mutator => (sip.apply parsers mutator, [])
  | sip, .toStr => (sip.toStr.2, [(sip.fields, sip.toStr.1)])

/-- Every `osip_message_to_str` of the run returns the serialisation of the fields that the
message has then. -/
def NeverStale (parsers : HeaderParsers) (sip : SipMessage) (ops : List MessageOp) : Prop :=
  ∀ output ∈ (Machine.run (step parsers) sip ops).2, output.2 = output.1.serialise

end SipMessage

namespace Mutator

/-- The functions that change a field and leave `message_property` alone. -/
def keepsProperty : Mutator → Bool
  | .setReasonPhrase _ | .setStatusCode _ | .setMethod _ | .setVersion _ | .setUri _
  | .fixLastViaHeader _ _ => true
  | _ => false

end Mutator

namespace SipMessage

/-- Of the functions that leave `message_property` alone, one is used on a message with a
valid cache only when it leaves the serialisation as it is. -/
def Allowed (parsers : HeaderParsers) (sip : SipMessage) : MessageOp → Prop
  | .toStr => True
  | .mutate mutator =>
      mutator.keepsProperty = true → sip.messageProperty = 1 →
        (sip.apply parsers mutator).fields.serialise = sip.fields.serialise

/-- What a function may do to the message: nothing, or a change that it tells the cache. -/
def Announced (sip sip' : SipMessage) : Prop := sip' = sip ∨ sip'.messageProperty = 2

theorem announced_updated (sip : SipMessage) (fields : SipFields) :
    sip.Announced (sip.updated fields) := Or.inr rfl

theorem announced_setList {α : Type} (sip : SipMessage) (hvalue : Option Str)
    (parse : Str → Except Int α) (add : α → SipFields) :
    sip.Announced (setList sip hvalue parse add).2 := by
  unfold setList
  split
  · exact Or.inl rfl
  · split
    · exact Or.inl rfl
    · exact announced_updated _ _

theorem announced_setSimple {α : Type} (sip : SipMessage) (hvalue : Option Str)
    (current : Option α) (alreadySet : Int) (parse : Str → Except Int α) (set : α → SipFields) :
    sip.Announced (setSimple sip hvalue current alreadySet parse set).2 := by
  unfold setSimple
  split
  · exact Or.inl rfl
  · split
    · exact Or.inl rfl
    · split
      · exact announced_updated _ _
      · exact announced_updated _ _

theorem announced_setKnown (parsers : HeaderParsers) (sip : SipMessage) (kind : HeaderKind)
    (hvalue : Option Str) : sip.Announced (sip.setKnown parsers kind hvalue).2 := by
  cases kind with
  | fromHeader | toHeader | callId | cseq | contentLength | mimeVersion =>
      exact announced_setSimple _ _ _ _ _ _
  | contentType =>
      show sip.Announced (sip.setContentType hvalue).2
      unfold setContentType
      split
      · exact Or.inl rfl
      · exact announced_setSimple _ _ _ _ _ _
  | accept =>
      show sip.Announced (sip.setAccept hvalue).2
      unfold setAccept
      split
      · exact Or.inl rfl
      · exact announced_updated _ _
  | _ => exact announced_setList _ _ _ _

theorem announced_setGeneric (sip : SipMessage) (hname : Option Str) (change : Str → List Header) :
    sip.Announced (setGeneric sip hname change).2 := by
  cases hname with
  | none => exact Or.inl rfl
  | some hname => exact announced_updated _ _

theorem announced_addBody (sip : SipMessage) (parse : Str → Except Int Body) (buf : Option Str) :
    sip.Announced (addBody sip parse buf).2 := by
  cases buf with
  | none => exact Or.inl rfl
  | some buf =>
      rw [addBody]
      split
      · exact Or.inl rfl
      · exact announced_updated _ _

theorem announced_apply (parsers : HeaderParsers) (sip : SipMessage) {mutator : Mutator}
    (h : mutator.keepsProperty = false) : sip.Announced (sip.apply parsers mutator) := by
  cases mutator with
  | setKnown kind hvalue => exact announced_setKnown parsers sip kind hvalue
  | appendVia hvalue =>
      show sip.Announced (sip.appendVia hvalue).2
      cases hvalue with
      | none => exact Or.inl rfl
      | some hvalue =>
          rw [appendVia]
          split
          · exact Or.inl rfl
          · exact announced_updated _ _
  | setHeader hname hvalue => exact announced_setGeneric _ _ _
  | setTopheader hname hvalue => exact announced_setGeneric _ _ _
  | replaceHeader hname hvalue => exact announced_setGeneric _ _ _
  | setBody buf => exact announced_addBody _ _ _
  | setBodyMime buf => exact announced_addBody _ _ _
  | forceUpdate => exact Or.inr rfl
  | _ => cases h

theorem coherent_of_announced {sip sip' : SipMessage} (h : sip.Coherent)
    (hannounced : sip.Announced sip') : sip'.Coherent := by
  cases hannounced with
  | inl hsame =>
      rw [hsame]
      exact h
  | inr hproperty =>
      intro hvalid
      rw [hproperty] at hvalid
      cases hvalid

theorem apply_eq_withFields (parsers : HeaderParsers) (sip : SipMessage) {mutator : Mutator}
    (h : mutator.keepsProperty = true) :
    sip.apply parsers mutator = sip.withFields (sip.apply parsers mutator).fields := by
  cases mutator with
  | fixLastViaHeader ipAddr port =>
      show (sip.fixLastViaHeader ipAddr port).2 = _
      unfold apply fixLastViaHeader
      split
      · rfl
      · split
        · rfl
        · split <;> rfl
  | setReasonPhrase | setStatusCode | setMethod | setVersion | setUri => rfl
  | _ => cases h

theorem coherent_withFields {sip : SipMessage} (h : sip.Coherent) {fields : SipFields}
    (hfields : sip.messageProperty = 1 → fields.serialise = sip.fields.serialise) :
    (sip.withFields fields).Coherent := by
  intro hvalid
  obtain ⟨text, htext, hmessage, hlen⟩ := h hvalid
  exact ⟨text, (hfields hvalid).trans htext, hmessage, hlen⟩

theorem coherent_step {parsers : HeaderParsers} {sip : SipMessage} {op : MessageOp}
    (hallowed : sip.Allowed parsers op) (h : sip.Coherent) :
    (step parsers sip op).1.Coherent ∧
      ∀ output ∈ (step parsers sip op).2, output.2 = output.1.serialise := by
  cases op with
  | toStr =>
      refine ⟨coherent_toStr h, ?_⟩
      intro output houtput
      rw [step, List.mem_singleton] at houtput
      rw [houtput]
      exact toStr_of_coherent h
  | mutate mutator =>
      refine ⟨?_, fun _ houtput => absurd houtput List.not_mem_nil⟩
      show (sip.apply parsers mutator).Coherent
      cases hkeeps : mutator.keepsProperty with
      | false => exact coherent_of_announced h (announced_apply parsers sip hkeeps)
      | true =>
          rw [apply_eq_withFields parsers sip hkeeps]
          exact coherent_withFields h (hallowed hkeeps)

theorem stale_of_not_allowed {parsers : HeaderParsers} {sip : SipMessage} {mutator : Mutator}
    (hsip : sip.Coherent) (h : ¬ sip.Allowed parsers (.mutate mutator)) :
    ¬ NeverStale parsers sip [.mutate mutator, .toStr] := by
  simp only [Allowed, Classical.not_imp] at h
  obtain ⟨hkeeps, hvalid, hchanged⟩ := h
  obtain ⟨text, htext, hmessage, hlen⟩ := hsip hvalid
  have hfields := apply_eq_withFields parsers sip hkeeps
  intro hfresh
  have hout := hfresh ((sip.apply parsers mutator).fields, (sip.apply parsers mutator).toStr.1)
    (by simp [Machine.run_cons, step])
  have hcached : (sip.apply parsers mutator).toStr.1 = .ok text := by
    rw [hfields]
    unfold toStr withFields
    rw [if_pos hvalid, hmessage, hlen, memcpy_all]
  dsimp only at hout
  rw [hcached, ← htext] at hout
  exact hchanged hout.symm

end SipMessage

/-- From a coherent message no run of allowed operations returns a stale serialisation. -/
theorem neverStale_of_allowed (parsers : HeaderParsers) (sip : CoherentMessage)
    (ops : List MessageOp)
    (h : Machine.Guarded (SipMessage.step parsers) (SipMessage.Allowed parsers)
      sip.toSipMessage ops) :
    SipMessage.NeverStale parsers sip.toSipMessage ops :=
  Machine.guarded_outputs _ (fun _ _ => SipMessage.coherent_step) h sip.coherent

def okResponse : CoherentMessage where
  fields := { SipFields.init with statusCode := 200, reasonPhrase := some "OK".toList }
  messageProperty := 3
  message := none
  messageLength := 0
  coherent := fun h => absurd h (by decide)

/-- The status code is changed first, a header is replaced between two serialisations. -/
theorem okResponse_neverStale :
    SipMessage.NeverStale default okResponse.toSipMessage
      [.mutate (.setStatusCode 202), .toStr,
        .mutate (.replaceHeader (some "Subject".toList) (some "hello".toList)), .toStr] :=
  neverStale_of_allowed default okResponse _
    ⟨fun _ h => absurd h (by decide), trivial, fun h => absurd h (by decide), trivial, trivial⟩

/-- A status code that is changed after a serialisation is not seen in the next one. -/
theorem okResponse_stale :
    ¬ SipMessage.NeverStale default okResponse.toSipMessage
      [.toStr, .mutate (.setStatusCode 486), .toStr] := by
  intro h
  have hout := h ({ okResponse.fields with statusCode := 486 },
    .ok "SIP/2.0 200 OK\r\nContent-Length: 0\r\n\r\n".toList) (by decide +kernel)
  revert hout
  decide +kernel

end Exosip
