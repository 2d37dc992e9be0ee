import Exosip.Parser.Parse
import Exosip.Parser.Uri

/-! What holds of every message that `osip_message_parse` accepts, by the setters that it
calls; in particular its addresses can be cloned. -/
namespace Exosip

open CString

namespace SipMessage

theorem eq_of_ite_error {ε α : Type} {c : Prop} [Decidable c] {e : ε} {a b : α}
    (h : (if c then Except.error e else .ok a) = .ok b) : a = b := by
  by_cases hc : c
  · rw [if_pos hc] at h
    cases h
  · rw [if_neg hc] at h
    exact Except.ok.inj h

theorem startlineParse_fields {parsers : MessageParsers} {sip sip' : SipMessage} {buf headers : Str}
    (h : sip.startlineParse parsers buf = .ok (sip', headers)) :
    ∃ sipMethod statusCode reasonPhrase reqUri sipVersion,
      sip' = sip.withFields
        { sip.fields with sipMethod, statusCode, reasonPhrase, reqUri, sipVersion } := by
  unfold startlineParse at h
  split at h
  · rw [startlineParseresp, exists_ok_bind] at h
    obtain ⟨statuscode, -, h⟩ := h
    rw [exists_ok_bind] at h
    obtain ⟨reasonphrase, -, h⟩ := h
    split at h
    · cases h
    · split at h
      · cases h
      · dsimp only at h
        split at h
        · cases h
        · cases h
          exact ⟨_, _, _, _, _, rfl⟩
  · rw [startlineParsereq, exists_ok_bind] at h
    obtain ⟨p2, -, h⟩ := h
    split at h
    · cases h
    · split at h
      · cases h
      · rw [exists_ok_bind] at h
        obtain ⟨p1, -, h⟩ := h
        dsimp only at h
        split at h
        · cases h
        · rw [exists_ok_bind] at h
          obtain ⟨version, -, h⟩ := h
          cases h
          exact ⟨_, _, _, _, _, rfl⟩

/-- What every setter of a header keeps. -/
structure HeaderInvariant (parsers : MessageParsers) (P : SipFields → Prop) : Prop where
  setKnown : ∀ {sip : SipMessage} (kind : HeaderKind) (hvalue : Option Str), P sip.fields →
    P (sip.setKnown parsers.toHeaderParsers kind hvalue).2.fields
  setHeader : ∀ {sip : SipMessage} (hname hvalue : Option Str), P sip.fields →
    P (sip.setHeader hvalue hname).2.fields

/-- What every step of the parser keeps. -/
structure ParseInvariant (parsers : MessageParsers) (P : SipFields → Prop) : Prop where
  init : P SipFields.init
  startline : ∀ {sip sip' : SipMessage} {buf headers : Str}, P sip.fields →
    sip.startlineParse parsers buf = .ok (sip', headers) → P sip'.fields
  setKnown : ∀ {sip : SipMessage} (kind : HeaderKind) (hvalue : Option Str), P sip.fields →
    P (sip.setKnown parsers.toHeaderParsers kind hvalue).2.fields
  setHeader : ∀ {sip : SipMessage} (hname hvalue : Option Str), P sip.fields →
    P (sip.setHeader hvalue hname).2.fields
  bodies : ∀ {fields : SipFields} (bodies : List Body), P fields → P { fields with bodies }

namespace HeaderInvariant

variable {parsers : MessageParsers} {P : SipFields → Prop} (inv : HeaderInvariant parsers P)
include inv

theorem setOneHeader {sip sip' : SipMessage} {hname : Str} {hvalue : Option Str}
    (h : P sip.fields) (hset : SipMessage.setOneHeader parsers sip hname hvalue = .ok sip') :
    P sip'.fields := by
  unfold SipMessage.setOneHeader at hset
  split at hset
  · cases hset
    exact inv.setHeader _ _ h
  · dsimp only at hset
    split at hset
    · cases hset
      exact inv.setKnown _ _ h
    · cases hset

theorem splitValues {hname : Str} {sip sip' : SipMessage} {beg hvalue : Str}
    {inquotes inuri : Bool} (h : P sip.fields)
    (hset : SipMessage.splitValues parsers hname sip beg inquotes inuri hvalue = .ok sip') :
    P sip'.fields := by
  induction hvalue generalizing sip beg inquotes inuri with
  | nil =>
      rw [SipMessage.splitValues] at hset
      split at hset
      · cases hset
        exact h
      · exact inv.setOneHeader h hset
  | cons c ptr ih =>
      rw [SipMessage.splitValues] at hset
      split at hset
      · split at hset
        · exact ih h hset
        · split at hset
          · cases hset
          · next stored hstored => exact ih (inv.setOneHeader h hstored) hset
      · exact ih h hset

theorem setMultipleHeader {sip sip' : SipMessage} {hname : Str} {hvalue : Option Str}
    (h : P sip.fields)
    (hset : SipMessage.setMultipleHeader parsers sip hname hvalue = .ok sip') : P sip'.fields := by
  unfold SipMessage.setMultipleHeader at hset
  dsimp only at hset
  split at hset
  · exact inv.setOneHeader h hset
  · split at hset
    · exact inv.setOneHeader h hset
    · exact inv.splitValues h hset

theorem msgHeadersParse {fuel : Nat} {sip sip' : SipMessage} {startOfHeader : Str}
    {body : Option Str} (h : P sip.fields)
    (hparse : SipMessage.msgHeadersParse parsers fuel sip startOfHeader = .ok (sip', body)) :
    P sip'.fields := by
  induction fuel generalizing sip startOfHeader with
  | zero => cases hparse
  | succ fuel ih =>
      rw [SipMessage.msgHeadersParse] at hparse
      split at hparse
      · cases hparse
        exact h
      · split at hparse
        · split at hparse
          · cases hparse
            exact h
          · cases hparse
        · split at hparse
          · cases hparse
            exact h
          · rw [exists_ok_bind] at hparse
            obtain ⟨field, -, hparse⟩ := hparse
            dsimp only at hparse
            split at hparse
            · cases hparse
            · next stored hstored => exact ih (inv.setMultipleHeader h hstored) hparse

end HeaderInvariant

namespace ParseInvariant

variable {parsers : MessageParsers} {P : SipFields → Prop} (inv : ParseInvariant parsers P)
include inv

theorem headers : HeaderInvariant parsers P := ⟨inv.setKnown, inv.setHeader⟩

theorem setContentLength {sip : SipMessage} (hvalue : Option Str) (h : P sip.fields) :
    P (sip.setContentLength hvalue).2.fields := inv.setKnown .contentLength hvalue h

theorem withContentLength {sip : SipMessage} (h : P sip.fields) : P sip.withContentLength.fields := by
  unfold SipMessage.withContentLength
  split
  · exact h
  · exact inv.setContentLength _ h

theorem singleBodyParse {sip sip' : SipMessage} {startOfBuf : Str} (h : P sip.fields)
    (hparse : sip.singleBodyParse startOfBuf = .ok sip') : P sip'.fields := by
  rw [SipMessage.singleBodyParse, exists_ok_bind] at hparse
  obtain ⟨body, -, hparse⟩ := hparse
  have hstored : ∀ bodyLen : Nat,
      P ((if sip.fields.contentLength.isSome then sip
        else (sip.setContentLength (some (SipFields.sizeToStr bodyLen))).2).setBody
          (some (body.take bodyLen))).2.fields := by
    intro bodyLen
    apply inv.bodies
    split
    · exact h
    · exact inv.setContentLength _ h
  split at hparse
  · cases hparse
  · dsimp only at hparse
    rw [← eq_of_ite_error hparse]
    exact hstored _

theorem bodyParse {sip sip' : SipMessage} {startOfBuf : Str} (h : P sip.fields)
    (hparse : sip.bodyParse startOfBuf = .ok sip') : P sip'.fields := by
  unfold SipMessage.bodyParse at hparse
  split at hparse
  · split at hparse
    · simp only [exists_ok_bind] at hparse
      obtain ⟨gvalue, -, bodies, -, hparse⟩ := hparse
      cases hparse
      exact inv.bodies _ h
    · exact inv.singleBodyParse h (returnCode_eq_ok.1 hparse)
  · cases hparse
    exact h

theorem parse {buf : Str} {sip : SipMessage} (h : SipMessage.parse parsers buf = .ok sip) :
    P sip.fields := by
  unfold SipMessage.parse at h
  simp only [exists_ok_bind, returnCode_eq_ok] at h
  obtain ⟨⟨start, headers⟩, hstart, ⟨parsed, body⟩, hheaders, hbodies⟩ := h
  have hparsed := inv.headers.msgHeadersParse (inv.startline inv.init hstart) hheaders
  unfold parseBodies at hbodies
  split at hbodies
  · cases hbody : parsed.bodyParse (body.getD headers) with
    | error e =>
        rw [hbody] at hbodies
        cases hbodies
    | ok stored =>
        rw [hbody] at hbodies
        cases hbodies
        exact inv.withContentLength (inv.bodyParse hparsed hbody)
  · cases hbodies
    exact inv.withContentLength hparsed

end ParseInvariant

/-! ### The addresses of a message -/

/-- The headers that hold an address can be cloned. -/
structure AddressesComplete (sip : SipFields) : Prop where
  contacts : ∀ contact ∈ sip.contacts, contact.complete = true
  recordRoutes : ∀ route ∈ sip.recordRoutes, route.complete = true
  routes : ∀ route ∈ sip.routes, route.complete = true
  fromHeader : ∀ header ∈ sip.fromHeader, header.complete = true
  toHeader : ∀ header ∈ sip.toHeader, header.complete = true

theorem setList_keeps {α : Type} {P : SipFields → Prop} {sip : SipMessage} {hvalue : Option Str}
    {parse : Str → Except Int α} {add : α → SipFields} (h : P sip.fields)
    (hadd : ∀ a, parse (hvalue.getD []) = .ok a → P (add a)) :
    P (setList sip hvalue parse add).2.fields := by
  unfold setList
  split
  · exact h
  · split
    · exact h
    · next a ha => exact hadd a ha

theorem setSimple_keeps {α : Type} {P : SipFields → Prop} {sip : SipMessage} {hvalue : Option Str}
    {current : Option α} {alreadySet : Int} {parse : Str → Except Int α} {set : α → SipFields}
    (h : P sip.fields) (hset : ∀ a, parse (hvalue.getD []) = .ok a → P (set a)) :
    P (setSimple sip hvalue current alreadySet parse set).2.fields := by
  unfold setSimple
  split
  · exact h
  · split
    · exact h
    · split
      · exact h
      · next a ha => exact hset a ha

theorem forall_mem_append_singleton {α : Type} {p : α → Prop} {l : List α} {a : α}
    (h : ∀ b ∈ l, p b) (ha : p a) : ∀ b ∈ l ++ [a], p b := by
  intro b hb
  cases List.mem_append.1 hb with
  | inl hl => exact h b hl
  | inr hsingle =>
      rw [List.mem_singleton.1 hsingle]
      exact ha

/-- The parsers of addresses give only such as can be cloned. -/
def Completes (parsers : MessageParsers) : Prop :=
  ∀ hvalue header, parsers.fromParse hvalue = .ok header → header.complete = true

theorem contactParse_complete {parsers : MessageParsers} (h : Completes parsers) {hvalue : Str}
    {contact : Contact} (hparse : parsers.contactParse hvalue = .ok contact) :
    contact.complete = true := by
  unfold HeaderParsers.contactParse at hparse
  split at hparse
  · cases hparse
    rfl
  · exact h hvalue contact hparse

theorem setKnown_addresses {parsers : MessageParsers} (hparsers : Completes parsers)
    {sip : SipMessage} (kind : HeaderKind) (hvalue : Option Str) (h : AddressesComplete sip.fields) :
    AddressesComplete (sip.setKnown parsers.toHeaderParsers kind hvalue).2.fields := by
  have hframe : ∀ fields : SipFields, fields.contacts = sip.fields.contacts →
      fields.recordRoutes = sip.fields.recordRoutes → fields.routes = sip.fields.routes →
      fields.fromHeader = sip.fields.fromHeader → fields.toHeader = sip.fields.toHeader →
      AddressesComplete fields := by
    intro fields h1 h2 h3 h4 h5
    exact ⟨h1 ▸ h.contacts, h2 ▸ h.recordRoutes, h3 ▸ h.routes, h4 ▸ h.fromHeader, h5 ▸ h.toHeader⟩
  cases kind with
  | recordRoute =>
      apply setList_keeps h
      intro header hheader
      exact { h with recordRoutes := forall_mem_append_singleton h.recordRoutes (hparsers _ _ hheader) }
  | route =>
      apply setList_keeps h
      intro header hheader
      exact { h with routes := forall_mem_append_singleton h.routes (hparsers _ _ hheader) }
  | contact =>
      apply setList_keeps h
      intro contact hcontact
      exact { h with
        contacts := forall_mem_append_singleton h.contacts (contactParse_complete hparsers hcontact) }
  | fromHeader =>
      apply setSimple_keeps h
      intro header hheader
      exact { h with fromHeader := fun _ heq => Option.some.inj heq ▸ hparsers _ _ hheader }
  | toHeader =>
      apply setSimple_keeps h
      intro header hheader
      exact { h with toHeader := fun _ heq => Option.some.inj heq ▸ hparsers _ _ hheader }
  | accept =>
      unfold setKnown setAccept
      dsimp only
      split
      · exact h
      · exact hframe _ rfl rfl rfl rfl rfl
  | contentType =>
      unfold setKnown setContentType
      dsimp only
      split
      · exact h
      · exact setSimple_keeps h fun _ _ => hframe _ rfl rfl rfl rfl rfl
  | callId | cseq | contentLength | mimeVersion =>
      exact setSimple_keeps h fun _ _ => hframe _ rfl rfl rfl rfl rfl
  | _ => exact setList_keeps h fun _ _ => hframe _ rfl rfl rfl rfl rfl

theorem startlineParse_addresses {parsers : MessageParsers} {sip sip' : SipMessage}
    {buf headers : Str} (h : AddressesComplete sip.fields)
    (hparse : sip.startlineParse parsers buf = .ok (sip', headers)) :
    AddressesComplete sip'.fields := by
  obtain ⟨_, _, _, _, _, rfl⟩ := startlineParse_fields hparse
  exact ⟨h.contacts, h.recordRoutes, h.routes, h.fromHeader, h.toHeader⟩

theorem addresses_invariant {parsers : MessageParsers} (hparsers : Completes parsers) :
    ParseInvariant parsers AddressesComplete where
  init :=
    { contacts := fun _ h => absurd h List.not_mem_nil
      recordRoutes := fun _ h => absurd h List.not_mem_nil
      routes := fun _ h => absurd h List.not_mem_nil
      fromHeader := fun _ h => by cases h
      toHeader := fun _ h => by cases h }
  startline h hparse := startlineParse_addresses h hparse
  setKnown kind hvalue h := setKnown_addresses hparsers kind hvalue h
  setHeader hname hvalue h := by
    cases hname with
    | none => exact h
    | some hname => exact ⟨h.contacts, h.recordRoutes, h.routes, h.fromHeader, h.toHeader⟩
  bodies _ h := ⟨h.contacts, h.recordRoutes, h.routes, h.fromHeader, h.toHeader⟩

theorem addresses_parse {parsers : MessageParsers} (hparsers : Completes parsers) {buf : Str}
    {sip : SipMessage} (h : parse parsers buf = .ok sip) : AddressesComplete sip.fields :=
  (addresses_invariant hparsers).parse h

theorem completes_osipFromParse {parsers : MessageParsers}
    (h : parsers.fromParse = osipFromParse osipUriParse) : Completes parsers := by
  intro hvalue header hparse
  rw [h] at hparse
  exact complete_osipFromParse (fun _ _ => complete_osipUriParse) hparse

end SipMessage
end Exosip
