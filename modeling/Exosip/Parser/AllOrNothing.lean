import Exosip.Parser.Serialise

/-! Which failures of a header's `to_str` reach the caller of `osip_message_to_str`. -/
namespace Exosip

open CString

/-- A success means that every header was printed and its text is in the output; a header
that cannot be printed makes the call fail. -/
def AllOrNothing (sip : SipMessage) : Prop :=
  (∀ text, sip.toStr.1 = .ok text → ∀ name toStr, (name, toStr) ∈ sip.fields.present →
    ∃ tmp, toStr = .ok tmp ∧ name ++ textLine tmp <:+: text) ∧
  ∀ name i, (name, .error i) ∈ sip.fields.present → ∃ failure, sip.toStr.1 = .error failure

theorem infix_append_left {s t : Str} (h : s <:+: t) (u : Str) : s <:+: u ++ t :=
  h.trans (List.suffix_append u t).isInfix

theorem infix_append_right {s t : Str} (h : s <:+: t) (u : Str) : s <:+: t ++ u :=
  h.trans (List.prefix_append t u).isInfix

namespace HeaderEntry

theorem mem_present {entry : HeaderEntry} {name : Str} {toStr : Except Int Str} :
    (name, toStr) ∈ entry.present ↔
      name = entry.headerName ∧ (entry.headerData = some toStr ∨ toStr ∈ entry.headerList) := by
  simp only [present, List.mem_map, List.mem_append, Option.mem_toList, Prod.mk.injEq,
    exists_eq_right_right]
  rw [and_comm, eq_comm (a := entry.headerName)]

theorem ok_of_mem_present {entry : HeaderEntry} (hsimple : entry.SimpleEncodes)
    (hlist : entry.ListEncodes) {name : Str} {toStr : Except Int Str}
    (h : (name, toStr) ∈ entry.present) : ∃ tmp, toStr = .ok tmp := by
  cases toStr with
  | ok tmp => exact ⟨tmp, rfl⟩
  | error i =>
      cases (mem_present.1 h).2 with
      | inl h => exact absurd h (hsimple i)
      | inr h => exact absurd h (hlist i)

theorem infix_strcatHeadersOnePerLine {headerName tmp : Str} {headers : List (Except Int Str)}
    {text : Str} (h : strcatHeadersOnePerLine headerName headers = .ok text)
    (hmem : .ok tmp ∈ headers) : headerName ++ textLine tmp <:+: text := by
  induction headers generalizing text with
  | nil => cases hmem
  | cons toStr headers ih =>
      rw [strcatHeadersOnePerLine, exists_ok_bind] at h
      obtain ⟨line, hline, h⟩ := h
      rw [exists_ok_bind] at h
      obtain ⟨rest, hrest, h⟩ := h
      cases h
      rw [List.mem_cons] at hmem
      cases hmem with
      | inl hmem =>
          rw [← hmem, Except.ok.injEq] at hline
          rw [hline]
          exact (List.prefix_append _ _).isInfix
      | inr hmem => exact infix_append_left (ih hrest hmem) _

theorem infix_tableToStr {table : List HeaderEntry} {text : Str} (h : tableToStr table = .ok text)
    {name tmp : Str} (hmem : (name, .ok tmp) ∈ table.flatMap present) :
    name ++ textLine tmp <:+: text := by
  induction table generalizing text with
  | nil => cases hmem
  | cons entry table ih =>
      rw [tableToStr, exists_ok_bind] at h
      obtain ⟨lines, hlines, h⟩ := h
      rw [exists_ok_bind] at h
      obtain ⟨rest, hrest, h⟩ := h
      cases h
      rw [List.flatMap_cons, List.mem_append] at hmem
      cases hmem with
      | inr hmem => exact infix_append_left (ih hrest hmem) _
      | inl hmem =>
          obtain ⟨hname, hmem⟩ := mem_present.1 hmem
          rw [hname, List.append_assoc]
          cases hmem with
          | inl hdata =>
              rw [strcatSimpleHeader, hdata]
              exact (List.prefix_append _ _).isInfix
          | inr hlist =>
              exact infix_append_left
                (infix_append_right (infix_strcatHeadersOnePerLine hlines hlist) rest) _

end HeaderEntry

theorem infix_headersToStr {headers : List Header} {text tmp : Str} {header : Header}
    (h : headersToStr headers = .ok text) (hmem : header ∈ headers)
    (htmp : osipHeaderToStr header = .ok tmp) : textLine tmp <:+: text := by
  induction headers generalizing text with
  | nil => cases hmem
  | cons first headers ih =>
      rw [headersToStr, exists_ok_bind] at h
      obtain ⟨line, hline, h⟩ := h
      rw [exists_ok_bind] at h
      obtain ⟨rest, hrest, h⟩ := h
      cases h
      rw [List.mem_cons] at hmem
      cases hmem with
      | inl hmem =>
          rw [← hmem, htmp, Except.ok.injEq] at hline
          rw [hline]
          exact (List.prefix_append _ _).isInfix
      | inr hmem => exact infix_append_left (ih hrest hmem) _

namespace SipFields

variable {sip : SipFields}

theorem ok_of_mem_present (hrest : sip.RestEncodes) (hsimple : sip.SimpleEncodes) {name : Str}
    {toStr : Except Int Str} (h : (name, toStr) ∈ sip.present) : ∃ tmp, toStr = .ok tmp := by
  rw [present, List.mem_append, List.mem_flatMap, List.mem_map] at h
  cases h with
  | inl h =>
      obtain ⟨entry, hentry, h⟩ := h
      exact HeaderEntry.ok_of_mem_present (hsimple entry hentry) (hrest.lists entry hentry) h
  | inr h =>
      obtain ⟨header, hheader, h⟩ := h
      cases h
      exact hrest.headers header hheader

theorem infix_serialise {text : Str} (h : sip.serialise = .ok text) {name tmp : Str}
    (hmem : (name, .ok tmp) ∈ sip.present) : name ++ textLine tmp <:+: text := by
  obtain ⟨startline, table, headers, -, htable, hheaders, hprefix⟩ := serialise_prefix h
  apply List.IsInfix.trans _ hprefix.isInfix
  rw [present, List.mem_append, List.mem_map] at hmem
  cases hmem with
  | inl hmem =>
      exact infix_append_right (infix_append_left (HeaderEntry.infix_tableToStr htable hmem) _) _
  | inr hmem =>
      obtain ⟨header, hheader, hmem⟩ := hmem
      rw [Prod.mk.injEq] at hmem
      rw [← hmem.1]
      exact infix_append_left (infix_headersToStr hheaders hheader hmem.2) _

theorem mem_present_of_not_simpleEncodes (h : ¬ sip.SimpleEncodes) :
    ∃ name i, (name, .error i) ∈ sip.present := by
  simp only [SimpleEncodes, HeaderEntry.SimpleEncodes, not_forall, not_not] at h
  obtain ⟨entry, hentry, i, hdata⟩ := h
  refine ⟨entry.headerName, i, ?_⟩
  rw [present, List.mem_append, List.mem_flatMap]
  exact Or.inl ⟨entry, hentry, HeaderEntry.mem_present.2 ⟨rfl, Or.inl hdata⟩⟩

end SipFields

/-- Serialisation is all or nothing exactly when the headers that are stored singly can be
printed, or something else in the message cannot. -/
theorem allOrNothing_iff (sip : CoherentMessage) :
    AllOrNothing sip.toSipMessage ↔ (sip.fields.RestEncodes → sip.fields.SimpleEncodes) := by
  rw [AllOrNothing, SipMessage.toStr_of_coherent sip.coherent]
  constructor
  · intro h hrest
    by_contra hsimple
    obtain ⟨name, i, hmem⟩ := SipFields.mem_present_of_not_simpleEncodes hsimple
    obtain ⟨text, htext⟩ := SipFields.serialise_ok_iff.2 hrest
    obtain ⟨failure, hfailure⟩ := h.2 name i hmem
    rw [htext] at hfailure
    cases hfailure
  · intro h
    have hok {text : Str} (htext : sip.fields.serialise = .ok text) {name : Str}
        {toStr : Except Int Str} (hmem : (name, toStr) ∈ sip.fields.present) :
        ∃ tmp, toStr = .ok tmp := by
      have hrest := SipFields.serialise_ok_iff.1 ⟨text, htext⟩
      exact SipFields.ok_of_mem_present hrest (h hrest) hmem
    constructor
    · intro text htext name toStr hmem
      obtain ⟨tmp, rfl⟩ := hok htext hmem
      exact ⟨tmp, rfl, SipFields.infix_serialise htext hmem⟩
    · intro name i hmem
      cases hser : sip.fields.serialise with
      | error failure => exact ⟨failure, rfl⟩
      | ok text =>
          obtain ⟨tmp, htmp⟩ := hok hser hmem
          cases htmp

/-- What the parser makes of `Content-Type: text/plain;x`: a parameter without a value,
which `osip_content_type_to_str` refuses to print. -/
def flagParameter : ContentType := ⟨some "text".toList, some "plain".toList, [⟨['x'], none⟩]⟩

example : ContentType.parse "text/plain;x".toList = .ok flagParameter := by decide +kernel

def flagRequest : SipMessage :=
  ⟨{ SipFields.init with
      sipMethod := some "OPTIONS".toList
      reqUri := some ⟨none, none, none, some "example.org".toList, none, [], [], none⟩
      contentType := some flagParameter }, 2, none, 0⟩

/-- The call succeeds, and its output says `Content-Type: Content-Length: 0`. -/
theorem flagRequest_not_allOrNothing : ¬ AllOrNothing flagRequest := by
  intro h
  have hmem : ("Content-Type: ".toList, .error osipSyntaxerror) ∈ flagRequest.fields.present := by
    decide +kernel
  obtain ⟨failure, hfailure⟩ := h.2 _ _ hmem
  have htext : flagRequest.toStr.1 =
      .ok "OPTIONS sip:example.org SIP/2.0\r\nContent-Type: Content-Length: 0\r\n\r\n".toList := by
    decide +kernel
  rw [htext] at hfailure
  cases hfailure

end Exosip
