import Exosip.Parser.Parse
import Exosip.Tcp.Framing

/-! Whether the receive loop finds the end of each message where the parser finds it: exactly
when the line that it takes for the Content-Length is there and gives the length. -/
namespace Exosip

open CString Machine

namespace SipMessage

/-- The first part of `osip_message_parse`: the message with its headers, and where the bodies
are looked for. -/
def headersRead (parsers : MessageParsers) (buf : Str) : Result (SipMessage × Str) := do
  let tmp := osipUtilReplaceAllLws (buf.dropWhile isLineBreak)
  let (sip, headers) ← SipFields.returnCode (init.startlineParse parsers tmp)
  let (sip, body) ←
    SipFields.returnCode (msgHeadersParse parsers (headers.length + 1) sip headers)
  .ok (sip, body.getD headers)

theorem parse_eq_headersRead (parsers : MessageParsers) (buf : Str) :
    parse parsers buf = headersRead parsers buf >>= fun read => read.1.parseBodies read.2 := by
  unfold parse headersRead
  simp only [bind_assoc]
  rfl

def lengthRead (parsers : MessageParsers) (buf : Str) : Option Int :=
  (headersRead parsers buf).toOption.bind fun read =>
    read.1.fields.contentLength.map fun contentLength => osipAtoi (contentLength.value.getD [])

end SipMessage

namespace Tcp

/-! ### The search for the length -/

/-- The text begins with the spelling, whatever its case. -/
def Begins (spelling text : Str) : Prop :=
  osipStrncasecmp text spelling spelling.length = true

/-- The first occurrence of the spelling in the headers. -/
structure FirstSpelled (spelling headers line : Str) : Prop where
  suffix : line <:+ headers
  begins : Begins spelling line
  first : ∀ earlier, earlier <:+ headers → line.length < earlier.length → ¬ Begins spelling earlier

def clenSpellings : List Str :=
  [clenHeaderStr, clenHeaderStr2, clenHeaderCompactStr, clenHeaderCompactStr2]

/-- No line of the headers begins with the spelling. -/
def Unspelled (headers spelling : Str) : Prop := ∀ line, line <:+ headers → ¬ Begins spelling line

/-- The line that is looked for first is there, and behind its colon stands the number. -/
def Spelled (headers : Str) (n : Int) : Prop :=
  ∃ missing spelling others line name number,
    clenSpellings = missing ++ spelling :: others ∧ (∀ s ∈ missing, Unspelled headers s) ∧
      FirstSpelled spelling headers line ∧ line = name ++ ':' :: number ∧ ':' ∉ name ∧
        atoi number = n

/-- The headers say how long the body is, or say nothing and there is none. -/
def Announces (headers : Str) (n : Int) : Prop :=
  Spelled headers n ∨ (n = 0 ∧ ∀ spelling ∈ clenSpellings, Unspelled headers spelling)

theorem begins_cons {c : Char} {needle text : Str} :
    Begins (c :: needle) text ↔
      ∃ sc rest, text = sc :: rest ∧ tolower sc = tolower c ∧
        osipStrncasecmp rest needle needle.length = true := by
  cases text with
  | nil => simp [Begins, osipStrncasecmp, osipStrcasecmp]
  | cons sc rest => simp [Begins, osipStrncasecmp, osipStrcasecmp]

theorem osipStrcasestr_cons {sc : Char} {haystack needle : Str} (h : needle ≠ []) :
    (Begins needle (sc :: haystack) ∧
      osipStrcasestr (sc :: haystack) needle = some (sc :: haystack)) ∨
    (¬ Begins needle (sc :: haystack) ∧
      osipStrcasestr (sc :: haystack) needle = osipStrcasestr haystack needle) := by
  cases needle with
  | nil => exact absurd rfl h
  | cons c needle =>
      rw [begins_cons, osipStrcasestr]
      by_cases hbegins : tolower sc = tolower c ∧
          osipStrncasecmp haystack needle needle.length = true
      · rw [if_pos hbegins]
        exact .inl ⟨⟨sc, haystack, rfl, hbegins⟩, rfl⟩
      · rw [if_neg hbegins]
        refine .inr ⟨?_, rfl⟩
        rintro ⟨_, _, heq, hfound⟩
        rw [List.cons.injEq] at heq
        rw [← heq.1, ← heq.2] at hfound
        exact hbegins hfound

theorem not_begins_nil {needle : Str} (h : needle ≠ []) : ¬ Begins needle [] := by
  cases needle with
  | nil => exact absurd rfl h
  | cons c needle => simp [begins_cons]

theorem unspelled_cons {sc : Char} {haystack needle : Str} :
    Unspelled (sc :: haystack) needle ↔
      ¬ Begins needle (sc :: haystack) ∧ Unspelled haystack needle := by
  unfold Unspelled
  simp only [List.suffix_cons_iff, forall_eq_or_imp]

theorem firstSpelled_self {sc : Char} {haystack needle : Str}
    (hbegins : Begins needle (sc :: haystack)) {line : Str} :
    FirstSpelled needle (sc :: haystack) line ↔ sc :: haystack = line := by
  constructor
  · intro h
    rcases List.suffix_cons_iff.1 h.suffix with heq | hsuffix
    · exact heq.symm
    · have hlen := hsuffix.length_le
      exact absurd hbegins (h.first _ List.suffix_rfl (by rw [List.length_cons]; omega))
  · intro h
    rw [← h]
    refine ⟨List.suffix_rfl, hbegins, ?_⟩
    intro earlier hearlier hlonger
    have hlen := hearlier.length_le
    omega

theorem firstSpelled_cons {sc : Char} {haystack needle : Str}
    (hbegins : ¬ Begins needle (sc :: haystack)) {line : Str} :
    FirstSpelled needle (sc :: haystack) line ↔ FirstSpelled needle haystack line := by
  constructor
  · intro h
    refine ⟨?_, h.begins, ?_⟩
    · apply (List.suffix_cons_iff.1 h.suffix).resolve_left
      intro heq
      exact hbegins (heq ▸ h.begins)
    · intro earlier hearlier
      exact h.first earlier (hearlier.trans (List.suffix_cons sc haystack))
  · intro h
    refine ⟨h.suffix.trans (List.suffix_cons sc haystack), h.begins, ?_⟩
    intro earlier hearlier hlonger
    rcases List.suffix_cons_iff.1 hearlier with heq | hsuffix
    · rw [heq]
      exact hbegins
    · exact h.first earlier hsuffix hlonger

theorem osipStrcasestr_eq_none {haystack needle : Str} (h : needle ≠ []) :
    osipStrcasestr haystack needle = none ↔ Unspelled haystack needle := by
  induction haystack with
  | nil =>
      cases needle with
      | nil => exact absurd rfl h
      | cons c needle => simpa [osipStrcasestr, Unspelled] using not_begins_nil h
  | cons sc haystack ih =>
      rw [unspelled_cons]
      rcases osipStrcasestr_cons h with ⟨hbegins, hfound⟩ | ⟨hbegins, hfound⟩
      · rw [hfound]
        exact iff_of_false (Option.some_ne_none _) fun hnone => hnone.1 hbegins
      · rw [hfound, ih]
        exact (and_iff_right hbegins).symm

theorem osipStrcasestr_eq_some {haystack needle line : Str} (h : needle ≠ []) :
    osipStrcasestr haystack needle = some line ↔ FirstSpelled needle haystack line := by
  induction haystack with
  | nil =>
      cases needle with
      | nil => exact absurd rfl h
      | cons c needle =>
          refine iff_of_false (Option.some_ne_none _ ∘ Eq.symm) ?_
          intro hfirst
          have hnil : line = [] := List.suffix_nil.1 hfirst.suffix
          exact not_begins_nil h (hnil ▸ hfirst.begins)
  | cons sc haystack ih =>
      rcases osipStrcasestr_cons h with ⟨hbegins, hfound⟩ | ⟨hbegins, hfound⟩
      · rw [hfound, firstSpelled_self hbegins, Option.some.injEq]
      · rw [hfound, firstSpelled_cons hbegins, ih]

theorem ne_nil_of_mem_clenSpellings {spelling : Str} (h : spelling ∈ clenSpellings) :
    spelling ≠ [] := by
  have hall : ∀ s ∈ clenSpellings, s ≠ [] := by decide
  exact hall spelling h

theorem clenHeader_eq_findSome (headers : Str) :
    clenHeader headers = clenSpellings.findSome? (osipStrcasestr headers) := by
  unfold clenHeader clenSpellings
  simp only [List.findSome?]
  cases osipStrcasestr headers clenHeaderStr with
  | some line => rfl
  | none =>
      cases osipStrcasestr headers clenHeaderStr2 with
      | some line => rfl
      | none =>
          cases osipStrcasestr headers clenHeaderCompactStr with
          | some line => rfl
          | none =>
              cases osipStrcasestr headers clenHeaderCompactStr2 with
              | some line => rfl
              | none => rfl

theorem clenHeader_eq_none {headers : Str} :
    clenHeader headers = none ↔ ∀ spelling ∈ clenSpellings, Unspelled headers spelling := by
  rw [clenHeader_eq_findSome, List.findSome?_eq_none_iff]
  apply forall₂_congr
  intro spelling hspelling
  exact osipStrcasestr_eq_none (ne_nil_of_mem_clenSpellings hspelling)

theorem clenHeader_eq_some {headers line : Str} :
    clenHeader headers = some line ↔
      ∃ missing spelling others, clenSpellings = missing ++ spelling :: others ∧
        (∀ s ∈ missing, Unspelled headers s) ∧ FirstSpelled spelling headers line := by
  have hmem {missing others : List Str} {spelling : Str}
      (heq : clenSpellings = missing ++ spelling :: others) :
      spelling ∈ clenSpellings ∧ ∀ s ∈ missing, s ∈ clenSpellings := by
    rw [heq]
    exact ⟨by simp, fun s hs => List.mem_append_left _ hs⟩
  rw [clenHeader_eq_findSome, List.findSome?_eq_some_iff]
  constructor
  · intro h
    obtain ⟨missing, spelling, others, heq, hfound, hmissing⟩ := h
    refine ⟨missing, spelling, others, heq, ?_, ?_⟩
    · intro s hs
      have hne := ne_nil_of_mem_clenSpellings ((hmem heq).2 s hs)
      exact (osipStrcasestr_eq_none hne).1 (hmissing s hs)
    · exact (osipStrcasestr_eq_some (ne_nil_of_mem_clenSpellings (hmem heq).1)).1 hfound
  · intro h
    obtain ⟨missing, spelling, others, heq, hmissing, hfirst⟩ := h
    refine ⟨missing, spelling, others, heq, ?_, ?_⟩
    · exact (osipStrcasestr_eq_some (ne_nil_of_mem_clenSpellings (hmem heq).1)).2 hfirst
    · intro s hs
      have hne := ne_nil_of_mem_clenSpellings ((hmem heq).2 s hs)
      exact (osipStrcasestr_eq_none hne).2 (hmissing s hs)

theorem strchr_map_atoi {line : Str} {n : Int} :
    ((strchr line ':').map fun colon => atoi colon.tail) = some n ↔
      ∃ name number, line = name ++ ':' :: number ∧ ':' ∉ name ∧ atoi number = n := by
  rw [Option.map_eq_some_iff]
  constructor
  · intro h
    obtain ⟨colon, hcolon, hn⟩ := h
    obtain ⟨name, number, hline, hname, hrest⟩ := strchr_eq_some_iff.1 hcolon
    rw [hrest, List.tail_cons] at hn
    exact ⟨name, number, hline, hname, hn⟩
  · intro h
    obtain ⟨name, number, hline, hname, hn⟩ := h
    exact ⟨':' :: number, strchr_eq_some_iff.2 ⟨name, number, hline, hname, rfl⟩, hn⟩

theorem contentLength_eq_some {headers : Str} {n : Int} :
    contentLength headers = some n ↔ Announces headers n := by
  unfold contentLength Announces Spelled
  cases hfound : clenHeader headers with
  | none =>
      have hnone := clenHeader_eq_none.1 hfound
      dsimp only
      rw [Option.some.injEq]
      constructor
      · intro h
        exact .inr ⟨h.symm, hnone⟩
      · intro h
        rcases h with ⟨missing, spelling, others, line, name, number, heq, hmissing, hfirst, -⟩ | h
        · have hsome := clenHeader_eq_some.2 ⟨missing, spelling, others, heq, hmissing, hfirst⟩
          rw [hfound] at hsome
          cases hsome
        · exact h.1.symm
  | some line =>
      obtain ⟨missing, spelling, others, heq, hmissing, hfirst⟩ := clenHeader_eq_some.1 hfound
      dsimp only
      rw [strchr_map_atoi]
      constructor
      · intro h
        obtain ⟨name, number, hline, hname, hn⟩ := h
        exact .inl ⟨missing, spelling, others, line, name, number, heq, hmissing, hfirst, hline,
          hname, hn⟩
      · intro h
        rcases h with ⟨missing, spelling, others, line', name, number, heq, hmissing, hfirst, h⟩ | h
        · have hsome := clenHeader_eq_some.2 ⟨missing, spelling, others, heq, hmissing, hfirst⟩
          rw [hfound, Option.some.injEq] at hsome
          rw [hsome]
          exact ⟨name, number, h⟩
        · have hnone := clenHeader_eq_none.2 h.2
          rw [hfound] at hnone
          cases hnone

/-! ### The messages -/

/-- A message that the parser accepts, whose Content-Length it reads as the number of the
bytes behind the headers. -/
structure WholeMessage (parsers : MessageParsers) where
  headers : Str
  body : Str
  nonempty : headers ≠ []
  ends : bufferFind (headers ++ endHeadersStr) endHeadersStr = some headers.length
  accepted : (Exosip.SipMessage.parse parsers (headers ++ endHeadersStr ++ body)).isOk = true
  length : Exosip.SipMessage.lengthRead parsers (headers ++ endHeadersStr ++ body) =
    some (body.length : Int)

namespace WholeMessage

variable {parsers : MessageParsers}

def toStr (msg : WholeMessage parsers) : Str := msg.headers ++ endHeadersStr ++ msg.body

/-- The receive loop can find the end: the text of the headers announces the body, and the
message is not too long for an `int`. -/
structure Framed (msg : WholeMessage parsers) : Prop where
  announces : Announces (msg.headers.takeWhile (· ≠ Char.ofNat 0)) msg.body.length
  short : msg.toStr.length < 2 ^ 31

/-- The messages that are handed on are those that were sent, one call each. -/
def Delivered (msgs : List (WholeMessage parsers)) : Prop :=
  (handleMessages (msgs.flatMap toStr)).1.filterMap Consumed.incomingMessage = msgs.map toStr

theorem toStr_append (msg : WholeMessage parsers) (more : Str) :
    msg.toStr ++ more = msg.headers ++ endHeadersStr ++ (msg.body ++ more) := by
  rw [toStr, List.append_assoc]

theorem handleMessage_toStr (msg : WholeMessage parsers) (more : Str) :
    handleMessage (msg.toStr ++ more) =
      match contentLength (msg.headers.takeWhile (· ≠ Char.ofNat 0)) with
      | none => .fault
      | some clen => handleBody (msg.toStr ++ more).length msg.headers.length clen := by
  have hne : msg.headers.length ≠ 0 := by
    rw [ne_eq, List.length_eq_zero_iff]
    exact msg.nonempty
  have hheaders : (msg.toStr ++ more).take msg.headers.length = msg.headers := by
    rw [toStr_append, List.append_assoc, List.take_left]
  have hfind : bufferFind (msg.toStr ++ more) endHeadersStr = some msg.headers.length := by
    rw [toStr_append]
    exact bufferFind_append msg.ends
  cases hlength : contentLength (msg.headers.takeWhile (· ≠ Char.ofNat 0)) with
  | none => simp only [handleMessage, hfind, hheaders, if_neg hne, hlength]
  | some clen => simp only [handleMessage, hfind, hheaders, if_neg hne, hlength]

theorem handleBody_eq_message {buflen endHeaders n : Nat} {clen : Int} :
    handleBody buflen endHeaders clen = .message n ↔
      0 ≤ clen ∧ toInt32 (endHeaders + endHeadersStr.length + clen) = n ∧ 0 < n ∧ n ≤ buflen := by
  simp only [handleBody]
  split_ifs with hneg hwait hzero
  · apply iff_of_false not_false
    omega
  · apply iff_of_false not_false
    omega
  · apply iff_of_false not_false
    omega
  · rw [Round.message.injEq]
    constructor
    · intro h
      omega
    · intro h
      omega

theorem contentLength_lt {headers : Str} {clen : Int} (h : contentLength headers = some clen) :
    clen < 2 ^ 31 := by
  unfold contentLength at h
  split at h
  · rw [Option.some.injEq] at h
    omega
  · obtain ⟨colon, -, hclen⟩ := Option.map_eq_some_iff.1 h
    rw [← hclen]
    exact (toInt32_range _).2

theorem length_toStr (msg : WholeMessage parsers) :
    msg.toStr.length = msg.headers.length + endHeadersStr.length + msg.body.length := by
  rw [toStr, List.length_append, List.length_append]

theorem toInt32_eq_length {sum : Int} {n : Nat} (h0 : 0 ≤ sum) (hlt : sum < 2 ^ 32) :
    toInt32 sum = n ↔ sum = n ∧ n < 2 ^ 31 := by
  rw [toInt32]
  constructor
  · intro h
    have hdiv := Int.bmod_def sum (2 ^ 32)
    rw [Int.emod_eq_of_lt h0 (by simpa using hlt)] at hdiv
    rw [h] at hdiv
    split_ifs at hdiv <;> omega
  · intro h
    rw [Int.bmod_eq_of_le] <;> omega

theorem handleMessage_eq_message (msg : WholeMessage parsers) (more : Str) :
    handleMessage (msg.toStr ++ more) = .message msg.toStr.length ↔ msg.Framed := by
  have hlength := msg.length_toStr
  have hpos : 0 < endHeadersStr.length := by decide
  rw [handleMessage_toStr]
  cases hclen : contentLength (msg.headers.takeWhile (· ≠ Char.ofNat 0)) with
  | none =>
      apply iff_of_false Round.noConfusion
      intro h
      have hsome := contentLength_eq_some.2 h.announces
      rw [hclen] at hsome
      cases hsome
  | some clen =>
      have hlt := contentLength_lt hclen
      dsimp only
      rw [handleBody_eq_message, List.length_append]
      constructor
      · intro h
        obtain ⟨h0, hsum, -, -⟩ := h
        have hresult := (toInt32_range (msg.headers.length + endHeadersStr.length + clen)).2
        obtain ⟨hexact, hshort⟩ := (toInt32_eq_length (by omega) (by omega)).1 hsum
        refine ⟨contentLength_eq_some.1 ?_, hshort⟩
        rw [hclen, Option.some.injEq]
        omega
      · intro h
        have hbody := contentLength_eq_some.2 h.announces
        rw [hclen, Option.some.injEq] at hbody
        have hshort := h.short
        refine ⟨by omega, ?_, by omega, by omega⟩
        rw [toInt32_eq_length (by omega) (by omega)]
        omega

def handedOn (stream : Str) : List Str :=
  (messageFramer.drain stream).1.filterMap Consumed.incomingMessage

theorem delivered_iff_handedOn {msgs : List (WholeMessage parsers)} :
    Delivered msgs ↔ handedOn (msgs.flatMap toStr) = msgs.map toStr := by
  rw [Delivered, handleMessages_eq]
  exact Iff.rfl

theorem delivered_cons {msg : WholeMessage parsers} {msgs : List (WholeMessage parsers)} :
    Delivered (msg :: msgs) ↔ msg.Framed ∧ Delivered msgs := by
  rw [delivered_iff_handedOn, delivered_iff_handedOn, List.flatMap_cons, List.map_cons,
    ← handleMessage_eq_message msg (msgs.flatMap toStr)]
  cases hround : handleMessage (msg.toStr ++ msgs.flatMap toStr) with
  | incomplete =>
      have hcut : messageFramer.cut (msg.toStr ++ msgs.flatMap toStr) = .wait := by
        simp [messageFramer, hround]
      rw [handedOn, Framer.drain_wait hcut]
      apply iff_of_false
      · intro h
        cases h
      · intro h
        cases h.1
  | keepalive =>
      rw [handleMessage_toStr] at hround
      split at hround
      · cases hround
      · exact absurd hround (handleBody_ne_keepalive _ _ _)
  | discard =>
      have hcut : messageFramer.cut (msg.toStr ++ msgs.flatMap toStr) = .flush := by
        simp [messageFramer, hround]
      rw [handedOn, Framer.drain_flush hcut]
      apply iff_of_false
      · intro h
        cases h
      · intro h
        cases h.1
  | message msglen =>
      have hcut : messageFramer.cut (msg.toStr ++ msgs.flatMap toStr) =
          .take msglen (.message ((msg.toStr ++ msgs.flatMap toStr).take msglen)) := by
        simp [messageFramer, hround]
      have hsize := (handleMessage_message hround).2
      have hfirst : handedOn (msg.toStr ++ msgs.flatMap toStr) =
          (msg.toStr ++ msgs.flatMap toStr).take msglen ::
            handedOn ((msg.toStr ++ msgs.flatMap toStr).drop msglen) := by
        rw [handedOn, Framer.drain_take hcut]
        rfl
      rw [hfirst, List.cons.injEq, Round.message.injEq]
      constructor
      · intro h
        have hlen := congrArg List.length h.1
        rw [List.length_take, Nat.min_eq_left hsize] at hlen
        refine ⟨hlen, ?_⟩
        rw [hlen, List.drop_left] at h
        exact h.2
      · intro h
        rw [h.1, List.take_left, List.drop_left]
        exact ⟨rfl, h.2⟩
  | fault =>
      have hcut : messageFramer.cut (msg.toStr ++ msgs.flatMap toStr) = .halt := by
        simp [messageFramer, hround]
      rw [handedOn, Framer.drain_halt hcut]
      apply iff_of_false
      · intro h
        cases h
      · intro h
        cases h.1

/-- Exactly the messages are handed on exactly when each of them is framed. -/
theorem delivered_iff (msgs : List (WholeMessage parsers)) :
    Delivered msgs ↔ ∀ msg ∈ msgs, msg.Framed := by
  induction msgs with
  | nil =>
      refine iff_of_true ?_ (by simp)
      rw [Delivered, handleMessages_eq]
      exact congrArg (fun r => r.1.filterMap Consumed.incomingMessage)
        (Framer.drain_wait messageFramer.cut_nil)
  | cons msg msgs ih => rw [delivered_cons, ih, List.forall_mem_cons]

/-- A response with a tab before the colon of its length line. -/
def tabbedOk : WholeMessage default where
  headers := "SIP/2.0 200 OK\r\nContent-Type: text/plain\r\nContent-Length\t: 5".toList
  body := "hello".toList
  nonempty := by decide
  ends := by decide +kernel
  accepted := by decide +kernel
  length := by decide +kernel

/-- The length after the tab is not found: only the headers are handed on. -/
theorem not_delivered :
    ¬ ∀ (parsers : MessageParsers) (msgs : List (WholeMessage parsers)), Delivered msgs := by
  intro h
  have hdelivered := h default [tabbedOk]
  revert hdelivered
  unfold Delivered
  decide +kernel

end WholeMessage
end Tcp
end Exosip
