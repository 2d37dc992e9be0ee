import Exosip.Parser.ContentLength
import Exosip.Parser.Head
import Exosip.Parser.Unfolding

/-! Where `osip_message_parse` finds the one body of a message, and how much of it is taken. -/
namespace Exosip

open CString SipMessage

/-! ### The empty line -/

/-- A text from its first empty line on; a line ends with CRLF, CR or LF, and the flag says
that one begins here. -/
def firstEmptyLine : Bool → Str → Option Str
  | _, [] => none
  | false, '\r' :: '\n' :: s => firstEmptyLine true s
  | lineStart, c :: s =>
      if isLineBreak c then (if lineStart then some (c :: s) else firstEmptyLine true s)
      else firstEmptyLine false s

def nulLine : Bool → Str → Bool
  | _, [] => false
  | false, '\r' :: '\n' :: s => nulLine true s
  | lineStart, c :: s =>
      if isLineBreak c then !lineStart && nulLine true s
      else (lineStart && c == '\x00') || nulLine false s

def behindEmptyLine (lineStart : Bool) (s : Str) : Str :=
  ((firstEmptyLine lineStart s).map afterLineBreak).getD []

def crEmptyLine (headers : Str) : Bool :=
  (firstEmptyLine true headers).any fun s => s.head? == some '\r' && !crlf.isPrefixOf s

/-! ### The framing of one body -/

/-- A body with these bytes; no bytes are no body. -/
def bodyOf (text : Str) : List Body :=
  if text = [] then [] else [{ Body.init with body := text }]

/-- The body is as many bytes of the rest as Content-Length says, and they are all there;
without a Content-Length it is the rest. -/
def FramesBody (contentLength : Option ContentLength) (rest : Str) (bodies : List Body) : Prop :=
  match contentLength with
  | none => bodies = bodyOf rest
  | some contentLength =>
      ∀ size, lengthValue (contentLength.value.getD []) = some size →
        size ≤ rest.length ∧ bodies = bodyOf (rest.take size)

variable (parsers : MessageParsers)

/-- The buffer behind its first empty line, for which line breaks at the start do not count. -/
def messageRest (buf : Str) : Str := behindEmptyLine false (buf.dropWhile isLineBreak)

def headerSection (buf : Str) : Str :=
  match init.startlineParse parsers (osipUtilReplaceAllLws (buf.dropWhile isLineBreak)) with
  | .ok (_, headers) => headers
  | .error _ => []

def sentLength (buf : Str) : Option ContentLength :=
  match init.startlineParse parsers (osipUtilReplaceAllLws (buf.dropWhile isLineBreak)) with
  | .ok (sip, headers) =>
      match msgHeadersParse parsers (headers.length + 1) sip headers with
      | .ok (sip, _) => sip.fields.contentLength
      | .error _ => none
  | .error _ => none

/-- The header section ends where the buffer has its first empty line, and what stands behind
that is found there and counted by an `int`. -/
def Delimits (contentLength : Option ContentLength) (rest headers : Str) : Prop :=
  match contentLength with
  | none =>
      if nulLine true headers ∨ crEmptyLine headers then rest = []
      else behindEmptyLine true headers = rest
  | some contentLength =>
      ∀ size, lengthValue (contentLength.value.getD []) = some size →
        size = 0 ∨
          size < 2147483648 ∧ (behindEmptyLine true headers).take size = rest.take size

/-- The Content-Type is there and is not of several parts. -/
def SingleType (sip : SipFields) : Prop :=
  ∃ contentType, sip.contentType = some contentType ∧
    contentType.type.any (osipStrcasecmp · "multipart".toList) = false

/-- The body of an accepted message with one body is the one that its Content-Length frames. -/
def SingleBodyFramed (buf : Str) : Prop :=
  ∀ sip, parse parsers buf = .ok sip → SingleType sip.fields →
    FramesBody (sentLength parsers buf) (messageRest buf) sip.fields.bodies

variable {parsers}

/-! ### The scan for the empty line -/

theorem firstEmptyLine_of_ne {c : Char} (h : isLineBreak c = false) (lineStart : Bool) (s : Str) :
    firstEmptyLine lineStart (c :: s) = firstEmptyLine false s := by
  have hcr : c ≠ '\r' := by
    rintro rfl
    cases h
  rw [firstEmptyLine, h, if_neg Bool.false_ne_true]
  intro _ _ hc
  exact absurd hc hcr

theorem nulLine_of_ne {c : Char} (h : isLineBreak c = false) (lineStart : Bool) (s : Str) :
    nulLine lineStart (c :: s) = ((lineStart && c == '\x00') || nulLine false s) := by
  have hcr : c ≠ '\r' := by
    rintro rfl
    cases h
  rw [nulLine, h, if_neg Bool.false_ne_true]
  intro _ _ hc
  exact absurd hc hcr

theorem firstEmptyLine_start {c : Char} (h : isLineBreak c = true) (s : Str) :
    firstEmptyLine true (c :: s) = some (c :: s) := by
  rw [firstEmptyLine, h, if_pos rfl, if_pos rfl]
  intro _ hfalse
  cases hfalse

theorem nulLine_start {c : Char} (h : isLineBreak c = true) (s : Str) :
    nulLine true (c :: s) = false := by
  rw [nulLine, h, if_pos rfl, Bool.not_true, Bool.false_and]
  intro _ hfalse
  cases hfalse

theorem firstEmptyLine_break {c : Char} {s : Str} (h : isLineBreak c = true)
    (hcrlf : ¬ (c = '\r' ∧ s[0]? = some '\n')) :
    firstEmptyLine false (c :: s) = firstEmptyLine true s := by
  rw [firstEmptyLine, h, if_pos rfl, if_neg Bool.false_ne_true]
  intro s' _ hc hs
  exact hcrlf ⟨hc, by rw [hs]; rfl⟩

theorem nulLine_break {c : Char} {s : Str} (h : isLineBreak c = true)
    (hcrlf : ¬ (c = '\r' ∧ s[0]? = some '\n')) : nulLine false (c :: s) = nulLine true s := by
  rw [nulLine, h, if_pos rfl, Bool.not_false, Bool.true_and]
  intro s' _ hc hs
  exact hcrlf ⟨hc, by rw [hs]; rfl⟩

/-- The search for the end of a line goes to where the next line begins. -/
theorem scan_osipFindNextCrlf {s : Str} {n : Nat} (h : osipFindNextCrlf s = .ok n) :
    firstEmptyLine false s = firstEmptyLine true (s.drop n) ∧
      nulLine false s = nulLine true (s.drop n) := by
  induction s generalizing n with
  | nil => cases h
  | cons c s ih =>
      by_cases hnul : c = '\x00'
      · rw [hnul, Lws.osipFindNextCrlf_nul] at h
        cases h
      · cases hbreak : isLineBreak c with
        | false =>
            rw [Lws.osipFindNextCrlf_cons hbreak hnul] at h
            cases hnext : osipFindNextCrlf s with
            | error i =>
                rw [hnext] at h
                cases h
            | ok next =>
                rw [hnext] at h
                cases h
                rw [firstEmptyLine_of_ne hbreak, nulLine_of_ne hbreak, Bool.false_and,
                  Bool.false_or]
                exact ih hnext
        | true =>
            rw [Lws.osipFindNextCrlf_break hbreak] at h
            dsimp only at h
            by_cases hcrlf : c = '\r' ∧ s[0]? = some '\n'
            · rw [if_pos hcrlf] at h
              obtain ⟨tmp, rfl⟩ := Lws.cons_of_head? ((List.head?_eq_getElem?).trans hcrlf.2)
              cases hcrlf.1
              split at h
              · cases h
              · cases h
                exact ⟨rfl, rfl⟩
            · rw [if_neg hcrlf] at h
              split at h
              · cases h
              · cases h
                exact ⟨firstEmptyLine_break hbreak hcrlf, nulLine_break hbreak hcrlf⟩

/-- The loop over the headers ends at the first empty line, unless a NUL ends the text. -/
theorem msgHeadersParse_body {fuel : Nat} {sip sip' : SipMessage} {startOfHeader : Str}
    {body : Option Str}
    (h : msgHeadersParse parsers fuel sip startOfHeader = .ok (sip', body)) :
    body = if nulLine true startOfHeader then none else firstEmptyLine true startOfHeader := by
  induction fuel generalizing sip startOfHeader with
  | zero => cases h
  | succ fuel ih =>
      rw [msgHeadersParse] at h
      cases startOfHeader with
      | nil =>
          cases h
          rfl
      | cons c s =>
          by_cases hnul : c = '\x00'
          · have hempty : cString (c :: s) = [] := by simp [hnul, cString]
            rw [if_pos hempty] at h
            cases h
            rw [hnul, nulLine_of_ne rfl]
            rfl
          · have hne : cString (c :: s) ≠ [] := by simp [hnul, cString]
            rw [if_neg hne] at h
            cases hbreak : isLineBreak c with
            | true =>
                have hline : Body.atLineBreak (c :: s) = true := hbreak
                have hbody : body = some (c :: s) := by
                  split at h
                  · split at h
                    · cases h
                      rfl
                    · cases h
                  · rw [if_pos hline] at h
                    cases h
                    rfl
                rw [nulLine_start hbreak, firstEmptyLine_start hbreak, if_neg Bool.false_ne_true]
                exact hbody
            | false =>
                have hline : Body.atLineBreak (c :: s) = false := hbreak
                rw [hline] at h
                split at h
                · rw [if_neg (fun hfold => Bool.false_ne_true hfold.2)] at h
                  cases h
                · next endOfHeader hnext =>
                    rw [if_neg Bool.false_ne_true, exists_ok_bind] at h
                    obtain ⟨field, -, h⟩ := h
                    dsimp only at h
                    split at h
                    · cases h
                    · have hscan := scan_osipFindNextCrlf hnext
                      have hstart : nulLine true (c :: s) = nulLine false (c :: s) := by
                        rw [nulLine_of_ne hbreak, nulLine_of_ne hbreak, beq_eq_false_iff_ne.2 hnul]
                        rfl
                      rw [hstart, firstEmptyLine_of_ne hbreak true,
                        ← firstEmptyLine_of_ne hbreak false, hscan.1, hscan.2]
                      exact ih h

/-! ### The body that is taken -/

@[simp] theorem bodyOf_inj {text text' : Str} : bodyOf text = bodyOf text' ↔ text = text' := by
  unfold bodyOf
  split
  · next htext =>
      subst htext
      split
      · next htext => simp [htext]
      · next htext => simp [Ne.symm htext]
  · next htext =>
      split
      · next htext' => simp [htext, htext']
      · simp [Body.init]

theorem bodyOf_of_ne {text : Str} (h : text ≠ []) :
    bodyOf text = [{ Body.init with body := text }] := by
  rw [bodyOf, if_neg h]

def takenBody (contentLength : Option ContentLength) (headers : Str) : Str :=
  match contentLength with
  | none =>
      if nulLine true headers ∨ crEmptyLine headers then [] else behindEmptyLine true headers
  | some contentLength =>
      (behindEmptyLine true headers).take (osipAtoi (contentLength.value.getD [])).toNat

/-- How many bytes of the text behind the empty line are asked for. -/
def singleBodyLen (sip : SipFields) (body : Str) : Nat :=
  match sip.contentLength with
  | some contentLength => (osipAtoi (contentLength.value.getD [])).toNat
  | none => body.length

def CompleteType (sip : SipFields) : Prop :=
  ∀ contentType, sip.contentType = some contentType →
    contentType.type.isSome ∧ contentType.subtype.isSome

theorem contentTypeParse_complete {hvalue : Str} {contentType : ContentType} (hne : hvalue ≠ [])
    (h : ContentType.parse hvalue = .ok contentType) :
    contentType.type.isSome ∧ contentType.subtype.isSome := by
  rw [ContentType.parse, if_neg hne] at h
  rw [exists_ok_bind] at h
  obtain ⟨subtype, -, h⟩ := h
  dsimp only at h
  split at h
  · simp only [exists_ok_bind] at h
    obtain ⟨genParams, -, -, -, -, -, h⟩ := h
    cases h
    exact ⟨rfl, rfl⟩
  · simp only [exists_ok_bind] at h
    obtain ⟨genParams, -, -, -, -, -, h⟩ := h
    cases h
    exact ⟨rfl, rfl⟩

theorem completeType_invariant (parsers : MessageParsers) :
    ParseInvariant parsers CompleteType where
  init := fun _ h => by cases h
  startline h hparse := by
    obtain ⟨_, _, _, _, _, rfl⟩ := startlineParse_fields hparse
    exact h
  setKnown kind hvalue h := by
    cases kind with
    | accept =>
        unfold setKnown setAccept
        dsimp only
        split
        · exact h
        · exact h
    | contentType =>
        unfold setKnown setContentType setSimple
        dsimp only
        by_cases hempty : hvalue.getD [] = []
        · rw [if_pos hempty]
          split
          · exact h
          · exact h
        · rw [if_neg hempty]
          split
          · exact h
          · split
            · exact h
            · next header hheader =>
                intro contentType hcontentType
                cases hcontentType
                exact contentTypeParse_complete hempty hheader
    | fromHeader | toHeader | callId | cseq | contentLength | mimeVersion =>
        exact setSimple_keeps (P := CompleteType) h fun _ _ => h
    | _ => exact setList_keeps (P := CompleteType) h fun _ _ => h
  setHeader hname hvalue h := by
    cases hname with
    | none => exact h
    | some hname => exact h
  bodies _ h := h

theorem setContentLength_keeps {P : SipFields → Prop} {sip : SipMessage} (hvalue : Option Str)
    (h : P sip.fields) (hset : ∀ contentLength, P { sip.fields with contentLength }) :
    P (sip.setContentLength hvalue).2.fields := by
  unfold setContentLength
  exact setSimple_keeps h fun _ _ => hset _

theorem withContentLength_keeps {P : SipFields → Prop} {sip : SipMessage} (h : P sip.fields)
    (hset : ∀ contentLength, P { sip.fields with contentLength }) :
    P sip.withContentLength.fields := by
  unfold withContentLength
  split
  · exact h
  · exact setContentLength_keeps _ h hset

theorem singleBodyParse_eq_ok {sip sip' : SipMessage} {startOfBuf : Str}
    (h : sip.singleBodyParse startOfBuf = .ok sip') :
    ∃ body, startOfSingleBody startOfBuf = .ok body ∧ body ≠ [] ∧
      singleBodyLen sip.fields body ≤ body.length ∧
      sip'.fields.contentType = sip.fields.contentType ∧
      sip'.fields.bodies = sip.fields.bodies ++
        [{ Body.init with body := body.take (singleBodyLen sip.fields body) }] := by
  rw [singleBodyParse, exists_ok_bind] at h
  obtain ⟨body, hbody, h⟩ := h
  split at h
  · cases h
  · next hne =>
      have hkept : ∀ bodyLen : Nat,
          let stored := if sip.fields.contentLength.isSome then sip
            else (sip.setContentLength (some (SipFields.sizeToStr bodyLen))).2
          stored.fields.contentType = sip.fields.contentType ∧
            stored.fields.bodies = sip.fields.bodies := by
        intro bodyLen
        dsimp only
        split
        · exact ⟨rfl, rfl⟩
        · apply setContentLength_keeps (P := fun fields =>
            fields.contentType = sip.fields.contentType ∧ fields.bodies = sip.fields.bodies)
          · exact ⟨rfl, rfl⟩
          · exact fun _ => ⟨rfl, rfl⟩
      change (if body.length < singleBodyLen sip.fields body then Except.error osipSyntaxerror
        else Except.ok ((if sip.fields.contentLength.isSome then sip
          else (sip.setContentLength
            (some (SipFields.sizeToStr (singleBodyLen sip.fields body)))).2).setBody
              (some (body.take (singleBodyLen sip.fields body)))).2) = _ at h
      split at h
      · cases h
      · next hlen =>
          cases h
          obtain ⟨htype, hbodies⟩ := hkept (singleBodyLen sip.fields body)
          refine ⟨body, hbody, hne, Nat.not_lt.1 hlen, htype, ?_⟩
          rw [setBody, addBody]
          dsimp only [updated]
          rw [hbodies]

theorem bodyParse_contentType {sip sip' : SipMessage} {startOfBuf : Str}
    (h : sip.bodyParse startOfBuf = .ok sip') :
    sip'.fields.contentType = sip.fields.contentType := by
  unfold bodyParse at h
  split at h
  · split at h
    · simp only [exists_ok_bind] at h
      obtain ⟨gvalue, -, bodies, -, h⟩ := h
      cases h
      rfl
    · obtain ⟨body, -, -, -, htype, -⟩ := singleBodyParse_eq_ok (returnCode_eq_ok.1 h)
      exact htype
  · cases h
    rfl

theorem bodyParse_single {sip sip' : SipMessage} {startOfBuf : Str}
    (hcomplete : CompleteType sip.fields) (hsingle : SingleType sip.fields)
    (h : sip.bodyParse startOfBuf = .ok sip') : sip.singleBodyParse startOfBuf = .ok sip' := by
  obtain ⟨contentType, hcontentType, hmultipart⟩ := hsingle
  obtain ⟨htype, hsubtype⟩ := hcomplete contentType hcontentType
  obtain ⟨type, subtype, genParams⟩ := contentType
  obtain ⟨type, rfl⟩ := Option.isSome_iff_exists.1 htype
  obtain ⟨subtype, rfl⟩ := Option.isSome_iff_exists.1 hsubtype
  rw [Option.any_some] at hmultipart
  rw [bodyParse, hcontentType] at h
  dsimp only at h
  rw [hmultipart, if_neg Bool.false_ne_true] at h
  exact returnCode_eq_ok.1 h

theorem parseBodies_single {stored sip : SipMessage} {startOfBuf : Str}
    (hcomplete : CompleteType stored.fields) (hbodies : stored.fields.bodies = [])
    (hsingle : SingleType sip.fields) (h : stored.parseBodies startOfBuf = .ok sip) :
    if stored.bodyExists startOfBuf then
      ∃ body, startOfSingleBody startOfBuf = .ok body ∧ body ≠ [] ∧
        singleBodyLen stored.fields body ≤ body.length ∧
        sip.fields.bodies =
          [{ Body.init with body := body.take (singleBodyLen stored.fields body) }]
    else sip.fields.bodies = [] := by
  unfold parseBodies at h
  split at h
  · next hexists =>
      rw [if_pos hexists]
      cases hparse : stored.bodyParse startOfBuf with
      | error i =>
          rw [hparse] at h
          cases h
      | ok parsed =>
          rw [hparse] at h
          cases h
          have htype : parsed.withContentLength.fields.contentType = parsed.fields.contentType :=
            withContentLength_keeps (P := fun fields =>
              fields.contentType = parsed.fields.contentType) rfl fun _ => rfl
          have hkept : parsed.withContentLength.fields.bodies = parsed.fields.bodies :=
            withContentLength_keeps (P := fun fields => fields.bodies = parsed.fields.bodies) rfl
              fun _ => rfl
          rw [SingleType, htype, bodyParse_contentType hparse] at hsingle
          obtain ⟨body, hbody, hne, hlen, -, htaken⟩ :=
            singleBodyParse_eq_ok (bodyParse_single hcomplete hsingle hparse)
          rw [hbodies, List.nil_append] at htaken
          exact ⟨body, hbody, hne, hlen, hkept.trans htaken⟩
  · next hexists =>
      rw [if_neg hexists]
      cases h
      exact withContentLength_keeps (P := fun fields => fields.bodies = []) hbodies
        fun _ => hbodies

/-! ### Where the body begins -/

theorem firstEmptyLine_eq_some {lineStart : Bool} {s emptyLine : Str}
    (h : firstEmptyLine lineStart s = some emptyLine) : emptyLine.head?.any isLineBreak = true := by
  induction lineStart, s using firstEmptyLine.induct with
  | case1 => cases h
  | case2 s ih => exact ih h
  | case3 c s hbreak =>
      rw [firstEmptyLine_start hbreak] at h
      cases h
      exact hbreak
  | case4 lineStart c s hcrlf hbreak hstart ih =>
      rw [firstEmptyLine, if_pos hbreak, if_neg hstart] at h
      · exact ih h
      · exact hcrlf
  | case5 lineStart c s hcrlf hbreak ih =>
      rw [firstEmptyLine_of_ne (Bool.eq_false_iff.2 hbreak)] at h
      exact ih h

theorem head?_of_no_end {headers : Str}
    (h : (if nulLine true headers then none else firstEmptyLine true headers) = none) :
    headers.head?.any isLineBreak = false := by
  cases headers with
  | nil => rfl
  | cons c s =>
      rw [Bool.eq_false_iff]
      intro hbreak
      rw [nulLine_start hbreak, if_neg Bool.false_ne_true, firstEmptyLine_start hbreak] at h
      cases h

/-- Without a Content-Length whatever stands behind the empty line is a body, unless the empty
line is a CR. -/
theorem bodyExists_of_end {sip : SipMessage} (hlength : sip.fields.contentLength = none)
    {emptyLine : Str} (h : emptyLine.head?.any isLineBreak = true) :
    sip.bodyExists emptyLine =
      (!(emptyLine.head? == some '\r' && !crlf.isPrefixOf emptyLine) &&
        afterLineBreak emptyLine ≠ []) := by
  rw [bodyExists, hlength]
  dsimp only
  cases emptyLine with
  | nil => cases h
  | cons c s =>
      have hbreak : isLineBreak c = true := h
      rw [isLineBreak, Bool.or_eq_true, beq_iff_eq, beq_iff_eq] at hbreak
      cases hbreak with
      | inl hcr =>
          rw [hcr]
          cases s with
          | nil => rfl
          | cons d s =>
              by_cases hlf : d = '\n'
              · rw [hlf]
                cases s with
                | nil => rfl
                | cons e s => simp [crlf, afterLineBreak]
              · have hcrlf : crlf.isPrefixOf ('\r' :: d :: s) = false := by
                  simp [crlf, List.isPrefixOf_cons_cons, Ne.symm hlf]
                simp [hcrlf]
      | inr hlf =>
          rw [hlf]
          cases s with
          | nil => rfl
          | cons d s => simp [crlf, afterLineBreak]

theorem startOfSingleBody_eq_ok {startOfBuf body : Str}
    (h : startOfSingleBody startOfBuf = .ok body) :
    startOfBuf.head?.any isLineBreak = true ∧ body = afterLineBreak startOfBuf := by
  rw [startOfSingleBody] at h
  split at h
  · next hbreak =>
      cases h
      exact ⟨hbreak, rfl⟩
  · cases h

/-- The bodies are the bytes taken, and as many of them are there as are asked for. -/
structure Taken (contentLength : Option ContentLength) (headers : Str) (bodies : List Body) :
    Prop where
  bodies : bodies = bodyOf (takenBody contentLength headers)
  enough : ∀ length ∈ contentLength,
    (osipAtoi (length.value.getD [])).toNat ≤ (behindEmptyLine true headers).length

section

variable {stored sip : SipMessage} {headers : Str} (hcomplete : CompleteType stored.fields)
  (hbodies : stored.fields.bodies = []) (hsingle : SingleType sip.fields)
include hcomplete hbodies hsingle

theorem taken_of_no_end
    (hend : (if nulLine true headers then none else firstEmptyLine true headers) = none)
    (h : stored.parseBodies headers = .ok sip) :
    Taken stored.fields.contentLength headers sip.fields.bodies := by
  have hresult := parseBodies_single hcomplete hbodies hsingle h
  have hhead := head?_of_no_end hend
  have hnone : stored.bodyExists headers = false ∧ sip.fields.bodies = [] := by
    split at hresult
    · obtain ⟨body, hbody, -⟩ := hresult
      rw [(startOfSingleBody_eq_ok hbody).1] at hhead
      cases hhead
    · next hexists => exact ⟨Bool.eq_false_iff.2 hexists, hresult⟩
  have hzero : ∀ length ∈ stored.fields.contentLength,
      (osipAtoi (length.value.getD [])).toNat = 0 := by
    intro length hlength
    have hexists := hnone.1
    rw [Option.mem_def] at hlength
    rw [bodyExists, hlength, decide_eq_false_iff_not, Int.not_lt] at hexists
    exact Int.toNat_of_nonpos hexists
  have htaken : takenBody stored.fields.contentLength headers = [] := by
    unfold takenBody
    cases hlength : stored.fields.contentLength with
    | none =>
        dsimp only
        split
        · rfl
        · next hrest =>
            rw [if_neg fun hnul => hrest (Or.inl hnul)] at hend
            rw [behindEmptyLine, hend]
            rfl
    | some length =>
        dsimp only
        rw [hzero length hlength, List.take_zero]
  refine ⟨hnone.2.trans (by rw [htaken]; rfl), ?_⟩
  intro length hlength
  rw [hzero length hlength]
  exact Nat.zero_le _

variable {emptyLine : Str} (hend : firstEmptyLine true headers = some emptyLine)
  (h : stored.parseBodies emptyLine = .ok sip)
include hend h

theorem taken_of_rest (hnul : nulLine true headers = false)
    (hlength : stored.fields.contentLength = none) : Taken none headers sip.fields.bodies := by
  have hresult := parseBodies_single hcomplete hbodies hsingle h
  have hbehind : behindEmptyLine true headers = afterLineBreak emptyLine := by
    rw [behindEmptyLine, hend]
    rfl
  have hcr : crEmptyLine headers =
      (emptyLine.head? == some '\r' && !crlf.isPrefixOf emptyLine) := by
    rw [crEmptyLine, hend]
    rfl
  refine ⟨?_, fun _ hmem => by cases hmem⟩
  rw [bodyExists_of_end hlength (firstEmptyLine_eq_some hend), ← hcr] at hresult
  unfold takenBody
  rw [hnul, hbehind]
  dsimp only
  by_cases hlone : crEmptyLine headers = true
  · rw [hlone, Bool.not_true, Bool.false_and, if_neg Bool.false_ne_true] at hresult
    rw [if_pos (Or.inr hlone)]
    exact hresult
  · rw [Bool.not_eq_true] at hlone
    rw [hlone, Bool.not_false, Bool.true_and] at hresult
    rw [hlone, if_neg (by simp)]
    by_cases hrest : afterLineBreak emptyLine = []
    · rw [if_neg (by simp [hrest])] at hresult
      rw [hrest]
      exact hresult
    · rw [if_pos (decide_eq_true hrest)] at hresult
      obtain ⟨body, hbody, -, -, htaken⟩ := hresult
      have hlen : singleBodyLen stored.fields body = body.length := by
        rw [singleBodyLen, hlength]
      rw [hlen, List.take_length, (startOfSingleBody_eq_ok hbody).2] at htaken
      rw [bodyOf_of_ne hrest]
      exact htaken

theorem taken_of_length {length : ContentLength}
    (hlength : stored.fields.contentLength = some length) :
    Taken (some length) headers sip.fields.bodies := by
  have hresult := parseBodies_single hcomplete hbodies hsingle h
  have hbehind : behindEmptyLine true headers = afterLineBreak emptyLine := by
    rw [behindEmptyLine, hend]
    rfl
  have hexists : stored.bodyExists emptyLine =
      decide (0 < osipAtoi (length.value.getD [])) := by
    rw [bodyExists, hlength]
  by_cases hpos : 0 < osipAtoi (length.value.getD [])
  · rw [hexists, if_pos (decide_eq_true hpos)] at hresult
    obtain ⟨body, hbody, hne, hlen, htaken⟩ := hresult
    have hsize : singleBodyLen stored.fields body = (osipAtoi (length.value.getD [])).toNat := by
      rw [singleBodyLen, hlength]
    rw [hsize] at hlen htaken
    rw [(startOfSingleBody_eq_ok hbody).2, ← hbehind] at hne hlen htaken
    have htake : takenBody (some length) headers ≠ [] := by
      unfold takenBody
      rw [Ne, List.take_eq_nil_iff, not_or]
      exact ⟨by omega, hne⟩
    refine ⟨?_, ?_⟩
    · rw [bodyOf_of_ne htake]
      exact htaken
    · rintro _ ⟨⟩
      exact hlen
  · have hzero : (osipAtoi (length.value.getD [])).toNat = 0 :=
      Int.toNat_of_nonpos (Int.not_lt.1 hpos)
    rw [hexists, decide_eq_false hpos, if_neg Bool.false_ne_true] at hresult
    refine ⟨?_, ?_⟩
    · unfold takenBody
      dsimp only
      rw [hzero, List.take_zero]
      exact hresult
    · rintro _ ⟨⟩
      rw [hzero]
      exact Nat.zero_le _

end

theorem parseBodies_taken {stored sip : SipMessage} {headers : Str}
    (hcomplete : CompleteType stored.fields) (hbodies : stored.fields.bodies = [])
    (hsingle : SingleType sip.fields)
    (h : stored.parseBodies
      ((if nulLine true headers then none else firstEmptyLine true headers).getD headers) =
        .ok sip) :
    Taken stored.fields.contentLength headers sip.fields.bodies := by
  cases hend : if nulLine true headers then none else firstEmptyLine true headers with
  | none =>
      rw [hend] at h
      exact taken_of_no_end hcomplete hbodies hsingle hend h
  | some emptyLine =>
      have hnul : nulLine true headers = false := by
        rw [Bool.eq_false_iff]
        intro hnul
        rw [if_pos hnul] at hend
        cases hend
      rw [hend] at h
      rw [hnul, if_neg Bool.false_ne_true] at hend
      cases hlength : stored.fields.contentLength with
      | none => exact taken_of_rest hcomplete hbodies hsingle hend h hnul hlength
      | some length => exact taken_of_length hcomplete hbodies hsingle hend h hlength

theorem parse_taken {buf : Str} {sip : SipMessage} (h : parse parsers buf = .ok sip)
    (hsingle : SingleType sip.fields) :
    Taken (sentLength parsers buf) (headerSection parsers buf) sip.fields.bodies := by
  unfold parse at h
  simp only [exists_ok_bind, returnCode_eq_ok] at h
  obtain ⟨⟨start, headers⟩, hstart, ⟨stored, body⟩, hheaders, hparse⟩ := h
  have hsection : headerSection parsers buf = headers := by
    rw [headerSection, hstart]
  have hlength : sentLength parsers buf = stored.fields.contentLength := by
    rw [sentLength, hstart]
    dsimp only
    rw [hheaders]
  have hcomplete : CompleteType stored.fields :=
    (completeType_invariant parsers).headers.msgHeadersParse
      ((completeType_invariant parsers).startline (completeType_invariant parsers).init hstart)
      hheaders
  have hbodies : stored.fields.bodies = [] :=
    (keepsBodies parsers []).msgHeadersParse (startlineParse_bodies hstart) hheaders
  rw [hsection, hlength]
  rw [msgHeadersParse_body hheaders] at hparse
  exact parseBodies_taken hcomplete hbodies hsingle hparse

/-! ### The framing -/

theorem atoi_lt (value : Str) : (osipAtoi value).toNat < 2147483648 := by
  have hrange := (toInt32_range (strtol value)).2
  rw [osipAtoi, atoi]
  omega

theorem framesBody_iff_of_length {value behind rest : Str} {size : Nat}
    (hvalue : lengthValue value = some size) (hlen : (osipAtoi value).toNat ≤ behind.length) :
    size ≤ rest.length ∧ behind.take (osipAtoi value).toNat = rest.take size ↔
      size = 0 ∨ size < 2147483648 ∧ behind.take size = rest.take size := by
  by_cases hsize : size < 2147483648
  · have hatoi : (osipAtoi value).toNat = size := by
      rw [osipAtoi, atoi_of_lt hvalue hsize, Int.toNat_natCast]
    rw [hatoi] at hlen ⊢
    constructor
    · intro h
      exact Or.inr ⟨hsize, h.2⟩
    · intro h
      have htake : behind.take size = rest.take size := by
        cases h with
        | inl hzero => rw [hzero, List.take_zero, List.take_zero]
        | inr hsame => exact hsame.2
      have hlength := congrArg List.length htake
      rw [List.length_take_of_le hlen, List.length_take] at hlength
      exact ⟨by omega, htake⟩
  · have hlt := atoi_lt value
    constructor
    · intro h
      have hlength := congrArg List.length h.2
      rw [List.length_take_of_le hlen, List.length_take_of_le h.1] at hlength
      omega
    · intro h
      omega

/-- The body of an accepted message that is not of several parts is the framed one exactly when
the text behind the empty line is found where it is, and counted. -/
theorem singleBodyFramed_iff (buf : Str) :
    SingleBodyFramed parsers buf ↔
      ∀ sip, parse parsers buf = .ok sip → SingleType sip.fields →
        Delimits (sentLength parsers buf) (messageRest buf) (headerSection parsers buf) := by
  unfold SingleBodyFramed
  refine forall_congr' fun sip => forall_congr' fun hparse => forall_congr' fun hsingle => ?_
  obtain ⟨hbodies, hlen⟩ := parse_taken hparse hsingle
  unfold FramesBody Delimits
  rw [hbodies]
  unfold takenBody
  cases hlength : sentLength parsers buf with
  | none =>
      dsimp only
      rw [bodyOf_inj]
      split
      · exact eq_comm
      · exact Iff.rfl
  | some contentLength =>
      dsimp only
      refine forall_congr' fun size => forall_congr' fun hvalue => ?_
      rw [bodyOf_inj]
      exact framesBody_iff_of_length hvalue (hlen contentLength hlength)

/-- A length that no `int` holds is taken for its last 32 bits. -/
example : (parse default
    "SIP/2.0 200 OK\r\nc: text/plain\r\nl: 4294967301\r\n\r\nhello".toList).toOption.map
      (fun sip => sip.fields.bodies) = some (bodyOf "hello".toList) := by decide +kernel

def crMessage : Str := "SIP/2.0 200 OK\rContent-Type: text/plain\r\rhello".toList

theorem not_singleBodyFramed :
    ¬ ∀ (parsers : MessageParsers) (buf : Str), SingleBodyFramed parsers buf := by
  intro h
  have hlength : sentLength default crMessage = none := by decide +kernel
  have hrest : messageRest crMessage = "hello".toList := by decide +kernel
  have haccepted : (parse default crMessage).toOption.map
        (fun sip => (sip.fields.contentType, sip.fields.bodies)) =
      some (some ⟨some "text".toList, some "plain".toList, []⟩, []) := by decide +kernel
  cases hparse : parse default crMessage with
  | error i =>
      rw [hparse] at haccepted
      cases haccepted
  | ok sip =>
      rw [hparse] at haccepted
      have hfields := Option.some.inj haccepted
      rw [Prod.mk.injEq] at hfields
      have hsingle : SingleType sip.fields := ⟨_, hfields.1, by decide⟩
      have hbody := h default crMessage sip hparse hsingle
      rw [hlength, hrest, hfields.2] at hbody
      have hempty : [] = bodyOf "hello".toList := hbody
      exact absurd hempty (by decide)

end Exosip
