import Exosip.Parser.Head
import Exosip.Parser.Undelimited

/-! Multipart messages that come back: `osip_message_to_str` and then `osip_message_parse`. -/
namespace Exosip

open CString SipFields

/-- The message is printed, and what is printed is parsed into a message with the same bodies. -/
def MultipartRoundTrip (parsers : MessageParsers) (sip : SipMessage) : Prop :=
  ∃ text sip', sip.toStr.1 = .ok text ∧ SipMessage.parse parsers text = .ok sip' ∧
    sip'.fields.bodies = sip.fields.bodies

/-- A multipart type with that boundary. -/
structure ContentType.IsMultipart (contentType : ContentType) (gvalue : Str) : Prop where
  type : contentType.type.any (osipStrcasecmp · "multipart".toList) = true
  boundary : SipMessage.boundaryValue contentType.genParams = .ok gvalue

/-! ### The length -/

theorem sizeToStr_ne_nil (size : Nat) : sizeToStr size ≠ [] := by
  rw [sizeToStr]
  cases toInt32 size with
  | ofNat n => exact Nat.toDigits_ne_nil
  | negSucc n => exact List.cons_ne_nil _ _

theorem plain_sizeToStr (size : Nat) : Plain (sizeToStr size) := by
  intro c hc
  refine ⟨?_, ?_, ?_⟩
  all_goals
    intro heq
    rw [heq] at hc
    exact absurd hc (sizeToStr_not_mem (by decide) size)

theorem osipClrspace_sizeToStr (size : Nat) : osipClrspace (sizeToStr size) = sizeToStr size := by
  apply osipClrspace_of_no_blank
  intro c hc
  rw [Bool.eq_false_iff]
  intro hblank
  have hchar : c = '-' ∨ c.isDigit = true := sizeToStr_chars size c hc
  simp only [isBlank, Bool.or_eq_true, beq_iff_eq, or_assoc] at hblank
  rcases hblank with rfl | rfl | rfl | rfl
  all_goals exact absurd hchar (by decide)

theorem osipAtoi_intToStr {n : Int} (h : -2147483648 ≤ n ∧ n < 2147483648) :
    osipAtoi (intToStr n) = n := by
  have hlong : longMax = 9223372036854775807 := by decide
  rw [osipAtoi, atoi]
  cases n with
  | ofNat n =>
      have hn : (n : Int) ≤ longMax := by
        rw [Int.ofNat_eq_natCast] at h
        omega
      rw [intToStr, strtol_toDigits hn]
      exact toInt32_of_range h
  | negSucc n =>
      have hminus : strtol (intToStr (.negSucc n)) = Int.negSucc n := by
        have hskip : (intToStr (.negSucc n)).dropWhile isSpace = '-' :: Nat.toDigits 10 (n + 1) :=
          rfl
        have hbound : -longMax - 1 ≤ -((n + 1 : Nat) : Int) := by omega
        rw [strtol, hskip]
        show max (-(decimal (Nat.toDigits 10 (n + 1)) : Int)) (-longMax - 1) = Int.negSucc n
        rw [decimal_toDigits, Int.max_eq_left hbound]
        rfl
      rw [hminus]
      exact toInt32_of_range h

/-- A length that the parser finds in the header section and takes for one of a body. -/
def SizeReads (size : Nat) : Prop := 0 < toInt32 size ∧ toInt32 size < 1000000

theorem length_sizeToStr_of_sizeReads {size : Nat} (h : SizeReads size) :
    (sizeToStr size).length ≤ 6 := by
  obtain ⟨hpos, hlt⟩ := h
  rw [sizeToStr]
  obtain ⟨n, hn⟩ := Int.eq_ofNat_of_zero_le hpos.le
  rw [hn] at hlt ⊢
  have hdigits : n < 1000000 := by omega
  exact (Nat.length_toDigits_le_iff (by decide) (by decide)).2 hdigits

theorem sizeReads_of_length {size : Nat} (hlen : (sizeToStr size).length ≤ 6)
    (hpos : 0 < toInt32 size) : SizeReads size := by
  refine ⟨hpos, ?_⟩
  obtain ⟨n, hn⟩ := Int.eq_ofNat_of_zero_le hpos.le
  rw [sizeToStr, hn] at hlen
  have hlt : n < 1000000 := (Nat.length_toDigits_le_iff (by decide) (by decide)).1 hlen
  rw [hn]
  omega

theorem colon_not_mem_contentLengthLine {size : Nat} (h : 6 < (sizeToStr size).length) :
    ':' ∉ contentLengthLine size := by
  rw [contentLengthLine, List.mem_append, not_or]
  refine ⟨?_, sizeToStr_not_mem (by decide) size⟩
  intro hmem
  have htake : ("Content-Length: ".toList ++ slot).take (21 - (sizeToStr size).length) =
      ((("Content-Length: ".toList ++ slot).take 14).take (21 - (sizeToStr size).length)) := by
    rw [List.take_take, Nat.min_eq_left (by omega)]
  rw [htake] at hmem
  exact absurd (List.mem_of_mem_take hmem) (by decide)

theorem headLine_contentLengthLine (size : Nat) : HeadLine (contentLengthLine size) := by
  have hlen := length_sizeToStr_le size
  have hplain : Plain ("Content-Length: ".toList ++ slot) := by decide
  refine ⟨plain_append (hplain.take _) (plain_sizeToStr size), 'C', ?_⟩
  have hroom : 21 - (sizeToStr size).length ≠ 0 := by omega
  obtain ⟨k, hk⟩ := Nat.exists_eq_add_one_of_ne_zero hroom
  refine ⟨("ontent-Length: ".toList ++ slot).take k ++ sizeToStr size, ?_, by decide⟩
  rw [contentLengthLine, hk]
  rfl

namespace SipMessage

variable {parsers : MessageParsers}

def withLength (sip : SipMessage) (size : Nat) : SipMessage :=
  sip.updated { sip.fields with contentLength := some ⟨some (sizeToStr size)⟩ }

theorem msgHeadersParse_contentLengthLine {stored : SipMessage}
    (h : stored.fields.contentLength = none) (size fuel : Nat) (rest : Str) :
    msgHeadersParse parsers (fuel + 2) stored (contentLengthLine size ++ crlf ++ (crlf ++ rest)) =
      if (sizeToStr size).length ≤ 6 then .ok (stored.withLength size, some (crlf ++ rest))
      else .error osipSyntaxerror := by
  split
  · next hlen =>
      have hvalue : List.replicate (6 - (sizeToStr size).length) ' ' ++ sizeToStr size ≠ [] :=
        List.append_ne_nil_of_right_ne_nil _ (sizeToStr_ne_nil size)
      have hplain : Plain (List.replicate (6 - (sizeToStr size).length) ' ' ++ sizeToStr size) := by
        apply plain_append _ (plain_sizeToStr size)
        intro c hc
        rw [(List.mem_replicate.1 hc).2]
        decide
      have hnext : NotBlank (crlf ++ rest) := by simp [NotBlank, crlf]
      have hset : setMultipleHeader parsers stored "Content-Length".toList (some (sizeToStr size)) =
          .ok (stored.withLength size) :=
        setMultipleHeader_contentLength h (sizeToStr_ne_nil size)
          (sizeToStr_not_mem (by decide) size)
      have hname : "Content-Length:".toList = "Content-Length".toList ++ [':'] := rfl
      have hline : contentLengthLine size = "Content-Length".toList ++
          ':' :: (List.replicate (6 - (sizeToStr size).length) ' ' ++ sizeToStr size) := by
        rw [contentLengthLine_of_length hlen, hname, List.append_assoc, List.singleton_append]
      rw [hline, msgHeadersParse_line (by decide) (List.all_eq_true.1 (by decide)) hvalue hplain hnext,
        osipClrspace_replicate, osipClrspace_sizeToStr, hset]
      exact msgHeadersParse_end fuel _ rest
  · next hlen =>
      exact msgHeadersParse_noColon (headLine_contentLengthLine size)
        (colon_not_mem_contentLengthLine (not_le.1 hlen)) (fuel + 1) stored

theorem bodyExists_withLength (stored : SipMessage) (size : Nat) (startOfBuf : Str) :
    (stored.withLength size).bodyExists startOfBuf = decide (0 < toInt32 size) := by
  have hread : osipAtoi (sizeToStr size) = toInt32 size :=
    osipAtoi_intToStr (toInt32_range _)
  have hlength : (stored.withLength size).fields.contentLength = some ⟨some (sizeToStr size)⟩ := rfl
  rw [bodyExists, hlength]
  dsimp only
  rw [Option.getD_some, hread]

def withParts (sip : SipMessage) (bodies : List Body) : SipMessage :=
  sip.updated { sip.fields with bodies := sip.fields.bodies ++ bodies }

theorem withParts_bodies (stored : SipMessage) (size : Nat) (bodies : List Body) :
    ((stored.withLength size).withParts bodies).withContentLength.fields.bodies =
      stored.fields.bodies ++ bodies := rfl

theorem bodyParse_multipart {sip : SipMessage} {contentType : ContentType}
    (hct : sip.fields.contentType = some contentType) (hsubtype : contentType.subtype.isSome = true)
    {gvalue : Str} (h : contentType.IsMultipart gvalue) (startOfBuf : Str) :
    sip.bodyParse startOfBuf = (msgOsipBodyParse gvalue startOfBuf).2.map sip.withParts := by
  obtain ⟨htype, hboundary⟩ := h
  obtain ⟨type, subtype, genParams⟩ := contentType
  cases type with
  | none => cases htype
  | some type =>
      cases subtype with
      | none => cases hsubtype
      | some subtype =>
          rw [Option.any_some] at htype
          rw [bodyParse, hct]
          dsimp only
          rw [if_pos htype, hboundary, returnCode_ok, ok_bind]
          cases (msgOsipBodyParse gvalue startOfBuf).2 with
          | error failure => rfl
          | ok bodies => rfl

theorem parseBodies_iff {stored : SipMessage} (hempty : stored.fields.bodies = [])
    {contentType : ContentType} (hct : stored.fields.contentType = some contentType)
    (hsubtype : contentType.subtype.isSome = true) {gvalue : Str}
    (hmulti : contentType.IsMultipart gvalue) {bodies : List Body} (hne : bodies ≠ [])
    (size : Nat) (startOfBuf : Str) :
    (∃ sip, (stored.withLength size).parseBodies startOfBuf = .ok sip ∧
        sip.fields.bodies = bodies) ↔
      0 < toInt32 size ∧ (msgOsipBodyParse gvalue startOfBuf).2 = .ok bodies := by
  have hct' : (stored.withLength size).fields.contentType = some contentType := hct
  rw [parseBodies, bodyExists_withLength]
  by_cases hpos : 0 < toInt32 size
  · rw [if_pos (decide_eq_true hpos), bodyParse_multipart hct' hsubtype hmulti]
    cases (msgOsipBodyParse gvalue startOfBuf).2 with
    | error failure => simp [Except.map]
    | ok parts =>
        have hbodies := withParts_bodies stored size parts
        rw [hempty, List.nil_append] at hbodies
        simp [Except.map, hpos, hbodies]
  · rw [if_neg (fun h => hpos (of_decide_eq_true h))]
    constructor
    · intro h
      obtain ⟨sip, hsip, hbodies⟩ := h
      cases hsip
      exact absurd (hbodies.symm.trans hempty) hne
    · intro h
      exact absurd h.1 hpos

end SipMessage

/-! ### The message -/

/-- A message with a multipart Content-Type and with parts. -/
structure IsMultipart (sip : SipMessage) (gvalue : Str) : Prop where
  contentType : ∃ contentType ∈ sip.fields.contentType, contentType.IsMultipart gvalue
  bodies_ne : sip.fields.bodies ≠ []
  bodies : ∀ body ∈ sip.fields.bodies, body.WellFormed

/-- The header section of a message, whose start line and headers are printed on lines that
are read again, the Content-Type with the same boundary. -/
structure HeadSection (parsers : MessageParsers) (sip : SipMessage) (gvalue : Str) where
  startline : Str
  parsed : SipMessage
  headers : List (Str × Str)
  lines : List (Str × Str)
  stored : SipMessage
  startlineToStr : sip.fields.startlineToStr = .ok startline
  startlineReads : SipMessage.StartlineReads parsers (cString startline) parsed
  present : sip.fields.PresentTexts headers
  headers_eq : headers.map lineOf = lines.map printed
  fields : ∀ line ∈ lines, FieldText line
  stores : SipMessage.storeFields parsers lines parsed = .ok stored
  contentLength : stored.fields.contentLength = none
  contentType : ∃ contentType ∈ stored.fields.contentType, contentType.subtype.isSome = true ∧
    ∃ read, contentType.IsMultipart read ∧ Multipart.unquoted read = Multipart.unquoted gvalue
  boundary : Plain (Multipart.unquoted gvalue)

def delimiterOf (gvalue : Str) : Str := "\r\n--".toList ++ Multipart.unquoted gvalue

/-- There is a Mime-Version, without which no delimiters are printed, the boundary has at most
70 characters, the length of the bodies is read as one, and each part comes back. -/
structure RoundTrips (sip : SipMessage) (gvalue : Str) : Prop where
  mimeVersion : sip.fields.mimeVersion ≠ none
  short : gvalue.length ≤ mimeMaxBoundaryLen
  quote : gvalue ≠ ['"']
  size : SizeReads (bodiesSize (some (delimiterOf gvalue)) sip.fields.bodies)
  bodies : ∀ body ∈ sip.fields.bodies, body.Reads (Multipart.sepBoundary gvalue)

theorem boundary_eq {sip : SipMessage} {gvalue : Str} (h : IsMultipart sip gvalue) :
    sip.fields.boundary =
      if sip.fields.mimeVersion = none then .ok none
      else if mimeMaxBoundaryLen < gvalue.length then .error (.code osipSyntaxerror)
      else if gvalue = ['"'] then .error .fault
      else .ok (some (delimiterOf gvalue)) := by
  obtain ⟨contentType, hct, htype, hboundary⟩ := h.contentType
  have hvalue : (GenericParam.getByname contentType.genParams "boundary".toList).bind (·.gvalue) =
      some gvalue := by
    unfold SipMessage.boundaryValue at hboundary
    split at hboundary
    · cases hboundary
    · next param hparam =>
        rw [hparam, Option.bind_some]
        split at hboundary
        · cases hboundary
        · next value hvalue =>
            cases hboundary
            exact hvalue
  unfold boundary
  rw [Option.mem_def.1 hct]
  cases hmime : sip.fields.mimeVersion with
  | none => rw [if_pos rfl]
  | some mimeVersion =>
      dsimp only
      rw [if_pos htype, hvalue, if_neg (Option.some_ne_none _)]
      rfl

namespace HeadSection

variable {parsers : MessageParsers} {sip : SipMessage} {gvalue : Str}

theorem parse_iff (head : HeadSection parsers sip gvalue) {bodies : List Body} (hne : bodies ≠ [])
    (rest : Str) :
    (∃ sip', SipMessage.parse parsers (unlines (cString head.startline :: head.headers.map lineOf ++
        [contentLengthLine rest.length]) ++ crlf ++ rest) = .ok sip' ∧ sip'.fields.bodies = bodies) ↔
      SizeReads rest.length ∧ (msgOsipBodyParse gvalue (crlf ++ rest)).2 = .ok bodies := by
  obtain ⟨contentType, hct, hsubtype, read, hmulti, hsame⟩ := head.contentType
  have hempty : head.stored.fields.bodies = [] := by
    rw [SipMessage.storeFields_bodies head.stores,
      SipMessage.startlineParse_bodies (head.startlineReads.parse [])]
    rfl
  have hsep : msgOsipBodyParse gvalue (crlf ++ rest) = msgOsipBodyParse read (crlf ++ rest) := by
    rw [msgOsipBodyParse, msgOsipBodyParse, Multipart.sepBoundary, Multipart.sepBoundary, hsame]
  obtain ⟨fuel, headers, hparse⟩ := SipMessage.parse_unlines head.startlineReads head.fields
    head.stores (headLine_contentLengthLine rest.length) rest
  rw [head.headers_eq, hparse, hsep,
    SipMessage.msgHeadersParse_contentLengthLine head.contentLength]
  by_cases hlen : (sizeToStr rest.length).length ≤ 6
  · have hread := SipMessage.parseBodies_iff hempty hct hsubtype hmulti hne rest.length (crlf ++ rest)
    have hsize : SizeReads rest.length ↔ 0 < toInt32 rest.length := by
      constructor
      · intro h
        exact h.1
      · intro h
        exact sizeReads_of_length hlen h
    rw [if_pos hlen, hsize, ← hread, returnCode_ok, ok_bind, Option.getD_some]
  · rw [if_neg hlen]
    constructor
    · intro h
      obtain ⟨sip', hsip, -⟩ := h
      cases hsip
    · intro h
      exact absurd (length_sizeToStr_of_sizeReads h.1) hlen

/-- With all headers printed, a message fails to print only because of its bodies. -/
theorem restEncodes (head : HeadSection parsers sip gvalue) (h : sip.fields.BodiesEncode) :
    sip.fields.RestEncodes := by
  have hok (name : Str) (i : Int) : (name, .error i) ∉ sip.fields.present := by
    rw [head.present, List.mem_map]
    intro hmem
    obtain ⟨header, -, hheader⟩ := hmem
    cases hheader
  refine ⟨⟨_, head.startlineToStr⟩, ?_, ?_, fun _ => h⟩
  · intro entry hentry i hmem
    apply hok entry.headerName i
    rw [SipFields.present, List.mem_append, List.mem_flatMap]
    refine Or.inl ⟨entry, hentry, ?_⟩
    rw [HeaderEntry.present, List.mem_map]
    exact ⟨_, List.mem_append_right _ hmem, rfl⟩
  · intro header hmem
    cases htext : osipHeaderToStr header with
    | ok text => exact ⟨text, rfl⟩
    | error i =>
        exfalso
        apply hok [] i
        rw [SipFields.present, List.mem_append, List.mem_map]
        exact Or.inr ⟨header, hmem, by rw [htext]⟩

end HeadSection

section

variable {parsers : MessageParsers} {sip : CoherentMessage} {gvalue : Str}

theorem roundTrips_of_multipartRoundTrip (hmulti : IsMultipart sip.toSipMessage gvalue)
    (head : HeadSection parsers sip.toSipMessage gvalue)
    (h : MultipartRoundTrip parsers sip.toSipMessage) : RoundTrips sip.toSipMessage gvalue := by
  have hboundary := boundary_eq hmulti
  rw [MultipartRoundTrip, SipMessage.toStr_of_coherent sip.coherent] at h
  obtain ⟨text, sip', htext, hparse, hbodies⟩ := h
  obtain ⟨startline, boundary, rest, hstart, hprinted, hrest, rfl⟩ :=
    serialise_bodies htext hmulti.bodies_ne head.present
  rw [head.startlineToStr] at hstart
  cases hstart
  obtain ⟨hsize, hparts⟩ := (head.parse_iff hmulti.bodies_ne rest).1 ⟨sip', hparse, hbodies⟩
  rw [hboundary] at hprinted
  split at hprinted
  · cases hprinted
    exact absurd hparts
      (Multipart.msgOsipBodyParse_undelimited head.boundary hmulti.bodies_ne hmulti.bodies hrest)
  · next hmime =>
      split at hprinted
      · cases hprinted
      · next hshort =>
          split at hprinted
          · cases hprinted
          · next hquote =>
              cases hprinted
              rw [bodiesToStr_length hrest] at hsize
              refine ⟨hmime, not_lt.1 hshort, hquote, hsize, ?_⟩
              exact (Multipart.msgOsipBodyParse_iff head.boundary hmulti.bodies_ne hmulti.bodies
                hrest).1 hparts

theorem multipartRoundTrip_of_roundTrips (hmulti : IsMultipart sip.toSipMessage gvalue)
    (head : HeadSection parsers sip.toSipMessage gvalue) (h : RoundTrips sip.toSipMessage gvalue) :
    MultipartRoundTrip parsers sip.toSipMessage := by
  have hboundary := boundary_eq hmulti
  rw [if_neg h.mimeVersion, if_neg (not_lt.2 h.short), if_neg h.quote] at hboundary
  have hencodes : sip.fields.BodiesEncode :=
    ⟨⟨_, hboundary⟩, fun body hmem => ⟨_, Body.toStr_of_wellFormed (hmulti.bodies body hmem)⟩⟩
  obtain ⟨text, htext⟩ := serialise_ok_iff.2 (head.restEncodes hencodes)
  obtain ⟨startline, boundary, rest, hstart, hprinted, hrest, hlines⟩ :=
    serialise_bodies htext hmulti.bodies_ne head.present
  rw [head.startlineToStr] at hstart
  cases hstart
  rw [hboundary] at hprinted
  cases hprinted
  have hsize := h.size
  rw [← bodiesToStr_length hrest] at hsize
  have hparts := (Multipart.msgOsipBodyParse_iff head.boundary hmulti.bodies_ne hmulti.bodies
    hrest).2 h.bodies
  obtain ⟨sip', hparse, hbodies⟩ := (head.parse_iff hmulti.bodies_ne rest).2 ⟨hsize, hparts⟩
  rw [← hlines] at hparse
  refine ⟨text, sip', ?_, hparse, hbodies⟩
  rw [SipMessage.toStr_of_coherent sip.coherent]
  exact htext

end

/-- The bodies come back exactly when delimiters are printed, the length that is printed is
read and each part comes back from between its delimiters. -/
theorem multipartRoundTrip_iff (parsers : MessageParsers) (sip : CoherentMessage) (gvalue : Str)
    (hmulti : IsMultipart sip.toSipMessage gvalue)
    (head : HeadSection parsers sip.toSipMessage gvalue) :
    MultipartRoundTrip parsers sip.toSipMessage ↔ RoundTrips sip.toSipMessage gvalue :=
  ⟨roundTrips_of_multipartRoundTrip hmulti head, multipartRoundTrip_of_roundTrips hmulti head⟩

def mixed : ContentType :=
  ⟨some "multipart".toList, some "mixed".toList, [⟨"boundary".toList, some ['b']⟩]⟩

def partResponse (payloads : List Str) : CoherentMessage where
  fields :=
    { SipFields.init with
      statusCode := 200
      reasonPhrase := some "OK".toList
      contentType := some mixed
      mimeVersion := some ⟨some "1.0".toList⟩
      bodies := payloads.map fun payload => ⟨payload, [⟨some ['A'], some ['b']⟩], none⟩ }
  messageProperty := 2
  message := none
  messageLength := 0
  coherent := by
    intro h
    cases h

/-- Its header section is read as it is printed, whatever the payloads are. -/
def partResponseHead (payloads : List Str) :
    HeadSection default (partResponse payloads).toSipMessage ['b'] where
  startline := "SIP/2.0 200 OK".toList
  parsed :=
    SipMessage.init.withFields
      { SipFields.init with
        sipVersion := some "SIP/2.0".toList
        statusCode := 200
        reasonPhrase := some "OK".toList }
  headers := [("Content-Type: ".toList, "multipart/mixed; boundary=b".toList),
    ("Mime-Version: ".toList, "1.0".toList)]
  lines := [("Content-Type".toList, "multipart/mixed; boundary=b".toList),
    ("Mime-Version".toList, "1.0".toList)]
  stored :=
    SipMessage.init.updated
      { SipFields.init with
        sipVersion := some "SIP/2.0".toList
        statusCode := 200
        reasonPhrase := some "OK".toList
        contentType := some mixed
        mimeVersion := some ⟨some "1.0".toList⟩ }
  startlineToStr := by
    have hline : (partResponse []).fields.startlineToStr = .ok "SIP/2.0 200 OK".toList := by
      decide +kernel
    exact hline
  startlineReads := by
    have hversion : Plain "SIP/2.0".toList := by decide
    have hspace : ∀ c ∈ "SIP/2.0".toList, c ≠ ' ' := by simp
    have hreason : Plain "OK".toList := by decide
    have hline : cString "SIP/2.0 200 OK".toList =
        "SIP/2.0".toList ++ ' ' :: Nat.toDigits 10 200 ++ ' ' :: "OK".toList := by decide +kernel
    rw [hline]
    exact SipMessage.startlineReads_response (List.prefix_append _ _) hspace hversion hreason
      (by decide)
  present := rfl
  headers_eq := by decide +kernel
  fields := by
    have hcontentType : FieldText ("Content-Type".toList, "multipart/mixed; boundary=b".toList) :=
      ⟨by decide, List.all_eq_true.1 (by decide), by decide⟩
    have hmimeVersion : FieldText ("Mime-Version".toList, "1.0".toList) :=
      ⟨by decide, List.all_eq_true.1 (by decide), by decide⟩
    rw [List.forall_mem_cons, List.forall_mem_singleton]
    exact ⟨hcontentType, hmimeVersion⟩
  stores := by decide +kernel
  contentLength := rfl
  contentType := ⟨mixed, rfl, rfl, ['b'], ⟨by decide, by decide⟩, rfl⟩
  boundary := by decide

theorem partResponse_isMultipart {payloads : List Str} (hne : payloads ≠ [])
    (hfull : ∀ payload ∈ payloads, payload ≠ []) :
    IsMultipart (partResponse payloads).toSipMessage ['b'] := by
  have hfield : FieldText (['A'], ['b']) :=
    ⟨by decide, List.all_eq_true.1 (by decide), by decide⟩
  refine ⟨⟨mixed, rfl, by decide, by decide⟩, List.map_eq_nil_iff.not.2 hne, ?_⟩
  intro body hbody
  obtain ⟨payload, hpayload, rfl⟩ := List.mem_map.1 hbody
  refine ⟨hfull payload hpayload, List.cons_ne_nil _ _, ?_, ?_⟩
  · intro header hmem
    rw [List.mem_singleton.1 hmem]
    exact hfield
  · intro contentType hmem
    cases hmem

/-- The second part has a NUL, and a delimiter but for the line break before it. -/
theorem partResponse_roundTrips :
    MultipartRoundTrip default
      (partResponse ["hello".toList, "\x00--b\n-b".toList]).toSipMessage := by
  apply (multipartRoundTrip_iff default (partResponse ["hello".toList, "\x00--b\n-b".toList]) ['b']
    (partResponse_isMultipart (by decide) (by decide)) (partResponseHead _)).2
  refine ⟨by decide, by decide, by decide, by unfold SizeReads; decide +kernel, ?_⟩
  have hheader (header : Header) (hmem : header ∈ [(⟨some ['A'], some ['b']⟩ : Header)]) :
      Body.HeaderReads header := by
    rw [List.mem_singleton.1 hmem]
    exact ⟨by decide, ⟨['b'], rfl, by decide⟩, by decide⟩
  have hnone : ∀ contentType ∈ (none : Option ContentType), Body.ContentTypeReads contentType := by
    intro contentType hmem
    cases hmem
  intro body hbody
  obtain ⟨payload, hpayload, rfl⟩ := List.mem_map.1 hbody
  simp only [List.mem_cons, List.not_mem_nil, or_false] at hpayload
  obtain rfl | rfl := hpayload
  · refine ⟨hheader, hnone, ?_, by decide⟩
    intro text htext
    cases htext
    decide +kernel
  · refine ⟨hheader, hnone, ?_, by decide⟩
    intro text htext
    cases htext
    decide +kernel

/-- A payload of a thousand NULs does not come back. -/
theorem partResponse_nuls :
    ¬ MultipartRoundTrip default (partResponse [List.replicate 1000 '\x00']).toSipMessage := by
  intro h
  have hne : List.replicate 1000 '\x00' ≠ [] := List.cons_ne_nil _ _
  have hfull : ∀ payload ∈ [List.replicate 1000 '\x00'], payload ≠ [] := by
    rw [List.forall_mem_singleton]
    exact hne
  have hparts := (roundTrips_of_multipartRoundTrip
    (partResponse_isMultipart (List.cons_ne_nil _ _) hfull) (partResponseHead _) h).bodies
  have hnuls := (hparts _ (List.mem_singleton.2 rfl)).nuls
  rw [List.count_replicate_self] at hnuls
  exact absurd hnuls (lt_irrefl _)

end Exosip
