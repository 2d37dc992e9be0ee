import Exosip.Parser.Part
import Exosip.Parser.Scan

/-! Which MIME bodies come back when the bodies section of a message is parsed. -/
namespace Exosip

open CString

/-! ### One part -/

def capital : Str → Str
  | [] => []
  | c :: name => c.toUpper :: name

namespace Body

def headerText (header : Header) : Str × Str :=
  (capital (header.hname.getD []), header.hvalue.getD [])

def partHeaders (body : Body) : List (Str × Str) :=
  (body.contentType.map fun contentType =>
    ("content-type".toList, (osipContentTypeToStr contentType).toOption.getD [])).toList ++
      body.headers.map headerText

/-- A part with a payload and at least one header, whose headers are printed as a token and
a text without line breaks. -/
structure WellFormed (body : Body) : Prop where
  payload : body.body ≠ []
  headed : body.partHeaders ≠ []
  fields : ∀ header ∈ body.partHeaders, FieldText header
  contentType : ∀ contentType ∈ body.contentType, ∃ text, osipContentTypeToStr contentType = .ok text

/-- The header comes back: its name does not begin with a small letter and is not taken for
the Content-Type, and its value has no blanks around it. -/
structure HeaderReads (header : Header) : Prop where
  name : capital (header.hname.getD []) = header.hname.getD []
  value : ∃ value, header.hvalue = some value ∧ osipClrspace value = value
  other : osipStrncasecmp (header.hname.getD []) "content-type".toList 12 = false

def ContentTypeReads (contentType : ContentType) : Prop :=
  ∀ text, osipContentTypeToStr contentType = .ok text →
    ContentType.parse (osipClrspace text) = .ok contentType

variable {body : Body}

theorem cString_plain {s : Str} (h : Plain s) : cString s = s :=
  cString_eq_self fun hmem => (h _ hmem).2.2 rfl

theorem osipHeaderToStr_eq {header : Header} (h : FieldText (headerText header)) :
    osipHeaderToStr header = .ok (printed (headerText header)) := by
  unfold osipHeaderToStr headerText
  cases hname : header.hname with
  | none =>
      have hne := h.name_ne
      rw [headerText, hname] at hne
      exact absurd rfl hne
  | some name =>
      cases name with
      | nil =>
          have hne := h.name_ne
          rw [headerText, hname] at hne
          exact absurd rfl hne
      | cons c name => rfl

theorem headersToStr_eq {headers : List Header} (h : ∀ header ∈ headers, FieldText (headerText header)) :
    headersToStr headers = .ok (unlines ((headers.map headerText).map printed)) := by
  induction headers with
  | nil => rfl
  | cons header headers ih =>
      rw [List.forall_mem_cons] at h
      rw [headersToStr, osipHeaderToStr_eq h.1, ih h.2]
      simp only [ok_bind, textLine, cString_plain h.1.plain]
      rfl

theorem toStr_of_wellFormed (h : body.WellFormed) :
    body.toStr = .ok (partText body.partHeaders body.body) := by
  have hheaders : ∀ header ∈ body.headers, FieldText (headerText header) := by
    intro header hmem
    apply h.fields
    rw [partHeaders, List.mem_append]
    exact Or.inr (List.mem_map_of_mem hmem)
  rw [toStr, if_neg h.payload, headersToStr_eq hheaders]
  cases hct : body.contentType with
  | none =>
      have hne : body.headers ≠ [] := by
        intro hnil
        apply h.headed
        rw [partHeaders, hct, hnil]
        rfl
      simp only [contentTypeToStr, ok_bind]
      rw [if_pos (Or.inl hne), partText, partHeaders, hct]
      simp
  | some contentType =>
      obtain ⟨text, htext⟩ := h.contentType contentType hct
      have hplain : Plain text := by
        have hfield := h.fields ("content-type".toList, text) (by
          rw [partHeaders, hct, List.mem_append]
          simp [htext, Except.toOption])
        exact hfield.value
      simp only [contentTypeToStr, ok_bind, htext, textLine, cString_plain hplain]
      have hcontentType : body.headers ≠ [] ∨ (some contentType).isSome = true := Or.inr rfl
      rw [if_pos hcontentType, partText, partHeaders, hct]
      simp [htext, Except.toOption, printed]

/-! ### What is read back -/

theorem storeHeader_known {hname : Str} (h : osipStrncasecmp hname "content-type".toList 12 = true)
    {hvalue : Str} {body' : Body} (hstore : storeHeader body hname hvalue = .ok body') :
    body'.headers = body.headers := by
  rw [storeHeader, if_pos h, setContenttype, exists_ok_bind] at hstore
  obtain ⟨contentType, -, hstore⟩ := hstore
  cases hstore
  rfl

theorem storeHeader_other {hname : Str} (h : osipStrncasecmp hname "content-type".toList 12 = false)
    (hvalue : Str) : storeHeader body hname hvalue = .ok (setHeader body hname hvalue) := by
  rw [storeHeader, h, if_neg Bool.false_ne_true]

theorem storeLines_headers {headers : List (Str × Str)} {body' : Body}
    (h : storeLines headers body = .ok body') :
    ∃ added, body'.headers = body.headers ++ added ∧ added.length ≤ headers.length := by
  induction headers generalizing body with
  | nil =>
      cases h
      exact ⟨[], by simp⟩
  | cons header headers ih =>
      rw [storeLines, exists_ok_bind] at h
      obtain ⟨stored, hstore, h⟩ := h
      obtain ⟨added, hadded, hlen⟩ := ih h
      cases hknown : osipStrncasecmp header.1 "content-type".toList 12 with
      | true =>
          rw [storeHeader_known hknown hstore] at hadded
          exact ⟨added, hadded, Nat.le_succ_of_le hlen⟩
      | false =>
          rw [storeHeader_other hknown] at hstore
          cases hstore
          refine ⟨⟨some header.1, some (osipClrspace header.2)⟩ :: added, ?_, Nat.succ_le_succ hlen⟩
          rw [hadded, setHeader, List.append_assoc]
          rfl

theorem reads_of_storeLines {headers : List Header} {result : Body}
    (hstore : storeLines (headers.map headerText) body = .ok result)
    (hheaders : result.headers = body.headers ++ headers) :
    ∀ header ∈ headers, HeaderReads header := by
  induction headers generalizing body with
  | nil =>
      intro header hmem
      cases hmem
  | cons header headers ih =>
      rw [List.map_cons, storeLines, exists_ok_bind] at hstore
      obtain ⟨stored, hfirst, hstore⟩ := hstore
      obtain ⟨added, hadded, hlen⟩ := storeLines_headers hstore
      rw [List.length_map] at hlen
      cases hknown : osipStrncasecmp (headerText header).1 "content-type".toList 12 with
      | true =>
          -- a header that is taken for the Content-Type is missing in the end
          rw [storeHeader_known hknown hfirst, hheaders, List.append_cancel_left_eq] at hadded
          rw [← hadded, List.length_cons] at hlen
          omega
      | false =>
          rw [storeHeader_other hknown] at hfirst
          cases hfirst
          rw [hheaders, setHeader, List.append_assoc, List.append_cancel_left_eq,
            List.singleton_append, List.cons.injEq] at hadded
          have hname : capital (header.hname.getD []) = header.hname.getD [] := by
            have hname := congrArg (fun header => header.hname.getD []) hadded.1
            exact hname.symm
          have hvalue : header.hvalue = some (osipClrspace (header.hvalue.getD [])) :=
            congrArg Header.hvalue hadded.1
          have htrimmed : header.hvalue.getD [] = osipClrspace (header.hvalue.getD []) :=
            congrArg (fun value => value.getD []) hvalue
          rw [List.forall_mem_cons]
          constructor
          · refine ⟨hname, ⟨_, hvalue, ?_⟩, ?_⟩
            · rw [← htrimmed]
              exact htrimmed.symm
            · rw [← hname]
              exact hknown
          · apply ih hstore
            rw [hheaders, setHeader, List.append_assoc, List.singleton_append, ← hadded.1]

theorem storeLines_of_reads {headers : List Header} (hnames : ∀ header ∈ headers, header.hname ≠ none)
    (h : ∀ header ∈ headers, HeaderReads header) :
    storeLines (headers.map headerText) body =
      .ok { body with headers := body.headers ++ headers } := by
  induction headers generalizing body with
  | nil => simp [storeLines]
  | cons header headers ih =>
      rw [List.forall_mem_cons] at h hnames
      obtain ⟨name, hname⟩ := Option.ne_none_iff_exists'.1 hnames.1
      obtain ⟨value, hvalue, htrimmed⟩ := h.1.value
      have hcapital := h.1.name
      have hother := h.1.other
      rw [hname, Option.getD_some] at hcapital hother
      have htext : headerText header = (name, value) := by
        rw [headerText, hname, hvalue]
        exact Prod.ext hcapital rfl
      have hheader : header = ⟨some name, some value⟩ := by
        cases header
        cases hname
        cases hvalue
        rfl
      rw [List.map_cons, storeLines, htext, storeHeader_other hother, ok_bind, ih hnames.2 h.2,
        htrimmed, setHeader, ← hheader]
      simp

theorem storeLines_body {headers : List (Str × Str)} {result : Body}
    (h : storeLines headers body = .ok result) : result.body = body.body := by
  induction headers generalizing body with
  | nil =>
      cases h
      rfl
  | cons header headers ih =>
      rw [storeLines, exists_ok_bind] at h
      obtain ⟨stored, hstore, h⟩ := h
      rw [ih h]
      unfold storeHeader at hstore
      split at hstore
      · rw [setContenttype, exists_ok_bind] at hstore
        obtain ⟨contentType, -, hstore⟩ := hstore
        cases hstore
        rfl
      · cases hstore
        rfl

theorem WellFormed.hname_ne (h : body.WellFormed) : ∀ header ∈ body.headers, header.hname ≠ none := by
  intro header hmem hnone
  have hfield := h.fields (headerText header) (by
    rw [partHeaders, List.mem_append]
    exact Or.inr (List.mem_map_of_mem hmem))
  apply hfield.name_ne
  rw [headerText, hnone]
  rfl

theorem storeLines_contentType (text : Str) (headers : List (Str × Str)) :
    storeLines (("content-type".toList, text) :: headers) init =
      ContentType.parse (osipClrspace text) >>= fun parsed =>
        storeLines headers { init with contentType := some parsed } := by
  have hknown : osipStrncasecmp "content-type".toList "content-type".toList 12 = true := by decide
  have hstore : storeHeader init "content-type".toList (osipClrspace text) =
      setContenttype init (osipClrspace text) := if_pos hknown
  rw [storeLines, hstore, setContenttype]
  cases ContentType.parse (osipClrspace text) with
  | error i => rfl
  | ok parsed => rfl

theorem storeLines_partHeaders_iff (h : body.WellFormed) :
    storeLines body.partHeaders init = .ok { body with body := [] } ↔
      (∀ header ∈ body.headers, HeaderReads header) ∧
        ∀ contentType ∈ body.contentType, ContentTypeReads contentType := by
  rw [partHeaders]
  cases hct : body.contentType with
  | none =>
      constructor
      · intro hstore
        refine ⟨reads_of_storeLines hstore rfl, ?_⟩
        intro contentType hmem
        cases hmem
      · intro hreads
        exact storeLines_of_reads h.hname_ne hreads.1
  | some contentType =>
      obtain ⟨text, htext⟩ := h.contentType contentType hct
      have hstep : storeLines ((some contentType |>.map fun contentType =>
          ("content-type".toList, (osipContentTypeToStr contentType).toOption.getD [])).toList ++
            body.headers.map headerText) init =
          ContentType.parse (osipClrspace text) >>= fun parsed =>
            storeLines (body.headers.map headerText) { init with contentType := some parsed } := by
        rw [Option.map_some, htext]
        exact storeLines_contentType _ _
      have hreads : ContentTypeReads contentType ↔
          ContentType.parse (osipClrspace text) = .ok contentType := by
        rw [ContentTypeReads]
        constructor
        · intro hall
          exact hall text htext
        · intro hparse text' htext'
          rw [htext] at htext'
          cases htext'
          exact hparse
      have hmem : (∀ contentType' ∈ some contentType, ContentTypeReads contentType') ↔
          ContentType.parse (osipClrspace text) = .ok contentType := by
        rw [← hreads]
        constructor
        · intro hall
          exact hall contentType rfl
        · intro hone contentType' hmem
          cases hmem
          exact hone
      rw [hmem, hstep, exists_ok_bind]
      constructor
      · intro hstore
        obtain ⟨parsed, hparsed, hstore⟩ := hstore
        have hheaders := reads_of_storeLines hstore rfl
        rw [storeLines_of_reads h.hname_ne hheaders] at hstore
        cases hstore
        exact ⟨hheaders, hparsed⟩
      · intro hboth
        refine ⟨contentType, hboth.2, ?_⟩
        rw [storeLines_of_reads h.hname_ne hboth.1]
        rfl

theorem parseMime_iff (h : body.WellFormed) :
    parseMime (partText body.partHeaders body.body) = .ok body ↔
      (∀ header ∈ body.headers, HeaderReads header) ∧
        ∀ contentType ∈ body.contentType, ContentTypeReads contentType := by
  rw [← storeLines_partHeaders_iff h, parseMime_partText h.headed h.fields h.payload]
  cases hstore : storeLines body.partHeaders init with
  | error i =>
      constructor
      · intro hmap
        cases hmap
      · intro hmap
        cases hmap
  | ok result =>
      have hempty : result.body = [] := storeLines_body hstore
      simp only [Except.map, Except.ok.injEq]
      constructor
      · intro heq
        rw [← heq, ← hempty]
      · intro heq
        rw [heq]

def text (body : Body) : Str := partText body.partHeaders body.body

/-- A part comes back from among others: its headers do, the separator does not begin in it,
and the search for the next separator has a round for each NUL of the payload. -/
structure Reads (sep : Str) (body : Body) : Prop where
  headers : ∀ header ∈ body.headers, HeaderReads header
  contentType : ∀ contentType ∈ body.contentType, ContentTypeReads contentType
  apart : ∀ text, body.toStr = .ok text → ¬ sep <:+: '\n' :: text
  nuls : body.body.count '\x00' < Multipart.rounds

theorem count_plain {s : Str} (h : Plain s) : s.count '\x00' = 0 :=
  List.count_eq_zero.2 fun hmem => (h _ hmem).2.2 rfl

theorem count_partText {headers : List (Str × Str)} (h : ∀ header ∈ headers, FieldText header)
    (payload : Str) : (partText headers payload).count '\x00' = payload.count '\x00' := by
  have hcrlf : crlf.count '\x00' = 0 := by decide
  induction headers with
  | nil => simp [partText, hcrlf]
  | cons header headers ih =>
      rw [List.forall_mem_cons] at h
      rw [partText_cons, List.count_append, List.count_append, ih h.2, hcrlf, count_plain h.1.plain]
      omega

theorem reads_iff {sep : Str} (h : body.WellFormed) :
    body.Reads sep ↔ Multipart.Quiet sep body.text ∧ parseMime body.text = .ok body := by
  have hcount := count_partText h.fields body.body
  have htext : body.toStr = .ok body.text := toStr_of_wellFormed h
  rw [text, parseMime_iff h]
  constructor
  · intro hreads
    refine ⟨⟨hreads.apart _ htext, ?_⟩, hreads.headers, hreads.contentType⟩
    rw [hcount]
    exact hreads.nuls
  · intro hboth
    refine ⟨hboth.2.1, hboth.2.2, ?_, ?_⟩
    · intro text' htext'
      rw [htext] at htext'
      cases htext'
      exact hboth.1.apart
    · rw [← hcount]
      exact hboth.1.nuls

def item (h : body.WellFormed) : Multipart.Item where
  text := body.text
  body := body
  strict := by
    intro n hn hparse
    exact absurd (parseMime_take h.fields h.headed hn hparse) (lt_irrefl _)

theorem exists_items {bodies : List Body} (h : ∀ body ∈ bodies, body.WellFormed) :
    ∃ items : List Multipart.Item, items.map Multipart.Item.body = bodies ∧
      ∀ item ∈ items, item.text = item.body.text ∧ item.body.WellFormed := by
  induction bodies with
  | nil => exact ⟨[], rfl, by simp⟩
  | cons body bodies ih =>
      rw [List.forall_mem_cons] at h
      obtain ⟨items, hbodies, hitems⟩ := ih h.2
      refine ⟨item h.1 :: items, ?_, ?_⟩
      · rw [List.map_cons, hbodies]
        rfl
      · rw [List.forall_mem_cons]
        exact ⟨⟨rfl, h.1⟩, hitems⟩

end Body

/-! ### All parts -/

namespace Multipart

theorem separator_sepBoundary {gvalue : Str} (h : Plain (unquoted gvalue)) :
    Separator (sepBoundary gvalue) := by
  refine ⟨rfl, ?_, ?_⟩
  all_goals
    rw [sepBoundary, List.mem_append, not_or]
    refine ⟨by decide, ?_⟩
    intro hmem
  · exact (h _ hmem).1 rfl
  · exact (h _ hmem).2.2 rfl

theorem bodiesToStr_delimited {gvalue : Str} (h : Plain (unquoted gvalue)) {items : List Item}
    (hitems : ∀ item ∈ items, item.body.toStr = .ok item.text) :
    SipFields.bodiesToStr (some ("\r\n--".toList ++ unquoted gvalue)) (items.map Item.body) =
      .ok ('\r' :: delimited (sepBoundary gvalue) (items.map Item.text)) := by
  have hboundary : cString ("\r\n--".toList ++ unquoted gvalue) = '\r' :: sepBoundary gvalue := by
    apply cString_eq_self
    show '\x00' ∉ '\r' :: sepBoundary gvalue
    rw [List.mem_cons, not_or]
    exact ⟨by decide, (separator_sepBoundary h).nul⟩
  induction items with
  | nil =>
      simp only [List.map_nil, SipFields.bodiesToStr, SipFields.closeDelimiter, Option.map_some,
        Option.getD_some, hboundary, delimited]
      rfl
  | cons item items ih =>
      rw [List.forall_mem_cons] at hitems
      rw [List.map_cons, SipFields.bodiesToStr, hitems.1, ih hitems.2]
      simp only [ok_bind, SipFields.delimiter, Option.map_some, Option.getD_some, textLine,
        hboundary, List.map_cons, delimited]
      simp

theorem findNextOccurence_first {gvalue : Str} (h : Plain (unquoted gvalue)) (texts : List Str) :
    findNextOccurence (sepBoundary gvalue) ("\r\n\r".toList ++ delimited (sepBoundary gvalue) texts)
      rounds 0 = some "\r\n\r".toList.length := by
  have hsep := separator_sepBoundary h
  have hfirst : FirstAt (sepBoundary gvalue)
      (("\r\n\r".toList ++ delimited (sepBoundary gvalue) texts).drop 0) 3 := by
    refine ⟨isPrefix_delimited _ _, ?_⟩
    intro j hj hpre
    have hhead := hsep.head_of_prefix hpre
    match j with
    | 0 => cases hhead
    | 1 =>
        -- behind the first LF comes a CR and not a dash
        rw [sepBoundary] at hpre
        obtain ⟨t, ht⟩ := hpre
        have hsecond := congrArg (·[1]?) ht
        cases hsecond
    | 2 => cases hhead
  have htake : ("\r\n\r".toList ++ delimited (sepBoundary gvalue) texts).take 3 = "\r\n\r".toList :=
    rfl
  rw [findNextOccurence_firstAt hsep.ne_nil hfirst, List.drop_zero, htake,
    if_pos (by decide)]
  rfl

theorem length_le_delimited (sep : Str) (texts : List Str) :
    texts.length ≤ (delimited sep texts).length := by
  induction texts with
  | nil => exact Nat.zero_le _
  | cons text texts ih =>
      rw [delimited, List.length_cons, List.length_append, List.length_cons]
      omega

theorem msgOsipBodyParse_iff {gvalue : Str} (h : Plain (unquoted gvalue)) {bodies : List Body}
    (hne : bodies ≠ []) (hbodies : ∀ body ∈ bodies, body.WellFormed) {text : Str}
    (htext : SipFields.bodiesToStr (some ("\r\n--".toList ++ unquoted gvalue)) bodies = .ok text) :
    (msgOsipBodyParse gvalue (crlf ++ text)).2 = .ok bodies ↔
      ∀ body ∈ bodies, body.Reads (sepBoundary gvalue) := by
  obtain ⟨items, rfl, hitems⟩ := Body.exists_items hbodies
  have htexts : ∀ item ∈ items, item.body.toStr = .ok item.text := by
    intro item hmem
    rw [(hitems item hmem).1]
    exact Body.toStr_of_wellFormed (hitems item hmem).2
  rw [bodiesToStr_delimited h htexts] at htext
  cases htext
  have hbuf : crlf ++ '\r' :: delimited (sepBoundary gvalue) (items.map Item.text) =
      "\r\n\r".toList ++ delimited (sepBoundary gvalue) (items.map Item.text) := rfl
  rw [hbuf, msgOsipBodyParse, parts_delimited_iff (separator_sepBoundary h) _ _
    (findNextOccurence_first h _), List.forall_mem_map]
  · apply forall₂_congr
    intro item hmem
    rw [Body.reads_iff (hitems item hmem).2, (hitems item hmem).1]
  · intro hnil
    exact hne (by rw [hnil]; rfl)
  · have hlen := length_le_delimited (sepBoundary gvalue) (items.map Item.text)
    rw [List.length_map] at hlen
    rw [List.length_append]
    omega

end Multipart
end Exosip
