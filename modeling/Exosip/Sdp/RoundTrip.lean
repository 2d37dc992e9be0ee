import Exosip.Sdp.Accepted
import Mathlib.Data.List.Induction

/-! A session description that the parser accepts is printed, and the printed text is parsed
into the same session description. -/
namespace Exosip
namespace Sdp

/-- The text starts with a line for one of the letters. -/
def Leads (letters text : Str) : Prop :=
  ∃ c rest, text = c :: '=' :: rest ∧ c ∈ letters ∧ c ≠ '=' ∧ isLineEnd c = false

/-- The text is empty or starts with a line for one of the letters. -/
def Follows (letters text : Str) : Prop := text = [] ∨ Leads letters text

/-- Go on with the text, or return at its end. -/
def proceed (sdp : SdpMessage) (text : Str) : Progress := (Progress.more sdp text).stopAtEnd

/-- A kind of lines: its parser, and how an element is printed and put into its place. -/
structure LineKind (α : Type) where
  parse : LineParser
  letter : Char
  append : α → Option Str
  add : SdpMessage → α → SdpMessage

/-- The parser reads the lines printed for well-formed elements, where `ok` holds, and leaves
other lines alone. -/
structure LineKind.Reads {α : Type} (kind : LineKind α) (ok : SdpMessage → Prop) (wf : α → Prop) :
    Prop where
  letter : kind.letter ≠ '=' ∧ isLineEnd kind.letter = false
  keeps : ∀ sdp a, ok sdp → ok (kind.add sdp a)
  read : ∀ a, wf a → ∃ t, kind.append a = some (appendLine kind.letter t) ∧
    ∀ sdp rest, ok sdp → kind.parse sdp (appendLine kind.letter t ++ rest) =
      .wf (kind.add sdp a) rest
  discard : ∀ sdp c rest, c ≠ kind.letter → c ≠ '=' → kind.parse sdp (c :: '=' :: rest) = .discard

section Sections

variable {letters text rest : Str} {sdp : SdpMessage}

theorem proceed_nil : proceed sdp [] = .finished sdp := rfl

theorem proceed_leads (h : Leads letters text) : proceed sdp text = .more sdp text := by
  obtain ⟨c, rest, rfl, -, -, hend⟩ := h
  simp [proceed, Progress.stopAtEnd, Progress.bind, hend]

theorem Leads.weaken {letters' : Str} (h : Leads letters text) (hsub : letters ⊆ letters') :
    Leads letters' text := by
  obtain ⟨c, rest, rfl, hmem, hc⟩ := h
  exact ⟨c, rest, rfl, hsub hmem, hc⟩

theorem appendLine_leads {letter : Char} (h : letter ≠ '=' ∧ isLineEnd letter = false) (t : Str) :
    Leads [letter] (appendLine letter t ++ rest) :=
  ⟨letter, t ++ crlfStr ++ rest, by simp [appendLine], List.mem_singleton_self _, h⟩

theorem appendAll_cons {α : Type} {append : α → Option Str} {a : α} {l : List α} {texts : Str}
    (h : appendAll append (a :: l) = some texts) :
    ∃ t ts, append a = some t ∧ appendAll append l = some ts ∧ texts = t ++ ts := by
  simp only [appendAll, Option.bind_eq_bind, Option.bind_eq_some_iff] at h
  obtain ⟨t, ht, ts, hts, h⟩ := h
  cases h
  exact ⟨t, ts, ht, hts, rfl⟩

theorem appendAll_lines (letter : Char) (l : List Str) :
    appendAll (fun t => some (appendLine letter t)) l = some (l.flatMap (appendLine letter)) := by
  induction l with
  | nil => rfl
  | cons t l ih =>
      rw [appendAll, ih, List.flatMap_cons]
      rfl

namespace LineKind.Reads

variable {α : Type} {kind : LineKind α} {ok : SdpMessage → Prop} {wf : α → Prop} {l : List α}
  {texts : Str}

theorem exists_texts (h : kind.Reads ok wf) (hl : ∀ a ∈ l, wf a) :
    ∃ texts, appendAll kind.append l = some texts := by
  induction l with
  | nil => exact ⟨[], rfl⟩
  | cons a l ih =>
      rw [List.forall_mem_cons] at hl
      obtain ⟨texts, htexts⟩ := ih hl.2
      obtain ⟨t, ht, -⟩ := h.read a hl.1
      exact ⟨appendLine kind.letter t ++ texts, by
        simp only [appendAll, ht, htexts, Option.bind_eq_bind, Option.bind_some]⟩

theorem length_le (h : kind.Reads ok wf) (hl : ∀ a ∈ l, wf a)
    (htexts : appendAll kind.append l = some texts) : l.length ≤ texts.length := by
  induction l generalizing texts with
  | nil => exact Nat.zero_le _
  | cons a l ih =>
      rw [List.forall_mem_cons] at hl
      obtain ⟨t, ts, ht, hts, rfl⟩ := appendAll_cons htexts
      obtain ⟨content, happend, -⟩ := h.read a hl.1
      rw [happend] at ht
      cases ht
      have := ih hl.2 hts
      rw [List.length_append, List.length_cons, appendLine, List.length_cons]
      omega

theorem follows (h : kind.Reads ok wf) (hl : ∀ a ∈ l, wf a)
    (htexts : appendAll kind.append l = some texts) (hrest : Follows letters rest) :
    Follows (kind.letter :: letters) (texts ++ rest) := by
  cases l with
  | nil =>
      cases htexts
      exact hrest.imp id fun hleads => hleads.weaken (List.subset_cons_self _ _)
  | cons a l =>
      obtain ⟨t, ts, ht, -, rfl⟩ := appendAll_cons htexts
      obtain ⟨content, happend, -⟩ := h.read a (hl a List.mem_cons_self)
      rw [happend] at ht
      cases ht
      rw [List.append_assoc]
      refine .inr ((appendLine_leads h.letter content).weaken ?_)
      intro c hc
      rw [List.mem_singleton.1 hc]
      exact List.mem_cons_self

theorem leads (h : kind.Reads ok wf) (hl : ∀ a ∈ l, wf a)
    (htexts : appendAll kind.append l = some texts) (hrest : Leads letters rest) :
    Leads (kind.letter :: letters) (texts ++ rest) := by
  refine (h.follows hl htexts (.inr hrest)).resolve_left ?_
  obtain ⟨c, back, rfl, -⟩ := hrest
  simp

theorem parse_discard (h : kind.Reads ok wf) (hrest : Leads letters rest)
    (hletter : kind.letter ∉ letters) : kind.parse sdp rest = .discard := by
  obtain ⟨c, back, rfl, hmem, hequal, -⟩ := hrest
  exact h.discard sdp c back (fun heq => hletter (heq ▸ hmem)) hequal

theorem optional_discard (h : kind.Reads ok wf) (hrest : Leads letters rest)
    (hletter : kind.letter ∉ letters) : optional kind.parse sdp rest = .more sdp rest := by
  rw [optional, h.parse_discard hrest hletter]

theorem repeated_more (h : kind.Reads ok wf) (hl : ∀ a ∈ l, wf a)
    (htexts : appendAll kind.append l = some texts) (hrest : Leads letters rest)
    (hletter : kind.letter ∉ letters) (hok : ok sdp) :
    repeatedLines kind.parse id sdp (texts ++ rest) = .more (l.foldl kind.add sdp) rest := by
  have hloop (fuel : Nat) (hfuel : l.length < fuel) :
      repeated kind.parse id fuel sdp (texts ++ rest) = .more (l.foldl kind.add sdp) rest := by
    induction l generalizing sdp texts fuel with
    | nil =>
        cases htexts
        obtain ⟨fuel, rfl⟩ := Nat.exists_eq_add_one_of_ne_zero (Nat.ne_of_gt hfuel)
        rw [List.nil_append, repeated, h.parse_discard hrest hletter]
        rfl
    | cons a l ih =>
        cases fuel with
        | zero => exact absurd hfuel (Nat.not_lt_zero _)
        | succ fuel =>
            rw [List.forall_mem_cons] at hl
            obtain ⟨t, ts, ht, hts, rfl⟩ := appendAll_cons htexts
            obtain ⟨content, happend, hparse⟩ := h.read a hl.1
            rw [happend] at ht
            cases ht
            rw [List.append_assoc, repeated, hparse sdp _ hok]
            exact ih hl.2 hts (h.keeps sdp a hok) fuel (Nat.lt_of_succ_lt_succ hfuel)
  have hlength := h.length_le hl htexts
  refine hloop _ ?_
  rw [List.length_append]
  omega

theorem repeated_proceed (h : kind.Reads ok wf) (hl : ∀ a ∈ l, wf a)
    (htexts : appendAll kind.append l = some texts) (hrest : Follows letters rest)
    (hletter : kind.letter ∉ letters) (hok : ok sdp) :
    (proceed sdp (texts ++ rest)).bind (repeatedLines kind.parse .stopAtEnd) =
      proceed (l.foldl kind.add sdp) rest := by
  have hloop (fuel : Nat) (hfuel : l.length < fuel) :
      (proceed sdp (texts ++ rest)).bind (repeated kind.parse .stopAtEnd fuel) =
        proceed (l.foldl kind.add sdp) rest := by
    induction l generalizing sdp texts fuel with
    | nil =>
        cases htexts
        obtain ⟨fuel, rfl⟩ := Nat.exists_eq_add_one_of_ne_zero (Nat.ne_of_gt hfuel)
        rcases hrest with rfl | hleads
        · rfl
        · rw [List.nil_append, proceed_leads hleads]
          dsimp only [Progress.bind, List.foldl_nil]
          rw [repeated, h.parse_discard hleads hletter]
          rfl
    | cons a l ih =>
        cases fuel with
        | zero => exact absurd hfuel (Nat.not_lt_zero _)
        | succ fuel =>
            rw [List.forall_mem_cons] at hl
            obtain ⟨t, ts, ht, hts, rfl⟩ := appendAll_cons htexts
            obtain ⟨content, happend, hparse⟩ := h.read a hl.1
            rw [happend] at ht
            cases ht
            rw [List.append_assoc, proceed_leads (appendLine_leads h.letter content)]
            dsimp only [Progress.bind, List.foldl_cons]
            rw [repeated, hparse sdp _ hok]
            exact ih hl.2 hts (h.keeps sdp a hok) fuel (Nat.lt_of_succ_lt_succ hfuel)
  have hlength := h.length_le hl htexts
  have hloop := hloop ((texts ++ rest).length + 1) (by rw [List.length_append]; omega)
  rcases h.follows hl htexts hrest with hnil | hleads
  · rw [hnil] at hloop ⊢
    exact hloop
  · rw [proceed_leads hleads] at hloop ⊢
    exact hloop

theorem optional_more (h : kind.Reads ok wf) {o : Option α} (ho : ∀ a ∈ o, wf a)
    (htexts : appendAll kind.append o.toList = some texts) (hrest : Leads letters rest)
    (hletter : kind.letter ∉ letters) (hok : ok sdp) :
    optional kind.parse sdp (texts ++ rest) = .more (o.toList.foldl kind.add sdp) rest := by
  cases o with
  | none =>
      cases htexts
      rw [List.nil_append, optional, h.parse_discard hrest hletter]
      rfl
  | some a =>
      obtain ⟨t, ts, ht, hts, rfl⟩ := appendAll_cons htexts
      obtain ⟨content, happend, hparse⟩ := h.read a (ho a rfl)
      rw [happend] at ht
      cases ht
      cases hts
      rw [List.append_nil, optional, hparse sdp _ hok]
      rfl

theorem optional_proceed (h : kind.Reads ok wf) {o : Option α} (ho : ∀ a ∈ o, wf a)
    (htexts : appendAll kind.append o.toList = some texts) (hrest : Follows letters rest)
    (hletter : kind.letter ∉ letters) (hok : ok sdp) :
    (proceed sdp (texts ++ rest)).bind (fun sdp ptr => (optional kind.parse sdp ptr).stopAtEnd) =
      proceed (o.toList.foldl kind.add sdp) rest := by
  cases o with
  | none =>
      cases htexts
      rcases hrest with rfl | hleads
      · rfl
      · rw [List.nil_append, proceed_leads hleads]
        dsimp only [Progress.bind]
        rw [optional, h.parse_discard hleads hletter]
        rfl
  | some a =>
      obtain ⟨t, ts, ht, hts, rfl⟩ := appendAll_cons htexts
      obtain ⟨content, happend, hparse⟩ := h.read a (ho a rfl)
      rw [happend] at ht
      cases ht
      cases hts
      rw [List.append_nil, proceed_leads (appendLine_leads h.letter content)]
      dsimp only [Progress.bind]
      rw [optional, hparse sdp _ hok]
      rfl

end LineKind.Reads

end Sections

section Kinds

/-- A line whose content is kept as it is. -/
abbrev textKind (parse : LineParser) (letter : Char) (add : SdpMessage → Str → SdpMessage) :
    LineKind Str :=
  ⟨parse, letter, fun t => some (appendLine letter t), add⟩

theorem parseHeader_reads {α : Type} {letter : Char} {t : Str} {a : α}
    {value : Str → Str → Option α} {sdp : SdpMessage} {add : SdpMessage → α → SdpMessage}
    (hletter : letter ≠ '=') (ht : IsText t)
    (hvalue : ∀ rest, value (t ++ (crlfStr ++ rest)) (crlfStr ++ rest) = some a) (rest : Str) :
    (parseHeader letter (appendLine letter t ++ rest) fun tmp crlf =>
      (value tmp crlf).map (add sdp)) = .wf (add sdp a) rest := by
  rw [parseHeader_appendLine hletter ht, hvalue]
  rfl

theorem textKind_reads {letter : Char} {add : SdpMessage → Str → SdpMessage}
    (hletter : letter ≠ '=' ∧ isLineEnd letter = false) :
    (textKind (fun sdp buf => parseHeader letter buf fun tmp crlf =>
      (textValue tmp crlf).map (add sdp)) letter add).Reads (fun _ => True) IsText where
  letter := hletter
  keeps _ _ _ := trivial
  read t ht := ⟨t, rfl, fun _ rest _ => parseHeader_reads hletter.1 ht (fun _ => textValue_line) rest⟩
  discard sdp c rest hne hequal :=
    parseHeader_discard (show c ≠ letter from hne) hequal rest fun tmp crlf =>
      (textValue tmp crlf).map (add sdp)

theorem printedKind_reads {α : Type} {letter : Char} {append : α → Option Str}
    {value : Str → Str → Option α} {add : SdpMessage → α → SdpMessage} {wf : α → Prop}
    (hletter : letter ≠ '=' ∧ isLineEnd letter = false)
    (hprinted : ∀ a, wf a → Printed letter append value a) :
    LineKind.Reads ⟨fun sdp buf => parseHeader letter buf fun tmp crlf =>
      (value tmp crlf).map (add sdp), letter, append, add⟩ (fun _ => True) wf where
  letter := hletter
  keeps _ _ _ := trivial
  read a ha := by
    obtain ⟨t, ht, happend, hvalue⟩ := hprinted a ha
    exact ⟨t, happend, fun _ rest _ => parseHeader_reads hletter.1 ht hvalue rest⟩
  discard sdp c rest hne hequal :=
    parseHeader_discard (show c ≠ letter from hne) hequal rest fun tmp crlf =>
      (value tmp crlf).map (add sdp)

abbrev nameKind : LineKind Str := textKind sdpMessageParseS 's' SdpMessage.setName
abbrev infoKind : LineKind Str := textKind sdpMessageParseI 'i' SdpMessage.setInfo
abbrev uriKind : LineKind Str := textKind sdpMessageParseU 'u' SdpMessage.setUri
abbrev emailKind : LineKind Str := textKind sdpMessageParseE 'e' SdpMessage.addEmail
abbrev phoneKind : LineKind Str := textKind sdpMessageParseP 'p' SdpMessage.addPhone
abbrev repeatKind : LineKind Str := textKind sdpMessageParseR 'r' SdpMessage.addRepeat
abbrev adjustmentsKind : LineKind Str := textKind sdpMessageParseZ 'z' SdpMessage.setAdjustments

abbrev connectionKind : LineKind Connection :=
  ⟨sdpMessageParseC, 'c', sdpAppendConnection, SdpMessage.addConnection⟩

abbrev bandwidthKind : LineKind Bandwidth :=
  ⟨sdpMessageParseB, 'b', sdpAppendBandwidth, SdpMessage.addBandwidth⟩

abbrev keyKind : LineKind Key := ⟨sdpMessageParseK, 'k', sdpAppendKey, SdpMessage.setKey⟩

abbrev attributeKind : LineKind Attribute :=
  ⟨sdpMessageParseA, 'a', sdpAppendAttribute, SdpMessage.addAttribute⟩

theorem nameKind_reads : nameKind.Reads (fun _ => True) IsText := textKind_reads (by decide)
theorem infoKind_reads : infoKind.Reads (fun _ => True) IsText := textKind_reads (by decide)
theorem uriKind_reads : uriKind.Reads (fun _ => True) IsText := textKind_reads (by decide)
theorem emailKind_reads : emailKind.Reads (fun _ => True) IsText := textKind_reads (by decide)
theorem phoneKind_reads : phoneKind.Reads (fun _ => True) IsText := textKind_reads (by decide)

theorem adjustmentsKind_reads : adjustmentsKind.Reads (fun _ => True) IsText :=
  textKind_reads (by decide)

theorem connectionKind_reads : connectionKind.Reads (fun _ => True) Connection.Wf :=
  printedKind_reads (by decide) fun _ => connection_printed

theorem bandwidthKind_reads : bandwidthKind.Reads (fun _ => True) Bandwidth.Wf :=
  printedKind_reads (by decide) fun _ => bandwidth_printed

theorem keyKind_reads : keyKind.Reads (fun _ => True) Key.Wf :=
  printedKind_reads (by decide) fun _ => key_printed

theorem attributeKind_reads : attributeKind.Reads (fun _ => True) Attribute.Wf :=
  printedKind_reads (by decide) fun _ => attribute_printed

theorem repeatKind_reads : repeatKind.Reads (fun sdp => sdp.tDescrs ≠ []) IsText where
  letter := by decide
  keeps sdp r h := by
    show (sdp.tDescrs.modify _ _) ≠ []
    exact fun hnil => h (List.modify_eq_nil_iff.1 hnil)
  read t ht := by
    refine ⟨t, rfl, ?_⟩
    intro sdp rest hok
    have hne : sdp.tDescrs.length ≠ 0 := fun h0 => hok (List.length_eq_zero_iff.1 h0)
    show sdpMessageParseR sdp (appendLine 'r' t ++ rest) = _
    rw [sdpMessageParseR, parseHeader_appendLine (by decide) ht, if_neg hne, textValue_line]
    rfl
  discard sdp c rest hne hequal :=
    parseHeader_discard (show c ≠ 'r' from hne) hequal rest fun tmp crlf =>
      if sdp.tDescrs.length = 0 then none else (textValue tmp crlf).map sdp.addRepeat

end Kinds

section Folds

variable {σ α : Type} {s : σ} {add : σ → α → σ}

theorem foldl_option (set : Option α → σ) (hnone : s = set none)
    (hsome : ∀ a, add s a = set (some a)) (o : Option α) : o.toList.foldl add s = set o := by
  cases o with
  | none => exact hnone
  | some a => exact hsome a

theorem foldl_list (set : List α → σ) (hnil : s = set [])
    (hadd : ∀ l a, add (set l) a = set (l ++ [a])) (l : List α) : l.foldl add s = set l := by
  induction l using List.reverseRecOn with
  | nil => exact hnil
  | append_singleton l a ih => rw [List.foldl_append, ih, List.foldl_cons, List.foldl_nil, hadd]

theorem modify_last {β : Type} (l : List β) (b : β) (f : β → β) :
    (l ++ [b]).modify ((l ++ [b]).length - 1) f = l ++ [f b] := by
  rw [List.length_append, List.length_singleton, Nat.add_sub_cancel]
  induction l with
  | nil => rfl
  | cons c l ih => rw [List.cons_append, List.length_cons, List.modify_succ_cons, ih, List.cons_append]

end Folds

section Times

variable {letters rest : Str} {sdp : SdpMessage} {done : List TimeDescr} {t : TimeDescr}

theorem Progress.bind_assoc (progress : Progress) (f g : SdpMessage → Str → Progress) :
    (progress.bind f).bind g = progress.bind fun sdp ptr => (f sdp ptr).bind g := by
  cases progress <;> rfl

def SdpMessage.withTimes (sdp : SdpMessage) (ts : List TimeDescr) : SdpMessage :=
  { sdp with tDescrs := ts }

def TimeDescr.addRepeats (t : TimeDescr) (repeats : List Str) : TimeDescr :=
  { t with rRepeats := t.rRepeats ++ repeats }

theorem foldl_addRepeat (l : List Str) :
    l.foldl SdpMessage.addRepeat (sdp.withTimes (done ++ [t])) =
      sdp.withTimes (done ++ [t.addRepeats l]) := by
  induction l using List.reverseRecOn with
  | nil => rw [List.foldl_nil, TimeDescr.addRepeats, List.append_nil]
  | append_singleton l r ih =>
      rw [List.foldl_append, ih, List.foldl_cons, List.foldl_nil, SdpMessage.addRepeat]
      simp only [SdpMessage.withTimes, modify_last, TimeDescr.addRepeats, List.append_assoc]

theorem parseT_appendLine {start stop : Str} (hstart : IsToken ' ' start) (hstop : IsText stop) :
    sdpMessageParseT sdp (appendLine 't' (start ++ ' ' :: stop) ++ rest) =
      .wf (sdp.addTimeDescr { tStartTime := some start, tStopTime := some stop }) rest :=
  parseHeader_reads (by decide) (.append_cons hstart.1.2 rfl hstop.2)
    (timeDescrValue_printed hstart hstop) rest

theorem parseT_discard (hrest : Leads letters rest) (ht : 't' ∉ letters) :
    sdpMessageParseT sdp rest = .discard := by
  obtain ⟨c, back, rfl, hmem, hequal, -⟩ := hrest
  exact parseHeader_discard (fun heq : c = 't' => ht (heq ▸ hmem)) hequal back _

def timeRound (fuel : Nat) (sdp : SdpMessage) (ptr : Str) : Progress :=
  match sdpMessageParseT sdp ptr with
  | .error => .failed
  | .discard => Progress.stopAtEnd (.more sdp ptr)
  | .wf sdp next => (Progress.stopAtEnd (.more sdp next)).bind (timeLoop fuel)

theorem bind_timeLoop (progress : Progress) (fuel : Nat) :
    progress.bind (timeLoop (fuel + 1)) =
      (progress.bind (repeatedLines sdpMessageParseR .stopAtEnd)).bind (timeRound fuel) := by
  rw [Progress.bind_assoc]
  rfl

theorem timeRound_discard {fuel : Nat} (hrest : Follows letters rest) (ht : 't' ∉ letters) :
    (proceed sdp rest).bind (timeRound fuel) = proceed sdp rest := by
  rcases hrest with rfl | hleads
  · rfl
  · rw [proceed_leads hleads]
    dsimp only [Progress.bind]
    rw [timeRound, parseT_discard hleads ht]
    exact proceed_leads hleads

theorem timeDescr_texts {ts : List TimeDescr} (ht : t.Wf) {texts : Str}
    (htexts : appendAll sdpAppendTimeDescr (t :: ts) = some texts) :
    ∃ start stop ts', IsToken ' ' start ∧ IsText stop ∧ (∀ r ∈ t.rRepeats, IsText r) ∧
      appendAll sdpAppendTimeDescr ts = some ts' ∧
      texts = appendLine 't' (start ++ ' ' :: stop) ++
        (t.rRepeats.flatMap (appendLine 'r') ++ ts') ∧
      t = { tStartTime := some start, tStopTime := some stop, rRepeats := t.rRepeats } := by
  obtain ⟨text, ts', htext, hts', rfl⟩ := appendAll_cons htexts
  cases ht with
  | @mk start stop repeats hstart hstop hrepeats =>
      cases htext
      exact ⟨start, stop, ts', hstart, hstop, hrepeats, hts', by simp, rfl⟩

theorem timeRound_line {start stop : Str} (hstart : IsToken ' ' start) (hstop : IsText stop)
    (fuel : Nat) :
    (proceed (sdp.withTimes done) (appendLine 't' (start ++ ' ' :: stop) ++ rest)).bind
        (timeRound fuel) =
      (proceed (sdp.withTimes (done ++ [{ tStartTime := some start, tStopTime := some stop }]))
        rest).bind (timeLoop fuel) := by
  rw [proceed_leads (appendLine_leads (by decide) _)]
  dsimp only [Progress.bind]
  rw [timeRound, parseT_appendLine hstart hstop]
  rfl

theorem repeats_proceed {repeats : List Str} (hrepeats : ∀ r ∈ repeats, IsText r)
    (hrest : Follows letters rest) (hr : 'r' ∉ letters) :
    (proceed (sdp.withTimes (done ++ [t])) (repeats.flatMap (appendLine 'r') ++ rest)).bind
        (repeatedLines sdpMessageParseR .stopAtEnd) =
      proceed (sdp.withTimes (done ++ [t.addRepeats repeats])) rest := by
  rw [← foldl_addRepeat]
  refine repeatKind_reads.repeated_proceed hrepeats (appendAll_lines 'r' repeats) hrest hr ?_
  exact List.append_ne_nil_of_right_ne_nil _ (List.cons_ne_nil _ _)

theorem times_follow {ts : List TimeDescr} (hts : ∀ t ∈ ts, t.Wf) {texts : Str}
    (htexts : appendAll sdpAppendTimeDescr ts = some texts) (hrest : Follows letters rest) :
    Follows ('t' :: letters) (texts ++ rest) := by
  cases ts with
  | nil =>
      cases htexts
      exact hrest.imp id fun hleads => hleads.weaken (List.subset_cons_self _ _)
  | cons t ts =>
      obtain ⟨start, stop, ts', -, -, -, -, rfl, -⟩ :=
        timeDescr_texts (hts t List.mem_cons_self) htexts
      refine .inr ?_
      rw [List.append_assoc]
      refine (appendLine_leads (by decide) _).weaken ?_
      intro c hc
      rw [List.mem_singleton.1 hc]
      exact List.mem_cons_self

/-- What the loop over the time descriptions does once a first one is read without its
repeats. -/
theorem timeLoop_proceed {ts : List TimeDescr} (hts : ∀ t ∈ ts, t.Wf) {repeats : List Str}
    (hrepeats : ∀ r ∈ repeats, IsText r) {texts : Str}
    (htexts : appendAll sdpAppendTimeDescr ts = some texts) (hrest : Follows letters rest)
    (ht : 't' ∉ letters) (hr : 'r' ∉ letters) {fuel : Nat} (hfuel : ts.length < fuel) :
    (proceed (sdp.withTimes (done ++ [t]))
      (repeats.flatMap (appendLine 'r') ++ (texts ++ rest))).bind (timeLoop fuel) =
    proceed (sdp.withTimes (done ++ t.addRepeats repeats :: ts)) rest := by
  have hr' : 'r' ∉ 't' :: letters := by
    rw [List.mem_cons, not_or]
    exact ⟨by decide, hr⟩
  induction ts generalizing done t repeats texts fuel with
  | nil =>
      cases htexts
      obtain ⟨fuel, rfl⟩ := Nat.exists_eq_add_one_of_ne_zero (Nat.ne_of_gt hfuel)
      rw [List.nil_append, bind_timeLoop, repeats_proceed hrepeats hrest hr,
        timeRound_discard hrest ht]
  | cons t' ts ih =>
      cases fuel with
      | zero => exact absurd hfuel (Nat.not_lt_zero _)
      | succ fuel =>
          rw [bind_timeLoop, repeats_proceed hrepeats (times_follow hts htexts hrest) hr']
          rw [List.forall_mem_cons] at hts
          obtain ⟨start, stop, ts', hstart, hstop, hrepeats', hts', rfl, heq⟩ :=
            timeDescr_texts hts.1 htexts
          have hline : (TimeDescr.addRepeats
              { tStartTime := some start, tStopTime := some stop } t'.rRepeats) = t' := heq.symm
          rw [List.append_assoc, timeRound_line hstart hstop,
            List.append_assoc (t'.rRepeats.flatMap (appendLine 'r')),
            ih hts.2 hrepeats' hts' (Nat.lt_of_succ_lt_succ hfuel), hline, List.append_assoc]
          rfl

theorem optionalT_discard (hrest : Follows letters rest) (ht : 't' ∉ letters) :
    (proceed sdp rest).bind (fun sdp ptr => (optional sdpMessageParseT sdp ptr).stopAtEnd) =
      proceed sdp rest := by
  rcases hrest with rfl | hleads
  · rfl
  · rw [proceed_leads hleads]
    dsimp only [Progress.bind]
    rw [optional, parseT_discard hleads ht]
    exact proceed_leads hleads

theorem optionalT_line {start stop : Str} (hstart : IsToken ' ' start) (hstop : IsText stop) :
    (proceed (sdp.withTimes done) (appendLine 't' (start ++ ' ' :: stop) ++ rest)).bind
        (fun sdp ptr => (optional sdpMessageParseT sdp ptr).stopAtEnd) =
      proceed (sdp.withTimes (done ++ [{ tStartTime := some start, tStopTime := some stop }]))
        rest := by
  rw [proceed_leads (appendLine_leads (by decide) _)]
  dsimp only [Progress.bind]
  rw [optional, parseT_appendLine hstart hstop]
  rfl

theorem proceed_bind_length (loop : Nat → SdpMessage → Str → Progress) (text : Str) :
    (proceed sdp text).bind (fun sdp ptr => loop (ptr.length + 1) sdp ptr) =
      (proceed sdp text).bind (loop (text.length + 1)) := by
  cases text with
  | nil => rfl
  | cons c text =>
      by_cases hend : isLineEnd c = true
      · simp [proceed, Progress.stopAtEnd, Progress.bind, hend]
      · simp [proceed, Progress.stopAtEnd, Progress.bind, hend]

theorem times_length_le {ts : List TimeDescr} (hts : ∀ t ∈ ts, t.Wf) {texts : Str}
    (htexts : appendAll sdpAppendTimeDescr ts = some texts) : ts.length ≤ texts.length := by
  induction ts generalizing texts with
  | nil => exact Nat.zero_le _
  | cons t ts ih =>
      rw [List.forall_mem_cons] at hts
      obtain ⟨start, stop, ts', -, -, -, hts', rfl, -⟩ := timeDescr_texts hts.1 htexts
      have := ih hts.2 hts'
      rw [List.length_append, List.length_append, List.length_cons, appendLine, List.length_cons]
      omega

theorem times_texts {ts : List TimeDescr} (hts : ∀ t ∈ ts, t.Wf) :
    ∃ texts, appendAll sdpAppendTimeDescr ts = some texts := by
  induction ts with
  | nil => exact ⟨[], rfl⟩
  | cons t ts ih =>
      rw [List.forall_mem_cons] at hts
      obtain ⟨texts, htexts⟩ := ih hts.2
      rw [appendAll, htexts]
      cases hts.1 with
      | mk => exact ⟨_, rfl⟩

theorem times_proceed {ts : List TimeDescr} (hts : ∀ t ∈ ts, t.Wf) {repeats : List Str}
    (hrepeats : ∀ r ∈ repeats, IsText r) {texts : Str}
    (htexts : appendAll sdpAppendTimeDescr ts = some texts) (hrest : Follows letters rest)
    (ht : 't' ∉ letters) (hr : 'r' ∉ letters) :
    (((proceed (sdp.withTimes [t])
      (repeats.flatMap (appendLine 'r') ++ (texts ++ rest))).bind
        (repeatedLines sdpMessageParseR .stopAtEnd)).bind
        (fun sdp ptr => (optional sdpMessageParseT sdp ptr).stopAtEnd)).bind
        (fun sdp ptr => timeLoop (ptr.length + 1) sdp ptr) =
    proceed (sdp.withTimes (t.addRepeats repeats :: ts)) rest := by
  have hr' : 'r' ∉ 't' :: letters := by
    rw [List.mem_cons, not_or]
    exact ⟨by decide, hr⟩
  rw [← List.nil_append [t], repeats_proceed hrepeats (times_follow hts htexts hrest) hr',
    List.nil_append]
  cases ts with
  | nil =>
      cases htexts
      have hnone : ∀ r ∈ ([] : List Str), IsText r := nofun
      have hadd : (t.addRepeats repeats).addRepeats [] = t.addRepeats repeats := by
        rw [TimeDescr.addRepeats, TimeDescr.addRepeats, List.append_nil]
      have hloop : (proceed (sdp.withTimes ([] ++ [t.addRepeats repeats])) rest).bind
          (timeLoop (rest.length + 1)) =
            proceed (sdp.withTimes ([] ++ (t.addRepeats repeats).addRepeats [] :: [])) rest :=
        timeLoop_proceed hts hnone rfl hrest ht hr (Nat.succ_pos _)
      rw [hadd, List.nil_append] at hloop
      rw [List.nil_append, optionalT_discard hrest ht, proceed_bind_length, hloop]
  | cons t' ts =>
      rw [List.forall_mem_cons] at hts
      obtain ⟨start, stop, ts', hstart, hstop, hrepeats', hts', rfl, heq⟩ :=
        timeDescr_texts hts.1 htexts
      have hline : (TimeDescr.addRepeats
          { tStartTime := some start, tStopTime := some stop } t'.rRepeats) = t' := heq.symm
      have hlength := times_length_le hts.2 hts'
      rw [List.append_assoc, optionalT_line hstart hstop, proceed_bind_length,
        List.append_assoc (t'.rRepeats.flatMap (appendLine 'r')),
        timeLoop_proceed hts.2 hrepeats' hts' hrest ht hr
          (by simp only [List.length_append]; omega), hline]
      rfl

end Times

section Medias

variable {letters rest : Str} {sdp : SdpMessage} {done : List Media} {media : Media}

def SdpMessage.withMedias (sdp : SdpMessage) (medias : List Media) : SdpMessage :=
  { sdp with mMedias := medias }

def Media.head (media : Media) : Media :=
  { mMedia := media.mMedia, mPort := media.mPort, mNumberOfPort := media.mNumberOfPort,
    mProto := media.mProto, mPayloads := media.mPayloads }

theorem atPlace_media (session : SdpMessage → SdpMessage) (change : Media → Media) :
    (sdp.withMedias (done ++ [media])).atPlace session change =
      sdp.withMedias (done ++ [change media]) := by
  rw [SdpMessage.atPlace, if_neg (by simp [SdpMessage.withMedias])]
  simp only [SdpMessage.withMedias, modify_last]

theorem foldl_atPlace {α : Type} (session : SdpMessage → α → SdpMessage)
    (change : Media → List α → Media) (hnil : ∀ m, change m [] = m)
    (hcons : ∀ m a l, change (change m [a]) l = change m (a :: l)) (l : List α) :
    l.foldl (fun sdp a => sdp.atPlace (session · a) (change · [a]))
      (sdp.withMedias (done ++ [media])) = sdp.withMedias (done ++ [change media l]) := by
  induction l generalizing media with
  | nil => rw [List.foldl_nil, hnil]
  | cons a l ih => rw [List.foldl_cons, atPlace_media, ih, hcons]

theorem media_setInfo (h : media.iInfo = none) (o : Option Str) :
    o.toList.foldl SdpMessage.setInfo (sdp.withMedias (done ++ [media])) =
      sdp.withMedias (done ++ [{ media with iInfo := o }]) := by
  cases o with
  | none =>
      have hkeep : { media with iInfo := none } = media := by
        cases media
        cases h
        rfl
      rw [hkeep]
      rfl
  | some i =>
      exact atPlace_media (fun sdp => { sdp with iInfo := some i })
        (fun media => { media with iInfo := some i })

theorem media_setKey (h : media.kKey = none) (o : Option Key) :
    o.toList.foldl SdpMessage.setKey (sdp.withMedias (done ++ [media])) =
      sdp.withMedias (done ++ [{ media with kKey := o }]) := by
  cases o with
  | none =>
      have hkeep : { media with kKey := none } = media := by
        cases media
        cases h
        rfl
      rw [hkeep]
      rfl
  | some k =>
      exact atPlace_media (fun sdp => { sdp with kKey := some k })
        (fun media => { media with kKey := some k })

theorem media_addConnection (l : List Connection) :
    l.foldl SdpMessage.addConnection (sdp.withMedias (done ++ [media])) =
      sdp.withMedias (done ++ [{ media with cConnections := media.cConnections ++ l }]) :=
  foldl_atPlace (fun sdp c => { sdp with cConnection := some c })
    (fun media l => { media with cConnections := media.cConnections ++ l }) (by simp) (by simp) l

theorem media_addBandwidth (l : List Bandwidth) :
    l.foldl SdpMessage.addBandwidth (sdp.withMedias (done ++ [media])) =
      sdp.withMedias (done ++ [{ media with bBandwidths := media.bBandwidths ++ l }]) :=
  foldl_atPlace (fun sdp b => { sdp with bBandwidths := sdp.bBandwidths ++ [b] })
    (fun media l => { media with bBandwidths := media.bBandwidths ++ l }) (by simp) (by simp) l

theorem media_addAttribute (l : List Attribute) :
    l.foldl SdpMessage.addAttribute (sdp.withMedias (done ++ [media])) =
      sdp.withMedias (done ++ [{ media with aAttributes := media.aAttributes ++ l }]) :=
  foldl_atPlace (fun sdp a => { sdp with aAttributes := sdp.aAttributes ++ [a] })
    (fun media l => { media with aAttributes := media.aAttributes ++ l }) (by simp) (by simp) l

theorem bind_mediaLines (progress : Progress) :
    progress.bind mediaLines =
      ((((progress.bind fun sdp ptr => (optional sdpMessageParseI sdp ptr).stopAtEnd).bind
        (repeatedLines sdpMessageParseC .stopAtEnd)).bind
        (repeatedLines sdpMessageParseB .stopAtEnd)).bind
        (fun sdp ptr => (optional sdpMessageParseK sdp ptr).stopAtEnd)).bind
        (repeatedLines sdpMessageParseA .stopAtEnd) := by
  cases progress <;> rfl

theorem mediaLines_proceed (h : media.Wf) {connections bandwidths key attributes : Str}
    (hc : appendAll sdpAppendConnection media.cConnections = some connections)
    (hb : appendAll sdpAppendBandwidth media.bBandwidths = some bandwidths)
    (hk : appendAll sdpAppendKey media.kKey.toList = some key)
    (ha : appendAll sdpAppendAttribute media.aAttributes = some attributes)
    (hrest : Follows ['m'] rest) :
    (proceed (sdp.withMedias (done ++ [media.head]))
      (media.iInfo.toList.flatMap (appendLine 'i') ++
        (connections ++ (bandwidths ++ (key ++ (attributes ++ rest)))))).bind mediaLines =
      proceed (sdp.withMedias (done ++ [media])) rest := by
  have fa : Follows ['a', 'm'] (attributes ++ rest) :=
    attributeKind_reads.follows h.attributes ha hrest
  have hkey : ∀ k ∈ media.kKey.toList, k.Wf := fun k hmem => h.key k (Option.mem_toList.1 hmem)
  have fk : Follows ['k', 'a', 'm'] (key ++ (attributes ++ rest)) :=
    keyKind_reads.follows hkey hk fa
  have fb : Follows ['b', 'k', 'a', 'm'] (bandwidths ++ (key ++ (attributes ++ rest))) :=
    bandwidthKind_reads.follows h.bandwidths hb fk
  have fc : Follows ['c', 'b', 'k', 'a', 'm']
      (connections ++ (bandwidths ++ (key ++ (attributes ++ rest)))) :=
    connectionKind_reads.follows h.connections hc fb
  rw [bind_mediaLines,
    infoKind_reads.optional_proceed h.info (appendAll_lines 'i' _) fc (by decide) trivial,
    connectionKind_reads.repeated_proceed h.connections hc fb (by decide) trivial,
    bandwidthKind_reads.repeated_proceed h.bandwidths hb fk (by decide) trivial,
    keyKind_reads.optional_proceed h.key hk fa (by decide) trivial,
    attributeKind_reads.repeated_proceed h.attributes ha hrest (by decide) trivial,
    media_setInfo rfl, media_addConnection, media_addBandwidth, media_setKey rfl,
    media_addAttribute]
  rfl

theorem media_text (h : media.Wf) :
    ∃ t connections bandwidths key attributes, IsText t ∧
      appendAll sdpAppendConnection media.cConnections = some connections ∧
      appendAll sdpAppendBandwidth media.bBandwidths = some bandwidths ∧
      appendAll sdpAppendKey media.kKey.toList = some key ∧
      appendAll sdpAppendAttribute media.aAttributes = some attributes ∧
      sdpAppendMedia media = some (appendLine 'm' t ++
        (media.iInfo.toList.flatMap (appendLine 'i') ++
          (connections ++ (bandwidths ++ (key ++ attributes))))) ∧
      ∀ rest, mediaValue (t ++ (crlfStr ++ rest)) (crlfStr ++ rest) = some media.head := by
  obtain ⟨name, hname, htoken⟩ := h.name
  obtain ⟨port, hport, hportWf⟩ := h.port
  obtain ⟨proto, hproto, hprotoWf⟩ := h.proto
  obtain ⟨connections, hc⟩ := connectionKind_reads.exists_texts h.connections
  obtain ⟨bandwidths, hb⟩ := bandwidthKind_reads.exists_texts h.bandwidths
  obtain ⟨key, hk⟩ := keyKind_reads.exists_texts fun k hmem => h.key k (Option.mem_toList.1 hmem)
  obtain ⟨attributes, ha⟩ := attributeKind_reads.exists_texts h.attributes
  have hinfo : media.iInfo.elim [] (appendLine 'i') =
      media.iInfo.toList.flatMap (appendLine 'i') := by
    cases media.iInfo <;> simp
  refine ⟨mediaText name port media.mNumberOfPort proto media.mPayloads, connections, bandwidths,
    key, attributes, mediaText_isText htoken hportWf hprotoWf h.payloads, hc, hb, hk, ha, ?_, ?_⟩
  · rw [Option.mem_def] at hname hport hproto
    simp only [sdpAppendMedia, hname, hport, hproto, hc, hb, hk, ha, Option.bind_eq_bind,
      Option.bind_some, hinfo, mediaText, List.append_assoc]
  · intro rest
    rw [mediaValue_printed htoken hportWf hprotoWf h.payloads, Media.head, hname, hport, hproto]

theorem parseM_appendLine {t : Str} (ht : IsText t)
    (hvalue : ∀ rest, mediaValue (t ++ (crlfStr ++ rest)) (crlfStr ++ rest) = some media) :
    sdpMessageParseM sdp (appendLine 'm' t ++ rest) = .wf (sdp.addMedia media) rest :=
  parseHeader_reads (by decide) ht hvalue rest

theorem medias_follow {medias : List Media} (h : ∀ media ∈ medias, media.Wf) {texts : Str}
    (htexts : appendAll sdpAppendMedia medias = some texts) : Follows ['m'] texts := by
  cases medias with
  | nil =>
      cases htexts
      exact .inl rfl
  | cons media medias =>
      obtain ⟨text, texts', htext, -, rfl⟩ := appendAll_cons htexts
      obtain ⟨t, _, _, _, _, -, -, -, -, -, happend, -⟩ := media_text (h media List.mem_cons_self)
      rw [happend] at htext
      cases htext
      rw [List.append_assoc]
      exact .inr (appendLine_leads (by decide) t)

theorem mediaLoop_proceed {medias : List Media} (h : ∀ media ∈ medias, media.Wf) {texts : Str}
    (htexts : appendAll sdpAppendMedia medias = some texts) {fuel : Nat}
    (hfuel : medias.length < fuel) :
    (proceed (sdp.withMedias done) texts).bind (mediaLoop fuel) =
      .finished (sdp.withMedias (done ++ medias)) := by
  induction medias generalizing done texts fuel with
  | nil =>
      cases htexts
      rw [proceed_nil, List.append_nil]
      rfl
  | cons media medias ih =>
      cases fuel with
      | zero => exact absurd hfuel (Nat.not_lt_zero _)
      | succ fuel =>
          rw [List.forall_mem_cons] at h
          obtain ⟨text, texts', htext, htexts', rfl⟩ := appendAll_cons htexts
          obtain ⟨t, connections, bandwidths, key, attributes, ht, hc, hb, hk, ha, happend,
            hvalue⟩ := media_text h.1
          rw [happend] at htext
          cases htext
          rw [List.append_assoc, proceed_leads (appendLine_leads (by decide) t)]
          dsimp only [Progress.bind]
          rw [mediaLoop, parseM_appendLine ht hvalue]
          simp only [List.append_assoc]
          show ((proceed (sdp.withMedias (done ++ [media.head])) _).bind mediaLines).bind
            (mediaLoop fuel) = _
          rw [mediaLines_proceed h.1 hc hb hk ha (medias_follow h.2 htexts'),
            ih h.2 htexts' (Nat.lt_of_succ_lt_succ hfuel), List.append_assoc]
          rfl

theorem medias_length_le {medias : List Media} (h : ∀ media ∈ medias, media.Wf) {texts : Str}
    (htexts : appendAll sdpAppendMedia medias = some texts) : medias.length ≤ texts.length := by
  induction medias generalizing texts with
  | nil => exact Nat.zero_le _
  | cons media medias ih =>
      rw [List.forall_mem_cons] at h
      obtain ⟨text, texts', htext, htexts', rfl⟩ := appendAll_cons htexts
      obtain ⟨t, _, _, _, _, -, -, -, -, -, happend, -⟩ := media_text h.1
      rw [happend] at htext
      cases htext
      have := ih h.2 htexts'
      rw [List.length_append, List.length_append, List.length_cons, appendLine, List.length_cons]
      omega

theorem medias_texts {medias : List Media} (h : ∀ media ∈ medias, media.Wf) :
    ∃ texts, appendAll sdpAppendMedia medias = some texts := by
  induction medias with
  | nil => exact ⟨[], rfl⟩
  | cons media medias ih =>
      rw [List.forall_mem_cons] at h
      obtain ⟨texts, htexts⟩ := ih h.2
      obtain ⟨t, _, _, _, _, -, -, -, -, -, happend, -⟩ := media_text h.1
      rw [appendAll, happend, htexts]
      exact ⟨_, rfl⟩

theorem medias_proceed {medias : List Media} (h : ∀ media ∈ medias, media.Wf) {texts : Str}
    (htexts : appendAll sdpAppendMedia medias = some texts) :
    (proceed (sdp.withMedias []) texts).bind (fun sdp ptr => mediaLoop (ptr.length + 1) sdp ptr) =
      .finished (sdp.withMedias medias) := by
  have hlength := medias_length_le h htexts
  rw [proceed_bind_length, mediaLoop_proceed h htexts (by omega), List.nil_append]

end Medias

section Session

variable {letters rest : Str} {sdp : SdpMessage}

theorem foldl_setName (h : sdp.sName = none) (o : Option Str) :
    o.toList.foldl SdpMessage.setName sdp = { sdp with sName := o } :=
  foldl_option (fun o => { sdp with sName := o }) (by rw [← h]) (fun _ => rfl) o

theorem foldl_setUri (h : sdp.uUri = none) (o : Option Str) :
    o.toList.foldl SdpMessage.setUri sdp = { sdp with uUri := o } :=
  foldl_option (fun o => { sdp with uUri := o }) (by rw [← h]) (fun _ => rfl) o

theorem foldl_setAdjustments (h : sdp.zAdjustments = none) (o : Option Str) :
    o.toList.foldl SdpMessage.setAdjustments sdp = { sdp with zAdjustments := o } :=
  foldl_option (fun o => { sdp with zAdjustments := o }) (by rw [← h]) (fun _ => rfl) o

theorem foldl_addEmail (h : sdp.eEmails = []) (l : List Str) :
    l.foldl SdpMessage.addEmail sdp = { sdp with eEmails := l } :=
  foldl_list (fun l => { sdp with eEmails := l }) (by rw [← h]) (fun _ _ => rfl) l

theorem foldl_addPhone (h : sdp.pPhones = []) (l : List Str) :
    l.foldl SdpMessage.addPhone sdp = { sdp with pPhones := l } :=
  foldl_list (fun l => { sdp with pPhones := l }) (by rw [← h]) (fun _ _ => rfl) l

theorem atPlace_session (h : sdp.mMedias = []) (session : SdpMessage → SdpMessage)
    (media : Media → Media) : sdp.atPlace session media = session sdp := by
  rw [SdpMessage.atPlace, if_pos (List.length_eq_zero_iff.2 h)]

theorem foldl_setInfo (hm : sdp.mMedias = []) (h : sdp.iInfo = none) (o : Option Str) :
    o.toList.foldl SdpMessage.setInfo sdp = { sdp with iInfo := o } :=
  foldl_option (fun o => { sdp with iInfo := o }) (by rw [← h]) (fun _ => atPlace_session hm _ _) o

theorem foldl_setKey (hm : sdp.mMedias = []) (h : sdp.kKey = none) (o : Option Key) :
    o.toList.foldl SdpMessage.setKey sdp = { sdp with kKey := o } :=
  foldl_option (fun o => { sdp with kKey := o }) (by rw [← h]) (fun _ => atPlace_session hm _ _) o

theorem foldl_addConnection (hm : sdp.mMedias = []) (h : sdp.cConnection = none)
    (o : Option Connection) :
    o.toList.foldl SdpMessage.addConnection sdp = { sdp with cConnection := o } :=
  foldl_option (fun o => { sdp with cConnection := o }) (by rw [← h]) (fun _ => atPlace_session hm _ _) o

theorem foldl_addBandwidth (hm : sdp.mMedias = []) (h : sdp.bBandwidths = [])
    (l : List Bandwidth) :
    l.foldl SdpMessage.addBandwidth sdp = { sdp with bBandwidths := l } :=
  foldl_list (fun l => { sdp with bBandwidths := l }) (by rw [← h])
    (fun l _ => atPlace_session (show ({ sdp with bBandwidths := l }).mMedias = [] from hm) _ _) l

theorem foldl_addAttribute (hm : sdp.mMedias = []) (h : sdp.aAttributes = [])
    (l : List Attribute) :
    l.foldl SdpMessage.addAttribute sdp = { sdp with aAttributes := l } :=
  foldl_list (fun l => { sdp with aAttributes := l }) (by rw [← h])
    (fun l _ => atPlace_session (show ({ sdp with aAttributes := l }).mMedias = [] from hm) _ _) l

theorem optionalLines_eq (letter : Char) (o : Option Str) :
    o.elim [] (appendLine letter) = o.toList.flatMap (appendLine letter) := by
  cases o <;> simp

theorem parseO_appendLine {username sessId sessVersion nettype addrtype addr : Str}
    (husername : IsToken ' ' username) (hsessId : IsToken ' ' sessId)
    (hsessVersion : IsToken ' ' sessVersion) (hnettype : IsToken ' ' nettype)
    (haddrtype : IsToken ' ' addrtype) (haddr : IsText addr) :
    sdpMessageParseO sdp (appendLine 'o' (username ++ ' ' :: sessId ++ ' ' :: sessVersion ++
      ' ' :: nettype ++ ' ' :: addrtype ++ ' ' :: addr) ++ rest) =
    .wf { sdp with
      oUsername := some username, oSessId := some sessId, oSessVersion := some sessVersion,
      oNettype := some nettype, oAddrtype := some addrtype, oAddr := some addr } rest := by
  have htext : IsText (username ++ ' ' :: sessId ++ ' ' :: sessVersion ++ ' ' :: nettype ++
      ' ' :: addrtype ++ ' ' :: addr) := by
    simp only [List.append_assoc, List.cons_append]
    exact .append_cons husername.1.2 rfl (IsText.append_cons hsessId.1.2 rfl
      (IsText.append_cons hsessVersion.1.2 rfl (IsText.append_cons hnettype.1.2 rfl
        (IsText.append_cons haddrtype.1.2 rfl haddr.2).2).2).2).2
  rw [sdpMessageParseO, parseHeader_appendLine (by decide) htext]
  simp only [List.append_assoc, List.cons_append, osipSetNextToken_append husername.1 husername.2,
    osipSetNextToken_append hsessId.1 hsessId.2,
    osipSetNextToken_append hsessVersion.1 hsessVersion.2,
    osipSetNextToken_append hnettype.1 hnettype.2,
    osipSetNextToken_append haddrtype.1 haddrtype.2, Option.bind_eq_bind, Option.bind_some,
    lastToken_crlf haddr]

def SdpMessage.session (sdp : SdpMessage) : SdpMessage :=
  { sdp with
    tDescrs := [], zAdjustments := none, kKey := none, aAttributes := [], mMedias := [] }

theorem parseV_appendLine {v : Str} (hv : IsText v) :
    sdpMessageParseV sdp (appendLine 'v' v ++ rest) = .wf (sdp.setVersion v) rest :=
  parseHeader_reads (by decide) hv (fun _ => textValue_line) rest

theorem Progress.more_bind (next : SdpMessage → Str → Progress) :
    (Progress.more sdp rest).bind next = next sdp rest := rfl

theorem sessionLines_proceed (h : sdp.Wf)
    {version username sessId sessVersion nettype addrtype addr : Str}
    (hversion : sdp.vVersion = some version) (husername : sdp.oUsername = some username)
    (hsessId : sdp.oSessId = some sessId) (hsessVersion : sdp.oSessVersion = some sessVersion)
    (hnettype : sdp.oNettype = some nettype) (haddrtype : sdp.oAddrtype = some addrtype)
    (haddr : sdp.oAddr = some addr) {connection bandwidths : Str}
    (hc : appendAll sdpAppendConnection sdp.cConnection.toList = some connection)
    (hb : appendAll sdpAppendBandwidth sdp.bBandwidths = some bandwidths)
    {start stop : Str} (hstart : IsToken ' ' start) (hstop : IsText stop) :
    sessionLines sdpMessageInit (appendLine 'v' version ++
      (appendLine 'o' (username ++ ' ' :: sessId ++ ' ' :: sessVersion ++ ' ' :: nettype ++
        ' ' :: addrtype ++ ' ' :: addr) ++
      (sdp.sName.toList.flatMap (appendLine 's') ++ (sdp.iInfo.toList.flatMap (appendLine 'i') ++
      (sdp.uUri.toList.flatMap (appendLine 'u') ++ (sdp.eEmails.flatMap (appendLine 'e') ++
      (sdp.pPhones.flatMap (appendLine 'p') ++ (connection ++ (bandwidths ++
      (appendLine 't' (start ++ ' ' :: stop) ++ rest)))))))))) =
    proceed (sdp.session.withTimes [{ tStartTime := some start, tStopTime := some stop }])
      rest := by
  have lt : Leads ['t'] (appendLine 't' (start ++ ' ' :: stop) ++ rest) :=
    appendLine_leads (by decide) _
  have lb := bandwidthKind_reads.leads h.bandwidths hb lt
  have lc := connectionKind_reads.leads
    (fun c hmem => h.connection c (Option.mem_toList.1 hmem)) hc lb
  have lp := phoneKind_reads.leads h.phones (appendAll_lines 'p' _) lc
  have le := emailKind_reads.leads h.emails (appendAll_lines 'e' _) lp
  have lu := uriKind_reads.leads (fun t hmem => h.uri t (Option.mem_toList.1 hmem))
    (appendAll_lines 'u' _) le
  have li := infoKind_reads.leads (fun t hmem => h.info t (Option.mem_toList.1 hmem))
    (appendAll_lines 'i' _) lu
  have lo (back : Str) : Leads ['o'] (appendLine 'o' (username ++ ' ' :: sessId ++
      ' ' :: sessVersion ++ ' ' :: nettype ++ ' ' :: addrtype ++ ' ' :: addr) ++ back) :=
    appendLine_leads (by decide) _
  rw [sessionLines, mandatory, parseV_appendLine (h.version version hversion)]
  dsimp only [SdpMessage.setVersion, sdpMessageInit]
  rw [Progress.more_bind, nameKind_reads.optional_discard (lo _) (by decide)]
  rw [Progress.more_bind, mandatory, parseO_appendLine (h.username _ husername)
    (h.sessId _ hsessId) (h.sessVersion _ hsessVersion) (h.nettype _ hnettype)
    (h.addrtype _ haddrtype) (h.addr _ haddr)]
  dsimp only
  rw [Progress.more_bind, nameKind_reads.optional_more h.name (appendAll_lines 's' _) li
    (by decide) trivial, foldl_setName rfl]
  dsimp only
  rw [Progress.more_bind, infoKind_reads.optional_more h.info (appendAll_lines 'i' _) lu
    (by decide) trivial, foldl_setInfo rfl rfl]
  dsimp only
  rw [Progress.more_bind, uriKind_reads.optional_more h.uri (appendAll_lines 'u' _) le
    (by decide) trivial, foldl_setUri rfl]
  dsimp only
  rw [Progress.more_bind, emailKind_reads.repeated_more h.emails (appendAll_lines 'e' _) lp
    (by decide) trivial, foldl_addEmail rfl]
  dsimp only
  rw [Progress.more_bind, phoneKind_reads.repeated_more h.phones (appendAll_lines 'p' _) lc
    (by decide) trivial, foldl_addPhone rfl]
  dsimp only
  rw [Progress.more_bind, connectionKind_reads.optional_more h.connection hc lb (by decide)
    trivial, foldl_addConnection rfl rfl]
  dsimp only
  rw [Progress.more_bind, bandwidthKind_reads.repeated_more h.bandwidths hb lt (by decide)
    trivial, foldl_addBandwidth rfl rfl]
  dsimp only
  rw [Progress.more_bind, mandatory, parseT_appendLine hstart hstop]
  rw [SdpMessage.session, hversion, husername, hsessId, hsessVersion, hnettype, haddrtype, haddr]
  rfl

theorem bind_furtherLines (progress : Progress) :
    progress.bind furtherLines =
      (((((((progress.bind (repeatedLines sdpMessageParseR .stopAtEnd)).bind
        (fun sdp ptr => (optional sdpMessageParseT sdp ptr).stopAtEnd)).bind
        (fun sdp ptr => timeLoop (ptr.length + 1) sdp ptr)).bind
        (fun sdp ptr => (optional sdpMessageParseZ sdp ptr).stopAtEnd)).bind
        (fun sdp ptr => (optional sdpMessageParseK sdp ptr).stopAtEnd)).bind
        (repeatedLines sdpMessageParseA .stopAtEnd)).bind
        (fun sdp ptr => mediaLoop (ptr.length + 1) sdp ptr)) := by
  cases progress <;> rfl

theorem furtherLines_proceed (h : sdp.Wf) {t : TimeDescr} {ts : List TimeDescr}
    (hts : sdp.tDescrs = t :: ts) {times key attributes medias : Str}
    (ht : appendAll sdpAppendTimeDescr ts = some times)
    (hk : appendAll sdpAppendKey sdp.kKey.toList = some key)
    (ha : appendAll sdpAppendAttribute sdp.aAttributes = some attributes)
    (hm : appendAll sdpAppendMedia sdp.mMedias = some medias) :
    (proceed (sdp.session.withTimes [{ t with rRepeats := [] }])
      (t.rRepeats.flatMap (appendLine 'r') ++ (times ++
      (sdp.zAdjustments.toList.flatMap (appendLine 'z') ++
      (key ++ (attributes ++ medias)))))).bind furtherLines = .finished sdp := by
  have fm : Follows ['m'] medias := medias_follow h.medias hm
  have fa := attributeKind_reads.follows h.attributes ha fm
  have fk := keyKind_reads.follows (fun k hmem => h.key k (Option.mem_toList.1 hmem)) hk fa
  have fz := adjustmentsKind_reads.follows
    (fun t hmem => h.adjustments t (Option.mem_toList.1 hmem)) (appendAll_lines 'z' _) fk
  have hwf := h.times
  rw [hts, List.forall_mem_cons] at hwf
  obtain ⟨ht', hts'⟩ := hwf
  have hrepeats : ∀ r ∈ t.rRepeats, IsText r := by
    cases ht'
    assumption
  rw [bind_furtherLines, times_proceed hts' hrepeats ht fz (by decide) (by decide),
    adjustmentsKind_reads.optional_proceed h.adjustments (appendAll_lines 'z' _) fk (by decide)
      trivial, foldl_setAdjustments rfl,
    keyKind_reads.optional_proceed h.key hk fa (by decide) trivial, foldl_setKey rfl rfl,
    attributeKind_reads.repeated_proceed h.attributes ha fm (by decide) trivial,
    foldl_addAttribute rfl rfl]
  have hdescrs : ({ t with rRepeats := [] } : TimeDescr).addRepeats t.rRepeats :: ts =
      sdp.tDescrs := hts.symm
  rw [hdescrs]
  show (proceed (sdp.withMedias []) medias).bind _ = _
  rw [medias_proceed h.medias hm]
  rfl

theorem sdpMessageToStr_parse (h : Accepted sdp) :
    ∃ text, sdpMessageToStr sdp = some text ∧
      sdpMessageParse sdpMessageInit text = some sdp := by
  obtain ⟨version, hversion⟩ := Option.isSome_iff_exists.1 h.version
  obtain ⟨husername, hsessId, hsessVersion, hnettype, haddrtype, haddr⟩ := h.origin
  obtain ⟨username, husername⟩ := Option.isSome_iff_exists.1 husername
  obtain ⟨sessId, hsessId⟩ := Option.isSome_iff_exists.1 hsessId
  obtain ⟨sessVersion, hsessVersion⟩ := Option.isSome_iff_exists.1 hsessVersion
  obtain ⟨nettype, hnettype⟩ := Option.isSome_iff_exists.1 hnettype
  obtain ⟨addrtype, haddrtype⟩ := Option.isSome_iff_exists.1 haddrtype
  obtain ⟨addr, haddr⟩ := Option.isSome_iff_exists.1 haddr
  obtain ⟨t, ts, hts⟩ := List.exists_cons_of_ne_nil h.times
  obtain ⟨connection, hc⟩ := connectionKind_reads.exists_texts
    fun c hmem => h.wf.connection c (Option.mem_toList.1 hmem)
  obtain ⟨bandwidths, hb⟩ := bandwidthKind_reads.exists_texts h.wf.bandwidths
  obtain ⟨key, hk⟩ := keyKind_reads.exists_texts
    fun k hmem => h.wf.key k (Option.mem_toList.1 hmem)
  obtain ⟨attributes, ha⟩ := attributeKind_reads.exists_texts h.wf.attributes
  obtain ⟨medias, hm⟩ := medias_texts h.wf.medias
  obtain ⟨times, ht⟩ := times_texts h.wf.times
  rw [hts] at ht
  obtain ⟨start, stop, further, hstart, hstop, hrepeats, hfurther, rfl, hhead⟩ :=
    timeDescr_texts (h.wf.times t (hts ▸ List.mem_cons_self)) ht
  have hhead' : { t with rRepeats := [] } =
      ({ tStartTime := some start, tStopTime := some stop } : TimeDescr) := by
    rw [hhead]
  have hrest := furtherLines_proceed h.wf hts hfurther hk ha hm
  rw [hhead'] at hrest
  refine ⟨appendLine 'v' version ++
    (appendLine 'o' (username ++ ' ' :: sessId ++ ' ' :: sessVersion ++ ' ' :: nettype ++
      ' ' :: addrtype ++ ' ' :: addr) ++
    (sdp.sName.toList.flatMap (appendLine 's') ++ (sdp.iInfo.toList.flatMap (appendLine 'i') ++
    (sdp.uUri.toList.flatMap (appendLine 'u') ++ (sdp.eEmails.flatMap (appendLine 'e') ++
    (sdp.pPhones.flatMap (appendLine 'p') ++ (connection ++ (bandwidths ++
    (appendLine 't' (start ++ ' ' :: stop) ++ (t.rRepeats.flatMap (appendLine 'r') ++ (further ++
    (sdp.zAdjustments.toList.flatMap (appendLine 'z') ++
    (key ++ (attributes ++ medias)))))))))))))), ?_, ?_⟩
  · rw [sdpMessageToStr, hversion, husername, hsessId, hsessVersion, hnettype, haddrtype, haddr,
      hc, hb, hts, ht, hk, ha, hm]
    simp only [Option.bind_eq_bind, Option.bind_some, optionalLines_eq, List.append_assoc]
  · rw [sdpMessageParse, sessionLines_proceed h.wf hversion husername hsessId hsessVersion
      hnettype haddrtype haddr hc hb hstart hstop, hrest]
    rfl

end Session

/-- What the parser accepts is printed, and the printed text is parsed into the same session
description, so that a clone is the session description itself. -/
theorem sdpMessageParse_roundTrip (buf : Str) (sdp : SdpMessage)
    (h : sdpMessageParse sdpMessageInit buf = some sdp) :
    (∃ text, sdpMessageToStr sdp = some text ∧
      sdpMessageParse sdpMessageInit text = some sdp) ∧
    sdpMessageClone sdp = some sdp := by
  obtain ⟨text, htext, hparse⟩ := sdpMessageToStr_parse (sdpMessageParse_accepted h)
  refine ⟨⟨text, htext, hparse⟩, ?_⟩
  rw [sdpMessageClone, htext]
  exact hparse

/-- A description with bare LFs, a name in front of the origin and a media with lines of its
own. -/
def mboneAudio : Str :=
  ("v=0\ns=Mbone\no=user1 5365 2353 IN IP4 128.3.4.5\r\ne=mbone@somewhere.com\r\n" ++
    "c=IN IP4 224.2.0.1/127\r\nt=0 0\r\nr=7d 1h\na=recvonly\n" ++
    "m=audio 3456/2 RTP/AVP 0 8\r\nb=AS:64\r\na=rtpmap:0 PCMU/8000\r\n").toList

theorem mboneAudio_roundTrip :
    ∃ sdp, sdpMessageParse sdpMessageInit mboneAudio = some sdp ∧
      (∃ text, sdpMessageToStr sdp = some text ∧
        sdpMessageParse sdpMessageInit text = some sdp) ∧
      sdpMessageClone sdp = some sdp := by
  have haccepted : (sdpMessageParse sdpMessageInit mboneAudio).isSome := by decide +kernel
  obtain ⟨sdp, hsdp⟩ := Option.isSome_iff_exists.1 haccepted
  exact ⟨sdp, hsdp, sdpMessageParse_roundTrip mboneAudio sdp hsdp⟩

end Sdp
end Exosip
