import Exosip.Parser.SipMessage

/-! What a serialisation is made of, when it succeeds, and that it says nothing less than
the message when the headers that are stored singly can be printed. -/
namespace Exosip

open CString

theorem cString_nul (s : Str) : '\x00' ∉ cString s := by
  intro h
  have hne := List.mem_takeWhile_imp h
  simp at hne

theorem cString_eq_self {s : Str} (h : '\x00' ∉ s) : cString s = s := by
  rw [cString, List.takeWhile_eq_self_iff]
  intro c hc
  rw [bne_iff_ne]
  intro hnul
  rw [hnul] at hc
  exact h hc

theorem textLine_nul (text : Str) : '\x00' ∉ textLine text := by
  rw [textLine, List.mem_append, not_or]
  exact ⟨cString_nul text, by decide⟩

namespace HeaderEntry

/-- The headers of a row, each with its name and what `to_str` gives. -/
def present (entry : HeaderEntry) : List (Str × Except Int Str) :=
  (entry.headerData.toList ++ entry.headerList).map (entry.headerName, ·)

/-- `to_str` succeeds on the header that is stored singly. -/
def SimpleEncodes (entry : HeaderEntry) : Prop := ∀ i, entry.headerData ≠ some (.error i)

def ListEncodes (entry : HeaderEntry) : Prop := ∀ i, .error i ∉ entry.headerList

end HeaderEntry

namespace SipFields

/-- The headers that are printed, in their order, each with its name and what `to_str`
gives; the text of a generic header has its name inside. -/
def present (sip : SipFields) : List (Str × Except Int Str) :=
  sip.table.flatMap HeaderEntry.present ++ sip.headers.map fun header => ([], osipHeaderToStr header)

/-- `to_str` succeeds on From, To, Call-ID, CSeq, Content-Type and Mime-Version. -/
def SimpleEncodes (sip : SipFields) : Prop := ∀ entry ∈ sip.table, entry.SimpleEncodes

/-- `to_str` succeeds on a body, and the boundary is not too long. -/
structure BodiesEncode (sip : SipFields) : Prop where
  boundary : ∃ boundary, sip.boundary = .ok boundary
  bodies : ∀ body ∈ sip.bodies, ∃ text, body.toStr = .ok text

/-- Every part of the message but the headers that are stored singly can be printed. -/
structure RestEncodes (sip : SipFields) : Prop where
  startline : ∃ text, sip.startlineToStr = .ok text
  lists : ∀ entry ∈ sip.table, entry.ListEncodes
  headers : ∀ header ∈ sip.headers, ∃ text, osipHeaderToStr header = .ok text
  bodies : sip.bodies ≠ [] → sip.BodiesEncode

end SipFields

section Steps

variable {α β : Type} {ε : Type}

theorem exists_ok_bind {x : Except ε α} {f : α → Except ε β} {b : β} :
    (x >>= f) = .ok b ↔ ∃ a, x = .ok a ∧ f a = .ok b := by
  cases x with
  | error e => simp [bind, Except.bind]
  | ok a => simp [bind, Except.bind]

theorem returnCode_ok (a : α) : SipFields.returnCode (.ok a) = .ok a := rfl

theorem returnCode_eq_ok {x : Except Int α} {a : α} :
    SipFields.returnCode x = .ok a ↔ x = .ok a := by
  cases x with
  | error e => simp [SipFields.returnCode, Except.mapError]
  | ok a => simp [SipFields.returnCode, Except.mapError]

end Steps

namespace HeaderEntry

theorem strcatHeadersOnePerLine_ok_iff (headerName : Str) {headers : List (Except Int Str)} :
    (∃ text, strcatHeadersOnePerLine headerName headers = .ok text) ↔
      ∀ i, .error i ∉ headers := by
  induction headers with
  | nil => simp [strcatHeadersOnePerLine]
  | cons toStr headers ih =>
      simp only [List.mem_cons, not_or, forall_and, ← ih, strcatHeadersOnePerLine]
      cases toStr with
      | error i =>
          constructor
          · intro h
            obtain ⟨text, htext⟩ := h
            cases htext
          · intro h
            exact absurd rfl (h.1 i)
      | ok tmp =>
          cases hrest : strcatHeadersOnePerLine headerName headers with
          | error i => simp [bind, Except.bind]
          | ok text => simp [bind, Except.bind]

theorem tableToStr_ok_iff {table : List HeaderEntry} :
    (∃ text, tableToStr table = .ok text) ↔ ∀ entry ∈ table, entry.ListEncodes := by
  induction table with
  | nil => simp [tableToStr]
  | cons entry table ih =>
      rw [List.forall_mem_cons, ← ih, ListEncodes,
        ← strcatHeadersOnePerLine_ok_iff entry.headerName]
      simp only [tableToStr, exists_ok_bind]
      constructor
      · intro h
        obtain ⟨text, lines, hlines, rest, hrest, -⟩ := h
        exact ⟨⟨lines, hlines⟩, rest, hrest⟩
      · intro h
        obtain ⟨⟨lines, hlines⟩, rest, hrest⟩ := h
        exact ⟨_, lines, hlines, rest, hrest, rfl⟩

end HeaderEntry

theorem headersToStr_ok_iff {headers : List Header} :
    (∃ text, headersToStr headers = .ok text) ↔
      ∀ header ∈ headers, ∃ text, osipHeaderToStr header = .ok text := by
  induction headers with
  | nil => simp [headersToStr]
  | cons header headers ih =>
      rw [List.forall_mem_cons, ← ih]
      simp only [headersToStr, exists_ok_bind]
      constructor
      · intro h
        obtain ⟨text, line, hline, rest, hrest, -⟩ := h
        exact ⟨⟨line, hline⟩, rest, hrest⟩
      · intro h
        obtain ⟨⟨line, hline⟩, rest, hrest⟩ := h
        exact ⟨_, line, hline, rest, hrest, rfl⟩

namespace SipFields

theorem bodiesToStr_ok_iff {boundary : Option Str} {bodies : List Body} :
    (∃ text, bodiesToStr boundary bodies = .ok text) ↔
      ∀ body ∈ bodies, ∃ text, body.toStr = .ok text := by
  induction bodies with
  | nil => simp [bodiesToStr]
  | cons body bodies ih =>
      rw [List.forall_mem_cons, ← ih]
      simp only [bodiesToStr, exists_ok_bind]
      constructor
      · intro h
        obtain ⟨text, line, hline, rest, hrest, -⟩ := h
        exact ⟨⟨line, hline⟩, rest, hrest⟩
      · intro h
        obtain ⟨⟨line, hline⟩, rest, hrest⟩ := h
        exact ⟨_, line, hline, rest, hrest, rfl⟩

variable {sip : SipFields}

theorem headToStr_eq_ok {head : Str} (h : sip.headToStr = .ok head) :
    ∃ startline table headers, sip.startlineToStr = .ok startline ∧
      HeaderEntry.tableToStr sip.table = .ok table ∧ headersToStr sip.headers = .ok headers ∧
      head = textLine startline ++ table ++ headers ++ "Content-Length: ".toList := by
  rw [headToStr, exists_ok_bind] at h
  obtain ⟨startline, hstart, h⟩ := h
  rw [exists_ok_bind] at h
  obtain ⟨table, htable, h⟩ := h
  rw [exists_ok_bind] at h
  obtain ⟨headers, hheaders, h⟩ := h
  cases h
  exact ⟨startline, table, headers, hstart, htable, hheaders, rfl⟩

theorem headToStr_ok_iff :
    (∃ head, sip.headToStr = .ok head) ↔
      (∃ text, sip.startlineToStr = .ok text) ∧ (∀ entry ∈ sip.table, entry.ListEncodes) ∧
        ∀ header ∈ sip.headers, ∃ text, osipHeaderToStr header = .ok text := by
  rw [← HeaderEntry.tableToStr_ok_iff, ← headersToStr_ok_iff]
  constructor
  · intro h
    obtain ⟨head, hhead⟩ := h
    obtain ⟨startline, table, headers, hstart, htable, hheaders, -⟩ := headToStr_eq_ok hhead
    exact ⟨⟨startline, hstart⟩, ⟨table, htable⟩, headers, hheaders⟩
  · intro h
    obtain ⟨⟨startline, hstart⟩, ⟨table, htable⟩, headers, hheaders⟩ := h
    simp only [headToStr, hstart, htable, hheaders]
    exact ⟨_, rfl⟩

theorem serialise_eq_ok {text : Str} :
    sip.serialise = .ok text ↔
      ∃ head, sip.headToStr = .ok head ∧
        ((sip.bodies = [] ∧ text = head ++ '0' :: crlf ++ crlf) ∨
          (sip.bodies ≠ [] ∧ ∃ boundary bodies, sip.boundary = .ok boundary ∧
            bodiesToStr boundary sip.bodies = .ok bodies ∧ text = withBodies head bodies)) := by
  rw [serialise, exists_ok_bind]
  simp only [returnCode_eq_ok]
  apply exists_congr
  intro head
  apply and_congr_right
  intro _
  by_cases hbodies : sip.bodies = []
  · rw [if_pos hbodies, Except.ok.injEq]
    simp only [hbodies, ne_eq, not_true, false_and, or_false, true_and]
    exact eq_comm
  · rw [if_neg hbodies]
    simp only [exists_ok_bind, returnCode_eq_ok, Except.ok.injEq, hbodies, false_and, ne_eq,
      not_false_eq_true, true_and, false_or]
    constructor
    · intro h
      obtain ⟨boundary, hboundary, bodies, hb, htext⟩ := h
      exact ⟨boundary, bodies, hboundary, hb, htext.symm⟩
    · intro h
      obtain ⟨boundary, bodies, hboundary, hb, htext⟩ := h
      exact ⟨boundary, hboundary, bodies, hb, htext.symm⟩

theorem serialise_ok_iff : (∃ text, sip.serialise = .ok text) ↔ sip.RestEncodes := by
  constructor
  · intro h
    obtain ⟨text, htext⟩ := h
    obtain ⟨head, hhead, hrest⟩ := serialise_eq_ok.1 htext
    obtain ⟨hstart, hlists, hheaders⟩ := headToStr_ok_iff.1 ⟨head, hhead⟩
    refine ⟨hstart, hlists, hheaders, ?_⟩
    intro hne
    cases hrest with
    | inl hrest => exact absurd hrest.1 hne
    | inr hrest =>
        obtain ⟨-, boundary, bodies, hboundary, hbodies, -⟩ := hrest
        exact ⟨⟨boundary, hboundary⟩, bodiesToStr_ok_iff.1 ⟨bodies, hbodies⟩⟩
  · intro h
    obtain ⟨head, hhead⟩ := headToStr_ok_iff.2 ⟨h.startline, h.lists, h.headers⟩
    by_cases hne : sip.bodies = []
    · exact ⟨_, serialise_eq_ok.2 ⟨head, hhead, Or.inl ⟨hne, rfl⟩⟩⟩
    · obtain ⟨boundary, hboundary⟩ := (h.bodies hne).boundary
      obtain ⟨bodies, hbodies⟩ := bodiesToStr_ok_iff.2 (h.bodies hne).bodies
      exact ⟨_, serialise_eq_ok.2
        ⟨head, hhead, Or.inr ⟨hne, boundary, bodies, hboundary, hbodies, rfl⟩⟩⟩

/-! ### The texts in the serialisation -/

theorem length_intToStr_le {value : Int} (h : -2147483648 ≤ value ∧ value < 2147483648) :
    (intToStr value).length ≤ 11 := by
  have hdigits {n : Nat} (hn : n < 10000000000) : (Nat.toDigits 10 n).length ≤ 10 := by
    rw [Nat.length_toDigits_le_iff (by decide) (by decide)]
    omega
  cases value with
  | ofNat n =>
      have hlt : n < 10000000000 := by
        rw [Int.ofNat_eq_natCast] at h
        omega
      exact (hdigits hlt).trans (by decide)
  | negSucc n =>
      have hlt : n + 1 < 10000000000 := by omega
      exact Nat.succ_le_succ (hdigits hlt)

theorem length_sizeToStr_le (size : Nat) : (sizeToStr size).length ≤ 11 :=
  length_intToStr_le (toInt32_range size)

theorem overwrite_append (a b c t : Str) {k : Nat} (h : k + t.length = b.length) :
    overwrite (a ++ b ++ c) (a.length + k) t = a ++ b.take k ++ t ++ c := by
  have hend : a.length + k + t.length = (a ++ b).length := by
    rw [List.length_append]
    omega
  have hk : a.length + k ≤ (a ++ b).length := by omega
  rw [overwrite, hend, List.drop_left, List.take_append_of_le_length hk, List.take_length_add_append]

/-- The last line of the header section, with the length written over the end of the name
and of the place kept for it. -/
def contentLengthLine (size : Nat) : Str :=
  ("Content-Length: ".toList ++ slot).take (21 - (sizeToStr size).length) ++ sizeToStr size

theorem withBodies_eq (lines bodies : Str) :
    withBodies (lines ++ "Content-Length: ".toList) bodies =
      lines ++ contentLengthLine bodies.length ++ crlf ++ crlf ++ bodies := by
  have hlen := length_sizeToStr_le bodies.length
  have hname : "Content-Length: ".toList.length = 16 := by decide
  have hslot : slot.length = 5 := rfl
  have hpos : (lines ++ "Content-Length: ".toList).length + slot.length -
      (sizeToStr bodies.length).length =
        lines.length + (21 - (sizeToStr bodies.length).length) := by
    rw [List.length_append, hname, hslot]
    omega
  have hfit : 21 - (sizeToStr bodies.length).length + (sizeToStr bodies.length).length =
      ("Content-Length: ".toList ++ slot).length := by
    rw [List.length_append, hname, hslot]
    omega
  have hover := overwrite_append lines ("Content-Length: ".toList ++ slot)
    (crlf ++ crlf ++ bodies) (sizeToStr bodies.length) hfit
  rw [withBodies, hpos, contentLengthLine]
  simpa only [List.append_assoc] using hover

theorem serialise_prefix {sip : SipFields} {text : Str} (h : sip.serialise = .ok text) :
    ∃ startline table headers, sip.startlineToStr = .ok startline ∧
      HeaderEntry.tableToStr sip.table = .ok table ∧ headersToStr sip.headers = .ok headers ∧
      textLine startline ++ table ++ headers <+: text := by
  obtain ⟨head, hhead, hrest⟩ := serialise_eq_ok.1 h
  obtain ⟨startline, table, headers, hstart, htable, hheaders, rfl⟩ := headToStr_eq_ok hhead
  refine ⟨startline, table, headers, hstart, htable, hheaders, ?_⟩
  cases hrest with
  | inl hrest =>
      rw [hrest.2]
      simp only [List.append_assoc]
      simp
  | inr hrest =>
      obtain ⟨-, boundary, bodies, -, -, htext⟩ := hrest
      rw [htext, withBodies_eq]
      simp only [List.append_assoc]
      simp

/-! ### Without bodies there is no NUL -/

theorem headersToStr_nul {headers : List Header} {text : Str}
    (h : headersToStr headers = .ok text) : '\x00' ∉ text := by
  induction headers generalizing text with
  | nil =>
      cases h
      exact List.not_mem_nil
  | cons header headers ih =>
      rw [headersToStr, exists_ok_bind] at h
      obtain ⟨line, -, h⟩ := h
      rw [exists_ok_bind] at h
      obtain ⟨rest, hrest, h⟩ := h
      cases h
      rw [List.mem_append, not_or]
      exact ⟨textLine_nul line, ih hrest⟩

end SipFields

namespace HeaderEntry

theorem strcatHeadersOnePerLine_nul {headerName : Str} (hname : '\x00' ∉ headerName)
    {headers : List (Except Int Str)} {text : Str}
    (h : strcatHeadersOnePerLine headerName headers = .ok text) : '\x00' ∉ text := by
  induction headers generalizing text with
  | nil =>
      cases h
      exact List.not_mem_nil
  | cons toStr headers ih =>
      rw [strcatHeadersOnePerLine, exists_ok_bind] at h
      obtain ⟨line, -, h⟩ := h
      rw [exists_ok_bind] at h
      obtain ⟨rest, hrest, h⟩ := h
      cases h
      rw [List.mem_append, List.mem_append, not_or, not_or]
      exact ⟨⟨hname, textLine_nul line⟩, ih hrest⟩

theorem strcatSimpleHeader_nul {entry : HeaderEntry} (hname : '\x00' ∉ entry.headerName) :
    '\x00' ∉ entry.strcatSimpleHeader.2 := by
  unfold strcatSimpleHeader
  split
  · exact List.not_mem_nil
  · exact hname
  · rw [List.mem_append, not_or]
    exact ⟨hname, textLine_nul _⟩

theorem tableToStr_nul {table : List HeaderEntry} (hnames : ∀ entry ∈ table, '\x00' ∉ entry.headerName)
    {text : Str} (h : tableToStr table = .ok text) : '\x00' ∉ text := by
  induction table generalizing text with
  | nil =>
      cases h
      exact List.not_mem_nil
  | cons entry table ih =>
      rw [tableToStr, exists_ok_bind] at h
      obtain ⟨lines, hlines, h⟩ := h
      rw [exists_ok_bind] at h
      obtain ⟨rest, hrest, h⟩ := h
      cases h
      rw [List.forall_mem_cons] at hnames
      rw [List.mem_append, List.mem_append, not_or, not_or]
      exact ⟨⟨strcatSimpleHeader_nul hnames.1, strcatHeadersOnePerLine_nul hnames.1 hlines⟩,
        ih hnames.2 hrest⟩

end HeaderEntry

namespace SipFields

theorem table_names (sip : SipFields) : sip.table.map HeaderEntry.headerName =
    ["Via: ", "Record-Route: ", "Route: ", "From: ", "To: ", "Call-ID: ", "CSeq: ", "Contact: ",
      "Authorization: ", "WWW-Authenticate: ", "Proxy-Authenticate: ", "Proxy-Authorization: ",
      "Call-Info: ", "Content-Type: ", "Mime-Version: ", "Allow: ", "Content-Encoding: ",
      "Alert-Info: ", "Error-Info: ", "Accept: ", "Accept-Encoding: ", "Accept-Language: ",
      "Authentication-Info: ", "Proxy-Authentication-Info: "].map String.toList := rfl

theorem table_names_nul (sip : SipFields) : ∀ entry ∈ sip.table, '\x00' ∉ entry.headerName := by
  intro entry hentry
  have hname := List.mem_map_of_mem (f := HeaderEntry.headerName) hentry
  rw [table_names] at hname
  revert hname
  generalize entry.headerName = name
  revert name
  decide +kernel

theorem headToStr_nul {sip : SipFields} {head : Str} (h : sip.headToStr = .ok head) :
    '\x00' ∉ head := by
  obtain ⟨startline, table, headers, -, htable, hheaders, rfl⟩ := headToStr_eq_ok h
  have hname : '\x00' ∉ "Content-Length: ".toList := by decide
  simp only [List.mem_append, not_or]
  exact ⟨⟨⟨textLine_nul _, HeaderEntry.tableToStr_nul (table_names_nul sip) htable⟩,
    headersToStr_nul hheaders⟩, hname⟩

theorem cString_serialise {sip : SipFields} {text : Str} (h : sip.serialise = .ok text)
    (hbodies : sip.bodies = []) : cString text = text := by
  obtain ⟨head, hhead, hrest⟩ := serialise_eq_ok.1 h
  cases hrest with
  | inr hrest => exact absurd hbodies hrest.1
  | inl hrest =>
      rw [hrest.2]
      apply cString_eq_self
      have hend : '\x00' ∉ '0' :: crlf ++ crlf := by decide
      rw [List.append_assoc, List.mem_append, not_or]
      exact ⟨headToStr_nul hhead, hend⟩

end SipFields

/-! ### The cache -/

namespace SipMessage

/-- A valid cache holds the serialisation of what the message says now. -/
def Coherent (sip : SipMessage) : Prop :=
  sip.messageProperty = 1 →
    ∃ text, sip.fields.serialise = .ok text ∧ sip.message = some text ∧
      sip.messageLength = text.length

theorem memcpy_all (text : Str) : memcpy (some text) text.length = .ok text := by
  rw [memcpy, if_pos (Nat.le_succ _), List.take_left]

theorem toStr_of_coherent {sip : SipMessage} (h : sip.Coherent) :
    sip.toStr.1 = sip.fields.serialise := by
  unfold toStr
  split
  · next hvalid =>
      obtain ⟨text, htext, hmessage, hlen⟩ := h hvalid
      rw [hmessage, hlen, memcpy_all, htext]
  · split
    · next heq => exact heq.symm
    · next heq => exact heq.symm

theorem coherent_cached {sip : SipMessage} {text : Str} (h : sip.fields.serialise = .ok text) :
    (sip.cached text).Coherent := by
  intro _
  refine ⟨text, h, ?_, rfl⟩
  unfold cached
  dsimp only
  split
  · next hbodies => rw [SipFields.cString_serialise h hbodies]
  · rfl

theorem coherent_toStr {sip : SipMessage} (h : sip.Coherent) : sip.toStr.2.Coherent := by
  unfold toStr
  split
  · exact h
  · next hinvalid =>
      split
      · intro hvalid
        exact absurd hvalid hinvalid
      · next dest hdest => exact coherent_cached hdest

@[simp] theorem toStr_fields (sip : SipMessage) : sip.toStr.2.fields = sip.fields := by
  unfold toStr
  split
  · rfl
  · split <;> rfl

theorem coherent_init : SipMessage.init.Coherent := by
  intro h
  cases h

end SipMessage

/-- A message together with the coherence of its cache. -/
structure CoherentMessage extends SipMessage where
  coherent : toSipMessage.Coherent

end Exosip
