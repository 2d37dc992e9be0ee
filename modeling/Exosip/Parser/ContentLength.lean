import Exosip.Parser.AllOrNothing

/-! The Content-Length that `osip_message_to_str` writes into the place it kept for it, as
a reader of the buffer finds it. -/
namespace Exosip

open CString

/-! ### The reader -/

def emptyLine : Str := crlf ++ crlf

/-- What stands before the first empty line, without the line break of its last line, and
what follows the empty line. -/
def splitEmptyLine : Str → Option (Str × Str)
  | [] => none
  | c :: text =>
      if emptyLine.isPrefixOf (c :: text) then some ([], (c :: text).drop emptyLine.length)
      else (splitEmptyLine text).map fun (head, rest) => (c :: head, rest)

/-- A line has no line break of its own; it may be folded. -/
def unbroken : Str → Bool
  | [] => true
  | '\r' :: '\n' :: c :: line => (c == ' ' || c == '\t') && unbroken (c :: line)
  | c :: line => c != '\r' && c != '\n' && unbroken line

def isTokenChar (c : Char) : Bool := isAlphanum c || "-.!%*_+`'~".toList.contains c

/-- A header line: the name, a colon and the value. -/
structure FieldLine (line name : Str) : Prop where
  name_ne : name ≠ []
  token : ∀ c ∈ name, isTokenChar c = true
  value : ∃ blanks value, line = name ++ blanks ++ ':' :: value ∧
    (∀ c ∈ blanks, c = ' ' ∨ c = '\t') ∧ unbroken value = true

def isContentLength (name : Str) : Bool :=
  osipStrcasecmp name "content-length".toList || osipStrcasecmp name "l".toList

def lengthValue (value : Str) : Option Nat :=
  let digits := value.dropWhile fun c => c == ' ' || c == '\t'
  if digits ≠ [] ∧ digits.all Char.isDigit then some (decimal digits) else none

def unlines (lines : List Str) : Str := lines.flatMap (· ++ crlf)

namespace SipFields

def lineOf (header : Str × Str) : Str := header.1 ++ cString header.2

def PresentTexts (sip : SipFields) (headers : List (Str × Str)) : Prop :=
  sip.present = headers.map fun header => (header.1, .ok header.2)

/-- A header line that does not say how long the body is. -/
def OtherField (line : Str) : Prop :=
  ∃ name, FieldLine line name ∧ isContentLength name = false

/-- Up to its first empty line the buffer has the start line, one line for each header of
the message and the Content-Length, whose value is the number of bytes that follow. -/
def Framed (sip : SipFields) (text : Str) : Prop :=
  ∃ startline headers value head rest,
    splitEmptyLine text = some (head, rest) ∧
    head ++ crlf = unlines (cString startline :: headers.map lineOf ++
      ["Content-Length:".toList ++ value]) ∧
    sip.startlineToStr = .ok startline ∧ sip.PresentTexts headers ∧
    unbroken (cString startline) = true ∧ (∀ header ∈ headers, OtherField (lineOf header)) ∧
    lengthValue value = some rest.length

def bodiesSize (boundary : Option Str) (bodies : List Body) : Nat :=
  (bodies.map fun body =>
    (delimiter boundary).length + (body.toStr.toOption.getD []).length).sum +
      (closeDelimiter boundary).length

/-- The headers can all be printed, none has a line break of its own or is a second
Content-Length, and the length of the bodies has at most six digits. -/
structure Framable (sip : SipFields) : Prop where
  simple : sip.SimpleEncodes
  startline : ∀ startline, sip.startlineToStr = .ok startline → unbroken (cString startline) = true
  headers : ∀ name tmp, (name, .ok tmp) ∈ sip.present → OtherField (lineOf (name, tmp))
  bodies : ∀ boundary, sip.bodies ≠ [] → sip.boundary = .ok boundary →
    bodiesSize boundary sip.bodies < 1000000

end SipFields

/-- Whatever `osip_message_to_str` returns is framed by its Content-Length. -/
def LengthExact (sip : SipMessage) : Prop :=
  ∀ text, sip.toStr.1 = .ok text → sip.fields.Framed text

/-! ### The number in a header -/

theorem strtol_of_lengthValue {value : Str} {size : Nat} (h : lengthValue value = some size) :
    strtol value = min (size : Int) longMax := by
  rw [lengthValue] at h
  split at h
  · next hdigits =>
      rw [List.all_eq_true] at hdigits
      obtain ⟨c, digits, heq⟩ := List.exists_cons_of_ne_nil hdigits.1
      have hdigit : c.isDigit = true := hdigits.2 c (by simp [heq])
      have hskip : value.dropWhile isSpace = c :: digits := by
        rw [← List.takeWhile_append_dropWhile (p := fun c => c == ' ' || c == '\t') (l := value),
          List.dropWhile_append_of_pos]
        · rw [heq, List.dropWhile_cons_of_neg (by simp [isSpace_of_isDigit hdigit])]
        · intro d hd
          have hblank := List.mem_takeWhile_imp hd
          rw [Bool.or_eq_true, beq_iff_eq, beq_iff_eq] at hblank
          cases hblank with
          | inl hblank => rw [hblank]; rfl
          | inr hblank => rw [hblank]; rfl
      have hminus : c ≠ '-' := by rintro rfl; simp at hdigit
      have hplus : c ≠ '+' := by rintro rfl; simp at hdigit
      rw [Option.some.injEq, heq] at h
      unfold strtol
      rw [hskip]
      split
      · next hcons => exact absurd (List.cons.inj hcons).1 hminus
      · next hcons => exact absurd (List.cons.inj hcons).1 hplus
      · rw [h]
  · cases h

theorem atoi_of_lt {value : Str} {size : Nat} (h : lengthValue value = some size)
    (hlt : size < 2147483648) : atoi value = size := by
  have hlong : (size : Int) ≤ longMax := by
    unfold longMax
    omega
  rw [atoi, strtol_of_lengthValue h, Int.min_eq_left hlong]
  exact toInt32_of_range (by omega)

/-! ### The first empty line -/

theorem splitEmptyLine_eq_some {text head rest : Str} (h : splitEmptyLine text = some (head, rest)) :
    text = head ++ emptyLine ++ rest := by
  induction text generalizing head with
  | nil => cases h
  | cons c text ih =>
      rw [splitEmptyLine] at h
      split at h
      · next hpre =>
          cases h
          exact (List.prefix_iff_eq_append.1 (List.isPrefixOf_iff_prefix.1 hpre)).symm
      · rw [Option.map_eq_some_iff] at h
        obtain ⟨⟨head', rest'⟩, htext, h⟩ := h
        cases h
        rw [ih htext]
        simp

theorem splitEmptyLine_cons {c : Char} {text : Str} (h : ¬ emptyLine <+: c :: text) :
    splitEmptyLine (c :: text) =
      (splitEmptyLine text).map fun (head, rest) => (c :: head, rest) := by
  rw [← List.isPrefixOf_iff_prefix] at h
  rw [splitEmptyLine, if_neg h]

theorem splitEmptyLine_append {line : Str} (h : unbroken line = true) (text : Str) :
    splitEmptyLine (line ++ text) =
      (splitEmptyLine text).map fun (head, rest) => (line ++ head, rest) := by
  induction line using unbroken.induct with
  | case1 => simp
  | case2 c line ih =>
      rw [unbroken, Bool.and_eq_true] at h
      have hblank : c ≠ '\r' := by
        intro hcr
        rw [hcr] at h
        exact absurd h.1 (by decide)
      rw [List.cons_append, List.cons_append, splitEmptyLine_cons, splitEmptyLine_cons, ih h.2]
      · simp [Function.comp_def]
      · simp [emptyLine, crlf]
      · simp [emptyLine, crlf, hblank.symm]
  | case3 c line hfold ih =>
      rw [unbroken, Bool.and_eq_true, Bool.and_eq_true, bne_iff_ne] at h
      · rw [List.cons_append, splitEmptyLine_cons, ih h.2]
        · simp [Function.comp_def]
        · simp [emptyLine, crlf, h.1.1.symm]
      · exact hfold

theorem splitEmptyLine_emptyLine (rest : Str) :
    splitEmptyLine (emptyLine ++ rest) = some ([], rest) := rfl

theorem splitEmptyLine_crlf {text : Str} (h : text.head? ≠ some '\r') :
    splitEmptyLine (crlf ++ text) =
      (splitEmptyLine text).map fun (head, rest) => (crlf ++ head, rest) := by
  rw [crlf, List.cons_append, List.cons_append, List.nil_append, splitEmptyLine_cons,
    splitEmptyLine_cons]
  · simp [Function.comp_def]
  · simp [emptyLine, crlf]
  · cases text with
    | nil => simp [emptyLine, crlf]
    | cons c text =>
        have hc : '\r' ≠ c := fun hc => h (by rw [← hc]; rfl)
        simp [emptyLine, crlf, hc]

theorem unbroken_append {line : Str} (h : ∀ c ∈ line, c ≠ '\r' ∧ c ≠ '\n') {rest : Str}
    (hrest : unbroken rest = true) : unbroken (line ++ rest) = true := by
  induction line with
  | nil => exact hrest
  | cons c line ih =>
      rw [List.forall_mem_cons] at h
      rw [List.cons_append, unbroken]
      · simp [h.1.1, h.1.2, ih h.2]
      · intro _ _ hc
        exact absurd hc h.1.1

theorem isTokenChar_ne {c : Char} (h : isTokenChar c = true) : c ≠ '\r' ∧ c ≠ '\n' := by
  constructor
  all_goals
    intro hc
    rw [hc] at h
    exact absurd h (by decide)

namespace FieldLine

variable {line name : Str}

theorem isUnbroken (h : FieldLine line name) : unbroken line = true := by
  obtain ⟨blanks, value, hline, hblanks, hvalue⟩ := h.value
  have hcolon : ∀ c ∈ [':'], c ≠ '\r' ∧ c ≠ '\n' := List.forall_mem_singleton.2 (by decide)
  rw [hline, List.append_assoc]
  apply unbroken_append (fun c hc => isTokenChar_ne (h.token c hc))
  apply unbroken_append
  · intro c hc
    cases hblanks c hc with
    | inl hc => rw [hc]; decide
    | inr hc => rw [hc]; decide
  · exact unbroken_append hcolon hvalue

theorem head_ne (h : FieldLine line name) (text : Str) : (line ++ text).head? ≠ some '\r' := by
  obtain ⟨blanks, value, hline, -, -⟩ := h.value
  obtain ⟨c, name', hname⟩ := List.exists_cons_of_ne_nil h.name_ne
  have hc : c ≠ '\r' := (isTokenChar_ne (h.token c (by simp [hname]))).1
  simp [hline, hname, hc]

end FieldLine

@[simp] theorem unlines_nil : unlines [] = [] := rfl

@[simp] theorem unlines_cons (line : Str) (lines : List Str) :
    unlines (line :: lines) = line ++ crlf ++ unlines lines := rfl

@[simp] theorem unlines_append (lines more : List Str) :
    unlines (lines ++ more) = unlines lines ++ unlines more :=
  List.flatMap_append

theorem splitEmptyLine_unlines {first : Str} (hfirst : unbroken first = true) {lines : List Str}
    (hlines : ∀ line ∈ lines, ∃ name, FieldLine line name) (rest : Str) :
    ∃ head, splitEmptyLine (unlines (first :: lines) ++ crlf ++ rest) = some (head, rest) ∧
      head ++ crlf = unlines (first :: lines) := by
  induction lines generalizing first with
  | nil =>
      refine ⟨first, ?_, by simp⟩
      have hempty : unlines [first] ++ crlf ++ rest = first ++ (emptyLine ++ rest) := by
        simp [emptyLine]
      rw [hempty, splitEmptyLine_append hfirst, splitEmptyLine_emptyLine]
      simp
  | cons line lines ih =>
      rw [List.forall_mem_cons] at hlines
      obtain ⟨name, hline⟩ := hlines.1
      obtain ⟨head, hsplit, hhead⟩ := ih hline.isUnbroken hlines.2
      refine ⟨first ++ (crlf ++ head), ?_, ?_⟩
      · have hnext : unlines (first :: line :: lines) ++ crlf ++ rest =
            first ++ (crlf ++ (unlines (line :: lines) ++ crlf ++ rest)) := by
          simp
        have hne : (unlines (line :: lines) ++ crlf ++ rest).head? ≠ some '\r' := by
          have hne := hline.head_ne (crlf ++ unlines lines ++ crlf ++ rest)
          simpa using hne
        rw [hnext, splitEmptyLine_append hfirst, splitEmptyLine_crlf hne, hsplit]
        rfl
      · rw [List.append_assoc, List.append_assoc, hhead]
        simp

/-! ### The place for the length -/

theorem ofDigitChars_lt {digits : Str} (h : ∀ c ∈ digits, c.isDigit = true) :
    Nat.ofDigitChars 10 digits 0 < 10 ^ digits.length := by
  induction digits with
  | nil => simp
  | cons c digits ih =>
      rw [List.forall_mem_cons] at h
      have hc : c.toNat - '0'.toNat ≤ 9 := by
        have hrange : 48 ≤ c.toNat ∧ c.toNat ≤ 57 := by
          simpa [Char.isDigit, Char.le_def, UInt32.le_iff_toNat_le] using h.1
        have hzero : '0'.toNat = 48 := rfl
        omega
      have hrest := ih h.2
      rw [Nat.ofDigitChars_cons, Nat.ofDigitChars_eq_ofDigitChars_zero, List.length_cons, pow_succ]
      nlinarith

theorem decimal_of_digits {digits : Str} (h : ∀ c ∈ digits, c.isDigit = true) :
    decimal digits = Nat.ofDigitChars 10 digits 0 := by
  rw [decimal, List.takeWhile_eq_self_iff.2 h]

theorem lengthValue_lt {value : Str} {size : Nat} (h : lengthValue value = some size) :
    size < 10 ^ value.length := by
  rw [lengthValue] at h
  split at h
  · next hdigits =>
      rw [List.all_eq_true] at hdigits
      rw [Option.some.injEq, decimal_of_digits hdigits.2] at h
      rw [← h]
      apply (ofDigitChars_lt hdigits.2).trans_le
      exact Nat.pow_le_pow_right (by decide) (List.dropWhile_sublist _).length_le
  · cases h

theorem lengthValue_chars {value : Str} {size : Nat} (h : lengthValue value = some size) :
    ∀ c ∈ value, c = ' ' ∨ c = '\t' ∨ c.isDigit = true := by
  intro c hc
  rw [lengthValue] at h
  split at h
  · next hdigits =>
      rw [← List.takeWhile_append_dropWhile (p := fun c => c == ' ' || c == '\t') (l := value),
        List.mem_append] at hc
      cases hc with
      | inl hc =>
          have hblank := List.mem_takeWhile_imp hc
          rw [Bool.or_eq_true, beq_iff_eq, beq_iff_eq] at hblank
          rw [← or_assoc]
          exact Or.inl hblank
      | inr hc => exact Or.inr (Or.inr (List.all_eq_true.1 hdigits.2 c hc))
  · cases h

theorem lengthValue_ne {value : Str} {size : Nat} (h : lengthValue value = some size) :
    ∀ c ∈ value, c ≠ '\r' ∧ c ≠ '\n' := by
  intro c hc
  have hchar := lengthValue_chars h c hc
  constructor
  all_goals
    intro hbreak
    rw [hbreak] at hchar
    exact absurd hchar (by decide)

theorem lengthValue_toDigits (k size : Nat) :
    lengthValue (List.replicate k ' ' ++ Nat.toDigits 10 size) = some size := by
  have hall : ∀ c ∈ Nat.toDigits 10 size, c.isDigit = true :=
    fun c hc => Nat.isDigit_of_mem_toDigits (by decide) (by decide) hc
  have hdigits : (List.replicate k ' ' ++ Nat.toDigits 10 size).dropWhile
      (fun c => c == ' ' || c == '\t') = Nat.toDigits 10 size := by
    rw [List.dropWhile_append_of_pos]
    · obtain ⟨c, rest, heq⟩ := List.exists_cons_of_ne_nil (Nat.toDigits_ne_nil (n := size) (b := 10))
      have hc := hall c (by simp [heq])
      have hspace : c ≠ ' ' := by
        intro h
        rw [h] at hc
        cases hc
      have htab : c ≠ '\t' := by
        intro h
        rw [h] at hc
        cases hc
      simp [heq, hspace, htab]
    · intro c hc
      rw [(List.mem_replicate.1 hc).2]
      rfl
  rw [lengthValue, hdigits, if_pos, decimal_toDigits]
  exact ⟨Nat.toDigits_ne_nil, List.all_eq_true.2 hall⟩

namespace SipFields

theorem sizeToStr_of_lt {size : Nat} (h : size < 1000000) : sizeToStr size = Nat.toDigits 10 size := by
  have hint : toInt32 size = (size : Int) := by
    rw [toInt32, Int.bmod_eq_of_le] <;> omega
  rw [sizeToStr, hint]
  rfl

theorem sizeToStr_chars (size : Nat) : ∀ c ∈ sizeToStr size, c = '-' ∨ c.isDigit = true := by
  have hdigits (n : Nat) : ∀ c ∈ Nat.toDigits 10 n, c = '-' ∨ c.isDigit = true :=
    fun c hc => Or.inr (Nat.isDigit_of_mem_toDigits (by decide) (by decide) hc)
  rw [sizeToStr]
  cases toInt32 size with
  | ofNat n => exact hdigits n
  | negSucc n =>
      rw [intToStr, List.forall_mem_cons]
      exact ⟨Or.inl rfl, hdigits (n + 1)⟩

theorem sizeToStr_not_mem {c : Char} (h : ¬ (c = '-' ∨ c.isDigit = true)) (size : Nat) :
    c ∉ sizeToStr size :=
  fun hc => h (sizeToStr_chars size c hc)

theorem length_contentLengthLine (size : Nat) : (contentLengthLine size).length = 21 := by
  have hlen := length_sizeToStr_le size
  have hslot : ("Content-Length: ".toList ++ slot).length = 21 := rfl
  rw [contentLengthLine, List.length_append, List.length_take, hslot]
  omega

theorem contentLengthLine_of_length {size : Nat} (h : (sizeToStr size).length ≤ 6) :
    contentLengthLine size = "Content-Length:".toList ++
      (List.replicate (6 - (sizeToStr size).length) ' ' ++ sizeToStr size) := by
  have hplace : "Content-Length: ".toList ++ slot =
      "Content-Length:".toList ++ List.replicate 6 ' ' := rfl
  have hname : "Content-Length:".toList.length = 15 := rfl
  rw [contentLengthLine, hplace]
  generalize sizeToStr size = digits at h ⊢
  rw [List.take_append, hname, List.take_of_length_le (by omega), List.take_replicate,
    ← List.append_assoc]
  congr 3
  omega

theorem contentLengthLine_of_lt {size : Nat} (h : size < 1000000) :
    contentLengthLine size = "Content-Length:".toList ++
      (List.replicate (6 - (Nat.toDigits 10 size).length) ' ' ++ Nat.toDigits 10 size) := by
  have hlen : (Nat.toDigits 10 size).length ≤ 6 :=
    (Nat.length_toDigits_le_iff (by decide) (by decide)).2 h
  rw [← sizeToStr_of_lt h] at hlen ⊢
  exact contentLengthLine_of_length hlen

/-- The line is a Content-Length that says `size` as long as this has at most six digits: the
fifth fills the place and the sixth is written over the blank after the colon. -/
theorem contentLengthLine_iff (size : Nat) :
    (∃ value, contentLengthLine size = "Content-Length:".toList ++ value ∧
      lengthValue value = some size) ↔ size < 1000000 := by
  constructor
  · intro h
    obtain ⟨value, hline, hvalue⟩ := h
    have hlen := length_contentLengthLine size
    have hname : "Content-Length:".toList.length = 15 := rfl
    rw [hline, List.length_append, hname] at hlen
    have hsix : value.length = 6 := by omega
    have hlt := lengthValue_lt hvalue
    rw [hsix] at hlt
    exact hlt
  · intro h
    exact ⟨_, contentLengthLine_of_lt h, lengthValue_toDigits _ _⟩

end SipFields

/-! ### The lines of a serialisation -/

/-- What a header adds to the buffer; one that cannot be printed leaves its name there. -/
def emitted : Str × Except Int Str → Str
  | (name, .ok tmp) => name ++ textLine tmp
  | (name, .error _) => name

theorem emitted_ok (header : Str × Str) :
    emitted (header.1, .ok header.2) = SipFields.lineOf header ++ crlf := by
  rw [emitted, SipFields.lineOf, textLine, List.append_assoc]

namespace HeaderEntry

theorem strcatHeadersOnePerLine_emitted {headerName : Str} {headers : List (Except Int Str)}
    {text : Str} (h : strcatHeadersOnePerLine headerName headers = .ok text) :
    text = (headers.map (headerName, ·)).flatMap emitted := by
  induction headers generalizing text with
  | nil =>
      cases h
      rfl
  | cons toStr headers ih =>
      rw [strcatHeadersOnePerLine, exists_ok_bind] at h
      obtain ⟨line, hline, h⟩ := h
      rw [exists_ok_bind] at h
      obtain ⟨rest, hrest, h⟩ := h
      cases h
      rw [List.map_cons, List.flatMap_cons, ← ih hrest, hline, emitted]

theorem strcatSimpleHeader_emitted (entry : HeaderEntry) :
    entry.strcatSimpleHeader.2 = (entry.headerData.toList.map (entry.headerName, ·)).flatMap emitted := by
  unfold strcatSimpleHeader
  split
  · next hdata => rw [hdata]; rfl
  · next hdata => rw [hdata]; simp [emitted]
  · next hdata => rw [hdata]; simp [emitted]

theorem tableToStr_emitted {table : List HeaderEntry} {text : Str} (h : tableToStr table = .ok text) :
    text = (table.flatMap present).flatMap emitted := by
  induction table generalizing text with
  | nil =>
      cases h
      rfl
  | cons entry table ih =>
      rw [tableToStr, exists_ok_bind] at h
      obtain ⟨lines, hlines, h⟩ := h
      rw [exists_ok_bind] at h
      obtain ⟨rest, hrest, h⟩ := h
      cases h
      rw [List.flatMap_cons, List.flatMap_append, ← ih hrest, present, List.map_append,
        List.flatMap_append, ← strcatHeadersOnePerLine_emitted hlines, strcatSimpleHeader_emitted]

end HeaderEntry

theorem headersToStr_emitted {headers : List Header} {text : Str}
    (h : headersToStr headers = .ok text) :
    text = (headers.map fun header => (([] : Str), osipHeaderToStr header)).flatMap emitted := by
  induction headers generalizing text with
  | nil =>
      cases h
      rfl
  | cons header headers ih =>
      rw [headersToStr, exists_ok_bind] at h
      obtain ⟨line, hline, h⟩ := h
      rw [exists_ok_bind] at h
      obtain ⟨rest, hrest, h⟩ := h
      cases h
      rw [List.map_cons, List.flatMap_cons, ← ih hrest, hline, emitted, List.nil_append]

namespace SipFields

variable {sip : SipFields}

theorem bodiesToStr_length {boundary : Option Str} {bodies : List Body} {text : Str}
    (h : bodiesToStr boundary bodies = .ok text) : text.length = bodiesSize boundary bodies := by
  induction bodies generalizing text with
  | nil =>
      cases h
      simp [bodiesSize]
  | cons body bodies ih =>
      rw [bodiesToStr, exists_ok_bind] at h
      obtain ⟨line, hline, h⟩ := h
      rw [exists_ok_bind] at h
      obtain ⟨rest, hrest, h⟩ := h
      cases h
      have hlen := ih hrest
      rw [bodiesSize] at hlen ⊢
      rw [List.map_cons, List.sum_cons, List.length_append, List.length_append, hlen, hline]
      simp only [Except.toOption, Option.getD_some]
      omega

theorem headToStr_lines {head : Str} (h : sip.headToStr = .ok head) {headers : List (Str × Str)}
    (hpresent : sip.PresentTexts headers) :
    ∃ startline, sip.startlineToStr = .ok startline ∧
      head = unlines (cString startline :: headers.map lineOf) ++ "Content-Length: ".toList := by
  obtain ⟨startline, table, generic, hstart, htable, hgeneric, rfl⟩ := headToStr_eq_ok h
  have hlines : table ++ generic = unlines (headers.map lineOf) := by
    rw [HeaderEntry.tableToStr_emitted htable, headersToStr_emitted hgeneric,
      ← List.flatMap_append]
    have hmap : (fun header : Str × Str => emitted (header.1, .ok header.2)) =
        fun header => lineOf header ++ crlf := by
      funext header
      exact emitted_ok header
    have hall := congrArg (List.flatMap emitted) hpresent
    rw [List.flatMap_map, hmap] at hall
    rw [unlines, List.flatMap_map]
    exact hall
  refine ⟨startline, hstart, ?_⟩
  rw [unlines_cons, ← hlines]
  simp [textLine]

/-- The last line of the header section, and the bodies it gives the length of. -/
def Ending (sip : SipFields) (last rest : Str) : Prop :=
  (sip.bodies = [] ∧ last = "Content-Length: 0".toList ∧ rest = []) ∨
    (sip.bodies ≠ [] ∧ last = contentLengthLine rest.length ∧
      ∃ boundary, sip.boundary = .ok boundary ∧ rest.length = bodiesSize boundary sip.bodies)

theorem serialise_bodies {text : Str} (h : sip.serialise = .ok text) (hne : sip.bodies ≠ [])
    {headers : List (Str × Str)} (hpresent : sip.PresentTexts headers) :
    ∃ startline boundary rest, sip.startlineToStr = .ok startline ∧
      sip.boundary = .ok boundary ∧ bodiesToStr boundary sip.bodies = .ok rest ∧
      text = unlines (cString startline :: headers.map lineOf ++ [contentLengthLine rest.length]) ++
        crlf ++ rest := by
  obtain ⟨head, hhead, hrest⟩ := serialise_eq_ok.1 h
  obtain ⟨startline, hstart, hlines⟩ := headToStr_lines hhead hpresent
  cases hrest with
  | inl hrest => exact absurd hrest.1 hne
  | inr hrest =>
      obtain ⟨-, boundary, rest, hboundary, hbodies, htext⟩ := hrest
      refine ⟨startline, boundary, rest, hstart, hboundary, hbodies, ?_⟩
      rw [htext, hlines, withBodies_eq, unlines_append]
      simp

theorem serialise_lines {text : Str} (h : sip.serialise = .ok text) {headers : List (Str × Str)}
    (hpresent : sip.PresentTexts headers) :
    ∃ startline last rest, sip.startlineToStr = .ok startline ∧ sip.Ending last rest ∧
      text = unlines (cString startline :: headers.map lineOf ++ [last]) ++ crlf ++ rest := by
  by_cases hne : sip.bodies = []
  · obtain ⟨head, hhead, hrest⟩ := serialise_eq_ok.1 h
    obtain ⟨startline, hstart, hlines⟩ := headToStr_lines hhead hpresent
    refine ⟨startline, _, [], hstart, Or.inl ⟨hne, rfl, rfl⟩, ?_⟩
    cases hrest with
    | inl hrest =>
        rw [hrest.2, hlines, unlines_append]
        simp
    | inr hrest => exact absurd hne hrest.1
  · obtain ⟨startline, boundary, rest, hstart, hboundary, hbodies, htext⟩ :=
      serialise_bodies h hne hpresent
    exact ⟨startline, _, rest, hstart,
      Or.inr ⟨hne, rfl, boundary, hboundary, bodiesToStr_length hbodies⟩, htext⟩

/-- The last line says what follows unless the bodies are too long for its place. -/
theorem ending_iff {last rest : Str} (h : sip.Ending last rest) :
    (∃ value, last = "Content-Length:".toList ++ value ∧ lengthValue value = some rest.length) ↔
      ∀ boundary, sip.bodies ≠ [] → sip.boundary = .ok boundary →
        bodiesSize boundary sip.bodies < 1000000 := by
  cases h with
  | inl h =>
      obtain ⟨hnil, hlast, hrest⟩ := h
      constructor
      · intro _ boundary hne
        exact absurd hnil hne
      · intro _
        rw [hlast, hrest]
        exact ⟨" 0".toList, rfl, by decide⟩
  | inr h =>
      obtain ⟨hne, hlast, boundary, hboundary, hlen⟩ := h
      rw [hlast, contentLengthLine_iff, hlen]
      constructor
      · intro hlt boundary' _ hboundary'
        rw [hboundary] at hboundary'
        cases hboundary'
        exact hlt
      · intro hall
        exact hall boundary hne hboundary

theorem ending_cr {last rest : Str} (h : sip.Ending last rest) : '\r' ∉ last := by
  cases h with
  | inl h =>
      rw [h.2.1]
      decide
  | inr h =>
      rw [h.2.1, contentLengthLine, List.mem_append, not_or]
      constructor
      · intro hc
        exact absurd (List.mem_of_mem_take hc) (by decide)
      · exact sizeToStr_not_mem (by decide) _

theorem presentTexts_of_ok
    (h : ∀ name toStr, (name, toStr) ∈ sip.present → ∃ tmp, toStr = .ok tmp) :
    ∃ headers, sip.PresentTexts headers := by
  refine ⟨sip.present.map fun header => (header.1, header.2.toOption.getD []), ?_⟩
  rw [PresentTexts, List.map_map]
  symm
  calc
    _ = sip.present.map id := by
      apply List.map_congr_left
      intro header hmem
      obtain ⟨tmp, htmp⟩ := h header.1 header.2 hmem
      apply Prod.ext
      · rfl
      · simp [htmp, Except.toOption]
    _ = sip.present := List.map_id _

theorem append_cr_inj {a b u v : Str} (ha : '\r' ∉ a) (hb : '\r' ∉ b)
    (h : a ++ '\r' :: u = b ++ '\r' :: v) : a = b ∧ u = v := by
  induction a generalizing b with
  | nil =>
      cases b with
      | nil =>
          cases h
          exact ⟨rfl, rfl⟩
      | cons c b =>
          cases h
          exact absurd List.mem_cons_self hb
  | cons c a ih =>
      cases b with
      | nil =>
          cases h
          exact absurd List.mem_cons_self ha
      | cons d b =>
          rw [List.mem_cons, not_or] at ha hb
          rw [List.cons_append, List.cons_append, List.cons.injEq] at h
          obtain ⟨hab, huv⟩ := ih ha.2 hb.2 h.2
          exact ⟨by rw [h.1, hab], huv⟩

theorem framable_of_framed {text : Str} (htext : sip.serialise = .ok text)
    (h : sip.Framed text) : sip.Framable := by
  obtain ⟨startline, headers, value, head, rest, hsplit, hhead, hstart, hpresent, hunbroken,
    hheaders, hvalue⟩ := h
  constructor
  · by_contra hsimple
    obtain ⟨name, i, hmem⟩ := mem_present_of_not_simpleEncodes hsimple
    rw [hpresent, List.mem_map] at hmem
    obtain ⟨header, -, hheader⟩ := hmem
    cases hheader
  · intro startline' hstart'
    rw [hstart] at hstart'
    cases hstart'
    exact hunbroken
  · intro name tmp hmem
    rw [hpresent, List.mem_map] at hmem
    obtain ⟨header, hmem, hheader⟩ := hmem
    cases hheader
    exact hheaders header hmem
  · obtain ⟨startline', last, bodies, hstart', hending, hlines⟩ := serialise_lines htext hpresent
    rw [hstart] at hstart'
    cases hstart'
    have hsame : last ++ '\r' :: ('\n' :: crlf ++ bodies) =
        "Content-Length:".toList ++ value ++ '\r' :: ('\n' :: crlf ++ rest) := by
      have hread := splitEmptyLine_eq_some hsplit
      have hempty : head ++ emptyLine ++ rest = head ++ crlf ++ crlf ++ rest := by
        simp [emptyLine]
      rw [hempty, hhead, hlines, unlines_append, unlines_append] at hread
      simp only [List.append_assoc, List.append_cancel_left_eq] at hread
      simpa [unlines, crlf] using hread
    have hname : '\r' ∉ "Content-Length:".toList ++ value := by
      rw [List.mem_append, not_or]
      exact ⟨by decide, fun hc => (lengthValue_ne hvalue _ hc).1 rfl⟩
    obtain ⟨hlast, hrest⟩ := append_cr_inj (ending_cr hending) hname hsame
    have hbodies : bodies = rest := by simpa [crlf] using hrest
    rw [← hbodies] at hvalue
    exact (ending_iff hending).1 ⟨value, hlast, hvalue⟩

theorem fieldLine_contentLength {value : Str} {size : Nat} (h : lengthValue value = some size) :
    FieldLine ("Content-Length:".toList ++ value) "Content-Length".toList := by
  have hvalue : unbroken (value ++ []) = true := unbroken_append (lengthValue_ne h) rfl
  rw [List.append_nil] at hvalue
  exact ⟨by decide, List.all_eq_true.1 (by decide), [], value, rfl, by simp, hvalue⟩

theorem framed_of_framable {text : Str} (htext : sip.serialise = .ok text)
    (h : sip.Framable) : sip.Framed text := by
  have hrest := serialise_ok_iff.1 ⟨text, htext⟩
  obtain ⟨headers, hpresent⟩ := presentTexts_of_ok fun name toStr hmem =>
    ok_of_mem_present hrest h.simple hmem
  obtain ⟨startline, last, rest, hstart, hending, hlines⟩ := serialise_lines htext hpresent
  obtain ⟨value, hlast, hvalue⟩ := (ending_iff hending).2 h.bodies
  have hheaders : ∀ header ∈ headers, OtherField (lineOf header) := by
    intro header hmem
    apply h.headers header.1 header.2
    rw [hpresent]
    exact List.mem_map_of_mem hmem
  have hfields : ∀ line ∈ headers.map lineOf ++ [last], ∃ name, FieldLine line name := by
    intro line hline
    rw [List.mem_append, List.mem_map, List.mem_singleton] at hline
    cases hline with
    | inl hline =>
        obtain ⟨header, hmem, rfl⟩ := hline
        obtain ⟨name, hname, -⟩ := hheaders header hmem
        exact ⟨name, hname⟩
    | inr hline =>
        rw [hline, hlast]
        exact ⟨_, fieldLine_contentLength hvalue⟩
  obtain ⟨head, hsplit, hhead⟩ :=
    splitEmptyLine_unlines (h.startline startline hstart) hfields rest
  refine ⟨startline, headers, value, head, rest, ?_, ?_, hstart, hpresent,
    h.startline startline hstart, hheaders, hvalue⟩
  · rw [hlines]
    exact hsplit
  · rw [hhead, hlast]
    rfl

end SipFields

/-- The buffer is framed by its Content-Length exactly when the message is framable, or
cannot be printed at all. -/
theorem lengthExact_iff (sip : CoherentMessage) :
    LengthExact sip.toSipMessage ↔ (sip.fields.RestEncodes → sip.fields.Framable) := by
  rw [LengthExact, SipMessage.toStr_of_coherent sip.coherent]
  constructor
  · intro h hrest
    obtain ⟨text, htext⟩ := SipFields.serialise_ok_iff.2 hrest
    exact SipFields.framable_of_framed htext (h text htext)
  · intro h text htext
    exact SipFields.framed_of_framable htext (h (SipFields.serialise_ok_iff.1 ⟨text, htext⟩))

def payloadRequest (payload : Str) : SipMessage :=
  ⟨{ SipFields.init with
      sipMethod := some "MESSAGE".toList
      reqUri := some ⟨none, none, none, some "example.org".toList, none, [], [], none⟩
      bodies := [⟨payload, [], none⟩] }, 2, none, 0⟩

theorem payloadRequest_not_lengthExact {payload : Str} (hlen : 1000000 ≤ payload.length) :
    ¬ LengthExact (payloadRequest payload) := by
  have hne : payload ≠ [] := by
    intro hnil
    rw [hnil] at hlen
    cases hlen
  have hbody : Body.toStr ⟨payload, [], none⟩ = .ok payload := by
    rw [Body.toStr, if_neg hne]
    simp [Body.contentTypeToStr, headersToStr, bind, Except.bind]
  have hboundary : (payloadRequest payload).fields.boundary = .ok none := rfl
  have hsize : SipFields.bodiesSize none (payloadRequest payload).fields.bodies = payload.length := by
    simp [payloadRequest, SipFields.bodiesSize, SipFields.delimiter, SipFields.closeDelimiter,
      hbody, Except.toOption]
  have hrest : (payloadRequest payload).fields.RestEncodes := by
    refine ⟨⟨_, rfl⟩, ?_, ?_, ?_⟩
    · simp [SipFields.table, payloadRequest, SipFields.init, HeaderEntry.ofList,
        HeaderEntry.ofData, HeaderEntry.ListEncodes]
    · intro header hmem
      cases hmem
    · intro _
      refine ⟨⟨none, hboundary⟩, ?_⟩
      intro body hmem
      rw [List.mem_singleton.1 hmem]
      exact ⟨payload, hbody⟩
  intro h
  obtain ⟨text, htext⟩ := SipFields.serialise_ok_iff.2 hrest
  have htoStr : (payloadRequest payload).toStr.1 = .ok text := by
    rw [SipMessage.toStr_of_coherent (fun hvalid => by cases hvalid), htext]
  have hframable := SipFields.framable_of_framed htext (h text htoStr)
  have hlt := hframable.bodies none (List.cons_ne_nil _ _) hboundary
  rw [hsize] at hlt
  omega

/-- A body of a million bytes has a length of seven digits, the first of which is written over
the colon. -/
theorem megabyteRequest_not_lengthExact :
    ¬ LengthExact (payloadRequest (List.replicate 1000000 'a')) := by
  apply payloadRequest_not_lengthExact
  rw [List.length_replicate]

end Exosip
