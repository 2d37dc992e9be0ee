import Exosip.Parser.Parse
import Exosip.Parser.Part

/-! The header lines of a part with the one and with the other line end. -/
namespace Exosip

open CString
open SipMessage (isLineBreak indexOf nameAndValue msgHeadersParse)

/-- CRLF or LF. -/
inductive LineEnd where
  | crlf | lf
  deriving DecidableEq, Repr

def LineEnd.toStr : LineEnd → Str
  | crlf => Exosip.crlf
  | lf => ['\n']

namespace Body

/-- A header line of a part: it is no empty line and goes up to a line end. -/
structure PartLine where
  text : Str
  plain : Plain text
  ne_nil : text ≠ []

def linesText (lineEnd : LineEnd) (lines : List PartLine) (payload : Str) : Str :=
  lines.flatMap (fun line => line.text ++ lineEnd.toStr) ++ (lineEnd.toStr ++ payload)

namespace PartLine

def beforeColon (line : PartLine) : Str := line.text.takeWhile (· ≠ ':')

def behindColon (line : PartLine) : Str := (line.text.dropWhile (· ≠ ':')).drop 1

/-- The characters that `osip_body_parse_header` copies for the value: it takes every line end for
one of two characters. -/
def copied (lineEnd : LineEnd) (line : PartLine) : Str :=
  match lineEnd with
  | .crlf => line.behindColon
  | .lf => line.behindColon.dropLast

/-- There is a name, a colon, and a character to copy. -/
def HasField (lineEnd : LineEnd) (line : PartLine) : Prop :=
  ':' ∈ line.text ∧ line.text.head? ≠ some ':' ∧ line.copied lineEnd ≠ []

instance (lineEnd : LineEnd) (line : PartLine) : Decidable (line.HasField lineEnd) := by
  unfold HasField
  infer_instance

def name (line : PartLine) : Str := osipClrspace line.beforeColon

def isContentType (line : PartLine) : Bool := osipStrncasecmp line.name "content-type".toList 12

def value (lineEnd : LineEnd) (line : PartLine) : Str := osipClrspace (line.copied lineEnd)

end PartLine

/-! ### One line -/

theorem LineEnd.toStr_break {lineEnd : LineEnd} {c : Char} (h : c ∈ lineEnd.toStr) :
    c = '\r' ∨ c = '\n' := by
  cases lineEnd with
  | crlf => simpa [LineEnd.toStr, Exosip.crlf] using h
  | lf => exact Or.inr (List.mem_singleton.1 h)

theorem osipFindNextCrlf_lineEnd {text rest : Str} (h : Plain text) (lineEnd : LineEnd) :
    osipFindNextCrlf (text ++ (lineEnd.toStr ++ rest)) =
      if rest.head? = some ' ' ∨ rest.head? = some '\t' then .error (-2)
      else .ok (text.length + lineEnd.toStr.length) := by
  have hhead : rest[0]? = rest.head? := List.head?_eq_getElem?.symm
  cases lineEnd with
  | crlf =>
      have hnext : ('\n' :: rest)[1]? = rest[0]? := List.getElem?_cons_succ
      show osipFindNextCrlf (text ++ '\r' :: '\n' :: rest) = _
      rw [osipFindNextCrlf_append h]
      dsimp only
      rw [List.getElem?_cons_zero, if_pos rfl, hnext, hhead]
      rfl
  | lf =>
      have hfind : (cString (text ++ '\n' :: rest)).findIdx? (fun c => c == '\r' || c == '\n') =
          some text.length := by
        apply findIdx?_cString
        · intro c hc
          exact ⟨by simp [(h c hc).1, (h c hc).2.1], (h c hc).2.2⟩
        · rfl
        · decide
      have hget (i : Nat) : (text ++ '\n' :: rest)[text.length + i]? = ('\n' :: rest)[i]? := by
        rw [List.getElem?_append_right (Nat.le_add_right _ _), Nat.add_sub_cancel_left]
      have hlf : (text ++ '\n' :: rest)[text.length]? = some '\n' := hget 0
      have hnext : (text ++ '\n' :: rest)[text.length + 1]? = rest.head? := by
        rw [hget 1, List.getElem?_cons_succ, hhead]
      have hnot : ¬ (some '\n' = some '\r' ∧ rest.head? = some '\n') := fun h => by
        cases h.1
      show osipFindNextCrlf (text ++ '\n' :: rest) = _
      rw [osipFindNextCrlf, hfind]
      dsimp only
      rw [hlf, hnext, if_neg hnot, hnext]
      rfl

theorem findIdx?_colon_behind {text rest : Str} (hplain : Plain text) (h : ':' ∉ text)
    (lineEnd : LineEnd) {colon : Nat}
    (hfind : (cString (text ++ (lineEnd.toStr ++ rest))).findIdx? (· == ':') = some colon) :
    text.length + lineEnd.toStr.length ≤ colon := by
  have hbreak {c : Char} (hc : c ∈ lineEnd.toStr) : c ≠ '\x00' ∧ c ≠ ':' := by
    obtain rfl | rfl := LineEnd.toStr_break hc <;> decide
  have hline : ∀ c ∈ text ++ lineEnd.toStr, (c != '\x00') = true ∧ ¬ (c == ':') = true := by
    intro c hc
    rw [bne_iff_ne, beq_iff_eq]
    rw [List.mem_append] at hc
    cases hc with
    | inl hc => exact ⟨(hplain c hc).2.2, fun hcolon => h (hcolon ▸ hc)⟩
    | inr hc => exact hbreak hc
  have hnone : (text ++ lineEnd.toStr).findIdx? (· == ':') = none := by
    rw [List.findIdx?_eq_none_iff]
    intro c hc
    exact Bool.eq_false_iff.2 (hline c hc).2
  rw [← List.append_assoc, cString, List.takeWhile_append_of_pos fun c hc => (hline c hc).1,
    List.findIdx?_append, hnone, Option.none_or, Option.map_eq_some_iff] at hfind
  obtain ⟨i, -, rfl⟩ := hfind
  rw [List.length_append]
  omega

theorem PartLine.text_eq {line : PartLine} (h : ':' ∈ line.text) :
    line.text = line.beforeColon ++ ':' :: line.behindColon := by
  have hdrop : line.text.dropWhile (· ≠ ':') ≠ [] := by
    rw [Ne, List.dropWhile_eq_nil_iff]
    intro hall
    simpa using hall ':' h
  have hhead := List.head_dropWhile_not (· ≠ ':') hdrop
  rw [decide_eq_false_iff_not, not_not] at hhead
  have hcons : line.text.dropWhile (· ≠ ':') = ':' :: line.behindColon := by
    conv_lhs => rw [← List.cons_head_tail hdrop, hhead, ← List.drop_one]
    rfl
  rw [← hcons, beforeColon, List.takeWhile_append_dropWhile]

theorem PartLine.findIdx?_colon {line : PartLine} (h : ':' ∈ line.text) (rest : Str) :
    (cString (line.text ++ rest)).findIdx? (· == ':') =
      some line.beforeColon.length := by
  conv_lhs => rw [line.text_eq h, List.append_assoc, List.cons_append]
  apply findIdx?_cString
  · intro c hc
    have hcolon := List.mem_takeWhile_imp hc
    exact ⟨by simpa using hcolon, (line.plain c ((List.takeWhile_sublist _).subset hc)).2.2⟩
  · rfl
  · decide

theorem takeWhile_colon_eq_nil {text : Str} :
    text.takeWhile (· ≠ ':') = [] ↔ text = [] ∨ text.head? = some ':' := by
  cases text with
  | nil => exact iff_of_true rfl (Or.inl rfl)
  | cons c text =>
      rw [List.takeWhile_cons, List.head?_cons, Option.some.injEq]
      by_cases hc : c = ':'
      · simp [hc]
      · simp [hc]

theorem PartLine.hasField_iff {line : PartLine} {lineEnd : LineEnd} :
    line.HasField lineEnd ↔ ':' ∈ line.text ∧ 1 ≤ line.beforeColon.length ∧
      3 ≤ line.behindColon.length + lineEnd.toStr.length := by
  have hname : 1 ≤ line.beforeColon.length ↔ line.text.head? ≠ some ':' := by
    rw [Nat.one_le_iff_ne_zero, Ne, List.length_eq_zero_iff, beforeColon, takeWhile_colon_eq_nil,
      not_or, and_iff_right line.ne_nil]
  have hcopied : 3 ≤ line.behindColon.length + lineEnd.toStr.length ↔
      line.copied lineEnd ≠ [] := by
    rw [← List.length_pos_iff]
    cases lineEnd with
    | crlf =>
        show 3 ≤ line.behindColon.length + 2 ↔ 0 < line.behindColon.length
        omega
    | lf =>
        show 3 ≤ line.behindColon.length + 1 ↔ 0 < line.behindColon.dropLast.length
        rw [List.length_dropLast]
        omega
  rw [HasField, hname, hcopied]

theorem PartLine.take_behindColon (line : PartLine) (lineEnd : LineEnd) (rest : Str) :
    (line.behindColon ++ (lineEnd.toStr ++ rest)).take
        (line.behindColon.length + lineEnd.toStr.length - 2) = line.copied lineEnd := by
  cases lineEnd with
  | crlf =>
      show (line.behindColon ++ _).take (line.behindColon.length + 2 - 2) = line.behindColon
      rw [Nat.add_sub_cancel, List.take_left]
  | lf =>
      show (line.behindColon ++ _).take (line.behindColon.length + 1 - 2) =
        line.behindColon.dropLast
      rw [List.take_append_of_le_length (by omega), List.dropLast_eq_take]
      rfl

section Colon

variable {line : PartLine} (h : ':' ∈ line.text) (rest : Str)
include h

theorem PartLine.drop_text :
    (line.text ++ rest).drop (line.beforeColon.length + 1) = line.behindColon ++ rest := by
  rw [line.text_eq h, List.append_assoc, ← List.drop_drop, List.drop_left]
  rfl

theorem PartLine.take_text :
    (line.text ++ rest).take line.beforeColon.length = line.beforeColon := by
  rw [line.text_eq h, List.append_assoc, List.take_left]

theorem PartLine.length_text :
    line.text.length = line.beforeColon.length + (line.behindColon.length + 1) := by
  rw [line.text_eq h, List.length_append, List.length_cons]

end Colon

theorem headerLine_lineEnd (line : PartLine) (lineEnd : LineEnd) (rest : Str) :
    headerLine (line.text ++ (lineEnd.toStr ++ rest))
        (line.text.length + lineEnd.toStr.length) =
      if line.HasField lineEnd then .ok (line.name, line.value lineEnd)
      else .error osipSyntaxerror := by
  rw [headerLine]
  by_cases hcolon : ':' ∈ line.text
  · have hlength := line.length_text hcolon
    have hcount : line.text.length + lineEnd.toStr.length - 2 - line.beforeColon.length - 1 =
        line.behindColon.length + lineEnd.toStr.length - 2 := by omega
    rw [line.findIdx?_colon hcolon]
    dsimp only
    rw [osipClrncpy, osipClrncpy, line.take_text hcolon, line.drop_text hcolon, hcount,
      line.take_behindColon]
    by_cases hfield : line.HasField lineEnd
    · obtain ⟨-, hpos, hbehind⟩ := PartLine.hasField_iff.1 hfield
      rw [if_pos hfield, if_neg (by omega), if_neg (by omega)]
      rfl
    · have hnot := mt PartLine.hasField_iff.2 hfield
      rw [if_neg hfield]
      by_cases hpos : line.beforeColon.length < 1
      · rw [if_pos hpos]
      · rw [if_neg hpos, if_pos]
        by_contra hlong
        exact hnot ⟨hcolon, by omega, by omega⟩
  · rw [if_neg fun hfield => hcolon hfield.1]
    split
    · rfl
    · next colon hfind =>
        have hbehind := findIdx?_colon_behind line.plain hcolon lineEnd hfind
        by_cases hpos : colon < 1
        · rw [if_pos hpos]
        · rw [if_neg hpos, if_pos (by omega)]

/-- Where the value of a header line of the message ends: `msg_headers_parse` looks whether the
line end is of two characters. -/
theorem lineEnd_eq (line : PartLine) (lineEnd : LineEnd) (rest : Str) :
    (if ((line.text ++ (lineEnd.toStr ++ rest))[line.text.length + lineEnd.toStr.length - 2]?).any
        isLineBreak then line.text.length + lineEnd.toStr.length - 2
      else line.text.length + lineEnd.toStr.length - 1) = line.text.length := by
  cases lineEnd with
  | crlf =>
      have hcr : (line.text ++ (LineEnd.crlf.toStr ++ rest))[line.text.length]? = some '\r' := by
        rw [List.getElem?_append_right (Nat.le_refl _), Nat.sub_self]
        rfl
      show (if ((line.text ++ _)[line.text.length]?).any isLineBreak then line.text.length
        else line.text.length + 1) = line.text.length
      rw [hcr]
      exact if_pos rfl
  | lf =>
      have hpos := List.length_pos_iff.2 line.ne_nil
      have hlast : ((line.text ++ (LineEnd.lf.toStr ++ rest))[line.text.length + 1 - 2]?).any
          isLineBreak = false := by
        rw [List.getElem?_append_left (by omega), List.getElem?_eq_getElem (by omega),
          Option.any_some]
        have hplain := line.plain _ (List.getElem_mem (show line.text.length + 1 - 2 <
          line.text.length by omega))
        rw [isLineBreak, Bool.or_eq_false_iff, beq_eq_false_iff_ne, beq_eq_false_iff_ne]
        exact ⟨hplain.1, hplain.2.1⟩
      show (if ((line.text ++ _)[line.text.length + 1 - 2]?).any isLineBreak then
        line.text.length + 1 - 2 else line.text.length) = line.text.length
      rw [hlast, if_neg Bool.false_ne_true]

theorem nameAndValue_lineEnd (line : PartLine) (lineEnd : LineEnd) (rest : Str) :
    nameAndValue (line.text ++ (lineEnd.toStr ++ rest))
        (line.text.length + lineEnd.toStr.length) =
      if ':' ∈ line.text ∧ 1 ≤ line.beforeColon.length then
        .ok (line.name, if line.behindColon = [] then none
          else some (osipClrspace line.behindColon))
      else .error osipSyntaxerror := by
  rw [nameAndValue, indexOf]
  dsimp only
  rw [lineEnd_eq]
  by_cases hcolon : ':' ∈ line.text
  · have hlength := line.length_text hcolon
    have hcount : line.text.length - line.beforeColon.length - 1 = line.behindColon.length := by
      omega
    have hempty : line.text.length < line.beforeColon.length + 2 ↔ line.behindColon = [] := by
      rw [← List.length_eq_zero_iff]
      omega
    rw [line.findIdx?_colon hcolon]
    simp only [ok_bind]
    rw [osipClrncpy, osipClrncpy, line.take_text hcolon, line.drop_text hcolon, hcount,
      List.take_left]
    simp only [hempty]
    have hbehind : ¬ line.text.length + lineEnd.toStr.length ≤ line.beforeColon.length := by omega
    by_cases hpos : line.beforeColon.length < 1
    · rw [if_pos hpos, if_neg fun hname => absurd hname.2 (by omega)]
    · have hname : ':' ∈ line.text ∧ 1 ≤ line.beforeColon.length := ⟨hcolon, by omega⟩
      rw [if_neg hpos, if_neg hbehind]
      exact (if_pos hname).symm
  · rw [if_neg fun hfield => hcolon hfield.1]
    cases hfind : (cString (line.text ++ (lineEnd.toStr ++ rest))).findIdx? (· == ':') with
    | none => rfl
    | some colon =>
        have hbehind := findIdx?_colon_behind line.plain hcolon lineEnd hfind
        simp only [ok_bind]
        rw [if_pos hbehind]
        exact ite_self _

/-! ### The lines of the part -/

/-- The line would continue the one before it. -/
def PartLine.isFolded (line : PartLine) : Prop :=
  line.text.head? = some ' ' ∨ line.text.head? = some '\t'

instance (line : PartLine) : Decidable line.isFolded := by
  unfold PartLine.isFolded
  infer_instance

/-- There are header lines, each has a field, and none but the first begins with a blank. -/
structure Readable (lineEnd : LineEnd) (lines : List PartLine) : Prop where
  ne_nil : lines ≠ []
  field : ∀ line ∈ lines, line.HasField lineEnd
  unfolded : ∀ line ∈ lines.tail, ¬ line.isFolded

def fields (lineEnd : LineEnd) (lines : List PartLine) : List (Str × Str) :=
  lines.map fun line => (line.name, line.copied lineEnd)

variable {lineEnd : LineEnd} {line : PartLine} {lines : List PartLine} {payload : Str}

theorem linesText_cons : linesText lineEnd (line :: lines) payload =
    line.text ++ (lineEnd.toStr ++ linesText lineEnd lines payload) := by
  simp only [linesText, List.flatMap_cons, List.append_assoc]

theorem drop_linesText : (linesText lineEnd (line :: lines) payload).drop
    (line.text.length + lineEnd.toStr.length) = linesText lineEnd lines payload := by
  rw [linesText_cons, ← List.append_assoc, ← List.length_append, List.drop_left]

theorem atLineBreak_lineEnd (lineEnd : LineEnd) (s : Str) :
    atLineBreak (lineEnd.toStr ++ s) = true := by
  cases lineEnd <;> rfl

theorem PartLine.head?_append (line : PartLine) (s : Str) :
    (line.text ++ s).head? = line.text.head? := by
  obtain ⟨c, text, htext⟩ := List.exists_cons_of_ne_nil line.ne_nil
  rw [htext]
  rfl

theorem PartLine.atLineBreak_text (line : PartLine) (s : Str) :
    atLineBreak (line.text ++ s) = false := by
  obtain ⟨c, text, htext⟩ := List.exists_cons_of_ne_nil line.ne_nil
  have hplain := line.plain c (by rw [htext]; exact List.mem_cons_self)
  rw [atLineBreak, htext]
  show (some c == some '\r' || some c == some '\n') = false
  rw [Bool.or_eq_false_iff, beq_eq_false_iff_ne, beq_eq_false_iff_ne, Ne, Ne, Option.some.injEq,
    Option.some.injEq]
  exact ⟨hplain.1, hplain.2.1⟩

theorem head?_linesText : ((linesText lineEnd lines payload).head? = some ' ' ∨
    (linesText lineEnd lines payload).head? = some '\t') ↔
      ∃ line, lines.head? = some line ∧ line.isFolded := by
  cases lines with
  | nil =>
      refine iff_of_false ?_ fun h => ?_
      · cases lineEnd <;> simp [linesText, LineEnd.toStr, Exosip.crlf]
      · obtain ⟨line, hline, -⟩ := h
        cases hline
  | cons line lines =>
      rw [linesText_cons, line.head?_append]
      constructor
      · intro h
        exact ⟨line, rfl, h⟩
      · rintro ⟨line, hline, h⟩
        cases hline
        exact h

theorem osipFindNextCrlf_linesText : osipFindNextCrlf (linesText lineEnd (line :: lines) payload) =
    if ∃ line, lines.head? = some line ∧ line.isFolded then .error (-2)
    else .ok (line.text.length + lineEnd.toStr.length) := by
  rw [linesText_cons, osipFindNextCrlf_lineEnd line.plain]
  simp only [head?_linesText]

theorem osipFindNextCrlf_payload : osipFindNextCrlf (linesText lineEnd [] payload) =
    if payload.head? = some ' ' ∨ payload.head? = some '\t' then .error (-2)
    else .ok lineEnd.toStr.length := by
  have hnil : Plain [] := fun c hc => by cases hc
  have hbreak := @osipFindNextCrlf_lineEnd [] payload hnil lineEnd
  rwa [List.length_nil, Nat.zero_add] at hbreak

theorem readable_singleton : Readable lineEnd [line] ↔ line.HasField lineEnd := by
  constructor
  · intro h
    exact h.field line List.mem_cons_self
  · intro h
    refine ⟨List.cons_ne_nil _ _, fun other hother => ?_, fun other hother => ?_⟩
    · rw [List.mem_singleton.1 hother]
      exact h
    · cases hother

theorem readable_cons (next : PartLine) : Readable lineEnd (line :: next :: lines) ↔
    line.HasField lineEnd ∧ ¬ next.isFolded ∧ Readable lineEnd (next :: lines) := by
  constructor
  · intro h
    have hfield := List.forall_mem_cons.1 h.field
    have hunfolded := List.forall_mem_cons.1 h.unfolded
    exact ⟨hfield.1, hunfolded.1, List.cons_ne_nil _ _, hfield.2, hunfolded.2⟩
  · rintro ⟨hfield, hunfolded, h⟩
    exact ⟨List.cons_ne_nil _ _, List.forall_mem_cons.2 ⟨hfield, h.field⟩,
      List.forall_mem_cons.2 ⟨hunfolded, h.unfolded⟩⟩

theorem parseHeader_line {fuel : Nat} {body : Body} {result : Body × Str} :
    parseHeader (fuel + 1) body (linesText lineEnd (line :: lines) payload) = .ok result ↔
      (¬ ∃ next, lines.head? = some next ∧ next.isFolded) ∧ line.HasField lineEnd ∧
        ∃ stored, storeHeader body line.name (line.value lineEnd) = .ok stored ∧
          if lines = [] then result = (stored, lineEnd.toStr ++ payload)
          else parseHeader fuel stored (linesText lineEnd lines payload) = .ok result := by
  have hfield := headerLine_lineEnd line lineEnd (linesText lineEnd lines payload)
  rw [← linesText_cons] at hfield
  rw [parseHeader, endOfLine, osipFindNextCrlf_linesText]
  by_cases hfold : ∃ next, lines.head? = some next ∧ next.isFolded
  · rw [if_pos hfold]
    refine iff_of_false (fun h => ?_) fun h => h.1 hfold
    cases h
  · rw [if_neg hfold, and_iff_right hfold]
    simp only [ok_bind, hfield, drop_linesText]
    by_cases hline : line.HasField lineEnd
    · rw [if_pos hline, and_iff_right hline]
      simp only [ok_bind]
      rw [exists_ok_bind]
      apply exists_congr
      intro stored
      rw [and_congr_right_iff]
      intro hstored
      cases lines with
      | nil =>
          have hbreak : atLineBreak (linesText lineEnd [] payload) = true :=
            atLineBreak_lineEnd lineEnd payload
          rw [hbreak, if_pos rfl, if_pos rfl, Except.ok.injEq]
          exact eq_comm
      | cons next lines =>
          have hbreak : atLineBreak (linesText lineEnd (next :: lines) payload) = false := by
            rw [linesText_cons]
            exact next.atLineBreak_text _
          rw [hbreak, if_neg Bool.false_ne_true, if_neg (List.cons_ne_nil _ _)]
    · rw [if_neg hline]
      refine iff_of_false (fun h => ?_) fun h => hline h.1
      cases h

theorem parseHeader_linesText {fuel : Nat} {body : Body} {result : Body × Str}
    (hfuel : lines.length < fuel) :
    parseHeader fuel body (linesText lineEnd (line :: lines) payload) = .ok result ↔
      Readable lineEnd (line :: lines) ∧ storeLines (fields lineEnd (line :: lines)) body =
        .ok result.1 ∧ result.2 = lineEnd.toStr ++ payload := by
  induction lines generalizing fuel body line with
  | nil =>
      obtain ⟨fuel, rfl⟩ := Nat.exists_eq_add_one_of_ne_zero (Nat.ne_of_gt hfuel)
      have hnext : ¬ ∃ next, ([] : List PartLine).head? = some next ∧ next.isFolded := by
        rintro ⟨next, hnext, -⟩
        cases hnext
      have hstore : storeLines (fields lineEnd [line]) body =
          storeHeader body line.name (line.value lineEnd) := by
        show (storeHeader body line.name (line.value lineEnd) >>= .ok) = _
        cases storeHeader body line.name (line.value lineEnd) <;> rfl
      rw [parseHeader_line, readable_singleton, and_iff_right hnext, hstore]
      simp only [if_true, Prod.ext_iff]
      rw [and_congr_right_iff]
      intro hfield
      constructor
      · rintro ⟨stored, hstored, rfl, hrest⟩
        exact ⟨hstored, hrest⟩
      · rintro ⟨hstored, hrest⟩
        exact ⟨result.1, hstored, rfl, hrest⟩
  | cons next lines ih =>
      obtain ⟨fuel, rfl⟩ := Nat.exists_eq_add_one_of_ne_zero (Nat.ne_zero_of_lt hfuel)
      have hfuel : lines.length < fuel := Nat.lt_of_succ_lt_succ hfuel
      have hnext : (∃ other, (next :: lines).head? = some other ∧ other.isFolded) ↔
          next.isFolded := by simp
      have hstore : storeLines (fields lineEnd (line :: next :: lines)) body = .ok result.1 ↔
          ∃ stored, storeHeader body line.name (line.value lineEnd) = .ok stored ∧
            storeLines (fields lineEnd (next :: lines)) stored = .ok result.1 := exists_ok_bind
      rw [parseHeader_line, readable_cons, hnext, hstore]
      simp only [if_neg (List.cons_ne_nil next lines), ih hfuel]
      constructor
      · rintro ⟨hfold, hfield, stored, hstored, hreadable, hstore, hrest⟩
        exact ⟨⟨hfield, hfold, hreadable⟩, ⟨stored, hstored, hstore⟩, hrest⟩
      · rintro ⟨⟨hfield, hfold, hreadable⟩, ⟨stored, hstored, hstore⟩, hrest⟩
        exact ⟨hfold, hfield, stored, hstored, hreadable, hstore, hrest⟩

theorem parseMime_linesText_nil (body : Body) :
    parseMime (linesText lineEnd [] payload) ≠ .ok body := by
  intro h
  rw [parseMime, exists_ok_bind] at h
  obtain ⟨result, hheader, -⟩ := h
  have hshort : lineEnd.toStr.length < 4 := by cases lineEnd <;> decide
  rw [parseHeader, exists_ok_bind] at hheader
  obtain ⟨next, hnext, hheader⟩ := hheader
  rw [exists_ok_bind] at hheader
  obtain ⟨field, hfield, -⟩ := hheader
  have hnext : next < 4 := by
    rw [endOfLine, osipFindNextCrlf_payload] at hnext
    by_cases hblank : payload.head? = some ' ' ∨ payload.head? = some '\t'
    · rw [if_pos hblank] at hnext
      cases hnext
    · rw [if_neg hblank] at hnext
      cases hnext
      omega
  rw [headerLine] at hfield
  split at hfield
  · cases hfield
  · next colon _ =>
      by_cases hcolon : colon < 1
      · rw [if_pos hcolon] at hfield
        cases hfield
      · rw [if_neg hcolon, if_pos (by omega)] at hfield
        cases hfield

/-! ### What is stored -/

def ContentTypesParse (lineEnd : LineEnd) (lines : List PartLine) : Prop :=
  ∀ line ∈ lines, line.isContentType = true →
    (ContentType.parse (line.value lineEnd)).isOk = true

def ownHeaders (lineEnd : LineEnd) (lines : List PartLine) : List Header :=
  (lines.filter fun line => !line.isContentType).map fun line =>
    ⟨some line.name, some (line.value lineEnd)⟩

def lastContentType (lines : List PartLine) : Option PartLine :=
  (lines.filter PartLine.isContentType).getLast?

def withLines (lineEnd : LineEnd) (lines : List PartLine) (body : Body) : Body :=
  { body with
    headers := body.headers ++ ownHeaders lineEnd lines
    contentType := match lastContentType lines with
      | none => body.contentType
      | some line => (ContentType.parse (line.value lineEnd)).toOption }

theorem withLines_header {body : Body} (h : line.isContentType = false) :
    withLines lineEnd lines (setHeader body line.name (line.value lineEnd)) =
      withLines lineEnd (line :: lines) body := by
  have hown : ownHeaders lineEnd (line :: lines) =
      ⟨some line.name, some (line.value lineEnd)⟩ :: ownHeaders lineEnd lines := by
    rw [ownHeaders, List.filter_cons_of_pos (by rw [h]; rfl), List.map_cons, ownHeaders]
  have hlast : lastContentType (line :: lines) = lastContentType lines := by
    rw [lastContentType, List.filter_cons_of_neg (Bool.eq_false_iff.1 h), lastContentType]
  rw [withLines, withLines, hown, hlast, List.append_cons]
  rfl

theorem withLines_contentType {body : Body} {contentType : ContentType}
    (h : line.isContentType = true)
    (hparse : ContentType.parse (line.value lineEnd) = .ok contentType) :
    withLines lineEnd lines { body with contentType := some contentType } =
      withLines lineEnd (line :: lines) body := by
  have hown : ownHeaders lineEnd (line :: lines) = ownHeaders lineEnd lines := by
    rw [ownHeaders, List.filter_cons_of_neg (by rw [h]; exact Bool.false_ne_true), ownHeaders]
  have hlast : lastContentType (line :: lines) = some ((lastContentType lines).getD line) := by
    rw [lastContentType, List.filter_cons_of_pos h, List.getLast?_cons, lastContentType]
  rw [withLines, withLines, hown, hlast]
  cases lastContentType lines with
  | none =>
      dsimp only [Option.getD_none]
      rw [hparse]
      rfl
  | some last => rfl

theorem storeLines_eq_ok {body body' : Body} :
    storeLines (fields lineEnd lines) body = .ok body' ↔
      ContentTypesParse lineEnd lines ∧ body' = withLines lineEnd lines body := by
  induction lines generalizing body with
  | nil =>
      have hparse : ContentTypesParse lineEnd [] := fun line hline => by cases hline
      have hsame : withLines lineEnd [] body = body := by
        simp [withLines, ownHeaders, lastContentType]
      rw [and_iff_right hparse, hsame, fields, List.map_nil, storeLines, Except.ok.injEq]
      exact eq_comm
  | cons line lines ih =>
      have hstep : storeLines (fields lineEnd (line :: lines)) body = .ok body' ↔
          ∃ stored, storeHeader body line.name (line.value lineEnd) = .ok stored ∧
            storeLines (fields lineEnd lines) stored = .ok body' := exists_ok_bind
      have hparse : ContentTypesParse lineEnd (line :: lines) ↔
          (line.isContentType = true → (ContentType.parse (line.value lineEnd)).isOk = true) ∧
            ContentTypesParse lineEnd lines := List.forall_mem_cons
      rw [hstep, hparse]
      simp only [ih]
      cases hkind : line.isContentType with
      | false =>
          have hstore : storeHeader body line.name (line.value lineEnd) =
              .ok (setHeader body line.name (line.value lineEnd)) :=
            if_neg (Bool.eq_false_iff.1 hkind)
          rw [hstore]
          simp only [Except.ok.injEq, exists_eq_left', withLines_header hkind]
          rw [and_iff_right fun h => absurd h Bool.false_ne_true]
      | true =>
          have hstore : storeHeader body line.name (line.value lineEnd) =
              setContenttype body (line.value lineEnd) := if_pos hkind
          rw [hstore, setContenttype]
          cases hcontentType : ContentType.parse (line.value lineEnd) with
          | error i =>
              refine iff_of_false (fun h => ?_) fun h => ?_
              · obtain ⟨stored, hstored, -⟩ := h
                cases hstored
              · exact absurd (h.1.1 rfl) Bool.false_ne_true
          | ok contentType =>
              have hok : true = true → (Except.ok contentType : Except Int ContentType).isOk =
                  true := fun _ => rfl
              rw [and_iff_right hok]
              simp only [ok_bind, Except.ok.injEq, exists_eq_left',
                withLines_contentType hkind hcontentType]

/-! ### The two line ends -/

/-- The part is read. -/
structure Accepted (lineEnd : LineEnd) (lines : List PartLine) (payload : Str) : Prop where
  readable : Readable lineEnd lines
  payload_ne : payload ≠ []
  contentTypes : ContentTypesParse lineEnd lines

theorem length_lt_linesText : lines.length < (linesText lineEnd lines payload).length + 1 := by
  have hlines : lines.length ≤ (lines.flatMap fun line => line.text ++ lineEnd.toStr).length := by
    induction lines with
    | nil => exact Nat.zero_le _
    | cons line lines ih =>
        have hpos := List.length_pos_iff.2 line.ne_nil
        rw [List.flatMap_cons, List.length_cons, List.length_append, List.length_append]
        omega
  rw [linesText, List.length_append]
  omega

theorem parseMime_linesText {body : Body} :
    parseMime (linesText lineEnd lines payload) = .ok body ↔
      Accepted lineEnd lines payload ∧
        body = { withLines lineEnd lines init with body := payload } := by
  cases lines with
  | nil => exact iff_of_false (parseMime_linesText_nil body) fun h => h.1.readable.ne_nil rfl
  | cons line lines =>
      have hskip : skipEmptyLine (lineEnd.toStr ++ payload) = .ok payload := by
        cases lineEnd <;> rfl
      have hlength : (line :: lines).length <
          (linesText lineEnd (line :: lines) payload).length + 1 := length_lt_linesText
      have hfuel := Nat.lt_of_succ_lt hlength
      rw [parseMime, exists_ok_bind]
      simp only [parseHeader_linesText hfuel, storeLines_eq_ok]
      constructor
      · rintro ⟨⟨stored, rest⟩, ⟨hreadable, ⟨hparse, rfl⟩, rfl⟩, h⟩
        simp only [hskip, ok_bind] at h
        by_cases hpayload : payload = []
        · rw [if_pos hpayload] at h
          cases h
        · rw [if_neg hpayload] at h
          cases h
          exact ⟨⟨hreadable, hpayload, hparse⟩, rfl⟩
      · rintro ⟨haccepted, rfl⟩
        refine ⟨⟨withLines lineEnd (line :: lines) init, lineEnd.toStr ++ payload⟩,
          ⟨haccepted.readable, ⟨haccepted.contentTypes, rfl⟩, rfl⟩, ?_⟩
        simp only [hskip, ok_bind]
        exact if_neg haccepted.payload_ne

def readHeaders (lineEnd : LineEnd) (lines : List PartLine) (payload : Str) :
    Option (List Header × Option ContentType) :=
  (parseMime (linesText lineEnd lines payload)).toOption.map fun body =>
    (body.headers, body.contentType)

theorem readHeaders_accepted (h : Accepted lineEnd lines payload) :
    readHeaders lineEnd lines payload = some (ownHeaders lineEnd lines,
      (lastContentType lines).bind fun line =>
        (ContentType.parse (line.value lineEnd)).toOption) := by
  rw [readHeaders, parseMime_linesText.2 ⟨h, rfl⟩]
  show some (_, _) = _
  rw [withLines]
  cases lastContentType lines <;> rfl

theorem readHeaders_refused (h : ¬ Accepted lineEnd lines payload) :
    readHeaders lineEnd lines payload = none := by
  rw [readHeaders]
  cases hparse : parseMime (linesText lineEnd lines payload) with
  | error i => rfl
  | ok body => exact absurd (parseMime_linesText.1 hparse).1 h

def PartLine.endsInBlank (line : PartLine) : Prop := line.behindColon.getLast?.any isBlank = true

/-- The character that is not copied from a line that ends in LF is one that would have been
trimmed. -/
theorem PartLine.value_eq_iff (h : line.HasField .lf) :
    line.value .lf = line.value .crlf ↔ line.endsInBlank := by
  have hne : line.behindColon ≠ [] := fun hnil => h.2.2 (by rw [copied, hnil]; rfl)
  have hsplit := List.dropLast_append_getLast hne
  show osipClrspace line.behindColon.dropLast = osipClrspace line.behindColon ↔ _
  conv_lhs => rw [eq_comm, ← hsplit, List.dropLast_concat]
  rw [osipClrspace_append_eq_iff, endsInBlank, List.getLast?_eq_some_getLast hne]
  simp

theorem ownHeaders_eq_iff (h : ∀ line ∈ lines, line.HasField .lf) :
    ownHeaders .lf lines = ownHeaders .crlf lines ↔
      ∀ line ∈ lines, line.isContentType = false → line.endsInBlank := by
  rw [ownHeaders, ownHeaders, List.map_inj_left]
  constructor
  · intro hsame line hline hkind
    have hmem : line ∈ lines.filter fun line => !line.isContentType :=
      List.mem_filter.2 ⟨hline, by rw [hkind]; rfl⟩
    have hvalue := congrArg Header.hvalue (hsame line hmem)
    exact (PartLine.value_eq_iff (h line hline)).1 (Option.some.inj hvalue)
  · intro hblank line hmem
    obtain ⟨hline, hkind⟩ := List.mem_filter.1 hmem
    rw [(PartLine.value_eq_iff (h line hline)).2 (hblank line hline (by simpa using hkind))]

/-- Each header line but those of the content type ends in a blank, and the content type that
stays parses to the same with and without its last character. -/
structure Trimmed (lines : List PartLine) : Prop where
  own : ∀ line ∈ lines, line.isContentType = false → line.endsInBlank
  contentType : ∀ line, lastContentType lines = some line →
    ContentType.parse (line.value .lf) = ContentType.parse (line.value .crlf)

/-- Both content types that stay parse, so that they are the same when their results are. -/
theorem lastContentType_eq_iff (hlf : Accepted .lf lines payload)
    (hcrlf : Accepted .crlf lines payload) :
    ((lastContentType lines).bind fun line => (ContentType.parse (line.value .lf)).toOption) =
        ((lastContentType lines).bind fun line =>
          (ContentType.parse (line.value .crlf)).toOption) ↔
      ∀ line, lastContentType lines = some line →
        ContentType.parse (line.value .lf) = ContentType.parse (line.value .crlf) := by
  cases hlast : lastContentType lines with
  | none => exact iff_of_true rfl fun line h => by cases h
  | some line =>
      obtain ⟨hline, hkind⟩ := List.mem_filter.1 (List.mem_of_getLast? hlast)
      have hokLf := hlf.contentTypes line hline hkind
      have hokCrlf := hcrlf.contentTypes line hline hkind
      simp only [Option.bind_some, Option.some.injEq, forall_eq']
      cases hparseLf : ContentType.parse (line.value .lf) with
      | error i =>
          rw [hparseLf] at hokLf
          cases hokLf
      | ok lf =>
          cases hparseCrlf : ContentType.parse (line.value .crlf) with
          | error i =>
              rw [hparseCrlf] at hokCrlf
              cases hokCrlf
          | ok crlf =>
              rw [Except.ok.injEq]
              exact Option.some_inj

theorem readHeaders_eq_iff : readHeaders .lf lines payload = readHeaders .crlf lines payload ↔
    (¬ Accepted .lf lines payload ∧ ¬ Accepted .crlf lines payload) ∨
      (Accepted .lf lines payload ∧ Accepted .crlf lines payload ∧ Trimmed lines) := by
  by_cases hlf : Accepted .lf lines payload
  · by_cases hcrlf : Accepted .crlf lines payload
    · have hcontentType := lastContentType_eq_iff hlf hcrlf
      rw [readHeaders_accepted hlf, readHeaders_accepted hcrlf, Option.some.injEq, Prod.mk.injEq,
        ownHeaders_eq_iff hlf.readable.field, hcontentType]
      constructor
      · rintro ⟨hown, hlast⟩
        exact Or.inr ⟨hlf, hcrlf, hown, hlast⟩
      · rintro (h | ⟨-, -, h⟩)
        · exact absurd hlf h.1
        · exact ⟨h.own, h.contentType⟩
    · rw [readHeaders_accepted hlf, readHeaders_refused hcrlf]
      refine iff_of_false (Option.some_ne_none _) ?_
      rintro (h | h)
      · exact h.1 hlf
      · exact hcrlf h.2.1
  · by_cases hcrlf : Accepted .crlf lines payload
    · rw [readHeaders_refused hlf, readHeaders_accepted hcrlf]
      refine iff_of_false (Option.some_ne_none _).symm ?_
      rintro (h | h)
      · exact h.2 hcrlf
      · exact hlf h.1
    · rw [readHeaders_refused hlf, readHeaders_refused hcrlf]
      exact iff_of_true rfl (Or.inl ⟨hlf, hcrlf⟩)

/-! ### The header lines of the message -/

/-- What `nameAndValue` makes of a header line. -/
def PartLine.nameAndValue (line : PartLine) : Except Int (Str × Option Str) :=
  if ':' ∈ line.text ∧ 1 ≤ line.beforeColon.length then
    .ok (line.name, if line.behindColon = [] then none else some (osipClrspace line.behindColon))
  else .error osipSyntaxerror

theorem cString_ne_nil {c : Char} (h : c ≠ '\x00') (s : Str) : cString (c :: s) ≠ [] := by
  rw [cString, List.takeWhile_cons, if_pos (bne_iff_ne.2 h)]
  exact List.cons_ne_nil _ _

theorem msgHeadersParse_line (parsers : MessageParsers) (fuel : Nat) (sip : SipMessage) :
    msgHeadersParse parsers (fuel + 1) sip (linesText lineEnd (line :: lines) payload) =
      if ∃ next, lines.head? = some next ∧ next.isFolded then .error osipSyntaxerror
      else (do
        let (hname, hvalue) ← line.nameAndValue
        match SipMessage.setMultipleHeader parsers sip hname hvalue with
        | .error _ => .error osipSyntaxerror
        | .ok sip => msgHeadersParse parsers fuel sip (linesText lineEnd lines payload)) := by
  have hfield := nameAndValue_lineEnd line lineEnd (linesText lineEnd lines payload)
  rw [← linesText_cons] at hfield
  have hbreak : atLineBreak (linesText lineEnd (line :: lines) payload) = false := by
    rw [linesText_cons]
    exact line.atLineBreak_text _
  have hnul : cString (linesText lineEnd (line :: lines) payload) ≠ [] := by
    obtain ⟨c, text, htext⟩ := List.exists_cons_of_ne_nil line.ne_nil
    rw [linesText_cons, htext]
    exact cString_ne_nil (line.plain c (by rw [htext]; exact List.mem_cons_self)).2.2 _
  rw [msgHeadersParse, if_neg hnul, osipFindNextCrlf_linesText, hbreak]
  by_cases hfold : ∃ next, lines.head? = some next ∧ next.isFolded
  · rw [if_pos hfold, if_pos hfold]
    exact if_neg fun h => Bool.false_ne_true h.2
  · rw [if_neg hfold, if_neg hfold]
    simp only [hfield, drop_linesText]
    rw [if_neg Bool.false_ne_true]
    rfl

theorem msgHeadersParse_nil (parsers : MessageParsers) (fuel : Nat) (sip : SipMessage) :
    (msgHeadersParse parsers (fuel + 1) sip (linesText lineEnd [] payload)).map Prod.fst =
      .ok sip := by
  have hat : atLineBreak (linesText lineEnd [] payload) = true :=
    atLineBreak_lineEnd lineEnd payload
  have hnul : cString (linesText lineEnd [] payload) ≠ [] := by
    cases lineEnd with
    | crlf => exact cString_ne_nil (by decide) _
    | lf => exact cString_ne_nil (by decide) _
  rw [msgHeadersParse, if_neg hnul, osipFindNextCrlf_payload, hat]
  by_cases hblank : payload.head? = some ' ' ∨ payload.head? = some '\t'
  · rw [if_pos hblank]
    rfl
  · rw [if_neg hblank]
    rfl

theorem msgHeadersParse_lineEnd (parsers : MessageParsers) (fuel : Nat) (sip : SipMessage)
    (lines : List PartLine) (payload : Str) :
    (msgHeadersParse parsers fuel sip (linesText .lf lines payload)).map Prod.fst =
      (msgHeadersParse parsers fuel sip (linesText .crlf lines payload)).map Prod.fst := by
  induction fuel generalizing sip lines with
  | zero => rfl
  | succ fuel ih =>
      cases lines with
      | nil => rw [msgHeadersParse_nil, msgHeadersParse_nil]
      | cons line lines =>
          rw [msgHeadersParse_line, msgHeadersParse_line]
          by_cases hfold : ∃ next, lines.head? = some next ∧ next.isFolded
          · rw [if_pos hfold, if_pos hfold]
          · rw [if_neg hfold, if_neg hfold]
            cases line.nameAndValue with
            | error i => rfl
            | ok field =>
                simp only [ok_bind]
                cases SipMessage.setMultipleHeader parsers sip field.1 field.2 with
                | error i => rfl
                | ok sip => exact ih sip lines

/-- The header fields of the part are the same with either line end, as those of the message are. -/
structure ReadsSame (lines : List PartLine) (payload : Str) : Prop where
  part : readHeaders .lf lines payload = readHeaders .crlf lines payload
  message : ∀ parsers fuel sip,
    (msgHeadersParse parsers fuel sip (linesText .lf lines payload)).map Prod.fst =
      (msgHeadersParse parsers fuel sip (linesText .crlf lines payload)).map Prod.fst

theorem readsSame_iff (lines : List PartLine) (payload : Str) : ReadsSame lines payload ↔
    (¬ Accepted .lf lines payload ∧ ¬ Accepted .crlf lines payload) ∨
      (Accepted .lf lines payload ∧ Accepted .crlf lines payload ∧ Trimmed lines) := by
  rw [← readHeaders_eq_iff]
  constructor
  · intro h
    exact h.part
  · intro h
    exact ⟨h, fun parsers fuel sip => msgHeadersParse_lineEnd parsers fuel sip lines payload⟩

theorem not_readsSame : ¬ ∀ lines payload, ReadsSame lines payload := by
  intro h
  have hpart := (h [⟨"Subject: v".toList, by decide, by decide⟩] "x".toList).part
  exact absurd hpart (by decide)

end Body
end Exosip
