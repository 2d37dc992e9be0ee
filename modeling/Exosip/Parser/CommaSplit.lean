import Mathlib.Data.List.Induction
import Exosip.Parser.Parse
import Exosip.Parser.Quote

/-! `osip_message_set_multiple_header`: the commas at which it splits the value of a header,
beside those that are outside of quoted strings and brackets. -/
namespace Exosip

open CString

/-! ### Scanners -/

/-- The texts between the marked characters, trimmed; one without a character is left out. -/
def splitMarked (beg : Str) : List (Char × Bool) → List Str
  | [] => if beg = [] then [] else [osipClrspace beg]
  | (c, marked) :: rest =>
      if marked then
        if beg = [] then splitMarked [] rest else osipClrspace beg :: splitMarked [] rest
      else splitMarked (beg ++ [c]) rest

/-- A scanner: its next state, which may depend on what follows, and whether a comma separates. -/
structure CommaScanner (σ : Type) where
  next : σ → Char → Str → σ
  outside : σ → Bool

namespace CommaScanner

variable {σ τ : Type}

def marks (scanner : CommaScanner σ) : σ → Str → List (Char × Bool)
  | _, [] => []
  | state, c :: rest =>
      (c, c == ',' && scanner.outside state) :: scanner.marks (scanner.next state c rest) rest

/-- The state behind `front`, when `rest` follows. -/
def after (scanner : CommaScanner σ) : σ → Str → Str → σ
  | state, [], _ => state
  | state, c :: front, rest => scanner.after (scanner.next state c (front ++ rest)) front rest

/-- Only a character that is no blank and no comma leads inside. -/
def Opens (scanner : CommaScanner σ) : Prop :=
  ∀ state c rest, scanner.outside state = true → scanner.outside (scanner.next state c rest) = false →
    isBlank c = false ∧ c ≠ ','

theorem after_concat (scanner : CommaScanner σ) (state : σ) (front : Str) (c : Char) (rest : Str) :
    scanner.after state (front ++ [c]) rest =
      scanner.next (scanner.after state front (c :: rest)) c rest := by
  induction front generalizing state with
  | nil => rfl
  | cons d front ih =>
      rw [List.cons_append, after, after, ih, List.append_assoc, List.singleton_append]

theorem splitMarked_begins (marked : List (Char × Bool)) {beg : Str} (h : beg ≠ []) :
    ∃ more rest, splitMarked beg marked = osipClrspace (beg ++ more) :: rest := by
  induction marked generalizing beg with
  | nil => exact ⟨[], [], by rw [splitMarked, if_neg h, List.append_nil]⟩
  | cons entry marked ih =>
      obtain ⟨c, mark⟩ := entry
      rw [splitMarked]
      split_ifs
      · exact ⟨[], _, by rw [List.append_nil]⟩
      · obtain ⟨more, rest, hrest⟩ := ih (List.append_ne_nil_of_right_ne_nil beg (List.cons_ne_nil c []))
        exact ⟨c :: more, rest, by rw [hrest, List.append_assoc, List.singleton_append]⟩

theorem splitMarked_ne {beg : Str} (h : ∃ c ∈ beg, isBlank c = false) (marked marked' : List (Char × Bool)) :
    splitMarked beg ((',', true) :: marked) ≠ splitMarked beg ((',', false) :: marked') := by
  have hne : beg ≠ [] := by
    rintro rfl
    simp at h
  obtain ⟨more, rest, hrest⟩ := splitMarked_begins marked'
    (List.append_ne_nil_of_left_ne_nil hne [','])
  rw [splitMarked, if_pos rfl, if_neg hne, splitMarked, if_neg Bool.false_ne_true, hrest,
    List.append_assoc, List.singleton_append]
  intro heq
  -- a comma more makes another element
  have hblank := osipClrspace_append_eq_iff.1 (List.cons.inj heq).1.symm ',' List.mem_cons_self
  cases hblank

theorem splitMarked_eq_iff {first : CommaScanner σ} {second : CommaScanner τ} (hfirst : first.Opens)
    (hsecond : second.Opens) {s : σ} {t : τ} {beg : Str} (text : Str)
    (hs : first.outside s = false → ∃ c ∈ beg, isBlank c = false)
    (ht : second.outside t = false → ∃ c ∈ beg, isBlank c = false) :
    splitMarked beg (first.marks s text) = splitMarked beg (second.marks t text) ↔
      ∀ front rest, text = front ++ ',' :: rest →
        first.outside (first.after s front (',' :: rest)) =
          second.outside (second.after t front (',' :: rest)) := by
  induction text generalizing s t beg with
  | nil => simp [marks]
  | cons c text ih =>
      have hcases : (∀ front rest, c :: text = front ++ ',' :: rest →
          first.outside (first.after s front (',' :: rest)) =
            second.outside (second.after t front (',' :: rest))) ↔
          (c = ',' → first.outside s = second.outside t) ∧ ∀ front rest, text = front ++ ',' :: rest →
            first.outside (first.after (first.next s c text) front (',' :: rest)) =
              second.outside (second.after (second.next t c text) front (',' :: rest)) := by
        constructor
        · intro h
          refine ⟨fun hc => h [] text (by rw [hc]; rfl), fun front rest htext => ?_⟩
          have hfront := h (c :: front) rest (by rw [htext]; rfl)
          rw [after, after, ← htext] at hfront
          exact hfront
        · rintro ⟨hc, h⟩ front rest htext
          cases front with
          | nil =>
              obtain ⟨rfl, rfl⟩ := List.cons.inj htext
              exact hc rfl
          | cons d front =>
              obtain ⟨rfl, rfl⟩ := List.cons.inj htext
              exact h front rest rfl
      have hnext : ∀ {υ : Type} {scanner : CommaScanner υ} {state : υ}, scanner.Opens →
          (scanner.outside state = false → ∃ d ∈ beg, isBlank d = false) →
            scanner.outside (scanner.next state c text) = false →
              ∃ d ∈ beg ++ [c], isBlank d = false := by
        intro υ scanner state hopens hstate hinside
        cases houtside : scanner.outside state with
        | true => exact ⟨c, by simp, (hopens state c text houtside hinside).1⟩
        | false =>
            obtain ⟨d, hd, hblank⟩ := hstate houtside
            exact ⟨d, List.mem_append_left _ hd, hblank⟩
      rw [hcases, marks, marks]
      by_cases hc : c = ','
      · subst hc
        simp only [beq_self_eq_true, Bool.true_and, forall_const]
        cases houts : first.outside s with
        | false =>
            cases houtt : second.outside t with
            | false =>
                rw [splitMarked, splitMarked, if_neg Bool.false_ne_true, if_neg Bool.false_ne_true,
                  ih (hnext hfirst hs) (hnext hsecond ht)]
                simp
            | true =>
                exact iff_of_false (splitMarked_ne (hs houts) _ _).symm (by simp)
        | true =>
            cases houtt : second.outside t with
            | false => exact iff_of_false (splitMarked_ne (ht houtt) _ _) (by simp)
            | true =>
                have hstill : ∀ {υ : Type} {scanner : CommaScanner υ} {state : υ}, scanner.Opens →
                    scanner.outside state = true →
                      scanner.outside (scanner.next state ',' text) = false →
                        ∃ d ∈ ([] : Str), isBlank d = false := by
                  intro υ scanner state hopens hstate hinside
                  exact absurd rfl (hopens state ',' text hstate hinside).2
                have hrest := ih (hstill hfirst houts) (hstill hsecond houtt)
                rw [splitMarked, splitMarked, if_pos rfl, if_pos rfl]
                split_ifs
                · rw [hrest]
                  simp
                · rw [List.cons_inj_right, hrest]
                  simp
      · have hcomma : (c == ',') = false := beq_eq_false_iff_ne.2 hc
        rw [hcomma, Bool.false_and, Bool.false_and, splitMarked, splitMarked, if_neg Bool.false_ne_true,
          if_neg Bool.false_ne_true, ih (hnext hfirst hs) (hnext hsecond ht)]
        simp [hc]

end CommaScanner

/-! ### The scanner of the parser -/

structure QuoteState where
  inquotes : Bool
  inuri : Bool
  deriving DecidableEq, Repr

/-- The scanner of `osip_message_set_multiple_header`. -/
def quoteScanner : CommaScanner QuoteState where
  next state c ptr :=
    { inquotes := if c = '"' then !state.inquotes else state.inquotes
      inuri :=
        if c = '<' ∧ ¬ state.inquotes then state.inuri || SipMessage.opensUri (c :: ptr)
        else if c = '>' ∧ ¬ state.inquotes then false
        else state.inuri }
  outside state := !state.inquotes && !state.inuri

/-- The values that are handed to `osip_message_set__header`. -/
def handedOn (hname value : Str) : List Str :=
  if ',' ∉ value ∨ (SipMessage.commaHeaders.map String.toList).contains hname then [value]
  else splitMarked [] (quoteScanner.marks ⟨false, false⟩ value)

section HandedOn

variable (parsers : MessageParsers)

theorem splitValues_eq (hname : Str) (sip : SipMessage) (beg : Str) (state : QuoteState) (hvalue : Str) :
    sip.splitValues parsers hname beg state.inquotes state.inuri hvalue =
      (splitMarked beg (quoteScanner.marks state hvalue)).foldlM
        (fun sip value => sip.setOneHeader parsers hname (some value)) sip := by
  induction hvalue generalizing sip beg state with
  | nil =>
      rw [SipMessage.splitValues, CommaScanner.marks, splitMarked, osipClrncpy, List.take_length]
      split_ifs
      · rfl
      · rw [List.foldlM_cons]
        cases sip.setOneHeader parsers hname (some (osipClrspace beg)) with
        | error i => rfl
        | ok stored => rfl
  | cons c ptr ih =>
      rw [SipMessage.splitValues, CommaScanner.marks, splitMarked, osipClrncpy, List.take_length]
      have hstate := fun sip beg => ih sip beg (quoteScanner.next state c ptr)
      by_cases hsep : c = ',' ∧ ¬ state.inquotes = true ∧ ¬ state.inuri = true
      · have hmark : (c == ',' && quoteScanner.outside state) = true := by
          simpa [quoteScanner] using hsep
        have hsame : quoteScanner.next state c ptr = state := by
          obtain ⟨rfl, -⟩ := hsep
          rfl
        rw [hsame] at hstate
        rw [if_pos hsep, hmark, if_pos rfl, hsame]
        split_ifs
        · exact hstate sip []
        · rw [List.foldlM_cons]
          cases sip.setOneHeader parsers hname (some (osipClrspace beg)) with
          | error i => rfl
          | ok stored => exact hstate stored []
      · have hmark : (c == ',' && quoteScanner.outside state) = false := by
          rw [Bool.eq_false_iff]
          simpa [quoteScanner] using hsep
        rw [if_neg hsep, hmark, if_neg Bool.false_ne_true]
        exact hstate sip (beg ++ [c])

theorem setMultipleHeader_eq (sip : SipMessage) (hname value : Str) :
    sip.setMultipleHeader parsers hname (some value) =
      (handedOn (hname.map tolower) value).foldlM
        (fun sip value => sip.setOneHeader parsers (hname.map tolower) (some value)) sip := by
  unfold SipMessage.setMultipleHeader handedOn
  simp only [List.contains_iff_mem]
  split_ifs
  · rw [List.foldlM_cons]
    cases sip.setOneHeader parsers (hname.map tolower) (some value) with
    | error i => rfl
    | ok stored => rfl
  · exact splitValues_eq parsers (hname.map tolower) sip [] ⟨false, false⟩ value

end HandedOn

/-! ### Quoted strings and brackets -/

/-- Where a comma may stand. -/
inductive Region where
  | outside
  | quoted (escaped : Bool)
  | bracket
  deriving DecidableEq, Repr

/-- A quoted string ends at a quote that is not escaped, brackets at the next '>'; without its end
neither has begun. -/
def regionScanner : CommaScanner Region where
  next
    | .outside, c, rest =>
        if c = '"' ∧ (findQuote false rest).isSome then .quoted false
        else if c = '<' ∧ '>' ∈ rest then .bracket
        else .outside
    | .quoted true, _, _ => .quoted false
    | .quoted false, c, _ => if c = '\\' then .quoted true else if c = '"' then .outside else .quoted false
    | .bracket, c, _ => if c = '>' then .outside else .bracket
  outside region := region == .outside

def listElements (value : Str) : List Str :=
  if ',' ∉ value then [osipClrspace value]
  else splitMarked [] (regionScanner.marks .outside value)

/-- The comma behind `front` is in a quoted string or in brackets. -/
def InsideRegion (front rest : Str) : Prop := regionScanner.after .outside front (',' :: rest) ≠ .outside

def OddQuotes (front : Str) : Prop := front.count '"' % 2 = 1

/-- A '<' before the comma, behind an even number of quotes, has one of the five schemes and a '>'
behind it, and no '>' closes it behind an even number of quotes. -/
def UriOpen (front rest : Str) : Prop :=
  ∃ a b, front = a ++ '<' :: b ∧ ¬ OddQuotes a ∧ SipMessage.opensUri ('<' :: (b ++ rest)) = true ∧
    ∀ b' b'', b = b' ++ '>' :: b'' → OddQuotes (a ++ '<' :: b')

/-- At every comma the count of quotes and the five schemes tell what is inside. -/
def KnowsCommas (value : Str) : Prop :=
  ∀ front rest, value = front ++ ',' :: rest →
    (OddQuotes front ∨ UriOpen front (',' :: rest) ↔ InsideRegion front rest)

theorem oddQuotes_concat (front : Str) (c : Char) :
    OddQuotes (front ++ [c]) ↔ if c = '"' then ¬ OddQuotes front else OddQuotes front := by
  unfold OddQuotes
  rw [List.count_append]
  split_ifs with hc
  · rw [hc, List.count_singleton_self]
    omega
  · rw [List.count_singleton, if_neg (by simpa using hc), Nat.add_zero]

theorem uriOpen_concat (front : Str) (c : Char) (rest : Str) :
    UriOpen (front ++ [c]) rest ↔
      c = '<' ∧ ¬ OddQuotes front ∧ SipMessage.opensUri (c :: rest) = true ∨
        UriOpen front (c :: rest) ∧ ¬ (c = '>' ∧ ¬ OddQuotes front) := by
  constructor
  · rintro ⟨a, b, hsplit, hodd, hopens, hclosed⟩
    obtain rfl | ⟨b, d, rfl⟩ := b.eq_nil_or_concat
    · obtain ⟨rfl, hc⟩ := List.append_inj' hsplit rfl
      cases hc
      exact Or.inl ⟨rfl, hodd, hopens⟩
    · rw [List.concat_eq_append] at hsplit hopens hclosed
      have hsplit' : front ++ [c] = (a ++ '<' :: b) ++ [d] := by
        rw [hsplit, List.append_assoc, List.cons_append]
      obtain ⟨rfl, hc⟩ := List.append_inj' hsplit' rfl
      cases hc
      refine Or.inr ⟨⟨a, b, rfl, hodd, by simpa using hopens, fun b' b'' hb => ?_⟩, ?_⟩
      · exact hclosed b' (b'' ++ [c]) (by rw [hb, List.append_assoc, List.cons_append])
      · rintro ⟨rfl, hfront⟩
        exact hfront (hclosed b [] rfl)
  · rintro (⟨rfl, hodd, hopens⟩ | ⟨⟨a, b, rfl, hodd, hopens, hclosed⟩, hc⟩)
    · exact ⟨front, [], rfl, hodd, hopens, fun b' b'' hb => absurd hb (by simp)⟩
    · refine ⟨a, b ++ [c], by rw [List.append_assoc, List.cons_append], hodd, by simpa using hopens,
        fun b' b'' hb => ?_⟩
      obtain rfl | ⟨b'', d, rfl⟩ := b''.eq_nil_or_concat
      · obtain ⟨rfl, hd⟩ := List.append_inj' hb rfl
        cases hd
        by_contra hfront
        exact hc ⟨rfl, hfront⟩
      · rw [List.concat_eq_append] at hb
        have hb' : b ++ [c] = (b' ++ '>' :: b'') ++ [d] := by
          rw [hb, List.append_assoc, List.cons_append]
        exact hclosed b' b'' (List.append_inj' hb' rfl).1

theorem quoteScanner_after (front rest : Str) :
    ((quoteScanner.after ⟨false, false⟩ front rest).inquotes = true ↔ OddQuotes front) ∧
      ((quoteScanner.after ⟨false, false⟩ front rest).inuri = true ↔ UriOpen front rest) := by
  induction front using List.reverseRecOn generalizing rest with
  | nil => simp [CommaScanner.after, OddQuotes, UriOpen]
  | append_singleton front c ih =>
      obtain ⟨hquotes, huri⟩ := ih (c :: rest)
      rw [CommaScanner.after_concat, oddQuotes_concat, uriOpen_concat, ← hquotes, ← huri]
      obtain ⟨inquotes, inuri⟩ := quoteScanner.after ⟨false, false⟩ front (c :: rest)
      dsimp only [quoteScanner]
      constructor
      · split_ifs
        · simp
        · rfl
      · by_cases hlt : c = '<'
        · subst hlt
          cases inquotes <;> simp [or_comm]
        · by_cases hgt : c = '>'
          · subst hgt
            cases inquotes <;> simp
          · simp [hlt, hgt]

theorem quoteScanner_opens : quoteScanner.Opens := by
  rintro ⟨inquotes, inuri⟩ c rest houtside hinside
  have hnot : inquotes = false ∧ inuri = false := by simpa [quoteScanner] using houtside
  obtain ⟨rfl, rfl⟩ := hnot
  by_cases hquote : c = '"'
  · subst hquote
    exact ⟨rfl, by decide⟩
  · by_cases hlt : c = '<'
    · subst hlt
      exact ⟨rfl, by decide⟩
    · simp [quoteScanner, hquote, hlt] at hinside

theorem regionScanner_opens : regionScanner.Opens := by
  intro region c rest houtside hinside
  have hregion : region = .outside := by simpa [regionScanner] using houtside
  subst hregion
  by_cases hquote : c = '"'
  · subst hquote
    exact ⟨rfl, by decide⟩
  · by_cases hlt : c = '<'
    · subst hlt
      exact ⟨rfl, by decide⟩
    · simp [regionScanner, hquote, hlt] at hinside

/-- The values of the header are those of `handedOn` in turn; they are its elements exactly when
the scanner knows its commas. -/
theorem multipleHeader_splits_iff {hname value : Str} (htrim : osipClrspace value = value) :
    (∀ parsers sip, SipMessage.setMultipleHeader parsers sip hname (some value) =
      (handedOn (hname.map tolower) value).foldlM
        (fun sip value => SipMessage.setOneHeader parsers sip (hname.map tolower) (some value)) sip) ∧
      (hname.map tolower ∈ SipMessage.commaHeaders.map String.toList →
        handedOn (hname.map tolower) value = [value]) ∧
      (hname.map tolower ∉ SipMessage.commaHeaders.map String.toList →
        (handedOn (hname.map tolower) value = listElements value ↔ KnowsCommas value)) := by
  refine ⟨fun parsers sip => setMultipleHeader_eq parsers sip hname value,
    fun hname => if_pos (Or.inr (List.contains_iff_mem.2 hname)), fun hname => ?_⟩
  unfold handedOn listElements KnowsCommas
  by_cases hcomma : ',' ∈ value
  · rw [if_neg (by simp [hcomma, hname]), if_neg (not_not.2 hcomma),
      CommaScanner.splitMarked_eq_iff quoteScanner_opens regionScanner_opens value (by simp [quoteScanner])
        (by simp [regionScanner])]
    refine forall_congr' fun front => forall_congr' fun rest => imp_congr_right fun _ => ?_
    obtain ⟨hquotes, huri⟩ := quoteScanner_after front (',' :: rest)
    rw [InsideRegion, ← hquotes, ← huri]
    obtain ⟨inquotes, inuri⟩ := quoteScanner.after ⟨false, false⟩ front (',' :: rest)
    cases regionScanner.after Region.outside front (',' :: rest) <;>
      cases inquotes <;> cases inuri <;> simp [quoteScanner, regionScanner]
  · rw [if_pos (Or.inl hcomma), if_pos hcomma, htrim]
    refine iff_of_true rfl fun front rest hvalue => absurd ?_ hcomma
    rw [hvalue]
    exact List.mem_append_right front List.mem_cons_self

theorem knowsCommas_contact :
    KnowsCommas "\"Bob, B\" <sip:b@b.com;a=1,2>, <tel:1>".toList :=
  ((@multipleHeader_splits_iff "contact".toList "\"Bob, B\" <sip:b@b.com;a=1,2>, <tel:1>".toList
    (by decide)).2.2 (by decide)).1 (by decide)

/-- An escaped quote turns the rest of the value inside out: two contacts are one. -/
theorem handedOn_escapedQuote :
    osipClrspace "\"a\\\"b\" <sip:b@b.com>, <tel:1>".toList =
        "\"a\\\"b\" <sip:b@b.com>, <tel:1>".toList ∧
      "contact".toList ∉ SipMessage.commaHeaders.map String.toList ∧
      handedOn "contact".toList "\"a\\\"b\" <sip:b@b.com>, <tel:1>".toList ≠
        listElements "\"a\\\"b\" <sip:b@b.com>, <tel:1>".toList := by
  refine ⟨by decide, by decide, by decide⟩

end Exosip
