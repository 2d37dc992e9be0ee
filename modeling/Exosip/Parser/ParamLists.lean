import Exosip.Parser.Quote
import Exosip.Parser.UriSegments

/-! `__osip_generic_param_parseall` in two steps: where the scanner cuts the list of parameters,
and what each piece is read as. Only the last piece is read by other rules. -/
namespace Exosip

open CString
open Machine

namespace GenericParam

/-! ### The pieces -/

/-- The text of each parameter, without its ';'. -/
def cut : Nat → Str → List Str
  | 0, _ => []
  | fuel + 1, params =>
      match (nextParam params).2 with
      | none => [params.tail]
      | some comma => osipStrncpy params.tail (pointerDiff comma params - 1) :: cut fuel comma

def pieces (params : Str) : List Str := cut (params.length + 1) params

/-- A parameter that is not the last one: blanks are a value. -/
def readPiece (piece : Str) : Option GenericParam :=
  if segmentName piece = [] then none
  else
    match segmentValue piece with
    | none => some (set piece none)
    | some value =>
        if (value.dropWhile fun c => c == '\t' || c == ' ').head? = some ',' then
          some (set (segmentName piece) none)
        else if value = [] then none
        else some (set (segmentName piece) (some value))

/-- The last one, which may be empty, as may its value. -/
def readLastPiece (piece : Str) : Option (List GenericParam) :=
  if piece = [] then some []
  else if segmentName piece = [] then none
  else
    match segmentValue piece with
    | none => some [set piece none]
    | some value =>
        let tmp := value.dropWhile fun c => c == '\t' || c == ' '
        if tmp.head? = some ',' ∨ tmp = [] then some [set (segmentName piece) none]
        else some [set (segmentName piece) (some value)]

def readPieces : List Str → Option (List GenericParam)
  | [] => some []
  | [piece] => readLastPiece piece
  | piece :: pieces => do
      let param ← readPiece piece
      let params ← readPieces pieces
      some (param :: params)

theorem cut_fuel {n m : Nat} {params : Str} (hn : params.length < n) (hm : params.length < m) :
    cut n params = cut m params := by
  induction n generalizing m params with
  | zero => omega
  | succ n ih =>
      obtain ⟨m, rfl⟩ := Nat.exists_eq_succ_of_ne_zero (by omega : m ≠ 0)
      rw [cut, cut]
      rcases hnext : nextParam params with ⟨equal, (_ | comma)⟩
      · rfl
      · have hlt := nextParam_length_lt hnext
        dsimp only
        congr 1
        exact ih (by omega) (by omega)

theorem pieces_eq (params : Str) :
    pieces params =
      match (nextParam params).2 with
      | none => [params.tail]
      | some comma => osipStrncpy params.tail (pointerDiff comma params - 1) :: pieces comma := by
  rw [pieces, cut]
  rcases hnext : nextParam params with ⟨equal, (_ | comma)⟩
  · rfl
  · have hlt := nextParam_length_lt hnext
    dsimp only
    congr 1
    exact cut_fuel hlt (Nat.lt_succ_self _)

def quotedValue (piece : Str) : Option Str :=
  (segmentValue piece).bind fun value =>
    if (value.dropWhile (· == ' ')).head? = some '"' then some (value.dropWhile (· == ' ')).tail
    else none

theorem segmentValue_append {piece : Str} (h : '=' ∈ piece) (rest : Str) :
    segmentValue (piece ++ rest) = (segmentValue piece).map (· ++ rest) := by
  obtain ⟨hequal, -, -⟩ | ⟨name, value, rfl, hequal, -, hvalue⟩ := segment_cases piece
  · exact absurd h hequal
  · rw [hvalue, Option.map_some, List.append_assoc, List.cons_append,
      segmentValue_append_equal hequal]

/-- The next ';' does not begin a quoted value. -/
theorem quotedValue_append {piece rest : Str} (h : '=' ∈ piece) (hrest : rest.head? = some ';') :
    quotedValue (piece ++ rest) = (quotedValue piece).map (· ++ rest) := by
  obtain ⟨rest, rfl⟩ := List.head?_eq_some_iff.1 hrest
  rw [quotedValue, segmentValue_append h, quotedValue]
  cases segmentValue piece with
  | none => rfl
  | some value =>
      rw [Option.map_some, Option.bind_some, Option.bind_some, List.dropWhile_append]
      cases htmp : value.dropWhile (· == ' ') with
      | nil => rfl
      | cons c quoted =>
          rw [List.isEmpty_cons, if_neg Bool.false_ne_true, List.cons_append, List.head?_cons,
            List.head?_cons, List.tail_cons, List.tail_cons]
          split_ifs
          · rfl
          · rfl

theorem quotedValue_of_notMem {piece : Str} (h : '=' ∉ piece) : quotedValue piece = none := by
  obtain ⟨-, -, hvalue⟩ | ⟨name, value, rfl, -, -, -⟩ := segment_cases piece
  · rw [quotedValue, hvalue, Option.bind_none]
  · exact absurd (List.mem_append_right name List.mem_cons_self) h

/-- Where the parameter ends: at the first ';', or behind the quoted value that holds it. -/
theorem nextParam_snd {first : Str} (h : ';' ∉ first) (c : Char) (after : Str) :
    (nextParam (c :: (first ++ ';' :: after))).2 =
      match quotedValue first with
      | none => some (';' :: after)
      | some quoted => (findQuote false (quoted ++ ';' :: after)).bind (strchr · ';') := by
  have hcomma : strchr (first ++ ';' :: after) ';' = some (';' :: after) := by
    rw [strchr_append h, strchr, if_pos rfl]
  unfold nextParam
  dsimp only
  rw [List.tail_cons, hcomma]
  obtain ⟨hequal, -, -⟩ | ⟨name, value, rfl, hequal, -, hvalue⟩ := segment_cases first
  · rw [nextSeparator_append_before hequal h (by decide), quotedValue_of_notMem hequal]
  · rw [List.mem_append, not_or] at h
    have hfound : nextSeparator (name ++ '=' :: value ++ ';' :: after) '=' ';' =
        some ('=' :: (value ++ ';' :: after)) := by
      rw [List.append_assoc, List.cons_append]
      exact nextSeparator_append_sep hequal h.1 (by decide) _
    rw [hfound, quotedValue, hvalue, Option.bind_some]
    dsimp only
    rw [List.tail_cons, List.dropWhile_append]
    cases htmp : value.dropWhile (· == ' ') with
    | nil => rfl
    | cons d quoted =>
        rw [List.isEmpty_cons, if_neg Bool.false_ne_true, List.cons_append, List.head?_cons]
        by_cases hquote : d = '"'
        · have hlonger : (';' :: after).length < (d :: (quoted ++ ';' :: after)).length := by
            simp only [List.length_cons, List.length_append]
            omega
          subst hquote
          rw [if_pos ⟨rfl, decide_eq_true hlonger⟩, List.tail_cons, osipQuoteFind_eq]
          rfl
        · rw [if_neg (by simp [hquote]), if_neg (by simp [hquote])]

theorem nextParam_snd_of_notMem {t : Str} (h : ';' ∉ t) (c : Char) : (nextParam (c :: t)).2 = none := by
  unfold nextParam
  dsimp only
  rw [List.tail_cons, strchr_eq_none_iff.2 h]
  split
  · rfl
  · rw [if_neg (by simp)]

/-- A value that begins with a quote which is not closed. -/
def LeftOpen (piece : Str) : Prop := ∃ quoted ∈ quotedValue piece, Quoted.Open '"' '\\' false quoted

instance (piece : Str) : Decidable (LeftOpen piece) := inferInstanceAs (Decidable (∃ _ ∈ _, _))

/-- The text up to the first ';'. -/
theorem semicolon_cases (t : Str) :
    ';' ∉ t ∨ ∃ first after, t = first ++ ';' :: after ∧ ';' ∉ first := by
  by_cases hmem : ';' ∈ t
  · exact Or.inr (List.eq_append_cons_of_mem hmem)
  · exact Or.inl hmem

theorem findQuote_suffix {escaped : Bool} {s found : Str} (h : findQuote escaped s = some found) :
    found <:+ s := by
  obtain ⟨before, rest, rfl, rfl, -⟩ := Quoted.find_eq_some_iff.1 h
  exact List.suffix_append before _

theorem segmentValue_suffix {piece value : Str} (h : segmentValue piece = some value) :
    value <:+ piece := by
  obtain ⟨-, -, hvalue⟩ | ⟨name, value', rfl, -, -, hvalue⟩ := segment_cases piece
  · rw [hvalue] at h
    cases h
  · rw [hvalue] at h
    cases h
    exact ⟨name ++ ['='], by rw [List.append_assoc, List.singleton_append]⟩

theorem quotedValue_suffix {piece quoted : Str} (h : quotedValue piece = some quoted) :
    quoted <:+ piece := by
  obtain ⟨value, hvalue, h⟩ := Option.bind_eq_some_iff.1 h
  split_ifs at h
  cases h
  exact (List.tail_suffix _).trans ((List.dropWhile_suffix _).trans (segmentValue_suffix hvalue))

theorem findQuote_append_of_some {s found : Str} (h : findQuote false s = some found) (q : Str) :
    findQuote false (s ++ q) = some (found ++ q) :=
  Quoted.find_append_of_some h q

/-- A parameter that ends within a text ends there whatever follows. -/
theorem nextParam_append {c : Char} {t comma : Str} (h : (nextParam (c :: t)).2 = some comma) (q : Str) :
    (nextParam (c :: (t ++ q))).2 = some (comma ++ q) := by
  obtain hnot | ⟨first, after, rfl, hfirst⟩ := semicolon_cases t
  · rw [nextParam_snd_of_notMem hnot] at h
    cases h
  · rw [nextParam_snd hfirst] at h
    rw [List.append_assoc, List.cons_append, nextParam_snd hfirst]
    cases hquoted : quotedValue first with
    | none =>
        rw [hquoted] at h
        cases h
        rfl
    | some quoted =>
        rw [hquoted] at h
        obtain ⟨found, hfound, hcomma⟩ := Option.bind_eq_some_iff.1 h
        have hlater := findQuote_append_of_some hfound q
        rw [List.append_assoc, List.cons_append] at hlater
        dsimp only
        rw [hlater, Option.bind_some, strchr_append_of_some hcomma]

theorem leftOpen_iff {piece quoted : Str} (h : quotedValue piece = some quoted) :
    LeftOpen piece ↔ findQuote false quoted = none := by
  rw [LeftOpen, h]
  simp [Quoted.Open]

theorem not_leftOpen {piece : Str} (h : quotedValue piece = none) : ¬ LeftOpen piece := by
  rw [LeftOpen, h]
  simp

theorem findQuote_bind_append {quoted : Str}
    (h : (findQuote false quoted).bind (strchr · ';') = none) (q : Str) :
    (findQuote false (quoted ++ ';' :: q)).bind (strchr · ';') =
      if findQuote false quoted = none then (findQuote false q).bind (strchr · ';')
      else some (';' :: q) := by
  cases hfound : findQuote false quoted with
  | none =>
      have hbehind : ∀ escaped, findQuote escaped (';' :: q) = findQuote false q := by
        intro escaped
        cases escaped <;> rfl
      rw [if_pos rfl, findQuote, Quoted.Open.find_append hfound, ← findQuote, hbehind]
  | some found =>
      rw [hfound, Option.bind_some, strchr_eq_none_iff] at h
      rw [if_neg (by simp), findQuote_append_of_some hfound, Option.bind_some, strchr_append h, strchr,
        if_pos rfl]

/-- The last piece, as the scanner left it: where its quoted value is not closed, the search
for the quote goes on in what follows. -/
theorem nextParam_append_of_none {c : Char} {t : Str} (h : (nextParam (c :: t)).2 = none) (q : Str) :
    (nextParam (c :: (t ++ ';' :: q))).2 =
      if LeftOpen t then (findQuote false q).bind (strchr · ';') else some (';' :: q) := by
  obtain hnot | ⟨first, after, rfl, hfirst⟩ := semicolon_cases t
  · rw [nextParam_snd hnot]
    cases hquoted : quotedValue t with
    | none => rw [if_neg (not_leftOpen hquoted)]
    | some quoted =>
        have hsemi : (findQuote false quoted).bind (strchr · ';') = none := by
          cases hfound : findQuote false quoted with
          | none => rfl
          | some found =>
              have hsuffix := (findQuote_suffix hfound).trans (quotedValue_suffix hquoted)
              exact strchr_eq_none_iff.2 fun hmem => hnot (hsuffix.mem hmem)
        simp only [leftOpen_iff hquoted, findQuote_bind_append hsemi]
  · rw [nextParam_snd hfirst] at h
    rw [List.append_assoc, List.cons_append, nextParam_snd hfirst]
    cases hquoted : quotedValue first with
    | none =>
        rw [hquoted] at h
        cases h
    | some quoted =>
        rw [hquoted] at h
        have hequal : '=' ∈ first := by
          by_contra hnot
          rw [quotedValue_of_notMem hnot] at hquoted
          cases hquoted
        have hwhole : quotedValue (first ++ ';' :: after) = some (quoted ++ ';' :: after) := by
          rw [quotedValue_append hequal rfl, hquoted, Option.map_some]
        simp only [leftOpen_iff hwhole, ← findQuote_bind_append h, List.append_assoc, List.cons_append]

/-! ### What the pieces are read as -/

/-- The piece behind a ';', its '=' and what is behind the piece. -/
theorem nextParam_cases (c : Char) (t : Str) :
    ∃ piece, t = piece ++ (nextParam (c :: t)).2.getD [] ∧
      (∀ rest ∈ (nextParam (c :: t)).2, rest.head? = some ';') ∧
      ('=' ∉ piece ∧ (nextParam (c :: t)).1 = none ∨
        ∃ name value, piece = name ++ '=' :: value ∧ '=' ∉ name ∧
          (nextParam (c :: t)).1 = some ('=' :: (value ++ (nextParam (c :: t)).2.getD []))) := by
  have hfst : (nextParam (c :: t)).1 = nextSeparator t '=' ';' := by
    unfold nextParam
    dsimp only
    split
    · rfl
    · split_ifs <;> rfl
  rw [hfst]
  obtain hnot | ⟨first, after, rfl, hfirst⟩ := semicolon_cases t
  · rw [nextParam_snd_of_notMem hnot, Option.getD_none]
    refine ⟨t, (List.append_nil t).symm, by simp, ?_⟩
    obtain ⟨hequal, -, -⟩ | ⟨name, value, rfl, hequal, -, -⟩ := segment_cases t
    · exact Or.inl ⟨hequal, nextSeparator_of_notMem hequal ';'⟩
    · refine Or.inr ⟨name, value, rfl, hequal, ?_⟩
      rw [nextSeparator, strchr_append hequal, strchr, if_pos rfl, strchr_eq_none_iff.2 hnot,
        List.append_nil]
  · rw [nextParam_snd hfirst]
    obtain ⟨hequal, -, -⟩ | ⟨name, value, rfl, hequal, -, hvalue⟩ := segment_cases first
    · rw [quotedValue_of_notMem hequal]
      exact ⟨first, rfl, by simp, Or.inl ⟨hequal, nextSeparator_append_before hequal hfirst (by decide) _⟩⟩
    · have hsep : nextSeparator (name ++ '=' :: value ++ ';' :: after) '=' ';' =
          some ('=' :: (value ++ ';' :: after)) := by
        rw [List.mem_append, not_or] at hfirst
        rw [List.append_assoc, List.cons_append]
        exact nextSeparator_append_sep hequal hfirst.1 (by decide) _
      rw [hsep]
      cases hquoted : quotedValue (name ++ '=' :: value) with
      | none => exact ⟨_, rfl, by simp, Or.inr ⟨name, value, rfl, hequal, rfl⟩⟩
      | some quoted =>
          dsimp only
          cases hcomma : (findQuote false (quoted ++ ';' :: after)).bind (strchr · ';') with
          | none =>
              refine ⟨_, (List.append_nil _).symm, by simp, Or.inr ⟨name, value ++ ';' :: after, ?_⟩⟩
              rw [Option.getD_none, List.append_nil, List.append_assoc, List.cons_append]
              exact ⟨rfl, hequal, rfl⟩
          | some comma =>
              obtain ⟨found, hfound, hstrchr⟩ := Option.bind_eq_some_iff.1 hcomma
              obtain ⟨before, rest, hbefore, -, rfl⟩ := strchr_eq_some_iff.1 hstrchr
              -- the ';' is behind the quote, which is in the value
              have hin : quoted <:+ value := by
                obtain ⟨value', hvalue', hin⟩ := Option.bind_eq_some_iff.1 hquoted
                rw [hvalue, Option.some.injEq] at hvalue'
                subst hvalue'
                split_ifs at hin
                cases hin
                exact (List.tail_suffix _).trans (List.dropWhile_suffix _)
              obtain ⟨front, hfront⟩ := hin
              obtain ⟨front', hfront'⟩ := findQuote_suffix hfound
              have hsplit : value ++ ';' :: after = (front ++ front' ++ before) ++ ';' :: rest := by
                rw [← hfront, List.append_assoc, ← hfront', hbefore]
                simp only [List.append_assoc]
              refine ⟨name ++ '=' :: (front ++ front' ++ before), ?_, by simp, Or.inr ⟨name, _, rfl, hequal, ?_⟩⟩
              · rw [Option.getD_some, List.append_assoc, List.cons_append, hsplit]
                simp only [List.append_assoc, List.cons_append]
              · rw [Option.getD_some, hsplit]

def addRead (genParams : List GenericParam) : Option (List GenericParam) → Except Int (List GenericParam)
  | none => .error osipSyntaxerror
  | some params => .ok (genParams ++ params)

theorem parseParam_cons (genParams : List GenericParam) (c : Char) (name rest : Str)
    (pvalue : Option Str) :
    parseParam genParams (c :: (name ++ rest)) rest pvalue =
      if name = [] then .error osipSyntaxerror else .ok (genParams ++ [set name pvalue]) := by
  rw [parseParam, pointerDiff_cons]
  by_cases hname : name = []
  · rw [if_pos hname, if_pos (by rw [hname, List.length_nil]; omega)]
  · have hpos := List.length_pos_iff.2 hname
    rw [if_neg hname, if_neg (by omega), Nat.add_sub_cancel, List.tail_cons, osipStrncpy,
      List.take_left, add]

theorem paramValue_append {value rest : Str} (hrest : rest.head? = some ';') :
    paramValue ('=' :: (value ++ rest)) rest =
      if (value.dropWhile fun c => c == '\t' || c == ' ').head? = some ',' then .ok none
      else if value = [] then .error osipSyntaxerror
      else .ok (some value) := by
  obtain ⟨rest, rfl⟩ := List.head?_eq_some_iff.1 hrest
  have htmp : ((value ++ ';' :: rest).dropWhile fun c => c == '\t' || c == ' ').head? = some ',' ∨
      (value ++ ';' :: rest).dropWhile (fun c => c == '\t' || c == ' ') = [] ↔
        (value.dropWhile fun c => c == '\t' || c == ' ').head? = some ',' := by
    rw [List.dropWhile_append]
    cases value.dropWhile fun c => c == '\t' || c == ' ' with
    | nil => simp
    | cons c tmp => simp
  unfold paramValue
  dsimp only
  rw [List.tail_cons, pointerDiff_cons]
  simp only [htmp]
  by_cases hcomma : (value.dropWhile fun c => c == '\t' || c == ' ').head? = some ','
  · rw [if_pos hcomma, if_pos hcomma]
  · rw [if_neg hcomma, if_neg hcomma]
    by_cases hvalue : value = []
    · rw [if_pos hvalue, if_pos (by rw [hvalue, List.length_nil]; omega)]
    · have hpos := List.length_pos_iff.2 hvalue
      rw [if_neg hvalue, if_neg (by omega), Nat.add_sub_cancel, osipStrncpy, List.take_left]

theorem paramValue_last (value : Str) :
    paramValue ('=' :: value) [] =
      .ok (if (value.dropWhile fun c => c == '\t' || c == ' ').head? = some ',' ∨
        value.dropWhile (fun c => c == '\t' || c == ' ') = [] then none else some value) := by
  unfold paramValue
  dsimp only
  rw [List.tail_cons]
  split_ifs with htmp hshort
  · rfl
  · rw [pointerDiff, List.length_cons, List.length_nil] at hshort
    have hvalue : value = [] := List.length_eq_zero_iff.1 (by omega)
    rw [hvalue] at htmp
    exact absurd (Or.inr rfl) htmp
  · rw [pointerDiff, List.length_cons, List.length_nil, Nat.sub_zero, Nat.add_sub_cancel, osipStrncpy,
      List.take_length]

theorem parseBody_piece (genParams : List GenericParam) (c : Char) {piece rest : Str}
    {equal : Option Str} (hrest : rest.head? = some ';')
    (hequal : '=' ∉ piece ∧ equal = none ∨ ∃ name value, piece = name ++ '=' :: value ∧ '=' ∉ name ∧
      equal = some ('=' :: (value ++ rest))) :
    parseBody genParams (c :: (piece ++ rest)) equal rest =
      addRead genParams ((readPiece piece).map ([·])) := by
  unfold parseBody readPiece
  obtain ⟨hnot, rfl⟩ | ⟨name, value, rfl, hnot, rfl⟩ := hequal
  · dsimp only
    rw [parseParam_cons, segmentName_of_notMem hnot, segmentValue_of_notMem hnot]
    split_ifs
    · rfl
    · rfl
  · dsimp only
    rw [paramValue_append hrest, segmentName_append hnot, segmentValue_append_equal hnot,
      List.append_assoc, List.cons_append]
    by_cases hname : name = []
    · rw [if_pos hname]
      split_ifs
      · exact (parseParam_cons genParams c name _ none).trans (if_pos hname)
      · rfl
      · exact (parseParam_cons genParams c name _ (some value)).trans (if_pos hname)
    · rw [if_neg hname]
      dsimp only
      split_ifs
      · exact (parseParam_cons genParams c name _ none).trans (if_neg hname)
      · rfl
      · exact (parseParam_cons genParams c name _ (some value)).trans (if_neg hname)

theorem parseLast_piece (genParams : List GenericParam) (c : Char) {piece : Str}
    {equal : Option Str}
    (hequal : '=' ∉ piece ∧ equal = none ∨ ∃ name value, piece = name ++ '=' :: value ∧ '=' ∉ name ∧
      equal = some ('=' :: value)) :
    parseLast genParams (c :: piece) equal = addRead genParams (readLastPiece piece) := by
  unfold parseLast parseBody readLastPiece
  obtain ⟨hnot, rfl⟩ | ⟨name, value, rfl, hnot, rfl⟩ := hequal
  · have hparam := parseParam_cons genParams c piece [] none
    have hdiff := pointerDiff_cons c piece []
    rw [List.append_nil] at hparam hdiff
    dsimp only
    rw [hdiff, hparam, segmentName_of_notMem hnot, segmentValue_of_notMem hnot]
    by_cases hpiece : piece = []
    · rw [if_pos ⟨rfl, by rw [hpiece, List.length_nil]; omega⟩, if_pos hpiece, addRead, List.append_nil]
    · have hpos := List.length_pos_iff.2 hpiece
      rw [if_neg (by omega), if_neg hpiece, if_neg hpiece, if_neg hpiece]
      rfl
  · rw [if_neg (by simp), if_neg (by simp), segmentName_append hnot, segmentValue_append_equal hnot]
    dsimp only
    rw [paramValue_last]
    have hparam := parseParam_cons genParams c name ('=' :: value)
    by_cases hname : name = []
    · rw [if_pos hname]
      exact (hparam _).trans (if_pos hname)
    · rw [if_neg hname]
      refine ((hparam _).trans (if_neg hname)).trans ?_
      split_ifs
      · rfl
      · rfl

theorem readPieces_cons (piece : Str) {pieces : List Str} (h : pieces ≠ []) :
    readPieces (piece :: pieces) = (readPiece piece).bind fun param =>
      (readPieces pieces).map (param :: ·) := by
  obtain ⟨next, pieces, rfl⟩ := List.exists_cons_of_ne_nil h
  rw [readPieces]
  · cases readPiece piece with
    | none => rfl
    | some param =>
        cases readPieces (next :: pieces) with
        | none => rfl
        | some params => rfl
  · exact List.cons_ne_nil _ _

theorem pieces_ne_nil (params : Str) : pieces params ≠ [] := by
  rw [pieces_eq]
  split
  · exact List.cons_ne_nil _ _
  · exact List.cons_ne_nil _ _

theorem addRead_map (genParams : List GenericParam) (param : GenericParam)
    (params : Option (List GenericParam)) :
    addRead (genParams ++ [param]) params = addRead genParams (params.map (param :: ·)) := by
  cases params with
  | none => rfl
  | some params =>
      rw [addRead, Option.map_some, addRead, List.append_assoc, List.singleton_append]

theorem parseall_pieces (genParams : List GenericParam) (c : Char) (t : Str) :
    parseall genParams (c :: t) = addRead genParams (readPieces (pieces (c :: t))) := by
  induction hlength : t.length using Nat.strong_induction_on generalizing genParams c t with
  | _ n ih =>
      obtain ⟨piece, hsplit, hsemi, hequal⟩ := nextParam_cases c t
      rw [parseall_eq genParams (List.cons_ne_nil c t), pieces_eq]
      rcases hnext : nextParam (c :: t) with ⟨equal, (_ | comma)⟩
      · rw [hnext, Option.getD_none, List.append_nil] at hsplit
        simp only [hnext, Option.getD_none, List.append_nil] at hequal
        dsimp only
        subst hsplit
        rw [parseLast_piece genParams c hequal, List.tail_cons, readPieces]
      · have hcomma := hsemi
        simp only [hnext, Option.getD_some] at hsplit hequal hcomma
        have hlt := nextParam_length_lt hnext
        have hhead := hcomma comma rfl
        obtain ⟨rest, rfl⟩ := List.head?_eq_some_iff.1 hhead
        dsimp only
        subst hsplit
        rw [parseBody_piece genParams c hhead hequal, List.tail_cons, pointerDiff_cons,
          Nat.add_sub_cancel, osipStrncpy, List.take_left, readPieces_cons _ (pieces_ne_nil _)]
        cases readPiece piece with
        | none => rfl
        | some param =>
            change parseall (genParams ++ [param]) (';' :: rest) = _
            rw [List.length_cons] at hlt
            rw [ih rest.length (by simp only [List.length_cons] at hlt; omega) _ _ _ rfl, addRead_map,
              Option.bind_some]

/-! ### Lists one behind the other -/

def lastPiece (params : Str) : Str := (pieces params).getLastD []

/-- What the scanner goes on with when the first quote of `q` ends a value before it. -/
def behindQuote (q : Str) : Option Str := (findQuote false q).bind (strchr · ';')

/-- Every piece has a name, and no value but the last is empty; the last piece may be empty. -/
def Readable (params : Str) : Prop :=
  (∀ piece ∈ (pieces params).dropLast, segmentName piece ≠ [] ∧ segmentValue piece ≠ some []) ∧
    (lastPiece params = [] ∨ segmentName (lastPiece params) ≠ [])

/-- A piece that is read in another way when it is the last one: an empty one, and one with
nothing but blanks behind its '='. -/
def BlankEnd (piece : Str) : Prop :=
  piece = [] ∨ ∃ value ∈ segmentValue piece, value.dropWhile (fun c => c == '\t' || c == ' ') = []

/-- Nothing of `p` hides the end of its last parameter, or what is behind it is refused. -/
def JoinsCleanly (p q : Str) : Prop :=
  ¬ Readable p ∨
    if LeftOpen (lastPiece p) then ¬ Readable q ∧ ∃ rest ∈ behindQuote q, ¬ Readable rest
    else ¬ Readable q ∨ ¬ BlankEnd (lastPiece p)

instance (params : Str) : Decidable (Readable params) := inferInstanceAs (Decidable (_ ∧ _))

instance (piece : Str) : Decidable (BlankEnd piece) := inferInstanceAs (Decidable (_ ∨ _))

instance (p q : Str) : Decidable (JoinsCleanly p q) :=
  inferInstanceAs (Decidable (_ ∨ _))

/-- `p` and `q` are accepted one behind the other when both are, with the two results one behind
the other. -/
def ParsesJoined (p q : Str) : Prop :=
  ∀ params, parseall [] (p ++ q) = .ok params ↔
    ∃ pparams qparams, parseall [] p = .ok pparams ∧ parseall [] q = .ok qparams ∧
      params = pparams ++ qparams

theorem readPieces_append (front : List Str) {pieces : List Str} (h : pieces ≠ []) :
    readPieces (front ++ pieces) = (front.mapM readPiece).bind fun params =>
      (readPieces pieces).map (params ++ ·) := by
  induction front with
  | nil =>
      rw [List.nil_append, List.mapM_nil]
      change _ = (readPieces pieces).map fun params => params
      rw [Option.map_id']
  | cons piece front ih =>
      rw [List.cons_append, readPieces_cons _ (List.append_ne_nil_of_right_ne_nil front h), ih,
        List.mapM_cons]
      cases readPiece piece with
      | none => rfl
      | some param =>
          cases front.mapM readPiece with
          | none => rfl
          | some params =>
              cases readPieces pieces with
              | none => rfl
              | some rest => rfl

theorem pieces_split (params : Str) : pieces params = (pieces params).dropLast ++ [lastPiece params] := by
  rw [lastPiece, List.getLastD_eq_getLast?, List.getLast?_eq_some_getLast (pieces_ne_nil params),
    Option.getD_some, List.dropLast_concat_getLast]

theorem lastPiece_cons {params rest piece : Str} (h : pieces params = piece :: pieces rest) :
    lastPiece params = lastPiece rest := by
  obtain ⟨next, tail, hrest⟩ := List.exists_cons_of_ne_nil (pieces_ne_nil rest)
  rw [lastPiece, lastPiece, h, hrest]
  rfl

theorem dropLast_pieces {params rest piece : Str} (h : pieces params = piece :: pieces rest) :
    (pieces params).dropLast = piece :: (pieces rest).dropLast := by
  rw [h, List.dropLast_cons_of_ne_nil (pieces_ne_nil rest)]

/-- The pieces of two lists: those of each, unless a value at the end of the first one is open. -/
theorem pieces_append (c : Char) (t q : Str) :
    pieces (c :: (t ++ ';' :: q)) = (pieces (c :: t)).dropLast ++
      if LeftOpen (lastPiece (c :: t)) then
        match behindQuote q with
        | none => [lastPiece (c :: t) ++ ';' :: q]
        | some rest =>
            (lastPiece (c :: t) ++ ';' :: osipStrncpy q (pointerDiff rest q)) :: pieces rest
      else lastPiece (c :: t) :: pieces (';' :: q) := by
  induction hlength : t.length using Nat.strong_induction_on generalizing c t with
  | _ n ih =>
      obtain ⟨piece, hsplit, hsemi, -⟩ := nextParam_cases c t
      have hpieces := pieces_eq (c :: t)
      cases hnext : (nextParam (c :: t)).2 with
      | none =>
          rw [hnext, List.tail_cons] at hpieces
          have hlast : lastPiece (c :: t) = t := by rw [lastPiece, hpieces]; rfl
          rw [pieces_eq, nextParam_append_of_none hnext, hpieces, hlast, ← behindQuote]
          by_cases hopen : LeftOpen t
          · rw [if_pos hopen, if_pos hopen]
            cases hrest : behindQuote q with
            | none => rfl
            | some rest =>
                obtain ⟨found, hfound, hstrchr⟩ := Option.bind_eq_some_iff.1 hrest
                obtain ⟨mid, rfl⟩ := (strchr_suffix hstrchr).trans (findQuote_suffix hfound)
                dsimp only
                have hwhole : t ++ ';' :: (mid ++ rest) = (t ++ ';' :: mid) ++ rest := by
                  rw [List.append_assoc, List.cons_append]
                rw [hwhole, List.tail_cons, pointerDiff_cons, Nat.add_sub_cancel, pointerDiff_append,
                  osipStrncpy, osipStrncpy, List.take_left, List.take_left]
                rfl
          · rw [if_neg hopen, if_neg hopen]
            dsimp only
            rw [List.tail_cons, pointerDiff_cons, Nat.add_sub_cancel, osipStrncpy, List.take_left]
            rfl
      | some comma =>
          have hlater := nextParam_append hnext (';' :: q)
          rw [hnext, Option.getD_some] at hsplit
          rw [hnext] at hpieces
          have hhead := hsemi comma hnext
          obtain ⟨rest, rfl⟩ := List.head?_eq_some_iff.1 hhead
          dsimp only at hpieces
          subst hsplit
          have hrest := ih rest.length
            (by rw [← hlength, List.length_append, List.length_cons]; omega) ';' rest rfl
          rw [pieces_eq, hlater, dropLast_pieces hpieces, lastPiece_cons hpieces]
          dsimp only
          rw [List.cons_append, hrest, List.tail_cons, List.tail_cons, List.append_assoc,
            pointerDiff_cons, List.cons_append, pointerDiff_cons, Nat.add_sub_cancel, osipStrncpy,
            osipStrncpy, List.take_left, List.take_left]
          rfl

theorem readPiece_eq_none_iff {piece : Str} :
    readPiece piece = none ↔ segmentName piece = [] ∨ segmentValue piece = some [] := by
  unfold readPiece
  split_ifs with hname
  · simp [hname]
  · cases segmentValue piece with
    | none => simp [hname]
    | some value =>
        dsimp only
        split_ifs with hcomma hempty
        · have hne : value ≠ [] := by
            rintro rfl
            cases hcomma
          simp [hname, hne]
        · simp [hempty]
        · simp [hname, hempty]

theorem readLastPiece_eq_none_iff {piece : Str} :
    readLastPiece piece = none ↔ ¬ (piece = [] ∨ segmentName piece ≠ []) := by
  unfold readLastPiece
  split_ifs with hpiece hname
  · simp [hpiece]
  · simp [hpiece, hname]
  · cases segmentValue piece with
    | none => simp [hname]
    | some value =>
        dsimp only
        split_ifs
        · simp [hname]
        · simp [hname]

theorem readLastPiece_eq_iff {piece : Str} (h : piece = [] ∨ segmentName piece ≠ []) :
    readLastPiece piece = (readPiece piece).map ([·]) ↔ ¬ BlankEnd piece := by
  unfold readLastPiece readPiece BlankEnd
  by_cases hpiece : piece = []
  · rw [hpiece]
    simp [segmentName]
  · have hname := h.resolve_left hpiece
    rw [if_neg hpiece, if_neg hname, if_neg hname]
    cases segmentValue piece with
    | none => simp [hpiece]
    | some value =>
        have hblank : (piece = [] ∨ ∃ v ∈ some value, v.dropWhile (fun c => c == '\t' || c == ' ') = []) ↔
            value.dropWhile (fun c => c == '\t' || c == ' ') = [] := by
          simp only [hpiece, false_or, Option.mem_some_iff, exists_eq_left']
        rw [hblank]
        dsimp only
        cases htmp : value.dropWhile fun c => c == '\t' || c == ' ' with
        | nil =>
            rw [if_pos (Or.inr rfl), if_neg (by simp)]
            split_ifs <;> simp [set]
        | cons c tmp =>
            have hvalue : value ≠ [] := by
              rintro rfl
              cases htmp
            by_cases hcomma : c = ','
            · simp [hcomma]
            · simp [hcomma, hvalue]

theorem mapM_eq_none_iff {front : List Str} :
    front.mapM readPiece = none ↔ ∃ piece ∈ front, readPiece piece = none := by
  induction front with
  | nil => simp
  | cons piece front ih =>
      rw [List.mapM_cons]
      cases hread : readPiece piece with
      | none => simp [hread]
      | some param =>
          cases hfront : front.mapM readPiece with
          | none => simp [hread, ih.1 hfront]
          | some params =>
              rw [hfront] at ih
              have hall : ¬ ∃ piece ∈ front, readPiece piece = none := fun h => by cases ih.2 h
              simpa [hread] using hall

theorem readPieces_split (params : Str) :
    readPieces (pieces params) = ((pieces params).dropLast.mapM readPiece).bind fun front =>
      (readLastPiece (lastPiece params)).map (front ++ ·) := by
  conv_lhs => rw [pieces_split params, readPieces_append _ (List.cons_ne_nil _ _)]
  rfl

theorem readable_iff (params : Str) : Readable params ↔
    (pieces params).dropLast.mapM readPiece ≠ none ∧ readLastPiece (lastPiece params) ≠ none := by
  refine and_congr ?_ ?_
  · rw [Ne, mapM_eq_none_iff]
    simp only [readPiece_eq_none_iff, not_exists, not_and, not_or]
  · exact ((not_congr readLastPiece_eq_none_iff).trans not_not).symm

theorem readPieces_eq_none_iff (params : Str) :
    readPieces (pieces params) = none ↔ ¬ Readable params := by
  rw [readPieces_split, readable_iff]
  cases (pieces params).dropLast.mapM readPiece with
  | none => simp
  | some front => simp

theorem leftOpen_cases {piece : Str} (h : LeftOpen piece) :
    ∃ name k quoted, piece = name ++ '=' :: (List.replicate k ' ' ++ '"' :: quoted) ∧ '=' ∉ name := by
  obtain ⟨quoted, hquoted, -⟩ := h
  obtain ⟨-, -, hvalue⟩ | ⟨name, value, rfl, hequal, -, hvalue⟩ := segment_cases piece
  · rw [quotedValue, hvalue] at hquoted
    cases hquoted
  · rw [quotedValue, hvalue, Option.bind_some] at hquoted
    split_ifs at hquoted with hhead
    · obtain ⟨tail, htail⟩ := List.head?_eq_some_iff.1 hhead
      have hspaces : value.takeWhile (· == ' ') =
          List.replicate (value.takeWhile (· == ' ')).length ' ' := by
        rw [List.eq_replicate_iff]
        exact ⟨rfl, fun c hc => by simpa using List.mem_takeWhile_imp hc⟩
      refine ⟨name, (value.takeWhile (· == ' ')).length, tail, ?_, hequal⟩
      rw [← hspaces, ← htail, List.takeWhile_append_dropWhile]
    · cases hquoted

theorem readPiece_quoted {name : Str} (h : '=' ∉ name) (k : Nat) (quoted : Str) :
    let value := List.replicate k ' ' ++ '"' :: quoted
    readPiece (name ++ '=' :: value) =
        (if name = [] then none else some (set name (some value))) ∧
      readLastPiece (name ++ '=' :: value) =
        (if name = [] then none else some [set name (some value)]) := by
  have hskip : (List.replicate k ' ' ++ '"' :: quoted).dropWhile (fun c => c == '\t' || c == ' ') =
      '"' :: quoted := by
    rw [List.dropWhile_append_of_pos]
    · rfl
    · intro c hc
      rw [List.eq_of_mem_replicate hc]
      rfl
  dsimp only
  unfold readPiece readLastPiece
  rw [segmentName_append h, segmentValue_append_equal h]
  dsimp only
  simp [hskip]

theorem osipClrspace_longer (k : Nat) (quoted more : Str) :
    osipClrspace (List.replicate k ' ' ++ '"' :: quoted) ≠
      osipClrspace (List.replicate k ' ' ++ '"' :: (quoted ++ ';' :: more)) := by
  rw [← List.cons_append, ← List.append_assoc]
  intro heq
  have hblank := osipClrspace_append_eq_iff.1 heq.symm ';' List.mem_cons_self
  cases hblank

section Joined

variable {front last all rest : Option (List GenericParam)}

theorem joined_iff :
    (∀ params, (front.bind fun before => all.map (before ++ ·)) = some params ↔
      ∃ pparams qparams, (front.bind fun before => last.map (before ++ ·)) = some pparams ∧
        rest = some qparams ∧ params = pparams ++ qparams) ↔
      front = none ∨ all = last.bind fun params => rest.map (params ++ ·) := by
  cases front with
  | none => simp
  | some before =>
      cases all <;> cases last <;> cases rest <;> simp [eq_comm]

theorem cons_joined_iff {param : Option GenericParam} :
    (param.bind fun param => rest.map (param :: ·)) =
        (last.bind fun params => rest.map (params ++ ·)) ↔
      rest = none ∨ last = param.map ([·]) := by
  cases rest with
  | none => cases param <;> cases last <;> simp
  | some params =>
      cases param with
      | none => cases last <;> simp
      | some param =>
          cases last with
          | none => simp
          | some lastParams =>
              have hcancel : param :: params = lastParams ++ params ↔ lastParams = [param] := by
                rw [← List.singleton_append, List.append_left_inj, eq_comm]
              simpa using hcancel

end Joined

theorem parsesJoined_cons (c : Char) (t q : Str) :
    ParsesJoined (c :: t) (';' :: q) ↔
      (pieces (c :: t)).dropLast.mapM readPiece = none ∨
        readPieces (if LeftOpen (lastPiece (c :: t)) then
          match behindQuote q with
          | none => [lastPiece (c :: t) ++ ';' :: q]
          | some rest =>
              (lastPiece (c :: t) ++ ';' :: osipStrncpy q (pointerDiff rest q)) :: pieces rest
        else lastPiece (c :: t) :: pieces (';' :: q)) =
          (readLastPiece (lastPiece (c :: t))).bind fun params =>
            (readPieces (pieces (';' :: q))).map (params ++ ·) := by
  have hok : ∀ (params : Option (List GenericParam)) (params' : List GenericParam),
      addRead [] params = .ok params' ↔ params = some params' := by
    intro params params'
    cases params with
    | none => simp [addRead]
    | some params => simp [addRead]
  have hne : ∀ (b : Prop) [Decidable b] (x y : List Str), x ≠ [] → y ≠ [] → (if b then x else y) ≠ [] := by
    intro b _ x y hx hy
    split_ifs
    · exact hx
    · exact hy
  unfold ParsesJoined
  simp only [List.cons_append, parseall_pieces, hok]
  rw [pieces_append, readPieces_append, readPieces_split (c :: t), joined_iff]
  refine hne _ _ _ ?_ (List.cons_ne_nil _ _)
  split
  · exact List.cons_ne_nil _ _
  · exact List.cons_ne_nil _ _

/-- A value left open reaches into the list behind it, so that both must be refused. -/
theorem joinsOpen_iff {front : Option (List GenericParam)} {name quoted q : Str} {k : Nat}
    (hequal : '=' ∉ name) :
    front = none ∨
        readPieces
            (match behindQuote q with
            | none => [name ++ '=' :: (List.replicate k ' ' ++ '"' :: quoted) ++ ';' :: q]
            | some rest =>
                (name ++ '=' :: (List.replicate k ' ' ++ '"' :: quoted) ++
                  ';' :: osipStrncpy q (pointerDiff rest q)) :: pieces rest) =
          ((readLastPiece (name ++ '=' :: (List.replicate k ' ' ++ '"' :: quoted))).bind fun params =>
            (readPieces (pieces (';' :: q))).map (params ++ ·)) ↔
      ¬ (front ≠ none ∧ readLastPiece (name ++ '=' :: (List.replicate k ' ' ++ '"' :: quoted)) ≠ none) ∨
        ¬ Readable (';' :: q) ∧ ∃ rest ∈ behindQuote q, ¬ Readable rest := by
  have hlonger (more : Str) : name ++ '=' :: (List.replicate k ' ' ++ '"' :: quoted) ++ ';' :: more =
      name ++ '=' :: (List.replicate k ' ' ++ '"' :: (quoted ++ ';' :: more)) := by
    simp only [List.append_assoc, List.cons_append]
  obtain ⟨-, hlast⟩ := readPiece_quoted hequal k quoted
  rw [hlast]
  simp only [hlonger, ← readPieces_eq_none_iff]
  cases hbehind : behindQuote q with
  | none =>
      obtain ⟨-, hread⟩ := readPiece_quoted hequal k (quoted ++ ';' :: q)
      dsimp only at hread ⊢
      rw [readPieces, hread]
      by_cases hname : name = []
      · simp [hname]
      · have hne := osipClrspace_longer k quoted q
        rw [if_neg hname, if_neg hname]
        cases readPieces (pieces (';' :: q)) with
        | none => simp
        | some params => simp [set, Ne.symm hne]
  | some rest =>
      obtain ⟨hread, -⟩ := readPiece_quoted hequal k (quoted ++ ';' :: osipStrncpy q (pointerDiff rest q))
      dsimp only at hread ⊢
      simp only [Option.mem_some_iff, exists_eq_left']
      rw [readPieces_cons _ (pieces_ne_nil rest), hread]
      by_cases hname : name = []
      · simp [hname]
      · have hne := osipClrspace_longer k quoted (osipStrncpy q (pointerDiff rest q))
        rw [if_neg hname, if_neg hname]
        cases readPieces (pieces (';' :: q)) with
        | none => cases readPieces (pieces rest) <;> simp
        | some params => cases readPieces (pieces rest) <;> simp [set, Ne.symm hne]

/-- Lists of parameters can be joined exactly when the end of the first one is not hidden. -/
theorem parsesJoined_iff {p q : Str} (hp : p.head? = some ';') (hq : q.head? = some ';') :
    ParsesJoined p q ↔ JoinsCleanly p q := by
  obtain ⟨t, rfl⟩ := List.head?_eq_some_iff.1 hp
  obtain ⟨q, rfl⟩ := List.head?_eq_some_iff.1 hq
  have hbehind : behindQuote (';' :: q) = behindQuote q := rfl
  rw [JoinsCleanly, parsesJoined_cons, readable_iff (';' :: t), hbehind]
  by_cases hopen : LeftOpen (lastPiece (';' :: t))
  · obtain ⟨name, k, quoted, hlast, hequal⟩ := leftOpen_cases hopen
    rw [if_pos hopen, if_pos hopen, hlast]
    exact joinsOpen_iff hequal
  · rw [if_neg hopen, if_neg hopen, readPieces_cons _ (pieces_ne_nil _), cons_joined_iff,
      readPieces_eq_none_iff]
    by_cases hlast : readLastPiece (lastPiece (';' :: t)) = none
    · have hname := not_or.1 (readLastPiece_eq_none_iff.1 hlast)
      have hread : readPiece (lastPiece (';' :: t)) = none :=
        readPiece_eq_none_iff.2 (Or.inl (not_not.1 hname.2))
      simp [hlast, hread]
    · have hname := not_not.1 (mt readLastPiece_eq_none_iff.2 hlast)
      rw [readLastPiece_eq_iff hname]
      tauto

theorem parsesJoined_quoted :
    ParsesJoined ";tag=a;x= \"1;2\" ;lr".toList ";expires=3600".toList :=
  (parsesJoined_iff rfl rfl).2 (by decide)

/-- A parameter with an empty value is accepted, but not with another one behind it. -/
theorem not_parsesJoined_emptyValue : ¬ ParsesJoined ";a=".toList ";b".toList := by
  intro h
  have hjoined : parseall [] (";a=".toList ++ ";b".toList) = .ok _ :=
    (h _).2 ⟨[⟨"a".toList, none⟩], [⟨"b".toList, none⟩], by decide, by decide, rfl⟩
  exact absurd hjoined (by decide)

end GenericParam
end Exosip
