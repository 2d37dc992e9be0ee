import Mathlib.Data.Bool.AllAny
import Exosip.Parser.ParamLists
import Exosip.Parser.Via

/-! `osip_via_to_str` and back: the sent-by part, the parameters and the comment are looked for
one by one in the whole of the text. -/
namespace Exosip

open CString
open Machine

/-! ### Parameters -/

namespace GenericParam

/-- What is printed behind the ';'. -/
def body (param : GenericParam) : Str :=
  param.gname ++ (param.gvalue.map ('=' :: ·)).getD []

theorem toStr_eq (param : GenericParam) : param.toStr = ';' :: param.body := by
  unfold toStr body
  cases param.gvalue with
  | none => rw [Option.map_none, Option.getD_none, List.append_nil]
  | some gvalue => rfl

/-- A trimmed name that is not empty, and no value or one that is trimmed and not empty. -/
structure IsTrimmed (param : GenericParam) : Prop where
  gname_ne : param.gname ≠ []
  gname_trim : osipClrspace param.gname = param.gname
  gname_equal : '=' ∉ param.gname
  gname_semicolon : ';' ∉ param.gname
  gvalue_ne : ∀ gvalue ∈ param.gvalue, gvalue ≠ []
  gvalue_trim : ∀ gvalue ∈ param.gvalue, osipClrspace gvalue = gvalue

/-- A value that is read to its end: no comma at its beginning, and a ';' only within quotes,
which only the last value may leave open. -/
def KeepsValue (isLast : Prop) (value : Str) : Prop :=
  value.head? ≠ some ',' ∧
    if value.head? = some '"' then
      match osipQuoteFind value.tail with
      | none => isLast
      | some closing => ';' ∉ closing
    else ';' ∉ value

def KeepsParams : List GenericParam → Prop
  | [] => True
  | param :: params =>
      (∀ gvalue ∈ param.gvalue, KeepsValue (params = []) gvalue) ∧ KeepsParams params

section Body

variable {param : GenericParam}

theorem body_of_none (h : param.gvalue = none) : param.body = param.gname := by
  rw [body, h, Option.map_none, Option.getD_none, List.append_nil]

theorem body_of_some {gvalue : Str} (h : param.gvalue = some gvalue) :
    param.body = param.gname ++ '=' :: gvalue := by
  rw [body, h, Option.map_some, Option.getD_some]

theorem quotedValue_body (h : param.IsTrimmed) :
    quotedValue param.body = param.gvalue.bind fun gvalue =>
      if gvalue.head? = some '"' then some gvalue.tail else none := by
  cases hvalue : param.gvalue with
  | none =>
      rw [body_of_none hvalue, quotedValue_of_notMem h.gname_equal]
      rfl
  | some gvalue =>
      have htrim := dropWhile_trimmed (p := (· == ' ')) (h.gvalue_trim gvalue hvalue) (by
        intro c hc
        rw [eq_of_beq hc]
        rfl)
      rw [body_of_some hvalue, quotedValue, segmentValue_append_equal h.gname_equal,
        Option.bind_some, Option.bind_some, htrim]

theorem leftOpen_body (h : param.IsTrimmed) :
    LeftOpen param.body ↔ ∃ gvalue ∈ param.gvalue, gvalue.head? = some '"' ∧
      osipQuoteFind gvalue.tail = none := by
  rw [LeftOpen, quotedValue_body h]
  cases param.gvalue with
  | none => simp
  | some gvalue =>
      rw [Option.bind_some]
      split_ifs with hquote
      · simp [hquote, osipQuoteFind_eq, Quoted.Open, findQuote]
      · simp [hquote]

theorem nextParam_body (h : param.IsTrimmed) :
    (nextParam (';' :: param.body)).2 = none ↔ ∀ gvalue ∈ param.gvalue,
      if gvalue.head? = some '"' then ∀ closing ∈ osipQuoteFind gvalue.tail, ';' ∉ closing
      else ';' ∉ gvalue := by
  cases hvalue : param.gvalue with
  | none =>
      rw [body_of_none hvalue, nextParam_snd_of_notMem h.gname_semicolon]
      simp
  | some gvalue =>
      have htrim := dropWhile_trimmed (p := (· == ' ')) (h.gvalue_trim gvalue hvalue) (by
        intro c hc
        rw [eq_of_beq hc]
        rfl)
      have hcomma : strchr (param.gname ++ '=' :: gvalue) ';' = strchr gvalue ';' := by
        rw [strchr_append h.gname_semicolon, strchr, if_neg (by decide)]
      have hall : ∀ P : Str → Prop, (∀ value ∈ some gvalue, P value) ↔ P gvalue := by simp
      unfold nextParam
      rw [hall, body_of_some hvalue, List.tail_cons, hcomma,
        nextSeparator_append_sep h.gname_equal h.gname_semicolon (by decide)]
      dsimp only
      rw [List.tail_cons, htrim]
      by_cases hquote : gvalue.head? = some '"'
      · obtain ⟨quoted, rfl⟩ := List.head?_eq_some_iff.1 hquote
        have hskip : strchr ('"' :: quoted) ';' = strchr quoted ';' := by
          rw [strchr, if_neg (by decide)]
        rw [if_pos hquote, List.tail_cons, hskip]
        cases hsemi : strchr quoted ';' with
        | none =>
            rw [if_neg (by simp)]
            refine iff_of_true rfl fun closing hclosing hmem => ?_
            exact strchr_eq_none_iff.1 hsemi ((osipQuoteFind_suffix hclosing).mem hmem)
        | some comma =>
            have hlonger : comma.length < ('"' :: quoted).length :=
              Nat.lt_succ_of_le (strchr_length_le hsemi)
            rw [if_pos ⟨hquote, decide_eq_true hlonger⟩]
            simp only [Option.bind_eq_none_iff, strchr_eq_none_iff, Option.mem_def]
      · rw [if_neg (fun hboth => hquote hboth.1), if_neg hquote, strchr_eq_none_iff]

theorem gvalue_of_readPiece {name value : Str} (h : '=' ∉ name)
    (hread : readPiece (name ++ '=' :: value) = some param) :
    ∀ gvalue ∈ param.gvalue, gvalue = osipClrspace value := by
  unfold readPiece at hread
  rw [segmentName_append h, segmentValue_append_equal h] at hread
  dsimp only at hread
  split_ifs at hread with hname hcomma hempty
  · cases hread
    intro gvalue hvalue
    cases hvalue
  · cases hread
    intro gvalue hvalue
    exact (Option.some.inj hvalue).symm

theorem set_eq (h : param.IsTrimmed) : set param.gname param.gvalue = param := by
  obtain ⟨gname, gvalue⟩ := param
  rw [set, h.gname_trim]
  cases gvalue with
  | none => rfl
  | some value => rw [Option.map_some, h.gvalue_trim value rfl]

theorem dropWhile_gvalue (h : param.IsTrimmed) {gvalue : Str}
    (hvalue : param.gvalue = some gvalue) :
    gvalue.dropWhile (fun c => c == '\t' || c == ' ') = gvalue := by
  refine dropWhile_trimmed (h.gvalue_trim gvalue hvalue) fun c hc => ?_
  obtain hc | hc := Bool.or_eq_true_iff.1 hc
  · rw [eq_of_beq hc]
    rfl
  · rw [eq_of_beq hc]
    rfl

theorem segmentName_body (h : param.IsTrimmed) : segmentName param.body = param.gname := by
  cases hvalue : param.gvalue with
  | none => rw [body_of_none hvalue, segmentName_of_notMem h.gname_equal]
  | some gvalue => rw [body_of_some hvalue, segmentName_append h.gname_equal]

theorem segmentValue_body (h : param.IsTrimmed) : segmentValue param.body = param.gvalue := by
  cases hvalue : param.gvalue with
  | none => rw [body_of_none hvalue, segmentValue_of_notMem h.gname_equal]
  | some gvalue => rw [body_of_some hvalue, segmentValue_append_equal h.gname_equal]

theorem readPiece_body (h : param.IsTrimmed) :
    readPiece param.body = some param ↔ ∀ gvalue ∈ param.gvalue, gvalue.head? ≠ some ',' := by
  have hset := set_eq h
  unfold readPiece
  rw [segmentName_body h, segmentValue_body h, if_neg h.gname_ne]
  cases hvalue : param.gvalue with
  | none =>
      rw [hvalue] at hset
      rw [body_of_none hvalue]
      exact iff_of_true (congrArg some hset) fun value hnone =>
        absurd hnone (Option.not_mem_none value)
  | some gvalue =>
      rw [hvalue] at hset
      dsimp only
      rw [dropWhile_gvalue h hvalue]
      by_cases hcomma : gvalue.head? = some ','
      · rw [if_pos hcomma]
        refine iff_of_false (fun heq => ?_) fun hall => hall gvalue rfl hcomma
        rw [← Option.some.inj heq] at hvalue
        cases hvalue
      · rw [if_neg hcomma, if_neg (h.gvalue_ne gvalue hvalue)]
        exact iff_of_true (congrArg some hset) fun _ heq => Option.some.inj heq ▸ hcomma

theorem readLastPiece_body (h : param.IsTrimmed) :
    readLastPiece param.body = (readPiece param.body).map ([·]) := by
  have hname : segmentName param.body ≠ [] := by
    rw [segmentName_body h]
    exact h.gname_ne
  refine (readLastPiece_eq_iff (Or.inr hname)).2 ?_
  rintro (hnil | ⟨gvalue, hvalue, hblank⟩)
  · rw [hnil] at hname
    exact hname rfl
  · rw [segmentValue_body h] at hvalue
    rw [dropWhile_gvalue h hvalue] at hblank
    exact h.gvalue_ne gvalue hvalue hblank

/-- A piece that ends before a ';' of the value. -/
theorem readPiece_shorter (h : param.IsTrimmed) {piece more : Str}
    (hbody : param.body = piece ++ ';' :: more) : readPiece piece ≠ some param := by
  intro hread
  cases hvalue : param.gvalue with
  | none =>
      rw [body_of_none hvalue] at hbody
      exact h.gname_semicolon (hbody ▸ List.mem_append_right piece List.mem_cons_self)
  | some gvalue =>
      have hequal : '=' ∈ piece := by
        by_contra hnot
        have hname := segmentName_body h
        rw [hbody, segmentName, List.takeWhile_append_of_pos
          fun c hc => bne_iff_ne.2 (ne_of_mem_of_not_mem hc hnot),
          List.takeWhile_cons_of_pos (by decide)] at hname
        exact h.gname_semicolon (hname ▸ List.mem_append_right piece List.mem_cons_self)
      obtain ⟨hnot, -, -⟩ | ⟨name, value, rfl, hnot, -, hpiece⟩ := segment_cases piece
      · exact hnot hequal
      · have hlonger := segmentValue_append hequal (';' :: more)
        rw [← hbody, segmentValue_body h, hpiece, Option.map_some] at hlonger
        have htrim := h.gvalue_trim _ hlonger
        have hsame := gvalue_of_readPiece hnot hread _ hlonger
        have hblank := osipClrspace_append_eq_iff.1 (htrim.trans hsame) ';' List.mem_cons_self
        cases hblank

/-- A piece that takes in the next ';'. -/
theorem readPiece_longer (h : param.IsTrimmed) {gvalue : Str} (hvalue : param.gvalue = some gvalue)
    (more : Str) : readPiece (param.body ++ ';' :: more) ≠ some param := by
  intro hread
  rw [body_of_some hvalue, List.append_assoc, List.cons_append] at hread
  have hsame := gvalue_of_readPiece h.gname_equal hread gvalue hvalue
  have htrim := h.gvalue_trim gvalue hvalue
  have hblank := osipClrspace_append_eq_iff.1 (hsame.symm.trans htrim.symm) ';' List.mem_cons_self
  cases hblank

end Body

theorem keepsValue_iff {param : GenericParam} (h : param.IsTrimmed) (isLast : Prop) :
    (∀ gvalue ∈ param.gvalue, KeepsValue isLast gvalue) ↔
      readPiece param.body = some param ∧ (nextParam (';' :: param.body)).2 = none ∧
        (LeftOpen param.body → isLast) := by
  rw [readPiece_body h, nextParam_body h, leftOpen_body h]
  cases hvalue : param.gvalue with
  | none => simp
  | some gvalue =>
      have hall : ∀ P : Str → Prop, (∀ value ∈ some gvalue, P value) ↔ P gvalue := by simp
      have hex : ∀ P : Str → Prop, (∃ value ∈ some gvalue, P value) ↔ P gvalue := by simp
      rw [hall, hall, hall, hex, KeepsValue]
      refine and_congr_right fun _ => ?_
      split_ifs with hquote
      · cases hclosing : osipQuoteFind gvalue.tail with
        | none => simp [hquote]
        | some closing => simp
      · simp [hquote]

theorem readPieces_cons_ne {piece : Str} {rest : List Str} {param : GenericParam}
    {params : List GenericParam} (hpiece : readPiece piece ≠ some param) (hrest : rest ≠ []) :
    readPieces (piece :: rest) ≠ some (param :: params) := by
  rw [readPieces_cons piece hrest]
  intro heq
  obtain ⟨read, hread, heq⟩ := Option.bind_eq_some_iff.1 heq
  obtain ⟨tail, -, heq⟩ := Option.map_eq_some_iff.1 heq
  exact hpiece (hread.trans (congrArg some (List.cons.inj heq).1))

theorem readPieces_cons_iff {piece : Str} {rest : List Str} {param : GenericParam}
    {params : List GenericParam} (hrest : rest ≠ []) :
    readPieces (piece :: rest) = some (param :: params) ↔
      readPiece piece = some param ∧ readPieces rest = some params := by
  rw [readPieces_cons piece hrest]
  constructor
  · intro heq
    obtain ⟨read, hread, heq⟩ := Option.bind_eq_some_iff.1 heq
    obtain ⟨tail, htail, heq⟩ := Option.map_eq_some_iff.1 heq
    obtain ⟨rfl, rfl⟩ := List.cons.inj heq
    exact ⟨hread, htail⟩
  · rintro ⟨hread, htail⟩
    rw [hread, htail]
    rfl

theorem length_of_readLastPiece {piece : Str} {params : List GenericParam}
    (h : readLastPiece piece = some params) : params.length ≤ 1 := by
  unfold readLastPiece at h
  split_ifs at h
  · cases h
    exact Nat.zero_le 1
  · split at h
    · cases h
      exact le_refl 1
    · dsimp only at h
      split_ifs at h
      · cases h
        exact le_refl 1
      · cases h
        exact le_refl 1

theorem readPieces_toStr_cons {param : GenericParam} (h : param.IsTrimmed)
    (params : List GenericParam) :
    readPieces (pieces (';' :: (param.body ++ params.flatMap toStr))) = some (param :: params) ↔
      (∀ gvalue ∈ param.gvalue, KeepsValue (params = []) gvalue) ∧
        (params ≠ [] → readPieces (pieces (params.flatMap toStr)) = some params) := by
  rw [keepsValue_iff h]
  cases hnext : (nextParam (';' :: param.body)).2 with
  | some comma =>
      obtain ⟨piece, hbody, hsemi, -⟩ := nextParam_cases ';' param.body
      rw [hnext, Option.getD_some] at hbody
      obtain ⟨more, rfl⟩ := List.head?_eq_some_iff.1 (hsemi comma hnext)
      have hwhole := nextParam_append hnext (params.flatMap toStr)
      rw [pieces_eq, hwhole]
      dsimp only
      rw [List.tail_cons, hbody, List.append_assoc, pointerDiff_cons, Nat.add_sub_cancel,
        osipStrncpy, List.take_left]
      exact iff_of_false (readPieces_cons_ne (readPiece_shorter h hbody) (pieces_ne_nil _))
        fun hkeeps => by cases hkeeps.1.2.1
  | none =>
      cases params with
      | nil =>
          rw [List.flatMap_nil, List.append_nil, pieces_eq, hnext]
          dsimp only
          rw [List.tail_cons, readPieces, readLastPiece_body h]
          cases readPiece param.body with
          | none => simp
          | some read => simp
      | cons next params =>
          have hrest : (next :: params).flatMap toStr =
              ';' :: (next.body ++ params.flatMap toStr) := by
            rw [List.flatMap_cons, toStr_eq, List.cons_append]
          rw [hrest, pieces_eq, nextParam_append_of_none hnext]
          by_cases hopen : LeftOpen param.body
          · rw [if_pos hopen]
            refine iff_of_false ?_ fun hkeeps => by cases hkeeps.1.2.2 hopen
            obtain ⟨gvalue, hvalue, -⟩ := (leftOpen_body h).1 hopen
            cases hbehind : (findQuote false (next.body ++ params.flatMap toStr)).bind
              (strchr · ';') with
            | none =>
                dsimp only
                rw [readPieces]
                intro hread
                have hlength := length_of_readLastPiece hread
                simp at hlength
            | some comma =>
                obtain ⟨found, hfound, hcomma⟩ := Option.bind_eq_some_iff.1 hbehind
                obtain ⟨mid, hmid⟩ := (strchr_suffix hcomma).trans (findQuote_suffix hfound)
                dsimp only
                rw [List.tail_cons, ← hmid, ← List.cons_append, ← List.append_assoc,
                  pointerDiff_cons, Nat.add_sub_cancel, osipStrncpy, List.take_left]
                exact readPieces_cons_ne (readPiece_longer h hvalue mid) (pieces_ne_nil _)
          · rw [if_neg hopen]
            dsimp only
            rw [List.tail_cons, pointerDiff_cons, Nat.add_sub_cancel, osipStrncpy, List.take_left,
              readPieces_cons_iff (pieces_ne_nil _)]
            simp [hopen]

theorem parseall_toStr {params : List GenericParam} (hne : params ≠ [])
    (h : ∀ param ∈ params, param.IsTrimmed) :
    parseall [] (params.flatMap toStr) = .ok params ↔ KeepsParams params := by
  have hread : readPieces (pieces (params.flatMap toStr)) = some params ↔ KeepsParams params := by
    induction params with
    | nil => exact absurd rfl hne
    | cons param params ih =>
        rw [List.forall_mem_cons] at h
        rw [List.flatMap_cons, toStr_eq, List.cons_append, readPieces_toStr_cons h.1, KeepsParams]
        refine and_congr_right fun _ => ?_
        by_cases hlast : params = []
        · rw [hlast]
          exact iff_of_true (fun h => absurd rfl h) trivial
        · rw [← ih hlast h.2]
          exact forall_prop_of_true hlast
  obtain ⟨param, params, rfl⟩ := List.exists_cons_of_ne_nil hne
  rw [← hread, List.flatMap_cons, toStr_eq, List.cons_append, parseall_pieces]
  cases readPieces (pieces (';' :: (param.body ++ params.flatMap toStr))) with
  | none => exact iff_of_false (fun h => by cases h) fun h => by cases h
  | some read =>
      rw [addRead, List.nil_append]
      exact ⟨fun h => congrArg some (Except.ok.inj h), fun h => congrArg _ (Option.some.inj h)⟩

end GenericParam

/-! ### The sent-by part -/

/-- The host and the port, as the parser reads them between the space and the parameters. -/
def viaSentBy (host params : Str) : Except Int (Option Str × Option Str) := do
  let (ipv6host, portStart) ← viaIpv6host host params
  let (port, hostEnd) ← viaPort portStart params
  syntaxCheck (ipv6host.isSome ∨ 2 ≤ pointerDiff hostEnd host)
  .ok (some (ipv6host.getD (osipClrncpy host.tail (pointerDiff hostEnd host - 1))), port)

section SentBy

variable {front params : Str}

theorem strchr_append_of_none {c : Char} (h : strchr front c = none) (rest : Str) :
    strchr (front ++ rest) c = strchr rest c :=
  strchr_append (strchr_eq_none_iff.1 h) rest

theorem viaPort_strchr (front params : Str) :
    viaPort (strchr (front ++ params) ':') params =
      match strchr front ':' with
      | none => .ok (none, params)
      | some port =>
          if port.tail = [] ∨ osipAtoi (osipClrspace port.tail) < 0 then .error osipSyntaxerror
          else .ok (some (osipClrspace port.tail), port ++ params) := by
  cases hfront : strchr front ':' with
  | none =>
      rw [strchr_append_of_none hfront]
      cases hparams : strchr params ':' with
      | none => rfl
      | some port =>
          have hle := strchr_length_le hparams
          rw [viaPort, if_neg (by omega)]
  | some port =>
      obtain ⟨before, text, -, -, rfl⟩ := strchr_eq_some_iff.1 hfront
      rw [strchr_append_of_some hfront, viaPort]
      have hlonger : params.length < (':' :: text ++ params).length := by
        simp only [List.length_append, List.length_cons]
        omega
      rw [if_pos hlonger, List.cons_append, pointerDiff_cons, List.tail_cons]
      dsimp only
      rw [Nat.add_sub_cancel, osipClrncpy, List.take_left, List.tail_cons]
      by_cases htext : text = []
      · rw [if_pos (by rw [htext]; decide), if_pos (Or.inl htext)]
      · have hpos := List.length_pos_iff.2 htext
        rw [if_neg (by omega)]
        simp only [htext, false_or]
        rfl

theorem viaSentBy_brackets {before inside after : Str} (hbefore : '[' ∉ before)
    (hinside : ']' ∉ inside) (hne : inside ≠ []) (params : Str) :
    viaSentBy (' ' :: (before ++ '[' :: (inside ++ ']' :: after) ++ params)) params =
      match strchr after ':' with
      | none => .ok (some (osipClrspace inside), none)
      | some port =>
          if port.tail = [] ∨ osipAtoi (osipClrspace port.tail) < 0 then .error osipSyntaxerror
          else .ok (some (osipClrspace inside), some (osipClrspace port.tail)) := by
  have hopen : strchr (' ' :: (before ++ '[' :: (inside ++ ']' :: after) ++ params)) '[' =
      some ('[' :: (inside ++ ']' :: (after ++ params))) := by
    rw [strchr, if_neg (by decide), List.append_assoc, strchr_append hbefore, List.cons_append,
      strchr, if_pos rfl, List.append_assoc, List.cons_append]
  have hclose : strchr ('[' :: (inside ++ ']' :: (after ++ params))) ']' =
      some (']' :: (after ++ params)) := by
    rw [strchr, if_neg (by decide), strchr_append hinside, strchr, if_pos rfl]
  have hlonger : params.length < ('[' :: (inside ++ ']' :: (after ++ params))).length := by
    simp only [List.length_append, List.length_cons]
    omega
  have hpos := List.length_pos_iff.2 hne
  have hwithin : ¬ ((']' :: (after ++ params)).length < params.length ∨ inside.length + 1 < 2) := by
    simp only [List.length_append, List.length_cons]
    omega
  have hport : viaPort (strchr (']' :: (after ++ params)) ':') params =
      viaPort (strchr (after ++ params) ':') params := by
    rw [strchr, if_neg (by decide)]
  rw [viaSentBy, viaIpv6host, hopen]
  dsimp only
  rw [if_pos hlonger, hclose]
  dsimp only
  rw [pointerDiff_cons, if_neg hwithin, List.tail_cons, Nat.add_sub_cancel, osipClrncpy,
    List.take_left]
  change (viaPort (strchr (']' :: (after ++ params)) ':') params >>= _) = _
  rw [hport, viaPort_strchr]
  cases strchr after ':' with
  | none => rfl
  | some port =>
      dsimp only
      split_ifs
      · rfl
      · rfl

theorem viaSentBy_refused {before rest : Str} (hbefore : '[' ∉ before)
    (hclose : ∀ port, strchr ('[' :: (rest ++ params)) ']' = some port →
      port.length < params.length ∨ pointerDiff port ('[' :: (rest ++ params)) < 2) :
    viaSentBy (' ' :: (before ++ ('[' :: rest ++ params))) params = .error osipSyntaxerror := by
  have hopen : strchr (' ' :: (before ++ ('[' :: rest ++ params))) '[' =
      some ('[' :: (rest ++ params)) := by
    rw [strchr, if_neg (by decide), strchr_append hbefore, List.cons_append, strchr, if_pos rfl]
  have hlonger : params.length < ('[' :: (rest ++ params)).length := by
    simp only [List.length_append, List.length_cons]
    omega
  have hrefused : viaIpv6host (' ' :: (before ++ ('[' :: rest ++ params))) params =
      .error osipSyntaxerror := by
    rw [viaIpv6host, hopen]
    dsimp only
    rw [if_pos hlonger]
    cases hfound : strchr ('[' :: (rest ++ params)) ']' with
    | none => rfl
    | some port => exact if_pos (hclose port hfound)
  rw [viaSentBy, hrefused]
  rfl

theorem viaSentBy_name (hfront : '[' ∉ front) (hne : front ≠ []) (params : Str) :
    viaSentBy (' ' :: (front ++ params)) params =
      match strchr front ':' with
      | none => .ok (some (osipClrspace front), none)
      | some port =>
          if port.tail = [] ∨ osipAtoi (osipClrspace port.tail) < 0 ∨ front = port then
            .error osipSyntaxerror
          else
            .ok (some (osipClrspace (front.take (pointerDiff port front))),
              some (osipClrspace port.tail)) := by
  have hbrackets : viaIpv6host (' ' :: (front ++ params)) params =
      .ok (none, strchr (front ++ params) ':') := by
    have hskip : strchr (' ' :: (front ++ params)) ':' = strchr (front ++ params) ':' := by
      rw [strchr, if_neg (by decide)]
    unfold viaIpv6host
    rw [hskip, strchr, if_neg (by decide), strchr_append hfront]
    cases hopen : strchr params '[' with
    | none => rfl
    | some ipv6host =>
        have hle := strchr_length_le hopen
        exact if_neg (by omega)
  have hpos := List.length_pos_iff.2 hne
  rw [viaSentBy, hbrackets]
  change (viaPort (strchr (front ++ params) ':') params >>= _) = _
  rw [viaPort_strchr]
  cases hcolon : strchr front ':' with
  | none =>
      change (syntaxCheck
        (false = true ∨ 2 ≤ pointerDiff params (' ' :: (front ++ params))) >>= _) = _
      rw [pointerDiff_cons, syntaxCheck, if_pos (Or.inr (by omega)), List.tail_cons,
        Nat.add_sub_cancel, osipClrncpy, List.take_left]
      rfl
  | some port =>
      obtain ⟨before, text, rfl, -, rfl⟩ := strchr_eq_some_iff.1 hcolon
      dsimp only
      rw [pointerDiff_append, List.take_left]
      by_cases hport : (':' :: text).tail = [] ∨ osipAtoi (osipClrspace (':' :: text).tail) < 0
      · rw [if_pos hport, if_pos (by rw [← or_assoc]; exact Or.inl hport)]
        rfl
      · rw [if_neg hport]
        change (syntaxCheck (false = true ∨ 2 ≤ pointerDiff (':' :: text ++ params)
          (' ' :: (before ++ ':' :: text ++ params))) >>= _) = _
        rw [List.append_assoc, pointerDiff_cons, syntaxCheck, List.tail_cons, Nat.add_sub_cancel,
          osipClrncpy, List.take_left]
        by_cases hbefore : before = []
        · rw [if_neg (by simp [hbefore]),
            if_pos (Or.inr (Or.inr (by rw [hbefore, List.nil_append])))]
          rfl
        · have hpos := List.length_pos_iff.2 hbefore
          rw [if_pos (Or.inr (by omega)), if_neg]
          · rfl
          · rw [← or_assoc, not_or]
            exact ⟨hport, by simpa using hbefore⟩

end SentBy

/-! ### The round trip -/

namespace Via

/-- No character that the searches of the parser stop at. -/
def IsPlain (s : Str) : Prop := s ≠ [] ∧ osipClrspace s = s ∧ ∀ c ∈ s, c ∉ "()[];".toList

structure WellFormed (via : Via) : Prop where
  version : ∃ version, via.version = some version ∧ version ≠ [] ∧
    ∀ c ∈ version, isBlank c = false ∧ c ≠ '/'
  protocol : ∃ protocol, via.protocol = some protocol ∧ protocol ≠ [] ∧
    ∀ c ∈ protocol, isBlank c = false ∧ c ≠ '/'
  /-- A name, or with a ':' an IPv6 address. -/
  host : ∃ host, via.host = some host ∧ IsPlain host
  port : ∀ port ∈ via.port, IsPlain port ∧ 0 ≤ osipAtoi port
  trimmed : ∀ param ∈ via.viaParams, param.IsTrimmed
  opening : '(' ∉ via.viaParams.flatMap GenericParam.toStr
  closing : via.comment.isSome → ')' ∉ via.viaParams.flatMap GenericParam.toStr
  comment : ∀ comment ∈ via.comment, comment ≠ [] ∧ ')' ∉ comment

/-- The host, in brackets when it has a ':', and the port. -/
def sentBy (via : Via) : Str :=
  let host := via.host.getD []
  (if ':' ∈ host then '[' :: (host ++ [']']) else host) ++ (via.port.map (':' :: ·)).getD []

def commentText (via : Via) : Str :=
  (via.comment.map fun comment => ' ' :: '(' :: (comment ++ [')'])).getD []

/-- The host and the port stand in the text, the former in its first brackets. -/
def NamesSentBy (via : Via) (text : Str) : Prop :=
  ∃ before inside after, text = before ++ '[' :: (inside ++ ']' :: after) ∧ '[' ∉ before ∧
    ']' ∉ inside ∧ via.host = some (osipClrspace inside) ∧
    via.port = (strchr after ':').map fun port => osipClrspace port.tail

/-- A ';' in the comment is where the sent-by part ends if there are no parameters. -/
def KeepsSentBy (via : Via) : Prop :=
  via.viaParams = [] → ';' ∈ via.commentText →
    NamesSentBy via (via.sentBy ++ via.commentText.takeWhile (· != ';'))

/-- What `osip_via_to_str` prints is parsed to the same header. -/
def RoundTrips (via : Via) : Prop :=
  ∃ text, osipViaToStr via = .ok text ∧ osipViaParse text = .ok via

variable {via : Via}

theorem IsPlain.notMem {s : Str} (h : IsPlain s) {c : Char} (hc : c ∈ "()[];".toList) : c ∉ s :=
  fun hmem => h.2.2 c hmem hc

theorem osipViaToStr_eq {version protocol host : Str} (hversion : via.version = some version)
    (hprotocol : via.protocol = some protocol) (hhost : via.host = some host) :
    osipViaToStr via = .ok ("SIP".toList ++ '/' :: (version ++ '/' :: (protocol ++ ' ' ::
      (via.sentBy ++ (via.viaParams.flatMap GenericParam.toStr ++ via.commentText))))) := by
  have hcolon : (strchr host ':').isSome = true ↔ ':' ∈ host := by
    rw [Option.isSome_iff_ne_none, Ne, strchr_eq_none_iff, not_not]
  rw [osipViaToStr, hhost, hversion, hprotocol]
  simp only [sentBy, commentText, hhost, Option.getD_some, hcolon]
  cases via.port <;> cases via.comment <;> split_ifs <;> simp

def parseBehind (version protocol : Option Str) (host : Str) : Except Int Via := do
  let (comment, commentStart) ← viaComment host
  let (viaParams, params) ← Exosip.viaParams host commentStart
  let (host, port) ← viaSentBy host params
  .ok { version, protocol, host, port, comment, viaParams }

theorem strchrOrError_append {t : Str} {c : Char} (h : c ∉ t) (rest : Str) :
    strchrOrError (t ++ c :: rest) c = .ok (c :: rest) := by
  rw [strchrOrError, strchr_append h, strchr, if_pos rfl]

theorem viaHost_protocol {protocol : Str} (hne : protocol ≠ [])
    (hspace : ∀ c ∈ protocol, isBlank c = false ∧ c ≠ '/') (behind : Str) :
    viaHost ('/' :: (protocol ++ ' ' :: behind)) = .ok (' ' :: behind) := by
  have hlonger : (' ' :: behind).length ≠ (protocol ++ ' ' :: behind).length := by
    have hpos := List.length_pos_iff.2 hne
    rw [List.length_append]
    omega
  rw [viaHost, List.tail_cons, strchrOrError_append fun hmem => by cases (hspace ' ' hmem).1]
  exact if_neg hlonger

theorem osipViaParse_head {version protocol : Str} (hversion : version ≠ [])
    (hprotocol : protocol ≠ []) (hslash : ∀ c ∈ version, isBlank c = false ∧ c ≠ '/')
    (hspace : ∀ c ∈ protocol, isBlank c = false ∧ c ≠ '/') (behind : Str) :
    osipViaParse ("SIP".toList ++ '/' :: (version ++ '/' :: (protocol ++ ' ' :: behind))) =
      parseBehind (some version) (some protocol) (' ' :: behind) := by
  have hcopy {s : Str} (h : ∀ c ∈ s, isBlank c = false ∧ c ≠ '/') (rest : Str) :
      osipClrncpy (s ++ rest) (s.length + 1 - 1) = s := by
    rw [Nat.add_sub_cancel, osipClrncpy, List.take_left,
      osipClrspace_of_no_blank fun c hc => (h c hc).1]
  have hversionPos := List.length_pos_iff.2 hversion
  have hprotocolPos := List.length_pos_iff.2 hprotocol
  have hcheck : ∀ n : Nat, 0 < n → syntaxCheck (2 ≤ n + 1) = .ok () := fun n hn => if_pos (by omega)
  unfold osipViaParse
  rw [strchrOrError_append (by decide)]
  change (strchrOrError (version ++ '/' :: (protocol ++ ' ' :: behind)) '/' >>= _) = _
  rw [strchrOrError_append fun hmem => (hslash '/' hmem).2 rfl]
  change (syntaxCheck (2 ≤ pointerDiff ('/' :: (protocol ++ ' ' :: behind))
    ('/' :: (version ++ '/' :: (protocol ++ ' ' :: behind)))) >>= _) = _
  rw [pointerDiff_cons, hcheck _ hversionPos]
  change (viaHost ('/' :: (protocol ++ ' ' :: behind)) >>= _) = _
  rw [viaHost_protocol hprotocol hspace]
  change (syntaxCheck
    (2 ≤ pointerDiff (' ' :: behind) ('/' :: (protocol ++ ' ' :: behind))) >>= _) = _
  rw [pointerDiff_cons, hcheck _ hprotocolPos]
  dsimp only [List.tail_cons]
  rw [hcopy hslash, hcopy hspace, parseBehind]
  change (viaComment (' ' :: behind) >>= _) = _
  cases viaComment (' ' :: behind) with
  | error i => rfl
  | ok comment =>
      change (Exosip.viaParams (' ' :: behind) comment.2 >>= _) =
        (Exosip.viaParams (' ' :: behind) comment.2 >>= _)
      cases Exosip.viaParams (' ' :: behind) comment.2 with
      | error i => rfl
      | ok params =>
          change (viaIpv6host (' ' :: behind) params.2 >>= _) =
            ((viaIpv6host (' ' :: behind) params.2 >>= _) >>= _)
          cases viaIpv6host (' ' :: behind) params.2 with
          | error i => rfl
          | ok ipv6host =>
              change (viaPort ipv6host.2 params.2 >>= _) =
                ((viaPort ipv6host.2 params.2 >>= _) >>= _)
              cases viaPort ipv6host.2 params.2 with
              | error i => rfl
              | ok port =>
                  change (syntaxCheck _ >>= _) = ((syntaxCheck _ >>= _) >>= _)
                  unfold syntaxCheck
                  split_ifs
                  · rfl
                  · rfl

theorem WellFormed.sentBy_notMem (h : via.WellFormed) {c : Char} (hc : c ∈ "();".toList) :
    c ∉ via.sentBy := by
  obtain ⟨host, hhost, hplain⟩ := h.host
  have hall : ∀ c ∈ "();".toList, c ∈ "()[];".toList ∧ c ≠ '[' ∧ c ≠ ']' ∧ c ≠ ':' :=
    List.all_iff_forall_prop.1 rfl
  obtain ⟨hc, hopen, hclose, hcolon⟩ := hall c hc
  rw [sentBy, hhost, Option.getD_some, List.mem_append, not_or]
  constructor
  · split_ifs
    · simp [hopen, hclose, hplain.notMem hc]
    · exact hplain.notMem hc
  · cases hport : via.port with
    | none => simp
    | some port => simp [hcolon, (h.port port hport).1.notMem hc]

theorem WellFormed.viaComment_eq (h : via.WellFormed) :
    viaComment
        (' ' :: (via.sentBy ++ (via.viaParams.flatMap GenericParam.toStr ++ via.commentText))) =
      .ok (via.comment, via.commentText) := by
  have hopen := h.sentBy_notMem (c := '(') (by decide)
  have hclose := h.sentBy_notMem (c := ')') (by decide)
  have hopening := h.opening
  have hclosing := h.closing
  generalize via.viaParams.flatMap GenericParam.toStr = params at hopening hclosing ⊢
  cases hcomment : via.comment with
  | none =>
      have htext : via.commentText = [] := by rw [commentText, hcomment]; rfl
      have hnone : strchr (' ' :: (via.sentBy ++ (params ++ []))) '(' = none := by
        rw [strchr_eq_none_iff]
        simp [hopen, hopening]
      rw [htext, viaComment, hnone]
  | some comment =>
      obtain ⟨hne, hnot⟩ := h.comment comment hcomment
      have hparams := hclosing (by rw [hcomment]; rfl)
      have htext : via.commentText = ' ' :: '(' :: (comment ++ [')']) := by
        rw [commentText, hcomment]
        rfl
      have hsplit : ' ' :: (via.sentBy ++ (params ++ via.commentText)) =
          (' ' :: (via.sentBy ++ (params ++ [' ']))) ++ '(' :: (comment ++ [')']) := by
        rw [htext]
        simp
      have hfound : strchr (' ' :: (via.sentBy ++ (params ++ via.commentText))) '(' =
          some ('(' :: (comment ++ [')'])) := by
        rw [hsplit, strchr_append (by simp [hopen, hopening]), strchr, if_pos rfl]
      have hend : strchr (' ' :: (via.sentBy ++ (params ++ via.commentText))) ')' = some [')'] := by
        rw [hsplit, strchr_append (by simp [hclose, hparams]), strchr, if_neg (by decide),
          strchr_append hnot, strchr, if_pos rfl]
      have hpos := List.length_pos_iff.2 hne
      rw [viaComment, hfound]
      dsimp only
      rw [hend]
      dsimp only
      rw [pointerDiff_cons, if_neg (by omega), Nat.add_sub_cancel, List.tail_cons, osipStrncpy,
        List.take_left]
      have hstart : pointerDiff ('(' :: (comment ++ [')']))
          (' ' :: (via.sentBy ++ (params ++ via.commentText))) - 1 =
            (' ' :: (via.sentBy ++ params)).length := by
        rw [hsplit, pointerDiff_append]
        simp only [List.length_cons, List.length_append, List.length_nil]
        omega
      rw [hstart, ← List.append_assoc]
      exact congrArg (fun start => Except.ok (some comment, start)) List.drop_left

/-- Parameters begin at the first ';'. -/
theorem viaParams_semicolon {front : Str} (hfront : ';' ∉ front) (params comment : Str) :
    Exosip.viaParams (' ' :: (front ++ (';' :: params ++ comment))) comment =
      GenericParam.parseall [] (';' :: params) >>= fun parsed =>
        .ok (parsed, ';' :: params ++ comment) := by
  have hfound : strchr (' ' :: (front ++ (';' :: params ++ comment))) ';' =
      some (';' :: params ++ comment) := by
    rw [strchr, if_neg (by decide), strchr_append hfront, List.cons_append, strchr, if_pos rfl]
  have hlonger : comment.length < (';' :: params ++ comment).length := by
    simp only [List.length_append, List.length_cons]
    omega
  rw [Exosip.viaParams, hfound]
  dsimp only
  rw [if_pos hlonger, pointerDiff_append, osipStrncpy, List.take_left]

theorem viaParams_nil {front : Str} (hfront : ';' ∉ front) {comment : Str}
    (hcomment : ';' ∉ comment) :
    Exosip.viaParams (' ' :: (front ++ comment)) comment = .ok ([], comment) := by
  rw [Exosip.viaParams, strchr, if_neg (by decide), strchr_append hfront,
    strchr_eq_none_iff.2 hcomment]

/-- A ';' in the comment does not begin the parameters, but it ends the sent-by part. -/
theorem viaParams_comment {front : Str} (hfront : ';' ∉ front) {comment before behind : Str}
    (hcomment : comment = before ++ ';' :: behind) (hbefore : ';' ∉ before) :
    Exosip.viaParams (' ' :: (front ++ comment)) comment = .ok ([], ';' :: behind) := by
  have hle : ¬ comment.length < (';' :: behind).length := by
    rw [hcomment, List.length_append]
    omega
  rw [Exosip.viaParams, strchr, if_neg (by decide), strchr_append hfront, hcomment,
    strchr_append hbefore, strchr, if_pos rfl, ← hcomment]
  exact if_neg hle

/-! ### The sent-by part of a printed header -/

theorem namesSentBy_iff {before inside after : Str} (hbefore : '[' ∉ before)
    (hinside : ']' ∉ inside) :
    via.NamesSentBy (before ++ '[' :: (inside ++ ']' :: after)) ↔
      via.host = some (osipClrspace inside) ∧
        via.port = (strchr after ':').map fun port => osipClrspace port.tail := by
  constructor
  · rintro ⟨before', inside', after', htext, hbefore', hinside', hhost, hport⟩
    have hopen := congrArg (strchr · '[') htext
    simp only [strchr_append hbefore, strchr_append hbefore', strchr, if_pos] at hopen
    have hbehind := (List.cons.inj (Option.some.inj hopen)).2
    have hclose := congrArg (strchr · ']') hbehind
    simp only [strchr_append hinside, strchr_append hinside', strchr, if_pos] at hclose
    have hafter := (List.cons.inj (Option.some.inj hclose)).2
    subst hafter
    obtain rfl := List.append_cancel_right hbehind
    exact ⟨hhost, hport⟩
  · rintro ⟨hhost, hport⟩
    exact ⟨before, inside, after, rfl, hbefore, hinside, hhost, hport⟩

theorem WellFormed.viaSentBy_eq (h : via.WellFormed) (params : Str) :
    viaSentBy (' ' :: (via.sentBy ++ params)) params = .ok (via.host, via.port) := by
  obtain ⟨host, hhost, hplain⟩ := h.host
  have hportText : ∀ port ∈ via.port, port ≠ [] ∧ osipClrspace port = port ∧ ¬ osipAtoi port < 0 ∧
      '[' ∉ port := by
    intro port hport
    obtain ⟨hport, hatoi⟩ := h.port port hport
    exact ⟨hport.1, hport.2.1, not_lt.2 hatoi, hport.notMem (by decide)⟩
  rw [sentBy, hhost, Option.getD_some]
  by_cases hcolon : ':' ∈ host
  · have hsplit (after : Str) : '[' :: (host ++ [']']) ++ after =
        [] ++ '[' :: (host ++ ']' :: after) := by
      simp
    rw [if_pos hcolon, hsplit,
      viaSentBy_brackets List.not_mem_nil (hplain.notMem (by decide)) hplain.1,
      hplain.2.1]
    cases hport : via.port with
    | none => rfl
    | some port =>
        obtain ⟨hne, htrim, hatoi, -⟩ := hportText port hport
        rw [Option.map_some, Option.getD_some, strchr, if_pos rfl]
        dsimp only
        rw [List.tail_cons, htrim, if_neg (not_or.2 ⟨hne, hatoi⟩)]
  · rw [if_neg hcolon]
    have hopen : '[' ∉ host := hplain.notMem (by decide)
    cases hport : via.port with
    | none =>
        rw [Option.map_none, Option.getD_none, List.append_nil, viaSentBy_name hopen hplain.1,
          strchr_eq_none_iff.2 hcolon, hplain.2.1]
    | some port =>
        obtain ⟨hne, htrim, hatoi, hnot⟩ := hportText port hport
        have hbrackets : '[' ∉ host ++ ':' :: port := by simp [hopen, hnot]
        have hlonger : host ++ ':' :: port ≠ ':' :: port := fun heq =>
          hplain.1 (List.append_cancel_right (heq.trans (List.nil_append _).symm))
        rw [Option.map_some, Option.getD_some, viaSentBy_name hbrackets (by simp),
          strchr_append hcolon,
          strchr, if_pos rfl]
        dsimp only
        rw [List.tail_cons, htrim, pointerDiff_append, List.take_left, hplain.2.1,
          if_neg (not_or.2 ⟨hne, not_or.2 ⟨hatoi, hlonger⟩⟩)]

/-- Up to a ';' in the comment the text is read as the sent-by part only if its brackets say so. -/
theorem WellFormed.viaSentBy_iff (h : via.WellFormed) {text : Str} (htext : '(' ∈ text)
    (behind : Str) :
    viaSentBy (' ' :: (text ++ ';' :: behind)) (';' :: behind) = .ok (via.host, via.port) ↔
      via.NamesSentBy text := by
  obtain ⟨host, hhost, hplain⟩ := h.host
  have hparen : ∀ {s : Str}, '(' ∈ s → some (osipClrspace s) ≠ via.host ∧
      some (osipClrspace s) ≠ via.port := by
    intro s hmem
    have hmem := mem_osipClrspace (by decide) hmem
    refine ⟨fun heq => ?_, fun heq => ?_⟩
    · rw [← heq] at hhost
      exact hplain.notMem (c := '(') (by decide) (Option.some.inj hhost ▸ hmem)
    · exact (h.port _ heq.symm).1.notMem (c := '(') (by decide) hmem
  by_cases hopen : '[' ∈ text
  · obtain ⟨before, rest, rfl, hbefore⟩ := List.eq_append_cons_of_mem hopen
    by_cases hclose : ']' ∈ rest
    · obtain ⟨inside, after, rfl, hinside⟩ := List.eq_append_cons_of_mem hclose
      rw [namesSentBy_iff hbefore hinside]
      by_cases hempty : inside = []
      · refine iff_of_false (fun hread => ?_) fun hnames => ?_
        · rw [hempty, List.append_assoc, viaSentBy_refused hbefore] at hread
          · cases hread
          · intro port hport
            rw [List.nil_append, List.cons_append, strchr, if_neg (by decide), strchr,
              if_pos rfl] at hport
            cases hport
            refine Or.inr ?_
            change pointerDiff (']' :: (after ++ ';' :: behind))
              ('[' :: ([] ++ ']' :: (after ++ ';' :: behind))) < 2
            rw [pointerDiff_cons]
            decide
        · rw [hhost, hempty] at hnames
          exact hplain.1 (Option.some.inj hnames.1)
      · rw [viaSentBy_brackets hbefore hinside hempty]
        cases strchr after ':' with
        | none => simp [eq_comm]
        | some port =>
            dsimp only
            split_ifs with hrefused
            · refine iff_of_false (fun h => by cases h) ?_
              rintro ⟨-, hport⟩
              obtain ⟨⟨hne, -⟩, hatoi⟩ := h.port (osipClrspace port.tail) hport
              obtain htail | hnegative := hrefused
              · rw [htail] at hne
                exact hne rfl
              · omega
            · simp [eq_comm]
    · refine iff_of_false (fun hread => ?_) ?_
      · rw [List.append_assoc, viaSentBy_refused hbefore] at hread
        · cases hread
        · intro port hport
          rw [strchr, if_neg (by decide), strchr_append hclose, strchr, if_neg (by decide)] at hport
          have hle := strchr_length_le hport
          exact Or.inl (Nat.lt_succ_of_le hle)
      · rintro ⟨before', inside, after, htext, hbefore', -⟩
        have hfound := congrArg (strchr · '[') htext
        simp only [strchr_append hbefore, strchr_append hbefore', strchr, if_pos] at hfound
        rw [(List.cons.inj (Option.some.inj hfound)).2] at hclose
        exact hclose (List.mem_append_right inside List.mem_cons_self)
  · refine iff_of_false (fun hread => ?_) ?_
    · rw [viaSentBy_name hopen (List.ne_nil_of_mem htext)] at hread
      cases hcolon : strchr text ':' with
      | none =>
          rw [hcolon] at hread
          exact (hparen htext).1 (Prod.mk.inj (Except.ok.inj hread)).1
      | some port =>
          obtain ⟨before, after, rfl, -, rfl⟩ := strchr_eq_some_iff.1 hcolon
          rw [hcolon] at hread
          dsimp only at hread
          split_ifs at hread
          rw [pointerDiff_append, List.take_left] at hread
          obtain ⟨hread, hport⟩ := Prod.mk.inj (Except.ok.inj hread)
          obtain hmem | hmem := List.mem_append.1 htext
          · exact (hparen hmem).1 hread
          · exact (hparen (List.mem_of_ne_of_mem (by decide) hmem)).2 hport
    · rintro ⟨before, inside, after, rfl, -⟩
      exact hopen (by simp)

/-! ### The header -/

theorem parseBehind_eq_ok_iff {host commentStart params : Str} {parsed : List GenericParam}
    (hcomment : viaComment host = .ok (via.comment, commentStart))
    (hparams : Exosip.viaParams host commentStart = .ok (parsed, params)) :
    parseBehind via.version via.protocol host = .ok via ↔
      parsed = via.viaParams ∧ viaSentBy host params = .ok (via.host, via.port) := by
  rw [parseBehind, hcomment]
  change (Exosip.viaParams host commentStart >>= _) = _ ↔ _
  rw [hparams]
  change (viaSentBy host params >>= _) = _ ↔ _
  cases viaSentBy host params with
  | error i => exact iff_of_false (fun h => by cases h) fun h => by cases h.2
  | ok sentBy =>
      obtain ⟨host, port⟩ := sentBy
      constructor
      · intro heq
        have hvia := Except.ok.inj heq
        exact ⟨congrArg Via.viaParams hvia,
          congrArg (fun via : Via => Except.ok (via.host, via.port)) hvia⟩
      · rintro ⟨rfl, heq⟩
        cases Except.ok.inj heq
        rfl

theorem WellFormed.roundTrips_parseBehind (h : via.WellFormed) :
    via.RoundTrips ↔ parseBehind via.version via.protocol
      (' ' :: (via.sentBy ++ (via.viaParams.flatMap GenericParam.toStr ++ via.commentText))) =
        .ok via := by
  obtain ⟨version, hversion, hversionNe, hslash⟩ := h.version
  obtain ⟨protocol, hprotocol, hprotocolNe, hspace⟩ := h.protocol
  obtain ⟨host, hhost, -⟩ := h.host
  rw [RoundTrips, osipViaToStr_eq hversion hprotocol hhost, hversion, hprotocol,
    ← osipViaParse_head hversionNe hprotocolNe hslash hspace]
  simp only [Except.ok.injEq, exists_eq_left']

/-- Where the text of the comment is cut at its first ';'. -/
theorem commentText_split (h : ';' ∈ via.commentText) :
    ∃ behind, via.commentText = via.commentText.takeWhile (· != ';') ++ ';' :: behind ∧
      '(' ∈ via.commentText.takeWhile (· != ';') := by
  obtain ⟨before, behind, hsplit, hbefore⟩ := List.eq_append_cons_of_mem h
  have htake : via.commentText.takeWhile (· != ';') = before := by
    rw [hsplit, List.takeWhile_append_of_pos
      fun c hc => bne_iff_ne.2 (ne_of_mem_of_not_mem hc hbefore)]
    simp
  refine ⟨behind, by rw [htake, ← hsplit], ?_⟩
  cases hcomment : via.comment with
  | none =>
      rw [commentText, hcomment] at h
      cases h
  | some comment =>
      rw [commentText, hcomment, Option.map_some, Option.getD_some,
        List.takeWhile_cons_of_pos (by decide), List.takeWhile_cons_of_pos (by decide)]
      exact List.mem_cons_of_mem _ List.mem_cons_self

/-- The round trip: every parameter is read to its end, and without parameters no ';' of the
comment ends the sent-by part elsewhere. -/
theorem printedVia_parse_iff (h : via.WellFormed) :
    via.RoundTrips ↔ GenericParam.KeepsParams via.viaParams ∧ via.KeepsSentBy := by
  have hsemi := h.sentBy_notMem (c := ';') (by decide)
  have hcomment := h.viaComment_eq
  rw [h.roundTrips_parseBehind]
  by_cases hparams : via.viaParams = []
  · rw [hparams, List.flatMap_nil, List.nil_append] at hcomment ⊢
    rw [GenericParam.KeepsParams, true_and]
    by_cases hmem : ';' ∈ via.commentText
    · obtain ⟨behind, hsplit, hparen⟩ := commentText_split hmem
      have hbefore : ';' ∉ via.commentText.takeWhile (· != ';') := fun hmem => by
        have hne := List.mem_takeWhile_imp hmem
        simp at hne
      rw [parseBehind_eq_ok_iff hcomment (viaParams_comment hsemi hsplit hbefore), hparams,
        and_iff_right rfl, KeepsSentBy, forall_prop_of_true hparams, forall_prop_of_true hmem,
        ← h.viaSentBy_iff (List.mem_append_right _ hparen) behind, List.append_assoc, ← hsplit]
    · rw [parseBehind_eq_ok_iff hcomment (viaParams_nil hsemi hmem)]
      refine iff_of_true ⟨hparams.symm, h.viaSentBy_eq _⟩ fun _ hmem' => absurd hmem' hmem
  · have hkeeps : via.KeepsSentBy := fun hnil => absurd hnil hparams
    rw [and_iff_left hkeeps, ← GenericParam.parseall_toStr hparams h.trimmed]
    obtain ⟨param, params, hcons⟩ := List.exists_cons_of_ne_nil hparams
    have hprinted : via.viaParams.flatMap GenericParam.toStr =
        ';' :: (param.body ++ params.flatMap GenericParam.toStr) := by
      rw [hcons, List.flatMap_cons, GenericParam.toStr_eq, List.cons_append]
    have hread := viaParams_semicolon hsemi (param.body ++ params.flatMap GenericParam.toStr)
      via.commentText
    rw [← hprinted] at hread
    cases hparsed : GenericParam.parseall [] (via.viaParams.flatMap GenericParam.toStr) with
    | error i =>
        refine iff_of_false (fun hparse => ?_) fun herror => by cases herror
        rw [hparsed] at hread
        rw [parseBehind, hcomment] at hparse
        change (Exosip.viaParams _ via.commentText >>= _) = _ at hparse
        rw [hread] at hparse
        cases hparse
    | ok parsed =>
        rw [hparsed] at hread
        rw [parseBehind_eq_ok_iff hcomment hread, and_iff_left (h.viaSentBy_eq _), Except.ok.injEq]

/-- `SIP/2.0/UDP h` with a comment. -/
def withComment (comment : Str) : Via :=
  { version := some "2.0".toList, protocol := some "UDP".toList, host := some "h".toList
    port := none, comment := some comment, viaParams := [] }

theorem withComment_wellFormed {comment : Str} (hne : comment ≠ []) (hclose : ')' ∉ comment) :
    (withComment comment).WellFormed where
  version := ⟨"2.0".toList, rfl, List.cons_ne_nil '2' _, List.all_iff_forall_prop.1 rfl⟩
  protocol := ⟨"UDP".toList, rfl, List.cons_ne_nil 'U' _, List.all_iff_forall_prop.1 rfl⟩
  host := ⟨"h".toList, rfl, List.cons_ne_nil 'h' _, rfl, List.all_iff_forall_prop.1 rfl⟩
  port := fun port hport => absurd hport (Option.not_mem_none port)
  trimmed := List.forall_mem_nil _
  opening := List.not_mem_nil
  closing := fun _ => List.not_mem_nil
  comment := fun _ hcomment => Option.some.inj hcomment ▸ ⟨hne, hclose⟩

/-- `SIP/2.0/UDP [2001:db8::1]:5062;branch=z9hG4bK1;rport;x="1;2" (a;b)`. -/
def manyParts : Via :=
  { version := some "2.0".toList, protocol := some "UDP".toList
    host := some "2001:db8::1".toList, port := some "5062".toList, comment := some "a;b".toList
    viaParams := [⟨"branch".toList, some "z9hG4bK1".toList⟩, ⟨"rport".toList, none⟩,
      ⟨"x".toList, some "\"1;2\"".toList⟩] }

theorem manyParts_wellFormed : manyParts.WellFormed where
  version := ⟨"2.0".toList, rfl, List.cons_ne_nil '2' _, List.all_iff_forall_prop.1 rfl⟩
  protocol := ⟨"UDP".toList, rfl, List.cons_ne_nil 'U' _, List.all_iff_forall_prop.1 rfl⟩
  host := ⟨"2001:db8::1".toList, rfl, List.cons_ne_nil '2' _, rfl, List.all_iff_forall_prop.1 rfl⟩
  port := fun _ hport => Option.some.inj hport ▸
    ⟨⟨List.cons_ne_nil '5' _, rfl, List.all_iff_forall_prop.1 rfl⟩, by decide⟩
  trimmed := by
    simp only [manyParts, List.forall_mem_cons]
    refine ⟨⟨by decide, by decide, by decide, by decide, by decide, by decide⟩,
      ⟨by decide, by decide, by decide, by decide, by decide, by decide⟩,
      ⟨by decide, by decide, by decide, by decide, by decide, by decide⟩, List.forall_mem_nil _⟩
  opening := by decide
  closing := fun _ => by decide
  comment := fun _ hcomment => Option.some.inj hcomment ▸ ⟨List.cons_ne_nil 'a' _, by decide⟩

/-- Behind parameters a ';' within quotes or within the comment does no harm. -/
theorem manyParts_roundTrips : manyParts.RoundTrips := by
  refine (printedVia_parse_iff manyParts_wellFormed).2 ⟨?_, fun hnil => by cases hnil⟩
  refine ⟨?branch, ?rport, ?quoted, trivial⟩
  case branch =>
    intro gvalue hgvalue
    cases hgvalue
    exact ⟨by decide, by rw [if_neg (by decide)]; decide⟩
  case rport => exact fun gvalue hgvalue => absurd hgvalue (Option.not_mem_none gvalue)
  case quoted =>
    intro gvalue hgvalue
    cases hgvalue
    refine ⟨by decide, ?_⟩
    rw [if_pos (by decide)]
    show ';' ∉ ['"']
    decide

/-- Of `SIP/2.0/UDP h (a;b)` the host is read as `h (a`, although the parser has read this host
and this comment from `SIP/2.0/UDP [h] (a;b)`. -/
theorem not_roundTrips_semicolonComment :
    ¬ ∀ via : Via, via.WellFormed → (∃ hvalue, osipViaParse hvalue = .ok via) → via.RoundTrips := by
  intro h
  have hparsed : osipViaParse "SIP/2.0/UDP [h] (a;b)".toList = .ok (withComment "a;b".toList) := by
    rfl
  obtain ⟨text, htext, hparse⟩ := h (withComment "a;b".toList)
    (withComment_wellFormed (List.cons_ne_nil 'a' _) (by decide)) ⟨_, hparsed⟩
  cases Except.ok.inj htext
  have hhost : (osipViaParse "SIP/2.0/UDP h (a;b)".toList).map (·.host) =
      .ok (some "h (a".toList) := by
    rfl
  exact absurd (Except.ok.inj (hhost.symm.trans (congrArg (Except.map (·.host)) hparse)))
    (by decide)

end Via

end Exosip
