import Exosip.Parser.ParamLists

/-! `osip_from_parse` on a name and an address in brackets: where it splits the value, and what
blanks before the value do to it. -/
namespace Exosip

open CString
open Machine

def IsBlanks (s : Str) : Prop := ∀ c ∈ s, c = ' ' ∨ c = '\t'

/-- A quoted string or tokens, with blanks around them. -/
def IsDisplayname (name : Str) : Prop :=
  (∀ c ∈ name, isNameChar c = true ∨ c = '\t') ∨
    ∃ lead quoted rest, name = lead ++ '"' :: (quoted ++ '"' :: rest) ∧ IsBlanks lead ∧ IsBlanks rest ∧
      Quoted.Open '"' '\\' false quoted ∧ Quoted.escapedAfter '\\' false quoted = false

/-- `name`, the URI `u` in brackets and, behind blanks, the parameters `p`. -/
structure IsNameAddr (name u blanks p : Str) : Prop where
  name : IsDisplayname name
  u : '>' ∉ u
  blanks : IsBlanks blanks
  p : Delimited ';' p

def nameAddr (name u blanks p : Str) : Str := name ++ '<' :: (u ++ '>' :: (blanks ++ p))

/-- The parameters of `p`, if there are any. -/
def paramsParse (p : Str) : Except Int (List GenericParam) :=
  if p = [] then .ok [] else GenericParam.parseall [] p

/-- The URI is that of `u`, the parameters are those of `p`. -/
def SplitsAtBrackets (u p : Str) (header : From) : Prop :=
  ∃ url, osipUriParse u = .ok url ∧ header.url = some url ∧ paramsParse p = .ok header.genParams

/-- The part of `osip_from_parse` behind the display name. -/
def urlParse (uriParse : Str → Except Int Uri) (url : Str) : Except Int (Uri × List GenericParam) := do
  let (text, params) ← urlExtent url
  let genParams ← (params.map (GenericParam.parseall [])).getD (.ok [])
  let url ← uriParse text
  .ok (url, genParams)

theorem osipFromParse_eq (uriParse : Str → Except Int Uri) (hvalue : Str) :
    osipFromParse uriParse hvalue =
      if hvalue.dropWhile (· == ' ') = [] then .ok ⟨none, none, []⟩
      else
        displaynameParse hvalue (hvalue.dropWhile (· == ' ')) >>= fun found =>
          (urlParse uriParse found.2).map fun parsed => ⟨found.1, some parsed.1, parsed.2⟩ := by
  unfold osipFromParse
  dsimp only
  split_ifs
  · rfl
  · cases displaynameParse hvalue (hvalue.dropWhile (· == ' ')) with
    | error i => rfl
    | ok found =>
        obtain ⟨displayname, url⟩ := found
        unfold urlParse
        cases hextent : urlExtent url with
        | error i => simp [hextent, bind, Except.bind, Except.map]
        | ok extent =>
            obtain ⟨text, params⟩ := extent
            cases hparams : (params.map (GenericParam.parseall [])).getD (.ok []) with
            | error i => simp [hextent, hparams, bind, Except.bind, Except.map]
            | ok genParams =>
                cases huri : uriParse text with
                | error i => simp [hextent, hparams, huri, bind, Except.bind, Except.map]
                | ok parsed => simp [hextent, hparams, huri, bind, Except.bind, Except.map]

/-! ### A tab is not skipped -/

theorem osipUriParse_of_scheme {front rest : Str} {c : Char} (hfront : ':' ∉ front) (hc : c ≠ ':')
    (halpha : isAlpha c = false) (url : Uri) : osipUriParse (front ++ c :: rest) ≠ .ok url := by
  intro h
  unfold osipUriParse at h
  split at h
  · cases h
  · split at h
    · cases h
    · next username husername =>
        rw [strchr_append hfront, strchr, if_neg hc] at husername
        obtain ⟨before, after, rfl, -, rfl⟩ := strchr_eq_some_iff.1 husername
        have hscheme : osipStrncpy (front ++ c :: (before ++ ':' :: after))
            (pointerDiff (':' :: after) (front ++ c :: (before ++ ':' :: after))) =
              front ++ c :: before := by
          have hsplit : front ++ c :: (before ++ ':' :: after) = (front ++ c :: before) ++ ':' :: after := by
            rw [List.append_assoc, List.cons_append]
          rw [hsplit, pointerDiff_append, osipStrncpy, List.take_left]
        dsimp only at h
        rw [hscheme] at h
        split at h
        · cases h
        · split at h
          · cases h
          · next hall =>
              rw [not_not, List.all_eq_true] at hall
              have hletter := hall c (List.mem_append_right _ List.mem_cons_self)
              rw [halpha] at hletter
              cases hletter

theorem urlParse_of_scheme {front rest : Str} {c : Char} (hfront : ∀ d ∈ front, d ≠ ':' ∧ d ≠ ';')
    (hc : c ≠ ':' ∧ c ≠ ';') (halpha : isAlpha c = false) (hhead : (front ++ c :: rest).head? ≠ some '<')
    (found : Uri × List GenericParam) : urlParse osipUriParse (front ++ c :: rest) ≠ .ok found := by
  intro h
  have hcolon : ':' ∉ front := fun hmem => (hfront ':' hmem).1 rfl
  have hsemi : ';' ∉ front := fun hmem => (hfront ';' hmem).2 rfl
  rw [urlParse, exists_ok_bind] at h
  obtain ⟨⟨text, params⟩, hextent, h⟩ := h
  simp only [exists_ok_bind] at h
  obtain ⟨genParams, -, url, hurl, -⟩ := h
  have htext : ∃ more, text = front ++ c :: more := by
    unfold urlExtent at hextent
    rw [if_neg hhead] at hextent
    split at hextent
    · next found hfound =>
        split_ifs at hextent
        rw [strchr_append hsemi, strchr, if_neg hc.2] at hfound
        obtain ⟨before, after, rfl, -, rfl⟩ := strchr_eq_some_iff.1 hfound
        refine ⟨before, ?_⟩
        have hsplit : front ++ c :: (before ++ ';' :: after) = (front ++ c :: before) ++ ';' :: after := by
          rw [List.append_assoc, List.cons_append]
        rw [hsplit, pointerDiff_append, osipStrncpy, List.take_left] at hextent
        exact (Prod.mk.inj (Except.ok.inj hextent)).1.symm
    · split_ifs at hextent
      exact ⟨rest, (Prod.mk.inj (Except.ok.inj hextent)).1.symm⟩
  obtain ⟨more, rfl⟩ := htext
  exact osipUriParse_of_scheme hcolon hc.1 halpha url hurl

theorem dropWhile_blanks {s : Str} (h : IsBlanks s) (t : Str) :
    '\t' ∉ s ∧ (s ++ t).dropWhile (· == ' ') = t.dropWhile (· == ' ') ∨
      '\t' ∈ s ∧ ∃ rest, (s ++ t).dropWhile (· == ' ') = '\t' :: rest := by
  induction s with
  | nil => exact Or.inl ⟨List.not_mem_nil, rfl⟩
  | cons c s ih =>
      obtain ⟨rfl | rfl, hs⟩ := List.forall_mem_cons.1 h
      · rw [List.cons_append, List.dropWhile_cons_of_pos (by rfl)]
        simpa using ih hs
      · exact Or.inr ⟨List.mem_cons_self, s ++ t, rfl⟩

theorem isNameChar_ne {c : Char} (h : isNameChar c = true) {d : Char} (hd : isNameChar d = false) :
    c ≠ d := by
  rintro rfl
  rw [h] at hd
  cases hd

theorem osipFromParse_of_tab {hvalue front rest : Str} (hfront : ∀ c ∈ front, isNameChar c = true)
    (hptr : hvalue.dropWhile (· == ' ') = front ++ '\t' :: rest) (header : From) :
    osipFromParse osipUriParse hvalue ≠ .ok header := by
  have hhead : ∀ d, isNameChar d = false → d ≠ '\t' → (front ++ '\t' :: rest).head? ≠ some d := by
    intro d hd hne heq
    cases front with
    | nil => exact hne (Option.some.inj heq).symm
    | cons c front =>
        have hc : c = d := Option.some.inj heq
        exact isNameChar_ne (hfront c List.mem_cons_self) hd hc
  have hskip : (front ++ '\t' :: rest).dropWhile isNameChar = '\t' :: rest := by
    rw [List.dropWhile_append_of_pos hfront]
    rfl
  have hname : displaynameParse hvalue (front ++ '\t' :: rest) = .ok (none, front ++ '\t' :: rest) := by
    unfold displaynameParse
    rw [if_neg (hhead '"' (by decide) (by decide))]
    dsimp only
    rw [hskip, if_neg (List.cons_ne_nil _ _), if_neg (by simp)]
  intro h
  rw [osipFromParse_eq, hptr, if_neg (by simp), hname] at h
  change (urlParse osipUriParse (front ++ '\t' :: rest)).map _ = _ at h
  cases hurl : urlParse osipUriParse (front ++ '\t' :: rest) with
  | error i =>
      rw [hurl] at h
      cases h
  | ok found =>
      refine urlParse_of_scheme (fun d hd => ⟨?_, ?_⟩) (by decide) (by decide)
        (hhead '<' (by decide) (by decide)) found hurl
      · exact isNameChar_ne (hfront d hd) (by decide)
      · exact isNameChar_ne (hfront d hd) (by decide)

/-! ### Brackets -/

theorem displaynameParse_nameAddr {name u rest : Str} (hname : IsDisplayname name) {header : From}
    (h : osipFromParse osipUriParse (name ++ '<' :: (u ++ '>' :: rest)) = .ok header) :
    let hvalue := name ++ '<' :: (u ++ '>' :: rest)
    hvalue.dropWhile (· == ' ') ≠ [] ∧ ∃ displayname,
      displaynameParse hvalue (hvalue.dropWhile (· == ' ')) =
        .ok (displayname, '<' :: (u ++ '>' :: rest)) := by
  have hbracket : ('<' :: (u ++ '>' :: rest)).dropWhile (· == ' ') = '<' :: (u ++ '>' :: rest) := rfl
  dsimp only
  obtain htoken | ⟨lead, quoted, behind, rfl, hlead, hbehind, hopen, hescaped⟩ := hname
  · have hptr : (name ++ '<' :: (u ++ '>' :: rest)).dropWhile (· == ' ') =
        name.dropWhile (· == ' ') ++ '<' :: (u ++ '>' :: rest) := by
      rw [List.dropWhile_append]
      split_ifs with hempty
      · rw [List.isEmpty_iff.1 hempty, hbracket, List.nil_append]
      · rfl
    have hchars : ∀ c ∈ name.dropWhile (· == ' '), isNameChar c = true ∨ c = '\t' :=
      fun c hc => htoken c ((List.dropWhile_sublist _).mem hc)
    rw [hptr]
    by_cases htab : '\t' ∈ name.dropWhile (· == ' ')
    · obtain ⟨front, back, hsplit, hfront⟩ := List.eq_append_cons_of_mem htab
      rw [hsplit] at hchars hptr
      rw [List.append_assoc, List.cons_append] at hptr
      refine absurd h (osipFromParse_of_tab (fun c hc => ?_) hptr header)
      exact (hchars c (List.mem_append_left _ hc)).resolve_right (ne_of_mem_of_not_mem hc hfront)
    · have hall : ∀ c ∈ name.dropWhile (· == ' '), isNameChar c = true :=
        fun c hc => (hchars c hc).resolve_right (ne_of_mem_of_not_mem hc htab)
      have hquote : (name.dropWhile (· == ' ') ++ '<' :: (u ++ '>' :: rest)).head? ≠ some '"' := by
        cases hname' : name.dropWhile (· == ' ') with
        | nil => simp
        | cons c name' =>
            rw [hname'] at hall
            simpa using isNameChar_ne (hall c List.mem_cons_self) (show isNameChar '"' = false by decide)
      have hskip : (name.dropWhile (· == ' ') ++ '<' :: (u ++ '>' :: rest)).dropWhile isNameChar =
          '<' :: (u ++ '>' :: rest) := by
        rw [List.dropWhile_append_of_pos hall]
        rfl
      refine ⟨by simp, ?_⟩
      unfold displaynameParse
      rw [if_neg hquote]
      dsimp only
      rw [hskip, if_neg (List.cons_ne_nil _ _), List.head?_cons, if_pos rfl, List.tail_cons,
        if_neg (by simp)]
      split_ifs
      · exact ⟨_, rfl⟩
      · exact ⟨_, rfl⟩
  · rw [List.append_assoc, List.cons_append, List.append_assoc, List.cons_append] at h ⊢
    obtain ⟨-, hptr⟩ | ⟨-, more, hptr⟩ := dropWhile_blanks hlead
        ('"' :: (quoted ++ '"' :: (behind ++ '<' :: (u ++ '>' :: rest))))
    · have hptr' : (lead ++ '"' :: (quoted ++ '"' :: (behind ++ '<' :: (u ++ '>' :: rest)))).dropWhile
          (· == ' ') = '"' :: (quoted ++ '"' :: (behind ++ '<' :: (u ++ '>' :: rest))) := hptr
      have hfind : osipQuoteFind (quoted ++ '"' :: (behind ++ '<' :: (u ++ '>' :: rest))) =
          some ('"' :: (behind ++ '<' :: (u ++ '>' :: rest))) := by
        rw [osipQuoteFind_eq]
        exact Quoted.find_eq_some_iff.2 ⟨quoted, _, rfl, rfl, hopen, hescaped⟩
      rw [osipFromParse_eq, hptr', if_neg (List.cons_ne_nil _ _)] at h
      rw [hptr']
      refine ⟨List.cons_ne_nil _ _, ?_⟩
      unfold displaynameParse at h ⊢
      rw [List.head?_cons, if_pos rfl, List.tail_cons, hfind] at h ⊢
      dsimp only at h ⊢
      rw [List.tail_cons] at h ⊢
      obtain ⟨-, hskip⟩ | ⟨-, more, hskip⟩ := dropWhile_blanks hbehind ('<' :: (u ++ '>' :: rest))
      · rw [hskip, hbracket, List.head?_cons, if_neg (not_not.2 rfl), List.tail_cons,
          if_neg (List.append_ne_nil_of_right_ne_nil _ (List.cons_ne_nil _ _))]
        exact ⟨_, rfl⟩
      · have hhead : ('\t' :: more).head? ≠ some '<' := by simp
        rw [hskip, if_pos hhead] at h
        cases h
    · exact absurd h (@osipFromParse_of_tab _ [] more (by simp) hptr header)

theorem urlExtent_brackets {u : Str} (hu : '>' ∉ u) (rest : Str) :
    urlExtent ('<' :: (u ++ '>' :: rest)) =
      if u.length + 1 < 7 then .error osipSyntaxerror
      else .ok (u, if u.getLast? = some ';' then some (';' :: '>' :: rest) else strchr rest ';') := by
  have hend : strchr (u ++ '>' :: rest) '>' = some ('>' :: rest) := by
    rw [strchr_append hu, strchr, if_pos rfl]
  unfold urlExtent
  rw [List.head?_cons, if_pos rfl, List.tail_cons, hend]
  dsimp only
  rw [pointerDiff_append]
  split_ifs with hshort hlast
  · rfl
  · obtain ⟨front, rfl⟩ := List.getLast?_eq_some_iff.1 hlast
    have hdrop : ('<' :: (front ++ [';'] ++ '>' :: rest)).drop (front ++ [';']).length =
        ';' :: '>' :: rest := by
      have hlength : (front ++ [';']).length = ('<' :: front).length := by simp
      rw [hlength, List.append_assoc, ← List.cons_append, List.drop_left, List.singleton_append]
    rw [hdrop, strchr, if_pos rfl, osipStrncpy, List.take_left]
  · have hne : u ≠ [] := by
      rintro rfl
      simp at hshort
    obtain ⟨front, c, rfl⟩ : ∃ front c, u = front ++ [c] :=
      ⟨u.dropLast, u.getLast hne, (List.dropLast_concat_getLast hne).symm⟩
    have hdrop : ('<' :: (front ++ [c] ++ '>' :: rest)).drop (front ++ [c]).length = c :: '>' :: rest := by
      have hlength : (front ++ [c]).length = ('<' :: front).length := by simp
      rw [hlength, List.append_assoc, ← List.cons_append, List.drop_left, List.singleton_append]
    rw [hdrop, strchr, if_neg (by simpa using hlast), strchr, if_neg (by decide), osipStrncpy, List.take_left]

theorem parseall_bracket {blanks p : Str} (hblanks : IsBlanks blanks) (hp : Delimited ';' p)
    {params : List GenericParam}
    (h : GenericParam.parseall [] (';' :: '>' :: (blanks ++ p)) = .ok params) :
    paramsParse p ≠ .ok params := by
  have hsemi : ';' ∉ '>' :: blanks := by
    rw [List.mem_cons, not_or]
    refine ⟨by decide, fun hmem => ?_⟩
    obtain heq | heq := hblanks ';' hmem <;> cases heq
  have hequal : '=' ∉ '>' :: blanks := by
    rw [List.mem_cons, not_or]
    refine ⟨by decide, fun hmem => ?_⟩
    obtain heq | heq := hblanks '=' hmem <;> cases heq
  rw [GenericParam.parseall_pieces] at h
  intro hp'
  cases p with
  | nil =>
      cases hp'
      have hpieces := GenericParam.pieces_eq (';' :: '>' :: (blanks ++ []))
      rw [List.append_nil, GenericParam.nextParam_snd_of_notMem hsemi] at hpieces
      rw [List.append_nil, hpieces, GenericParam.readPieces, GenericParam.readLastPiece, List.tail_cons,
        if_neg (List.cons_ne_nil _ _), segmentName_of_notMem hequal, if_neg (List.cons_ne_nil _ _),
        segmentValue_of_notMem hequal] at h
      cases h
  | cons c p =>
      have hc : c = ';' := hp c rfl
      subst hc
      have hnext := GenericParam.nextParam_snd hsemi ';' p
      rw [GenericParam.quotedValue_of_notMem hequal, List.cons_append] at hnext
      have hpieces := GenericParam.pieces_eq (';' :: '>' :: (blanks ++ ';' :: p))
      rw [hnext] at hpieces
      have hread : GenericParam.readPiece ('>' :: blanks) =
          some (GenericParam.set ('>' :: blanks) none) := by
        rw [GenericParam.readPiece, segmentName_of_notMem hequal, if_neg (List.cons_ne_nil _ _),
          segmentValue_of_notMem hequal]
      dsimp only at hpieces
      rw [← List.cons_append, pointerDiff_cons, Nat.add_sub_cancel, List.tail_cons, osipStrncpy,
        List.take_left] at hpieces
      rw [List.cons_append] at hpieces
      rw [hpieces, GenericParam.readPieces_cons _ (GenericParam.pieces_ne_nil _), hread] at h
      rw [paramsParse, if_neg (List.cons_ne_nil ';' p), GenericParam.parseall_pieces] at hp'
      cases hrest : GenericParam.readPieces (GenericParam.pieces (';' :: p)) with
      | none =>
          rw [hrest] at hp'
          cases hp'
      | some rest =>
          rw [hrest] at h hp'
          have hlength := congrArg List.length (Except.ok.inj (h.trans hp'.symm))
          simp at hlength

/-- What is accepted is split at the brackets, unless a ';' stands before the '>': there the
search for the parameters begins. -/
theorem splitsAtBrackets_iff {name u blanks p : Str} (h : IsNameAddr name u blanks p) {header : From}
    (hparse : osipFromParse osipUriParse (nameAddr name u blanks p) = .ok header) :
    SplitsAtBrackets u p header ↔ u.getLast? ≠ some ';' := by
  obtain ⟨hne, displayname, hname⟩ := displaynameParse_nameAddr h.name hparse
  have hsemi : ';' ∉ blanks := fun hmem => by
    obtain heq | heq := h.blanks ';' hmem <;> cases heq
  rw [nameAddr, osipFromParse_eq, if_neg hne, hname] at hparse
  change (urlParse osipUriParse ('<' :: (u ++ '>' :: (blanks ++ p)))).map _ = _ at hparse
  cases hurl : urlParse osipUriParse ('<' :: (u ++ '>' :: (blanks ++ p))) with
  | error i =>
      rw [hurl] at hparse
      cases hparse
  | ok found =>
      rw [hurl] at hparse
      cases hparse
      rw [urlParse, urlExtent_brackets h.u, strchr_append hsemi, strchr_of_delimited h.p] at hurl
      split at hurl
      · cases hurl
      · simp only [exists_ok_bind] at hurl
        obtain ⟨extent, hextent, genParams, hparams, url, huri, hfound⟩ := hurl
        cases hextent
        cases hfound
        unfold SplitsAtBrackets
        dsimp only
        dsimp only at huri hparams
        split_ifs at hparams with hlast hempty
        · exact iff_of_false (fun hsplit => parseall_bracket h.blanks h.p hparams
            hsplit.choose_spec.2.2) (fun hne => hne hlast)
        · refine iff_of_true ⟨url, huri, rfl, ?_⟩ hlast
          rw [hempty, ← hparams]
          decide
        · refine iff_of_true ⟨url, huri, rfl, ?_⟩ hlast
          rw [paramsParse, if_neg hempty]
          exact hparams

theorem nameAddr_bob :
    SplitsAtBrackets "sip:bob@b.com;lr?a=b".toList ";tag=a6".toList
      { displayname := some "\"Bob <B>\"".toList
        url := some
          { scheme := some "sip".toList
            username := some "bob".toList
            password := none
            host := some "b.com".toList
            port := none
            urlParams := [⟨"lr".toList, none⟩]
            urlHeaders := [⟨"a".toList, some "b".toList⟩]
            string := none }
        genParams := [⟨"tag".toList, some "a6".toList⟩] } := by
  have hname : IsDisplayname "\"Bob <B>\" ".toList :=
    Or.inr ⟨[], "Bob <B>".toList, [' '], rfl, by simp [IsBlanks], by simp [IsBlanks], by decide, by decide⟩
  have haddr : IsNameAddr "\"Bob <B>\" ".toList "sip:bob@b.com;lr?a=b".toList [] ";tag=a6".toList :=
    ⟨hname, by decide, by simp [IsBlanks], by simp [Delimited]⟩
  exact (splitsAtBrackets_iff haddr (by decide)).2 (by decide)

/-- The URI of a header may well end with a ';'. -/
theorem not_splitsAtBrackets_semicolon :
    IsNameAddr [] "http://b.com/a;".toList [] ";tag=a6".toList ∧
      ∃ header, osipFromParse osipUriParse
          (nameAddr [] "http://b.com/a;".toList [] ";tag=a6".toList) = .ok header ∧
        ¬ SplitsAtBrackets "http://b.com/a;".toList ";tag=a6".toList header := by
  refine ⟨⟨Or.inl (by simp), by decide, by simp [IsBlanks], by simp [Delimited]⟩,
    ⟨none, some ⟨some "http".toList, none, none, none, none, [], [], some "//b.com/a;".toList⟩,
      [⟨">".toList, none⟩, ⟨"tag".toList, some "a6".toList⟩]⟩, by decide, ?_⟩
  rintro ⟨url, -, -, hparams⟩
  exact absurd hparams (by decide)

/-! ### Blanks before the value -/

/-- With the blanks `w` before it the value is parsed alike. -/
def SameBehindBlanks (w v : Str) : Prop :=
  ∀ header, osipFromParse osipUriParse (w ++ v) = .ok header ↔
    osipFromParse osipUriParse v = .ok header

def tokenLength (v : Str) : Nat := ((v.dropWhile (· == ' ')).takeWhile isNameChar).length

/-- The URI is in brackets behind tokens, or behind nothing. -/
def HasTokenName (v : Str) : Prop :=
  ((v.dropWhile (· == ' ')).dropWhile isNameChar).head? = some '<'

/-- No tab, and what a display name of tokens loses at its end for the blanks is blank. -/
def KeepsName (w v : Str) : Prop :=
  '\t' ∉ w ∧ (HasTokenName v →
    ∀ c ∈ (v.take (tokenLength v)).drop (tokenLength v - w.length), isBlank c = true)

instance (w v : Str) : Decidable (KeepsName w v) :=
  haveI : Decidable (HasTokenName v) := inferInstanceAs (Decidable (_ = _))
  haveI : Decidable (∀ c ∈ (v.take (tokenLength v)).drop (tokenLength v - w.length), isBlank c = true) :=
    List.decidableBAll _ _
  inferInstanceAs (Decidable (_ ∧ _))

theorem osipClrncpy_append_eq_iff {w : Str} (hw : ∀ c ∈ w, isBlank c = true) (v : Str) (n : Nat) :
    osipClrncpy (w ++ v) n = osipClrncpy v n ↔
      ∀ c ∈ (v.take n).drop (n - w.length), isBlank c = true := by
  have hsplit : v.take n = v.take (n - w.length) ++ (v.take n).drop (n - w.length) := by
    have htake := List.take_append_drop (n - w.length) (v.take n)
    rw [List.take_take, Nat.min_eq_left (Nat.sub_le _ _)] at htake
    exact htake.symm
  have hblank : ∀ c ∈ w.take n, isBlank c = true := fun c hc => hw c (List.mem_of_mem_take hc)
  rw [osipClrncpy, osipClrncpy, List.take_append, osipClrspace_append_left hblank, eq_comm]
  conv_lhs => rw [hsplit]
  exact osipClrspace_append_eq_iff

theorem displaynameParse_cases (ptr : Str) :
    (ptr.dropWhile isNameChar).head? = some '<' ∧ (∀ hvalue, displaynameParse hvalue ptr =
      if (ptr.takeWhile isNameChar).length = 0 then .ok (none, ptr.dropWhile isNameChar)
      else .ok (some (osipClrncpy hvalue (ptr.takeWhile isNameChar).length), ptr.dropWhile isNameChar)) ∨
      ∃ found, (∀ hvalue, displaynameParse hvalue ptr = found) ∧
        ((ptr.dropWhile isNameChar).head? = some '<' → found = .error osipSyntaxerror) := by
  unfold displaynameParse
  by_cases hquote : ptr.head? = some '"'
  · obtain ⟨rest, rfl⟩ := List.head?_eq_some_iff.1 hquote
    refine Or.inr ⟨_, fun _ => if_pos hquote, fun hbracket => ?_⟩
    cases hbracket
  · simp only [if_neg hquote]
    by_cases hnil : ptr.dropWhile isNameChar = []
    · exact Or.inr ⟨_, fun _ => if_pos hnil, fun _ => rfl⟩
    · simp only [if_neg hnil]
      by_cases hbracket : (ptr.dropWhile isNameChar).head? = some '<'
      · simp only [if_pos hbracket]
        by_cases htail : (ptr.dropWhile isNameChar).tail = []
        · exact Or.inr ⟨_, fun _ => if_pos htail, fun _ => rfl⟩
        · have hdiff : pointerDiff (ptr.dropWhile isNameChar) ptr = (ptr.takeWhile isNameChar).length := by
            have happend := pointerDiff_append (ptr.takeWhile isNameChar) (ptr.dropWhile isNameChar)
            rw [List.takeWhile_append_dropWhile] at happend
            exact happend
          rw [hdiff]
          exact Or.inl ⟨hbracket, fun _ => if_neg htail⟩
      · exact Or.inr ⟨_, fun _ => if_neg hbracket, fun h => absurd h hbracket⟩

/-- A value that is accepted is parsed alike behind blanks that are spaces, as long as the display
name, which is copied from the beginning of the value, does not lose its end. -/
theorem sameBehindBlanks_iff {w : Str} (hw : IsBlanks w) (v : Str) :
    SameBehindBlanks w v ↔ ∀ header, osipFromParse osipUriParse v = .ok header → KeepsName w v := by
  have hblank : ∀ c ∈ w, isBlank c = true := by
    intro c hc
    obtain rfl | rfl := hw c hc <;> rfl
  obtain ⟨htab, hptr⟩ | ⟨htab, rest, hptr⟩ := dropWhile_blanks hw v
  · unfold SameBehindBlanks KeepsName HasTokenName tokenLength
    rw [osipFromParse_eq, osipFromParse_eq, hptr]
    by_cases hnil : v.dropWhile (· == ' ') = []
    · simp [hnil, htab]
    · rw [if_neg hnil, if_neg hnil]
      generalize v.dropWhile (· == ' ') = ptr
      obtain ⟨hbracket, hcopy⟩ | ⟨found, hfound, herror⟩ := displaynameParse_cases ptr
      · simp only [hcopy]
        by_cases hlength : (ptr.takeWhile isNameChar).length = 0
        · simp [hlength, htab]
        · have hsame := osipClrncpy_append_eq_iff hblank v (ptr.takeWhile isNameChar).length
          rw [if_neg hlength, if_neg hlength]
          change (∀ header, (urlParse osipUriParse (ptr.dropWhile isNameChar)).map _ = .ok header ↔
            (urlParse osipUriParse (ptr.dropWhile isNameChar)).map _ = .ok header) ↔
              ∀ header, (urlParse osipUriParse (ptr.dropWhile isNameChar)).map _ = .ok header → _
          cases hurl : urlParse osipUriParse (ptr.dropWhile isNameChar) with
          | error i => simp [Except.map]
          | ok parsed =>
              simp only [Except.map, Except.ok.injEq]
              constructor
              · intro h header _
                have hname := congrArg From.displayname ((h _).1 rfl)
                exact ⟨htab, fun _ => hsame.1 (Option.some.inj hname).symm⟩
              · intro h header
                rw [hsame.2 ((h _ rfl).2 hbracket)]
      · simp only [hfound, htab]
        by_cases hbracket : (ptr.dropWhile isNameChar).head? = some '<'
        · rw [herror hbracket]
          simp [bind, Except.bind]
        · simp [hbracket]
  · have htab' : ∀ header, osipFromParse osipUriParse (w ++ v) ≠ .ok header :=
      @osipFromParse_of_tab _ [] rest (by simp) hptr
    unfold SameBehindBlanks KeepsName
    simp only [htab', false_iff, htab]
    simp

theorem sameBehindBlanks_quoted :
    SameBehindBlanks "  ".toList "\"Bob\" <sip:bob@b.com>;tag=a6".toList :=
  (sameBehindBlanks_iff (by simp [IsBlanks]) _).2 fun _ _ => by decide

/-- Behind two spaces the display name loses its last letter. -/
theorem not_sameBehindBlanks_token : ¬ SameBehindBlanks "  ".toList "Bob <sip:bob@b.com>".toList := by
  intro h
  have hloses : osipFromParse osipUriParse ("  ".toList ++ "Bob <sip:bob@b.com>".toList) = .ok _ :=
    (h ⟨some "Bob".toList, some ⟨some "sip".toList, some "bob".toList, none, some "b.com".toList, none,
      [], [], none⟩, []⟩).2 (by decide)
  exact absurd hloses (by decide)

end Exosip
