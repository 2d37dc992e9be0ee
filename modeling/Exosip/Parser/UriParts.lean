import Exosip.Parser.Part
import Exosip.Parser.Uri

/-! The parts of a printed SIP URI read back: each is escaped so that no delimiter behind it is
mistaken. -/
namespace Exosip

open CString

/-! ### Escapes -/

/-- Bytes of a C string, at least one. -/
def IsUriText (s : Str) : Prop := s ≠ [] ∧ ∀ c ∈ s, c ≠ '\x00' ∧ c.toNat < 256

instance (s : Str) : Decidable (IsUriText s) :=
  haveI : Decidable (∀ c ∈ s, c ≠ '\x00' ∧ c.toNat < 256) := List.decidableBAll _ s
  inferInstanceAs (Decidable (_ ∧ _))

def IsUriToken (s : Str) : Prop := IsUriText s ∧ osipClrspace s = s

instance (s : Str) : Decidable (IsUriToken s) := inferInstanceAs (Decidable (_ ∧ _))

/-- A digit of `"%02X"`. -/
def hexChar (digit : Nat) : Char := digit.digitChar.toUpper

theorem percentEncoded_eq (c : Char) :
    percentEncoded c = ['%', hexChar (c.toNat / 16), hexChar (c.toNat % 16)] := rfl

theorem hexChar_spec {digit : Nat} (h : digit < 16) :
    hexDigit? (hexChar digit) = some digit ∧ isAlphanum (hexChar digit) = true ∧
      isSpace (hexChar digit) = false ∧ hexChar digit ≠ '-' ∧ hexChar digit ≠ '+' := by
  have hall : ∀ digit : Fin 16, hexDigit? (hexChar digit) = some (digit : Nat) ∧
      isAlphanum (hexChar digit) = true ∧ isSpace (hexChar digit) = false ∧
        hexChar digit ≠ '-' ∧ hexChar digit ≠ '+' := by decide
  exact hall ⟨digit, h⟩

theorem scanHex_hexChar {m n : Nat} (hm : m < 16) (hn : n < 16) (s : Str) :
    scanHex (hexChar m :: hexChar n :: s) = some ((16 * m + n : Nat) : Int) := by
  obtain ⟨hhigh, -, hspace, hminus, hplus⟩ := hexChar_spec hm
  have hlow := (hexChar_spec hn).1
  have hdigits : scanHexDigits 2 (hexChar m :: hexChar n :: s) = [m, n] := by
    simp only [scanHexDigits, hhigh, hlow]
  unfold scanHex
  rw [List.dropWhile_cons, hspace, if_neg Bool.false_ne_true]
  split
  · next heq => exact absurd (List.cons.inj heq).1 hminus
  · next heq => exact absurd (List.cons.inj heq).1 hplus
  · rw [hdigits, if_neg (List.cons_ne_nil _ _)]
    simp [hexValue]

theorem uriUnescapeLoop_percentEncoded {c : Char} (h : c.toNat < 256) (fuel : Nat) (s : Str) :
    uriUnescapeLoop (fuel + 1) (percentEncoded c ++ s) = c :: uriUnescapeLoop fuel s := by
  have hhigh : c.toNat / 16 < 16 := by omega
  have hlow : c.toNat % 16 < 16 := by omega
  rw [percentEncoded_eq, List.cons_append, List.cons_append, List.singleton_append,
    uriUnescapeLoop, if_neg (by simp), scanHex_hexChar hhigh hlow, Nat.div_add_mod]
  have hread : Char.ofNat (((c.toNat : Int) % 256).toNat) = c := by
    rw [Int.emod_eq_of_lt (by omega) (by omega), Int.toNat_natCast, Char.ofNat_toNat]
  dsimp only
  rw [hread, List.getElem?_cons_succ, List.getElem?_cons_zero, Option.bind_some,
    (hexChar_spec hlow).1, if_pos (by rfl)]
  rfl

theorem uriUnescapeLoop_cons {c : Char} (h : c ≠ '%') (fuel : Nat) (s : Str) :
    uriUnescapeLoop (fuel + 1) (c :: s) = c :: uriUnescapeLoop fuel s := by
  rw [uriUnescapeLoop]
  exact fun heq => absurd heq h

theorem isAlphanum_ne {c d : Char} (hc : isAlphanum c = true) (hd : isAlphanum d = false) :
    c ≠ d := by
  rintro rfl
  rw [hc] at hd
  cases hd

section Escape

variable {def_ s : Str}

theorem escape_cons (c : Char) (s def_ : Str) :
    osipUriEscapeNonasciiAndNondef (c :: s) def_ =
      (if isAlphanum c || def_.contains c then [c] else percentEncoded c) ++
        osipUriEscapeNonasciiAndNondef s def_ :=
  List.flatMap_cons

theorem uriUnescapeLoop_escape (hdef : '%' ∉ def_) (h : ∀ c ∈ s, c.toNat < 256) {fuel : Nat}
    (hfuel : (osipUriEscapeNonasciiAndNondef s def_).length ≤ fuel) :
    uriUnescapeLoop fuel (osipUriEscapeNonasciiAndNondef s def_) = s := by
  induction s generalizing fuel with
  | nil => cases fuel <;> rfl
  | cons c s ih =>
      rw [List.forall_mem_cons] at h
      rw [escape_cons, List.length_append] at hfuel
      rw [escape_cons]
      cases fuel with
      | zero => split_ifs at hfuel <;> simp [percentEncoded] at hfuel
      | succ fuel =>
          split_ifs at hfuel ⊢ with hplain
          · have hc : c ≠ '%' := by
              rintro rfl
              simp [hdef, isAlphanum] at hplain
            rw [List.singleton_append, uriUnescapeLoop_cons hc]
            rw [List.length_singleton] at hfuel
            rw [ih h.2 (by omega)]
          · have hlength : (percentEncoded c).length = 3 := rfl
            rw [uriUnescapeLoop_percentEncoded h.1, ih h.2 (by omega)]

theorem osipUriUnescape_escape (hdef : '%' ∉ def_) (h : IsUriText s) :
    osipUriUnescape (osipUriEscapeNonasciiAndNondef s def_) = s := by
  have hbytes : ∀ c ∈ s, c.toNat < 256 := fun c hc => (h.2 c hc).2
  rw [osipUriUnescape, uriUnescapeLoop_escape hdef hbytes (Nat.le_refl _), cString,
    List.takeWhile_eq_self_iff]
  intro c hc
  exact bne_iff_ne.2 (h.2 c hc).1

theorem notMem_escape {d : Char} (halpha : isAlphanum d = false) (hpercent : d ≠ '%')
    (hdef : d ∉ def_) (h : IsUriText s) : d ∉ osipUriEscapeNonasciiAndNondef s def_ := by
  intro hmem
  obtain ⟨c, hc, hd⟩ := List.mem_flatMap.1 hmem
  split_ifs at hd with hplain
  · rw [List.mem_singleton] at hd
    rw [← hd, halpha, Bool.false_or, List.contains_iff_mem] at hplain
    exact hdef hplain
  · have hbyte := (h.2 c hc).2
    have hhigh := (hexChar_spec (show c.toNat / 16 < 16 by omega)).2.1
    have hlow := (hexChar_spec (show c.toNat % 16 < 16 by omega)).2.1
    simp only [percentEncoded_eq, List.mem_cons, List.not_mem_nil, or_false] at hd
    obtain hd | hd | hd := hd
    · exact hpercent hd
    · exact isAlphanum_ne hhigh halpha hd.symm
    · exact isAlphanum_ne hlow halpha hd.symm

theorem escape_ne_nil (h : s ≠ []) : osipUriEscapeNonasciiAndNondef s def_ ≠ [] := by
  obtain ⟨c, s, rfl⟩ := List.exists_cons_of_ne_nil h
  rw [escape_cons]
  apply List.append_ne_nil_of_left_ne_nil
  split_ifs
  · exact List.cons_ne_nil c []
  · exact List.cons_ne_nil _ _

end Escape

/-! ### Delimiters -/

theorem nextSeparator_append_sep {t : Str} {sep before : Char} (hsep : sep ∉ t)
    (hbefore : before ∉ t) (hne : sep ≠ before) (rest : Str) :
    nextSeparator (t ++ sep :: rest) sep before = some (sep :: rest) := by
  unfold nextSeparator
  rw [strchr_append hsep, strchr_append hbefore, strchr, if_pos rfl, strchr, if_neg hne]
  cases hstrchr : strchr rest before with
  | none => rfl
  | some tmp => exact if_pos (Nat.lt_succ_of_le (strchr_length_le hstrchr))

theorem nextSeparator_append_before {t : Str} {sep before : Char} (hsep : sep ∉ t)
    (hbefore : before ∉ t) (hne : sep ≠ before) (rest : Str) :
    nextSeparator (t ++ before :: rest) sep before = none := by
  unfold nextSeparator
  rw [strchr_append hsep, strchr_append hbefore, strchr, if_neg hne.symm, strchr, if_pos rfl]
  cases hstrchr : strchr rest sep with
  | none => rfl
  | some ind =>
      have hlength := strchr_length_le hstrchr
      exact if_neg (by rw [List.length_cons]; omega)

theorem nextSeparator_of_notMem {t : Str} {sep : Char} (h : sep ∉ t) (before : Char) :
    nextSeparator t sep before = none := by
  rw [nextSeparator, strchr_eq_none_iff.2 h]

theorem pointerDiff_append (t rest : Str) : pointerDiff rest (t ++ rest) = t.length := by
  rw [pointerDiff, List.length_append, Nat.add_sub_cancel]

theorem pointerDiff_cons (sep : Char) (t rest : Str) :
    pointerDiff rest (sep :: (t ++ rest)) = t.length + 1 :=
  pointerDiff_append (sep :: t) rest

theorem between_append (sep : Char) (t rest : Str) :
    between (sep :: (t ++ rest)) rest = osipUriUnescape t := by
  rw [between, pointerDiff_cons, Nat.add_sub_cancel, List.tail_cons, osipStrncpy, List.take_left]

def Delimited (sep : Char) (rest : Str) : Prop := ∀ c ∈ rest.head?, c = sep

theorem strchr_of_delimited {sep : Char} {rest : Str} (h : Delimited sep rest) :
    strchr rest sep = if rest = [] then none else some rest := by
  cases rest with
  | nil => rfl
  | cons c rest => rw [strchr, if_pos (h c rfl), if_neg (List.cons_ne_nil _ _)]

theorem getD_strchr_of_delimited {sep : Char} {rest : Str} (h : Delimited sep rest) :
    (strchr rest sep).getD [] = rest := by
  rw [strchr_of_delimited h]
  split_ifs with hrest
  · exact hrest.symm
  · rfl

/-! ### Parameters -/

def IsUriParam (param : GenericParam) : Prop :=
  IsUriToken param.gname ∧ osipStrcasecmp param.gname "x-obr".toList = false ∧
    osipStrcasecmp param.gname "x-obp".toList = false ∧ ∀ gvalue ∈ param.gvalue, IsUriToken gvalue

instance (param : GenericParam) : Decidable (IsUriParam param) :=
  inferInstanceAs (Decidable (_ ∧ _ ∧ _ ∧ _))

theorem osipUriEscapeUriParam_notMem {s : Str} (h : IsUriText s) :
    ';' ∉ osipUriEscapeUriParam s ∧ '=' ∉ osipUriEscapeUriParam s ∧
      '?' ∉ osipUriEscapeUriParam s ∧ '@' ∉ osipUriEscapeUriParam s :=
  ⟨notMem_escape (by decide) (by decide) (by decide) h,
    notMem_escape (by decide) (by decide) (by decide) h,
    notMem_escape (by decide) (by decide) (by decide) h,
    notMem_escape (by decide) (by decide) (by decide) h⟩

theorem osipUriUnescape_uriParam {s : Str} (h : IsUriText s) :
    osipUriUnescape (osipUriEscapeUriParam s) = s :=
  osipUriUnescape_escape (by decide) h

theorem uriParamToStr_eq {param : GenericParam} (h : IsUriParam param) :
    uriParamToStr param = ';' :: (osipUriEscapeUriParam param.gname ++
      (param.gvalue.map fun gvalue => '=' :: osipUriEscapeUriParam gvalue).getD []) := by
  rw [uriParamToStr, h.2.1, h.2.2.1, Bool.or_self, if_neg Bool.false_ne_true]
  cases param.gvalue with
  | none => rw [Option.map_none, Option.getD_none, List.append_nil]
  | some gvalue => rfl

theorem uriParam_append {param : GenericParam} (h : IsUriParam param) (rest : Str)
    (hrest : Delimited ';' rest) :
    strchr (uriParamToStr param ++ rest).tail ';' = (if rest = [] then none else some rest) ∧
      uriParam (uriParamToStr param ++ rest)
        (nextSeparator (uriParamToStr param ++ rest).tail '=' ';') rest = .ok param := by
  obtain ⟨gname, gvalue⟩ := param
  obtain ⟨hname, -, -, hvalue⟩ := id h
  dsimp only at hname hvalue
  obtain ⟨hsemi, hequal, -, -⟩ := osipUriEscapeUriParam_notMem hname.1
  have hlength : 0 < (osipUriEscapeUriParam gname).length :=
    List.length_pos_iff.2 (escape_ne_nil hname.1.1)
  rw [uriParamToStr_eq h]
  dsimp only
  cases gvalue with
  | none =>
      rw [Option.map_none, Option.getD_none, List.append_nil, List.cons_append, List.tail_cons]
      have hsep : nextSeparator (osipUriEscapeUriParam gname ++ rest) '=' ';' = none := by
        cases rest with
        | nil =>
            rw [List.append_nil]
            exact nextSeparator_of_notMem hequal ';'
        | cons c rest =>
            rw [hrest c rfl]
            exact nextSeparator_append_before hequal hsemi (by decide) rest
      refine ⟨by rw [strchr_append hsemi, strchr_of_delimited hrest], ?_⟩
      rw [hsep, uriParam, pointerDiff_cons, if_neg (by omega), between_append,
        osipUriUnescape_uriParam hname.1, GenericParam.set, hname.2, Option.map_none]
  | some gvalue =>
      have hgvalue := hvalue gvalue rfl
      obtain ⟨hvsemi, -, -, -⟩ := osipUriEscapeUriParam_notMem hgvalue.1
      have hvlength : 0 < (osipUriEscapeUriParam gvalue).length :=
        List.length_pos_iff.2 (escape_ne_nil hgvalue.1.1)
      rw [Option.map_some, Option.getD_some, List.cons_append, List.append_assoc, List.cons_append,
        List.tail_cons]
      refine ⟨?_, ?_⟩
      · rw [strchr_append hsemi, strchr, if_neg (by decide), strchr_append hvsemi,
          strchr_of_delimited hrest]
      · rw [nextSeparator_append_sep hequal hsemi (by decide), uriParam, pointerDiff_cons,
          pointerDiff_cons, if_neg (by omega), if_neg (by omega), between_append, between_append,
          osipUriUnescape_uriParam hname.1, osipUriUnescape_uriParam hgvalue.1, GenericParam.set,
          hname.2, Option.map_some, hgvalue.2]

theorem delimited_nil (sep : Char) : Delimited sep [] := by simp [Delimited]

theorem delimited_uriParams {params : List GenericParam} (h : ∀ param ∈ params, IsUriParam param) :
    Delimited ';' (params.flatMap uriParamToStr) := by
  cases params with
  | nil => exact delimited_nil ';'
  | cons param params =>
      rw [List.flatMap_cons, uriParamToStr_eq (h param List.mem_cons_self)]
      intro c hc
      simpa using hc.symm

theorem uriParseParams_flatMap {param : GenericParam} {params : List GenericParam}
    (h : ∀ param' ∈ param :: params, IsUriParam param') {fuel : Nat} (hfuel : params.length < fuel)
    (urlParams : List GenericParam) :
    uriParseParams fuel urlParams ((param :: params).flatMap uriParamToStr) =
      urlParams ++ param :: params := by
  induction params generalizing param fuel urlParams with
  | nil =>
      cases fuel with
      | zero => exact absurd hfuel (Nat.not_lt_zero _)
      | succ fuel =>
          have hparam : IsUriParam param := h param List.mem_cons_self
          obtain ⟨hcomma, hread⟩ := uriParam_append hparam [] (delimited_nil ';')
          rw [List.flatMap_cons, List.flatMap_nil, uriParseParams]
          rw [hcomma, if_pos rfl, Option.getD_none, hread]
  | cons next params ih =>
      cases fuel with
      | zero => exact absurd hfuel (Nat.not_lt_zero _)
      | succ fuel =>
          have hparam : IsUriParam param := h param List.mem_cons_self
          have hparams := (List.forall_mem_cons.1 h).2
          have hne : (next :: params).flatMap uriParamToStr ≠ [] := by
            rw [List.flatMap_cons, uriParamToStr_eq (hparams next List.mem_cons_self)]
            exact List.cons_ne_nil _ _
          obtain ⟨hcomma, hread⟩ := uriParam_append hparam _ (delimited_uriParams hparams)
          rw [List.flatMap_cons, uriParseParams]
          rw [hcomma, if_neg hne, Option.getD_some, hread]
          dsimp only
          rw [ih hparams (Nat.lt_of_succ_lt_succ hfuel), List.append_assoc, List.singleton_append]

/-! ### Headers -/

def IsUriHeader (header : GenericParam) : Prop :=
  IsUriToken header.gname ∧ ∃ hvalue ∈ header.gvalue, IsUriToken hvalue

instance (header : GenericParam) : Decidable (IsUriHeader header) :=
  inferInstanceAs (Decidable (_ ∧ _))

theorem osipUriEscapeHeaderParam_notMem {s : Str} (h : IsUriText s) :
    '&' ∉ osipUriEscapeHeaderParam s ∧ '=' ∉ osipUriEscapeHeaderParam s ∧
      ';' ∉ osipUriEscapeHeaderParam s ∧ '@' ∉ osipUriEscapeHeaderParam s :=
  ⟨notMem_escape (by decide) (by decide) (by decide) h,
    notMem_escape (by decide) (by decide) (by decide) h,
    notMem_escape (by decide) (by decide) (by decide) h,
    notMem_escape (by decide) (by decide) (by decide) h⟩

theorem osipUriUnescape_headerParam {s : Str} (h : IsUriText s) :
    osipUriUnescape (osipUriEscapeHeaderParam s) = s :=
  osipUriUnescape_escape (by decide) h

theorem delimited_uriHeaders (separator : Char) (headers : List GenericParam) :
    Delimited separator (uriHeadersToStr separator headers) := by
  cases headers with
  | nil => exact delimited_nil separator
  | cons header headers =>
      intro c hc
      simpa [uriHeadersToStr] using hc.symm

theorem uriHeadersToStr_cons (separator : Char) {header : GenericParam} {hvalue : Str}
    (h : header.gvalue = some hvalue) (headers : List GenericParam) :
    uriHeadersToStr separator (header :: headers) =
      separator :: (osipUriEscapeHeaderParam header.gname ++
        '=' :: (osipUriEscapeHeaderParam hvalue ++ uriHeadersToStr '&' headers)) := by
  rw [uriHeadersToStr, h]
  simp only [Option.getD_some, List.cons_append, List.append_assoc]

theorem uriHeadersToStr_ne_nil (separator : Char) (header : GenericParam)
    (headers : List GenericParam) : uriHeadersToStr separator (header :: headers) ≠ [] := by
  rw [uriHeadersToStr]
  exact List.cons_ne_nil _ _

theorem uriParseHeaders_uriHeadersToStr {separator : Char} (hseparator : separator ≠ '=')
    {header : GenericParam} {headers : List GenericParam}
    (h : ∀ header' ∈ header :: headers, IsUriHeader header') {fuel : Nat}
    (hfuel : headers.length < fuel) (urlHeaders : List GenericParam) :
    uriParseHeaders fuel urlHeaders (uriHeadersToStr separator (header :: headers)) =
      urlHeaders ++ header :: headers := by
  induction headers generalizing separator header fuel urlHeaders with
  | nil =>
      cases fuel with
      | zero => exact absurd hfuel (Nat.not_lt_zero _)
      | succ fuel =>
          obtain ⟨gname, gvalue⟩ := header
          obtain ⟨hname, hvalue, rfl, hgvalue⟩ := h _ List.mem_cons_self
          obtain ⟨hand, hequal, -, -⟩ := osipUriEscapeHeaderParam_notMem hname.1
          obtain ⟨hvand, -, -, -⟩ := osipUriEscapeHeaderParam_notMem hgvalue.1
          rw [uriHeadersToStr_cons separator rfl, uriHeadersToStr, uriParseHeaders]
          rw [strchr, if_neg hseparator, strchr_append hequal, strchr, if_pos rfl, List.tail_cons,
            strchr_append hand, strchr, if_neg (by decide), strchr_append hvand, strchr]
          dsimp only
          rw [between_append, between_append, osipUriUnescape_headerParam hname.1,
            osipUriUnescape_headerParam hgvalue.1, GenericParam.set, hname.2, Option.map_some,
            hgvalue.2]
  | cons next headers ih =>
      cases fuel with
      | zero => exact absurd hfuel (Nat.not_lt_zero _)
      | succ fuel =>
          obtain ⟨gname, gvalue⟩ := header
          have hheaders := (List.forall_mem_cons.1 h).2
          obtain ⟨hname, hvalue, rfl, hgvalue⟩ := h _ List.mem_cons_self
          obtain ⟨hand, hequal, -, -⟩ := osipUriEscapeHeaderParam_notMem hname.1
          obtain ⟨hvand, -, -, -⟩ := osipUriEscapeHeaderParam_notMem hgvalue.1
          have hvlength : 0 < (osipUriEscapeHeaderParam hvalue).length :=
            List.length_pos_iff.2 (escape_ne_nil hgvalue.1.1)
          have hne := uriHeadersToStr_ne_nil '&' next headers
          rw [uriHeadersToStr_cons separator rfl, uriParseHeaders]
          rw [strchr, if_neg hseparator, strchr_append hequal, strchr, if_pos rfl, List.tail_cons,
            strchr_append hand, strchr, if_neg (by decide), strchr_append hvand,
            strchr_of_delimited (delimited_uriHeaders '&' _), if_neg hne]
          dsimp only
          rw [pointerDiff_cons, if_neg (by omega), between_append, between_append,
            osipUriUnescape_headerParam hname.1, osipUriUnescape_headerParam hgvalue.1,
            GenericParam.set, hname.2, Option.map_some, hgvalue.2,
            ih (by decide) hheaders (Nat.lt_of_succ_lt_succ hfuel), List.append_assoc,
            List.singleton_append]

/-! ### Host and port -/

theorem scanBack_eq {s : Str} {stop : Char → Bool} {k i : Nat} (hle : k ≤ i)
    (hk : k = 0 ∨ s[k]?.any stop = true)
    (h : ∀ j, k < j → j ≤ i → s[j]?.any stop = false) : scanBack s stop i = k := by
  induction i with
  | zero => rw [scanBack, Nat.le_zero.1 hle]
  | succ i ih =>
      rw [scanBack]
      by_cases heq : k = i + 1
      · have hstop := hk.resolve_left (by omega)
        rw [← heq, if_pos hstop]
      · rw [h (i + 1) (by omega) (Nat.le_refl _), if_neg Bool.false_ne_true]
        exact ih (by omega) fun j hj hji => h j hj (by omega)

theorem scanBack_append {stop : Char → Bool} (front : Str) {c : Char} {mid : Str}
    (hstop : front = [] ∨ stop c = true) (hmid : ∀ d ∈ mid, stop d = false) (rest : Str) :
    scanBack (front ++ c :: (mid ++ rest)) stop (front.length + mid.length) = front.length := by
  apply scanBack_eq (Nat.le_add_right _ _)
  · cases hstop with
    | inl hnil => exact Or.inl (by rw [hnil]; rfl)
    | inr hstop =>
        refine Or.inr ?_
        rw [List.getElem?_append_right (Nat.le_refl _), Nat.sub_self]
        exact hstop
  · intro j hj hle
    have hindex : (front ++ c :: (mid ++ rest))[j]? = mid[j - front.length - 1]? := by
      obtain ⟨i, rfl⟩ : ∃ i, j = front.length + (i + 1) := ⟨j - front.length - 1, by omega⟩
      rw [List.getElem?_append_right (by omega), Nat.add_sub_cancel_left, List.getElem?_cons_succ,
        List.getElem?_append_left (by omega), Nat.add_sub_cancel]
    rw [hindex]
    cases hmem : mid[j - front.length - 1]? with
    | none => rfl
    | some d => exact hmid d (List.mem_of_getElem? hmem)

theorem scanBack_start {stop : Char → Bool} (sep : Char) {mid : Str}
    (hmid : ∀ d ∈ mid, stop d = false) (rest : Str) :
    scanBack (sep :: (mid ++ rest)) stop mid.length = 0 := by
  have hfound := scanBack_append [] (Or.inl rfl : [] = [] ∨ stop sep = true) hmid rest
  rwa [List.length_nil, Nat.zero_add, List.nil_append] at hfound

/-- A host without the delimiters of a URI; one with a colon is an IPv6 literal. -/
def IsHost (host : Str) : Prop := IsUriToken host ∧ ∀ c ∈ host, c ∉ "@;?[]".toList

instance (host : Str) : Decidable (IsHost host) :=
  haveI : Decidable (∀ c ∈ host, c ∉ "@;?[]".toList) := List.decidableBAll _ host
  inferInstanceAs (Decidable (_ ∧ _))

theorem bracketed_cases (host : Str) :
    (':' ∉ host ∧ bracketed host = host) ∨ bracketed host = '[' :: (host ++ [']']) := by
  unfold bracketed
  by_cases hcolon : ':' ∈ host
  · obtain ⟨front, back, rfl, hfront⟩ := List.eq_append_cons_of_mem hcolon
    rw [strchr_append hfront, strchr, if_pos rfl, Option.isSome_some, if_pos rfl]
    exact Or.inr rfl
  · rw [strchr_eq_none_iff.2 hcolon, if_neg (by decide)]
    exact Or.inl ⟨hcolon, rfl⟩

theorem IsHost.ne {host : Str} (h : IsHost host) {c : Char} (hc : c ∈ host) :
    c ≠ '@' ∧ c ≠ ';' ∧ c ≠ '?' ∧ c ≠ '[' ∧ c ≠ ']' := by
  have hdelim := h.2 c hc
  simpa using hdelim

def IsPort (port : Str) : Prop := port ≠ [] ∧ ∀ c ∈ port, c.isDigit = true

instance (port : Str) : Decidable (IsPort port) :=
  haveI : Decidable (∀ c ∈ port, c.isDigit = true) := List.decidableBAll _ port
  inferInstanceAs (Decidable (_ ∧ _))

theorem IsPort.ne {port : Str} (h : IsPort port) {c : Char} (hc : c ∈ port) {d : Char}
    (hd : d.isDigit = false) : c ≠ d := by
  rintro rfl
  rw [h.2 c hc] at hd
  cases hd

section Host

variable {sep : Char} {host : Str}

theorem text_literal (hliteral : bracketed host = '[' :: (host ++ [']'])) (rest : Str) :
    sep :: (bracketed host ++ rest) = (sep :: '[' :: host) ++ ']' :: ([] ++ rest) ∧
      (bracketed host).length = (sep :: '[' :: host).length + ([] : Str).length := by
  rw [hliteral]
  simp

theorem portParse_host (h : IsHost host) (rest : Str) :
    portParse (sep :: (bracketed host ++ rest)) ((bracketed host).length + 1) =
      .ok (none, (bracketed host).length + 1) := by
  unfold portParse
  dsimp only
  rw [Nat.add_sub_cancel]
  obtain ⟨hcolon, hplain⟩ | hliteral := bracketed_cases host
  · have hmid : ∀ c ∈ host, (c == ']' || c == ':') = false := by
      intro c hc
      have hne : c ≠ ':' := fun heq => hcolon (heq ▸ hc)
      simp [hne, (h.ne hc).2.2.2.2]
    rw [hplain, scanBack_start sep hmid rest, if_pos rfl, ite_self]
  · obtain ⟨htext, hlength⟩ := @text_literal sep host hliteral rest
    rw [htext, hlength, scanBack_append _ (Or.inr rfl) (by simp),
      List.getElem?_append_right (Nat.le_refl _), Nat.sub_self, List.getElem?_cons_zero,
      if_neg (by decide)]

theorem portParse_port {port : Str} (h : IsPort port) (rest : Str) :
    portParse (sep :: (bracketed host ++ ':' :: (port ++ rest)))
        ((bracketed host).length + 1 + (port.length + 1)) =
      if port.length ≤ 7 then .ok (some port, (bracketed host).length + 1)
      else .error osipSyntaxerror := by
  have hlength : 0 < port.length := List.length_pos_iff.2 h.1
  have hmid : ∀ c ∈ port, (c == ']' || c == ':') = false := by
    intro c hc
    simp [h.ne hc (show Char.isDigit ']' = false from rfl),
      h.ne hc (show Char.isDigit ':' = false from rfl)]
  have hindex : (bracketed host).length + 1 + (port.length + 1) - 1 =
      (sep :: bracketed host).length + port.length := by
    rw [List.length_cons]
    omega
  have hport : (sep :: bracketed host ++ ':' :: (port ++ rest))[(sep :: bracketed host).length]? =
      some ':' := by
    rw [List.getElem?_append_right (Nat.le_refl _), Nat.sub_self, List.getElem?_cons_zero]
  have hdrop : (sep :: bracketed host ++ ':' :: (port ++ rest)).drop
      ((sep :: bracketed host).length + 1) = port ++ rest := by
    rw [List.drop_append, List.drop_of_length_le (by omega), Nat.add_sub_cancel_left]
    rfl
  have hblank : ∀ c ∈ port, isBlank c = false := by
    intro c hc
    simp [isBlank, h.ne hc (show Char.isDigit ' ' = false from rfl),
      h.ne hc (show Char.isDigit '\r' = false from rfl),
      h.ne hc (show Char.isDigit '\n' = false from rfl),
      h.ne hc (show Char.isDigit '\t' = false from rfl)]
  have hsize : (bracketed host).length + 1 + (port.length + 1) - (sep :: bracketed host).length =
      port.length + 1 := by
    rw [List.length_cons]
    omega
  unfold portParse
  dsimp only
  rw [← List.cons_append, hindex, scanBack_append _ (Or.inr rfl) hmid rest, if_pos hport,
    if_neg (by simp), hdrop, hsize, Nat.add_sub_cancel, osipClrncpy, List.take_left,
    osipClrspace_of_no_blank hblank, List.length_cons]
  by_cases hshort : port.length ≤ 7
  · rw [if_neg (by omega), if_pos hshort]
  · rw [if_pos (by omega), if_neg hshort]

theorem hostParse_host (hsep : sep = ':' ∨ sep = '@') (h : IsHost host) {rest : Str}
    (hrest : rest.head? ≠ some ']') :
    hostParse (sep :: (bracketed host ++ rest)) ((bracketed host).length + 1) = .ok host := by
  have hne : host ≠ [] := h.1.1.1
  have hlength : 0 < host.length := List.length_pos_iff.2 hne
  have hlast : (sep :: (bracketed host ++ rest))[(bracketed host).length + 1]?.any (· == ']') =
      false := by
    rw [List.getElem?_cons_succ, List.getElem?_append_right (Nat.le_refl _), Nat.sub_self,
      ← List.head?_eq_getElem?]
    cases hhead : rest.head? with
    | none => rfl
    | some c =>
        rw [hhead, Ne, Option.some.injEq] at hrest
        exact beq_false_of_ne hrest
  unfold hostParse
  dsimp only
  rw [scanBack, hlast, if_neg Bool.false_ne_true]
  obtain ⟨hcolon, hplain⟩ | hliteral := bracketed_cases host
  · have hmid : ∀ c ∈ host, (c == ']') = false := by
      intro c hc
      simp [(h.ne hc).2.2.2.2]
    have hsepne : some sep ≠ some ']' := by
      rcases hsep with rfl | rfl <;> decide
    rw [hplain, scanBack_start sep hmid rest, List.getElem?_cons_zero, if_neg hsepne,
      if_neg (by omega), Nat.add_sub_cancel, List.drop_one, List.tail_cons, osipClrncpy,
      List.take_left, h.1.2]
  · obtain ⟨htext, hindex⟩ := @text_literal sep host hliteral rest
    have hstart : (sep == '[') = false := by
      rcases hsep with rfl | rfl <;> rfl
    rw [htext, hindex, scanBack_append _ (Or.inr rfl) (by simp),
      List.getElem?_append_right (Nat.le_refl _), Nat.sub_self, List.getElem?_cons_zero,
      if_pos rfl, List.take_left, List.findIdx?_cons, hstart, if_neg Bool.false_ne_true,
      List.findIdx?_cons, beq_self_eq_true, if_pos rfl, Option.map_some]
    dsimp only
    have hsize : (sep :: '[' :: host).length - (0 + 1) = host.length + 1 := rfl
    have hdrop : ((sep :: '[' :: host) ++ ']' :: ([] ++ rest)).drop (0 + 1 + 1) =
      host ++ ']' :: ([] ++ rest) := rfl
    rw [hsize, if_neg (by omega), Nat.add_sub_cancel, hdrop, osipClrncpy, List.take_left, h.1.2]

end Host

end Exosip
