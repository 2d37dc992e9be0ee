import Exosip.Parser.UriParts

/-! The parameters and headers of a URI, segment by segment: what each segment says, and what
`osip_uri_parse`, which does not look at the results of its sub-parsers, keeps of it. -/
namespace Exosip

open CString

/-! ### Segments -/

/-- The text with its escapes decoded: none for an escape that is not '%' and two digits, and for
a NUL, which no C string holds. -/
def decodeEscapes : Str → Option Str
  | [] => some []
  | '%' :: high :: low :: s =>
      match hexDigit? high, hexDigit? low with
      | some m, some n =>
          if 16 * m + n = 0 then none else (decodeEscapes s).map (Char.ofNat (16 * m + n) :: ·)
      | _, _ => none
  | c :: s => if c = '%' ∨ c = '\x00' then none else (decodeEscapes s).map (c :: ·)

def segmentName (segment : Str) : Str := segment.takeWhile (· != '=')

def segmentValue (segment : Str) : Option Str :=
  match segment.dropWhile (· != '=') with
  | [] => none
  | _ :: value => some value

/-- A name, and a value if there is one. -/
def readSegment (segment : Str) : Option GenericParam :=
  match segmentValue segment with
  | none => (decodeEscapes (segmentName segment)).map (GenericParam.set · none)
  | some value => do
      let gname ← decodeEscapes (segmentName segment)
      let gvalue ← decodeEscapes value
      some (GenericParam.set gname (some gvalue))

def readParam (segment : Str) : Option GenericParam :=
  if segmentName segment = [] ∨ segmentValue segment = some [] then none else readSegment segment

def readHeader (segment : Str) : Option GenericParam :=
  if segmentName segment = [] ∨ segmentValue segment = none then none else readSegment segment

def uriHostPart (buf : Str) : Str := (strchr buf '@').getD ((strchr buf ':').getD [])

/-- The segments between the first ';' and the '?'. -/
def uriParamSegments (host : Str) : List Str :=
  match strchr host ';' with
  | none => []
  | some params => (params.tail.takeWhile (· != '?')).splitOn ';'

def uriHeaderSegments (host : Str) : List Str :=
  match strchr host '?' with
  | none => []
  | some headers => headers.tail.splitOn '&'

/-- Every segment is read, and appears in the result in its place. -/
def SegmentsKept (buf : Str) (url : Uri) : Prop :=
  (uriParamSegments (uriHostPart buf)).map readParam = url.urlParams.map some ∧
    (uriHeaderSegments (uriHostPart buf)).map readHeader = url.urlHeaders.map some

/-- Every segment can be read, and only the value of the last header may be empty. -/
def SegmentsRead (buf : Str) : Prop :=
  (∀ segment ∈ uriParamSegments (uriHostPart buf), (readParam segment).isSome = true) ∧
    (∀ segment ∈ uriHeaderSegments (uriHostPart buf), (readHeader segment).isSome = true) ∧
    ∀ segment ∈ (uriHeaderSegments (uriHostPart buf)).dropLast, segmentValue segment ≠ some []

instance (buf : Str) (url : Uri) : Decidable (SegmentsKept buf url) :=
  inferInstanceAs (Decidable (_ ∧ _))

instance (buf : Str) : Decidable (SegmentsRead buf) := inferInstanceAs (Decidable (_ ∧ _ ∧ _))

/-! ### What the parsers store -/

def storedSegment (segment : Str) : GenericParam :=
  GenericParam.set (osipUriUnescape (segmentName segment))
    ((segmentValue segment).map osipUriUnescape)

def storedParams : List Str → List GenericParam
  | [] => []
  | segment :: segments =>
      if segmentName segment = [] ∨ segmentValue segment = some [] then []
      else storedSegment segment :: storedParams segments

def storedHeaders : List Str → List GenericParam
  | [] => []
  | segment :: segments =>
      if segmentValue segment = none ∨ segmentValue segment = some [] ∧ segments ≠ [] then []
      else storedSegment segment :: storedHeaders segments

theorem segmentName_of_notMem {segment : Str} (h : '=' ∉ segment) : segmentName segment = segment :=
  List.takeWhile_eq_self_iff.2 fun _ hc => bne_iff_ne.2 (ne_of_mem_of_not_mem hc h)

theorem segmentValue_of_notMem {segment : Str} (h : '=' ∉ segment) : segmentValue segment = none := by
  have hall : ∀ c ∈ segment, (c != '=') = true :=
    fun c hc => bne_iff_ne.2 (ne_of_mem_of_not_mem hc h)
  rw [segmentValue, List.dropWhile_eq_nil_iff.2 hall]

theorem segmentName_append {name : Str} (h : '=' ∉ name) (value : Str) :
    segmentName (name ++ '=' :: value) = name := by
  have hall : ∀ c ∈ name, (c != '=') = true := fun c hc => bne_iff_ne.2 (ne_of_mem_of_not_mem hc h)
  rw [segmentName, List.takeWhile_append_of_pos hall]
  simp

theorem segmentValue_append_equal {name : Str} (h : '=' ∉ name) (value : Str) :
    segmentValue (name ++ '=' :: value) = some value := by
  have hall : ∀ c ∈ name, (c != '=') = true := fun c hc => bne_iff_ne.2 (ne_of_mem_of_not_mem hc h)
  rw [segmentValue, List.dropWhile_append_of_pos hall]
  simp

theorem segment_cases (segment : Str) :
    '=' ∉ segment ∧ segmentName segment = segment ∧ segmentValue segment = none ∨
      ∃ name value, segment = name ++ '=' :: value ∧ '=' ∉ name ∧ segmentName segment = name ∧
        segmentValue segment = some value := by
  by_cases hmem : '=' ∈ segment
  · obtain ⟨name, value, rfl, hname⟩ := List.eq_append_cons_of_mem hmem
    exact Or.inr ⟨name, value, rfl, hname, segmentName_append hname value,
      segmentValue_append_equal hname value⟩
  · exact Or.inl ⟨hmem, segmentName_of_notMem hmem, segmentValue_of_notMem hmem⟩

theorem splitOn_cases (sep : Char) (t : Str) :
    sep ∉ t ∧ t.splitOn sep = [t] ∨
      ∃ segment rest, t = segment ++ sep :: rest ∧ sep ∉ segment ∧
        t.splitOn sep = segment :: rest.splitOn sep := by
  by_cases hmem : sep ∈ t
  · obtain ⟨segment, rest, rfl, hsegment⟩ := List.eq_append_cons_of_mem hmem
    have hall : ∀ c ∈ segment, (c == sep) = false :=
      fun c hc => beq_eq_false_iff_ne.2 (ne_of_mem_of_not_mem hc hsegment)
    exact Or.inr ⟨segment, rest, rfl, hsegment,
      List.splitOnP_append_cons_of_forall_mem hall sep (beq_self_eq_true sep) rest⟩
  · have hall : ∀ c ∈ t, (c == sep) = false :=
      fun c hc => beq_eq_false_iff_ne.2 (ne_of_mem_of_not_mem hc hmem)
    exact Or.inl ⟨hmem, List.splitOnP_eq_singleton hall⟩

/-- A parameter from its ';' to the next one. -/
theorem uriParam_segment {segment rest : Str} (hsegment : ';' ∉ segment) (hrest : Delimited ';' rest) :
    uriParam (';' :: (segment ++ rest)) (nextSeparator (segment ++ rest) '=' ';') rest =
      if segmentName segment = [] ∨ segmentValue segment = some [] then .error osipSyntaxerror
      else .ok (storedSegment segment) := by
  rw [storedSegment]
  obtain ⟨hequal, hname, hvalue⟩ | ⟨name, value, rfl, hequal, hname, hvalue⟩ := segment_cases segment
  · have hnone : nextSeparator (segment ++ rest) '=' ';' = none := by
      cases rest with
      | nil =>
          rw [List.append_nil]
          exact nextSeparator_of_notMem hequal ';'
      | cons c rest =>
          rw [hrest c rfl]
          exact nextSeparator_append_before hequal hsegment (by decide) rest
    rw [hnone, uriParam, pointerDiff_cons, between_append, hname, hvalue]
    by_cases hempty : segment = []
    · rw [if_pos (Or.inl hempty), if_pos (by rw [hempty, List.length_nil]; omega)]
    · have hpos := List.length_pos_iff.2 hempty
      rw [if_neg (by omega), if_neg (by simp [hempty])]
      rfl
  · rw [List.mem_append, List.mem_cons, not_or, not_or] at hsegment
    have hfound : nextSeparator (name ++ '=' :: value ++ rest) '=' ';' = some ('=' :: (value ++ rest)) := by
      rw [List.append_assoc, List.cons_append]
      exact nextSeparator_append_sep hequal hsegment.1 (by decide) (value ++ rest)
    rw [hfound, uriParam, pointerDiff_cons, between_append, List.append_assoc, List.cons_append,
      pointerDiff_cons, between_append, hname, hvalue]
    by_cases hvempty : value = []
    · rw [if_pos (by rw [hvempty, List.length_nil]; omega), if_pos (Or.inr (by rw [hvempty]))]
    · have hvpos := List.length_pos_iff.2 hvempty
      rw [if_neg (by omega)]
      by_cases hnempty : name = []
      · rw [if_pos (by rw [hnempty, List.length_nil]; omega), if_pos (Or.inl hnempty)]
      · have hnpos := List.length_pos_iff.2 hnempty
        rw [if_neg (by omega), if_neg (by simp [hnempty, hvempty])]
        rfl

theorem uriParseParams_eq {fuel : Nat} {t : Str} (hfuel : t.length < fuel)
    (urlParams : List GenericParam) :
    uriParseParams fuel urlParams (';' :: t) = urlParams ++ storedParams (t.splitOn ';') := by
  induction fuel generalizing t urlParams with
  | zero => omega
  | succ fuel ih =>
      rw [uriParseParams, List.tail_cons]
      obtain ⟨hsemi, hsplit⟩ | ⟨segment, rest, rfl, hsemi, hsplit⟩ := splitOn_cases ';' t
      · have hread := uriParam_segment hsemi (delimited_nil ';')
        rw [List.append_nil] at hread
        rw [hsplit, strchr_eq_none_iff.2 hsemi, Option.getD_none, hread, storedParams, storedParams]
        split_ifs
        · exact (List.append_nil _).symm
        · rfl
      · have hread := uriParam_segment hsemi (show Delimited ';' (';' :: rest) by simp [Delimited])
        have hcomma : strchr (segment ++ ';' :: rest) ';' = some (';' :: rest) := by
          rw [strchr_append hsemi, strchr, if_pos rfl]
        rw [hsplit, hcomma, Option.getD_some, hread, storedParams]
        split_ifs
        · exact (List.append_nil _).symm
        · rw [List.length_append, List.length_cons] at hfuel
          dsimp only
          rw [ih (by omega), List.append_assoc, List.singleton_append]

theorem uriParseHeaders_eq {fuel : Nat} {t : Str} (hfuel : t.length < fuel) {c : Char} (hc : c ≠ '=')
    (urlHeaders : List GenericParam) :
    uriParseHeaders fuel urlHeaders (c :: t) = urlHeaders ++ storedHeaders (t.splitOn '&') := by
  induction fuel generalizing t urlHeaders c with
  | zero => omega
  | succ fuel ih =>
      have hskip : strchr (c :: t) '=' = strchr t '=' := by rw [strchr, if_neg hc]
      rw [uriParseHeaders, List.tail_cons, hskip]
      obtain ⟨hand, hsplit⟩ | ⟨segment, rest, rfl, hand, hsplit⟩ := splitOn_cases '&' t
      · rw [hsplit, strchr_eq_none_iff.2 hand, storedHeaders, storedHeaders]
        obtain ⟨hequal, hname, hvalue⟩ | ⟨name, value, rfl, hequal, hname, hvalue⟩ := segment_cases t
        · rw [strchr_eq_none_iff.2 hequal, if_pos (Or.inl hvalue)]
          exact (List.append_nil _).symm
        · rw [strchr_append hequal, strchr, if_pos rfl, if_neg (by simp [hvalue]), storedSegment,
            hname, hvalue]
          dsimp only
          have hwhole := between_append '=' value []
          rw [List.append_nil] at hwhole
          rw [between_append, hwhole]
          rfl
      · have hfound : strchr (segment ++ '&' :: rest) '&' = some ('&' :: rest) := by
          rw [strchr_append hand, strchr, if_pos rfl]
        have hne : rest.splitOn '&' ≠ [] := List.splitOnP_ne_nil _ _
        rw [hsplit, hfound, storedHeaders]
        obtain ⟨hequal, hname, hvalue⟩ | ⟨name, value, rfl, hequal, hname, hvalue⟩ :=
          segment_cases segment
        · -- the '=' of a later header does not count
          rw [if_pos (Or.inl hvalue), List.append_nil, strchr_append hequal, strchr,
            if_neg (by decide)]
          cases hlater : strchr rest '=' with
          | none => rfl
          | some equal =>
              have hle := strchr_length_le hlater
              have hbehind : pointerDiff ('&' :: rest) equal = 0 := by
                rw [pointerDiff, List.length_cons]
                omega
              dsimp only
              rw [hbehind, if_pos (by omega)]
        · rw [List.append_assoc, List.cons_append, strchr_append hequal, strchr, if_pos rfl]
          dsimp only
          rw [pointerDiff_cons, between_append, between_append, hvalue]
          by_cases hempty : value = []
          · rw [if_pos (by rw [hempty, List.length_nil]; omega), if_pos (by simp [hempty, hne]),
              List.append_nil]
          · have hpos := List.length_pos_iff.2 hempty
            rw [List.length_append, List.length_append, List.length_cons, List.length_cons] at hfuel
            rw [if_neg (by omega), if_neg (by simp [hempty]), ih (by omega) (by decide), storedSegment,
              hname, hvalue, List.append_assoc, List.singleton_append, Option.map_some]

/-! ### What is kept -/

theorem hexDigit?_spec {c : Char} {digit : Nat} (h : hexDigit? c = some digit) :
    digit < 16 ∧ isSpace c = false ∧ c ≠ '-' ∧ c ≠ '+' := by
  have hrange : 48 ≤ c.toNat ∧ digit < 16 := by
    unfold hexDigit? at h
    simp only [Char.le_def, UInt32.le_iff_toNat_le] at h
    change (if 48 ≤ c.toNat ∧ c.toNat ≤ 57 then _ else if 97 ≤ c.toNat ∧ c.toNat ≤ 102 then _
      else if 65 ≤ c.toNat ∧ c.toNat ≤ 70 then _ else _) = _ at h
    split_ifs at h <;> cases h <;> omega
  have hne (d : Char) (hd : d.toNat < 48) : c ≠ d := by
    rintro rfl
    omega
  refine ⟨hrange.2, ?_, hne '-' (by decide), hne '+' (by decide)⟩
  simp only [isSpace, beq_eq_false_iff_ne.2 (hne ' ' (by decide)),
    beq_eq_false_iff_ne.2 (hne '\t' (by decide)), beq_eq_false_iff_ne.2 (hne '\n' (by decide)),
    beq_eq_false_iff_ne.2 (hne '\r' (by decide)), Bool.or_self, Bool.false_or,
    Bool.or_eq_false_iff, beq_eq_false_iff_ne]
  omega

theorem uriUnescapeLoop_escaped {high low : Char} {m n : Nat} (hhigh : hexDigit? high = some m)
    (hlow : hexDigit? low = some n) (fuel : Nat) (s : Str) :
    uriUnescapeLoop (fuel + 1) ('%' :: high :: low :: s) =
      Char.ofNat (16 * m + n) :: uriUnescapeLoop fuel s := by
  obtain ⟨hm, hspace, hminus, hplus⟩ := hexDigit?_spec hhigh
  obtain ⟨hn, -⟩ := hexDigit?_spec hlow
  have hscan : scanHex (high :: low :: s) = some ((16 * m + n : Nat) : Int) := by
    have hdigits : scanHexDigits 2 (high :: low :: s) = [m, n] := by
      simp only [scanHexDigits, hhigh, hlow]
    unfold scanHex
    rw [List.dropWhile_cons, hspace, if_neg Bool.false_ne_true]
    split
    · next heq => exact absurd (List.cons.inj heq).1 hminus
    · next heq => exact absurd (List.cons.inj heq).1 hplus
    · rw [hdigits, if_neg (List.cons_ne_nil _ _)]
      simp [hexValue]
  have hbyte : (((16 * m + n : Nat) : Int) % 256).toNat = 16 * m + n := by omega
  rw [uriUnescapeLoop, if_neg (by simp), hscan]
  dsimp only
  rw [hbyte, List.getElem?_cons_succ, List.getElem?_cons_zero, Option.bind_some, hlow,
    if_pos (by rfl)]
  rfl

theorem ofNat_ne_nul {k : Nat} (h : k ≠ 0) (hbyte : k < 256) : Char.ofNat k ≠ '\x00' := by
  have hvalid : k.isValidChar := Or.inl (by omega)
  intro heq
  have hval := congrArg Char.toNat heq
  rw [Char.ofNat, dif_pos hvalid] at hval
  exact h hval

theorem uriUnescapeLoop_of_decodeEscapes {s t : Str} (h : decodeEscapes s = some t) {fuel : Nat}
    (hfuel : s.length ≤ fuel) : uriUnescapeLoop fuel s = t ∧ '\x00' ∉ t := by
  fun_induction decodeEscapes s generalizing t fuel with
  | case1 =>
      cases h
      exact ⟨by cases fuel <;> rfl, List.not_mem_nil⟩
  | case2 high low s m n hlow hhigh hzero => cases h
  | case3 high low s m n hlow hhigh hzero ih =>
      obtain ⟨rest, hrest, rfl⟩ := Option.map_eq_some_iff.1 h
      simp only [List.length_cons] at hfuel
      obtain ⟨fuel, rfl⟩ := Nat.exists_eq_succ_of_ne_zero (by omega : fuel ≠ 0)
      obtain ⟨hloop, hnul⟩ := ih hrest (show s.length ≤ fuel by omega)
      have hm := (hexDigit?_spec hhigh).1
      have hn := (hexDigit?_spec hlow).1
      have hne := ofNat_ne_nul hzero (by omega)
      rw [uriUnescapeLoop_escaped hhigh hlow, hloop]
      exact ⟨rfl, by simp [hnul, Ne.symm hne]⟩
  | case4 => cases h
  | case5 c s hnot hc => cases h
  | case6 c s hnot hc ih =>
      obtain ⟨rest, hrest, rfl⟩ := Option.map_eq_some_iff.1 h
      rw [List.length_cons] at hfuel
      obtain ⟨fuel, rfl⟩ := Nat.exists_eq_succ_of_ne_zero (by omega : fuel ≠ 0)
      obtain ⟨hloop, hnul⟩ := ih hrest (show s.length ≤ fuel by omega)
      rw [not_or] at hc
      rw [uriUnescapeLoop_cons hc.1, hloop]
      exact ⟨rfl, by simp [hnul, Ne.symm hc.2]⟩

theorem osipUriUnescape_of_decodeEscapes {s t : Str} (h : decodeEscapes s = some t) :
    osipUriUnescape s = t := by
  obtain ⟨hloop, hnul⟩ := uriUnescapeLoop_of_decodeEscapes h (Nat.le_refl s.length)
  rw [osipUriUnescape, hloop, cString_eq_self hnul]

theorem storedSegment_of_read {segment : Str} {param : GenericParam}
    (h : readSegment segment = some param) : storedSegment segment = param := by
  unfold readSegment at h
  rw [storedSegment]
  cases hvalue : segmentValue segment with
  | none =>
      rw [hvalue] at h
      obtain ⟨gname, hname, rfl⟩ := Option.map_eq_some_iff.1 h
      rw [osipUriUnescape_of_decodeEscapes hname, Option.map_none]
  | some value =>
      rw [hvalue] at h
      obtain ⟨gname, hname, h⟩ := Option.bind_eq_some_iff.1 h
      obtain ⟨gvalue, hgvalue, h⟩ := Option.bind_eq_some_iff.1 h
      rw [osipUriUnescape_of_decodeEscapes hname, Option.map_some,
        osipUriUnescape_of_decodeEscapes hgvalue]
      exact Option.some.inj h

theorem storedParams_of_read {segments : List Str}
    (h : ∀ segment ∈ segments, (readParam segment).isSome = true) :
    segments.map readParam = (storedParams segments).map some := by
  induction segments with
  | nil => rfl
  | cons segment segments ih =>
      rw [List.forall_mem_cons] at h
      obtain ⟨param, hparam⟩ := Option.isSome_iff_exists.1 h.1
      rw [List.map_cons, hparam, ih h.2, storedParams]
      unfold readParam at hparam
      split_ifs at hparam ⊢ with hmalformed
      rw [List.map_cons, storedSegment_of_read hparam]

theorem storedHeaders_of_read {segments : List Str}
    (h : ∀ segment ∈ segments, (readHeader segment).isSome = true)
    (hvalue : ∀ segment ∈ segments.dropLast, segmentValue segment ≠ some []) :
    segments.map readHeader = (storedHeaders segments).map some := by
  induction segments with
  | nil => rfl
  | cons segment segments ih =>
      rw [List.forall_mem_cons] at h
      obtain ⟨header, hheader⟩ := Option.isSome_iff_exists.1 h.1
      unfold readHeader at hheader
      split_ifs at hheader with hmalformed
      rw [not_or] at hmalformed
      have hkept : ¬ (segmentValue segment = none ∨ segmentValue segment = some [] ∧ segments ≠ []) := by
        rintro (hnone | ⟨hempty, hmore⟩)
        · exact hmalformed.2 hnone
        · obtain ⟨next, segments, rfl⟩ := List.exists_cons_of_ne_nil hmore
          rw [List.dropLast_cons_cons, List.forall_mem_cons] at hvalue
          exact hvalue.1 hempty
      have hrest : ∀ segment ∈ segments.dropLast, segmentValue segment ≠ some [] := by
        cases segments with
        | nil => exact fun _ hmem => absurd hmem List.not_mem_nil
        | cons next segments =>
            rw [List.dropLast_cons_cons, List.forall_mem_cons] at hvalue
            exact hvalue.2
      rw [List.map_cons, readHeader, if_neg (not_or.2 hmalformed), hheader, ih h.2 hrest,
        storedHeaders, if_neg hkept, List.map_cons, storedSegment_of_read hheader]

theorem value_of_length_storedHeaders {segments : List Str}
    (h : (storedHeaders segments).length = segments.length) :
    ∀ segment ∈ segments.dropLast, segmentValue segment ≠ some [] := by
  induction segments with
  | nil => exact fun _ hmem => absurd hmem List.not_mem_nil
  | cons segment segments ih =>
      rw [storedHeaders] at h
      split_ifs at h with hstop
      rw [not_or, not_and] at hstop
      cases segments with
      | nil => exact fun _ hmem => absurd hmem List.not_mem_nil
      | cons next segments =>
          rw [List.dropLast_cons_cons, List.forall_mem_cons]
          refine ⟨fun hempty => hstop.2 hempty (List.cons_ne_nil _ _), ih ?_⟩
          simpa using h

/-! ### The URI -/

/-- The text between the ';' and the '?'. -/
theorem osipStrncpy_params {host params : Str} (hparams : strchr host ';' = some params)
    (h : ¬ params.length ≤ ((strchr host '?').getD []).length) :
    osipStrncpy params (pointerDiff ((strchr host '?').getD []) params) =
      ';' :: params.tail.takeWhile (· != '?') := by
  obtain ⟨before, after, rfl, hbefore, rfl⟩ := strchr_eq_some_iff.1 hparams
  cases hheaders : strchr (before ++ ';' :: after) '?' with
  | none =>
      have hnot := strchr_eq_none_iff.1 hheaders
      have hall : ∀ c ∈ after, (c != '?') = true := fun c hc =>
        bne_iff_ne.2 (ne_of_mem_of_not_mem (List.mem_append_right _ (List.mem_cons_of_mem _ hc)) hnot)
      rw [Option.getD_none, osipStrncpy, pointerDiff, List.length_nil, Nat.sub_zero, List.take_length,
        List.tail_cons, List.takeWhile_eq_self_iff.2 hall]
  | some headers =>
      rw [hheaders, Option.getD_some] at h
      obtain ⟨front, rest, hsplit, hfront, rfl⟩ := strchr_eq_some_iff.1 hheaders
      obtain ⟨mid, hmid⟩ : ∃ mid, after = mid ++ '?' :: rest := by
        have hsuffix : ';' :: after <:+ before ++ ';' :: after := List.suffix_append _ _
        have hsuffix' : '?' :: rest <:+ before ++ ';' :: after := hsplit ▸ List.suffix_append _ _
        obtain ⟨mid, hmid⟩ := List.suffix_of_suffix_length_le hsuffix' hsuffix (by omega)
        cases mid with
        | nil => cases hmid
        | cons c mid => exact ⟨mid, (List.cons.inj hmid).2.symm⟩
      subst hmid
      have hmem : '?' ∉ mid := by
        have hfront' : front = before ++ ';' :: mid := by
          have heq : (before ++ ';' :: mid) ++ '?' :: rest = front ++ '?' :: rest := by
            rw [← hsplit, List.append_assoc, List.cons_append]
          exact (List.append_cancel_right heq).symm
        intro hmem
        exact hfront (hfront' ▸ List.mem_append_right _ (List.mem_cons_of_mem _ hmem))
      have hall : ∀ c ∈ mid, (c != '?') = true := fun c hc => bne_iff_ne.2 (ne_of_mem_of_not_mem hc hmem)
      rw [Option.getD_some, ← List.cons_append, pointerDiff_append, osipStrncpy, List.take_left,
        List.cons_append, List.tail_cons, List.takeWhile_append_of_pos hall]
      simp

theorem hostPartParse_segments {url url' : Uri} {host : Str} (h : hostPartParse url host = .ok url') :
    url'.urlParams = storedParams (uriParamSegments host) ∧
      url'.urlHeaders = storedHeaders (uriHeaderSegments host) := by
  have hheaders : ((strchr host '?').map fun headers => uriParseHeaders host.length [] headers).getD [] =
      storedHeaders (uriHeaderSegments host) := by
    rw [uriHeaderSegments]
    cases hfound : strchr host '?' with
    | none => rfl
    | some headers =>
        obtain ⟨before, after, rfl, -, rfl⟩ := strchr_eq_some_iff.1 hfound
        have hlt : after.length < (before ++ '?' :: after).length := by
          rw [List.length_append, List.length_cons]
          omega
        exact uriParseHeaders_eq hlt (by decide) []
  unfold hostPartParse at h
  dsimp only at h
  rw [hheaders] at h
  split at h
  · cases h
  · next horder =>
      split at h
      · cases h
      · split at h
        · cases h
        · cases h
          refine ⟨?_, rfl⟩
          dsimp only
          rw [uriParamSegments]
          cases hfound : strchr host ';' with
          | none => rfl
          | some params =>
              rw [hfound, Option.getD_some] at horder
              have hbehind : ¬ params.length ≤ ((strchr host '?').getD []).length :=
                fun hle => horder ⟨rfl, hle⟩
              have hlt : (params.tail.takeWhile (· != '?')).length < host.length := by
                have htake := (List.takeWhile_sublist (· != '?') (l := params.tail)).length_le
                have hsuffix := strchr_length_le hfound
                rw [List.length_tail] at htake
                omega
              rw [Option.getD_some, osipStrncpy_params hfound hbehind]
              exact uriParseParams_eq hlt []

theorem osipUriParse_hostPart {buf : Str} {url : Uri} (h : osipUriParse buf = .ok url)
    (hsip : url.scheme.any isSipScheme = true) :
    ∃ url', hostPartParse url' (uriHostPart buf) = .ok url := by
  rw [uriHostPart]
  unfold osipUriParse at h
  split at h
  · cases h
  · split at h
    · cases h
    · next username husername =>
        dsimp only at h
        split at h
        · cases h
        · split at h
          · cases h
          · next halpha =>
              split at h
              · next hscheme =>
                  split at h
                  · cases h
                  · cases h
                    exact absurd hsip hscheme
              · split at h
                · next hat =>
                    rw [hat, husername]
                    exact ⟨_, h⟩
                · next host hat =>
                    rw [hat, Option.getD_some]
                    split at h
                    · next hempty =>
                        -- the '@' right behind the scheme is the first one
                        obtain ⟨scheme, rest, rfl, -, rfl⟩ := strchr_eq_some_iff.1 husername
                        rw [not_not, osipStrncpy, pointerDiff_append, List.take_left,
                          List.all_eq_true] at halpha
                        have hscheme : '@' ∉ scheme := fun hmem => absurd (halpha '@' hmem) (by decide)
                        rw [List.tail_cons] at hempty h
                        obtain ⟨rest, rfl⟩ := List.head?_eq_some_iff.1 hempty
                        rw [strchr_append hscheme, strchr, if_neg (by decide), strchr, if_pos rfl,
                          Option.some.injEq] at hat
                        rw [← hat]
                        exact ⟨_, h⟩
                    · split at h
                      · cases h
                      · exact ⟨_, h⟩

/-- An accepted URI keeps its segments exactly when none of them is malformed; the results of the
sub-parsers, which stop at a malformed one, are not looked at. -/
theorem segmentsKept_iff {buf : Str} {url : Uri} (h : osipUriParse buf = .ok url)
    (hsip : url.scheme.any isSipScheme = true) : SegmentsKept buf url ↔ SegmentsRead buf := by
  obtain ⟨url', hpart⟩ := osipUriParse_hostPart h hsip
  obtain ⟨hparams, hheaders⟩ := hostPartParse_segments hpart
  have hsome : ∀ {segments : List Str} {params : List GenericParam} {read : Str → Option GenericParam},
      segments.map read = params.map some → ∀ segment ∈ segments, (read segment).isSome = true := by
    intro segments params read hmap segment hmem
    have hread : read segment ∈ params.map some := hmap ▸ List.mem_map_of_mem hmem
    obtain ⟨param, -, hparam⟩ := List.mem_map.1 hread
    rw [← hparam, Option.isSome_some]
  unfold SegmentsKept SegmentsRead
  rw [hparams, hheaders]
  constructor
  · rintro ⟨hkept, hkept'⟩
    have hlength := congrArg List.length hkept'
    rw [List.length_map, List.length_map] at hlength
    exact ⟨hsome hkept, hsome hkept', value_of_length_storedHeaders hlength.symm⟩
  · rintro ⟨hread, hread', hvalue⟩
    exact ⟨storedParams_of_read hread, storedHeaders_of_read hread' hvalue⟩

theorem segmentsKept_transport :
    SegmentsKept "sips:alice@atlanta.example.com;transport=tcp;lr?subject=a%20b&priority=".toList
      { scheme := some "sips".toList
        username := some "alice".toList
        password := none
        host := some "atlanta.example.com".toList
        port := none
        urlParams :=
          [⟨"transport".toList, some "tcp".toList⟩, ⟨"lr".toList, none⟩]
        urlHeaders :=
          [⟨"subject".toList, some "a b".toList⟩, ⟨"priority".toList, some []⟩]
        string := none } :=
  (segmentsKept_iff (by decide) (by decide)).2 (by decide)

/-- The parameter behind the empty one is lost, and the URI is accepted. -/
theorem not_segmentsKept_maddr :
    ∃ url, osipUriParse "sip:h1.example.com;transport=tcp;;maddr=10.0.0.1".toList = .ok url ∧
      url.scheme.any isSipScheme = true ∧
      ¬ SegmentsKept "sip:h1.example.com;transport=tcp;;maddr=10.0.0.1".toList url := by
  refine ⟨⟨some "sip".toList, none, none, some "h1.example.com".toList, none,
    [⟨"transport".toList, some "tcp".toList⟩], [], none⟩, by decide, by decide, ?_⟩
  decide

end Exosip
