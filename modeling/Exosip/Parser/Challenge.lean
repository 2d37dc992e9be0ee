import Mathlib.Data.Bool.AllAny
import Exosip.Parser.Authenticate
import Exosip.Parser.UriSegments

/-! Whose value a field of a challenge is: the segments of the text between the commas outside
of quoted strings, and what each try of the parser takes. -/
namespace Exosip

open CString
open Machine

/-! ### Segments -/

/-- Behind a character: outside of quoted strings, or in one with the escape of the next. A
quote that is not closed opens none. -/
def advance : Option Bool → Char → Str → Option Bool
  | none, c, s => if c = '"' ∧ (findQuote false s).isSome = true then some false else none
  | some true, _, _ => some false
  | some false, c, _ => if c = '"' then none else some (decide (c = '\\'))

/-- One character more at the beginning of the first segment. -/
def consHead (c : Char) : List Str → List Str
  | [] => [[c]]
  | segment :: segments => (c :: segment) :: segments

/-- The text between the commas outside of quoted strings. -/
def segments : Option Bool → Str → List Str
  | _, [] => [[]]
  | inside, c :: s =>
      if inside = none ∧ c = ',' then [] :: segments none s
      else consHead c (segments (advance inside c s) s)

def outsideCommas : Option Bool → Str → List Str
  | _, [] => []
  | inside, c :: s =>
      if inside = none ∧ c = ',' then (c :: s) :: outsideCommas none s
      else outsideCommas (advance inside c s) s

def ownParam (segment : Str) : Option (Str × Str) :=
  (segmentValue segment).map fun value => (osipClrspace (segmentName segment), osipClrspace value)

def ownParams (text : Str) : List (Str × Str) := (segments none text).filterMap ownParam

theorem segments_ne_nil (inside : Option Bool) (s : Str) : segments inside s ≠ [] := by
  cases s with
  | nil => exact List.cons_ne_nil _ _
  | cons c s =>
      rw [segments]
      split_ifs
      · exact List.cons_ne_nil _ _
      · cases segments (advance inside c s) s with
        | nil => exact List.cons_ne_nil _ _
        | cons segment rest => exact List.cons_ne_nil _ _

theorem consHead_tail {c : Char} {list : List Str} (h : list ≠ []) :
    (consHead c list).tail = list.tail := by
  obtain ⟨segment, rest, rfl⟩ := List.exists_cons_of_ne_nil h
  rfl

theorem segments_plain {t : Str} (h : ∀ c ∈ t, c ≠ ',' ∧ c ≠ '"') (s : Str) :
    segments none (t ++ s) = t.foldr consHead (segments none s) := by
  induction t with
  | nil => rfl
  | cons c t ih =>
      rw [List.forall_mem_cons] at h
      rw [List.cons_append, segments, if_neg (fun hcomma => h.1.1 hcomma.2), advance,
        if_neg (fun hquote => h.1.2 hquote.1), ih h.2, List.foldr_cons]

theorem segments_quoted {escaped : Bool} {content : Str}
    (hopen : Quoted.Open '"' '\\' escaped content)
    (hafter : Quoted.escapedAfter '\\' escaped content = false) (s : Str) :
    segments (some escaped) (content ++ '"' :: s) =
      (content ++ ['"']).foldr consHead (segments none s) := by
  induction content generalizing escaped with
  | nil =>
      rw [Quoted.escapedAfter_nil] at hafter
      subst hafter
      rw [List.nil_append, segments, if_neg (fun h => Option.some_ne_none _ h.1), advance,
        if_pos rfl]
      rfl
  | cons c content ih =>
      rw [List.cons_append, segments, if_neg (fun h => Option.some_ne_none _ h.1), List.cons_append,
        List.foldr_cons]
      cases escaped with
      | true => rw [advance, ih hopen hafter]
      | false =>
          rw [Quoted.Open, Quoted.find] at hopen
          by_cases hquote : c = '"'
          · rw [if_pos hquote] at hopen
            cases hopen
          · rw [if_neg hquote] at hopen
            rw [advance, if_neg hquote, ih hopen hafter]

theorem foldr_consHead (t segment : Str) (rest : List Str) :
    t.foldr consHead (segment :: rest) = (t ++ segment) :: rest := by
  induction t with
  | nil => rfl
  | cons c t ih => rw [List.foldr_cons, ih, consHead, List.cons_append]

theorem length_of_mem_outsideCommas {inside : Option Bool} {s next : Str}
    (h : next ∈ outsideCommas inside s) : next.length ≤ s.length := by
  induction s generalizing inside with
  | nil => cases h
  | cons c s ih =>
      rw [outsideCommas] at h
      rw [List.length_cons]
      split_ifs at h
      · obtain rfl | h := List.mem_cons.1 h
        · exact le_refl _
        · exact (ih h).trans (Nat.le_succ _)
      · exact (ih h).trans (Nat.le_succ _)

theorem segments_of_mem_outsideCommas {inside : Option Bool} {s next : Str}
    (h : next ∈ outsideCommas inside s) :
    ∃ behind, next = ',' :: behind ∧ segments none behind <:+ (segments inside s).tail := by
  induction s generalizing inside with
  | nil => cases h
  | cons c s ih =>
      rw [outsideCommas] at h
      rw [segments]
      split_ifs at h with hcomma
      · rw [if_pos hcomma, List.tail_cons]
        obtain rfl | h := List.mem_cons.1 h
        · exact ⟨s, by rw [hcomma.2], List.suffix_refl _⟩
        · obtain ⟨behind, hnext, hsuffix⟩ := ih h
          exact ⟨behind, hnext, hsuffix.trans (List.tail_suffix _)⟩
      · rw [if_neg hcomma, consHead_tail (segments_ne_nil _ _)]
        exact ih h

theorem segments_of_first {inside : Option Bool} {segment behind : Str} (hnot : ',' ∉ segment)
    (h : ',' :: behind ∈ outsideCommas inside (segment ++ ',' :: behind)) :
    segments inside (segment ++ ',' :: behind) = segment :: segments none behind := by
  induction segment generalizing inside with
  | nil =>
      rw [List.nil_append, outsideCommas] at h
      rw [List.nil_append, segments]
      split_ifs at h with hcomma
      · rw [if_pos hcomma]
      · have hle := length_of_mem_outsideCommas h
        rw [List.length_cons] at hle
        omega
  | cons c segment ih =>
      rw [List.mem_cons, not_or] at hnot
      rw [List.cons_append, outsideCommas, if_neg (fun hcomma => hnot.1 hcomma.2.symm)] at h
      rw [List.cons_append, segments, if_neg (fun hcomma => hnot.1 hcomma.2.symm), ih hnot.2 h]
      rfl

theorem segments_of_notMem (inside : Option Bool) {segment : Str} (hnot : ',' ∉ segment) :
    segments inside segment = [segment] := by
  induction segment generalizing inside with
  | nil => rfl
  | cons c segment ih =>
      rw [List.mem_cons, not_or] at hnot
      rw [segments, if_neg (fun hcomma => hnot.1 hcomma.2.symm), ih _ hnot.2]
      rfl

theorem segments_head (inside : Option Bool) (s : Str) :
    ∃ segment more tail, segments inside s = segment :: more ∧ s = segment ++ tail ∧
      ∀ c ∈ tail.head?, c = ',' := by
  induction s generalizing inside with
  | nil => exact ⟨[], [], [], rfl, rfl, fun c hc => absurd hc (Option.not_mem_none c)⟩
  | cons c s ih =>
      rw [segments]
      split_ifs with hcomma
      · exact ⟨[], _, c :: s, rfl, rfl, fun d hd => (Option.some.inj hd).symm.trans hcomma.2⟩
      · obtain ⟨segment, more, tail, hsegments, hsplit, htail⟩ := ih (advance inside c s)
        refine ⟨c :: segment, more, tail, by rw [hsegments, consHead], ?_, htail⟩
        rw [List.cons_append, ← hsplit]

theorem segments_longer {inside : Option Bool} {segment behind : Str} (hnot : ',' ∉ segment)
    (h : ',' :: behind ∉ outsideCommas inside (segment ++ ',' :: behind)) :
    ∃ more rest, segments inside (segment ++ ',' :: behind) = (segment ++ ',' :: more) :: rest := by
  induction segment generalizing inside with
  | nil =>
      rw [List.nil_append, outsideCommas] at h
      rw [List.nil_append, segments]
      split_ifs at h with hcomma
      · exact absurd List.mem_cons_self h
      · rw [if_neg hcomma]
        obtain ⟨more, rest, hsegments⟩ :=
          List.exists_cons_of_ne_nil (segments_ne_nil (advance inside ',' behind) behind)
        exact ⟨more, rest, by rw [hsegments]; rfl⟩
  | cons c segment ih =>
      rw [List.mem_cons, not_or] at hnot
      rw [List.cons_append, outsideCommas, if_neg (fun hcomma => hnot.1 hcomma.2.symm)] at h
      obtain ⟨more, rest, hsegments⟩ := ih hnot.2 h
      refine ⟨more, rest, ?_⟩
      rw [List.cons_append, segments, if_neg (fun hcomma => hnot.1 hcomma.2.symm), hsegments]
      rfl

theorem ownParam_cons {c : Char} (h : isBlank c = true) (segment : Str) :
    ownParam (c :: segment) = ownParam segment := by
  have hequal : (c != '=') = true := by
    rw [bne_iff_ne]
    rintro rfl
    cases h
  have hvalue : segmentValue (c :: segment) = segmentValue segment := by
    rw [segmentValue, List.dropWhile_cons_of_pos (p := (· != '=')) hequal, segmentValue]
  have hname : osipClrspace (segmentName (c :: segment)) = osipClrspace (segmentName segment) := by
    rw [segmentName, List.takeWhile_cons_of_pos (p := (· != '=')) hequal, osipClrspace,
      List.dropWhile_cons_of_pos h]
    rfl
  rw [ownParam, ownParam, hvalue, hname]

theorem ownParams_dropWhile {p : Char → Bool} (hp : ∀ c, p c = true → c = ',' ∨ isBlank c = true)
    (s : Str) : ownParams (s.dropWhile p) = ownParams s := by
  induction s with
  | nil => rfl
  | cons c s ih =>
      by_cases hc : p c = true
      · rw [List.dropWhile_cons_of_pos hc, ih]
        unfold ownParams
        by_cases hcomma : c = ','
        · rw [segments, if_pos ⟨rfl, hcomma⟩, List.filterMap_cons]
          rfl
        · have hblank := (hp c hc).resolve_left hcomma
          have hquote : c ≠ '"' := by
            rintro rfl
            cases hblank
          obtain ⟨segment, rest, hsegments⟩ := List.exists_cons_of_ne_nil (segments_ne_nil none s)
          rw [segments, if_neg (fun h => hcomma h.2), advance, if_neg (fun h => hquote h.1),
            hsegments, consHead, List.filterMap_cons, List.filterMap_cons, ownParam_cons hblank]
      · rw [List.dropWhile_cons_of_neg hc]

/-! ### What a try takes -/

def beginnings (text : Str) : List Str :=
  (text :: (outsideCommas none text).map List.tail).map (List.dropWhile isFieldLead)

/-- The parser tries a field where `space` points. `__osip_quoted_string_set` takes a value that is
not empty from its name on: a segment begins there, the first quote stands behind the '=', and
behind the closing one is a comma or the end. `__osip_token_set` takes one where a name begins with
its own, of six characters at least: a segment begins there, it is this name, and the next comma is
not within quotes. -/
def ValueKind.TakesOwn (text : Str) (kind : ValueKind) (name space : Str) : Prop :=
  let str := space.dropWhile isFieldLead
  osipStrncasecmp name str name.length = true → ∀ beg ∈ strchr str '=',
    match kind with
    | .quotedString =>
        ((osipStrncpy str (pointerDiff beg str)).rdropWhile (· == ' ')).length = name.length →
          ∀ quote1 ∈ osipQuoteFind str, ∀ quote2 ∈ osipQuoteFind quote1.tail,
            pointerDiff quote2 quote1 ≠ 1 →
              str ∈ beginnings text ∧ beg.tail.dropWhile isBlank = quote1 ∧
                ∀ c ∈ (quote2.tail.dropWhile isBlank).head?, c = ','
    | .token =>
        6 ≤ space.length →
          str ∈ beginnings text ∧
            osipStrcasecmp (osipClrspace (osipStrncpy str (pointerDiff beg str))) name = true ∧
              ∀ comma ∈ strchr str ',', comma ∈ outsideCommas none str

instance (text : Str) (kind : ValueKind) (name space : Str) :
    Decidable (kind.TakesOwn text name space) :=
  match kind with
  | .quotedString =>
      have (next : Option Char) : Decidable (∀ c ∈ next, c = ',') := Option.decidableForallMem next
      inferInstanceAs (Decidable (_ → ∀ beg ∈ strchr _ '=', _ → ∀ quote1 ∈ osipQuoteFind _,
        ∀ quote2 ∈ osipQuoteFind _, _ → _ ∧ _ ∧ ∀ c ∈ List.head? _, c = ','))
  | .token =>
      inferInstanceAs (Decidable (_ → ∀ beg ∈ strchr _ '=', _ → _ ∧ _ ∧ ∀ comma ∈ strchr _ ',', _))

def firstParam (text : Str) : Option (Str × Str) := (segments none text).head?.bind ownParam

/-- A segment of the text begins where `space` points, behind the blanks, which has the name and
the value. -/
def OwnHere (text name space value : Str) : Prop :=
  let str := space.dropWhile isFieldLead
  str ∈ beginnings text ∧
    ∃ own, firstParam str = some (own, value) ∧ osipStrcasecmp own name = true

def OwnValue (params : List (Str × Str)) (name : Str) (result : Option Str) : Prop :=
  ∀ value ∈ result, ∃ param ∈ params, osipStrcasecmp param.1 name = true ∧ param.2 = value

theorem ownParams_lead (str : Str) : ownParams (str.dropWhile isFieldLead) = ownParams str := by
  refine ownParams_dropWhile (fun c hc => ?_) str
  rw [isFieldLead, Bool.or_eq_true, Bool.or_eq_true, beq_iff_eq, beq_iff_eq, beq_iff_eq] at hc
  obtain (rfl | rfl) | rfl := hc
  · exact Or.inr rfl
  · exact Or.inr rfl
  · exact Or.inl rfl

theorem ownParams_outsideCommas {text next : Str} (h : next ∈ outsideCommas none text) :
    ∀ param ∈ ownParams next.tail, param ∈ ownParams text := by
  obtain ⟨behind, rfl, hsuffix⟩ := segments_of_mem_outsideCommas h
  intro param hparam
  obtain ⟨segment, hmem, hsegment⟩ := List.mem_filterMap.1 hparam
  exact List.mem_filterMap.2 ⟨segment, (hsuffix.trans (List.tail_suffix _)).subset hmem, hsegment⟩

theorem ownParams_beginnings {text str : Str} (h : str ∈ beginnings text) :
    ∀ param ∈ ownParams str, param ∈ ownParams text := by
  obtain ⟨begin, hbegin, rfl⟩ := List.mem_map.1 h
  rw [ownParams_lead]
  obtain rfl | hbegin := List.mem_cons.1 hbegin
  · exact fun _ hmem => hmem
  · obtain ⟨next, hnext, rfl⟩ := List.mem_map.1 hbegin
    exact ownParams_outsideCommas hnext

theorem OwnHere.mem {text name space value : Str} (h : OwnHere text name space value) :
    ∃ param ∈ ownParams text, osipStrcasecmp param.1 name = true ∧ param.2 = value := by
  obtain ⟨hbegins, own, hfirst, hname⟩ := h
  obtain ⟨segment, hsegment, hparam⟩ := Option.bind_eq_some_iff.1 hfirst
  exact ⟨(own, value), ownParams_beginnings hbegins _ (List.mem_filterMap.2
    ⟨segment, List.mem_of_mem_head? hsegment, hparam⟩), hname, rfl⟩

/-- A name in small letters, without blanks, quotes and delimiters. -/
structure IsOwnName (name : Str) : Prop where
  small : name.map tolower = name
  plain : ∀ c ∈ name, isBlank c = false ∧ c ≠ ',' ∧ c ≠ '"' ∧ c ≠ '\\' ∧ c ≠ '='

theorem AuthField.isOwnName (field : AuthField) : IsOwnName field.name :=
  ⟨by cases field <;> rfl, List.all_iff_forall_prop.1 (by cases field <;> rfl)⟩

theorem IsOwnName.notMem {name t : Str} (hname : IsOwnName name) (h : osipStrcasecmp t name = true)
    {c : Char} (hc : tolower c = c) (hnot : c ∉ name) : c ∉ t := by
  intro hmem
  rw [osipStrcasecmp, beq_iff_eq, hname.small] at h
  exact hnot (h ▸ hc ▸ List.mem_map_of_mem hmem)

theorem IsOwnName.plain_of_casecmp {name t : Str} (hname : IsOwnName name)
    (h : osipStrcasecmp t name = true) :
    (∀ c ∈ t, isBlank c = false) ∧ ',' ∉ t ∧ '"' ∉ t ∧ '\\' ∉ t ∧ '=' ∉ t := by
  have hnot : ∀ {c : Char}, isBlank c = true → c ∉ name := fun hblank hmem => by
    rw [(hname.plain _ hmem).1] at hblank
    cases hblank
  refine ⟨fun c hc => ?_, ?_, ?_, ?_, ?_⟩
  · by_contra hblank
    rw [Bool.not_eq_false] at hblank
    have hsmall : tolower c = c := by
      simp only [isBlank, Bool.or_eq_true, beq_iff_eq] at hblank
      obtain ((rfl | rfl) | rfl) | rfl := hblank <;> rfl
    exact hname.notMem h hsmall (hnot hblank) hc
  · exact hname.notMem h rfl fun hmem => (hname.plain _ hmem).2.1 rfl
  · exact hname.notMem h rfl fun hmem => (hname.plain _ hmem).2.2.1 rfl
  · exact hname.notMem h rfl fun hmem => (hname.plain _ hmem).2.2.2.1 rfl
  · exact hname.notMem h rfl fun hmem => (hname.plain _ hmem).2.2.2.2 rfl

theorem firstParam_quoted {front content after : Str} (hfront : ∀ c ∈ front, c ≠ ',' ∧ c ≠ '"')
    (hopen : Quoted.Open '"' '\\' false content)
    (hescaped : Quoted.escapedAfter '\\' false content = false)
    (hafter : ∀ c ∈ (after.dropWhile isBlank).head?, c = ',') :
    firstParam (front ++ '"' :: (content ++ '"' :: after)) =
      ownParam (front ++ '"' :: (content ++ '"' :: after.takeWhile isBlank)) := by
  obtain ⟨more, hmore⟩ : ∃ more, segments none after = after.takeWhile isBlank :: more := by
    have hblanks : ∀ c ∈ after.takeWhile isBlank, c ≠ ',' ∧ c ≠ '"' := by
      intro c hc
      have hblank := List.mem_takeWhile_imp hc
      refine ⟨?_, ?_⟩ <;> rintro rfl <;> cases hblank
    have hsplit := segments_plain hblanks (after.dropWhile isBlank)
    rw [List.takeWhile_append_dropWhile] at hsplit
    rw [hsplit]
    cases hrest : after.dropWhile isBlank with
    | nil => exact ⟨[], by rw [segments, foldr_consHead, List.append_nil]⟩
    | cons c rest =>
        rw [hafter c (by rw [hrest]; rfl), segments, if_pos ⟨rfl, rfl⟩, foldr_consHead,
          List.append_nil]
        exact ⟨_, rfl⟩
  have hclosed : (findQuote false (content ++ '"' :: after)).isSome = true := by
    rw [findQuote, Quoted.find_eq_some_iff.2 ⟨content, after, rfl, rfl, hopen, hescaped⟩]
    rfl
  rw [firstParam, segments_plain hfront, segments, if_neg (fun h => absurd h.2 (by decide)),
    advance, if_pos ⟨rfl, hclosed⟩, segments_quoted hopen hescaped, hmore, foldr_consHead,
    consHead, foldr_consHead]
  simp

theorem osipClrspace_named {name pre : Str} (hname : IsOwnName name)
    (hlength : (pre.rdropWhile (· == ' ')).length = name.length)
    (hcase : osipStrncasecmp name pre name.length = true) :
    osipStrcasecmp (osipClrspace pre) name = true ∧ ∀ c ∈ pre, c ≠ ',' ∧ c ≠ '"' ∧ c ≠ '\\' := by
  have hsplit : pre.rdropWhile (· == ' ') ++ pre.rtakeWhile (· == ' ') = pre := by
    rw [List.rdropWhile, List.rtakeWhile, ← List.reverse_append, List.takeWhile_append_dropWhile,
      List.reverse_reverse]
  have hspaces : ∀ c ∈ pre.rtakeWhile (· == ' '), c = ' ' := fun c hc =>
    beq_iff_eq.1 (List.mem_rtakeWhile_imp (p := (· == ' ')) hc)
  have htake := List.prefix_iff_eq_take.1 (List.rdropWhile_prefix (· == ' ') pre)
  rw [hlength] at htake
  rw [osipStrncasecmp, List.take_length, ← htake] at hcase
  have hsame : osipStrcasecmp (pre.rdropWhile (· == ' ')) name = true := by
    rw [osipStrcasecmp, beq_iff_eq] at hcase ⊢
    exact hcase.symm
  obtain ⟨hblank, hcomma, hquote, hescape, -⟩ := hname.plain_of_casecmp hsame
  constructor
  · have htrim : osipClrspace pre = pre.rdropWhile (· == ' ') := by
      have hcut := osipClrspace_append_eq_iff (s := pre.rdropWhile (· == ' ')).2 fun c hc => by
        rw [hspaces c hc]
        rfl
      rw [hsplit, osipClrspace_of_no_blank hblank] at hcut
      exact hcut
    rw [htrim]
    exact hsame
  · intro c hc
    rw [← hsplit, List.mem_append] at hc
    obtain hc | hc := hc
    · exact ⟨ne_of_mem_of_not_mem hc hcomma, ne_of_mem_of_not_mem hc hquote,
        ne_of_mem_of_not_mem hc hescape⟩
    · rw [hspaces c hc]
      decide

theorem plain_append_blanks {pre blanks : Str} (hpre : ∀ c ∈ pre, c ≠ ',' ∧ c ≠ '"' ∧ c ≠ '\\')
    (hblanks : ∀ c ∈ blanks, isBlank c = true) :
    ∀ c ∈ pre ++ '=' :: blanks, c ≠ ',' ∧ c ≠ '"' ∧ c ≠ '\\' := by
  intro c hc
  rw [List.mem_append, List.mem_cons] at hc
  obtain hc | rfl | hc := hc
  · exact hpre c hc
  · decide
  · have hblank := hblanks c hc
    refine ⟨?_, ?_, ?_⟩ <;> rintro rfl <;> cases hblank

theorem ownParam_quoted {pre blanks : Str} (hpre : '=' ∉ pre)
    (hblanks : ∀ c ∈ blanks, isBlank c = true) {content after : Str}
    (hafter : ∀ c ∈ after, isBlank c = true) :
    ownParam (pre ++ '=' :: (blanks ++ '"' :: (content ++ '"' :: after))) =
      some (osipClrspace pre, '"' :: (content ++ ['"'])) := by
  have htrim : osipClrspace ('"' :: (content ++ ['"'])) = '"' :: (content ++ ['"']) := by
    simp [osipClrspace, isBlank]
  have hsplit : '"' :: (content ++ '"' :: after) = '"' :: (content ++ ['"']) ++ after := by simp
  rw [ownParam, segmentValue_append_equal hpre, segmentName_append hpre, Option.map_some,
    osipClrspace_append_left hblanks, hsplit, osipClrspace_append_eq_iff.2 hafter, htrim]

theorem osipQuoteFind_named {pre blanks : Str} (hpre : ∀ c ∈ pre, c ≠ ',' ∧ c ≠ '"' ∧ c ≠ '\\')
    (hblanks : ∀ c ∈ blanks, isBlank c = true) (rest : Str) :
    osipQuoteFind (pre ++ '=' :: (blanks ++ '"' :: rest)) = some ('"' :: rest) := by
  have hfront := plain_append_blanks hpre hblanks
  rw [osipQuoteFind_eq]
  refine Quoted.find_eq_some_iff.2 ⟨pre ++ '=' :: blanks, rest, by simp, rfl, ?_, ?_⟩
  · exact Quoted.open_of_notMem (fun hmem => (hfront _ hmem).2.1 rfl) false
  · exact Quoted.escapedAfter_of_notMem fun hmem => (hfront _ hmem).2.2 rfl

theorem firstParam_named {pre value : Str} (hpre : '=' ∉ pre)
    (hplain : ∀ c ∈ pre, c ≠ ',' ∧ c ≠ '"' ∧ c ≠ '\\') :
    ∃ segment tail, value = segment ++ tail ∧ (∀ c ∈ tail.head?, c = ',') ∧
      firstParam (pre ++ '=' :: value) = some (osipClrspace pre, osipClrspace segment) := by
  have hequal : ∀ c ∈ pre ++ ['='], c ≠ ',' ∧ c ≠ '"' := fun c hc =>
    have h := plain_append_blanks hplain (List.forall_mem_nil _) c hc
    ⟨h.1, h.2.1⟩
  obtain ⟨segment, more, tail, hsegments, hvalue, htail⟩ := segments_head none value
  refine ⟨segment, tail, hvalue, htail, ?_⟩
  rw [firstParam, List.append_cons, segments_plain hequal, hsegments, foldr_consHead,
    List.head?_cons, Option.bind_some, List.append_assoc, List.singleton_append, ownParam,
    segmentValue_append_equal hpre, segmentName_append hpre, Option.map_some]

theorem firstParam_quoted_iff {pre value quote1 quote2 : Str} (hpre : '=' ∉ pre)
    (hplain : ∀ c ∈ pre, c ≠ ',' ∧ c ≠ '"' ∧ c ≠ '\\')
    (hquote1 : osipQuoteFind (pre ++ '=' :: value) = some quote1)
    (hquote2 : osipQuoteFind quote1.tail = some quote2) :
    firstParam (pre ++ '=' :: value) = some
        (osipClrspace pre, osipStrncpy quote1 (pointerDiff quote2 quote1 + 1)) ↔
      value.dropWhile isBlank = quote1 ∧ ∀ c ∈ (quote2.tail.dropWhile isBlank).head?, c = ',' := by
  have hfound := hquote1
  rw [osipQuoteFind_eq] at hquote1 hquote2
  obtain ⟨-, rest, -, rfl, -⟩ := Quoted.find_eq_some_iff.1 hquote1
  rw [List.tail_cons] at hquote2
  obtain ⟨content, after, rfl, rfl, hopen, hescaped⟩ := Quoted.find_eq_some_iff.1 hquote2
  have hcopied : osipStrncpy ('"' :: (content ++ '"' :: after))
      (pointerDiff ('"' :: after) ('"' :: (content ++ '"' :: after)) + 1) =
        '"' :: (content ++ ['"']) := by
    have hsplit : '"' :: (content ++ '"' :: after) = '"' :: (content ++ ['"']) ++ after := by simp
    rw [pointerDiff_cons, osipStrncpy, hsplit, List.take_left' (by simp)]
  rw [hcopied, List.tail_cons]
  constructor
  · intro hfirst
    obtain ⟨segment, tail, hvalue, htail, hhead⟩ := @firstParam_named pre value hpre hplain
    rw [hhead, Option.some.injEq, Prod.mk.injEq] at hfirst
    obtain ⟨front, back, hsegment, hfront, hback⟩ := osipClrspace_split segment
    rw [hfirst.2] at hsegment
    have hwhole : value = front ++ '"' :: (content ++ '"' :: (back ++ tail)) := by
      rw [hvalue, hsegment]
      simp
    rw [hwhole, osipQuoteFind_named hplain hfront] at hfound
    have hrest := (List.cons.inj (Option.some.inj hfound)).2
    have hafter := (List.cons.inj (List.append_cancel_left hrest)).2
    rw [hwhole, ← hafter]
    refine ⟨?_, ?_⟩
    · rw [List.dropWhile_append_of_pos hfront, List.dropWhile_cons_of_neg (by decide)]
    · rw [List.dropWhile_append_of_pos hback]
      cases tail with
      | nil => exact fun c hc => absurd hc (Option.not_mem_none c)
      | cons c tail =>
          rw [htail c rfl, List.dropWhile_cons_of_neg (by decide)]
          exact fun c hc => (Option.some.inj hc).symm
  · rintro ⟨hbehind, hafter⟩
    have hblanks : ∀ c ∈ value.takeWhile isBlank, isBlank c = true := fun c hc =>
      List.mem_takeWhile_imp hc
    have hvalue := value.takeWhile_append_dropWhile (p := isBlank)
    rw [hbehind] at hvalue
    have hfront := plain_append_blanks hplain hblanks
    have hparam := @ownParam_quoted pre _ hpre hblanks content (after.takeWhile isBlank)
      fun c hc => List.mem_takeWhile_imp hc
    have hsplit (s : Str) :
        pre ++ '=' :: (value.takeWhile isBlank ++ '"' :: (content ++ '"' :: s)) =
          (pre ++ '=' :: value.takeWhile isBlank) ++ '"' :: (content ++ '"' :: s) := by
      simp
    rw [← hvalue, hsplit, firstParam_quoted (fun c hc => ⟨(hfront c hc).1, (hfront c hc).2.1⟩)
      hopen hescaped hafter, ← hsplit, hparam]

theorem osipQuotedStringSet_own {text name space : Str} {result next : Option Str}
    (hname : IsOwnName name) (h : osipQuotedStringSet name space none = .ok (result, next)) :
    (∀ value ∈ result, OwnHere text name space value) ↔
      ValueKind.quotedString.TakesOwn text name space := by
  unfold ValueKind.TakesOwn OwnHere
  unfold osipQuotedStringSet at h
  dsimp only at h ⊢
  generalize space.dropWhile isFieldLead = str at h ⊢
  rw [if_neg (by decide)] at h
  split_ifs at h with hcase
  · cases hequal : strchr str '=' with
    | none =>
        rw [hequal] at h
        cases h
    | some beg =>
        obtain ⟨pre, value, rfl, hpre, rfl⟩ := strchr_eq_some_iff.1 hequal
        have hall : ∀ (found : Str) (P : Str → Prop), (∀ s ∈ some found, P s) ↔ P found := by simp
        rw [hequal] at h
        dsimp only at h
        rw [forall_prop_of_true hcase, hall]
        rw [pointerDiff_append, osipStrncpy, List.take_left] at h ⊢
        split_ifs at h with hlength
        · cases h
          exact iff_of_true (fun value hvalue => absurd hvalue (Option.not_mem_none value)) fun h =>
            absurd h hlength
        · have hlength := not_not.1 hlength
          have hle : name.length ≤ pre.length := by
            rw [← hlength]
            exact (List.rdropWhile_prefix _ pre).length_le
          rw [osipStrncasecmp, List.take_append_of_le_length hle, ← osipStrncasecmp] at hcase
          obtain ⟨hnamed, hplain⟩ := osipClrspace_named hname hlength hcase
          rw [forall_prop_of_true hlength]
          cases hquote1 : osipQuoteFind (pre ++ '=' :: value) with
          | none =>
              rw [hquote1] at h
              cases h
          | some quote1 =>
              rw [hquote1] at h
              dsimp only at h
              cases hquote2 : osipQuoteFind quote1.tail with
              | none =>
                  rw [hquote2] at h
                  cases h
              | some quote2 =>
                  rw [hquote2] at h
                  dsimp only at h
                  have hfirst := firstParam_quoted_iff hpre hplain hquote1 hquote2
                  rw [hall, hquote2, hall, List.tail_cons]
                  split_ifs at h with hempty
                  · cases h
                    exact iff_of_true (fun value hvalue =>
                      absurd hvalue (Option.not_mem_none value)) fun h => absurd hempty h
                  · cases h
                    rw [hall, forall_prop_of_true hempty, ← hfirst]
                    refine and_congr_right fun _ => ⟨?_, fun h => ⟨_, h, hnamed⟩⟩
                    rintro ⟨own, hown, -⟩
                    obtain ⟨segment, -, -, -, hhead⟩ := @firstParam_named pre value hpre hplain
                    rw [hhead, Option.some.injEq, Prod.mk.injEq] at hown
                    rw [hhead, hown.2]
  · cases h
    exact iff_of_true (fun value hvalue => absurd hvalue (Option.not_mem_none value))
      fun h => absurd h hcase

theorem strchr_lead {c : Char} (hc : isFieldLead c = false) (str : Str) :
    strchr (str.dropWhile isFieldLead) c = strchr str c := by
  have hlead : c ∉ str.takeWhile isFieldLead := fun hmem => by
    rw [List.mem_takeWhile_imp hmem] at hc
    cases hc
  conv_rhs => rw [← str.takeWhile_append_dropWhile (p := isFieldLead), strchr_append hlead]

theorem firstParam_token_iff {str beg own : Str} (hbeg : strchr str '=' = some beg)
    (hvalue : ¬ pointerDiff ((strchr str ',').getD []) beg < 2) :
    firstParam str = some
        (own, osipClrncpy beg.tail (pointerDiff ((strchr str ',').getD []) beg - 1)) ↔
      osipClrspace (osipStrncpy str (pointerDiff beg str)) = own ∧
        ∀ comma ∈ strchr str ',', comma ∈ outsideCommas none str := by
  have hparam {pre value : Str} (hpre : '=' ∉ pre) :
      ownParam (pre ++ '=' :: value) = some (osipClrspace pre, osipClrspace value) := by
    rw [ownParam, segmentValue_append_equal hpre, segmentName_append hpre, Option.map_some]
  cases hfound : strchr str ',' with
  | none =>
      obtain ⟨pre, value, rfl, hpre, rfl⟩ := strchr_eq_some_iff.1 hbeg
      have hwhole := @pointerDiff_cons '=' value []
      rw [List.append_nil] at hwhole
      rw [firstParam, segments_of_notMem none (strchr_eq_none_iff.1 hfound), List.head?_cons,
        Option.bind_some, hparam hpre, Option.getD_none, hwhole, List.tail_cons, Nat.add_sub_cancel,
        osipClrncpy, List.take_length, pointerDiff_append, osipStrncpy, List.take_left]
      simp
  | some comma =>
      obtain ⟨segment, behind, rfl, hsegment, rfl⟩ := strchr_eq_some_iff.1 hfound
      rw [hfound, Option.getD_some] at hvalue
      have hall : ∀ P : Str → Prop, (∀ s ∈ some (',' :: behind), P s) ↔ P (',' :: behind) := by simp
      by_cases hequal : '=' ∈ segment
      · obtain ⟨pre, value, rfl, hpre⟩ := List.eq_append_cons_of_mem hequal
        have hbegins : strchr (pre ++ '=' :: value ++ ',' :: behind) '=' =
            some ('=' :: (value ++ ',' :: behind)) := by
          rw [List.append_assoc, strchr_append hpre, List.cons_append, strchr, if_pos rfl]
        rw [hbegins] at hbeg
        cases hbeg
        rw [hall, Option.getD_some, pointerDiff_cons, List.tail_cons, Nat.add_sub_cancel,
          osipClrncpy, List.take_left]
        have hname : osipStrncpy (pre ++ '=' :: value ++ ',' :: behind)
            (pointerDiff ('=' :: (value ++ ',' :: behind)) (pre ++ '=' :: value ++ ',' :: behind)) =
              pre := by
          rw [List.append_assoc, List.cons_append, pointerDiff_append, osipStrncpy, List.take_left]
        rw [hname]
        by_cases hmem : ',' :: behind ∈ outsideCommas none (pre ++ '=' :: value ++ ',' :: behind)
        · rw [firstParam, segments_of_first hsegment hmem, List.head?_cons, Option.bind_some,
            hparam hpre, and_iff_left hmem]
          simp
        · obtain ⟨more, rest, hsegments⟩ := segments_longer hsegment hmem
          refine iff_of_false (fun hfirst => ?_) fun h => hmem h.2
          rw [firstParam, hsegments, List.head?_cons, Option.bind_some, List.append_assoc,
            List.cons_append, hparam hpre, Option.some.injEq, Prod.mk.injEq] at hfirst
          -- the comma within quotes belongs to the value
          have hblank := osipClrspace_append_eq_iff.1 hfirst.2 ',' List.mem_cons_self
          cases hblank
      · rw [strchr_append hequal, strchr, if_neg (by decide)] at hbeg
        have hle := strchr_length_le hbeg
        rw [pointerDiff, List.length_cons] at hvalue
        omega

theorem osipTokenSet_own {text name space : Str} {result next : Option Str}
    (h : osipTokenSet name space none = .ok (result, next)) :
    (∀ value ∈ result, OwnHere text name space value) ↔
      ValueKind.token.TakesOwn text name space := by
  have hall : ∀ (found : Str) (P : Str → Prop), (∀ s ∈ some found, P s) ↔ P found := by simp
  unfold ValueKind.TakesOwn OwnHere
  unfold osipTokenSet at h
  rw [← strchr_lead rfl] at h
  dsimp only at h ⊢
  rw [if_neg (by decide)] at h
  split at h
  · cases h
  · next beg hbeg =>
      split_ifs at h with hshort hcase hvalue
      · cases h
        refine iff_of_true (fun value hvalue => absurd hvalue (Option.not_mem_none value))
          fun _ _ _ hlength => ?_
        omega
      · rw [forall_prop_of_true hcase, hbeg, hall, forall_prop_of_true (not_lt.1 hshort)]
        generalize space.dropWhile isFieldLead = str at hbeg hvalue h
        cases h
        rw [hall]
        refine and_congr_right fun _ => ?_
        simp only [firstParam_token_iff hbeg hvalue]
        constructor
        · rintro ⟨own, ⟨rfl, hcomma⟩, hnamed⟩
          exact ⟨hnamed, hcomma⟩
        · rintro ⟨hnamed, hcomma⟩
          exact ⟨_, ⟨rfl, hcomma⟩, hnamed⟩
      · cases h
        exact iff_of_true (fun value hvalue => absurd hvalue (Option.not_mem_none value))
          fun h => absurd h hcase

/-! ### Every try of the loop -/

/-- What holds of every try of a field that is not set: of the position and of the result. -/
abbrev TryProp := AuthField → ValueKind → Str → Option Str → Prop

def EveryTry (P : TryProp) : AuthTable → AuthValues → Str → Prop
  | [], _, _ => True
  | (field, kind) :: table, values, space =>
      match kind.set field.name space (values field) with
      | .error _ => True
      | .ok (result, next) =>
          (values field = none → P field kind space result) ∧
            ∀ reached ∈ next, EveryTry P table (Function.update values field result) reached

def EveryPass (P : TryProp) (table : AuthTable) : Nat → AuthValues → Str → Prop
  | 0, _, _ => True
  | fuel + 1, values, space =>
      EveryTry P table values space ∧
        match authPass table values space with
        | .ok (values, some space) => EveryPass P table fuel values space
        | _ => True

section Decidable

variable (P : TryProp) [∀ field kind space result, Decidable (P field kind space result)]

instance decidableEveryTry : ∀ table values space, Decidable (EveryTry P table values space)
  | [], _, _ => isTrue trivial
  | (field, kind) :: table, values, space =>
      match h : kind.set field.name space (values field) with
      | .error _ => isTrue (by rw [EveryTry, h]; trivial)
      | .ok (result, next) =>
          have := decidableEveryTry table (Function.update values field result)
          decidable_of_iff ((values field = none → P field kind space result) ∧
            ∀ reached ∈ next, EveryTry P table (Function.update values field result) reached)
            (by rw [EveryTry, h])

instance decidableEveryPass (table : AuthTable) :
    ∀ fuel values space, Decidable (EveryPass P table fuel values space)
  | 0, _, _ => isTrue trivial
  | fuel + 1, values, space =>
      match h : authPass table values space with
      | .ok (reached, some next) =>
          have := decidableEveryPass table fuel reached next
          decidable_of_iff (EveryTry P table values space ∧ EveryPass P table fuel reached next)
            (by rw [EveryPass, h])
      | .ok (_, none) =>
          decidable_of_iff (EveryTry P table values space) (by rw [EveryPass, h, and_true])
      | .error _ =>
          decidable_of_iff (EveryTry P table values space) (by rw [EveryPass, h, and_true])

end Decidable

/-- What a try sets is the value of the segment where it stands, which has its name. -/
def Attributes (text : Str) : TryProp := fun field _ space result =>
  ∀ value ∈ result, OwnHere text field.name space value

/-- The text is such that a try sets nothing else. -/
def Keeps (text : Str) : TryProp := fun field kind space _ => kind.TakesOwn text field.name space

instance (text space : Str) (field : AuthField) (kind : ValueKind) (result : Option Str) :
    Decidable (Keeps text field kind space result) :=
  inferInstanceAs (Decidable (kind.TakesOwn text field.name space))

section Run

variable {text space : Str} {P Q : TryProp} {table : AuthTable} {values values' : AuthValues}

theorem ValueKind.set_of_some (kind : ValueKind) (name space value : Str) :
    kind.set name space (some value) = .ok (some value, some space) := by
  cases kind <;> rfl

theorem attributes_iff {field : AuthField} {kind : ValueKind} {result next : Option Str}
    (h : kind.set field.name space none = .ok (result, next)) :
    Attributes text field kind space result ↔ Keeps text field kind space result := by
  cases kind with
  | quotedString => exact osipQuotedStringSet_own field.isOwnName h
  | token => exact osipTokenSet_own h

theorem everyTry_congr
    (h : ∀ field kind space result next,
      ValueKind.set kind field.name space none = .ok (result, next) →
      (P field kind space result ↔ Q field kind space result)) :
    EveryTry P table values space ↔ EveryTry Q table values space := by
  induction table generalizing values space with
  | nil => exact Iff.rfl
  | cons entry table ih =>
      obtain ⟨field, kind⟩ := entry
      rw [EveryTry, EveryTry]
      cases hset : kind.set field.name space (values field) with
      | error i => exact Iff.rfl
      | ok reached =>
          obtain ⟨result, next⟩ := reached
          refine and_congr ⟨fun hp hnone => ?_, fun hq hnone => ?_⟩ ?_
          · rw [hnone] at hset
            exact (h field kind space result next hset).1 (hp hnone)
          · rw [hnone] at hset
            exact (h field kind space result next hset).2 (hq hnone)
          · exact forall₂_congr fun reached _ => ih

theorem everyPass_congr
    (h : ∀ field kind space result next,
      ValueKind.set kind field.name space none = .ok (result, next) →
      (P field kind space result ↔ Q field kind space result)) {fuel : Nat} :
    EveryPass P table fuel values space ↔ EveryPass Q table fuel values space := by
  induction fuel generalizing values space with
  | zero => exact Iff.rfl
  | succ fuel ih =>
      rw [EveryPass, EveryPass, everyTry_congr h]
      refine and_congr_right fun _ => ?_
      cases authPass table values space with
      | error i => exact Iff.rfl
      | ok reached =>
          obtain ⟨parsed, next⟩ := reached
          cases next with
          | none => exact Iff.rfl
          | some next => exact ih

def OwnValues (text : Str) (values : AuthValues) : Prop :=
  ∀ field : AuthField, OwnValue (ownParams text) field.name (values field)

theorem parseFields_own {parseOk : Nat} {next : Option (Str × Nat)}
    (hown : EveryTry (Attributes text) table values space) (hvalues : OwnValues text values)
    (h : parseFields table values space parseOk = .ok (values', next)) :
    OwnValues text values' := by
  induction table generalizing values space parseOk with
  | nil =>
      cases h
      exact hvalues
  | cons entry table ih =>
      obtain ⟨field, kind⟩ := entry
      rw [parseFields, exists_ok_bind] at h
      obtain ⟨⟨result, reached⟩, hset, h⟩ := h
      rw [EveryTry, hset] at hown
      obtain ⟨htry, hrest⟩ := hown
      have hresult : OwnValue (ownParams text) field.name result := by
        cases hvalue : values field with
        | none => exact fun value hset => (htry hvalue value hset).mem
        | some value =>
            rw [hvalue, ValueKind.set_of_some] at hset
            cases hset
            exact hvalue ▸ hvalues field
      have hupdate : OwnValues text (Function.update values field result) := by
        intro other
        by_cases hother : other = field
        · rw [hother, Function.update_self]
          exact hresult
        · rw [Function.update_of_ne hother]
          exact hvalues other
      cases reached with
      | none =>
          cases h
          exact hupdate
      | some reached =>
          have hrest := hrest reached rfl
          dsimp only at h
          split_ifs at h with hsame
          · subst hsame
            exact ih hrest hupdate h
          · exact ih hrest hupdate h

theorem authPass_own {next : Option Str} (hown : EveryTry (Attributes text) table values space)
    (hvalues : OwnValues text values) (h : authPass table values space = .ok (values', next)) :
    OwnValues text values' := by
  rw [authPass, exists_ok_bind] at h
  obtain ⟨⟨tried, behind⟩, hparse, h⟩ := h
  have htried := parseFields_own hown hvalues hparse
  cases behind with
  | none =>
      cases h
      exact htried
  | some behind =>
      obtain ⟨reached, parseOk⟩ := behind
      dsimp only at h
      split_ifs at h
      · rw [exists_ok_bind] at h
        obtain ⟨bypassed, -, h⟩ := h
        cases h
        exact htried
      · cases h
        exact htried

theorem authLoop_own {fuel : Nat} (hown : EveryPass (Attributes text) table fuel values space)
    (hvalues : OwnValues text values)
    (h : authLoop table fuel values space = some (.ok values')) : OwnValues text values' := by
  induction fuel generalizing values space with
  | zero => cases h
  | succ fuel ih =>
      obtain ⟨htries, hrest⟩ := hown
      rw [authLoop] at h
      cases hpass : authPass table values space with
      | error i =>
          rw [hpass] at h
          cases h
      | ok reached =>
          obtain ⟨parsed, next⟩ := reached
          have hparsed := authPass_own htries hvalues hpass
          rw [hpass] at h hrest
          cases next with
          | none =>
              cases h
              exact hparsed
          | some next => exact ih hrest hparsed h

end Run

/-! ### The challenge -/

def WwwAuthenticate.values (www : WwwAuthenticate) : AuthValues
  | .realm => www.realm
  | .domain => www.domain
  | .nonce => www.nonce
  | .opaqueValue => www.opaqueValue
  | .stale => www.stale
  | .algorithm => www.algorithm
  | .qop => www.qopOptions
  | .version => www.version
  | .targetname => www.targetname
  | .gssapiData => www.gssapiData
  | _ => none

def challengeFields : List AuthField :=
  [.realm, .domain, .nonce, .opaqueValue, .stale, .algorithm, .qop]

/-- Every field that is set is the value of a parameter of the text that has its name. -/
def Attributed (hvalue : Str) (www : WwwAuthenticate) : Prop :=
  ∀ field ∈ challengeFields,
    OwnValue (ownParams ((strchr hvalue ' ').getD [])) field.name (www.values field)

def EveryTryOf (hvalue : Str) (P : Str → TryProp) : Prop :=
  ∀ space ∈ strchr hvalue ' ',
    EveryPass (P space) wwwAuthenticateTable (hvalue.length + 1) (fun _ => none) space

/-- Whenever a field is set it gets the value of the segment where its name stands. -/
def RunAttributed (hvalue : Str) : Prop := EveryTryOf hvalue Attributes

/-- At every try the challenge has a value of its own where one is taken. -/
def TakesOwn (hvalue : Str) : Prop := EveryTryOf hvalue Keeps

instance (hvalue : Str) : Decidable (TakesOwn hvalue) :=
  inferInstanceAs (Decidable (∀ space ∈ strchr hvalue ' ', EveryPass (Keeps space) _ _ _ space))

theorem RunAttributed.attributed {hvalue : Str} {www : WwwAuthenticate}
    (hrun : RunAttributed hvalue)
    (h : osipWwwAuthenticateParse hvalue = .ok www) : Attributed hvalue www := by
  rw [osipWwwAuthenticateParse, exists_ok_bind] at h
  obtain ⟨⟨authType, values⟩, hfields, h⟩ := h
  unfold authFields authParse at hfields
  cases hspace : strchr hvalue ' ' with
  | none =>
      rw [hspace] at hfields
      cases hfields
  | some space =>
      have hrun := hrun space hspace
      rw [hspace] at hfields
      dsimp only at hfields
      split_ifs at hfields with htype
      · cases hfields
      · cases hloop : authLoop wwwAuthenticateTable (hvalue.length + 1) (fun _ => none) space with
        | none =>
            rw [hloop] at hfields
            cases hfields
        | some result =>
            cases result with
            | error i =>
                rw [hloop] at hfields
                cases hfields
            | ok parsed =>
                rw [hloop] at hfields
                cases hfields
                have hvalues := authLoop_own hrun
                  (fun _ value hnone => absurd hnone (Option.not_mem_none value)) hloop
                cases h
                intro field hfield
                rw [hspace, Option.getD_some]
                have hsame := hvalues field
                simp only [challengeFields, List.mem_cons, List.not_mem_nil, or_false] at hfield
                obtain rfl | rfl | rfl | rfl | rfl | rfl | rfl := hfield <;> exact hsame

/-- In an accepted challenge every field is set from the segment where its name stands just when
the text has such a value at every try, and then every field of the result is its own. -/
theorem challengeAttributed_iff {hvalue : Str} {www : WwwAuthenticate}
    (h : osipWwwAuthenticateParse hvalue = .ok www) :
    (RunAttributed hvalue ↔ TakesOwn hvalue) ∧ (TakesOwn hvalue → Attributed hvalue www) := by
  have hiff : RunAttributed hvalue ↔ TakesOwn hvalue :=
    forall₂_congr fun space _ => everyPass_congr fun _ _ _ _ _ hset => attributes_iff hset
  exact ⟨hiff, fun htakes => (hiff.2 htakes).attributed h⟩

/-- A parameter that the parser does not know, and a comma within the realm. -/
def quotedChallenge : Str :=
  "Digest realm=\"a,b\", x=y, nonce=\"n\"".toList

theorem attributed_quoted :
    ∃ www, osipWwwAuthenticateParse quotedChallenge = .ok www ∧
      (RunAttributed quotedChallenge ↔ TakesOwn quotedChallenge) ∧
      www.realm = some "\"a,b\"".toList ∧ www.nonce = some "\"n\"".toList ∧
      Attributed quotedChallenge www := by
  refine ⟨_, rfl, (challengeAttributed_iff rfl).1, rfl, rfl, ?_⟩
  exact (challengeAttributed_iff rfl).2 (by decide +kernel)

/-- The realm is not quoted, and becomes the value of the nonce behind it. -/
theorem not_attributed_unquoted :
    ¬ ∀ hvalue www, osipWwwAuthenticateParse hvalue = .ok www → Attributed hvalue www := by
  intro h
  obtain ⟨www, hparse, hrealm⟩ : ∃ www,
      osipWwwAuthenticateParse "Digest realm=abc, nonce=\"b\"".toList = .ok www ∧
        www.realm = some "\"b\"".toList := ⟨_, rfl, rfl⟩
  obtain ⟨param, hparam, hname, hvalue⟩ := h _ www hparse .realm (by decide) _ hrealm
  have hparams : ownParams ((strchr "Digest realm=abc, nonce=\"b\"".toList ' ').getD []) =
      [("realm".toList, "abc".toList), ("nonce".toList, "\"b\"".toList)] := by
    rfl
  rw [hparams, List.mem_cons, List.mem_singleton] at hparam
  obtain rfl | rfl := hparam
  · exact absurd hvalue (by decide)
  · exact absurd hname (by decide)

end Exosip
