import Mathlib.Data.Bool.AllAny
import Exosip.Parser.Authenticate
import Exosip.Parser.UriParts

/-! `osip_authorization_to_str` and back: one pass of the parser reads the printed fields, which
stand in the order of its table. -/
namespace Exosip

open CString
open Machine

/-! ### What is printed -/

/-- `" name="`. -/
def AuthField.label : AuthField → String
  | .username => " username="
  | .realm => " realm="
  | .domain => " domain="
  | .nonce => " nonce="
  | .uri => " uri="
  | .response => " response="
  | .digest => " digest="
  | .algorithm => " algorithm="
  | .cnonce => " cnonce="
  | .opaqueValue => " opaque="
  | .stale => " stale="
  | .qop => " qop="
  | .nc => " nc="
  | .version => " version="
  | .targetname => " targetname="
  | .gssapiData => " gssapi-data="
  | .crand => " crand="
  | .cnum => " cnum="

def AuthorizationHeader.values (auth : AuthorizationHeader) : AuthValues
  | .username => auth.username
  | .realm => auth.realm
  | .nonce => auth.nonce
  | .uri => auth.uri
  | .response => auth.response
  | .digest => auth.digest
  | .algorithm => auth.algorithm
  | .cnonce => auth.cnonce
  | .opaqueValue => auth.opaqueValue
  | .qop => auth.messageQop
  | .nc => auth.nonceCount
  | .version => auth.version
  | .targetname => auth.targetname
  | .gssapiData => auth.gssapiData
  | .crand => auth.crand
  | .cnum => auth.cnum
  | .domain => none
  | .stale => none

def afterValue (rest : Str) : Str := if rest = [] then [] else ',' :: ' ' :: rest

def printFields (values : AuthValues) : AuthTable → Str
  | [] => []
  | (field, _) :: table =>
      match values field with
      | none => printFields values table
      | some value => field.name ++ '=' :: (value ++ afterValue (printFields values table))

theorem AuthField.label_toList (field : AuthField) :
    field.label.toList = ' ' :: (field.name ++ ['=']) := by
  cases field <;> rfl

theorem AuthField.name_ne_nil (field : AuthField) : field.name ≠ [] := by
  cases field <;> exact List.cons_ne_nil _ _

theorem printFields_eq_nil_iff {values : AuthValues} {table : AuthTable} :
    printFields values table = [] ↔ ∀ entry ∈ table, values entry.1 = none := by
  induction table with
  | nil => simp [printFields]
  | cons entry table ih =>
      obtain ⟨field, kind⟩ := entry
      rw [printFields, List.forall_mem_cons]
      cases values field with
      | none => simp [ih]
      | some value => simp [AuthField.name_ne_nil]

theorem intercalate_labelled (values : AuthValues) (table : AuthTable) :
    List.intercalate [','] (labelled (table.map fun entry => (entry.1.label, values entry.1))) =
      if printFields values table = [] then [] else ' ' :: printFields values table := by
  induction table with
  | nil => rfl
  | cons entry table ih =>
      obtain ⟨field, kind⟩ := entry
      have hnil : labelled (table.map fun entry => (entry.1.label, values entry.1)) = [] ↔
          printFields values table = [] := by
        rw [labelled, List.filterMap_eq_nil_iff, printFields_eq_nil_iff]
        simp only [List.forall_mem_map, Option.map_eq_none_iff]
      rw [List.map_cons, printFields]
      cases hvalue : values field with
      | none =>
          rw [labelled, List.filterMap_cons, Option.map_none, ← labelled]
          exact ih
      | some value =>
          rw [labelled, List.filterMap_cons, Option.map_some, ← labelled, if_neg (by simp)]
          dsimp only
          rw [AuthField.label_toList]
          by_cases hrest : printFields values table = []
          · rw [hnil.2 hrest, afterValue, if_pos hrest, List.intercalate_singleton]
            simp
          · rw [List.intercalate_cons_of_ne_nil (mt hnil.1 hrest), ih, afterValue, if_neg hrest,
              if_neg hrest]
            simp

theorem osipAuthorizationToStr_eq {auth : AuthorizationHeader} {authType : Str}
    (h : auth.authType = some authType) :
    osipAuthorizationToStr auth = .ok (authType ++
      if printFields auth.values authorizationTable = [] then []
      else ' ' :: printFields auth.values authorizationTable) := by
  rw [osipAuthorizationToStr, h, ← intercalate_labelled]
  rfl

/-! ### Values that are read back -/

def IsQuotedValue (value : Str) : Prop :=
  ∃ content, value = '"' :: (content ++ ['"']) ∧ content ≠ [] ∧
    Quoted.Open '"' '\\' false content ∧ Quoted.escapedAfter '\\' false content = false

def IsTokenValue (value : Str) : Prop :=
  value ≠ [] ∧ ∀ c ∈ value, isBlank c = false ∧ c ≠ ','

def ValueKind.IsValue : ValueKind → Str → Prop
  | .quotedString => IsQuotedValue
  | .token => IsTokenValue

/-- A name that the parser can tell from what stands around it. -/
structure IsFieldName (name : Str) : Prop where
  nonempty : name ≠ []
  plain : ∀ c ∈ name, isFieldLead c = false ∧ c ≠ '=' ∧ c ≠ '"' ∧ c ≠ '\\' ∧ isLineEnd c = false

theorem AuthField.isFieldName (field : AuthField) : IsFieldName field.name :=
  ⟨field.name_ne_nil, List.all_iff_forall_prop.1 (by cases field <;> rfl)⟩

section Field

variable {name lead value rest : Str}

theorem IsFieldName.dropWhile_lead (h : IsFieldName name) (hlead : ∀ c ∈ lead, isFieldLead c = true)
    (rest : Str) : (lead ++ (name ++ rest)).dropWhile isFieldLead = name ++ rest := by
  rw [List.dropWhile_append_of_pos hlead]
  obtain ⟨c, name', rfl⟩ := List.exists_cons_of_ne_nil h.nonempty
  rw [List.cons_append, List.dropWhile_cons_of_neg]
  rw [(h.plain c List.mem_cons_self).1]
  exact Bool.false_ne_true

theorem IsFieldName.equals_notMem (h : IsFieldName name) : '=' ∉ name :=
  fun hmem => (h.plain '=' hmem).2.1 rfl

theorem osipStrncasecmp_append (name rest : Str) :
    osipStrncasecmp name (name ++ rest) name.length = true := by
  rw [osipStrncasecmp, List.take_length, List.take_left]
  exact beq_self_eq_true _

theorem nextElement_afterValue (rest : Str) :
    nextElement (afterValue rest) = if rest = [] then none else some (afterValue rest) := by
  unfold afterValue
  split_ifs with hrest
  · rfl
  · rfl

theorem nextElement_name (h : IsFieldName name) (rest : Str) :
    nextElement (' ' :: (name ++ rest)) = some (name ++ rest) := by
  obtain ⟨c, name', rfl⟩ := List.exists_cons_of_ne_nil h.nonempty
  obtain ⟨hlead, -, -, -, hend⟩ := h.plain c List.mem_cons_self
  have hblank : isTabOrSpace c = false := by
    unfold isFieldLead at hlead
    unfold isTabOrSpace
    simp only [Bool.or_eq_false_iff] at hlead ⊢
    exact ⟨hlead.1.1, hlead.1.2⟩
  have hskip : (' ' :: (c :: name' ++ rest)).dropWhile isTabOrSpace = c :: name' ++ rest := by
    rw [List.dropWhile_cons_of_pos (by decide), List.cons_append, List.dropWhile_cons_of_neg]
    rw [hblank]
    exact Bool.false_ne_true
  have hline : (c :: name' ++ rest).dropWhile isLineEnd = c :: name' ++ rest := by
    rw [List.cons_append, List.dropWhile_cons_of_neg]
    rw [hend]
    exact Bool.false_ne_true
  unfold nextElement
  dsimp only
  rw [hskip, hline, List.cons_append, if_neg (List.cons_ne_nil c _), if_pos]
  rw [List.head?_cons, Option.any_some, hblank]
  exact Bool.false_ne_true

theorem osipQuotedStringSet_match (hname : IsFieldName name)
    (hlead : ∀ c ∈ lead, isFieldLead c = true) (hvalue : IsQuotedValue value) (rest : Str) :
    osipQuotedStringSet name (lead ++ (name ++ '=' :: (value ++ rest))) none =
      .ok (some value, nextElement rest) := by
  obtain ⟨content, rfl, hcontent, hopen, hafter⟩ := hvalue
  have hquote1 : osipQuoteFind (name ++ '=' :: ('"' :: (content ++ ['"']) ++ rest)) =
      some ('"' :: (content ++ ['"']) ++ rest) := by
    rw [osipQuoteFind_eq]
    refine Quoted.find_eq_some_iff.2 ⟨name ++ ['='], content ++ ['"'] ++ rest, ?_, rfl, ?_, ?_⟩
    · simp
    · refine Quoted.open_of_notMem (fun hmem => ?_) false
      rw [List.mem_append, List.mem_singleton] at hmem
      exact hmem.elim (fun hmem => (hname.plain _ hmem).2.2.1 rfl) (by decide)
    · exact Quoted.escapedAfter_concat (by decide) false name
  have hquote2 : osipQuoteFind (content ++ ['"'] ++ rest) = some ('"' :: rest) := by
    rw [osipQuoteFind_eq]
    exact Quoted.find_eq_some_iff.2 ⟨content, rest, by simp, rfl, hopen, hafter⟩
  have htrim : name.rdropWhile (· == ' ') = name := by
    refine List.rdropWhile_eq_self_iff.2 fun hne hlast => ?_
    have hlead := (hname.plain _ (List.getLast_mem hne)).1
    rw [beq_iff_eq] at hlast
    rw [hlast] at hlead
    cases hlead
  have hlength : pointerDiff ('"' :: rest) ('"' :: (content ++ ['"']) ++ rest) =
      content.length + 1 := by
    rw [show '"' :: (content ++ ['"']) ++ rest = ('"' :: content) ++ '"' :: rest by simp,
      pointerDiff_append, List.length_cons]
  unfold osipQuotedStringSet
  dsimp only
  rw [if_neg (by decide), hname.dropWhile_lead hlead, osipStrncasecmp_append, if_pos rfl,
    strchr_append hname.equals_notMem, strchr, if_pos rfl]
  dsimp only
  rw [pointerDiff_append, osipStrncpy, List.take_left, htrim, hquote1]
  dsimp only
  rw [List.cons_append, List.tail_cons, hquote2]
  dsimp only
  rw [List.cons_append] at hlength
  have hpos := List.length_pos_of_ne_nil hcontent
  rw [hlength, if_neg (not_not.2 rfl), if_neg (by omega)]
  rw [osipStrncpy, ← List.cons_append, List.take_left' (by simp)]
  rfl

theorem osipTokenSet_match (hname : IsFieldName name)
    (hlead : ∀ c ∈ lead, isFieldLead c = true) (hvalue : IsTokenValue value) (rest : Str)
    (hrest : Delimited ',' rest)
    (hlength : 6 ≤ (lead ++ (name ++ '=' :: (value ++ rest))).length) :
    osipTokenSet name (lead ++ (name ++ '=' :: (value ++ rest))) none =
      .ok (some value, nextElement rest.tail) := by
  have hequals : '=' ∉ lead ++ name := by
    rw [List.mem_append, not_or]
    exact ⟨fun hmem => absurd (hlead _ hmem) (by decide), hname.equals_notMem⟩
  have hcomma : '=' :: (value ++ rest) = ('=' :: value) ++ rest := rfl
  have hend : (strchr (name ++ '=' :: (value ++ rest)) ',').getD [] = rest := by
    have hnot : ',' ∉ name ++ '=' :: value := by
      rw [List.mem_append, List.mem_cons]
      rintro (hmem | heq | hmem)
      · exact absurd (hname.plain _ hmem).1 (by decide)
      · exact absurd heq (by decide)
      · exact (hvalue.2 _ hmem).2 rfl
    rw [hcomma, ← List.append_assoc, strchr_append hnot, getD_strchr_of_delimited hrest]
  unfold osipTokenSet
  dsimp only
  rw [if_neg (by decide), ← List.append_assoc, strchr_append hequals, strchr, if_pos rfl,
    List.append_assoc]
  dsimp only
  rw [if_neg (by omega), hname.dropWhile_lead hlead, osipStrncasecmp_append, if_pos rfl, hend,
    pointerDiff_cons, if_neg, List.tail_cons, Nat.add_sub_cancel, osipClrncpy, List.take_left,
    osipClrspace_of_no_blank fun c hc => (hvalue.2 c hc).1]
  have hpos := List.length_pos_of_ne_nil hvalue.1
  omega

theorem osipTokenSet_short {str : Str} (h : '=' ∈ str) (hshort : str.length < 6) :
    osipTokenSet name str none = .ok (none, none) := by
  obtain ⟨beg, hbeg⟩ := Option.ne_none_iff_exists'.1 (mt strchr_eq_none_iff.1 (not_not.2 h))
  unfold osipTokenSet
  rw [if_neg (by decide), hbeg]
  exact if_pos hshort

theorem osipTokenSet_other {str : Str} (h : '=' ∈ str) (hlength : 6 ≤ str.length)
    (hother : osipStrncasecmp name (str.dropWhile isFieldLead) name.length = false) :
    osipTokenSet name str none = .ok (none, some (str.dropWhile isFieldLead)) := by
  obtain ⟨beg, hbeg⟩ := Option.ne_none_iff_exists'.1 (mt strchr_eq_none_iff.1 (not_not.2 h))
  unfold osipTokenSet
  rw [if_neg (by decide), hbeg]
  dsimp only
  rw [if_neg (by omega), hother, if_neg Bool.false_ne_true]

end Field

/-! ### Other fields -/

theorem AuthField.apart : ∀ entry ∈ authorizationTable, ∀ other ∈ authorizationTable,
    entry.1 = other.1 ∨ ¬ entry.1.name.map tolower <+: (other.1.name ++ ['=']).map tolower ∧
      ¬ (other.1.name ++ ['=']).map tolower <+: entry.1.name.map tolower := by
  decide +kernel

theorem osipStrncasecmp_eq_true_iff {name str : Str} :
    osipStrncasecmp name str name.length = true ↔ name.map tolower <+: str.map tolower := by
  rw [osipStrncasecmp, osipStrcasecmp, beq_iff_eq, List.take_length, List.map_take,
    List.prefix_iff_eq_take, List.length_map]

theorem osipStrncasecmp_other {field other : AuthField × ValueKind}
    (hfield : field ∈ authorizationTable) (hother : other ∈ authorizationTable)
    (hne : field.1 ≠ other.1) (rest : Str) :
    osipStrncasecmp field.1.name (other.1.name ++ '=' :: rest) field.1.name.length = false := by
  obtain heq | ⟨hshorter, hlonger⟩ := AuthField.apart field hfield other hother
  · exact absurd heq hne
  · rw [← Bool.not_eq_true, osipStrncasecmp_eq_true_iff]
    intro hprefix
    have hother : (other.1.name ++ ['=']).map tolower <+:
        (other.1.name ++ '=' :: rest).map tolower :=
      List.IsPrefix.map tolower ⟨rest, by rw [List.append_assoc, List.singleton_append]⟩
    obtain h | h := List.prefix_or_prefix_of_prefix hprefix hother
    · exact hshorter h
    · exact hlonger h

/-! ### One pass over what is printed -/

def ValueKind.separator : ValueKind → Str
  | .quotedString => [',', ' ']
  | .token => []

/-- Whether all fields are found: a token is looked for in six characters at least. -/
def ReadsBack (values : AuthValues) : AuthTable → Str → Prop
  | [], _ => True
  | (field, kind) :: table, lead =>
      (kind = .token → 6 ≤ (lead ++ printFields values ((field, kind) :: table)).length) ∧
        match values field with
        | none => ReadsBack values table []
        | some _ => printFields values table = [] ∨ ReadsBack values table kind.separator

section Pass

variable {values : AuthValues} {table : AuthTable} {field : AuthField} {kind : ValueKind}
  {lead : Str}

theorem printFields_head (h : printFields values table ≠ []) :
    ∃ entry ∈ table, ∃ rest, printFields values table = entry.1.name ++ '=' :: rest := by
  induction table with
  | nil => exact absurd rfl h
  | cons entry table ih =>
      obtain ⟨field, kind⟩ := entry
      rw [printFields] at h ⊢
      cases hvalue : values field with
      | none =>
          rw [hvalue] at h
          obtain ⟨entry, hentry, rest, heq⟩ := ih h
          exact ⟨entry, List.mem_cons_of_mem _ hentry, rest, heq⟩
      | some value => exact ⟨(field, kind), List.mem_cons_self, _, rfl⟩

theorem nextElement_afterValue_tail :
    nextElement (afterValue (printFields values table)).tail =
      if printFields values table = [] then none else some (printFields values table) := by
  unfold afterValue
  split_ifs with hrest
  · rfl
  · obtain ⟨entry, hentry, rest, heq⟩ := printFields_head hrest
    rw [heq, List.tail_cons, nextElement_name entry.1.isFieldName]

theorem delimited_afterValue (rest : Str) : Delimited ',' (afterValue rest) := by
  unfold afterValue
  split_ifs with hrest
  · exact delimited_nil ','
  · intro c hc
    exact (Option.some.inj hc).symm

theorem ValueKind.set_printFields (htable : (field, kind) :: table ⊆ authorizationTable)
    (hnodup : field ∉ table.map Prod.fst) (hvalue : ∀ value ∈ values field, kind.IsValue value)
    (hlead : ∀ c ∈ lead, isFieldLead c = true)
    (hne : printFields values ((field, kind) :: table) ≠ []) :
    kind.set field.name (lead ++ printFields values ((field, kind) :: table)) none =
      if kind = .token ∧ (lead ++ printFields values ((field, kind) :: table)).length < 6 then
        .ok (none, none)
      else
        .ok (values field,
          match values field with
          | none => some (printFields values table)
          | some _ =>
              if printFields values table = [] then none
              else some (kind.separator ++ printFields values table)) := by
  obtain ⟨hfield, hrest⟩ := List.cons_subset.1 htable
  by_cases hshort : kind = .token ∧
      (lead ++ printFields values ((field, kind) :: table)).length < 6
  · obtain ⟨rfl, hlength⟩ := hshort
    obtain ⟨entry, -, rest, heq⟩ := printFields_head hne
    rw [if_pos ⟨rfl, hlength⟩]
    refine osipTokenSet_short ?_ hlength
    rw [heq]
    simp
  · rw [if_neg hshort]
    rw [printFields] at hne hshort ⊢
    cases hset : values field with
    | none =>
        rw [hset] at hne hshort
        dsimp only at hne hshort ⊢
        obtain ⟨entry, hentry, rest, heq⟩ := printFields_head hne
        have hother := osipStrncasecmp_other hfield (hrest hentry)
          (fun h : field = entry.1 => hnodup (h ▸ List.mem_map_of_mem hentry)) rest
        have hdrop := entry.1.isFieldName.dropWhile_lead hlead ('=' :: rest)
        rw [heq] at hshort ⊢
        cases kind with
        | quotedString =>
            rw [ValueKind.set, osipQuotedStringSet]
            dsimp only
            rw [if_neg (by decide), hdrop, hother, if_neg Bool.false_ne_true]
        | token =>
            have hlength := Nat.not_lt.1 fun h => hshort ⟨rfl, h⟩
            rw [ValueKind.set, osipTokenSet_other (by simp) hlength (by rw [hdrop]; exact hother),
              hdrop]
    | some value =>
        have hvalue := hvalue value hset
        rw [hset] at hshort
        dsimp only at hshort ⊢
        cases kind with
        | quotedString =>
            rw [ValueKind.set, osipQuotedStringSet_match field.isFieldName hlead hvalue,
              nextElement_afterValue]
            unfold afterValue
            split_ifs with hlast
            · rfl
            · rfl
        | token =>
            have hlength := Nat.not_lt.1 fun h => hshort ⟨rfl, h⟩
            rw [ValueKind.set, osipTokenSet_match field.isFieldName hlead hvalue _
              (delimited_afterValue _) hlength, nextElement_afterValue_tail]
            rfl

theorem ValueKind.separator_isFieldLead (kind : ValueKind) :
    ∀ c ∈ kind.separator, isFieldLead c = true :=
  List.all_iff_forall_prop.1 (by cases kind <;> rfl)

theorem parseFields_next (parsed : AuthValues) (space next : Str) (parseOk : Nat) :
    (if next = space then parseFields table parsed space parseOk
      else parseFields table parsed next (parseOk + 1)) =
      parseFields table parsed next (if next = space then parseOk else parseOk + 1) := by
  split_ifs with hsame
  · rw [hsame]
  · rfl

theorem parseFields_printFields (htable : table ⊆ authorizationTable)
    (hnodup : (table.map Prod.fst).Nodup)
    (hvalues : ∀ entry ∈ table, ∀ value ∈ values entry.1, entry.2.IsValue value)
    (hlead : ∀ c ∈ lead, isFieldLead c = true) {parsed : AuthValues}
    (hparsed : ∀ entry ∈ table, parsed entry.1 = none) (hne : printFields values table ≠ [])
    (parseOk : Nat) :
    ∃ reached, parseFields table parsed (lead ++ printFields values table) parseOk =
        .ok (reached, none) ∧
      (∀ field, field ∉ table.map Prod.fst → reached field = parsed field) ∧
      ((∀ entry ∈ table, reached entry.1 = values entry.1) ↔ ReadsBack values table lead) := by
  induction table generalizing lead parsed parseOk with
  | nil => exact absurd rfl hne
  | cons entry table ih =>
      obtain ⟨field, kind⟩ := entry
      rw [List.map_cons, List.nodup_cons] at hnodup
      rw [List.forall_mem_cons] at hvalues hparsed
      dsimp only at hnodup hvalues hparsed
      have hupdate : ∀ result, ∀ entry ∈ table,
          Function.update parsed field result entry.1 = parsed entry.1 := fun result entry hentry =>
        Function.update_of_ne
          (fun h : entry.1 = field => hnodup.1 (h ▸ List.mem_map_of_mem hentry)) _ _
      have hset := ValueKind.set_printFields htable hnodup.1 hvalues.1 hlead hne
      rw [parseFields, hparsed.1, hset]
      have hframe : ∀ result, ∀ other, other ∉ ((field, kind) :: table).map Prod.fst →
          Function.update parsed field result other = parsed other := fun result other hother =>
        Function.update_of_ne (fun h : other = field => hother (h ▸ List.mem_cons_self)) _ _
      by_cases hshort : kind = .token ∧
          (lead ++ printFields values ((field, kind) :: table)).length < 6
      · rw [if_pos hshort]
        refine ⟨_, rfl, hframe none, iff_of_false (fun hall => ?_) fun hreads => ?_⟩
        · refine hne (printFields_eq_nil_iff.2 fun entry hentry => ?_)
          rw [← hall entry hentry]
          obtain rfl | hentry := List.mem_cons.1 hentry
          · exact Function.update_self _ _ _
          · rw [hupdate none entry hentry, hparsed.2 entry hentry]
        · rw [ReadsBack] at hreads
          have hlength := hreads.1 hshort.1
          omega
      · rw [if_neg hshort]
        have hlength : kind = .token →
            6 ≤ (lead ++ printFields values ((field, kind) :: table)).length :=
          fun hkind => Nat.not_lt.1 fun h => hshort ⟨hkind, h⟩
        have hrest : ∀ {separator : Str} (space : Str),
            (∀ c ∈ separator, isFieldLead c = true) → printFields values table ≠ [] →
            ∃ reached, (if separator ++ printFields values table = space then
                parseFields table (Function.update parsed field (values field)) space parseOk
              else parseFields table (Function.update parsed field (values field))
                (separator ++ printFields values table) (parseOk + 1)) = .ok (reached, none) ∧
              (∀ other, other ∉ ((field, kind) :: table).map Prod.fst →
                reached other = parsed other) ∧
              ((∀ entry ∈ (field, kind) :: table, reached entry.1 = values entry.1) ↔
                ReadsBack values table separator) := by
          intro separator space hseparator hne
          rw [parseFields_next]
          obtain ⟨reached, heq, hsame, hreads⟩ := ih (List.cons_subset.1 htable).2 hnodup.2
            hvalues.2 hseparator (fun entry hentry => (hupdate _ entry hentry).trans
              (hparsed.2 entry hentry)) hne _
          refine ⟨reached, heq, fun other hother => ?_, ?_⟩
          · rw [hsame other fun h => hother (List.mem_cons_of_mem _ h), hframe _ other hother]
          · rw [List.forall_mem_cons, hsame field hnodup.1, hreads]
            exact and_iff_right (Function.update_self _ _ _)
        rw [ReadsBack]
        cases hvalue : values field with
        | none =>
            rw [printFields, hvalue] at hne
            rw [hvalue] at hrest
            obtain ⟨reached, heq, hsame, hreads⟩ := hrest _ (List.forall_mem_nil _) hne
            exact ⟨reached, heq, hsame, hreads.trans (and_iff_right hlength).symm⟩
        | some value =>
            by_cases hlast : printFields values table = []
            · refine ⟨Function.update parsed field (some value), ?_, hframe _, ?_⟩
              · rw [if_pos hlast]
                rfl
              · refine iff_of_true (List.forall_mem_cons.2 ⟨?_, fun entry hentry => ?_⟩)
                  ⟨hlength, Or.inl hlast⟩
                · exact (Function.update_self _ _ _).trans hvalue.symm
                · rw [hupdate _ entry hentry, hparsed.2 entry hentry,
                    printFields_eq_nil_iff.1 hlast entry hentry]
            · rw [hvalue] at hrest
              obtain ⟨reached, heq, hsame, hreads⟩ := hrest _ kind.separator_isFieldLead hlast
              refine ⟨reached, ?_, hsame, hreads.trans ?_⟩
              · rw [if_neg hlast]
                exact heq
              · dsimp only
                rw [or_iff_right hlast, and_iff_right hlength]

/-! ### When all fields are found -/

/-- From every field that is set there are six characters at least. -/
def LongEnough (values : AuthValues) : AuthTable → Prop
  | [] => True
  | (field, kind) :: table =>
      (values field ≠ none → 6 ≤ (printFields values ((field, kind) :: table)).length) ∧
        LongEnough values table

theorem LongEnough.le_length (h : LongEnough values table) (hne : printFields values table ≠ []) :
    6 ≤ (printFields values table).length := by
  induction table with
  | nil => exact absurd rfl hne
  | cons entry table ih =>
      obtain ⟨field, kind⟩ := entry
      by_cases hset : values field = none
      · rw [printFields, hset] at hne ⊢
        exact ih h.2 hne
      · exact h.1 hset

theorem readsBack_of_longEnough (h : LongEnough values table)
    (hne : printFields values table ≠ []) : ReadsBack values table lead := by
  induction table generalizing lead with
  | nil => exact trivial
  | cons entry table ih =>
      obtain ⟨field, kind⟩ := entry
      refine ⟨fun _ => (h.le_length hne).trans (List.suffix_append lead _).length_le, ?_⟩
      cases hvalue : values field with
      | none =>
          rw [printFields, hvalue] at hne
          exact ih h.2 hne
      | some value => exact or_iff_not_imp_left.2 (ih h.2)

theorem printFields_length_of_set {value : Str} (h : values field = some value) :
    field.name.length + 1 + value.length +
        (if printFields values table = [] then 0 else (printFields values table).length + 2) =
      (printFields values ((field, kind) :: table)).length := by
  rw [printFields, h, afterValue]
  split_ifs with hlast
  · simp only [List.length_append, List.length_cons, List.length_nil]
    omega
  · simp only [List.length_append, List.length_cons]
    omega

theorem LongEnough.append {front : AuthTable} (h : LongEnough values table)
    (hfront : ∀ entry ∈ front, ∀ value ∈ values entry.1,
      6 ≤ entry.1.name.length + 1 + value.length) : LongEnough values (front ++ table) := by
  induction front with
  | nil => exact h
  | cons entry front ih =>
      obtain ⟨field, kind⟩ := entry
      rw [List.forall_mem_cons] at hfront
      refine ⟨fun hset => ?_, ih hfront.2⟩
      obtain ⟨value, hvalue⟩ := Option.ne_none_iff_exists'.1 hset
      have hlength := hfront.1 value hvalue
      have heq := @printFields_length_of_set values (front ++ table) field kind value hvalue
      dsimp only at hlength
      rw [List.append_eq]
      omega

theorem printFields_append_length (front : AuthTable) :
    (printFields values table).length ≤ (printFields values (front ++ table)).length := by
  induction front with
  | nil => exact le_refl _
  | cons entry front ih =>
      obtain ⟨field, kind⟩ := entry
      rw [List.cons_append, printFields]
      cases values field with
      | none => exact ih
      | some value =>
          have hle : (printFields values (front ++ table)).length ≤
              (afterValue (printFields values (front ++ table))).length := by
            unfold afterValue
            split_ifs with hnil
            · rw [hnil]
            · simp only [List.length_cons]
              omega
          simp only [List.length_append, List.length_cons]
          omega

theorem readsBack_append {front : AuthTable} (hlength : 6 ≤ (printFields values table).length)
    (h : ∀ lead, ReadsBack values table lead) : ReadsBack values (front ++ table) lead := by
  induction front generalizing lead with
  | nil => exact h lead
  | cons entry front ih =>
      obtain ⟨field, kind⟩ := entry
      have hfront := @printFields_append_length values table ((field, kind) :: front)
      refine ⟨fun _ => ?_, ?_⟩
      · exact (hlength.trans hfront).trans (List.suffix_append lead _).length_le
      · cases values field with
        | none => exact ih
        | some value => exact Or.inr ih

theorem ReadsBack.of_append {front : AuthTable} (h : ReadsBack values (front ++ table) lead)
    (hne : printFields values table ≠ []) : ∃ lead, ReadsBack values table lead := by
  induction front generalizing lead with
  | nil => exact ⟨lead, h⟩
  | cons entry front ih =>
      obtain ⟨field, kind⟩ := entry
      have hfront : printFields values (front ++ table) ≠ [] := by
        rw [← List.length_pos_iff_ne_nil] at hne ⊢
        exact hne.trans_le (printFields_append_length front)
      have hrest := h.2
      cases hvalue : values field with
      | none =>
          rw [hvalue] at hrest
          exact ih hrest
      | some value =>
          rw [hvalue] at hrest
          exact ih (hrest.resolve_left hfront)

end Pass

/-! ### The round trip -/

namespace AuthorizationHeader

/-- An authorization header with any subset of the fields. -/
structure WellFormed (auth : AuthorizationHeader) : Prop where
  authType : ∃ authType, auth.authType = some authType ∧ authType ≠ [] ∧ ' ' ∉ authType
  values : ∀ entry ∈ authorizationTable, ∀ value ∈ auth.values entry.1, entry.2.IsValue value
  nonceCount : ∀ value ∈ auth.nonceCount, value.length = 8

/-- The fields behind `qop`. -/
def behindQop : AuthTable :=
  [(.nc, .token), (.version, .token), (.targetname, .quotedString), (.gssapiData, .quotedString),
    (.crand, .quotedString), (.cnum, .quotedString)]

/-- The last field is a `qop` of one character, which does not follow `opaque`. -/
def EndsWithShortQop (auth : AuthorizationHeader) : Prop :=
  (∃ c, auth.messageQop = some [c]) ∧ auth.opaqueValue = none ∧
    ∀ entry ∈ behindQop, auth.values entry.1 = none

/-- What `osip_authorization_to_str` prints is parsed to the same fields. -/
def RoundTrips (auth : AuthorizationHeader) : Prop :=
  ∃ text, osipAuthorizationToStr auth = .ok text ∧ osipAuthorizationParse text = .ok auth

variable {auth : AuthorizationHeader}

theorem IsQuotedValue.length {value : Str} (h : IsQuotedValue value) : 3 ≤ value.length := by
  obtain ⟨content, rfl, hcontent, -⟩ := h
  have hpos := List.length_pos_of_ne_nil hcontent
  simp only [List.length_cons, List.length_append, List.length_nil]
  omega

theorem name_length : ∀ entry ∈ authorizationTable, 2 ≤ entry.1.name.length ∧
    (entry.2 = .token → entry.1 ≠ .qop → entry.1 ≠ .nc → 4 ≤ entry.1.name.length) := by
  decide

theorem WellFormed.length (h : auth.WellFormed) :
    ∀ entry ∈ authorizationTable, entry.1 ≠ .qop → ∀ value ∈ auth.values entry.1,
      6 ≤ entry.1.name.length + 1 + value.length := by
  intro entry hentry hqop value hvalue
  obtain ⟨hshort, hlong⟩ := name_length entry hentry
  have hkind := h.values entry hentry value hvalue
  cases hcase : entry.2 with
  | quotedString =>
      rw [hcase] at hkind
      have hlength := IsQuotedValue.length hkind
      omega
  | token =>
      rw [hcase] at hkind
      have hpos := List.length_pos_of_ne_nil hkind.1
      by_cases hnc : entry.1 = .nc
      · rw [hnc] at hvalue
        have hlength := h.nonceCount value hvalue
        omega
      · have hname := hlong hcase hqop hnc
        omega

/-- The fields before `opaque`. -/
def beforeOpaque : AuthTable := authorizationTable.take 8

theorem authorizationTable_eq : authorizationTable =
    beforeOpaque ++ (.opaqueValue, .quotedString) :: (.qop, .token) :: behindQop := rfl

theorem WellFormed.longEnough_behindQop (h : auth.WellFormed) :
    LongEnough auth.values behindQop := by
  rw [← List.append_nil behindQop]
  refine LongEnough.append trivial fun entry hentry => h.length entry ?_ ?_
  · rw [authorizationTable_eq]
    exact List.mem_append_right _ (List.mem_cons_of_mem _ (List.mem_cons_of_mem _ hentry))
  · revert entry
    decide

/-- The table from `qop` on. -/
def fromQop : AuthTable := (.qop, .token) :: behindQop

theorem printFields_fromQop_of_none (hqop : auth.messageQop = none) :
    printFields auth.values fromQop = printFields auth.values behindQop := by
  rw [fromQop, printFields, show auth.values .qop = none from hqop]

theorem printFields_fromQop_length {value : Str} (hqop : auth.messageQop = some value) :
    4 + value.length + (if printFields auth.values behindQop = [] then 0
        else (printFields auth.values behindQop).length + 2) =
      (printFields auth.values fromQop).length :=
  @printFields_length_of_set auth.values behindQop .qop .token value hqop

theorem WellFormed.qop_length (h : auth.WellFormed) {value : Str}
    (hqop : auth.messageQop = some value) : 0 < value.length :=
  List.length_pos_of_ne_nil (h.values (.qop, .token) (by decide) value hqop).1

theorem WellFormed.readsBack_fromQop (h : auth.WellFormed)
    (hne : printFields auth.values fromQop ≠ []) : ReadsBack auth.values fromQop [',', ' '] := by
  refine ⟨fun _ => ?_, ?_⟩
  · rw [List.length_append]
    cases hqop : auth.messageQop with
    | none =>
        rw [printFields_fromQop_of_none hqop] at hne
        have hlength := h.longEnough_behindQop.le_length hne
        rw [← printFields_fromQop_of_none hqop] at hlength
        exact hlength.trans (Nat.le_add_left _ _)
    | some value =>
        have hpos := h.qop_length hqop
        have heq := printFields_fromQop_length hqop
        have hlength : 4 ≤ (printFields auth.values fromQop).length := by omega
        exact Nat.add_le_add (le_refl 2) hlength
  · rw [show auth.values .qop = auth.messageQop from rfl]
    cases hqop : auth.messageQop with
    | none =>
        rw [printFields_fromQop_of_none hqop] at hne
        exact readsBack_of_longEnough h.longEnough_behindQop hne
    | some value => exact or_iff_not_imp_left.2 (readsBack_of_longEnough h.longEnough_behindQop)

theorem WellFormed.longEnough_fromQop (h : auth.WellFormed) (hbefore : auth.opaqueValue = none)
    (hshort : ¬ auth.EndsWithShortQop) : LongEnough auth.values fromQop := by
  refine ⟨fun hset => ?_, h.longEnough_behindQop⟩
  obtain ⟨value, hqop⟩ := Option.ne_none_iff_exists'.1 hset
  have hpos := h.qop_length hqop
  have heq := printFields_fromQop_length hqop
  rw [← fromQop]
  split_ifs at heq with hlast
  · have hne : value.length ≠ 1 := by
      intro hone
      obtain ⟨c, rfl⟩ := List.length_eq_one_iff.1 hone
      exact hshort ⟨⟨c, hqop⟩, hbefore, printFields_eq_nil_iff.1 hlast⟩
    omega
  · have hlength := h.longEnough_behindQop.le_length hlast
    omega

theorem mem_beforeOpaque : ∀ entry ∈ beforeOpaque, entry ∈ authorizationTable ∧ entry.1 ≠ .qop := by
  decide

/-- The printed fields read back unless a short `qop` stands at the end. -/
theorem WellFormed.readsBack_iff (h : auth.WellFormed)
    (hne : printFields auth.values authorizationTable ≠ []) :
    ReadsBack auth.values authorizationTable [' '] ↔ ¬ auth.EndsWithShortQop := by
  rw [authorizationTable_eq, ← fromQop] at hne ⊢
  cases hbefore : auth.opaqueValue with
  | some value =>
      refine iff_of_true ?_ fun hshort => by cases hbefore.symm.trans hshort.2.1
      have hlength := h.length (.opaqueValue, .quotedString) (by decide) (by decide) value hbefore
      have heq := @printFields_length_of_set auth.values fromQop .opaqueValue .quotedString value
        hbefore
      dsimp only at hlength
      refine readsBack_append (by omega) fun lead => ⟨(fun hkind => by cases hkind), ?_⟩
      rw [show auth.values .opaqueValue = some value from hbefore]
      exact or_iff_not_imp_left.2 h.readsBack_fromQop
  | none =>
      have hskip : printFields auth.values ((.opaqueValue, .quotedString) :: fromQop) =
          printFields auth.values fromQop := by
        rw [printFields, show auth.values .opaqueValue = none from hbefore]
      by_cases hshort : auth.EndsWithShortQop
      · refine iff_of_false (fun hreads => ?_) (not_not.2 hshort)
        obtain ⟨⟨c, hqop⟩, -, hlast⟩ := hshort
        have heq := printFields_fromQop_length hqop
        rw [if_pos (printFields_eq_nil_iff.2 hlast), List.length_singleton] at heq
        obtain ⟨lead, -, hrest⟩ := hreads.of_append (by
          rw [hskip, ← List.length_pos_iff_ne_nil]
          omega)
        rw [show auth.values .opaqueValue = none from hbefore] at hrest
        have hlength := hrest.1 rfl
        rw [List.nil_append, ← fromQop] at hlength
        omega
      · refine iff_of_true (readsBack_of_longEnough (LongEnough.append ⟨?_, ?_⟩ ?_) hne) hshort
        · exact fun hset => absurd hbefore hset
        · exact h.longEnough_fromQop hbefore hshort
        · intro entry hentry
          exact h.length entry (mem_beforeOpaque entry hentry).1 (mem_beforeOpaque entry hentry).2

theorem osipAuthorizationParse_eq_iff {hvalue authType : Str} {values : AuthValues}
    (h : authFields authorizationTable hvalue = .ok (authType, values)) :
    osipAuthorizationParse hvalue = .ok auth ↔ auth.authType = some authType ∧
      ∀ entry ∈ authorizationTable, values entry.1 = auth.values entry.1 := by
  rw [osipAuthorizationParse, h]
  dsimp only [bind, Except.bind]
  constructor
  · intro heq
    cases Except.ok.inj heq
    simp [authorizationTable, AuthorizationHeader.values]
  · rintro ⟨htype, hvalues⟩
    simp only [authorizationTable, List.forall_mem_cons, AuthorizationHeader.values] at hvalues
    obtain ⟨⟨_, _⟩, _⟩ := auth
    simp_all only

theorem strchr_authType {authType : Str} (h : ' ' ∉ authType) (rest : Str) :
    strchr (authType ++ ' ' :: rest) ' ' = some (' ' :: rest) := by
  rw [strchr_append h, strchr, if_pos rfl]

theorem authFields_printFields (h : auth.WellFormed) {authType : Str} (hne : authType ≠ [])
    (hspace : ' ' ∉ authType) (hset : printFields auth.values authorizationTable ≠ []) :
    ∃ reached, authFields authorizationTable
        (authType ++ ' ' :: printFields auth.values authorizationTable) = .ok (authType, reached) ∧
      ((∀ entry ∈ authorizationTable, reached entry.1 = auth.values entry.1) ↔
        ReadsBack auth.values authorizationTable [' ']) := by
  obtain ⟨reached, hpass, -, hreads⟩ := @parseFields_printFields auth.values authorizationTable
    [' '] (List.Subset.refl _) (by decide) h.values (List.forall_mem_singleton.2 rfl)
    (fun _ => none) (fun _ _ => rfl) hset 0
  refine ⟨reached, ?_, hreads⟩
  have hpos := List.length_pos_of_ne_nil hne
  unfold authFields authParse
  rw [strchr_authType hspace]
  dsimp only
  rw [pointerDiff_append, if_neg (by omega), authLoop, authPass, ← List.singleton_append, hpass,
    osipStrncpy, List.take_left]
  rfl

/-- The round trip: something is printed behind the type, and no `qop` of one character stands at
the end where the comma and the space before it have been passed over. -/
theorem printed_parse_iff (h : auth.WellFormed) :
    auth.RoundTrips ↔
      (∃ entry ∈ authorizationTable, auth.values entry.1 ≠ none) ∧ ¬ auth.EndsWithShortQop := by
  obtain ⟨authType, htype, hne, hspace⟩ := h.authType
  have htext : auth.RoundTrips ↔ osipAuthorizationParse (authType ++
      if printFields auth.values authorizationTable = [] then []
      else ' ' :: printFields auth.values authorizationTable) = .ok auth := by
    rw [RoundTrips, osipAuthorizationToStr_eq htype]
    simp only [Except.ok.injEq, exists_eq_left']
  rw [htext]
  by_cases hset : printFields auth.values authorizationTable = []
  · rw [if_pos hset, List.append_nil]
    refine iff_of_false (fun hparse => ?_) fun hsome => ?_
    · -- without a space there is no type
      rw [osipAuthorizationParse, authFields, authParse, strchr_eq_none_iff.2 hspace] at hparse
      cases hparse
    · obtain ⟨⟨entry, hentry, hvalue⟩, -⟩ := hsome
      exact hvalue (printFields_eq_nil_iff.1 hset entry hentry)
  · obtain ⟨reached, hfields, hreads⟩ := authFields_printFields h hne hspace hset
    have hsome : ∃ entry ∈ authorizationTable, auth.values entry.1 ≠ none := by
      by_contra hnone
      push Not at hnone
      exact hset (printFields_eq_nil_iff.2 hnone)
    rw [if_neg hset, osipAuthorizationParse_eq_iff hfields, and_iff_right htype, hreads,
      h.readsBack_iff hset, and_iff_right hsome]

/-- The fields of `Digest realm="a", qop=…`. -/
def withQop (qop : Str) : AuthorizationHeader :=
  { authType := some "Digest".toList, username := none, realm := some "\"a\"".toList, nonce := none
    uri := none, response := none, algorithm := none, cnonce := none, opaqueValue := none
    messageQop := some qop, nonceCount := none, digest := none, version := none
    targetname := none, gssapiData := none, crand := none, cnum := none }

theorem isQuotedValue_of_notMem {content : Str} (hne : content ≠ []) (hquote : '"' ∉ content)
    (hescape : '\\' ∉ content) : IsQuotedValue ('"' :: (content ++ ['"'])) :=
  ⟨content, rfl, hne, Quoted.open_of_notMem hquote false, Quoted.escapedAfter_of_notMem hescape⟩

theorem withQop_wellFormed {qop : Str} (h : IsTokenValue qop) : (withQop qop).WellFormed := by
  refine ⟨⟨"Digest".toList, rfl, by decide, by decide⟩, ?_, fun value hvalue =>
    absurd hvalue (Option.not_mem_none value)⟩
  have hrealm : IsQuotedValue "\"a\"".toList :=
    isQuotedValue_of_notMem (List.cons_ne_nil 'a' []) (by decide) (by decide)
  simpa [authorizationTable, AuthorizationHeader.values, withQop, ValueKind.IsValue] using
    ⟨hrealm, h⟩

/-- A `qop` of two characters comes back. -/
theorem auth_roundTrips : (withQop "ab".toList).RoundTrips := by
  have hqop : IsTokenValue "ab".toList :=
    ⟨List.cons_ne_nil 'a' _, List.all_iff_forall_prop.1 rfl⟩
  refine (printed_parse_iff (withQop_wellFormed hqop)).2 ⟨?_, ?_⟩
  · exact ⟨(.realm, .quotedString), by decide, by decide⟩
  · rintro ⟨⟨c, hqop⟩, -⟩
    cases hqop

/-- A `qop` of one character is lost: at most five characters are left to look for it. -/
theorem not_roundTrips_shortQop :
    ¬ ∀ auth : AuthorizationHeader, auth.WellFormed → auth.RoundTrips := by
  intro h
  have hqop : IsTokenValue "b".toList :=
    ⟨List.cons_ne_nil 'b' _, List.all_iff_forall_prop.1 rfl⟩
  obtain ⟨text, htext, hparse⟩ := h (withQop "b".toList) (withQop_wellFormed hqop)
  cases Except.ok.inj htext
  have hlost : (osipAuthorizationParse "Digest realm=\"a\", qop=b".toList).map (·.messageQop) =
      .ok none := by decide
  exact absurd (Except.ok.inj (hlost.symm.trans (congrArg (Except.map (·.messageQop)) hparse)))
    (by decide)

end AuthorizationHeader

end Exosip
