import Exosip.Parser.Credentials

/-! `osip_authentication_info_to_str` and back: the fields are printed in another order than the
parser looks for them, so that it may pass over its table several times. -/
namespace Exosip

open CString
open Machine

/-- The names of the parameters. -/
inductive InfoField where
  | nextnonce | cnonce | rspauth | nc | qop | snum | srand | targetname | realm | opaqueValue
  deriving DecidableEq, Repr

def InfoField.name : InfoField → Str
  | .nextnonce => "nextnonce".toList
  | .cnonce => "cnonce".toList
  | .rspauth => "rspauth".toList
  | .nc => "nc".toList
  | .qop => "qop".toList
  | .snum => "snum".toList
  | .srand => "srand".toList
  | .targetname => "targetname".toList
  | .realm => "realm".toList
  | .opaqueValue => "opaque".toList

def InfoField.kind : InfoField → ValueKind
  | .nc => .token
  | .qop => .token
  | _ => .quotedString

abbrev InfoValues := InfoField → Option Str

/-- `"name="`. -/
def InfoField.label : InfoField → String
  | .nextnonce => "nextnonce="
  | .cnonce => "cnonce="
  | .rspauth => "rspauth="
  | .nc => "nc="
  | .qop => "qop="
  | .snum => "snum="
  | .srand => "srand="
  | .targetname => "targetname="
  | .realm => "realm="
  | .opaqueValue => "opaque="

def AuthenticationInfo.values (ainfo : AuthenticationInfo) : InfoValues
  | .nextnonce => ainfo.nextnonce
  | .cnonce => ainfo.cnonce
  | .rspauth => ainfo.rspauth
  | .nc => ainfo.nonceCount
  | .qop => ainfo.qopOptions
  | .snum => ainfo.snum
  | .srand => ainfo.srand
  | .targetname => ainfo.targetname
  | .realm => ainfo.realm
  | .opaqueValue => ainfo.opaqueValue

/-! ### The buffer -/

/-- What is reckoned for each field beside its value. -/
def infoRoom : List (InfoField × Nat) :=
  [(.nextnonce, 11), (.rspauth, 10), (.cnonce, 9), (.nc, 5), (.qop, 6), (.snum, 7), (.srand, 8),
    (.targetname, 13), (.realm, 8), (.opaqueValue, 8)]

/-- The length of the buffer that `osip_authentication_info_to_str` writes into. -/
def osipAuthenticationInfoLength (ainfo : AuthenticationInfo) : Nat :=
  (ainfo.authType.elim 0 fun authType => authType.length + 1) +
    (infoRoom.map fun entry =>
      (ainfo.values entry.1).elim 0 fun value => value.length + entry.2).sum

def infoPrinted : List InfoField :=
  [.qop, .nextnonce, .rspauth, .cnonce, .nc, .snum, .srand, .targetname, .realm, .opaqueValue]

/-! ### The parser -/

/-- The fields in the order in which they are looked for. -/
def infoTable : List InfoField :=
  [.nextnonce, .cnonce, .rspauth, .nc, .qop, .snum, .srand, .targetname, .realm, .opaqueValue]

/-- The fields one after the other; nothing is left when `next` is NULL. -/
def infoFields : List InfoField → InfoValues → Str → Nat →
    Except Int (InfoValues × Option (Str × Nat))
  | [], values, space, parseOk => .ok (values, some (space, parseOk))
  | field :: table, values, space, parseOk => do
      let (result, next) ← field.kind.set field.name space (values field)
      let values := Function.update values field result
      match next with
      | none => .ok (values, none)
      | some next =>
          if next = space then infoFields table values space parseOk
          else infoFields table values next (parseOk + 1)

/-- The rest of a pass, and where the next pass begins, if there is one. -/
def infoPass (table : List InfoField) (values : InfoValues) (space : Str) (parseOk : Nat) :
    Except Int (InfoValues × Option Str) := do
  let (values, next) ← infoFields table values space parseOk
  match next with
  | none => .ok (values, none)
  | some (space, parseOk) =>
      if parseOk = 0 then do
        let space ← bypass space
        .ok (values, space)
      else .ok (values, some space)

/-- The `for (;;)`; `none` when `fuel` passes were not enough. -/
def infoLoop : Nat → InfoValues → Str → Option (Except Int InfoValues)
  | 0, _, _ => none
  | fuel + 1, values, space =>
      match infoPass infoTable values space 0 with
      | .error i => some (.error i)
      | .ok (values, none) => some (.ok values)
      | .ok (values, some space) => infoLoop fuel values space

/-- The type, if there is one, and where the fields begin. -/
def infoStart (hvalue : Str) : Option Str × Str :=
  match strchr hvalue ' ', strchr hvalue '=' with
  | some space, some hack =>
      if hack.length < space.length then
        (some (osipStrncpy hvalue (pointerDiff space hvalue)), space)
      else (none, hvalue)
  | _, _ => (none, hvalue)

/-- `osip_authentication_info_parse`. The passes are as many as the characters at most. -/
def osipAuthenticationInfoParse (hvalue : Str) : Except Int AuthenticationInfo := do
  let values ← (infoLoop (hvalue.length + 1) (fun _ => none) (infoStart hvalue).2).getD
    (.error osipUndefinedError)
  .ok
    { authType := (infoStart hvalue).1
      nextnonce := values .nextnonce
      qopOptions := values .qop
      rspauth := values .rspauth
      cnonce := values .cnonce
      nonceCount := values .nc
      snum := values .snum
      srand := values .srand
      targetname := values .targetname
      realm := values .realm
      opaqueValue := values .opaqueValue }

namespace AuthenticationInfo

/-- At least one field is set: the quoted strings have their quotes and are not empty, the tokens
have no delimiters. -/
structure WellFormed (ainfo : AuthenticationInfo) : Prop where
  authType : ∀ authType ∈ ainfo.authType, IsTokenValue authType ∧ '=' ∉ authType
  values : ∀ field, ∀ value ∈ ainfo.values field, field.kind.IsValue value
  isSet : ainfo.authType ≠ none ∨ ∃ field, ainfo.values field ≠ none

/-- The text fits, with its NUL, into the buffer, and is parsed to the same fields. -/
def PrintsAndParses (ainfo : AuthenticationInfo) : Prop :=
  ∃ text, osipAuthenticationInfoToStr ainfo = .ok text ∧
    text.length < osipAuthenticationInfoLength ainfo ∧
    osipAuthenticationInfoParse text = .ok ainfo

/-- Something beside the type is printed, and `nextnonce` or `opaque` is not: for each of these
two, one character less is reckoned. -/
def HasRoom (ainfo : AuthenticationInfo) : Prop :=
  (∃ field, ainfo.values field ≠ none) ∧ (ainfo.nextnonce = none ∨ ainfo.opaqueValue = none)

/-- `qop` stands alone and has one character. -/
def EndsWithQop (ainfo : AuthenticationInfo) : Prop :=
  (∃ c, ainfo.qopOptions = some [c]) ∧ ∀ field, field ≠ .qop → ainfo.values field = none

/-- `nc` stands last, has one or two characters and there is no `rspauth`. -/
def EndsWithNc (ainfo : AuthenticationInfo) : Prop :=
  (∃ value, ainfo.nonceCount = some value ∧ value.length ≤ 2) ∧ ainfo.rspauth = none ∧
    ∀ field ∈ [InfoField.snum, .srand, .targetname, .realm, .opaqueValue],
      ainfo.values field = none

end AuthenticationInfo

/-! ### The loop ends -/

theorem infoFields_suffix {table : List InfoField} {values values' : InfoValues}
    {space space' : Str} {parseOk parseOk' : Nat}
    (h : infoFields table values space parseOk = .ok (values', some (space', parseOk'))) :
    parseOk' = parseOk ∧ space' = space ∨
      parseOk < parseOk' ∧ space'.length < space.length := by
  induction table generalizing values space parseOk with
  | nil =>
      cases h
      exact Or.inl ⟨rfl, rfl⟩
  | cons field table ih =>
      rw [infoFields, exists_ok_bind] at h
      obtain ⟨⟨result, next⟩, hset, h⟩ := h
      cases next with
      | none => cases h
      | some next =>
          dsimp only at h
          split_ifs at h with hsame
          · exact ih h
          · have hlt := length_lt_of_suffix (ValueKind.set_suffix hset) hsame
            rcases ih h with ⟨hok, heq⟩ | ⟨hok, hshorter⟩
            · rw [heq]
              exact Or.inr ⟨by omega, hlt⟩
            · exact Or.inr ⟨by omega, by omega⟩

theorem infoPass_shorter {values values' : InfoValues} {space space' : Str}
    (h : infoPass infoTable values space 0 = .ok (values', some space')) :
    space'.length < space.length := by
  rw [infoPass, exists_ok_bind] at h
  obtain ⟨⟨read, next⟩, hfields, h⟩ := h
  cases next with
  | none => cases h
  | some next =>
      obtain ⟨reached, parseOk⟩ := next
      have hmoved := infoFields_suffix hfields
      dsimp only at h
      split_ifs at h with hnone
      · rw [exists_ok_bind] at h
        obtain ⟨bypassed, hbypass, h⟩ := h
        obtain ⟨rfl, rfl⟩ := Prod.mk.inj (Except.ok.inj h)
        obtain ⟨-, hlt⟩ := bypass_suffix hbypass
        rcases hmoved with ⟨-, hsame⟩ | ⟨hpos, hshorter⟩
        · rwa [hsame] at hlt
        · omega
      · obtain ⟨rfl, hreached⟩ := Prod.mk.inj (Except.ok.inj h)
        cases hreached
        rcases hmoved with ⟨hsame, -⟩ | ⟨-, hshorter⟩
        · exact absurd hsame hnone
        · exact hshorter

/-- Each pass but the last moves forward, so that the passes of the parser are enough. -/
theorem infoLoop_ends {fuel : Nat} {values : InfoValues} {space : Str}
    (h : space.length < fuel) : ∃ result, infoLoop fuel values space = some result := by
  induction fuel generalizing values space with
  | zero => omega
  | succ fuel ih =>
      rw [infoLoop]
      cases hpass : infoPass infoTable values space 0 with
      | error i => exact ⟨.error i, rfl⟩
      | ok reached =>
          obtain ⟨values', next⟩ := reached
          cases next with
          | none => exact ⟨.ok values', rfl⟩
          | some space' =>
              have hlt := infoPass_shorter hpass
              exact ih (by omega)

theorem infoStart_length (hvalue : Str) : (infoStart hvalue).2.length ≤ hvalue.length := by
  unfold infoStart
  split
  · next space hack hspace hhack =>
      split_ifs
      · exact (strchr_suffix hspace).length_le
      · exact le_refl _
  · exact le_refl _

theorem osipAuthenticationInfoParse_ends (hvalue : Str) :
    ∃ result, infoLoop (hvalue.length + 1) (fun _ => none) (infoStart hvalue).2 = some result :=
  infoLoop_ends (Nat.lt_succ_of_le (infoStart_length hvalue))

/-! ### What is printed -/

def setFields (values : InfoValues) (fields : List InfoField) : List (InfoField × Str) :=
  fields.filterMap fun field => (values field).map (field, ·)

/-- The fields, from the first name on. -/
def infoText : List (InfoField × Str) → Str
  | [] => []
  | (field, value) :: rest => field.name ++ '=' :: (value ++ afterValue (infoText rest))

theorem infoText_ne_nil (entry : InfoField × Str) (rest : List (InfoField × Str)) :
    infoText (entry :: rest) ≠ [] := by
  simp [infoText]

theorem infoText_eq_nil_iff {rest : List (InfoField × Str)} : infoText rest = [] ↔ rest = [] := by
  cases rest with
  | nil => exact iff_of_true rfl rfl
  | cons entry rest => exact iff_of_false (infoText_ne_nil entry rest) (List.cons_ne_nil _ _)

theorem InfoField.label_toList (field : InfoField) : field.label.toList = field.name ++ ['='] := by
  cases field <;> rfl

theorem setFields_none {values : InfoValues} {field : InfoField} (h : values field = none)
    (fields : List InfoField) : setFields values (field :: fields) = setFields values fields :=
  List.filterMap_cons_none (by rw [h]; rfl)

theorem setFields_some {values : InfoValues} {field : InfoField} {value : Str}
    (h : values field = some value) (fields : List InfoField) :
    setFields values (field :: fields) = (field, value) :: setFields values fields :=
  List.filterMap_cons_some (by rw [h]; rfl)

theorem labelled_fields (values : InfoValues) (fields : List InfoField) :
    labelled (fields.map fun field => (field.label, values field)) =
      (setFields values fields).map fun entry => entry.1.name ++ '=' :: entry.2 := by
  induction fields with
  | nil => rfl
  | cons field fields ih =>
      cases hvalue : values field with
      | none =>
          rw [setFields_none hvalue, ← ih]
          simp [labelled, hvalue]
      | some value =>
          rw [setFields_some hvalue, List.map_cons, List.map_cons, ← ih]
          simp [labelled, hvalue, InfoField.label_toList]

theorem intercalate_infoText (rest : List (InfoField × Str)) :
    List.intercalate ", ".toList (rest.map fun entry => entry.1.name ++ '=' :: entry.2) =
      infoText rest := by
  induction rest with
  | nil => rfl
  | cons entry rest ih =>
      obtain ⟨field, value⟩ := entry
      rw [List.map_cons, infoText, afterValue]
      by_cases hrest : rest = []
      · rw [if_pos (infoText_eq_nil_iff.2 hrest), hrest, List.map_nil,
          List.intercalate_singleton, List.append_nil]
      · rw [List.intercalate_cons_of_ne_nil (by simpa using hrest), ih,
          if_neg (mt infoText_eq_nil_iff.1 hrest)]
        simp

theorem osipAuthenticationInfoToStr_eq (ainfo : AuthenticationInfo) :
    osipAuthenticationInfoToStr ainfo =
      if ainfo.authType = none ∧ setFields ainfo.values infoPrinted = [] then
        .error osipBadparameter
      else .ok ((ainfo.authType.elim [] fun authType => authType ++ [' ']) ++
        infoText (setFields ainfo.values infoPrinted)) := by
  have hfields := labelled_fields ainfo.values infoPrinted
  have hprinted : osipAuthenticationInfoToStr ainfo =
      if ainfo.authType = none ∧
          labelled (infoPrinted.map fun field => (field.label, ainfo.values field)) = [] then
        .error osipBadparameter
      else .ok ((ainfo.authType.map fun authType => authType ++ [' ']).getD [] ++
        List.intercalate ", ".toList
          (labelled (infoPrinted.map fun field => (field.label, ainfo.values field)))) := rfl
  rw [hprinted, hfields, intercalate_infoText]
  simp only [List.map_eq_nil_iff]
  cases ainfo.authType with
  | none => rfl
  | some authType => rfl

/-! ### The length of the buffer -/

/-- What the field takes, with the comma and the space before it. -/
def InfoField.short (field : InfoField) : Nat :=
  if field = .nextnonce ∨ field = .opaqueValue then 1 else 0

theorem infoText_length (field : InfoField) (value : Str) (rest : List (InfoField × Str)) :
    (infoText ((field, value) :: rest)).length = field.name.length + 1 + value.length +
      if rest = [] then 0 else (infoText rest).length + 2 := by
  rw [infoText, afterValue]
  by_cases hrest : rest = []
  · rw [if_pos hrest, if_pos (infoText_eq_nil_iff.2 hrest)]
    simp
    omega
  · rw [if_neg hrest, if_neg (mt infoText_eq_nil_iff.1 hrest)]
    simp
    omega

theorem sum_setFields (values : InfoValues) (room : InfoField → Nat) (fields : List InfoField) :
    (fields.map fun field => (values field).elim 0 fun value => value.length + room field).sum =
      ((setFields values fields).map fun entry => entry.2.length + room entry.1).sum := by
  induction fields with
  | nil => rfl
  | cons field fields ih =>
      rw [List.map_cons, List.sum_cons, ih]
      cases hvalue : values field with
      | none =>
          rw [setFields_none hvalue, Option.elim_none, Nat.zero_add]
      | some value =>
          rw [setFields_some hvalue, List.map_cons, List.sum_cons, Option.elim_some]

/-- What is reckoned is two characters more than each field takes, but for two of them. -/
def infoRoomOf : InfoField → Nat
  | .nextnonce => 11
  | .rspauth => 10
  | .cnonce => 9
  | .nc => 5
  | .qop => 6
  | .snum => 7
  | .srand => 8
  | .targetname => 13
  | .realm => 8
  | .opaqueValue => 8

theorem infoRoomOf_eq (field : InfoField) :
    infoRoomOf field + field.short = field.name.length + 3 := by
  cases field <;> rfl

theorem sum_infoRoom (values : InfoValues) :
    (infoRoom.map fun entry => (values entry.1).elim 0 fun value => value.length + entry.2).sum =
      (infoPrinted.map fun field =>
        (values field).elim 0 fun value => value.length + infoRoomOf field).sum := by
  simp only [infoRoom, infoPrinted, List.map_cons, List.map_nil, List.sum_cons, List.sum_nil,
    infoRoomOf]
  omega

theorem sum_room {rest : List (InfoField × Str)} (hne : rest ≠ []) :
    (rest.map fun entry => entry.2.length + infoRoomOf entry.1).sum +
        (rest.map fun entry => entry.1.short).sum = (infoText rest).length + 2 := by
  induction rest with
  | nil => exact absurd rfl hne
  | cons entry rest ih =>
      obtain ⟨field, value⟩ := entry
      have hroom := infoRoomOf_eq field
      rw [infoText_length]
      simp only [List.map_cons, List.sum_cons]
      by_cases hrest : rest = []
      · subst hrest
        simp only [List.map_nil, List.sum_nil, if_pos]
        omega
      · have hsum := ih hrest
        rw [if_neg hrest]
        omega

theorem sum_short (values : InfoValues) :
    ((setFields values infoPrinted).map fun entry => entry.1.short).sum =
      (if values .nextnonce = none then 0 else 1) +
        if values .opaqueValue = none then 0 else 1 := by
  have hfields : ∀ fields : List InfoField,
      ((setFields values fields).map fun entry => entry.1.short).sum =
        (fields.map fun field => if values field = none then 0 else field.short).sum := by
    intro fields
    induction fields with
    | nil => rfl
    | cons field fields ih =>
        rw [List.map_cons, List.sum_cons, ← ih]
        cases hvalue : values field with
        | none => rw [setFields_none hvalue, if_pos rfl, Nat.zero_add]
        | some value =>
            rw [setFields_some hvalue, List.map_cons, List.sum_cons, if_neg (Option.some_ne_none _)]
  rw [hfields]
  simp [infoPrinted, InfoField.short]

theorem mem_infoPrinted (field : InfoField) : field ∈ infoPrinted := by
  cases field <;> decide

theorem setFields_eq_nil_iff {values : InfoValues} :
    setFields values infoPrinted = [] ↔ ∀ field, values field = none := by
  rw [setFields, List.filterMap_eq_nil_iff]
  simp only [Option.map_eq_none_iff, mem_infoPrinted, forall_const]

theorem fits_iff (ainfo : AuthenticationInfo) :
    ((ainfo.authType.elim [] fun authType => authType ++ [' ']) ++
        infoText (setFields ainfo.values infoPrinted)).length < osipAuthenticationInfoLength ainfo ↔
      ainfo.HasRoom := by
  have htype : (ainfo.authType.elim [] fun authType => authType ++ [' ']).length =
      ainfo.authType.elim 0 fun authType => authType.length + 1 := by
    cases ainfo.authType with
    | none => rfl
    | some authType => exact List.length_append
  rw [osipAuthenticationInfoLength, sum_infoRoom, sum_setFields, List.length_append, htype,
    Nat.add_lt_add_iff_left, AuthenticationInfo.HasRoom]
  by_cases hnone : setFields ainfo.values infoPrinted = []
  · rw [hnone]
    have hall := setFields_eq_nil_iff.1 hnone
    refine iff_of_false (Nat.lt_irrefl 0) fun hroom => ?_
    obtain ⟨field, hfield⟩ := hroom.1
    exact hfield (hall field)
  · have hsome : ∃ field, ainfo.values field ≠ none := by
      by_contra hall
      push Not at hall
      exact hnone (setFields_eq_nil_iff.2 hall)
    have hroom := sum_room hnone
    rw [sum_short] at hroom
    rw [and_iff_right hsome]
    have hnextnonce : ainfo.values .nextnonce = ainfo.nextnonce := rfl
    have hopaqueValue : ainfo.values .opaqueValue = ainfo.opaqueValue := rfl
    rw [hnextnonce, hopaqueValue] at hroom
    by_cases h1 : ainfo.nextnonce = none
    · rw [if_pos h1] at hroom
      refine iff_of_true ?_ (Or.inl h1)
      split_ifs at hroom <;> omega
    · by_cases h2 : ainfo.opaqueValue = none
      · rw [if_neg h1, if_pos h2] at hroom
        exact iff_of_true (by omega) (Or.inr h2)
      · rw [if_neg h1, if_neg h2] at hroom
        exact iff_of_false (by omega) fun hor => hor.elim h1 h2

/-! ### One field of the table -/

theorem InfoField.isFieldName (field : InfoField) : IsFieldName field.name :=
  ⟨by cases field <;> exact List.cons_ne_nil _ _,
    List.all_iff_forall_prop.1 (by cases field <;> rfl)⟩

theorem mem_infoTable (field : InfoField) : field ∈ infoTable := by
  cases field <;> decide

theorem InfoField.apart : ∀ field ∈ infoTable, ∀ other ∈ infoTable,
    field = other ∨ ¬ field.name.map tolower <+: (other.name ++ ['=']).map tolower ∧
      ¬ (other.name ++ ['=']).map tolower <+: field.name.map tolower := by
  decide +kernel

theorem InfoField.osipStrncasecmp_other {field other : InfoField} (hne : field ≠ other)
    (rest : Str) :
    osipStrncasecmp field.name (other.name ++ '=' :: rest) field.name.length = false := by
  obtain heq | ⟨hshorter, hlonger⟩ :=
    InfoField.apart field (mem_infoTable field) other (mem_infoTable other)
  · exact absurd heq hne
  · rw [← Bool.not_eq_true, osipStrncasecmp_eq_true_iff]
    intro hprefix
    have hother : (other.name ++ ['=']).map tolower <+:
        (other.name ++ '=' :: rest).map tolower :=
      List.IsPrefix.map tolower ⟨rest, by rw [List.append_assoc, List.singleton_append]⟩
    obtain h | h := List.prefix_or_prefix_of_prefix hprefix hother
    · exact hshorter h
    · exact hlonger h

section OneField

variable {field first : InfoField} {value : Str} {rest : List (InfoField × Str)} {lead : Str}

theorem set_of_isSome (kind : ValueKind) (name str value : Str) :
    kind.set name str (some value) = .ok (some value, some str) := by
  cases kind with
  | quotedString => rfl
  | token => rfl

theorem InfoField.set_first (hvalue : first.kind.IsValue value)
    (hlead : ∀ c ∈ lead, isFieldLead c = true)
    (hlong : first.kind = .token → 6 ≤ (lead ++ infoText ((first, value) :: rest)).length) :
    first.kind.set first.name (lead ++ infoText ((first, value) :: rest)) none =
      .ok (some value,
        if rest = [] then none else some (first.kind.separator ++ infoText rest)) := by
  rw [infoText] at hlong ⊢
  cases hkind : first.kind with
  | quotedString =>
      rw [hkind] at hvalue
      rw [ValueKind.set, osipQuotedStringSet_match first.isFieldName hlead hvalue,
        nextElement_afterValue, afterValue]
      simp only [infoText_eq_nil_iff]
      split_ifs with hlast
      · rfl
      · rfl
  | token =>
      rw [hkind] at hvalue
      have hnext : nextElement (afterValue (infoText rest)).tail =
          if rest = [] then none else some (infoText rest) := by
        cases rest with
        | nil => rfl
        | cons entry rest =>
            obtain ⟨next, value'⟩ := entry
            rw [afterValue, if_neg (infoText_ne_nil _ _), if_neg (List.cons_ne_nil _ _),
              List.tail_cons, infoText, nextElement_name next.isFieldName]
      rw [ValueKind.set, osipTokenSet_match first.isFieldName hlead hvalue _
        (delimited_afterValue _) (hlong hkind), hnext]
      rfl

theorem InfoField.set_other (hne : field ≠ first) (hlead : ∀ c ∈ lead, isFieldLead c = true)
    (hlong : field.kind = .token → 6 ≤ (lead ++ infoText ((first, value) :: rest)).length) :
    field.kind.set field.name (lead ++ infoText ((first, value) :: rest)) none =
      .ok (none, some (infoText ((first, value) :: rest))) := by
  rw [infoText] at hlong ⊢
  have hother := InfoField.osipStrncasecmp_other hne (value ++ afterValue (infoText rest))
  have hdrop := first.isFieldName.dropWhile_lead hlead
    ('=' :: (value ++ afterValue (infoText rest)))
  cases hkind : field.kind with
  | quotedString =>
      rw [ValueKind.set, osipQuotedStringSet]
      dsimp only
      rw [if_neg (by decide), hdrop, hother, if_neg Bool.false_ne_true]
  | token =>
      rw [ValueKind.set, osipTokenSet_other (by simp) (hlong hkind) (by rw [hdrop]; exact hother),
        hdrop]

theorem InfoField.set_short (hkind : field.kind = .token)
    (hshort : (lead ++ infoText ((first, value) :: rest)).length < 6) :
    field.kind.set field.name (lead ++ infoText ((first, value) :: rest)) none =
      .ok (none, none) := by
  rw [hkind]
  refine osipTokenSet_short ?_ hshort
  rw [infoText]
  simp

end OneField

/-! ### A pass -/

section Pass

variable {field first : InfoField} {value : Str} {rest : List (InfoField × Str)} {lead : Str}
  {values : InfoValues} {table back : List InfoField}

theorem infoFields_set {old : Str} (h : values field = some old) (space : Str) (parseOk : Nat) :
    infoFields (field :: table) values space parseOk = infoFields table values space parseOk := by
  have hupdate : Function.update values field (some old) = values := by
    rw [← h, Function.update_eq_self]
  rw [infoFields, h, set_of_isSome]
  dsimp only [bind, Except.bind]
  rw [hupdate, if_pos rfl]

theorem infoFields_other (h : values field = none) (hne : field ≠ first)
    (hlead : ∀ c ∈ lead, isFieldLead c = true)
    (hlong : field.kind = .token → 6 ≤ (lead ++ infoText ((first, value) :: rest)).length)
    (parseOk : Nat) :
    ∃ parseOk', parseOk ≤ parseOk' ∧
      infoFields (field :: table) values (lead ++ infoText ((first, value) :: rest)) parseOk =
        infoFields table values (infoText ((first, value) :: rest)) parseOk' := by
  have hupdate : Function.update values field none = values := by
    rw [← h, Function.update_eq_self]
  rw [infoFields, h, InfoField.set_other hne hlead hlong]
  dsimp only [bind, Except.bind]
  rw [hupdate]
  split_ifs with hsame
  · exact ⟨parseOk, le_refl _, by rw [← hsame]⟩
  · exact ⟨parseOk + 1, Nat.le_succ _, rfl⟩

theorem infoFields_short (h : values field = none) (hkind : field.kind = .token)
    (hshort : (lead ++ infoText ((first, value) :: rest)).length < 6) (parseOk : Nat) :
    infoFields (field :: table) values (lead ++ infoText ((first, value) :: rest)) parseOk =
      .ok (values, none) := by
  have hupdate : Function.update values field none = values := by
    rw [← h, Function.update_eq_self]
  rw [infoFields, h, InfoField.set_short hkind hshort]
  dsimp only [bind, Except.bind]
  rw [hupdate]

theorem infoFields_first (h : values first = none) (hvalue : first.kind.IsValue value)
    (hlead : ∀ c ∈ lead, isFieldLead c = true)
    (hlong : first.kind = .token → 6 ≤ (lead ++ infoText ((first, value) :: rest)).length)
    (parseOk : Nat) :
    infoFields (first :: table) values (lead ++ infoText ((first, value) :: rest)) parseOk =
      if rest = [] then .ok (Function.update values first (some value), none)
      else infoFields table (Function.update values first (some value))
        (first.kind.separator ++ infoText rest) (parseOk + 1) := by
  rw [infoFields, h, InfoField.set_first hvalue hlead hlong]
  dsimp only [bind, Except.bind]
  by_cases hrest : rest = []
  · rw [if_pos hrest, if_pos hrest]
  · have hname : 2 ≤ first.name.length := by
      cases first <;> decide
    have hseparator : first.kind.separator.length ≤ 2 := by
      cases first.kind <;> decide
    have hlength := infoText_length first value rest
    rw [if_neg hrest] at hlength
    rw [if_neg hrest, if_neg hrest]
    dsimp only
    rw [if_neg]
    intro hsame
    have hlengths := congrArg List.length hsame
    rw [List.length_append, List.length_append, hlength] at hlengths
    omega

theorem infoFields_skip {front : List InfoField} (hfront : first ∉ front)
    (hlong : ∀ field ∈ front, values field = none → field.kind = .token →
      6 ≤ (infoText ((first, value) :: rest)).length)
    (hlead : ∀ c ∈ lead, isFieldLead c = true) (parseOk : Nat) :
    ∃ lead' parseOk', (lead' = lead ∨ lead' = []) ∧
      ((∃ field ∈ front, values field = none) → lead' = []) ∧ parseOk ≤ parseOk' ∧
      infoFields (front ++ back) values (lead ++ infoText ((first, value) :: rest)) parseOk =
        infoFields back values (lead' ++ infoText ((first, value) :: rest)) parseOk' := by
  induction front generalizing lead parseOk with
  | nil =>
      refine ⟨lead, parseOk, Or.inl rfl, ?_, le_refl _, rfl⟩
      rintro ⟨field, hfield, -⟩
      cases hfield
  | cons field front ih =>
      rw [List.mem_cons, not_or] at hfront
      rw [List.forall_mem_cons] at hlong
      rw [List.cons_append]
      cases hvalue : values field with
      | some old =>
          rw [infoFields_set hvalue]
          obtain ⟨lead', parseOk', hsame, hgone, hle, heq⟩ :=
            ih hfront.2 hlong.2 hlead parseOk
          refine ⟨lead', parseOk', hsame, ?_, hle, heq⟩
          rintro ⟨field', hmem, hnone⟩
          obtain rfl | hmem := List.mem_cons.1 hmem
          · rw [hvalue] at hnone
            cases hnone
          · exact hgone ⟨field', hmem, hnone⟩
      | none =>
          have hnext := @infoFields_other field first value rest lead values (front ++ back)
            hvalue (Ne.symm hfront.1) hlead (fun hkind => by
              have hle := hlong.1 hvalue hkind
              rw [List.length_append]
              omega) parseOk
          obtain ⟨parseOk₁, hle₁, heq₁⟩ := hnext
          obtain ⟨lead', parseOk', hsame, hgone, hle, heq⟩ :=
            @ih [] hfront.2 hlong.2 (List.forall_mem_nil _) parseOk₁
          have hnil : lead' = [] := hsame.elim id id
          refine ⟨lead', parseOk', Or.inr hnil, fun _ => hnil, hle₁.trans hle, ?_⟩
          rw [heq₁]
          exact heq

end Pass

/-! ### The passes -/

/-- A pass that has come to `table`, and the passes after it. -/
def infoRest (fuel : Nat) (table : List InfoField) (values : InfoValues) (space : Str)
    (parseOk : Nat) : Option (Except Int InfoValues) :=
  match infoPass table values space parseOk with
  | .error i => some (.error i)
  | .ok (values, none) => some (.ok values)
  | .ok (values, some space) => infoLoop fuel values space

theorem infoLoop_succ (fuel : Nat) (values : InfoValues) (space : Str) :
    infoLoop (fuel + 1) values space = infoRest fuel infoTable values space 0 := rfl

def behind (field : InfoField) : List InfoField := (infoTable.dropWhile (· ≠ field)).tail

theorem infoTable_eq (field : InfoField) : ∃ front, infoTable = front ++ field :: behind field ∧
    field ∉ front := by
  refine ⟨infoTable.takeWhile (· ≠ field), ?_, ?_⟩
  · cases field <;> rfl
  · cases field <;> decide

theorem behind_eq (field other : InfoField) (h : other ∈ behind field) :
    ∃ front, behind field = front ++ other :: behind other ∧ other ∉ front := by
  refine ⟨(behind field).takeWhile (· ≠ other), ?_, ?_⟩
  · revert h
    cases field <;> cases other <;> decide
  · intro hmem
    have hne := List.mem_takeWhile_imp hmem
    simp at hne

section Rest

variable {field first : InfoField} {value : Str} {rest : List (InfoField × Str)} {lead : Str}
  {values : InfoValues} {table table' : List InfoField} {fuel parseOk : Nat}

theorem infoRest_congr {values' : InfoValues} {space space' : Str} {parseOk' : Nat}
    (h : infoFields table values space parseOk = infoFields table' values' space' parseOk') :
    infoRest fuel table values space parseOk = infoRest fuel table' values' space' parseOk' := by
  rw [infoRest, infoRest, infoPass, infoPass, h]

theorem infoRest_end {values' : InfoValues} {space : Str}
    (h : infoFields table values space parseOk = .ok (values', none)) :
    infoRest fuel table values space parseOk = some (.ok values') := by
  rw [infoRest, infoPass, h]
  rfl

theorem infoRest_nil {space : Str} (h : 0 < parseOk) :
    infoRest (fuel + 1) [] values space parseOk = infoRest fuel infoTable values space 0 := by
  rw [← infoLoop_succ, infoRest, infoPass, infoFields]
  dsimp only [bind, Except.bind]
  rw [if_neg (by omega)]

/-- Where a pass comes to this field: in the table that is left, or in the next pass. -/
def Waits (first : InfoField) (table : List InfoField) (parseOk : Nat) : Prop :=
  (∃ front, table = front ++ first :: behind first ∧ first ∉ front) ∨
    first ∉ table ∧ 0 < parseOk

theorem waits_infoTable (first : InfoField) (parseOk : Nat) : Waits first infoTable parseOk :=
  Or.inl (infoTable_eq first)

theorem waits_behind (field first : InfoField) (h : 0 < parseOk) :
    Waits first (behind field) parseOk := by
  by_cases hmem : first ∈ behind field
  · exact Or.inl (behind_eq field first hmem)
  · exact Or.inr ⟨hmem, h⟩

theorem infoRest_reaches (hwaits : Waits first table parseOk)
    (hlong : ∀ field, field ≠ first → values field = none → field.kind = .token →
      6 ≤ (infoText ((first, value) :: rest)).length)
    (hlead : ∀ c ∈ lead, isFieldLead c = true) :
    ∃ fuel' lead' parseOk', fuel ≤ fuel' ∧ (∀ c ∈ lead', isFieldLead c = true) ∧
      infoRest (fuel + 1) table values (lead ++ infoText ((first, value) :: rest)) parseOk =
        infoRest fuel' (first :: behind first) values
          (lead' ++ infoText ((first, value) :: rest)) parseOk' := by
  have hkeeps : ∀ {front : List InfoField} {lead : Str} (back : List InfoField) (parseOk : Nat),
      first ∉ front → (∀ c ∈ lead, isFieldLead c = true) →
      ∃ lead' parseOk', parseOk ≤ parseOk' ∧ (∀ c ∈ lead', isFieldLead c = true) ∧
        infoFields (front ++ back) values (lead ++ infoText ((first, value) :: rest)) parseOk =
          infoFields back values (lead' ++ infoText ((first, value) :: rest)) parseOk' := by
    intro front lead back parseOk hfront hlead
    obtain ⟨lead', parseOk', hsame, -, hle, heq⟩ := @infoFields_skip first value rest lead values
      back front hfront (fun field hmem => hlong field (fun h => hfront (h ▸ hmem))) hlead parseOk
    refine ⟨lead', parseOk', hle, ?_, heq⟩
    obtain rfl | rfl := hsame
    · exact hlead
    · exact List.forall_mem_nil _
  rcases hwaits with ⟨front, rfl, hfront⟩ | ⟨hnot, hpos⟩
  · obtain ⟨lead', parseOk', -, hlead', heq⟩ :=
      hkeeps (first :: behind first) parseOk hfront hlead
    exact ⟨fuel + 1, lead', parseOk', Nat.le_succ _, hlead', infoRest_congr heq⟩
  · -- the pass ends without the field, and the next one begins
    obtain ⟨lead₁, parseOk₁, hle, hlead₁, heq₁⟩ := hkeeps [] parseOk hnot hlead
    rw [List.append_nil] at heq₁
    obtain ⟨front, htable, hfront⟩ := infoTable_eq first
    obtain ⟨lead', parseOk', -, hlead', heq⟩ :=
      hkeeps (first :: behind first) 0 hfront hlead₁
    refine ⟨fuel, lead', parseOk', le_refl _, hlead', ?_⟩
    rw [infoRest_congr heq₁, infoRest_nil (by omega), htable]
    exact infoRest_congr heq

theorem infoRest_take (hwaits : Waits first table parseOk) (hnone : values first = none)
    (hvalue : first.kind.IsValue value) (hlong : 6 ≤ (infoText ((first, value) :: rest)).length)
    (hlead : ∀ c ∈ lead, isFieldLead c = true) :
    (rest = [] →
      infoRest (fuel + 1) table values (lead ++ infoText ((first, value) :: rest)) parseOk =
        some (.ok (Function.update values first (some value)))) ∧
    (rest ≠ [] → ∃ fuel' parseOk', fuel ≤ fuel' ∧ 0 < parseOk' ∧
      infoRest (fuel + 1) table values (lead ++ infoText ((first, value) :: rest)) parseOk =
        infoRest fuel' (behind first) (Function.update values first (some value))
          (first.kind.separator ++ infoText rest) parseOk') := by
  obtain ⟨fuel', lead', parseOk', hle, hlead', heq⟩ := @infoRest_reaches first value rest lead
    values table fuel parseOk hwaits (fun _ _ _ _ => hlong) hlead
  have htake := @infoFields_first first value rest lead' values (behind first) hnone hvalue hlead'
    (fun _ => by
      rw [List.length_append]
      omega) parseOk'
  constructor
  · intro hrest
    rw [if_pos hrest] at htake
    rw [heq, infoRest_end htake]
  · intro hrest
    rw [if_neg hrest] at htake
    exact ⟨fuel', parseOk' + 1, hle, Nat.succ_pos _, heq.trans (infoRest_congr htake)⟩

end Rest

/-! ### A run -/

/-- The values with those that were read. -/
def fillFields (values : InfoValues) : List (InfoField × Str) → InfoValues
  | [] => values
  | (field, value) :: rest => fillFields (Function.update values field (some value)) rest

theorem fillFields_append (values : InfoValues) (front rest : List (InfoField × Str)) :
    fillFields values (front ++ rest) = fillFields (fillFields values front) rest := by
  induction front generalizing values with
  | nil => rfl
  | cons entry front ih => exact ih _

theorem fillFields_setFields (read values : InfoValues) (fields : List InfoField)
    (field : InfoField) :
    fillFields read (setFields values fields) field =
      if field ∈ fields then (values field).or (read field) else read field := by
  induction fields generalizing read with
  | nil => rfl
  | cons first fields ih =>
      cases hvalue : values first with
      | none =>
          rw [setFields_none hvalue, ih]
          by_cases hsame : field = first
          · subst hsame
            simp [hvalue]
          · simp [hsame]
      | some value =>
          rw [setFields_some hvalue, fillFields, ih]
          by_cases hsame : field = first
          · subst hsame
            simp [hvalue]
          · simp [hsame]

theorem infoText_long (first : InfoField) {value : Str} (hvalue : value ≠ [])
    {rest : List (InfoField × Str)} (hrest : rest ≠ []) :
    6 ≤ (infoText ((first, value) :: rest)).length := by
  obtain ⟨entry, rest, rfl⟩ := List.exists_cons_of_ne_nil hrest
  obtain ⟨next, value'⟩ := entry
  have hname : ∀ field : InfoField, 2 ≤ field.name.length := by
    intro field
    cases field <;> decide
  have hfirst := hname first
  have hnext := hname next
  have hpos := List.length_pos_of_ne_nil hvalue
  rw [infoText_length, if_neg (List.cons_ne_nil _ _), infoText_length]
  split_ifs <;> omega

theorem ne_nil_of_isValue {kind : ValueKind} {value : Str} (h : kind.IsValue value) :
    value ≠ [] := by
  cases kind with
  | quotedString =>
      obtain ⟨content, rfl, -⟩ := h
      exact List.cons_ne_nil _ _
  | token => exact h.1

section Run

variable {first : InfoField} {value : Str} {rest : List (InfoField × Str)} {lead : Str}
  {values : InfoValues} {table : List InfoField} {fuel parseOk : Nat}

theorem infoRest_run {front : List (InfoField × Str)} {last : InfoField × Str}
    (hwaits : ∀ entry ∈ (front ++ [last]).head?, Waits entry.1 table parseOk)
    (hvalues : ∀ entry ∈ front ++ [last], entry.1.kind.IsValue entry.2)
    (hnone : ∀ entry ∈ front ++ [last], values entry.1 = none)
    (hnodup : ((front ++ [last]).map Prod.fst).Nodup) (hrest : rest ≠ [])
    (hlead : ∀ c ∈ lead, isFieldLead c = true) (hfuel : front.length < fuel) :
    ∃ fuel' parseOk', fuel ≤ fuel' + (front.length + 1) ∧ 0 < parseOk' ∧
      infoRest fuel table values (lead ++ infoText (front ++ last :: rest)) parseOk =
        infoRest fuel' (behind last.1) (fillFields values (front ++ [last]))
          (last.1.kind.separator ++ infoText rest) parseOk' := by
  induction front generalizing fuel table values lead parseOk with
  | nil =>
      obtain ⟨first, value⟩ := last
      obtain ⟨fuel, rfl⟩ := Nat.exists_eq_add_one_of_ne_zero (Nat.ne_zero_of_lt hfuel)
      have hvalue := hvalues (first, value) List.mem_cons_self
      obtain ⟨fuel', parseOk', hle, hpos, heq⟩ := (@infoRest_take first value rest lead
        values table fuel parseOk (hwaits (first, value) rfl)
        (hnone (first, value) List.mem_cons_self) hvalue
        (infoText_long first (ne_nil_of_isValue hvalue) hrest) hlead).2 hrest
      exact ⟨fuel', parseOk', by rw [List.length_nil]; omega, hpos, heq⟩
  | cons entry front ih =>
      obtain ⟨first, value⟩ := entry
      rw [List.cons_append, List.forall_mem_cons] at hvalues hnone
      rw [List.cons_append, List.map_cons, List.nodup_cons] at hnodup
      obtain ⟨fuel, rfl⟩ := Nat.exists_eq_add_one_of_ne_zero (Nat.ne_zero_of_lt hfuel)
      have hmore : front ++ last :: rest ≠ [] := by simp
      rw [List.length_cons] at hfuel
      obtain ⟨fuel₁, parseOk₁, hle₁, hpos₁, heq₁⟩ := (@infoRest_take first value
        (front ++ last :: rest) lead values table fuel parseOk (hwaits (first, value) rfl) hnone.1
        hvalues.1 (infoText_long first (ne_nil_of_isValue hvalues.1) hmore) hlead).2 hmore
      obtain ⟨fuel', parseOk', hle, hpos, heq⟩ := @ih first.kind.separator
        (Function.update values first (some value)) (behind first) fuel₁ parseOk₁
        (fun entry _ => waits_behind first entry.1 hpos₁) hvalues.2
        (fun entry hentry => by
          rw [Function.update_of_ne]
          · exact hnone.2 entry hentry
          · intro hsame
            have hmem : entry.1 ∈ (front ++ [last]).map Prod.fst := List.mem_map_of_mem hentry
            exact hnodup.1 (hsame ▸ hmem))
        hnodup.2 first.kind.separator_isFieldLead (by omega)
      refine ⟨fuel', parseOk', ?_, hpos, ?_⟩
      · rw [List.length_cons]
        omega
      · rw [List.cons_append, heq₁, heq]
        rfl

end Run

/-! ### The last field -/

section Last

variable {values read : InfoValues} {front rest : List (InfoField × Str)}
  {last : InfoField × Str} {lead : Str} {fuel parseOk : Nat}

theorem mem_setFields {fields : List InfoField} {entry : InfoField × Str}
    (h : entry ∈ setFields values fields) :
    entry.1 ∈ fields ∧ values entry.1 = some entry.2 := by
  rw [setFields, List.mem_filterMap] at h
  obtain ⟨field, hfield, hentry⟩ := h
  rw [Option.map_eq_some_iff] at hentry
  obtain ⟨value, hvalue, rfl⟩ := hentry
  exact ⟨hfield, hvalue⟩

theorem nodup_setFields {fields : List InfoField} (h : fields.Nodup) :
    ((setFields values fields).map Prod.fst).Nodup := by
  induction fields with
  | nil => exact List.nodup_nil
  | cons field fields ih =>
      rw [List.nodup_cons] at h
      cases hvalue : values field with
      | none =>
          rw [setFields_none hvalue]
          exact ih h.2
      | some value =>
          rw [setFields_some hvalue, List.map_cons, List.nodup_cons]
          refine ⟨fun hmem => ?_, ih h.2⟩
          obtain ⟨entry, hentry, hfield⟩ := List.mem_map.1 hmem
          have hmem := (mem_setFields hentry).1
          rw [show entry.1 = field from hfield] at hmem
          exact h.1 hmem

theorem fillFields_of_notMem {field : InfoField} (h : field ∉ front.map Prod.fst) :
    fillFields read front field = read field := by
  induction front generalizing read with
  | nil => rfl
  | cons entry front ih =>
      obtain ⟨first, value⟩ := entry
      rw [List.map_cons, List.mem_cons, not_or] at h
      rw [fillFields, ih h.2, Function.update_of_ne h.1]

theorem length_le_infoText (rest : List (InfoField × Str)) :
    rest.length ≤ (infoText rest).length := by
  induction rest with
  | nil => exact Nat.zero_le _
  | cons entry rest ih =>
      obtain ⟨field, value⟩ := entry
      rw [infoText_length, List.length_cons]
      split_ifs with hrest
      · rw [hrest, List.length_nil]
        omega
      · omega

theorem infoRest_start (hvalues : ∀ field, ∀ value ∈ values field, field.kind.IsValue value)
    (hprinted : setFields values infoPrinted = front ++ last :: rest) (hrest : rest ≠ [])
    (hlead : ∀ c ∈ lead, isFieldLead c = true)
    (hfuel : (setFields values infoPrinted).length ≤ fuel) :
    ∃ fuel' parseOk', 0 < parseOk' ∧ 0 < fuel' ∧
      infoRest fuel infoTable (fun _ => none)
          (lead ++ infoText (setFields values infoPrinted)) 0 =
        infoRest fuel' (behind last.1) (fillFields (fun _ => none) (front ++ [last]))
          (last.1.kind.separator ++ infoText rest) parseOk' := by
  have hsub : ∀ entry ∈ front ++ [last], entry ∈ setFields values infoPrinted := by
    intro entry hentry
    rw [hprinted]
    rw [List.mem_append, List.mem_singleton] at hentry
    rw [List.mem_append, List.mem_cons]
    exact hentry.imp_right Or.inl
  have hnodup : ((front ++ [last]).map Prod.fst).Nodup := by
    have hall := @nodup_setFields values infoPrinted (by decide)
    rw [hprinted, show front ++ last :: rest = (front ++ [last]) ++ rest by simp,
      List.map_append] at hall
    exact (List.nodup_append.1 hall).1
  have hpos := List.length_pos_of_ne_nil hrest
  rw [hprinted, List.length_append, List.length_cons] at hfuel
  obtain ⟨fuel', parseOk', hle, hparse, heq⟩ := @infoRest_run rest lead (fun _ => none) infoTable
    fuel 0 front last (fun entry _ => waits_infoTable entry.1 0)
    (fun entry hentry => hvalues entry.1 entry.2 (mem_setFields (hsub entry hentry)).2)
    (fun _ _ => rfl) hnodup hrest hlead (by omega)
  rw [← hprinted] at heq
  exact ⟨fuel', parseOk', hparse, by omega, heq⟩

theorem infoRest_of_long (hvalues : ∀ field, ∀ value ∈ values field, field.kind.IsValue value)
    (hprinted : setFields values infoPrinted = front ++ [last])
    (hlong : 6 ≤ (infoText [last]).length) (hlead : ∀ c ∈ lead, isFieldLead c = true)
    (hfuel : (setFields values infoPrinted).length ≤ fuel) :
    infoRest fuel infoTable (fun _ => none) (lead ++ infoText (setFields values infoPrinted)) 0 =
      some (.ok (fillFields (fun _ => none) (setFields values infoPrinted))) := by
  obtain ⟨field, value⟩ := last
  have hmem : (field, value) ∈ setFields values infoPrinted := by
    rw [hprinted]
    exact List.mem_append_right _ List.mem_cons_self
  have hvalue := hvalues field value (mem_setFields hmem).2
  obtain rfl | ⟨front, last, rfl⟩ := List.eq_nil_or_concat' front
  · rw [hprinted, List.nil_append] at hfuel ⊢
    obtain ⟨fuel, rfl⟩ := Nat.exists_eq_add_one_of_ne_zero
      (Nat.ne_zero_of_lt (Nat.lt_of_lt_of_le Nat.zero_lt_one hfuel))
    exact (infoRest_take (waits_infoTable field 0) rfl hvalue hlong hlead).1 rfl
  · obtain ⟨fuel', parseOk', hparse, hpos, heq⟩ := @infoRest_start values front
      [(field, value)] last lead fuel hvalues (by rw [hprinted, List.append_assoc]; rfl)
      (List.cons_ne_nil _ _) hlead hfuel
    obtain ⟨fuel', rfl⟩ := Nat.exists_eq_add_one_of_ne_zero (Nat.ne_zero_of_lt hpos)
    have hnodup := @nodup_setFields values infoPrinted (by decide)
    rw [hprinted, List.map_append] at hnodup
    have hnone : fillFields (fun _ => none) (front ++ [last]) field = none :=
      fillFields_of_notMem fun hmem =>
        (List.nodup_append.1 hnodup).2.2 field hmem field List.mem_cons_self rfl
    rw [heq, (infoRest_take (waits_behind last.1 field hparse) hnone hvalue hlong
      last.1.kind.separator_isFieldLead).1 rfl, hprinted,
      fillFields_append _ (front ++ [last]) [(field, value)]]
    rfl

theorem quoted_long {field : InfoField} {value : Str} (hkind : field.kind = .quotedString)
    (hvalue : field.kind.IsValue value) : 6 ≤ (infoText [(field, value)]).length := by
  rw [hkind] at hvalue
  have hlength := AuthorizationHeader.IsQuotedValue.length hvalue
  have hname : field.kind = .quotedString → 4 ≤ field.name.length := by
    cases field <;> decide
  have hname := hname hkind
  rw [infoText_length, if_pos rfl]
  omega

theorem infoRest_of_quoted {before fields after : List InfoField}
    (hvalues : ∀ field, ∀ value ∈ values field, field.kind.IsValue value)
    (hfields : infoPrinted = before ++ fields ++ after)
    (hquoted : ∀ field ∈ fields, field.kind = .quotedString)
    (hset : setFields values fields ≠ []) (hafter : setFields values after = [])
    (hlead : ∀ c ∈ lead, isFieldLead c = true)
    (hfuel : (setFields values infoPrinted).length ≤ fuel) :
    infoRest fuel infoTable (fun _ => none) (lead ++ infoText (setFields values infoPrinted)) 0 =
      some (.ok (fillFields (fun _ => none) (setFields values infoPrinted))) := by
  obtain ⟨front, last, hfront⟩ := (List.eq_nil_or_concat' (setFields values fields)).resolve_left
    hset
  have hmem : last ∈ setFields values fields := by
    rw [hfront]
    exact List.mem_append_right _ List.mem_cons_self
  have hlast := mem_setFields hmem
  apply @infoRest_of_long values (setFields values before ++ front) last lead fuel hvalues _
    (quoted_long (hquoted last.1 hlast.1) (hvalues last.1 last.2 hlast.2)) hlead hfuel
  rw [hfields, setFields, List.filterMap_append, List.filterMap_append, ← setFields, ← setFields,
    ← setFields, hafter, hfront, List.append_nil, List.append_assoc]

theorem infoRest_of_short {front back : List InfoField} {first : InfoField} {value : Str}
    (hquoted : ∀ field ∈ front, field.kind = .quotedString) (hfirst : first.kind = .token)
    (hread : read .nc = none) (hshort : (infoText [(first, value)]).length < 6)
    (hlead : ∀ c ∈ lead, isFieldLead c = true)
    (hgone : lead = [] ∨ ∃ field ∈ front, read field = none) :
    infoRest fuel (front ++ .nc :: back) read (lead ++ infoText [(first, value)]) parseOk =
      some (.ok read) := by
  have hnot : first ∉ front := by
    intro hmem
    have hkind := hquoted first hmem
    rw [hfirst] at hkind
    cases hkind
  obtain ⟨lead', parseOk', hsame, hnil, -, heq⟩ := @infoFields_skip first value [] lead read
    (.nc :: back) front hnot (fun field hmem _ hkind => by
      rw [hquoted field hmem] at hkind
      cases hkind) hlead parseOk
  have hlead' : lead' = [] := by
    rcases hgone with hgone | hgone
    · rw [hgone] at hsame
      exact hsame.elim id id
    · exact hnil hgone
  subst hlead'
  apply infoRest_end
  rw [heq]
  exact infoFields_short hread rfl hshort parseOk'

end Last

/-! ### What is read back -/

section ReadBack

variable {ainfo : AuthenticationInfo} {lead : Str} {fuel : Nat}

/-- The fields behind `nc`. -/
def behindNc : List InfoField := [.snum, .srand, .targetname, .realm, .opaqueValue]

theorem setFields_append (values : InfoValues) (fields others : List InfoField) :
    setFields values (fields ++ others) = setFields values fields ++ setFields values others :=
  List.filterMap_append

theorem setFields_eq_nil {values : InfoValues} {fields : List InfoField}
    (h : ∀ field ∈ fields, values field = none) : setFields values fields = [] := by
  rw [setFields, List.filterMap_eq_nil_iff]
  intro field hfield
  rw [h field hfield]
  rfl

theorem fillFields_printed (values : InfoValues) (field : InfoField) :
    fillFields (fun _ => none) (setFields values infoPrinted) field = values field := by
  rw [fillFields_setFields, if_pos (mem_infoPrinted field), Option.or_none]

def ReadsInfo (values : InfoValues) (fuel : Nat) (lead : Str) (all : Prop) : Prop :=
  ∃ read, infoRest fuel infoTable (fun _ => none)
      (lead ++ infoText (setFields values infoPrinted)) 0 = some (.ok read) ∧
    ((∀ field, read field = values field) ↔ all)

theorem readsInfo_all {values : InfoValues} {all : Prop}
    (h : infoRest fuel infoTable (fun _ => none) (lead ++ infoText (setFields values infoPrinted))
      0 = some (.ok (fillFields (fun _ => none) (setFields values infoPrinted)))) (hall : all) :
    ReadsInfo values fuel lead all :=
  ⟨_, h, iff_of_true (fillFields_printed values) hall⟩

theorem readsInfo_shortQop (h : ainfo.EndsWithQop) (hlead : ∀ c ∈ lead, isFieldLead c = true) :
    ReadsInfo ainfo.values fuel lead (¬ ainfo.EndsWithQop ∧ ¬ ainfo.EndsWithNc) := by
  obtain ⟨⟨c, hqop⟩, hothers⟩ := h
  have hprinted : setFields ainfo.values infoPrinted = [(.qop, [c])] := by
    have hrest : setFields ainfo.values infoPrinted.tail = [] :=
      setFields_eq_nil fun field hfield => hothers field (by
        rintro rfl
        revert hfield
        decide)
    rw [show infoPrinted = .qop :: infoPrinted.tail from rfl,
      setFields_some (show ainfo.values .qop = some [c] from hqop), hrest]
  refine ⟨fun _ => none, ?_, iff_of_false ?_ fun hboth => hboth.1 ⟨⟨c, hqop⟩, hothers⟩⟩
  · rw [hprinted]
    exact @infoRest_of_short _ lead fuel 0 [.nextnonce, .cnonce, .rspauth] _ .qop [c] (by decide)
      rfl rfl (show 5 < 6 by decide) hlead (Or.inr ⟨.nextnonce, by decide, rfl⟩)
  · intro hall
    have hlost := hall .qop
    rw [show ainfo.values .qop = some [c] from hqop] at hlost
    cases hlost

theorem infoPrinted_eq : infoPrinted = [.qop, .nextnonce, .rspauth, .cnonce] ++ .nc :: behindNc :=
  rfl

theorem setFields_nc {value : Str} (hnc : ainfo.nonceCount = some value)
    (hbehind : setFields ainfo.values behindNc = []) :
    setFields ainfo.values infoPrinted =
      setFields ainfo.values [.qop, .nextnonce, .rspauth, .cnonce] ++ [(.nc, value)] := by
  rw [infoPrinted_eq, setFields_append,
    setFields_some (show ainfo.values .nc = some value from hnc), hbehind]

theorem setFields_concat {values : InfoValues} {field : InfoField} {value : Str}
    (h : values field = some value) (fields : List InfoField) :
    setFields values (fields ++ [field]) = setFields values fields ++ [(field, value)] := by
  rw [setFields_append, setFields_some h]
  rfl

theorem setFields_concat_none {values : InfoValues} {field : InfoField} (h : values field = none)
    (fields : List InfoField) : setFields values (fields ++ [field]) = setFields values fields := by
  rw [setFields_append, setFields_none h]
  exact List.append_nil _

theorem infoText_nc_length (value : Str) : (infoText [(.nc, value)]).length = 3 + value.length := by
  rw [infoText_length, if_pos rfl]
  rfl

theorem infoRest_behind_short {read : InfoValues} {field : InfoField} {value : Str} {parseOk : Nat}
    (hfield : field ∈ [InfoField.qop, .nextnonce, .cnonce]) (hnc : read .nc = none)
    (hrspauth : read .rspauth = none) (hshort : (infoText [(.nc, value)]).length < 6)
    (hpos : 0 < parseOk) :
    infoRest (fuel + 1) (behind field) read (field.kind.separator ++ infoText [(.nc, value)])
      parseOk = some (.ok read) := by
  have hlost : ∀ {front back : List InfoField} {lead : Str} (fuel parseOk : Nat),
      (∀ field ∈ front, field.kind = .quotedString) → (∀ c ∈ lead, isFieldLead c = true) →
      .rspauth ∈ front → infoRest fuel (front ++ .nc :: back) read
        (lead ++ infoText [(.nc, value)]) parseOk = some (.ok read) :=
    fun fuel parseOk hquoted hlead hmem =>
      infoRest_of_short hquoted rfl hnc hshort hlead (Or.inr ⟨.rspauth, hmem, hrspauth⟩)
  simp only [List.mem_cons, List.not_mem_nil, or_false] at hfield
  rcases hfield with rfl | rfl | rfl
  · -- the pass ends, and the next one comes to `nc`
    obtain ⟨lead', parseOk', hsame, -, hle, heq⟩ := @infoFields_skip .nc value [] [] read []
      (behind .qop) (by decide) (fun field hfield _ hkind => by
        have hquoted : ∀ field ∈ behind .qop, field.kind = .quotedString := by decide
        rw [hquoted field hfield] at hkind
        cases hkind) (List.forall_mem_nil _) parseOk
    have hnil : lead' = [] := hsame.elim id id
    subst hnil
    rw [List.append_nil] at heq
    have hskip := @infoRest_congr read (behind .qop) [] (fuel + 1) parseOk read
      ([] ++ infoText [(.nc, value)]) ([] ++ infoText [(.nc, value)]) parseOk' heq
    have hnext := @hlost [.nextnonce, .cnonce, .rspauth] (behind .nc) [] fuel 0 (by decide)
      (List.forall_mem_nil _) (by decide)
    exact hskip.trans ((infoRest_nil (by omega)).trans hnext)
  · exact @hlost [.cnonce, .rspauth] (behind .nc) [',', ' '] (fuel + 1) parseOk (by decide)
      ValueKind.quotedString.separator_isFieldLead (by decide)
  · exact @hlost [.rspauth] (behind .nc) [',', ' '] (fuel + 1) parseOk (by decide)
      ValueKind.quotedString.separator_isFieldLead (by decide)

theorem infoRest_behind_rspauth {read : InfoValues} {field : InfoField} {value old : Str}
    {parseOk : Nat} (hfield : field ∈ [InfoField.rspauth, .cnonce]) (hnc : read .nc = none)
    (hrspauth : read .rspauth = some old) (hvalue : IsTokenValue value) :
    infoRest fuel (behind field) read (field.kind.separator ++ infoText [(.nc, value)]) parseOk =
      some (.ok (Function.update read .nc (some value))) := by
  have hlong : 6 ≤ ([',', ' '] ++ infoText [(.nc, value)]).length := by
    have hpos := List.length_pos_of_ne_nil hvalue.1
    rw [List.length_append, infoText_nc_length]
    simp only [List.length_cons, List.length_nil]
    omega
  have hfirst := @infoFields_first .nc value [] [',', ' '] read (behind .nc) hnc hvalue
    ValueKind.quotedString.separator_isFieldLead (fun _ => hlong) parseOk
  rw [if_pos rfl] at hfirst
  simp only [List.mem_cons, List.not_mem_nil, or_false] at hfield
  rcases hfield with rfl | rfl
  · exact infoRest_end hfirst
  · exact infoRest_end ((infoFields_set hrspauth _ parseOk).trans hfirst)

theorem fillFields_eq_none {values : InfoValues} {fields : List InfoField} {field : InfoField}
    (h : field ∉ fields ∨ values field = none) :
    fillFields (fun _ => none) (setFields values fields) field = none := by
  rw [fillFields_setFields]
  split_ifs with hmem
  · rw [h.resolve_left (not_not.2 hmem)]
    rfl
  · rfl

theorem readsInfo_shortNc (h : ainfo.WellFormed) (hends : ainfo.EndsWithNc)
    (hlead : ∀ c ∈ lead, isFieldLead c = true)
    (hfuel : (setFields ainfo.values infoPrinted).length ≤ fuel) :
    ReadsInfo ainfo.values fuel lead (¬ ainfo.EndsWithQop ∧ ¬ ainfo.EndsWithNc) := by
  obtain ⟨⟨value, hnc, hlength⟩, hrspauth, hbehind⟩ := id hends
  have hshort : (infoText [(.nc, value)]).length < 6 := by
    rw [infoText_nc_length]
    omega
  have hprinted := setFields_nc hnc (setFields_eq_nil hbehind)
  have hvalue : ainfo.values .nc = some value := hnc
  have hrspauth' : ainfo.values .rspauth = none := hrspauth
  -- whatever is read, `nc` is not
  have hlost : ∀ read : InfoValues, read .nc = none →
      infoRest fuel infoTable (fun _ => none)
        (lead ++ infoText (setFields ainfo.values infoPrinted)) 0 = some (.ok read) →
      ReadsInfo ainfo.values fuel lead (¬ ainfo.EndsWithQop ∧ ¬ ainfo.EndsWithNc) := by
    intro read hread heq
    refine ⟨read, heq, iff_of_false (fun hall => ?_) fun hboth => hboth.2 hends⟩
    rw [hall .nc, hvalue] at hread
    cases hread
  have hbefore : ∀ (fields : List InfoField) (field : InfoField) (value' : Str),
      field ∈ [InfoField.qop, .nextnonce, .cnonce] → ainfo.values field = some value' →
      .nc ∉ fields ++ [field] →
      setFields ainfo.values [.qop, .nextnonce, .rspauth, .cnonce] =
        setFields ainfo.values (fields ++ [field]) →
      ReadsInfo ainfo.values fuel lead (¬ ainfo.EndsWithQop ∧ ¬ ainfo.EndsWithNc) := by
    intro fields field value' hfield hset hnot hfields
    rw [hfields] at hprinted
    have hsplit := hprinted
    rw [setFields_concat hset, List.append_assoc] at hsplit
    obtain ⟨fuel', parseOk', hparse, hpos, heq⟩ := infoRest_start h.values hsplit
      (List.cons_ne_nil _ _) hlead hfuel
    obtain ⟨fuel', rfl⟩ := Nat.exists_eq_add_one_of_ne_zero (Nat.ne_zero_of_lt hpos)
    rw [← setFields_concat hset] at heq
    have hread := @fillFields_eq_none ainfo.values (fields ++ [field]) .nc (Or.inl hnot)
    apply hlost _ hread
    rw [heq]
    exact infoRest_behind_short hfield hread (fillFields_eq_none (Or.inr hrspauth')) hshort hparse
  cases hcnonce : ainfo.values .cnonce with
  | some value' =>
      exact hbefore [.qop, .nextnonce, .rspauth] .cnonce value' (by decide) hcnonce (by decide) rfl
  | none =>
      have hfirst : setFields ainfo.values [.qop, .nextnonce, .rspauth, .cnonce] =
          setFields ainfo.values [.qop, .nextnonce] :=
        (setFields_concat_none hcnonce [.qop, .nextnonce, .rspauth]).trans
          (setFields_concat_none hrspauth' [.qop, .nextnonce])
      cases hnextnonce : ainfo.values .nextnonce with
      | some value' =>
          exact hbefore [.qop] .nextnonce value' (by decide) hnextnonce (by decide) hfirst
      | none =>
          have hsecond := hfirst.trans (setFields_concat_none hnextnonce [.qop])
          cases hqop : ainfo.values .qop with
          | some value' => exact hbefore [] .qop value' (by decide) hqop (by decide) hsecond
          | none =>
              have hthird := hsecond.trans (setFields_none hqop [])
              rw [hthird] at hprinted
              apply hlost (fun _ => none) rfl
              rw [hprinted]
              exact @infoRest_of_short _ lead fuel 0 [.nextnonce, .cnonce, .rspauth] _ .nc value
                (by decide) rfl rfl hshort hlead (Or.inr ⟨.nextnonce, by decide, rfl⟩)

theorem infoRest_rspauth (h : ainfo.WellFormed) {value old : Str}
    (hnc : ainfo.nonceCount = some value) (hbehind : setFields ainfo.values behindNc = [])
    (hrspauth : ainfo.values .rspauth = some old) (hlead : ∀ c ∈ lead, isFieldLead c = true)
    (hfuel : (setFields ainfo.values infoPrinted).length ≤ fuel) :
    infoRest fuel infoTable (fun _ => none)
        (lead ++ infoText (setFields ainfo.values infoPrinted)) 0 =
      some (.ok (fillFields (fun _ => none) (setFields ainfo.values infoPrinted))) := by
  have hprinted := setFields_nc hnc hbehind
  have hvalue : IsTokenValue value := h.values .nc value hnc
  have hbefore : ∀ (fields : List InfoField) (field : InfoField) (value' : Str),
      field ∈ [InfoField.rspauth, .cnonce] → ainfo.values field = some value' →
      .nc ∉ fields ++ [field] → .rspauth ∈ fields ++ [field] →
      setFields ainfo.values [.qop, .nextnonce, .rspauth, .cnonce] =
        setFields ainfo.values (fields ++ [field]) →
      infoRest fuel infoTable (fun _ => none)
          (lead ++ infoText (setFields ainfo.values infoPrinted)) 0 =
        some (.ok (fillFields (fun _ => none) (setFields ainfo.values infoPrinted))) := by
    intro fields field value' hfield hset hnot hmem hfields
    rw [hfields] at hprinted
    have hsplit := hprinted
    rw [setFields_concat hset, List.append_assoc] at hsplit
    obtain ⟨fuel', parseOk', -, -, heq⟩ := infoRest_start h.values hsplit
      (List.cons_ne_nil _ _) hlead hfuel
    rw [← setFields_concat hset] at heq
    have hold : fillFields (fun _ => none) (setFields ainfo.values (fields ++ [field])) .rspauth =
        some old := by
      rw [fillFields_setFields, if_pos hmem, hrspauth]
      rfl
    have htake := @infoRest_behind_rspauth fuel' _ field value old parseOk' hfield
      (fillFields_eq_none (Or.inl hnot)) hold hvalue
    refine heq.trans (htake.trans ?_)
    rw [hprinted, fillFields_append]
    rfl
  cases hcnonce : ainfo.values .cnonce with
  | some value' =>
      exact hbefore [.qop, .nextnonce, .rspauth] .cnonce value' (by decide) hcnonce (by decide)
        (by decide) rfl
  | none =>
      exact hbefore [.qop, .nextnonce] .rspauth old (by decide) hrspauth (by decide) (by decide)
        (setFields_concat_none hcnonce [.qop, .nextnonce, .rspauth])

theorem readsInfo (h : ainfo.WellFormed) (hset : setFields ainfo.values infoPrinted ≠ [])
    (hlead : ∀ c ∈ lead, isFieldLead c = true)
    (hfuel : (setFields ainfo.values infoPrinted).length ≤ fuel) :
    ReadsInfo ainfo.values fuel lead (¬ ainfo.EndsWithQop ∧ ¬ ainfo.EndsWithNc) := by
  by_cases hqop : ainfo.EndsWithQop
  · exact readsInfo_shortQop hqop hlead
  by_cases hnc : ainfo.EndsWithNc
  · exact readsInfo_shortNc h hnc hlead hfuel
  refine readsInfo_all ?_ ⟨hqop, hnc⟩
  by_cases hbehind : setFields ainfo.values behindNc = []
  · cases hvalue : ainfo.nonceCount with
    | some value =>
        by_cases hlong : 3 ≤ value.length
        · exact infoRest_of_long h.values (setFields_nc hvalue hbehind)
            (by rw [infoText_nc_length]; omega) hlead hfuel
        · cases hrspauth : ainfo.values .rspauth with
          | some old => exact infoRest_rspauth h hvalue hbehind hrspauth hlead hfuel
          | none =>
              refine absurd ⟨⟨value, hvalue, by omega⟩, hrspauth, ?_⟩ hnc
              intro field hfield
              have hnone := List.filterMap_eq_nil_iff.1 hbehind field hfield
              exact Option.map_eq_none_iff.1 hnone
    | none =>
        have hnone : ainfo.values .nc = none := hvalue
        have hafter : setFields ainfo.values (.nc :: behindNc) = [] :=
          (setFields_none hnone behindNc).trans hbehind
        by_cases hquoted : setFields ainfo.values [.nextnonce, .rspauth, .cnonce] = []
        · have hall : setFields ainfo.values infoPrinted = setFields ainfo.values [.qop] := by
            rw [show infoPrinted = [.qop] ++ [.nextnonce, .rspauth, .cnonce] ++ .nc :: behindNc
              from rfl, setFields_append, setFields_append, hquoted, hafter, List.append_nil,
              List.append_nil]
          cases hvalue : ainfo.values .qop with
          | none => exact absurd (hall.trans (setFields_none hvalue [])) hset
          | some value =>
              have hprinted : setFields ainfo.values infoPrinted = [] ++ [(.qop, value)] :=
                hall.trans (setFields_some hvalue [])
              apply infoRest_of_long h.values hprinted _ hlead hfuel
              by_contra hshort
              rw [infoText_length, if_pos rfl] at hshort
              have hname : (InfoField.qop).name.length = 3 := rfl
              have hpos := List.length_pos_of_ne_nil (h.values .qop value hvalue).1
              obtain ⟨c, rfl⟩ := List.length_eq_one_iff.1 (show value.length = 1 by omega)
              refine hqop ⟨⟨c, hvalue⟩, ?_⟩
              intro field hne
              cases hfield : ainfo.values field with
              | none => rfl
              | some value' =>
                  have hmem : (field, value') ∈ setFields ainfo.values infoPrinted :=
                    List.mem_filterMap.2 ⟨field, mem_infoPrinted field, by rw [hfield]; rfl⟩
                  rw [hprinted, List.nil_append, List.mem_singleton] at hmem
                  exact absurd (congrArg Prod.fst hmem) hne
        · exact @infoRest_of_quoted ainfo.values lead fuel [.qop] _ _ h.values rfl (by decide)
            hquoted hafter hlead hfuel
  · exact @infoRest_of_quoted ainfo.values lead fuel [.qop, .nextnonce, .rspauth, .cnonce, .nc] _ []
      h.values rfl (by decide) hbehind rfl hlead hfuel

end ReadBack

/-! ### The round trip -/

namespace AuthenticationInfo

variable {ainfo : AuthenticationInfo}

def printedType (ainfo : AuthenticationInfo) : Str :=
  ainfo.authType.elim [] fun authType => authType ++ [' ']

theorem infoStart_printed (h : ainfo.WellFormed) (entry : InfoField × Str)
    (rest : List (InfoField × Str)) :
    ∃ lead, (∀ c ∈ lead, isFieldLead c = true) ∧
      infoStart (ainfo.printedType ++ infoText (entry :: rest)) =
        (ainfo.authType, lead ++ infoText (entry :: rest)) := by
  obtain ⟨field, value⟩ := entry
  have hname := field.isFieldName
  rw [infoText]
  generalize value ++ afterValue (infoText rest) = text
  cases htype : ainfo.authType with
  | none =>
      refine ⟨[], List.forall_mem_nil _, ?_⟩
      have hspace : ' ' ∉ field.name ++ ['='] := by
        rw [List.mem_append, List.mem_singleton, not_or]
        refine ⟨fun hmem => ?_, by decide⟩
        have hlead := (hname.plain _ hmem).1
        revert hlead
        decide
      have hfirst : strchr (field.name ++ '=' :: text) ' ' = strchr text ' ' := by
        rw [show field.name ++ '=' :: text = (field.name ++ ['=']) ++ text by simp]
        exact strchr_append hspace text
      rw [printedType, htype, Option.elim_none, List.nil_append, infoStart, hfirst,
        strchr_append hname.equals_notMem, strchr, if_pos rfl]
      cases hfound : strchr text ' ' with
      | none => rfl
      | some space =>
          have hle := (strchr_suffix hfound).length_le
          dsimp only
          rw [if_neg (by rw [List.length_cons]; omega)]
  | some authType =>
      obtain ⟨htoken, hequals⟩ := h.authType authType htype
      have hspace : ' ' ∉ authType := by
        intro hmem
        have hblank := (htoken.2 ' ' hmem).1
        revert hblank
        decide
      refine ⟨[' '], List.forall_mem_singleton.2 rfl, ?_⟩
      have hnot : '=' ∉ ' ' :: field.name := by
        rw [List.mem_cons, not_or]
        exact ⟨by decide, hname.equals_notMem⟩
      have htext : ainfo.printedType ++ (field.name ++ '=' :: text) =
          authType ++ ' ' :: (field.name ++ '=' :: text) := by
        rw [printedType, htype, Option.elim_some]
        simp
      have hhack : strchr (authType ++ ' ' :: (field.name ++ '=' :: text)) '=' =
          some ('=' :: text) := by
        rw [strchr_append hequals, ← List.cons_append, strchr_append hnot, strchr, if_pos rfl]
      rw [htext, infoStart, hhack, strchr_append hspace, strchr, if_pos rfl]
      dsimp only
      have hbehind : ('=' :: text).length < (' ' :: (field.name ++ '=' :: text)).length := by
        rw [List.length_cons, List.length_cons, List.length_append, List.length_cons]
        omega
      rw [if_pos hbehind, pointerDiff_append, osipStrncpy, List.take_left]
      rfl

theorem parse_eq_iff {hvalue : Str} {read : InfoValues}
    (hstart : (infoStart hvalue).1 = ainfo.authType)
    (hread : infoLoop (hvalue.length + 1) (fun _ => none) (infoStart hvalue).2 =
      some (.ok read)) :
    osipAuthenticationInfoParse hvalue = .ok ainfo ↔
      ∀ field, read field = ainfo.values field := by
  rw [osipAuthenticationInfoParse, hread, hstart]
  dsimp only [bind, Except.bind, Option.getD_some]
  constructor
  · intro heq field
    rw [← Except.ok.inj heq]
    cases field <;> rfl
  · intro hall
    obtain ⟨⟩ := ainfo
    simp only [hall, values]

theorem parse_printed (h : ainfo.WellFormed)
    (hset : setFields ainfo.values infoPrinted ≠ []) :
    osipAuthenticationInfoParse
        (ainfo.printedType ++ infoText (setFields ainfo.values infoPrinted)) = .ok ainfo ↔
      ¬ ainfo.EndsWithQop ∧ ¬ ainfo.EndsWithNc := by
  obtain ⟨entry, rest, hprinted⟩ := List.exists_cons_of_ne_nil hset
  obtain ⟨lead, hlead, hstart⟩ := infoStart_printed h entry rest
  rw [← hprinted] at hstart
  have hfuel : (setFields ainfo.values infoPrinted).length ≤
      (ainfo.printedType ++ infoText (setFields ainfo.values infoPrinted)).length := by
    have hle := length_le_infoText (setFields ainfo.values infoPrinted)
    rw [List.length_append]
    omega
  obtain ⟨read, hread, hiff⟩ := readsInfo h hset hlead hfuel
  rw [parse_eq_iff (congrArg Prod.fst hstart) (by rw [hstart]; exact hread), hiff]

/-- The round trip of Authentication-Info: something beside the type is printed, not both
`nextnonce` and `opaque`, and no short token stands at the end. -/
theorem printsAndParses_iff (ainfo : AuthenticationInfo) (h : ainfo.WellFormed) :
    ainfo.PrintsAndParses ↔
      ainfo.HasRoom ∧ ¬ ainfo.EndsWithQop ∧ ¬ ainfo.EndsWithNc := by
  have hsome : ¬ (ainfo.authType = none ∧ setFields ainfo.values infoPrinted = []) := by
    rintro ⟨htype, hnone⟩
    rcases h.isSet with hsome | ⟨field, hsome⟩
    · exact hsome htype
    · exact hsome (setFields_eq_nil_iff.1 hnone field)
  have htext : osipAuthenticationInfoToStr ainfo =
      .ok (ainfo.printedType ++ infoText (setFields ainfo.values infoPrinted)) := by
    rw [osipAuthenticationInfoToStr_eq, if_neg hsome]
    rfl
  have hsplit : ainfo.PrintsAndParses ↔
      (ainfo.printedType ++ infoText (setFields ainfo.values infoPrinted)).length <
          osipAuthenticationInfoLength ainfo ∧
        osipAuthenticationInfoParse
          (ainfo.printedType ++ infoText (setFields ainfo.values infoPrinted)) = .ok ainfo := by
    rw [PrintsAndParses, htext]
    simp only [Except.ok.injEq, exists_eq_left']
  rw [hsplit]
  have hroom : (ainfo.printedType ++ infoText (setFields ainfo.values infoPrinted)).length <
      osipAuthenticationInfoLength ainfo ↔ ainfo.HasRoom := fits_iff ainfo
  rw [hroom]
  constructor
  · rintro ⟨hfits, hparse⟩
    refine ⟨hfits, (parse_printed h fun hnone => ?_).1 hparse⟩
    obtain ⟨field, hfield⟩ := hfits.1
    exact hfield (setFields_eq_nil_iff.1 hnone field)
  · rintro ⟨hfits, hends⟩
    refine ⟨hfits, (parse_printed h fun hnone => ?_).2 hends⟩
    obtain ⟨field, hfield⟩ := hfits.1
    exact hfield (setFields_eq_nil_iff.1 hnone field)

/-- The fields of `nextnonce="a", nc=…, opaque="a"`. -/
def withNextnonce (nonceCount : Str) (opaqueValue : Option Str) : AuthenticationInfo :=
  { authType := none, nextnonce := some "\"a\"".toList, rspauth := none, cnonce := none
    nonceCount := some nonceCount, qopOptions := none, snum := none, srand := none
    targetname := none, realm := none, opaqueValue }

theorem withNextnonce_wellFormed {nonceCount : Str} {opaqueValue : Option Str}
    (hnc : IsTokenValue nonceCount) (hopaqueValue : ∀ value ∈ opaqueValue, IsQuotedValue value) :
    (withNextnonce nonceCount opaqueValue).WellFormed := by
  have hquoted : IsQuotedValue "\"a\"".toList :=
    AuthorizationHeader.isQuotedValue_of_notMem (List.cons_ne_nil 'a' []) (by decide) (by decide)
  refine ⟨fun authType htype => absurd htype (Option.not_mem_none authType), ?_,
    Or.inr ⟨.nextnonce, Option.some_ne_none _⟩⟩
  intro field value hvalue
  cases field with
  | nextnonce =>
      cases Option.mem_some.1 hvalue
      exact hquoted
  | nc =>
      cases Option.mem_some.1 hvalue
      exact hnc
  | opaqueValue => exact hopaqueValue value hvalue
  | _ => cases hvalue

theorem isTokenValue_count : IsTokenValue "00000001".toList :=
  ⟨List.cons_ne_nil '0' _, List.all_iff_forall_prop.1 rfl⟩

theorem printsAndParses_iff_withNextnonce :
    (withNextnonce "00000001".toList none).PrintsAndParses ↔
      (withNextnonce "00000001".toList none).HasRoom ∧
        ¬ (withNextnonce "00000001".toList none).EndsWithQop ∧
        ¬ (withNextnonce "00000001".toList none).EndsWithNc :=
  printsAndParses_iff _ (withNextnonce_wellFormed isTokenValue_count fun value hvalue =>
    absurd hvalue (Option.not_mem_none value))

/-- `nextnonce` and `opaque` together: the NUL is written behind the buffer. -/
theorem not_printsAndParses :
    ¬ ∀ ainfo : AuthenticationInfo, ainfo.WellFormed → ainfo.PrintsAndParses := by
  intro h
  have hquoted : IsQuotedValue "\"a\"".toList :=
    AuthorizationHeader.isQuotedValue_of_notMem (List.cons_ne_nil 'a' []) (by decide) (by decide)
  obtain ⟨text, htext, hfits, -⟩ := h (withNextnonce "00000001".toList (some "\"a\"".toList))
    (withNextnonce_wellFormed isTokenValue_count fun value hvalue => by
      cases Option.mem_some.1 hvalue
      exact hquoted)
  cases Except.ok.inj htext
  revert hfits
  decide

end AuthenticationInfo

end Exosip
