import Mathlib.Data.List.DropRight
import Exosip.Parser.Serialise
import Exosip.Parser.Quote

/-! `osip_www_authenticate_parse` and `osip_authorization_parse`: every pass tries each field of
a table at the position `space`, and what none of them takes is skipped to the next comma. -/
namespace Exosip

open CString

/-- The names of the parameters that the two parsers know. -/
inductive AuthField where
  | username | realm | domain | nonce | uri | response | digest | algorithm | cnonce | opaqueValue
  | stale | qop | nc | version | targetname | gssapiData | crand | cnum
  deriving DecidableEq, Repr

def AuthField.name : AuthField → Str
  | .username => "username".toList
  | .realm => "realm".toList
  | .domain => "domain".toList
  | .nonce => "nonce".toList
  | .uri => "uri".toList
  | .response => "response".toList
  | .digest => "digest".toList
  | .algorithm => "algorithm".toList
  | .cnonce => "cnonce".toList
  | .opaqueValue => "opaque".toList
  | .stale => "stale".toList
  | .qop => "qop".toList
  | .nc => "nc".toList
  | .version => "version".toList
  | .targetname => "targetname".toList
  | .gssapiData => "gssapi-data".toList
  | .crand => "crand".toList
  | .cnum => "cnum".toList

/-- Which of the two functions reads the value. -/
inductive ValueKind where
  | quotedString | token
  deriving DecidableEq, Repr

abbrev AuthTable := List (AuthField × ValueKind)

abbrev AuthValues := AuthField → Option Str

/-! ### One field -/

/-- The blanks and commas before a name. -/
def isFieldLead (c : Char) : Bool := c == ' ' || c == '\t' || c == ','

def isTabOrSpace (c : Char) : Bool := c == ' ' || c == '\t'

def isLineEnd (c : Char) : Bool := c == '\n' || c == '\r'

def nextElement (tmp : Str) : Option Str :=
  let tmp := (tmp.dropWhile isTabOrSpace).dropWhile isLineEnd
  if tmp = [] then none
  else if ¬ tmp.head?.any isTabOrSpace then some tmp
  else
    let tmp := tmp.dropWhile isTabOrSpace
    if tmp = [] then none else some tmp

/-- `__osip_quoted_string_set`: the new result and `next`. -/
def osipQuotedStringSet (name str : Str) (result : Option Str) :
    Except Int (Option Str × Option Str) :=
  if result.isSome then .ok (result, some str)
  else
    let str := str.dropWhile isFieldLead
    if osipStrncasecmp name str name.length then
      match strchr str '=' with
      | none => .error osipSyntaxerror
      | some hack =>
          -- the blanks before the '=' do not belong to the name
          let hack := (osipStrncpy str (pointerDiff hack str)).rdropWhile (· == ' ')
          if hack.length ≠ name.length then .ok (none, some str)
          else
            match osipQuoteFind str with
            | none => .error osipSyntaxerror
            | some quote1 =>
                match osipQuoteFind quote1.tail with
                | none => .error osipSyntaxerror
                | some quote2 =>
                    -- an empty quoted string is forgotten
                    if pointerDiff quote2 quote1 = 1 then .ok (none, nextElement quote2.tail)
                    else
                      .ok (some (osipStrncpy quote1 (pointerDiff quote2 quote1 + 1)),
                        nextElement quote2.tail)
    else .ok (none, some str)

/-- `__osip_token_set`: the value begins behind the first '=' of all that is left. -/
def osipTokenSet (name str : Str) (result : Option Str) : Except Int (Option Str × Option Str) :=
  if result.isSome then .ok (result, some str)
  else
    match strchr str '=' with
    | none => .error osipSyntaxerror
    | some beg =>
        if str.length < 6 then .ok (none, none)
        else
          let str := str.dropWhile isFieldLead
          if osipStrncasecmp name str name.length then
            let endOfValue := (strchr str ',').getD []
            if pointerDiff endOfValue beg < 2 then .error osipSyntaxerror
            else
              .ok (some (osipClrncpy beg.tail (pointerDiff endOfValue beg - 1)),
                nextElement endOfValue.tail)
          else .ok (none, some str)

def ValueKind.set : ValueKind → Str → Str → Option Str → Except Int (Option Str × Option Str)
  | .quotedString => osipQuotedStringSet
  | .token => osipTokenSet

/-! ### One pass -/

/-- The fields of the table one after the other; nothing is left when `next` is NULL. -/
def parseFields : AuthTable → AuthValues → Str → Nat → Except Int (AuthValues × Option (Str × Nat))
  | [], values, space, parseOk => .ok (values, some (space, parseOk))
  | (field, kind) :: table, values, space, parseOk => do
      let (result, next) ← kind.set field.name space (values field)
      let values := Function.update values field result
      match next with
      | none => .ok (values, none)
      | some next =>
          if next = space then parseFields table values space parseOk
          else parseFields table values next (parseOk + 1)

/-- The parameter that is not understood is bypassed; its quoted value may hold the comma. -/
def bypass (space : Str) : Except Int (Option Str) :=
  if space.length < 1 then .ok none
  else
    match strchr space.tail ',' with
    | none => .ok none
    | some tmp =>
        match osipQuoteFind space with
        | none => .ok (some tmp)
        | some quote1 =>
            if tmp.length < quote1.length then
              match osipQuoteFind quote1.tail with
              | none => .error osipSyntaxerror
              | some quote2 =>
                  if quote2.length < tmp.length then .ok (strchr quote2 ',') else .ok (some tmp)
            else .ok (some tmp)

/-- The body of the `for (;;)`: the values and where the next pass begins, if there is one. -/
def authPass (table : AuthTable) (values : AuthValues) (space : Str) :
    Except Int (AuthValues × Option Str) := do
  let (values, next) ← parseFields table values space 0
  match next with
  | none => .ok (values, none)
  | some (space, parseOk) =>
      if parseOk = 0 then do
        let space ← bypass space
        .ok (values, space)
      else .ok (values, some space)

/-- The `for (;;)`; `none` when `fuel` passes were not enough. -/
def authLoop (table : AuthTable) : Nat → AuthValues → Str → Option (Except Int AuthValues)
  | 0, _, _ => none
  | fuel + 1, values, space =>
      match authPass table values space with
      | .error i => some (.error i)
      | .ok (values, none) => some (.ok values)
      | .ok (values, some space) => authLoop table fuel values space

def authParse (table : AuthTable) (fuel : Nat) (hvalue : Str) :
    Option (Except Int (Str × AuthValues)) :=
  match strchr hvalue ' ' with
  | none => some (.error osipSyntaxerror)
  | some space =>
      if pointerDiff space hvalue < 1 then some (.error osipSyntaxerror)
      else
        (authLoop table fuel (fun _ => none) space).map
          (Except.map ((osipStrncpy hvalue (pointerDiff space hvalue), ·)))

/-! ### The two parsers -/

def wwwAuthenticateTable : AuthTable :=
  [(.realm, .quotedString), (.domain, .quotedString), (.nonce, .quotedString),
    (.opaqueValue, .quotedString), (.stale, .token), (.algorithm, .token), (.qop, .quotedString),
    (.version, .token), (.targetname, .quotedString), (.gssapiData, .quotedString)]

def authorizationTable : AuthTable :=
  [(.username, .quotedString), (.realm, .quotedString), (.nonce, .quotedString),
    (.uri, .quotedString), (.response, .quotedString), (.digest, .quotedString),
    (.algorithm, .token), (.cnonce, .quotedString), (.opaqueValue, .quotedString), (.qop, .token),
    (.nc, .token), (.version, .token), (.targetname, .quotedString), (.gssapiData, .quotedString),
    (.crand, .quotedString), (.cnum, .quotedString)]

/-- The passes are as many as the characters at most. -/
def authFields (table : AuthTable) (hvalue : Str) : Except Int (Str × AuthValues) :=
  (authParse table (hvalue.length + 1) hvalue).getD (.error osipUndefinedError)

def osipWwwAuthenticateParse (hvalue : Str) : Except Int WwwAuthenticate := do
  let (authType, values) ← authFields wwwAuthenticateTable hvalue
  .ok
    { authType := some authType
      realm := values .realm
      domain := values .domain
      nonce := values .nonce
      opaqueValue := values .opaqueValue
      stale := values .stale
      algorithm := values .algorithm
      qopOptions := values .qop
      version := values .version
      targetname := values .targetname
      gssapiData := values .gssapiData }

def osipAuthorizationParse (hvalue : Str) : Except Int AuthorizationHeader := do
  let (authType, values) ← authFields authorizationTable hvalue
  .ok
    { authType := some authType
      username := values .username
      realm := values .realm
      nonce := values .nonce
      uri := values .uri
      response := values .response
      algorithm := values .algorithm
      cnonce := values .cnonce
      opaqueValue := values .opaqueValue
      messageQop := values .qop
      nonceCount := values .nc
      digest := values .digest
      version := values .version
      targetname := values .targetname
      gssapiData := values .gssapiData
      crand := values .crand
      cnum := values .cnum }

/-! ### The loops end -/

theorem length_lt_of_suffix {s t : Str} (h : t <:+ s) (hne : t ≠ s) : t.length < s.length :=
  lt_of_le_of_ne h.length_le fun hlength => hne (h.eq_of_length hlength)

theorem nextElement_suffix {tmp next : Str} (h : nextElement tmp = some next) : next <:+ tmp := by
  have hskip : (tmp.dropWhile isTabOrSpace).dropWhile isLineEnd <:+ tmp :=
    (List.dropWhile_suffix _).trans (List.dropWhile_suffix _)
  unfold nextElement at h
  dsimp only at h
  split_ifs at h with hnil hblank hrest
  · cases h
    exact (List.dropWhile_suffix _).trans hskip
  · cases h
    exact hskip

/-- A field moves `next` forward in the string or leaves it where it is. -/
theorem osipQuotedStringSet_suffix {name str next : Str} {result result' : Option Str}
    (h : osipQuotedStringSet name str result = .ok (result', some next)) : next <:+ str := by
  have hlead : str.dropWhile isFieldLead <:+ str := List.dropWhile_suffix _
  unfold osipQuotedStringSet at h
  dsimp only at h
  split_ifs at h with hset hname
  · cases h
    exact List.suffix_refl str
  · split at h
    · cases h
    · split_ifs at h with hhack
      · cases h
        exact hlead
      · split at h
        · cases h
        · next quote1 hquote1 =>
            split at h
            · cases h
            · next quote2 hquote2 =>
                have hvalue : quote2.tail <:+ str :=
                  ((List.tail_suffix _).trans (osipQuoteFind_suffix hquote2)).trans
                    (((List.tail_suffix _).trans (osipQuoteFind_suffix hquote1)).trans hlead)
                split_ifs at h with hempty
                · exact (nextElement_suffix (Prod.mk.inj (Except.ok.inj h)).2).trans hvalue
                · exact (nextElement_suffix (Prod.mk.inj (Except.ok.inj h)).2).trans hvalue
  · cases h
    exact hlead

theorem osipTokenSet_suffix {name str next : Str} {result result' : Option Str}
    (h : osipTokenSet name str result = .ok (result', some next)) : next <:+ str := by
  have hlead : str.dropWhile isFieldLead <:+ str := List.dropWhile_suffix _
  unfold osipTokenSet at h
  dsimp only at h
  by_cases hset : result.isSome = true
  · rw [if_pos hset] at h
    cases h
    exact List.suffix_refl str
  · rw [if_neg hset] at h
    split at h
    · cases h
    · split_ifs at h with hshort hname hvalue
      · cases h
      · have hend : (strchr (str.dropWhile isFieldLead) ',').getD [] <:+ str := by
          cases hcomma : strchr (str.dropWhile isFieldLead) ',' with
          | none => exact List.nil_suffix
          | some endOfValue => exact (strchr_suffix hcomma).trans hlead
        exact (nextElement_suffix (Prod.mk.inj (Except.ok.inj h)).2).trans
          ((List.tail_suffix _).trans hend)
      · cases h
        exact hlead

theorem ValueKind.set_suffix {kind : ValueKind} {name str next : Str} {result result' : Option Str}
    (h : kind.set name str result = .ok (result', some next)) : next <:+ str := by
  cases kind with
  | quotedString => exact osipQuotedStringSet_suffix h
  | token => exact osipTokenSet_suffix h

theorem parseFields_suffix {table : AuthTable} {values values' : AuthValues} {space space' : Str}
    {parseOk parseOk' : Nat}
    (h : parseFields table values space parseOk = .ok (values', some (space', parseOk'))) :
    space' <:+ space ∧ (parseOk' = parseOk ∧ space' = space ∨
      parseOk < parseOk' ∧ space'.length < space.length) := by
  induction table generalizing values space parseOk with
  | nil =>
      cases h
      exact ⟨List.suffix_refl _, Or.inl ⟨rfl, rfl⟩⟩
  | cons entry table ih =>
      obtain ⟨field, kind⟩ := entry
      rw [parseFields, exists_ok_bind] at h
      obtain ⟨⟨result, next⟩, hset, h⟩ := h
      cases next with
      | none => cases h
      | some next =>
          have hnext := ValueKind.set_suffix hset
          dsimp only at h
          split_ifs at h with hsame
          · exact ih h
          · obtain ⟨hsuffix, hmoved⟩ := ih h
            have hlt := length_lt_of_suffix hnext hsame
            have hle := hsuffix.length_le
            exact ⟨hsuffix.trans hnext, Or.inr ⟨by omega, by omega⟩⟩

theorem bypass_suffix {space space' : Str} (h : bypass space = .ok (some space')) :
    space' <:+ space ∧ space'.length < space.length := by
  unfold bypass at h
  split_ifs at h with hempty
  · cases h
  have htail : space.tail.length < space.length := by
    rw [List.length_tail]
    omega
  split at h
  · cases h
  · next tmp htmp =>
      have hcomma : tmp <:+ space ∧ tmp.length < space.length :=
        ⟨(strchr_suffix htmp).trans (List.tail_suffix space),
          (strchr_suffix htmp).length_le.trans_lt htail⟩
      split at h
      · cases h
        exact hcomma
      · next quote1 hquote1 =>
          split_ifs at h with hbefore
          · split at h
            · cases h
            · next quote2 hquote2 =>
                split_ifs at h with hinside
                · -- the comma behind the quotes that hold the first one
                  have hend := strchr_suffix (Except.ok.inj h)
                  have hquoted := osipQuoteFind_suffix hquote2
                  have hfirst := (List.tail_suffix quote1).trans (osipQuoteFind_suffix hquote1)
                  have hle := hend.length_le
                  exact ⟨hend.trans (hquoted.trans hfirst), by omega⟩
                · cases h
                  exact hcomma
          · cases h
            exact hcomma

theorem authPass_suffix {table : AuthTable} {values values' : AuthValues} {space space' : Str}
    (h : authPass table values space = .ok (values', some space')) :
    space' <:+ space ∧ space'.length < space.length := by
  rw [authPass, exists_ok_bind] at h
  obtain ⟨⟨parsed, next⟩, hfields, h⟩ := h
  cases next with
  | none => cases h
  | some next =>
      obtain ⟨reached, parseOk⟩ := next
      obtain ⟨hsuffix, hmoved⟩ := parseFields_suffix hfields
      dsimp only at h
      split_ifs at h with hnone
      · rw [exists_ok_bind] at h
        obtain ⟨bypassed, hbypass, h⟩ := h
        obtain ⟨rfl, rfl⟩ := Prod.mk.inj (Except.ok.inj h)
        obtain ⟨hbehind, hlt⟩ := bypass_suffix hbypass
        have hle := hsuffix.length_le
        exact ⟨hbehind.trans hsuffix, by omega⟩
      · obtain ⟨rfl, hreached⟩ := Prod.mk.inj (Except.ok.inj h)
        cases hreached
        exact ⟨hsuffix, by omega⟩

theorem authLoop_ends {table : AuthTable} {fuel : Nat} {values : AuthValues} {space : Str}
    (h : space.length < fuel) : ∃ result, authLoop table fuel values space = some result ∧
      ∀ more, authLoop table (fuel + more) values space = some result := by
  induction fuel generalizing values space with
  | zero => omega
  | succ fuel ih =>
      have hadd : ∀ more, fuel + 1 + more = (fuel + more) + 1 := by omega
      simp only [hadd, authLoop]
      cases hpass : authPass table values space with
      | error i => exact ⟨.error i, rfl, fun _ => rfl⟩
      | ok reached =>
          obtain ⟨values', next⟩ := reached
          cases next with
          | none => exact ⟨.ok values', rfl, fun _ => rfl⟩
          | some space' =>
              have hlt := (authPass_suffix hpass).2
              exact ih (by omega)

/-- Both loops end: every pass but the last moves forward within the string, so that as many
passes as the value has characters are enough, and more of them change nothing. -/
theorem auth_loops_end :
    ∀ table ∈ [wwwAuthenticateTable, authorizationTable],
      (∀ values space values' space', authPass table values space = .ok (values', some space') →
        space' <:+ space ∧ space'.length < space.length) ∧
      ∀ hvalue, ∃ result, ∀ fuel, hvalue.length < fuel → authParse table fuel hvalue = some result := by
  intro table _
  refine ⟨fun values space values' space' h => authPass_suffix h, fun hvalue => ?_⟩
  unfold authParse
  cases hspace : strchr hvalue ' ' with
  | none => exact ⟨_, fun _ _ => rfl⟩
  | some space =>
      dsimp only
      split_ifs with htype
      · exact ⟨_, fun _ _ => rfl⟩
      · have hle := (strchr_suffix hspace).length_le
        obtain ⟨result, -, hmore⟩ :=
          @authLoop_ends table (space.length + 1) (fun _ => none) space (Nat.lt_succ_self _)
        refine ⟨result.map (osipStrncpy hvalue (pointerDiff space hvalue), ·), fun fuel hfuel => ?_⟩
        have hfuel' : fuel = space.length + 1 + (fuel - (space.length + 1)) := by omega
        rw [hfuel', hmore, Option.map_some]

theorem wwwAuthenticate_loop_ends :
    ∃ result, ∀ fuel, "Digest realm=\"a\"".toList.length < fuel →
      authParse wwwAuthenticateTable fuel "Digest realm=\"a\"".toList = some result :=
  (auth_loops_end wwwAuthenticateTable List.mem_cons_self).2 _

end Exosip
