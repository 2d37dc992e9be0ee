import Exosip.Parser.UriParts

/-! A SIP URI is printed and read back: the parser finds the parts by their delimiters. -/
namespace Exosip

open CString

/-! ### The part behind the user -/

def portToStr (port : Option Str) : Str := (port.map fun port => ':' :: port).getD []

theorem notMem_bracketed {c : Char} {host : Str} (h : c ∉ host) (hopen : c ≠ '[')
    (hclose : c ≠ ']') : c ∉ bracketed host := by
  unfold bracketed
  split_ifs
  · simp [h, hopen, hclose]
  · exact h

theorem notMem_portToStr {c : Char} {port : Option Str} (h : ∀ number ∈ port, IsPort number)
    (hcolon : c ≠ ':') (hdigit : c.isDigit = false) : c ∉ portToStr port := by
  cases port with
  | none => exact List.not_mem_nil
  | some number =>
      rw [portToStr, Option.map_some, Option.getD_some, List.mem_cons, not_or]
      exact ⟨hcolon, fun hc => (h number rfl).ne hc hdigit rfl⟩

section HostPart

variable {sep : Char} {host : Str} {port : Option Str} {params headers : List GenericParam}

theorem notMem_uriParams {c : Char} (hc : c = '?' ∨ c = '@')
    (h : ∀ param ∈ params, IsUriParam param) : c ∉ params.flatMap uriParamToStr := by
  intro hmem
  obtain ⟨param, hparam, hmem⟩ := List.mem_flatMap.1 hmem
  obtain ⟨hname, -, -, hvalue⟩ := h param hparam
  obtain ⟨-, -, hquestion, hat⟩ := osipUriEscapeUriParam_notMem hname.1
  rw [uriParamToStr_eq (h param hparam)] at hmem
  cases hgvalue : param.gvalue with
  | none =>
      rw [hgvalue] at hmem
      rcases hc with rfl | rfl
      · simp [hquestion] at hmem
      · simp [hat] at hmem
  | some gvalue =>
      obtain ⟨-, -, hvquestion, hvat⟩ := osipUriEscapeUriParam_notMem (hvalue gvalue hgvalue).1
      rw [hgvalue] at hmem
      rcases hc with rfl | rfl
      · simp [hquestion, hvquestion] at hmem
      · simp [hat, hvat] at hmem

theorem notMem_uriHeaders {c separator : Char} (hc : c = ';' ∨ c = '@') (hsep : c ≠ separator)
    (h : ∀ header ∈ headers, IsUriHeader header) : c ∉ uriHeadersToStr separator headers := by
  induction headers generalizing separator with
  | nil => exact List.not_mem_nil
  | cons header headers ih =>
      rw [List.forall_mem_cons] at h
      obtain ⟨hname, hvalue, hgvalue, htoken⟩ := h.1
      obtain ⟨-, -, hsemi, hat⟩ := osipUriEscapeHeaderParam_notMem hname.1
      obtain ⟨-, -, hvsemi, hvat⟩ := osipUriEscapeHeaderParam_notMem htoken.1
      have hand : c ≠ '&' := by
        rcases hc with rfl | rfl <;> decide
      have hrest := ih hand h.2
      rw [uriHeadersToStr_cons separator hgvalue]
      rcases hc with rfl | rfl
      · simp [hsep, hsemi, hvsemi, hrest]
      · simp [hsep, hat, hvat, hrest]

theorem length_le_uriParams (h : ∀ param ∈ params, IsUriParam param) :
    params.length ≤ (params.flatMap uriParamToStr).length := by
  induction params with
  | nil => exact Nat.le_refl _
  | cons param params ih =>
      rw [List.forall_mem_cons] at h
      rw [List.flatMap_cons, uriParamToStr_eq h.1, List.cons_append, List.length_cons,
        List.length_cons, List.length_append]
      have hle := ih h.2
      omega

theorem length_le_uriHeaders (separator : Char) (headers : List GenericParam) :
    headers.length ≤ (uriHeadersToStr separator headers).length := by
  induction headers generalizing separator with
  | nil => exact Nat.le_refl _
  | cons header headers ih =>
      have hle := ih '&'
      simp only [uriHeadersToStr, List.length_cons, List.length_append]
      omega

def hostText (sep : Char) (host : Str) (port : Option Str) (params headers : List GenericParam) :
    Str :=
  sep :: (bracketed host ++ (portToStr port ++
    (params.flatMap uriParamToStr ++ uriHeadersToStr '?' headers)))

theorem strchr_hostText_headers (hsep : sep = ':' ∨ sep = '@') (hhost : IsHost host)
    (hport : ∀ number ∈ port, IsPort number) (hparams : ∀ param ∈ params, IsUriParam param) :
    strchr (hostText sep host port params headers) '?' =
      if headers = [] then none else some (uriHeadersToStr '?' headers) := by
  have hsepne : sep ≠ '?' := by
    rcases hsep with rfl | rfl <;> decide
  have hname : '?' ∉ bracketed host :=
    notMem_bracketed (fun hc => (hhost.ne hc).2.2.1 rfl) (by decide) (by decide)
  rw [hostText, strchr, if_neg hsepne, strchr_append hname,
    strchr_append (notMem_portToStr hport (by decide) (by decide)),
    strchr_append (notMem_uriParams (Or.inl rfl) hparams),
    strchr_of_delimited (delimited_uriHeaders '?' headers)]
  cases headers with
  | nil => rfl
  | cons header headers =>
      rw [if_neg (uriHeadersToStr_ne_nil '?' header headers), if_neg (List.cons_ne_nil _ _)]

theorem strchr_hostText_params (hsep : sep = ':' ∨ sep = '@') (hhost : IsHost host)
    (hport : ∀ number ∈ port, IsPort number) (hparams : ∀ param ∈ params, IsUriParam param)
    (hheaders : ∀ header ∈ headers, IsUriHeader header) :
    strchr (hostText sep host port params headers) ';' =
      if params = [] then none
      else some (params.flatMap uriParamToStr ++ uriHeadersToStr '?' headers) := by
  have hsepne : sep ≠ ';' := by
    rcases hsep with rfl | rfl <;> decide
  have hname : ';' ∉ bracketed host :=
    notMem_bracketed (fun hc => (hhost.ne hc).2.1 rfl) (by decide) (by decide)
  rw [hostText, strchr, if_neg hsepne, strchr_append hname,
    strchr_append (notMem_portToStr hport (by decide) (by decide))]
  cases params with
  | nil =>
      exact strchr_eq_none_iff.2 (notMem_uriHeaders (Or.inl rfl) (by decide) hheaders)
  | cons param params =>
      rw [if_neg (List.cons_ne_nil _ _), List.flatMap_cons,
        uriParamToStr_eq (hparams param List.mem_cons_self), List.cons_append, List.cons_append,
        strchr, if_pos rfl]

theorem portParse_hostText (hhost : IsHost host) (hport : ∀ number ∈ port, IsPort number) :
    portParse (hostText sep host port params headers)
        ((bracketed host).length + 1 + (portToStr port).length) =
      if port.all fun number => number.length ≤ 7 then .ok (port, (bracketed host).length + 1)
      else .error osipSyntaxerror := by
  cases port with
  | none => exact portParse_host hhost _
  | some number =>
      rw [hostText, portToStr, Option.map_some, Option.getD_some, List.length_cons,
        List.cons_append, portParse_port (hport number rfl), Option.all_some]
      simp only [decide_eq_true_eq]

theorem hostParse_hostText (hsep : sep = ':' ∨ sep = '@') (hhost : IsHost host)
    (hparams : ∀ param ∈ params, IsUriParam param) :
    hostParse (hostText sep host port params headers) ((bracketed host).length + 1) = .ok host := by
  apply hostParse_host hsep hhost
  cases port with
  | some number => simp [portToStr]
  | none =>
      cases params with
      | cons param params => simp [portToStr, uriParamToStr_eq (hparams param List.mem_cons_self)]
      | nil =>
          cases headers with
          | nil => simp [portToStr, uriHeadersToStr]
          | cons header headers => simp [portToStr, uriHeadersToStr]

theorem length_lt_hostText (hparams : ∀ param ∈ params, IsUriParam param) :
    params.length < (hostText sep host port params headers).length ∧
      headers.length < (hostText sep host port params headers).length := by
  have hparamsLength := length_le_uriParams hparams
  have hheadersLength := length_le_uriHeaders '?' headers
  simp only [hostText, List.length_cons, List.length_append]
  omega

theorem uriParseHeaders_hostText (hsep : sep = ':' ∨ sep = '@') (hhost : IsHost host)
    (hport : ∀ number ∈ port, IsPort number) (hparams : ∀ param ∈ params, IsUriParam param)
    (hheaders : ∀ header ∈ headers, IsUriHeader header) :
    ((strchr (hostText sep host port params headers) '?').map fun text =>
      uriParseHeaders (hostText sep host port params headers).length [] text).getD [] =
        headers := by
  rw [strchr_hostText_headers hsep hhost hport hparams]
  cases headers with
  | nil => rfl
  | cons header headers =>
      have hfuel := (@length_lt_hostText sep host port params (header :: headers) hparams).2
      rw [if_neg (List.cons_ne_nil _ _), Option.map_some, Option.getD_some,
        uriParseHeaders_uriHeadersToStr (by decide) hheaders (Nat.lt_of_succ_lt hfuel),
        List.nil_append]

theorem uriParseParams_hostText (hsep : sep = ':' ∨ sep = '@') (hhost : IsHost host)
    (hport : ∀ number ∈ port, IsPort number) (hparams : ∀ param ∈ params, IsUriParam param)
    (hheaders : ∀ header ∈ headers, IsUriHeader header) :
    (if (strchr (hostText sep host port params headers) ';').isSome then
      uriParseParams (hostText sep host port params headers).length []
        (params.flatMap uriParamToStr)
    else []) = params := by
  rw [strchr_hostText_params hsep hhost hport hparams hheaders]
  cases params with
  | nil => rfl
  | cons param params =>
      have hfuel := (@length_lt_hostText sep host port (param :: params) headers hparams).1
      rw [if_neg (List.cons_ne_nil _ _), Option.isSome_some, if_pos rfl,
        uriParseParams_flatMap hparams (Nat.lt_of_succ_lt hfuel), List.nil_append]

theorem hostPartParse_hostText (url : Uri) (hsep : sep = ':' ∨ sep = '@') (hhost : IsHost host)
    (hport : ∀ number ∈ port, IsPort number) (hparams : ∀ param ∈ params, IsUriParam param)
    (hheaders : ∀ header ∈ headers, IsUriHeader header) :
    hostPartParse url (hostText sep host port params headers) =
      if port.all fun number => number.length ≤ 7 then
        .ok { url with host := some host, port, urlParams := params, urlHeaders := headers }
      else .error osipSyntaxerror := by
  have hheadersEnd : (strchr (hostText sep host port params headers) '?').getD [] =
      uriHeadersToStr '?' headers := by
    rw [strchr_hostText_headers hsep hhost hport hparams]
    split_ifs with hnil
    · rw [hnil, uriHeadersToStr, Option.getD_none]
    · rfl
  have hparamsEnd : (strchr (hostText sep host port params headers) ';').getD
      (uriHeadersToStr '?' headers) =
        params.flatMap uriParamToStr ++ uriHeadersToStr '?' headers := by
    rw [strchr_hostText_params hsep hhost hport hparams hheaders]
    split_ifs with hnil
    · rw [hnil, List.flatMap_nil, List.nil_append, Option.getD_none]
    · rfl
  have hsome : ¬ ((strchr (hostText sep host port params headers) ';').isSome = true ∧
      (params.flatMap uriParamToStr ++ uriHeadersToStr '?' headers).length ≤
        (uriHeadersToStr '?' headers).length) := by
    rw [strchr_hostText_params hsep hhost hport hparams hheaders, List.length_append]
    cases params with
    | nil => simp
    | cons param params =>
        have hle := length_le_uriParams hparams
        rw [List.length_cons] at hle
        omega
  have hhostEnd : pointerDiff (params.flatMap uriParamToStr ++ uriHeadersToStr '?' headers)
      (hostText sep host port params headers) =
        (bracketed host).length + 1 + (portToStr port).length := by
    rw [hostText, ← List.append_assoc, pointerDiff_cons, List.length_append]
    omega
  unfold hostPartParse
  dsimp only
  rw [hheadersEnd, hparamsEnd, if_neg hsome, pointerDiff_append, osipStrncpy, List.take_left,
    uriParseHeaders_hostText hsep hhost hport hparams hheaders,
    uriParseParams_hostText hsep hhost hport hparams hheaders, hhostEnd,
    portParse_hostText hhost hport]
  by_cases hshort : port.all fun number => number.length ≤ 7
  · rw [if_pos hshort, if_pos hshort]
    dsimp only
    rw [hostParse_hostText hsep hhost hparams]
  · rw [if_neg hshort, if_neg hshort]

theorem notMem_hostText (hhost : IsHost host) (hport : ∀ number ∈ port, IsPort number)
    (hparams : ∀ param ∈ params, IsUriParam param)
    (hheaders : ∀ header ∈ headers, IsUriHeader header) :
    '@' ∉ hostText ':' host port params headers := by
  have hname : '@' ∉ bracketed host :=
    notMem_bracketed (fun hc => (hhost.ne hc).1 rfl) (by decide) (by decide)
  have hnumber : '@' ∉ portToStr port := notMem_portToStr hport (by decide) (by decide)
  have hnames : '@' ∉ params.flatMap uriParamToStr := notMem_uriParams (Or.inr rfl) hparams
  have hfields : '@' ∉ uriHeadersToStr '?' headers :=
    notMem_uriHeaders (Or.inr rfl) (by decide) hheaders
  simp only [hostText, List.mem_cons, List.mem_append, hname, hnumber, hnames, hfields, or_self,
    or_false]
  decide

end HostPart

/-! ### The user and the scheme -/

theorem osipUriEscapeUserinfo_spec {username : Str} (h : IsUriText username) :
    ':' ∉ osipUriEscapeUserinfo username ∧ '@' ∉ osipUriEscapeUserinfo username ∧
      osipUriUnescape (osipUriEscapeUserinfo username) = username ∧
      0 < (osipUriEscapeUserinfo username).length :=
  ⟨notMem_escape (by decide) (by decide) (by decide) h,
    notMem_escape (by decide) (by decide) (by decide) h, osipUriUnescape_escape (by decide) h,
    List.length_pos_iff.2 (escape_ne_nil h.1)⟩

theorem osipUriEscapePassword_spec {password : Str} (h : IsUriText password) :
    '@' ∉ osipUriEscapePassword password ∧
      osipUriUnescape (osipUriEscapePassword password) = password ∧
      0 < (osipUriEscapePassword password).length :=
  ⟨notMem_escape (by decide) (by decide) (by decide) h, osipUriUnescape_escape (by decide) h,
    List.length_pos_iff.2 (escape_ne_nil h.1)⟩

def passwordToStr (password : Option Str) : Str :=
  (password.map fun password => ':' :: osipUriEscapePassword password).getD []

theorem userinfoParse_userinfo {username : Str} (h : IsUriText username) {password : Option Str}
    (hpassword : ∀ word ∈ password, IsUriText word) (rest : Str) :
    userinfoParse (':' :: (osipUriEscapeUserinfo username ++
        (passwordToStr password ++ '@' :: rest))) ('@' :: rest) =
      .ok (some username, password) := by
  obtain ⟨hcolon, hat, hread, hlength⟩ := osipUriEscapeUserinfo_spec h
  unfold userinfoParse
  dsimp only
  cases password with
  | none =>
      rw [passwordToStr, Option.map_none, Option.getD_none, List.nil_append, List.tail_cons,
        nextSeparator_append_before hcolon hat (by decide), Option.any_none,
        if_neg Bool.false_ne_true, Option.getD_none, pointerDiff_cons, if_neg (by omega),
        between_append, hread, Option.map_none]
  | some word =>
      obtain ⟨hpat, hpread, hplength⟩ := osipUriEscapePassword_spec (hpassword word rfl)
      rw [passwordToStr, Option.map_some, Option.getD_some, List.cons_append, List.tail_cons,
        nextSeparator_append_sep hcolon hat (by decide), Option.any_some, pointerDiff_cons,
        decide_eq_false (by omega), if_neg Bool.false_ne_true, Option.getD_some, pointerDiff_cons,
        if_neg (by omega), between_append, hread, Option.map_some, between_append, hpread]

/-- "sip" or "sips" in any letter case. -/
def IsScheme (scheme : Str) : Prop :=
  osipStrcasecmp scheme "sip".toList = true ∨ osipStrcasecmp scheme "sips".toList = true

instance (scheme : Str) : Decidable (IsScheme scheme) := inferInstanceAs (Decidable (_ ∨ _))

theorem isAlpha_of_tolower {c : Char} (h : isAlpha (tolower c) = true) : isAlpha c = true := by
  unfold tolower at h
  split_ifs at h with hupper
  · simp [isAlpha, hupper]
  · exact h

theorem isScheme_map {scheme : Str} (h : IsScheme scheme) :
    scheme.map tolower = "sip".toList ∨ scheme.map tolower = "sips".toList := by
  obtain h | h := h
  · exact Or.inl (eq_of_beq h)
  · exact Or.inr (eq_of_beq h)

theorem isScheme_spec {scheme : Str} (h : IsScheme scheme) :
    (∀ c ∈ scheme, isAlpha c = true) ∧ isSipScheme scheme = true := by
  have hmap := isScheme_map h
  have hlength : 3 ≤ scheme.length := by
    rw [← List.length_map tolower]
    obtain hmap | hmap := hmap
    · rw [hmap]
      decide
    · rw [hmap]
      decide
  have hprefix : osipStrncasecmp scheme "sip".toList 3 = true := by
    rw [osipStrncasecmp, osipStrcasecmp, List.map_take]
    obtain hmap | hmap := hmap
    · rw [hmap]
      decide
    · rw [hmap]
      decide
  refine ⟨?_, by rw [isSipScheme, hprefix, Bool.true_or, Bool.and_true, decide_eq_true hlength]⟩
  intro c hc
  have hmem : tolower c ∈ scheme.map tolower := List.mem_map_of_mem hc
  have hletters : (scheme.map tolower).all isAlpha = true := by
    obtain hmap | hmap := hmap
    · rw [hmap]
      decide
    · rw [hmap]
      decide
  exact isAlpha_of_tolower (List.all_eq_true.1 hletters _ hmem)

/-! ### The URI -/

/-- What a URI with the scheme sip or sips consists of. -/
structure Uri.WellFormed (url : Uri) : Prop where
  scheme : ∃ scheme, url.scheme = some scheme ∧ IsScheme scheme
  username : ∀ username ∈ url.username, IsUriText username
  password : ∀ password ∈ url.password, IsUriText password ∧ url.username ≠ none
  host : ∃ host, url.host = some host ∧ IsHost host
  port : ∀ port ∈ url.port, IsPort port
  urlParams : ∀ param ∈ url.urlParams, IsUriParam param
  urlHeaders : ∀ header ∈ url.urlHeaders, IsUriHeader header
  string : url.string = none

/-- The URI is printed, and read back from what was printed. -/
def Uri.RoundTrips (url : Uri) : Prop :=
  ∃ dest, osipUriToStr url = .ok dest ∧ osipUriParse dest = .ok url

section Uri

variable {scheme host : Str} {port : Option Str} {params headers : List GenericParam}

theorem osipUriParse_scheme (h : IsScheme scheme) (rest : Str) :
    osipUriParse (scheme ++ ':' :: rest) =
      match strchr (':' :: rest) '@' with
      | none => hostPartParse ⟨some scheme, none, none, none, none, [], [], none⟩ (':' :: rest)
      | some host =>
          if rest.head? = some '@' then
            hostPartParse ⟨some scheme, none, none, none, none, [], [], none⟩ rest
          else
            match userinfoParse (':' :: rest) host with
            | .error i => .error i
            | .ok (user, password) =>
                hostPartParse ⟨some scheme, user, password, none, none, [], [], none⟩ host := by
  obtain ⟨halpha, hsip⟩ := isScheme_spec h
  have hnot {c : Char} (hc : isAlpha c = false) : c ∉ scheme := by
    intro hmem
    rw [halpha c hmem] at hc
    cases hc
  have hlength : 3 ≤ scheme.length := by
    simp only [isSipScheme, Bool.and_eq_true, decide_eq_true_eq] at hsip
    exact hsip.1
  have hall : scheme.all isAlpha = true := List.all_eq_true.2 halpha
  unfold osipUriParse
  rw [if_neg (by simp), strchr_append (hnot (by decide)), strchr, if_pos rfl]
  dsimp only
  rw [pointerDiff_append, osipStrncpy, List.take_left, if_neg (by omega),
    if_neg (not_not_intro hall), if_neg (not_not_intro hsip), strchr_append (hnot (by decide))]
  rfl

theorem osipUriParse_without_user (h : IsScheme scheme) (hhost : IsHost host)
    (hport : ∀ number ∈ port, IsPort number) (hparams : ∀ param ∈ params, IsUriParam param)
    (hheaders : ∀ header ∈ headers, IsUriHeader header) :
    osipUriParse (scheme ++ hostText ':' host port params headers) =
      if port.all fun number => number.length ≤ 7 then
        .ok ⟨some scheme, none, none, some host, port, params, headers, none⟩
      else .error osipSyntaxerror := by
  have hat := notMem_hostText hhost hport hparams hheaders
  rw [hostText] at hat
  rw [hostText, osipUriParse_scheme h, strchr_eq_none_iff.2 hat]
  exact hostPartParse_hostText ⟨some scheme, none, none, none, none, [], [], none⟩ (Or.inl rfl)
    hhost hport hparams hheaders

theorem osipUriParse_with_user (h : IsScheme scheme) {username : Str} {password : Option Str}
    (husername : IsUriText username) (hpassword : ∀ word ∈ password, IsUriText word)
    (hhost : IsHost host) (hport : ∀ number ∈ port, IsPort number)
    (hparams : ∀ param ∈ params, IsUriParam param)
    (hheaders : ∀ header ∈ headers, IsUriHeader header) :
    osipUriParse (scheme ++ ':' :: (osipUriEscapeUserinfo username ++
        (passwordToStr password ++ hostText '@' host port params headers))) =
      if port.all fun number => number.length ≤ 7 then
        .ok ⟨some scheme, some username, password, some host, port, params, headers, none⟩
      else .error osipSyntaxerror := by
  obtain ⟨-, hat, -, hlength⟩ := osipUriEscapeUserinfo_spec husername
  have hpat : '@' ∉ passwordToStr password := by
    cases password with
    | none => exact List.not_mem_nil
    | some word => simp [passwordToStr, (osipUriEscapePassword_spec (hpassword word rfl)).1]
  have hhead : (osipUriEscapeUserinfo username ++
      (passwordToStr password ++ hostText '@' host port params headers)).head? ≠ some '@' := by
    obtain ⟨c, text, htext⟩ := List.exists_cons_of_ne_nil (List.length_pos_iff.1 hlength)
    rw [htext, List.mem_cons, not_or] at hat
    rw [htext, List.cons_append, List.head?_cons, Ne, Option.some.injEq]
    exact Ne.symm hat.1
  have hfound : strchr (':' :: (osipUriEscapeUserinfo username ++
      (passwordToStr password ++ hostText '@' host port params headers))) '@' =
        some (hostText '@' host port params headers) := by
    rw [strchr, if_neg (by decide), strchr_append hat, strchr_append hpat, hostText, strchr,
      if_pos rfl]
  rw [osipUriParse_scheme h, hfound]
  dsimp only
  rw [if_neg hhead]
  have hread := userinfoParse_userinfo husername hpassword
    (hostText '@' host port params headers).tail
  have htail : '@' :: (hostText '@' host port params headers).tail =
      hostText '@' host port params headers := rfl
  rw [htail] at hread
  rw [hread]
  exact hostPartParse_hostText ⟨some scheme, some username, password, none, none, [], [], none⟩
    (Or.inr rfl) hhost hport hparams hheaders

end Uri

theorem osipUriParse_osipUriToStr {url : Uri} (h : url.WellFormed) :
    ∃ dest, osipUriToStr url = .ok dest ∧
      osipUriParse dest =
        if url.port.all fun number => number.length ≤ 7 then .ok url
        else .error osipSyntaxerror := by
  obtain ⟨scheme, username, password, host, port, params, headers, string⟩ := url
  obtain ⟨⟨scheme, rfl, hscheme⟩, husername, hpassword, ⟨host, rfl, hhost⟩, hport, hparams,
    hheaders, rfl⟩ := h
  cases username with
  | none =>
      have hnone : password = none := by
        cases password with
        | none => rfl
        | some word => exact absurd rfl (hpassword word rfl).2
      refine ⟨scheme ++ hostText ':' host port params headers, ?_, ?_⟩
      · simp [osipUriToStr, userinfoToStr, hostText, portToStr]
      · rw [hnone]
        exact osipUriParse_without_user hscheme hhost hport hparams hheaders
  | some username =>
      refine ⟨scheme ++ ':' :: (osipUriEscapeUserinfo username ++
        (passwordToStr password ++ hostText '@' host port params headers)), ?_, ?_⟩
      · simp [osipUriToStr, userinfoToStr, passwordToStr, hostText, portToStr]
      · exact osipUriParse_with_user hscheme (husername username rfl)
          (fun word hword => (hpassword word hword).1) hhost hport hparams hheaders

namespace Uri

/-- A well-formed URI is printed, and it is read back exactly when its port has at most seven
digits. -/
theorem roundTrips_iff {url : Uri} (h : url.WellFormed) :
    (∃ dest, osipUriToStr url = .ok dest) ∧
      (url.RoundTrips ↔ ∀ port ∈ url.port, port.length ≤ 7) := by
  obtain ⟨dest, hprint, hread⟩ := osipUriParse_osipUriToStr h
  refine ⟨⟨dest, hprint⟩, ?_⟩
  have hall : (url.port.all fun number => number.length ≤ 7) = true ↔
      ∀ port ∈ url.port, port.length ≤ 7 := by
    cases url.port <;> simp
  rw [← hall]
  constructor
  · intro hround
    obtain ⟨dest', hprint', hread'⟩ := hround
    rw [hprint, Except.ok.injEq] at hprint'
    rw [← hprint', hread] at hread'
    by_contra hlong
    rw [if_neg hlong] at hread'
    cases hread'
  · intro hshort
    exact ⟨dest, hprint, by rw [hread, if_pos hshort]⟩

/-- "sip:al%20ice:p%40ss@[2001:db8::1]:5060;lr;x=%3B?Subject=a%26b" with that port. -/
def withPort (port : String) : Uri where
  scheme := some "sip".toList
  username := some "al ice".toList
  password := some "p@ss".toList
  host := some "2001:db8::1".toList
  port := some port.toList
  urlParams := [⟨"lr".toList, none⟩, ⟨"x".toList, some ";".toList⟩]
  urlHeaders := [⟨"Subject".toList, some "a&b".toList⟩]
  string := none

theorem wellFormed_withPort {port : String} (h : IsPort port.toList) :
    (withPort port).WellFormed where
  scheme := ⟨_, rfl, by decide⟩
  username := show ∀ username ∈ (withPort "").username, IsUriText username by decide
  password := show ∀ password ∈ (withPort "").password,
    IsUriText password ∧ (withPort "").username ≠ none by decide
  host := ⟨_, rfl, by decide⟩
  port := fun _ heq => Option.some.inj heq ▸ h
  urlParams := show ∀ param ∈ (withPort "").urlParams, IsUriParam param by decide
  urlHeaders := show ∀ header ∈ (withPort "").urlHeaders, IsUriHeader header by decide
  string := rfl

theorem withPort_roundTrips : (withPort "5060").RoundTrips :=
  ((roundTrips_iff (wellFormed_withPort (by decide))).2).2 (by decide)

/-- A port with leading zeros. -/
theorem not_roundTrips : ¬ ∀ url : Uri, url.WellFormed → url.RoundTrips := by
  intro h
  have hlong : (withPort "00005060").WellFormed := wellFormed_withPort (by decide)
  obtain ⟨dest, hprint, hread⟩ := h _ hlong
  obtain ⟨dest', hprint', hread'⟩ := osipUriParse_osipUriToStr hlong
  rw [hprint, Except.ok.injEq] at hprint'
  rw [← hprint', hread, if_neg (by decide)] at hread'
  cases hread'

end Uri
end Exosip
