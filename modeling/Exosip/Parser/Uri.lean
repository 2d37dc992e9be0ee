import Exosip.Parser.Serialise

/-! `osip_uri_parse` and `osip_from_parse`. -/
namespace Exosip

open CString

/-! ### Escapes -/

def hexDigit? (c : Char) : Option Nat :=
  if '0' ≤ c ∧ c ≤ '9' then some (c.toNat - 48)
  else if 'a' ≤ c ∧ c ≤ 'f' then some (c.toNat - 87)
  else if 'A' ≤ c ∧ c ≤ 'F' then some (c.toNat - 55)
  else none

/-- The hexadecimal digits at the front, at most `width` of them. -/
def scanHexDigits : Nat → Str → List Nat
  | 0, _ => []
  | _ + 1, [] => []
  | width + 1, c :: s =>
      match hexDigit? c with
      | none => []
      | some digit => digit :: scanHexDigits width s

def hexValue (digits : List Nat) : Int := (digits.foldl (fun n digit => 16 * n + digit) 0 : Nat)

/-- `sscanf (s, "%02X", &hex)`, with the blanks and the sign that it takes. -/
def scanHex (s : Str) : Option Int :=
  match s.dropWhile isSpace with
  | '-' :: s => (if scanHexDigits 1 s = [] then none else some (-hexValue (scanHexDigits 1 s)))
  | '+' :: s => (if scanHexDigits 1 s = [] then none else some (hexValue (scanHexDigits 1 s)))
  | s => if scanHexDigits 2 s = [] then none else some (hexValue (scanHexDigits 2 s))

/-- The loop of `__osip_uri_unescape`; an escape that cannot be read ends the string. -/
def uriUnescapeLoop : Nat → Str → Str
  | 0, _ => []
  | _ + 1, [] => []
  | fuel + 1, '%' :: ptr =>
      if ptr.length < 2 then []
      else
        match scanHex ptr with
        | none => []
        | some hex =>
            let in_ := Char.ofNat (hex % 256).toNat
            if (ptr[1]?.bind hexDigit?).isSome then in_ :: uriUnescapeLoop fuel (ptr.drop 2)
            else in_ :: uriUnescapeLoop fuel (ptr.drop 1)
  | fuel + 1, c :: ptr => c :: uriUnescapeLoop fuel ptr

def osipUriUnescape (string : Str) : Str := cString (uriUnescapeLoop string.length string)

/-! ### Parameters and headers of a URI -/

/-- The text after `p` and before `q`, unescaped. -/
def between (p q : Str) : Str := osipUriUnescape (osipStrncpy p.tail (pointerDiff q p - 1))

/-- One parameter from its ';' to `comma`. -/
def uriParam (params : Str) (equal : Option Str) (comma : Str) : Except Int GenericParam :=
  match equal with
  | none =>
      if pointerDiff comma params < 2 then .error osipSyntaxerror
      else .ok (GenericParam.set (between params comma) none)
  | some equal =>
      if pointerDiff comma equal < 2 then .error osipSyntaxerror
      else if pointerDiff equal params < 2 then .error osipSyntaxerror
      else .ok (GenericParam.set (between params equal) (some (between equal comma)))

/-- `osip_uri_parse_params`: what was added before an error stays. -/
def uriParseParams : Nat → List GenericParam → Str → List GenericParam
  | 0, urlParams, _ => urlParams
  | fuel + 1, urlParams, params =>
      let equal := nextSeparator params.tail '=' ';'
      let comma := strchr params.tail ';'
      match uriParam params equal (comma.getD []) with
      | .error _ => urlParams
      | .ok param =>
          match comma with
          | none => urlParams ++ [param]
          | some comma => uriParseParams fuel (urlParams ++ [param]) comma

/-- `osip_uri_parse_headers`: each header has a value. -/
def uriParseHeaders : Nat → List GenericParam → Str → List GenericParam
  | 0, urlHeaders, _ => urlHeaders
  | fuel + 1, urlHeaders, headers =>
      match strchr headers '=', strchr headers.tail '&' with
      | none, _ => urlHeaders
      | some equal, none =>
          urlHeaders ++ [GenericParam.set (between headers equal) (some (between equal []))]
      | some equal, some and_ =>
          if pointerDiff and_ equal < 2 then urlHeaders
          else
            uriParseHeaders fuel
              (urlHeaders ++ [GenericParam.set (between headers equal) (some (between equal and_))]) and_

/-! ### The URI -/

/-- The last position up to `i` at which `stop` holds, or else the first one. -/
def scanBack (s : Str) (stop : Char → Bool) : Nat → Nat
  | 0 => 0
  | i + 1 => if s[i + 1]?.any stop then i + 1 else scanBack s stop i

/-- The user and the password between `username`, which points at the ':', and `host`. -/
def userinfoParse (username host : Str) : Except Int (Option Str × Option Str) :=
  let password := nextSeparator username.tail ':' '@'
  if password.any fun password => pointerDiff host password < 2 then .error osipSyntaxerror
  else if pointerDiff (password.getD host) username < 2 then .error osipSyntaxerror
  else
    .ok (some (between username (password.getD host)), password.map fun password => between password host)

/-- The port behind `host`, whose text ends at `params`, and where the name of the host ends. -/
def portParse (host : Str) (params : Nat) : Except Int (Option Str × Nat) :=
  let port := scanBack host (fun c => c == ']' || c == ':') (params - 1)
  if host[port]? = some ':' then
    if port = 0 then .ok (none, params)
    else if params - port < 2 ∨ 8 < params - port then .error osipSyntaxerror
    else .ok (some (osipClrncpy (host.drop (port + 1)) (params - port - 1)), port)
  else .ok (none, params)

/-- The name of the host between the delimiter at `host` and `port`, or between brackets. -/
def hostParse (host : Str) (port : Nat) : Except Int Str :=
  let tmp := scanBack host (· == ']') port
  if host[tmp]? = some ']' then
    match (host.take tmp).findIdx? (· == '[') with
    | none => .error osipSyntaxerror
    | some start =>
        if tmp - start < 2 then .error osipSyntaxerror
        else .ok (osipClrncpy (host.drop (start + 1)) (tmp - start - 1))
  else if port < 2 then .error osipSyntaxerror
  else .ok (osipClrncpy (host.drop 1) (port - 1))

/-- The part of `osip_uri_parse` from the beginning of the host on. -/
def hostPartParse (url : Uri) (host : Str) : Except Int Uri :=
  let headers := strchr host '?'
  let urlHeaders := (headers.map fun headers => uriParseHeaders host.length [] headers).getD []
  let params := (strchr host ';').getD (headers.getD [])
  if (strchr host ';').isSome ∧ params.length ≤ (headers.getD []).length then .error osipSyntaxerror
  else
    let tmpbuf := osipStrncpy params (pointerDiff (headers.getD []) params)
    let urlParams := if (strchr host ';').isSome then uriParseParams host.length [] tmpbuf else []
    match portParse host (pointerDiff params host) with
    | .error i => .error i
    | .ok (port, hostEnd) =>
        match hostParse host hostEnd with
        | .error i => .error i
        | .ok name => .ok { url with host := some name, port, urlParams, urlHeaders }

def isAlpha (c : Char) : Bool := ('a' ≤ c && c ≤ 'z') || ('A' ≤ c && c ≤ 'Z')

def isSipScheme (scheme : Str) : Bool :=
  3 ≤ scheme.length &&
    (osipStrncasecmp scheme "sip".toList 3 || osipStrncasecmp scheme "sips".toList 4)

def osipUriParse (buf : Str) : Except Int Uri :=
  if buf = [] then .error osipBadparameter
  else
    match strchr buf ':' with
    | none => .error osipSyntaxerror
    | some username =>
        let scheme := osipStrncpy buf (pointerDiff username buf)
        let url : Uri := ⟨some scheme, none, none, none, none, [], [], none⟩
        if scheme.length < 2 then .error osipSyntaxerror
        else if ¬ scheme.all isAlpha then .error osipSyntaxerror
        else if ¬ isSipScheme scheme then
          if username.tail.length < 2 then .error osipSyntaxerror
          else .ok { url with string := some username.tail }
        else
          match strchr buf '@' with
          | none => hostPartParse url username
          | some host =>
              if username.tail.head? = some '@' then hostPartParse url username.tail
              else
                match userinfoParse username host with
                | .error i => .error i
                | .ok (user, password) => hostPartParse { url with username := user, password } host

/-! ### Name and address -/

/-- The characters that `osip_from_parse` passes over in search of the URI. -/
def isNameChar (c : Char) : Bool :=
  c == ' ' || isAlphanum c || "-.!%*_+`'~".toList.contains c

/-- The display name and where the URI begins, with its '<' when it has one. -/
def displaynameParse (hvalue ptr : Str) : Except Int (Option Str × Str) :=
  if ptr.head? = some '"' then
    match osipQuoteFind ptr.tail with
    | none => .error osipSyntaxerror
    | some second =>
        let url := second.tail.dropWhile (· == ' ')
        if url.head? ≠ some '<' then .error osipSyntaxerror
        else if url.tail = [] then .error osipSyntaxerror
        else .ok (some (osipStrncpy ptr (pointerDiff second ptr + 1)), url)
  else
    let url := ptr.dropWhile isNameChar
    if url = [] then .error osipSyntaxerror
    else if url.head? = some '<' then
      if url.tail = [] then .error osipSyntaxerror
      else if pointerDiff url ptr = 0 then .ok (none, url)
      else .ok (some (osipClrncpy hvalue (pointerDiff url ptr)), url)
    else .ok (none, ptr)

/-- The text of the URI and the parameters, the search for which begins at the last character
before the '>'. A URI of fewer than six characters, or five to the end, is refused. -/
def urlExtent (url : Str) : Except Int (Str × Option Str) :=
  if url.head? = some '<' then
    match strchr url.tail '>' with
    | none => .error osipSyntaxerror
    | some urlEnd =>
        let n := pointerDiff urlEnd url.tail
        if n + 1 < 7 then .error osipSyntaxerror
        else .ok (osipStrncpy url.tail n, strchr (url.drop n) ';')
  else
    match strchr url ';' with
    | some genParams =>
        if pointerDiff genParams url + 1 < 7 then .error osipSyntaxerror
        else .ok (osipStrncpy url (pointerDiff genParams url), some genParams)
    | none => if url.length + 2 < 7 then .error osipSyntaxerror else .ok (url, none)

/-- `osip_from_parse`, over the parser of the URI. -/
def osipFromParse (uriParse : Str → Except Int Uri) (hvalue : Str) : Except Int From :=
  let ptr := hvalue.dropWhile (· == ' ')
  if ptr = [] then .ok ⟨none, none, []⟩
  else do
    let (displayname, url) ← displaynameParse hvalue ptr
    let (text, params) ← urlExtent url
    let genParams ← (params.map (GenericParam.parseall [])).getD (.ok [])
    let url ← uriParse text
    .ok ⟨displayname, some url, genParams⟩

/-! ### What is parsed can be cloned -/

theorem hostPartParse_host {url url' : Uri} {host : Str} (h : hostPartParse url host = .ok url') :
    url'.host.isSome = true := by
  unfold hostPartParse at h
  dsimp only at h
  split at h
  · cases h
  · split at h
    · cases h
    · split at h
      · cases h
      · cases h
        rfl

theorem complete_osipUriParse {buf : Str} {url : Uri} (h : osipUriParse buf = .ok url) :
    url.complete = true := by
  have hhost : ∀ {url' : Uri} {host : Str}, hostPartParse url' host = .ok url → url.complete = true := by
    intro url' host hpart
    rw [Uri.complete, hostPartParse_host hpart, Bool.true_or]
  unfold osipUriParse at h
  split at h
  · cases h
  · split at h
    · cases h
    · dsimp only at h
      split at h
      · cases h
      · split at h
        · cases h
        · split at h
          · split at h
            · cases h
            · cases h
              rfl
          · split at h
            · exact hhost h
            · split at h
              · exact hhost h
              · split at h
                · cases h
                · exact hhost h

theorem complete_osipFromParse {uriParse : Str → Except Int Uri}
    (huri : ∀ buf url, uriParse buf = .ok url → url.complete = true) {hvalue : Str} {header : From}
    (h : osipFromParse uriParse hvalue = .ok header) : header.complete = true := by
  unfold osipFromParse at h
  dsimp only at h
  split at h
  · cases h
    rfl
  · simp only [exists_ok_bind, Except.ok.injEq] at h
    obtain ⟨⟨displayname, url⟩, -, ⟨text, params⟩, -, genParams, -, parsed, hparsed, hheader⟩ := h
    rw [← hheader]
    exact huri text parsed hparsed

end Exosip
