import Exosip.Parser.Via

/-! The headers of a message with their `osip_xxx_to_str` and `osip_xxx_clone`. The type of
a header that the source defines as another one's is that one's abbreviation. -/
namespace Exosip

open CString

def cString (s : Str) : Str := s.takeWhile (· != '\x00')

/-! ### The URI -/

def isAlphanum (c : Char) : Bool :=
  ('a' ≤ c && c ≤ 'z') || ('A' ≤ c && c ≤ 'Z') || ('0' ≤ c && c ≤ '9')

/-- `"%%%02X"` for the byte. -/
def percentEncoded (c : Char) : Str :=
  '%' :: [(c.toNat / 16).digitChar, (c.toNat % 16).digitChar].map Char.toUpper

def osipUriEscapeNonasciiAndNondef (string def_ : Str) : Str :=
  string.flatMap fun c => if isAlphanum c || def_.contains c then [c] else percentEncoded c

def osipUriEscapeUserinfo (string : Str) : Str :=
  osipUriEscapeNonasciiAndNondef string "-_.!~*'()&=+$,;?/".toList

def osipUriEscapePassword (string : Str) : Str :=
  osipUriEscapeNonasciiAndNondef string "-_.!~*'()&=+$,".toList

def osipUriEscapeUriParam (string : Str) : Str :=
  osipUriEscapeNonasciiAndNondef string "-_.!~*'()[]/:&+$".toList

def osipUriEscapeHeaderParam (string : Str) : Str :=
  osipUriEscapeNonasciiAndNondef string "-_.!~*'()[]/?:+$".toList

def bracketed (host : Str) : Str :=
  if (strchr host ':').isSome then '[' :: host ++ [']'] else host

/-- A parameter of the URI; `x-obr` and `x-obp` are for internal use and not printed. -/
def uriParamToStr (param : GenericParam) : Str :=
  if osipStrcasecmp param.gname "x-obr".toList || osipStrcasecmp param.gname "x-obp".toList then []
  else
    match param.gvalue with
    | none => ';' :: osipUriEscapeUriParam param.gname
    | some gvalue =>
        ';' :: osipUriEscapeUriParam param.gname ++ '=' :: osipUriEscapeUriParam gvalue

/-- The headers of the URI, the first after a question mark. The parser gives each a value. -/
def uriHeadersToStr : Char → List GenericParam → Str
  | _, [] => []
  | separator, header :: headers =>
      separator :: osipUriEscapeHeaderParam header.gname ++
        '=' :: osipUriEscapeHeaderParam (header.gvalue.getD []) ++ uriHeadersToStr '&' headers

def userinfoToStr (url : Uri) : Str :=
  match url.username with
  | none => []
  | some username =>
      osipUriEscapeUserinfo username ++
        (url.password.map fun password => ':' :: osipUriEscapePassword password).getD [] ++ ['@']

def osipUriToStr (url : Uri) : Except Int Str :=
  match url.string, url.scheme, url.host with
  | none, _, none => .error osipBadparameter
  | some _, none, _ => .error osipBadparameter
  | some string, some scheme, _ => .ok (scheme ++ ':' :: string)
  | none, scheme, some host =>
      .ok (scheme.getD "sip".toList ++ ':' :: userinfoToStr url ++ bracketed host ++
        (url.port.map fun port => ':' :: port).getD [] ++
        url.urlParams.flatMap uriParamToStr ++ uriHeadersToStr '?' url.urlHeaders)

/-! ### Name and address -/

abbrev RecordRoute := From
abbrev Contact := From

/-- `osip_from_to_str` and `osip_record_route_to_str`, which print the same text. -/
def osipFromToStr (header : From) : Except Int Str :=
  match header.url with
  | none => .error osipBadparameter
  | some url => do
      let url ← osipUriToStr url
      .ok ((header.displayname.map fun displayname => displayname ++ [' ']).getD [] ++
        '<' :: url ++ '>' :: header.genParams.flatMap GenericParam.toStr)

def osipToToStr (toHeader : To) : Except Int Str := osipFromToStr toHeader
def osipRecordRouteToStr (recordRoute : RecordRoute) : Except Int Str := osipFromToStr recordRoute
def osipRouteToStr (route : Route) : Except Int Str := osipRecordRouteToStr route

/-- `osip_contact_to_str`: a display name that begins with a star is the star alone. -/
def osipContactToStr (contact : Contact) : Except Int Str :=
  match contact.displayname with
  | some ('*' :: _) => .ok ['*']
  | _ => osipFromToStr contact

def osipCallIdToStr (callid : CallId) : Except Int Str :=
  match callid.number with
  | none => .error osipBadparameter
  | some number => .ok (number ++ (callid.host.map fun host => '@' :: host).getD [])

def osipCseqToStr (cseq : Cseq) : Except Int Str :=
  match cseq.number, cseq.method with
  | some number, some method => .ok (number ++ ' ' :: method)
  | _, _ => .error osipBadparameter

/-! ### Values with parameters -/

structure ContentType where
  type : Option Str
  subtype : Option Str
  genParams : List GenericParam
  deriving DecidableEq, Repr

abbrev Accept := ContentType

namespace ContentType

/-- `osip_content_type_init`. -/
def init : ContentType := ⟨none, none, []⟩

def paramsToStr : List GenericParam → Except Int Str
  | [] => .ok []
  | param :: params =>
      match param.gvalue with
      | none => .error osipSyntaxerror
      | some gvalue => do
          .ok ("; ".toList ++ param.gname ++ '=' :: gvalue ++ (← paramsToStr params))

/-- `osip_content_type_parse` on a header just initialised. -/
def parse (hvalue : Str) : Except Int ContentType :=
  if hvalue = [] then .ok init
  else do
    let subtype ← strchrOrError hvalue '/'
    let params := (strchr hvalue ';').getD []
    let genParams ← if params = [] then .ok [] else GenericParam.parseall [] params
    syntaxCheck (2 ≤ pointerDiff subtype hvalue + 1)
    syntaxCheck (2 ≤ pointerDiff params subtype)
    .ok
      { type := some (osipClrncpy hvalue (pointerDiff subtype hvalue))
        subtype := some (osipClrncpy subtype.tail (pointerDiff params subtype - 1))
        genParams }

end ContentType

def osipContentTypeToStr (contentType : ContentType) : Except Int Str :=
  match contentType.type, contentType.subtype with
  | some type, some subtype => do
      .ok (type ++ '/' :: subtype ++ (← ContentType.paramsToStr contentType.genParams))
  | _, _ => .error osipBadparameter

/-- `osip_accept_to_str`: an empty header is printed as a space. -/
def osipAcceptToStr (accept : Accept) : Except Int Str :=
  if accept.type.getD [] = [] ∧ accept.subtype.getD [] = [] then .ok [' ']
  else do
    .ok (accept.type.getD "(null)".toList ++ '/' :: accept.subtype.getD "(null)".toList ++
      (← ContentType.paramsToStr accept.genParams))

/-- An element with its parameters: `osip_call_info_t` and `osip_accept_encoding_t`. -/
structure CallInfo where
  element : Option Str
  genParams : List GenericParam
  deriving DecidableEq, Repr

abbrev AlertInfo := CallInfo
abbrev ErrorInfo := CallInfo
abbrev AcceptEncoding := CallInfo
abbrev AcceptLanguage := CallInfo

def osipCallInfoToStr (callInfo : CallInfo) : Except Int Str :=
  match callInfo.element with
  | none => .error osipBadparameter
  | some element => .ok (element ++ callInfo.genParams.flatMap GenericParam.toStr)

def osipAcceptEncodingToStr (acceptEncoding : AcceptEncoding) : Except Int Str :=
  osipCallInfoToStr acceptEncoding

structure ContentLength where
  value : Option Str
  deriving DecidableEq, Repr

abbrev MimeVersion := ContentLength
abbrev Allow := ContentLength
abbrev ContentEncoding := ContentLength

/-- `osip_content_length_to_str`: the copy of a NULL value counts as a failed allocation. -/
def osipContentLengthToStr (cl : ContentLength) : Except Int Str :=
  match cl.value with
  | none => .error osipNomem
  | some value => .ok value

/-! ### Credentials -/

structure AuthorizationHeader extends Authorization where
  digest : Option Str
  version : Option Str
  targetname : Option Str
  gssapiData : Option Str
  crand : Option Str
  cnum : Option Str
  deriving DecidableEq, Repr

def labelled (fields : List (String × Option Str)) : List Str :=
  fields.filterMap fun field => field.2.map (field.1.toList ++ ·)

/-- `osip_authorization_to_str`: the fields are separated by commas. -/
def osipAuthorizationToStr (auth : AuthorizationHeader) : Except Int Str :=
  match auth.authType with
  | none => .error osipBadparameter
  | some authType =>
      .ok (authType ++ List.intercalate [','] (labelled
        [(" username=", auth.username), (" realm=", auth.realm), (" nonce=", auth.nonce),
          (" uri=", auth.uri), (" response=", auth.response), (" digest=", auth.digest),
          (" algorithm=", auth.algorithm), (" cnonce=", auth.cnonce), (" opaque=", auth.opaqueValue),
          (" qop=", auth.messageQop), (" nc=", auth.nonceCount), (" version=", auth.version),
          (" targetname=", auth.targetname), (" gssapi-data=", auth.gssapiData),
          (" crand=", auth.crand), (" cnum=", auth.cnum)]))

structure WwwAuthenticate where
  authType : Option Str
  realm : Option Str
  domain : Option Str
  nonce : Option Str
  opaqueValue : Option Str
  stale : Option Str
  algorithm : Option Str
  qopOptions : Option Str
  version : Option Str
  targetname : Option Str
  gssapiData : Option Str
  deriving DecidableEq, Repr

/-- `osip_www_authenticate_to_str`: without a realm the first comma is a space. -/
def osipWwwAuthenticateToStr (wwwa : WwwAuthenticate) : Except Int Str :=
  match wwwa.authType with
  | none => .error osipBadparameter
  | some authType =>
      let fields := (labelled
        [(", domain=", wwwa.domain), (", nonce=", wwwa.nonce), (", opaque=", wwwa.opaqueValue),
          (", stale=", wwwa.stale), (", algorithm=", wwwa.algorithm), (", qop=", wwwa.qopOptions),
          (", version=", wwwa.version), (", targetname=", wwwa.targetname),
          (", gssapi-data=", wwwa.gssapiData)]).flatten
      match wwwa.realm with
      | some realm => .ok (authType ++ " realm=".toList ++ realm ++ fields)
      | none => .ok (authType ++ if fields.head? = some ',' then ' ' :: fields.tail else fields)

structure AuthenticationInfo where
  authType : Option Str
  nextnonce : Option Str
  rspauth : Option Str
  cnonce : Option Str
  nonceCount : Option Str
  qopOptions : Option Str
  snum : Option Str
  srand : Option Str
  targetname : Option Str
  realm : Option Str
  opaqueValue : Option Str
  deriving DecidableEq, Repr

/-- `osip_authentication_info_to_str`: at least one field must be set. -/
def osipAuthenticationInfoToStr (ainfo : AuthenticationInfo) : Except Int Str :=
  let fields := labelled
    [("qop=", ainfo.qopOptions), ("nextnonce=", ainfo.nextnonce), ("rspauth=", ainfo.rspauth),
      ("cnonce=", ainfo.cnonce), ("nc=", ainfo.nonceCount), ("snum=", ainfo.snum),
      ("srand=", ainfo.srand), ("targetname=", ainfo.targetname), ("realm=", ainfo.realm),
      ("opaque=", ainfo.opaqueValue)]
  if ainfo.authType = none ∧ fields = [] then .error osipBadparameter
  else
    .ok ((ainfo.authType.map fun authType => authType ++ [' ']).getD [] ++
      List.intercalate ", ".toList fields)

/-! ### Other headers -/

structure Header where
  hname : Option Str
  hvalue : Option Str
  deriving DecidableEq, Repr

/-- `osip_header_to_str`: a name that begins with a small letter is printed with a capital. -/
def osipHeaderToStr (header : Header) : Except Int Str :=
  match header.hname with
  | none => .error osipBadparameter
  | some hname =>
      match hname ++ ": ".toList ++ header.hvalue.getD [] with
      | [] => .ok []
      | c :: text => .ok (c.toUpper :: text)

/-! ### Clones

A clone refuses a header that lacks a mandatory member; else it copies every member. -/

def cloneIf {α : Type} (complete : α → Bool) (header : α) : Except Int α :=
  if complete header then .ok header else .error osipBadparameter

/-- The mandatory member of a URI, and of a header that has one. -/
def Uri.complete (url : Uri) : Bool := url.host.isSome || url.string.isSome
def From.complete (header : From) : Bool := header.url.all Uri.complete
def Via.complete (via : Via) : Bool := via.version.isSome && via.protocol.isSome && via.host.isSome
def CallId.complete (callid : CallId) : Bool := callid.number.isSome
def Cseq.complete (cseq : Cseq) : Bool := cseq.method.isSome && cseq.number.isSome
def CallInfo.complete (callInfo : CallInfo) : Bool := callInfo.element.isSome
def WwwAuthenticate.complete (wwwa : WwwAuthenticate) : Bool := wwwa.authType.isSome
def Header.complete (header : Header) : Bool := header.hname.isSome

def osipContentTypeClone (ctt : ContentType) : Except Int ContentType := .ok ctt
def osipContentLengthClone (ctl : ContentLength) : Except Int ContentLength := .ok ctl
def osipCallInfoClone (ctt : CallInfo) : Except Int CallInfo := cloneIf CallInfo.complete ctt
def osipAuthorizationClone (auth : AuthorizationHeader) : Except Int AuthorizationHeader := .ok auth
def osipWwwAuthenticateClone (wwwa : WwwAuthenticate) : Except Int WwwAuthenticate :=
  cloneIf WwwAuthenticate.complete wwwa
def osipAuthenticationInfoClone (ainfo : AuthenticationInfo) : Except Int AuthenticationInfo :=
  .ok ainfo
def osipHeaderClone (header : Header) : Except Int Header := cloneIf Header.complete header

end Exosip
