import Exosip.Parser.Cache
import Exosip.Parser.Lws

/-! `osip_message_parse`: the start line, the header lines and the bodies of a buffer. -/
namespace Exosip

open CString

/-- The parsers whose results are only stored here, with the one of the request-URI. -/
structure MessageParsers extends HeaderParsers where
  uriParse : Str → Except Int Uri

instance : Inhabited MessageParsers where
  default := { toHeaderParsers := default, uriParse := fun _ => .error osipSyntaxerror }

namespace SipMessage

/-! ### The start line -/

def isLineBreak (c : Char) : Bool := c == '\r' || c == '\n'

/-- `strchr`, as the distance to the character. -/
def indexOf (s : Str) (c : Char) : Except Int Nat :=
  match (cString s).findIdx? (· == c) with
  | none => .error osipSyntaxerror
  | some i => .ok i

/-- What follows the line break at `hp`. -/
def afterLineBreak : Str → Str
  | '\r' :: '\n' :: headers => headers
  | _ :: headers => headers
  | [] => []

/-- The SIP version at the end of a request line, and where the headers begin. -/
def versionParse (hp : Str) : Except Int (Str × Str) :=
  if (cString hp).length < 7 then .error osipSyntaxerror
  else if ¬ osipStrncasecmp hp "SIP/".toList 4 then .error osipSyntaxerror
  else
    let digits := (hp.drop 4).takeWhile fun c => c.isDigit || c == '.'
    let lineEnd := hp.drop (4 + digits.length)
    if lineEnd.head?.any isLineBreak then .ok (hp.take (4 + digits.length), afterLineBreak lineEnd)
    else .error osipSyntaxerror

variable (parsers : MessageParsers)

/-- `__osip_message_startline_parsereq`. -/
def startlineParsereq (sip : SipMessage) (buf : Str) : Except Int (SipMessage × Str) := do
  let p2 ← indexOf buf ' '
  if (cString buf).length ≤ p2 + 2 then .error osipSyntaxerror
  else if p2 = 0 then .error osipSyntaxerror
  else
    let p1 := p2 + 2 + (← indexOf (buf.drop (p2 + 2)) ' ')
    match parsers.uriParse (osipClrncpy (buf.drop (p2 + 1)) (p1 - p2 - 1)) with
    | .error _ => .error osipSyntaxerror
    | .ok reqUri =>
        let (sipVersion, headers) ← versionParse (buf.drop (p1 + 1))
        .ok
          (sip.withFields
            { sip.fields with
              sipMethod := some (buf.take p2)
              statusCode := 0
              reasonPhrase := none
              reqUri := some reqUri
              sipVersion := some sipVersion }, headers)

/-- `sscanf (s, "%d", &n)`. -/
def scanInt (s : Str) : Option Int :=
  let text := s.dropWhile isSpace
  let digits := if text.head? = some '-' ∨ text.head? = some '+' then text.tail else text
  if digits.head?.any Char.isDigit then some (atoi s) else none

/-- `__osip_message_startline_parseresp`. -/
def startlineParseresp (sip : SipMessage) (buf : Str) : Except Int (SipMessage × Str) := do
  let statuscode ← indexOf buf ' '
  let reasonphrase := statuscode + 1 + (← indexOf (buf.drop (statuscode + 1)) ' ')
  match scanInt (buf.drop (statuscode + 1)) with
  | none => .error osipSyntaxerror
  | some code =>
      if code = 0 then .error osipSyntaxerror
      else
        let line := buf.drop reasonphrase
        match (cString line).findIdx? isLineBreak with
        | none => .error osipSyntaxerror
        | some hp =>
            .ok
              (sip.withFields
                { sip.fields with
                  reqUri := none
                  sipMethod := none
                  sipVersion := some (buf.take statuscode)
                  statusCode := code
                  reasonPhrase := some ((line.take hp).drop 1) }, afterLineBreak (line.drop hp))

/-- `__osip_message_startline_parse`. -/
def startlineParse (sip : SipMessage) (buf : Str) : Except Int (SipMessage × Str) :=
  if "SIP/".toList.isPrefixOf buf then sip.startlineParseresp buf
  else sip.startlineParsereq parsers buf

/-! ### The headers -/

/-- The table of `parser_init`: the setter of a header, and whether an invalid value is only
left out. The hash has no conflicts, so that a search finds the same row. -/
def pconfig : List (String × HeaderKind × Bool) :=
  [("accept", .accept, true), ("accept-encoding", .acceptEncoding, true),
    ("accept-language", .acceptLanguage, true), ("alert-info", .alertInfo, true),
    ("allow", .allow, true), ("authentication-info", .authenticationInfo, true),
    ("authorization", .authorization, true), ("c", .contentType, false),
    ("call-id", .callId, false), ("call-info", .callInfo, true), ("contact", .contact, false),
    ("content-encoding", .contentEncoding, true), ("content-length", .contentLength, false),
    ("content-type", .contentType, false), ("cseq", .cseq, false), ("e", .contentEncoding, true),
    ("error-info", .errorInfo, true), ("f", .fromHeader, false), ("from", .fromHeader, false),
    ("i", .callId, false), ("l", .contentLength, false), ("m", .contact, false),
    ("mime-version", .mimeVersion, true), ("proxy-authenticate", .proxyAuthenticate, true),
    ("proxy-authentication-info", .proxyAuthenticationInfo, true),
    ("proxy-authorization", .proxyAuthorization, true), ("record-route", .recordRoute, true),
    ("route", .route, true), ("t", .toHeader, false), ("to", .toHeader, false),
    ("v", .via, false), ("via", .via, false), ("www-authenticate", .wwwAuthenticate, true)]

/-- `osip_message_set__header`. -/
def setOneHeader (sip : SipMessage) (hname : Str) (hvalue : Option Str) : Except Int SipMessage :=
  match pconfig.find? fun row => row.1.toList == hname with
  | none => .ok (sip.setHeader hvalue (some hname)).2
  | some (_, kind, ignoredWhenInvalid) =>
      let result := sip.setKnown parsers.toHeaderParsers kind hvalue
      if ignoredWhenInvalid ∨ result.1 = 0 then .ok result.2 else .error result.1

def commaHeaders : List String :=
  ["date", "t", "to", "f", "from", "i", "call-id", "cseq", "s", "subject", "expires", "server",
    "user-agent", "www-authenticate", "authentication-info", "proxy-authenticate",
    "proxy-authorization", "proxy-authentication-info", "organization", "authorization", "r",
    "refer-to", "b", "referred-by"]

/-- A `'<'` with a URI behind it that is closed later. -/
def opensUri (ptr : Str) : Bool :=
  (["sip:", "sips:", "http:", "https:", "tel:"].any fun scheme =>
    osipStrncasecmp ptr.tail scheme.toList scheme.length) && ptr.contains '>'

/-- The search for commas outside of quotes and URIs; `beg` is the value in progress. The
count of backslashes before a quote begins at the quote itself and is always zero. -/
def splitValues (hname : Str) (sip : SipMessage) (beg : Str) (inquotes inuri : Bool) :
    Str → Except Int SipMessage
  | [] =>
      if beg = [] then .ok sip
      else setOneHeader parsers sip hname (some (osipClrncpy beg beg.length))
  | c :: ptr =>
      if c = ',' ∧ ¬ inquotes ∧ ¬ inuri then
        if beg = [] then splitValues hname sip [] inquotes inuri ptr
        else
          match setOneHeader parsers sip hname (some (osipClrncpy beg beg.length)) with
          | .error i => .error i
          | .ok sip => splitValues hname sip [] inquotes inuri ptr
      else
        splitValues hname sip (beg ++ [c]) (if c = '"' then !inquotes else inquotes)
          (if c = '<' ∧ ¬ inquotes then inuri || opensUri (c :: ptr)
            else if c = '>' ∧ ¬ inquotes then false else inuri) ptr

/-- `osip_message_set_multiple_header`. -/
def setMultipleHeader (sip : SipMessage) (hname : Str) (hvalue : Option Str) :
    Except Int SipMessage :=
  let hname := hname.map tolower
  match hvalue with
  | none => setOneHeader parsers sip hname none
  | some value =>
      if ',' ∉ value ∨ hname ∈ commaHeaders.map String.toList then
        setOneHeader parsers sip hname (some value)
      else splitValues parsers hname sip [] false false value

/-- The name and the value of the header line that ends before `endOfHeader`. -/
def nameAndValue (startOfHeader : Str) (endOfHeader : Nat) : Except Int (Str × Option Str) := do
  let colon ← indexOf startOfHeader ':'
  if colon < 1 then .error osipSyntaxerror
  else if endOfHeader ≤ colon then .error osipSyntaxerror
  else
    let lineEnd :=
      if (startOfHeader[endOfHeader - 2]?).any isLineBreak then endOfHeader - 2
      else endOfHeader - 1
    .ok (osipClrncpy startOfHeader colon,
      if lineEnd < colon + 2 then none
      else some (osipClrncpy (startOfHeader.drop (colon + 1)) (lineEnd - colon - 1)))

/-- `msg_headers_parse`: the message and, when the end of the headers was found, the buffer
from the empty line on. A folded line has no end and is refused. -/
def msgHeadersParse : Nat → SipMessage → Str → Except Int (SipMessage × Option Str)
  | 0, _, _ => .error osipUndefinedError
  | fuel + 1, sip, startOfHeader =>
      if cString startOfHeader = [] then .ok (sip, none)
      else
        match osipFindNextCrlf startOfHeader with
        | .error i =>
            if i = -2 ∧ Body.atLineBreak startOfHeader then .ok (sip, some startOfHeader)
            else .error osipSyntaxerror
        | .ok endOfHeader =>
            if Body.atLineBreak startOfHeader then .ok (sip, some startOfHeader)
            else do
              let (hname, hvalue) ← nameAndValue startOfHeader endOfHeader
              match setMultipleHeader parsers sip hname hvalue with
              | .error _ => .error osipSyntaxerror
              | .ok sip => msgHeadersParse fuel sip (startOfHeader.drop endOfHeader)

/-! ### The bodies -/

/-- The buffer behind the first line break. -/
def startOfSingleBody (startOfBuf : Str) : Except Int Str :=
  if startOfBuf.head?.any isLineBreak then .ok (afterLineBreak startOfBuf)
  else .error osipSyntaxerror

/-- The branch of `msg_osip_body_parse` for one body. -/
def singleBodyParse (sip : SipMessage) (startOfBuf : Str) : Except Int SipMessage := do
  let body ← startOfSingleBody startOfBuf
  if body = [] then .error osipSyntaxerror
  else
    let bodyLen :=
      match sip.fields.contentLength with
      | some contentLength => (osipAtoi (contentLength.value.getD [])).toNat
      | none => body.length
    let sip :=
      if sip.fields.contentLength.isSome then sip
      else (sip.setContentLength (some (SipFields.sizeToStr bodyLen))).2
    if body.length < bodyLen then .error osipSyntaxerror
    else .ok (sip.setBody (some (body.take bodyLen))).2

def boundaryValue (genParams : List GenericParam) : Except Int Str :=
  match GenericParam.getByname genParams "boundary".toList with
  | none => .error osipUndefinedError
  | some param =>
      match param.gvalue with
      | none => .error osipSyntaxerror
      | some gvalue => .ok gvalue

/-- `msg_osip_body_parse`. -/
def bodyParse (sip : SipMessage) (startOfBuf : Str) : Result SipMessage :=
  match sip.fields.contentType with
  | some ⟨some type, some _, genParams⟩ =>
      if osipStrcasecmp type "multipart".toList then do
        let gvalue ← SipFields.returnCode (boundaryValue genParams)
        let bodies ← (msgOsipBodyParse gvalue startOfBuf).2
        .ok (sip.updated { sip.fields with bodies := sip.fields.bodies ++ bodies })
      else SipFields.returnCode (sip.singleBodyParse startOfBuf)
  | _ => .ok sip

def bodyExists (sip : SipMessage) (startOfBuf : Str) : Bool :=
  match sip.fields.contentLength with
  | some contentLength => 0 < osipAtoi (contentLength.value.getD [])
  | none =>
      (crlf.isPrefixOf startOfBuf && startOfBuf.length ≠ 2) ||
        (startOfBuf.head? == some '\n' && startOfBuf.length ≠ 1)

def withContentLength (sip : SipMessage) : SipMessage :=
  if sip.fields.contentLength.isSome then sip else (sip.setContentLength (some ['0'])).2

/-- What is done from the end of the headers on. -/
def parseBodies (sip : SipMessage) (startOfBuf : Str) : Result SipMessage :=
  if sip.bodyExists startOfBuf then (sip.bodyParse startOfBuf).map withContentLength
  else .ok sip.withContentLength

/-- `osip_message_parse` on a message just initialised. -/
def parse (buf : Str) : Result SipMessage := do
  let tmp := osipUtilReplaceAllLws (buf.dropWhile isLineBreak)
  let (sip, headers) ← SipFields.returnCode (init.startlineParse parsers tmp)
  let (sip, body) ←
    SipFields.returnCode (msgHeadersParse parsers (headers.length + 1) sip headers)
  sip.parseBodies (body.getD headers)

end SipMessage
end Exosip
