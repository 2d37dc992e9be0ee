import Exosip.Parser.Multipart

/-! The whole `osip_message_t` and `osip_message_to_str`, which answers from the cached
serialisation when that is valid and otherwise builds and caches a new one. -/
namespace Exosip

open CString

/-- What a message says: the start line, the headers and the bodies. -/
structure SipFields where
  sipVersion : Option Str
  reqUri : Option Uri
  sipMethod : Option Str
  statusCode : Int
  reasonPhrase : Option Str
  accepts : List Accept
  acceptEncodings : List AcceptEncoding
  acceptLanguages : List AcceptLanguage
  alertInfos : List AlertInfo
  allows : List Allow
  authenticationInfos : List AuthenticationInfo
  authorizations : List AuthorizationHeader
  callId : Option CallId
  callInfos : List CallInfo
  contacts : List Contact
  contentEncodings : List ContentEncoding
  contentLength : Option ContentLength
  contentType : Option ContentType
  cseq : Option Cseq
  errorInfos : List ErrorInfo
  fromHeader : Option From
  mimeVersion : Option MimeVersion
  proxyAuthenticates : List WwwAuthenticate
  proxyAuthenticationInfos : List AuthenticationInfo
  proxyAuthorizations : List AuthorizationHeader
  recordRoutes : List RecordRoute
  routes : List Route
  toHeader : Option To
  vias : List Via
  wwwAuthenticates : List WwwAuthenticate
  headers : List Header
  bodies : List Body
  deriving DecidableEq, Repr

/-- The message with its cached serialisation: `message` is the buffer without the NUL that
ends it, and it is valid while `messageProperty` is 1. -/
structure SipMessage where
  fields : SipFields
  messageProperty : Int
  message : Option Str
  messageLength : Nat
  deriving DecidableEq, Repr

def SipFields.init : SipFields where
  sipVersion := none
  reqUri := none
  sipMethod := none
  statusCode := 0
  reasonPhrase := none
  accepts := []
  acceptEncodings := []
  acceptLanguages := []
  alertInfos := []
  allows := []
  authenticationInfos := []
  authorizations := []
  callId := none
  callInfos := []
  contacts := []
  contentEncodings := []
  contentLength := none
  contentType := none
  cseq := none
  errorInfos := []
  fromHeader := none
  mimeVersion := none
  proxyAuthenticates := []
  proxyAuthenticationInfos := []
  proxyAuthorizations := []
  recordRoutes := []
  routes := []
  toHeader := none
  vias := []
  wwwAuthenticates := []
  headers := []
  bodies := []

/-- `osip_message_init`. -/
def SipMessage.init : SipMessage := ⟨.init, 3, none, 0⟩

namespace SipFields

def toMessage (sip : SipFields) : Message where
  sipVersion := sip.sipVersion
  reqUri := sip.reqUri
  sipMethod := sip.sipMethod
  statusCode := sip.statusCode
  reasonPhrase := sip.reasonPhrase
  authorizations := sip.authorizations.map AuthorizationHeader.toAuthorization
  callId := sip.callId
  cseq := sip.cseq
  fromHeader := sip.fromHeader
  proxyAuthorizations := sip.proxyAuthorizations.map AuthorizationHeader.toAuthorization
  routes := sip.routes
  toHeader := sip.toHeader
  vias := sip.vias

/-! ### The start line -/

def version (sip : SipFields) : Str := sip.sipVersion.getD "SIP/2.0".toList

/-- `__osip_message_startline_to_strreq`. -/
def startlineToStrreq (sip : SipFields) : Except Int Str :=
  match sip.reqUri, sip.sipMethod with
  | some reqUri, some sipMethod => do
      .ok (sipMethod ++ ' ' :: (← osipUriToStr reqUri) ++ ' ' :: sip.version)
  | _, _ => .error osipBadparameter

/-- `__osip_message_startline_to_strresp`. -/
def startlineToStrresp (sip : SipFields) : Except Int Str :=
  match sip.reasonPhrase with
  | none => .error osipBadparameter
  | some reasonPhrase =>
      if sip.statusCode < 100 ∨ 699 < sip.statusCode then .error osipBadparameter
      else
        .ok (sip.version ++ ' ' :: Nat.toDigits 10 sip.statusCode.toNat ++ ' ' :: reasonPhrase)

/-- `__osip_message_startline_to_str`. -/
def startlineToStr (sip : SipFields) : Except Int Str :=
  if sip.sipMethod.isSome then sip.startlineToStrreq
  else if sip.statusCode ≠ 0 then sip.startlineToStrresp
  else .error osipBadparameter

end SipFields

/-! ### The headers -/

/-- A row of the table of headers, with what `to_str` gives for the header that
`header_data` points at and for those of `header_list`. -/
structure HeaderEntry where
  headerName : Str
  headerList : List (Except Int Str)
  headerData : Option (Except Int Str)

namespace HeaderEntry

def ofList {α : Type} (headerName : String) (toStr : α → Except Int Str) (headers : List α) :
    HeaderEntry :=
  ⟨headerName.toList, headers.map toStr, none⟩

def ofData {α : Type} (headerName : String) (toStr : α → Except Int Str) (header : Option α) :
    HeaderEntry :=
  ⟨headerName.toList, [], header.map toStr⟩

/-- `strcat_simple_header`: the return value and what is appended. The name is there already
when `to_str` fails. -/
def strcatSimpleHeader (entry : HeaderEntry) : Int × Str :=
  match entry.headerData with
  | none => (osipSuccess, [])
  | some (.error i) => (i, entry.headerName)
  | some (.ok tmp) => (osipSuccess, entry.headerName ++ textLine tmp)

def strcatHeadersOnePerLine (headerName : Str) : List (Except Int Str) → Except Int Str
  | [] => .ok []
  | toStr :: headers => do
      .ok (headerName ++ textLine (← toStr) ++ (← strcatHeadersOnePerLine headerName headers))

/-- The loop over the table calls both for every row, whichever of the pointers is set: the
return value of the first call is overwritten by that of the second. -/
def tableToStr : List HeaderEntry → Except Int Str
  | [] => .ok []
  | entry :: table => do
      let simple := entry.strcatSimpleHeader.2
      let lines ← strcatHeadersOnePerLine entry.headerName entry.headerList
      .ok (simple ++ lines ++ (← tableToStr table))

end HeaderEntry

namespace SipFields

open HeaderEntry in
def table (sip : SipFields) : List HeaderEntry :=
  [ofList "Via: " osipViaToStr sip.vias,
    ofList "Record-Route: " osipRecordRouteToStr sip.recordRoutes,
    ofList "Route: " osipRouteToStr sip.routes,
    ofData "From: " osipFromToStr sip.fromHeader,
    ofData "To: " osipToToStr sip.toHeader,
    ofData "Call-ID: " osipCallIdToStr sip.callId,
    ofData "CSeq: " osipCseqToStr sip.cseq,
    ofList "Contact: " osipContactToStr sip.contacts,
    ofList "Authorization: " osipAuthorizationToStr sip.authorizations,
    ofList "WWW-Authenticate: " osipWwwAuthenticateToStr sip.wwwAuthenticates,
    ofList "Proxy-Authenticate: " osipWwwAuthenticateToStr sip.proxyAuthenticates,
    ofList "Proxy-Authorization: " osipAuthorizationToStr sip.proxyAuthorizations,
    ofList "Call-Info: " osipCallInfoToStr sip.callInfos,
    ofData "Content-Type: " osipContentTypeToStr sip.contentType,
    ofData "Mime-Version: " osipContentLengthToStr sip.mimeVersion,
    ofList "Allow: " osipContentLengthToStr sip.allows,
    ofList "Content-Encoding: " osipContentLengthToStr sip.contentEncodings,
    ofList "Alert-Info: " osipCallInfoToStr sip.alertInfos,
    ofList "Error-Info: " osipCallInfoToStr sip.errorInfos,
    ofList "Accept: " osipAcceptToStr sip.accepts,
    ofList "Accept-Encoding: " osipAcceptEncodingToStr sip.acceptEncodings,
    ofList "Accept-Language: " osipAcceptEncodingToStr sip.acceptLanguages,
    ofList "Authentication-Info: " osipAuthenticationInfoToStr sip.authenticationInfos,
    ofList "Proxy-Authentication-Info: " osipAuthenticationInfoToStr sip.proxyAuthenticationInfos]

def headToStr (sip : SipFields) : Except Int Str := do
  let startline ← sip.startlineToStr
  let table ← HeaderEntry.tableToStr sip.table
  let headers ← headersToStr sip.headers
  .ok (textLine startline ++ table ++ headers ++ "Content-Length: ".toList)

/-! ### The bodies -/

def mimeMaxBoundaryLen : Nat := 70

/-- The line break, the dashes and the boundary, when the bodies are to be delimited. A
value that is one quote makes the source copy with a negative length. -/
def boundary (sip : SipFields) : Result (Option Str) :=
  match sip.mimeVersion, sip.contentType with
  | some _, some contentType =>
      if contentType.type.any (osipStrcasecmp · "multipart".toList) then
        match (GenericParam.getByname contentType.genParams "boundary".toList).bind (·.gvalue) with
        | none => .ok none
        | some gvalue =>
            if mimeMaxBoundaryLen < gvalue.length then .error (.code osipSyntaxerror)
            else if gvalue = ['"'] then .error .fault
            else .ok (some ("\r\n--".toList ++ Multipart.unquoted gvalue))
      else .ok none
  | _, _ => .ok none

def delimiter (boundary : Option Str) : Str :=
  (boundary.map textLine).getD []

def closeDelimiter (boundary : Option Str) : Str :=
  (boundary.map fun boundary => cString boundary ++ "--\r\n".toList).getD []

def bodiesToStr (boundary : Option Str) : List Body → Except Int Str
  | [] => .ok (closeDelimiter boundary)
  | body :: bodies => do
      .ok (delimiter boundary ++ (← body.toStr) ++ (← bodiesToStr boundary bodies))

/-- An `int` as `"%i"` prints it. -/
def intToStr : Int → Str
  | .ofNat n => Nat.toDigits 10 n
  | .negSucc n => '-' :: Nat.toDigits 10 (n + 1)

/-- `snprintf (tmp2, 15, "%i", (int) size)`. -/
def sizeToStr (size : Nat) : Str := intToStr (toInt32 size)

/-- `strncpy` over the characters from `pos` on. -/
def overwrite (s : Str) (pos : Nat) (t : Str) : Str :=
  s.take pos ++ t ++ s.drop (pos + t.length)

/-- The width of the place that is kept for the length. -/
def slot : Str := List.replicate 5 ' '

/-- The message with the length of its bodies, written to the right end of its place. -/
def withBodies (head bodies : Str) : Str :=
  overwrite (head ++ slot ++ crlf ++ crlf ++ bodies)
    (head.length + slot.length - (sizeToStr bodies.length).length) (sizeToStr bodies.length)

def returnCode {α : Type} (x : Except Int α) : Result α :=
  x.mapError .code

def serialise (sip : SipFields) : Result Str := do
  let head ← returnCode sip.headToStr
  if sip.bodies = [] then .ok (head ++ '0' :: crlf ++ crlf)
  else
    let bodies ← returnCode (bodiesToStr (← sip.boundary) sip.bodies)
    .ok (withBodies head bodies)

end SipFields

/-! ### The message and its cache -/

/-- The copy of `n` bytes from a buffer that is followed by its NUL. -/
def memcpy (buf : Option Str) (n : Nat) : Result Str :=
  match buf with
  | none => if n = 0 then .ok [] else .error .fault
  | some buf => if n ≤ buf.length + 1 then .ok ((buf ++ ['\x00']).take n) else .error .fault

namespace SipMessage

/-- `osip_message_force_update`. -/
def forceUpdate (sip : SipMessage) : SipMessage := { sip with messageProperty := 2 }

/-- The message as it is cached: without bodies it is kept with `osip_strdup`. -/
def cached (sip : SipMessage) (dest : Str) : SipMessage :=
  { sip with
    messageProperty := 1
    message := some (if sip.fields.bodies = [] then cString dest else dest)
    messageLength := dest.length }

/-- `osip_message_to_str`: the serialisation, which stands for `*dest` and the length; on a
failure `*dest` is NULL. -/
def toStr (sip : SipMessage) : Result Str × SipMessage :=
  if sip.messageProperty = 1 then (memcpy sip.message sip.messageLength, sip)
  else
    match sip.fields.serialise with
    | .error failure => (.error failure, { sip with message := none })
    | .ok dest => (.ok dest, sip.cached dest)

end SipMessage
end Exosip
