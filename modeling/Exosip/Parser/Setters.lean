import Exosip.Parser.Serialise

/-! The functions that change a message: the setters of the start line, one setter for each
kind of header, the generic headers, the bodies and the fix of the top Via. -/
namespace Exosip

open CString

/-- The header parsers that the setters call and whose results are only stored here. -/
structure HeaderParsers where
  fromParse : Str → Except Int From
  authorizationParse : Str → Except Int AuthorizationHeader
  wwwAuthenticateParse : Str → Except Int WwwAuthenticate
  authenticationInfoParse : Str → Except Int AuthenticationInfo

instance : Inhabited HeaderParsers where
  default :=
    { fromParse := fun _ => .error osipSyntaxerror
      authorizationParse := fun _ => .error osipSyntaxerror
      wwwAuthenticateParse := fun _ => .error osipSyntaxerror
      authenticationInfoParse := fun _ => .error osipSyntaxerror }

namespace HeaderParsers

/-- `osip_contact_parse`. -/
def contactParse (parsers : HeaderParsers) (hvalue : Str) : Except Int Contact :=
  if hvalue.head? = some '*' then .ok ⟨some hvalue, none, []⟩ else parsers.fromParse hvalue

end HeaderParsers

def osipCallIdParse (hvalue : Str) : Except Int CallId :=
  let host := (strchr hvalue '@').getD []
  if pointerDiff host hvalue + 1 < 2 then .error osipSyntaxerror
  else
    .ok
      { number := some (osipClrncpy hvalue (pointerDiff host hvalue))
        host := (strchr hvalue '@').map fun host => osipClrncpy host.tail host.tail.length }

/-- `osip_cseq_parse`: the NUL is counted to the method, and blanks before it are kept. -/
def osipCseqParse (hvalue : Str) : Except Int Cseq := do
  let method ← strchrOrError hvalue ' '
  syntaxCheck (2 ≤ pointerDiff method hvalue + 1)
  .ok
    { method := some (method.tail.dropWhile isBlank)
      number := some (osipClrncpy hvalue (pointerDiff method hvalue)) }

/-- An element up to `params` and the parameters from there on. -/
def elementParse (hvalue params : Str) : Except Int CallInfo := do
  let genParams ← if params = [] then .ok [] else GenericParam.parseall [] params
  syntaxCheck (2 ≤ pointerDiff params hvalue + 1)
  .ok ⟨some (osipClrncpy hvalue (pointerDiff params hvalue)), genParams⟩

def osipCallInfoParse (hvalue : Str) : Except Int CallInfo := do
  let params ← strchrOrError hvalue '<'
  let params ← strchrOrError params.tail '>'
  elementParse hvalue ((strchr params.tail ';').getD [])

def osipAcceptEncodingParse (hvalue : Str) : Except Int AcceptEncoding :=
  elementParse hvalue ((strchr hvalue ';').getD [])

def osipContentLengthParse (hvalue : Str) : Except Int ContentLength :=
  if hvalue.length + 1 < 2 then .error osipSyntaxerror else .ok ⟨some hvalue⟩

namespace SipMessage

def withFields (sip : SipMessage) (fields : SipFields) : SipMessage := { sip with fields }

/-- The fields replaced, and `message_property` set. -/
def updated (sip : SipMessage) (fields : SipFields) : SipMessage :=
  { sip with fields, messageProperty := 2 }

/-! ### The start line -/

def setReasonPhrase (sip : SipMessage) (reason : Option Str) : SipMessage :=
  sip.withFields { sip.fields with reasonPhrase := reason }

def setStatusCode (sip : SipMessage) (statusCode : Int) : SipMessage :=
  sip.withFields { sip.fields with statusCode }

def setMethod (sip : SipMessage) (sipMethod : Option Str) : SipMessage :=
  sip.withFields { sip.fields with sipMethod }

def setVersion (sip : SipMessage) (sipVersion : Option Str) : SipMessage :=
  sip.withFields { sip.fields with sipVersion }

def setUri (sip : SipMessage) (url : Option Uri) : SipMessage :=
  sip.withFields { sip.fields with reqUri := url }

/-! ### Headers of a known kind -/

/-- A setter that appends the parsed header to its list; an empty value is no header. -/
def setList {α : Type} (sip : SipMessage) (hvalue : Option Str) (parse : Str → Except Int α)
    (add : α → SipFields) : Int × SipMessage :=
  if hvalue.getD [] = [] then (osipSuccess, sip)
  else
    match parse (hvalue.getD []) with
    | .error i => (i, sip)
    | .ok header => (osipSuccess, sip.updated (add header))

/-- A setter of a header that is stored singly: it is refused with `alreadySet` when there is
one, and `message_property` is set before the value is parsed. -/
def setSimple {α : Type} (sip : SipMessage) (hvalue : Option Str) (current : Option α)
    (alreadySet : Int) (parse : Str → Except Int α) (set : α → SipFields) : Int × SipMessage :=
  if hvalue.getD [] = [] then (osipSuccess, sip)
  else if current.isSome then (alreadySet, sip)
  else
    match parse (hvalue.getD []) with
    | .error i => (i, sip.updated sip.fields)
    | .ok header => (osipSuccess, sip.updated (set header))

variable (parsers : HeaderParsers) (sip : SipMessage) (hvalue : Option Str)

def setVia : Int × SipMessage :=
  setList sip hvalue osipViaParse fun h => { sip.fields with vias := sip.fields.vias ++ [h] }

def setRecordRoute : Int × SipMessage :=
  setList sip hvalue parsers.fromParse fun h =>
    { sip.fields with recordRoutes := sip.fields.recordRoutes ++ [h] }

def setRoute : Int × SipMessage :=
  setList sip hvalue parsers.fromParse fun h => { sip.fields with routes := sip.fields.routes ++ [h] }

def setContact : Int × SipMessage :=
  setList sip hvalue parsers.contactParse fun h =>
    { sip.fields with contacts := sip.fields.contacts ++ [h] }

def setAuthorization : Int × SipMessage :=
  setList sip hvalue parsers.authorizationParse fun h =>
    { sip.fields with authorizations := sip.fields.authorizations ++ [h] }

def setWwwAuthenticate : Int × SipMessage :=
  setList sip hvalue parsers.wwwAuthenticateParse fun h =>
    { sip.fields with wwwAuthenticates := sip.fields.wwwAuthenticates ++ [h] }

def setProxyAuthenticate : Int × SipMessage :=
  setList sip hvalue parsers.wwwAuthenticateParse fun h =>
    { sip.fields with proxyAuthenticates := sip.fields.proxyAuthenticates ++ [h] }

def setProxyAuthorization : Int × SipMessage :=
  setList sip hvalue parsers.authorizationParse fun h =>
    { sip.fields with proxyAuthorizations := sip.fields.proxyAuthorizations ++ [h] }

def setAuthenticationInfo : Int × SipMessage :=
  setList sip hvalue parsers.authenticationInfoParse fun h =>
    { sip.fields with authenticationInfos := sip.fields.authenticationInfos ++ [h] }

def setProxyAuthenticationInfo : Int × SipMessage :=
  setList sip hvalue parsers.authenticationInfoParse fun h =>
    { sip.fields with proxyAuthenticationInfos := sip.fields.proxyAuthenticationInfos ++ [h] }

def setCallInfo : Int × SipMessage :=
  setList sip hvalue osipCallInfoParse fun h =>
    { sip.fields with callInfos := sip.fields.callInfos ++ [h] }

def setAlertInfo : Int × SipMessage :=
  setList sip hvalue osipCallInfoParse fun h =>
    { sip.fields with alertInfos := sip.fields.alertInfos ++ [h] }

def setErrorInfo : Int × SipMessage :=
  setList sip hvalue osipCallInfoParse fun h =>
    { sip.fields with errorInfos := sip.fields.errorInfos ++ [h] }

def setAcceptEncoding : Int × SipMessage :=
  setList sip hvalue osipAcceptEncodingParse fun h =>
    { sip.fields with acceptEncodings := sip.fields.acceptEncodings ++ [h] }

def setAcceptLanguage : Int × SipMessage :=
  setList sip hvalue osipAcceptEncodingParse fun h =>
    { sip.fields with acceptLanguages := sip.fields.acceptLanguages ++ [h] }

def setAllow : Int × SipMessage :=
  setList sip hvalue osipContentLengthParse fun h =>
    { sip.fields with allows := sip.fields.allows ++ [h] }

def setContentEncoding : Int × SipMessage :=
  setList sip hvalue osipContentLengthParse fun h =>
    { sip.fields with contentEncodings := sip.fields.contentEncodings ++ [h] }

/-- `osip_message_set_accept`: the one list whose setter keeps a header without a value. -/
def setAccept : Int × SipMessage :=
  match ContentType.parse (hvalue.getD []) with
  | .error i => (i, sip)
  | .ok h =>
      (osipSuccess, sip.updated { sip.fields with accepts := sip.fields.accepts ++ [h] })

def setFrom : Int × SipMessage :=
  setSimple sip hvalue sip.fields.fromHeader osipSyntaxerror parsers.fromParse fun h =>
    { sip.fields with fromHeader := some h }

def setTo : Int × SipMessage :=
  setSimple sip hvalue sip.fields.toHeader osipSyntaxerror parsers.fromParse fun h =>
    { sip.fields with toHeader := some h }

def setCallId : Int × SipMessage :=
  setSimple sip hvalue sip.fields.callId osipSyntaxerror osipCallIdParse fun h =>
    { sip.fields with callId := some h }

def setCseq : Int × SipMessage :=
  setSimple sip hvalue sip.fields.cseq osipBadparameter osipCseqParse fun h =>
    { sip.fields with cseq := some h }

/-- `osip_message_set_content_type` looks for a header before it looks at the value. -/
def setContentType : Int × SipMessage :=
  if sip.fields.contentType.isSome then (osipBadparameter, sip)
  else
    setSimple sip hvalue sip.fields.contentType osipBadparameter ContentType.parse fun h =>
      { sip.fields with contentType := some h }

def setContentLength : Int × SipMessage :=
  setSimple sip hvalue sip.fields.contentLength osipSyntaxerror osipContentLengthParse fun h =>
    { sip.fields with contentLength := some h }

def setMimeVersion : Int × SipMessage :=
  setSimple sip hvalue sip.fields.mimeVersion osipSyntaxerror osipContentLengthParse fun h =>
    { sip.fields with mimeVersion := some h }

/-- `osip_message_append_via`: a Via at the first position. -/
def appendVia : Int × SipMessage :=
  match hvalue with
  | none => (osipBadparameter, sip)
  | some hvalue =>
      match osipViaParse hvalue with
      | .error i => (i, sip)
      | .ok via =>
          (osipSuccess, sip.updated { sip.fields with vias := via :: sip.fields.vias })

/-! ### Generic headers -/

def newHeader (hname : Str) (hvalue : Option Str) : Header :=
  ⟨some (osipClrncpy hname hname.length),
    hvalue.map fun hvalue => osipClrncpy hvalue hvalue.length⟩

def setGeneric (hname : Option Str) (change : Str → List Header) : Int × SipMessage :=
  match hname with
  | none => (osipBadparameter, sip)
  | some hname => (osipSuccess, sip.updated { sip.fields with headers := change hname })

def setHeader (hname : Option Str) : Int × SipMessage :=
  setGeneric sip hname fun hname => sip.fields.headers ++ [newHeader hname hvalue]

def setTopheader (hname : Option Str) : Int × SipMessage :=
  setGeneric sip hname fun hname => newHeader hname hvalue :: sip.fields.headers

/-- `osip_message_header_get_byname` from the first position on. -/
def headerGetByname (headers : List Header) (hname : Str) : Option Nat :=
  headers.findIdx? fun header => osipStrcasecmp (header.hname.getD []) hname

/-- `osip_message_replace_header`: the first header of that name goes, the new one is last. -/
def replaceHeader (hname : Option Str) : Int × SipMessage :=
  setGeneric sip hname fun hname =>
    (match headerGetByname sip.fields.headers hname with
      | none => sip.fields.headers
      | some oldpos => sip.fields.headers.eraseIdx oldpos) ++ [newHeader hname hvalue]

/-! ### Bodies and the top Via -/

/-- `osip_message_set_body` and `osip_message_set_body_mime`. -/
def addBody (parse : Str → Except Int Body) (buf : Option Str) : Int × SipMessage :=
  match buf with
  | none => (osipBadparameter, sip)
  | some buf =>
      match parse buf with
      | .error i => (i, sip)
      | .ok body =>
          (osipSuccess, sip.updated { sip.fields with bodies := sip.fields.bodies ++ [body] })

def setBody (buf : Option Str) : Int × SipMessage :=
  addBody sip (fun buf => .ok { Body.init with body := buf }) buf

def setBodyMime (buf : Option Str) : Int × SipMessage := addBody sip Body.parseMime buf

/-- `osip_message_fix_last_via_header`. -/
def fixLastViaHeader (ipAddr : Str) (port : Nat) : Int × SipMessage :=
  if sip.fields.statusCode ≠ 0 then (osipSuccess, sip)
  else
    match sip.fields.vias with
    | [] => (osipBadparameter, sip)
    | via :: vias =>
        match via.host with
        | none => (osipBadparameter, sip)
        | some host =>
            (osipSuccess,
              sip.withFields { sip.fields with vias := fixLastVia via host ipAddr port :: vias })

theorem fixLastViaHeader_toMessage (ipAddr : Str) (port : Nat) :
    (sip.fixLastViaHeader ipAddr port).2.fields.toMessage =
      (osipMessageFixLastViaHeader sip.fields.toMessage ipAddr port).1 := by
  unfold fixLastViaHeader osipMessageFixLastViaHeader Message.isResponse
  have hstatus : decide (sip.fields.toMessage.statusCode ≠ 0) = decide (sip.fields.statusCode ≠ 0) :=
    rfl
  by_cases hresponse : sip.fields.statusCode = 0
  · rw [hstatus, if_neg (not_not.2 hresponse), if_neg (by simp [hresponse])]
    have hvias : sip.fields.toMessage.vias = sip.fields.vias := rfl
    rw [hvias]
    cases sip.fields.vias with
    | nil => rfl
    | cons via vias =>
        dsimp only
        cases via.host with
        | none => rfl
        | some host => rfl
  · rw [hstatus, if_pos hresponse, if_pos (decide_eq_true hresponse)]

end SipMessage
end Exosip
