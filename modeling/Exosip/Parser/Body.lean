import Exosip.Parser.Headers

/-! The bodies of a message: `osip_body_to_str`, `osip_body_clone` and the parser of a MIME
part. A payload is a list of bytes that may hold NULs; its length is the list's. -/
namespace Exosip

open CString

/-- `osip_body_t`; a body without a buffer has an empty payload. -/
structure Body where
  body : Str
  headers : List Header
  contentType : Option ContentType
  deriving DecidableEq, Repr

def crlf : Str := ['\r', '\n']

/-- What `osip_str_append` adds for a text, and a line break. -/
def textLine (text : Str) : Str := cString text ++ crlf

def headersToStr : List Header → Except Int Str
  | [] => .ok []
  | header :: headers => do
      .ok (textLine (← osipHeaderToStr header) ++ (← headersToStr headers))

namespace Body

/-- `osip_body_init`. -/
def init : Body := ⟨[], [], none⟩

/-- `osip_body_clone`. -/
def clone (body : Body) : Except Int Body :=
  if body.body = [] then .error osipBadparameter
  else if body.headers.all Header.complete then .ok body
  else .error osipBadparameter

def contentTypeToStr (contentType : Option ContentType) : Except Int Str :=
  match contentType with
  | none => .ok []
  | some contentType => do
      .ok ("content-type: ".toList ++ textLine (← osipContentTypeToStr contentType))

/-- `osip_body_to_str`: the part headers and an empty line, if any, and the payload. -/
def toStr (body : Body) : Except Int Str :=
  if body.body = [] then .error osipBadparameter
  else do
    let contentType ← contentTypeToStr body.contentType
    let headers ← headersToStr body.headers
    let separator := if body.headers ≠ [] ∨ body.contentType.isSome then crlf else []
    .ok (contentType ++ headers ++ separator ++ body.body)

end Body

/-- `__osip_find_next_crlf`: where the next line begins. -/
def osipFindNextCrlf (startOfHeader : Str) : Except Int Nat :=
  match (cString startOfHeader).findIdx? fun c => c == '\r' || c == '\n' with
  | none => .error osipSyntaxerror
  | some soh =>
      let soh :=
        if startOfHeader[soh]? = some '\r' ∧ startOfHeader[soh + 1]? = some '\n' then soh + 1
        else soh
      let next := startOfHeader[soh + 1]?
      if next = some ' ' ∨ next = some '\t' then .error (-2) else .ok (soh + 1)

namespace Body

/-- `osip_body_set_contenttype`. -/
def setContenttype (body : Body) (hvalue : Str) : Except Int Body := do
  .ok { body with contentType := some (← ContentType.parse hvalue) }

/-- `osip_body_set_header`. -/
def setHeader (body : Body) (hname hvalue : Str) : Body :=
  { body with headers := body.headers ++ [⟨some hname, some hvalue⟩] }

def storeHeader (body : Body) (hname hvalue : Str) : Except Int Body :=
  if osipStrncasecmp hname "content-type".toList 12 then setContenttype body hvalue
  else .ok (setHeader body hname hvalue)

def atLineBreak (s : Str) : Bool := s.head? == some '\r' || s.head? == some '\n'

/-- The name and the value of the header line that ends before `endOfLine`. -/
def headerLine (startOfLine : Str) (endOfLine : Nat) : Except Int (Str × Str) :=
  match (cString startOfLine).findIdx? (· == ':') with
  | none => .error osipSyntaxerror
  | some colon =>
      if colon < 1 then .error osipSyntaxerror
      else if endOfLine < colon + 4 then .error osipSyntaxerror
      else
        .ok (osipClrncpy startOfLine colon,
          osipClrncpy (startOfLine.drop (colon + 1)) (endOfLine - 2 - colon - 1))

/-- Where the next line of the part begins; a folded line is refused as too short. -/
def endOfLine (startOfLine : Str) : Except Int Nat :=
  match osipFindNextCrlf startOfLine with
  | .error _ => .error osipSyntaxerror
  | .ok endOfLine => .ok endOfLine

/-- `osip_body_parse_header`: the header lines up to an empty one, and where that begins. -/
def parseHeader : Nat → Body → Str → Except Int (Body × Str)
  | 0, _, _ => .error osipUndefinedError
  | fuel + 1, body, startOfLine => do
      let endOfLine ← endOfLine startOfLine
      let (hname, hvalue) ← headerLine startOfLine endOfLine
      let body ← storeHeader body hname hvalue
      let rest := startOfLine.drop endOfLine
      if atLineBreak rest then .ok (body, rest) else parseHeader fuel body rest

def skipEmptyLine (s : Str) : Except Int Str :=
  match s with
  | '\r' :: '\n' :: rest => .ok rest
  | c :: rest => if c = '\r' ∨ c = '\n' then .ok rest else .error osipSyntaxerror
  | [] => .error osipSyntaxerror

/-- `osip_body_parse_mime` on a body just initialised. -/
def parseMime (startOfBody : Str) : Except Int Body := do
  let (body, rest) ← parseHeader (startOfBody.length + 1) init startOfBody
  let payload ← skipEmptyLine rest
  if payload = [] then .error osipSyntaxerror else .ok { body with body := payload }

end Body
end Exosip
