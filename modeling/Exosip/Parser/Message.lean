import Exosip.Parser.CString

/-! The parsed SIP message: the headers the transaction layer reads, with the
accessors and the `MSG_IS_xxx` tests it uses. A `char *` that may be NULL is an
`Option Str`; an `osip_list_t` is a list. -/
namespace Exosip

open CString

abbrev osipSuccess : Int := 0
abbrev osipUndefinedError : Int := -1
abbrev osipBadparameter : Int := -2
abbrev osipNomem : Int := -4
abbrev osipSyntaxerror : Int := -5

structure GenericParam where
  gname : Str
  gvalue : Option Str
  deriving DecidableEq, Repr

namespace GenericParam

/-- `osip_uri_param_get_byname`: the first parameter with that name. -/
def getByname (params : List GenericParam) (pname : Str) : Option GenericParam :=
  params.find? fun param => osipStrcasecmp param.gname pname

/-- `osip_uri_param_set` strips both strings before it keeps them. -/
def set (pname : Str) (pvalue : Option Str) : GenericParam :=
  ⟨osipClrspace pname, pvalue.map osipClrspace⟩

/-- `osip_uri_param_add` appends at the end of the list. -/
def add (params : List GenericParam) (pname : Str) (pvalue : Option Str) : List GenericParam :=
  params ++ [set pname pvalue]

end GenericParam

structure Uri where
  scheme : Option Str
  username : Option Str
  password : Option Str
  host : Option Str
  port : Option Str
  urlParams : List GenericParam
  urlHeaders : List GenericParam
  string : Option Str
  deriving DecidableEq, Repr

def Uri.uparamGetByname (url : Uri) (pname : Str) : Option GenericParam :=
  GenericParam.getByname url.urlParams pname

structure From where
  displayname : Option Str
  url : Option Uri
  genParams : List GenericParam
  deriving DecidableEq, Repr

abbrev To := From
abbrev Route := From

structure CallId where
  number : Option Str
  host : Option Str
  deriving DecidableEq, Repr

structure Cseq where
  method : Option Str
  number : Option Str
  deriving DecidableEq, Repr

structure Via where
  version : Option Str
  protocol : Option Str
  host : Option Str
  port : Option Str
  comment : Option Str
  viaParams : List GenericParam
  deriving DecidableEq, Repr

def Via.paramGetByname (via : Via) (pname : Str) : Option GenericParam :=
  GenericParam.getByname via.viaParams pname

structure Authorization where
  authType : Option Str
  username : Option Str
  realm : Option Str
  nonce : Option Str
  uri : Option Str
  response : Option Str
  algorithm : Option Str
  cnonce : Option Str
  opaqueValue : Option Str
  messageQop : Option Str
  nonceCount : Option Str
  deriving DecidableEq, Repr

structure Message where
  sipVersion : Option Str
  reqUri : Option Uri
  sipMethod : Option Str
  statusCode : Int
  reasonPhrase : Option Str
  authorizations : List Authorization
  callId : Option CallId
  cseq : Option Cseq
  fromHeader : Option From
  proxyAuthorizations : List Authorization
  routes : List Route
  toHeader : Option To
  vias : List Via
  deriving DecidableEq, Repr

namespace Message

/-- `osip_message_init`. -/
def init : Message where
  sipVersion := none
  reqUri := none
  sipMethod := none
  statusCode := 0
  reasonPhrase := none
  authorizations := []
  callId := none
  cseq := none
  fromHeader := none
  proxyAuthorizations := []
  routes := []
  toHeader := none
  vias := []

def isResponse (msg : Message) : Bool := msg.statusCode ≠ 0
def isRequest (msg : Message) : Bool := msg.statusCode = 0

/-- `MSG_IS_INVITE` and its siblings: a request with that method. -/
def isMethod (msg : Message) (method : String) : Bool :=
  msg.isRequest && msg.sipMethod == some method.toList

def isInvite (msg : Message) : Bool := msg.isMethod "INVITE"
def isAck (msg : Message) : Bool := msg.isMethod "ACK"
def isRegister (msg : Message) : Bool := msg.isMethod "REGISTER"
def isBye (msg : Message) : Bool := msg.isMethod "BYE"
def isOptions (msg : Message) : Bool := msg.isMethod "OPTIONS"
def isInfo (msg : Message) : Bool := msg.isMethod "INFO"
def isCancel (msg : Message) : Bool := msg.isMethod "CANCEL"
def isNotify (msg : Message) : Bool := msg.isMethod "NOTIFY"
def isSubscribe (msg : Message) : Bool := msg.isMethod "SUBSCRIBE"

/-- `MSG_IS_STATUS_1XX` to `MSG_IS_STATUS_6XX`. -/
def isStatusClass (msg : Message) (digit : Int) : Bool :=
  100 * digit ≤ msg.statusCode && msg.statusCode < 100 * digit + 100

def isStatus1xx (msg : Message) : Bool := msg.isStatusClass 1
def isStatus2xx (msg : Message) : Bool := msg.isStatusClass 2
def isStatus3xx (msg : Message) : Bool := msg.isStatusClass 3
def isStatus4xx (msg : Message) : Bool := msg.isStatusClass 4
def isStatus5xx (msg : Message) : Bool := msg.isStatusClass 5
def isStatus6xx (msg : Message) : Bool := msg.isStatusClass 6

/-- `osip_message_get_via`: the header at `pos`, or the negative return code. -/
def getVia (sip : Option Message) (pos : Nat) : Except Int Via :=
  match sip with
  | none => .error osipBadparameter
  | some sip =>
      match sip.vias[pos]? with
      | none => .error osipUndefinedError
      | some via => .ok via

def getRoute (sip : Message) (pos : Nat) : Option Route := sip.routes[pos]?

end Message

/-- The transports for which requests are not retransmitted. -/
def isReliableProtocol (proto : Str) : Bool :=
  osipStrcasecmp proto "TCP".toList || osipStrcasecmp proto "TLS".toList ||
    osipStrcasecmp proto "SCTP".toList

def osipCallIdMatch (callid1 callid2 : Option CallId) : Bool :=
  match callid1, callid2 with
  | some c1, some c2 =>
      c1.number.isSome && c2.number.isSome && c1.number == c2.number && c1.host == c2.host
  | _, _ => false

/-- Both without a tag, or both with the same tag value. -/
def osipFromTagMatch (from1 from2 : Option From) : Bool :=
  match from1, from2 with
  | some f1, some f2 =>
      match GenericParam.getByname f1.genParams "tag".toList,
          GenericParam.getByname f2.genParams "tag".toList with
      | none, none => true
      | some tag1, some tag2 => tag1.gvalue.isSome && tag1.gvalue == tag2.gvalue
      | _, _ => false
  | _, _ => false

def osipToTagMatch (to1 to2 : Option To) : Bool := osipFromTagMatch to1 to2

/-- The number must match; INVITE and ACK count as one method. -/
def osipCseqMatch (cseq1 cseq2 : Option Cseq) : Bool :=
  match cseq1, cseq2 with
  | some c1, some c2 =>
      match c1.number, c2.number, c1.method, c2.method with
      | some n1, some n2, some m1, some m2 =>
          let inviteOrAck (m : Str) : Bool := m == "INVITE".toList || m == "ACK".toList
          n1 == n2 && (if inviteOrAck m2 then inviteOrAck m1 else m1 == m2)
      | _, _, _, _ => false
  | _, _ => false

/-- The tests of `osip_uri_clone`, `osip_call_id_clone`, `osip_cseq_clone` and
`osip_via_clone` on their argument; a clone that succeeds is an equal value. -/
def osipUriClone (url : Option Uri) : Option Uri :=
  url.filter fun u => u.host.isSome || u.string.isSome

def osipFromClone (header : Option From) : Option From :=
  header.filter fun f => f.url.isNone || (osipUriClone f.url).isSome

def osipCallIdClone (callid : Option CallId) : Option CallId :=
  callid.filter fun c => c.number.isSome

def osipCseqClone (cseq : Option Cseq) : Option Cseq :=
  cseq.filter fun c => c.method.isSome && c.number.isSome

def osipViaClone (via : Option Via) : Option Via :=
  via.filter fun v => v.version.isSome && v.protocol.isSome && v.host.isSome

end Exosip
