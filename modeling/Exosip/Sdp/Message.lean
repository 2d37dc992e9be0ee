import Exosip.Parser.CString

/-! Session descriptions: the record, the parser and the printer. A pointer into the buffer is
the suffix it points at, and one pointer is before another when its suffix is longer. -/
namespace Exosip
namespace Sdp

open CString

structure Bandwidth where
  bBwtype : Option Str := none
  bBandwidth : Option Str := none
  deriving DecidableEq, Repr

structure TimeDescr where
  tStartTime : Option Str := none
  tStopTime : Option Str := none
  rRepeats : List Str := []
  deriving DecidableEq, Repr

structure Key where
  kKeytype : Option Str := none
  kKeydata : Option Str := none
  deriving DecidableEq, Repr

structure Attribute where
  aAttField : Option Str := none
  aAttValue : Option Str := none
  deriving DecidableEq, Repr

structure Connection where
  cNettype : Option Str := none
  cAddrtype : Option Str := none
  cAddr : Option Str := none
  cAddrMulticastTtl : Option Str := none
  cAddrMulticastInt : Option Str := none
  deriving DecidableEq, Repr

structure Media where
  mMedia : Option Str := none
  mPort : Option Str := none
  mNumberOfPort : Option Str := none
  mProto : Option Str := none
  mPayloads : List Str := []
  iInfo : Option Str := none
  cConnections : List Connection := []
  bBandwidths : List Bandwidth := []
  aAttributes : List Attribute := []
  kKey : Option Key := none
  deriving DecidableEq, Repr

structure SdpMessage where
  vVersion : Option Str := none
  oUsername : Option Str := none
  oSessId : Option Str := none
  oSessVersion : Option Str := none
  oNettype : Option Str := none
  oAddrtype : Option Str := none
  oAddr : Option Str := none
  sName : Option Str := none
  iInfo : Option Str := none
  uUri : Option Str := none
  eEmails : List Str := []
  pPhones : List Str := []
  cConnection : Option Connection := none
  bBandwidths : List Bandwidth := []
  tDescrs : List TimeDescr := []
  zAdjustments : Option Str := none
  kKey : Option Key := none
  aAttributes : List Attribute := []
  mMedias : List Media := []
  deriving DecidableEq, Repr

def sdpMessageInit : SdpMessage := {}

namespace SdpMessage

/-- Before the first media line a line is about the session, then about the last media. -/
def atPlace (sdp : SdpMessage) (session : SdpMessage → SdpMessage) (media : Media → Media) :
    SdpMessage :=
  if sdp.mMedias.length = 0 then session sdp
  else { sdp with mMedias := sdp.mMedias.modify (sdp.mMedias.length - 1) media }

def setVersion (sdp : SdpMessage) (v : Str) : SdpMessage := { sdp with vVersion := some v }

def setName (sdp : SdpMessage) (s : Str) : SdpMessage := { sdp with sName := some s }

def setInfo (sdp : SdpMessage) (i : Str) : SdpMessage :=
  sdp.atPlace (fun sdp => { sdp with iInfo := some i }) (fun media => { media with iInfo := some i })

def setUri (sdp : SdpMessage) (u : Str) : SdpMessage := { sdp with uUri := some u }

def addEmail (sdp : SdpMessage) (e : Str) : SdpMessage :=
  { sdp with eEmails := sdp.eEmails ++ [e] }

def addPhone (sdp : SdpMessage) (p : Str) : SdpMessage :=
  { sdp with pPhones := sdp.pPhones ++ [p] }

def addConnection (sdp : SdpMessage) (c : Connection) : SdpMessage :=
  sdp.atPlace (fun sdp => { sdp with cConnection := some c })
    (fun media => { media with cConnections := media.cConnections ++ [c] })

def addBandwidth (sdp : SdpMessage) (b : Bandwidth) : SdpMessage :=
  sdp.atPlace (fun sdp => { sdp with bBandwidths := sdp.bBandwidths ++ [b] })
    (fun media => { media with bBandwidths := media.bBandwidths ++ [b] })

def addTimeDescr (sdp : SdpMessage) (t : TimeDescr) : SdpMessage :=
  { sdp with tDescrs := sdp.tDescrs ++ [t] }

def addRepeat (sdp : SdpMessage) (r : Str) : SdpMessage :=
  { sdp with
    tDescrs := sdp.tDescrs.modify (sdp.tDescrs.length - 1) fun t =>
      { t with rRepeats := t.rRepeats ++ [r] } }

def setAdjustments (sdp : SdpMessage) (z : Str) : SdpMessage := { sdp with zAdjustments := some z }

def setKey (sdp : SdpMessage) (k : Key) : SdpMessage :=
  sdp.atPlace (fun sdp => { sdp with kKey := some k }) (fun media => { media with kKey := some k })

def addAttribute (sdp : SdpMessage) (a : Attribute) : SdpMessage :=
  sdp.atPlace (fun sdp => { sdp with aAttributes := sdp.aAttributes ++ [a] })
    (fun media => { media with aAttributes := media.aAttributes ++ [a] })

def addMedia (sdp : SdpMessage) (m : Media) : SdpMessage :=
  { sdp with mMedias := sdp.mMedias ++ [m] }

end SdpMessage

def isLineEnd (c : Char) : Bool := c == '\r' || c == '\n'

/-- The text before the next separator, which has to come before the end of the line, and what
follows the separator. -/
def osipSetNextToken (buf : Str) (endSeparator : Char) : Option (Str × Str) :=
  let inToken (c : Char) : Bool := c != endSeparator && !isLineEnd c
  match buf.dropWhile inToken with
  | [] => none
  | sep :: next =>
      if sep ≠ endSeparator then none
      else if (buf.takeWhile inToken).length = 0 then none
      else some (buf.takeWhile inToken, next)

/-- The text up to the end of the line, which is a CR or an LF. -/
def lastToken (buf : Str) : Option (Str × Str) :=
  osipSetNextToken buf '\r' <|> osipSetNextToken buf '\n'

/-- The first `c`, when it stands before `limit`. -/
def strchrBefore (s : Str) (c : Char) (limit : Str) : Option Str :=
  (strchr s c).filter fun p => limit.length < p.length

/-- What a line parser makes of a buffer: `ERR_ERROR`, `ERR_DISCARD` or `WF`. -/
inductive Parsed where
  | error
  | discard
  | wf (sdp : SdpMessage) (next : Str)
  deriving DecidableEq, Repr

/-- Where the line after the one that ends at `crlf` starts. -/
def nextLine : Str → Str
  | _ :: '\n' :: next => next
  | _ :: next => next
  | [] => []

/-- A line of the form `header=...`: its content is what `content` makes of the pointers to
its start and its end. A line starts behind the end of another one, so that what is in front
of an `=` at its start is no header. -/
def parseHeader (header : Char) (buf : Str) (content : Str → Str → Option SdpMessage) : Parsed :=
  match strchr buf '=' with
  | none => .error
  | some equal =>
      if (buf.take (pointerDiff equal buf)).getLast? ≠ some header then .discard
      else
        let tmp := equal.tail
        let crlf := tmp.dropWhile fun c => !isLineEnd c
        if crlf.length = 0 then .error
        else if crlf.length = tmp.length then .error
        else match content tmp crlf with
          | none => .error
          | some sdp => .wf sdp (nextLine crlf)

def textValue (tmp crlf : Str) : Option Str := some (osipStrncpy tmp (pointerDiff crlf tmp))

def sdpMessageParseV (sdp : SdpMessage) (buf : Str) : Parsed :=
  parseHeader 'v' buf fun tmp crlf => (textValue tmp crlf).map sdp.setVersion

/-- `o=username sess-id sess-version nettype addrtype addr` -/
def sdpMessageParseO (sdp : SdpMessage) (buf : Str) : Parsed :=
  parseHeader 'o' buf fun tmp _ => do
    let (username, tmp) ← osipSetNextToken tmp ' '
    let (sessId, tmp) ← osipSetNextToken tmp ' '
    let (sessVersion, tmp) ← osipSetNextToken tmp ' '
    let (nettype, tmp) ← osipSetNextToken tmp ' '
    let (addrtype, tmp) ← osipSetNextToken tmp ' '
    let (addr, _) ← lastToken tmp
    some { sdp with
      oUsername := some username, oSessId := some sessId, oSessVersion := some sessVersion,
      oNettype := some nettype, oAddrtype := some addrtype, oAddr := some addr }

def sdpMessageParseS (sdp : SdpMessage) (buf : Str) : Parsed :=
  parseHeader 's' buf fun tmp crlf => (textValue tmp crlf).map sdp.setName

def sdpMessageParseI (sdp : SdpMessage) (buf : Str) : Parsed :=
  parseHeader 'i' buf fun tmp crlf => (textValue tmp crlf).map sdp.setInfo

def sdpMessageParseU (sdp : SdpMessage) (buf : Str) : Parsed :=
  parseHeader 'u' buf fun tmp crlf => (textValue tmp crlf).map sdp.setUri

def sdpMessageParseE (sdp : SdpMessage) (buf : Str) : Parsed :=
  parseHeader 'e' buf fun tmp crlf => (textValue tmp crlf).map sdp.addEmail

def sdpMessageParseP (sdp : SdpMessage) (buf : Str) : Parsed :=
  parseHeader 'p' buf fun tmp crlf => (textValue tmp crlf).map sdp.addPhone

/-- `c=nettype addrtype addr`, a multicast address with `/ttl` and maybe `/integer` -/
def connectionValue (tmp crlf : Str) : Option Connection := do
  let (nettype, tmp) ← osipSetNextToken tmp ' '
  let (addrtype, tmp) ← osipSetNextToken tmp ' '
  match strchrBefore tmp '/' crlf with
  | none =>
      let (addr, _) ← lastToken tmp
      some { cNettype := some nettype, cAddrtype := some addrtype, cAddr := some addr }
  | some slash =>
      let (addr, tmp) ← osipSetNextToken tmp '/'
      match strchrBefore slash.tail '/' crlf with
      | none =>
          let (ttl, _) ← lastToken tmp
          some
            { cNettype := some nettype, cAddrtype := some addrtype, cAddr := some addr,
              cAddrMulticastTtl := some ttl }
      | some _ =>
          let (ttl, tmp) ← osipSetNextToken tmp '/'
          let (int, _) ← lastToken tmp
          some
            { cNettype := some nettype, cAddrtype := some addrtype, cAddr := some addr,
              cAddrMulticastTtl := some ttl, cAddrMulticastInt := some int }

def sdpMessageParseC (sdp : SdpMessage) (buf : Str) : Parsed :=
  parseHeader 'c' buf fun tmp crlf => (connectionValue tmp crlf).map sdp.addConnection

/-- `b=bwtype:bandwidth` -/
def bandwidthValue (tmp _crlf : Str) : Option Bandwidth := do
  let (bwtype, tmp) ← osipSetNextToken tmp ':'
  let (bandwidth, _) ← lastToken tmp
  some { bBwtype := some bwtype, bBandwidth := some bandwidth }

def sdpMessageParseB (sdp : SdpMessage) (buf : Str) : Parsed :=
  parseHeader 'b' buf fun tmp crlf => (bandwidthValue tmp crlf).map sdp.addBandwidth

/-- `t=start_time stop_time` -/
def timeDescrValue (tmp _crlf : Str) : Option TimeDescr := do
  let (start, tmp) ← osipSetNextToken tmp ' '
  let (stop, _) ← lastToken tmp
  some { tStartTime := some start, tStopTime := some stop }

def sdpMessageParseT (sdp : SdpMessage) (buf : Str) : Parsed :=
  parseHeader 't' buf fun tmp crlf => (timeDescrValue tmp crlf).map sdp.addTimeDescr

def sdpMessageParseR (sdp : SdpMessage) (buf : Str) : Parsed :=
  parseHeader 'r' buf fun tmp crlf =>
    if sdp.tDescrs.length = 0 then none else (textValue tmp crlf).map sdp.addRepeat

def sdpMessageParseZ (sdp : SdpMessage) (buf : Str) : Parsed :=
  parseHeader 'z' buf fun tmp crlf => (textValue tmp crlf).map sdp.setAdjustments

def colonValue (tmp crlf : Str) : Option (Str × Option Str) :=
  match strchrBefore tmp ':' crlf with
  | some _ => do
      let (name, tmp) ← osipSetNextToken tmp ':'
      let (value, _) ← lastToken tmp
      some (name, some value)
  | none => do
      let (name, _) ← lastToken tmp
      some (name, none)

/-- `k=key-type[:key-data]` -/
def keyValue (tmp crlf : Str) : Option Key :=
  (colonValue tmp crlf).map fun (keytype, keydata) =>
    { kKeytype := some keytype, kKeydata := keydata }

def sdpMessageParseK (sdp : SdpMessage) (buf : Str) : Parsed :=
  parseHeader 'k' buf fun tmp crlf => (keyValue tmp crlf).map sdp.setKey

/-- `a=att-field[:att-value]` -/
def attributeValue (tmp crlf : Str) : Option Attribute :=
  (colonValue tmp crlf).map fun (field, value) => { aAttField := some field, aAttValue := value }

def sdpMessageParseA (sdp : SdpMessage) (buf : Str) : Parsed :=
  parseHeader 'a' buf fun tmp crlf => (attributeValue tmp crlf).map sdp.addAttribute

/-- The loop over the payloads from `tmp` on. The search for a space starts one character
further; where that is past the end of the buffer, what it finds is not before `crlf`. -/
def payloadLoop (crlf : Str) : Nat → Str → Option (List Str)
  | 0, _ => none
  | fuel + 1, tmp =>
      match strchrBefore tmp.tail ' ' crlf with
      | some _ => do
          let (str, tmp) ← osipSetNextToken tmp ' '
          let payloads ← payloadLoop crlf fuel tmp
          some (str :: payloads)
      | none =>
          if crlf.length < tmp.length then do
            let (str, _) ← lastToken tmp
            some [str]
          else some []

/-- A port, and the number of ports where a slash comes before the next space. -/
def portValue (tmp : Str) : Option (Str × Option Str × Str) := do
  let space ← strchr tmp ' '
  match strchrBefore tmp '/' space with
  | some _ =>
      let (port, tmp) ← osipSetNextToken tmp '/'
      let (number, tmp) ← osipSetNextToken tmp ' '
      some (port, some number, tmp)
  | none =>
      let (port, tmp) ← osipSetNextToken tmp ' '
      some (port, none, tmp)

/-- `m=media port ["/"integer] proto *(payload_number)`, where the space after the protocol may
miss when there is no payload -/
def mediaValue (tmp crlf : Str) : Option Media := do
  let (media, tmp) ← osipSetNextToken tmp ' '
  let (port, number, tmp) ← portValue tmp
  let (proto, tmp) ← osipSetNextToken tmp ' ' <|> lastToken tmp
  let payloads ← payloadLoop crlf (tmp.length + 1) tmp
  some
    { mMedia := some media, mPort := some port, mNumberOfPort := number, mProto := some proto,
      mPayloads := payloads }

def sdpMessageParseM (sdp : SdpMessage) (buf : Str) : Parsed :=
  parseHeader 'm' buf fun tmp crlf => (mediaValue tmp crlf).map sdp.addMedia

/-- Where `sdp_message_parse` stands: it has failed, it has returned with success, or it goes on
with a line. -/
inductive Progress where
  | failed
  | finished (sdp : SdpMessage)
  | more (sdp : SdpMessage) (ptr : Str)
  deriving DecidableEq, Repr

namespace Progress

def bind (progress : Progress) (next : SdpMessage → Str → Progress) : Progress :=
  match progress with
  | failed => failed
  | finished sdp => finished sdp
  | more sdp ptr => next sdp ptr

def stopAtEnd (progress : Progress) : Progress :=
  progress.bind fun sdp ptr =>
    match ptr with
    | [] => finished sdp
    | c :: _ => if isLineEnd c then finished sdp else more sdp ptr

def result : Progress → Option SdpMessage
  | failed => none
  | finished sdp => some sdp
  | more sdp _ => some sdp

end Progress

abbrev LineParser := SdpMessage → Str → Parsed

def mandatory (parse : LineParser) (sdp : SdpMessage) (ptr : Str) : Progress :=
  match parse sdp ptr with
  | .error => .failed
  | .discard => .failed
  | .wf sdp next => .more sdp next

def optional (parse : LineParser) (sdp : SdpMessage) (ptr : Str) : Progress :=
  match parse sdp ptr with
  | .error => .failed
  | .discard => .more sdp ptr
  | .wf sdp next => .more sdp next

/-- Lines as long as there are some; `check` says what is done after each of them. A line is
not empty, so there are no more of them than characters. -/
def repeated (parse : LineParser) (check : Progress → Progress) :
    Nat → SdpMessage → Str → Progress
  | 0, sdp, ptr => .more sdp ptr
  | fuel + 1, sdp, ptr =>
      match parse sdp ptr with
      | .error => .failed
      | .discard => check (.more sdp ptr)
      | .wf sdp next => (check (.more sdp next)).bind (repeated parse check fuel)

def repeatedLines (parse : LineParser) (check : Progress → Progress) (sdp : SdpMessage)
    (ptr : Str) : Progress :=
  repeated parse check (ptr.length + 1) sdp ptr

def timeLoop : Nat → SdpMessage → Str → Progress
  | 0, sdp, ptr => .more sdp ptr
  | fuel + 1, sdp, ptr =>
      (repeatedLines sdpMessageParseR .stopAtEnd sdp ptr).bind fun sdp ptr =>
        match sdpMessageParseT sdp ptr with
        | .error => .failed
        | .discard => Progress.stopAtEnd (.more sdp ptr)
        | .wf sdp next => (Progress.stopAtEnd (.more sdp next)).bind (timeLoop fuel)

def mediaLines (sdp : SdpMessage) (ptr : Str) : Progress :=
  (optional sdpMessageParseI sdp ptr).stopAtEnd
    |>.bind (repeatedLines sdpMessageParseC .stopAtEnd)
    |>.bind (repeatedLines sdpMessageParseB .stopAtEnd)
    |>.bind (fun sdp ptr => (optional sdpMessageParseK sdp ptr).stopAtEnd)
    |>.bind (repeatedLines sdpMessageParseA .stopAtEnd)

/-- The loop over the media. Without a media line the lines of a media are read once more. -/
def mediaLoop : Nat → SdpMessage → Str → Progress
  | 0, sdp, ptr => .more sdp ptr
  | fuel + 1, sdp, ptr =>
      match sdpMessageParseM sdp ptr with
      | .error => .failed
      | .discard => (Progress.stopAtEnd (.more sdp ptr)).bind mediaLines
      | .wf sdp next =>
          (Progress.stopAtEnd (.more sdp next)).bind mediaLines |>.bind (mediaLoop fuel)

def sessionLines (sdp : SdpMessage) (buf : Str) : Progress :=
  mandatory sdpMessageParseV sdp buf
    |>.bind (optional sdpMessageParseS)
    |>.bind (mandatory sdpMessageParseO)
    |>.bind (optional sdpMessageParseS)
    |>.bind (optional sdpMessageParseI)
    |>.bind (optional sdpMessageParseU)
    |>.bind (repeatedLines sdpMessageParseE id)
    |>.bind (repeatedLines sdpMessageParseP id)
    |>.bind (optional sdpMessageParseC)
    |>.bind (repeatedLines sdpMessageParseB id)
    |>.bind (fun sdp ptr => (mandatory sdpMessageParseT sdp ptr).stopAtEnd)

def furtherLines (sdp : SdpMessage) (ptr : Str) : Progress :=
  repeatedLines sdpMessageParseR .stopAtEnd sdp ptr
    |>.bind (fun sdp ptr => (optional sdpMessageParseT sdp ptr).stopAtEnd)
    |>.bind (fun sdp ptr => timeLoop (ptr.length + 1) sdp ptr)
    |>.bind (fun sdp ptr => (optional sdpMessageParseZ sdp ptr).stopAtEnd)
    |>.bind (fun sdp ptr => (optional sdpMessageParseK sdp ptr).stopAtEnd)
    |>.bind (repeatedLines sdpMessageParseA .stopAtEnd)
    |>.bind (fun sdp ptr => mediaLoop (ptr.length + 1) sdp ptr)

/-- Parse the buffer into `sdp`; none is the return of an error. -/
def sdpMessageParse (sdp : SdpMessage) (buf : Str) : Option SdpMessage :=
  ((sessionLines sdp buf).bind furtherLines).result

def crlfStr : Str := ['\r', '\n']

/-- `header=text` and the end of the line. -/
def appendLine (header : Char) (text : Str) : Str := header :: '=' :: (text ++ crlfStr)

def appendPart (separator : Char) (part : Option Str) : Str :=
  part.elim [] (separator :: ·)

def appendAll {α : Type} (append : α → Option Str) : List α → Option Str
  | [] => some []
  | a :: rest => do
      let text ← append a
      let texts ← appendAll append rest
      some (text ++ texts)

def sdpAppendConnection (conn : Connection) : Option Str := do
  let nettype ← conn.cNettype
  let addrtype ← conn.cAddrtype
  let addr ← conn.cAddr
  some (appendLine 'c' (nettype ++ ' ' :: addrtype ++ ' ' :: addr ++
    appendPart '/' conn.cAddrMulticastTtl ++ appendPart '/' conn.cAddrMulticastInt))

def sdpAppendBandwidth (bandwidth : Bandwidth) : Option Str := do
  let bwtype ← bandwidth.bBwtype
  let value ← bandwidth.bBandwidth
  some (appendLine 'b' (bwtype ++ ':' :: value))

def sdpAppendTimeDescr (timeDescr : TimeDescr) : Option Str := do
  let start ← timeDescr.tStartTime
  let stop ← timeDescr.tStopTime
  some (appendLine 't' (start ++ ' ' :: stop) ++ timeDescr.rRepeats.flatMap (appendLine 'r'))

def sdpAppendKey (key : Key) : Option Str := do
  let keytype ← key.kKeytype
  some (appendLine 'k' (keytype ++ appendPart ':' key.kKeydata))

def sdpAppendAttribute (attr : Attribute) : Option Str := do
  let field ← attr.aAttField
  some (appendLine 'a' (field ++ appendPart ':' attr.aAttValue))

def sdpAppendMedia (media : Media) : Option Str := do
  let name ← media.mMedia
  let port ← media.mPort
  let proto ← media.mProto
  let connections ← appendAll sdpAppendConnection media.cConnections
  let bandwidths ← appendAll sdpAppendBandwidth media.bBandwidths
  let key ← appendAll sdpAppendKey media.kKey.toList
  let attributes ← appendAll sdpAppendAttribute media.aAttributes
  some (appendLine 'm' (name ++ ' ' :: port ++ appendPart '/' media.mNumberOfPort ++ ' ' :: proto ++
      media.mPayloads.flatMap (' ' :: ·)) ++
    media.iInfo.elim [] (appendLine 'i') ++ connections ++ bandwidths ++ key ++ attributes)

/-- The text of a session description; none is the return of an error. -/
def sdpMessageToStr (sdp : SdpMessage) : Option Str := do
  let version ← sdp.vVersion
  let username ← sdp.oUsername
  let sessId ← sdp.oSessId
  let sessVersion ← sdp.oSessVersion
  let nettype ← sdp.oNettype
  let addrtype ← sdp.oAddrtype
  let addr ← sdp.oAddr
  let connection ← appendAll sdpAppendConnection sdp.cConnection.toList
  let bandwidths ← appendAll sdpAppendBandwidth sdp.bBandwidths
  let times ← appendAll sdpAppendTimeDescr sdp.tDescrs
  let key ← appendAll sdpAppendKey sdp.kKey.toList
  let attributes ← appendAll sdpAppendAttribute sdp.aAttributes
  let medias ← appendAll sdpAppendMedia sdp.mMedias
  some (appendLine 'v' version ++
    appendLine 'o' (username ++ ' ' :: sessId ++ ' ' :: sessVersion ++ ' ' :: nettype ++
      ' ' :: addrtype ++ ' ' :: addr) ++
    sdp.sName.elim [] (appendLine 's') ++ sdp.iInfo.elim [] (appendLine 'i') ++
    sdp.uUri.elim [] (appendLine 'u') ++ sdp.eEmails.flatMap (appendLine 'e') ++
    sdp.pPhones.flatMap (appendLine 'p') ++ connection ++ bandwidths ++ times ++
    sdp.zAdjustments.elim [] (appendLine 'z') ++ key ++ attributes ++ medias)

/-- Encode, and parse the text into a new record. -/
def sdpMessageClone (sdp : SdpMessage) : Option SdpMessage :=
  (sdpMessageToStr sdp).bind (sdpMessageParse sdpMessageInit)

end Sdp
end Exosip
