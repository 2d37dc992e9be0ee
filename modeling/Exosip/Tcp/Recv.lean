import Exosip.Machine.Framing
import Exosip.Parser.CString

/-! Receiving on a stream socket: the bytes of a connection are collected in a buffer that is
regrown when it is full, and the complete messages at its front are handed on. -/
namespace Exosip
namespace Tcp

open CString Machine

def endHeadersStr : Str := ['\r', '\n', '\r', '\n']
def clenHeaderStr : Str := "\r\ncontent-length:".toList
def clenHeaderStr2 : Str := "\r\ncontent-length ".toList
def clenHeaderCompactStr : Str := "\r\nl:".toList
def clenHeaderCompactStr2 : Str := "\r\nl ".toList

/-- Where the first occurrence of `needle` starts. -/
def bufferFind (haystack needle : Str) : Option Nat :=
  match haystack with
  | [] => none
  | c :: search =>
      if needle.head? = some c then
        if haystack.length < needle.length then none
        else if needle.isPrefixOf haystack then some 0
        else (bufferFind search needle).map (· + 1)
      else (bufferFind search needle).map (· + 1)

def clenHeader (headers : Str) : Option Str :=
  osipStrcasestr headers clenHeaderStr <|> osipStrcasestr headers clenHeaderStr2 <|>
    osipStrcasestr headers clenHeaderCompactStr <|> osipStrcasestr headers clenHeaderCompactStr2

/-- The length that the headers announce, zero without a header for it. No number is read
where no colon follows, since the null pointer is moved on before it is tested. -/
def contentLength (headers : Str) : Option Int :=
  match clenHeader headers with
  | none => some 0
  | some header => (strchr header ':').map fun colon => atoi colon.tail

/-- What one round of the loop does with the bytes that are left. -/
inductive Round where
  | incomplete
  | keepalive
  | discard
  | message (msglen : Nat)
  | fault
  deriving DecidableEq, Repr

/-- A round over headers that end at `endHeaders`, with a body as long as they announce. -/
def handleBody (buflen endHeaders : Nat) (clen : Int) : Round :=
  if clen < 0 then .discard
  else
    let msglen := toInt32 (endHeaders + endHeadersStr.length + clen)
    -- the comparison is of unsigned numbers
    if msglen < 0 ∨ (buflen : Int) < msglen then .incomplete
    -- a round that takes nothing off is repeated for ever
    else if msglen = 0 then .fault
    else .message msglen.toNat

/-- A round: a keep-alive at the front, or headers and their body. The headers end at the NUL
that is put after them, or at one that they hold. -/
def handleMessage (buf : Str) : Round :=
  match bufferFind buf endHeadersStr with
  | none => .incomplete
  | some endHeaders =>
      if endHeaders = 0 then .keepalive
      else
        let headers := (buf.take endHeaders).takeWhile (· ≠ Char.ofNat 0)
        match contentLength headers with
        | none => .fault
        | some clen => handleBody buf.length endHeaders clen

/-- What the loop does with bytes it goes past: a message is handed on. -/
inductive Consumed where
  | message (msg : Str)
  | keepalive
  | discarded (data : Str)
  deriving DecidableEq, Repr

namespace Consumed

def bytes : Consumed → Str
  | message msg => msg
  | keepalive => endHeadersStr
  | discarded data => data

/-- The argument of `_eXosip_handle_incoming_message`. -/
def incomingMessage : Consumed → Option Str
  | message msg => some msg
  | _ => none

end Consumed

/-- The loop of `handleMessages` from `buf` on, with the number of bytes consumed in the end.
A round takes at least one byte off, so there are no more rounds than bytes. -/
def handleMessagesLoop (buflen : Nat) : Nat → Str → Nat → List Consumed × Option Nat
  | 0, _, consumed => ([], some consumed)
  | fuel + 1, buf, consumed =>
      match handleMessage buf with
      | .incomplete => ([], some consumed)
      | .keepalive =>
          let rest := handleMessagesLoop buflen fuel (buf.drop endHeadersStr.length)
            (consumed + endHeadersStr.length)
          (.keepalive :: rest.1, rest.2)
      | .discard => ([.discarded buf], some buflen)
      | .message msglen =>
          let rest := handleMessagesLoop buflen fuel (buf.drop msglen) (consumed + msglen)
          (.message (buf.take msglen) :: rest.1, rest.2)
      | .fault => ([], none)

def handleMessages (buf : Str) : List Consumed × Option Nat :=
  handleMessagesLoop buf.length buf.length buf 0

def sipMessageMaxLength : Nat := 8000

/-- The receive buffer of a connection; there is none while its size is zero. -/
structure SockInfo where
  buf : Str
  bufsize : Nat
  fits : buf.length ≤ bufsize
  deriving DecidableEq

namespace SockInfo

/-- A connection that was opened or closed just now. -/
def init : SockInfo := ⟨[], 0, Nat.zero_le _⟩

def allocate (sockinfo : SockInfo) : SockInfo :=
  if sockinfo.bufsize = 0 then ⟨[], sipMessageMaxLength, Nat.zero_le _⟩ else sockinfo

def regrow (sockinfo : SockInfo) : SockInfo :=
  if sockinfo.bufsize - sockinfo.buf.length = 0 then
    ⟨sockinfo.buf, sockinfo.bufsize + 1000, Nat.le_add_right_of_le sockinfo.fits⟩
  else sockinfo

/-- An empty buffer goes back to its initial size. -/
def shrink (sockinfo : SockInfo) : SockInfo :=
  if sockinfo.buf.length = 0 ∧ sipMessageMaxLength < sockinfo.bufsize then
    ⟨[], sipMessageMaxLength, Nat.zero_le _⟩
  else sockinfo

/-- The buffer that the next bytes are read into. -/
def prepare (sockinfo : SockInfo) : SockInfo :=
  sockinfo.allocate.regrow.shrink

/-- The bytes that `recv` may return. -/
def room (sockinfo : SockInfo) : Nat := sockinfo.bufsize - sockinfo.buf.length

def received (sockinfo : SockInfo) (data : Str) : SockInfo :=
  ⟨sockinfo.buf ++ data.take sockinfo.room, sockinfo.bufsize, by
    have := sockinfo.fits
    rw [List.length_append, List.length_take, room]
    omega⟩

/-- Move what was not consumed to the front. -/
def shift (sockinfo : SockInfo) (consumed : Nat) : SockInfo :=
  ⟨if consumed < sockinfo.buf.length then sockinfo.buf.drop consumed else [], sockinfo.bufsize, by
    have := sockinfo.fits
    split
    · rw [List.length_drop]
      omega
    · exact Nat.zero_le _⟩

end SockInfo

/-- What `recv` returns. -/
inductive Recv where
  | bytes (data : Str)
  | wouldBlock
  | eof
  | error
  deriving DecidableEq, Repr

/-- A read on the connection. Nothing is read any more after a fault. -/
def tcpTlRecv : Step (Option SockInfo) Recv Consumed
  | none, _ => (none, [])
  | some sockinfo, recv =>
      let sockinfo := sockinfo.prepare
      match recv with
      | .eof | .error => (some .init, [])
      | .wouldBlock => (some sockinfo, [])
      | .bytes data =>
          let sockinfo := sockinfo.received data
          let handled := handleMessages sockinfo.buf
          (handled.2.map fun consumed =>
            if consumed = 0 then sockinfo else sockinfo.shift consumed, handled.1)

end Tcp
end Exosip
