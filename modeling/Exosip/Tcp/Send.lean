import Exosip.Tcp.Agreement

/-! Sending on a stream socket: a message goes out in as many parts as the kernel takes it in, and
a connection on which one has failed is closed. What the peer hands on are the messages that
were sent to the end. -/
namespace Exosip
namespace Tcp

open CString Machine

/-- What `select` says of a socket that would block. -/
inductive Writable where
  | ready
  | timeout
  | error
  deriving DecidableEq, Repr

/-- What `send` returns. -/
inductive SendAnswer where
  | sent (count : Nat)
  | wouldBlock (select : Writable)
  | error
  deriving DecidableEq, Repr

/-- `_tcp_tl_send_sockinfo`: the bytes that go out, and the return value. The loop goes on until
an answer of the kernel ends it; it has none while the answers end before. -/
def tcpTlSendSockinfo : List SendAnswer → Str → Str × Option Int
  | [], _ => ([], none)
  | .sent i :: answers, msg =>
      if i = 0 then ([], some 0)
      else if i < msg.length then
        let rest := tcpTlSendSockinfo answers (msg.drop i)
        (msg.take i ++ rest.1, rest.2)
      else (msg, some 0)
  | .wouldBlock select :: answers, msg =>
      if select = .error then ([], some (-1)) else tcpTlSendSockinfo answers msg
  | .error :: _, _ => ([], some (-1))

/-- The sending end of a connection; a call may still be in its loop. -/
inductive Connection where
  | opened
  | sending
  | closed
  deriving DecidableEq, Repr

/-- The calls that write to the socket: the text of a message through `tcp_tl_send_message`, and
`tcp_tl_keepalive` with what its only `send` writes. Both ask `_tcp_tl_is_connected` before. -/
inductive Sending where
  | message (connected : Int) (msg : Str) (answers : List SendAnswer)
  | keepalive (connected : Int) (written : Nat)
  deriving DecidableEq, Repr

/-- What a call writes, and the message that it reports as sent. -/
structure Written where
  bytes : Str
  reported : Option Str
  deriving DecidableEq, Repr

def tcpTlSendMessage (msg : Str) (answers : List SendAnswer) : Connection × List Written :=
  let sent := tcpTlSendSockinfo answers msg
  match sent.2 with
  | none => (.sending, [⟨sent.1, none⟩])
  | some i =>
      if i < 0 then (.closed, [⟨sent.1, none⟩])
      else (.opened, [⟨sent.1, some msg⟩])

/-- A call on the connection. One that is in progress is left for later, one with an error is
closed. -/
def tcpTlSend : Step Connection Sending Written
  | .opened, .message connected msg answers =>
      if 0 < connected then (.opened, [])
      else if connected < 0 then (.closed, [])
      else tcpTlSendMessage msg answers
  | .opened, .keepalive connected written =>
      if 0 < connected then (.opened, [])
      else if connected < 0 then (.closed, [])
      else (.opened, [⟨endHeadersStr.take written, none⟩])
  | conn, _ => (conn, [])

def onTheWire (conn : Connection) (sendings : List Sending) : Str :=
  (run tcpTlSend conn sendings).2.flatMap Written.bytes

def reportedSent (conn : Connection) (sendings : List Sending) : List Str :=
  (run tcpTlSend conn sendings).2.filterMap Written.reported

/-! ### One call -/

theorem tcpTlSendSockinfo_cases {answers : List SendAnswer} {msg : Str} (hmsg : msg ≠ [])
    (hanswers : ∀ i, .sent i ∈ answers → 0 < i) :
    tcpTlSendSockinfo answers msg = (msg, some 0) ∨
      ∃ part, part <+: msg ∧ part.length < msg.length ∧
        (tcpTlSendSockinfo answers msg = (part, none) ∨
          tcpTlSendSockinfo answers msg = (part, some (-1))) := by
  have hnone : ([] : Str) <+: msg ∧ ([] : Str).length < msg.length :=
    ⟨List.nil_prefix, List.length_pos_iff.2 hmsg⟩
  induction answers generalizing msg with
  | nil => exact .inr ⟨[], hnone.1, hnone.2, .inl rfl⟩
  | cons answer answers ih =>
      have hrest (i : Nat) (h : .sent i ∈ answers) : 0 < i :=
        hanswers i (List.mem_cons_of_mem _ h)
      cases answer with
      | error => exact .inr ⟨[], hnone.1, hnone.2, .inr rfl⟩
      | wouldBlock select =>
          rw [tcpTlSendSockinfo]
          split_ifs
          · exact .inr ⟨[], hnone.1, hnone.2, .inr rfl⟩
          · exact ih hmsg hrest hnone
      | sent i =>
          have hpos := hanswers i List.mem_cons_self
          rw [tcpTlSendSockinfo, if_neg hpos.ne']
          split_ifs with hpart
          · have hleft : msg.drop i ≠ [] := by
              rw [ne_eq, List.drop_eq_nil_iff]
              omega
            have hsplit := List.take_append_drop i msg
            rcases ih hleft hrest ⟨List.nil_prefix, List.length_pos_iff.2 hleft⟩ with
              h | ⟨part, hfront, hlen, h⟩
            · left
              rw [h]
              exact Prod.ext hsplit rfl
            · refine .inr ⟨msg.take i ++ part, ?_, ?_, ?_⟩
              · conv_rhs => rw [← hsplit]
                exact (List.prefix_append_right_inj _).2 hfront
              · rw [List.length_drop] at hlen
                rw [List.length_append, List.length_take]
                omega
              · rcases h with h | h
                · exact .inl (by rw [h])
                · exact .inr (by rw [h])
          · exact .inl rfl

theorem tcpTlSendMessage_cases {answers : List SendAnswer} {msg : Str} (hmsg : msg ≠ [])
    (hanswers : ∀ i, .sent i ∈ answers → 0 < i) :
    tcpTlSendMessage msg answers = (.opened, [⟨msg, some msg⟩]) ∨
      ∃ part conn, part <+: msg ∧ part.length < msg.length ∧ conn ≠ .opened ∧
        tcpTlSendMessage msg answers = (conn, [⟨part, none⟩]) := by
  unfold tcpTlSendMessage
  rcases tcpTlSendSockinfo_cases hmsg hanswers with h | ⟨part, hfront, hlen, h | h⟩
  · left
    rw [h]
    rfl
  · refine .inr ⟨part, .sending, hfront, hlen, by decide, ?_⟩
    rw [h]
  · refine .inr ⟨part, .closed, hfront, hlen, by decide, ?_⟩
    rw [h]
    rfl

/-! ### The stream -/

variable {parsers : MessageParsers}

namespace WholeMessage

variable {msg : WholeMessage parsers}

theorem cut_toStr (h : msg.Framed) (more : Str) :
    messageFramer.cut (msg.toStr ++ more) = .take msg.toStr.length (.message msg.toStr) := by
  simp only [messageFramer, (handleMessage_eq_message msg more).2 h, List.take_left]

theorem cut_part (h : msg.Framed) {part : Str} (hfront : part <+: msg.toStr)
    (hlen : part.length < msg.toStr.length) : messageFramer.cut part = .wait := by
  have hround : handleMessage part = .incomplete := by
    by_contra hround
    obtain ⟨more, hmore⟩ := hfront
    have hsame := handleMessage_append more hround
    have hwhole := (handleMessage_eq_message msg []).2 h
    rw [List.append_nil, ← hmore, hsame] at hwhole
    have hshort := (handleMessage_message hwhole).2
    rw [hmore] at hshort
    omega
  simp only [messageFramer, hround]

theorem toStr_ne_nil : msg.toStr ≠ [] := by
  simp [toStr, endHeadersStr]

end WholeMessage

theorem cut_keepalive (more : Str) :
    messageFramer.cut (endHeadersStr ++ more) = .take endHeadersStr.length .keepalive := by
  have hround : handleMessage (endHeadersStr ++ more) = .keepalive := by
    have hfind : bufferFind (endHeadersStr ++ more) endHeadersStr = some 0 :=
      bufferFind_append (by decide)
    simp [handleMessage, hfind]
  simp only [messageFramer, hround]

/-- What the kernel does in a call, and what the call is for: `send` takes at least one byte of
the message, and the few bytes of a keep-alive as a whole or not at all. -/
def Sendable (parsers : MessageParsers) : Sending → Prop
  | .message _ msg answers =>
      (∃ whole : WholeMessage parsers, whole.Framed ∧ whole.toStr = msg) ∧
        ∀ i, .sent i ∈ answers → 0 < i
  | .keepalive _ written => written = 0 ∨ endHeadersStr.length ≤ written

theorem run_tcpTlSend_stopped {conn : Connection} (h : conn ≠ .opened) (sendings : List Sending) :
    (run tcpTlSend conn sendings).2 = [] := by
  induction sendings with
  | nil => rfl
  | cons sending sendings ih =>
      have hstep : tcpTlSend conn sending = (conn, []) := by
        cases conn with
        | opened => exact absurd rfl h
        | sending => rfl
        | closed => rfl
      rw [run_cons, hstep]
      exact ih

/-- The stream is one of messages that are handed on as they were reported. -/
structure Carries (stream : Str) (reported : List Str) : Prop where
  orderly : messageFramer.Orderly stream
  handedOn : WholeMessage.handedOn stream = reported

namespace Carries

theorem part {part : Str} (h : messageFramer.cut part = .wait) : Carries part [] where
  orderly := .wait h
  handedOn := by
    rw [WholeMessage.handedOn, Framer.drain_wait h]
    rfl

theorem message {stream : Str} {reported : List Str} (h : Carries stream reported)
    {msg : WholeMessage parsers} (hframed : msg.Framed) :
    Carries (msg.toStr ++ stream) (msg.toStr :: reported) := by
  have hcut := msg.cut_toStr hframed stream
  constructor
  · refine .take hcut ?_
    rw [List.drop_left]
    exact h.orderly
  · rw [WholeMessage.handedOn, Framer.drain_take hcut, List.drop_left, ← h.handedOn]
    rfl

theorem keepalive {stream : Str} {reported : List Str} (h : Carries stream reported) :
    Carries (endHeadersStr ++ stream) reported := by
  have hcut := cut_keepalive stream
  constructor
  · refine .take hcut ?_
    rw [List.drop_left]
    exact h.orderly
  · rw [WholeMessage.handedOn, Framer.drain_take hcut, List.drop_left, ← h.handedOn]
    rfl

end Carries

theorem carries_of_stopped {conn : Connection} (h : conn ≠ .opened) (sendings : List Sending) :
    Carries (onTheWire conn sendings) (reportedSent conn sendings) := by
  rw [onTheWire, reportedSent, run_tcpTlSend_stopped h]
  exact .part messageFramer.cut_nil

theorem onTheWire_cons (conn : Connection) (sending : Sending) (sendings : List Sending) :
    onTheWire conn (sending :: sendings) =
      (tcpTlSend conn sending).2.flatMap Written.bytes ++
        onTheWire (tcpTlSend conn sending).1 sendings := by
  rw [onTheWire, run_cons, List.flatMap_append]
  rfl

theorem reportedSent_cons (conn : Connection) (sending : Sending) (sendings : List Sending) :
    reportedSent conn (sending :: sendings) =
      (tcpTlSend conn sending).2.filterMap Written.reported ++
        reportedSent (tcpTlSend conn sending).1 sendings := by
  rw [reportedSent, run_cons, List.filterMap_append]
  rfl

theorem carries_sendings {sendings : List Sending}
    (hsendable : ∀ sending ∈ sendings, Sendable parsers sending) (conn : Connection) :
    Carries (onTheWire conn sendings) (reportedSent conn sendings) := by
  induction sendings generalizing conn with
  | nil => exact .part messageFramer.cut_nil
  | cons sending sendings ih =>
      rw [List.forall_mem_cons] at hsendable
      obtain ⟨hsending, hrest⟩ := hsendable
      by_cases hopened : conn = .opened
      · subst hopened
        rw [onTheWire_cons, reportedSent_cons]
        cases sending with
        | keepalive connected written =>
            rw [tcpTlSend]
            split_ifs
            · exact ih hrest _
            · exact ih hrest _
            · rcases hsending with hzero | hwhole
              · subst hzero
                exact ih hrest _
              · simp only [List.flatMap_singleton, List.take_of_length_le hwhole]
                exact (ih hrest _).keepalive
        | message connected msg answers =>
            obtain ⟨⟨whole, hframed, rfl⟩, hanswers⟩ := hsending
            rw [tcpTlSend]
            split_ifs
            · exact ih hrest _
            · exact ih hrest _
            · rcases tcpTlSendMessage_cases whole.toStr_ne_nil hanswers with
                h | ⟨part, conn, hfront, hlen, hstopped, h⟩
              · rw [h]
                simp only [List.flatMap_singleton]
                exact (ih hrest _).message hframed
              · have hnone := run_tcpTlSend_stopped hstopped sendings
                rw [h]
                simp only [onTheWire, reportedSent, hnone, List.flatMap_singleton,
                  List.flatMap_nil, List.append_nil]
                exact .part (WholeMessage.cut_part hframed hfront hlen)
      · exact carries_of_stopped hopened _

/-! ### What is handed on -/

theorem Carries.handedOn_front {front more : Str} {reported : List Str}
    (h : Carries (front ++ more) reported) : WholeMessage.handedOn front <+: reported := by
  obtain ⟨rest, -, -, hdrain⟩ := h.orderly.drain_append
  rw [← h.handedOn, WholeMessage.handedOn, WholeMessage.handedOn, hdrain, List.filterMap_append]
  exact List.prefix_append _ _

theorem tcpTlRecv_handedOn {reads : List Recv}
    (hreads : Guarded tcpTlRecv Readable (some .init) reads)
    (horderly : messageFramer.Orderly (reads.flatMap Recv.data)) :
    (run tcpTlRecv (some .init) reads).2.filterMap Consumed.incomingMessage =
      WholeMessage.handedOn (reads.flatMap Recv.data) := by
  have hempty : buffered (some .init) = some [] := rfl
  have hdrain := (tcpTlRecv_receives.run_drain hreads hempty messageFramer.cut_nil horderly).1
  rw [hdrain]
  rfl

/-- However the kernels cut the stream in sending and in reading, and whatever calls fail, the
peer is handed the messages whose sending was reported, in their order and each of them once:
the first of them while bytes are still under way, and all of them when it has read the rest. -/
theorem tcp_delivers {sendings : List Sending}
    (hsendable : ∀ sending ∈ sendings, Sendable parsers sending) {reads : List Recv}
    (hreads : Guarded tcpTlRecv Readable (some .init) reads)
    (hwire : reads.flatMap Recv.data <+: onTheWire .opened sendings) :
    (run tcpTlRecv (some .init) reads).2.filterMap Consumed.incomingMessage <+:
        reportedSent .opened sendings ∧
      (reads.flatMap Recv.data = onTheWire .opened sendings →
        (run tcpTlRecv (some .init) reads).2.filterMap Consumed.incomingMessage =
          reportedSent .opened sendings) := by
  have hcarries := carries_sendings hsendable .opened
  obtain ⟨more, hmore⟩ := hwire
  rw [← hmore] at hcarries
  rw [tcpTlRecv_handedOn hreads hcarries.orderly.of_append]
  refine ⟨hcarries.handedOn_front, fun hall => ?_⟩
  have hnil : more = [] := by
    rw [← hall] at hmore
    exact List.append_right_eq_self.1 hmore
  rw [← hcarries.handedOn, hnil, List.append_nil]

/-- A response with its length line as it is built. -/
def plainOk : WholeMessage default where
  headers := "SIP/2.0 200 OK\r\nContent-Type: text/plain\r\nContent-Length: 5".toList
  body := "hello".toList
  nonempty := by decide
  ends := by decide +kernel
  accepted := by decide +kernel
  length := by decide +kernel

theorem plainOk_framed : plainOk.Framed := by
  refine ⟨contentLength_eq_some.1 (by decide +kernel), by decide +kernel⟩

/-- The first call writes three bytes before the rest, the second one fails after seven. -/
theorem tcp_delivers_plainOk :
    (run tcpTlRecv (some .init) [.bytes plainOk.toStr, .bytes (plainOk.toStr.take 7)]).2.filterMap
      Consumed.incomingMessage = [plainOk.toStr] := by
  have hsendable : ∀ sending ∈ [Sending.message 0 plainOk.toStr [.sent 3, .wouldBlock .timeout,
      .sent 200], .message 0 plainOk.toStr [.sent 7, .error]], Sendable default sending := by
    simp only [List.forall_mem_cons]
    refine ⟨⟨⟨plainOk, plainOk_framed, rfl⟩, ?_⟩, ⟨⟨plainOk, plainOk_framed, rfl⟩, ?_⟩,
      List.forall_mem_nil _⟩
    · simp
    · simp
  have hreads : Guarded tcpTlRecv Readable (some .init)
      [.bytes plainOk.toStr, .bytes (plainOk.toStr.take 7)] := by
    have hnext : (tcpTlRecv (some .init) (.bytes plainOk.toStr)).1 =
        some ⟨[], sipMessageMaxLength, Nat.zero_le _⟩ := by
      decide +kernel
    refine ⟨⟨by decide +kernel, by decide +kernel⟩, ?_, trivial⟩
    rw [hnext]
    exact ⟨by decide +kernel, by decide +kernel⟩
  have hwire : [Recv.bytes plainOk.toStr, .bytes (plainOk.toStr.take 7)].flatMap Recv.data =
      onTheWire .opened [Sending.message 0 plainOk.toStr [.sent 3, .wouldBlock .timeout,
        .sent 200], .message 0 plainOk.toStr [.sent 7, .error]] := by
    decide +kernel
  have hall := (tcp_delivers hsendable hreads (hwire ▸ List.prefix_rfl)).2 hwire
  rw [hall]
  decide +kernel

end Tcp
end Exosip
