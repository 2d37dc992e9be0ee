import Exosip.Tcp.Recv
import Mathlib.Data.List.Infix

/-! Which streams are cut into the same messages whatever the chunks they are read in. The
rule of the receive loop is a framer, and the connection is a receiver for it. -/
namespace Exosip
namespace Tcp

open CString Machine

theorem bufferFind_eq_some {haystack needle : Str} {n : Nat}
    (h : bufferFind haystack needle = some n) :
    n + needle.length ≤ haystack.length ∧ needle <+: haystack.drop n := by
  induction haystack generalizing n with
  | nil => simp [bufferFind] at h
  | cons c search ih =>
      have hlater (hfind : (bufferFind search needle).map (· + 1) = some n) :
          n + needle.length ≤ (c :: search).length ∧ needle <+: (c :: search).drop n := by
        obtain ⟨m, hm, rfl⟩ := Option.map_eq_some_iff.1 hfind
        obtain ⟨hlen, hprefix⟩ := ih hm
        rw [List.length_cons, List.drop_succ_cons]
        exact ⟨by omega, hprefix⟩
      rw [bufferFind] at h
      split at h
      · split at h
        · cases h
        · split at h
          · next hlen hprefix =>
              cases h
              exact ⟨by omega, List.isPrefixOf_iff_prefix.1 hprefix⟩
          · exact hlater h
      · exact hlater h

theorem bufferFind_append {haystack needle more : Str} {n : Nat}
    (h : bufferFind haystack needle = some n) :
    bufferFind (haystack ++ more) needle = some n := by
  induction haystack generalizing n with
  | nil => simp [bufferFind] at h
  | cons c search ih =>
      have hlater (hfind : (bufferFind search needle).map (· + 1) = some n) :
          (bufferFind (search ++ more) needle).map (· + 1) = some n := by
        obtain ⟨m, hm, rfl⟩ := Option.map_eq_some_iff.1 hfind
        rw [ih hm, Option.map_some]
      rw [List.cons_append, bufferFind]
      rw [bufferFind] at h
      split at h
      · next hhead =>
          rw [if_pos hhead]
          split at h
          · cases h
          · next hlen =>
              have hlong : ¬ (c :: (search ++ more)).length < needle.length := by
                rw [List.length_cons] at hlen ⊢
                rw [List.length_append]
                omega
              rw [if_neg hlong]
              split at h
              · next hprefix =>
                  have hprefix' : needle.isPrefixOf (c :: (search ++ more)) = true :=
                    List.isPrefixOf_iff_prefix.2 ((List.isPrefixOf_iff_prefix.1 hprefix).trans
                      (List.prefix_append (c :: search) more))
                  rw [if_pos hprefix']
                  exact h
              · next hprefix =>
                  have hprefix' : ¬ needle.isPrefixOf (c :: (search ++ more)) = true := by
                    intro hlonger
                    refine hprefix (List.isPrefixOf_iff_prefix.2 ?_)
                    exact List.prefix_of_prefix_length_le (List.isPrefixOf_iff_prefix.1 hlonger)
                      (List.prefix_append (c :: search) more) (by omega)
                  rw [if_neg hprefix']
                  exact hlater h
      · next hhead =>
          rw [if_neg hhead]
          exact hlater h

theorem handleBody_message {buflen endHeaders msglen : Nat} {clen : Int}
    (h : handleBody buflen endHeaders clen = .message msglen) : 0 < msglen ∧ msglen ≤ buflen := by
  simp only [handleBody] at h
  split_ifs at h
  injection h with h
  omega

theorem handleBody_ne_keepalive (buflen endHeaders : Nat) (clen : Int) :
    handleBody buflen endHeaders clen ≠ .keepalive := by
  simp only [handleBody]
  split_ifs <;> simp

theorem handleBody_longer {buflen buflen' endHeaders : Nat} {clen : Int} (hle : buflen ≤ buflen')
    (h : handleBody buflen endHeaders clen ≠ .incomplete) :
    handleBody buflen' endHeaders clen = handleBody buflen endHeaders clen := by
  simp only [handleBody] at h ⊢
  split_ifs at h ⊢ <;> first | rfl | exact absurd rfl h | omega

theorem handleMessage_append {buf : Str} (more : Str) (h : handleMessage buf ≠ .incomplete) :
    handleMessage (buf ++ more) = handleMessage buf := by
  unfold handleMessage at h ⊢
  cases hfind : bufferFind buf endHeadersStr with
  | none => simp [hfind] at h
  | some endHeaders =>
      have hlen := (bufferFind_eq_some hfind).1
      have hheaders : (buf ++ more).take endHeaders = buf.take endHeaders :=
        List.take_append_of_le_length (by omega)
      simp only [bufferFind_append hfind, hfind, hheaders] at h ⊢
      split_ifs at h ⊢ with hkeepalive
      · rfl
      · split at h
        · rfl
        · exact handleBody_longer (by simp) h

theorem handleMessage_cases (buf : Str) :
    handleMessage buf = .incomplete ∨
    (handleMessage buf = .keepalive ∧ endHeadersStr <+: buf) ∨
    handleMessage buf = .fault ∨
    ∃ endHeaders clen, handleMessage buf = handleBody buf.length endHeaders clen := by
  unfold handleMessage
  cases hfind : bufferFind buf endHeadersStr with
  | none => exact .inl rfl
  | some endHeaders =>
      dsimp only
      split_ifs with hkeepalive
      · have hprefix := (bufferFind_eq_some hfind).2
        rw [hkeepalive, List.drop_zero] at hprefix
        exact .inr (.inl ⟨rfl, hprefix⟩)
      · split
        · exact .inr (.inr (.inl rfl))
        · exact .inr (.inr (.inr ⟨endHeaders, _, rfl⟩))

theorem handleMessage_keepalive {buf : Str} (h : handleMessage buf = .keepalive) :
    endHeadersStr <+: buf := by
  rcases handleMessage_cases buf with hround | ⟨_, hprefix⟩ | hround | ⟨_, _, hround⟩
  · rw [hround] at h
    cases h
  · exact hprefix
  · rw [hround] at h
    cases h
  · exact absurd (hround ▸ h) (handleBody_ne_keepalive _ _ _)

theorem handleMessage_message {buf : Str} {msglen : Nat} (h : handleMessage buf = .message msglen) :
    0 < msglen ∧ msglen ≤ buf.length := by
  rcases handleMessage_cases buf with hround | ⟨hround, _⟩ | hround | ⟨_, _, hround⟩
  · rw [hround] at h
    cases h
  · rw [hround] at h
    cases h
  · rw [hround] at h
    cases h
  · exact handleBody_message (hround ▸ h)

def messageFramer : Framer Char Consumed where
  cut buf :=
    match handleMessage buf with
    | .incomplete => .wait
    | .keepalive => .take endHeadersStr.length .keepalive
    | .discard => .flush
    | .message msglen => .take msglen (.message (buf.take msglen))
    | .fault => .halt
  bytes := Consumed.bytes
  dropped := .discarded
  cut_nil := rfl
  take_size := by
    intro buf size event h
    split at h <;> simp only [reduceCtorEq, Cut.take.injEq] at h
    · next hround =>
        have hlen := (handleMessage_keepalive hround).length_le
        rw [← h.1]
        exact ⟨by decide, hlen⟩
    · next hround =>
        rw [← h.1]
        exact handleMessage_message hround
  take_bytes := by
    intro buf size event h
    split at h <;> simp only [reduceCtorEq, Cut.take.injEq] at h
    · next hround =>
        rw [← h.1, ← h.2]
        exact List.prefix_iff_eq_take.1 (handleMessage_keepalive hround)
    · rw [← h.1, ← h.2]
      rfl
  take_kept := by
    intro buf size event data h
    split at h <;> simp only [reduceCtorEq, Cut.take.injEq] at h
    · rw [← h.2]
      nofun
    · rw [← h.2]
      nofun
  bytes_dropped := fun _ => rfl
  stable := by
    intro buf more h
    have hround : handleMessage buf ≠ .incomplete := by
      intro hincomplete
      simp [hincomplete] at h
    rw [handleMessage_append more hround]
    cases hmessage : handleMessage buf with
    | message msglen =>
        dsimp only
        rw [List.take_append_of_le_length (handleMessage_message hmessage).2]
    | _ => rfl

/-- Every header section on the way is read with a length that is not negative, until bytes
remain that are not a complete message. -/
inductive LengthsRead : Str → Prop
  | incomplete {buf} : handleMessage buf = .incomplete → LengthsRead buf
  | keepalive {buf} : handleMessage buf = .keepalive →
      LengthsRead (buf.drop endHeadersStr.length) → LengthsRead buf
  | message {buf msglen} : handleMessage buf = .message msglen → LengthsRead (buf.drop msglen) →
      LengthsRead buf

theorem orderly_iff_lengthsRead {buf : Str} : messageFramer.Orderly buf ↔ LengthsRead buf := by
  constructor
  · intro h
    induction h with
    | @wait buf hcut =>
        refine .incomplete ?_
        cases hround : handleMessage buf <;> simp [messageFramer, hround] at hcut ⊢
    | @take buf size event hcut _ ih =>
        cases hround : handleMessage buf <;> simp [messageFramer, hround] at hcut
        · rw [← hcut.1] at ih
          exact .keepalive hround ih
        · rw [← hcut.1] at ih
          exact .message hround ih
  · intro h
    induction h with
    | incomplete hround => exact .wait (by simp [messageFramer, hround])
    | @keepalive buf hround _ ih =>
        have hcut : messageFramer.cut buf = .take endHeadersStr.length .keepalive := by
          simp [messageFramer, hround]
        exact .take hcut ih
    | @message buf msglen hround _ ih =>
        have hcut : messageFramer.cut buf = .take msglen (.message (buf.take msglen)) := by
          simp [messageFramer, hround]
        exact .take hcut ih

/-- With a round for every byte the loop does what the rule does, and consumes all that does
not remain. -/
theorem handleMessagesLoop_eq (buflen fuel : Nat) (buf : Str) (consumed : Nat)
    (hfuel : buf.length ≤ fuel) (hlen : consumed + buf.length = buflen) :
    handleMessagesLoop buflen fuel buf consumed =
      ((messageFramer.drain buf).1,
        (messageFramer.drain buf).2.map fun rest => buflen - rest.length) := by
  induction fuel generalizing buf consumed with
  | zero =>
      have hnil : buf = [] := List.length_eq_zero_iff.1 (by omega)
      subst hnil
      rw [Framer.drain_wait messageFramer.cut_nil, handleMessagesLoop, Option.map_some,
        List.length_nil, ← hlen]
      rfl
  | succ fuel ih =>
      rw [handleMessagesLoop]
      cases hround : handleMessage buf with
      | incomplete =>
          have hcut : messageFramer.cut buf = .wait := by simp [messageFramer, hround]
          rw [Framer.drain_wait hcut, Option.map_some, ← hlen, Nat.add_sub_cancel]
      | keepalive =>
          have hprefix := (handleMessage_keepalive hround).length_le
          have hpos : 0 < endHeadersStr.length := by decide
          have hcut : messageFramer.cut buf = .take endHeadersStr.length .keepalive := by
            simp [messageFramer, hround]
          rw [Framer.drain_take hcut]
          dsimp only
          rw [ih _ _ (by rw [List.length_drop]; omega) (by rw [List.length_drop]; omega)]
      | discard =>
          have hcut : messageFramer.cut buf = .flush := by simp [messageFramer, hround]
          rw [Framer.drain_flush hcut]
          rfl
      | message msglen =>
          have hsize := handleMessage_message hround
          have hcut : messageFramer.cut buf = .take msglen (.message (buf.take msglen)) := by
            simp [messageFramer, hround]
          rw [Framer.drain_take hcut]
          dsimp only
          rw [ih _ _ (by rw [List.length_drop]; omega) (by rw [List.length_drop]; omega)]
      | fault =>
          have hcut : messageFramer.cut buf = .halt := by simp [messageFramer, hround]
          rw [Framer.drain_halt hcut]
          rfl

theorem handleMessages_eq (buf : Str) :
    handleMessages buf = ((messageFramer.drain buf).1,
      (messageFramer.drain buf).2.map fun rest => buf.length - rest.length) :=
  handleMessagesLoop_eq buf.length buf.length buf 0 le_rfl (Nat.zero_add _)

/-- The bytes that were received and not consumed, none after a fault. -/
def buffered (conn : Option SockInfo) : Option Str := conn.map SockInfo.buf

def Recv.data : Recv → Str
  | bytes data => data
  | _ => []

/-- A read that returns bytes, no more than there is room for, or finds none. -/
def Readable : Option SockInfo → Recv → Prop
  | some sockinfo, .bytes data => data ≠ [] ∧ data.length ≤ sockinfo.prepare.room
  | none, .bytes data => data ≠ []
  | _, .wouldBlock => True
  | _, .eof => False
  | _, .error => False

namespace SockInfo

theorem allocate_buf (sockinfo : SockInfo) : sockinfo.allocate.buf = sockinfo.buf := by
  rw [allocate]
  split
  · have hfits := sockinfo.fits
    exact (List.length_eq_zero_iff.1 (by omega)).symm
  · rfl

theorem regrow_buf (sockinfo : SockInfo) : sockinfo.regrow.buf = sockinfo.buf := by
  rw [regrow]
  split <;> rfl

theorem shrink_buf (sockinfo : SockInfo) : sockinfo.shrink.buf = sockinfo.buf := by
  rw [shrink]
  split
  · next hempty => exact (List.length_eq_zero_iff.1 hempty.1).symm
  · rfl

theorem prepare_buf (sockinfo : SockInfo) : sockinfo.prepare.buf = sockinfo.buf := by
  rw [prepare, shrink_buf, regrow_buf, allocate_buf]

theorem regrow_room (sockinfo : SockInfo) : 0 < sockinfo.regrow.room := by
  have hfits := sockinfo.fits
  rw [regrow]
  split
  · rw [room]
    dsimp only
    omega
  · rw [room]
    omega

theorem shrink_room {sockinfo : SockInfo} (h : 0 < sockinfo.room) : 0 < sockinfo.shrink.room := by
  rw [shrink]
  split
  · decide
  · exact h

theorem prepare_room (sockinfo : SockInfo) : 0 < sockinfo.prepare.room :=
  shrink_room (regrow_room _)

theorem shift_buf (sockinfo : SockInfo) (consumed : Nat) :
    (sockinfo.shift consumed).buf = sockinfo.buf.drop consumed := by
  dsimp only [shift]
  split
  · rfl
  · next hlen => exact (List.drop_of_length_le (by omega)).symm

theorem received_buf {sockinfo : SockInfo} {data : Str} (h : data.length ≤ sockinfo.room) :
    (sockinfo.received data).buf = sockinfo.buf ++ data := by
  dsimp only [received]
  rw [List.take_of_length_le h]

end SockInfo

theorem tcpTlRecv_receives :
    Framer.Receives messageFramer tcpTlRecv buffered Recv.data Readable where
  drains := by
    intro conn recv buf hreadable hbuf hwait
    cases conn with
    | none => cases hbuf
    | some sockinfo =>
        rw [buffered, Option.map_some, Option.some.injEq] at hbuf
        cases recv with
        | eof => cases hreadable
        | error => cases hreadable
        | wouldBlock =>
            have hnone : buf ++ Recv.data .wouldBlock = buf := List.append_nil buf
            rw [hnone, Framer.drain_wait hwait, ← hbuf, ← sockinfo.prepare_buf]
            exact ⟨rfl, rfl⟩
        | bytes data =>
            have hreceived : (sockinfo.prepare.received data).buf = buf ++ data := by
              rw [SockInfo.received_buf hreadable.2, sockinfo.prepare_buf, hbuf]
            rw [tcpTlRecv, Recv.data]
            simp only [hreceived, handleMessages_eq, true_and]
            cases htail : (messageFramer.drain (buf ++ data)).2 with
            | none => rfl
            | some rest =>
                have hbytes := Framer.drain_bytes _ rest htail
                have hrest : (buf ++ data).drop ((buf ++ data).length - rest.length) = rest := by
                  conv_lhs => rw [← hbytes]
                  simp
                simp only [buffered, Option.map_some]
                split
                · next hzero =>
                    rw [hzero, List.drop_zero] at hrest
                    rw [hreceived, hrest]
                · rw [SockInfo.shift_buf, hreceived, hrest]
  stays := by
    intro conn recv _ hnone
    cases conn with
    | none => rfl
    | some sockinfo => cases hnone

theorem readable_bytes (conn : Option SockInfo) (stream : Str) :
    Guarded tcpTlRecv Readable conn (stream.map fun c => .bytes [c]) := by
  induction stream generalizing conn with
  | nil => trivial
  | cons c stream ih =>
      refine ⟨?_, ih _⟩
      cases conn with
      | none => exact List.cons_ne_nil c []
      | some sockinfo => exact ⟨List.cons_ne_nil c [], sockinfo.prepare_room⟩

/-- However the stream is cut into reads, the connection goes past the same messages and
keep-alives, which together with the bytes that remain are the stream. -/
def CutIndependent (stream : Str) : Prop :=
  ∃ consumed rest, (∀ data, .discarded data ∉ consumed) ∧
    consumed.flatMap Consumed.bytes ++ rest = stream ∧
    ∀ reads, Guarded tcpTlRecv Readable (some .init) reads → reads.flatMap Recv.data = stream →
      (run tcpTlRecv (some .init) reads).2 = consumed ∧
        buffered (run tcpTlRecv (some .init) reads).1 = some rest

theorem messageFramer_kept_iff {consumed : List Consumed} :
    messageFramer.Kept consumed ↔ ∀ data, .discarded data ∉ consumed := by
  constructor
  · intro h data hmem
    exact h _ hmem data rfl
  · intro h event hevent data heq
    rw [heq] at hevent
    exact h data hevent

/-- The messages cut off a stream do not depend on the reads exactly when every header section
on the way is read with a length that is not negative. -/
theorem framing_cutIndependent_iff (stream : Str) :
    CutIndependent stream ↔ LengthsRead stream := by
  have hreads : (stream.map fun c => Recv.bytes [c]).flatMap Recv.data = stream := by
    simp [List.flatMap_map, Recv.data]
  have hiff := tcpTlRecv_receives.independent_iff (rfl : buffered (some .init) = some [])
    ⟨_, readable_bytes _ stream, hreads⟩
  rw [← orderly_iff_lengthsRead, ← hiff]
  simp only [messageFramer_kept_iff]
  exact Iff.rfl

/-- Headers with a line for the length of the body: the name or its compact form, a colon
with blanks around it, and the number at the end of the line. -/
def CarriesLength (headers : Str) (length : Nat) : Prop :=
  ∃ before name left right after : Str,
    headers = before ++ ['\r', '\n'] ++ name ++ left ++ [':'] ++ right ++
      Nat.toDigits 10 length ++ after ∧
    (osipStrcasecmp name "content-length".toList ∨ osipStrcasecmp name ['l']) ∧
    (∀ c ∈ left ++ right, c = ' ' ∨ c = '\t') ∧ (after = [] ∨ ['\r', '\n'] <+: after)

/-- A message as it is sent. -/
structure SipMessage where
  headers : Str
  body : Str
  carries : CarriesLength headers body.length
  ends : bufferFind (headers ++ endHeadersStr) endHeadersStr = some headers.length

def SipMessage.toStr (msg : SipMessage) : Str := msg.headers ++ endHeadersStr ++ msg.body

def SipMessage.ReadRight (msg : SipMessage) : Prop :=
  contentLength (msg.headers.takeWhile (· ≠ Char.ofNat 0)) = some (msg.body.length : Int)

theorem SipMessage.handleMessage_toStr {msg : SipMessage} (more : Str) (hread : msg.ReadRight)
    (hlen : msg.toStr.length < 2 ^ 31) :
    handleMessage (msg.toStr ++ more) = .message msg.toStr.length := by
  have hstr : msg.toStr ++ more = msg.headers ++ endHeadersStr ++ (msg.body ++ more) := by
    rw [toStr, List.append_assoc]
  have hheaders : (msg.toStr ++ more).take msg.headers.length = msg.headers := by
    rw [hstr, List.append_assoc, List.take_left]
  have hne : msg.headers.length ≠ 0 := by
    obtain ⟨before, name, left, right, after, heq, -⟩ := msg.carries
    simp [heq]
  have hbody : handleBody (msg.toStr ++ more).length msg.headers.length msg.body.length =
      .message msg.toStr.length := by
    have hsum : (msg.headers.length : Int) + endHeadersStr.length + msg.body.length =
        msg.toStr.length := by
      simp [toStr, Int.add_assoc]
    have hint : toInt32 msg.toStr.length = msg.toStr.length := by
      rw [toInt32, Int.bmod_eq_of_le] <;> omega
    have hpos : 0 < msg.toStr.length := by omega
    simp only [handleBody, hsum, hint, List.length_append, Int.toNat_natCast]
    rw [if_neg (by omega), if_neg (by omega), if_neg (by omega)]
  rw [handleMessage, hstr, bufferFind_append msg.ends, ← hstr]
  simp only [hheaders, if_neg hne]
  rw [ReadRight] at hread
  rw [hread]
  exact hbody

theorem lengthsRead_flatMap {msgs : List SipMessage} (hread : ∀ msg ∈ msgs, msg.ReadRight)
    (hlen : ∀ msg ∈ msgs, msg.toStr.length < 2 ^ 31) :
    LengthsRead (msgs.flatMap SipMessage.toStr) := by
  induction msgs with
  | nil => exact .incomplete rfl
  | cons msg msgs ih =>
      rw [List.forall_mem_cons] at hread hlen
      have hround := SipMessage.handleMessage_toStr (msgs.flatMap SipMessage.toStr) hread.1 hlen.1
      refine .message hround ?_
      rw [List.flatMap_cons, List.drop_left]
      exact ih hread.2 hlen.2

/-- A message whose length line has a tab before the colon, with a body that looks like
headers. -/
def tabbed : SipMessage where
  headers := "MESSAGE sip:b SIP/2.0\r\nContent-Length\t: 25".toList
  body := "B\r\nContent-Length: -1\r\n\r\n".toList
  carries := ⟨"MESSAGE sip:b SIP/2.0".toList, "Content-Length".toList, ['\t'], [' '], [],
    by decide +kernel, by decide +kernel, by simp, .inl rfl⟩
  ends := by decide +kernel

def options : SipMessage where
  headers := "OPTIONS sip:b SIP/2.0\r\nl: 0".toList
  body := []
  carries := ⟨"OPTIONS sip:b SIP/2.0".toList, ['l'], [], [' '], [], by decide +kernel,
    by decide +kernel, by simp, .inl rfl⟩
  ends := by decide +kernel

/-- The length with the tab is read as zero, the body as headers with a negative length, and
what was read together with the body is discarded. -/
theorem framing_depends_on_cut :
    Guarded tcpTlRecv Readable (some .init) [.bytes (tabbed.toStr ++ options.toStr)] ∧
    Guarded tcpTlRecv Readable (some .init) [.bytes tabbed.toStr, .bytes options.toStr] ∧
    (run tcpTlRecv (some .init) [.bytes (tabbed.toStr ++ options.toStr)]).2.filterMap
      Consumed.incomingMessage = [tabbed.headers ++ endHeadersStr] ∧
    (run tcpTlRecv (some .init) [.bytes tabbed.toStr, .bytes options.toStr]).2.filterMap
      Consumed.incomingMessage = [tabbed.headers ++ endHeadersStr, options.toStr] ∧
    ¬ CutIndependent (tabbed.toStr ++ options.toStr) := by
  have hwhole : (run tcpTlRecv (some .init) [.bytes (tabbed.toStr ++ options.toStr)]).2.filterMap
      Consumed.incomingMessage = [tabbed.headers ++ endHeadersStr] := by
    decide +kernel
  have hparts : (run tcpTlRecv (some .init) [.bytes tabbed.toStr, .bytes options.toStr]).2.filterMap
      Consumed.incomingMessage = [tabbed.headers ++ endHeadersStr, options.toStr] := by
    decide +kernel
  have hreadable₁ : Guarded tcpTlRecv Readable (some .init)
      [.bytes (tabbed.toStr ++ options.toStr)] := by
    refine ⟨⟨by decide +kernel, by decide +kernel⟩, trivial⟩
  have hreadable₂ : Guarded tcpTlRecv Readable (some .init)
      [.bytes tabbed.toStr, .bytes options.toStr] := by
    have hnext : (tcpTlRecv (some .init) (.bytes tabbed.toStr)).1 =
        some ⟨[], sipMessageMaxLength, Nat.zero_le _⟩ := by
      decide +kernel
    refine ⟨⟨by decide +kernel, by decide +kernel⟩, ?_, trivial⟩
    rw [hnext]
    exact ⟨by decide +kernel, by decide +kernel⟩
  refine ⟨hreadable₁, hreadable₂, hwhole, hparts, ?_⟩
  intro ⟨consumed, rest, _, _, hall⟩
  have hconsumed₁ := (hall _ hreadable₁ (by simp [Recv.data])).1
  have hconsumed₂ := (hall _ hreadable₂ (by simp [Recv.data])).1
  rw [hconsumed₁] at hwhole
  rw [hconsumed₂, hwhole] at hparts
  simp at hparts

end Tcp
end Exosip
