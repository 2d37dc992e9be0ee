import Exosip.Tcp.Agreement

/-! What the receive loop does with pointers: the searches whose results it uses, and the NUL
that is written behind a message while it is logged. -/
namespace Exosip
namespace Tcp

open CString Machine

/-! ### The searches of a round -/

/-- The loop that starts with these bytes comes to a round over those. -/
abbrev Reached (buf rest : Str) : Prop := messageFramer.Reached buf rest

def headerSection (buf : Str) : Option Str :=
  match bufferFind buf endHeadersStr with
  | none => none
  | some endHeaders =>
      if endHeaders = 0 then none
      else some ((buf.take endHeaders).takeWhile (· ≠ Char.ofNat 0))

/-- The colon is looked for in the line of the length, and what was found is used. -/
def UsesFailedSearch (buf : Str) : Prop :=
  ∃ headers ∈ headerSection buf, ∃ header ∈ clenHeader headers, strchr header ':' = none

/-- No round of `handleMessages` uses the result of a failed search. -/
def NullFree (buf : Str) : Prop := ∀ rest, Reached buf rest → ¬ UsesFailedSearch rest

/-- The line that is taken for that of the length is spelled with a blank for the colon, and no
colon follows in the headers. -/
def ColonMissing (headers : Str) : Prop :=
  (Unspelled headers clenHeaderStr ∧
    ∃ line, FirstSpelled clenHeaderStr2 headers line ∧ ':' ∉ line) ∨
  (Unspelled headers clenHeaderStr ∧ Unspelled headers clenHeaderStr2 ∧
    Unspelled headers clenHeaderCompactStr ∧
    ∃ line, FirstSpelled clenHeaderCompactStr2 headers line ∧ ':' ∉ line)

/-- The sum of the lengths is an `int` that is zero, so that the round is repeated for ever. -/
def Endless (buf : Str) : Prop :=
  ∃ endHeaders ∈ bufferFind buf endHeadersStr, ∃ headers ∈ headerSection buf,
    ∃ clen ∈ contentLength headers, 0 ≤ clen ∧
      toInt32 (endHeaders + endHeadersStr.length + clen) = 0

theorem contentLength_eq_none {headers : Str} :
    contentLength headers = none ↔
      ∃ header, clenHeader headers = some header ∧ strchr header ':' = none := by
  unfold contentLength
  cases clenHeader headers with
  | none => simp
  | some header => simp

theorem tolower_eq_colon {c : Char} : tolower c = ':' ↔ c = ':' := by
  have hlower : ∀ n < 26, Char.ofNat (n + 97) ≠ ':' := by decide
  rw [tolower]
  split
  · next hupper =>
      have hrange : 65 ≤ c.toNat ∧ c.toNat ≤ 90 := by
        simpa [Char.le_def, UInt32.le_iff_toNat_le] using hupper
      constructor
      · intro h
        have hne := hlower (c.toNat - 65) (by omega)
        rw [show c.toNat - 65 + 97 = c.toNat + 32 by omega] at hne
        exact absurd h hne
      · intro h
        rw [h] at hrange
        exact absurd hrange.1 (by decide)
  · exact Iff.rfl

theorem colon_mem_of_begins {spelling line : Str} (h : Begins spelling line)
    (hcolon : ':' ∈ spelling) : ':' ∈ line := by
  unfold Begins osipStrncasecmp osipStrcasecmp at h
  rw [beq_iff_eq, List.take_length] at h
  have hmem : ':' ∈ (line.take spelling.length).map tolower := by
    rw [h, List.mem_map]
    exact ⟨':', hcolon, rfl⟩
  obtain ⟨c, hc, heq⟩ := List.mem_map.1 hmem
  rw [tolower_eq_colon] at heq
  rw [← heq]
  exact List.mem_of_mem_take hc

theorem clenHeader_eq_some_cases {headers line : Str} :
    clenHeader headers = some line ↔
      FirstSpelled clenHeaderStr headers line ∨
      (Unspelled headers clenHeaderStr ∧ FirstSpelled clenHeaderStr2 headers line) ∨
      (Unspelled headers clenHeaderStr ∧ Unspelled headers clenHeaderStr2 ∧
        FirstSpelled clenHeaderCompactStr headers line) ∨
      (Unspelled headers clenHeaderStr ∧ Unspelled headers clenHeaderStr2 ∧
        Unspelled headers clenHeaderCompactStr ∧
        FirstSpelled clenHeaderCompactStr2 headers line) := by
  have h1 : clenHeaderStr ≠ [] := by decide
  have h2 : clenHeaderStr2 ≠ [] := by decide
  have h3 : clenHeaderCompactStr ≠ [] := by decide
  have h4 : clenHeaderCompactStr2 ≠ [] := by decide
  simp only [← osipStrcasestr_eq_some h1, ← osipStrcasestr_eq_some h2,
    ← osipStrcasestr_eq_some h3, ← osipStrcasestr_eq_some h4, ← osipStrcasestr_eq_none h1,
    ← osipStrcasestr_eq_none h2, ← osipStrcasestr_eq_none h3]
  unfold clenHeader
  cases osipStrcasestr headers clenHeaderStr with
  | some _ => simp
  | none =>
      cases osipStrcasestr headers clenHeaderStr2 with
      | some _ => simp
      | none =>
          cases osipStrcasestr headers clenHeaderCompactStr with
          | some _ => simp
          | none => simp

theorem strchr_eq_none_iff_colonMissing {headers : Str} :
    (∃ header ∈ clenHeader headers, strchr header ':' = none) ↔ ColonMissing headers := by
  simp only [Option.mem_def, strchr_eq_none_iff, clenHeader_eq_some_cases]
  constructor
  · intro h
    obtain ⟨line, hline | hline | hline | hline, hcolon⟩ := h
    · exact absurd (colon_mem_of_begins hline.begins (by decide)) hcolon
    · exact Or.inl ⟨hline.1, line, hline.2, hcolon⟩
    · exact absurd (colon_mem_of_begins hline.2.2.begins (by decide)) hcolon
    · exact Or.inr ⟨hline.1, hline.2.1, hline.2.2.1, line, hline.2.2.2, hcolon⟩
  · intro h
    obtain ⟨h1, line, hline, hcolon⟩ | ⟨h1, h2, h3, line, hline, hcolon⟩ := h
    · exact ⟨line, Or.inr (Or.inl ⟨h1, hline⟩), hcolon⟩
    · exact ⟨line, Or.inr (Or.inr (Or.inr ⟨h1, h2, h3, hline⟩)), hcolon⟩

theorem handleBody_eq_fault {buflen endHeaders : Nat} {clen : Int} :
    handleBody buflen endHeaders clen = .fault ↔
      0 ≤ clen ∧ toInt32 (endHeaders + endHeadersStr.length + clen) = 0 := by
  simp only [handleBody]
  split_ifs <;> simp <;> omega

theorem handleMessage_eq_fault (buf : Str) :
    handleMessage buf = .fault ↔ UsesFailedSearch buf ∨ Endless buf := by
  unfold UsesFailedSearch Endless handleMessage headerSection
  cases bufferFind buf endHeadersStr with
  | none => simp
  | some endHeaders =>
      dsimp only
      split
      · simp
      · simp only [Option.mem_def, Option.some.injEq, exists_eq_left', ← contentLength_eq_none]
        cases contentLength ((buf.take endHeaders).takeWhile fun x => decide (x ≠ Char.ofNat 0)) with
        | none => simp
        | some clen => simp [handleBody_eq_fault]

theorem not_endless {buf : Str} (h : buf.length < 2 ^ 31) : ¬ Endless buf := by
  intro hendless
  obtain ⟨endHeaders, hfind, headers, -, clen, hclen, hpos, hzero⟩ := hendless
  have hlen := (bufferFind_eq_some hfind).1
  have hlt := WholeMessage.contentLength_lt hclen
  have hfour : endHeadersStr.length = 4 := by decide
  rw [toInt32, Int.bmod_def] at hzero
  split at hzero <;> omega

theorem messageFramer_halt {buf : Str} :
    messageFramer.cut buf = .halt ↔ handleMessage buf = .fault := by
  cases hround : handleMessage buf <;> simp [messageFramer, hround]

/-- The loop returns, from every buffer whose size an `int` holds, unless a failed search is
used. -/
theorem handleMessages_isSome_iff {buf : Str} (h : buf.length < 2 ^ 31) :
    (handleMessages buf).2.isSome = true ↔ NullFree buf := by
  rw [handleMessages_eq, Option.isSome_map, Option.isSome_iff_ne_none, ne_eq,
    Framer.drain_eq_none_iff]
  simp only [messageFramer_halt, handleMessage_eq_fault, not_exists, not_and, not_or, NullFree]
  apply forall₂_congr
  intro rest hreached
  have hshort : rest.length < 2 ^ 31 := hreached.suffix.length_le.trans_lt h
  exact and_iff_left (not_endless hshort)

/-- No failed search is used exactly when in no header section that the loop comes to a line
of the length lacks its colon. -/
theorem nullFree_iff (buf : Str) :
    NullFree buf ↔
      ∀ rest, Reached buf rest → ∀ headers ∈ headerSection rest, ¬ ColonMissing headers := by
  unfold NullFree UsesFailedSearch
  simp only [strchr_eq_none_iff_colonMissing, not_exists, not_and]

/-- The compact form with a blank and no colon. -/
theorem not_nullFree : ¬ NullFree "OPTIONS sip:b SIP/2.0\r\nl 5\r\n\r\n".toList := by
  intro h
  refine h _ .here ⟨"OPTIONS sip:b SIP/2.0\r\nl 5".toList, ?_, "\r\nl 5".toList, ?_, ?_⟩
  · decide +kernel
  · decide +kernel
  · decide

/-! ### The NUL behind a message -/

/-- The part of `_eXosip_handle_incoming_message` before the message is parsed: a NUL ends the
message while it is logged, and the byte in its place is put back. -/
def handleIncomingMessage (memory : Str) (length : Nat) : Str :=
  let tmp := memory.getD length (Char.ofNat 0)
  (memory.set length (Char.ofNat 0)).set length tmp

/-- `_eXosip_handle_incoming_message` is called in the round, with that length. -/
def HandsOn (buf : Str) (msglen : Nat) : Prop :=
  handleMessage buf = .message msglen ∨ (Endless buf ∧ msglen = 0)

/-- The byte is one of the allocation, and the parsers of this and the later messages find what
was there. -/
structure StaysInside (memory : Str) (index : Nat) : Prop where
  inside : index < memory.length
  restored : handleIncomingMessage memory index = memory

theorem handleIncomingMessage_restores {memory : Str} {index : Nat} (h : index < memory.length) :
    handleIncomingMessage memory index = memory := by
  rw [handleIncomingMessage, List.set_set, List.getD_eq_getElem?_getD,
    List.getElem?_eq_getElem h, Option.getD_some, List.set_getElem_self]

theorem staysInside_iff {memory : Str} {index : Nat} :
    StaysInside memory index ↔ index < memory.length := by
  constructor
  · intro h
    exact h.inside
  · intro h
    exact ⟨h, handleIncomingMessage_restores h⟩

namespace SockInfo

/-- The allocation holds the received bytes and, behind them, what happens to be there. -/
def Holds (sockinfo : SockInfo) (memory : Str) : Prop :=
  memory.length = sockinfo.bufsize ∧ sockinfo.buf <+: memory

/-- Every NUL that `handle_messages` lets be written stays in the allocation. -/
def NulsInside (sockinfo : SockInfo) : Prop :=
  ∀ memory, sockinfo.Holds memory → ∀ rest msglen, Reached sockinfo.buf rest →
    HandsOn rest msglen → StaysInside memory (sockinfo.buf.length - rest.length + msglen)

/-- The received bytes fill the allocation, and a message ends with the last of them. -/
def EndsFull (sockinfo : SockInfo) : Prop :=
  sockinfo.buf.length = sockinfo.bufsize ∧
    ∃ rest, Reached sockinfo.buf rest ∧ handleMessage rest = .message rest.length

theorem exists_holds (sockinfo : SockInfo) : ∃ memory, sockinfo.Holds memory := by
  have hfits := sockinfo.fits
  refine ⟨sockinfo.buf ++ List.replicate sockinfo.room 'x', ?_, List.prefix_append _ _⟩
  rw [List.length_append, List.length_replicate, room]
  omega

/-- A byte outside is written exactly when a message ends where the full buffer does. -/
theorem nulsInside_iff (sockinfo : SockInfo) : sockinfo.NulsInside ↔ ¬ sockinfo.EndsFull := by
  have hfits := sockinfo.fits
  unfold NulsInside
  simp only [staysInside_iff]
  constructor
  · intro h hfull
    obtain ⟨hlen, rest, hreached, hround⟩ := hfull
    obtain ⟨memory, hmemory⟩ := sockinfo.exists_holds
    have hinside := h memory hmemory rest rest.length hreached (Or.inl hround)
    have hsuffix := hreached.suffix.length_le
    rw [hmemory.1] at hinside
    omega
  · intro h memory hmemory rest msglen hreached hhands
    have hsuffix := hreached.suffix.length_le
    rw [hmemory.1]
    cases hhands with
    | inl hround =>
        have hmessage := handleMessage_message hround
        by_contra houtside
        refine h ⟨by omega, rest, hreached, ?_⟩
        rw [hround, show msglen = rest.length by omega]
    | inr hendless =>
        obtain ⟨⟨endHeaders, hfind, -⟩, hzero⟩ := hendless
        have hfour := (bufferFind_eq_some hfind).1
        have hpos : 0 < endHeadersStr.length := by decide
        omega

end SockInfo

/-- The buffer right after the read, with nothing to say about a read without bytes. -/
def AfterRead (property : SockInfo → Prop) : Option SockInfo → Recv → Prop
  | some sockinfo, .bytes data => property (sockinfo.prepare.received data)
  | _, _ => True

def exactFit : SipMessage where
  headers := "MESSAGE sip:b SIP/2.0\r\nl: 7966".toList
  body := List.replicate 7966 'x'
  carries := by
    refine ⟨"MESSAGE sip:b SIP/2.0".toList, ['l'], [], [' '], [], ?_, ?_, ?_, Or.inl rfl⟩
    · rw [List.length_replicate]
      decide +kernel
    · decide
    · simp
  ends := by decide +kernel

end Tcp
end Exosip
