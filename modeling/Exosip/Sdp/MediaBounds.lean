import Exosip.Sdp.Lines

/-! `sdp_message_parse_m` with every pointer that it follows: which buffers it reads behind the
NUL that ends them. -/
namespace Exosip
namespace Sdp

open CString

/-- A byte behind the NUL is read, or a copy of no character is asked for. -/
inductive Fault where
  | behindNul
  | emptyCopy
  deriving DecidableEq, Repr

abbrev Checked (α : Type) := Except Fault α

/-- A pointer; none is one behind the NUL. -/
abbrev Pointer := Option Str

/-- `p + 1`. -/
def Pointer.next : Str → Pointer
  | [] => none
  | _ :: rest => some rest

def Pointer.read : Pointer → Checked Str
  | none => .error .behindNul
  | some s => .ok s

def Pointer.strchr (p : Pointer) (c : Char) : Checked Pointer :=
  p.read.map (CString.strchr · c)

/-- `osip_strncpy`. -/
def copy (src : Str) (len : Nat) : Checked Str :=
  if len = 0 then .error .emptyCopy else .ok (osipStrncpy src len)

/-- `__osip_set_next_token`: the token and the pointer behind the separator. -/
def setNextToken (buf : Pointer) (endSeparator : Char) : Checked (Option (Str × Pointer)) :=
  buf.read.bind fun buf =>
    let sep := buf.dropWhile fun c => c != endSeparator && !isLineEnd c
    match sep with
    | [] => .ok none
    | c :: _ =>
        if isLineEnd c ∧ c ≠ endSeparator then .ok none
        else if sep.length = buf.length then .ok none
        else (copy buf (pointerDiff sep buf)).map fun dest => some (dest, Pointer.next sep)

def portAt (tmp : Pointer) : Checked (Option (Str × Option Str × Pointer)) :=
  (tmp.strchr '/').bind fun slash => (tmp.strchr ' ').bind fun space =>
    match space with
    | none => .ok none
    | some space =>
        if slash.any (space.length < ·.length) then
          (setNextToken tmp '/').bind fun port =>
            match port with
            | none => .ok none
            | some (port, tmp) => (setNextToken tmp ' ').map fun number =>
                number.map fun (number, tmp) => (port, some number, tmp)
        else (setNextToken tmp ' ').map fun port => port.map fun (port, tmp) => (port, none, tmp)

/-- The text up to the end of the line. -/
def lastTokenAt (tmp : Pointer) : Checked (Option (Str × Pointer)) :=
  (setNextToken tmp '\r').bind fun token =>
    match token with
    | some token => .ok (some token)
    | none => setNextToken tmp '\n'

def protoAt (tmp : Pointer) : Checked (Option (Str × Pointer)) :=
  (setNextToken tmp ' ').bind fun token =>
    match token with
    | some token => .ok (some token)
    | none => lastTokenAt tmp

def payloadsAt (crlf : Str) : Nat → Pointer → Checked (Option (List Str))
  | 0, _ => .ok none
  | fuel + 1, tmp =>
      (Pointer.strchr (tmp.bind Pointer.next) ' ').bind fun space =>
        if space.any (crlf.length ≤ ·.length) then
          (setNextToken tmp ' ').bind fun token =>
            match token with
            | none => .ok none
            | some (str, tmp) => (payloadsAt crlf fuel tmp).map fun payloads =>
                payloads.map (str :: ·)
        else if tmp.any (crlf.length < ·.length) then
          (lastTokenAt tmp).map fun token => token.map fun (str, _) => [str]
        else .ok (some [])

def mediaAt (tmp : Pointer) (crlf : Str) : Checked (Option Media) :=
  (setNextToken tmp ' ').bind fun media =>
    match media with
    | none => .ok none
    | some (media, tmp) => (portAt tmp).bind fun port =>
        match port with
        | none => .ok none
        | some (port, number, tmp) => (protoAt tmp).bind fun proto =>
            match proto with
            | none => .ok none
            | some (proto, tmp) =>
                (payloadsAt crlf ((tmp.getD []).length + 1) tmp).map fun payloads =>
                  payloads.map fun payloads =>
                    { mMedia := some media, mPort := some port, mNumberOfPort := number,
                      mProto := some proto, mPayloads := payloads }

/-- `sdp_message_parse_m`. -/
def sdpMessageParseMAt (sdp : SdpMessage) (buf : Str) : Checked Parsed :=
  match strchr buf '=' with
  | none => .ok .error
  | some equal =>
      if (buf.take (pointerDiff equal buf)).getLast? ≠ some 'm' then .ok .discard
      else
        let tmp := Pointer.next equal
        tmp.read.bind fun content =>
          let crlf := content.dropWhile fun c => !isLineEnd c
          if crlf.length = 0 then .ok .error
          else if crlf.length = content.length then .ok .error
          else (mediaAt tmp crlf).bind fun media =>
            match media with
            | none => .ok .error
            | some media => (Pointer.next crlf).read.map fun second =>
                -- crlf + 2 behind a line feed, otherwise crlf + 1
                .wf (sdp.addMedia media) (if second.head? = some '\n' then second.tail else second)

/-- The first line is a media line whose protocol is ended by the end of the line, with nothing
behind it. -/
def ProtocolAtEnd (buf : Str) : Prop :=
  ∃ equal media rest port number tmp proto, strchr buf '=' = some equal ∧
    (buf.take (pointerDiff equal buf)).getLast? = some 'm' ∧
    osipSetNextToken equal.tail ' ' = some (media, rest) ∧
    portValue rest = some (port, number, tmp) ∧
    osipSetNextToken tmp ' ' = none ∧ lastToken tmp = some (proto, [])

/-! ### Where every pointer is in the buffer -/

theorem setNextToken_some (buf : Str) (endSeparator : Char) :
    setNextToken (some buf) endSeparator =
      .ok ((osipSetNextToken buf endSeparator).map fun token => (token.1, some token.2)) := by
  have hsplit : buf.takeWhile (fun c => c != endSeparator && !isLineEnd c) ++
      buf.dropWhile (fun c => c != endSeparator && !isLineEnd c) = buf :=
    List.takeWhile_append_dropWhile
  have hhead := List.head?_dropWhile_not (fun c => c != endSeparator && !isLineEnd c) buf
  rw [setNextToken, Pointer.read, osipSetNextToken]
  dsimp only [Except.bind]
  cases hdrop : buf.dropWhile (fun c => c != endSeparator && !isLineEnd c) with
  | nil => rfl
  | cons c next =>
      rw [hdrop] at hsplit hhead
      dsimp only
      have hlength := congrArg List.length hsplit
      rw [List.length_append] at hlength
      have hstop : isLineEnd c = true ∧ c ≠ endSeparator ↔ c ≠ endSeparator := by
        refine and_iff_right_of_imp fun hne => ?_
        simpa [hne] using hhead
      simp only [hstop]
      by_cases hsep : c = endSeparator
      · rw [if_neg (not_not.2 hsep), if_neg (not_not.2 hsep)]
        by_cases hempty : (buf.takeWhile fun c => c != endSeparator && !isLineEnd c).length = 0
        · rw [if_pos (by omega), if_pos hempty]
          rfl
        · rw [if_neg (by omega), if_neg hempty, copy, pointerDiff, if_neg (by omega)]
          have htake : osipStrncpy buf (buf.length - (c :: next).length) =
              buf.takeWhile fun c => c != endSeparator && !isLineEnd c := by
            rw [osipStrncpy, ← hlength, Nat.add_sub_cancel]
            exact (List.prefix_iff_eq_take.1 (List.takeWhile_prefix _)).symm
          rw [htake]
          rfl
      · rw [if_pos hsep, if_pos hsep]
        rfl

theorem portAt_some (tmp : Str) :
    portAt (some tmp) =
      .ok ((portValue tmp).map fun port => (port.1, port.2.1, some port.2.2)) := by
  rw [portAt, portValue, Pointer.strchr, Pointer.strchr, Pointer.read]
  dsimp only [Except.map, Except.bind]
  cases strchr tmp ' ' with
  | none => rfl
  | some space =>
      dsimp only [Option.bind_eq_bind, Option.bind_some]
      rw [strchrBefore]
      cases strchr tmp '/' with
      | none =>
          rw [Option.any_none, if_neg Bool.false_ne_true, setNextToken_some, Option.filter_none]
          dsimp only [Except.map]
          cases osipSetNextToken tmp ' ' <;> rfl
      | some slash =>
          rw [Option.any_some, Option.filter_some]
          by_cases hslash : space.length < slash.length
          · rw [decide_eq_true hslash, if_pos rfl, if_pos rfl, setNextToken_some]
            dsimp only [Except.bind]
            cases osipSetNextToken tmp '/' with
            | none => rfl
            | some port =>
                dsimp only [Option.map_some, Option.bind_some]
                rw [setNextToken_some]
                dsimp only [Except.map]
                cases osipSetNextToken port.2 ' ' <;> rfl
          · rw [decide_eq_false hslash, if_neg Bool.false_ne_true, if_neg Bool.false_ne_true,
              setNextToken_some]
            dsimp only [Except.map]
            cases osipSetNextToken tmp ' ' <;> rfl

theorem lastTokenAt_some (tmp : Str) :
    lastTokenAt (some tmp) = .ok ((lastToken tmp).map fun token => (token.1, some token.2)) := by
  rw [lastTokenAt, lastToken, setNextToken_some, setNextToken_some]
  dsimp only [Except.bind]
  cases osipSetNextToken tmp '\r' <;> rfl

theorem protoAt_some (tmp : Str) :
    protoAt (some tmp) = .ok ((osipSetNextToken tmp ' ' <|> lastToken tmp).map fun token =>
      (token.1, some token.2)) := by
  rw [protoAt, setNextToken_some, lastTokenAt_some]
  dsimp only [Except.bind]
  cases osipSetNextToken tmp ' ' <;> rfl

section Line

variable {line crlf : Str}

theorem isLineEnd_ne_nil (hcrlf : IsLineEnd crlf) : crlf ≠ [] := by
  obtain ⟨c, after, rfl, -⟩ := hcrlf
  exact List.cons_ne_nil c after

theorem any_le_length_iff (hcrlf : IsLineEnd crlf) {rest : Str}
    (hrest : rest <:+ line ++ crlf) :
    (strchr rest ' ').any (crlf.length ≤ ·.length) =
      (strchrBefore rest ' ' crlf).isSome := by
  rw [strchrBefore]
  cases hspace : strchr rest ' ' with
  | none => rfl
  | some space =>
      obtain ⟨front, after, rfl, -, rfl⟩ := strchr_eq_some_iff.1 hspace
      have hne : (' ' :: after).length ≠ crlf.length := by
        intro hlength
        have hsuffix : ' ' :: after <:+ line ++ crlf := (List.suffix_append front _).trans hrest
        have hsame := (List.suffix_of_suffix_length_le hsuffix (List.suffix_append line crlf)
          hlength.le).eq_of_length hlength
        obtain ⟨c, tail, rfl, hc⟩ := hcrlf
        cases hsame
        cases hc
      rw [Option.any_some, Option.filter_some]
      by_cases hlt : crlf.length < (' ' :: after).length
      · rw [decide_eq_true hlt, if_pos rfl, decide_eq_true hlt.le]
        rfl
      · rw [decide_eq_false hlt, if_neg Bool.false_ne_true, decide_eq_false (by omega)]
        rfl

theorem payloadsAt_line (hcrlf : IsLineEnd crlf) (hline : ∀ c ∈ line, isLineEnd c = false)
    (fuel : Nat) :
    payloadsAt crlf fuel (some (line ++ crlf)) = .ok (payloadLoop crlf fuel (line ++ crlf)) := by
  induction fuel generalizing line with
  | zero => rfl
  | succ fuel ih =>
      obtain ⟨c, rest, hcons⟩ := List.exists_cons_of_ne_nil
        (List.append_ne_nil_of_right_ne_nil line (isLineEnd_ne_nil hcrlf))
      have hany : (strchr rest ' ').any (crlf.length ≤ ·.length) =
          (strchrBefore rest ' ' crlf).isSome :=
        any_le_length_iff hcrlf (hcons ▸ List.suffix_cons c rest)
      rw [payloadsAt, payloadLoop, setNextToken_some, lastTokenAt_some]
      have htail : (line ++ crlf).tail = rest := by rw [hcons]; rfl
      have hnext : Option.bind (some (line ++ crlf)) Pointer.next = some rest := by rw [hcons]; rfl
      rw [hnext, htail, Pointer.strchr, Pointer.read]
      dsimp only [Except.map, Except.bind]
      rw [hany, Option.any_some]
      cases strchrBefore rest ' ' crlf with
      | none =>
          rw [Option.isSome_none, if_neg Bool.false_ne_true]
          dsimp only
          by_cases hlt : crlf.length < (line ++ crlf).length
          · rw [decide_eq_true hlt, if_pos rfl, if_pos hlt]
            cases lastToken (line ++ crlf) <;> rfl
          · rw [decide_eq_false hlt, if_neg Bool.false_ne_true, if_neg hlt]
      | some space =>
          rw [Option.isSome_some, if_pos rfl]
          dsimp only
          cases htoken : osipSetNextToken (line ++ crlf) ' ' with
          | none => rfl
          | some token =>
              obtain ⟨str, next⟩ := token
              obtain ⟨after, -, rfl, -, hafter⟩ :=
                osipSetNextToken_line hline hcrlf (by decide) htoken
              dsimp only [Option.map_some, Option.bind_eq_bind, Option.bind_some]
              rw [ih hafter]
              dsimp only
              cases payloadLoop crlf fuel (after ++ crlf) <;> rfl

theorem payloadsAt_behind {next : Str} (hne : next ≠ []) (hlength : next.length < crlf.length)
    (fuel : Nat) :
    payloadsAt crlf (fuel + 1) (some next) = .ok (payloadLoop crlf (fuel + 1) next) := by
  obtain ⟨c, rest, rfl⟩ := List.exists_cons_of_ne_nil hne
  rw [List.length_cons] at hlength
  have hshort : ∀ p, strchr rest ' ' = some p → p.length < crlf.length := fun p hp =>
    lt_of_le_of_lt (strchr_length_le hp) (by omega)
  have hbefore : strchrBefore rest ' ' crlf = none := by
    rw [strchrBefore, Option.filter_eq_none_iff]
    intro p hp
    have := hshort p hp
    simp only [decide_eq_true_eq]
    omega
  have hany : (strchr rest ' ').any (crlf.length ≤ ·.length) = false := by
    cases hspace : strchr rest ' ' with
    | none => rfl
    | some p =>
        have := hshort p hspace
        rw [Option.any_some, decide_eq_false (by omega)]
  rw [payloadsAt, payloadLoop, List.tail_cons, hbefore, Option.bind_some, Pointer.next,
    Pointer.strchr, Pointer.read]
  dsimp only [Except.map, Except.bind]
  rw [hany, if_neg Bool.false_ne_true, Option.any_some, List.length_cons,
    decide_eq_false (by omega), if_neg Bool.false_ne_true, if_neg (by omega)]

theorem portValue_line (hcrlf : IsLineEnd crlf) (hline : ∀ c ∈ line, isLineEnd c = false)
    {port tmp : Str} {number : Option Str}
    (h : portValue (line ++ crlf) = some (port, number, tmp)) :
    ∃ rest, tmp = rest ++ crlf ∧ ∀ c ∈ rest, isLineEnd c = false := by
  rw [portValue] at h
  obtain ⟨space, -, h⟩ := Option.bind_eq_some_iff.1 h
  split at h
  · obtain ⟨⟨first, tmp'⟩, hfirst, h⟩ := Option.bind_eq_some_iff.1 h
    obtain ⟨⟨second, tmp''⟩, hsecond, h⟩ := Option.bind_eq_some_iff.1 h
    cases h
    obtain ⟨rest, -, rfl, -, hrest⟩ := osipSetNextToken_line hline hcrlf (by decide) hfirst
    obtain ⟨rest', -, rfl, -, hrest'⟩ := osipSetNextToken_line hrest hcrlf (by decide) hsecond
    exact ⟨rest', rfl, hrest'⟩
  · obtain ⟨⟨first, tmp'⟩, hfirst, h⟩ := Option.bind_eq_some_iff.1 h
    cases h
    obtain ⟨rest, -, rfl, -, hrest⟩ := osipSetNextToken_line hline hcrlf (by decide) hfirst
    exact ⟨rest, rfl, hrest⟩

theorem lastToken_next (hcrlf : IsLineEnd crlf) (hline : ∀ c ∈ line, isLineEnd c = false)
    {t next : Str} (h : lastToken (line ++ crlf) = some (t, next)) :
    next.length < crlf.length := by
  obtain ⟨rfl, -⟩ := lastToken_line hline hcrlf h
  have hsplit : ∃ c, t ++ crlf = t ++ c :: next := by
    rw [lastToken] at h
    cases hcr : osipSetNextToken (t ++ crlf) '\r' with
    | none =>
        rw [hcr] at h
        exact ⟨'\n', (osipSetNextToken_eq_some h).1⟩
    | some token =>
        rw [hcr] at h
        cases h
        exact ⟨'\r', (osipSetNextToken_eq_some hcr).1⟩
  obtain ⟨c, hsplit⟩ := hsplit
  rw [List.append_cancel_left hsplit, List.length_cons]
  exact Nat.lt_succ_self _

theorem payloadsAt_proto (hcrlf : IsLineEnd crlf) (hline : ∀ c ∈ line, isLineEnd c = false)
    {proto next : Str}
    (h : (osipSetNextToken (line ++ crlf) ' ' <|> lastToken (line ++ crlf)) = some (proto, next))
    (hnext : next ≠ []) (fuel : Nat) :
    payloadsAt crlf (fuel + 1) (some next) = .ok (payloadLoop crlf (fuel + 1) next) := by
  cases hspace : osipSetNextToken (line ++ crlf) ' ' with
  | some token =>
      rw [hspace] at h
      cases h
      obtain ⟨rest, -, rfl, -, hrest⟩ := osipSetNextToken_line hline hcrlf (by decide) hspace
      exact payloadsAt_line hcrlf hrest (fuel + 1)
  | none =>
      rw [hspace] at h
      exact payloadsAt_behind hnext (lastToken_next hcrlf hline h) fuel

theorem proto_next_ne_nil (hcrlf : IsLineEnd crlf) (hline : ∀ c ∈ line, isLineEnd c = false)
    {proto next : Str} (h : osipSetNextToken (line ++ crlf) ' ' = some (proto, next)) :
    next ≠ [] := by
  obtain ⟨rest, -, rfl, -⟩ := osipSetNextToken_line hline hcrlf (by decide) h
  exact List.append_ne_nil_of_right_ne_nil rest (isLineEnd_ne_nil hcrlf)

def ProtocolLeft (content : Str) : Prop :=
  ∃ media rest port number tmp proto, osipSetNextToken content ' ' = some (media, rest) ∧
    portValue rest = some (port, number, tmp) ∧ osipSetNextToken tmp ' ' = none ∧
    lastToken tmp = some (proto, [])

theorem mediaAt_line (hcrlf : IsLineEnd crlf) (hline : ∀ c ∈ line, isLineEnd c = false)
    (hleft : ¬ ProtocolLeft (line ++ crlf)) :
    mediaAt (some (line ++ crlf)) crlf = .ok (mediaValue (line ++ crlf) crlf) := by
  rw [mediaAt, mediaValue, setNextToken_some]
  dsimp only [Except.bind]
  cases hmedia : osipSetNextToken (line ++ crlf) ' ' with
  | none => rfl
  | some media =>
      obtain ⟨media, rest⟩ := media
      obtain ⟨line', -, rfl, -, hline'⟩ := osipSetNextToken_line hline hcrlf (by decide) hmedia
      dsimp only [Option.map_some, Option.bind_eq_bind, Option.bind_some]
      rw [portAt_some]
      dsimp only
      cases hport : portValue (line' ++ crlf) with
      | none => rfl
      | some port =>
          obtain ⟨port, number, tmp⟩ := port
          obtain ⟨line'', rfl, hline''⟩ := portValue_line hcrlf hline' hport
          dsimp only [Option.map_some, Option.bind_some]
          rw [protoAt_some]
          dsimp only
          cases hproto : osipSetNextToken (line'' ++ crlf) ' ' <|> lastToken (line'' ++ crlf) with
          | none => rfl
          | some proto =>
              obtain ⟨proto, next⟩ := proto
              have hnext : next ≠ [] := by
                cases hspace : osipSetNextToken (line'' ++ crlf) ' ' with
                | some token =>
                    rw [hspace] at hproto
                    cases hproto
                    exact proto_next_ne_nil hcrlf hline'' hspace
                | none =>
                    rw [hspace] at hproto
                    rintro rfl
                    exact hleft ⟨_, _, _, _, _, _, hmedia, hport, hspace, hproto⟩
              dsimp only [Option.map_some, Option.bind_some, Option.getD_some]
              rw [payloadsAt_proto hcrlf hline'' hproto hnext]
              dsimp only [Except.map]
              cases payloadLoop crlf (next.length + 1) next <;> rfl

theorem mediaAt_left {content : Str} (h : ProtocolLeft content) (crlf : Str) :
    mediaAt (some content) crlf = .error .behindNul := by
  obtain ⟨media, rest, port, number, tmp, proto, hmedia, hport, hspace, hproto⟩ := h
  rw [mediaAt, setNextToken_some, hmedia]
  dsimp only [Except.bind, Option.map_some]
  rw [portAt_some, hport]
  dsimp only [Option.map_some]
  rw [protoAt_some, hspace, hproto]
  rfl

end Line

/-! ### The whole function -/

theorem protocolAtEnd_iff (buf : Str) :
    ProtocolAtEnd buf ↔ ∃ equal, strchr buf '=' = some equal ∧
      (buf.take (pointerDiff equal buf)).getLast? = some 'm' ∧ ProtocolLeft equal.tail := by
  constructor
  · rintro ⟨equal, media, rest, port, number, tmp, proto, hequal, hheader, htokens⟩
    exact ⟨equal, hequal, hheader, media, rest, port, number, tmp, proto, htokens⟩
  · rintro ⟨equal, hequal, hheader, media, rest, port, number, tmp, proto, htokens⟩
    exact ⟨equal, media, rest, port, number, tmp, proto, hequal, hheader, htokens⟩

theorem osipSetNextToken_suffix {buf t next : Str} {separator : Char}
    (h : osipSetNextToken buf separator = some (t, next)) : next <:+ buf := by
  obtain ⟨rfl, -⟩ := osipSetNextToken_eq_some h
  exact (List.suffix_cons separator next).trans (List.suffix_append t _)

theorem portValue_suffix {buf port tmp : Str} {number : Option Str}
    (h : portValue buf = some (port, number, tmp)) : tmp <:+ buf := by
  rw [portValue] at h
  obtain ⟨space, -, h⟩ := Option.bind_eq_some_iff.1 h
  split at h
  · obtain ⟨first, hfirst, h⟩ := Option.bind_eq_some_iff.1 h
    obtain ⟨second, hsecond, h⟩ := Option.bind_eq_some_iff.1 h
    cases h
    exact (osipSetNextToken_suffix hsecond).trans (osipSetNextToken_suffix hfirst)
  · obtain ⟨first, hfirst, h⟩ := Option.bind_eq_some_iff.1 h
    cases h
    exact osipSetNextToken_suffix hfirst

theorem exists_lineEnd_of_lastToken {buf t next : Str} (h : lastToken buf = some (t, next)) :
    ∃ c ∈ buf, isLineEnd c = true := by
  rw [lastToken] at h
  cases hcr : osipSetNextToken buf '\r' with
  | none =>
      rw [hcr] at h
      obtain ⟨rfl, -⟩ := osipSetNextToken_eq_some h
      exact ⟨'\n', by simp, rfl⟩
  | some token =>
      obtain ⟨rfl, -⟩ := osipSetNextToken_eq_some hcr
      exact ⟨'\r', by simp, rfl⟩

theorem ProtocolLeft.line {content : Str} (h : ProtocolLeft content) :
    (content.dropWhile fun c => !isLineEnd c).length ≠ 0 ∧
      (content.dropWhile fun c => !isLineEnd c).length ≠ content.length := by
  obtain ⟨media, rest, port, number, tmp, proto, hmedia, hport, hspace, hproto⟩ := h
  constructor
  · obtain ⟨c, hc, hend⟩ := exists_lineEnd_of_lastToken hproto
    have hmem : c ∈ content :=
      ((portValue_suffix hport).trans (osipSetNextToken_suffix hmedia)).subset hc
    rw [ne_eq, List.length_eq_zero_iff, List.dropWhile_eq_nil_iff]
    intro hall
    have hnot := hall c hmem
    rw [hend] at hnot
    cases hnot
  · obtain ⟨rfl, ⟨hne, htext⟩, -⟩ := osipSetNextToken_eq_some hmedia
    obtain ⟨c, tail, rfl⟩ := List.exists_cons_of_ne_nil hne
    have hle := (List.dropWhile_suffix (l := tail ++ ' ' :: rest) fun c => !isLineEnd c).length_le
    rw [List.cons_append, List.dropWhile_cons, htext c List.mem_cons_self, Bool.not_false,
      if_pos rfl, List.length_cons]
    omega

theorem sdpMessageParseMAt_eq (sdp : SdpMessage) {buf : Str} (h : ¬ ProtocolAtEnd buf) :
    sdpMessageParseMAt sdp buf = .ok (sdpMessageParseM sdp buf) := by
  rw [protocolAtEnd_iff] at h
  rw [sdpMessageParseMAt, sdpMessageParseM, parseHeader]
  cases hequal : strchr buf '=' with
  | none => rfl
  | some equal =>
      dsimp only
      by_cases hheader : (buf.take (pointerDiff equal buf)).getLast? = some 'm'
      · rw [if_neg (not_not.2 hheader), if_neg (not_not.2 hheader)]
        obtain ⟨front, content, rfl, -, rfl⟩ := strchr_eq_some_iff.1 hequal
        rw [Pointer.next, Pointer.read, List.tail_cons]
        dsimp only [Except.bind]
        have hleft : ¬ ProtocolLeft content := fun hleft => h ⟨_, hequal, hheader, hleft⟩
        have hsplit : content.takeWhile (fun c => !isLineEnd c) ++
            content.dropWhile (fun c => !isLineEnd c) = content :=
          List.takeWhile_append_dropWhile
        have hhead := List.head?_dropWhile_not (fun c => !isLineEnd c) content
        have hline : ∀ c ∈ content.takeWhile (fun c => !isLineEnd c), isLineEnd c = false := by
          intro c hc
          simpa using List.mem_takeWhile_imp hc
        generalize content.dropWhile (fun c => !isLineEnd c) = crlf at hsplit hhead ⊢
        by_cases hempty : crlf.length = 0
        · rw [if_pos hempty, if_pos hempty]
        · rw [if_neg hempty, if_neg hempty]
          by_cases hnone : crlf.length = content.length
          · rw [if_pos hnone, if_pos hnone]
          · obtain ⟨c, after, rfl⟩ := List.exists_cons_of_length_pos (Nat.pos_of_ne_zero hempty)
            have hcrlf : IsLineEnd (c :: after) := ⟨c, after, rfl, by simpa using hhead⟩
            rw [if_neg hnone, if_neg hnone]
            have hmedia := mediaAt_line hcrlf hline (hsplit.symm ▸ hleft)
            rw [hsplit] at hmedia
            rw [hmedia]
            dsimp only
            cases mediaValue content (c :: after) with
            | none => rfl
            | some media =>
                cases after with
                | nil => rfl
                | cons d next =>
                    by_cases hd : d = '\n'
                    · rw [hd]
                      rfl
                    · simp [Pointer.next, Pointer.read, Except.map, nextLine, hd]
      · rw [if_pos hheader, if_pos hheader]

theorem sdpMessageParseMAt_fault (sdp : SdpMessage) {buf : Str} (h : ProtocolAtEnd buf) :
    sdpMessageParseMAt sdp buf = .error .behindNul := by
  obtain ⟨equal, hequal, hheader, hleft⟩ := (protocolAtEnd_iff buf).1 h
  obtain ⟨front, content, rfl, -, rfl⟩ := strchr_eq_some_iff.1 hequal
  obtain ⟨hempty, hnone⟩ := hleft.line
  rw [sdpMessageParseMAt, hequal]
  dsimp only
  rw [if_neg (not_not.2 hheader), Pointer.next, Pointer.read]
  dsimp only [Except.bind]
  rw [List.tail_cons] at hempty hnone hleft
  rw [if_neg hempty, if_neg hnone, mediaAt_left hleft]

/-- The parser of a media line reads no byte behind the NUL, and copies no empty text, exactly
when no protocol ends the buffer. -/
theorem mediaInBounds_iff (sdp : SdpMessage) (buf : Str) :
    (∃ parsed, sdpMessageParseMAt sdp buf = .ok parsed) ↔ ¬ ProtocolAtEnd buf := by
  constructor
  · rintro ⟨parsed, hparsed⟩ hend
    rw [sdpMessageParseMAt_fault sdp hend] at hparsed
    cases hparsed
  · exact fun h => ⟨_, sdpMessageParseMAt_eq sdp h⟩

/-- A rejected media without a payload as the last line, ended by a line feed. -/
theorem not_mediaInBounds :
    ¬ ∀ sdp buf, ∃ parsed, sdpMessageParseMAt sdp buf = .ok parsed := by
  intro h
  obtain ⟨parsed, hparsed⟩ := h sdpMessageInit "m=audio 0 RTP/AVP\n".toList
  have hfault : sdpMessageParseMAt sdpMessageInit "m=audio 0 RTP/AVP\n".toList =
      .error .behindNul := by decide
  rw [hfault] at hparsed
  cases hparsed

end Sdp
end Exosip
