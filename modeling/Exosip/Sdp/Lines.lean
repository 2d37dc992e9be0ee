import Exosip.Sdp.Message

/-! The lines of a session description: what the parser of a line accepts, and that it reads
back the line that is printed for it. -/
namespace Exosip
namespace Sdp

open CString

/-- What may stand between the `=` and the end of a line. -/
def IsText (t : Str) : Prop := t ≠ [] ∧ ∀ c ∈ t, isLineEnd c = false

/-- What may stand in front of a separator. -/
def IsToken (separator : Char) (t : Str) : Prop := IsText t ∧ separator ∉ t

def IsLineEnd (crlf : Str) : Prop := ∃ c after, crlf = c :: after ∧ isLineEnd c = true

section Tokens

variable {line crlf t buf next : Str} {separator : Char}

theorem takeWhile_dropWhile_append {p : Char → Bool} {rest : Str} (h : ∀ c ∈ t, p c = true)
    (hrest : ∀ c ∈ rest.head?, p c = false) :
    (t ++ rest).takeWhile p = t ∧ (t ++ rest).dropWhile p = rest := by
  rw [List.takeWhile_append_of_pos h, List.dropWhile_append_of_pos h]
  cases rest with
  | nil => simp
  | cons c rest =>
      have hc : p c = false := hrest c rfl
      simp [hc]

theorem osipSetNextToken_append (h : IsText t) (hsep : separator ∉ t) (next : Str) :
    osipSetNextToken (t ++ separator :: next) separator = some (t, next) := by
  have hin : ∀ c ∈ t, (c != separator && !isLineEnd c) = true := by
    intro c hc
    have hne : c ≠ separator := fun heq => hsep (heq ▸ hc)
    simp [hne, h.2 c hc]
  have hhead : ∀ c ∈ (separator :: next).head?, (c != separator && !isLineEnd c) = false := by simp
  obtain ⟨htake, hdrop⟩ := takeWhile_dropWhile_append hin hhead
  have hlen : t.length ≠ 0 := fun h0 => h.1 (List.length_eq_zero_iff.1 h0)
  rw [osipSetNextToken]
  simp only [htake, hdrop]
  rw [if_neg (by simp), if_neg hlen]

theorem osipSetNextToken_eq_some (h : osipSetNextToken buf separator = some (t, next)) :
    buf = t ++ separator :: next ∧ IsToken separator t := by
  rw [osipSetNextToken] at h
  have hsplit : buf.takeWhile (fun c => c != separator && !isLineEnd c) ++
      buf.dropWhile (fun c => c != separator && !isLineEnd c) = buf :=
    List.takeWhile_append_dropWhile
  split at h
  · cases h
  · next sep after hdrop =>
      split_ifs at h with hsep hlen
      rw [not_not] at hsep
      cases h
      rw [hdrop, hsep] at hsplit
      refine ⟨hsplit.symm, ⟨?_, ?_⟩, ?_⟩
      · intro hnil
        exact hlen (by rw [hnil]; rfl)
      · intro c hc
        have := List.mem_takeWhile_imp hc
        simp at this
        exact this.2
      · intro hc
        have := List.mem_takeWhile_imp hc
        simp at this

theorem osipSetNextToken_eq_none (ht : ∀ c ∈ t, isLineEnd c = false) (hsep : separator ∉ t)
    (hcrlf : IsLineEnd crlf) (hend : isLineEnd separator = false) :
    osipSetNextToken (t ++ crlf) separator = none := by
  obtain ⟨c, after, rfl, hc⟩ := hcrlf
  have hin : ∀ c ∈ t, (c != separator && !isLineEnd c) = true := by
    intro c hc
    have hne : c ≠ separator := fun heq => hsep (heq ▸ hc)
    simp [hne, ht c hc]
  have hhead : ∀ d ∈ (c :: after).head?, (d != separator && !isLineEnd d) = false := by simp [hc]
  obtain ⟨htake, hdrop⟩ := takeWhile_dropWhile_append hin hhead
  have hne : c ≠ separator := by
    intro heq
    rw [heq, hend] at hc
    cases hc
  rw [osipSetNextToken, hdrop]
  dsimp only
  rw [if_pos hne]

theorem osipSetNextToken_line (hline : ∀ c ∈ line, isLineEnd c = false) (hcrlf : IsLineEnd crlf)
    (hend : isLineEnd separator = false)
    (h : osipSetNextToken (line ++ crlf) separator = some (t, next)) :
    ∃ rest, line = t ++ separator :: rest ∧ next = rest ++ crlf ∧ IsToken separator t ∧
      ∀ c ∈ rest, isLineEnd c = false := by
  obtain ⟨hsplit, htoken⟩ := osipSetNextToken_eq_some h
  obtain ⟨c, after, rfl, hc⟩ := hcrlf
  rcases List.append_eq_append_iff.1 hsplit with ⟨extra, ht, hextra⟩ | ⟨extra, hextra, hnext⟩
  · cases extra with
    | nil =>
        cases hextra
        rw [hend] at hc
        cases hc
    | cons d extra =>
        cases hextra
        have hd := htoken.1.2 c (by rw [ht]; simp)
        rw [hc] at hd
        cases hd
  · cases extra with
    | nil =>
        cases hnext
        rw [hend] at hc
        cases hc
    | cons d extra =>
        cases hnext
        refine ⟨extra, hextra, rfl, htoken, ?_⟩
        intro e he
        exact hline e (by rw [hextra]; simp [he])

theorem lastToken_append (h : IsText t) (next : Str) :
    lastToken (t ++ '\r' :: next) = some (t, next) := by
  have hsep : '\r' ∉ t := by
    intro hmem
    have := h.2 '\r' hmem
    simp [isLineEnd] at this
  rw [lastToken, osipSetNextToken_append h hsep]
  rfl

theorem lastToken_line (hline : ∀ c ∈ line, isLineEnd c = false) (hcrlf : IsLineEnd crlf)
    (h : lastToken (line ++ crlf) = some (t, next)) : t = line ∧ IsText line := by
  have hwhole (sep : Char) (hsep : isLineEnd sep = true)
      (htoken : osipSetNextToken (line ++ crlf) sep = some (t, next)) :
      t = line ∧ IsText line := by
    obtain ⟨hsplit, htext, _⟩ := osipSetNextToken_eq_some htoken
    obtain ⟨c, after, rfl, hc⟩ := hcrlf
    rcases List.append_eq_append_iff.1 hsplit with ⟨extra, ht, hextra⟩ | ⟨extra, hextra, hnext⟩
    · cases extra with
      | nil =>
          rw [List.append_nil] at ht
          exact ⟨ht, ht ▸ htext⟩
      | cons d extra =>
          cases hextra
          have hd := htext.2 c (by rw [ht]; simp)
          rw [hc] at hd
          cases hd
    · cases extra with
      | nil =>
          rw [List.append_nil] at hextra
          exact ⟨hextra.symm, hextra ▸ htext⟩
      | cons d extra =>
          cases hnext
          have hd := hline sep (by rw [hextra]; simp)
          rw [hsep] at hd
          cases hd
  rw [lastToken] at h
  cases hcr : osipSetNextToken (line ++ crlf) '\r' with
  | none =>
      rw [hcr] at h
      exact hwhole '\n' rfl h
  | some result =>
      rw [hcr] at h
      cases h
      exact hwhole '\r' rfl hcr

theorem strchrBefore_notMem (h : separator ∉ t) (limit : Str) :
    strchrBefore (t ++ limit) separator limit = none := by
  rw [strchrBefore, strchr_append h]
  cases hfind : strchr limit separator with
  | none => rfl
  | some p =>
      have := strchr_length_le hfind
      simp
      omega

theorem strchrBefore_split (h : separator ∉ t) (rest limit : Str) :
    strchrBefore (t ++ separator :: (rest ++ limit)) separator limit =
      some (separator :: (rest ++ limit)) := by
  have hlt : limit.length < (separator :: (rest ++ limit)).length := by
    rw [List.length_cons, List.length_append]
    omega
  rw [strchrBefore, strchr_append h, strchr, if_pos rfl, Option.filter_some,
    if_pos (decide_eq_true hlt)]

theorem strchrBefore_eq_none (h : strchrBefore (t ++ rest) separator rest = none) :
    separator ∉ t := by
  intro hmem
  obtain ⟨front, back, rfl, hfront⟩ := List.eq_append_cons_of_mem hmem
  rw [List.append_assoc, List.cons_append, strchrBefore_split hfront] at h
  cases h

theorem strchrBefore_eq_some {p : Str} (h : strchrBefore (t ++ rest) separator rest = some p) :
    ∃ front back, t = front ++ separator :: back ∧ separator ∉ front ∧
      p = separator :: (back ++ rest) := by
  by_cases hmem : separator ∈ t
  · obtain ⟨front, back, rfl, hfront⟩ := List.eq_append_cons_of_mem hmem
    rw [List.append_assoc, List.cons_append, strchrBefore_split hfront] at h
    cases h
    exact ⟨front, back, rfl, hfront, rfl⟩
  · rw [strchrBefore_notMem hmem] at h
    cases h

end Tokens

theorem parseHeader_appendLine {header : Char} {t : Str} (hheader : header ≠ '=') (ht : IsText t)
    (content : Str → Str → Option SdpMessage) (rest : Str) :
    parseHeader header (appendLine header t ++ rest) content =
      match content (t ++ (crlfStr ++ rest)) (crlfStr ++ rest) with
      | none => .error
      | some sdp => .wf sdp rest := by
  have hequal : strchr (appendLine header t ++ rest) '=' = some ('=' :: (t ++ (crlfStr ++ rest))) := by
    rw [appendLine, List.cons_append, strchr, if_neg hheader, List.cons_append, strchr, if_pos rfl,
      List.append_assoc]
  have hbefore : (appendLine header t ++ rest).take (pointerDiff ('=' :: (t ++ (crlfStr ++ rest)))
      (appendLine header t ++ rest)) = [header] := by
    simp [appendLine, pointerDiff]
  have hin : ∀ c ∈ t, (!isLineEnd c) = true := by
    intro c hc
    rw [ht.2 c hc]
    rfl
  have hcrlf : (t ++ (crlfStr ++ rest)).dropWhile (fun c => !isLineEnd c) = crlfStr ++ rest :=
    (takeWhile_dropWhile_append hin (by simp [crlfStr, isLineEnd])).2
  have hlen : (crlfStr ++ rest).length ≠ (t ++ (crlfStr ++ rest)).length := by
    have hpos := List.length_pos_iff.2 ht.1
    have hlength : (t ++ (crlfStr ++ rest)).length = t.length + (crlfStr ++ rest).length :=
      List.length_append
    omega
  rw [parseHeader, hequal]
  dsimp only
  rw [hbefore, if_neg (by simp), List.tail_cons, hcrlf, if_neg (by simp [crlfStr]), if_neg hlen]
  rfl

theorem parseHeader_discard {header letter : Char} (hne : letter ≠ header) (hletter : letter ≠ '=')
    (rest : Str) (content : Str → Str → Option SdpMessage) :
    parseHeader header (letter :: '=' :: rest) content = .discard := by
  have hbefore : (letter :: '=' :: rest).take (pointerDiff ('=' :: rest) (letter :: '=' :: rest)) =
      [letter] := by
    simp [pointerDiff]
  rw [parseHeader, strchr, if_neg hletter, strchr, if_pos rfl]
  dsimp only
  rw [hbefore, if_pos (by simpa using hne)]

theorem nextLine_length_lt {crlf : Str} (h : crlf ≠ []) : (nextLine crlf).length < crlf.length := by
  unfold nextLine
  split
  · rw [List.length_cons, List.length_cons]
    omega
  · simp
  · exact absurd rfl h

theorem parseHeader_eq_wf {header : Char} {buf next : Str} {sdp : SdpMessage}
    {content : Str → Str → Option SdpMessage} (h : parseHeader header buf content = .wf sdp next) :
    ∃ line crlf, (∀ c ∈ line, isLineEnd c = false) ∧ line ≠ [] ∧ IsLineEnd crlf ∧
      content (line ++ crlf) crlf = some sdp ∧ next.length < buf.length := by
  rw [parseHeader] at h
  split at h
  · cases h
  · next equal hequal =>
      have hlength := strchr_length_le hequal
      dsimp only at h
      split_ifs at h with hheader hempty hnone
      generalize hline : equal.tail.takeWhile (fun c => !isLineEnd c) = line
      generalize hcrlf : equal.tail.dropWhile (fun c => !isLineEnd c) = crlf at h hempty hnone
      have hsplit : equal.tail = line ++ crlf := by
        rw [← hline, ← hcrlf, List.takeWhile_append_dropWhile]
      rw [hsplit] at h hnone
      split at h
      · cases h
      · next hcontent =>
          cases h
          refine ⟨line, crlf, ?_, ?_, ?_, hcontent, ?_⟩
          · intro c hc
            rw [← hline] at hc
            have := List.mem_takeWhile_imp hc
            simpa using this
          · rintro rfl
            exact hnone rfl
          · cases hcases : crlf with
            | nil => exact absurd (by rw [hcases]; rfl) hempty
            | cons c after =>
                refine ⟨c, after, rfl, ?_⟩
                have hhead := List.head?_dropWhile_not (fun c => !isLineEnd c) equal.tail
                rw [hcrlf, hcases] at hhead
                simpa using hhead
          · have hnext : (nextLine crlf).length < crlf.length :=
              nextLine_length_lt fun hnil => hempty (by rw [hnil]; rfl)
            have htail : equal.tail.length ≤ equal.length := by simp
            rw [hsplit, List.length_append] at htail
            omega

end Sdp
end Exosip
