import Exosip.Parser.MimeRoundTrip

/-! Bodies that are printed without delimiters do not come back: the scan uses up a line break
for each separator, and none is left for them. -/
namespace Exosip

open CString

/-! ### Counting line breaks -/

/-- The line breaks of a text, where a CR with its LF is one. -/
def lineBreaks : Str → Nat
  | [] => 0
  | c :: s => (if c = '\n' ∨ (c = '\r' ∧ s.head? ≠ some '\n') then 1 else 0) + lineBreaks s

theorem lineBreaks_lf (s : Str) : lineBreaks ('\n' :: s) = lineBreaks s + 1 := by
  rw [lineBreaks, if_pos (Or.inl rfl), Nat.add_comm]

theorem lineBreaks_crlf (s : Str) : lineBreaks (crlf ++ s) = lineBreaks s + 1 := by
  rw [← lineBreaks_lf]
  simp [crlf, lineBreaks]

theorem lineBreaks_append_le (u v : Str) : lineBreaks (u ++ v) ≤ lineBreaks u + lineBreaks v := by
  induction u with
  | nil => simp [lineBreaks]
  | cons c u ih =>
      rw [List.cons_append, lineBreaks, lineBreaks]
      cases u with
      | nil =>
          rw [List.nil_append]
          split
          · next hc =>
              have hc' : c = '\n' ∨ (c = '\r' ∧ ([] : Str).head? ≠ some '\n') := by
                apply hc.imp_right
                intro hcr
                exact ⟨hcr.1, by simp⟩
              rw [if_pos hc']
              simp [lineBreaks]
          · omega
      | cons d u =>
          have hhead : (d :: u ++ v).head? = (d :: u).head? := rfl
          rw [hhead]
          omega

theorem lineBreaks_suffix {s t : Str} (h : s <:+ t) : lineBreaks s ≤ lineBreaks t := by
  obtain ⟨u, rfl⟩ := h
  induction u with
  | nil => exact Nat.le_refl _
  | cons c u ih =>
      rw [List.cons_append, lineBreaks]
      omega

theorem lineBreaks_append {u v : Str} (h : u.getLast? ≠ some '\r' ∨ v.head? ≠ some '\n') :
    lineBreaks (u ++ v) = lineBreaks u + lineBreaks v := by
  induction u with
  | nil => simp [lineBreaks]
  | cons c u ih =>
      rw [List.cons_append, lineBreaks, lineBreaks]
      cases u with
      | nil =>
          have hflag : (c = '\n' ∨ (c = '\r' ∧ v.head? ≠ some '\n')) ↔
              (c = '\n' ∨ (c = '\r' ∧ ([] : Str).head? ≠ some '\n')) := by
            simp only [List.getLast?_singleton, ne_eq, Option.some.injEq] at h
            simp only [List.head?_nil, ne_eq, reduceCtorEq, not_false_eq_true, and_true]
            constructor
            · intro hc
              exact hc.imp_right And.left
            · intro hc
              apply hc.imp_right
              intro hcr
              exact ⟨hcr, h.resolve_left (fun hne => hne hcr)⟩
          rw [List.nil_append, if_congr hflag rfl rfl]
          simp [lineBreaks]
      | cons d u =>
          have hhead : (d :: u ++ v).head? = (d :: u).head? := rfl
          rw [hhead, ih h, Nat.add_assoc]

theorem lineBreaks_plain {s : Str} (h : Plain s) : lineBreaks s = 0 := by
  induction s with
  | nil => rfl
  | cons c s ih =>
      have hc := h c List.mem_cons_self
      have hs : Plain s := fun d hd => h d (List.mem_cons_of_mem c hd)
      rw [lineBreaks, ih hs]
      simp [hc.1, hc.2.1]

/-! ### A part -/

namespace Body

/-- The line breaks of a part as it is printed: one for each header, one for the empty line
and those of the payload. -/
def breaks (body : Body) : Nat := body.partHeaders.length + 1 + lineBreaks body.body

theorem length_partHeaders (body : Body) :
    body.partHeaders.length = body.contentType.toList.length + body.headers.length := by
  rw [partHeaders, List.length_append, List.length_map]
  cases body.contentType with
  | none => rfl
  | some contentType => rfl

theorem lineBreaks_partText {headers : List (Str × Str)} (h : ∀ header ∈ headers, FieldText header)
    (payload : Str) :
    lineBreaks (partText headers payload) ≤ headers.length + 1 + lineBreaks payload := by
  induction headers with
  | nil =>
      have hnil : partText [] payload = crlf ++ payload := rfl
      rw [hnil, lineBreaks_crlf, List.length_nil]
      omega
  | cons header headers ih =>
      rw [List.forall_mem_cons] at h
      have hline := lineBreaks_append_le (printed header) (crlf ++ partText headers payload)
      have hrest := ih h.2
      rw [lineBreaks_plain h.1.plain, lineBreaks_crlf] at hline
      rw [partText_cons, List.append_assoc, List.length_cons]
      omega

theorem storeHeader_partHeaders {body body' : Body} {hname hvalue : Str}
    (h : storeHeader body hname hvalue = .ok body') :
    body'.partHeaders.length ≤ body.partHeaders.length + 1 ∧ body'.body = body.body := by
  rw [length_partHeaders, length_partHeaders]
  unfold storeHeader at h
  split at h
  · rw [setContenttype, exists_ok_bind] at h
    obtain ⟨contentType, -, h⟩ := h
    cases h
    refine ⟨?_, rfl⟩
    have hheaders : ({ body with contentType := some contentType } : Body).headers = body.headers := rfl
    rw [hheaders, Option.toList_some, List.length_singleton]
    omega
  · cases h
    refine ⟨?_, rfl⟩
    rw [setHeader, List.length_append, List.length_singleton]
    exact Nat.le_refl _

theorem lineBreaks_osipFindNextCrlf {s : Str} {next : Nat} (h : osipFindNextCrlf s = .ok next) :
    lineBreaks (s.drop next) + 1 ≤ lineBreaks s := by
  unfold osipFindNextCrlf at h
  split at h
  · cases h
  · next soh hsoh =>
      obtain ⟨hlt, hbreak, -⟩ := List.findIdx?_eq_some_iff_getElem.1 hsoh
      have hle : (cString s).length ≤ s.length := (List.takeWhile_sublist _).length_le
      have hget : (cString s)[soh] = s[soh] := (List.takeWhile_prefix _).getElem hlt
      rw [hget, Bool.or_eq_true, beq_iff_eq, beq_iff_eq] at hbreak
      have hdrop : s.drop soh = s[soh] :: s.drop (soh + 1) := List.drop_eq_getElem_cons (by omega)
      have hsuffix := lineBreaks_suffix (List.drop_suffix soh s)
      rw [hdrop] at hsuffix
      dsimp only at h
      split at h
      · next hcrlf =>
          have hsecond := lineBreaks_suffix (List.drop_suffix (soh + 1) s)
          obtain ⟨hlt', hlf⟩ := List.getElem?_eq_some_iff.1 hcrlf.2
          rw [List.drop_eq_getElem_cons hlt', hlf, lineBreaks_lf] at hsecond
          split at h
          · cases h
          · cases h
            exact hsecond
      · next hcrlf =>
          have hflag : s[soh] = '\n' ∨ (s[soh] = '\r' ∧ (s.drop (soh + 1)).head? ≠ some '\n') := by
            cases hbreak with
            | inr hlf => exact Or.inl hlf
            | inl hcr =>
                refine Or.inr ⟨hcr, ?_⟩
                intro hlf
                rw [List.head?_drop] at hlf
                exact hcrlf ⟨by rw [List.getElem?_eq_getElem (by omega), hcr], hlf⟩
          rw [lineBreaks, if_pos hflag] at hsuffix
          split at h
          · cases h
          · cases h
            omega

theorem lineBreaks_parseHeader {fuel : Nat} {body body' : Body} {s rest : Str}
    (h : parseHeader fuel body s = .ok (body', rest)) :
    body'.partHeaders.length + lineBreaks rest ≤ body.partHeaders.length + lineBreaks s ∧
      body'.body = body.body := by
  induction fuel generalizing body s with
  | zero => cases h
  | succ fuel ih =>
      rw [parseHeader, exists_ok_bind] at h
      obtain ⟨next, hnext, h⟩ := h
      rw [exists_ok_bind] at h
      obtain ⟨line, -, h⟩ := h
      rw [exists_ok_bind] at h
      obtain ⟨stored, hstored, h⟩ := h
      obtain ⟨hlen, hbody⟩ := storeHeader_partHeaders hstored
      have hline : lineBreaks (s.drop next) + 1 ≤ lineBreaks s := by
        unfold endOfLine at hnext
        split at hnext
        · cases hnext
        · next heq =>
            cases hnext
            exact lineBreaks_osipFindNextCrlf heq
      dsimp only at h
      split at h
      · cases h
        exact ⟨by omega, hbody⟩
      · obtain ⟨hrest, hsame⟩ := ih h
        exact ⟨by omega, hsame.trans hbody⟩

theorem lineBreaks_skipEmptyLine {s payload : Str} (h : skipEmptyLine s = .ok payload) :
    lineBreaks s = lineBreaks payload + 1 := by
  unfold skipEmptyLine at h
  split at h
  · cases h
    exact lineBreaks_crlf payload
  · next c rest hnot =>
      split at h
      · next hbreak =>
          cases h
          have hflag : c = '\n' ∨ (c = '\r' ∧ payload.head? ≠ some '\n') := by
            cases hbreak with
            | inr hlf => exact Or.inl hlf
            | inl hcr =>
                refine Or.inr ⟨hcr, ?_⟩
                intro hlf
                obtain ⟨tail, htail⟩ := List.head?_eq_some_iff.1 hlf
                exact hnot tail hcr htail
          rw [lineBreaks, if_pos hflag, Nat.add_comm]
      · cases h
  · cases h

theorem breaks_parseMime {s : Str} {body : Body} (h : parseMime s = .ok body) :
    body.breaks ≤ lineBreaks s := by
  rw [parseMime, exists_ok_bind] at h
  obtain ⟨⟨body', rest⟩, hheader, h⟩ := h
  rw [exists_ok_bind] at h
  obtain ⟨payload, hskip, h⟩ := h
  obtain ⟨hheaders, -⟩ := lineBreaks_parseHeader hheader
  rw [lineBreaks_skipEmptyLine hskip] at hheaders
  split at h
  · cases h
  · cases h
    have hinit : init.partHeaders.length = 0 := rfl
    rw [hinit] at hheaders
    show body'.partHeaders.length + 1 + lineBreaks payload ≤ lineBreaks s
    omega

end Body

/-! ### The scan -/

namespace Multipart

variable {sep buf : Str}

theorem lineBreaks_separator (hsep : Separator sep) (s : Str) :
    lineBreaks s + 1 ≤ lineBreaks (sep ++ s) := by
  obtain ⟨tail, htail⟩ := List.head?_eq_some_iff.1 hsep.head
  have hsuffix := lineBreaks_suffix (List.suffix_append tail s)
  rw [htail, List.cons_append, lineBreaks_lf]
  omega

theorem lineBreaks_partResult (hsep : Separator sep) {s e : Nat} (hs : sep <+: buf.drop s)
    (he : sep <+: buf.drop e) (hle : s + sep.length ≤ e) (hlen : 0 ≤ bodyLen sep buf s e) :
    lineBreaks ((buf.drop (startOfBody sep buf s)).take (bodyLen sep buf s e).toNat) +
      lineBreaks (buf.drop e) + 1 ≤ lineBreaks (buf.drop s) := by
  obtain ⟨behind, hbehind⟩ := hs
  have hfirst := lineBreaks_separator hsep behind
  have hdrop : behind = buf.drop (s + sep.length) := by
    rw [← List.drop_drop, ← hbehind, List.drop_left]
  obtain ⟨d, rfl⟩ := Nat.exists_eq_add_of_le hle
  have hend : behind.drop d = buf.drop (s + sep.length + d) := by rw [hdrop, List.drop_drop]
  have hget : behind[d - 1]? = buf[s + sep.length + (d - 1)]? := by rw [hdrop, List.getElem?_drop]
  have hlf := hsep.head_of_prefix he
  obtain ⟨k, hstart, hk⟩ : ∃ k, startOfBody sep buf s = s + sep.length + k ∧ 1 ≤ k := by
    unfold startOfBody
    dsimp only
    split
    · exact ⟨2, rfl, by decide⟩
    · exact ⟨1, rfl, by decide⟩
  have hpart (n : Nat) : lineBreaks ((buf.drop (startOfBody sep buf s)).take (n - k)) ≤
      lineBreaks (behind.take n) := by
    apply lineBreaks_suffix
    rw [hstart, ← List.drop_drop, ← hdrop, ← List.drop_take]
    exact List.drop_suffix k _
  rw [bodyLen, hstart] at hlen
  have hcut : s + sep.length + d - 1 = s + sep.length + (d - 1) := by omega
  rw [← hbehind]
  by_cases hcr : buf[s + sep.length + d - 1]? = some '\r'
  · -- the CR belongs to the line break of the next separator
    have hcount : (bodyLen sep buf s (s + sep.length + d)).toNat = d - 1 - k := by
      rw [bodyLen, hstart, if_pos hcr]
      omega
    rw [if_pos hcr] at hlen
    rw [hcut, ← hget] at hcr
    obtain ⟨hlt, hget⟩ := List.getElem?_eq_some_iff.1 hcr
    have hsucc : d - 1 + 1 = d := by omega
    have hsplit : behind = behind.take (d - 1) ++ '\r' :: buf.drop (s + sep.length + d) := by
      rw [← hend]
      calc
        behind = behind.take (d - 1) ++ behind.drop (d - 1) := (List.take_append_drop _ _).symm
        _ = _ := by rw [List.drop_eq_getElem_cons hlt, hget, hsucc]
    have hbreak : lineBreaks ('\r' :: buf.drop (s + sep.length + d)) =
        lineBreaks (buf.drop (s + sep.length + d)) := by
      rw [lineBreaks, hlf, if_neg (by simp), Nat.zero_add]
    have hsum := lineBreaks_append (u := behind.take (d - 1))
      (v := '\r' :: buf.drop (s + sep.length + d)) (Or.inr (by simp))
    rw [← hsplit, hbreak] at hsum
    have hle := hpart (d - 1)
    rw [hcount]
    omega
  · have hcount : (bodyLen sep buf s (s + sep.length + d)).toNat = d - k := by
      rw [bodyLen, hstart, if_neg hcr]
      omega
    rw [if_neg hcr] at hlen
    rw [hcut, ← hget] at hcr
    have hlast : (behind.take d).getLast? ≠ some '\r' := by
      rw [List.getLast?_take, if_neg (by omega)]
      intro hlast
      cases hnth : behind[d - 1]? with
      | none =>
          -- the next separator lies in the buffer
          rw [List.getElem?_eq_none_iff] at hnth
          have hnil : behind.drop d = [] := List.drop_eq_nil_of_le (by omega)
          rw [← hend, hnil] at hlf
          cases hlf
      | some c =>
          rw [hnth] at hlast hcr
          exact hcr hlast
    have hsum := lineBreaks_append (v := behind.drop d) (Or.inl hlast)
    rw [List.take_append_drop, hend] at hsum
    have hle := hpart d
    rw [hcount]
    omega

theorem lineBreaks_parts (hsep : Separator sep) {fuel start : Nat} {bodies : List Body}
    (h : (parts sep buf fuel start).2 = .ok bodies) :
    (bodies.map Body.breaks).sum + bodies.length + 1 ≤ lineBreaks (buf.drop start) := by
  induction fuel generalizing start bodies with
  | zero => cases h
  | succ fuel ih =>
      cases hfirst : findNextOccurence sep buf rounds start with
      | none =>
          rw [parts, hfirst] at h
          cases h
      | some s =>
          rw [parts_found hfirst] at h
          obtain ⟨hstart, hs⟩ := findNextOccurence_spec hfirst
          have hdrop : lineBreaks (buf.drop s) ≤ lineBreaks (buf.drop start) := by
            apply lineBreaks_suffix
            obtain ⟨k, rfl⟩ := Nat.exists_eq_add_of_le hstart
            rw [← List.drop_drop]
            exact List.drop_suffix k _
          cases hsecond : findNextOccurence sep buf rounds (s + sep.length) with
          | none =>
              rw [hsecond] at h
              cases h
          | some e =>
              rw [hsecond] at h
              obtain ⟨hle, he⟩ := findNextOccurence_spec hsecond
              dsimp only at h
              unfold partResult at h
              split at h
              · cases h
              · next hlen =>
                  have hpart := lineBreaks_partResult hsep hs he hle (not_lt.1 hlen)
                  split at h
                  · cases h
                  · next body hbody =>
                      have hbreaks := Body.breaks_parseMime hbody
                      split at h
                      · cases h
                        have hlast : 1 ≤ lineBreaks (buf.drop e) := by
                          obtain ⟨rest, hrest⟩ := he
                          have hone := lineBreaks_separator hsep rest
                          rw [hrest] at hone
                          omega
                        simp only [List.map_cons, List.map_nil, List.sum_cons, List.sum_nil,
                          List.length_cons, List.length_nil]
                        omega
                      · cases hrest : (parts sep buf fuel e).2 with
                        | error failure =>
                            rw [hrest] at h
                            cases h
                        | ok rest =>
                            rw [hrest] at h
                            cases h
                            have hmore := ih hrest
                            rw [List.map_cons, List.sum_cons, List.length_cons]
                            omega

theorem lineBreaks_bodiesToStr {bodies : List Body} (h : ∀ body ∈ bodies, body.WellFormed) {text : Str}
    (htext : SipFields.bodiesToStr none bodies = .ok text) :
    lineBreaks text ≤ (bodies.map Body.breaks).sum := by
  induction bodies generalizing text with
  | nil =>
      cases htext
      exact Nat.zero_le _
  | cons body bodies ih =>
      rw [List.forall_mem_cons] at h
      rw [SipFields.bodiesToStr, Body.toStr_of_wellFormed h.1, ok_bind, exists_ok_bind] at htext
      obtain ⟨rest, hrest, htext⟩ := htext
      cases htext
      have hmore := ih h.2 hrest
      have hbody := Body.lineBreaks_partText h.1.fields body.body
      have happend := lineBreaks_append_le (Body.partText body.partHeaders body.body) rest
      have hnone : SipFields.delimiter none = [] := rfl
      rw [hnone, List.nil_append, List.map_cons, List.sum_cons, Body.breaks]
      omega

theorem msgOsipBodyParse_undelimited {gvalue : Str} (hplain : Plain (unquoted gvalue))
    {bodies : List Body} (hne : bodies ≠ []) (h : ∀ body ∈ bodies, body.WellFormed) {text : Str}
    (htext : SipFields.bodiesToStr none bodies = .ok text) :
    (msgOsipBodyParse gvalue (crlf ++ text)).2 ≠ .ok bodies := by
  intro hparse
  have hscan := lineBreaks_parts (separator_sepBoundary hplain) hparse
  have hprinted := lineBreaks_bodiesToStr h htext
  have hpos := List.length_pos_iff.2 hne
  rw [List.drop_zero, lineBreaks_crlf] at hscan
  omega

end Multipart
end Exosip
