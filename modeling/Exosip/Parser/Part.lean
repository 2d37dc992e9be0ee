import Exosip.Parser.ContentLength

/-! A MIME part is printed and read back: its header lines, the empty line and the payload,
and what is read when the printed part is cut short. -/
namespace Exosip

open CString

def Plain (s : Str) : Prop := ∀ c ∈ s, c ≠ '\r' ∧ c ≠ '\n' ∧ c ≠ '\x00'

instance (s : Str) : Decidable (Plain s) :=
  decidable_of_iff (s.all fun c => c != '\r' && c != '\n' && c != '\x00') (by simp [Plain, and_assoc])

theorem plain_append {s t : Str} (hs : Plain s) (ht : Plain t) : Plain (s ++ t) := by
  intro c hc
  rw [List.mem_append] at hc
  cases hc with
  | inl hc => exact hs c hc
  | inr hc => exact ht c hc

theorem Plain.take {s : Str} (h : Plain s) (n : Nat) : Plain (s.take n) :=
  fun c hc => h c (List.mem_of_mem_take hc)

/-! ### The next line -/

theorem findIdx?_cString {p : Char → Bool} {s rest : Str} {c : Char}
    (hs : ∀ d ∈ s, p d = false ∧ d ≠ '\x00') (hc : p c = true) (hnul : c ≠ '\x00') :
    (cString (s ++ c :: rest)).findIdx? p = some s.length := by
  induction s with
  | nil =>
      rw [List.nil_append, cString, List.takeWhile_cons, if_pos (bne_iff_ne.2 hnul),
        List.findIdx?_cons, if_pos hc]
      rfl
  | cons d s ih =>
      rw [List.forall_mem_cons] at hs
      rw [cString] at ih ⊢
      rw [List.cons_append, List.takeWhile_cons, if_pos (bne_iff_ne.2 hs.1.2), List.findIdx?_cons,
        hs.1.1, if_neg Bool.false_ne_true, ih hs.2]
      rfl

theorem findIdx?_cString_none {p : Char → Bool} {s : Str} (hs : ∀ d ∈ s, p d = false) :
    (cString s).findIdx? p = none := by
  rw [List.findIdx?_eq_none_iff]
  intro d hd
  exact hs d ((List.takeWhile_sublist _).subset hd)

variable {line rest : Str}

theorem osipFindNextCrlf_none (h : Plain line) : osipFindNextCrlf line = .error osipSyntaxerror := by
  rw [osipFindNextCrlf, findIdx?_cString_none]
  intro c hc
  simp [(h c hc).1, (h c hc).2.1]

theorem findIdx?_lineBreak (h : Plain line) :
    (cString (line ++ '\r' :: rest)).findIdx? (fun c => c == '\r' || c == '\n') =
      some line.length := by
  apply findIdx?_cString
  · intro c hc
    exact ⟨by simp [(h c hc).1, (h c hc).2.1], (h c hc).2.2⟩
  · rfl
  · decide

theorem osipFindNextCrlf_append (h : Plain line) : osipFindNextCrlf (line ++ '\r' :: rest) =
    let n := if rest[0]? = some '\n' then 1 else 0
    if rest[n]? = some ' ' ∨ rest[n]? = some '\t' then .error (-2) else .ok (line.length + 1 + n) := by
  have hget (i : Nat) : (line ++ '\r' :: rest)[line.length + i]? = ('\r' :: rest)[i]? := by
    rw [List.getElem?_append_right (Nat.le_add_right _ _), Nat.add_sub_cancel_left]
  have hcr := hget 0
  have hlf := hget 1
  rw [Nat.add_zero, List.getElem?_cons_zero] at hcr
  rw [List.getElem?_cons_succ] at hlf
  rw [osipFindNextCrlf, findIdx?_lineBreak h]
  dsimp only
  simp only [hcr, hlf, true_and]
  by_cases hn : rest[0]? = some '\n'
  · have hnext := hget 2
    rw [List.getElem?_cons_succ] at hnext
    rw [if_pos hn, if_pos hn, hnext]
  · rw [if_neg hn, if_neg hn, hlf]

theorem osipFindNextCrlf_cr (h : Plain line) :
    osipFindNextCrlf (line ++ ['\r']) = .ok (line.length + 1) := by
  rw [osipFindNextCrlf_append h]
  rfl

theorem osipFindNextCrlf_line (h : Plain line)
    (hrest : rest.head? ≠ some ' ' ∧ rest.head? ≠ some '\t') :
    osipFindNextCrlf (line ++ crlf ++ rest) = .ok (line.length + 2) := by
  have hbuf : line ++ crlf ++ rest = line ++ '\r' :: '\n' :: rest := by simp [crlf]
  have hnext : ('\n' :: rest)[1]? = rest.head? := by
    rw [List.getElem?_cons_succ, List.head?_eq_getElem?]
  rw [hbuf, osipFindNextCrlf_append h]
  dsimp only
  rw [List.getElem?_cons_zero, if_pos rfl, hnext, if_neg (not_or.2 hrest)]

/-! ### Header lines -/

def printed (header : Str × Str) : Str := header.1 ++ ": ".toList ++ header.2

/-- A name that is a token and a value that is plain. -/
structure FieldText (header : Str × Str) : Prop where
  name_ne : header.1 ≠ []
  token : ∀ c ∈ header.1, isTokenChar c = true
  value : Plain header.2

theorem isTokenChar_plain {c : Char} (h : isTokenChar c = true) :
    (c ≠ '\r' ∧ c ≠ '\n' ∧ c ≠ '\x00') ∧ c ≠ ':' ∧ c ≠ ' ' ∧ c ≠ '\t' := by
  refine ⟨⟨?_, ?_, ?_⟩, ?_, ?_, ?_⟩
  all_goals
    intro hc
    rw [hc] at h
    exact absurd h (by decide)

theorem isBlank_of_isTokenChar {c : Char} (h : isTokenChar c = true) : isBlank c = false := by
  obtain ⟨⟨hcr, hlf, -⟩, -, hsp, hht⟩ := isTokenChar_plain h
  simp [isBlank, hcr, hlf, hsp, hht]

theorem osipClrspace_space (s : Str) : osipClrspace (' ' :: s) = osipClrspace s := rfl

namespace FieldText

variable {header : Str × Str}

theorem plain (h : FieldText header) : Plain (printed header) := by
  have hname : Plain header.1 := fun c hc => (isTokenChar_plain (h.token c hc)).1
  have hcolon : Plain ": ".toList := by decide
  exact plain_append (plain_append hname hcolon) h.value

theorem head?_printed (h : FieldText header) (rest : Str) :
    ∃ c, (printed header ++ rest).head? = some c ∧ isTokenChar c = true := by
  obtain ⟨c, name, hname⟩ := List.exists_cons_of_ne_nil h.name_ne
  refine ⟨c, ?_, h.token c ?_⟩
  · simp [printed, hname]
  · rw [hname]
    exact List.mem_cons_self

theorem headerLine_printed (h : FieldText header) (rest : Str) :
    Body.headerLine (printed header ++ rest) ((printed header).length + 2) =
      .ok (header.1, osipClrspace header.2) := by
  have hline : printed header ++ rest = header.1 ++ ':' :: (' ' :: header.2 ++ rest) := by
    simp [printed]
  have hcolon : (cString (printed header ++ rest)).findIdx? (· == ':') = some header.1.length := by
    rw [hline]
    apply findIdx?_cString
    · intro c hc
      obtain ⟨⟨-, -, hnul⟩, hne, -⟩ := isTokenChar_plain (h.token c hc)
      exact ⟨by simp [hne], hnul⟩
    · rfl
    · decide
  have hpos := List.length_pos_iff.2 h.name_ne
  have hlen : (printed header).length = header.1.length + 2 + header.2.length := by
    simp only [printed, List.length_append]
    rfl
  have hname : osipClrncpy (printed header ++ rest) header.1.length = header.1 := by
    rw [osipClrncpy, hline, List.take_left]
    exact osipClrspace_of_no_blank fun c hc => isBlank_of_isTokenChar (h.token c hc)
  have hvalue : osipClrncpy ((printed header ++ rest).drop (header.1.length + 1))
      ((printed header).length + 2 - 2 - header.1.length - 1) = osipClrspace header.2 := by
    have hdrop : (printed header ++ rest).drop (header.1.length + 1) = ' ' :: header.2 ++ rest := by
      rw [hline, List.drop_append]
      simp
    have hsub : (printed header).length + 2 - 2 - header.1.length - 1 =
        (' ' :: header.2).length := by
      rw [hlen, List.length_cons]
      omega
    rw [hdrop, hsub, osipClrncpy, List.take_left, osipClrspace_space]
  rw [Body.headerLine, hcolon]
  dsimp only
  rw [if_neg (by omega), if_neg (by omega), hname, hvalue]

end FieldText

/-! ### The headers of a part -/

theorem ok_bind {ε α β : Type} (a : α) (f : α → Except ε β) : (Except.ok a >>= f) = f a := rfl

theorem length_le_unlines (lines : List Str) : lines.length ≤ (unlines lines).length := by
  have hcrlf : crlf.length = 2 := rfl
  induction lines with
  | nil => exact Nat.zero_le _
  | cons line lines ih =>
      rw [unlines_cons, List.length_cons, List.length_append, List.length_append]
      omega

namespace Body

def storeLines : List (Str × Str) → Body → Except Int Body
  | [], body => .ok body
  | header :: headers, body => do
      storeLines headers (← storeHeader body header.1 (osipClrspace header.2))

def partText (headers : List (Str × Str)) (payload : Str) : Str :=
  unlines (headers.map printed) ++ (crlf ++ payload)

variable {headers : List (Str × Str)} {payload : Str}

theorem partText_cons (header : Str × Str) :
    partText (header :: headers) payload =
      printed header ++ crlf ++ partText headers payload := by
  simp [partText]

/-- What follows a header line is no continuation of it, and an empty line only when it was
the last one. -/
theorem partText_next (payload : Str) (h : ∀ header ∈ headers, FieldText header) :
    ((partText headers payload).head? ≠ some ' ' ∧ (partText headers payload).head? ≠ some '\t') ∧
      (atLineBreak (partText headers payload) = headers.isEmpty) := by
  cases headers with
  | nil => exact ⟨⟨by simp [partText, crlf], by simp [partText, crlf]⟩, rfl⟩
  | cons header headers =>
      obtain ⟨c, hhead, hc⟩ := (h header List.mem_cons_self).head?_printed
        (crlf ++ partText headers payload)
      rw [← List.append_assoc, ← partText_cons] at hhead
      obtain ⟨⟨hcr, hlf, -⟩, -, hsp, hht⟩ := isTokenChar_plain hc
      rw [atLineBreak, hhead]
      simp [hcr, hlf, hsp, hht]

theorem parseHeader_partText (hne : headers ≠ []) (h : ∀ header ∈ headers, FieldText header)
    {fuel : Nat} (hfuel : headers.length ≤ fuel) (body : Body) :
    parseHeader fuel body (partText headers payload) =
      (storeLines headers body).map (·, crlf ++ payload) := by
  induction headers generalizing fuel body with
  | nil => exact absurd rfl hne
  | cons header headers ih =>
      obtain ⟨fuel, rfl⟩ := Nat.exists_eq_add_one_of_ne_zero (n := fuel) (by
        rw [List.length_cons] at hfuel
        omega)
      rw [List.forall_mem_cons] at h
      obtain ⟨hblank, hbreak⟩ := partText_next payload h.2
      have hcrlf := osipFindNextCrlf_line h.1.plain hblank
      have hrest : (partText (header :: headers) payload).drop ((printed header).length + 2) =
          partText headers payload := by
        rw [partText_cons, List.append_assoc, List.drop_append]
        simp [crlf]
      rw [← partText_cons] at hcrlf
      have hline := h.1.headerLine_printed (crlf ++ partText headers payload)
      rw [← List.append_assoc, ← partText_cons] at hline
      rw [parseHeader, endOfLine, hcrlf]
      simp only [ok_bind, hline, hrest, storeLines]
      cases storeHeader body header.1 (osipClrspace header.2) with
      | error i => rfl
      | ok body =>
          simp only [ok_bind, hbreak]
          cases hheaders : headers with
          | nil => rfl
          | cons next headers' =>
              rw [← hheaders, List.isEmpty_eq_false_iff.2 (by simp [hheaders]),
                if_neg Bool.false_ne_true]
              apply ih (by simp [hheaders]) h.2
              rw [List.length_cons] at hfuel
              omega

theorem length_le_partText (headers : List (Str × Str)) (payload : Str) :
    headers.length ≤ (partText headers payload).length := by
  have hlines := length_le_unlines (headers.map printed)
  rw [List.length_map] at hlines
  rw [partText, List.length_append]
  omega

theorem parseMime_partText (hne : headers ≠ []) (h : ∀ header ∈ headers, FieldText header)
    (hpayload : payload ≠ []) :
    parseMime (partText headers payload) =
      (storeLines headers init).map fun body => { body with body := payload } := by
  have hskip : skipEmptyLine (crlf ++ payload) = .ok payload := rfl
  have hfuel := Nat.le_succ_of_le (length_le_partText headers payload)
  rw [parseMime, parseHeader_partText hne h hfuel]
  cases storeLines headers init with
  | error i => rfl
  | ok body =>
      simp only [Except.map, ok_bind, hskip]
      rw [if_neg hpayload]

/-! ### A part that is cut short -/

theorem parseHeader_eq_ok {fuel : Nat} {body body' : Body} {s rest : Str}
    (h : parseHeader (fuel + 1) body s = .ok (body', rest)) :
    ∃ next stored, osipFindNextCrlf s = .ok next ∧
      ((atLineBreak (s.drop next) = true ∧ rest = s.drop next) ∨
        (atLineBreak (s.drop next) = false ∧
          parseHeader fuel stored (s.drop next) = .ok (body', rest))) := by
  rw [parseHeader, exists_ok_bind] at h
  obtain ⟨next, hnext, h⟩ := h
  rw [exists_ok_bind] at h
  obtain ⟨line, -, h⟩ := h
  rw [exists_ok_bind] at h
  obtain ⟨stored, -, h⟩ := h
  refine ⟨next, stored, ?_, ?_⟩
  · unfold endOfLine at hnext
    split at hnext
    · cases hnext
    · next heq =>
        cases hnext
        exact heq
  · dsimp only at h
    cases hbreak : atLineBreak (s.drop next) with
    | true =>
        rw [hbreak, if_pos rfl] at h
        cases h
        exact Or.inl ⟨rfl, rfl⟩
    | false =>
        rw [hbreak, if_neg Bool.false_ne_true] at h
        exact Or.inr ⟨rfl, h⟩

theorem parseHeader_nil {fuel : Nat} {body : Body} {result : Body × Str} :
    parseHeader fuel body [] ≠ .ok result := by
  cases fuel with
  | zero => intro h; cases h
  | succ fuel =>
      intro h
      obtain ⟨next, stored, hnext, -⟩ := parseHeader_eq_ok h
      cases hnext

/-- Of a printed part that is cut short the header lines are read only when the cut is
behind them. -/
theorem parseHeader_take (h : ∀ header ∈ headers, FieldText header) (hne : headers ≠ [])
    {n : Nat} (hn : n < (partText headers payload).length) {fuel : Nat} {body body' : Body}
    {rest : Str} (hparse : parseHeader fuel body ((partText headers payload).take n) =
      .ok (body', rest)) :
    ∃ m < payload.length + 2, rest = (crlf ++ payload).take m := by
  induction headers generalizing fuel body n with
  | nil => exact absurd rfl hne
  | cons header headers ih =>
      rw [List.forall_mem_cons] at h
      cases fuel with
      | zero => cases hparse
      | succ fuel =>
      obtain ⟨next, stored, hnext, hrest⟩ := parseHeader_eq_ok hparse
      rw [partText_cons, List.append_assoc] at hnext hrest hn
      have hnil : ∀ result, parseHeader fuel stored [] ≠ .ok result := fun _ => parseHeader_nil
      cases Nat.lt_or_ge (printed header).length n with
      | inr hle =>
          rw [List.take_append_of_le_length hle, osipFindNextCrlf_none (h.1.plain.take n)] at hnext
          cases hnext
      | inl hlt =>
          obtain ⟨m, rfl⟩ := Nat.exists_eq_add_of_lt hlt
          rw [Nat.add_assoc, List.take_length_add_append] at hnext hrest
          cases m with
          | zero =>
              -- the line break is cut in two
              have hcr : (crlf ++ partText headers payload).take (0 + 1) = ['\r'] := rfl
              rw [hcr] at hnext hrest
              rw [osipFindNextCrlf_cr h.1.plain, Except.ok.injEq] at hnext
              have hdrop : (printed header ++ ['\r']).drop next = [] := by
                rw [← hnext, List.drop_eq_nil_iff, List.length_append]
                rfl
              rw [hdrop] at hrest
              cases hrest with
              | inl hrest => cases hrest.1
              | inr hrest => exact absurd hrest.2 (hnil _)
          | succ m =>
              have hcut : (crlf ++ partText headers payload).take (m + 1 + 1) =
                  crlf ++ (partText headers payload).take m := rfl
              have hm : m < (partText headers payload).length := by
                simp only [List.length_append, crlf, List.length_cons, List.length_nil] at hn
                omega
              obtain ⟨hblank, hbreak⟩ := partText_next payload h.2
              rw [hcut, ← List.append_assoc] at hnext hrest
              cases m with
              | zero =>
                  have hline : osipFindNextCrlf (printed header ++ crlf ++ []) =
                      .ok ((printed header).length + 2) :=
                    osipFindNextCrlf_line h.1.plain (by decide)
                  rw [List.take_zero, hline, Except.ok.injEq] at hnext
                  have hdrop : (printed header ++ crlf ++ []).drop next = [] := by
                    rw [← hnext, List.drop_eq_nil_iff]
                    simp [crlf]
                  rw [List.take_zero, hdrop] at hrest
                  cases hrest with
                  | inl hrest => cases hrest.1
                  | inr hrest => exact absurd hrest.2 (hnil _)
              | succ m =>
                  have hhead : ((partText headers payload).take (m + 1)).head? =
                      (partText headers payload).head? := by
                    rw [List.head?_take, if_neg (Nat.succ_ne_zero m)]
                  rw [osipFindNextCrlf_line h.1.plain (by rw [hhead]; exact hblank),
                    Except.ok.injEq] at hnext
                  have hdrop : (printed header ++ crlf ++
                      (partText headers payload).take (m + 1)).drop next =
                        (partText headers payload).take (m + 1) := by
                    rw [← hnext]
                    exact List.drop_left' (by simp [crlf])
                  rw [hdrop, atLineBreak, hhead, ← atLineBreak, hbreak] at hrest
                  cases hheaders : headers with
                  | nil =>
                      rw [hheaders] at hrest hm
                      cases hrest with
                      | inr hrest => cases hrest.1
                      | inl hrest =>
                          refine ⟨m + 1, ?_, hrest.2⟩
                          simpa [partText, crlf] using hm
                  | cons next' headers' =>
                      have hne : headers ≠ [] := by simp [hheaders]
                      rw [List.isEmpty_eq_false_iff.2 hne] at hrest
                      cases hrest with
                      | inl hrest => cases hrest.1
                      | inr hrest => exact ih h.2 hne hm hrest.2

theorem parseMime_take (h : ∀ header ∈ headers, FieldText header) (hne : headers ≠ []) {n : Nat}
    (hn : n < (partText headers payload).length) {body : Body}
    (hparse : parseMime ((partText headers payload).take n) = .ok body) :
    body.body.length < payload.length := by
  rw [parseMime, exists_ok_bind] at hparse
  obtain ⟨⟨body', rest⟩, hheader, hparse⟩ := hparse
  rw [exists_ok_bind] at hparse
  obtain ⟨rest', hskip, hparse⟩ := hparse
  obtain ⟨m, hm, rfl⟩ := parseHeader_take h hne hn hheader
  split at hparse
  · cases hparse
  · next hrest =>
      cases hparse
      cases m with
      | zero => cases hskip
      | succ m =>
          cases m with
          | zero =>
              cases hskip
              exact absurd rfl hrest
          | succ m =>
              have hcut : (crlf ++ payload).take (m + 1 + 1) = crlf ++ payload.take m := rfl
              rw [hcut] at hskip
              cases hskip
              show (payload.take m).length < payload.length
              rw [List.length_take]
              omega

end Body

end Exosip
