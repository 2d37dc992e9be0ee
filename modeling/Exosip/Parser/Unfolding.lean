import Exosip.Parser.Parse

/-! What `osip_util_replace_all_lws` leaves of the folded lines of a header section, and what
`__osip_find_next_crlf` meets in it. -/
namespace Exosip

open CString

namespace Lws

open SipMessage (isLineBreak)

/-! ### Folded lines -/

def breakBlank : Str → Bool
  | c :: d :: _ => isLineBreak c && isSpOrHt d
  | _ => false

/-- The header section ends at `tmp`: with the string, or with CRLFCRLF, CRCR or LFLF. -/
def sectionEnd : Str → Bool
  | [] => true
  | c :: tmp => c == '\x00' || headerEnd (c :: tmp)

def foldedLine : Str → Bool
  | [] => false
  | c :: tmp => !sectionEnd (c :: tmp) && (breakBlank (c :: tmp) || foldedLine tmp)

def InHeaders (s : Str) (i : Nat) : Prop := ∀ j ≤ i, sectionEnd (s.drop j) = false

/-! ### Which are left -/

/-- A line break that is not replaced itself, while a blank follows it or another line break
that will be replaced by one. -/
def keptBreak : Str → Bool
  | [] => false
  | c :: tmp => isLineBreak c && (tmp.head?.any isSpOrHt || folded tmp)

/-- The second line break of the terminator at `tmp` looks like that of a folded line. -/
def terminatorFolded : Str → Bool
  | '\r' :: '\n' :: tmp => !nearNul tmp && folded tmp
  | _ :: tmp => !nearNul tmp && folded tmp
  | [] => false

/-- A folded line is left: `blanks` says that a fold and blanks stand before the text. It is
left among the last three characters, at the line break behind the blanks of another fold, at
an LF before CR, and where the blanks of a fold go up to a terminator before a blank. -/
def leavesFold : Bool → Str → Bool
  | _, [] => false
  | true, c :: tmp =>
      if isSpOrHt c then leavesFold true tmp
      else if c = '\x00' then false
      else if headerEnd (c :: tmp) then terminatorFolded (c :: tmp)
      else keptBreak (c :: tmp) || leavesFold false tmp
  | false, [_] => false
  | false, c :: d :: tmp =>
      if nearNul (c :: d :: tmp) then foldedLine (c :: d :: tmp)
      else if headerEnd (c :: d :: tmp) then false
      else if folded (c :: d :: tmp) then leavesFold true tmp
      else keptBreak (c :: d :: tmp) || leavesFold false (d :: tmp)

theorem foldedLine_eq_false_iff (s : Str) :
    foldedLine s = false ↔ ∀ i, InHeaders s i → breakBlank (s.drop i) = false := by
  induction s with
  | nil => simp [foldedLine, breakBlank]
  | cons c tmp ih =>
      rw [foldedLine]
      cases hend : sectionEnd (c :: tmp) with
      | true =>
          simp only [Bool.not_true, Bool.false_and, true_iff]
          intro i hi
          have hstart := hi 0 (Nat.zero_le i)
          rw [List.drop_zero, hend] at hstart
          cases hstart
      | false =>
          simp only [Bool.not_false, Bool.true_and, Bool.or_eq_false_iff, ih]
          constructor
          · intro h i hi
            cases i with
            | zero => exact h.1
            | succ i => exact h.2 i fun j hj => hi (j + 1) (Nat.succ_le_succ hj)
          · intro h
            refine ⟨h 0 ?_, fun i hi => h (i + 1) ?_⟩
            · intro j hj
              rw [Nat.le_zero.1 hj]
              exact hend
            · intro j hj
              cases j with
              | zero => exact hend
              | succ j => exact hi j (Nat.le_of_succ_le_succ hj)

/-! ### The loops keep or blank a character -/

theorem getElem?_loop (blanks : Bool) (s : Str) (i : Nat) :
    (loop blanks s)[i]? = s[i]? ∨ (loop blanks s)[i]? = some ' ' := by
  fun_induction loop blanks s generalizing i with
  | case1 => exact Or.inl rfl
  | case2 c tmp hc ih =>
      cases i with
      | zero => exact Or.inr rfl
      | succ i => exact ih i
  | case3 c tmp hc ih =>
      cases i with
      | zero => exact Or.inl rfl
      | succ i => exact ih i
  | case4 c => exact Or.inl rfl
  | case5 c d tmp hstop => exact Or.inl rfl
  | case6 c d tmp hstop hfold ih =>
      cases i with
      | zero => exact Or.inr rfl
      | succ i =>
          cases i with
          | zero => exact Or.inr rfl
          | succ i => exact ih i
  | case7 c d tmp hstop hfold ih =>
      cases i with
      | zero => exact Or.inl rfl
      | succ i => exact ih i

theorem headerEnd_iff (s : Str) :
    headerEnd s = true ↔
      (s[0]? = some '\r' ∧ s[1]? = some '\n' ∧ s[2]? = some '\r' ∧ s[3]? = some '\n') ∨
        (s[0]? = some '\r' ∧ s[1]? = some '\r') ∨ (s[0]? = some '\n' ∧ s[1]? = some '\n') := by
  rcases s with _ | ⟨a, _ | ⟨b, _ | ⟨c, _ | ⟨d, s⟩⟩⟩⟩ <;>
    simp [headerEnd, List.isPrefixOf, or_assoc, @eq_comm Char '\r', @eq_comm Char '\n']

theorem headerEnd_of_blanked {s t : Str} (h : ∀ i : Nat, s[i]? = t[i]? ∨ s[i]? = some ' ')
    (hs : headerEnd s = true) : headerEnd t = true := by
  have hget {i : Nat} {c : Char} (hi : s[i]? = some c) (hc : c ≠ ' ') : t[i]? = some c := by
    obtain hsame | hblank := h i
    · rw [← hsame, hi]
    · rw [hi, Option.some.injEq] at hblank
      exact absurd hblank hc
  rw [headerEnd_iff] at hs ⊢
  obtain ⟨h0, h1, h2, h3⟩ | ⟨h0, h1⟩ | ⟨h0, h1⟩ := hs
  · exact Or.inl ⟨hget h0 (by decide), hget h1 (by decide), hget h2 (by decide),
      hget h3 (by decide)⟩
  · exact Or.inr (Or.inl ⟨hget h0 (by decide), hget h1 (by decide)⟩)
  · exact Or.inr (Or.inr ⟨hget h0 (by decide), hget h1 (by decide)⟩)

theorem headerEnd_cons_loop {c : Char} {tmp : Str} (h : headerEnd (c :: tmp) = false) :
    headerEnd (c :: loop false tmp) = false := by
  rw [Bool.eq_false_iff]
  intro hend
  rw [headerEnd_of_blanked _ hend] at h
  · cases h
  · intro i
    cases i with
    | zero => exact Or.inl rfl
    | succ i => exact getElem?_loop false tmp i

theorem loop_of_folded {c d : Char} {tmp : Str} (hnul : nearNul (c :: d :: tmp) = false)
    (hend : headerEnd (c :: d :: tmp) = false) (h : folded (c :: d :: tmp) = true) :
    loop false (c :: d :: tmp) = ' ' :: ' ' :: loop true tmp := by
  rw [loop, hnul, hend, h]
  rfl

theorem loop_of_stop {tmp : Str} (h : (nearNul tmp || headerEnd tmp) = true) :
    loop false tmp = tmp := by
  cases tmp with
  | nil => rfl
  | cons c tmp =>
      cases tmp with
      | nil => rfl
      | cons d tmp => rw [loop, if_pos h]

theorem head?_loop {tmp : Str} (h : (!nearNul tmp && folded tmp) = false) :
    (loop false tmp).head? = tmp.head? := by
  cases tmp with
  | nil => rfl
  | cons c tmp =>
      cases tmp with
      | nil => rfl
      | cons d tmp =>
          rw [loop]
          split_ifs with hstop hfold
          · rfl
          · rw [Bool.not_eq_true, Bool.or_eq_false_iff] at hstop
            rw [hstop.1, hfold] at h
            cases h
          · rfl

theorem isSpOrHt_iff {c : Char} : isSpOrHt c = true ↔ c = ' ' ∨ c = '\t' := by
  simp [isSpOrHt]

theorem folded_cases {s : Str} (h : folded s = true) :
    ∃ c tmp, isSpOrHt c = true ∧
      (s = '\r' :: '\n' :: c :: tmp ∨ s = '\r' :: c :: tmp ∨ s = '\n' :: c :: tmp) := by
  unfold folded at h
  split at h
  · next c tmp => exact ⟨c, tmp, h, Or.inl rfl⟩
  · next c tmp _ => exact ⟨c, tmp, h, Or.inr (Or.inl rfl)⟩
  · next c tmp => exact ⟨c, tmp, h, Or.inr (Or.inr rfl)⟩
  · cases h

theorem cons_cons_of_folded {s : Str} (h : folded s = true) : ∃ c d tmp, s = c :: d :: tmp := by
  obtain ⟨c, tmp, -, hs⟩ := folded_cases h
  obtain hs | hs | hs := hs
  · exact ⟨_, _, _, hs⟩
  · exact ⟨_, _, _, hs⟩
  · exact ⟨_, _, _, hs⟩

theorem headerEnd_of_folded {s : Str} (h : folded s = true) : headerEnd s = false := by
  obtain ⟨c, tmp, hc, hs⟩ := folded_cases h
  obtain rfl | rfl := isSpOrHt_iff.1 hc
  · rcases hs with rfl | rfl | rfl <;> rfl
  · rcases hs with rfl | rfl | rfl <;> rfl

theorem foldedLine_of_folded {s : Str} (h : folded s = true) : foldedLine s = true := by
  obtain ⟨c, tmp, hc, hs⟩ := folded_cases h
  obtain rfl | rfl := isSpOrHt_iff.1 hc
  · rcases hs with rfl | rfl | rfl <;> rfl
  · rcases hs with rfl | rfl | rfl <;> rfl

/-- A line break that is kept has a blank behind it in the result, or is followed there by a
fold that was left. -/
theorem foldedLine_cons_loop {c : Char} {tmp : Str} (hnul : c ≠ '\x00')
    (hend : headerEnd (c :: tmp) = false) :
    foldedLine (c :: loop false tmp) = (keptBreak (c :: tmp) || foldedLine (loop false tmp)) := by
  have hsection : sectionEnd (c :: loop false tmp) = false := by
    rw [sectionEnd, headerEnd_cons_loop hend, Bool.or_false, beq_eq_false_iff_ne]
    exact hnul
  have hbreak : breakBlank (c :: loop false tmp) =
      (isLineBreak c && (loop false tmp).head?.any isSpOrHt) := by
    cases loop false tmp with
    | nil => simp [breakBlank]
    | cons d rest => rfl
  rw [foldedLine, hsection, hbreak, keptBreak, Bool.not_false, Bool.true_and]
  cases isLineBreak c with
  | false => rfl
  | true =>
      rw [Bool.true_and, Bool.true_and]
      cases hfold : !nearNul tmp && folded tmp with
      | false =>
          rw [head?_loop hfold]
          cases hleft : folded tmp with
          | false => rw [Bool.or_false]
          | true =>
              -- too near to the end of the string to be replaced
              rw [hleft, Bool.and_true, Bool.not_eq_false'] at hfold
              rw [loop_of_stop (by rw [hfold, Bool.true_or]), foldedLine_of_folded hleft,
                Bool.or_true, Bool.or_true]
      | true =>
          rw [Bool.and_eq_true, Bool.not_eq_true'] at hfold
          obtain ⟨d, e, rest, rfl⟩ := cons_cons_of_folded hfold.2
          rw [loop_of_folded hfold.1 (headerEnd_of_folded hfold.2) hfold.2, hfold.2, Bool.or_true,
            Bool.true_or]
          rfl

theorem terminator_cases {s : Str} (h : headerEnd s = true) :
    (∃ tmp, s = '\r' :: '\n' :: '\r' :: '\n' :: tmp) ∨
      ∃ c tmp, (c = '\r' ∨ c = '\n') ∧ s = c :: c :: tmp := by
  simp only [headerEnd, Bool.or_eq_true, List.isPrefixOf_iff_prefix] at h
  obtain (⟨tmp, rfl⟩ | ⟨tmp, rfl⟩) | ⟨tmp, rfl⟩ := h
  · exact Or.inl ⟨tmp, rfl⟩
  · exact Or.inr ⟨'\r', tmp, Or.inl rfl, rfl⟩
  · exact Or.inr ⟨'\n', tmp, Or.inr rfl, rfl⟩

theorem cons_of_head? {s : Str} {c : Char} (h : s.head? = some c) : ∃ tmp, s = c :: tmp := by
  cases s with
  | nil => cases h
  | cons d tmp =>
      cases h
      exact ⟨tmp, rfl⟩

theorem foldedLine_twice {c : Char} (hc : c = '\r' ∨ c = '\n') (tmp : Str) :
    foldedLine (c :: loop false (c :: tmp)) = (!nearNul (c :: tmp) && folded (c :: tmp)) := by
  cases hfold : !nearNul (c :: tmp) && folded (c :: tmp) with
  | false =>
      obtain ⟨rest, hrest⟩ := cons_of_head? (head?_loop hfold)
      rw [hrest]
      rcases hc with rfl | rfl <;> rfl
  | true =>
      rw [Bool.and_eq_true, Bool.not_eq_true'] at hfold
      obtain ⟨d, e, rest, heq⟩ := cons_cons_of_folded hfold.2
      rw [heq] at hfold
      rw [heq, loop_of_folded hfold.1 (headerEnd_of_folded hfold.2) hfold.2]
      rcases hc with rfl | rfl <;> rfl

theorem foldedLine_crlfcrlf (tmp : Str) :
    foldedLine ('\r' :: loop false ('\n' :: '\r' :: '\n' :: tmp)) =
      (!nearNul ('\r' :: '\n' :: tmp) && folded ('\r' :: '\n' :: tmp)) := by
  cases hnul : nearNul ('\n' :: '\r' :: '\n' :: tmp) with
  | true =>
      have hfold : folded ('\r' :: '\n' :: tmp) = false := by
        rw [Bool.eq_false_iff]
        intro hfold
        cases tmp with
        | nil => cases hfold
        | cons d tmp =>
            obtain rfl | rfl := isSpOrHt_iff.1 hfold
            · cases hnul
            · cases hnul
      rw [loop_of_stop (by rw [hnul, Bool.true_or]), hfold, Bool.and_false]
      rfl
  | false =>
      have hloop : loop false ('\n' :: '\r' :: '\n' :: tmp) =
          '\n' :: loop false ('\r' :: '\n' :: tmp) := by
        rw [loop, hnul]
        rfl
      rw [hloop]
      cases hfold : !nearNul ('\r' :: '\n' :: tmp) && folded ('\r' :: '\n' :: tmp) with
      | true =>
          rw [Bool.and_eq_true, Bool.not_eq_true'] at hfold
          rw [loop_of_folded hfold.1 (headerEnd_of_folded hfold.2) hfold.2]
          rfl
      | false =>
          have hkept : ∃ rest, loop false ('\r' :: '\n' :: tmp) = '\r' :: '\n' :: rest := by
            cases hstop : nearNul ('\r' :: '\n' :: tmp) || headerEnd ('\r' :: '\n' :: tmp) with
            | true => exact ⟨tmp, loop_of_stop hstop⟩
            | false =>
                rw [Bool.or_eq_false_iff] at hstop
                rw [hstop.1, Bool.not_false, Bool.true_and] at hfold
                have hlf : folded ('\n' :: tmp) = false := by
                  cases tmp with
                  | nil => rfl
                  | cons d tmp => exact hfold
                obtain ⟨rest, hrest⟩ := cons_of_head? (head?_loop (by rw [hlf, Bool.and_false]))
                refine ⟨rest, ?_⟩
                rw [loop, hstop.1, hstop.2, hfold, ← hrest]
                rfl
          obtain ⟨rest, hrest⟩ := hkept
          rw [hrest]
          rfl

/-- A terminator whose first character is passed over stays, or its second line break is
replaced. -/
theorem foldedLine_terminator {c : Char} {tmp : Str} (hend : headerEnd (c :: tmp) = true) :
    foldedLine (c :: loop false tmp) = terminatorFolded (c :: tmp) := by
  obtain ⟨rest, hrest⟩ | ⟨d, rest, hd, hrest⟩ := terminator_cases hend
  · obtain ⟨rfl, rfl⟩ := List.cons.inj hrest
    exact foldedLine_crlfcrlf rest
  · obtain ⟨rfl, rfl⟩ := List.cons.inj hrest
    have htail : terminatorFolded (c :: c :: rest) =
        (!nearNul (c :: rest) && folded (c :: rest)) := by
      rcases hd with rfl | rfl <;> rfl
    rw [htail]
    exact foldedLine_twice hd rest

theorem foldedLine_space (s : Str) : foldedLine (' ' :: s) = foldedLine s := by
  cases s <;> rfl

theorem ne_nul_of_nearNul {c : Char} {tmp : Str} (h : nearNul (c :: tmp) = false) : c ≠ '\x00' := by
  rintro rfl
  rcases tmp with _ | ⟨d, _ | ⟨e, _ | ⟨f, tmp⟩⟩⟩ <;> cases h

theorem foldedLine_loop (blanks : Bool) (s : Str) :
    foldedLine (loop blanks s) = leavesFold blanks s := by
  fun_induction loop blanks s with
  | case1 => simp [leavesFold, foldedLine]
  | case2 c tmp hc ih =>
      rw [leavesFold, if_pos hc, ← ih]
      exact foldedLine_space _
  | case3 c tmp hc ih =>
      rw [leavesFold, if_neg hc]
      by_cases hnul : c = '\x00'
      · rw [if_pos hnul, hnul]
        rfl
      · rw [if_neg hnul]
        cases hend : headerEnd (c :: tmp) with
        | true => rw [if_pos rfl, foldedLine_terminator hend]
        | false => rw [if_neg Bool.false_ne_true, foldedLine_cons_loop hnul hend, ih]
  | case4 c => simp [leavesFold, foldedLine, breakBlank]
  | case5 c d tmp hstop =>
      rw [leavesFold]
      cases hnul : nearNul (c :: d :: tmp) with
      | true => rw [if_pos rfl]
      | false =>
          rw [hnul, Bool.false_or] at hstop
          rw [if_neg Bool.false_ne_true, if_pos hstop, foldedLine, sectionEnd, hstop, Bool.or_true,
            Bool.not_true, Bool.false_and]
  | case6 c d tmp hstop hfold ih =>
      rw [Bool.not_eq_true, Bool.or_eq_false_iff] at hstop
      rw [leavesFold, hstop.1, hstop.2, if_neg Bool.false_ne_true, if_neg Bool.false_ne_true,
        if_pos hfold, ← ih]
      exact (foldedLine_space _).trans (foldedLine_space _)
  | case7 c d tmp hstop hfold ih =>
      rw [Bool.not_eq_true, Bool.or_eq_false_iff] at hstop
      rw [leavesFold, hstop.1, hstop.2, if_neg Bool.false_ne_true, if_neg Bool.false_ne_true,
        if_neg hfold, foldedLine_cons_loop (ne_nul_of_nearNul hstop.1) hstop.2, ih]

/-! ### The lines of the header section -/

theorem osipFindNextCrlf_nul (s : Str) :
    osipFindNextCrlf ('\x00' :: s) = .error osipSyntaxerror := rfl

theorem osipFindNextCrlf_break {c : Char} (h : isLineBreak c = true) (s : Str) :
    osipFindNextCrlf (c :: s) =
      let soh := if c = '\r' ∧ s[0]? = some '\n' then 1 else 0
      if s[soh]?.any isSpOrHt then .error (-2) else .ok (soh + 1) := by
  have hnul : (c != '\x00') = true := by
    rw [bne_iff_ne]
    rintro rfl
    cases h
  have hfound : (c == '\r' || c == '\n') = true := h
  have hblank {d : Option Char} : (d = some ' ' ∨ d = some '\t') ↔ d.any isSpOrHt = true := by
    cases d with
    | none => simp
    | some d => simp [isSpOrHt]
  rw [osipFindNextCrlf, cString, List.takeWhile_cons, if_pos hnul, List.findIdx?_cons, hfound,
    if_pos rfl]
  dsimp only
  simp only [List.getElem?_cons_zero, Option.some.injEq, List.getElem?_cons_succ, hblank]

theorem osipFindNextCrlf_cons {c : Char} (h : isLineBreak c = false) (hnul : c ≠ '\x00') (s : Str) :
    osipFindNextCrlf (c :: s) = (osipFindNextCrlf s).map (· + 1) := by
  have hmissing : (c == '\r' || c == '\n') = false := h
  rw [osipFindNextCrlf, cString, List.takeWhile_cons, if_pos (bne_iff_ne.2 hnul),
    List.findIdx?_cons, hmissing, if_neg Bool.false_ne_true, osipFindNextCrlf, cString]
  cases (s.takeWhile (· != '\x00')).findIdx? fun c => c == '\r' || c == '\n' with
  | none => rfl
  | some soh =>
      rw [Option.map_some]
      simp only [List.getElem?_cons_succ]
      split_ifs <;> rfl

theorem foldedLine_tail {c : Char} {s : Str} (h : foldedLine (c :: s) = false)
    (hend : sectionEnd (c :: s) = false) : breakBlank (c :: s) = false ∧ foldedLine s = false := by
  rwa [foldedLine, hend, Bool.not_false, Bool.true_and, Bool.or_eq_false_iff] at h

theorem headerEnd_of_not_break {c : Char} (h : isLineBreak c = false) (s : Str) :
    headerEnd (c :: s) = false := by
  rw [Bool.eq_false_iff]
  intro hend
  obtain ⟨tmp, heq⟩ | ⟨d, tmp, hd, heq⟩ := terminator_cases hend
  · cases heq
    cases h
  · cases heq
    rcases hd with rfl | rfl
    · cases h
    · cases h

theorem osipFindNextCrlf_terminator {s : Str} (h : headerEnd s = true) :
    ∃ n, osipFindNextCrlf s = .ok n ∧ Body.atLineBreak (s.drop n) = true := by
  obtain ⟨tmp, rfl⟩ | ⟨c, tmp, hc, rfl⟩ := terminator_cases h
  · exact ⟨2, rfl, rfl⟩
  · rcases hc with rfl | rfl
    · exact ⟨1, rfl, rfl⟩
    · exact ⟨1, rfl, rfl⟩

theorem breakBlank_cons {c : Char} (h : isLineBreak c = true) (s : Str) :
    breakBlank (c :: s) = s[0]?.any isSpOrHt := by
  cases s with
  | nil => rfl
  | cons d s => rw [breakBlank, h, Bool.true_and, List.getElem?_cons_zero, Option.any_some]

theorem sectionEnd_of_break {c : Char} {s : Str} (h : isLineBreak c = true)
    (hend : headerEnd (c :: s) = false) : sectionEnd (c :: s) = false := by
  rw [sectionEnd, hend, Bool.or_false, beq_eq_false_iff_ne]
  rintro rfl
  cases h

theorem lf_of_headerEnd {s : Str} (h : headerEnd ('\n' :: s) = true) : ∃ tmp, s = '\n' :: tmp := by
  obtain ⟨tmp, heq⟩ | ⟨c, tmp, -, heq⟩ := terminator_cases h
  · cases heq
  · cases heq
    exact ⟨tmp, rfl⟩

theorem osipFindNextCrlf_of_break {c : Char} {s : Str} (hbreak : isLineBreak c = true)
    (hend : headerEnd (c :: s) = false) (h : foldedLine (c :: s) = false) :
    ∃ n, osipFindNextCrlf (c :: s) = .ok n ∧
      (Body.atLineBreak ((c :: s).drop n) = true ∨ foldedLine ((c :: s).drop n) = false) := by
  obtain ⟨hblank, hrest⟩ := foldedLine_tail h (sectionEnd_of_break hbreak hend)
  rw [osipFindNextCrlf_break hbreak]
  by_cases hcrlf : c = '\r' ∧ s[0]? = some '\n'
  · rw [if_pos hcrlf]
    dsimp only
    obtain ⟨tmp, rfl⟩ := cons_of_head? ((List.head?_eq_getElem?).trans hcrlf.2)
    rw [List.getElem?_cons_succ]
    cases hlf : headerEnd ('\n' :: tmp) with
    | true =>
        obtain ⟨tmp, rfl⟩ := lf_of_headerEnd hlf
        exact ⟨2, rfl, Or.inl rfl⟩
    | false =>
        obtain ⟨hblank, hrest⟩ := foldedLine_tail hrest (sectionEnd_of_break rfl hlf)
        rw [breakBlank_cons rfl] at hblank
        exact ⟨2, by rw [hblank, if_neg Bool.false_ne_true], Or.inr hrest⟩
  · rw [if_neg hcrlf]
    dsimp only
    rw [breakBlank_cons hbreak] at hblank
    exact ⟨1, by rw [hblank, if_neg Bool.false_ne_true], Or.inr hrest⟩

/-- In a header section without a folded line no line is folded, and the next one is such a
section again or the end. -/
theorem osipFindNextCrlf_of_unfolded {s : Str} (h : foldedLine s = false) :
    osipFindNextCrlf s ≠ .error (-2) ∧
      ∀ n, osipFindNextCrlf s = .ok n →
        Body.atLineBreak (s.drop n) = true ∨ foldedLine (s.drop n) = false := by
  induction s with
  | nil => exact ⟨by decide, fun n hn => by cases hn⟩
  | cons c s ih =>
      by_cases hnul : c = '\x00'
      · rw [hnul, osipFindNextCrlf_nul]
        exact ⟨by decide, fun n hn => by cases hn⟩
      · cases hbreak : isLineBreak c with
        | false =>
            have hend : sectionEnd (c :: s) = false := by
              rw [sectionEnd, headerEnd_of_not_break hbreak, Bool.or_false, beq_eq_false_iff_ne]
              exact hnul
            have hrest : foldedLine s = false := (foldedLine_tail h hend).2
            rw [osipFindNextCrlf_cons hbreak hnul]
            cases hnext : osipFindNextCrlf s with
            | error i =>
                refine ⟨?_, fun n hn => by cases hn⟩
                intro hfold
                cases hfold
                exact (ih hrest).1 hnext
            | ok next =>
                refine ⟨by simp [Except.map], fun n hn => ?_⟩
                cases hn
                exact (ih hrest).2 next hnext
        | true =>
            have hnext : ∃ n, osipFindNextCrlf (c :: s) = .ok n ∧
                (Body.atLineBreak ((c :: s).drop n) = true ∨
                  foldedLine ((c :: s).drop n) = false) := by
              cases hend : headerEnd (c :: s) with
              | true =>
                  obtain ⟨n, hn, hstop⟩ := osipFindNextCrlf_terminator hend
                  exact ⟨n, hn, Or.inl hstop⟩
              | false => exact osipFindNextCrlf_of_break hbreak hend h
            obtain ⟨n, hn, hrest⟩ := hnext
            rw [hn]
            refine ⟨by simp, fun n' hn' => ?_⟩
            cases hn'
            exact hrest

/-- What `msg_headers_parse` hands to `__osip_find_next_crlf`, from the first header on. -/
inductive HeaderLine (headers : Str) : Str → Prop
  | first : HeaderLine headers headers
  | next {line : Str} {endOfHeader : Nat} : HeaderLine headers line →
      Body.atLineBreak line = false → osipFindNextCrlf line = .ok endOfHeader →
      HeaderLine headers (line.drop endOfHeader)

theorem HeaderLine.unfolded {headers line : Str} (hline : HeaderLine headers line)
    (h : foldedLine headers = false) : Body.atLineBreak line = true ∨ foldedLine line = false := by
  induction hline with
  | first => exact Or.inr h
  | next hline hbreak hnext ih =>
      rw [hbreak] at ih
      exact (osipFindNextCrlf_of_unfolded (ih.resolve_left Bool.false_ne_true)).2 _ hnext

theorem foldedLine_drop {s : Str} (h : foldedLine s = false) {k : Nat}
    (hk : ∀ j < k, sectionEnd (s.drop j) = false) : foldedLine (s.drop k) = false := by
  induction k generalizing s with
  | zero => exact h
  | succ k ih =>
      cases s with
      | nil => rfl
      | cons c s =>
          refine ih (foldedLine_tail h (hk 0 (Nat.succ_pos k))).2 ?_
          intro j hj
          exact hk (j + 1) (Nat.succ_lt_succ hj)

theorem breakBlank_drop (s : Str) (i : Nat) :
    breakBlank (s.drop i) = (s[i]?.any isLineBreak && s[i + 1]?.any isSpOrHt) := by
  have hcons (t : Str) : breakBlank t = (t[0]?.any isLineBreak && t[1]?.any isSpOrHt) := by
    rcases t with _ | ⟨c, _ | ⟨d, t⟩⟩ <;> simp [breakBlank]
  rw [hcons, List.getElem?_drop, List.getElem?_drop, Nat.add_zero]

theorem isSpOrHt_loop {s : Str} {i : Nat} (h : s[i]?.any isSpOrHt = true) (blanks : Bool) :
    (loop blanks s)[i]?.any isSpOrHt = true := by
  obtain hsame | hblank := getElem?_loop blanks s i
  · rw [hsame, h]
  · rw [hblank]
    rfl

end Lws

open Lws in
/-- No folded line is left in the header section, those that were there are joined, and from
any place in it where the headers begin each header ends at a line break that is not folded. -/
structure UnfoldingComplete (sipMessage : Str) : Prop where
  unfolded : ∀ i, InHeaders (osipUtilReplaceAllLws sipMessage) i →
    breakBlank ((osipUtilReplaceAllLws sipMessage).drop i) = false
  joined : ∀ i, InHeaders (osipUtilReplaceAllLws sipMessage) i →
    breakBlank (sipMessage.drop i) = true → (osipUtilReplaceAllLws sipMessage)[i]? = some ' '
  oneHeader : ∀ k, (∀ j < k, sectionEnd ((osipUtilReplaceAllLws sipMessage).drop j) = false) →
    ∀ line, HeaderLine ((osipUtilReplaceAllLws sipMessage).drop k) line →
      Body.atLineBreak line = false → osipFindNextCrlf line ≠ .error (-2)

/-- In every buffer. -/
theorem unfoldingComplete_iff (sipMessage : Str) :
    UnfoldingComplete sipMessage ↔ Lws.leavesFold false sipMessage = false := by
  rw [← Lws.foldedLine_loop]
  constructor
  · intro h
    exact (Lws.foldedLine_eq_false_iff _).2 h.unfolded
  · intro h
    have hunfolded := (Lws.foldedLine_eq_false_iff _).1 h
    refine ⟨hunfolded, ?_, ?_⟩
    · intro i hi hfold
      obtain hsame | hblank := Lws.getElem?_loop false sipMessage i
      · have hleft := hunfolded i hi
        rw [Lws.breakBlank_drop, Bool.and_eq_true] at hfold
        rw [Lws.breakBlank_drop, hsame, hfold.1, Lws.isSpOrHt_loop hfold.2] at hleft
        cases hleft
      · exact hblank
    · intro k hk line hline hbreak
      have hrest := Lws.foldedLine_drop h hk
      have hclean := hline.unfolded hrest
      rw [hbreak] at hclean
      exact (Lws.osipFindNextCrlf_of_unfolded (hclean.resolve_left Bool.false_ne_true)).1

/-- A continuation line of blanks: the CR behind them is passed over. -/
theorem not_unfoldingComplete : ¬ ∀ sipMessage : Str, UnfoldingComplete sipMessage := by
  intro h
  have hleft := (unfoldingComplete_iff _).1 (h "A: b\r\n \r\n c\r\n\r\n".toList)
  exact absurd hleft (by decide)

end Exosip
