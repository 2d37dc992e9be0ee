import Exosip.Parser.Quote

/-! `__osip_quote_find` over pointers: every read is checked against the string, which ends
with its NUL, and the quote found is the first one with an even number of backslashes right
before it. -/
namespace Exosip.CString

open Machine

/-- How a search ends: with a pointer, with `NULL`, or not at all, after a read outside the
string or in its loop. -/
inductive Search
  | pointer (quote : Int)
  | null
  | outside
  | running
  deriving DecidableEq, Repr

/-- The character a pointer reads, where the NUL is no character. -/
def readAt (s : Str) (pointer : Int) : Option (Option Char) :=
  if 0 ≤ pointer ∧ pointer ≤ s.length then some s[pointer.toNat]? else none

/-- `strchr (pointer, '"')`. -/
def strchrAt (s : Str) (pointer : Int) : Option (Option Int) :=
  if 0 ≤ pointer ∧ pointer ≤ s.length then
    some ((quoteAt s pointer.toNat).map Int.ofNat)
  else none

def quoteSearchLoop (s : Str) : Nat → Int → Int → Int → Search
  | 0, _, _, _ => .running
  | fuel + 1, qstring, quote, i =>
      -- the test at the end of the loop body
      let boundary (quote i : Int) : Search :=
        if quote - i = qstring - 1 then
          match readAt s qstring with
          | none => .outside
          | some first =>
              let i := if first = some '\\' then i + 1 else i
              if i % 2 = 0 then .pointer quote
              else match strchrAt s (quote + 1) with
                | none => .outside
                | some none => .null
                | some (some next) => quoteSearchLoop s fuel (quote + 1) next 1
        else quoteSearchLoop s fuel qstring quote i
      match readAt s (quote - i) with
      | none => .outside
      | some back =>
          if back = some '\\' then boundary quote (i + 1)
          else if i % 2 = 1 then .pointer quote
          else match strchrAt s (quote + 1) with
            | none => .outside
            | some none => .null
            | some (some next) => boundary next 1

/-- `__osip_quote_find (qstring)`, with at most `fuel` turns of the loop. -/
def quoteSearch (fuel : Nat) (qstring : Str) : Search :=
  match strchrAt qstring 0 with
  | none => .outside
  | some none => .null
  | some (some quote) =>
      if quote = 0 then .pointer quote
      else quoteSearchLoop qstring fuel 0 quote 1

def backslashesBefore (s : Str) (k : Nat) : Nat :=
  ((s.take k).reverse.takeWhile fun c => decide (c = '\\')).length

/-- The position holds a quote that closes: an even number of backslashes stands before it. -/
def Closing (s : Str) (k : Nat) : Prop := s[k]? = some '"' ∧ backslashesBefore s k % 2 = 0

instance (s : Str) (k : Nat) : Decidable (Closing s k) := inferInstanceAs (Decidable (_ ∧ _))

def Search.ofPosition : Option Nat → Search
  | some quote => .pointer quote
  | none => .null

/-! ### The reads stay inside -/

theorem readAt_nat {s : Str} {k : Nat} (h : k ≤ s.length) : readAt s k = some s[k]? := by
  rw [readAt, if_pos (by omega), Int.toNat_natCast]

theorem strchrAt_nat {s : Str} {k : Nat} (h : k ≤ s.length) :
    strchrAt s k = some ((quoteAt s k).map Int.ofNat) := by
  rw [strchrAt, if_pos (by omega), Int.toNat_natCast]

/-- While the count is right the pointers are positions of the string, and the loop over them
is the one over positions. -/
theorem quoteSearchLoop_eq {s : Str} {fuel q quote i run : Nat} (h : QuoteCount s q quote i run)
    (hfuel : run + 1 - i + (s.length - quote) < fuel) :
    quoteSearchLoop s fuel q quote i = Search.ofPosition (quoteFindLoop s fuel q quote i) := by
  induction fuel generalizing q quote i run with
  | zero => omega
  | succ fuel ih =>
      have hlength := h.length
      have hpos := h.pos
      have hrun_le := h.le_run
      have hle : i ≤ quote := by
        obtain hin | ⟨hq, rfl, rfl⟩ := h.inside
        · omega
        · omega
      have hsub : (quote : Int) - i = ((quote - i : Nat) : Int) := by omega
      rw [quoteSearchLoop, quoteFindLoop]
      dsimp only
      rw [hsub, readAt_nat (by omega)]
      dsimp only
      by_cases hback : s[quote - i]? = some '\\'
      · rw [if_pos hback, if_pos hback]
        have hq : q + i ≤ quote := by
          refine h.inside.resolve_right ?_
          rintro ⟨hq, rfl, rfl⟩
          rw [h.before hq] at hback
          cases hback
        have hrun : i ≤ run := by
          by_contra hlt
          have heq : quote - run - 1 = quote - i := by omega
          exact h.run_end (by omega) (by rw [heq]; exact hback)
        by_cases hbase : quote + 1 = q + (i + 1)
        · have hescaped : s[q]? = some '\\' := by
            have heq : quote - i = q := by omega
            rw [← heq]
            exact hback
          rw [if_pos (by omega), if_pos hbase, readAt_nat (by omega)]
          dsimp only
          rw [if_pos hescaped, if_pos hescaped]
          by_cases heven : (i + 1 + 1) % 2 = 0
          · rw [if_pos (by omega), if_pos heven]
            rfl
          · rw [if_neg (by omega), if_neg heven]
            have hnext := strchrAt_nat (s := s) (k := quote + 1) (by omega)
            rw [Nat.cast_add_one] at hnext
            rw [hnext]
            cases hquote : quoteAt s (quote + 1) with
            | none => rfl
            | some quote' =>
                obtain ⟨hstart, hfound, -⟩ := quoteAt_eq_some hquote
                have hcount := h.restart hstart hfound
                have hquote' := hcount.length
                have hih := ih hcount (by omega)
                rw [Nat.cast_add_one, Nat.cast_one] at hih
                exact hih
        · rw [if_neg (by omega), if_neg hbase]
          have hih := ih (h.succ hback (by omega)) (by omega)
          rw [Nat.cast_add_one] at hih
          exact hih
      · rw [if_neg hback, if_neg hback]
        by_cases hodd : i % 2 = 1
        · rw [if_pos (by omega), if_pos hodd]
          rfl
        · rw [if_neg (by omega), if_neg hodd]
          have hnext := strchrAt_nat (s := s) (k := quote + 1) (by omega)
          rw [Nat.cast_add_one] at hnext
          rw [hnext]
          cases hquote : quoteAt s (quote + 1) with
          | none => rfl
          | some quote' =>
              obtain ⟨hstart, hfound, -⟩ := quoteAt_eq_some hquote
              have hcount := h.next hstart hfound
              have hquote' := hcount.length
              have hin := h.inside
              dsimp only [Option.map_some]
              rw [if_neg (by simp only [Int.ofNat_eq_natCast]; omega), if_neg (by omega)]
              have hih := ih hcount (by omega)
              rw [Nat.cast_one] at hih
              exact hih

theorem quoteSearch_eq {s : Str} {fuel : Nat} (hfuel : 2 * s.length + 2 ≤ fuel) :
    quoteSearch fuel s = Search.ofPosition (quotePosition fuel s) := by
  rw [quoteSearch, quotePosition]
  have hstart := strchrAt_nat (s := s) (k := 0) (by omega)
  rw [Nat.cast_zero] at hstart
  rw [hstart]
  cases hquote : quoteAt s 0 with
  | none => rfl
  | some quote =>
      obtain ⟨-, hfound, -⟩ := quoteAt_eq_some hquote
      cases quote with
      | zero => rfl
      | succ quote =>
          have hcount := QuoteCount.first hfound
          have hlength := hcount.length
          have hne : ¬ Int.ofNat (quote + 1) = 0 := by
            rw [Int.ofNat_eq_natCast]
            omega
          dsimp only [Option.map_some]
          rw [if_neg hne, Option.bind_some, if_neg (by omega)]
          exact quoteSearchLoop_eq hcount (by omega)

/-! ### The quote that is found -/

theorem closing_iff {s : Str} {k : Nat} :
    Closing s k ↔ s[k]? = some '"' ∧ escapedAt s k = false := by
  rw [Closing, escapedAt, Quoted.escapedAfter_eq_parity, decide_eq_false_iff_not,
    backslashesBefore, Nat.mod_two_not_eq_one]

theorem closing_length {before rest : Str} :
    Closing (before ++ '"' :: rest) before.length ↔
      Quoted.escapedAfter '\\' false before = false := by
  rw [closing_iff, escapedAt, List.take_left, List.getElem?_append_right (le_refl _),
    Nat.sub_self]
  exact and_iff_right rfl

theorem eq_append_of_getElem? {s : Str} {k : Nat} (h : s[k]? = some '"') :
    s = s.take k ++ '"' :: s.drop (k + 1) := by
  obtain ⟨hk, hget⟩ := List.getElem?_eq_some_iff.1 h
  rw [← hget, ← List.drop_eq_getElem_cons hk, List.take_append_drop]

theorem open_iff_not_closing {s : Str} :
    Quoted.Open '"' '\\' false s ↔ ∀ k, ¬ Closing s k := by
  rw [Quoted.open_iff]
  constructor
  · intro h k hclosing
    rw [closing_iff] at hclosing
    have hafter := h _ _ (eq_append_of_getElem? hclosing.1)
    rw [escapedAt] at hclosing
    rw [hclosing.2] at hafter
    cases hafter
  · rintro h before rest rfl
    by_contra hafter
    rw [Bool.not_eq_true] at hafter
    exact h before.length (closing_length.2 hafter)

theorem closing_append {before rest : Str} {k : Nat} (hk : k < before.length) :
    Closing (before ++ rest) k ↔ Closing before k := by
  rw [Closing, Closing, backslashesBefore, backslashesBefore, List.getElem?_append_left hk,
    List.take_append_of_le_length hk.le]

theorem findQuote_eq_some_iff {s t : Str} :
    findQuote false s = some t ↔
      ∃ k, Closing s k ∧ (∀ j < k, ¬ Closing s j) ∧ t = s.drop k := by
  rw [findQuote, Quoted.find_eq_some_iff]
  constructor
  · rintro ⟨before, rest, rfl, rfl, hopen, hafter⟩
    refine ⟨before.length, closing_length.2 hafter, ?_, (List.drop_left ..).symm⟩
    intro j hj hclosing
    exact open_iff_not_closing.1 hopen j ((closing_append hj).1 hclosing)
  · rintro ⟨k, hclosing, hfirst, rfl⟩
    have hsplit := eq_append_of_getElem? hclosing.1
    have hk := (List.getElem?_eq_some_iff.1 hclosing.1).1
    have hlength : (s.take k).length = k := List.length_take_of_le hk.le
    refine ⟨s.take k, s.drop (k + 1), hsplit, ?_, ?_, (closing_iff.1 hclosing).2⟩
    · rw [List.drop_eq_getElem_cons hk, (List.getElem?_eq_some_iff.1 hclosing.1).2]
    · rw [open_iff_not_closing]
      intro j hj
      have hjk : j < (s.take k).length := (List.getElem?_eq_some_iff.1 hj.1).1
      refine hfirst j (by omega) ?_
      rw [hsplit]
      exact (closing_append hjk).2 hj

/-- `__osip_quote_find` returns the first quote with an even number of consecutive backslashes
before it, `NULL` when there is none; it comes to an end and reads nothing outside the string. -/
theorem quoteSearch_exact (s : Str) :
    (∃ quote : Nat, Closing s quote ∧ (∀ j < quote, ¬ Closing s j) ∧
      osipQuoteFind s = some (s.drop quote) ∧
      ∀ fuel, 2 * s.length + 2 ≤ fuel → quoteSearch fuel s = .pointer quote) ∨
    ((∀ k, ¬ Closing s k) ∧ osipQuoteFind s = none ∧
      ∀ fuel, 2 * s.length + 2 ≤ fuel → quoteSearch fuel s = .null) := by
  cases hfound : findQuote false s with
  | none =>
      refine Or.inr ⟨open_iff_not_closing.1 hfound, by rw [osipQuoteFind_eq, hfound], ?_⟩
      intro fuel hfuel
      have hdrop := drop_quotePosition hfuel
      rw [hfound, Option.map_eq_none_iff] at hdrop
      rw [quoteSearch_eq hfuel, hdrop]
      rfl
  | some t =>
      obtain ⟨k, hclosing, hfirst, ht⟩ := findQuote_eq_some_iff.1 hfound
      refine Or.inl ⟨k, hclosing, hfirst, by rw [osipQuoteFind_eq, hfound, ht], ?_⟩
      intro fuel hfuel
      have hdrop := drop_quotePosition hfuel
      rw [hfound, ht] at hdrop
      obtain ⟨quote, hquote, heq⟩ := Option.map_eq_some_iff.1 hdrop
      have hk := (List.getElem?_eq_some_iff.1 hclosing.1).1
      have hlength := congrArg List.length heq
      rw [List.length_drop, List.length_drop] at hlength
      have hsame : quote = k := by omega
      rw [quoteSearch_eq hfuel, hquote, hsame]
      rfl

end Exosip.CString
