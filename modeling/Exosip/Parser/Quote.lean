import Exosip.Machine.Quoted
import Exosip.Parser.GenericParam

/-! `__osip_quote_find`: the backslashes are counted back from each quote, which comes to the
first quote that is not escaped. -/
namespace Exosip.CString

open Machine

theorem strchr_suffix {s t : Str} {c : Char} (h : strchr s c = some t) : t <:+ s := by
  obtain ⟨before, after, rfl, -, rfl⟩ := strchr_eq_some_iff.1 h
  exact List.suffix_append before (c :: after)

theorem osipQuoteFind_suffix {s t : Str} (h : osipQuoteFind s = some t) : t <:+ s := by
  unfold osipQuoteFind at h
  split at h
  · cases h
  · cases h
    exact List.suffix_refl s
  · obtain ⟨quote, -, rfl⟩ := Option.map_eq_some_iff.1 h
    exact List.drop_suffix quote s

abbrev findQuote (escaped : Bool) (s : Str) : Option Str := Quoted.find '"' '\\' escaped s

/-- Whether the character at `i` is escaped. -/
def escapedAt (s : Str) (i : Nat) : Bool := Quoted.escapedAfter '\\' false (s.take i)

theorem escapedAt_succ_of_ne {s : Str} {i : Nat} {c : Char} (h : s[i]? = some c) (hc : c ≠ '\\') :
    escapedAt s (i + 1) = false := by
  rw [escapedAt, List.take_add_one, h, Option.toList_some]
  exact Quoted.escapedAfter_concat hc _ _

theorem escapedAt_add {s : Str} {i k : Nat} (h : escapedAt s i = false)
    (hrun : ∀ j, i ≤ j → j < i + k → s[j]? = some '\\') :
    escapedAt s (i + k) = decide (k % 2 = 1) := by
  have htake : (s.drop i).take k = List.replicate k '\\' := by
    rw [List.eq_replicate_iff]
    have hget : ∀ j < k, (s.drop i)[j]? = some '\\' := by
      intro j hj
      rw [List.getElem?_drop]
      exact hrun (i + j) (by omega) (by omega)
    constructor
    · rw [List.length_take]
      rcases Nat.eq_zero_or_pos k with hk | hk
      · rw [hk, Nat.zero_min]
      · obtain ⟨hlength, -⟩ := List.getElem?_eq_some_iff.1 (hget (k - 1) (by omega))
        omega
    · intro c hc
      obtain ⟨j, hj, hget'⟩ := List.mem_iff_getElem.1 hc
      rw [List.getElem_take] at hget'
      have hj' : j < k := by
        rw [List.length_take] at hj
        omega
      have hsome := hget j hj'
      rw [List.getElem?_eq_some_iff] at hsome
      obtain ⟨_, hsome⟩ := hsome
      rw [← hget', hsome]
  have hsplit : s.take (i + k) = s.take i ++ (s.drop i).take k := List.take_add
  rw [escapedAt, hsplit, Quoted.escapedAfter_append, htake]
  rw [escapedAt] at h
  rw [h]
  exact Quoted.escapedAfter_replicate k

theorem quoteAt_eq_some {s : Str} {start quote : Nat} (h : quoteAt s start = some quote) :
    start ≤ quote ∧ s[quote]? = some '"' ∧ ∀ j, start ≤ j → j < quote → s[j]? ≠ some '"' := by
  rw [quoteAt, Option.map_eq_some_iff] at h
  obtain ⟨i, hi, rfl⟩ := h
  rw [List.findIdx?_eq_some_iff_getElem] at hi
  obtain ⟨hlength, hquote, hbefore⟩ := hi
  rw [List.length_drop] at hlength
  rw [List.getElem_drop, beq_iff_eq] at hquote
  refine ⟨Nat.le_add_right _ _, ?_, ?_⟩
  · rw [List.getElem?_eq_getElem (by omega), hquote]
  · intro j hstart hj
    have hne := hbefore (j - start) (by omega)
    rw [List.getElem_drop, beq_iff_eq] at hne
    rw [List.getElem?_eq_getElem (by omega), Ne, Option.some.injEq]
    intro heq
    apply hne
    rw [← heq]
    congr 1
    omega

theorem quoteAt_eq_none {s : Str} {start : Nat} (h : quoteAt s start = none) :
    '"' ∉ s.drop start := by
  rw [quoteAt, Option.map_eq_none_iff, List.findIdx?_eq_none_iff] at h
  intro hmem
  simpa using h '"' hmem

/-- What is found from `i` on. -/
def findFrom (s : Str) (i : Nat) : Option Str := findQuote (escapedAt s i) (s.drop i)

theorem findFrom_of_quote {s : Str} {i : Nat} (h : s[i]? = some '"') (hescaped : escapedAt s i = false) :
    findFrom s i = some (s.drop i) := by
  obtain ⟨hi, hget⟩ := List.getElem?_eq_some_iff.1 h
  rw [findFrom, hescaped, List.drop_eq_getElem_cons hi, hget, findQuote, Quoted.find, if_pos rfl]

theorem findFrom_skip {s : Str} {i k : Nat} (hle : i ≤ k) (h : '"' ∉ (s.drop i).take (k - i)) :
    findFrom s i = findFrom s k := by
  have hsplit : s.drop i = (s.drop i).take (k - i) ++ s.drop k := by
    have hdrop : s.drop k = (s.drop i).drop (k - i) := by
      rw [List.drop_drop]
      congr 1
      omega
    rw [hdrop, List.take_append_drop]
  have hescaped : escapedAt s k =
      Quoted.escapedAfter '\\' (escapedAt s i) ((s.drop i).take (k - i)) := by
    have htake : s.take k = s.take i ++ (s.drop i).take (k - i) := by
      rw [← List.take_add]
      congr 1
      omega
    rw [escapedAt, htake, Quoted.escapedAfter_append, escapedAt]
  rw [findFrom, hsplit, findQuote, (Quoted.open_of_notMem h _).find_append, ← hescaped, findFrom]

theorem findFrom_of_escaped {s : Str} {i : Nat} (h : i < s.length) (hescaped : escapedAt s i = true) :
    findFrom s i = findFrom s (i + 1) := by
  have hnext : escapedAt s (i + 1) = false := by
    rw [escapedAt, List.take_add_one, List.getElem?_eq_getElem h, Option.toList_some,
      Quoted.escapedAfter_append]
    rw [escapedAt] at hescaped
    rw [hescaped, Quoted.escapedAfter, Quoted.escapedAfter_nil]
  rw [findFrom, hescaped, List.drop_eq_getElem_cons h, findQuote, Quoted.find, findFrom, hnext]

theorem findFrom_eq_quoteAt (s : Str) (i : Nat) :
    findFrom s i = (quoteAt s i).bind fun quote => findFrom s quote := by
  cases hquote : quoteAt s i with
  | none =>
      rw [findFrom, findQuote]
      exact Quoted.open_of_notMem (quoteAt_eq_none hquote) _
  | some quote =>
      obtain ⟨hle, -, hbefore⟩ := quoteAt_eq_some hquote
      rw [Option.bind_some]
      apply findFrom_skip hle
      intro hmem
      obtain ⟨j, hj, hget⟩ := List.mem_iff_getElem.1 hmem
      rw [List.length_take, List.length_drop] at hj
      rw [List.getElem_take, List.getElem_drop] at hget
      exact hbefore (i + j) (by omega) (by omega)
        (List.getElem?_eq_some_iff.2 ⟨by omega, hget⟩)

/-- The count `i` of the loop at `quote`: as many characters before it but one are backslashes,
down to `q` at most; `run` bounds how many there are. -/
structure QuoteCount (s : Str) (q quote i run : Nat) : Prop where
  found : s[quote]? = some '"'
  start : escapedAt s q = false
  before : 0 < q → s[q - 1]? = some '"'
  inside : q + i ≤ quote ∨ 0 < q ∧ q = quote ∧ i = 1
  pos : 1 ≤ i
  counted : ∀ j, quote + 1 - i ≤ j → j < quote → s[j]? = some '\\'
  le_run : i ≤ run + 1
  run_le : run ≤ quote
  run_end : run < quote → s[quote - run - 1]? ≠ some '\\'

namespace QuoteCount

variable {s : Str} {q quote i run : Nat}

theorem length (h : QuoteCount s q quote i run) : quote < s.length :=
  (List.getElem?_eq_some_iff.1 h.found).1

theorem escapedAt_quote (h : QuoteCount s q quote i run) (hend : s[quote - i]? ≠ some '\\') :
    escapedAt s quote = decide ((i - 1) % 2 = 1) := by
  have hpos := h.pos
  have hle : i ≤ quote := by
    obtain hin | ⟨hq, rfl, rfl⟩ := h.inside
    · omega
    · omega
  have hlt : quote - i < s.length := by
    have := h.length
    omega
  have hne : s[quote - i] ≠ '\\' := by
    intro heq
    exact hend (by rw [List.getElem?_eq_getElem hlt, heq])
  have hfree : escapedAt s (quote - i + 1) = false :=
    escapedAt_succ_of_ne (List.getElem?_eq_getElem hlt) hne
  have hrun := escapedAt_add (k := i - 1) hfree fun j hj hj' => h.counted j (by omega) (by omega)
  have hsum : quote - i + 1 + (i - 1) = quote := by omega
  rw [hsum] at hrun
  exact hrun

theorem first {quote : Nat} (hfound : s[quote + 1]? = some '"') :
    QuoteCount s 0 (quote + 1) 1 (quote + 1) where
  found := hfound
  start := by rw [escapedAt, List.take_zero, Quoted.escapedAfter_nil]
  before := by omega
  inside := by omega
  pos := Nat.le_refl 1
  counted := by omega
  le_run := by omega
  run_le := Nat.le_refl _
  run_end := by omega

theorem succ (h : QuoteCount s q quote i run) (hback : s[quote - i]? = some '\\')
    (hin : q + (i + 1) ≤ quote) : QuoteCount s q quote (i + 1) run where
  found := h.found
  start := h.start
  before := h.before
  inside := Or.inl hin
  pos := by omega
  counted j hj hj' := by
    by_cases heq : j = quote - i
    · rw [heq]
      exact hback
    · exact h.counted j (by omega) hj'
  le_run := by
    have hle := h.le_run
    by_contra hlt
    have heq : quote - run - 1 = quote - i := by omega
    exact h.run_end (by omega) (by rw [heq]; exact hback)
  run_le := h.run_le
  run_end := h.run_end

theorem next (h : QuoteCount s q quote i run) {quote' : Nat} (hlt : quote < quote')
    (hfound : s[quote']? = some '"') : QuoteCount s q quote' 1 (quote' - quote - 1) where
  found := hfound
  start := h.start
  before := h.before
  inside := by
    have hin := h.inside
    have hpos := h.pos
    omega
  pos := Nat.le_refl 1
  counted j hj hj' := by omega
  le_run := by omega
  run_le := by omega
  run_end _ := by
    have heq : quote' - (quote' - quote - 1) - 1 = quote := by omega
    rw [heq, h.found]
    decide

theorem restart (h : QuoteCount s q quote i run) {quote' : Nat} (hlt : quote < quote')
    (hfound : s[quote']? = some '"') :
    QuoteCount s (quote + 1) quote' 1 (quote' - quote - 1) where
  found := hfound
  start := escapedAt_succ_of_ne h.found (by decide)
  before _ := h.found
  inside := by omega
  pos := Nat.le_refl 1
  counted j hj hj' := by omega
  le_run := by omega
  run_le := by omega
  run_end _ := by
    have heq : quote' - (quote' - quote - 1) - 1 = quote := by omega
    rw [heq, h.found]
    decide

theorem findFrom_eq (h : QuoteCount s q quote i run) (hescaped : escapedAt s quote = true) :
    findFrom s quote = (quoteAt s (quote + 1)).bind (findFrom s) := by
  rw [findFrom_of_escaped h.length hescaped, findFrom_eq_quoteAt]

end QuoteCount

theorem quoteFindLoop_eq {s : Str} {fuel q quote i run : Nat} (h : QuoteCount s q quote i run)
    (hfuel : run + 1 - i + (s.length - quote) < fuel) :
    (quoteFindLoop s fuel q quote i).map (s.drop ·) = findFrom s quote := by
  induction fuel generalizing q quote i run with
  | zero => omega
  | succ fuel ih =>
      have hlength := h.length
      have hpos := h.pos
      have hle := h.le_run
      rw [quoteFindLoop]
      dsimp only
      by_cases hback : s[quote - i]? = some '\\'
      · rw [if_pos hback]
        have hq : q + i ≤ quote := by
          refine h.inside.resolve_right ?_
          rintro ⟨hq, rfl, rfl⟩
          rw [h.before hq] at hback
          cases hback
        have hrun : i ≤ run := by
          by_contra hlt
          have heq : quote - run - 1 = quote - i := by omega
          exact h.run_end (by omega) (by rw [heq]; exact hback)
        by_cases hbase : quote + 1 = q + (i + 1)
        · have heq : quote - i = q := by omega
          rw [heq] at hback
          have hescaped : escapedAt s quote = decide (i % 2 = 1) := by
            have hrun := escapedAt_add (k := i) h.start fun j hj hj' => by
              by_cases hj0 : j = q
              · rw [hj0]
                exact hback
              · exact h.counted j (by omega) (by omega)
            have hsum : q + i = quote := by omega
            rw [hsum] at hrun
            exact hrun
          rw [if_pos hbase, if_pos hback]
          by_cases heven : (i + 1 + 1) % 2 = 0
          · rw [if_pos heven, Option.map_some]
            rw [decide_eq_false (by omega)] at hescaped
            exact (findFrom_of_quote h.found hescaped).symm
          · rw [if_neg heven]
            rw [decide_eq_true (by omega)] at hescaped
            rw [h.findFrom_eq hescaped]
            cases hnext : quoteAt s (quote + 1) with
            | none => rfl
            | some quote' =>
                obtain ⟨hstart, hfound, -⟩ := quoteAt_eq_some hnext
                have hcount := h.restart hstart hfound
                have hquote' := hcount.length
                exact ih hcount (by omega)
        · rw [if_neg hbase]
          exact ih (h.succ hback (by omega)) (by omega)
      · rw [if_neg hback]
        have hescaped := h.escapedAt_quote hback
        by_cases hodd : i % 2 = 1
        · rw [if_pos hodd, Option.map_some]
          rw [decide_eq_false (by omega)] at hescaped
          exact (findFrom_of_quote h.found hescaped).symm
        · rw [if_neg hodd]
          rw [decide_eq_true (by omega)] at hescaped
          rw [h.findFrom_eq hescaped]
          cases hnext : quoteAt s (quote + 1) with
          | none => rfl
          | some quote' =>
              obtain ⟨hstart, hfound, -⟩ := quoteAt_eq_some hnext
              have hcount := h.next hstart hfound
              have hquote' := hcount.length
              have hq : ¬ quote' + 1 = q + 1 := by
                have hin := h.inside
                omega
              dsimp only
              rw [if_neg hq, Option.bind_some]
              exact ih hcount (by omega)

def quotePosition (fuel : Nat) (s : Str) : Option Nat :=
  (quoteAt s 0).bind fun quote =>
    if quote = 0 then some 0 else quoteFindLoop s fuel 0 quote 1

theorem drop_quotePosition {s : Str} {fuel : Nat} (hfuel : 2 * s.length + 2 ≤ fuel) :
    (quotePosition fuel s).map (s.drop ·) = findQuote false s := by
  have hescaped : escapedAt s 0 = false := by
    rw [escapedAt, List.take_zero, Quoted.escapedAfter_nil]
  have hzero := findFrom_eq_quoteAt s 0
  rw [findFrom, hescaped, List.drop_zero] at hzero
  rw [hzero, quotePosition]
  cases hquote : quoteAt s 0 with
  | none => rfl
  | some quote =>
      obtain ⟨-, hfound, -⟩ := quoteAt_eq_some hquote
      rw [Option.bind_some, Option.bind_some]
      cases quote with
      | zero => rw [if_pos rfl, findFrom_of_quote hfound hescaped, Option.map_some]
      | succ quote =>
          have hcount := QuoteCount.first hfound
          have hlength := hcount.length
          rw [if_neg (by omega)]
          exact quoteFindLoop_eq hcount (by omega)

theorem osipQuoteFind_eq (s : Str) : osipQuoteFind s = findQuote false s := by
  rw [← drop_quotePosition (Nat.le_refl _), osipQuoteFind, quotePosition]
  cases hquote : quoteAt s 0 with
  | none => rfl
  | some quote =>
      cases quote with
      | zero =>
          rw [Option.bind_some, if_pos rfl, Option.map_some, List.drop_zero]
          rfl
      | succ quote =>
          rw [Option.bind_some, if_neg (by omega)]
          rfl

end Exosip.CString
