import Mathlib.Data.List.Induction
import Mathlib.Data.List.TakeWhile
import Mathlib.Tactic.Common

/-! Texts with a character that closes a quotation and one that escapes the next character. -/
namespace Machine.Quoted

variable {α : Type} [DecidableEq α] (quote escape : α)

/-- The text from the first quote on that is not escaped; the flag says that the first
character is. -/
def find : Bool → List α → Option (List α)
  | _, [] => none
  | true, _ :: s => find false s
  | false, c :: s => if c = quote then some (c :: s) else find (decide (c = escape)) s

def escapedAfter : Bool → List α → Bool
  | escaped, [] => escaped
  | true, _ :: s => escapedAfter false s
  | false, c :: s => escapedAfter (decide (c = escape)) s

/-- No quote of the text closes a quotation. -/
def Open (escaped : Bool) (s : List α) : Prop := find quote escape escaped s = none

instance (escaped : Bool) (s : List α) : Decidable (Open quote escape escaped s) :=
  inferInstanceAs (Decidable (_ = none))

@[simp] theorem find_nil (escaped : Bool) : find quote escape escaped [] = none := by
  unfold find
  rfl

@[simp] theorem escapedAfter_nil (escaped : Bool) : escapedAfter escape escaped [] = escaped := by
  unfold escapedAfter
  rfl

variable {quote escape}

theorem escapedAfter_append (escaped : Bool) (s t : List α) :
    escapedAfter escape escaped (s ++ t) =
      escapedAfter escape (escapedAfter escape escaped s) t := by
  induction s generalizing escaped with
  | nil => rw [List.nil_append, escapedAfter_nil]
  | cons c s ih =>
      cases escaped with
      | true => exact ih false
      | false => exact ih (decide (c = escape))

/-- What is found in a text is found whatever follows. -/
theorem find_append (escaped : Bool) (s t : List α) :
    find quote escape escaped (s ++ t) =
      match find quote escape escaped s with
      | some found => some (found ++ t)
      | none => find quote escape (escapedAfter escape escaped s) t := by
  induction s generalizing escaped with
  | nil => rw [List.nil_append, find_nil, escapedAfter_nil]
  | cons c s ih =>
      cases escaped with
      | true => exact ih false
      | false =>
          rw [List.cons_append, find, find, escapedAfter]
          by_cases hquote : c = quote
          · rw [if_pos hquote, if_pos hquote]
            rfl
          · rw [if_neg hquote, if_neg hquote]
            exact ih (decide (c = escape))

theorem find_append_of_some {escaped : Bool} {s found : List α}
    (h : find quote escape escaped s = some found) (t : List α) :
    find quote escape escaped (s ++ t) = some (found ++ t) := by
  rw [find_append, h]

theorem Open.find_append {escaped : Bool} {s : List α} (h : Open quote escape escaped s)
    (t : List α) :
    find quote escape escaped (s ++ t) = find quote escape (escapedAfter escape escaped s) t := by
  rw [Quoted.find_append, h]

theorem find_eq_some_iff {escaped : Bool} {s found : List α} :
    find quote escape escaped s = some found ↔
      ∃ before rest, s = before ++ quote :: rest ∧ found = quote :: rest ∧
        Open quote escape escaped before ∧ escapedAfter escape escaped before = false := by
  constructor
  · intro h
    induction s generalizing escaped with
    | nil =>
        rw [find_nil] at h
        cases h
    | cons c s ih =>
        cases escaped with
        | true =>
            obtain ⟨before, rest, hs, hfound, hopen, hafter⟩ := ih h
            exact ⟨c :: before, rest, by rw [hs]; rfl, hfound, hopen, hafter⟩
        | false =>
            rw [find] at h
            by_cases hquote : c = quote
            · rw [if_pos hquote, Option.some.injEq] at h
              refine ⟨[], s, by rw [hquote]; rfl, by rw [← h, hquote], ?_, ?_⟩
              · exact find_nil quote escape false
              · exact escapedAfter_nil escape false
            · rw [if_neg hquote] at h
              obtain ⟨before, rest, hs, hfound, hopen, hafter⟩ := ih h
              refine ⟨c :: before, rest, by rw [hs]; rfl, hfound, ?_, hafter⟩
              rw [Open, find, if_neg hquote]
              exact hopen
  · rintro ⟨before, rest, rfl, rfl, hopen, hafter⟩
    rw [hopen.find_append, hafter, find, if_pos rfl]

theorem open_of_notMem {s : List α} (h : quote ∉ s) (escaped : Bool) :
    Open quote escape escaped s := by
  induction s generalizing escaped with
  | nil => exact find_nil quote escape escaped
  | cons c s ih =>
      rw [List.mem_cons, not_or] at h
      cases escaped with
      | true => exact ih h.2 false
      | false =>
          rw [Open, find, if_neg (Ne.symm h.1)]
          exact ih h.2 _

theorem escapedAfter_of_notMem {s : List α} (h : escape ∉ s) :
    escapedAfter escape false s = false := by
  induction s with
  | nil => exact escapedAfter_nil escape false
  | cons c s ih =>
      rw [List.mem_cons, not_or] at h
      rw [escapedAfter, decide_eq_false (Ne.symm h.1), ih h.2]

theorem escapedAfter_concat {c : α} (h : c ≠ escape) (escaped : Bool) (s : List α) :
    escapedAfter escape escaped (s ++ [c]) = false := by
  rw [escapedAfter_append]
  cases escapedAfter escape escaped s with
  | true => rw [escapedAfter, escapedAfter_nil]
  | false => rw [escapedAfter, escapedAfter_nil, decide_eq_false h]

theorem escapedAfter_replicate (k : Nat) :
    escapedAfter escape false (List.replicate k escape) = decide (k % 2 = 1) := by
  induction k using Nat.twoStepInduction with
  | zero => rw [List.replicate_zero, escapedAfter_nil]; rfl
  | one => rw [List.replicate_one, escapedAfter, escapedAfter_nil]; simp
  | more k ih _ =>
      rw [List.replicate_succ, List.replicate_succ, escapedAfter, decide_eq_true rfl, escapedAfter,
        ih, Nat.add_mod_right]

theorem escapedAfter_eq_parity (s : List α) :
    escapedAfter escape false s =
      decide ((s.reverse.takeWhile fun c => decide (c = escape)).length % 2 = 1) := by
  induction s using List.reverseRecOn with
  | nil => rw [escapedAfter_nil]; rfl
  | append_singleton s c ih =>
      rw [List.reverse_append, List.reverse_singleton, List.singleton_append, List.takeWhile_cons]
      by_cases hc : c = escape
      · rw [if_pos (decide_eq_true hc), escapedAfter_append, ih, List.length_cons]
        by_cases hodd : (s.reverse.takeWhile fun c => decide (c = escape)).length % 2 = 1
        · rw [decide_eq_true hodd, escapedAfter, escapedAfter_nil, decide_eq_false (by omega)]
        · rw [decide_eq_false hodd, escapedAfter, escapedAfter_nil, decide_eq_true hc,
            decide_eq_true (by omega)]
      · rw [if_neg (by simpa using hc), escapedAfter_concat hc]
        rfl

theorem open_iff {escaped : Bool} {s : List α} :
    Open quote escape escaped s ↔
      ∀ before rest, s = before ++ quote :: rest → escapedAfter escape escaped before = true := by
  constructor
  · rintro h before rest rfl
    by_contra hafter
    rw [Bool.not_eq_true] at hafter
    cases hbefore : find quote escape escaped before with
    | some found =>
        rw [Open, find_append_of_some hbefore] at h
        cases h
    | none =>
        rw [Open, find_eq_some_iff.2 ⟨before, rest, rfl, rfl, hbefore, hafter⟩] at h
        cases h
  · intro h
    cases hfound : find quote escape escaped s with
    | none => exact hfound
    | some found =>
        obtain ⟨before, rest, hs, -, -, hafter⟩ := find_eq_some_iff.1 hfound
        rw [h before rest hs] at hafter
        cases hafter

end Machine.Quoted
