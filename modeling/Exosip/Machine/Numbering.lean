import Mathlib.Data.List.Induction
import Mathlib.Data.List.Count
import Mathlib.Logic.Function.Basic

/-! Sequences of events that carry numbers: an event is numbered by its place among the events
of its key. -/
namespace Machine

universe u v w

variable {α : Type u} {κ : Type v} {ν : Type w} [DecidableEq κ]
variable (key : α → κ)

/-- How many of the events have the key. -/
def occurrences (events : List α) (k : κ) : Nat := (events.map key).count k

@[simp] theorem occurrences_nil (k : κ) : occurrences key [] k = 0 := rfl

theorem occurrences_append (events events' : List α) (k : κ) :
    occurrences key (events ++ events') k = occurrences key events k + occurrences key events' k := by
  rw [occurrences, List.map_append, List.count_append]
  rfl

theorem occurrences_concat (events : List α) (a : α) (k : κ) :
    occurrences key (events ++ [a]) k = occurrences key events k + if key a = k then 1 else 0 := by
  rw [occurrences_append]
  by_cases hkey : key a = k
  · simp [occurrences, hkey]
  · simp [occurrences, hkey]

theorem occurrences_eq_zero {events : List α} {k : κ} :
    occurrences key events k = 0 ↔ ∀ a ∈ events, key a ≠ k := by
  rw [occurrences, List.count_eq_zero, List.mem_map]
  simp

variable (number : α → Option ν) (label : Nat → ν)

/-- An event that carries a number carries the label of its place among the events of its key,
counted from one. -/
def Numbered (events : List α) : Prop :=
  ∀ before a after, events = before ++ a :: after →
    ∀ n ∈ number a, n = label (occurrences key before (key a) + 1)

theorem numbered_nil : Numbered key number label [] := by
  intro before a after h
  exact absurd h.symm (List.append_ne_nil_of_right_ne_nil _ (List.cons_ne_nil _ _))

theorem numbered_concat_iff {events : List α} {a : α} :
    Numbered key number label (events ++ [a]) ↔
      Numbered key number label events ∧
        ∀ n ∈ number a, n = label (occurrences key events (key a) + 1) := by
  constructor
  · intro h
    refine ⟨fun before b after hevents => h before b (after ++ [a]) ?_, h events a [] rfl⟩
    rw [hevents, List.append_assoc, List.cons_append]
  · intro h before b after hevents
    cases after using List.reverseRecOn with
    | nil =>
        have hsplit := List.append_inj' hevents rfl
        rw [← hsplit.1, ← List.singleton_inj.1 hsplit.2]
        exact h.2
    | append_singleton after last =>
        rw [← List.cons_append, ← List.append_assoc] at hevents
        exact h.1 before b after (List.append_inj' hevents rfl).1

variable {key number label}

theorem Numbered.getElem? {events : List α} (h : Numbered key number label events) {i : Nat} {a : α}
    (ha : events[i]? = some a) :
    ∀ n ∈ number a, n = label (occurrences key (events.take i) (key a) + 1) := by
  obtain ⟨hi, rfl⟩ := List.getElem?_eq_some_iff.1 ha
  apply h (events.take i) events[i] (events.drop (i + 1))
  rw [← List.drop_eq_getElem_cons hi, List.take_append_drop]

theorem Numbered.pairwise (hlabel : Function.Injective label) {events : List α}
    (h : Numbered key number label events) :
    events.Pairwise fun a b => key a = key b → ∀ n ∈ number a, n ∉ number b := by
  induction events using List.reverseRecOn with
  | nil => exact List.Pairwise.nil
  | append_singleton events b ih =>
      rw [numbered_concat_iff] at h
      refine List.pairwise_append.2 ⟨ih h.1, List.pairwise_singleton _ b, ?_⟩
      intro a ha b' hb' hkey n hn hn'
      rw [List.mem_singleton.1 hb'] at hkey hn'
      obtain ⟨before, after, hevents⟩ := List.append_of_mem ha
      have hfirst := h.1 before a after hevents n hn
      have hsecond := h.2 n hn'
      have hplaces := hlabel (hfirst.symm.trans hsecond)
      have hcount : occurrences key events (key b) =
          occurrences key before (key a) + (1 + occurrences key after (key a)) := by
        rw [hevents, occurrences_append, ← hkey, ← List.singleton_append, occurrences_append]
        simp [occurrences]
      omega

end Machine
