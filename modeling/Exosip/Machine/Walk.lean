import Mathlib.Data.List.Nodup
import Mathlib.Tactic.Common

/-! Walks along a linked list whose body may unlink and free elements: the link of an element
is followed behind its body, or read and kept before it. An element that is not in the list any
more is freed, and must not be looked at. -/
namespace Machine

universe u v

/-- How a walk ends. -/
inductive WalkEnd (σ : Type u) (α : Type v) where
  | ended (s : σ)
  | freed (a : α)
  | running
  deriving DecidableEq

section Loops

variable {σ : Type u} {α : Type v} [DecidableEq α]

/-- The element behind this one, if there is one; there is no answer for one that is not in the
list. -/
def follow : List α → α → Option (Option α)
  | [], _ => none
  | b :: l, a => if b = a then some l.head? else follow l a

variable (listed : σ → List α)

/-- `for (a = first; a != NULL; a = a->next)`. The body has no result when it goes on to use
an element that is not in the list any more. -/
def walk (body : σ → α → Option σ) : Nat → σ → Option α → List α × WalkEnd σ α
  | _, s, none => ([], .ended s)
  | 0, _, some _ => ([], .running)
  | fuel + 1, s, some a =>
      if a ∈ listed s then
        match body s a with
        | none => ([a], .freed a)
        | some s' =>
            match follow (listed s') a with
            | none => ([a], .freed a)
            | some next =>
                let rest := walk body fuel s' next
                (a :: rest.1, rest.2)
      else ([], .freed a)

/-- `for (a = first; a != NULL; a = next) { next = a->next; ... }`. The body also tells whether
the loop goes on. -/
def walkSaved (body : σ → α → Option (σ × Bool)) : Nat → σ → Option α → List α × WalkEnd σ α
  | _, s, none => ([], .ended s)
  | 0, _, some _ => ([], .running)
  | fuel + 1, s, some a =>
      match follow (listed s) a with
      | none => ([], .freed a)
      | some next =>
          match body s a with
          | none => ([a], .freed a)
          | some (s', false) => ([a], .ended s')
          | some (s', true) =>
              let rest := walkSaved body fuel s' next
              (a :: rest.1, rest.2)

end Loops

variable {σ : Type u} {α : Type v} [DecidableEq α] {listed : σ → List α}

/-! ### Links -/

theorem follow_eq_none {l : List α} {a : α} (h : a ∉ l) : follow l a = none := by
  induction l with
  | nil => rfl
  | cons b l ih =>
      rw [List.mem_cons, not_or] at h
      rw [follow, if_neg (Ne.symm h.1), ih h.2]

theorem follow_append {before after : List α} {a : α} (h : (before ++ a :: after).Nodup) :
    follow (before ++ a :: after) a = some after.head? := by
  induction before with
  | nil => rw [List.nil_append, follow, if_pos rfl]
  | cons b before ih =>
      rw [List.cons_append, List.nodup_cons] at h
      have hb : b ≠ a := by
        rintro rfl
        exact h.1 (List.mem_append_right _ List.mem_cons_self)
      rw [List.cons_append, follow, if_neg hb, ih h.2]

/-! ### The link is followed behind the body -/

section Walk

variable {body : σ → α → Option σ} {good : σ → α → Prop}

/-- A body that keeps the list, and what is good about the other elements, for good ones and
unlinks the others, walks over elements that are all good. -/
theorem walk_of_good
    (hkeep : ∀ s a, a ∈ listed s → good s a → ∃ s', body s a = some s' ∧
      listed s' = listed s ∧ ∀ b, b ≠ a → (good s' b ↔ good s b))
    {s : σ} {before after : List α} (hlist : listed s = before ++ after)
    (hnodup : (listed s).Nodup) (hgood : ∀ a ∈ after, good s a) :
    ∃ s', walk listed body after.length s after.head? = (after, .ended s') ∧
      listed s' = listed s := by
  induction after generalizing s before with
  | nil => exact ⟨s, rfl, rfl⟩
  | cons a after ih =>
      have hmem : a ∈ listed s := by
        rw [hlist]
        exact List.mem_append_right _ List.mem_cons_self
      obtain ⟨s', hbody, hlist', hothers⟩ := hkeep s a hmem (hgood a List.mem_cons_self)
      have hfollow : follow (listed s') a = some after.head? := by
        rw [hlist', hlist]
        rw [hlist] at hnodup
        exact follow_append hnodup
      have hafter : ∀ b ∈ after, good s' b := by
        intro b hb
        have hne : b ≠ a := by
          rintro rfl
          rw [hlist] at hnodup
          exact (List.nodup_cons.1 (List.nodup_append.1 hnodup).2.1).1 hb
        exact (hothers b hne).2 (hgood b (List.mem_cons_of_mem _ hb))
      have hsplit : listed s' = (before ++ [a]) ++ after := by
        rw [hlist', hlist, List.append_assoc]
        rfl
      obtain ⟨s'', hrest, hlist''⟩ := ih hsplit (by rwa [hlist']) hafter
      refine ⟨s'', ?_, hlist''.trans hlist'⟩
      rw [List.head?_cons, List.length_cons, walk, if_pos hmem, hbody]
      dsimp only
      rw [hfollow]
      dsimp only
      rw [hrest]

theorem walk_of_not_good
    (hkeep : ∀ s a, a ∈ listed s → good s a → ∃ s', body s a = some s' ∧
      listed s' = listed s ∧ ∀ b, b ≠ a → (good s' b ↔ good s b))
    (hfree : ∀ s a, a ∈ listed s → ¬ good s a → ∀ s', body s a = some s' → a ∉ listed s')
    {s : σ} {before after : List α} (hlist : listed s = before ++ after)
    (hnodup : (listed s).Nodup) (hbad : ∃ a ∈ after, ¬ good s a) :
    ∃ visited a, walk listed body after.length s after.head? = (visited, .freed a) := by
  induction after generalizing s before with
  | nil =>
      obtain ⟨a, ha, -⟩ := hbad
      cases ha
  | cons a after ih =>
      have hmem : a ∈ listed s := by
        rw [hlist]
        exact List.mem_append_right _ List.mem_cons_self
      rw [List.head?_cons, List.length_cons, walk, if_pos hmem]
      by_cases ha : good s a
      · obtain ⟨s', hbody, hlist', hothers⟩ := hkeep s a hmem ha
        have hfollow : follow (listed s') a = some after.head? := by
          rw [hlist', hlist]
          rw [hlist] at hnodup
          exact follow_append hnodup
        have hafter : ∃ b ∈ after, ¬ good s' b := by
          obtain ⟨b, hb, hnot⟩ := hbad
          have hne : b ≠ a := by
            rintro rfl
            exact hnot ha
          exact ⟨b, (List.mem_cons.1 hb).resolve_left hne, fun h => hnot ((hothers b hne).1 h)⟩
        have hsplit : listed s' = (before ++ [a]) ++ after := by
          rw [hlist', hlist, List.append_assoc]
          rfl
        obtain ⟨visited, c, hrest⟩ := ih hsplit (by rwa [hlist']) hafter
        refine ⟨a :: visited, c, ?_⟩
        rw [hbody]
        dsimp only
        rw [hfollow]
        dsimp only
        rw [hrest]
      · cases hbody : body s a with
        | none => exact ⟨[a], a, rfl⟩
        | some s' =>
            refine ⟨[a], a, ?_⟩
            dsimp only
            rw [follow_eq_none (hfree s a hmem ha s' hbody)]

end Walk

/-! ### The link is read before the body -/

section WalkSaved

variable {body : σ → α → Option (σ × Bool)} {I : σ → Prop}

/-- A body that unlinks at most its own element, or ends the loop, never leads the walk to a
freed one: it visits elements in the order of the list, all of them unless it ends early. -/
theorem walkSaved_ended
    (hbody : ∀ s a before after, I s → listed s = before ++ a :: after → (listed s).Nodup →
      ∃ s' goesOn, body s a = some (s', goesOn) ∧ I s' ∧
        (goesOn = true → (listed s').Nodup ∧ ∃ before', listed s' = before' ++ after))
    {s : σ} {before after : List α} (hI : I s) (hlist : listed s = before ++ after)
    (hnodup : (listed s).Nodup) :
    ∃ s' visited, walkSaved listed body after.length s after.head? = (visited, .ended s') ∧
      visited <+: after ∧ I s' := by
  induction after generalizing s before with
  | nil => exact ⟨s, [], rfl, List.prefix_refl _, hI⟩
  | cons a after ih =>
      obtain ⟨s', goesOn, hturn, hI', hnext⟩ := hbody s a before after hI hlist hnodup
      have hfollow : follow (listed s) a = some after.head? := by
        rw [hlist] at hnodup ⊢
        exact follow_append hnodup
      rw [List.head?_cons, List.length_cons, walkSaved, hfollow]
      dsimp only
      rw [hturn]
      cases goesOn with
      | false => exact ⟨s', [a], rfl, ⟨after, rfl⟩, hI'⟩
      | true =>
          obtain ⟨hnodup', before', hlist'⟩ := hnext rfl
          obtain ⟨s'', visited, hrest, hprefix, hI''⟩ := ih hI' hlist' hnodup'
          refine ⟨s'', a :: visited, ?_, ?_, hI''⟩
          · dsimp only
            rw [hrest]
          · exact List.cons_prefix_cons.2 ⟨rfl, hprefix⟩

end WalkSaved

end Machine
