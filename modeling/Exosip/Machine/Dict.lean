import Mathlib.Data.List.DropRight

/-! A dictionary in which the first insertion under a key wins: what a history of insertions
and removals leaves under a key. -/
namespace Machine

universe u v

/-- A dictionary library: an insertion does not overwrite. -/
class Dict (δ : Type u) (key : outParam (Type v)) (ρ : outParam (Type v)) [DecidableEq key] where
  empty : δ
  insert : δ → key → ρ → δ
  remove : δ → key → δ
  search : δ → key → Option ρ
  search_empty : ∀ k, search empty k = none
  search_insert : ∀ d k a k',
    search (insert d k a) k' = if k' = k then (search d k).or (some a) else search d k'
  search_remove : ∀ d k k', search (remove d k) k' = if k' = k then none else search d k'

namespace Dict

variable {δ : Type u} {key ρ : Type v} [DecidableEq key] [Dict δ key ρ]

/-- A dictionary as a function. -/
instance : Dict (key → Option ρ) key ρ where
  empty _ := none
  insert d k a k' := if k' = k then (d k).or (some a) else d k'
  remove d k k' := if k' = k then none else d k'
  search d k := d k
  search_empty _ := rfl
  search_insert _ _ _ _ := rfl
  search_remove _ _ _ := rfl

inductive Op (key ρ : Type v) where
  | insert (k : key) (a : ρ)
  | remove (k : key)

namespace Op

def apply (d : δ) : Op key ρ → δ
  | insert k a => Dict.insert d k a
  | remove k => Dict.remove d k

def removes (k : key) : Op key ρ → Bool
  | insert _ _ => false
  | remove k' => k' = k

def inserted (k : key) : Op key ρ → Option ρ
  | insert k' a => if k' = k then some a else none
  | remove _ => none

end Op

/-- The first insertion under the key since the last removal of the key. -/
def firstSince (history : List (Op key ρ)) (k : key) : Option ρ :=
  (history.rtakeWhile fun op => !op.removes k).findSome? (·.inserted k)

/-- What a history leaves in the dictionary. -/
def run (history : List (Op key ρ)) : δ := history.foldl Op.apply empty

theorem search_run (history : List (Op key ρ)) (k : key) :
    search (run history : δ) k = firstSince history k := by
  induction history using List.reverseRecOn with
  | nil => exact search_empty k
  | append_singleton history op ih =>
      rw [run, List.foldl_append, List.foldl_cons, List.foldl_nil, ← run, firstSince,
        List.rtakeWhile_concat]
      cases op with
      | insert k' a =>
          have hkeep : (!(Op.insert k' a).removes k) = true := rfl
          rw [if_pos hkeep, List.findSome?_append, ← firstSince, ← ih, Op.apply, search_insert]
          by_cases hk : k = k'
          · rw [if_pos hk, hk]
            simp [Op.inserted]
          · rw [if_neg hk]
            simp [Op.inserted, Ne.symm hk]
      | remove k' =>
          rw [Op.apply, search_remove]
          by_cases hk : k = k'
          · have hgone : ¬ (!(Op.remove k' : Op key ρ).removes k) = true := by
              simp [Op.removes, hk]
            rw [if_pos hk, if_neg hgone]
            rfl
          · have hkeep : (!(Op.remove k' : Op key ρ).removes k) = true := by
              simp [Op.removes, Ne.symm hk]
            rw [if_neg hk, if_pos hkeep, List.findSome?_append, ← firstSince, ← ih]
            simp [Op.inserted]

end Dict
end Machine
