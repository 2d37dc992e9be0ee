import Mathlib.Data.List.Perm.Basic

/-! A queue that takes elements at its end or ahead of all others, and gives out the first
one. A history of the queue is legal when every element that it gives out was the first. -/
namespace Machine
namespace Queue

universe u

variable {α : Type u}

inductive Point (α : Type u) where
  | add (a : α)
  | insert (a : α)
  | take (a : α)

/-- The history is legal and leaves the queue. -/
inductive Legal : List (Point α) → List α → Prop
  | start : Legal [] []
  | add {points : List (Point α)} {queue : List α} (a : α) :
      Legal points queue → Legal (points ++ [.add a]) (queue ++ [a])
  | insert {points : List (Point α)} {queue : List α} (a : α) :
      Legal points queue → Legal (points ++ [.insert a]) (a :: queue)
  | take {points : List (Point α)} {queue : List α} (a : α) :
      Legal points (a :: queue) → Legal (points ++ [.take a]) queue

namespace Point

def put : Point α → Option α
  | add a | insert a => some a
  | take _ => none

def taken : Point α → Option α
  | take a => some a
  | add _ | insert _ => none

end Point

variable {points : List (Point α)} {queue : List α}

theorem Legal.perm (h : Legal points queue) :
    (points.filterMap Point.put).Perm (points.filterMap Point.taken ++ queue) := by
  induction h with
  | start => exact .nil
  | @add points queue a _ ih =>
      rw [List.filterMap_append, List.filterMap_append, List.append_assoc]
      have hend := ih.append_right [a]
      rw [List.append_assoc] at hend
      exact hend
  | @insert points queue a _ ih =>
      rw [List.filterMap_append, List.filterMap_append, List.append_assoc]
      have hend := ih.append_right [a]
      rw [List.append_assoc] at hend
      exact hend.trans ((List.perm_append_singleton a queue).append_left _)
  | @take points queue a _ ih =>
      rw [List.filterMap_append, List.filterMap_append, List.append_assoc]
      exact (List.append_nil _).symm ▸ ih

/-- Elements that are added, as far as they can be told from inserted ones, are given out in
the order they were added. -/
theorem Legal.inOrder (h : Legal points queue) {p : α → Bool}
    (hadd : ∀ a, .add a ∈ points → p a = true) (hinsert : ∀ a, .insert a ∈ points → p a = false) :
    (points.filterMap Point.put).filter p =
      (points.filterMap Point.taken).filter p ++ queue.filter p := by
  induction h with
  | start => rfl
  | @add points queue a _ ih =>
      have ih := ih (fun b hb => hadd b (List.mem_append_left _ hb))
        (fun b hb => hinsert b (List.mem_append_left _ hb))
      rw [List.filterMap_append, List.filterMap_append, List.filter_append, ih, List.filter_append,
        List.filter_append]
      simp [Point.put, Point.taken]
  | @insert points queue a _ ih =>
      have ih := ih (fun b hb => hadd b (List.mem_append_left _ hb))
        (fun b hb => hinsert b (List.mem_append_left _ hb))
      have ha := hinsert a (List.mem_append_right _ (List.mem_singleton_self _))
      rw [List.filterMap_append, List.filterMap_append, List.filter_append, ih, List.filter_append,
        List.filter_cons]
      simp [Point.put, Point.taken, ha]
  | @take points queue a _ ih =>
      have ih := ih (fun b hb => hadd b (List.mem_append_left _ hb))
        (fun b hb => hinsert b (List.mem_append_left _ hb))
      rw [List.filterMap_append, List.filterMap_append, List.filter_append, ih, List.filter_append,
        List.filter_cons]
      by_cases ha : p a = true <;> simp [Point.put, Point.taken, ha]

end Queue
end Machine
