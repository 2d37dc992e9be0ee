import Mathlib.Data.List.Sort
import Mathlib.Order.Basic

/-! Sorting by passes over neighbours that stand the wrong way round: a pass takes away one
inversion for each exchange, the passes end, and what is left is the stable sort. -/
namespace Machine

universe u v

section

variable {α : Type u} {β : Type v} [LinearOrder β] (key : α → β)

/-- The pass from the element `x` on, with its exchanges counted. -/
def bubble (x : α) : List α → List α × Nat
  | [] => ([x], 0)
  | y :: l =>
      if key y < key x then
        let rest := bubble x l
        (y :: rest.1, rest.2 + 1)
      else
        let rest := bubble y l
        (x :: rest.1, rest.2)

def pass : List α → List α × Nat
  | [] => ([], 0)
  | x :: l => bubble key x l

/-- The pairs that stand the wrong way round. -/
def inversions : List α → Nat
  | [] => 0
  | x :: l => l.countP (fun y => key y < key x) + inversions l

/-- One list is the other one sorted, in which the elements of one key stay in their order. -/
structure StableSort (l sorted : List α) : Prop where
  ascending : sorted.Pairwise fun x y => key x ≤ key y
  same : ∀ k, sorted.filter (fun x => key x = k) = l.filter fun x => key x = k

theorem bubble_perm (x : α) (l : List α) : (bubble key x l).1.Perm (x :: l) := by
  induction l generalizing x with
  | nil => exact List.Perm.refl _
  | cons y l ih =>
      unfold bubble
      split
      · exact ((ih x).cons y).trans (List.Perm.swap x y l)
      · exact (ih y).cons x

theorem bubble_inversions (x : α) (l : List α) :
    inversions key (bubble key x l).1 + (bubble key x l).2 = inversions key (x :: l) := by
  induction l generalizing x with
  | nil => rfl
  | cons y l ih =>
      unfold bubble
      split
      · next hlt =>
          have hcount := (bubble_perm key x l).countP_eq fun z => key z < key y
          have hnot : ¬ key x < key y := not_lt_of_gt hlt
          have hrest := ih x
          simp only [inversions, List.countP_cons, hlt, hnot, hcount, decide_true, decide_false,
            if_true, Bool.false_eq_true, if_false] at hrest ⊢
          omega
      · next hnot =>
          have hcount := (bubble_perm key y l).countP_eq fun z => key z < key x
          have hrest := ih y
          simp only [inversions, List.countP_cons, hnot, hcount, decide_false,
            Bool.false_eq_true, if_false] at hrest ⊢
          omega

theorem pass_inversions (l : List α) :
    inversions key (pass key l).1 + (pass key l).2 = inversions key l := by
  cases l with
  | nil => rfl
  | cons x l => exact bubble_inversions key x l

theorem bubble_filter (k : β) (x : α) (l : List α) :
    (bubble key x l).1.filter (fun z => key z = k) = (x :: l).filter fun z => key z = k := by
  induction l generalizing x with
  | nil => rfl
  | cons y l ih =>
      unfold bubble
      split
      · next hlt =>
          -- the two that are exchanged have different keys
          have hne : ¬ (key x = k ∧ key y = k) := by
            rintro ⟨hx, hy⟩
            exact absurd hlt (by rw [hx, hy]; exact lt_irrefl k)
          rw [List.filter_cons, ih x]
          by_cases hy : key y = k
          · have hx : ¬ key x = k := fun hx => hne ⟨hx, hy⟩
            simp [hx, hy]
          · simp [List.filter_cons, hy]
      · rw [List.filter_cons, ih y, List.filter_cons (x := x)]

theorem pass_filter (k : β) (l : List α) :
    (pass key l).1.filter (fun z => key z = k) = l.filter fun z => key z = k := by
  cases l with
  | nil => rfl
  | cons x l => exact bubble_filter key k x l

theorem bubble_settled {x : α} {l : List α} (h : (bubble key x l).2 = 0) :
    (bubble key x l).1 = x :: l ∧ (x :: l).Pairwise fun y z => key y ≤ key z := by
  induction l generalizing x with
  | nil => exact ⟨rfl, List.pairwise_singleton _ x⟩
  | cons y l ih =>
      unfold bubble at h ⊢
      split at h
      · exact absurd h (Nat.succ_ne_zero _)
      · next hnot =>
          have hrest := ih h
          have hle : key x ≤ key y := not_lt.mp hnot
          rw [if_neg hnot]
          refine ⟨congrArg (x :: ·) hrest.1, List.pairwise_cons.mpr ⟨?_, hrest.2⟩⟩
          intro z hz
          rw [List.mem_cons] at hz
          cases hz with
          | inl hz => rw [hz]; exact hle
          | inr hz => exact hle.trans (List.rel_of_pairwise_cons hrest.2 hz)

theorem pass_settled {l : List α} (h : (pass key l).2 = 0) :
    (pass key l).1 = l ∧ l.Pairwise fun y z => key y ≤ key z := by
  cases l with
  | nil => exact ⟨rfl, List.Pairwise.nil⟩
  | cons x l => exact bubble_settled key h

def passes (l : List α) : List α :=
  if _h : (pass key l).2 = 0 then (pass key l).1 else passes (pass key l).1
termination_by inversions key l
decreasing_by
  have hinversions := pass_inversions key l
  omega

theorem passes_stableSort (l : List α) : StableSort key l (passes key l) := by
  induction l using passes.induct key with
  | case1 l hsettled =>
      rw [passes, dif_pos hsettled, (pass_settled key hsettled).1]
      exact ⟨(pass_settled key hsettled).2, fun _ => rfl⟩
  | case2 l hmoved ih =>
      rw [passes, dif_neg hmoved]
      exact ⟨ih.ascending, fun k => (ih.same k).trans (pass_filter key k l)⟩

variable {key}

theorem StableSort.mem_iff {l sorted : List α} (h : StableSort key l sorted) (x : α) :
    x ∈ sorted ↔ x ∈ l := by
  have hx := congrArg (x ∈ ·) (h.same (key x))
  simpa using hx

theorem StableSort.trans_append {l sorted result : List α} {x : α} (h : StableSort key l sorted)
    (h' : StableSort key (sorted ++ [x]) result) : StableSort key (l ++ [x]) result where
  ascending := h'.ascending
  same k := by rw [h'.same k, List.filter_append, h.same k, ← List.filter_append]

theorem head_key_le {x y : α} {s t : List α} (hs : (x :: s).Pairwise fun x y => key x ≤ key y)
    (hfilter : ∀ k, (x :: s).filter (fun z => key z = k) = (y :: t).filter fun z => key z = k) :
    key x ≤ key y := by
  have hmem : y ∈ (x :: s).filter fun z => key z = key y := by
    rw [hfilter]
    simp
  have hy := List.mem_of_mem_filter hmem
  rw [List.mem_cons] at hy
  cases hy with
  | inl hy => rw [hy]
  | inr hy => exact List.rel_of_pairwise_cons hs hy

theorem StableSort.unique {l s t : List α} (hs : StableSort key l s) (ht : StableSort key l t) :
    s = t := by
  have hfilter (k : β) : s.filter (fun z => key z = k) = t.filter fun z => key z = k :=
    (hs.same k).trans (ht.same k).symm
  have hascending := hs.ascending
  have hascending' := ht.ascending
  clear hs ht
  induction s generalizing t with
  | nil =>
      cases t with
      | nil => rfl
      | cons y t => exact absurd (hfilter (key y)) (by simp)
  | cons x s ih =>
      cases t with
      | nil => exact absurd (hfilter (key x)) (by simp)
      | cons y t =>
          have hkey : key x = key y := le_antisymm (head_key_le hascending hfilter)
            (head_key_le hascending' fun k => (hfilter k).symm)
          have hhead := hfilter (key x)
          rw [List.filter_cons_of_pos (by simp), List.filter_cons_of_pos (by simp [hkey])] at hhead
          have hxy : x = y := (List.cons.inj hhead).1
          subst hxy
          have hrest (k : β) :
              s.filter (fun z => key z = k) = t.filter fun z => key z = k := by
            have hk := hfilter k
            by_cases hx : key x = k
            · simpa [hx] using hk
            · simpa [hx] using hk
          rw [ih hrest hascending.tail hascending'.tail]

theorem stableSort_mergeSort (l : List α) :
    StableSort key l (l.mergeSort fun x y => key x ≤ key y) := by
  have htrans (a b c : α) (hab : decide (key a ≤ key b) = true)
      (hbc : decide (key b ≤ key c) = true) : decide (key a ≤ key c) = true := by
    rw [decide_eq_true_eq] at hab hbc ⊢
    exact hab.trans hbc
  have htotal (a b : α) : (decide (key a ≤ key b) || decide (key b ≤ key a)) = true := by
    rw [Bool.or_eq_true, decide_eq_true_eq, decide_eq_true_eq]
    exact le_total _ _
  refine ⟨?_, ?_⟩
  · exact (List.pairwise_mergeSort htrans htotal l).imp fun h => of_decide_eq_true h
  · intro k
    have hpairwise : (l.filter fun z => key z = k).Pairwise
        fun x y => decide (key x ≤ key y) = true := by
      rw [List.pairwise_filter]
      apply List.pairwise_of_forall
      intro x y hx hy
      rw [decide_eq_true_eq] at hx hy ⊢
      rw [hx, hy]
    have hsub := List.sublist_mergeSort htrans htotal hpairwise List.filter_sublist
    have hfiltered := hsub.filter fun z => decide (key z = k)
    rw [List.filter_filter] at hfiltered
    simp only [Bool.and_self] at hfiltered
    have hlength := ((List.mergeSort_perm l fun x y => decide (key x ≤ key y)).filter
      fun z => decide (key z = k)).length_eq
    exact (hfiltered.eq_of_length hlength.symm).symm

theorem passes_eq_mergeSort (l : List α) :
    passes key l = l.mergeSort fun x y => key x ≤ key y :=
  (passes_stableSort key l).unique (stableSort_mergeSort l)

end

end Machine
