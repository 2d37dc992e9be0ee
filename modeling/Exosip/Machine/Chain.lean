import Mathlib.Data.List.Induction
import Mathlib.Data.List.Nodup
import Mathlib.Logic.Function.Basic
import Mathlib.Tactic.Common

/-! Singly linked chains of cells in a memory that they share with others. A link is the head
pointer or the field of a cell; whatever is done to a chain is done by a write through a link. -/
namespace Machine

variable {ι α : Type}

structure Cell (ι α : Type) where
  next : Option ι
  element : α

inductive Link (ι : Type)
  | head
  | next (p : ι)

/-- The head pointer of a chain and the cells of the memory. -/
structure Chain (ι α : Type) where
  heap : ι → Option (Cell ι α)
  node : Option ι

/-- The cells from one pointer up to another, with what they hold. -/
def Segment (heap : ι → Option (Cell ι α)) : Option ι → List (ι × α) → Option ι → Prop
  | p, [], q => p = q
  | p, c :: cells, q =>
      p = some c.1 ∧ ∃ next, heap c.1 = some ⟨next, c.2⟩ ∧ Segment heap next cells q

namespace Chain

/-- `*link`, none when the link is in a cell that is not there. -/
def read (m : Chain ι α) : Link ι → Option (Option ι)
  | .head => some m.node
  | .next p => (m.heap p).map Cell.next

def element (m : Chain ι α) (p : ι) : Option α := (m.heap p).map Cell.element

/-- `n` times `p = p->next`. -/
def walk (m : Chain ι α) : Nat → Option ι → Option (Option ι)
  | 0, p => some p
  | _ + 1, none => none
  | n + 1, some p => (m.read (.next p)).bind (m.walk n)

section Write

variable [DecidableEq ι]

/-- `*link = p`. -/
def write (m : Chain ι α) (link : Link ι) (p : Option ι) : Option (Chain ι α) :=
  match link with
  | .head => some { m with node := p }
  | .next a => (m.heap a).map fun c =>
      { m with heap := Function.update m.heap a (some { c with next := p }) }

/-- A block that was just allocated becomes this cell. -/
def store (m : Chain ι α) (a : ι) (c : Cell ι α) : Chain ι α :=
  { m with heap := Function.update m.heap a (some c) }

def free (m : Chain ι α) (a : ι) : Option (Chain ι α) :=
  (m.heap a).map fun _ => { m with heap := Function.update m.heap a none }

end Write

def linkBehind (cells : List (ι × α)) : Link ι :=
  match cells.getLast? with
  | none => .head
  | some c => .next c.1

/-- The pointer to the first of these cells. -/
def start (cells : List (ι × α)) : Option ι := cells.head?.map Prod.fst

/-- The chain consists of these cells. The rest of the memory is as it was found. -/
structure Holds (m : Chain ι α) (found : ι → Option (Cell ι α)) (cells : List (ι × α)) : Prop where
  chain : Segment m.heap m.node cells none
  nodup : (cells.map Prod.fst).Nodup
  rest : ∀ a, a ∉ cells.map Prod.fst → m.heap a = found a
  own : ∀ a ∈ cells.map Prod.fst, found a = none

end Chain

/-! ### Segments -/

namespace Segment

variable {heap : ι → Option (Cell ι α)} {p q : Option ι} {xs ys cells : List (ι × α)}

theorem append : Segment heap p (xs ++ ys) q ↔ ∃ r, Segment heap p xs r ∧ Segment heap r ys q := by
  induction xs generalizing p with
  | nil =>
      rw [List.nil_append]
      constructor
      · intro h
        exact ⟨p, rfl, h⟩
      · rintro ⟨r, rfl, h⟩
        exact h
  | cons c xs ih =>
      rw [List.cons_append]
      constructor
      · rintro ⟨hp, next, hcell, h⟩
        obtain ⟨r, hxs, hys⟩ := ih.1 h
        exact ⟨r, ⟨hp, next, hcell, hxs⟩, hys⟩
      · rintro ⟨r, ⟨hp, next, hcell, hxs⟩, hys⟩
        exact ⟨hp, next, hcell, ih.2 ⟨r, hxs, hys⟩⟩

theorem eq_start (h : Segment heap p cells none) : p = Chain.start cells := by
  cases cells with
  | nil => exact h
  | cons c cells => exact h.1

theorem live (h : Segment heap p cells q) {a : ι} (ha : a ∈ cells.map Prod.fst) :
    heap a ≠ none := by
  induction cells generalizing p with
  | nil => cases ha
  | cons c cells ih =>
      obtain ⟨-, next, hcell, hrest⟩ := h
      rw [List.map_cons, List.mem_cons] at ha
      rcases ha with rfl | ha
      · rw [hcell]
        exact Option.some_ne_none _
      · exact ih hrest ha

theorem congr {heap' : ι → Option (Cell ι α)} (h : Segment heap p cells q)
    (heq : ∀ a ∈ cells.map Prod.fst, heap' a = heap a) : Segment heap' p cells q := by
  induction cells generalizing p with
  | nil => exact h
  | cons c cells ih =>
      obtain ⟨hp, next, hcell, hrest⟩ := h
      refine ⟨hp, next, ?_, ih hrest ?_⟩
      · rw [heq c.1 List.mem_cons_self, hcell]
      · intro a ha
        exact heq a (List.mem_cons_of_mem _ ha)

theorem update [DecidableEq ι] (h : Segment heap p cells q) {a : ι}
    (ha : a ∉ cells.map Prod.fst) (c : Option (Cell ι α)) :
    Segment (Function.update heap a c) p cells q := by
  apply h.congr
  intro b hb
  exact Function.update_of_ne (by rintro rfl; exact ha hb) _ _

end Segment

namespace Chain

variable {m : Chain ι α} {found : ι → Option (Cell ι α)} {xs ys cells : List (ι × α)}

theorem linkBehind_nil : linkBehind ([] : List (ι × α)) = .head := rfl

theorem linkBehind_concat (xs : List (ι × α)) (c : ι × α) :
    linkBehind (xs ++ [c]) = .next c.1 := by
  rw [linkBehind, List.getLast?_concat]

theorem Holds.node_eq (h : m.Holds found cells) : m.node = start cells := h.chain.eq_start

theorem Holds.cell {c : ι × α} (h : m.Holds found (xs ++ c :: ys)) :
    m.heap c.1 = some ⟨start ys, c.2⟩ := by
  obtain ⟨r, -, hc⟩ := Segment.append.1 h.chain
  obtain ⟨-, next, hcell, hys⟩ := hc
  rw [hcell, hys.eq_start]

theorem Holds.read_linkBehind (h : m.Holds found (xs ++ ys)) :
    m.read (linkBehind xs) = some (start ys) := by
  induction xs using List.reverseRecOn with
  | nil =>
      rw [linkBehind_nil, read, h.node_eq]
      rfl
  | append_singleton xs c ih =>
      rw [List.append_assoc, List.singleton_append] at h
      rw [linkBehind_concat, read, h.cell]
      rfl

theorem Holds.walk_eq (h : m.Holds found (xs ++ ys)) :
    m.walk xs.length m.node = some (start ys) := by
  have hwalk : ∀ (zs : List (ι × α)) (p : Option ι), Segment m.heap p (zs ++ ys) none →
      m.walk zs.length p = some (start ys) := by
    intro zs
    induction zs with
    | nil =>
        intro p hp
        rw [List.length_nil, walk, hp.eq_start]
        rfl
    | cons c zs ih =>
        intro p hp
        obtain ⟨rfl, next, hcell, hrest⟩ := hp
        rw [List.length_cons, walk, read, hcell]
        exact ih next hrest
  exact hwalk xs m.node h.chain

theorem Holds.walk_pred (h : m.Holds found cells) {k : Nat} (hpos : 0 < k)
    (hle : k ≤ cells.length) :
    ∃ p, m.walk (k - 1) m.node = some (some p) ∧ linkBehind (cells.take k) = .next p := by
  obtain ⟨k, rfl⟩ := Nat.exists_eq_succ_of_ne_zero (Nat.ne_of_gt hpos)
  have htake : cells.take (k + 1) = cells.take k ++ [cells[k]] := 
    List.take_succ_eq_append_getElem hle
  have hsplit : cells = cells.take k ++ cells[k] :: cells.drop (k + 1) := by
    rw [← List.drop_eq_getElem_cons, List.take_append_drop]
  have hlength : (cells.take k).length = k := List.length_take_of_le (Nat.le_of_succ_le hle)
  rw [hsplit] at h
  have hwalk := h.walk_eq
  rw [hlength] at hwalk
  exact ⟨cells[k].1, hwalk, by rw [htake, linkBehind_concat]⟩

section Write

variable [DecidableEq ι]

theorem Holds.write_start (h : m.Holds found (xs ++ ys)) :
    m.write (linkBehind xs) (start ys) = some m := by
  induction xs using List.reverseRecOn with
  | nil =>
      have hnode : m.node = start ys := h.node_eq
      rw [linkBehind_nil, write, ← hnode]
  | append_singleton xs c ih =>
      rw [List.append_assoc, List.singleton_append] at h
      have hcell := h.cell
      have hsame : Function.update m.heap c.1 (some ⟨start ys, c.2⟩) = m.heap := by
        rw [← hcell, Function.update_eq_self]
      rw [linkBehind_concat, write, hcell, Option.map_some, hsame]

/-- A write through the link behind some cells: those stay, and what the pointer leads to
follows them. -/
theorem Holds.write_linkBehind (h : m.Holds found (xs ++ ys)) (p : Option ι) :
    ∃ m', m.write (linkBehind xs) p = some m' ∧ Segment m'.heap m'.node xs p ∧
      ∀ a, a ∉ xs.map Prod.fst → m'.heap a = m.heap a := by
  induction xs using List.reverseRecOn with
  | nil => exact ⟨{ m with node := p }, rfl, rfl, fun a _ => rfl⟩
  | append_singleton xs c ih =>
      rw [List.append_assoc, List.singleton_append] at h
      refine ⟨{ m with heap := Function.update m.heap c.1 (some ⟨p, c.2⟩) }, ?_, ?_, ?_⟩
      · rw [linkBehind_concat, write, h.cell]
        rfl
      · have hnodup := h.nodup
        rw [List.map_append, List.map_cons, List.nodup_append] at hnodup
        have hc : c.1 ∉ xs.map Prod.fst := fun hmem =>
          hnodup.2.2 c.1 hmem c.1 List.mem_cons_self rfl
        obtain ⟨r, hxs, hr, -⟩ := Segment.append.1 h.chain
        rw [Segment.append]
        exact ⟨r, hxs.update hc _, hr, p, Function.update_self .., rfl⟩
      · intro a ha
        have hne : a ≠ c.1 := by
          rintro rfl
          exact ha (by simp)
        exact Function.update_of_ne hne _ _

theorem Holds.insert (h : m.Holds found (xs ++ ys)) {a : ι} (ha : m.heap a = none) (el : α) :
    ∃ m', m.write (linkBehind xs) (some a) = some m' ∧
      (m'.store a ⟨start ys, el⟩).Holds found (xs ++ (a, el) :: ys) := by
  obtain ⟨m', hwrite, hxs, hsame⟩ := h.write_linkBehind (some a)
  have hnotMem : a ∉ (xs ++ ys).map Prod.fst := fun hmem => h.chain.live hmem ha
  have hsplit := hnotMem
  rw [List.map_append, List.mem_append, not_or] at hsplit
  have hnodup := h.nodup
  rw [List.map_append, List.nodup_append] at hnodup
  obtain ⟨r, -, hys⟩ := Segment.append.1 h.chain
  have hys' : Segment m'.heap (start ys) ys none := by
    rw [← hys.eq_start]
    apply hys.congr
    intro b hb
    exact hsame b fun hmem => hnodup.2.2 b hmem b hb rfl
  refine ⟨m', hwrite, ?_, ?_, ?_, ?_⟩
  · rw [Segment.append]
    exact ⟨some a, hxs.update hsplit.1 _, rfl, start ys, Function.update_self ..,
      hys'.update hsplit.2 _⟩
  · have hperm : (xs ++ (a, el) :: ys).map Prod.fst |>.Perm (a :: (xs ++ ys).map Prod.fst) := by
      rw [List.map_append, List.map_append, List.map_cons]
      exact List.perm_middle
    rw [hperm.nodup_iff, List.nodup_cons]
    exact ⟨hnotMem, h.nodup⟩
  · intro b hb
    rw [List.map_append, List.map_cons, List.mem_append, List.mem_cons, not_or, not_or] at hb
    have hrest := h.rest b (by rw [List.map_append, List.mem_append, not_or]; exact ⟨hb.1, hb.2.2⟩)
    rw [← hrest, ← hsame b hb.1]
    exact Function.update_of_ne hb.2.1 _ _
  · intro b hb
    rw [List.map_append, List.map_cons, List.mem_append, List.mem_cons] at hb
    rcases hb with hb | rfl | hb
    · exact h.own b (by rw [List.map_append, List.mem_append]; exact Or.inl hb)
    · rw [← h.rest b hnotMem, ha]
    · exact h.own b (by rw [List.map_append, List.mem_append]; exact Or.inr hb)

theorem Holds.erase {c : ι × α} (h : m.Holds found (xs ++ c :: ys)) :
    ∃ m' m'', m.write (linkBehind xs) (start ys) = some m' ∧ m'.free c.1 = some m'' ∧
      m''.Holds found (xs ++ ys) := by
  obtain ⟨m', hwrite, hxs, hsame⟩ := h.write_linkBehind (start ys)
  have hnodup := h.nodup
  rw [List.map_append, List.map_cons, List.nodup_append, List.nodup_cons] at hnodup
  obtain ⟨hnodup_xs, ⟨hc_ys, hnodup_ys⟩, hdisjoint⟩ := hnodup
  have hc_xs : c.1 ∉ xs.map Prod.fst := fun hmem => hdisjoint c.1 hmem c.1 List.mem_cons_self rfl
  obtain ⟨r, -, -, next, hcell, hys⟩ := Segment.append.1 h.chain
  have hys' : Segment m'.heap (start ys) ys none := by
    rw [← hys.eq_start]
    apply hys.congr
    intro b hb
    exact hsame b fun hmem => hdisjoint b hmem b (List.mem_cons_of_mem _ hb) rfl
  refine ⟨m', { m' with heap := Function.update m'.heap c.1 none }, hwrite, ?_, ?_, ?_, ?_, ?_⟩
  · rw [free, hsame c.1 hc_xs, hcell]
    rfl
  · rw [Segment.append]
    exact ⟨start ys, hxs.update hc_xs _, hys'.update hc_ys _⟩
  · rw [List.map_append, List.nodup_append]
    exact ⟨hnodup_xs, hnodup_ys, fun a ha b hb => hdisjoint a ha b (List.mem_cons_of_mem _ hb)⟩
  · intro b hb
    rw [List.map_append, List.mem_append, not_or] at hb
    by_cases hbc : b = c.1
    · rw [hbc, h.own c.1 (by simp)]
      exact Function.update_self ..
    · have hrest := h.rest b (by
        rw [List.map_append, List.map_cons, List.mem_append, List.mem_cons, not_or, not_or]
        exact ⟨hb.1, hbc, hb.2⟩)
      rw [← hrest, ← hsame b hb.1]
      exact Function.update_of_ne hbc _ _
  · intro b hb
    rw [List.map_append, List.mem_append] at hb
    refine h.own b ?_
    rw [List.map_append, List.map_cons, List.mem_append, List.mem_cons]
    rcases hb with hb | hb
    · exact Or.inl hb
    · exact Or.inr (Or.inr hb)

end Write
end Chain
end Machine
