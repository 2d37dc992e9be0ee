import Exosip.Port.Fifo
import Exosip.Port.OsipList
import Mathlib.Data.List.InsertIdx

/-! Over any calls an `osip_list` is a sequence, and an iteration that removes what it likes
comes to every element. -/
namespace Exosip

open Machine

/-- Where an iterator stands: at an index, at the end, or nowhere, since another call has
inserted right before it or removed what it needs. -/
inductive Cursor
  | at (i : Nat)
  | ended
  | stale

/-- An element was inserted at `p`. -/
def Cursor.inserted (p : Nat) : Cursor → Cursor
  | .at i => if p < i then .at (i + 1) else if i < p then .at i else .stale
  | .ended => .ended
  | .stale => .stale

/-- The element at `p` was removed. -/
def Cursor.removed (p : Nat) : Cursor → Cursor
  | .at i => if i < p then .at i else .stale
  | .ended => .ended
  | .stale => .stale

def Cursor.place (i n : Nat) : Cursor := if i < n then .at i else .ended

structure Sequence (κ α : Type) where
  elems : List α
  cursor : κ → Cursor

namespace Sequence

open OsipList

variable {κ α : Type}

/-- Before any call no iterator stands anywhere. -/
def init : Sequence κ α := ⟨[], fun _ => .stale⟩

/-- Where an element is inserted: behind all others for -1 and behind the end. -/
def addIndex (n : Nat) (pos : Int) : Nat := if pos = -1 then n else min pos.toNat n

/-- The calls that are allowed: an iterator is not used any more once another call has inserted
an element at its place, or removed one there or before. -/
def Allowed (q : Sequence κ α) : ListCall κ α → Prop
  | .add _ pos => pos = -1 ∨ 0 ≤ pos
  | .remove _ => True
  | .getFirst _ => True
  | .getNext k => q.cursor k ≠ .stale
  | .iteratorRemove k => q.cursor k ≠ .stale

/-- What a call returns. -/
def Answers (q : Sequence κ α) : ListCall κ α → Ret α → Prop
  | .add _ _, ret => ret = .int (q.elems.length + 1) ∨ ret = .int osipNomem
  | .remove pos, ret =>
      ret = .int (if 0 ≤ pos ∧ pos < q.elems.length then q.elems.length - 1
        else osipUndefinedError)
  | .getFirst _, ret => ret = .element q.elems.head?
  | .getNext k, ret =>
      match q.cursor k with
      | .at i => ret = .element q.elems[i + 1]?
      | .ended => ret = .element none
      | .stale => False
  | .iteratorRemove k, ret =>
      match q.cursor k with
      | .at i => ret = .element q.elems[i + 1]?
      | .ended => ret = .element none
      | .stale => False

section After

variable [DecidableEq κ]

def setCursor (q : Sequence κ α) (k : κ) (c : Cursor) : Sequence κ α :=
  { q with cursor := Function.update q.cursor k c }

/-- The sequence behind a call that returned this. -/
def after (q : Sequence κ α) (ret : Ret α) : ListCall κ α → Sequence κ α
  | .add el pos =>
      match ret with
      | .int code =>
          if code = osipNomem then q
          else
            ⟨q.elems.insertIdx (addIndex q.elems.length pos) el,
              fun k => (q.cursor k).inserted (addIndex q.elems.length pos)⟩
      | .element _ => q
  | .remove pos =>
      if 0 ≤ pos ∧ pos < q.elems.length then
        ⟨q.elems.eraseIdx pos.toNat, fun k => (q.cursor k).removed pos.toNat⟩
      else q
  | .getFirst k => q.setCursor k (.place 0 q.elems.length)
  | .getNext k =>
      match q.cursor k with
      | .at i => q.setCursor k (.place (i + 1) q.elems.length)
      | _ => q
  | .iteratorRemove k =>
      match q.cursor k with
      | .at i =>
          (⟨q.elems.eraseIdx i, fun k => (q.cursor k).removed i⟩ : Sequence κ α).setCursor k
            (.place i (q.elems.length - 1))
      | _ => q

end After
end Sequence

/-! ### One call -/

namespace OsipList

variable {ι κ α : Type} {found : ι → Option (Cell ι α)} {li : OsipList ι α}
  {cells : List (ι × α)} {it : ListIterator ι}

/-- The list consists of these nodes, which are counted. -/
structure Contains (li : OsipList ι α) (found : ι → Option (Cell ι α)) (cells : List (ι × α)) :
    Prop where
  holds : li.mem.Holds found cells
  counted : li.nbElt = cells.length

/-- The iterator stands where the cursor says; what was inserted before it is not counted in
its `pos`. -/
def Stands (it : ListIterator ι) (cells : List (ι × α)) : Cursor → Prop
  | .at i =>
      ∃ c, cells[i]? = some c ∧ it.actual = some c.1 ∧ it.prev = Chain.linkBehind (cells.take i) ∧
        it.pos ≤ i
  | .ended => it.actual = none
  | .stale => True

theorem Stands.before {i : Nat} (h : Stands it cells (.at i)) {cells' : List (ι × α)} {p : Nat}
    (hsame : cells'.take p = cells.take p) (hi : i < p) : Stands it cells' (.at i) := by
  obtain ⟨c, hc, hactual, hprev, hpos⟩ := h
  refine ⟨c, ?_, hactual, ?_, hpos⟩
  · rw [← List.getElem?_take_of_lt hi, hsame, List.getElem?_take_of_lt hi, hc]
  · have htake := congrArg (List.take i) hsame
    rw [List.take_take, List.take_take, min_eq_left hi.le] at htake
    rw [hprev, htake]

theorem linkBehind_take {i : Nat} {c : ι × α} (h : cells[i]? = some c) :
    Chain.linkBehind (cells.take (i + 1)) = .next c.1 := by
  obtain ⟨hi, hget⟩ := List.getElem?_eq_some_iff.1 h
  rw [List.take_succ_eq_append_getElem hi, Chain.linkBehind_concat, hget]

theorem take_insert (cells : List (ι × α)) {p : Nat} (hp : p ≤ cells.length) (c : ι × α) :
    (cells.take p ++ c :: cells.drop p).take p = cells.take p := by
  have hlength : (cells.take p).length = p := List.length_take_of_le hp
  rw [List.take_append_of_le_length (by omega), List.take_take, min_self]

theorem getElem?_insert (cells : List (ι × α)) {p i : Nat} (hp : p ≤ i) (hi : i < cells.length)
    (c : ι × α) : (cells.take p ++ c :: cells.drop p)[i + 1]? = cells[i]? := by
  have hlength : (cells.take p).length = p := List.length_take_of_le (by omega)
  have hindex : i + 1 - p = i - p + 1 := by omega
  have hsum : p + (i - p) = i := by omega
  rw [List.getElem?_append_right (by omega), hlength, hindex, List.getElem?_cons_succ,
    List.getElem?_drop, hsum]

theorem Stands.inserted {cursor : Cursor} (h : Stands it cells cursor) {p : Nat}
    (hp : p ≤ cells.length) (c : ι × α) :
    Stands it (cells.take p ++ c :: cells.drop p) (cursor.inserted p) := by
  cases cursor with
  | «at» i =>
      rw [Cursor.inserted]
      split_ifs with hbefore hbehind
      · obtain ⟨node, hnode, hactual, hprev, hpos⟩ := h
        have hi := (List.getElem?_eq_some_iff.1 hnode).1
        obtain ⟨j, rfl⟩ := Nat.exists_eq_succ_of_ne_zero (Nat.ne_of_gt (Nat.zero_lt_of_lt hbefore))
        have hfront := List.getElem?_eq_getElem (Nat.lt_of_succ_lt hi)
        refine ⟨node, ?_, hactual, ?_, ?_⟩
        · rw [getElem?_insert cells hbefore.le hi, hnode]
        · have hmoved := getElem?_insert cells (Nat.le_of_lt_succ hbefore) (Nat.lt_of_succ_lt hi) c
          rw [hprev, linkBehind_take hfront, linkBehind_take (hmoved.trans hfront)]
        · exact hpos.trans (by omega)
      · exact h.before (take_insert cells hp c) hbehind
      · trivial
  | ended => exact h
  | stale => trivial

theorem Stands.removed {cursor : Cursor} (h : Stands it cells cursor) (p : Nat) :
    Stands it (cells.eraseIdx p) (cursor.removed p) := by
  cases cursor with
  | «at» i =>
      rw [Cursor.removed]
      split_ifs with hi
      · exact h.before (List.take_eraseIdx_eq_take_of_le _ _ _ (Nat.le_refl p)) hi
      · trivial
  | ended => exact h
  | stale => trivial

theorem split_at {i : Nat} {c : ι × α} (h : cells[i]? = some c) :
    cells = cells.take i ++ c :: cells.drop (i + 1) := by
  obtain ⟨hi, rfl⟩ := List.getElem?_eq_some_iff.1 h
  rw [← List.drop_eq_getElem_cons, List.take_append_drop]

theorem Contains.cell (h : li.Contains found cells) {i : Nat} {c : ι × α}
    (hc : cells[i]? = some c) :
    li.mem.heap c.1 = some ⟨Chain.start (cells.drop (i + 1)), c.2⟩ := by
  have hholds := h.holds
  rw [split_at hc] at hholds
  exact hholds.cell

theorem start_drop (cells : List (ι × α)) (i : Nat) :
    Chain.start (cells.drop i) = cells[i]?.map Prod.fst := by
  rw [Chain.start, List.head?_drop]

theorem insertIdx_map (cells : List (ι × α)) {p : Nat} (hp : p ≤ cells.length) (a : ι) (el : α) :
    (cells.take p ++ (a, el) :: cells.drop p).map Prod.snd =
      (cells.map Prod.snd).insertIdx p el := by
  induction cells generalizing p with
  | nil =>
      rw [List.length_nil, Nat.le_zero] at hp
      rw [hp]
      rfl
  | cons c cells ih =>
      cases p with
      | zero => rfl
      | succ p =>
          rw [List.take_succ_cons, List.drop_succ_cons, List.cons_append, List.map_cons,
            ih (Nat.le_of_succ_le_succ hp), List.map_cons, List.insertIdx_succ_cons]

theorem stands_update [DecidableEq κ] {iterator : κ → ListIterator ι} {cursor : κ → Cursor} {k : κ}
    {cursor' : Cursor} (h : ∀ k, Stands (iterator k) cells (cursor k))
    (hk : Stands it cells cursor') :
    ∀ j, Stands (Function.update iterator k it j) cells (Function.update cursor k cursor' j) := by
  intro j
  by_cases hj : j = k
  · rw [hj, Function.update_self, Function.update_self]
    exact hk
  · rw [Function.update_of_ne hj, Function.update_of_ne hj]
    exact h j

variable [DecidableEq ι]

theorem Contains.putNode (h : li.Contains found cells) {p : Nat} {link : Link ι}
    (hlink : link = Chain.linkBehind (cells.take p)) {next : Option ι}
    (hnext : next = Chain.start (cells.drop p)) (el : α) {block : Option ι}
    (hblock : ∀ a ∈ block, li.mem.heap a = none) :
    (block = none ∧ li.putNode link el next block = some (li, osipNomem)) ∨
    ∃ li' a, li.putNode link el next block = some (li', li.nbElt + 1) ∧
      li'.Contains found (cells.take p ++ (a, el) :: cells.drop p) := by
  have hholds := h.holds
  rw [← List.take_append_drop p cells] at hholds
  cases block with
  | none =>
      refine Or.inl ⟨rfl, ?_⟩
      rw [OsipList.putNode, hlink, hnext, hholds.write_start]
      rfl
  | some a =>
      obtain ⟨m', hwrite, hinsert⟩ := hholds.insert (hblock a rfl) el
      refine Or.inr ⟨⟨li.nbElt + 1, m'.store a ⟨next, el⟩⟩, a, ?_, ?_, ?_⟩
      · rw [OsipList.putNode, hlink, hwrite]
        rfl
      · rw [hnext]
        exact hinsert
      · have hlength := congrArg List.length (List.take_append_drop p cells)
        rw [List.length_append] at hlength
        rw [h.counted, List.length_append, List.length_cons]
        dsimp only
        omega

theorem Contains.add (h : li.Contains found cells) {pos : Int} (hpos : pos = -1 ∨ 0 ≤ pos) (el : α)
    {block : Option ι} (hblock : ∀ a ∈ block, li.mem.heap a = none) {p : Nat}
    (hp : p = Sequence.addIndex cells.length pos) :
    li.osipListAdd el pos block = some (li, osipNomem) ∨
    ∃ li' a, li.osipListAdd el pos block = some (li', li.nbElt + 1) ∧
      li'.Contains found (cells.take p ++ (a, el) :: cells.drop p) := by
  have hcounted := h.counted
  have hle : p ≤ cells.length := by
    rw [hp, Sequence.addIndex]
    split_ifs
    · exact Nat.le_refl _
    · exact Nat.min_le_right _ _
  have hput {link : Link ι} (hlink : link = Chain.linkBehind (cells.take p)) {next : Option ι}
      (hnext : next = Chain.start (cells.drop p)) :
      li.putNode link el next block = some (li, osipNomem) ∨
      ∃ li' a, li.putNode link el next block = some (li', li.nbElt + 1) ∧
        li'.Contains found (cells.take p ++ (a, el) :: cells.drop p) :=
    (h.putNode hlink hnext el hblock).imp_left And.right
  rw [osipListAdd]
  by_cases hempty : li.nbElt = 0
  · have hcells : cells = [] := List.eq_nil_of_length_eq_zero (by omega)
    rw [if_pos hempty]
    refine hput ?_ ?_
    · rw [hcells, List.take_nil]
      rfl
    · rw [hcells, List.drop_nil]
      rfl
  · have hplace : (if pos = -1 ∨ pos ≥ li.nbElt then li.nbElt else pos) = (p : Int) := by
      rw [hp, Sequence.addIndex]
      split_ifs <;> omega
    rw [if_neg hempty]
    dsimp only
    rw [hplace]
    by_cases hfirst : p = 0
    · rw [if_pos (by omega)]
      refine hput ?_ ?_
      · rw [hfirst, List.take_zero]
        rfl
      · rw [hfirst, List.drop_zero, h.holds.node_eq]
    · obtain ⟨ntmp, hwalk, hlink⟩ := h.holds.walk_pred (Nat.pos_of_ne_zero hfirst) hle
      have hturns : ((p : Int) - 1).toNat = p - 1 := by omega
      rw [if_neg (by omega), hturns, hwalk, Option.bind_eq_bind, Option.bind_some,
        Option.bind_eq_bind, Option.bind_some]
      by_cases hlast : (p : Int) = li.nbElt
      · rw [if_pos hlast]
        refine hput hlink.symm ?_
        rw [List.drop_of_length_le (by omega)]
        rfl
      · have hread := h.holds
        rw [← List.take_append_drop p cells] at hread
        have hnext := hread.read_linkBehind
        rw [hlink] at hnext
        rw [if_neg hlast, hnext, Option.bind_some]
        exact hput hlink.symm rfl

theorem Contains.erase (h : li.Contains found cells) {i : Nat} {c : ι × α}
    (hc : cells[i]? = some c) :
    ∃ m' m'', li.mem.write (Chain.linkBehind (cells.take i)) (Chain.start (cells.drop (i + 1))) =
        some m' ∧ m'.free c.1 = some m'' ∧
      (⟨li.nbElt - 1, m''⟩ : OsipList ι α).Contains found (cells.eraseIdx i) := by
  have hholds := h.holds
  rw [split_at hc] at hholds
  obtain ⟨m', m'', hwrite, hfree, herase⟩ := hholds.erase
  have hi := (List.getElem?_eq_some_iff.1 hc).1
  refine ⟨m', m'', hwrite, hfree, ?_, ?_⟩
  · rw [List.eraseIdx_eq_take_drop_succ]
    exact herase
  · rw [List.length_eraseIdx_of_lt hi, h.counted]
    dsimp only
    omega

theorem Contains.remove (h : li.Contains found cells) {pos : Int} (hpos : 0 ≤ pos)
    (hlt : pos < li.nbElt) :
    ∃ li', li.osipListRemove pos = some (li', li.nbElt - 1) ∧
      li'.Contains found (cells.eraseIdx pos.toNat) := by
  have hcounted := h.counted
  have hi : pos.toNat < cells.length := by omega
  obtain ⟨c, hc⟩ : ∃ c, cells[pos.toNat]? = some c := ⟨_, List.getElem?_eq_getElem hi⟩
  obtain ⟨m', m'', hwrite, hfree, herase⟩ := h.erase hc
  refine ⟨_, ?_, herase⟩
  have hnext : li.mem.read (.next c.1) =
      some (Chain.start (cells.drop (pos.toNat + 1))) := by
    rw [Chain.read, h.cell hc]
    rfl
  have hactual : Chain.start (cells.drop pos.toNat) = some c.1 := by
    rw [start_drop, hc]
    rfl
  rw [osipListRemove, if_neg (by omega)]
  by_cases hfirst : pos = 0
  · have hnode := h.holds.node_eq
    rw [hfirst, Int.toNat_zero, List.drop_zero] at hactual
    rw [hfirst, Int.toNat_zero, List.take_zero, Chain.linkBehind_nil] at hwrite
    rw [if_pos hfirst, hnode]
    simp only [hfirst, Int.toNat_zero, Option.bind_eq_bind] at hactual hnext hwrite hfree ⊢
    rw [hactual, Option.bind_some, hnext, Option.bind_some, hwrite, Option.bind_some, hfree,
      Option.bind_some]
  · obtain ⟨ntmp, hwalk, hlink⟩ := h.holds.walk_pred (k := pos.toNat) (by omega) hi.le
    have hturns : (pos - 1).toNat = pos.toNat - 1 := by omega
    have hread := h.holds
    rw [← List.take_append_drop pos.toNat cells] at hread
    have hremnode := hread.read_linkBehind
    rw [hlink, hactual] at hremnode
    rw [hlink] at hwrite
    rw [if_neg hfirst, hturns]
    simp only [Option.bind_eq_bind]
    rw [hwalk, Option.bind_some, Option.bind_some, hremnode, Option.bind_some, Option.bind_some,
      hnext, Option.bind_some, hwrite, Option.bind_some, hfree, Option.bind_some]

theorem osipListRemove_outside (li : OsipList ι α) {pos : Int} (h : pos < 0 ∨ pos ≥ li.nbElt) :
    li.osipListRemove pos = some (li, osipUndefinedError) := by
  rw [osipListRemove, if_pos h]

/-! ### Iterators -/

omit [DecidableEq ι] in
theorem Contains.element (h : li.Contains found cells) {i : Nat} {c : ι × α}
    (hc : cells[i]? = some c) : li.mem.element c.1 = some c.2 := by
  rw [Chain.element, h.cell hc]
  rfl

omit [DecidableEq ι] in
theorem Contains.arrive (h : li.Contains found cells) (it : ListIterator ι) {i : Nat}
    (hactual : it.actual = cells[i]?.map Prod.fst)
    (hprev : it.prev = Chain.linkBehind (cells.take i)) (hpos : it.pos ≤ i) :
    (li.hasElem it = true ∧ ∃ el, li.actualElement it = some el ∧
      (cells.map Prod.snd)[i]? = some el ∧ Stands it cells (.place i cells.length)) ∨
    (li.hasElem it = false ∧ it.actual = none ∧ (cells.map Prod.snd)[i]? = none ∧
      Cursor.place i cells.length = .ended) := by
  have hcounted := h.counted
  rw [List.getElem?_map]
  cases hc : cells[i]? with
  | none =>
      rw [hc, Option.map_none] at hactual
      rw [List.getElem?_eq_none_iff] at hc
      refine Or.inr ⟨?_, hactual, rfl, if_neg (by omega)⟩
      rw [hasElem, hactual]
      rfl
  | some c =>
      have hi := (List.getElem?_eq_some_iff.1 hc).1
      rw [hc, Option.map_some] at hactual
      refine Or.inl ⟨?_, c.2, ?_, rfl, ?_⟩
      · rw [hasElem, hactual, decide_eq_true (by omega)]
        rfl
      · rw [actualElement, hactual]
        exact h.element hc
      · rw [Cursor.place, if_pos hi]
        exact ⟨c, hc, hactual, hprev, hpos⟩

omit [DecidableEq ι] in
theorem Contains.getFirst (h : li.Contains found cells) (it : ListIterator ι) :
    ∃ it', li.osipListGetFirst it = some (it', (cells.map Prod.snd).head?) ∧
      Stands it' cells (.place 0 cells.length) := by
  have hcounted := h.counted
  rw [osipListGetFirst, List.head?_eq_getElem?]
  by_cases hempty : 0 ≥ li.nbElt
  · have hlength : cells.length = 0 := by omega
    have hcells : cells = [] := List.eq_nil_of_length_eq_zero hlength
    refine ⟨{ it with actual := none }, ?_, ?_⟩
    · rw [if_pos hempty, hcells]
      rfl
    · rw [Cursor.place, if_neg (by omega)]
      rfl
  · have hnode : li.mem.node = cells[0]?.map Prod.fst := by
      rw [h.holds.node_eq, ← start_drop, List.drop_zero]
    obtain ⟨-, el, hel, hget, hstands⟩ | ⟨helem, hnone, -⟩ :=
      h.arrive ⟨li.mem.node, .head, 0⟩ hnode rfl (le_refl 0)
    · refine ⟨⟨li.mem.node, .head, 0⟩, ?_, hstands⟩
      rw [if_neg hempty, hget]
      dsimp only
      rw [hel]
      rfl
    · exfalso
      dsimp only at hnone
      rw [hnode, Option.map_eq_none_iff, List.getElem?_eq_none_iff] at hnone
      omega

omit [DecidableEq ι] in
theorem Contains.getNext (h : li.Contains found cells) {i : Nat}
    (hstands : Stands it cells (.at i)) :
    ∃ it', li.osipListGetNext it = some (it', (cells.map Prod.snd)[i + 1]?) ∧
      Stands it' cells (.place (i + 1) cells.length) := by
  obtain ⟨c, hc, hactual, hprev, hpos⟩ := hstands
  have hread : li.mem.read (.next c.1) = some (cells[i + 1]?.map Prod.fst) := by
    rw [Chain.read, h.cell hc, ← start_drop]
    rfl
  have hnext : it.pos + 1 ≤ ((i + 1 : Nat) : Int) := by
    rw [Nat.cast_add_one]
    omega
  have harrive := h.arrive ⟨cells[i + 1]?.map Prod.fst, .next c.1, it.pos + 1⟩ rfl
    (linkBehind_take hc).symm hnext
  rw [osipListGetNext, hactual]
  dsimp only
  rw [hread, Option.bind_eq_bind, Option.bind_some]
  obtain ⟨helem, el, hel, hget, hstands⟩ | ⟨helem, hnone, hget, hplace⟩ := harrive
  · refine ⟨_, ?_, hstands⟩
    rw [if_pos helem, hel, hget]
    rfl
  · refine ⟨{ actual := none, prev := .next c.1, pos := it.pos + 1 }, ?_, ?_⟩
    · rw [if_neg (by rw [helem]; exact Bool.false_ne_true), hget]
    · rw [hplace]
      rfl

theorem Contains.iteratorRemove (h : li.Contains found cells) {i : Nat}
    (hstands : Stands it cells (.at i)) :
    ∃ li' it', li.osipListIteratorRemove it = some (li', it', (cells.map Prod.snd)[i + 1]?) ∧
      li'.Contains found (cells.eraseIdx i) ∧
      Stands it' (cells.eraseIdx i) (.place i (cells.length - 1)) := by
  have hcounted := h.counted
  obtain ⟨c, hc, hactual, hprev, hpos⟩ := hstands
  have hi := (List.getElem?_eq_some_iff.1 hc).1
  have helem : li.hasElem it = true := by
    rw [hasElem, hactual, decide_eq_true (by omega)]
    rfl
  have hread : li.mem.read (.next c.1) = some (Chain.start (cells.drop (i + 1))) := by
    rw [Chain.read, h.cell hc]
    rfl
  obtain ⟨m', m'', hwrite, hfree, herase⟩ := h.erase hc
  rw [← hprev] at hwrite
  have hbehind : (cells.eraseIdx i)[i]? = cells[i + 1]? := by
    rw [List.getElem?_eraseIdx_of_ge (Nat.le_refl i)]
  have htake : (cells.eraseIdx i).take i = cells.take i := by
    rw [List.eraseIdx_eq_take_drop_succ, List.take_append_of_le_length (by simp [hi.le]),
      List.take_take, min_self]
  have hnext : m''.read it.prev = some ((cells.eraseIdx i)[i]?.map Prod.fst) := by
    have hholds := herase.holds
    rw [← List.take_append_drop i (cells.eraseIdx i)] at hholds
    have hlink := hholds.read_linkBehind
    rw [htake, ← hprev, start_drop] at hlink
    exact hlink
  have harrive := herase.arrive { it with actual := (cells.eraseIdx i)[i]?.map Prod.fst }
    rfl (by rw [htake]; exact hprev) hpos
  have hlength : (cells.eraseIdx i).length = cells.length - 1 := List.length_eraseIdx_of_lt hi
  have hvalue : ((cells.eraseIdx i).map Prod.snd)[i]? = (cells.map Prod.snd)[i + 1]? := by
    rw [List.getElem?_map, List.getElem?_map, hbehind]
  rw [hlength, hvalue] at harrive
  rw [osipListIteratorRemove, if_pos helem, hactual]
  simp only [Option.bind_eq_bind]
  rw [Option.bind_some, hread, Option.bind_some, hwrite, Option.bind_some, hfree, Option.bind_some,
    hnext, Option.bind_some, Option.bind_some]
  obtain ⟨helem', el, hel, hget, hstands⟩ | ⟨helem', hnone, hget, hplace⟩ := harrive
  · refine ⟨_, _, ?_, herase, hstands⟩
    rw [if_pos helem', hel, hget]
    rfl
  · refine ⟨⟨li.nbElt - 1, m''⟩, { it with actual := (cells.eraseIdx i)[i]?.map Prod.fst }, ?_,
      herase, ?_⟩
    · rw [if_neg (by rw [helem']; exact Bool.false_ne_true), hget]
    · rw [hplace]
      exact hnone

theorem osipListIteratorRemove_ended (h : it.actual = none) :
    li.osipListIteratorRemove it = some (li, it, none) := by
  have helem : li.hasElem it = false := by
    rw [hasElem, h]
    rfl
  rw [osipListIteratorRemove, if_neg (by rw [helem]; exact Bool.false_ne_true),
    Option.bind_eq_bind, Option.bind_some]
  dsimp only
  rw [if_neg (by rw [helem]; exact Bool.false_ne_true)]

omit [DecidableEq ι] in
theorem osipListGetNext_ended (h : it.actual = none) :
    li.osipListGetNext it = some (it, none) := by
  rw [osipListGetNext, h]

/-! ### Any calls -/

/-- The list and its iterators are this sequence with its cursors. -/
def Refines (found : ι → Option (Cell ι α)) (s : Iterated ι κ α) (q : Sequence κ α) : Prop :=
  ∃ cells, s.li.Contains found cells ∧ cells.map Prod.snd = q.elems ∧
    ∀ k, Stands (s.iterator k) cells (q.cursor k)

variable [DecidableEq κ]

/-- The list after some calls, each of which was allowed, and the sequence that it should be. -/
inductive Session (malloc : Malloc ι α) (found : ι → Option (Cell ι α))
    (iterator : κ → ListIterator ι) : Iterated ι κ α → Sequence κ α → Prop
  | init : Session malloc found iterator ⟨.init found, iterator, 0⟩ .init
  | call {s s' : Iterated ι κ α} {q : Sequence κ α} {call : ListCall κ α} {ret : Ret α} :
      Session malloc found iterator s q → q.Allowed call → s.step malloc call = some (ret, s') →
      Session malloc found iterator s' (q.after ret call)

omit [DecidableEq ι] [DecidableEq κ] in
theorem Refines.init (found : ι → Option (Cell ι α)) (iterator : κ → ListIterator ι) :
    Refines found ⟨.init found, iterator, 0⟩ (.init : Sequence κ α) :=
  ⟨[], ⟨⟨rfl, List.nodup_nil, fun _ _ => rfl, by simp⟩, rfl⟩, rfl, fun _ => trivial⟩

/-- A call that is allowed reaches no node that is not there, returns what the sequence says and
leaves what the sequence becomes. -/
theorem Refines.step {malloc : Malloc ι α} {s : Iterated ι κ α} {q : Sequence κ α}
    (h : Refines found s q) {call : ListCall κ α} (hallowed : q.Allowed call) :
    ∃ ret s', s.step malloc call = some (ret, s') ∧ q.Answers call ret ∧
      Refines found s' (q.after ret call) := by
  obtain ⟨cells, hcontains, hcells, hstands⟩ := h
  have hcounted := hcontains.counted
  have hlength : q.elems.length = cells.length := by
    rw [← hcells, List.length_map]
  cases call with
  | add el pos =>
      have hle : Sequence.addIndex q.elems.length pos ≤ cells.length := by
        rw [Sequence.addIndex]
        split_ifs <;> omega
      obtain hadd | ⟨li', a, hadd, hinsert⟩ := hcontains.add hallowed el
        (malloc.fresh s.li.mem.heap s.calls) (congrArg (Sequence.addIndex · pos) hlength)
      · refine ⟨.int osipNomem, { s with calls := s.calls + 1 }, ?_, Or.inr rfl, ?_⟩
        · rw [Iterated.step, hadd]
          rfl
        · exact ⟨cells, hcontains, hcells, hstands⟩
      · refine ⟨.int (s.li.nbElt + 1), { s with li := li', calls := s.calls + 1 }, ?_, ?_, ?_⟩
        · rw [Iterated.step, hadd]
          rfl
        · rw [hcounted, ← hlength]
          exact Or.inl rfl
        · have hcode : ¬ s.li.nbElt + 1 = osipNomem := by
            rw [hcounted]
            change ¬ (cells.length : Int) + 1 = -4
            omega
          rw [Sequence.after, if_neg hcode]
          refine ⟨_, hinsert, ?_, ?_⟩
          · rw [insertIdx_map cells hle, hcells]
          · intro k
            exact (hstands k).inserted hle _
  | remove pos =>
      by_cases hin : 0 ≤ pos ∧ pos < q.elems.length
      · obtain ⟨li', hremove, herase⟩ := hcontains.remove hin.1 (by omega)
        refine ⟨.int (s.li.nbElt - 1), { s with li := li' }, ?_, ?_, ?_⟩
        · rw [Iterated.step, hremove]
          rfl
        · rw [Sequence.Answers, if_pos hin, hcounted, ← hlength]
        · rw [Sequence.after, if_pos hin]
          refine ⟨_, herase, ?_, ?_⟩
          · rw [← List.eraseIdx_map, hcells]
          · intro k
            exact (hstands k).removed _
      · refine ⟨.int osipUndefinedError, s, ?_, ?_, ?_⟩
        · rw [Iterated.step, osipListRemove_outside _ (by omega)]
          rfl
        · rw [Sequence.Answers, if_neg hin]
        · rw [Sequence.after, if_neg hin]
          exact ⟨cells, hcontains, hcells, hstands⟩
  | getFirst k =>
      obtain ⟨it', hfirst, hk⟩ := hcontains.getFirst (s.iterator k)
      refine ⟨.element q.elems.head?, s.setIterator k it', ?_, rfl, ?_⟩
      · rw [Iterated.step, hfirst, hcells]
        rfl
      · rw [← hlength] at hk
        exact ⟨cells, hcontains, hcells, stands_update hstands hk⟩
  | getNext k =>
      have hk := hstands k
      cases hcursor : q.cursor k with
      | «at» i =>
          rw [hcursor] at hk
          obtain ⟨it', hnext, hk'⟩ := hcontains.getNext hk
          refine ⟨.element q.elems[i + 1]?, s.setIterator k it', ?_, ?_, ?_⟩
          · rw [Iterated.step, hnext, hcells]
            rfl
          · simp only [Sequence.Answers, hcursor]
          · rw [← hlength] at hk'
            simp only [Sequence.after, hcursor]
            exact ⟨cells, hcontains, hcells, stands_update hstands hk'⟩
      | ended =>
          rw [hcursor] at hk
          refine ⟨.element none, s.setIterator k (s.iterator k), ?_, ?_, ?_⟩
          · rw [Iterated.step, osipListGetNext_ended hk]
            rfl
          · simp only [Sequence.Answers, hcursor]
          · simp only [Sequence.after, hcursor]
            rw [Iterated.setIterator, Function.update_eq_self]
            exact ⟨cells, hcontains, hcells, hstands⟩
      | stale => exact absurd hcursor hallowed
  | iteratorRemove k =>
      have hk := hstands k
      cases hcursor : q.cursor k with
      | «at» i =>
          rw [hcursor] at hk
          obtain ⟨li', it', hremove, herase, hk'⟩ := hcontains.iteratorRemove hk
          refine ⟨.element q.elems[i + 1]?, { s with li := li' }.setIterator k it', ?_, ?_, ?_⟩
          · rw [Iterated.step, hremove, hcells]
            rfl
          · simp only [Sequence.Answers, hcursor]
          · rw [← hlength] at hk'
            simp only [Sequence.after, hcursor]
            refine ⟨_, herase, ?_, stands_update ?_ hk'⟩
            · rw [← List.eraseIdx_map, hcells]
              rfl
            · intro j
              exact (hstands j).removed i
      | ended =>
          rw [hcursor] at hk
          refine ⟨.element none, s.setIterator k (s.iterator k), ?_, ?_, ?_⟩
          · rw [Iterated.step, osipListIteratorRemove_ended hk]
            rfl
          · simp only [Sequence.Answers, hcursor]
          · simp only [Sequence.after, hcursor]
            rw [Iterated.setIterator, Function.update_eq_self]
            exact ⟨cells, hcontains, hcells, hstands⟩
      | stale => exact absurd hcursor hallowed

theorem Session.refines {malloc : Malloc ι α} {found : ι → Option (Cell ι α)}
    {iterator : κ → ListIterator ι} {s : Iterated ι κ α} {q : Sequence κ α}
    (h : Session malloc found iterator s q) : Refines found s q := by
  induction h with
  | init => exact .init found iterator
  | call _ hallowed hstep ih =>
      obtain ⟨ret, s', hstep', -, hrefines⟩ := ih.step hallowed
      rw [hstep] at hstep'
      cases hstep'
      exact hrefines

theorem Session.step {malloc : Malloc ι α} {found : ι → Option (Cell ι α)}
    {iterator : κ → ListIterator ι} {s : Iterated ι κ α} {q : Sequence κ α}
    (h : Session malloc found iterator s q) {call : ListCall κ α} (hallowed : q.Allowed call) :
    ∃ ret s', s.step malloc call = some (ret, s') ∧ q.Answers call ret ∧
      Session malloc found iterator s' (q.after ret call) := by
  obtain ⟨ret, s', hstep, hanswers, -⟩ := h.refines.step hallowed
  exact ⟨ret, s', hstep, hanswers, h.call hallowed hstep⟩

/-! ### An iteration -/

def visit (k : κ) (keep : Bool) : ListCall κ α := if keep then .getNext k else .iteratorRemove k

def kept (elems : List α) (keeps : List Bool) : List α :=
  ((elems.zip keeps).filter Prod.snd).map Prod.fst

def visits (elems : List α) : List (Ret α) :=
  elems.map (fun el => .element (some el)) ++ [.element none]

theorem visits_eq (elems : List α) :
    visits elems = .element elems.head? :: (visits elems).tail := by
  cases elems <;> rfl

theorem Session.visit {malloc : Malloc ι α} {found : ι → Option (Cell ι α)}
    {iterator : κ → ListIterator ι} {s : Iterated ι κ α} {q : Sequence κ α}
    (h : Session malloc found iterator s q) {k : κ} {front todo : List α} {el : α}
    (helems : q.elems = front ++ el :: todo)
    (hcursor : q.cursor k = .place front.length q.elems.length) (keep : Bool) :
    ∃ s' q', s.step malloc (OsipList.visit k keep) = some (.element todo.head?, s') ∧
      Session malloc found iterator s' q' ∧
      q'.elems = front ++ (if keep then [el] else []) ++ todo ∧
      q'.cursor k = .place (front ++ if keep then [el] else []).length q'.elems.length := by
  have hlength : q.elems.length = front.length + todo.length + 1 := by
    rw [helems, List.length_append, List.length_cons]
    omega
  have hat : q.cursor k = .at front.length := by
    rw [hcursor, Cursor.place, if_pos (by omega)]
  have hbehind : q.elems[front.length + 1]? = todo.head? := by
    rw [helems, List.getElem?_append_right (by omega), List.head?_eq_getElem?,
      Nat.add_sub_cancel_left]
    rfl
  have hallowed : q.Allowed (OsipList.visit k keep) := by
    cases keep with
    | true => exact fun hstale => by rw [hat] at hstale; cases hstale
    | false => exact fun hstale => by rw [hat] at hstale; cases hstale
  obtain ⟨ret, s', hstep, hanswers, hsession⟩ := h.step hallowed
  have hret : ret = .element todo.head? := by
    cases keep with
    | true =>
        simp only [OsipList.visit, if_true, Sequence.Answers, hat] at hanswers
        rw [hanswers, hbehind]
    | false =>
        simp only [OsipList.visit, Bool.false_eq_true, if_false, Sequence.Answers, hat] at hanswers
        rw [hanswers, hbehind]
  refine ⟨s', _, by rw [hstep, hret], hsession, ?_, ?_⟩
  · cases keep with
    | true =>
        simp only [OsipList.visit, if_true, Sequence.after, hat, Sequence.setCursor, helems,
          List.append_assoc, List.singleton_append]
    | false =>
        simp only [OsipList.visit, Bool.false_eq_true, if_false, Sequence.after, hat,
          Sequence.setCursor, helems, List.append_nil]
        rw [List.eraseIdx_append_of_length_le (Nat.le_refl _), Nat.sub_self, List.eraseIdx_zero,
          List.tail_cons]
  · cases keep with
    | true =>
        simp only [OsipList.visit, if_true, Sequence.after, hat, Sequence.setCursor,
          Function.update_self, List.length_append, List.length_singleton]
    | false =>
        have herase := List.length_eraseIdx_of_lt (by omega : front.length < q.elems.length)
        simp only [OsipList.visit, Bool.false_eq_true, if_false, Sequence.after, hat,
          Sequence.setCursor, Function.update_self, List.append_nil, herase]

theorem Session.visits {malloc : Malloc ι α} {found : ι → Option (Cell ι α)}
    {iterator : κ → ListIterator ι} {s : Iterated ι κ α} {q : Sequence κ α}
    (h : Session malloc found iterator s q) {k : κ} {front todo : List α}
    (helems : q.elems = front ++ todo)
    (hcursor : q.cursor k = .place front.length q.elems.length) {keeps : List Bool}
    (hkeeps : keeps.length = todo.length) :
    ∃ s' q', s.run malloc (keeps.map (OsipList.visit k)) = some ((OsipList.visits todo).tail, s') ∧
      Session malloc found iterator s' q' ∧ q'.elems = front ++ kept todo keeps := by
  induction todo generalizing s q front keeps with
  | nil =>
      have hnil : keeps = [] := List.eq_nil_of_length_eq_zero hkeeps
      refine ⟨s, q, ?_, h, ?_⟩
      · rw [hnil]
        rfl
      · rw [helems, hnil]
        rfl
  | cons el todo ih =>
      cases keeps with
      | nil => cases hkeeps
      | cons keep keeps =>
          obtain ⟨s', q', hstep, hsession, helems', hcursor'⟩ := h.visit helems hcursor keep
          obtain ⟨s'', q'', hrun, hsession', hkept⟩ := ih hsession helems' hcursor'
            (Nat.succ.inj hkeeps)
          refine ⟨s'', q'', ?_, hsession', ?_⟩
          · rw [List.map_cons, Iterated.run, hstep, Option.bind_some, hrun, Option.map_some,
              ← visits_eq todo]
            rfl
          · rw [hkept, List.append_assoc]
            cases keep <;> rfl

/-- Over any calls that are allowed a list is the sequence: it has its elements in its chain of
nodes and counts them, the rest of the memory is as it was, and the next call that is allowed
finds its nodes and returns what it should. An iteration that keeps or removes each node visits
every element exactly once, and leaves those that were kept. -/
theorem session_isSequence {malloc : Malloc ι α} {found : ι → Option (Cell ι α)}
    {iterator : κ → ListIterator ι} {s : Iterated ι κ α} {q : Sequence κ α}
    (h : Session malloc found iterator s q) :
    (∃ cells, s.li.Contains found cells ∧ cells.map Prod.snd = q.elems) ∧
    (∀ call, q.Allowed call → ∃ ret s', s.step malloc call = some (ret, s') ∧
      q.Answers call ret) ∧
    ∀ k keeps, keeps.length = q.elems.length →
      ∃ s' cells, s.run malloc (.getFirst k :: keeps.map (OsipList.visit k)) =
          some (visits q.elems, s') ∧
        s'.li.Contains found cells ∧ cells.map Prod.snd = kept q.elems keeps := by
  refine ⟨?_, ?_, ?_⟩
  · obtain ⟨cells, hcontains, hcells, -⟩ := h.refines
    exact ⟨cells, hcontains, hcells⟩
  · intro call hallowed
    obtain ⟨ret, s', hstep, hanswers, -⟩ := h.step hallowed
    exact ⟨ret, s', hstep, hanswers⟩
  · intro k keeps hkeeps
    have hallowed : q.Allowed (.getFirst k) := trivial
    obtain ⟨ret, s₁, hstep, hanswers, hsession⟩ := h.step hallowed
    have hret : ret = .element q.elems.head? := hanswers
    have hfront : (q.after ret (.getFirst k)).elems = [] ++ q.elems := rfl
    have hplace : (q.after ret (.getFirst k)).cursor k =
        .place ([] : List α).length (q.after ret (.getFirst k)).elems.length :=
      Function.update_self ..
    obtain ⟨s', q', hrun, hsession', helems⟩ := hsession.visits hfront hplace hkeeps
    obtain ⟨cells, hcontains, hcells, -⟩ := hsession'.refines
    refine ⟨s', cells, ?_, hcontains, ?_⟩
    · rw [Iterated.run, hstep, Option.bind_some, hrun, Option.map_some, hret, ← visits_eq]
    · rw [hcells, helems, List.nil_append]

/-- The calls as the sequence has them: positions are -1 or not negative. -/
def InRange : ListCall κ α → Prop
  | .add _ pos => pos = -1 ∨ 0 ≤ pos
  | _ => True

/-- A `malloc` that hands out the blocks one by one. -/
def nextBlock : Malloc Nat Char where
  answer heap call := if (heap call).isNone then some call else none
  fresh := by
    intro heap call a ha
    split_ifs at ha with hfree
    · cases ha
      exact Option.isNone_iff_eq_none.1 hfree
    · cases ha

/-- Two elements, one put before them, and the second taken out where an iterator stands; an
iteration over the rest that takes out the first. -/
theorem session_isSequence_insertedFirst :
    ∃ (s s' : Iterated Nat Unit Char) (cells cells' : List (Nat × Char)),
      s.li.Contains (fun _ => none) cells ∧ cells.map Prod.snd = ['b', 'c'] ∧
      s.run nextBlock [.getFirst (), .iteratorRemove (), .getNext ()] =
        some ([.element (some 'b'), .element (some 'c'), .element none], s') ∧
      s'.li.Contains (fun _ => none) cells' ∧ cells'.map Prod.snd = ['c'] := by
  have h₀ : Session nextBlock (fun _ => none) (fun _ : Unit => ⟨none, .head, 0⟩) _ _ := .init
  have happend (el : Char) (q : Sequence Unit Char) : q.Allowed (.add el (-1)) := Or.inl rfl
  have hinsert (q : Sequence Unit Char) : q.Allowed (.add 'b' 0) := Or.inr (le_refl 0)
  have h₁ := h₀.call (happend 'a' _) rfl
  have h₂ := h₁.call (happend 'c' _) rfl
  have h₃ := h₂.call (hinsert _) rfl
  have h₄ := h₃.call (show Sequence.Allowed _ (.getFirst ()) from trivial) rfl
  have h₅ := h₄.call (show Sequence.Allowed _ (.getNext ()) by intro h; cases h) rfl
  have h₆ := h₅.call (show Sequence.Allowed _ (.iteratorRemove ()) by intro h; cases h) rfl
  obtain ⟨⟨cells, hcontains, hcells⟩, -, hiterate⟩ := session_isSequence h₆
  obtain ⟨s', cells', hrun, hcontains', hcells'⟩ := hiterate () [false, true] rfl
  exact ⟨_, s', cells, cells', hcontains, hcells, hrun, hcontains', hcells'⟩

/-- An iterator stands at the second node and another node is put before it: with its own node
the iterator takes out the new one as well, and only one is counted. -/
theorem not_isSequence :
    ¬ ∀ (malloc : Malloc Nat Char) (iterator : Unit → ListIterator Nat)
      (calls : List (ListCall Unit Char)), (∀ call ∈ calls, InRange call) →
      ∀ rets s, (⟨.init fun _ => none, iterator, 0⟩ : Iterated Nat Unit Char).run malloc calls =
          some (rets, s) →
        ∃ cells, s.li.Contains (fun _ => none) cells := by
  intro hall
  have hrun := hall nextBlock (fun _ => ⟨none, .head, 0⟩)
    [.add 'a' (-1), .add 'b' (-1), .getFirst (), .getNext (), .add 'c' 1, .iteratorRemove ()]
    (by
      intro call hcall
      simp only [List.mem_cons, List.not_mem_nil, or_false] at hcall
      rcases hcall with rfl | rfl | rfl | rfl | rfl | rfl
      · exact Or.inl rfl
      · exact Or.inl rfl
      · trivial
      · trivial
      · exact Or.inr (by decide)
      · trivial) _ _ rfl
  obtain ⟨cells, hholds, hcounted⟩ := hrun
  have hlength : cells.length = 2 := Int.ofNat.inj hcounted.symm
  have hchain := hholds.chain
  cases cells with
  | nil => cases hlength
  | cons c cells =>
      obtain ⟨hnode, next, hcell, hrest⟩ := hchain
      have hc : c.1 = 0 := (Option.some.inj hnode).symm
      rw [hc] at hcell
      have hnext : next = none := (congrArg Cell.next (Option.some.inj hcell)).symm
      cases cells with
      | nil => cases hlength
      | cons d cells =>
          have hd := hrest.1
          rw [hnext] at hd
          cases hd

end OsipList

namespace Port

theorem osipListAdd_eq_insertIdx {α : Type} (li : List α) (el : α) {pos : Int}
    (hpos : pos = -1 ∨ 0 ≤ pos) :
    osipListAdd li el pos = li.insertIdx (Sequence.addIndex li.length pos) el := by
  rw [osipListAdd, Sequence.addIndex]
  by_cases hempty : li.length = 0
  · have hnil : li = [] := List.eq_nil_of_length_eq_zero hempty
    rw [if_pos hempty, hempty, Nat.min_zero, ite_self, hnil]
    rfl
  · rw [if_neg hempty]
    by_cases hend : pos = -1 ∨ (li.length : Int) ≤ pos
    · have hindex : (if pos = -1 then li.length else min pos.toNat li.length) = li.length := by
        split_ifs <;> omega
      rw [if_pos hend, hindex, List.insertIdx_length_self]
    · have hindex : (if pos = -1 then li.length else min pos.toNat li.length) = pos.toNat := by
        split_ifs <;> omega
      rw [if_neg hend, hindex]
      by_cases hzero : pos = 0
      · rw [if_pos hzero, hzero]
        rfl
      · rw [if_neg hzero, max_eq_left (by omega)]

end Port
end Exosip
