import Mathlib.Data.List.Nodup
import Mathlib.Data.List.ReduceOption

/-! Tables of slots, each free or taken. A loop over the table changes the first slot that
passes its test; the entries are told apart by a key. -/
namespace Machine.Slots

universe u v

variable {α : Type u} {κ : Type v}

def entries (slots : List (Option α)) : List α := slots.reduceOption

def updateFirst (test : Option α → Bool) (change : Option α → Option α) :
    List (Option α) → Option (List (Option α))
  | [] => none
  | slot :: slots =>
      if test slot then some (change slot :: slots)
      else (updateFirst test change slots).map (slot :: ·)

def Unique (key : α → κ) (slots : List (Option α)) : Prop := ((entries slots).map key).Nodup

instance [DecidableEq κ] (key : α → κ) (slots : List (Option α)) : Decidable (Unique key slots) :=
  inferInstanceAs (Decidable ((entries slots).map key).Nodup)

@[simp] theorem entries_nil : entries ([] : List (Option α)) = [] := rfl

@[simp] theorem entries_cons (slot : Option α) (slots : List (Option α)) :
    entries (slot :: slots) = slot.toList ++ entries slots := by
  cases slot with
  | none => rfl
  | some a => rfl

@[simp] theorem entries_replicate_none (n : Nat) :
    entries (List.replicate n (none : Option α)) = [] := by
  induction n with
  | zero => rfl
  | succ n ih => rw [List.replicate_succ, entries_cons, ih, Option.toList_none, List.append_nil]

theorem unique_empty (key : α → κ) (n : Nat) : Unique key (List.replicate n none) := by
  unfold Unique
  rw [entries_replicate_none]
  exact List.nodup_nil

section

variable {test : Option α → Bool} {change : Option α → Option α}

theorem updateFirst_eq_none {slots : List (Option α)} :
    updateFirst test change slots = none ↔ ∀ slot ∈ slots, test slot = false := by
  induction slots with
  | nil => simp [updateFirst]
  | cons slot slots ih =>
      rw [updateFirst]
      by_cases htest : test slot = true
      · simp [htest]
      · simp [htest, ih]

theorem exists_of_updateFirst {slots slots' : List (Option α)}
    (h : updateFirst test change slots = some slots') :
    ∃ before slot after, slots = before ++ slot :: after ∧ (∀ s ∈ before, test s = false) ∧
      test slot = true ∧ slots' = before ++ change slot :: after := by
  induction slots generalizing slots' with
  | nil => cases h
  | cons slot slots ih =>
      rw [updateFirst] at h
      by_cases htest : test slot = true
      · rw [if_pos htest, Option.some.injEq] at h
        exact ⟨[], slot, slots, rfl, by simp, htest, h.symm⟩
      · rw [if_neg htest, Option.map_eq_some_iff] at h
        obtain ⟨rest, hrest, rfl⟩ := h
        obtain ⟨before, found, after, hslots, hbefore, hfound, hrest'⟩ := ih hrest
        refine ⟨slot :: before, found, after, by rw [hslots, List.cons_append], ?_, hfound,
          by rw [hrest', List.cons_append]⟩
        intro s hs
        cases List.mem_cons.1 hs with
        | inl hhead => rw [hhead, Bool.eq_false_iff.2 htest]
        | inr htail => exact hbefore s htail

end

@[simp] theorem entries_append (slots slots' : List (Option α)) :
    entries (slots ++ slots') = entries slots ++ entries slots' := List.reduceOption_append _ _

theorem mem_entries {slots : List (Option α)} {a : α} : a ∈ entries slots ↔ some a ∈ slots :=
  List.reduceOption_mem_iff

section

variable {key : α → κ} {slots slots' : List (Option α)}

theorem exists_perm_of_updateFirst {test : Option α → Bool} {change : Option α → Option α}
    (h : updateFirst test change slots = some slots') :
    ∃ slot kept, test slot = true ∧ kept.Sublist (entries slots) ∧
      (entries slots').Perm ((change slot).toList ++ kept) := by
  obtain ⟨before, slot, after, hslots, -, htest, hslots'⟩ := exists_of_updateFirst h
  refine ⟨slot, entries before ++ entries after, htest, ?_, ?_⟩
  · rw [hslots, entries_append, entries_cons]
    exact (List.sublist_append_right _ _).append_left _
  · rw [hslots', entries_append, entries_cons]
    exact List.perm_append_comm_assoc _ _ _

theorem unique_fill_iff {a : α}
    (h : updateFirst Option.isNone (fun _ => some a) slots = some slots') :
    Unique key slots' ↔ Unique key slots ∧ key a ∉ (entries slots).map key := by
  obtain ⟨before, slot, after, hslots, -, hfree, hslots'⟩ := exists_of_updateFirst h
  rw [Option.isNone_iff_eq_none] at hfree
  subst hslots hslots' hfree
  unfold Unique
  simp only [entries_append, entries_cons, Option.toList_some, Option.toList_none,
    List.nil_append, List.singleton_append, List.map_append, List.map_cons]
  rw [List.nodup_middle, List.nodup_cons, and_comm]

theorem unique_update {test : Option α → Bool} {change : Option α → Option α}
    (hkey : ∀ slot, test slot = true → ∀ b ∈ change slot, ∃ a ∈ slot, key a = key b)
    (h : updateFirst test change slots = some slots') (hunique : Unique key slots) :
    Unique key slots' := by
  obtain ⟨before, slot, after, hslots, -, htest, hslots'⟩ := exists_of_updateFirst h
  subst hslots hslots'
  have hsub : ((change slot).toList.map key).Sublist (slot.toList.map key) := by
    cases hchange : change slot with
    | none => exact List.nil_sublist _
    | some b =>
        obtain ⟨a, ha, hsame⟩ := hkey slot htest b hchange
        rw [Option.mem_def.1 ha, Option.toList_some, Option.toList_some, List.map_singleton,
          List.map_singleton, hsame]
  unfold Unique at hunique ⊢
  simp only [entries_append, entries_cons, List.map_append] at hunique ⊢
  exact hunique.sublist ((List.Sublist.refl _).append (hsub.append (List.Sublist.refl _)))

theorem getD_updateFirst_cons (test : Option α → Bool) (change : Option α → Option α)
    (slot : Option α) (slots : List (Option α)) :
    (updateFirst test change (slot :: slots)).getD (slot :: slots) =
      if test slot then change slot :: slots
      else slot :: (updateFirst test change slots).getD slots := by
  rw [updateFirst]
  by_cases htest : test slot = true
  · rw [if_pos htest, if_pos htest, Option.getD_some]
  · rw [if_neg htest, if_neg htest]
    cases updateFirst test change slots with
    | none => rfl
    | some rest => rfl

theorem entries_updateFirst_none (p : α → Bool) (slots : List (Option α)) :
    entries ((updateFirst (Option.any p) (fun _ => none) slots).getD slots) =
      (entries slots).eraseP p := by
  induction slots with
  | nil => rfl
  | cons slot slots ih =>
      rw [getD_updateFirst_cons]
      cases slot with
      | none => simp [ih]
      | some a =>
          by_cases hp : p a = true
          · simp [hp]
          · simp [hp, ih]

end

/-- Taking out the first `p` leaves no `r` exactly when there is none, or only one, which is the
first `p`. -/
theorem filter_eraseP_eq_nil (p r : α → Bool) (l : List α) :
    (l.eraseP p).filter r = [] ↔
      l.filter r = [] ∨ ∃ a, l.filter r = [a] ∧ l.find? p = some a := by
  induction l with
  | nil => simp
  | cons b l ih =>
      by_cases hp : p b = true
      · rw [List.eraseP_cons_of_pos hp, List.find?_cons_of_pos hp]
        by_cases hr : r b = true
        · simp [hr]
        · rw [List.filter_cons_of_neg hr]
          refine ⟨Or.inl, fun h => h.elim id fun hsole => ?_⟩
          obtain ⟨a, ha, hfirst⟩ := hsole
          have hmem : a ∈ l.filter r := by rw [ha]; exact List.mem_singleton_self a
          rw [Option.some.inj hfirst] at hr
          exact absurd (List.mem_filter.1 hmem).2 hr
      · rw [List.eraseP_cons_of_neg hp, List.find?_cons_of_neg hp]
        by_cases hr : r b = true
        · rw [List.filter_cons_of_pos hr, List.filter_cons_of_pos hr]
          refine ⟨fun h => absurd h (List.cons_ne_nil _ _), fun h => ?_⟩
          cases h with
          | inl hnil => exact absurd hnil (List.cons_ne_nil _ _)
          | inr hsole =>
              obtain ⟨a, ha, hfirst⟩ := hsole
              have hp' := List.find?_some hfirst
              rw [← (List.cons.inj ha).1] at hp'
              exact absurd hp' hp
        · rw [List.filter_cons_of_neg hr, List.filter_cons_of_neg hr]
          exact ih

end Machine.Slots
