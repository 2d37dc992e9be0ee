import Exosip.Machine.Run
import Mathlib.Data.List.Perm.Basic
import Mathlib.Logic.Function.Basic

/-! Slots that own what they hold: an item that is handed over is stored in a slot, which
releases what it held, or is released at once. -/
namespace Machine

open scoped List

universe u v

/-- What becomes of an item. -/
inductive Disposal (σ : Type u) where
  | store (slot : σ)
  | release
  deriving DecidableEq, Repr

variable {σ : Type u} {α β : Type v} [DecidableEq σ]

/-- One item is handed over; the step puts out what is released. -/
def dispose : Step (σ → Option α) (Disposal σ × α) α
  | slots, (.store slot, item) => (Function.update slots slot (some item), (slots slot).toList)
  | slots, (.release, item) => (slots, [item])

def held (all : List σ) (slots : σ → Option α) : List α := all.filterMap slots

section Conservation

variable {all : List σ} (hall : all.Nodup) (hmem : ∀ slot, slot ∈ all)
include hall hmem

theorem dispose_perm (slots : σ → Option α) (taken : Disposal σ × α) :
    (held all (dispose slots taken).1 ++ (dispose slots taken).2).Perm
      (held all slots ++ [taken.2]) := by
  obtain ⟨disposal, item⟩ := taken
  cases disposal with
  | release => exact List.Perm.refl _
  | store slot =>
      have hperm := List.perm_cons_erase (hmem slot)
      have hrest : (all.erase slot).filterMap (Function.update slots slot (some item)) =
          (all.erase slot).filterMap slots := by
        apply List.filterMap_congr
        intro other hother
        exact Function.update_of_ne (hall.mem_erase_iff.1 hother).1 _ _
      have hbefore : (held all slots).Perm
          ((slots slot).toList ++ (all.erase slot).filterMap slots) := by
        refine (hperm.filterMap slots).trans ?_
        rw [List.filterMap_cons]
        cases slots slot <;> exact List.Perm.refl _
      have hafter : (held all (Function.update slots slot (some item))).Perm
          (item :: (all.erase slot).filterMap slots) := by
        refine (hperm.filterMap _).trans ?_
        rw [List.filterMap_cons_some (Function.update_self slot (some item) slots), hrest]
      show (held all (Function.update slots slot (some item)) ++ (slots slot).toList).Perm
        (held all slots ++ [item])
      calc
        held all (Function.update slots slot (some item)) ++ (slots slot).toList
        _ ~ item :: (all.erase slot).filterMap slots ++ (slots slot).toList :=
          hafter.append_right _
        _ ~ item :: ((slots slot).toList ++ (all.erase slot).filterMap slots) :=
          List.perm_append_comm.cons item
        _ ~ item :: held all slots := hbefore.symm.cons item
        _ ~ held all slots ++ [item] := (List.perm_append_singleton item _).symm

theorem run_dispose_perm (slots : σ → Option α) (taken : List (Disposal σ × α)) :
    (held all (run dispose slots taken).1 ++ (run dispose slots taken).2).Perm
      (held all slots ++ taken.map Prod.snd) := by
  induction taken generalizing slots with
  | nil => exact List.Perm.refl _
  | cons first taken ih =>
      have hfirst := dispose_perm hall hmem slots first
      have hrest := ih (dispose slots first).1
      rw [run_cons, List.map_cons]
      dsimp only
      calc
        _ ~ held all (run dispose (dispose slots first).1 taken).1 ++
            ((run dispose (dispose slots first).1 taken).2 ++ (dispose slots first).2) :=
          List.perm_append_comm.append_left _
        _ ~ held all (dispose slots first).1 ++ taken.map Prod.snd ++ (dispose slots first).2 := by
          rw [← List.append_assoc]
          exact hrest.append_right _
        _ ~ held all (dispose slots first).1 ++ (dispose slots first).2 ++ taken.map Prod.snd := by
          rw [List.append_assoc, List.append_assoc]
          exact List.perm_append_comm.append_left _
        _ ~ held all slots ++ [first.2] ++ taken.map Prod.snd := hfirst.append_right _
        _ ~ held all slots ++ first.2 :: taken.map Prod.snd := by
          rw [List.append_assoc, List.singleton_append]

end Conservation

omit [DecidableEq σ] in
theorem slot_unique {all : List σ} {slots : σ → Option α} (hnodup : (held all slots).Nodup)
    {slot other : σ} {item : α} (hslot : slot ∈ all) (hother : other ∈ all)
    (h : slots slot = some item) (h' : slots other = some item) : slot = other := by
  induction all with
  | nil => cases hslot
  | cons first all ih =>
      have hrest {slot : σ} (hmem : slot ∈ all) (h : slots slot = some item) :
          item ∈ held all slots := List.mem_filterMap.2 ⟨slot, hmem, h⟩
      have hfirst (h : slots first = some item) : item ∉ held all slots := by
        rw [held, List.filterMap_cons_some h, List.nodup_cons] at hnodup
        exact hnodup.1
      have hall : (held all slots).Nodup := by
        cases hslots : slots first with
        | none => rwa [held, List.filterMap_cons_none hslots] at hnodup
        | some stored =>
            rw [held, List.filterMap_cons_some hslots, List.nodup_cons] at hnodup
            exact hnodup.2
      rw [List.mem_cons] at hslot hother
      obtain rfl | hslot := hslot
      · obtain rfl | hother := hother
        · rfl
        · exact absurd (hrest hother h') (hfirst h)
      · obtain rfl | hother := hother
        · exact absurd (hrest hslot h) (hfirst h')
        · exact ih hall hslot hother

theorem run_dispose_map (f : α → β) (slots : σ → Option α) (taken : List (Disposal σ × α)) :
    run dispose (fun slot => (slots slot).map f) (taken.map (Prod.map id f)) =
      ((fun slot => ((run dispose slots taken).1 slot).map f),
        (run dispose slots taken).2.map f) := by
  induction taken generalizing slots with
  | nil => rfl
  | cons first taken ih =>
      have hfirst : dispose (fun slot => (slots slot).map f) (Prod.map id f first) =
          ((fun slot => ((dispose slots first).1 slot).map f), (dispose slots first).2.map f) := by
        obtain ⟨disposal, item⟩ := first
        cases disposal with
        | release => rfl
        | store slot =>
            refine Prod.ext (funext fun other => ?_) ?_
            · show Function.update (fun slot => (slots slot).map f) slot (some (f item)) other =
                (Function.update slots slot (some item) other).map f
              rw [Function.update_apply, Function.update_apply]
              split <;> rfl
            · show ((slots slot).map f).toList = ((slots slot).toList).map f
              cases slots slot <;> rfl
      rw [List.map_cons, run_cons, run_cons, hfirst]
      dsimp only
      rw [ih, List.map_append]

end Machine
