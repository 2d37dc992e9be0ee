import Exosip.Machine.Run
import Mathlib.Algebra.Ring.Int.Defs
import Mathlib.Data.List.Basic
import Mathlib.Data.List.Flatten
import Mathlib.Data.List.Nodup
import Mathlib.Data.List.Perm.Basic

/-! The identifiers that `_eXosip_update` gives to calls, subscriptions, notifications and their
dialogs, over runs in which such objects come and go. -/
namespace Exosip
namespace Identifiers

/-- `eXosip_dialog_t`: whether `d_dialog` is set, and `d_id`. The address stands for the pointer. -/
structure JDialog where
  addr : Nat
  dDialog : Bool
  dId : Int
  deriving DecidableEq, Repr

/-- `eXosip_call_t`, `eXosip_subscribe_t` or `eXosip_notify_t`. -/
structure JObject where
  addr : Nat
  id : Int
  dialogs : List JDialog
  deriving DecidableEq, Repr

/-- The three lists, and `static_id`. -/
structure ExContext where
  staticId : Int
  jCalls : List JObject
  jSubscribes : List JObject
  jNotifies : List JObject
  allocated : Nat
  deriving DecidableEq, Repr

def init : ExContext := ⟨1, [], [], [], 0⟩

def intMax : Int := 2 ^ 31 - 1

/-- `static_id++`, which wraps around. -/
def increment (staticId : Int) : Int := if staticId = intMax then -2 ^ 31 else staticId + 1

def takeId (staticId id : Int) : Int × Int :=
  if id < 1 then (increment staticId, staticId) else (staticId, id)

def updateDialogs : Int → List JDialog → Int × List JDialog
  | staticId, [] => (staticId, [])
  | staticId, jd :: dialogs =>
      if jd.dDialog then
        let own := takeId staticId jd.dId
        let rest := updateDialogs own.1 dialogs
        (rest.1, { jd with dId := own.2 } :: rest.2)
      else
        let rest := updateDialogs staticId dialogs
        (rest.1, { jd with dId := -1 } :: rest.2)

/-- The loops over the calls, the subscriptions and the notifications. -/
def updateObjects : Int → List JObject → Int × List JObject
  | staticId, [] => (staticId, [])
  | staticId, jc :: objects =>
      let own := takeId staticId jc.id
      let dialogs := updateDialogs own.1 jc.dialogs
      let rest := updateObjects dialogs.1 objects
      (rest.1, { jc with id := own.2, dialogs := dialogs.2 } :: rest.2)

def startId (staticId : Int) : Int := if staticId = intMax then 1 else staticId

def eXosipUpdate (excontext : ExContext) : ExContext :=
  let calls := updateObjects (startId excontext.staticId) excontext.jCalls
  let subscribes := updateObjects calls.1 excontext.jSubscribes
  let notifies := updateObjects subscribes.1 excontext.jNotifies
  { excontext with
    staticId := notifies.1, jCalls := calls.2, jSubscribes := subscribes.2,
    jNotifies := notifies.2 }

/-! ### What comes and goes -/

inductive Kind where
  | call
  | subscribe
  | notify
  | dialog
  deriving DecidableEq, Repr

/-- Changes of one of the three lists, in which the objects and their dialogs are counted from
the head. -/
inductive Change where
  /-- `_eXosip_call_init` and its siblings, and `ADD_ELEMENT`. -/
  | newObject
  /-- `_eXosip_dialog_init_as_uac` or `_eXosip_dialog_init_as_uas`, and `ADD_ELEMENT`. -/
  | newDialog (object : Nat)
  /-- `osip_dialog_free`, and `d_dialog` is NULL from then on. -/
  | endDialog (object dialog : Nat)
  | releaseDialog (object dialog : Nat)
  | releaseObject (object : Nat)
  deriving DecidableEq, Repr

def Change.apply (addr : Nat) (objects : List JObject) : Change → List JObject
  | newObject => ⟨addr, -1, []⟩ :: objects
  | newDialog object =>
      objects.modify object fun jc => { jc with dialogs := ⟨addr, true, -1⟩ :: jc.dialogs }
  | endDialog object dialog =>
      objects.modify object fun jc =>
        { jc with dialogs := jc.dialogs.modify dialog fun jd => { jd with dDialog := false } }
  | releaseDialog object dialog =>
      objects.modify object fun jc => { jc with dialogs := jc.dialogs.eraseIdx dialog }
  | releaseObject object => objects.eraseIdx object

inductive Operation where
  | onCalls (change : Change)
  | onSubscribes (change : Change)
  | onNotifies (change : Change)
  deriving DecidableEq, Repr

def Operation.apply (excontext : ExContext) : Operation → ExContext
  | onCalls change =>
      { excontext with
        jCalls := change.apply excontext.allocated excontext.jCalls
        allocated := excontext.allocated + 1 }
  | onSubscribes change =>
      { excontext with
        jSubscribes := change.apply excontext.allocated excontext.jSubscribes
        allocated := excontext.allocated + 1 }
  | onNotifies change =>
      { excontext with
        jNotifies := change.apply excontext.allocated excontext.jNotifies
        allocated := excontext.allocated + 1 }

/-! ### The objects as one list -/

/-- An object or a dialog: a dialog lives as long as its `d_dialog` is there. -/
structure Slot where
  kind : Kind
  addr : Nat
  live : Bool
  id : Int
  deriving DecidableEq, Repr

def JDialog.slot (jd : JDialog) : Slot := ⟨.dialog, jd.addr, jd.dDialog, jd.dId⟩

def JObject.slots (kind : Kind) (jc : JObject) : List Slot :=
  ⟨kind, jc.addr, true, jc.id⟩ :: jc.dialogs.map JDialog.slot

def slotsOf (kind : Kind) (objects : List JObject) : List Slot :=
  objects.flatMap (JObject.slots kind)

/-- In the order in which `_eXosip_update` goes over them. -/
def ExContext.slots (excontext : ExContext) : List Slot :=
  slotsOf .call excontext.jCalls ++
    (slotsOf .subscribe excontext.jSubscribes ++ slotsOf .notify excontext.jNotifies)

/-- The live objects have positive identifiers, those of one kind different ones. -/
structure Identified (slots : List Slot) : Prop where
  positive : ∀ slot ∈ slots, slot.live = true → 1 ≤ slot.id
  distinct : ∀ kind,
    ((slots.filter fun slot => slot.live && slot.kind == kind).map Slot.id).Nodup

/-- A live object of both lists has the same identifier in them. -/
def KeepsIds (slots slots' : List Slot) : Prop :=
  ∀ slot ∈ slots, ∀ slot' ∈ slots', slot.live = true → slot'.live = true →
    slot.addr = slot'.addr → slot.id = slot'.id

/-- An operation with the update after it; what is put out are the objects as they are then. -/
def step (excontext : ExContext) (operation : Operation) : ExContext × List (List Slot) :=
  let next := eXosipUpdate (operation.apply excontext)
  (next, [next.slots])

/-- In all states of a run the identifiers are in order, and they are kept. -/
structure KeptApart (operations : List Operation) : Prop where
  identified : ∀ slots ∈ (Machine.run step init operations).2, Identified slots
  kept : (Machine.run step init operations).2.Pairwise KeepsIds

/-! ### When there are identifiers left -/

def Slot.isFresh (slot : Slot) : Bool := slot.live && decide (slot.id < 1)

/-- The identifiers of the live objects of a kind. -/
def heldIds (kind : Kind) (slots : List Slot) : List Int :=
  (slots.filter fun slot => slot.live && decide (1 ≤ slot.id) && slot.kind == kind).map Slot.id

/-- The numbers from the counter on for the objects of a kind that have no identifier, when one
goes to every object that has none. -/
def numbersFor (kind : Kind) : Int → List Slot → List Int
  | _, [] => []
  | number, slot :: slots =>
      if slot.isFresh then
        if slot.kind = kind then number :: numbersFor kind (number + 1) slots
        else numbersFor kind (number + 1) slots
      else numbersFor kind number slots

/-- The numbers are positive and end before 2^31, and no live object of the kind has one. -/
structure Available (number : Int) (slots : List Slot) : Prop where
  range : slots.countP Slot.isFresh ≠ 0 →
    1 ≤ number ∧ number + slots.countP Slot.isFresh ≤ 2 ^ 31
  unused : ∀ kind, ∀ n ∈ numbersFor kind number slots, n ∉ heldIds kind slots

/-- The counter does not come upon an identifier that is in use. -/
def NotInUse (excontext : ExContext) (operation : Operation) : Prop :=
  Available (startId excontext.staticId) (operation.apply excontext).slots

/-! ### The update as one loop -/

/-- `_eXosip_update` on the list of all objects. -/
def assign : Int → List Slot → Int × List Slot
  | staticId, [] => (staticId, [])
  | staticId, slot :: slots =>
      if slot.live then
        let own := takeId staticId slot.id
        let rest := assign own.1 slots
        (rest.1, { slot with id := own.2 } :: rest.2)
      else
        let rest := assign staticId slots
        (rest.1, { slot with id := -1 } :: rest.2)

theorem assign_append (staticId : Int) (slots slots' : List Slot) :
    assign staticId (slots ++ slots') =
      ((assign (assign staticId slots).1 slots').1,
        (assign staticId slots).2 ++ (assign (assign staticId slots).1 slots').2) := by
  induction slots generalizing staticId with
  | nil => rfl
  | cons slot slots ih =>
      rw [List.cons_append, assign, assign]
      split_ifs <;> simp only [ih, List.cons_append]

theorem assign_dialogs (staticId : Int) (dialogs : List JDialog) :
    assign staticId (dialogs.map JDialog.slot) =
      ((updateDialogs staticId dialogs).1,
        (updateDialogs staticId dialogs).2.map JDialog.slot) := by
  induction dialogs generalizing staticId with
  | nil => rfl
  | cons jd dialogs ih =>
      rw [List.map_cons, assign, updateDialogs]
      by_cases hlive : jd.dDialog = true
      · rw [if_pos hlive, if_pos (show jd.slot.live = true from hlive)]
        simp only [ih, List.map_cons]
        rfl
      · rw [if_neg hlive, if_neg (show ¬ jd.slot.live = true from hlive)]
        simp only [ih, List.map_cons]
        rfl

theorem assign_objects (kind : Kind) (staticId : Int) (objects : List JObject) :
    assign staticId (slotsOf kind objects) =
      ((updateObjects staticId objects).1, slotsOf kind (updateObjects staticId objects).2) := by
  induction objects generalizing staticId with
  | nil => rfl
  | cons jc objects ih =>
      rw [slotsOf, List.flatMap_cons, assign_append, JObject.slots, assign, if_pos rfl,
        updateObjects]
      simp only [assign_dialogs]
      have hrest := ih (updateDialogs (takeId staticId jc.id).1 jc.dialogs).1
      rw [slotsOf] at hrest
      rw [hrest]
      rfl

theorem eXosipUpdate_slots (excontext : ExContext) :
    ((eXosipUpdate excontext).staticId, (eXosipUpdate excontext).slots) =
      assign (startId excontext.staticId) excontext.slots := by
  have hslots : excontext.slots = slotsOf .call excontext.jCalls ++
    (slotsOf .subscribe excontext.jSubscribes ++ slotsOf .notify excontext.jNotifies) := rfl
  rw [hslots, assign_append, assign_append, assign_objects, assign_objects, assign_objects]
  rfl

theorem increment_le {n : Int} (h : n ≤ intMax) : increment n ≤ intMax := by
  rw [increment]
  split_ifs with hmax
  · decide
  · exact Int.add_one_le_of_lt (Int.lt_iff_le_and_ne.2 ⟨h, hmax⟩)

theorem takeId_fst_le {n id : Int} (h : n ≤ intMax) : (takeId n id).1 ≤ intMax := by
  rw [takeId]
  split_ifs
  · exact increment_le h
  · exact h

theorem assign_fst_le {n : Int} (h : n ≤ intMax) (slots : List Slot) :
    (assign n slots).1 ≤ intMax := by
  induction slots generalizing n with
  | nil => exact h
  | cons slot slots ih =>
      rw [assign]
      split_ifs
      · exact ih (takeId_fst_le h)
      · exact ih h

/-! ### What the loop hands out -/

theorem isFresh_iff {slot : Slot} : slot.isFresh = true ↔ slot.live = true ∧ slot.id < 1 := by
  simp [Slot.isFresh]

theorem numbersFor_of_countP_eq_zero {slots : List Slot} (h : slots.countP Slot.isFresh = 0)
    (kind : Kind) (number : Int) : numbersFor kind number slots = [] := by
  induction slots generalizing number with
  | nil => rfl
  | cons slot slots ih =>
      rw [List.countP_cons] at h
      rw [numbersFor, if_neg (fun hfresh => by rw [if_pos hfresh] at h; omega)]
      exact ih (by omega) number

theorem le_of_mem_numbersFor {kind : Kind} {number n : Int} {slots : List Slot}
    (h : n ∈ numbersFor kind number slots) : number ≤ n := by
  induction slots generalizing number with
  | nil => cases h
  | cons slot slots ih =>
      rw [numbersFor] at h
      split_ifs at h with hfresh hkind
      · obtain rfl | h := List.mem_cons.1 h
        · exact Int.le_refl n
        · have := ih h
          omega
      · have := ih h
        omega
      · exact ih h

theorem nodup_numbersFor (kind : Kind) (number : Int) (slots : List Slot) :
    (numbersFor kind number slots).Nodup := by
  induction slots generalizing number with
  | nil => exact List.nodup_nil
  | cons slot slots ih =>
      rw [numbersFor]
      split_ifs
      · rw [List.nodup_cons]
        refine ⟨fun hmem => ?_, ih (number + 1)⟩
        have := le_of_mem_numbersFor hmem
        omega
      · exact ih (number + 1)
      · exact ih number

/-- The counter has not wrapped around before the last object that needs a number. -/
def InRange (number : Int) (slots : List Slot) : Prop :=
  slots.countP Slot.isFresh ≠ 0 → 1 ≤ number ∧ number + slots.countP Slot.isFresh ≤ 2 ^ 31

theorem InRange.cons_fresh {number : Int} {slot : Slot} {slots : List Slot}
    (hfresh : slot.isFresh = true) (h : InRange number (slot :: slots)) :
    1 ≤ number ∧ InRange (increment number) slots ∧
      ∀ kind, numbersFor kind (increment number) slots = numbersFor kind (number + 1) slots := by
  rw [InRange, List.countP_cons_of_pos hfresh] at h
  obtain ⟨hpos, hle⟩ := h (by omega)
  refine ⟨hpos, ?_⟩
  by_cases hcount : slots.countP Slot.isFresh = 0
  · refine ⟨fun hne => absurd hcount hne, fun kind => ?_⟩
    rw [numbersFor_of_countP_eq_zero hcount, numbersFor_of_countP_eq_zero hcount]
  · have hnext : increment number = number + 1 := by
      rw [increment, if_neg]
      rw [intMax]
      omega
    rw [hnext]
    exact ⟨fun _ => by omega, fun kind => rfl⟩

theorem InRange.cons_of_not_fresh {number : Int} {slot : Slot} {slots : List Slot}
    (hfresh : slot.isFresh = false) (h : InRange number (slot :: slots)) :
    InRange number slots := by
  rwa [InRange, List.countP_cons_of_neg (by rw [hfresh]; exact Bool.false_ne_true)] at h

theorem assign_cons_fresh {slot : Slot} (hfresh : slot.isFresh = true) (number : Int)
    (slots : List Slot) :
    (assign number (slot :: slots)).2 =
      { slot with id := number } :: (assign (increment number) slots).2 := by
  obtain ⟨hlive, hid⟩ := isFresh_iff.1 hfresh
  rw [assign, if_pos hlive, takeId, if_pos hid]

theorem assign_cons_held {slot : Slot} (hlive : slot.live = true) (hid : 1 ≤ slot.id)
    (number : Int) (slots : List Slot) :
    (assign number (slot :: slots)).2 = slot :: (assign number slots).2 := by
  rw [assign, if_pos hlive, takeId, if_neg (by omega)]

theorem assign_cons_dead {slot : Slot} (hlive : slot.live = false) (number : Int)
    (slots : List Slot) :
    (assign number (slot :: slots)).2 = { slot with id := -1 } :: (assign number slots).2 := by
  rw [assign, if_neg (by rw [hlive]; exact Bool.false_ne_true)]

theorem slot_cases (slot : Slot) :
    slot.isFresh = true ∨ slot.live = true ∧ 1 ≤ slot.id ∧ slot.isFresh = false ∨
      slot.live = false ∧ slot.isFresh = false := by
  cases hlive : slot.live with
  | false => simp [Slot.isFresh, hlive]
  | true =>
      by_cases hid : slot.id < 1
      · simp [Slot.isFresh, hlive, hid]
      · simp [Slot.isFresh, hlive, hid]
        omega

theorem assign_positive {number : Int} {slots : List Slot} (h : InRange number slots) :
    ∀ slot ∈ (assign number slots).2, slot.live = true → 1 ≤ slot.id := by
  induction slots generalizing number with
  | nil => exact fun slot hslot => absurd hslot List.not_mem_nil
  | cons slot slots ih =>
      obtain hfresh | ⟨hlive, hid, hheld⟩ | ⟨hlive, hdead⟩ := slot_cases slot
      · obtain ⟨hpos, hrest, -⟩ := h.cons_fresh hfresh
        rw [assign_cons_fresh hfresh, List.forall_mem_cons]
        exact ⟨fun _ => hpos, ih hrest⟩
      · rw [assign_cons_held hlive hid, List.forall_mem_cons]
        exact ⟨fun _ => hid, ih (h.cons_of_not_fresh hheld)⟩
      · rw [assign_cons_dead hlive, List.forall_mem_cons]
        refine ⟨fun hlive' => ?_, ih (h.cons_of_not_fresh hdead)⟩
        dsimp only at hlive'
        rw [hlive] at hlive'
        cases hlive'

theorem assign_perm {number : Int} {slots : List Slot} (h : InRange number slots) (kind : Kind) :
    List.Perm
      (((assign number slots).2.filter fun slot => slot.live && slot.kind == kind).map Slot.id)
      (numbersFor kind number slots ++ heldIds kind slots) := by
  induction slots generalizing number with
  | nil => exact List.Perm.refl _
  | cons slot slots ih =>
      obtain hfresh | ⟨hlive, hid, hheld⟩ | ⟨hlive, hdead⟩ := slot_cases slot
      · obtain ⟨-, hrest, hnumbers⟩ := h.cons_fresh hfresh
        have hperm := ih hrest
        rw [hnumbers] at hperm
        obtain ⟨hlive, hid⟩ := isFresh_iff.1 hfresh
        have hnotHeld : heldIds kind (slot :: slots) = heldIds kind slots := by
          rw [heldIds, List.filter_cons, if_neg (by simp [Int.not_le.2 hid])]
          rfl
        rw [assign_cons_fresh hfresh, numbersFor, if_pos hfresh, hnotHeld, List.filter_cons]
        by_cases hkind : slot.kind = kind
        · simpa [hlive, hkind] using hperm
        · simpa [hlive, hkind] using hperm
      · have hperm := ih (h.cons_of_not_fresh hheld)
        rw [assign_cons_held hlive hid, numbersFor, hheld, if_neg Bool.false_ne_true, heldIds,
          List.filter_cons, List.filter_cons]
        rw [heldIds] at hperm
        by_cases hkind : slot.kind = kind
        · simpa [hlive, hid, hkind] using
            (hperm.cons slot.id).trans List.perm_middle.symm
        · simpa [hlive, hid, hkind] using hperm
      · have hperm := ih (h.cons_of_not_fresh hdead)
        rw [assign_cons_dead hlive, numbersFor, hdead, if_neg Bool.false_ne_true, heldIds,
          List.filter_cons, List.filter_cons]
        rw [heldIds] at hperm
        simpa [hlive] using hperm

theorem not_positive_of_not_inRange {number : Int} (hle : number ≤ intMax) {slots : List Slot}
    (h : ¬ InRange number slots) :
    ∃ slot ∈ (assign number slots).2, slot.live = true ∧ slot.id < 1 := by
  induction slots generalizing number with
  | nil => exact absurd (fun hne => absurd rfl hne) h
  | cons slot slots ih =>
      obtain hfresh | ⟨hlive, hid, hheld⟩ | ⟨hlive, hdead⟩ := slot_cases slot
      · obtain ⟨hlive, hid⟩ := isFresh_iff.1 hfresh
        rw [assign_cons_fresh hfresh]
        by_cases hpos : number < 1
        · exact ⟨_, List.mem_cons_self, hlive, hpos⟩
        · have hrest : ¬ InRange (increment number) slots := by
            intro hrange
            refine h fun _ => ⟨by omega, ?_⟩
            rw [List.countP_cons_of_pos hfresh]
            rw [intMax] at hle
            by_cases hcount : slots.countP Slot.isFresh = 0
            · omega
            · obtain ⟨hnext, hend⟩ := hrange hcount
              rw [increment, intMax] at hnext hend
              split_ifs at hnext hend <;> omega
          obtain ⟨found, hfound, hneg⟩ := ih (increment_le hle) hrest
          exact ⟨found, List.mem_cons_of_mem _ hfound, hneg⟩
      · have hrest : ¬ InRange number slots := by
          rwa [InRange, List.countP_cons_of_neg (by rw [hheld]; exact Bool.false_ne_true)] at h
        obtain ⟨found, hfound, hneg⟩ := ih hle hrest
        rw [assign_cons_held hlive hid]
        exact ⟨found, List.mem_cons_of_mem _ hfound, hneg⟩
      · have hrest : ¬ InRange number slots := by
          rwa [InRange, List.countP_cons_of_neg (by rw [hdead]; exact Bool.false_ne_true)] at h
        obtain ⟨found, hfound, hneg⟩ := ih hle hrest
        rw [assign_cons_dead hlive]
        exact ⟨found, List.mem_cons_of_mem _ hfound, hneg⟩

theorem identified_assign_iff {number : Int} (hle : number ≤ intMax) {slots : List Slot}
    (hheld : ∀ kind, (heldIds kind slots).Nodup) :
    Identified (assign number slots).2 ↔ Available number slots := by
  by_cases hrange : InRange number slots
  · constructor
    · intro h
      refine ⟨hrange, fun kind n hn hn' => ?_⟩
      have hnodup := (assign_perm hrange kind).nodup_iff.1 (h.distinct kind)
      exact (List.nodup_append.1 hnodup).2.2 n hn n hn' rfl
    · intro h
      refine ⟨assign_positive hrange, fun kind => (assign_perm hrange kind).nodup_iff.2 ?_⟩
      rw [List.nodup_append]
      refine ⟨nodup_numbersFor kind number slots, hheld kind, fun n hn n' hn' hsame => ?_⟩
      exact h.unused kind n hn (hsame ▸ hn')
  · refine iff_of_false (fun h => ?_) fun h => hrange h.range
    obtain ⟨slot, hslot, hlive, hneg⟩ := not_positive_of_not_inRange hle hrange
    have hpos := h.positive slot hslot hlive
    omega

/-! ### What an operation changes -/

/-- One object comes, one dialog ends, or some objects go. -/
inductive Edited (allocated : Nat) : List Slot → List Slot → Prop
  | insert (front back : List Slot) (slot : Slot) : slot.addr = allocated → slot.id < 1 →
      Edited allocated (front ++ back) (front ++ slot :: back)
  | finish (front back : List Slot) (slot : Slot) :
      Edited allocated (front ++ slot :: back) (front ++ { slot with live := false } :: back)
  | remove {slots slots' : List Slot} : slots'.Sublist slots → Edited allocated slots slots'

namespace Edited

variable {allocated : Nat} {slots slots' : List Slot}

theorem append_left (h : Edited allocated slots slots') (front : List Slot) :
    Edited allocated (front ++ slots) (front ++ slots') := by
  cases h with
  | insert before after slot haddr hid =>
      rw [← List.append_assoc, ← List.append_assoc]
      exact .insert _ _ slot haddr hid
  | finish before after slot =>
      rw [← List.append_assoc, ← List.append_assoc]
      exact .finish _ _ slot
  | remove hsub => exact .remove (hsub.append_left front)

theorem append_right (h : Edited allocated slots slots') (back : List Slot) :
    Edited allocated (slots ++ back) (slots' ++ back) := by
  cases h with
  | insert before after slot haddr hid =>
      rw [List.append_assoc, List.append_assoc]
      exact .insert _ _ slot haddr hid
  | finish before after slot =>
      rw [List.append_assoc, List.append_assoc]
      exact .finish _ _ slot
  | remove hsub => exact .remove (hsub.append_right back)

theorem heldIds_sublist (h : Edited allocated slots slots') (kind : Kind) :
    (heldIds kind slots').Sublist (heldIds kind slots) := by
  cases h with
  | insert front back slot haddr hid =>
      have hfilter : (front ++ slot :: back).filter
            (fun slot => slot.live && decide (1 ≤ slot.id) && slot.kind == kind) =
          (front ++ back).filter
            (fun slot => slot.live && decide (1 ≤ slot.id) && slot.kind == kind) := by
        rw [List.filter_append, List.filter_append, List.filter_cons,
          if_neg (by simp [Int.not_le.2 hid])]
      rw [heldIds, heldIds, hfilter]
  | finish front back slot =>
      unfold heldIds
      rw [List.filter_append, List.filter_append, List.filter_cons, if_neg (by simp),
        List.filter_cons]
      refine List.Sublist.map _ (List.Sublist.append_left ?_ _)
      split_ifs
      · exact List.sublist_cons_self _ _
      · exact List.Sublist.refl _
  | remove hsub => exact (hsub.filter _).map _

theorem mem_of_live (h : Edited allocated slots slots') {slot : Slot} (hmem : slot ∈ slots')
    (hlive : slot.live = true) : slot ∈ slots ∨ slot.addr = allocated ∧ slot.id < 1 := by
  cases h with
  | insert front back new haddr hid =>
      rw [List.mem_append, List.mem_cons] at hmem
      obtain hmem | rfl | hmem := hmem
      · exact Or.inl (List.mem_append_left _ hmem)
      · exact Or.inr ⟨haddr, hid⟩
      · exact Or.inl (List.mem_append_right _ hmem)
  | finish front back ended =>
      rw [List.mem_append, List.mem_cons] at hmem
      obtain hmem | rfl | hmem := hmem
      · exact Or.inl (List.mem_append_left _ hmem)
      · cases hlive
      · exact Or.inl (List.mem_append_right _ (List.mem_cons_of_mem _ hmem))
  | remove hsub => exact Or.inl (hsub.subset hmem)

theorem addr_nodup (h : Edited allocated slots slots') (hnodup : (slots.map Slot.addr).Nodup)
    (hlt : ∀ slot ∈ slots, slot.addr < allocated) :
    (slots'.map Slot.addr).Nodup ∧ ∀ slot ∈ slots', slot.addr < allocated + 1 := by
  cases h with
  | insert front back new haddr hid =>
      have hperm : List.Perm (front ++ new :: back) (new :: (front ++ back)) := List.perm_middle
      constructor
      · rw [(hperm.map Slot.addr).nodup_iff, List.map_cons, List.nodup_cons]
        refine ⟨fun hmem => ?_, hnodup⟩
        obtain ⟨slot, hslot, hsame⟩ := List.mem_map.1 hmem
        have := hlt slot hslot
        omega
      · intro slot hslot
        obtain rfl | hslot := List.mem_cons.1 (hperm.subset hslot)
        · omega
        · have := hlt slot hslot
          omega
  | finish front back ended =>
      rw [List.map_append, List.map_cons] at hnodup
      rw [List.map_append, List.map_cons]
      refine ⟨hnodup, fun slot hslot => ?_⟩
      rw [List.mem_append, List.mem_cons] at hslot
      obtain hslot | rfl | hslot := hslot
      · have := hlt slot (List.mem_append_left _ hslot)
        omega
      · have := hlt ended (List.mem_append_right _ List.mem_cons_self)
        exact Nat.lt_succ_of_lt this
      · have := hlt slot (List.mem_append_right _ (List.mem_cons_of_mem _ hslot))
        omega
  | remove hsub =>
      refine ⟨hnodup.sublist (hsub.map _), fun slot hslot => ?_⟩
      have := hlt slot (hsub.subset hslot)
      omega

end Edited

section Change

variable {allocated : Nat} {kind : Kind}

theorem edited_modify {change : JObject → JObject} (objects : List JObject) (object : Nat)
    (h : ∀ jc : JObject, Edited allocated (jc.slots kind) ((change jc).slots kind)) :
    Edited allocated (slotsOf kind objects) (slotsOf kind (objects.modify object change)) := by
  induction objects generalizing object with
  | nil =>
      rw [List.modify_nil]
      exact .remove (List.Sublist.refl _)
  | cons jc objects ih =>
      cases object with
      | zero =>
          rw [List.modify_zero_cons]
          exact (h jc).append_right (slotsOf kind objects)
      | succ object =>
          rw [List.modify_succ_cons]
          exact (ih object).append_left (jc.slots kind)

theorem edited_endDialog (dialogs : List JDialog) (dialog : Nat) :
    Edited allocated (dialogs.map JDialog.slot)
      ((dialogs.modify dialog fun jd => { jd with dDialog := false }).map JDialog.slot) := by
  induction dialogs generalizing dialog with
  | nil =>
      rw [List.modify_nil]
      exact .remove (List.Sublist.refl _)
  | cons jd dialogs ih =>
      cases dialog with
      | zero =>
          rw [List.modify_zero_cons]
          exact .finish [] (dialogs.map JDialog.slot) jd.slot
      | succ dialog =>
          rw [List.modify_succ_cons]
          exact (ih dialog).append_left [jd.slot]

theorem edited_change (objects : List JObject) (change : Change) :
    Edited allocated (slotsOf kind objects) (slotsOf kind (change.apply allocated objects)) := by
  cases change with
  | newObject =>
      exact .insert [] (slotsOf kind objects) ⟨kind, allocated, true, -1⟩ rfl
        (by decide : (-1 : Int) < 1)
  | newDialog object =>
      refine edited_modify objects object fun jc => ?_
      exact .insert [⟨kind, jc.addr, true, jc.id⟩] (jc.dialogs.map JDialog.slot)
        ⟨.dialog, allocated, true, -1⟩ rfl (by decide : (-1 : Int) < 1)
  | endDialog object dialog =>
      refine edited_modify objects object fun jc => ?_
      exact (edited_endDialog jc.dialogs dialog).append_left [⟨kind, jc.addr, true, jc.id⟩]
  | releaseDialog object dialog =>
      refine edited_modify objects object fun jc => .remove ?_
      exact ((List.eraseIdx_sublist _ dialog).map JDialog.slot).cons_cons _
  | releaseObject object =>
      exact .remove ((List.eraseIdx_sublist objects object).flatMap _)

theorem edited_apply (excontext : ExContext) (operation : Operation) :
    Edited excontext.allocated excontext.slots (operation.apply excontext).slots := by
  cases operation with
  | onCalls change => exact (edited_change _ change).append_right _
  | onSubscribes change => exact ((edited_change _ change).append_right _).append_left _
  | onNotifies change => exact ((edited_change _ change).append_left _).append_left _

end Change

/-! ### Runs -/

theorem mem_assign {number : Int} {slots : List Slot} {slot : Slot}
    (hmem : slot ∈ (assign number slots).2) (hlive : slot.live = true) :
    ∃ before ∈ slots, before.live = true ∧ before.addr = slot.addr ∧
      (1 ≤ before.id → slot.id = before.id) := by
  induction slots generalizing number with
  | nil => cases hmem
  | cons head slots ih =>
      obtain hfresh | ⟨hheadLive, hid, -⟩ | ⟨hdead, -⟩ := slot_cases head
      · obtain ⟨hheadLive, hid⟩ := isFresh_iff.1 hfresh
        rw [assign_cons_fresh hfresh, List.mem_cons] at hmem
        obtain rfl | hmem := hmem
        · exact ⟨head, List.mem_cons_self, hheadLive, rfl, fun hpos => by omega⟩
        · obtain ⟨before, hbefore, hkept⟩ := ih hmem
          exact ⟨before, List.mem_cons_of_mem _ hbefore, hkept⟩
      · rw [assign_cons_held hheadLive hid, List.mem_cons] at hmem
        obtain rfl | hmem := hmem
        · exact ⟨slot, List.mem_cons_self, hlive, rfl, fun _ => rfl⟩
        · obtain ⟨before, hbefore, hkept⟩ := ih hmem
          exact ⟨before, List.mem_cons_of_mem _ hbefore, hkept⟩
      · rw [assign_cons_dead hdead, List.mem_cons] at hmem
        obtain rfl | hmem := hmem
        · dsimp only at hlive
          rw [hdead] at hlive
          cases hlive
        · obtain ⟨before, hbefore, hkept⟩ := ih hmem
          exact ⟨before, List.mem_cons_of_mem _ hbefore, hkept⟩

theorem map_addr_assign (number : Int) (slots : List Slot) :
    (assign number slots).2.map Slot.addr = slots.map Slot.addr := by
  induction slots generalizing number with
  | nil => rfl
  | cons slot slots ih =>
      rw [assign]
      split_ifs <;> simp only [List.map_cons, ih]

/-- What holds of a run up to a state, together with all states before it. -/
structure Traced (excontext : ExContext) (trace : List (List Slot)) : Prop where
  le : excontext.staticId ≤ intMax
  nodup : (excontext.slots.map Slot.addr).Nodup
  lt : ∀ slot ∈ excontext.slots, slot.addr < excontext.allocated
  held : (∀ slots ∈ trace, Identified slots) →
    ∀ slot ∈ excontext.slots, slot.live = true → 1 ≤ slot.id
  distinct : (∀ slots ∈ trace, Identified slots) → ∀ kind, (heldIds kind excontext.slots).Nodup
  known : ∀ slots ∈ trace, ∀ slot ∈ slots, slot.addr < excontext.allocated
  kept : (∀ slots ∈ trace, Identified slots) → ∀ slots ∈ trace, KeepsIds slots excontext.slots
  pairwise : (∀ slots ∈ trace, Identified slots) → trace.Pairwise KeepsIds

theorem traced_init : Traced init [] where
  le := by decide
  nodup := List.nodup_nil
  lt := fun slot hslot => absurd hslot List.not_mem_nil
  held := fun _ slot hslot => absurd hslot List.not_mem_nil
  distinct := fun _ kind => List.nodup_nil
  known := fun slots hslots => absurd hslots List.not_mem_nil
  kept := fun _ slots hslots => absurd hslots List.not_mem_nil
  pairwise := fun _ => List.Pairwise.nil

theorem startId_le {n : Int} (h : n ≤ intMax) : startId n ≤ intMax := by
  rw [startId]
  split_ifs
  · decide
  · exact h

theorem heldIds_of_identified {slots : List Slot} (h : Identified slots) (kind : Kind) :
    (heldIds kind slots).Nodup := by
  have hsame : heldIds kind slots =
      (slots.filter fun slot => slot.live && slot.kind == kind).map Slot.id := by
    rw [heldIds]
    congr 1
    refine List.filter_congr fun slot hslot => ?_
    cases hlive : slot.live with
    | false => rfl
    | true => simp [h.positive slot hslot hlive]
  rw [hsame]
  exact h.distinct kind

section Step

variable {excontext : ExContext} {trace : List (List Slot)} (operation : Operation)

theorem step_slots (excontext : ExContext) :
    (step excontext operation).1.slots =
      (assign (startId excontext.staticId) (operation.apply excontext).slots).2 := by
  have hupdate := congrArg Prod.snd (eXosipUpdate_slots (operation.apply excontext))
  have hstatic : (operation.apply excontext).staticId = excontext.staticId := by
    cases operation <;> rfl
  rw [hstatic] at hupdate
  exact hupdate

theorem step_staticId (excontext : ExContext) :
    (step excontext operation).1.staticId =
      (assign (startId excontext.staticId) (operation.apply excontext).slots).1 := by
  have hupdate := congrArg Prod.fst (eXosipUpdate_slots (operation.apply excontext))
  have hstatic : (operation.apply excontext).staticId = excontext.staticId := by
    cases operation <;> rfl
  rw [hstatic] at hupdate
  exact hupdate

theorem step_allocated (excontext : ExContext) :
    (step excontext operation).1.allocated = excontext.allocated + 1 := by
  cases operation <;> rfl

theorem identified_step_iff (h : Traced excontext trace) :
    (∀ slots ∈ trace ++ (step excontext operation).2, Identified slots) ↔
      (∀ slots ∈ trace, Identified slots) ∧ NotInUse excontext operation := by
  change (∀ slots ∈ trace ++ [(step excontext operation).1.slots], Identified slots) ↔ _
  rw [List.forall_mem_append, List.forall_mem_singleton, step_slots]
  refine and_congr_right fun htrace => identified_assign_iff (startId_le h.le) fun kind => ?_
  exact (h.distinct htrace kind).sublist
    ((edited_apply excontext operation).heldIds_sublist kind)

theorem Traced.mem_step (h : Traced excontext trace) (htrace : ∀ slots ∈ trace, Identified slots)
    {slot : Slot} (hmem : slot ∈ (step excontext operation).1.slots) (hlive : slot.live = true) :
    slot.addr = excontext.allocated ∨
      ∃ before ∈ excontext.slots, before.live = true ∧ before.addr = slot.addr ∧
        slot.id = before.id := by
  rw [step_slots] at hmem
  obtain ⟨edited, hedited, heditedLive, haddr, hid⟩ := mem_assign hmem hlive
  obtain hbefore | ⟨hnew, -⟩ := (edited_apply excontext operation).mem_of_live hedited heditedLive
  · exact Or.inr ⟨edited, hbefore, heditedLive, haddr,
      hid (h.held htrace edited hbefore heditedLive)⟩
  · exact Or.inl (haddr ▸ hnew)

theorem eq_of_addr {slots : List Slot} (hnodup : (slots.map Slot.addr).Nodup) {slot slot' : Slot}
    (hslot : slot ∈ slots) (hslot' : slot' ∈ slots) (haddr : slot.addr = slot'.addr) :
    slot = slot' :=
  List.inj_on_of_nodup_map hnodup hslot hslot' haddr

theorem Traced.step (h : Traced excontext trace) :
    Traced (step excontext operation).1 (trace ++ (step excontext operation).2) := by
  have hedited := edited_apply excontext operation
  obtain ⟨hnodup, hlt⟩ := hedited.addr_nodup h.nodup h.lt
  have haddrs : (Identifiers.step excontext operation).1.slots.map Slot.addr =
      (operation.apply excontext).slots.map Slot.addr := by
    rw [step_slots, map_addr_assign]
  have hlt' : ∀ slot ∈ (Identifiers.step excontext operation).1.slots,
      slot.addr < (Identifiers.step excontext operation).1.allocated := by
    intro slot hslot
    have hmem : slot.addr ∈ (operation.apply excontext).slots.map Slot.addr :=
      haddrs ▸ List.mem_map_of_mem hslot
    obtain ⟨before, hbefore, hsame⟩ := List.mem_map.1 hmem
    rw [step_allocated, ← hsame]
    exact hlt before hbefore
  have hnodup' : ((Identifiers.step excontext operation).1.slots.map Slot.addr).Nodup := by
    rw [haddrs]
    exact hnodup
  have hkept : (∀ slots ∈ trace, Identified slots) → ∀ slots ∈ trace,
      KeepsIds slots (Identifiers.step excontext operation).1.slots := by
    intro htrace slots hslots slot hslot slot' hslot' hlive hlive' haddr
    obtain hnew | ⟨before, hbefore, hbeforeLive, hsame, hid⟩ :=
      h.mem_step operation htrace hslot' hlive'
    · have := h.known slots hslots slot hslot
      omega
    · rw [hid]
      exact h.kept htrace slots hslots slot hslot before hbefore hlive hbeforeLive
        (haddr.trans hsame.symm)
  have hpast (hall : ∀ slots ∈ trace ++ (Identifiers.step excontext operation).2,
      Identified slots) : (∀ slots ∈ trace, Identified slots) ∧
        Identified (Identifiers.step excontext operation).1.slots :=
    ⟨fun slots hslots => hall slots (List.mem_append_left _ hslots),
      hall _ (List.mem_append_right _ (List.mem_singleton.2 rfl))⟩
  exact
    { le := by
        rw [step_staticId]
        exact assign_fst_le (startId_le h.le) _
      nodup := hnodup'
      lt := hlt'
      held := fun hall => (hpast hall).2.positive
      distinct := fun hall => heldIds_of_identified (hpast hall).2
      known := by
        intro slots hslots slot hslot
        obtain hslots | hslots := List.mem_append.1 hslots
        · rw [step_allocated]
          exact Nat.lt_succ_of_lt (h.known slots hslots slot hslot)
        · cases List.mem_singleton.1 hslots
          exact hlt' slot hslot
      kept := by
        intro hall slots hslots
        obtain hslots | hslots := List.mem_append.1 hslots
        · exact hkept (hpast hall).1 slots hslots
        · cases List.mem_singleton.1 hslots
          intro slot hslot slot' hslot' _ _ haddr
          rw [eq_of_addr hnodup' hslot hslot' haddr]
      pairwise := by
        intro hall
        refine List.pairwise_append.2
          ⟨h.pairwise (hpast hall).1, List.pairwise_singleton _ _,
            fun slots hslots next hnext => ?_⟩
        cases List.mem_singleton.1 hnext
        exact hkept (hpast hall).1 slots hslots }

end Step

theorem identified_run_iff (operations : List Operation) :
    (∀ slots ∈ (Machine.run step init operations).2, Identified slots) ↔
      Machine.Guarded step NotInUse init operations := by
  rw [Machine.run_trace_iff (Q := fun _ trace => ∀ slots ∈ trace, Identified slots) step
    (fun _ _ operation h => Traced.step operation h)
    (fun _ _ operation h => identified_step_iff operation h) operations traced_init]
  exact and_iff_right (List.forall_mem_nil _)

/-- The identifiers stay apart, and an object keeps its own, exactly as long as the counter does
not come upon one that is in use. -/
theorem keptApart_iff (operations : List Operation) :
    KeptApart operations ↔ Machine.Guarded step NotInUse init operations := by
  rw [← identified_run_iff]
  refine ⟨fun h => h.identified, fun h => ⟨h, ?_⟩⟩
  exact (Machine.run_trace_invariant step (fun _ _ operation h => Traced.step operation h)
    operations traced_init).pairwise h

/-! ### A run around the counter -/

def oneCall (staticId : Int) (allocated : Nat) : ExContext :=
  ⟨staticId, [⟨0, 1, []⟩], [], [], allocated⟩

def subscriptions : Nat → List Operation
  | 0 => []
  | rounds + 1 =>
      subscriptions rounds ++ [.onSubscribes .newObject, .onSubscribes (.releaseObject 0)]

theorem run_subscription (staticId : Int) (allocated : Nat) (hstatic : staticId ≠ intMax) :
    (Machine.run step (oneCall staticId allocated)
      [.onSubscribes .newObject, .onSubscribes (.releaseObject 0)]).1 =
      oneCall (startId (staticId + 1)) (allocated + 2) := by
  have hnew : (step (oneCall staticId allocated) (.onSubscribes .newObject)).1 =
      ⟨staticId + 1, [⟨0, 1, []⟩], [⟨allocated, staticId, []⟩], [], allocated + 1⟩ := by
    have hupdate : updateObjects staticId [⟨allocated, -1, []⟩] =
        (staticId + 1, [⟨allocated, staticId, []⟩]) := by
      simp only [updateObjects, updateDialogs, takeId, increment, if_neg hstatic]
      rfl
    change eXosipUpdate ⟨staticId, [⟨0, 1, []⟩], [⟨allocated, -1, []⟩], [], allocated + 1⟩ = _
    rw [eXosipUpdate, startId, if_neg hstatic]
    change (⟨(updateObjects staticId [⟨allocated, -1, []⟩]).1, [⟨0, 1, []⟩],
      (updateObjects staticId [⟨allocated, -1, []⟩]).2, [], allocated + 1⟩ : ExContext) = _
    rw [hupdate]
  rw [Machine.run_cons, Machine.run_singleton]
  dsimp only
  rw [hnew]
  rfl

theorem run_subscriptions (rounds : Nat) (h : (rounds : Int) + 2 < intMax) :
    (Machine.run step (oneCall 2 1) (subscriptions rounds)).1 =
      oneCall (rounds + 2) (2 * rounds + 1) := by
  induction rounds with
  | zero => rfl
  | succ rounds ih =>
      rw [Int.natCast_succ] at h ⊢
      have hstart : startId ((rounds : Int) + 2 + 1) = rounds + 1 + 2 := by
        rw [startId, if_neg (by omega)]
        omega
      rw [subscriptions, Machine.run_append]
      dsimp only
      rw [ih (by omega), run_subscription _ _ (by omega), hstart]
      rfl

/-- Once the counter has come round, the second call gets the identifier of the first. -/
theorem not_keptApart : ¬ ∀ operations, KeptApart operations := by
  intro h
  obtain ⟨rounds, hrounds⟩ : ∃ rounds : Nat, (rounds : Int) + 2 = intMax - 1 :=
    ⟨2147483644, by decide⟩
  have hfirst : (step init (.onCalls .newObject)).1 = oneCall 2 1 := by decide
  have hround : (Machine.run step (oneCall 2 1) (subscriptions (rounds + 1))).1 =
      oneCall 1 (2 * rounds + 3) := by
    rw [subscriptions, Machine.run_append]
    dsimp only
    rw [run_subscriptions rounds (by omega), run_subscription _ _ (by omega), hrounds]
    rfl
  have hguarded := (identified_run_iff
    (.onCalls .newObject :: subscriptions (rounds + 1) ++ [.onCalls .newObject])).1
      (h _).identified
  rw [Machine.guarded_append, Machine.run_cons] at hguarded
  have hlast := hguarded.2
  dsimp only at hlast
  rw [hfirst, hround] at hlast
  have hnumber : numbersFor .call 1 [⟨.call, 2 * rounds + 3, true, -1⟩, ⟨.call, 0, true, 1⟩] =
      [1] := rfl
  have hheld : heldIds .call [⟨.call, 2 * rounds + 3, true, -1⟩, ⟨.call, 0, true, 1⟩] = [1] := rfl
  exact hlast.1.unused .call 1 (hnumber ▸ List.mem_singleton.2 rfl)
    (hheld ▸ List.mem_singleton.2 rfl)

end Identifiers
end Exosip
