import Mathlib.Algebra.Order.Group.Multiset
import Mathlib.Algebra.BigOperators.Group.List.Basic
import Mathlib.Tactic.Abel

/-! Programs that allocate and free blocks, where any allocation may fail. A block is named by
the place where it is allocated. The plan of a program is the list of its allocations with what
the program does when one fails; the rules follow a program along its plan. -/
namespace Machine

open Multiset

/-- The blocks that are allocated, and whether something has failed. -/
structure Heap (β : Type) where
  live : Multiset β
  failed : Bool

/-- A program; it has no result when it frees a block that is not allocated. -/
abbrev Alloc (β : Type) (α : Type) := StateT (Heap β) Option α

/-- An allocation: a failure ends the program, or is ignored, or loses what the block was meant
to hold. A program also ends when it refuses its argument. -/
inductive PlanStep (β : Type) where
  | checked (b : β)
  | ignored (b : β)
  | losing (b : β)
  | refused
  deriving DecidableEq, Repr

namespace Alloc

variable {β : Type}

section Program

variable [DecidableEq β] {α : Type} (ok : β → Bool)

def malloc (b : β) : Alloc β (Option β) := fun h =>
  if ok b then some (some b, { h with live := b ::ₘ h.live })
  else some (none, { h with failed := true })

def free (p : Option β) : Alloc β Unit := fun h =>
  match p with
  | none => some ((), h)
  | some b => if b ∈ h.live then some ((), { h with live := h.live.erase b }) else none

def freeAll : List (Option β) → Alloc β Unit
  | [] => pure ()
  | p :: ps => do
      free p
      freeAll ps

/-- The argument is not one that the program works on. -/
def refuse (a : α) : Alloc β α := fun h => some (a, { h with failed := true })

end Program

/-! ### Plans -/

section Plan

variable (ok : β → Bool)

def stops : List (PlanStep β) → Bool
  | [] => false
  | .checked b :: plan => !ok b || stops plan
  | .refused :: _ => true
  | .ignored _ :: plan | .losing _ :: plan => stops plan

def fails : List (PlanStep β) → Bool
  | [] => false
  | .checked b :: plan | .ignored b :: plan | .losing b :: plan => !ok b || fails plan
  | .refused :: _ => true

/-- Something is lost before the program ends. -/
def loses : List (PlanStep β) → Bool
  | [] => false
  | .checked b :: plan => ok b && loses plan
  | .ignored _ :: plan => loses plan
  | .losing b :: plan => !ok b || loses plan
  | .refused :: _ => false

theorem stops_append (p q : List (PlanStep β)) :
    stops ok (p ++ q) = (stops ok p || stops ok q) := by
  induction p with
  | nil => rfl
  | cons step p ih => cases step <;> simp [stops, ih, Bool.or_assoc]

theorem fails_of_stops {p : List (PlanStep β)} (h : stops ok p = true) : fails ok p = true := by
  induction p with
  | nil => cases h
  | cons step p ih =>
      cases step with
      | refused => rfl
      | checked b =>
          simp only [stops, fails, Bool.or_eq_true] at h ⊢
          exact h.imp_right ih
      | ignored b =>
          simp only [fails, ih h, Bool.or_true]
      | losing b =>
          simp only [fails, ih h, Bool.or_true]

theorem fails_of_loses {p : List (PlanStep β)} (h : loses ok p = true) : fails ok p = true := by
  induction p with
  | nil => cases h
  | cons step p ih =>
      cases step with
      | refused => rfl
      | checked b =>
          simp only [loses, fails, Bool.and_eq_true, Bool.or_eq_true] at h ⊢
          exact .inr (ih h.2)
      | ignored b => simp only [fails, ih h, Bool.or_true]
      | losing b =>
          simp only [loses, fails, Bool.or_eq_true] at h ⊢
          exact h.imp_right ih

theorem fails_append (p q : List (PlanStep β)) :
    fails ok (p ++ q) = (fails ok p || (!stops ok p && fails ok q)) := by
  induction p with
  | nil => simp [fails, stops]
  | cons step p ih =>
      cases step with
      | refused => simp [fails, stops]
      | checked b => cases hb : ok b <;> simp [fails, stops, ih, hb]
      | ignored b => simp [fails, stops, ih, Bool.or_assoc]
      | losing b => simp [fails, stops, ih, Bool.or_assoc]

theorem loses_append (p q : List (PlanStep β)) :
    loses ok (p ++ q) = (loses ok p || (!stops ok p && loses ok q)) := by
  induction p with
  | nil => simp [loses, stops]
  | cons step p ih =>
      cases step with
      | refused => simp [loses, stops]
      | checked b => cases hb : ok b <;> simp [loses, stops, ih, hb]
      | ignored b => simp [loses, stops, ih]
      | losing b => simp [loses, stops, ih, Bool.or_assoc]

end Plan

/-! ### Following a plan -/

def block (p : Option β) : Multiset β := p.elim 0 ({·})

@[simp] theorem block_none : block (none : Option β) = 0 := rfl

@[simp] theorem block_some (b : β) : block (some b) = {b} := rfl

def blocks (ps : List (Option β)) : Multiset β := (ps.map block).sum

@[simp] theorem blocks_nil : blocks ([] : List (Option β)) = 0 := rfl

@[simp] theorem blocks_cons (p : Option β) (ps : List (Option β)) :
    blocks (p :: ps) = block p + blocks ps := by
  simp [blocks]

@[simp] theorem blocks_append (ps qs : List (Option β)) :
    blocks (ps ++ qs) = blocks ps + blocks qs := by
  simp [blocks]

section Rules

variable {α γ : Type} {ok : β → Bool} {p q : List (PlanStep β)} {held : Multiset β}
  {x : Alloc β γ} {failing : γ → Bool} {owns : γ → Multiset β}

/-- The program has the blocks `held` and goes by the plan: it fails when the plan stops, leaves
what its result owns and what was lost on the way, and does not touch anything else. -/
def Follows (ok : β → Bool) (plan : List (PlanStep β)) (held : Multiset β) (x : Alloc β γ)
    (failing : γ → Bool) (owns : γ → Multiset β) : Prop :=
  ∀ h rest, h.live = held + rest → ∃ c h' lost, x h = some (c, h') ∧
    h'.live = owns c + (lost + rest) ∧ failing c = stops ok plan ∧
    (lost = 0 ↔ loses ok plan = false) ∧ h'.failed = (h.failed || fails ok plan)

/-- The program frees what it does not own in the end, and reports a failure. -/
def Unwinds (held : Multiset β) (x : Alloc β γ) (failing : γ → Bool) (owns : γ → Multiset β) :
    Prop :=
  ∀ h rest, h.live = held + rest → ∃ c h', x h = some (c, h') ∧ h'.live = owns c + rest ∧
    failing c = true ∧ h'.failed = h.failed

theorem Follows.pure {c : γ} (hheld : held = owns c) (hc : failing c = false) :
    Follows ok [] held (Pure.pure c) failing owns := by
  intro h rest hlive
  exact ⟨c, h, 0, rfl, by rw [hlive, hheld, zero_add], hc, by simp [loses], by simp [fails]⟩

theorem Unwinds.pure {c : γ} (hheld : held = owns c) (hc : failing c = true) :
    Unwinds held (Pure.pure c : Alloc β γ) failing owns := by
  intro h rest hlive
  exact ⟨c, h, rfl, by rw [hlive, hheld], hc, rfl⟩

theorem Follows.refuse {c : γ} (howns : owns c = held) (hc : failing c = true) :
    Follows ok [.refused] held (Alloc.refuse c) failing owns := by
  intro h rest hlive
  exact ⟨c, { h with failed := true }, 0, rfl, by rw [hlive, howns, zero_add], hc, by simp [loses],
    by simp [fails]⟩

theorem Follows.bind {k : γ → Alloc β α} {failing' : α → Bool} {owns' : α → Multiset β}
    (hx : Follows ok p held x failing owns)
    (hgood : ∀ a, failing a = false → stops ok p = false →
      Follows ok q (owns a) (k a) failing' owns')
    (hbad : ∀ a, failing a = true → Unwinds (owns a) (k a) failing' owns') :
    Follows ok (p ++ q) held (x >>= k) failing' owns' := by
  intro h rest hlive
  obtain ⟨a, h₁, lost, hrun, hlive₁, hfailing, hlost, hfailed⟩ := hx h rest hlive
  cases ha : failing a with
  | true =>
      have hstops : stops ok p = true := hfailing ▸ ha
      obtain ⟨c, h₂, hrun', hlive₂, hc, hfailed'⟩ := hbad a ha h₁ (lost + rest) hlive₁
      refine ⟨c, h₂, lost, ?_, hlive₂, ?_, ?_, ?_⟩
      · simp [Bind.bind, StateT.bind, hrun, hrun']
      · rw [hc, stops_append, hstops, Bool.true_or]
      · rw [hlost, loses_append, hstops]
        simp
      · rw [hfailed', hfailed, fails_append, hstops]
        simp
  | false =>
      have hstops : stops ok p = false := hfailing ▸ ha
      obtain ⟨c, h₂, lost', hrun', hlive₂, hc, hlost', hfailed'⟩ :=
        hgood a ha hstops h₁ (lost + rest) hlive₁
      refine ⟨c, h₂, lost' + lost, ?_, ?_, ?_, ?_, ?_⟩
      · simp [Bind.bind, StateT.bind, hrun, hrun']
      · rw [hlive₂, add_assoc lost']
      · rw [hc, stops_append, hstops, Bool.false_or]
      · rw [← card_eq_zero, card_add, Nat.add_eq_zero_iff, card_eq_zero, card_eq_zero, hlost,
          hlost',
          loses_append, hstops]
        simp [and_comm]
      · rw [hfailed', hfailed, fails_append, hstops, Bool.or_assoc]
        simp

theorem Follows.frame (hx : Follows ok p held x failing owns) (other : Multiset β) :
    Follows ok p (held + other) x failing fun a => owns a + other := by
  intro h rest hlive
  obtain ⟨c, h', lost, hrun, hlive', hc⟩ := hx h (other + rest) (by rw [hlive, add_assoc])
  exact ⟨c, h', lost, hrun, by rw [hlive', add_assoc, add_left_comm lost], hc⟩

theorem Follows.stepOf {k : γ → Alloc β α} {failing' : α → Bool} {owns' : α → Multiset β}
    (hx : Follows ok p 0 x failing owns)
    (hgood : ∀ a, failing a = false → stops ok p = false →
      Follows ok q (owns a + held) (k a) failing' owns')
    (hbad : ∀ a, failing a = true → Unwinds (owns a + held) (k a) failing' owns') :
    Follows ok (p ++ q) held (x >>= k) failing' owns' :=
  (zero_add held ▸ hx.frame held).bind hgood hbad

theorem Follows.step {k : γ → Alloc β α} {failing' : α → Bool} {owns' : α → Multiset β}
    (hx : Follows ok p 0 x failing owns)
    (hgood : ∀ a, failing a = false → Follows ok q (owns a + held) (k a) failing' owns')
    (hbad : ∀ a, failing a = true → Unwinds (owns a + held) (k a) failing' owns') :
    Follows ok (p ++ q) held (x >>= k) failing' owns' :=
  hx.stepOf (fun a ha _ => hgood a ha) hbad

theorem Follows.andThen {k : γ → Alloc β α} {failing' : α → Bool} {owns' : α → Multiset β}
    (hx : Follows ok p 0 x (fun _ => false) owns)
    (hk : ∀ a, Follows ok q (owns a + held) (k a) failing' owns') :
    Follows ok (p ++ q) held (x >>= k) failing' owns' :=
  hx.step (fun a _ => hk a) fun _ h => absurd h Bool.false_ne_true

section Primitives

theorem Follows.mallocChecked (b : β) :
    Follows ok [.checked b] 0 (malloc ok b) (·.isNone) block := by
  intro h rest hlive
  rw [zero_add] at hlive
  cases hok : ok b with
  | true =>
      exact ⟨some b, { h with live := b ::ₘ h.live }, 0, by simp [malloc, hok],
        by rw [hlive]; simp [Multiset.singleton_add], by simp [stops, hok], by simp [loses],
        by simp [fails, hok]⟩
  | false =>
      exact ⟨none, { h with failed := true }, 0, by simp [malloc, hok], by simp [hlive],
        by simp [stops, hok], by simp [loses], by simp [fails, hok]⟩

theorem Follows.mallocIgnored (b : β) :
    Follows ok [.ignored b] 0 (malloc ok b) (fun _ => false) block := by
  intro h rest hlive
  rw [zero_add] at hlive
  cases hok : ok b with
  | true =>
      exact ⟨some b, { h with live := b ::ₘ h.live }, 0, by simp [malloc, hok],
        by rw [hlive]; simp [Multiset.singleton_add], rfl, by simp [loses], by simp [fails, hok]⟩
  | false =>
      exact ⟨none, { h with failed := true }, 0, by simp [malloc, hok], by simp [hlive],
        rfl, by simp [loses], by simp [fails, hok]⟩

theorem Follows.mallocLosing (b : β) {data : Multiset β} (hdata : data ≠ 0) :
    Follows ok [.losing b] data (malloc ok b) (fun _ => false)
      fun p => p.elim 0 fun b => {b} + data := by
  intro h rest hlive
  cases hok : ok b with
  | true =>
      exact ⟨some b, { h with live := b ::ₘ h.live }, 0, by simp [malloc, hok],
        by rw [hlive]; simp [Multiset.singleton_add], rfl, by simp [loses, hok],
        by simp [fails, hok]⟩
  | false =>
      exact ⟨none, { h with failed := true }, data, by simp [malloc, hok], by simp [hlive],
        rfl, by simp [loses, hok, hdata], by simp [fails, hok]⟩

variable [DecidableEq β]

theorem run_free (p : Option β) (h : Heap β) (rest : Multiset β) (hlive : h.live = block p + rest) :
    free p h = some ((), { h with live := rest }) := by
  cases p with
  | none =>
      have hrest : h.live = rest := by rw [hlive, block_none, zero_add]
      simp [free, ← hrest]
  | some b =>
      have hmem : b ∈ h.live := by simp [hlive]
      have hrest : h.live.erase b = rest := by
        rw [hlive, block_some, Multiset.singleton_add, Multiset.erase_cons_head]
      simp [free, hmem, hrest]

theorem run_freeAll (ps : List (Option β)) (h : Heap β) (rest : Multiset β)
    (hlive : h.live = blocks ps + rest) : freeAll ps h = some ((), { h with live := rest }) := by
  induction ps generalizing h with
  | nil =>
      have hrest : h.live = rest := by rw [hlive, blocks_nil, zero_add]
      simp [freeAll, ← hrest]
      rfl
  | cons p ps ih =>
      rw [blocks_cons, add_assoc] at hlive
      have hfirst := run_free p h (blocks ps + rest) hlive
      have hrest := ih { h with live := blocks ps + rest } rfl
      simp [freeAll, Bind.bind, StateT.bind, hfirst, hrest]

theorem Unwinds.freeAll {ps : List (Option β)} {k : Alloc β γ} (hk : Unwinds held k failing owns) :
    Unwinds (blocks ps + held) (do freeAll ps; k) failing owns := by
  intro h rest hlive
  rw [add_assoc] at hlive
  obtain ⟨c, h', hrun, hspec⟩ := hk { h with live := held + rest } rest rfl
  refine ⟨c, h', ?_, hspec⟩
  simp [Bind.bind, StateT.bind, run_freeAll ps h (held + rest) hlive, hrun]

end Primitives

end Rules
end Alloc
end Machine
