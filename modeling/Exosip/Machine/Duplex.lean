import Mathlib.Logic.Relation
import Exosip.Machine.Run

/-! Two machines with a network between them. What one side sends may be lost, may come late,
out of order and more than once, and may be changed on its way as far as a relation allows. -/
namespace Machine

universe u v w

variable {σ : Type u} {τ : Type v} {ι κ μ : Type w}

/-- The two sides, and all that each of them has sent to the other one so far. -/
structure Duplex (σ : Type u) (τ : Type v) (μ : Type w) where
  left : σ
  right : τ
  toRight : List μ
  toLeft : List μ

/-- One of the messages that were sent arrives as `message`. -/
def Arrives (carries : μ → μ → Prop) (sent : List μ) (message : μ) : Prop :=
  ∃ original ∈ sent, carries original message

theorem Arrives.append_left {carries : μ → μ → Prop} {sent : List μ} {message : μ}
    (h : Arrives carries sent message) (more : List μ) :
    Arrives carries (sent ++ more) message := by
  obtain ⟨original, hsent, hcarries⟩ := h
  exact ⟨original, List.mem_append_left more hsent, hcarries⟩

/-- A side of the link: how it steps, and the inputs that it may get while the messages that
satisfy the predicate are under way to it. -/
structure Side (σ : Type u) (ι μ : Type w) where
  step : Step σ ι μ
  accepts : (μ → Prop) → ι → Prop

namespace Duplex

variable (carries : μ → μ → Prop) (leftSide : Side σ ι μ) (rightSide : Side τ κ μ)

/-- One of the sides takes an input, and what it sends is under way from then on. -/
def step : Step (Duplex σ τ μ) (ι ⊕ κ) Empty
  | link, .inl input =>
      ({ link with
          left := (leftSide.step link.left input).1
          toRight := link.toRight ++ (leftSide.step link.left input).2 }, [])
  | link, .inr input =>
      ({ link with
          right := (rightSide.step link.right input).1
          toLeft := link.toLeft ++ (rightSide.step link.right input).2 }, [])

/-- A side gets only such messages as the other one has sent. -/
def Accepts (link : Duplex σ τ μ) : ι ⊕ κ → Prop
  | .inl input => leftSide.accepts (Arrives carries link.toLeft) input
  | .inr input => rightSide.accepts (Arrives carries link.toRight) input

end Duplex

/-- An invariant of one side alone: of its state, what it has sent and what may arrive. -/
structure Side.Keeps (side : Side σ ι μ) (I : σ → List μ → (μ → Prop) → Prop) : Prop where
  mono : ∀ {s sent} {incoming incoming' : μ → Prop}, (∀ m, incoming m → incoming' m) →
    I s sent incoming → I s sent incoming'
  step : ∀ {s sent incoming input}, side.accepts incoming input → I s sent incoming →
    I (side.step s input).1 (sent ++ (side.step s input).2) incoming

/-- The invariants of the two sides together. -/
def Duplex.Both (carries : μ → μ → Prop) (L : σ → List μ → (μ → Prop) → Prop)
    (R : τ → List μ → (μ → Prop) → Prop) (link : Duplex σ τ μ) : Prop :=
  L link.left link.toRight (Arrives carries link.toLeft) ∧
    R link.right link.toLeft (Arrives carries link.toRight)

namespace Duplex

variable {carries : μ → μ → Prop} {leftSide : Side σ ι μ} {rightSide : Side τ κ μ}
  {L : σ → List μ → (μ → Prop) → Prop} {R : τ → List μ → (μ → Prop) → Prop}

/-- Each side keeps its invariant by itself, whatever the other one sends. -/
theorem both_step (hleft : leftSide.Keeps L) (hright : rightSide.Keeps R)
    {link : Duplex σ τ μ} {input : ι ⊕ κ} (hinput : Accepts carries leftSide rightSide link input)
    (h : Both carries L R link) : Both carries L R (step leftSide rightSide link input).1 := by
  cases input with
  | inl input =>
      constructor
      · exact hleft.step hinput h.1
      · exact hright.mono (fun m hm => hm.append_left _) h.2
  | inr input =>
      constructor
      · exact hleft.mono (fun m hm => hm.append_left _) h.1
      · exact hright.step hinput h.2

theorem both_run (hleft : leftSide.Keeps L) (hright : rightSide.Keeps R)
    {link : Duplex σ τ μ} {inputs : List (ι ⊕ κ)}
    (hrun : Guarded (step leftSide rightSide) (Accepts carries leftSide rightSide) link inputs)
    (h : Both carries L R link) :
    Both carries L R (run (step leftSide rightSide) link inputs).1 :=
  guarded_invariant _ (fun _ _ => both_step hleft hright) hrun h

end Duplex

theorem guarded_refines {ω : Type*} {α : Type*} {step : Step σ ι ω} {allowed : σ → ι → Prop}
    {I : σ → Prop} {A : α → α → Prop} (abstract : σ → α)
    (hkeeps : ∀ s input, allowed s input → I s → I (step s input).1)
    (hstep : ∀ s input, allowed s input → I s →
      Relation.ReflGen A (abstract s) (abstract (step s input).1))
    {s : σ} {inputs : List ι} (hrun : Guarded step allowed s inputs) (h : I s) :
    Relation.ReflTransGen A (abstract s) (abstract (run step s inputs).1) := by
  induction inputs generalizing s with
  | nil => exact .refl
  | cons input inputs ih =>
      have hfirst := (hstep s input hrun.1 h).to_reflTransGen
      exact hfirst.trans (ih hrun.2 (hkeeps s input hrun.1 h))

end Machine
