import Exosip.Machine.Run

/-! A machine that numbers what it puts out and keeps the last number: when each step takes
numbers above it, the numbers of a run increase. -/
namespace Machine

universe u v w

variable {σ : Type u} {ι : Type v} {ω : Type w} {ρ : Type*} [Preorder ρ]
  (step : Step σ ι ω) (last : σ → ρ) (number : ω → Option ρ)

/-- The numbers of the outputs, one above the other, begin above the last one before. -/
def Increasing (s : σ) (outputs : List ω) : Prop :=
  (last s :: outputs.filterMap number).Pairwise (· < ·)

/-- The step takes increasing numbers and leaves the last one above all of them. -/
structure Ascends (s : σ) (input : ι) : Prop where
  increasing : Increasing last number s (step s input).2
  last_le : ∀ n ∈ last s :: (step s input).2.filterMap number, n ≤ last (step s input).1

variable {step last number}

theorem ascends_of_none {s : σ} {input : ι} (hnone : (step s input).2.filterMap number = [])
    (hlast : last (step s input).1 = last s) : Ascends step last number s input := by
  constructor
  · rw [Increasing, hnone]
    exact List.pairwise_singleton _ _
  · intro n hn
    rw [hnone, List.mem_singleton] at hn
    rw [hn, hlast]

theorem ascends_of_one {s : σ} {input : ι} {n : ρ} (hone : (step s input).2.filterMap number = [n])
    (hlt : last s < n) (hlast : last (step s input).1 = n) : Ascends step last number s input := by
  constructor
  · rw [Increasing, hone]
    exact List.pairwise_pair.2 hlt
  · intro m hm
    rw [hone, List.mem_cons, List.mem_singleton] at hm
    rw [hlast]
    rcases hm with hm | hm
    · rw [hm]
      exact hlt.le
    · rw [hm]

theorem guarded_increasing {allowed : σ → ι → Prop}
    (hstep : ∀ s input, allowed s input → Ascends step last number s input)
    {s : σ} {inputs : List ι} (hrun : Guarded step allowed s inputs) :
    Increasing last number s (run step s inputs).2 := by
  induction inputs generalizing s with
  | nil => exact List.pairwise_singleton _ _
  | cons input inputs ih =>
      have hfirst := hstep s input hrun.1
      have hrest := List.pairwise_cons.1 (ih hrun.2)
      rw [Increasing, run_cons, List.filterMap_append, ← List.cons_append]
      apply List.pairwise_append.2
      refine ⟨hfirst.increasing, hrest.2, ?_⟩
      intro n hn m hm
      exact (hfirst.last_le n hn).trans_lt (hrest.1 m hm)

end Machine
