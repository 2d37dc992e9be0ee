import Exosip.Machine.Run
import Mathlib.Data.List.Count

/-! A machine some of whose outputs cost something: between two inputs that renew its budget
a run puts out no more of them than the budget allows. -/
namespace Machine

universe u v w

variable {σ : Type u} {ι : Type v} {ω : Type w} (step : Step σ ι ω) (renews : ι → Prop)
  (spends : ω → Bool)

/-- No stretch of the run without a renewal puts out more than `limit` costly outputs. -/
def SpendsAtMost (limit : Nat) (s : σ) (inputs : List ι) : Prop :=
  ∀ before between after, inputs = before ++ (between ++ after) →
    (∀ input ∈ between, ¬ renews input) →
    (run step (run step s before).1 between).2.countP spends ≤ limit

/-- What a step costs is taken off the budget. -/
def Pays (budget : σ → Nat) (s : σ) (input : ι) : Prop :=
  (step s input).2.countP spends + budget (step s input).1 ≤ budget s

variable {step renews spends} {allowed : σ → ι → Prop} {budget : σ → Nat}

theorem run_pays
    (hstep : ∀ s input, allowed s input → ¬ renews input → Pays step spends budget s input)
    {s : σ} {inputs : List ι} (hrun : Guarded step allowed s inputs)
    (hnone : ∀ input ∈ inputs, ¬ renews input) :
    (run step s inputs).2.countP spends + budget (run step s inputs).1 ≤ budget s := by
  induction inputs generalizing s with
  | nil => simp
  | cons input inputs ih =>
      rw [List.forall_mem_cons] at hnone
      have hfirst := hstep s input hrun.1 hnone.1
      have hrest := ih hrun.2 hnone.2
      unfold Pays at hfirst
      rw [run_cons, List.countP_append]
      dsimp only
      omega

theorem spendsAtMost_of_pays {limit : Nat} (hlimit : ∀ s, budget s ≤ limit)
    (hstep : ∀ s input, allowed s input → ¬ renews input → Pays step spends budget s input)
    {s : σ} {inputs : List ι} (hrun : Guarded step allowed s inputs) :
    SpendsAtMost step renews spends limit s inputs := by
  intro before between after heq hnone
  rw [heq, guarded_append, guarded_append] at hrun
  have hpays := run_pays hstep hrun.2.1 hnone
  have hbudget := hlimit (run step s before).1
  omega

end Machine
