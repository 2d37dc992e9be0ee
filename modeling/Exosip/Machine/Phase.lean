import Exosip.Machine.Run

/-! A quantity that is fixed when a machine enters a phase: between any two points of a
run that lie in the phase it is not raised. -/
namespace Machine

universe u v w

variable {σ : Type u} {ι : Type v} {ω : Type w} {ρ : Type*} [Preorder ρ]
  (step : Step σ ι ω) (phase ended : σ → Prop) (rank : σ → ρ)

def NeverRaised (s : σ) (inputs : List ι) : Prop :=
  ∀ before between after, inputs = before ++ (between ++ after) →
    phase (run step s before).1 → ¬ ended (run step s (before ++ between)).1 →
    rank (run step s (before ++ between)).1 ≤ rank (run step s before).1

/-- The step does not raise the rank, unless it ends the phase. -/
def Lowers (s : σ) (input : ι) : Prop :=
  phase s → ¬ ended (step s input).1 → rank (step s input).1 ≤ rank s

variable {step phase ended rank}

theorem run_lowers (hphase : ∀ s input, phase s → phase (step s input).1 ∨ ended (step s input).1)
    (hended : ∀ s input, ended s → ended (step s input).1) {s : σ} {inputs : List ι}
    (hrun : Guarded step (Lowers step phase ended rank) s inputs) (hs : phase s)
    (hlive : ¬ ended (run step s inputs).1) : rank (run step s inputs).1 ≤ rank s := by
  induction inputs generalizing s with
  | nil => exact le_rfl
  | cons input inputs ih =>
      rw [run_cons] at hlive ⊢
      have hnext : ¬ ended (step s input).1 := fun h =>
        hlive (run_invariant step hended inputs h)
      have hin : phase (step s input).1 := (hphase s input hs).resolve_right hnext
      exact (ih hrun.2 hin hlive).trans (hrun.1 hs hnext)

theorem neverRaised_iff_guarded
    (hphase : ∀ s input, phase s → phase (step s input).1 ∨ ended (step s input).1)
    (hended : ∀ s input, ended s → ended (step s input).1) (s : σ) (inputs : List ι) :
    NeverRaised step phase ended rank s inputs ↔
      Guarded step (Lowers step phase ended rank) s inputs := by
  constructor
  · intro h
    induction inputs generalizing s with
    | nil => trivial
    | cons input inputs ih =>
        constructor
        · simpa [Lowers] using h [] [input] inputs rfl
        · apply ih
          intro before between after heq
          simpa [run_cons] using h (input :: before) between after (by rw [heq]; rfl)
  · intro hrun before between after heq hin hlive
    rw [heq, guarded_append, guarded_append] at hrun
    rw [run_append] at hlive ⊢
    exact run_lowers hphase hended hrun.2.1 hin hlive

theorem neverRaised_of_lowers
    (hphase : ∀ s input, phase s → phase (step s input).1 ∨ ended (step s input).1)
    (hended : ∀ s input, ended s → ended (step s input).1)
    (hlowers : ∀ s input, Lowers step phase ended rank s input) (s : σ) (inputs : List ι) :
    NeverRaised step phase ended rank s inputs :=
  (neverRaised_iff_guarded hphase hended s inputs).2 (guarded_of_forall step hlowers s inputs)

end Machine
