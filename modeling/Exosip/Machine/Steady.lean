import Exosip.Machine.Run

/-! A property that holds in every state of a run, with one of everything it puts out. -/
namespace Machine

universe u v w

variable {σ : Type u} {ι : Type v} {ω : Type w} (step : Step σ ι ω)

/-- At every point of the run the state has the property, and every output has its own. -/
def Steady (I : σ → Prop) (Q : ω → Prop) (s : σ) (inputs : List ι) : Prop :=
  (∀ before after, inputs = before ++ after → I (run step s before).1) ∧
    ∀ o ∈ (run step s inputs).2, Q o

/-- The step leads to a state with the property and puts out only what is allowed. -/
def Steadily (I : σ → Prop) (Q : ω → Prop) (s : σ) (input : ι) : Prop :=
  I (step s input).1 ∧ ∀ o ∈ (step s input).2, Q o

variable {step} {I : σ → Prop} {Q : ω → Prop}

theorem steady_nil {s : σ} : Steady step I Q s [] ↔ I s := by
  constructor
  · intro h
    exact h.1 [] [] rfl
  · intro h
    refine ⟨?_, by simp⟩
    intro before after heq
    rwa [(List.append_eq_nil_iff.1 heq.symm).1]

theorem steady_cons {s : σ} {input : ι} {inputs : List ι} :
    Steady step I Q s (input :: inputs) ↔
      I s ∧ (∀ o ∈ (step s input).2, Q o) ∧ Steady step I Q (step s input).1 inputs := by
  unfold Steady
  rw [run_cons]
  dsimp only
  rw [List.forall_mem_append]
  constructor
  · intro h
    refine ⟨h.1 [] _ rfl, h.2.1, ?_, h.2.2⟩
    intro before after heq
    exact h.1 (input :: before) after (by rw [heq]; rfl)
  · intro h
    refine ⟨?_, h.2.1, h.2.2.2⟩
    intro before after heq
    cases before with
    | nil => exact h.1
    | cons first before =>
        rw [List.cons_append, List.cons.injEq] at heq
        rw [← heq.1, run_cons]
        exact h.2.2.1 before after heq.2

theorem steady_iff_guarded {s : σ} (hs : I s) (inputs : List ι) :
    Steady step I Q s inputs ↔ Guarded step (Steadily step I Q) s inputs := by
  induction inputs generalizing s with
  | nil => exact iff_of_true (steady_nil.2 hs) trivial
  | cons input inputs ih =>
      rw [steady_cons, Guarded, Steadily]
      constructor
      · intro h
        have hnext : I (step s input).1 := h.2.2.1 [] inputs rfl
        exact ⟨⟨hnext, h.2.1⟩, (ih hnext).1 h.2.2⟩
      · intro h
        exact ⟨hs, h.1.2, (ih h.1.1).2 h.2⟩

/-- When the inputs alone decide whether a step keeps the property, they decide it for a
run. -/
theorem steady_iff_forall {P : ι → Prop}
    (hstep : ∀ s input, I s → (Steadily step I Q s input ↔ P input)) {s : σ} (hs : I s)
    (inputs : List ι) : Steady step I Q s inputs ↔ ∀ input ∈ inputs, P input := by
  rw [steady_iff_guarded hs]
  induction inputs generalizing s with
  | nil => simp [Guarded]
  | cons input inputs ih =>
      rw [Guarded, List.forall_mem_cons, hstep s input hs]
      apply and_congr_right
      intro hinput
      exact ih ((hstep s input hs).2 hinput).1

end Machine
