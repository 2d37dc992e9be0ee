import Mathlib.Data.List.Basic
import Mathlib.Order.Basic

/-! Runs of a machine that takes one input at a time and answers with outputs.
A run is a fold over its inputs; every rule below turns a fact about one step
into a fact about all runs. -/
namespace Machine

universe u v w

abbrev Step (σ : Type u) (ι : Type v) (ω : Type w) := σ → ι → σ × List ω

variable {σ : Type u} {ι : Type v} {ω : Type w} (step : Step σ ι ω)

def run : σ → List ι → σ × List ω
  | s, [] => (s, [])
  | s, input :: inputs =>
      let next := step s input
      let rest := run next.1 inputs
      (rest.1, next.2 ++ rest.2)

@[simp] theorem run_nil (s : σ) : run step s [] = (s, []) := rfl

theorem run_cons (s : σ) (input : ι) (inputs : List ι) :
    run step s (input :: inputs) =
      ((run step (step s input).1 inputs).1,
        (step s input).2 ++ (run step (step s input).1 inputs).2) := rfl

@[simp] theorem run_singleton (s : σ) (input : ι) : run step s [input] = step s input := by
  simp [run_cons]

theorem run_append (s : σ) (inputs₁ inputs₂ : List ι) :
    run step s (inputs₁ ++ inputs₂) =
      ((run step (run step s inputs₁).1 inputs₂).1,
        (run step s inputs₁).2 ++ (run step (run step s inputs₁).1 inputs₂).2) := by
  induction inputs₁ generalizing s with
  | nil => simp
  | cons input inputs ih => simp only [List.cons_append, run_cons, ih, List.append_assoc]

/-- The inputs of the run are allowed, each in the state that it meets. -/
def Guarded (allowed : σ → ι → Prop) : σ → List ι → Prop
  | _, [] => True
  | s, input :: inputs => allowed s input ∧ Guarded allowed (step s input).1 inputs

instance decidableGuarded {allowed : σ → ι → Prop} [∀ s input, Decidable (allowed s input)] :
    ∀ (s : σ) (inputs : List ι), Decidable (Guarded step allowed s inputs)
  | _, [] => inferInstanceAs (Decidable True)
  | s, input :: inputs => @instDecidableAnd _ _ _ (decidableGuarded (step s input).1 inputs)

theorem guarded_append {allowed : σ → ι → Prop} {s : σ} {inputs₁ inputs₂ : List ι} :
    Guarded step allowed s (inputs₁ ++ inputs₂) ↔
      Guarded step allowed s inputs₁ ∧ Guarded step allowed (run step s inputs₁).1 inputs₂ := by
  induction inputs₁ generalizing s with
  | nil => simp [Guarded]
  | cons input inputs ih => simp only [List.cons_append, Guarded, run_cons, ih, and_assoc]

theorem guarded_congr {allowed allowed' : σ → ι → Prop}
    (h : ∀ s input, allowed s input ↔ allowed' s input) (s : σ) (inputs : List ι) :
    Guarded step allowed s inputs ↔ Guarded step allowed' s inputs := by
  induction inputs generalizing s with
  | nil => exact Iff.rfl
  | cons input inputs ih => simp only [Guarded, h, ih]

theorem guarded_of_forall {allowed : σ → ι → Prop} (h : ∀ s input, allowed s input) (s : σ)
    (inputs : List ι) : Guarded step allowed s inputs := by
  induction inputs generalizing s with
  | nil => trivial
  | cons input inputs ih => exact ⟨h s input, ih _⟩

theorem guarded_of_forall_mem {Q : ι → Prop} {inputs : List ι} (h : ∀ input ∈ inputs, Q input)
    (s : σ) : Guarded step (fun _ input => Q input) s inputs := by
  induction inputs generalizing s with
  | nil => trivial
  | cons input inputs ih =>
      rw [List.forall_mem_cons] at h
      exact ⟨h.1, ih h.2 _⟩

theorem Guarded.and_of_forall {allowed : σ → ι → Prop} {Q : ι → Prop} {s : σ} {inputs : List ι}
    (h : Guarded step allowed s inputs) (hQ : ∀ input ∈ inputs, Q input) :
    Guarded step (fun s input => allowed s input ∧ Q input) s inputs := by
  induction inputs generalizing s with
  | nil => trivial
  | cons input inputs ih =>
      rw [List.forall_mem_cons] at hQ
      exact ⟨⟨h.1, hQ.1⟩, ih h.2 hQ.2⟩

theorem guarded_invariant {allowed : σ → ι → Prop} {I : σ → Prop}
    (hstep : ∀ s input, allowed s input → I s → I (step s input).1)
    {s : σ} {inputs : List ι} (hrun : Guarded step allowed s inputs) (h : I s) :
    I (run step s inputs).1 := by
  induction inputs generalizing s with
  | nil => exact h
  | cons input inputs ih => exact ih hrun.2 (hstep s input hrun.1 h)

theorem guarded_congr_of_invariant {allowed allowed' : σ → ι → Prop} {I : σ → Prop}
    (hcongr : ∀ s input, I s → (allowed s input ↔ allowed' s input))
    (hstep : ∀ s input, I s → allowed s input → I (step s input).1)
    {s : σ} (inputs : List ι) (h : I s) :
    Guarded step allowed s inputs ↔ Guarded step allowed' s inputs := by
  induction inputs generalizing s with
  | nil => exact Iff.rfl
  | cons input inputs ih =>
      rw [Guarded, Guarded, hcongr s input h]
      apply and_congr_right
      intro hallowed
      exact ih (hstep s input h ((hcongr s input h).2 hallowed))

theorem run_invariant {I : σ → Prop} (hstep : ∀ s input, I s → I (step s input).1)
    {s : σ} (inputs : List ι) (h : I s) : I (run step s inputs).1 := by
  induction inputs generalizing s with
  | nil => exact h
  | cons input inputs ih => exact ih (hstep s input h)

theorem run_trace_invariant {I : σ → List ω → Prop}
    (hstep : ∀ s trace input, I s trace → I (step s input).1 (trace ++ (step s input).2))
    {s : σ} (inputs : List ι) (h : I s []) : I (run step s inputs).1 (run step s inputs).2 := by
  have hfrom (inputs : List ι) : ∀ s trace, I s trace →
      I (run step s inputs).1 (trace ++ (run step s inputs).2) := by
    induction inputs with
    | nil =>
        intro s trace h
        rwa [run_nil, List.append_nil]
    | cons input inputs ih =>
        intro s trace h
        rw [run_cons, ← List.append_assoc]
        exact ih _ _ (hstep s trace input h)
  exact hfrom inputs s [] h

/-- Where a step keeps a property of what was put out exactly when its input is allowed, a run
has the property exactly when all of its inputs are allowed. -/
theorem run_trace_iff {I Q : σ → List ω → Prop} {allowed : σ → ι → Prop}
    (hinv : ∀ s trace input, I s trace → I (step s input).1 (trace ++ (step s input).2))
    (hstep : ∀ s trace input, I s trace →
      (Q (step s input).1 (trace ++ (step s input).2) ↔ Q s trace ∧ allowed s input))
    {s : σ} (inputs : List ι) (h : I s []) :
    Q (run step s inputs).1 (run step s inputs).2 ↔ Q s [] ∧ Guarded step allowed s inputs := by
  have hfrom (inputs : List ι) : ∀ s trace, I s trace →
      (Q (run step s inputs).1 (trace ++ (run step s inputs).2) ↔
        Q s trace ∧ Guarded step allowed s inputs) := by
    induction inputs with
    | nil =>
        intro s trace _
        rw [run_nil, List.append_nil, Guarded, and_true]
    | cons input inputs ih =>
        intro s trace h
        rw [run_cons, ← List.append_assoc, ih _ _ (hinv s trace input h), hstep s trace input h,
          Guarded, and_assoc]
  exact hfrom inputs s [] h

theorem guarded_outputs {allowed : σ → ι → Prop} {I : σ → Prop} {Q : ω → Prop}
    (hstep : ∀ s input, allowed s input → I s →
      I (step s input).1 ∧ ∀ o ∈ (step s input).2, Q o)
    {s : σ} {inputs : List ι} (hrun : Guarded step allowed s inputs) (h : I s) :
    ∀ o ∈ (run step s inputs).2, Q o := by
  induction inputs generalizing s with
  | nil => simp
  | cons input inputs ih =>
      obtain ⟨hnext, hout⟩ := hstep s input hrun.1 h
      intro o ho
      rcases List.mem_append.1 ho with ho | ho
      · exact hout o ho
      · exact ih hrun.2 hnext o ho

theorem run_outputs {I : σ → Prop} {Q : ω → Prop}
    (hstep : ∀ s input, I s → I (step s input).1 ∧ ∀ o ∈ (step s input).2, Q o)
    {s : σ} (inputs : List ι) (h : I s) : ∀ o ∈ (run step s inputs).2, Q o := by
  induction inputs generalizing s with
  | nil => simp
  | cons input inputs ih =>
      obtain ⟨hnext, hout⟩ := hstep s input h
      intro o ho
      rcases List.mem_append.1 ho with ho | ho
      · exact hout o ho
      · exact ih hnext o ho

/-- Two phases: while `U` lasts no success has been put out, the success leads to `S`, and
from `S` nothing forbidden is put out any more. -/
theorem guarded_quiet_after {allowed : σ → ι → Prop} {U S : σ → Prop}
    {success forbidden : ω → Prop}
    (hbefore : ∀ s input, allowed s input → U s →
      (step s input).2.Pairwise (fun o o' => success o → ¬ forbidden o') ∧
      ((∃ o ∈ (step s input).2, success o) → S (step s input).1) ∧
      ((∀ o ∈ (step s input).2, ¬ success o) → U (step s input).1))
    (hafter : ∀ s input, allowed s input → S s →
      S (step s input).1 ∧ ∀ o ∈ (step s input).2, ¬ forbidden o)
    {s : σ} {inputs : List ι} (hrun : Guarded step allowed s inputs) (h : U s) :
    (run step s inputs).2.Pairwise fun o o' => success o → ¬ forbidden o' := by
  induction inputs generalizing s with
  | nil => exact List.Pairwise.nil
  | cons input inputs ih =>
      obtain ⟨hout, hsuccess, hnone⟩ := hbefore s input hrun.1 h
      rw [run_cons]
      refine List.pairwise_append.2 ?_
      by_cases hsent : ∃ o ∈ (step s input).2, success o
      · have hquiet := guarded_outputs step hafter hrun.2 (hsuccess hsent)
        exact ⟨hout, List.pairwise_iff_forall_sublist.2 fun hsub _ =>
          hquiet _ (hsub.subset (by simp)), fun _ _ o' ho' _ => hquiet o' ho'⟩
      · push Not at hsent
        exact ⟨hout, ih hrun.2 (hnone hsent), fun o ho _ _ hs => absurd hs (hsent o ho)⟩

theorem run_rank {ρ : Type*} [Preorder ρ] (rank : σ → ρ)
    (hstep : ∀ s input, rank s ≤ rank (step s input).1) (s : σ) (inputs : List ι) :
    rank s ≤ rank (run step s inputs).1 := by
  induction inputs generalizing s with
  | nil => exact le_rfl
  | cons input inputs ih => exact (hstep s input).trans (ih _)

/-- An output that each step emits once exactly when it enters an absorbing set
is emitted once by a run that ends in the set, and never by any other. -/
theorem run_filter_entering {E : σ → Prop} [DecidablePred E] {p : ω → Bool} {o : ω}
    (habsorb : ∀ s input, E s → E (step s input).1)
    (hfilter : ∀ s input, (step s input).2.filter p =
      if ¬ E s ∧ E (step s input).1 then [o] else [])
    (s : σ) (inputs : List ι) :
    (run step s inputs).2.filter p = if ¬ E s ∧ E (run step s inputs).1 then [o] else [] := by
  induction inputs generalizing s with
  | nil => simp
  | cons input inputs ih =>
      rw [run_cons]
      simp only [List.filter_append, hfilter, ih]
      by_cases hs : E s
      · simp [hs, habsorb s input hs]
      · by_cases hnext : E (step s input).1
        · have hlast : E (run step (step s input).1 inputs).1 :=
            run_invariant step habsorb inputs hnext
          simp [hs, hnext, hlast]
        · simp [hs, hnext]

end Machine
