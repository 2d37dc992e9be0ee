import Exosip.Machine.Run

/-! A machine that stores a value, puts out what it stores, and at some point commits:
from then on the stored value stays. Whatever was final when it was put out is the only
value that is put out afterwards. -/
namespace Machine

universe u v w

variable {σ : Type u} {ι : Type v} {ω : Type w} {α : Type*}

/-- The laws of the steps: what is put out is what the step leaves stored, a committed
machine keeps it, and one that is not committed stores nothing final. -/
structure Commits (step : Step σ ι ω) (allowed : σ → ι → Prop) (committed : σ → Prop)
    (stored : σ → α) (sent : ω → Option α) (final : α → Prop) : Prop where
  sentStored : ∀ s input, allowed s input → ∀ o ∈ (step s input).2, ∀ v, sent o = some v →
    stored (step s input).1 = v
  kept : ∀ s input, allowed s input → committed s →
    committed (step s input).1 ∧ stored (step s input).1 = stored s
  pending : ∀ s input, allowed s input → ¬ committed (step s input).1 → ¬ final (stored s) →
    ¬ final (stored (step s input).1)

namespace Commits

variable {step : Step σ ι ω} {allowed : σ → ι → Prop} {committed : σ → Prop}
  {stored : σ → α} {sent : ω → Option α} {final : α → Prop}

theorem run_committed (h : Commits step allowed committed stored sent final) {s : σ}
    {inputs : List ι} (hrun : Guarded step allowed s inputs) (hs : committed s) :
    stored (run step s inputs).1 = stored s ∧
      ∀ o ∈ (run step s inputs).2, ∀ v, sent o = some v → v = stored s := by
  induction inputs generalizing s with
  | nil => simp
  | cons input inputs ih =>
      have hkept := h.kept s input hrun.1 hs
      have hrest := ih hrun.2 hkept.1
      rw [hkept.2] at hrest
      apply And.intro hrest.1
      intro o ho v hv
      rcases List.mem_append.1 ho with ho | ho
      · exact (h.sentStored s input hrun.1 o ho v hv).symm.trans hkept.2
      · exact hrest.2 o ho v hv

theorem committed_of_sent (h : Commits step allowed committed stored sent final) {s : σ}
    {input : ι} (hallowed : allowed s input) (hs : ¬ final (stored s)) {o : ω}
    (ho : o ∈ (step s input).2) {v : α} (hv : sent o = some v) (hfinal : final v) :
    committed (step s input).1 := by
  by_contra hopen
  have hstored := h.sentStored s input hallowed o ho v hv
  have hnot := h.pending s input hallowed hopen hs
  exact hnot (hstored ▸ hfinal)

theorem run_sent (h : Commits step allowed committed stored sent final) {s : σ}
    {inputs : List ι} (hrun : Guarded step allowed s inputs) (hs : ¬ final (stored s)) :
    (∀ o ∈ (run step s inputs).2, ∀ v, sent o = some v → final v →
        stored (run step s inputs).1 = v) ∧
      (run step s inputs).2.Pairwise fun o o' =>
        ∀ v, sent o = some v → final v → ∀ v', sent o' = some v' → v' = v := by
  induction inputs generalizing s with
  | nil => simp
  | cons input inputs ih =>
      have hstored := h.sentStored s input hrun.1
      have hstep : (step s input).2.Pairwise fun o o' =>
          ∀ v, sent o = some v → final v → ∀ v', sent o' = some v' → v' = v := by
        apply List.pairwise_of_forall_mem_list
        intro o ho o' ho' v hv _ v' hv'
        exact (hstored o' ho' v' hv').symm.trans (hstored o ho v hv)
      rw [run_cons]
      by_cases hcommitted : committed (step s input).1
      · have hrest := h.run_committed hrun.2 hcommitted
        have hsame (o' : ω) (ho' : o' ∈ (run step (step s input).1 inputs).2) (v : α)
            (hv : sent o' = some v) : v = stored (step s input).1 := hrest.2 o' ho' v hv
        constructor
        · intro o ho v hv _
          rcases List.mem_append.1 ho with ho | ho
          · exact hrest.1.trans (hstored o ho v hv)
          · exact hrest.1.trans (hsame o ho v hv).symm
        · apply List.pairwise_append.2
          refine ⟨hstep, ?_, ?_⟩
          · apply List.pairwise_of_forall_mem_list
            intro o ho o' ho' v hv _ v' hv'
            exact (hsame o' ho' v' hv').trans (hsame o ho v hv).symm
          · intro o ho o' ho' v hv _ v' hv'
            exact (hsame o' ho' v' hv').trans (hstored o ho v hv)
      · have hnot : ∀ o ∈ (step s input).2, ∀ v, sent o = some v → ¬ final v := fun o ho v hv hf =>
          hcommitted (h.committed_of_sent hrun.1 hs ho hv hf)
        have hrest := ih hrun.2 (h.pending s input hrun.1 hcommitted hs)
        constructor
        · intro o ho v hv hf
          rcases List.mem_append.1 ho with ho | ho
          · exact absurd hf (hnot o ho v hv)
          · exact hrest.1 o ho v hv hf
        · apply List.pairwise_append.2
          exact ⟨hstep, hrest.2, fun o ho _ _ v hv hf => absurd hf (hnot o ho v hv)⟩

end Commits

theorem countP_le_one_of_pairwise {p : ω → Bool} {outputs : List ω}
    (h : outputs.Pairwise fun o o' => p o → ¬ p o') : outputs.countP p ≤ 1 := by
  induction outputs with
  | nil => simp
  | cons o outputs ih =>
      rw [List.pairwise_cons] at h
      rw [List.countP_cons]
      by_cases ho : p o
      · have hnone : outputs.countP p = 0 := List.countP_eq_zero.2 fun o' ho' => h.1 o' ho' ho
        simp [ho, hnone]
      · simpa [ho] using ih h.2

end Machine
