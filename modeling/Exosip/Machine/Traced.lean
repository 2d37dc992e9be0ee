import Mathlib.Data.List.Basic

/-! Computations that record what they hand to the calls they make. A property of all these
calls is proved along the sequencing of the computation. -/
namespace Machine

universe u v w

/-- The calls made, and how the computation ended. -/
structure Traced (σ : Type u) (ε : Type v) (α : Type w) where
  calls : List σ
  result : Except ε α
  deriving DecidableEq

namespace Traced

variable {σ : Type u} {ε : Type v} {α β : Type w}

def lift (result : Except ε α) : Traced σ ε α := ⟨[], result⟩

def fail (e : ε) : Traced σ ε α := lift (.error e)

/-- What comes after a failure is not run. -/
def andThen (x : Traced σ ε α) (f : α → Traced σ ε β) : Traced σ ε β :=
  match x.result with
  | .error e => ⟨x.calls, .error e⟩
  | .ok a => ⟨x.calls ++ (f a).calls, (f a).result⟩

instance : Monad (Traced σ ε) where
  pure a := lift (.ok a)
  bind := andThen

/-- All calls satisfy `P`. -/
def Every (P : σ → Prop) (x : Traced σ ε α) : Prop := ∀ call ∈ x.calls, P call

instance {P : σ → Prop} [DecidablePred P] {x : Traced σ ε α} : Decidable (x.Every P) :=
  inferInstanceAs (Decidable (∀ call ∈ x.calls, P call))

@[simp] theorem result_lift (result : Except ε α) : (lift result : Traced σ ε α).result = result :=
  rfl

@[simp] theorem result_pure (a : α) : (pure a : Traced σ ε α).result = .ok a := rfl

@[simp] theorem result_fail (e : ε) : (fail e : Traced σ ε α).result = .error e := rfl

theorem result_bind (x : Traced σ ε α) (f : α → Traced σ ε β) :
    (x >>= f).result = x.result >>= fun a => (f a).result := by
  show (andThen x f).result = _
  unfold andThen
  cases x.result with
  | error e => rfl
  | ok a => rfl

variable {P : σ → Prop}

@[simp] theorem every_lift (result : Except ε α) : (lift result : Traced σ ε α).Every P := by
  intro call hcall
  cases hcall

@[simp] theorem every_pure (a : α) : (pure a : Traced σ ε α).Every P := every_lift _

@[simp] theorem every_fail (e : ε) : (fail e : Traced σ ε α).Every P := every_lift _

theorem every_bind {x : Traced σ ε α} {f : α → Traced σ ε β} :
    (x >>= f).Every P ↔ x.Every P ∧ ∀ a, x.result = .ok a → (f a).Every P := by
  show (andThen x f).Every P ↔ _
  unfold andThen Every
  cases x.result with
  | error e => simp
  | ok a => simp [or_imp, forall_and]

end Traced
end Machine
