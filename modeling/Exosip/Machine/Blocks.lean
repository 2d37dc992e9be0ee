import Mathlib.Data.List.Basic
import Mathlib.Data.Nat.ModEq

/-! Absorbing a sequence in blocks of a fixed size. What is absorbed depends on the sequence
only, not on the parts in which it comes. -/
namespace Machine

universe u v

variable {σ : Type u} {β : Type v} (size : Nat) (compress : σ → List β → σ)

/-- The state after the whole blocks at the front, and what is left behind them. -/
def absorb (s : σ) (input : List β) : σ × List β :=
  if 0 < size ∧ size ≤ input.length then
    absorb (compress s (input.take size)) (input.drop size)
  else (s, input)
termination_by input.length
decreasing_by
  rw [List.length_drop]
  omega

variable {size compress} {s : σ} {input : List β}

theorem absorb_of_lt (h : input.length < size) : absorb size compress s input = (s, input) := by
  rw [absorb, if_neg (by omega)]

theorem absorb_of_le (hsize : 0 < size) (h : size ≤ input.length) :
    absorb size compress s input =
      absorb size compress (compress s (input.take size)) (input.drop size) := by
  rw [absorb, if_pos ⟨hsize, h⟩]

theorem absorb_block (hsize : 0 < size) {block : List β} (h : block.length = size)
    (more : List β) :
    absorb size compress s (block ++ more) = absorb size compress (compress s block) more := by
  rw [absorb_of_le hsize (by rw [List.length_append]; omega), ← h, List.take_left, List.drop_left]

variable (compress) in
theorem absorb_induction {P : σ → List β → Prop} (hsize : 0 < size)
    (hshort : ∀ s input, input.length < size → P s input)
    (hblock : ∀ s block more, block.length = size → P (compress s block) more →
      P s (block ++ more)) (s : σ) (input : List β) : P s input := by
  induction hlen : input.length using Nat.strong_induction_on generalizing s input with
  | _ n ih =>
      by_cases h : input.length < size
      · exact hshort s input h
      · rw [← List.take_append_drop size input]
        refine hblock s _ _ (by rw [List.length_take]; omega) (ih _ ?_ _ _ rfl)
        rw [List.length_drop]
        omega

theorem absorb_append (hsize : 0 < size) (s : σ) (input more : List β) :
    absorb size compress s (input ++ more) =
      absorb size compress (absorb size compress s input).1
        ((absorb size compress s input).2 ++ more) := by
  induction s, input using absorb_induction compress hsize with
  | hshort s input h => rw [absorb_of_lt h]
  | hblock s block rest h ih =>
      rw [List.append_assoc, absorb_block hsize h, ih, absorb_block hsize h]

theorem length_absorb (hsize : 0 < size) (s : σ) (input : List β) :
    (absorb size compress s input).2.length = input.length % size := by
  induction s, input using absorb_induction compress hsize with
  | hshort s input h => rw [absorb_of_lt h, Nat.mod_eq_of_lt h]
  | hblock s block rest h ih =>
      rw [absorb_block hsize h, ih, List.length_append, h, Nat.add_mod_left]

theorem absorb_snd_eq_nil (hsize : 0 < size) (h : size ∣ input.length) :
    (absorb size compress s input).2 = [] := by
  rw [← List.length_eq_zero_iff, length_absorb hsize, Nat.mod_eq_zero_of_dvd h]

end Machine
