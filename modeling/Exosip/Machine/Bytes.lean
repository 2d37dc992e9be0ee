import Mathlib.Tactic.Common

/-! A block of memory that is worked on in place. Every access is checked against its bounds,
and a byte has to be written before it is read. -/
namespace Machine

/-- The bytes of a block; those that were never written are not there. -/
abbrev Bytes (α : Type) := List (Option α)

namespace Bytes

variable {α : Type}

/-- What an allocation of `size` bytes returns. -/
def fresh (size : Nat) : Bytes α := List.replicate size none

def read (m : Bytes α) (p : Nat) : Option α := m[p]?.join

def write (m : Bytes α) (p : Nat) (c : α) : Option (Bytes α) :=
  if p < m.length then some (m.set p (some c)) else none

/-- `memmove` within the block. -/
def move (m : Bytes α) (dst src len : Nat) : Option (Bytes α) :=
  if src + len ≤ m.length ∧ dst + len ≤ m.length then
    some (m.take dst ++ (m.drop src).take len ++ m.drop (dst + len))
  else none

/-- The text up to the first `nul`. -/
def text [DecidableEq α] (nul : α) : Bytes α → Option (List α)
  | [] => none
  | none :: _ => none
  | some c :: m => if c = nul then some [] else (text nul m).map (c :: ·)

def ofText (s : List α) : Bytes α := s.map some

@[simp] theorem length_ofText (s : List α) : (ofText s).length = s.length := List.length_map _

@[simp] theorem length_fresh (size : Nat) : (fresh size : Bytes α).length = size :=
  List.length_replicate

theorem ofText_append (s t : List α) : ofText (s ++ t) = ofText s ++ ofText t := List.map_append

theorem ofText_cons (c : α) (s : List α) : ofText (c :: s) = some c :: ofText s := rfl

theorem ofText_concat (s : List α) (c : α) : ofText (s ++ [c]) = ofText s ++ [some c] :=
  ofText_append s [c]

theorem read_append (done : List α) {p : Nat} (hp : p = done.length) (c : α) (m : Bytes α) :
    read (ofText done ++ some c :: m) p = some c := by
  have hle : (ofText done).length ≤ p := by
    rw [length_ofText]
    omega
  rw [read, List.getElem?_append_right hle, length_ofText, hp, Nat.sub_self]
  rfl

theorem write_append (done : List α) {p : Nat} (hp : p = done.length) (b : Option α) (c : α)
    (m : Bytes α) :
    write (ofText done ++ b :: m) p c = some (ofText (done ++ [c]) ++ m) := by
  have hlt : p < (ofText done ++ b :: m).length := by
    rw [List.length_append, length_ofText, List.length_cons]
    omega
  have hle : (ofText done).length ≤ p := by
    rw [length_ofText]
    omega
  rw [write, if_pos hlt, List.set_append_right _ _ hle, length_ofText, hp, Nat.sub_self,
    List.set_cons_zero, ofText_concat, List.append_assoc]
  rfl

/-- The bytes behind the first are moved onto it; the last one stays behind. -/
theorem move_append (done : List α) (b c : Option α) {p len : Nat} (m rest : Bytes α)
    (hp : p = done.length) (hlen : len = m.length + 1) :
    move (ofText done ++ b :: (m ++ c :: rest)) p (p + 1) len =
      some (ofText done ++ (m ++ [c]) ++ c :: rest) := by
  subst hp hlen
  have hbounds : done.length + 1 + (m.length + 1) ≤
      (ofText done ++ b :: (m ++ c :: rest)).length := by
    simp only [List.length_append, List.length_cons, length_ofText]
    omega
  have htake : (ofText done ++ b :: (m ++ c :: rest)).take done.length = ofText done := by
    rw [← length_ofText done, List.take_left]
  have hsource : ((ofText done ++ b :: (m ++ c :: rest)).drop (done.length + 1)).take
      (m.length + 1) = m ++ [c] := by
    rw [← length_ofText done, List.drop_length_add_append, List.drop_succ_cons, List.drop_zero,
      List.take_length_add_append, List.take_succ_cons, List.take_zero]
  have hrest : (ofText done ++ b :: (m ++ c :: rest)).drop (done.length + (m.length + 1)) =
      c :: rest := by
    rw [← length_ofText done, List.drop_length_add_append, List.drop_succ_cons, List.drop_left]
  rw [move, if_pos ⟨hbounds, by omega⟩, htake, hsource, hrest]

theorem text_append [DecidableEq α] {nul : α} {s : List α} (h : nul ∉ s) (m : Bytes α) :
    text nul (ofText s ++ some nul :: m) = some s := by
  induction s with
  | nil =>
      change text nul (some nul :: m) = some []
      rw [text, if_pos rfl]
  | cons c s ih =>
      rw [List.mem_cons, not_or] at h
      rw [ofText_cons, List.cons_append, text, if_neg (Ne.symm h.1), ih h.2, Option.map_some]

end Bytes
end Machine
