import Mathlib.Logic.Relation

/-! An exchange of one request for one answer between two parties: what it is for, without
the way in which it is done. -/
namespace Machine

universe u

/-- What was asked and what of it was heard, what was answered and what of it was learned, and
whether the answering party knows that it was. -/
structure Exchange (μ : Type u) where
  asked : Option μ
  heard : Option μ
  answered : Option μ
  learned : Option μ
  acknowledged : Bool

namespace Exchange

variable {μ : Type u} {carries : μ → μ → Prop}

def initial : Exchange μ := ⟨none, none, none, none, false⟩

/-- Every part of the exchange takes place once, after the one that it rests on. -/
inductive Advance (carries : μ → μ → Prop) : Exchange μ → Exchange μ → Prop
  | ask {e : Exchange μ} (request : μ) (first : e.asked = none) :
      Advance carries e { e with asked := some request }
  | hear {e : Exchange μ} {request heard : μ} (asked : e.asked = some request)
      (carried : carries request heard) (first : e.heard = none) :
      Advance carries e { e with heard := some heard }
  | answer {e : Exchange μ} (answer : μ) (heard : e.heard.isSome) (first : e.answered = none) :
      Advance carries e { e with answered := some answer }
  | learn {e : Exchange μ} {answer learned : μ} (answered : e.answered = some answer)
      (carried : carries answer learned) (first : e.learned = none) :
      Advance carries e { e with learned := some learned }
  | acknowledge {e : Exchange μ} (learned : e.learned.isSome) :
      Advance carries e { e with acknowledged := true }

/-- Nothing is heard that was not asked, nothing answered that was not heard, nothing learned
that was not answered, nothing acknowledged that was not learned. -/
structure Consistent (carries : μ → μ → Prop) (e : Exchange μ) : Prop where
  heard : ∀ heard ∈ e.heard, ∃ request ∈ e.asked, carries request heard
  answered : e.answered.isSome → e.heard.isSome
  learned : ∀ learned ∈ e.learned, ∃ answer ∈ e.answered, carries answer learned
  acknowledged : e.acknowledged → e.learned.isSome

/-- What took place stays as it was. -/
structure Keeps (e e' : Exchange μ) : Prop where
  asked : ∀ m ∈ e.asked, m ∈ e'.asked
  heard : ∀ m ∈ e.heard, m ∈ e'.heard
  answered : ∀ m ∈ e.answered, m ∈ e'.answered
  learned : ∀ m ∈ e.learned, m ∈ e'.learned
  acknowledged : e.acknowledged → e'.acknowledged

theorem consistent_initial : Consistent carries (initial : Exchange μ) := by
  constructor <;> simp [initial]

theorem Keeps.refl (e : Exchange μ) : Keeps e e :=
  ⟨fun _ h => h, fun _ h => h, fun _ h => h, fun _ h => h, id⟩

theorem Keeps.trans {e e' e'' : Exchange μ} (h : Keeps e e') (h' : Keeps e' e'') : Keeps e e'' :=
  ⟨fun m hm => h'.asked m (h.asked m hm), fun m hm => h'.heard m (h.heard m hm),
    fun m hm => h'.answered m (h.answered m hm), fun m hm => h'.learned m (h.learned m hm),
    fun hm => h'.acknowledged (h.acknowledged hm)⟩

theorem Consistent.advance {e e' : Exchange μ} (h : Consistent carries e)
    (hstep : Advance carries e e') : Consistent carries e' := by
  cases hstep with
  | ask request first =>
      refine ⟨fun heard hheard => ?_, h.answered, h.learned, h.acknowledged⟩
      obtain ⟨request', hasked, -⟩ := h.heard heard hheard
      rw [first] at hasked
      cases hasked
  | hear asked carried first =>
      refine ⟨fun heard hheard => ?_, fun _ => rfl, h.learned, h.acknowledged⟩
      cases hheard
      exact ⟨_, asked, carried⟩
  | answer answer heard first =>
      refine ⟨h.heard, fun _ => heard, fun learned hlearned => ?_, h.acknowledged⟩
      obtain ⟨answer', hanswered, -⟩ := h.learned learned hlearned
      rw [first] at hanswered
      cases hanswered
  | learn answered carried first =>
      refine ⟨h.heard, h.answered, fun learned hlearned => ?_, fun _ => rfl⟩
      cases hlearned
      exact ⟨_, answered, carried⟩
  | acknowledge learned => exact ⟨h.heard, h.answered, h.learned, fun _ => learned⟩

theorem Advance.keeps {e e' : Exchange μ} (h : Advance carries e e') : Keeps e e' := by
  cases h with
  | ask request first => exact { Keeps.refl e with asked := by simp [first] }
  | hear asked carried first => exact { Keeps.refl e with heard := by simp [first] }
  | answer answer heard first => exact { Keeps.refl e with answered := by simp [first] }
  | learn answered carried first => exact { Keeps.refl e with learned := by simp [first] }
  | acknowledge learned => exact { Keeps.refl e with acknowledged := fun _ => rfl }

theorem Consistent.advances {e e' : Exchange μ} (h : Consistent carries e)
    (hrun : Relation.ReflTransGen (Advance carries) e e') : Consistent carries e' := by
  induction hrun with
  | refl => exact h
  | tail _ hstep ih => exact ih.advance hstep

theorem keeps_of_advances {e e' : Exchange μ}
    (hrun : Relation.ReflTransGen (Advance carries) e e') : Keeps e e' := by
  induction hrun with
  | refl => exact .refl e
  | tail _ hstep ih => exact ih.trans hstep.keeps

end Exchange
end Machine
