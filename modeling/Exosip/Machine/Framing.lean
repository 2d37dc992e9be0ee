import Exosip.Machine.Run

/-! Frames cut off a stream that arrives in chunks. A rule looks at what was received and
not yet consumed. What it decides is not changed by bytes that come later, so the frames
do not depend on the chunks, unless the rule drops everything that happens to be there. -/
namespace Machine

/-- What a rule decides about the bytes at the front: to wait for more, to take that many off
with an event, to drop everything that is there, or to stop for good. -/
inductive Cut (ε : Type) where
  | wait
  | take (size : Nat) (event : ε)
  | flush
  | halt

/-- A rule that decides as soon as the bytes of the frame are there, and for good. -/
structure Framer (β ε : Type) where
  cut : List β → Cut ε
  bytes : ε → List β
  dropped : List β → ε
  cut_nil : cut [] = .wait
  take_size : ∀ buf size event, cut buf = .take size event → 0 < size ∧ size ≤ buf.length
  take_bytes : ∀ buf size event, cut buf = .take size event → bytes event = buf.take size
  take_kept : ∀ buf size event data, cut buf = .take size event → event ≠ dropped data
  bytes_dropped : ∀ data, bytes (dropped data) = data
  stable : ∀ buf more, cut buf ≠ .wait → cut (buf ++ more) = cut buf

namespace Framer

variable {β ε : Type} (f : Framer β ε)

/-- What is cut off a buffer in turn and the bytes that remain, none after a stop. -/
def drain (buf : List β) : List ε × Option (List β) :=
  match _hcut : f.cut buf with
  | .wait => ([], some buf)
  | .take size event =>
      let rest := drain (buf.drop size)
      (event :: rest.1, rest.2)
  | .flush => ([f.dropped buf], some [])
  | .halt => ([], none)
termination_by buf.length
decreasing_by
  have := f.take_size buf size event _hcut
  rw [List.length_drop]
  omega

/-- The stream is cut into frames until the rule waits, without a flush or a stop. -/
inductive Orderly : List β → Prop
  | wait {buf} : f.cut buf = .wait → Orderly buf
  | take {buf size event} : f.cut buf = .take size event → Orderly (buf.drop size) → Orderly buf

/-- The rule comes to look at these bytes when it starts with those. -/
inductive Reached : List β → List β → Prop
  | here {buf} : Reached buf buf
  | take {buf size event rest} : f.cut buf = .take size event → Reached (buf.drop size) rest →
      Reached buf rest

/-- None of the events drops bytes. -/
def Kept (events : List ε) : Prop :=
  ∀ event ∈ events, ∀ data, event ≠ f.dropped data

variable {f} {buf more rest : List β} {size : Nat} {event : ε}

theorem drain_wait (h : f.cut buf = .wait) : f.drain buf = ([], some buf) := by
  rw [drain]
  split <;> simp_all

theorem drain_take (h : f.cut buf = .take size event) :
    f.drain buf = (event :: (f.drain (buf.drop size)).1, (f.drain (buf.drop size)).2) := by
  rw [drain]
  split <;> simp_all

theorem drain_flush (h : f.cut buf = .flush) : f.drain buf = ([f.dropped buf], some []) := by
  rw [drain]
  split <;> simp_all

theorem drain_halt (h : f.cut buf = .halt) : f.drain buf = ([], none) := by
  rw [drain]
  split <;> simp_all

/-- To prove something of every buffer it is enough to go through the decisions about it,
and where bytes are taken off, to have it of what is left. -/
theorem cut_induction (f : Framer β ε) {P : List β → Prop}
    (wait : ∀ buf, f.cut buf = .wait → P buf)
    (take : ∀ buf size event, f.cut buf = .take size event → P (buf.drop size) → P buf)
    (flush : ∀ buf, f.cut buf = .flush → P buf) (halt : ∀ buf, f.cut buf = .halt → P buf)
    (buf : List β) : P buf := by
  induction hlength : buf.length using Nat.strongRecOn generalizing buf with
  | _ n ih =>
      cases hcut : f.cut buf with
      | wait => exact wait buf hcut
      | flush => exact flush buf hcut
      | halt => exact halt buf hcut
      | take size event =>
          have hsize := f.take_size buf size event hcut
          have hshort : (buf.drop size).length < n := by
            rw [List.length_drop]
            omega
          exact take buf size event hcut (ih _ hshort _ rfl)

theorem drain_tail (buf : List β) : ∀ rest, (f.drain buf).2 = some rest → f.cut rest = .wait := by
  induction buf using f.cut_induction with
  | wait buf hcut =>
      intro rest hrest
      rw [drain_wait hcut] at hrest
      cases hrest
      exact hcut
  | flush buf hcut =>
      intro rest hrest
      rw [drain_flush hcut] at hrest
      cases hrest
      exact f.cut_nil
  | halt buf hcut =>
      intro rest hrest
      rw [drain_halt hcut] at hrest
      cases hrest
  | take buf size event hcut ih =>
      rw [drain_take hcut]
      exact ih

theorem drain_bytes (buf : List β) :
    ∀ rest, (f.drain buf).2 = some rest → (f.drain buf).1.flatMap f.bytes ++ rest = buf := by
  induction buf using f.cut_induction with
  | wait buf hcut =>
      intro rest hrest
      rw [drain_wait hcut] at hrest ⊢
      cases hrest
      rfl
  | flush buf hcut =>
      intro rest hrest
      rw [drain_flush hcut] at hrest ⊢
      cases hrest
      simp [f.bytes_dropped]
  | halt buf hcut =>
      intro rest hrest
      rw [drain_halt hcut] at hrest
      cases hrest
  | take buf size event hcut ih =>
      intro rest hrest
      rw [drain_take hcut] at hrest ⊢
      rw [List.flatMap_cons, List.append_assoc, ih rest hrest, f.take_bytes buf size event hcut,
        List.take_append_drop]

theorem Reached.suffix (h : f.Reached buf rest) : rest <:+ buf := by
  induction h with
  | here => exact List.suffix_rfl
  | take _ _ ih => exact ih.trans (List.drop_suffix _ _)

theorem drain_eq_none_iff (buf : List β) :
    (f.drain buf).2 = none ↔ ∃ rest, f.Reached buf rest ∧ f.cut rest = .halt := by
  have hends {buf : List β} (hcut : ∀ size event, f.cut buf ≠ .take size event) :
      (∃ rest, f.Reached buf rest ∧ f.cut rest = .halt) ↔ f.cut buf = .halt := by
    constructor
    · intro h
      obtain ⟨rest, hreached, hhalt⟩ := h
      cases hreached with
      | here => exact hhalt
      | take htake => exact absurd htake (hcut _ _)
    · intro h
      exact ⟨buf, .here, h⟩
  induction buf using f.cut_induction with
  | wait buf hcut => simp [drain_wait hcut, hends, hcut]
  | flush buf hcut => simp [drain_flush hcut, hends, hcut]
  | halt buf hcut => simp [drain_halt hcut, hends, hcut]
  | take buf size event hcut ih =>
      rw [drain_take hcut]
      refine ih.trans ?_
      constructor
      · intro h
        obtain ⟨rest, hreached, hhalt⟩ := h
        exact ⟨rest, .take hcut hreached, hhalt⟩
      · intro h
        obtain ⟨rest, hreached, hhalt⟩ := h
        cases hreached with
        | here =>
            rw [hcut] at hhalt
            cases hhalt
        | take htake hreached =>
            rw [hcut] at htake
            cases htake
            exact ⟨rest, hreached, hhalt⟩

theorem Orderly.of_take (h : f.Orderly buf) (hcut : f.cut buf = .take size event) :
    f.Orderly (buf.drop size) := by
  cases h with
  | wait hwait =>
      rw [hcut] at hwait
      cases hwait
  | take htake hrest =>
      rw [hcut] at htake
      cases htake
      exact hrest

theorem Orderly.not_flush (h : f.Orderly buf) : f.cut buf ≠ .flush := by
  cases h <;> simp_all

theorem Orderly.not_halt (h : f.Orderly buf) : f.cut buf ≠ .halt := by
  cases h <;> simp_all

theorem cut_append {c : Cut ε} (hcut : f.cut buf = c) (h : c ≠ .wait) :
    f.cut (buf ++ more) = c := by
  rw [f.stable buf more (hcut ▸ h), hcut]

theorem Orderly.drain_kept (h : f.Orderly buf) :
    f.Kept (f.drain buf).1 ∧ ∃ rest, (f.drain buf).2 = some rest := by
  induction h with
  | @wait buf hcut =>
      rw [drain_wait hcut]
      exact ⟨nofun, buf, rfl⟩
  | @take buf size event hcut _ ih =>
      rw [drain_take hcut]
      refine ⟨?_, ih.2⟩
      intro event' hevent
      rcases List.mem_cons.1 hevent with rfl | hevent
      · exact fun data => f.take_kept buf size event' data hcut
      · exact ih.1 event' hevent

/-- What an orderly stream is cut into is what its front is cut into, and then what the front
leaves together with the rest of the stream. -/
theorem Orderly.drain_append (h : f.Orderly (buf ++ more)) :
    ∃ rest, (f.drain buf).2 = some rest ∧ f.Orderly (rest ++ more) ∧
      f.drain (buf ++ more) =
        ((f.drain buf).1 ++ (f.drain (rest ++ more)).1, (f.drain (rest ++ more)).2) := by
  induction buf using f.cut_induction with
  | wait buf hcut => exact ⟨buf, by rw [drain_wait hcut], h, by simp [drain_wait hcut]⟩
  | flush buf hcut => exact absurd (cut_append hcut nofun) h.not_flush
  | halt buf hcut => exact absurd (cut_append hcut nofun) h.not_halt
  | take buf size event hcut ih =>
      have hwhole : f.cut (buf ++ more) = .take size event := cut_append hcut nofun
      have hdrop := (List.drop_append_of_le_length (f.take_size buf size event hcut).2 :
        (buf ++ more).drop size = buf.drop size ++ more)
      obtain ⟨rest, htail, hrest, hdrain⟩ := ih (hdrop ▸ h.of_take hwhole)
      refine ⟨rest, ?_, hrest, ?_⟩
      · rw [drain_take hcut, htail]
      · rw [drain_take hwhole, hdrop, hdrain, drain_take hcut, List.cons_append]

theorem Orderly.of_append (h : f.Orderly (buf ++ more)) : f.Orderly buf := by
  induction buf using f.cut_induction with
  | wait buf hcut => exact .wait hcut
  | flush buf hcut => exact absurd (cut_append hcut nofun) h.not_flush
  | halt buf hcut => exact absurd (cut_append hcut nofun) h.not_halt
  | take buf size event hcut ih =>
      have hwhole : f.cut (buf ++ more) = .take size event := cut_append hcut nofun
      have hrest := h.of_take hwhole
      rw [List.drop_append_of_le_length (f.take_size buf size event hcut).2] at hrest
      exact .take hcut (ih hrest)

theorem orderly_append (hkept : f.Kept (f.drain buf).1) (htail : (f.drain buf).2 = some rest)
    (hrest : f.Orderly (rest ++ more)) : f.Orderly (buf ++ more) := by
  induction buf using f.cut_induction with
  | wait buf hcut =>
      rw [drain_wait hcut] at htail
      cases htail
      exact hrest
  | flush buf hcut =>
      rw [drain_flush hcut] at hkept
      exact absurd rfl (hkept _ List.mem_cons_self buf)
  | halt buf hcut =>
      rw [drain_halt hcut] at htail
      cases htail
  | take buf size event hcut ih =>
      rw [drain_take hcut] at hkept htail
      have hwhole : f.cut (buf ++ more) = .take size event := cut_append hcut nofun
      refine .take hwhole ?_
      rw [List.drop_append_of_le_length (f.take_size buf size event hcut).2]
      exact ih (fun e he => hkept e (List.mem_cons_of_mem _ he)) htail

section Receiver

universe u v

variable {σ : Type u} {ι : Type v}

/-- A machine that keeps what was not consumed and drains it at every input. Without a buffer
it stays as it is. -/
structure Receives (f : Framer β ε) (step : Step σ ι ε) (buffer : σ → Option (List β))
    (input : ι → List β) (allowed : σ → ι → Prop) : Prop where
  drains : ∀ s i buf, allowed s i → buffer s = some buf → f.cut buf = .wait →
    (step s i).2 = (f.drain (buf ++ input i)).1 ∧
      buffer (step s i).1 = (f.drain (buf ++ input i)).2
  stays : ∀ s i, allowed s i → buffer s = none → buffer (step s i).1 = none

variable {step : Step σ ι ε} {buffer : σ → Option (List β)} {input : ι → List β}
  {allowed : σ → ι → Prop} {s : σ} {inputs : List ι}

theorem Receives.run_drain (h : Receives f step buffer input allowed)
    (hrun : Guarded step allowed s inputs) (hs : buffer s = some buf) (hwait : f.cut buf = .wait)
    (horderly : f.Orderly (buf ++ inputs.flatMap input)) :
    (run step s inputs).2 = (f.drain (buf ++ inputs.flatMap input)).1 ∧
      buffer (run step s inputs).1 = (f.drain (buf ++ inputs.flatMap input)).2 := by
  induction inputs generalizing s buf with
  | nil =>
      rw [List.flatMap_nil, List.append_nil, drain_wait hwait]
      exact ⟨rfl, hs⟩
  | cons i inputs ih =>
      obtain ⟨hout, hnext⟩ := h.drains s i buf hrun.1 hs hwait
      rw [List.flatMap_cons, ← List.append_assoc] at horderly ⊢
      obtain ⟨rest, htail, hrest, hdrain⟩ := horderly.drain_append
      rw [htail] at hnext
      obtain ⟨houts, hfinal⟩ := ih hrun.2 hnext (drain_tail _ _ htail) hrest
      rw [run_cons, hdrain]
      exact ⟨by rw [hout, houts], hfinal⟩

theorem Receives.run_stays (h : Receives f step buffer input allowed)
    (hrun : Guarded step allowed s inputs) (hs : buffer s = none) :
    buffer (run step s inputs).1 = none :=
  guarded_invariant step (I := fun s => buffer s = none) h.stays hrun hs

theorem Receives.orderly_of_run (h : Receives f step buffer input allowed)
    (hrun : Guarded step allowed s inputs) (hs : buffer s = some buf) (hwait : f.cut buf = .wait)
    (hkept : f.Kept (run step s inputs).2) (hfinal : buffer (run step s inputs).1 = some rest) :
    f.Orderly (buf ++ inputs.flatMap input) := by
  induction inputs generalizing s buf with
  | nil =>
      rw [List.flatMap_nil, List.append_nil]
      exact .wait hwait
  | cons i inputs ih =>
      obtain ⟨hout, hnext⟩ := h.drains s i buf hrun.1 hs hwait
      rw [run_cons] at hkept hfinal
      rw [List.flatMap_cons, ← List.append_assoc]
      cases htail : (f.drain (buf ++ input i)).2 with
      | none =>
          rw [htail] at hnext
          rw [h.run_stays hrun.2 hnext] at hfinal
          cases hfinal
      | some left =>
          rw [htail] at hnext
          have horderly := ih hrun.2 hnext (drain_tail _ _ htail)
            (fun e he => hkept e (List.mem_append_right _ he)) hfinal
          refine orderly_append ?_ htail horderly
          rw [← hout]
          exact fun e he => hkept e (List.mem_append_left _ he)

/-- However the stream is cut into chunks, a receiver cuts it into the same events, which
together with the same rest are the stream and of which none drops bytes, exactly when the
stream is orderly. -/
theorem Receives.independent_iff {stream : List β} (h : Receives f step buffer input allowed)
    (hs : buffer s = some [])
    (hchunks : ∃ inputs, Guarded step allowed s inputs ∧ inputs.flatMap input = stream) :
    (∃ events rest, f.Kept events ∧ events.flatMap f.bytes ++ rest = stream ∧
      ∀ inputs, Guarded step allowed s inputs → inputs.flatMap input = stream →
        (run step s inputs).2 = events ∧ buffer (run step s inputs).1 = some rest) ↔
      f.Orderly stream := by
  constructor
  · intro ⟨events, rest, hkept, _, hall⟩
    obtain ⟨inputs, hrun, rfl⟩ := hchunks
    obtain ⟨hout, hfinal⟩ := hall inputs hrun rfl
    exact h.orderly_of_run hrun hs f.cut_nil (hout ▸ hkept) hfinal
  · intro horderly
    obtain ⟨hkept, rest, htail⟩ := horderly.drain_kept
    refine ⟨(f.drain stream).1, rest, hkept, drain_bytes stream rest htail, ?_⟩
    intro inputs hrun hstream
    have hdrain := h.run_drain hrun hs f.cut_nil
      (by rw [List.nil_append, hstream]; exact horderly)
    rwa [List.nil_append, hstream, htail] at hdrain

end Receiver

end Framer
end Machine
