import Exosip.Call.Identifiers
import Mathlib.Data.List.Basic
import Mathlib.Order.Basic

/-! `_eXosip_retransmit_lost200ok`: the 200 OK of an accepted INVITE is sent again until the ACK
arrives, and a dialog is ended that gets none. -/
namespace Exosip

/-- What is read of an `eXosip_dialog_t`: whether its dialog is established, and the 200 OK with
its timer and counter. -/
structure OkDialog (α : Type) where
  dId : Int
  dDialog : Bool
  d200Ok : Option α
  dTimer : Int
  dCount : Nat
  deriving DecidableEq, Repr

structure OkCall (α : Type) where
  cId : Int
  dialogs : List (OkDialog α)
  deriving DecidableEq, Repr

/-- A message is sent that is the 200 OK of this dialog of this call, or the dialog is ended. -/
inductive OkOutput (α : Type) where
  | sent (call dialog : Nat) (message : α)
  | ended (call dialog : Nat)
  deriving DecidableEq, Repr

structure OkState (α : Type) where
  calls : List (OkCall α)
  outputs : List (OkOutput α)
  deriving DecidableEq, Repr

namespace OkDialog

variable {α : Type}

def timing (jd : OkDialog α) : Option α × Int × Nat := (jd.d200Ok, jd.dTimer, jd.dCount)

/-- The dialog is established, and its 200 OK was not acknowledged. -/
def waits (jd : OkDialog α) : Bool := 1 ≤ jd.dId && jd.dDialog && jd.d200Ok.isSome

/-- The 200 OK of the dialog is to be sent again. -/
def expired (now : Int) (jd : OkDialog α) : Bool := jd.d200Ok.isSome && jd.dTimer < now

theorem expired_of_waits {now : Int} {jd : OkDialog α} (h : jd.waits = true)
    (htimer : jd.dTimer < now) : jd.expired now = true := by
  rw [waits, Bool.and_eq_true] at h
  rw [expired, h.2, Bool.true_and, decide_eq_true_eq]
  exact htimer

/-- The counter and the timer when the 200 OK is sent again at `time`. -/
def retimed (jd : OkDialog α) (time : Int) : OkDialog α :=
  let dCount := jd.dCount + 1
  let dTimer := if dCount = 1 then time + 1 else jd.dTimer
  let dTimer := if dCount = 2 then time + 2 else dTimer
  let dTimer := if 3 ≤ dCount then time + 4 else dTimer
  { jd with dCount := dCount, dTimer := dTimer }

def dropped (jd : OkDialog α) : OkDialog α := { jd with dCount := 0, d200Ok := none }

end OkDialog

namespace OkCall

variable {α : Type}

def dialogsOf (calls : List (OkCall α)) (i : Nat) : List (OkDialog α) :=
  (calls[i]?.map OkCall.dialogs).getD []

def setDialog (calls : List (OkCall α)) (i j : Nat) (jd : OkDialog α) : List (OkCall α) :=
  calls.modify i fun jc => { jc with dialogs := jc.dialogs.set j jd }

def timings (jc : OkCall α) : List (Option α × Int × Nat) := jc.dialogs.map OkDialog.timing

end OkCall

/-- A pass at the time `now`: what the clock shows when a timer is set, and what
`eXosip_call_terminate` does to the calls, which is nothing to the 200 OKs and their timers. -/
structure OkPass (α : Type) where
  now : Int
  clock : Nat → Int
  clock_ge : ∀ n, now ≤ clock n
  terminate : List (OkCall α) → Nat → Nat → List (OkCall α)
  terminate_timings : ∀ calls i j,
    (terminate calls i j).map OkCall.timings = calls.map OkCall.timings

namespace OkPass

open OkCall

variable {α : Type} (pass : OkPass α)

def pending (dialogs : List (OkDialog α)) : Nat := dialogs.countP (OkDialog.expired pass.now)

theorem retimed_not_expired (jd : OkDialog α) (n : Nat) :
    (jd.retimed (pass.clock n)).expired pass.now = false := by
  have hclock := pass.clock_ge n
  rw [OkDialog.expired, Bool.and_eq_false_iff, decide_eq_false_iff_not]
  right
  dsimp only [OkDialog.retimed]
  split_ifs <;> omega

theorem dialogsOf_setDialog (calls : List (OkCall α)) (i i' j : Nat) (jd : OkDialog α) :
    dialogsOf (setDialog calls i j jd) i' =
      if i = i' then (dialogsOf calls i').set j jd else dialogsOf calls i' := by
  unfold dialogsOf setDialog
  rw [List.getElem?_modify]
  cases calls[i']? with
  | none => simp
  | some jc =>
      by_cases hi : i = i'
      · simp [hi]
      · simp [hi]

theorem map_timing_dialogsOf (calls : List (OkCall α)) (i : Nat) :
    (dialogsOf calls i).map OkDialog.timing = ((calls.map OkCall.timings)[i]?).getD [] := by
  rw [dialogsOf, List.getElem?_map]
  cases calls[i]? with
  | none => rfl
  | some jc => rfl

theorem dialogsOf_terminate (calls : List (OkCall α)) (i j i' : Nat) :
    (dialogsOf (pass.terminate calls i j) i').map OkDialog.timing =
      (dialogsOf calls i').map OkDialog.timing := by
  rw [map_timing_dialogsOf, map_timing_dialogsOf, pass.terminate_timings]

theorem pending_of_timing {dialogs dialogs' : List (OkDialog α)}
    (h : dialogs'.map OkDialog.timing = dialogs.map OkDialog.timing) :
    pass.pending dialogs' = pass.pending dialogs := by
  have hcount (l : List (OkDialog α)) : pass.pending l =
      (l.map OkDialog.timing).countP fun timing => timing.1.isSome && timing.2.1 < pass.now := by
    rw [List.countP_map]
    rfl
  rw [hcount, hcount, h]

theorem length_of_timing {dialogs dialogs' : List (OkDialog α)}
    (h : dialogs'.map OkDialog.timing = dialogs.map OkDialog.timing) :
    dialogs'.length = dialogs.length := by
  have hlength := congrArg List.length h
  rw [List.length_map, List.length_map] at hlength
  exact hlength

theorem pending_set {dialogs : List (OkDialog α)} {j : Nat} {jd jd' : OkDialog α}
    (h : dialogs[j]? = some jd) (hjd : jd'.expired pass.now = false) :
    pass.pending (dialogs.set j jd') + (jd.expired pass.now).toNat = pass.pending dialogs := by
  obtain ⟨hlt, hget⟩ := List.getElem?_eq_some_iff.1 h
  have hmem : (jd.expired pass.now).toNat ≤ pass.pending dialogs := by
    cases hexpired : jd.expired pass.now with
    | false => exact Nat.zero_le _
    | true =>
        exact List.countP_pos_iff.2 ⟨jd, List.mem_of_getElem? h, hexpired⟩
  unfold pending at hmem ⊢
  rw [List.countP_set hlt, hget, hjd]
  cases hexpired : jd.expired pass.now with
  | false => simp
  | true =>
      simp only [hexpired, Bool.toNat_true] at hmem ⊢
      simp
      omega

/-- The loop over the dialogs of the call at `i` from the dialog at `j` on. A dialog whose 200 OK
is sent again makes it go on with the second one; it ends with none where a NULL is sent. -/
def retransmitDialogs (i j : Nat) (s : OkState α) : Option (OkState α) :=
  match hjd : (dialogsOf s.calls i)[j]? with
  | none => some s
  | some jd =>
      if _hwaits : jd.waits then
        if jd.dCount = 9 then
          retransmitDialogs i (j + 1)
            ⟨pass.terminate (setDialog s.calls i j jd.dropped) i j, s.outputs ++ [.ended i j]⟩
        else if _hexpired : jd.dTimer < pass.now then
          let calls := setDialog s.calls i j (jd.retimed (pass.clock s.outputs.length))
          match (dialogsOf calls i).head?.bind OkDialog.d200Ok with
          | none => none
          | some message => retransmitDialogs i 1 ⟨calls, s.outputs ++ [.sent i 0 message]⟩
        else retransmitDialogs i (j + 1) s
      else retransmitDialogs i (j + 1) s
termination_by (pass.pending (dialogsOf s.calls i), (dialogsOf s.calls i).length - j)
decreasing_by
  · have hlt := (List.getElem?_eq_some_iff.1 hjd).1
    have htiming := pass.dialogsOf_terminate (setDialog s.calls i j jd.dropped) i j i
    have hset := pass.pending_set hjd (rfl : jd.dropped.expired pass.now = false)
    rw [dialogsOf_setDialog, if_pos rfl] at htiming
    have hlength := length_of_timing htiming
    rw [List.length_set] at hlength
    rw [pass.pending_of_timing htiming, hlength, Prod.lex_def]
    dsimp only
    omega
  · have hset := pass.pending_set hjd (pass.retimed_not_expired jd s.outputs.length)
    rw [OkDialog.expired_of_waits _hwaits _hexpired, Bool.toNat_true] at hset
    rw [dialogsOf_setDialog, if_pos rfl, Prod.lex_def]
    dsimp only
    omega
  · have hlt := (List.getElem?_eq_some_iff.1 hjd).1
    rw [Prod.lex_def]
    dsimp only
    omega
  · have hlt := (List.getElem?_eq_some_iff.1 hjd).1
    rw [Prod.lex_def]
    dsimp only
    omega

def retransmitCall (s : OkState α) (i : Nat) : Option (OkState α) :=
  match s.calls[i]? with
  | none => some s
  | some jc => if 1 ≤ jc.cId then pass.retransmitDialogs i 0 s else some s

def retransmitLost200ok (calls : List (OkCall α)) : Option (OkState α) :=
  (List.range calls.length).foldlM pass.retransmitCall ⟨calls, []⟩

/-- The output is about the dialog at `j` of the call at `i`. -/
def about (i j : Nat) : OkOutput α → Bool
  | .sent i' j' _ => i' = i && j' = j
  | .ended i' j' => i' = i && j' = j

/-- After the pass: where the 200 OK was to be sent again, it was sent once and the timer and the
counter were set; nothing was done about another dialog. -/
def Recovered (s : OkState α) (i j : Nat) (jd : OkDialog α) : Prop :=
  if jd.expired pass.now then
    (∃ message ∈ jd.d200Ok, s.outputs.filter (about i j) = [.sent i j message]) ∧
      ∃ n, (dialogsOf s.calls i)[j]? = some (jd.retimed (pass.clock n))
  else s.outputs.filter (about i j) = [] ∧ (dialogsOf s.calls i)[j]? = some jd

def Recovers (calls : List (OkCall α)) : Prop :=
  ∃ s, pass.retransmitLost200ok calls = some s ∧ (∀ i j, .ended i j ∉ s.outputs) ∧
    ∀ i j jd, (dialogsOf calls i)[j]? = some jd → pass.Recovered s i j jd

/-- A 200 OK that is to be sent again belongs to an established dialog that is the first of its
call, and no dialog that waits for an ACK has given it up. -/
structure InOrder (jc : OkCall α) : Prop where
  first : ∀ j jd, jc.dialogs[j]? = some jd → jd.expired pass.now = true →
    j = 0 ∧ 1 ≤ jc.cId ∧ jd.waits = true
  notNine : ∀ jd ∈ jc.dialogs, 1 ≤ jc.cId → jd.waits = true → jd.dCount ≠ 9

/-! ### What a pass does -/

/-- The loop over the dialogs of the call at `i` from that at `j` on leaves alone the other calls
and the dialogs that do not wait, and has come past none that has given up. -/
structure Untouched (i j : Nat) (s s' : OkState α) : Prop where
  others : ∀ i', i' ≠ i → s'.calls[i']? = s.calls[i']?
  idle : ∀ (j' : Nat) (jd : OkDialog α), (dialogsOf s.calls i)[j']? = some jd → jd.waits = false →
    (dialogsOf s'.calls i)[j']? = some jd
  notNine : ∀ (j' : Nat) (jd : OkDialog α), (dialogsOf s.calls i)[j']? = some jd → j ≤ j' → jd.waits = true →
    jd.dCount ≠ 9

theorem Untouched.of_succ {i j : Nat} {s s' : OkState α} (h : Untouched i (j + 1) s s')
    (hjd : ∀ jd, (dialogsOf s.calls i)[j]? = some jd → jd.waits = true → jd.dCount ≠ 9) :
    Untouched i j s s' where
  others := h.others
  idle := h.idle
  notNine := by
    intro j' jd hget hle
    by_cases heq : j = j'
    · rw [← heq] at hget
      exact hjd jd hget
    · exact h.notNine j' jd hget (by omega)

theorem Untouched.of_set {i j : Nat} {s s' : OkState α} {outputs : List (OkOutput α)}
    {jd jd' : OkDialog α} (hget : (dialogsOf s.calls i)[j]? = some jd) (hwaits : jd.waits = true)
    (hcount : jd.dCount ≠ 9) (h : Untouched i 1 ⟨setDialog s.calls i j jd', outputs⟩ s') :
    Untouched i j s s' := by
  have hother (j' : Nat) (hne : j ≠ j') :
      (dialogsOf (setDialog s.calls i j jd') i)[j']? = (dialogsOf s.calls i)[j']? := by
    rw [dialogsOf_setDialog, if_pos rfl, List.getElem?_set_ne hne]
  refine ⟨?_, ?_, ?_⟩
  · intro i' hne
    rw [h.others i' hne]
    simp [setDialog, hne.symm]
  · intro j' jd₁ hget₁ hidle
    have hne : j ≠ j' := by
      rintro rfl
      rw [hget, Option.some.injEq] at hget₁
      rw [← hget₁, hwaits] at hidle
      cases hidle
    exact h.idle j' jd₁ ((hother j' hne).trans hget₁) hidle
  · intro j' jd₁ hget₁ hle hwaits₁
    by_cases heq : j = j'
    · rw [← heq, hget, Option.some.injEq] at hget₁
      rw [← hget₁]
      exact hcount
    · exact h.notNine j' jd₁ ((hother j' heq).trans hget₁) (by omega) hwaits₁

theorem retransmitDialogs_spec {i j : Nat} {s s' : OkState α}
    (h : pass.retransmitDialogs i j s = some s') :
    ∃ new, s'.outputs = s.outputs ++ new ∧
      (∀ o ∈ new, (∃ message, o = .sent i 0 message) ∨ ∃ j', o = .ended i j') ∧
      ((∀ j', OkOutput.ended i j' ∉ new) → Untouched i j s s') := by
  fun_induction pass.retransmitDialogs i j s with
  | case1 j s hjd =>
      cases h
      refine ⟨[], (List.append_nil _).symm, by simp, ?_⟩
      intro _
      refine ⟨fun _ _ => rfl, fun _ _ hget _ => hget, ?_⟩
      intro j' jd hget hle
      have hlt := (List.getElem?_eq_some_iff.1 hget).1
      have hge := List.getElem?_eq_none_iff.1 hjd
      omega
  | case2 j s jd hjd hwaits hcount ih =>
      obtain ⟨new, hnew, houtputs, -⟩ := ih h
      refine ⟨.ended i j :: new, ?_, ?_, ?_⟩
      · rw [hnew, List.append_assoc]
        rfl
      · intro o ho
        cases ho with
        | head => exact Or.inr ⟨j, rfl⟩
        | tail _ ho => exact houtputs o ho
      · intro hended
        exact absurd List.mem_cons_self (hended j)
  | case3 j s jd hjd hwaits hcount hexpired calls hnull => cases h
  | case4 j s jd hjd hwaits hcount hexpired calls message hmessage ih =>
      obtain ⟨new, hnew, houtputs, huntouched⟩ := ih h
      refine ⟨.sent i 0 message :: new, ?_, ?_, ?_⟩
      · rw [hnew, List.append_assoc]
        rfl
      · intro o ho
        cases ho with
        | head => exact Or.inl ⟨message, rfl⟩
        | tail _ ho => exact houtputs o ho
      · intro hended
        refine Untouched.of_set hjd hwaits hcount (huntouched ?_)
        intro j' hmem
        exact hended j' (List.mem_cons_of_mem _ hmem)
  | case5 j s jd hjd hwaits hcount hexpired ih =>
      obtain ⟨new, hnew, houtputs, huntouched⟩ := ih h
      refine ⟨new, hnew, houtputs, ?_⟩
      intro hended
      refine (huntouched hended).of_succ ?_
      intro jd' hget _
      rw [hjd, Option.some.injEq] at hget
      rw [← hget]
      exact hcount
  | case6 j s jd hjd hwaits ih =>
      obtain ⟨new, hnew, houtputs, huntouched⟩ := ih h
      refine ⟨new, hnew, houtputs, ?_⟩
      intro hended
      refine (huntouched hended).of_succ ?_
      intro jd' hget hwaits'
      rw [hjd, Option.some.injEq] at hget
      rw [hget] at hwaits
      exact absurd hwaits' hwaits

/-- What a pass without an end leaves of a call: the dialogs that were not to be looked at, and
none has given up. -/
structure Spared (jc : OkCall α) (dialogs : List (OkDialog α)) : Prop where
  idle : ∀ (j : Nat) (jd : OkDialog α), jc.dialogs[j]? = some jd →
    ¬ (1 ≤ jc.cId ∧ jd.waits = true) → dialogs[j]? = some jd
  notNine : ∀ jd ∈ jc.dialogs, 1 ≤ jc.cId → jd.waits = true → jd.dCount ≠ 9

theorem dialogsOf_eq {calls : List (OkCall α)} {i : Nat} {jc : OkCall α} (h : calls[i]? = some jc) :
    dialogsOf calls i = jc.dialogs := by
  rw [dialogsOf, h]
  rfl

theorem retransmitCall_spec {i : Nat} {s s' : OkState α} (h : pass.retransmitCall s i = some s') :
    ∃ new, s'.outputs = s.outputs ++ new ∧
      (∀ o ∈ new, (∃ message, o = .sent i 0 message) ∨ ∃ j', o = .ended i j') ∧
      ((∀ j', OkOutput.ended i j' ∉ new) → (∀ i', i' ≠ i → s'.calls[i']? = s.calls[i']?) ∧
        ∀ jc, s.calls[i]? = some jc → Spared jc (dialogsOf s'.calls i)) := by
  unfold retransmitCall at h
  cases hcall : s.calls[i]? with
  | none =>
      rw [hcall] at h
      cases h
      exact ⟨[], (List.append_nil _).symm, by simp, fun _ => ⟨fun _ _ => rfl, nofun⟩⟩
  | some jc =>
      rw [hcall] at h
      dsimp only at h
      split at h
      · obtain ⟨new, hnew, houtputs, huntouched⟩ := pass.retransmitDialogs_spec h
        refine ⟨new, hnew, houtputs, ?_⟩
        intro hended
        obtain ⟨hothers, hidle, hnine⟩ := huntouched hended
        rw [dialogsOf_eq hcall] at hidle hnine
        refine ⟨hothers, ?_⟩
        intro jc' hjc'
        cases hjc'
        constructor
        · intro j jd hget hnot
          refine hidle j jd hget ?_
          simpa [*] using hnot
        · intro jd hmem _ hwaits
          obtain ⟨j, hget⟩ := List.mem_iff_getElem?.1 hmem
          exact hnine j jd hget (Nat.zero_le j) hwaits
      · next hid =>
          cases h
          refine ⟨[], (List.append_nil _).symm, by simp, ?_⟩
          intro _
          refine ⟨fun _ _ => rfl, ?_⟩
          intro jc' hjc'
          cases hjc'
          rw [dialogsOf_eq hcall]
          exact ⟨fun _ _ hget _ => hget, fun _ _ hone => absurd hone hid⟩

theorem foldlM_spec {l : List Nat} {s s' : OkState α} (hnodup : l.Nodup)
    (h : l.foldlM pass.retransmitCall s = some s') :
    ∃ new, s'.outputs = s.outputs ++ new ∧
      (∀ o ∈ new, ∃ i ∈ l, (∃ message, o = .sent i 0 message) ∨ ∃ j', o = .ended i j') ∧
      ((∀ i j', OkOutput.ended i j' ∉ new) → (∀ i, i ∉ l → s'.calls[i]? = s.calls[i]?) ∧
        ∀ i ∈ l, ∀ jc, s.calls[i]? = some jc → Spared jc (dialogsOf s'.calls i)) := by
  induction l generalizing s with
  | nil =>
      cases h
      exact ⟨[], (List.append_nil _).symm, by simp, fun _ => ⟨fun _ _ => rfl, by simp⟩⟩
  | cons i l ih =>
      rw [List.nodup_cons] at hnodup
      rw [List.foldlM_cons, Option.bind_eq_bind, Option.bind_eq_some_iff] at h
      obtain ⟨s₁, hcall, hrest⟩ := h
      obtain ⟨new₁, hnew₁, houtputs₁, hspared₁⟩ := pass.retransmitCall_spec hcall
      obtain ⟨new₂, hnew₂, houtputs₂, hspared₂⟩ := ih hnodup.2 hrest
      refine ⟨new₁ ++ new₂, ?_, ?_, ?_⟩
      · rw [hnew₂, hnew₁, List.append_assoc]
      · intro o ho
        cases List.mem_append.1 ho with
        | inl ho => exact ⟨i, List.mem_cons_self, houtputs₁ o ho⟩
        | inr ho =>
            obtain ⟨i', hmem, hkind⟩ := houtputs₂ o ho
            exact ⟨i', List.mem_cons_of_mem i hmem, hkind⟩
      · intro hended
        obtain ⟨hothers₁, hcall₁⟩ := hspared₁ fun j' hmem =>
          hended i j' (List.mem_append_left new₂ hmem)
        obtain ⟨hothers₂, hcalls₂⟩ := hspared₂ fun i' j' hmem =>
          hended i' j' (List.mem_append_right new₁ hmem)
        constructor
        · intro i' hnot
          rw [List.mem_cons, not_or] at hnot
          rw [hothers₂ i' hnot.2, hothers₁ i' hnot.1]
        · intro i' hmem jc hjc
          cases List.mem_cons.1 hmem with
          | inl heq =>
              rw [heq] at hjc ⊢
              have hsame : dialogsOf s'.calls i = dialogsOf s₁.calls i := by
                rw [dialogsOf, dialogsOf, hothers₂ i hnodup.1]
              rw [hsame]
              exact hcall₁ jc hjc
          | inr hmem =>
              have hne : i' ≠ i := fun heq => hnodup.1 (heq ▸ hmem)
              exact hcalls₂ i' hmem jc ((hothers₁ i' hne).trans hjc)

/-! ### A pass over calls in order -/

theorem retransmitDialogs_quiet {i j : Nat} {s : OkState α}
    (h : ∀ j' jd, j ≤ j' → (dialogsOf s.calls i)[j']? = some jd → jd.waits = true →
      jd.dCount ≠ 9 ∧ ¬ jd.dTimer < pass.now) :
    pass.retransmitDialogs i j s = some s := by
  fun_induction pass.retransmitDialogs i j s with
  | case1 j s hjd => rfl
  | case2 j s jd hjd hwaits hcount ih => exact absurd hcount (h j jd (Nat.le_refl j) hjd hwaits).1
  | case3 j s jd hjd hwaits hcount hexpired calls hnull =>
      exact absurd hexpired (h j jd (Nat.le_refl j) hjd hwaits).2
  | case4 j s jd hjd hwaits hcount hexpired calls message hmessage ih =>
      exact absurd hexpired (h j jd (Nat.le_refl j) hjd hwaits).2
  | case5 j s jd hjd hwaits hcount hexpired ih =>
      exact ih fun j' jd' hle => h j' jd' (by omega)
  | case6 j s jd hjd hwaits ih => exact ih fun j' jd' hle => h j' jd' (by omega)

theorem retransmitDialogs_first {i : Nat} {s : OkState α} {jd : OkDialog α}
    (hget : (dialogsOf s.calls i)[0]? = some jd) (hwaits : jd.waits = true) (hcount : jd.dCount ≠ 9)
    (htimer : jd.dTimer < pass.now) {message : α} (hmessage : jd.d200Ok = some message) :
    pass.retransmitDialogs i 0 s = pass.retransmitDialogs i 1
      ⟨setDialog s.calls i 0 (jd.retimed (pass.clock s.outputs.length)),
        s.outputs ++ [.sent i 0 message]⟩ := by
  have hhead : (dialogsOf (setDialog s.calls i 0 (jd.retimed (pass.clock s.outputs.length)))
      i).head?.bind OkDialog.d200Ok = some message := by
    have hlt := (List.getElem?_eq_some_iff.1 hget).1
    rw [dialogsOf_setDialog, if_pos rfl, List.head?_eq_getElem?, List.getElem?_set_self hlt]
    exact hmessage
  rw [retransmitDialogs]
  split
  · next hnone =>
      rw [hget] at hnone
      cases hnone
  · next jd' hsome =>
      rw [hget, Option.some.injEq] at hsome
      subst hsome
      rw [dif_pos hwaits, if_neg hcount, dif_pos htimer]
      dsimp only
      split
      · next hnone =>
          rw [hhead] at hnone
          cases hnone
      · next message' hsome =>
          rw [hhead, Option.some.injEq] at hsome
          rw [hsome]

theorem Recovered.of_eq {i j : Nat} {jd : OkDialog α} {s s' : OkState α}
    (h : pass.Recovered s i j jd) (hdialogs : dialogsOf s'.calls i = dialogsOf s.calls i)
    (houtputs : s'.outputs.filter (about i j) = s.outputs.filter (about i j)) :
    pass.Recovered s' i j jd := by
  unfold Recovered at h ⊢
  rw [hdialogs, houtputs]
  exact h

theorem retransmitCall_inOrder {i : Nat} {s : OkState α} {jc : OkCall α}
    (hcall : s.calls[i]? = some jc) (horder : pass.InOrder jc) :
    ∃ s' new, pass.retransmitCall s i = some s' ∧ s'.outputs = s.outputs ++ new ∧
      (∀ o ∈ new, ∃ message, o = .sent i 0 message) ∧
      (∀ i', i' ≠ i → s'.calls[i']? = s.calls[i']?) ∧
      ∀ j jd, jc.dialogs[j]? = some jd → pass.Recovered ⟨s'.calls, new⟩ i j jd := by
  have hdialogs := dialogsOf_eq hcall
  unfold retransmitCall
  rw [hcall]
  dsimp only
  by_cases hexpired : ∃ jd, jc.dialogs[0]? = some jd ∧ jd.expired pass.now = true
  · obtain ⟨jd, hget, hexpired⟩ := hexpired
    obtain ⟨-, hid, hwaits⟩ := horder.first 0 jd hget hexpired
    have hcount := horder.notNine jd (List.mem_of_getElem? hget) hid hwaits
    have hwhen := hexpired
    rw [OkDialog.expired, Bool.and_eq_true, Option.isSome_iff_exists, decide_eq_true_eq] at hwhen
    obtain ⟨⟨message, hmessage⟩, htimer⟩ := hwhen
    have hother (j : Nat) (hne : j ≠ 0) (time : Int) :
        (dialogsOf (setDialog s.calls i 0 (jd.retimed time)) i)[j]? = jc.dialogs[j]? := by
      rw [dialogsOf_setDialog, if_pos rfl, List.getElem?_set_ne hne.symm, hdialogs]
    rw [if_pos hid, pass.retransmitDialogs_first (hdialogs ▸ hget) hwaits hcount htimer hmessage,
      pass.retransmitDialogs_quiet]
    · refine ⟨_, [.sent i 0 message], rfl, rfl, ?_, ?_, ?_⟩
      · intro o ho
        rw [List.mem_singleton] at ho
        exact ⟨message, ho⟩
      · intro i' hne
        simp [setDialog, hne.symm]
      · intro j jd' hget'
        unfold Recovered
        by_cases hzero : j = 0
        · rw [hzero, hget, Option.some.injEq] at hget'
          rw [hzero, ← hget', hexpired, if_pos rfl]
          refine ⟨⟨message, hmessage, ?_⟩, s.outputs.length, ?_⟩
          · simp [about]
          · have hlt := (List.getElem?_eq_some_iff.1 hget).1
            rw [dialogsOf_setDialog, if_pos rfl, hdialogs, List.getElem?_set_self hlt]
        · have hnot : jd'.expired pass.now = false := by
            rw [Bool.eq_false_iff]
            exact fun htrue => hzero (horder.first j jd' hget' htrue).1
          rw [hnot, if_neg Bool.false_ne_true, hother j hzero]
          refine ⟨?_, hget'⟩
          simp [about, Ne.symm hzero]
    · intro j jd' hle hget' hwaits'
      rw [hother j (by omega)] at hget'
      refine ⟨horder.notNine jd' (List.mem_of_getElem? hget') hid hwaits', ?_⟩
      intro htimer'
      have hzero := (horder.first j jd' hget' (OkDialog.expired_of_waits hwaits' htimer')).1
      omega
  · have hnone (j : Nat) (jd : OkDialog α) (hget : jc.dialogs[j]? = some jd) :
        jd.expired pass.now = false := by
      rw [Bool.eq_false_iff]
      intro htrue
      have hzero := (horder.first j jd hget htrue).1
      rw [hzero] at hget
      exact hexpired ⟨jd, hget, htrue⟩
    refine ⟨s, [], ?_, (List.append_nil _).symm, by simp, fun _ _ => rfl, ?_⟩
    · split
      · next hid =>
          refine pass.retransmitDialogs_quiet ?_
          intro j jd _ hget hwaits
          rw [hdialogs] at hget
          refine ⟨horder.notNine jd (List.mem_of_getElem? hget) hid hwaits, ?_⟩
          intro htimer
          have hfalse := hnone j jd hget
          rw [OkDialog.expired_of_waits hwaits htimer] at hfalse
          cases hfalse
      · rfl
    · intro j jd hget
      unfold Recovered
      rw [hnone j jd hget, if_neg Bool.false_ne_true, hdialogs]
      exact ⟨rfl, hget⟩

theorem filter_about_eq_nil {outputs : List (OkOutput α)} {i : Nat} (j : Nat)
    (h : ∀ o ∈ outputs, ∃ i' message, i' ≠ i ∧ o = .sent i' 0 message) :
    outputs.filter (about i j) = [] := by
  rw [List.filter_eq_nil_iff]
  intro o ho
  obtain ⟨i', message, hne, heq⟩ := h o ho
  rw [heq]
  simp [about, hne]

theorem foldlM_inOrder {l : List Nat} {s : OkState α} (hnodup : l.Nodup)
    (horder : ∀ i ∈ l, ∀ jc, s.calls[i]? = some jc → pass.InOrder jc) :
    ∃ s' new, l.foldlM pass.retransmitCall s = some s' ∧ s'.outputs = s.outputs ++ new ∧
      (∀ o ∈ new, ∃ i ∈ l, ∃ message, o = .sent i 0 message) ∧
      (∀ i, i ∉ l → s'.calls[i]? = s.calls[i]?) ∧
      ∀ i ∈ l, ∀ jc, s.calls[i]? = some jc → ∀ j jd, jc.dialogs[j]? = some jd →
        pass.Recovered ⟨s'.calls, new⟩ i j jd := by
  induction l generalizing s with
  | nil => exact ⟨s, [], rfl, (List.append_nil _).symm, by simp, fun _ _ => rfl, by simp⟩
  | cons i l ih =>
      rw [List.nodup_cons] at hnodup
      have hstep : ∃ s₁ new₁, pass.retransmitCall s i = some s₁ ∧ s₁.outputs = s.outputs ++ new₁ ∧
          (∀ o ∈ new₁, ∃ message, o = .sent i 0 message) ∧
          (∀ i', i' ≠ i → s₁.calls[i']? = s.calls[i']?) ∧
          ∀ jc, s.calls[i]? = some jc → ∀ j jd, jc.dialogs[j]? = some jd →
            pass.Recovered ⟨s₁.calls, new₁⟩ i j jd := by
        cases hcall : s.calls[i]? with
        | none =>
            refine ⟨s, [], ?_, (List.append_nil _).symm, by simp, fun _ _ => rfl, nofun⟩
            rw [retransmitCall, hcall]
        | some jc =>
            obtain ⟨s₁, new₁, hrun, hnew, hsent, hothers, hrecovered⟩ :=
              pass.retransmitCall_inOrder hcall (horder i List.mem_cons_self jc hcall)
            refine ⟨s₁, new₁, hrun, hnew, hsent, hothers, ?_⟩
            intro jc' hjc'
            cases hjc'
            exact hrecovered
      obtain ⟨s₁, new₁, hrun, hnew₁, hsent₁, hothers₁, hrecovered₁⟩ := hstep
      have horder₁ : ∀ i' ∈ l, ∀ jc, s₁.calls[i']? = some jc → pass.InOrder jc := by
        intro i' hmem jc hjc
        have hne : i' ≠ i := fun heq => hnodup.1 (heq ▸ hmem)
        exact horder i' (List.mem_cons_of_mem i hmem) jc ((hothers₁ i' hne).symm.trans hjc)
      obtain ⟨s₂, new₂, hrest, hnew₂, hsent₂, hothers₂, hrecovered₂⟩ := ih hnodup.2 horder₁
      refine ⟨s₂, new₁ ++ new₂, ?_, ?_, ?_, ?_, ?_⟩
      · rw [List.foldlM_cons, hrun]
        exact hrest
      · rw [hnew₂, hnew₁, List.append_assoc]
      · intro o ho
        cases List.mem_append.1 ho with
        | inl ho => exact ⟨i, List.mem_cons_self, hsent₁ o ho⟩
        | inr ho =>
            obtain ⟨i', hmem, message, heq⟩ := hsent₂ o ho
            exact ⟨i', List.mem_cons_of_mem i hmem, message, heq⟩
      · intro i' hnot
        rw [List.mem_cons, not_or] at hnot
        rw [hothers₂ i' hnot.2, hothers₁ i' hnot.1]
      · intro i' hmem jc hjc j jd hget
        cases List.mem_cons.1 hmem with
        | inl heq =>
            rw [heq] at hjc ⊢
            refine (hrecovered₁ jc hjc j jd hget).of_eq pass ?_ ?_
            · dsimp only [dialogsOf]
              rw [hothers₂ i hnodup.1]
            · have hnone := filter_about_eq_nil j fun o ho => by
                obtain ⟨i'', hmem'', message, heq''⟩ := hsent₂ o ho
                have hne : i'' ≠ i := fun heq => hnodup.1 (heq ▸ hmem'')
                exact ⟨i'', message, hne, heq''⟩
              rw [List.filter_append, hnone, List.append_nil]
        | inr hmem =>
            have hne : i' ≠ i := fun heq => hnodup.1 (heq ▸ hmem)
            have hnone := filter_about_eq_nil j fun o ho => by
              obtain ⟨message, heq⟩ := hsent₁ o ho
              exact ⟨i, message, hne.symm, heq⟩
            refine (hrecovered₂ i' hmem jc ((hothers₁ i' hne).trans hjc) j jd hget).of_eq pass rfl ?_
            rw [List.filter_append, hnone, List.nil_append]

theorem sent_first {calls : List (OkCall α)} {s : OkState α}
    (h : pass.retransmitLost200ok calls = some s) {i j : Nat} {message : α}
    (hmem : OkOutput.sent i j message ∈ s.outputs) : j = 0 := by
  obtain ⟨new, hnew, houtputs, -⟩ := pass.foldlM_spec List.nodup_range h
  rw [List.nil_append] at hnew
  rw [hnew] at hmem
  obtain ⟨i', -, ⟨message', heq⟩ | ⟨j', heq⟩⟩ := houtputs _ hmem
  · cases heq
    rfl
  · cases heq

/-- In every set of calls, whatever the clock shows and the end of a dialog does, each lost 200 OK
is sent again exactly when every call is in order. -/
theorem recovers_iff (calls : List (OkCall α)) :
    pass.Recovers calls ↔ ∀ jc ∈ calls, pass.InOrder jc := by
  constructor
  · intro h jc hmem
    obtain ⟨s, hrun, hended, hrecovered⟩ := h
    obtain ⟨i, hcall⟩ := List.mem_iff_getElem?.1 hmem
    have hlt := (List.getElem?_eq_some_iff.1 hcall).1
    obtain ⟨new, hnew, -, hspared⟩ := pass.foldlM_spec List.nodup_range hrun
    rw [List.nil_append] at hnew
    rw [← hnew] at hspared
    have hcallSpared := (hspared hended).2 i (List.mem_range.2 hlt) jc hcall
    refine ⟨?_, hcallSpared.notNine⟩
    intro j jd hget hexpired
    have hdone := hrecovered i j jd ((congrArg (·[j]?) (dialogsOf_eq hcall)).trans hget)
    rw [Recovered, if_pos hexpired] at hdone
    obtain ⟨⟨message, -, hsent⟩, n, htimer⟩ := hdone
    constructor
    · exact pass.sent_first hrun (List.mem_of_mem_filter (hsent ▸ List.mem_singleton_self _))
    · by_contra hidle
      -- the timer of a dialog that is not looked at is not set
      have hsame := hcallSpared.idle j jd hget hidle
      rw [htimer, Option.some.injEq] at hsame
      have hcount := congrArg OkDialog.dCount hsame
      simp [OkDialog.retimed] at hcount
  · intro h
    have horder : ∀ i ∈ List.range calls.length, ∀ jc, calls[i]? = some jc → pass.InOrder jc :=
      fun i _ jc hcall => h jc (List.mem_of_getElem? hcall)
    obtain ⟨s, new, hrun, hnew, hsent, -, hrecovered⟩ :=
      pass.foldlM_inOrder (s := ⟨calls, []⟩) List.nodup_range horder
    rw [List.nil_append] at hnew
    refine ⟨s, hrun, ?_, ?_⟩
    · intro i j hmem
      rw [hnew] at hmem
      obtain ⟨i', -, message, heq⟩ := hsent _ hmem
      cases heq
    intro i j jd hget
    cases hcall : calls[i]? with
    | none =>
        rw [dialogsOf, hcall] at hget
        cases hget
    | some jc =>
        rw [dialogsOf_eq hcall] at hget
        have hlt := (List.getElem?_eq_some_iff.1 hcall).1
        refine (hrecovered i (List.mem_range.2 hlt) jc hcall j jd hget).of_eq pass rfl ?_
        rw [hnew]

end OkPass

/-! ### The end of a dialog -/

namespace OkCall

variable {α : Type}

/-- The loop of `_eXosip_update` over dialogs: an established one that has no id gets the next,
and the others have none. -/
def updateDialogs : Int → List (OkDialog α) → Int × List (OkDialog α)
  | staticId, [] => (staticId, [])
  | staticId, jd :: dialogs =>
      let own := if jd.dDialog then Identifiers.takeId staticId jd.dId else (staticId, -1)
      let rest := updateDialogs own.1 dialogs
      (rest.1, { jd with dId := own.2 } :: rest.2)

def updateCalls : Int → List (OkCall α) → List (OkCall α)
  | _, [] => []
  | staticId, jc :: calls =>
      let own := Identifiers.takeId staticId jc.cId
      let dialogs := updateDialogs own.1 jc.dialogs
      ⟨own.2, dialogs.2⟩ :: updateCalls dialogs.1 calls

/-- `_eXosip_update`, as far as it is about calls. -/
def update (staticId : Int) (calls : List (OkCall α)) : List (OkCall α) :=
  updateCalls (Identifiers.startId staticId) calls

def idsOf (jc : OkCall α) : Identifiers.JObject :=
  ⟨0, jc.cId, jc.dialogs.map fun jd => ⟨0, jd.dDialog, jd.dId⟩⟩

theorem updateDialogs_ids (staticId : Int) (dialogs : List (OkDialog α)) :
    Identifiers.updateDialogs staticId (dialogs.map fun jd => ⟨0, jd.dDialog, jd.dId⟩) =
      ((updateDialogs staticId dialogs).1,
        (updateDialogs staticId dialogs).2.map fun jd => ⟨0, jd.dDialog, jd.dId⟩) := by
  induction dialogs generalizing staticId with
  | nil => rfl
  | cons jd dialogs ih =>
      rw [List.map_cons, Identifiers.updateDialogs, updateDialogs]
      dsimp only
      split
      · rw [ih]
        rfl
      · rw [ih]
        rfl

/-- The identifiers are those that `_eXosip_update` gives to all objects. -/
theorem update_ids (staticId : Int) (calls : List (OkCall α)) :
    (update staticId calls).map idsOf =
      (Identifiers.updateObjects (Identifiers.startId staticId) (calls.map idsOf)).2 := by
  unfold update
  generalize Identifiers.startId staticId = staticId
  induction calls generalizing staticId with
  | nil => rfl
  | cons jc calls ih =>
      rw [List.map_cons, Identifiers.updateObjects, updateCalls, List.map_cons]
      dsimp only
      have hdialogs := updateDialogs_ids (Identifiers.takeId staticId jc.cId).1 jc.dialogs
      have hown : (idsOf jc).dialogs = jc.dialogs.map fun jd => ⟨0, jd.dDialog, jd.dId⟩ := rfl
      have hid : (idsOf jc).id = jc.cId := rfl
      rw [hown, hid, hdialogs, ih]
      rfl

/-- `_eXosip_call_dialog_find`. -/
def callDialogFind (calls : List (OkCall α)) (did : Int) : Option (Nat × Nat) := do
  let i ← calls.findIdx? fun jc => jc.dialogs.any (·.dId = did)
  let j ← (dialogsOf calls i).findIdx? (·.dId = did)
  some (i, j)

/-- How `eXosip_call_terminate` ends: without a BYE, without one but for an answer, or with it. -/
inductive Terminated where
  | failed
  | answered
  | closed
  deriving DecidableEq, Repr

/-- What `eXosip_call_terminate` does to the dialogs when asked to end that at `j`. -/
def callTerminate (staticId : Int) (terminated : Terminated) (calls : List (OkCall α))
    (i j : Nat) : List (OkCall α) :=
  match terminated with
  | .failed => calls
  | .answered => update staticId calls
  | .closed =>
      match (dialogsOf calls i)[j]?.bind fun jd => callDialogFind calls jd.dId with
      | none => calls
      | some (i, j) =>
          match (dialogsOf calls i)[j]? with
          | none => calls
          | some jd => update staticId (setDialog calls i j { jd with dDialog := false })

theorem updateDialogs_timing (staticId : Int) (dialogs : List (OkDialog α)) :
    (updateDialogs staticId dialogs).2.map OkDialog.timing = dialogs.map OkDialog.timing := by
  induction dialogs generalizing staticId with
  | nil => rfl
  | cons jd dialogs ih =>
      rw [updateDialogs]
      dsimp only
      rw [List.map_cons, List.map_cons, ih]
      rfl

theorem update_timings (staticId : Int) (calls : List (OkCall α)) :
    (update staticId calls).map timings = calls.map timings := by
  unfold update
  generalize Identifiers.startId staticId = staticId
  induction calls generalizing staticId with
  | nil => rfl
  | cons jc calls ih =>
      rw [updateCalls, List.map_cons, List.map_cons, ih]
      congr 1
      exact updateDialogs_timing _ jc.dialogs

theorem setDialog_timings {calls : List (OkCall α)} {i j : Nat} {jd jd' : OkDialog α}
    (hget : (dialogsOf calls i)[j]? = some jd) (h : jd'.timing = jd.timing) :
    (setDialog calls i j jd').map timings = calls.map timings := by
  obtain ⟨jc, hcall, hdialog⟩ : ∃ jc, calls[i]? = some jc ∧ jc.dialogs[j]? = some jd := by
    unfold dialogsOf at hget
    cases hcall : calls[i]? with
    | none =>
        rw [hcall] at hget
        cases hget
    | some jc =>
        rw [hcall] at hget
        exact ⟨jc, rfl, hget⟩
  obtain ⟨hlt, hdialog⟩ := List.getElem?_eq_some_iff.1 hdialog
  have hsame : (jc.dialogs.set j jd').map OkDialog.timing = jc.dialogs.map OkDialog.timing := by
    rw [List.map_set, h, ← hdialog]
    apply List.ext_getElem?
    intro n
    rw [List.getElem?_set]
    split
    · next heq =>
        rw [← heq]
        simp [hlt]
    · rfl
  apply List.ext_getElem?
  intro n
  rw [setDialog, List.getElem?_map, List.getElem?_map, List.getElem?_modify]
  by_cases heq : i = n
  · rw [← heq, hcall]
    simp [timings, hsame]
  · simp [heq]

theorem callTerminate_timings (staticId : Int) (terminated : Terminated)
    (calls : List (OkCall α)) (i j : Nat) :
    (callTerminate staticId terminated calls i j).map timings = calls.map timings := by
  unfold callTerminate
  split
  · rfl
  · exact update_timings staticId calls
  · split
    · rfl
    · split
      · rfl
      · next hget =>
          rw [update_timings]
          exact setDialog_timings hget rfl

end OkCall

namespace OkPass

open OkCall

def passAt (α : Type) (now staticId : Int) (terminated : Terminated) : OkPass α where
  now := now
  clock := fun _ => now
  clock_ge := fun _ => Int.le_refl now
  terminate := callTerminate staticId terminated
  terminate_timings := callTerminate_timings staticId terminated

/-- The 200 OK of a second dialog is to be sent again, and that of the first one is sent. -/
theorem not_recovers : ¬ ∀ (pass : OkPass String) (calls : List (OkCall String)),
    pass.Recovers calls := by
  intro h
  let first : OkDialog String := ⟨2, true, some "200 OK to a", 20, 0⟩
  let second : OkDialog String := ⟨3, true, some "200 OK to b", 9, 0⟩
  obtain ⟨s, hrun, -, hrecovered⟩ := h (passAt String 10 4 .closed) [⟨1, [first, second]⟩]
  have hsecond := hrecovered 0 1 second rfl
  rw [Recovered, if_pos (by decide)] at hsecond
  obtain ⟨⟨message, -, hsent⟩, -⟩ := hsecond
  have hzero := (passAt String 10 4 .closed).sent_first hrun
    (List.mem_of_mem_filter (hsent ▸ List.mem_singleton_self _))
  exact absurd hzero (by decide)

end OkPass
end Exosip
