import Exosip.Call.Identified
import Exosip.Machine.Walk

/-! `_eXosip_release_terminated_calls` as it walks along the calls and their dialogs: what it
removes, reports and leaves behind. -/
namespace Exosip.Owners

open Machine

/-- The calls during a pass, with the calls for which `EXOSIP_CALL_RELEASED` was reported and the
transactions that were freed. -/
structure ReleasePass where
  owners : Owners
  released : List Nat
  freed : List Nat

namespace ReleasePass

def callAddresses (p : ReleasePass) : List Nat := p.owners.jCalls.map (·.address)

/-- `jc->c_dialogs`. -/
def dialogAddresses (c : Nat) (p : ReleasePass) : List Nat :=
  (p.owners.callAt c).elim [] fun jc => jc.cDialogs.map (·.address)

def reads (p : ReleasePass) (c d : Nat) : Bool :=
  (p.owners.callAt c).any fun jc => (dialogAt jc d).isSome

/-- A function that may free the dialog or the call, and reports a call that it frees. It has no
result when it is given one that is gone. -/
def releaseWith (kind : ReleaseKind) (c : Nat) (d : Option Nat) (now : Int) (p : ReleasePass) :
    Option (Release × ReleasePass) :=
  ((p.owners.callAt c).bind fun jc => (visited jc d).map fun jd => (jc, jd)).map fun found =>
    let r := p.owners.decision kind found.1 found.2 now
    (r, { p with
      owners := p.owners.free found.1 found.2 r
      released := if r = .call then c :: p.released else p.released })

def setOwners (owners : Owners) (p : ReleasePass) : ReleasePass := { p with owners }

/-- The last three tests of the loop over the dialogs. -/
def releaseTurn (now : Int) (c : Nat) (p : ReleasePass) (d : Nat) : Option (ReleasePass × Bool) :=
  match p.releaseWith .finishedCalls c (some d) now with
  | none => none
  | some (.nothing, p) =>
      match p.releaseWith .abortedCalls c (some d) now with
      | none => none
      | some (.nothing, p) =>
          (p.releaseWith .removedDialog c (some d) now).map fun removed => (removed.2, true)
      | some (_, p) => some (p, false)
  | some (_, p) => some (p, true)

def dialogTurn (now : Int) (c : Nat) (p : ReleasePass) (d : Nat) : Option (ReleasePass × Bool) :=
  if !p.reads c d then none
  else
    let pending := p.owners.pendingTransactionExist c d now
    let p := p.setOwners pending.2
    if pending.1 then some (p, true)
    else if !p.reads c d then none
    else
      let finished := p.owners.releaseFinishedTransactions c d now
      let p := p.setOwners finished.2
      if finished.1 then some (p, true) else p.releaseTurn now c d

def callTurn (now : Int) (p : ReleasePass) (c : Nat) : Option (ReleasePass × Bool) :=
  let dialogs := p.dialogAddresses c
  match (walkSaved (dialogAddresses c) (dialogTurn now c) dialogs.length p dialogs.head?).2 with
  | .ended p => some (p, true)
  | _ => none

/-- The body of the second loop over the calls. -/
def emptyTurn (now : Int) (p : ReleasePass) (c : Nat) : Option (ReleasePass × Bool) :=
  (p.releaseWith .emptyCall c none now).map fun released => (released.2, true)

/-- The body of the loop over `j_transactions`. -/
def transactionTurn (now : Int) (p : ReleasePass) (t : Nat) : ReleasePass :=
  let owners := p.owners.releaseTransaction t now
  { p with
    owners
    freed := if t ∈ p.owners.jTransactions ∧ t ∉ owners.jTransactions then t :: p.freed
      else p.freed }

/-- The walk over all calls with one body, none when it uses a call or dialog that is gone. -/
def overCalls (body : ReleasePass → Nat → Option (ReleasePass × Bool)) (p : ReleasePass) :
    Option ReleasePass :=
  match (walkSaved callAddresses body p.callAddresses.length p p.callAddresses.head?).2 with
  | .ended p => some p
  | _ => none

end ReleasePass

/-- `_eXosip_release_terminated_calls`. -/
def releasePass (now : Int) (s : Owners) : Option ReleasePass :=
  (ReleasePass.overCalls (ReleasePass.callTurn now) ⟨s, [], []⟩).bind fun p =>
    (ReleasePass.overCalls (ReleasePass.emptyTurn now) p).map fun p =>
      p.owners.jTransactions.foldl (ReleasePass.transactionTurn now) p

/-- Objects in memory: calls and dialogs have addresses of their own, each transaction is in one
place, and each dialog with an `osip_dialog_t` has its identifier, as after every run. -/
structure Sound (s : Owners) : Prop where
  calls : (s.jCalls.map OwnedCall.address).Nodup
  dialogs : (s.jCalls.flatMap fun jc => jc.cDialogs.map OwnedDialog.address).Nodup
  transactions : (s.heldTransactions ++ s.jTransactions).Nodup
  ids : s.Identified

/-- The INVITE of the call ended with a 2xx. -/
def Accepted (s : Owners) (jc : OwnedCall) : Prop :=
  ∃ t, jc.cIncTr.or jc.cOutTr = some t ∧
    (s.memory t).state ∈ [State.istTerminated, .ictTerminated] ∧
    (s.memory t).answered (fun code => 200 ≤ code && code < 300) = true

/-- The dialog is confirmed, no BYE was sent or received in it, and the INVITE of its call ended
with a 2xx. -/
def InUse (s : Owners) (jc : OwnedCall) (jd : OwnedDialog) : Prop :=
  jd.dDialog = some .confirmed ∧ (∀ t ∈ jd.trs, (s.memory t).method ≠ .bye) ∧ s.Accepted jc

/-- The transaction is in `j_transactions` once, or it was freed. -/
def LeftOnce (p : ReleasePass) (t : Nat) : Prop :=
  p.owners.jTransactions.count t = if t ∈ p.freed then 0 else 1

/-- What a pass may do: no dialog in use is removed, each removed call is reported once, and the
transactions of what was removed are in `j_transactions` or freed. -/
structure DropsDead (s : Owners) (p : ReleasePass) : Prop where
  inUse : ∀ jc ∈ s.jCalls, ∀ jd ∈ jc.cDialogs, s.InUse jc jd →
    p.owners.HasDialog jc.address jd.address
  reported : ∀ c, p.released.count c =
    if c ∈ s.jCalls.map OwnedCall.address ∧ c ∉ p.owners.jCalls.map OwnedCall.address then 1 else 0
  ofCall : ∀ jc ∈ s.jCalls, ¬ p.owners.HasCall jc.address → ∀ t ∈ jc.trs, LeftOnce p t
  ofDialog : ∀ jc ∈ s.jCalls, ∀ jd ∈ jc.cDialogs, ¬ p.owners.HasDialog jc.address jd.address →
    ∀ t ∈ jd.trs, LeftOnce p t

/-! ### What one function does to the calls -/

/-- The transaction is the same but for its owners. -/
structure SameTr (tr tr' : OwnedTr) : Prop where
  method : tr'.method = tr.method
  state : tr'.state = tr.state
  lastResponse : tr'.lastResponse = tr.lastResponse

theorem SameTr.refl (tr : OwnedTr) : SameTr tr tr := ⟨rfl, rfl, rfl⟩

theorem SameTr.trans {tr tr' tr'' : OwnedTr} (h : SameTr tr tr') (h' : SameTr tr' tr'') :
    SameTr tr tr'' :=
  ⟨h'.method.trans h.method, h'.state.trans h.state, h'.lastResponse.trans h.lastResponse⟩

/-- The dialog may have lost transactions. -/
structure WithinDialog (jd jd' : OwnedDialog) : Prop where
  address : jd'.address = jd.address
  dDialog : jd'.dDialog = jd.dDialog
  hasId : jd'.hasId = jd.hasId ∨ jd'.hasId = jd'.dDialog.isSome
  trs : ∀ t ∈ jd'.trs, t ∈ jd.trs

theorem WithinDialog.refl (jd : OwnedDialog) : WithinDialog jd jd :=
  ⟨rfl, rfl, Or.inl rfl, fun _ ht => ht⟩

theorem withinDialog_update (jd : OwnedDialog) : WithinDialog jd jd.update :=
  ⟨rfl, rfl, Or.inr rfl, fun _ ht => ht⟩

def editCall (keepsDialog : Nat → Bool) (g : Nat → OwnedDialog → OwnedDialog) (jc : OwnedCall) :
    OwnedCall :=
  { jc with
    cDialogs := (jc.cDialogs.filter fun jd => keepsDialog jd.address).map (g jc.address) }

/-- A function of the release: it keeps some of the calls and dialogs, and moves the transactions
`ts` to `j_transactions`. -/
structure Edits (s s' : Owners) (keepsCall keepsDialog : Nat → Bool)
    (g : Nat → OwnedDialog → OwnedDialog) (ts : List Nat) : Prop where
  memory : ∀ t, SameTr (s.memory t) (s'.memory t)
  calls : s'.jCalls =
    (s.jCalls.filter fun jc => keepsCall jc.address).map (editCall keepsDialog g)
  within : ∀ c jd, WithinDialog jd (g c jd)
  garbage : s'.jTransactions.Perm (ts ++ s.jTransactions)

/-- What is moved is what the kept calls and dialogs lose. -/
structure Takes (s : Owners) (keepsCall keepsDialog : Nat → Bool)
    (g : Nat → OwnedDialog → OwnedDialog) (ts : List Nat) : Prop where
  nodup : ts.Nodup
  held : ∀ t ∈ ts, t ∈ s.heldTransactions
  call : ∀ jc ∈ s.jCalls, keepsCall jc.address = false → ∀ t ∈ jc.trs, t ∈ ts
  own : ∀ jc ∈ s.jCalls, keepsCall jc.address = true →
    ∀ t ∈ jc.cIncTr.toList ++ jc.cOutTr.toList, t ∉ ts
  dialog : ∀ jc ∈ s.jCalls, keepsCall jc.address = true → ∀ jd ∈ jc.cDialogs,
    keepsDialog jd.address = false → ∀ t ∈ jd.trs, t ∈ ts
  kept : ∀ jc ∈ s.jCalls, keepsCall jc.address = true → ∀ jd ∈ jc.cDialogs,
    keepsDialog jd.address = true → (g jc.address jd).trs = jd.trs.filter (· ∉ ts)

theorem flatMap_filter_eq {α β : Type} {l : List α} {keeps : α → Bool} {f h : α → List β}
    (hkept : ∀ x ∈ l, keeps x = true → f x = h x) (hlost : ∀ x ∈ l, keeps x = false → h x = []) :
    (l.filter keeps).flatMap f = l.flatMap h := by
  induction l with
  | nil => rfl
  | cons x l ih =>
      rw [List.forall_mem_cons] at hkept hlost
      cases hx : keeps x with
      | true =>
          rw [List.filter_cons_of_pos hx, List.flatMap_cons, List.flatMap_cons, hkept.1 hx,
            ih hkept.2 hlost.2]
      | false =>
          rw [List.filter_cons_of_neg (by simp [hx]), List.flatMap_cons, hlost.1 hx,
            List.nil_append, ih hkept.2 hlost.2]

theorem filter_eq_nil_of_subset {l ts : List Nat} (h : ∀ t ∈ l, t ∈ ts) :
    l.filter (· ∉ ts) = [] := by
  rw [List.filter_eq_nil_iff]
  intro t ht
  simp [h t ht]

theorem filter_eq_self_of_disjoint {l ts : List Nat} (h : ∀ t ∈ l, t ∉ ts) :
    l.filter (· ∉ ts) = l := by
  rw [List.filter_eq_self]
  intro t ht
  simp [h t ht]

variable {s s' : Owners} {keepsCall keepsDialog : Nat → Bool}
  {g : Nat → OwnedDialog → OwnedDialog} {ts : List Nat}

theorem heldTransactions_of_edits (h : Edits s s' keepsCall keepsDialog g ts)
    (htakes : Takes s keepsCall keepsDialog g ts) :
    s'.heldTransactions = s.heldTransactions.filter (· ∉ ts) := by
  unfold heldTransactions
  rw [h.calls, List.flatMap_map, List.filter_flatMap]
  apply flatMap_filter_eq
  · intro jc hjc hkept
    rw [editCall, OwnedCall.trs, OwnedCall.trs, List.filter_append,
      filter_eq_self_of_disjoint (htakes.own jc hjc hkept), List.flatMap_map, List.filter_flatMap]
    apply congrArg
    apply flatMap_filter_eq
    · intro jd hjd hdialog
      exact htakes.kept jc hjc hkept jd hjd hdialog
    · intro jd hjd hdialog
      exact filter_eq_nil_of_subset (htakes.dialog jc hjc hkept jd hjd hdialog)
  · intro jc hjc hlost
    exact filter_eq_nil_of_subset (htakes.call jc hjc hlost)

theorem transactions_of_edits (h : Edits s s' keepsCall keepsDialog g ts)
    (htakes : Takes s keepsCall keepsDialog g ts) (hnodup : s.heldTransactions.Nodup) :
    (s'.heldTransactions ++ s'.jTransactions).Perm (s.heldTransactions ++ s.jTransactions) := by
  rw [heldTransactions_of_edits h htakes]
  have htaken : (s.heldTransactions.filter (· ∈ ts)).Perm ts := by
    rw [List.perm_ext_iff_of_nodup (hnodup.filter _) htakes.nodup]
    intro t
    rw [List.mem_filter, decide_eq_true_eq]
    exact and_iff_right_of_imp (htakes.held t)
  have hsplit : (s.heldTransactions.filter (· ∉ ts) ++ ts).Perm s.heldTransactions := by
    apply (htaken.symm.append_left _).trans
    have hpartition := List.filter_append_perm (fun t => decide (t ∉ ts)) s.heldTransactions
    simpa using hpartition
  have hmoved := h.garbage.append_left (s.heldTransactions.filter (· ∉ ts))
  rw [← List.append_assoc] at hmoved
  exact hmoved.trans (hsplit.append_right _)

/-! ### What a pass keeps -/

/-- A dialog in use, by its addresses. -/
def Busy (s : Owners) (c d : Nat) : Prop :=
  ∃ jc ∈ s.jCalls, jc.address = c ∧ ∃ jd ∈ jc.cDialogs, jd.address = d ∧ s.InUse jc jd

/-- The call may have lost dialogs, and its dialogs transactions. -/
structure WithinCall (jc jc' : OwnedCall) : Prop where
  address : jc'.address = jc.address
  own : jc'.cIncTr = jc.cIncTr ∧ jc'.cOutTr = jc.cOutTr
  dialogs : ∀ jd' ∈ jc'.cDialogs, ∃ jd ∈ jc.cDialogs, jd'.address = jd.address ∧
    ∀ t ∈ jd'.trs, t ∈ jd.trs

/-- A stretch of the pass: nothing is lost or doubled, nothing in use is removed, and each call
is in the list or reported. -/
structure Passes (p p' : ReleasePass) : Prop where
  sound : p'.owners.Sound
  transactions : (p'.owners.heldTransactions ++ p'.owners.jTransactions).Perm
    (p.owners.heldTransactions ++ p.owners.jTransactions)
  within : ∀ jc' ∈ p'.owners.jCalls, ∃ jc ∈ p.owners.jCalls, WithinCall jc jc'
  busy : ∀ c d, p.owners.Busy c d → p'.owners.Busy c d
  reported : ∀ c, p'.released.count c + p'.callAddresses.count c =
    p.released.count c + p.callAddresses.count c
  freed : p'.freed = p.freed

theorem WithinCall.refl (jc : OwnedCall) : WithinCall jc jc :=
  ⟨rfl, ⟨rfl, rfl⟩, fun jd hjd => ⟨jd, hjd, rfl, fun _ ht => ht⟩⟩

theorem WithinCall.trans {jc jc' jc'' : OwnedCall} (h : WithinCall jc jc')
    (h' : WithinCall jc' jc'') : WithinCall jc jc'' where
  address := h'.address.trans h.address
  own := ⟨h'.own.1.trans h.own.1, h'.own.2.trans h.own.2⟩
  dialogs := by
    intro jd'' hjd''
    obtain ⟨jd', hjd', haddress', htrs'⟩ := h'.dialogs jd'' hjd''
    obtain ⟨jd, hjd, haddress, htrs⟩ := h.dialogs jd' hjd'
    exact ⟨jd, hjd, haddress'.trans haddress, fun t ht => htrs t (htrs' t ht)⟩

theorem Passes.refl {p : ReleasePass} (h : p.owners.Sound) : Passes p p :=
  ⟨h, List.Perm.refl _, fun jc hjc => ⟨jc, hjc, WithinCall.refl jc⟩, fun _ _ hbusy => hbusy,
    fun _ => rfl, rfl⟩

theorem Passes.trans {p p' p'' : ReleasePass} (h : Passes p p') (h' : Passes p' p'') :
    Passes p p'' where
  sound := h'.sound
  transactions := h'.transactions.trans h.transactions
  within := by
    intro jc'' hjc''
    obtain ⟨jc', hjc', hwithin'⟩ := h'.within jc'' hjc''
    obtain ⟨jc, hjc, hwithin⟩ := h.within jc' hjc'
    exact ⟨jc, hjc, hwithin.trans hwithin'⟩
  busy c d hbusy := h'.busy c d (h.busy c d hbusy)
  reported c := (h'.reported c).trans (h.reported c)
  freed := h'.freed.trans h.freed

theorem flatMap_filter_sublist {α β : Type} {l : List α} {keeps : α → Bool} {f h : α → List β}
    (hsub : ∀ x, (f x).Sublist (h x)) : ((l.filter keeps).flatMap f).Sublist (l.flatMap h) := by
  induction l with
  | nil => exact List.Sublist.refl _
  | cons x l ih =>
      cases hx : keeps x with
      | true =>
          rw [List.filter_cons_of_pos hx, List.flatMap_cons, List.flatMap_cons]
          exact (hsub x).append ih
      | false =>
          rw [List.filter_cons_of_neg (by simp [hx]), List.flatMap_cons]
          exact ih.trans (List.sublist_append_right _ _)

theorem map_address_editCall (calls : List OwnedCall) :
    (calls.map (editCall keepsDialog g)).map OwnedCall.address = calls.map OwnedCall.address := by
  rw [List.map_map]
  rfl

theorem map_address_dialogs (hwithin : ∀ c jd, WithinDialog jd (g c jd)) (jc : OwnedCall) :
    (editCall keepsDialog g jc).cDialogs.map OwnedDialog.address =
      (jc.cDialogs.filter fun jd => keepsDialog jd.address).map OwnedDialog.address := by
  rw [editCall, List.map_map]
  exact List.map_congr_left fun jd _ => (hwithin jc.address jd).address

theorem sound_of_edits (hsound : s.Sound) (h : Edits s s' keepsCall keepsDialog g ts)
    (htakes : Takes s keepsCall keepsDialog g ts) : s'.Sound where
  calls := by
    rw [h.calls, map_address_editCall]
    exact hsound.calls.sublist (List.filter_sublist.map _)
  dialogs := by
    rw [h.calls, List.flatMap_map]
    refine hsound.dialogs.sublist (flatMap_filter_sublist fun jc => ?_)
    rw [map_address_dialogs h.within]
    exact List.filter_sublist.map _
  transactions := by
    have hperm := transactions_of_edits h htakes (List.nodup_append.1 hsound.transactions).1
    exact hperm.nodup_iff.2 hsound.transactions
  ids := by
    intro jc' hjc' jd' hjd' hdialog
    rw [h.calls, List.mem_map] at hjc'
    obtain ⟨jc, hjc, rfl⟩ := hjc'
    rw [editCall, List.mem_map] at hjd'
    obtain ⟨jd, hjd, rfl⟩ := hjd'
    have hkept := h.within jc.address jd
    cases hkept.hasId with
    | inl hsame =>
        rw [hkept.dDialog] at hdialog
        rw [hsame]
        exact hsound.ids jc (List.mem_filter.1 hjc).1 jd (List.mem_filter.1 hjd).1 hdialog
    | inr hupdated => rw [hupdated, hdialog]

theorem busy_of_edits (h : Edits s s' keepsCall keepsDialog g ts) {c d : Nat}
    (hbusy : s.Busy c d) (hcall : keepsCall c = true) (hdialog : keepsDialog d = true) :
    s'.Busy c d := by
  obtain ⟨jc, hjc, rfl, jd, hjd, rfl, hconfirmed, hbye, t, hown, hstate, hanswer⟩ := hbusy
  have hkept := h.within jc.address jd
  refine ⟨editCall keepsDialog g jc, ?_, rfl, g jc.address jd, ?_, hkept.address, ?_, ?_, t, hown,
    ?_, ?_⟩
  · rw [h.calls]
    exact List.mem_map_of_mem (List.mem_filter.2 ⟨hjc, hcall⟩)
  · exact List.mem_map_of_mem (List.mem_filter.2 ⟨hjd, hdialog⟩)
  · exact hkept.dDialog.trans hconfirmed
  · intro t' ht'
    rw [(h.memory t').method]
    exact hbye t' (hkept.trs t' ht')
  · rwa [(h.memory t).state]
  · rwa [OwnedTr.answered, (h.memory t).lastResponse]

theorem within_of_edits (h : Edits s s' keepsCall keepsDialog g ts) :
    ∀ jc' ∈ s'.jCalls, ∃ jc ∈ s.jCalls, WithinCall jc jc' := by
  intro jc' hjc'
  rw [h.calls, List.mem_map] at hjc'
  obtain ⟨jc, hjc, rfl⟩ := hjc'
  refine ⟨jc, (List.mem_filter.1 hjc).1, rfl, ⟨rfl, rfl⟩, ?_⟩
  intro jd' hjd'
  rw [editCall, List.mem_map] at hjd'
  obtain ⟨jd, hjd, rfl⟩ := hjd'
  exact ⟨jd, (List.mem_filter.1 hjd).1, (h.within jc.address jd).address,
    (h.within jc.address jd).trs⟩

theorem passes_of_edits {p p' : ReleasePass} (hsound : p.owners.Sound)
    (h : Edits p.owners p'.owners keepsCall keepsDialog g ts)
    (htakes : Takes p.owners keepsCall keepsDialog g ts)
    (hbusy : ∀ c d, p.owners.Busy c d → keepsCall c = true ∧ keepsDialog d = true)
    (hreported : ∀ c, p'.released.count c + p'.callAddresses.count c =
      p.released.count c + p.callAddresses.count c)
    (hfreed : p'.freed = p.freed) : Passes p p' where
  sound := sound_of_edits hsound h htakes
  transactions := transactions_of_edits h htakes (List.nodup_append.1 hsound.transactions).1
  within := within_of_edits h
  busy c d hd := busy_of_edits h hd (hbusy c d hd).1 (hbusy c d hd).2
  reported := hreported
  freed := hfreed

/-! ### Each transaction is in one place -/

section Places

variable {jc jc' : OwnedCall} {jd jd' : OwnedDialog} {t : Nat}

theorem eq_of_mem_flatMap {α : Type} {l : List α} {f : α → List Nat} (h : (l.flatMap f).Nodup)
    {x y : α} (hx : x ∈ l) (hy : y ∈ l) (htx : t ∈ f x) (hty : t ∈ f y) : x = y := by
  by_contra hne
  have hpairs := (List.nodup_flatMap.1 h).2
  have : Std.Symm (Function.onFun List.Disjoint f) := ⟨fun _ _ hab => List.Disjoint.symm hab⟩
  exact hpairs.forall hx hy hne htx hty

theorem Sound.held (h : s.Sound) : s.heldTransactions.Nodup :=
  (List.nodup_append.1 h.transactions).1

theorem Sound.trs (h : s.Sound) (hjc : jc ∈ s.jCalls) : jc.trs.Nodup :=
  (List.nodup_flatMap.1 h.held).1 jc hjc

theorem Sound.call_eq (h : s.Sound) (hjc : jc ∈ s.jCalls) (hjc' : jc' ∈ s.jCalls)
    (ht : t ∈ jc.trs) (ht' : t ∈ jc'.trs) : jc = jc' :=
  eq_of_mem_flatMap h.held hjc hjc' ht ht'

theorem mem_trs_of_dialog (hjd : jd ∈ jc.cDialogs) (ht : t ∈ jd.trs) : t ∈ jc.trs :=
  List.mem_append_right _ (List.mem_flatMap.2 ⟨jd, hjd, ht⟩)

theorem Sound.dialog_eq (h : s.Sound) (hjc : jc ∈ s.jCalls) (hjc' : jc' ∈ s.jCalls)
    (hjd : jd ∈ jc.cDialogs) (hjd' : jd' ∈ jc'.cDialogs) (ht : t ∈ jd.trs) (ht' : t ∈ jd'.trs) :
    jc = jc' ∧ jd = jd' := by
  have hcall := h.call_eq hjc hjc' (mem_trs_of_dialog hjd ht) (mem_trs_of_dialog hjd' ht')
  subst hcall
  have hnodup : (jc.cDialogs.flatMap OwnedDialog.trs).Nodup :=
    (List.nodup_append.1 (h.trs hjc)).2.1
  exact ⟨rfl, eq_of_mem_flatMap hnodup hjd hjd' ht ht'⟩

theorem Sound.dialog_trs (h : s.Sound) (hjc : jc ∈ s.jCalls) (hjd : jd ∈ jc.cDialogs) :
    jd.trs.Nodup :=
  (List.nodup_flatMap.1 (List.nodup_append.1 (h.trs hjc)).2.1).1 jd hjd

theorem Sound.not_own (h : s.Sound) (hjc : jc ∈ s.jCalls) (hjc' : jc' ∈ s.jCalls)
    (ht' : t ∈ jc'.cIncTr.toList ++ jc'.cOutTr.toList) (hjd : jd ∈ jc.cDialogs) : t ∉ jd.trs := by
  intro ht
  have hcall := h.call_eq hjc hjc' (mem_trs_of_dialog hjd ht) (List.mem_append_left _ ht')
  subst hcall
  have hdisjoint := (List.nodup_append.1 (h.trs hjc)).2.2
  exact hdisjoint t ht' t (List.mem_flatMap.2 ⟨jd, hjd, ht⟩) rfl

theorem Sound.address_eq (h : s.Sound) (hjc : jc ∈ s.jCalls) (hjc' : jc' ∈ s.jCalls)
    (haddress : jc'.address = jc.address) : jc' = jc :=
  List.inj_on_of_nodup_map h.calls hjc' hjc haddress

theorem Sound.dialogAddress_eq (h : s.Sound) (hjc : jc ∈ s.jCalls) (hjc' : jc' ∈ s.jCalls)
    (hjd : jd ∈ jc.cDialogs) (hjd' : jd' ∈ jc'.cDialogs) (haddress : jd'.address = jd.address) :
    jc' = jc ∧ jd' = jd := by
  have hcall : jc' = jc := eq_of_mem_flatMap h.dialogs hjc' hjc
    (List.mem_map_of_mem hjd') (haddress ▸ List.mem_map_of_mem hjd)
  subst hcall
  have hnodup := (List.nodup_flatMap.1 h.dialogs).1 jc' hjc
  exact ⟨rfl, List.inj_on_of_nodup_map hnodup hjd' hjd haddress⟩

theorem mem_held (hjc : jc ∈ s.jCalls) (ht : t ∈ jc.trs) : t ∈ s.heldTransactions :=
  List.mem_flatMap.2 ⟨jc, hjc, ht⟩

end Places

/-! ### Freeing -/

theorem sameTr_deleteReserved (s : Owners) (t t' : Nat) :
    SameTr (s.memory t') (((s.setTr t OwnedTr.deleteReserved).addTransaction t).memory t') := by
  rw [memory_deleteReserved]
  split_ifs with heq
  · rw [heq]
    exact ⟨rfl, rfl, rfl⟩
  · exact SameTr.refl _

theorem sameTr_freeTransactions (s : Owners) (ts : List Nat) (t : Nat) :
    SameTr (s.memory t) ((s.freeTransactions ts).memory t) := by
  induction ts generalizing s with
  | nil => exact SameTr.refl _
  | cons t' ts ih => exact (sameTr_deleteReserved s t' t).trans (ih _)

theorem garbage_freeTransactions (s : Owners) (ts : List Nat) :
    (s.freeTransactions ts).jTransactions.Perm (ts ++ s.jTransactions) := by
  induction ts generalizing s with
  | nil => exact List.Perm.refl _
  | cons t ts ih => exact (ih _).trans List.perm_middle

theorem sameTr_forgetDialog (s : Owners) (d : Nat) (tr : Option Nat) (t : Nat) :
    SameTr (s.memory t) ((s.forgetDialog d tr).memory t) := by
  cases tr with
  | none => exact SameTr.refl _
  | some t' =>
      unfold forgetDialog Option.elim
      dsimp only
      split_ifs
      · unfold Owners.setTr
        dsimp only
        rw [Function.update_apply]
        split_ifs with heq
        · rw [heq]
          exact ⟨rfl, rfl, rfl⟩
        · exact SameTr.refl _
      · exact SameTr.refl _

theorem forgetDialog_lists (s : Owners) (d : Nat) (tr : Option Nat) :
    (s.forgetDialog d tr).jCalls = s.jCalls ∧
      (s.forgetDialog d tr).jTransactions = s.jTransactions := by
  cases tr with
  | none => exact ⟨rfl, rfl⟩
  | some t =>
      unfold forgetDialog Option.elim
      dsimp only
      split_ifs <;> exact ⟨rfl, rfl⟩

theorem edits_freeDialog (hsound : s.Sound) {jc : OwnedCall} {jd : OwnedDialog}
    (hjc : jc ∈ s.jCalls) (hjd : jd ∈ jc.cDialogs) :
    Edits s (s.free jc (some jd) .dialog) (fun _ => true) (· ≠ jd.address)
      (fun _ => OwnedDialog.update) jd.trs where
  memory := by
    intro t
    have hforget := (sameTr_forgetDialog s jd.address jc.cIncTr t).trans
      (sameTr_forgetDialog _ jd.address jc.cOutTr t)
    have hfreed := sameTr_freeTransactions
      ((s.removeDialogReference jc jd).modifyCall jc.address (OwnedCall.removeDialog jd.address))
      jd.trs t
    exact hforget.trans hfreed
  calls := by
    have hlists : (s.removeDialogReference jc jd).jCalls = s.jCalls :=
      (forgetDialog_lists _ _ _).1.trans (forgetDialog_lists _ _ _).1
    unfold free Option.elim removeDialog dialogFree update mapCalls
    dsimp only
    rw [freeTransactions_jCalls]
    unfold modifyCall mapCalls
    dsimp only
    rw [hlists, List.map_map, List.filter_eq_self.2 fun _ _ => rfl]
    apply List.map_congr_left
    intro jc' hjc'
    rw [Function.comp_apply]
    by_cases haddress : jc'.address = jc.address
    · rw [if_pos haddress]
      rfl
    · rw [if_neg haddress]
      have hall : jc'.cDialogs.filter (fun jd' => decide (jd'.address ≠ jd.address)) =
          jc'.cDialogs := by
        rw [List.filter_eq_self]
        intro jd' hjd'
        rw [decide_eq_true_eq]
        intro hsame
        exact haddress (congrArg _ (hsound.dialogAddress_eq hjc hjc' hjd hjd' hsame).1)
      rw [editCall, hall]
      rfl
  within := fun _ jd => withinDialog_update jd
  garbage := by
    have hlists : (s.removeDialogReference jc jd).jTransactions = s.jTransactions :=
      (forgetDialog_lists _ _ _).2.trans (forgetDialog_lists _ _ _).2
    have hfreed := garbage_freeTransactions
      ((s.removeDialogReference jc jd).modifyCall jc.address (OwnedCall.removeDialog jd.address))
      jd.trs
    rw [← hlists]
    exact hfreed

theorem takes_freeDialog (hsound : s.Sound) {jc : OwnedCall} {jd : OwnedDialog}
    (hjc : jc ∈ s.jCalls) (hjd : jd ∈ jc.cDialogs) :
    Takes s (fun _ => true) (· ≠ jd.address) (fun _ => OwnedDialog.update) jd.trs where
  nodup := hsound.dialog_trs hjc hjd
  held := fun t ht => mem_held hjc (mem_trs_of_dialog hjd ht)
  call := by
    intro jc' _ hlost
    cases hlost
  own := fun jc' hjc' _ t ht => hsound.not_own hjc hjc' ht hjd
  dialog := by
    intro jc' hjc' _ jd' hjd' hlost t ht
    rw [decide_eq_false_iff_not, not_not] at hlost
    rwa [← (hsound.dialogAddress_eq hjc hjc' hjd hjd' hlost).2]
  kept := by
    intro jc' hjc' _ jd' hjd' hkept
    rw [decide_eq_true_eq] at hkept
    refine (filter_eq_self_of_disjoint ?_).symm
    intro t ht' ht
    exact hkept (congrArg _ (hsound.dialog_eq hjc' hjc hjd' hjd ht' ht).2)

theorem update_update (s : Owners) : s.update.update = s.update := by
  have hcalls : (s.jCalls.map (OwnedCall.mapDialogs OwnedDialog.update)).map
      (OwnedCall.mapDialogs OwnedDialog.update) =
        s.jCalls.map (OwnedCall.mapDialogs OwnedDialog.update) := by
    rw [List.map_map]
    apply List.map_congr_left
    intro jc _
    rw [Function.comp_apply, OwnedCall.mapDialogs, OwnedCall.mapDialogs, List.map_map]
    rfl
  unfold update mapCalls
  dsimp only
  rw [hcalls]

theorem dialogsFree_jCalls (s : Owners) (jds : List OwnedDialog) :
    (s.dialogsFree jds).jCalls = if jds = [] then s.jCalls else s.update.jCalls := by
  induction jds generalizing s with
  | nil => rfl
  | cons jd jds ih =>
      have hfirst : (s.dialogFree jd).jCalls = s.update.jCalls := by
        unfold dialogFree update mapCalls
        dsimp only
        rw [freeTransactions_jCalls]
      have hagain : (s.dialogFree jd).update.jCalls = s.update.jCalls := by
        have htwice := congrArg Owners.jCalls (update_update s)
        unfold update mapCalls at hfirst htwice ⊢
        dsimp only at hfirst htwice ⊢
        rw [hfirst, htwice]
      rw [dialogsFree, ih, if_neg (List.cons_ne_nil _ _), hfirst, hagain, ite_self]

theorem sameTr_dialogsFree (s : Owners) (jds : List OwnedDialog) (t : Nat) :
    SameTr (s.memory t) ((s.dialogsFree jds).memory t) := by
  induction jds generalizing s with
  | nil => exact SameTr.refl _
  | cons jd jds ih =>
      have hfirst : SameTr (s.memory t) ((s.dialogFree jd).memory t) :=
        sameTr_freeTransactions s jd.trs t
      exact hfirst.trans (ih (s.dialogFree jd))

theorem garbage_dialogsFree (s : Owners) (jds : List OwnedDialog) :
    (s.dialogsFree jds).jTransactions.Perm (jds.flatMap OwnedDialog.trs ++ s.jTransactions) := by
  induction jds generalizing s with
  | nil => exact List.Perm.refl _
  | cons jd jds ih =>
      have hfirst := (ih (s.dialogFree jd)).trans
        ((garbage_freeTransactions s jd.trs).append_left (jds.flatMap OwnedDialog.trs))
      rw [List.flatMap_cons]
      apply hfirst.trans
      rw [← List.append_assoc]
      exact List.perm_append_comm.append_right _

theorem edits_callFree (s : Owners) (jc : OwnedCall) :
    Edits s (s.callFree jc) (· ≠ jc.address) (fun _ => true)
      (fun _ jd => if jc.cDialogs = [] then jd else jd.update) jc.trs where
  memory := by
    intro t
    have hdialogs := sameTr_dialogsFree
      { s with jCalls := s.jCalls.filter fun jc' => jc'.address ≠ jc.address } jc.cDialogs t
    have hown := sameTr_freeTransactions (dialogsFree
      { s with jCalls := s.jCalls.filter fun jc' => jc'.address ≠ jc.address } jc.cDialogs)
      (jc.cIncTr.toList ++ jc.cOutTr.toList) t
    exact hdialogs.trans hown
  calls := by
    unfold callFree
    rw [freeTransactions_jCalls, dialogsFree_jCalls]
    split_ifs with hnone
    · symm
      calc (s.jCalls.filter fun jc' => decide (jc'.address ≠ jc.address)).map
            (editCall (fun _ => true) fun _ jd => jd)
          = (s.jCalls.filter fun jc' => decide (jc'.address ≠ jc.address)).map id := by
            apply List.map_congr_left
            intro jc' _
            rw [editCall, List.filter_eq_self.2 fun _ _ => rfl, List.map_id']
            rfl
        _ = s.jCalls.filter fun jc' => decide (jc'.address ≠ jc.address) := List.map_id _
    · unfold update mapCalls
      dsimp only
      apply List.map_congr_left
      intro jc' _
      rw [editCall, List.filter_eq_self.2 fun _ _ => rfl]
      rfl
  within := by
    intro _ jd
    split_ifs
    · exact WithinDialog.refl jd
    · exact withinDialog_update jd
  garbage := by
    have hdialogs := garbage_dialogsFree
      { s with jCalls := s.jCalls.filter fun jc' => jc'.address ≠ jc.address } jc.cDialogs
    have hown := garbage_freeTransactions (dialogsFree
      { s with jCalls := s.jCalls.filter fun jc' => jc'.address ≠ jc.address } jc.cDialogs)
      (jc.cIncTr.toList ++ jc.cOutTr.toList)
    rw [OwnedCall.trs, List.append_assoc _ (jc.cDialogs.flatMap OwnedDialog.trs)]
    exact hown.trans (hdialogs.append_left _)

theorem takes_callFree (hsound : s.Sound) {jc : OwnedCall} (hjc : jc ∈ s.jCalls) :
    Takes s (· ≠ jc.address) (fun _ => true)
      (fun _ jd => if jc.cDialogs = [] then jd else jd.update) jc.trs where
  nodup := hsound.trs hjc
  held := fun t ht => mem_held hjc ht
  call := by
    intro jc' hjc' hlost t ht
    rw [decide_eq_false_iff_not, not_not] at hlost
    rwa [← hsound.address_eq hjc hjc' hlost]
  own := by
    intro jc' hjc' hkept t ht' ht
    rw [decide_eq_true_eq] at hkept
    exact hkept (congrArg _ (hsound.call_eq hjc' hjc (List.mem_append_left _ ht') ht))
  dialog := by
    intro jc' _ _ jd' _ hlost
    cases hlost
  kept := by
    intro jc' hjc' hkept jd' hjd' _
    rw [decide_eq_true_eq] at hkept
    have hsame : (if jc.cDialogs = [] then jd' else jd'.update).trs = jd'.trs := by
      split_ifs <;> rfl
    rw [hsame]
    refine (filter_eq_self_of_disjoint ?_).symm
    intro t ht' ht
    exact hkept (congrArg _ (hsound.call_eq hjc' hjc (mem_trs_of_dialog hjd' ht') ht))

/-! ### Moves -/

theorem filter_notMem_singleton {l : List Nat} (hnodup : l.Nodup) (t : Nat) :
    l.filter (· ∉ [t]) = l.erase t := by
  rw [hnodup.erase_eq_filter]
  apply List.filter_congr
  intro t' _
  by_cases ht : t' = t
  · simp [ht]
  · simp [ht]

theorem trs_removeIncTr_eq {jd : OwnedDialog} {t : Nat} (hnodup : jd.trs.Nodup)
    (ht : t ∈ jd.dOutTrs → t ∈ jd.dIncTrs) :
    (jd.removeIncTr t).trs = jd.trs.filter (· ∉ [t]) := by
  rw [filter_notMem_singleton hnodup]
  unfold OwnedDialog.trs OwnedDialog.removeIncTr
  by_cases hinc : t ∈ jd.dIncTrs
  · exact (List.erase_append_left _ hinc).symm
  · have hout : t ∉ jd.dOutTrs := fun hmem => hinc (ht hmem)
    rw [List.erase_append_right _ hinc, List.erase_of_not_mem hinc, List.erase_of_not_mem hout]

theorem trs_removeOutTr_eq {jd : OwnedDialog} {t : Nat} (hnodup : jd.trs.Nodup)
    (ht : t ∉ jd.dIncTrs) : (jd.removeOutTr t).trs = jd.trs.filter (· ∉ [t]) := by
  rw [filter_notMem_singleton hnodup]
  unfold OwnedDialog.trs OwnedDialog.removeOutTr
  exact (List.erase_append_right _ ht).symm

section Move

variable {jc : OwnedCall} {jd : OwnedDialog} {h : OwnedDialog → OwnedDialog} {t : Nat}

theorem edits_move (hsound : s.Sound) (hjc : jc ∈ s.jCalls) {f : OwnedCall → OwnedCall}
    (hf : f jc = jc.mapDialogs h) (hh : ∀ jd, WithinDialog jd (h jd)) :
    Edits s (((s.removeTransaction t).modifyCall jc.address f).addTransaction t) (fun _ => true)
      (fun _ => true) (fun c jd => if c = jc.address then h jd else jd) [t] where
  memory := fun _ => SameTr.refl _
  calls := by
    unfold addTransaction modifyCall mapCalls removeTransaction
    dsimp only
    rw [List.filter_eq_self.2 fun _ _ => rfl]
    apply List.map_congr_left
    intro jc' hjc'
    by_cases haddress : jc'.address = jc.address
    · have hsame := hsound.address_eq hjc hjc' haddress
      subst hsame
      rw [if_pos rfl, hf, editCall, List.filter_eq_self.2 fun _ _ => rfl, OwnedCall.mapDialogs]
      simp only [if_pos]
    · rw [if_neg haddress, editCall, List.filter_eq_self.2 fun _ _ => rfl]
      simp only [if_neg haddress, List.map_id']
  within := by
    intro c jd
    split_ifs
    · exact hh jd
    · exact WithinDialog.refl jd
  garbage := List.Perm.refl _

theorem takes_move (hsound : s.Sound) (hjc : jc ∈ s.jCalls) (hjd : jd ∈ jc.cDialogs)
    (ht : t ∈ jd.trs) (hh : ∀ jd' ∈ jc.cDialogs, (h jd').trs = jd'.trs.filter (· ∉ [t])) :
    Takes s (fun _ => true) (fun _ => true) (fun c jd => if c = jc.address then h jd else jd)
      [t] where
  nodup := List.nodup_singleton t
  held := by
    intro t' ht'
    rw [List.mem_singleton] at ht'
    subst ht'
    exact mem_held hjc (mem_trs_of_dialog hjd ht)
  call := by
    intro _ _ hlost
    cases hlost
  own := by
    intro jc' hjc' _ t' hown ht'
    rw [List.mem_singleton] at ht'
    subst ht'
    exact hsound.not_own hjc hjc' hown hjd ht
  dialog := by
    intro _ _ _ _ _ hlost
    cases hlost
  kept := by
    intro jc' hjc' _ jd' hjd' _
    split_ifs with haddress
    · have hsame := hsound.address_eq hjc hjc' haddress
      subst hsame
      exact hh jd' hjd'
    · refine (filter_eq_self_of_disjoint ?_).symm
      intro t' ht' htaken
      rw [List.mem_singleton] at htaken
      subst htaken
      exact haddress (congrArg _ (hsound.dialog_eq hjc' hjc hjd' hjd ht' ht).1)

end Move

/-! ### The lists of the pass -/

theorem callAddresses_of_edits {p p' : ReleasePass}
    (h : Edits p.owners p'.owners keepsCall keepsDialog g ts) :
    p'.callAddresses = p.callAddresses.filter keepsCall := by
  unfold ReleasePass.callAddresses
  rw [h.calls, map_address_editCall, List.filter_map]
  rfl

theorem callAt_of_edits (h : Edits s s' keepsCall keepsDialog g ts) {c : Nat}
    (hc : keepsCall c = true) : s'.callAt c = (s.callAt c).map (editCall keepsDialog g) := by
  unfold callAt
  rw [h.calls, List.find?_map, List.find?_filter]
  apply congrArg (Option.map (editCall keepsDialog g))
  apply congrArg (fun found => s.jCalls.find? found)
  funext jc
  by_cases haddress : jc.address = c
  · rw [haddress, hc]
    simp [editCall, haddress]
  · simp [editCall, haddress]

theorem dialogAddresses_of_edits {p p' : ReleasePass}
    (h : Edits p.owners p'.owners keepsCall keepsDialog g ts) {c : Nat}
    (hc : keepsCall c = true) :
    p'.dialogAddresses c = (p.dialogAddresses c).filter keepsDialog := by
  unfold ReleasePass.dialogAddresses
  rw [callAt_of_edits h hc]
  cases p.owners.callAt c with
  | none => rfl
  | some jc =>
      have haddresses : (editCall keepsDialog g jc).cDialogs.map OwnedDialog.address =
          (jc.cDialogs.filter fun jd => keepsDialog jd.address).map OwnedDialog.address :=
        map_address_dialogs h.within jc
      have hfilter : (jc.cDialogs.map OwnedDialog.address).filter keepsDialog =
          (jc.cDialogs.filter fun jd => keepsDialog jd.address).map OwnedDialog.address :=
        List.filter_map
      exact haddresses.trans hfilter.symm

/-- A stretch of the pass that removes nothing. -/
structure Keeps (p p' : ReleasePass) : Prop where
  passes : Passes p p'
  calls : p'.callAddresses = p.callAddresses
  dialogs : ∀ c, p'.dialogAddresses c = p.dialogAddresses c

theorem Keeps.refl {p : ReleasePass} (h : p.owners.Sound) : Keeps p p :=
  ⟨Passes.refl h, rfl, fun _ => rfl⟩

theorem Keeps.trans {p p' p'' : ReleasePass} (h : Keeps p p') (h' : Keeps p' p'') :
    Keeps p p'' :=
  ⟨h.passes.trans h'.passes, h'.calls.trans h.calls,
    fun c => (h'.dialogs c).trans (h.dialogs c)⟩

theorem keeps_of_edits {p p' : ReleasePass} (hsound : p.owners.Sound)
    (h : Edits p.owners p'.owners (fun _ => true) (fun _ => true) g ts)
    (htakes : Takes p.owners (fun _ => true) (fun _ => true) g ts)
    (hreleased : p'.released = p.released) (hfreed : p'.freed = p.freed) : Keeps p p' := by
  have hcalls : p'.callAddresses = p.callAddresses := by
    rw [callAddresses_of_edits h, List.filter_eq_self.2 fun _ _ => rfl]
  refine ⟨passes_of_edits hsound h htakes (fun _ _ _ => ⟨rfl, rfl⟩) ?_ hfreed, hcalls, ?_⟩
  · intro c
    rw [hreleased, hcalls]
  · intro c
    rw [dialogAddresses_of_edits h rfl, List.filter_eq_self.2 fun _ _ => rfl]

/-! ### Moves by the functions of the release -/

section Moves

variable {p : ReleasePass} {jc : OwnedCall} {jd : OwnedDialog} {t : Nat}

theorem keeps_move (hsound : p.owners.Sound) (hjc : jc ∈ p.owners.jCalls)
    (hjd : jd ∈ jc.cDialogs) (ht : t ∈ jd.trs) {f : OwnedCall → OwnedCall}
    {h : OwnedDialog → OwnedDialog} (hf : f jc = jc.mapDialogs h)
    (hh : ∀ jd, WithinDialog jd (h jd))
    (htrs : ∀ jd' ∈ jc.cDialogs, (h jd').trs = jd'.trs.filter (· ∉ [t])) :
    Keeps p { p with
      owners := ((p.owners.removeTransaction t).modifyCall jc.address f).addTransaction t } :=
  keeps_of_edits hsound (edits_move hsound hjc hf hh) (takes_move hsound hjc hjd ht htrs) rfl rfl

theorem within_removeIncTr (jd : OwnedDialog) (t : Nat) : WithinDialog jd (jd.removeIncTr t) :=
  ⟨rfl, rfl, Or.inl rfl, fun _ => trs_removeIncTr⟩

theorem within_removeOutTr (jd : OwnedDialog) (t : Nat) : WithinDialog jd (jd.removeOutTr t) :=
  ⟨rfl, rfl, Or.inl rfl, fun _ => trs_removeOutTr⟩

theorem Sound.disjoint (h : s.Sound) (hjc : jc ∈ s.jCalls) (hjd : jd ∈ jc.cDialogs)
    (hinc : t ∈ jd.dIncTrs) : t ∉ jd.dOutTrs := fun hout =>
  (List.nodup_append.1 (h.dialog_trs hjc hjd)).2.2 t hinc t hout rfl

theorem keeps_removeTransaction (hsound : p.owners.Sound) (hjc : jc ∈ p.owners.jCalls)
    (hjd : jd ∈ jc.cDialogs) (ht : t ∈ jd.trs) :
    Keeps p { p with
      owners := ((p.owners.removeTransaction t).modifyCall jc.address
        (OwnedCall.removeTransaction t)).addTransaction t } := by
  have hinc : jc.cIncTr ≠ some t := by
    intro hown
    refine hsound.not_own hjc hjc (List.mem_append_left _ ?_) hjd ht
    rw [hown]
    exact List.mem_singleton_self t
  have hout : jc.cOutTr ≠ some t := by
    intro hown
    refine hsound.not_own hjc hjc (List.mem_append_right _ ?_) hjd ht
    rw [hown]
    exact List.mem_singleton_self t
  have honly : ∀ jd' ∈ jc.cDialogs, t ∈ jd'.trs → jd' = jd := fun jd' hjd' ht' =>
    (hsound.dialog_eq hjc hjc hjd' hjd ht' ht).2
  by_cases hany : jc.cDialogs.any fun jd => decide (t ∈ jd.dIncTrs)
  · apply keeps_move (h := OwnedDialog.removeIncTr t) hsound hjc hjd ht
    · rw [OwnedCall.removeTransaction, if_neg hinc, if_pos hany]
    · exact fun jd => within_removeIncTr jd t
    · intro jd' hjd'
      apply trs_removeIncTr_eq (hsound.dialog_trs hjc hjd')
      intro ht'
      obtain ⟨jd'', hjd'', hmem⟩ := List.any_eq_true.1 hany
      rw [decide_eq_true_eq] at hmem
      have hsame := honly jd'' hjd'' (List.mem_append_left _ hmem)
      have hsame' := honly jd' hjd' (List.mem_append_right _ ht')
      rwa [hsame', ← hsame]
  · apply keeps_move (h := OwnedDialog.removeOutTr t) hsound hjc hjd ht
    · rw [OwnedCall.removeTransaction, if_neg hinc, if_neg hany, if_neg hout]
    · exact fun jd => within_removeOutTr jd t
    · intro jd' hjd'
      apply trs_removeOutTr_eq (hsound.dialog_trs hjc hjd')
      intro ht'
      apply hany
      exact List.any_eq_true.2 ⟨jd', hjd', decide_eq_true ht'⟩

theorem keeps_pendingIn (hsound : p.owners.Sound) {c : Nat} {tr : Option Nat}
    (htr : ∀ t ∈ tr, ∃ jc ∈ p.owners.jCalls, jc.address = c ∧ ∃ jd ∈ jc.cDialogs, t ∈ jd.trs)
    (terminated : State) (now : Int) :
    Keeps p { p with owners := (p.owners.pendingIn c tr terminated now).2 } := by
  cases tr with
  | none => exact Keeps.refl hsound
  | some t =>
      unfold pendingIn
      dsimp only [Option.elim]
      split_ifs
      · exact Keeps.refl hsound
      · obtain ⟨jc, hjc, rfl, jd, hjd, ht⟩ := htr t rfl
        exact keeps_removeTransaction hsound hjc hjd ht
      · exact Keeps.refl hsound

theorem keeps_pendingMethod (hsound : p.owners.Sound) (c d : Nat) (method : RequestMethod)
    (now : Int) : Keeps p { p with owners := (p.owners.pendingMethod c d method now).2 } := by
  unfold pendingMethod
  dsimp only
  have hinc : Keeps p { p with
      owners := (p.owners.pendingIn c ((p.owners.callAt c).bind fun jc =>
        (dialogAt jc d).bind fun jd => p.owners.findLast method jd.dIncTrs)
          .nistTerminated now).2 } := by
    apply keeps_pendingIn hsound
    intro t ht
    exact mem_dialog_of_lists (fun jd t ht => List.mem_append_left _ ht) ht
  split_ifs
  · exact hinc
  · apply hinc.trans
    apply keeps_pendingIn hinc.passes.sound
    intro t ht
    exact mem_dialog_of_lists (fun jd t ht => List.mem_append_right _ ht) ht

theorem keeps_pendingTransactionExist (hsound : p.owners.Sound) (c d : Nat) (now : Int) :
    Keeps p { p with owners := (p.owners.pendingTransactionExist c d now).2 } := by
  unfold pendingTransactionExist
  dsimp only
  have hbye := keeps_pendingMethod hsound c d .bye now
  split_ifs
  · exact hbye
  · exact hbye
  · exact hbye.trans (keeps_pendingMethod hbye.passes.sound c d .refer now)

theorem keeps_moveTransaction (hsound : p.owners.Sound) (hjc : jc ∈ p.owners.jCalls)
    (hjd : jd ∈ jc.cDialogs) (ht : t ∈ jd.trs) {f : OwnedDialog → OwnedDialog}
    (hf : ∀ jd, WithinDialog jd (f jd)) (htrs : (f jd).trs = jd.trs.filter (· ∉ [t])) :
    Keeps p { p with owners := p.owners.moveTransaction jc.address jd.address t f } := by
  apply keeps_move hsound hjc hjd ht (h := fun jd' => if jd'.address = jd.address then f jd'
    else jd')
  · rfl
  · intro jd'
    split_ifs
    · exact hf jd'
    · exact WithinDialog.refl jd'
  · intro jd' hjd'
    split_ifs with haddress
    · rw [(hsound.dialogAddress_eq hjc hjc hjd hjd' haddress).2]
      exact htrs
    · refine (filter_eq_self_of_disjoint ?_).symm
      intro t' ht' htaken
      rw [List.mem_singleton] at htaken
      subst htaken
      exact haddress (congrArg _ (hsound.dialog_eq hjc hjc hjd' hjd ht' ht).2)

theorem keeps_removeIncTr (hsound : p.owners.Sound) (hjc : jc ∈ p.owners.jCalls)
    (hjd : jd ∈ jc.cDialogs) (ht : t ∈ jd.dIncTrs) :
    Keeps p { p with
      owners := p.owners.moveTransaction jc.address jd.address t (OwnedDialog.removeIncTr t) } :=
  keeps_moveTransaction hsound hjc hjd (List.mem_append_left _ ht)
    (fun jd => within_removeIncTr jd t)
    (trs_removeIncTr_eq (hsound.dialog_trs hjc hjd) fun _ => ht)

theorem keeps_removeOutTr (hsound : p.owners.Sound) (hjc : jc ∈ p.owners.jCalls)
    (hjd : jd ∈ jc.cDialogs) (ht : t ∈ jd.dOutTrs) :
    Keeps p { p with
      owners := p.owners.moveTransaction jc.address jd.address t (OwnedDialog.removeOutTr t) } :=
  keeps_moveTransaction hsound hjc hjd (List.mem_append_right _ ht)
    (fun jd => within_removeOutTr jd t)
    (trs_removeOutTr_eq (hsound.dialog_trs hjc hjd) fun hinc =>
      hsound.disjoint hjc hjd hinc ht)

theorem keeps_releaseFinishedTransactions (hsound : p.owners.Sound) (c d : Nat) (now : Int) :
    Keeps p { p with owners := (p.owners.releaseFinishedTransactions c d now).2 } := by
  unfold releaseFinishedTransactions
  cases hfind : (p.owners.callAt c).bind fun jc => (dialogAt jc d).map fun jd => (jc, jd) with
  | none => exact Keeps.refl hsound
  | some found =>
      obtain ⟨jc, jd⟩ := found
      rw [Option.bind_eq_some_iff] at hfind
      obtain ⟨jc', hcall, hfind⟩ := hfind
      rw [Option.map_eq_some_iff] at hfind
      obtain ⟨jd', hdialog, heq⟩ := hfind
      cases heq
      obtain ⟨hjc, rfl⟩ := callAt_eq_some hcall
      obtain ⟨hjd, rfl⟩ := dialogAt_eq_some hdialog
      dsimp only
      cases hinc : p.owners.finishedIn jd.dIncTrs .istTerminated .nistTerminated
          (p.owners.findLastIncInvite jc (some jd)) now with
      | none =>
          cases hout : p.owners.finishedIn jd.dOutTrs .ictTerminated .nictTerminated
              (p.owners.findLastOutInvite jc (some jd)) now with
          | none => exact Keeps.refl hsound
          | some t => exact keeps_removeOutTr hsound hjc hjd (mem_finishedIn hout)
      | some t =>
          have hmoved := keeps_removeIncTr hsound hjc hjd (mem_finishedIn hinc)
          cases hout : p.owners.finishedIn jd.dOutTrs .ictTerminated .nictTerminated
              (p.owners.findLastOutInvite jc (some jd)) now with
          | none => exact hmoved
          | some t' =>
              have hjc' : jc.modifyDialog jd.address (OwnedDialog.removeIncTr t) ∈
                  (p.owners.moveTransaction jc.address jd.address t
                    (OwnedDialog.removeIncTr t)).jCalls :=
                List.mem_map.2 ⟨jc, hjc, if_pos rfl⟩
              have hjd' : jd.removeIncTr t ∈
                  (jc.modifyDialog jd.address (OwnedDialog.removeIncTr t)).cDialogs :=
                List.mem_map.2 ⟨jd, hjd, if_pos rfl⟩
              have hlast := keeps_removeOutTr hmoved.passes.sound hjc' hjd' (mem_finishedIn hout)
              exact hmoved.trans hlast

end Moves

/-! ### Decisions -/

section Decisions

variable {jc : OwnedCall} {jd : OwnedDialog}

theorem finishedCalls_of_inUse (h : s.InUse jc jd) : s.finishedCalls jd = .nothing := by
  have hnone : ∀ trs : List Nat, (∀ t ∈ trs, t ∈ jd.trs) → s.findLast .bye trs = none := by
    intro trs htrs
    unfold findLast
    rw [List.find?_eq_none]
    intro t ht
    rw [decide_eq_true_eq]
    exact h.2.1 t (htrs t ht)
  rw [finishedCalls, hnone _ fun t ht => List.mem_append_left _ ht,
    hnone _ fun t ht => List.mem_append_right _ ht]
  rfl

theorem not_answered_of_accepted {tr : OwnedTr}
    (h : tr.answered (fun code => 200 ≤ code && code < 300) = true) {least : Int}
    (hleast : 300 ≤ least) : tr.answered (fun code => decide (least ≤ code)) = false := by
  unfold OwnedTr.answered at *
  cases htr : tr.lastResponse with
  | none => rfl
  | some code =>
      rw [htr, Option.any_some, Bool.and_eq_true, decide_eq_true_eq, decide_eq_true_eq] at h
      rw [Option.any_some, decide_eq_false_iff_not]
      omega

theorem abortedCalls_of_accepted (h : s.Accepted jc) (now : Int) :
    s.abortedCalls jc now = .nothing := by
  obtain ⟨t, hown, hstate, hanswer⟩ := h
  have h300 := not_answered_of_accepted hanswer (le_refl 300)
  have h400 := @not_answered_of_accepted _ hanswer 400 (by omega)
  have hsome : (s.memory t).lastResponse.isNone = false := by
    unfold OwnedTr.answered at hanswer
    cases hresponse : (s.memory t).lastResponse with
    | none => rw [hresponse] at hanswer; cases hanswer
    | some code => rfl
  rw [abortedCalls, hown]
  dsimp only
  rw [if_neg (not_not.2 hstate), h300, h400, hsome]
  simp

theorem removedDialog_of_inUse (hsound : s.Sound) (hjc : jc ∈ s.jCalls) (hjd : jd ∈ jc.cDialogs)
    (h : s.InUse jc jd) : removedDialog jd = .nothing := by
  rw [removedDialog, if_pos (hsound.ids jc hjc jd hjd (by rw [h.1]; rfl))]

theorem decision_of_inUse (hsound : s.Sound) (hjc : jc ∈ s.jCalls) (hjd : jd ∈ jc.cDialogs)
    (h : s.InUse jc jd) (kind : ReleaseKind) (now : Int) :
    s.decision kind jc (some jd) now = .nothing := by
  cases kind with
  | finishedCalls => exact finishedCalls_of_inUse h
  | abortedCalls => exact abortedCalls_of_accepted h.2.2 now
  | removedDialog => exact removedDialog_of_inUse hsound hjc hjd h
  | emptyCall => rfl

theorem finishedCalls_ne_call (s : Owners) (jd : OwnedDialog) : s.finishedCalls jd ≠ .call := by
  unfold finishedCalls
  split
  · decide
  · split_ifs
    · decide
    · decide

theorem removedDialog_ne_call (jd : OwnedDialog) : removedDialog jd ≠ .call := by
  unfold removedDialog
  split_ifs
  · decide
  · decide

theorem not_inUse_of_call {found : Option OwnedDialog} {kind : ReleaseKind} {now : Int}
    (h : s.decision kind jc found now = .call) (hjd : jd ∈ jc.cDialogs) : ¬ s.InUse jc jd := by
  intro hinUse
  unfold decision at h
  split at h
  · exact finishedCalls_ne_call s _ h
  · rw [abortedCalls_of_accepted hinUse.2.2 now] at h
    cases h
  · exact removedDialog_ne_call _ h
  · rw [emptyCall] at h
    have hsome : jc.cDialogs.isEmpty = false := by
      rw [List.isEmpty_eq_false_iff]
      exact List.ne_nil_of_mem hjd
    rw [hsome, Bool.not_false, if_pos rfl] at h
    cases h
  · cases h

end Decisions

/-! ### What a release does to the pass -/

def LosesCall (c : Nat) (p p' : ReleasePass) : Prop :=
  p'.callAddresses = p.callAddresses ∨ p'.callAddresses = p.callAddresses.filter (· ≠ c)

theorem LosesCall.trans {c : Nat} {p p' p'' : ReleasePass} (h : LosesCall c p p')
    (h' : LosesCall c p' p'') : LosesCall c p p'' := by
  have hidem : ∀ l : List Nat, (l.filter (· ≠ c)).filter (· ≠ c) = l.filter (· ≠ c) := by
    intro l
    rw [List.filter_filter]
    apply List.filter_congr
    intro c' _
    exact Bool.and_self _
  unfold LosesCall at *
  rcases h with h | h <;> rcases h' with h' | h' <;> rw [h] at h'
  · exact Or.inl h'
  · exact Or.inr h'
  · exact Or.inr h'
  · exact Or.inr (h'.trans (hidem _))

section Releases

variable {p : ReleasePass} {jc : OwnedCall} {jd : OwnedDialog}

theorem callAt_of_mem (hsound : s.Sound) (hjc : jc ∈ s.jCalls) : s.callAt jc.address = some jc := by
  cases hfind : s.callAt jc.address with
  | none =>
      unfold callAt at hfind
      rw [List.find?_eq_none] at hfind
      exact absurd (decide_eq_true rfl) (hfind jc hjc)
  | some jc' =>
      have hfound := callAt_eq_some hfind
      rw [hsound.address_eq hjc hfound.1 hfound.2]

theorem dialogAt_of_mem (hsound : s.Sound) (hjc : jc ∈ s.jCalls) (hjd : jd ∈ jc.cDialogs) :
    dialogAt jc jd.address = some jd := by
  cases hfind : dialogAt jc jd.address with
  | none =>
      unfold dialogAt at hfind
      rw [List.find?_eq_none] at hfind
      exact absurd (decide_eq_true rfl) (hfind jd hjd)
  | some jd' =>
      have hfound := dialogAt_eq_some hfind
      rw [(hsound.dialogAddress_eq hjc hjc hjd hfound.1 hfound.2).2]

theorem passes_freeDialog (hsound : p.owners.Sound) (hjc : jc ∈ p.owners.jCalls)
    (hjd : jd ∈ jc.cDialogs) (hnot : ¬ p.owners.InUse jc jd) :
    Passes p { p with owners := p.owners.free jc (some jd) .dialog } ∧
      ({ p with owners := p.owners.free jc (some jd) .dialog } : ReleasePass).callAddresses =
        p.callAddresses ∧
      ∀ c, ({ p with owners := p.owners.free jc (some jd) .dialog } : ReleasePass).dialogAddresses
        c = (p.dialogAddresses c).filter (· ≠ jd.address) := by
  have hedits := edits_freeDialog hsound hjc hjd
  have hcalls : ({ p with owners := p.owners.free jc (some jd) .dialog } :
      ReleasePass).callAddresses = p.callAddresses := by
    rw [callAddresses_of_edits (p := p) hedits, List.filter_eq_self.2 fun _ _ => rfl]
  refine ⟨passes_of_edits hsound hedits (takes_freeDialog hsound hjc hjd) ?_ ?_ rfl, hcalls, ?_⟩
  · intro c d hbusy
    refine ⟨rfl, ?_⟩
    rw [decide_eq_true_eq]
    intro heq
    obtain ⟨jc', hjc', rfl, jd', hjd', hd, hinUse⟩ := hbusy
    obtain ⟨rfl, rfl⟩ := hsound.dialogAddress_eq hjc hjc' hjd hjd' (hd.trans heq)
    exact hnot hinUse
  · intro c
    rw [hcalls]
  · intro c
    exact dialogAddresses_of_edits (p := p) hedits rfl

theorem passes_freeCall (hsound : p.owners.Sound) (hjc : jc ∈ p.owners.jCalls)
    (hnot : ∀ jd ∈ jc.cDialogs, ¬ p.owners.InUse jc jd) :
    Passes p { p with
      owners := p.owners.callFree jc
      released := jc.address :: p.released } ∧
    ({ p with
      owners := p.owners.callFree jc
      released := jc.address :: p.released } : ReleasePass).callAddresses =
        p.callAddresses.filter (· ≠ jc.address) := by
  have hedits := edits_callFree p.owners jc
  have hcalls : ({ p with
      owners := p.owners.callFree jc
      released := jc.address :: p.released } : ReleasePass).callAddresses =
        p.callAddresses.filter (· ≠ jc.address) := callAddresses_of_edits (p := p) hedits
  refine ⟨passes_of_edits hsound hedits (takes_callFree hsound hjc) ?_ ?_ rfl, hcalls⟩
  · intro c d hbusy
    refine ⟨?_, rfl⟩
    rw [decide_eq_true_eq]
    intro heq
    obtain ⟨jc', hjc', hc, jd', hjd', hd, hinUse⟩ := hbusy
    have hsame := hsound.address_eq hjc hjc' (hc.trans heq)
    subst hsame
    exact hnot jd' hjd' hinUse
  · intro c
    rw [hcalls, List.count_cons]
    by_cases hc : jc.address = c
    · subst hc
      have hgone : (p.callAddresses.filter (· ≠ jc.address)).count jc.address = 0 := by
        rw [List.count_eq_zero]
        intro hmem
        simp at hmem
      have honce : p.callAddresses.count jc.address = 1 :=
        List.count_eq_one_of_mem hsound.calls (List.mem_map_of_mem hjc)
      rw [hgone, honce, beq_self_eq_true, if_pos rfl]
    · have hother : (p.callAddresses.filter (· ≠ jc.address)).count c =
          p.callAddresses.count c := List.count_filter (by simpa using Ne.symm hc)
      rw [hother, if_neg (by simpa using hc)]
      rfl

theorem exists_of_mem_dialogAddresses {c d : Nat} (h : d ∈ p.dialogAddresses c) :
    ∃ jc ∈ p.owners.jCalls, jc.address = c ∧ p.dialogAddresses c =
      jc.cDialogs.map OwnedDialog.address ∧ ∃ jd ∈ jc.cDialogs, jd.address = d := by
  unfold ReleasePass.dialogAddresses at h ⊢
  cases hcall : p.owners.callAt c with
  | none =>
      rw [hcall] at h
      cases h
  | some jc =>
      rw [hcall] at h
      obtain ⟨jd, hjd, rfl⟩ := List.mem_map.1 h
      exact ⟨jc, (callAt_eq_some hcall).1, (callAt_eq_some hcall).2, rfl, jd, hjd, rfl⟩

theorem nodup_dialogAddresses (hsound : p.owners.Sound) (c : Nat) :
    (p.dialogAddresses c).Nodup := by
  unfold ReleasePass.dialogAddresses
  cases hcall : p.owners.callAt c with
  | none => exact List.nodup_nil
  | some jc => exact (List.nodup_flatMap.1 hsound.dialogs).1 jc (callAt_eq_some hcall).1

theorem reads_of_mem (hsound : p.owners.Sound) {c d : Nat} (h : d ∈ p.dialogAddresses c) :
    p.reads c d = true := by
  obtain ⟨jc, hjc, rfl, -, jd, hjd, rfl⟩ := exists_of_mem_dialogAddresses h
  rw [ReleasePass.reads, callAt_of_mem hsound hjc, Option.any_some, dialogAt_of_mem hsound hjc hjd]
  rfl

/-- What a function that visits the dialog comes to. -/
structure Visits (c d : Nat) (kind : ReleaseKind) (p : ReleasePass) (r : Release)
    (p' : ReleasePass) : Prop where
  passes : Passes p p'
  calls : LosesCall c p p'
  nothing : r = .nothing → p' = p
  dialogs : r ≠ .call →
    p'.dialogAddresses c = p.dialogAddresses c ∨
      p'.dialogAddresses c = (p.dialogAddresses c).filter (· ≠ d)
  call : r = .call → kind = .abortedCalls

theorem releaseWith_eq (hsound : p.owners.Sound) (hjc : jc ∈ p.owners.jCalls) {d : Option Nat}
    {found : Option OwnedDialog} (hvisited : visited jc d = some found) (kind : ReleaseKind)
    (now : Int) :
    p.releaseWith kind jc.address d now = some (p.owners.decision kind jc found now, { p with
      owners := p.owners.free jc found (p.owners.decision kind jc found now)
      released := if p.owners.decision kind jc found now = .call then jc.address :: p.released
        else p.released }) := by
  rw [ReleasePass.releaseWith, callAt_of_mem hsound hjc, Option.bind_some, hvisited]
  rfl

theorem releaseWith_visits (hsound : p.owners.Sound) {c d : Nat} (h : d ∈ p.dialogAddresses c)
    (kind : ReleaseKind) (now : Int) :
    ∃ r p', p.releaseWith kind c (some d) now = some (r, p') ∧ Visits c d kind p r p' := by
  obtain ⟨jc, hjc, rfl, -, jd, hjd, rfl⟩ := exists_of_mem_dialogAddresses h
  have hvisited : visited jc (some jd.address) = some (some jd) := by
    unfold visited
    dsimp only [Option.elim]
    rw [dialogAt_of_mem hsound hjc hjd]
    rfl
  refine ⟨_, _, releaseWith_eq hsound hjc hvisited kind now, ?_⟩
  cases hr : p.owners.decision kind jc (some jd) now with
  | nothing =>
      exact ⟨Passes.refl hsound, Or.inl rfl, fun _ => rfl, fun _ => Or.inl rfl,
        fun hcall => absurd hcall (by decide)⟩
  | dialog =>
      have hnot : ¬ p.owners.InUse jc jd := by
        intro hinUse
        rw [decision_of_inUse hsound hjc hjd hinUse] at hr
        cases hr
      obtain ⟨hpasses, hcalls, hdialogs⟩ := passes_freeDialog hsound hjc hjd hnot
      exact ⟨hpasses, Or.inl hcalls, fun hnothing => absurd hnothing (by decide),
        fun _ => Or.inr (hdialogs jc.address), fun hcall => absurd hcall (by decide)⟩
  | call =>
      obtain ⟨hpasses, hcalls⟩ := passes_freeCall hsound hjc fun jd' hjd' =>
        not_inUse_of_call hr hjd'
      refine ⟨hpasses, Or.inr hcalls, fun hnothing => absurd hnothing (by decide),
        fun hcall => absurd rfl hcall, ?_⟩
      intro _
      cases kind with
      | finishedCalls => exact absurd hr (finishedCalls_ne_call _ _)
      | abortedCalls => rfl
      | removedDialog => exact absurd hr (removedDialog_ne_call _)
      | emptyCall => cases hr

theorem releaseWith_emptyCall (hsound : p.owners.Sound) {c : Nat} (h : c ∈ p.callAddresses)
    (now : Int) :
    ∃ r p', p.releaseWith .emptyCall c none now = some (r, p') ∧ Passes p p' ∧
      LosesCall c p p' := by
  obtain ⟨jc, hjc, rfl⟩ := List.mem_map.1 h
  refine ⟨_, _, releaseWith_eq hsound hjc (d := none) rfl .emptyCall now, ?_⟩
  cases hr : p.owners.decision .emptyCall jc none now with
  | nothing => exact ⟨Passes.refl hsound, Or.inl rfl⟩
  | dialog => exact ⟨Passes.refl hsound, Or.inl rfl⟩
  | call =>
      obtain ⟨hpasses, hcalls⟩ := passes_freeCall hsound hjc fun jd' hjd' =>
        not_inUse_of_call hr hjd'
      exact ⟨hpasses, Or.inr hcalls⟩

end Releases

/-! ### The loops -/

section Loops

variable {p : ReleasePass}

theorem filter_ne_of_nodup {before after : List Nat} {d : Nat}
    (h : (before ++ d :: after).Nodup) :
    (before ++ d :: after).filter (· ≠ d) = before ++ after := by
  have hbefore : before.filter (· ≠ d) = before := by
    rw [List.filter_eq_self]
    intro d' hd'
    rw [decide_eq_true_eq]
    rintro rfl
    exact (List.nodup_append.1 h).2.2 d' hd' d' List.mem_cons_self rfl
  have hafter : after.filter (· ≠ d) = after := by
    rw [List.filter_eq_self]
    intro d' hd'
    rw [decide_eq_true_eq]
    rintro rfl
    exact (List.nodup_cons.1 (List.nodup_append.1 h).2.1).1 hd'
  rw [List.filter_append, List.filter_cons_of_neg (by simp), hbefore, hafter]

theorem exists_before {l before after : List Nat} {d : Nat} (hnodup : (before ++ d :: after).Nodup)
    (h : l = before ++ d :: after ∨ l = (before ++ d :: after).filter (· ≠ d)) :
    ∃ before', l = before' ++ after := by
  cases h with
  | inl h => exact ⟨before ++ [d], by rw [h, List.append_assoc]; rfl⟩
  | inr h => exact ⟨before, by rw [h, filter_ne_of_nodup hnodup]⟩

theorem releaseTurn_passes (hsound : p.owners.Sound) {c d : Nat} {before after : List Nat}
    (hlist : p.dialogAddresses c = before ++ d :: after) (now : Int) :
    ∃ p' goesOn, p.releaseTurn now c d = some (p', goesOn) ∧ Passes p p' ∧ LosesCall c p p' ∧
      (goesOn = true → ∃ before', p'.dialogAddresses c = before' ++ after) := by
  have hmem : d ∈ p.dialogAddresses c := by
    rw [hlist]
    exact List.mem_append_right _ List.mem_cons_self
  have hnodup := nodup_dialogAddresses hsound c
  rw [hlist] at hnodup
  have hnext : ∀ {kind r p'}, Visits c d kind p r p' → r ≠ .call →
      ∃ before', p'.dialogAddresses c = before' ++ after := by
    intro kind r p' hvisits hr
    have hdialogs := hvisits.dialogs hr
    rw [hlist] at hdialogs
    exact exists_before hnodup hdialogs
  unfold ReleasePass.releaseTurn
  obtain ⟨r₁, p₁, hrelease₁, hvisits₁⟩ := releaseWith_visits hsound hmem .finishedCalls now
  rw [hrelease₁]
  cases r₁ with
  | dialog =>
      exact ⟨p₁, true, rfl, hvisits₁.passes, hvisits₁.calls, fun _ => hnext hvisits₁ (by decide)⟩
  | call => cases hvisits₁.call rfl
  | nothing =>
      -- each function sees the dialog as it was, when the one before it did nothing
      have hsame₁ := hvisits₁.nothing rfl
      subst hsame₁
      obtain ⟨r₂, p₂, hrelease₂, hvisits₂⟩ := releaseWith_visits hsound hmem .abortedCalls now
      dsimp only
      rw [hrelease₂]
      cases r₂ with
      | dialog => exact ⟨p₂, false, rfl, hvisits₂.passes, hvisits₂.calls, Bool.noConfusion⟩
      | call => exact ⟨p₂, false, rfl, hvisits₂.passes, hvisits₂.calls, Bool.noConfusion⟩
      | nothing =>
          have hsame₂ := hvisits₂.nothing rfl
          subst hsame₂
          obtain ⟨r₃, p₃, hrelease₃, hvisits₃⟩ :=
            releaseWith_visits hsound hmem .removedDialog now
          dsimp only
          rw [hrelease₃]
          refine ⟨p₃, true, rfl, hvisits₃.passes, hvisits₃.calls, fun _ => hnext hvisits₃ ?_⟩
          intro hr
          cases hvisits₃.call hr

theorem dialogTurn_passes (hsound : p.owners.Sound) {c d : Nat} {before after : List Nat}
    (hlist : p.dialogAddresses c = before ++ d :: after) (now : Int) :
    ∃ p' goesOn, p.dialogTurn now c d = some (p', goesOn) ∧ Passes p p' ∧ LosesCall c p p' ∧
      (goesOn = true → ∃ before', p'.dialogAddresses c = before' ++ after) := by
  have hmem : d ∈ p.dialogAddresses c := by
    rw [hlist]
    exact List.mem_append_right _ List.mem_cons_self
  have hsame : ∃ before', before ++ d :: after = before' ++ after :=
    ⟨before ++ [d], by rw [List.append_assoc]; rfl⟩
  unfold ReleasePass.dialogTurn
  rw [reads_of_mem hsound hmem, Bool.not_true, if_neg Bool.false_ne_true]
  dsimp only
  have hpending : Keeps p (p.setOwners (p.owners.pendingTransactionExist c d now).2) :=
    keeps_pendingTransactionExist hsound c d now
  generalize p.setOwners (p.owners.pendingTransactionExist c d now).2 = p₁ at hpending ⊢
  have hlist₁ : p₁.dialogAddresses c = before ++ d :: after := (hpending.dialogs c).trans hlist
  have hmem₁ : d ∈ p₁.dialogAddresses c := by rwa [hpending.dialogs]
  cases (p.owners.pendingTransactionExist c d now).1 with
  | true =>
      rw [if_pos rfl]
      exact ⟨p₁, true, rfl, hpending.passes, Or.inl hpending.calls, fun _ => by rwa [hlist₁]⟩
  | false =>
      rw [if_neg Bool.false_ne_true, reads_of_mem hpending.passes.sound hmem₁, Bool.not_true,
        if_neg Bool.false_ne_true]
      have hfinished : Keeps p₁
          (p₁.setOwners (p₁.owners.releaseFinishedTransactions c d now).2) :=
        keeps_releaseFinishedTransactions hpending.passes.sound c d now
      generalize p₁.setOwners (p₁.owners.releaseFinishedTransactions c d now).2 = p₂
        at hfinished ⊢
      have hkeeps := hpending.trans hfinished
      have hlist₂ : p₂.dialogAddresses c = before ++ d :: after := (hkeeps.dialogs c).trans hlist
      cases (p₁.owners.releaseFinishedTransactions c d now).1 with
      | true =>
          rw [if_pos rfl]
          exact ⟨p₂, true, rfl, hkeeps.passes, Or.inl hkeeps.calls, fun _ => by rwa [hlist₂]⟩
      | false =>
          rw [if_neg Bool.false_ne_true]
          obtain ⟨p', goesOn, hturn, hpasses, hloses, hnext⟩ :=
            releaseTurn_passes hkeeps.passes.sound hlist₂ now
          exact ⟨p', goesOn, hturn, hkeeps.passes.trans hpasses,
            LosesCall.trans (Or.inl hkeeps.calls) hloses, hnext⟩

theorem callTurn_passes (hsound : p.owners.Sound) (c : Nat) (now : Int) :
    ∃ p', p.callTurn now c = some (p', true) ∧ Passes p p' ∧ LosesCall c p p' := by
  obtain ⟨p', visits, hwalk, -, hpasses, hloses⟩ := @walkSaved_ended _ _ _
    (ReleasePass.dialogAddresses c) (ReleasePass.dialogTurn now c)
    (fun p' => Passes p p' ∧ LosesCall c p p') (by
      intro p₁ d before after hI hlist _
      obtain ⟨p₂, goesOn, hturn, hpasses, hloses, hnext⟩ :=
        dialogTurn_passes hI.1.sound hlist now
      exact ⟨p₂, goesOn, hturn, ⟨hI.1.trans hpasses, hI.2.trans hloses⟩,
        fun hgoes => ⟨nodup_dialogAddresses hpasses.sound c, hnext hgoes⟩⟩)
    p [] (p.dialogAddresses c) ⟨Passes.refl hsound, Or.inl rfl⟩ rfl
    (nodup_dialogAddresses hsound c)
  refine ⟨p', ?_, hpasses, hloses⟩
  unfold ReleasePass.callTurn
  dsimp only
  rw [hwalk]

theorem emptyTurn_passes (hsound : p.owners.Sound) {c : Nat} (h : c ∈ p.callAddresses)
    (now : Int) : ∃ p', p.emptyTurn now c = some (p', true) ∧ Passes p p' ∧ LosesCall c p p' := by
  obtain ⟨r, p', hrelease, hpasses, hloses⟩ := releaseWith_emptyCall hsound h now
  refine ⟨p', ?_, hpasses, hloses⟩
  rw [ReleasePass.emptyTurn, hrelease]
  rfl

theorem overCalls_passes {body : ReleasePass → Nat → Option (ReleasePass × Bool)}
    (hbody : ∀ p c, p.owners.Sound → c ∈ p.callAddresses →
      ∃ p', body p c = some (p', true) ∧ Passes p p' ∧ LosesCall c p p')
    (hsound : p.owners.Sound) : ∃ p', p.overCalls body = some p' ∧ Passes p p' := by
  obtain ⟨p', visits, hwalk, -, hpasses⟩ := @walkSaved_ended _ _ _
    ReleasePass.callAddresses body (fun p' => Passes p p') (by
      intro p₁ c before after hI hlist hnodup
      have hmem : c ∈ p₁.callAddresses := by
        rw [hlist]
        exact List.mem_append_right _ List.mem_cons_self
      obtain ⟨p₂, hturn, hpasses, hloses⟩ := hbody p₁ c hI.sound hmem
      refine ⟨p₂, true, hturn, hI.trans hpasses, fun _ => ⟨hpasses.sound.calls, ?_⟩⟩
      unfold LosesCall at hloses
      rw [hlist] at hloses hnodup
      exact exists_before hnodup hloses)
    p [] p.callAddresses (Passes.refl hsound) rfl hsound.calls
  refine ⟨p', ?_, hpasses⟩
  unfold ReleasePass.overCalls
  rw [hwalk]

/-- What the third loop leaves: each transaction is still in `j_transactions`, once, or it was
freed. -/
structure Sweeps (p q : ReleasePass) : Prop where
  calls : q.owners.jCalls = p.owners.jCalls
  released : q.released = p.released
  nodup : q.owners.jTransactions.Nodup
  freed : ∀ t ∈ p.owners.jTransactions, t ∈ q.freed ↔ t ∉ q.owners.jTransactions

theorem releaseTransaction_cases (s : Owners) (t : Nat) (now : Int) :
    (s.releaseTransaction t now).jCalls = s.jCalls ∧
      ((s.releaseTransaction t now).jTransactions = s.jTransactions ∨
        t ∈ s.jTransactions ∧
          (s.releaseTransaction t now).jTransactions = s.jTransactions.erase t) := by
  unfold releaseTransaction
  dsimp only
  by_cases hmem : t ∉ s.jTransactions
  · rw [if_pos hmem]
    exact ⟨rfl, Or.inl rfl⟩
  · rw [if_neg hmem]
    split_ifs
    · exact ⟨rfl, Or.inl rfl⟩
    · exact ⟨rfl, Or.inr ⟨not_not.1 hmem, rfl⟩⟩
    · exact ⟨rfl, Or.inr ⟨not_not.1 hmem, rfl⟩⟩
    · exact ⟨rfl, Or.inl rfl⟩

theorem sweeps_transactionTurn {q : ReleasePass} (h : Sweeps p q) (t : Nat) (now : Int) :
    Sweeps p (q.transactionTurn now t) := by
  obtain ⟨hcalls, hturn⟩ := releaseTransaction_cases q.owners t now
  unfold ReleasePass.transactionTurn
  refine ⟨hcalls.trans h.calls, h.released, ?_, ?_⟩
  · dsimp only
    rcases hturn with hsame | ⟨-, herase⟩
    · rw [hsame]
      exact h.nodup
    · rw [herase]
      exact h.nodup.erase t
  · intro t' ht'
    dsimp only
    rcases hturn with hsame | ⟨hmem, herase⟩
    · rw [hsame, if_neg fun hboth => hboth.2 hboth.1]
      exact h.freed t' ht'
    · have hfrees : t ∈ q.owners.jTransactions ∧
          t ∉ (q.owners.releaseTransaction t now).jTransactions := by
        rw [herase]
        exact ⟨hmem, h.nodup.not_mem_erase⟩
      rw [if_pos hfrees, herase, h.nodup.mem_erase_iff, List.mem_cons, h.freed t' ht',
        not_and_or, not_not]

theorem sweeps_foldl {q : ReleasePass} (h : Sweeps p q) (ts : List Nat) (now : Int) :
    Sweeps p (ts.foldl (ReleasePass.transactionTurn now) q) := by
  induction ts generalizing q with
  | nil => exact h
  | cons t ts ih => exact ih (sweeps_transactionTurn h t now)

end Loops

/-! ### The pass -/

theorem mem_of_withinCall {jc jc' : OwnedCall} (h : WithinCall jc jc') {t : Nat}
    (ht : t ∈ jc'.trs) : t ∈ jc.trs := by
  rcases List.mem_append.1 ht with hown | hdialogs
  · rw [h.own.1, h.own.2] at hown
    exact List.mem_append_left _ hown
  · obtain ⟨jd', hjd', ht⟩ := List.mem_flatMap.1 hdialogs
    obtain ⟨jd, hjd, -, htrs⟩ := h.dialogs jd' hjd'
    exact mem_trs_of_dialog hjd (htrs t ht)

section Pass

variable {p : ReleasePass}

theorem mem_jTransactions_of_passes (h : Passes ⟨s, [], []⟩ p) {t : Nat}
    (ht : t ∈ s.heldTransactions) (hnot : t ∉ p.owners.heldTransactions) :
    t ∈ p.owners.jTransactions := by
  have hmem := h.transactions.mem_iff.2 (List.mem_append_left s.jTransactions ht)
  exact (List.mem_append.1 hmem).resolve_left hnot

theorem not_held_of_call (hsound : s.Sound) (h : Passes ⟨s, [], []⟩ p) {jc : OwnedCall}
    (hjc : jc ∈ s.jCalls) (hgone : ¬ p.owners.HasCall jc.address) {t : Nat} (ht : t ∈ jc.trs) :
    t ∉ p.owners.heldTransactions := by
  intro hheld
  obtain ⟨jc', hjc', ht'⟩ := List.mem_flatMap.1 hheld
  obtain ⟨jc₀, hjc₀, hwithin⟩ := h.within jc' hjc'
  have hsame := hsound.call_eq hjc hjc₀ ht (mem_of_withinCall hwithin ht')
  subst hsame
  exact hgone ⟨jc', hjc', hwithin.address⟩

theorem not_held_of_dialog (hsound : s.Sound) (h : Passes ⟨s, [], []⟩ p) {jc : OwnedCall}
    (hjc : jc ∈ s.jCalls) {jd : OwnedDialog} (hjd : jd ∈ jc.cDialogs)
    (hgone : ¬ p.owners.HasDialog jc.address jd.address) {t : Nat} (ht : t ∈ jd.trs) :
    t ∉ p.owners.heldTransactions := by
  intro hheld
  obtain ⟨jc', hjc', ht'⟩ := List.mem_flatMap.1 hheld
  obtain ⟨jc₀, hjc₀, hwithin⟩ := h.within jc' hjc'
  rcases List.mem_append.1 ht' with hown | hdialogs
  · rw [hwithin.own.1, hwithin.own.2] at hown
    exact hsound.not_own hjc hjc₀ hown hjd ht
  · obtain ⟨jd', hjd', htd⟩ := List.mem_flatMap.1 hdialogs
    obtain ⟨jd₀, hjd₀, haddress, htrs⟩ := hwithin.dialogs jd' hjd'
    obtain ⟨rfl, rfl⟩ := hsound.dialog_eq hjc hjc₀ hjd hjd₀ ht (htrs t htd)
    exact hgone ⟨jc', hjc', hwithin.address, jd', hjd', haddress⟩

theorem leftOnce_of_sweeps {q : ReleasePass} (h : Sweeps p q) {t : Nat}
    (ht : t ∈ p.owners.jTransactions) : LeftOnce q t := by
  unfold LeftOnce
  by_cases hfreed : t ∈ q.freed
  · rw [if_pos hfreed, List.count_eq_zero]
    exact (h.freed t ht).1 hfreed
  · rw [if_neg hfreed]
    exact List.count_eq_one_of_mem h.nodup (not_not.1 fun hnot => hfreed ((h.freed t ht).2 hnot))

theorem count_released (hsound : s.Sound) (h : Passes ⟨s, [], []⟩ p) (c : Nat) :
    p.released.count c = if c ∈ s.jCalls.map OwnedCall.address ∧
      c ∉ p.owners.jCalls.map OwnedCall.address then 1 else 0 := by
  have hcount : p.released.count c + (p.owners.jCalls.map OwnedCall.address).count c =
      (s.jCalls.map OwnedCall.address).count c := by
    have hreported := h.reported c
    rwa [List.count_nil, Nat.zero_add] at hreported
  rw [hsound.calls.count, h.sound.calls.count] at hcount
  have hlost : c ∈ p.owners.jCalls.map OwnedCall.address →
      c ∈ s.jCalls.map OwnedCall.address := by
    intro hmem
    obtain ⟨jc', hjc', rfl⟩ := List.mem_map.1 hmem
    obtain ⟨jc, hjc, hwithin⟩ := h.within jc' hjc'
    exact List.mem_map.2 ⟨jc, hjc, hwithin.address.symm⟩
  by_cases hnow : c ∈ p.owners.jCalls.map OwnedCall.address
  · rw [if_pos hnow, if_pos (hlost hnow)] at hcount
    rw [if_neg fun hboth => hboth.2 hnow]
    omega
  · rw [if_neg hnow] at hcount
    by_cases hbefore : c ∈ s.jCalls.map OwnedCall.address
    · rw [if_pos hbefore] at hcount
      rw [if_pos ⟨hbefore, hnow⟩]
      omega
    · rw [if_neg hbefore] at hcount
      rw [if_neg fun hboth => hbefore hboth.1]
      omega

end Pass

def twoDialogs : Owners where
  memory t := if t = 1 then ⟨.invite, false, .ictTerminated, 0, 0, some 200, some 0, none⟩
    else ⟨.bye, true, .nictTerminated, 0, 0, some 200, some 0, some 5⟩
  osipTransactions := []
  jTransactions := [7]
  jCalls := [⟨0, 180, none, some 1,
    [⟨4, true, some .confirmed, [], []⟩, ⟨5, false, none, [], [6]⟩]⟩]
  fresh := 8

end Exosip.Owners
