import Exosip.Call.OwnedSteps

/-! What is left when a dialog or a call is freed, and the release of single transactions. -/
namespace Exosip.Owners

def RefersToDialog (jc : OwnedCall) (jd : OwnedDialog) (tr : OwnedTr) : Prop :=
  tr.reserved2 = some jc.address ∧ tr.reserved3 = some jd.address

def RefersToCall (jc : OwnedCall) (tr : OwnedTr) : Prop := tr.reserved2 = some jc.address

instance (jc : OwnedCall) (jd : OwnedDialog) (tr : OwnedTr) :
    Decidable (RefersToDialog jc jd tr) := inferInstanceAs (Decidable (_ ∧ _))

instance (jc : OwnedCall) (tr : OwnedTr) : Decidable (RefersToCall jc tr) :=
  inferInstanceAs (Decidable (_ = _))

variable {P : Nat → Prop} {s : Owners}

/-! ### Freeing -/

theorem freeTransactions_jCalls (s : Owners) (ts : List Nat) :
    (s.freeTransactions ts).jCalls = s.jCalls := by
  induction ts generalizing s with
  | nil => rfl
  | cons t ts ih => exact ih _

theorem freeTransactions_osipTransactions (s : Owners) (ts : List Nat) :
    (s.freeTransactions ts).osipTransactions = s.osipTransactions := by
  induction ts generalizing s with
  | nil => rfl
  | cons t ts ih => exact ih _

theorem mem_freeTransactions {s : Owners} {ts : List Nat} {t : Nat}
    (h : t ∈ (s.freeTransactions ts).jTransactions) : t ∈ s.jTransactions ∨ t ∈ ts := by
  induction ts generalizing s with
  | nil => exact Or.inl h
  | cons t' ts ih =>
      cases ih h with
      | inl h =>
          cases List.mem_cons.1 h with
          | inl heq => exact Or.inr (heq ▸ List.mem_cons_self)
          | inr h => exact Or.inl h
      | inr h => exact Or.inr (List.mem_cons_of_mem _ h)

/-- The transactions of the list have no owners, and the others are as they were. -/
structure Freed (s s' : Owners) (ts : List Nat) : Prop where
  unowned : ∀ t ∈ ts, s'.Unowned t
  memory : ∀ t ∉ ts, s'.memory t = s.memory t
  osip : s'.osipTransactions = s.osipTransactions
  garbage : ∀ t ∈ s'.jTransactions, t ∈ s.jTransactions ∨ t ∈ ts

theorem memory_deleteReserved (s : Owners) (t t' : Nat) :
    ((s.setTr t OwnedTr.deleteReserved).addTransaction t).memory t' =
      if t' = t then (s.memory t).deleteReserved else s.memory t' := by
  simp only [Owners.addTransaction, Owners.setTr, Function.update_apply]

theorem unowned_deleteReserved (s : Owners) (t : Nat) :
    ((s.setTr t OwnedTr.deleteReserved).addTransaction t).Unowned t := by
  unfold Unowned
  rw [memory_deleteReserved, if_pos rfl]
  exact ⟨rfl, rfl⟩

theorem unowned_freeTransactions {s : Owners} {t : Nat} (h : s.Unowned t) (ts : List Nat) :
    (s.freeTransactions ts).Unowned t := by
  induction ts generalizing s with
  | nil => exact h
  | cons t' ts ih =>
      apply ih
      unfold Unowned
      rw [memory_deleteReserved]
      split
      · exact ⟨rfl, rfl⟩
      · exact h

theorem freed_freeTransactions (s : Owners) (ts : List Nat) :
    Freed s (s.freeTransactions ts) ts where
  unowned := by
    induction ts generalizing s with
    | nil => simp
    | cons t ts ih =>
        intro t' ht'
        cases List.mem_cons.1 ht' with
        | inl heq =>
            rw [heq]
            exact unowned_freeTransactions (unowned_deleteReserved s t) ts
        | inr ht' => exact ih _ t' ht'
  memory := by
    induction ts generalizing s with
    | nil => simp [freeTransactions]
    | cons t ts ih =>
        intro t' ht'
        rw [List.mem_cons, not_or] at ht'
        rw [freeTransactions, ih _ t' ht'.2, memory_deleteReserved, if_neg ht'.1]
  osip := freeTransactions_osipTransactions s ts
  garbage _ ht := mem_freeTransactions ht

theorem Freed.trans {s s' s'' : Owners} {ts ts' : List Nat} (h : Freed s s' ts)
    (h' : Freed s' s'' ts') (hstays : ∀ t, s'.Unowned t → s''.Unowned t) :
    Freed s s'' (ts ++ ts') where
  unowned := by
    intro t ht
    cases List.mem_append.1 ht with
    | inl ht => exact hstays t (h.unowned t ht)
    | inr ht => exact h'.unowned t ht
  memory := by
    intro t ht
    rw [List.mem_append, not_or] at ht
    rw [h'.memory t ht.2, h.memory t ht.1]
  osip := h'.osip.trans h.osip
  garbage := by
    intro t ht
    rw [List.mem_append]
    cases h'.garbage t ht with
    | inl ht => exact Or.imp_right Or.inl (h.garbage t ht)
    | inr ht => exact Or.inr (Or.inr ht)

theorem freed_dialogFree (s : Owners) (jd : OwnedDialog) : Freed s (s.dialogFree jd) jd.trs :=
  let freed := freed_freeTransactions s jd.trs
  ⟨freed.unowned, freed.memory, freed.osip, freed.garbage⟩

theorem retains_dialogFree (s : Owners) (jd : OwnedDialog) :
    Retains P s.jCalls (s.dialogFree jd).jCalls := by
  have hretained := retains_update (P := P) (s.freeTransactions jd.trs)
  rwa [freeTransactions_jCalls] at hretained

theorem unowned_dialogsFree {s : Owners} {t : Nat} (h : s.Unowned t) (jds : List OwnedDialog) :
    (s.dialogsFree jds).Unowned t := by
  induction jds generalizing s with
  | nil => exact h
  | cons jd jds ih => exact ih (unowned_freeTransactions h jd.trs)

theorem freed_dialogsFree (s : Owners) (jds : List OwnedDialog) :
    Freed s (s.dialogsFree jds) (jds.flatMap OwnedDialog.trs) := by
  induction jds generalizing s with
  | nil => exact freed_freeTransactions s []
  | cons jd jds ih =>
      rw [List.flatMap_cons]
      exact (freed_dialogFree s jd).trans (ih _) fun t ht => unowned_dialogsFree ht jds

theorem retains_dialogsFree (s : Owners) (jds : List OwnedDialog) :
    Retains P s.jCalls (s.dialogsFree jds).jCalls := by
  induction jds generalizing s with
  | nil => exact retains_refl s.jCalls
  | cons jd jds ih => exact (retains_dialogFree s jd).trans (ih _)

/-- Freeing keeps the owners of everybody else, when whoever referred to what is gone is among
the freed transactions. -/
theorem allOwned_of_freed {s' : Owners} {ts : List Nat} (hfreed : Freed s s' ts)
    (hheld : ∀ t ∈ s'.heldTransactions, t ∈ s.heldTransactions)
    (hcalls : ∀ t ∈ s.known, t ∉ ts → OwnersIn s'.jCalls (s.memory t)) : s'.AllOwned := by
  intro t ht
  by_cases hmem : t ∈ ts
  · exact (hfreed.unowned t hmem).ownersIn _
  · have hknown : t ∈ s.known := by
      rw [mem_known, hfreed.osip] at ht
      rw [mem_known]
      rcases ht with ht | ht | ht
      · exact Or.inl ht
      · exact Or.inr (Or.inl ((hfreed.garbage t ht).resolve_right hmem))
      · exact Or.inr (Or.inr (hheld t ht))
    rw [hfreed.memory t hmem]
    exact hcalls t hknown hmem

/-! ### A dialog -/

theorem trs_removeDialog {jc : OwnedCall} {d t : Nat} (ht : t ∈ (jc.removeDialog d).trs) :
    t ∈ jc.trs := by
  simp only [OwnedCall.trs, OwnedCall.removeDialog, List.mem_append, List.mem_flatMap,
    List.mem_filter] at ht ⊢
  apply Or.imp_right _ ht
  rintro ⟨jd, ⟨hjd, -⟩, ht⟩
  exact ⟨jd, hjd, ht⟩

theorem held_modifyCall {c : Nat} {f : OwnedCall → OwnedCall}
    (hf : ∀ jc, ∀ t ∈ (f jc).trs, t ∈ jc.trs) {t : Nat}
    (ht : t ∈ (s.modifyCall c f).heldTransactions) : t ∈ s.heldTransactions := by
  unfold heldTransactions at ht ⊢
  rw [List.mem_flatMap] at ht ⊢
  obtain ⟨jc', hjc', ht⟩ := ht
  obtain ⟨jc, hjc, rfl⟩ := List.mem_map.1 hjc'
  refine ⟨jc, hjc, ?_⟩
  split at ht
  · exact hf jc t ht
  · exact ht

theorem OwnersIn.removeDialog {tr : OwnedTr} (h : OwnersIn s.jCalls tr) {jc : OwnedCall}
    {jd : OwnedDialog} (hnot : ¬ RefersToDialog jc jd tr) :
    OwnersIn (s.modifyCall jc.address (OwnedCall.removeDialog jd.address)).jCalls tr := by
  constructor
  · intro c hc
    obtain ⟨jc', hjc', heq⟩ := h.1 c hc
    refine ⟨_, List.mem_map_of_mem hjc', ?_⟩
    split
    · exact heq
    · exact heq
  · intro d hd
    obtain ⟨jc', hjc', hreserved2, jd', hjd', heq⟩ := h.2 d hd
    refine ⟨_, List.mem_map_of_mem hjc', ?_⟩
    split
    · rename_i hsame
      refine ⟨hreserved2, jd', List.mem_filter.2 ⟨hjd', ?_⟩, heq⟩
      rw [decide_eq_true_eq]
      intro heq'
      apply hnot
      constructor
      · rw [hreserved2, hsame]
      · rw [← heq', heq]
        exact hd
    · exact ⟨hreserved2, jd', hjd', heq⟩

theorem AllOwned.removeDialog (h : s.AllOwned) {jc : OwnedCall} {jd : OwnedDialog}
    (honly : ∀ t ∈ s.known, RefersToDialog jc jd (s.memory t) → t ∈ jd.trs) :
    (s.removeDialog jc jd).AllOwned := by
  have hfreed := freed_dialogFree (s.modifyCall jc.address (OwnedCall.removeDialog jd.address)) jd
  have hretained := retains_dialogFree (P := fun _ => False)
    (s.modifyCall jc.address (OwnedCall.removeDialog jd.address)) jd
  apply allOwned_of_freed (s := s)
    ⟨hfreed.unowned, hfreed.memory, hfreed.osip, hfreed.garbage⟩
  · intro t ht
    apply held_modifyCall (f := OwnedCall.removeDialog jd.address) fun _ _ => trs_removeDialog
    exact (hretained.trs t ht).resolve_right not_false
  · intro t hknown hmem
    apply hretained.ownersIn
    apply (h t hknown).removeDialog
    intro hrefers
    exact hmem (honly t hknown hrefers)

theorem hasCall_removeDialog {c : Nat} (h : s.HasCall c) (jc : OwnedCall) (jd : OwnedDialog) :
    (s.removeDialog jc jd).HasCall c := by
  have hretained := retains_dialogFree (P := fun _ => False)
    (s.modifyCall jc.address (OwnedCall.removeDialog jd.address)) jd
  apply HasCall.retains _ hretained
  obtain ⟨jc', hjc', hc⟩ := h
  refine ⟨_, List.mem_map_of_mem hjc', ?_⟩
  split
  · exact hc
  · exact hc

/-! ### A dialog that the call forgets, and the call -/

theorem AllOwned.forgetDialog (h : s.AllOwned) (d : Nat) (tr : Option Nat) :
    (s.forgetDialog d tr).AllOwned := by
  cases tr with
  | none => exact h
  | some t =>
      unfold Owners.forgetDialog
      dsimp only [Option.elim]
      split
      · intro t' ht'
        have howned := h t' ht'
        by_cases heq : t' = t
        · rw [heq] at howned ⊢
          refine ⟨?_, ?_⟩
          · simpa [Owners.setTr] using howned.1
          · simp [Owners.setTr]
        · simpa [Owners.setTr, heq] using howned
      · exact h

theorem known_forgetDialog (d : Nat) (tr : Option Nat) : (s.forgetDialog d tr).known = s.known := by
  cases tr with
  | none => rfl
  | some t =>
      unfold Owners.forgetDialog
      dsimp only [Option.elim]
      split
      · rfl
      · rfl

theorem refersToDialog_forgetDialog {jc : OwnedCall} {jd : OwnedDialog} {tr : Option Nat}
    {t : Nat} (h : RefersToDialog jc jd ((s.forgetDialog jd.address tr).memory t)) :
    RefersToDialog jc jd (s.memory t) ∧ tr ≠ some t := by
  cases tr with
  | none => exact ⟨h, nofun⟩
  | some t' =>
      unfold Owners.forgetDialog at h
      dsimp only [Option.elim] at h
      by_cases heq : t' = t
      · exfalso
        rw [heq] at h
        split at h
        · have hnone := h.2
          simp [Owners.setTr] at hnone
        · rename_i hnot
          exact hnot h.2
      · refine ⟨?_, fun hsome => heq (Option.some.inj hsome)⟩
        split at h
        · simpa [Owners.setTr, Ne.symm heq] using h
        · exact h

theorem AllOwned.freeDialog (h : s.AllOwned) {jc : OwnedCall} {jd : OwnedDialog}
    (honly : ∀ t ∈ s.known, RefersToDialog jc jd (s.memory t) →
      t ∈ jd.trs ++ jc.cIncTr.toList ++ jc.cOutTr.toList) :
    ((s.removeDialogReference jc jd).removeDialog jc jd).AllOwned := by
  apply ((h.forgetDialog jd.address jc.cIncTr).forgetDialog jd.address jc.cOutTr).removeDialog
  intro t ht hrefers
  rw [known_forgetDialog, known_forgetDialog] at ht
  have hout := refersToDialog_forgetDialog hrefers
  have hinc := refersToDialog_forgetDialog hout.1
  have hmem := honly t ht hinc.1
  simp only [List.mem_append, Option.mem_toList] at hmem
  exact (hmem.resolve_right hout.2).resolve_right hinc.2

theorem AllOwned.callFree (h : s.AllOwned) {jc : OwnedCall}
    (honly : ∀ t ∈ s.known, RefersToCall jc (s.memory t) → t ∈ jc.trs) :
    (s.callFree jc).AllOwned := by
  generalize hremoved : ({ s with
    jCalls := s.jCalls.filter fun jc' => jc'.address ≠ jc.address } : Owners) = removed
  have hcalls : removed.jCalls = s.jCalls.filter fun jc' => jc'.address ≠ jc.address := by
    rw [← hremoved]
  have hretained := retains_dialogsFree (P := fun _ => False) removed jc.cDialogs
  have hfreed := (freed_dialogsFree removed jc.cDialogs).trans
    (freed_freeTransactions _ (jc.cIncTr.toList ++ jc.cOutTr.toList))
    fun t ht => unowned_freeTransactions ht _
  have hfree : s.callFree jc = (removed.dialogsFree jc.cDialogs).freeTransactions
      (jc.cIncTr.toList ++ jc.cOutTr.toList) := by
    rw [Owners.callFree, hremoved]
  rw [hfree]
  apply allOwned_of_freed (s := s)
  · refine ⟨hfreed.unowned, ?_, ?_, ?_⟩
    · intro t ht
      rw [hfreed.memory t ht, ← hremoved]
    · rw [hfreed.osip, ← hremoved]
    · intro t ht
      have hgarbage := hfreed.garbage t ht
      rwa [← hremoved] at hgarbage
  · intro t ht
    rw [heldTransactions, freeTransactions_jCalls] at ht
    have hheld := (hretained.trs t ht).resolve_right not_false
    rw [hcalls] at hheld
    obtain ⟨jc', hjc', ht⟩ := List.mem_flatMap.1 hheld
    exact List.mem_flatMap.2 ⟨jc', (List.mem_filter.1 hjc').1, ht⟩
  · intro t hknown hmem
    rw [freeTransactions_jCalls]
    apply hretained.ownersIn
    have hnot : ¬ RefersToCall jc (s.memory t) := by
      intro hrefers
      apply hmem
      have htrs := honly t hknown hrefers
      rw [List.mem_append]
      exact (List.mem_append.1 htrs).symm
    have howned := h t hknown
    rw [hcalls]
    constructor
    · intro c hc
      obtain ⟨jc', hjc', heq⟩ := howned.1 c hc
      refine ⟨jc', List.mem_filter.2 ⟨hjc', ?_⟩, heq⟩
      rw [decide_eq_true_eq]
      intro hsame
      exact hnot (hc.trans (congrArg some (heq.symm.trans hsame)))
    · intro d hd
      obtain ⟨jc', hjc', hreserved2, hdialog⟩ := howned.2 d hd
      refine ⟨jc', List.mem_filter.2 ⟨hjc', ?_⟩, hreserved2, hdialog⟩
      rw [decide_eq_true_eq]
      intro hsame
      exact hnot (hreserved2.trans (congrArg some hsame))

theorem AllOwned.releaseTransaction (h : s.AllOwned) (t : Nat) (now : Int) :
    (s.releaseTransaction t now).AllOwned := by
  have hfree : (({ s with jTransactions := s.jTransactions.erase t } : Owners).transactionFree
      t).AllOwned := by
    apply AllOwned.transactionFree
    intro t' ht'
    apply h t'
    rw [mem_known] at ht' ⊢
    exact Or.imp_right (Or.imp_left List.mem_of_mem_erase) ht'
  unfold Owners.releaseTransaction
  dsimp only
  split
  · exact h
  · split
    · exact h
    · split
      · exact hfree
      · split
        · exact hfree
        · exact h

/-! ### Transactions that are moved -/

theorem mem_known_of_dialog {jc : OwnedCall} {jd : OwnedDialog} {t : Nat} (hjc : jc ∈ s.jCalls)
    (hjd : jd ∈ jc.cDialogs) (ht : t ∈ jd.trs) : t ∈ s.known := by
  rw [mem_known]
  apply Or.inr (Or.inr _)
  refine List.mem_flatMap.2 ⟨jc, hjc, ?_⟩
  exact List.mem_append_right _ (List.mem_flatMap.2 ⟨jd, hjd, ht⟩)

theorem trs_removeIncTr {jd : OwnedDialog} {t t' : Nat} (ht : t' ∈ (jd.removeIncTr t).trs) :
    t' ∈ jd.trs := by
  simp only [OwnedDialog.trs, OwnedDialog.removeIncTr, List.mem_append] at ht ⊢
  exact Or.imp_left List.mem_of_mem_erase ht

theorem trs_removeOutTr {jd : OwnedDialog} {t t' : Nat} (ht : t' ∈ (jd.removeOutTr t).trs) :
    t' ∈ jd.trs := by
  simp only [OwnedDialog.trs, OwnedDialog.removeOutTr, List.mem_append] at ht ⊢
  exact Or.imp_right List.mem_of_mem_erase ht

theorem retainsCall_removeTransaction (t : Nat) (jc : OwnedCall) :
    RetainsCall P jc (jc.removeTransaction t) := by
  unfold OwnedCall.removeTransaction
  split
  · refine ⟨rfl, fun jd hjd => ⟨jd, hjd, rfl⟩, ?_⟩
    intro t' ht'
    simp only [OwnedCall.trs, Option.toList_none, List.nil_append, List.mem_append] at ht' ⊢
    exact Or.inl (Or.imp_left Or.inr ht')
  · split
    · apply retainsCall_mapDialogs
      · intro jd hjd
        rfl
      · intro jd hjd t' ht'
        exact Or.inl (trs_removeIncTr ht')
    · split
      · refine ⟨rfl, fun jd hjd => ⟨jd, hjd, rfl⟩, ?_⟩
        intro t' ht'
        simp only [OwnedCall.trs, Option.toList_none, List.append_nil, List.mem_append] at ht' ⊢
        exact Or.inl (Or.imp_left Or.inl ht')
      · apply retainsCall_mapDialogs
        · intro jd hjd
          rfl
        · intro jd hjd t' ht'
          exact Or.inl (trs_removeOutTr ht')

theorem AllOwned.pendingIn (h : s.AllOwned) {c : Nat} {tr : Option Nat}
    (htr : ∀ t ∈ tr, t ∈ s.known) (terminated : State) (now : Int) :
    (s.pendingIn c tr terminated now).2.AllOwned := by
  cases tr with
  | none => exact h
  | some t =>
      unfold Owners.pendingIn
      dsimp only [Option.elim]
      split
      · exact h
      · split
        · have hretained := retains_modifyCall (P := fun _ => False)
            (s := s.removeTransaction t) (c := c) (retainsCall_removeTransaction t)
          apply AllOwned.addTransaction
          · apply (h.removeTransaction t).modifyCall
            exact retainsCall_removeTransaction t
          · exact hretained.ownersIn (h t (htr t rfl))
        · exact h

theorem mem_dialog_of_lists {c d t : Nat} {method : RequestMethod} {trs : OwnedDialog → List Nat}
    (htrs : ∀ jd, ∀ t ∈ trs jd, t ∈ jd.trs)
    (ht : ((s.callAt c).bind fun jc => (dialogAt jc d).bind fun jd =>
      s.findLast method (trs jd)) = some t) :
    ∃ jc ∈ s.jCalls, jc.address = c ∧ ∃ jd ∈ jc.cDialogs, t ∈ jd.trs := by
  rw [Option.bind_eq_some_iff] at ht
  obtain ⟨jc, hjc, ht⟩ := ht
  rw [Option.bind_eq_some_iff] at ht
  obtain ⟨jd, hjd, ht⟩ := ht
  exact ⟨jc, (callAt_eq_some hjc).1, (callAt_eq_some hjc).2, jd, (dialogAt_eq_some hjd).1,
    htrs jd t (List.mem_of_find?_eq_some ht)⟩

theorem mem_known_of_lists {c d t : Nat} {method : RequestMethod} {trs : OwnedDialog → List Nat}
    (htrs : ∀ jd, ∀ t ∈ trs jd, t ∈ jd.trs)
    (ht : ((s.callAt c).bind fun jc => (dialogAt jc d).bind fun jd =>
      s.findLast method (trs jd)) = some t) : t ∈ s.known := by
  obtain ⟨jc, hjc, -, jd, hjd, hmem⟩ := mem_dialog_of_lists htrs ht
  exact mem_known_of_dialog hjc hjd hmem

theorem AllOwned.pendingMethod (h : s.AllOwned) (c d : Nat) (method : RequestMethod)
    (now : Int) : (s.pendingMethod c d method now).2.AllOwned := by
  unfold Owners.pendingMethod
  dsimp only
  have hinc : (s.pendingIn c ((s.callAt c).bind fun jc => (dialogAt jc d).bind fun jd =>
      s.findLast method jd.dIncTrs) .nistTerminated now).2.AllOwned := by
    apply h.pendingIn
    intro t ht
    exact mem_known_of_lists (fun jd t ht => List.mem_append_left _ ht) ht
  split
  · exact hinc
  · apply hinc.pendingIn
    intro t ht
    exact mem_known_of_lists (fun jd t ht => List.mem_append_right _ ht) ht

theorem AllOwned.pendingTransactionExist (h : s.AllOwned) (c d : Nat) (now : Int) :
    (s.pendingTransactionExist c d now).2.AllOwned := by
  unfold Owners.pendingTransactionExist
  dsimp only
  have hbye := h.pendingMethod c d .bye now
  split
  · exact hbye
  · split
    · exact hbye
    · exact hbye.pendingMethod c d .refer now

theorem retains_moveTransaction {c d t : Nat} {f : OwnedDialog → OwnedDialog}
    (haddress : ∀ jd, (f jd).address = jd.address)
    (htrs : ∀ jd, ∀ t ∈ (f jd).trs, t ∈ jd.trs) :
    Retains P s.jCalls (s.moveTransaction c d t f).jCalls :=
  retains_modifyDialog (s := s.removeTransaction t) haddress fun jd t ht => Or.inl (htrs jd t ht)

theorem AllOwned.moveTransaction (h : s.AllOwned) {c d t : Nat} {f : OwnedDialog → OwnedDialog}
    (haddress : ∀ jd, (f jd).address = jd.address)
    (htrs : ∀ jd, ∀ t ∈ (f jd).trs, t ∈ jd.trs)
    (ht : OwnersIn s.jCalls (s.memory t)) : (s.moveTransaction c d t f).AllOwned := by
  have hretained := retains_moveTransaction (P := fun _ => False) (s := s) (c := c) (d := d)
    (t := t) haddress htrs
  apply AllOwned.addTransaction
  · apply (h.removeTransaction t).modifyDialog haddress
    intro jd t' ht'
    exact Or.inl (htrs jd t' ht')
  · exact hretained.ownersIn ht

theorem mem_finishedIn {trs : List Nat} {invite other : State} {lastInvite : Option Nat}
    {now : Int} {t : Nat} (h : s.finishedIn trs invite other lastInvite now = some t) :
    t ∈ trs := List.mem_of_mem_tail (List.mem_of_find?_eq_some h)

theorem AllOwned.releaseFinishedTransactions (h : s.AllOwned) (c d : Nat) (now : Int) :
    (s.releaseFinishedTransactions c d now).2.AllOwned := by
  unfold Owners.releaseFinishedTransactions
  split
  · exact h
  · rename_i jc jd hfind
    rw [Option.bind_eq_some_iff] at hfind
    obtain ⟨jc', hjc, hfind⟩ := hfind
    rw [Option.map_eq_some_iff] at hfind
    obtain ⟨jd', hjd, heq⟩ := hfind
    cases heq
    have howned : ∀ t ∈ jd.trs, OwnersIn s.jCalls (s.memory t) := fun t ht =>
      h t (mem_known_of_dialog (callAt_eq_some hjc).1 (dialogAt_eq_some hjd).1 ht)
    have hmove : ∀ {s' : Owners}, s'.AllOwned → ∀ {t : Nat},
        OwnersIn s'.jCalls (s'.memory t) →
        (s'.moveTransaction c d t (OwnedDialog.removeOutTr t)).AllOwned := fun h' _ ht =>
      h'.moveTransaction (fun _ => rfl) (fun _ _ => trs_removeOutTr) ht
    dsimp only
    cases hinc : s.finishedIn jd.dIncTrs .istTerminated .nistTerminated
        (s.findLastIncInvite jc (some jd)) now with
    | none =>
        cases hout : s.finishedIn jd.dOutTrs .ictTerminated .nictTerminated
            (s.findLastOutInvite jc (some jd)) now with
        | none => exact h
        | some t => exact hmove h (howned t (List.mem_append_right _ (mem_finishedIn hout)))
    | some t =>
        have hmoved : (s.moveTransaction c d t (OwnedDialog.removeIncTr t)).AllOwned :=
          h.moveTransaction (fun _ => rfl) (fun _ _ => trs_removeIncTr)
            (howned t (List.mem_append_left _ (mem_finishedIn hinc)))
        cases hout : s.finishedIn jd.dOutTrs .ictTerminated .nictTerminated
            (s.findLastOutInvite jc (some jd)) now with
        | none => exact hmoved
        | some t' =>
            apply hmove hmoved
            have hretained := retains_moveTransaction (P := fun _ => False) (s := s) (c := c)
              (d := d) (t := t) (f := OwnedDialog.removeIncTr t) (fun _ => rfl)
              fun _ _ => trs_removeIncTr
            exact hretained.ownersIn (howned t' (List.mem_append_right _ (mem_finishedIn hout)))

end Exosip.Owners
