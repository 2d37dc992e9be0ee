import Exosip.Call.Retained

/-! The steps that free nothing: requests of the application and of the network, and
responses. All owners stay, and new references are to owners that are there. -/
namespace Exosip.Owners

variable {s : Owners}

/-- The transaction has no owners yet. -/
def Unowned (s : Owners) (t : Nat) : Prop :=
  (s.memory t).reserved2 = none ∧ (s.memory t).reserved3 = none

theorem Unowned.ownersIn {t : Nat} (ht : s.Unowned t) (calls : List OwnedCall) :
    OwnersIn calls (s.memory t) := ownersIn_none ht.1 ht.2

theorem unowned_transactionInit (s : Owners) (method : RequestMethod) (toTag : Bool)
    (state : State) (now : Int) : (s.transactionInit method toTag state now).Unowned s.fresh := by
  simp [Unowned, Owners.transactionInit, OwnedTr.init]

theorem AllOwned.addUnowned (h : s.AllOwned) {t : Nat} (ht : s.Unowned t) :
    (s.addTransaction t).AllOwned := h.addTransaction (ht.ownersIn _)

/-! ### What the searches find -/

theorem callAt_eq_some {c : Nat} {jc : OwnedCall} (h : s.callAt c = some jc) :
    jc ∈ s.jCalls ∧ jc.address = c := by
  have haddress := List.find?_some h
  exact ⟨List.mem_of_find?_eq_some h, by simpa using haddress⟩

theorem hasCall_of_callAt {c : Nat} (h : (s.callAt c).isSome) : s.HasCall c := by
  obtain ⟨jc, hjc⟩ := Option.isSome_iff_exists.1 h
  exact ⟨jc, (callAt_eq_some hjc).1, (callAt_eq_some hjc).2⟩

theorem dialogAt_eq_some {jc : OwnedCall} {d : Nat} {jd : OwnedDialog}
    (h : dialogAt jc d = some jd) : jd ∈ jc.cDialogs ∧ jd.address = d := by
  have haddress := List.find?_some h
  exact ⟨List.mem_of_find?_eq_some h, by simpa using haddress⟩

theorem findInCalls_eq_some {p : OwnedDialog → Bool} {calls : List OwnedCall} {jc : OwnedCall}
    {jd : OwnedDialog} (h : findInCalls p calls = some (jc, jd)) :
    jc ∈ calls ∧ jd ∈ jc.cDialogs := by
  induction calls with
  | nil => cases h
  | cons jc' calls ih =>
      rw [findInCalls] at h
      cases hfind : jc'.cDialogs.find? p with
      | none =>
          rw [hfind] at h
          exact ⟨List.mem_cons_of_mem _ (ih h).1, (ih h).2⟩
      | some jd' =>
          rw [hfind] at h
          cases h
          exact ⟨List.mem_cons_self, List.mem_of_find?_eq_some hfind⟩

theorem transactionOfCall_eq_some {t : Nat} {jc : OwnedCall} {jd : OwnedDialog}
    (h : transactionOfCall t jc = some (some jd)) : jd ∈ jc.cDialogs := by
  unfold transactionOfCall at h
  split at h
  · exact List.mem_of_mem_head? (Option.some.inj h)
  · rw [Option.map_eq_some_iff] at h
    obtain ⟨jd', hfind, heq⟩ := h
    cases heq
    exact List.mem_of_find?_eq_some hfind

theorem callTransactionFind_eq_some {t : Nat} {calls : List OwnedCall} {jc : OwnedCall}
    {jd : OwnedDialog} (h : callTransactionFind t calls = some (jc, some jd)) :
    jc ∈ calls ∧ jd ∈ jc.cDialogs := by
  induction calls with
  | nil => cases h
  | cons jc' calls ih =>
      rw [callTransactionFind] at h
      cases hfind : transactionOfCall t jc' with
      | none =>
          rw [hfind] at h
          exact ⟨List.mem_cons_of_mem _ (ih h).1, (ih h).2⟩
      | some jd' =>
          rw [hfind] at h
          cases h
          exact ⟨List.mem_cons_self, transactionOfCall_eq_some hfind⟩

theorem hasDialog_of_mem {jc : OwnedCall} {jd : OwnedDialog} (hjc : jc ∈ s.jCalls)
    (hjd : jd ∈ jc.cDialogs) : s.HasDialog jc.address jd.address :=
  ⟨jc, hjc, rfl, jd, hjd, rfl⟩

/-! ### Requests of the application -/

theorem AllOwned.callSendInitialInvite (h : s.AllOwned) (now : Int) :
    (s.callSendInitialInvite now).AllOwned := by
  have hunowned := unowned_transactionInit s .invite false .ictPreCalling now
  apply AllOwned.update
  apply AllOwned.setReserved_call
  · apply (h.transactionInit .invite false .ictPreCalling now).addCall
    intro t ht
    cases ht
    exact hunowned.ownersIn _
  · exact ⟨_, List.mem_cons_self, rfl⟩

theorem AllOwned.sendOutOfDialog (h : s.AllOwned) (method : RequestMethod) (now : Int) :
    (s.sendOutOfDialog method now).AllOwned :=
  (h.transactionInit method false .nictPreTrying now).addUnowned
    (unowned_transactionInit s method false .nictPreTrying now)

theorem AllOwned.createTransaction (h : s.AllOwned) {jc : OwnedCall} {jd : OwnedDialog}
    (hdialog : s.HasDialog jc.address jd.address) (method : RequestMethod) (state : State)
    (now : Int) : (s.createTransaction jc jd method state now).AllOwned := by
  have hinit := h.transactionInit method true state now
  have hunowned := unowned_transactionInit s method true state now
  apply (hinit.addOutTr (hunowned.ownersIn _)).setReserved
  have hretained : Retains (fun t => t = s.fresh) s.jCalls
      ((s.transactionInit method true state now).modifyDialog jc.address jd.address
        (OwnedDialog.addOutTr s.fresh)).jCalls := by
    apply retains_modifyDialog (s := s.transactionInit method true state now)
    · intro jd
      rfl
    · intro jd t ht
      simpa [OwnedDialog.trs, OwnedDialog.addOutTr, or_comm, or_assoc, or_left_comm] using ht
  exact hdialog.retains hretained

theorem AllOwned.callSendRequest (h : s.AllOwned) (d : Nat) (method : RequestMethod)
    (now : Int) : (s.callSendRequest d method now).AllOwned := by
  unfold Owners.callSendRequest
  split
  · exact h
  · rename_i jc jd hfind
    have hmem := findInCalls_eq_some hfind
    have hdialog := hasDialog_of_mem hmem.1 hmem.2
    split
    · split
      · exact h
      · exact h.createTransaction hdialog method .ictPreCalling now
    · split
      · exact h
      · exact h.createTransaction hdialog method .nictPreTrying now

theorem AllOwned.callSendPrack (h : s.AllOwned) (t : Nat) (now : Int) :
    (s.callSendPrack t now).AllOwned := by
  unfold Owners.callSendPrack
  split
  · rename_i jc jd hfind
    have hmem := callTransactionFind_eq_some hfind
    split
    · exact h.createTransaction (hasDialog_of_mem hmem.1 hmem.2) .prack .nictPreTrying now
    · exact h
  · exact h

theorem AllOwned.callSendAnswer (h : s.AllOwned) (t : Nat) (status : Int) :
    (s.callSendAnswer t status).AllOwned := by
  unfold Owners.callSendAnswer
  split
  · split
    · exact h
    · split
      · exact (h.setDialog fun jd => ⟨_, rfl⟩).update
      · exact h.update
  · exact h

theorem AllOwned.sendBye (h : s.AllOwned) {jc : OwnedCall} {jd : OwnedDialog}
    (hdialog : s.HasDialog jc.address jd.address) (now : Int) : (s.sendBye jc jd now).AllOwned :=
  ((h.createTransaction hdialog .bye .nictPreTrying now).setDialog fun _ => ⟨_, rfl⟩).update

theorem AllOwned.callTerminateIn (h : s.AllOwned) {jc : OwnedCall} {found : Option OwnedDialog}
    (hdialog : ∀ jd ∈ found, s.HasDialog jc.address jd.address) (now : Int) :
    (s.callTerminateIn jc found now).AllOwned := by
  unfold Owners.callTerminateIn
  dsimp only
  split
  · exact h.sendOutOfDialog .cancel now
  · split
    · exact h
    · split
      · exact h
      · split
        · exact h.update
        · exact h.sendBye (hdialog _ rfl) now

theorem AllOwned.callTerminate (h : s.AllOwned) (c : Nat) (d : Option Nat) (now : Int) :
    (s.callTerminate c d now).AllOwned := by
  unfold Owners.callTerminate
  split
  · rename_i d
    cases hfind : s.callDialogFind d with
    | none => exact h
    | some found =>
        have hmem : found.1 ∈ s.jCalls ∧ found.2 ∈ found.1.cDialogs := findInCalls_eq_some hfind
        apply h.callTerminateIn
        intro jd hjd
        cases hjd
        exact hasDialog_of_mem hmem.1 hmem.2
  · cases s.callAt c with
    | none => exact h
    | some jc =>
        apply h.callTerminateIn
        intro jd hjd
        cases hjd

/-! ### Requests from the network -/

theorem AllOwned.transactionFree (h : s.AllOwned) (t : Nat) : (s.transactionFree t).AllOwned :=
  (h.removeTransaction t).setTr (ownersIn_none rfl rfl)

theorem retains_addIncTr (s : Owners) (c d t : Nat) : Retains (fun t' => t' = t) s.jCalls
    (s.modifyDialog c d (OwnedDialog.addIncTr t)).jCalls := by
  apply retains_modifyDialog
  · intro jd
    rfl
  · intro jd t' ht'
    exact (List.mem_cons.1 ht').symm

theorem AllOwned.processInDialog (h : s.AllOwned) {jc : OwnedCall} {jd : OwnedDialog}
    (hdialog : s.HasDialog jc.address jd.address) {t : Nat} (ht : s.Unowned t) :
    (s.processInDialog jc jd t).AllOwned :=
  (h.addIncTr (ht.ownersIn _)).setReserved
    (hdialog.retains (retains_addIncTr s jc.address jd.address t))

theorem AllOwned.addCancel (h : s.AllOwned) (jc : OwnedCall) (found : Option OwnedDialog)
    {t : Nat} (ht : s.Unowned t) : (s.addCancel jc found t).AllOwned := by
  cases found with
  | none => exact h.addUnowned ht
  | some jd => exact h.addIncTr (ht.ownersIn _)

theorem retains_addCancel (s : Owners) (jc : OwnedCall) (found : Option OwnedDialog) (t : Nat) :
    Retains (fun t' => t' = t) s.jCalls (s.addCancel jc found t).jCalls := by
  cases found with
  | none => exact retains_refl s.jCalls
  | some jd => exact retains_addIncTr s jc.address jd.address t

theorem cancelledIn_eq_some {a : Arrival} {jc : OwnedCall} {tr : Nat} {jd : OwnedDialog}
    (h : cancelledIn a jc = some (tr, some jd)) : jd ∈ jc.cDialogs := by
  unfold cancelledIn at h
  split at h
  · simp only [Option.some.injEq, Prod.mk.injEq] at h
    exact List.mem_of_mem_head? h.2
  · rw [Option.bind_eq_some_iff] at h
    obtain ⟨jd', hfind, h⟩ := h
    rw [Option.map_eq_some_iff] at h
    obtain ⟨tr', -, heq⟩ := h
    cases heq
    exact List.mem_of_find?_eq_some hfind

theorem findCancelled_eq_some {a : Arrival} {calls : List OwnedCall} {jc : OwnedCall} {tr : Nat}
    {found : Option OwnedDialog} (h : findCancelled a calls = some (jc, tr, found)) :
    jc ∈ calls ∧ ∀ jd ∈ found, jd ∈ jc.cDialogs := by
  induction calls with
  | nil => cases h
  | cons jc' calls ih =>
      rw [findCancelled] at h
      cases hfind : cancelledIn a jc' with
      | none =>
          rw [hfind] at h
          exact ⟨List.mem_cons_of_mem _ (ih h).1, (ih h).2⟩
      | some cancelled =>
          rw [hfind] at h
          cases h
          refine ⟨List.mem_cons_self, ?_⟩
          intro jd hjd
          cases hjd
          exact cancelledIn_eq_some hfind

theorem AllOwned.processCancel (h : s.AllOwned) (a : Arrival) {t : Nat} (ht : s.Unowned t) :
    (s.processCancel a t).AllOwned := by
  unfold Owners.processCancel
  split
  · exact h.addUnowned ht
  · rename_i jc tr found hfind
    have hmem := findCancelled_eq_some hfind
    split
    · exact h.addUnowned ht
    · split
      · exact h.addCancel jc found ht
      · have hcancel := h.addCancel jc found ht
        have hretained := retains_addCancel s jc found t
        cases found with
        | none =>
            apply hcancel.setReserved_call
            exact HasCall.retains ⟨jc, hmem.1, rfl⟩ hretained
        | some jd =>
            apply hcancel.setReserved
            exact (hasDialog_of_mem hmem.1 (hmem.2 jd rfl)).retains hretained

theorem AllOwned.processNewInvite (h : s.AllOwned) (a : Arrival) {t : Nat} (ht : s.Unowned t) :
    (s.processNewInvite a t).AllOwned := by
  unfold Owners.processNewInvite
  have hcall : (s.addCall none).AllOwned := h.addCall fun _ hnone => nomatch hnone
  split
  · split
    · exact h.update
    · exact h.addUnowned ht
  · dsimp only
    split
    · exact hcall.addUnowned ht
    · have hnew : (s.addCall none).HasCall s.fresh := ⟨_, List.mem_cons_self, rfl⟩
      have hdialog := hasDialog_addDialog hnew .early
      have howned := ((hcall.addDialog s.fresh .early).setReserved (t := t) hdialog).update
      apply howned.modifyCall
      intro jc
      refine ⟨rfl, fun jd hjd => ⟨jd, hjd, rfl⟩, ?_⟩
      intro t' ht'
      simp only [OwnedCall.trs, Option.toList_some, List.mem_append, List.mem_singleton] at ht' ⊢
      rcases ht' with (heq | ht') | ht'
      · rw [heq]
        apply Or.inr
        apply ownersIn_dialog (s := Owners.update _) (c := s.fresh) (d := (s.addCall none).fresh)
        · exact HasDialog.retains (P := fun _ => False) hdialog (retains_update (Owners.setReserved
            ((s.addCall none).addDialog s.fresh .early) t (some s.fresh)
              (some (s.addCall none).fresh)))
        · exact reserved2_setReserved
        · exact reserved3_setReserved
      · exact Or.inl (Or.inl (Or.inr ht'))
      · exact Or.inl (Or.inr ht')

theorem AllOwned.processBye (h : s.AllOwned) (a : Arrival) {jc : OwnedCall} {jd : OwnedDialog}
    (hdialog : s.HasDialog jc.address jd.address) {t : Nat} (ht : s.Unowned t) :
    (s.processBye a jc jd t).AllOwned := by
  unfold Owners.processBye
  split
  · exact h.processInDialog hdialog ht
  · have hreserved := h.setReserved_call (t := t) hdialog.hasCall
    have howned : OwnersIn (s.setReserved t (some jc.address) none).jCalls
        ((s.setReserved t (some jc.address) none).memory t) := by
      apply ownersIn_call (s := s) hdialog.hasCall
      · exact reserved2_setReserved
      · exact reserved3_setReserved
    dsimp only
    split
    · exact hreserved.addTransaction howned
    · apply AllOwned.update
      apply hreserved.modifyDialog
      · intro jd
        rfl
      · intro jd t' ht'
        cases List.mem_cons.1 ht' with
        | inl heq => exact Or.inr (heq ▸ howned)
        | inr ht' => exact Or.inl ht'

theorem AllOwned.processWithinCall (h : s.AllOwned) (a : Arrival) {jc : OwnedCall}
    {jd : OwnedDialog} (hdialog : s.HasDialog jc.address jd.address) {t : Nat}
    (ht : s.Unowned t) : (s.processWithinCall a jc jd t).AllOwned := by
  unfold Owners.processWithinCall
  dsimp only
  split
  · split
    · exact h.addUnowned ht
    · exact h.processBye a hdialog ht
  · split
    · exact h.addUnowned ht
    · exact h.processInDialog hdialog ht
  · split
    · exact h.addUnowned ht
    · exact h.processInDialog hdialog ht

theorem AllOwned.processTransactionOf (h : s.AllOwned) (a : Arrival) {t : Nat}
    (ht : s.Unowned t) : (s.processTransactionOf a t).AllOwned := by
  unfold Owners.processTransactionOf
  dsimp only
  split
  · exact h.processCancel a ht
  · split
    · exact h.addUnowned ht
    · exact h.addUnowned ht
    · exact h.transactionFree t
    · split
      · exact h.transactionFree t
      · split
        · rename_i jc jd hfind
          have hmem := findInCalls_eq_some hfind
          exact h.processWithinCall a (hasDialog_of_mem hmem.1 hmem.2) ht
        · split
          · exact h.processNewInvite a ht
          · exact h.addUnowned ht

theorem AllOwned.processRequest (h : s.AllOwned) (a : Arrival) (now : Int) :
    (s.processRequest a now).AllOwned := by
  unfold Owners.processRequest
  split
  · exact h
  · exact (h.transactionInit _ _ _ _).processTransactionOf a (unowned_transactionInit _ _ _ _ _)

/-! ### Responses -/

theorem AllOwned.establish (h : s.AllOwned) (t c : Nat) (r : ResponseRead)
    (state : DialogState) : (s.establish t c r state).AllOwned := by
  unfold Owners.establish
  split
  · rename_i hbuilt
    rw [Bool.and_eq_true] at hbuilt
    have hdialog := hasDialog_addDialog (hasCall_of_callAt hbuilt.2) state
    exact ((h.addDialog c state).setReserved hdialog).update
  · exact h

theorem AllOwned.renewExpireTime (h : s.AllOwned) (c : Nat) (r : ResponseRead) (now : Int) :
    (s.renewExpireTime c r now).AllOwned := by
  unfold Owners.renewExpireTime
  split
  · apply h.modifyCall
    intro jc
    exact ⟨rfl, fun jd hjd => ⟨jd, hjd, rfl⟩, fun t ht => Or.inl ht⟩
  · exact h

theorem AllOwned.cbRcv1xxOf (h : s.AllOwned) (t : Nat) (r : ResponseRead) (now : Int) :
    (s.cbRcv1xxOf t r now).AllOwned := by
  unfold Owners.cbRcv1xxOf
  split
  · exact h
  · split
    · exact h
    · split
      · exact (h.establish t _ r .early).renewExpireTime _ r now
      · exact h
    · apply AllOwned.renewExpireTime
      apply h.setDialog
      intro jd
      split
      · exact ⟨_, rfl⟩
      · exact ⟨jd.dDialog, rfl⟩

theorem AllOwned.cbRcv2xxOf (h : s.AllOwned) (t : Nat) (r : ResponseRead) :
    (s.cbRcv2xxOf t r).AllOwned := by
  unfold Owners.cbRcv2xxOf
  split
  · exact h
  · split
    · exact h
    · exact h.establish t _ r .confirmed
    · apply h.setDialog
      intro jd
      split
      · exact ⟨jd.dDialog, rfl⟩
      · split
        · exact ⟨_, rfl⟩
        · exact ⟨_, rfl⟩

theorem AllOwned.deleteEarlyDialog (h : s.AllOwned) (c d : Nat) :
    (s.deleteEarlyDialog c d).AllOwned := by
  unfold Owners.deleteEarlyDialog
  split
  · apply AllOwned.update
    exact h.setDialog fun _ => ⟨none, rfl⟩
  · exact h

theorem AllOwned.cbRcvFailureOf (h : s.AllOwned) (t : Nat) (r : ResponseRead) :
    (s.cbRcvFailureOf t r).AllOwned := by
  unfold Owners.cbRcvFailureOf
  split
  · split
    · exact h.deleteEarlyDialog _ _
    · exact h
  · exact h

theorem AllOwned.rcvResponseOf (h : s.AllOwned) {t : Nat} (ht : t ∈ s.osipTransactions)
    (r : ResponseRead) (now : Int) : (s.rcvResponseOf t r now).AllOwned := by
  have hresponse : (s.setTr t fun tr => { tr with lastResponse := some r.status }).AllOwned :=
    h.setTr (h t (mem_known.2 (Or.inl ht)))
  unfold Owners.rcvResponseOf
  dsimp only
  split
  · exact hresponse.cbRcv1xxOf t r now
  · split
    · exact hresponse.cbRcv2xxOf t r
    · exact hresponse.cbRcvFailureOf t r

end Exosip.Owners
