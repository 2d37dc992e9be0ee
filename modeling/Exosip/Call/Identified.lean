import Exosip.Call.Freeing

/-! The identifiers of the dialogs of calls: whatever makes a dialog, or gives it an
`osip_dialog_t`, goes on to `_eXosip_update`. -/
namespace Exosip.Owners

/-- Each dialog with an `osip_dialog_t` has an identifier. -/
def Identified (s : Owners) : Prop :=
  ∀ jc ∈ s.jCalls, ∀ jd ∈ jc.cDialogs, jd.dDialog.isSome = true → jd.hasId = true

/-- The dialog has the identifier that it had, and no new `osip_dialog_t`. -/
def KeepsId (jd jd' : OwnedDialog) : Prop :=
  jd'.hasId = jd.hasId ∧ (jd'.dDialog.isSome = true → jd.dDialog.isSome = true)

/-- The dialogs of the call are dialogs that it had. -/
def KeepsIds (jc jc' : OwnedCall) : Prop :=
  ∀ jd' ∈ jc'.cDialogs, ∃ jd ∈ jc.cDialogs, KeepsId jd jd'

theorem KeepsId.refl (jd : OwnedDialog) : KeepsId jd jd := ⟨rfl, fun h => h⟩

theorem KeepsIds.refl (jc : OwnedCall) : KeepsIds jc jc :=
  fun jd hjd => ⟨jd, hjd, KeepsId.refl jd⟩

theorem keepsIds_mapDialogs {f : OwnedDialog → OwnedDialog} (hf : ∀ jd, KeepsId jd (f jd))
    (jc : OwnedCall) : KeepsIds jc (jc.mapDialogs f) := by
  intro jd' hjd'
  obtain ⟨jd, hjd, rfl⟩ := List.mem_map.1 hjd'
  exact ⟨jd, hjd, hf jd⟩

variable {s s' : Owners}

theorem Identified.of_keepsIds (h : s.Identified)
    (hcalls : ∀ jc' ∈ s'.jCalls, ∃ jc ∈ s.jCalls, KeepsIds jc jc') : s'.Identified := by
  intro jc' hjc' jd' hjd' hdialog
  obtain ⟨jc, hjc, hkeeps⟩ := hcalls jc' hjc'
  obtain ⟨jd, hjd, hid, hsome⟩ := hkeeps jd' hjd'
  rw [hid]
  exact h jc hjc jd hjd (hsome hdialog)

theorem Identified.of_jCalls (h : s.Identified) (hcalls : s'.jCalls = s.jCalls) :
    s'.Identified := by
  apply h.of_keepsIds
  intro jc hjc
  rw [hcalls] at hjc
  exact ⟨jc, hjc, KeepsIds.refl jc⟩

theorem identified_update (s : Owners) : s.update.Identified := by
  intro jc' hjc' jd' hjd' hdialog
  obtain ⟨jc, -, rfl⟩ := List.mem_map.1 hjc'
  obtain ⟨jd, -, rfl⟩ := List.mem_map.1 hjd'
  exact hdialog

theorem Identified.modifyCall (h : s.Identified) {c : Nat} {f : OwnedCall → OwnedCall}
    (hf : ∀ jc, KeepsIds jc (f jc)) : (s.modifyCall c f).Identified := by
  apply h.of_keepsIds
  intro jc' hjc'
  obtain ⟨jc, hjc, rfl⟩ := List.mem_map.1 hjc'
  refine ⟨jc, hjc, ?_⟩
  split
  · exact hf jc
  · exact KeepsIds.refl jc

theorem Identified.modifyDialog (h : s.Identified) {c d : Nat} {f : OwnedDialog → OwnedDialog}
    (hf : ∀ jd, KeepsId jd (f jd)) : (s.modifyDialog c d f).Identified := by
  apply h.modifyCall
  apply keepsIds_mapDialogs
  intro jd
  split
  · exact hf jd
  · exact KeepsId.refl jd

/-! ### Requests -/

theorem Identified.createTransaction (h : s.Identified) (jc : OwnedCall) (jd : OwnedDialog)
    (method : RequestMethod) (state : State) (now : Int) :
    (s.createTransaction jc jd method state now).Identified := by
  have hinit : (s.transactionInit method true state now).Identified := h.of_jCalls rfl
  have hadded : ((s.transactionInit method true state now).modifyDialog jc.address jd.address
      (OwnedDialog.addOutTr s.fresh)).Identified := hinit.modifyDialog fun jd => KeepsId.refl _
  exact hadded.of_jCalls rfl

theorem Identified.callSendRequest (h : s.Identified) (d : Nat) (method : RequestMethod)
    (now : Int) : (s.callSendRequest d method now).Identified := by
  unfold Owners.callSendRequest
  split
  · exact h
  · split_ifs
    · exact h
    · exact h.createTransaction _ _ _ _ now
    · exact h
    · exact h.createTransaction _ _ _ _ now

theorem Identified.callSendPrack (h : s.Identified) (t : Nat) (now : Int) :
    (s.callSendPrack t now).Identified := by
  unfold Owners.callSendPrack
  split
  · split_ifs
    · exact h.createTransaction _ _ _ _ now
    · exact h
  · exact h

theorem Identified.callSendAnswer (h : s.Identified) (t : Nat) (status : Int) :
    (s.callSendAnswer t status).Identified := by
  unfold Owners.callSendAnswer
  split
  · split_ifs
    · exact h
    · exact identified_update _
    · exact identified_update _
  · exact h

theorem Identified.callTerminateIn (h : s.Identified) (jc : OwnedCall)
    (found : Option OwnedDialog) (now : Int) : (s.callTerminateIn jc found now).Identified := by
  unfold Owners.callTerminateIn
  dsimp only
  split
  · exact h.of_jCalls rfl
  · split
    · exact h
    · split
      · exact h
      · split
        · exact identified_update s
        · exact identified_update _

theorem Identified.callTerminate (h : s.Identified) (c : Nat) (d : Option Nat) (now : Int) :
    (s.callTerminate c d now).Identified := by
  unfold Owners.callTerminate
  split
  · rename_i d
    cases s.callDialogFind d with
    | none => exact h
    | some found => exact h.callTerminateIn found.1 found.2 now
  · cases s.callAt c with
    | none => exact h
    | some jc => exact h.callTerminateIn jc none now

theorem Identified.addIncTr (h : s.Identified) (c d t : Nat) :
    (s.modifyDialog c d (OwnedDialog.addIncTr t)).Identified :=
  h.modifyDialog fun _ => KeepsId.refl _

theorem Identified.addCancel (h : s.Identified) (jc : OwnedCall) (found : Option OwnedDialog)
    (t : Nat) : (s.addCancel jc found t).Identified := by
  cases found with
  | none => exact h.of_jCalls rfl
  | some jd => exact h.addIncTr jc.address jd.address t

theorem Identified.processCancel (h : s.Identified) (a : Arrival) (t : Nat) :
    (s.processCancel a t).Identified := by
  unfold Owners.processCancel
  split
  · exact h.of_jCalls rfl
  · rename_i jc tr found hfind
    split
    · exact h.of_jCalls rfl
    · split
      · exact h.addCancel jc found t
      · exact (h.addCancel jc found t).of_jCalls rfl

theorem Identified.processNewInvite (h : s.Identified) (a : Arrival) (t : Nat) :
    (s.processNewInvite a t).Identified := by
  unfold Owners.processNewInvite
  split
  · split
    · exact identified_update s
    · exact h.of_jCalls rfl
  · dsimp only
    split
    · -- the new call has no dialogs yet
      intro jc hjc jd hjd
      cases List.mem_cons.1 hjc with
      | inl hnew =>
          rw [hnew] at hjd
          cases hjd
      | inr hjc => exact h jc hjc jd hjd
    · apply (identified_update _).modifyCall
      intro jc jd hjd
      exact ⟨jd, hjd, KeepsId.refl jd⟩

theorem Identified.processInDialog (h : s.Identified) (jc : OwnedCall) (jd : OwnedDialog)
    (t : Nat) : (s.processInDialog jc jd t).Identified :=
  (h.addIncTr jc.address jd.address t).of_jCalls rfl

theorem Identified.processBye (h : s.Identified) (a : Arrival) (jc : OwnedCall)
    (jd : OwnedDialog) (t : Nat) : (s.processBye a jc jd t).Identified := by
  unfold Owners.processBye
  split
  · exact h.processInDialog jc jd t
  · dsimp only
    split
    · exact h.of_jCalls rfl
    · exact identified_update _

theorem Identified.processWithinCall (h : s.Identified) (a : Arrival) (jc : OwnedCall)
    (jd : OwnedDialog) (t : Nat) : (s.processWithinCall a jc jd t).Identified := by
  unfold Owners.processWithinCall
  dsimp only
  split
  · split
    · exact h.of_jCalls rfl
    · exact h.processBye a jc jd t
  · split
    · exact h.of_jCalls rfl
    · exact h.processInDialog jc jd t
  · split
    · exact h.of_jCalls rfl
    · exact h.processInDialog jc jd t

theorem Identified.processTransactionOf (h : s.Identified) (a : Arrival) (t : Nat) :
    (s.processTransactionOf a t).Identified := by
  unfold Owners.processTransactionOf
  dsimp only
  split
  · exact h.processCancel a t
  · split
    · exact h.of_jCalls rfl
    · exact h.of_jCalls rfl
    · exact h.of_jCalls rfl
    · split
      · exact h.of_jCalls rfl
      · split
        · exact h.processWithinCall a _ _ t
        · split
          · exact h.processNewInvite a t
          · exact h.of_jCalls rfl

theorem Identified.processRequest (h : s.Identified) (a : Arrival) (now : Int) :
    (s.processRequest a now).Identified := by
  unfold Owners.processRequest
  split
  · exact h
  · have hinit : (s.transactionInit a.method a.toTag
        (if a.method = .invite then State.istPreProceeding else .nistPreTrying) now).Identified :=
      h.of_jCalls rfl
    exact hinit.processTransactionOf a s.fresh

/-! ### Responses -/

theorem Identified.establish (h : s.Identified) (t c : Nat) (r : ResponseRead)
    (state : DialogState) : (s.establish t c r state).Identified := by
  unfold Owners.establish
  split
  · exact identified_update _
  · exact h

theorem Identified.renewExpireTime (h : s.Identified) (c : Nat) (r : ResponseRead)
    (now : Int) : (s.renewExpireTime c r now).Identified := by
  unfold Owners.renewExpireTime
  split
  · apply h.modifyCall
    intro jc jd hjd
    exact ⟨jd, hjd, KeepsId.refl jd⟩
  · exact h

theorem Identified.cbRcv1xxOf (h : s.Identified) (t : Nat) (r : ResponseRead) (now : Int) :
    (s.cbRcv1xxOf t r now).Identified := by
  unfold Owners.cbRcv1xxOf
  split
  · exact h
  · split
    · exact h
    · split
      · exact (h.establish t _ r .early).renewExpireTime _ r now
      · exact h
    · apply Identified.renewExpireTime
      apply h.modifyDialog
      intro jd
      split
      · rename_i hguard
        exact ⟨rfl, fun _ => (Bool.and_eq_true_iff.1 hguard).1⟩
      · exact KeepsId.refl jd

theorem Identified.cbRcv2xxOf (h : s.Identified) (t : Nat) (r : ResponseRead) :
    (s.cbRcv2xxOf t r).Identified := by
  unfold Owners.cbRcv2xxOf
  split
  · exact h
  · split
    · exact h
    · exact h.establish t _ r .confirmed
    · apply h.modifyDialog
      intro jd
      split
      · exact KeepsId.refl jd
      · rename_i hguard
        have hsome : jd.dDialog.isSome = true := by
          rw [Option.isSome_iff_ne_none]
          intro hnone
          rw [hnone] at hguard
          exact hguard rfl
        split
        · exact ⟨rfl, fun _ => hsome⟩
        · exact ⟨rfl, fun _ => hsome⟩

theorem Identified.deleteEarlyDialog (h : s.Identified) (c d : Nat) :
    (s.deleteEarlyDialog c d).Identified := by
  unfold Owners.deleteEarlyDialog
  split
  · exact identified_update _
  · exact h

theorem Identified.cbRcvFailureOf (h : s.Identified) (t : Nat) (r : ResponseRead) :
    (s.cbRcvFailureOf t r).Identified := by
  unfold Owners.cbRcvFailureOf
  split
  · split
    · exact h.deleteEarlyDialog _ _
    · exact h
  · exact h

theorem Identified.rcvResponseOf (h : s.Identified) (t : Nat) (r : ResponseRead) (now : Int) :
    (s.rcvResponseOf t r now).Identified := by
  have hresponse : (s.setTr t fun tr => { tr with lastResponse := some r.status }).Identified :=
    h.of_jCalls rfl
  unfold Owners.rcvResponseOf
  dsimp only
  split
  · exact hresponse.cbRcv1xxOf t r now
  · split
    · exact hresponse.cbRcv2xxOf t r
    · exact hresponse.cbRcvFailureOf t r

/-! ### The release -/

theorem Identified.callRetryRequest (h : s.Identified) (jc : OwnedCall)
    (found : Option OwnedDialog) (outTr : Nat) (now : Int) :
    (s.callRetryRequest jc found outTr now).Identified := by
  unfold Owners.callRetryRequest
  dsimp only
  split
  · exact h
  · split
    · exact identified_update _
    · cases found with
      | none => exact h
      | some jd => exact identified_update _

theorem Identified.freeTransactions (h : s.Identified) (ts : List Nat) :
    (s.freeTransactions ts).Identified := h.of_jCalls (freeTransactions_jCalls s ts)

theorem Identified.dialogsFree (h : s.Identified) (jds : List OwnedDialog) :
    (s.dialogsFree jds).Identified := by
  induction jds generalizing s with
  | nil => exact h
  | cons jd jds ih => exact ih (identified_update _)

theorem Identified.free (h : s.Identified) (jc : OwnedCall) (found : Option OwnedDialog)
    (r : Release) : (s.free jc found r).Identified := by
  cases r with
  | nothing => exact h
  | dialog =>
      cases found with
      | none => exact h
      | some jd => exact identified_update _
  | call =>
      apply Identified.freeTransactions
      apply Identified.dialogsFree
      intro jc' hjc'
      exact h jc' (List.mem_filter.1 hjc').1

theorem keepsIds_removeTransaction (t : Nat) (jc : OwnedCall) :
    KeepsIds jc (jc.removeTransaction t) := by
  unfold OwnedCall.removeTransaction
  split_ifs
  · exact fun jd hjd => ⟨jd, hjd, KeepsId.refl jd⟩
  · apply keepsIds_mapDialogs
    exact fun jd => ⟨rfl, fun hsome => hsome⟩
  · exact fun jd hjd => ⟨jd, hjd, KeepsId.refl jd⟩
  · apply keepsIds_mapDialogs
    exact fun jd => ⟨rfl, fun hsome => hsome⟩

theorem Identified.pendingIn (h : s.Identified) (c : Nat) (tr : Option Nat) (terminated : State)
    (now : Int) : (s.pendingIn c tr terminated now).2.Identified := by
  cases tr with
  | none => exact h
  | some t =>
      unfold Owners.pendingIn
      dsimp only [Option.elim]
      split_ifs
      · exact h
      · have hstack : (s.removeTransaction t).Identified := h.of_jCalls rfl
        have hmoved := hstack.modifyCall (c := c) (keepsIds_removeTransaction t)
        exact hmoved.of_jCalls rfl
      · exact h

theorem Identified.pendingMethod (h : s.Identified) (c d : Nat) (method : RequestMethod)
    (now : Int) : (s.pendingMethod c d method now).2.Identified := by
  unfold Owners.pendingMethod
  dsimp only
  split
  · exact h.pendingIn c _ _ now
  · exact (h.pendingIn c _ _ now).pendingIn c _ _ now

theorem Identified.pendingTransactionExist (h : s.Identified) (c d : Nat) (now : Int) :
    (s.pendingTransactionExist c d now).2.Identified := by
  unfold Owners.pendingTransactionExist
  dsimp only
  have hbye := h.pendingMethod c d .bye now
  split_ifs
  · exact hbye
  · exact hbye
  · exact hbye.pendingMethod c d .refer now

theorem Identified.moveTransaction (h : s.Identified) (c d t : Nat)
    {f : OwnedDialog → OwnedDialog} (hf : ∀ jd, KeepsId jd (f jd)) :
    (s.moveTransaction c d t f).Identified := by
  have hstack : (s.removeTransaction t).Identified := h.of_jCalls rfl
  have hmoved := hstack.modifyDialog (c := c) (d := d) hf
  exact hmoved.of_jCalls rfl

theorem Identified.releaseFinishedTransactions (h : s.Identified) (c d : Nat) (now : Int) :
    (s.releaseFinishedTransactions c d now).2.Identified := by
  unfold Owners.releaseFinishedTransactions
  split
  · exact h
  · rename_i jc jd hfind
    dsimp only
    generalize s.finishedIn jd.dIncTrs .istTerminated .nistTerminated
      (s.findLastIncInvite jc (some jd)) now = inc
    generalize s.finishedIn jd.dOutTrs .ictTerminated .nictTerminated
      (s.findLastOutInvite jc (some jd)) now = out
    have hinc : (inc.elim s fun t =>
        s.moveTransaction c d t (OwnedDialog.removeIncTr t)).Identified := by
      cases inc with
      | none => exact h
      | some t => exact h.moveTransaction c d t fun _ => KeepsId.refl _
    cases out with
    | none => exact hinc
    | some t => exact hinc.moveTransaction c d t fun _ => KeepsId.refl _

theorem releaseTransaction_jCalls (s : Owners) (t : Nat) (now : Int) :
    (s.releaseTransaction t now).jCalls = s.jCalls := by
  unfold releaseTransaction
  dsimp only
  split_ifs <;> rfl

/-! ### Runs -/

theorem Identified.apply (h : s.Identified) (input : OwnerInput) : (s.apply input).Identified := by
  cases input with
  | callSendInitialInvite now => exact identified_update _
  | sendOutOfDialog method now => exact h.of_jCalls rfl
  | callSendRequest d method now => exact h.callSendRequest d method now
  | callSendPrack t now => exact h.callSendPrack t now
  | callSendAnswer t status => exact h.callSendAnswer t status
  | callTerminate c d now => exact h.callTerminate c d now
  | request a now => exact h.processRequest a now
  | transaction t state completedTime =>
      dsimp only [Owners.apply]
      split
      · exact h.of_jCalls rfl
      · exact h
  | response t r now =>
      dsimp only [Owners.apply]
      split
      · exact h.rcvResponseOf t r now
      · exact h
  | kill t => exact h.of_jCalls rfl
  | retry c d outTr now =>
      dsimp only [Owners.apply]
      unfold Owners.retry
      split
      · exact h
      · split
        · exact h.callRetryRequest _ _ outTr now
        · exact h
  | pendingTransactionExist c d now => exact h.pendingTransactionExist c d now
  | releaseFinishedTransactions c d now => exact h.releaseFinishedTransactions c d now
  | release kind c d now =>
      dsimp only [Owners.apply]
      unfold Owners.release
      split
      · exact h
      · exact h.free _ _ _
  | releaseTransaction t now => exact h.of_jCalls (releaseTransaction_jCalls s t now)

theorem identified_run (inputs : List OwnerInput) :
    (Machine.run step start inputs).1.Identified := by
  apply Machine.run_invariant step (I := Identified)
  · intro s input h
    exact h.apply input
  · intro jc hjc
    cases hjc

end Exosip.Owners
