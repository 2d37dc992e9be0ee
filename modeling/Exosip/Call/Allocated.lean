import Exosip.Call.ReleasePass

/-! The objects of a run: what is made gets an address of its own, and a transaction that
leaves one list goes to another. So the release finds the calls as they are in memory. -/
namespace Exosip.Owners

/-- Addresses that were given out, each for one object. -/
structure Given (n : Nat) (l : List Nat) : Prop where
  nodup : l.Nodup
  lt : ∀ a ∈ l, a < n

/-- The objects of the calls are objects of their own. The transactions `ts` have been made and
are in no list yet. -/
structure Allocated (ts : List Nat) (s : Owners) : Prop where
  calls : Given s.fresh (s.jCalls.map OwnedCall.address)
  dialogs : Given s.fresh (s.jCalls.flatMap fun jc => jc.cDialogs.map OwnedDialog.address)
  transactions : Given s.fresh (ts ++ (s.heldTransactions ++ s.jTransactions))

section Given

variable {n : Nat} {l l' : List Nat}

theorem Given.subperm (h : Given n l) (hl : l'.Subperm l) : Given n l' where
  nodup := by
    obtain ⟨l'', hperm, hsub⟩ := hl
    exact hperm.nodup_iff.1 (h.nodup.sublist hsub)
  lt a ha := h.lt a (hl.subset ha)

theorem Given.succ (h : Given n l) : Given (n + 1) l :=
  ⟨h.nodup, fun a ha => Nat.lt_succ_of_lt (h.lt a ha)⟩

theorem Given.cons (h : Given n l) : Given (n + 1) (n :: l) where
  nodup := List.nodup_cons.2 ⟨fun hmem => Nat.lt_irrefl n (h.lt n hmem), h.nodup⟩
  lt a ha := by
    cases List.mem_cons.1 ha with
    | inl heq => rw [heq]; exact Nat.lt_succ_self n
    | inr hmem => exact h.succ.lt a hmem

/-- One element of the list changes what it holds. -/
theorem flatMap_subperm {α : Type} {l : List α} {key : α → Nat} {f g : α → List Nat}
    {ts us : List Nat} (hnodup : (l.map key).Nodup) {x : α} (hx : x ∈ l)
    (hsame : ∀ y ∈ l, key y ≠ key x → g y = f y) (hchange : (us ++ g x).Subperm (ts ++ f x)) :
    (us ++ l.flatMap g).Subperm (ts ++ l.flatMap f) := by
  obtain ⟨l₁, l₂, rfl⟩ := List.append_of_mem hx
  rw [List.map_append, List.map_cons, List.nodup_middle, List.nodup_cons, List.mem_append] at hnodup
  have hbefore : l₁.flatMap g = l₁.flatMap f := by
    apply List.flatMap_congr
    intro y hy
    apply hsame y (List.mem_append_left _ hy)
    intro hkey
    exact hnodup.1 (Or.inl (hkey ▸ List.mem_map_of_mem hy))
  have hbehind : l₂.flatMap g = l₂.flatMap f := by
    apply List.flatMap_congr
    intro y hy
    apply hsame y (List.mem_append_right _ (List.mem_cons_of_mem x hy))
    intro hkey
    exact hnodup.1 (Or.inr (hkey ▸ List.mem_map_of_mem hy))
  rw [List.flatMap_append, List.flatMap_append, List.flatMap_cons, List.flatMap_cons, hbefore,
    hbehind]
  rw [List.subperm_ext_iff]
  intro a _
  have hcount := hchange.count_le a
  simp only [List.count_append] at hcount ⊢
  omega

theorem flatMap_subperm_at {α : Type} {l : List α} {key : α → Nat} {f g : α → List Nat}
    {ts : List Nat} (hnodup : (l.map key).Nodup) (k : Nat)
    (hsame : ∀ y ∈ l, key y ≠ k → g y = f y)
    (hchange : ∀ x ∈ l, key x = k → (g x).Subperm (ts ++ f x)) :
    (l.flatMap g).Subperm (ts ++ l.flatMap f) := by
  by_cases hkey : ∃ x ∈ l, key x = k
  · obtain ⟨x, hx, rfl⟩ := hkey
    exact @flatMap_subperm _ _ _ _ _ ts [] hnodup x hx hsame (hchange x hx rfl)
  · rw [List.flatMap_congr fun y hy => hsame y hy fun heq => hkey ⟨y, hy, heq⟩]
    exact (List.sublist_append_right _ _).subperm

end Given

variable {s s' : Owners} {t : Nat} {ts : List Nat}

/-- With the identifiers, this is what the release asks of its start. -/
theorem Allocated.sound (h : s.Allocated []) (hids : s.Identified) : s.Sound :=
  ⟨h.calls.nodup, h.dialogs.nodup, h.transactions.nodup, hids⟩

theorem Allocated.of_lists (h : s.Allocated ts) (hcalls : s'.jCalls = s.jCalls)
    (hgarbage : s'.jTransactions.Perm s.jTransactions) (hfresh : s'.fresh = s.fresh) :
    s'.Allocated ts where
  calls := by
    rw [hcalls, hfresh]
    exact h.calls
  dialogs := by
    rw [hcalls, hfresh]
    exact h.dialogs
  transactions := by
    rw [heldTransactions, hcalls, hfresh]
    exact h.transactions.subperm ((hgarbage.append_left _).append_left _).subperm

/-- What is in no list is lost. -/
theorem Allocated.forget (h : s.Allocated ts) : s.Allocated [] :=
  ⟨h.calls, h.dialogs, h.transactions.subperm (List.sublist_append_right _ _).subperm⟩

theorem Allocated.setTr (h : s.Allocated ts) (t : Nat) (f : OwnedTr → OwnedTr) :
    (s.setTr t f).Allocated ts := h.of_lists rfl (List.Perm.refl _) rfl

theorem Allocated.setReserved (h : s.Allocated ts) (t : Nat) (c d : Option Nat) :
    (s.setReserved t c d).Allocated ts := h.setTr t _

theorem Allocated.transactionInit (h : s.Allocated ts) (method : RequestMethod) (toTag : Bool)
    (state : State) (now : Int) :
    (s.transactionInit method toTag state now).Allocated (s.fresh :: ts) :=
  ⟨h.calls.succ, h.dialogs.succ, h.transactions.cons⟩

theorem Allocated.addTransaction (h : s.Allocated (t :: ts)) :
    (s.addTransaction t).Allocated ts := by
  refine ⟨h.calls, h.dialogs, h.transactions.subperm (List.Perm.subperm ?_)⟩
  have hmoved : (ts ++ (s.heldTransactions ++ t :: s.jTransactions)).Perm
      (ts ++ t :: (s.heldTransactions ++ s.jTransactions)) := List.perm_middle.append_left ts
  exact hmoved.trans List.perm_middle

theorem Allocated.transactionFree (h : s.Allocated ts) (t : Nat) :
    (s.transactionFree t).Allocated ts := h.of_lists rfl (List.Perm.refl _) rfl

/-! ### Changes of a call -/

/-- The dialogs of a call stay, and so do the transactions. -/
structure SameLists (jc jc' : OwnedCall) : Prop where
  address : jc'.address = jc.address
  dialogs : jc'.cDialogs.map OwnedDialog.address = jc.cDialogs.map OwnedDialog.address
  trs : jc'.trs = jc.trs

theorem SameLists.refl (jc : OwnedCall) : SameLists jc jc := ⟨rfl, rfl, rfl⟩

theorem sameLists_mapDialogs {f : OwnedDialog → OwnedDialog}
    (hf : ∀ jd, (f jd).address = jd.address ∧ (f jd).trs = jd.trs) (jc : OwnedCall) :
    SameLists jc (jc.mapDialogs f) where
  address := rfl
  dialogs := by
    rw [OwnedCall.mapDialogs, List.map_map]
    exact List.map_congr_left fun jd _ => (hf jd).1
  trs := by
    rw [OwnedCall.trs, OwnedCall.mapDialogs, List.flatMap_map, OwnedCall.trs]
    congr 1
    exact List.flatMap_congr fun jd _ => (hf jd).2

theorem map_address {calls : List OwnedCall} {f : OwnedCall → OwnedCall}
    (hf : ∀ jc, (f jc).address = jc.address) :
    (calls.map f).map OwnedCall.address = calls.map OwnedCall.address := by
  rw [List.map_map]
  exact List.map_congr_left fun jc _ => hf jc

theorem Allocated.mapCalls (h : s.Allocated ts) {f : OwnedCall → OwnedCall}
    (hf : ∀ jc, SameLists jc (f jc)) : (s.mapCalls f).Allocated ts where
  calls := by
    unfold Owners.mapCalls
    rw [map_address fun jc => (hf jc).address]
    exact h.calls
  dialogs := by
    unfold Owners.mapCalls
    rw [List.flatMap_map]
    rw [List.flatMap_congr fun jc _ => (hf jc).dialogs]
    exact h.dialogs
  transactions := by
    unfold Owners.mapCalls heldTransactions
    rw [List.flatMap_map]
    rw [List.flatMap_congr fun jc _ => (hf jc).trs]
    exact h.transactions

theorem Allocated.update (h : s.Allocated ts) : s.update.Allocated ts :=
  h.mapCalls (sameLists_mapDialogs fun _ => ⟨rfl, rfl⟩)

theorem Allocated.modifySame (h : s.Allocated ts) (c : Nat) {f : OwnedCall → OwnedCall}
    (hf : ∀ jc, SameLists jc (f jc)) : (s.modifyCall c f).Allocated ts := by
  apply h.mapCalls
  intro jc
  split
  · exact hf jc
  · exact SameLists.refl jc

theorem Allocated.setDialog (h : s.Allocated ts) (c d : Nat) {f : OwnedDialog → OwnedDialog}
    (hf : ∀ jd, (f jd).address = jd.address ∧ (f jd).trs = jd.trs) :
    (s.modifyDialog c d f).Allocated ts := by
  apply h.modifySame
  apply sameLists_mapDialogs
  intro jd
  split
  · exact hf jd
  · exact ⟨rfl, rfl⟩

theorem same_setDialog (dDialog : Option DialogState) (jd : OwnedDialog) :
    (jd.setDialog dDialog).address = jd.address ∧ (jd.setDialog dDialog).trs = jd.trs := ⟨rfl, rfl⟩

/-- The call takes transactions from `ts`, and gives `us` away. -/
theorem Allocated.exchange (h : s.Allocated ts) {c : Nat} {f : OwnedCall → OwnedCall}
    {us : List Nat} (haddress : ∀ jc, (f jc).address = jc.address)
    (hdialogs : ∀ jc ∈ s.jCalls, jc.address = c →
      ((f jc).cDialogs.map OwnedDialog.address).Subperm (jc.cDialogs.map OwnedDialog.address))
    (htrs : ∀ jc ∈ s.jCalls, jc.address = c → (us ++ (f jc).trs).Subperm (ts ++ jc.trs))
    (hcall : s.HasCall c) : (s.modifyCall c f).Allocated us := by
  obtain ⟨jc, hjc, rfl⟩ := hcall
  have hfixed : ∀ jc' : OwnedCall, (if jc'.address = jc.address then f jc' else jc').address =
      jc'.address := by
    intro jc'
    split
    · exact haddress jc'
    · rfl
  refine ⟨?_, ?_, ?_⟩
  · unfold Owners.modifyCall Owners.mapCalls
    rw [map_address hfixed]
    exact h.calls
  · unfold Owners.modifyCall Owners.mapCalls
    rw [List.flatMap_map]
    apply h.dialogs.subperm
    refine @flatMap_subperm _ _ _ _ _ [] [] h.calls.nodup jc hjc ?_ ?_
    · intro jc' _ hne
      rw [if_neg hne]
    · rw [if_pos rfl]
      exact hdialogs jc hjc rfl
  · unfold Owners.modifyCall Owners.mapCalls heldTransactions
    rw [List.flatMap_map]
    apply h.transactions.subperm
    rw [← List.append_assoc, ← List.append_assoc]
    refine (List.subperm_append_right _).2 (flatMap_subperm h.calls.nodup hjc ?_ ?_)
    · intro jc' _ hne
      rw [if_neg hne]
    · rw [if_pos rfl]
      exact htrs jc hjc rfl

theorem Allocated.modifyCall (h : s.Allocated ts) {c : Nat} {f : OwnedCall → OwnedCall}
    (haddress : ∀ jc, (f jc).address = jc.address)
    (hdialogs : ∀ jc ∈ s.jCalls, jc.address = c →
      ((f jc).cDialogs.map OwnedDialog.address).Subperm (jc.cDialogs.map OwnedDialog.address))
    (htrs : ∀ jc ∈ s.jCalls, jc.address = c → (f jc).trs.Subperm (ts ++ jc.trs)) :
    (s.modifyCall c f).Allocated [] := by
  by_cases hcall : s.HasCall c
  · exact h.exchange haddress hdialogs htrs hcall
  · have hsame : (s.modifyCall c f).jCalls = s.jCalls := by
      calc s.jCalls.map (fun jc => if jc.address = c then f jc else jc)
          = s.jCalls.map id := by
            apply List.map_congr_left
            intro jc hjc
            rw [if_neg fun heq => hcall ⟨jc, hjc, heq⟩, id]
        _ = s.jCalls := List.map_id _
    exact h.forget.of_lists hsame (List.Perm.refl _) rfl

/-- A transaction that has been made is listed by a dialog. -/
theorem Allocated.addTr (h : s.Allocated [t]) (c d : Nat) {f : OwnedDialog → OwnedDialog}
    (hf : ∀ jd, (f jd).address = jd.address ∧ (f jd).trs.Perm (t :: jd.trs)) :
    (s.modifyDialog c d f).Allocated [] := by
  apply h.modifyCall
  · intro jc
    rfl
  · intro jc _ _
    have hsame : (jc.modifyDialog d f).cDialogs.map OwnedDialog.address =
        jc.cDialogs.map OwnedDialog.address := by
      rw [OwnedCall.modifyDialog, OwnedCall.mapDialogs, List.map_map]
      apply List.map_congr_left
      intro jd _
      rw [Function.comp_apply]
      split
      · exact (hf jd).1
      · rfl
    rw [hsame]
  · intro jc hjc _
    have hnodup := (List.nodup_flatMap.1 h.dialogs.nodup).1 jc hjc
    have hlisted : ((jc.modifyDialog d f).cDialogs.flatMap OwnedDialog.trs).Subperm
        ([t] ++ jc.cDialogs.flatMap OwnedDialog.trs) := by
      rw [OwnedCall.modifyDialog, OwnedCall.mapDialogs, List.flatMap_map]
      apply flatMap_subperm_at hnodup d
      · intro jd _ hne
        rw [if_neg hne]
      · intro jd _ heq
        rw [if_pos heq]
        exact (hf jd).2.subperm
    have hmiddle : ((jc.cIncTr.toList ++ jc.cOutTr.toList) ++
        ([t] ++ jc.cDialogs.flatMap OwnedDialog.trs)).Perm ([t] ++ jc.trs) := List.perm_middle
    exact ((List.subperm_append_left _).2 hlisted).trans hmiddle.subperm

theorem Allocated.addCall {outTr : Option Nat} (h : s.Allocated (outTr.toList ++ ts)) :
    (s.addCall outTr).Allocated ts where
  calls := h.calls.cons
  dialogs := h.dialogs.succ
  transactions := by
    apply h.transactions.succ.subperm
    apply List.Perm.subperm
    rw [List.perm_iff_count]
    intro a
    simp only [heldTransactions, Owners.addCall, OwnedCall.trs, List.flatMap_cons,
      List.count_append, Option.toList_none, List.count_nil, List.flatMap_nil]
    omega

theorem Allocated.addDialog (h : s.Allocated ts) (c : Nat) (state : DialogState) :
    (s.addDialog c state).Allocated ts where
  calls := by
    unfold Owners.addDialog Owners.modifyCall Owners.mapCalls
    rw [map_address]
    · exact h.calls.succ
    · intro jc
      split <;> rfl
  dialogs := by
    unfold Owners.addDialog Owners.modifyCall Owners.mapCalls
    rw [List.flatMap_map]
    apply h.dialogs.cons.subperm
    refine @flatMap_subperm_at _ _ _ _ _ [s.fresh] h.calls.nodup c ?_ ?_
    · intro jc _ hne
      rw [if_neg hne]
    · intro jc _ heq
      rw [if_pos heq]
      exact List.Subperm.refl _
  transactions := by
    unfold Owners.addDialog Owners.modifyCall Owners.mapCalls heldTransactions
    rw [List.flatMap_map]
    rw [List.flatMap_congr (g := OwnedCall.trs)]
    · exact h.transactions.succ
    · intro jc _
      split <;> rfl

/-! ### Requests -/

theorem perm_addIncTr (jd : OwnedDialog) (t : Nat) :
    (jd.addIncTr t).address = jd.address ∧ (jd.addIncTr t).trs.Perm (t :: jd.trs) :=
  ⟨rfl, List.Perm.refl _⟩

theorem perm_addOutTr (jd : OwnedDialog) (t : Nat) :
    (jd.addOutTr t).address = jd.address ∧ (jd.addOutTr t).trs.Perm (t :: jd.trs) :=
  ⟨rfl, List.perm_middle⟩

theorem Allocated.callSendInitialInvite (h : s.Allocated []) (now : Int) :
    (s.callSendInitialInvite now).Allocated [] := by
  have hinit := h.transactionInit .invite false .ictPreCalling now
  have hcall := @Allocated.addCall _ [] (some s.fresh) hinit
  exact (hcall.setReserved _ _ _).update

theorem Allocated.sendOutOfDialog (h : s.Allocated []) (method : RequestMethod) (now : Int) :
    (s.sendOutOfDialog method now).Allocated [] :=
  (h.transactionInit method false .nictPreTrying now).addTransaction

theorem Allocated.createTransaction (h : s.Allocated []) (jc : OwnedCall) (jd : OwnedDialog)
    (method : RequestMethod) (state : State) (now : Int) :
    (s.createTransaction jc jd method state now).Allocated [] := by
  have hinit := h.transactionInit method true state now
  exact (hinit.addTr jc.address jd.address fun jd => perm_addOutTr jd s.fresh).setReserved _ _ _

theorem Allocated.callSendRequest (h : s.Allocated []) (d : Nat) (method : RequestMethod)
    (now : Int) : (s.callSendRequest d method now).Allocated [] := by
  unfold Owners.callSendRequest
  split
  · exact h
  · split_ifs
    · exact h
    · exact h.createTransaction _ _ _ _ now
    · exact h
    · exact h.createTransaction _ _ _ _ now

theorem Allocated.callSendPrack (h : s.Allocated []) (t : Nat) (now : Int) :
    (s.callSendPrack t now).Allocated [] := by
  unfold Owners.callSendPrack
  split
  · split_ifs
    · exact h.createTransaction _ _ _ _ now
    · exact h
  · exact h

theorem Allocated.callSendAnswer (h : s.Allocated []) (t : Nat) (status : Int) :
    (s.callSendAnswer t status).Allocated [] := by
  unfold Owners.callSendAnswer
  split
  · split_ifs
    · exact h
    · exact (h.setDialog _ _ (same_setDialog (some .confirmed))).update
    · exact h.update
  · exact h

theorem Allocated.callTerminateIn (h : s.Allocated []) (jc : OwnedCall)
    (found : Option OwnedDialog) (now : Int) :
    (s.callTerminateIn jc found now).Allocated [] := by
  unfold Owners.callTerminateIn
  dsimp only
  split
  · exact h.sendOutOfDialog .cancel now
  · split
    · exact h
    · split
      · exact h
      · split
        · exact h.update
        · rename_i jd _ _ _
          have hbye := h.createTransaction jc jd .bye .nictPreTrying now
          exact (hbye.setDialog _ _ (same_setDialog none)).update

theorem Allocated.callTerminate (h : s.Allocated []) (c : Nat) (d : Option Nat) (now : Int) :
    (s.callTerminate c d now).Allocated [] := by
  unfold Owners.callTerminate
  split
  · rename_i d
    cases s.callDialogFind d with
    | none => exact h
    | some found => exact h.callTerminateIn found.1 found.2 now
  · cases s.callAt c with
    | none => exact h
    | some jc => exact h.callTerminateIn jc none now

theorem Allocated.addCancel (h : s.Allocated [t]) (jc : OwnedCall) (found : Option OwnedDialog) :
    (s.addCancel jc found t).Allocated [] := by
  cases found with
  | none => exact h.addTransaction
  | some jd => exact h.addTr jc.address jd.address fun jd => perm_addIncTr jd t

theorem Allocated.processCancel (h : s.Allocated [t]) (a : Arrival) :
    (s.processCancel a t).Allocated [] := by
  unfold Owners.processCancel
  split
  · exact h.addTransaction
  · rename_i jc tr found hfind
    split
    · exact h.addTransaction
    · split
      · exact h.addCancel jc found
      · exact (h.addCancel jc found).setReserved _ _ _

theorem Allocated.processNewInvite (h : s.Allocated [t]) (a : Arrival) :
    (s.processNewInvite a t).Allocated [] := by
  unfold Owners.processNewInvite
  split
  · split
    · exact h.forget.update
    · exact h.addTransaction
  · dsimp only
    have hcall : (s.addCall none).Allocated [t] := @Allocated.addCall _ [t] none h
    split
    · exact hcall.addTransaction
    · have hdialog := ((hcall.addDialog s.fresh .early).setReserved t (some s.fresh)
        (some (s.addCall none).fresh)).update
      apply hdialog.modifyCall
      · intro jc
        rfl
      · intro jc _ _
        exact List.Subperm.refl _
      · intro jc _ _
        have hown : (jc.cOutTr.toList ++ jc.cDialogs.flatMap OwnedDialog.trs).Sublist jc.trs := by
          rw [OwnedCall.trs, List.append_assoc]
          exact List.sublist_append_right _ _
        have hset : OwnedCall.trs { jc with cIncTr := some t } =
            t :: (jc.cOutTr.toList ++ jc.cDialogs.flatMap OwnedDialog.trs) := rfl
        rw [hset]
        exact (hown.cons_cons t).subperm

theorem Allocated.processInDialog (h : s.Allocated [t]) (jc : OwnedCall) (jd : OwnedDialog) :
    (s.processInDialog jc jd t).Allocated [] :=
  (h.addTr jc.address jd.address fun jd => perm_addIncTr jd t).setReserved _ _ _

theorem Allocated.processBye (h : s.Allocated [t]) (a : Arrival) (jc : OwnedCall)
    (jd : OwnedDialog) : (s.processBye a jc jd t).Allocated [] := by
  unfold Owners.processBye
  split
  · exact h.processInDialog jc jd
  · dsimp only
    have howned := h.setReserved t (some jc.address) none
    split
    · exact howned.addTransaction
    · apply Allocated.update
      exact howned.addTr jc.address jd.address fun jd => ⟨rfl, List.Perm.refl (t :: jd.trs)⟩

theorem Allocated.processWithinCall (h : s.Allocated [t]) (a : Arrival) (jc : OwnedCall)
    (jd : OwnedDialog) : (s.processWithinCall a jc jd t).Allocated [] := by
  unfold Owners.processWithinCall
  dsimp only
  split
  · split
    · exact h.addTransaction
    · exact h.processBye a jc jd
  · split
    · exact h.addTransaction
    · exact h.processInDialog jc jd
  · split
    · exact h.addTransaction
    · exact h.processInDialog jc jd

theorem Allocated.processTransactionOf (h : s.Allocated [t]) (a : Arrival) :
    (s.processTransactionOf a t).Allocated [] := by
  unfold Owners.processTransactionOf
  dsimp only
  split
  · exact h.processCancel a
  · split
    · exact h.addTransaction
    · exact h.addTransaction
    · exact h.forget.transactionFree t
    · split
      · exact h.forget.transactionFree t
      · split
        · exact h.processWithinCall a _ _
        · split
          · exact h.processNewInvite a
          · exact h.addTransaction

theorem Allocated.processRequest (h : s.Allocated []) (a : Arrival) (now : Int) :
    (s.processRequest a now).Allocated [] := by
  unfold Owners.processRequest
  split
  · exact h
  · exact (h.transactionInit a.method a.toTag _ now).processTransactionOf a

/-! ### Responses -/

theorem Allocated.establish (h : s.Allocated []) (t c : Nat) (r : ResponseRead)
    (state : DialogState) : (s.establish t c r state).Allocated [] := by
  unfold Owners.establish
  split
  · exact ((h.addDialog c state).setReserved _ _ _).update
  · exact h

theorem Allocated.renewExpireTime (h : s.Allocated []) (c : Nat) (r : ResponseRead)
    (now : Int) : (s.renewExpireTime c r now).Allocated [] := by
  unfold Owners.renewExpireTime
  split
  · exact h.modifySame c fun _ => ⟨rfl, rfl, rfl⟩
  · exact h

theorem Allocated.cbRcv1xxOf (h : s.Allocated []) (t : Nat) (r : ResponseRead) (now : Int) :
    (s.cbRcv1xxOf t r now).Allocated [] := by
  unfold Owners.cbRcv1xxOf
  split
  · exact h
  · split
    · exact h
    · split
      · exact (h.establish t _ r .early).renewExpireTime _ r now
      · exact h
    · apply Allocated.renewExpireTime
      apply h.setDialog
      intro jd
      split
      · exact ⟨rfl, rfl⟩
      · exact ⟨rfl, rfl⟩

theorem Allocated.cbRcv2xxOf (h : s.Allocated []) (t : Nat) (r : ResponseRead) :
    (s.cbRcv2xxOf t r).Allocated [] := by
  unfold Owners.cbRcv2xxOf
  split
  · exact h
  · split
    · exact h
    · exact h.establish t _ r .confirmed
    · apply h.setDialog
      intro jd
      split
      · exact ⟨rfl, rfl⟩
      · split
        · exact ⟨rfl, rfl⟩
        · exact ⟨rfl, rfl⟩

theorem Allocated.cbRcvFailureOf (h : s.Allocated []) (t : Nat) (r : ResponseRead) :
    (s.cbRcvFailureOf t r).Allocated [] := by
  unfold Owners.cbRcvFailureOf Owners.deleteEarlyDialog
  split
  · split_ifs
    · exact (h.setDialog _ _ (same_setDialog none)).update
    · exact h
    · exact h
  · exact h

theorem Allocated.rcvResponseOf (h : s.Allocated []) (t : Nat) (r : ResponseRead) (now : Int) :
    (s.rcvResponseOf t r now).Allocated [] := by
  have hresponse := h.setTr t fun tr => { tr with lastResponse := some r.status }
  unfold Owners.rcvResponseOf
  dsimp only
  split
  · exact hresponse.cbRcv1xxOf t r now
  · split
    · exact hresponse.cbRcv2xxOf t r
    · exact hresponse.cbRcvFailureOf t r

/-! ### The retry -/

theorem Allocated.freeTransactions (h : s.Allocated ts) :
    (s.freeTransactions ts).Allocated [] := by
  induction ts generalizing s with
  | nil => exact h
  | cons t ts ih => exact ih (h.setTr t OwnedTr.deleteReserved).addTransaction

theorem Allocated.removeDialog (h : s.Allocated []) {jc : OwnedCall} {jd : OwnedDialog}
    (hjc : jc ∈ s.jCalls) (hjd : jd ∈ jc.cDialogs) : (s.removeDialog jc jd).Allocated [] := by
  have hremoved :
      (s.modifyCall jc.address (OwnedCall.removeDialog jd.address)).Allocated jd.trs := by
    apply h.exchange
    · intro jc
      rfl
    · intro jc' _ _
      exact (List.filter_sublist.map _).subperm
    · intro jc' hjc' haddress
      have hsame := List.inj_on_of_nodup_map h.calls.nodup hjc' hjc haddress
      subst hsame
      obtain ⟨before, behind, hsplit⟩ := List.append_of_mem hjd
      have hkept : ((jc'.removeDialog jd.address).cDialogs.flatMap OwnedDialog.trs).Sublist
          ((before ++ behind).flatMap OwnedDialog.trs) := by
        rw [OwnedCall.removeDialog, hsplit, List.filter_append, List.filter_cons_of_neg (by simp),
          ← List.filter_append]
        exact flatMap_filter_sublist fun _ => List.Sublist.refl _
      have hparts : (jd.trs ++ ((jc'.cIncTr.toList ++ jc'.cOutTr.toList) ++
          (before ++ behind).flatMap OwnedDialog.trs)).Perm jc'.trs := by
        rw [OwnedCall.trs, hsplit, List.flatMap_append, List.flatMap_append, List.flatMap_cons,
          List.perm_iff_count]
        intro a
        simp only [List.count_append]
        omega
      exact ((hkept.append_left _).append_left _).subperm.trans hparts.subperm
    · exact ⟨jc, hjc, rfl⟩
  exact hremoved.freeTransactions.update

theorem Allocated.replaceRequest (h : s.Allocated []) {jc : OwnedCall} (hjc : jc ∈ s.jCalls)
    {outTr : Nat} (hout : jc.cOutTr = some outTr) (state : State) (now : Int) :
    (s.replaceRequest jc outTr state now).Allocated [] := by
  have hinit := h.transactionInit (s.memory outTr).method (s.memory outTr).toTag state now
  have hreplaced : ((s.transactionInit (s.memory outTr).method (s.memory outTr).toTag state
      now).modifyCall jc.address fun jc => { jc with cOutTr := some s.fresh }).Allocated [outTr] := by
    apply hinit.exchange
    · intro jc
      rfl
    · intro jc' _ _
      exact List.Subperm.refl _
    · intro jc' hjc' haddress
      have hsame := List.inj_on_of_nodup_map h.calls.nodup hjc' hjc haddress
      subst hsame
      apply List.Perm.subperm
      rw [List.perm_iff_count]
      intro a
      simp only [OwnedCall.trs, hout, Option.toList_some, List.count_append]
      omega
    · exact ⟨jc, hjc, rfl⟩
  exact hreplaced.addTransaction

theorem Allocated.callRetryRequest (h : s.Allocated []) {jc : OwnedCall} (hjc : jc ∈ s.jCalls)
    {found : Option OwnedDialog} (hfound : ∀ jd ∈ found, jd ∈ jc.cDialogs) (outTr : Nat)
    (now : Int) : (s.callRetryRequest jc found outTr now).Allocated [] := by
  unfold Owners.callRetryRequest
  dsimp only
  split
  · exact h
  · split
    · rename_i hout
      apply Allocated.update
      apply Allocated.setReserved
      have hreplaced := h.replaceRequest hjc hout
        (if (s.memory outTr).method = .invite then State.ictPreCalling else .nictPreTrying) now
      cases found with
      | none => exact hreplaced
      | some jd =>
          have hnew : { jc with cOutTr := some s.fresh } ∈ (s.replaceRequest jc outTr
              (if (s.memory outTr).method = .invite then State.ictPreCalling else .nictPreTrying)
              now).jCalls := List.mem_map.2 ⟨jc, hjc, if_pos rfl⟩
          have hremoved := hreplaced.removeDialog hnew (hfound jd rfl)
          exact hremoved
    · cases found with
      | none => exact h
      | some jd => exact (h.createTransaction jc jd _ _ now).update

/-! ### The release -/

theorem Allocated.of_within (h : s.Allocated []) (hsound : s'.Sound)
    (hwithin : ∀ jc' ∈ s'.jCalls, ∃ jc ∈ s.jCalls, WithinCall jc jc')
    (hperm : (s'.heldTransactions ++ s'.jTransactions).Perm
      (s.heldTransactions ++ s.jTransactions)) (hfresh : s'.fresh = s.fresh) :
    s'.Allocated [] where
  calls := by
    refine ⟨hsound.calls, ?_⟩
    intro c hc
    obtain ⟨jc', hjc', rfl⟩ := List.mem_map.1 hc
    obtain ⟨jc, hjc, hsame⟩ := hwithin jc' hjc'
    rw [hsame.address, hfresh]
    exact h.calls.lt _ (List.mem_map_of_mem hjc)
  dialogs := by
    refine ⟨hsound.dialogs, ?_⟩
    intro d hd
    obtain ⟨jc', hjc', hd⟩ := List.mem_flatMap.1 hd
    obtain ⟨jd', hjd', rfl⟩ := List.mem_map.1 hd
    obtain ⟨jc, hjc, hsame⟩ := hwithin jc' hjc'
    obtain ⟨jd, hjd, haddress, -⟩ := hsame.dialogs jd' hjd'
    rw [haddress, hfresh]
    exact h.dialogs.lt _ (List.mem_flatMap.2 ⟨jc, hjc, List.mem_map_of_mem hjd⟩)
  transactions := by
    rw [hfresh]
    exact h.transactions.subperm hperm.subperm

theorem Allocated.of_keeps {p p' : ReleasePass} (h : p.owners.Allocated []) (hkeeps : Keeps p p')
    (hfresh : p'.owners.fresh = p.owners.fresh) : p'.owners.Allocated [] :=
  h.of_within hkeeps.passes.sound hkeeps.passes.within hkeeps.passes.transactions hfresh

theorem freeTransactions_fresh (s : Owners) (ts : List Nat) :
    (s.freeTransactions ts).fresh = s.fresh := by
  induction ts generalizing s with
  | nil => rfl
  | cons t ts ih => exact ih _

theorem dialogsFree_fresh (s : Owners) (jds : List OwnedDialog) :
    (s.dialogsFree jds).fresh = s.fresh := by
  induction jds generalizing s with
  | nil => rfl
  | cons jd jds ih => exact (ih _).trans (freeTransactions_fresh s jd.trs)

theorem pendingIn_fresh (s : Owners) (c : Nat) (tr : Option Nat) (terminated : State)
    (now : Int) : (s.pendingIn c tr terminated now).2.fresh = s.fresh := by
  cases tr with
  | none => rfl
  | some t =>
      unfold pendingIn
      dsimp only [Option.elim]
      split_ifs <;> rfl

theorem pendingMethod_fresh (s : Owners) (c d : Nat) (method : RequestMethod) (now : Int) :
    (s.pendingMethod c d method now).2.fresh = s.fresh := by
  unfold pendingMethod
  dsimp only
  split
  · exact pendingIn_fresh s c _ _ now
  · exact (pendingIn_fresh _ c _ _ now).trans (pendingIn_fresh s c _ _ now)

theorem pendingTransactionExist_fresh (s : Owners) (c d : Nat) (now : Int) :
    (s.pendingTransactionExist c d now).2.fresh = s.fresh := by
  unfold pendingTransactionExist
  dsimp only
  have hbye := pendingMethod_fresh s c d .bye now
  split_ifs
  · exact hbye
  · exact hbye
  · exact (pendingMethod_fresh _ c d .refer now).trans hbye

theorem releaseFinishedTransactions_fresh (s : Owners) (c d : Nat) (now : Int) :
    (s.releaseFinishedTransactions c d now).2.fresh = s.fresh := by
  unfold releaseFinishedTransactions
  split
  · rfl
  · dsimp only
    cases s.finishedIn _ .istTerminated .nistTerminated _ now with
    | none => cases s.finishedIn _ .ictTerminated .nictTerminated _ now <;> rfl
    | some t => cases s.finishedIn _ .ictTerminated .nictTerminated _ now <;> rfl

theorem Allocated.removeDialogReference (h : s.Allocated []) (jc : OwnedCall) (jd : OwnedDialog) :
    (s.removeDialogReference jc jd).Allocated [] := by
  have hforget : ∀ {s : Owners}, s.Allocated [] →
      ∀ tr, (s.forgetDialog jd.address tr).Allocated [] := by
    intro s h tr
    cases tr with
    | none => exact h
    | some t =>
        unfold forgetDialog Option.elim
        dsimp only
        split
        · exact h.setTr t _
        · exact h
  exact hforget (hforget h jc.cIncTr) jc.cOutTr

theorem Allocated.free (h : s.Allocated []) (hids : s.Identified) {jc : OwnedCall}
    (hjc : jc ∈ s.jCalls) {found : Option OwnedDialog} (hfound : ∀ jd ∈ found, jd ∈ jc.cDialogs)
    (r : Release) : (s.free jc found r).Allocated [] := by
  cases r with
  | nothing => exact h
  | dialog =>
      cases found with
      | none => exact h
      | some jd =>
          have hlists : (s.removeDialogReference jc jd).jCalls = s.jCalls :=
            (forgetDialog_lists _ _ _).1.trans (forgetDialog_lists _ _ _).1
          refine (h.removeDialogReference jc jd).removeDialog ?_ (hfound jd rfl)
          rw [hlists]
          exact hjc
  | call =>
      have hsound := h.sound hids
      have hedits := edits_callFree s jc
      have htakes := takes_callFree hsound hjc
      apply h.of_within (sound_of_edits hsound hedits htakes) (within_of_edits hedits)
        (transactions_of_edits hedits htakes hsound.held)
      exact (freeTransactions_fresh _ _).trans (dialogsFree_fresh _ _)

theorem Allocated.releaseTransaction (h : s.Allocated []) (t : Nat) (now : Int) :
    (s.releaseTransaction t now).Allocated [] := by
  have hfreed : ({ s with jTransactions := s.jTransactions.erase t }).Allocated [] :=
    ⟨h.calls, h.dialogs, h.transactions.subperm
      (List.erase_sublist.append_left s.heldTransactions).subperm⟩
  unfold Owners.releaseTransaction
  dsimp only
  split
  · exact h
  · split
    · exact h
    · split
      · exact hfreed.transactionFree t
      · split
        · exact hfreed.transactionFree t
        · exact h

/-! ### Runs -/

theorem mem_visited {jc : OwnedCall} {d : Option Nat} {found : Option OwnedDialog}
    (h : visited jc d = some found) : ∀ jd ∈ found, jd ∈ jc.cDialogs := by
  intro jd hjd
  cases d with
  | none =>
      cases h
      cases hjd
  | some d =>
      obtain ⟨jd', hdialog, rfl⟩ := Option.map_eq_some_iff.1 h
      cases hjd
      exact (dialogAt_eq_some hdialog).1

theorem mem_found {c : Nat} {d : Option Nat} {jc : OwnedCall} {found : Option OwnedDialog}
    (h : ((s.callAt c).bind fun jc => (visited jc d).map fun jd => (jc, jd)) = some (jc, found)) :
    jc ∈ s.jCalls ∧ ∀ jd ∈ found, jd ∈ jc.cDialogs := by
  obtain ⟨jc', hcall, hvisited⟩ := Option.bind_eq_some_iff.1 h
  obtain ⟨found', hfound, heq⟩ := Option.map_eq_some_iff.1 hvisited
  cases heq
  exact ⟨(callAt_eq_some hcall).1, mem_visited hfound⟩

theorem Allocated.apply (h : s.Allocated []) (hids : s.Identified) (input : OwnerInput) :
    (s.apply input).Allocated [] := by
  cases input with
  | callSendInitialInvite now => exact h.callSendInitialInvite now
  | sendOutOfDialog method now => exact h.sendOutOfDialog method now
  | callSendRequest d method now => exact h.callSendRequest d method now
  | callSendPrack t now => exact h.callSendPrack t now
  | callSendAnswer t status => exact h.callSendAnswer t status
  | callTerminate c d now => exact h.callTerminate c d now
  | request a now => exact h.processRequest a now
  | transaction t state completedTime =>
      dsimp only [Owners.apply]
      split
      · exact h.setTr t _
      · exact h
  | response t r now =>
      dsimp only [Owners.apply]
      split
      · exact h.rcvResponseOf t r now
      · exact h
  | kill t => exact h.of_lists rfl (List.Perm.refl _) rfl
  | retry c d outTr now =>
      dsimp only [Owners.apply]
      unfold Owners.retry
      split
      · exact h
      · rename_i jc found hfind
        split
        · exact h.callRetryRequest (mem_found hfind).1 (mem_found hfind).2 outTr now
        · exact h
  | pendingTransactionExist c d now =>
      have hkeeps := keeps_pendingTransactionExist (p := ⟨s, [], []⟩) (h.sound hids) c d now
      exact h.of_keeps (p := ⟨s, [], []⟩) hkeeps (pendingTransactionExist_fresh s c d now)
  | releaseFinishedTransactions c d now =>
      have hkeeps := keeps_releaseFinishedTransactions (p := ⟨s, [], []⟩) (h.sound hids) c d now
      exact h.of_keeps (p := ⟨s, [], []⟩) hkeeps (releaseFinishedTransactions_fresh s c d now)
  | release kind c d now =>
      dsimp only [Owners.apply]
      unfold Owners.release
      split
      · exact h
      · rename_i jc found hfind
        exact h.free hids (mem_found hfind).1 (mem_found hfind).2 _
  | releaseTransaction t now => exact h.releaseTransaction t now

/-- After every run the calls are as the release expects them. -/
theorem sound_run (inputs : List OwnerInput) : (Machine.run step start inputs).1.Sound := by
  have hrun : (Machine.run step start inputs).1.Allocated [] ∧
      (Machine.run step start inputs).1.Identified := by
    apply Machine.run_invariant step (I := fun s => s.Allocated [] ∧ s.Identified)
    · intro s input h
      exact ⟨h.1.apply h.2 input, h.2.apply input⟩
    · refine ⟨⟨⟨List.nodup_nil, ?_⟩, ⟨List.nodup_nil, ?_⟩, ⟨List.nodup_nil, ?_⟩⟩, ?_⟩
      · exact fun _ hmem => absurd hmem List.not_mem_nil
      · exact fun _ hmem => absurd hmem List.not_mem_nil
      · exact fun _ hmem => absurd hmem List.not_mem_nil
      · intro jc hjc
        cases hjc
  exact hrun.1.sound hrun.2

end Exosip.Owners
