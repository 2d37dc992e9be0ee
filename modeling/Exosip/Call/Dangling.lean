import Exosip.Call.Freeing

/-! No transaction refers to a call or a dialog that has been freed: which steps keep this. -/
namespace Exosip.Owners

/-- No transaction that the stack can run, or that is in `j_transactions`, refers to a call or
a dialog that is gone. -/
def NoDangling (s : Owners) : Prop :=
  ∀ t ∈ s.osipTransactions ++ s.jTransactions, OwnersIn s.jCalls (s.memory t)

instance (s : Owners) : Decidable s.NoDangling :=
  inferInstanceAs (Decidable (∀ t ∈ _, _))

/-- In every state of the run, from the start. -/
def NeverDangling (inputs : List OwnerInput) : Prop :=
  ∀ before after, inputs = before ++ after → (Machine.run step start before).1.NoDangling

/-! ### When a step is safe -/

/-- What is freed has its references in places that are cleared: for a dialog its own lists
and, in the release alone, the INVITE of the call; for a call all that it holds. -/
def SafeRelease (s : Owners) (jc : OwnedCall) (found : Option OwnedDialog) : Release → Prop
  | .nothing => True
  | .dialog => ∀ jd ∈ found, ∀ t ∈ s.known, RefersToDialog jc jd (s.memory t) →
      t ∈ jd.trs ++ jc.cIncTr.toList ++ jc.cOutTr.toList
  | .call => ∀ t ∈ s.known, RefersToCall jc (s.memory t) → t ∈ jc.trs

def SafeRetry (s : Owners) (jc : OwnedCall) (found : Option OwnedDialog) (outTr : Nat) :
    Prop :=
  jc.cOutTr = some outTr → (s.memory outTr).lastResponse.isSome → ∀ jd ∈ found, ∀ t ∈ s.known,
    RefersToDialog jc jd (s.memory t) → t ∈ jd.trs

instance (s : Owners) (jc : OwnedCall) (found : Option OwnedDialog) (r : Release) :
    Decidable (s.SafeRelease jc found r) :=
  match r with
  | .nothing => inferInstanceAs (Decidable True)
  | .dialog => inferInstanceAs (Decidable (∀ jd ∈ found, ∀ t ∈ s.known, _ → _))
  | .call => inferInstanceAs (Decidable (∀ t ∈ s.known, _ → _))

instance (s : Owners) (jc : OwnedCall) (found : Option OwnedDialog) (outTr : Nat) :
    Decidable (s.SafeRetry jc found outTr) :=
  inferInstanceAs (Decidable (_ → _ → ∀ jd ∈ found, ∀ t ∈ s.known, _ → _))

/-- The step frees nothing that a transaction elsewhere refers to. -/
def Safe (s : Owners) : OwnerInput → Prop
  | .retry c d outTr _ => ∀ jc ∈ s.callAt c, ∀ jd ∈ visited jc d, s.SafeRetry jc jd outTr
  | .release kind c d now => ∀ jc ∈ s.callAt c, ∀ jd ∈ visited jc d,
      s.SafeRelease jc jd (s.decision kind jc jd now)
  | _ => True

instance (s : Owners) (input : OwnerInput) : Decidable (s.Safe input) := by
  cases input <;> unfold Safe <;> infer_instance

variable {s : Owners}

theorem AllOwned.noDangling (h : s.AllOwned) : s.NoDangling := by
  intro t ht
  exact h t (List.mem_append_left _ ht)

/-! ### The retry -/

theorem hasCall_modifyCall {c c' : Nat} (h : s.HasCall c) {f : OwnedCall → OwnedCall}
    (hf : ∀ jc, (f jc).address = jc.address) : (s.modifyCall c' f).HasCall c := by
  obtain ⟨jc, hjc, hc⟩ := h
  refine ⟨_, List.mem_map_of_mem hjc, ?_⟩
  split
  · rw [hf, hc]
  · exact hc

theorem trs_setOutTr {jc : OwnedCall} {t tr : Nat}
    (ht : t ∈ OwnedCall.trs { jc with cOutTr := some tr }) : t ∈ jc.trs ∨ t = tr := by
  simp only [OwnedCall.trs, Option.toList_some, List.mem_append, List.mem_singleton] at ht ⊢
  rcases ht with (ht | heq) | ht
  · exact Or.inl (Or.inl (Or.inl ht))
  · exact Or.inr heq
  · exact Or.inl (Or.inr ht)

section Replace

variable {jc : OwnedCall} {outTr : Nat} (state : State) (now : Int)

theorem memory_replaceRequest {t : Nat} (ht : t ≠ s.fresh) :
    (s.replaceRequest jc outTr state now).memory t = s.memory t := by
  simp [replaceRequest, modifyCall, mapCalls, Owners.addTransaction, Owners.transactionInit, ht]

theorem unowned_replaceRequest : (s.replaceRequest jc outTr state now).Unowned s.fresh :=
  unowned_transactionInit s _ _ state now

theorem hasCall_replaceRequest (hjc : jc ∈ s.jCalls) :
    (s.replaceRequest jc outTr state now).HasCall jc.address := by
  have hcall : s.HasCall jc.address := ⟨jc, hjc, rfl⟩
  apply hasCall_modifyCall
  · exact hcall
  · intro jc'
    rfl

theorem known_replaceRequest (hout : outTr ∈ s.known) {t : Nat}
    (ht : t ∈ (s.replaceRequest jc outTr state now).known) : t = s.fresh ∨ t ∈ s.known := by
  rw [mem_known] at ht
  rcases ht with ht | ht | ht
  · cases List.mem_append.1 ht with
    | inl ht => exact Or.inr (mem_known.2 (Or.inl ht))
    | inr ht => exact Or.inl (List.mem_singleton.1 ht)
  · cases List.mem_cons.1 ht with
    | inl heq => exact Or.inr (heq ▸ hout)
    | inr ht => exact Or.inr (mem_known.2 (Or.inr (Or.inl ht)))
  · obtain ⟨jc'', hjc'', ht⟩ := List.mem_flatMap.1 ht
    obtain ⟨jc', hjc', rfl⟩ := List.mem_map.1 hjc''
    have hheld : t ∈ jc'.trs ∨ t = s.fresh := by
      split at ht
      · exact trs_setOutTr ht
      · exact Or.inl ht
    cases hheld with
    | inl ht =>
        exact Or.inr (mem_known.2 (Or.inr (Or.inr (List.mem_flatMap.2 ⟨jc', hjc', ht⟩))))
    | inr heq => exact Or.inl heq

theorem AllOwned.replaceRequest (h : s.AllOwned) (hout : outTr ∈ s.known) :
    (s.replaceRequest jc outTr state now).AllOwned := by
  have hunowned := unowned_transactionInit s (s.memory outTr).method (s.memory outTr).toTag
    state now
  have hinit := h.transactionInit (s.memory outTr).method (s.memory outTr).toTag state now
  apply AllOwned.modifyCall
  · apply hinit.addTransaction
    apply hinit
    rw [mem_known] at hout ⊢
    exact Or.imp_left (List.mem_append_left _) hout
  · intro jc'
    refine ⟨rfl, fun jd hjd => ⟨jd, hjd, rfl⟩, ?_⟩
    intro t ht
    apply Or.imp_right _ (trs_setOutTr ht)
    intro heq
    rw [heq]
    exact hunowned.ownersIn _

end Replace

theorem AllOwned.callRetryRequest (h : s.AllOwned) {jc : OwnedCall} (hjc : jc ∈ s.jCalls)
    {found : Option OwnedDialog} (hfound : ∀ jd ∈ found, jd ∈ jc.cDialogs) {outTr : Nat}
    (hout : outTr ∈ s.known) (hsafe : s.SafeRetry jc found outTr) (now : Int) :
    (s.callRetryRequest jc found outTr now).AllOwned := by
  unfold Owners.callRetryRequest
  dsimp only
  split
  · exact h
  · rename_i hanswered
    generalize (if (s.memory outTr).method = .invite then State.ictPreCalling
      else .nictPreTrying) = state
    split
    · rename_i hown
      have hreplaced : (s.replaceRequest jc outTr state now).AllOwned :=
        h.replaceRequest state now hout
      have hcall : (s.replaceRequest jc outTr state now).HasCall jc.address :=
        hasCall_replaceRequest state now hjc
      apply AllOwned.update
      cases found with
      | none => exact hreplaced.setReserved_call hcall
      | some jd =>
          apply AllOwned.setReserved_call _ (hasCall_removeDialog hcall jc jd)
          apply hreplaced.removeDialog
          intro t ht hrefers
          have hnew : t ≠ s.fresh := by
            intro heq
            rw [heq] at hrefers
            exact absurd ((unowned_replaceRequest state now).1.symm.trans hrefers.1) nofun
          rw [memory_replaceRequest state now hnew] at hrefers
          have hlast : (s.memory outTr).lastResponse.isSome :=
            Option.isSome_iff_ne_none.2 (by simpa using hanswered)
          have hknown := (known_replaceRequest state now hout ht).resolve_left hnew
          exact hsafe hown hlast jd rfl t hknown hrefers
    · cases found with
      | none => exact h
      | some jd =>
          exact (h.createTransaction (hasDialog_of_mem hjc (hfound jd rfl)) _ state now).update

/-! ### The release -/

theorem AllOwned.free (h : s.AllOwned) {jc : OwnedCall} {found : Option OwnedDialog}
    {r : Release} (hsafe : s.SafeRelease jc found r) : (s.free jc found r).AllOwned := by
  cases r with
  | nothing => exact h
  | dialog =>
      cases found with
      | none => exact h
      | some jd => exact h.freeDialog (hsafe jd rfl)
  | call => exact h.callFree hsafe

/-! ### Runs -/

theorem visited_eq_some {jc : OwnedCall} {d : Option Nat} {found : Option OwnedDialog}
    (h : visited jc d = some found) : ∀ jd ∈ found, jd ∈ jc.cDialogs := by
  intro jd hjd
  cases d with
  | none =>
      cases h
      cases hjd
  | some d =>
      obtain ⟨jd', hfind, heq⟩ := Option.map_eq_some_iff.1 h
      cases heq
      cases hjd
      exact (dialogAt_eq_some hfind).1

theorem found_eq_some {c : Nat} {d : Option Nat} {jc : OwnedCall} {found : Option OwnedDialog}
    (h : ((s.callAt c).bind fun jc => (visited jc d).map fun jd => (jc, jd)) =
      some (jc, found)) : s.callAt c = some jc ∧ visited jc d = some found := by
  rw [Option.bind_eq_some_iff] at h
  obtain ⟨jc', hjc, h⟩ := h
  obtain ⟨found', hfound, heq⟩ := Option.map_eq_some_iff.1 h
  cases heq
  exact ⟨hjc, hfound⟩

theorem AllOwned.apply (h : s.AllOwned) {input : OwnerInput} (hsafe : s.Safe input) :
    (s.apply input).AllOwned := by
  cases input with
  | callSendInitialInvite now => exact h.callSendInitialInvite now
  | sendOutOfDialog method now => exact h.sendOutOfDialog method now
  | callSendRequest d method now => exact h.callSendRequest d method now
  | callSendPrack t now => exact h.callSendPrack t now
  | callSendAnswer t status => exact h.callSendAnswer t status
  | callTerminate c d now => exact h.callTerminate c d now
  | request a now => exact h.processRequest a now
  | transaction t state completedTime =>
      dsimp only [Owners.apply]
      split
      · rename_i ht
        exact h.setTr (h t (mem_known.2 (Or.inl ht)))
      · exact h
  | response t r now =>
      dsimp only [Owners.apply]
      split
      · rename_i ht
        exact h.rcvResponseOf ht r now
      · exact h
  | kill t => exact h.removeTransaction t
  | retry c d outTr now =>
      dsimp only [Owners.apply]
      unfold Owners.retry
      split
      · exact h
      · rename_i jc found hfind
        have hfound := found_eq_some hfind
        have hjc := (callAt_eq_some hfound.1).1
        split
        · rename_i hout
          apply h.callRetryRequest hjc (visited_eq_some hfound.2)
          · exact mem_known.2 (Or.inr (Or.inr (List.mem_flatMap.2 ⟨jc, hjc, hout⟩)))
          · exact hsafe jc hfound.1 found hfound.2
        · exact h
  | pendingTransactionExist c d now => exact h.pendingTransactionExist c d now
  | releaseFinishedTransactions c d now => exact h.releaseFinishedTransactions c d now
  | release kind c d now =>
      dsimp only [Owners.apply]
      unfold Owners.release
      split
      · exact h
      · rename_i jc found hfind
        have hfound := found_eq_some hfind
        exact h.free (hsafe jc hfound.1 found hfound.2)
  | releaseTransaction t now => exact h.releaseTransaction t now

theorem allOwned_start : start.AllOwned := by
  intro t ht
  cases ht

/-- A response from which a dialog can be built. -/
def answerTo (method : RequestMethod) (status : Int) : ResponseRead := ⟨status, method, true, false⟩

/-- A call that was answered and ended with a BYE. -/
def hungUp : List OwnerInput :=
  [.callSendInitialInvite 0, .transaction 0 .ictCalling 0, .response 0 (answerTo .invite 180) 1,
    .transaction 0 .ictTerminated 2, .response 0 (answerTo .invite 200) 2, .kill 0,
    .callTerminate 1 (some 2) 10, .transaction 3 .nictTrying 0,
    .response 3 (answerTo .bye 200) 11, .transaction 3 .nictTerminated 11, .kill 3]

/-- The INVITE was challenged after it had rung, and the application asks for the default
action: `jd` is the dialog of the ringing. -/
def challenged : List OwnerInput :=
  [.callSendInitialInvite 0, .transaction 0 .ictCalling 0, .response 0 (answerTo .invite 180) 1,
    .transaction 0 .ictCompleted 2, .response 0 (answerTo .invite 401) 2, .retry 1 (some 2) 0 3]

end Exosip.Owners
