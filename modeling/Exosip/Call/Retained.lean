import Exosip.Call.Release

/-! Owners that are alive: what a transaction refers to, when calls and dialogs are added and
transactions move between them. -/
namespace Exosip.Owners

/-- The call is in the list, and the dialog among those of the call. -/
def OwnersIn (calls : List OwnedCall) (tr : OwnedTr) : Prop :=
  (∀ c ∈ tr.reserved2, ∃ jc ∈ calls, jc.address = c) ∧
    ∀ d ∈ tr.reserved3, ∃ jc ∈ calls,
      tr.reserved2 = some jc.address ∧ ∃ jd ∈ jc.cDialogs, jd.address = d

instance (calls : List OwnedCall) (tr : OwnedTr) : Decidable (OwnersIn calls tr) :=
  inferInstanceAs (Decidable (_ ∧ _))

def heldTransactions (s : Owners) : List Nat := s.jCalls.flatMap OwnedCall.trs

/-- The transactions of the stack, of `j_transactions` and of the calls. -/
def known (s : Owners) : List Nat := s.osipTransactions ++ s.jTransactions ++ s.heldTransactions

/-! ### Calls that stay -/

/-- Every call and dialog stays; a transaction that a call holds now was held before, or has
the property. -/
structure Retains (P : Nat → Prop) (calls calls' : List OwnedCall) : Prop where
  dialogs : ∀ jc ∈ calls, ∃ jc' ∈ calls', jc'.address = jc.address ∧
    ∀ jd ∈ jc.cDialogs, ∃ jd' ∈ jc'.cDialogs, jd'.address = jd.address
  trs : ∀ t ∈ calls'.flatMap OwnedCall.trs, t ∈ calls.flatMap OwnedCall.trs ∨ P t

/-- The same for one call. -/
structure RetainsCall (P : Nat → Prop) (jc jc' : OwnedCall) : Prop where
  address : jc'.address = jc.address
  dialogs : ∀ jd ∈ jc.cDialogs, ∃ jd' ∈ jc'.cDialogs, jd'.address = jd.address
  trs : ∀ t ∈ jc'.trs, t ∈ jc.trs ∨ P t

variable {P : Nat → Prop}

theorem RetainsCall.refl (jc : OwnedCall) : RetainsCall P jc jc :=
  ⟨rfl, fun jd hjd => ⟨jd, hjd, rfl⟩, fun _ ht => Or.inl ht⟩

theorem retains_map {calls : List OwnedCall} {f : OwnedCall → OwnedCall}
    (hf : ∀ jc ∈ calls, RetainsCall P jc (f jc)) : Retains P calls (calls.map f) where
  dialogs := by
    intro jc hjc
    exact ⟨f jc, List.mem_map_of_mem hjc, (hf jc hjc).address, (hf jc hjc).dialogs⟩
  trs := by
    intro t ht
    rw [List.mem_flatMap] at ht
    obtain ⟨jc', hjc', ht⟩ := ht
    rw [List.mem_map] at hjc'
    obtain ⟨jc, hjc, rfl⟩ := hjc'
    apply Or.imp_left _ ((hf jc hjc).trs t ht)
    intro ht
    exact List.mem_flatMap.2 ⟨jc, hjc, ht⟩

theorem retains_refl (calls : List OwnedCall) : Retains P calls calls where
  dialogs jc hjc := ⟨jc, hjc, rfl, fun jd hjd => ⟨jd, hjd, rfl⟩⟩
  trs _ ht := Or.inl ht

theorem Retains.trans {calls calls' calls'' : List OwnedCall} (h : Retains P calls calls')
    (h' : Retains P calls' calls'') : Retains P calls calls'' where
  dialogs := by
    intro jc hjc
    obtain ⟨jc', hjc', haddress', hdialogs'⟩ := h.dialogs jc hjc
    obtain ⟨jc'', hjc'', haddress'', hdialogs''⟩ := h'.dialogs jc' hjc'
    refine ⟨jc'', hjc'', haddress''.trans haddress', ?_⟩
    intro jd hjd
    obtain ⟨jd', hjd', hd'⟩ := hdialogs' jd hjd
    obtain ⟨jd'', hjd'', hd''⟩ := hdialogs'' jd' hjd'
    exact ⟨jd'', hjd'', hd''.trans hd'⟩
  trs := by
    intro t ht
    cases h'.trs t ht with
    | inl ht => exact h.trs t ht
    | inr ht => exact Or.inr ht

theorem Retains.ownersIn {calls calls' : List OwnedCall} (h : Retains P calls calls')
    {tr : OwnedTr} (htr : OwnersIn calls tr) : OwnersIn calls' tr := by
  constructor
  · intro c hc
    obtain ⟨jc, hjc, heq⟩ := htr.1 c hc
    obtain ⟨jc', hjc', haddress, -⟩ := h.dialogs jc hjc
    exact ⟨jc', hjc', haddress.trans heq⟩
  · intro d hd
    obtain ⟨jc, hjc, hreserved2, jd, hjd, heq⟩ := htr.2 d hd
    obtain ⟨jc', hjc', haddress, hdialogs⟩ := h.dialogs jc hjc
    obtain ⟨jd', hjd', heq'⟩ := hdialogs jd hjd
    exact ⟨jc', hjc', by rw [haddress, hreserved2], jd', hjd', heq'.trans heq⟩

/-! ### Changes of one call or dialog -/

theorem retainsCall_mapDialogs {jc : OwnedCall} {f : OwnedDialog → OwnedDialog}
    (haddress : ∀ jd ∈ jc.cDialogs, (f jd).address = jd.address)
    (htrs : ∀ jd ∈ jc.cDialogs, ∀ t ∈ (f jd).trs, t ∈ jd.trs ∨ P t) :
    RetainsCall P jc (jc.mapDialogs f) where
  address := rfl
  dialogs := by
    intro jd hjd
    exact ⟨f jd, List.mem_map_of_mem hjd, haddress jd hjd⟩
  trs := by
    intro t ht
    simp only [OwnedCall.trs, OwnedCall.mapDialogs, List.mem_append, List.mem_flatMap,
      List.mem_map] at ht ⊢
    cases ht with
    | inl ht => exact Or.inl (Or.inl ht)
    | inr ht =>
        obtain ⟨jd', ⟨jd, hjd, rfl⟩, ht⟩ := ht
        apply Or.imp_left _ (htrs jd hjd t ht)
        intro ht
        exact Or.inr ⟨jd, hjd, ht⟩

theorem retains_modifyCall {s : Owners} {c : Nat} {f : OwnedCall → OwnedCall}
    (hf : ∀ jc, RetainsCall P jc (f jc)) : Retains P s.jCalls (s.modifyCall c f).jCalls := by
  apply retains_map
  intro jc hjc
  split
  · exact hf jc
  · exact RetainsCall.refl jc

theorem retains_modifyDialog {s : Owners} {c d : Nat} {f : OwnedDialog → OwnedDialog}
    (haddress : ∀ jd, (f jd).address = jd.address)
    (htrs : ∀ jd, ∀ t ∈ (f jd).trs, t ∈ jd.trs ∨ P t) :
    Retains P s.jCalls (s.modifyDialog c d f).jCalls := by
  apply retains_modifyCall
  intro jc
  apply retainsCall_mapDialogs
  · intro jd hjd
    split
    · exact haddress jd
    · rfl
  · intro jd hjd t ht
    split at ht
    · exact htrs jd t ht
    · exact Or.inl ht

theorem retains_update (s : Owners) : Retains P s.jCalls s.update.jCalls := by
  apply retains_map
  intro jc hjc
  exact retainsCall_mapDialogs (fun _ _ => rfl) fun _ _ _ ht => Or.inl ht

/-! ### Steps that free nothing -/

/-- Whatever the stack, `j_transactions` or a call has refers to owners that are there. -/
def AllOwned (s : Owners) : Prop := ∀ t ∈ s.known, OwnersIn s.jCalls (s.memory t)

variable {s : Owners}

theorem mem_known {t : Nat} : t ∈ s.known ↔
    t ∈ s.osipTransactions ∨ t ∈ s.jTransactions ∨ t ∈ s.heldTransactions := by
  simp only [known, List.mem_append, or_assoc]

theorem ownersIn_none {calls : List OwnedCall} {tr : OwnedTr} (h2 : tr.reserved2 = none)
    (h3 : tr.reserved3 = none) : OwnersIn calls tr := by
  simp [OwnersIn, h2, h3]

theorem AllOwned.setCalls (h : s.AllOwned) {calls : List OwnedCall} {fresh : Nat}
    (hcalls : Retains P s.jCalls calls) (hP : ∀ t, P t → OwnersIn s.jCalls (s.memory t)) :
    AllOwned { s with jCalls := calls, fresh := fresh } := by
  intro t ht
  apply hcalls.ownersIn
  rw [mem_known] at ht
  rcases ht with ht | ht | ht
  · exact h t (mem_known.2 (Or.inl ht))
  · exact h t (mem_known.2 (Or.inr (Or.inl ht)))
  · cases hcalls.trs t ht with
    | inl ht => exact h t (mem_known.2 (Or.inr (Or.inr ht)))
    | inr ht => exact hP t ht

theorem AllOwned.setTr (h : s.AllOwned) {t : Nat} {f : OwnedTr → OwnedTr}
    (hf : OwnersIn s.jCalls (f (s.memory t))) : (s.setTr t f).AllOwned := by
  intro t' ht'
  by_cases heq : t' = t
  · rw [heq]
    simpa [Owners.setTr] using hf
  · simpa [Owners.setTr, heq] using h t' ht'

theorem AllOwned.addTransaction (h : s.AllOwned) {t : Nat}
    (ht : OwnersIn s.jCalls (s.memory t)) : (s.addTransaction t).AllOwned := by
  intro t' ht'
  rw [mem_known] at ht'
  rcases ht' with ht' | ht' | ht'
  · exact h t' (mem_known.2 (Or.inl ht'))
  · cases List.mem_cons.1 ht' with
    | inl heq => exact heq ▸ ht
    | inr ht' => exact h t' (mem_known.2 (Or.inr (Or.inl ht')))
  · exact h t' (mem_known.2 (Or.inr (Or.inr ht')))

theorem AllOwned.removeTransaction (h : s.AllOwned) (t : Nat) :
    (s.removeTransaction t).AllOwned := by
  intro t' ht'
  rw [mem_known] at ht'
  apply h t'
  exact mem_known.2 (Or.imp_left (fun ht' => (List.mem_filter.1 ht').1) ht')

theorem AllOwned.update (h : s.AllOwned) : s.update.AllOwned :=
  h.setCalls (retains_update (P := fun _ => False) s) fun _ hfalse => hfalse.elim

theorem AllOwned.transactionInit (h : s.AllOwned) (method : RequestMethod) (toTag : Bool)
    (state : State) (now : Int) : (s.transactionInit method toTag state now).AllOwned := by
  intro t ht
  by_cases heq : t = s.fresh
  · rw [heq]
    apply ownersIn_none
    · simp [Owners.transactionInit, OwnedTr.init]
    · simp [Owners.transactionInit, OwnedTr.init]
  · have hknown : t ∈ s.known := by
      rw [mem_known] at ht ⊢
      simpa [Owners.transactionInit, heq, heldTransactions] using ht
    simpa [Owners.transactionInit, heq] using h t hknown

theorem AllOwned.modifyCall (h : s.AllOwned) {c : Nat} {f : OwnedCall → OwnedCall}
    (hf : ∀ jc, RetainsCall (fun t => OwnersIn s.jCalls (s.memory t)) jc (f jc)) :
    (s.modifyCall c f).AllOwned :=
  h.setCalls (retains_modifyCall hf) fun _ ht => ht

theorem AllOwned.modifyDialog (h : s.AllOwned) {c d : Nat} {f : OwnedDialog → OwnedDialog}
    (haddress : ∀ jd, (f jd).address = jd.address)
    (htrs : ∀ jd, ∀ t ∈ (f jd).trs, t ∈ jd.trs ∨ OwnersIn s.jCalls (s.memory t)) :
    (s.modifyDialog c d f).AllOwned :=
  h.setCalls (retains_modifyDialog haddress htrs) fun _ ht => ht

theorem AllOwned.setDialog (h : s.AllOwned) {c d : Nat} {f : OwnedDialog → OwnedDialog}
    (hf : ∀ jd, ∃ dDialog, f jd = jd.setDialog dDialog) : (s.modifyDialog c d f).AllOwned := by
  apply h.modifyDialog
  · intro jd
    obtain ⟨dDialog, heq⟩ := hf jd
    rw [heq]
    rfl
  · intro jd t ht
    obtain ⟨dDialog, heq⟩ := hf jd
    rw [heq] at ht
    exact Or.inl ht

theorem AllOwned.addIncTr (h : s.AllOwned) {c d t : Nat}
    (ht : OwnersIn s.jCalls (s.memory t)) :
    (s.modifyDialog c d (OwnedDialog.addIncTr t)).AllOwned := by
  apply h.modifyDialog
  · intro jd
    rfl
  · intro jd t' ht'
    cases List.mem_cons.1 ht' with
    | inl heq => exact Or.inr (heq ▸ ht)
    | inr ht' => exact Or.inl ht'

theorem AllOwned.addOutTr (h : s.AllOwned) {c d t : Nat}
    (ht : OwnersIn s.jCalls (s.memory t)) :
    (s.modifyDialog c d (OwnedDialog.addOutTr t)).AllOwned := by
  apply h.modifyDialog
  · intro jd
    rfl
  · intro jd t' ht'
    simp only [OwnedDialog.trs, OwnedDialog.addOutTr, List.mem_append, List.mem_cons] at ht' ⊢
    rcases ht' with ht' | heq | ht'
    · exact Or.inl (Or.inl ht')
    · exact Or.inr (heq ▸ ht)
    · exact Or.inl (Or.inr ht')

/-- The owners that a transaction can be given. -/
def HasDialog (s : Owners) (c d : Nat) : Prop :=
  ∃ jc ∈ s.jCalls, jc.address = c ∧ ∃ jd ∈ jc.cDialogs, jd.address = d

def HasCall (s : Owners) (c : Nat) : Prop := ∃ jc ∈ s.jCalls, jc.address = c

theorem HasDialog.hasCall {c d : Nat} (h : s.HasDialog c d) : s.HasCall c := by
  obtain ⟨jc, hjc, hc, -⟩ := h
  exact ⟨jc, hjc, hc⟩

theorem HasDialog.retains {c d : Nat} {s' : Owners} (h : s.HasDialog c d)
    (hcalls : Retains P s.jCalls s'.jCalls) : s'.HasDialog c d := by
  obtain ⟨jc, hjc, hc, jd, hjd, hd⟩ := h
  obtain ⟨jc', hjc', haddress, hdialogs⟩ := hcalls.dialogs jc hjc
  obtain ⟨jd', hjd', hd'⟩ := hdialogs jd hjd
  exact ⟨jc', hjc', haddress.trans hc, jd', hjd', hd'.trans hd⟩

theorem HasCall.retains {c : Nat} {s' : Owners} (h : s.HasCall c)
    (hcalls : Retains P s.jCalls s'.jCalls) : s'.HasCall c := by
  obtain ⟨jc, hjc, hc⟩ := h
  obtain ⟨jc', hjc', haddress, -⟩ := hcalls.dialogs jc hjc
  exact ⟨jc', hjc', haddress.trans hc⟩

theorem ownersIn_call {c : Nat} (h : s.HasCall c) {tr : OwnedTr} (h2 : tr.reserved2 = some c)
    (h3 : tr.reserved3 = none) : OwnersIn s.jCalls tr := by
  simpa [OwnersIn, h2, h3, HasCall] using h

theorem ownersIn_dialog {c d : Nat} (h : s.HasDialog c d) {tr : OwnedTr}
    (h2 : tr.reserved2 = some c) (h3 : tr.reserved3 = some d) : OwnersIn s.jCalls tr := by
  constructor
  · intro c' hc'
    cases h2.symm.trans hc'
    exact h.hasCall
  · intro d' hd'
    cases h3.symm.trans hd'
    obtain ⟨jc, hjc, hc, hjd⟩ := h
    exact ⟨jc, hjc, h2.trans (congrArg some hc.symm), hjd⟩

@[simp] theorem reserved2_setReserved {t : Nat} {reserved2 reserved3 : Option Nat} :
    ((s.setReserved t reserved2 reserved3).memory t).reserved2 = reserved2 := by
  simp [setReserved, Owners.setTr]

@[simp] theorem reserved3_setReserved {t : Nat} {reserved2 reserved3 : Option Nat} :
    ((s.setReserved t reserved2 reserved3).memory t).reserved3 = reserved3 := by
  simp [setReserved, Owners.setTr]

theorem AllOwned.setReserved (h : s.AllOwned) {c d t : Nat} (hdialog : s.HasDialog c d) :
    (s.setReserved t (some c) (some d)).AllOwned :=
  h.setTr (ownersIn_dialog hdialog rfl rfl)

theorem AllOwned.setReserved_call (h : s.AllOwned) {c t : Nat} (hcall : s.HasCall c) :
    (s.setReserved t (some c) none).AllOwned :=
  h.setTr (ownersIn_call hcall rfl rfl)

theorem retains_addCall (s : Owners) (outTr : Option Nat) :
    Retains (fun t => outTr = some t) s.jCalls (s.addCall outTr).jCalls where
  dialogs jc hjc := ⟨jc, List.mem_cons_of_mem _ hjc, rfl, fun jd hjd => ⟨jd, hjd, rfl⟩⟩
  trs t ht := by
    simp only [addCall, List.flatMap_cons, List.mem_append] at ht
    cases ht with
    | inl ht => exact Or.inr (by simpa [OwnedCall.trs] using ht)
    | inr ht => exact Or.inl ht

theorem AllOwned.addCall (h : s.AllOwned) {outTr : Option Nat}
    (ht : ∀ t, outTr = some t → OwnersIn s.jCalls (s.memory t)) : (s.addCall outTr).AllOwned :=
  h.setCalls (retains_addCall s outTr) ht

theorem retains_addDialog (s : Owners) (c : Nat) (state : DialogState) :
    Retains P s.jCalls (s.addDialog c state).jCalls := by
  apply retains_modifyCall
  intro jc
  exact ⟨rfl, fun jd hjd => ⟨jd, List.mem_cons_of_mem _ hjd, rfl⟩, fun t ht => Or.inl ht⟩

theorem AllOwned.addDialog (h : s.AllOwned) (c : Nat) (state : DialogState) :
    (s.addDialog c state).AllOwned :=
  h.setCalls (retains_addDialog (P := fun _ => False) s c state) fun _ hfalse => hfalse.elim

theorem hasDialog_addDialog {c : Nat} (h : s.HasCall c) (state : DialogState) :
    (s.addDialog c state).HasDialog c s.fresh := by
  obtain ⟨jc, hjc, hc⟩ := h
  refine ⟨_, List.mem_map_of_mem hjc, ?_⟩
  rw [if_pos hc]
  exact ⟨hc, _, List.mem_cons_self, rfl⟩

end Exosip.Owners
