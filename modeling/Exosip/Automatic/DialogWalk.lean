import Exosip.Automatic.Actions
import Exosip.Machine.Walk

/-! The loop of `eXosip_automatic_action` over the dialogs of a call, as it follows the links of
`c_dialogs`: `_eXosip_call_retry_request` may unlink and free the dialog that the loop is at. -/
namespace Exosip

open CString Machine

/-- An `eXosip_dialog_t` at its address. -/
structure ListedDialog extends RetryDialog where
  address : Nat
  deriving DecidableEq

/-- An `eXosip_call_t` with the elements of `c_dialogs`. -/
structure ListedCall where
  cId : Int
  cRetry : Nat
  cOutTr : Option SentTr
  cDialogs : List ListedDialog
  nodup : (cDialogs.map ListedDialog.address).Nodup
  deriving DecidableEq

/-- The time of a pass, for which transactions another request can be built and sent, for a
dialog or for the call itself, and in which dialogs one that refreshes the session. -/
structure RetryPass where
  now : Int
  retries : Option Nat → SentTr → Bool
  refreshes : Nat → Bool

namespace RetryPass

/-- `_eXosip_transaction_init`. -/
def newTr (p : RetryPass) (method : Option Str) : SentTr :=
  Pass.newTr ⟨p.now, fun _ => true⟩ method

end RetryPass

namespace ListedCall

def addresses (jc : ListedCall) : List Nat := jc.cDialogs.map ListedDialog.address

def dialogAt (jc : ListedCall) (a : Nat) : Option ListedDialog :=
  jc.cDialogs.find? fun jd => jd.address = a

theorem nodup_map {dialogs : List ListedDialog} {f : ListedDialog → ListedDialog}
    (hf : ∀ jd, (f jd).address = jd.address) (h : (dialogs.map ListedDialog.address).Nodup) :
    ((dialogs.map f).map ListedDialog.address).Nodup := by
  rw [List.map_map]
  have hsame : ListedDialog.address ∘ f = ListedDialog.address := funext hf
  rwa [hsame]

theorem address_ite (a : Nat) (g : RetryDialog → RetryDialog) (jd : ListedDialog) :
    (if jd.address = a then { jd with toRetryDialog := g jd.toRetryDialog } else jd).address =
      jd.address := by
  split_ifs <;> rfl

def modifyDialog (jc : ListedCall) (a : Nat) (g : RetryDialog → RetryDialog) : ListedCall :=
  { jc with
    cDialogs := jc.cDialogs.map fun jd =>
      if jd.address = a then { jd with toRetryDialog := g jd.toRetryDialog } else jd
    nodup := nodup_map (address_ite a g) jc.nodup }

/-- `REMOVE_ELEMENT (jc->c_dialogs, jd)` and `_eXosip_dialog_free`. -/
def removeDialog (jc : ListedCall) (a : Nat) : ListedCall :=
  { jc with
    cDialogs := jc.cDialogs.filter fun jd => jd.address ≠ a
    nodup := jc.nodup.sublist (List.filter_sublist.map _) }

/-- `_eXosip_call_retry_request`: a request of the call itself is replaced, and the dialog is
unlinked and freed. A transaction of `d_out_trs` is never the one of the call. -/
def callRetryRequest (p : RetryPass) (jc : ListedCall) (jd : Option ListedDialog)
    (outTr : SentTr) : ListedCall :=
  if outTr.origRequest.isNone || outTr.lastResponse.isNone then jc
  else if !p.retries (jd.map ListedDialog.address) outTr then jc
  else
    let tr := p.newTr outTr.origRequest
    match jd with
    | none => { jc with cOutTr := some tr }
    | some jd =>
        if jd.dOutTrs.isEmpty then { jc with cOutTr := some tr }.removeDialog jd.address
        else jc.modifyDialog jd.address fun jd => { jd with dOutTrs := tr :: jd.dOutTrs }

def looksAt (jc : ListedCall) (jd : ListedDialog) : Option SentTr := jd.dOutTrs.head?.or jc.cOutTr

def refreshSession (p : RetryPass) (jc : ListedCall) (jd : ListedDialog) : ListedCall :=
  match sessionTimer p.now jd.toRetryDialog with
  | .refresh method =>
      if p.refreshes jd.address then
        jc.modifyDialog jd.address fun jd =>
          { jd with
            dOutTrs := p.newTr method :: jd.dOutTrs
            dSessionTimerStart := p.now + jd.dSessionTimerLength }
      else jc
  | _ => jc

/-- `jd->d_retry++`, which has no result when the dialog was freed. -/
def countRetry (a : Nat) (jc : ListedCall) : Option ListedCall :=
  if a ∈ jc.addresses then some (jc.modifyDialog a fun jd => { jd with dRetry := jd.dRetry + 1 })
  else none

def dialogAction (p : RetryPass) (jc : ListedCall) (a : Nat) : Option ListedCall :=
  match jc.dialogAt a with
  | none => none
  | some jd =>
      if !jd.dDialog then some jc
      else
        match jc.looksAt jd with
        | none => some (jc.refreshSession p jd)
        | some outTr =>
            match callRequest p.now outTr with
            | .counted =>
                if jd.dRetry < 3 then (jc.callRetryRequest p (some jd) outTr).countRetry a
                else some jc
            | .uncounted => some (jc.callRetryRequest p (some jd) outTr)
            | _ => some (jc.refreshSession p jd)

/-- The request of the call is sent again, when it is the one that is looked at and the counter
allows it. -/
def RetriesCall (p : RetryPass) (jc : ListedCall) (jd : Option ListedDialog) (retry : Nat) : Prop :=
  ∃ outTr ∈ jc.cOutTr,
    (callRequest p.now outTr = .counted ∧ retry < 3 ∨ callRequest p.now outTr = .uncounted) ∧
    p.retries (jd.map ListedDialog.address) outTr = true

/-- The part of the loop over the calls about a call without a dialog, or with none behind the
first one. -/
def callAction (p : RetryPass) (jc : ListedCall) : ListedCall :=
  if jc.cId < 1 then jc
  else if jc.cDialogs.head?.all fun jd => !jd.dDialog then
    match jc.cOutTr with
    | none => jc
    | some outTr =>
        match callRequest p.now outTr with
        | .counted =>
            if jc.cRetry < 3 then
              { jc.callRetryRequest p none outTr with cRetry := jc.cRetry + 1 }
            else jc
        | .uncounted => jc.callRetryRequest p none outTr
        | _ => jc
  else jc

/-- The body of the loop over the calls: which dialogs the inner loop visits, and how it
ends. -/
def automaticAction (p : RetryPass) (jc : ListedCall) : List Nat × WalkEnd ListedCall Nat :=
  let jc := jc.callAction p
  walk addresses (dialogAction p) jc.addresses.length jc jc.addresses.head?

/-- No dialog is used after it was freed, and each one that is in the list at the end was
visited once. -/
def WalksListed (p : RetryPass) (jc : ListedCall) : Prop :=
  ∃ left, (jc.automaticAction p).2 = .ended left ∧
    ∀ a ∈ left.addresses, (jc.automaticAction p).1.count a = 1

/-- The retry of the call's request is made for this dialog: it has no transaction of its
own. -/
def FreesDialog (p : RetryPass) (jc : ListedCall) (jd : ListedDialog) : Prop :=
  jd.dDialog = true ∧ jd.dOutTrs = [] ∧ jc.RetriesCall p (some jd) jd.dRetry

/-- The call's own request is sent again before the dialogs are looked at. -/
def RetriesFirst (p : RetryPass) (jc : ListedCall) : Prop :=
  1 ≤ jc.cId ∧ (jc.cDialogs.head?.all fun jd => !jd.dDialog) = true ∧
    jc.RetriesCall p none jc.cRetry

/-! ### What a turn of the loop changes -/

/-- A step that keeps the list, the request of the call and the other dialogs. -/
structure Keeps (a : Nat) (jc jc' : ListedCall) : Prop where
  addresses : jc'.addresses = jc.addresses
  cOutTr : jc'.cOutTr = jc.cOutTr
  others : ∀ b, b ≠ a → jc'.dialogAt b = jc.dialogAt b

variable {p : RetryPass} {jc : ListedCall}

theorem Keeps.refl (a : Nat) (jc : ListedCall) : Keeps a jc jc := ⟨rfl, rfl, fun _ _ => rfl⟩

theorem Keeps.trans {a : Nat} {jc jc' jc'' : ListedCall} (h : Keeps a jc jc')
    (h' : Keeps a jc' jc'') : Keeps a jc jc'' :=
  ⟨h'.addresses.trans h.addresses, h'.cOutTr.trans h.cOutTr,
    fun b hb => (h'.others b hb).trans (h.others b hb)⟩

theorem dialogAt_eq_some {a : Nat} {jd : ListedDialog} (h : jc.dialogAt a = some jd) :
    jd ∈ jc.cDialogs ∧ jd.address = a := by
  unfold dialogAt at h
  exact ⟨List.mem_of_find?_eq_some h, by simpa using List.find?_some h⟩

theorem dialogAt_of_mem {jd : ListedDialog} (h : jd ∈ jc.cDialogs) :
    jc.dialogAt jd.address = some jd := by
  unfold dialogAt
  cases hfind : jc.cDialogs.find? fun other => other.address = jd.address with
  | none =>
      rw [List.find?_eq_none] at hfind
      exact absurd (decide_eq_true rfl) (hfind jd h)
  | some other =>
      have hother := List.mem_of_find?_eq_some hfind
      have haddress : other.address = jd.address := by simpa using List.find?_some hfind
      rw [List.inj_on_of_nodup_map jc.nodup hother h haddress]

theorem exists_dialogAt {a : Nat} (h : a ∈ jc.addresses) : ∃ jd, jc.dialogAt a = some jd := by
  obtain ⟨jd, hjd, rfl⟩ := List.mem_map.1 h
  exact ⟨jd, dialogAt_of_mem hjd⟩

theorem keeps_modifyDialog (a : Nat) (g : RetryDialog → RetryDialog) :
    Keeps a jc (jc.modifyDialog a g) where
  addresses := by
    unfold addresses modifyDialog
    rw [List.map_map]
    exact List.map_congr_left fun jd _ => address_ite a g jd
  cOutTr := rfl
  others := by
    intro b hb
    unfold dialogAt modifyDialog
    rw [List.find?_map]
    have hsame : ((fun jd : ListedDialog => decide (jd.address = b)) ∘ fun jd =>
        if jd.address = a then { jd with toRetryDialog := g jd.toRetryDialog } else jd) =
        fun jd => decide (jd.address = b) := by
      funext jd
      rw [Function.comp_apply, address_ite]
    rw [hsame]
    cases hfind : jc.cDialogs.find? fun jd => decide (jd.address = b) with
    | none => rfl
    | some jd =>
        have haddress : jd.address = b := by simpa using List.find?_some hfind
        rw [Option.map_some, if_neg (by rw [haddress]; exact hb)]

theorem keeps_refreshSession (p : RetryPass) (jc : ListedCall) (jd : ListedDialog) :
    Keeps jd.address jc (jc.refreshSession p jd) := by
  unfold refreshSession
  split
  · split_ifs
    · exact keeps_modifyDialog jd.address _
    · exact Keeps.refl _ jc
  · exact Keeps.refl _ jc

theorem keeps_countRetry {a : Nat} {jc' : ListedCall} (h : Keeps a jc jc')
    (ha : a ∈ jc.addresses) : ∃ jc'', jc'.countRetry a = some jc'' ∧ Keeps a jc jc'' := by
  have hlisted : a ∈ jc'.addresses := by rwa [h.addresses]
  rw [countRetry, if_pos hlisted]
  exact ⟨_, rfl, h.trans (keeps_modifyDialog a _)⟩

theorem keeps_callRetryRequest {jd : ListedDialog} (h : jd.dOutTrs ≠ []) (p : RetryPass)
    (outTr : SentTr) : Keeps jd.address jc (jc.callRetryRequest p (some jd) outTr) := by
  unfold callRetryRequest
  dsimp only
  split_ifs with hmissing hfails hempty
  · exact Keeps.refl _ jc
  · exact Keeps.refl _ jc
  · rw [List.isEmpty_iff] at hempty
    exact absurd hempty h
  · exact keeps_modifyDialog jd.address _

theorem callRetryRequest_of_not_retries {jd : Option ListedDialog} {outTr : SentTr}
    (h : p.retries (jd.map ListedDialog.address) outTr = false) :
    jc.callRetryRequest p jd outTr = jc := by
  unfold callRetryRequest
  by_cases hmissing : (outTr.origRequest.isNone || outTr.lastResponse.isNone) = true
  · rw [if_pos hmissing]
  · rw [if_neg hmissing, h, if_pos (by decide)]

theorem answered_of_callRequest {now : Int} {tr : SentTr}
    (h : callRequest now tr = .counted ∨ callRequest now tr = .uncounted) :
    (tr.origRequest.isNone || tr.lastResponse.isNone) = false := by
  have hrejected : ∃ codes, tr.rejectedBy now codes = true := by
    unfold callRequest at h
    split_ifs at h with h1 h2 h3
    · exact ⟨_, (Bool.and_eq_true_iff.1 h1).2⟩
    · exact ⟨_, (Bool.and_eq_true_iff.1 h2).2⟩
    · exact ⟨_, (Bool.and_eq_true_iff.1 h3).2⟩
    · simp at h
  obtain ⟨codes, hcodes⟩ := hrejected
  simp only [SentTr.rejectedBy, Bool.and_eq_true] at hcodes
  obtain ⟨⟨-, hrequest⟩, hresponse⟩ := hcodes
  cases hlast : tr.lastResponse with
  | none =>
      rw [hlast] at hresponse
      cases hresponse
  | some code =>
      cases hmessage : tr.origRequest with
      | none =>
          rw [hmessage] at hrequest
          cases hrequest
      | some method => rfl

theorem callRetryRequest_removes {jd : ListedDialog} {outTr : SentTr} (h : jd.dOutTrs = [])
    (hanswered : (outTr.origRequest.isNone || outTr.lastResponse.isNone) = false)
    (hretries : p.retries (some jd.address) outTr = true) :
    jd.address ∉ (jc.callRetryRequest p (some jd) outTr).addresses := by
  unfold callRetryRequest
  simp only [hanswered, Option.map_some, hretries, Bool.not_true, Bool.false_eq_true, if_false, h,
    List.isEmpty_nil, if_true]
  simp [addresses, removeDialog]

/-! ### A turn -/

theorem dialogAction_of_keeps {a : Nat} {jd : ListedDialog} (hjd : jc.dialogAt a = some jd)
    (h : ¬ jc.FreesDialog p jd) : ∃ jc', jc.dialogAction p a = some jc' ∧ Keeps a jc jc' := by
  obtain ⟨hmem, rfl⟩ := dialogAt_eq_some hjd
  have hlisted : jd.address ∈ jc.addresses := List.mem_map_of_mem hmem
  have hrefresh := keeps_refreshSession p jc jd
  unfold dialogAction
  rw [hjd]
  dsimp only
  cases hdialog : jd.dDialog with
  | false => exact ⟨jc, rfl, Keeps.refl _ jc⟩
  | true =>
      cases hlooks : jc.looksAt jd with
      | none => exact ⟨_, rfl, hrefresh⟩
      | some outTr =>
          have hkeeps : (callRequest p.now outTr = .counted ∧ jd.dRetry < 3 ∨
              callRequest p.now outTr = .uncounted) →
              Keeps jd.address jc (jc.callRetryRequest p (some jd) outTr) := by
            intro hasked
            cases houts : jd.dOutTrs with
            | cons tr trs =>
                exact keeps_callRetryRequest (by rw [houts]; exact List.cons_ne_nil _ _) p outTr
            | nil =>
                have hown : jc.cOutTr = some outTr := by
                  rwa [looksAt, houts, List.head?_nil, Option.none_or] at hlooks
                cases hretries : p.retries (some jd.address) outTr with
                | false =>
                    rw [callRetryRequest_of_not_retries hretries]
                    exact Keeps.refl _ jc
                | true => exact absurd ⟨hdialog, houts, outTr, hown, hasked, hretries⟩ h
          simp only [Bool.not_true, Bool.false_eq_true, if_false]
          cases hrequest : callRequest p.now outTr with
          | counted =>
              dsimp only
              by_cases hretry : jd.dRetry < 3
              · rw [if_pos hretry]
                exact keeps_countRetry (hkeeps (Or.inl ⟨hrequest, hretry⟩)) hlisted
              · rw [if_neg hretry]
                exact ⟨jc, rfl, Keeps.refl _ jc⟩
          | uncounted => exact ⟨_, rfl, hkeeps (Or.inr hrequest)⟩
          | nothing => exact ⟨_, rfl, hrefresh⟩
          | refresh method => exact ⟨_, rfl, hrefresh⟩
          | proceed step => exact ⟨_, rfl, hrefresh⟩

theorem dialogAction_of_frees {a : Nat} {jd : ListedDialog} (hjd : jc.dialogAt a = some jd)
    (h : jc.FreesDialog p jd) {jc' : ListedCall} (hbody : jc.dialogAction p a = some jc') :
    a ∉ jc'.addresses := by
  obtain ⟨hmem, rfl⟩ := dialogAt_eq_some hjd
  obtain ⟨hdialog, houts, outTr, hown, hasked, hretries⟩ := h
  have hlooks : jc.looksAt jd = some outTr := by
    rw [looksAt, houts, List.head?_nil, Option.none_or]
    exact hown
  have hgone := @callRetryRequest_removes p jc jd outTr houts
    (answered_of_callRequest (hasked.imp_left And.left)) hretries
  unfold dialogAction at hbody
  rw [hjd] at hbody
  simp only [hdialog, Bool.not_true, Bool.false_eq_true, if_false, hlooks] at hbody
  obtain ⟨hcounted, hretry⟩ | huncounted := hasked
  · rw [hcounted] at hbody
    dsimp only at hbody
    rw [if_pos hretry, countRetry, if_neg hgone] at hbody
    cases hbody
  · rw [huncounted] at hbody
    cases hbody
    exact hgone

/-! ### The whole walk -/

/-- The dialog at the address is not freed by its own turn. -/
def StaysListed (p : RetryPass) (jc : ListedCall) (a : Nat) : Prop :=
  ∀ jd, jc.dialogAt a = some jd → ¬ jc.FreesDialog p jd

theorem staysListed_congr {a b : Nat} {jc' : ListedCall} (h : Keeps a jc jc') (hb : b ≠ a) :
    jc'.StaysListed p b ↔ jc.StaysListed p b := by
  unfold StaysListed FreesDialog RetriesCall
  rw [h.others b hb, h.cOutTr]

theorem staysListed_iff :
    (∀ a ∈ jc.addresses, jc.StaysListed p a) ↔ ∀ jd ∈ jc.cDialogs, ¬ jc.FreesDialog p jd := by
  constructor
  · intro h jd hjd
    exact h jd.address (List.mem_map_of_mem hjd) jd (dialogAt_of_mem hjd)
  · intro h a _ jd hjd
    exact h jd (dialogAt_eq_some hjd).1

theorem walk_iff (p : RetryPass) (jc : ListedCall) :
    (∃ left, (walk addresses (dialogAction p) jc.addresses.length jc jc.addresses.head?).2 =
        .ended left ∧ ∀ a ∈ left.addresses,
        (walk addresses (dialogAction p) jc.addresses.length jc jc.addresses.head?).1.count a = 1) ↔
      ∀ jd ∈ jc.cDialogs, ¬ jc.FreesDialog p jd := by
  have hkeep : ∀ (s : ListedCall) (a : Nat), a ∈ s.addresses → s.StaysListed p a →
      ∃ s', s.dialogAction p a = some s' ∧ s'.addresses = s.addresses ∧
        ∀ b, b ≠ a → (s'.StaysListed p b ↔ s.StaysListed p b) := by
    intro s a ha hstays
    obtain ⟨jd, hjd⟩ := exists_dialogAt ha
    obtain ⟨s', hbody, hkeeps⟩ := dialogAction_of_keeps hjd (hstays jd hjd)
    exact ⟨s', hbody, hkeeps.addresses, fun b hb => staysListed_congr hkeeps hb⟩
  have hfree : ∀ (s : ListedCall) (a : Nat), a ∈ s.addresses → ¬ s.StaysListed p a →
      ∀ s', s.dialogAction p a = some s' → a ∉ s'.addresses := by
    intro s a ha hstays s' hbody
    obtain ⟨jd, hjd⟩ := exists_dialogAt ha
    have hfrees : s.FreesDialog p jd := by
      by_contra hnot
      apply hstays
      intro other hother
      rw [hjd, Option.some.injEq] at hother
      rwa [← hother]
    exact dialogAction_of_frees hjd hfrees hbody
  rw [← staysListed_iff]
  by_cases hall : ∀ a ∈ jc.addresses, jc.StaysListed p a
  · obtain ⟨left, hwalk, hlisted⟩ := walk_of_good hkeep (List.nil_append _).symm jc.nodup hall
    rw [hwalk]
    refine iff_of_true ⟨left, rfl, ?_⟩ hall
    intro a ha
    rw [hlisted] at ha
    exact List.count_eq_one_of_mem jc.nodup ha
  · rw [not_forall] at hall
    have hbad : ∃ a ∈ jc.addresses, ¬ jc.StaysListed p a := by
      obtain ⟨a, ha⟩ := hall
      rw [Classical.not_imp] at ha
      exact ⟨a, ha⟩
    obtain ⟨visited, a, hwalk⟩ :=
      walk_of_not_good hkeep hfree (List.nil_append _).symm jc.nodup hbad
    rw [hwalk]
    refine iff_of_false ?_ fun h => ?_
    · rintro ⟨left, hended, -⟩
      cases hended
    · obtain ⟨b, hb, hnot⟩ := hbad
      exact hnot (h b hb)

theorem cDialogs_callAction (p : RetryPass) (jc : ListedCall) :
    (jc.callAction p).cDialogs = jc.cDialogs := by
  have hretry : ∀ outTr, (jc.callRetryRequest p none outTr).cDialogs = jc.cDialogs := by
    intro outTr
    unfold callRetryRequest
    split_ifs <;> rfl
  unfold callAction
  by_cases hid : jc.cId < 1
  · rw [if_pos hid]
  rw [if_neg hid]
  by_cases hnone : (jc.cDialogs.head?.all fun jd => !jd.dDialog) = true
  · rw [if_pos hnone]
    cases jc.cOutTr with
    | none => rfl
    | some outTr =>
        dsimp only
        cases callRequest p.now outTr with
        | counted =>
            dsimp only
            split_ifs
            · exact hretry outTr
            · rfl
        | uncounted => exact hretry outTr
        | nothing => rfl
        | refresh method => rfl
        | proceed step => rfl
  · rw [if_neg hnone]

theorem not_retriesCall_newTr {jc' : ListedCall} {method : Option Str}
    (h : jc'.cOutTr = some (p.newTr method)) (jd : Option ListedDialog) (retry : Nat) :
    ¬ jc'.RetriesCall p jd retry := by
  rintro ⟨outTr, houtTr, hasked, -⟩
  rw [Option.mem_def, h, Option.some.injEq] at houtTr
  have hanswered := answered_of_callRequest (hasked.imp_left And.left)
  rw [← houtTr] at hanswered
  simp [RetryPass.newTr, Pass.newTr] at hanswered

theorem cOutTr_of_retriesFirst (h : jc.RetriesFirst p) :
    ∃ method, (jc.callAction p).cOutTr = some (p.newTr method) := by
  obtain ⟨hid, hnone, outTr, hown, hasked, hretries⟩ := h
  have hanswered := answered_of_callRequest (hasked.imp_left And.left)
  have hsent : (jc.callRetryRequest p none outTr).cOutTr =
      some (p.newTr outTr.origRequest) := by
    unfold callRetryRequest
    rw [hanswered, hretries]
    rfl
  refine ⟨outTr.origRequest, ?_⟩
  unfold callAction
  rw [if_neg (by omega), if_pos hnone, Option.mem_def.1 hown]
  dsimp only
  obtain ⟨hcounted, hretry⟩ | huncounted := hasked
  · rw [hcounted]
    dsimp only
    rw [if_pos hretry]
    exact hsent
  · rw [huncounted]
    exact hsent

theorem cOutTr_of_not_retriesFirst (h : ¬ jc.RetriesFirst p) :
    (jc.callAction p).cOutTr = jc.cOutTr := by
  unfold callAction
  by_cases hid : jc.cId < 1
  · rw [if_pos hid]
  rw [if_neg hid]
  by_cases hnone : (jc.cDialogs.head?.all fun jd => !jd.dDialog) = true
  · rw [if_pos hnone]
    cases hown : jc.cOutTr with
    | none => exact hown
    | some outTr =>
        have hfails : (callRequest p.now outTr = .counted ∧ jc.cRetry < 3 ∨
            callRequest p.now outTr = .uncounted) → p.retries none outTr = false := by
          intro hasked
          by_contra hretries
          rw [Bool.not_eq_false] at hretries
          exact h ⟨by omega, hnone, outTr, hown, hasked, hretries⟩
        dsimp only
        cases hrequest : callRequest p.now outTr with
        | counted =>
            dsimp only
            split_ifs with hretry
            · have hsame := @callRetryRequest_of_not_retries p jc none outTr
                (hfails (Or.inl ⟨hrequest, hretry⟩))
              rw [hsame]
              exact hown
            · exact hown
        | uncounted =>
            have hsame := @callRetryRequest_of_not_retries p jc none outTr (hfails (Or.inr hrequest))
            rw [hsame]
            exact hown
        | nothing => exact hown
        | refresh method => exact hown
        | proceed step => exact hown
  · rw [if_neg hnone]

theorem walksListed_of_call (p : RetryPass) (jc : ListedCall) :
    jc.WalksListed p ↔ jc.RetriesFirst p ∨ ∀ jd ∈ jc.cDialogs, ¬ jc.FreesDialog p jd := by
  unfold WalksListed automaticAction
  rw [walk_iff, cDialogs_callAction]
  by_cases hfirst : jc.RetriesFirst p
  · obtain ⟨method, hnew⟩ := cOutTr_of_retriesFirst hfirst
    refine iff_of_true ?_ (Or.inl hfirst)
    rintro jd - ⟨-, -, hretries⟩
    exact not_retriesCall_newTr hnew (some jd) jd.dRetry hretries
  · simp only [hfirst, false_or, FreesDialog, RetriesCall, cOutTr_of_not_retriesFirst hfirst]

/-- In the pass over all calls only listed dialogs are used, and each one that stays is visited
once, exactly when no retry of a call's request is made for a dialog: in each call, unless that
request was sent again for the call itself just before, no dialog without a transaction of its
own finds it rejected and has it sent again. -/
theorem walksListed_iff (p : RetryPass) (jCalls : List ListedCall) :
    (∀ jc ∈ jCalls, jc.WalksListed p) ↔
      ∀ jc ∈ jCalls, jc.RetriesFirst p ∨ ∀ jd ∈ jc.cDialogs, ¬ jc.FreesDialog p jd :=
  forall₂_congr fun jc _ => walksListed_of_call p jc

/-- A call whose INVITE was challenged after a provisional response had made a dialog. -/
def challengedCall : ListedCall where
  cId := 1
  cRetry := 0
  cOutTr := some ⟨.ictCompleted, 0, some "INVITE".toList, some 401⟩
  cDialogs := [⟨⟨true, 2, 0, [], -1, 0, 0, 0⟩, 7⟩]
  nodup := by decide

/-- The dialog is freed by the retry, and its counter is raised after that. -/
theorem challengedCall_not_walksListed :
    ¬ ∀ jc ∈ [challengedCall], jc.WalksListed ⟨1, fun _ _ => true, fun _ => true⟩ := by
  intro h
  obtain ⟨left, hended, -⟩ := h challengedCall List.mem_cons_self
  revert hended
  have hfreed : (challengedCall.automaticAction ⟨1, fun _ _ => true, fun _ => true⟩).2 =
      .freed 7 := by decide
  rw [hfreed]
  intro hended
  cases hended

end ListedCall
end Exosip
