import Exosip.Dialog.Request
import Exosip.Dialog.Response
import Exosip.Stack.Matching

/-! The calls, subscriptions and notifications of the application, their dialogs and their
transactions, and the place of a dialog among them. -/
namespace Exosip

open CString

/-- What the dispatcher reads of an `osip_transaction_t`. The headers are clones, so that the
CSeq has its method. -/
structure Tr where
  transactionid : Int
  topvia : Via
  fromHeader : From
  toHeader : To
  callid : CallId
  cseq : Cseq
  origRequest : Option SipFields
  state : State
  deriving DecidableEq

def Tr.ofTransaction {κ : Type} (tr : Transaction κ) : Tr where
  transactionid := tr.transactionid
  topvia := tr.topvia
  fromHeader := tr.fromHeader
  toHeader := tr.toHeader
  callid := tr.callid
  cseq := tr.cseq
  origRequest := none
  state := tr.state

/-- `eXosip_dialog_t`. -/
structure EXosipDialog where
  dDialog : Option Dialog
  dIncTrs : List Tr
  dOutTrs : List Tr

/-- What `eXosip_call_t`, `eXosip_subscribe_t` and `eXosip_notify_t` have in common, with the
members of one kind only in `info`. -/
structure Element (ι : Type) where
  dialogs : List EXosipDialog
  incTr : Option Tr
  outTr : Option Tr
  info : ι

inductive SsStatus where
  | unknown
  | pending
  | active
  | terminated
  deriving DecidableEq, Repr

structure NotifyInfo where
  nSsStatus : SsStatus
  nSsExpires : Int

abbrev EXosipCall := Element Unit
abbrev EXosipSubscribe := Element SsStatus
abbrev EXosipNotify := Element NotifyInfo

/-- The part of `eXosip_t` that requests change. The transactions of the stack are those of
its two lists of server transactions. -/
structure EXosip where
  jCalls : List EXosipCall
  jSubscribes : List EXosipSubscribe
  jNotifies : List EXosipNotify
  jTransactions : List Tr
  osipTransactions : List Tr
  autoanswerBye : Int

namespace EXosip

/-- `osip_list_add (&excontext->j_transactions, transaction, 0)`. -/
def addTransaction (s : EXosip) (tr : Tr) : EXosip :=
  { s with jTransactions := tr :: s.jTransactions }

/-- `__osip_add_ist` and `__osip_add_nist`. -/
def withTransaction (s : EXosip) (tr : Tr) : EXosip :=
  { s with osipTransactions := s.osipTransactions ++ [tr] }

/-- `_eXosip_transaction_free`. -/
def transactionFree (s : EXosip) (tr : Tr) : EXosip :=
  { s with osipTransactions := s.osipTransactions.erase tr }

end EXosip

/-! ### The dialog that was found -/

/-- `jd` in the list of dialogs of `jc`, `js` or `jn`, and that in its own list. The dialogs
of `element` itself are not looked at. -/
structure Place (ι : Type) where
  before : List (Element ι)
  element : Element ι
  dialogsBefore : List EXosipDialog
  dialog : EXosipDialog
  dialogsAfter : List EXosipDialog
  after : List (Element ι)

namespace Place

variable {ι : Type}

/-- The element with the dialog in its place. -/
def current (p : Place ι) : Element ι :=
  { p.element with dialogs := p.dialogsBefore ++ p.dialog :: p.dialogsAfter }

def elements (p : Place ι) : List (Element ι) := p.before ++ p.current :: p.after

/-- `osip_list_add (jd->d_inc_trs, transaction, 0)`. -/
def addIncTr (p : Place ι) (tr : Tr) : Place ι :=
  { p with dialog := { p.dialog with dIncTrs := tr :: p.dialog.dIncTrs } }

def setDialog (p : Place ι) (dDialog : Option Dialog) : Place ι :=
  { p with dialog := { p.dialog with dDialog } }

def setInfo (p : Place ι) (info : ι) : Place ι := { p with element := { p.element with info } }

def updateDialog (p : Place ι) (update : Dialog → Int × Dialog) : Place ι :=
  p.setDialog (p.dialog.dDialog.map fun dlg => (update dlg).2)

end Place

/-- The value that a call gives, or none after an error code. -/
def returned {α : Type} (x : Result α) : Result (Option α) :=
  match x with
  | .ok a => .ok (some a)
  | .error (.code _) => .ok none
  | .error .fault => .error .fault

/-- The test of one dialog in the search: `osip_dialog_match_as_uas` where there is a dialog. -/
def EXosipDialog.matchesRequest (jd : EXosipDialog) (sip : SipFields) : Result Bool :=
  match jd.dDialog with
  | none => .ok false
  | some dlg => do .ok (← returned (dlg.matchAsUas sip).result).isSome

def findDialogOf (sip : SipFields) :
    List EXosipDialog → Result (Option (List EXosipDialog × EXosipDialog × List EXosipDialog))
  | [] => .ok none
  | jd :: jds => do
      if ← jd.matchesRequest sip then .ok (some ([], jd, jds))
      else .ok ((← findDialogOf sip jds).map fun found => (jd :: found.1, found.2))

/-- The search for a dialog that the dispatcher makes in each of its three lists. -/
def findPlace {ι : Type} (sip : SipFields) : List (Element ι) → Result (Option (Place ι))
  | [] => .ok none
  | element :: elements => do
      match ← findDialogOf sip element.dialogs with
      | some (dialogsBefore, dialog, dialogsAfter) =>
          .ok (some ⟨[], element, dialogsBefore, dialog, dialogsAfter, elements⟩)
      | none =>
          .ok ((← findPlace sip elements).map fun p => { p with before := element :: p.before })

theorem findDialogOf_eq_some {sip : SipFields} {jds : List EXosipDialog}
    {found : List EXosipDialog × EXosipDialog × List EXosipDialog}
    (h : findDialogOf sip jds = .ok (some found)) : jds = found.1 ++ found.2.1 :: found.2.2 := by
  induction jds generalizing found with
  | nil => cases h
  | cons jd jds ih =>
      rw [findDialogOf, exists_ok_bind] at h
      obtain ⟨matching, -, h⟩ := h
      cases matching with
      | true =>
          cases h
          rfl
      | false =>
          rw [if_neg Bool.false_ne_true, exists_ok_bind] at h
          obtain ⟨found', hfound', h⟩ := h
          cases found' with
          | none => cases h
          | some found' =>
              cases h
              rw [ih hfound']
              rfl

theorem elements_findPlace {ι : Type} {sip : SipFields} {elements : List (Element ι)}
    {p : Place ι} (h : findPlace sip elements = .ok (some p)) : p.elements = elements := by
  induction elements generalizing p with
  | nil => cases h
  | cons element elements ih =>
      rw [findPlace, exists_ok_bind] at h
      obtain ⟨found, hfound, h⟩ := h
      cases found with
      | some found =>
          cases h
          have hdialogs := findDialogOf_eq_some hfound
          simp [Place.elements, Place.current, ← hdialogs]
      | none =>
          simp only [exists_ok_bind] at h
          obtain ⟨q, hq, h⟩ := h
          cases q with
          | none => cases h
          | some q =>
              cases h
              rw [← ih hq]
              rfl

end Exosip
