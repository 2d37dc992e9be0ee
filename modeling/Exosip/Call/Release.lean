import Exosip.Call.Owners

/-! The retry of a request, the release of finished calls, and the machine of the calls. -/
namespace Exosip.Owners

/-! ### Freeing -/

/-- The transactions of a list lose their owners and go to `j_transactions`. -/
def freeTransactions (s : Owners) : List Nat → Owners
  | [] => s
  | t :: ts => freeTransactions ((s.setTr t OwnedTr.deleteReserved).addTransaction t) ts

/-- `_eXosip_dialog_free`. -/
def dialogFree (s : Owners) (jd : OwnedDialog) : Owners := (s.freeTransactions jd.trs).update

def dialogsFree (s : Owners) : List OwnedDialog → Owners
  | [] => s
  | jd :: jds => dialogsFree (s.dialogFree jd) jds

/-- `_eXosip_call_free`, after `REMOVE_ELEMENT (excontext->j_calls, jc)`. -/
def callFree (s : Owners) (jc : OwnedCall) : Owners :=
  (({ s with jCalls := s.jCalls.filter fun jc' => jc'.address ≠ jc.address }).dialogsFree
    jc.cDialogs).freeTransactions (jc.cIncTr.toList ++ jc.cOutTr.toList)

/-- `REMOVE_ELEMENT (jc->c_dialogs, jd)` and `_eXosip_dialog_free`. -/
def removeDialog (s : Owners) (jc : OwnedCall) (jd : OwnedDialog) : Owners :=
  (s.modifyCall jc.address (OwnedCall.removeDialog jd.address)).dialogFree jd

def forgetDialog (s : Owners) (d : Nat) (tr : Option Nat) : Owners :=
  tr.elim s fun t =>
    if (s.memory t).reserved3 = some d then s.setTr t fun tr => { tr with reserved3 := none }
    else s

/-- `_eXosip_call_remove_dialog_reference_in_call`. -/
def removeDialogReference (s : Owners) (jc : OwnedCall) (jd : OwnedDialog) : Owners :=
  (s.forgetDialog jd.address jc.cIncTr).forgetDialog jd.address jc.cOutTr

/-! ### The retry -/

/-- The new transaction takes the place of `jc->c_out_tr`, which goes to `j_transactions`. -/
def replaceRequest (s : Owners) (jc : OwnedCall) (outTr : Nat) (state : State) (now : Int) :
    Owners :=
  let tr := s.fresh
  ((s.transactionInit (s.memory outTr).method (s.memory outTr).toTag state now).addTransaction
    outTr).modifyCall jc.address fun jc => { jc with cOutTr := some tr }

/-- `_eXosip_call_retry_request`, for a message that can be built. A request of the call
itself takes the dialog with it. -/
def callRetryRequest (s : Owners) (jc : OwnedCall) (jd : Option OwnedDialog) (outTr : Nat)
    (now : Int) : Owners :=
  let method := (s.memory outTr).method
  let state := if method = .invite then State.ictPreCalling else .nictPreTrying
  if (s.memory outTr).lastResponse.isNone then s
  else if jc.cOutTr = some outTr then
    let replaced := s.replaceRequest jc outTr state now
    ((jd.elim replaced fun jd => replaced.removeDialog jc jd).setReserved s.fresh
      (some jc.address) none).update
  else jd.elim s fun jd => (s.createTransaction jc jd method state now).update

/-! ### The release -/

/-- What a function of the release decides about a dialog or about its call. -/
inductive Release where
  | nothing | dialog | call
  deriving DecidableEq

/-- `_eXosip_pendingosip_transaction_exist` for one list and method: a transaction that never
ends is taken out after 180 seconds. -/
def pendingIn (s : Owners) (c : Nat) (tr : Option Nat) (terminated : State) (now : Int) :
    Bool × Owners :=
  tr.elim (false, s) fun t =>
    if (s.memory t).state = terminated then (false, s)
    else if (s.memory t).birthTime + 180 < now then
      (false, ((s.removeTransaction t).modifyCall c
        (OwnedCall.removeTransaction t)).addTransaction t)
    else (true, s)

/-- `_eXosip_pendingosip_transaction_exist`, up to its last test. The lists are read again
for each method. -/
def pendingMethod (s : Owners) (c d : Nat) (method : RequestMethod) (now : Int) :
    Bool × Owners :=
  let list := fun (s : Owners) (trs : OwnedDialog → List Nat) =>
    (s.callAt c).bind fun jc => (dialogAt jc d).bind fun jd => s.findLast method (trs jd)
  let inc := s.pendingIn c (list s OwnedDialog.dIncTrs) .nistTerminated now
  if inc.1 then inc
  else inc.2.pendingIn c (list inc.2 OwnedDialog.dOutTrs) .nictTerminated now

def pendingInvite (s : Owners) (c d : Nat) (now : Int) : Bool :=
  (s.callAt c).any fun jc =>
    (s.findLastIncInvite jc (dialogAt jc d)).any (fun t =>
      (s.memory t).state ≠ .istTerminated && !((s.memory t).birthTime + 180 < now)) ||
    (s.findLastOutInvite jc (dialogAt jc d)).any fun t =>
      (s.memory t).state ≠ .ictTerminated && !(jc.expireTime < now)

/-- `_eXosip_pendingosip_transaction_exist`. -/
def pendingTransactionExist (s : Owners) (c d : Nat) (now : Int) : Bool × Owners :=
  let bye := s.pendingMethod c d .bye now
  if bye.1 then bye
  else if bye.2.pendingInvite c d now then (true, bye.2)
  else bye.2.pendingMethod c d .refer now

/-- The first transaction of the list, its head apart, that has ended 30 seconds ago. The last
INVITE is kept. -/
def finishedIn (s : Owners) (trs : List Nat) (invite other : State) (lastInvite : Option Nat)
    (now : Int) : Option Nat :=
  trs.tail.find? fun t =>
    (s.memory t).birthTime + 30 < now &&
      if (s.memory t).method = .invite then lastInvite ≠ some t && (s.memory t).state = invite
      else (s.memory t).state = other

/-- A transaction of the dialog goes to `j_transactions`, with its owners. -/
def moveTransaction (s : Owners) (c d t : Nat) (f : OwnedDialog → OwnedDialog) : Owners :=
  ((s.removeTransaction t).modifyDialog c d f).addTransaction t

/-- `_eXosip_release_finished_transactions`: one of each direction. -/
def releaseFinishedTransactions (s : Owners) (c d : Nat) (now : Int) : Bool × Owners :=
  match (s.callAt c).bind fun jc => (dialogAt jc d).map fun jd => (jc, jd) with
  | none => (false, s)
  | some (jc, jd) =>
      let inc := s.finishedIn jd.dIncTrs .istTerminated .nistTerminated
        (s.findLastIncInvite jc (some jd)) now
      let out := s.finishedIn jd.dOutTrs .ictTerminated .nictTerminated
        (s.findLastOutInvite jc (some jd)) now
      let moved := inc.elim s fun t => s.moveTransaction c d t (OwnedDialog.removeIncTr t)
      (inc.isSome || out.isSome,
        out.elim moved fun t => moved.moveTransaction c d t (OwnedDialog.removeOutTr t))

/-- The functions that free a dialog or a call. -/
inductive ReleaseKind where
  | finishedCalls | abortedCalls | removedDialog | emptyCall
  deriving DecidableEq

/-- `_eXosip_release_finished_calls`: a BYE has ended. -/
def finishedCalls (s : Owners) (jd : OwnedDialog) : Release :=
  match (s.findLast .bye jd.dIncTrs).or (s.findLast .bye jd.dOutTrs) with
  | none => .nothing
  | some t =>
      if (s.memory t).state ∈ [State.nistTerminated, .nictTerminated] then .dialog else .nothing

/-- `_eXosip_release_aborted_calls`, by the first INVITE of the call. -/
def abortedCalls (s : Owners) (jc : OwnedCall) (now : Int) : Release :=
  match jc.cIncTr.or jc.cOutTr with
  | none => .dialog
  | some t =>
      let tr := s.memory t
      if tr.state ∉ [State.istTerminated, .ictTerminated] then
        if tr.birthTime + 180 < now then .dialog else .nothing
      else if jc.cIncTr.isSome then
        if tr.answered (300 ≤ ·) then .call else .nothing
      else if tr.lastResponse.isNone then .call
      else if tr.answered (300 ≤ ·) && tr.completedTime + 2 < now then .call
      else if tr.answered (400 ≤ ·) then .call
      else .nothing

/-- The last branch of the first loop: a dialog whose `osip_dialog_t` is gone. -/
def removedDialog (jd : OwnedDialog) : Release := if jd.hasId then .nothing else .dialog

def emptyCall (s : Owners) (jc : OwnedCall) (now : Int) : Release :=
  let old := fun t => (s.memory t).birthTime + 180 < now
  let incGoesOn := jc.cIncTr.any fun t => (s.memory t).state ≠ .istTerminated
  let outGoesOn := jc.cOutTr.any fun t => (s.memory t).state ≠ .ictTerminated
  if !jc.cDialogs.isEmpty then .nothing
  else if incGoesOn && jc.cIncTr.any (fun t => old t) then .call
  else if outGoesOn && jc.cOutTr.any (fun t => old t) then .call
  else if incGoesOn || outGoesOn then .nothing
  else if jc.cOutTr.any fun t => (s.memory t).completedTime + 10 > now then .nothing
  else .call

def decision (s : Owners) (kind : ReleaseKind) (jc : OwnedCall) (jd : Option OwnedDialog)
    (now : Int) : Release :=
  match kind, jd with
  | .finishedCalls, some jd => s.finishedCalls jd
  | .abortedCalls, some _ => s.abortedCalls jc now
  | .removedDialog, some jd => removedDialog jd
  | .emptyCall, none => s.emptyCall jc now
  | _, _ => .nothing

/-- `_eXosip_release_call`, or the removal of the references, of the dialog from its call and
of the dialog itself. -/
def free (s : Owners) (jc : OwnedCall) (jd : Option OwnedDialog) : Release → Owners
  | .nothing => s
  | .dialog => jd.elim s fun jd => (s.removeDialogReference jc jd).removeDialog jc jd
  | .call => s.callFree jc

def visited (jc : OwnedCall) (d : Option Nat) : Option (Option OwnedDialog) :=
  d.elim (some none) fun d => (dialogAt jc d).map some

def release (s : Owners) (kind : ReleaseKind) (c : Nat) (d : Option Nat) (now : Int) :
    Bool × Owners :=
  match (s.callAt c).bind fun jc => (visited jc d).map fun jd => (jc, jd) with
  | none => (false, s)
  | some (jc, jd) =>
      let r := s.decision kind jc jd now
      (r != .nothing, s.free jc jd r)

/-- The third loop: a transaction of `j_transactions` that has ended, or is 180 seconds old. -/
def releaseTransaction (s : Owners) (t : Nat) (now : Int) : Owners :=
  let tr := s.memory t
  let free := fun s : Owners =>
    ({ s with jTransactions := s.jTransactions.erase t }).transactionFree t
  if t ∉ s.jTransactions then s
  else if tr.state = .nictTerminated && tr.lastResponse.isSome && tr.completedTime + 5 > now then s
  else if tr.state ∈ [State.istTerminated, .ictTerminated, .nictTerminated, .nistTerminated] then
    free s
  else if tr.birthTime + 180 < now then free s
  else s

/-! ### The machine -/

/-- What happens to the calls. A transaction that the stack runs changes its state, ends or
gets a response; the functions of the release come one by one. -/
inductive OwnerInput where
  | callSendInitialInvite (now : Int)
  | sendOutOfDialog (method : RequestMethod) (now : Int)
  | callSendRequest (d : Nat) (method : RequestMethod) (now : Int)
  | callSendPrack (t : Nat) (now : Int)
  | callSendAnswer (t : Nat) (status : Int)
  | callTerminate (c : Nat) (d : Option Nat) (now : Int)
  | request (a : Arrival) (now : Int)
  | transaction (t : Nat) (state : State) (completedTime : Int)
  | response (t : Nat) (r : ResponseRead) (now : Int)
  | kill (t : Nat)
  | retry (c : Nat) (d : Option Nat) (outTr : Nat) (now : Int)
  | pendingTransactionExist (c d : Nat) (now : Int)
  | releaseFinishedTransactions (c d : Nat) (now : Int)
  | release (kind : ReleaseKind) (c : Nat) (d : Option Nat) (now : Int)
  | releaseTransaction (t : Nat) (now : Int)

/-- `_eXosip_call_retry_request` of a transaction of the call. -/
def retry (s : Owners) (c : Nat) (d : Option Nat) (outTr : Nat) (now : Int) : Owners :=
  match (s.callAt c).bind fun jc => (visited jc d).map fun jd => (jc, jd) with
  | none => s
  | some (jc, jd) => if outTr ∈ jc.trs then s.callRetryRequest jc jd outTr now else s

def apply (s : Owners) : OwnerInput → Owners
  | .callSendInitialInvite now => s.callSendInitialInvite now
  | .sendOutOfDialog method now => s.sendOutOfDialog method now
  | .callSendRequest d method now => s.callSendRequest d method now
  | .callSendPrack t now => s.callSendPrack t now
  | .callSendAnswer t status => s.callSendAnswer t status
  | .callTerminate c d now => s.callTerminate c d now
  | .request a now => s.processRequest a now
  | .transaction t state completedTime =>
      if t ∈ s.osipTransactions then s.setTr t fun tr => { tr with state, completedTime } else s
  | .response t r now => if t ∈ s.osipTransactions then s.rcvResponseOf t r now else s
  | .kill t => s.removeTransaction t
  | .retry c d outTr now => s.retry c d outTr now
  | .pendingTransactionExist c d now => (s.pendingTransactionExist c d now).2
  | .releaseFinishedTransactions c d now => (s.releaseFinishedTransactions c d now).2
  | .release kind c d now => (s.release kind c d now).2
  | .releaseTransaction t now => s.releaseTransaction t now

def step : Machine.Step Owners OwnerInput Unit := fun s input => (s.apply input, [])

/-! ### A whole pass -/

/-- The inputs of one turn of the first loop, and whether the loop goes on to the next dialog
of the call. -/
def turn (s : Owners) (c d : Nat) (now : Int) : List OwnerInput × Bool :=
  let pending := s.pendingTransactionExist c d now
  let finished := pending.2.releaseFinishedTransactions c d now
  let ended := finished.2.release .finishedCalls c (some d) now
  let aborted := ended.2.release .abortedCalls c (some d) now
  let inputs : List OwnerInput := [.pendingTransactionExist c d now,
    .releaseFinishedTransactions c d now, .release .finishedCalls c (some d) now,
    .release .abortedCalls c (some d) now, .release .removedDialog c (some d) now]
  if pending.1 then (inputs.take 1, true)
  else if finished.1 then (inputs.take 2, true)
  else if ended.1 then (inputs.take 3, true)
  else if aborted.1 then (inputs.take 4, false)
  else (inputs, true)

def passDialogs (c : Nat) (now : Int) : Owners → List Nat → List OwnerInput
  | _, [] => []
  | s, d :: ds =>
      let inputs := (s.turn c d now).1
      if (s.turn c d now).2 then
        inputs ++ passDialogs c now (Machine.run step s inputs).1 ds
      else inputs

def passCalls (now : Int) : Owners → List Nat → List OwnerInput
  | _, [] => []
  | s, c :: cs =>
      let ds := ((s.callAt c).elim [] OwnedCall.cDialogs).map (·.address)
      let inputs := passDialogs c now s ds
      inputs ++ passCalls now (Machine.run step s inputs).1 cs

/-- `_eXosip_release_terminated_calls`, as the inputs of its three loops. -/
def releaseTerminatedCalls (s : Owners) (now : Int) : List OwnerInput :=
  let first := passCalls now s (s.jCalls.map (·.address))
  let s₁ := (Machine.run step s first).1
  let second := s₁.jCalls.map fun jc => OwnerInput.release .emptyCall jc.address none now
  let s₂ := (Machine.run step s₁ second).1
  first ++ second ++ s₂.jTransactions.map fun t => OwnerInput.releaseTransaction t now

end Exosip.Owners
