import Exosip.Machine.Budget
import Exosip.Transaction.Basic

/-! `eXosip_automatic_action`: the requests that are sent again or refreshed on their own for
calls, registrations, subscriptions, notifications and publications. -/
namespace Exosip

open CString Machine

def transactionTimeoutRetry : Int := 120

/-- What is read of an `osip_transaction_t`: the method of the request and the status of the
last response. -/
structure SentTr where
  state : State
  birthTime : Int
  origRequest : Option Str
  lastResponse : Option Int
  deriving DecidableEq

namespace SentTr

/-- `MSG_IS_STATUS_2XX (tr->last_response)`, where there is one. -/
def succeeded (tr : SentTr) : Bool := tr.lastResponse.any fun code => 200 ≤ code && code < 300

def isOverNict (tr : SentTr) : Bool := tr.state = .nictTerminated || tr.state = .nictCompleted

def isOver (tr : SentTr) : Bool :=
  tr.state = .ictTerminated || tr.state = .ictCompleted || tr.isOverNict

def age (tr : SentTr) (now : Int) : Int := now - tr.birthTime

/-- The request was answered lately, with one of the codes. -/
def rejectedBy (tr : SentTr) (now : Int) (codes : Int → Bool) : Bool :=
  tr.age now < transactionTimeoutRetry && tr.origRequest.isSome && tr.lastResponse.any codes

end SentTr

def isChallenge (code : Int) : Bool := code = 401 || code = 407
def isRedirect (code : Int) : Bool := 300 ≤ code && code ≤ 399

inductive RegistrationStep where
  | none
  | deletionRequired
  | deletionProceeding
  | masqueradingRequired
  | masqueradingProceeding
  /-- `RS_MASQUERADINGPROCEEDING+1`. -/
  | masqueraded
  deriving DecidableEq, Repr

/-- The period after which an object is refreshed; the step is that of a registration. -/
structure RetryInfo where
  period : Int
  registrationStep : RegistrationStep
  deriving DecidableEq, Repr

/-- `eXosip_dialog_t`; the latest of its requests is the first of `dOutTrs`. -/
structure RetryDialog where
  dDialog : Bool
  dId : Int
  dRetry : Nat
  dOutTrs : List SentTr
  dRefresher : Int
  dSessionTimerStart : Int
  dSessionTimerLength : Int
  dSessionTimerUseUpdate : Int
  deriving DecidableEq

/-- A call, registration, subscription, notification or publication: its counter, its own
request and its dialogs, the latest first and none where a dialog was freed. -/
structure RetryObject where
  retry : Nat
  outTr : Option SentTr
  dialogs : List (Option RetryDialog)
  info : RetryInfo
  deriving DecidableEq

/-- What is done about a request: to send it again, with or without a look at the counter, or
to send another one that refreshes it. -/
inductive Decision where
  | nothing
  | counted
  | uncounted
  | refresh (method : Option Str)
  | proceed (step : RegistrationStep)
  deriving DecidableEq

/-- What distinguishes the loops over the five kinds of objects. -/
structure RetryRules where
  ownWhen : List (Option RetryDialog) → Bool
  own : Int → RetryInfo → SentTr → Decision
  dialogWhen : RetryDialog → Bool
  fallsBack : Bool
  freesDialog : Bool
  resets : Str → Bool
  dialog : Int → RetryInfo → RetryDialog → Option SentTr → Decision

/-! ### The five loops -/

def callRequest (now : Int) (tr : SentTr) : Decision :=
  if tr.isOver && tr.rejectedBy now isChallenge then .counted
  else if tr.isOver && tr.rejectedBy now (· == 422) then .counted
  else if tr.isOver && tr.rejectedBy now isRedirect then .uncounted
  else .nothing

def sessionTimer (now : Int) (jd : RetryDialog) : Decision :=
  let expires := jd.dSessionTimerStart + jd.dSessionTimerLength
  if jd.dRefresher = 0 then
    if 0 < now - expires then .nothing
    else if expires - now < jd.dSessionTimerLength.tdiv 2 then
      .refresh (some (if jd.dSessionTimerUseUpdate = 1 then "UPDATE" else "INVITE").toList)
    else .nothing
  else .nothing

def callDialog (now : Int) (jd : RetryDialog) (outTr : Option SentTr) : Decision :=
  match outTr.map (callRequest now) with
  | some .counted => .counted
  | some .uncounted => .uncounted
  | _ => sessionTimer now jd

def noDialog (dialogs : List (Option RetryDialog)) : Bool :=
  match (dialogs.filterMap id).head? with
  | none => true
  | some jd => !jd.dDialog

/-- The methods of the 2xx that reset the counters of calls, subscriptions and dialogs. -/
def resetsOfDialogs (method : Str) : Bool := method != "PUBLISH".toList && method != "REGISTER".toList

def callRules : RetryRules where
  ownWhen := noDialog
  own := fun now _ tr => callRequest now tr
  dialogWhen := fun _ => true
  fallsBack := true
  freesDialog := true
  resets := resetsOfDialogs
  dialog := fun now _ jd outTr => callDialog now jd outTr

def registrationRequest (now : Int) (jr : RetryInfo) (tr : SentTr) : Decision :=
  if jr.period ≠ 0 && 900 < tr.age now then .refresh tr.origRequest
  else if jr.period ≠ 0 &&
      (jr.period - jr.period.tdiv 10 < tr.age now || jr.period - 6 < tr.age now) then
    .refresh tr.origRequest
  else if jr.period ≠ 0 && transactionTimeoutRetry < tr.age now && !tr.succeeded then
    .refresh tr.origRequest
  else if tr.rejectedBy now fun code => isChallenge code || code == 423 || code == 606 then .counted
  else if jr.registrationStep = .deletionRequired && tr.origRequest.isSome && tr.succeeded then
    .proceed .deletionProceeding
  else if jr.registrationStep = .masqueradingRequired && tr.origRequest.isSome && tr.succeeded then
    .proceed .masqueradingProceeding
  else .nothing

def registrationRules : RetryRules where
  ownWhen := fun _ => true
  own := registrationRequest
  dialogWhen := fun _ => false
  fallsBack := false
  freesDialog := false
  resets := (· == "REGISTER".toList)
  dialog := fun _ _ _ _ => .nothing

def subscribeRequest (now : Int) (tr : SentTr) : Decision :=
  if tr.isOverNict && tr.rejectedBy now fun code => isChallenge code || code == 423 then .counted
  else .nothing

def subscribeDialog (now : Int) (js : RetryInfo) (outTr : Option SentTr) : Decision :=
  match outTr with
  | none => .nothing
  | some tr =>
      if tr.isOverNict && tr.rejectedBy now isChallenge then .counted
      else if js.period = 0 then .nothing
      else if tr.isOverNict && tr.origRequest.isSome && tr.lastResponse.any (300 ≤ ·) then .nothing
      else if tr.isOverNict &&
          (js.period - js.period.tdiv 10 < tr.age now || js.period - 6 < tr.age now) then
        if tr.origRequest = some "REFER".toList then .nothing else .refresh tr.origRequest
      else .nothing

def subscribeRules : RetryRules where
  ownWhen := fun dialogs => (dialogs.filterMap id).isEmpty
  own := fun now _ tr => subscribeRequest now tr
  dialogWhen := fun jd => 1 ≤ jd.dId
  fallsBack := true
  freesDialog := false
  resets := resetsOfDialogs
  dialog := fun now js _ outTr => subscribeDialog now js outTr

def notifyDialog (now : Int) (outTr : Option SentTr) : Decision :=
  match outTr with
  | none => .nothing
  | some tr => if tr.isOverNict && tr.rejectedBy now isChallenge then .counted else .nothing

def notifyRules : RetryRules where
  ownWhen := fun _ => false
  own := fun _ _ _ => .nothing
  dialogWhen := fun jd => 1 ≤ jd.dId
  fallsBack := false
  freesDialog := false
  resets := resetsOfDialogs
  dialog := fun now _ _ outTr => notifyDialog now outTr

def publicationRequest (now : Int) (jpub : RetryInfo) (tr : SentTr) : Decision :=
  if jpub.period ≠ 0 && 900 < tr.age now then .refresh tr.origRequest
  else if jpub.period ≠ 0 && jpub.period - jpub.period.tdiv 10 < tr.age now then
    .refresh tr.origRequest
  else if jpub.period ≠ 0 && transactionTimeoutRetry < tr.age now && !tr.succeeded then
    .refresh tr.origRequest
  else if tr.rejectedBy now isChallenge then .counted
  else if tr.rejectedBy now fun code => code == 412 || code == 423 then .uncounted
  else .nothing

def publicationRules : RetryRules where
  ownWhen := fun _ => true
  own := publicationRequest
  dialogWhen := fun _ => false
  fallsBack := false
  freesDialog := false
  resets := (· == "PUBLISH".toList)
  dialog := fun _ _ _ _ => .nothing

/-- The loops of `eXosip_automatic_action`. -/
inductive RetryKind where
  | call
  | registration
  | subscription
  | notification
  | publication
  deriving DecidableEq, Repr

def RetryKind.rules : RetryKind → RetryRules
  | call => callRules
  | registration => registrationRules
  | subscription => subscribeRules
  | notification => notifyRules
  | publication => publicationRules

/-! ### A pass -/

/-- The time of a pass, and for which requests another one can be built and sent. -/
structure Pass where
  now : Int
  sends : Option SentTr → Bool

/-- Whose request it is: that of the object itself or of one of its dialogs. -/
inductive Owner where
  | object
  | dialog (index : Nat)
  deriving DecidableEq, Repr

/-- A request that was sent on its own; a retry is one after a request that did not succeed. -/
structure AutomaticRequest where
  owner : Owner
  retry : Bool
  deriving DecidableEq, Repr

def AutomaticRequest.retries (owner : Owner) (request : AutomaticRequest) : Bool :=
  request.retry && request.owner = owner

namespace Pass

/-- `_eXosip_transaction_init`. -/
def newTr (p : Pass) (method : Option Str) : SentTr where
  state := if method = some "INVITE".toList then .ictPreCalling else .nictPreTrying
  birthTime := p.now
  origRequest := method
  lastResponse := none

/-- The output for a request after `tr`. -/
def sent (owner : Owner) (tr : Option SentTr) : AutomaticRequest :=
  ⟨owner, tr.any fun tr => !tr.succeeded⟩

end Pass

namespace RetryObject

/-- The request of the object is replaced by another one, when that can be sent. -/
def resend (o : RetryObject) (p : Pass) (tr : SentTr) (info : RetryInfo) :
    RetryObject × List AutomaticRequest :=
  if p.sends (some tr) then
    ({ o with outTr := some (p.newTr tr.origRequest), info }, [Pass.sent .object (some tr)])
  else (o, [])

/-- The part of a pass about the request of the object itself. -/
def ownAction (rules : RetryRules) (p : Pass) (o : RetryObject) :
    RetryObject × List AutomaticRequest :=
  match o.outTr with
  | none => (o, [])
  | some tr =>
      if rules.ownWhen o.dialogs then
        match rules.own p.now o.info tr with
        | .nothing => (o, [])
        | .counted =>
            if o.retry < 3 then
              let sent := o.resend p tr o.info
              ({ sent.1 with retry := o.retry + 1 }, sent.2)
            else (o, [])
        | .uncounted => o.resend p tr o.info
        | .refresh _ => o.resend p tr o.info
        | .proceed registrationStep => o.resend p tr { o.info with registrationStep }
      else (o, [])

end RetryObject

namespace RetryDialog

/-- The request that a pass looks at: the latest of the dialog, or that of the object. -/
def looksAt (rules : RetryRules) (outTr : Option SentTr) (jd : RetryDialog) : Option SentTr :=
  match jd.dOutTrs with
  | tr :: _ => some tr
  | [] => if rules.fallsBack then outTr else none

/-- The request that was looked at is sent again: in the dialog, or in place of that of the
object, which frees the dialog of a call. -/
def resend (rules : RetryRules) (p : Pass) (index : Nat) (outTr : Option SentTr)
    (jd : RetryDialog) : Option SentTr × Option RetryDialog × List AutomaticRequest :=
  match jd.dOutTrs, outTr with
  | tr :: dOutTrs, _ =>
      if p.sends (some tr) then
        (outTr, some { jd with dOutTrs := p.newTr tr.origRequest :: tr :: dOutTrs },
          [Pass.sent (.dialog index) (some tr)])
      else (outTr, some jd, [])
  | [], some tr =>
      if p.sends (some tr) then
        (some (p.newTr tr.origRequest), if rules.freesDialog then none else some jd,
          [Pass.sent .object (some tr)])
      else (outTr, some jd, [])
  | [], none => (outTr, some jd, [])

/-- Another request is sent in the dialog, and the session timer starts anew. -/
def refresh (p : Pass) (index : Nat) (outTr tr : Option SentTr) (method : Option Str)
    (jd : RetryDialog) : Option SentTr × Option RetryDialog × List AutomaticRequest :=
  if p.sends tr then
    (outTr,
      some { jd with
        dOutTrs := p.newTr method :: jd.dOutTrs
        dSessionTimerStart := p.now + jd.dSessionTimerLength },
      [Pass.sent (.dialog index) tr])
  else (outTr, some jd, [])

/-- The part of a pass about one dialog. A counter that is raised after the dialog was freed
is lost with it. -/
def action (rules : RetryRules) (p : Pass) (info : RetryInfo) (index : Nat)
    (outTr : Option SentTr) (jd : RetryDialog) :
    Option SentTr × Option RetryDialog × List AutomaticRequest :=
  if jd.dDialog && rules.dialogWhen jd then
    match rules.dialog p.now info jd (jd.looksAt rules outTr) with
    | .counted =>
        if jd.dRetry < 3 then
          let sent := jd.resend rules p index outTr
          (sent.1, sent.2.1.map fun jd => { jd with dRetry := jd.dRetry + 1 }, sent.2.2)
        else (outTr, some jd, [])
    | .uncounted => jd.resend rules p index outTr
    | .refresh method => jd.refresh p index outTr (jd.looksAt rules outTr) method
    | _ => (outTr, some jd, [])
  else (outTr, some jd, [])

/-- The loop over the dialogs, the latest first; each is named by the number of those that
were there before it. -/
def actions (rules : RetryRules) (p : Pass) (info : RetryInfo) :
    Option SentTr → List (Option RetryDialog) →
      Option SentTr × List (Option RetryDialog) × List AutomaticRequest
  | outTr, [] => (outTr, [], [])
  | outTr, none :: dialogs =>
      let rest := actions rules p info outTr dialogs
      (rest.1, none :: rest.2.1, rest.2.2)
  | outTr, some jd :: dialogs =>
      let first := jd.action rules p info dialogs.length outTr
      let rest := actions rules p info first.1 dialogs
      (rest.1, first.2.1 :: rest.2.1, first.2.2 ++ rest.2.2)

/-- The dialog with that name, none when it was freed. -/
def find : List (Option RetryDialog) → Nat → Option (Option RetryDialog)
  | [], _ => none
  | jd :: dialogs, index => if index = dialogs.length then some jd else find dialogs index

def modify (f : Option RetryDialog → Option RetryDialog) (index : Nat) :
    List (Option RetryDialog) → List (Option RetryDialog)
  | [] => []
  | jd :: dialogs =>
      if index = dialogs.length then f jd :: dialogs else jd :: modify f index dialogs

end RetryDialog

/-! ### Runs -/

/-- A pass, a response to a request of the object or of a dialog, and what the application and
the rest of the stack do: requests, new and finished dialogs, other periods. -/
inductive RetryInput where
  | pass (p : Pass)
  | response (owner : Owner) (position : Nat) (jd : Option Nat) (state : State) (status : Int)
      (method : Str)
  | ownRequest (tr : SentTr)
  | dialogRequest (index : Nat) (tr : SentTr)
  | addDialog (jd : RetryDialog)
  | clearDialog (index : Nat)
  | freeDialog (index : Nat)
  | setInfo (info : RetryInfo)

namespace RetryObject

/-- The loop body of `eXosip_automatic_action` for one object. -/
def automaticAction (rules : RetryRules) (p : Pass) (o : RetryObject) :
    RetryObject × List AutomaticRequest :=
  let own := o.ownAction rules p
  let loop := RetryDialog.actions rules p own.1.info own.1.outTr own.1.dialogs
  ({ own.1 with outTr := loop.1, dialogs := loop.2.1 }, own.2 ++ loop.2.2)

def modifyDialog (o : RetryObject) (index : Nat) (f : RetryDialog → RetryDialog) : RetryObject :=
  { o with dialogs := RetryDialog.modify (Option.map f) index o.dialogs }

/-- The response is stored in its transaction. -/
def answer (o : RetryObject) (owner : Owner) (position : Nat) (state : State) (status : Int) :
    RetryObject :=
  let answered (tr : SentTr) : SentTr := { tr with state, lastResponse := some status }
  match owner with
  | .object => { o with outTr := o.outTr.map answered }
  | .dialog index =>
      o.modifyDialog index fun jd => { jd with dOutTrs := jd.dOutTrs.modify position answered }

/-- The counters that `cb_rcv2xx` resets: that of the object, and that of the dialog. -/
def resetRetries (o : RetryObject) (jd : Option Nat) : RetryObject :=
  let o := { o with retry := 0 }
  match jd with
  | none => o
  | some index => o.modifyDialog index fun jd => { jd with dRetry := 0 }

def step (rules : RetryRules) : Step RetryObject RetryInput AutomaticRequest := fun o input =>
  match input with
  | .pass p => o.automaticAction rules p
  | .response owner position jd state status method =>
      let o := o.answer owner position state status
      (if 200 ≤ status ∧ status < 300 ∧ rules.resets method then o.resetRetries jd else o, [])
  | .ownRequest tr => ({ o with outTr := some tr }, [])
  | .dialogRequest index tr =>
      (o.modifyDialog index fun jd => { jd with dOutTrs := tr :: jd.dOutTrs }, [])
  | .addDialog jd => ({ o with dialogs := some { jd with dRetry := 0 } :: o.dialogs }, [])
  | .clearDialog index => (o.modifyDialog index fun jd => { jd with dDialog := false }, [])
  | .freeDialog index => ({ o with dialogs := RetryDialog.modify (fun _ => none) index o.dialogs }, [])
  | .setInfo info => ({ o with info }, [])

end RetryObject
end Exosip
