import Exosip.Call.Requests
import Exosip.Stack.RejectedInvite

/-! The next hop of the requests of a dialog, as each of the functions that choose one sees
it. -/
namespace Exosip

open CString

namespace Uri

/-- The value of a parameter of the URI, where it has one. -/
def uparamValue (url : Uri) (name : String) : Option Str :=
  (url.uparamGetByname name.toList).bind GenericParam.gvalue

def portNumber (url : Uri) : Int := (url.port.map osipAtoi).getD 5060

/-- The outbound proxy that the stack noted in a Contact with the parameter `ob`. -/
def outboundProxy (url : Uri) : Option (Option Str × Int) :=
  match url.uparamValue "x-obr", url.uparamValue "x-obp" with
  | some obr, some obp => some (some obr, atoi obp)
  | _, _ => none

/-- The address that the URI itself stands for. -/
def ownDestination (url : Uri) : Option Str × Int :=
  match url.uparamValue "maddr", url.outboundProxy with
  | some maddr, _ => (some maddr, url.portNumber)
  | none, some proxy => proxy
  | none, none => (url.host, url.portNumber)

end Uri

/-! ### The choices -/

def firstLooseRoute (sip : Message) : Result (Option Uri) :=
  match sip.getRoute 0 with
  | none => .ok none
  | some route => do
      let url ← deref route.url
      .ok (if url.isLoose then some url else none)

/-- What `_eXosip_snd_message` chooses for a request when it is called without a host. -/
def sndMessageRequestDestination (sip : Message) : Result (Option Str × Int) := do
  match ← firstLooseRoute sip with
  | some url => .ok (url.host, url.portNumber)
  | none =>
      let reqUri ← deref sip.reqUri
      .ok reqUri.ownDestination

def sndMessageResponseDestination (via : Via) : Option Str × Int :=
  let param (name : String) := (via.paramGetByname name.toList).bind GenericParam.gvalue
  ((param "maddr").or ((param "received").or via.host),
    (((param "rport").or via.port).map osipAtoi).getD 5060)

/-- `_eXosip_snd_message`, up to the address that is handed to the transport. None is handed
for the status 101. -/
def sndMessage (sip : Message) (host : Option Str) (port : Int) :
    Result (Option (Option Str × Int)) :=
  if sip.statusCode = 101 then .ok none
  else
    match sip.vias[0]? with
    | none => .error (.code (-1))
    | some via =>
        if via.protocol.isNone then .error (.code (-1))
        else if host.isSome then .ok (some (host, port))
        else if sip.isRequest then (sndMessageRequestDestination sip).map some
        else .ok (some (sndMessageResponseDestination via))

/-- What `eXosip_call_send_ack` chooses. It does not look for an outbound proxy. -/
def callSendAckDestination (ack : Message) : Result (Option Str × Int) := do
  match ← firstLooseRoute ack with
  | some url => .ok (url.host, url.portNumber)
  | none =>
      let reqUri ← deref ack.reqUri
      .ok ((reqUri.uparamValue "maddr").or reqUri.host, reqUri.portNumber)

/-- `eXosip_call_send_ack`, up to the address that is handed to the transport. -/
def callSendAck (ack : Message) : Result (Option (Option Str × Int)) := do
  let (host, port) ← callSendAckDestination ack
  sndMessage ack host port

/-! ### One next hop -/

/-- The transaction of the INVITE has the address that was chosen when it was made, or none. -/
structure CarriesInvite (invite : Message) (ict : Transaction Ict) : Prop where
  origRequest : ict.origRequest = some invite
  destination : ict.ctx.destination = none ∨
    ∃ io ctx, osipIctInit io invite = .ok ctx ∧
      ict.ctx.destination = ctx.destination ∧ ict.ctx.port = ctx.port

/-- The request goes to the destination, whichever function chooses it. -/
structure SentTo (sip : Message) (destination : Option Str × Int) : Prop where
  invite : ∀ io ctx, osipIctInit io sip = .ok ctx → (ctx.destination, ctx.port) = destination
  failureAck : ∀ ict, CarriesInvite sip ict → ∀ io response ack,
    ictCreateAck io ict response = some ack →
      ((ict.ctx.setAckDestination io ack).destination, (ict.ctx.setAckDestination io ack).port) =
        destination
  message : ∀ port, sndMessage sip none port = .ok (some destination)
  ack : callSendAck sip = .ok (some destination)

/-- What follows the CSeq when a request is created in a dialog adds a Via with its protocol,
and leaves the target and the routes. -/
structure DialogContext extends RequestContext where
  complete_target : ∀ sip sip', complete sip = .ok sip' →
    sip'.reqUri = sip.reqUri ∧ sip'.routes = sip.routes ∧ sip'.statusCode = sip.statusCode
  complete_vias : ∀ sip sip', sip.vias = [] → complete sip = .ok sip' →
    ∃ via, sip'.vias[0]? = some via ∧ via.protocol.isSome = true

namespace Dialog

/-- The requests of the dialog all go to one address. -/
def HasOneNextHop (dialog : Dialog) : Prop :=
  ∃ destination, ∀ (context : DialogContext) method sip,
    (dialog.buildRequestWithinDialog context.toRequestContext method).1 = .ok sip →
      SentTo sip.toMessage destination

def requestUri (dialog : Dialog) : Option Uri :=
  match dialog.routeSet with
  | [] => dialog.remoteTarget
  | route :: _ => if route.url.any Uri.isLoose then dialog.remoteTarget else route.url

def requestRoutes (dialog : Dialog) : List Route :=
  match dialog.routeSet with
  | [] => []
  | route :: routes => if route.url.any Uri.isLoose then route :: routes else routes

/-- All parts of a request are there and can be cloned. -/
structure Requestable (dialog : Dialog) : Prop where
  remoteTarget : dialog.remoteTarget.any Uri.complete = true
  routeSet : ∀ route ∈ dialog.routeSet, route.complete = true
  firstRoute : ∀ route ∈ dialog.routeSet.head?, route.url.isSome = true
  remoteUri : dialog.remoteUri.any From.complete = true
  localUri : dialog.localUri.any From.complete = true

end Dialog

/-- The URI names, without `maddr`, an outbound proxy other than its own host and port. -/
def Uri.NamesOtherProxy (url : Uri) : Prop :=
  url.host.isSome = true ∧ url.uparamValue "maddr" = none ∧
    ∃ proxy, url.outboundProxy = some proxy ∧ proxy ≠ (url.host, url.portNumber)

/-- The first route is that of a loose router, or the request-URI names no other proxy. Every
route that is looked at has a URI. -/
def NextHopPlain (reqUri : Option Uri) (routes : List Route) : Prop :=
  (∃ route, routes[0]? = some route ∧ route.url.any Uri.isLoose = true) ∨
    (∀ route ∈ routes[0]?, route.url.isSome = true) ∧ ∀ url ∈ reqUri, ¬ url.NamesOtherProxy

/-! ### One request -/

section Request

variable {sip : Message}

theorem requestDestination_congr {sip' : Message} (hreqUri : sip'.reqUri = sip.reqUri)
    (hroutes : sip'.routes = sip.routes) : requestDestination sip' = requestDestination sip := by
  unfold requestDestination Message.getRoute
  rw [hreqUri, hroutes]

theorem requestDestination_loose {route : Route} {url : Uri} (hroute : sip.routes[0]? = some route)
    (hurl : route.url = some url) (hloose : url.isLoose = true) :
    requestDestination sip = (url.host, url.portNumber) := by
  unfold Uri.isLoose at hloose
  unfold requestDestination Message.getRoute
  simp only [hroute, Option.bind_some, hurl, Option.filter_some, hloose, if_true]
  rfl

theorem requestDestination_direct {reqUri : Uri}
    (hroute : ∀ route ∈ sip.routes[0]?, route.url.any Uri.isLoose = false)
    (hreqUri : sip.reqUri = some reqUri) :
    requestDestination sip = reqUri.ownDestination := by
  have hdirect : ((sip.getRoute 0).bind From.url).filter
      (fun url => (url.uparamGetByname "lr".toList).isSome) = none := by
    unfold Message.getRoute
    cases hfirst : sip.routes[0]? with
    | none => rfl
    | some route =>
        have hstrict := hroute route hfirst
        cases hurl : route.url with
        | none => simp [hurl]
        | some url =>
            rw [hurl, Option.any_some, Uri.isLoose] at hstrict
            simpa [hurl] using hstrict
  unfold requestDestination
  dsimp only
  rw [hdirect, hreqUri]
  simp only [Option.bind_some]
  have hvalue (name : String) : ((reqUri.uparamGetByname name.toList).bind fun param =>
      param.gvalue) = reqUri.uparamValue name := rfl
  unfold Uri.ownDestination Uri.outboundProxy
  simp only [hvalue]
  cases reqUri.uparamValue "maddr" <;> cases reqUri.uparamValue "x-obr" <;>
    cases reqUri.uparamValue "x-obp" <;> rfl

theorem osipIctInit_destination {io : Io} {ctx : Ict} (h : osipIctInit io sip = .ok ctx) :
    (ctx.destination, ctx.port) = requestDestination sip := by
  unfold osipIctInit at h
  cases hproto : initProtocol io osipSyntaxerror sip with
  | error e =>
      rw [hproto] at h
      cases h
  | ok proto =>
      rw [hproto] at h
      cases h
      have hmalloc : io.mallocOk = true := by
        unfold initProtocol at hproto
        cases hfail : io.mallocOk with
        | true => rfl
        | false => simp [hfail] at hproto
      simp [Ict.initial, Io.strdup, hmalloc]

theorem setAckDestination_eq {io : Io} {ict : Transaction Ict} {response : Option Message}
    {ack : Message} (hict : CarriesInvite sip ict)
    (hack : ictCreateAck io ict response = some ack) :
    ((ict.ctx.setAckDestination io ack).destination, (ict.ctx.setAckDestination io ack).port) =
      requestDestination sip := by
  cases response with
  | none => simp [ictCreateAck] at hack
  | some response =>
      have hacknowledges := ictCreateAck_acknowledges hict.origRequest hack
      have hsame := requestDestination_congr hacknowledges.reqUri hacknowledges.routes
      have hmalloc : io.mallocOk = true := by
        cases hfail : io.mallocOk with
        | true => rfl
        | false => simp [ictCreateAck, hfail] at hack
      unfold Ict.setAckDestination
      cases hdest : ict.ctx.destination with
      | none => simp [Io.strdup, hmalloc, hsame]
      | some destination =>
          obtain hnone | ⟨io', ctx, hctx, hdestination, hport⟩ := hict.destination
          · rw [hdest] at hnone
            cases hnone
          · dsimp only
            rw [hdestination, hport]
            exact osipIctInit_destination hctx

theorem sndMessageRequestDestination_eq {reqUri : Uri} (hreqUri : sip.reqUri = some reqUri) :
    sndMessageRequestDestination sip = .ok (requestDestination sip) ↔
      ∀ route ∈ sip.routes[0]?, route.url.isSome = true := by
  unfold sndMessageRequestDestination firstLooseRoute Message.getRoute
  cases hfirst : sip.routes[0]? with
  | none =>
      rw [requestDestination_direct (by simp [hfirst]) hreqUri, hreqUri]
      simp [deref, bind, Except.bind]
  | some route =>
      cases hurl : route.url with
      | none => simp [hurl, deref, bind, Except.bind]
      | some url =>
          cases hloose : url.isLoose with
          | true =>
              rw [requestDestination_loose hfirst hurl hloose]
              simp [hurl, hloose, deref, bind, Except.bind]
          | false =>
              rw [requestDestination_direct (by simp [hfirst, hurl, hloose]) hreqUri, hreqUri]
              simp [hurl, hloose, deref, bind, Except.bind]

/-- A request with a Via and a request-URI. -/
structure Sendable (sip : Message) (reqUri : Uri) : Prop where
  statusCode : sip.statusCode = 0
  reqUri : sip.reqUri = some reqUri
  via : ∃ via, sip.vias[0]? = some via ∧ via.protocol.isSome = true

variable {reqUri : Uri}

theorem sndMessage_host (h : Sendable sip reqUri) {host : Option Str} (hhost : host.isSome = true)
    (port : Int) : sndMessage sip host port = .ok (some (host, port)) := by
  obtain ⟨via, htop, hproto⟩ := h.via
  simp [sndMessage, h.statusCode, htop, Option.isNone_eq_false_iff.2 hproto, hhost]

theorem sndMessage_none (h : Sendable sip reqUri) (port : Int) :
    sndMessage sip none port = (sndMessageRequestDestination sip).map some := by
  obtain ⟨via, htop, hproto⟩ := h.via
  simp [sndMessage, h.statusCode, htop, Option.isNone_eq_false_iff.2 hproto, Message.isRequest]

theorem map_some_eq_ok {α : Type} {x : Result α} {a : α} :
    x.map some = .ok (some a) ↔ x = .ok a := by
  cases x <;> simp [Except.map]

theorem sndMessage_eq_ok (h : Sendable sip reqUri) (port : Int) :
    sndMessage sip none port = .ok (some (requestDestination sip)) ↔
      ∀ route ∈ sip.routes[0]?, route.url.isSome = true := by
  rw [sndMessage_none h, map_some_eq_ok, sndMessageRequestDestination_eq h.reqUri]

/-- Without a host of its own the ACK is sent where `_eXosip_snd_message` sends it. -/
theorem callSendAck_eq (h : Sendable sip reqUri) {host : Option Str} {port : Int}
    (hchosen : callSendAckDestination sip = .ok (host, port)) :
    callSendAck sip = if host.isSome then .ok (some (host, port)) else sndMessage sip none 0 := by
  unfold callSendAck
  rw [hchosen]
  cases host with
  | none =>
      change sndMessage sip none port = sndMessage sip none 0
      rw [sndMessage_none h, sndMessage_none h]
  | some host => exact sndMessage_host h rfl port

theorem callSendAckDestination_direct
    (hurl : ∀ route ∈ sip.routes[0]?, route.url.isSome = true)
    (hroute : ∀ route ∈ sip.routes[0]?, route.url.any Uri.isLoose = false)
    (hreqUri : sip.reqUri = some reqUri) :
    callSendAckDestination sip =
      .ok ((reqUri.uparamValue "maddr").or reqUri.host, reqUri.portNumber) := by
  unfold callSendAckDestination firstLooseRoute Message.getRoute
  rw [hreqUri]
  cases hfirst : sip.routes[0]? with
  | none => rfl
  | some route =>
      obtain ⟨url, hsome⟩ := Option.isSome_iff_exists.1 (hurl route hfirst)
      have hstrict := hroute route hfirst
      rw [hsome, Option.any_some] at hstrict
      simp [hsome, hstrict, deref, bind, Except.bind]

/-- Without a loose route the ACK goes where the URI says unless that names another proxy. -/
theorem callSendAck_direct (h : Sendable sip reqUri)
    (hurl : ∀ route ∈ sip.routes[0]?, route.url.isSome = true)
    (hroute : ∀ route ∈ sip.routes[0]?, route.url.any Uri.isLoose = false) :
    callSendAck sip = .ok (some (requestDestination sip)) ↔ ¬ reqUri.NamesOtherProxy := by
  have hown := requestDestination_direct hroute h.reqUri
  rw [callSendAck_eq h (callSendAckDestination_direct hurl hroute h.reqUri)]
  cases hmaddr : reqUri.uparamValue "maddr" with
  | some maddr => simp [hown, Uri.ownDestination, Uri.NamesOtherProxy, hmaddr]
  | none =>
      cases hhost : reqUri.host with
      | none =>
          have hsame := (sndMessage_eq_ok h 0).2 hurl
          simp [hsame, Uri.NamesOtherProxy, hhost]
      | some host =>
          cases hproxy : reqUri.outboundProxy with
          | none => simp [hown, Uri.ownDestination, Uri.NamesOtherProxy, hmaddr, hproxy, hhost]
          | some proxy =>
              simp [hown, Uri.ownDestination, Uri.NamesOtherProxy, hmaddr, hproxy, hhost, eq_comm]

theorem callSendAck_loose (h : Sendable sip reqUri) {route : Route} {url : Uri}
    (hroute : sip.routes[0]? = some route) (hurl : route.url = some url)
    (hloose : url.isLoose = true) :
    callSendAck sip = .ok (some (requestDestination sip)) := by
  have hchosen : callSendAckDestination sip = .ok (url.host, url.portNumber) := by
    unfold callSendAckDestination firstLooseRoute Message.getRoute
    simp [hroute, hurl, hloose, deref, bind, Except.bind]
  rw [callSendAck_eq h hchosen]
  cases hhost : url.host with
  | none =>
      refine (sndMessage_eq_ok h 0).2 ?_
      simp [hroute, hurl]
  | some host => simp [requestDestination_loose hroute hurl hloose, hhost]

theorem url_isSome_of_sndMessage (h : Sendable sip reqUri) {port : Int}
    {destination : Option Str × Int} (hsent : sndMessage sip none port = .ok (some destination)) :
    ∀ route ∈ sip.routes[0]?, route.url.isSome = true := by
  rw [sndMessage_none h, map_some_eq_ok] at hsent
  intro route hroute
  cases hurl : route.url with
  | none =>
      unfold sndMessageRequestDestination firstLooseRoute Message.getRoute at hsent
      rw [Option.mem_def.1 hroute] at hsent
      simp [hurl, deref, bind, Except.bind] at hsent
  | some url => rfl

/-- All functions choose the same address for a request exactly when its first route is loose
or its URI names no other proxy. -/
theorem sentTo_iff (h : Sendable sip reqUri) (destination : Option Str × Int) :
    SentTo sip destination ↔
      NextHopPlain sip.reqUri sip.routes ∧ requestDestination sip = destination := by
  constructor
  · intro hsent
    have hurl := url_isSome_of_sndMessage h (hsent.message 0)
    have hsame : requestDestination sip = destination := by
      have hmessage := hsent.message 0
      rw [(sndMessage_eq_ok h 0).2 hurl] at hmessage
      simpa using hmessage
    refine ⟨?_, hsame⟩
    by_cases hloose : ∃ route, sip.routes[0]? = some route ∧ route.url.any Uri.isLoose = true
    · exact .inl hloose
    · have hstrict (route : Route) (hroute : route ∈ sip.routes[0]?) :
          route.url.any Uri.isLoose = false :=
        Bool.eq_false_iff.2 fun htrue => hloose ⟨route, hroute, htrue⟩
      have hack := hsent.ack
      rw [← hsame, callSendAck_direct h hurl hstrict] at hack
      refine .inr ⟨hurl, fun url hreqUri => ?_⟩
      rw [h.reqUri, Option.mem_some_iff] at hreqUri
      exact hreqUri ▸ hack
  · rintro ⟨hplain, rfl⟩
    have hurl : ∀ route ∈ sip.routes[0]?, route.url.isSome = true := by
      obtain ⟨first, hfirst, hany⟩ | ⟨hurl, -⟩ := hplain
      · intro route hroute
        rw [hfirst, Option.mem_some_iff] at hroute
        obtain ⟨url, hsome, -⟩ := (Option.any_eq_true _ _).1 hany
        rw [← hroute, hsome, Option.isSome_some]
      · exact hurl
    refine
      { invite := fun _ _ hinit => osipIctInit_destination hinit
        failureAck := fun _ hict _ _ _ hack => setAckDestination_eq hict hack
        message := fun port => (sndMessage_eq_ok h port).2 hurl
        ack := ?_ }
    by_cases hloose : ∃ route, sip.routes[0]? = some route ∧ route.url.any Uri.isLoose = true
    · obtain ⟨route, hroute, hany⟩ := hloose
      obtain ⟨url, hsome, hlr⟩ := (Option.any_eq_true _ _).1 hany
      exact callSendAck_loose h hroute hsome hlr
    · have hstrict (route : Route) (hroute : route ∈ sip.routes[0]?) :
          route.url.any Uri.isLoose = false :=
        Bool.eq_false_iff.2 fun htrue => hloose ⟨route, hroute, htrue⟩
      refine (callSendAck_direct h hurl hstrict).2 ?_
      obtain hfirst | ⟨-, hplain⟩ := hplain
      · exact absurd hfirst hloose
      · exact hplain reqUri h.reqUri

end Request

/-! ### The requests of a dialog -/

namespace Dialog

variable {dialog : Dialog} {method : Str} {sip : SipFields}

/-- The clones that go into the request-URI and the routes succeed. -/
def Targetable (dialog : Dialog) : Prop :=
  dialog.Clonable ∧ ∀ route ∈ dialog.routeSet.head?, route.url.isSome = true

theorem targeted_eq_ok {contact : Contact} (hcontact : dialog.remoteContactUri = some contact) :
    dialog.targeted method contact = .ok sip ↔
      dialog.Targetable ∧
        { newRequest method with
          reqUri := dialog.requestUri
          routes := dialog.requestRoutes } = sip := by
  have htarget : dialog.remoteTarget = contact.url := by
    rw [remoteTarget, hcontact, Option.bind_some]
  unfold targeted Targetable
  cases hset : dialog.routeSet with
  | nil =>
      have huri : dialog.requestUri = contact.url := by rw [requestUri, hset, htarget]
      have hroutes : dialog.requestRoutes = [] := by rw [requestRoutes, hset]
      rw [if_pos rfl, exists_ok_bind]
      simp only [returnCode_eq_ok, uriCloneOf_eq_ok, Except.ok.injEq, Clonable, htarget, hset, huri,
        hroutes]
      constructor
      · rintro ⟨reqUri, ⟨hurl, hcomplete⟩, rfl⟩
        simp [hurl, hcomplete, newRequest, SipFields.init]
      · rintro ⟨⟨⟨hany, -⟩, -⟩, rfl⟩
        obtain ⟨reqUri, hurl, hcomplete⟩ := (Option.any_eq_true _ _).1 hany
        exact ⟨reqUri, ⟨hurl, hcomplete⟩, by rw [hurl]; rfl⟩
  | cons route routes =>
      have hhead : dialog.routeSet.head? = some route := by rw [hset, List.head?_cons]
      rw [if_neg (List.cons_ne_nil _ _)]
      cases hurl : route.url with
      | none => simp [fillRouteSet, hset, deref, hurl, bind, Except.bind]
      | some url =>
          cases hloose : url.isLoose with
          | true =>
              have huri : dialog.requestUri = dialog.remoteTarget := by
                simp [requestUri, hset, hurl, hloose]
              have hroutes : dialog.requestRoutes = dialog.routeSet := by
                simp [requestRoutes, hset, hurl, hloose]
              rw [fillRouteSet_loose hhead hurl hloose, huri, hroutes]
              simp [hurl, newRequest, SipFields.init]
          | false =>
              have huri : dialog.requestUri = some url := by simp [requestUri, hset, hurl, hloose]
              have hroutes : dialog.requestRoutes = routes := by
                simp [requestRoutes, hset, hurl, hloose]
              unfold fillRouteSet
              simp only [hhead, exists_ok_bind, deref_eq_ok, Option.some.injEq, exists_eq_left',
                hurl,
                hloose, Bool.false_eq_true, if_false, returnCode_eq_ok, uriCloneOf_eq_ok,
                osipListClone_eq_ok copies_fromClone, copies_uriClone _ _, Except.ok.injEq,
                hcontact]
              simp only [Clonable, htarget, hset, List.tail_cons, List.forall_mem_cons, huri,
                hroutes]
              have hcomplete : route.complete = url.complete := by
                rw [From.complete, hurl, Option.all_some]
              constructor
              · rintro ⟨_, ⟨hfirst, rfl⟩, _, ⟨hrest, rfl⟩, reqUri, ⟨hcontactUrl, htargetOk⟩, rfl⟩
                simp [hcontactUrl, htargetOk, hcomplete, hfirst, hurl, newRequest, SipFields.init]
                exact hrest
              · rintro ⟨⟨⟨hany, hfirst, hrest⟩, -⟩, rfl⟩
                obtain ⟨reqUri, hcontactUrl, htargetOk⟩ := (Option.any_eq_true _ _).1 hany
                exact ⟨url, ⟨hcomplete ▸ hfirst, rfl⟩, routes, ⟨hrest, rfl⟩, reqUri,
                  ⟨hcontactUrl, htargetOk⟩, rfl⟩

theorem fromCloneOf_eq_ok {header : Option From} {copy : From} :
    fromCloneOf header = .ok copy ↔ header = some copy ∧ copy.complete = true := by
  cases header with
  | none => simp [fromCloneOf]
  | some f =>
      rw [fromCloneOf, copies_fromClone f copy, Option.some.injEq]
      constructor
      · intro h
        exact ⟨h.2, h.2 ▸ h.1⟩
      · intro h
        exact ⟨h.1.symm ▸ h.2, h.1⟩

/-- A request is addressed when its parts are there, by the request-URI and the routes of the
dialog. -/
theorem addressed_eq_ok :
    dialog.addressed method = .ok sip ↔
      dialog.Requestable ∧
        { newRequest method with
          reqUri := dialog.requestUri
          routes := dialog.requestRoutes
          toHeader := dialog.remoteUri
          fromHeader := dialog.localUri } = sip := by
  unfold addressed
  cases hcontact : dialog.remoteContactUri with
  | none =>
      have hno : ¬ dialog.Requestable := fun h => by
        have htarget := h.remoteTarget
        simp [remoteTarget, hcontact] at htarget
      simp [hno]
  | some contact =>
      simp only [exists_ok_bind, targeted_eq_ok hcontact, returnCode_eq_ok, fromCloneOf_eq_ok,
        Except.ok.injEq]
      constructor
      · rintro ⟨_, ⟨⟨hclonable, hfirst⟩, rfl⟩, toHeader, ⟨hto, htoOk⟩, fromHeader, ⟨hfrom, hfromOk⟩,
          rfl⟩
        refine ⟨⟨hclonable.1, hclonable.2, hfirst, ?_, ?_⟩, ?_⟩
        · rw [hto]
          exact htoOk
        · rw [hfrom]
          exact hfromOk
        · rw [hto, hfrom]
      · rintro ⟨h, rfl⟩
        obtain ⟨toHeader, hto, htoOk⟩ := (Option.any_eq_true _ _).1 h.remoteUri
        obtain ⟨fromHeader, hfrom, hfromOk⟩ := (Option.any_eq_true _ _).1 h.localUri
        exact ⟨_, ⟨⟨⟨h.remoteTarget, h.routeSet⟩, h.firstRoute⟩, rfl⟩, toHeader, ⟨hto, htoOk⟩,
          fromHeader, ⟨hfrom, hfromOk⟩, by rw [hto, hfrom]⟩

theorem exists_remoteTarget (h : dialog.Requestable) :
    ∃ reqUri, dialog.requestUri = some reqUri := by
  obtain ⟨target, htarget, -⟩ := (Option.any_eq_true _ _).1 h.remoteTarget
  unfold requestUri
  cases hset : dialog.routeSet with
  | nil => exact ⟨target, htarget⟩
  | cons route routes =>
      have hurl := h.firstRoute route (by rw [hset]; rfl)
      dsimp only
      split
      · exact ⟨target, htarget⟩
      · exact Option.isSome_iff_exists.1 hurl

theorem built {context : DialogContext}
    (h : (dialog.buildRequestWithinDialog context.toRequestContext method).1 = .ok sip) :
    dialog.Requestable ∧ sip.toMessage.routes = dialog.requestRoutes ∧
      ∃ reqUri, dialog.requestUri = some reqUri ∧ Sendable sip.toMessage reqUri := by
  unfold buildRequestWithinDialog at h
  split at h
  · cases h
  · split at h
    · cases h
    · next request haddressed =>
        obtain ⟨hrequestable, rfl⟩ := addressed_eq_ok.1 haddressed
        obtain ⟨reqUri, hreqUri⟩ := exists_remoteTarget hrequestable
        have hcomplete := returnCode_eq_ok.1 h
        obtain ⟨huri, hroutes, hstatus⟩ := context.complete_target _ _ hcomplete
        exact ⟨hrequestable, hroutes, reqUri, hreqUri, hstatus, huri.trans hreqUri,
          context.complete_vias _ _ rfl hcomplete⟩

end Dialog

/-- The Via before the transport layer has put in its address. -/
def viaPlaceholder : Via where
  version := some "2.0".toList
  protocol := some "UDP".toList
  host := some "999.999.999.999".toList
  port := some "99999".toList
  comment := none
  viaParams := [⟨"rport".toList, none⟩, ⟨"branch".toList, some "z9hG4bK1".toList⟩]

theorem parse_viaPlaceholder : osipViaParse plainTexts.via = .ok viaPlaceholder := by
  decide +kernel

theorem plainTexts_target (sip sip' : SipFields) (h : plainTexts.complete sip = .ok sip') :
    sip'.reqUri = sip.reqUri ∧ sip'.routes = sip.routes ∧ sip'.statusCode = sip.statusCode :=
  have hsame := RequestTexts.sameRequest_complete h
  ⟨hsame.reqUri, hsame.routes, hsame.statusCode⟩

theorem plainTexts_vias (sip sip' : SipFields) (hnone : sip.vias = [])
    (h : plainTexts.complete sip = .ok sip') :
    ∃ via, sip'.vias[0]? = some via ∧ via.protocol.isSome = true := by
  refine ⟨viaPlaceholder, ?_, rfl⟩
  rw [RequestTexts.complete_vias h parse_viaPlaceholder (by decide), hnone]
  rfl

def DialogContext.plain : DialogContext :=
  { plainTexts.context with
    complete_target := plainTexts_target
    complete_vias := plainTexts_vias }

namespace Dialog

theorem exists_built {dialog : Dialog} (h : dialog.Requestable) (method : Str) :
    ∃ sip,
      (dialog.buildRequestWithinDialog DialogContext.plain.toRequestContext method).1 =
        .ok sip := by
  unfold buildRequestWithinDialog
  rw [addressed_eq_ok.2 ⟨h, rfl⟩]
  exact ⟨_, rfl⟩

/-- The requests of a dialog have one next hop exactly when none can be built, or they go to a
loose router, or their request-URI names no proxy that the ACK for a 2xx would miss. -/
theorem hasOneNextHop_iff (dialog : Dialog) :
    dialog.HasOneNextHop ↔
      (dialog.Requestable → NextHopPlain dialog.requestUri dialog.requestRoutes) := by
  constructor
  · rintro ⟨destination, hsent⟩ hrequestable
    obtain ⟨sip, hsip⟩ := exists_built hrequestable "BYE".toList
    obtain ⟨-, hroutes, reqUri, hreqUri, hsendable⟩ := built hsip
    have hplain := ((sentTo_iff hsendable destination).1 (hsent _ _ _ hsip)).1
    rw [hroutes, hsendable.reqUri, ← hreqUri] at hplain
    exact hplain
  · intro hplain
    refine ⟨requestDestination
      { Message.init with reqUri := dialog.requestUri, routes := dialog.requestRoutes }, ?_⟩
    intro context method sip hsip
    obtain ⟨hrequestable, hroutes, reqUri, hreqUri, hsendable⟩ := built hsip
    refine (sentTo_iff hsendable _).2 ⟨?_, ?_⟩
    · rw [hroutes, hsendable.reqUri, ← hreqUri]
      exact hplain hrequestable
    · exact requestDestination_congr (hsendable.reqUri.trans hreqUri.symm) hroutes

/-- A dialog whose remote target carries the address that its requests came from. -/
def behindOutboundProxy : Dialog :=
  { behindStrictRouter with
    routeSet := []
    remoteContactUri := some (nameAddr "target"
      [⟨"x-obr".toList, some "192.0.2.1".toList⟩, ⟨"x-obp".toList, some "5080".toList⟩]) }

/-- Its INVITE goes to that address, and the ACK for the 2xx to the host of the target. -/
theorem not_hasOneNextHop : ¬ ∀ dialog : Dialog, dialog.HasOneNextHop := by
  intro h
  obtain ⟨destination, hsent⟩ := h behindOutboundProxy
  have hack := hsent DialogContext.plain "ACK".toList _ rfl
  have hmessage : (.ok (some (some "192.0.2.1".toList, 5080)) : Result _) =
      .ok (some destination) := hack.message 0
  have hchosen : (.ok (some (some "target".toList, 5060)) : Result _) = .ok (some destination) :=
    hack.ack
  have hsame := hmessage.trans hchosen.symm
  revert hsame
  decide

end Dialog
end Exosip
