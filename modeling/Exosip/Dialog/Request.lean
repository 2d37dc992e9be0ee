import Exosip.Dialog.Basic

/-! `dialog_fill_route_set`: where the requests within a dialog are sent. -/
namespace Exosip

open CString

/-- `osip_uri_clone` of a URI that may be NULL. -/
def uriCloneOf (url : Option Uri) : Except Int Uri :=
  match url with
  | none => .error osipBadparameter
  | some url => uriClone url

def deref {α : Type} (p : Option α) : Result α :=
  match p with
  | none => .error .fault
  | some a => .ok a

def Uri.isLoose (url : Uri) : Bool := (url.uparamGetByname "lr".toList).isSome

namespace Dialog

def remoteTarget (dialog : Dialog) : Option Uri := dialog.remoteContactUri.bind From.url

/-- The request that `_eXosip_build_request_within_dialog` starts from. -/
def newRequest (method : Str) : SipFields :=
  { SipFields.init with sipMethod := some method, sipVersion := some "SIP/2.0".toList }

/-- `dialog_fill_route_set`. The caller drops the request when this fails. -/
def fillRouteSet (dialog : Dialog) (request : SipFields) : Result SipFields := do
  let route ← deref dialog.routeSet.head?
  let url ← deref route.url
  if url.isLoose then
    let contact ← deref dialog.remoteContactUri
    let reqUri ← SipFields.returnCode (uriCloneOf contact.url)
    let routes ← SipFields.returnCode (osipListClone fromClone dialog.routeSet)
    .ok { request with reqUri := some reqUri, routes := request.routes ++ routes }
  else
    let reqUri ← SipFields.returnCode (uriClone url)
    let routes ← SipFields.returnCode (osipListClone fromClone dialog.routeSet.tail)
    let contact ← deref dialog.remoteContactUri
    -- the route with this URI is made and is not added to the request
    let _newUrl ← SipFields.returnCode (uriCloneOf contact.url)
    .ok { request with reqUri := some reqUri, routes := request.routes ++ routes }

/-! ### What the request should say -/

/-- Through a loose router: the remote target as request-URI, the route set as it is. -/
def RoutedLoosely (dialog : Dialog) (sip : SipFields) : Prop :=
  sip.reqUri = dialog.remoteTarget ∧ sip.routes = dialog.routeSet

/-- Through a strict router: its URI as request-URI, the remaining routes and at last the
remote target. -/
def RoutedStrictly (dialog : Dialog) (route : Route) (sip : SipFields) : Prop :=
  sip.reqUri = route.url ∧
    ∃ last : Route, last.url = dialog.remoteTarget ∧ sip.routes = dialog.routeSet.tail ++ [last]

/-- By the kind of the first router, for a route set that is not empty. -/
def Routed (dialog : Dialog) (sip : SipFields) : Prop :=
  ∃ route, dialog.routeSet.head? = some route ∧
    if route.url.any Uri.isLoose then RoutedLoosely dialog sip else RoutedStrictly dialog route sip

/-- The remote target and the routes can be cloned. -/
def Clonable (dialog : Dialog) : Prop :=
  dialog.remoteTarget.any Uri.complete = true ∧ ∀ route ∈ dialog.routeSet, route.complete = true

/-- The first route is that of a loose router. -/
def BehindLooseRouter (dialog : Dialog) : Prop :=
  ∃ route, dialog.routeSet.head? = some route ∧ route.url.any Uri.isLoose = true

theorem deref_eq_ok {α : Type} {p : Option α} {a : α} : deref p = .ok a ↔ p = some a := by
  cases p with
  | none => simp [deref]
  | some b => simp [deref]

theorem uriCloneOf_eq_ok {url : Option Uri} {copy : Uri} :
    uriCloneOf url = .ok copy ↔ url = some copy ∧ copy.complete = true := by
  cases url with
  | none => simp [uriCloneOf]
  | some u =>
      rw [uriCloneOf, copies_uriClone u copy, Option.some.injEq]
      constructor
      · intro h
        exact ⟨h.2, h.2 ▸ h.1⟩
      · intro h
        exact ⟨h.1.symm ▸ h.2, h.1⟩

theorem remoteTarget_eq_some {dialog : Dialog} {url : Uri} :
    dialog.remoteTarget = some url ↔
      ∃ contact, dialog.remoteContactUri = some contact ∧ contact.url = some url :=
  Option.bind_eq_some_iff

theorem fillRouteSet_loose {dialog : Dialog} {request sip : SipFields} {route : Route} {url : Uri}
    (hroute : dialog.routeSet.head? = some route) (hurl : route.url = some url)
    (hloose : url.isLoose = true) :
    dialog.fillRouteSet request = .ok sip ↔
      dialog.Clonable ∧
        { request with reqUri := dialog.remoteTarget, routes := request.routes ++ dialog.routeSet } =
          sip := by
  unfold fillRouteSet
  simp only [hroute, exists_ok_bind, deref_eq_ok, Option.some.injEq, exists_eq_left', hurl, hloose,
    if_true, returnCode_eq_ok, uriCloneOf_eq_ok, osipListClone_eq_ok copies_fromClone,
    Except.ok.injEq]
  constructor
  · intro h
    obtain ⟨contact, hcontact, reqUri, ⟨hreqUri, hcomplete⟩, _, ⟨hroutes, rfl⟩, hsip⟩ := h
    have htarget := remoteTarget_eq_some.2 ⟨contact, hcontact, hreqUri⟩
    rw [Clonable, htarget]
    exact ⟨⟨hcomplete, hroutes⟩, hsip⟩
  · intro h
    obtain ⟨⟨htarget, hroutes⟩, hsip⟩ := h
    obtain ⟨reqUri, hreqUri, hcomplete⟩ := (Option.any_eq_true _ _).1 htarget
    obtain ⟨contact, hcontact, hcontactUrl⟩ := remoteTarget_eq_some.1 hreqUri
    rw [hreqUri] at hsip
    exact ⟨contact, hcontact, reqUri, ⟨hcontactUrl, hcomplete⟩, _, ⟨hroutes, rfl⟩, hsip⟩

theorem fillRouteSet_strict {dialog : Dialog} {request sip : SipFields} {route : Route} {url : Uri}
    (hroute : dialog.routeSet.head? = some route) (hurl : route.url = some url)
    (hloose : url.isLoose = false) (h : dialog.fillRouteSet request = .ok sip) :
    sip.routes = request.routes ++ dialog.routeSet.tail := by
  unfold fillRouteSet at h
  simp only [hroute, exists_ok_bind, deref_eq_ok, Option.some.injEq, exists_eq_left', hurl, hloose,
    Bool.false_eq_true, if_false, returnCode_eq_ok, osipListClone_eq_ok copies_fromClone,
    Except.ok.injEq] at h
  obtain ⟨_, _, _, ⟨_, hroutes⟩, _, _, _, _, hsip⟩ := h
  rw [← hsip, ← hroutes]

theorem exists_route {dialog : Dialog} {request sip : SipFields}
    (h : dialog.fillRouteSet request = .ok sip) :
    ∃ route url, dialog.routeSet.head? = some route ∧ route.url = some url := by
  unfold fillRouteSet at h
  simp only [exists_ok_bind, deref_eq_ok] at h
  obtain ⟨route, hroute, url, hurl, _⟩ := h
  exact ⟨route, url, hroute, hurl⟩

/-- A request within the dialog is built and routed as required exactly when the first route
is that of a loose router. -/
theorem routed_iff (dialog : Dialog) (method : Str) :
    (∃ sip, dialog.fillRouteSet (newRequest method) = .ok sip ∧ dialog.Routed sip) ↔
      dialog.BehindLooseRouter ∧ dialog.Clonable := by
  constructor
  · intro h
    obtain ⟨sip, hsip, hrouted⟩ := h
    obtain ⟨route, url, hroute, hurl⟩ := exists_route hsip
    obtain ⟨route', hroute', hrouted⟩ := hrouted
    have hsame : route = route' := Option.some.inj (hroute.symm.trans hroute')
    rw [← hsame, hurl, Option.any_some] at hrouted
    cases hloose : url.isLoose with
    | true =>
        have hbehind : dialog.BehindLooseRouter := ⟨route, hroute, by rw [hurl]; exact hloose⟩
        exact ⟨hbehind, ((fillRouteSet_loose hroute hurl hloose).1 hsip).1⟩
    | false =>
        -- the last route is missing
        have hroutes := fillRouteSet_strict hroute hurl hloose hsip
        rw [hloose, if_neg Bool.false_ne_true] at hrouted
        obtain ⟨_, last, _, hlast⟩ := hrouted
        have hlength := congrArg List.length (hroutes.symm.trans hlast)
        simp [newRequest, SipFields.init] at hlength
  · intro h
    obtain ⟨⟨route, hroute, hany⟩, hclonable⟩ := h
    obtain ⟨url, hurl, hloose⟩ := (Option.any_eq_true _ _).1 hany
    refine ⟨_, (fillRouteSet_loose hroute hurl hloose).2 ⟨hclonable, rfl⟩, route, hroute, ?_⟩
    rw [if_pos hany]
    exact ⟨rfl, rfl⟩

/-- The URI `sip:host` with its parameters. -/
def sipUri (host : String) (urlParams : List GenericParam) : Uri :=
  ⟨some "sip".toList, none, none, some host.toList, none, urlParams, [], none⟩

def nameAddr (host : String) (urlParams : List GenericParam) : From :=
  ⟨none, some (sipUri host urlParams), []⟩

def behindStrictRouter : Dialog where
  callId := some "c1".toList
  localTag := some "t1".toList
  remoteTag := some "t2".toList
  lineParam := none
  routeSet := [nameAddr "proxy" []]
  localCseq := 1
  remoteCseq := -1
  remoteUri := some (nameAddr "remote" [])
  localUri := some (nameAddr "local" [])
  remoteContactUri := some (nameAddr "target" [])
  secure := -1
  type := .caller
  state := .confirmed

/-- Its requests go to the router and do not name the remote target. -/
theorem not_routed :
    ¬ ∀ dialog : Dialog, dialog.routeSet ≠ [] → dialog.Clonable → ∀ method : Str,
      ∃ sip, dialog.fillRouteSet (newRequest method) = .ok sip ∧ dialog.Routed sip := by
  intro h
  have hrouted := h behindStrictRouter (by decide) ⟨by decide, by decide⟩ "BYE".toList
  obtain ⟨⟨route, hroute, hloose⟩, -⟩ := (routed_iff _ _).1 hrouted
  cases hroute
  revert hloose
  decide

end Dialog
end Exosip
