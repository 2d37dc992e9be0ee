import Exosip.Parser.Via
import Exosip.Transaction.Ist

/-! Where a response is sent: the top Via, as the stack fixed it with the source of the
request, and the two functions that search it later. -/
namespace Exosip

open CString

/-- The source of a request: a numeric address without blanks, and a port. -/
structure SourceAddress where
  ip : Str
  port : Nat
  ip_stripped : osipClrspace ip = ip
  port_lt : port < 65536

/-- `osip_response_get_destination`: the address and the port. -/
def osipResponseGetDestination (response : Message) : Option Str × Int :=
  match response.vias[0]? with
  | none => (none, 0)
  | some via =>
      let maddr := via.paramGetByname "maddr".toList
      let received := via.paramGetByname "received".toList
      let rport := via.paramGetByname "rport".toList
      let host :=
        if maddr.isSome then maddr.bind (·.gvalue)
        else if received.isSome then received.bind (·.gvalue)
        else via.host
      let port :=
        match rport.bind (·.gvalue) with
        | none =>
            match via.port with
            | some port => osipAtoi port
            | none => 5060
        | some gvalue => osipAtoi gvalue
      (host, port)

theorem osipResponseGetDestination_eq {response : Message} {via : Via}
    (htop : response.vias[0]? = some via) :
    osipResponseGetDestination response = sndXxxDestination via := by
  unfold osipResponseGetDestination sndXxxDestination
  rw [htop]
  dsimp only
  congr 1
  · cases via.paramGetByname "maddr".toList <;> cases via.paramGetByname "received".toList <;> rfl
  · cases (via.paramGetByname "rport".toList).bind (·.gvalue) <;> cases via.port <;> rfl

theorem sndXxxDestination_host {via : Via} (hmaddr : via.paramGetByname "maddr".toList = none) :
    (sndXxxDestination via).1 =
      ((via.paramGetByname "received".toList).map (·.gvalue)).getD via.host := by
  unfold sndXxxDestination
  rw [hmaddr]
  cases via.paramGetByname "received".toList <;> rfl

theorem sndXxxDestination_port (via : Via) :
    (sndXxxDestination via).2 =
      (((via.paramGetByname "rport".toList).bind (·.gvalue)).map osipAtoi).getD
        ((via.port.map osipAtoi).getD 5060) := by
  unfold sndXxxDestination
  dsimp only
  cases (via.paramGetByname "rport".toList).bind (·.gvalue) <;> rfl

/-- The Via list of a response is copied from the request. -/
structure RespondsTo (request response : Message) : Prop where
  vias : response.vias[0]? = osipViaClone request.vias[0]?

/-- A destination that is the source of the request, with its port where the sender asked
for that. -/
structure RoutedToSource (source : SourceAddress) (via : Via) (destination : Option Str × Int) :
    Prop where
  host : destination.1 = some source.ip
  port : (via.paramGetByname "rport".toList).isSome = true → destination.2 = source.port

/-- The sender has put no other address or port into the parameters that the stack fills in. -/
structure ParamsAgree (source : SourceAddress) (via : Via) : Prop where
  received : ∀ param, via.paramGetByname "received".toList = some param →
    param.gvalue = some source.ip
  rport : ∀ param, via.paramGetByname "rport".toList = some param →
    ∀ gvalue, param.gvalue = some gvalue → osipAtoi gvalue = source.port

section Fixed

variable {source : SourceAddress} {via : Via} {host : Str}

theorem fixRport_gname (port : Nat) (param : GenericParam) :
    (fixRport port param).gname = param.gname := by
  unfold fixRport
  split <;> rfl

theorem osipMessageFixLastViaHeader_vias {request : Message} (hrequest : request.isRequest = true)
    (htop : request.vias[0]? = some via) (hhost : via.host = some host) :
    (osipMessageFixLastViaHeader request source.ip source.port).1.vias[0]? =
      some (fixLastVia via host source.ip source.port) := by
  have hresponse : request.isResponse = false := by
    simpa [Message.isRequest, Message.isResponse] using hrequest
  cases hvias : request.vias with
  | nil => simp [hvias] at htop
  | cons top vias =>
      rw [hvias, List.getElem?_cons_zero] at htop
      cases htop
      simp only [osipMessageFixLastViaHeader, hresponse, hvias, hhost, Bool.false_eq_true,
        if_false, List.getElem?_cons_zero]

theorem fixLastVia_paramGetByname (ipAddr : Str) (port : Nat) (pname : Str) :
    (fixLastVia via host ipAddr port).paramGetByname pname =
      (GenericParam.getByname
        (GenericParam.modifyByname via.viaParams "rport".toList (fixRport port)) pname).or
        (if host ≠ ipAddr ∧ osipStrcasecmp "received".toList pname then
          some ⟨"received".toList, some (osipClrspace ipAddr)⟩ else none) := by
  have hname : osipClrspace "received".toList = "received".toList := by decide
  unfold fixLastVia Via.paramGetByname
  by_cases hhost : host = ipAddr
  · simp [hhost]
  · simp only [hhost, if_false, GenericParam.getByname_add, hname, GenericParam.set,
      Option.map_some, ne_eq, not_false_eq_true, true_and]

theorem fixLastVia_maddr (ipAddr : Str) (port : Nat) :
    (fixLastVia via host ipAddr port).paramGetByname "maddr".toList =
      via.paramGetByname "maddr".toList := by
  rw [fixLastVia_paramGetByname, GenericParam.getByname_modifyByname_of_ne (fixRport_gname port)
    (by decide), if_neg (fun h => absurd h.2 (by decide)), Option.or_none]
  rfl

theorem fixLastVia_rport (ipAddr : Str) (port : Nat) :
    (fixLastVia via host ipAddr port).paramGetByname "rport".toList =
      (via.paramGetByname "rport".toList).map (fixRport port) := by
  rw [fixLastVia_paramGetByname, GenericParam.getByname_modifyByname (fixRport_gname port),
    if_neg (fun h => absurd h.2 (by decide)), Option.or_none]
  rfl

theorem fixLastVia_received (port : Nat) :
    (fixLastVia via host source.ip port).paramGetByname "received".toList =
      (via.paramGetByname "received".toList).or
        (if host = source.ip then none else some ⟨"received".toList, some source.ip⟩) := by
  rw [fixLastVia_paramGetByname, GenericParam.getByname_modifyByname_of_ne (fixRport_gname port)
    (by decide), source.ip_stripped]
  congr 1
  have hname : osipStrcasecmp "received".toList "received".toList = true := by decide
  by_cases hhost : host = source.ip
  · rw [if_neg fun h => h.1 hhost, if_pos hhost]
  · rw [if_pos ⟨hhost, hname⟩, if_neg hhost]

theorem fixLastVia_destination_host (hmaddr : via.paramGetByname "maddr".toList = none)
    (hhost : via.host = some host) (port : Nat) :
    (sndXxxDestination (fixLastVia via host source.ip port)).1 = some source.ip ↔
      ∀ param, via.paramGetByname "received".toList = some param →
        param.gvalue = some source.ip := by
  have hkeep : (fixLastVia via host source.ip port).host = some host := hhost
  rw [sndXxxDestination_host (by rw [fixLastVia_maddr, hmaddr]), fixLastVia_received, hkeep]
  cases via.paramGetByname "received".toList with
  | some param =>
      rw [Option.some_or]
      exact ⟨fun h param' hparam => Option.some.inj hparam ▸ h, fun h => h param rfl⟩
  | none =>
      rw [Option.none_or]
      refine iff_of_true ?_ fun _ hparam => absurd hparam (Option.some_ne_none _).symm
      by_cases hip : host = source.ip
      · rw [if_pos hip, hip]
        rfl
      · rw [if_neg hip]
        rfl

theorem fixLastVia_destination_port (ipAddr : Str) :
    ((via.paramGetByname "rport".toList).isSome = true →
      (sndXxxDestination (fixLastVia via host ipAddr source.port)).2 = source.port) ↔
      ∀ param, via.paramGetByname "rport".toList = some param →
        ∀ gvalue, param.gvalue = some gvalue → osipAtoi gvalue = source.port := by
  rw [sndXxxDestination_port, fixLastVia_rport]
  cases via.paramGetByname "rport".toList with
  | none =>
      exact iff_of_true (fun hsome => absurd hsome (by decide))
        fun _ hparam => absurd hparam (Option.some_ne_none _).symm
  | some param =>
      rw [Option.map_some, Option.bind_some]
      cases hvalue : param.gvalue with
      | none =>
          have hfixed : (fixRport source.port param).gvalue = some (portString 8 source.port) := by
            rw [fixRport, hvalue]
          rw [hfixed]
          refine iff_of_true (fun _ => osipAtoi_portString source.port_lt) ?_
          rintro param' hparam gvalue hgvalue
          cases hparam
          rw [hvalue] at hgvalue
          cases hgvalue
      | some gvalue =>
          have hfixed : (fixRport source.port param).gvalue = some gvalue := by
            rw [fixRport, hvalue]
            exact hvalue
          rw [hfixed]
          constructor
          · rintro hport param' hparam gvalue' hgvalue
            cases hparam
            rw [hvalue] at hgvalue
            cases hgvalue
            exact hport rfl
          · exact fun h _ => h param rfl gvalue hvalue

end Fixed

/-- The responses to a request go back to its real source exactly when its top Via carries
no other `received` and no other value of `rport`. -/
theorem response_routedToSource_iff (source : SourceAddress) {hvalue : Str} {via : Via}
    {request response : Message} (hparse : osipViaParse hvalue = .ok via)
    (hrequest : request.isRequest = true) (htop : request.vias[0]? = some via)
    (hmaddr : via.paramGetByname "maddr".toList = none)
    (hresponse : RespondsTo (osipMessageFixLastViaHeader request source.ip source.port).1
      response) :
    (RoutedToSource source via (osipResponseGetDestination response) ∧
        ∀ top, response.vias[0]? = some top → RoutedToSource source via (sndXxxDestination top)) ↔
      ParamsAgree source via := by
  obtain ⟨hclone, hsome⟩ := osipViaParse_clone hparse
  obtain ⟨host, hhost⟩ := Option.isSome_iff_exists.1 hsome
  have hvias : response.vias[0]? = some (fixLastVia via host source.ip source.port) := by
    rw [hresponse.vias, osipMessageFixLastViaHeader_vias hrequest htop hhost]
    rw [osipViaClone, Option.filter_eq_some_iff] at hclone ⊢
    exact ⟨rfl, hclone.2⟩
  have hhostIff : (sndXxxDestination (fixLastVia via host source.ip source.port)).1 =
      some source.ip ↔ _ := fixLastVia_destination_host hmaddr hhost source.port
  have hportIff : (_ → (sndXxxDestination (fixLastVia via host source.ip source.port)).2 =
      source.port) ↔ _ := fixLastVia_destination_port source.ip
  rw [osipResponseGetDestination_eq hvias, hvias]
  constructor
  · rintro ⟨hrouted, -⟩
    exact ⟨hhostIff.1 hrouted.host, hportIff.1 hrouted.port⟩
  · intro hagree
    have hrouted : RoutedToSource source via
        (sndXxxDestination (fixLastVia via host source.ip source.port)) :=
      ⟨hhostIff.2 hagree.received, hportIff.2 hagree.rport⟩
    refine ⟨hrouted, fun top htop => ?_⟩
    rwa [← Option.some.inj htop]

section Examples

def carol : SourceAddress := ⟨"192.0.2.1".toList, 5062, by decide, by decide⟩

def requestVia (via : Via) : Message :=
  { Message.init with sipMethod := some "OPTIONS".toList, vias := [via] }

def responseVia (source : SourceAddress) (via : Via) : Message :=
  { Message.init with
    statusCode := 200
    vias := (osipMessageFixLastViaHeader (requestVia via) source.ip source.port).1.vias }

def rportVia : Via where
  version := some "2.0".toList
  protocol := some "UDP".toList
  host := some "10.0.0.1".toList
  port := some "5060".toList
  comment := none
  viaParams := [⟨"rport".toList, none⟩, ⟨"branch".toList, some "z9hG4bK1".toList⟩]

/-- A sender that only asks for its port. -/
theorem response_routedToSource_rport :
    osipViaParse "SIP/2.0/UDP 10.0.0.1:5060;rport;branch=z9hG4bK1".toList = .ok rportVia ∧
      RoutedToSource carol rportVia (osipResponseGetDestination (responseVia carol rportVia)) := by
  have hparse : osipViaParse "SIP/2.0/UDP 10.0.0.1:5060;rport;branch=z9hG4bK1".toList =
      .ok rportVia := by decide
  have hagree : ParamsAgree carol rportVia := by
    refine ⟨fun param hparam => ?_, fun param hparam gvalue hgvalue => ?_⟩
    · cases hparam
    · cases hparam
      cases hgvalue
  have hresponse : RespondsTo
      (osipMessageFixLastViaHeader (requestVia rportVia) carol.ip carol.port).1
      (responseVia carol rportVia) := ⟨by decide⟩
  exact ⟨hparse, ((response_routedToSource_iff carol hparse rfl rfl rfl hresponse).2 hagree).1⟩

/-- A `received` of the sender takes the responses to an address of its choice. -/
theorem response_routed_elsewhere :
    ∃ via, osipViaParse "SIP/2.0/UDP 10.0.0.1;received=6.6.6.6;branch=z9hG4bK1".toList = .ok via ∧
      via.paramGetByname "maddr".toList = none ∧
      RespondsTo (osipMessageFixLastViaHeader (requestVia via) carol.ip carol.port).1
        (responseVia carol via) ∧
      osipResponseGetDestination (responseVia carol via) = (some "6.6.6.6".toList, 5060) ∧
      ¬ RoutedToSource carol via (osipResponseGetDestination (responseVia carol via)) := by
  refine ⟨_, rfl, by decide, ⟨by decide⟩, by decide, fun hrouted => ?_⟩
  exact absurd hrouted.host (by decide)

end Examples
end Exosip
