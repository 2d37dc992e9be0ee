import Exosip.Parser.GenericParam

/-! The Via header: its parser and printer, and the fix of the top Via of a request
that arrives. -/
namespace Exosip

open CString

/-- The `strchr` whose NULL is a syntax error. -/
def strchrOrError (s : Str) (c : Char) : Except Int Str :=
  match strchr s c with
  | none => .error osipSyntaxerror
  | some found => .ok found

/-- The tests of the parser on the distance between two pointers. -/
def syntaxCheck (accepted : Prop) [Decidable accepted] : Except Int Unit :=
  if accepted then .ok () else .error osipSyntaxerror

def skipSpaces : Str → Except Int Str
  | ' ' :: host => if host.length = 1 then .error osipSyntaxerror else skipSpaces host
  | host => .ok host

/-- The space after the protocol, where the sent-by part begins. A name of the protocol
after spaces is at least one character long, so a text of spaces is refused here. -/
def viaHost (protocol : Str) : Except Int Str := do
  let host ← strchrOrError protocol.tail ' '
  if host.length = protocol.tail.length then
    strchrOrError (← skipSpaces host).tail ' '
  else .ok host

/-- The comment and where it begins: the character before its '(', or the end. -/
def viaComment (host : Str) : Except Int (Option Str × Str) :=
  match strchr host '(' with
  | none => .ok (none, [])
  | some comment =>
      match strchr host ')' with
      | none => .error osipSyntaxerror
      | some endComment =>
          if pointerDiff endComment comment < 2 then .error osipSyntaxerror
          else
            .ok (some (osipStrncpy comment.tail (pointerDiff endComment comment - 1)),
              host.drop (pointerDiff comment host - 1))

/-- The parameters, when they begin before the comment, and the end of the sent-by part. -/
def viaParams (host comment : Str) : Except Int (List GenericParam × Str) :=
  match strchr host ';' with
  | none => .ok ([], comment)
  | some params =>
      if comment.length < params.length then do
        .ok (← GenericParam.parseall [] (osipStrncpy params (pointerDiff comment params)), params)
      else .ok ([], params)

/-- An IPv6 address in brackets and the ':' of the port, or only the latter. -/
def viaIpv6host (host params : Str) : Except Int (Option Str × Option Str) :=
  match strchr host '[' with
  | some ipv6host =>
      if params.length < ipv6host.length then
        match strchr ipv6host ']' with
        | none => .error osipSyntaxerror
        | some port =>
            if port.length < params.length ∨ pointerDiff port ipv6host < 2 then
              .error osipSyntaxerror
            else
              .ok (some (osipClrncpy ipv6host.tail (pointerDiff port ipv6host - 1)),
                strchr port ':')
      else .ok (none, strchr host ':')
  | none => .ok (none, strchr host ':')

/-- The port and where the host name ends. -/
def viaPort (port : Option Str) (params : Str) : Except Int (Option Str × Str) :=
  match port with
  | some port =>
      if params.length < port.length then
        if pointerDiff params port < 2 then .error osipSyntaxerror
        else
          let text := osipClrncpy port.tail (pointerDiff params port - 1)
          if osipAtoi text < 0 then .error osipSyntaxerror else .ok (some text, port)
      else .ok (none, params)
  | none => .ok (none, params)

def osipViaParse (hvalue : Str) : Except Int Via := do
  let version ← strchrOrError hvalue '/'
  let protocol ← strchrOrError version.tail '/'
  syntaxCheck (2 ≤ pointerDiff protocol version)
  let host ← viaHost protocol
  syntaxCheck (2 ≤ pointerDiff host protocol)
  let (comment, commentStart) ← viaComment host
  let (viaParams, params) ← viaParams host commentStart
  let (ipv6host, portStart) ← viaIpv6host host params
  let (port, hostEnd) ← viaPort portStart params
  syntaxCheck (ipv6host.isSome ∨ 2 ≤ pointerDiff hostEnd host)
  .ok
    { version := some (osipClrncpy version.tail (pointerDiff protocol version - 1))
      protocol := some (osipClrncpy protocol.tail (pointerDiff host protocol - 1))
      host := some (ipv6host.getD (osipClrncpy host.tail (pointerDiff hostEnd host - 1)))
      port
      comment
      viaParams }

def osipViaToStr (via : Via) : Except Int Str :=
  match via.host, via.version, via.protocol with
  | some host, some version, some protocol =>
      let sentBy := if (strchr host ':').isSome then '[' :: host ++ [']'] else host
      .ok ("SIP/".toList ++ version ++ '/' :: protocol ++ ' ' :: sentBy ++
        (via.port.map fun port => ':' :: port).getD [] ++
        via.viaParams.flatMap GenericParam.toStr ++
        (via.comment.map fun comment => " (".toList ++ comment ++ [')']).getD [])
  | _, _, _ => .error osipBadparameter

/-- `osip_via_match`: the printed headers are equal. -/
def osipViaMatch (via1 via2 : Via) : Bool :=
  match osipViaToStr via1, osipViaToStr via2 with
  | .ok via1, .ok via2 => via1 == via2
  | _, _ => false

/-- What `osip_message_fix_last_via_header` does to a parameter `rport`: a value that the
sender put there is kept. -/
def fixRport (port : Nat) (rport : GenericParam) : GenericParam :=
  match rport.gvalue with
  | none => { rport with gvalue := some (portString 8 port) }
  | some _ => rport

/-- The top Via as the fix leaves it: `received` is appended unless the host is the address. -/
def fixLastVia (via : Via) (host ipAddr : Str) (port : Nat) : Via :=
  let viaParams := GenericParam.modifyByname via.viaParams "rport".toList (fixRport port)
  { via with
    viaParams :=
      if host = ipAddr then viaParams
      else GenericParam.add viaParams "received".toList (some ipAddr) }

/-- `osip_message_fix_last_via_header`, with its return value. -/
def osipMessageFixLastViaHeader (request : Message) (ipAddr : Str) (port : Nat) : Message × Int :=
  if request.isResponse then (request, osipSuccess)
  else
    match request.vias with
    | [] => (request, osipBadparameter)
    | via :: vias =>
        match via.host with
        | none => (request, osipBadparameter)
        | some host =>
            ({ request with vias := fixLastVia via host ipAddr port :: vias }, osipSuccess)

section Host

private theorem bind_eq_ok {α β : Type} {x : Except Int α} {f : α → Except Int β} {b : β}
    (h : (x >>= f) = .ok b) : ∃ a, x = .ok a ∧ f a = .ok b := by
  cases x with
  | error i => cases h
  | ok a => exact ⟨a, rfl, h⟩

theorem osipViaParse_clone {hvalue : Str} {via : Via} (h : osipViaParse hvalue = .ok via) :
    osipViaClone (some via) = some via ∧ via.host.isSome = true := by
  obtain ⟨version, -, h⟩ := bind_eq_ok h
  obtain ⟨protocol, -, h⟩ := bind_eq_ok h
  obtain ⟨-, -, h⟩ := bind_eq_ok h
  obtain ⟨host, -, h⟩ := bind_eq_ok h
  obtain ⟨-, -, h⟩ := bind_eq_ok h
  obtain ⟨⟨comment, commentStart⟩, -, h⟩ := bind_eq_ok h
  obtain ⟨⟨viaParams, params⟩, -, h⟩ := bind_eq_ok h
  obtain ⟨⟨ipv6host, portStart⟩, -, h⟩ := bind_eq_ok h
  obtain ⟨⟨port, hostEnd⟩, -, h⟩ := bind_eq_ok h
  obtain ⟨-, -, h⟩ := bind_eq_ok h
  cases h
  exact ⟨rfl, rfl⟩

end Host
end Exosip
