import Exosip.Sdp.Lines

/-! The elements of a session description that have a line of their own: what the parser makes
of a line is well formed, and a well-formed element is read back from the line printed for it. -/
namespace Exosip
namespace Sdp

open CString

theorem append_cons_right_eq {a a' b b' : Str} {c : Char} (ha : c ∉ a) (ha' : c ∉ a')
    (h : a ++ c :: b = a' ++ c :: b') : b = b' := by
  have hb : strchr (a ++ c :: b) c = some (c :: b) := by
    rw [strchr_append ha, strchr, if_pos rfl]
  have hb' : strchr (a' ++ c :: b') c = some (c :: b') := by
    rw [strchr_append ha', strchr, if_pos rfl]
  rw [h, hb'] at hb
  cases hb
  rfl

namespace IsText

variable {a b : Str} {separator : Char}

theorem append_cons (ha : ∀ c ∈ a, isLineEnd c = false) (hsep : isLineEnd separator = false)
    (hb : ∀ c ∈ b, isLineEnd c = false) : IsText (a ++ separator :: b) := by
  refine ⟨by simp, ?_⟩
  intro c hc
  rw [List.mem_append, List.mem_cons] at hc
  rcases hc with hc | rfl | hc
  · exact ha c hc
  · exact hsep
  · exact hb c hc

end IsText

/-- How an element is printed as one line, and that its line is read as the element. -/
def Printed {α : Type} (letter : Char) (append : α → Option Str) (value : Str → Str → Option α)
    (a : α) : Prop :=
  ∃ t, IsText t ∧ append a = some (appendLine letter t) ∧
    ∀ rest, value (t ++ (crlfStr ++ rest)) (crlfStr ++ rest) = some a

section Values

variable {line crlf : Str}

theorem crlfStr_isLineEnd (rest : Str) : IsLineEnd (crlfStr ++ rest) := ⟨'\r', '\n' :: rest, rfl, rfl⟩

theorem lastToken_crlf {t : Str} (h : IsText t) (rest : Str) :
    lastToken (t ++ (crlfStr ++ rest)) = some (t, '\n' :: rest) :=
  lastToken_append h _

theorem textValue_line : textValue (line ++ crlf) crlf = some line := by
  simp [textValue, osipStrncpy, pointerDiff]

/-- A connection as the parser makes it. -/
inductive Connection.Wf : Connection → Prop
  | unicast {nettype addrtype addr} : IsToken ' ' nettype → IsToken ' ' addrtype →
      IsToken '/' addr →
      Wf { cNettype := some nettype, cAddrtype := some addrtype, cAddr := some addr }
  | ttl {nettype addrtype addr ttl} : IsToken ' ' nettype → IsToken ' ' addrtype →
      IsToken '/' addr → IsToken '/' ttl →
      Wf
        { cNettype := some nettype, cAddrtype := some addrtype, cAddr := some addr,
          cAddrMulticastTtl := some ttl }
  | integer {nettype addrtype addr ttl int} : IsToken ' ' nettype → IsToken ' ' addrtype →
      IsToken '/' addr → IsToken '/' ttl → IsText int →
      Wf
        { cNettype := some nettype, cAddrtype := some addrtype, cAddr := some addr,
          cAddrMulticastTtl := some ttl, cAddrMulticastInt := some int }

theorem connectionValue_wf {conn : Connection} (hline : ∀ c ∈ line, isLineEnd c = false)
    (hcrlf : IsLineEnd crlf) (h : connectionValue (line ++ crlf) crlf = some conn) : conn.Wf := by
  simp only [connectionValue, Option.bind_eq_bind, Option.bind_eq_some_iff, Prod.exists] at h
  obtain ⟨nettype, tmp, hnettype, addrtype, tmp₂, haddrtype, h⟩ := h
  obtain ⟨rest, -, rfl, hnet, hrest⟩ := osipSetNextToken_line hline hcrlf rfl hnettype
  obtain ⟨rest₂, -, rfl, haddr, hrest₂⟩ := osipSetNextToken_line hrest hcrlf rfl haddrtype
  split at h
  · next hslash =>
      simp only [Option.bind_eq_some_iff, Prod.exists] at h
      obtain ⟨addr, tmp, hlast, h⟩ := h
      obtain ⟨rfl, htext⟩ := lastToken_line hrest₂ hcrlf hlast
      cases h
      exact .unicast hnet haddr ⟨htext, strchrBefore_eq_none hslash⟩
  · next slash hslash =>
      simp only [Option.bind_eq_some_iff, Prod.exists] at h
      obtain ⟨addr, tmp, htoken, h⟩ := h
      obtain ⟨rest₃, hsplit, rfl, haddress, hrest₃⟩ := osipSetNextToken_line hrest₂ hcrlf rfl htoken
      obtain ⟨front, back, hsplit', hfront, rfl⟩ := strchrBefore_eq_some hslash
      rw [hsplit] at hsplit'
      obtain rfl := append_cons_right_eq haddress.2 hfront hsplit'
      rw [List.tail_cons] at h
      split at h
      · next hslash₂ =>
          simp only [Option.bind_eq_some_iff, Prod.exists] at h
          obtain ⟨ttl, tmp, hlast, h⟩ := h
          obtain ⟨rfl, htext⟩ := lastToken_line hrest₃ hcrlf hlast
          cases h
          exact .ttl hnet haddr haddress ⟨htext, strchrBefore_eq_none hslash₂⟩
      · next slash₂ hslash₂ =>
          simp only [Option.bind_eq_some_iff, Prod.exists] at h
          obtain ⟨ttl, tmp, htoken₂, int, tmp₂, hlast, h⟩ := h
          obtain ⟨rest₄, -, rfl, httl, hrest₄⟩ := osipSetNextToken_line hrest₃ hcrlf rfl htoken₂
          obtain ⟨rfl, htext⟩ := lastToken_line hrest₄ hcrlf hlast
          cases h
          exact .integer hnet haddr haddress httl htext

theorem connection_printed {conn : Connection} (h : conn.Wf) :
    Printed 'c' sdpAppendConnection connectionValue conn := by
  cases h with
  | @unicast nettype addrtype addr hnet haddr haddress =>
      refine ⟨nettype ++ ' ' :: (addrtype ++ ' ' :: addr), ?_, ?_, ?_⟩
      · exact .append_cons hnet.1.2 rfl (IsText.append_cons haddr.1.2 rfl haddress.1.2).2
      · simp [sdpAppendConnection, appendPart]
      · intro rest
        simp only [connectionValue, List.append_assoc, List.cons_append, Option.bind_eq_bind,
          osipSetNextToken_append hnet.1 hnet.2, osipSetNextToken_append haddr.1 haddr.2,
          strchrBefore_notMem haddress.2, Option.bind_some, lastToken_crlf haddress.1]
  | @ttl nettype addrtype addr ttl hnet haddr haddress httl =>
      refine ⟨nettype ++ ' ' :: (addrtype ++ ' ' :: (addr ++ '/' :: ttl)), ?_, ?_, ?_⟩
      · exact .append_cons hnet.1.2 rfl (IsText.append_cons haddr.1.2 rfl
          (IsText.append_cons haddress.1.2 rfl httl.1.2).2).2
      · simp [sdpAppendConnection, appendPart]
      · intro rest
        simp only [connectionValue, List.append_assoc, List.cons_append, Option.bind_eq_bind,
          osipSetNextToken_append hnet.1 hnet.2, osipSetNextToken_append haddr.1 haddr.2,
          strchrBefore_split haddress.2, osipSetNextToken_append haddress.1 haddress.2,
          List.tail_cons, strchrBefore_notMem httl.2, Option.bind_some, lastToken_crlf httl.1]
  | @integer nettype addrtype addr ttl int hnet haddr haddress httl hint =>
      refine ⟨nettype ++ ' ' :: (addrtype ++ ' ' :: (addr ++ '/' :: (ttl ++ '/' :: int))), ?_, ?_, ?_⟩
      · exact .append_cons hnet.1.2 rfl (IsText.append_cons haddr.1.2 rfl
          (IsText.append_cons haddress.1.2 rfl (IsText.append_cons httl.1.2 rfl hint.2).2).2).2
      · simp [sdpAppendConnection, appendPart]
      · intro rest
        have hslash := strchrBefore_split haddress.2 (ttl ++ '/' :: int) (crlfStr ++ rest)
        rw [List.append_assoc, List.cons_append] at hslash
        simp only [connectionValue, List.append_assoc, List.cons_append, Option.bind_eq_bind,
          osipSetNextToken_append hnet.1 hnet.2, osipSetNextToken_append haddr.1 haddr.2,
          hslash, osipSetNextToken_append haddress.1 haddress.2, List.tail_cons,
          strchrBefore_split httl.2, osipSetNextToken_append httl.1 httl.2, Option.bind_some,
          lastToken_crlf hint]

inductive Bandwidth.Wf : Bandwidth → Prop
  | mk {bwtype bandwidth} : IsToken ':' bwtype → IsText bandwidth →
      Wf { bBwtype := some bwtype, bBandwidth := some bandwidth }

theorem bandwidthValue_wf {bandwidth : Bandwidth} (hline : ∀ c ∈ line, isLineEnd c = false)
    (hcrlf : IsLineEnd crlf) (h : bandwidthValue (line ++ crlf) crlf = some bandwidth) :
    bandwidth.Wf := by
  simp only [bandwidthValue, Option.bind_eq_bind, Option.bind_eq_some_iff, Prod.exists] at h
  obtain ⟨bwtype, tmp, htoken, value, tmp₂, hlast, h⟩ := h
  obtain ⟨rest, -, rfl, hbwtype, hrest⟩ := osipSetNextToken_line hline hcrlf rfl htoken
  obtain ⟨rfl, htext⟩ := lastToken_line hrest hcrlf hlast
  cases h
  exact .mk hbwtype htext

theorem bandwidth_printed {bandwidth : Bandwidth} (h : bandwidth.Wf) :
    Printed 'b' sdpAppendBandwidth bandwidthValue bandwidth := by
  cases h with
  | @mk bwtype value hbwtype hvalue =>
      refine ⟨bwtype ++ ':' :: value, .append_cons hbwtype.1.2 rfl hvalue.2, rfl, ?_⟩
      intro rest
      simp only [bandwidthValue, List.append_assoc, List.cons_append, Option.bind_eq_bind,
        osipSetNextToken_append hbwtype.1 hbwtype.2, Option.bind_some, lastToken_crlf hvalue]

/-- The first line of a time description. -/
inductive TimeDescr.Wf : TimeDescr → Prop
  | mk {start stop repeats} : IsToken ' ' start → IsText stop → (∀ r ∈ repeats, IsText r) →
      Wf { tStartTime := some start, tStopTime := some stop, rRepeats := repeats }

theorem timeDescrValue_wf {timeDescr : TimeDescr} (hline : ∀ c ∈ line, isLineEnd c = false)
    (hcrlf : IsLineEnd crlf) (h : timeDescrValue (line ++ crlf) crlf = some timeDescr) :
    timeDescr.Wf := by
  simp only [timeDescrValue, Option.bind_eq_bind, Option.bind_eq_some_iff, Prod.exists] at h
  obtain ⟨start, tmp, htoken, stop, tmp₂, hlast, h⟩ := h
  obtain ⟨rest, -, rfl, hstart, hrest⟩ := osipSetNextToken_line hline hcrlf rfl htoken
  obtain ⟨rfl, htext⟩ := lastToken_line hrest hcrlf hlast
  cases h
  exact .mk hstart htext nofun

theorem timeDescrValue_printed {start stop : Str} (hstart : IsToken ' ' start)
    (hstop : IsText stop) (rest : Str) :
    timeDescrValue (start ++ ' ' :: stop ++ (crlfStr ++ rest)) (crlfStr ++ rest) =
      some { tStartTime := some start, tStopTime := some stop } := by
  simp only [timeDescrValue, List.append_assoc, List.cons_append, Option.bind_eq_bind,
    osipSetNextToken_append hstart.1 hstart.2, Option.bind_some, lastToken_crlf hstop]

/-- A name and maybe a value as the parser makes them. -/
def ColonWf (name : Str) (value : Option Str) : Prop :=
  IsToken ':' name ∧ ∀ v ∈ value, IsText v

theorem colonValue_wf {name : Str} {value : Option Str} (hline : ∀ c ∈ line, isLineEnd c = false)
    (hcrlf : IsLineEnd crlf) (h : colonValue (line ++ crlf) crlf = some (name, value)) :
    ColonWf name value := by
  rw [colonValue] at h
  split at h
  · simp only [Option.bind_eq_bind, Option.bind_eq_some_iff, Prod.exists] at h
    obtain ⟨name, tmp, htoken, value, tmp₂, hlast, h⟩ := h
    obtain ⟨rest, -, rfl, hname, hrest⟩ := osipSetNextToken_line hline hcrlf rfl htoken
    obtain ⟨rfl, htext⟩ := lastToken_line hrest hcrlf hlast
    cases h
    exact ⟨hname, fun v hv => by cases hv; exact htext⟩
  · next hcolon =>
      simp only [Option.bind_eq_bind, Option.bind_eq_some_iff, Prod.exists] at h
      obtain ⟨name, tmp, hlast, h⟩ := h
      obtain ⟨rfl, htext⟩ := lastToken_line hline hcrlf hlast
      cases h
      exact ⟨⟨htext, strchrBefore_eq_none hcolon⟩, nofun⟩

theorem colonWf_isText {name : Str} {value : Option Str} (h : ColonWf name value) :
    IsText (name ++ appendPart ':' value) := by
  cases value with
  | none =>
      rw [appendPart, Option.elim_none, List.append_nil]
      exact h.1.1
  | some v => exact .append_cons h.1.1.2 rfl (h.2 v rfl).2

theorem colonValue_printed {name : Str} {value : Option Str} (h : ColonWf name value)
    (rest : Str) :
    colonValue (name ++ appendPart ':' value ++ (crlfStr ++ rest)) (crlfStr ++ rest) =
      some (name, value) := by
  cases value with
  | none =>
      rw [appendPart, Option.elim_none, List.append_nil, colonValue, strchrBefore_notMem h.1.2]
      simp only [Option.bind_eq_bind, Option.bind_some, lastToken_crlf h.1.1]
  | some v =>
      rw [appendPart, Option.elim_some, List.append_assoc, List.cons_append, colonValue,
        strchrBefore_split h.1.2]
      simp only [Option.bind_eq_bind, osipSetNextToken_append h.1.1 h.1.2, Option.bind_some,
        lastToken_crlf (h.2 v rfl)]

inductive Key.Wf : Key → Prop
  | mk {keytype keydata} : ColonWf keytype keydata →
      Wf { kKeytype := some keytype, kKeydata := keydata }

theorem keyValue_wf {key : Key} (hline : ∀ c ∈ line, isLineEnd c = false) (hcrlf : IsLineEnd crlf)
    (h : keyValue (line ++ crlf) crlf = some key) : key.Wf := by
  obtain ⟨⟨keytype, keydata⟩, hcolon, rfl⟩ := Option.map_eq_some_iff.1 h
  exact .mk (colonValue_wf hline hcrlf hcolon)

theorem key_printed {key : Key} (h : key.Wf) : Printed 'k' sdpAppendKey keyValue key := by
  cases h with
  | mk hcolon =>
      refine ⟨_, colonWf_isText hcolon, rfl, ?_⟩
      intro rest
      rw [keyValue, colonValue_printed hcolon]
      rfl

inductive Attribute.Wf : Attribute → Prop
  | mk {field value} : ColonWf field value → Wf { aAttField := some field, aAttValue := value }

theorem attributeValue_wf {attr : Attribute} (hline : ∀ c ∈ line, isLineEnd c = false)
    (hcrlf : IsLineEnd crlf) (h : attributeValue (line ++ crlf) crlf = some attr) : attr.Wf := by
  obtain ⟨⟨field, value⟩, hcolon, rfl⟩ := Option.map_eq_some_iff.1 h
  exact .mk (colonValue_wf hline hcrlf hcolon)

theorem attribute_printed {attr : Attribute} (h : attr.Wf) :
    Printed 'a' sdpAppendAttribute attributeValue attr := by
  cases h with
  | mk hcolon =>
      refine ⟨_, colonWf_isText hcolon, rfl, ?_⟩
      intro rest
      rw [attributeValue, colonValue_printed hcolon]
      rfl

def PayloadsWf : List Str → Prop
  | [] => True
  | [last] => IsText last ∧ ' ' ∉ last.tail
  | payload :: payloads => IsToken ' ' payload ∧ PayloadsWf payloads

theorem payloadLoop_wf {fuel : Nat} {payloads : List Str}
    (hline : ∀ c ∈ line, isLineEnd c = false) (hcrlf : IsLineEnd crlf)
    (h : payloadLoop crlf fuel (line ++ crlf) = some payloads) : PayloadsWf payloads := by
  induction fuel generalizing line payloads with
  | zero => cases h
  | succ fuel ih =>
      rw [payloadLoop] at h
      split at h
      · simp only [Option.bind_eq_bind, Option.bind_eq_some_iff, Prod.exists] at h
        obtain ⟨payload, tmp, htoken, rest, hrest, h⟩ := h
        obtain ⟨line', -, rfl, hpayload, hline'⟩ := osipSetNextToken_line hline hcrlf rfl htoken
        cases h
        have hwf := ih hline' hrest
        cases rest with
        | nil => exact ⟨hpayload.1, fun hmem => hpayload.2 (List.mem_of_mem_tail hmem)⟩
        | cons next rest => exact ⟨hpayload, hwf⟩
      · next hspace =>
          split_ifs at h with hlen
          · simp only [Option.bind_eq_bind, Option.bind_eq_some_iff, Prod.exists] at h
            obtain ⟨payload, tmp, hlast, h⟩ := h
            obtain ⟨rfl, htext⟩ := lastToken_line hline hcrlf hlast
            cases h
            obtain ⟨c, t, rfl⟩ := List.exists_cons_of_ne_nil htext.1
            exact ⟨htext, strchrBefore_eq_none hspace⟩
          · cases h
            trivial

theorem payloadLoop_past {fuel : Nat} {tmp : Str} (h : tmp.length ≤ crlf.length) :
    payloadLoop crlf (fuel + 1) tmp = some [] := by
  have hnone : strchrBefore tmp.tail ' ' crlf = none := by
    rw [strchrBefore]
    cases hfind : strchr tmp.tail ' ' with
    | none => rfl
    | some p =>
        have := strchr_length_le hfind
        rw [List.length_tail] at this
        simp
        omega
  rw [payloadLoop, hnone]
  dsimp only
  rw [if_neg (by omega)]

theorem payloadLoop_printed {payload : Str} {payloads : List Str}
    (h : PayloadsWf (payload :: payloads)) (rest : Str) {fuel : Nat}
    (hfuel : payloads.length < fuel) :
    payloadLoop (crlfStr ++ rest) fuel
      (payload ++ (payloads.flatMap (' ' :: ·) ++ (crlfStr ++ rest))) =
        some (payload :: payloads) := by
  induction payloads generalizing payload fuel with
  | nil =>
      obtain ⟨fuel, rfl⟩ := Nat.exists_eq_add_of_lt hfuel
      obtain ⟨c, t, rfl⟩ := List.exists_cons_of_ne_nil h.1.1
      have hspace : ' ' ∉ t := h.2
      have hlast := lastToken_crlf h.1 rest
      rw [List.cons_append] at hlast
      rw [List.flatMap_nil, List.nil_append, List.cons_append, payloadLoop, List.tail_cons,
        strchrBefore_notMem hspace]
      dsimp only
      rw [if_pos (by simp only [List.length_cons, List.length_append]; omega), hlast]
      rfl
  | cons next payloads ih =>
      cases fuel with
      | zero => exact absurd hfuel (Nat.not_lt_zero _)
      | succ fuel =>
          have hrest := ih h.2 (Nat.lt_of_succ_lt_succ hfuel)
          obtain ⟨c, t, rfl⟩ := List.exists_cons_of_ne_nil h.1.1.1
          have hspace : ' ' ∉ t := fun hmem => h.1.2 (List.mem_cons_of_mem _ hmem)
          have htoken := osipSetNextToken_append h.1.1 h.1.2
            (next ++ (payloads.flatMap (' ' :: ·) ++ (crlfStr ++ rest)))
          have hbefore := strchrBefore_split hspace (next ++ payloads.flatMap (' ' :: ·))
            (crlfStr ++ rest)
          rw [List.cons_append] at htoken
          rw [List.append_assoc] at hbefore
          rw [List.flatMap_cons, List.cons_append, List.cons_append, List.cons_append,
            List.append_assoc, payloadLoop, List.tail_cons, hbefore]
          simp only [Option.bind_eq_bind, htoken, Option.bind_some, hrest]

theorem payloads_length_le (payloads : List Str) :
    payloads.length ≤ (payloads.flatMap (' ' :: ·)).length := by
  induction payloads with
  | nil => exact le_rfl
  | cons payload payloads ih =>
      rw [List.flatMap_cons, List.length_append, List.length_cons, List.length_cons]
      omega

def PortWf (port : Str) (number : Option Str) : Prop :=
  IsToken ' ' port ∧ '/' ∉ port ∧ ∀ n ∈ number, IsToken ' ' n

theorem append_cons_left_eq {a a' b b' : Str} {c : Char} (ha : c ∉ a) (ha' : c ∉ a')
    (h : a ++ c :: b = a' ++ c :: b') : a = a' := by
  obtain rfl := append_cons_right_eq ha ha' h
  exact List.append_cancel_right h

theorem portValue_wf {port : Str} {number : Option Str} {tmp : Str}
    (hline : ∀ c ∈ line, isLineEnd c = false) (hcrlf : IsLineEnd crlf)
    (h : portValue (line ++ crlf) = some (port, number, tmp)) :
    PortWf port number ∧ ∃ rest, tmp = rest ++ crlf ∧ ∀ c ∈ rest, isLineEnd c = false := by
  simp only [portValue, Option.bind_eq_bind, Option.bind_eq_some_iff] at h
  obtain ⟨space, hspace, h⟩ := h
  obtain ⟨front, back, hsplit, hfront, rfl⟩ := strchr_eq_some_iff.1 hspace
  rw [hsplit] at h
  split at h
  · next hslash =>
      simp only [Option.bind_eq_some_iff, Prod.exists] at h
      obtain ⟨port, tmp, hport, number, tmp₂, hnumber, h⟩ := h
      cases h
      obtain ⟨before, after, rfl, hbefore, -⟩ := strchrBefore_eq_some hslash
      have hport' := osipSetNextToken_eq_some hport
      rw [← hsplit] at hport
      obtain ⟨rest, -, rfl, htoken, hrest⟩ := osipSetNextToken_line hline hcrlf rfl hport
      obtain ⟨rest₂, -, rfl, hnum, hrest₂⟩ := osipSetNextToken_line hrest hcrlf rfl hnumber
      have hbuf := hport'.1
      rw [List.append_assoc, List.cons_append] at hbuf
      obtain rfl := append_cons_left_eq hbefore hport'.2.2 hbuf
      refine ⟨⟨⟨htoken.1, ?_⟩, hbefore, ?_⟩, rest₂, rfl, hrest₂⟩
      · exact fun hmem => hfront (List.mem_append_left _ hmem)
      · intro n hn
        cases hn
        exact hnum
  · next hslash =>
      simp only [Option.bind_eq_some_iff, Prod.exists] at h
      obtain ⟨port, tmp, hport, h⟩ := h
      cases h
      have hport' := osipSetNextToken_eq_some hport
      rw [← hsplit] at hport
      obtain ⟨rest, -, rfl, htoken, hrest⟩ := osipSetNextToken_line hline hcrlf rfl hport
      obtain rfl := append_cons_left_eq hfront hport'.2.2 hport'.1
      exact ⟨⟨htoken, strchrBefore_eq_none hslash, nofun⟩, rest, rfl, hrest⟩

theorem portValue_printed {port : Str} {number : Option Str} (h : PortWf port number)
    (rest : Str) :
    portValue (port ++ appendPart '/' number ++ ' ' :: rest) = some (port, number, rest) := by
  obtain ⟨hport, hslash, hnumber⟩ := h
  cases number with
  | none =>
      have hspace : strchr (port ++ ' ' :: rest) ' ' = some (' ' :: rest) := by
        rw [strchr_append hport.2, strchr, if_pos rfl]
      rw [appendPart, Option.elim_none, List.append_nil, portValue, hspace]
      simp only [Option.bind_eq_bind, Option.bind_some, strchrBefore_notMem hslash,
        osipSetNextToken_append hport.1 hport.2]
  | some n =>
      have hn := hnumber n rfl
      have hspace : strchr (port ++ '/' :: (n ++ ' ' :: rest)) ' ' = some (' ' :: rest) := by
        rw [strchr_append hport.2, strchr, if_neg (by decide), strchr_append hn.2, strchr,
          if_pos rfl]
      rw [appendPart, Option.elim_some, List.append_assoc, List.cons_append, portValue, hspace]
      simp only [Option.bind_eq_bind, Option.bind_some, strchrBefore_split hslash,
        osipSetNextToken_append hport.1 hslash, osipSetNextToken_append hn.1 hn.2]

/-- A protocol as the parser makes it: it is the rest of the line when it starts with a space. -/
def ProtoWf (proto : Str) (payloads : List Str) : Prop :=
  IsText proto ∧ (' ' ∉ proto ∨ proto.head? = some ' ' ∧ payloads = [])

/-- The line of a media, and the lines that belong to it. -/
structure Media.Wf (media : Media) : Prop where
  name : ∃ name ∈ media.mMedia, IsToken ' ' name
  port : ∃ port ∈ media.mPort, PortWf port media.mNumberOfPort
  proto : ∃ proto ∈ media.mProto, ProtoWf proto media.mPayloads
  payloads : PayloadsWf media.mPayloads
  info : ∀ i ∈ media.iInfo, IsText i
  connections : ∀ c ∈ media.cConnections, c.Wf
  bandwidths : ∀ b ∈ media.bBandwidths, b.Wf
  attributes : ∀ a ∈ media.aAttributes, a.Wf
  key : ∀ k ∈ media.kKey, k.Wf

theorem osipSetNextToken_cons_self (separator : Char) (rest : Str) :
    osipSetNextToken (separator :: rest) separator = none := by
  simp [osipSetNextToken]

theorem notMem_or_head {separator : Char} (hline : ∀ c ∈ line, isLineEnd c = false)
    (h : osipSetNextToken (line ++ crlf) separator = none) :
    separator ∉ line ∨ line.head? = some separator := by
  by_cases hmem : separator ∈ line
  · obtain ⟨front, back, rfl, hfront⟩ := List.eq_append_cons_of_mem hmem
    cases front with
    | nil => exact .inr rfl
    | cons c front =>
        have htext : IsText (c :: front) :=
          ⟨List.cons_ne_nil _ _, fun d hd => hline d (List.mem_append_left _ hd)⟩
        have htoken := osipSetNextToken_append htext hfront (back ++ crlf)
        have hbuf : (c :: front ++ separator :: back) ++ crlf =
            c :: front ++ separator :: (back ++ crlf) := by simp
        rw [hbuf, htoken] at h
        cases h
  · exact .inl hmem

theorem lastToken_length {buf t next : Str} (h : lastToken buf = some (t, next)) :
    buf.length = t.length + 1 + next.length := by
  have hlength (sep : Char) (htoken : osipSetNextToken buf sep = some (t, next)) :
      buf.length = t.length + 1 + next.length := by
    rw [(osipSetNextToken_eq_some htoken).1, List.length_append, List.length_cons]
    omega
  rw [lastToken] at h
  cases hcr : osipSetNextToken buf '\r' with
  | none =>
      rw [hcr] at h
      exact hlength '\n' h
  | some result =>
      rw [hcr] at h
      cases h
      exact hlength '\r' hcr

theorem mediaValue_wf {media : Media} (hline : ∀ c ∈ line, isLineEnd c = false)
    (hcrlf : IsLineEnd crlf) (h : mediaValue (line ++ crlf) crlf = some media) : media.Wf := by
  simp only [mediaValue, Option.bind_eq_bind, Option.bind_eq_some_iff, Prod.exists] at h
  obtain ⟨name, tmp, hname, port, number, tmp₂, hport, proto, tmp₃, hproto, payloads, hpayloads,
    h⟩ := h
  obtain ⟨rest, -, rfl, htoken, hrest⟩ := osipSetNextToken_line hline hcrlf rfl hname
  obtain ⟨hportWf, rest₂, rfl, hrest₂⟩ := portValue_wf hrest hcrlf hport
  have hwf : ProtoWf proto payloads ∧ PayloadsWf payloads := by
    cases hspace : osipSetNextToken (rest₂ ++ crlf) ' ' with
    | some result =>
        rw [hspace] at hproto
        cases hproto
        obtain ⟨rest₃, -, rfl, hprotoWf, hrest₃⟩ := osipSetNextToken_line hrest₂ hcrlf rfl hspace
        exact ⟨⟨hprotoWf.1, .inl hprotoWf.2⟩, payloadLoop_wf hrest₃ hcrlf hpayloads⟩
    | none =>
        rw [hspace] at hproto
        have hlast : lastToken (rest₂ ++ crlf) = some (proto, tmp₃) := hproto
        obtain ⟨rfl, htext⟩ := lastToken_line hrest₂ hcrlf hlast
        have hlength := lastToken_length hlast
        rw [List.length_append] at hlength
        rw [payloadLoop_past (by omega)] at hpayloads
        cases hpayloads
        exact ⟨⟨htext, (notMem_or_head hrest₂ hspace).imp id fun hhead => ⟨hhead, rfl⟩⟩, trivial⟩
  cases h
  exact
    { name := ⟨name, rfl, htoken⟩
      port := ⟨port, rfl, hportWf⟩
      proto := ⟨proto, rfl, hwf.1⟩
      payloads := hwf.2
      info := nofun
      connections := nofun
      bandwidths := nofun
      attributes := nofun
      key := nofun }

def mediaText (name port : Str) (number : Option Str) (proto : Str) (payloads : List Str) : Str :=
  name ++ ' ' :: port ++ appendPart '/' number ++ ' ' :: proto ++ payloads.flatMap (' ' :: ·)

theorem mediaValue_printed {name port proto : Str} {number : Option Str} {payloads : List Str}
    (hname : IsToken ' ' name) (hport : PortWf port number) (hproto : ProtoWf proto payloads)
    (hpayloads : PayloadsWf payloads) (rest : Str) :
    mediaValue (mediaText name port number proto payloads ++ (crlfStr ++ rest)) (crlfStr ++ rest) =
      some
        { mMedia := some name, mPort := some port, mNumberOfPort := number, mProto := some proto,
          mPayloads := payloads } := by
  have htext : mediaText name port number proto payloads ++ (crlfStr ++ rest) =
      name ++ ' ' :: (port ++ appendPart '/' number ++
        ' ' :: (proto ++ (payloads.flatMap (' ' :: ·) ++ (crlfStr ++ rest)))) := by
    simp [mediaText]
  simp only [mediaValue, htext, Option.bind_eq_bind, osipSetNextToken_append hname.1 hname.2,
    portValue_printed hport, Option.bind_some]
  have hpast : payloadLoop (crlfStr ++ rest) (('\n' :: rest).length + 1) ('\n' :: rest) =
      some [] := payloadLoop_past (by simp [crlfStr])
  obtain ⟨hprotoText, hspace | ⟨hspace, rfl⟩⟩ := hproto
  · cases payloads with
    | nil =>
        have htoken : osipSetNextToken (proto ++ (crlfStr ++ rest)) ' ' = none :=
          osipSetNextToken_eq_none hprotoText.2 hspace (crlfStr_isLineEnd rest) rfl
        rw [List.flatMap_nil, List.nil_append, htoken]
        simp only [Option.orElse_eq_orElse, Option.orElse_none, lastToken_crlf hprotoText,
          Option.bind_some, hpast]
    | cons payload payloads =>
        have hfuel : payloads.length <
            (payload ++ (payloads.flatMap (' ' :: ·) ++ (crlfStr ++ rest))).length + 1 := by
          have := payloads_length_le payloads
          simp only [List.length_append]
          omega
        have hloop := payloadLoop_printed hpayloads rest hfuel
        have htoken := osipSetNextToken_append hprotoText hspace
          (payload ++ (payloads.flatMap (' ' :: ·) ++ (crlfStr ++ rest)))
        rw [List.flatMap_cons, List.append_assoc, List.cons_append, htoken]
        simp only [Option.orElse_eq_orElse, Option.orElse_some, Option.bind_some, hloop]
  · obtain ⟨t, rfl⟩ : ∃ t, proto = ' ' :: t := by
      cases proto with
      | nil => cases hspace
      | cons c t =>
          cases hspace
          exact ⟨t, rfl⟩
    have hlast := lastToken_crlf hprotoText rest
    rw [List.cons_append] at hlast
    rw [List.flatMap_nil, List.nil_append, List.cons_append, osipSetNextToken_cons_self]
    simp only [Option.orElse_eq_orElse, Option.orElse_none, hlast, Option.bind_some, hpast]

theorem payloads_isLineEnd {payloads : List Str} (h : PayloadsWf payloads) :
    ∀ c ∈ payloads.flatMap (' ' :: ·), isLineEnd c = false := by
  induction payloads with
  | nil => exact nofun
  | cons payload payloads ih =>
      have hfront : IsText payload ∧ PayloadsWf payloads := by
        cases payloads with
        | nil => exact ⟨h.1, trivial⟩
        | cons next payloads => exact ⟨h.1.1, h.2⟩
      rw [List.flatMap_cons]
      intro c hc
      rcases List.mem_append.1 hc with hc | hc
      · rcases List.mem_cons.1 hc with rfl | hc
        · rfl
        · exact hfront.1.2 c hc
      · exact ih hfront.2 c hc

theorem mediaText_isText {name port proto : Str} {number : Option Str} {payloads : List Str}
    (hname : IsToken ' ' name) (hport : PortWf port number) (hproto : ProtoWf proto payloads)
    (hpayloads : PayloadsWf payloads) : IsText (mediaText name port number proto payloads) := by
  have hpayload := payloads_isLineEnd hpayloads
  have hnumber : ∀ c ∈ port ++ appendPart '/' number, isLineEnd c = false := by
    cases number with
    | none =>
        rw [appendPart, Option.elim_none, List.append_nil]
        exact hport.1.1.2
    | some n => exact (IsText.append_cons hport.1.1.2 rfl (hport.2.2 n rfl).1.2).2
  have hback : ∀ c ∈ proto ++ payloads.flatMap (' ' :: ·), isLineEnd c = false := by
    intro c hc
    rcases List.mem_append.1 hc with hc | hc
    · exact hproto.1.2 c hc
    · exact hpayload c hc
  have htext : mediaText name port number proto payloads =
      name ++ ' ' :: (port ++ appendPart '/' number ++
        ' ' :: (proto ++ payloads.flatMap (' ' :: ·))) := by
    simp [mediaText]
  rw [htext]
  exact .append_cons hname.1.2 rfl (IsText.append_cons hnumber rfl hback).2

end Values

end Sdp
end Exosip
