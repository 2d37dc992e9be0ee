import Exosip.Parser.Complete
import Exosip.Parser.MimeRoundTrip

/-! How `osip_message_parse` reads a header section of unfolded lines: it comes to the empty
line behind them with each header stored in turn. -/
namespace Exosip

open CString

/-! ### Nothing is unfolded -/

namespace Lws

theorem hasFold_of_stop {s : Str} (h : nearNul s || headerEnd s) : hasFold s = false := by
  cases s with
  | nil => rfl
  | cons c tmp => simp [hasFold, h]

theorem hasFold_cons {c : Char} {tmp : Str} (hfold : folded (c :: tmp) = false)
    (h : hasFold tmp = false) : hasFold (c :: tmp) = false := by
  rw [hasFold, hfold, h]
  simp

theorem folded_of_ne {c : Char} (h : c ≠ '\r' ∧ c ≠ '\n') (tmp : Str) :
    folded (c :: tmp) = false := by
  unfold folded
  split
  · next heq => cases heq; exact absurd rfl h.1
  · next heq => cases heq; exact absurd rfl h.1
  · next heq => cases heq; exact absurd rfl h.2
  · rfl

theorem hasFold_append {line : Str} (h : Plain line) {s : Str} (hs : hasFold s = false) :
    hasFold (line ++ s) = false := by
  induction line with
  | nil => exact hs
  | cons c line ih =>
      have hc := h c List.mem_cons_self
      have hline : Plain line := fun d hd => h d (List.mem_cons_of_mem c hd)
      exact hasFold_cons (folded_of_ne ⟨hc.1, hc.2.1⟩ _) (ih hline)

theorem hasFold_crlf {c : Char} {s : Str} (hc : isSpOrHt c = false) (h : hasFold (c :: s) = false) :
    hasFold (crlf ++ c :: s) = false := by
  have hcr : folded ('\r' :: '\n' :: c :: s) = false := hc
  have hlf : folded ('\n' :: c :: s) = false := hc
  exact hasFold_cons hcr (hasFold_cons hlf h)

end Lws

/-- A line of a header section: it is plain and begins like a name. -/
structure HeadLine (line : Str) : Prop where
  plain : Plain line
  head : ∃ c rest, line = c :: rest ∧ isTokenChar c = true

theorem FieldText.headLine {header : Str × Str} (h : FieldText header) :
    HeadLine (printed header) := by
  obtain ⟨c, name, hname⟩ := List.exists_cons_of_ne_nil h.name_ne
  refine ⟨h.plain, c, name ++ ": ".toList ++ header.2, ?_, h.token c ?_⟩
  · rw [printed, hname]
    rfl
  · rw [hname]
    exact List.mem_cons_self

theorem isSpOrHt_of_isTokenChar {c : Char} (h : isTokenChar c = true) : Lws.isSpOrHt c = false := by
  obtain ⟨-, -, hsp, hht⟩ := isTokenChar_plain h
  simp [Lws.isSpOrHt, hsp, hht]

theorem hasFold_unlines {first : Str} (hfirst : Plain first) {lines : List Str}
    (hlines : ∀ line ∈ lines, HeadLine line) (rest : Str) :
    Lws.hasFold (unlines (first :: lines) ++ crlf ++ rest) = false := by
  induction lines generalizing first with
  | nil =>
      have hend : unlines [first] ++ crlf ++ rest = first ++ (crlf ++ (crlf ++ rest)) := by simp
      rw [hend]
      apply Lws.hasFold_append hfirst
      apply Lws.hasFold_of_stop
      simp [Lws.headerEnd, crlf]
  | cons line lines ih =>
      rw [List.forall_mem_cons] at hlines
      obtain ⟨c, tail, hline, hc⟩ := hlines.1.head
      have hnext := ih hlines.1.plain hlines.2
      have hbuf : unlines (first :: line :: lines) ++ crlf ++ rest =
          first ++ (crlf ++ (unlines (line :: lines) ++ crlf ++ rest)) := by simp
      have hhead : unlines (line :: lines) ++ crlf ++ rest =
          c :: (tail ++ crlf ++ unlines lines ++ crlf ++ rest) := by simp [hline]
      rw [hbuf]
      apply Lws.hasFold_append hfirst
      rw [hhead] at hnext ⊢
      exact Lws.hasFold_crlf (isSpOrHt_of_isTokenChar hc) hnext

theorem osipUtilReplaceAllLws_unlines {first : Str} (hfirst : Plain first) {lines : List Str}
    (hlines : ∀ line ∈ lines, HeadLine line) (rest : Str) :
    osipUtilReplaceAllLws (unlines (first :: lines) ++ crlf ++ rest) =
      unlines (first :: lines) ++ crlf ++ rest :=
  (Lws.loop_eq_iff _).2 (hasFold_unlines hfirst hlines rest)

/-! ### The header lines -/

namespace SipMessage

variable (parsers : MessageParsers)

def storeFields : List (Str × Str) → SipMessage → Except Int SipMessage
  | [], sip => .ok sip
  | field :: fields, sip => do
      storeFields fields (← setMultipleHeader parsers sip field.1 (some (osipClrspace field.2)))

variable {parsers}

theorem indexOf_append {s rest : Str} {c : Char} (hs : ∀ d ∈ s, d ≠ c ∧ d ≠ '\x00')
    (hc : c ≠ '\x00') : indexOf (s ++ c :: rest) c = .ok s.length := by
  have hfind : (cString (s ++ c :: rest)).findIdx? (· == c) = some s.length := by
    apply findIdx?_cString
    · intro d hd
      exact ⟨by simp [(hs d hd).1], (hs d hd).2⟩
    · simp
    · exact hc
  rw [indexOf, hfind]

theorem nameAndValue_append {name value : Str} (hne : name ≠ [])
    (htoken : ∀ c ∈ name, isTokenChar c = true) (hvalue : value ≠ []) (rest : Str) :
    nameAndValue (name ++ ':' :: value ++ crlf ++ rest) (name.length + 1 + value.length + 2) =
      .ok (name, some (osipClrspace value)) := by
  have hbuf : name ++ ':' :: value ++ crlf ++ rest = name ++ ':' :: (value ++ crlf ++ rest) := by
    simp
  have hcolon : indexOf (name ++ ':' :: (value ++ crlf ++ rest)) ':' = .ok name.length := by
    apply indexOf_append
    · intro c hc
      obtain ⟨⟨-, -, hnul⟩, hne, -⟩ := isTokenChar_plain (htoken c hc)
      exact ⟨hne, hnul⟩
    · decide
  have hpos := List.length_pos_iff.2 hne
  have hvpos := List.length_pos_iff.2 hvalue
  have hend : (name ++ ':' :: value ++ crlf ++ rest)[name.length + 1 + value.length + 2 - 2]? =
      some '\r' := by
    have hlen : name.length + 1 + value.length + 2 - 2 = (name ++ ':' :: value).length := by
      rw [List.length_append, List.length_cons]
      omega
    rw [hlen, List.append_assoc, List.getElem?_append_right (Nat.le_refl _), Nat.sub_self]
    rfl
  have hname : osipClrncpy (name ++ ':' :: (value ++ crlf ++ rest)) name.length = name := by
    rw [osipClrncpy, List.take_left]
    exact osipClrspace_of_no_blank fun c hc => isBlank_of_isTokenChar (htoken c hc)
  have hdrop : (name ++ ':' :: (value ++ crlf ++ rest)).drop (name.length + 1) =
      value ++ crlf ++ rest := by
    rw [List.drop_append]
    simp
  have hsub : name.length + 1 + value.length + 2 - 2 - name.length - 1 = value.length := by omega
  rw [hbuf] at hend ⊢
  rw [nameAndValue, hcolon, ok_bind, if_neg (by omega), if_neg (by omega), hend]
  have hbreak : Option.any isLineBreak (some '\r') = true := rfl
  dsimp only
  rw [if_pos hbreak, if_neg (by omega), hname, hdrop, hsub, osipClrncpy, List.append_assoc,
    List.take_left]

/-- A character that no continuation line begins with. -/
def NotBlank (rest : Str) : Prop := rest.head? ≠ some ' ' ∧ rest.head? ≠ some '\t'

theorem msgHeadersParse_line {name value : Str} (hne : name ≠ [])
    (htoken : ∀ c ∈ name, isTokenChar c = true) (hvalue : value ≠ []) (hplain : Plain value)
    {rest : Str} (hrest : NotBlank rest) (fuel : Nat) (sip : SipMessage) :
    msgHeadersParse parsers (fuel + 1) sip (name ++ ':' :: value ++ crlf ++ rest) =
      match setMultipleHeader parsers sip name (some (osipClrspace value)) with
      | .error _ => .error osipSyntaxerror
      | .ok sip => msgHeadersParse parsers fuel sip rest := by
  have hline : Plain (name ++ ':' :: value) := by
    have hcolon : Plain [':'] := by decide
    have hname : Plain name := fun c hc => (isTokenChar_plain (htoken c hc)).1
    have hall := plain_append (plain_append hname hcolon) hplain
    simpa using hall
  have hnext := osipFindNextCrlf_line hline hrest
  have hlen : (name ++ ':' :: value).length + 2 = name.length + 1 + value.length + 2 := by
    rw [List.length_append, List.length_cons]
    omega
  obtain ⟨c, tail, hcons⟩ := List.exists_cons_of_ne_nil hne
  obtain ⟨⟨hcr, hlf, hnul⟩, -⟩ := isTokenChar_plain (htoken c (by simp [hcons]))
  have hempty : cString (name ++ ':' :: value ++ crlf ++ rest) ≠ [] := by
    simp [hcons, cString, hnul]
  have hbreak : Body.atLineBreak (name ++ ':' :: value ++ crlf ++ rest) = false := by
    simp [hcons, Body.atLineBreak, hcr, hlf]
  have hdrop : (name ++ ':' :: value ++ crlf ++ rest).drop (name.length + 1 + value.length + 2) =
      rest := by
    rw [← hlen]
    exact List.drop_left' List.length_append
  rw [hlen] at hnext
  rw [msgHeadersParse, if_neg hempty, hnext]
  dsimp only
  rw [hbreak, if_neg Bool.false_ne_true, nameAndValue_append hne htoken hvalue, ok_bind]
  show (match setMultipleHeader parsers sip name (some (osipClrspace value)) with
    | .error _ => Except.error osipSyntaxerror
    | .ok sip => msgHeadersParse parsers fuel sip
        ((name ++ ':' :: value ++ crlf ++ rest).drop (name.length + 1 + value.length + 2))) = _
  rw [hdrop]

theorem msgHeadersParse_end (fuel : Nat) (sip : SipMessage) (rest : Str) :
    msgHeadersParse parsers (fuel + 1) sip (crlf ++ rest) = .ok (sip, some (crlf ++ rest)) := by
  have hempty : cString (crlf ++ rest) ≠ [] := by simp [cString, crlf]
  have hbreak : Body.atLineBreak (crlf ++ rest) = true := rfl
  have hplain : Plain [] := fun c hc => absurd hc List.not_mem_nil
  have hnext : osipFindNextCrlf ([] ++ '\r' :: '\n' :: rest) = _ := osipFindNextCrlf_append hplain
  rw [msgHeadersParse, if_neg hempty]
  cases hfind : osipFindNextCrlf (crlf ++ rest) with
  | ok next =>
      dsimp only
      rw [hbreak, if_pos rfl]
  | error i =>
      -- the empty line may be followed by a blank
      have hi : i = -2 := by
        rw [crlf, List.cons_append, List.cons_append, List.nil_append] at hfind
        rw [List.nil_append, hfind] at hnext
        dsimp only at hnext
        rw [List.getElem?_cons_zero, if_pos rfl] at hnext
        split at hnext
        · exact Except.error.inj hnext
        · cases hnext
      rw [hi]
      rfl

theorem msgHeadersParse_fields {fields : List (Str × Str)} (h : ∀ field ∈ fields, FieldText field)
    {rest : Str} (hrest : NotBlank rest) (fuel : Nat) (sip : SipMessage) :
    msgHeadersParse parsers (fields.length + fuel) sip (unlines (fields.map printed) ++ rest) =
      match storeFields parsers fields sip with
      | .error _ => .error osipSyntaxerror
      | .ok sip => msgHeadersParse parsers fuel sip rest := by
  induction fields generalizing sip with
  | nil => simp [storeFields]
  | cons field fields ih =>
      rw [List.forall_mem_cons] at h
      have hbuf : unlines ((field :: fields).map printed) ++ rest =
          field.1 ++ ':' :: (' ' :: field.2) ++ crlf ++ (unlines (fields.map printed) ++ rest) := by
        simp [printed]
      have hnext : NotBlank (unlines (fields.map printed) ++ rest) := by
        cases hfields : fields with
        | nil => simpa using hrest
        | cons next fields' =>
            obtain ⟨c, hhead, hc⟩ := (h.2 next (by simp [hfields])).head?_printed
              (crlf ++ (unlines (fields'.map printed) ++ rest))
            obtain ⟨-, -, hsp, hht⟩ := isTokenChar_plain hc
            have happend : unlines ((next :: fields').map printed) ++ rest =
                printed next ++ (crlf ++ (unlines (fields'.map printed) ++ rest)) := by simp
            rw [NotBlank, happend, hhead]
            simp [hsp, hht]
      have hplain : Plain (' ' :: field.2) := by
        have hspace : Plain [' '] := by decide
        exact plain_append hspace h.1.value
      have hlen : (field :: fields).length + fuel = fields.length + fuel + 1 := by
        rw [List.length_cons]
        omega
      rw [hbuf, hlen, msgHeadersParse_line h.1.name_ne h.1.token (List.cons_ne_nil _ _) hplain hnext,
        osipClrspace_space, storeFields]
      cases setMultipleHeader parsers sip field.1 (some (osipClrspace field.2)) with
      | error i => rfl
      | ok sip => exact ih h.2 sip

/-! ### Headers do not touch the bodies -/

theorem keepsBodies (parsers : MessageParsers) (bodies : List Body) :
    HeaderInvariant parsers fun fields => fields.bodies = bodies where
  setKnown kind hvalue h := by
    cases kind with
    | accept =>
        unfold setKnown setAccept
        dsimp only
        split
        · exact h
        · exact h
    | contentType =>
        unfold setKnown setContentType
        dsimp only
        split
        · exact h
        · exact setSimple_keeps (P := fun fields => fields.bodies = bodies) h fun _ _ => h
    | fromHeader | toHeader | callId | cseq | contentLength | mimeVersion =>
        exact setSimple_keeps (P := fun fields => fields.bodies = bodies) h fun _ _ => h
    | _ => exact setList_keeps (P := fun fields => fields.bodies = bodies) h fun _ _ => h
  setHeader hname hvalue h := by
    cases hname with
    | none => exact h
    | some hname => exact h

theorem storeFields_bodies {fields : List (Str × Str)} {sip sip' : SipMessage}
    (h : storeFields parsers fields sip = .ok sip') : sip'.fields.bodies = sip.fields.bodies := by
  induction fields generalizing sip with
  | nil =>
      cases h
      rfl
  | cons field fields ih =>
      rw [storeFields, exists_ok_bind] at h
      obtain ⟨stored, hstored, h⟩ := h
      rw [ih h, (keepsBodies parsers sip.fields.bodies).setMultipleHeader rfl hstored]

theorem startlineParse_bodies {sip sip' : SipMessage} {buf headers : Str}
    (h : sip.startlineParse parsers buf = .ok (sip', headers)) :
    sip'.fields.bodies = sip.fields.bodies := by
  obtain ⟨_, _, _, _, _, rfl⟩ := startlineParse_fields h
  rfl

/-! ### The Content-Length -/

theorem setMultipleHeader_contentLength {sip : SipMessage} (h : sip.fields.contentLength = none)
    {digits : Str} (hne : digits ≠ []) (hcomma : ',' ∉ digits) :
    setMultipleHeader parsers sip "Content-Length".toList (some digits) =
      .ok (sip.updated { sip.fields with contentLength := some ⟨some digits⟩ }) := by
  have hlower : "Content-Length".toList.map tolower = "content-length".toList := by decide +kernel
  have hfind : pconfig.find? (fun row => row.1.toList == "content-length".toList) =
      some ("content-length", .contentLength, false) := by decide +kernel
  have hpos := List.length_pos_iff.2 hne
  have hparse : osipContentLengthParse digits = .ok ⟨some digits⟩ := by
    rw [osipContentLengthParse, if_neg (by omega)]
  have hset : sip.setContentLength (some digits) =
      (0, sip.updated { sip.fields with contentLength := some ⟨some digits⟩ }) := by
    rw [setContentLength, setSimple, Option.getD_some, if_neg hne, h, hparse]
    rfl
  rw [setMultipleHeader, hlower]
  dsimp only
  rw [if_pos (Or.inl hcomma), setOneHeader, hfind]
  dsimp only
  rw [setKnown, hset]
  rfl

theorem osipClrspace_replicate (k : Nat) (s : Str) :
    osipClrspace (List.replicate k ' ' ++ s) = osipClrspace s := by
  induction k with
  | zero => rfl
  | succ k ih => rw [List.replicate_succ, List.cons_append, osipClrspace_space, ih]

theorem msgHeadersParse_noColon {line : Str} (h : HeadLine line) (hcolon : ':' ∉ line) {rest : Str}
    (fuel : Nat) (sip : SipMessage) :
    msgHeadersParse parsers (fuel + 1) sip (line ++ crlf ++ (crlf ++ rest)) =
      .error osipSyntaxerror := by
  obtain ⟨c, tail, hline, hc⟩ := h.head
  obtain ⟨⟨hcr, hlf, hnul⟩, -⟩ := isTokenChar_plain hc
  have hempty : cString (line ++ crlf ++ (crlf ++ rest)) ≠ [] := by simp [hline, cString, hnul]
  have hbreak : Body.atLineBreak (line ++ crlf ++ (crlf ++ rest)) = false := by
    simp [hline, Body.atLineBreak, hcr, hlf]
  have hnext : osipFindNextCrlf (line ++ crlf ++ (crlf ++ rest)) = .ok (line.length + 2) :=
    osipFindNextCrlf_line h.plain (by simp [crlf])
  have hname : nameAndValue (line ++ crlf ++ (crlf ++ rest)) (line.length + 2) =
      .error osipSyntaxerror := by
    rw [nameAndValue, indexOf]
    cases hfind : (cString (line ++ crlf ++ (crlf ++ rest))).findIdx? (· == ':') with
    | none => rfl
    | some colon =>
        have hbeyond : line.length + 2 ≤ colon := by
          by_contra hlt
          obtain ⟨hcolon', hfound, -⟩ := List.findIdx?_eq_some_iff_getElem.1 hfind
          have hget := (List.takeWhile_prefix (· != '\x00')).getElem hcolon'
          rw [List.getElem_append_left (by simp [crlf]; omega)] at hget
          have hmem : ':' ∈ line ++ crlf := by
            rw [← beq_iff_eq.1 hfound]
            exact hget ▸ List.getElem_mem _
          rw [List.mem_append] at hmem
          cases hmem with
          | inl hmem => exact hcolon hmem
          | inr hmem => exact absurd hmem (by decide)
        simp only [ok_bind]
        rw [if_neg (by omega), if_pos hbeyond]
  rw [msgHeadersParse, if_neg hempty, hnext]
  dsimp only
  rw [hbreak, if_neg Bool.false_ne_true, hname]
  rfl

/-! ### The whole header section -/

/-- The start line is read as `parsed`, whatever follows. -/
structure StartlineReads (parsers : MessageParsers) (startline : Str) (parsed : SipMessage) : Prop where
  line : HeadLine startline
  parse : ∀ more, init.startlineParse parsers (startline ++ crlf ++ more) = .ok (parsed, more)

theorem scanInt_toDigits {code : Nat} (hcode : code < 2147483648) (rest : Str) :
    scanInt (Nat.toDigits 10 code ++ ' ' :: rest) = some (code : Int) := by
  have hlong : (code : Int) ≤ longMax := by
    unfold longMax
    omega
  obtain ⟨c, digits, hdigits⟩ := List.exists_cons_of_ne_nil (Nat.toDigits_ne_nil (n := code) (b := 10))
  have hmem : c ∈ Nat.toDigits 10 code := by
    rw [hdigits]
    exact List.mem_cons_self
  have hdigit : c.isDigit = true := Nat.isDigit_of_mem_toDigits (by decide) (by decide) hmem
  have hsign : ¬ (some c = some '-' ∨ some c = some '+') := by
    intro h
    cases h with
    | inl h =>
        cases h
        cases hdigit
    | inr h =>
        cases h
        cases hdigit
  have hskip : (Nat.toDigits 10 code ++ ' ' :: rest).dropWhile isSpace =
      c :: (digits ++ ' ' :: rest) := by
    simp [hdigits, isSpace_of_isDigit hdigit]
  have hany : (some c).any Char.isDigit = true := hdigit
  rw [scanInt, hskip, List.head?_cons, if_neg hsign, List.head?_cons, if_pos hany, atoi, strtol_append hlong rfl]
  rw [toInt32_of_range (by omega)]

theorem startlineReads_response {version reason : Str} (hsip : "SIP/".toList <+: version)
    (hversion : ∀ c ∈ version, c ≠ ' ') (hplain : Plain version) (hreason : Plain reason)
    {code : Nat} (hcode : 0 < code ∧ code < 2147483648) :
    StartlineReads parsers (version ++ ' ' :: Nat.toDigits 10 code ++ ' ' :: reason)
      (init.withFields
        { SipFields.init with
          sipVersion := some version
          statusCode := code
          reasonPhrase := some reason }) := by
  have hdigits : ∀ c ∈ Nat.toDigits 10 code, c ≠ ' ' ∧ c ≠ '\x00' ∧ c ≠ '\r' ∧ c ≠ '\n' := by
    intro c hc
    have hdigit : c.isDigit = true := Nat.isDigit_of_mem_toDigits (by decide) (by decide) hc
    refine ⟨?_, ?_, ?_, ?_⟩
    all_goals
      intro heq
      rw [heq] at hdigit
      cases hdigit
  have hspace : Plain [' '] := by decide
  have hcode' : Plain (Nat.toDigits 10 code) := fun c hc =>
    ⟨(hdigits c hc).2.2.1, (hdigits c hc).2.2.2, (hdigits c hc).2.1⟩
  have hline : Plain (version ++ ' ' :: Nat.toDigits 10 code ++ ' ' :: reason) :=
    plain_append (plain_append hplain (plain_append hspace hcode')) (plain_append hspace hreason)
  obtain ⟨tail, htail⟩ := hsip
  refine ⟨⟨hline, 'S', _, by rw [← htail]; rfl, by decide⟩, ?_⟩
  intro more
  have hbuf : version ++ ' ' :: Nat.toDigits 10 code ++ ' ' :: reason ++ crlf ++ more =
      version ++ ' ' :: (Nat.toDigits 10 code ++ ' ' :: (reason ++ '\r' :: '\n' :: more)) := by
    simp [crlf]
  have hpre : "SIP/".toList.isPrefixOf (version ++ ' ' :: (Nat.toDigits 10 code ++
      ' ' :: (reason ++ '\r' :: '\n' :: more))) = true := by
    rw [List.isPrefixOf_iff_prefix, ← htail, List.append_assoc]
    exact List.prefix_append _ _
  have hstatuscode (rest : Str) : indexOf (version ++ ' ' :: rest) ' ' = .ok version.length :=
    indexOf_append (fun c hc => ⟨hversion c hc, (hplain c hc).2.2⟩) (by decide)
  have hreasonphrase (rest : Str) : indexOf (Nat.toDigits 10 code ++ ' ' :: rest) ' ' =
      .ok (Nat.toDigits 10 code).length :=
    indexOf_append (fun c hc => ⟨(hdigits c hc).1, (hdigits c hc).2.1⟩) (by decide)
  have hbreak : (cString (' ' :: reason ++ '\r' :: '\n' :: more)).findIdx? isLineBreak =
      some (' ' :: reason).length := by
    apply findIdx?_cString
    · intro c hc
      have hc := plain_append hspace hreason c hc
      exact ⟨by simp [isLineBreak, hc.1, hc.2.1], hc.2.2⟩
    · rfl
    · decide
  have hdrop : (version ++ ' ' :: (Nat.toDigits 10 code ++ ' ' :: (reason ++ '\r' :: '\n' :: more))).drop
      (version.length + 1) = Nat.toDigits 10 code ++ ' ' :: (reason ++ '\r' :: '\n' :: more) := by
    rw [List.drop_append]
    simp
  have hne : (code : Int) ≠ 0 := by omega
  rw [hbuf, startlineParse, if_pos hpre, startlineParseresp, hstatuscode, ok_bind, hdrop,
    hreasonphrase, ok_bind, scanInt_toDigits hcode.2]
  dsimp only
  rw [if_neg hne, ← List.drop_drop, hdrop, List.drop_left, ← List.cons_append, hbreak]
  dsimp only
  rw [List.take_left, List.take_left, List.drop_left]
  rfl

theorem parse_unlines {startline last : Str} {parsed stored : SipMessage}
    (hstart : StartlineReads parsers startline parsed) {fields : List (Str × Str)}
    (hfields : ∀ field ∈ fields, FieldText field)
    (hstore : storeFields parsers fields parsed = .ok stored) (hlast : HeadLine last) (rest : Str) :
    ∃ fuel headers, parse parsers
        (unlines (startline :: fields.map printed ++ [last]) ++ crlf ++ rest) =
      SipFields.returnCode
          (msgHeadersParse parsers (fuel + 2) stored (last ++ crlf ++ (crlf ++ rest))) >>=
        fun result => result.1.parseBodies (result.2.getD headers) := by
  have hbuf : unlines (startline :: fields.map printed ++ [last]) ++ crlf ++ rest =
      startline ++ crlf ++ (unlines (fields.map printed) ++ (last ++ crlf ++ (crlf ++ rest))) := by
    simp
  have hlines : ∀ line ∈ fields.map printed ++ [last], HeadLine line := by
    intro line hline
    rw [List.mem_append, List.mem_map, List.mem_singleton] at hline
    cases hline with
    | inl hline =>
        obtain ⟨field, hfield, rfl⟩ := hline
        exact (hfields field hfield).headLine
    | inr hline =>
        rw [hline]
        exact hlast
  have hlws := osipUtilReplaceAllLws_unlines hstart.line.plain hlines rest
  obtain ⟨c, tail, hcons, hc⟩ := hstart.line.head
  obtain ⟨⟨hcr, hlf, -⟩, -⟩ := isTokenChar_plain hc
  have hskip : (unlines (startline :: fields.map printed ++ [last]) ++ crlf ++ rest).dropWhile
      isLineBreak = unlines (startline :: fields.map printed ++ [last]) ++ crlf ++ rest := by
    rw [hbuf, hcons]
    simp [isLineBreak, hcr, hlf]
  obtain ⟨d, tail', hlast', hd⟩ := hlast.head
  have hnext : NotBlank (last ++ crlf ++ (crlf ++ rest)) := by
    obtain ⟨-, -, hsp, hht⟩ := isTokenChar_plain hd
    simp [NotBlank, hlast', hsp, hht]
  have hle : fields.length + 2 ≤
      (unlines (fields.map printed) ++ (last ++ crlf ++ (crlf ++ rest))).length + 1 := by
    have hlen := length_le_unlines (fields.map printed)
    rw [List.length_map] at hlen
    simp only [List.length_append, crlf, List.length_cons, List.length_nil]
    omega
  obtain ⟨fuel, hfuel⟩ := Nat.exists_eq_add_of_le hle
  rw [Nat.add_assoc, Nat.add_comm 2 fuel] at hfuel
  refine ⟨fuel, unlines (fields.map printed) ++ (last ++ crlf ++ (crlf ++ rest)), ?_⟩
  rw [parse, hskip]
  rw [List.cons_append] at hbuf ⊢
  rw [hlws, hbuf, hstart.parse]
  simp only [SipFields.returnCode, Except.mapError, ok_bind]
  rw [hfuel, msgHeadersParse_fields hfields hnext, hstore]

end SipMessage
end Exosip
