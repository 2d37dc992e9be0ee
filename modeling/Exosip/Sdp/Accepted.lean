import Exosip.Sdp.Values

/-! What the parser accepts: every part of the session description that it returns is well
formed, and the mandatory parts are there. -/
namespace Exosip
namespace Sdp

/-- The parts of a session description, those of the media included. -/
structure SdpMessage.Wf (sdp : SdpMessage) : Prop where
  version : ∀ t ∈ sdp.vVersion, IsText t
  username : ∀ t ∈ sdp.oUsername, IsToken ' ' t
  sessId : ∀ t ∈ sdp.oSessId, IsToken ' ' t
  sessVersion : ∀ t ∈ sdp.oSessVersion, IsToken ' ' t
  nettype : ∀ t ∈ sdp.oNettype, IsToken ' ' t
  addrtype : ∀ t ∈ sdp.oAddrtype, IsToken ' ' t
  addr : ∀ t ∈ sdp.oAddr, IsText t
  name : ∀ t ∈ sdp.sName, IsText t
  info : ∀ t ∈ sdp.iInfo, IsText t
  uri : ∀ t ∈ sdp.uUri, IsText t
  emails : ∀ t ∈ sdp.eEmails, IsText t
  phones : ∀ t ∈ sdp.pPhones, IsText t
  connection : ∀ c ∈ sdp.cConnection, c.Wf
  bandwidths : ∀ b ∈ sdp.bBandwidths, b.Wf
  times : ∀ t ∈ sdp.tDescrs, t.Wf
  adjustments : ∀ t ∈ sdp.zAdjustments, IsText t
  key : ∀ k ∈ sdp.kKey, k.Wf
  attributes : ∀ a ∈ sdp.aAttributes, a.Wf
  medias : ∀ m ∈ sdp.mMedias, m.Wf

def SdpMessage.HasOrigin (sdp : SdpMessage) : Prop :=
  sdp.oUsername.isSome ∧ sdp.oSessId.isSome ∧ sdp.oSessVersion.isSome ∧ sdp.oNettype.isSome ∧
    sdp.oAddrtype.isSome ∧ sdp.oAddr.isSome

/-- What a line keeps of the session description. -/
structure Grows (sdp sdp' : SdpMessage) : Prop where
  wf : sdp.Wf → sdp'.Wf
  version : sdp.vVersion.isSome → sdp'.vVersion.isSome
  origin : sdp.HasOrigin → sdp'.HasOrigin
  times : sdp.tDescrs ≠ [] → sdp'.tDescrs ≠ []

section Setters

variable {sdp : SdpMessage}

theorem mem_modify {α : Type} {P : α → Prop} {f : α → α} {l : List α} (i : Nat)
    (hl : ∀ a ∈ l, P a) (hf : ∀ a, P a → P (f a)) : ∀ a ∈ l.modify i f, P a := by
  induction l generalizing i with
  | nil => simp
  | cons b l ih =>
      rw [List.forall_mem_cons] at hl
      cases i with
      | zero =>
          rw [List.modify_zero_cons, List.forall_mem_cons]
          exact ⟨hf b hl.1, hl.2⟩
      | succ i =>
          rw [List.modify_succ_cons, List.forall_mem_cons]
          exact ⟨hl.1, ih i hl.2⟩

theorem mem_append_singleton {α : Type} {P : α → Prop} {l : List α} {b : α}
    (hl : ∀ a ∈ l, P a) (hb : P b) : ∀ a ∈ l ++ [b], P a := by
  intro a ha
  rcases List.mem_append.1 ha with ha | ha
  · exact hl a ha
  · rw [List.mem_singleton] at ha
    exact ha ▸ hb

theorem mem_some {α : Type} {P : α → Prop} {b : α} (hb : P b) : ∀ a ∈ some b, P a := by
  intro a ha
  cases ha
  exact hb

theorem grows_atPlace {session : SdpMessage → SdpMessage} {media : Media → Media}
    (hsession : Grows sdp (session sdp)) (hmedia : ∀ m, m.Wf → (media m).Wf) :
    Grows sdp (sdp.atPlace session media) := by
  rw [SdpMessage.atPlace]
  split
  · exact hsession
  · exact
      { wf := fun h => { h with medias := mem_modify _ h.medias hmedia }
        version := id
        origin := id
        times := id }

theorem grows_setVersion {v : Str} (hv : IsText v) : Grows sdp (sdp.setVersion v) where
  wf h := { h with version := mem_some hv }
  version _ := rfl
  origin := id
  times := id

theorem grows_setName {s : Str} (hs : IsText s) : Grows sdp (sdp.setName s) where
  wf h := { h with name := mem_some hs }
  version := id
  origin := id
  times := id

theorem grows_setInfo {i : Str} (hi : IsText i) : Grows sdp (sdp.setInfo i) :=
  grows_atPlace
    { wf := fun h => { h with info := mem_some hi }
      version := id
      origin := id
      times := id }
    fun _ h => { h with info := mem_some hi }

theorem grows_setUri {u : Str} (hu : IsText u) : Grows sdp (sdp.setUri u) where
  wf h := { h with uri := mem_some hu }
  version := id
  origin := id
  times := id

theorem grows_addEmail {e : Str} (he : IsText e) : Grows sdp (sdp.addEmail e) where
  wf h := { h with emails := mem_append_singleton h.emails he }
  version := id
  origin := id
  times := id

theorem grows_addPhone {p : Str} (hp : IsText p) : Grows sdp (sdp.addPhone p) where
  wf h := { h with phones := mem_append_singleton h.phones hp }
  version := id
  origin := id
  times := id

theorem grows_addConnection {c : Connection} (hc : c.Wf) : Grows sdp (sdp.addConnection c) :=
  grows_atPlace
    { wf := fun h => { h with connection := mem_some hc }
      version := id
      origin := id
      times := id }
    fun _ h => { h with connections := mem_append_singleton h.connections hc }

theorem grows_addBandwidth {b : Bandwidth} (hb : b.Wf) : Grows sdp (sdp.addBandwidth b) :=
  grows_atPlace
    { wf := fun h => { h with bandwidths := mem_append_singleton h.bandwidths hb }
      version := id
      origin := id
      times := id }
    fun _ h => { h with bandwidths := mem_append_singleton h.bandwidths hb }

theorem grows_addTimeDescr {t : TimeDescr} (ht : t.Wf) : Grows sdp (sdp.addTimeDescr t) where
  wf h := { h with times := mem_append_singleton h.times ht }
  version := id
  origin := id
  times _ := List.append_ne_nil_of_right_ne_nil _ (List.cons_ne_nil _ _)

theorem grows_addRepeat {r : Str} (hr : IsText r) : Grows sdp (sdp.addRepeat r) where
  wf h :=
    { h with
      times := mem_modify _ h.times fun t ht => by
        cases ht with
        | mk hstart hstop hrepeats => exact .mk hstart hstop (mem_append_singleton hrepeats hr) }
  version := id
  origin := id
  times h := by
    rw [SdpMessage.addRepeat]
    exact fun hnil => h (List.modify_eq_nil_iff.1 hnil)

theorem grows_setAdjustments {z : Str} (hz : IsText z) : Grows sdp (sdp.setAdjustments z) where
  wf h := { h with adjustments := mem_some hz }
  version := id
  origin := id
  times := id

theorem grows_setKey {k : Key} (hk : k.Wf) : Grows sdp (sdp.setKey k) :=
  grows_atPlace
    { wf := fun h => { h with key := mem_some hk }
      version := id
      origin := id
      times := id }
    fun _ h => { h with key := mem_some hk }

theorem grows_addAttribute {a : Attribute} (ha : a.Wf) : Grows sdp (sdp.addAttribute a) :=
  grows_atPlace
    { wf := fun h => { h with attributes := mem_append_singleton h.attributes ha }
      version := id
      origin := id
      times := id }
    fun _ h => { h with attributes := mem_append_singleton h.attributes ha }

theorem grows_addMedia {m : Media} (hm : m.Wf) : Grows sdp (sdp.addMedia m) where
  wf h := { h with medias := mem_append_singleton h.medias hm }
  version := id
  origin := id
  times := id

end Setters

/-- A line parser keeps what it finds. -/
def Keeps (parse : LineParser) : Prop :=
  ∀ sdp buf sdp' next, parse sdp buf = .wf sdp' next → Grows sdp sdp'

theorem keeps_value {α : Type} {header : Char} {value : Str → Str → Option α}
    {add : SdpMessage → α → SdpMessage} {wf : α → Prop}
    (hvalue : ∀ line crlf a, (∀ c ∈ line, isLineEnd c = false) → line ≠ [] → IsLineEnd crlf →
      value (line ++ crlf) crlf = some a → wf a)
    (hadd : ∀ sdp a, wf a → Grows sdp (add sdp a)) :
    Keeps fun sdp buf => parseHeader header buf fun tmp crlf => (value tmp crlf).map (add sdp) := by
  intro sdp buf sdp' next h
  obtain ⟨line, crlf, hline, hne, hcrlf, hcontent, -⟩ := parseHeader_eq_wf h
  obtain ⟨a, ha, rfl⟩ := Option.map_eq_some_iff.1 hcontent
  exact hadd sdp a (hvalue line crlf a hline hne hcrlf ha)

theorem keeps_text {header : Char} {add : SdpMessage → Str → SdpMessage}
    (hadd : ∀ sdp t, IsText t → Grows sdp (add sdp t)) :
    Keeps fun sdp buf =>
      parseHeader header buf fun tmp crlf => (textValue tmp crlf).map (add sdp) := by
  refine keeps_value ?_ hadd
  intro line crlf t hline hne _ h
  rw [textValue_line] at h
  cases h
  exact ⟨hne, hline⟩

theorem keeps_v : Keeps sdpMessageParseV := keeps_text fun _ _ => grows_setVersion

theorem keeps_s : Keeps sdpMessageParseS := keeps_text fun _ _ => grows_setName

theorem keeps_i : Keeps sdpMessageParseI := keeps_text fun _ _ => grows_setInfo

theorem keeps_u : Keeps sdpMessageParseU := keeps_text fun _ _ => grows_setUri

theorem keeps_e : Keeps sdpMessageParseE := keeps_text fun _ _ => grows_addEmail

theorem keeps_p : Keeps sdpMessageParseP := keeps_text fun _ _ => grows_addPhone

theorem keeps_c : Keeps sdpMessageParseC :=
  keeps_value (fun _ _ _ hline _ hcrlf => connectionValue_wf hline hcrlf) fun _ _ =>
    grows_addConnection

theorem keeps_b : Keeps sdpMessageParseB :=
  keeps_value (fun _ _ _ hline _ hcrlf => bandwidthValue_wf hline hcrlf) fun _ _ =>
    grows_addBandwidth

theorem keeps_t : Keeps sdpMessageParseT :=
  keeps_value (fun _ _ _ hline _ hcrlf => timeDescrValue_wf hline hcrlf) fun _ _ =>
    grows_addTimeDescr

theorem keeps_z : Keeps sdpMessageParseZ := keeps_text fun _ _ => grows_setAdjustments

theorem keeps_k : Keeps sdpMessageParseK :=
  keeps_value (fun _ _ _ hline _ hcrlf => keyValue_wf hline hcrlf) fun _ _ => grows_setKey

theorem keeps_a : Keeps sdpMessageParseA :=
  keeps_value (fun _ _ _ hline _ hcrlf => attributeValue_wf hline hcrlf) fun _ _ =>
    grows_addAttribute

theorem keeps_m : Keeps sdpMessageParseM :=
  keeps_value (fun _ _ _ hline _ hcrlf => mediaValue_wf hline hcrlf) fun _ _ => grows_addMedia

theorem keeps_r : Keeps sdpMessageParseR := by
  intro sdp buf sdp' next h
  obtain ⟨line, crlf, hline, hne, _, hcontent, -⟩ := parseHeader_eq_wf h
  split_ifs at hcontent
  rw [textValue_line] at hcontent
  cases hcontent
  exact grows_addRepeat ⟨hne, hline⟩

theorem parseO_keeps {sdp sdp' : SdpMessage} {buf next : Str}
    (h : sdpMessageParseO sdp buf = .wf sdp' next) : Grows sdp sdp' ∧ sdp'.HasOrigin := by
  obtain ⟨line, crlf, hline, _, hcrlf, hcontent, -⟩ := parseHeader_eq_wf h
  simp only [Option.bind_eq_bind, Option.bind_eq_some_iff, Prod.exists] at hcontent
  obtain ⟨username, tmp, h₁, sessId, tmp₂, h₂, sessVersion, tmp₃, h₃, nettype, tmp₄, h₄, addrtype,
    tmp₅, h₅, addr, tmp₆, h₆, hsdp⟩ := hcontent
  obtain ⟨rest, -, rfl, husername, hrest⟩ := osipSetNextToken_line hline hcrlf rfl h₁
  obtain ⟨rest₂, -, rfl, hsessId, hrest₂⟩ := osipSetNextToken_line hrest hcrlf rfl h₂
  obtain ⟨rest₃, -, rfl, hsessVersion, hrest₃⟩ := osipSetNextToken_line hrest₂ hcrlf rfl h₃
  obtain ⟨rest₄, -, rfl, hnettype, hrest₄⟩ := osipSetNextToken_line hrest₃ hcrlf rfl h₄
  obtain ⟨rest₅, -, rfl, haddrtype, hrest₅⟩ := osipSetNextToken_line hrest₄ hcrlf rfl h₅
  obtain ⟨rfl, haddr⟩ := lastToken_line hrest₅ hcrlf h₆
  cases hsdp
  have horigin : SdpMessage.HasOrigin { sdp with
      oUsername := some username, oSessId := some sessId, oSessVersion := some sessVersion,
      oNettype := some nettype, oAddrtype := some addrtype, oAddr := some addr } :=
    ⟨rfl, rfl, rfl, rfl, rfl, rfl⟩
  exact
    ⟨{ wf := fun h =>
        { h with
          username := mem_some husername
          sessId := mem_some hsessId
          sessVersion := mem_some hsessVersion
          nettype := mem_some hnettype
          addrtype := mem_some haddrtype
          addr := mem_some haddr }
       version := id
       origin := fun _ => horigin
       times := id }, horigin⟩

theorem parseV_version {sdp sdp' : SdpMessage} {buf next : Str}
    (h : sdpMessageParseV sdp buf = .wf sdp' next) : sdp'.vVersion.isSome := by
  obtain ⟨line, crlf, -, -, -, hcontent, -⟩ := parseHeader_eq_wf h
  obtain ⟨v, -, rfl⟩ := Option.map_eq_some_iff.1 hcontent
  rfl

theorem parseT_times {sdp sdp' : SdpMessage} {buf next : Str}
    (h : sdpMessageParseT sdp buf = .wf sdp' next) : sdp'.tDescrs ≠ [] := by
  obtain ⟨line, crlf, -, -, -, hcontent, -⟩ := parseHeader_eq_wf h
  obtain ⟨t, -, rfl⟩ := Option.map_eq_some_iff.1 hcontent
  exact List.append_ne_nil_of_right_ne_nil _ (List.cons_ne_nil _ _)

/-- What holds of the session description where the parser has returned, and where it goes on. -/
def Progress.All (F P : SdpMessage → Prop) : Progress → Prop
  | failed => True
  | finished sdp => F sdp
  | more sdp _ => P sdp

def Stable (P : SdpMessage → Prop) : Prop := ∀ sdp sdp', Grows sdp sdp' → P sdp → P sdp'

/-- A stage of the parser that is entered with `P` and left with `Q`. -/
def Stage (F P Q : SdpMessage → Prop) (next : SdpMessage → Str → Progress) : Prop :=
  ∀ sdp ptr, P sdp → (next sdp ptr).All F Q

section Stages

variable {F P Q : SdpMessage → Prop} {parse : LineParser} {progress : Progress}

theorem Progress.All.bind {next : SdpMessage → Str → Progress} (h : progress.All F P)
    (hnext : Stage F P Q next) : (progress.bind next).All F Q := by
  cases progress with
  | failed => trivial
  | finished sdp => exact h
  | more sdp ptr => exact hnext sdp ptr h

theorem Progress.All.stopAtEnd (h : progress.All P P) : progress.stopAtEnd.All P P := by
  refine h.bind ?_
  intro sdp ptr hsdp
  dsimp only
  split
  · exact hsdp
  · split <;> exact hsdp

theorem mandatory_stage
    (hparse : ∀ sdp buf sdp' next, parse sdp buf = .wf sdp' next → P sdp → Q sdp') :
    Stage F P Q (mandatory parse) := by
  intro sdp ptr h
  rw [mandatory]
  split
  · trivial
  · trivial
  · next hwf => exact hparse _ _ _ _ hwf h

theorem optional_stage (hP : Stable P) (hkeeps : Keeps parse) : Stage F P P (optional parse) := by
  intro sdp ptr h
  rw [optional]
  split
  · trivial
  · exact h
  · next hparse => exact hP _ _ (hkeeps _ _ _ _ hparse) h

theorem optionalStop_stage (hP : Stable P) (hkeeps : Keeps parse) :
    Stage P P P fun sdp ptr => (optional parse sdp ptr).stopAtEnd :=
  fun sdp ptr h => (optional_stage hP hkeeps sdp ptr h).stopAtEnd

theorem repeated_stage {check : Progress → Progress}
    (hcheck : ∀ p, p.All F P → (check p).All F P) (hP : Stable P) (hkeeps : Keeps parse)
    (fuel : Nat) : Stage F P P (repeated parse check fuel) := by
  induction fuel with
  | zero => exact fun _ _ => id
  | succ fuel ih =>
      intro sdp ptr h
      rw [repeated]
      split
      · trivial
      · exact hcheck _ h
      · next sdp' next hparse =>
          have hmore : (Progress.more sdp' next).All F P := hP _ _ (hkeeps _ _ _ _ hparse) h
          exact (hcheck _ hmore).bind ih

theorem repeatedLines_stage (hP : Stable P) (hkeeps : Keeps parse) :
    Stage F P P (repeatedLines parse id) :=
  fun sdp ptr => repeated_stage (fun _ => id) hP hkeeps _ sdp ptr

theorem repeatedStop_stage (hP : Stable P) (hkeeps : Keeps parse) :
    Stage P P P (repeatedLines parse .stopAtEnd) :=
  fun sdp ptr => repeated_stage (fun _ => Progress.All.stopAtEnd) hP hkeeps _ sdp ptr

theorem timeLoop_stage (hP : Stable P) (fuel : Nat) : Stage P P P (timeLoop fuel) := by
  induction fuel with
  | zero => exact fun _ _ => id
  | succ fuel ih =>
      intro sdp ptr h
      refine (repeatedStop_stage hP keeps_r sdp ptr h).bind ?_
      intro sdp ptr hsdp
      dsimp only
      split
      · trivial
      · have hmore : (Progress.more sdp ptr).All P P := hsdp
        exact hmore.stopAtEnd
      · next sdp' next hparse =>
          have hmore : (Progress.more sdp' next).All P P := hP _ _ (keeps_t _ _ _ _ hparse) hsdp
          exact hmore.stopAtEnd.bind ih

theorem mediaLines_stage (hP : Stable P) : Stage P P P mediaLines := by
  intro sdp ptr h
  have hinfo := optionalStop_stage hP keeps_i sdp ptr h
  have hconnections := hinfo.bind (repeatedStop_stage hP keeps_c)
  have hbandwidths := hconnections.bind (repeatedStop_stage hP keeps_b)
  have hkey := hbandwidths.bind (optionalStop_stage hP keeps_k)
  exact hkey.bind (repeatedStop_stage hP keeps_a)

theorem mediaLoop_stage (hP : Stable P) (fuel : Nat) : Stage P P P (mediaLoop fuel) := by
  induction fuel with
  | zero => exact fun _ _ => id
  | succ fuel ih =>
      intro sdp ptr h
      rw [mediaLoop]
      split
      · trivial
      · have hmore : (Progress.more sdp ptr).All P P := h
        exact hmore.stopAtEnd.bind (mediaLines_stage hP)
      · next sdp' next hparse =>
          have hmore : (Progress.more sdp' next).All P P := hP _ _ (keeps_m _ _ _ _ hparse) h
          exact (hmore.stopAtEnd.bind (mediaLines_stage hP)).bind ih

theorem furtherLines_stage (hP : Stable P) : Stage P P P furtherLines := by
  intro sdp ptr h
  have hrepeats := repeatedStop_stage hP keeps_r sdp ptr h
  have htime := hrepeats.bind (optionalStop_stage hP keeps_t)
  have htimes := htime.bind fun sdp ptr => timeLoop_stage hP (ptr.length + 1) sdp ptr
  have hadjustments := htimes.bind (optionalStop_stage hP keeps_z)
  have hkey := hadjustments.bind (optionalStop_stage hP keeps_k)
  have hattributes := hkey.bind (repeatedStop_stage hP keeps_a)
  exact hattributes.bind fun sdp ptr => mediaLoop_stage hP (ptr.length + 1) sdp ptr

end Stages

/-- Every mandatory part is there and every part is well formed. -/
structure Accepted (sdp : SdpMessage) : Prop where
  wf : sdp.Wf
  version : sdp.vVersion.isSome
  origin : sdp.HasOrigin
  times : sdp.tDescrs ≠ []

theorem sdpMessageInit_wf : sdpMessageInit.Wf := by
  constructor <;> exact nofun

theorem sessionLines_all (buf : Str) :
    (sessionLines sdpMessageInit buf).All Accepted Accepted := by
  have hversioned : Stable fun sdp => sdp.Wf ∧ sdp.vVersion.isSome :=
    fun _ _ hgrows h => ⟨hgrows.wf h.1, hgrows.version h.2⟩
  have hnamed : Stable fun sdp => sdp.Wf ∧ sdp.vVersion.isSome ∧ sdp.HasOrigin :=
    fun _ _ hgrows h => ⟨hgrows.wf h.1, hgrows.version h.2.1, hgrows.origin h.2.2⟩
  have hversion : Stage Accepted SdpMessage.Wf (fun sdp => sdp.Wf ∧ sdp.vVersion.isSome)
      (mandatory sdpMessageParseV) :=
    mandatory_stage fun _ _ _ _ hparse hwf => ⟨(keeps_v _ _ _ _ hparse).wf hwf, parseV_version hparse⟩
  have horigin : Stage Accepted (fun sdp => sdp.Wf ∧ sdp.vVersion.isSome)
      (fun sdp => sdp.Wf ∧ sdp.vVersion.isSome ∧ sdp.HasOrigin) (mandatory sdpMessageParseO) :=
    mandatory_stage fun _ _ _ _ hparse h =>
      ⟨(parseO_keeps hparse).1.wf h.1, (parseO_keeps hparse).1.version h.2, (parseO_keeps hparse).2⟩
  have htime : Stage Accepted (fun sdp => sdp.Wf ∧ sdp.vVersion.isSome ∧ sdp.HasOrigin) Accepted
      fun sdp ptr => (mandatory sdpMessageParseT sdp ptr).stopAtEnd := by
    have hmandatory : Stage Accepted (fun sdp => sdp.Wf ∧ sdp.vVersion.isSome ∧ sdp.HasOrigin)
        Accepted (mandatory sdpMessageParseT) :=
      mandatory_stage fun _ _ _ _ hparse h =>
        have hgrows := keeps_t _ _ _ _ hparse
        ⟨hgrows.wf h.1, hgrows.version h.2.1, hgrows.origin h.2.2, parseT_times hparse⟩
    exact fun sdp ptr h => (hmandatory sdp ptr h).stopAtEnd
  have hv := hversion sdpMessageInit buf sdpMessageInit_wf
  have ho := (hv.bind (optional_stage hversioned keeps_s)).bind horigin
  have hs := ho.bind (optional_stage hnamed keeps_s)
  have hi := hs.bind (optional_stage hnamed keeps_i)
  have hu := hi.bind (optional_stage hnamed keeps_u)
  have he := hu.bind (repeatedLines_stage hnamed keeps_e)
  have hp := he.bind (repeatedLines_stage hnamed keeps_p)
  have hc := hp.bind (optional_stage hnamed keeps_c)
  have hb := hc.bind (repeatedLines_stage hnamed keeps_b)
  exact hb.bind htime

theorem sdpMessageParse_accepted {buf : Str} {sdp : SdpMessage}
    (h : sdpMessageParse sdpMessageInit buf = some sdp) : Accepted sdp := by
  have hstable : Stable Accepted := fun _ _ hgrows hsdp =>
    ⟨hgrows.wf hsdp.wf, hgrows.version hsdp.version, hgrows.origin hsdp.origin,
      hgrows.times hsdp.times⟩
  have hall := (sessionLines_all buf).bind (furtherLines_stage hstable)
  rw [sdpMessageParse] at h
  cases hprogress : (sessionLines sdpMessageInit buf).bind furtherLines with
  | failed =>
      rw [hprogress] at h
      cases h
  | finished sdp' =>
      rw [hprogress] at h hall
      cases h
      exact hall
  | more sdp' ptr =>
      rw [hprogress] at h hall
      cases h
      exact hall

end Sdp
end Exosip
