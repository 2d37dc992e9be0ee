import Exosip.Machine.Alloc
import Exosip.Parser.Message

/-! The blocks that the clones of the headers allocate, one allocation after the other, and what
each clone does when one of them fails. -/
namespace Exosip
namespace Blocks

open CString Machine Alloc

/-- A member that is allocated. -/
inductive Member where
  | self | version | protocol | host | port | comment | displayname | url
  | scheme | username | password | string | gname | gvalue | number | method
  | param (i : Nat) | header (i : Nat) | node
  | transaction | topvia | fromHeader | toHeader | callid | cseq
  | transactionff | qislocked | qisempty | context | destination
  deriving DecidableEq, Repr

/-- Where a block is allocated: the members on the way to it. -/
abbrev Place := List Member

/-- The error codes that can be returned; there is none with `OSIP_SUCCESS`. -/
inductive ErrorCode where
  | undefinedError | badparameter | nomem | syntaxerror
  deriving DecidableEq, Repr

def isError {α : Type} : Except ErrorCode α → Bool
  | .error _ => true
  | .ok _ => false

variable (ok : Place → Bool)

/-- `osip_strdup`. -/
def strdup (place : Place) (s : Option Str) : Alloc Place (Option Place) :=
  match s with
  | none => pure none
  | some _ => malloc ok place

def strdupPlan (step : Place → PlanStep Place) (place : Place) (s : Option Str) :
    List (PlanStep Place) :=
  match s with
  | none => []
  | some _ => [step place]

/-! ### Parameters -/

structure ParamBlocks where
  self : Place
  gname : Option Place
  gvalue : Option Place
  deriving DecidableEq, Repr

/-- What `osip_uri_param_free` frees. -/
def ParamBlocks.pointers (param : ParamBlocks) : List (Option Place) :=
  [param.gname, param.gvalue, some param.self]

/-- `osip_uri_param_clone`, which is `osip_generic_param_clone` too. -/
def osipUriParamClone (place : Place) (uparam : GenericParam) :
    Alloc Place (Except ErrorCode ParamBlocks) := do
  match ← malloc ok (place ++ [.self]) with
  | none => pure (.error .nomem)
  | some self => do
      let gname ← strdup ok (place ++ [.gname]) (some uparam.gname)
      let gvalue ← strdup ok (place ++ [.gvalue]) uparam.gvalue
      pure (.ok ⟨self, gname, gvalue⟩)

def osipUriParamClonePlan (place : Place) (uparam : GenericParam) : List (PlanStep Place) :=
  [.checked (place ++ [.self])] ++ (strdupPlan .ignored (place ++ [.gname]) (some uparam.gname) ++
    (strdupPlan .ignored (place ++ [.gvalue]) uparam.gvalue ++ []))

abbrev ParamList := List (Place × ParamBlocks)

/-- `osip_list_special_free`. -/
def ParamList.pointers : ParamList → List (Option Place)
  | [] => []
  | (node, param) :: params => some node :: (param.pointers ++ ParamList.pointers params)

/-- `osip_list_clone`. What the list has when it ends is freed by the caller. -/
def osipListClone (place : Nat → Place) : Nat → List GenericParam → ParamList →
    Alloc Place (Option ErrorCode × ParamList)
  | _, [], dst => pure (none, dst)
  | i, data :: src, dst => do
      match ← osipUriParamClone ok (place i) data with
      | .error e => pure (some e, dst)
      | .ok data2 => do
          let node ← malloc ok (place i ++ [.node])
          osipListClone place (i + 1) src (dst ++ (node.map fun node => (node, data2)).toList)

def osipListClonePlan (place : Nat → Place) : Nat → List GenericParam → List (PlanStep Place)
  | _, [] => []
  | i, data :: src =>
      osipUriParamClonePlan (place i) data ++
        ([.losing (place i ++ [.node])] ++ osipListClonePlan place (i + 1) src)

/-! ### The URI -/

structure UriBlocks where
  self : Place
  scheme : Option Place
  username : Option Place
  password : Option Place
  host : Option Place
  port : Option Place
  string : Option Place
  urlParams : ParamList
  urlHeaders : ParamList
  deriving DecidableEq, Repr

/-- What `osip_uri_free` frees. -/
def UriBlocks.pointers (url : UriBlocks) : List (Option Place) :=
  [url.scheme, url.username, url.password, url.host, url.port] ++ url.urlParams.pointers ++
    url.urlHeaders.pointers ++ [url.string, some url.self]

def osipUriClone (place : Place) (url : Uri) : Alloc Place (Except ErrorCode UriBlocks) :=
  if url.host.isNone && url.string.isNone then Alloc.refuse (.error .badparameter)
  else do
    match ← malloc ok (place ++ [.self]) with
    | none => pure (.error .nomem)
    | some self => do
        let scheme ← strdup ok (place ++ [.scheme]) url.scheme
        let username ← strdup ok (place ++ [.username]) url.username
        let password ← strdup ok (place ++ [.password]) url.password
        let host ← strdup ok (place ++ [.host]) url.host
        let port ← strdup ok (place ++ [.port]) url.port
        let string ← strdup ok (place ++ [.string]) url.string
        let ur : UriBlocks := ⟨self, scheme, username, password, host, port, string, [], []⟩
        let params ← osipListClone ok (fun i => place ++ [.param i]) 0 url.urlParams []
        let ur := { ur with urlParams := params.2 }
        if let some i := params.1 then do
          freeAll ur.pointers
          pure (.error i)
        else do
          let headers ← osipListClone ok (fun i => place ++ [.header i]) 0 url.urlHeaders []
          let ur := { ur with urlHeaders := headers.2 }
          if let some i := headers.1 then do
            freeAll ur.pointers
            pure (.error i)
          else pure (.ok ur)

def osipUriClonePlan (place : Place) (url : Uri) : List (PlanStep Place) :=
  if url.host.isNone && url.string.isNone then [.refused]
  else
    [.checked (place ++ [.self])] ++ (strdupPlan .ignored (place ++ [.scheme]) url.scheme ++
      (strdupPlan .ignored (place ++ [.username]) url.username ++
      (strdupPlan .ignored (place ++ [.password]) url.password ++
      (strdupPlan .ignored (place ++ [.host]) url.host ++
      (strdupPlan .ignored (place ++ [.port]) url.port ++
      (strdupPlan .ignored (place ++ [.string]) url.string ++
      (osipListClonePlan (fun i => place ++ [.param i]) 0 url.urlParams ++
      (osipListClonePlan (fun i => place ++ [.header i]) 0 url.urlHeaders ++ []))))))))

/-! ### From, To and Via -/

structure FromBlocks where
  self : Place
  displayname : Option Place
  url : Option UriBlocks
  genParams : ParamList
  deriving DecidableEq, Repr

/-- What `osip_from_free` frees. -/
def FromBlocks.pointers (header : FromBlocks) : List (Option Place) :=
  header.url.elim [] UriBlocks.pointers ++ [header.displayname] ++ header.genParams.pointers ++
    [some header.self]

/-- The URI of a header, which need not be there. -/
def urlClone (place : Place) (url : Option Uri) :
    Alloc Place (Except ErrorCode (Option UriBlocks)) :=
  match url with
  | none => pure (.ok none)
  | some url => do
      match ← osipUriClone ok place url with
      | .error i => pure (.error i)
      | .ok ur => pure (.ok (some ur))

def urlClonePlan (place : Place) (url : Option Uri) : List (PlanStep Place) :=
  match url with
  | none => []
  | some url => osipUriClonePlan place url ++ []

/-- `osip_from_clone`, which is `osip_to_clone` too. -/
def osipFromClone (place : Place) (header : Option From) :
    Alloc Place (Except ErrorCode FromBlocks) :=
  match header with
  | none => Alloc.refuse (.error .badparameter)
  | some header => do
      match ← malloc ok (place ++ [.self]) with
      | none => pure (.error .nomem)
      | some self => do
          let displayname ← strdup ok (place ++ [.displayname]) header.displayname
          let fr : FromBlocks := ⟨self, displayname, none, []⟩
          if header.displayname.isSome && displayname.isNone then do
            freeAll fr.pointers
            pure (.error .nomem)
          else do
            match ← urlClone ok (place ++ [.url]) header.url with
            | .error i => do
                freeAll fr.pointers
                pure (.error i)
            | .ok url => do
                let fr := { fr with url }
                let params ← osipListClone ok (fun i => place ++ [.param i]) 0 header.genParams []
                let fr := { fr with genParams := params.2 }
                if let some i := params.1 then do
                  freeAll fr.pointers
                  pure (.error i)
                else pure (.ok fr)

def osipFromClonePlan (place : Place) (header : Option From) : List (PlanStep Place) :=
  match header with
  | none => [.refused]
  | some header =>
      [.checked (place ++ [.self])] ++
        (strdupPlan .checked (place ++ [.displayname]) header.displayname ++
        (urlClonePlan (place ++ [.url]) header.url ++
        (osipListClonePlan (fun i => place ++ [.param i]) 0 header.genParams ++ [])))

structure ViaBlocks where
  self : Place
  version : Option Place
  protocol : Option Place
  host : Option Place
  port : Option Place
  comment : Option Place
  viaParams : ParamList
  deriving DecidableEq, Repr

/-- What `osip_via_free` frees. -/
def ViaBlocks.pointers (via : ViaBlocks) : List (Option Place) :=
  [via.version, via.protocol, via.host, via.port, via.comment] ++ via.viaParams.pointers ++
    [some via.self]

/-- A string of the Via that is copied and checked; `k` is the rest of `osip_via_clone`. -/
def viaMember (vi : ViaBlocks) (place : Place) (s : Option Str)
    (k : Option Place → Alloc Place (Except ErrorCode ViaBlocks)) :
    Alloc Place (Except ErrorCode ViaBlocks) := do
  let copy ← strdup ok place s
  if s.isSome && copy.isNone then do
    freeAll vi.pointers
    pure (.error .nomem)
  else k copy

def osipViaClone (place : Place) (via : Via) : Alloc Place (Except ErrorCode ViaBlocks) :=
  if via.version.isNone || via.protocol.isNone || via.host.isNone then
    Alloc.refuse (.error .badparameter)
  else do
    match ← malloc ok (place ++ [.self]) with
    | none => pure (.error .nomem)
    | some self =>
        let vi : ViaBlocks := ⟨self, none, none, none, none, none, []⟩
        viaMember ok vi (place ++ [.version]) via.version fun version =>
        let vi := { vi with version }
        viaMember ok vi (place ++ [.protocol]) via.protocol fun protocol =>
        let vi := { vi with protocol }
        viaMember ok vi (place ++ [.host]) via.host fun host =>
        let vi := { vi with host }
        viaMember ok vi (place ++ [.port]) via.port fun port =>
        let vi := { vi with port }
        viaMember ok vi (place ++ [.comment]) via.comment fun comment => do
          let vi := { vi with comment }
          let params ← osipListClone ok (fun i => place ++ [.param i]) 0 via.viaParams []
          let vi := { vi with viaParams := params.2 }
          if let some i := params.1 then do
            freeAll vi.pointers
            pure (.error i)
          else pure (.ok vi)

def osipViaClonePlan (place : Place) (via : Via) : List (PlanStep Place) :=
  if via.version.isNone || via.protocol.isNone || via.host.isNone then [.refused]
  else
    [.checked (place ++ [.self])] ++ (strdupPlan .checked (place ++ [.version]) via.version ++
      (strdupPlan .checked (place ++ [.protocol]) via.protocol ++
      (strdupPlan .checked (place ++ [.host]) via.host ++
      (strdupPlan .checked (place ++ [.port]) via.port ++
      (strdupPlan .checked (place ++ [.comment]) via.comment ++
      (osipListClonePlan (fun i => place ++ [.param i]) 0 via.viaParams ++ []))))))

/-! ### Call-ID and CSeq -/

structure CallIdBlocks where
  self : Place
  number : Option Place
  host : Option Place
  deriving DecidableEq, Repr

/-- What `osip_call_id_free` frees. -/
def CallIdBlocks.pointers (callid : CallIdBlocks) : List (Option Place) :=
  [callid.number, callid.host, some callid.self]

def osipCallIdClone (place : Place) (callid : Option CallId) :
    Alloc Place (Except ErrorCode CallIdBlocks) :=
  match callid with
  | none => Alloc.refuse (.error .badparameter)
  | some callid =>
      if callid.number.isNone then Alloc.refuse (.error .badparameter)
      else do
        match ← malloc ok (place ++ [.self]) with
        | none => pure (.error .nomem)
        | some self => do
            let number ← strdup ok (place ++ [.number]) callid.number
            let host ← strdup ok (place ++ [.host]) callid.host
            pure (.ok ⟨self, number, host⟩)

def osipCallIdClonePlan (place : Place) (callid : Option CallId) : List (PlanStep Place) :=
  match callid with
  | none => [.refused]
  | some callid =>
      if callid.number.isNone then [.refused]
      else
        [.checked (place ++ [.self])] ++ (strdupPlan .ignored (place ++ [.number]) callid.number ++
          (strdupPlan .ignored (place ++ [.host]) callid.host ++ []))

structure CseqBlocks where
  self : Place
  method : Option Place
  number : Option Place
  deriving DecidableEq, Repr

/-- What `osip_cseq_free` frees. -/
def CseqBlocks.pointers (cseq : CseqBlocks) : List (Option Place) :=
  [cseq.method, cseq.number, some cseq.self]

def osipCseqClone (place : Place) (cseq : Option Cseq) :
    Alloc Place (Except ErrorCode CseqBlocks) :=
  match cseq with
  | none => Alloc.refuse (.error .badparameter)
  | some cseq =>
      if cseq.method.isNone || cseq.number.isNone then Alloc.refuse (.error .badparameter)
      else do
        match ← malloc ok (place ++ [.self]) with
        | none => pure (.error .nomem)
        | some self => do
            let method ← strdup ok (place ++ [.method]) cseq.method
            let number ← strdup ok (place ++ [.number]) cseq.number
            pure (.ok ⟨self, method, number⟩)

def osipCseqClonePlan (place : Place) (cseq : Option Cseq) : List (PlanStep Place) :=
  match cseq with
  | none => [.refused]
  | some cseq =>
      if cseq.method.isNone || cseq.number.isNone then [.refused]
      else
        [.checked (place ++ [.self])] ++ (strdupPlan .ignored (place ++ [.method]) cseq.method ++
          (strdupPlan .ignored (place ++ [.number]) cseq.number ++ []))

/-! ### The clones follow their plans -/

section Plans

variable {ok}

def owned {α : Type} (pointers : α → List (Option Place)) : Except ErrorCode α → Multiset Place
  | .error _ => 0
  | .ok a => blocks (pointers a)

def Clones {α : Type} (ok : Place → Bool) (pointers : α → List (Option Place))
    (plan : List (PlanStep Place)) (x : Alloc Place (Except ErrorCode α)) : Prop :=
  Alloc.Follows ok plan 0 x isError (owned pointers)

theorem follows_strdup (place : Place) (s : Option Str) :
    Alloc.Follows ok (strdupPlan .ignored place s) 0 (strdup ok place s) (fun _ => false)
      block := by
  cases s with
  | none => exact Alloc.Follows.pure rfl rfl
  | some s => exact Alloc.Follows.mallocIgnored place

theorem follows_strdup_checked (place : Place) (s : Option Str) :
    Alloc.Follows ok (strdupPlan .checked place s) 0 (strdup ok place s)
      (fun copy => s.isSome && copy.isNone) block := by
  cases s with
  | none => exact Alloc.Follows.pure rfl rfl
  | some s =>
      have hplan := @Alloc.Follows.mallocChecked _ ok place
      simpa [strdupPlan, strdup] using hplan

theorem clones_osipUriParamClone (place : Place) (uparam : GenericParam) :
    Clones ok ParamBlocks.pointers (osipUriParamClonePlan place uparam)
      (osipUriParamClone ok place uparam) := by
  refine (Alloc.Follows.mallocChecked _).step (fun self hself => ?_) (fun self hself => ?_)
  · cases self with
    | none => cases hself
    | some self =>
        refine (follows_strdup _ _).andThen fun gname => ?_
        refine (follows_strdup _ _).andThen fun gvalue => ?_
        refine Alloc.Follows.pure ?_ rfl
        simp [owned, ParamBlocks.pointers]
        abel
  · cases self with
    | none => exact Unwinds.pure rfl rfl
    | some self => cases hself

theorem paramList_pointers_append (params params' : ParamList) :
    ParamList.pointers (params ++ params') = params.pointers ++ params'.pointers := by
  induction params with
  | nil => rfl
  | cons param params ih => simp [ParamList.pointers, ih]

theorem follows_osipListClone (place : Nat → Place) (src : List GenericParam) (i : Nat)
    (dst : ParamList) :
    Alloc.Follows ok (osipListClonePlan place i src) (blocks dst.pointers)
      (osipListClone ok place i src dst) (fun params => params.1.isSome)
      fun params => blocks params.2.pointers := by
  induction src generalizing i dst with
  | nil => exact Alloc.Follows.pure rfl rfl
  | cons data src ih =>
      refine (clones_osipUriParamClone _ _).step (fun data2 hdata2 => ?_) (fun data2 hdata2 => ?_)
      · cases data2 with
        | error e => cases hdata2
        | ok data2 =>
            have hne : blocks data2.pointers ≠ 0 := by
              intro hzero
              have hself : data2.self ∈ blocks data2.pointers := by simp [ParamBlocks.pointers]
              rw [hzero] at hself
              exact Multiset.notMem_zero _ hself
            refine ((Alloc.Follows.mallocLosing _ hne).frame _).bind (fun node _ _ => ?_)
              fun _ h => absurd h Bool.false_ne_true
            cases node with
            | none => simpa using ih (i + 1) dst
            | some node =>
                have hheld : Option.elim (some node) 0 (fun b => {b} + blocks data2.pointers) +
                    blocks dst.pointers = blocks (ParamList.pointers (dst ++ [(node, data2)])) := by
                  simp only [Option.elim_some, paramList_pointers_append, ParamList.pointers,
                    blocks_append, blocks_cons, block_some, blocks_nil]
                  abel
                rw [hheld]
                exact ih (i + 1) (dst ++ [(node, data2)])
      · cases data2 with
        | error e => exact Unwinds.pure (by simp [owned]) rfl
        | ok data2 => cases hdata2

theorem unwinds_freeAll {α : Type} {pointers : α → List (Option Place)}
    {held : Multiset Place} {ps : List (Option Place)} {i : ErrorCode} (hheld : held = blocks ps) :
    Unwinds held (do freeAll ps; pure (.error i) : Alloc Place (Except ErrorCode α)) isError
      (owned pointers) := by
  have hend : Unwinds 0 (pure (.error i) : Alloc Place (Except ErrorCode α)) isError
      (owned pointers) := Unwinds.pure rfl rfl
  rw [hheld, ← add_zero (blocks ps)]
  exact hend.freeAll

theorem clones_osipUriClone (place : Place) (url : Uri) :
    Clones ok UriBlocks.pointers (osipUriClonePlan place url) (osipUriClone ok place url) := by
  unfold osipUriClonePlan osipUriClone
  split
  · exact Alloc.Follows.refuse rfl rfl
  · refine (Alloc.Follows.mallocChecked _).step (fun self hself => ?_) (fun self hself => ?_)
    · cases self with
      | none => cases hself
      | some self =>
          refine (follows_strdup _ _).andThen fun scheme => ?_
          refine (follows_strdup _ _).andThen fun username => ?_
          refine (follows_strdup _ _).andThen fun password => ?_
          refine (follows_strdup _ _).andThen fun host => ?_
          refine (follows_strdup _ _).andThen fun port => ?_
          refine (follows_strdup _ _).andThen fun string => ?_
          refine (follows_osipListClone _ _ 0 []).step (fun params hparams => ?_)
            (fun params hparams => ?_)
          · rw [Option.isSome_eq_false_iff, Option.isNone_iff_eq_none] at hparams
            simp only [hparams]
            refine (follows_osipListClone _ _ 0 []).step (fun headers hheaders => ?_)
              (fun headers hheaders => ?_)
            · rw [Option.isSome_eq_false_iff, Option.isNone_iff_eq_none] at hheaders
              simp only [hheaders]
              refine Alloc.Follows.pure ?_ rfl
              simp [owned, UriBlocks.pointers]
              abel
            · obtain ⟨i, hi⟩ := Option.isSome_iff_exists.1 hheaders
              simp only [hi]
              refine unwinds_freeAll ?_
              simp [UriBlocks.pointers]
              abel
          · obtain ⟨i, hi⟩ := Option.isSome_iff_exists.1 hparams
            simp only [hi]
            refine unwinds_freeAll ?_
            simp [UriBlocks.pointers, ParamList.pointers]
            abel
    · cases self with
      | none => exact Unwinds.pure rfl rfl
      | some self => cases hself

theorem follows_urlClone (place : Place) (url : Option Uri) :
    Clones ok (fun url => url.elim [] UriBlocks.pointers) (urlClonePlan place url)
      (urlClone ok place url) := by
  cases url with
  | none => exact Alloc.Follows.pure rfl rfl
  | some url =>
      refine (clones_osipUriClone _ _).step (fun ur hur => ?_) (fun ur hur => ?_)
      · cases ur with
        | error e => cases hur
        | ok ur => exact Alloc.Follows.pure (by simp [owned]) rfl
      · cases ur with
        | error e => exact Unwinds.pure (by simp [owned]) rfl
        | ok ur => cases hur

theorem clones_osipFromClone (place : Place) (header : Option From) :
    Clones ok FromBlocks.pointers (osipFromClonePlan place header)
      (osipFromClone ok place header) := by
  cases header with
  | none => exact Alloc.Follows.refuse rfl rfl
  | some header =>
      refine (Alloc.Follows.mallocChecked _).step (fun self hself => ?_) (fun self hself => ?_)
      · cases self with
        | none => cases hself
        | some self =>
            refine (follows_strdup_checked _ _).step (fun displayname hname => ?_)
              (fun displayname hname => ?_)
            · simp only [hname, Bool.false_eq_true, if_false]
              refine (follows_urlClone _ _).step (fun url hurl => ?_) (fun url hurl => ?_)
              · cases url with
                | error e => cases hurl
                | ok url =>
                    refine (follows_osipListClone _ _ 0 []).step (fun params hparams => ?_)
                      (fun params hparams => ?_)
                    · rw [Option.isSome_eq_false_iff, Option.isNone_iff_eq_none] at hparams
                      simp only [hparams]
                      refine Alloc.Follows.pure ?_ rfl
                      simp [owned, FromBlocks.pointers]
                      abel
                    · obtain ⟨i, hi⟩ := Option.isSome_iff_exists.1 hparams
                      simp only [hi]
                      refine unwinds_freeAll ?_
                      simp [owned, FromBlocks.pointers]
                      abel
              · cases url with
                | error e =>
                    refine unwinds_freeAll ?_
                    simp [owned, FromBlocks.pointers, ParamList.pointers]
                | ok url => cases hurl
            · simp only [hname, if_true]
              refine unwinds_freeAll ?_
              simp [FromBlocks.pointers, ParamList.pointers]
      · cases self with
        | none => exact Unwinds.pure rfl rfl
        | some self => cases hself

theorem follows_viaMember {vi : ViaBlocks} {held : Multiset Place} {place : Place}
    {s : Option Str} {plan : List (PlanStep Place)}
    {k : Option Place → Alloc Place (Except ErrorCode ViaBlocks)}
    (hheld : held = blocks vi.pointers)
    (hk : ∀ copy, Alloc.Follows ok plan (block copy + held) (k copy) isError
      (owned ViaBlocks.pointers)) :
    Alloc.Follows ok (strdupPlan .checked place s ++ plan) held (viaMember ok vi place s k) isError
      (owned ViaBlocks.pointers) := by
  refine (follows_strdup_checked _ _).step (fun copy hcopy => ?_) (fun copy hcopy => ?_)
  · simp only [hcopy, Bool.false_eq_true, if_false]
    exact hk copy
  · simp only [hcopy, if_true]
    refine unwinds_freeAll ?_
    cases copy with
    | none => rw [block_none, zero_add, hheld]
    | some copy => simp at hcopy

theorem clones_osipViaClone (place : Place) (via : Via) :
    Clones ok ViaBlocks.pointers (osipViaClonePlan place via) (osipViaClone ok place via) := by
  unfold osipViaClonePlan osipViaClone
  split
  · exact Alloc.Follows.refuse rfl rfl
  · refine (Alloc.Follows.mallocChecked _).step (fun self hself => ?_) (fun self hself => ?_)
    · cases self with
      | none => cases hself
      | some self =>
          refine follows_viaMember ?_ fun version => ?_
          · simp [ViaBlocks.pointers, ParamList.pointers]
          refine follows_viaMember ?_ fun protocol => ?_
          · simp [ViaBlocks.pointers, ParamList.pointers]
          refine follows_viaMember ?_ fun host => ?_
          · simp [ViaBlocks.pointers, ParamList.pointers]
            abel
          refine follows_viaMember ?_ fun port => ?_
          · simp [ViaBlocks.pointers, ParamList.pointers]
            abel
          refine follows_viaMember ?_ fun comment => ?_
          · simp [ViaBlocks.pointers, ParamList.pointers]
            abel
          refine (follows_osipListClone _ _ 0 []).step (fun params hparams => ?_)
            (fun params hparams => ?_)
          · rw [Option.isSome_eq_false_iff, Option.isNone_iff_eq_none] at hparams
            simp only [hparams]
            refine Alloc.Follows.pure ?_ rfl
            simp [owned, ViaBlocks.pointers]
            abel
          · obtain ⟨i, hi⟩ := Option.isSome_iff_exists.1 hparams
            simp only [hi]
            refine unwinds_freeAll ?_
            simp [ViaBlocks.pointers]
            abel
    · cases self with
      | none => exact Unwinds.pure rfl rfl
      | some self => cases hself

theorem clones_osipCallIdClone (place : Place) (callid : Option CallId) :
    Clones ok CallIdBlocks.pointers (osipCallIdClonePlan place callid)
      (osipCallIdClone ok place callid) := by
  cases callid with
  | none => exact Alloc.Follows.refuse rfl rfl
  | some callid =>
      unfold osipCallIdClonePlan osipCallIdClone
      dsimp only
      split
      · exact Alloc.Follows.refuse rfl rfl
      · refine (Alloc.Follows.mallocChecked _).step (fun self hself => ?_) (fun self hself => ?_)
        · cases self with
          | none => cases hself
          | some self =>
              refine (follows_strdup _ _).andThen fun number => ?_
              refine (follows_strdup _ _).andThen fun host => ?_
              refine Alloc.Follows.pure ?_ rfl
              simp [owned, CallIdBlocks.pointers]
              abel
        · cases self with
          | none => exact Unwinds.pure rfl rfl
          | some self => cases hself

theorem clones_osipCseqClone (place : Place) (cseq : Option Cseq) :
    Clones ok CseqBlocks.pointers (osipCseqClonePlan place cseq)
      (osipCseqClone ok place cseq) := by
  cases cseq with
  | none => exact Alloc.Follows.refuse rfl rfl
  | some cseq =>
      unfold osipCseqClonePlan osipCseqClone
      dsimp only
      split
      · exact Alloc.Follows.refuse rfl rfl
      · refine (Alloc.Follows.mallocChecked _).step (fun self hself => ?_) (fun self hself => ?_)
        · cases self with
          | none => cases hself
          | some self =>
              refine (follows_strdup _ _).andThen fun method => ?_
              refine (follows_strdup _ _).andThen fun number => ?_
              refine Alloc.Follows.pure ?_ rfl
              simp [owned, CseqBlocks.pointers]
              abel
        · cases self with
          | none => exact Unwinds.pure rfl rfl
          | some self => cases hself

end Plans

end Blocks
end Exosip
