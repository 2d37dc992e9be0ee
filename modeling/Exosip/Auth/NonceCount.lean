import Exosip.Auth.Credentials
import Exosip.Machine.Numbering
import Exosip.Parser.Uri

/-! The nonce counts of the requests that are authenticated, over all orders of requests,
challenges and releases. -/
namespace Exosip

open CString
open Machine (occurrences Numbered)
open Machine.Slots (updateFirst entries)

/-! ### Counts in hexadecimal -/

/-- A count with at least 8 hexadecimal digits. -/
def hex8 (k : Nat) : Str :=
  List.replicate (8 - (Nat.toDigits 16 k).length) '0' ++ Nat.toDigits 16 k

/-- The digits read after `value`. -/
def hexRead (value : Nat) (s : Str) : Nat :=
  s.foldl (fun value c => 16 * value + (hexDigit? c).getD 0) value

theorem hexDigit?_digitChar : ∀ d : Fin 16, hexDigit? (Nat.digitChar d) = some d.val := by decide

theorem hexRead_concat (value : Nat) (s : Str) (c : Char) :
    hexRead value (s ++ [c]) = 16 * hexRead value s + (hexDigit? c).getD 0 := List.foldl_concat _ _ _ _

theorem hexRead_toDigits (k : Nat) : hexRead 0 (Nat.toDigits 16 k) = k := by
  induction k using Nat.strongRecOn with
  | ind k ih =>
      by_cases hk : k < 16
      · have hdigit := hexDigit?_digitChar ⟨k, hk⟩
        rw [Nat.toDigits_of_lt_base hk]
        show 16 * 0 + (hexDigit? (Nat.digitChar k)).getD 0 = k
        rw [hdigit, Option.getD_some, Nat.mul_zero, Nat.zero_add]
      · have hdigit := hexDigit?_digitChar ⟨k % 16, Nat.mod_lt _ (by omega)⟩
        rw [Nat.toDigits_of_base_le (by omega) (by omega), hexRead_concat, ih (k / 16) (by omega),
          hdigit, Option.getD_some]
        show 16 * (k / 16) + k % 16 = k
        omega

theorem hexRead_zeros (n : Nat) (s : Str) : hexRead 0 (List.replicate n '0' ++ s) = hexRead 0 s := by
  induction n with
  | zero => rfl
  | succ n ih =>
      rw [List.replicate_succ, List.cons_append, ← ih]
      rfl

theorem hex8_injective : Function.Injective hex8 := by
  intro k k' h
  have hread := congrArg (hexRead 0) h
  rwa [hex8, hex8, hexRead_zeros, hexRead_zeros, hexRead_toDigits, hexRead_toDigits] at hread

theorem length_nonceCountText (n : Int) : (Digest.nonceCountText n).length = 8 := by
  unfold Digest.nonceCountText
  rw [List.length_take, List.length_append, List.length_append, List.length_replicate]
  omega

theorem nonceCountText_eq_hex8 {k : Nat} (hk : k ≤ 9) : Digest.nonceCountText k = hex8 k := by
  have htable : ∀ d : Fin 10, Digest.nonceCountText (d.val : Nat) = hex8 d.val := by decide +kernel
  exact htable ⟨k, by omega⟩

/-! ### Runs -/

/-- The table, and the headers that were sent. -/
structure AuthRun where
  httpAuths : HttpAuths
  sent : List AuthorizationHeader

/-- A request gets its credentials, after a response or not; something is released. -/
inductive AuthInput where
  | authenticate (authinfos : List AuthInfo) (req : SipFields) (lastResponse : Option SipFields)
  | release (callId : Option Str)

namespace AuthRun

def init : AuthRun := ⟨HttpAuths.init, []⟩

variable (hash : HashFunctions)

def step (run : AuthRun) : AuthInput → AuthRun × List AuthorizationHeader
  | .authenticate authinfos req lastResponse =>
      let out := addAuthenticationInformation hash authinfos req run.httpAuths lastResponse
      (⟨out.httpAuths, run.sent ++ out.added.map Prod.snd⟩, out.added.map Prod.snd)
  | .release callId => (⟨run.httpAuths.release callId, run.sent⟩, [])

def nonceOf (field : Option Str) : Option Str := field.map Multipart.unquoted

def keyOf (header : AuthorizationHeader) : Option Str := nonceOf header.nonce

/-- Whether the answers to a challenge carry a nonce count. -/
def hasQop (wa : WwwAuthenticate) : Bool := (Digest.qopOf wa.qopOptions).isSome

/-- The hash in the header is computed with the nonce count of the header. -/
def Digested (header : AuthorizationHeader) : Prop :=
  ∃ alg username realm passwd ha1 nonce cNonce method uri response,
    Digest.responseOf hash alg username realm passwd ha1 nonce header.nonceCount cNonce
        header.messageQop method uri = .ok response ∧
      header.response = some ((Digest.quoted response).take 34)

def EightDigits (header : AuthorizationHeader) : Prop := ∀ nc ∈ header.nonceCount, nc.length = 8

/-- The k-th header with a nonce carries k, in 8 digits, no nonce is sent with the same count
twice, and the hash is that of the count which is sent. -/
structure Counted (sent : List AuthorizationHeader) : Prop where
  numbered : Numbered keyOf (fun header => header.nonceCount) hex8 sent
  noPairTwice : sent.Pairwise fun header header' =>
    keyOf header = keyOf header' → ∀ nc ∈ header.nonceCount, nc ∉ header'.nonceCount
  eightDigits : ∀ header ∈ sent, EightDigits header
  digested : ∀ header ∈ sent, Digested hash header

/-! ### The condition on a step -/

/-- The nonces of two challenges are different when the answers to one of them are counted. -/
def Apart (wa wa' : WwwAuthenticate) : Prop :=
  hasQop wa = true ∨ hasQop wa' = true → nonceOf wa.nonce ≠ nonceOf wa'.nonce

/-- No header with the nonce of the challenge was sent, or none that is counted when the
challenge is not counted either. -/
def Fresh (sent : List AuthorizationHeader) (wa : WwwAuthenticate) : Prop :=
  ∀ header ∈ sent, keyOf header = nonceOf wa.nonce →
    hasQop wa = false ∧ header.nonceCount = none

/-- The stored challenges of the request have been answered at most 8 times. -/
def Countable (httpAuths : HttpAuths) (req : SipFields) : Prop :=
  ∀ httpAuth ∈ entries httpAuths, ∀ callId ∈ HttpAuths.callIdNumber (some req),
    osipStrcasecmp httpAuth.pszCallId callId = true → hasQop httpAuth.wa = true →
      httpAuth.iNonceCount ≤ 8

def Allowed (run : AuthRun) : AuthInput → Prop
  | .authenticate _ req none => Countable run.httpAuths req
  | .authenticate _ _ (some response) =>
      (∀ wa ∈ response.wwwAuthenticates ++ response.proxyAuthenticates, Fresh run.sent wa) ∧
        (response.wwwAuthenticates ++ response.proxyAuthenticates).Pairwise Apart
  | .release _ => True

/-! ### The invariant -/

/-- What the history says about an entry of the table: its count is the number of headers with its
nonce. -/
structure EntryOk (sent : List AuthorizationHeader) (httpAuth : HttpAuth) : Prop where
  answered : ∃ header ∈ sent, keyOf header = nonceOf httpAuth.wa.nonce ∧
    header.nonceCount.isSome = hasQop httpAuth.wa
  counted : hasQop httpAuth.wa = true →
    httpAuth.iNonceCount = occurrences keyOf sent (nonceOf httpAuth.wa.nonce)
  uncounted : hasQop httpAuth.wa = false →
    ∀ header ∈ sent, keyOf header = nonceOf httpAuth.wa.nonce → header.nonceCount = none
  creates : ∀ (credentials : Credentials) (cNonce : Str) (n : Int),
    ∃ aut, credentials.header hash httpAuth.wa cNonce n = .ok aut

def challenges (httpAuths : HttpAuths) : List WwwAuthenticate := (entries httpAuths).map HttpAuth.wa

structure Inv (httpAuths : HttpAuths) (sent : List AuthorizationHeader) : Prop where
  entries : ∀ httpAuth ∈ entries httpAuths, EntryOk hash sent httpAuth
  apart : (challenges httpAuths).Pairwise Apart
  numbered : Numbered keyOf (fun header => header.nonceCount) hex8 sent
  digested : ∀ header ∈ sent, EightDigits header ∧ Digested hash header

theorem Apart.symm {wa wa' : WwwAuthenticate} (h : Apart wa wa') : Apart wa' wa :=
  fun hqop hsame => h hqop.symm hsame.symm

theorem inv_init : Inv hash HttpAuths.init [] where
  entries httpAuth hmem := by
    rw [HttpAuths.init, Machine.Slots.entries_replicate_none] at hmem
    cases hmem
  apart := by
    rw [challenges, HttpAuths.init, Machine.Slots.entries_replicate_none]
    exact List.Pairwise.nil
  numbered := Machine.numbered_nil _ _ _
  digested header hmem := by cases hmem

variable {hash}

/-! ### The headers -/

theorem exists_responseOf (hash : HashFunctions) (alg username realm passwd : Str)
    (ha1 : Option Str) (nonce nc cNonce method uri : Str) (qopOptions : Option Str) :
    ∃ response, Digest.responseOf hash alg username realm passwd ha1 nonce
      ((Digest.qopOf qopOptions).map fun _ => nc) ((Digest.qopOf qopOptions).map fun _ => cNonce)
      (Digest.qopOf qopOptions) method uri = .ok response := by
  have hha1 (password : Str) (cNonce : Option Str) :
      ∃ pha1, Digest.ha1Of hash username realm password nonce cNonce ha1 = .ok pha1 := by
    match ha1 with
    | none => exact ⟨_, rfl⟩
    | some [] => exact ⟨_, rfl⟩
    | some (c :: ha1) => exact ⟨_, rfl⟩
  have hresponse (pha1 : Str) (aka : Nat) :
      ∃ response, Digest.digestCalcResponse hash pha1 nonce
        ((Digest.qopOf qopOptions).map fun _ => nc) ((Digest.qopOf qopOptions).map fun _ => cNonce)
        (Digest.qopOf qopOptions) aka method uri [] = .ok response := by
    unfold Digest.digestCalcResponse Digest.qopOf
    by_cases hshort : qopOptions.all (·.length < 4) = true
    · rw [if_pos hshort]
      exact ⟨_, rfl⟩
    · have hauth : osipStrcasecmp "auth".toList "auth".toList = true := beq_self_eq_true _
      have hint : osipStrcasecmp "auth".toList "auth-int".toList = false := by decide
      rw [if_neg hshort]
      dsimp only [Option.map_some]
      rw [hint, hauth]
      by_cases haka : aka = 0
      · rw [haka]
        exact ⟨_, rfl⟩
      · simp [haka]
  unfold Digest.responseOf
  split
  · obtain ⟨pha1, hpha1⟩ := hha1 passwd ((Digest.qopOf qopOptions).map fun _ => cNonce)
    rw [hpha1, ok_bind]
    exact hresponse pha1 0
  · dsimp only
    obtain ⟨pha1, hpha1⟩ := hha1 (hash.digestCalcResponseAka passwd nonce
      ((Digest.qopOf qopOptions).map fun _ => cNonce) (Digest.qopOf qopOptions) method uri
      (if osipStrcasecmp alg "AKAv1-MD5".toList = true then 1 else 2))
      ((Digest.qopOf qopOptions).map fun _ => cNonce)
    rw [hpha1, ok_bind]
    exact hresponse pha1 _

variable {credentials : Credentials} {wa : WwwAuthenticate} {cNonce : Str} {n : Int}
  {aut : AuthorizationHeader}

theorem creates_of_header (h : credentials.header hash wa cNonce n = .ok aut)
    (credentials' : Credentials) (cNonce' : Str) (n' : Int) :
    ∃ aut', credentials'.header hash wa cNonce' n' = .ok aut' := by
  obtain ⟨authType, field, alg, realm, nonce, -, htype, hfield, hdigest, halg, hrealm, hnonce, -⟩ :=
    Digest.create_eq_ok_iff.1 h
  obtain ⟨response, hresponse⟩ := exists_responseOf hash alg
    (AuthInfo.field credentials'.authinfo.userid) realm
    (AuthInfo.field credentials'.authinfo.passwd) (some (AuthInfo.field credentials'.authinfo.ha1))
    nonce (Digest.nonceCountText n') cNonce' credentials'.method credentials'.uri wa.qopOptions
  exact ⟨_, Digest.create_eq_ok_iff.2 ⟨authType, field, alg, realm, nonce, response, htype, hfield,
    hdigest, halg, hrealm, hnonce, hresponse, rfl⟩⟩

theorem digested_of_header (h : credentials.header hash wa cNonce n = .ok aut) :
    Digested hash aut := by
  obtain ⟨authType, field, alg, realm, nonce, response, -, -, -, -, -, -, hresponse, haut⟩ :=
    Digest.create_eq_ok_iff.1 h
  rw [← haut]
  exact ⟨_, _, _, _, _, _, _, _, _, response, hresponse, rfl⟩

theorem keyOf_of_header (h : credentials.header hash wa cNonce n = .ok aut) :
    keyOf aut = nonceOf wa.nonce :=
  congrArg nonceOf (Digest.fields_of_create h).2.1

theorem nonceCount_of_header (h : credentials.header hash wa cNonce n = .ok aut) :
    aut.nonceCount = if hasQop wa then some (Digest.nonceCountText n) else none := by
  rw [(Digest.fields_of_create h).2.2.2, hasQop]
  cases Digest.qopOf wa.qopOptions with
  | none => rfl
  | some qop => rfl

theorem isSome_nonceCount_of_header (h : credentials.header hash wa cNonce n = .ok aut) :
    aut.nonceCount.isSome = hasQop wa := by
  rw [nonceCount_of_header h]
  cases hasQop wa with
  | false => rfl
  | true => rfl

/-! ### One header more -/

variable {sent : List AuthorizationHeader} {httpAuth : HttpAuth} {httpAuths : HttpAuths}

theorem EntryOk.concat (hok : EntryOk hash sent httpAuth) (hapart : Apart httpAuth.wa wa)
    (h : credentials.header hash wa cNonce n = .ok aut) : EntryOk hash (sent ++ [aut]) httpAuth where
  answered := by
    obtain ⟨header, hmem, hheader⟩ := hok.answered
    exact ⟨header, List.mem_append_left _ hmem, hheader⟩
  counted hqop := by
    have hother : keyOf aut ≠ nonceOf httpAuth.wa.nonce := by
      rw [keyOf_of_header h]
      exact (hapart (.inl hqop)).symm
    rw [Machine.occurrences_concat, if_neg hother, Nat.add_zero]
    exact hok.counted hqop
  uncounted hqop header hmem hkey := by
    cases List.mem_append.1 hmem with
    | inl hold => exact hok.uncounted hqop header hold hkey
    | inr hnew =>
        rw [List.mem_singleton.1 hnew] at hkey ⊢
        rw [keyOf_of_header h] at hkey
        rw [nonceCount_of_header h]
        cases hwa : hasQop wa with
        | false => rfl
        | true => exact absurd hkey.symm (hapart (.inr hwa))
  creates := hok.creates

theorem Fresh.concat {wa' : WwwAuthenticate} (hfresh : Fresh sent wa') (hapart : Apart wa' wa)
    (h : credentials.header hash wa cNonce n = .ok aut) : Fresh (sent ++ [aut]) wa' := by
  intro header hmem hkey
  cases List.mem_append.1 hmem with
  | inl hold => exact hfresh header hold hkey
  | inr hnew =>
      rw [List.mem_singleton.1 hnew] at hkey ⊢
      rw [keyOf_of_header h] at hkey
      rw [nonceCount_of_header h]
      cases hwa' : hasQop wa' with
      | true => exact absurd hkey.symm (hapart (.inl hwa'))
      | false =>
          cases hwa : hasQop wa with
          | false => exact ⟨rfl, rfl⟩
          | true => exact absurd hkey.symm (hapart (.inr hwa))

theorem EntryOk.answer (hok : EntryOk hash sent httpAuth)
    (h : credentials.header hash httpAuth.wa cNonce n = .ok aut) :
    EntryOk hash (sent ++ [aut]) { httpAuth with iNonceCount := httpAuth.iNonceCount + 1 } where
  answered := ⟨aut, List.mem_concat_self, keyOf_of_header h, isSome_nonceCount_of_header h⟩
  counted hqop := by
    rw [Machine.occurrences_concat, if_pos (keyOf_of_header h), hok.counted hqop]
    rfl
  uncounted hqop header hmem hkey := by
    cases List.mem_append.1 hmem with
    | inl hold => exact hok.uncounted hqop header hold hkey
    | inr hnew =>
        rw [List.mem_singleton.1 hnew, nonceCount_of_header h]
        exact if_neg (Bool.eq_false_iff.1 hqop)
  creates := hok.creates

theorem entryOk_of_fresh (hfresh : Fresh sent wa)
    (h : credentials.header hash wa cNonce n = .ok aut) (hwa : httpAuth.wa = wa)
    (hcount : httpAuth.iNonceCount = 1) : EntryOk hash (sent ++ [aut]) httpAuth where
  answered := ⟨aut, List.mem_concat_self, hwa ▸ keyOf_of_header h,
    hwa ▸ isSome_nonceCount_of_header h⟩
  counted hqop := by
    have hnone : occurrences keyOf sent (nonceOf wa.nonce) = 0 := by
      rw [Machine.occurrences_eq_zero]
      intro header hmem hkey
      rw [hwa, (hfresh header hmem hkey).1] at hqop
      cases hqop
    rw [hwa, Machine.occurrences_concat, if_pos (keyOf_of_header h), hnone, hcount]
    rfl
  uncounted hqop header hmem hkey := by
    cases List.mem_append.1 hmem with
    | inl hold => exact (hfresh header hold (hwa ▸ hkey)).2
    | inr hnew =>
        rw [List.mem_singleton.1 hnew, nonceCount_of_header h]
        exact if_neg (Bool.eq_false_iff.1 (hwa ▸ hqop))
  creates := hwa ▸ creates_of_header h

theorem Fresh.apart (hfresh : Fresh sent wa) (hok : EntryOk hash sent httpAuth) :
    Apart httpAuth.wa wa := by
  intro hqop hsame
  obtain ⟨header, hmem, hkey, hcounted⟩ := hok.answered
  have hnone := hfresh header hmem (hkey.trans hsame)
  rw [hnone.2] at hcounted
  cases hqop with
  | inl hqop =>
      rw [hqop] at hcounted
      cases hcounted
  | inr hqop =>
      rw [hnone.1] at hqop
      cases hqop

theorem eightDigits_of_header (h : credentials.header hash wa cNonce n = .ok aut) :
    EightDigits aut := by
  intro nc hnc
  rw [nonceCount_of_header h] at hnc
  split at hnc
  · cases hnc
    exact length_nonceCountText n
  · cases hnc

/-- A header more, for another challenge than those of the table. When it carries a number, this is
the next one. -/
theorem Inv.concat (hinv : Inv hash httpAuths sent)
    (hapart : ∀ wa' ∈ challenges httpAuths, Apart wa' wa)
    (hplace : hasQop wa = true → n = ((occurrences keyOf sent (nonceOf wa.nonce) + 1 : Nat) : Int) ∧
      occurrences keyOf sent (nonceOf wa.nonce) ≤ 8)
    (h : credentials.header hash wa cNonce n = .ok aut) : Inv hash httpAuths (sent ++ [aut]) where
  entries httpAuth hmem :=
    (hinv.entries httpAuth hmem).concat (hapart _ (List.mem_map_of_mem hmem)) h
  apart := hinv.apart
  numbered := by
    rw [Machine.numbered_concat_iff]
    refine ⟨hinv.numbered, fun nc hnc => ?_⟩
    rw [nonceCount_of_header h] at hnc
    cases hqop : hasQop wa with
    | false =>
        rw [hqop] at hnc
        cases hnc
    | true =>
        obtain ⟨hn, hle⟩ := hplace hqop
        rw [hqop, if_pos rfl, Option.mem_some_iff] at hnc
        rw [← hnc, keyOf_of_header h, hn]
        exact nonceCountText_eq_hex8 (by omega)
  digested header hmem := by
    cases List.mem_append.1 hmem with
    | inl hold => exact hinv.digested header hold
    | inr hnew =>
        rw [List.mem_singleton.1 hnew]
        exact ⟨eightDigits_of_header h, digested_of_header h⟩

@[simp] theorem challenges_none (slots : HttpAuths) :
    challenges (none :: slots) = challenges slots := rfl

@[simp] theorem challenges_some (httpAuth : HttpAuth) (slots : HttpAuths) :
    challenges (some httpAuth :: slots) = httpAuth.wa :: challenges slots := rfl

theorem inv_cons_iff {slots : HttpAuths} :
    Inv hash (some httpAuth :: slots) sent ↔
      EntryOk hash sent httpAuth ∧ (∀ wa ∈ challenges slots, Apart httpAuth.wa wa) ∧
        Inv hash slots sent := by
  constructor
  · intro h
    have hapart := List.pairwise_cons.1 h.apart
    exact ⟨h.entries httpAuth List.mem_cons_self, hapart.1,
      ⟨fun a ha => h.entries a (List.mem_cons_of_mem _ ha), hapart.2, h.numbered, h.digested⟩⟩
  · intro h
    refine ⟨fun a ha => ?_, List.pairwise_cons.2 ⟨h.2.1, h.2.2.apart⟩, h.2.2.numbered,
      h.2.2.digested⟩
    cases List.mem_cons.1 ha with
    | inl hhead =>
        rw [hhead]
        exact h.1
    | inr htail => exact h.2.2.entries a htail

theorem inv_none_iff {slots : HttpAuths} :
    Inv hash (none :: slots) sent ↔ Inv hash slots sent :=
  ⟨fun h => ⟨h.entries, h.apart, h.numbered, h.digested⟩,
    fun h => ⟨h.entries, h.apart, h.numbered, h.digested⟩⟩

/-! ### The loops -/

variable {authinfos : List AuthInfo} {req : SipFields} {username : Str}

/-- What the loop over the stored challenges keeps: the challenges are the same, and entries
apart from all of them are not concerned. -/
structure StoredKept (hash : HashFunctions) (slots : HttpAuths) (sent : List AuthorizationHeader)
    (out : Authenticated) : Prop where
  inv : Inv hash out.httpAuths (sent ++ out.added.map Prod.snd)
  same : challenges out.httpAuths = challenges slots
  others : ∀ httpAuth, (∀ wa ∈ challenges slots, Apart httpAuth.wa wa) →
    EntryOk hash sent httpAuth → EntryOk hash (sent ++ out.added.map Prod.snd) httpAuth

theorem Inv.unchanged (hinv : Inv hash httpAuths sent) {out : Authenticated}
    (hslots : out.httpAuths = httpAuths) (hadded : out.added = []) :
    Inv hash out.httpAuths (sent ++ out.added.map Prod.snd) := by
  rw [hslots, hadded, List.map_nil, List.append_nil]
  exact hinv

theorem storedKept_unchanged {slots : HttpAuths} (h : Inv hash slots sent) {out : Authenticated}
    (hslots : out.httpAuths = slots) (hadded : out.added = []) : StoredKept hash slots sent out where
  inv := h.unchanged hslots hadded
  same := by rw [hslots]
  others httpAuth _ hok := by
    rw [hadded, List.map_nil, List.append_nil]
    exact hok

theorem StoredKept.behind {slots : HttpAuths} {out : Authenticated}
    (hinv : Inv hash (some httpAuth :: slots) sent) (hrest : StoredKept hash slots sent out) :
    StoredKept hash (some httpAuth :: slots) sent (out.behind (some httpAuth)) where
  inv := by
    obtain ⟨hok, hapart, -⟩ := inv_cons_iff.1 hinv
    refine inv_cons_iff.2 ⟨hrest.others httpAuth hapart hok, ?_, hrest.inv⟩
    rw [hrest.same]
    exact hapart
  same := by
    show httpAuth.wa :: challenges out.httpAuths = httpAuth.wa :: challenges slots
    rw [hrest.same]
  others other hother hok :=
    hrest.others other (fun wa hwa => hother wa (List.mem_cons_of_mem _ hwa)) hok

theorem StoredKept.answered {slots : HttpAuths} {out : Authenticated} {code : Int}
    (hinv : Inv hash (some httpAuth :: slots) sent)
    (h : credentials.header hash httpAuth.wa cNonce n = .ok aut)
    (hrest : StoredKept hash slots (sent ++ [aut]) out) :
    StoredKept hash (some httpAuth :: slots) sent
      ((out.behind (some { httpAuth with iNonceCount := httpAuth.iNonceCount + 1 })).after code aut) := by
  obtain ⟨hok, hapart, -⟩ := inv_cons_iff.1 hinv
  have hsent : sent ++ (aut :: out.added.map Prod.snd) = sent ++ [aut] ++ out.added.map Prod.snd := by
    rw [List.append_assoc, List.singleton_append]
  refine ⟨?_, ?_, fun other hother hother' => ?_⟩
  · show Inv hash (some _ :: out.httpAuths) (sent ++ (aut :: out.added.map Prod.snd))
    rw [hsent]
    refine inv_cons_iff.2 ⟨hrest.others _ hapart (hok.answer h), ?_, hrest.inv⟩
    rw [hrest.same]
    exact hapart
  · show httpAuth.wa :: challenges out.httpAuths = httpAuth.wa :: challenges slots
    rw [hrest.same]
  · show EntryOk hash (sent ++ (aut :: out.added.map Prod.snd)) other
    rw [hsent]
    have hfirst := hother'.concat (hother httpAuth.wa List.mem_cons_self) h
    exact hrest.others other (fun wa hwa => hother wa (List.mem_cons_of_mem _ hwa)) hfirst

theorem answerStored_kept {slots : HttpAuths} (hinv : Inv hash slots sent)
    (hcount : Countable slots req) :
    StoredKept hash slots sent (answerStored hash authinfos req username slots) := by
  induction slots generalizing sent with
  | nil => exact storedKept_unchanged hinv rfl rfl
  | cons slot slots ih =>
      cases slot with
      | none =>
          have hrest := ih (inv_none_iff.1 hinv) hcount
          exact ⟨inv_none_iff.2 hrest.inv, hrest.same, hrest.others⟩
      | some httpAuth =>
          obtain ⟨hok, hapart, hslots⟩ := inv_cons_iff.1 hinv
          have hcount' : Countable slots req := fun a ha => hcount a (List.mem_cons_of_mem _ ha)
          rw [answerStored]
          split
          · exact storedKept_unchanged hinv rfl rfl
          · next callId hcallId =>
              split
              · next hmatch =>
                  split
                  · exact storedKept_unchanged hinv rfl rfl
                  · next credentials _ =>
                      obtain ⟨aut, haut⟩ :=
                        hok.creates credentials httpAuth.pszCNonce (httpAuth.iNonceCount + 1)
                      dsimp only
                      rw [haut]
                      have hapart' : ∀ wa ∈ challenges slots, Apart wa httpAuth.wa :=
                        fun wa hwa => (hapart wa hwa).symm
                      have hplace (hqop : hasQop httpAuth.wa = true) :=
                        hcount httpAuth List.mem_cons_self callId hcallId hmatch hqop
                      refine StoredKept.answered hinv haut (ih (hslots.concat hapart' ?_ haut) hcount')
                      intro hqop
                      have hle := hplace hqop
                      have heq := hok.counted hqop
                      omega
              · exact StoredKept.behind hinv (ih hslots hcount')

/-! ### The table after a challenge and after a release -/

theorem entries_storeNonce (httpAuths : HttpAuths) (callId : Str) (wa : WwwAuthenticate) (code : Int) :
    ∃ (new : Option HttpAuth) (kept : List HttpAuth), kept.Sublist (entries httpAuths) ∧
      (entries (httpAuths.storeNonce callId wa code).2).Perm (new.toList ++ kept) ∧
      ∀ httpAuth ∈ new, httpAuth.wa = wa ∧ httpAuth.iNonceCount = 1 := by
  have hclone (f : WwwAuthenticate → HttpAuth) (hf : ∀ wa, (f wa).wa = wa ∧ (f wa).iNonceCount = 1) :
      ∀ httpAuth ∈ (osipWwwAuthenticateClone wa).toOption.map f,
        httpAuth.wa = wa ∧ httpAuth.iNonceCount = 1 := by
    intro httpAuth hmem
    unfold osipWwwAuthenticateClone cloneIf at hmem
    split at hmem
    · cases hmem
      exact hf wa
    · cases hmem
  unfold HttpAuths.storeNonce
  split
  · next renewed hrenewed =>
      obtain ⟨slot, kept, -, hkept, hperm⟩ := Machine.Slots.exists_perm_of_updateFirst hrenewed
      refine ⟨_, kept, hkept, hperm, fun httpAuth hmem => ?_⟩
      cases slot with
      | none => cases hmem
      | some old => exact hclone _ (fun wa => ⟨rfl, rfl⟩) httpAuth hmem
  · split
    · next filled hfilled =>
        obtain ⟨slot, kept, -, hkept, hperm⟩ := Machine.Slots.exists_perm_of_updateFirst hfilled
        refine ⟨_, kept, hkept, hperm, fun httpAuth hmem => ?_⟩
        unfold HttpAuth.new at hmem
        split at hmem
        · cases hmem
        · exact hclone _ (fun wa => ⟨rfl, rfl⟩) httpAuth hmem
    · exact ⟨none, entries httpAuths, List.Sublist.refl _, List.Perm.refl _, fun _ h => by cases h⟩

theorem Inv.storeNonce (hinv : Inv hash httpAuths sent)
    (hnew : ∀ httpAuth : HttpAuth, httpAuth.wa = wa → httpAuth.iNonceCount = 1 →
      EntryOk hash sent httpAuth)
    (hapart : ∀ wa' ∈ challenges httpAuths, Apart wa' wa) (callId : Str) (code : Int) :
    Inv hash (httpAuths.storeNonce callId wa code).2 sent := by
  obtain ⟨new, kept, hkept, hperm, hentry⟩ := entries_storeNonce httpAuths callId wa code
  refine ⟨fun httpAuth hmem => ?_, ?_, hinv.numbered, hinv.digested⟩
  · cases List.mem_append.1 (hperm.mem_iff.1 hmem) with
    | inl hmem =>
        have hof := hentry httpAuth (Option.mem_toList.1 hmem)
        exact hnew httpAuth hof.1 hof.2
    | inr hmem => exact hinv.entries httpAuth (hkept.subset hmem)
  · have hold : (kept.map HttpAuth.wa).Pairwise Apart := hinv.apart.sublist (hkept.map HttpAuth.wa)
    unfold challenges
    rw [(hperm.map HttpAuth.wa).pairwise_iff Apart.symm]
    cases new with
    | none => exact hold
    | some httpAuth =>
        have hof := hentry httpAuth rfl
        refine List.pairwise_cons.2 ⟨fun wa' hmem => ?_, hold⟩
        rw [hof.1]
        exact (hapart wa' ((hkept.map HttpAuth.wa).subset hmem)).symm

theorem Inv.release (hinv : Inv hash httpAuths sent) (callId : Option Str) :
    Inv hash (httpAuths.release callId) sent := by
  cases callId with
  | none => exact hinv
  | some callId =>
      have hsub : (Machine.Slots.entries (httpAuths.release (some callId))).Sublist
          (Machine.Slots.entries httpAuths) := by
        show (Machine.Slots.entries (httpAuths.deleteNonce callId).2).Sublist _
        rw [HttpAuths.entries_deleteNonce]
        exact List.eraseP_sublist
      exact ⟨fun httpAuth hmem => hinv.entries httpAuth (hsub.subset hmem),
        hinv.apart.sublist (hsub.map HttpAuth.wa), hinv.numbered, hinv.digested⟩

/-- What the loop over the challenges of a response keeps: nonces apart from all of them stay
fresh. -/
structure ChallengesKept (hash : HashFunctions) (was : List WwwAuthenticate)
    (sent : List AuthorizationHeader) (out : Authenticated) : Prop where
  inv : Inv hash out.httpAuths (sent ++ out.added.map Prod.snd)
  others : ∀ wa, (∀ wa' ∈ was, Apart wa wa') → Fresh sent wa →
    Fresh (sent ++ out.added.map Prod.snd) wa

theorem challengesKept_unchanged {was : List WwwAuthenticate} (h : Inv hash httpAuths sent)
    {out : Authenticated} (hslots : out.httpAuths = httpAuths) (hadded : out.added = []) :
    ChallengesKept hash was sent out where
  inv := h.unchanged hslots hadded
  others wa _ hfresh := by
    rw [hadded, List.map_nil, List.append_nil]
    exact hfresh

theorem ChallengesKept.after {was : List WwwAuthenticate} {out : Authenticated} {code : Int}
    (h : credentials.header hash wa cNonce n = .ok aut)
    (hrest : ChallengesKept hash was (sent ++ [aut]) out) :
    ChallengesKept hash (wa :: was) sent (out.after code aut) := by
  have hsent : sent ++ (out.after code aut).added.map Prod.snd =
      sent ++ [aut] ++ out.added.map Prod.snd := by
    rw [List.append_assoc, List.singleton_append]
    rfl
  refine ⟨hsent ▸ hrest.inv, fun other hother hfresh => ?_⟩
  rw [hsent]
  refine hrest.others other (fun wa' hwa' => hother wa' (List.mem_cons_of_mem _ hwa')) ?_
  exact hfresh.concat (hother wa List.mem_cons_self) h

theorem answerChallenges_kept {was : List WwwAuthenticate} (hinv : Inv hash httpAuths sent)
    (hfresh : ∀ wa ∈ was, Fresh sent wa) (hapart : was.Pairwise Apart) (code : Int) :
    ChallengesKept hash was sent (answerChallenges hash authinfos req username code was httpAuths) := by
  induction was generalizing httpAuths sent with
  | nil => exact challengesKept_unchanged hinv rfl rfl
  | cons wa was ih =>
      obtain ⟨hwa, hwas⟩ := List.pairwise_cons.1 hapart
      have hnew := hfresh wa List.mem_cons_self
      rw [answerChallenges]
      split
      · exact challengesKept_unchanged hinv rfl rfl
      · next credentials _ =>
          split
          · exact challengesKept_unchanged hinv rfl rfl
          · next aut haut =>
              have hstored : ∀ wa' ∈ challenges httpAuths, Apart wa' wa := by
                intro wa' hmem
                obtain ⟨httpAuth, hhttpAuth, rfl⟩ := List.mem_map.1 hmem
                exact hnew.apart (hinv.entries httpAuth hhttpAuth)
              have hsent : Inv hash httpAuths (sent ++ [aut]) := by
                refine hinv.concat hstored (fun hqop => ?_) haut
                have hnone : occurrences keyOf sent (nonceOf wa.nonce) = 0 := by
                  rw [Machine.occurrences_eq_zero]
                  intro header hmem hkey
                  rw [(hnew header hmem hkey).1] at hqop
                  cases hqop
                rw [hnone]
                exact ⟨rfl, Nat.zero_le _⟩
              have hrest : ∀ wa' ∈ was, Fresh (sent ++ [aut]) wa' := fun wa' hmem =>
                (hfresh wa' (List.mem_cons_of_mem _ hmem)).concat (hwa wa' hmem).symm haut
              split
              · split
                · exact ChallengesKept.after haut (challengesKept_unchanged hsent rfl rfl)
                · next callId _ =>
                    have hentry (httpAuth : HttpAuth) (hof : httpAuth.wa = wa)
                        (hcount : httpAuth.iNonceCount = 1) : EntryOk hash (sent ++ [aut]) httpAuth :=
                      entryOk_of_fresh hnew haut hof hcount
                    exact ChallengesKept.after haut
                      (ih (hsent.storeNonce hentry hstored callId code) hrest hwas)
              · exact ChallengesKept.after haut (ih hsent hrest hwas)

/-! ### The runs -/

theorem addAuthenticationInformation_inv (hinv : Inv hash httpAuths sent)
    {lastResponse : Option SipFields}
    (hallowed : Allowed ⟨httpAuths, sent⟩ (.authenticate authinfos req lastResponse)) :
    Inv hash (addAuthenticationInformation hash authinfos req httpAuths lastResponse).httpAuths
      (sent ++ (addAuthenticationInformation hash authinfos req httpAuths lastResponse).added.map
        Prod.snd) := by
  unfold addAuthenticationInformation
  split
  · exact hinv.unchanged rfl rfl
  · next username _ =>
      cases lastResponse with
      | none => exact (answerStored_kept hinv hallowed).inv
      | some response =>
          obtain ⟨hfresh, hapart⟩ := hallowed
          obtain ⟨hwww, hproxy, hboth⟩ := List.pairwise_append.1 hapart
          dsimp only
          split
          · exact hinv.unchanged rfl rfl
          · have hfirst : ChallengesKept hash response.wwwAuthenticates sent
                (answerChallenges hash authinfos req username 401 response.wwwAuthenticates httpAuths) :=
              answerChallenges_kept hinv (fun wa hmem => hfresh wa (List.mem_append_left _ hmem)) hwww 401
            split
            · exact hfirst.inv
            · have hrest : ∀ wa ∈ response.proxyAuthenticates, Fresh _ wa := fun wa hmem =>
                hfirst.others wa (fun wa' hwa' => (hboth wa' hwa' wa hmem).symm)
                  (hfresh wa (List.mem_append_right _ hmem))
              have hsecond : ChallengesKept hash response.proxyAuthenticates _
                  (answerChallenges hash authinfos req username 407 response.proxyAuthenticates _) :=
                answerChallenges_kept hfirst.inv hrest hproxy 407
              have hinv' := hsecond.inv
              rw [List.append_assoc, ← List.map_append] at hinv'
              exact hinv'

theorem inv_step (run : AuthRun) (input : AuthInput) (hallowed : Allowed run input)
    (hinv : Inv hash run.httpAuths run.sent) :
    Inv hash (run.step hash input).1.httpAuths (run.step hash input).1.sent := by
  cases input with
  | authenticate authinfos req lastResponse => exact addAuthenticationInformation_inv hinv hallowed
  | release callId => exact hinv.release callId

theorem Inv.counted (hinv : Inv hash httpAuths sent) : Counted hash sent where
  numbered := hinv.numbered
  noPairTwice := hinv.numbered.pairwise hex8_injective
  eightDigits header hmem := (hinv.digested header hmem).1
  digested header hmem := (hinv.digested header hmem).2

def register : SipFields :=
  { SipFields.init with
    sipMethod := some "REGISTER".toList
    reqUri := some (Dialog.sipUri "home" [])
    callId := some ⟨some "call1".toList, none⟩
    fromHeader := some ⟨none, some { Dialog.sipUri "home" [] with username := some "al".toList }, []⟩ }

def unauthorized : SipFields :=
  { SipFields.init with
    statusCode := 401
    wwwAuthenticates := [HttpAuths.challenge "\"home\""] }

def secret : List AuthInfo := [⟨"al".toList, "al".toList, "secret".toList, [], []⟩]

/-- A challenge, and `n` more requests. -/
def registrations (n : Nat) : List AuthInput :=
  .authenticate secret register (some unauthorized) ::
    List.replicate n (.authenticate secret register none)

def sentBy (inputs : List AuthInput) : List AuthorizationHeader :=
  (Machine.run (AuthRun.step Digest.firstCharacter) init inputs).1.sent

end AuthRun
end Exosip
