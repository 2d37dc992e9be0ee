import Exosip.Auth.Nonce
import Exosip.Dialog.Request
import Exosip.Parser.Part

/-! `_eXosip_create_proxy_authorization_header`: the answer to a Digest challenge, and what a
server computes from it. -/
namespace Exosip

open CString

abbrev Hash := Vector UInt8 16

/-- The hash functions: MD5, of which nothing is assumed, and the computation of the AKA
password, from the password, the nonces, the qop, the method, the URI and the version. -/
structure HashFunctions where
  md5 : Str → Hash
  digestCalcResponseAka : Str → Str → Option Str → Option Str → Str → Str → Nat → Str

namespace Digest

def cvtHex (bin : Hash) : Str :=
  bin.toList.flatMap fun byte => [Nat.digitChar (byte.toNat / 16), Nat.digitChar (byte.toNat % 16)]

def rawBytes (hash : Hash) : Str := hash.toList.map fun byte => Char.ofNat byte.toNat

def colon : Str := [':']

/-- The `HASHHEXLEN` characters of a buffer that is filled up with NULs. -/
def hashHex (s : Str) : Str := (s ++ List.replicate 32 '\x00').take 32

variable (hash : HashFunctions)

def digestCalcHA1 (alg userName realm password nonce : Str) (cNonce : Option Str) : Result Str :=
  let ha1 := hash.md5 (userName ++ colon ++ realm ++ colon ++ password)
  if osipStrcasecmp alg "md5-sess".toList then do
    let cNonce ← deref cNonce
    .ok (cvtHex (hash.md5 (rawBytes ha1 ++ colon ++ nonce ++ colon ++ cNonce)))
  else .ok (cvtHex ha1)

def digestCalcResponse (ha1 nonce : Str) (nonceCount cNonce qop : Option Str) (aka : Nat)
    (method digestUri hEntity : Str) : Result Str := do
  let ha1 := hashHex ha1
  let withQop (a2 : Str) : Result Str := do
    let ha2 := cvtHex (hash.md5 a2)
    if aka = 0 then
      let nonceCount ← deref nonceCount
      let cNonce ← deref cNonce
      let qop ← deref qop
      .ok (cvtHex (hash.md5 (ha1 ++ colon ++ nonce ++ colon ++ nonceCount ++ colon ++ cNonce ++ colon ++
        qop ++ colon ++ ha2)))
    else .ok (cvtHex (hash.md5 (ha1 ++ colon ++ nonce ++ colon ++ ha2)))
  let withoutQop : Result Str :=
    .ok (cvtHex (hash.md5 (ha1 ++ colon ++ nonce ++ colon ++
      cvtHex (hash.md5 (method ++ colon ++ digestUri)))))
  match qop with
  | none => withoutQop
  | some qop =>
      if osipStrcasecmp qop "auth-int".toList then
        withQop (method ++ colon ++ digestUri ++ colon ++ hashHex hEntity)
      else if osipStrcasecmp qop "auth".toList then withQop (method ++ colon ++ digestUri)
      else withoutQop

/-- `osip_strdup_without_quote`: behind a first quote the last character is taken off; a quote
alone makes it write before the copy. -/
def osipStrdupWithoutQuote : Str → Result Str
  | '"' :: [] => .error .fault
  | '"' :: ch => .ok ch.dropLast
  | ch => .ok ch

def quoted (s : Str) : Str := '"' :: s ++ ['"']

/-- `snprintf (szNonceCount, 9, "%.8i", iNonceCount)`. -/
def nonceCountText (iNonceCount : Int) : Str :=
  let digits := Nat.toDigits 10 iNonceCount.natAbs
  let sign : Str := if iNonceCount < 0 then ['-'] else []
  (sign ++ List.replicate (8 - digits.length) '0' ++ digits).take 8

/-- The name of the algorithm for the answer; the quoted one is not valid but used. -/
def algOf (algorithm : Option Str) : Except Int Str :=
  let names (alg : String) (algorithm : Str) : Bool :=
    osipStrcasecmp alg.toList algorithm || osipStrcasecmp (quoted alg.toList) algorithm
  match algorithm with
  | none => .ok "MD5".toList
  | some algorithm =>
      if names "MD5" algorithm then .ok "MD5".toList
      else if names "AKAv1-MD5" algorithm then .ok "AKAv1-MD5".toList
      else if names "AKAv2-MD5" algorithm then .ok "AKAv2-MD5".toList
      else .error osipUndefinedError

/-- Whether a qop is put into the answer; options of less than 4 characters count as none. -/
def qopOf (qopOptions : Option Str) : Option Str :=
  if qopOptions.all (·.length < 4) then none else some "auth".toList

/-- `osip_proxy_authorization_init`. -/
def authorizationInit : AuthorizationHeader :=
  { authType := none, username := none, realm := none, nonce := none, uri := none,
    response := none, digest := none, algorithm := none, cnonce := none, opaqueValue := none,
    messageQop := none, nonceCount := none, version := none, targetname := none,
    gssapiData := none, crand := none, cnum := none }

/-- H(A1) of the credentials: one that is configured takes the place of the computed one. -/
def ha1Of (username realm password nonce : Str) (cNonce ha1 : Option Str) : Result Str :=
  match ha1 with
  | some (c :: ha1) => .ok (c :: ha1)
  | _ => digestCalcHA1 hash "MD5".toList username realm password nonce cNonce

/-- The hash that is put into the answer. -/
def responseOf (alg username realm passwd : Str) (ha1 : Option Str) (nonce : Str)
    (nonceCount cNonce qop : Option Str) (method uri : Str) : Result Str := do
  if osipStrcasecmp alg "MD5".toList then
    let pha1 ← ha1Of hash username realm passwd nonce cNonce ha1
    digestCalcResponse hash pha1 nonce nonceCount cNonce qop 0 method uri []
  else
    let version := if osipStrcasecmp alg "AKAv1-MD5".toList then 1 else 2
    let response2 := hash.digestCalcResponseAka passwd nonce cNonce qop method uri version
    let pha1 ← ha1Of hash username realm response2 nonce cNonce ha1
    digestCalcResponse hash pha1 nonce nonceCount cNonce qop version method uri []

def answer (wa : WwwAuthenticate) (rquri username alg cNonce : Str) (iNonceCount : Int)
    (response : Str) : AuthorizationHeader :=
  let qop := qopOf wa.qopOptions
  { authorizationInit with
    authType := some "Digest".toList
    realm := some (wa.realm.getD (quoted []))
    nonce := wa.nonce
    opaqueValue := wa.opaqueValue
    username := some (quoted username)
    uri := some (quoted rquri)
    algorithm := some alg
    messageQop := qop
    nonceCount := qop.map fun _ => nonceCountText iNonceCount
    cnonce := qop.map fun _ => quoted cNonce
    response := some ((quoted response).take 34) }

/-- `_eXosip_create_proxy_authorization_header`. -/
def createProxyAuthorizationHeader (wa : Option WwwAuthenticate) (rquri username : Str)
    (passwd ha1 : Option Str) (method cNonce : Str) (iNonceCount : Int) :
    Result AuthorizationHeader := do
  match passwd, wa with
  | some passwd, some wa =>
      match wa.authType, wa.nonce with
      | some authType, some nonce =>
          if ¬ osipStrcasecmp "Digest".toList authType then .error (.code osipUndefinedError)
          else
            let alg ← SipFields.returnCode (algOf wa.algorithm)
            let realm ← osipStrdupWithoutQuote (wa.realm.getD (quoted []))
            let nonce ← osipStrdupWithoutQuote nonce
            let qop := qopOf wa.qopOptions
            let nonceCount := qop.map fun _ => nonceCountText iNonceCount
            let response ← responseOf hash alg username realm passwd ha1 nonce nonceCount
              (qop.map fun _ => cNonce) qop method rquri
            .ok (answer wa rquri username alg cNonce iNonceCount response)
      | _, _ => .error (.code osipSyntaxerror)
  | _, _ => .error (.code osipBadparameter)

/-! ### What a server reads in the answer -/

def HasValue (field : Option Str) (value : Str) : Prop :=
  field = some (quoted value) ∨ (field = some value ∧ value.head? ≠ some '"')

/-- The response that a server expects for the algorithm MD5; with a qop, to the nonce count, the
client nonce and the qop. -/
def expectedResponse (username realm passwd nonce method uri : Str) (qop : Option (Str × Str × Str)) :
    Str :=
  let ha1 := cvtHex (hash.md5 (username ++ colon ++ realm ++ colon ++ passwd))
  let ha2 := cvtHex (hash.md5 (method ++ colon ++ uri))
  match qop with
  | none => cvtHex (hash.md5 (ha1 ++ colon ++ nonce ++ colon ++ ha2))
  | some (nc, cnonce, qop) =>
      cvtHex (hash.md5 (ha1 ++ colon ++ nonce ++ colon ++ nc ++ colon ++ cnonce ++ colon ++ qop ++
        colon ++ ha2))

def QopFields (header : AuthorizationHeader) : Option (Str × Str × Str) → Prop
  | none => header.nonceCount = none ∧ header.cnonce = none ∧ header.messageQop = none
  | some (nc, cnonce, qop) =>
      header.nonceCount = some nc ∧ HasValue header.cnonce cnonce ∧ header.messageQop = some qop

/-- The response is the one for the values of the fields, the password and the method. -/
def SelfConsistent (header : AuthorizationHeader) (passwd method : Str) : Prop :=
  ∃ username realm nonce uri qop,
    HasValue header.username username ∧ HasValue header.realm realm ∧
      HasValue header.nonce nonce ∧ HasValue header.uri uri ∧ QopFields header qop ∧
      HasValue header.response (expectedResponse hash username realm passwd nonce method uri qop)

/-- The options in the list of a challenge. -/
def offered (qopOptions : Option Str) : List Str :=
  match qopOptions with
  | none => []
  | some qopOptions =>
      (((Multipart.unquoted qopOptions).splitOn ',').map osipClrspace).filter (· ≠ [])

/-- The qop of the answer is one of those offered. -/
def QopOffered (wa : WwwAuthenticate) (header : AuthorizationHeader) : Prop :=
  ∀ qop ∈ header.messageQop, ∃ option ∈ offered wa.qopOptions, osipStrcasecmp option qop = true

/-- A Digest challenge with a nonce, for the algorithm MD5. -/
structure IsMd5Challenge (wa : WwwAuthenticate) : Prop where
  digest : ∃ authType, wa.authType = some authType ∧ osipStrcasecmp "Digest".toList authType = true
  nonce : wa.nonce.isSome = true
  md5 : algOf wa.algorithm = .ok "MD5".toList

def WellQuoted (field : Str) : Prop := field.head? = some '"' → ∃ value, field = quoted value

/-- The challenge offers auth, or the list is so short that it counts as none, and the realm and
the nonce are quoted as the grammar has it. -/
def Answerable (wa : WwwAuthenticate) : Prop :=
  (∀ realm ∈ wa.realm, WellQuoted realm) ∧ (∀ nonce ∈ wa.nonce, WellQuoted nonce) ∧
    (wa.qopOptions.all (·.length < 4) = true ∨
      ∃ option ∈ offered wa.qopOptions, osipStrcasecmp option "auth".toList = true)

theorem length_cvtHex (bin : Hash) : (cvtHex bin).length = 32 := by
  have hlength (bytes : List UInt8) :
      (bytes.flatMap fun byte =>
        [Nat.digitChar (byte.toNat / 16), Nat.digitChar (byte.toNat % 16)]).length =
        2 * bytes.length := by
    induction bytes with
    | nil => rfl
    | cons byte bytes ih =>
        rw [List.flatMap_cons, List.length_append, ih, List.length_cons, List.length_cons,
          List.length_cons, List.length_nil]
        omega
  rw [cvtHex, hlength, Vector.length_toList]

theorem hashHex_cvtHex (bin : Hash) : hashHex (cvtHex bin) = cvtHex bin := by
  rw [hashHex, ← length_cvtHex bin, List.take_left]

theorem osipStrdupWithoutQuote_quoted (s : Str) : osipStrdupWithoutQuote (quoted s) = .ok s := by
  cases s with
  | nil => rfl
  | cons c s =>
      show Except.ok (c :: s ++ ['"']).dropLast = _
      rw [List.dropLast_concat]

theorem osipStrdupWithoutQuote_plain {s : Str} (h : s.head? ≠ some '"') :
    osipStrdupWithoutQuote s = .ok s := by
  cases s with
  | nil => rfl
  | cons c s =>
      have hc : c ≠ '"' := fun hquote => h (by rw [hquote, List.head?_cons])
      unfold osipStrdupWithoutQuote
      simp [hc]

theorem exists_hasValue_iff {field : Str} :
    (∃ value, HasValue (some field) value) ↔ WellQuoted field := by
  unfold HasValue WellQuoted
  simp only [Option.some.injEq]
  by_cases hquote : field.head? = some '"'
  · refine ⟨fun h _ => ?_, fun h => ?_⟩
    · obtain ⟨value, hvalue⟩ := h
      cases hvalue with
      | inl hquoted => exact ⟨value, hquoted⟩
      | inr hplain => exact absurd (hplain.1 ▸ hquote) hplain.2
    · obtain ⟨value, hvalue⟩ := h hquote
      exact ⟨value, .inl hvalue⟩
  · exact iff_of_true ⟨field, .inr ⟨rfl, hquote⟩⟩ fun h => absurd h hquote

theorem osipStrdupWithoutQuote_of_hasValue {field value : Str} (h : HasValue (some field) value) :
    osipStrdupWithoutQuote field = .ok value := by
  cases h with
  | inl hquoted => rw [Option.some.inj hquoted, osipStrdupWithoutQuote_quoted]
  | inr hplain =>
      rw [Option.some.inj hplain.1]
      exact osipStrdupWithoutQuote_plain hplain.2

theorem hasValue_quoted (value : Str) : HasValue (some (quoted value)) value := .inl rfl

variable {hash}

theorem ha1Of_password {ha1 : Option Str} (hempty : ha1 = none ∨ ha1 = some [])
    (username realm passwd nonce : Str) (cNonce : Option Str) :
    ha1Of hash username realm passwd nonce cNonce ha1 =
      .ok (cvtHex (hash.md5 (username ++ colon ++ realm ++ colon ++ passwd))) := by
  cases hempty with
  | inl hnone => rw [hnone]; rfl
  | inr hnil => rw [hnil]; rfl

theorem responseOf_md5 {ha1 : Option Str} (hempty : ha1 = none ∨ ha1 = some [])
    (username realm passwd nonce nc cnonce method uri : Str) (qopOptions : Option Str) :
    responseOf hash "MD5".toList username realm passwd ha1 nonce
        ((qopOf qopOptions).map fun _ => nc) ((qopOf qopOptions).map fun _ => cnonce)
        (qopOf qopOptions) method uri =
      .ok (expectedResponse hash username realm passwd nonce method uri
        ((qopOf qopOptions).map fun qop => (nc, cnonce, qop))) := by
  have hmd5 : osipStrcasecmp "MD5".toList "MD5".toList = true := beq_self_eq_true _
  have hauth : osipStrcasecmp "auth".toList "auth".toList = true := beq_self_eq_true _
  have hint : osipStrcasecmp "auth".toList "auth-int".toList = false := by decide
  unfold responseOf digestCalcResponse
  rw [if_pos hmd5, ha1Of_password hempty, ok_bind]
  dsimp only
  rw [hashHex_cvtHex]
  unfold qopOf
  by_cases hshort : qopOptions.all (·.length < 4) = true
  · rw [if_pos hshort]
    rfl
  · rw [if_neg hshort]
    dsimp only [Option.map_some]
    rw [hint, hauth]
    rfl

theorem create_eq_ok_iff {wa : WwwAuthenticate} {rquri username passwd method cNonce : Str}
    {ha1 : Option Str} {n : Int} {header : AuthorizationHeader} :
    createProxyAuthorizationHeader hash (some wa) rquri username (some passwd) ha1 method cNonce n =
        .ok header ↔
      ∃ authType field alg realm nonce response, wa.authType = some authType ∧
        wa.nonce = some field ∧ osipStrcasecmp "Digest".toList authType = true ∧
        algOf wa.algorithm = .ok alg ∧
        osipStrdupWithoutQuote (wa.realm.getD (quoted [])) = .ok realm ∧
        osipStrdupWithoutQuote field = .ok nonce ∧
        responseOf hash alg username realm passwd ha1 nonce
          ((qopOf wa.qopOptions).map fun _ => nonceCountText n)
          ((qopOf wa.qopOptions).map fun _ => cNonce) (qopOf wa.qopOptions) method rquri =
            .ok response ∧
        answer wa rquri username alg cNonce n response = header := by
  unfold createProxyAuthorizationHeader
  dsimp only
  constructor
  · intro h
    split at h
    · next authType field htype hfield =>
        split at h
        · cases h
        · next hdigest =>
            obtain ⟨alg, halg, h⟩ := exists_ok_bind.1 h
            obtain ⟨realm, hrealm, h⟩ := exists_ok_bind.1 h
            obtain ⟨nonce, hnonce, h⟩ := exists_ok_bind.1 h
            obtain ⟨response, hresponse, h⟩ := exists_ok_bind.1 h
            exact ⟨authType, field, alg, realm, nonce, response, htype, hfield,
              not_not.1 hdigest, returnCode_eq_ok.1 halg, hrealm, hnonce, hresponse,
              Except.ok.inj h⟩
    · cases h
  · intro h
    obtain ⟨authType, field, alg, realm, nonce, response, htype, hfield, hdigest, halg, hrealm,
      hnonce, hresponse, rfl⟩ := h
    rw [htype, hfield]
    dsimp only
    rw [if_neg (not_not_intro hdigest), halg]
    dsimp only [SipFields.returnCode, Except.mapError]
    rw [ok_bind, hrealm, ok_bind, hnonce, ok_bind, hresponse, ok_bind]

theorem fields_of_create {wa : WwwAuthenticate} {rquri username passwd method cNonce : Str}
    {ha1 : Option Str} {n : Int} {header : AuthorizationHeader}
    (h : createProxyAuthorizationHeader hash (some wa) rquri username (some passwd) ha1 method
      cNonce n = .ok header) :
    header.realm = some (wa.realm.getD (quoted [])) ∧ header.nonce = wa.nonce ∧
      header.messageQop = qopOf wa.qopOptions ∧
      header.nonceCount = (qopOf wa.qopOptions).map fun _ => nonceCountText n := by
  obtain ⟨authType, field, alg, realm, nonce, response, -, -, -, -, -, -, -, rfl⟩ :=
    create_eq_ok_iff.1 h
  exact ⟨rfl, rfl, rfl, rfl⟩

variable (hash) in
theorem create_of_hasValue {wa : WwwAuthenticate} (hmd5 : IsMd5Challenge wa) {ha1 : Option Str}
    (hempty : ha1 = none ∨ ha1 = some []) {realm nonce : Str}
    (hrealm : HasValue (some (wa.realm.getD (quoted []))) realm) (hnonce : HasValue wa.nonce nonce)
    (rquri username passwd method cNonce : Str) (n : Int) :
    ∃ header, createProxyAuthorizationHeader hash (some wa) rquri username (some passwd) ha1 method
        cNonce n = .ok header ∧ SelfConsistent hash header passwd method := by
  obtain ⟨authType, htype, hdigest⟩ := hmd5.digest
  obtain ⟨field, hfield⟩ := Option.isSome_iff_exists.1 hmd5.nonce
  let qop := (qopOf wa.qopOptions).map fun qop => (nonceCountText n, cNonce, qop)
  let response := expectedResponse hash username realm passwd nonce method rquri qop
  have hlength : response.length = 32 := by
    show (expectedResponse hash username realm passwd nonce method rquri qop).length = 32
    cases qop with
    | none => exact length_cvtHex _
    | some qop => exact length_cvtHex _
  have hcreate : createProxyAuthorizationHeader hash (some wa) rquri username (some passwd) ha1
      method cNonce n = .ok (answer wa rquri username "MD5".toList cNonce n response) :=
    create_eq_ok_iff.2 ⟨authType, field, "MD5".toList, realm, nonce, response, htype, hfield,
      hdigest, hmd5.md5, osipStrdupWithoutQuote_of_hasValue hrealm,
      osipStrdupWithoutQuote_of_hasValue (hfield ▸ hnonce),
      responseOf_md5 hempty username realm passwd nonce _ cNonce method rquri wa.qopOptions, rfl⟩
  have hqop : QopFields (answer wa rquri username "MD5".toList cNonce n response) qop := by
    unfold answer
    cases hcase : qopOf wa.qopOptions with
    | none => simp [qop, hcase, QopFields]
    | some q => simp [qop, hcase, QopFields, hasValue_quoted]
  have hresponse : (quoted response).take 34 = quoted response := by
    apply List.take_of_length_le
    simp [quoted, hlength]
  exact ⟨_, hcreate, username, realm, nonce, rquri, qop, hasValue_quoted _, hrealm, hnonce,
    hasValue_quoted _, hqop, .inl (congrArg some hresponse)⟩

theorem qopOffered_iff {wa : WwwAuthenticate} {header : AuthorizationHeader}
    (h : header.messageQop = qopOf wa.qopOptions) :
    QopOffered wa header ↔ wa.qopOptions.all (·.length < 4) = true ∨
      ∃ option ∈ offered wa.qopOptions, osipStrcasecmp option "auth".toList = true := by
  unfold QopOffered
  rw [h, qopOf]
  by_cases hshort : wa.qopOptions.all (·.length < 4) = true
  · rw [if_pos hshort]
    exact iff_of_true (fun qop hqop => by cases hqop) (.inl hshort)
  · rw [if_neg hshort, or_iff_right hshort]
    simp

/-- A header is built that is consistent and takes an offered qop, exactly for the challenges
that are answerable. -/
theorem consistent_iff (hash : HashFunctions) {wa : WwwAuthenticate} (hmd5 : IsMd5Challenge wa)
    {ha1 : Option Str} (hempty : ha1 = none ∨ ha1 = some [])
    (rquri username passwd method cNonce : Str) (n : Int) :
    (∃ header, createProxyAuthorizationHeader hash (some wa) rquri username (some passwd) ha1 method
        cNonce n = .ok header ∧ SelfConsistent hash header passwd method ∧ QopOffered wa header) ↔
      Answerable wa := by
  constructor
  · intro h
    obtain ⟨header, hcreate, hconsistent, hoffered⟩ := h
    obtain ⟨-, realm, nonce, -, -, -, hrealm, hnonce, -⟩ := hconsistent
    obtain ⟨hr, hn, hqop, -⟩ := fields_of_create hcreate
    refine ⟨fun field hfield => ?_, fun field hfield => ?_, (qopOffered_iff hqop).1 hoffered⟩
    · rw [hr, Option.mem_def.1 hfield] at hrealm
      exact exists_hasValue_iff.1 ⟨realm, hrealm⟩
    · rw [hn, Option.mem_def.1 hfield] at hnonce
      exact exists_hasValue_iff.1 ⟨nonce, hnonce⟩
  · intro h
    have hrealm : ∃ realm, HasValue (some (wa.realm.getD (quoted []))) realm := by
      cases hfield : wa.realm with
      | none => exact ⟨[], hasValue_quoted []⟩
      | some field => exact exists_hasValue_iff.2 (h.1 field hfield)
    have hnonce : ∃ nonce, HasValue wa.nonce nonce := by
      obtain ⟨field, hfield⟩ := Option.isSome_iff_exists.1 hmd5.nonce
      rw [hfield]
      exact exists_hasValue_iff.2 (h.2.1 field hfield)
    obtain ⟨realm, hrealm⟩ := hrealm
    obtain ⟨nonce, hnonce⟩ := hnonce
    obtain ⟨header, hcreate, hconsistent⟩ := create_of_hasValue hash hmd5 hempty hrealm hnonce
      rquri username passwd method cNonce n
    exact ⟨header, hcreate, hconsistent, (qopOffered_iff (fields_of_create hcreate).2.2.1).2 h.2.2⟩

def firstCharacter : HashFunctions where
  md5 s := Vector.replicate 16 (UInt8.ofNat (s.headD ' ').toNat)
  digestCalcResponseAka _ _ _ _ _ _ _ := []

theorem isMd5Challenge_challenge (realm : String) : IsMd5Challenge (HttpAuths.challenge realm) where
  digest := ⟨_, rfl, beq_self_eq_true _⟩
  nonce := rfl
  md5 := rfl

theorem consistent_home :
    ∃ header, createProxyAuthorizationHeader firstCharacter
        (some (HttpAuths.challenge "\"home\"")) "sip:home".toList "al".toList
        (some "secret".toList) none "REGISTER".toList "0a4f113b".toList 1 = .ok header ∧
      SelfConsistent firstCharacter header "secret".toList "REGISTER".toList ∧
      QopOffered (HttpAuths.challenge "\"home\"") header := by
  refine (consistent_iff firstCharacter (isMd5Challenge_challenge _) (.inl rfl) _ _ _ _ _ _).2 ?_
  refine ⟨fun realm hrealm _ => ?_, fun nonce hnonce _ => ?_, .inr ?_⟩
  · cases hrealm
    exact ⟨"home".toList, rfl⟩
  · cases hnonce
    exact ⟨"84a4cc6f".toList, rfl⟩
  · exact ⟨"auth".toList, by decide +kernel, by decide⟩

/-- A challenge that offers auth-int only gets an answer for auth. -/
theorem not_consistent :
    ¬ ∀ (hash : HashFunctions) (wa : WwwAuthenticate), IsMd5Challenge wa →
      ∀ (rquri username passwd method : Str),
        ∃ header, createProxyAuthorizationHeader hash (some wa) rquri username (some passwd) none
            method "0a4f113b".toList 1 = .ok header ∧
          SelfConsistent hash header passwd method ∧ QopOffered wa header := by
  intro h
  have hmd5 : IsMd5Challenge
      { HttpAuths.challenge "\"home\"" with qopOptions := some "\"auth-int\"".toList } :=
    ⟨⟨_, rfl, beq_self_eq_true _⟩, rfl, rfl⟩
  obtain ⟨header, hcreate, -, hoffered⟩ := h firstCharacter _ hmd5 [] [] [] []
  cases (qopOffered_iff (fields_of_create hcreate).2.2.1).1 hoffered with
  | inl hshort => revert hshort; decide +kernel
  | inr hauth => revert hauth; decide +kernel

end Digest
end Exosip
