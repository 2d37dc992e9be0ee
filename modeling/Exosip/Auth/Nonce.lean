import Exosip.Machine.Run
import Exosip.Machine.Slots
import Exosip.Parser.SipMessage

/-! The table of stored challenges: `_eXosip_store_nonce`, `_eXosip_delete_nonce` and the
functions that release a call, a registration, a subscription or a publication. -/
namespace Exosip

open CString
open Machine.Slots (updateFirst entries)

abbrev osipNotfound : Int := -6

/-- A slot of `http_auths` that is taken, with the call-id that it was stored for: the field
`pszCallId` keeps the first 63 characters. -/
structure HttpAuth where
  callId : Str
  wa : WwwAuthenticate
  pszCNonce : Str
  iNonceCount : Int
  answerCode : Int
  deriving DecidableEq, Repr

/-- A slot is free when its `pszCallId` is empty. -/
abbrev HttpAuths := List (Option HttpAuth)

namespace HttpAuth

def pszCallId (httpAuth : HttpAuth) : Str := httpAuth.callId.take 63

def sameRealm (realm1 realm2 : Option Str) : Bool :=
  match realm1, realm2 with
  | none, none => true
  | some realm1, some realm2 => osipStrcasecmp realm1 realm2
  | _, _ => false

/-- The entry that a challenge updates. -/
def isFor (callId : Str) (realm : Option Str) (httpAuth : HttpAuth) : Bool :=
  osipStrcasecmp httpAuth.pszCallId callId && sameRealm httpAuth.wa.realm realm

/-- The slot is cleared when the challenge cannot be cloned. -/
def renew (wa : WwwAuthenticate) (httpAuth : HttpAuth) : Option HttpAuth :=
  (osipWwwAuthenticateClone wa).toOption.map fun wa => { httpAuth with wa, iNonceCount := 1 }

/-- A slot that is filled for an empty call-id counts as free. -/
def new (callId : Str) (wa : WwwAuthenticate) (answerCode : Int) : Option HttpAuth :=
  if callId = [] then none
  else (osipWwwAuthenticateClone wa).toOption.map fun wa =>
    ⟨callId, wa, "0a4f113b".toList, 1, answerCode⟩

end HttpAuth

namespace HttpAuths

def init : HttpAuths := List.replicate 100 none

/-- `_eXosip_store_nonce`. -/
def storeNonce (httpAuths : HttpAuths) (callId : Str) (wa : WwwAuthenticate) (answerCode : Int) :
    Int × HttpAuths :=
  match updateFirst (Option.any (HttpAuth.isFor callId wa.realm)) (·.bind (HttpAuth.renew wa))
      httpAuths with
  | some httpAuths => (osipSuccess, httpAuths)
  | none =>
      match updateFirst Option.isNone (fun _ => HttpAuth.new callId wa answerCode) httpAuths with
      | some httpAuths => (osipSuccess, httpAuths)
      | none => (osipUndefinedError, httpAuths)

/-- `_eXosip_delete_nonce`. -/
def deleteNonce (httpAuths : HttpAuths) (callId : Str) : Int × HttpAuths :=
  match updateFirst (Option.any fun httpAuth => osipStrcasecmp httpAuth.pszCallId callId)
      (fun _ => none) httpAuths with
  | some httpAuths => (osipSuccess, httpAuths)
  | none => (osipNotfound, httpAuths)

def callIdNumber (origRequest : Option SipFields) : Option Str :=
  origRequest.bind fun request => request.callId.bind fun callId => callId.number

def release (httpAuths : HttpAuths) (callId : Option Str) : HttpAuths :=
  match callId with
  | none => httpAuths
  | some callId => (httpAuths.deleteNonce callId).2

end HttpAuths

/-- What is done to the table. A release comes with the original requests of the transactions
that it looks at. -/
inductive NonceOp where
  | storeNonce (callId : Str) (wa : WwwAuthenticate) (answerCode : Int)
  | deleteNonce (callId : Str)
  | callFree (incTr outTr : Option SipFields)
  | subscriptionFree (incTr outTr : Option SipFields)
  | notifyFree (incTr outTr : Option SipFields)
  | regFree (lastTr : Option SipFields)
  | pubFree (lastTr : Option SipFields)

namespace NonceOp

open HttpAuths (callIdNumber)

def deletes : NonceOp → Option Str
  | storeNonce _ _ _ => none
  | deleteNonce callId => some callId
  | callFree incTr outTr => (callIdNumber incTr).or (callIdNumber outTr)
  | subscriptionFree incTr outTr => (callIdNumber incTr).or (callIdNumber outTr)
  | notifyFree incTr outTr => (callIdNumber incTr).or (callIdNumber outTr)
  | regFree lastTr => callIdNumber lastTr
  | pubFree lastTr => callIdNumber lastTr

/-- The table after the operation, and what a call of the table itself returns. -/
def step (httpAuths : HttpAuths) (op : NonceOp) : HttpAuths × List Int :=
  match op with
  | storeNonce callId wa answerCode =>
      let stored := httpAuths.storeNonce callId wa answerCode
      (stored.2, [stored.1])
  | deleteNonce callId =>
      let deleted := httpAuths.deleteNonce callId
      (deleted.2, [deleted.1])
  | op => (httpAuths.release op.deletes, [])

end NonceOp

namespace HttpAuths

/-! ### The table as a map -/

/-- Call-ids and realms count as equal whatever their case. -/
def keyOf (callId : Str) (realm : Option Str) : Str × Option Str :=
  (callId.map tolower, realm.map fun realm => realm.map tolower)

def key (httpAuth : HttpAuth) : Str × Option Str := keyOf httpAuth.callId httpAuth.wa.realm

/-- At most one live entry for each pair of a call-id and a realm. -/
def IsMap (httpAuths : HttpAuths) : Prop := Machine.Slots.Unique key httpAuths

instance (httpAuths : HttpAuths) : Decidable httpAuths.IsMap :=
  inferInstanceAs (Decidable (Machine.Slots.Unique key httpAuths))

def under (httpAuths : HttpAuths) (callId : Str) : List HttpAuth :=
  (entries httpAuths).filter fun httpAuth => osipStrcasecmp httpAuth.callId callId

/-- After the operation the table is a map, without an entry of the call-id that was deleted. -/
def Kept (httpAuths : HttpAuths) (op : NonceOp) : Prop :=
  (op.step httpAuths).1.IsMap ∧ ∀ callId ∈ op.deletes, (op.step httpAuths).1.under callId = []

/-- A challenge may bring a new entry only for a pair that has none; with a call-id that fits
into the field this is so. -/
def Storable (httpAuths : HttpAuths) (callId : Str) (wa : WwwAuthenticate) : Prop :=
  callId.length ≤ 63 ∨ keyOf callId wa.realm ∉ (entries httpAuths).map key ∨
    wa.complete = false ∨ none ∉ httpAuths

/-- The call-id has no entry, or only one, and the first entry whose field is that call-id is
this one. -/
def Deletable (httpAuths : HttpAuths) (callId : Str) : Prop :=
  httpAuths.under callId = [] ∨
    ∃ httpAuth, httpAuths.under callId = [httpAuth] ∧
      (entries httpAuths).find? (fun a => osipStrcasecmp a.pszCallId callId) = some httpAuth

def Allowed (httpAuths : HttpAuths) : NonceOp → Prop
  | .storeNonce callId wa _ => httpAuths.Storable callId wa
  | op => ∀ callId ∈ op.deletes, httpAuths.Deletable callId

theorem strcasecmp_iff {s t : Str} : osipStrcasecmp s t = true ↔ s.map tolower = t.map tolower :=
  beq_iff_eq

theorem sameRealm_iff {realm1 realm2 : Option Str} :
    HttpAuth.sameRealm realm1 realm2 = true ↔
      realm1.map (fun realm => realm.map tolower) = realm2.map fun realm => realm.map tolower := by
  cases realm1 with
  | none => cases realm2 <;> simp [HttpAuth.sameRealm]
  | some realm1 => cases realm2 <;> simp [HttpAuth.sameRealm, strcasecmp_iff]

theorem length_eq_of_strcasecmp {s t : Str} (h : osipStrcasecmp s t = true) :
    s.length = t.length := by
  have hlength := congrArg List.length (strcasecmp_iff.1 h)
  rwa [List.length_map, List.length_map] at hlength

theorem length_le_of_isFor {callId : Str} {realm : Option Str} {httpAuth : HttpAuth}
    (h : HttpAuth.isFor callId realm httpAuth = true) : callId.length ≤ 63 := by
  unfold HttpAuth.isFor at h
  rw [Bool.and_eq_true] at h
  rw [← length_eq_of_strcasecmp h.1, HttpAuth.pszCallId, List.length_take]
  exact Nat.min_le_left _ _

theorem isFor_of_key {callId : Str} {realm : Option Str} {httpAuth : HttpAuth}
    (hfits : callId.length ≤ 63) (h : key httpAuth = keyOf callId realm) :
    HttpAuth.isFor callId realm httpAuth = true := by
  unfold key keyOf at h
  have hcall : osipStrcasecmp httpAuth.callId callId = true := strcasecmp_iff.2 (Prod.ext_iff.1 h).1
  have hrealm := sameRealm_iff.2 (Prod.ext_iff.1 h).2
  have hfield : httpAuth.pszCallId = httpAuth.callId := by
    apply List.take_of_length_le
    rw [length_eq_of_strcasecmp hcall]
    exact hfits
  rw [HttpAuth.isFor, hfield, hcall, hrealm, Bool.true_and]

theorem key_of_renew {callId : Str} {wa : WwwAuthenticate} {httpAuth renewed : HttpAuth}
    (hfor : HttpAuth.isFor callId wa.realm httpAuth = true)
    (h : renewed ∈ HttpAuth.renew wa httpAuth) : key renewed = key httpAuth := by
  unfold HttpAuth.renew osipWwwAuthenticateClone cloneIf at h
  unfold HttpAuth.isFor at hfor
  rw [Bool.and_eq_true] at hfor
  by_cases hcomplete : wa.complete = true
  · rw [if_pos hcomplete] at h
    cases h
    exact Prod.ext rfl (sameRealm_iff.1 hfor.2).symm
  · rw [if_neg hcomplete] at h
    cases h

theorem new_cases (callId : Str) (wa : WwwAuthenticate) (answerCode : Int) :
    (HttpAuth.new callId wa answerCode = none ∧ (callId = [] ∨ wa.complete = false)) ∨
      (∃ httpAuth, HttpAuth.new callId wa answerCode = some httpAuth ∧
        key httpAuth = keyOf callId wa.realm ∧ wa.complete = true) := by
  unfold HttpAuth.new osipWwwAuthenticateClone cloneIf
  by_cases hempty : callId = []
  · exact .inl ⟨if_pos hempty, .inl hempty⟩
  · rw [if_neg hempty]
    by_cases hcomplete : wa.complete = true
    · rw [if_pos hcomplete]
      exact .inr ⟨_, rfl, rfl, hcomplete⟩
    · rw [if_neg hcomplete]
      exact .inl ⟨rfl, .inr (Bool.eq_false_iff.2 hcomplete)⟩

variable {httpAuths : HttpAuths}

theorem isMap_storeNonce_iff (h : httpAuths.IsMap) (callId : Str) (wa : WwwAuthenticate)
    (answerCode : Int) :
    (httpAuths.storeNonce callId wa answerCode).2.IsMap ↔ httpAuths.Storable callId wa := by
  unfold storeNonce
  split
  · next renewed hrenewed =>
      have hmap : IsMap renewed := by
        refine Machine.Slots.unique_update ?_ hrenewed h
        intro slot htest b hb
        cases slot with
        | none => cases hb
        | some httpAuth =>
            have hfor : HttpAuth.isFor callId wa.realm httpAuth = true := htest
            exact ⟨httpAuth, rfl, (key_of_renew hfor hb).symm⟩
      obtain ⟨before, slot, after, -, -, htest, -⟩ := Machine.Slots.exists_of_updateFirst hrenewed
      cases slot with
      | none => cases htest
      | some httpAuth => exact iff_of_true hmap (.inl (length_le_of_isFor htest))
  · next hnone =>
      rw [Machine.Slots.updateFirst_eq_none] at hnone
      split
      · next filled hfilled =>
          cases new_cases callId wa answerCode with
          | inl hnew =>
              have hmap : IsMap filled := by
                refine Machine.Slots.unique_update ?_ hfilled h
                intro slot htest b hb
                rw [hnew.1] at hb
                cases hb
              cases hnew.2 with
              | inl hempty => exact iff_of_true hmap (.inl (by simp [hempty]))
              | inr hfails => exact iff_of_true hmap (.inr (.inr (.inl hfails)))
          | inr hnew =>
              obtain ⟨httpAuth, hentry, hkey, hcomplete⟩ := hnew
              obtain ⟨before, slot, after, hslots, -, hfree, -⟩ :=
                Machine.Slots.exists_of_updateFirst hfilled
              rw [hentry] at hfilled
              have hspace : none ∈ httpAuths := by
                rw [hslots, ← Option.isNone_iff_eq_none.1 hfree]
                exact List.mem_append_right _ List.mem_cons_self
              unfold IsMap
              rw [Machine.Slots.unique_fill_iff hfilled, hkey]
              refine ⟨fun hunique => .inr (.inl hunique.2), fun hstorable => ⟨h, ?_⟩⟩
              rcases hstorable with hfits | hnew | hfails | hfull
              · intro hmem
                obtain ⟨old, hold, hsame⟩ := List.mem_map.1 hmem
                have htest := hnone (some old) (Machine.Slots.mem_entries.1 hold)
                rw [Option.any_some, isFor_of_key hfits hsame] at htest
                cases htest
              · exact hnew
              · rw [hfails] at hcomplete
                cases hcomplete
              · exact absurd hspace hfull
      · next hfull =>
          rw [Machine.Slots.updateFirst_eq_none] at hfull
          refine iff_of_true h (.inr (.inr (.inr fun hmem => ?_)))
          cases hfull none hmem

theorem entries_deleteNonce (httpAuths : HttpAuths) (callId : Str) :
    entries (httpAuths.deleteNonce callId).2 =
      (entries httpAuths).eraseP fun a => osipStrcasecmp a.pszCallId callId := by
  rw [← Machine.Slots.entries_updateFirst_none, deleteNonce]
  cases updateFirst (Option.any fun a => osipStrcasecmp a.pszCallId callId) (fun _ => none)
    httpAuths with
  | none => rfl
  | some rest => rfl

theorem isMap_deleteNonce (h : httpAuths.IsMap) (callId : Str) :
    (httpAuths.deleteNonce callId).2.IsMap := by
  unfold IsMap Machine.Slots.Unique at h ⊢
  rw [entries_deleteNonce]
  exact h.sublist (List.eraseP_sublist.map key)

theorem under_deleteNonce_iff (httpAuths : HttpAuths) (callId : Str) :
    (httpAuths.deleteNonce callId).2.under callId = [] ↔ httpAuths.Deletable callId := by
  unfold under
  rw [entries_deleteNonce, Machine.Slots.filter_eraseP_eq_nil]
  rfl

theorem kept_release_iff (h : httpAuths.IsMap) (callId : Option Str) :
    ((httpAuths.release callId).IsMap ∧ ∀ c ∈ callId, (httpAuths.release callId).under c = []) ↔
      ∀ c ∈ callId, httpAuths.Deletable c := by
  cases callId with
  | none => simp [release, h]
  | some callId => simp [release, isMap_deleteNonce h, under_deleteNonce_iff]

theorem kept_iff_allowed (h : httpAuths.IsMap) (op : NonceOp) :
    httpAuths.Kept op ↔ httpAuths.Allowed op := by
  cases op with
  | storeNonce callId wa answerCode =>
      refine Iff.trans (and_iff_left fun c hc => ?_) (isMap_storeNonce_iff h callId wa answerCode)
      cases hc
  | deleteNonce callId => exact kept_release_iff h (some callId)
  | callFree incTr outTr => exact kept_release_iff h _
  | subscriptionFree incTr outTr => exact kept_release_iff h _
  | notifyFree incTr outTr => exact kept_release_iff h _
  | regFree lastTr => exact kept_release_iff h _
  | pubFree lastTr => exact kept_release_iff h _

/-- Along a run the table is a map and deletions are complete exactly when every step is
allowed. -/
theorem kept_iff (ops : List NonceOp) :
    Machine.Guarded (fun httpAuths op => op.step httpAuths) Kept init ops ↔
      Machine.Guarded (fun httpAuths op => op.step httpAuths) Allowed init ops := by
  apply Machine.guarded_congr_of_invariant
  · intro httpAuths op h
    exact kept_iff_allowed h op
  · intro httpAuths op h hkept
    exact hkept.1
  · exact Machine.Slots.unique_empty key 100

def challenge (realm : String) : WwwAuthenticate :=
  { authType := some "Digest".toList, realm := some realm.toList, domain := none,
    nonce := some "\"84a4cc6f\"".toList, opaqueValue := none, stale := none, algorithm := none,
    qopOptions := some "\"auth\"".toList, version := none, targetname := none, gssapiData := none }

/-- Two challenges of one call with different realms: the release deletes one of the entries. -/
theorem not_kept :
    ¬ ∀ ops, Machine.Guarded (fun httpAuths op => NonceOp.step httpAuths op) Kept init ops := by
  intro h
  have hrun := h [.storeNonce "call1".toList (challenge "\"proxy\"") 407,
    .storeNonce "call1".toList (challenge "\"home\"") 401, .deleteNonce "call1".toList]
  have hdeleted := hrun.2.2.1.2 "call1".toList rfl
  revert hdeleted
  decide +kernel

end HttpAuths
end Exosip
