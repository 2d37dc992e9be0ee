import Exosip.Parser.CString
import Exosip.Time.Timeval
import Mathlib.Data.Nat.ModEq

/-! The fail-over between the servers of an SRV record: the rotation over a table that ends at
an empty entry, and the loop of `udp_tl_send_message` that looks for a server. -/
namespace Exosip

/-- `osip_srv_entry_t`. -/
structure SrvEntry where
  srv : Str
  port : Int
  ipaddress : Str
  srvIsBroken : Timeval
  deriving DecidableEq

/-- `osip_srv_record_t`. -/
structure SrvRecord where
  name : Str
  index : Nat
  srventry : List SrvEntry
  deriving DecidableEq

namespace SrvRecord

/-- `eXosip_dnsutils_rotate_srv`, none for a read behind the table. -/
def rotateSrv (r : SrvRecord) : Option (Int × SrvRecord) := do
  let first ← r.srventry[0]?
  if first.srv = [] then some (-1, r)
  else
    let next ← r.srventry[r.index + 1]?
    let index := if next.srv = [] then 0 else r.index + 1
    -- one less than the entries in front of the first empty one
    let n := ((r.srventry.drop 1).takeWhile fun entry => decide (entry.srv ≠ [])).length
    some (n, { r with index })

/-- How the search for a server ends; with `lookup` the host of the request is looked up. -/
inductive Selected
  | server (entry : SrvEntry)
  | failed
  | lookup
  deriving DecidableEq

section Select

variable (getAddrinfo : Str → Int → Bool)

/-- `_eXosip_get_addrinfo` for an entry. -/
def resolves (entry : SrvEntry) : Bool :=
  getAddrinfo (if entry.ipaddress = [] then entry.srv else entry.ipaddress) entry.port

/-- The loop, with the turns that `n < 10` still allows. -/
def selectLoop : Nat → SrvRecord → Nat → Option (Selected × SrvRecord)
  | 0, r, _ => some (.lookup, r)
  | turns + 1, r, n => do
      let srv ← r.srventry[r.index]?
      if srv.srv = [] then some (.lookup, r)
      else if resolves getAddrinfo srv then some (.server srv, r)
      else
        let (i, r) ← r.rotateSrv
        if i ≤ 0 then some (.failed, r)
        else if i ≥ n then some (.failed, r)
        else selectLoop turns r (n + 1)

/-- A server that was marked as broken is left before a REGISTER or an OPTIONS is sent. -/
def leaveBroken (registerOrOptions : Bool) (r : SrvRecord) : Option SrvRecord :=
  if registerOrOptions then do
    let srv ← r.srventry[r.index]?
    if srv.srvIsBroken.tvSec > 0 then
      let r := { r with srventry := r.srventry.set r.index { srv with srvIsBroken := .zero } }
      r.rotateSrv.map Prod.snd
    else some r
  else some r

/-- What `udp_tl_send_message` does with the record of an answered lookup. -/
def udpSelect (registerOrOptions : Bool) (r : SrvRecord) : Option (Selected × SrvRecord) :=
  if r.name = [] then some (.lookup, r)
  else do
    let srv ← r.srventry[r.index]?
    if srv.srv = [] then some (.lookup, r)
    else
      let r ← r.leaveBroken registerOrOptions
      selectLoop getAddrinfo 10 r 0

end Select

/-- A record with a name whose table has `n` filled entries, as the lookup fills it from the
front, and is at one of them. -/
structure Filled (r : SrvRecord) (n : Nat) : Prop where
  name : r.name ≠ []
  size : r.srventry.length = 10
  le : n ≤ 10
  filled : ∀ i < n, ∀ entry, r.srventry[i]? = some entry → entry.srv ≠ []
  empty : ∀ i, n ≤ i → ∀ entry, r.srventry[i]? = some entry → entry.srv = []
  index : r.index < n

def rotated (r : SrvRecord) : Nat → Option SrvRecord
  | 0 => some r
  | k + 1 => (r.rotated k).bind fun r => r.rotateSrv.map Prod.snd

/-- The index stays on a filled entry of the table, and no entry is visited again before every
filled entry was. -/
structure RotatesThrough (r : SrvRecord) : Prop where
  inside : ∀ k, ∃ r' entry, r.rotated k = some r' ∧ r'.srventry[r'.index]? = some entry ∧
    entry.srv ≠ []
  all : ∀ k k' r₁ r₂, k < k' → r.rotated k = some r₁ → r.rotated k' = some r₂ →
    r₁.index = r₂.index → ∀ i entry, r.srventry[i]? = some entry → entry.srv ≠ [] →
      ∃ j r', k ≤ j ∧ j < k' ∧ r.rotated j = some r' ∧ r'.index = i

/-- When an entry of the table resolves, the search ends at one. -/
def Selects (getAddrinfo : Str → Int → Bool) (registerOrOptions : Bool) (r : SrvRecord) : Prop :=
  (∃ entry ∈ r.srventry, entry.srv ≠ [] ∧ resolves getAddrinfo entry = true) →
    ∃ entry r', r.udpSelect getAddrinfo registerOrOptions = some (.server entry, r') ∧
      r'.srventry[r'.index]? = some entry ∧ resolves getAddrinfo entry = true

/-- The fail-over tries every server. -/
def TriesEveryServer (getAddrinfo : Str → Int → Bool) (registerOrOptions : Bool)
    (r : SrvRecord) : Prop :=
  r.RotatesThrough ∧ r.Selects getAddrinfo registerOrOptions

def firstTried (registerOrOptions : Bool) (n : Nat) (r : SrvRecord) : Nat :=
  if registerOrOptions ∧ ∃ srv ∈ r.srventry[r.index]?, srv.srvIsBroken.tvSec > 0 then
    (r.index + 1) % n
  else r.index

/-! ### The rotation -/

variable {r : SrvRecord} {n : Nat}

theorem Filled.pos (h : r.Filled n) : 0 < n := Nat.zero_lt_of_lt h.index

theorem Filled.get (h : r.Filled n) {i : Nat} (hi : i < n) :
    ∃ entry, r.srventry[i]? = some entry ∧ entry.srv ≠ [] := by
  have hlt : i < r.srventry.length := by
    have := h.le
    have := h.size
    omega
  exact ⟨_, List.getElem?_eq_getElem hlt, h.filled i hi _ (List.getElem?_eq_getElem hlt)⟩

theorem Filled.lt_of_get (h : r.Filled n) {i : Nat} {entry : SrvEntry}
    (hentry : r.srventry[i]? = some entry) (hfilled : entry.srv ≠ []) : i < n := by
  by_contra hi
  exact hfilled (h.empty i (Nat.le_of_not_lt hi) entry hentry)

theorem Filled.at (h : r.Filled n) {i : Nat} (hi : i < n) : { r with index := i }.Filled n :=
  { h with index := hi }

theorem Filled.count (h : r.Filled n) :
    ((r.srventry.drop 1).takeWhile fun entry => decide (entry.srv ≠ [])).length = n - 1 := by
  have hsize := h.size
  have hle := h.le
  have hpos := h.pos
  have hfront : ∀ entry ∈ (r.srventry.drop 1).take (n - 1), decide (entry.srv ≠ []) = true := by
    intro entry hentry
    obtain ⟨i, hi, hget⟩ := List.mem_iff_getElem.1 hentry
    rw [List.length_take, List.length_drop] at hi
    rw [List.getElem_take, List.getElem_drop] at hget
    have hlt : 1 + i < r.srventry.length := by omega
    exact decide_eq_true
      (h.filled (1 + i) (by omega) entry (List.getElem?_eq_some_iff.2 ⟨hlt, hget⟩))
  have hback : (((r.srventry.drop 1).drop (n - 1)).takeWhile
      fun entry => decide (entry.srv ≠ [])) = [] := by
    rw [List.drop_drop]
    cases hrest : r.srventry.drop (1 + (n - 1)) with
    | nil => rfl
    | cons entry rest =>
        have hget : r.srventry[n]? = some entry := by
          have hhead := congrArg List.head? hrest
          rw [List.head?_drop, List.head?_cons, Nat.add_sub_cancel' hpos] at hhead
          exact hhead
        have hempty := h.empty n (Nat.le_refl n) entry hget
        rw [List.takeWhile_cons, if_neg (by simp [hempty])]
  rw [← List.take_append_drop (n - 1) (r.srventry.drop 1), List.takeWhile_append_of_pos hfront,
    hback, List.append_nil, List.length_take, List.length_drop]
  omega

/-- One rotation, where the table has an entry behind the current one. -/
theorem Filled.rotateSrv_eq (h : r.Filled n) (hlt : r.index + 1 < 10) :
    r.rotateSrv = some (((n - 1 : Nat) : Int), { r with index := (r.index + 1) % n }) := by
  obtain ⟨first, hfirst, hfilled⟩ := h.get h.pos
  have hindex := h.index
  obtain ⟨next, hnext⟩ : ∃ next, r.srventry[r.index + 1]? = some next :=
    ⟨_, List.getElem?_eq_getElem (by rw [h.size]; exact hlt)⟩
  have hwrap : (if next.srv = [] then 0 else r.index + 1) = (r.index + 1) % n := by
    by_cases hlast : r.index + 1 < n
    · rw [if_neg (h.filled _ hlast next hnext), Nat.mod_eq_of_lt hlast]
    · have heq : r.index + 1 = n := by omega
      rw [if_pos (h.empty _ (by omega) next hnext), heq, Nat.mod_self]
  simp only [rotateSrv, Option.bind_eq_bind]
  rw [hfirst, Option.bind_some, if_neg hfilled, hnext, Option.bind_some, hwrap, h.count]

theorem Filled.rotateSrv_outside (h : r.Filled n) (hlast : r.index + 1 = 10) :
    r.rotateSrv = none := by
  obtain ⟨first, hfirst, hfilled⟩ := h.get h.pos
  have hnext : r.srventry[r.index + 1]? = none := by
    rw [List.getElem?_eq_none_iff, h.size, hlast]
  simp only [rotateSrv, Option.bind_eq_bind]
  rw [hfirst, Option.bind_some, if_neg hfilled, hnext, Option.bind_none]

theorem Filled.rotated_eq (h : r.Filled n) {k : Nat} (hroom : n < 10 ∨ r.index + k < n) :
    r.rotated k = some { r with index := (r.index + k) % n } := by
  induction k with
  | zero =>
      rw [rotated, Nat.add_zero, Nat.mod_eq_of_lt h.index]
  | succ k ih =>
      have hpos := h.pos
      have hle := h.le
      have hmod := Nat.mod_lt (r.index + k) hpos
      have hstep := (h.at hmod).rotateSrv_eq (by
        rcases hroom with hroom | hroom
        · dsimp only
          omega
        · rw [Nat.mod_eq_of_lt (by omega)]
          dsimp only
          omega)
      rw [rotated, ih (hroom.imp_right (by omega)), Option.bind_some, hstep, Option.map_some,
        Nat.mod_add_mod, Nat.add_assoc]

theorem Filled.rotatesThrough (h : r.Filled n) (hroom : n < 10) : r.RotatesThrough where
  inside := by
    intro k
    obtain ⟨entry, hentry, hfilled⟩ := h.get (Nat.mod_lt (r.index + k) h.pos)
    exact ⟨_, entry, h.rotated_eq (Or.inl hroom), hentry, hfilled⟩
  all := by
    intro k k' r₁ r₂ hlt h₁ h₂ hsame i entry hentry hfilled
    rw [h.rotated_eq (Or.inl hroom), Option.some.injEq] at h₁ h₂
    subst h₁ h₂
    dsimp only at hsame
    have hi := h.lt_of_get hentry hfilled
    have hwhole : n ≤ k' - k := by
      have hdvd := (Nat.modEq_iff_dvd' (by omega)).1 hsame
      have hle := Nat.le_of_dvd (by omega) hdvd
      omega
    have hmod := Nat.mod_lt (r.index + k) h.pos
    -- how far it is from the index after `k` rotations to `i`
    obtain ⟨d, hd, hreach⟩ : ∃ d < n, ((r.index + k) % n + d) % n = i := by
      by_cases hle : (r.index + k) % n ≤ i
      · refine ⟨i - (r.index + k) % n, by omega, ?_⟩
        rw [Nat.add_sub_cancel' hle, Nat.mod_eq_of_lt hi]
      · refine ⟨i + n - (r.index + k) % n, by omega, ?_⟩
        rw [Nat.add_sub_cancel' (by omega), Nat.add_mod_right, Nat.mod_eq_of_lt hi]
    refine ⟨k + d, _, by omega, by omega, h.rotated_eq (Or.inl hroom), ?_⟩
    rw [Nat.mod_add_mod, Nat.add_assoc] at hreach
    exact hreach

theorem Filled.rotated_outside (h : r.Filled 10) : r.rotated (10 - r.index) = none := by
  have hindex := h.index
  have hlast := h.rotated_eq (k := 9 - r.index) (Or.inr (by omega))
  have hsum : r.index + (9 - r.index) = 9 := by omega
  have hturns : 10 - r.index = 9 - r.index + 1 := by omega
  rw [hsum] at hlast
  have hnine : { r with index := 9 }.Filled 10 := h.at (by decide)
  rw [hturns, rotated, hlast, Option.bind_some]
  exact congrArg (Option.map Prod.snd) (hnine.rotateSrv_outside rfl)

/-! ### The search -/

variable (getAddrinfo : Str → Int → Bool) (registerOrOptions : Bool)

theorem Filled.selectLoop_eq (h : r.Filled n) (hroom : n < 10) {srv : SrvEntry}
    (hsrv : r.srventry[r.index]? = some srv) (turns : Nat) :
    (resolves getAddrinfo srv = true ∧
      selectLoop getAddrinfo (turns + 1) r 0 = some (.server srv, r)) ∨
    (resolves getAddrinfo srv = false ∧
      selectLoop getAddrinfo (turns + 1) r 0 =
        some (.failed, { r with index := (r.index + 1) % n })) := by
  have hindex := h.index
  rw [selectLoop, hsrv, Option.bind_eq_bind, Option.bind_some,
    if_neg (h.filled _ h.index srv hsrv)]
  cases hresolves : resolves getAddrinfo srv with
  | true => exact Or.inl ⟨rfl, by rw [if_pos rfl]⟩
  | false =>
      refine Or.inr ⟨rfl, ?_⟩
      rw [if_neg Bool.false_ne_true, h.rotateSrv_eq (by omega), Option.bind_eq_bind,
        Option.bind_some]
      dsimp only
      split_ifs with hsingle hfirst
      · rfl
      · rfl
      · omega

theorem Filled.clearBroken (h : r.Filled n) {srv : SrvEntry}
    (hsrv : r.srventry[r.index]? = some srv) :
    { r with srventry := r.srventry.set r.index { srv with srvIsBroken := .zero } }.Filled n ∧
    ∀ i : Nat, ((r.srventry.set r.index { srv with srvIsBroken := .zero })[i]?).map
      (resolves getAddrinfo) = (r.srventry[i]?).map (resolves getAddrinfo) := by
  have hlt := (List.getElem?_eq_some_iff.1 hsrv).1
  have hget : ∀ i, (r.srventry.set r.index { srv with srvIsBroken := .zero })[i]? =
      if r.index = i then some { srv with srvIsBroken := .zero } else r.srventry[i]? := by
    intro i
    rw [List.getElem?_set]
    split_ifs with hi
    · rfl
    · rfl
  constructor
  · refine ⟨h.name, ?_, h.le, ?_, ?_, h.index⟩
    · rw [List.length_set, h.size]
    · intro i hi entry hentry
      rw [hget] at hentry
      split_ifs at hentry with heq
      · cases hentry
        exact h.filled r.index h.index srv hsrv
      · exact h.filled i hi entry hentry
    · intro i hi entry hentry
      rw [hget, if_neg (by have := h.index; omega)] at hentry
      exact h.empty i hi entry hentry
  · intro i
    rw [hget]
    split_ifs with heq
    · rw [← heq, hsrv]
      rfl
    · rfl

theorem Filled.leaveBroken_eq (h : r.Filled n) (hroom : n < 10) :
    ∃ r', r.leaveBroken registerOrOptions = some r' ∧ r'.Filled n ∧
      r'.index = r.firstTried registerOrOptions n ∧
      ∀ i : Nat, (r'.srventry[i]?).map (resolves getAddrinfo) =
        (r.srventry[i]?).map (resolves getAddrinfo) := by
  obtain ⟨srv, hsrv, -⟩ := h.get h.index
  have hindex := h.index
  cases registerOrOptions with
  | false =>
      refine ⟨r, rfl, h, ?_, fun i => rfl⟩
      rw [firstTried, if_neg (by simp)]
  | true =>
      rw [leaveBroken, if_pos rfl, hsrv, Option.bind_eq_bind, Option.bind_some, firstTried, hsrv]
      by_cases hbroken : srv.srvIsBroken.tvSec > 0
      · obtain ⟨hcleared, hsame⟩ := h.clearBroken getAddrinfo hsrv
        have hrotate := hcleared.rotateSrv_eq (by dsimp only; omega)
        refine ⟨_, ?_, hcleared.at (Nat.mod_lt (r.index + 1) h.pos), ?_, hsame⟩
        · rw [if_pos hbroken]
          dsimp only
          rw [hrotate]
          rfl
        · rw [if_pos ⟨rfl, srv, rfl, hbroken⟩]
      · refine ⟨r, if_neg hbroken, h, ?_, fun i => rfl⟩
        rw [if_neg]
        rintro ⟨-, srv', hsrv', hbroken'⟩
        cases hsrv'
        exact hbroken hbroken'

theorem Filled.udpSelect_eq (h : r.Filled n) (hroom : n < 10) :
    (∃ entry r', (r.srventry[r.firstTried registerOrOptions n]?).map (resolves getAddrinfo) =
        some true ∧
      r.udpSelect getAddrinfo registerOrOptions = some (.server entry, r') ∧
      r'.srventry[r'.index]? = some entry ∧ resolves getAddrinfo entry = true) ∨
    (∃ r', (r.srventry[r.firstTried registerOrOptions n]?).map (resolves getAddrinfo) =
        some false ∧
      r.udpSelect getAddrinfo registerOrOptions = some (.failed, r')) := by
  obtain ⟨srv, hsrv, hfilled⟩ := h.get h.index
  obtain ⟨r', hleave, hr', hfirst, hsame⟩ :=
    h.leaveBroken_eq getAddrinfo registerOrOptions hroom
  obtain ⟨entry, hentry, -⟩ := hr'.get hr'.index
  have hresolves := hsame r'.index
  rw [hentry, Option.map_some, hfirst] at hresolves
  have hselect : r.udpSelect getAddrinfo registerOrOptions = selectLoop getAddrinfo 10 r' 0 := by
    rw [udpSelect, if_neg h.name, hsrv, Option.bind_eq_bind, Option.bind_some, if_neg hfilled,
      hleave, Option.bind_eq_bind, Option.bind_some]
  rw [hselect, ← hresolves]
  obtain ⟨htrue, hloop⟩ | ⟨hfalse, hloop⟩ :=
    hr'.selectLoop_eq getAddrinfo hroom hentry 9
  · exact Or.inl ⟨entry, r', by rw [htrue], hloop, hentry, htrue⟩
  · exact Or.inr ⟨_, by rw [hfalse], hloop⟩

/-- The fail-over tries every server exactly when the table is not full and the entry that is
tried first resolves, or none does. -/
theorem triesEveryServer_iff (h : r.Filled n) :
    r.TriesEveryServer getAddrinfo registerOrOptions ↔
      n < 10 ∧
      ((∃ entry ∈ r.srventry[r.firstTried registerOrOptions n]?,
          resolves getAddrinfo entry = true) ∨
        ∀ i < n, ∀ entry ∈ r.srventry[i]?, resolves getAddrinfo entry = false) := by
  constructor
  · rintro ⟨hrotates, hselects⟩
    have hroom : n < 10 := by
      by_contra hfull
      have hten : n = 10 := by
        have := h.le
        omega
      subst hten
      obtain ⟨r', entry, hrotated, -⟩ := hrotates.inside (10 - r.index)
      rw [h.rotated_outside] at hrotated
      cases hrotated
    refine ⟨hroom, ?_⟩
    by_contra hnone
    rw [not_or] at hnone
    obtain ⟨hfirst, hsome⟩ := hnone
    push Not at hsome
    obtain ⟨i, hi, entry, hentry, hresolves⟩ := hsome
    rw [Ne, Bool.not_eq_false] at hresolves
    obtain ⟨found, r', hselect, -⟩ := hselects
      ⟨entry, List.mem_of_getElem? hentry, h.filled i hi entry hentry, hresolves⟩
    obtain ⟨_, _, htrue, -⟩ | ⟨_, -, hfailed⟩ :=
      h.udpSelect_eq getAddrinfo registerOrOptions hroom
    · obtain ⟨first, hget, htrue⟩ := Option.map_eq_some_iff.1 htrue
      exact hfirst ⟨first, hget, htrue⟩
    · rw [hfailed] at hselect
      cases hselect
  · rintro ⟨hroom, hfirst⟩
    refine ⟨h.rotatesThrough hroom, ?_⟩
    rintro ⟨entry, hmem, hfilled, hresolves⟩
    obtain ⟨i, hi⟩ := List.mem_iff_getElem?.1 hmem
    obtain ⟨found, r', -, hselect⟩ | ⟨r', hfalse, -⟩ :=
      h.udpSelect_eq getAddrinfo registerOrOptions hroom
    · exact ⟨found, r', hselect⟩
    · exfalso
      rcases hfirst with hfirst | hnone
      · obtain ⟨first, hget, htrue⟩ := hfirst
        rw [hget, Option.map_some, htrue] at hfalse
        cases hfalse
      · rw [hnone i (h.lt_of_get hi hfilled) entry hi] at hresolves
        cases hresolves

def emptyEntry : SrvEntry := ⟨[], 0, [], .zero⟩

def twoServers : SrvRecord where
  name := "_sip._udp.example.com".toList
  index := 0
  srventry := ⟨"a".toList, 5060, [], .zero⟩ :: ⟨"b".toList, 5060, [], .zero⟩ ::
    List.replicate 8 emptyEntry

theorem twoServers_filled : twoServers.Filled 2 where
  name := by decide
  size := rfl
  le := by decide
  filled := by
    intro i hi entry hentry
    obtain rfl | rfl : i = 0 ∨ i = 1 := by omega
    · cases hentry
      decide
    · cases hentry
      decide
  empty := by
    intro i hi entry hentry
    obtain ⟨i, rfl⟩ := Nat.exists_eq_add_of_le' hi
    change (List.replicate 8 emptyEntry)[i]? = some entry at hentry
    rw [List.eq_of_mem_replicate (List.mem_of_getElem? hentry)]
    rfl
  index := by decide

theorem triesEveryServer_iff_firstResolves :
    twoServers.TriesEveryServer (fun host _ => host == "a".toList) false :=
  (triesEveryServer_iff _ _ twoServers_filled).2
    ⟨by decide, Or.inl ⟨⟨"a".toList, 5060, [], .zero⟩, rfl, by decide⟩⟩

/-- The first server does not resolve, and the second is never tried. -/
theorem not_triesEveryServer :
    ¬ ∀ (getAddrinfo : Str → Int → Bool) (registerOrOptions : Bool) (r : SrvRecord) (n : Nat),
      r.Filled n → r.TriesEveryServer getAddrinfo registerOrOptions := by
  intro hall
  obtain ⟨-, hselects⟩ := hall (fun host _ => host == "b".toList) false twoServers 2
    twoServers_filled
  obtain ⟨entry, r', hselect, -⟩ := hselects
    ⟨⟨"b".toList, 5060, [], .zero⟩, by decide, by decide, by decide⟩
  have hfailed : (twoServers.udpSelect (fun host _ => host == "b".toList) false).map Prod.fst =
      some .failed := by decide
  rw [hselect] at hfailed
  cases hfailed

end SrvRecord
end Exosip
