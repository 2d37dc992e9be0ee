import Exosip.Automatic.Actions
import Exosip.Dialog.Response
import Exosip.Parser.ContentLength
import Exosip.Parser.Serialise

/-! The lifetime that a 2xx grants to a registration, a subscription or a publication: the
period that is stored for it, and whether it is refreshed before the lifetime is over. -/
namespace Exosip

open CString

/-! ### The period -/

def SipFields.expires (sip : SipFields) : Option Str :=
  (sip.headerByname "expires".toList).bind Header.hvalue

/-- The part of `cb_rcv2xx` about the Expires header of a REGISTER or PUBLISH: the value is
taken over only when it has really been decreased. -/
def expiresPeriod (period : Int) (sip : SipFields) : Int :=
  match sip.expires with
  | none => period
  | some hvalue =>
      let val := atoi hvalue
      if 0 < val then if val < period - 15 then val else period else period

/-- `_eXosip_subscription_set_refresh_interval`. -/
def subscriptionSetRefreshInterval (period : Int) (sip : SipFields) : Int :=
  match sip.expires with
  | none => period
  | some hvalue =>
      let val := osipAtoi hvalue
      if val = 0 then 0 else if val < period - 15 then val else period

/-- The `expires` parameter of a Contact whose `line` is that of the registration. -/
def matchingExpires (rLine : Str) (coRegister : Contact) : Option Str :=
  match (coRegister.url.bind (·.uparamGetByname "line".toList)).bind GenericParam.gvalue with
  | none => none
  | some line =>
      if osipStrcasecmp rLine line then
        (GenericParam.getByname coRegister.genParams "expires".toList).bind GenericParam.gvalue
      else none

def contactExpires (rLine : Str) (sip : SipFields) : List Str :=
  sip.contacts.filterMap (matchingExpires rLine)

def maxExpires (rLine : Str) (sip : SipFields) : Int :=
  (contactExpires rLine sip).foldl
    (fun maxval gvalue => if maxval < atoi gvalue then atoi gvalue else maxval) 0

/-- `_eXosip_update_expires_according_to_contact`. -/
def updateExpiresAccordingToContact (rLine : Str) (period : Int) (origRequest : Option SipFields)
    (sip : SipFields) : Int :=
  match origRequest with
  | none => period
  | some origRequest =>
      if origRequest.contacts.length ≠ 1 then period
      else
        let maxval := maxExpires rLine sip
        if maxval = 0 then period
        else if maxval < period - 15 then maxval
        else if period < maxval then maxval
        else period

inductive LifetimeKind where
  | registration
  | subscription
  | publication
  deriving DecidableEq, Repr

def LifetimeKind.method : LifetimeKind → Str
  | registration => "REGISTER".toList
  | subscription => "SUBSCRIBE".toList
  | publication => "PUBLISH".toList

/-- A registration, a dialog of a subscription or a publication with the request that asks for
the period; the line and the step are those of a registration. -/
structure Lifetime where
  kind : LifetimeKind
  period : Int
  registrationStep : RegistrationStep
  rLine : Str
  origRequest : SipFields
  birthTime : Int
  period_pos : 0 < period
  period_lt : period < 2147483648

/-- A 2xx that completes the transaction; a registration is at `registrationStep` then,
whatever `_eXosip_register_contact_is_modified` does about that. -/
structure LifetimeAnswer where
  sip : SipFields
  state : State
  status : Int
  registrationStep : RegistrationStep
  completed : state = .nictCompleted ∨ state = .nictTerminated
  success : 200 ≤ status ∧ status < 300

namespace Decision

def isRefresh : Decision → Bool
  | refresh _ => true
  | _ => false

@[simp] theorem isRefresh_refresh (method : Option Str) : (refresh method).isRefresh = true := rfl

@[simp] theorem isRefresh_nothing : nothing.isRefresh = false := rfl

@[simp] theorem isRefresh_counted : counted.isRefresh = false := rfl

@[simp] theorem isRefresh_uncounted : uncounted.isRefresh = false := rfl

@[simp] theorem isRefresh_proceed (step : RegistrationStep) : (proceed step).isRefresh = false :=
  rfl

end Decision

namespace Lifetime

/-- The period after `cb_rcv2xx`. -/
def rcv2xx (lifetime : Lifetime) (sip : SipFields) : Int :=
  match lifetime.kind with
  | .registration =>
      if lifetime.registrationStep ≠ .deletionProceeding then
        updateExpiresAccordingToContact lifetime.rLine (expiresPeriod lifetime.period sip)
          (some lifetime.origRequest) sip
      else lifetime.period
  | .subscription => subscriptionSetRefreshInterval lifetime.period sip
  | .publication => expiresPeriod lifetime.period sip

def answeredTr (lifetime : Lifetime) (answer : LifetimeAnswer) : SentTr where
  state := answer.state
  birthTime := lifetime.birthTime
  origRequest := some lifetime.kind.method
  lastResponse := some answer.status

/-- What a pass does about the answered transaction. -/
def decision (lifetime : Lifetime) (answer : LifetimeAnswer) (now : Int) : Decision :=
  let info : RetryInfo := ⟨lifetime.rcv2xx answer.sip, answer.registrationStep⟩
  match lifetime.kind with
  | .registration => registrationRequest now info (lifetime.answeredTr answer)
  | .subscription => subscribeDialog now info (some (lifetime.answeredTr answer))
  | .publication => publicationRequest now info (lifetime.answeredTr answer)

/-- From some time on before the lifetime is over every pass refreshes. -/
def NeverLapses (lifetime : Lifetime) (answer : LifetimeAnswer) (expiry : Nat) : Prop :=
  ∃ since < lifetime.birthTime + expiry, ∀ now, since ≤ now →
    (lifetime.decision answer now).isRefresh = true

def ByExpires (sip : SipFields) (expiry : Nat) : Prop :=
  ∃ hvalue ∈ sip.expires, lengthValue hvalue = some expiry

def ByContact (lifetime : Lifetime) (sip : SipFields) (expiry : Nat) : Prop :=
  (∃ gvalue ∈ contactExpires lifetime.rLine sip, lengthValue gvalue = some expiry) ∧
    ∀ gvalue ∈ contactExpires lifetime.rLine sip, atoi gvalue ≤ expiry

/-- A registration is granted the lifetime of the Contact, and that of the Expires header when
no Contact that matches says one. -/
def Grants (lifetime : Lifetime) (sip : SipFields) (expiry : Nat) : Prop :=
  match lifetime.kind with
  | .registration =>
      lifetime.ByContact sip expiry ∨
        ((∀ gvalue ∈ contactExpires lifetime.rLine sip, atoi gvalue ≤ 0) ∧ ByExpires sip expiry)
  | _ => ByExpires sip expiry

def refreshAge (kind : LifetimeKind) (period : Int) : Int :=
  match kind with
  | .registration => min 900 (min (period - period.tdiv 10) (period - 6))
  | .subscription => min (period - period.tdiv 10) (period - 6)
  | .publication => min 900 (period - period.tdiv 10)

/-- The period that the granted one is compared with: an Expires header may have shortened it
before the Contacts are looked at. -/
def comparedPeriod (lifetime : Lifetime) (sip : SipFields) : Int :=
  if lifetime.kind = .registration ∧ lifetime.registrationStep ≠ .deletionProceeding ∧
      0 < maxExpires lifetime.rLine sip then
    expiresPeriod lifetime.period sip
  else lifetime.period

def TakesOver (lifetime : Lifetime) (sip : SipFields) : Prop :=
  lifetime.kind = .registration → lifetime.registrationStep ≠ .deletionProceeding ∧
    (0 < maxExpires lifetime.rLine sip → lifetime.origRequest.contacts.length = 1)

/-- The period that was asked for is refreshed within the granted lifetime anyway, or this is
shorter by more than fifteen seconds and taken over. A number that an `int` holds as zero ends
a subscription. -/
def InTime (lifetime : Lifetime) (sip : SipFields) (expiry : Nat) : Prop :=
  (refreshAge lifetime.kind (lifetime.comparedPeriod sip) + 1 < expiry ∨
    (expiry < lifetime.comparedPeriod sip - 15 ∧ lifetime.TakesOver sip)) ∧
  (lifetime.kind = .subscription → toInt32 (min (expiry : Int) longMax) ≠ 0)

/-! ### The refresh -/

theorem exists_since_iff {birthTime age : Int} {expiry : Nat} :
    (∃ since < birthTime + expiry, ∀ now, since ≤ now → age < now - birthTime) ↔
      age + 1 < expiry := by
  constructor
  · intro h
    obtain ⟨since, hsince, hall⟩ := h
    have hmax := hall since le_rfl
    omega
  · intro h
    refine ⟨birthTime + age + 1, by omega, ?_⟩
    intro now hnow
    omega

theorem registrationRequest_isRefresh {tr : SentTr} (hok : tr.succeeded = true) (now : Int)
    (jr : RetryInfo) :
    (registrationRequest now jr tr).isRefresh = true ↔
      jr.period ≠ 0 ∧ refreshAge .registration jr.period < tr.age now := by
  rw [refreshAge, min_lt_iff, min_lt_iff]
  unfold registrationRequest
  by_cases hperiod : jr.period = 0
  · simp [apply_ite Decision.isRefresh, hperiod, hok]
  · simp [apply_ite Decision.isRefresh, hperiod, hok]

theorem publicationRequest_isRefresh {tr : SentTr} (hok : tr.succeeded = true) (now : Int)
    (jpub : RetryInfo) :
    (publicationRequest now jpub tr).isRefresh = true ↔
      jpub.period ≠ 0 ∧ refreshAge .publication jpub.period < tr.age now := by
  rw [refreshAge, min_lt_iff]
  unfold publicationRequest
  by_cases hperiod : jpub.period = 0
  · simp [apply_ite Decision.isRefresh, hperiod, hok]
  · simp [apply_ite Decision.isRefresh, hperiod, hok]

theorem subscribeDialog_isRefresh {tr : SentTr} {status : Int}
    (hstatus : tr.lastResponse = some status) (hok : status < 300) (hover : tr.isOverNict = true)
    (hmethod : (tr.origRequest = some "REFER".toList) = False) (now : Int) (js : RetryInfo) :
    (subscribeDialog now js (some tr)).isRefresh = true ↔
      js.period ≠ 0 ∧ refreshAge .subscription js.period < tr.age now := by
  have hchallenge : isChallenge status = false := by
    rw [isChallenge, Bool.or_eq_false_iff, decide_eq_false_iff_not, decide_eq_false_iff_not]
    omega
  have hrejected : tr.rejectedBy now isChallenge = false := by
    rw [SentTr.rejectedBy, hstatus, Option.any_some, hchallenge, Bool.and_false]
  have herror : tr.lastResponse.any (fun code => decide (300 ≤ code)) = false := by
    rw [hstatus, Option.any_some, decide_eq_false_iff_not]
    omega
  rw [refreshAge, min_lt_iff]
  unfold subscribeDialog
  simp only [hmethod, hrejected, herror, hover, if_false]
  by_cases hperiod : js.period = 0
  · simp [hperiod]
  · simp [apply_ite Decision.isRefresh, hperiod]

theorem succeeded_answeredTr (lifetime : Lifetime) (answer : LifetimeAnswer) :
    (lifetime.answeredTr answer).succeeded = true := by
  simp [SentTr.succeeded, answeredTr, answer.success]

theorem isOverNict_answeredTr (lifetime : Lifetime) (answer : LifetimeAnswer) :
    (lifetime.answeredTr answer).isOverNict = true := by
  rw [SentTr.isOverNict, Bool.or_eq_true, decide_eq_true_eq, decide_eq_true_eq]
  exact answer.completed.symm

theorem subscribe_ne_refer : LifetimeKind.subscription.method ≠ "REFER".toList := by decide

theorem decision_isRefresh (lifetime : Lifetime) (answer : LifetimeAnswer) (now : Int) :
    (lifetime.decision answer now).isRefresh = true ↔
      lifetime.rcv2xx answer.sip ≠ 0 ∧
        refreshAge lifetime.kind (lifetime.rcv2xx answer.sip) < now - lifetime.birthTime := by
  unfold decision
  cases hkind : lifetime.kind with
  | registration =>
      exact registrationRequest_isRefresh (lifetime.succeeded_answeredTr answer) now _
  | subscription =>
      have hmethod : ((lifetime.answeredTr answer).origRequest = some "REFER".toList) = False := by
        rw [answeredTr, hkind, Option.some.injEq, eq_iff_iff, iff_false]
        exact subscribe_ne_refer
      exact subscribeDialog_isRefresh (by rfl) answer.success.2
        (lifetime.isOverNict_answeredTr answer) hmethod now _
  | publication =>
      exact publicationRequest_isRefresh (lifetime.succeeded_answeredTr answer) now _

theorem neverLapses_iff_period (lifetime : Lifetime) (answer : LifetimeAnswer) (expiry : Nat) :
    lifetime.NeverLapses answer expiry ↔
      lifetime.rcv2xx answer.sip ≠ 0 ∧
        refreshAge lifetime.kind (lifetime.rcv2xx answer.sip) + 1 < expiry := by
  simp only [NeverLapses, decision_isRefresh]
  by_cases hperiod : lifetime.rcv2xx answer.sip = 0
  · constructor
    · intro h
      obtain ⟨since, -, hall⟩ := h
      exact absurd hperiod (hall since le_rfl).1
    · intro h
      exact absurd hperiod h.1
  · simp only [ne_eq, hperiod, not_false_eq_true, true_and, exists_since_iff]

/-! ### The period after the answer -/

theorem refreshAge_self (kind : LifetimeKind) (period : Int) (h : 30 ≤ period) :
    refreshAge kind period + 1 < period := by
  have htenth := Int.tdiv_eq_ediv_of_nonneg (a := period) (b := 10) (by omega)
  cases kind <;> simp only [refreshAge] <;> omega

theorem refreshAge_le (kind : LifetimeKind) {period : Int} (h : 0 ≤ period) :
    refreshAge kind period ≤ period := by
  have htenth := Int.tdiv_eq_ediv_of_nonneg (a := period) (b := 10) h
  cases kind <;> simp only [refreshAge] <;> omega

theorem refreshAge_nonpos (kind : LifetimeKind) (period : Int) (h : period ≤ 0) :
    refreshAge kind period ≤ 0 := by
  have htenth := Int.tdiv_eq_ediv_of_nonneg (a := -period) (b := 10) (by omega)
  rw [Int.neg_tdiv] at htenth
  cases kind <;> simp only [refreshAge] <;> omega

theorem refreshAge_of_large (kind : LifetimeKind) {period : Int} (h : period < 2147483648)
    {expiry : Nat} (hlarge : 2147483648 ≤ expiry) :
    refreshAge kind period + 1 < expiry := by
  by_cases hpos : 0 ≤ period
  · by_cases hshort : 30 ≤ period
    · have hself := refreshAge_self kind period hshort
      omega
    · have hle := refreshAge_le kind hpos
      omega
  · have hle := refreshAge_nonpos kind period (by omega)
    omega

/-- A shorter lifetime is taken over in time; another one is long enough or it is not. -/
theorem refreshAge_ite (kind : LifetimeKind) {asked : Int} {expiry : Nat} (h : 30 ≤ expiry) :
    refreshAge kind (if (expiry : Int) < asked - 15 then (expiry : Int) else asked) + 1 < expiry ↔
      refreshAge kind asked + 1 < expiry ∨ (expiry : Int) < asked - 15 := by
  split
  · next hless =>
      simp only [hless, or_true, iff_true]
      exact refreshAge_self kind expiry (by omega)
  · next hless => simp only [hless, or_false]

theorem expiresPeriod_range {period : Int} (h : 0 < period) (sip : SipFields) :
    0 < expiresPeriod period sip ∧ expiresPeriod period sip ≤ period := by
  unfold expiresPeriod
  split
  · exact ⟨h, le_rfl⟩
  · dsimp only
    split_ifs <;> omega

theorem expiresPeriod_of_lt {period : Int} {sip : SipFields} {expiry : Nat}
    (h : ByExpires sip expiry) (hpos : 0 < expiry) (hlt : expiry < 2147483648) :
    expiresPeriod period sip = if (expiry : Int) < period - 15 then (expiry : Int) else period := by
  obtain ⟨hvalue, hmem, hgranted⟩ := h
  rw [Option.mem_def] at hmem
  have hexpiry : (0 : Int) < expiry := by omega
  unfold expiresPeriod
  rw [hmem]
  dsimp only
  rw [atoi_of_lt hgranted hlt, if_pos hexpiry]

theorem refreshAge_expiresPeriod (kind : LifetimeKind) {period : Int} {sip : SipFields}
    {expiry : Nat} (h : ByExpires sip expiry) (hexpiry : 30 ≤ expiry) (hpos : 0 < period)
    (hint : period < 2147483648) :
    refreshAge kind (expiresPeriod period sip) + 1 < expiry ↔
      refreshAge kind period + 1 < expiry ∨ (expiry : Int) < period - 15 := by
  by_cases hlt : expiry < 2147483648
  · rw [expiresPeriod_of_lt h (by omega) hlt]
    exact refreshAge_ite kind hexpiry
  · have hrange := expiresPeriod_range hpos sip
    have hlarge : 2147483648 ≤ expiry := not_lt.1 hlt
    have hperiod : expiresPeriod period sip < 2147483648 := by omega
    have hasked := refreshAge_of_large kind hint hlarge
    have hstored := refreshAge_of_large kind hperiod hlarge
    simp only [hstored, hasked, true_or]

theorem refreshAge_subscription {period : Int} {sip : SipFields} {expiry : Nat}
    (h : ByExpires sip expiry) (hexpiry : 30 ≤ expiry) (hpos : 0 < period)
    (hint : period < 2147483648) :
    (subscriptionSetRefreshInterval period sip ≠ 0 ∧
        refreshAge .subscription (subscriptionSetRefreshInterval period sip) + 1 < expiry) ↔
      (refreshAge .subscription period + 1 < expiry ∨ (expiry : Int) < period - 15) ∧
        toInt32 (min (expiry : Int) longMax) ≠ 0 := by
  obtain ⟨hvalue, hmem, hgranted⟩ := h
  rw [Option.mem_def] at hmem
  have hread : osipAtoi hvalue = toInt32 (min (expiry : Int) longMax) := by
    rw [osipAtoi, atoi, strtol_of_lengthValue hgranted]
  unfold subscriptionSetRefreshInterval
  rw [hmem]
  dsimp only
  by_cases hzero : osipAtoi hvalue = 0
  · simp [hzero, ← hread]
  · have hne : (if osipAtoi hvalue < period - 15 then osipAtoi hvalue else period) ≠ 0 := by
      split <;> omega
    rw [if_neg hzero, ← hread, and_iff_right hne, and_iff_left hzero]
    by_cases hlt : expiry < 2147483648
    · rw [osipAtoi, atoi_of_lt hgranted hlt]
      exact refreshAge_ite .subscription hexpiry
    · have hlarge : 2147483648 ≤ expiry := not_lt.1 hlt
      have hbound := (toInt32_range (min (expiry : Int) longMax)).2
      have hperiod : (if osipAtoi hvalue < period - 15 then osipAtoi hvalue else period) <
          2147483648 := by
        split <;> omega
      have hasked := refreshAge_of_large .subscription hint hlarge
      have hstored := refreshAge_of_large .subscription hperiod hlarge
      simp only [hstored, hasked, true_or]

/-! ### A Contact -/

theorem foldl_atoi (values : List Str) (maxval : Int) :
    let result := values.foldl
      (fun maxval gvalue => if maxval < atoi gvalue then atoi gvalue else maxval) maxval
    maxval ≤ result ∧ (∀ gvalue ∈ values, atoi gvalue ≤ result) ∧
      (result = maxval ∨ ∃ gvalue ∈ values, result = atoi gvalue) := by
  induction values generalizing maxval with
  | nil => simp
  | cons first values ih =>
      obtain ⟨hstart, hall, hsome⟩ := ih (if maxval < atoi first then atoi first else maxval)
      have hfirst : maxval ≤ (if maxval < atoi first then atoi first else maxval) ∧
          atoi first ≤ (if maxval < atoi first then atoi first else maxval) := by
        split <;> omega
      dsimp only
      rw [List.foldl_cons]
      refine ⟨hfirst.1.trans hstart, ?_, ?_⟩
      · intro gvalue hmem
        cases hmem with
        | head => exact hfirst.2.trans hstart
        | tail _ hmem => exact hall gvalue hmem
      · cases hsome with
        | inl hsome =>
            rw [hsome]
            split
            · exact Or.inr ⟨first, List.mem_cons_self, rfl⟩
            · exact Or.inl rfl
        | inr hsome =>
            obtain ⟨gvalue, hmem, hresult⟩ := hsome
            exact Or.inr ⟨gvalue, List.mem_cons_of_mem first hmem, hresult⟩

theorem maxExpires_eq_zero {rLine : Str} {sip : SipFields}
    (h : ∀ gvalue ∈ contactExpires rLine sip, atoi gvalue ≤ 0) : maxExpires rLine sip = 0 := by
  obtain ⟨hstart, -, hsome⟩ := foldl_atoi (contactExpires rLine sip) 0
  cases hsome with
  | inl hsome => exact hsome
  | inr hsome =>
      obtain ⟨gvalue, hmem, hresult⟩ := hsome
      exact le_antisymm (hresult.trans_le (h gvalue hmem)) hstart

theorem maxExpires_le {lifetime : Lifetime} {sip : SipFields} {expiry : Nat}
    (h : lifetime.ByContact sip expiry) : maxExpires lifetime.rLine sip ≤ expiry := by
  obtain ⟨-, -, hsome⟩ := foldl_atoi (contactExpires lifetime.rLine sip) 0
  cases hsome with
  | inl hsome => exact hsome.trans_le (Int.natCast_nonneg expiry)
  | inr hsome =>
      obtain ⟨gvalue, hmem, hresult⟩ := hsome
      exact hresult.trans_le (h.2 gvalue hmem)

theorem maxExpires_of_lt {lifetime : Lifetime} {sip : SipFields} {expiry : Nat}
    (h : lifetime.ByContact sip expiry) (hlt : expiry < 2147483648) :
    maxExpires lifetime.rLine sip = expiry := by
  obtain ⟨gvalue, hmem, hgranted⟩ := h.1
  have hge := (foldl_atoi (contactExpires lifetime.rLine sip) 0).2.1 gvalue hmem
  rw [atoi_of_lt hgranted hlt] at hge
  exact le_antisymm (maxExpires_le h) hge

theorem maxExpires_lt (rLine : Str) (sip : SipFields) : maxExpires rLine sip < 2147483648 := by
  obtain ⟨-, -, hsome⟩ := foldl_atoi (contactExpires rLine sip) 0
  cases hsome with
  | inl hsome => exact hsome.trans_lt (by decide)
  | inr hsome =>
      obtain ⟨gvalue, -, hresult⟩ := hsome
      exact hresult.trans_lt (toInt32_range (strtol gvalue)).2

theorem maxExpires_nonneg (rLine : Str) (sip : SipFields) : 0 ≤ maxExpires rLine sip :=
  (foldl_atoi (contactExpires rLine sip) 0).1

/-- A Contact that grants a lifetime to a registration whose period may have been shortened
by an Expires header already. -/
theorem refreshAge_updateExpires {lifetime : Lifetime} {sip : SipFields} {expiry : Nat}
    (h : lifetime.ByContact sip expiry) (hexpiry : 30 ≤ expiry) {period : Int}
    (hint : period < 2147483648) :
    refreshAge .registration (updateExpiresAccordingToContact lifetime.rLine period
        (some lifetime.origRequest) sip) + 1 < expiry ↔
      refreshAge .registration period + 1 < expiry ∨
        ((expiry : Int) < period - 15 ∧ lifetime.origRequest.contacts.length = 1) := by
  by_cases hlt : expiry < 2147483648
  · have hmax := maxExpires_of_lt h hlt
    have hnonzero : (expiry : Int) ≠ 0 := by omega
    unfold updateExpiresAccordingToContact
    dsimp only
    rw [hmax]
    by_cases hsingle : lifetime.origRequest.contacts.length = 1
    · rw [if_neg (not_not_intro hsingle), if_neg hnonzero, and_iff_left hsingle]
      by_cases hmore : period < expiry
      · have hage : refreshAge .registration period ≤ period - 6 :=
          (min_le_right _ _).trans (min_le_right _ _)
        have hasked : refreshAge .registration period + 1 < expiry := by omega
        have hstored := refreshAge_self .registration expiry (by omega)
        rw [if_neg (by omega), if_pos hmore]
        simp only [hstored, hasked, true_or]
      · rw [if_neg hmore]
        exact refreshAge_ite .registration hexpiry
    · rw [if_pos hsingle]
      simp only [hsingle, and_false, or_false]
  · have hbound : updateExpiresAccordingToContact lifetime.rLine period
        (some lifetime.origRequest) sip < 2147483648 := by
      have hmax := maxExpires_lt lifetime.rLine sip
      unfold updateExpiresAccordingToContact
      dsimp only
      split_ifs <;> assumption
    have hasked := refreshAge_of_large .registration hint (not_lt.1 hlt)
    have hstored := refreshAge_of_large .registration hbound (not_lt.1 hlt)
    simp only [hstored, hasked, true_or]

theorem updateExpires_eq_self {rLine : Str} {sip : SipFields} (h : maxExpires rLine sip = 0)
    (period : Int) (origRequest : SipFields) :
    updateExpiresAccordingToContact rLine period (some origRequest) sip = period := by
  unfold updateExpiresAccordingToContact
  dsimp only
  simp only [h, if_true, ite_self]

theorem updateExpires_ne_zero {rLine : Str} {sip : SipFields} {period : Int} (h : period ≠ 0)
    (origRequest : Option SipFields) :
    updateExpiresAccordingToContact rLine period origRequest sip ≠ 0 := by
  unfold updateExpiresAccordingToContact
  split
  · exact h
  · dsimp only
    split_ifs <;> assumption

/-! ### The granted lifetime -/

theorem rcv2xx_registration {lifetime : Lifetime} (h : lifetime.kind = .registration)
    {sip : SipFields} {expiry : Nat} (hgrants : lifetime.Grants sip expiry)
    (hexpiry : 30 ≤ expiry) :
    (lifetime.rcv2xx sip ≠ 0 ∧
        refreshAge .registration (lifetime.rcv2xx sip) + 1 < expiry) ↔
      lifetime.InTime sip expiry := by
  have hrange := expiresPeriod_range lifetime.period_pos sip
  have hlt := lifetime.period_lt
  have hpos := lifetime.period_pos
  rw [Grants, h] at hgrants
  dsimp only at hgrants
  by_cases hstep : lifetime.registrationStep = .deletionProceeding
  · have hcompared : lifetime.comparedPeriod sip = lifetime.period := by
      simp [comparedPeriod, hstep]
    have htakes : ¬ lifetime.TakesOver sip := by simp [TakesOver, h, hstep]
    have hstored : lifetime.rcv2xx sip = lifetime.period := by simp [rcv2xx, h, hstep]
    simp [InTime, h, hcompared, htakes, hstored, hpos.ne']
  · have hstored : lifetime.rcv2xx sip = updateExpiresAccordingToContact lifetime.rLine
        (expiresPeriod lifetime.period sip) (some lifetime.origRequest) sip := by
      simp [rcv2xx, h, hstep]
    have hne : lifetime.rcv2xx sip ≠ 0 := by
      rw [hstored]
      exact updateExpires_ne_zero (by omega) _
    have hperiod : expiresPeriod lifetime.period sip < 2147483648 := by omega
    rw [and_iff_right hne, hstored]
    by_cases hmax : 0 < maxExpires lifetime.rLine sip
    · have hcontact : lifetime.ByContact sip expiry := by
        cases hgrants with
        | inl hgrants => exact hgrants
        | inr hgrants => exact absurd (maxExpires_eq_zero hgrants.1) hmax.ne'
      have hcompared : lifetime.comparedPeriod sip = expiresPeriod lifetime.period sip := by
        simp [comparedPeriod, h, hstep, hmax]
      have htakes : lifetime.TakesOver sip ↔ lifetime.origRequest.contacts.length = 1 := by
        simp [TakesOver, h, hstep, hmax]
      rw [refreshAge_updateExpires hcontact hexpiry hperiod]
      simp [InTime, h, hcompared, htakes]
    · have hzero : maxExpires lifetime.rLine sip = 0 :=
        le_antisymm (not_lt.1 hmax) (maxExpires_nonneg _ _)
      have hcompared : lifetime.comparedPeriod sip = lifetime.period := by
        simp [comparedPeriod, hmax]
      have htakes : lifetime.TakesOver sip := by simp [TakesOver, hstep, hmax]
      rw [updateExpires_eq_self hzero]
      simp only [InTime, h, hcompared, htakes, and_true, reduceCtorEq, false_implies]
      cases hgrants with
      | inl hgrants =>
          -- a positive number that an `int` holds would be the largest
          have hlarge : 2147483648 ≤ expiry := by
            by_contra hsmall
            have hvalue := maxExpires_of_lt hgrants (not_le.1 hsmall)
            omega
          have hasked := refreshAge_of_large .registration hlt hlarge
          have hshort := refreshAge_of_large .registration hperiod hlarge
          simp only [hshort, hasked, true_or]
      | inr hgrants => exact refreshAge_expiresPeriod .registration hgrants.2 hexpiry hpos hlt

/-- In every registration, subscription dialog and publication, whatever period was asked for
and whatever lifetime was granted. -/
theorem neverLapses_iff (lifetime : Lifetime) (answer : LifetimeAnswer) {expiry : Nat}
    (hexpiry : 30 ≤ expiry) (hgrants : lifetime.Grants answer.sip expiry) :
    lifetime.NeverLapses answer expiry ↔ lifetime.InTime answer.sip expiry := by
  have hlt := lifetime.period_lt
  have hpos := lifetime.period_pos
  rw [neverLapses_iff_period]
  cases hkind : lifetime.kind with
  | registration => exact rcv2xx_registration hkind hgrants hexpiry
  | subscription =>
      rw [Grants, hkind] at hgrants
      have hstored : lifetime.rcv2xx answer.sip =
          subscriptionSetRefreshInterval lifetime.period answer.sip := by simp [rcv2xx, hkind]
      rw [hstored, refreshAge_subscription hgrants hexpiry hpos hlt]
      simp [InTime, hkind, comparedPeriod, TakesOver]
  | publication =>
      rw [Grants, hkind] at hgrants
      have hstored : lifetime.rcv2xx answer.sip = expiresPeriod lifetime.period answer.sip := by
        simp [rcv2xx, hkind]
      have hrange := expiresPeriod_range hpos answer.sip
      have hne : expiresPeriod lifetime.period answer.sip ≠ 0 := by omega
      rw [hstored, and_iff_right hne, refreshAge_expiresPeriod .publication hgrants hexpiry hpos hlt]
      simp [InTime, hkind, comparedPeriod, TakesOver]

def registrationFor (period : Int) (hpos : 0 < period) (hlt : period < 2147483648) : Lifetime where
  kind := .registration
  period := period
  registrationStep := .none
  rLine := "1a2b".toList
  origRequest := SipFields.init
  birthTime := 1000
  period_pos := hpos
  period_lt := hlt

def answerWith (hvalue : String) : LifetimeAnswer where
  sip := { SipFields.init with headers := [⟨some "Expires".toList, some hvalue.toList⟩] }
  state := .nictCompleted
  status := 200
  registrationStep := .none
  completed := Or.inl rfl
  success := by omega

/-- Of 3600 seconds the server grants 600. -/
theorem registration_neverLapses :
    (registrationFor 3600 (by omega) (by omega)).NeverLapses (answerWith "600") 600 := by
  refine (neverLapses_iff _ _ (by omega) ?_).2 ?_
  · exact Or.inr ⟨by decide, "600".toList, by decide, by decide⟩
  · exact ⟨Or.inr ⟨by decide, fun _ => ⟨by decide, fun hmax => absurd hmax (by decide)⟩⟩,
      fun hkind => absurd hkind (by decide)⟩

/-- Of a minute the server grants 50 seconds, which are too little less to be taken over. -/
theorem not_neverLapses : ¬ ∀ (lifetime : Lifetime) (answer : LifetimeAnswer) (expiry : Nat),
    30 ≤ expiry → lifetime.Grants answer.sip expiry → lifetime.NeverLapses answer expiry := by
  intro h
  have hlapses := h (registrationFor 60 (by omega) (by omega)) (answerWith "50") 50 (by omega)
    (Or.inr ⟨by decide, "50".toList, by decide, by decide⟩)
  rw [neverLapses_iff_period] at hlapses
  exact absurd hlapses.2 (by decide)

end Lifetime
end Exosip
