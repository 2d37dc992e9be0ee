import Exosip.Automatic.Lifetime

/-! The fail-over of a registration: `_eXosip_mark_registration_expired` rewrites the birth time
of its last transaction, so that a later pass of `eXosip_automatic_action` sends the next
REGISTER. -/
namespace Exosip

open CString

/-- The last transaction of a registration: the Call-ID and the Expires value of its request,
and the Min-Expires value of its last response. -/
structure RegisterTr extends SentTr where
  callId : Option Str
  expires : Option Str
  minExpires : Option Str
  deriving DecidableEq

/-- What is read of an `eXosip_reg_t`. -/
structure Registration where
  rId : Int
  rRegPeriod : Int
  rRetry : Nat
  rRetryfailover : Nat
  registrationStep : RegistrationStep
  rLastTr : Option RegisterTr
  deriving DecidableEq

namespace Registration

/-! ### The mark -/

/-- The registration with that Call-ID. -/
def isFor (callId : Str) (jr : Registration) : Bool :=
  1 ≤ jr.rId && jr.rLastTr.any fun tr =>
    tr.origRequest.isSome && tr.callId.any (osipStrcasecmp · callId)

/-- The counter after it was raised, in seconds. -/
def retryDelay (jr : Registration) : Nat :=
  if jr.rRetryfailover < 60 then jr.rRetryfailover + 1 else jr.rRetryfailover

def markedBirthTime (now : Int) (jr : Registration) : Int :=
  let birthTime :=
    if transactionTimeoutRetry < jr.rRegPeriod - jr.rRegPeriod.tdiv 10 then now - 120
    else jr.rRegPeriod - jr.rRegPeriod.tdiv 10
  birthTime + jr.retryDelay

def markExpired (now : Int) (jr : Registration) : Registration :=
  { jr with
    rRetryfailover := jr.retryDelay
    rLastTr := jr.rLastTr.map fun tr => { tr with birthTime := jr.markedBirthTime now } }

/-! ### The passes -/

/-- `eXosip_register_send_register` with the request that `_eXosip_register_build_register`
makes: what is left of the registration when no REGISTER is sent. -/
def sendRegister (jr : Registration) (tr : RegisterTr) : Option Registration :=
  if !tr.isOverNict then some jr
  else if tr.origRequest.isNone then some jr
  else if tr.lastResponse = some 423 && !(tr.expires.isSome && tr.minExpires.isSome) then
    -- the transaction was given up before the period is looked for
    some { jr with rLastTr := none }
  else none

def automaticAction (now : Int) (jr : Registration) : Option Registration :=
  match jr.rLastTr with
  | none => some jr
  | some tr =>
      if 1 ≤ jr.rId then
        match registrationRequest now ⟨jr.rRegPeriod, jr.registrationStep⟩ tr.toSentTr with
        | .nothing => some jr
        | .counted =>
            if jr.rRetry < 3 then
              (jr.sendRegister tr).map fun jr => { jr with rRetry := jr.rRetry + 1 }
            else some jr
        | .uncounted => jr.sendRegister tr
        | .refresh _ => jr.sendRegister tr
        -- the step is put back when nothing was sent
        | .proceed _ => jr.sendRegister tr
      else some jr

def nextRegister : List Int → Registration → Option Nat
  | [], _ => none
  | now :: times, jr =>
      match jr.automaticAction now with
      | none => some 0
      | some jr => (nextRegister times jr).map (· + 1)

end Registration

/-- `_eXosip_mark_registration_expired`. -/
def markRegistrationExpired (now : Int) (callId : Str) (regs : List Registration) :
    List Registration :=
  regs.map fun jr => if jr.isFor callId then jr.markExpired now else jr

/-- Each registration with the Call-ID is tried again by the first pass for which the delay is
over, and not before. -/
def FailsOver (now : Int) (callId : Str) (regs : List Registration) : Prop :=
  ∀ (i : Nat) (jr marked : Registration), regs[i]? = some jr → jr.isFor callId = true →
    (markRegistrationExpired now callId regs)[i]? = some marked →
    ∀ times : List Int, times.Pairwise (· ≤ ·) → (∀ time ∈ times, now ≤ time) →
      marked.nextRegister times = times.findIdx? fun time => now + jr.retryDelay ≤ time

namespace Registration

/-- The REGISTER that follows this transaction is sent when it is asked for. -/
def Ready (tr : RegisterTr) : Prop :=
  tr.isOverNict = true ∧ tr.origRequest ≠ none ∧
    (tr.lastResponse = some 423 → tr.expires ≠ none ∧ tr.minExpires ≠ none)

/-- The answers that are followed by another REGISTER at once, three times. -/
def IsCounted (jr : Registration) (tr : RegisterTr) : Prop :=
  jr.rRetry < 3 ∧ tr.lastResponse.any (fun code => isChallenge code || code == 423 || code == 606)

/-- The answers that are followed by another REGISTER at once because of the step. -/
def Proceeds (jr : Registration) (tr : RegisterTr) : Prop :=
  (jr.registrationStep = .deletionRequired ∨ jr.registrationStep = .masqueradingRequired) ∧
    tr.succeeded = true

/-- The time at which the pass that is in time is the one after the mark: the birth time of a
registration with a short period is put at the beginning of the clock. -/
def Punctual (now : Int) (jr : Registration) : Prop :=
  ∃ tr, jr.rLastTr = some tr ∧ Ready tr ∧ ¬ jr.Proceeds tr ∧ jr.rRegPeriod ≠ 0 ∧
    jr.rRegPeriod - jr.rRegPeriod.tdiv 10 ≤ 120 ∧
    now = jr.rRegPeriod - jr.rRegPeriod.tdiv 10 +
      Lifetime.refreshAge .registration jr.rRegPeriod + 1 ∧
    (jr.IsCounted tr → Lifetime.refreshAge .registration jr.rRegPeriod = 120 ∧ jr.retryDelay = 1)

/-! ### What a pass does -/

/-- The pass finds that the period is over, or that the request failed long ago. -/
def Refreshes (now : Int) (jr : Registration) (tr : RegisterTr) : Prop :=
  jr.rRegPeriod ≠ 0 ∧ (Lifetime.refreshAge .registration jr.rRegPeriod < tr.age now ∨
    transactionTimeoutRetry < tr.age now ∧ tr.succeeded = false)

def Asks (now : Int) (jr : Registration) (tr : RegisterTr) : Prop :=
  jr.Refreshes now tr ∨ (tr.age now < transactionTimeoutRetry ∧ jr.IsCounted tr) ∨ jr.Proceeds tr

theorem registrationRequest_of_refreshes {now : Int} {jr : Registration} {tr : RegisterTr}
    (h : jr.Refreshes now tr) :
    registrationRequest now ⟨jr.rRegPeriod, jr.registrationStep⟩ tr.toSentTr =
      .refresh tr.origRequest := by
  obtain ⟨hperiod, hage⟩ := h
  rw [Lifetime.refreshAge, min_lt_iff, min_lt_iff] at hage
  unfold registrationRequest
  obtain (hold | hperiodic) | hfailed := hage
  · simp [hperiod, hold]
  · simp [hperiod, hperiodic]
  · simp [hperiod, hfailed]

theorem registrationRequest_of_not_refreshes {now : Int} {jr : Registration} {tr : RegisterTr}
    (h : ¬ jr.Refreshes now tr) :
    registrationRequest now ⟨jr.rRegPeriod, jr.registrationStep⟩ tr.toSentTr =
      if tr.rejectedBy now fun code => isChallenge code || code == 423 || code == 606 then .counted
      else if jr.registrationStep = .deletionRequired && tr.origRequest.isSome && tr.succeeded then
        .proceed .deletionProceeding
      else if jr.registrationStep = .masqueradingRequired && tr.origRequest.isSome &&
          tr.succeeded then
        .proceed .masqueradingProceeding
      else .nothing := by
  rw [Refreshes, Lifetime.refreshAge, min_lt_iff, min_lt_iff] at h
  unfold registrationRequest
  by_cases hperiod : jr.rRegPeriod = 0
  · simp [hperiod]
  · simp only [ne_eq, hperiod, not_false_eq_true, true_and, not_or, not_and] at h
    obtain ⟨⟨hold, hperiodic⟩, hfailed⟩ := h
    rw [if_neg (by simp [hold]), if_neg (by simp [hperiodic]),
      if_neg (by simpa using fun _ => hfailed)]

theorem sendRegister_of_ready {tr : RegisterTr} (h : Ready tr) (jr : Registration) :
    jr.sendRegister tr = none := by
  obtain ⟨hover, hrequest, hmin⟩ := h
  unfold sendRegister
  by_cases hstatus : tr.lastResponse = some 423
  · simp [hover, hrequest, hmin hstatus]
  · simp [hover, hrequest, hstatus]

theorem sendRegister_of_not_ready {tr : RegisterTr} (h : ¬ Ready tr) (jr : Registration) :
    jr.sendRegister tr ≠ none := by
  intro hnone
  apply h
  unfold sendRegister at hnone
  split_ifs at hnone with hover hrequest hmin
  refine ⟨by simpa using hover, by simpa using hrequest, ?_⟩
  intro hstatus
  simpa [hstatus, Option.isSome_iff_ne_none] using hmin

theorem automaticAction_of_not_ready {jr : Registration} {tr : RegisterTr}
    (htr : jr.rLastTr = some tr) (h : ¬ Ready tr) (now : Int) : jr.automaticAction now ≠ none := by
  have hsend := sendRegister_of_not_ready h jr
  unfold automaticAction
  rw [htr]
  dsimp only
  by_cases hid : 1 ≤ jr.rId
  · rw [if_pos hid]
    cases registrationRequest now ⟨jr.rRegPeriod, jr.registrationStep⟩ tr.toSentTr with
    | nothing => exact Option.some_ne_none jr
    | counted =>
        dsimp only
        split_ifs
        · rwa [Ne, Option.map_eq_none_iff]
        · exact Option.some_ne_none jr
    | uncounted => exact hsend
    | refresh method => exact hsend
    | proceed step => exact hsend
  · rw [if_neg hid]
    exact Option.some_ne_none jr

theorem automaticAction_of_ready {jr : Registration} {tr : RegisterTr} (hid : 1 ≤ jr.rId)
    (htr : jr.rLastTr = some tr) (h : Ready tr) (now : Int) :
    (jr.automaticAction now = none ∧ jr.Asks now tr) ∨
      (jr.automaticAction now = some jr ∧ ¬ jr.Asks now tr) := by
  have hsend := sendRegister_of_ready h jr
  have hrequest : tr.origRequest.isSome = true := Option.isSome_iff_ne_none.2 h.2.1
  unfold automaticAction Asks
  rw [htr]
  dsimp only
  rw [if_pos hid]
  by_cases hrefreshes : jr.Refreshes now tr
  · rw [registrationRequest_of_refreshes hrefreshes]
    exact Or.inl ⟨hsend, Or.inl hrefreshes⟩
  · rw [registrationRequest_of_not_refreshes hrefreshes]
    by_cases hrejected :
        tr.rejectedBy now fun code => isChallenge code || code == 423 || code == 606
    · rw [if_pos hrejected]
      simp only [SentTr.rejectedBy, Bool.and_eq_true, decide_eq_true_eq] at hrejected
      have hfailed : ¬ jr.Proceeds tr := by
        intro hproceeds
        obtain ⟨code, hcode, hsuccess⟩ := (Option.any_eq_true _ _).1 hproceeds.2
        have hother := hrejected.2
        rw [hcode] at hother
        simp [isChallenge] at hsuccess hother
        omega
      by_cases hretry : jr.rRetry < 3
      · exact Or.inl ⟨by simp [hretry, hsend], Or.inr (Or.inl ⟨hrejected.1.1, hretry, hrejected.2⟩)⟩
      · exact Or.inr ⟨by simp [hretry], by simp [hrefreshes, IsCounted, hretry, hfailed]⟩
    · rw [if_neg hrejected]
      have hcounted : ¬ (tr.age now < transactionTimeoutRetry ∧ jr.IsCounted tr) := by
        intro hcounted
        apply hrejected
        simp only [SentTr.rejectedBy, hrequest, hcounted.1, hcounted.2.2, decide_true,
          Bool.and_self]
      by_cases hproceeds : jr.Proceeds tr
      · refine Or.inl ⟨?_, Or.inr (Or.inr hproceeds)⟩
        obtain ⟨hstep | hstep, hsuccess⟩ := hproceeds
        · simp [hstep, hrequest, hsuccess, hsend]
        · simp [hstep, hrequest, hsuccess, hsend]
      · refine Or.inr ⟨?_, by simp [hrefreshes, hcounted, hproceeds]⟩
        rw [Proceeds, or_and_right, not_or] at hproceeds
        rw [if_neg (by simpa [hrequest] using hproceeds.1),
          if_neg (by simpa [hrequest] using hproceeds.2)]

theorem nextRegister_of_ready {jr : Registration} {tr : RegisterTr} (hid : 1 ≤ jr.rId)
    (htr : jr.rLastTr = some tr) (h : Ready tr) (p : Int → Bool) {times : List Int}
    (hp : ∀ time ∈ times, jr.Asks time tr ↔ p time = true) :
    jr.nextRegister times = times.findIdx? p := by
  induction times with
  | nil => rfl
  | cons now times ih =>
      rw [List.forall_mem_cons] at hp
      rw [nextRegister, List.findIdx?_cons]
      obtain ⟨hsent, hasks⟩ | ⟨hkept, hasks⟩ := automaticAction_of_ready hid htr h now
      · rw [hsent, if_pos (hp.1.1 hasks)]
      · rw [hkept, if_neg (fun hnow => hasks (hp.1.2 hnow))]
        dsimp only
        rw [ih hp.2]

theorem asks_of_nextRegister {jr : Registration} {tr : RegisterTr} (hid : 1 ≤ jr.rId)
    (htr : jr.rLastTr = some tr) (p : Int → Bool) {now : Int}
    (h : jr.nextRegister [now] = [now].findIdx? p) :
    (p now = true → Ready tr) ∧ (Ready tr → (jr.Asks now tr ↔ p now = true)) := by
  constructor
  · intro hnow
    by_contra hready
    have hkept := automaticAction_of_not_ready htr hready now
    obtain ⟨jr', hjr'⟩ := Option.ne_none_iff_exists'.1 hkept
    simp [nextRegister, hjr', hnow] at h
  · intro hready
    obtain ⟨hsent, hasks⟩ | ⟨hkept, hasks⟩ := automaticAction_of_ready hid htr hready now
    · simpa [nextRegister, hsent, hasks] using h
    · simpa [nextRegister, hkept, hasks] using h

/-! ### After the mark -/

theorem retryDelay_pos (jr : Registration) : 1 ≤ jr.retryDelay := by
  unfold retryDelay
  split <;> omega

theorem asks_markExpired (now time : Int) (jr : Registration) (tr : RegisterTr) :
    (jr.markExpired now).Asks time { tr with birthTime := jr.markedBirthTime now } ↔
      (jr.rRegPeriod ≠ 0 ∧
        (Lifetime.refreshAge .registration jr.rRegPeriod < time - jr.markedBirthTime now ∨
          120 < time - jr.markedBirthTime now ∧ tr.succeeded = false)) ∨
      (time - jr.markedBirthTime now < 120 ∧ jr.IsCounted tr) ∨ jr.Proceeds tr :=
  Iff.rfl

theorem refreshAge_long {period : Int} (h : 120 < period - period.tdiv 10) :
    120 < Lifetime.refreshAge .registration period := by
  have hperiod : 126 < period := by
    by_contra hsmall
    rw [Int.tdiv_eq_ediv, show Int.sign 10 = 1 from rfl] at h
    split_ifs at h <;> omega
  rw [Lifetime.refreshAge]
  omega

theorem refreshAge_short {period : Int} (h : period - period.tdiv 10 ≤ 120) :
    Lifetime.refreshAge .registration period ≤ 120 := by
  rw [Lifetime.refreshAge]
  omega

theorem markedBirthTime_long {jr : Registration}
    (h : 120 < jr.rRegPeriod - jr.rRegPeriod.tdiv 10) (now : Int) :
    jr.markedBirthTime now = now - 120 + jr.retryDelay := by
  simp [markedBirthTime, transactionTimeoutRetry, h]

theorem markedBirthTime_short {jr : Registration}
    (h : jr.rRegPeriod - jr.rRegPeriod.tdiv 10 ≤ 120) (now : Int) :
    jr.markedBirthTime now = jr.rRegPeriod - jr.rRegPeriod.tdiv 10 + jr.retryDelay := by
  simp [markedBirthTime, transactionTimeoutRetry, not_lt.2 h]

theorem failed_or_age_short {limit age : Int} (h : limit ≤ 120) (failed : Prop) :
    (limit < age ∨ 120 < age ∧ failed) ↔ limit < age :=
  or_iff_left_of_imp fun hold => h.trans_lt hold.1

/-- The birth time of a long period leaves the pass in time just short of the 120 seconds; that
of a short one does not depend on the time of the mark. -/
theorem forall_asks_iff (now : Int) (jr : Registration) (tr : RegisterTr) :
    (∀ time, now ≤ time →
      ((jr.markExpired now).Asks time { tr with birthTime := jr.markedBirthTime now } ↔
        now + jr.retryDelay ≤ time)) ↔
      ¬ jr.Proceeds tr ∧ jr.rRegPeriod ≠ 0 ∧ jr.rRegPeriod - jr.rRegPeriod.tdiv 10 ≤ 120 ∧
        now = jr.rRegPeriod - jr.rRegPeriod.tdiv 10 +
          Lifetime.refreshAge .registration jr.rRegPeriod + 1 ∧
        (jr.IsCounted tr →
          Lifetime.refreshAge .registration jr.rRegPeriod = 120 ∧ jr.retryDelay = 1) := by
  have hdelay := jr.retryDelay_pos
  simp only [asks_markExpired]
  constructor
  · intro h
    have hproceeds : ¬ jr.Proceeds tr := by
      intro hproceeds
      have hnow := (h now (Int.le_refl now)).1 (Or.inr (Or.inr hproceeds))
      omega
    simp only [hproceeds, or_false] at h
    have hperiod : jr.rRegPeriod ≠ 0 := by
      intro hzero
      have hlate := (h (max (now + jr.retryDelay) (jr.markedBirthTime now + 120)) (by omega)).2
        (by omega)
      simp only [hzero, ne_eq, not_true_eq_false, false_and, false_or] at hlate
      omega
    simp only [ne_eq, hperiod, not_false_eq_true, true_and] at h
    have hsmall : jr.rRegPeriod - jr.rRegPeriod.tdiv 10 ≤ 120 := by
      by_contra hlarge
      rw [not_le] at hlarge
      have hbirth := markedBirthTime_long hlarge now
      have hretry := (h (now + jr.retryDelay) (by omega)).2 (Int.le_refl _)
      have hage := refreshAge_long hlarge
      omega
    refine ⟨hproceeds, hperiod, hsmall, ?_⟩
    have hbirth := markedBirthTime_short hsmall now
    have hage := refreshAge_short hsmall
    simp only [failed_or_age_short hage] at h
    -- the pass of the mark, the first one in time and the last one too early
    have hnow := (not_congr (h now (Int.le_refl now))).2 (by omega)
    have hretry := (h (now + jr.retryDelay) (by omega)).2 (Int.le_refl _)
    have hearly := (not_congr (h (now + jr.retryDelay - 1) (by omega))).2 (by omega)
    by_cases hanswer : jr.IsCounted tr
    · simp only [hanswer, and_true] at hnow hretry hearly
      refine ⟨?_, fun _ => ⟨?_, ?_⟩⟩ <;> omega
    · simp only [hanswer, and_false, or_false] at hretry hearly
      exact ⟨by omega, fun hcounted => absurd hcounted hanswer⟩
  · intro h
    obtain ⟨hproceeds, hperiod, hsmall, hnow, hcounted⟩ := h
    intro time htime
    have hbirth := markedBirthTime_short hsmall now
    have hage := refreshAge_short hsmall
    simp only [hproceeds, or_false, ne_eq, hperiod, not_false_eq_true, true_and,
      failed_or_age_short hage]
    by_cases hanswer : jr.IsCounted tr
    · have htight := hcounted hanswer
      simp only [hanswer, and_true]
      omega
    · simp only [hanswer, and_false, or_false]
      omega

theorem isFor_iff {callId : Str} {jr : Registration} :
    jr.isFor callId = true ↔ 1 ≤ jr.rId ∧ ∃ tr, jr.rLastTr = some tr ∧
      tr.origRequest.isSome = true ∧ tr.callId.any (osipStrcasecmp · callId) = true := by
  rw [isFor, Bool.and_eq_true, decide_eq_true_eq, Option.any_eq_true]
  simp only [Bool.and_eq_true]

theorem nextRegister_markExpired_iff {now : Int} {jr : Registration} {tr : RegisterTr}
    (hid : 1 ≤ jr.rId) (htr : jr.rLastTr = some tr) :
    (∀ times : List Int, times.Pairwise (· ≤ ·) → (∀ time ∈ times, now ≤ time) →
      (jr.markExpired now).nextRegister times =
        times.findIdx? fun time => now + jr.retryDelay ≤ time) ↔ jr.Punctual now := by
  have hmarked : (jr.markExpired now).rLastTr =
      some { tr with birthTime := jr.markedBirthTime now } := by
    rw [markExpired, htr, Option.map_some]
  have hpunctual : jr.Punctual now ↔ Ready tr ∧ ∀ time, now ≤ time →
      ((jr.markExpired now).Asks time { tr with birthTime := jr.markedBirthTime now } ↔
        now + jr.retryDelay ≤ time) := by
    rw [forall_asks_iff]
    simp only [Punctual, htr, Option.some.injEq, exists_eq_left']
  have hid : 1 ≤ (jr.markExpired now).rId := hid
  rw [hpunctual]
  constructor
  · intro h
    have hsingle (time : Int) (htime : now ≤ time) :=
      asks_of_nextRegister hid hmarked (fun time => now + jr.retryDelay ≤ time)
        (h [time] (List.pairwise_singleton _ _) (by simpa using htime))
    have hready : Ready { tr with birthTime := jr.markedBirthTime now } :=
      (hsingle (now + jr.retryDelay) (by omega)).1 (by simp)
    refine ⟨hready, ?_⟩
    intro time htime
    rw [(hsingle time htime).2 hready, decide_eq_true_eq]
  · intro h times _ hlate
    have hready : Ready { tr with birthTime := jr.markedBirthTime now } := h.1
    apply nextRegister_of_ready hid hmarked hready
    intro time htime
    rw [h.2 time (hlate time htime), decide_eq_true_eq]

theorem nextRegister_of_failed {now : Int} {jr : Registration} {tr : RegisterTr} (hid : 1 ≤ jr.rId)
    (htr : jr.rLastTr = some tr) (hready : Ready tr) (hfailed : tr.succeeded = false)
    (hanswer : ¬ jr.IsCounted tr) (hlong : 120 < jr.rRegPeriod - jr.rRegPeriod.tdiv 10)
    (times : List Int) :
    (jr.markExpired now).nextRegister times =
      times.findIdx? fun time => now + jr.retryDelay < time := by
  have hmarked : (jr.markExpired now).rLastTr =
      some { tr with birthTime := jr.markedBirthTime now } := by
    rw [markExpired, htr, Option.map_some]
  have hid : 1 ≤ (jr.markExpired now).rId := hid
  have hready : Ready { tr with birthTime := jr.markedBirthTime now } := hready
  have hperiod : jr.rRegPeriod ≠ 0 := by
    intro hzero
    rw [hzero] at hlong
    exact absurd hlong (by decide)
  have hbirth := markedBirthTime_long hlong now
  have hage := refreshAge_long hlong
  apply nextRegister_of_ready hid hmarked hready
  intro time _
  rw [asks_markExpired, decide_eq_true_eq]
  simp only [Proceeds, hfailed, hanswer, ne_eq, hperiod, not_false_eq_true, true_and, and_true,
    and_false, or_false, Bool.false_eq_true]
  omega

end Registration

/-- In every set of registrations, at every time. -/
theorem failsOver_iff (now : Int) (callId : Str) (regs : List Registration) :
    FailsOver now callId regs ↔
      ∀ jr ∈ regs, jr.isFor callId = true → jr.Punctual now := by
  constructor
  · intro h jr hmem hfor
    obtain ⟨hid, tr, htr, -⟩ := Registration.isFor_iff.1 hfor
    obtain ⟨i, hi⟩ := List.mem_iff_getElem?.1 hmem
    refine (Registration.nextRegister_markExpired_iff hid htr).1 (h i jr _ hi hfor ?_)
    simp [markRegistrationExpired, hi, hfor]
  · intro h i jr marked hi hfor hmarked
    obtain ⟨hid, tr, htr, -⟩ := Registration.isFor_iff.1 hfor
    rw [markRegistrationExpired, List.getElem?_map, hi, Option.map_some, if_pos hfor,
      Option.some.injEq] at hmarked
    rw [← hmarked]
    exact (Registration.nextRegister_markExpired_iff hid htr).2
      (h jr (List.mem_of_getElem? hi) hfor)

def minuteRegistration : Registration where
  rId := 1
  rRegPeriod := 60
  rRetry := 0
  rRetryfailover := 0
  registrationStep := .none
  rLastTr := some
    { state := .nictCompleted, birthTime := 1700000000, origRequest := some "REGISTER".toList
      lastResponse := some 200, callId := some "a7".toList, expires := some "60".toList
      minExpires := none }

/-- The second after the connection was lost is not waited for. -/
theorem not_failsOver : ¬ ∀ (now : Int) (callId : Str) (regs : List Registration),
    FailsOver now callId regs := by
  intro h
  have hretry := h 1700000010 "a7".toList [minuteRegistration] 0 minuteRegistration _ rfl
    (by decide) rfl [1700000010] (List.pairwise_singleton _ _) (by simp)
  exact absurd hretry (by decide)

end Exosip
