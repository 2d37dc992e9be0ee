import Exosip.Stack.Clock
import Exosip.Stack.Osip
import Exosip.Stack.Retransmission

/-! `osip_timers_gettimeout`: how long the stack may sleep. -/
namespace Exosip

def ictTimers (tr : Transaction Ict) : List Timeval :=
  (if tr.state = .ictCalling then [tr.ctx.timerBStart] else []) ++
    (if tr.state = .ictCalling then [tr.ctx.timerAStart] else []) ++
    (if tr.state = .ictCompleted then [tr.ctx.timerDStart] else [])

def istTimers (tr : Transaction Ist) : List Timeval :=
  (if tr.state = .istConfirmed then [tr.ctx.timerIStart] else []) ++
    (if tr.state = .istCompleted then [tr.ctx.timerHStart] else []) ++
    (if tr.state = .istCompleted then [tr.ctx.timerGStart] else [])

def nictTimers (tr : Transaction Nict) : List Timeval :=
  (if tr.state = .nictCompleted then [tr.ctx.timerKStart] else []) ++
    (if tr.state = .nictProceeding ∨ tr.state = .nictTrying then [tr.ctx.timerFStart] else []) ++
    (if tr.state = .nictProceeding ∨ tr.state = .nictTrying then [tr.ctx.timerEStart] else [])

def nistTimers (tr : Transaction Nist) : List Timeval :=
  if tr.state = .nistCompleted then [tr.ctx.timerJStart] else []

/-- One of the five loops, from the value `lowerTv` so far: `none` is the return in the
middle of the loop with a delay of zero. -/
def gettimeoutLoop {α : Type} (now : Instant) (pending : α → Bool) (timers : α → List Timeval)
    (lowerTv : Timeval) : List α → Option Timeval
  | [] => some lowerTv
  | tr :: rest =>
      if pending tr then none
      else
        let lowerTv := (timers tr).foldl Timeval.minTimercmp lowerTv
        if Timeval.osipTimercmpGt now.toTimeval lowerTv then none
        else gettimeoutLoop now pending timers lowerTv rest

def wakeUpEveryYear (now : Instant) : Timeval := ⟨now.tvSec + 3600 * 24 * 365, now.tvUsec⟩

/-- The time that is left until `lowerTv`. -/
def delayUntil (now : Instant) (lowerTv : Timeval) : Timeval :=
  let delay : Timeval := ⟨lowerTv.tvSec - now.tvSec, lowerTv.tvUsec - now.tvUsec⟩
  let delay : Timeval :=
    if delay.tvUsec < 0 then ⟨delay.tvSec - 1, delay.tvUsec + 1000000⟩ else delay
  let delay : Timeval := if delay.tvSec < 0 then Timeval.zero else delay
  if delay.tvUsec > 1000000 then ⟨delay.tvSec + 1, delay.tvUsec - 1000000⟩ else delay

/-- Only the loop over the INVITE clients looks at the fifos. -/
def osipTimersGettimeout (now : Instant) (osip : Osip) : Timeval :=
  let lower := do
    let lowerTv ← gettimeoutLoop now (fun tr => 1 ≤ tr.transactionff.length) ictTimers
      (wakeUpEveryYear now) osip.ictTransactions
    let lowerTv ← gettimeoutLoop now (fun _ => false) istTimers lowerTv osip.istTransactions
    let lowerTv ← gettimeoutLoop now (fun _ => false) nictTimers lowerTv osip.nictTransactions
    let lowerTv ← gettimeoutLoop now (fun _ => false) nistTimers lowerTv osip.nistTransactions
    gettimeoutLoop now (fun _ => false) (fun ixt : Ixt => [ixt.start]) lowerTv
      osip.ixtRetransmissions
  match lower with
  | none => Timeval.zero
  | some lowerTv => delayUntil now lowerTv

section Loop

/-- `lower` is the earliest of the times in `S`, or the wake-up at `latest` before them. -/
structure IsEarliest (latest : Int) (S : Set Timeval) (lower : Timeval) : Prop where
  normalised : lower.Normalised
  le_latest : lower.usecs ≤ latest
  le : ∀ t ∈ S, lower.usecs ≤ t.usecs
  attained : lower.usecs = latest ∨ ∃ t ∈ S, lower.usecs = t.usecs

variable {latest : Int} {S : Set Timeval} {lower : Timeval}

theorem IsEarliest.congr {T : Set Timeval} (h : IsEarliest latest S lower)
    (hST : ∀ t, t ∈ S ↔ t ∈ T) : IsEarliest latest T lower :=
  (Set.ext hST) ▸ h

theorem IsEarliest.minTimercmp {t : Timeval} (h : IsEarliest latest S lower)
    (ht : t.Normalised) :
    IsEarliest latest (S ∪ {t' | t' = t ∧ t'.Armed}) (lower.minTimercmp t) := by
  have husecs := Timeval.usecs_minTimercmp h.normalised ht
  refine ⟨Timeval.minTimercmp_normalised h.normalised ht, ?_, ?_, ?_⟩
  · have := h.le_latest
    split_ifs at husecs <;> omega
  · rintro t' (ht' | ⟨rfl, harmed⟩)
    · have := h.le t' ht'
      split_ifs at husecs <;> omega
    · rw [if_pos harmed] at husecs
      omega
  · by_cases harmed : t.Armed
    · rw [if_pos harmed] at husecs
      rcases le_total lower.usecs t.usecs with hle | hle
      · rw [min_eq_left hle] at husecs
        rw [husecs]
        exact h.attained.imp id fun ⟨t', ht', heq⟩ => ⟨t', .inl ht', heq⟩
      · rw [min_eq_right hle] at husecs
        exact .inr ⟨t, .inr ⟨rfl, harmed⟩, husecs⟩
    · rw [if_neg harmed] at husecs
      rw [husecs]
      exact h.attained.imp id fun ⟨t', ht', heq⟩ => ⟨t', .inl ht', heq⟩

theorem IsEarliest.foldl {timers : List Timeval} (h : IsEarliest latest S lower)
    (htimers : ∀ t ∈ timers, t.Normalised) :
    IsEarliest latest (S ∪ {t | t ∈ timers ∧ t.Armed})
      (timers.foldl Timeval.minTimercmp lower) := by
  induction timers generalizing lower S with
  | nil => exact h.congr (by simp)
  | cons t timers ih =>
      have hstep := h.minTimercmp (htimers t List.mem_cons_self)
      refine (ih hstep fun t' ht' => htimers t' (List.mem_cons_of_mem _ ht')).congr fun t' => ?_
      simp only [Set.mem_union, Set.mem_ofPred_eq, List.mem_cons, or_and_right, or_assoc]

variable {α : Type} {now : Instant} {pending : α → Bool} {timers : α → List Timeval}

def armedTimers (timers : α → List Timeval) (list : List α) : Set Timeval :=
  {t | t.Armed ∧ ∃ tr ∈ list, t ∈ timers tr}

theorem gettimeoutLoop_cons (tr : α) (rest : List α) :
    gettimeoutLoop now pending timers lower (tr :: rest) =
      if pending tr then none
      else if Timeval.osipTimercmpGt now.toTimeval ((timers tr).foldl Timeval.minTimercmp lower) then
        none
      else gettimeoutLoop now pending timers ((timers tr).foldl Timeval.minTimercmp lower) rest :=
  rfl

theorem gettimeoutLoop_eq_some {list : List α} {lower' : Timeval}
    (hnormalised : ∀ tr ∈ list, ∀ t ∈ timers tr, t.Normalised)
    (h : IsEarliest latest S lower) (hnow : now.usecs ≤ lower.usecs)
    (hloop : gettimeoutLoop now pending timers lower list = some lower') :
    IsEarliest latest (S ∪ armedTimers timers list) lower' ∧ now.usecs ≤ lower'.usecs ∧
      ∀ tr ∈ list, pending tr = false := by
  induction list generalizing lower S with
  | nil =>
      cases hloop
      exact ⟨h.congr (by simp [armedTimers]), hnow, by simp⟩
  | cons tr list ih =>
      rw [gettimeoutLoop_cons] at hloop
      have hstep := h.foldl (hnormalised tr List.mem_cons_self)
      split_ifs at hloop with hpending hexpired
      have hnow' : now.usecs ≤ ((timers tr).foldl Timeval.minTimercmp lower).usecs := by
        rw [Timeval.osipTimercmpGt_iff now.normalised hstep.normalised] at hexpired
        exact not_lt.1 hexpired
      obtain ⟨hlower, hle, hrest⟩ := ih (fun tr' htr' => hnormalised tr'
        (List.mem_cons_of_mem _ htr')) hstep hnow' hloop
      refine ⟨hlower.congr fun t => ?_, hle, ?_⟩
      · simp only [armedTimers, Set.mem_union, Set.mem_ofPred_eq, List.mem_cons,
          exists_eq_or_imp, or_assoc]
        tauto
      · rintro tr' htr'
        rcases List.mem_cons.1 htr' with rfl | htr'
        · simpa using hpending
        · exact hrest tr' htr'

theorem gettimeoutLoop_eq_none {list : List α}
    (hnormalised : ∀ tr ∈ list, ∀ t ∈ timers tr, t.Normalised)
    (h : IsEarliest latest S lower) (hnow : now.usecs ≤ lower.usecs)
    (hloop : gettimeoutLoop now pending timers lower list = none) :
    (∃ tr ∈ list, pending tr = true) ∨ ∃ t ∈ armedTimers timers list, t.usecs < now.usecs := by
  induction list generalizing lower S with
  | nil => cases hloop
  | cons tr list ih =>
      rw [gettimeoutLoop_cons] at hloop
      have hstep := h.foldl (hnormalised tr List.mem_cons_self)
      split_ifs at hloop with hpending hexpired
      · exact .inl ⟨tr, List.mem_cons_self, hpending⟩
      · -- the minimum went below `now`, so it is one of the timers just looked at
        rw [Timeval.osipTimercmpGt_iff now.normalised hstep.normalised] at hexpired
        obtain ⟨t, ht, harmed, hle⟩ : ∃ t ∈ timers tr, t.Armed ∧
            t.usecs < now.usecs := by
          have hlatest := h.le_latest
          rcases hstep.attained with heq | ⟨t, ht | ⟨ht, harmed⟩, heq⟩
          · omega
          · have := h.le t ht
            omega
          · exact ⟨t, ht, harmed, heq ▸ hexpired⟩
        exact .inr ⟨t, ⟨harmed, tr, List.mem_cons_self, ht⟩, hle⟩
      · have hnow' : now.usecs ≤ ((timers tr).foldl Timeval.minTimercmp lower).usecs := by
          rw [Timeval.osipTimercmpGt_iff now.normalised hstep.normalised] at hexpired
          exact not_lt.1 hexpired
        refine (ih (fun tr' htr' => hnormalised tr' (List.mem_cons_of_mem _ htr')) hstep hnow'
          hloop).imp ?_ ?_
        · exact fun ⟨tr', htr', hpending⟩ => ⟨tr', List.mem_cons_of_mem _ htr', hpending⟩
        · exact fun ⟨t, ⟨harmed, tr', htr', ht⟩, hle⟩ =>
            ⟨t, ⟨harmed, tr', List.mem_cons_of_mem _ htr', ht⟩, hle⟩

/-- Either the loop returns in the middle, and then for a reason, or it goes on with the
earliest of the timers seen so far. -/
theorem gettimeoutLoop_cases (pending : α → Bool) {list : List α}
    (hnormalised : ∀ tr ∈ list, ∀ t ∈ timers tr, t.Normalised)
    (h : IsEarliest latest S lower) (hnow : now.usecs ≤ lower.usecs) :
    (gettimeoutLoop now pending timers lower list = none ∧
      ((∃ tr ∈ list, pending tr = true) ∨ ∃ t ∈ armedTimers timers list, t.usecs < now.usecs)) ∨
    ∃ lower', gettimeoutLoop now pending timers lower list = some lower' ∧
      IsEarliest latest (S ∪ armedTimers timers list) lower' ∧ now.usecs ≤ lower'.usecs ∧
      ∀ tr ∈ list, pending tr = false := by
  cases hloop : gettimeoutLoop now pending timers lower list with
  | none => exact .inl ⟨rfl, gettimeoutLoop_eq_none hnormalised h hnow hloop⟩
  | some lower' => exact .inr ⟨lower', rfl, gettimeoutLoop_eq_some hnormalised h hnow hloop⟩

end Loop

theorem delayUntil_spec {now : Instant} {lower : Timeval} (hlower : lower.Normalised)
    (hnow : now.usecs ≤ lower.usecs) :
    (delayUntil now lower).Normalised ∧ 0 ≤ (delayUntil now lower).tvSec ∧
      (delayUntil now lower).usecs = lower.usecs - now.usecs := by
  obtain ⟨hlower₀, hlower₁⟩ := hlower
  obtain ⟨hnow₀, hnow₁⟩ := now.normalised
  simp only [Timeval.usecs] at hnow
  simp only [delayUntil, Timeval.Normalised, Timeval.usecs]
  split_ifs <;> dsimp only [Timeval.zero] at * <;> omega

/-- Every transaction and every retransmission of the stack was reached. -/
structure Osip.Reached (osip : Osip) : Prop where
  icts : ∀ tr ∈ osip.ictTransactions, FifoReached tr
  ists : ∀ tr ∈ osip.istTransactions, FifoReached tr
  nicts : ∀ tr ∈ osip.nictTransactions, FifoReached tr
  nists : ∀ tr ∈ osip.nistTransactions, FifoReached tr
  ixts : ∀ ixt ∈ osip.ixtRetransmissions, IxtReached ixt

theorem IxtReached.start_normalised {ixt : Ixt} (h : IxtReached ixt) :
    ixt.start.Normalised ∧ 0 ≤ ixt.start.tvSec ∧ 0 < ixt.interval := by
  induction h with
  | start now =>
      refine ⟨now.after_normalised (by decide), ?_, (by decide : (0 : Int) < defaultT1)⟩
      exact now.sec_nonneg.trans
        (Timeval.le_addGettimeofday_tvSec now.normalised (by decide))
  | @retransmit ixt current _ ih =>
      obtain ⟨hnormalised, hsec, hpos⟩ := ih
      have hT2 : (0 : Int) < defaultT2 := by decide
      have hnext : 0 < (if ixt.interval * 2 > defaultT2 then defaultT2
          else ixt.interval * 2) := by
        split_ifs <;> omega
      by_cases hexpired : Timeval.osipTimercmpGt current.toTimeval ixt.start = true
      · rw [ixtRetransmit, if_pos hexpired]
        exact ⟨Timeval.addGettimeofday_normalised hnormalised hnext.le,
          hsec.trans (Timeval.le_addGettimeofday_tvSec hnormalised hnext.le), hnext⟩
      · rw [ixtRetransmit, if_neg hexpired]
        exact ⟨hnormalised, hsec, hpos⟩

/-- The event is returned at some time. -/
def Fires (needTimer : Instant → Option Event) : Prop := ∃ later, (needTimer later).isSome = true

theorem fires_iff {timer : Timeval} {condState : Bool} {transactionid : Int}
    {timerVal : EventType} :
    Fires (needTimerXEvent · timer condState transactionid timerVal) ↔
      condState = true ∧ timer.Armed := by
  constructor
  · rintro ⟨later, hsome⟩
    obtain ⟨evt, hevt⟩ := Option.isSome_iff_exists.1 hsome
    exact ⟨(needTimerXEvent_eq_some hevt).1, (needTimerXEvent_eq_some hevt).2.1⟩
  · rintro ⟨hstate, harmed⟩
    have hlate : timer.tvSec < (Instant.ofUsecs (1000000 * (timer.tvSec.natAbs + 1))).tvSec := by
      simp only [Instant.ofUsecs]
      omega
    refine ⟨Instant.ofUsecs (1000000 * (timer.tvSec.natAbs + 1)), ?_⟩
    simp only [needTimerXEvent_of_armed hstate harmed hlate, Option.isSome_some]

/-- The timers of a transaction whose event its `need_timer_x_event` would return for the
current state. -/
def IctArmed (tr : Transaction Ict) (t : Timeval) : Prop :=
  (t = tr.ctx.timerAStart ∧
      Fires (osipIctNeedTimerAEvent · tr.ctx tr.state tr.transactionid)) ∨
    (t = tr.ctx.timerBStart ∧
      Fires (osipIctNeedTimerBEvent · tr.ctx tr.state tr.transactionid)) ∨
    (t = tr.ctx.timerDStart ∧
      Fires (osipIctNeedTimerDEvent · tr.ctx tr.state tr.transactionid))

def IstArmed (tr : Transaction Ist) (t : Timeval) : Prop :=
  (t = tr.ctx.timerGStart ∧
      Fires (osipIstNeedTimerGEvent · tr.ctx tr.state tr.transactionid)) ∨
    (t = tr.ctx.timerHStart ∧
      Fires (osipIstNeedTimerHEvent · tr.ctx tr.state tr.transactionid)) ∨
    (t = tr.ctx.timerIStart ∧
      Fires (osipIstNeedTimerIEvent · tr.ctx tr.state tr.transactionid))

def NictArmed (tr : Transaction Nict) (t : Timeval) : Prop :=
  (t = tr.ctx.timerEStart ∧
      Fires (osipNictNeedTimerEEvent · tr.ctx tr.state tr.transactionid)) ∨
    (t = tr.ctx.timerFStart ∧
      Fires (osipNictNeedTimerFEvent · tr.ctx tr.state tr.transactionid)) ∨
    (t = tr.ctx.timerKStart ∧
      Fires (osipNictNeedTimerKEvent · tr.ctx tr.state tr.transactionid))

def NistArmed (tr : Transaction Nist) (t : Timeval) : Prop :=
  t = tr.ctx.timerJStart ∧ Fires (osipNistNeedTimerJEvent · tr.ctx tr.state tr.transactionid)

theorem ictArmed_iff {tr : Transaction Ict} {t : Timeval} :
    IctArmed tr t ↔ t.Armed ∧ t ∈ ictTimers tr := by
  simp only [IctArmed, osipIctNeedTimerAEvent, osipIctNeedTimerBEvent, osipIctNeedTimerDEvent,
    fires_iff, decide_eq_true_eq, ictTimers, List.mem_append, List.mem_ite_nil_right,
    List.mem_singleton]
  constructor
  · rintro (⟨rfl, h⟩ | ⟨rfl, h⟩ | ⟨rfl, h⟩) <;> simp [h]
  · rintro ⟨harmed, (⟨h, rfl⟩ | ⟨h, rfl⟩) | ⟨h, rfl⟩⟩ <;> simp [h, harmed]

theorem istArmed_iff {tr : Transaction Ist} {t : Timeval} :
    IstArmed tr t ↔ t.Armed ∧ t ∈ istTimers tr := by
  simp only [IstArmed, osipIstNeedTimerGEvent, osipIstNeedTimerHEvent, osipIstNeedTimerIEvent,
    fires_iff, decide_eq_true_eq, istTimers, List.mem_append, List.mem_ite_nil_right,
    List.mem_singleton]
  constructor
  · rintro (⟨rfl, h⟩ | ⟨rfl, h⟩ | ⟨rfl, h⟩) <;> simp [h]
  · rintro ⟨harmed, (⟨h, rfl⟩ | ⟨h, rfl⟩) | ⟨h, rfl⟩⟩ <;> simp [h, harmed]

theorem nictArmed_iff {tr : Transaction Nict} {t : Timeval} :
    NictArmed tr t ↔ t.Armed ∧ t ∈ nictTimers tr := by
  simp only [NictArmed, osipNictNeedTimerEEvent, osipNictNeedTimerFEvent,
    osipNictNeedTimerKEvent, fires_iff, decide_eq_true_eq, nictTimers, List.mem_append,
    List.mem_ite_nil_right, List.mem_singleton]
  constructor
  · rintro (⟨rfl, h⟩ | ⟨rfl, h⟩ | ⟨rfl, h⟩) <;> simp [h]
  · rintro ⟨harmed, (⟨h, rfl⟩ | ⟨h, rfl⟩) | ⟨h, rfl⟩⟩ <;> simp [h, harmed]

theorem nistArmed_iff {tr : Transaction Nist} {t : Timeval} :
    NistArmed tr t ↔ t.Armed ∧ t ∈ nistTimers tr := by
  simp only [NistArmed, osipNistNeedTimerJEvent, fires_iff, decide_eq_true_eq, nistTimers,
    List.mem_ite_nil_right, List.mem_singleton]
  constructor
  · rintro ⟨rfl, hstate, harmed⟩
    exact ⟨harmed, hstate, rfl⟩
  · rintro ⟨harmed, hstate, rfl⟩
    exact ⟨rfl, hstate, harmed⟩

/-- The times at which some event becomes due. -/
def Osip.Armed (osip : Osip) (t : Timeval) : Prop :=
  (∃ tr ∈ osip.ictTransactions, IctArmed tr t) ∨ (∃ tr ∈ osip.istTransactions, IstArmed tr t) ∨
    (∃ tr ∈ osip.nictTransactions, NictArmed tr t) ∨
    (∃ tr ∈ osip.nistTransactions, NistArmed tr t) ∨
    ∃ ixt ∈ osip.ixtRetransmissions, t = ixt.start

/-- An INVITE client that has an event waiting. -/
def Osip.IctPending (osip : Osip) : Prop :=
  ∃ tr ∈ osip.ictTransactions, tr.transactionff ≠ []

/-- A transaction of any kind that has an event waiting. -/
def Osip.EventWaiting (osip : Osip) : Prop :=
  osip.IctPending ∨ (∃ tr ∈ osip.istTransactions, tr.transactionff ≠ []) ∨
    (∃ tr ∈ osip.nictTransactions, tr.transactionff ≠ []) ∨
    ∃ tr ∈ osip.nistTransactions, tr.transactionff ≠ []

/-- An armed timer has reached its time. -/
def Osip.TimerDue (osip : Osip) (now : Instant) : Prop :=
  ∃ t, osip.Armed t ∧ t.usecs ≤ now.usecs

theorem Osip.armed_iff {osip : Osip} (h : osip.Reached) (t : Timeval) :
    osip.Armed t ↔
      t ∈ ((((∅ ∪ armedTimers ictTimers osip.ictTransactions) ∪
        armedTimers istTimers osip.istTransactions) ∪
        armedTimers nictTimers osip.nictTransactions) ∪
        armedTimers nistTimers osip.nistTransactions) ∪
        armedTimers (fun ixt : Ixt => [ixt.start]) osip.ixtRetransmissions := by
  have hixt (ixt : Ixt) (hmem : ixt ∈ osip.ixtRetransmissions) : ixt.start.Armed := by
    have := (h.ixts ixt hmem).start_normalised.2.1
    simp only [Timeval.Armed]
    omega
  simp only [Osip.Armed, ictArmed_iff, istArmed_iff, nictArmed_iff, nistArmed_iff,
    armedTimers, Set.mem_union, Set.mem_ofPred_eq, Set.mem_empty_iff_false, false_or, or_assoc,
    List.mem_singleton]
  constructor
  · rintro (⟨tr, htr, ht⟩ | ⟨tr, htr, ht⟩ | ⟨tr, htr, ht⟩ | ⟨tr, htr, ht⟩ | ⟨ixt, hmem, rfl⟩)
    · exact .inl ⟨ht.1, tr, htr, ht.2⟩
    · exact .inr (.inl ⟨ht.1, tr, htr, ht.2⟩)
    · exact .inr (.inr (.inl ⟨ht.1, tr, htr, ht.2⟩))
    · exact .inr (.inr (.inr (.inl ⟨ht.1, tr, htr, ht.2⟩)))
    · exact .inr (.inr (.inr (.inr ⟨hixt ixt hmem, ixt, hmem, rfl⟩)))
  · rintro (⟨ha, tr, htr, ht⟩ | ⟨ha, tr, htr, ht⟩ | ⟨ha, tr, htr, ht⟩ | ⟨ha, tr, htr, ht⟩ |
      ⟨_, ixt, hmem, rfl⟩)
    · exact .inl ⟨tr, htr, ha, ht⟩
    · exact .inr (.inl ⟨tr, htr, ha, ht⟩)
    · exact .inr (.inr (.inl ⟨tr, htr, ha, ht⟩))
    · exact .inr (.inr (.inr (.inl ⟨tr, htr, ha, ht⟩)))
    · exact .inr (.inr (.inr (.inr ⟨ixt, hmem, rfl⟩)))

/-- Either the function returns in the middle of a loop, and then for a reason, or it
returns the time until the earliest of the armed timers. -/
theorem osipTimersGettimeout_cases {osip : Osip} (h : osip.Reached) (now : Instant) :
    (osipTimersGettimeout now osip = Timeval.zero ∧
      (osip.IctPending ∨ ∃ t, osip.Armed t ∧ t.usecs < now.usecs)) ∨
    ∃ lower latest, now.usecs < latest ∧ now.usecs ≤ lower.usecs ∧
      IsEarliest latest {t | osip.Armed t} lower ∧ ¬ osip.IctPending ∧
      osipTimersGettimeout now osip = delayUntil now lower := by
  have hict (tr) (htr : tr ∈ osip.ictTransactions) : ∀ t ∈ ictTimers tr, t.Normalised := by
    have hclock := (h.icts tr htr).ict_clockOk
    intro t ht
    simp only [ictTimers, List.mem_append, List.mem_ite_nil_right, List.mem_singleton] at ht
    obtain (⟨-, rfl⟩ | ⟨-, rfl⟩) | ⟨-, rfl⟩ := ht
    exacts [hclock.timerB, hclock.timerA, hclock.timerD]
  have hist (tr) (htr : tr ∈ osip.istTransactions) : ∀ t ∈ istTimers tr, t.Normalised := by
    have hclock := (h.ists tr htr).ist_clockOk
    intro t ht
    simp only [istTimers, List.mem_append, List.mem_ite_nil_right, List.mem_singleton] at ht
    obtain (⟨-, rfl⟩ | ⟨-, rfl⟩) | ⟨-, rfl⟩ := ht
    exacts [hclock.timerI, hclock.timerH, hclock.timerG]
  have hnict (tr) (htr : tr ∈ osip.nictTransactions) : ∀ t ∈ nictTimers tr, t.Normalised := by
    have hclock := (h.nicts tr htr).nict_clockOk
    intro t ht
    simp only [nictTimers, List.mem_append, List.mem_ite_nil_right, List.mem_singleton] at ht
    obtain (⟨-, rfl⟩ | ⟨-, rfl⟩) | ⟨-, rfl⟩ := ht
    exacts [hclock.timerK, hclock.timerF, hclock.timerE]
  have hnist (tr) (htr : tr ∈ osip.nistTransactions) : ∀ t ∈ nistTimers tr, t.Normalised := by
    intro t ht
    simp only [nistTimers, List.mem_ite_nil_right, List.mem_singleton] at ht
    exact ht.2 ▸ (h.nists tr htr).nist_clockOk
  have hixt (ixt) (hmem : ixt ∈ osip.ixtRetransmissions) : ∀ t ∈ [ixt.start], t.Normalised :=
    fun t ht => List.mem_singleton.1 ht ▸ (h.ixts ixt hmem).start_normalised.1
  have hyear : now.usecs < (wakeUpEveryYear now).usecs := by
    simp only [wakeUpEveryYear, Timeval.usecs]
    omega
  have hstart : IsEarliest (wakeUpEveryYear now).usecs ∅ (wakeUpEveryYear now) :=
    ⟨now.normalised, le_refl _, by simp, .inl rfl⟩
  have harmed := osip.armed_iff h
  simp only [Set.mem_union] at harmed
  unfold osipTimersGettimeout
  -- the five loops in their order; each may be the one that returns
  obtain ⟨hloop₁, hreason⟩ | ⟨lower₁, hloop₁, hlower₁, hnow₁, hpending⟩ :=
    gettimeoutLoop_cases (fun tr => 1 ≤ tr.transactionff.length) hict hstart hyear.le
  · refine .inl ⟨by simp [hloop₁], hreason.imp ?_ ?_⟩
    · rintro ⟨tr, htr, hpending⟩
      exact ⟨tr, htr, by simpa [Nat.one_le_iff_ne_zero] using hpending⟩
    · rintro ⟨t, ht, hlt⟩
      exact ⟨t, (harmed t).2 (by simp [ht]), hlt⟩
  obtain ⟨hloop₂, hreason⟩ | ⟨lower₂, hloop₂, hlower₂, hnow₂, -⟩ :=
    gettimeoutLoop_cases (fun _ => false) hist hlower₁ hnow₁
  · obtain ⟨tr, -, hfalse⟩ | ⟨t, ht, hlt⟩ := hreason
    · cases hfalse
    · exact .inl ⟨by simp [hloop₁, hloop₂], .inr ⟨t, (harmed t).2 (by simp [ht]), hlt⟩⟩
  obtain ⟨hloop₃, hreason⟩ | ⟨lower₃, hloop₃, hlower₃, hnow₃, -⟩ :=
    gettimeoutLoop_cases (fun _ => false) hnict hlower₂ hnow₂
  · obtain ⟨tr, -, hfalse⟩ | ⟨t, ht, hlt⟩ := hreason
    · cases hfalse
    · exact .inl ⟨by simp [hloop₁, hloop₂, hloop₃],
        .inr ⟨t, (harmed t).2 (by simp [ht]), hlt⟩⟩
  obtain ⟨hloop₄, hreason⟩ | ⟨lower₄, hloop₄, hlower₄, hnow₄, -⟩ :=
    gettimeoutLoop_cases (fun _ => false) hnist hlower₃ hnow₃
  · obtain ⟨tr, -, hfalse⟩ | ⟨t, ht, hlt⟩ := hreason
    · cases hfalse
    · exact .inl ⟨by simp [hloop₁, hloop₂, hloop₃, hloop₄],
        .inr ⟨t, (harmed t).2 (by simp [ht]), hlt⟩⟩
  obtain ⟨hloop₅, hreason⟩ | ⟨lower₅, hloop₅, hlower₅, hnow₅, -⟩ :=
    gettimeoutLoop_cases (fun _ => false) hixt hlower₄ hnow₄
  · obtain ⟨tr, -, hfalse⟩ | ⟨t, ht, hlt⟩ := hreason
    · cases hfalse
    · exact .inl ⟨by simp [hloop₁, hloop₂, hloop₃, hloop₄, hloop₅],
        .inr ⟨t, (harmed t).2 (by simp [ht]), hlt⟩⟩
  refine .inr ⟨lower₅, (wakeUpEveryYear now).usecs, hyear, hnow₅, ?_, ?_, ?_⟩
  · exact hlower₅.congr fun t => (osip.armed_iff h t).symm
  · rintro ⟨tr, htr, hwaiting⟩
    have := hpending tr htr
    simp only [decide_eq_false_iff_not, not_le, Nat.lt_one_iff, List.length_eq_zero_iff] at this
    exact hwaiting this
  · simp [hloop₁, hloop₂, hloop₃, hloop₄, hloop₅]

/-- The delay is zero exactly when an INVITE client has an event waiting or a timer is due;
otherwise it is the time that is left until the earliest armed timer. -/
theorem osipTimersGettimeout_spec {osip : Osip} (h : osip.Reached) (now : Instant) :
    (osipTimersGettimeout now osip).Normalised ∧ 0 ≤ (osipTimersGettimeout now osip).tvSec ∧
      (∀ t, osip.Armed t →
        (osipTimersGettimeout now osip).usecs ≤ max 0 (t.usecs - now.usecs)) ∧
      (osipTimersGettimeout now osip = Timeval.zero ↔
        osip.IctPending ∨ osip.TimerDue now) := by
  obtain ⟨hzero, hreason⟩ | ⟨lower, latest, hlatest, hnow, hlower, hpending, hdelay⟩ :=
    osipTimersGettimeout_cases h now
  · rw [hzero]
    refine ⟨Timeval.zero_normalised, le_refl _, fun t _ => le_max_left _ _, ?_⟩
    simp only [true_iff]
    apply hreason.imp id
    rintro ⟨t, ht, hlt⟩
    exact ⟨t, ht, hlt.le⟩
  · obtain ⟨hnormalised, hsec, husecs⟩ := delayUntil_spec hlower.normalised hnow
    rw [hdelay]
    refine ⟨hnormalised, hsec, fun t ht => ?_, ?_⟩
    · have := hlower.le t ht
      omega
    · have hzero : delayUntil now lower = Timeval.zero ↔ lower.usecs = now.usecs := by
        constructor
        · intro heq
          rw [heq] at husecs
          simp only [Timeval.usecs, Timeval.zero] at husecs ⊢
          omega
        · intro heq
          have hnil : (delayUntil now lower).usecs = 0 := by omega
          obtain ⟨hlow, -⟩ := hnormalised
          simp only [Timeval.usecs] at hnil
          exact Timeval.ext (by dsimp only [Timeval.zero]; omega)
            (by dsimp only [Timeval.zero]; omega)
      rw [hzero]
      constructor
      · intro heq
        obtain heq' | ⟨t, ht, heq'⟩ := hlower.attained
        · omega
        · exact .inr ⟨t, ht, by omega⟩
      · rintro (hwaiting | ⟨t, ht, hle⟩)
        · exact absurd hwaiting hpending
        · have := hlower.le t ht
          omega

/-- The delay never reaches beyond an armed timer, and there is none for one that is due. -/
theorem osipTimersGettimeout_sound {osip : Osip} (h : osip.Reached) (now : Instant) :
    (osipTimersGettimeout now osip).Normalised ∧ 0 ≤ (osipTimersGettimeout now osip).tvSec ∧
      ∀ t, osip.Armed t →
        (osipTimersGettimeout now osip).usecs ≤ max 0 (t.usecs - now.usecs) ∧
        (t.usecs ≤ now.usecs → osipTimersGettimeout now osip = Timeval.zero) := by
  obtain ⟨hnormalised, hsec, hle, hzero⟩ := osipTimersGettimeout_spec h now
  refine ⟨hnormalised, hsec, fun t ht => ⟨hle t ht, fun hdue => ?_⟩⟩
  exact hzero.2 (.inr ⟨t, ht, hdue⟩)

/-- An event that waits in a fifo keeps the stack awake exactly when the transaction is an
INVITE client or some timer is due anyway. -/
theorem osipTimersGettimeout_eventWaiting_iff {osip : Osip} (h : osip.Reached) (now : Instant) :
    (osip.EventWaiting → osipTimersGettimeout now osip = Timeval.zero) ↔
      (osip.EventWaiting → osip.IctPending ∨ osip.TimerDue now) :=
  imp_congr_right fun _ => (osipTimersGettimeout_spec h now).2.2.2

section Examples

/-- The time of timer F of a client that has sent its request, five seconds later. -/
theorem osipTimersGettimeout_sound_trying :
    ∃ nict : Transaction Nict, nict.state = .nictTrying ∧
      (osipTimersGettimeout (Instant.ofUsecs 5000000)
        { Osip.init with nictTransactions := [nict] }).usecs ≤
        max 0 (nict.ctx.timerFStart.usecs - (Instant.ofUsecs 5000000).usecs) := by
  have hnict : FifoReached (Machine.run fifoStep (_ : Transaction Nict)
      [sndRegister, .execute (atSecond 1 0)]).1 :=
    ⟨⟨atSecond 1 0, 0, 0, some registerOverTcp, _, _, rfl, rfl⟩⟩
  have hosip : Osip.Reached { Osip.init with nictTransactions := [_] } :=
    ⟨by simp [Osip.init], by simp [Osip.init],
      fun tr htr => List.mem_singleton.1 htr ▸ hnict, by simp [Osip.init], by simp [Osip.init]⟩
  refine ⟨_, rfl, ((osipTimersGettimeout_sound hosip _).2.2 _ ?_).1⟩
  exact .inr (.inr (.inl ⟨_, List.mem_singleton.2 rfl, nictArmed_iff.2 ⟨by decide, by decide⟩⟩))

def Osip.serving (nist : Transaction Nist) : Osip := { Osip.init with nistTransactions := [nist] }

theorem Osip.serving_reached {nist : Transaction Nist} (h : FifoReached nist) :
    (Osip.serving nist).Reached :=
  ⟨by simp [serving, init], by simp [serving, init], by simp [serving, init],
    by simpa [serving] using h, by simp [serving, init]⟩

/-- The request that a server transaction was created for. -/
def rcvRegister : Action :=
  .addEvent ⟨⟨.rcvRequest, 0, some registerOverTcp⟩, rfl⟩

/-- Nothing but the new request of a server: the stack sleeps for a year. -/
theorem osipTimersGettimeout_sleeps_on_request :
    ∃ nist : Transaction Nist, (Osip.serving nist).Reached ∧ (Osip.serving nist).EventWaiting ∧
      osipTimersGettimeout (Instant.ofUsecs 1000000) (Osip.serving nist) = ⟨31536000, 0⟩ := by
  have hnist : FifoReached (Machine.run fifoStep (_ : Transaction Nist) [rcvRegister]).1 :=
    ⟨⟨atSecond 1 0, 0, 0, some registerOverTcp, _, _, rfl, rfl⟩⟩
  refine ⟨_, Osip.serving_reached hnist, ?_, by decide⟩
  exact .inr (.inr (.inr ⟨_, List.mem_singleton.2 rfl, by decide⟩))

/-- The same server has no timer that is due, so its request is slept on. -/
theorem osipTimersGettimeout_eventWaiting_iff_register :
    ∃ nist : Transaction Nist,
      (((Osip.serving nist).EventWaiting →
          osipTimersGettimeout (Instant.ofUsecs 1000000) (Osip.serving nist) = Timeval.zero) ↔
        ((Osip.serving nist).EventWaiting →
          (Osip.serving nist).IctPending ∨
            (Osip.serving nist).TimerDue (Instant.ofUsecs 1000000))) := by
  have hnist : FifoReached (Machine.run fifoStep (_ : Transaction Nist) [rcvRegister]).1 :=
    ⟨⟨atSecond 1 0, 0, 0, some registerOverTcp, _, _, rfl, rfl⟩⟩
  exact ⟨_, osipTimersGettimeout_eventWaiting_iff (Osip.serving_reached hnist) _⟩

end Examples

end Exosip
