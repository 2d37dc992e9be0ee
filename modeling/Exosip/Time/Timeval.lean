import Mathlib.Algebra.Order.Ring.Int
import Mathlib.Tactic.NormNum
import Mathlib.Tactic.Positivity

/-! `struct timeval` and the operations of `osip_time.c` on it. A timer that is
not started carries -1 seconds; every other value the stack builds is
normalised, and on those the field-wise comparison is the order of time. -/
namespace Exosip

@[ext] structure Timeval where
  tvSec : Int
  tvUsec : Int
  deriving DecidableEq, Repr

namespace Timeval

/-- What `memset` leaves in a context. -/
def zero : Timeval := ⟨0, 0⟩

/-- `timer.tv_sec = -1`. -/
def notStarted (timer : Timeval) : Timeval := { timer with tvSec := -1 }

/-- `osip_timercmp (a, b, >)`. -/
def osipTimercmpGt (a b : Timeval) : Bool :=
  if a.tvSec = b.tvSec then a.tvUsec > b.tvUsec else a.tvSec > b.tvSec

def addGettimeofday (atv : Timeval) (ms : Int) : Timeval :=
  if ms ≥ 1000000 then
    { tvSec := atv.tvSec + ms.tdiv 1000, tvUsec := 0 }
  else
    let usec := atv.tvUsec + ms * 1000
    { tvSec := atv.tvSec + usec.tdiv 1000000, tvUsec := usec.tmod 1000000 }

/-- The earlier of the two, where a second timer that is not started is ignored. -/
def minTimercmp (tv1 tv2 : Timeval) : Timeval :=
  if tv2.tvSec = -1 then tv1
  else if osipTimercmpGt tv1 tv2 then tv2
  else tv1

/-- The timer runs: its start is not the -1 that disarms it. -/
def Armed (timer : Timeval) : Prop := timer.tvSec ≠ -1

instance (timer : Timeval) : Decidable timer.Armed := inferInstanceAs (Decidable (_ ≠ _))

/-- The microseconds stand below one second. -/
def Normalised (tv : Timeval) : Prop := 0 ≤ tv.tvUsec ∧ tv.tvUsec < 1000000

instance (tv : Timeval) : Decidable tv.Normalised := inferInstanceAs (Decidable (_ ∧ _))

/-- The point in time that a value denotes, in microseconds. -/
def usecs (tv : Timeval) : Int := tv.tvSec * 1000000 + tv.tvUsec

@[simp] theorem notStarted_tvSec (timer : Timeval) : timer.notStarted.tvSec = -1 := rfl

@[simp] theorem notStarted_tvUsec (timer : Timeval) :
    timer.notStarted.tvUsec = timer.tvUsec := rfl

@[simp] theorem not_armed_notStarted (timer : Timeval) : ¬ timer.notStarted.Armed := by
  simp [Armed]

@[simp] theorem normalised_notStarted (timer : Timeval) :
    timer.notStarted.Normalised ↔ timer.Normalised := Iff.rfl

theorem zero_normalised : zero.Normalised := by decide

theorem osipTimercmpGt_iff {a b : Timeval} (ha : a.Normalised) (hb : b.Normalised) :
    osipTimercmpGt a b = true ↔ b.usecs < a.usecs := by
  obtain ⟨ha₀, ha₁⟩ := ha
  obtain ⟨hb₀, hb₁⟩ := hb
  unfold osipTimercmpGt usecs
  split <;> simp only [gt_iff_lt, decide_eq_true_eq] <;> omega

theorem addGettimeofday_normalised {atv : Timeval} (h : atv.Normalised) {ms : Int}
    (hms : 0 ≤ ms) : (addGettimeofday atv ms).Normalised := by
  unfold addGettimeofday
  split
  · exact ⟨le_refl 0, by norm_num⟩
  · have husec : 0 ≤ atv.tvUsec + ms * 1000 := by
      have := h.1
      omega
    exact ⟨Int.tmod_nonneg _ husec, Int.tmod_lt_of_pos _ (by norm_num)⟩

theorem le_addGettimeofday_tvSec {atv : Timeval} (h : atv.Normalised) {ms : Int}
    (hms : 0 ≤ ms) : atv.tvSec ≤ (addGettimeofday atv ms).tvSec := by
  unfold addGettimeofday
  split
  · have := Int.tdiv_nonneg hms (by norm_num : (0 : Int) ≤ 1000)
    dsimp only
    omega
  · have husec : 0 ≤ atv.tvUsec + ms * 1000 := by
      have := h.1
      omega
    have := Int.tdiv_nonneg husec (by norm_num : (0 : Int) ≤ 1000000)
    dsimp only
    omega

theorem usecs_addGettimeofday {atv : Timeval} (h : atv.Normalised) {ms : Int} (hms : 0 ≤ ms)
    (hlt : ms < 1000000) : (addGettimeofday atv ms).usecs = atv.usecs + 1000 * ms := by
  have husec : 0 ≤ atv.tvUsec + ms * 1000 := by
    have := h.1
    omega
  rw [addGettimeofday, if_neg (by omega), usecs, usecs]
  have hsplit := Int.mul_tdiv_add_tmod (atv.tvUsec + ms * 1000) 1000000
  dsimp only
  omega

theorem addGettimeofday_of_ge (atv : Timeval) {ms : Int} (hge : 1000000 ≤ ms) :
    addGettimeofday atv ms = ⟨atv.tvSec + ms / 1000, 0⟩ := by
  rw [addGettimeofday, if_pos hge, Int.tdiv_eq_ediv_of_nonneg (by omega)]

/-- What `add_gettimeofday` adds: below 1000 seconds exactly the delay, without a sum that
leaves an `int`; from there on the microseconds are dropped, of the time and of the delay,
which is less than two seconds. -/
theorem addGettimeofday_exact {tv : Timeval} (h : tv.Normalised) {ms : Int} (hms : 0 ≤ ms) :
    (addGettimeofday tv ms).Normalised ∧
    (ms < 1000000 →
      tv.tvUsec + ms * 1000 < 2147483648 ∧
      (addGettimeofday tv ms).usecs = tv.usecs + 1000 * ms) ∧
    (1000000 ≤ ms →
      addGettimeofday tv ms = ⟨tv.tvSec + ms / 1000, 0⟩ ∧
      (addGettimeofday tv ms).usecs ≤ tv.usecs + 1000 * ms ∧
      tv.usecs + 1000 * ms < (addGettimeofday tv ms).usecs + 2000000 ∧
      ((addGettimeofday tv ms).usecs = tv.usecs + 1000 * ms ↔
        tv.tvUsec = 0 ∧ ms % 1000 = 0)) := by
  have hlow := h.1
  have hhigh := h.2
  refine ⟨addGettimeofday_normalised h hms, ?_, ?_⟩
  · intro hlt
    exact ⟨by omega, usecs_addGettimeofday h hms hlt⟩
  · intro hge
    have heq := addGettimeofday_of_ge tv hge
    have husecs : (addGettimeofday tv ms).usecs = (tv.tvSec + ms / 1000) * 1000000 := by
      rw [heq, usecs, Int.add_zero]
    have htv : tv.usecs = tv.tvSec * 1000000 + tv.tvUsec := rfl
    have hsplit := Int.mul_ediv_add_emod ms 1000
    refine ⟨heq, ?_, ?_, ?_⟩
    · omega
    · omega
    · omega

theorem addGettimeofday_exact_expires :
    (addGettimeofday ⟨7, 250000⟩ 600500).usecs = (⟨7, 250000⟩ : Timeval).usecs + 1000 * 600500 ∧
    addGettimeofday ⟨7, 250000⟩ 3600000 = ⟨7 + 3600000 / 1000, 0⟩ :=
  ⟨((@addGettimeofday_exact ⟨7, 250000⟩ (by decide) 600500 (by decide)).2.1 (by decide)).2,
    ((@addGettimeofday_exact ⟨7, 250000⟩ (by decide) 3600000 (by decide)).2.2 (by decide)).1⟩

/-- 1000.001 seconds after a time with microseconds, both parts below one second are lost. -/
theorem addGettimeofday_drops :
    ¬ ∀ (tv : Timeval) (ms : Int), tv.Normalised → 0 ≤ ms →
      (addGettimeofday tv ms).Normalised ∧
      (addGettimeofday tv ms).usecs = tv.usecs + 1000 * ms := by
  intro hall
  have h := (hall ⟨5, 999999⟩ 1000999 (by decide) (by decide)).2
  revert h
  decide

theorem minTimercmp_normalised {tv1 tv2 : Timeval} (h1 : tv1.Normalised) (h2 : tv2.Normalised) :
    (minTimercmp tv1 tv2).Normalised := by
  unfold minTimercmp
  split
  · exact h1
  · split
    · exact h2
    · exact h1

theorem usecs_minTimercmp {tv1 tv2 : Timeval} (h1 : tv1.Normalised) (h2 : tv2.Normalised) :
    (minTimercmp tv1 tv2).usecs = if tv2.Armed then min tv1.usecs tv2.usecs else tv1.usecs := by
  unfold minTimercmp
  by_cases harmed : tv2.tvSec = -1
  · simp [harmed, Armed]
  · have hgt := osipTimercmpGt_iff h1 h2
    have harmed' : tv2.Armed := harmed
    rw [if_neg harmed, if_pos harmed']
    split
    · next h => exact (min_eq_right (hgt.1 h).le).symm
    · next h => exact (min_eq_left (not_lt.1 fun hlt => h (hgt.2 hlt))).symm

end Timeval

/-- A reading of the clock: `osip_gettimeofday` returns a normalised time that is
not negative. -/
structure Instant extends Timeval where
  sec_nonneg : 0 ≤ tvSec
  normalised : toTimeval.Normalised

namespace Instant

/-- `osip_gettimeofday (&timer, NULL); add_gettimeofday (&timer, ms);` -/
def after (now : Instant) (ms : Int) : Timeval := Timeval.addGettimeofday now.toTimeval ms

theorem after_normalised (now : Instant) {ms : Int} (h : 0 ≤ ms) :
    (now.after ms).Normalised :=
  Timeval.addGettimeofday_normalised now.normalised h

theorem after_armed (now : Instant) {ms : Int} (h : 0 ≤ ms) : (now.after ms).Armed := by
  have hsec := Timeval.le_addGettimeofday_tvSec now.normalised h
  have hnow := now.sec_nonneg
  simp only [Timeval.Armed, after]
  omega

def ofUsecs (n : Nat) : Instant where
  tvSec := n / 1000000
  tvUsec := n % 1000000
  sec_nonneg := by positivity
  normalised := by constructor <;> dsimp only <;> omega

end Instant
end Exosip
