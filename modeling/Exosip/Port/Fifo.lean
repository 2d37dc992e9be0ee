import Exosip.Machine.Queue
import Exosip.Machine.Run
import Mathlib.Algebra.BigOperators.Group.Finset.Piecewise
import Mathlib.Algebra.Order.BigOperators.Group.Finset

/-! The event fifo between threads: each call of `osip_fifo_add`, `osip_fifo_insert`,
`osip_fifo_get` and `osip_fifo_tryget` is a thread that does one statement at a time, and the
threads take turns in any order. -/
namespace Exosip
namespace Port

open Machine

universe u

section OsipList

variable {α : Type u}

/-- `osip_list_add`; a negative position other than -1 ends up behind the first element. -/
def osipListAdd (li : List α) (el : α) (pos : Int) : List α :=
  if li.length = 0 then [el]
  else if pos = -1 ∨ li.length ≤ pos then li ++ [el]
  else if pos = 0 then el :: li
  else li.insertIdx (max pos.toNat 1) el

/-- `osip_list_get` -/
def osipListGet (li : List α) (pos : Int) : Option α :=
  if pos < 0 ∨ li.length ≤ pos then none else li[pos.toNat]?

/-- `osip_list_remove` -/
def osipListRemove (li : List α) (pos : Int) : List α :=
  if pos < 0 ∨ li.length ≤ pos then li else li.eraseIdx pos.toNat

theorem osipListAdd_end (li : List α) (el : α) : osipListAdd li el (-1) = li ++ [el] := by
  cases li <;> simp [osipListAdd]

theorem osipListAdd_front (li : List α) (el : α) : osipListAdd li el 0 = el :: li := by
  cases li <;> simp [osipListAdd]

theorem osipListGet_zero (li : List α) : osipListGet li 0 = li.head? := by
  cases li <;> simp [osipListGet]

theorem osipListRemove_zero (li : List α) : osipListRemove li 0 = li.tail := by
  cases li <;> simp [osipListRemove]

end OsipList

/-- `osip_fifo_state`. -/
inductive FifoState where
  | ok | empty
  deriving DecidableEq, Repr

/-- `osip_fifo_t`, with the value of the semaphore and the owner of the mutex. -/
structure Fifo (ι α : Type u) where
  qislocked : Option ι
  qisempty : Nat
  queue : List α
  state : FifoState

/-- `osip_fifo_init`. -/
def Fifo.init (ι α : Type u) : Fifo ι α := ⟨none, 0, [], .empty⟩

inductive Call (α : Type u) where
  | add (el : α)
  | insert (el : α)
  | get
  | tryget

/-- The statement that a thread does next. -/
inductive Pc (α : Type u) where
  | idle
  | addLock (el : α) (front : Bool)
  | addList (el : α) (front : Bool)
  | addState
  | addPost
  | addUnlock
  | semWait
  | semTrywait
  | getLock
  | getTest
  | getFirst
  | getRemove (el : Option α)
  | getState (el : Option α)
  | getUnlock (el : Option α)
  | noElement

/-- What a thread does: a call begins or returns, and what it does to the queue in between.
`noElement` is the branch that must never happen. -/
inductive Effect (α : Type u) where
  | call (op : Call α)
  | listAdd (el : α) (front : Bool)
  | listRemove (el : Option α)
  | noElement
  | ret (el : Option α)

structure Threads (ι α : Type u) where
  fifo : Fifo ι α
  pc : ι → Pc α

/-- A thread calls a function, does its next statement, or has a failing wait. -/
inductive Turn (ι α : Type u) where
  | call (t : ι) (op : Call α)
  | next (t : ι)
  | waitFails (t : ι)

namespace Threads

variable {ι α : Type u} [DecidableEq ι]

def init (ι α : Type u) : Threads ι α := ⟨.init ι α, fun _ => .idle⟩

def setPc (s : Threads ι α) (t : ι) (pc : Pc α) : Threads ι α :=
  { s with pc := Function.update s.pc t pc }

def entry : Call α → Pc α
  | .add el => .addLock el false
  | .insert el => .addLock el true
  | .get => .semWait
  | .tryget => .semTrywait

/-- The next statement of the thread. A thread that waits for the mutex or the semaphore stays
where it is. -/
def next (s : Threads ι α) (t : ι) : Threads ι α × List (ι × Effect α) :=
  let fifo := s.fifo
  match s.pc t with
  | .idle => (s, [])
  | .addLock el front =>
      if fifo.qislocked.isSome then (s, [])
      else ({ s with fifo := { fifo with qislocked := some t } }.setPc t (.addList el front), [])
  | .addList el front =>
      let queue := osipListAdd fifo.queue el (if front then 0 else -1)
      ({ s with fifo := { fifo with queue } }.setPc t .addState, [(t, .listAdd el front)])
  | .addState => ({ s with fifo := { fifo with state := .ok } }.setPc t .addPost, [])
  | .addPost =>
      ({ s with fifo := { fifo with qisempty := fifo.qisempty + 1 } }.setPc t .addUnlock, [])
  | .addUnlock =>
      ({ s with fifo := { fifo with qislocked := none } }.setPc t .idle, [(t, .ret none)])
  | .semWait =>
      if fifo.qisempty = 0 then (s, [])
      else ({ s with fifo := { fifo with qisempty := fifo.qisempty - 1 } }.setPc t .getLock, [])
  | .semTrywait =>
      if fifo.qisempty = 0 then (s.setPc t .idle, [(t, .ret none)])
      else ({ s with fifo := { fifo with qisempty := fifo.qisempty - 1 } }.setPc t .getLock, [])
  | .getLock =>
      if fifo.qislocked.isSome then (s, [])
      else ({ s with fifo := { fifo with qislocked := some t } }.setPc t .getTest, [])
  | .getTest =>
      if fifo.state ≠ .empty then (s.setPc t .getFirst, [])
      else (s.setPc t .noElement, [(t, .noElement)])
  | .getFirst => (s.setPc t (.getRemove (osipListGet fifo.queue 0)), [])
  | .getRemove el =>
      ({ s with fifo := { fifo with queue := osipListRemove fifo.queue 0 } }.setPc t
        (.getState el), [(t, .listRemove el)])
  | .getState el =>
      let state := if fifo.queue.length ≤ 0 then .empty else .ok
      ({ s with fifo := { fifo with state } }.setPc t (.getUnlock el), [])
  | .getUnlock el =>
      ({ s with fifo := { fifo with qislocked := none } }.setPc t .idle, [(t, .ret el)])
  | .noElement =>
      ({ s with fifo := { fifo with qislocked := none } }.setPc t .idle, [(t, .ret none)])

/-- One turn. A thread makes one call at a time, and only a wait can fail. -/
def step : Step (Threads ι α) (Turn ι α) (ι × Effect α)
  | s, .call t op =>
      match s.pc t with
      | .idle => (s.setPc t (entry op), [(t, .call op)])
      | _ => (s, [])
  | s, .next t => s.next t
  | s, .waitFails t =>
      match s.pc t with
      | .semWait | .semTrywait => (s.setPc t .idle, [(t, .ret none)])
      | _ => (s, [])

end Threads

namespace Pc

variable {α : Type u}

/-- The thread is in the critical section. -/
def holds : Pc α → Bool
  | addList .. | addState | addPost | addUnlock | getTest | getFirst | getRemove _ | getState _
  | getUnlock _ | noElement => true
  | idle | addLock .. | semWait | semTrywait | getLock => false

/-- A getter between its wait and its remove. -/
def reserved : Pc α → Nat
  | getLock | getTest | getFirst | getRemove _ => 1
  | _ => 0

/-- An element is in the queue and not yet counted by the semaphore. -/
def posting : Pc α → Nat
  | addState | addPost => 1
  | _ => 0

/-- Where a thread stands in its call. -/
inductive Phase (α : Type u) where
  | outside
  | putting (el : α) (front : Bool)
  | getting
  | returning (el : Option α)

def phase : Pc α → Phase α
  | idle => .outside
  | addLock el front | addList el front => .putting el front
  | addState | addPost | addUnlock => .returning none
  | semWait | semTrywait | getLock | getTest | getFirst | getRemove _ => .getting
  | getState el | getUnlock el => .returning el
  | noElement => .returning none

/-- The state of the fifo says whether the queue is empty. -/
def Agrees (fifo : Fifo ι α) : Prop := fifo.state = .empty ↔ fifo.queue = []

def Knows (fifo : Fifo ι α) : Pc α → Prop
  | addState => fifo.queue ≠ []
  | getFirst => Agrees fifo ∧ fifo.queue ≠ []
  | getRemove el => el.isSome = true ∧ fifo.queue.head? = el
  | getState el => el.isSome = true
  | getUnlock el => Agrees fifo ∧ el.isSome = true
  | noElement => False
  | _ => Agrees fifo

end Pc

/-- The calls of one thread: each puts its element in once and returns, or gets an element and
returns it, or returns without one. -/
inductive Protocol {α : Type u} : List (Effect α) → Pc.Phase α → Prop
  | start : Protocol [] .outside
  | callAdd {l : List (Effect α)} (el : α) :
      Protocol l .outside → Protocol (l ++ [.call (.add el)]) (.putting el false)
  | callInsert {l : List (Effect α)} (el : α) :
      Protocol l .outside → Protocol (l ++ [.call (.insert el)]) (.putting el true)
  | callGet {l : List (Effect α)} : Protocol l .outside → Protocol (l ++ [.call .get]) .getting
  | callTryget {l : List (Effect α)} :
      Protocol l .outside → Protocol (l ++ [.call .tryget]) .getting
  | put {l : List (Effect α)} (el : α) (front : Bool) :
      Protocol l (.putting el front) → Protocol (l ++ [.listAdd el front]) (.returning none)
  | take {l : List (Effect α)} (el : α) :
      Protocol l .getting → Protocol (l ++ [.listRemove (some el)]) (.returning (some el))
  | ret {l : List (Effect α)} (el : Option α) :
      Protocol l (.returning el) → Protocol (l ++ [.ret el]) .outside
  | retNone {l : List (Effect α)} :
      Protocol l .getting → Protocol (l ++ [.ret none]) .outside

def Effect.point {α : Type u} : Effect α → Option (Queue.Point α)
  | listAdd el front => some (if front then .insert el else .add el)
  | listRemove el => el.map .take
  | call _ | noElement | ret _ => none

section Sound

variable {ι α : Type u} [DecidableEq ι] [Fintype ι]

/-- The operations on the queue, in the order of their critical sections. -/
def points (trace : List (ι × Effect α)) : List (Queue.Point α) :=
  trace.filterMap (·.2.point)

def effectsOf (t : ι) (trace : List (ι × Effect α)) : List (Effect α) :=
  trace.filterMap fun (i, effect) => if i = t then some effect else none

structure Sound (s : Threads ι α) (trace : List (ι × Effect α)) : Prop where
  counted : s.fifo.qisempty + ∑ t, (s.pc t).reserved + ∑ t, (s.pc t).posting =
    s.fifo.queue.length
  owner : ∀ t, (s.pc t).holds = true ↔ s.fifo.qislocked = some t
  free : s.fifo.qislocked = none → Pc.Agrees s.fifo
  knows : ∀ t, s.fifo.qislocked = some t → (s.pc t).Knows s.fifo
  legal : Queue.Legal (points trace) s.fifo.queue
  protocol : ∀ t, Protocol (effectsOf t trace) (s.pc t).phase

omit [DecidableEq ι] [Fintype ι] in
theorem Pc.Knows.congr {fifo fifo' : Fifo ι α} (hqueue : fifo.queue = fifo'.queue)
    (hstate : fifo.state = fifo'.state) {pc : Pc α} : pc.Knows fifo = pc.Knows fifo' := by
  cases pc <;> simp only [Pc.Knows, Pc.Agrees, hqueue, hstate]

theorem sum_update (f : Pc α → Nat) (pc : ι → Pc α) (t : ι) (pc' : Pc α) :
    ∑ i, f (Function.update pc t pc' i) + f (pc t) = ∑ i, f (pc i) + f pc' := by
  have hupdate : (fun i => f (Function.update pc t pc' i)) =
      Function.update (fun i => f (pc i)) t (f pc') := by
    funext i
    by_cases hi : i = t
    · rw [hi, Function.update_self, Function.update_self]
    · rw [Function.update_of_ne hi, Function.update_of_ne hi]
  have hsum := Finset.sum_update_of_mem (Finset.mem_univ t) (fun i => f (pc i)) (f pc')
  have hsplit := Finset.sum_eq_add_sum_sdiff_singleton_of_mem (Finset.mem_univ t) (fun i => f (pc i))
  rw [hupdate, hsum, hsplit]
  omega

omit [Fintype ι] in
theorem effectsOf_append_self (t : ι) (trace : List (ι × Effect α)) (effects : List (Effect α)) :
    effectsOf t (trace ++ effects.map (t, ·)) = effectsOf t trace ++ effects := by
  rw [effectsOf, List.filterMap_append, ← effectsOf, List.filterMap_map]
  congr 1
  simp

omit [Fintype ι] in
theorem effectsOf_append_other {t i : ι} (h : i ≠ t) (trace : List (ι × Effect α))
    (effects : List (Effect α)) :
    effectsOf i (trace ++ effects.map (t, ·)) = effectsOf i trace := by
  rw [effectsOf, List.filterMap_append, ← effectsOf, List.filterMap_map]
  have hnone : (effects.filterMap fun effect : Effect α =>
      if t = i then some effect else none) = [] := by
    rw [List.filterMap_eq_nil_iff]
    intro effect _
    rw [if_neg (Ne.symm h)]
  simpa [Function.comp_def] using hnone

omit [DecidableEq ι] [Fintype ι] in
theorem points_append (t : ι) (trace : List (ι × Effect α)) (effects : List (Effect α)) :
    points (trace ++ effects.map (t, ·)) = points trace ++ effects.filterMap Effect.point := by
  rw [points, List.filterMap_append, ← points, List.filterMap_map]
  rfl

variable {s : Threads ι α} {trace : List (ι × Effect α)} {t : ι}

theorem Sound.advance (h : Sound s trace) {fifo : Fifo ι α} {pc : Pc α}
    {effects : List (Effect α)}
    (hcount : fifo.queue.length + s.fifo.qisempty + (s.pc t).reserved + (s.pc t).posting =
      s.fifo.queue.length + fifo.qisempty + pc.reserved + pc.posting)
    (howner : pc.holds = true ↔ fifo.qislocked = some t)
    (hother : ∀ i, i ≠ t → fifo.qislocked = some i →
      s.fifo.qislocked = some i ∧ fifo.queue = s.fifo.queue ∧ fifo.state = s.fifo.state)
    (hkeep : ∀ i, i ≠ t → s.fifo.qislocked = some i → fifo.qislocked = some i)
    (hfree : fifo.qislocked = none → Pc.Agrees fifo)
    (hknows : fifo.qislocked = some t → pc.Knows fifo)
    (hlegal : Queue.Legal (points trace ++ effects.filterMap Effect.point) fifo.queue)
    (hprotocol : ∀ l, Protocol l (s.pc t).phase → Protocol (l ++ effects) pc.phase) :
    Sound ⟨fifo, Function.update s.pc t pc⟩ (trace ++ effects.map (t, ·)) where
  counted := by
    have hreserved := sum_update Pc.reserved s.pc t pc
    have hposting := sum_update Pc.posting s.pc t pc
    have hcounted := h.counted
    dsimp only
    omega
  owner i := by
    dsimp only
    by_cases hi : i = t
    · rw [hi, Function.update_self, howner]
    · rw [Function.update_of_ne hi, h.owner i]
      exact ⟨hkeep i hi, fun hlocked => (hother i hi hlocked).1⟩
  free := hfree
  knows i hlocked := by
    dsimp only at hlocked ⊢
    by_cases hi : i = t
    · rw [hi, Function.update_self]
      exact hknows (hi ▸ hlocked)
    · obtain ⟨hsame, hqueue, hstate⟩ := hother i hi hlocked
      have hknow := h.knows i hsame
      rw [Function.update_of_ne hi]
      rw [Pc.Knows.congr hqueue hstate]
      exact hknow
  legal := by
    rw [points_append]
    exact hlegal
  protocol i := by
    dsimp only
    by_cases hi : i = t
    · rw [hi, Function.update_self, effectsOf_append_self]
      exact hprotocol _ (h.protocol t)
    · rw [Function.update_of_ne hi, effectsOf_append_other hi]
      exact h.protocol i

theorem Sound.outside (h : Sound s trace) {qisempty : Nat} {pc : Pc α} {effects : List (Effect α)}
    (hold : (s.pc t).holds = false) (hnew : pc.holds = false)
    (hcount : s.fifo.qisempty + (s.pc t).reserved + (s.pc t).posting =
      qisempty + pc.reserved + pc.posting)
    (hpoints : effects.filterMap Effect.point = [])
    (hprotocol : ∀ l, Protocol l (s.pc t).phase → Protocol (l ++ effects) pc.phase) :
    Sound ⟨{ s.fifo with qisempty }, Function.update s.pc t pc⟩ (trace ++ effects.map (t, ·)) := by
  have hnot : s.fifo.qislocked ≠ some t := by
    rw [Ne, ← h.owner t, hold]
    exact Bool.false_ne_true
  apply h.advance
  · dsimp only
    omega
  · rw [hnew]
    exact ⟨fun hfalse => absurd hfalse Bool.false_ne_true, fun hlocked => absurd hlocked hnot⟩
  · exact fun _ _ hlocked => ⟨hlocked, rfl, rfl⟩
  · exact fun _ _ hlocked => hlocked
  · exact h.free
  · exact fun hlocked => absurd hlocked hnot
  · rw [hpoints, List.append_nil]
    exact h.legal
  · exact hprotocol

theorem Sound.acquire (h : Sound s trace) {pc : Pc α} (hnone : s.fifo.qislocked = none)
    (hnew : pc.holds = true)
    (hcount : (s.pc t).reserved + (s.pc t).posting = pc.reserved + pc.posting)
    (hknows : Pc.Agrees s.fifo → pc.Knows s.fifo) (hphase : pc.phase = (s.pc t).phase) :
    Sound ⟨{ s.fifo with qislocked := some t }, Function.update s.pc t pc⟩ trace := by
  have hnil : trace = trace ++ ([] : List (Effect α)).map (t, ·) := (List.append_nil trace).symm
  rw [hnil]
  apply h.advance
  · dsimp only
    omega
  · exact iff_of_true hnew rfl
  · exact fun i hi hlocked => absurd (Option.some.inj hlocked) (Ne.symm hi)
  · intro i _ hlocked
    rw [hnone] at hlocked
    cases hlocked
  · exact fun hfree => absurd hfree (Option.some_ne_none t)
  · exact fun _ => hknows (h.free hnone)
  · rw [List.filterMap_nil, List.append_nil]
    exact h.legal
  · intro l hl
    rw [List.append_nil, hphase]
    exact hl

theorem Sound.inside (h : Sound s trace) {queue : List α} {state : FifoState} {qisempty : Nat}
    {pc : Pc α} {effects : List (Effect α)} (hold : (s.pc t).holds = true)
    (hnew : pc.holds = true)
    (hcount : queue.length + s.fifo.qisempty + (s.pc t).reserved + (s.pc t).posting =
      s.fifo.queue.length + qisempty + pc.reserved + pc.posting)
    (hknows : pc.Knows { s.fifo with queue, state, qisempty })
    (hlegal : Queue.Legal (points trace ++ effects.filterMap Effect.point) queue)
    (hprotocol : ∀ l, Protocol l (s.pc t).phase → Protocol (l ++ effects) pc.phase) :
    Sound ⟨{ s.fifo with queue, state, qisempty }, Function.update s.pc t pc⟩
      (trace ++ effects.map (t, ·)) := by
  have hlocked : s.fifo.qislocked = some t := (h.owner t).1 hold
  apply h.advance hcount
  · exact iff_of_true hnew hlocked
  · intro i hi hi'
    rw [hlocked] at hi'
    exact absurd (Option.some.inj hi') (Ne.symm hi)
  · exact fun _ _ hi' => hi'
  · intro hnone
    rw [hlocked] at hnone
    cases hnone
  · exact fun _ => hknows
  · exact hlegal
  · exact hprotocol

theorem Sound.release (h : Sound s trace) {el : Option α} (hold : (s.pc t).holds = true)
    (hcount : (s.pc t).reserved + (s.pc t).posting = 0) (hagrees : Pc.Agrees s.fifo)
    (hphase : (s.pc t).phase = .returning el) :
    Sound ⟨{ s.fifo with qislocked := none }, Function.update s.pc t .idle⟩
      (trace ++ [(t, .ret el)]) := by
  have hlocked : s.fifo.qislocked = some t := (h.owner t).1 hold
  have hidle : (Pc.idle : Pc α).reserved = 0 ∧ (Pc.idle : Pc α).posting = 0 := ⟨rfl, rfl⟩
  show Sound _ (trace ++ [Effect.ret el].map (t, ·))
  apply h.advance
  · dsimp only
    omega
  · simp [Pc.holds]
  · exact fun i _ hi' => absurd hi' (Option.some_ne_none i).symm
  · intro i hi hi'
    rw [hlocked] at hi'
    exact absurd (Option.some.inj hi') (Ne.symm hi)
  · exact fun _ => hagrees
  · exact fun hi' => absurd hi' (Option.some_ne_none t).symm
  · show Queue.Legal (points trace ++ []) s.fifo.queue
    rw [List.append_nil]
    exact h.legal
  · intro l hl
    rw [hphase] at hl
    exact .ret el hl

def Pc.Waits (pc : Pc α) : Prop :=
  pc.holds = false ∧ pc.reserved = 0 ∧ pc.posting = 0 ∧ pc.phase = .getting

theorem Sound.passed (h : Sound s trace) (hwaits : (s.pc t).Waits) (hne : s.fifo.qisempty ≠ 0) :
    Sound ⟨{ s.fifo with qisempty := s.fifo.qisempty - 1 }, Function.update s.pc t .getLock⟩
      (trace ++ []) := by
  obtain ⟨hold, hreserved, hposting, hphase⟩ := hwaits
  have hget : (Pc.getLock : Pc α).reserved = 1 ∧ (Pc.getLock : Pc α).posting = 0 := ⟨rfl, rfl⟩
  show Sound _ (trace ++ ([] : List (Effect α)).map (t, ·))
  apply h.outside hold rfl
  · omega
  · rfl
  · intro l hl
    rw [hphase] at hl
    exact (List.append_nil l).symm ▸ hl

theorem Sound.gaveUp (h : Sound s trace) (hwaits : (s.pc t).Waits) :
    Sound ⟨s.fifo, Function.update s.pc t .idle⟩ (trace ++ [(t, .ret none)]) := by
  obtain ⟨hold, hreserved, hposting, hphase⟩ := hwaits
  have hidle : (Pc.idle : Pc α).reserved = 0 ∧ (Pc.idle : Pc α).posting = 0 := ⟨rfl, rfl⟩
  show Sound ⟨{ s.fifo with qisempty := s.fifo.qisempty }, _⟩
    (trace ++ [Effect.ret none].map (t, ·))
  apply h.outside hold rfl
  · omega
  · rfl
  · intro l hl
    rw [hphase] at hl
    exact .retNone hl

theorem Sound.queue_ne_nil (h : Sound s trace) (hreserved : (s.pc t).reserved = 1) :
    s.fifo.queue ≠ [] := by
  have hle : (s.pc t).reserved ≤ ∑ i, (s.pc i).reserved :=
    Finset.single_le_sum (f := fun i => (s.pc i).reserved) (fun _ _ => Nat.zero_le _)
      (Finset.mem_univ t)
  have hcounted := h.counted
  exact List.ne_nil_of_length_pos (by omega)

theorem Sound.next (h : Sound s trace) (t : ι) :
    Sound (s.next t).1 (trace ++ (s.next t).2) := by
  have hstay : Sound s (trace ++ []) := (List.append_nil trace).symm ▸ h
  have hknows : (s.pc t).holds = true → (s.pc t).Knows s.fifo :=
    fun hold => h.knows t ((h.owner t).1 hold)
  have hlegal : Queue.Legal (points trace ++ ([] : List (Effect α)).filterMap Effect.point)
      s.fifo.queue := (List.append_nil (points trace)).symm ▸ h.legal
  have hstep {phase : Pc.Phase α} (l : List (Effect α)) (hl : Protocol l phase) :
      Protocol (l ++ []) phase := (List.append_nil l).symm ▸ hl
  unfold Threads.next
  dsimp only
  cases hpc : s.pc t with
  | idle => exact hstay
  | addLock el front =>
      dsimp only
      split_ifs with hlocked
      · exact hstay
      · rw [List.append_nil]
        exact h.acquire (by simpa using hlocked) rfl (by rw [hpc]; rfl) id (by rw [hpc]; rfl)
  | addList el front =>
      have hlegal : Queue.Legal (points trace ++ [Effect.listAdd el front].filterMap Effect.point)
          (osipListAdd s.fifo.queue el (if front then 0 else -1)) := by
        cases front with
        | false =>
            simp only [Bool.false_eq_true, if_false, osipListAdd_end]
            exact .add el h.legal
        | true =>
            simp only [if_true, osipListAdd_front]
            exact .insert el h.legal
      have hlength : (osipListAdd s.fifo.queue el (if front then 0 else -1)).length =
          s.fifo.queue.length + 1 := by
        cases front with
        | false => simp [osipListAdd_end]
        | true => simp [osipListAdd_front]
      show Sound ⟨{ s.fifo with
        queue := osipListAdd s.fifo.queue el (if front then 0 else -1) },
        Function.update s.pc t .addState⟩ (trace ++ [Effect.listAdd el front].map (t, ·))
      apply h.inside (by rw [hpc]; rfl) rfl
      · rw [hpc, hlength]
        simp only [Pc.reserved, Pc.posting]
        omega
      · exact List.ne_nil_of_length_pos (by rw [hlength]; omega)
      · exact hlegal
      · rw [hpc]
        exact fun l hl => .put el front hl
  | addState =>
      have hne : s.fifo.queue ≠ [] := by
        have hknow := hknows (by rw [hpc]; rfl)
        rwa [hpc] at hknow
      show Sound ⟨{ s.fifo with state := .ok }, Function.update s.pc t .addPost⟩
        (trace ++ ([] : List (Effect α)).map (t, ·))
      apply h.inside (by rw [hpc]; rfl) rfl
      · rw [hpc]
        rfl
      · exact ⟨nofun, fun hnil => absurd hnil hne⟩
      · exact hlegal
      · rw [hpc]
        exact hstep
  | addPost =>
      show Sound ⟨{ s.fifo with qisempty := s.fifo.qisempty + 1 },
        Function.update s.pc t .addUnlock⟩ (trace ++ ([] : List (Effect α)).map (t, ·))
      apply h.inside (by rw [hpc]; rfl) rfl
      · rw [hpc]
        simp only [Pc.reserved, Pc.posting]
        omega
      · have hknow := hknows (by rw [hpc]; rfl)
        rwa [hpc] at hknow
      · exact hlegal
      · rw [hpc]
        exact hstep
  | addUnlock =>
      have hknow := hknows (by rw [hpc]; rfl)
      rw [hpc] at hknow
      exact h.release (by rw [hpc]; rfl) (by rw [hpc]; rfl) hknow (by rw [hpc]; rfl)
  | semWait =>
      dsimp only
      split_ifs with hzero
      · exact hstay
      · exact h.passed (by rw [hpc]; exact ⟨rfl, rfl, rfl, rfl⟩) hzero
  | semTrywait =>
      dsimp only
      split_ifs with hzero
      · exact h.gaveUp (by rw [hpc]; exact ⟨rfl, rfl, rfl, rfl⟩)
      · exact h.passed (by rw [hpc]; exact ⟨rfl, rfl, rfl, rfl⟩) hzero
  | getLock =>
      dsimp only
      split_ifs with hlocked
      · exact hstay
      · rw [List.append_nil]
        exact h.acquire (by simpa using hlocked) rfl (by rw [hpc]; rfl) id (by rw [hpc]; rfl)
  | getTest =>
      have hknow := hknows (by rw [hpc]; rfl)
      rw [hpc] at hknow
      have hne : s.fifo.queue ≠ [] := h.queue_ne_nil (by rw [hpc]; rfl)
      have hstate : s.fifo.state ≠ .empty := fun hempty => hne (hknow.1 hempty)
      dsimp only
      rw [if_pos hstate]
      show Sound ⟨s.fifo, Function.update s.pc t .getFirst⟩
        (trace ++ ([] : List (Effect α)).map (t, ·))
      apply h.inside (by rw [hpc]; rfl) rfl
      · rw [hpc]
        rfl
      · exact ⟨hknow, hne⟩
      · exact hlegal
      · rw [hpc]
        exact hstep
  | getFirst =>
      have hknow := hknows (by rw [hpc]; rfl)
      rw [hpc] at hknow
      obtain ⟨el, queue, hqueue⟩ := List.exists_cons_of_ne_nil hknow.2
      show Sound ⟨s.fifo, Function.update s.pc t (.getRemove (osipListGet s.fifo.queue 0))⟩
        (trace ++ ([] : List (Effect α)).map (t, ·))
      apply h.inside (by rw [hpc]; rfl) rfl
      · rw [hpc]
        rfl
      · rw [osipListGet_zero]
        exact ⟨by rw [hqueue]; rfl, rfl⟩
      · exact hlegal
      · rw [hpc]
        exact hstep
  | getRemove el =>
      have hknow := hknows (by rw [hpc]; rfl)
      rw [hpc] at hknow
      obtain ⟨hsome, hhead⟩ := hknow
      obtain ⟨a, rfl⟩ := Option.isSome_iff_exists.1 hsome
      obtain ⟨queue, hqueue⟩ := List.head?_eq_some_iff.1 hhead
      show Sound ⟨{ s.fifo with queue := osipListRemove s.fifo.queue 0 },
        Function.update s.pc t (.getState (some a))⟩
        (trace ++ [Effect.listRemove (some a)].map (t, ·))
      rw [osipListRemove_zero, hqueue, List.tail_cons]
      apply h.inside (by rw [hpc]; rfl) rfl
      · rw [hpc, hqueue, List.length_cons]
        simp only [Pc.reserved, Pc.posting]
        omega
      · exact rfl
      · exact .take a (hqueue ▸ h.legal)
      · rw [hpc]
        exact fun l hl => .take a hl
  | getState el =>
      have hknow := hknows (by rw [hpc]; rfl)
      rw [hpc] at hknow
      show Sound ⟨{ s.fifo with
        state := if s.fifo.queue.length ≤ 0 then .empty else .ok },
        Function.update s.pc t (.getUnlock el)⟩ (trace ++ ([] : List (Effect α)).map (t, ·))
      apply h.inside (by rw [hpc]; rfl) rfl
      · rw [hpc]
        rfl
      · refine ⟨?_, hknow⟩
        rw [Pc.Agrees, ← List.length_eq_zero_iff, ← Nat.le_zero]
        dsimp only
        split_ifs with hlength <;> simp [hlength]
      · exact hlegal
      · rw [hpc]
        exact hstep
  | getUnlock el =>
      have hknow := hknows (by rw [hpc]; rfl)
      rw [hpc] at hknow
      exact h.release (by rw [hpc]; rfl) (by rw [hpc]; rfl) hknow.1 (by rw [hpc]; rfl)
  | noElement =>
      have hknow := hknows (by rw [hpc]; rfl)
      rw [hpc] at hknow
      exact hknow.elim

theorem Sound.step (h : Sound s trace) (turn : Turn ι α) :
    Sound (Threads.step s turn).1 (trace ++ (Threads.step s turn).2) := by
  have hstay : Sound s (trace ++ []) := (List.append_nil trace).symm ▸ h
  cases turn with
  | next t => exact h.next t
  | call t op =>
      cases hpc : s.pc t
      case idle =>
        simp only [Threads.step, hpc]
        show Sound ⟨{ s.fifo with qisempty := s.fifo.qisempty },
          Function.update s.pc t (Threads.entry op)⟩ (trace ++ [Effect.call op].map (t, ·))
        apply h.outside (by rw [hpc]; rfl)
        · cases op <;> rfl
        · cases op <;> rw [hpc] <;> rfl
        · rfl
        · rw [hpc]
          intro l hl
          cases op with
          | add el => exact .callAdd el hl
          | insert el => exact .callInsert el hl
          | get => exact .callGet hl
          | tryget => exact .callTryget hl
      all_goals
        simp only [Threads.step, hpc]
        exact hstay
  | waitFails t =>
      cases hpc : s.pc t
      case semWait =>
        simp only [Threads.step, hpc]
        exact h.gaveUp (by rw [hpc]; exact ⟨rfl, rfl, rfl, rfl⟩)
      case semTrywait =>
        simp only [Threads.step, hpc]
        exact h.gaveUp (by rw [hpc]; exact ⟨rfl, rfl, rfl, rfl⟩)
      all_goals
        simp only [Threads.step, hpc]
        exact hstay

theorem sound_init : Sound (Threads.init ι α) [] where
  counted := by simp [Threads.init, Fifo.init, Pc.reserved, Pc.posting]
  owner t := by simp [Threads.init, Fifo.init, Pc.holds]
  free _ := by simp [Pc.Agrees, Threads.init, Fifo.init]
  knows t h := by simp [Threads.init, Fifo.init] at h
  legal := .start
  protocol _ := .start

theorem Sound.posting_le (h : Sound s trace) : ∑ t, (s.pc t).posting ≤ 1 := by
  cases hlocked : s.fifo.qislocked with
  | none =>
      have hzero (t : ι) : (s.pc t).posting = 0 := by
        have hnot : ¬ (s.pc t).holds = true := by
          rw [h.owner t, hlocked]
          exact (Option.some_ne_none t).symm
        cases hpc : s.pc t <;> rw [hpc] at hnot <;> first | rfl | exact absurd rfl hnot
      rw [Finset.sum_eq_zero fun t _ => hzero t]
      exact Nat.zero_le 1
  | some owner =>
      have hzero (t : ι) (ht : t ≠ owner) : (s.pc t).posting = 0 := by
        have hnot : ¬ (s.pc t).holds = true := by
          rw [h.owner t, hlocked]
          exact fun heq => ht (Option.some.inj heq).symm
        cases hpc : s.pc t <;> rw [hpc] at hnot <;> first | rfl | exact absurd rfl hnot
      rw [Finset.sum_eq_single owner (fun t _ ht => hzero t ht)
        (fun hnot => absurd (Finset.mem_univ owner) hnot)]
      cases s.pc owner <;> simp [Pc.posting]

/-- What the threads have done to the fifo is one legal history of a queue. -/
structure Linearizable (s : Threads ι α) (trace : List (ι × Effect α)) : Prop where
  /-- The operations in the order of their critical sections: an added element goes behind all
  others, an inserted one ahead of them, and the one that is taken is the first. -/
  legal : Queue.Legal (points trace) s.fifo.queue
  /-- No element is lost or returned twice. -/
  kept : ((points trace).filterMap Queue.Point.put).Perm
    ((points trace).filterMap Queue.Point.taken ++ s.fifo.queue)
  inOrder : ∀ p : α → Bool, (∀ el, .add el ∈ points trace → p el = true) →
    (∀ el, .insert el ∈ points trace → p el = false) →
    ((points trace).filterMap Queue.Point.put).filter p =
      ((points trace).filterMap Queue.Point.taken).filter p ++ s.fifo.queue.filter p
  /-- A call returns what its own operation took, and an operation belongs to one call. -/
  protocol : ∀ t, Protocol (effectsOf t trace) (s.pc t).phase
  /-- A getter behind its wait finds an element. -/
  found : ∀ t, (t, Effect.noElement) ∉ trace
  counted : s.fifo.qisempty + ∑ t, (s.pc t).reserved + ∑ t, (s.pc t).posting =
    s.fifo.queue.length
  posting : ∑ t, (s.pc t).posting ≤ 1

omit [DecidableEq ι] [Fintype ι] in
theorem Protocol.noElement_notMem {l : List (Effect α)} {phase : Pc.Phase α}
    (h : Protocol l phase) : Effect.noElement ∉ l := by
  induction h with
  | start => exact List.not_mem_nil
  | _ => simp_all

/-- Every interleaving of any threads that call the four functions. -/
theorem fifo_linearizable (turns : List (Turn ι α)) :
    Linearizable (Machine.run Threads.step (Threads.init ι α) turns).1
      (Machine.run Threads.step (Threads.init ι α) turns).2 := by
  have hsound := Machine.run_trace_invariant Threads.step (I := Sound)
    (fun _ _ turn h => h.step turn) turns (sound_init (ι := ι) (α := α))
  refine ⟨hsound.legal, hsound.legal.perm, fun p => hsound.legal.inOrder, hsound.protocol, ?_,
    hsound.counted, hsound.posting_le⟩
  intro t hmem
  refine (hsound.protocol t).noElement_notMem (List.mem_filterMap.2 ⟨_, hmem, ?_⟩)
  simp

end Sound

/-- Between the list operation and the post of an adder, the queue has an element more than
the semaphore and the getters on their way. -/
theorem fifo_counted_beforePost :
    ∃ s : Threads (Fin 1) Nat,
      s = (Machine.run Threads.step (Threads.init (Fin 1) Nat)
        [.call 0 (.add 7), .next 0, .next 0]).1 ∧
      s.fifo.qisempty + ∑ t, (s.pc t).reserved ≠ s.fifo.queue.length :=
  ⟨_, rfl, by decide⟩

end Port
end Exosip
