import Exosip.Port.Fifo

/-! The events on their way to the application. A thread of the stack puts an event into the
fifo and then a byte into a pipe; the application's thread looks into the fifo, empties the pipe
and sleeps on it. A call of the fifo is one step here, and the threads take turns in any
order. -/
namespace Exosip

open Machine Port

/-- Where a thread stands in `_eXosip_event_add`: `wakeup` is behind `osip_fifo_add`. -/
inductive Adder where
  | idle | wakeup
  deriving DecidableEq

/-- Where the application's thread stands in `eXosip_event_wait`, or from `getPoll` on in
`eXosip_event_get`. With `now`, both `tv_s` and `tv_ms` are zero. -/
inductive Waiter where
  | idle
  | tryget (now : Bool)
  | poll (now : Bool)
  | drain (now : Bool)
  | waitTest (now : Bool)
  | select
  | stopTest
  | readAgain
  | trygetAgain
  | getPoll
  | getDrain
  | get
  deriving DecidableEq

/-- `missed`: the first `osip_fifo_tryget` found nothing. `polled n`: what was in the pipe before
the thread sleeps has been looked for, and `n` bytes were read. -/
inductive EventEffect (α : Type) where
  | added (je : α)
  | missed
  | polled (n : Nat)
  | returned (je : Option α)
  deriving DecidableEq

/-- The events and the pipe of `eXosip_t`, with the number of bytes in the pipe. `jStopUa` tells
that `j_stop_ua` is not zero, as it is before a socket is opened. -/
structure EventQueue (ι α : Type) where
  jEvents : List α
  jSocketctlEvent : Nat
  jStopUa : Bool
  adder : ι → Adder
  waiter : Waiter

/-- `wakeupEvent` is a call of `eXosip_wakeup_event` by anyone else, and `stopUa` sets `j_stop_ua`,
as opening a socket and `eXosip_quit` do. With `selectFails`, `select` comes back with nothing to
read. -/
inductive EventTurn (ι α : Type) where
  | add (t : ι) (je : α)
  | wakeup (t : ι)
  | wakeupEvent
  | stopUa (j : Bool)
  | wait (now : Bool)
  | get
  | next
  | selectFails

namespace EventEffect

variable {α : Type}

def addedEvent : EventEffect α → Option α
  | .added je => some je
  | _ => none

def returnedEvent : EventEffect α → Option α
  | .returned je => je
  | _ => none

end EventEffect

open EventEffect

namespace EventQueue

variable {ι α : Type} [DecidableEq ι]

def init (ι α : Type) : EventQueue ι α := ⟨[], 0, true, fun _ => .idle, .idle⟩

/-- `jpipe_write` of one byte. The pipe does not block a writer: when it is full, the byte is
lost. -/
def jpipeWrite (capacity bytes : Nat) : Nat := min (bytes + 1) capacity

/-- What `jpipe_read` of 499 bytes takes. -/
def jpipeRead (bytes : Nat) : Nat := min bytes 499

def setAdder (s : EventQueue ι α) (t : ι) (pc : Adder) : EventQueue ι α :=
  { s with adder := Function.update s.adder t pc }

def wakeupEvent (capacity : Nat) (s : EventQueue ι α) : EventQueue ι α :=
  { s with jSocketctlEvent := jpipeWrite capacity s.jSocketctlEvent }

/-- `jpipe_read`, which waits for a byte; then the thread goes on at `pc`. -/
def read (s : EventQueue ι α) (pc : Waiter) (effects : List (EventEffect α)) :
    EventQueue ι α × List (EventEffect α) :=
  if s.jSocketctlEvent = 0 then (s, [])
  else
    ({ s with jSocketctlEvent := s.jSocketctlEvent - jpipeRead s.jSocketctlEvent, waiter := pc },
      effects)

/-- `osip_fifo_tryget`, whose result is returned. -/
def returnFirst (s : EventQueue ι α) : EventQueue ι α × List (EventEffect α) :=
  ({ s with jEvents := osipListRemove s.jEvents 0, waiter := .idle },
    [.returned (osipListGet s.jEvents 0)])

def next (s : EventQueue ι α) : EventQueue ι α × List (EventEffect α) :=
  match s.waiter with
  | .idle => (s, [])
  | .tryget now =>
      if s.jEvents = [] then ({ s with waiter := .poll now }, [.missed]) else s.returnFirst
  | .poll now =>
      if s.jSocketctlEvent = 0 then ({ s with waiter := .waitTest now }, [.polled 0])
      else ({ s with waiter := .drain now }, [])
  | .drain now => s.read (.waitTest now) [.polled (jpipeRead s.jSocketctlEvent)]
  | .waitTest now =>
      if now then ({ s with waiter := .idle }, [.returned none])
      else ({ s with waiter := .select }, [])
  | .select => if s.jSocketctlEvent = 0 then (s, []) else ({ s with waiter := .stopTest }, [])
  | .stopTest =>
      if s.jStopUa then ({ s with waiter := .idle }, [.returned none])
      else ({ s with waiter := .readAgain }, [])
  | .readAgain => s.read .trygetAgain []
  | .trygetAgain => s.returnFirst
  | .getPoll =>
      if s.jSocketctlEvent = 0 then ({ s with waiter := .get }, [])
      else ({ s with waiter := .getDrain }, [])
  | .getDrain => s.read .get []
  -- `osip_fifo_get` waits for an event
  | .get => if s.jEvents = [] then (s, []) else s.returnFirst

def step (capacity : Nat) : Step (EventQueue ι α) (EventTurn ι α) (EventEffect α)
  | s, .add t je =>
      match s.adder t with
      | .idle =>
          ({ s with jEvents := osipListAdd s.jEvents je (-1) }.setAdder t .wakeup, [.added je])
      | .wakeup => (s, [])
  | s, .wakeup t =>
      match s.adder t with
      | .idle => (s, [])
      | .wakeup => ((s.wakeupEvent capacity).setAdder t .idle, [])
  | s, .wakeupEvent => (s.wakeupEvent capacity, [])
  | s, .stopUa j => ({ s with jStopUa := j }, [])
  | s, .wait now =>
      match s.waiter with
      | .idle => ({ s with waiter := .tryget now }, [])
      | _ => (s, [])
  | s, .get =>
      match s.waiter with
      | .idle => ({ s with waiter := .getPoll }, [])
      | _ => (s, [])
  | s, .next => s.next
  | s, .selectFails =>
      match s.waiter with
      | .select => ({ s with waiter := .idle }, [.returned none])
      | _ => (s, [])

/-- Something is in the pipe, or a thread is about to write to it. -/
def Wakes (s : EventQueue ι α) : Prop := s.jSocketctlEvent ≠ 0 ∨ ∃ t, s.adder t = .wakeup

/-- The events of the queue have come since the thread looked into it. -/
def Missed (s : EventQueue ι α) (trace : List (EventEffect α)) : Prop :=
  (∃ before, trace = before ++ .missed :: s.jEvents.map .added) ∧ (s.jEvents ≠ [] → s.Wakes)

/-- The events of the queue have come since the thread looked into it, and those that came since
it has looked into the pipe wake it. -/
def Polled (s : EventQueue ι α) (trace : List (EventEffect α)) : Prop :=
  ∃ before early n late,
    trace = before ++ .missed :: (early.map .added ++ .polled n :: late.map .added) ∧
      s.jEvents = early ++ late ∧ (n = 0 → early ≠ [] → s.Wakes) ∧ (late ≠ [] → s.Wakes)

end EventQueue

def Waiter.reads : Waiter → Bool
  | .drain _ | .stopTest | .readAgain | .getDrain => true
  | _ => false

namespace EventQueue

variable {ι α : Type} {s s' : EventQueue ι α} {trace effects : List (EventEffect α)}
  {capacity : Nat}

structure Sound (s : EventQueue ι α) (trace : List (EventEffect α)) : Prop where
  inOrder : trace.filterMap addedEvent = trace.filterMap returnedEvent ++ s.jEvents
  readable : s.waiter.reads = true → s.jSocketctlEvent ≠ 0
  missed : ∀ now, s.waiter = .poll now ∨ s.waiter = .drain now → s.Missed trace
  polled : ∀ now, s.waiter = .waitTest now ∨ s.waiter = .select → s.Polled trace

/-- A turn of the other threads: it may add events, and the pipe does not get empty. -/
structure Grows (s s' : EventQueue ι α) (els : List α) : Prop where
  jEvents : s'.jEvents = s.jEvents ++ els
  bytes : s.jSocketctlEvent ≠ 0 → s'.jSocketctlEvent ≠ 0
  wakes : s.Wakes → s'.Wakes
  fresh : els ≠ [] → s'.Wakes
  waiter : s'.waiter = s.waiter

theorem filterMap_added (els : List α) :
    (els.map EventEffect.added).filterMap addedEvent = els := by
  simp [List.filterMap_map, Function.comp_def, addedEvent]

theorem filterMap_returned (els : List α) :
    (els.map EventEffect.added).filterMap returnedEvent = [] := by
  simp [returnedEvent]

theorem Missed.grow {els : List α} (h : s.Missed trace) (hgrow : Grows s s' els) :
    s'.Missed (trace ++ els.map .added) := by
  obtain ⟨⟨before, rfl⟩, hwakes⟩ := h
  refine ⟨⟨before, ?_⟩, ?_⟩
  · rw [hgrow.jEvents, List.map_append, List.append_assoc, List.cons_append]
  · intro hne
    by_cases hels : els = []
    · rw [hgrow.jEvents, hels, List.append_nil] at hne
      exact hgrow.wakes (hwakes hne)
    · exact hgrow.fresh hels

theorem Polled.grow {els : List α} (h : s.Polled trace) (hgrow : Grows s s' els) :
    s'.Polled (trace ++ els.map .added) := by
  obtain ⟨before, early, n, late, rfl, hevents, hzero, hlate⟩ := h
  refine ⟨before, early, n, late ++ els, ?_, ?_, ?_, ?_⟩
  · simp only [List.append_assoc, List.cons_append, List.map_append]
  · rw [hgrow.jEvents, hevents, List.append_assoc]
  · intro hn hearly
    exact hgrow.wakes (hzero hn hearly)
  · intro hne
    by_cases hels : els = []
    · rw [hels, List.append_nil] at hne
      exact hgrow.wakes (hlate hne)
    · exact hgrow.fresh hels

theorem Sound.grow {els : List α} (h : s.Sound trace) (hgrow : Grows s s' els) :
    s'.Sound (trace ++ els.map .added) where
  inOrder := by
    rw [List.filterMap_append, List.filterMap_append, filterMap_added, filterMap_returned,
      List.append_nil, h.inOrder, hgrow.jEvents, List.append_assoc]
  readable := by
    rw [hgrow.waiter]
    intro hreads
    exact hgrow.bytes (h.readable hreads)
  missed := by
    rw [hgrow.waiter]
    intro now hat
    exact (h.missed now hat).grow hgrow
  polled := by
    rw [hgrow.waiter]
    intro now hat
    exact (h.polled now hat).grow hgrow

theorem Sound.move (h : s.Sound trace) (hevents : s'.jEvents = s.jEvents)
    (hadded : effects.filterMap addedEvent = []) (hreturned : effects.filterMap returnedEvent = [])
    (hreads : s'.waiter.reads = true → s'.jSocketctlEvent ≠ 0)
    (hmissed : ∀ now, s'.waiter = .poll now ∨ s'.waiter = .drain now →
      s'.Missed (trace ++ effects))
    (hpolled : ∀ now, s'.waiter = .waitTest now ∨ s'.waiter = .select →
      s'.Polled (trace ++ effects)) : s'.Sound (trace ++ effects) where
  inOrder := by
    rw [List.filterMap_append, List.filterMap_append, hadded, hreturned, List.append_nil,
      List.append_nil, h.inOrder, hevents]
  readable := hreads
  missed := hmissed
  polled := hpolled

theorem Sound.returnFirst (h : s.Sound trace) :
    s.returnFirst.1.Sound (trace ++ s.returnFirst.2) where
  inOrder := by
    unfold EventQueue.returnFirst
    rw [List.filterMap_append, List.filterMap_append, h.inOrder, osipListGet_zero,
      osipListRemove_zero, List.filterMap_cons, List.filterMap_cons]
    cases s.jEvents <;> simp [addedEvent, returnedEvent]
  readable := by simp [EventQueue.returnFirst, Waiter.reads]
  missed := by simp [EventQueue.returnFirst]
  polled := by simp [EventQueue.returnFirst]

theorem jpipeWrite_ne_zero (hcapacity : 0 < capacity) (bytes : Nat) :
    jpipeWrite capacity bytes ≠ 0 := by
  unfold jpipeWrite
  omega

theorem grows_write (hcapacity : 0 < capacity) (s : EventQueue ι α) (adder : ι → Adder) :
    Grows s { s.wakeupEvent capacity with adder } [] where
  jEvents := (List.append_nil _).symm
  bytes _ := jpipeWrite_ne_zero hcapacity _
  wakes _ := .inl (jpipeWrite_ne_zero hcapacity _)
  fresh h := absurd rfl h
  waiter := rfl

theorem grows_stopUa (s : EventQueue ι α) (j : Bool) : Grows s { s with jStopUa := j } [] where
  jEvents := (List.append_nil _).symm
  bytes h := h
  wakes h := h
  fresh h := absurd rfl h
  waiter := rfl

theorem Missed.polled (h : s.Missed trace) {n : Nat} (hevents : s'.jEvents = s.jEvents)
    (hzero : n = 0 → s.Wakes → s'.Wakes) : s'.Polled (trace ++ [.polled n]) := by
  obtain ⟨⟨before, rfl⟩, hwakes⟩ := h
  refine ⟨before, s.jEvents, n, [], ?_, ?_, ?_, ?_⟩
  · rw [List.append_assoc, List.cons_append, List.map_nil]
  · rw [hevents, List.append_nil]
  · intro hn hne
    exact hzero hn (hwakes hne)
  · intro hne
    exact absurd rfl hne

/-- The thread goes on to where nothing has to be known. -/
theorem Sound.settle (h : s.Sound trace) (hevents : s'.jEvents = s.jEvents)
    (hadded : effects.filterMap addedEvent = []) (hreturned : effects.filterMap returnedEvent = [])
    (hpc : s'.waiter = .idle ∨ s'.waiter = .trygetAgain ∨ s'.waiter = .get) :
    s'.Sound (trace ++ effects) := by
  refine h.move hevents hadded hreturned ?_ ?_ ?_
  · obtain hpc | hpc | hpc := hpc <;> simp [hpc, Waiter.reads]
  · obtain hpc | hpc | hpc := hpc <;> simp [hpc]
  · obtain hpc | hpc | hpc := hpc <;> simp [hpc]

theorem Sound.goTo (h : s.Sound trace) (pc : Waiter)
    (hreads : pc.reads = true → s.jSocketctlEvent ≠ 0)
    (hmissed : ∀ now, pc = .poll now ∨ pc = .drain now → s.Missed trace)
    (hpolled : ∀ now, pc = .waitTest now ∨ pc = .select → s.Polled trace) :
    ({ s with waiter := pc } : EventQueue ι α).Sound (trace ++ []) := by
  rw [List.append_nil]
  exact ⟨h.inOrder, hreads, hmissed, hpolled⟩

theorem Sound.returnNone (h : s.Sound trace) :
    ({ s with waiter := .idle } : EventQueue ι α).Sound (trace ++ [.returned none]) := by
  refine h.settle ?_ rfl rfl ?_
  · rfl
  · exact .inl rfl

theorem Sound.next (h : s.Sound trace) : s.next.1.Sound (trace ++ s.next.2) := by
  have hstay : s.Sound (trace ++ []) := by
    rw [List.append_nil]
    exact h
  unfold EventQueue.next
  cases hwaiter : s.waiter with
  | idle => exact hstay
  | tryget now =>
      dsimp only
      split_ifs with hempty
      · refine h.move ?_ rfl rfl ?_ ?_ ?_
        · rfl
        · simp [Waiter.reads]
        · intro _ _
          refine ⟨⟨trace, ?_⟩, fun hne => absurd hempty hne⟩
          rw [hempty]
          rfl
        · simp
      · exact h.returnFirst
  | poll now =>
      dsimp only
      have hmissed := h.missed now (.inl hwaiter)
      split_ifs with hzero
      · refine h.move ?_ rfl rfl ?_ ?_ ?_
        · rfl
        · simp [Waiter.reads]
        · simp
        · intro _ _
          exact hmissed.polled rfl fun _ hwakes => hwakes
      · exact h.goTo (.drain now) (fun _ => hzero) (fun _ _ => hmissed) (by simp)
  | drain now =>
      have hmissed := h.missed now (.inr hwaiter)
      have hne := h.readable (by rw [hwaiter]; rfl)
      dsimp only [read]
      rw [if_neg hne]
      refine h.move ?_ rfl rfl ?_ ?_ ?_
      · rfl
      · simp [Waiter.reads]
      · simp
      · intro _ _
        refine hmissed.polled ?_ ?_
        · rfl
        · intro hn
          unfold jpipeRead at hn
          omega
  | waitTest now =>
      dsimp only
      split_ifs
      · exact h.returnNone
      · exact h.goTo .select (by simp [Waiter.reads]) (by simp)
          fun _ _ => h.polled now (.inl hwaiter)
  | select =>
      dsimp only
      split_ifs with hzero
      · exact hstay
      · exact h.goTo .stopTest (fun _ => hzero) (by simp) (by simp)
  | stopTest =>
      have hne := h.readable (by rw [hwaiter]; rfl)
      dsimp only
      split_ifs
      · exact h.returnNone
      · exact h.goTo .readAgain (fun _ => hne) (by simp) (by simp)
  | readAgain =>
      dsimp only [read]
      split_ifs
      · exact hstay
      · refine h.settle ?_ rfl rfl ?_
        · rfl
        · exact .inr (.inl rfl)
  | trygetAgain => exact h.returnFirst
  | getPoll =>
      dsimp only
      split_ifs with hzero
      · exact h.goTo .get (by simp [Waiter.reads]) (by simp) (by simp)
      · exact h.goTo .getDrain (fun _ => hzero) (by simp) (by simp)
  | getDrain =>
      dsimp only [read]
      split_ifs
      · exact hstay
      · refine h.settle ?_ rfl rfl ?_
        · rfl
        · exact .inr (.inr rfl)
  | get =>
      dsimp only
      split_ifs
      · exact hstay
      · exact h.returnFirst

theorem sound_init : (init ι α).Sound [] where
  inOrder := rfl
  readable := by simp [init, Waiter.reads]
  missed := by simp [init]
  polled := by simp [init]

/-- What any run of the threads keeps. -/
structure Delivers (s : EventQueue ι α) (trace : List (EventEffect α)) : Prop where
  /-- The events come to the application in the order in which they were added, and none is lost
  or comes twice. -/
  inOrder : trace.filterMap addedEvent = trace.filterMap returnedEvent ++ s.jEvents
  /-- No read of the pipe blocks. -/
  readable : s.waiter.reads = true → s.jSocketctlEvent ≠ 0
  /-- The thread sleeps over events only if they all came between its look into the fifo and its
  look into the pipe, where it has read their bytes. -/
  sleeps : s.waiter = .select → s.jSocketctlEvent = 0 → (∀ t, s.adder t = .idle) →
    ∃ before n, trace = before ++ .missed :: (s.jEvents.map .added ++ [.polled n]) ∧
      (s.jEvents ≠ [] → n ≠ 0)

variable [DecidableEq ι]

theorem grows_add (s : EventQueue ι α) (t : ι) (je : α) :
    Grows s ({ s with jEvents := osipListAdd s.jEvents je (-1) }.setAdder t .wakeup) [je] where
  jEvents := osipListAdd_end _ _
  bytes h := h
  wakes _ := .inr ⟨t, Function.update_self _ _ _⟩
  fresh _ := .inr ⟨t, Function.update_self _ _ _⟩
  waiter := rfl

theorem Sound.step (hcapacity : 0 < capacity) (h : s.Sound trace) (turn : EventTurn ι α) :
    (s.step capacity turn).1.Sound (trace ++ (s.step capacity turn).2) := by
  have hstay : s.Sound (trace ++ []) := by
    rw [List.append_nil]
    exact h
  cases turn with
  | add t je =>
      dsimp only [EventQueue.step]
      split
      · exact h.grow (grows_add s t je)
      · exact hstay
  | wakeup t =>
      dsimp only [EventQueue.step]
      split
      · exact hstay
      · exact h.grow (grows_write hcapacity s _)
  | wakeupEvent => exact h.grow (grows_write hcapacity s s.adder)
  | stopUa j => exact h.grow (grows_stopUa s j)
  | wait now =>
      dsimp only [EventQueue.step]
      split
      · exact h.goTo (.tryget now) (by simp [Waiter.reads]) (by simp) (by simp)
      · exact hstay
  | get =>
      dsimp only [EventQueue.step]
      split
      · exact h.goTo .getPoll (by simp [Waiter.reads]) (by simp) (by simp)
      · exact hstay
  | next => exact h.next
  | selectFails =>
      dsimp only [EventQueue.step]
      split
      · exact h.returnNone
      · exact hstay

/-- The application's thread finds the fifo empty, an event comes with its byte, and the thread
reads the byte before it sleeps. -/
def sleepingTurns : List (EventTurn (Fin 1) Nat) :=
  [.wait false, .next, .add 0 7, .wakeup 0, .next, .next, .next]

example : (run (step 65536) (init (Fin 1) Nat) sleepingTurns).1.waiter = .select ∧
    (run (step 65536) (init (Fin 1) Nat) sleepingTurns).1.jSocketctlEvent = 0 ∧
    (run (step 65536) (init (Fin 1) Nat) sleepingTurns).1.jEvents = [7] := by decide

end EventQueue
end Exosip
