import Exosip.Machine.Run
import Exosip.Stack.Destination
import Exosip.Stack.Osip

/-! The retransmissions of 2xx responses and ACKs outside of the transactions: how often an
entry is sent and when, and what the two ways to stop it remove. -/
namespace Exosip
namespace Retransmissions

open CString

/-- An entry of `osip_t->ixt_retransmissions`. The dialog stands for its address. The serial
number tells the entries apart over a run; the source has none. -/
structure Entry where
  serial : Nat
  dialog : Nat
  ixt : Ixt

/-- The list of the entries, and the times at which the entries of the run were made, by
serial number. -/
structure IxtList where
  entries : List Entry
  created : List Instant

def init : IxtList := ⟨[], []⟩

/-- A call of `cb_send_message`. -/
structure Sent where
  serial : Nat
  time : Instant
  sip : Message
  dest : Option Str
  port : Int
  sock : Int

inductive Call where
  /-- `clone` is what `osip_message_clone` makes of the response. -/
  | start200ok (now : Instant) (dialog : Nat) (msg200ok : Message) (clone : Option Message)
      (sock : Int)
  | startAck (now : Instant) (dialog : Nat) (clone : Option Message) (dest : Option Str)
      (port sock : Int)
  | execute (now : Instant)
  /-- `matched` tells for which dialogs `osip_dialog_match_as_uas` is successful. -/
  | stop200ok (ack : Message) (matched : Nat → Bool)
  | stopFromDialog (dialog : Nat)

namespace Call

def time : Call → Option Instant
  | start200ok now .. => some now
  | startAck now .. => some now
  | execute now => some now
  | stop200ok .. => none
  | stopFromDialog _ => none

end Call

namespace Entry

/-- The message that `ixt_retransmit` sends. -/
def message (entry : Entry) : Option Message :=
  match entry.ixt.ack with
  | some ack => some ack
  | none => entry.ixt.msg2xx

def isDue (entry : Entry) (current : Instant) : Bool :=
  Timeval.osipTimercmpGt current.toTimeval entry.ixt.start

/-- What `ixt_retransmit` sends. -/
def sends (entry : Entry) (current : Instant) : List Sent :=
  if entry.isDue current then
    entry.message.toList.map fun sip =>
      ⟨entry.serial, current, sip, entry.ixt.dest, entry.ixt.port, entry.ixt.sock⟩
  else []

def retransmit (entry : Entry) (current : Instant) : Entry :=
  { entry with ixt := ixtRetransmit entry.ixt current }

end Entry

/-- The loop of `osip_retransmissions_execute`. -/
def executeLoop (current : Instant) : List Entry → List Entry × List Sent
  | [] => ([], [])
  | entry :: entries =>
      let rest := executeLoop current entries
      let ixt := entry.retransmit current
      (if ixt.ixt.counter = 0 then rest.1 else ixt :: rest.1, entry.sends current ++ rest.2)

/-- The loop of `osip_stop_200ok_retransmissions`: the first entry that the ACK belongs to. -/
def stop200okLoop (number : Str) (matched : Nat → Bool) : List Entry → List Entry
  | [] => []
  | entry :: entries =>
      match (entry.ixt.msg2xx.bind Message.cseq).bind Cseq.number with
      | none => entry :: stop200okLoop number matched entries
      | some number2xx =>
          if matched entry.dialog ∧ number2xx = number then entries
          else entry :: stop200okLoop number matched entries

/-- The loop of `osip_stop_retransmissions_from_dialog`. -/
def stopFromDialogLoop (dialog : Nat) : List Entry → List Entry
  | [] => []
  | entry :: entries =>
      if entry.dialog = dialog then stopFromDialogLoop dialog entries
      else entry :: stopFromDialogLoop dialog entries

namespace IxtList

/-- `osip_add_ixt` puts the entry in front. -/
def add (list : IxtList) (now : Instant) (dialog : Nat) (ixt : Ixt) : IxtList :=
  ⟨⟨list.created.length, dialog, ixt⟩ :: list.entries, list.created ++ [now]⟩

def step (list : IxtList) : Call → IxtList × List Sent
  | .start200ok now dialog msg200ok clone sock =>
      let destination := osipResponseGetDestination msg200ok
      (list.add now dialog
        { ixtInit now with
          msg2xx := clone, sock, dest := destination.1, port := destination.2 }, [])
  | .startAck now dialog clone dest port sock =>
      (list.add now dialog { ixtInit now with ack := clone, dest, port, sock }, [])
  | .execute now =>
      let passed := executeLoop now list.entries
      ({ list with entries := passed.1 }, passed.2)
  | .stop200ok ack matched =>
      match ack.cseq.bind Cseq.number with
      | none => (list, [])
      | some number => ({ list with entries := stop200okLoop number matched list.entries }, [])
  | .stopFromDialog dialog =>
      ({ list with entries := stopFromDialogLoop dialog list.entries }, [])

end IxtList

/-! ### The schedule -/

def intervalAt (sends : Nat) : Int := min (defaultT1 * 2 ^ sends) defaultT2

/-- When the entry is due after so many sends, in microseconds. -/
def due (created : Instant) : Nat → Int
  | 0 => created.usecs + 1000 * (defaultT1 + 10)
  | sends + 1 => due created sends + 1000 * intervalAt (sends + 1)

/-- The times at which an entry was sent. -/
def timesOf (serial : Nat) (trace : List Sent) : List Int :=
  (trace.filter fun sent => sent.serial == serial).map fun sent => sent.time.usecs

def OnSchedule (created : Instant) (times : List Int) : Prop :=
  ∀ sends time, times[sends]? = some time → due created sends < time

/-- The entry after so many sends. -/
structure AfterSends (created : Instant) (entry : Entry) (sends : Nat) : Prop where
  counter : entry.ixt.counter = 10 - sends
  lt : sends < 10
  interval : entry.ixt.interval = intervalAt sends
  normalised : entry.ixt.start.Normalised
  start : entry.ixt.start.usecs = due created sends

/-- What holds after every run. The entries that are still there have been sent less than ten
times, each of the others at most ten times, and every send was due. -/
structure Orderly (list : IxtList) (trace : List Sent) : Prop where
  entries : ∀ entry ∈ list.entries, ∃ created ∈ list.created[entry.serial]?, ∃ sends,
    AfterSends created entry sends ∧
      (timesOf entry.serial trace).length = if entry.message.isSome then sends else 0
  distinct : (list.entries.map Entry.serial).Nodup
  bounded : ∀ serial, (timesOf serial trace).length ≤ 10
  schedule : ∀ serial, ∀ created ∈ list.created[serial]?, OnSchedule created (timesOf serial trace)
  known : ∀ serial, list.created.length ≤ serial → timesOf serial trace = []

/-! ### One entry -/

theorem intervalAt_pos (sends : Nat) : 0 < intervalAt sends := by
  have hpow : (0 : Int) < 2 ^ sends := by positivity
  rw [intervalAt]
  change 0 < min (500 * 2 ^ sends : Int) 4000
  omega

theorem intervalAt_le (sends : Nat) : intervalAt sends ≤ 4000 := min_le_right _ _

theorem intervalAt_succ (sends : Nat) :
    (if intervalAt sends * 2 > defaultT2 then defaultT2 else intervalAt sends * 2) =
      intervalAt (sends + 1) := by
  have hpow : (0 : Int) < 2 ^ sends := by positivity
  unfold intervalAt
  rw [pow_succ]
  change (if min (500 * 2 ^ sends : Int) 4000 * 2 > 4000 then (4000 : Int)
    else min (500 * 2 ^ sends) 4000 * 2) = min (500 * (2 ^ sends * 2)) 4000
  split_ifs <;> omega

section AfterSends

variable {created now : Instant} {entry : Entry} {sends : Nat}

theorem AfterSends.isDue_iff (h : AfterSends created entry sends) :
    entry.isDue now = true ↔ due created sends < now.usecs := by
  rw [Entry.isDue, Timeval.osipTimercmpGt_iff now.normalised h.normalised, h.start]

theorem afterSends_new (ack msg2xx : Option Message) (dest : Option Str) (port sock : Int)
    (serial dialog : Nat) :
    AfterSends now
      ⟨serial, dialog, { ixtInit now with ack, msg2xx, dest, port, sock }⟩ 0 where
  counter := rfl
  lt := by decide
  interval := (by decide : defaultT1 = intervalAt 0)
  normalised := now.after_normalised (by decide)
  start := Timeval.usecs_addGettimeofday now.normalised (by decide) (by decide)

theorem retransmit_of_not_due (hdue : entry.isDue now = false) : entry.retransmit now = entry := by
  have hixt : ixtRetransmit entry.ixt now = entry.ixt := by
    rw [Entry.isDue] at hdue
    rw [ixtRetransmit, if_neg (by rw [hdue]; exact Bool.false_ne_true)]
  rw [Entry.retransmit, hixt]

theorem AfterSends.retransmit (h : AfterSends created entry sends) (hdue : entry.isDue now = true)
    (hcounter : (entry.retransmit now).ixt.counter ≠ 0) :
    AfterSends created (entry.retransmit now) (sends + 1) := by
  have hixt : (entry.retransmit now).ixt =
      { entry.ixt with
        interval := intervalAt (sends + 1)
        start := Timeval.addGettimeofday entry.ixt.start (intervalAt (sends + 1))
        counter := entry.ixt.counter - 1 } := by
    change ixtRetransmit entry.ixt now = _
    rw [Entry.isDue] at hdue
    rw [ixtRetransmit, if_pos hdue, h.interval, intervalAt_succ]
  have hpos := intervalAt_pos (sends + 1)
  have hle := intervalAt_le (sends + 1)
  have hcount := h.counter
  have hlt := h.lt
  rw [hixt] at hcounter
  dsimp only at hcounter
  exact
    { counter := by rw [hixt]; dsimp only; omega
      lt := by omega
      interval := by rw [hixt]
      normalised := by
        rw [hixt]
        exact Timeval.addGettimeofday_normalised h.normalised hpos.le
      start := by
        rw [hixt, due, ← h.start]
        exact Timeval.usecs_addGettimeofday h.normalised hpos.le (by omega) }

theorem message_retransmit (entry : Entry) (now : Instant) :
    (entry.retransmit now).message = entry.message := by
  unfold Entry.message Entry.retransmit ixtRetransmit
  dsimp only
  split_ifs <;> rfl

end AfterSends

/-! ### One pass -/

theorem timesOf_append (serial : Nat) (trace trace' : List Sent) :
    timesOf serial (trace ++ trace') = timesOf serial trace ++ timesOf serial trace' := by
  rw [timesOf, timesOf, timesOf, List.filter_append, List.map_append]

def Entry.sendTimes (entry : Entry) (current : Instant) : List Int :=
  if entry.isDue current && entry.message.isSome then [current.usecs] else []

theorem timesOf_sends (serial : Nat) (entry : Entry) (current : Instant) :
    timesOf serial (entry.sends current) =
      if entry.serial = serial then entry.sendTimes current else [] := by
  unfold Entry.sends Entry.sendTimes timesOf
  cases entry.isDue current <;> cases entry.message <;> by_cases h : entry.serial = serial <;>
    simp [h]

theorem executeLoop_fst (current : Instant) (entries : List Entry) :
    (executeLoop current entries).1 =
      (entries.map (·.retransmit current)).filter fun entry => entry.ixt.counter ≠ 0 := by
  induction entries with
  | nil => rfl
  | cons entry entries ih =>
      rw [executeLoop, List.map_cons, List.filter_cons, ih]
      by_cases hcounter : (entry.retransmit current).ixt.counter = 0 <;> simp [hcounter]

theorem timesOf_executeLoop_of_notMem {serial : Nat} {entries : List Entry} (current : Instant)
    (h : serial ∉ entries.map Entry.serial) :
    timesOf serial (executeLoop current entries).2 = [] := by
  induction entries with
  | nil => rfl
  | cons entry entries ih =>
      rw [List.map_cons, List.mem_cons, not_or] at h
      rw [executeLoop, timesOf_append, timesOf_sends, if_neg (Ne.symm h.1), ih h.2, List.nil_append]

theorem timesOf_executeLoop {entry : Entry} {entries : List Entry} (current : Instant)
    (hdistinct : (entries.map Entry.serial).Nodup) (hmem : entry ∈ entries) :
    timesOf entry.serial (executeLoop current entries).2 = entry.sendTimes current := by
  induction entries with
  | nil => cases hmem
  | cons head entries ih =>
      rw [List.map_cons, List.nodup_cons] at hdistinct
      rw [executeLoop, timesOf_append, timesOf_sends]
      obtain rfl | hmem := List.mem_cons.1 hmem
      · rw [if_pos rfl, timesOf_executeLoop_of_notMem current hdistinct.1, List.append_nil]
      · have hne : head.serial ≠ entry.serial := fun hsame =>
          hdistinct.1 (hsame ▸ List.mem_map_of_mem hmem)
        rw [if_neg hne, ih hdistinct.2 hmem, List.nil_append]

/-! ### The invariant -/

theorem onSchedule_append {created now : Instant} {times : List Int}
    (h : OnSchedule created times) (hdue : due created times.length < now.usecs) :
    OnSchedule created (times ++ [now.usecs]) := by
  intro sends time htime
  rw [List.getElem?_append] at htime
  split_ifs at htime with hlt
  · exact h sends time htime
  · obtain ⟨hindex, htime⟩ := List.getElem?_eq_some_iff.1 htime
    rw [List.length_singleton] at hindex
    rw [List.getElem_singleton] at htime
    rw [← htime, show sends = times.length by omega]
    exact hdue

theorem orderly_init : Orderly init [] where
  entries := fun entry hentry => absurd hentry List.not_mem_nil
  distinct := List.nodup_nil
  bounded := fun serial => Nat.zero_le 10
  schedule := fun serial created hcreated => absurd hcreated (by simp [init])
  known := fun serial _ => rfl

theorem lt_of_getElem? {α : Type} {l : List α} {i : Nat} {a : α} (h : a ∈ l[i]?) :
    i < l.length :=
  (List.getElem?_eq_some_iff.1 h).1

section Step

variable {list : IxtList} {trace : List Sent}

theorem Orderly.serial_lt (h : Orderly list trace) {entry : Entry} (hentry : entry ∈ list.entries) :
    entry.serial < list.created.length := by
  obtain ⟨created, hcreated, -⟩ := h.entries entry hentry
  exact lt_of_getElem? hcreated

theorem Orderly.add (h : Orderly list trace) (now : Instant) (dialog : Nat)
    (ack msg2xx : Option Message) (dest : Option Str) (port sock : Int) :
    Orderly (list.add now dialog { ixtInit now with ack, msg2xx, dest, port, sock }) trace where
  entries := by
    intro entry hentry
    rw [IxtList.add, List.mem_cons] at hentry
    obtain rfl | hentry := hentry
    · have hnone := h.known list.created.length (Nat.le_refl _)
      refine ⟨now, by simp [IxtList.add], 0, afterSends_new ack msg2xx dest port sock _ dialog, ?_⟩
      simp [hnone]
    · obtain ⟨created, hcreated, hsends⟩ := h.entries entry hentry
      refine ⟨created, ?_, hsends⟩
      rw [IxtList.add, List.getElem?_append_left (lt_of_getElem? hcreated)]
      exact hcreated
  distinct := by
    rw [IxtList.add, List.map_cons, List.nodup_cons]
    refine ⟨fun hmem => ?_, h.distinct⟩
    obtain ⟨entry, hentry, hserial⟩ := List.mem_map.1 hmem
    have hlt := h.serial_lt hentry
    dsimp only at hserial
    omega
  bounded := h.bounded
  schedule := by
    intro serial created hcreated
    rw [IxtList.add, List.getElem?_append] at hcreated
    split_ifs at hcreated with hlt
    · exact h.schedule serial created hcreated
    · rw [h.known serial (not_lt.1 hlt)]
      intro sends time htime
      rw [List.getElem?_nil] at htime
      cases htime
  known := by
    intro serial hserial
    rw [IxtList.add, List.length_append, List.length_singleton] at hserial
    exact h.known serial (by omega)

theorem Orderly.sublist (h : Orderly list trace) {entries : List Entry}
    (hsub : entries.Sublist list.entries) : Orderly { list with entries } trace where
  entries := fun entry hentry => h.entries entry (hsub.subset hentry)
  distinct := h.distinct.sublist (hsub.map Entry.serial)
  bounded := h.bounded
  schedule := h.schedule
  known := h.known

theorem Orderly.times_execute (h : Orderly list trace) (now : Instant) (serial : Nat) :
    timesOf serial (trace ++ (executeLoop now list.entries).2) = timesOf serial trace ∨
      ∃ entry ∈ list.entries, entry.serial = serial ∧ entry.isDue now = true ∧
        entry.message.isSome = true ∧
        timesOf serial (trace ++ (executeLoop now list.entries).2) =
          timesOf serial trace ++ [now.usecs] := by
  by_cases hmem : serial ∈ list.entries.map Entry.serial
  · obtain ⟨entry, hentry, rfl⟩ := List.mem_map.1 hmem
    rw [timesOf_append, timesOf_executeLoop now h.distinct hentry, Entry.sendTimes]
    cases hdue : entry.isDue now with
    | false => exact Or.inl (List.append_nil _)
    | true =>
        cases hmessage : entry.message with
        | none => exact Or.inl (List.append_nil _)
        | some sip => exact Or.inr ⟨entry, hentry, rfl, hdue, by rw [hmessage]; rfl, rfl⟩
  · left
    rw [timesOf_append, timesOf_executeLoop_of_notMem now hmem, List.append_nil]

theorem Orderly.afterSends (h : Orderly list trace) {entry : Entry}
    (hentry : entry ∈ list.entries) (hmessage : entry.message.isSome = true) {created : Instant}
    (hcreated : created ∈ list.created[entry.serial]?) :
    AfterSends created entry (timesOf entry.serial trace).length := by
  obtain ⟨created', hcreated', sends, hafter, hlength⟩ := h.entries entry hentry
  cases Option.mem_unique hcreated hcreated'
  rw [if_pos hmessage] at hlength
  rw [hlength]
  exact hafter

theorem Orderly.times_due (h : Orderly list trace) {entry : Entry} (hentry : entry ∈ list.entries)
    {now : Instant} (hdue : entry.isDue now = true) (hmessage : entry.message.isSome = true) :
    (timesOf entry.serial trace).length < 10 ∧
      ∀ created ∈ list.created[entry.serial]?,
        due created (timesOf entry.serial trace).length < now.usecs := by
  obtain ⟨created, hcreated, -⟩ := h.entries entry hentry
  refine ⟨(h.afterSends hentry hmessage hcreated).lt, fun created' hcreated' => ?_⟩
  exact (h.afterSends hentry hmessage hcreated').isDue_iff.1 hdue

theorem Orderly.execute (h : Orderly list trace) (now : Instant) :
    Orderly { list with entries := (executeLoop now list.entries).1 }
      (trace ++ (executeLoop now list.entries).2) where
  entries := by
    intro entry' hentry'
    rw [executeLoop_fst, List.mem_filter, decide_eq_true_iff] at hentry'
    obtain ⟨hentry', hcounter⟩ := hentry'
    obtain ⟨entry, hentry, rfl⟩ := List.mem_map.1 hentry'
    obtain ⟨created, hcreated, sends, hafter, hlength⟩ := h.entries entry hentry
    have htimes : timesOf entry.serial (trace ++ (executeLoop now list.entries).2) =
        timesOf entry.serial trace ++ entry.sendTimes now := by
      rw [timesOf_append, timesOf_executeLoop now h.distinct hentry]
    rw [message_retransmit]
    change ∃ created ∈ list.created[entry.serial]?, ∃ sends, _ ∧ (timesOf entry.serial _).length = _
    rw [htimes, Entry.sendTimes]
    refine ⟨created, hcreated, ?_⟩
    cases hdue : entry.isDue now with
    | false =>
        rw [retransmit_of_not_due hdue, Bool.false_and, if_neg Bool.false_ne_true, List.append_nil]
        exact ⟨sends, hafter, hlength⟩
    | true =>
        refine ⟨sends + 1, hafter.retransmit hdue hcounter, ?_⟩
        rw [List.length_append, hlength, Bool.true_and]
        cases entry.message.isSome <;> rfl
  distinct := by
    have hsub : ((executeLoop now list.entries).1.map Entry.serial).Sublist
        ((list.entries.map (·.retransmit now)).map Entry.serial) := by
      rw [executeLoop_fst]
      exact List.filter_sublist.map _
    rw [List.map_map] at hsub
    exact h.distinct.sublist hsub
  bounded := by
    intro serial
    obtain htimes | ⟨entry, hentry, rfl, hdue, hmessage, htimes⟩ := h.times_execute now serial
    · rw [htimes]
      exact h.bounded serial
    · rw [htimes, List.length_append, List.length_singleton]
      exact (h.times_due hentry hdue hmessage).1
  schedule := by
    intro serial created hcreated
    obtain htimes | ⟨entry, hentry, rfl, hdue, hmessage, htimes⟩ := h.times_execute now serial
    · rw [htimes]
      exact h.schedule serial created hcreated
    · rw [htimes]
      exact onSchedule_append (h.schedule _ created hcreated)
        ((h.times_due hentry hdue hmessage).2 created hcreated)
  known := by
    intro serial hserial
    obtain htimes | ⟨entry, hentry, rfl, -⟩ := h.times_execute now serial
    · rw [htimes]
      exact h.known serial hserial
    · have hlt := h.serial_lt hentry
      dsimp only at hserial
      omega

theorem stop200okLoop_sublist (number : Str) (matched : Nat → Bool) (entries : List Entry) :
    (stop200okLoop number matched entries).Sublist entries := by
  fun_induction stop200okLoop number matched entries with
  | case1 => exact List.Sublist.slnil
  | case2 entry entries _ ih => exact ih.cons_cons entry
  | case3 entry entries => exact List.sublist_cons_self entry entries
  | case4 entry entries _ _ _ ih => exact ih.cons_cons entry

theorem stopFromDialogLoop_eq (dialog : Nat) (entries : List Entry) :
    stopFromDialogLoop dialog entries = entries.filter fun entry => entry.dialog ≠ dialog := by
  induction entries with
  | nil => rfl
  | cons entry entries ih =>
      rw [stopFromDialogLoop, List.filter_cons, ih]
      by_cases hsame : entry.dialog = dialog <;> simp [hsame]

theorem Orderly.step (h : Orderly list trace) (call : Call) :
    Orderly (list.step call).1 (trace ++ (list.step call).2) := by
  cases call with
  | start200ok now dialog msg200ok clone sock =>
      rw [IxtList.step, List.append_nil]
      exact h.add now dialog none clone _ _ sock
  | startAck now dialog clone dest port sock =>
      rw [IxtList.step, List.append_nil]
      exact h.add now dialog clone none dest port sock
  | execute now => exact h.execute now
  | stop200ok ack matched =>
      rw [IxtList.step]
      split <;> rw [List.append_nil]
      · exact h
      · exact h.sublist (stop200okLoop_sublist _ matched list.entries)
  | stopFromDialog dialog =>
      rw [IxtList.step, List.append_nil, stopFromDialogLoop_eq]
      exact h.sublist List.filter_sublist

end Step

/-! ### One pass over the list -/

section Pass

variable {list : IxtList} {trace : List Sent} {entry : Entry} {created : Instant}

theorem Orderly.sent_iff (h : Orderly list trace) (hentry : entry ∈ list.entries)
    (hmessage : entry.message.isSome = true) (hcreated : created ∈ list.created[entry.serial]?)
    (now : Instant) :
    timesOf entry.serial (executeLoop now list.entries).2 =
      if due created (timesOf entry.serial trace).length < now.usecs then [now.usecs] else [] := by
  have hafter := h.afterSends hentry hmessage hcreated
  rw [timesOf_executeLoop now h.distinct hentry, Entry.sendTimes, hmessage, Bool.and_true]
  simp only [hafter.isDue_iff]

theorem AfterSends.counter_retransmit {sends : Nat} (h : AfterSends created entry sends)
    (now : Instant) : (entry.retransmit now).ixt.counter = 0 ↔
      due created sends < now.usecs ∧ sends = 9 := by
  have hcounter := h.counter
  have hlt := h.lt
  cases hdue : entry.isDue now with
  | false =>
      have hnot : ¬ due created sends < now.usecs := by
        rw [← h.isDue_iff, hdue]
        exact Bool.false_ne_true
      rw [retransmit_of_not_due hdue, hcounter]
      exact iff_of_false (by omega) fun hboth => hnot hboth.1
  | true =>
      have hixt : (entry.retransmit now).ixt.counter = entry.ixt.counter - 1 := by
        rw [Entry.isDue] at hdue
        rw [Entry.retransmit, ixtRetransmit, if_pos hdue]
      rw [hixt, hcounter, and_iff_right (h.isDue_iff.1 hdue)]
      omega

theorem Orderly.removed_iff (h : Orderly list trace) (hentry : entry ∈ list.entries)
    (hmessage : entry.message.isSome = true) (hcreated : created ∈ list.created[entry.serial]?)
    (now : Instant) :
    entry.serial ∉ (executeLoop now list.entries).1.map Entry.serial ↔
      due created (timesOf entry.serial trace).length < now.usecs ∧
        (timesOf entry.serial trace).length = 9 := by
  rw [← (h.afterSends hentry hmessage hcreated).counter_retransmit now, executeLoop_fst]
  constructor
  · intro hgone
    by_contra hcounter
    refine hgone (List.mem_map.2 ⟨entry.retransmit now, List.mem_filter.2 ⟨?_, ?_⟩, rfl⟩)
    · exact List.mem_map_of_mem hentry
    · exact decide_eq_true hcounter
  · intro hcounter hmem
    obtain ⟨kept, hkept, hserial⟩ := List.mem_map.1 hmem
    obtain ⟨hkept, hnonzero⟩ := List.mem_filter.1 hkept
    obtain ⟨other, hother, rfl⟩ := List.mem_map.1 hkept
    have hsame : other = entry := List.inj_on_of_nodup_map h.distinct hother hentry hserial
    rw [hsame, decide_eq_true_iff] at hnonzero
    exact hnonzero hcounter

end Pass

/-! ### Runs -/

def Entry.belongsTo (number : Str) (matched : Nat → Bool) (entry : Entry) : Bool :=
  matched entry.dialog && (entry.ixt.msg2xx.bind Message.cseq).bind Cseq.number == some number

theorem stop200okLoop_eq (number : Str) (matched : Nat → Bool) (entries : List Entry) :
    stop200okLoop number matched entries = entries.eraseP (Entry.belongsTo number matched) := by
  induction entries with
  | nil => rfl
  | cons entry entries ih =>
      rw [stop200okLoop, List.eraseP_cons, ih, Entry.belongsTo]
      cases (entry.ixt.msg2xx.bind Message.cseq).bind Cseq.number with
      | none => simp
      | some number2xx =>
          dsimp only
          have hnumber : (some number2xx == some number) = decide (number2xx = number) := by
            rw [Bool.eq_iff_iff, beq_iff_eq, Option.some.injEq, decide_eq_true_iff]
          rw [hnumber]
          cases hmatched : matched entry.dialog <;> by_cases hsame : number2xx = number <;>
            simp [hsame]

/-- After the calls every entry was sent at most ten times, each time after the schedule said so;
the next pass sends exactly what is due by it and removes what it sends for the tenth time; and
the calls that stop an entry leave all others as they are, in their order. -/
structure FollowsSchedule (list : IxtList) (trace : List Sent) : Prop where
  orderly : Orderly list trace
  sent : ∀ now, ∀ entry ∈ list.entries, ∀ created ∈ list.created[entry.serial]?,
    entry.message.isSome = true → timesOf entry.serial (list.step (.execute now)).2 =
      if due created (timesOf entry.serial trace).length < now.usecs then [now.usecs] else []
  removed : ∀ now, ∀ entry ∈ list.entries, ∀ created ∈ list.created[entry.serial]?,
    entry.message.isSome = true →
      (entry.serial ∉ (list.step (.execute now)).1.entries.map Entry.serial ↔
        due created (timesOf entry.serial trace).length < now.usecs ∧
          (timesOf entry.serial trace).length = 9)
  stopFromDialog : ∀ dialog, (list.step (.stopFromDialog dialog)).1.entries =
    list.entries.filter fun entry => entry.dialog ≠ dialog
  stop200ok : ∀ ack matched, ∀ number ∈ ack.cseq.bind Cseq.number,
    (list.step (.stop200ok ack matched)).1.entries =
      list.entries.eraseP (Entry.belongsTo number matched)

theorem Orderly.followsSchedule {list : IxtList} {trace : List Sent} (h : Orderly list trace) :
    FollowsSchedule list trace where
  orderly := h
  sent := fun now _ hentry _ hcreated hmessage => h.sent_iff hentry hmessage hcreated now
  removed := fun now _ hentry _ hcreated hmessage => h.removed_iff hentry hmessage hcreated now
  stopFromDialog := fun dialog => stopFromDialogLoop_eq dialog list.entries
  stop200ok := by
    intro ack matched number hnumber
    rw [Option.mem_def] at hnumber
    rw [IxtList.step, hnumber]
    exact stop200okLoop_eq number matched list.entries

/-- Whatever the calls and their times, the entries keep to the schedule that their start laid
down. -/
theorem retransmits_followsSchedule (calls : List Call) :
    FollowsSchedule (Machine.run IxtList.step init calls).1
      (Machine.run IxtList.step init calls).2 :=
  Orderly.followsSchedule
    (Machine.run_trace_invariant IxtList.step (fun _ _ call h => h.step call) calls orderly_init)

/-- The sends are at least their interval apart. -/
structure Paced (created : Instant) (times : List Int) : Prop where
  first : ∀ time ∈ times.head?, 1000 * intervalAt 0 ≤ time - created.usecs
  next : ∀ sends time time', times[sends]? = some time → times[sends + 1]? = some time' →
    1000 * intervalAt (sends + 1) ≤ time' - time

/-- The entries are sent at intervals, from one send to the next. -/
structure Retransmits (list : IxtList) (trace : List Sent) : Prop
    extends FollowsSchedule list trace where
  intervals : ∀ serial, ∀ created ∈ list.created[serial]?, Paced created (timesOf serial trace)

/-- The times of the calls do not go back. -/
def Forward (calls : List Call) : Prop :=
  (calls.filterMap Call.time).Pairwise fun now later => now.usecs ≤ later.usecs

def latePasses : List Call :=
  [.start200ok (.ofUsecs 0) 1 Message.init (some Message.init) (-1),
    .execute (.ofUsecs 10000000), .execute (.ofUsecs 10001000)]

theorem not_retransmits :
    ¬ ∀ calls, Forward calls → Retransmits (Machine.run IxtList.step init calls).1
      (Machine.run IxtList.step init calls).2 := by
  intro h
  have hforward : Forward latePasses := by
    unfold Forward latePasses
    decide
  have htimes : timesOf 0 (Machine.run IxtList.step init latePasses).2 = [10000000, 10001000] := by
    decide
  have hpaced := (h latePasses hforward).intervals 0 (.ofUsecs 0) rfl
  rw [htimes] at hpaced
  exact absurd (hpaced.next 0 10000000 10001000 rfl rfl) (by decide)

end Retransmissions
end Exosip
