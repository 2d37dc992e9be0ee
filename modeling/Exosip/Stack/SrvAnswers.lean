import Exosip.Machine.Bubble
import Exosip.Stack.SrvFailover

/-! The answers to the SRV lookups of a domain: each one is stored behind the entries of the
record that it names and is sorted in, and the rotation then goes through the sorted table. -/
namespace Exosip

open CString
open Machine

/-- `osip_srv_entry_t` with the fields that rank it. -/
structure RankedEntry extends SrvEntry where
  priority : Nat
  weight : Nat
  rweight : Nat
  deriving DecidableEq

/-- An entry of a table that was cleared. -/
def RankedEntry.empty : RankedEntry where
  srv := []
  port := 0
  ipaddress := []
  srvIsBroken := .zero
  priority := 0
  weight := 0
  rweight := 0

inductive SrvState
  | unknown
  | retrylater
  | completed
  | notsupported
  deriving DecidableEq, Repr

/-- `osip_srv_record_t` with what the lookup stores in it. -/
structure SrvTable where
  name : Str
  srvState : SrvState
  index : Nat
  srventry : List RankedEntry
  deriving DecidableEq

/-- A resource record of the type SRV, with its name and its target expanded, and what `rand`
returns for it. -/
structure SrvAnswer where
  rrName : Str
  priority : Nat
  weight : Nat
  port : Nat
  target : Str
  rand : Nat
  deriving DecidableEq

def SrvAnswer.write (answer : SrvAnswer) (entry : RankedEntry) : RankedEntry where
  srv := answer.target.take 511
  port := answer.port
  ipaddress := entry.ipaddress
  srvIsBroken := entry.srvIsBroken
  priority := answer.priority
  weight := answer.weight
  rweight := if answer.weight ≠ 0 then 1 + answer.rand % (10000 * answer.weight) else 0

namespace SrvTable

/-- `osip_srv_record_sort` of the first `n` entries: the loop repeats its pass over them until
one has made no exchange. -/
def osipSrvRecordSort (r : SrvTable) (n : Nat) : SrvTable :=
  { r with srventry := passes RankedEntry.priority (r.srventry.take n) ++ r.srventry.drop n }

/-- What `save_SRV` makes of the record that the answer names. -/
def save (r : SrvTable) (answer : SrvAnswer) : SrvTable :=
  let n := (r.srventry.takeWhile fun entry => decide (entry.srv ≠ [])).length
  if n = 10 then r
  else
    osipSrvRecordSort
      { r with srventry := r.srventry.modify n answer.write, srvState := .completed } (n + 1)

def toSrvRecord (r : SrvTable) : SrvRecord where
  name := r.name
  index := r.index
  srventry := r.srventry.map RankedEntry.toSrvEntry

end SrvTable

/-- `save_SRV`: the answer goes to the first record with its name. -/
def saveSRV (records : List SrvTable) (answer : SrvAnswer) : List SrvTable :=
  match records with
  | [] => []
  | r :: records =>
      if osipStrcasecmp (answer.rrName.take 511) r.name then r.save answer :: records
      else r :: saveSRV records answer

def SrvAnswer.record (answer : SrvAnswer) (names : List Str) : Nat :=
  names.findIdx fun name => osipStrcasecmp (answer.rrName.take 511) name

/-- The first ten answers, sorted by their priority and in their order otherwise. -/
def ranked (answers : List SrvAnswer) : List RankedEntry :=
  ((answers.take 10).map fun answer => answer.write .empty).mergeSort
    fun x y => x.priority ≤ y.priority

/-! ### One record -/

theorem length_ranked (answers : List SrvAnswer) :
    (ranked answers).length = min 10 answers.length := by
  rw [ranked, List.length_mergeSort, List.length_map, List.length_take]

theorem ranked_srv {answers : List SrvAnswer} (hnamed : ∀ answer ∈ answers, answer.target ≠ [])
    {entry : RankedEntry} (h : entry ∈ ranked answers) : entry.srv ≠ [] := by
  rw [ranked, List.mem_mergeSort, List.mem_map] at h
  obtain ⟨answer, hanswer, rfl⟩ := h
  have htarget := hnamed answer (List.mem_of_mem_take hanswer)
  cases hcase : answer.target with
  | nil => exact absurd hcase htarget
  | cons c target => simp [SrvAnswer.write, hcase]

/-- The table holds these answers, and nothing behind them. -/
structure SrvTable.Stores (r : SrvTable) (answers : List SrvAnswer) : Prop where
  entries : r.srventry = ranked answers ++ List.replicate (10 - answers.length) .empty

theorem takeWhile_stored {answers : List SrvAnswer}
    (hnamed : ∀ answer ∈ answers, answer.target ≠ []) :
    ((ranked answers ++ List.replicate (10 - answers.length) RankedEntry.empty).takeWhile
      fun entry => decide (entry.srv ≠ [])).length = min 10 answers.length := by
  have hall : ∀ entry ∈ ranked answers, decide (entry.srv ≠ []) = true := by
    intro entry hentry
    exact decide_eq_true (ranked_srv hnamed hentry)
  rw [List.takeWhile_append_of_pos hall, List.takeWhile_replicate,
    if_neg (by simp [RankedEntry.empty]), List.append_nil, length_ranked]

theorem modify_append_cons {α : Type} (f : α → α) (l : List α) (x : α) (l' : List α) :
    (l ++ x :: l').modify l.length f = l ++ f x :: l' := by
  induction l with
  | nil => rfl
  | cons y l ih => exact congrArg (y :: ·) ih

theorem ranked_concat {answers : List SrvAnswer} (answer : SrvAnswer) (hlt : answers.length < 10) :
    ranked (answers ++ [answer]) =
      passes RankedEntry.priority (ranked answers ++ [answer.write .empty]) := by
  have htake : (answers ++ [answer]).take 10 = answers ++ [answer] :=
    List.take_of_length_le (by rw [List.length_append, List.length_singleton]; omega)
  have htake' : answers.take 10 = answers := List.take_of_length_le (by omega)
  have hsorted : StableSort RankedEntry.priority (answers.map fun answer => answer.write .empty)
      ((answers.map fun answer => answer.write .empty).mergeSort
        fun x y => x.priority ≤ y.priority) :=
    stableSort_mergeSort _
  have hresult := hsorted.trans_append (passes_stableSort RankedEntry.priority
    (((answers.map fun answer => answer.write .empty).mergeSort
      fun x y => x.priority ≤ y.priority) ++ [answer.write .empty]))
  rw [ranked, ranked, htake, htake', List.map_append, List.map_singleton]
  exact (stableSort_mergeSort _).unique hresult

theorem SrvTable.Stores.save {r : SrvTable} {answers : List SrvAnswer} (h : r.Stores answers)
    (hnamed : ∀ answer ∈ answers, answer.target ≠ []) (answer : SrvAnswer) :
    (r.save answer).Stores (answers ++ [answer]) := by
  have hcount := takeWhile_stored hnamed
  rw [← h.entries] at hcount
  unfold SrvTable.save
  dsimp only
  rw [hcount]
  split
  · next hfull =>
      -- the eleventh answer is dropped
      have hle : 10 ≤ answers.length := by omega
      have htake : (answers ++ [answer]).take 10 = answers.take 10 :=
        List.take_append_of_le_length hle
      refine ⟨?_⟩
      rw [h.entries, ranked, ranked, htake, List.length_append, Nat.sub_eq_zero_of_le hle,
        Nat.sub_eq_zero_of_le (by omega)]
  · next hroom =>
      have hlt : answers.length < 10 := by omega
      have hmin : min 10 answers.length = answers.length := Nat.min_eq_right (by omega)
      have hlength : (ranked answers).length = answers.length := by rw [length_ranked, hmin]
      have hreplicate : List.replicate (10 - answers.length) RankedEntry.empty =
          .empty :: List.replicate (10 - (answers ++ [answer]).length) .empty := by
        rw [← List.replicate_succ, List.length_append, List.length_singleton]
        congr 1
        omega
      have hmodify : r.srventry.modify answers.length answer.write =
          (ranked answers ++ [answer.write .empty]) ++
            List.replicate (10 - (answers ++ [answer]).length) .empty := by
        rw [h.entries, hreplicate, ← hlength, modify_append_cons, List.append_assoc,
          List.singleton_append]
      refine ⟨?_⟩
      rw [hmin]
      simp only [SrvTable.osipSrvRecordSort]
      rw [hmodify, List.take_left' (by simp [hlength]), List.drop_left' (by simp [hlength]),
        ranked_concat answer hlt]

theorem SrvTable.Stores.run {r : SrvTable} {answers : List SrvAnswer} (h : r.Stores answers)
    (hnamed : ∀ answer ∈ answers, answer.target ≠ []) {later : List SrvAnswer}
    (hlater : ∀ answer ∈ later, answer.target ≠ []) :
    (later.foldl SrvTable.save r).Stores (answers ++ later) := by
  induction later generalizing r answers with
  | nil => rwa [List.append_nil]
  | cons answer later ih =>
      rw [List.forall_mem_cons] at hlater
      have hnamed' : ∀ a ∈ answers ++ [answer], a.target ≠ [] := by
        intro a ha
        rw [List.mem_append, List.mem_singleton] at ha
        cases ha with
        | inl ha => exact hnamed a ha
        | inr ha => rw [ha]; exact hlater.1
      have hrun := ih (h.save hnamed answer) hnamed' hlater.2
      rw [List.append_assoc, List.singleton_append] at hrun
      exact hrun

/-! ### The records of a domain -/

@[simp] theorem save_name (r : SrvTable) (answer : SrvAnswer) : (r.save answer).name = r.name := by
  unfold SrvTable.save
  dsimp only
  split <;> rfl

@[simp] theorem save_index (r : SrvTable) (answer : SrvAnswer) :
    (r.save answer).index = r.index := by
  unfold SrvTable.save
  dsimp only
  split <;> rfl

theorem foldl_save_name (r : SrvTable) (answers : List SrvAnswer) :
    (answers.foldl SrvTable.save r).name = r.name ∧
      (answers.foldl SrvTable.save r).index = r.index := by
  induction answers generalizing r with
  | nil => exact ⟨rfl, rfl⟩
  | cons answer answers ih =>
      have h := ih (r.save answer)
      rw [save_name, save_index] at h
      exact h

theorem saveSRV_names (records : List SrvTable) (answer : SrvAnswer) :
    (saveSRV records answer).map SrvTable.name = records.map SrvTable.name := by
  induction records with
  | nil => rfl
  | cons r records ih =>
      unfold saveSRV
      split
      · rw [List.map_cons, List.map_cons, save_name]
      · rw [List.map_cons, List.map_cons, ih]

theorem getElem?_saveSRV (records : List SrvTable) (answer : SrvAnswer) (j : Nat) :
    (saveSRV records answer)[j]? = records[j]?.map fun r =>
      if answer.record (records.map SrvTable.name) = j then r.save answer else r := by
  induction records generalizing j with
  | nil => rfl
  | cons r records ih =>
      unfold saveSRV SrvAnswer.record
      rw [List.map_cons, List.findIdx_cons]
      cases hname : osipStrcasecmp (answer.rrName.take 511) r.name with
      | true =>
          cases j with
          | zero => rfl
          | succ j => simp
      | false =>
          cases j with
          | zero => simp
          | succ j =>
              have hrest := ih j
              unfold SrvAnswer.record at hrest
              simpa using hrest

def answersTo (names : List Str) (j : Nat) (answers : List SrvAnswer) : List SrvAnswer :=
  answers.filter fun answer => answer.record names = j

theorem answersTo_cons (names : List Str) (j : Nat) (answer : SrvAnswer)
    (answers : List SrvAnswer) : answersTo names j (answer :: answers) =
      if answer.record names = j then answer :: answersTo names j answers
      else answersTo names j answers := by
  rw [answersTo, List.filter_cons]
  by_cases hrecord : answer.record names = j
  · rw [if_pos (decide_eq_true hrecord), if_pos hrecord]
    rfl
  · rw [if_neg (by simp [hrecord]), if_neg hrecord]
    rfl

theorem getElem?_foldl_saveSRV (records : List SrvTable) (answers : List SrvAnswer) (j : Nat) :
    (answers.foldl saveSRV records)[j]? = records[j]?.map fun r =>
      (answersTo (records.map SrvTable.name) j answers).foldl SrvTable.save r := by
  induction answers generalizing records with
  | nil => simp [answersTo]
  | cons answer answers ih =>
      rw [List.foldl_cons, ih, saveSRV_names, getElem?_saveSRV, Option.map_map, answersTo_cons]
      by_cases hrecord : answer.record (records.map SrvTable.name) = j
      · simp only [Function.comp_def, hrecord, if_true, List.foldl_cons]
      · simp only [Function.comp_def, hrecord, if_false]

/-! ### What the rotation finds -/

theorem SrvTable.Stores.filled {r : SrvTable} {answers : List SrvAnswer} (h : r.Stores answers)
    (hnamed : ∀ answer ∈ answers, answer.target ≠ []) (hname : r.name ≠ []) (hindex : r.index = 0)
    (hne : answers ≠ []) : r.toSrvRecord.Filled (min 10 answers.length) where
  name := hname
  size := by
    simp only [SrvTable.toSrvRecord, List.length_map, h.entries, List.length_append, length_ranked,
      List.length_replicate]
    omega
  le := Nat.min_le_left _ _
  filled := by
    intro i hi entry hentry
    rw [← length_ranked] at hi
    simp only [SrvTable.toSrvRecord, List.getElem?_map, h.entries,
      List.getElem?_append_left hi, Option.map_eq_some_iff] at hentry
    obtain ⟨ranking, hranking, rfl⟩ := hentry
    exact ranked_srv hnamed (List.mem_of_getElem? hranking)
  empty := by
    intro i hi entry hentry
    rw [← length_ranked] at hi
    simp only [SrvTable.toSrvRecord, List.getElem?_map, h.entries,
      List.getElem?_append_right hi, Option.map_eq_some_iff] at hentry
    obtain ⟨ranking, hranking, rfl⟩ := hentry
    rw [List.eq_of_mem_replicate (List.mem_of_getElem? hranking)]
    rfl
  index := by
    have hlength := List.length_pos_iff.mpr hne
    simp only [SrvTable.toSrvRecord, hindex]
    omega

/-- Whatever the answers to the lookups of a domain are and in whatever order they come, each
record has the first ten of its own sorted by their priority, and as long as an entry is left
the rotation comes to the servers in that order. -/
theorem srv_answers_ranked (records : List SrvTable) (answers : List SrvAnswer) (j : Nat)
    (r : SrvTable) (hr : records[j]? = some r) (hname : r.name ≠ []) (hindex : r.index = 0)
    (hcleared : r.srventry = List.replicate 10 .empty)
    (hnamed : ∀ answer ∈ answers, answer.target ≠ []) :
    ∃ r', (answers.foldl saveSRV records)[j]? = some r' ∧
      r'.Stores (answersTo (records.map SrvTable.name) j answers) ∧
      ∀ k < min 10 (answersTo (records.map SrvTable.name) j answers).length,
        ∃ record, r'.toSrvRecord.rotated k = some record ∧
          record.srventry[record.index]? =
            (ranked (answersTo (records.map SrvTable.name) j answers))[k]?.map
              RankedEntry.toSrvEntry := by
  have hown : ∀ answer ∈ answersTo (records.map SrvTable.name) j answers, answer.target ≠ [] :=
    fun answer hanswer => hnamed answer (List.mem_of_mem_filter hanswer)
  have hstart : r.Stores [] := ⟨by rw [hcleared]; simp [ranked]⟩
  have hstores := hstart.run (by simp) hown
  rw [List.nil_append] at hstores
  refine ⟨_, by rw [getElem?_foldl_saveSRV, hr]; rfl, hstores, ?_⟩
  intro k hk
  have hne : answersTo (records.map SrvTable.name) j answers ≠ [] := by
    intro hnil
    rw [hnil, List.length_nil] at hk
    omega
  have hkept := foldl_save_name r (answersTo (records.map SrvTable.name) j answers)
  have hfilled := hstores.filled hown (by rw [hkept.1]; exact hname)
    (by rw [hkept.2]; exact hindex) hne
  have hzero : (SrvTable.toSrvRecord
      ((answersTo (records.map SrvTable.name) j answers).foldl SrvTable.save r)).index = 0 := by
    rw [SrvTable.toSrvRecord, hkept.2, hindex]
  refine ⟨_, hfilled.rotated_eq (k := k) (Or.inr (by rw [hzero, Nat.zero_add]; exact hk)), ?_⟩
  have hlength : k < (ranked (answersTo (records.map SrvTable.name) j answers)).length := by
    rw [length_ranked]
    exact hk
  simp only [hzero, Nat.zero_add, Nat.mod_eq_of_lt hk]
  simp only [SrvTable.toSrvRecord, hstores.entries, List.getElem?_map,
    List.getElem?_append_left hlength]

def udpRecord : SrvTable where
  name := "_sip._udp.example.com".toList
  srvState := .unknown
  index := 0
  srventry := List.replicate 10 .empty

def backupServer : SrvAnswer := ⟨"_sip._udp.example.com".toList, 20, 0, 5060, "b".toList, 0⟩

def mainServer : SrvAnswer := ⟨"_SIP._udp.example.com".toList, 10, 5, 5060, "a".toList, 7⟩

theorem srv_answers_ranked_twoServers :
    ∃ r', ([backupServer, mainServer].foldl saveSRV [udpRecord])[0]? = some r' ∧
      r'.Stores [backupServer, mainServer] ∧
      ∀ k < 2, ∃ record, r'.toSrvRecord.rotated k = some record ∧
        record.srventry[record.index]? =
          (ranked [backupServer, mainServer])[k]?.map RankedEntry.toSrvEntry := by
  have htargets : ∀ answer ∈ [backupServer, mainServer], answer.target ≠ [] := by decide
  have h := srv_answers_ranked [udpRecord] [backupServer, mainServer] 0 udpRecord rfl (by decide)
    rfl rfl htargets
  have hboth : answersTo ([udpRecord].map SrvTable.name) 0 [backupServer, mainServer] =
      [backupServer, mainServer] := by decide
  rw [hboth] at h
  exact h

end Exosip
