import Exosip.Auth.Nonce
import Exosip.Dialog.Basic

/-! The value of a Replaces header: how it is built for a dialog, and how the dialog that it
names is looked for. -/
namespace Exosip
namespace Replaces

open CString Machine StrCalls

/-! ### The search -/

def strstr (s str : Str) : Option Str :=
  match s with
  | [] => if str = [] then some [] else none
  | c :: rest => if str.isPrefixOf (c :: rest) then some (c :: rest) else strstr rest str

/-- The string at a pointer, after every semicolon was overwritten with NUL. -/
def cut (s : Str) : Str := s.takeWhile (· ≠ ';')

/-- A Call-ID and two tags. -/
structure DialogId where
  callId : Str
  toTag : Str
  fromTag : Str
  deriving DecidableEq, Repr

/-- What `eXosip_call_find_by_replaces` reads in the value. -/
structure ReadValue where
  id : DialogId
  earlyFlag : Bool
  deriving DecidableEq, Repr

def readReplaces (text : Str) : Option ReadValue :=
  match strstr text "to-tag=".toList, strstr text "from-tag=".toList with
  | some toTag, some fromTag =>
      some
        { id := ⟨cut text, cut (toTag.drop "to-tag=".length), cut (fromTag.drop "from-tag=".length)⟩
          earlyFlag := (strstr text "early-only".toList).isSome }
  | _, _ => none

/-- The `||` of the source. -/
def orElse (x y : StrCalls Bool) : StrCalls Bool := do
  if ← x then pure true else y

def matchesId (dialog : Dialog) (id : DialogId) : StrCalls Bool :=
  orElse
    (andAlso (strcmp dialog.callId (some id.callId))
      (andAlso (strcmp dialog.remoteTag (some id.toTag)) (strcmp dialog.localTag (some id.fromTag))))
    (andAlso (strcmp dialog.callId (some id.callId))
      (andAlso (strcmp dialog.localTag (some id.toTag)) (strcmp dialog.remoteTag (some id.fromTag))))

/-- `eXosip_call_t`, where `d_dialog` may be NULL. -/
structure CallDialogs where
  cId : Int
  cDialogs : List (Option Dialog)
  deriving DecidableEq, Repr

def dialogsOf (calls : List CallDialogs) : List (Int × Dialog) :=
  calls.flatMap fun jc => (jc.cDialogs.filterMap id).map fun dialog => (jc.cId, dialog)

def findDialog (id : DialogId) : List (Int × Dialog) → StrCalls (Option (Int × Dialog))
  | [] => pure none
  | jd :: dialogs => do
      if ← matchesId jd.2 id then pure (some jd) else findDialog id dialogs

def codeFor (earlyFlag : Bool) (found : Option (Int × Dialog)) : Except Int Int :=
  match found with
  | none => .error osipNotfound
  | some (cId, dialog) =>
      if dialog.state = .confirmed ∧ earlyFlag = true then .error osipWrongState
      else if dialog.state = .early ∧ dialog.type = .callee then .error osipBadparameter
      else .ok cId

/-- Where the search ends, and what is returned. -/
structure Reply where
  found : Option (Int × Dialog)
  code : Except Int Int

/-- `eXosip_call_find_by_replaces`. -/
def callFindByReplaces (calls : List CallDialogs) (replacesStr : Option Str) : StrCalls Reply :=
  match replacesStr with
  | none => pure ⟨none, .error osipSyntaxerror⟩
  | some text =>
      match readReplaces text with
      | none => pure ⟨none, .error osipSyntaxerror⟩
      | some read => do
          let found ← findDialog read.id (dialogsOf calls)
          pure ⟨found, codeFor read.earlyFlag found⟩

/-! ### The values -/

/-- The Call-ID and the tags of a dialog, as `eXosip_call_get_referto` takes them. -/
def idOf (dialog : Dialog) : Option DialogId := do
  let callId ← dialog.callId
  let remoteTag ← dialog.remoteTag
  let localTag ← dialog.localTag
  return ⟨callId, remoteTag, localTag⟩

/-- The value in `eXosip_call_get_referto`, which has room for 255 characters. A NULL string is
no argument for `snprintf`. -/
def callGetReferto (dialog : Dialog) : Result Str :=
  match idOf dialog with
  | none => .error .fault
  | some id =>
      .ok ((id.callId ++ ";to-tag=".toList ++ id.toTag ++ ";from-tag=".toList ++ id.fromTag).take 255)

inductive Param where
  | toTag (tag : Str)
  | fromTag (tag : Str)
  | earlyOnly
  deriving DecidableEq, Repr

def Param.toStr : Param → Str
  | toTag tag => ";to-tag=".toList ++ tag
  | fromTag tag => ";from-tag=".toList ++ tag
  | earlyOnly => ";early-only".toList

/-- A value: a Call-ID and its parameters in any order, or one that was built for a dialog. -/
inductive Value where
  | made (id : DialogId) (earlyOnly : Bool) (params : List Param)
      (order : params.Perm ([.toTag id.toTag, .fromTag id.fromTag] ++
        if earlyOnly then [.earlyOnly] else []))
  | built (dialog : Dialog) (id : DialogId) (text : Str) (names : idOf dialog = some id)
      (referto : callGetReferto dialog = .ok text)

namespace Value

def text : Value → Str
  | made id _ params _ => id.callId ++ params.flatMap Param.toStr
  | built _ _ text _ _ => text

def id : Value → DialogId
  | made id _ _ _ => id
  | built _ id _ _ _ => id

def earlyOnly : Value → Bool
  | made _ earlyOnly _ _ => earlyOnly
  | built .. => false

end Value

def HasId (dialog : Dialog) (id : DialogId) : Prop :=
  dialog.callId = some id.callId ∧
    (dialog.remoteTag = some id.toTag ∧ dialog.localTag = some id.fromTag ∨
      dialog.localTag = some id.toTag ∧ dialog.remoteTag = some id.fromTag)

instance (dialog : Dialog) (id : DialogId) : Decidable (HasId dialog id) := by
  unfold HasId
  infer_instance

def named (calls : List CallDialogs) (id : DialogId) : Option (Int × Dialog) :=
  (dialogsOf calls).find? fun jd => decide (HasId jd.2 id)

/-- The search ends at the dialog that the value names, or at none when there is none, and returns
what the state of the dialog allows. No missing string is compared. -/
def Finds (calls : List CallDialogs) (value : Value) : Prop :=
  ∃ reply, (callFindByReplaces calls (some value.text)).result = .ok reply ∧
    reply.found = named calls value.id ∧
    reply.code = codeFor value.earlyOnly (named calls value.id)

/-! ### What is read -/

/-- The field behind the first `key` in the text, up to a semicolon or the end. -/
def Behind (text key field : Str) : Prop :=
  ∃ front back, text = front ++ key ++ field ++ back ∧
    (∀ n < front.length, ¬ key <+: text.drop n) ∧ ';' ∉ field ∧ ∀ c ∈ back.head?, c = ';'

/-- The Call-ID in front of the first semicolon, and the tags behind the first "to-tag=" and the
first "from-tag=", wherever these stand. -/
structure Reads (text : Str) (id : DialogId) : Prop where
  callId : Behind text [] id.callId
  toTag : Behind text "to-tag=".toList id.toTag
  fromTag : Behind text "from-tag=".toList id.fromTag

def ComparesMissing (dialog : Dialog) (id : DialogId) : Prop :=
  dialog.callId = none ∨
    dialog.callId = some id.callId ∧ (dialog.remoteTag = none ∨ dialog.localTag = none)

instance (dialog : Dialog) (id : DialogId) : Decidable (ComparesMissing dialog id) := by
  unfold ComparesMissing
  infer_instance

/-- The value can be read, and the first dialog that would stop the search has all strings and is
one that the value names as it is meant and as it is read; when that is confirmed, "early-only"
occurs only as the parameter. -/
def ReadAsMeant (calls : List CallDialogs) (value : Value) : Prop :=
  ∃ read, Reads value.text read ∧
    (∀ jd, (dialogsOf calls).find? (fun jd => decide (ComparesMissing jd.2 read ∨
        HasId jd.2 read ∨ HasId jd.2 value.id)) = some jd →
      ¬ ComparesMissing jd.2 read ∧ HasId jd.2 read ∧ HasId jd.2 value.id) ∧
    ∀ jd, named calls value.id = some jd → jd.2.state = .confirmed →
      ("early-only".toList <:+: value.text ↔ value.earlyOnly = true)

/-! ### Reading -/

section Reading

variable {text key field s : Str}

theorem strstr_eq_some :
    strstr text key = some s ↔ ∃ front, text = front ++ s ∧ key <+: s ∧
      ∀ n < front.length, ¬ key <+: text.drop n := by
  induction text with
  | nil =>
      rw [strstr]
      constructor
      · intro h
        split at h
        · next hnil =>
            cases h
            exact ⟨[], rfl, hnil ▸ List.prefix_rfl, by simp⟩
        · cases h
      · rintro ⟨front, htext, hkey, -⟩
        obtain ⟨rfl, rfl⟩ := List.append_eq_nil_iff.1 htext.symm
        rw [if_pos (List.prefix_nil.1 hkey)]
  | cons c text ih =>
      rw [strstr]
      by_cases hhere : key <+: c :: text
      · rw [if_pos (List.isPrefixOf_iff_prefix.2 hhere), Option.some.injEq]
        constructor
        · rintro rfl
          exact ⟨[], rfl, hhere, by simp⟩
        · rintro ⟨front, htext, -, hfirst⟩
          cases front with
          | nil => exact htext
          | cons d front => exact absurd hhere (hfirst 0 (by simp))
      · rw [if_neg (mt List.isPrefixOf_iff_prefix.1 hhere), ih]
        constructor
        · rintro ⟨front, rfl, hkey, hfirst⟩
          refine ⟨c :: front, rfl, hkey, fun n hn => ?_⟩
          cases n with
          | zero => exact hhere
          | succ n => exact hfirst n (by simpa using hn)
        · rintro ⟨front, htext, hkey, hfirst⟩
          cases front with
          | nil =>
              rw [List.nil_append] at htext
              exact absurd (htext ▸ hkey) hhere
          | cons d front =>
              rw [List.cons_append, List.cons.injEq] at htext
              obtain ⟨rfl, htext⟩ := htext
              refine ⟨front, htext, hkey, fun n hn => ?_⟩
              exact hfirst (n + 1) (by simpa using hn)

theorem strstr_isSome_iff : (strstr text key).isSome = true ↔ key <:+: text := by
  constructor
  · intro h
    obtain ⟨s, hs⟩ := Option.isSome_iff_exists.1 h
    obtain ⟨front, htext, ⟨back, hkey⟩, -⟩ := strstr_eq_some.1 hs
    exact ⟨front, back, by rw [htext, ← hkey, List.append_assoc]⟩
  · intro h
    induction text with
    | nil =>
        rw [strstr, if_pos (List.infix_nil.1 h)]
        rfl
    | cons c text ih =>
        rw [strstr]
        split
        · rfl
        · next hhere =>
            rw [List.isPrefixOf_iff_prefix] at hhere
            exact ih ((List.infix_cons_iff.1 h).resolve_left hhere)

theorem cut_eq_iff : cut s = field ↔
    ∃ back, s = field ++ back ∧ ';' ∉ field ∧ ∀ c ∈ back.head?, c = ';' := by
  constructor
  · rintro rfl
    refine ⟨s.dropWhile (· ≠ ';'), (List.takeWhile_append_dropWhile).symm, fun h => ?_, ?_⟩
    · simpa using List.mem_takeWhile_imp h
    · intro c hc
      have hhead := List.head?_dropWhile_not (fun c => decide (c ≠ ';')) s
      rw [Option.mem_def.1 hc] at hhead
      simpa using hhead
  · rintro ⟨back, rfl, hfield, hback⟩
    have hall : ∀ c ∈ field, decide (c ≠ ';') = true := by
      intro c hc
      rw [decide_eq_true_eq]
      rintro rfl
      exact hfield hc
    rw [cut, List.takeWhile_append_of_pos hall]
    cases back with
    | nil => simp
    | cons c back =>
        obtain rfl := hback c rfl
        simp

theorem behind_iff : Behind text key field ↔
    ∃ s, strstr text key = some s ∧ cut (s.drop key.length) = field := by
  constructor
  · rintro ⟨front, back, rfl, hfirst, hfield, hback⟩
    refine ⟨key ++ field ++ back, strstr_eq_some.2 ⟨front, by simp, ?_, hfirst⟩,
      cut_eq_iff.2 ⟨back, by simp, hfield, hback⟩⟩
    rw [List.append_assoc]
    exact List.prefix_append _ _
  · rintro ⟨s, hs, hcut⟩
    obtain ⟨front, htext, ⟨rest, rfl⟩, hfirst⟩ := strstr_eq_some.1 hs
    rw [List.drop_left] at hcut
    obtain ⟨back, rfl, hfield, hback⟩ := cut_eq_iff.1 hcut
    exact ⟨front, back, by rw [htext]; simp, hfirst, hfield, hback⟩

theorem strstr_nil (text : Str) : strstr text [] = some text := by
  cases text <;> simp [strstr]

theorem readReplaces_eq_some {read : ReadValue} :
    readReplaces text = some read ↔ Reads text read.id ∧
      (read.earlyFlag = true ↔ "early-only".toList <:+: text) := by
  have hreads : Reads text read.id ↔ cut text = read.id.callId ∧
      (∃ s, strstr text "to-tag=".toList = some s ∧
        cut (s.drop "to-tag=".length) = read.id.toTag) ∧
      ∃ s, strstr text "from-tag=".toList = some s ∧
        cut (s.drop "from-tag=".length) = read.id.fromTag := by
    constructor
    · intro h
      obtain ⟨s, hs, hcallId⟩ := behind_iff.1 h.callId
      rw [strstr_nil, Option.some.injEq] at hs
      exact ⟨by rw [hs]; exact hcallId, behind_iff.1 h.toTag, behind_iff.1 h.fromTag⟩
    · rintro ⟨hcallId, hto, hfrom⟩
      exact ⟨behind_iff.2 ⟨text, strstr_nil text, hcallId⟩, behind_iff.2 hto, behind_iff.2 hfrom⟩
  rw [hreads, ← strstr_isSome_iff, readReplaces]
  obtain ⟨⟨callId, toTag, fromTag⟩, earlyFlag⟩ := read
  cases strstr text "to-tag=".toList with
  | none => simp
  | some toTag =>
      cases strstr text "from-tag=".toList with
      | none => simp
      | some fromTag =>
          have hflag (flag : Bool) : flag = earlyFlag ↔ (earlyFlag = true ↔ flag = true) := by
            cases flag <;> cases earlyFlag <;> simp
          simp only [Option.some.injEq, ReadValue.mk.injEq, DialogId.mk.injEq, exists_eq_left',
            hflag]

end Reading

/-! ### Searching -/

section Searching

variable {dialog : Dialog} {id : DialogId} {dialogs : List (Int × Dialog)}

theorem andAlso_result (x y : StrCalls Bool) :
    (andAlso x y).result = x.result >>= fun a => if a then y.result else .ok false := by
  rw [andAlso, Traced.result_bind]
  congr 1
  funext a
  cases a <;> rfl

theorem orElse_result (x y : StrCalls Bool) :
    (orElse x y).result = x.result >>= fun a => if a then .ok true else y.result := by
  rw [orElse, Traced.result_bind]
  congr 1
  funext a
  cases a <;> rfl

theorem strcmp_some (s t : Str) : (strcmp (some s) (some t)).result = .ok (decide (s = t)) :=
  congrArg Except.ok (beq_eq_decide s t)

theorem strcmp_none (t : Option Str) : (strcmp none t).result = .error .fault := rfl

/-- With all strings there, the test is the one for the identifier; a string that is missing is
compared when the Call-ID is the right one. -/
theorem matchesId_result (dialog : Dialog) (id : DialogId) :
    (matchesId dialog id).result =
      if ComparesMissing dialog id then .error .fault else .ok (decide (HasId dialog id)) := by
  obtain ⟨callId, localTag, remoteTag, _, _, _, _, _, _, _, _, _, _⟩ := dialog
  unfold matchesId ComparesMissing HasId
  simp only [orElse_result, andAlso_result]
  cases callId with
  | none => rfl
  | some callId =>
      rw [strcmp_some]
      by_cases hsame : callId = id.callId
      · cases remoteTag with
        | none => simp [hsame, strcmp_none, bind, Except.bind]
        | some remoteTag =>
            cases localTag with
            | none =>
                by_cases hto : remoteTag = id.toTag <;>
                  simp [hsame, hto, strcmp_none, strcmp_some, bind, Except.bind]
            | some localTag =>
                simp only [strcmp_some, hsame, Option.some.injEq, reduceCtorEq, or_self, and_false,
                  if_false, true_and, Bool.decide_or, Bool.decide_and, decide_true]
                cases decide (remoteTag = id.toTag) <;> cases decide (localTag = id.fromTag) <;>
                  cases decide (localTag = id.toTag) <;> rfl
      · simp [hsame, bind, Except.bind]

theorem findDialog_cons (jd : Int × Dialog) (dialogs : List (Int × Dialog)) :
    (findDialog id (jd :: dialogs)).result =
      if ComparesMissing jd.2 id then .error .fault
      else if HasId jd.2 id then .ok (some jd) else (findDialog id dialogs).result := by
  rw [findDialog, Traced.result_bind, matchesId_result]
  split
  · rfl
  · by_cases h : HasId jd.2 id
    · rw [if_pos h, decide_eq_true h]
      rfl
    · rw [if_neg h, decide_eq_false h]
      rfl

theorem hasId_of_findDialog {jd : Int × Dialog}
    (h : (findDialog id dialogs).result = .ok (some jd)) :
    HasId jd.2 id := by
  induction dialogs with
  | nil => cases h
  | cons jd' dialogs ih =>
      rw [findDialog_cons] at h
      split_ifs at h with hmissing hid
      · cases h
        exact hid
      · exact ih h

/-- The loops look for one identifier and end where another one is meant exactly when the first
dialog that stops either search has both. -/
theorem findDialog_eq_iff {read meant : DialogId} :
    (findDialog read dialogs).result = .ok (dialogs.find? fun jd => decide (HasId jd.2 meant)) ↔
      ∀ jd, dialogs.find? (fun jd => decide (ComparesMissing jd.2 read ∨ HasId jd.2 read ∨
          HasId jd.2 meant)) = some jd →
        ¬ ComparesMissing jd.2 read ∧ HasId jd.2 read ∧ HasId jd.2 meant := by
  induction dialogs with
  | nil => simp [findDialog]
  | cons jd dialogs ih =>
      rw [findDialog_cons]
      by_cases hmissing : ComparesMissing jd.2 read
      · simp [hmissing]
      · rw [if_neg hmissing]
        by_cases hread : HasId jd.2 read
        · rw [if_pos hread]
          by_cases hmeant : HasId jd.2 meant
          · simp [hread, hmeant, hmissing]
          · -- the search ends here, and the dialog is another one
            have hother : dialogs.find? (fun jd => decide (HasId jd.2 meant)) ≠ some jd := by
              intro h
              exact hmeant (by simpa using List.find?_some h)
            simp only [hread, hmeant, hmissing, List.find?_cons, decide_false, true_or, or_true,
              decide_true, Option.some.injEq, Except.ok.injEq, and_false,
              forall_eq']
            exact iff_of_false (fun h => hother h.symm) (fun h => h)
        · rw [if_neg hread]
          by_cases hmeant : HasId jd.2 meant
          · have hother : (findDialog read dialogs).result ≠ .ok (some jd) := fun h =>
              hread (hasId_of_findDialog h)
            simp [hread, hmeant, hmissing, hother]
          · simpa [hread, hmeant, hmissing] using ih

theorem codeFor_eq_iff {earlyFlag earlyOnly : Bool} {found : Option (Int × Dialog)} :
    codeFor earlyFlag found = codeFor earlyOnly found ↔
      ∀ jd, found = some jd → jd.2.state = .confirmed → (earlyFlag = true ↔ earlyOnly = true) := by
  cases found with
  | none => simp [codeFor]
  | some jd =>
      obtain ⟨cId, dialog⟩ := jd
      by_cases hstate : dialog.state = .confirmed
      · cases earlyFlag <;> cases earlyOnly <;> simp [codeFor, hstate]
      · simp [codeFor, hstate]

end Searching

/-! ### Both parts -/

theorem callFindByReplaces_some {calls : List CallDialogs} {text : Str} {read : ReadValue}
    (hread : readReplaces text = some read) {reply : Reply} :
    (callFindByReplaces calls (some text)).result = .ok reply ↔
      ∃ found, (findDialog read.id (dialogsOf calls)).result = .ok found ∧
        reply = ⟨found, codeFor read.earlyFlag found⟩ := by
  rw [callFindByReplaces, hread]
  dsimp only
  rw [Traced.result_bind, exists_ok_bind]
  simp [eq_comm]

/-- A value finds the dialog that it names exactly when it is read as it is meant up to that
dialog. -/
theorem findsReplaced_iff (calls : List CallDialogs) (value : Value) :
    Finds calls value ↔ ReadAsMeant calls value := by
  constructor
  · rintro ⟨reply, hreply, hfound, hcode⟩
    cases hread : readReplaces value.text with
    | none =>
        rw [callFindByReplaces, hread] at hreply
        cases hreply
        exfalso
        dsimp only at hfound hcode
        rw [← hfound] at hcode
        cases hcode
    | some read =>
        obtain ⟨found, hsearch, rfl⟩ := (callFindByReplaces_some hread).1 hreply
        obtain ⟨hreads, hearly⟩ := readReplaces_eq_some.1 hread
        dsimp only at hfound hcode
        rw [hfound] at hsearch hcode
        refine ⟨read.id, hreads, findDialog_eq_iff.1 hsearch, fun jd hjd hstate => ?_⟩
        rw [← hearly]
        exact codeFor_eq_iff.1 hcode jd hjd hstate
  · rintro ⟨id, hreads, hstops, hstate⟩
    have hread : readReplaces value.text =
        some ⟨id, decide ("early-only".toList <:+: value.text)⟩ :=
      readReplaces_eq_some.2 ⟨hreads, decide_eq_true_iff⟩
    refine ⟨_, (callFindByReplaces_some hread).2 ⟨_, findDialog_eq_iff.2 hstops, rfl⟩, rfl, ?_⟩
    refine codeFor_eq_iff.2 fun jd hjd hconfirmed => ?_
    rw [decide_eq_true_iff]
    exact hstate jd hjd hconfirmed

/-- A dialog of the Call-ID "a" that has no remote tag yet. -/
def tagless : Dialog where
  callId := some "a".toList
  localTag := some "t".toList
  remoteTag := none
  lineParam := none
  routeSet := []
  localCseq := 1
  remoteCseq := -1
  remoteUri := none
  localUri := none
  remoteContactUri := none
  secure := -1
  type := .caller
  state := .early

/-- Its missing tag is compared. -/
theorem not_findsReplaced : ¬ ∀ (calls : List CallDialogs) (value : Value), Finds calls value := by
  intro h
  obtain ⟨reply, hreply, -⟩ := h [⟨1, [some tagless]⟩]
    (.made ⟨"a".toList, "u".toList, "t".toList⟩ false
      [.toTag "u".toList, .fromTag "t".toList] (List.Perm.refl _))
  have hfault : (.error .fault : Result Reply) = .ok reply := hreply
  cases hfault

end Replaces
end Exosip
