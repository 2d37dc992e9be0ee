import Exosip.Parser.Message

/-! `__osip_generic_param_parseall`: the parameters after a header value, each led by
a semicolon. -/
namespace Exosip

open CString

namespace GenericParam

/-- `equal` and `comma` for the parameter at `params`: its '=' before the next ';', and
where it ends. A quoted value reaches beyond the ';' inside it, but only spaces are
skipped in the search for its first quote. -/
def nextParam (params : Str) : Option Str × Option Str :=
  let equal := nextSeparator params.tail '=' ';'
  let comma := strchr params.tail ';'
  match equal with
  | none => (equal, comma)
  | some eq =>
      let tmp := eq.tail.dropWhile (· == ' ')
      if tmp.head? = some '"' ∧ comma.any (fun c => c.length < tmp.length) then
        (equal, (osipQuoteFind tmp.tail).bind (strchr · ';'))
      else (equal, comma)

/-- The value from `equal` to `comma`: none for a parameter that ends at its '='. -/
def paramValue (equal comma : Str) : Except Int (Option Str) :=
  let tmp := equal.tail.dropWhile fun c => c == '\t' || c == ' '
  if tmp.head? = some ',' ∨ tmp = [] then .ok none
  else if pointerDiff comma equal < 2 then .error osipSyntaxerror
  else .ok (some (osipStrncpy equal.tail (pointerDiff comma equal - 1)))

/-- One parameter of the list: its name from `params` to `equal` and its value. -/
def parseParam (genParams : List GenericParam) (params equal : Str) (pvalue : Option Str) :
    Except Int (List GenericParam) :=
  if pointerDiff equal params < 2 then .error osipSyntaxerror
  else .ok (add genParams (osipStrncpy params.tail (pointerDiff equal params - 1)) pvalue)

def parseBody (genParams : List GenericParam) (params : Str) (equal : Option Str) (comma : Str) :
    Except Int (List GenericParam) :=
  match equal with
  | none => parseParam genParams params comma none
  | some equal => do parseParam genParams params equal (← paramValue equal comma)

/-- The last parameter, for which there is no further ';'. -/
def parseLast (genParams : List GenericParam) (params : Str) (equal : Option Str) :
    Except Int (List GenericParam) :=
  if equal = none ∧ pointerDiff [] params < 2 then .ok genParams
  else parseBody genParams params equal []

/-- `fuel` bounds the rounds of the loop, each of which moves `params` forward. -/
def parseallLoop : Nat → List GenericParam → Str → Except Int (List GenericParam)
  | 0, _, _ => .error osipUndefinedError
  | fuel + 1, genParams, params =>
      match nextParam params with
      | (equal, none) => parseLast genParams params equal
      | (equal, some comma) =>
          parseBody genParams params equal comma >>= (parseallLoop fuel · comma)

/-- Stands for what no function of the source returns: there is no result, since the end of the
string was passed and whatever follows in memory is read. -/
def readsBehindEnd : Int := 1

/-- `__osip_generic_param_parseall`. The first character is taken for a ';' without a look at
it, and the search begins behind it. -/
def parseall (genParams : List GenericParam) (params : Str) : Except Int (List GenericParam) :=
  if params = [] then .error readsBehindEnd
  else parseallLoop (params.length + 1) genParams params

/-- The list with the first parameter of that name changed in place. -/
def modifyByname (params : List GenericParam) (pname : Str) (f : GenericParam → GenericParam) :
    List GenericParam :=
  match params with
  | [] => []
  | param :: params =>
      if osipStrcasecmp param.gname pname then f param :: params
      else param :: modifyByname params pname f

def toStr (param : GenericParam) : Str :=
  match param.gvalue with
  | none => ';' :: param.gname
  | some gvalue => ';' :: param.gname ++ '=' :: gvalue

end GenericParam

namespace CString

theorem nextSeparator_length_le {ch t : Str} {sep before : Char}
    (h : nextSeparator ch sep before = some t) : t.length ≤ ch.length := by
  unfold nextSeparator at h
  split at h
  · cases h
  · next ind hind =>
      split at h
      · split_ifs at h
        cases h
        exact strchr_length_le hind
      · cases h
        exact strchr_length_le hind

theorem strchr_ne_nil {s t : Str} {c : Char} (h : strchr s c = some t) : t ≠ [] := by
  obtain ⟨-, after, -, -, rfl⟩ := strchr_eq_some_iff.1 h
  exact List.cons_ne_nil _ _

theorem osipQuoteFind_length_le {s t : Str} (h : osipQuoteFind s = some t) :
    t.length ≤ s.length := by
  unfold osipQuoteFind at h
  split at h
  · cases h
  · cases h
    rfl
  · obtain ⟨quote, -, rfl⟩ := Option.map_eq_some_iff.1 h
    rw [List.length_drop]
    omega

end CString

namespace GenericParam

theorem nextParam_length_lt {params comma : Str} {equal : Option Str}
    (h : nextParam params = (equal, some comma)) : comma.length < params.length := by
  have hne : params ≠ [] := by
    rintro rfl
    cases h
  have htail : params.tail.length < params.length := by
    have := List.length_pos_iff.2 hne
    rw [List.length_tail]
    omega
  have hcomma : ∀ c, strchr params.tail ';' = some c → c.length < params.length :=
    fun c hc => (strchr_length_le hc).trans_lt htail
  unfold nextParam at h
  cases hequal : nextSeparator params.tail '=' ';' with
  | none =>
      rw [hequal] at h
      exact hcomma comma (Prod.mk.inj h).2
  | some eq =>
      simp only [hequal] at h
      split_ifs at h with hquote
      · -- the ';' after the end of the quoted value
        obtain ⟨q, hq, hqc⟩ := Option.bind_eq_some_iff.1 (Prod.mk.inj h).2
        have hfound := osipQuoteFind_length_le hq
        have hend := strchr_length_le hqc
        have hskip := (List.dropWhile_sublist (fun c => c == ' ') (l := eq.tail)).length_le
        have heq := nextSeparator_length_le hequal
        rw [List.length_tail] at hfound hskip
        omega
      · exact hcomma comma (Prod.mk.inj h).2

theorem parseallLoop_fuel {n m : Nat} {genParams : List GenericParam} {params : Str}
    (hn : params.length < n) (hm : params.length < m) :
    parseallLoop n genParams params = parseallLoop m genParams params := by
  induction n generalizing m genParams params with
  | zero => omega
  | succ n ih =>
      obtain ⟨m, rfl⟩ := Nat.exists_eq_succ_of_ne_zero (by omega : m ≠ 0)
      rw [parseallLoop, parseallLoop]
      rcases hnext : nextParam params with ⟨equal, (_ | comma)⟩
      · rfl
      · have hlt := nextParam_length_lt hnext
        dsimp only
        congr 1
        funext genParams'
        exact ih (by omega) (by omega)

theorem nextParam_ne_nil {params comma : Str} {equal : Option Str}
    (h : nextParam params = (equal, some comma)) : comma ≠ [] := by
  unfold nextParam at h
  cases hequal : nextSeparator params.tail '=' ';' with
  | none =>
      rw [hequal] at h
      exact strchr_ne_nil (Prod.mk.inj h).2
  | some eq =>
      simp only [hequal] at h
      split_ifs at h
      · obtain ⟨q, -, hq⟩ := Option.bind_eq_some_iff.1 (Prod.mk.inj h).2
        exact strchr_ne_nil hq
      · exact strchr_ne_nil (Prod.mk.inj h).2

theorem parseall_eq (genParams : List GenericParam) {params : Str} (hne : params ≠ []) :
    parseall genParams params =
      match nextParam params with
      | (equal, none) => parseLast genParams params equal
      | (equal, some comma) => parseBody genParams params equal comma >>= (parseall · comma) := by
  rw [parseall, if_neg hne, parseallLoop]
  rcases hnext : nextParam params with ⟨equal, (_ | comma)⟩
  · rfl
  · have hlt := nextParam_length_lt hnext
    dsimp only
    congr 1
    funext genParams'
    rw [parseall, if_neg (nextParam_ne_nil hnext)]
    exact parseallLoop_fuel hlt (Nat.lt_succ_self _)

section Byname

variable {params : List GenericParam} {f : GenericParam → GenericParam}

theorem getByname_cons (param : GenericParam) (pname : Str) :
    getByname (param :: params) pname =
      if osipStrcasecmp param.gname pname then some param else getByname params pname := by
  rw [getByname, List.find?_cons]
  split <;> simp_all [getByname]

theorem getByname_add (pname pname' : Str) (pvalue : Option Str) :
    getByname (add params pname pvalue) pname' =
      (getByname params pname').or
        (if osipStrcasecmp (osipClrspace pname) pname' then some (set pname pvalue) else none) := by
  induction params with
  | nil => exact getByname_cons _ _
  | cons param params ih =>
      rw [add, List.cons_append, getByname_cons, getByname_cons]
      by_cases hname : osipStrcasecmp param.gname pname'
      · rw [if_pos hname, if_pos hname, Option.some_or]
      · rw [if_neg hname, if_neg hname]
        exact ih

theorem getByname_modifyByname (hf : ∀ param, (f param).gname = param.gname) (pname : Str) :
    getByname (modifyByname params pname f) pname = (getByname params pname).map f := by
  induction params with
  | nil => rfl
  | cons param params ih =>
      rw [modifyByname, getByname_cons]
      by_cases hname : osipStrcasecmp param.gname pname
      · rw [if_pos hname, if_pos hname, getByname_cons, hf, if_pos hname, Option.map_some]
      · rw [if_neg hname, if_neg hname, getByname_cons, if_neg hname]
        exact ih

theorem getByname_modifyByname_of_ne (hf : ∀ param, (f param).gname = param.gname)
    {pname pname' : Str} (hne : osipStrcasecmp pname pname' = false) :
    getByname (modifyByname params pname f) pname' = getByname params pname' := by
  induction params with
  | nil => rfl
  | cons param params ih =>
      rw [modifyByname, getByname_cons]
      by_cases hname : osipStrcasecmp param.gname pname
      · have hother : ¬ osipStrcasecmp param.gname pname' = true := by
          intro hname'
          rw [osipStrcasecmp, beq_iff_eq] at hname hname'
          rw [osipStrcasecmp, ← hname, hname', beq_self_eq_true] at hne
          cases hne
        rw [if_pos hname, getByname_cons, hf, if_neg hother, if_neg hother]
      · rw [if_neg hname, getByname_cons, ih]

end Byname
end GenericParam
end Exosip
