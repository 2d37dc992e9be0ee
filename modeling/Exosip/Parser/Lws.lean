import Exosip.Parser.CString

/-! `osip_util_replace_all_lws`: the folded header lines of a received message are joined
in place. The list is the buffer without its terminating NUL; a NUL may stand inside. -/
namespace Exosip

open CString

namespace Lws

/-- One of the four characters at `tmp` is a NUL. -/
def nearNul : Str → Bool
  | c0 :: c1 :: c2 :: c3 :: _ => [c0, c1, c2, c3].contains '\x00'
  | _ => true

/-- CRLFCRLF, CRCR or LFLF: the header section ends at `tmp`. -/
def headerEnd (tmp : Str) : Bool :=
  "\r\n\r\n".toList.isPrefixOf tmp || "\r\r".toList.isPrefixOf tmp || "\n\n".toList.isPrefixOf tmp

def isSpOrHt (c : Char) : Bool := c == ' ' || c == '\t'

/-- The line that ends at `tmp` goes on after the line break. -/
def folded : Str → Bool
  | '\r' :: '\n' :: c :: _ => isSpOrHt c
  | '\r' :: c :: _ => isSpOrHt c
  | '\n' :: c :: _ => isSpOrHt c
  | _ => false

/-- The two loops: `blanks` says that the inner one runs, which replaces the blanks of a
fold. The character at which it stops is passed over by the `tmp++` of the outer loop. -/
def loop : Bool → Str → Str
  | _, [] => []
  | true, c :: tmp => if isSpOrHt c then ' ' :: loop true tmp else c :: loop false tmp
  | false, [c] => [c]
  | false, c :: d :: tmp =>
      if nearNul (c :: d :: tmp) || headerEnd (c :: d :: tmp) then c :: d :: tmp
      else if folded (c :: d :: tmp) then ' ' :: ' ' :: loop true tmp
      else c :: loop false (d :: tmp)

/-- Where the header section of the buffer ends. -/
def terminatorAt : Str → Option Nat
  | [] => none
  | c :: tmp => if headerEnd (c :: tmp) then some 0 else (terminatorAt tmp).map (· + 1)

/-- The blanks of a fold, as the loops meet it, go up to the end of the header section:
the character passed over after them is the first one of the terminator. -/
def passesOver : Bool → Str → Bool
  | _, [] => false
  | true, c :: tmp =>
      if isSpOrHt c then passesOver true tmp
      else headerEnd (c :: tmp) || passesOver false tmp
  | false, [_] => false
  | false, c :: d :: tmp =>
      if nearNul (c :: d :: tmp) || headerEnd (c :: d :: tmp) then false
      else if folded (c :: d :: tmp) then passesOver true tmp
      else passesOver false (d :: tmp)

def hasFold : Str → Bool
  | [] => false
  | c :: tmp =>
      !(nearNul (c :: tmp) || headerEnd (c :: tmp)) && (folded (c :: tmp) || hasFold tmp)

end Lws

def osipUtilReplaceAllLws (sipMessage : Str) : Str := Lws.loop false sipMessage

namespace Lws

@[simp] theorem length_loop (blanks : Bool) (s : Str) : (loop blanks s).length = s.length := by
  fun_induction loop blanks s <;> simp_all

theorem headerEnd_of_isSpOrHt {c : Char} (h : isSpOrHt c = true) (tmp : Str) :
    headerEnd (c :: tmp) = false := by
  rw [isSpOrHt, Bool.or_eq_true, beq_iff_eq, beq_iff_eq] at h
  cases h with
  | inl h => rw [h]; rfl
  | inr h => rw [h]; rfl

theorem headerEnd_tail_of_folded {c d : Char} {tmp : Str} (h : folded (c :: d :: tmp) = true) :
    headerEnd (d :: tmp) = false := by
  cases hd : isSpOrHt d with
  | true => exact headerEnd_of_isSpOrHt hd tmp
  | false =>
      unfold folded at h
      split at h
      · next e heq =>
          cases heq
          rw [isSpOrHt, Bool.or_eq_true, beq_iff_eq, beq_iff_eq] at h
          cases h with
          | inl h => rw [h]; rfl
          | inr h => rw [h]; rfl
      · next heq => cases heq; rw [hd] at h; cases h
      · next heq => cases heq; rw [hd] at h; cases h
      · cases h

theorem terminatorAt_cons {c : Char} {tmp : Str} (h : headerEnd (c :: tmp) = false) {p : Nat}
    (hp : terminatorAt (c :: tmp) = some p) : ∃ q, terminatorAt tmp = some q ∧ p = q + 1 := by
  rw [terminatorAt, h, if_neg Bool.false_ne_true, Option.map_eq_some_iff] at hp
  obtain ⟨q, hq, rfl⟩ := hp
  exact ⟨q, hq, rfl⟩

theorem terminatorAt_eq_zero {c : Char} {tmp : Str} (h : headerEnd (c :: tmp) = true) {p : Nat}
    (hp : terminatorAt (c :: tmp) = some p) : p = 0 := by
  rw [terminatorAt, h, if_pos rfl] at hp
  exact (Option.some.inj hp).symm

theorem drop_loop {blanks : Bool} {s : Str} {p : Nat} (hp : terminatorAt s = some p) :
    (loop blanks s).drop p =
      if passesOver blanks s then s[p]?.toList ++ loop false (s.drop (p + 1)) else s.drop p := by
  fun_induction loop blanks s generalizing p with
  | case1 => cases hp
  | case2 c tmp hc ih =>
      obtain ⟨q, hq, rfl⟩ := terminatorAt_cons (headerEnd_of_isSpOrHt hc tmp) hp
      rw [passesOver, if_pos hc, List.drop_succ_cons, ih hq]
      simp
  | case3 c tmp hc ih =>
      rw [passesOver, if_neg hc]
      cases hend : headerEnd (c :: tmp) with
      | true =>
          rw [terminatorAt_eq_zero hend hp]
          simp
      | false =>
          obtain ⟨q, hq, rfl⟩ := terminatorAt_cons hend hp
          rw [List.drop_succ_cons, ih hq]
          simp
  | case4 c => simp [passesOver]
  | case5 c d tmp hstop => simp [passesOver, hstop]
  | case6 c d tmp hstop hfold ih =>
      rw [Bool.not_eq_true, Bool.or_eq_false_iff] at hstop
      obtain ⟨q, hq, rfl⟩ := terminatorAt_cons hstop.2 hp
      obtain ⟨r, hr, rfl⟩ := terminatorAt_cons (headerEnd_tail_of_folded hfold) hq
      rw [List.drop_succ_cons, List.drop_succ_cons, ih hr, passesOver, hstop.1, hstop.2, hfold]
      simp
  | case7 c d tmp hstop hfold ih =>
      rw [Bool.not_eq_true, Bool.or_eq_false_iff] at hstop
      obtain ⟨q, hq, rfl⟩ := terminatorAt_cons hstop.2 hp
      rw [List.drop_succ_cons, ih hq, passesOver, hstop.1, hstop.2, if_neg hfold]
      simp

theorem terminatorAt_lt_length {s : Str} {p : Nat} (hp : terminatorAt s = some p) :
    p < s.length := by
  induction s generalizing p with
  | nil => cases hp
  | cons c tmp ih =>
      cases hend : headerEnd (c :: tmp) with
      | true =>
          rw [terminatorAt_eq_zero hend hp]
          exact Nat.succ_pos _
      | false =>
          obtain ⟨q, hq, rfl⟩ := terminatorAt_cons hend hp
          exact Nat.succ_lt_succ (ih hq)

theorem not_folded_space {tmp : Str} : folded (' ' :: tmp) = false := rfl

theorem loop_eq_iff (s : Str) : loop false s = s ↔ hasFold s = false := by
  induction s with
  | nil => simp [loop, hasFold]
  | cons c tmp ih =>
      cases tmp with
      | nil => simp [loop, hasFold, nearNul]
      | cons d tmp =>
          rw [loop, hasFold]
          cases hstop : nearNul (c :: d :: tmp) || headerEnd (c :: d :: tmp) with
          | true => simp
          | false =>
              cases hfold : folded (c :: d :: tmp) with
              | true =>
                  -- the first character of a fold is a line break, and it becomes a space
                  have hc : c ≠ ' ' := by
                    intro hc
                    rw [hc, not_folded_space] at hfold
                    cases hfold
                  simp [Ne.symm hc]
              | false => simpa using ih

end Lws

/-- No byte at or after the first header terminator is changed. -/
def BodyUntouched (buf : Str) : Prop :=
  ∀ p, Lws.terminatorAt buf = some p →
    ∀ i, p ≤ i → (osipUtilReplaceAllLws buf)[i]? = buf[i]?

theorem getElem?_eq_iff_drop {s t : Str} {p : Nat} :
    (∀ i, p ≤ i → s[i]? = t[i]?) ↔ s.drop p = t.drop p := by
  constructor
  · intro h
    ext i : 1
    rw [List.getElem?_drop, List.getElem?_drop, h _ (Nat.le_add_right p i)]
  · intro h i hi
    have hget := congrArg (·[i - p]?) h
    simp only [List.getElem?_drop, Nat.add_sub_cancel' hi] at hget
    exact hget

/-- The body is untouched unless the blanks of a fold go up to the end of the header
section and a folded line follows in what the scan then takes for more headers. -/
theorem bodyUntouched_iff (buf : Str) :
    BodyUntouched buf ↔
      ¬ ∃ p, Lws.terminatorAt buf = some p ∧ Lws.passesOver false buf = true ∧
        Lws.hasFold (buf.drop (p + 1)) = true := by
  rw [not_exists]
  apply forall_congr'
  intro p
  rw [not_and]
  apply imp_congr_right
  intro hp
  have hlt : p < buf.length := Lws.terminatorAt_lt_length hp
  rw [getElem?_eq_iff_drop, osipUtilReplaceAllLws, Lws.drop_loop hp]
  cases hpass : Lws.passesOver false buf with
  | false => simp
  | true =>
      rw [if_pos rfl, List.drop_eq_getElem_cons hlt, List.getElem?_eq_getElem hlt,
        Option.toList_some, List.singleton_append, List.cons.injEq, Lws.loop_eq_iff]
      simp

/-- The tab of the body that follows the blank line becomes a space. -/
theorem body_touched :
    ¬ BodyUntouched "A: b\r\n \r\n\r\nbody\r\n\tnext line".toList := by
  intro h
  have hbyte := h 7 (by decide +kernel) 15 (by decide)
  revert hbyte
  decide +kernel

end Exosip
