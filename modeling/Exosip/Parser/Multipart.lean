import Exosip.Parser.Body
import Mathlib.Tactic.Linarith

/-! `msg_osip_body_parse` on a multipart body. The list is the buffer from `start_of_buf` to
`end_of_buf`, where the parser has put a NUL; pointers into it are positions. -/
namespace Exosip

open CString

/-- How a function ends that gives no result: with a return code, or with an access outside
of the object it works on. -/
inductive Failure where
  | code (i : Int)
  | fault
  deriving DecidableEq, Repr

abbrev Result (α : Type) := Except Failure α

namespace Multipart

/-- `strstr`: the first occurrence before a NUL, as a distance. -/
def strstr (str : Str) : Str → Option Nat
  | [] => if str = [] then some 0 else none
  | c :: buf =>
      if str.isPrefixOf (c :: buf) then some 0
      else if c = '\x00' then none
      else (strstr str buf).map (· + 1)

/-- `buf + strlen (buf)` for the pointer at `pos`. -/
def endOfString (buf : Str) (pos : Nat) : Nat := pos + (cString (buf.drop pos)).length

/-- `__osip_find_next_occurence`: the search goes on behind a NUL, for at most `n` rounds. -/
def findNextOccurence (str buf : Str) : Nat → Nat → Option Nat
  | 0, _ => none
  | n + 1, pos =>
      match strstr str (buf.drop pos) with
      | some i => some (pos + i)
      | none =>
          if endOfString buf pos < buf.length then
            findNextOccurence str buf n (endOfString buf pos + 1)
          else none

def rounds : Nat := 1000

/-- The memory accesses of the boundary scan: the furthest byte that a read looks at, and a
copy between two delimiters with the distance that the source computes for its length. -/
inductive Access where
  | read (i : Nat)
  | copy (startOfBody : Nat) (bodyLen : Int) (separator endOfBody : Nat)
  deriving DecidableEq, Repr

/-- The furthest byte each round of `findNextOccurence` looks at. -/
def findReads (str buf : Str) : Nat → Nat → List Access
  | 0, _ => []
  | n + 1, pos =>
      match strstr str (buf.drop pos) with
      | some i => [.read (pos + i + str.length - 1)]
      | none =>
          .read (endOfString buf pos) ::
            if endOfString buf pos < buf.length then
              findReads str buf n (endOfString buf pos + 1)
            else []

/-- The value of the boundary parameter out of its quotes. -/
def unquoted (gvalue : Str) : Str :=
  if gvalue.head? = some '"' ∧ gvalue.getLast? = some '"' then gvalue.tail.take (gvalue.length - 2)
  else gvalue

def sepBoundary (gvalue : Str) : Str := "\n--".toList ++ unquoted gvalue

variable (sep buf : Str)

/-- The real beginning of the body behind the separator at `s`. -/
def startOfBody (s : Nat) : Nat :=
  let start := s + sep.length + 1
  if buf[start]? = some '\n' ∨ buf[start]? = some '\r' then start + 1 else start

/-- The length of the body that ends at `e`, without the CR before the next separator. In the
source it is unsigned, and a negative one is a length that no object has. -/
def bodyLen (s e : Nat) : Int :=
  (e : Int) - startOfBody sep buf s - if buf[e - 1]? = some '\r' then 1 else 0

/-- What the source reads and copies once it has the two separators. -/
def partAccesses (s e : Nat) : List Access :=
  [.read (s + sep.length + 1), .read (e - 1),
    .copy (startOfBody sep buf s) (bodyLen sep buf s e) s e]

/-- The comparison of the characters behind the separator at `e` with `"--"`. -/
def closing (e : Nat) : Bool := "--".toList.isPrefixOf (buf.drop (e + sep.length))

def closingReads (e : Nat) : List Access :=
  .read (e + sep.length) ::
    if buf[e + sep.length]? = some '-' then [.read (e + sep.length + 1)] else []

def parts : Nat → Nat → List Access × Result (List Body)
  | 0, _ => ([], .error (.code osipUndefinedError))
  | fuel + 1, start =>
      let first := findReads sep buf rounds start
      match findNextOccurence sep buf rounds start with
      | none => (first, .error (.code osipSyntaxerror))
      | some s =>
          let second := first ++ findReads sep buf rounds (s + sep.length)
          match findNextOccurence sep buf rounds (s + sep.length) with
          | none => (second, .error (.code osipSyntaxerror))
          | some e =>
              let accesses := second ++ partAccesses sep buf s e
              if bodyLen sep buf s e < 0 then (accesses, .error .fault)
              else
                match Body.parseMime
                    ((buf.drop (startOfBody sep buf s)).take (bodyLen sep buf s e).toNat) with
                | .error i => (accesses, .error (.code i))
                | .ok body =>
                    let accesses := accesses ++ closingReads sep buf e
                    if closing sep buf e then (accesses, .ok [body])
                    else
                      let rest := parts fuel e
                      (accesses ++ rest.1, rest.2.map (body :: ·))

end Multipart

/-- `msg_osip_body_parse` for a multipart Content-Type with that boundary: the accesses of
the scan and the bodies. -/
def msgOsipBodyParse (gvalue startOfBuf : Str) : List Multipart.Access × Result (List Body) :=
  Multipart.parts (Multipart.sepBoundary gvalue) startOfBuf (startOfBuf.length + 1) 0

namespace Multipart

variable (sep buf : Str)

/-- A read stays at or before the NUL at the end of the buffer; a copy goes forward and lies
inside of the buffer. -/
def Access.InBounds (buf : Str) : Access → Prop
  | .read i => i ≤ buf.length
  | .copy startOfBody bodyLen _ endOfBody =>
      startOfBody ≤ endOfBody ∧ 0 ≤ bodyLen ∧ startOfBody + bodyLen ≤ buf.length

/-- At least three characters stand between the separators, or two of which the second is
no CR. -/
def FarApart (s e : Nat) : Prop :=
  s + sep.length + 3 ≤ e ∨ (e = s + sep.length + 2 ∧ buf[s + sep.length + 1]? ≠ some '\r')

variable {sep buf}

theorem isPrefix_of_strstr {str : Str} {s : Str} {i : Nat} (h : strstr str s = some i) :
    str <+: s.drop i := by
  induction s generalizing i with
  | nil =>
      rw [strstr] at h
      split at h
      · next hnil => rw [hnil]; exact List.nil_prefix
      · cases h
  | cons c s ih =>
      rw [strstr] at h
      split at h
      · next hpre =>
          cases h
          exact List.isPrefixOf_iff_prefix.1 hpre
      · split at h
        · cases h
        · rw [Option.map_eq_some_iff] at h
          obtain ⟨j, hj, rfl⟩ := h
          exact ih hj

theorem endOfString_le {pos : Nat} (h : pos ≤ buf.length) : endOfString buf pos ≤ buf.length := by
  have hlen : (cString (buf.drop pos)).length ≤ (buf.drop pos).length :=
    (List.takeWhile_sublist _).length_le
  rw [List.length_drop] at hlen
  unfold endOfString
  omega

theorem isPrefix_length {str : Str} {i : Nat} (h : str <+: buf.drop i) (hne : str ≠ []) :
    i + str.length ≤ buf.length := by
  have hlen := h.length_le
  rw [List.length_drop] at hlen
  have hpos := List.length_pos_iff.2 hne
  omega

theorem findNextOccurence_spec {str : Str} {n pos i : Nat}
    (h : findNextOccurence str buf n pos = some i) : pos ≤ i ∧ str <+: buf.drop i := by
  induction n generalizing pos with
  | zero => cases h
  | succ n ih =>
      rw [findNextOccurence] at h
      split at h
      · next j hj =>
          cases h
          have hpre := isPrefix_of_strstr hj
          rw [List.drop_drop] at hpre
          exact ⟨Nat.le_add_right pos j, hpre⟩
      · split at h
        · obtain ⟨hle, hpre⟩ := ih h
          unfold endOfString at hle
          exact ⟨by omega, hpre⟩
        · cases h

theorem findReads_inBounds {str : Str} (hne : str ≠ []) {n pos : Nat} (hpos : pos ≤ buf.length)
    {access : Access} (h : access ∈ findReads str buf n pos) : access.InBounds buf := by
  induction n generalizing pos with
  | zero => cases h
  | succ n ih =>
      rw [findReads] at h
      split at h
      · next j hj =>
          have hpre := isPrefix_of_strstr hj
          rw [List.drop_drop] at hpre
          have hlen := isPrefix_length hpre hne
          rw [List.mem_singleton] at h
          rw [h]
          show pos + j + str.length - 1 ≤ buf.length
          omega
      · rw [List.mem_cons] at h
        cases h with
        | inl h =>
            rw [h]
            exact endOfString_le hpos
        | inr h =>
            split at h
            · next hlt => exact ih hlt h
            · cases h

theorem startOfBody_bounds (s : Nat) :
    s + sep.length + 1 ≤ startOfBody sep buf s ∧ startOfBody sep buf s ≤ s + sep.length + 2 := by
  unfold startOfBody
  dsimp only
  split <;> omega

theorem copy_inBounds_iff {s e : Nat} (hsep : sep.head? = some '\n')
    (he : s + sep.length ≤ e) (hpre : sep <+: buf.drop e) :
    (Access.copy (startOfBody sep buf s) (bodyLen sep buf s e) s e).InBounds buf ↔
      FarApart sep buf s e := by
  have hne : sep ≠ [] := by
    intro hnil
    rw [hnil] at hsep
    cases hsep
  have hend := isPrefix_length hpre hne
  have hbounds : s + sep.length + 1 ≤ startOfBody sep buf s ∧
      startOfBody sep buf s ≤ s + sep.length + 2 := startOfBody_bounds s
  have hlf : buf[e]? = some '\n' := by
    obtain ⟨rest, hrest⟩ := hpre
    rw [← List.head?_drop, ← hrest, List.head?_append, hsep]
    rfl
  show startOfBody sep buf s ≤ e ∧ 0 ≤ bodyLen sep buf s e ∧
    (startOfBody sep buf s : Int) + bodyLen sep buf s e ≤ buf.length ↔ _
  unfold FarApart bodyLen
  by_cases hfar : s + sep.length + 3 ≤ e
  · constructor
    · intro _
      exact Or.inl hfar
    · intro _
      split <;> omega
  · by_cases htwo : e = s + sep.length + 2
    · have hlast : e - 1 = s + sep.length + 1 := by omega
      rw [hlast]
      by_cases hcr : buf[s + sep.length + 1]? = some '\r'
      · have hstart : startOfBody sep buf s = e := by
          unfold startOfBody
          dsimp only
          rw [if_pos (Or.inr hcr)]
          omega
        rw [if_pos hcr, hstart]
        constructor
        · intro h
          omega
        · intro h
          cases h with
          | inl h => omega
          | inr h => exact absurd hcr h.2
      · rw [if_neg hcr]
        constructor
        · intro _
          exact Or.inr ⟨htwo, hcr⟩
        · intro _
          omega
    · -- the second separator begins where its own LF is taken for the end of the line
      have hstart : e < startOfBody sep buf s := by
        by_cases hone : e = s + sep.length + 1
        · unfold startOfBody
          dsimp only
          rw [← hone, if_pos (Or.inl hlf)]
          omega
        · omega
      constructor
      · intro h
        omega
      · intro h
        omega

theorem partAccesses_inBounds {s e : Nat} (hsep : sep.head? = some '\n')
    (he : s + sep.length ≤ e) (hpre : sep <+: buf.drop e) :
    (∀ access ∈ partAccesses sep buf s e, access.InBounds buf) ↔ FarApart sep buf s e := by
  have hne : sep ≠ [] := by
    intro hnil
    rw [hnil] at hsep
    cases hsep
  have hend := isPrefix_length hpre hne
  have hpos := List.length_pos_iff.2 hne
  rw [← copy_inBounds_iff hsep he hpre]
  constructor
  · intro h
    exact h _ (by simp [partAccesses])
  · intro hcopy access haccess
    simp only [partAccesses, List.mem_cons, List.not_mem_nil, or_false] at haccess
    cases haccess with
    | inl h =>
        rw [h]
        show s + sep.length + 1 ≤ buf.length
        omega
    | inr h =>
        cases h with
        | inl h =>
            rw [h]
            show e - 1 ≤ buf.length
            omega
        | inr h =>
            rw [h]
            exact hcopy

theorem closingReads_inBounds {e : Nat} (hend : e + sep.length ≤ buf.length) {access : Access}
    (h : access ∈ closingReads sep buf e) : access.InBounds buf := by
  rw [closingReads, List.mem_cons] at h
  cases h with
  | inl h =>
      rw [h]
      exact hend
  | inr h =>
      split at h
      · next hdash =>
          rw [List.mem_singleton] at h
          rw [h]
          exact (List.getElem?_eq_some_iff.1 hdash).1
      · cases h

def AllInBounds (buf : Str) (accesses : List Access) : Prop :=
  ∀ access ∈ accesses, access.InBounds buf

theorem allInBounds_append {l₁ l₂ : List Access} :
    AllInBounds buf (l₁ ++ l₂) ↔ AllInBounds buf l₁ ∧ AllInBounds buf l₂ := by
  simp only [AllInBounds, List.mem_append, or_imp, forall_and]

variable (sep buf) in
/-- The separators that the scan comes to: the first one, and the one behind a part that
is well formed, unless it closes the body. -/
inductive Reached : Nat → Prop
  | first {s : Nat} (h : findNextOccurence sep buf rounds 0 = some s) : Reached s
  | next {s e : Nat} {body : Body} (hs : Reached s)
      (he : findNextOccurence sep buf rounds (s + sep.length) = some e)
      (hbody : Body.parseMime
        ((buf.drop (startOfBody sep buf s)).take (bodyLen sep buf s e).toNat) = .ok body)
      (hopen : closing sep buf e = false) : Reached e

variable (sep buf) in
/-- Any two separators between which the scan takes a part are far enough apart. -/
def Apart : Prop :=
  ∀ s e, Reached sep buf s → findNextOccurence sep buf rounds (s + sep.length) = some e →
    FarApart sep buf s e

theorem findNextOccurence_self {str : Str} {i n : Nat} (h : str <+: buf.drop i) :
    findNextOccurence str buf (n + 1) i = some i := by
  have hfind : strstr str (buf.drop i) = some 0 := by
    cases hdrop : buf.drop i with
    | nil =>
        rw [hdrop, List.prefix_nil] at h
        rw [strstr, if_pos h]
    | cons c rest =>
        rw [hdrop] at h
        rw [strstr, if_pos (List.isPrefixOf_iff_prefix.2 h)]
  rw [findNextOccurence, hfind]
  rfl

theorem parts_inBounds (hsep : sep.head? = some '\n') (hapart : Apart sep buf)
    {fuel start : Nat} (hstart : start ≤ buf.length)
    (hreached : ∀ s, findNextOccurence sep buf rounds start = some s → Reached sep buf s) :
    AllInBounds buf (parts sep buf fuel start).1 := by
  have hne : sep ≠ [] := by
    intro hnil
    rw [hnil] at hsep
    cases hsep
  induction fuel generalizing start with
  | zero => simp [parts, AllInBounds]
  | succ fuel ih =>
      have hfirst : AllInBounds buf (findReads sep buf rounds start) :=
        fun _ h => findReads_inBounds hne hstart h
      rw [parts]
      dsimp only
      split
      · exact hfirst
      · next s hs =>
          have hs' := hreached s hs
          have hsecond : AllInBounds buf (findReads sep buf rounds (s + sep.length)) :=
            fun _ h => findReads_inBounds hne
              (isPrefix_length (findNextOccurence_spec hs).2 hne) h
          have htwo := allInBounds_append.2 ⟨hfirst, hsecond⟩
          split
          · exact htwo
          · next e he =>
              obtain ⟨hle, hpre⟩ := findNextOccurence_spec he
              have hend := isPrefix_length hpre hne
              have hpart := allInBounds_append.2
                ⟨htwo, (partAccesses_inBounds hsep hle hpre).2 (hapart s e hs' he)⟩
              split
              · exact hpart
              · split
                · exact hpart
                · next body hbody =>
                    have hclosing := allInBounds_append.2
                      ⟨hpart, fun _ h => closingReads_inBounds hend h⟩
                    split
                    · exact hclosing
                    · next hopen =>
                        apply allInBounds_append.2
                        refine ⟨hclosing, ih (by omega) ?_⟩
                        intro s' hself
                        rw [rounds, findNextOccurence_self hpre] at hself
                        cases hself
                        exact .next hs' he hbody (Bool.not_eq_true _ ▸ hopen)

theorem partAccesses_of_parts {fuel start s e : Nat}
    (hs : findNextOccurence sep buf rounds start = some s)
    (he : findNextOccurence sep buf rounds (s + sep.length) = some e)
    (hall : AllInBounds buf (parts sep buf (fuel + 1) start).1) :
    ∀ access ∈ partAccesses sep buf s e, access.InBounds buf := by
  rw [parts, hs] at hall
  dsimp only at hall
  rw [he] at hall
  dsimp only at hall
  split at hall
  · exact (allInBounds_append.1 hall).2
  · split at hall
    · exact (allInBounds_append.1 hall).2
    · split at hall
      · exact (allInBounds_append.1 (allInBounds_append.1 hall).1).2
      · exact (allInBounds_append.1 (allInBounds_append.1 (allInBounds_append.1 hall).1).1).2

theorem parts_next {fuel start s e : Nat} {body : Body}
    (hs : findNextOccurence sep buf rounds start = some s)
    (he : findNextOccurence sep buf rounds (s + sep.length) = some e)
    (hbody : Body.parseMime
      ((buf.drop (startOfBody sep buf s)).take (bodyLen sep buf s e).toNat) = .ok body)
    (hopen : closing sep buf e = false) (hlen : 0 ≤ bodyLen sep buf s e)
    (hall : AllInBounds buf (parts sep buf (fuel + 1) start).1) :
    AllInBounds buf (parts sep buf fuel e).1 := by
  rw [parts, hs] at hall
  dsimp only at hall
  rw [he] at hall
  dsimp only at hall
  rw [if_neg (not_lt.2 hlen), hbody] at hall
  dsimp only at hall
  rw [hopen, if_neg Bool.false_ne_true] at hall
  exact (allInBounds_append.1 hall).2

theorem parts_of_reached (hsep : sep.head? = some '\n')
    (hall : AllInBounds buf (parts sep buf (buf.length + 1) 0).1) {s : Nat}
    (hs : Reached sep buf s) :
    ∃ fuel start, buf.length ≤ fuel + start ∧ start ≤ s ∧
      findNextOccurence sep buf rounds start = some s ∧
      AllInBounds buf (parts sep buf (fuel + 1) start).1 := by
  have hne : sep ≠ [] := by
    intro hnil
    rw [hnil] at hsep
    cases hsep
  have hpos := List.length_pos_iff.2 hne
  induction hs with
  | first h => exact ⟨buf.length, 0, le_rfl, Nat.zero_le _, h, hall⟩
  | @next s e body hs he hbody hopen ih =>
      obtain ⟨fuel, start, hfuel, hstart, hfind, hparts⟩ := ih
      obtain ⟨hle, hpre⟩ := findNextOccurence_spec he
      have hend := isPrefix_length hpre hne
      have hcopy := partAccesses_of_parts hfind he hparts
        (.copy (startOfBody sep buf s) (bodyLen sep buf s e) s e) (by simp [partAccesses])
      have hnext := parts_next hfind he hbody hopen hcopy.2.1 hparts
      cases fuel with
      | zero => omega
      | succ fuel => exact ⟨fuel, e, by omega, le_rfl, findNextOccurence_self hpre, hnext⟩

theorem parts_inBounds_iff (hsep : sep.head? = some '\n') :
    AllInBounds buf (parts sep buf (buf.length + 1) 0).1 ↔ Apart sep buf := by
  constructor
  · intro hall s e hs he
    obtain ⟨fuel, start, -, -, hfind, hparts⟩ := parts_of_reached hsep hall hs
    obtain ⟨hle, hpre⟩ := findNextOccurence_spec he
    exact (partAccesses_inBounds hsep hle hpre).1 (partAccesses_of_parts hfind he hparts)
  · intro hapart
    exact parts_inBounds hsep hapart (Nat.zero_le _) fun s hs => .first hs

theorem sepBoundary_head (gvalue : Str) : (sepBoundary gvalue).head? = some '\n' := rfl

end Multipart

/-- Every part is copied from inside of the buffer, forward, and no read of the scan goes
beyond the NUL that ends the buffer. -/
def MultipartInBounds (gvalue startOfBuf : Str) : Prop :=
  Multipart.AllInBounds startOfBuf (msgOsipBodyParse gvalue startOfBuf).1

/-- The scan of a body is in bounds exactly when any two separators between which it takes
a part are far enough apart. -/
theorem multipartInBounds_iff (gvalue startOfBuf : Str) :
    MultipartInBounds gvalue startOfBuf ↔
      Multipart.Apart (Multipart.sepBoundary gvalue) startOfBuf :=
  Multipart.parts_inBounds_iff (Multipart.sepBoundary_head gvalue)

/-- Two delimiter lines follow each other with no part between them. -/
theorem multipart_outOfBounds :
    ¬ MultipartInBounds "b".toList "\r\n\r\n--b\r\n--b--\r\n".toList := by
  intro h
  have hcopy := h (.copy 9 (-2) 3 8) (by decide +kernel)
  exact absurd hcopy.1 (by decide)

end Exosip
