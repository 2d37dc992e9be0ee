import Mathlib.Algebra.Ring.Int.Defs
import Mathlib.Algebra.Ring.Nat
import Mathlib.Data.List.TakeWhile
import Mathlib.Tactic.Common

/-! The string helpers of the portability layer. A C string is the list of its
characters up to the terminating NUL, a pointer into it is the suffix it points
at, and the difference of two pointers is the difference of the suffix lengths. -/
namespace Exosip

abbrev Str := List Char

namespace CString

/-- The suffix that starts at the first occurrence of `c`. -/
def strchr (s : Str) (c : Char) : Option Str :=
  match s with
  | [] => none
  | a :: rest => if a = c then some (a :: rest) else strchr rest c

/-- The number of characters from the pointer `p` to the later pointer `q`. -/
def pointerDiff (q p : Str) : Nat := p.length - q.length

/-- `tolower` in the C locale. -/
def tolower (c : Char) : Char :=
  if 'A' ≤ c ∧ c ≤ 'Z' then Char.ofNat (c.toNat + 32) else c

/-- `osip_strcasecmp (s, t) == 0`. -/
def osipStrcasecmp (s t : Str) : Bool :=
  s.map tolower == t.map tolower

/-- `osip_strncasecmp (s, t, len) == 0`. -/
def osipStrncasecmp (s t : Str) (len : Nat) : Bool :=
  osipStrcasecmp (s.take len) (t.take len)

/-- The suffix that starts at the first occurrence of `needle`, whatever its case. -/
def osipStrcasestr : Str → Str → Option Str
  | haystack, [] => some haystack
  | [], _ :: _ => none
  | sc :: haystack, c :: needle =>
      if tolower sc = tolower c ∧ osipStrncasecmp haystack needle needle.length then
        some (sc :: haystack)
      else osipStrcasestr haystack (c :: needle)

def isBlank (c : Char) : Bool :=
  c == ' ' || c == '\r' || c == '\n' || c == '\t'

/-- Remove the blanks before and after the content. -/
def osipClrspace (word : Str) : Str :=
  ((word.dropWhile isBlank).reverse.dropWhile isBlank).reverse

/-- Copy the first `len` characters without the blanks around them. -/
def osipClrncpy (src : Str) (len : Nat) : Str :=
  osipClrspace (src.take len)

def osipStrncpy (src : Str) (len : Nat) : Str :=
  src.take len

/-- The first `sep`, when it stands before the first `before`. -/
def nextSeparator (ch : Str) (sep before : Char) : Option Str :=
  match strchr ch sep with
  | none => none
  | some ind =>
      match strchr ch before with
      | some tmp => if tmp.length < ind.length then some ind else none
      | none => some ind

def decimal (s : Str) : Nat :=
  Nat.ofDigitChars 10 (s.takeWhile Char.isDigit) 0

/-- The blanks that `strtol` and `atoi` skip. -/
def isSpace (c : Char) : Bool :=
  c == ' ' || c == '\t' || c == '\n' || c == '\r' || c.toNat == 11 || c.toNat == 12

/-- A number as a 32-bit `int`. -/
def toInt32 (n : Int) : Int := n.bmod (2 ^ 32)

/-- The range of `long`, at which `strtol` saturates. -/
def longMax : Int := 2 ^ 63 - 1

/-- `strtol (s, NULL, 10)`: blanks, an optional sign and the decimal digits. -/
def strtol (s : Str) : Int :=
  match s.dropWhile isSpace with
  | '-' :: rest => max (-(decimal rest : Int)) (-longMax - 1)
  | '+' :: rest => min (decimal rest : Int) longMax
  | rest => min (decimal rest : Int) longMax

/-- The value of `strtol` stored in an `int`. -/
def atoi (s : Str) : Int := toInt32 (strtol s)

def osipAtoi (s : Str) : Int := atoi s

/-- The position of the next quote at or after `start` in `s`. -/
def quoteAt (s : Str) (start : Nat) : Option Nat :=
  ((s.drop start).findIdx? (· == '"')).map (start + ·)

/-- The loop of `osipQuoteFind`: `q` is the start of the string looked at, `quote`
the quote under test and `i` one more than the backslashes counted before it. -/
def quoteFindLoop (s : Str) : Nat → Nat → Nat → Nat → Option Nat
  | 0, _, _, _ => none
  | fuel + 1, q, quote, i =>
      -- the test at the end of the loop body, where the count reaches the start
      let boundary (quote i : Nat) : Option Nat :=
        if quote + 1 = q + i then
          let i := if s[q]? = some '\\' then i + 1 else i
          if i % 2 = 0 then some quote
          else match quoteAt s (quote + 1) with
            | none => none
            | some next => quoteFindLoop s fuel (quote + 1) next 1
        else quoteFindLoop s fuel q quote i
      if s[quote - i]? = some '\\' then boundary quote (i + 1)
      else if i % 2 = 1 then some quote
      else match quoteAt s (quote + 1) with
        | none => none
        | some next => boundary next 1

/-- The next quote that is not escaped. -/
def osipQuoteFind (qstring : Str) : Option Str :=
  match quoteAt qstring 0 with
  | none => none
  | some 0 => some qstring
  | some quote =>
      (quoteFindLoop qstring (2 * qstring.length + 2) 0 quote 1).map (qstring.drop ·)

/-- `snprintf (buf, size, "%i", n)` for a port number. -/
def portString (size : Nat) (n : Nat) : Str :=
  (Nat.toDigits 10 n).take (size - 1)

theorem strchr_length_le {s t : Str} {c : Char} (h : strchr s c = some t) :
    t.length ≤ s.length := by
  induction s with
  | nil => cases h
  | cons a rest ih =>
      rw [strchr] at h
      split_ifs at h
      · cases h
        rfl
      · have := ih h
        rw [List.length_cons]
        omega

theorem strchr_append {t : Str} {c : Char} (h : c ∉ t) (rest : Str) :
    strchr (t ++ rest) c = strchr rest c := by
  induction t with
  | nil => rfl
  | cons a t ih =>
      rw [List.mem_cons, not_or] at h
      rw [List.cons_append, strchr, if_neg (Ne.symm h.1), ih h.2]

theorem strchr_eq_none_iff {s : Str} {c : Char} : strchr s c = none ↔ c ∉ s := by
  constructor
  · intro h hmem
    obtain ⟨front, back, rfl, hfront⟩ := List.eq_append_cons_of_mem hmem
    rw [strchr_append hfront, strchr, if_pos rfl] at h
    cases h
  · intro h
    have hnone := strchr_append h []
    rw [List.append_nil] at hnone
    exact hnone

theorem strchr_eq_some_iff {s rest : Str} {c : Char} :
    strchr s c = some rest ↔
      ∃ before after, s = before ++ c :: after ∧ c ∉ before ∧ rest = c :: after := by
  constructor
  · intro h
    have hmem : c ∈ s := by
      by_contra hnot
      rw [strchr_eq_none_iff.2 hnot] at h
      cases h
    obtain ⟨before, after, rfl, hbefore⟩ := List.eq_append_cons_of_mem hmem
    rw [strchr_append hbefore, strchr, if_pos rfl, Option.some.injEq] at h
    exact ⟨before, after, rfl, hbefore, h.symm⟩
  · rintro ⟨before, after, rfl, hbefore, rfl⟩
    rw [strchr_append hbefore, strchr, if_pos rfl]

theorem strchr_append_of_some {s rest : Str} {c : Char} (h : strchr s c = some rest) (q : Str) :
    strchr (s ++ q) c = some (rest ++ q) := by
  obtain ⟨before, after, rfl, hbefore, rfl⟩ := strchr_eq_some_iff.1 h
  rw [List.append_assoc, List.cons_append, strchr_append hbefore, strchr, if_pos rfl]

theorem decimal_append (n : Nat) {rest : Str} (h : rest.head?.any Char.isDigit = false) :
    decimal (Nat.toDigits 10 n ++ rest) = n := by
  have hall : ∀ c ∈ Nat.toDigits 10 n, c.isDigit = true :=
    fun c hc => Nat.isDigit_of_mem_toDigits (by decide) (by decide) hc
  have hrest : rest.takeWhile Char.isDigit = [] := by
    cases rest with
    | nil => rfl
    | cons c rest =>
        rw [List.head?_cons, Option.any_some] at h
        rw [List.takeWhile_cons, h, if_neg Bool.false_ne_true]
  rw [decimal, List.takeWhile_append_of_pos hall, hrest, List.append_nil,
    Nat.ofDigitChars_ten_toDigits]

@[simp] theorem decimal_toDigits (n : Nat) : decimal (Nat.toDigits 10 n) = n := by
  have hread : decimal (Nat.toDigits 10 n ++ []) = n := decimal_append n rfl
  rw [List.append_nil] at hread
  exact hread

theorem isSpace_of_isDigit {c : Char} (h : c.isDigit = true) : isSpace c = false := by
  have hrange : 48 ≤ c.toNat ∧ c.toNat ≤ 57 := by
    simpa [Char.isDigit, Char.le_def, UInt32.le_iff_toNat_le] using h
  have hne (d : Char) (hd : d.toNat < 48) : (c == d) = false := by
    rw [beq_eq_false_iff_ne]
    rintro rfl
    omega
  simp only [isSpace, hne ' ' (by decide), hne '\t' (by decide), hne '\n' (by decide),
    hne '\r' (by decide), Bool.or_self, Bool.false_or, Bool.or_eq_false_iff, beq_eq_false_iff_ne]
  omega

theorem strtol_append {n : Nat} (h : (n : Int) ≤ longMax) {rest : Str}
    (hrest : rest.head?.any Char.isDigit = false) : strtol (Nat.toDigits 10 n ++ rest) = n := by
  obtain ⟨c, digits, hdigits⟩ := List.exists_cons_of_ne_nil (Nat.toDigits_ne_nil (n := n) (b := 10))
  have hdigit : c.isDigit = true :=
    Nat.isDigit_of_mem_toDigits (b := 10) (n := n) (by decide) (by decide) (by simp [hdigits])
  have hminus : c ≠ '-' := by rintro rfl; simp at hdigit
  have hplus : c ≠ '+' := by rintro rfl; simp at hdigit
  have hskip : (Nat.toDigits 10 n ++ rest).dropWhile isSpace = c :: (digits ++ rest) := by
    simp [hdigits, isSpace_of_isDigit hdigit]
  have hvalue : decimal (c :: (digits ++ rest)) = n := by
    rw [← List.cons_append, ← hdigits, decimal_append n hrest]
  unfold strtol
  rw [hskip]
  split
  · next heq => exact absurd (List.cons.inj heq).1 hminus
  · next heq => exact absurd (List.cons.inj heq).1 hplus
  · rw [hvalue]
    exact Int.min_eq_left h

theorem strtol_toDigits {n : Nat} (h : (n : Int) ≤ longMax) :
    strtol (Nat.toDigits 10 n) = n := by
  have hread : strtol (Nat.toDigits 10 n ++ []) = n := strtol_append h rfl
  rw [List.append_nil] at hread
  exact hread

theorem toInt32_range (n : Int) : -2147483648 ≤ toInt32 n ∧ toInt32 n < 2147483648 := by
  rw [toInt32, Int.bmod_def]
  split <;> omega

theorem toInt32_of_range {n : Int} (h : -2147483648 ≤ n ∧ n < 2147483648) : toInt32 n = n := by
  rw [toInt32, Int.bmod_eq_of_le] <;> omega

theorem osipAtoi_portString {port : Nat} (h : port < 65536) :
    osipAtoi (portString 8 port) = port := by
  have hlen : (Nat.toDigits 10 port).length ≤ 7 :=
    (Nat.length_toDigits_le_iff (by decide) (by decide)).2 (by omega)
  have hlong : (port : Int) ≤ longMax := by unfold longMax; omega
  rw [portString, List.take_of_length_le (by omega), osipAtoi, atoi, strtol_toDigits hlong]
  exact toInt32_of_range (by omega)

theorem osipClrspace_of_no_blank {s : Str} (h : ∀ c ∈ s, isBlank c = false) :
    osipClrspace s = s := by
  have hdrop {t : Str} (ht : ∀ c ∈ t, isBlank c = false) : t.dropWhile isBlank = t := by
    cases t with
    | nil => rfl
    | cons c t =>
        rw [List.dropWhile_cons, ht c List.mem_cons_self, if_neg Bool.false_ne_true]
  rw [osipClrspace, hdrop h, hdrop, List.reverse_reverse]
  intro c hc
  exact h c (List.mem_reverse.1 hc)

theorem head_of_trimmed {s : Str} (h : osipClrspace s = s) : ∀ c ∈ s.head?, isBlank c = false := by
  intro c hc
  obtain ⟨t, rfl⟩ := List.head?_eq_some_iff.1 hc
  by_contra hblank
  rw [Bool.not_eq_false] at hblank
  have hlength := congrArg List.length h
  rw [osipClrspace, List.dropWhile_cons_of_pos hblank, List.length_reverse,
    List.length_cons] at hlength
  have hle := (List.dropWhile_sublist isBlank (l := (t.dropWhile isBlank).reverse)).length_le
  have hle' := (List.dropWhile_sublist isBlank (l := t)).length_le
  rw [List.length_reverse] at hle
  omega

theorem dropWhile_trimmed {s : Str} (h : osipClrspace s = s) {p : Char → Bool}
    (hp : ∀ c, p c = true → isBlank c = true) : s.dropWhile p = s := by
  cases s with
  | nil => rfl
  | cons c s =>
      rw [List.dropWhile_cons_of_neg]
      intro hc
      have hblank := head_of_trimmed h c rfl
      rw [hp c hc] at hblank
      cases hblank

theorem osipClrspace_append_left {s : Str} (h : ∀ c ∈ s, isBlank c = true) (t : Str) :
    osipClrspace (s ++ t) = osipClrspace t := by
  rw [osipClrspace, List.dropWhile_append_of_pos h, osipClrspace]

theorem osipClrspace_append_eq_iff {s t : Str} :
    osipClrspace (s ++ t) = osipClrspace s ↔ ∀ c ∈ t, isBlank c = true := by
  constructor
  · intro h
    by_contra hblank
    have hrest : t.reverse.dropWhile isBlank ≠ [] := by
      rw [Ne, List.dropWhile_eq_nil_iff]
      simpa using hblank
    have hlength := congrArg List.length h
    simp only [osipClrspace, List.length_reverse] at hlength
    rw [List.dropWhile_append] at hlength
    split at hlength
    · next hempty =>
        rw [List.isEmpty_iff.1 hempty, List.reverse_nil, List.dropWhile_nil, List.length_nil,
          List.length_eq_zero_iff, List.dropWhile_eq_nil_iff] at hlength
        apply hblank
        intro c hc
        rw [← t.takeWhile_append_dropWhile (p := isBlank), List.mem_append] at hc
        obtain hc | hc := hc
        · exact List.mem_takeWhile_imp hc
        · exact hlength c (List.mem_reverse.2 hc)
    · rw [List.reverse_append, List.dropWhile_append, if_neg (by simpa using hrest),
        List.length_append] at hlength
      have hpos := List.length_pos_iff.2 hrest
      have hle := (List.dropWhile_sublist isBlank (l := (s.dropWhile isBlank).reverse)).length_le
      omega
  · intro h
    rw [osipClrspace, List.dropWhile_append, osipClrspace]
    split_ifs with hempty
    · rw [List.isEmpty_iff.1 hempty, List.dropWhile_eq_nil_iff.2 h]
    · rw [List.reverse_append, List.dropWhile_append_of_pos (by simpa using h)]

theorem mem_osipClrspace {c : Char} (hc : isBlank c = false) {s : Str} (h : c ∈ s) :
    c ∈ osipClrspace s := by
  have hdrop {t : Str} (ht : c ∈ t) : c ∈ t.dropWhile isBlank := by
    rw [← t.takeWhile_append_dropWhile (p := isBlank), List.mem_append] at ht
    refine ht.resolve_left fun hmem => ?_
    rw [List.mem_takeWhile_imp hmem] at hc
    cases hc
  exact List.mem_reverse.2 (hdrop (List.mem_reverse.2 (hdrop h)))

theorem osipClrspace_split (s : Str) :
    ∃ front back, s = front ++ (osipClrspace s ++ back) ∧ (∀ c ∈ front, isBlank c = true) ∧
      ∀ c ∈ back, isBlank c = true := by
  refine ⟨s.takeWhile isBlank, ((s.dropWhile isBlank).reverse.takeWhile isBlank).reverse, ?_,
    fun c hc => List.mem_takeWhile_imp hc,
    fun c hc => List.mem_takeWhile_imp (List.mem_reverse.1 hc)⟩
  rw [osipClrspace, ← List.reverse_append, List.takeWhile_append_dropWhile, List.reverse_reverse,
    List.takeWhile_append_dropWhile]

end CString
end Exosip
