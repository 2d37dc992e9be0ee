import Exosip.Machine.Bytes
import Exosip.Parser.CString

/-! `osip_enquote` with the block it allocates, and `osip_dequote`, which shifts the characters
down in place. -/
namespace Exosip

open Machine

namespace CString

def nul : Char := Char.ofNat 0

/-- `*t++ = c`. -/
def put (rtn : Bytes Char × Nat) (c : Char) : Option (Bytes Char × Nat) :=
  (rtn.1.write rtn.2 c).map fun m => (m, rtn.2 + 1)

def isEnquoted (c : Char) : Bool := c == '"' || c == '\\' || c.toNat == 0x7f

def enquoteChar (rtn : Bytes Char × Nat) (c : Char) : Option (Bytes Char × Nat) :=
  if isEnquoted c then (put rtn '\\').bind fun rtn => put rtn c
  else if c = '\n' ∨ c = '\r' then put rtn ' '
  else put rtn c

/-- `osip_enquote`: the block with the result, none for a write outside the allocation. -/
def osipEnquote (s : Str) : Option (Bytes Char) := do
  let t ← put (Bytes.fresh (s.length * 2 + 3), 0) '"'
  let t ← s.foldlM enquoteChar t
  let t ← put t '"'
  let t ← put t nul
  some t.1

/-- `len--` on a `size_t`. -/
def sizeDec (len : Nat) : Nat := if len = 0 then 2 ^ 64 - 1 else len - 1

@[simp] theorem sizeDec_succ (len : Nat) : sizeDec (len + 1) = len := by
  rw [sizeDec, if_neg (Nat.succ_ne_zero len), Nat.add_sub_cancel]

/-- The loop of `osip_dequote`, for at most `fuel` characters. -/
def dequoteLoop : Nat → Bytes Char → Nat → Nat → Option (Bytes Char)
  | 0, _, _, _ => none
  | fuel + 1, m, s, len => do
      let c ← m.read s
      if c = nul then some m
      else if c = '\\' then
        let m ← m.move s (s + 1) len
        dequoteLoop fuel m (s + 1) (sizeDec (sizeDec len))
      else dequoteLoop fuel m (s + 1) (sizeDec len)

/-- `osip_dequote`, none for an access outside the block. -/
def osipDequote (m : Bytes Char) : Option (Bytes Char) := do
  let c ← m.read 0
  if c = nul then some m
  else if c ≠ '"' then some m
  else
    let s ← m.text nul
    let m ← m.move 0 1 s.length
    let len := sizeDec s.length
    if len > 0 then
      let last ← m.read (len - 1)
      if last = '"' then
        let m ← m.write (len - 1) nul
        dequoteLoop m.length m 0 (len - 1)
      else dequoteLoop m.length m 0 len
    else dequoteLoop m.length m 0 len

/-- What is written for one character. -/
def enquoted (c : Char) : Str :=
  if isEnquoted c then ['\\', c] else if c = '\n' ∨ c = '\r' then [' '] else [c]

/-! ### The block is large enough -/

/-- The text `done` was written, and `k` bytes are left. -/
def Written (rtn : Bytes Char × Nat) (done : Str) (k : Nat) : Prop :=
  rtn.1 = Bytes.ofText done ++ Bytes.fresh k ∧ rtn.2 = done.length

theorem put_written {rtn : Bytes Char × Nat} {done : Str} {k : Nat}
    (h : Written rtn done (k + 1)) (c : Char) :
    ∃ rtn', put rtn c = some rtn' ∧ Written rtn' (done ++ [c]) k := by
  obtain ⟨hblock, hlength⟩ := h
  refine ⟨(Bytes.ofText (done ++ [c]) ++ Bytes.fresh k, rtn.2 + 1), ?_, rfl, ?_⟩
  · rw [put, hblock, Bytes.fresh, List.replicate_succ, Bytes.write_append done hlength,
      Option.map_some]
    rfl
  · rw [hlength, List.length_append, List.length_singleton]

theorem enquoteChar_written {rtn : Bytes Char × Nat} {done : Str} {k : Nat}
    (h : Written rtn done (k + (enquoted c).length)) :
    ∃ rtn', enquoteChar rtn c = some rtn' ∧ Written rtn' (done ++ enquoted c) k := by
  unfold enquoted at h ⊢
  unfold enquoteChar
  split_ifs with hspecial hline
  · rw [if_pos hspecial] at h
    obtain ⟨rtn₁, hput₁, h₁⟩ := put_written h '\\'
    obtain ⟨rtn₂, hput₂, h₂⟩ := put_written h₁ c
    refine ⟨rtn₂, by rw [hput₁, Option.bind_some, hput₂], ?_⟩
    rw [List.append_assoc] at h₂
    exact h₂
  · rw [if_neg hspecial, if_pos hline] at h
    exact put_written h ' '
  · rw [if_neg hspecial, if_neg hline] at h
    exact put_written h c

theorem enquote_written (s : Str) {rtn : Bytes Char × Nat} {done : Str} {k : Nat}
    (h : Written rtn done (k + (s.flatMap enquoted).length)) :
    ∃ rtn', s.foldlM enquoteChar rtn = some rtn' ∧
      Written rtn' (done ++ s.flatMap enquoted) k := by
  induction s generalizing rtn done with
  | nil => exact ⟨rtn, rfl, by rw [List.flatMap_nil, List.append_nil]; exact h⟩
  | cons c s ih =>
      rw [List.flatMap_cons, List.length_append, Nat.add_comm (enquoted c).length,
        ← Nat.add_assoc] at h
      obtain ⟨rtn₁, hchar, h₁⟩ := enquoteChar_written h
      obtain ⟨rtn₂, hrest, h₂⟩ := ih h₁
      refine ⟨rtn₂, ?_, ?_⟩
      · rw [List.foldlM_cons, hchar]
        exact hrest
      · rw [List.append_assoc] at h₂
        exact h₂

theorem length_enquoted (s : Str) :
    s.length ≤ (s.flatMap enquoted).length ∧ (s.flatMap enquoted).length ≤ s.length * 2 := by
  induction s with
  | nil => exact ⟨Nat.le_refl 0, Nat.le_refl 0⟩
  | cons c s ih =>
      have hc : (enquoted c).length = 1 ∨ (enquoted c).length = 2 := by
        unfold enquoted
        split_ifs
        · exact Or.inr rfl
        · exact Or.inl rfl
        · exact Or.inl rfl
      rw [List.flatMap_cons, List.length_append, List.length_cons]
      omega

theorem osipEnquote_eq (s : Str) :
    ∃ k, osipEnquote s = some (Bytes.ofText ('"' :: s.flatMap enquoted ++ ['"', nul]) ++
      Bytes.fresh k) := by
  have hlength := (length_enquoted s).2
  obtain ⟨k, hk⟩ := Nat.exists_eq_add_of_le hlength
  have hstart : Written (Bytes.fresh (s.length * 2 + 3), 0) []
      (k + 2 + (s.flatMap enquoted).length + 1) := by
    rw [hk]
    refine ⟨?_, rfl⟩
    change Bytes.fresh _ = Bytes.fresh _
    congr 1
    omega
  obtain ⟨rtn₁, hput₁, h₁⟩ := put_written hstart '"'
  obtain ⟨rtn₂, hfold, h₂⟩ := enquote_written s h₁
  obtain ⟨rtn₃, hput₃, h₃⟩ := put_written h₂ '"'
  obtain ⟨rtn₄, hput₄, h₄⟩ := put_written h₃ nul
  refine ⟨k, ?_⟩
  simp only [osipEnquote, Option.bind_eq_bind, hput₁, hfold, hput₃, hput₄, Option.bind_some, h₄.1]
  congr 3
  rw [List.nil_append, List.append_assoc, List.append_assoc]
  rfl

/-! ### The characters come back -/

theorem enquoted_of_clean {c : Char} (hnewline : c ≠ '\n') (hreturn : c ≠ '\r') :
    enquoted c = if isEnquoted c then ['\\', c] else [c] := by
  have hline : ¬ (c = '\n' ∨ c = '\r') := not_or.2 ⟨hnewline, hreturn⟩
  rw [enquoted, if_neg hline]

/-- What the loop does: before it stand the characters that are done, behind the NUL whatever
the shifts have left. -/
theorem dequoteLoop_enquoted {s : Str} (hclean : ∀ c ∈ s, c ≠ nul ∧ c ≠ '\n' ∧ c ≠ '\r')
    {fuel : Nat} (hfuel : s.length < fuel) (done : Str) (rest : Bytes Char) :
    ∃ rest', dequoteLoop fuel
        (Bytes.ofText done ++ (Bytes.ofText (s.flatMap enquoted) ++ some nul :: rest)) done.length
        (s.flatMap enquoted).length =
      some (Bytes.ofText (done ++ s) ++ some nul :: rest') := by
  induction s generalizing fuel done rest with
  | nil =>
      obtain ⟨fuel, rfl⟩ := Nat.exists_eq_succ_of_ne_zero (by omega : fuel ≠ 0)
      refine ⟨rest, ?_⟩
      have hread := Bytes.read_append done rfl nul rest
      rw [List.flatMap_nil, dequoteLoop]
      change ((Bytes.ofText done ++ some nul :: rest).read done.length).bind _ = _
      rw [hread, Option.bind_some, if_pos rfl, List.append_nil]
      rfl
  | cons c s ih =>
      obtain ⟨fuel, rfl⟩ := Nat.exists_eq_succ_of_ne_zero (by omega : fuel ≠ 0)
      rw [List.length_cons] at hfuel
      obtain ⟨hnul, hnewline, hreturn⟩ := hclean c List.mem_cons_self
      have hclean' : ∀ a ∈ s, a ≠ nul ∧ a ≠ '\n' ∧ a ≠ '\r' := fun a ha =>
        hclean a (List.mem_cons_of_mem c ha)
      have hlength : done.length + 1 = (done ++ [c]).length := by
        rw [List.length_append, List.length_singleton]
      have hdone : Bytes.ofText (done ++ c :: s) = Bytes.ofText (done ++ [c] ++ s) := by
        rw [List.append_assoc, List.singleton_append]
      rw [List.flatMap_cons, enquoted_of_clean hnewline hreturn, hdone]
      by_cases hspecial : isEnquoted c
      · -- the backslash goes, and the character behind it is passed over
        obtain ⟨rest', hrest⟩ := ih hclean' (Nat.lt_of_succ_lt_succ hfuel) (done ++ [c])
          (some nul :: rest)
        refine ⟨rest', ?_⟩
        have hblock : Bytes.ofText done ++ (Bytes.ofText (['\\', c] ++ s.flatMap enquoted) ++
            some nul :: rest) = Bytes.ofText done ++
              some '\\' :: ((some c :: Bytes.ofText (s.flatMap enquoted)) ++ some nul :: rest) :=
          rfl
        have hread := Bytes.read_append done rfl '\\'
          ((some c :: Bytes.ofText (s.flatMap enquoted)) ++ some nul :: rest)
        have hsize : (s.flatMap enquoted).length + 2 =
            (some c :: Bytes.ofText (s.flatMap enquoted)).length + 1 := by
          rw [List.length_cons, Bytes.length_ofText]
        have hmove := Bytes.move_append done (some '\\') (some nul)
          (some c :: Bytes.ofText (s.flatMap enquoted)) rest rfl hsize
        have hmoved : Bytes.ofText done ++ (some c :: Bytes.ofText (s.flatMap enquoted) ++
            [some nul]) ++ some nul :: rest = Bytes.ofText (done ++ [c]) ++
              (Bytes.ofText (s.flatMap enquoted) ++ some nul :: some nul :: rest) := by
          simp only [Bytes.ofText_concat, List.append_assoc, List.cons_append, List.nil_append]
        have hlen : (['\\', c] ++ s.flatMap enquoted).length = (s.flatMap enquoted).length + 2 :=
          rfl
        rw [if_pos hspecial, hlen, hblock, dequoteLoop, hread, Option.bind_eq_bind,
          Option.bind_some, if_neg (by decide), if_pos rfl, hmove, Option.bind_eq_bind,
          Option.bind_some, hmoved, hlength, sizeDec_succ, sizeDec_succ]
        exact hrest
      · have hne : c ≠ '\\' := by
          rintro rfl
          exact hspecial rfl
        obtain ⟨rest', hrest⟩ := ih hclean' (Nat.lt_of_succ_lt_succ hfuel) (done ++ [c]) rest
        refine ⟨rest', ?_⟩
        have hread := Bytes.read_append done rfl c
          (Bytes.ofText (s.flatMap enquoted) ++ some nul :: rest)
        have hblock : Bytes.ofText done ++ (Bytes.ofText ([c] ++ s.flatMap enquoted) ++
            some nul :: rest) = Bytes.ofText done ++
              some c :: (Bytes.ofText (s.flatMap enquoted) ++ some nul :: rest) :=
          rfl
        have hmoved : Bytes.ofText done ++
            some c :: (Bytes.ofText (s.flatMap enquoted) ++ some nul :: rest) =
            Bytes.ofText (done ++ [c]) ++
              (Bytes.ofText (s.flatMap enquoted) ++ some nul :: rest) := by
          simp only [Bytes.ofText_concat, List.append_assoc, List.cons_append, List.nil_append]
        have hlen : ([c] ++ s.flatMap enquoted).length = (s.flatMap enquoted).length + 1 := rfl
        rw [if_neg hspecial, hlen, hblock, dequoteLoop, hread, Option.bind_eq_bind,
          Option.bind_some, if_neg hnul, if_neg hne, hmoved, hlength, sizeDec_succ]
        exact hrest

theorem nul_notMem_enquoted {s : Str} (hclean : ∀ c ∈ s, c ≠ nul ∧ c ≠ '\n' ∧ c ≠ '\r') :
    nul ∉ s.flatMap enquoted := by
  intro hmem
  obtain ⟨c, hc, hnul⟩ := List.mem_flatMap.1 hmem
  obtain ⟨hne, hnewline, hreturn⟩ := hclean c hc
  rw [enquoted_of_clean hnewline hreturn] at hnul
  split_ifs at hnul
  · rw [List.mem_cons, List.mem_singleton] at hnul
    rcases hnul with h | h
    · exact absurd h (by decide)
    · exact hne h.symm
  · exact hne (List.mem_singleton.1 hnul).symm

theorem osipDequote_enquoted {s : Str} (hclean : ∀ c ∈ s, c ≠ nul ∧ c ≠ '\n' ∧ c ≠ '\r')
    (rest : Bytes Char) :
    ∃ rest', osipDequote (Bytes.ofText ('"' :: s.flatMap enquoted ++ ['"', nul]) ++ rest) =
      some (Bytes.ofText s ++ some nul :: rest') := by
  have hmem := nul_notMem_enquoted hclean
  have hle := (length_enquoted s).1
  generalize hquoted : s.flatMap enquoted = quoted at hmem hle
  -- the block as it comes, with the first quote shifted out, and with the last one cut off
  have hblock : Bytes.ofText ('"' :: quoted ++ ['"', nul]) ++ rest =
      Bytes.ofText [] ++ some '"' :: ((Bytes.ofText quoted ++ [some '"']) ++ some nul :: rest) := by
    simp [Bytes.ofText]
  have hshifted : Bytes.ofText [] ++ ((Bytes.ofText quoted ++ [some '"']) ++ [some nul]) ++
      some nul :: rest = Bytes.ofText quoted ++ some '"' :: some nul :: some nul :: rest := by
    simp [Bytes.ofText]
  have hcut : Bytes.ofText (quoted ++ [nul]) ++ some nul :: some nul :: rest =
      Bytes.ofText [] ++ (Bytes.ofText quoted ++ some nul :: some nul :: some nul :: rest) := by
    simp [Bytes.ofText]
  have htext : Bytes.text nul (Bytes.ofText [] ++
      some '"' :: ((Bytes.ofText quoted ++ [some '"']) ++ some nul :: rest)) =
        some ('"' :: quoted ++ ['"']) := by
    have hwhole : nul ∉ '"' :: quoted ++ ['"'] := by
      rw [List.mem_append, List.mem_cons, List.mem_singleton]
      rintro ((h | h) | h)
      · exact absurd h (by decide)
      · exact hmem h
      · exact absurd h (by decide)
    rw [← Bytes.text_append hwhole rest]
    simp [Bytes.ofText]
  have hlength : ('"' :: quoted ++ ['"']).length = quoted.length + 1 + 1 := by
    rw [List.length_append, List.length_cons, List.length_singleton]
  have hsize : quoted.length + 1 + 1 = (Bytes.ofText quoted ++ [some '"']).length + 1 := by
    rw [List.length_append, Bytes.length_ofText, List.length_singleton]
  have hfuel : s.length < (Bytes.ofText [] ++
      (Bytes.ofText quoted ++ some nul :: some nul :: some nul :: rest)).length := by
    simp only [List.length_append, List.length_cons, Bytes.length_ofText]
    omega
  obtain ⟨rest', hloop⟩ := dequoteLoop_enquoted hclean hfuel [] (some nul :: some nul :: rest)
  rw [hquoted, List.length_nil] at hloop
  refine ⟨rest', ?_⟩
  rw [hblock]
  simp only [osipDequote, Option.bind_eq_bind]
  rw [Bytes.read_append [] (p := 0) rfl, Option.bind_some, if_neg (by decide), if_neg (by decide),
    htext, Option.bind_some, hlength, Bytes.move_append [] _ _ _ rest (p := 0) rfl hsize,
    Option.bind_some, hshifted, sizeDec_succ, if_pos (Nat.succ_pos _), Nat.add_sub_cancel,
    Bytes.read_append quoted rfl, Option.bind_some, if_pos rfl, Bytes.write_append quoted rfl,
    Option.bind_some, hcut, hloop]
  rfl

/-- The result of `osip_enquote` is written within its allocation, whatever the characters; and
`osip_dequote` in place gives a text without line ends back. -/
theorem osipEnquote_roundTrip (s : Str) :
    (∃ rtn, osipEnquote s = some rtn) ∧
    ((∀ c ∈ s, c ≠ nul ∧ c ≠ '\n' ∧ c ≠ '\r') →
      ∃ rtn m, osipEnquote s = some rtn ∧ osipDequote rtn = some m ∧ m.text nul = some s) := by
  obtain ⟨k, henquote⟩ := osipEnquote_eq s
  refine ⟨⟨_, henquote⟩, ?_⟩
  intro hclean
  obtain ⟨rest', hdequote⟩ := osipDequote_enquoted hclean (Bytes.fresh k)
  exact ⟨_, _, henquote, hdequote, Bytes.text_append (fun hmem => (hclean nul hmem).1 rfl) rest'⟩

/-- A quote, a run of backslashes at the end and a DEL. -/
theorem osipEnquote_roundTrip_escapes :
    ∃ rtn m, osipEnquote ['a', '"', Char.ofNat 127, '\\', '\\'] = some rtn ∧
      osipDequote rtn = some m ∧ m.text nul = some ['a', '"', Char.ofNat 127, '\\', '\\'] := by
  apply (osipEnquote_roundTrip ['a', '"', Char.ofNat 127, '\\', '\\']).2
  intro c hc
  simp only [List.mem_cons, List.not_mem_nil, or_false] at hc
  rcases hc with rfl | rfl | rfl | rfl | rfl <;> decide

end CString
end Exosip
