import Exosip.Parser.UriParts

/-! The loop of `__osip_uri_escape_nonascii_and_nondef`, with the buffer that it doubles: what it
writes, where, and until when the `int` that counts it is wide enough. -/
namespace Exosip

open CString

/-- `ns` up to `index`, the size it is allocated with and the size it needs. -/
structure EscapeBuffer where
  ns : Str
  alloc : Nat
  newlen : Nat
  index : Int

namespace EscapeBuffer

/-- `text` at `index`, `size` bytes with the NUL; `none` for a write outside the allocation.
The `int` is taken to wrap. -/
def write (buffer : EscapeBuffer) (text : Str) (size : Nat) : Option EscapeBuffer :=
  if 0 ≤ buffer.index ∧ buffer.index + size ≤ buffer.alloc then
    some
      { buffer with
        ns := buffer.ns.take buffer.index.toNat ++ text
        index := toInt32 (buffer.index + text.length) }
  else none

/-- Two more bytes are needed for a character that is encoded. -/
def grow (buffer : EscapeBuffer) : EscapeBuffer :=
  let newlen := (buffer.newlen + 2) % 2 ^ 64
  { buffer with
    newlen
    alloc := if buffer.alloc < newlen then buffer.alloc * 2 % 2 ^ 64 else buffer.alloc }

/-- One character; `sprintf` writes a NUL behind the three it encodes it with. -/
def escape (def_ : Str) (buffer : EscapeBuffer) (c : Char) : Option EscapeBuffer :=
  if isAlphanum c || def_.contains c then buffer.write [c] 1
  else buffer.grow.write (percentEncoded c) 4

/-- `ns[index] = 0`. -/
def terminate (buffer : EscapeBuffer) : Option Str :=
  if 0 ≤ buffer.index ∧ buffer.index < buffer.alloc then some (buffer.ns.take buffer.index.toNat)
  else none

def init (string : Str) : EscapeBuffer :=
  let alloc := (string.length + 1) % 2 ^ 64
  ⟨[], alloc, alloc, 0⟩

end EscapeBuffer

/-- `__osip_uri_escape_nonascii_and_nondef`, none when a write is outside the allocation. -/
def osipUriEscapeLoop (string def_ : Str) : Option Str :=
  (string.foldlM (EscapeBuffer.escape def_) (EscapeBuffer.init string)).bind EscapeBuffer.terminate

/-- `userinfo_def`, `password_def`, `uri_param_def` and `header_param_def`. -/
def uriEscapeTables : List Str :=
  ["-_.!~*'()&=+$,;?/".toList, "-_.!~*'()&=+$,".toList, "-_.!~*'()[]/:&+$".toList,
    "-_.!~*'()[]/?:+$".toList]

/-- The string is escaped within the buffer, and unescaping gives it back. -/
def EscapesBack (def_ s : Str) : Prop :=
  ∃ escaped, osipUriEscapeLoop s def_ = some escaped ∧ osipUriUnescape escaped = s

/-! ### The buffer is large enough -/

namespace EscapeBuffer

variable {def_ : Str}

/-- What was written is `done`, and `rest` is left to write. -/
structure Holds (done rest : Str) (buffer : EscapeBuffer) : Prop where
  ns : buffer.ns = done
  index : buffer.index = done.length
  newlen : buffer.newlen = done.length + rest.length + 1
  enough : buffer.newlen ≤ buffer.alloc
  double : buffer.alloc ≤ 2 * buffer.newlen

theorem init_holds {s : Str} (h : s.length < 2 ^ 31) : Holds [] s (init s) := by
  have hlength : (s.length + 1) % 2 ^ 64 = s.length + 1 := Nat.mod_eq_of_lt (by omega)
  refine ⟨rfl, rfl, ?_, ?_, ?_⟩ <;> simp only [init, hlength, List.length_nil] <;> omega

theorem write_holds {done rest rest' text : Str} {buffer : EscapeBuffer} {size : Nat}
    (h : Holds done rest buffer) (hsize : done.length + size ≤ buffer.newlen)
    (hrest : rest.length = text.length + rest'.length)
    (hindex : done.length + text.length < 2 ^ 31) :
    ∃ buffer', buffer.write text size = some buffer' ∧ Holds (done ++ text) rest' buffer' := by
  have henough := h.enough
  have hnat : ((done.length : Nat) : Int).toNat = done.length := Int.toNat_natCast _
  refine ⟨_, if_pos ?_, ?_⟩
  · rw [h.index]
    omega
  · refine ⟨?_, ?_, ?_, h.enough, h.double⟩
    · dsimp only
      rw [h.index, hnat, h.ns, List.take_length]
    · dsimp only
      rw [h.index, List.length_append, toInt32_of_range (by omega), Nat.cast_add]
    · dsimp only
      rw [h.newlen, List.length_append]
      omega

/-- The size grows before it is needed: doubling is enough, since two bytes at least are there. -/
theorem grow_holds {done rest : Str} {c : Char} {buffer : EscapeBuffer}
    (h : Holds done (c :: rest) buffer) (hlength : done.length + rest.length + 4 < 2 ^ 33) :
    Holds done (c :: c :: c :: rest) buffer.grow := by
  have hnewlen := h.newlen
  have henough := h.enough
  have hdouble := h.double
  rw [List.length_cons] at hnewlen
  have hgrown : (buffer.newlen + 2) % 2 ^ 64 = buffer.newlen + 2 := Nat.mod_eq_of_lt (by omega)
  have hdoubled : buffer.alloc * 2 % 2 ^ 64 = buffer.alloc * 2 := Nat.mod_eq_of_lt (by omega)
  refine ⟨h.ns, h.index, ?_, ?_, ?_⟩
  · simp only [grow, hgrown, List.length_cons]
    omega
  · simp only [grow, hgrown, hdoubled]
    split_ifs <;> omega
  · simp only [grow, hgrown, hdoubled]
    split_ifs <;> omega

theorem length_le_escape (s def_ : Str) :
    s.length ≤ (osipUriEscapeNonasciiAndNondef s def_).length := by
  induction s with
  | nil => exact Nat.zero_le _
  | cons c s ih =>
      rw [escape_cons, List.length_append, List.length_cons]
      split_ifs
      · rw [List.length_singleton]
        omega
      · have hthree : (percentEncoded c).length = 3 := rfl
        omega

theorem escape_holds {done rest : Str} {c : Char} {buffer : EscapeBuffer}
    (h : Holds done (c :: rest) buffer)
    (hlength : (done ++ osipUriEscapeNonasciiAndNondef (c :: rest) def_).length < 2 ^ 31) :
    ∃ buffer', buffer.escape def_ c = some buffer' ∧
      Holds (done ++ if isAlphanum c || def_.contains c then [c] else percentEncoded c) rest buffer' := by
  have hrest := length_le_escape rest def_
  have hthree : (percentEncoded c).length = 3 := rfl
  have hnewlen := h.newlen
  rw [List.length_cons] at hnewlen
  rw [escape_cons, List.length_append, List.length_append] at hlength
  unfold escape
  split_ifs at hlength ⊢ with hplain
  · rw [List.length_singleton] at hlength
    exact write_holds h (by omega) (by rw [List.length_cons, List.length_singleton]; omega)
      (by rw [List.length_singleton]; omega)
  · have hgrown := grow_holds h (by omega)
    have hneeded := hgrown.newlen
    simp only [List.length_cons] at hneeded
    exact write_holds hgrown (by omega) (by simp only [List.length_cons, hthree]; omega) (by omega)

theorem foldlM_holds {done rest : Str} {buffer : EscapeBuffer} (h : Holds done rest buffer)
    (hlength : (done ++ osipUriEscapeNonasciiAndNondef rest def_).length < 2 ^ 31) :
    (rest.foldlM (escape def_) buffer).bind terminate =
      some (done ++ osipUriEscapeNonasciiAndNondef rest def_) := by
  induction rest generalizing done buffer with
  | nil =>
      have henough := h.enough
      have hnewlen := h.newlen
      have hnat : ((done.length : Nat) : Int).toNat = done.length := Int.toNat_natCast _
      rw [List.foldlM_nil]
      change terminate buffer = some (done ++ [])
      rw [terminate, if_pos (by rw [h.index]; simp only [List.length_nil] at hnewlen; omega), h.index,
        hnat, h.ns, List.take_length, List.append_nil]
  | cons c rest ih =>
      obtain ⟨buffer', hstep, hholds⟩ := escape_holds h hlength
      rw [escape_cons, ← List.append_assoc] at hlength ⊢
      rw [List.foldlM_cons, hstep]
      exact ih hholds hlength

/-! ### And the counter is not -/

theorem foldlM_of_negative {rest : Str} {buffer : EscapeBuffer} (h : buffer.index < 0) :
    (rest.foldlM (escape def_) buffer).bind terminate = none := by
  cases rest with
  | nil => exact if_neg (by omega)
  | cons c rest =>
      have hstep : buffer.escape def_ c = none := by
        unfold escape
        split_ifs
        · exact if_neg (by omega)
        · exact if_neg (by simp only [grow]; omega)
      rw [List.foldlM_cons, hstep]
      rfl

theorem write_index {text : Str} {buffer buffer' : EscapeBuffer} {size : Nat}
    (h : buffer.write text size = some buffer') :
    0 ≤ buffer.index ∧ buffer'.index = toInt32 (buffer.index + text.length) := by
  unfold write at h
  split_ifs at h with hinside
  cases h
  exact ⟨hinside.1, rfl⟩

theorem escape_index {c : Char} {buffer buffer' : EscapeBuffer}
    (h : buffer.escape def_ c = some buffer') :
    0 ≤ buffer.index ∧ buffer'.index = toInt32 (buffer.index +
      (if isAlphanum c || def_.contains c then [c] else percentEncoded c).length) := by
  unfold escape at h
  split_ifs at h ⊢
  · exact write_index h
  · have hwrite := write_index h
    exact hwrite

theorem length_of_foldlM {rest escaped : Str} {buffer : EscapeBuffer}
    (hrange : buffer.index < 2 ^ 31)
    (h : (rest.foldlM (escape def_) buffer).bind terminate = some escaped) :
    buffer.index + (osipUriEscapeNonasciiAndNondef rest def_).length < 2 ^ 31 := by
  induction rest generalizing buffer with
  | nil =>
      change buffer.index + 0 < 2 ^ 31
      omega
  | cons c rest ih =>
      rw [List.foldlM_cons] at h
      cases hstep : buffer.escape def_ c with
      | none =>
          rw [hstep] at h
          cases h
      | some buffer' =>
          rw [hstep] at h
          obtain ⟨hpos, hindex⟩ := escape_index hstep
          have hthree : (percentEncoded c).length = 3 := rfl
          rw [escape_cons, List.length_append]
          set added := if isAlphanum c || def_.contains c then [c] else percentEncoded c with hadded
          have hle : added.length ≤ 3 := by
            rw [hadded]
            split_ifs
            · rw [List.length_singleton]
              omega
            · omega
          by_cases hfits : buffer.index + added.length < 2 ^ 31
          · rw [toInt32_of_range (by omega)] at hindex
            have hrest := ih (by omega) h
            rw [Nat.cast_add]
            omega
          · have hnegative : buffer'.index < 0 := by
              rw [hindex, toInt32, Int.bmod_def]
              split <;> omega
            have hnone : (rest.foldlM (escape def_) buffer').bind terminate = none :=
              foldlM_of_negative hnegative
            exact absurd (hnone.symm.trans h) (by simp)

end EscapeBuffer

theorem osipUriEscapeLoop_eq_some_iff {s def_ escaped : Str} :
    osipUriEscapeLoop s def_ = some escaped ↔
      (osipUriEscapeNonasciiAndNondef s def_).length < 2 ^ 31 ∧
        escaped = osipUriEscapeNonasciiAndNondef s def_ := by
  have hwritten : (osipUriEscapeNonasciiAndNondef s def_).length < 2 ^ 31 →
      osipUriEscapeLoop s def_ = some (osipUriEscapeNonasciiAndNondef s def_) := fun hlength =>
    EscapeBuffer.foldlM_holds
      (EscapeBuffer.init_holds ((EscapeBuffer.length_le_escape s def_).trans_lt hlength)) hlength
  constructor
  · intro h
    have hstart : (EscapeBuffer.init s).index = 0 := rfl
    have hcounted := EscapeBuffer.length_of_foldlM (by rw [hstart]; omega) h
    have hlength : (osipUriEscapeNonasciiAndNondef s def_).length < 2 ^ 31 := by
      rw [hstart] at hcounted
      omega
    exact ⟨hlength, Option.some.inj (h.symm.trans (hwritten hlength))⟩
  · rintro ⟨hlength, rfl⟩
    exact hwritten hlength

theorem osipUriUnescape_of_table {def_ s : Str} (hdef : def_ ∈ uriEscapeTables)
    (h : ∀ c ∈ s, c ≠ '\x00' ∧ c.toNat < 256) :
    osipUriUnescape (osipUriEscapeNonasciiAndNondef s def_) = s := by
  have hpercent : ∀ def_ ∈ uriEscapeTables, '%' ∉ def_ := by decide
  by_cases hs : s = []
  · rw [hs]
    rfl
  · exact osipUriUnescape_escape (hpercent def_ hdef) ⟨hs, h⟩

/-- Whatever table is used: the buffer is always large enough, its counter up to 2 GiB. -/
theorem escapesBack_iff {def_ s : Str} (hdef : def_ ∈ uriEscapeTables)
    (h : ∀ c ∈ s, c ≠ '\x00' ∧ c.toNat < 256) :
    EscapesBack def_ s ↔ (osipUriEscapeNonasciiAndNondef s def_).length < 2 ^ 31 := by
  constructor
  · rintro ⟨escaped, hescaped, -⟩
    exact (osipUriEscapeLoop_eq_some_iff.1 hescaped).1
  · intro hlength
    exact ⟨_, osipUriEscapeLoop_eq_some_iff.2 ⟨hlength, rfl⟩, osipUriUnescape_of_table hdef h⟩

theorem escapesBack_percent :
    EscapesBack "-_.!~*'()&=+$,;?/".toList "50% \xe9:@".toList :=
  have htext : IsUriText "50% \xe9:@".toList := by decide
  (escapesBack_iff (by decide) htext.2).2 (by decide)

theorem escape_replicate (n : Nat) (def_ : Str) :
    osipUriEscapeNonasciiAndNondef (List.replicate n 'a') def_ = List.replicate n 'a' := by
  have hplain : isAlphanum 'a' = true := by decide
  induction n with
  | zero => rfl
  | succ n ih =>
      rw [List.replicate_succ, escape_cons, hplain, Bool.true_or, if_pos rfl, ih,
        List.singleton_append]

/-- 2 GiB of text, none of which has to be encoded. -/
theorem not_escapesBack_replicate :
    (∀ c ∈ List.replicate (2 ^ 31) 'a', c ≠ '\x00' ∧ c.toNat < 256) ∧
      ¬ EscapesBack "-_.!~*'()&=+$,;?/".toList (List.replicate (2 ^ 31) 'a') := by
  refine ⟨fun c hc => ?_, ?_⟩
  · rw [List.eq_of_mem_replicate hc]
    decide
  · rintro ⟨escaped, hescaped, -⟩
    have hlength := (osipUriEscapeLoop_eq_some_iff.1 hescaped).1
    rw [escape_replicate, List.length_replicate] at hlength
    exact absurd hlength (lt_irrefl _)

end Exosip
