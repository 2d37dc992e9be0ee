import Exosip.Auth.Digest
import Exosip.Machine.Blocks

/-! MD5 as the sources compute it: a context that takes a message in parts and keeps the bytes of
an unfinished block, and what it computes for the message as a whole. -/
namespace Exosip
namespace Md5

open CString Machine

abbrev s11 : UInt32 := 7
abbrev s12 : UInt32 := 12
abbrev s13 : UInt32 := 17
abbrev s14 : UInt32 := 22
abbrev s21 : UInt32 := 5
abbrev s22 : UInt32 := 9
abbrev s23 : UInt32 := 14
abbrev s24 : UInt32 := 20
abbrev s31 : UInt32 := 4
abbrev s32 : UInt32 := 11
abbrev s33 : UInt32 := 16
abbrev s34 : UInt32 := 23
abbrev s41 : UInt32 := 6
abbrev s42 : UInt32 := 10
abbrev s43 : UInt32 := 15
abbrev s44 : UInt32 := 21

def f (x y z : UInt32) : UInt32 := (x &&& y) ||| (~~~x &&& z)
def g (x y z : UInt32) : UInt32 := (x &&& z) ||| (y &&& ~~~z)
def h (x y z : UInt32) : UInt32 := x ^^^ y ^^^ z
def i (x y z : UInt32) : UInt32 := y ^^^ (x ||| ~~~z)

def rotateLeft (x n : UInt32) : UInt32 := (x <<< n) ||| (x >>> (32 - n))

/-- The macros `FF`, `GG`, `HH` and `II` differ in the function of three words only. -/
def step (fn : UInt32 → UInt32 → UInt32 → UInt32) (a b c d x s ac : UInt32) : UInt32 :=
  rotateLeft (a + (fn b c d + x + ac)) s + b

def ff (a b c d x s ac : UInt32) : UInt32 := step f a b c d x s ac
def gg (a b c d x s ac : UInt32) : UInt32 := step g a b c d x s ac
def hh (a b c d x s ac : UInt32) : UInt32 := step h a b c d x s ac
def ii (a b c d x s ac : UInt32) : UInt32 := step i a b c d x s ac

/-- The four words of the state. -/
structure State where
  a : UInt32
  b : UInt32
  c : UInt32
  d : UInt32
  deriving DecidableEq, Repr

def osipEncode (input : List UInt32) : List UInt8 :=
  input.flatMap fun (word : UInt32) =>
    [word.toUInt8, (word >>> 8).toUInt8, (word >>> 16).toUInt8, (word >>> 24).toUInt8]

/-- A word of `osip_Decode`. -/
def osipDecode (input : List UInt8) (n : Nat) : UInt32 :=
  let byte (j : Nat) : UInt32 := (input[4 * n + j]?.getD 0).toUInt32
  byte 0 ||| (byte 1 <<< 8) ||| (byte 2 <<< 16) ||| (byte 3 <<< 24)

def osipMD5Transform (state : State) (block : List UInt8) : State :=
  let x := osipDecode block
  let a := state.a
  let b := state.b
  let c := state.c
  let d := state.d
  -- round 1
  let a := ff a b c d (x 0) s11 0xd76aa478
  let d := ff d a b c (x 1) s12 0xe8c7b756
  let c := ff c d a b (x 2) s13 0x242070db
  let b := ff b c d a (x 3) s14 0xc1bdceee
  let a := ff a b c d (x 4) s11 0xf57c0faf
  let d := ff d a b c (x 5) s12 0x4787c62a
  let c := ff c d a b (x 6) s13 0xa8304613
  let b := ff b c d a (x 7) s14 0xfd469501
  let a := ff a b c d (x 8) s11 0x698098d8
  let d := ff d a b c (x 9) s12 0x8b44f7af
  let c := ff c d a b (x 10) s13 0xffff5bb1
  let b := ff b c d a (x 11) s14 0x895cd7be
  let a := ff a b c d (x 12) s11 0x6b901122
  let d := ff d a b c (x 13) s12 0xfd987193
  let c := ff c d a b (x 14) s13 0xa679438e
  let b := ff b c d a (x 15) s14 0x49b40821
  -- round 2
  let a := gg a b c d (x 1) s21 0xf61e2562
  let d := gg d a b c (x 6) s22 0xc040b340
  let c := gg c d a b (x 11) s23 0x265e5a51
  let b := gg b c d a (x 0) s24 0xe9b6c7aa
  let a := gg a b c d (x 5) s21 0xd62f105d
  let d := gg d a b c (x 10) s22 0x2441453
  let c := gg c d a b (x 15) s23 0xd8a1e681
  let b := gg b c d a (x 4) s24 0xe7d3fbc8
  let a := gg a b c d (x 9) s21 0x21e1cde6
  let d := gg d a b c (x 14) s22 0xc33707d6
  let c := gg c d a b (x 3) s23 0xf4d50d87
  let b := gg b c d a (x 8) s24 0x455a14ed
  let a := gg a b c d (x 13) s21 0xa9e3e905
  let d := gg d a b c (x 2) s22 0xfcefa3f8
  let c := gg c d a b (x 7) s23 0x676f02d9
  let b := gg b c d a (x 12) s24 0x8d2a4c8a
  -- round 3
  let a := hh a b c d (x 5) s31 0xfffa3942
  let d := hh d a b c (x 8) s32 0x8771f681
  let c := hh c d a b (x 11) s33 0x6d9d6122
  let b := hh b c d a (x 14) s34 0xfde5380c
  let a := hh a b c d (x 1) s31 0xa4beea44
  let d := hh d a b c (x 4) s32 0x4bdecfa9
  let c := hh c d a b (x 7) s33 0xf6bb4b60
  let b := hh b c d a (x 10) s34 0xbebfbc70
  let a := hh a b c d (x 13) s31 0x289b7ec6
  let d := hh d a b c (x 0) s32 0xeaa127fa
  let c := hh c d a b (x 3) s33 0xd4ef3085
  let b := hh b c d a (x 6) s34 0x4881d05
  let a := hh a b c d (x 9) s31 0xd9d4d039
  let d := hh d a b c (x 12) s32 0xe6db99e5
  let c := hh c d a b (x 15) s33 0x1fa27cf8
  let b := hh b c d a (x 2) s34 0xc4ac5665
  -- round 4
  let a := ii a b c d (x 0) s41 0xf4292244
  let d := ii d a b c (x 7) s42 0x432aff97
  let c := ii c d a b (x 14) s43 0xab9423a7
  let b := ii b c d a (x 5) s44 0xfc93a039
  let a := ii a b c d (x 12) s41 0x655b59c3
  let d := ii d a b c (x 3) s42 0x8f0ccc92
  let c := ii c d a b (x 10) s43 0xffeff47d
  let b := ii b c d a (x 1) s44 0x85845dd1
  let a := ii a b c d (x 8) s41 0x6fa87e4f
  let d := ii d a b c (x 15) s42 0xfe2ce6e0
  let c := ii c d a b (x 6) s43 0xa3014314
  let b := ii b c d a (x 13) s44 0x4e0811a1
  let a := ii a b c d (x 4) s41 0xf7537e82
  let d := ii d a b c (x 11) s42 0xbd3af235
  let c := ii c d a b (x 2) s43 0x2ad7d2bb
  let b := ii b c d a (x 9) s44 0xeb86d391
  ⟨state.a + a, state.b + b, state.c + c, state.d + d⟩

/-- `osip_MD5_CTX`: the state, the number of bits modulo 2^64 in two words, and the buffer. -/
structure Ctx where
  state : State
  count0 : UInt32
  count1 : UInt32
  buffer : List UInt8
  deriving DecidableEq, Repr

def initialState : State := ⟨0x67452301, 0xefcdab89, 0x98badcfe, 0x10325476⟩

def osipMD5Init (buffer : List UInt8) : Ctx := ⟨initialState, 0, 0, buffer⟩

/-- `osip_MD5_memcpy` to a place of the buffer. -/
def osipMD5Memcpy (output : List UInt8) (pos : Nat) (input : List UInt8) : List UInt8 :=
  output.take pos ++ input ++ output.drop (pos + input.length)

/-- Transform as many times as possible, from the byte `i` of the input on. The sum stays below
2^32 for the inputs that are `Short`. -/
def osipMD5Blocks (state : State) (input : List UInt8) (i : Nat) : State × Nat :=
  if i + 63 < input.length then
    osipMD5Blocks (osipMD5Transform state ((input.drop i).take 64)) input (i + 64)
  else (state, i)
termination_by input.length - i

def Ctx.index (context : Ctx) : Nat := ((context.count0 >>> 3) &&& 0x3F).toNat

def Ctx.addBits (context : Ctx) (inputLen : UInt32) : Ctx :=
  let bits := inputLen <<< 3
  let count0 := context.count0 + bits
  let carried := if count0 < bits then context.count1 + 1 else context.count1
  { context with count0, count1 := carried + (inputLen >>> 29) }

def osipMD5Update (context : Ctx) (input : List UInt8) : Ctx :=
  let index := context.index
  let counted := context.addBits (UInt32.ofNat input.length)
  let partLen := 64 - index
  if partLen ≤ input.length then
    let buffer := osipMD5Memcpy context.buffer index (input.take partLen)
    let rest := osipMD5Blocks (osipMD5Transform context.state buffer) input partLen
    { counted with state := rest.1, buffer := osipMD5Memcpy buffer 0 (input.drop rest.2) }
  else { counted with buffer := osipMD5Memcpy context.buffer index input }

/-- The length is an `unsigned int`, also with 63 more. -/
def Short (input : List UInt8) : Prop := input.length + 63 < 2 ^ 32

instance (input : List UInt8) : Decidable (Short input) := inferInstanceAs (Decidable (_ < _))

/-- The array `PADDING`. -/
def padding : List UInt8 := 0x80 :: List.replicate 63 0

def digestOf (state : State) : Hash :=
  Vector.ofFn fun n => (osipEncode [state.a, state.b, state.c, state.d])[n]?.getD 0

/-- The digest; what is in the context is cleared afterwards. -/
def osipMD5Final (context : Ctx) : Hash :=
  let bits := osipEncode [context.count0, context.count1]
  let index := context.index
  let padLen := if index < 56 then 56 - index else 120 - index
  let padded := osipMD5Update context (padding.take padLen)
  digestOf (osipMD5Update padded bits).state

/-! ### The message as a whole -/

def lengthBytes (len : Nat) : List UInt8 :=
  (List.range 8).map fun n => UInt8.ofNat (8 * len / 256 ^ n)

def messagePadding (len : Nat) : List UInt8 :=
  0x80 :: List.replicate ((119 - len % 64) % 64) 0 ++ lengthBytes len

abbrev absorbed (msg : List UInt8) : State × List UInt8 :=
  absorb 64 osipMD5Transform initialState msg

/-- The digest of a message: its padded blocks are transformed one after another. -/
def md5 (msg : List UInt8) : Hash :=
  digestOf (absorbed (msg ++ messagePadding msg.length)).1

/-! ### The words -/

theorem index_eq (context : Ctx) : context.index = context.count0.toNat / 8 % 64 := by
  have hmask : (0x3F : Nat) = 2 ^ 6 - 1 := rfl
  rw [Ctx.index, UInt32.toNat_and, UInt32.toNat_shiftRight]
  simp only [UInt32.reduceToNat, Nat.reduceMod, hmask, Nat.shiftRight_eq_div_pow]
  exact Nat.and_two_pow_sub_one_eq_mod _ 6

def Ctx.Counts (context : Ctx) (bytes : Nat) : Prop :=
  context.count0.toNat + 2 ^ 32 * context.count1.toNat = 8 * bytes % 2 ^ 64

theorem Ctx.Counts.index {context : Ctx} {bytes : Nat} (h : context.Counts bytes) :
    context.index = bytes % 64 := by
  have hlt := context.count0.toNat_lt
  rw [Counts] at h
  rw [index_eq]
  omega

theorem Ctx.Counts.addBits {context : Ctx} {bytes : Nat} (h : context.Counts bytes) {len : Nat}
    (hlen : len < 2 ^ 32) :
    (context.addBits (UInt32.ofNat len)).Counts (bytes + len) := by
  have hlt0 := context.count0.toNat_lt
  have hlt1 := context.count1.toNat_lt
  have hbits : (UInt32.ofNat len <<< 3).toNat = len * 8 % 2 ^ 32 := by
    rw [UInt32.toNat_shiftLeft, UInt32.toNat_ofNat', Nat.mod_eq_of_lt hlen,
      Nat.shiftLeft_eq]
    rfl
  have hhigh : (UInt32.ofNat len >>> 29).toNat = len / 2 ^ 29 := by
    rw [UInt32.toNat_shiftRight, UInt32.toNat_ofNat', Nat.mod_eq_of_lt hlen,
      Nat.shiftRight_eq_div_pow]
    rfl
  have hone : (1 : UInt32).toNat = 1 := rfl
  rw [Counts] at h ⊢
  simp only [Ctx.addBits]
  split_ifs with hcarry
  · rw [UInt32.lt_iff_toNat_lt, UInt32.toNat_add, hbits] at hcarry
    rw [UInt32.toNat_add, UInt32.toNat_add, UInt32.toNat_add, hbits, hhigh, hone]
    omega
  · rw [UInt32.lt_iff_toNat_lt, UInt32.toNat_add, hbits] at hcarry
    rw [UInt32.toNat_add, UInt32.toNat_add, hbits, hhigh]
    omega

theorem toUInt8_eq {word : UInt32} {n : Nat} (h : word.toNat % 256 = n % 256) :
    word.toUInt8 = UInt8.ofNat n := by
  apply UInt8.toNat_inj.1
  rw [UInt32.toNat_toUInt8, UInt8.toNat_ofNat']
  exact h

theorem osipEncode_counts {context : Ctx} {bytes : Nat} (h : context.Counts bytes) :
    osipEncode [context.count0, context.count1] = lengthBytes bytes := by
  have hlt0 := context.count0.toNat_lt
  have hlt1 := context.count1.toNat_lt
  rw [Ctx.Counts] at h
  simp only [osipEncode, lengthBytes, List.flatMap_cons, List.flatMap_nil, List.append_nil,
    List.cons_append, List.nil_append, List.range, List.range.loop, List.map_cons, List.map_nil,
    List.cons.injEq, and_true]
  refine ⟨toUInt8_eq ?_, toUInt8_eq ?_, toUInt8_eq ?_, toUInt8_eq ?_, toUInt8_eq ?_,
    toUInt8_eq ?_, toUInt8_eq ?_, toUInt8_eq ?_⟩
  all_goals
    simp only [UInt32.toNat_shiftRight, UInt32.reduceToNat, Nat.reduceMod,
      Nat.shiftRight_eq_div_pow, Nat.reducePow]
    omega

/-! ### Updates -/

theorem length_osipMD5Memcpy {output input : List UInt8} {pos : Nat}
    (h : pos + input.length ≤ output.length) :
    (osipMD5Memcpy output pos input).length = output.length := by
  simp only [osipMD5Memcpy, List.length_append, List.length_take, List.length_drop]
  omega

theorem take_osipMD5Memcpy {output input : List UInt8} {pos : Nat} (h : pos ≤ output.length) :
    (osipMD5Memcpy output pos input).take (pos + input.length) = output.take pos ++ input := by
  have hlen : (output.take pos ++ input).length = pos + input.length := by
    rw [List.length_append, List.length_take]
    omega
  rw [osipMD5Memcpy, ← hlen, List.take_left]

theorem osipMD5Blocks_eq (state : State) (input : List UInt8) (i : Nat) (hi : i ≤ input.length) :
    (osipMD5Blocks state input i).1 = (absorb 64 osipMD5Transform state (input.drop i)).1 ∧
      input.drop (osipMD5Blocks state input i).2 =
        (absorb 64 osipMD5Transform state (input.drop i)).2 := by
  induction state, i using osipMD5Blocks.induct input with
  | case1 state i hblock ih =>
      have hlen : 64 ≤ (input.drop i).length := by
        rw [List.length_drop]
        omega
      rw [osipMD5Blocks, if_pos hblock, absorb_of_le (by decide) hlen, List.drop_drop]
      exact ih (by omega)
  | case2 state i hblock =>
      have hlen : (input.drop i).length < 64 := by
        rw [List.length_drop]
        omega
      rw [osipMD5Blocks, if_neg hblock, absorb_of_lt hlen]
      exact ⟨rfl, rfl⟩

/-- The context has taken this message: its whole blocks are in the state, the bytes behind them
in the buffer, and its length in the counter. -/
structure Ctx.Holds (context : Ctx) (msg : List UInt8) : Prop where
  state : context.state = (absorbed msg).1
  counts : context.Counts msg.length
  size : context.buffer.length = 64
  pending : context.buffer.take (msg.length % 64) = (absorbed msg).2

theorem osipMD5Init_holds {buffer : List UInt8} (h : buffer.length = 64) :
    (osipMD5Init buffer).Holds [] := by
  have hnone : absorbed [] = (initialState, []) := absorb_of_lt (by decide)
  constructor
  · rw [hnone]
    rfl
  · rfl
  · exact h
  · rw [hnone]
    rfl

theorem Ctx.Holds.update {context : Ctx} {msg : List UInt8} (h : context.Holds msg)
    {input : List UInt8} (hinput : Short input) :
    (osipMD5Update context input).Holds (msg ++ input) := by
  have hindex := h.counts.index
  have hlt : msg.length % 64 < 64 := Nat.mod_lt _ (by decide)
  have hcounts := h.counts.addBits (lt_of_le_of_lt (Nat.le_add_right _ 63) hinput)
  have hsize := h.size
  have habsorbed : absorbed (msg ++ input) =
      absorb 64 osipMD5Transform context.state
        (context.buffer.take (msg.length % 64) ++ input) := by
    rw [h.state, h.pending]
    exact absorb_append (by decide) initialState msg input
  rw [osipMD5Update, hindex]
  simp only
  split_ifs with hpart
  · -- the buffer is filled up with the first bytes of the input
    have hfirst : (input.take (64 - msg.length % 64)).length = 64 - msg.length % 64 := by
      rw [List.length_take]
      omega
    have hblock : osipMD5Memcpy context.buffer (msg.length % 64)
        (input.take (64 - msg.length % 64)) =
          context.buffer.take (msg.length % 64) ++ input.take (64 - msg.length % 64) := by
      have hdrop : context.buffer.drop (msg.length % 64 +
          (input.take (64 - msg.length % 64)).length) = [] := by
        rw [List.drop_eq_nil_iff]
        omega
      rw [osipMD5Memcpy, hdrop, List.append_nil]
    have hblockLen : (context.buffer.take (msg.length % 64) ++
        input.take (64 - msg.length % 64)).length = 64 := by
      rw [List.length_append, List.length_take, hfirst]
      omega
    have hsplit : context.buffer.take (msg.length % 64) ++ input =
        (context.buffer.take (msg.length % 64) ++ input.take (64 - msg.length % 64)) ++
          input.drop (64 - msg.length % 64) := by
      rw [List.append_assoc, List.take_append_drop]
    rw [hsplit, absorb_block (by decide) hblockLen] at habsorbed
    obtain ⟨hstate, hrest⟩ := osipMD5Blocks_eq (osipMD5Transform context.state
      (context.buffer.take (msg.length % 64) ++ input.take (64 - msg.length % 64))) input
      (64 - msg.length % 64) hpart
    have hlen : (absorbed (msg ++ input)).2.length = (msg ++ input).length % 64 :=
      length_absorb (by decide) _ _
    rw [hblock]
    constructor
    · rw [habsorbed, hstate]
    · rw [List.length_append]
      exact hcounts
    · rw [length_osipMD5Memcpy] <;> rw [hblockLen]
      rw [hrest, ← habsorbed, hlen]
      omega
    · rw [← hlen, habsorbed, ← hrest]
      have htake := @take_osipMD5Memcpy (context.buffer.take (msg.length % 64) ++
        input.take (64 - msg.length % 64)) (input.drop (osipMD5Blocks (osipMD5Transform
          context.state (context.buffer.take (msg.length % 64) ++
            input.take (64 - msg.length % 64))) input (64 - msg.length % 64)).2) 0 (Nat.zero_le _)
      rwa [Nat.zero_add, List.take_zero, List.nil_append] at htake
  · -- the input goes behind the bytes that are there
    have hshort : (context.buffer.take (msg.length % 64) ++ input).length < 64 := by
      rw [List.length_append, List.length_take]
      omega
    rw [absorb_of_lt hshort] at habsorbed
    constructor
    · rw [habsorbed]
      rfl
    · rw [List.length_append]
      exact hcounts
    · rw [length_osipMD5Memcpy] <;> omega
    · have hmod : (msg ++ input).length % 64 = msg.length % 64 + input.length := by
        rw [List.length_append]
        omega
      rw [hmod, habsorbed]
      exact take_osipMD5Memcpy (by omega)

theorem take_padding {index : Nat} (h : index < 64) :
    padding.take (if index < 56 then 56 - index else 120 - index) =
      0x80 :: List.replicate ((119 - index) % 64) 0 := by
  have hlen : (if index < 56 then 56 - index else 120 - index) = (119 - index) % 64 + 1 := by
    split_ifs <;> omega
  have hle : min ((119 - index) % 64) 63 = (119 - index) % 64 := by omega
  rw [hlen, padding, List.take_succ_cons, List.take_replicate, hle]

theorem Ctx.Holds.final {context : Ctx} {msg : List UInt8} (h : context.Holds msg) :
    osipMD5Final context = md5 msg := by
  have hpadding := take_padding (Nat.mod_lt msg.length (by decide : 0 < 64))
  have hfirst : Short (0x80 :: List.replicate ((119 - msg.length % 64) % 64) 0) := by
    simp only [Short, List.length_cons, List.length_replicate]
    omega
  have hlast : Short (lengthBytes msg.length) := by
    simp [Short, lengthBytes]
  have hpadded := (h.update hfirst).update hlast
  rw [osipMD5Final, h.counts.index, osipEncode_counts h.counts]
  simp only [hpadding]
  rw [hpadded.state, md5, messagePadding, List.append_assoc]

theorem updates_hold {parts : List (List UInt8)} (hparts : ∀ part ∈ parts, Short part)
    {context : Ctx} {msg : List UInt8} (h : context.Holds msg) :
    (parts.foldl osipMD5Update context).Holds (msg ++ parts.flatten) := by
  induction parts generalizing context msg with
  | nil => rwa [List.flatten_nil, List.append_nil]
  | cons part parts ih =>
      rw [List.forall_mem_cons] at hparts
      rw [List.flatten_cons, ← List.append_assoc]
      exact ih hparts.2 (h.update hparts.1)

/-- In which parts a message comes does not matter: the digest is that of the message, whose
padded blocks are all of it. -/
theorem osipMD5_streams {parts : List (List UInt8)} (hparts : ∀ part ∈ parts, Short part)
    {buffer : List UInt8} (hbuffer : buffer.length = 64) :
    osipMD5Final (parts.foldl osipMD5Update (osipMD5Init buffer)) = md5 parts.flatten ∧
      (absorbed (parts.flatten ++ messagePadding parts.flatten.length)).2 = [] := by
  constructor
  · exact (updates_hold hparts (osipMD5Init_holds hbuffer)).final
  · apply absorb_snd_eq_nil (by decide)
    simp only [messagePadding, lengthBytes, List.length_append, List.length_cons,
      List.length_replicate, List.length_map, List.length_range]
    omega

/-- Eighty digits in two parts; the end of the first block lies in the second one. -/
theorem osipMD5_streams_digits :
    osipMD5Final ([List.replicate 60 0x31, List.replicate 20 0x32].foldl osipMD5Update
      (osipMD5Init (List.replicate 64 7))) =
      md5 (List.replicate 60 0x31 ++ List.replicate 20 0x32) := by
  have hparts : ∀ part ∈ [List.replicate 60 0x31, List.replicate 20 0x32], Short part := by
    simp [Short]
  have hbuffer : (List.replicate 64 (7 : UInt8)).length = 64 := List.length_replicate
  exact (osipMD5_streams hparts hbuffer).1

/-! ### The digests of the client -/

def bytesOf (s : Str) : List UInt8 := s.map fun c => UInt8.ofNat c.toNat

/-- One `osip_MD5Update` for each of the texts. -/
def hashParts (buffer : List UInt8) (texts : List Str) : Hash :=
  osipMD5Final ((texts.map bytesOf).foldl osipMD5Update (osipMD5Init buffer))

def md5Functions (aka : Str → Str → Option Str → Option Str → Str → Str → Nat → Str) :
    HashFunctions where
  md5 s := md5 (bytesOf s)
  digestCalcResponseAka := aka

open Digest

variable (buffer : List UInt8)

/-- `DigestCalcHA1`, update by update. -/
def digestCalcHA1Parts (alg userName realm password nonce : Str) (cNonce : Option Str) :
    Result Str :=
  let ha1 := hashParts buffer [userName, colon, realm, colon, password]
  if osipStrcasecmp alg "md5-sess".toList then do
    let cNonce ← deref cNonce
    .ok (cvtHex (hashParts buffer [rawBytes ha1, colon, nonce, colon, cNonce]))
  else .ok (cvtHex ha1)

/-- The end of `DigestCalcResponse`: what differs between its paths stands before the hash of
the second part. -/
def responseParts (ha1 nonce : Str) (between a2 : List Str) : Str :=
  cvtHex (hashParts buffer
    ([ha1, colon, nonce, colon] ++ between ++ [cvtHex (hashParts buffer a2)]))

/-- `DigestCalcResponse`, update by update. -/
def digestCalcResponseParts (ha1 nonce : Str) (nonceCount cNonce qop : Option Str) (aka : Nat)
    (method digestUri hEntity : Str) : Result Str :=
  let ha1 := hashHex ha1
  let withQop (a2 : List Str) : Result Str :=
    if aka = 0 then do
      let nonceCount ← deref nonceCount
      let cNonce ← deref cNonce
      let qop ← deref qop
      .ok (responseParts buffer ha1 nonce [nonceCount, colon, cNonce, colon, qop, colon] a2)
    else .ok (responseParts buffer ha1 nonce [] a2)
  let withoutQop : Result Str :=
    .ok (responseParts buffer ha1 nonce [] [method, colon, digestUri])
  match qop with
  | none => withoutQop
  | some qop =>
      if osipStrcasecmp qop "auth-int".toList then
        withQop [method, colon, digestUri, colon, hashHex hEntity]
      else if osipStrcasecmp qop "auth".toList then withQop [method, colon, digestUri]
      else withoutQop

/-- Each of the texts can be given to an update. -/
def ShortTexts (texts : List Str) : Prop := ∀ text ∈ texts, Short (bytesOf text)

variable {buffer}

theorem bytesOf_flatten (texts : List Str) :
    (texts.map bytesOf).flatten = bytesOf texts.flatten := by
  rw [bytesOf, List.map_flatten]
  rfl

theorem hashParts_eq (hbuffer : buffer.length = 64) {texts : List Str} (h : ShortTexts texts) :
    hashParts buffer texts = md5 (bytesOf texts.flatten) := by
  have hparts : ∀ part ∈ texts.map bytesOf, Short part := by
    intro part hpart
    obtain ⟨text, htext, rfl⟩ := List.mem_map.1 hpart
    exact h text htext
  have hfold := Ctx.Holds.final (updates_hold hparts (osipMD5Init_holds hbuffer))
  rw [hashParts, hfold, List.nil_append, bytesOf_flatten]

theorem short_colon : Short (bytesOf colon) := by decide

theorem short_cvtHex (hash : Hash) : Short (bytesOf (cvtHex hash)) := by
  have hlen : (bytesOf (cvtHex hash)).length = 32 := by
    simp [bytesOf, cvtHex, List.length_flatMap]
  rw [Short, hlen]
  decide

theorem short_rawBytes (hash : Hash) : Short (bytesOf (rawBytes hash)) := by
  have hlen : (bytesOf (rawBytes hash)).length = 16 := by
    simp [bytesOf, rawBytes]
  rw [Short, hlen]
  decide

theorem short_hashHex (text : Str) : Short (bytesOf (hashHex text)) := by
  have hlen : (bytesOf (hashHex text)).length = 32 := by
    simp [bytesOf, hashHex]
  rw [Short, hlen]
  decide

theorem responseParts_eq (aka : Str → Str → Option Str → Option Str → Str → Str → Nat → Str)
    (hbuffer : buffer.length = 64) {ha1 nonce : Str} {between a2 : List Str}
    (hha1 : Short (bytesOf ha1)) (hnonce : Short (bytesOf nonce)) (hbetween : ShortTexts between)
    (ha2 : ShortTexts a2) :
    responseParts buffer ha1 nonce between a2 =
      cvtHex ((md5Functions aka).md5 (ha1 ++ colon ++ nonce ++ colon ++ (between.flatten ++
        cvtHex ((md5Functions aka).md5 a2.flatten)))) := by
  have hall : ShortTexts
      ([ha1, colon, nonce, colon] ++ between ++ [cvtHex (hashParts buffer a2)]) := by
    intro text htext
    simp only [List.mem_append, List.mem_cons, List.not_mem_nil, or_false] at htext
    rcases htext with ((rfl | rfl | rfl | rfl) | htext) | rfl
    · exact hha1
    · exact short_colon
    · exact hnonce
    · exact short_colon
    · exact hbetween text htext
    · exact short_cvtHex _
  have hjoin (last : Str) :
      ([ha1, colon, nonce, colon] ++ between ++ [last]).flatten =
        ha1 ++ colon ++ nonce ++ colon ++ (between.flatten ++ last) := by
    simp [List.append_assoc]
  rw [responseParts, hashParts_eq hbuffer hall, hjoin, hashParts_eq hbuffer ha2]
  rfl

theorem deref_none_bind (f g : Str → Result Str) : (deref none >>= f) = (deref none >>= g) := rfl

theorem deref_some_bind (text : Str) (f : Str → Result Str) : (deref (some text) >>= f) = f text :=
  rfl

theorem digestCalcHA1Parts_eq
    (aka : Str → Str → Option Str → Option Str → Str → Str → Nat → Str) (hbuffer : buffer.length = 64)
    {alg userName realm password nonce : Str} {cNonce : Option Str}
    (hshort : ShortTexts ([userName, realm, password, nonce] ++ cNonce.toList)) :
    digestCalcHA1Parts buffer alg userName realm password nonce cNonce =
      digestCalcHA1 (md5Functions aka) alg userName realm password nonce cNonce := by
  have hmem {text : Str} (h : text ∈ [userName, realm, password, nonce] ++ cNonce.toList) :
      Short (bytesOf text) := hshort text h
  have ha1 : ShortTexts [userName, colon, realm, colon, password] := by
    simp only [ShortTexts, List.forall_mem_cons]
    exact ⟨hmem (by simp), short_colon, hmem (by simp), short_colon, hmem (by simp),
      List.forall_mem_nil _⟩
  have hsess (hash : Hash) (text : Str) (h : cNonce = some text) :
      ShortTexts [rawBytes hash, colon, nonce, colon, text] := by
    simp only [ShortTexts, List.forall_mem_cons]
    exact ⟨short_rawBytes hash, short_colon, hmem (by simp), short_colon, hmem (by simp [h]),
      List.forall_mem_nil _⟩
  have hjoin (a b c : Str) : [a, colon, b, colon, c].flatten = a ++ colon ++ b ++ colon ++ c := by
    simp [List.append_assoc]
  unfold digestCalcHA1Parts digestCalcHA1
  rw [hashParts_eq hbuffer ha1, hjoin]
  split_ifs
  · cases cNonce with
    | none => exact deref_none_bind _ _
    | some text =>
        rw [deref_some_bind, deref_some_bind, hashParts_eq hbuffer (hsess _ text rfl), hjoin]
        rfl
  · rfl

theorem digestCalcResponseParts_eq
    (aka : Str → Str → Option Str → Option Str → Str → Str → Nat → Str) (hbuffer : buffer.length = 64)
    {ha1 nonce method digestUri hEntity : Str} {nonceCount cNonce qop : Option Str} {version : Nat}
    (hshort : ShortTexts ([nonce, method, digestUri] ++ nonceCount.toList ++ cNonce.toList ++
      qop.toList)) :
    digestCalcResponseParts buffer ha1 nonce nonceCount cNonce qop version method digestUri
        hEntity =
      digestCalcResponse (md5Functions aka) ha1 nonce nonceCount cNonce qop version method
        digestUri hEntity := by
  have hmem {text : Str} (h : text ∈ [nonce, method, digestUri] ++ nonceCount.toList ++
      cNonce.toList ++ qop.toList) : Short (bytesOf text) := hshort text h
  have hnonce : Short (bytesOf nonce) := hmem (by simp)
  have hplain : ShortTexts [method, colon, digestUri] := by
    simp only [ShortTexts, List.forall_mem_cons]
    exact ⟨hmem (by simp), short_colon, hmem (by simp), List.forall_mem_nil _⟩
  have hint : ShortTexts [method, colon, digestUri, colon, hashHex hEntity] := by
    simp only [ShortTexts, List.forall_mem_cons]
    exact ⟨hmem (by simp), short_colon, hmem (by simp), short_colon, short_hashHex _,
      List.forall_mem_nil _⟩
  have hbare {a2 : List Str} (ha2 : ShortTexts a2) :
      responseParts buffer (hashHex ha1) nonce [] a2 =
        cvtHex ((md5Functions aka).md5 (hashHex ha1 ++ colon ++ nonce ++ colon ++
          cvtHex ((md5Functions aka).md5 a2.flatten))) := by
    rw [responseParts_eq aka hbuffer (short_hashHex ha1) hnonce (List.forall_mem_nil _) ha2,
      List.flatten_nil, List.nil_append]
  have hjoin : [method, colon, digestUri].flatten = method ++ colon ++ digestUri := by
    simp [List.append_assoc]
  have hjoinInt : [method, colon, digestUri, colon, hashHex hEntity].flatten =
      method ++ colon ++ digestUri ++ colon ++ hashHex hEntity := by
    simp [List.append_assoc]
  unfold digestCalcResponseParts digestCalcResponse
  cases qop with
  | none =>
      simp only
      rw [hbare hplain, hjoin]
  | some qop =>
      have hqop : Short (bytesOf qop) := hmem (by simp)
      have hfull {a2 : List Str} (ha2 : ShortTexts a2) {count text : Str}
          (hcount : nonceCount = some count) (htext : cNonce = some text) :
          responseParts buffer (hashHex ha1) nonce [count, colon, text, colon, qop, colon] a2 =
            cvtHex ((md5Functions aka).md5 (hashHex ha1 ++ colon ++ nonce ++ colon ++ count ++
              colon ++ text ++ colon ++ qop ++ colon ++
                cvtHex ((md5Functions aka).md5 a2.flatten))) := by
        have hbetween : ShortTexts [count, colon, text, colon, qop, colon] := by
          simp only [ShortTexts, List.forall_mem_cons]
          exact ⟨hmem (by simp [hcount]), short_colon, hmem (by simp [htext]), short_colon, hqop,
            short_colon, List.forall_mem_nil _⟩
        rw [responseParts_eq aka hbuffer (short_hashHex ha1) hnonce hbetween ha2]
        simp only [List.flatten_cons, List.flatten_nil, List.append_nil, List.append_assoc]
      have hwith {a2 : List Str} (ha2 : ShortTexts a2) :
          (do
            let nonceCount ← deref nonceCount
            let cNonce ← deref cNonce
            let qop ← deref (some qop)
            .ok (responseParts buffer (hashHex ha1) nonce
              [nonceCount, colon, cNonce, colon, qop, colon] a2) : Result Str) =
            (do
              let nonceCount ← deref nonceCount
              let cNonce ← deref cNonce
              let qop ← deref (some qop)
              .ok (cvtHex ((md5Functions aka).md5 (hashHex ha1 ++ colon ++ nonce ++ colon ++
                nonceCount ++ colon ++ cNonce ++ colon ++ qop ++ colon ++
                  cvtHex ((md5Functions aka).md5 a2.flatten))))) := by
        cases nonceCount with
        | none => exact deref_none_bind _ _
        | some count =>
            rw [deref_some_bind, deref_some_bind]
            cases cNonce with
            | none => exact deref_none_bind _ _
            | some text =>
                rw [deref_some_bind, deref_some_bind, deref_some_bind, deref_some_bind,
                  hfull ha2 rfl rfl]
      simp only
      split_ifs
      · rw [hwith hint, hjoinInt]
      · rw [hbare hint, hjoinInt]
      · rw [hwith hplain, hjoin]
      · rw [hbare hplain, hjoin]
      · rw [hbare hplain, hjoin]

/-- The client's digests do not depend on the updates that they are computed with: they are the
hashes of the texts joined together. -/
theorem digest_parts (aka : Str → Str → Option Str → Option Str → Str → Str → Nat → Str)
    (hbuffer : buffer.length = 64)
    {alg userName realm password nonce method digestUri hEntity : Str}
    {cNonce nonceCount qop : Option Str} {version : Nat}
    (hshort : ShortTexts ([userName, realm, password, nonce, method, digestUri] ++
      cNonce.toList ++ nonceCount.toList ++ qop.toList)) :
    (do
      let ha1 ← digestCalcHA1Parts buffer alg userName realm password nonce cNonce
      digestCalcResponseParts buffer ha1 nonce nonceCount cNonce qop version method digestUri
        hEntity) =
    (do
      let ha1 ← digestCalcHA1 (md5Functions aka) alg userName realm password nonce cNonce
      digestCalcResponse (md5Functions aka) ha1 nonce nonceCount cNonce qop version method
        digestUri hEntity) := by
  have ha1 : ShortTexts ([userName, realm, password, nonce] ++ cNonce.toList) := by
    intro text htext
    apply hshort text
    simp only [List.mem_append, List.mem_cons] at htext ⊢
    tauto
  have hresponse : ShortTexts ([nonce, method, digestUri] ++ nonceCount.toList ++
      cNonce.toList ++ qop.toList) := by
    intro text htext
    apply hshort text
    simp only [List.mem_append, List.mem_cons] at htext ⊢
    tauto
  rw [digestCalcHA1Parts_eq aka hbuffer ha1]
  apply bind_congr
  intro hash
  exact digestCalcResponseParts_eq aka hbuffer hresponse

theorem digest_parts_bob : (do
      let ha1 ← digestCalcHA1Parts (List.replicate 64 0) ['M', 'D', '5'] ['b', 'o', 'b'] ['b'] ['z']
        ['d'] none
      digestCalcResponseParts (List.replicate 64 0) ha1 ['d'] none none none 0 ['B', 'Y', 'E'] ['s']
        []) =
    (do
      let ha1 ← digestCalcHA1 (md5Functions fun _ _ _ _ _ _ _ => []) ['M', 'D', '5']
        ['b', 'o', 'b'] ['b'] ['z'] ['d'] none
      digestCalcResponse (md5Functions fun _ _ _ _ _ _ _ => []) ha1 ['d'] none none none 0
        ['B', 'Y', 'E'] ['s'] []) := by
  apply digest_parts
  · exact List.length_replicate
  · simp [ShortTexts, Short, bytesOf]

end Md5
end Exosip
