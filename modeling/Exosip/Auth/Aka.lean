import Exosip.Parser.Headers

/-! `DigestCalcResponseAka`: the response to an AKA challenge, with the accesses to the arrays
that hold the nonce, what is decoded from it and the key. -/
namespace Exosip

open CString

namespace Aka

def maxHeaderLen : Nat := 2049
def klen : Nat := 16
def randLen : Nat := 16
def autnLen : Nat := 16
def sqnLen : Nat := 6
def amfLen : Nat := 2
def macLen : Nat := 8

inductive AkaArray where
  | tmp
  | nonce
  | rnd
  | sqnHe
  | mac
  | k
  | pszPassword
  deriving DecidableEq, Repr

/-- So many bytes of an array of that size are read or written, from the first one on. -/
structure Access where
  array : AkaArray
  size : Nat
  first : Int
  count : Nat
  deriving DecidableEq, Repr

def Access.InBounds (access : Access) : Prop :=
  0 ≤ access.first ∧ access.first + access.count ≤ access.size

instance (access : Access) : Decidable access.InBounds :=
  inferInstanceAs (Decidable (_ ∧ _))

/-- An `int` where a `size_t` is expected. -/
def sizeT (n : Int) : Nat := (n % 2 ^ 64).toNat

def memcpy (dest src : AkaArray) (destSize srcSize : Nat) (from_ : Nat) (count : Nat) :
    List Access :=
  [⟨src, srcSize, from_, count⟩, ⟨dest, destSize, 0, count⟩]

/-! ### The nonce -/

def base64Val (x : Char) : Int :=
  if x = '=' then -1
  else if 'A' ≤ x ∧ x ≤ 'Z' then x.toNat - 'A'.toNat
  else if 'a' ≤ x ∧ x ≤ 'z' then x.toNat - 'a'.toNat + 26
  else if '0' ≤ x ∧ x ≤ '9' then x.toNat - '0'.toNat + 52
  else if x = '+' then 62
  else if x = '/' then 63
  else 0

/-- The three bytes of a group, of which a `char` holds eight bits. -/
def firstByte (x1 x2 : Int) : UInt8 :=
  (UInt8.ofInt x1 <<< 2) ||| ((UInt8.ofInt x2 &&& 0x30) >>> 4)

def secondByte (x2 x3 : Int) : UInt8 :=
  ((UInt8.ofInt x2 &&& 0x0F) <<< 4) ||| ((UInt8.ofInt x3 &&& 0x3C) >>> 2)

def thirdByte (x3 x4 : Int) : UInt8 :=
  ((UInt8.ofInt x3 &&& 0x03) <<< 6) ||| (UInt8.ofInt x4 &&& 0x3F)

/-- What is behind the string counts as padding. -/
def valAt (buf : Str) (i : Nat) : Int := (buf[i]?.map base64Val).getD (-1)

def lastBytes (buf : Str) : List UInt8 :=
  let x1 := base64Val (buf.head?.getD '\x00')
  let x2 := valAt buf 1
  let x3 := valAt buf 2
  let x4 := valAt buf 3
  if x2 = -1 then []
  else firstByte x1 x2 ::
    if x3 = -1 then []
    else secondByte x2 x3 :: if x4 = -1 then [] else [thirdByte x3 x4]

/-- The loop of `base64_decode_string` with `i` characters read, `j` bytes written and the rest
`buf` of the string, of which the last group may be short. -/
def base64Groups (size : Nat) : Nat → Nat → Str → List Access × List UInt8
  | i, j, x1 :: x2 :: x3 :: x4 :: x5 :: buf =>
      let rest := base64Groups size (i + 4) (j + 3) (x5 :: buf)
      (⟨.tmp, maxHeaderLen, i, 4⟩ :: ⟨.nonce, size, j, 3⟩ :: rest.1,
        firstByte (base64Val x1) (base64Val x2) :: secondByte (base64Val x2) (base64Val x3) ::
          thirdByte (base64Val x3) (base64Val x4) :: rest.2)
  | i, j, buf =>
      -- the NUL behind the bytes is written with them
      ([⟨.tmp, maxHeaderLen, i, max 1 buf.length⟩, ⟨.nonce, size, j, (lastBytes buf).length + 1⟩],
        lastBytes buf)

def decodedSize (len : Nat) : Nat := len * 3 % 2 ^ 32 / 4 + 8

def base64DecodeString (buf : Str) : List Access × List UInt8 :=
  base64Groups (decodedSize buf.length) 0 0 buf

/-- `f2345`: the response and the two keys from the key and the random number. -/
structure Milenage where
  f2345 : Vector UInt8 16 → Vector UInt8 16 → Vector UInt8 8 × Vector UInt8 16 × Vector UInt8 16

/-! ### The response -/

def hexText (bytes : List UInt8) : Str :=
  bytes.flatMap fun byte => [Nat.digitChar (byte.toNat / 16), Nat.digitChar (byte.toNat % 16)]

def nonce64 (pszNonce : Str) : Str := (cString pszNonce).take (maxHeaderLen - 2)

def split (size : Nat) : List Access :=
  memcpy .rnd .nonce randLen size 0 randLen ++ memcpy .sqnHe .nonce sqnLen size randLen sqnLen ++
    memcpy .mac .nonce macLen size (randLen + sqnLen + amfLen) macLen

def setKey (strlen : Nat) : List Access :=
  let j := toInt32 strlen
  memcpy .k .pszPassword klen (strlen + 1) 0 (sizeT j) ++ [⟨.k, klen, j, sizeT (klen - j)⟩]

/-- The key that the copy leaves, where it and the clearing stay inside of the array. -/
def keyOf (pszPassword : Str) : Option (Vector UInt8 16) :=
  let j := toInt32 pszPassword.length
  if 0 ≤ j ∧ j ≤ klen then
    some (Vector.ofFn fun n => if n < j then UInt8.ofNat ((pszPassword[n]?).getD '\x00').toNat else 0)
  else none

/-- The accesses, and the response if there is a key. -/
def digestCalcResponseAka (milenage : Milenage) (pszPassword pszNonce : Str) (version : Nat) :
    List Access × Option Str :=
  let tmp := nonce64 pszNonce
  let nonce := base64DecodeString tmp
  let decode := ⟨.tmp, maxHeaderLen, 0, tmp.length + 1⟩ ::
    ⟨.tmp, maxHeaderLen, (maxHeaderLen - 1 : Nat), 1⟩ :: nonce.1
  if nonce.2.length < randLen + autnLen then (decode, some [])
  else
    let password := cString pszPassword
    let rnd := Vector.ofFn fun n : Fin 16 => (nonce.2[n]?).getD 0
    (decode ++ split (decodedSize tmp.length) ++ setKey password.length,
      (keyOf password).map fun key =>
        let (res, ck, ik) := milenage.f2345 key rnd
        hexText res.toList ++
          if version = 2 then hexText ik.toList ++ hexText ck.toList else [])

/-- The nonce is long enough for the random number and the authentication token. -/
def AcceptedNonce (pszNonce : Str) : Prop :=
  randLen + autnLen ≤ (base64DecodeString (nonce64 pszNonce)).2.length

/-- Every access to an array stays inside of it. -/
def AllInBounds (accesses : List Access) : Prop := ∀ access ∈ accesses, access.InBounds

/-- The length of the password is one that the key has room for, as an `int`. -/
def FitsKey (pszPassword : Str) : Prop :=
  0 ≤ toInt32 (cString pszPassword).length ∧ toInt32 (cString pszPassword).length ≤ klen

theorem length_lastBytes_le (buf : Str) : (lastBytes buf).length ≤ 3 := by
  unfold lastBytes
  dsimp only
  split_ifs <;> simp

theorem allInBounds_cons {access : Access} {accesses : List Access} :
    AllInBounds (access :: accesses) ↔ access.InBounds ∧ AllInBounds accesses := by
  simp [AllInBounds]

@[simp] theorem allInBounds_nil : AllInBounds [] := by
  intro access haccess
  cases haccess

theorem inBounds_natCast {array : AkaArray} {size first count : Nat} :
    Access.InBounds ⟨array, size, first, count⟩ ↔ first + count ≤ size := by
  show 0 ≤ (first : Int) ∧ (first : Int) + count ≤ size ↔ _
  omega

theorem allInBounds_append {l₁ l₂ : List Access} :
    AllInBounds (l₁ ++ l₂) ↔ AllInBounds l₁ ∧ AllInBounds l₂ := by
  simp only [AllInBounds, List.forall_mem_append]

theorem base64Groups_inBounds {size i j : Nat} {buf : Str} (hbuf : i + buf.length < maxHeaderLen)
    (hj : 4 * j ≤ 3 * i) (hsize : (i + buf.length) * 3 / 4 + 8 ≤ size) :
    AllInBounds (base64Groups size i j buf).1 := by
  have hmax : maxHeaderLen = 2049 := rfl
  induction i, j, buf using base64Groups.induct size with
  | case1 i j x1 x2 x3 x4 x5 buf ih =>
      simp only [List.length_cons] at hbuf hsize ih
      rw [base64Groups, allInBounds_cons, allInBounds_cons, inBounds_natCast, inBounds_natCast]
      refine ⟨?_, ?_, ih ?_ ?_ ?_⟩
      all_goals omega
  | case2 i j buf hshort =>
      have hlast := length_lastBytes_le buf
      rw [base64Groups, allInBounds_cons, allInBounds_cons, inBounds_natCast, inBounds_natCast]
      · refine ⟨?_, ?_, allInBounds_nil⟩
        all_goals omega
      · exact hshort

theorem length_base64Groups {size i j : Nat} {buf : Str} (hj : 4 * j ≤ 3 * i)
    (hsize : (i + buf.length) * 3 / 4 + 8 ≤ size) :
    j + (base64Groups size i j buf).2.length ≤ size := by
  induction i, j, buf using base64Groups.induct size with
  | case1 i j x1 x2 x3 x4 x5 buf ih =>
      simp only [List.length_cons] at hsize ih
      rw [base64Groups]
      have hrest := ih (by omega) (by omega)
      simp only [List.length_cons]
      omega
  | case2 i j buf hshort =>
      have hlast := length_lastBytes_le buf
      rw [base64Groups]
      · dsimp only
        omega
      · exact hshort

theorem length_base64DecodeString {buf : Str} (h : buf.length < maxHeaderLen) :
    (base64DecodeString buf).2.length ≤ decodedSize buf.length := by
  have hmax : maxHeaderLen = 2049 := rfl
  have hlen := @length_base64Groups (decodedSize buf.length) 0 0 buf (by omega) (by
    rw [decodedSize]
    omega)
  rw [base64DecodeString]
  omega

theorem base64DecodeString_inBounds {buf : Str} (h : buf.length < maxHeaderLen) :
    AllInBounds (base64DecodeString buf).1 := by
  have hmax : maxHeaderLen = 2049 := rfl
  refine base64Groups_inBounds (by omega) (by omega) ?_
  rw [decodedSize]
  omega

theorem length_nonce64 (pszNonce : Str) : (nonce64 pszNonce).length + 1 < maxHeaderLen := by
  have hmax : maxHeaderLen = 2049 := rfl
  rw [nonce64, List.length_take]
  omega

theorem memcpy_inBounds_iff {dest src : AkaArray} {destSize srcSize first count : Nat} :
    AllInBounds (memcpy dest src destSize srcSize first count) ↔
      first + count ≤ srcSize ∧ count ≤ destSize := by
  rw [memcpy, allInBounds_cons, allInBounds_cons, inBounds_natCast]
  show _ ∧ (0 ≤ (0 : Int) ∧ (0 : Int) + count ≤ destSize) ∧ _ ↔ _
  have hnil := allInBounds_nil
  constructor
  · intro h
    omega
  · intro h
    exact ⟨h.1, ⟨Int.le_refl 0, by omega⟩, hnil⟩

theorem split_inBounds {size : Nat} (h : randLen + autnLen ≤ size) : AllInBounds (split size) := by
  have hsizes : randLen = 16 ∧ autnLen = 16 ∧ sqnLen = 6 ∧ amfLen = 2 ∧ macLen = 8 :=
    ⟨rfl, rfl, rfl, rfl, rfl⟩
  rw [split, allInBounds_append, allInBounds_append, memcpy_inBounds_iff, memcpy_inBounds_iff,
    memcpy_inBounds_iff]
  omega

theorem sizeT_of_nonneg {n : Int} (h : 0 ≤ n) (hlt : n < 2147483648) : (sizeT n : Int) = n := by
  rw [sizeT, Int.emod_eq_of_lt h (by omega), Int.toNat_of_nonneg h]

theorem sizeT_of_neg {n : Int} (h : n < 0) (hge : -2147483648 ≤ n) : 2147483648 ≤ sizeT n := by
  have hmod : n % 2 ^ 64 = n + 2 ^ 64 := by
    rw [← Int.add_emod_right, Int.emod_eq_of_lt (by omega) (by omega)]
  rw [sizeT, hmod]
  omega

theorem setKey_inBounds_iff (strlen : Nat) :
    AllInBounds (setKey strlen) ↔ 0 ≤ toInt32 strlen ∧ toInt32 strlen ≤ klen := by
  have hklen : klen = 16 := rfl
  have hrange : -2147483648 ≤ toInt32 strlen ∧ toInt32 strlen < 2147483648 ∧
      toInt32 strlen ≤ strlen := by
    rw [toInt32, Int.bmod_def]
    split <;> omega
  rw [setKey, allInBounds_append, memcpy_inBounds_iff, allInBounds_cons]
  generalize toInt32 strlen = j at hrange ⊢
  constructor
  · intro h
    have hcopy := h.1.2
    by_cases hneg : j < 0
    · have hsize := sizeT_of_neg hneg hrange.1
      omega
    · have hsize := sizeT_of_nonneg (n := j) (by omega) hrange.2.1
      omega
  · intro h
    have hcopied := sizeT_of_nonneg h.1 hrange.2.1
    have hcleared := sizeT_of_nonneg (n := klen - j) (by omega) (by omega)
    refine ⟨by omega, ⟨h.1, ?_⟩, allInBounds_nil⟩
    show j + (sizeT (klen - j) : Nat) ≤ klen
    omega

/-- The accesses stay inside of the arrays, for every password and every nonce that is accepted,
exactly when the key has room for the password. -/
theorem akaInBounds_iff (milenage : Milenage) (pszPassword pszNonce : Str) (version : Nat) :
    AllInBounds (digestCalcResponseAka milenage pszPassword pszNonce version).1 ↔
      (AcceptedNonce pszNonce → FitsKey pszPassword) := by
  have hmax : maxHeaderLen = 2049 := rfl
  have htmp := length_nonce64 pszNonce
  have hdecode : AllInBounds (⟨.tmp, maxHeaderLen, 0, (nonce64 pszNonce).length + 1⟩ ::
      ⟨.tmp, maxHeaderLen, (maxHeaderLen - 1 : Nat), 1⟩ ::
        (base64DecodeString (nonce64 pszNonce)).1) := by
    rw [allInBounds_cons, allInBounds_cons, inBounds_natCast]
    refine ⟨?_, by omega, base64DecodeString_inBounds (by omega)⟩
    show 0 ≤ (0 : Int) ∧ (0 : Int) + ((nonce64 pszNonce).length + 1 : Nat) ≤ maxHeaderLen
    omega
  unfold digestCalcResponseAka AcceptedNonce
  dsimp only
  split
  · next hshort => simp only [hdecode, not_le.2 hshort, false_implies]
  · next haccepted =>
      rw [not_lt] at haccepted
      have hsplit := split_inBounds (haccepted.trans (length_base64DecodeString (by omega)))
      rw [allInBounds_append, allInBounds_append, setKey_inBounds_iff]
      simp only [hdecode, hsplit, haccepted, FitsKey, true_and, forall_const]

/-- The nonce of zeros that decodes to 33 bytes is accepted, and a password of 17 characters is
copied into the key. -/
theorem not_akaInBounds : ¬ ∀ (milenage : Milenage) (pszPassword pszNonce : Str) (version : Nat),
    AcceptedNonce pszNonce →
      AllInBounds (digestCalcResponseAka milenage pszPassword pszNonce version).1 := by
  intro h
  let milenage : Milenage := ⟨fun _ _ => (.replicate 8 0, .replicate 16 0, .replicate 16 0)⟩
  have hnonce : AcceptedNonce (List.replicate 44 'A') := by
    unfold AcceptedNonce
    decide +kernel
  have hkey := h milenage (List.replicate 17 'x') (List.replicate 44 'A') 1 hnonce
    ⟨.k, klen, 0, 17⟩ (by decide +kernel)
  exact absurd hkey (by decide)

end Aka
end Exosip
