import Exosip.Auth.Aka
import Exosip.Auth.Cipher
import Exosip.Auth.NonceCount

/-! Milenage over Rijndael, and what the response of a challenge gives away about its random
number. -/
namespace Exosip
namespace Aka
open Rijndael

def xorBlocks (a b : Block) : Block := Vector.ofFn fun n => a[n] ^^^ b[n]

/-- `OP`, of which no value was inserted. -/
def op : Block := Vector.replicate 16 0

/-- `ComputeOPc` under the key of the encryption. -/
def computeOPc (encrypt : Block → Block) : Block := xorBlocks (encrypt op) op

/-- The byte `i` goes to the place `(i + shift) % 16`. -/
def rotate (shift : Fin 16) (b : Block) : Block := Vector.ofFn fun n => b[n - shift]

/-- The last byte is changed by the constant. -/
def flip (c : U8) (b : Block) : Block := Vector.ofFn fun n => if n = 15 then b[n] ^^^ c else b[n]

/-- What the functions share: the random number encrypted. -/
def tempOf (encrypt : Block → Block) (rand : Block) : Block :=
  encrypt (xorBlocks rand (computeOPc encrypt))

/-- `out` with the rotation and the constant of the key that is computed. -/
def outOf (encrypt : Block → Block) (shift : Fin 16) (c : U8) (rand : Block) : Block :=
  let opC := computeOPc encrypt
  xorBlocks (encrypt (flip c (rotate shift (xorBlocks (tempOf encrypt rand) opC)))) opC

/-- `f2345`: the response, the two keys and the anonymity key. -/
def f2345 (k rand : Block) : Vector U8 8 × Block × Block × Vector U8 6 :=
  let encrypt := rijndaelEncrypt (rijndaelKeySchedule k)
  let out2 := outOf encrypt 0 1 rand
  (Vector.ofFn fun n => out2[n.val + 8], outOf encrypt 12 2 rand, outOf encrypt 8 4 rand,
    Vector.ofFn fun n => out2[n.val])

/-! ### The arrays of bytes -/

def blockOfBytes (v : Vector UInt8 16) : Block := v.map UInt8.toBitVec

def bytesOf {n : Nat} (b : Vector U8 n) : Vector UInt8 n := b.map UInt8.ofBitVec

/-- The functions that the response is computed with. -/
def milenage : Milenage where
  f2345 k rnd :=
    let (res, ck, ik, _) := f2345 (blockOfBytes k) (blockOfBytes rnd)
    (bytesOf res, bytesOf ck, bytesOf ik)

theorem blockOfBytes_injective : Function.Injective blockOfBytes := by
  intro v w h
  apply Vector.ext
  intro i hi
  have hbyte := congrArg (fun b : Block => b[i]) h
  simp only [blockOfBytes, Vector.getElem_map] at hbyte
  exact UInt8.toBitVec_inj.mp hbyte

theorem bytesOf_injective {n : Nat} : Function.Injective (bytesOf (n := n)) := by
  intro a b h
  apply Vector.ext
  intro i hi
  have hbyte := congrArg (fun v => v[i]) h
  simpa [bytesOf] using hbyte

/-! ### Nothing of the random number is lost -/

theorem xorBlocks_injective (b : Block) : Function.Injective fun a => xorBlocks a b := by
  intro a a' h
  apply Vector.ext
  intro n hn
  have hbyte := congrArg (fun v : Block => v[n]) h
  simp only [xorBlocks, Vector.getElem_ofFn] at hbyte
  exact (BitVec.xor_left_inj b[n]).mp hbyte

theorem rotate_injective (shift : Fin 16) : Function.Injective (rotate shift) := by
  intro a b h
  apply Vector.ext
  intro n hn
  have hbyte := congrArg (fun v : Block => v[(⟨n, hn⟩ + shift : Fin 16)]) h
  simp only [rotate, Fin.getElem_fin, Vector.getElem_ofFn, Fin.eta, add_sub_cancel_right] at hbyte
  exact hbyte

theorem flip_injective (c : U8) : Function.Injective (flip c) := by
  intro a b h
  apply Vector.ext
  intro n hn
  have hbyte := congrArg (fun v : Block => v[n]) h
  simp only [flip, Vector.getElem_ofFn] at hbyte
  split at hbyte
  · exact (BitVec.xor_left_inj c).mp hbyte
  · exact hbyte

theorem outOf_injective {encrypt : Block → Block} (hencrypt : Function.Injective encrypt)
    (shift : Fin 16) (c : U8) : Function.Injective (outOf encrypt shift c) := by
  have htemp : Function.Injective (tempOf encrypt) :=
    hencrypt.comp (xorBlocks_injective (computeOPc encrypt))
  exact (xorBlocks_injective _).comp (hencrypt.comp ((flip_injective c).comp
    ((rotate_injective shift).comp ((xorBlocks_injective _).comp htemp))))

theorem ck_injective (k : Block) : Function.Injective fun rand => (f2345 k rand).2.1 :=
  outOf_injective (encrypt_injective k) 12 2

/-! ### The text of the response -/

theorem hexText_cons (byte : UInt8) (bytes : List UInt8) : hexText (byte :: bytes) =
    Nat.digitChar (byte.toNat / 16) :: Nat.digitChar (byte.toNat % 16) :: hexText bytes := rfl

theorem length_hexText (bytes : List UInt8) : (hexText bytes).length = 2 * bytes.length := by
  induction bytes with
  | nil => rfl
  | cons byte bytes ih =>
      rw [hexText_cons, List.length_cons, List.length_cons, ih, List.length_cons]
      omega

theorem digitChar_injective {m n : Nat} (hm : m < 16) (hn : n < 16)
    (h : Nat.digitChar m = Nat.digitChar n) : m = n := by
  have hdigit := congrArg hexDigit? h
  rw [hexDigit?_digitChar ⟨m, hm⟩, hexDigit?_digitChar ⟨n, hn⟩] at hdigit
  exact Option.some.inj hdigit

theorem hexText_injective : Function.Injective hexText := by
  intro bytes
  induction bytes with
  | nil =>
      intro bytes' h
      cases bytes' with
      | nil => rfl
      | cons byte' bytes' => exact absurd h (by simp [hexText])
  | cons byte bytes ih =>
      intro bytes' h
      cases bytes' with
      | nil => exact absurd h (by simp [hexText])
      | cons byte' bytes' =>
          rw [hexText_cons, hexText_cons] at h
          obtain ⟨hhigh, h⟩ := List.cons.inj h
          obtain ⟨hlow, hrest⟩ := List.cons.inj h
          have hlt := byte.toNat_lt
          have hlt' := byte'.toNat_lt
          have hdiv := digitChar_injective (by omega) (by omega) hhigh
          have hmod := digitChar_injective (by omega) (by omega) hlow
          have hbyte : byte = byte' := UInt8.toNat_inj.mp (by omega)
          rw [hbyte, ih hrest]

/-- The random number of the challenge. -/
def randOf (pszNonce : Str) : List UInt8 :=
  (base64DecodeString (nonce64 pszNonce)).2.take randLen

/-- The random number as it is copied. -/
def rndOf (pszNonce : Str) : Vector UInt8 16 :=
  Vector.ofFn fun n : Fin 16 => ((base64DecodeString (nonce64 pszNonce)).2[n]?).getD 0

theorem toList_rndOf {pszNonce : Str} (h : AcceptedNonce pszNonce) :
    (rndOf pszNonce).toList = randOf pszNonce := by
  have hlength : randLen + autnLen ≤ (base64DecodeString (nonce64 pszNonce)).2.length := h
  have hrand : randLen = 16 := rfl
  apply List.ext_getElem
  · simp [randOf]
    omega
  · intro i hi hi'
    have hlt : i < (base64DecodeString (nonce64 pszNonce)).2.length := by
      rw [randOf, List.length_take] at hi'
      omega
    simp [rndOf, randOf, List.getElem?_eq_getElem hlt]

theorem exists_keyOf {pszPassword : Str} (h : FitsKey pszPassword) :
    ∃ key, keyOf (cString pszPassword) = some key := by
  unfold FitsKey at h
  unfold keyOf
  dsimp only
  rw [if_pos h]
  exact ⟨_, rfl⟩

theorem response_eq {pszPassword pszNonce : Str} {key : Vector UInt8 16}
    (hkey : keyOf (cString pszPassword) = some key) (h : AcceptedNonce pszNonce) :
    (digestCalcResponseAka milenage pszPassword pszNonce 2).2 =
      some (hexText (bytesOf (f2345 (blockOfBytes key) (blockOfBytes (rndOf pszNonce))).1).toList ++
      (hexText (bytesOf (f2345 (blockOfBytes key)
        (blockOfBytes (rndOf pszNonce))).2.2.1).toList ++
      hexText (bytesOf (f2345 (blockOfBytes key)
        (blockOfBytes (rndOf pszNonce))).2.1).toList)) := by
  unfold digestCalcResponseAka
  rw [if_neg (not_lt.mpr h)]
  dsimp only
  rw [hkey]
  rfl

/-- The response of the second version is a password that is used once: under one key two
challenges have the same response exactly when they have the same random number. -/
theorem aka_response_iff {pszPassword pszNonce pszNonce' : Str} (hpassword : FitsKey pszPassword)
    (h : AcceptedNonce pszNonce) (h' : AcceptedNonce pszNonce') :
    (digestCalcResponseAka milenage pszPassword pszNonce 2).2.isSome = true ∧
      ((digestCalcResponseAka milenage pszPassword pszNonce 2).2 =
        (digestCalcResponseAka milenage pszPassword pszNonce' 2).2 ↔
        randOf pszNonce = randOf pszNonce') := by
  obtain ⟨key, hkey⟩ := exists_keyOf hpassword
  rw [response_eq hkey h, response_eq hkey h', ← toList_rndOf h, ← toList_rndOf h',
    Option.some.injEq]
  refine ⟨rfl, ?_, ?_⟩
  · intro hresponse
    have hlength (v w : Vector UInt8 8) :
        (hexText v.toList).length = (hexText w.toList).length := by
      rw [length_hexText, length_hexText, Vector.length_toList, Vector.length_toList]
    have hlength' (v w : Vector UInt8 16) :
        (hexText v.toList).length = (hexText w.toList).length := by
      rw [length_hexText, length_hexText, Vector.length_toList, Vector.length_toList]
    have hkeys := (List.append_inj hresponse (hlength _ _)).2
    have hck := hexText_injective (List.append_inj hkeys (hlength' _ _)).2
    have hblock := ck_injective _ (bytesOf_injective (Vector.toList_inj.mp hck))
    rw [blockOfBytes_injective hblock]
  · intro hrand
    rw [Vector.toList_inj.mp hrand]

theorem aka_response_iff_zeros :
    (digestCalcResponseAka milenage "secret".toList (List.replicate 44 'A') 2).2 ≠
      (digestCalcResponseAka milenage "secret".toList ('Q' :: List.replicate 43 'A') 2).2 := by
  have hzeros : AcceptedNonce (List.replicate 44 'A') := by
    unfold AcceptedNonce
    decide +kernel
  have hone : AcceptedNonce ('Q' :: List.replicate 43 'A') := by
    unfold AcceptedNonce
    decide +kernel
  have hpassword : FitsKey "secret".toList := ⟨by decide, by decide⟩
  intro hresponse
  exact absurd ((aka_response_iff hpassword hzeros hone).2.mp hresponse) (by decide +kernel)

end Aka
end Exosip
