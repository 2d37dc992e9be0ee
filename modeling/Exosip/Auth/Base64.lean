import Exosip.Auth.Aka

/-! Padded base64, and what `base64_decode_string` makes of it. -/
namespace Exosip
namespace Aka

open CString

def alphabet : List Char :=
  "ABCDEFGHIJKLMNOPQRSTUVWXYZabcdefghijklmnopqrstuvwxyz0123456789+/".toList

def base64Char (n : Nat) : Char := alphabet.getD n '='

/-- The padded standard encoding. -/
def base64 : List UInt8 → Str
  | [] => []
  | [a] => [base64Char (a.toNat / 4), base64Char (a.toNat % 4 * 16), '=', '=']
  | [a, b] =>
      [base64Char (a.toNat / 4), base64Char (a.toNat % 4 * 16 + b.toNat / 16),
        base64Char (b.toNat % 16 * 4), '=']
  | a :: b :: c :: bytes =>
      base64Char (a.toNat / 4) :: base64Char (a.toNat % 4 * 16 + b.toNat / 16) ::
        base64Char (b.toNat % 16 * 4 + c.toNat / 64) :: base64Char (c.toNat % 64) :: base64 bytes

/-- The decoder is told the length as an `unsigned int`. -/
def decodeEncoded (bytes : List UInt8) : List Access × List UInt8 :=
  base64DecodeString ((base64 bytes).take ((base64 bytes).length % 2 ^ 32))

/-- The bytes come back, and nothing is written behind the allocation. -/
structure DecodesBack (bytes : List UInt8) : Prop where
  decoded : (decodeEncoded bytes).2 = bytes
  inBounds : ∀ access ∈ (decodeEncoded bytes).1, access.array = .nonce → access.InBounds

/-! ### Six bits to a character -/

theorem base64Val_base64Char {n : Nat} (h : n < 64) : base64Val (base64Char n) = n := by
  have hall : ∀ n : Fin 64, base64Val (base64Char n) = n.val := by decide +kernel
  exact hall ⟨n, h⟩

theorem toNat_ofInt {n : Nat} (h : n < 64) : (UInt8.ofInt n).toNat = n := by
  simp [UInt8.ofInt]
  omega

theorem firstByte_toNat {x1 x2 : Nat} (h1 : x1 < 64) (h2 : x2 < 64) :
    (firstByte x1 x2).toNat = x1 * 4 + x2 / 16 := by
  have hmask : (x2 &&& 48) >>> 4 = x2 / 16 := by
    rw [Nat.shiftRight_and_distrib, Nat.shiftRight_eq_div_pow]
    change x2 / 16 &&& 2 ^ 2 - 1 = _
    rw [Nat.and_two_pow_sub_one_eq_mod, Nat.mod_eq_of_lt (by omega)]
  rw [firstByte, UInt8.toNat_or, UInt8.toNat_shiftLeft, UInt8.toNat_shiftRight, UInt8.toNat_and,
    toNat_ofInt h1, toNat_ofInt h2]
  change x1 <<< 2 % 256 ||| (x2 &&& 48) >>> 4 = _
  rw [hmask, Nat.mod_eq_of_lt (by rw [Nat.shiftLeft_eq]; omega),
    ← Nat.shiftLeft_add_eq_or_of_lt (by omega), Nat.shiftLeft_eq]

theorem secondByte_toNat {x2 x3 : Nat} (h2 : x2 < 64) (h3 : x3 < 64) :
    (secondByte x2 x3).toNat = x2 % 16 * 16 + x3 / 4 := by
  have hlow : x2 &&& 15 = x2 % 16 := Nat.and_two_pow_sub_one_eq_mod x2 4
  have hmask : (x3 &&& 60) >>> 2 = x3 / 4 := by
    rw [Nat.shiftRight_and_distrib, Nat.shiftRight_eq_div_pow]
    change x3 / 4 &&& 2 ^ 4 - 1 = _
    rw [Nat.and_two_pow_sub_one_eq_mod, Nat.mod_eq_of_lt (by omega)]
  rw [secondByte, UInt8.toNat_or, UInt8.toNat_shiftLeft, UInt8.toNat_shiftRight, UInt8.toNat_and,
    UInt8.toNat_and, toNat_ofInt h2, toNat_ofInt h3]
  change (x2 &&& 15) <<< 4 % 256 ||| (x3 &&& 60) >>> 2 = _
  rw [hlow, hmask, Nat.mod_eq_of_lt (by rw [Nat.shiftLeft_eq]; omega),
    ← Nat.shiftLeft_add_eq_or_of_lt (by omega), Nat.shiftLeft_eq]

theorem thirdByte_toNat {x3 x4 : Nat} (h3 : x3 < 64) (h4 : x4 < 64) :
    (thirdByte x3 x4).toNat = x3 % 4 * 64 + x4 := by
  have hlow : x3 &&& 3 = x3 % 4 := Nat.and_two_pow_sub_one_eq_mod x3 2
  have hmask : x4 &&& 63 = x4 := by
    rw [show (63 : Nat) = 2 ^ 6 - 1 from rfl, Nat.and_two_pow_sub_one_eq_mod, Nat.mod_eq_of_lt h4]
  rw [thirdByte, UInt8.toNat_or, UInt8.toNat_shiftLeft, UInt8.toNat_and, UInt8.toNat_and,
    toNat_ofInt h3, toNat_ofInt h4]
  change (x3 &&& 3) <<< 6 % 256 ||| x4 &&& 63 = _
  rw [hlow, hmask, Nat.mod_eq_of_lt (by rw [Nat.shiftLeft_eq]; omega),
    ← Nat.shiftLeft_add_eq_or_of_lt (by omega), Nat.shiftLeft_eq]

/-! ### The groups -/

section Group

variable (a b c : UInt8)

theorem firstByte_group (low : Nat) (hlow : low < 16) :
    firstByte (base64Val (base64Char (a.toNat / 4)))
      (base64Val (base64Char (a.toNat % 4 * 16 + low))) = a := by
  have ha := a.toNat_lt
  rw [base64Val_base64Char (by omega), base64Val_base64Char (by omega), ← UInt8.toNat_inj,
    firstByte_toNat (by omega) (by omega)]
  omega

theorem secondByte_group (high low : Nat) (hhigh : high < 4) (hlow : low < 4) :
    secondByte (base64Val (base64Char (high * 16 + b.toNat / 16)))
      (base64Val (base64Char (b.toNat % 16 * 4 + low))) = b := by
  have hb := b.toNat_lt
  rw [base64Val_base64Char (by omega), base64Val_base64Char (by omega), ← UInt8.toNat_inj,
    secondByte_toNat (by omega) (by omega)]
  omega

theorem thirdByte_group (high : Nat) (hhigh : high < 16) :
    thirdByte (base64Val (base64Char (high * 4 + c.toNat / 64)))
      (base64Val (base64Char (c.toNat % 64))) = c := by
  have hc := c.toNat_lt
  rw [base64Val_base64Char (by omega), base64Val_base64Char (by omega), ← UInt8.toNat_inj,
    thirdByte_toNat (by omega) (by omega)]
  omega

theorem base64Val_ne {n : Nat} (h : n < 64) : base64Val (base64Char n) ≠ -1 := by
  rw [base64Val_base64Char h]
  omega

theorem lastBytes_group (c1 c2 c3 c4 : Char) : lastBytes [c1, c2, c3, c4] =
    if base64Val c2 = -1 then []
    else firstByte (base64Val c1) (base64Val c2) ::
      if base64Val c3 = -1 then []
      else secondByte (base64Val c2) (base64Val c3) ::
        if base64Val c4 = -1 then [] else [thirdByte (base64Val c3) (base64Val c4)] :=
  rfl

theorem base64Val_padding : base64Val '=' = -1 := rfl

theorem lastBytes_one : lastBytes (base64 [a]) = [a] := by
  have ha := a.toNat_lt
  rw [base64, lastBytes_group, if_neg (base64Val_ne (by omega)),
    if_pos base64Val_padding]
  exact congrArg (· :: []) (firstByte_group a 0 (by omega))

theorem lastBytes_two : lastBytes (base64 [a, b]) = [a, b] := by
  have ha := a.toNat_lt
  have hb := b.toNat_lt
  rw [base64, lastBytes_group, if_neg (base64Val_ne (by omega)), if_neg (base64Val_ne (by omega)),
    if_pos base64Val_padding, firstByte_group a _ (by omega)]
  exact congrArg (a :: · :: []) (secondByte_group b _ 0 (by omega) (by omega))

theorem lastBytes_three : lastBytes (base64 [a, b, c]) = [a, b, c] := by
  have ha := a.toNat_lt
  have hb := b.toNat_lt
  have hc := c.toNat_lt
  rw [base64, base64, lastBytes_group, if_neg (base64Val_ne (by omega)),
    if_neg (base64Val_ne (by omega)), if_neg (base64Val_ne (by omega)),
    firstByte_group a _ (by omega), secondByte_group b _ _ (by omega) (by omega),
    thirdByte_group c _ (by omega)]

end Group

theorem length_base64 (bytes : List UInt8) :
    (base64 bytes).length = 4 * ((bytes.length + 2) / 3) := by
  fun_induction base64 bytes with
  | case1 => rfl
  | case2 a => simp
  | case3 a b => simp
  | case4 a b c bytes ih =>
      simp only [List.length_cons, ih]
      omega

theorem base64Groups_base64 (size i j : Nat) (bytes : List UInt8) :
    (base64Groups size i j (base64 bytes)).2 = bytes := by
  fun_induction base64 bytes generalizing i j with
  | case1 => rfl
  | case2 a => exact lastBytes_one a
  | case3 a b => exact lastBytes_two a b
  | case4 a b c bytes ih =>
      have ha := a.toNat_lt
      have hb := b.toNat_lt
      have hc := c.toNat_lt
      cases hrest : base64 bytes with
      | nil =>
          obtain rfl : bytes = [] := by
            have hlength := length_base64 bytes
            rw [hrest, List.length_nil] at hlength
            exact List.length_eq_zero_iff.1 (by omega)
          exact lastBytes_three a b c
      | cons x5 buf =>
          rw [hrest] at ih
          rw [base64Groups]
          dsimp only
          rw [ih, firstByte_group a _ (by omega), secondByte_group b _ _ (by omega) (by omega),
            thirdByte_group c _ (by omega)]

/-! ### The allocation -/

theorem base64Groups_inBounds_iff (size i j : Nat) (buf : Str) :
    (∀ access ∈ (base64Groups size i j buf).1, access.array = .nonce → access.InBounds) ↔
      j + (base64Groups size i j buf).2.length + 1 ≤ size := by
  induction i, j, buf using base64Groups.induct size with
  | case1 i j x1 x2 x3 x4 x5 buf ih =>
      rw [base64Groups]
      dsimp only
      rw [List.forall_mem_cons, List.forall_mem_cons, ih, List.length_cons, List.length_cons,
        List.length_cons]
      simp only [reduceCtorEq, inBounds_natCast, false_implies, true_and, forall_const]
      omega
  | case2 i j buf hshort =>
      rw [base64Groups]
      · dsimp only
        rw [List.forall_mem_cons, List.forall_mem_singleton]
        simp only [reduceCtorEq, inBounds_natCast, false_implies, true_and, forall_const,
          Nat.add_assoc]
      · exact hshort

theorem length_lastBytes_lt (buf : Str) : 4 * (lastBytes buf).length ≤ 3 * buf.length := by
  match buf with
  | [] => decide
  | [c1] => simp [lastBytes, valAt]
  | [c1, c2] =>
      have h : lastBytes [c1, c2] = if base64Val c2 = -1 then [] else
        [firstByte (base64Val c1) (base64Val c2)] := rfl
      rw [h]
      split_ifs <;> simp
  | [c1, c2, c3] =>
      have h : lastBytes [c1, c2, c3] = if base64Val c2 = -1 then [] else
        firstByte (base64Val c1) (base64Val c2) :: if base64Val c3 = -1 then [] else
          [secondByte (base64Val c2) (base64Val c3)] := rfl
      rw [h]
      split_ifs <;> simp
  | c1 :: c2 :: c3 :: c4 :: buf =>
      have hle := length_lastBytes_le (c1 :: c2 :: c3 :: c4 :: buf)
      simp only [List.length_cons]
      omega

theorem length_base64Groups_le (size i j : Nat) (buf : Str) :
    4 * (base64Groups size i j buf).2.length ≤ 3 * buf.length := by
  induction i, j, buf using base64Groups.induct size with
  | case1 i j x1 x2 x3 x4 x5 buf ih =>
      rw [base64Groups]
      simp only [List.length_cons] at ih ⊢
      omega
  | case2 i j buf hshort =>
      rw [base64Groups]
      · exact length_lastBytes_lt buf
      · exact hshort

theorem decodesBack_iff_size {bytes : List UInt8} (hlength : (base64 bytes).length < 2 ^ 32) :
    DecodesBack bytes ↔ bytes.length + 1 ≤ decodedSize (base64 bytes).length := by
  have hwhole : decodeEncoded bytes = base64DecodeString (base64 bytes) := by
    rw [decodeEncoded, Nat.mod_eq_of_lt hlength, List.take_length]
  have hbytes := base64Groups_base64 (decodedSize (base64 bytes).length) 0 0 bytes
  have hbounds := base64Groups_inBounds_iff (decodedSize (base64 bytes).length) 0 0 (base64 bytes)
  rw [hbytes, Nat.zero_add] at hbounds
  refine ⟨fun h => hbounds.1 ?_, fun h => ⟨?_, ?_⟩⟩
  · have hinBounds := h.inBounds
    rwa [hwhole] at hinBounds
  · rw [hwhole]
    exact hbytes
  · rw [hwhole]
    exact hbounds.2 h

/-- The decoder gives back what was encoded exactly as long as the size of its allocation does
not wrap around. -/
theorem decodesBack_iff (bytes : List UInt8) :
    DecodesBack bytes ↔ 3 * (base64 bytes).length < 2 ^ 32 := by
  have hencoded := length_base64 bytes
  by_cases hlength : (base64 bytes).length < 2 ^ 32
  · rw [decodesBack_iff_size hlength, decodedSize]
    omega
  · refine iff_of_false (fun h => ?_) (by omega)
    -- the length that the decoder is told is too short for the bytes
    have hle : 4 * (decodeEncoded bytes).2.length ≤ _ := length_base64Groups_le _ 0 0 _
    rw [h.decoded, List.length_take] at hle
    omega

/-- Three times the length of the encoding is an `unsigned int`, as it is for the nonces that the
caller cuts to 2047 characters. -/
theorem base64_roundTrip {bytes : List UInt8} (hlength : 3 * (base64 bytes).length < 2 ^ 32) :
    DecodesBack bytes :=
  (decodesBack_iff bytes).2 hlength

/-- A padding of two characters, of one and of none. -/
theorem base64_roundTrip_paddings :
    DecodesBack [255] ∧ DecodesBack [0, 128] ∧ DecodesBack [104, 105, 0, 62, 7, 255] :=
  ⟨base64_roundTrip (by decide), base64_roundTrip (by decide), base64_roundTrip (by decide)⟩

end Aka
end Exosip
