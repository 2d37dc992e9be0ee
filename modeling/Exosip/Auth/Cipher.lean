import Exosip.Auth.Rijndael
import Mathlib.Tactic.FinCases
import Mathlib.Data.List.OfFn
import Mathlib.Data.Fintype.Fin
import Mathlib.Data.ZMod.Defs
import Mathlib.Data.Fintype.EquivFin
import Mathlib.Data.Finite.Prod

/-! The rounds by table lookup are the rounds of the cipher on bytes. -/
namespace Exosip
namespace Rijndael

/-! ### The rounds -/

theorem bytes_addKey (x k : Words) : bytes (addKey x k) = addRoundKey (bytes x) (bytes k) := by
  funext c r
  rw [bytes, addKey, Fin.getElem_fin, Vector.getElem_ofFn, byte_xor]
  rfl

theorem byte_lookups (tab : Fin 4 → U8 → U32) (x0 x1 x2 x3 : U32) (r : Nat) :
    byte r (lookups tab x0 x1 x2 x3) = byte r (tab 0 (byte 0 x0)) ^^^ byte r (tab 1 (byte 1 x1)) ^^^
      byte r (tab 2 (byte 2 x2)) ^^^ byte r (tab 3 (byte 3 x3)) := by
  rw [lookups, byte_xor, byte_xor, byte_xor]

theorem xor_left_comm (a b c : U8) : a ^^^ (b ^^^ c) = b ^^^ (a ^^^ c) := by
  rw [← BitVec.xor_assoc, BitVec.xor_comm a b, BitVec.xor_assoc]

theorem mixColumn_eq (col : Column) (r : Fin 4) :
    mixed r 0 (col 0) ^^^ mixed r 1 (col 1) ^^^ mixed r 2 (col 2) ^^^ mixed r 3 (col 3) =
      mixColumn col r := by
  fin_cases r
  all_goals simp [mixed, mixColumn, BitVec.xor_assoc, BitVec.xor_comm, xor_left_comm]

theorem shiftRows_zero (s : Columns) (c : Fin 4) : shiftRows s c 0 = s c 0 := by
  rw [shiftRows, add_zero]

theorem bytes_fRound (b k : Words) : bytes (fRound b k) = round (bytes b) (bytes k) := by
  funext c r
  have hlookups : byte r (fRnd b c) = mixColumn (shiftRows (subBytes (bytes b)) c) r := by
    rw [fRnd, byte_lookups, ← mixColumn_eq]
    simp only [byte_ftTab]
    rw [shiftRows_zero]
    rfl
  rw [bytes, fRound, Fin.getElem_fin, Vector.getElem_ofFn, byte_xor, hlookups]
  rfl

theorem byte_lookups_flTab (x0 x1 x2 x3 : U32) (r : Fin 4) :
    byte r (lookups flTab x0 x1 x2 x3) =
      subByte (byte r ((![x0, x1, x2, x3] : Fin 4 → U32) r)) := by
  rw [byte_lookups]
  simp only [byte_flTab]
  fin_cases r <;> simp

theorem bytes_lastRound (b k : Words) :
    bytes (lfRound b k) = lastRound (bytes b) (bytes k) := by
  funext c r
  have hlookups : byte r (lfRnd b c) = shiftRows (subBytes (bytes b)) c r := by
    rw [lfRnd, byte_lookups_flTab]
    fin_cases r
    · exact (shiftRows_zero (subBytes (bytes b)) c).symm
    all_goals rfl
  rw [bytes, lfRound, Fin.getElem_fin, Vector.getElem_ofFn, byte_xor, hlookups]
  rfl

theorem bytes_rounds (b : Words) (keys : List (Words)) :
    bytes (rounds b keys) = cipherRounds (bytes b) (keys.map bytes) := by
  induction keys generalizing b with
  | nil => rfl
  | cons k keys ih =>
      cases keys with
      | nil => exact bytes_lastRound b k
      | cons k' keys =>
          rw [rounds, ih, bytes_fRound]
          · rfl
          · exact List.cons_ne_nil _ _

/-! ### Words and bytes -/

theorem byte_or (n : Nat) (x y : U32) : byte n (x ||| y) = byte n x ||| byte n y := by
  rw [byte, BitVec.ushiftRight_or_distrib, BitVec.setWidth_or]
  rfl

theorem byte_shiftLeft (b : U8) (j r : Fin 4) (n : Nat) (hn : n = 8 * j.val) :
    byte r (b.setWidth 32 <<< n) = if r = j then b else 0 := by
  have h : ∀ m : Fin 256, ∀ j r : Fin 4,
      byte r ((BitVec.ofFin m : U8).setWidth 32 <<< (8 * j.val)) =
        if r = j then BitVec.ofFin m else 0 := by
    decide +kernel
  rw [hn]
  exact h b.toFin j r

theorem byte_places (b0 b1 b2 b3 : U8) (r : Fin 4) :
    byte r (b0.setWidth 32 ||| (b1.setWidth 32 <<< 8) ||| (b2.setWidth 32 <<< 16) |||
      (b3.setWidth 32 <<< 24)) = (![b0, b1, b2, b3] : Column) r := by
  have h0 := byte_shiftLeft b0 0 r 0 rfl
  rw [BitVec.shiftLeft_zero] at h0
  rw [byte_or, byte_or, byte_or, h0, byte_shiftLeft b1 1 r 8 rfl, byte_shiftLeft b2 2 r 16 rfl,
    byte_shiftLeft b3 3 r 24 rfl]
  fin_cases r <;> simp

theorem byte_u32In (x : Block) (n r : Fin 4) : byte r (u32In x n) = columnsOf x n r := by
  have hplaces := byte_places (columnsOf x n 0) (columnsOf x n 1) (columnsOf x n 2)
    (columnsOf x n 3) r
  have hcolumns : (![columnsOf x n 0, columnsOf x n 1, columnsOf x n 2, columnsOf x n 3] :
      Column) r = columnsOf x n r := by
    fin_cases r <;> rfl
  rw [← hcolumns, ← hplaces]
  rfl

theorem bytes_wordsIn (x : Block) : bytes (wordsIn x) = columnsOf x := by
  funext n r
  rw [bytes, wordsIn, Fin.getElem_fin, Vector.getElem_ofFn]
  exact byte_u32In x n r

theorem blockOf_columnsOf (x : Block) : blockOf (columnsOf x) = x := by
  apply Vector.ext
  intro n hn
  rw [blockOf, Vector.getElem_ofFn]
  have hindex : 4 * (n / 4) + n % 4 = n := Nat.div_add_mod n 4
  simp only [columnsOf, hindex]

theorem columnsOf_blockOf (s : Columns) : columnsOf (blockOf s) = s := by
  funext c r
  have hc : (⟨(4 * c.val + r.val) / 4, by omega⟩ : Fin 4) = c := Fin.ext (by dsimp; omega)
  have hr : (⟨(4 * c.val + r.val) % 4, by omega⟩ : Fin 4) = r := Fin.ext (by dsimp; omega)
  rw [columnsOf, blockOf, Vector.getElem_ofFn]
  exact congrArg₂ s hc hr

/-! ### The key schedule -/

theorem byte_lsBox (x : U32) (r : Fin 4) : byte r (lsBox x) = subByte (byte r x) := by
  rw [lsBox, byte_lookups_flTab]
  fin_cases r <;> rfl

theorem byte_rot3 (x : U32) (r : Fin 4) : byte r (rot3 x) = byte (r + 1 : Fin 4) x := by
  apply BitVec.eq_of_getLsbD_eq
  intro i hi
  have h1 : 8 + i < 24 := by omega
  have h2 : 16 + i < 24 := by omega
  have h3 : ¬ 24 + i < 24 := by omega
  have h4 : 24 + i < 32 := by omega
  have h5 : i < 32 := by omega
  have hout : x.getLsbD (8 + (24 + i)) = false := BitVec.getLsbD_of_ge x _ (by omega)
  have h16 : 8 + (8 + i) = 16 + i := by omega
  have h24 : 8 + (16 + i) = 24 + i := by omega
  fin_cases r
  all_goals simp [byte, rot3, hi, h1, h2, h3, h4, h5, hout, h16, h24]

theorem byte_rcon (rc : Nat) (hrc : rc < 256) (r : Fin 4) :
    byte r (BitVec.ofNat 32 rc) = if r = 0 then BitVec.ofNat 8 rc else 0 := by
  have h : ∀ n : Fin 256, ∀ r : Fin 4,
      byte r (BitVec.ofNat 32 n.val) = if r = 0 then BitVec.ofNat 8 n.val else 0 := by
    decide +kernel
  exact h ⟨rc, hrc⟩ r

theorem bytes_expandKey (ek : Words) (rc : Nat) (hrc : rc < 256) :
    bytes (expandKey ek (BitVec.ofNat 32 rc)) = nextKey (bytes ek) (BitVec.ofNat 8 rc) := by
  have hw0 (r : Fin 4) : bytes (expandKey ek (BitVec.ofNat 32 rc)) 0 r =
      nextKey (bytes ek) (BitVec.ofNat 8 rc) 0 r := by
    change byte r (ek[0] ^^^ lsBox (rot3 ek[3]) ^^^ BitVec.ofNat 32 rc) = _
    rw [byte_xor, byte_xor, byte_lsBox, byte_rot3, byte_rcon rc hrc]
    rfl
  have hw1 (r : Fin 4) : bytes (expandKey ek (BitVec.ofNat 32 rc)) 1 r =
      nextKey (bytes ek) (BitVec.ofNat 8 rc) 1 r :=
    (byte_xor r ek[1] _).trans (congrArg (bytes ek 1 r ^^^ ·) (hw0 r))
  have hw2 (r : Fin 4) : bytes (expandKey ek (BitVec.ofNat 32 rc)) 2 r =
      nextKey (bytes ek) (BitVec.ofNat 8 rc) 2 r :=
    (byte_xor r ek[2] _).trans (congrArg (bytes ek 2 r ^^^ ·) (hw1 r))
  have hw3 (r : Fin 4) : bytes (expandKey ek (BitVec.ofNat 32 rc)) 3 r =
      nextKey (bytes ek) (BitVec.ofNat 8 rc) 3 r :=
    (byte_xor r ek[3] _).trans (congrArg (bytes ek 3 r ^^^ ·) (hw2 r))
  funext c r
  fin_cases c
  · exact hw0 r
  · exact hw1 r
  · exact hw2 r
  · exact hw3 r

theorem map_bytes_scanl (rcons : List Nat) (hrcons : ∀ rc ∈ rcons, rc < 256) (ek : Words) :
    ((rcons.map (BitVec.ofNat 32)).scanl expandKey ek).map bytes =
      (rcons.map (BitVec.ofNat 8)).scanl nextKey (bytes ek) := by
  induction rcons generalizing ek with
  | nil => rfl
  | cons rc rcons ih =>
      have hrc : rc < 256 := hrcons rc List.mem_cons_self
      have hrest := ih (fun rc' h => hrcons rc' (List.mem_cons_of_mem _ h))
        (expandKey ek (BitVec.ofNat 32 rc))
      rw [bytes_expandKey ek rc hrc] at hrest
      rw [List.map_cons, List.map_cons, List.scanl_cons, List.scanl_cons, List.map_cons, hrest]

theorem rndCon_eq : rndCon.map (BitVec.ofNat 8) = roundConstants := by
  decide

theorem bytes_rijndaelKeySchedule (key : Block) :
    (rijndaelKeySchedule key).map bytes = keyExpansion key := by
  have hrcons : ∀ rc ∈ rndCon, rc < 256 := by decide
  rw [rijndaelKeySchedule, map_bytes_scanl rndCon hrcons, rndCon_eq, bytes_wordsIn]
  rfl

theorem bytes_rijndaelEncrypt (k : Words) (keys : List (Words)) (input : Block) :
    rijndaelEncrypt (k :: keys) input = cipher (bytes k :: keys.map bytes) input := by
  change blockOf (bytes (rounds (addKey (wordsIn input) k) keys)) = _
  rw [bytes_rounds, bytes_addKey, bytes_wordsIn]
  rfl

theorem encrypt_eq_cipher (key input : Block) :
    rijndaelEncrypt (rijndaelKeySchedule key) input = cipher (keyExpansion key) input := by
  rw [← bytes_rijndaelKeySchedule]
  cases hkeys : rijndaelKeySchedule key with
  | nil =>
      rw [rijndaelKeySchedule, rndCon] at hkeys
      exact absurd hkeys (by simp)
  | cons k keys =>
      rw [bytes_rijndaelEncrypt]
      rfl

/-! ### Nothing is lost -/

theorem subBytes_injective : Function.Injective subBytes := by
  intro s t h
  funext c r
  exact subByte_injective (congrFun (congrFun h c) r)

theorem shiftRows_injective : Function.Injective shiftRows := by
  intro s t h
  funext c r
  have hrow := congrFun (congrFun h (c - r)) r
  rw [shiftRows, shiftRows, sub_add_cancel] at hrow
  exact hrow

theorem xtime_xor (x y : U8) : xtime (x ^^^ y) = xtime x ^^^ xtime y := by
  rw [xtime, xtime, xtime, BitVec.shiftLeft_xor_distrib, BitVec.msb_xor]
  cases x.msb <;> cases y.msb <;> simp [BitVec.xor_assoc, xor_left_comm, BitVec.xor_comm]

theorem xor_self_left (x y : U8) : x ^^^ (x ^^^ y) = y := by
  rw [← BitVec.xor_assoc, BitVec.xor_self, BitVec.zero_xor]

theorem mixColumn_twice (col : Column) (r : Fin 4) : mixColumn (mixColumn col) r =
    xtime (xtime (col r)) ^^^ col r ^^^ xtime (xtime (col (r + 2))) := by
  have h11 : r + 1 + 1 = r + 2 := by rw [add_assoc]; rfl
  have h12 : r + 1 + 2 = r + 3 := by rw [add_assoc]; rfl
  have h13 : r + 1 + 3 = r := by rw [add_assoc]; exact add_zero r
  have h21 : r + 2 + 1 = r + 3 := by rw [add_assoc]; rfl
  have h22 : r + 2 + 2 = r := by rw [add_assoc]; exact add_zero r
  have h23 : r + 2 + 3 = r + 1 := by rw [add_assoc]; rfl
  have h31 : r + 3 + 1 = r := by rw [add_assoc]; exact add_zero r
  have h32 : r + 3 + 2 = r + 1 := by rw [add_assoc]; rfl
  have h33 : r + 3 + 3 = r + 2 := by rw [add_assoc]; rfl
  simp only [mixColumn, xtime_xor, h11, h12, h13, h21, h22, h23, h31, h32, h33]
  generalize col r = a0, col (r + 1) = a1, col (r + 2) = a2, col (r + 3) = a3
  generalize xtime (xtime a0) = c0, xtime (xtime a1) = c1, xtime (xtime a2) = c2,
    xtime (xtime a3) = c3
  generalize xtime a0 = b0, xtime a1 = b1, xtime a2 = b2, xtime a3 = b3
  simp only [BitVec.xor_assoc, BitVec.xor_comm, xor_left_comm, xor_self_left, BitVec.xor_self,
    BitVec.xor_zero]

/-- Four times the matrix is the identity, so that three times undo it. -/
theorem mixColumn_four (col : Column) :
    mixColumn (mixColumn (mixColumn (mixColumn col))) = col := by
  funext r
  have h22 : r + 2 + 2 = r := by rw [add_assoc]; exact add_zero r
  rw [mixColumn_twice, mixColumn_twice, mixColumn_twice, h22]
  simp only [xtime_xor]
  generalize col r = a0, col (r + 2) = a2
  generalize xtime (xtime (xtime (xtime a0))) = d0, xtime (xtime (xtime (xtime a2))) = d2
  generalize xtime (xtime a0) = c0, xtime (xtime a2) = c2
  simp only [BitVec.xor_assoc, BitVec.xor_comm, xor_left_comm, xor_self_left, BitVec.xor_self,
    BitVec.xor_zero]

theorem mixColumns_injective : Function.Injective mixColumns := by
  intro s t h
  funext c
  rw [← mixColumn_four (s c), ← mixColumn_four (t c)]
  exact congrArg (fun col => mixColumn (mixColumn (mixColumn col))) (congrFun h c)

theorem addRoundKey_injective (k : Columns) : Function.Injective fun s => addRoundKey s k := by
  intro s t h
  funext c r
  exact (BitVec.xor_left_inj (k c r)).mp (congrFun (congrFun h c) r)

theorem round_injective (k : Columns) : Function.Injective fun s => round s k :=
  (addRoundKey_injective k).comp
    (mixColumns_injective.comp (shiftRows_injective.comp subBytes_injective))

theorem lastRound_injective (k : Columns) : Function.Injective fun s => lastRound s k :=
  (addRoundKey_injective k).comp (shiftRows_injective.comp subBytes_injective)

theorem cipherRounds_injective (keys : List Columns) :
    Function.Injective fun s => cipherRounds s keys := by
  induction keys with
  | nil => exact Function.injective_id
  | cons k keys ih =>
      cases keys with
      | nil => exact lastRound_injective k
      | cons k' keys => exact ih.comp (round_injective k)

theorem columnsOf_injective : Function.Injective columnsOf :=
  Function.LeftInverse.injective blockOf_columnsOf

theorem blockOf_injective : Function.Injective blockOf :=
  Function.LeftInverse.injective columnsOf_blockOf

theorem cipher_injective (keys : List Columns) : Function.Injective (cipher keys) := by
  cases keys with
  | nil => exact Function.injective_id
  | cons k keys =>
      exact blockOf_injective.comp ((cipherRounds_injective keys).comp
        ((addRoundKey_injective k).comp columnsOf_injective))

theorem encrypt_injective (key : Block) :
    Function.Injective (rijndaelEncrypt (rijndaelKeySchedule key)) := by
  intro x y h
  rw [encrypt_eq_cipher, encrypt_eq_cipher] at h
  exact cipher_injective _ h

instance : Finite U8 := Finite.of_injective BitVec.toFin fun _ _ h => BitVec.eq_of_toFin_eq h

instance : Finite Block := Finite.of_injective columnsOf columnsOf_injective

/-- The encryption under a key is a permutation of the blocks, and it is the one that the cipher
on bytes describes: its tables, its words and its key schedule change nothing. -/
theorem rijndaelEncrypt_permutation (key : Block) :
    rijndaelEncrypt (rijndaelKeySchedule key) = cipher (keyExpansion key) ∧
      Function.Bijective (rijndaelEncrypt (rijndaelKeySchedule key)) := by
  refine ⟨?_, ?_⟩
  · funext input
    exact encrypt_eq_cipher key input
  · exact Finite.injective_iff_bijective.mp (encrypt_injective key)

end Rijndael
end Exosip
