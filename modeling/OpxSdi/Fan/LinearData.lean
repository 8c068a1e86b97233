import Mathlib.Data.Rat.Floor
import Mathlib.Tactic.IntervalCases
import OpxSdi.Fan.Pmbus

/-!
# Readings of PMBus devices (`sdi_pmbus_dev.c`)

A word in linear data format has an exponent in its upper five bits and a mantissa in its lower eleven bits,
both in two's complement.
-/

namespace OpxSdi.Fan

open Lib

/-! ## Readings -/

/-- `sdi_pmbus_linear_data_to_int` -/
def linearDataToInt (userDataMsb userDataLsb : Byte) : BitVec 32 :=
  let y : BitVec 32 := (userDataMsb &&& 7).setWidth 32 <<< 8 ||| userDataLsb.setWidth 32
  let n : BitVec 32 := (userDataMsb >>> 3).setWidth 32
  let y := if y &&& (1 : BitVec 32) <<< 10 ≠ 0 then y ||| (-1 : BitVec 32) <<< 11 else y
  let n := if n &&& (1 : BitVec 32) <<< 4 ≠ 0 then n ||| (-1 : BitVec 32) <<< 5 else n
  if n.slt 0 then
    let n := -n
    if y.slt 0 then -((-y).sshiftRight n.toNat) else y.sshiftRight n.toNat
  else y <<< n.toNat

inductive PmbusFormat
  | linear | direct
  deriving DecidableEq, Repr

/-- The conversion that both readings end with. `buf` holds the word, low byte first. -/
def PmbusFormat.convert (format : PmbusFormat) (data : BitVec 16) : BitVec 32 :=
  match format with
  | .linear => linearDataToInt ((data >>> 8).setWidth 8) (data.setWidth 8)
  | .direct => (data.setWidth 8).setWidth 32

def PmbusResource.temperatureReadCommand : PmbusResource → Option Byte
  | .temperature1 => some 0x8d
  | .temperature2 => some 0x8e
  | .temperature3 => some 0x8f
  | _ => none

def PmbusResource.fanReadCommand : PmbusResource → Option Byte
  | .fan1 => some 0x90
  | .fan2 => some 0x91
  | .fan3 => some 0x92
  | .fan4 => some 0x93
  | _ => none

/-- What reading a temperature and a fan's speed share. The temperature is an `int`, the speed a `uint_t`. -/
def pmbusGet (command : Option Byte) (format : PmbusFormat)
    (smbusReadWord : Byte → Except Errno (BitVec 16)) :
    Except Errno (BitVec 32) :=
  match command with
  | none => .error .eopnotsupp
  | some reg =>
      match smbusReadWord reg with
      | .error e => .error e
      | .ok data => .ok (format.convert data)

def pmbusTemperatureGet (resource : PmbusResource) : PmbusFormat → (Byte → Except Errno (BitVec 16)) →
    Except Errno (BitVec 32) :=
  pmbusGet resource.temperatureReadCommand

def pmbusFanSpeedGet (resource : PmbusResource) : PmbusFormat → (Byte → Except Errno (BitVec 16)) →
    Except Errno (BitVec 32) :=
  pmbusGet resource.fanReadCommand

/-! ## Values -/

/-- The value that a word stands for: `Y × 2 ^ N`. -/
def linearValue (data : BitVec 16) : ℚ :=
  (data.extractLsb' 0 11).toInt * 2 ^ (data.extractLsb' 11 5).toInt

def towardZero (x : ℚ) : ℤ := if 0 ≤ x then ⌊x⌋ else ⌈x⌉

theorem towardZero_div (y : ℤ) (d : ℕ) : towardZero (y / d) = y.tdiv d := by
  have hd : (0 : ℚ) ≤ d := Nat.cast_nonneg d
  by_cases hy : 0 ≤ y
  · have hvalue : (0 : ℚ) ≤ y / d := div_nonneg (Int.cast_nonneg hy) hd
    rw [towardZero, if_pos hvalue, Rat.floor_intCast_div_natCast, Int.tdiv_eq_ediv_of_nonneg hy]
  · obtain rfl | hd' := Nat.eq_zero_or_pos d
    · simp [towardZero]
    · have hvalue : ¬(0 : ℚ) ≤ y / d := by
        rw [not_le]
        exact div_neg_of_neg_of_pos (Int.cast_lt_zero.mpr (by omega)) (Nat.cast_pos.mpr hd')
      rw [towardZero, if_neg hvalue, Rat.ceil_intCast_div_natCast]
      rw [← Int.tdiv_eq_ediv_of_nonneg (by omega), Int.neg_tdiv, neg_neg]

theorem towardZero_int (y : ℤ) : towardZero y = y := by
  rw [towardZero]
  split <;> simp

/-- The sign extension of a number whose sign is in bit `k`. -/
theorem signExtend_eq {k : Nat} (hk : k < 32) (x : BitVec (k + 1)) :
    (if x.setWidth 32 &&& (1 : BitVec 32) <<< k ≠ 0 then x.setWidth 32 ||| (-1 : BitVec 32) <<< (k + 1)
      else x.setWidth 32) = x.signExtend 32 := by
  have hone : (1 : BitVec 32) <<< k = .twoPow 32 k := (BitVec.twoPow_eq 32 k).symm
  have hpow : BitVec.twoPow 32 k ≠ 0 := fun hzero => by
    have htoNat := congrArg BitVec.toNat hzero
    rw [BitVec.toNat_twoPow_of_lt hk] at htoNat
    exact absurd htoNat (Nat.ne_of_gt (Nat.two_pow_pos k))
  have hbit : x.setWidth 32 &&& (1 : BitVec 32) <<< k ≠ 0 ↔ x.msb = true := by
    rw [hone, BitVec.and_twoPow, BitVec.msb_eq_getLsbD_last, BitVec.getLsbD_setWidth, decide_eq_true hk,
      Bool.true_and]
    split
    next hset => exact iff_of_true hpow hset
    next hset => simpa using hset
  have hneg : (-1 : BitVec 32) = .allOnes 32 := rfl
  refine BitVec.eq_of_getLsbD_eq fun i hi => ?_
  rw [BitVec.getLsbD_signExtend, hneg]
  by_cases hlow : i < k + 1
  · split <;> simp [hi, hlow]
  · have hx : x.getLsbD i = false := BitVec.getLsbD_of_ge x i (by omega)
    split
    next hset =>
      rw [BitVec.getLsbD_or, BitVec.getLsbD_shiftLeft, BitVec.getLsbD_allOnes, hbit.mp hset]
      simp [hi, hlow]
      omega
    next hset =>
      rw [hbit] at hset
      simp [hi, hset, hx]

/-! ## The conversion -/

theorem getLsbD_seven (j : Nat) : (7 : Byte).getLsbD j = decide (j < 3) := by
  by_cases h : j < 8
  · interval_cases j <;> rfl
  · rw [BitVec.getLsbD_of_ge _ _ (by omega), decide_eq_false (by omega)]

theorem mantissa_eq (data : BitVec 16) :
    (((data >>> 8).setWidth 8 : Byte) &&& 7).setWidth 32 <<< 8 ||| (data.setWidth 8 : Byte).setWidth 32 =
      (data.extractLsb' 0 11).setWidth 32 := by
  refine BitVec.eq_of_getLsbD_eq fun i hi => ?_
  simp only [BitVec.getLsbD_or, BitVec.getLsbD_shiftLeft, BitVec.getLsbD_setWidth, BitVec.getLsbD_and,
    getLsbD_seven,
    BitVec.getLsbD_ushiftRight, BitVec.getLsbD_extractLsb', hi]
  by_cases h8 : i < 8
  · have h11 : i < 11 := by omega
    simp [h8, h11]
  · by_cases h11 : i < 11
    · have hlow : i - 8 < 3 := by omega
      have hbyte : i - 8 < 8 := by omega
      have hword : i - 8 < 32 := by omega
      have hidx : 8 + (i - 8) = i := by omega
      simp [h8, h11, hlow, hbyte, hword, hidx]
    · have hlow : ¬i - 8 < 3 := by omega
      simp [h8, h11, hlow]

theorem exponent_eq (data : BitVec 16) :
    (((data >>> 8).setWidth 8 : Byte) >>> 3).setWidth 32 = (data.extractLsb' 11 5).setWidth 32 := by
  refine BitVec.eq_of_getLsbD_eq fun i hi => ?_
  simp only [BitVec.getLsbD_setWidth, BitVec.getLsbD_ushiftRight, BitVec.getLsbD_extractLsb', hi]
  by_cases h5 : i < 5
  · have h8 : 3 + i < 8 := by omega
    simp [h5, h8, ← Nat.add_assoc]
  · have h8 : ¬3 + i < 8 := by omega
    simp [h5, h8]

/-- The numbers that the conversion shifts. -/
def shifted (y n : BitVec 32) : BitVec 32 :=
  if n.slt 0 then
    if y.slt 0 then -((-y).sshiftRight (-n).toNat) else y.sshiftRight (-n).toNat
  else y <<< n.toNat

theorem convert_linear (data : BitVec 16) : PmbusFormat.linear.convert data =
    shifted ((data.extractLsb' 0 11).signExtend 32) ((data.extractLsb' 11 5).signExtend 32) := by
  rw [PmbusFormat.convert, linearDataToInt, mantissa_eq, exponent_eq, shifted]
  simp only [signExtend_eq (k := 10) (by decide), signExtend_eq (k := 4) (by decide)]

theorem toInt_neg_of_small {y : BitVec 32} (h : -2 ^ 31 < y.toInt) : (-y).toInt = -y.toInt := by
  rw [BitVec.toInt_neg]
  have := y.toInt_lt
  exact Int.bmod_eq_of_le (by omega) (by omega)

theorem toInt_sshiftRight_small {y : BitVec 32} (k : Nat) (h : 0 ≤ y.toInt) :
    (y.sshiftRight k).toInt = y.toInt.tdiv (2 ^ k : ℕ) := by
  rw [BitVec.toInt_sshiftRight, Int.shiftRight_eq_div_pow, Int.tdiv_eq_ediv_of_nonneg h]

theorem toNat_of_toInt {x : BitVec 32} {k : ℕ} (h : x.toInt = k) : x.toNat = k := by
  have hsign := BitVec.toInt_eq_toNat_cond x
  have := x.isLt
  split at hsign <;> omega

theorem toInt_shifted_right {y n : BitVec 32} (hy : -2 ^ 10 ≤ y.toInt) (hn : n.toInt < 0)
    (hnle : -2 ^ 4 ≤ n.toInt) :
    (shifted y n).toInt = towardZero (y.toInt * 2 ^ n.toInt) := by
  obtain ⟨k, hk⟩ : ∃ k : ℕ, n.toInt = -k := ⟨n.toInt.natAbs, by omega⟩
  have hcount : (-n).toNat = k := toNat_of_toInt (by rw [toInt_neg_of_small (by omega), hk, neg_neg])
  have hvalue : (y.toInt * 2 ^ n.toInt : ℚ) = y.toInt / (2 ^ k : ℕ) := by
    rw [hk, zpow_neg, zpow_natCast, div_eq_mul_inv, Nat.cast_pow, Nat.cast_ofNat]
  rw [hvalue, towardZero_div, shifted, hcount, BitVec.slt_eq_decide, BitVec.slt_eq_decide,
    if_pos (by simpa using hn)]
  split
  next hneg =>
    have hneg' : y.toInt < 0 := by simpa using hneg
    have hpos : (-y).toInt = -y.toInt := toInt_neg_of_small (by omega)
    have hright := toInt_sshiftRight_small (y := -y) k (by omega)
    rw [hpos, Int.neg_tdiv] at hright
    have hsmall := Int.natAbs_tdiv_le_natAbs y.toInt (2 ^ k : ℕ)
    rw [toInt_neg_of_small (by omega), hright, neg_neg]
  next hneg => exact toInt_sshiftRight_small k (by simpa using hneg)

theorem toInt_shifted_left {y n : BitVec 32} (hy : -2 ^ 10 ≤ y.toInt ∧ y.toInt < 2 ^ 10) (hn : 0 ≤ n.toInt)
    (hnlt : n.toInt < 2 ^ 4) : (shifted y n).toInt = towardZero (y.toInt * 2 ^ n.toInt) := by
  obtain ⟨k, hk⟩ : ∃ k : ℕ, n.toInt = k := ⟨n.toInt.natAbs, by omega⟩
  have hvalue : (y.toInt * 2 ^ n.toInt : ℚ) = (y.toInt * 2 ^ k : ℤ) := by
    rw [hk, zpow_natCast, Int.cast_mul, Int.cast_pow, Int.cast_ofNat]
  have hk' : k < 16 := by omega
  have hpow : (BitVec.twoPow 32 k).toInt = 2 ^ k := by
    rw [BitVec.toInt_twoPow, if_neg (by omega), if_neg (by omega)]
  have hsmall : -2 ^ 25 ≤ y.toInt * 2 ^ k ∧ y.toInt * 2 ^ k < 2 ^ 25 := by
    interval_cases k <;> omega
  rw [hvalue, towardZero_int, shifted, toNat_of_toInt hk, BitVec.slt_eq_decide, if_neg (by simpa using hn),
    BitVec.shiftLeft_eq_mul_twoPow, BitVec.toInt_mul, hpow]
  exact Int.bmod_eq_of_le (by omega) (by omega)

/-- A word in linear data format is converted to its value, rounded toward zero. -/
theorem toInt_convert_linear (data : BitVec 16) :
    (PmbusFormat.linear.convert data).toInt = towardZero (linearValue data) := by
  have hy := BitVec.toInt_signExtend_of_le (x := data.extractLsb' 0 11) (v := 32) (by decide)
  have hn := BitVec.toInt_signExtend_of_le (x := data.extractLsb' 11 5) (v := 32) (by decide)
  have hyle := BitVec.le_toInt (data.extractLsb' 0 11)
  have hylt := BitVec.toInt_lt (x := data.extractLsb' 0 11)
  have hnle := BitVec.le_toInt (data.extractLsb' 11 5)
  have hnlt := BitVec.toInt_lt (x := data.extractLsb' 11 5)
  rw [convert_linear, linearValue, ← hy, ← hn]
  rw [← hy] at hyle hylt
  rw [← hn] at hnle hnlt
  by_cases hneg : ((data.extractLsb' 11 5).signExtend 32).toInt < 0
  · exact toInt_shifted_right hyle hneg hnle
  · exact toInt_shifted_left ⟨hyle, hylt⟩ (by omega) hnlt

theorem toNat_eq_emod (x : BitVec 32) : (x.toNat : ℤ) = x.toInt % 2 ^ 32 := by
  have hsign := BitVec.toInt_eq_toNat_cond x
  have := x.isLt
  split at hsign <;> omega

theorem pmbusGet_linear (command : Option Byte) (smbusReadWord : Byte → Except Errno (BitVec 16)) (f : ℤ → ℤ)
    (value : BitVec 32 → ℤ) (hvalue : ∀ x, value x = f x.toInt) :
    (pmbusGet command .linear smbusReadWord).map value =
      (command.elim (.error .eopnotsupp) smbusReadWord).map fun data => f (towardZero (linearValue data)) := by
  cases command with
  | none => rfl
  | some reg =>
      rw [pmbusGet, Option.elim_some]
      cases smbusReadWord reg with
      | error e => rfl
      | ok data => exact congrArg Except.ok ((hvalue _).trans (congrArg f (toInt_convert_linear data)))

/-- In linear data format a temperature is what the word of the device stands for, rounded toward zero, whatever
the word is. A fan's speed is unsigned: it is that number modulo `2 ^ 32`. -/
theorem linear_readings_round_toward_zero (resource : PmbusResource)
    (smbusReadWord : Byte → Except Errno (BitVec 16)) :
    (pmbusTemperatureGet resource .linear smbusReadWord).map BitVec.toInt =
        (resource.temperatureReadCommand.elim (.error .eopnotsupp) smbusReadWord).map
          (fun data => towardZero (linearValue data)) ∧
      (pmbusFanSpeedGet resource .linear smbusReadWord).map (fun speed => (speed.toNat : ℤ)) =
        (resource.fanReadCommand.elim (.error .eopnotsupp) smbusReadWord).map
          (fun data => towardZero (linearValue data) % 2 ^ 32) :=
  ⟨pmbusGet_linear _ _ id _ fun _ => rfl, pmbusGet_linear _ _ (· % 2 ^ 32) _ toNat_eq_emod⟩

-- -1.5 degrees: N = -1 and Y = -3
example : (PmbusFormat.linear.convert 0xfffd).toInt = -1 := by decide

-- A fan whose word says -1 turns at 4294967295.
example : (PmbusFormat.linear.convert 0x07ff).toNat = 4294967295 := by decide

end OpxSdi.Fan
