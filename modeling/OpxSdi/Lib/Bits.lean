import OpxSdi.Lib.Checked

/-!
# Bits of words

A word is known by its bits: masks of low bits, words put together from bytes, and words whose high
bits are clear.
-/

namespace OpxSdi.Lib

variable {w : Nat}

theorem getLsbD_lowMask (n j : Nat) :
    (BitVec.ofNat w (2 ^ n - 1)).getLsbD j = (decide (j < w) && decide (j < n)) := by
  rw [BitVec.getLsbD_ofNat, Nat.testBit_two_pow_sub_one]

theorem shift_sub_one {n : Nat} (h : n < w) :
    (1 : BitVec w) <<< n - 1 = BitVec.ofNat w (2 ^ n - 1) := by
  have hlt : 2 ^ n < 2 ^ w := Nat.pow_lt_pow_right (by decide) h
  have hpos : 0 < 2 ^ n := Nat.two_pow_pos n
  have hone : 1 < 2 ^ w := Nat.one_lt_two_pow (by omega)
  apply BitVec.eq_of_toNat_eq
  simp only [BitVec.toNat_sub, BitVec.toNat_shiftLeft, BitVec.toNat_ofNat, BitVec.ofNat_eq_ofNat,
    Nat.mod_eq_of_lt hone, Nat.shiftLeft_eq, Nat.one_mul, Nat.mod_eq_of_lt hlt]
  rw [show 2 ^ w - 1 + 2 ^ n = 2 ^ n - 1 + 2 ^ w by omega, Nat.add_mod_right]

theorem getLsbD_one_shiftLeft (n k : Nat) :
    ((1 : BitVec w) <<< n).getLsbD k = (decide (k < w) && decide (k = n)) := by
  rw [BitVec.getLsbD_shiftLeft, BitVec.ofNat_eq_ofNat, BitVec.getLsbD_one, Bool.eq_iff_iff]
  simp only [Bool.and_eq_true, Bool.not_eq_true', decide_eq_true_eq, decide_eq_false_iff_not]
  omega

theorem and_one_shiftLeft_eq_zero {x : BitVec w} {k : Nat} (h : k < w) :
    x &&& (1 : BitVec w) <<< k = 0 ↔ x.getLsbD k = false := by
  have hne : BitVec.twoPow w k ≠ 0#w := fun heq => by
    have hbit := congrArg (BitVec.getLsbD · k) heq
    simp only [BitVec.getLsbD_twoPow, h, decide_true, Bool.and_self, BitVec.getLsbD_zero] at hbit
    cases hbit
  rw [BitVec.ofNat_eq_ofNat, ← BitVec.twoPow_eq, BitVec.and_twoPow]
  cases x.getLsbD k with
  | false => simp
  | true => simpa using hne

theorem and_eq_right_iff {x m : BitVec w} : x &&& m = m ↔ ∀ k, m.getLsbD k = true → x.getLsbD k = true := by
  constructor
  · intro h k hk
    rw [← h, BitVec.getLsbD_and, Bool.and_eq_true] at hk
    exact hk.1
  · intro h
    refine BitVec.eq_of_getLsbD_eq fun k _ => ?_
    rw [BitVec.getLsbD_and]
    cases hk : m.getLsbD k with
    | false => exact Bool.and_false _
    | true => rw [h k hk]; rfl

theorem toNat_lt_iff (x : BitVec w) (n : Nat) : x.toNat < 2 ^ n ↔ ∀ i ≥ n, x.getLsbD i = false := by
  constructor
  · intro h i hi
    exact Nat.testBit_lt_two_pow (Nat.lt_of_lt_of_le h (Nat.pow_le_pow_right (by decide) hi))
  · intro h
    exact Nat.lt_pow_two_of_testBit x.toNat h

theorem toNat_lt_of_period (x : BitVec w) {n s : Nat} (hs : 0 < s)
    (h : ∀ i ≥ n, x.getLsbD i = x.getLsbD (i + s)) : x.toNat < 2 ^ n := by
  rw [toNat_lt_iff]
  have hall : ∀ d i, n ≤ i → w ≤ i + d → x.getLsbD i = false := by
    intro d
    induction d with
    | zero => exact fun i _ hw => BitVec.getLsbD_of_ge x i hw
    | succ d ih => exact fun i hi hw => (h i hi).trans (ih (i + s) (by omega) (by omega))
  exact fun i hi => hall w i hi (by omega)

/-! ## Words from bytes -/

/-- The word with the bytes `ds 0`, …, `ds (n - 1)`, the first at the bottom. -/
def assemble (ds : Nat → Byte) : Nat → BitVec 32
  | 0 => 0
  | n + 1 => assemble ds n ||| (ds n).setWidth 32 <<< (n * 8)

theorem getLsbD_assemble (ds : Nat → Byte) (n i : Nat) :
    (assemble ds n).getLsbD i = (decide (i < 32) && decide (i < 8 * n) && (ds (i / 8)).getLsbD (i % 8)) := by
  induction n with
  | zero => simp [assemble]
  | succ n ih =>
      simp only [assemble, BitVec.getLsbD_or, ih, BitVec.getLsbD_shiftLeft, BitVec.getLsbD_setWidth]
      rcases Nat.lt_trichotomy i (8 * n) with hlt | rfl | hgt
      · simp [show i < n * 8 by omega, hlt, show i < 8 * (n + 1) by omega]
      · simp [Nat.mul_comm n 8, show 8 * n < 8 * (n + 1) by omega, Nat.mul_mod_right]
      · rcases Nat.lt_or_ge i (8 * (n + 1)) with hin | hout
        · have hdiv : i / 8 = n := by omega
          have hmod : i % 8 = i - n * 8 := by omega
          simp only [hdiv, hmod, hin, show ¬ i < 8 * n by omega, show ¬ i < n * 8 by omega]
          by_cases h32 : i < 32
          · simp [h32, show i - n * 8 < 32 by omega]
          · simp [h32]
        · have hbyte : (ds n).getLsbD (i - n * 8) = false := BitVec.getLsbD_of_ge _ _ (by omega)
          simp [hbyte, show ¬ i < 8 * n by omega, show ¬ i < 8 * (n + 1) by omega]

/-- Two bytes in an `int` -/
theorem toNat_shiftLeft_or (high low : Byte) :
    (high.setWidth 32 <<< 8 ||| low.setWidth 32).toNat = high.toNat * 256 + low.toNat := by
  have hhigh := high.isLt
  have hlow := low.isLt
  rw [BitVec.toNat_or, BitVec.toNat_shiftLeft, BitVec.toNat_setWidth, BitVec.toNat_setWidth,
    Nat.mod_eq_of_lt (by omega), Nat.mod_eq_of_lt (by omega), Nat.mod_eq_of_lt (by omega),
    ← Nat.shiftLeft_add_eq_or_of_lt hlow, Nat.shiftLeft_eq]

theorem toNat_sdiv_ten {x : BitVec 32} (h : x.toNat < 2 ^ 31) : (x.sdiv 10).toNat = x.toNat / 10 := by
  have hmsb : x.msb = false := by
    rw [BitVec.msb_eq_false_iff_two_mul_lt]
    omega
  rw [BitVec.sdiv_eq, hmsb]
  exact BitVec.toNat_udiv

end OpxSdi.Lib
