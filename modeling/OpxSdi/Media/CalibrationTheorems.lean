import Mathlib.Tactic.FieldSimp
import Mathlib.Tactic.Linarith
import Mathlib.Tactic.NormNum
import OpxSdi.Media.Calibration
import OpxSdi.Media.Lemmas.Monitor

/-!
# External calibration follows SFF-8472

The slope, the offset and the value of a monitor with external calibration are those of SFF-8472 iff the
slope has no fraction, the offset is the same in either byte order and not negative, and no negative
temperature has an offset.
-/

namespace OpxSdi.Media

open Lib Device

namespace SfpMonitor

/-! ## SFF-8472 -/

/-- The two registers from an offset on, the first one first -/
def registers (c : Cage) (offset : BitVec 32) : Byte × Byte :=
  ((c.slaves Sfp.sfpI2cAddr).read (offset.setWidth 8), (c.slaves Sfp.sfpI2cAddr).read (offset.setWidth 8 + 1))

def sffSlope (s : Byte × Byte) : ℚ := s.1.toNat + (s.2.toNat : ℚ) / 256

def sffOffset (o : Byte × Byte) : ℚ := (wordOfBytes o).toInt

def sffRaw : SfpMonitor → (raw : Byte × Byte) → ℚ
  | temp, raw => (wordOfBytes raw).toInt
  | _, raw => (wordOfBytes raw).toNat

/-- The value in degrees, volts, milliwatts or milliamperes -/
def sffValue (monitor : SfpMonitor) (raw s o : Byte × Byte) : ℚ :=
  let value := sffSlope s * monitor.sffRaw raw + sffOffset o
  match monitor with
  | temp => value / 256
  | volt => value / 10000
  | txPower => value / 10000
  | txBiasCurrent => 2 * value / 1000

/-- What a read of a monitor with external calibration and the conversion of its result compute -/
structure FollowsSff (monitor : SfpMonitor) (d : State) : Prop where
  slope_eq : ∀ buf info, Answers (monitor.valueRead .external) d (buf, info) →
    info.calibSlope = sffSlope (registers d.hw monitor.slopeOffset)
  offset_eq : ∀ buf info, Answers (monitor.valueRead .external) d (buf, info) →
    info.calibOffset = sffOffset (registers d.hw monitor.constOffset)
  value_eq : ∀ buf info, Answers (monitor.valueRead .external) d (buf, info) →
    monitor.convert buf info = monitor.sffValue (registers d.hw monitor.valOffset)
      (registers d.hw monitor.slopeOffset) (registers d.hw monitor.constOffset)

/-! ## The condition -/

/-- The slope has no fraction, and the offset is the same in either byte order and not negative. With a
negative temperature there is no offset, and with the lowest one no slope either. -/
structure Plain (monitor : SfpMonitor) (raw s o : Byte × Byte) : Prop where
  slope : s.2 = 0
  offset : o.1 = o.2 ∧ o.2 < 128
  negative : monitor = temp → (wordOfBytes raw).toInt < 0 → o.1 = 0 ∧ (wordOfBytes raw = 0x8000 → s.1 = 0)

/-! ## Bytes -/

theorem toNat_append_bytes (b b' : Byte) : (b ++ b' : BitVec (8 + 8)).toNat = b.toNat * 256 + b'.toNat := by
  rw [BitVec.toNat_append, ← Nat.shiftLeft_add_eq_or_of_lt b'.isLt, Nat.shiftLeft_eq]

theorem bytesOfWord_append (b b' : Byte) : bytesOfWord (b' ++ b : BitVec (8 + 8)) = (b, b') := by
  have hlt := b.isLt
  have hlt' := b'.isLt
  have hnat := toNat_append_bytes b' b
  refine Prod.ext (BitVec.eq_of_toNat_eq ?_) (BitVec.eq_of_toNat_eq ?_)
  · change ((b' ++ b : BitVec (8 + 8)).setWidth 8).toNat = b.toNat
    rw [BitVec.toNat_setWidth, hnat]
    omega
  · change (((b' ++ b : BitVec (8 + 8)) >>> 8).setWidth 8).toNat = b'.toNat
    rw [BitVec.toNat_setWidth, BitVec.toNat_ushiftRight, hnat, Nat.shiftRight_eq_div_pow]
    omega

/-- The read of a monitor with external calibration returns its six registers. -/
theorem answers_valueRead (monitor : SfpMonitor) {d : State} {r : (Byte × Byte) × SfpCalibInfo} :
    Answers (monitor.valueRead .external) d r ↔ d.Clear 3 ∧
      r = (registers d.hw monitor.valOffset, ⟨.external,
        (registers d.hw monitor.constOffset).2 ++ (registers d.hw monitor.constOffset).1,
        registers d.hw monitor.slopeOffset⟩) := by
  have hfetches : ∀ valOffset vsOffset vcOffset, Fetches
      (moduleMonitorValueRead valOffset ⟨.external, 0, 0, 0⟩ vsOffset vcOffset) (1 + (1 + (1 + 0))) _ :=
    fun valOffset vsOffset vcOffset => (Fetches.smbusReadWord _ _).bind fun buf =>
      (Fetches.smbusReadWord _ _).bind fun tempBuf => (Fetches.smbusReadWord _ _).bind fun offset =>
        Fetches.pure (bytesOfWord buf, SfpCalibInfo.mk .external offset (bytesOfWord tempBuf))
  rw [valueRead, (hfetches _ _ _).answers, bytesOfWord_append, bytesOfWord_append]
  exact Iff.rfl

theorem calibSlope_eq_iff {o : BitVec 16} {s : Byte × Byte} :
    (⟨.external, o, s⟩ : SfpCalibInfo).calibSlope = sffSlope s ↔ s.2 = 0 := by
  rw [SfpCalibInfo.calibSlope, sffSlope, Nat.div_eq_of_lt s.2.isLt, Nat.cast_zero, zero_add,
    left_eq_add, div_eq_zero_iff]
  constructor
  · rintro (h | h)
    · exact BitVec.eq_of_toNat_eq (Nat.cast_eq_zero.mp h)
    · norm_num at h
  · intro h
    exact .inl (by rw [h]; rfl)

theorem calibOffset_eq_iff {o s : Byte × Byte} :
    (⟨.external, o.2 ++ o.1, s⟩ : SfpCalibInfo).calibOffset = sffOffset o ↔ o.1 = o.2 ∧ o.2 < 128 := by
  have hlt := o.1.isLt
  have hlt' := o.2.isLt
  have hint : (wordOfBytes o).toInt =
      if 2 * (o.1.toNat * 256 + o.2.toNat) < 2 ^ 16 then ((o.1.toNat * 256 + o.2.toNat : ℕ) : ℤ)
      else ((o.1.toNat * 256 + o.2.toNat : ℕ) : ℤ) - 2 ^ 16 := by
    rw [BitVec.toInt_eq_toNat_cond, wordOfBytes, toNat_append_bytes]
    rfl
  rw [SfpCalibInfo.calibOffset, sffOffset, toNat_append_bytes, ← Int.cast_natCast, Int.cast_inj, hint,
    ← BitVec.toNat_inj, BitVec.lt_def, show (128 : Byte).toNat = 128 from rfl]
  split <;> omega

/-! ## Temperatures -/

/-- The magnitude of a negative temperature is negative itself for the lowest one. -/
theorem toInt_magnitude (t : BitVec 16) :
    (~~~t + 1).toInt = if t = 0x8000 then -32768 else -t.toInt := by
  split
  · rename_i ht
    rw [ht]
    decide
  · rename_i ht
    have hneg : ~~~t + 1 = -t := (BitVec.neg_eq_not_add t).symm
    rw [hneg, BitVec.toInt_neg_of_ne_intMin ht]

/-- A negative temperature with an offset, the byte `o` twice -/
theorem negative_eq_iff {t : BitVec 16} {s o : ℕ} (ho : o < 128) :
    -(((s : ℚ) * (~~~t + 1).toInt + (257 * o : ℕ)) / 256) = (s * t.toInt + (257 * o : ℕ)) / 256 ↔
      o = 0 ∧ (t = 0x8000 → s = 0) := by
  rw [toInt_magnitude]
  by_cases hmin : t = 0x8000
  · have htoInt : t.toInt = -32768 := by
      rw [hmin]
      decide
    rw [if_pos hmin, htoInt]
    have hcast : -(((s : ℚ) * (-32768 : ℤ) + (257 * o : ℕ)) / 256) = (s * (-32768 : ℤ) + (257 * o : ℕ)) / 256 ↔
        257 * o = 32768 * s := by
      rw [← Nat.cast_inj (R := ℚ)]
      push_cast
      constructor <;> intro h <;> linarith
    rw [hcast]
    constructor
    · intro h
      have ho : o = 0 := by omega
      exact ⟨ho, fun _ => by omega⟩
    · rintro ⟨rfl, hs⟩
      rw [hs hmin]
  · rw [if_neg hmin, and_iff_left fun h => absurd h hmin, ← Nat.cast_eq_zero (R := ℚ)]
    push_cast
    constructor <;> intro h <;> linarith

/-! ## Values -/

variable {monitor : SfpMonitor} {raw s o : Byte × Byte}

/-- An offset that is the same in either byte order -/
theorem offset_of_eq (hoffset : o.1 = o.2) (hlt : o.2 < 128) :
    (wordOfBytes o).toInt = (257 * o.1.toNat : ℕ) := by
  have hlt : o.2.toNat < 128 := hlt
  rw [wordOfBytes, BitVec.toInt_eq_toNat_cond, toNat_append_bytes, hoffset]
  split <;> omega

/-- The value follows if the slope and the offset do and no negative temperature is in the way. -/
theorem convert_eq_iff (hslope : s.2 = 0) (hoffset : o.1 = o.2) (hlt : o.2 < 128) :
    monitor.convert raw ⟨.external, o.2 ++ o.1, s⟩ = monitor.sffValue raw s o ↔
      (monitor = temp → (wordOfBytes raw).toInt < 0 → o.1 = 0 ∧ (wordOfBytes raw = 0x8000 → s.1 = 0)) := by
  have hs := (calibSlope_eq_iff (o := o.2 ++ o.1)).mpr hslope
  have ho := (calibOffset_eq_iff (s := s)).mpr ⟨hoffset, hlt⟩
  have hplain : sffSlope s = s.1.toNat := by
    rw [sffSlope, hslope, show (0 : Byte).toNat = 0 from rfl, Nat.cast_zero, zero_div, add_zero]
  cases monitor with
  | volt => exact iff_of_true (by rw [convert, convertSfpVolt, sffValue, hs, ho]; rfl) fun h => SfpMonitor.noConfusion h
  | txPower => exact iff_of_true (by rw [convert, convertSfpTxPower, sffValue, hs, ho]; rfl) fun h => SfpMonitor.noConfusion h
  | txBiasCurrent =>
      refine iff_of_true ?_ fun h => SfpMonitor.noConfusion h
      rw [convert, convertSfpTxBiasCurrent, sffValue, hs, ho]
      change _ * 2 / 1000 = 2 * _ / 1000
      rw [mul_comm 2]
      rfl
  | temp =>
      have hbyte : o.1.toNat < 128 := by rw [hoffset]; exact hlt
      rw [convert, convertSfpTemp, sffValue, hs, ho, hplain, sffOffset, offset_of_eq hoffset hlt, Int.cast_natCast]
      simp only [sffRaw, BitVec.slt, decide_eq_true_eq, forall_const]
      by_cases hneg : (wordOfBytes raw).toInt < 0
      · have hneg0 : (wordOfBytes raw).toInt < (0 : BitVec 16).toInt := hneg
        have hzero : ∀ b : Byte, b.toNat = 0 ↔ b = 0 := fun b => BitVec.toNat_inj (y := 0)
        rw [if_pos hneg0, if_pos hneg0, negative_eq_iff hbyte, hzero, hzero, forall_prop_of_true hneg]
      · have hneg0 : ¬(wordOfBytes raw).toInt < (0 : BitVec 16).toInt := hneg
        rw [if_neg hneg0, if_neg hneg0]
        exact iff_of_true rfl fun h => absurd h hneg

/-- External calibration follows SFF-8472 exactly on plain registers. -/
theorem followsSff_iff (monitor : SfpMonitor) (d : State) : monitor.FollowsSff d ↔
    (d.Clear 3 → monitor.Plain (registers d.hw monitor.valOffset) (registers d.hw monitor.slopeOffset)
      (registers d.hw monitor.constOffset)) := by
  constructor
  · intro h hclear
    have hread := (answers_valueRead monitor).mpr ⟨hclear, rfl⟩
    have hslope := calibSlope_eq_iff.mp (h.slope_eq _ _ hread)
    have hoffset := calibOffset_eq_iff.mp (h.offset_eq _ _ hread)
    exact ⟨hslope, hoffset, (convert_eq_iff hslope hoffset.1 hoffset.2).mp (h.value_eq _ _ hread)⟩
  · intro h
    refine ⟨fun buf info hread => ?_, fun buf info hread => ?_, fun buf info hread => ?_⟩
    · obtain ⟨hclear, hr⟩ := (answers_valueRead monitor).mp hread
      rw [(Prod.mk.inj hr).2]
      exact calibSlope_eq_iff.mpr (h hclear).slope
    · obtain ⟨hclear, hr⟩ := (answers_valueRead monitor).mp hread
      rw [(Prod.mk.inj hr).2]
      exact calibOffset_eq_iff.mpr (h hclear).offset
    · obtain ⟨hclear, hr⟩ := (answers_valueRead monitor).mp hread
      rw [(Prod.mk.inj hr).1, (Prod.mk.inj hr).2]
      exact (convert_eq_iff (h hclear).slope (h hclear).offset.1 (h hclear).offset.2).mpr (h hclear).negative

/-- Half a unit of slope is lost: the second register of the slope of the temperature is 128. -/
theorem not_followsSff_slope : ¬temp.FollowsSff
    ⟨fun _ => false, fun _ => none, 0, ⟨fun _ => 0, fun _ => ⟨Function.update (fun _ => 0) 85 128, fun _ _ => 0⟩,
      .create, [], 0, []⟩⟩ := by
  intro h
  have hslope := calibSlope_eq_iff.mp (h.slope_eq _ _ ((answers_valueRead temp).mpr ⟨fun _ _ => rfl, rfl⟩))
  exact absurd hslope (by decide)

end SfpMonitor

end OpxSdi.Media
