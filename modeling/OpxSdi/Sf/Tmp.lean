import OpxSdi.Sf.ExtCtrl
import OpxSdi.Thermal.Sensors
import OpxSdi.CommDev.ExtCtrlTheorems

/-!
# Temperatures behind SmartFusion (`sdi_sf_tmp.c`)

The sensor and its thresholds are registers of two bytes, the high one first. `data` is the caller's variable.
-/

namespace OpxSdi.Sf

open Lib
open Thermal (Threshold)

/-- The members of `sdi_sf_tmp_device_t` that the temperature and the thresholds are got with -/
structure TmpDevice where
  tempSensorAddrOffset : BitVec 16
  tempLowThresholdAddrOffset : BitVec 16
  tempHighThresholdAddrOffset : BitVec 16
  lowThresholdOffsetValid : Bool
  highThresholdOffsetValid : Bool

def tmpRegisterTwoByteWidth : Nat := 2

/-- The high and the low byte. The bus is released also after a failure. -/
def readTmpBytes (offset : BitVec 16) (width : Nat) : RegBus.M (BitVec 32) Errno (Byte × Byte) := do
  sfIoAcquireBus
  let highByteTmpValue ← RegBus.readByte (offset.setWidth 32)
  let lowByteTmpValue ← if width = 2 then RegBus.readByte (offset.setWidth 32 + 1) else pure 0
  pure (highByteTmpValue, lowByteTmpValue)

def tmpDataGet (offset : BitVec 16) (width : Nat) (data : BitVec 32) (bus : ExtCtrlBus) :
    (TStdError × BitVec 32) × ExtCtrlBus :=
  match (readTmpBytes offset width).out bus with
  | (.error e, bus) => ((stopRc e, data), bus)
  | (.ok (high, low), bus) =>
      -- The data is not ready.
      if low = 0xff ∧ high = 0xff then ((.errcode .einval, data), bus)
      else ((.ok, high.setWidth 32 <<< 8 ||| low.setWidth 32), bus)

def tmpTemperatureGet (dev : TmpDevice) (temperature : BitVec 32) (bus : ExtCtrlBus) :
    (TStdError × BitVec 32) × ExtCtrlBus :=
  let ((rc, temperature), bus) := tmpDataGet dev.tempSensorAddrOffset tmpRegisterTwoByteWidth temperature bus
  if rc ≠ .ok then ((rc, temperature), bus) else ((rc, temperature.sdiv 10), bus)

def tmpThresholdGet (dev : TmpDevice) (type : Threshold) (temperature : BitVec 32) (bus : ExtCtrlBus) :
    (TStdError × BitVec 32) × ExtCtrlBus :=
  match type with
  | .low =>
      if dev.lowThresholdOffsetValid then
        tmpDataGet dev.tempLowThresholdAddrOffset tmpRegisterTwoByteWidth temperature bus
      else ((.errcode .eopnotsupp, temperature), bus)
  | .high =>
      if dev.highThresholdOffsetValid then
        tmpDataGet dev.tempHighThresholdAddrOffset tmpRegisterTwoByteWidth temperature bus
      else ((.errcode .eopnotsupp, temperature), bus)
  | .critical => ((.errcode .eopnotsupp, temperature), bus)

/-! ## Degrees and tenths of a degree

A temperature is divided by ten, a threshold is not.
-/

section

/-! ### One register -/

/-- The two bytes of a register, as a number without sign -/
def rawAt (regs : BitVec 32 → Byte) (offset : BitVec 16) : Nat :=
  (regs (offset.setWidth 32)).toNat * 256 + (regs (offset.setWidth 32 + 1)).toNat

/-- The bus is acquired and two bytes are read, which are not those of a register that is not ready. -/
def Ready (bus : ExtCtrlBus) (offset : BitVec 16) : Prop := bus.Quiet 3 ∧ rawAt bus.regs offset ≠ 0xffff

theorem rawAt_eq_max_iff (regs : BitVec 32 → Byte) (offset : BitVec 16) : rawAt regs offset = 0xffff ↔
    regs (offset.setWidth 32 + 1) = 0xff ∧ regs (offset.setWidth 32) = 0xff := by
  have hhigh := (regs (offset.setWidth 32)).isLt
  have hlow := (regs (offset.setWidth 32 + 1)).isLt
  rw [rawAt, ← BitVec.toNat_inj, ← BitVec.toNat_inj]
  change _ ↔ _ = 255 ∧ _ = 255
  omega

theorem quiet_three_iff {bus : ExtCtrlBus} : bus.Quiet 3 ↔
    bus.fault bus.time = none ∧ bus.fault (bus.time + 1) = none ∧ bus.fault (bus.time + 2) = none := by
  refine ⟨fun h => ⟨h 0 (by omega), h 1 (by omega), h 2 (by omega)⟩, fun ⟨h0, h1, h2⟩ t ht => ?_⟩
  obtain rfl | rfl | rfl : t = 0 ∨ t = 1 ∨ t = 2 := by omega
  · exact h0
  · exact h1
  · exact h2

/-- The two bytes are read if none of three operations fails, and else the error of one is returned. -/
theorem readTmpBytes_out (offset : BitVec 16) (bus : ExtCtrlBus) : ∃ r bus',
    (readTmpBytes offset tmpRegisterTwoByteWidth).out bus = (r, bus') ∧
      (bus.Quiet 3 → r = .ok (bus.regs (offset.setWidth 32), bus.regs (offset.setWidth 32 + 1))) ∧
      (¬bus.Quiet 3 → ∃ e, r = .error (.bus e)) := by
  rw [quiet_three_iff, readTmpBytes]
  cases h0 : bus.fault bus.time with
  | some e => exact ⟨_, _, Acts.out_bind_error (RegBus.transact_fault _ h0), by simp, fun _ => ⟨e, rfl⟩⟩
  | none =>
      have hacquire : sfIoAcquireBus.out bus = _ := RegBus.transact_ok _ h0
      rw [Acts.out_bind_ok hacquire]
      cases h1 : bus.fault (bus.time + 1) with
      | some e =>
          exact ⟨_, _, Acts.out_bind_error (RegBus.transact_fault _ h1), by simp, fun _ => ⟨e, rfl⟩⟩
      | none =>
          have hhigh : (RegBus.readByte (offset.setWidth 32)).out { bus with time := bus.time + 1 } = _ :=
            RegBus.transact_ok _ h1
          rw [Acts.out_bind_ok hhigh]
          cases h2 : bus.fault (bus.time + 2) with
          | some e =>
              exact ⟨_, _, Acts.out_bind_error (RegBus.transact_fault _ h2), by simp, fun _ => ⟨e, rfl⟩⟩
          | none =>
              exact ⟨_, _, Acts.out_bind_ok (RegBus.transact_ok _ h2), fun _ => rfl, by simp⟩

theorem tmpDataGet_ok (offset : BitVec 16) (data : BitVec 32) (bus : ExtCtrlBus) :
    ((tmpDataGet offset tmpRegisterTwoByteWidth data bus).1.1 = .ok ↔ Ready bus offset) ∧
      (Ready bus offset →
        (tmpDataGet offset tmpRegisterTwoByteWidth data bus).1.2.toNat = rawAt bus.regs offset) := by
  obtain ⟨r, bus', hout, hok, herr⟩ := readTmpBytes_out offset bus
  rw [Ready, ne_eq, rawAt_eq_max_iff, tmpDataGet, hout]
  by_cases hquiet : bus.Quiet 3
  · rw [hok hquiet]
    dsimp only
    split
    · rename_i hmax
      exact ⟨iff_of_false (fun h => (by cases h)) fun h => h.2 hmax, fun h => absurd hmax h.2⟩
    · rename_i hmax
      exact ⟨iff_of_true rfl ⟨hquiet, hmax⟩, fun _ => toNat_shiftLeft_or _ _⟩
  · obtain ⟨e, rfl⟩ := herr hquiet
    exact ⟨iff_of_false (fun h => (by cases h)) fun h => hquiet h.1, fun h => absurd h.1 hquiet⟩

theorem rawAt_lt (regs : BitVec 32 → Byte) (offset : BitVec 16) : rawAt regs offset < 2 ^ 16 := by
  have hhigh := (regs (offset.setWidth 32)).isLt
  have hlow := (regs (offset.setWidth 32 + 1)).isLt
  rw [rawAt]
  omega

/-! ### The temperature and its thresholds -/

/-- The register of a threshold, if it has one -/
def TmpDevice.thresholdOffset (dev : TmpDevice) : Threshold → Option (BitVec 16)
  | .low => if dev.lowThresholdOffsetValid then some dev.tempLowThresholdAddrOffset else none
  | .high => if dev.highThresholdOffsetValid then some dev.tempHighThresholdAddrOffset else none
  | .critical => none

theorem tmpTemperatureGet_ok (dev : TmpDevice) (temperature : BitVec 32) (bus : ExtCtrlBus) :
    ((tmpTemperatureGet dev temperature bus).1.1 = .ok ↔ Ready bus dev.tempSensorAddrOffset) ∧
      (Ready bus dev.tempSensorAddrOffset →
        (tmpTemperatureGet dev temperature bus).1.2.toInt = (rawAt bus.regs dev.tempSensorAddrOffset / 10 : Nat)) := by
  obtain ⟨hrc, hdata⟩ := tmpDataGet_ok dev.tempSensorAddrOffset temperature bus
  have hlt := rawAt_lt bus.regs dev.tempSensorAddrOffset
  rw [tmpTemperatureGet]
  generalize tmpDataGet dev.tempSensorAddrOffset tmpRegisterTwoByteWidth temperature bus = out at hrc hdata
  obtain ⟨⟨rc, data⟩, bus'⟩ := out
  by_cases hok : rc = .ok
  · have hready := hrc.mp hok
    have htemp : (data.sdiv 10).toNat = rawAt bus.regs dev.tempSensorAddrOffset / 10 := by
      rw [toNat_sdiv_ten (by rw [hdata hready]; omega), hdata hready]
    simp only [hok, ne_eq, not_true_eq_false, ↓reduceIte, true_iff]
    refine ⟨hready, fun _ => ?_⟩
    rw [BitVec.toInt_eq_toNat_of_lt (by omega), htemp]
  · simp only [ne_eq, hok, not_false_eq_true, ↓reduceIte]
    exact ⟨iff_of_false (fun h => h) fun hready => hok (hrc.mpr hready), fun hready => absurd (hrc.mpr hready) hok⟩

theorem tmpDataGet_toInt {offset : BitVec 16} {bus : ExtCtrlBus} (h : Ready bus offset) (data : BitVec 32) :
    (tmpDataGet offset tmpRegisterTwoByteWidth data bus).1.2.toInt = (rawAt bus.regs offset : Nat) := by
  have hdata := (tmpDataGet_ok offset data bus).2 h
  have hlt := rawAt_lt bus.regs offset
  rw [BitVec.toInt_eq_toNat_of_lt (by omega), hdata]

theorem tmpThresholdGet_of_offset {dev : TmpDevice} {type : Threshold} {offset : BitVec 16}
    (h : dev.thresholdOffset type = some offset) (temperature : BitVec 32) (bus : ExtCtrlBus) :
    tmpThresholdGet dev type temperature bus = tmpDataGet offset tmpRegisterTwoByteWidth temperature bus := by
  rw [tmpThresholdGet.eq_def]
  cases type with
  | low =>
      simp only [TmpDevice.thresholdOffset, Option.ite_none_right_eq_some, Option.some.injEq] at h
      obtain ⟨hvalid, rfl⟩ := h
      exact if_pos hvalid
  | high =>
      simp only [TmpDevice.thresholdOffset, Option.ite_none_right_eq_some, Option.some.injEq] at h
      obtain ⟨hvalid, rfl⟩ := h
      exact if_pos hvalid
  | critical => cases h

/-! ### Both drivers -/

/-- A temperature and a threshold that have been got are in one unit. -/
structure SameUnit (dev : TmpDevice) (type : Threshold) (sensor limit : ExtCtrlBus) : Prop where
  equal : ∀ temperature threshold offset, (tmpTemperatureGet dev temperature sensor).1.1 = .ok →
    (tmpThresholdGet dev type threshold limit).1.1 = .ok → dev.thresholdOffset type = some offset →
    rawAt sensor.regs dev.tempSensorAddrOffset = rawAt limit.regs offset →
    (tmpTemperatureGet dev temperature sensor).1.2 = (tmpThresholdGet dev type threshold limit).1.2
  ordered : ∀ temperature threshold offset, (tmpTemperatureGet dev temperature sensor).1.1 = .ok →
    (tmpThresholdGet dev type threshold limit).1.1 = .ok → dev.thresholdOffset type = some offset →
    rawAt limit.regs offset ≤ rawAt sensor.regs dev.tempSensorAddrOffset →
    (tmpThresholdGet dev type threshold limit).1.2.toInt ≤ (tmpTemperatureGet dev temperature sensor).1.2.toInt

/-- A raw threshold is not above the raw temperature without being above its tenth iff both are in the same unit. -/
theorem sameUnit_iff (dev : TmpDevice) (type : Threshold) (sensor limit : ExtCtrlBus) :
    SameUnit dev type sensor limit ↔ ∀ offset, dev.thresholdOffset type = some offset →
      Ready sensor dev.tempSensorAddrOffset → Ready limit offset →
      rawAt limit.regs offset ≤ rawAt sensor.regs dev.tempSensorAddrOffset →
      rawAt limit.regs offset ≤ rawAt sensor.regs dev.tempSensorAddrOffset / 10 := by
  constructor
  · intro h offset hoffset hsensor hlimit hle
    have hthreshold := tmpThresholdGet_of_offset hoffset 0 limit
    have hordered := h.ordered 0 0 offset ((tmpTemperatureGet_ok dev 0 sensor).1.mpr hsensor)
      (by rw [hthreshold, (tmpDataGet_ok offset 0 limit).1]; exact hlimit) hoffset hle
    rw [hthreshold, tmpDataGet_toInt hlimit, (tmpTemperatureGet_ok dev 0 sensor).2 hsensor] at hordered
    exact Int.ofNat_le.mp hordered
  · intro h
    have hvalues (temperature threshold : BitVec 32) (offset : BitVec 16)
        (htemp : (tmpTemperatureGet dev temperature sensor).1.1 = .ok)
        (hthr : (tmpThresholdGet dev type threshold limit).1.1 = .ok)
        (hoffset : dev.thresholdOffset type = some offset)
        (hle : rawAt limit.regs offset ≤ rawAt sensor.regs dev.tempSensorAddrOffset) :
        rawAt limit.regs offset ≤ rawAt sensor.regs dev.tempSensorAddrOffset / 10 ∧
        (tmpTemperatureGet dev temperature sensor).1.2.toInt =
          (rawAt sensor.regs dev.tempSensorAddrOffset / 10 : Nat) ∧
        (tmpThresholdGet dev type threshold limit).1.2.toInt = (rawAt limit.regs offset : Nat) := by
      rw [tmpThresholdGet_of_offset hoffset] at hthr ⊢
      have hsensor := (tmpTemperatureGet_ok dev temperature sensor).1.mp htemp
      have hlimit := (tmpDataGet_ok offset threshold limit).1.mp hthr
      exact ⟨h offset hoffset hsensor hlimit hle, (tmpTemperatureGet_ok dev temperature sensor).2 hsensor,
        tmpDataGet_toInt hlimit threshold⟩
    refine ⟨fun temperature threshold offset htemp hthr hoffset heq => ?_,
      fun temperature threshold offset htemp hthr hoffset hle => ?_⟩
    · obtain ⟨hle, htemp, hthr⟩ := hvalues temperature threshold offset htemp hthr hoffset (Nat.le_of_eq heq.symm)
      apply BitVec.eq_of_toInt_eq
      rw [htemp, hthr]
      exact congrArg Nat.cast (by omega)
    · obtain ⟨hle, htemp, hthr⟩ := hvalues temperature threshold offset htemp hthr hoffset hle
      rw [htemp, hthr]
      exact Int.ofNat_le.mpr hle

open CommDev (MemDev CtrlReadsBack InTenths)

/-- Tenths of a degree are handled as they should be iff the temperature that is set has no sign and fits, no failure
to receive its first byte is lost, and a threshold that the temperature has reached is not above its tenth. -/
theorem tenths_consistent_iff (d : MemDev) (ctrlOffset : BitVec 16) (refresh : Bool) (t : BitVec 32)
    (fault : Nat → Option Errno) (dev : TmpDevice) (type : Threshold) (sensor limit : ExtCtrlBus) :
    CtrlReadsBack d ctrlOffset refresh t fault ∧ SameUnit dev type sensor limit ↔
      (InTenths t ∧ (fault 0 = none → fault 2 = none → fault 1 = none ∧ 0 ≤ t.toInt)) ∧
      ∀ offset, dev.thresholdOffset type = some offset →
        Ready sensor dev.tempSensorAddrOffset → Ready limit offset →
        rawAt limit.regs offset ≤ rawAt sensor.regs dev.tempSensorAddrOffset →
        rawAt limit.regs offset ≤ rawAt sensor.regs dev.tempSensorAddrOffset / 10 :=
  and_congr (CommDev.ctrlReadsBack_iff d ctrlOffset refresh t fault) (sameUnit_iff dev type sensor limit)

/-- Two bytes of 250 tenths of a degree at every even address -/
def bus250 : ExtCtrlBus := ⟨fun a => if a.toNat % 2 = 0 then 0 else 250, fun _ => none, 0⟩

/-- Minus one degree does not come back, 4000 degrees are not refused, and 25 degrees are below a threshold of 25. -/
theorem not_tenths_consistent :
    ¬CtrlReadsBack ⟨fun _ => 0, 0⟩ 0x7c7a false (-1) (fun _ => none) ∧
    ¬CtrlReadsBack ⟨fun _ => 0, 0⟩ 0x7c7a false 4000 (fun _ => none) ∧
    ¬SameUnit ⟨0, 2, 4, true, true⟩ .high bus250 bus250 := by
  refine ⟨fun h => ?_, fun h => ?_, fun h => ?_⟩
  · obtain ⟨-, hread⟩ := (CommDev.ctrlReadsBack_iff ..).mp h
    exact absurd (hread rfl rfl).2 (by decide)
  · obtain ⟨hfits, -⟩ := (CommDev.ctrlReadsBack_iff ..).mp h
    exact absurd hfits (by decide)
  · exact absurd (h.equal 0 0 4 rfl rfl rfl rfl) (by decide)

end

end OpxSdi.Sf
