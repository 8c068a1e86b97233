import OpxSdi.Media.Pages

/-!
# Tuning an SFP module

`sdi_sfp_wavelength_set`, and `sdi_sfp_threshold_get`, which the QSFP driver calls for an adapter. The
registers for tuning are at the second I2C address, on a page of their own (`SDI_SFP_TUNABLE_PAGE`).
-/

namespace OpxSdi.Media

open Lib

namespace Sfp

def tuneTypeSupportOffset : BitVec 32 := 128
def tunableFreqCapabilitiesOffset : BitVec 32 := 132
def tunableFreqCapabilitiesLen : Nat := 10
def channelNumberSetOffset : BitVec 32 := 144
def txFreqChannelTuneSupportBitmask : Nat := 1
def txWavelengthTuneSupportBitmask : Nat := 0
def wavelengthSetPollPeriodMs : Nat := 10
def wavelengthSetTimeoutMs : Nat := 100

/-! ## What the module can be tuned to -/

/-- `sdi_sfp_tunable_capabilities_t`, without the number of channels, which nothing reads -/
structure TunableCapabilities where
  minFreq : Float32
  maxFreq : Float32
  gridSpacing : Float32
  channelSetSupport : Bool
  wavelengthSetSupport : Bool

/-- `SDI_TWO_BYTE_TO_UINT16` -/
def twoByteToUint16 (msb lsb : Byte) : UInt16 := ⟨(msb ++ lsb : BitVec (8 + 8))⟩

/-- `SDI_FREQ_FRACTIONAL_PART_DIVISION_FACTOR` -/
def freqFractionalPartDivisionFactor : Float := 10000.0

/-- `SDI_FREQ_JOIN` -/
def freqJoin (integerPart fracPart : UInt16) : Float32 :=
  (integerPart.toFloat32.toFloat + fracPart.toFloat32.toFloat / freqFractionalPartDivisionFactor).toFloat32

/-- The capabilities in the bytes that the module gives for them. -/
def tunableCapabilities (supportBuf : Byte) (capabilitiesBuf : List Byte) : TunableCapabilities :=
  let uint16 (pos : Nat) := twoByteToUint16 (capabilitiesBuf.getD pos 0) (capabilitiesBuf.getD (pos + 1) 0)
  { minFreq := freqJoin (uint16 0) (uint16 2)
    maxFreq := freqJoin (uint16 4) (uint16 6)
    gridSpacing := ((uint16 8).toFloat32.toFloat / freqFractionalPartDivisionFactor).toFloat32
    channelSetSupport := supportBuf.getLsbD txFreqChannelTuneSupportBitmask
    wavelengthSetSupport := supportBuf.getLsbD txWavelengthTuneSupportBitmask }

/-- `sdi_sfp_get_tunable_capabilities` -/
def getTunableCapabilities : M TunableCapabilities := do
  let supportBuf ← smbusReadByte sfpI2cAddr tuneTypeSupportOffset
  if supportBuf.getLsbD txFreqChannelTuneSupportBitmask = false ∧
      supportBuf.getLsbD txWavelengthTuneSupportBitmask = false then
    Device.fail .eopnotsupp
  else do
    let capabilitiesBuf ←
      smbusReadMultiByte sfpI2cAddr tunableFreqCapabilitiesOffset tunableFreqCapabilitiesLen
    let tuneCap := tunableCapabilities supportBuf capabilitiesBuf
    if tuneCap.maxFreq < tuneCap.minFreq then Device.fail .ebadmsg
    else pure tuneCap

/-! ## Setting the wavelength -/

/-- `WAVELENGTH_NM_TO_FREQ_THZ`, with the speed of light in m/s -/
def wavelengthNmToFreqThz (wav : Float32) : Float32 := (0.001 * 299792458.0 / wav.toFloat).toFloat32

/-- `SDI_GET_CHANNEL_NO_FROM_FREQ`, to 16 bits. C leaves the result of a spacing of 0 open. -/
def getChannelNoFromFreq (targetFreq firstFreq gridSpacing : Float32) : UInt16 :=
  (1 + (targetFreq - firstFreq) / gridSpacing).round.toInt64.toUInt64.toUInt16

/-- Write two bytes, the most significant one first. -/
def writeBigEndian (offset : BitVec 32) (value : UInt16) : M Unit := do
  smbusWriteByte sfpI2cAddr offset ((value.toBitVec >>> 8).setWidth 8)
  smbusWriteByte sfpI2cAddr (offset + 1) (value.toBitVec.setWidth 8)

/-- `sdi_sfp_set_tunable_module_by_wavelength` -/
def setTunableModuleByWavelength (tuneCap : TunableCapabilities) (wavelengthNm : Float32) : M Unit :=
  let targetFreqThz := wavelengthNmToFreqThz wavelengthNm
  if targetFreqThz > tuneCap.maxFreq ∨ targetFreqThz < tuneCap.minFreq then Device.fail .einval
  else if tuneCap.channelSetSupport then
    writeBigEndian channelNumberSetOffset
      (getChannelNoFromFreq targetFreqThz tuneCap.minFreq tuneCap.gridSpacing)
  else if tuneCap.wavelengthSetSupport then
    writeBigEndian wavelengthSetOffset (wavelengthNm.toFloat / 0.05).toUInt16
  else Device.fail .eopnotsupp

def tecFaultBitmask : Byte := 1 <<< 6
def wavUnlockedBitmask : Byte := 1 <<< 5
def txTuningBitmask : Byte := 1 <<< 4
def latchedBadChannelBitmask : Byte := 1 <<< 4
def latchedNewChannelAcquiredBitmask : Byte := 1 <<< 3

/-- `TEST_LATCHED_STATUS`: the masks are joined by `&`, so that no bit is left. -/
def testLatchedStatus (x : Byte) : Bool := x &&& tecFaultBitmask &&& wavUnlockedBitmask &&& txTuningBitmask = 0

/-- `TEST_UNLATCHED_STATUS` -/
def testUnlatchedStatus (x : Byte) : Bool :=
  x &&& tecFaultBitmask &&& wavUnlockedBitmask &&& latchedBadChannelBitmask &&& latchedNewChannelAcquiredBitmask = 0

/-- The polls of `sdi_sfp_tune_set_status_get`, with the statuses and the return code of the last one.
A read that fails leaves the status as it was. -/
def pollTuneSetStatus : (polls : Nat) → (unlatched latched : Byte) → (rc : Except Errno Byte) →
    M (Except Errno Byte × Bool)
  | 0, _, _, rc => pure (rc, false)
  | polls + 1, unlatched, latched, _ => do
      let rc ← Device.attempt (smbusReadByte sfpI2cAddr tuneTypeSupportOffset)
      let unlatched := rc.toOption.getD unlatched
      let rc ← Device.attempt (smbusReadByte sfpI2cAddr tuneTypeSupportOffset)
      let latched := rc.toOption.getD latched
      if testUnlatchedStatus unlatched && testLatchedStatus latched then pure (rc, true)
      else pollTuneSetStatus polls unlatched latched rc

/-- `sdi_sfp_tune_set_status_get`: the return code and the status -/
def tuneSetStatusGet : M (Except Errno Byte × Bool) :=
  pollTuneSetStatus (wavelengthSetTimeoutMs / wavelengthSetPollPeriodMs) (~~~0) (~~~0) (.ok 0)

/-- Tune the module while its page is selected. -/
def tune (value : Float32) : M Unit := do
  let tuneCap ← getTunableCapabilities
  setTunableModuleByWavelength tuneCap value
  let (rc, status) ← tuneSetStatusGet
  let _ ← Device.ofResult rc
  if status then pure () else Device.fail .notOk

/-- `sdi_sfp_wavelength_set`. The default page is selected at the end only: an error of `tune` leaves before
that. -/
def wavelengthSet (s : Sfp) (value : Float32) : M Unit :=
  if value.toFloat ≤ 0.0 then Device.fail .einval
  else s.sel.withModule do
    let status ← s.isWavelengthTuneSupported
    -- A module that cannot be tuned is no error.
    if status = false then pure ()
    else do
      pageSelect tunablePage
      tune value
      pageSelect defaultPage

/-! ## Thresholds -/

def ddmSupportBitOffset : Nat := 6
def calibTypeExternalBitOffset : Nat := 4
def calibTypeInternalBitOffset : Nat := 5
def calibRxPowerConstStartOffset : BitVec 32 := 56
def extCalRxPowerLen : Nat := 20

/-- `threshold_reg_info` -/
def thresholdRegInfo : MediaThresholdType → BitVec 32
  | .tempHighAlarm => 0
  | .tempLowAlarm => 2
  | .tempHighWarning => 4
  | .tempLowWarning => 6
  | .voltHighAlarm => 8
  | .voltLowAlarm => 10
  | .voltHighWarning => 12
  | .voltLowWarning => 14
  | .rxPwrHighAlarm => 32
  | .rxPwrLowAlarm => 34
  | .rxPwrHighWarning => 36
  | .rxPwrLowWarning => 38
  | .txBiasHighAlarm => 16
  | .txBiasLowAlarm => 18
  | .txBiasHighWarning => 20
  | .txBiasLowWarning => 22
  | .txPwrHighAlarm => 24
  | .txPwrLowAlarm => 26
  | .txPwrHighWarning => 28
  | .txPwrLowWarning => 30

/-- The slope and the constant that calibrate a monitor. The received power has constants only. -/
def calibOffsets : MediaThresholdType → BitVec 32 × BitVec 32
  | .tempHighAlarm | .tempLowAlarm | .tempHighWarning | .tempLowWarning => (84, 86)
  | .voltHighAlarm | .voltLowAlarm | .voltHighWarning | .voltLowWarning => (88, 90)
  | .txBiasHighAlarm | .txBiasLowAlarm | .txBiasHighWarning | .txBiasLowWarning => (76, 78)
  | .txPwrHighAlarm | .txPwrLowAlarm | .txPwrHighWarning | .txPwrLowWarning => (80, 82)
  | .rxPwrHighAlarm | .rxPwrLowAlarm | .rxPwrHighWarning | .rxPwrLowWarning => (0, calibRxPowerConstStartOffset)

/-- The words from which a threshold is computed. -/
inductive CalibInfo
  | internal
  | external (slope offset : BitVec 16)
  | externalRxPower (data : List Byte)

/-- `sdi_sfp_threshold_get`, up to the conversion to a floating-point number: the word of the threshold and
what calibrates it -/
def thresholdGet (s : Sfp) (thresholdType : MediaThresholdType) : M (BitVec 16 × CalibInfo) := do
  let diagMonValue ← s.parameterGet .diagMonType
  if diagMonValue.getLsbD ddmSupportBitOffset = false then Device.fail .eopnotsupp
  else if diagMonValue.getLsbD calibTypeExternalBitOffset = false ∧
      diagMonValue.getLsbD calibTypeInternalBitOffset = false then Device.fail .einval
  else s.sel.withModule do
    let tempBuf ← smbusReadWord sfpI2cAddr (thresholdRegInfo thresholdType)
    let (slopeOffset, constOffset) := calibOffsets thresholdType
    if diagMonValue.getLsbD calibTypeExternalBitOffset = false then pure (tempBuf, .internal)
    else if constOffset = calibRxPowerConstStartOffset then do
      let rxPowerData ← smbusReadMultiByte sfpI2cAddr constOffset extCalRxPowerLen
      pure (tempBuf, .externalRxPower rxPowerData)
    else do
      let slope ← smbusReadWord sfpI2cAddr slopeOffset
      let offset ← smbusReadWord sfpI2cAddr constOffset
      pure (tempBuf, .external slope offset)

end Sfp

end OpxSdi.Media
