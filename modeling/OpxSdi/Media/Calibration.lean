import Mathlib.Algebra.Order.Field.Rat
import OpxSdi.Media.Sfp

/-!
# Calibration of the monitors of an SFP

`sdi_sfp_module_monitor_value_read` and the conversions of the values that it reads. The `float` operations
are those of `ℚ`, and the bytes of a word lie in memory with the least significant first.
-/

namespace OpxSdi.Media

open Lib

/-- `sfp_calib_info_type_t` -/
inductive SfpCalibType
  | internal | external
  deriving DecidableEq, Repr

/-- `sfp_calib_info_t` -/
structure SfpCalibInfo where
  type : SfpCalibType
  offset : BitVec 16
  slope : Byte × Byte

/-- `sdi_platform_util_write_16bit_to_bytearray_le`, and a word that is stored into two bytes -/
def bytesOfWord (value : BitVec 16) : Byte × Byte := (value.setWidth 8, (value >>> 8).setWidth 8)

/-- `sdi_sfp_module_monitor_value_read`: the bytes of the value and the calibration information after it -/
def moduleMonitorValueRead (valOffset : BitVec 32) (calibInfo : SfpCalibInfo) (vsOffset vcOffset : BitVec 32) :
    M ((Byte × Byte) × SfpCalibInfo) := do
  let buf ← smbusReadWord Sfp.sfpI2cAddr valOffset
  if calibInfo.type = .external then do
    let tempBuf ← smbusReadWord Sfp.sfpI2cAddr vsOffset
    let offset ← smbusReadWord Sfp.sfpI2cAddr vcOffset
    pure (bytesOfWord buf, { calibInfo with slope := bytesOfWord tempBuf, offset })
  else pure (bytesOfWord buf, calibInfo)

namespace SfpCalibInfo

/-- The slope of the external calibration: the quotient is one of integers. -/
def calibSlope (calibInfo : SfpCalibInfo) : ℚ := ((calibInfo.slope.2.toNat / 256 : ℕ) : ℚ) + calibInfo.slope.1.toNat

/-- The offset of the external calibration as a `float` -/
def calibOffset (calibInfo : SfpCalibInfo) : ℚ := calibInfo.offset.toNat

end SfpCalibInfo

/-- The bytes as a big-endian word -/
def wordOfBytes (buf : Byte × Byte) : BitVec 16 := buf.1 ++ buf.2

/-- `convert_sfp_temp` -/
def convertSfpTemp (buf : Byte × Byte) (calibInfo : SfpCalibInfo) : ℚ :=
  let temp := wordOfBytes buf
  let isNegative := temp.slt 0
  let temp := if isNegative then ~~~temp + 1 else temp
  let calibTemp : ℚ := match calibInfo.type with
    | .internal => ((temp &&& 0xFF).toNat : ℚ) / 256 + ((temp &&& 0xFF00) >>> 8).toNat
    | .external => (calibInfo.calibSlope * temp.toInt + calibInfo.calibOffset) / 256
  if isNegative then -calibTemp else calibTemp

/-- `convert_sfp_volt` -/
def convertSfpVolt (buf : Byte × Byte) (calibInfo : SfpCalibInfo) : ℚ :=
  let volt := wordOfBytes buf
  match calibInfo.type with
  | .internal => (volt.toNat : ℚ) / 10000
  | .external => (calibInfo.calibSlope * volt.toNat + calibInfo.calibOffset) / 10000

/-- `convert_sfp_tx_power` up to its call of `sdi_convert_mw_to_dbm` -/
def convertSfpTxPower (buf : Byte × Byte) (calibInfo : SfpCalibInfo) : ℚ :=
  let txPwr := wordOfBytes buf
  match calibInfo.type with
  | .internal => (txPwr.toNat : ℚ) / 10000
  | .external => (calibInfo.calibSlope * txPwr.toNat + calibInfo.calibOffset) / 10000

/-- `convert_sfp_tx_bias_current` -/
def convertSfpTxBiasCurrent (buf : Byte × Byte) (calibInfo : SfpCalibInfo) : ℚ :=
  let txBias := wordOfBytes buf
  match calibInfo.type with
  | .internal => ((txBias.toNat * 2 : ℕ) : ℚ) / 1000
  | .external =>
      let calibTxBias := calibInfo.calibSlope * txBias.toNat + calibInfo.calibOffset
      calibTxBias * 2 / 1000

/-- The monitors that are calibrated with a slope and an offset -/
inductive SfpMonitor
  | temp | volt | txPower | txBiasCurrent
  deriving DecidableEq, Repr

namespace SfpMonitor

def valOffset : SfpMonitor → BitVec 32
  | temp => 96
  | volt => 98
  | txPower => 102
  | txBiasCurrent => 100

def slopeOffset : SfpMonitor → BitVec 32
  | temp => 84
  | volt => 88
  | txPower => 80
  | txBiasCurrent => 76

def constOffset : SfpMonitor → BitVec 32
  | temp => 86
  | volt => 90
  | txPower => 82
  | txBiasCurrent => 78

/-- The read in `sdi_sfp_module_monitor_get` and `sdi_sfp_channel_monitor_get` -/
def valueRead (monitor : SfpMonitor) (type : SfpCalibType) : M ((Byte × Byte) × SfpCalibInfo) :=
  moduleMonitorValueRead monitor.valOffset ⟨type, 0, 0, 0⟩ monitor.slopeOffset monitor.constOffset

def convert : SfpMonitor → (buf : Byte × Byte) → SfpCalibInfo → ℚ
  | temp => convertSfpTemp
  | volt => convertSfpVolt
  | txPower => convertSfpTxPower
  | txBiasCurrent => convertSfpTxBiasCurrent

end SfpMonitor

end OpxSdi.Media
