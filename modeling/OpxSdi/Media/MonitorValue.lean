import OpxSdi.Media.Calibration
import OpxSdi.Media.Monitor
import OpxSdi.Media.Tuning

/-!
# The values of the monitors of a module

`sdi_sfp_module_monitor_get`, `sdi_sfp_channel_monitor_get`, `sdi_qsfp_module_monitor_get` and
`sdi_qsfp_channel_monitor_get`. The `float` operations are those of `ℚ`, and `sdi_convert_mw_to_dbm` is a
function on `ℚ`.
-/

namespace OpxSdi.Media

open Lib

variable (convertMwToDbm : ℚ → ℚ)

/-! ## SFP modules -/

namespace Sfp

def rxInputPowerOffset : BitVec 32 := 104
def extCalRxPowerDataLen : Nat := 4

/-- The calibration of a module with diagnostic monitoring. The external one is tested for first. -/
def calibTypeGet (s : Sfp) : M SfpCalibType := do
  let diagMonValue ← s.parameterGet .diagMonType
  if diagMonValue.getLsbD ddmSupportBitOffset = false then Device.fail .eopnotsupp
  else if diagMonValue.getLsbD calibTypeExternalBitOffset then pure .external
  else if diagMonValue.getLsbD calibTypeInternalBitOffset then pure .internal
  else Device.fail .einval

def moduleMonitor : ModuleMonitor → SfpMonitor
  | .temp => .temp
  | .volt => .volt

/-- `sdi_sfp_module_monitor_get` -/
def moduleMonitorGet (s : Sfp) (monitor : ModuleMonitor) : M ℚ := do
  let type ← s.calibTypeGet
  let (buf, calibInfo) ← s.sel.withModule ((moduleMonitor monitor).valueRead type)
  pure ((moduleMonitor monitor).convert buf calibInfo)

/-- `sfp_rx_power_calib_info_t`: the constants from the fourth one down, of four bytes each -/
structure RxPowerCalibInfo where
  type : SfpCalibType
  data : List Byte

/-- `sdi_sfp_rx_power_value_read` -/
def rxPowerValueRead (type : SfpCalibType) : M ((Byte × Byte) × RxPowerCalibInfo) := do
  let buf ← smbusReadWord sfpI2cAddr rxInputPowerOffset
  if type = .external then do
    let data ← smbusReadMultiByte sfpI2cAddr calibRxPowerConstStartOffset extCalRxPowerLen
    pure (bytesOfWord buf, ⟨type, data⟩)
  else pure (bytesOfWord buf, ⟨type, []⟩)

/-- A constant as a `float`: its first byte -/
def RxPowerCalibInfo.const (calibInfo : RxPowerCalibInfo) (n : Nat) : ℚ :=
  (calibInfo.data.getD ((4 - n) * extCalRxPowerDataLen) 0).toNat

/-- `convert_sfp_rx_power` -/
def convertSfpRxPower (buf : Byte × Byte) (calibInfo : RxPowerCalibInfo) : ℚ :=
  let rxPower : ℚ := (wordOfBytes buf).toNat
  convertMwToDbm (match calibInfo.type with
    | .internal => rxPower / 10000
    | .external => calibInfo.const 4 * rxPower ^ 4 + calibInfo.const 3 * rxPower ^ 3 +
        calibInfo.const 2 * rxPower ^ 2 + calibInfo.const 1 * rxPower + calibInfo.const 0)

/-- `sdi_sfp_channel_monitor_get` -/
def channelMonitorGet (s : Sfp) (channel : BitVec 32) (monitor : ChannelMonitor) : M ℚ :=
  if channel ≠ channelNum then Device.fail .einval
  else do
    let type ← s.calibTypeGet
    match monitor with
    | .rxPwr => do
        let (buf, calibInfo) ← s.sel.withModule (rxPowerValueRead type)
        pure (convertSfpRxPower convertMwToDbm buf calibInfo)
    | .txBias => do
        let (buf, calibInfo) ← s.sel.withModule (SfpMonitor.txBiasCurrent.valueRead type)
        pure (convertSfpTxBiasCurrent buf calibInfo)
    | .txPwr => do
        let (buf, calibInfo) ← s.sel.withModule (SfpMonitor.txPower.valueRead type)
        pure (convertMwToDbm (convertSfpTxPower buf calibInfo))

end Sfp

/-! ## QSFP modules -/

namespace Qsfp

/-- `convert_qsfp_temp`: the negation of the lowest temperature is the lowest one again. -/
def convertQsfpTemp (buf : Byte × Byte) : ℚ :=
  let temp := wordOfBytes buf
  let isNegative := temp.slt 0
  let temp := if isNegative then ~~~temp + 1 else temp
  let calibTemp : ℚ := ((temp &&& 0xFF).toNat : ℚ) / 256 + ((temp &&& 0xFF00) >>> 8).toNat
  if isNegative then -calibTemp else calibTemp

/-- `convert_qsfp_volt` -/
def convertQsfpVolt (buf : Byte × Byte) : ℚ := ((wordOfBytes buf).toNat : ℚ) / 10000

/-- `convert_qsfp_rx_power` -/
def convertQsfpRxPower (buf : Byte × Byte) : ℚ := convertMwToDbm (((wordOfBytes buf).toNat : ℚ) / 10000)

/-- `convert_qsfp_tx_bias` -/
def convertQsfpTxBias (buf : Byte × Byte) : ℚ := (((wordOfBytes buf).toNat * 2 : ℕ) : ℚ) / 1000

def tempOffset (eepromVersion : Byte) : BitVec 32 :=
  if qsfp28DdEepromVersion3 ≤ eepromVersion then 14
  else if eepromVersion < qsfp28DdEepromVersion2 then 22 else 26

def voltOffset (eepromVersion : Byte) : BitVec 32 :=
  if qsfp28DdEepromVersion3 ≤ eepromVersion then 16
  else if eepromVersion < qsfp28DdEepromVersion2 then 26 else 30

/-- The value that `*value` is set to, and `none` if it is left alone -/
def moduleMonitorGet (q : Qsfp) (monitor : ModuleMonitor) : M (Option ℚ) := do
  let priv ← getPriv
  if priv.modType = .qsaAdapter then do
    Device.assert (priv.sfpDevice ≠ none)
    let value ← q.sfp.moduleMonitorGet monitor
    pure (some value)
  else match monitor with
    | .temp => do
        let wordBuf ← q.sel.withModule (smbusReadWord q.i2cAddr (tempOffset priv.eepromVersion))
        pure (some (convertQsfpTemp (bytesOfWord wordBuf)))
    | .volt => do
        let wordBuf ← q.sel.withModule (smbusReadWord q.i2cAddr (voltOffset priv.eepromVersion))
        pure (some (convertQsfpVolt (bytesOfWord wordBuf)))

/-- `QSFP_RX1_POWER_OFFSET` to `QSFP_DD_RX8_POWER_OFFSET` -/
def rxPowerOffset (channel : BitVec 32) : Except Errno (BitVec 32) :=
  match channel.toNat with
  | 0 => .ok 34
  | 1 => .ok 36
  | 2 => .ok 38
  | 3 => .ok 40
  | 4 => .ok 42
  | 5 => .ok 44
  | 6 => .ok 46
  | 7 => .ok 48
  | _ => .error .einval

/-- `QSFP_TX1_POWER_BIAS_OFFSET` to `QSFP_TX4_POWER_BIAS_OFFSET` -/
def txPowerBiasOffset (channel : BitVec 32) : Except Errno (BitVec 32) :=
  match channel.toNat with
  | 0 => .ok 42
  | 1 => .ok 44
  | 2 => .ok 46
  | 3 => .ok 48
  | _ => .error .einval

/-- `QSFP_DD_TX1_BIAS_OFFSET` to `QSFP_DD_TX8_BIAS_OFFSET` -/
def ddTxBiasOffset (channel : BitVec 32) : Except Errno (BitVec 32) :=
  match channel.toNat with
  | 0 => .ok 50
  | 1 => .ok 52
  | 2 => .ok 54
  | 3 => .ok 56
  | 4 => .ok 58
  | 5 => .ok 60
  | 6 => .ok 62
  | 7 => .ok 64
  | _ => .error .einval

/-- `QSFP_DD_TX1_POWER_OFFSET` to `QSFP_DD_TX8_POWER_OFFSET` -/
def ddTxPowerOffset (channel : BitVec 32) : Except Errno (BitVec 32) :=
  match channel.toNat with
  | 0 => .ok 66
  | 1 => .ok 68
  | 2 => .ok 70
  | 3 => .ok 72
  | 4 => .ok 74
  | 5 => .ok 76
  | 6 => .ok 78
  | 7 => .ok 80
  | _ => .error .einval

/-- The register that `sdi_qsfp_channel_monitor_get` reads -/
def channelMonitorOffset (category : QsfpCategory) (channel : BitVec 32) :
    ChannelMonitor → Except Errno (BitVec 32)
  | .rxPwr => rxPowerOffset channel
  | .txBias => if category = .qsfpdd then ddTxBiasOffset channel else txPowerBiasOffset channel
  | .txPwr => if category = .qsfpdd then ddTxPowerOffset channel else .error .eopnotsupp

/-- The conversion has no branch for the power of the transmitter. -/
def convertChannelMonitor (buf : Byte × Byte) : ChannelMonitor → Option ℚ
  | .rxPwr => some (convertQsfpRxPower convertMwToDbm buf)
  | .txBias => some (convertQsfpTxBias buf)
  | .txPwr => none

/-- `sdi_qsfp_channel_monitor_get`: the value that `*value` is set to, and `none` if it is left alone -/
def channelMonitorGet (q : Qsfp) (channel : BitVec 32) (monitor : ChannelMonitor) : M (Option ℚ) := do
  let priv ← getPriv
  if priv.modType = .qsaAdapter then do
    Device.assert (priv.sfpDevice ≠ none)
    let value ← q.sfp.channelMonitorGet convertMwToDbm channel monitor
    pure (some value)
  else if validateChannel channel priv.modCategory = false then Device.fail .param
  else do
    let regOffset ← Device.ofResult (channelMonitorOffset priv.modCategory channel monitor)
    let tempBuf ← q.sel.withModule (smbusReadWord q.i2cAddr regOffset)
    pure (convertChannelMonitor convertMwToDbm (bytesOfWord tempBuf) monitor)

end Qsfp

end OpxSdi.Media
