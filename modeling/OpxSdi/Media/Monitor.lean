import OpxSdi.Lib.Flags
import OpxSdi.Media.Qsfp

/-!
# The monitors of a module

The alarms and warnings of a module and of its channels: `sdi_sfp_module_monitor_status_get`,
`sdi_sfp_channel_monitor_status_get`, `sdi_qsfp_module_monitor_status_get` and
`sdi_qsfp_channel_monitor_status_get`.
-/

namespace OpxSdi.Media

open Lib Flags

/-! ## Flags -/

inductive Level
  | alarm | warning
  deriving DecidableEq, Repr

inductive ModuleMonitor
  | temp | volt
  deriving DecidableEq, Repr

inductive ChannelMonitor
  | rxPwr | txBias | txPwr
  deriving DecidableEq, Repr

/-- The four flags of monitor `n`. -/
def flagBit (n : Nat) : Level → Side → Nat
  | .alarm, .high => 4 * n
  | .alarm, .low => 4 * n + 1
  | .warning, .high => 4 * n + 2
  | .warning, .low => 4 * n + 3

/-- `SDI_MEDIA_STATUS_TEMP_HIGH_ALARM` to `SDI_MEDIA_STATUS_VOLT_LOW_WARNING` -/
def moduleFlag : ModuleMonitor × Level → Side → Nat
  | (.temp, l), s => flagBit 0 l s
  | (.volt, l), s => flagBit 1 l s

/-- `SDI_MEDIA_RX_PWR_HIGH_ALARM` to `SDI_MEDIA_TX_PWR_LOW_WARNING` -/
def channelFlag : ChannelMonitor × Level → Side → Nat
  | (.rxPwr, l), s => flagBit 0 l s
  | (.txBias, l), s => flagBit 1 l s
  | (.txPwr, l), s => flagBit 2 l s

/-- Some flag of these pairs is asked for. -/
def asks {P : Type} (bit : P → Side → Nat) (flags : BitVec 32) (ps : List P) : Bool :=
  ps.any fun p => flags.getLsbD (bit p .high) || flags.getLsbD (bit p .low)

/-- A byte that is read if it is asked for. Its buffer is 0 before. -/
def readIf (asked : Bool) (addr : BitVec 16) (offset : BitVec 32) : M Byte :=
  if asked then smbusReadByte addr offset else pure 0

/-! ## SFP modules -/

namespace Sfp

def enhancedOptionsOffset : BitVec 32 := 93
def alarmSupportBitOffset : Nat := 7
def alarmStatus1Offset : BitVec 32 := 112
def alarmStatus2Offset : BitVec 32 := 113
def warningStatus1Offset : BitVec 32 := 116
def warningStatus2Offset : BitVec 32 := 117
def channelNum : BitVec 32 := 0

/-- `sdi_is_alarm_flags_supported` -/
def isAlarmFlagsSupported (s : Sfp) : M Bool := do
  let buf ← smbusReadByte s.i2cAddr enhancedOptionsOffset
  pure (buf.getLsbD alarmSupportBitOffset)

/-- Read the status of a module that has alarm flags. -/
def withAlarmFlags {α : Type} (s : Sfp) (body : M α) : M α := s.sel.withModule do
  let alarmSupportStatus ← s.isAlarmFlagsSupported
  if alarmSupportStatus = false then Device.fail .eopnotsupp else body

/-- `SFP_TEMP_HIGH_ALARM_FLAG` and the like. The warnings have the bits of the alarms. -/
def moduleStatusBit : ModuleMonitor → Side → Nat
  | .temp, .high => 7
  | .temp, .low => 6
  | .volt, .high => 5
  | .volt, .low => 4

def moduleTested (alarmStatusBuf warningStatusBuf : Byte) : ModuleMonitor × Level → Side → Bool
  | (m, .alarm), s => alarmStatusBuf.getLsbD (moduleStatusBit m s)
  | (m, .warning), s => warningStatusBuf.getLsbD (moduleStatusBit m s)

def moduleAlarms : List (ModuleMonitor × Level) := [(.temp, .alarm), (.volt, .alarm)]
def moduleWarnings : List (ModuleMonitor × Level) := [(.temp, .warning), (.volt, .warning)]

/-- `sdi_sfp_module_monitor_status_get`. The status is cleared first. -/
def moduleMonitorStatusGet (s : Sfp) (flags : BitVec 32) : M (BitVec 32) := do
  let (alarmStatusBuf, warningStatusBuf) ← s.withAlarmFlags do
    let alarmStatusBuf ← readIf (asks moduleFlag flags moduleAlarms) sfpI2cAddr alarmStatus1Offset
    let warningStatusBuf ← readIf (asks moduleFlag flags moduleWarnings) sfpI2cAddr warningStatus1Offset
    pure (alarmStatusBuf, warningStatusBuf)
  pure (report moduleFlag (moduleTested alarmStatusBuf warningStatusBuf) (moduleAlarms ++ moduleWarnings) 0)

/-- The bits of a channel in the status bytes: `SFP_TX_BIAS_HIGH_ALARM_FLAG` and the like -/
def channelStatusBit : ChannelMonitor → Side → Nat
  | .txBias, .high => 3
  | .txBias, .low => 2
  | .txPwr, .high => 1
  | .txPwr, .low => 0
  | .rxPwr, .high => 7
  | .rxPwr, .low => 6

/-- The bytes of one level, with the one for the transmitter tested for the low flag of the receiver. -/
def channelTestedIn (txStatus rxStatus : Byte) (m : ChannelMonitor) (s : Side) : Bool :=
  match m, s with
  | .rxPwr, .high => rxStatus.getLsbD (channelStatusBit m s)
  | _, _ => txStatus.getLsbD (channelStatusBit m s)

def channelTested (txAlarm rxAlarm txWarn rxWarn : Byte) : ChannelMonitor × Level → Side → Bool
  | (m, .alarm), s => channelTestedIn txAlarm rxAlarm m s
  | (m, .warning), s => channelTestedIn txWarn rxWarn m s

def txAlarms : List (ChannelMonitor × Level) := [(.txBias, .alarm), (.txPwr, .alarm)]
def rxAlarms : List (ChannelMonitor × Level) := [(.rxPwr, .alarm)]
def txWarnings : List (ChannelMonitor × Level) := [(.txBias, .warning), (.txPwr, .warning)]
def rxWarnings : List (ChannelMonitor × Level) := [(.rxPwr, .warning)]

/-- `sdi_sfp_channel_monitor_status_get`. The status is cleared first. -/
def channelMonitorStatusGet (s : Sfp) (channel flags : BitVec 32) : M (BitVec 32) :=
  if channel ≠ channelNum then Device.fail .einval
  else do
    let (txAlarm, rxAlarm, txWarn, rxWarn) ← s.withAlarmFlags do
      let txAlarm ← readIf (asks channelFlag flags txAlarms) sfpI2cAddr alarmStatus1Offset
      let rxAlarm ← readIf (asks channelFlag flags rxAlarms) sfpI2cAddr alarmStatus2Offset
      let txWarn ← readIf (asks channelFlag flags txWarnings) sfpI2cAddr warningStatus1Offset
      let rxWarn ← readIf (asks channelFlag flags rxWarnings) sfpI2cAddr warningStatus2Offset
      pure (txAlarm, rxAlarm, txWarn, rxWarn)
    pure (report channelFlag (channelTested txAlarm rxAlarm txWarn rxWarn)
      (txAlarms ++ rxAlarms ++ txWarnings ++ rxWarnings) 0)

end Sfp

/-! ## QSFP modules -/

namespace Qsfp

def channelOne : BitVec 32 := 0
def channelTwo : BitVec 32 := 1
def channelFour : BitVec 32 := 3
def channelEight : BitVec 32 := 7

/-- `sdi_qsfp_validate_channel` -/
def validateChannel (channel : BitVec 32) (category : QsfpCategory) : Bool :=
  if category = .qsfpdd then channel ≤ channelEight else channel ≤ channelFour

def tempInterruptOffset (category : QsfpCategory) : BitVec 32 := if category = .qsfpdd then 8 else 6
def voltInterruptOffset (category : QsfpCategory) : BitVec 32 := if category = .qsfpdd then 9 else 7

/-- The first two channels have one register, the others the next one. -/
def rxPowerInterruptOffset (channel : BitVec 32) : BitVec 32 :=
  if channel = channelOne ∨ channel = channelTwo then 9 else 10

def txBiasInterruptOffset (channel : BitVec 32) : BitVec 32 :=
  if channel = channelOne ∨ channel = channelTwo then 11 else 12

/-- The bits of a flag in a half of its register: `QSFP_RX24_POWER_HIGH_ALARM_FLAG` and the like, and
`QSFP_RX13_POWER_HIGH_ALARM_FLAG` or `QSFP_TEMP_HIGH_ALARM_FLAG` four bits above -/
def interruptBit : Level → Side → Nat
  | .alarm, .high => 3
  | .alarm, .low => 2
  | .warning, .high => 1
  | .warning, .low => 0

def moduleTested (tempStatusBuf voltStatusBuf : Byte) : ModuleMonitor × Level → Side → Bool
  | (.temp, l), s => tempStatusBuf.getLsbD (interruptBit l s + 4)
  | (.volt, l), s => voltStatusBuf.getLsbD (interruptBit l s + 4)

def tempFlags : List (ModuleMonitor × Level) := [(.temp, .alarm), (.temp, .warning)]
def voltFlags : List (ModuleMonitor × Level) := [(.volt, .alarm), (.volt, .warning)]

/-- `sdi_qsfp_module_monitor_status_get`. Flags are added to the status of the caller. -/
def moduleMonitorStatusGet (q : Qsfp) (flags status : BitVec 32) : M (BitVec 32) := do
  let priv ← getPriv
  if priv.modType = .qsaAdapter then do
    Device.assert (priv.sfpDevice ≠ none)
    q.sfp.moduleMonitorStatusGet flags
  else do
    let (tempStatusBuf, voltStatusBuf) ← q.sel.withModule do
      let tempStatusBuf ← readIf (asks moduleFlag flags tempFlags) q.i2cAddr
        (tempInterruptOffset priv.modCategory)
      let voltStatusBuf ← readIf (asks moduleFlag flags voltFlags) q.i2cAddr
        (voltInterruptOffset priv.modCategory)
      pure (tempStatusBuf, voltStatusBuf)
    pure (report moduleFlag (moduleTested tempStatusBuf voltStatusBuf) (tempFlags ++ voltFlags) status)

/-- Each flag is tested in both halves of its register. The power of the transmitter is not tested. -/
def channelTested (rxPwrBuf txBiasBuf : Byte) : ChannelMonitor × Level → Side → Bool
  | (.rxPwr, l), s => rxPwrBuf.getLsbD (interruptBit l s + 4) || rxPwrBuf.getLsbD (interruptBit l s)
  | (.txBias, l), s => txBiasBuf.getLsbD (interruptBit l s + 4) || txBiasBuf.getLsbD (interruptBit l s)
  | (.txPwr, _), _ => false

def rxPwrFlags : List (ChannelMonitor × Level) := [(.rxPwr, .alarm), (.rxPwr, .warning)]
def txBiasFlags : List (ChannelMonitor × Level) := [(.txBias, .alarm), (.txBias, .warning)]

/-- `sdi_qsfp_channel_monitor_status_get`. Flags are added to the status of the caller. -/
def channelMonitorStatusGet (q : Qsfp) (channel flags status : BitVec 32) : M (BitVec 32) := do
  let priv ← getPriv
  if priv.modType = .qsaAdapter then do
    Device.assert (priv.sfpDevice ≠ none)
    q.sfp.channelMonitorStatusGet channel flags
  else if validateChannel channel priv.modCategory = false then Device.fail .param
  else do
    let (rxPwrBuf, txBiasBuf) ← q.sel.withModule do
      let rxPwrBuf ← readIf (asks channelFlag flags rxPwrFlags) q.i2cAddr (rxPowerInterruptOffset channel)
      let txBiasBuf ← readIf (asks channelFlag flags txBiasFlags) q.i2cAddr (txBiasInterruptOffset channel)
      pure (rxPwrBuf, txBiasBuf)
    pure (report channelFlag (channelTested rxPwrBuf txBiasBuf) (rxPwrFlags ++ txBiasFlags) status)

end Qsfp

end OpxSdi.Media
