import OpxSdi.Media.MonitorValue
import OpxSdi.Media.Presence
import OpxSdi.Media.QsfpChannel

/-!
# The channels of a sub-port

The operations of the QSFP28-DD driver on a channel. Each adds the channel offset of the sub-port to its
channel, in 32 bits, and calls the QSFP driver.
-/

namespace OpxSdi.Media

open Lib

namespace Qsfp

/-! ## Rate select -/

def rxExtRateSelectOffset : BitVec 32 := 87
def txExtRateSelectOffset : BitVec 32 := 88
def mediaFwRev0 : BitVec 32 := 0
def mediaFwRev1 : BitVec 32 := 1

/-- What the revision has in a rate select register, and `none` for an unknown one -/
def extRateSelectValue (rev : BitVec 32) (cdrEnable : Bool) : Option Byte :=
  if rev = mediaFwRev0 then some (if cdrEnable then 0xAA else 0x00)
  else if rev = mediaFwRev1 then some (if cdrEnable then 0xFF else 0x55)
  else none

/-- A register is written if its value changes. The result is `rc` if it is not. -/
def writeChanged (q : Qsfp) (offset : BitVec 32) (old value : Byte) (rc : Except Errno Unit) :
    M (Except Errno Unit) :=
  if old = value then pure rc else Device.attempt (smbusWriteByte q.i2cAddr offset value)

/-- `sdi_qsfp_ext_rate_select` -/
def extRateSelect (q : Qsfp) (channel rev : BitVec 32) (cdrEnable : Bool) : M Unit := do
  let priv ← getPriv
  if priv.modType = .qsaAdapter then Device.fail .eopnotsupp
  else if validateChannel channel priv.modCategory = false then Device.fail .param
  else q.sel.withModule do
    let rxBuf ← smbusReadByte q.i2cAddr rxExtRateSelectOffset
    let txBuf ← smbusReadByte q.i2cAddr txExtRateSelectOffset
    match extRateSelectValue rev cdrEnable with
    | none => pure ()
    | some value => do
        -- The second write replaces the return code of the first one.
        let rc ← q.writeChanged rxExtRateSelectOffset rxBuf value (.ok ())
        let rc ← q.writeChanged txExtRateSelectOffset txBuf value rc
        Device.ofResult rc

end Qsfp

namespace Qsfp28Dd

/-- `sdi_qsfp28_dd_channel_offset_get` -/
def channelOffsetGet (p : Qsfp28Dd) : BitVec 32 := p.subPortChannelOffset

/-- `sdi_qsfp28_dd_tx_control` -/
def txControl (p : Qsfp28Dd) (mailbox : Mailbox) (channel : BitVec 32) (enable : Bool) : M Unit :=
  p.toQsfp.txControl mailbox (channel + p.channelOffsetGet) enable

/-- `sdi_qsfp28_dd_tx_control_status_get` -/
def txControlStatusGet (p : Qsfp28Dd) (channel : BitVec 32) : M (Option Bool) :=
  p.toQsfp.txControlStatusGet (channel + p.channelOffsetGet)

/-- `sdi_qsfp28_dd_cdr_status_set` -/
def cdrStatusSet (p : Qsfp28Dd) (channel : BitVec 32) (enable : Bool) : M Unit :=
  p.toQsfp.cdrStatusSet (channel + p.channelOffsetGet) enable

/-- `sdi_qsfp28_dd_cdr_status_get` -/
def cdrStatusGet (p : Qsfp28Dd) (channel : BitVec 32) : M Bool :=
  p.toQsfp.cdrStatusGet (channel + p.channelOffsetGet)

/-- `sdi_qsfp28_dd_channel_status_get` -/
def channelStatusGet (p : Qsfp28Dd) (channel flags status : BitVec 32) : M (BitVec 32) :=
  p.toQsfp.channelStatusGet (channel + p.channelOffsetGet) flags status

/-- `sdi_qsfp28_dd_channel_monitor_status_get` -/
def channelMonitorStatusGet (p : Qsfp28Dd) (channel flags status : BitVec 32) : M (BitVec 32) :=
  p.toQsfp.channelMonitorStatusGet (channel + p.channelOffsetGet) flags status

/-- `sdi_qsfp28_dd_channel_monitor_get` -/
def channelMonitorGet (p : Qsfp28Dd) (convertMwToDbm : ℚ → ℚ) (channel : BitVec 32) (monitor : ChannelMonitor) :
    M (Option ℚ) :=
  p.toQsfp.channelMonitorGet convertMwToDbm (channel + p.channelOffsetGet) monitor

/-- `sdi_qsfp28_dd_ext_rate_select` -/
def extRateSelect (p : Qsfp28Dd) (channel rev : BitVec 32) (cdrEnable : Bool) : M Unit :=
  p.toQsfp.extRateSelect (channel + p.channelOffsetGet) rev cdrEnable

end Qsfp28Dd

/-! ## Calls -/

/-- An operation on a channel, without the channel and without the status that its result is added to -/
inductive ChannelCall
  | txControl (enable : Bool)
  | txControlStatusGet
  | cdrStatusSet (enable : Bool)
  | cdrStatusGet
  | channelStatusGet (flags : BitVec 32)
  | channelMonitorStatusGet (flags : BitVec 32)
  | channelMonitorGet (monitor : ChannelMonitor)
  | extRateSelect (rev : BitVec 32) (cdrEnable : Bool)
  deriving DecidableEq, Repr

namespace ChannelCall

def Result : ChannelCall → Type
  | txControl _ => Unit
  | txControlStatusGet => Option Bool
  | cdrStatusSet _ => Unit
  | cdrStatusGet => Bool
  | channelStatusGet _ => BitVec 32
  | channelMonitorStatusGet _ => BitVec 32
  | channelMonitorGet _ => Option ℚ
  | extRateSelect _ _ => Unit

def exec (mailbox : Mailbox) (convertMwToDbm : ℚ → ℚ) (p : Qsfp28Dd) (channel status : BitVec 32) :
    (call : ChannelCall) → M call.Result
  | txControl enable => p.txControl mailbox channel enable
  | txControlStatusGet => p.txControlStatusGet channel
  | cdrStatusSet enable => p.cdrStatusSet channel enable
  | cdrStatusGet => p.cdrStatusGet channel
  | channelStatusGet flags => p.channelStatusGet channel flags status
  | channelMonitorStatusGet flags => p.channelMonitorStatusGet channel flags status
  | channelMonitorGet monitor => p.channelMonitorGet convertMwToDbm channel monitor
  | extRateSelect rev cdrEnable => p.extRateSelect channel rev cdrEnable

end ChannelCall

end OpxSdi.Media
