import OpxSdi.Media.ChannelStatus
import OpxSdi.Media.Cdr

/-!
# The status and the transmitter of a channel of a QSFP

`sdi_qsfp_channel_status_get`, `sdi_qsfp_tx_control` and `sdi_qsfp_tx_control_status_get`. The losses of the
signal have a register for both directions, or one each.
-/

namespace OpxSdi.Media

open Lib

/-- The flags of a channel -/
inductive ChannelFlag
  | txDisable | txFault | txLoss | rxLoss
  deriving DecidableEq, Repr

namespace ChannelFlag

/-- `SDI_MEDIA_STATUS_TXDISABLE` to `SDI_MEDIA_STATUS_RXLOSS` -/
def bit : ChannelFlag → Nat
  | txDisable => 0
  | txFault => 1
  | txLoss => 2
  | rxLoss => 3

/-- `*status |= FLAG` if the bit is set. -/
def mark (f : ChannelFlag) (value : Bool) (status : BitVec 32) : BitVec 32 :=
  if value then status ||| (1 : BitVec 32) <<< f.bit else status

end ChannelFlag

namespace Qsfp

def options4Offset : BitVec 32 := 195
def txDisableBitOffset : Nat := 4
def channelLosIndicator : BitVec 32 := 3
def ddChannelTxLosIndicator : BitVec 32 := 3
def ddChannelRxLosIndicator : BitVec 32 := 4

/-- `QSFP_DD_TX_CONTROL_OFFSET` and `QSFP_TX_CONTROL_OFFSET` -/
def txControlOffset (category : QsfpCategory) : BitVec 32 := if category = .qsfpdd then 84 else 86

/-- `QSFP_DD_CHANNEL_TXFAULT_INDICATOR` and `QSFP_CHANNEL_TXFAULT_INDICATOR` -/
def channelTxFaultIndicator (category : QsfpCategory) : BitVec 32 := if category = .qsfpdd then 7 else 4

/-- The SFP device of an adapter, whose other handles are `NULL` -/
def sfpCage (q : Qsfp) : SfpCage :=
  { q.sfp with
    modTxControlHdl := false
    modTxControlBitmask := ⟨0, Nat.zero_lt_succ _⟩
    modSfpTxFaultHdl := false
    modSfpTxFaultBitmask := ⟨0, Nat.zero_lt_succ _⟩
    modSfpRxLosHdl := false
    modSfpRxLosBitmask := ⟨0, Nat.zero_lt_succ _⟩ }

/-! ## The status -/

/-- A flag with a register of its own -/
def flagStatus (q : Qsfp) (flags : BitVec 32) (f : ChannelFlag) (offset channel status : BitVec 32) :
    M (BitVec 32) :=
  if flags.getLsbD f.bit then do
    let buf ← smbusReadByte q.i2cAddr offset
    pure (f.mark (buf.getLsbD channel.toNat) status)
  else pure status

/-- The losses of one register (`QSFP_TX_LOS_FLAG` and `QSFP_RX_LOS_FLAG`). Either flag asks for both. -/
def lossStatus (q : Qsfp) (flags channel status : BitVec 32) : M (BitVec 32) :=
  if flags.getLsbD ChannelFlag.txLoss.bit || flags.getLsbD ChannelFlag.rxLoss.bit then do
    let buf ← smbusReadByte q.i2cAddr channelLosIndicator
    let status := ChannelFlag.txLoss.mark (buf.getLsbD (channel.toNat + 4)) status
    pure (ChannelFlag.rxLoss.mark (buf.getLsbD channel.toNat) status)
  else pure status

/-- The flags of a channel, added to a status -/
def channelStatuses (q : Qsfp) (category : QsfpCategory) (channel flags status : BitVec 32) :
    M (BitVec 32) := do
  let status ← q.flagStatus flags .txDisable (txControlOffset category) channel status
  let status ← q.flagStatus flags .txFault (channelTxFaultIndicator category) channel status
  if category = .qsfpdd then do
    let status ← q.flagStatus flags .txLoss ddChannelTxLosIndicator channel status
    q.flagStatus flags .rxLoss ddChannelRxLosIndicator channel status
  else q.lossStatus flags channel status

/-- `sdi_qsfp_channel_status_get`. Flags are added to the status of the caller. -/
def channelStatusGet (q : Qsfp) (channel flags status : BitVec 32) : M (BitVec 32) := do
  let priv ← getPriv
  if priv.modType = .qsaAdapter then do
    Device.assert (priv.sfpDevice ≠ none)
    q.sfpCage.channelStatusGet channel flags
  else if validateChannel channel priv.modCategory = false then Device.fail .param
  else q.sel.withModule (q.channelStatuses priv.modCategory channel flags status)

/-- `sdi_media_channel_status_get` of a media resource: the status is cleared before the call of the driver. -/
def mediaChannelStatusGet (q : Qsfp) (channel flags : BitVec 32) : M (BitVec 32) :=
  q.channelStatusGet channel flags 0

/-! ## The transmitter -/

/-- `sdi_is_tx_control_supported` -/
def isTxControlSupported (q : Qsfp) : M Bool := do
  let buf ← smbusReadByte q.i2cAddr options4Offset
  pure (buf.getLsbD txDisableBitOffset)

/-- `sdi_qsfp_tx_control` -/
def txControl (q : Qsfp) (mailbox : Mailbox) (channel : BitVec 32) (enable : Bool) : M Unit := do
  let priv ← getPriv
  if priv.modType = .qsaAdapter then do
    Device.assert (priv.sfpDevice ≠ none)
    q.sfpCage.txControl mailbox channel enable
  else if validateChannel channel priv.modCategory = false then Device.fail .param
  else q.sel.withModule do
    let supportStatus ← q.isTxControlSupported
    if supportStatus = false then Device.fail .eopnotsupp
    else do
      let buf ← smbusReadByte q.i2cAddr (txControlOffset priv.modCategory)
      smbusWriteByte q.i2cAddr (txControlOffset priv.modCategory) (stdBit buf channel.toNat (!enable))

/-- `sdi_qsfp_tx_control_status_get`: whether the transmitter is enabled, and `none` if nothing is written -/
def txControlStatusGet (q : Qsfp) (channel : BitVec 32) : M (Option Bool) := do
  let priv ← getPriv
  if priv.modType = .qsaAdapter then do
    Device.assert (priv.sfpDevice ≠ none)
    q.sfpCage.txControlStatusGet channel
  else if validateChannel channel priv.modCategory = false then Device.fail .param
  else do
    let buf ← q.sel.withModule (smbusReadByte q.i2cAddr (txControlOffset priv.modCategory))
    pure (some (!buf.getLsbD channel.toNat))

end Qsfp

end OpxSdi.Media
