import OpxSdi.Media.Monitor

/-!
# Clock and data recovery of a QSFP

`sdi_qsfp_cdr_status_set` and `sdi_qsfp_cdr_status_get`. The two directions of a channel have bits in one
register, or in a register each.
-/

namespace OpxSdi.Media

open Lib

inductive Direction
  | tx | rx
  deriving DecidableEq, Repr

namespace Direction

/-- `QSFP_TX_CDR_CONTROL_BIT_OFFSET` and `QSFP_RX_CDR_CONTROL_BIT_OFFSET` -/
def cdrControlBitOffset : Direction → Nat
  | tx => 7
  | rx => 6

/-- `QSFP_TX_CDR_CONTROL_BIT` and `QSFP_RX_CDR_CONTROL_BIT` -/
def cdrControlBit (channel : BitVec 32) : Direction → Nat
  | tx => (channel + 4).toNat
  | rx => channel.toNat

/-- `QSFP_DD_TX_CDR_CONTROL_OFFSET` and `QSFP_DD_RX_CDR_CONTROL_OFFSET` -/
def ddCdrControlOffset : Direction → BitVec 32
  | tx => 90
  | rx => 91

/-- `QSFP_DD_TX_CDR_CONTROL_BIT` and `QSFP_DD_RX_CDR_CONTROL_BIT` -/
def ddCdrControlBit (channel : BitVec 32) : Direction → Nat
  | tx => channel.toNat
  | rx => channel.toNat

end Direction

namespace Qsfp

def cdrControlOffset : BitVec 32 := 98
def options3Offset : BitVec 32 := 194

/-- The support status has the bits of the directions. -/
def supportStatusOf (buf : Byte) : BitVec 32 :=
  let tx := Direction.tx.cdrControlBitOffset
  let rx := Direction.rx.cdrControlBitOffset
  let supportStatus : BitVec 32 := 0
  let supportStatus := if buf.getLsbD tx then supportStatus ||| (1 : BitVec 32) <<< tx else supportStatus
  if buf.getLsbD rx then supportStatus ||| (1 : BitVec 32) <<< rx else supportStatus

/-- `sdi_is_cdr_control_supported` -/
def isCdrControlSupported (q : Qsfp) : M (BitVec 32) := do
  let buf ← smbusReadByte q.i2cAddr options3Offset
  pure (supportStatusOf buf)

/-- The call has a module that is no adapter, and a channel of it. -/
def withCdrControl {α : Type} (q : Qsfp) (channel : BitVec 32)
    (body : (category : QsfpCategory) → (supportStatus : BitVec 32) → M α) : M α := do
  let priv ← getPriv
  if priv.modType = .qsaAdapter then Device.fail .eopnotsupp
  else if validateChannel channel priv.modCategory = false then Device.fail .param
  else q.sel.withModule do
    let supportStatus ← q.isCdrControlSupported
    if supportStatus = 0 then Device.fail .eopnotsupp else body priv.modCategory supportStatus

/-- The bit of a direction in a buffer, if it is supported -/
def setCdrBit (supportStatus : BitVec 32) (dir : Direction) (buf : Byte) (bit : Nat) (enable : Bool) : Byte :=
  if supportStatus.getLsbD dir.cdrControlBitOffset then stdBit buf bit enable else buf

/-- The register of one direction is read, changed and written. -/
def setDdCdr (q : Qsfp) (channel : BitVec 32) (enable : Bool) (supportStatus : BitVec 32) (dir : Direction) :
    M (Except Errno Unit) := do
  let buf ← smbusReadByte q.i2cAddr dir.ddCdrControlOffset
  Device.attempt (smbusWriteByte q.i2cAddr dir.ddCdrControlOffset
    (setCdrBit supportStatus dir buf (dir.ddCdrControlBit channel) enable))

/-- `sdi_qsfp_cdr_status_set` -/
def cdrStatusSet (q : Qsfp) (channel : BitVec 32) (enable : Bool) : M Unit :=
  q.withCdrControl channel fun category supportStatus =>
    if category = .qsfpdd then do
      -- A write that fails is logged, and the next round goes on with the return code.
      let _ ← q.setDdCdr channel enable supportStatus .tx
      let rc ← q.setDdCdr channel enable supportStatus .rx
      Device.ofResult rc
    else do
      let buf ← smbusReadByte q.i2cAddr cdrControlOffset
      let buf := setCdrBit supportStatus .tx buf (Direction.tx.cdrControlBit channel) enable
      let buf := setCdrBit supportStatus .rx buf (Direction.rx.cdrControlBit channel) enable
      smbusWriteByte q.i2cAddr cdrControlOffset buf

/-- `sdi_qsfp_cdr_status_get`: whether a bit of the channel is set -/
def cdrStatusGet (q : Qsfp) (channel : BitVec 32) : M Bool :=
  q.withCdrControl channel fun category _ =>
    if category = .qsfpdd then do
      -- A failed read leaves the buffer at 0, and the next one makes the return code.
      let rc ← Device.attempt (smbusReadByte q.i2cAddr Direction.tx.ddCdrControlOffset)
      let buf1 ← smbusReadByte q.i2cAddr Direction.rx.ddCdrControlOffset
      let buf := rc.toOption.getD 0
      pure (buf.getLsbD (Direction.tx.ddCdrControlBit channel) || buf1.getLsbD
        (Direction.rx.ddCdrControlBit channel))
    else do
      let buf ← smbusReadByte q.i2cAddr cdrControlOffset
      pure (buf.getLsbD (Direction.tx.cdrControlBit channel) || buf.getLsbD
        (Direction.rx.cdrControlBit channel))

end Qsfp

end OpxSdi.Media
