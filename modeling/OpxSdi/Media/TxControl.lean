import OpxSdi.Media.Monitor

/-!
# The transmitter of an SFP

`sdi_sfp_tx_control` and `sdi_sfp_tx_control_status_get`. The transmitter is disabled by a pin or by a bit
of the module. A module with extended control is also told through its mailbox
(`sdi_media_ext_mod_ctrl.c`).
-/

namespace OpxSdi.Media

open Lib

/-! ## The mailbox -/

/-- What a module makes of its upper memory until the next poll. -/
abbrev Mailbox := Eeprom → (page offset : Byte) → Byte

namespace ExtMod

def activeDevMemAddrOffset : BitVec 32 := 250
def dataMsbOffset : BitVec 32 := 253
def ctrlStatusOffset : BitVec 32 := 255
def operMask : Byte := 3
def statusOperCompleteBitmask : Byte := 1 <<< 2 ||| 1 <<< 3
def statusPollCompleteState : Byte := 1
def statusPollMaxTimeoutMs : Nat := 100
def statusPollIntervalMs : Nat := statusPollMaxTimeoutMs / 10
def aqTxStateSetAddr : Byte := 1
def aqTxStateSetBitmask : BitVec 16 := 1

inductive Oper
  | memRead | memWrite
  deriving DecidableEq, Repr

def Oper.value : Oper → Byte
  | memRead => 1
  | memWrite => 2

/-- `ext_dev_ctrl_oper_packet_t` -/
structure OperPacket where
  memAddr : Byte
  regOffset : BitVec 16
  dataBufBigEndian : BitVec 16
  oper : Oper

variable (mailbox : Mailbox)

/-- The module works while the driver sleeps. -/
def settle : M Unit := Device.internal fun c =>
  let e := c.slaves Sfp.sfpI2cAddr
  ((), { c with slaves := Function.update c.slaves Sfp.sfpI2cAddr { e with upper := mailbox e } })

/-- The polls of `perform_oper`: whether the operation has completed. -/
def pollStatus : (polls : Nat) → M Bool
  | 0 => pure false
  | polls + 1 => do
      settle mailbox
      let status ← smbusReadMultiByte Sfp.sfpI2cAddr ctrlStatusOffset 1
      if (status.getD 0 0 &&& statusOperCompleteBitmask) >>> 2 = statusPollCompleteState then pure true
      else pollStatus polls

/-- `perform_oper`: the data of the packet after it -/
def performOper (packet : OperPacket) : M (BitVec 16) := do
  let data := if packet.oper = .memWrite then packet.dataBufBigEndian else 0
  smbusWriteMultiByte Sfp.sfpI2cAddr activeDevMemAddrOffset
    [packet.memAddr, (packet.regOffset >>> 8).setWidth 8, packet.regOffset.setWidth 8,
      (data >>> 8).setWidth 8, data.setWidth 8, operMask &&& packet.oper.value]
  let operSetSuccess ← pollStatus mailbox (statusPollMaxTimeoutMs / statusPollIntervalMs)
  -- An operation that does not complete in time is no error.
  if operSetSuccess = false ∨ packet.oper = .memWrite then pure packet.dataBufBigEndian
  else do
    let bufRead ← smbusReadMultiByte Sfp.sfpI2cAddr dataMsbOffset 2
    pure (bufRead.getD 0 0 ++ bufRead.getD 1 0 : BitVec (8 + 8))

/-- `sdi_media_aq_set_tx_state`, whose chains have one packet each -/
def aqSetTxState (state : Bool) : M Unit := do
  let txStatePacket : OperPacket := ⟨aqTxStateSetAddr, 0x0009, 0, .memRead⟩
  let data ← performOper mailbox txStatePacket
  let data := if state then data &&& ~~~aqTxStateSetBitmask else data ||| aqTxStateSetBitmask
  let _ ← performOper mailbox { txStatePacket with dataBufBigEndian := data, oper := .memWrite }

end ExtMod

/-! ## Pins -/

/-- A call that takes the bus of a pin group, and gives it back whatever the return code is. -/
def withPinGroup {α : Type} (g : PinGroup) (body : M α) : M α := do
  pinGroupAcquireBus g
  let rc ← Device.attempt body
  pinGroupReleaseBus g
  Device.ofResult rc

/-- The pins of an SFP cage: a handle says whether there is one. -/
structure SfpCage extends Sfp where
  modTxControlHdl : Bool
  modTxControlBitmask : Fin 32
  modSfpTxFaultHdl : Bool
  modSfpTxFaultBitmask : Fin 32
  modSfpRxLosHdl : Bool
  modSfpRxLosBitmask : Fin 32

/-! ## Control of the transmitter -/

namespace SfpCage

open Sfp

def extModCtrlSupportOffset : BitVec 32 := 101
def extModCtrlBit : Nat := 0
def optionalStatusControlOffset : BitVec 32 := 110
def softTxDisableCtrlBitOffset : Nat := 6
def optionalSoftTxDisableStateBitOffset : Nat := 6

/-- `sdi_is_sfp_plus_aq_ext_mod_ctrl_sup`: a failed read counts as no support. -/
def isSfpPlusAqExtModCtrlSup (s : SfpCage) : M Bool := do
  let rc ← Device.attempt (smbusReadByte s.i2cAddr extModCtrlSupportOffset)
  pure (match rc with
    | .ok buf => buf.getLsbD extModCtrlBit
    | .error _ => false)

/-- The call of `sdi_cusfp_plus_phy_serdes_control`, whose return code is not used. -/
def serdesControl (s : SfpCage) (mailbox : Mailbox) (enable : Bool) : M Unit := do
  let sup ← s.isSfpPlusAqExtModCtrlSup
  if sup then do
    let _ ← Device.attempt (ExtMod.aqSetTxState mailbox enable)
  else pure ()

/-- Write the bit of the module that disables the transmitter. -/
def softTxControl (s : SfpCage) (enable : Bool) : M Unit := do
  let bufSup ← smbusReadByte s.i2cAddr enhancedOptionsOffset
  -- Without any option the loop is left with the return code of the read.
  if bufSup = 0 then pure ()
  else do
    let bufData ← smbusReadByte sfpI2cAddr optionalStatusControlOffset
    if bufSup.getLsbD softTxDisableCtrlBitOffset then
      smbusWriteByte sfpI2cAddr optionalStatusControlOffset
        (Qsfp.stdBit bufData optionalSoftTxDisableStateBitOffset (!enable))
    else Device.fail .eopnotsupp

/-- `sdi_sfp_tx_control` -/
def txControl (s : SfpCage) (mailbox : Mailbox) (channel : BitVec 32) (enable : Bool) : M Unit :=
  if channel ≠ channelNum then Device.fail .einval
  else if s.modTxControlHdl = false then s.sel.withModule do
    s.serdesControl mailbox enable
    s.softTxControl enable
  else withPinGroup .modTxControl do
    let value ← pinGroupReadLevel .modTxControl
    pinGroupWriteLevel .modTxControl (Qsfp.stdBit value s.modTxControlBitmask (!enable))

/-- Read the bit of the module that disables the transmitter: the status, if it is written -/
def softTxControlStatusGet (s : SfpCage) : M (Option Bool) := do
  let bufSup ← smbusReadByte s.i2cAddr enhancedOptionsOffset
  if bufSup = 0 then pure none
  else do
    let bufData ← smbusReadByte sfpI2cAddr optionalStatusControlOffset
    if bufSup.getLsbD softTxDisableCtrlBitOffset then
      pure (some (!bufData.getLsbD optionalSoftTxDisableStateBitOffset))
    else Device.fail .eopnotsupp

/-- `sdi_sfp_tx_control_status_get` -/
def txControlStatusGet (s : SfpCage) (channel : BitVec 32) : M (Option Bool) :=
  if channel ≠ channelNum then Device.fail .einval
  else if s.modTxControlHdl = false then s.sel.withModule s.softTxControlStatusGet
  else do
    let value ← withPinGroup .modTxControl (pinGroupReadLevel .modTxControl)
    pure (some (!value.getLsbD s.modTxControlBitmask))

end SfpCage

end OpxSdi.Media
