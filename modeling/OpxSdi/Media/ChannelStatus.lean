import OpxSdi.Media.TxControl

/-!
# The status of the channel of an SFP

`sdi_sfp_channel_status_get`. Each flag is read from its pin, or from the module if there is no pin.
-/

namespace OpxSdi.Media

open Lib

/-- The flags that an SFP can have. -/
inductive StatusFlag
  | txDisable | txFault | rxLoss
  deriving DecidableEq, Repr

/-- `SDI_MEDIA_STATUS_TXLOSS`, which no SFP has -/
def statusTxLoss : Nat := 2

namespace StatusFlag

/-- `SDI_MEDIA_STATUS_TXDISABLE`, `SDI_MEDIA_STATUS_TXFAULT` and `SDI_MEDIA_STATUS_RXLOSS` -/
def bit : StatusFlag → Nat
  | txDisable => 0
  | txFault => 1
  | rxLoss => 3

/-- `SFP_SOFT_TX_DISABLE_CTRL_BIT_OFFSET`, `SFP_SOFT_TX_FAULT_MNTR_BIT_OFFSET` and
`SFP_SOFT_RX_LOS_MNTR_BIT_OFFSET` -/
def supportBit : StatusFlag → Nat
  | txDisable => 6
  | txFault => 5
  | rxLoss => 4

/-- `SFP_OPTIONAL_TX_DISABLE_STATE_BIT_OFFSET`, `SFP_OPTIONAL_TX_FAULT_STATE_BIT_OFFSET` and
`SFP_OPTIONAL_RX_LOSS_STATE_BIT_OFFSET` -/
def stateBit : StatusFlag → Nat
  | txDisable => 7
  | txFault => 2
  | rxLoss => 1

def pinGroup : StatusFlag → PinGroup
  | txDisable => .modTxControl
  | txFault => .modSfpTxFault
  | rxLoss => .modSfpRxLos

end StatusFlag

namespace SfpCage

open Sfp

/-- Whether the flag has a pin. -/
def hdl (s : SfpCage) : StatusFlag → Bool
  | .txDisable => s.modTxControlHdl
  | .txFault => s.modSfpTxFaultHdl
  | .rxLoss => s.modSfpRxLosHdl

def bitmask (s : SfpCage) : StatusFlag → Fin 32
  | .txDisable => s.modTxControlBitmask
  | .txFault => s.modSfpTxFaultBitmask
  | .rxLoss => s.modSfpRxLosBitmask

/-- `STATUS |= FLAG` if the bit is set. -/
def mark (status : BitVec 32) (f : StatusFlag) (value : Bool) : BitVec 32 :=
  if value then status ||| (1 : BitVec 32) <<< f.bit else status

/-- One flag, with the status and the return code before and after it. A pin that cannot be read ends the
call. -/
def flagStatus (s : SfpCage) (flags : BitVec 32) (bufSup bufData : Byte)
    (st : BitVec 32 × Except Errno Unit) (f : StatusFlag) : M (BitVec 32 × Except Errno Unit) :=
  if flags.getLsbD f.bit = false then pure st
  else if s.hdl f = false then
    if bufSup.getLsbD f.supportBit then pure (mark st.1 f (bufData.getLsbD f.stateBit), st.2)
    else pure (st.1, .error .eopnotsupp)
  else do
    let value ← withPinGroup f.pinGroup (pinGroupReadLevel f.pinGroup)
    pure (mark st.1 f (value.getLsbD (s.bitmask f)), .ok ())

def flagStatuses (s : SfpCage) (flags : BitVec 32) (bufSup bufData : Byte) :
    List StatusFlag → (st : BitVec 32 × Except Errno Unit) → M (BitVec 32 × Except Errno Unit)
  | [], st => pure st
  | f :: fs, st => do
      let st ← s.flagStatus flags bufSup bufData st f
      s.flagStatuses flags bufSup bufData fs st

/-- The options of the module and the register with the states. Without any option the register is not
read. -/
def readStates (s : SfpCage) : M (Byte × Byte) := do
  let bufSup ← smbusReadByte s.i2cAddr enhancedOptionsOffset
  if bufSup = 0 then pure (bufSup, 0)
  else do
    let bufData ← smbusReadByte sfpI2cAddr optionalStatusControlOffset
    pure (bufSup, bufData)

def LacksPin (s : SfpCage) : Prop :=
  s.modTxControlHdl = false ∨ s.modSfpRxLosHdl = false ∨ s.modSfpTxFaultHdl = false

instance (s : SfpCage) : Decidable s.LacksPin := inferInstanceAs (Decidable (_ ∨ _ ∨ _))

/-- The states are read if any pin is missing, whatever the flags are. -/
def readMissing (s : SfpCage) : M (Byte × Byte) :=
  if s.LacksPin then s.sel.withModule s.readStates else pure (0, 0)

/-- The status and the return code from the flags. -/
def statusOf (s : SfpCage) (flags : BitVec 32) (bufSup bufData : Byte) : M (BitVec 32) := do
  let (status, rc) ← s.flagStatuses flags bufSup bufData [.txDisable, .txFault, .rxLoss] (0, .ok ())
  if flags.getLsbD statusTxLoss then Device.fail .eopnotsupp
  else Device.ofResult (rc.map fun _ => status)

/-- `sdi_sfp_channel_status_get` -/
def channelStatusGet (s : SfpCage) (channel flags : BitVec 32) : M (BitVec 32) :=
  if channel ≠ channelNum then Device.fail .einval
  else do
    let (bufSup, bufData) ← s.readMissing
    s.statusOf flags bufSup bufData

end SfpCage

end OpxSdi.Media
