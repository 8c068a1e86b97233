import OpxSdi.Common.StdError
import OpxSdi.Lib.Checked
import OpxSdi.Lib.Device

/-!
# The I2C bus API (`sdi_i2c_bus_api.c`)

Every call acquires the bus, executes one transaction with the operations of the bus and releases it.
A buffer is the 16-bit word whose low byte is the byte that a byte transaction uses.
-/

namespace OpxSdi.I2c

open Lib

structure I2cAddr where
  i2cAddr : BitVec 16
  addrMode16bit : Bool
  deriving DecidableEq, Repr

inductive SmbusOperation
  | write | read
  deriving DecidableEq, Repr

inductive SmbusDataType
  | byte | byteData | wordData
  deriving DecidableEq, Repr

inductive I2cOperation
  | write | read
  deriving DecidableEq, Repr

/-- `SDI_SMBUS_OFFSET_NON_CMD` -/
def smbusOffsetNonCmd : BitVec 32 := 0

/-- `SDI_I2C_FLAG_PEC` -/
def i2cFlagPec : BitVec 32 := 2

/-- `sdi_i2c_bus_ops_t`: an execution returns what it leaves in the caller's buffer. -/
structure I2cBusOps (L ω : Type) where
  acquireBus : Device.M L Errno ω Unit
  smbusExecute : I2cAddr → SmbusOperation → SmbusDataType → (commandbuf : BitVec 32) →
    (buffer : BitVec 16) → (flags : BitVec 32) → Device.M L Errno ω (BitVec 16)
  i2cExecute : I2cAddr → I2cOperation → (cmd : List Byte) → (buffer : Byte) →
    (buflen flags : BitVec 32) → Device.M L Errno ω Byte
  releaseBus : Device.M L Errno ω Unit

variable {L ω α : Type} (bus : I2cBusOps L ω) (addr : I2cAddr)

def withBus (execute : Device.M L Errno ω α) : Device.M L Errno ω α := do
  bus.acquireBus
  let result ← Device.attempt execute
  bus.releaseBus
  Device.ofResult result

def smbusSendByte (buffer : Byte) (flags : BitVec 32) : Device.M L Errno ω Unit := do
  let _ ← withBus bus
    (bus.smbusExecute addr .write .byte smbusOffsetNonCmd (buffer.setWidth 16) flags)

def smbusRecvByte (flags : BitVec 32) : Device.M L Errno ω Byte := do
  let buffer ← withBus bus (bus.smbusExecute addr .read .byte smbusOffsetNonCmd 0 flags)
  pure (buffer.setWidth 8)

def smbusReadByte (cmd flags : BitVec 32) : Device.M L Errno ω Byte := do
  let buffer ← withBus bus (bus.smbusExecute addr .read .byteData cmd 0 flags)
  pure (buffer.setWidth 8)

def smbusWriteByte (cmd : BitVec 32) (buffer : Byte) (flags : BitVec 32) : Device.M L Errno ω Unit := do
  let _ ← withBus bus (bus.smbusExecute addr .write .byteData cmd (buffer.setWidth 16) flags)

def smbusReadWord (cmd flags : BitVec 32) : Device.M L Errno ω (BitVec 16) :=
  withBus bus (bus.smbusExecute addr .read .wordData cmd 0 flags)

def smbusWriteWord (cmd : BitVec 32) (buffer : BitVec 16) (flags : BitVec 32) :
    Device.M L Errno ω Unit := do
  let _ ← withBus bus (bus.smbusExecute addr .write .wordData cmd buffer flags)

/-- The loop of `sdi_smbus_read_multi_byte`, of `n` bytes that are left. -/
def smbusReadBytes (flags : BitVec 32) : (n : Nat) → (cmd : BitVec 32) → Device.M L Errno ω (List Byte)
  | 0, _ => pure []
  | n + 1, cmd => do
      let buffer ← bus.smbusExecute addr .read .byteData cmd 0 flags
      let rest ← smbusReadBytes flags n (cmd + 1)
      pure (buffer.setWidth 8 :: rest)

def smbusReadMultiByte (cmd byteCount flags : BitVec 32) : Device.M L Errno ω (List Byte) :=
  withBus bus (smbusReadBytes bus addr flags byteCount.toNat cmd)

def i2cRead (cmd : List Byte) (buflen flags : BitVec 32) : Device.M L Errno ω Byte :=
  withBus bus (bus.i2cExecute addr .read cmd 0 buflen flags)

def i2cWrite (cmd : List Byte) (buffer : Byte) (buflen flags : BitVec 32) : Device.M L Errno ω Unit := do
  let _ ← withBus bus (bus.i2cExecute addr .write cmd buffer buflen flags)

end OpxSdi.I2c
