import OpxSdi.I2c.BusApi
import OpxSdi.Lib.Slave

/-!
# The kernel I2C bus (`sdi_i2cdev.c`)

The slaves of the adapter are memories behind an address pointer. What the kernel's SMBus transactions
put on the wire is in `smbusTransfer`; the rest is the driver.
-/

namespace OpxSdi.I2c

open Lib

/-! ## The adapter behind the file descriptor -/

/-- `I2C_SMBUS_BYTE`, `I2C_SMBUS_BYTE_DATA` and `I2C_SMBUS_WORD_DATA` of the kernel. -/
inductive I2cSmbusSize
  | byte | byteData | wordData
  deriving DecidableEq, Repr

structure Adapter where
  slaveAddr : BitVec 16
  pec : Bool
  slaves : BitVec 16 → Slave

def lowByte (word : BitVec 16) : Byte := word.setWidth 8
def highByte (word : BitVec 16) : Byte := (word >>> 8).setWidth 8

/-- One SMBus transaction: what it leaves in the data union, and the slave after it. -/
def smbusTransfer (readWrite : SmbusOperation) (command : Byte) (size : I2cSmbusSize)
    (data : BitVec 16) (s : Slave) : BitVec 16 × Slave :=
  match size, readWrite with
  | .byte, .write => (data, s.write [command])
  | .byte, .read => (s.load.1.setWidth 16, s.load.2)
  | .byteData, .write => (data, s.write [command, lowByte data])
  | .byteData, .read => ((s.write [command]).load.1.setWidth 16, (s.write [command]).load.2)
  | .wordData, .write => (data, s.write [command, lowByte data, highByte data])
  | .wordData, .read =>
      let (lo, s) := (s.write [command]).load
      let (hi, s) := s.load
      (hi ++ lo, s)

namespace Adapter

def ioctlSlave (i2cAddr : BitVec 16) (a : Adapter) : Unit × Adapter := ((), { a with slaveAddr := i2cAddr })

def ioctlPec (pec : Bool) (a : Adapter) : Unit × Adapter := ((), { a with pec := pec })

def ioctlSmbus (readWrite : SmbusOperation) (command : Byte) (size : I2cSmbusSize) (data : BitVec 16)
    (a : Adapter) : BitVec 16 × Adapter :=
  let (data, s) := smbusTransfer readWrite command size data (a.slaves a.slaveAddr)
  (data, { a with slaves := Function.update a.slaves a.slaveAddr s })

end Adapter

/-! ## The driver -/

namespace I2cDev

/-- The bus has one lock. -/
abbrev M := Device.M Unit Errno Adapter

/-- `SDI_MAX_IIC_RETRY` -/
def maxIicRetry : Nat := 5

/-- Run `x` again when it fails, `left` times at most. -/
def retry {α : Type} (x : M α) : (left : Nat) → M α
  | 0 => x
  | left + 1 => do
      match ← Device.attempt x with
      | .ok a => pure a
      | .error _ => retry x left

def sysSmbusExecute (operation : SmbusOperation) (dataType : I2cSmbusSize) (commandbuf : BitVec 32)
    (data : BitVec 16) : M (BitVec 16) :=
  retry (Device.access (Adapter.ioctlSmbus operation (commandbuf.setWidth 8) dataType data))
    (maxIicRetry - 1)

/-- `SDI_SMBUS_RECV_BYTE_CMD_OFFSET` -/
def smbusRecvByteCmdOffset : BitVec 32 := 0

/-- `SDI_SMBUS_16BIT_CMD_DEF_OFFSET` -/
def smbus16bitCmdDefOffset : BitVec 32 := 0

def smbusRecvByte (operation : SmbusOperation) (dataType : I2cSmbusSize) : M Byte := do
  let data ← sysSmbusExecute operation dataType smbusRecvByteCmdOffset 0
  pure (lowByte data)

def smbusSendByte (operation : SmbusOperation) (dataType : I2cSmbusSize) (commandbuf : BitVec 32) :
    M Unit := do
  let _ ← sysSmbusExecute operation dataType commandbuf 0

def smbusReadByte (operation : SmbusOperation) (dataType : I2cSmbusSize) (commandbuf : BitVec 32) :
    M Byte := do
  let data ← sysSmbusExecute operation dataType commandbuf 0
  pure (lowByte data)

def smbusWriteByte (operation : SmbusOperation) (dataType : I2cSmbusSize) (commandbuf : BitVec 32)
    (buffer : Byte) : M Unit := do
  let _ ← sysSmbusExecute operation dataType commandbuf (buffer.setWidth 16)

def smbusReadWord (operation : SmbusOperation) (dataType : I2cSmbusSize) (commandbuf : BitVec 32) :
    M (BitVec 16) :=
  sysSmbusExecute operation dataType commandbuf 0

def smbusWriteWord (operation : SmbusOperation) (dataType : I2cSmbusSize) (commandbuf : BitVec 32)
    (buffer : BitVec 16) : M Unit := do
  let _ ← sysSmbusExecute operation dataType commandbuf buffer

/-- `sdi_i2c_read`: the second byte of the command is not used. -/
def i2cRead (cmd : List Byte) : M Byte :=
  match cmd with
  | [cmd0, _] => do
      let buffer := cmd0
      smbusWriteByte .write .byteData (cmd0.setWidth 32) buffer
      let data ← sysSmbusExecute .read .byte smbus16bitCmdDefOffset 0
      pure (lowByte data)
  | _ => Device.fail .eopnotsupp

/-- `sdi_i2c_write`: the second byte of the command is not used. -/
def i2cWrite (cmd : List Byte) (buf : Byte) : M Unit :=
  match cmd with
  | [cmd0, _] => do
      let word := cmd0.setWidth 16 ||| buf.setWidth 16 <<< 8
      let _ ← sysSmbusExecute .write .wordData (cmd0.setWidth 32) word
  | _ => Device.fail .eopnotsupp

def i2cExecute (address : I2cAddr) (operation : I2cOperation) (cmd : List Byte) (buffer : Byte)
    (_buflen _flags : BitVec 32) : M Byte := do
  Device.access (Adapter.ioctlSlave address.i2cAddr)
  match operation with
  | .write => do
      i2cWrite cmd buffer
      pure buffer
  | .read => i2cRead cmd

/-- The transaction that `sdi_i2cdev_smbus_execute` makes once the slave is set. -/
def smbusTransaction (address : I2cAddr) (operation : SmbusOperation) (dataType : SmbusDataType)
    (commandbuf : BitVec 32) (buffer : BitVec 16) : M (BitVec 16) :=
  match dataType, operation with
  | .byte, .write => do
      smbusSendByte operation .byte commandbuf
      pure buffer
  | .byte, .read => do
      let byte ← smbusRecvByte operation .byte
      pure (byte.setWidth 16)
  | .byteData, .write => do
      if address.addrMode16bit = false then
        smbusWriteByte operation .byteData commandbuf (lowByte buffer)
      else
        let tempWord := (lowByte buffer).setWidth 16 <<< 8 ||| (commandbuf &&& 0xff).setWidth 16
        smbusWriteWord operation .wordData ((commandbuf >>> 8) &&& 0xff) tempWord
      pure buffer
  | .byteData, .read =>
      if address.addrMode16bit = false then do
        let byte ← smbusReadByte operation .byteData commandbuf
        pure (byte.setWidth 16)
      else do
        let tempBuf := (commandbuf &&& 0xff).setWidth 8
        smbusWriteByte .write .byteData ((commandbuf >>> 8) &&& 0xff) tempBuf
        let byte ← smbusRecvByte operation .byte
        pure (byte.setWidth 16)
  | .wordData, .write => do
      -- Unlike a byte, a word goes to an 8-bit offset in both address modes.
      smbusWriteWord operation .wordData commandbuf buffer
      pure buffer
  | .wordData, .read => smbusReadWord operation .wordData commandbuf

def smbusExecute (address : I2cAddr) (operation : SmbusOperation) (dataType : SmbusDataType)
    (commandbuf : BitVec 32) (buffer : BitVec 16) (flags : BitVec 32) : M (BitVec 16) := do
  Device.access (Adapter.ioctlSlave address.i2cAddr)
  if flags = i2cFlagPec then
    Device.access (Adapter.ioctlPec true)
  let result ← Device.attempt (smbusTransaction address operation dataType commandbuf buffer)
  if flags = i2cFlagPec then
    Device.access (Adapter.ioctlPec false)
  Device.ofResult result

/-- `sdi_i2cdev_bus_ops` -/
def busOps : I2cBusOps Unit Adapter where
  acquireBus := Device.lock ()
  smbusExecute := smbusExecute
  i2cExecute := i2cExecute
  releaseBus := Device.unlock ()

end I2cDev

/-! ## Requests to an I2C slave

What a caller of the bus API asks for, and what the slave should do about it: the caller's data at the
caller's offset and every other cell as it was.
-/

inductive Request
  | smbusSendByte (buffer : Byte)
  | smbusWriteByte (cmd : BitVec 32) (buffer : Byte)
  | smbusReadByte (cmd : BitVec 32)
  | smbusWriteWord (cmd : BitVec 32) (buffer : BitVec 16)
  | smbusReadWord (cmd : BitVec 32)
  | i2cWrite (cmd0 cmd1 buffer : Byte)
  | i2cRead (cmd0 cmd1 : Byte)

inductive Response
  | done
  | byte (b : Byte)
  | word (w : BitVec 16)
  deriving DecidableEq

/-- The call on the kernel bus. -/
def Request.run (address : I2cAddr) (buflen flags : BitVec 32) : Request → I2cDev.M Response
  | smbusSendByte buffer => do
      I2c.smbusSendByte I2cDev.busOps address buffer flags
      pure .done
  | smbusWriteByte cmd buffer => do
      I2c.smbusWriteByte I2cDev.busOps address cmd buffer flags
      pure .done
  | smbusReadByte cmd => do
      let b ← I2c.smbusReadByte I2cDev.busOps address cmd flags
      pure (.byte b)
  | smbusWriteWord cmd buffer => do
      I2c.smbusWriteWord I2cDev.busOps address cmd buffer flags
      pure .done
  | smbusReadWord cmd => do
      let w ← I2c.smbusReadWord I2cDev.busOps address cmd flags
      pure (.word w)
  | i2cWrite cmd0 cmd1 buffer => do
      I2c.i2cWrite I2cDev.busOps address [cmd0, cmd1] buffer buflen flags
      pure .done
  | i2cRead cmd0 cmd1 => do
      let b ← I2c.i2cRead I2cDev.busOps address [cmd0, cmd1] buflen flags
      pure (.byte b)

/-! ### What a request means -/

def I2cAddr.addrBytes (address : I2cAddr) : Nat := if address.addrMode16bit then 2 else 1

def offset16 (cmd0 cmd1 : Byte) : Nat := cmd0.toNat * 256 + cmd1.toNat

namespace Request

/-- The offset has as many bytes as the address mode says. -/
def InRange (address : I2cAddr) : Request → Prop
  | smbusSendByte _ => True
  | smbusWriteByte cmd _ | smbusReadByte cmd | smbusWriteWord cmd _ | smbusReadWord cmd =>
      cmd.toNat < 256 ^ address.addrBytes
  | i2cWrite _ _ _ | i2cRead _ _ => True

/-- The slave takes offsets of the size that the request has. -/
def Fits (address : I2cAddr) (s : Slave) : Request → Prop
  | i2cWrite _ _ _ | i2cRead _ _ => s.addrBytes = 2
  | _ => s.addrBytes = address.addrBytes

/-- What the slave should do: `s` before, `s'` after. -/
def Transfers (s : Slave) (response : Response) (s' : Slave) : Request → Prop
  | smbusSendByte buffer => s' = s.write [buffer]
  | smbusWriteByte cmd buffer => s'.mem = Function.update s.mem cmd.toNat buffer
  | smbusReadByte cmd => s'.mem = s.mem ∧ response = .byte (s.mem cmd.toNat)
  | smbusWriteWord cmd buffer =>
      s'.mem = Function.update (Function.update s.mem cmd.toNat (lowByte buffer))
        ((cmd.toNat + 1) % s.size) (highByte buffer)
  | smbusReadWord cmd =>
      s'.mem = s.mem ∧ response = .word (s.mem ((cmd.toNat + 1) % s.size) ++ s.mem cmd.toNat)
  | i2cWrite cmd0 cmd1 buffer => s'.mem = Function.update s.mem (offset16 cmd0 cmd1) buffer
  | i2cRead cmd0 cmd1 => s'.mem = s.mem ∧ response = .byte (s.mem (offset16 cmd0 cmd1))

/-- On the free bus and without errors, the request is carried out, whatever its slave holds, and no
other slave changes. -/
def Delivered (address : I2cAddr) (buflen flags : BitVec 32) (r : Request) : Prop :=
  ∀ d : Device Unit Errno Adapter, d.Quiet → d.held () = false →
    r.Fits address (d.hw.slaves address.i2cAddr) →
      ∃ response d', (r.run address buflen flags).out d = (.ok response, d') ∧ d'.held = d.held ∧
        r.Transfers (d.hw.slaves address.i2cAddr) response (d'.hw.slaves address.i2cAddr) ∧
          ∀ other ≠ address.i2cAddr, d'.hw.slaves other = d.hw.slaves other

/-- The requests that the driver carries out: no word at a 16-bit offset, no other byte than the
constant in a send, no two-byte command with two different bytes. -/
def Kept (address : I2cAddr) : Request → Prop
  | smbusSendByte buffer => buffer = smbusOffsetNonCmd.setWidth 8
  | smbusWriteByte _ _ | smbusReadByte _ => True
  | smbusWriteWord _ _ | smbusReadWord _ => address.addrMode16bit = false
  | i2cWrite cmd0 cmd1 _ | i2cRead cmd0 cmd1 => cmd0 = cmd1

end Request

end OpxSdi.I2c
