import OpxSdi.I2c.I2cDev
import OpxSdi.Onie.Eeprom

/-!
# Reading an EEPROM (`sdi_eeprom.c`)

The bus has memories behind an address pointer at its addresses. It puts the bytes of a transaction on the
wire as they are given.
-/

namespace OpxSdi.Eeprom

open Lib

/-- What is at each address of the bus. -/
abbrev Slaves := I2c.I2cAddr → Slave

abbrev M := Device.M Unit Errno Slaves

section Bus

open I2c

def smbusSize : SmbusDataType → I2cSmbusSize
  | .byte => .byte
  | .byteData => .byteData
  | .wordData => .wordData

def transfer (addr : I2cAddr) (operation : SmbusOperation) (dataType : SmbusDataType) (command : Byte)
    (buffer : BitVec 16) (slaves : Slaves) : BitVec 16 × Slaves :=
  let (buffer, s) := smbusTransfer operation command (smbusSize dataType) buffer (slaves addr)
  (buffer, Function.update slaves addr s)

def bus : I2cBusOps Unit Slaves where
  acquireBus := Device.lock ()
  smbusExecute addr operation dataType commandbuf buffer _flags :=
    Device.access (transfer addr operation dataType (commandbuf.setWidth 8) buffer)
  i2cExecute addr operation cmd buffer _buflen _flags := Device.access fun slaves =>
    match operation with
    | .write => (buffer, Function.update slaves addr ((slaves addr).write (cmd ++ [buffer])))
    | .read =>
        let (byte, s) := ((slaves addr).write cmd).load
        (byte, Function.update slaves addr s)
  releaseBus := Device.unlock ()

end Bus

/-- `SDI_I2C_FLAG_NONE` -/
def i2cFlagNone : BitVec 32 := 0

/-- The members of `sdi_device_entry_t` that a read uses. -/
structure DeviceEntry where
  i2cAddr : I2c.I2cAddr
  privateData : Onie.EntityInfoDevice

/-- The loop over an EEPROM of 64K bits, of `n` bytes that are left. -/
def readFrom (addr : I2c.I2cAddr) (offset : BitVec 32) : (n : Nat) → (counter : BitVec 32) → M (List Byte)
  | 0, _ => pure []
  | n + 1, counter => do
      -- The high byte of the offset is the command, and it is always 0.
      I2c.smbusWriteByte bus addr 0 (((offset + counter) &&& 0xff).setWidth 8) i2cFlagNone
      let byte ← I2c.smbusRecvByte bus addr i2cFlagNone
      let rest ← readFrom addr offset n (counter + 1)
      pure (byte :: rest)

/-- The bytes that are stored from `data[0]` on. -/
def sdiEepromRead (hdl : Option DeviceEntry) (dataIsNull : Bool) (offset len : BitVec 32) : M (List Byte) :=
  match hdl, dataIsNull with
  | none, _ | _, true => Device.fail .einval
  | some hdl, false =>
      if offset ≥ hdl.privateData.entitySize then Device.fail .einval
      else if hdl.privateData.entitySize = 8192 then readFrom hdl.i2cAddr offset len.toNat 0
      else if hdl.privateData.entitySize = 256 then
        I2c.smbusReadMultiByte bus hdl.i2cAddr offset len i2cFlagNone
      else Device.fail .einval

end OpxSdi.Eeprom
