import OpxSdi.Common.StdError
import OpxSdi.Lib.Acts
import OpxSdi.Lib.Buffer
import OpxSdi.Lib.CString
import OpxSdi.Common.Config

/-!
# The communication device (`sdi_comm_dev_driver.c`, `sdi_comm_dev.c`)

The driver talks to the device in SMBus transactions, each of which may fail. What the device answers
and how it changes is a parameter; a computation stops only at a fault of the code itself. Addresses,
sizes and bits are those of `sdi_comm_dev_attr.h`.
-/

namespace OpxSdi.CommDev

open Lib

/-! ## The bus -/

/-- The transactions with the device at `COMM_DEV_I2C_ADDR`, on a device with states `σ`. -/
structure SmBus (σ : Type) where
  /-- `sdi_smbus_write_byte(·, ·, cmd, buffer, ·)`. -/
  writeByte : (cmd buffer : Byte) → σ → TStdError × σ
  /-- `sdi_smbus_recv_byte`, which stores a byte only on success. -/
  recvByte : σ → Except Errno Byte × σ
  /-- `sdi_smbus_execute(·, ·, SDI_SMBUS_WRITE, SDI_SMBUS_BLOCK_DATA, cmd, block, ·, ·)`. -/
  writeBlock : (cmd : Byte) → (block : List Byte) → σ → TStdError × σ

/-- `sdi_resource_type_t`, as far as the driver tells the types apart. -/
inductive ResourceType
  | commDev | other
  deriving DecidableEq, Repr

structure Resource (σ : Type) where
  type : ResourceType
  bus : SmBus σ

abbrev DevM (σ : Type) := Acts σ Fault

/-- `I2C_SMBUS_BLOCK_MAX / 2`. -/
def smbusBlockLen : Nat := 16
def bufferMaxSize : Nat := 4100
def mailboxHeaderSize : Nat := 4
def northboundMailbox : BitVec 16 := 0x8500
def southboundMailbox : BitVec 16 := 0x9504
def statusRegister : BitVec 16 := 0x7c90
def mailboxControl : BitVec 16 := 0x7c92
def flushMailboxBit : Nat := 0
def readAndVerifiedBit : Nat := 1

def lowByte (x : BitVec 16) : Byte := x.setWidth 8
def highByte (x : BitVec 16) : Byte := (x >>> 8).setWidth 8

/-- `sdi_smbus_write_i2c_block_data`: the count, the high byte of the offset and the values. -/
def smbusWriteI2cBlockData (B : SmBus σ) (cmd : BitVec 16) (values : List Byte) (s : σ) : TStdError × σ :=
  let length := values.length % 256
  let length := if smbusBlockLen < length then smbusBlockLen else length
  let block := BitVec.ofNat 8 (length + 1) :: highByte cmd :: values.take length
  B.writeBlock (lowByte cmd) block s

variable {σ : Type}

/-! ## Reading -/

/-- The `for` loop of `sdi_comm_dev_recv_byte` with `left` bytes to go; a failure does not end it. -/
def recvLoop (B : SmBus σ) : (left lenCount : Nat) → TStdError → Buffer → DevM σ (TStdError × Buffer)
  | 0, _, rc, regData => pure (rc, regData)
  | left + 1, lenCount, _, regData => do
      match ← Acts.act B.recvByte with
      | .ok b =>
          let regData ← Acts.check (regData.store lenCount b)
          recvLoop B left (lenCount + 1) .ok regData
      | .error e => recvLoop B left (lenCount + 1) (.errcode e) regData

def commDevRecvByte (B : SmBus σ) (regOffset : BitVec 16) (len : Nat) (regData : Buffer) :
    DevM σ (TStdError × Buffer) := do
  let rc ← Acts.act (B.writeByte (lowByte regOffset) (highByte regOffset))
  if rc = .ok then recvLoop B len 0 rc regData else pure (rc, regData)

def commDevRead (R : Resource σ) (offset : BitVec 16) (len : Nat) (data : Buffer) :
    DevM σ (TStdError × Buffer) :=
  if R.type ≠ .commDev then pure (.errcode .eperm, data) else commDevRecvByte R.bus offset len data

/-! ## Writing -/

def commDevWriteBlock (B : SmBus σ) (regOffset : BitVec 16) (regData : List Byte) : DevM σ TStdError :=
  Acts.act (smbusWriteI2cBlockData B regOffset regData)

/-- The `while (len_count < len)` loop that writes `data` in blocks. -/
def writeBlocks (B : SmBus σ) (offset : BitVec 16) (data : List Byte) :
    (fuel lenCount : Nat) → DevM σ TStdError
  | 0, lenCount => if lenCount < data.length then throw .fuel else pure .ok
  | fuel + 1, lenCount =>
      if lenCount < data.length then do
        let left := data.length - lenCount
        let n := if left > smbusBlockLen then smbusBlockLen else left
        let rc ← commDevWriteBlock B (offset + BitVec.ofNat 16 lenCount) ((data.drop lenCount).take n)
        if rc ≠ .ok then pure rc else writeBlocks B offset data fuel (lenCount + smbusBlockLen)
      else
        pure .ok

def commDevWrite (R : Resource σ) (offset : BitVec 16) (data : List Byte) : DevM σ TStdError :=
  if R.type ≠ .commDev then pure (.errcode .eperm) else writeBlocks R.bus offset data data.length 0

/-! ## The control registers -/

/-- `STD_BIT_SET` on the first byte of a register that is read and written back. -/
def setControlBit (R : Resource σ) (bit : Nat) : DevM σ TStdError := do
  let (rc, control) ← commDevRead R mailboxControl 2 (Buffer.zeroed 2)
  if rc = .ok then do
    let lo ← Acts.check (control.load 0)
    let hi ← Acts.check (control.load 1)
    commDevWrite R mailboxControl [lo ||| (1 : Byte) <<< bit, hi]
  else
    pure rc

def flushMsgBuffer (R : Resource σ) : DevM σ TStdError := setControlBit R flushMailboxBit

def packageReadAndVerified (R : Resource σ) : DevM σ TStdError := setControlBit R readAndVerifiedBit

/-- The alarms in the status register are only traced; then it is cleared and the mailbox flushed. -/
def statusCheckAndClear (R : Resource σ) : DevM σ TStdError := do
  let (rc, _) ← commDevRead R statusRegister 2 (Buffer.zeroed 2)
  if rc = .ok then do
    let _ ← commDevWrite R statusRegister [0, 0]
    flushMsgBuffer R
  else
    pure rc

/-! ## The mailbox header -/

structure MailboxHeader where
  checksum : BitVec 16
  size : BitVec 16
  deriving DecidableEq

def MailboxHeader.bytes (h : MailboxHeader) : List Byte :=
  [lowByte h.checksum, highByte h.checksum, lowByte h.size, highByte h.size]

/-- The sum over the payload and both bytes of the size. -/
def mailboxSum (payload : List Byte) (size : BitVec 16) : BitVec 16 :=
  payload.foldl (fun sum b => sum + b.setWidth 16) 0 + (size &&& 0xff) + (size >>> 8)

def addMailboxHeader (pString : List Byte) : MailboxHeader :=
  let size := BitVec.ofNat 16 ((cstr pString).length + 1)
  { size, checksum := ~~~(mailboxSum (pString.take size.toNat) size) + 1 }

def loadU16 (buf : Buffer) (i : Nat) : Checked (BitVec 16) := do
  let lo ← buf.load i
  let hi ← buf.load (i + 1)
  .ok (hi ++ lo)

def checkMailboxHeader (pString pHeader : Buffer) : Checked Bool := do
  let size ← loadU16 pHeader 2
  let payload ← pString.loads size.toNat
  let checksum ← loadU16 pHeader 0
  .ok (~~~(mailboxSum payload size) + 1 = checksum)

/-! ## The mailboxes -/

/-- The part of `sdi_read_mailbox` that follows a good header. -/
def readMailboxPayload (R : Resource σ) (mailbox : BitVec 16) (header : Buffer) (size : BitVec 16)
    (regData : Buffer) : DevM σ (TStdError × Buffer) := do
  let (rc, regData) ← commDevRead R (mailbox + BitVec.ofNat 16 mailboxHeaderSize) size.toNat regData
  if rc = .ok then do
    if ← Acts.check (checkMailboxHeader regData header) then pure (rc, regData)
    else pure (.errcode .eperm, regData)
  else
    pure (rc, regData)

/-- `sdi_read_mailbox` on the mailbox at `mailbox`. The size is looked at before the return code. -/
def readMailboxAt (R : Resource σ) (mailbox : BitVec 16) (regData : Buffer) :
    DevM σ (TStdError × Buffer) := do
  let (rc, header) ← commDevRead R mailbox mailboxHeaderSize (Buffer.indeterminate mailboxHeaderSize)
  let size ← Acts.check (loadU16 header 2)
  if bufferMaxSize < size.toNat then pure (.errcode .eperm, regData)
  else if rc = .ok then readMailboxPayload R mailbox header size regData
  else pure (rc, regData)

def readMailbox (R : Resource σ) (regData : Buffer) : DevM σ (TStdError × Buffer) :=
  readMailboxAt R southboundMailbox regData

/-- `regData` holds `len` bytes. -/
def writeMailbox (R : Resource σ) (regData : List Byte) : DevM σ TStdError :=
  if R.type ≠ .commDev then pure (.errcode .eperm)
  else do
    let _ ← statusCheckAndClear R
    let header := addMailboxHeader regData
    let rc ← commDevWriteBlock R.bus northboundMailbox header.bytes
    if rc ≠ .ok then pure (.errcode .eperm)
    else writeBlocks R.bus (northboundMailbox + BitVec.ofNat 16 mailboxHeaderSize) regData regData.length 0

/-! ## `sdi_comm_dev_msg_read` -/

/-- The return code and what the caller's buffer of `size_data` bytes holds. -/
def commDevMsgRead (R : Resource σ) (sizeData : Nat) : DevM σ (TStdError × Buffer) := do
  let readData := Buffer.zeroed sizeData
  if R.type ≠ .commDev then pure (.errcode .eperm, readData)
  else do
    let (rc, readData) ← readMailbox R readData
    if rc = .ok then do
      let rc ← packageReadAndVerified R
      pure (rc, readData)
    else
      pure (rc, readData)

/-! ## `sdi_comm_dev_msg_write` -/

def downloadCompleteBit : Nat := 2
def packageInMailboxBit : Nat := 0
def northboundMailboxStatus : BitVec 16 := 0x7cd8
def northboundMailboxTimeThreshold : BitVec 16 := 3

/-- The control register is written back together with the time threshold after it. -/
def packageDownloadComplete (R : Resource σ) : DevM σ TStdError := do
  let (rc, control) ← commDevRead R mailboxControl 2 (Buffer.zeroed 4)
  if rc = .ok then do
    let lo ← Acts.check (control.load 0)
    let hi ← Acts.check (control.load 1)
    commDevWrite R mailboxControl [lo ||| (1 : Byte) <<< downloadCompleteBit, hi,
      lowByte northboundMailboxTimeThreshold, highByte northboundMailboxTimeThreshold]
  else
    pure rc

/-- `writeData` holds `size_data` bytes. -/
def commDevMsgWrite (R : Resource σ) (writeData : List Byte) : DevM σ TStdError :=
  if R.type ≠ .commDev then pure (.errcode .eperm)
  else do
    let rc ← writeMailbox R writeData
    if rc = .ok then packageDownloadComplete R else pure rc

/-- `sdi_is_buffer_ready` -/
def isBufferReady (R : Resource σ) : DevM σ (TStdError × Bool) := do
  let (rc, mboxStatus) ← commDevRead R northboundMailboxStatus 4 (Buffer.zeroed 4)
  if rc = .ok then do
    let status ← Acts.check (mboxStatus.load 0)
    pure (rc, status.getLsbD packageInMailboxBit = false)
  else
    pure (rc, false)

/-! ## Temperatures for the communication device (`sdi_comm_dev_driver.c`, `sdi_comm_dev_ext_ctrl.c`)

A temperature in degrees is written in tenths of a degree, low byte first. Some of the writes first look whether the
device has been reset.
-/

section

def mailboxEnableReg : BitVec 16 := 0x7b7e
def sensor06Telemetry : BitVec 16 := 0x7c7a
def sensor07Telemetry : BitVec 16 := 0x7c7c

def mailboxEnableValue : BitVec 16 := 0x3
def mailboxDisableValue : BitVec 16 := 0x0
def statusBitReset : Nat := 0

variable {σ : Type} (R : Resource σ)

def wordBytes (w : BitVec 16) : List Byte := [lowByte w, highByte w]

/-- The bytes of `(uint16_t)(temperature * 10)` -/
def tenths (temperature : BitVec 32) : List Byte := wordBytes ((temperature * 10).setWidth 16)

def commDevResetRefresh : DevM σ TStdError := do
  let (rc, commDevStatus) ← commDevRead R statusRegister 2 (Buffer.zeroed 2)
  if rc = .ok then do
    let status ← Acts.check (commDevStatus.load 0)
    -- The bit is tested for being clear.
    let rc ← if status.getLsbD statusBitReset = false then
        commDevWrite R mailboxEnableReg (wordBytes mailboxEnableValue)
      else pure .ok
    if rc ≠ .ok then pure rc else commDevWrite R statusRegister [0, 0]
  else pure rc

/-- `write_temp_sensor` and `write_npu_temp_sensor` -/
def writeSensor06Telemetry (inputTemperature : BitVec 32) : DevM σ TStdError := do
  let rc ← commDevResetRefresh R
  if rc ≠ .ok then pure rc else commDevWrite R sensor06Telemetry (tenths inputTemperature)

/-- `write_ambient_temp_sensor` -/
def writeSensor07Telemetry (inputTemperature : BitVec 32) : DevM σ TStdError :=
  commDevWrite R sensor07Telemetry (tenths inputTemperature)

def mailboxEnable (messagingEnable : Bool) : DevM σ TStdError :=
  commDevWrite R mailboxEnableReg (wordBytes (if messagingEnable then mailboxEnableValue else mailboxDisableValue))

/-! ### External controls -/

/-- The members of `sdi_comm_dev_ext_ctrl_device_t` that are looked at after the registration -/
structure ExtCtrlDevice where
  ctrlValueOffset : BitVec 16
  width : BitVec 16
  refresh : Bool

def maxCtrlDataLen : BitVec 16 := 2

/-- `sdi_comm_dev_ext_ctrl_data_get`. `buffer` has the bytes that the array of the function holds before the read, which
it does not initialise. The size is set to 1. -/
def extCtrlDataGet (dev : ExtCtrlDevice) (buffer : Byte × Byte) : Except Crash (DevM σ (TStdError × BitVec 32)) := do
  assert (dev.width = maxCtrlDataLen)
  return do
    let (rc, buffer) ← commDevRead R dev.ctrlValueOffset dev.width.toNat [some buffer.1, some buffer.2]
    let high ← Acts.check (buffer.load 1)
    let low ← Acts.check (buffer.load 0)
    pure (rc, (high.setWidth 32 <<< 8 ||| low.setWidth 32).sdiv 10)

/-- `sdi_comm_dev_ext_ctrl_data_set` after its assertions -/
def extCtrlStore (offset : BitVec 16) (data : BitVec 32) (refresh : Bool) : DevM σ TStdError := do
  let rc ← if refresh then commDevResetRefresh R else pure .ok
  if rc ≠ .ok then pure rc else commDevWrite R offset (tenths data)

def extCtrlDataSet (dev : ExtCtrlDevice) (data size : BitVec 32) : Except Crash (DevM σ TStdError) := do
  assert (dev.width = maxCtrlDataLen)
  assert (size = 1)
  return extCtrlStore R dev.ctrlValueOffset data dev.refresh

end

end OpxSdi.CommDev
