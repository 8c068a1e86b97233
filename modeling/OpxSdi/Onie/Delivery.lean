import OpxSdi.Onie.Eeprom

/-!
# What the device has delivered

A read that fails leaves a prefix of the bytes it was asked for. The rest of the buffer stays zero, and the
code goes by that: it does not look at the return code of the second read.
-/

namespace OpxSdi.Onie

open Lib

/-! ## The device -/

inductive ReadOutcome
  | complete
  | fails (rc : TStdError) (delivered : Nat) (failed : rc ≠ .ok)

def ReadOutcome.rc : ReadOutcome → TStdError
  | .complete => .ok
  | .fails rc _ _ => rc

def ReadOutcome.delivered (len : Nat) : ReadOutcome → Nat
  | .complete => len
  | .fails _ n _ => min n len

structure EepromChip where
  contents : Nat → Byte
  outcome : (offset len : Nat) → ReadOutcome

namespace EepromChip

variable (chip : EepromChip)

def bytes (offset n : Nat) : List Byte := (List.range n).map fun i => chip.contents (offset + i)

def delivered (offset len : Nat) : Nat := (chip.outcome offset len).delivered len

/-- `sdi_device_read` -/
def read : DeviceRead := fun offset len =>
  ((chip.outcome offset len).rc, chip.bytes offset (chip.delivered offset len))

/-- `total_len` in the header -/
def totalLen : Nat := (chip.contents 9).toNat * 256 + (chip.contents 10).toNat

/-- Where the delivered bytes end, if the header has been delivered. -/
def deliveredEnd : Nat := tlvHeaderSize + chip.delivered tlvHeaderSize chip.totalLen

/-- `data` after both reads. -/
def buffer (size : Nat) : List Byte :=
  chip.bytes 0 chip.deliveredEnd ++ List.replicate (size - chip.deliveredEnd) 0

end EepromChip

/-! ## The fields that are decoded -/

/-- The `switch` has something to store for the field at `off`. -/
def Decodes (parserType : EntityParser) (buf : List Byte) (off : Nat) : Prop :=
  match OnieTag.ofByte (buf.getD off 0) with
  | .other => False
  | .macAddr => fieldLen buf off = macAddrLen
  | .vendorExtn => parserType = .onieFanEeprom ∨ parserType = .oniePsuEeprom
  | _ => True

/-- Where the bytes of the field end, and those that the `switch` reads for it. -/
def readEnd (buf : List Byte) (off : Nat) : Nat :=
  match OnieTag.ofByte (buf.getD off 0) with
  | .noMacs => off + tlvFieldSize + max 2 (fieldLen buf off)
  | _ => off + tlvFieldSize + fieldLen buf off

/-- What is left to do after `sdi_onie_fill_tlv_entity_info`. -/
def finishInfo (format : EntityParser) (dev : EntityInfoDevice) (st : FillState) : FillState :=
  match format with
  | .onieSysEeprom => st
  | _ => { st with entityData := fillDefaults dev st.entityData }

/-- On success the header and every decoded field have been delivered; an error leaves the entity info. -/
structure DecodesDelivered (E : Ext) (chip : EepromChip) (dev : EntityInfoDevice)
    (format : EntityParser) : Prop where
  success : ∀ st st', onieEepromDataGet E chip.read dev format st = .ok (.ok, st') →
    chip.delivered 0 tlvHeaderSize = tlvHeaderSize ∧ ∃ r,
      fillTlvEntityInfo E format (chip.buffer dev.entitySize.toNat) st.systemPartNumber = .ok r ∧
      st' = finishInfo format dev r.state ∧
      ∀ off ∈ r.visited, Decodes format (chip.buffer dev.entitySize.toNat) off →
        readEnd (chip.buffer dev.entitySize.toNat) off ≤ chip.deliveredEnd
  failure : ∀ st rc st', onieEepromDataGet E chip.read dev format st = .ok (rc, st') → rc ≠ .ok → st' = st

/-! ## The images on which a field runs over -/

/-- The image is accepted, and the loop stays in the buffer. -/
structure Accepts (E : Ext) (chip : EepromChip) (dev : EntityInfoDevice) (format : EntityParser) : Prop where
  header : chip.outcome 0 tlvHeaderSize = .complete
  large : tlvHeaderSize ≤ dev.entitySize.toNat
  headerOk : validateHeader (chip.buffer dev.entitySize.toNat) dev.entitySize = .ok .ok
  checksumOk : validateChecksum E (chip.buffer dev.entitySize.toNat) = .ok .ok
  format : format = .onieSysEeprom ∨ format = .oniePsuEeprom ∨ format = .onieFanEeprom
  bounded : chip.totalLen = 6 ∨ ∃ m ≥ 1,
    boundary (chip.buffer dev.entitySize.toNat) 11 m + 1 < dev.entitySize.toNat ∧
    chip.totalLen + 7 + fieldLen (chip.buffer dev.entitySize.toNat) 11 + m ≤
      boundary (chip.buffer dev.entitySize.toNat) 11 (m + 1)

/-- Field `k` begins in the delivered bytes and is decoded from bytes after them. -/
structure RunsOver (chip : EepromChip) (size : Nat) (format : EntityParser) (k : Nat) : Prop where
  begins : boundary (chip.buffer size) 11 k < chip.deliveredEnd
  decodes : Decodes format (chip.buffer size) (boundary (chip.buffer size) 11 k)
  past : chip.deliveredEnd < readEnd (chip.buffer size) (boundary (chip.buffer size) 11 k)
  /-- The counter of the loop is not used up. -/
  counted : boundary (chip.buffer size) 11 (k + 1) < chip.totalLen + 7 + fieldLen (chip.buffer size) 11 + k

end OpxSdi.Onie
