import OpxSdi.Common.StdError
import OpxSdi.Lib.Tlv
import OpxSdi.Onie.VendorExtn

/-!
# The ONIE TLV EEPROM driver (`sdi_onie_eeprom.c`)

The image is read into a buffer of `entity_size` bytes. Every access of the code to the buffer and to
the members of the entity info is checked, so a result says that no access left its object.
Sizes, tags and the header version are those of `sdi_onie_eeprom.h`.
-/

namespace OpxSdi.Onie

open Lib

/-! ## Sizes and tags -/

/-- `sizeof(sdi_onie_tlv_field)`: the tag and the length, with `value[0]` taking no room. -/
def tlvFieldSize : Nat := 2
/-- `SDI_TL_FIELD_SIZE`, `(sizeof(sdi_onie_tlv_field)-1)`. -/
def tlFieldSize : Nat := tlvFieldSize - 1
def tlvHeaderSize : Nat := 11
def tlvCrcSize : Nat := 6
def onieCrcSize : Nat := 4
def crc32Tag : Byte := 0xfe
/-- `SDI_ONIE_HDR_ID_STRING` with its terminator. -/
def hdrIdString : List Byte := bytesOf "TlvInfo" ++ [0]
def hdrVersion : Byte := 1

inductive OnieTag
  | productName | partNo | serialNo | macAddr | labelVersion | platformName | noMacs | vendor | svcTag
  | vendorExtn | other
  deriving DecidableEq, Repr

def OnieTag.ofByte (tag : Byte) : OnieTag :=
  if tag = 0x21 then .productName
  else if tag = 0x22 then .partNo
  else if tag = 0x23 then .serialNo
  else if tag = 0x24 then .macAddr
  else if tag = 0x27 then .labelVersion
  else if tag = 0x28 then .platformName
  else if tag = 0x2a then .noMacs
  else if tag = 0x2d then .vendor
  else if tag = 0x2f then .svcTag
  else if tag = 0xfd then .vendorExtn
  else .other

/-! ## `copy_bytes_to_string` -/

def copyLoop {k : Nat} (src : Ptr) : (n d : Nat) → Vector Byte k → Checked (Vector Byte k)
  | 0, d, dst => store dst d 0
  | n + 1, d, dst => do
      let c ← src.load d
      if c = 0 then store dst d 0
      else if !isprint c then store dst 0 0
      else copyLoop src n (d + 1) (← store dst d c)

def copyBytesToString {k : Nat} (dst : Vector Byte k) (src : Ptr) (srcSize : Nat) :
    Checked (Vector Byte k) :=
  copyLoop src (if srcSize < k - 1 then srcSize else k - 1) 0 dst

/-! ## The header and the checksum -/

def totalLen (buf : List Byte) : Checked Nat := do
  let hi ← Ptr.load ⟨buf, 9⟩ 0
  let lo ← Ptr.load ⟨buf, 9⟩ 1
  .ok (hi.toNat * 256 + lo.toNat)

/-- `size - sizeof(sdi_onie_tlv_header)`, an `int` made a `size_t` by the subtraction. -/
def sizeLeft (size : BitVec 32) : Int := (size.toInt - tlvHeaderSize) % 2 ^ 64

def validateHeader (buf : List Byte) (size : BitVec 32) : Checked TStdError := do
  let idString ← Ptr.loadBytes ⟨buf, 0⟩ 8
  let version ← Ptr.load ⟨buf, 8⟩ 0
  let len ← totalLen buf
  .ok (if idString = hdrIdString ∧ version = hdrVersion ∧ (len : Int) ≤ sizeLeft size then .ok
    else .errcode .einval)

/-- The CRC as stored, most significant byte first. -/
def storedCrc (v0 v1 v2 v3 : Byte) : BitVec 32 := v0 ++ v1 ++ v2 ++ v3

def validateChecksum (E : Ext) (buf : List Byte) : Checked TStdError := do
  let len ← totalLen buf
  let crcTlv : Ptr := ⟨buf, tlvHeaderSize + len - (tlvFieldSize + onieCrcSize)⟩
  let tag ← crcTlv.load 0
  let length ← crcTlv.load 1
  if tag ≠ crc32Tag ∨ length.toNat ≠ onieCrcSize then
    .ok .errno
  else do
    let crc := E.crc32 (← Ptr.loadBytes ⟨buf, 0⟩ (tlvHeaderSize + len - onieCrcSize))
    let stored := storedCrc (← crcTlv.load 2) (← crcTlv.load 3) (← crcTlv.load 4) (← crcTlv.load 5)
    .ok (if crc = stored then .ok else .errcode .einval)

/-! ## `sdi_onie_fill_tlv_entity_info` -/

structure FillState where
  entityData : EntityInfo
  systemPartNumber : List Byte
  deriving DecidableEq

/-- `COPY_BYTES_TO_STRING(dst, tlv_fld->value, tlv_fld->length)`. -/
def copyTlvString {k : Nat} (dst : Vector Byte k) (tlvFld : Ptr) : Checked (Vector Byte k) := do
  let length ← tlvFld.load 1
  copyBytesToString dst (tlvFld.add 2) length.toNat

/-- The `switch` on the tag, for the field that `tlvFld` points at. -/
def fillTlv (E : Ext) (parserType : EntityParser) (tlvFld : Ptr) (st : FillState) :
    Checked FillState := do
  let info := st.entityData
  let tag ← tlvFld.load 0
  match OnieTag.ofByte tag with
  | .productName =>
      let s ← copyTlvString info.prodName tlvFld
      .ok { st with entityData := { info with prodName := s } }
  | .serialNo =>
      let s ← copyTlvString info.ppid tlvFld
      .ok { st with entityData := { info with ppid := s } }
  | .svcTag =>
      let s ← copyTlvString info.serviceTag tlvFld
      .ok { st with entityData := { info with serviceTag := s } }
  | .labelVersion =>
      let s ← copyTlvString info.hwRevision tlvFld
      .ok { st with entityData := { info with hwRevision := s } }
  | .platformName =>
      let s ← copyTlvString info.platformName tlvFld
      .ok { st with entityData := { info with platformName := s } }
  | .vendor =>
      let s ← copyTlvString info.vendorName tlvFld
      .ok { st with entityData := { info with vendorName := s } }
  | .macAddr =>
      let length ← tlvFld.load 1
      if length.toNat = macAddrLen then
        let mac ← memcpy info.baseMac (tlvFld.add 2) length.toNat
        .ok { st with entityData := { info with baseMac := mac } }
      else
        .ok st
  | .noMacs =>
      -- Two bytes are read whatever the length is.
      let lo ← tlvFld.load 3
      let hi ← tlvFld.load 2
      .ok { st with entityData := { info with macSize := (hi ++ lo).setWidth 32 } }
  | .vendorExtn =>
      let info ← fillVendorExtn E tlvFld parserType info
      .ok { st with entityData := info }
  | .partNo =>
      let s ← copyTlvString info.partNumber tlvFld
      .ok ⟨{ info with partNumber := s }, E.safestrncpy (cstr s.toList) partNumLen⟩
  | .other => .ok st

/-- The final state of the loop and the offsets of the fields it has interpreted, in order. -/
structure FillResult where
  state : FillState
  visited : List Nat
  deriving DecidableEq

/-- The `while (tlv_len > 0)` loop. The remaining length is reduced by the length of the next field. -/
def fillLoop (E : Ext) (parserType : EntityParser) (buf : List Byte) :
    (fuel : Nat) → (tlvLen : Int) → (tlvFld : Nat) → FillState → Checked FillResult
  | 0, tlvLen, _, st => if tlvLen ≤ 0 then .ok ⟨st, []⟩ else .error .fuel
  | fuel + 1, tlvLen, tlvFld, st =>
      if tlvLen ≤ 0 then .ok ⟨st, []⟩
      else do
        let st ← fillTlv E parserType ⟨buf, tlvFld⟩ st
        let length ← Ptr.load ⟨buf, tlvFld⟩ 1
        let next := tlvFld + (length.toNat + tlvFieldSize)
        let nextLength ← Ptr.load ⟨buf, next⟩ 1
        let r ← fillLoop E parserType buf fuel (tlvLen - nextLength.toNat - tlFieldSize) next st
        .ok { r with visited := tlvFld :: r.visited }

/-- Fill the entity info from an image. The loop takes as many turns as the fields have bytes at most. -/
def fillTlvEntityInfo (E : Ext) (parserType : EntityParser) (buf : List Byte)
    (systemPartNumber : List Byte) : Checked FillResult := do
  let len ← totalLen buf
  let tlvLen : Int := len - tlvCrcSize
  fillLoop E parserType buf tlvLen.toNat tlvLen tlvHeaderSize ⟨EntityInfo.zero, systemPartNumber⟩

/-! ## `sdi_onie_eeprom_data_get` -/

/-- `sdi_device_read(chip, offset, ·, len, ·)`: the return code and the bytes it has delivered. -/
abbrev DeviceRead := (offset len : Nat) → TStdError × List Byte

/-- `entity_info_device_t`. -/
structure EntityInfoDevice where
  entitySize : BitVec 32
  noOfFans : BitVec 32
  maxFanSpeed : BitVec 32

def storeBytes (buf : List Byte) (off : Nat) (bs : List Byte) : Checked (List Byte) :=
  if off + bs.length ≤ buf.length then .ok (buf.take off ++ bs ++ buf.drop (off + bs.length))
  else .error (.store (off + bs.length))

/-- The members the device configuration gives when the EEPROM does not. -/
def fillDefaults (dev : EntityInfoDevice) (info : EntityInfo) : EntityInfo :=
  { info with
    maxSpeed := if info.maxSpeed = 0 then dev.maxFanSpeed else info.maxSpeed
    numFans := if info.numFans = 0 then dev.noOfFans else info.numFans }

/-- The return code, the entity info and `system_part_number` after the call. -/
def onieEepromDataGet (E : Ext) (read : DeviceRead) (dev : EntityInfoDevice) (format : EntityParser)
    (st : FillState) : Checked (TStdError × FillState) := do
  let data := List.replicate dev.entitySize.toNat 0
  let (rc, header) := read 0 tlvHeaderSize
  let data ← storeBytes data 0 (header.take tlvHeaderSize)
  if rc ≠ .ok then return (rc, st)
  let rc ← validateHeader data dev.entitySize
  if rc ≠ .ok then return (rc, st)
  let len ← totalLen data
  -- The return code of this read is overwritten by that of the checksum.
  let data ← storeBytes data tlvHeaderSize ((read tlvHeaderSize len).2.take len)
  let rc ← validateChecksum E data
  if rc ≠ .ok then return (rc, st)
  match format with
  | .onieSysEeprom =>
      let r ← fillTlvEntityInfo E format data st.systemPartNumber
      return (.ok, r.state)
  | .oniePsuEeprom | .onieFanEeprom =>
      let r ← fillTlvEntityInfo E format data st.systemPartNumber
      return (.ok, { r.state with entityData := fillDefaults dev r.state.entityData })
  | _ => return (.errcode .eperm, st)

end OpxSdi.Onie
