import OpxSdi.Lib.Device
import OpxSdi.Lib.Format
import OpxSdi.Onie.Eeprom

/-!
# The Dell EEPROM driver (`sdi_dell_eeprom.c`)

A table gives the fields of a format with their offsets and sizes. The fields are read and decoded one
after another. Offsets, sizes and type codes are those of `sdi_dell_eeprom.h`.
-/

namespace OpxSdi.Dell

open Lib Onie

/-! ## The chip -/

structure Chip where
  eeprom : Byte → Byte
  privateData : EntityInfoDevice
  entityData : EntityInfo

/-- The lock is that of the bus. -/
abbrev M := Device.M Unit Errno Chip

def modifyEntityData (f : Chip → EntityInfo) : M Unit :=
  Device.internal fun chip => ((), { chip with entityData := f chip })

def readBytes : (cmd byteCount : Nat) → M (List Byte)
  | _, 0 => pure []
  | cmd, byteCount + 1 => do
      let b ← Device.access fun chip => (chip.eeprom (BitVec.ofNat 8 cmd), chip)
      let bs ← readBytes (cmd + 1) byteCount
      pure (b :: bs)

/-- `sdi_smbus_read_multi_byte`. -/
def smbusReadMultiByte (cmd byteCount : Nat) : M (List Byte) := do
  Device.lock ()
  let error ← Device.attempt (readBytes cmd byteCount)
  Device.unlock ()
  Device.ofResult error

/-! ## The tables -/

/-- `sdi_eeprom_info`. -/
structure EepromInfo (Name : Type) where
  name : Name
  offset : Nat
  size : Nat
  deriving DecidableEq, Repr

inductive LegacyField
  | ppid | rev | serviceTag | partNum | fanCount | fanType | psuType
  deriving DecidableEq, Repr

def dellLegacyFanEepromInfo : List (EepromInfo LegacyField) :=
  [⟨.ppid, 6, 20⟩, ⟨.rev, 26, 3⟩, ⟨.serviceTag, 29, 7⟩, ⟨.partNum, 36, 10⟩, ⟨.fanCount, 134, 1⟩,
    ⟨.fanType, 135, 1⟩]

def dellLegacyPsuEepromInfo : List (EepromInfo LegacyField) :=
  [⟨.ppid, 6, 20⟩, ⟨.rev, 26, 3⟩, ⟨.serviceTag, 29, 7⟩, ⟨.partNum, 36, 10⟩, ⟨.psuType, 134, 1⟩]

inductive DeltaField
  | serialNum | partNum | labelRev | fanAirflow | powerSrc | powerWatt | fanNumber | fanSpeed
  deriving DecidableEq, Repr

def deltaPsuEepromInfo : List (EepromInfo DeltaField) :=
  [⟨.serialNum, 0xc4, 20⟩, ⟨.partNum, 0xd8, 6⟩, ⟨.labelRev, 0xde, 3⟩, ⟨.fanAirflow, 0xe1, 7⟩,
    ⟨.powerSrc, 0xe8, 5⟩, ⟨.powerWatt, 0xed, 4⟩, ⟨.fanNumber, 0xf1, 1⟩, ⟨.fanSpeed, 0xf2, 5⟩]

/-! ## Decoding a field -/

/-- The return codes other than those of a read. -/
inductive FillRc
  | ok | errCfg | errParam
  deriving DecidableEq, Repr

def legacyFanAirFlowNormal : Byte := 1
def legacyFanAirFlowReverse : Byte := 2

def legacyPsuAcNormal : Byte := 1
def legacyPsuAcReverse : Byte := 2
def legacyPsuDcNormal : Byte := 3
def legacyPsuDcReverse : Byte := 4

/-- The return code and the entity info after a field that fills it. -/
def filled (info : EntityInfo) : Checked (FillRc × EntityInfo) := .ok (.ok, info)

/-- `_atoi`. -/
def atoi (buf : List Byte) : BitVec 32 := BitVec.ofInt 32 (strtol (cstr buf)).1

def dellLegacyDecode (name : LegacyField) (data : List Byte) (info : EntityInfo) :
    Checked (FillRc × EntityInfo) :=
  match name with
  | .fanType => do
      let type ← Ptr.load ⟨data, 0⟩ 0
      if type = legacyFanAirFlowNormal then filled { info with airFlow := .normal }
      else if type = legacyFanAirFlowReverse then filled { info with airFlow := .reverse }
      else .ok (.errCfg, info)
  | .psuType => do
      let type ← Ptr.load ⟨data, 0⟩ 0
      let power := info.powerType
      if type = legacyPsuAcNormal then
        filled { info with powerType := { power with acPower := true }, airFlow := .normal }
      else if type = legacyPsuAcReverse then
        filled { info with powerType := { power with acPower := true }, airFlow := .reverse }
      else if type = legacyPsuDcNormal then
        filled { info with powerType := { power with dcPower := true }, airFlow := .normal }
      else if type = legacyPsuDcReverse then
        filled { info with powerType := { power with dcPower := true }, airFlow := .reverse }
      else .ok (.errCfg, info)
  | .fanCount => do
      let count ← Ptr.load ⟨data, 0⟩ 0
      filled { info with numFans := count.setWidth 32 }
  | .ppid => do
      let prodName ← copyBytesToString info.prodName ⟨data, 0⟩ data.length
      let ppid ← copyBytesToString info.ppid ⟨data, 0⟩ data.length
      filled { info with prodName, ppid }
  | .rev => do
      let hwRevision ← copyBytesToString info.hwRevision ⟨data, 0⟩ data.length
      filled { info with hwRevision }
  | .serviceTag => do
      let serviceTag ← copyBytesToString info.serviceTag ⟨data, 0⟩ data.length
      filled { info with serviceTag }
  | .partNum => do
      let partNumber ← copyBytesToString info.partNumber ⟨data, 0⟩ data.length
      filled { info with partNumber }

/-- `strncmp(buf, s, n) == 0`. -/
def strncmpEq (buf s : List Byte) (n : Nat) : Bool := (cstr buf).take n = s.take n

/-- `strstr(temp, s) != NULL` for the bytes of a buffer and a NUL. -/
def contains (buf s : List Byte) : Prop := s <:+: cstr buf

instance (buf s : List Byte) : Decidable (contains buf s) := inferInstanceAs (Decidable (s <:+: cstr buf))

def fillPowerSrc (data : List Byte) (power : PowerType) : PowerType :=
  { dcPower := power.dcPower || contains data (bytesOf "DC")
    acPower := power.acPower || contains data (bytesOf "AC") }

def deltaPsuDecode (name : DeltaField) (data : List Byte) (info : EntityInfo) :
    Checked (FillRc × EntityInfo) :=
  match name with
  | .serialNum => do
      let ppid ← copyBytesToString info.ppid ⟨data, 0⟩ data.length
      filled { info with ppid }
  | .partNum => do
      let partNumber ← copyBytesToString info.partNumber ⟨data, 0⟩ data.length
      filled { info with partNumber }
  | .labelRev => do
      let hwRevision ← copyBytesToString info.hwRevision ⟨data, 0⟩ data.length
      filled { info with hwRevision }
  | .powerSrc =>
      let power := fillPowerSrc data info.powerType
      .ok (if power.dcPower || power.acPower then .ok else .errCfg, { info with powerType := power })
  | .fanAirflow =>
      if strncmpEq data (bytesOf "REVERSE") 7 then filled { info with airFlow := .reverse }
      else if strncmpEq data (bytesOf "FORWARD") 7 then filled { info with airFlow := .normal }
      else .ok (.errCfg, info)
  | .powerWatt => filled { info with powerRating := atoi data }
  | .fanNumber => filled { info with numFans := atoi data }
  | .fanSpeed => filled { info with maxSpeed := atoi data }

/-! ## Filling the entity info -/

/-- An access outside its object has no result. -/
def ofChecked {α : Type} : Checked α → M α
  | .ok a => pure a
  | .error _ => fun d => (.error .aborted, d)

section Loop

variable {Name : Type} (decode : Name → List Byte → EntityInfo → Checked (FillRc × EntityInfo))

/-- One turn of the loop over a table. The return code is the one that the field sets. -/
def fillField (row : EepromInfo Name) : M FillRc := do
  let data ← smbusReadMultiByte row.offset row.size
  let chip ← Device.internal fun chip => (chip, chip)
  let (rc, info) ← ofChecked (decode row.name data chip.entityData)
  modifyEntityData fun _ => info
  return rc

def fillFields : (rc : FillRc) → List (EepromInfo Name) → M FillRc
  | rc, [] => pure rc
  | _, row :: rows => do
      let rc ← fillField decode row
      fillFields rc rows

/-- What both functions do: the members from the configuration, then the fields of the table. -/
def fillTable (table : Option (List (EepromInfo Name))) : M FillRc := do
  modifyEntityData fun chip =>
    { EntityInfo.zero with
      numFans := chip.privateData.noOfFans
      maxSpeed := chip.privateData.maxFanSpeed }
  match table with
  | none => return .errParam
  | some rows => fillFields decode .ok rows

end Loop

def deltaTable : EntityParser → Option (List (EepromInfo DeltaField))
  | .deltaPsuEeprom => some deltaPsuEepromInfo
  | _ => none

def legacyTable : EntityParser → Option (List (EepromInfo LegacyField))
  | .dellLegacyPsuEeprom => some dellLegacyPsuEepromInfo
  | .dellLegacyFanEeprom => some dellLegacyFanEepromInfo
  | _ => none

/-- `sdi_delta_psu_eeprom_info_fill`. -/
def deltaPsuEepromInfoFill (parserType : EntityParser) : M FillRc :=
  fillTable deltaPsuDecode (deltaTable parserType)

/-- `sdi_dell_legacy_info_fill`. -/
def dellLegacyInfoFill (parserType : EntityParser) : M FillRc :=
  fillTable dellLegacyDecode (legacyTable parserType)

end OpxSdi.Dell
