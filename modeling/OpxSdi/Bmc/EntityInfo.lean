import OpxSdi.Common.EntityInfo
import OpxSdi.Common.StdError
import OpxSdi.Lib.CharArray

/-!
# Entity info of the BMC (`sdi_bmc_entity_info.c`)

The texts of the sensor record are in arrays, of which only what stands before the NUL has come from the BMC. The
PPID is put together in place.
-/

namespace OpxSdi.Bmc

open Lib

/-- `sdi_bmc_entity_info_t` -/
structure SdrEntityInfo where
  valid : Bool
  boardManufacturer : CharArray 64
  boardProductName : CharArray 64
  boardSerialNumber : CharArray ppidLen
  boardPartNumber : CharArray partNumLen
  airFlow : Byte
  type : Byte
  numFans : BitVec 32
  maxSpeed : BitVec 32

/-- The members of `sdi_bmc_sensor_t` that are looked at -/
structure EntityInfoSensor where
  entityId : BitVec 32
  entityInfo : SdrEntityInfo

def dellPnSize : Nat := 6
def dellCnSize : Nat := 2
def mgidOffset : Nat := dellPnSize + dellCnSize

/-- `IPMI_ENTITY_ID_POWER_SUPPLY` of the IPMI library -/
def ipmiEntityIdPowerSupply : BitVec 32 := 10

/-- `BMC_AC_TYPE`, `BMC_DC_TYPE` and `BMC_AC_DC_TYPE` -/
def powerTypeOf (type : Byte) : Option PowerType :=
  if type = 0 then some ⟨true, false⟩
  else if type = 1 then some ⟨false, true⟩
  else if type = 2 then some ⟨true, true⟩
  else none

variable (afterNul : Byte → Byte)

namespace SdrEntityInfo

variable (res : SdrEntityInfo)

/-- The copies before the type is looked at -/
def copyTexts (info : EntityInfo) : Checked EntityInfo := do
  let vendorName ← safestrncpy afterNul info.vendorName 0 (res.boardManufacturer.ptr 0) nameMax
  let prodName ← safestrncpy afterNul info.prodName 0 (res.boardProductName.ptr 0) nameMax
  let partNumber ← safestrncpy afterNul info.partNumber 0 (res.boardPartNumber.ptr 0) partNumLen
  let partNumber ← store partNumber dellPnSize 0
  let hwRevision ← safestrncpy afterNul info.hwRevision 0 (res.boardPartNumber.ptr dellPnSize) hwRevLen
  let ppid ← safestrncpy afterNul info.ppid 0 (res.boardSerialNumber.ptr 0) ppidLen
  .ok { info with vendorName, prodName, partNumber, hwRevision, ppid }

/-- The copies into the PPID of a power supply -/
def copyPsuPpid (info : EntityInfo) : Checked EntityInfo := do
  let ppid ← safestrncpy afterNul info.ppid dellCnSize ⟨info.partNumber.toList, 0⟩ (ppidLen - dellCnSize)
  let ppid ← safestrncpy afterNul ppid mgidOffset (res.boardSerialNumber.ptr dellCnSize)
    (ppidLen - dellCnSize - dellPnSize)
  .ok { info with ppid }

end SdrEntityInfo

/-- The record of the resource, or the one that is found by its name -/
def entityInfoDataGet (dataSdr sensorByName : Option EntityInfoSensor) (info : EntityInfo) :
    Checked (TStdError × EntityInfo) :=
  match dataSdr.or sensorByName with
  | none => .ok (.errcode .einval, info)
  | some sensor =>
      if sensor.entityInfo.valid then do
        let info ← sensor.entityInfo.copyTexts afterNul info
        let info := { info with airFlow := if sensor.entityInfo.airFlow = 0 then .normal else .reverse }
        match powerTypeOf sensor.entityInfo.type with
        | none => .ok (.errcode .einval, info)
        | some powerType =>
            let info := { info with
              powerType
              numFans := sensor.entityInfo.numFans
              maxSpeed := sensor.entityInfo.maxSpeed }
            if sensor.entityId = ipmiEntityIdPowerSupply then do
              let info ← sensor.entityInfo.copyPsuPpid afterNul info
              .ok (.ok, info)
            else
              .ok (.ok, info)
      else
        .ok (.errcode .einval, info)

end OpxSdi.Bmc
