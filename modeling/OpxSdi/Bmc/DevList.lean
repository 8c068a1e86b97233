import OpxSdi.Bmc.OemCmd
import OpxSdi.Bmc.SensorDb
import OpxSdi.Common.Config

/-!
# The device list of a BMC (`sdi_bmc_dev.c`)

The entries of the list stand for the resources that the BMC manages. They are found by the name of the sensor
that holds their data.
-/

namespace OpxSdi.Bmc

open Lib

/-- `sdi_resource_type_t`. -/
inductive ResourceType
  | temperature | fan | led | digitDisplayLed | entityInfo | upgradablePld | media | nvram |
      commDev | hostSystem
  | powerMonitor | bmcDev | extControl
  deriving DecidableEq, Repr

def invalidOffset : BitVec 32 := 0xffffffff

/-- `sdi_bmc_dev_resource_info_t`, with the addresses of the sensor records and without its device handle. -/
structure DevResourceInfo where
  resourceType : ResourceType
  inst : BitVec 32
  aliasName : List Char
  dataSdrId : List Char
  dataSdr : Option Nat
  statusSdrId : List Char
  statusBit : BitVec 32
  statusSdr : Option Nat
  intUseElmOffset : BitVec 32
  airflowOffset : BitVec 32
  psuTypeOffset : BitVec 32
  psuTypeOemCmd : Option OemCmdInfo
  airFlowOemCmd : Option OemCmdInfo
  fanCount : BitVec 32
  maxFanSpeed : BitVec 32
  hdrSzOffset : BitVec 32
  isDummy : Bool
  deriving DecidableEq

/-- An entry of the list as `calloc` leaves it. `SDI_RESOURCE_TEMPERATURE` is the first resource type. -/
def DevResourceInfo.zeroed : DevResourceInfo :=
  ⟨.temperature, 0, [], [], none, [], 0, none, 0, 0, 0, none, none, 0, 0, 0, false⟩

/-- `sdi_bmc_dev_list_t`, whose `count` is the length. -/
abbrev DevList := List DevResourceInfo

/-- `sdi_bmc_dev_t`. -/
structure BmcDev where
  devList : Option DevList

/-- `sdi_device_entry_t`. -/
structure DevEntry where
  privateData : Option BmcDev

/-- `sdi_bmc_dev_get_by_data_sdr`. -/
def devGetByDataSdr (devHdl : Option DevEntry) (sdrId : List Char) : Except Crash (Option DevResourceInfo) :=
  match devHdl with
  | none => .ok none
  | some devHdl =>
      match devHdl.privateData with
      | none => .ok none
      | some bmcDev =>
          match bmcDev.devList with
          | none => .error .null
          | some devList => .ok (devList.find? (·.dataSdrId = sdrId))

end OpxSdi.Bmc
