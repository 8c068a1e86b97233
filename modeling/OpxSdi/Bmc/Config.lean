import OpxSdi.Bmc.OemCmd
import OpxSdi.Bmc.SensorDb
import OpxSdi.Bmc.DevList

/-!
# The OEM pollers of the BMC (`sdi_bmc.c`)

A poller watches some bits of a discrete sensor, and executes its commands while they are set. It points at
the state of a sensor record, which is the record of its own sensor once that one has been found.
-/

namespace OpxSdi.Bmc

open Lib

/-- `sdi_bmc_oem_poller_t`, with the address of the record for `sensor_loc`. -/
structure OemPoller where
  sensor : List Char
  sensorBit : BitVec 32
  sensorLoc : Nat
  oemCmd : List OemCmdInfo
  deriving DecidableEq

/-- `sdi_bmc_populate_sensor_for_poller` returns at the first sensor that is not there. -/
def populateSensorForPoller (sensors : List BmcSensor) : (nodes : List OemPoller) → List OemPoller
  | [] => []
  | node :: nodes =>
      match dbSensorGetByName sensors node.sensor with
      | none => node :: nodes
      | some sensor => { node with sensorLoc := sensor.addr } :: populateSensorForPoller sensors nodes

section

variable {μ : Type} (ipmi : Ipmi μ)

/-- The commands of one node. What they return is not looked at. -/
def OemPoller.execute (node : OemPoller) : Checked (List OemCmdResult) :=
  node.oemCmd.mapM fun oemCmd => oemCmdExecute ipmi oemCmd none

-- The discrete states of the records, by address.
variable (state : Nat → BitVec 32)

/-- `sdi_bmc_oem_poller`: for each node the commands that have been executed. -/
def oemPoller (nodes : List OemPoller) : Checked (List (List OemCmdResult)) :=
  nodes.mapM fun node =>
    if state node.sensorLoc &&& node.sensorBit = node.sensorBit then node.execute ipmi else .ok []

end

/-! ## From the configuration of a BMC to its resources (`sdi_bmc_dev.c`)

The device list has a slot for every child of the configuration node. The children that stand for a
resource fill the slots from the front, and every slot is registered. Memory is always there.
`maxNameLen` is `SDI_MAX_NAME_LEN`.
-/

/-! ### Nodes and names -/

structure ChildNode extends ConfigNode where
  children : List ConfigNode

def maxNameLen : Nat := 64

/-- `snprintf` into a name, which is told a size that is one less than it is. -/
def snprintfName (text : List Char) : List Char := text.take (maxNameLen - 1 - 1)

/-! ### OEM commands -/

def hexAttr (node : ConfigNode) (key : String) {w : Nat} (old : BitVec w) : BitVec w :=
  match node.attr key with
  | none => old
  | some text => hexNumber w text

def populateOemCmdInfo (node : ConfigNode) (oemInfo : OemCmdInfo) : Except Crash OemCmdInfo := do
  let netfn ← node.required "oem_netfn"
  let cmd ← node.required "oem_cmd"
  .ok { oemInfo with
    netfn := hexNumber 32 netfn
    cmd := hexNumber 32 cmd
    busId := hexAttr node "oem_busid" oemInfo.busId
    slaveAddr := hexAttr node "oem_slave_addr" oemInfo.slaveAddr
    dataSize := hexAttr node "oem_data_size" oemInfo.dataSize
    offset := hexAttr node "oem_offset" oemInfo.offset
    data := hexAttr node "oem_data" oemInfo.data }

def OemCmdInfo.zeroed : OemCmdInfo := ⟨0, 0, 0, 0, 0, 0, 0, Vector.replicate (oemDataLen + 4) 0⟩

/-! ### The device list -/

/-- What `sdi_bmc_populate_dev_list` builds: the array with its fill index, the OEM pollers, and the sensor
records that they point at until their sensors are found. -/
structure Populated where
  data : DevList
  count : Nat
  pollers : List OemPoller
  placeholders : List BmcSensor

section

-- The memory that `realloc` adds to the commands of a poller, and the address of the first placeholder.
variable (dirty : OemCmdInfo) (base : Nat)

/-- A placeholder's state has all of its lowest eight bits set. -/
def placeholder (addr : Nat) : BmcSensor :=
  { BmcSensor.cleared addr with readingType := .discrete, discreteState := 0xff }

/-- The poller for a sensor gets one more command; if there is no poller yet, there is one with no command. -/
def addOemCmd (node : ConfigNode) (sensor : List Char) (oemCmd : OemCmdInfo) (addr : Nat) :
    List OemPoller → List OemPoller
  | [] => [{
      sensor := sensor.take (maxNameLen - 1)
      sensorBit := match node.attr "sensor_req_bit" with
        | none => 0
        | some text => number 32 text
      sensorLoc := addr
      oemCmd := [oemCmd] }]
  | poller :: pollers =>
      if sensor = poller.sensor then
        { poller with sensorLoc := addr, oemCmd := poller.oemCmd ++ [oemCmd] } :: pollers
      else
        poller :: addOemCmd node sensor oemCmd addr pollers

def populateOemStatus (node : ConfigNode) (slot : DevResourceInfo) (p : Populated) :
    Except Crash (DevResourceInfo × Populated) := do
  assert (node.name = some "oem_status_sdr".toList)
  let sensor ← node.required "sensor_req"
  let oemCmd ← populateOemCmdInfo node dirty
  let addr := base + p.placeholders.length
  .ok ({ slot with statusSdr := some addr }, { p with
    pollers := addOemCmd node sensor oemCmd addr p.pollers
    placeholders := p.placeholders ++ [placeholder addr] })

def populateFan (child : ChildNode) (slot : DevResourceInfo) (p : Populated) :
    Except Crash (DevResourceInfo × Populated) :=
  let slot := { slot with resourceType := .fan }
  match child.attr "status_sdr_id" with
  | some text =>
      .ok ({ slot with
        statusSdrId := snprintfName text
        statusBit := match child.attr "status_bit" with
          | none => 0xff
          | some text => number 32 text }, p)
  | none =>
      match child.children with
      | [] => .ok (slot, p)
      | node :: _ => populateOemStatus dirty base node slot p

/-- An OEM command for the type or for the air flow of a power supply. -/
def populateOemChild (slot : DevResourceInfo) (node : ConfigNode) : Except Crash DevResourceInfo :=
  match node.name with
  | none => .ok slot
  | some name => do
      assert (name = "oem_psu_type".toList ∨ name = "oem_airflow".toList)
      let oemCmd ← populateOemCmdInfo node OemCmdInfo.zeroed
      .ok (if name = "oem_psu_type".toList then { slot with psuTypeOemCmd := some oemCmd }
        else { slot with airFlowOemCmd := some oemCmd })

def populateEeprom (child : ChildNode) (slot : DevResourceInfo) : Except Crash DevResourceInfo := do
  let fanCount ← child.required "no_of_fans"
  let maxFanSpeed ← child.required "max_fan_speed"
  let slot := { slot with
    resourceType := .entityInfo
    fanCount := number 32 fanCount
    maxFanSpeed := number 32 maxFanSpeed
    intUseElmOffset := hexAttr child.toConfigNode "int_use_elm_offset" invalidOffset
    airflowOffset := hexAttr child.toConfigNode "airflow_offset" invalidOffset
    psuTypeOffset := hexAttr child.toConfigNode "psu_type_offset" invalidOffset
    hdrSzOffset := hexAttr child.toConfigNode "hdr_sz_offset" 0
    isDummy := decide (hexAttr child.toConfigNode "entity_info_dummy" (0 : BitVec 32) = 1) }
  child.children.foldlM populateOemChild slot

/-- The part of a child's slot that is filled in whatever its name is. -/
def populateCommon (child : ChildNode) (slot : DevResourceInfo) : Except Crash DevResourceInfo := do
  let inst ← child.required "instance"
  let aliasName ← child.required "alias"
  let dataSdrId ← child.required "data_sdr_id"
  .ok { slot with
    inst := number 32 inst
    aliasName := snprintfName aliasName
    dataSdrId := snprintfName dataSdrId }

/-- The resource types that a child may stand for, by its name. -/
def childType (name : List Char) : Option ResourceType :=
  if name = "bmc_fan".toList then some .fan
  else if name = "bmc_temp".toList then some .temperature
  else if name = "bmc_eeprom".toList then some .entityInfo
  else none

def populateType (child : ChildNode) (type : ResourceType) (slot : DevResourceInfo) (p : Populated) :
    Except Crash (DevResourceInfo × Populated) :=
  match type with
  | .fan => populateFan dirty base child slot p
  | .entityInfo => do
      let slot ← populateEeprom child slot
      .ok (slot, p)
  | type => .ok ({ slot with resourceType := type }, p)

/-- A child without a name, or with another name, leaves the fill index where it is. -/
def populateChild (p : Populated) (child : ChildNode) : Except Crash Populated :=
  match child.name with
  | none => .ok p
  | some name =>
      match p.data[p.count]? with
      | none => .error (.access (.store p.count))
      | some slot => do
          let slot ← populateCommon child slot
          match childType name with
          | none => .ok { p with data := p.data.set p.count slot }
          | some type => do
              let (slot, p) ← populateType dirty base child type slot p
              .ok { p with data := p.data.set p.count slot, count := p.count + 1 }

/-- `sdi_bmc_populate_dev_list`. Without children there is no list. -/
def populateDevList (children : List ChildNode) : Except Crash (Option Populated) :=
  if children = [] then .ok none
  else do
    let p ← children.foldlM (populateChild dirty base) ⟨List.replicate children.length .zeroed, 0, [], []⟩
    .ok (some p)

end

/-! ### The resources -/

structure Resource where
  type : ResourceType
  name : List Char
  deriving DecidableEq

/-- The database of sensors, and the resources in the order in which they have been added. -/
structure Registry where
  db : SensorDb
  resources : List Resource

namespace Registry

def resourceAdd (r : Registry) (type : ResourceType) (name : List Char) : Registry :=
  { r with resources := r.resources ++ [⟨type, name.take (maxNameLen - 1)⟩] }

def sensorAddr (r : Registry) (name : List Char) : Option Nat :=
  (dbSensorGetByName r.db.sensorMap.values name).map (·.addr)

def bmcFanResRegister (r : Registry) (res : DevResourceInfo) : DevResourceInfo × Registry :=
  ({ res with dataSdr := r.sensorAddr res.dataSdrId, statusSdr := r.sensorAddr res.statusSdrId },
    r.resourceAdd res.resourceType res.aliasName)

def bmcTmpResRegister (r : Registry) (res : DevResourceInfo) : DevResourceInfo × Registry :=
  ({ res with dataSdr := r.sensorAddr res.dataSdrId }, r.resourceAdd res.resourceType res.aliasName)

-- `IPMI_MAX_NAME_LEN`
variable (nameLen : Nat)

/-- The record is added if it is not there; if that fails, there is no resource. -/
def bmcEntityInfoResRegister (r : Registry) (res : DevResourceInfo) : DevResourceInfo × Registry :=
  match r.sensorAddr res.dataSdrId with
  | some addr => ({ res with dataSdr := some addr }, r.resourceAdd res.resourceType res.aliasName)
  | none =>
      match dbSensorAddByName nameLen r.db true res.dataSdrId with
      | (none, db) => ({ res with dataSdr := none }, { r with db })
      | (some sensor, db) =>
          ({ res with dataSdr := some sensor.addr }, { r with db }.resourceAdd res.resourceType res.aliasName)

def resRegister (r : Registry) (res : DevResourceInfo) : DevResourceInfo × Registry :=
  match res.resourceType with
  | .fan => r.bmcFanResRegister res
  | .temperature => r.bmcTmpResRegister res
  | .entityInfo => bmcEntityInfoResRegister nameLen r res
  | _ => (res, r)

def registerSlots : Registry → DevList → DevList × Registry
  | r, [] => ([], r)
  | r, res :: data =>
      let (res, r) := resRegister nameLen r res
      let (data, r) := registerSlots r data
      (res :: data, r)

/-- `sdi_bmc_dev_res_register`. -/
def bmcDevResRegister (r : Registry) (devList : Option DevList) : Except Crash (DevList × Registry) :=
  match devList with
  | none => .error .null
  | some data => .ok (registerSlots nameLen r data)

end Registry

end OpxSdi.Bmc
