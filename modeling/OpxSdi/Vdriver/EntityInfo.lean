import OpxSdi.Common.Config
import OpxSdi.Common.EntityInfo
import OpxSdi.Common.StdError
import OpxSdi.Lib.CharArray

/-!
# Entity info without an EEPROM (`sdi_entity_info_vdriver.c`)

The power type and the air flow of an entity may depend on the part number of the system. A table has them for
every part number; it is made from the children of a configuration node, in an array of a size that is configured.
-/

namespace OpxSdi.Vdriver

open Lib

/-! ## The table -/

/-- `sdi_partnum_psu_af_map_t`. The part number is the text in its array. -/
structure MapEntry where
  airflowDir : BitVec 32
  psuAcType : Bool
  psuDcType : Bool
  partno : List Byte
  deriving DecidableEq

/-- An entry of an array that has been cleared -/
def MapEntry.zero : MapEntry := ⟨0, false, false, []⟩

/-- The size of `partno` -/
def partnoSize : Nat := partNumLen - 1

/-- A child of a node, which has a name. -/
structure Child extends ConfigNode where
  named : name.isSome

namespace Child

variable (child : Child)

def isMapping : Bool := child.name = some "part_no_mapping".toList

/-- A store to `mapping_info_db[iter]`, if the attribute is there -/
def storeAttr (key : String) (set : List Char → MapEntry → MapEntry) (iter : Nat) (db : List MapEntry) :
    Checked (List MapEntry) :=
  match child.attr key with
  | none => .ok db
  | some text => if iter < db.length then .ok (db.modify iter (set text)) else .error (.store iter)

/-- The part of the loop that stores a child -/
def store (iter : Nat) (db : List MapEntry) : Checked (List MapEntry) := do
  let db ← child.storeAttr "airflow_val" (fun text entry => { entry with airflowDir := number 32 text }) iter db
  let db ← child.storeAttr "ac_type"
    (fun text entry => { entry with psuAcType := strtoul (textBytes text) ≠ 0 }) iter db
  let db ← child.storeAttr "dc_type"
    (fun text entry => { entry with psuDcType := strtoul (textBytes text) ≠ 0 }) iter db
  child.storeAttr "part_no"
    (fun text entry => { entry with partno := (cstr (textBytes text)).take (partnoSize - 1) }) iter db

end Child

def fill : List Child → (iter : Nat) → List MapEntry → Checked (List MapEntry)
  | [], _, db => .ok db
  | child :: children, iter, db =>
      if child.isMapping then do
        let db ← child.store iter db
        fill children (iter + 1) db
      else fill children iter db

/-- `max_part_num_type`, which stays as it was for the table before if the node does not say -/
def maxPartNumType (before : List MapEntry) (node : ConfigNode) : Nat :=
  match node.attr "max_part_no_types" with
  | none => before.length
  | some text => (number 32 text).toNat

/-- The array that is allocated, with the children of the node -/
def partNumberMappingInfoGet (before : List MapEntry) (node : ConfigNode) (children : List Child) :
    Checked (List MapEntry) :=
  fill children 0 (List.replicate (maxPartNumType before node) .zero)

/-! ## Reading the entity info -/

inductive InfoText
  | prodName | ppid | hwRevision | platformName | vendorName | serviceTag | partNumber
  deriving DecidableEq

/-- The members of `sdi_entity_info_t` that are written -/
structure VirtualInfo where
  text : InfoText → List Byte
  maxSpeed : BitVec 32
  numFans : BitVec 32
  airFlow : BitVec 32
  powerType : PowerType

/-- A bus, with what comes of reading it -/
abbrev ReadBus := Except Errno (BitVec 32)

/-- `entity_info_data_t` -/
structure EntityInfoData where
  noOfFans : BitVec 32
  maxFanSpeed : BitVec 32
  airflowDirHdl : Option ReadBus
  psuTypeHdl : Option ReadBus
  normalAirflowVal : BitVec 32
  reverseAirflowVal : BitVec 32
  acPowerVal : BitVec 32
  dcPowerVal : BitVec 32
  partNumBasedEnt : Bool

def airFlowNormal : BitVec 32 := 0
def airFlowReverse : BitVec 32 := 1
def airFlowNotApplicable : BitVec 32 := 3

/-- `sdi_sys_part_number_get` -/
def sysPartNumberGet (systemPartNumber : CharArray partNumLen) : List Byte :=
  systemPartNumber.str.take (partNumLen - 1)

/-- The first entry of the part number -/
def takePartNumber (db : List MapEntry) (sysPartNo : List Byte) (info : VirtualInfo) : VirtualInfo :=
  match (db.findIdx? fun entry => entry.partno = sysPartNo).bind fun iter => db[iter]? with
  | none => info
  | some entry =>
      { info with airFlow := entry.airflowDir, powerType := ⟨entry.psuAcType, entry.psuDcType⟩ }

/-- The end of the call. `result` is whether every value that was read is known. -/
def markNotApplicable (result : Bool) (info : VirtualInfo) : TStdError × VirtualInfo :=
  (if result then .ok else .errno,
    { info with text := fun t => if t = .serviceTag then info.text t else bytesOf "NA" })

def readPsuType (data : EntityInfoData) (result : Bool) (info : VirtualInfo) : TStdError × VirtualInfo :=
  match data.psuTypeHdl with
  | none => markNotApplicable result info
  | some (.error e) => (.errcode e, info)
  | some (.ok value) =>
      if data.acPowerVal = value then
        markNotApplicable result { info with powerType := { info.powerType with acPower := true } }
      else if data.dcPowerVal = value then
        markNotApplicable result { info with powerType := { info.powerType with dcPower := true } }
      else markNotApplicable false info

/-- The part of the call behind the part number -/
def readBuses (data : EntityInfoData) (info : VirtualInfo) : TStdError × VirtualInfo :=
  match data.airflowDirHdl with
  | none => readPsuType data true info
  | some (.error e) => (.errcode e, info)
  | some (.ok value) =>
      if data.normalAirflowVal = value then readPsuType data true { info with airFlow := airFlowNormal }
      else if data.reverseAirflowVal = value then readPsuType data true { info with airFlow := airFlowReverse }
      else readPsuType data false info

def startInfo (data : EntityInfoData) (info : VirtualInfo) : VirtualInfo :=
  { info with maxSpeed := data.maxFanSpeed, numFans := data.noOfFans, airFlow := airFlowNotApplicable }

def entityInfoDataGet (data : EntityInfoData) (db : List MapEntry) (systemPartNumber : CharArray partNumLen)
    (info : VirtualInfo) : TStdError × VirtualInfo :=
  let info := startInfo data info
  readBuses data (if data.partNumBasedEnt then takePartNumber db (sysPartNumberGet systemPartNumber) info else info)

/-! ## What the table is for -/

namespace Child

variable (child : Child)

def partNumber : Option (List Byte) := (child.attr "part_no").map fun text => cstr (textBytes text)

def airFlow : BitVec 32 := ((child.attr "airflow_val").map (number 32)).getD 0

def powerType : PowerType where
  acPower := ((child.attr "ac_type").map fun text => decide (strtoul (textBytes text) ≠ 0)).getD false
  dcPower := ((child.attr "dc_type").map fun text => decide (strtoul (textBytes text) ≠ 0)).getD false

/-- Nothing is stored for the child. -/
def Bare : Prop := ∀ key ∈ ["airflow_val", "ac_type", "dc_type", "part_no"], child.attr key = none

end Child

def mappings (children : List Child) : List Child := children.filter Child.isMapping

/-- The first mapping of the part number -/
def firstMapping (children : List Child) (partNo : List Byte) : Option Nat :=
  (mappings children).findIdx? fun child => child.partNumber = some partNo

/-- No store leaves the array. The search for a part number that is mapped stops at its first mapping, and the call
goes on with the air flow and the power type of it. -/
def Tabulated (before : List MapEntry) (node : ConfigNode) (children : List Child)
    (systemPartNumber : CharArray partNumLen) : Prop :=
  ∃ db, partNumberMappingInfoGet before node children = .ok db ∧
    ∀ j child, firstMapping children systemPartNumber.str = some j → (mappings children)[j]? = some child →
      db.findIdx? (fun entry => entry.partno = sysPartNumberGet systemPartNumber) = some j ∧
      ∀ data info, data.partNumBasedEnt = true → entityInfoDataGet data db systemPartNumber info =
        readBuses data { startInfo data info with airFlow := child.airFlow, powerType := child.powerType }

/-- There is room for every mapping for which something is stored. -/
def Fits (before : List MapEntry) (node : ConfigNode) (children : List Child) : Prop :=
  ∀ k child, (mappings children)[k]? = some child → k < maxPartNumType before node ∨ child.Bare

/-- A part number that is mapped has a NUL in its array, and is not what an earlier mapping is cut to. -/
def Distinguished (children : List Child) (partNo : List Byte) : Prop :=
  ∀ j, firstMapping children partNo = some j → partNo.length < partnoSize ∧
    ∀ k < j, ∀ child, (mappings children)[k]? = some child →
      ((child.partNumber).getD []).take (partnoSize - 1) ≠ partNo

end OpxSdi.Vdriver
