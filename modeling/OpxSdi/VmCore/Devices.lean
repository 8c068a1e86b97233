import OpxSdi.Lib.Calls
import OpxSdi.Thermal.Sensors
import OpxSdi.Vmdb.BinField

/-!
# The VM devices (`sdi_vm_fan.c`, `sdi_vm_thermal.c`, `sdi_vm_entity.c`)

Their numbers are in the database (`sdi_db_ops.c`). A query gives the SQL library the texts of a table, a column and
a condition, none of which is cut off in its buffer (`texts_fit`, `resourceConditions_fit`). It is made under the
semaphore, so the calls of several threads interleave at their queries. A setting has a target column beside its
regular one.
-/

namespace OpxSdi.VmCore

open Lib Sql Vmdb
open Thermal (Threshold)

/-! ## The SQL library -/

/-- `SELECT column FROM table WHERE condition`, or the place that an `UPDATE` sets -/
structure Query where
  table : List Byte
  column : List Byte
  condition : List Byte
  deriving DecidableEq

/-- What `db_sql_get_attribute` and `db_sql_set_attribute` do with their texts. -/
structure VmLibrary (Db : Type) where
  getAttribute : Query → Db → Except TStdError (List Byte)
  setAttribute : Query → (value : List Byte) → Db → Except TStdError Unit × Db

/-! ## Columns -/

inductive IntField
  | entityReset | entityPower | maxSpeed | presence | faultStatus
  | speed | alertOn
  | temperature | thresholdLow | thresholdHigh | thresholdCritical
  deriving DecidableEq, Repr

namespace IntField

def table : IntField → String
  | entityReset | entityPower | maxSpeed | presence | faultStatus => "Entity_Info"
  | speed | alertOn => "Fan"
  | temperature | thresholdLow | thresholdHigh | thresholdCritical => "Thermal"

def name : IntField → String
  | entityReset => "Entity_Reset"
  | entityPower => "Entity_Power"
  | maxSpeed => "Max_Speed"
  | presence => "Presence"
  | faultStatus => "Fault_Status"
  | speed => "Speed"
  | alertOn => "Alert_On"
  | temperature => "Temp_C"
  | thresholdLow => "Threshold_Low"
  | thresholdHigh => "Threshold_High"
  | thresholdCritical => "Threshold_Critical"

end IntField

structure Column where
  field : IntField
  target : Bool
  deriving DecidableEq, Repr

namespace Column

def regular (f : IntField) : Column := ⟨f, false⟩

def toTarget (f : IntField) : Column := ⟨f, true⟩

/-- A target column has the `TARGET_PREFIX`. -/
def name (c : Column) : List Byte := bytesOf (if c.target then "Target_" else "") ++ bytesOf c.field.name

def query (c : Column) (resHandle : Handle) : Query := ⟨bytesOf c.field.table, c.name, condText resHandle⟩

end Column

def resourceQuery (column : ResourceColumn) (condition : Condition ResourceColumn) : Query :=
  ⟨bytesOf "Entity_Resource", bytesOf column.name, condition.text ResourceColumn.name⟩

/-! ## Queries -/

inductive VmOp
  | getAttribute (q : Query)
  | setAttribute (q : Query) (value : List Byte)

def VmOp.Resp : VmOp → Type
  | .getAttribute _ => Except TStdError (List Byte)
  | .setAttribute _ _ => Except TStdError Unit

namespace VmLibrary

variable {Db : Type} (lib : VmLibrary Db)

def exec : (op : VmOp) → Db → op.Resp × Db
  | .getAttribute q, db => (lib.getAttribute q db, db)
  | .setAttribute q value, db => lib.setAttribute q value db

def port : Port VmOp VmOp.Resp Db Empty := ⟨lib.exec, fun db _ => db⟩

end VmLibrary

abbrev VmProc := Proc VmOp VmOp.Resp Unit TStdError

abbrev VmM := ExceptT TStdError VmProc

def dbSqlGetAttribute (q : Query) : VmM (List Byte) :=
  ExceptT.mk (Proc.bus (.getAttribute q) fun r => .ret (r.bind fun result => result))

def dbSqlSetAttribute (q : Query) (value : List Byte) : VmM Unit :=
  ExceptT.mk (Proc.bus (.setAttribute q value) fun r => .ret (r.bind fun result => result))

def strtolResult (result : List Byte) : VmM (BitVec 32) := ExceptT.mk (.ret (dbStrtol result))

/-! ## Fields -/

def dbIntFieldGet (field : IntField) (resHandle : Handle) : VmM (BitVec 32) := do
  let result ← dbSqlGetAttribute ((Column.regular field).query resHandle)
  strtolResult result

/-- `"%d"` -/
def dbIntFieldSet (c : Column) (resHandle : Handle) (value : BitVec 32) : VmM Unit :=
  dbSqlSetAttribute (c.query resHandle) (decimalInt value.toInt)

/-- `writeRegular` unless `DN_SDI_DB_NO_SYNC` is set (`sdi_db_write_regular_field`). -/
def dbIntFieldTargetSet (writeRegular : Bool) (field : IntField) (resHandle : Handle) (value : BitVec 32) :
    VmM Unit := do
  dbIntFieldSet (.toTarget field) resHandle value
  if writeRegular then dbIntFieldSet (.regular field) resHandle value

/-! ## Handles -/

def dbGetHandle (column : ResourceColumn) (condition : Condition ResourceColumn) : VmM Handle := do
  let result ← dbSqlGetAttribute (resourceQuery column condition)
  let hdl ← strtolResult result
  return toHandle hdl

def dbGetFirstResource (entityHandle : Handle) (resourceType : BitVec 32) : VmM Handle :=
  dbGetHandle .resourceHandle (firstResourceCondition entityHandle resourceType)

def dbResourceGetParentEntity (resourceHandle : Handle) (resourceType : BitVec 32) : VmM Handle :=
  dbGetHandle .entityHandle (parentEntityCondition resourceHandle resourceType)

/-- `SDI_RESOURCE_FAN` -/
def resourceFan : BitVec 32 := 1

/-- `SDI_RESOURCE_ENTITY_INFO` -/
def resourceEntityInfo : BitVec 32 := 4

def dbResourceGetAssociatedInfo (resourceHandle : Handle) (resourceType : BitVec 32) : VmM Handle := do
  let parentEntityHdl ← dbResourceGetParentEntity resourceHandle resourceType
  dbGetFirstResource parentEntityHdl resourceEntityInfo

section

variable (writeRegular : Bool)

/-! ## Fans -/

def fanMaxSpeedGet (fanHdl : Handle) : VmM (BitVec 32) := do
  let infoHdl ← dbResourceGetAssociatedInfo fanHdl resourceFan
  dbIntFieldGet .maxSpeed infoHdl

def fanSpeedGet (fanHdl : Handle) : VmM (BitVec 32) := dbIntFieldGet .speed fanHdl

def fanSpeedSet (fanHdl : Handle) (speed : BitVec 32) : VmM Unit := do
  let maxSpeed ← fanMaxSpeedGet fanHdl
  if maxSpeed < speed then throw (.errcode .einval)
  dbIntFieldTargetSet writeRegular .speed fanHdl speed

def fanStatusGet (fanHdl : Handle) : VmM Bool := do
  let dbValue ← dbIntFieldGet .alertOn fanHdl
  return dbValue ≠ 0

def rpmToPct (maxSpeed rpm : BitVec 32) : BitVec 32 := if maxSpeed = 0 then 100 else 100 * rpm / maxSpeed

def pctToRpm (maxSpeed pct : BitVec 32) : BitVec 32 := if maxSpeed = 0 then maxSpeed else pct * maxSpeed / 100

/-- The code of a query that has failed is returned as the percentage. -/
def fanSpeedRpmToPct (fanHdl : Handle) (rpm : BitVec 32) : VmM (BitVec 32) := do
  let maxSpeed ← fanMaxSpeedGet fanHdl
  return rpmToPct maxSpeed rpm

/-- The code of a query that has failed is returned as the speed. -/
def fanSpeedPctToRpm (fanHdl : Handle) (pct : BitVec 32) : VmM (BitVec 32) := do
  let maxSpeed ← fanMaxSpeedGet fanHdl
  return pctToRpm maxSpeed pct

/-! ## Temperature sensors -/

def thresholdToString : Threshold → IntField
  | .low => .thresholdLow
  | .high => .thresholdHigh
  | .critical => .thresholdCritical

def temperatureGet (sensorHdl : Handle) : VmM (BitVec 32) := dbIntFieldGet .temperature sensorHdl

-- `none` is a type that is not one of the three.
def temperatureThresholdGet (sensorHdl : Handle) : Option Threshold → VmM (BitVec 32)
  | none => throw (.errcode .einval)
  | some type => dbIntFieldGet (thresholdToString type) sensorHdl

def temperatureThresholdSet (sensorHdl : Handle) (type : Option Threshold) (val : BitVec 32) : VmM Unit :=
  match type with
  | none => throw (.errcode .einval)
  | some type => dbIntFieldTargetSet writeRegular (thresholdToString type) sensorHdl val

/-! ## Entities -/

def coldReset : BitVec 32 := 1

def entityReset (hdl : Handle) (type : BitVec 32) : VmM Unit := do
  let infoHdl ← dbGetFirstResource hdl resourceEntityInfo
  dbIntFieldTargetSet writeRegular .entityReset infoHdl type

def entityPowerStatusControl (hdl : Handle) (enable : Bool) : VmM Unit := do
  let infoHdl ← dbGetFirstResource hdl resourceEntityInfo
  dbIntFieldTargetSet writeRegular .entityPower infoHdl (if enable then 1 else 0)

def entityInit (hdl : Handle) : VmM Unit := do
  entityReset writeRegular hdl coldReset
  entityPowerStatusControl writeRegular hdl true

def dbEntityFlagGet (field : IntField) (hdl : Handle) : VmM Bool := do
  let infoHdl ← dbGetFirstResource hdl resourceEntityInfo
  let dbValue ← dbIntFieldGet field infoHdl
  return dbValue ≠ 0

def dbEntityFlagSet (field : IntField) (hdl : Handle) (flag : Bool) : VmM Unit := do
  let infoHdl ← dbGetFirstResource hdl resourceEntityInfo
  dbIntFieldSet (.regular field) infoHdl (if flag then 1 else 0)

def dbEntityPresenceGet : Handle → VmM Bool := dbEntityFlagGet .presence

def dbEntityPresenceSet : Handle → Bool → VmM Unit := dbEntityFlagSet .presence

def dbEntityFaultStatusGet : Handle → VmM Bool := dbEntityFlagGet .faultStatus

def dbEntityFaultStatusSet : Handle → Bool → VmM Unit := dbEntityFlagSet .faultStatus

/-! ## Calls -/

inductive VmCall
  | fanSpeedGet (fanHdl : Handle)
  | fanSpeedSet (fanHdl : Handle) (speed : BitVec 32)
  | fanStatusGet (fanHdl : Handle)
  | fanSpeedRpmToPct (fanHdl : Handle) (rpm : BitVec 32)
  | fanSpeedPctToRpm (fanHdl : Handle) (pct : BitVec 32)
  | temperatureGet (sensorHdl : Handle)
  | temperatureThresholdGet (sensorHdl : Handle) (type : Option Threshold)
  | temperatureThresholdSet (sensorHdl : Handle) (type : Option Threshold) (val : BitVec 32)
  | entityReset (hdl : Handle) (type : BitVec 32)
  | entityPowerStatusControl (hdl : Handle) (enable : Bool)
  | entityInit (hdl : Handle)
  | entityPresenceGet (hdl : Handle)
  | entityPresenceSet (hdl : Handle) (present : Bool)
  | entityFaultStatusGet (hdl : Handle)
  | entityFaultStatusSet (hdl : Handle) (faultStatus : Bool)
  deriving DecidableEq, Repr

inductive VmResult
  | done
  | int (v : BitVec 32)
  | bool (b : Bool)
  deriving DecidableEq, Repr

def vmCall : VmCall → VmM VmResult
  | .fanSpeedGet hdl => .int <$> fanSpeedGet hdl
  | .fanSpeedSet hdl speed => (fun _ => .done) <$> fanSpeedSet writeRegular hdl speed
  | .fanStatusGet hdl => .bool <$> fanStatusGet hdl
  | .fanSpeedRpmToPct hdl rpm => .int <$> fanSpeedRpmToPct hdl rpm
  | .fanSpeedPctToRpm hdl pct => .int <$> fanSpeedPctToRpm hdl pct
  | .temperatureGet hdl => .int <$> temperatureGet hdl
  | .temperatureThresholdGet hdl type => .int <$> temperatureThresholdGet hdl type
  | .temperatureThresholdSet hdl type val => (fun _ => .done) <$> temperatureThresholdSet writeRegular hdl type val
  | .entityReset hdl type => (fun _ => .done) <$> entityReset writeRegular hdl type
  | .entityPowerStatusControl hdl enable => (fun _ => .done) <$> entityPowerStatusControl writeRegular hdl enable
  | .entityInit hdl => (fun _ => .done) <$> entityInit writeRegular hdl
  | .entityPresenceGet hdl => .bool <$> dbEntityPresenceGet hdl
  | .entityPresenceSet hdl present => (fun _ => .done) <$> dbEntityPresenceSet hdl present
  | .entityFaultStatusGet hdl => .bool <$> dbEntityFaultStatusGet hdl
  | .entityFaultStatusSet hdl faultStatus => (fun _ => .done) <$> dbEntityFaultStatusSet hdl faultStatus

abbrev VmCalls (Db : Type) := Calls Nat VmCall VmOp VmOp.Resp Db Unit TStdError (Except TStdError VmResult)

/-- The calls of several threads, with the queries that fail. -/
def runVm {Db : Type} (lib : VmLibrary Db) (db : Db) (events : List (Event Nat VmCall TStdError Empty)) : VmCalls Db :=
  run (Calls.step lib.port fun c => (vmCall writeRegular c).run) (Calls.start db ()) events

end

/-! ## What the queries are for -/

namespace VmLibrary

variable {Db : Type} (lib : VmLibrary Db)

/-- What the query for a column of a resource reads. -/
def read (c : Column) (hdl : Handle) (db : Db) : Except TStdError (List Byte) := lib.getAttribute (c.query hdl) db

/-- The update of a column of a resource to a number. -/
def update (c : Column) (hdl : Handle) (value : BitVec 32) (db : Db) : Except TStdError Unit × Db :=
  lib.setAttribute (c.query hdl) (decimalInt value.toInt) db

/-- The library does with the texts of these queries what SQL says. -/
structure Documented : Prop where
  /-- A statement that fails changes nothing. -/
  failed : ∀ {c hdl value db db' rc}, lib.update c hdl value db = (.error rc, db') → db' = db
  /-- After an update the column has the value in each row of the resource. -/
  updated : ∀ {c hdl value db db'}, lib.update c hdl value db = (.ok (), db') →
    ∀ text, lib.read c hdl db' = .ok text → text = decimalInt value.toInt
  /-- A row is still there after it. -/
  row : ∀ {c hdl value db db'}, lib.update c hdl value db = (.ok (), db') →
    ∀ text, lib.read c hdl db = .ok text → ∃ text', lib.read c hdl db' = .ok text'
  /-- The other columns and the rows of other resources are as before. -/
  others : ∀ {c hdl value db db'}, lib.update c hdl value db = (.ok (), db') → ∀ {c' hdl'},
    (c' = c → uint hdl' ≠ uint hdl) → lib.read c' hdl' db' = lib.read c' hdl' db
  /-- So are the resources. -/
  resources : ∀ {c hdl value db db'}, lib.update c hdl value db = (.ok (), db') → ∀ column condition,
    lib.getAttribute (resourceQuery column condition) db' = lib.getAttribute (resourceQuery column condition) db

variable (db : Db)

def int (c : Column) (hdl : Handle) : Except TStdError (BitVec 32) := (lib.read c hdl db).bind dbStrtol

def handle (column : ResourceColumn) (condition : Condition ResourceColumn) : Except TStdError Handle :=
  ((lib.getAttribute (resourceQuery column condition) db).bind dbStrtol).map toHandle

def associatedInfo (hdl : Handle) (type : BitVec 32) : Except TStdError Handle :=
  (lib.handle db .entityHandle (parentEntityCondition hdl type)).bind fun parent =>
    lib.handle db .resourceHandle (firstResourceCondition parent resourceEntityInfo)

end VmLibrary

/-! ## What the speeds are for -/

namespace VmLibrary

variable {Db : Type} (lib : VmLibrary Db) (db : Db)

def fanMaxSpeed (fanHdl : Handle) : Except TStdError (BitVec 32) :=
  (lib.associatedInfo db fanHdl resourceFan).bind (lib.int db (.regular .maxSpeed))

/-- No speed of a fan, whether reached or set, is above its maximum. -/
def SpeedsBounded : Prop := ∀ fanHdl target maxSpeed speed, lib.fanMaxSpeed db fanHdl = .ok maxSpeed →
  lib.int db ⟨.speed, target⟩ fanHdl = .ok speed → speed ≤ maxSpeed

end VmLibrary

end OpxSdi.VmCore
