import Mathlib.Data.Char
import Mathlib.Data.List.Lex
import OpxSdi.Common.StdError
import OpxSdi.Lib.Run
import OpxSdi.Lib.SortedMap

/-!
# Sensor records of the BMC database

The records are found by name in the order in which the database keeps them.
-/

namespace OpxSdi.Bmc

open Lib

/-- `sdi_sdr_rd_type_t`; a fresh record has the value 0, which is none of its members. -/
inductive SdrRdType
  | unset | threshold | discrete | entityInfo | oemDiscrete
  deriving DecidableEq, Repr

/-- `sdi_bmc_sensor_t`, with a number in place of its address. -/
structure BmcSensor where
  addr : Nat
  entityId : BitVec 32
  entityInstance : BitVec 32
  name : List Char
  readingType : SdrRdType
  discreteState : BitVec 32
  deriving DecidableEq

/-- `sdi_bmc_db_sensor_get_by_name` on the records of the database, in the order of their keys. -/
def dbSensorGetByName (sensors : List BmcSensor) (name : List Char) : Option BmcSensor :=
  sensors.find? (·.name = name)

/-- `sdi_bmc_dc_sensor_reading_get_by_name`: the return code, or the reading when it is `STD_ERR_OK`. -/
def dcSensorReadingGetByName (sensors : List BmcSensor) (sensorId : List Char) :
    Except Errno (BitVec 32) :=
  match dbSensorGetByName sensors sensorId with
  | none => .error .einval
  | some sensor =>
      if sensor.readingType ≠ .discrete then .error .enotsup
      else .ok sensor.discreteState

/-! ## The sensor database (`sdi_bmc_db.cpp`)

The records are kept in one map under text keys, which are made from an entity and a name or from a name
alone. Only the members of a record that the database itself sets are looked at here.
-/

/-! ### Keys -/

def dbKeyLen : Nat := 129

/-- What `snprintf` leaves of a text in a key. -/
def snprintfKey (text : List Char) : List Char := text.take (dbKeyLen - 1)

/-- `%u`. -/
def decimal (x : BitVec 32) : List Char := Nat.toDigits 10 x.toNat

def strchr (text : List Char) (c : Char) : Option (List Char) :=
  match text with
  | [] => none
  | d :: ds => if d = c then some (d :: ds) else strchr ds c

def sensorKey (id inst : BitVec 32) (name : List Char) : List Char :=
  snprintfKey ("sensor.".toList ++ decimal id ++ '.' :: (decimal inst ++ '.' :: name))

def sensorKeyByName (name : List Char) : List Char :=
  match strchr name '.' with
  | some subKey => snprintfKey ("sensor".toList ++ subKey ++ '.' :: name)
  | none => snprintfKey ("sensor.".toList ++ name)

/-! ### The map -/

abbrev SensorMap := SortedMap (List Char) BmcSensor

/-- `sdi_data_insert`: whether there was no record, and the map. -/
def dataInsert (map : SensorMap) (key : List Char) (sensor : BmcSensor) : Bool × SensorMap :=
  match map.find? key with
  | some _ => (false, map)
  | none => (true, map.insert key sensor)

def dataRemove (map : SensorMap) (key : List Char) : Option BmcSensor × SensorMap :=
  match map.find? key with
  | some sensor => (some sensor, map.erase key)
  | none => (none, map)

def dataGet (map : SensorMap) (key : List Char) : Option BmcSensor := map.find? key

/-! ### The database -/

/-- `sensor_map`, and the address that the next allocation gives. -/
structure SensorDb where
  sensorMap : SensorMap
  nextAddr : Nat

def SensorDb.empty : SensorDb := ⟨.empty, 0⟩

def BmcSensor.cleared (addr : Nat) : BmcSensor := ⟨addr, 0, 0, [], .unset, 0⟩

/-- Both functions that add a sensor, which differ in the key and in what they put into a new record.
`calloc` tells whether there is memory for one. -/
def addUnder (db : SensorDb) (calloc : Bool) (key : List Char) (init : BmcSensor → BmcSensor) :
    Option BmcSensor × SensorDb :=
  match dataGet db.sensorMap key with
  | some sensor => (some sensor, db)
  | none =>
      if calloc then
        let sensor := init (.cleared db.nextAddr)
        match dataInsert db.sensorMap key sensor with
        | (true, sensorMap) => (some sensor, ⟨sensorMap, db.nextAddr + 1⟩)
        | (false, _) => (none, db)
      else
        (none, db)

section

-- `IPMI_MAX_NAME_LEN`, which the headers of the IPMI library define.
variable (nameLen : Nat)

def safestrncpy (name : List Char) : List Char := name.take (nameLen - 1)

def BmcSensor.setName (name : List Char) (sensor : BmcSensor) : BmcSensor :=
  { sensor with name := safestrncpy nameLen name }

def BmcSensor.setTriple (id inst : BitVec 32) (name : List Char) (sensor : BmcSensor) : BmcSensor :=
  { sensor with entityId := id, entityInstance := inst, name := safestrncpy nameLen name }

def dbSensorAdd (db : SensorDb) (calloc : Bool) (id inst : BitVec 32) (name : List Char) :
    Option BmcSensor × SensorDb :=
  addUnder db calloc (sensorKey id inst name) (.setTriple nameLen id inst name)

def dbSensorAddByName (db : SensorDb) (calloc : Bool) (name : List Char) : Option BmcSensor × SensorDb :=
  addUnder db calloc (sensorKeyByName name) (.setName nameLen name)

end

def dbSensorGet (db : SensorDb) (id inst : BitVec 32) (name : List Char) : Option BmcSensor :=
  dataGet db.sensorMap (sensorKey id inst name)

def dbSensorRemove (db : SensorDb) (id inst : BitVec 32) (name : List Char) : SensorDb :=
  { db with sensorMap := (dataRemove db.sensorMap (sensorKey id inst name)).2 }

/-- The sensors that `sdi_bmc_db_for_each_sensor` calls its method for. -/
def dbForEachSensor (db : SensorDb) (id inst : BitVec 32) : List BmcSensor :=
  db.sensorMap.values.filter fun sensor => sensor.entityId = id ∧ sensor.entityInstance = inst

def dbSensorCleanup (db : SensorDb) : SensorDb := { db with sensorMap := .empty }

/-! ### Runs -/

/-- A name that fits into a record with its terminator. -/
structure SensorName where
  text : List Char
  short : text.length < 64

inductive SensorOp
  | add (calloc : Bool) (id inst : BitVec 32) (name : SensorName)
  | addByName (calloc : Bool) (name : SensorName)
  | remove (id inst : BitVec 32) (name : SensorName)
  | cleanup

def SensorDb.step (nameLen : Nat) (db : SensorDb) : SensorOp → SensorDb
  | .add calloc id inst name => (dbSensorAdd nameLen db calloc id inst name.text).2
  | .addByName calloc name => (dbSensorAddByName nameLen db calloc name.text).2
  | .remove id inst name => dbSensorRemove db id inst name.text
  | .cleanup => dbSensorCleanup db

def SensorDb.after (nameLen : Nat) (ops : List SensorOp) : SensorDb := run (step nameLen) empty ops

example : sensorKey 10 1 "Entity_info.10.1".toList = sensorKeyByName "Entity_info.10.1".toList := by decide

end OpxSdi.Bmc
