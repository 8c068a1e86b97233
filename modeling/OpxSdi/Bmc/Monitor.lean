import OpxSdi.Bmc.Config
import OpxSdi.Entity.Presence

/-!
# Readings of BMC sensors (`sdi_bmc.c`, `sdi_bmc_bus_api.c`, `sdi_bmc_tmp.c`, `sdi_bmc_fan.c`)

The BMC reports its sensors and their readings, which are kept in the records of the database. Temperatures
and fans are read from the record that has the name of their sensor, and keep its address.
-/

namespace OpxSdi.Bmc

open Lib

/-- A sensor as the BMC reports it -/
structure IpmiSensor where
  entityId : BitVec 32
  entityInstance : BitVec 32
  sensorId : SensorName

/-- `double`, with the value of a cleared record and the conversions from it. -/
structure Double (V : Type) where
  zero : V
  toInt : V → BitVec 32
  toUint : V → BitVec 32

/-- `reading_type` and `res.reading` of a record. -/
structure Reading (V : Type) where
  readingType : SdrRdType
  data : V
  rawData : BitVec 32
  discreteState : BitVec 32

/-- The values that come with a report, by its `ipmi_value_present_e`. -/
inductive ValuePresent (V : Type)
  | no
  | both (rawValue : BitVec 32) (value : V)
  | raw (rawValue : BitVec 32)

/-- What OpenIPMI tells of a sensor's states: `ipmi_sensor_discrete_event_readable`
and `ipmi_is_state_set`. -/
structure IpmiStates where
  readable : Nat → Option Bool
  isSet : Nat → Bool

/-- The database with the readings of its records by their addresses, and the resources of the device list. -/
structure Monitor (R V : Type) where
  registry : Registry
  reading : Nat → Reading V
  res : R → DevResourceInfo

/-- What a call gives. -/
inductive Answer (V : Type)
  | error (e : Errno)
  | temperature (t : BitVec 32)
  | speed (s : BitVec 32)
  | status (b : Bool)
  | discrete (state : BitVec 32)
  | threshold (value : V)

/-! ## Reports of the BMC -/

/-- What `sdi_bmc_sensor_create` sets in a record that `calloc` has cleared. -/
def Reading.create {V : Type} (double : Double V) (isThreshold : Bool) : Reading V :=
  if isThreshold then ⟨.threshold, double.zero, 0, 0⟩ else ⟨.discrete, double.zero, 0, 0xff⟩

/-- `sdi_bmc_sensor_reading_handler` and `sdi_bmc_sensor_threshold_event_handler` on a record. -/
def ValuePresent.store {V : Type} : ValuePresent V → Reading V → Reading V
  | no, reading => reading
  | both rawValue value, reading => { reading with data := value, rawData := rawValue }
  | raw rawValue, reading => { reading with rawData := rawValue }

/-- The loop of `sdi_bmc_sensor_discrete_states`. -/
def IpmiStates.discreteState (states : IpmiStates) : Nat → BitVec 32
  | 0 => 0
  | bit + 1 =>
      if states.readable bit = some true ∧ states.isSet bit then states.discreteState bit |||
      BitVec.twoPow 32 bit
      else states.discreteState bit

def IpmiStates.store {V : Type} (states : IpmiStates) (reading : Reading V) : Reading V :=
  { reading with discreteState := states.discreteState 32 }

/-- Whether a status reading tells of a fault. -/
def DevResourceInfo.fault (res : DevResourceInfo) (reading : BitVec 32) : Bool :=
  if res.statusBit = Entity.bmcInvalidBit then reading ≠ 0 else Entity.stdBitTest reading res.statusBit

namespace Monitor

variable {R V : Type} [DecidableEq R]

def sensorGet (m : Monitor R V) (sensor : IpmiSensor) : Option BmcSensor :=
  dbSensorGet m.registry.db sensor.entityId sensor.entityInstance sensor.sensorId.text

def setDb (m : Monitor R V) (db : SensorDb) : Monitor R V := { m with registry.db := db }

def setReading (m : Monitor R V) (addr : Nat) (reading : Reading V) : Monitor R V :=
  { m with reading := Function.update m.reading addr reading }

def setRes (m : Monitor R V) (r : R) (res : DevResourceInfo) : Monitor R V :=
  { m with res := Function.update m.res r res }

/-- The parts of `sdi_bmc_sensor_create` that make a record. -/
def sensorCreate (nameLen : Nat) (double : Double V) (m : Monitor R V) (calloc isThreshold : Bool)
    (sensor : IpmiSensor) : Monitor R V :=
  match m.sensorGet sensor with
  | some _ => m
  | none =>
      match dbSensorAdd nameLen m.registry.db calloc sensor.entityId sensor.entityInstance
        sensor.sensorId.text with
      | (none, db) => m.setDb db
      | (some srp, db) => (m.setDb db).setReading srp.addr (.create double isThreshold)

/-- What the handlers of reports share: a record that is not found is not changed. -/
def store (m : Monitor R V) (sensor : IpmiSensor) (f : Reading V → Reading V) : Monitor R V :=
  match m.sensorGet sensor with
  | none => m
  | some sen => m.setReading sen.addr (f (m.reading sen.addr))

def sensorReadingHandler (m : Monitor R V) (sensor : IpmiSensor) (value : ValuePresent V) : Monitor R V :=
  m.store sensor value.store

def sensorThresholdEventHandler (m : Monitor R V) (sensor : IpmiSensor) (value : ValuePresent V) :
    Monitor R V :=
  m.store sensor value.store

def sensorDiscreteStates (m : Monitor R V) (sensor : IpmiSensor) (states : IpmiStates) : Monitor R V :=
  m.store sensor states.store

/-! ## Calls -/

def resRegister (m : Monitor R V)
    (register : Registry → DevResourceInfo → DevResourceInfo × Registry) (r : R) : Monitor R V :=
  { m.setRes r (register m.registry (m.res r)).1 with registry := (register m.registry (m.res r)).2 }

def fanResRegister (m : Monitor R V) (r : R) : Monitor R V := m.resRegister Registry.bmcFanResRegister r

def tmpResRegister (m : Monitor R V) (r : R) : Monitor R V := m.resRegister Registry.bmcTmpResRegister r

/-- What reading a temperature and a fan's speed share: the record is looked up if its
address is not yet known. -/
def dataGet (m : Monitor R V) (r : R) (convert : V → Answer V) : Answer V × Monitor R V :=
  match (m.res r).dataSdr with
  | some addr => (convert (m.reading addr).data, m)
  | none =>
      match m.registry.sensorAddr (m.res r).dataSdrId with
      | none => (.error .einval, m)
      | some addr => (convert (m.reading addr).data, m.setRes r { m.res r with dataSdr := some addr })

def tmpTemperatureGet (double : Double V) (m : Monitor R V) (r : R) : Answer V × Monitor R V :=
  m.dataGet r fun data => .temperature (double.toInt data)

def fanSpeedGet (double : Double V) (m : Monitor R V) (r : R) : Answer V × Monitor R V :=
  m.dataGet r fun data => .speed (double.toUint data)

def fanStatusGet (m : Monitor R V) (r : R) : Answer V × Monitor R V :=
  if (m.res r).statusSdrId = [] then (.status false, m)
  else
    match (m.res r).statusSdr with
    | some addr => (.status ((m.res r).fault (m.reading addr).discreteState), m)
    | none =>
        match m.registry.sensorAddr (m.res r).statusSdrId with
        | none => (.status false, m)
        | some addr =>
            (.status ((m.res r).fault (m.reading addr).discreteState),
              m.setRes r { m.res r with statusSdr := some addr })

/-- The records of the database with their readings. -/
def sensors (m : Monitor R V) : List BmcSensor :=
  m.registry.db.sensorMap.values.map fun sensor => { sensor with
    readingType := (m.reading sensor.addr).readingType
    discreteState := (m.reading sensor.addr).discreteState }

def dcReadingGetByName (m : Monitor R V) (sensorId : List Char) : Answer V :=
  match dcSensorReadingGetByName m.sensors sensorId with
  | .error e => .error e
  | .ok data => .discrete data

def thSensorReadingGetByName (m : Monitor R V) (sensorId : List Char) : Answer V :=
  match dbSensorGetByName m.sensors sensorId with
  | none => .error .einval
  | some sensor =>
      if sensor.readingType ≠ .threshold then .error .enotsup
      else .threshold (m.reading sensor.addr).data

end Monitor

/-! ## Runs -/

/-- What the BMC reports, and what the framework asks for. -/
inductive MonitorEvent (R V : Type)
  | create (calloc isThreshold : Bool) (sensor : IpmiSensor)
  | reading (sensor : IpmiSensor) (value : ValuePresent V)
  | thresholdEvent (sensor : IpmiSensor) (value : ValuePresent V)
  | states (sensor : IpmiSensor) (states : IpmiStates)
  | registerFan (r : R)
  | registerTmp (r : R)
  | temperatureGet (r : R)
  | fanSpeedGet (r : R)
  | fanStatusGet (r : R)
  | dcReading (sensorId : List Char)
  | thReading (sensorId : List Char)

/-- The sensor that an event reports. -/
def MonitorEvent.sensor {R V : Type} : MonitorEvent R V → Option IpmiSensor
  | create _ _ sensor | reading sensor _ | thresholdEvent sensor _ | states sensor _ => some sensor
  | _ => none

section

variable {R V : Type} [DecidableEq R]

def Monitor.handle (nameLen : Nat) (double : Double V) (m : Monitor R V) :
    MonitorEvent R V → Option (Answer V) × Monitor R V
  | .create calloc isThreshold sensor => (none, m.sensorCreate nameLen double calloc isThreshold sensor)
  | .reading sensor value => (none, m.sensorReadingHandler sensor value)
  | .thresholdEvent sensor value => (none, m.sensorThresholdEventHandler sensor value)
  | .states sensor states => (none, m.sensorDiscreteStates sensor states)
  | .registerFan r => (none, m.fanResRegister r)
  | .registerTmp r => (none, m.tmpResRegister r)
  | .temperatureGet r => (m.tmpTemperatureGet double r).map some id
  | .fanSpeedGet r => (m.fanSpeedGet double r).map some id
  | .fanStatusGet r => (m.fanStatusGet r).map some id
  | .dcReading sensorId => (some (m.dcReadingGetByName sensorId), m)
  | .thReading sensorId => (some (m.thSensorReadingGetByName sensorId), m)

/-- Before the BMC has reported anything. -/
def Monitor.start (double : Double V) (res : R → DevResourceInfo) : Monitor R V :=
  ⟨⟨.empty, []⟩, fun _ => ⟨.unset, double.zero, 0, 0⟩, res⟩

end

/-! ## The board

What the sensors of a name read, for boards that name each sensor differently.
-/

/-- The readings of the sensors that have been reported, by name. -/
abbrev Board (V : Type) := List Char → Option (Reading V)

namespace Board

variable {R V : Type}

def store (b : Board V) (sensor : IpmiSensor) (f : Reading V → Reading V) : Board V :=
  Function.update b sensor.sensorId.text ((b sensor.sensorId.text).map f)

def create (double : Double V) (b : Board V) (calloc isThreshold : Bool) (sensor : IpmiSensor) : Board V :=
  if b sensor.sensorId.text = none ∧ calloc then
    Function.update b sensor.sensorId.text (some (.create double isThreshold))
  else b

/-- Bit `i` is on iff it is readable and set. -/
def discreteState (states : IpmiStates) : BitVec 32 :=
  (BitVec.ofBoolListLE ((List.range 32).map fun i => states.readable i = some true ∧
    states.isSet i)).setWidth 32

def handle (double : Double V) (res : R → DevResourceInfo) (b : Board V) :
    MonitorEvent R V → Option (Answer V) × Board V
  | .create calloc isThreshold sensor => (none, b.create double calloc isThreshold sensor)
  | .reading sensor value => (none, b.store sensor value.store)
  | .thresholdEvent sensor value => (none, b.store sensor value.store)
  | .states sensor states =>
      (none, b.store sensor fun reading => { reading with discreteState := discreteState states })
  | .registerFan _ => (none, b)
  | .registerTmp _ => (none, b)
  | .temperatureGet r =>
      (some ((b (res r).dataSdrId).elim (.error .einval) fun reading =>
        .temperature (double.toInt reading.data)), b)
  | .fanSpeedGet r =>
      (some ((b (res r).dataSdrId).elim (.error .einval) fun reading =>
        .speed (double.toUint reading.data)), b)
  | .fanStatusGet r =>
      (some (if (res r).statusSdrId = [] then .status false
        else (b (res r).statusSdrId).elim (.status false) fun reading =>
          .status ((res r).fault reading.discreteState)), b)
  | .dcReading sensorId =>
      (some ((b sensorId).elim (.error .einval) fun reading =>
        if reading.readingType ≠ .discrete then .error .enotsup else .discrete reading.discreteState), b)
  | .thReading sensorId =>
      (some ((b sensorId).elim (.error .einval) fun reading =>
        if reading.readingType ≠ .threshold then .error .enotsup else .threshold reading.data), b)

end Board

end OpxSdi.Bmc
