import OpxSdi.Bmc.SensorDb
import OpxSdi.Common.EntityInfo

/-!
# Presence of an entity (`sdi_entity.c`)

One call reads a presence source and, for a PSU tray, a power source, and keeps the cached entity info.
What it reads from outside is in `Readings`; `presence` is what the caller's variable holds on entry.
Constants keep their names in `sdi_bmc_internal.h` without the prefix.
-/

namespace OpxSdi.Entity

open Bmc

/-! ## Entities and their readings -/

inductive EntityType
  | systemBoard | fanTray | psuTray
  deriving DecidableEq, Repr

inductive AccessType
  | direct | bmc
  deriving DecidableEq, Repr

inductive PinLevel
  | low | high
  deriving DecidableEq, Repr

/-- The members of `struct sdi_entity` that the configuration sets and presence uses. -/
structure EntityConfig where
  operSupportFlag : BitVec 32
  type : EntityType
  accessType : AccessType
  presAttr : List Char
  presBit : BitVec 32
  powerOutputStatusAttr : List Char
  /-- `power_output_status_pin_hdl != NULL`. -/
  hasPowerOutputStatusPin : Bool

/-- What a call reads: the two pins, the sensor records and the entity info callback. -/
structure Readings where
  presPin : Except Errno PinLevel
  powerOutputStatusPin : Except Errno PinLevel
  sensors : List BmcSensor
  /-- The return code and what the callback leaves in the buffer it is given. -/
  entityInfoDataGet : EntityInfo → TStdError × EntityInfo

structure EntityState where
  present : Bool
  entityInfoValid : Bool
  entityInfo : EntityInfo
  deriving DecidableEq

def EntityState.create : EntityState := ⟨false, false, EntityInfo.zero⟩

def bmcInvalidBit : BitVec 32 := 0xff
def bmcEntityPresent : BitVec 32 := 1
def bmcPsuStatusPrsnt : BitVec 32 := 0
def bmcPsuStatusFailure : BitVec 32 := 1
def bmcPsuStatusInputLost : BitVec 32 := 3

def stdBitTest (value bit : BitVec 32) : Bool := value.getLsbD bit.toNat

def EntityConfig.hotswappable (c : EntityConfig) : Bool := stdBitTest c.operSupportFlag 2

/-! ## `sdi_entity_inserted` and `sdi_entity_removed` -/

/-- What the EEPROM read gives, into a buffer that has been cleared. -/
def Readings.eeprom (r : Readings) : TStdError × EntityInfo := r.entityInfoDataGet EntityInfo.zero

def entityInserted (r : Readings) (s : EntityState) : EntityState :=
  let (rc, info) := r.eeprom
  let s := { s with entityInfo := info }
  if rc = .ok then { s with entityInfoValid := true } else s

def entityRemoved (s : EntityState) : EntityState := { s with entityInfoValid := false }

/-! ## `sdi_entity_presence_get` -/

/-- `*presence` from a BMC reading. No entity but fan and PSU trays has a decoding. -/
def bmcPresence (c : EntityConfig) (reading : BitVec 32) (presence : Bool) : Bool :=
  match c.type with
  | .fanTray =>
      if c.presBit = bmcInvalidBit then reading = bmcEntityPresent
      else stdBitTest reading c.presBit
  | .psuTray => stdBitTest reading bmcPsuStatusPrsnt
  | .systemBoard => presence

/-- The presence reading: `rc` and `*presence`, or an early return. -/
def readPresence (c : EntityConfig) (r : Readings) (presence : Bool) : Except Errno (TStdError × Bool) :=
  if c.hotswappable then
    match c.accessType with
    | .bmc =>
        match dcSensorReadingGetByName r.sensors c.presAttr with
        | .ok reading => .ok (.ok, bmcPresence c reading presence)
        | .error e => .ok (.errcode e, presence)
    | .direct => r.presPin.map fun level => (.ok, level = .high)
  else
    .ok (.ok, true)

/-- The power reading of a PSU tray: `rc` and `power_good`. -/
def readPower (c : EntityConfig) (r : Readings) (rc : TStdError) : TStdError × Bool :=
  if c.type = .psuTray then
    if c.hasPowerOutputStatusPin then
      match r.powerOutputStatusPin with
      | .ok level => (.ok, level = .high)
      | .error e => (.errcode e, false)
    else if c.accessType = .bmc then
      match dcSensorReadingGetByName r.sensors c.powerOutputStatusAttr with
      | .ok reading =>
          (.ok, !(stdBitTest reading bmcPsuStatusFailure || stdBitTest reading bmcPsuStatusInputLost))
      | .error e => (.errcode e, false)
    else
      (rc, false)
  else
    (rc, true)

/-- What a call returns, leaves in `*presence` and in the entity, and whether it has run
`sdi_entity_inserted`. -/
structure PresenceResult where
  rc : TStdError
  presence : Bool
  state : EntityState
  inserted : Bool
  deriving DecidableEq

def presenceAction (r : Readings) (powerGood : Bool) (s : EntityState) (presence : Bool) :
    EntityState × Bool :=
  let old := s.present
  let s := { s with present := presence }
  if (s.present && !old) || (!s.entityInfoValid && powerGood) then (entityInserted r s, true)
  else if !s.present && old then (entityRemoved s, false)
  else (s, false)

def entityPresenceGet (c : EntityConfig) (r : Readings) (s : EntityState) (presence : Bool) :
    PresenceResult :=
  match readPresence c r presence with
  | .error e => ⟨.errcode e, presence, s, false⟩
  | .ok (rc, presence) =>
      let (rc, powerGood) := readPower c r rc
      let (s, inserted) := presenceAction r powerGood s presence
      ⟨rc, presence, s, inserted⟩

end OpxSdi.Entity
