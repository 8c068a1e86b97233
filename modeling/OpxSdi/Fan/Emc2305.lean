import Mathlib.Logic.Function.Basic
import OpxSdi.Lib.Calc
import OpxSdi.Common.Config
import OpxSdi.Common.StdError

/-!
# EMC2305 fan controller (`sdi_emc2305.c`)

The tachometer counts the edges of a fan's signal. The driver turns the count into a speed and, in the RPM
mode, a speed into the target count of the controller.
-/

namespace OpxSdi.Fan

open Lib Calc

structure Emc2305FanData where
  maxSpeed : BitVec 32
  poles : BitVec 8
  edges : BitVec 8
  ranges : BitVec 8
  deriving DecidableEq, Repr

inductive Emc2305FanControl
  | direct
  | rpm
  deriving DecidableEq, Repr

def Emc2305FanControl.code : Emc2305FanControl → Byte
  | .direct => 0x2b
  | .rpm => 0xab

structure Emc2305Device where
  emc2305Fan : Fin 5 → Emc2305FanData
  fanControlType : Emc2305FanControl

def Emc2305Device.setFan (d : Emc2305Device) (fanId : Fin 5) (fan : Emc2305FanData) : Emc2305Device :=
  { d with emc2305Fan := Function.update d.emc2305Fan fanId fan }

abbrev Emc2305Bus := RegBus Byte Errno

/-- A stop `.bus e` is the return with the error `e`. -/
abbrev Emc2305Calc := Calc Emc2305Device Byte Errno

/-! ## Registers -/

/-- The register of a fan whose address for fan 0 is `base`. -/
def fanReg (base : Byte) (fanId : Fin 5) : Byte := base + 0x10 * BitVec.ofNat 8 fanId.val

def fanDrivSetReg : Fin 5 → Byte := fanReg 0x30
def fanConfig1Reg : Fin 5 → Byte := fanReg 0x32
def minDrvReg : Fin 5 → Byte := fanReg 0x38
def fanTachLtargReg : Fin 5 → Byte := fanReg 0x3c
def fanTachTargReg : Fin 5 → Byte := fanReg 0x3d
def fanTachReg : Fin 5 → Byte := fanReg 0x3e
def fanTachLbyteReg : Fin 5 → Byte := fanReg 0x3f

/-! ## Speeds and counts -/

def tachFreq : Int := 32768
def rpmConstVal : Int := 60

def rangexDefault : BitVec 8 := 2

def poleEdgeMapping : List (BitVec 8) := [3, 5, 7, 9]

def polesEdge (poles : BitVec 8) : BitVec 8 := poleEdgeMapping.getD (poles.toNat - 1) 0

def speedPercentToDrvVoltGet (percent : BitVec 8) : Byte := BitVec.ofNat 8 (percent.toNat * 255 / 100)

def rpmToSpeedPercentGet (maxSpeed rpm : BitVec 32) : Emc2305Calc (BitVec 8) := do
  let product ← mul rpm 100
  let percent ← div product maxSpeed
  return percent.setWidth 8

def fanPolesGet (data : Byte) : BitVec 8 := ((data &&& 0x18) >>> 3) + 1

/-- The 13 bits of a count are the upper ones of two registers. -/
def tachCount (tach ltach : Byte) : BitVec 16 := (tach.setWidth 16 <<< 8 ||| ltach.setWidth 16) >>> 3

def tachCountToRpm (fan : Emc2305FanData) (count : BitVec 16) : Emc2305Calc (BitVec 32) := do
  let n ← mulInt (fan.edges.toNat - 1) tachFreq
  let n ← mulInt n fan.ranges.toNat
  let n ← mulInt n rpmConstVal
  let d ← mulInt count.toNat fan.poles.toNat
  let speed ← divInt n d
  return BitVec.ofInt 32 speed

/-- The count of `sdi_rpm_to_tach_count`, before it is cut to 16 bits. -/
def targetCount (fan : Emc2305FanData) (speed : BitVec 32) : Emc2305Calc (BitVec 32) := do
  let n ← mulInt (fan.edges.toNat - 1) tachFreq
  let n ← mulInt n rpmConstVal
  let n ← divInt n fan.poles.toNat
  let n ← mulInt n fan.poles.toNat
  div (BitVec.ofInt 32 n) speed

def rpmToTachCount (fan : Emc2305FanData) (speed : BitVec 32) : Emc2305Calc (BitVec 16) := do
  let count ← targetCount fan speed
  return count.setWidth 16 <<< 3

/-! ## Callbacks -/

def emc2305FanSpeedGet (fanId : Fin 5) : Emc2305Calc (BitVec 32) := do
  let emc2305Data ← data
  let tach ← onBus (RegBus.readByte (fanTachReg fanId))
  let ltach ← onBus (RegBus.readByte (fanTachLbyteReg fanId))
  tachCountToRpm (emc2305Data.emc2305Fan fanId) (tachCount tach ltach)

def tachHigh (tachval : BitVec 16) : Byte := ((tachval &&& 0xff00) >>> 8).setWidth 8

def tachLow (tachval : BitVec 16) : Byte := (tachval &&& 0xff).setWidth 8

def Emc2305FanData.limit (fan : Emc2305FanData) (speed : BitVec 32) : BitVec 32 :=
  if fan.maxSpeed < speed then fan.maxSpeed else speed

def emc2305FanSpeedSet (fanId : Fin 5) (speed : BitVec 32) : Emc2305Calc Unit := do
  let emc2305Data ← data
  let fan := emc2305Data.emc2305Fan fanId
  let speed := fan.limit speed
  match emc2305Data.fanControlType with
  | .rpm => do
      let tachval ← rpmToTachCount fan speed
      onBus (RegBus.writeByte (fanTachTargReg fanId) (tachHigh tachval))
      onBus (RegBus.writeByte (fanTachLtargReg fanId) (tachLow tachval))
      onBus (RegBus.writeByte (fanConfig1Reg fanId) emc2305Data.fanControlType.code)
  | .direct => do
      let speedPercent ← rpmToSpeedPercentGet fan.maxSpeed speed
      onBus (RegBus.writeByte (fanDrivSetReg fanId) (speedPercentToDrvVoltGet speedPercent))

/-- A fan without a maximum speed in the configuration takes the one of its entity. -/
def Emc2305Device.initMaxSpeed (d : Emc2305Device) (fanId : Fin 5) (maxRpm : BitVec 32) : Emc2305Device :=
  if (d.emc2305Fan fanId).maxSpeed = 0 ∧ maxRpm ≠ 0 then
    d.setFan fanId { d.emc2305Fan fanId with maxSpeed := maxRpm }
  else d

def emc2305ResourceInit (fanId : Fin 5) (maxRpm : BitVec 32) : Emc2305Calc Unit := do
  let _ ← attempt (onBus (RegBus.writeByte (minDrvReg fanId) 0x50))
  modifyData (·.initMaxSpeed fanId maxRpm)
  let emc2305Data ← data
  emc2305FanSpeedSet fanId (emc2305Data.emc2305Fan fanId).maxSpeed

/-! ## Registration -/

/-- The device, its bus, and the fans that have been added to the resources. -/
structure Emc2305Registered where
  rig : Rig Emc2305Device Byte Errno
  added : List (Fin 5)

def Emc2305Registered.setFan (s : Emc2305Registered) (fanId : Fin 5) (fan : Emc2305FanData) :
    Emc2305Registered :=
  { s with rig := { s.rig with data := s.rig.data.setFan fanId fan } }

/-- The edges follow from the poles. A fan with another number of poles is not added. -/
def addFan (s : Emc2305Registered) (fanId : Fin 5) (fan : Emc2305FanData) : Emc2305Registered :=
  if 1 ≤ fan.poles.toNat ∧ fan.poles.toNat ≤ 4 then
    { s.setFan fanId { fan with edges := polesEdge fan.poles } with added := s.added ++ [fanId] }
  else s.setFan fanId fan

/-- The poles of a fan come from its node or else from the controller. -/
def registerFan (s : Emc2305Registered) (node : ConfigNode) (fanId : Fin 5) (fan : Emc2305FanData) :
    Emc2305Registered :=
  match node.attr "poles" with
  | some text => addFan s fanId { fan with poles := (number 32 text).setWidth 8, ranges := rangexDefault }
  | none =>
      match (RegBus.readByte (fanConfig1Reg fanId)).out s.rig.bus with
      | (.error _, bus) => { s.setFan fanId fan with rig := { (s.setFan fanId fan).rig with bus } }
      | (.ok buf, bus) =>
          addFan { s with rig := { s.rig with bus } } fanId
            { fan with poles := fanPolesGet buf, ranges := rangexDefault }

def emc2305DeviceDatabaseInit (s : Emc2305Registered) (node : ConfigNode) :
    Except Crash Emc2305Registered := do
  match ← node.instanceOf "fan" 5 with
  | none => .ok s
  | some fanId => do
      let maxSpeed ← node.required "fan_speed"
      .ok (registerFan s node fanId { s.rig.data.emc2305Fan fanId with maxSpeed := number 32 maxSpeed })

/-- The private data before any of the children is read. -/
def Emc2305Device.zeroed (fanControlType : Emc2305FanControl) : Emc2305Device :=
  ⟨fun _ => ⟨0, 0, 0, 0⟩, fanControlType⟩

/-- `sdi_emc2305_register` with the children of the node. -/
def emc2305Register (node : ConfigNode) (children : List ConfigNode) (bus : Emc2305Bus) :
    Except Crash Emc2305Registered := do
  let _instance ← node.required "instance"
  let _addr ← node.required "addr"
  let fanControlType := if node.attr "fan_control_type" = some "RPM".toList then .rpm else .direct
  children.foldlM emc2305DeviceDatabaseInit ⟨⟨.zeroed fanControlType, bus⟩, []⟩

end OpxSdi.Fan
