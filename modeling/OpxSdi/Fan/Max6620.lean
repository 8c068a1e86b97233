import OpxSdi.Lib.Calc
import OpxSdi.Lib.Calls
import OpxSdi.Common.Config
import OpxSdi.Common.StdError

/-!
# MAX6620 fan controller (`sdi_max6620.c`)

A read of the fault register clears it, so the driver keeps the faults of all four fans in `fan_faults`
until they have been reported. Calls share `fan_faults` without a lock.
-/

namespace OpxSdi.Fan

open Lib

structure Max6620Chip where
  fanFault : BitVec 8
  fanTgtTachCnt : Fin 4 → BitVec 16

inductive Max6620Op
  | readFanFault
  | readFanTgtTachCnt (fanId : Fin 4)
  | writeFanTgtTachCnt (fanId : Fin 4) (tach : BitVec 16)
  deriving DecidableEq, Repr

def Max6620Op.Resp : Max6620Op → Type
  | .readFanFault => BitVec 8
  | .readFanTgtTachCnt _ => BitVec 16
  | .writeFanTgtTachCnt _ _ => Unit

namespace Max6620Chip

def exec : (op : Max6620Op) → Max6620Chip → op.Resp × Max6620Chip
  | .readFanFault, chip => (chip.fanFault, { chip with fanFault := 0 })
  | .readFanTgtTachCnt fanId, chip => (chip.fanTgtTachCnt fanId, chip)
  | .writeFanTgtTachCnt fanId tach, chip =>
      ((), { chip with fanTgtTachCnt := Function.update chip.fanTgtTachCnt fanId tach })

/-- Fans fail, each of which sets its bit. -/
def fail (chip : Max6620Chip) (faults : BitVec 8) : Max6620Chip :=
  { chip with fanFault := chip.fanFault ||| faults }

def port : Port Max6620Op Max6620Op.Resp Max6620Chip (BitVec 8) := ⟨exec, fail⟩

end Max6620Chip

/-- The return code and `*status`. -/
structure FanStatus where
  rc : TStdError
  status : Bool
  deriving DecidableEq, Repr

/-- A procedure with the latch `fan_faults` as its memory. -/
abbrev Max6620Proc := Proc Max6620Op Max6620Op.Resp (BitVec 32) Errno

def readFanFault : Max6620Proc (Except Errno (BitVec 8)) :=
  Proc.transact Max6620Op.readFanFault

def readFanTgtTachCnt (fanId : Fin 4) : Max6620Proc (Except Errno (BitVec 16)) :=
  Proc.transact (Max6620Op.readFanTgtTachCnt fanId)

def writeFanTgtTachCnt (fanId : Fin 4) (tach : BitVec 16) : Max6620Proc (Except Errno Unit) :=
  Proc.transact (Max6620Op.writeFanTgtTachCnt fanId tach)

/-! ## `sdi_max6620_fan_status_get` -/

def faultMask (fanId : Fin 4) : BitVec 32 := 1#32 <<< (fanId.val + 4)

/-- The store of `fan_faults &= ~m`, after which the call returns. -/
def storeCleared (fanFaults : BitVec 32) : Max6620Proc FanStatus := do
  Proc.store fanFaults
  return ⟨.ok, true⟩

def clearFault (fanId : Fin 4) : Max6620Proc FanStatus := do
  let fanFaults ← Proc.load
  storeCleared (fanFaults &&& ~~~faultMask fanId)

/-- The second transaction of a call that has found a fault. -/
def writeTach (fanId : Fin 4) (tach : BitVec 16) : Max6620Proc FanStatus := do
  match ← writeFanTgtTachCnt fanId tach with
  | .error e => return ⟨.errcode e, true⟩
  | .ok () => clearFault fanId

/-- Fault detected => re-set tach value to re-enable fault detection. -/
def resetTach (fanId : Fin 4) : Max6620Proc FanStatus := do
  match ← readFanTgtTachCnt fanId with
  | .error e => return ⟨.errcode e, true⟩
  | .ok tach => writeTach fanId tach

/-- The store of `fan_faults |= buf`. The value that is stored is the one that is tested. -/
def storeFaults (fanId : Fin 4) (fanFaults : BitVec 32) : Max6620Proc FanStatus := do
  Proc.store fanFaults
  if fanFaults &&& faultMask fanId ≠ 0 then resetTach fanId else return ⟨.ok, false⟩

def latchFaults (fanId : Fin 4) (buf : BitVec 8) : Max6620Proc FanStatus := do
  let fanFaults ← Proc.load
  storeFaults fanId (fanFaults ||| BitVec.setWidth 32 buf)

/-- No lock is held: `fan_faults` is loaded and stored after the bus has been given back. -/
def max6620FanStatusGet (fanId : Fin 4) : Max6620Proc FanStatus := do
  match ← readFanFault with
  | .error e => return ⟨.errcode e, false⟩
  | .ok buf => latchFaults fanId buf

/-! ## Speeds of the MAX6620 (`sdi_max6620.c`)

The tachometer count and the target count of a fan are 11 bits in a word of the controller.
-/

open Calc

structure Max6620FanData where
  noOfTachPulse : BitVec 32
  tachCountPeriod : BitVec 32
  maxSpeed : BitVec 32
  deriving DecidableEq, Repr

structure Max6620Device where
  max6620Fan : Fin 4 → Max6620FanData

def Max6620Device.setFan (d : Max6620Device) (fanId : Fin 4) (fan : Max6620FanData) : Max6620Device :=
  { d with max6620Fan := Function.update d.max6620Fan fanId fan }

abbrev Max6620Bus := RegBus Byte Errno

abbrev Max6620Calc := Calc Max6620Device Byte Errno

/-! ### Registers -/

def fanCfg (fanId : Fin 4) : Byte := 0x02 + BitVec.ofNat 8 fanId.val
def fanDyn (fanId : Fin 4) : Byte := 0x06 + BitVec.ofNat 8 fanId.val
def fanTachCnt (fanId : Fin 4) : Byte := 0x10 + BitVec.ofNat 8 fanId.val <<< 1
def fanTgtTachCnt (fanId : Fin 4) : Byte := 0x20 + BitVec.ofNat 8 fanId.val <<< 1
def fanTgtDrvVolt (fanId : Fin 4) : Byte := 0x28 + BitVec.ofNat 8 fanId.val <<< 1

/-- The byte at the address is the low one. -/
def wordAt (regs : Byte → Byte) (a : Byte) : BitVec 16 :=
  (regs a).setWidth 16 ||| (regs (a + 1)).setWidth 16 <<< 8

def readWord (a : Byte) : RegBus.M Byte Errno (BitVec 16) := RegBus.transact fun regs => (wordAt regs a, regs)

def writeWord (a : Byte) (v : BitVec 16) : RegBus.M Byte Errno Unit :=
  RegBus.transact fun regs =>
    ((), fun a' => if a' = a then v.setWidth 8 else if a' = a + 1 then (v >>> 8).setWidth 8 else regs a')

/-- `sdi_platform_util_write_16bit_to_bytearray_le`. -/
def bytesLe (v : BitVec 16) : Byte × Byte := (v.setWidth 8, (v >>> 8).setWidth 8)

theorem bytesLe_word (a b : Byte) : bytesLe (a.setWidth 16 ||| b.setWidth 16 <<< 8) = (a, b) := by
  refine Prod.ext ?_ ?_
  · ext i h
    simp [bytesLe]
  · ext i h
    simp [bytesLe, show 8 + i < 16 by omega, show i < 16 by omega, BitVec.getLsbD_eq_getElem h]

theorem bytesLe_wordAt (regs : Byte → Byte) (a : Byte) :
    bytesLe (wordAt regs a) = (regs a, regs (a + 1)) := bytesLe_word _ _

/-! ### Speeds and counts -/

def maxTachCount : BitVec 32 := 2047

def tachCountVal (msb lsb : Byte) : BitVec 32 := lsb.setWidth 32 <<< 3 ||| msb.setWidth 32 >>> 5

/-- `60 * SR * 8192 / (NP * n)`: the speed at the count `n`, and the count of the speed `n`. -/
def tachRatio (fan : Max6620FanData) (n : BitVec 32) : Max6620Calc (BitVec 32) := do
  let dividend ← mul fan.tachCountPeriod (60 * 8192)
  let divisor ← mul fan.noOfTachPulse n
  div dividend divisor

/-- The period for a maximum speed, and its code in the register. -/
def tachCountPeriod (maxSpeed : BitVec 32) : BitVec 32 × Byte :=
  if 0 < maxSpeed ∧ maxSpeed ≤ 500 then (1, 0)
  else if 500 < maxSpeed ∧ maxSpeed ≤ 1000 then (2, 1)
  else if 1000 < maxSpeed ∧ maxSpeed ≤ 2000 then (4, 2)
  else if 2000 < maxSpeed ∧ maxSpeed ≤ 4000 then (8, 3)
  else if 4000 < maxSpeed ∧ maxSpeed ≤ 8000 then (16, 4)
  else (32, 5)

/-! ### Callbacks -/

def fanTachCountGet (fanId : Fin 4) : Max6620Calc (BitVec 32) := do
  let buf ← onBus (readWord (fanTachCnt fanId))
  return tachCountVal (bytesLe buf).2 (bytesLe buf).1

/-- The result `none` leaves `*speed` as it is. -/
def max6620FanSpeedGet (fanId : Fin 4) : Max6620Calc (Option (BitVec 32)) := do
  let max6620Data ← data
  let tachCount ← fanTachCountGet fanId
  if tachCount = 0 then return none
  else if tachCount = maxTachCount then return some 0
  else do
    let speed ← tachRatio (max6620Data.max6620Fan fanId) tachCount
    return some speed

/-- The target in the upper 11 bits of its word; the other bits stay. -/
def targetWord (target : BitVec 32) (old : BitVec 16) : BitVec 16 :=
  let msb : Byte := ((target &&& 0x7ff) >>> 3).setWidth 8
  let lsb : Byte := ((target &&& 0x7) <<< 5).setWidth 8
  let buf : Byte := ((bytesLe old).2 &&& ~~~0xe0#8) ||| (lsb &&& 0xe0)
  msb.setWidth 16 ||| buf.setWidth 16 <<< 8

def fanTargetTachCountSet (fanId : Fin 4) (target : BitVec 32) : Max6620Calc Unit := do
  let tempBuf ← onBus (readWord (fanTgtTachCnt fanId))
  onBus (writeWord (fanTgtTachCnt fanId) (targetWord target tempBuf))

def max6620FanSpeedSet (fanId : Fin 4) (speed : BitVec 32) : Max6620Calc Unit := do
  let max6620Data ← data
  let fan := max6620Data.max6620Fan fanId
  if fan.maxSpeed < speed then fail .eopnotsupp
  else if speed = 0 then fanTargetTachCountSet fanId maxTachCount
  else do
    let target ← tachRatio fan speed
    fanTargetTachCountSet fanId target

def fanTachCountPeriodSet (fanId : Fin 4) : Max6620Calc Unit := do
  let max6620Data ← data
  let fan := max6620Data.max6620Fan fanId
  let period := tachCountPeriod fan.maxSpeed
  modifyData (·.setFan fanId { fan with tachCountPeriod := period.1 })
  let buf ← onBus (RegBus.readByte (fanDyn fanId))
  onBus (RegBus.writeByte (fanDyn fanId) ((buf &&& ~~~0xe0#8) ||| (period.2 <<< 5 &&& 0xe0)))

/-- The drive voltage is in the upper 9 bits, the first byte being the high one. -/
def driveVolt (buf : BitVec 16) : BitVec 16 :=
  ((bytesLe buf).1.setWidth 16 <<< 8 ||| (bytesLe buf).2.setWidth 16) >>> 7

/-- The fan starts at the speed of its current drive voltage. -/
def max6620InitFan (fanId : Fin 4) : Max6620Calc Unit := do
  let _ ← attempt (fanTachCountPeriodSet fanId)
  let buf ← onBus (readWord (fanTgtDrvVolt fanId))
  let speedPercent := BitVec.ofNat 32 ((driveVolt buf).toNat * 100 / 0x1ff)
  let max6620Data ← data
  let product ← mul (max6620Data.max6620Fan fanId).maxSpeed speedPercent
  let rpm ← div product 100
  max6620FanSpeedSet fanId rpm
  onBus (RegBus.writeByte (fanCfg fanId) 0xc0)

def Max6620Device.initMaxSpeed (d : Max6620Device) (fanId : Fin 4) (maxRpm : BitVec 32) : Max6620Device :=
  if maxRpm ≠ 0 then d.setFan fanId { d.max6620Fan fanId with maxSpeed := maxRpm } else d

def max6620ResourceInit (fanId : Fin 4) (maxRpm : BitVec 32) : Max6620Calc Unit := do
  modifyData (·.initMaxSpeed fanId maxRpm)
  max6620InitFan fanId

/-! ### Registration -/

/-- The device, and the fans that have been added to the resources. -/
structure Max6620Registered where
  device : Max6620Device
  added : List (Fin 4)

def max6620DeviceDatabaseInit (s : Max6620Registered) (node : ConfigNode) :
    Except Crash Max6620Registered := do
  match ← node.instanceOf "fan" 4 with
  | none => .ok s
  | some fanId => do
      let noOfTachPulse := match node.attr "no_of_tach_pulse" with
        | none => 2
        | some text => number 32 text
      let maxSpeed ← node.required "fan_speed"
      let fan := { s.device.max6620Fan fanId with noOfTachPulse, maxSpeed := number 32 maxSpeed }
      .ok ⟨s.device.setFan fanId fan, s.added ++ [fanId]⟩

/-- `sdi_max6620_register` with the children of the node. -/
def max6620Register (node : ConfigNode) (children : List ConfigNode) : Except Crash Max6620Registered := do
  let _instance ← node.required "instance"
  let _addr ← node.required "addr"
  children.foldlM max6620DeviceDatabaseInit ⟨⟨fun _ => ⟨0, 0, 0⟩⟩, []⟩

end OpxSdi.Fan
