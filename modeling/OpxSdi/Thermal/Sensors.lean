import OpxSdi.Common.StdError
import OpxSdi.Lib.Checked
import OpxSdi.Lib.Device

/-!
# Temperature sensors (`sdi_tmp75.c`, `sdi_emc142x.c`, `sdi_max6699.c`)

Each driver remembers the thresholds of its sensors, beside the limit registers of the chip.
-/

namespace OpxSdi.Thermal

open Lib

/-- `sdi_threshold_t` -/
inductive Threshold
  | low
  | high
  | critical
  deriving DecidableEq, Repr

/-- A threshold of one of the `n` sensors of a chip -/
abbrev Limit (n : Nat) := Fin n × Threshold

/-- What the configuration says of the sensors -/
structure Config (n : Nat) where
  connectedSensors : Fin n → Bool
  defaultThreshold : Limit n → BitVec 32

structure Sensors (n : Nat) where
  /-- What the driver remembers -/
  threshold : Limit n → BitVec 32
  regs : Byte → Byte
  /-- The writes of the registers that have succeeded, oldest first. The driver does not know them. -/
  writes : List (Byte × Byte)

abbrev State (n : Nat) := Device Empty Errno (Sensors n)

abbrev M (n : Nat) := Device.M Empty Errno (Sensors n)

variable {n : Nat}

def smbusReadByte (reg : Byte) : M n Byte := Device.access fun s => (s.regs reg, s)

def Sensors.written (s : Sensors n) (reg v : Byte) : Sensors n :=
  { s with regs := Function.update s.regs reg v, writes := s.writes ++ [(reg, v)] }

def smbusWriteByte (reg v : Byte) : M n Unit := Device.access fun s => ((), s.written reg v)

def Sensors.stored (s : Sensors n) (l : Limit n) (temperature : BitVec 32) : Sensors n :=
  { s with threshold := Function.update s.threshold l temperature }

def storeThreshold (l : Limit n) (temperature : BitVec 32) : M n Unit :=
  Device.internal fun s => ((), s.stored l temperature)

/-! ## What the drivers share -/

/-- A temperature that fits a register -/
def Fits (temperature : BitVec 32) : Prop := temperature &&& ~~~0xff = 0

instance (temperature : BitVec 32) : Decidable (Fits temperature) := inferInstanceAs (Decidable (_ = _))

def temperatureGet (tempReg : Fin n → Byte) (sensorId : Fin n) : M n (BitVec 32) := do
  let buf ← smbusReadByte (tempReg sensorId)
  pure (buf.setWidth 32)

/-- A type of threshold without a register is not supported. -/
def thresholdGet (limitReg : Limit n → Option Byte) (l : Limit n) : M n (BitVec 32) :=
  match limitReg l with
  | none => Device.fail .eopnotsupp
  | some _ => Device.internal fun s => (s.threshold l, s)

def thresholdSet (limitReg : Limit n → Option Byte) (l : Limit n) (temperature : BitVec 32) : M n Unit :=
  if ¬Fits temperature then Device.fail .einval
  else match limitReg l with
    | none => Device.fail .eopnotsupp
    | some reg => do
        smbusWriteByte reg (temperature.setWidth 8)
        storeThreshold l temperature

/-- Set a threshold to its default and remember it. -/
def initThreshold (thresholdSet : Limit n → BitVec 32 → M n Unit) (config : Config n) (l : Limit n) : M n Unit := do
  thresholdSet l (config.defaultThreshold l)
  storeThreshold l (config.defaultThreshold l)

/-- The first sensor whose initialisation fails ends that of the chip. -/
def initSensors (config : Config n) (resourceInit : Fin n → M n Unit) : List (Fin n) → M n Unit
  | [] => pure ()
  | sensorId :: rest =>
      if config.connectedSensors sensorId then do
        resourceInit sensorId
        initSensors config resourceInit rest
      else initSensors config resourceInit rest

/-! ## TMP75 -/

def tmp75TempReg : Fin 1 → Byte := fun _ => 0x00

def tmp75LimitReg : Limit 1 → Option Byte
  | (_, .low) => some 0x02
  | (_, .high) => some 0x03
  | (_, .critical) => none

def tmp75TemperatureGet : Fin 1 → M 1 (BitVec 32) := temperatureGet tmp75TempReg

def tmp75ThresholdGet : Limit 1 → M 1 (BitVec 32) := thresholdGet tmp75LimitReg

/-- The threshold is remembered before it is written. -/
def tmp75ThresholdSet (l : Limit 1) (temperature : BitVec 32) : M 1 Unit :=
  if ¬Fits temperature then Device.fail .einval
  else match tmp75LimitReg l with
    | none => Device.fail .eopnotsupp
    | some reg => do
        storeThreshold l temperature
        smbusWriteByte reg (temperature.setWidth 8)

def tmp75StatusGet (sensorId : Fin 1) : M 1 Bool := do
  let temperature ← tmp75TemperatureGet sensorId
  Device.internal fun s => (decide ((s.threshold (sensorId, .high)).toInt ≤ temperature.toInt) ||
    decide (temperature.toInt ≤ (s.threshold (sensorId, .low)).toInt), s)

abbrev tmp75Low : Limit 1 := (0, .low)
abbrev tmp75High : Limit 1 := (0, .high)

/-- The one sensor of the chip is always connected. -/
def tmp75ChipInit (config : Config 1) : M 1 Unit := do
  initThreshold tmp75ThresholdSet config (0, .low)
  initThreshold tmp75ThresholdSet config (0, .high)

/-! ## EMC142x -/

def emc142xHighLimitReg : List Byte := [0x05, 0x07, 0x15, 0x2c, 0x50, 0x54, 0x58, 0x5c]

def emc142xLowLimitReg : List Byte := [0x06, 0x08, 0x16, 0x2d, 0x51, 0x55, 0x59, 0x5d]

def emc142xCriticalLimitReg : List Byte := [0x20, 0x19, 0x1a, 0x30, 0x64, 0x65, 0x66, 0x67]

def emc142xLimitReg : Limit 8 → Option Byte
  | (sensorId, .low) => emc142xLowLimitReg[sensorId.val]?
  | (sensorId, .high) => emc142xHighLimitReg[sensorId.val]?
  | (sensorId, .critical) => emc142xCriticalLimitReg[sensorId.val]?

def emc142xThresholdGet : Limit 8 → M 8 (BitVec 32) := thresholdGet emc142xLimitReg

def emc142xThresholdSet : Limit 8 → BitVec 32 → M 8 Unit := thresholdSet emc142xLimitReg

/-- The default of the critical threshold is remembered also if it could not be set. -/
def emc142xInitCritical (config : Config 8) (sensorId : Fin 8) : M 8 Unit := do
  let rc ← Device.attempt (emc142xThresholdSet (sensorId, .critical) (config.defaultThreshold (sensorId, .critical)))
  storeThreshold (sensorId, .critical) (config.defaultThreshold (sensorId, .critical))
  Device.ofResult rc

def emc142xResourceInit (config : Config 8) (sensorId : Fin 8) : M 8 Unit := do
  initThreshold emc142xThresholdSet config (sensorId, .low)
  initThreshold emc142xThresholdSet config (sensorId, .high)
  emc142xInitCritical config sensorId

def emc142xChipInit (config : Config 8) : M 8 Unit :=
  initSensors config (emc142xResourceInit config) (List.finRange 8)

/-! ## MAX6699 -/

def max6699HighLimitReg : List Byte := [0x17, 0x11, 0x12, 0x13, 0x14]

def max6699LimitReg : Limit 5 → Option Byte
  | (sensorId, .high) => max6699HighLimitReg[sensorId.val]?
  | (_, .low) | (_, .critical) => none

def max6699ThresholdGet : Limit 5 → M 5 (BitVec 32) := thresholdGet max6699LimitReg

def max6699ThresholdSet : Limit 5 → BitVec 32 → M 5 Unit := thresholdSet max6699LimitReg

def max6699ResourceInit (config : Config 5) (sensorId : Fin 5) : M 5 Unit :=
  initThreshold max6699ThresholdSet config (sensorId, .high)

def max6699Init (config : Config 5) : M 5 Unit :=
  initSensors config (max6699ResourceInit config) (List.finRange 5)

/-! ## Calls -/

inductive Chip
  | tmp75
  | emc142x
  | max6699
  deriving DecidableEq, Repr

inductive Call (n : Nat)
  | chipInit
  | resourceInit (sensorId : Fin n)
  | thresholdSet (l : Limit n) (temperature : BitVec 32)

namespace Chip

def sensors : Chip → Nat
  | .tmp75 => 1
  | .emc142x => 8
  | .max6699 => 5

def limitReg : (chip : Chip) → Limit chip.sensors → Option Byte
  | .tmp75 => tmp75LimitReg
  | .emc142x => emc142xLimitReg
  | .max6699 => max6699LimitReg

def thresholdGet : (chip : Chip) → Limit chip.sensors → M chip.sensors (BitVec 32)
  | .tmp75 => tmp75ThresholdGet
  | .emc142x => emc142xThresholdGet
  | .max6699 => max6699ThresholdGet

def thresholdSet : (chip : Chip) → Limit chip.sensors → BitVec 32 → M chip.sensors Unit
  | .tmp75 => tmp75ThresholdSet
  | .emc142x => emc142xThresholdSet
  | .max6699 => max6699ThresholdSet

/-- The callback of the TMP75 is `NULL`, which `sdi_resource_init` passes over. -/
def resourceInit : (chip : Chip) → Config chip.sensors → Fin chip.sensors → M chip.sensors Unit
  | .tmp75 => fun _ _ => pure ()
  | .emc142x => emc142xResourceInit
  | .max6699 => max6699ResourceInit

def chipInit : (chip : Chip) → Config chip.sensors → M chip.sensors Unit
  | .tmp75 => tmp75ChipInit
  | .emc142x => emc142xChipInit
  | .max6699 => max6699Init

def call (chip : Chip) (config : Config chip.sensors) : Call chip.sensors → M chip.sensors Unit
  | .chipInit => chip.chipInit config
  | .resourceInit sensorId => chip.resourceInit config sensorId
  | .thresholdSet l temperature => chip.thresholdSet l temperature

def step (chip : Chip) (config : Config chip.sensors) (d : State chip.sensors) (c : Call chip.sensors) :
    State chip.sensors :=
  ((chip.call config c).out d).2

end Chip

/-- A driver whose thresholds have not been set yet -/
def started (threshold : Limit n → BitVec 32) (regs : Byte → Byte) (fault : Nat → Option Errno) : State n :=
  ⟨fun _ => false, fault, 0, ⟨threshold, regs, []⟩⟩

end OpxSdi.Thermal
