import Mathlib.Data.List.MinMax
import OpxSdi.Lib.Calc
import OpxSdi.Common.StdError

/-!
# Fan speeds of PMBus devices (`sdi_pmbus_dev.c`)

A speed map for the PPID of the parent entity gives the duty cycle of a speed, and the speed of a duty
cycle. Without one a duty cycle is a percentage of the maximum speed.
-/

namespace OpxSdi.Fan

open Lib Calc

structure SpeedMapEntry where
  rpm : BitVec 32
  pct : BitVec 32
  deriving DecidableEq, Repr

structure SpeedPpidMap (Pat : Type) where
  ppidPat : Pat
  speeds : List SpeedMapEntry

/-- The maximum speed is the one that `sdi_pmbus_dev_resource_init` was called with. -/
structure PmbusDev (Pat : Type) where
  fanSpeedMap : List (SpeedPpidMap Pat)
  maxFanSpeed : BitVec 32

abbrev PmbusCalc (Pat : Type) := Calc (PmbusDev Pat) Byte Errno

def absDiff (a b : BitVec 32) : BitVec 32 := if b ≤ a then a - b else b - a

/-- One pass of the loop over the entries: the best entry so far and its error. -/
def closer (rpm : BitVec 32) (best : Option (SpeedMapEntry × BitVec 32)) (q : SpeedMapEntry) :
    Option (SpeedMapEntry × BitVec 32) :=
  match best with
  | none => some (q, absDiff rpm q.rpm)
  | some (b, bestError) =>
      if bestError ≤ absDiff rpm q.rpm then some (b, bestError) else some (q, absDiff rpm q.rpm)

def closest (rpm : BitVec 32) (speeds : List SpeedMapEntry) : Option (SpeedMapEntry × BitVec 32) :=
  speeds.foldl (closer rpm) none

/-- The same loop over either member of the entries. -/
def closerTo (member : SpeedMapEntry → BitVec 32) (x : BitVec 32) (best : Option (SpeedMapEntry × BitVec 32))
    (q : SpeedMapEntry) : Option (SpeedMapEntry × BitVec 32) :=
  match best with
  | none => some (q, absDiff x (member q))
  | some (b, bestError) =>
      if bestError ≤ absDiff x (member q) then some (b, bestError) else some (q, absDiff x (member q))

def closestTo (member : SpeedMapEntry → BitVec 32) (x : BitVec 32) (speeds : List SpeedMapEntry) :
    Option (SpeedMapEntry × BitVec 32) :=
  speeds.foldl (closerTo member x) none

variable {Pat : Type} (regexec : Pat → List Char → Bool)

/-- The first map whose pattern matches the PPID. There is no PPID when the resource handle is NULL. -/
def ppidMap (dev : PmbusDev Pat) (ppid : Option (List Char)) : Option (SpeedPpidMap Pat) := do
  let ppid ← ppid
  dev.fanSpeedMap.find? fun p => regexec p.ppidPat ppid

def mappedPct (dev : PmbusDev Pat) (ppid : Option (List Char)) (rpm : BitVec 32) : Option (BitVec 32) := do
  let p ← ppidMap regexec dev ppid
  let best ← closest rpm p.speeds
  return best.1.pct

/-- `sdi_pmbus_dev_fan_speed_rpm_to_pct`. -/
def fanSpeedRpmToPct (ppid : Option (List Char)) (rpm : BitVec 32) : PmbusCalc Pat (BitVec 32) := do
  let dev ← data
  match mappedPct regexec dev ppid rpm with
  | some pct => return pct
  | none =>
      if dev.maxFanSpeed ≠ 0 then do
        let dutyCycle ← div dev.maxFanSpeed 100
        div rpm dutyCycle
      else return 100

def mappedRpm (dev : PmbusDev Pat) (ppid : Option (List Char)) (pct : BitVec 32) : Option (BitVec 32) := do
  let p ← ppidMap regexec dev ppid
  let best ← closestTo SpeedMapEntry.pct pct p.speeds
  return best.1.rpm

/-- `sdi_pmbus_dev_fan_speed_pct_to_rpm`. -/
def fanSpeedPctToRpm (ppid : Option (List Char)) (pct : BitVec 32) : PmbusCalc Pat (BitVec 32) := do
  let dev ← data
  match mappedRpm regexec dev ppid pct with
  | some rpm => return rpm
  | none =>
      if dev.maxFanSpeed ≠ 0 then do
        let product ← mul pct dev.maxFanSpeed
        div product 100
      else return 0

/-! ## Setting a speed -/

inductive PmbusResource
  | temperature1 | temperature2 | temperature3 | fan1 | fan2 | fan3 | fan4
  deriving DecidableEq, Repr

def PmbusResource.fanCommand : PmbusResource → Option Byte
  | .fan1 => some 0x3b
  | .fan2 => some 0x3c
  | .fan3 => some 0x3e
  | .fan4 => some 0x3f
  | _ => none

/-- A register of a PMBus device is a word. What is written to it is the result of the call. -/
def smbusWriteWord (reg : Byte) (pval : BitVec 16) : PmbusCalc Pat (Byte × BitVec 16) :=
  onBus (RegBus.transact fun regs => ((reg, pval), regs))

/-- `sdi_platform_util_convert_le_to_uint16`. -/
def leToUint16 (lsb msb : Byte) : BitVec 16 := lsb.setWidth 16 ||| msb.setWidth 16 <<< 8

/-- `sdi_pmbus_dev_fan_speed_set`. -/
def pmbusFanSpeedSet (resource : PmbusResource) (ppid : Option (List Char)) (fanSpeed : BitVec 32) :
    PmbusCalc Pat (Byte × BitVec 16) :=
  match resource.fanCommand with
  | none => fail .eopnotsupp
  | some reg => do
      let pct ← fanSpeedRpmToPct regexec ppid fanSpeed
      smbusWriteWord reg (leToUint16 (pct.setWidth 8) 0)

/-! ## The loop over the entries -/

def closestEntryTo (member : SpeedMapEntry → BitVec 32) (x : BitVec 32) (speeds : List SpeedMapEntry) :
    Option SpeedMapEntry :=
  speeds.argmin fun q => (absDiff x (member q)).toNat

/-- The loop carries the error of the best entry along. -/
theorem closestTo_eq (member : SpeedMapEntry → BitVec 32) (x : BitVec 32) (speeds : List SpeedMapEntry) :
    closestTo member x speeds =
      (closestEntryTo member x speeds).map fun q => (q, absDiff x (member q)) := by
  change speeds.foldl (closerTo member x)
    (Option.map (fun q : SpeedMapEntry => (q, absDiff x (member q))) none) = _
  rw [closestEntryTo, List.argmin]
  refine List.foldl_hom _ fun best q => ?_
  cases best with
  | none => rfl
  | some b =>
      simp only [Option.map_some, closerTo, List.argAux, ← BitVec.lt_def]
      split
      · rename_i hle
        rw [if_neg (BitVec.not_lt.mpr hle), Option.map_some]
      · rename_i hlt
        rw [if_pos (BitVec.not_le.mp hlt), Option.map_some]

theorem closest_eq_closestTo : closest = closestTo SpeedMapEntry.rpm := rfl

/-- The entry whose speed is closest to the given one, the first of several. -/
def closestEntry (rpm : BitVec 32) (speeds : List SpeedMapEntry) : Option SpeedMapEntry :=
  speeds.argmin fun q => (absDiff rpm q.rpm).toNat

theorem closest_eq (rpm : BitVec 32) (speeds : List SpeedMapEntry) :
    closest rpm speeds = (closestEntry rpm speeds).map fun q => (q, absDiff rpm q.rpm) := by
  rw [closest_eq_closestTo]
  exact closestTo_eq SpeedMapEntry.rpm rpm speeds

theorem closest_eq_none_iff {rpm : BitVec 32} {speeds : List SpeedMapEntry} :
    closest rpm speeds = none ↔ speeds = [] := by
  rw [closest_eq, Option.map_eq_none_iff]
  exact List.argmin_eq_none

def PmbusDev.HasEntry (dev : PmbusDev Pat) (ppid : Option (List Char)) : Prop :=
  ∃ p, ppidMap regexec dev ppid = some p ∧ p.speeds ≠ []

theorem mappedPct_eq_none_iff {dev : PmbusDev Pat} {ppid : Option (List Char)} {rpm : BitVec 32} :
    mappedPct regexec dev ppid rpm = none ↔ ¬dev.HasEntry regexec ppid := by
  rw [mappedPct, PmbusDev.HasEntry]
  cases ppidMap regexec dev ppid with
  | none => exact iff_of_true rfl fun ⟨_, h, _⟩ => nomatch h
  | some p =>
      simp only [Option.some.injEq, exists_eq_left', ne_eq, not_not, Option.bind_eq_bind, Option.bind_some,
        Option.bind_eq_none_iff, reduceCtorEq, imp_false, Option.pure_def]
      rw [← (closest_eq_none_iff : closest rpm _ = none ↔ _), Option.eq_none_iff_forall_ne_some]

end OpxSdi.Fan
