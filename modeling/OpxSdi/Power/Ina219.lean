import Mathlib.Data.List.Induction
import OpxSdi.Lib.Device
import OpxSdi.Lib.Run
import OpxSdi.Media.PhyTheorems

/-!
# The initialisation of an INA219 power monitor (`sdi_ina219.c`)

The chip sends and takes the high byte of a register first, SMBus words have the low byte first. A write to
its configuration register with the reset bit set puts all registers back to their values at power-on.
-/

namespace OpxSdi.Power

open Lib

/-- The registers that the initialisation uses. -/
structure Ina219 where
  config : BitVec 16
  calibration : BitVec 16

inductive Ina219Error
  | bus (e : Errno)
  /-- `e_std_err_code_FAIL` -/
  | fail
  deriving DecidableEq, Repr

abbrev Ina219M := Device.M Empty Ina219Error Ina219

/-- The values that the driver has from its configuration. -/
structure Ina219Device where
  configRegVal : BitVec 16
  calibRegVal : BitVec 16

namespace Ina219

def defaultConfigRegVal : BitVec 16 := 0x399f

def powerOn : Ina219 := ⟨defaultConfigRegVal, 0⟩

def ntohs (v : BitVec 16) : BitVec 16 := v >>> 8 ||| v <<< 8

def readConfig (chip : Ina219) : BitVec 16 × Ina219 := (ntohs chip.config, chip)

def writeConfig (w : BitVec 16) (chip : Ina219) : Unit × Ina219 :=
  ((), if (ntohs w).getLsbD 15 then powerOn else { chip with config := ntohs w })

def writeCalibration (w : BitVec 16) (chip : Ina219) : Unit × Ina219 :=
  ((), { chip with calibration := ntohs w })

def chipInit (device : Ina219Device) : Ina219M Unit := do
  let regValue ← Device.access readConfig
  if ntohs regValue ≠ defaultConfigRegVal then Device.fail .fail
  else do
    Device.access (writeConfig device.configRegVal)
    Device.access (writeCalibration device.calibRegVal)

/-- A run of the initialisation, with the errors of its transactions, or a power cycle of the chip. -/
inductive Event
  | init (fault : Nat → Option Ina219Error)
  | powerCycle

/-- The initialisation from a state of the chip. -/
def initialise (device : Ina219Device) (chip : Ina219) (fault : Nat → Option Ina219Error) :
    Except (Halt Ina219Error) Unit × Ina219 :=
  let r := (chipInit device).out ⟨fun _ => false, fault, 0, chip⟩
  (r.1, r.2.hw)

def step (device : Ina219Device) (chip : Ina219) : Event → Ina219
  | .init fault => (initialise device chip fault).2
  | .powerCycle => powerOn

def after (device : Ina219Device) (events : List Event) : Ina219 := run (step device) powerOn events

/-! ## One initialisation -/

theorem ntohs_ntohs (v : BitVec 16) : ntohs (ntohs v) = v := Media.Phy.swap_swap v

theorem initialise_eq (device : Ina219Device) (chip : Ina219) (fault : Nat → Option Ina219Error) :
    initialise device chip fault =
      match fault 0 with
      | some e => (.error (.error e), chip)
      | none =>
          if chip.config ≠ defaultConfigRegVal then (.error (.error .fail), chip)
          else
            match fault 1 with
            | some e => (.error (.error e), chip)
            | none =>
                match fault 2 with
                | some e => (.error (.error e), (writeConfig device.configRegVal chip).2)
                | none => (.ok (), (writeCalibration device.calibRegVal
                (writeConfig device.configRegVal chip).2).2) := by
  rw [initialise, chipInit]
  cases h0 : fault 0 with
  | some e => rw [Acts.out_bind_error (Device.out_access_error h0)]
  | none =>
      rw [Acts.out_bind_ok (Device.out_access_ok h0)]
      simp only [readConfig, ntohs_ntohs]
      split
      · rfl
      · cases h1 : fault 1 with
        | some e => rw [Acts.out_bind_error (Device.out_access_error h1)]
        | none =>
            rw [Acts.out_bind_ok (Device.out_access_ok h1)]
            cases h2 : fault 2 with
            | some e => rw [Device.out_access_error h2]
            | none => rw [Device.out_access_ok h2]

theorem initialise_ok_iff (device : Ina219Device) (chip : Ina219) :
    (initialise device chip fun _ => none).1 = .ok () ↔ chip.config = defaultConfigRegVal := by
  rw [initialise_eq]
  by_cases h : chip.config = defaultConfigRegVal <;> simp [h]

/-- Writing the configuration leaves its default in the register. -/
def KeepsDefault (device : Ina219Device) : Prop :=
  (ntohs device.configRegVal).getLsbD 15 = true ∨ ntohs device.configRegVal = defaultConfigRegVal

theorem config_writeConfig (device : Ina219Device) (chip : Ina219) :
    (writeConfig device.configRegVal chip).2.config = defaultConfigRegVal ↔ KeepsDefault device := by
  rw [writeConfig, KeepsDefault]
  cases (ntohs device.configRegVal).getLsbD 15 <;> simp [powerOn]

/-- The configuration is written. -/
def Writes (fault : Nat → Option Ina219Error) : Prop := fault 0 = none ∧ fault 1 = none

theorem config_initialise (device : Ina219Device) (chip : Ina219) (fault : Nat → Option Ina219Error) :
    (initialise device chip fault).2.config = defaultConfigRegVal ↔
      chip.config = defaultConfigRegVal ∧ (KeepsDefault device ∨ ¬Writes fault) := by
  rw [initialise_eq, Writes]
  by_cases h : chip.config = defaultConfigRegVal
  · have hwrite := config_writeConfig device chip
    cases fault 0 with
    | some e => simp [h]
    | none =>
        cases fault 1 with
        | some e => simp [h]
        | none => cases fault 2 <;> simp [h, hwrite, writeCalibration]
  · cases fault 0 <;> simp [h]

/-! ## Runs -/

/-- An initialisation has written the configuration since the last power cycle. -/
def Configured (events : List Event) : Prop :=
  ∃ pre fault post, events = pre ++ .init fault :: post ∧ .powerCycle ∉ post ∧ Writes fault

theorem not_configured_nil : ¬Configured [] := by
  rintro ⟨pre, fault, post, h, -⟩
  simp at h

/-- The last event of a run, or what has come before it, has written the configuration. -/
theorem configured_append_iff (events : List Event) (event : Event) :
    Configured (events ++ [event]) ↔
      Configured events ∧ event ≠ .powerCycle ∨ ∃ fault, event = .init fault ∧ Writes fault := by
  constructor
  · rintro ⟨pre, fault, post, h, hpost, hwrites⟩
    rcases List.eq_nil_or_concat post with rfl | ⟨post, last, rfl⟩
    · obtain ⟨-, hlast⟩ := List.append_inj' h rfl
      exact .inr ⟨fault, List.singleton_inj.mp hlast, hwrites⟩
    · have h' : events ++ [event] = (pre ++ .init fault :: post) ++ [last] := by simpa using h
      obtain ⟨hevents, hlast⟩ := List.append_inj' h' rfl
      obtain rfl := List.singleton_inj.mp hlast
      simp at hpost
      exact .inl ⟨⟨pre, fault, post, hevents, hpost.1, hwrites⟩, Ne.symm hpost.2⟩
  · rintro (⟨⟨pre, fault, post, rfl, hpost, hwrites⟩, hne⟩ | ⟨fault, rfl, hwrites⟩)
    · exact ⟨pre, fault, post ++ [event], by simp, by simp [hpost, Ne.symm hne], hwrites⟩
    · exact ⟨events, fault, [], rfl, by simp, hwrites⟩

/-- An initialisation without faults succeeds if and only if the chip resets itself at its configuration, or
is configured to its default, or no initialisation has configured it since its last power cycle. -/
theorem init_succeeds_iff (device : Ina219Device) (events : List Event) :
    (initialise device (after device events) fun _ => none).1 = .ok () ↔
      (ntohs device.configRegVal).getLsbD 15 = true ∨ ntohs device.configRegVal = defaultConfigRegVal ∨
        ¬Configured events := by
  rw [initialise_ok_iff, ← or_assoc]
  change _ ↔ KeepsDefault device ∨ _
  induction events using List.reverseRec with
  | nil => simp [after, powerOn, not_configured_nil]
  | append_singleton events event ih =>
      rw [after, run_append, ← after, run_cons, run_nil, configured_append_iff]
      cases event with
      | powerCycle => simp [step, powerOn]
      | init fault =>
          rw [step, config_initialise, ih]
          by_cases hkeeps : KeepsDefault device <;> by_cases hwrites : Writes fault <;> simp [hkeeps, hwrites]

end Ina219

end OpxSdi.Power
