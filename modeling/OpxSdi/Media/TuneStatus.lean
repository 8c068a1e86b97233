import OpxSdi.Lib.Observed
import OpxSdi.Media.Tuning

/-!
# The status of a tuning

`sdi_sfp_wavelength_set` on a module that goes on while it is tuned: it may show another status at each
read. The record of a call has its reads of the status, and how its other steps end.
-/

namespace OpxSdi.Media

open Lib

inductive TuneSeen
  /-- The test for tuning -/
  | supported (rc : Except Errno Bool)
  /-- The write of the channel or of the wavelength registers -/
  | tuned (rc : Except Errno Unit)
  | statusRead (offset : BitVec 32) (rc : Except Errno Byte)

abbrev TuneM := Device.M PinGroup Errno (Cage × List TuneSeen)

/-- What the module has become at each read of its status -/
abbrev Evolution := (read : Nat) → Eeprom → Eeprom

namespace Sfp

variable (evolve : Evolution)

def becomes (n : Nat) : M Unit := Device.internal fun c =>
  ((), { c with slaves := Function.update c.slaves sfpI2cAddr (evolve n (c.slaves sfpI2cAddr)) })

/-- Read number `n` of the status -/
def statusRead (n : Nat) (offset : BitVec 32) : TuneM Byte :=
  Device.observed (fun _ => .statusRead offset) do
    becomes evolve n
    smbusReadByte sfpI2cAddr offset

/-- `pollTuneSetStatus` from read number `n` on -/
def pollTuneSetStatusSeen : (polls : Nat) → (n : Nat) → (unlatched latched : Byte) → (rc : Except Errno Byte) →
    TuneM (Except Errno Byte × Bool)
  | 0, _, _, _, rc => pure (rc, false)
  | polls + 1, n, unlatched, latched, _ => do
      let rc ← Device.attempt (statusRead evolve n tuneTypeSupportOffset)
      let unlatched := rc.toOption.getD unlatched
      let rc ← Device.attempt (statusRead evolve (n + 1) tuneTypeSupportOffset)
      let latched := rc.toOption.getD latched
      if testUnlatchedStatus unlatched && testLatchedStatus latched then pure (rc, true)
      else pollTuneSetStatusSeen polls (n + 2) unlatched latched rc

/-- `sdi_sfp_tune_set_status_get`: the return code and the status -/
def tuneSetStatusGetSeen : TuneM (Except Errno Byte × Bool) :=
  pollTuneSetStatusSeen evolve (wavelengthSetTimeoutMs / wavelengthSetPollPeriodMs) 0 (~~~0) (~~~0) (.ok 0)

def tuneSeen (value : Float32) : TuneM Unit := do
  let tuneCap ← Device.unobserved getTunableCapabilities
  Device.observed (fun _ => .tuned) (setTunableModuleByWavelength tuneCap value)
  let r ← tuneSetStatusGetSeen evolve
  let _ ← Device.ofResult r.1
  if r.2 then pure () else Device.fail .notOk

def wavelengthSetHeld (s : Sfp) (value : Float32) : TuneM Unit := do
  let status ← Device.observed (fun _ => .supported) s.isWavelengthTuneSupported
  if status = false then pure ()
  else do
    Device.unobserved (pageSelect tunablePage)
    tuneSeen evolve value
    Device.unobserved (pageSelect defaultPage)

/-- `sdi_sfp_wavelength_set` -/
def wavelengthSetSeen (s : Sfp) (value : Float32) : TuneM Unit :=
  if value.toFloat ≤ 0.0 then Device.fail .einval
  else do
    Device.unobserved s.sel.moduleSelect
    let rc ← Device.attempt (wavelengthSetHeld evolve s value)
    Device.unobserved s.sel.moduleDeselect
    Device.ofResult rc

end Sfp

end OpxSdi.Media
