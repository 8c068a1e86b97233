import OpxSdi.Lib.Observed
import OpxSdi.Media.Qsfp

/-!
# The type of a QSA adapter

`sdi_qsfp_qsa_adapter_type_get` reads the identification of an adapter while its module is in reset. The
record of a call has its writes of the reset pins and its reads of the identification.
-/

namespace OpxSdi.Media

open Lib

/-- `sdi_qsa_adapter_type_t` -/
inductive QsaAdapterType
  | none | unknown | qsa | qsa28
  deriving DecidableEq, Repr

inductive Seen
  /-- A write of the reset pins, and how it ends. -/
  | resetWrite (value : BitVec 32) (rc : Except Errno Unit)
  /-- A read of the identification with these reset pins, and how it ends. -/
  | ouiRead (pins : BitVec 32) (rc : Except Errno (List Byte))

abbrev ObservedM := Device.M PinGroup Errno (Cage × List Seen)

namespace Qsfp

def qsa28OuiOffset : BitVec 32 := 64
def qsa28OuiLen : Nat := 3
def qsa28Oui : List Byte := [0x00, 0x02, 0xC9]

/-- The part of a reset that holds the bus -/
def resetHeld (q : Qsfp) (reset : Bool) : ObservedM Unit := do
  let value ← Device.unobserved (pinGroupReadLevel .modReset)
  let value := stdBit value q.modResetBitmask reset
  Device.observed (fun _ => Seen.resetWrite value) (pinGroupWriteLevel .modReset value)

/-- `sdi_qsfp_module_reset` -/
def moduleReset (q : Qsfp) (reset : Bool) : ObservedM Unit := do
  Device.unobserved (pinGroupAcquireBus .modReset)
  let rc ← Device.attempt (q.resetHeld reset)
  Device.unobserved (pinGroupReleaseBus .modReset)
  Device.ofResult rc

def readQsa28Oui (q : Qsfp) : M (List Byte) := smbusReadMultiByte q.i2cAddr qsa28OuiOffset qsa28OuiLen

/-- The type that an identification stands for -/
def qsaAdapterOf (buf : List Byte) : QsaAdapterType := if buf = qsa28Oui then .qsa28 else .qsa

/-- What the call does with the module in reset: read the identification, and clear the reset -/
def qsaAdapterTypeInReset (q : Qsfp) : ObservedM (Except Errno Unit × QsaAdapterType) := do
  let selected ← Device.attempt (Device.unobserved q.sel.moduleSelect)
  match selected with
  | .error e => pure (.error e, .unknown)
  | .ok () => do
      let buf ← Device.attempt (Device.observed (fun c => Seen.ouiRead (c.pins .modReset)) q.readQsa28Oui)
      Device.unobserved q.sel.moduleDeselect
      let rc ← Device.attempt (q.moduleReset false)
      pure (rc, match buf with
        | .ok buf => qsaAdapterOf buf
        | .error _ => .unknown)

/-- `sdi_qsfp_qsa_adapter_type_get`: the return code and `*qsa_adapter` -/
def qsaAdapterTypeGet (q : Qsfp) : ObservedM (Except Errno Unit × QsaAdapterType) := do
  let priv ← Device.unobserved getPriv
  if priv.modType ≠ .qsaAdapter then pure (.ok (), .none)
  else do
    -- A reset that fails is logged, and the next assignment to `rc` overwrites it.
    let _ ← Device.attempt (q.moduleReset true)
    q.qsaAdapterTypeInReset

end Qsfp

end OpxSdi.Media
