import OpxSdi.Media.Qsfp
import OpxSdi.Lib.Run

/-!
# Balanced calls

A call is balanced if it returns with the locks that were held at its start, gives each lock back as often
as it takes it, and makes its transactions while it holds the module selected. The conditions say, in terms
of the failures to come and the memory of the module, when a call is not.
-/

namespace OpxSdi.Media

open Lib

abbrev State := Device PinGroup Errno Cage

/-- Every transaction falls into a selection; `b` says that the log starts in one. -/
def InWindow : (b : Bool) → List Event → Prop
  | _, [] => True
  | _, .selected :: es => InWindow true es
  | _, .deselected :: es => InWindow false es
  | b, .transaction :: es => b = true ∧ InWindow b es
  | b, .acquire _ :: es => InWindow b es
  | b, .release _ :: es => InWindow b es

/-! ## Calls -/

inductive Call
  | moduleInit (pres : Bool)
  | mediaMaxPowerGet
  | readGeneric (addr : EepromAddr) (dataLen : { n : Nat // 0 < n })
  | writeGeneric (addr : EepromAddr) (data : { bs : List Byte // 0 < bs.length })
  | sfpParameterGet (s : Sfp) (param : MediaParamType)

def Call.exec (q : Qsfp) : Call → M Unit
  | .moduleInit pres => q.moduleInit pres
  | .mediaMaxPowerGet => do
      let _ ← q.mediaMaxPowerGet
      pure ()
  | .readGeneric addr dataLen => do
      let _ ← q.readGeneric addr dataLen.val
      pure ()
  | .writeGeneric addr data => do
      let _ ← q.writeGeneric addr data.val
      pure ()
  | .sfpParameterGet s param => do
      let _ ← s.parameterGet param
      pure ()

/-- A call and the memory of the module that it finds in the cage. -/
structure Input where
  slaves : BitVec 16 → Eeprom
  call : Call

def insert (d : State) (slaves : BitVec 16 → Eeprom) : State :=
  { d with hw := { d.hw with slaves := slaves } }

def Input.out (q : Qsfp) (d : State) (i : Input) : Except (Halt Errno) Unit × State :=
  (i.call.exec q).out (insert d i.slaves)

def step (q : Qsfp) (d : State) (i : Input) : State := (i.out q d).2

structure Balanced (q : Qsfp) (d : State) (i : Input) : Prop where
  returns : ∀ h, (i.out q d).1 = .error h → ∃ e, h = .error e
  held_eq : (step q d i).held = d.held
  log : ∃ es, (step q d i).hw.log = d.hw.log ++ es ∧ InWindow false es ∧
    ∀ g, es.count (.acquire g) = es.count (.release g)

/-! ## Conditions -/

namespace Selection

def HasLock (s : Selection) : Prop := s.muxSelHdl = true ∨ s.modSelHdl = true

def ops (s : Selection) : Nat := (if s.muxSelHdl then 2 else 0) + if s.modSelHdl then 2 else 0

/-- The selection that starts with operation number `t` succeeds. -/
def SucceedsAt (s : Selection) (fault : Nat → Option Errno) (t : Nat) : Prop :=
  ∀ i < s.ops, fault (t + i) = none

instance (s : Selection) (fault : Nat → Option Errno) (t : Nat) : Decidable (s.SucceedsAt fault t) :=
  inferInstanceAs (Decidable (∀ i < s.ops, fault (t + i) = none))

/-- The selection that starts with operation number `t` succeeds, and the read after it fails. -/
def ReadFailsAt (s : Selection) (fault : Nat → Option Errno) (t : Nat) : Prop :=
  s.SucceedsAt fault t ∧ fault (t + s.ops) ≠ none

instance (s : Selection) (fault : Nat → Option Errno) (t : Nat) : Decidable (s.ReadFailsAt fault t) :=
  inferInstanceAs (Decidable (_ ∧ _))

end Selection

def Eeprom.FlatMem (e : Eeprom) : Prop := (e.read 2).getLsbD 2 = true

instance (e : Eeprom) : Decidable e.FlatMem := inferInstanceAs (Decidable (_ = true))

/-- The transactions of the selection of the default page that starts with operation number `t`. -/
def defaultPageOps (e : Eeprom) (fault : Nat → Option Errno) (t : Nat) : Nat :=
  if fault t ≠ none ∨ e.FlatMem then 1
  else if fault (t + 1) ≠ none then 2
  else 3

def Qsfp.Identifies (q : Qsfp) (d : State) : Prop :=
  q.sel.SucceedsAt d.fault d.time ∧ d.fault (d.time + q.sel.ops) = none

/-- The initialisation of a module that is neither an adapter nor a QSFP28-DD module fails to read its
power class. -/
def Qsfp.PowerReadFails (q : Qsfp) (d : State) (e : Eeprom) : Prop :=
  let paged := d.time + q.sel.ops + 1
  d.hw.priv.modType ≠ .qsaAdapter ∧ ¬ Qsfp.IsQsaIdentifier (e.read 0) ∧ e.read 0 ≠ 0x18 ∧
    q.sel.ReadFailsAt d.fault (paged + defaultPageOps e d.fault paged)

/-- The read of the wavelength of a tunable module fails once its page is selected. -/
def Sfp.WavelengthReadFails (s : Sfp) (d : State) (e : Eeprom) (param : MediaParamType) : Prop :=
  let start := d.time + s.sel.ops
  let page := if param = .wavelength then start + 1 else start
  s.sel.SucceedsAt d.fault d.time ∧
    (param = .tuneWavelengthPicoMeters ∨
      param = .wavelength ∧ d.fault start = none ∧ (e.read 65 &&& Sfp.tunableSupportBitmask) ≠ 0) ∧
    d.fault page = none ∧ (d.fault (page + 1) ≠ none ∨ d.fault (page + 2) ≠ none)

/-- The call leaves no lock behind and makes no transaction with a module that is not selected. -/
def KeepsBalance (q : Qsfp) (d : State) (i : Input) : Prop :=
  match i.call with
  | .moduleInit pres =>
      ¬ (q.sel.HasLock ∧ pres = true ∧ q.Identifies d ∧ q.PowerReadFails d (i.slaves q.i2cAddr))
  | .mediaMaxPowerGet =>
      ¬ (q.sel.HasLock ∧ d.hw.priv.modType ≠ .qsaAdapter ∧ q.sel.ReadFailsAt d.fault d.time)
  | .readGeneric addr _ => d.hw.priv.modType = .qsaAdapter ∨ addr.deviceAddr < -1 ∨ addr.page < 0
  | .writeGeneric addr _ => d.hw.priv.modType = .qsaAdapter ∨ addr.deviceAddr < -1 ∨ addr.page < 0
  | .sfpParameterGet s param =>
      ¬ (s.sel.HasLock ∧ s.WavelengthReadFails d (i.slaves s.i2cAddr) param)

/-! ## A cage -/

/-- A cage behind a multiplexer. -/
def muxedCage : Qsfp := ⟨0x50, ⟨true, 1, false, 0⟩, 0, 1, 3500⟩

/-- A module with one page and this identifier. -/
def moduleWith (identifier : Byte) : BitVec 16 → Eeprom :=
  fun _ => ⟨Function.update (fun _ => 0) 0 identifier, fun _ _ => 0⟩

/-- The state after the registration of the driver. -/
def registered (fault : Nat → Option Errno) : State :=
  ⟨fun _ => false, fault, 0, ⟨fun _ => 0, moduleWith 0, .create, [], 0, []⟩⟩

end OpxSdi.Media
