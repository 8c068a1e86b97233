import OpxSdi.Common.StdError
import OpxSdi.Lib.Checked
import OpxSdi.Lib.Device

/-!
# A media cage

The pin groups around a QSFP or SFP cage, each with its bus lock, the module in the cage and the private
data of the QSFP driver. The log is not in the source: it records the locks that a call takes and gives
back, its transactions with the module, and when it holds the module selected.
-/

namespace OpxSdi.Media

open Lib

inductive PinGroup
  | modPres | muxSel | modSel | modLpmode | modReset | modTxControl | modSfpTxFault | modSfpRxLos
  deriving DecidableEq, Repr

inductive Event
  | acquire (g : PinGroup)
  | release (g : PinGroup)
  | selected
  | deselected
  | transaction
  deriving DecidableEq, Repr

/-! ## The module -/

/-- Bytes 128 to 255 are those of the page that byte 127 selects. -/
structure Eeprom where
  lower : Byte → Byte
  upper : (page offset : Byte) → Byte

namespace Eeprom

def pageSelectByteOffset : Byte := 127

def read (e : Eeprom) (offset : Byte) : Byte :=
  if offset < 128 then e.lower offset else e.upper (e.lower pageSelectByteOffset) offset

def write (e : Eeprom) (offset value : Byte) : Eeprom :=
  if offset < 128 then { e with lower := Function.update e.lower offset value }
  else
    let page := e.lower pageSelectByteOffset
    { e with upper := Function.update e.upper page (Function.update (e.upper page) offset value) }

end Eeprom

/-! ## The private data of the QSFP driver -/

inductive MediaType
  | mediaDefault | qsaAdapter
  deriving DecidableEq, Repr

inductive QsfpCategory
  | qsfp | qsfpplus | qsfp28 | qsfpdd
  deriving DecidableEq, Repr

/-- The members of `qsfp_device_t` that the calls change. -/
structure QsfpDevice where
  modType : MediaType
  sfpDevice : Option Nat
  modCategory : QsfpCategory
  maxModulePowerMw : Int
  softwareControlledPowerMode : Bool
  eepromVersion : Byte
  deriving DecidableEq, Repr

/-- `calloc` in the registration of the driver. -/
def QsfpDevice.create : QsfpDevice := ⟨.mediaDefault, none, .qsfp, 0, false, 0⟩

/-! ## The cage -/

structure Cage where
  pins : PinGroup → BitVec 32
  /-- The module, by I2C address. -/
  slaves : BitVec 16 → Eeprom
  priv : QsfpDevice
  /-- The SFP devices that have been allocated and not freed, and the next one. -/
  sfpDevices : List Nat
  nextSfpDevice : Nat
  log : List Event

abbrev M := Device.M PinGroup Errno Cage

def note (e : Event) : M Unit := Device.internal fun c => ((), { c with log := c.log ++ [e] })

def getPriv : M QsfpDevice := Device.internal fun c => (c.priv, c)

def modifyPriv (f : QsfpDevice → QsfpDevice) : M Unit :=
  Device.internal fun c => ((), { c with priv := f c.priv })

/-! ## Pin groups (`sdi_pin_group_bus_api.c`) -/

def pinGroupAcquireBus (g : PinGroup) : M Unit := do
  Device.lock g
  note (.acquire g)

def pinGroupReleaseBus (g : PinGroup) : M Unit := do
  Device.unlock g
  note (.release g)

def pinGroupReadLevel (g : PinGroup) : M (BitVec 32) := Device.access fun c => (c.pins g, c)

def pinGroupWriteLevel (g : PinGroup) (value : BitVec 32) : M Unit :=
  Device.access fun c => ((), { c with pins := Function.update c.pins g value })

/-! ## Transactions with the module -/

def smbusReadByte (addr : BitVec 16) (cmd : BitVec 32) : M Byte := do
  note .transaction
  Device.access fun c => ((c.slaves addr).read (cmd.setWidth 8), c)

def smbusWriteByte (addr : BitVec 16) (cmd : BitVec 32) (buffer : Byte) : M Unit := do
  note .transaction
  Device.access fun c =>
    ((), { c with slaves := Function.update c.slaves addr ((c.slaves addr).write (cmd.setWidth 8) buffer) })

def smbusReadWord (addr : BitVec 16) (cmd : BitVec 32) : M (BitVec 16) := do
  note .transaction
  Device.access fun c =>
    let e := c.slaves addr
    ((e.read (cmd.setWidth 8 + 1) ++ e.read (cmd.setWidth 8) : BitVec (8 + 8)), c)

def smbusReadMultiByte (addr : BitVec 16) : (cmd : BitVec 32) → (byteCount : Nat) → M (List Byte)
  | _, 0 => pure []
  | cmd, byteCount + 1 => do
      let b ← smbusReadByte addr cmd
      let bs ← smbusReadMultiByte addr (cmd + 1) byteCount
      pure (b :: bs)

def smbusWriteMultiByte (addr : BitVec 16) : (cmd : BitVec 32) → (buffer : List Byte) → M Unit
  | _, [] => pure ()
  | cmd, b :: bs => do
      smbusWriteByte addr cmd b
      smbusWriteMultiByte addr (cmd + 1) bs

/-! ## Selecting the module -/

/-- The selection pin groups of a device: `muxSelHdl` and `modSelHdl` say that the handle is not
`NULL`. -/
structure Selection where
  muxSelHdl : Bool
  muxSelValue : BitVec 32
  modSelHdl : Bool
  modSelValue : BitVec 32

namespace Selection

def selectMux (s : Selection) : M Unit :=
  if s.muxSelHdl then do
    pinGroupAcquireBus .muxSel
    let rc ← Device.attempt (pinGroupWriteLevel .muxSel s.muxSelValue)
    match rc with
    | .ok () => pure ()
    | .error e => do
        pinGroupReleaseBus .muxSel
        Device.fail e
  else
    pure ()

def releaseMux (s : Selection) : M Unit :=
  if s.muxSelHdl then pinGroupReleaseBus .muxSel else pure ()

def selectMod (s : Selection) : M Unit :=
  if s.modSelHdl then do
    let rc ← Device.attempt (pinGroupAcquireBus .modSel)
    match rc with
    | .error e => do
        s.releaseMux
        Device.fail e
    | .ok () => do
        let rc ← Device.attempt (pinGroupWriteLevel .modSel s.modSelValue)
        match rc with
        | .ok () => pure ()
        | .error e => do
            s.releaseMux
            pinGroupReleaseBus .modSel
            Device.fail e
  else
    pure ()

/-- `sdi_qsfp_module_select` and `sdi_sfp_module_select` -/
def moduleSelect (s : Selection) : M Unit := do
  s.selectMux
  s.selectMod
  note .selected

/-- `sdi_qsfp_module_deselect` and `sdi_sfp_module_deselect` -/
def moduleDeselect (s : Selection) : M Unit := do
  note .deselected
  s.releaseMux
  if s.modSelHdl then pinGroupReleaseBus .modSel else pure ()

/-- A call that selects the module, and deselects it whatever the return code is. -/
def withModule {α : Type} (s : Selection) (body : M α) : M α := do
  s.moduleSelect
  let rc ← Device.attempt body
  s.moduleDeselect
  Device.ofResult rc

end Selection

/-- `sdi_media_eeprom_addr_t` -/
structure EepromAddr where
  deviceAddr : Int
  page : Int
  offset : BitVec 32

def mediaDeviceAddrAuto : Int := -1
def mediaPageSelectIgnore : Int := -1
def mediaMinimumPage : Int := 0
def mediaPageDefault : Int := 0
def mediaPage16 : Int := 16
def mediaNoMaxPowerDefined : Int := -1

end OpxSdi.Media
