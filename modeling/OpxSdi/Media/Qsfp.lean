import OpxSdi.Media.Sfp

/-!
# The QSFP driver

The initialisation of a module, its power class, its control pins and raw access to its memory. A QSFP
cage with an adapter in it is an SFP cage: the driver allocates an SFP device and hands the calls on.
-/

namespace OpxSdi.Media

open Lib

structure Qsfp where
  i2cAddr : BitVec 16
  sel : Selection
  modLpmodeBitmask : Fin 32
  modResetBitmask : Fin 32
  maxPortPowerMw : Int

namespace Qsfp

def identifierOffset : BitVec 32 := 0
def statusIndicatorOffset : BitVec 32 := 2
def flatMemBitOffset : Nat := 2
def powerClassControlOffset : BitVec 32 := 93
def pageSelectByteOffset : BitVec 32 := 127
def extIdentifierOffset : BitVec 32 := 129
def qsfp28DdEepromVersionOffset : BitVec 32 := 1
def qsfp28DdEepromVersion2 : Byte := 0x20
def qsfp28DdEepromVersion3 : Byte := 0x30
def qsfp28DdDatapathPowerupOffset : BitVec 32 := 92
def qsfp28DdDatapathPowerupOffsetRev3 : BitVec 32 := 128
def qsfp28DdDatapathPowerupValue : Byte := 0xff

/-- `STD_BIT_SET` and `STD_BIT_CLEAR` -/
def stdBit {w : Nat} (value : BitVec w) (bit : Nat) (state : Bool) : BitVec w :=
  if state then value ||| (1 : BitVec w) <<< bit else value &&& ~~~((1 : BitVec w) <<< bit)

/-! ## Pages -/

/-- `sdi_is_paging_supported` -/
def isPagingSupported (q : Qsfp) : M Bool := do
  let buf ← smbusReadByte q.i2cAddr statusIndicatorOffset
  pure (!buf.getLsbD flatMemBitOffset)

/-- `sdi_qsfp_page_select` -/
def pageSelect (q : Qsfp) (page : Int) : M Unit := do
  let buf ← smbusReadByte q.i2cAddr statusIndicatorOffset
  if buf.getLsbD flatMemBitOffset then
    Device.fail .enotsup
  else
    smbusWriteByte q.i2cAddr pageSelectByteOffset (BitVec.ofInt 8 page)

/-- Select the default page of a module with pages. A failed test for pages counts as none. -/
def defaultPageSelect (q : Qsfp) : M Unit := do
  let paging ← Device.attempt q.isPagingSupported
  match paging with
  | .ok true => q.pageSelect mediaPageDefault
  | _ => pure ()

/-! ## Power classes -/

/-- `sdi_is_software_controlled_power_mode_supported` -/
def isSoftwareControlledPowerModeSupported (q : Qsfp) : M Bool := do
  let _ ← Device.attempt q.defaultPageSelect
  let buf ← smbusReadByte q.i2cAddr extIdentifierOffset
  pure (decide (buf &&& 0x03 ≠ 0))

/-- The power in milliwatts that an extended identifier stands for. The lower two bits override the upper
two. -/
def powerOf (buf : Byte) : Int :=
  match (buf &&& 0x03).toNat with
  | 1 => 4000
  | 2 => 4500
  | 3 => 5000
  | _ => match ((buf &&& 0xC0) >>> 6).toNat with
    | 0 => 1500
    | 1 => 2000
    | 2 => 2500
    | _ => 3500

def softCtrlOf (buf : Byte) : Bool := decide (buf &&& 0x03 ≠ 0)

/-- `sdi_qsfp_media_max_power_get`: the maximal power and whether software controls it. A failed read
returns without `moduleDeselect`. -/
def mediaMaxPowerGet (q : Qsfp) : M (Int × Bool) := do
  let priv ← getPriv
  if priv.modType = .qsaAdapter then
    Device.fail .enotsup
  else do
    q.sel.moduleSelect
    let buf ← smbusReadByte q.i2cAddr extIdentifierOffset
    q.sel.moduleDeselect
    pure (powerOf buf, softCtrlOf buf)

/-- The power class control register for high power (`state`) or low power. -/
def powerClassControl (buf : Byte) (state : Bool) : Byte :=
  stdBit (stdBit (stdBit buf 2 state) 1 (!state)) 0 true

def setPowerClassControl (q : Qsfp) (state : Bool) : M Unit := do
  let featureSup ← q.isSoftwareControlledPowerModeSupported
  if featureSup then
    let buf ← smbusReadByte q.i2cAddr powerClassControlOffset
    smbusWriteByte q.i2cAddr powerClassControlOffset (powerClassControl buf state)
  else
    Device.fail .enotsup

/-- `sdi_qsfp_media_force_power_mode_set` -/
def mediaForcePowerModeSet (q : Qsfp) (state : Bool) : M Unit := do
  let priv ← getPriv
  if priv.modType = .qsaAdapter then
    Device.fail .enotsup
  else do
    q.sel.moduleSelect
    let rc ← Device.attempt (q.setPowerClassControl state)
    q.sel.moduleDeselect
    Device.ofResult rc

/-! ## Initialisation -/

/-- `sdi_qsfp_get_category` -/
def getCategory (identifier : Byte) : QsfpCategory :=
  if identifier = 0x0d then .qsfpplus
  else if identifier = 0x11 then .qsfp28
  else if identifier = 0x18 then .qsfpdd
  else .qsfp

def IsQsaIdentifier (identifier : Byte) : Prop := identifier = 0x03 ∨ identifier = 0x0b

instance : DecidablePred IsQsaIdentifier := fun _ => inferInstanceAs (Decidable (_ ∨ _))

def sfp (q : Qsfp) : Sfp := ⟨q.i2cAddr, q.sel⟩

/-- Allocate an SFP device; the one that `sfp_device` names is not freed. -/
def allocSfpDevice : M Unit := Device.internal fun c =>
  ((), { c with
    priv := { c.priv with sfpDevice := some c.nextSfpDevice }
    sfpDevices := c.nextSfpDevice :: c.sfpDevices
    nextSfpDevice := c.nextSfpDevice + 1 })

/-- What a removal does: free the SFP device of an adapter. -/
def removeModule : M Unit := Device.internal fun c =>
  ((), if c.priv.modType = .qsaAdapter then
      { c with
        priv := { c.priv with modType := .mediaDefault, sfpDevice := none }
        sfpDevices := c.sfpDevices.filter fun s => c.priv.sfpDevice ≠ some s }
    else c)

/-- Power up the datapath of a QSFP28-DD module. The result is the last one that the code assigns to
`rc`. -/
def datapathPowerup (q : Qsfp) : M Unit := do
  let first ← Device.attempt (smbusReadByte q.i2cAddr qsfp28DdEepromVersionOffset)
  let eepromVersion := first.toOption.getD 0
  modifyPriv fun p => { p with eepromVersion := eepromVersion }
  let rev3 := eepromVersion = qsfp28DdEepromVersion3
  let offset := if rev3 then qsfp28DdDatapathPowerupOffsetRev3 else qsfp28DdDatapathPowerupOffset
  let page := if rev3 then mediaPage16 else mediaPageDefault
  let second ← Device.attempt (smbusReadByte q.i2cAddr qsfp28DdEepromVersionOffset)
  -- A read that fails leaves the version of the first one.
  if qsfp28DdEepromVersion2 ≤ second.toOption.getD eepromVersion then
    let _ ← Device.attempt (q.pageSelect page)
    let _ ← Device.attempt (smbusWriteByte q.i2cAddr offset qsfp28DdDatapathPowerupValue)
    let datapathState ← Device.attempt (smbusReadByte q.i2cAddr offset)
    let _ ← Device.attempt (q.pageSelect mediaPageDefault)
    Device.ofResult (datapathState.map fun _ => ())
  else
    Device.ofResult (second.map fun _ => ())

/-- Store the power class: the maximal power and whether software controls it. -/
def storePower (info : Int × Bool) : M Unit :=
  modifyPriv fun p => { p with maxModulePowerMw := info.1, softwareControlledPowerMode := info.2 }

/-- Read the power class of a QSFP+ or QSFP28 module and put it in low power mode. -/
def moduleInfoUpdate (q : Qsfp) : M Unit := do
  let power ← Device.attempt q.mediaMaxPowerGet
  match power with
  | .error _ => storePower (mediaNoMaxPowerDefined, false)
  | .ok info => do
      storePower info
      if info.2 then
        let _ ← Device.attempt (q.mediaForcePowerModeSet false)

/-- The initialisation once the kind of the module is known. -/
def initByKind (q : Qsfp) (identifier : Byte) : M Unit := do
  let priv ← getPriv
  if priv.modType = .qsaAdapter then do
    allocSfpDevice
    q.sel.moduleDeselect
  else do
    let rc ← Device.attempt q.defaultPageSelect
    if identifier = 0x18 then do
      let rc ← Device.attempt q.datapathPowerup
      q.sel.moduleDeselect
      Device.ofResult rc
    else do
      q.sel.moduleDeselect
      q.moduleInfoUpdate
      Device.ofResult rc

/-- An identifier of an adapter makes the cage an adapter; no other identifier makes it a QSFP cage
again. -/
def identify (identifier : Byte) : M Unit := modifyPriv fun p =>
  { p with
    modType := if IsQsaIdentifier identifier then .qsaAdapter else p.modType
    modCategory := getCategory identifier }

/-- `sdi_qsfp_module_init` -/
def moduleInit (q : Qsfp) (pres : Bool) : M Unit := do
  modifyPriv fun p => { p with eepromVersion := 0 }
  if pres = false then
    removeModule
  else do
    q.sel.moduleSelect
    let read ← Device.attempt (smbusReadByte q.i2cAddr identifierOffset)
    match read with
    | .error e => do
        q.sel.moduleDeselect
        Device.fail e
    | .ok identifier => do
        identify identifier
        q.initByKind identifier

/-! ## Module control -/

inductive ModuleCtrlType
  | lpMode | reset
  deriving DecidableEq, Repr

/-- Set or clear one bit of a pin group under its lock. -/
def setPin (g : PinGroup) (bit : Fin 32) (enable : Bool) : M Unit := do
  pinGroupAcquireBus g
  let rc ← Device.attempt (do
    let value ← pinGroupReadLevel g
    pinGroupWriteLevel g (stdBit value bit enable))
  pinGroupReleaseBus g
  Device.ofResult rc

/-- `sdi_qsfp_module_control` -/
def moduleControl (q : Qsfp) (ctrlType : ModuleCtrlType) (enable : Bool) : M Unit := do
  let priv ← getPriv
  if priv.modType = .qsaAdapter then
    Device.fail .eopnotsupp
  else match ctrlType with
    | .lpMode =>
        if q.maxPortPowerMw < priv.maxModulePowerMw ∧ enable = false then
          Device.fail .eopnotsupp
        else do
          if priv.softwareControlledPowerMode then
            -- The result is logged; the next assignment to `rc` overwrites it.
            let _ ← Device.attempt (q.mediaForcePowerModeSet (!enable))
          setPin .modLpmode q.modLpmodeBitmask enable
    | .reset => setPin .modReset q.modResetBitmask enable

/-! ## Raw access -/

/-- The transfer on its page, then the default page. The last page selection decides the return code, so
that a transfer that fails can return with success and without its data. -/
def transferOnPage {α : Type} (q : Qsfp) (page : Int) (pagingSupport : Bool) (transfer : M α) :
    M (Option α) := do
  if pagingSupport then
    let selected ← Device.attempt (q.pageSelect page)
    match selected with
    | .error .enotsup => Device.fail .enotsup
    | .error _ => do
        q.pageSelect mediaPageDefault
        pure none
    | .ok () => do
        let rc ← Device.attempt transfer
        q.pageSelect mediaPageDefault
        pure rc.toOption
  else
    let a ← transfer
    pure (some a)

/-- `sdi_qsfp_read_generic` and `sdi_qsfp_write_generic` -/
def accessGeneric {α : Type} (q : Qsfp) (addr : EepromAddr) (transfer : BitVec 16 → M α) :
    M (Option α) := do
  let priv ← getPriv
  if priv.modType = .qsaAdapter then do
    Device.assert (priv.sfpDevice ≠ none)
    let a ← q.sfp.accessGeneric addr transfer
    pure (some a)
  else if addr.deviceAddr < mediaDeviceAddrAuto then
    Device.fail .einval
  else if addr.page < mediaPageSelectIgnore then
    Device.fail .einval
  else do
    -- The test for pages is a transaction with a module that is not selected yet.
    let pagingSupport ←
      (if addr.page = mediaPageSelectIgnore then pure (.ok false) else Device.attempt q.isPagingSupported)
    q.sel.moduleSelect
    let rc ← Device.attempt
      (q.transferOnPage addr.page (pagingSupport.toOption.getD false)
        (transfer (Sfp.address q.i2cAddr addr.deviceAddr)))
    q.sel.moduleDeselect
    Device.ofResult rc

def readGeneric (q : Qsfp) (addr : EepromAddr) (dataLen : Nat) : M (Option (List Byte)) := do
  Device.assert (0 < dataLen)
  q.accessGeneric addr fun address => smbusReadMultiByte address addr.offset dataLen

def writeGeneric (q : Qsfp) (addr : EepromAddr) (data : List Byte) : M (Option Unit) := do
  Device.assert (0 < data.length)
  q.accessGeneric addr fun address => smbusWriteMultiByte address addr.offset data

end Qsfp

end OpxSdi.Media
