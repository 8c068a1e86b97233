import OpxSdi.Media.Cage

/-!
# The SFP driver

`sdi_sfp_read_generic`, `sdi_sfp_write_generic` and `sdi_sfp_parameter_get`. A parameter of a tunable
module is read at the second I2C address, on a page of its own.
-/

namespace OpxSdi.Media

open Lib

inductive MediaParamType
  | wavelength | wavelengthTolerance | maxCaseTemp | ccBase | ccExt | connector | encodingType | nmBitrate
  | identifier | extIdentifier | lengthSmfKm | lengthOm1 | lengthOm2 | lengthOm3 | lengthCableAssembly
  | lengthSmf | options | enhancedOptions | diagMonType | deviceTech | maxBitrate | minBitrate
  | extComplianceCode | freeSideDevProp | tuneWavelengthPicoMeters
  deriving DecidableEq, Repr

structure Sfp where
  i2cAddr : BitVec 16
  sel : Selection

namespace Sfp

def options2Offset : BitVec 32 := 65
def tunableSupportBitmask : Byte := 1 <<< 6
def pageSelectByteOffset : BitVec 32 := 127
def wavelengthSetOffset : BitVec 32 := 146
def tunablePage : Byte := 2
def defaultPage : Byte := 0
def byteSize : Nat := 1
def wordSize : Nat := 2

/-- `sfp_i2c_addr` -/
def sfpI2cAddr : BitVec 16 := 0x51

/-- `param_reg_info`: offset and size -/
def paramRegInfo : MediaParamType → BitVec 32 × Nat
  | .wavelength => (60, wordSize)
  | .wavelengthTolerance => (0, 0)
  | .maxCaseTemp => (0, 0)
  | .ccBase => (63, byteSize)
  | .ccExt => (95, byteSize)
  | .connector => (2, byteSize)
  | .encodingType => (11, byteSize)
  | .nmBitrate => (12, byteSize)
  | .identifier => (0, byteSize)
  | .extIdentifier => (1, byteSize)
  | .lengthSmfKm => (14, byteSize)
  | .lengthOm1 => (17, byteSize)
  | .lengthOm2 => (16, byteSize)
  | .lengthOm3 => (19, byteSize)
  | .lengthCableAssembly => (18, byteSize)
  | .lengthSmf => (15, byteSize)
  | .options => (64, wordSize)
  | .enhancedOptions => (93, byteSize)
  | .diagMonType => (92, byteSize)
  | .deviceTech => (0, 0)
  | .maxBitrate => (66, byteSize)
  | .minBitrate => (67, byteSize)
  | .extComplianceCode => (36, byteSize)
  | .freeSideDevProp => (0, 0)
  | .tuneWavelengthPicoMeters => (wavelengthSetOffset, wordSize)

/-- `sdi_is_wavelength_tune_supported` -/
def isWavelengthTuneSupported (s : Sfp) : M Bool := do
  let buf ← smbusReadByte s.i2cAddr options2Offset
  pure (decide (buf &&& tunableSupportBitmask ≠ 0))

/-- `sdi_sfp_page_select` -/
def pageSelect (page : Byte) : M Unit := smbusWriteByte sfpI2cAddr pageSelectByteOffset page

/-- A word has its first byte at the top. -/
def readRegister (s : Sfp) (offset : BitVec 32) (size : Nat) : M (BitVec 32) :=
  if size = byteSize then do
    let byteBuf ← smbusReadByte s.i2cAddr offset
    pure (byteBuf.setWidth 32)
  else if size = wordSize then do
    let tempBuf ← smbusReadWord s.i2cAddr offset
    pure ((tempBuf.setWidth 8).setWidth 32 <<< 8 ||| (tempBuf >>> 8).setWidth 32)
  else
    Device.fail .einval

/-- The factor `0.05` is `1 / 20`; picometers are `1000` times as many. -/
def tunedWavelength (param : MediaParamType) (value : BitVec 32) : BitVec 32 :=
  if param = .tuneWavelengthPicoMeters then value * 50 else value / 20

/-- The wavelength of a tunable module. A failed read of it is a `return rc` that does not reach
`moduleDeselect`. -/
def tunedWavelengthGet (s : Sfp) (param : MediaParamType) : M (BitVec 32) := do
  let rc ← Device.attempt (pageSelect tunablePage)
  match rc with
  | .error e => do
      s.sel.moduleDeselect
      Device.fail e
  | .ok () => do
      let high ← smbusReadByte sfpI2cAddr wavelengthSetOffset
      let low ← smbusReadByte sfpI2cAddr (wavelengthSetOffset + 1)
      let rc ← Device.attempt (pageSelect defaultPage)
      s.sel.moduleDeselect
      Device.ofResult (rc.map fun _ => tunedWavelength param (high.setWidth 32 <<< 8 ||| low.setWidth 32))

/-- `sdi_sfp_parameter_get` -/
def parameterGet (s : Sfp) (param : MediaParamType) : M (BitVec 32) :=
  let (offset, size) := paramRegInfo param
  if offset = 0 ∧ size = 0 then Device.fail .eopnotsupp
  else do
    s.sel.moduleSelect
    let status ← Device.attempt
      (if param = .wavelength then s.isWavelengthTuneSupported else pure false)
    match status with
    | .error e => do
        s.sel.moduleDeselect
        Device.fail e
    | .ok tuneSupStatus =>
        if param = .tuneWavelengthPicoMeters ∨ tuneSupStatus = true then
          s.tunedWavelengthGet param
        else do
          let rc ← Device.attempt (s.readRegister offset size)
          s.sel.moduleDeselect
          Device.ofResult rc

/-- The address of a raw access: the module's own, or the one that the caller gives. -/
def address (i2cAddr : BitVec 16) (deviceAddr : Int) : BitVec 16 :=
  if deviceAddr = mediaDeviceAddrAuto then i2cAddr else BitVec.ofInt 16 deviceAddr

/-- `sdi_sfp_read_generic` and `sdi_sfp_write_generic`: the address is negative and not
`SDI_MEDIA_DEVICE_ADDR_AUTO` iff it is below it. -/
def accessGeneric {α : Type} (s : Sfp) (addr : EepromAddr) (transfer : BitVec 16 → M α) : M α :=
  if addr.deviceAddr < mediaDeviceAddrAuto then Device.fail .einval
  else do
    s.sel.moduleSelect
    let rc ← Device.attempt (transfer (address s.i2cAddr addr.deviceAddr))
    s.sel.moduleDeselect
    Device.ofResult rc

def readGeneric (s : Sfp) (addr : EepromAddr) (dataLen : Nat) : M (List Byte) := do
  Device.assert (0 < dataLen)
  s.accessGeneric addr fun address => smbusReadMultiByte address addr.offset dataLen

def writeGeneric (s : Sfp) (addr : EepromAddr) (data : List Byte) : M Unit := do
  Device.assert (0 < data.length)
  s.accessGeneric addr fun address => smbusWriteMultiByte address addr.offset data

end Sfp

end OpxSdi.Media
