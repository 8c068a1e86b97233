import OpxSdi.Media.TxControl

/-!
# The presence of a sub-port of a QSFP28-DD

`sdi_qsfp_parameter_get`, `sdi_qsfp_presence_get` and `sdi_qsfp28_dd_presence_get`. A sub-port of a rank other
than 0 is there only if the identifier of the module is that of a double-density module.
-/

namespace OpxSdi.Media

open Lib

namespace Qsfp

/-! ## Parameters -/

def byteSize : Nat := 1
def wordSize : Nat := 2
def doubleWordSize : Nat := 4
def wavelengthDivider : BitVec 32 := 20
def wavelengthToleranceDivider : BitVec 32 := 200
def mediaRxPwrOma : BitVec 32 := 0
def mediaRxPwrAvg : BitVec 32 := 1
def r3LaneAssignmentOffset : BitVec 32 := 89
def r3LengthCableAssemblyOffset : BitVec 32 := 202

/-- `param_reg_info`: offset and size -/
def paramRegInfo : MediaParamType → BitVec 32 × Nat
  | .wavelength => (186, wordSize)
  | .wavelengthTolerance => (188, wordSize)
  | .maxCaseTemp => (190, byteSize)
  | .ccBase => (191, byteSize)
  | .ccExt => (223, byteSize)
  | .connector => (130, byteSize)
  | .encodingType => (139, byteSize)
  | .nmBitrate => (140, byteSize)
  | .identifier => (128, byteSize)
  | .extIdentifier => (129, byteSize)
  | .lengthSmfKm => (142, byteSize)
  | .lengthOm1 => (145, byteSize)
  | .lengthOm2 => (144, byteSize)
  | .lengthOm3 => (143, byteSize)
  | .lengthCableAssembly => (146, byteSize)
  | .lengthSmf => (0, 0)
  | .options => (192, doubleWordSize)
  | .enhancedOptions => (221, byteSize)
  | .diagMonType => (220, byteSize)
  | .deviceTech => (147, byteSize)
  | .maxBitrate => (0, 0)
  | .minBitrate => (0, 0)
  | .extComplianceCode => (0, 0)
  | .freeSideDevProp => (113, byteSize)
  | .tuneWavelengthPicoMeters => (0, 0)

/-- `param_reg_info_qsfp28_dd_r3`, which has no entry for the last parameter -/
def paramRegInfoQsfp28DdR3 : MediaParamType → Option (BitVec 32 × Nat)
  | .connector => some (203, byteSize)
  | .identifier => some (0, byteSize)
  | .lengthCableAssembly => some (r3LengthCableAssemblyOffset, byteSize)
  | .tuneWavelengthPicoMeters => none
  | _ => some (0, 0)

/-- `sdi_convert_length_code_to_length`, rounded to an integer -/
def convertLengthCodeToLength (lenCode : Byte) : Nat :=
  (lenCode &&& 0x3f).toNat * 10 ^ ((lenCode &&& 0xc0) >>> 6).toNat / 10

/-- The value of a parameter of one byte -/
def byteParam (param : MediaParamType) (lengthCode : Bool) (byteBuf : Byte) : BitVec 32 :=
  if param = .diagMonType then if byteBuf.getLsbD 3 then mediaRxPwrAvg else mediaRxPwrOma
  else if lengthCode then BitVec.ofNat 32 (convertLengthCodeToLength byteBuf)
  else byteBuf.setWidth 32

/-- The value of a parameter of two bytes, the first one at the top -/
def wordParam (param : MediaParamType) (tempBuf : BitVec 16) : BitVec 32 :=
  let value := (tempBuf.setWidth 8).setWidth 32 <<< 8 ||| (tempBuf >>> 8).setWidth 32
  if param = .wavelength then value / wavelengthDivider
  else if param = .wavelengthTolerance then value / wavelengthToleranceDivider
  else value

/-- The value of a parameter of four bytes, the first one at the top -/
def doubleWordParam (buf : List Byte) : BitVec 32 :=
  (buf.getD 0 0).setWidth 32 <<< 24 ||| (buf.getD 1 0).setWidth 32 <<< 16 |||
    (buf.getD 2 0).setWidth 32 <<< 8 ||| (buf.getD 3 0).setWidth 32

def readParam (q : Qsfp) (param : MediaParamType) (offset : BitVec 32) (size : Nat) (lengthCode : Bool) :
    M (BitVec 32) :=
  if size = byteSize then do
    let byteBuf ← smbusReadByte q.i2cAddr offset
    pure (byteParam param lengthCode byteBuf)
  else if size = wordSize then do
    let tempBuf ← smbusReadWord q.i2cAddr offset
    pure (wordParam param tempBuf)
  else if size = doubleWordSize then do
    let buf ← smbusReadMultiByte q.i2cAddr offset doubleWordSize
    pure (doubleWordParam buf)
  else Device.fail .einval

/-- Whether a length is a code: only modules that assign lanes have codes. -/
def lengthCodeConversionNeeded (q : Qsfp) (rev3 : Bool) (offset : BitVec 32) : M Bool :=
  if rev3 = true ∧ offset = r3LengthCableAssemblyOffset then do
    let byteBuf ← smbusReadByte q.i2cAddr r3LaneAssignmentOffset
    pure (decide (0 < byteBuf))
  else pure false

/-- `sdi_qsfp_parameter_get` -/
def parameterGet (q : Qsfp) (param : MediaParamType) : M (BitVec 32) := do
  let priv ← getPriv
  if priv.modType = .qsaAdapter then do
    Device.assert (priv.sfpDevice ≠ none)
    q.sfp.parameterGet param
  else do
    let rev3 := decide (qsfp28DdEepromVersion3 ≤ priv.eepromVersion)
    let info := if rev3 then paramRegInfoQsfp28DdR3 param else some (paramRegInfo param)
    -- An access beyond the end of the table is not defined.
    Device.assert (info.isSome = true)
    let (offset, size) := info.getD (0, 0)
    if offset = 0 ∧ size = 0 then Device.fail .eopnotsupp
    else q.sel.withModule do
      let lengthCode ← q.lengthCodeConversionNeeded rev3 offset
      q.readParam param offset size lengthCode

end Qsfp

/-! ## Presence -/

/-- A port of the QSFP28-DD driver, which has the private data of the QSFP driver: the bit of its presence and
what its configuration says of the sub-port -/
structure Qsfp28Dd extends Qsfp where
  modPresBitmask : Fin 32
  subPortRank : BitVec 32
  subPortChannelOffset : BitVec 32

namespace Qsfp28Dd

/-- `SDI_MEDIA_DOUBLE_DENSITY_MODULE_ID` -/
def mediaDoubleDensityModuleId : BitVec 32 := 0x18

/-- `sdi_qsfp_presence_get`: the return code and `*pres` -/
def qsfpPresenceGet (p : Qsfp28Dd) : M (Except Errno Unit × Bool) := do
  let value ← Device.attempt (withPinGroup .modPres (pinGroupReadLevel .modPres))
  pure (value.map fun _ => (), match value with
    | .ok value => value.getLsbD p.modPresBitmask
    | .error _ => false)

/-- Whether the module has the identifier of a double-density module: the return code and `*pres`. A read that
fails leaves `id` at 0. -/
def doubleDensityPresence (p : Qsfp28Dd) (pres : Bool) : M (Except Errno Unit × Bool) := do
  let id ← Device.attempt (p.parameterGet .identifier)
  pure (id.map fun _ => (), match id with
    | .ok id => pres && decide (id = mediaDoubleDensityModuleId)
    | .error _ => false)

/-- `sdi_qsfp28_dd_presence_get`: the return code and `*pres` -/
def presenceGet (p : Qsfp28Dd) : M (Except Errno Unit × Bool) := do
  let (rc, pres) ← p.qsfpPresenceGet
  match rc with
  | .error e => pure (.error e, pres)
  | .ok () =>
      -- The guard also tests the pointer `pres`, which is not `NULL`.
      if 0 < p.subPortRank then p.doubleDensityPresence pres else pure (.ok (), pres)

end Qsfp28Dd

end OpxSdi.Media
