import OpxSdi.Lib.ArrayAccess
import OpxSdi.Lib.CString
import OpxSdi.Media.Qsfp

/-!
# Vendor information

`sdi_qsfp_vendor_info_get` and `sdi_sfp_vendor_info_get`. A field is read into an array, its bytes that
cannot be printed are replaced, and its padding is removed from the end.
-/

namespace OpxSdi.Media

open Lib

/-- `sdi_media_vendor_info_type_t` -/
inductive MediaVendorInfoType
  | vendorName | vendorOui | vendorSn | vendorDate | vendorPn | vendorRevision
  deriving DecidableEq, Repr

/-- `sdi_sfp_reg_info_t` and `sdi_qsfp_reg_info_t`: the size of a field is that of its string with a NUL. -/
structure VendorRegInfo where
  offset : BitVec 32
  size : Nat
  printable : Bool

def mediaMaxVendorNameLen : Nat := 17
def mediaMaxVendorOuiLen : Nat := 4
def mediaMaxVendorRevisionLen : Nat := 3
def mediaMaxVendorPartNumberLen : Nat := 17
def mediaMaxVendorSerialNumberLen : Nat := 17
def mediaMaxVendorDateLen : Nat := 9

/-- `SDI_MAX_NAME_LEN` -/
def vendorDataBufLen : Nat := 64

/-- `SDI_QSFP_PADDING_CHAR` and `SDI_SFP_PADDING_CHAR` -/
def paddingChar : Byte := 0

/-- `SDI_QSFP_GARBAGE_CHAR_INDICATOR` and `SDI_SFP_GARBAGE_CHAR_INDICATOR` -/
def garbageCharIndicator : Byte := 0x3f

/-! ## The string of a field -/

/-- Replace what is neither printable nor padding in `n` bytes from index `i` on. -/
def replaceGarbage : (n i : Nat) → ArrayM Unit
  | 0, _ => pure ()
  | n + 1, i => do
      let b ← ArrayM.load vendorDataBufLen i
      if isprint b = false ∧ b ≠ paddingChar then ArrayM.store vendorDataBufLen i garbageCharIndicator
      else pure ()
      replaceGarbage n (i + 1)

/-- A field that is marked printable gets a NUL after it. -/
def cleanField (info : VendorRegInfo) : ArrayM Unit :=
  if info.printable then do
    replaceGarbage (info.size - 1) 0
    ArrayM.store vendorDataBufLen (info.size - 1 : Nat) 0
  else pure ()

/-- The loop that moves `buf_ptr` down while the byte below it is padding. It has no lower bound. -/
def trimPadding : (bufPtr : Nat) → ArrayM Nat
  | 0 => do
      let _ ← ArrayM.load vendorDataBufLen (-1)
      pure 0
  | bufPtr + 1 => do
      let b ← ArrayM.load vendorDataBufLen bufPtr
      if b = 0x20 ∨ b = paddingChar then trimPadding bufPtr else pure (bufPtr + 1)

/-- What is done with a field once it is read: the bytes that are copied -/
def vendorString (info : VendorRegInfo) (size : Nat) : ArrayM (List Byte) := do
  cleanField info
  let bufPtr ← trimPadding (info.size - 1)
  ArrayM.store vendorDataBufLen bufPtr 0
  ArrayM.loads vendorDataBufLen (min (bufPtr + 1) size)

/-- The array with a field in it -/
def vendorDataBuf (field : List Byte) : ArrayState := ⟨fun i => field.getD i 0, []⟩

/-- `vendor_info` after the string of a field has been copied to it, and the indices of `data_buf` that have
been accessed, or the index outside of it at which the behaviour is not defined -/
def copyVendorString (info : VendorRegInfo) (field vendorInfo : List Byte) : Except ℤ (List Byte × List ℤ) :=
  match (vendorString info vendorInfo.length).run (vendorDataBuf field) with
  | .ok (bs, s) => .ok (bs ++ vendorInfo.drop bs.length, s.accessed)
  | .error i => .error i

/-! ## The drivers -/

/-- `vendor_reg_info` of the SFP driver -/
def Sfp.vendorRegInfo : MediaVendorInfoType → VendorRegInfo
  | .vendorName => ⟨20, mediaMaxVendorNameLen, true⟩
  | .vendorOui => ⟨37, mediaMaxVendorOuiLen, false⟩
  | .vendorSn => ⟨68, mediaMaxVendorSerialNumberLen, true⟩
  | .vendorDate => ⟨84, mediaMaxVendorDateLen, true⟩
  | .vendorPn => ⟨40, mediaMaxVendorPartNumberLen, true⟩
  | .vendorRevision => ⟨56, mediaMaxVendorRevisionLen, true⟩

/-- `vendor_reg_info` of the QSFP driver -/
def Qsfp.vendorRegInfo : MediaVendorInfoType → VendorRegInfo
  | .vendorName => ⟨148, mediaMaxVendorNameLen, true⟩
  | .vendorOui => ⟨165, mediaMaxVendorOuiLen, false⟩
  | .vendorSn => ⟨196, mediaMaxVendorSerialNumberLen, true⟩
  | .vendorDate => ⟨212, mediaMaxVendorDateLen, true⟩
  | .vendorPn => ⟨168, mediaMaxVendorPartNumberLen, true⟩
  | .vendorRevision => ⟨184, mediaMaxVendorRevisionLen, true⟩

/-- `vendor_reg_info_qsfp28_dd_r3` -/
def Qsfp.vendorRegInfoQsfp28DdR3 : MediaVendorInfoType → VendorRegInfo
  | .vendorName => ⟨129, mediaMaxVendorNameLen, true⟩
  | .vendorOui => ⟨145, mediaMaxVendorOuiLen, false⟩
  | .vendorSn => ⟨166, mediaMaxVendorSerialNumberLen, true⟩
  | .vendorDate => ⟨182, mediaMaxVendorDateLen, true⟩
  | .vendorPn => ⟨148, mediaMaxVendorPartNumberLen, true⟩
  | .vendorRevision => ⟨164, mediaMaxVendorRevisionLen, true⟩

/-- `sdi_sfp_vendor_info_get` -/
def Sfp.vendorInfoGet (s : Sfp) (vendorInfoType : MediaVendorInfoType) (vendorInfo : List Byte) :
    M (Except ℤ (List Byte × List ℤ)) := do
  let info := Sfp.vendorRegInfo vendorInfoType
  Device.assert (info.size ≤ vendorInfo.length)
  let field ← s.sel.withModule (smbusReadMultiByte s.i2cAddr info.offset (info.size - 1))
  pure (copyVendorString info field vendorInfo)

/-- `sdi_qsfp_vendor_info_get` -/
def Qsfp.vendorInfoGet (q : Qsfp) (vendorInfoType : MediaVendorInfoType) (vendorInfo : List Byte) :
    M (Except ℤ (List Byte × List ℤ)) := do
  let priv ← getPriv
  if priv.modType = .qsaAdapter then do
    Device.assert (priv.sfpDevice ≠ none)
    q.sfp.vendorInfoGet vendorInfoType vendorInfo
  else do
    let info :=
      if qsfp28DdEepromVersion3 ≤ priv.eepromVersion then vendorRegInfoQsfp28DdR3 vendorInfoType
      else vendorRegInfo vendorInfoType
    let field ← q.sel.withModule do
      Device.assert (info.size ≤ vendorInfo.length)
      smbusReadMultiByte q.i2cAddr info.offset (info.size - 1)
    pure (copyVendorString info field vendorInfo)

end OpxSdi.Media
