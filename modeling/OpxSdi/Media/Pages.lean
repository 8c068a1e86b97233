import OpxSdi.Media.Balance

/-!
# Pages

The thresholds of a QSFP module, which are on a page of their own, and what it means that bytes are read
from and written to a page.
-/

namespace OpxSdi.Media

open Lib

/-! ## Thresholds -/

/-- `sdi_media_threshold_type_t` -/
inductive MediaThresholdType
  | tempHighAlarm | tempLowAlarm | tempHighWarning | tempLowWarning
  | voltHighAlarm | voltLowAlarm | voltHighWarning | voltLowWarning
  | rxPwrHighAlarm | rxPwrLowAlarm | rxPwrHighWarning | rxPwrLowWarning
  | txBiasHighAlarm | txBiasLowAlarm | txBiasHighWarning | txBiasLowWarning
  | txPwrHighAlarm | txPwrLowAlarm | txPwrHighWarning | txPwrLowWarning
  deriving DecidableEq, Repr

namespace Qsfp

def mediaPage02 : Int := 2
def mediaPage03 : Int := 3

/-- `threshold_reg_info` -/
def thresholdRegInfo : MediaThresholdType → BitVec 32
  | .tempHighAlarm => 128
  | .tempLowAlarm => 130
  | .tempHighWarning => 132
  | .tempLowWarning => 134
  | .voltHighAlarm => 144
  | .voltLowAlarm => 146
  | .voltHighWarning => 148
  | .voltLowWarning => 150
  | .rxPwrHighAlarm => 176
  | .rxPwrLowAlarm => 178
  | .rxPwrHighWarning => 180
  | .rxPwrLowWarning => 182
  | .txBiasHighAlarm => 184
  | .txBiasLowAlarm => 186
  | .txBiasHighWarning => 188
  | .txBiasLowWarning => 190
  | .txPwrHighAlarm | .txPwrLowAlarm | .txPwrHighWarning | .txPwrLowWarning => 0

/-- `threshold_reg_info_qsfp28_dd_r3` -/
def thresholdRegInfoQsfp28DdR3 : MediaThresholdType → BitVec 32
  | .tempHighAlarm => 128
  | .tempLowAlarm => 130
  | .tempHighWarning => 132
  | .tempLowWarning => 134
  | .voltHighAlarm => 136
  | .voltLowAlarm => 138
  | .voltHighWarning => 140
  | .voltLowWarning => 142
  | .txPwrHighAlarm => 176
  | .txPwrLowAlarm => 178
  | .txPwrHighWarning => 180
  | .txPwrLowWarning => 182
  | .txBiasHighAlarm => 184
  | .txBiasLowAlarm => 186
  | .txBiasHighWarning => 188
  | .txBiasLowWarning => 190
  | .rxPwrHighAlarm => 192
  | .rxPwrLowAlarm => 194
  | .rxPwrHighWarning => 196
  | .rxPwrLowWarning => 198

/-- The page and the offset of a threshold, by the version of the EEPROM. -/
def thresholdReg (eepromVersion : Byte) (thresholdType : MediaThresholdType) : Int × BitVec 32 :=
  if qsfp28DdEepromVersion3 ≤ eepromVersion then (mediaPage02, thresholdRegInfoQsfp28DdR3 thresholdType)
  else (mediaPage03, thresholdRegInfo thresholdType)

/-- The access of `sdi_qsfp_threshold_get` for a module that is no adapter. -/
def thresholdAccess {α : Type} (q : Qsfp) (thresholdType : MediaThresholdType)
    (transfer : (address : BitVec 16) → (offset : BitVec 32) → M α) : M (Option α) := do
  let priv ← getPriv
  let (pageToUse, offset) := thresholdReg priv.eepromVersion thresholdType
  if offset = 0 then Device.fail .eopnotsupp
  else q.sel.withModule (q.transferOnPage pageToUse true (transfer q.i2cAddr offset))

/-- The word whose conversion is assigned to `*value`. No branch is for the TX power: then `*value` stays as it
is. -/
def convertedWord : MediaThresholdType → (thresholdBuf : BitVec 16) → Option (BitVec 16)
  | .tempHighAlarm, buf | .tempLowAlarm, buf | .tempHighWarning, buf | .tempLowWarning, buf => some buf
  | .voltHighAlarm, buf | .voltLowAlarm, buf | .voltHighWarning, buf | .voltLowWarning, buf => some buf
  | .rxPwrHighAlarm, buf | .rxPwrLowAlarm, buf | .rxPwrHighWarning, buf | .rxPwrLowWarning, buf => some buf
  | .txBiasHighAlarm, buf | .txBiasLowAlarm, buf | .txBiasHighWarning, buf | .txBiasLowWarning, buf => some buf
  | .txPwrHighAlarm, _ | .txPwrLowAlarm, _ | .txPwrHighWarning, _ | .txPwrLowWarning, _ => none

/-- `sdi_qsfp_threshold_get`, up to the conversion of the word to a floating-point number. The buffer holds
zeros until a word is read. The call for an adapter is that of the SFP driver. -/
def thresholdGet (q : Qsfp) (sfpThresholdGet : M (BitVec 16)) (thresholdType : MediaThresholdType) :
    M (Option (BitVec 16)) := do
  let priv ← getPriv
  if priv.modType = .qsaAdapter then do
    let word ← sfpThresholdGet
    pure (some word)
  else do
    let thresholdBuf ← q.thresholdAccess thresholdType smbusReadWord
    pure (convertedWord thresholdType (thresholdBuf.getD 0))

end Qsfp

/-! ## The bytes of a page -/

namespace Eeprom

def page (e : Eeprom) : Byte := e.lower pageSelectByteOffset

def selectPage (e : Eeprom) (page : Byte) : Eeprom := e.write pageSelectByteOffset page

/-- The upper bytes are those of page `p`. A flat module has page 0 only. -/
def Shows (e : Eeprom) (p : Nat) : Prop := if e.FlatMem then p = 0 else e.page.toNat = p

instance (e : Eeprom) (p : Nat) : Decidable (e.Shows p) := by
  unfold Shows
  infer_instance

/-- The memory as it is on page `p`, whatever page is selected. -/
def onPage (e : Eeprom) (p : Nat) : Eeprom := if e.FlatMem then e else e.selectPage (BitVec.ofNat 8 p)

theorem onPage_of_shows {e : Eeprom} {p : Nat} (h : e.Shows p) : e.onPage p = e := by
  rw [Shows] at h
  rw [onPage]
  split
  · rfl
  · rename_i hflat
    rw [if_neg hflat] at h
    have hpage : BitVec.ofNat 8 p = e.lower pageSelectByteOffset := by
      rw [← h, BitVec.ofNat_toNat, BitVec.setWidth_eq]
      rfl
    rw [hpage, selectPage, write, if_pos (by decide), Function.update_eq_self]

def reads (e : Eeprom) : (cmd : BitVec 32) → (byteCount : Nat) → List Byte
  | _, 0 => []
  | cmd, byteCount + 1 => e.read (cmd.setWidth 8) :: e.reads (cmd + 1) byteCount

def writes (e : Eeprom) (cmd : BitVec 32) : List Byte → Eeprom
  | [] => e
  | b :: bs => (e.write (cmd.setWidth 8) b).writes (cmd + 1) bs

def readWord (e : Eeprom) (cmd : BitVec 32) : BitVec 16 :=
  e.read (cmd.setWidth 8 + 1) ++ e.read (cmd.setWidth 8)

end Eeprom

/-- The transfer that also returns the memory that it finds. -/
def watched {α : Type} (transfer : BitVec 16 → M α) (address : BitVec 16) : M (Eeprom × α) := do
  let before ← Device.internal fun c => (c.slaves address, c)
  let a ← transfer address
  pure (before, a)

end OpxSdi.Media
