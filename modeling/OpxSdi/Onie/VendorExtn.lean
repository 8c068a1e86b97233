import OpxSdi.Common.EntityInfo
import OpxSdi.Lib.CString

/-!
# The vendor extension of an ONIE EEPROM (`sdi_onie_fill_vendor_extn`)

The value is cut into its parts by `std_parse_string`, which is not part of the repository. The parts
are read one after another; a member of the entity info is written as soon as its part is read, so an
error message leaves what was written before it.
-/

namespace OpxSdi.Onie

open Lib

/-- The parser formats of `sdi_entity_parser_t`. -/
inductive EntityParser
  | onieSysEeprom | oniePsuEeprom | onieFanEeprom
  | dellLegacyPsuEeprom | dellLegacyFanEeprom | deltaPsuEeprom
  deriving DecidableEq, Repr

/-- The functions of other packages that the ONIE driver calls. -/
structure Ext where
  /-- `crc32(0, ·, ·)` of a buffer. -/
  crc32 : List Byte → BitVec 32
  /-- The parts of a string between delimiters, or nothing when the call fails. -/
  stdParseString : (string delimiter : List Byte) → Option (List (List Byte))
  /-- The string the destination holds after `safestrncpy(dst, src, size)`. -/
  safestrncpy : (src : List Byte) → (size : Nat) → List Byte

def maxTlvValueLen : Nat := 256
def vendorExtnDelimiter : List Byte := bytesOf "-"
def ianaNum : List Byte := [0x00, 0x00, 0x02, 0xa2, 0x2d]
def ianaAscii : List Byte := bytesOf "674-"

def prematureEnd : String := "Premature end of ONIE EEPROM vendor extension"
def invalidFmt : String := "Invalid format for ONIE EEPROM vendor extension"
def typeMismatch : String := "Entity type and ONIE EEPROM vendor extension mismatch"
def invalidPsuType : String := "Invlaid value for PSU type in ONIE EEPROM vendor extension"
def invalidFanTrayType : String := "Invalid value for fan tray type in ONIE EEPROM vendor extension"

structure ExtnState where
  entityData : EntityInfo
  tokens : List (List Byte)

/-- Steps on the entity info and the remaining parts that may end in an error message. -/
abbrev ExtnM := ExceptT String (StateM ExtnState)

/-- `std_parse_string_next`, with the end of the parts an error. -/
def parseStringNext : ExtnM (List Byte) := do
  match (← get).tokens with
  | [] => throw prematureEnd
  | value :: tokens =>
      modify fun s => { s with tokens }
      return value

def modifyInfo (f : EntityInfo → EntityInfo) : ExtnM Unit :=
  modify fun s => { s with entityData := f s.entityData }

def numberOf (value : List Byte) : BitVec 32 := BitVec.ofNat 32 (strtoul value)

def setMaxSpeed (value : List Byte) : ExtnM Unit :=
  modifyInfo fun i => { i with maxSpeed := numberOf value }

def setNumFans (value : List Byte) : ExtnM Unit :=
  modifyInfo fun i => { i with numFans := numberOf value }

def setEntityType (parserType : EntityParser) (temp : BitVec 32) : ExtnM Unit :=
  match parserType with
  | .oniePsuEeprom =>
      match temp.toNat with
      | 0 => modifyInfo fun i =>
          { i with powerType := { i.powerType with acPower := true }, airFlow := .normal }
      | 1 => modifyInfo fun i =>
          { i with powerType := { i.powerType with acPower := true }, airFlow := .reverse }
      | 2 => modifyInfo fun i =>
          { i with powerType := { i.powerType with dcPower := true }, airFlow := .normal }
      | 3 => modifyInfo fun i =>
          { i with powerType := { i.powerType with dcPower := true }, airFlow := .reverse }
      | _ => throw invalidPsuType
  | .onieFanEeprom =>
      match temp.toNat with
      | 0 => modifyInfo fun i => { i with airFlow := .normal }
      | 1 => modifyInfo fun i => { i with airFlow := .reverse }
      | _ => throw invalidFanTrayType
  | _ => return

/-- Skip "PSU" or "FANTRAY" when it is there, after a check against the parser type. -/
def skipEntityWord (parserType : EntityParser) (value : List Byte) : ExtnM (List Byte) :=
  if value = bytesOf "FANTRAY" ∨ value = bytesOf "PSU" then
    if (value = bytesOf "FANTRAY" ∧ parserType ≠ .onieFanEeprom)
        ∨ (value = bytesOf "PSU" ∧ parserType ≠ .oniePsuEeprom) then
      throw typeMismatch
    else
      parseStringNext
  else
    return value

/-- The body of the `do … while (0)` block. -/
def parseVendorExtn (parserType : EntityParser) (vendorExtn : List Byte) : ExtnM Unit := do
  let value ← parseStringNext
  let value ← skipEntityWord parserType value
  setEntityType parserType (numberOf value)
  let value ← parseStringNext
  if value = bytesOf "MAXRPM" then
    setMaxSpeed (← parseStringNext)
  else
    setNumFans value
  let value ← parseStringNext
  if value = bytesOf "FANS" then
    setNumFans (← parseStringNext)
  else
    setMaxSpeed value
  -- The terminator is looked for from the length of the longer prefix on.
  match strrchr (cstr (vendorExtn.drop ianaNum.length)) 0x2d with
  | none => throw prematureEnd
  | some value => if value = bytesOf "-FF" then return else throw invalidFmt

/-- The length of the IANA prefix, in either form. -/
def ianaLen (vendorExtn : List Byte) : Option Nat :=
  if vendorExtn.take ianaNum.length = ianaNum then some ianaNum.length
  else if vendorExtn.take ianaAscii.length = ianaAscii then some ianaAscii.length
  else none

/-- The entity info after the value has been copied, and the message that is logged if there is one. -/
def parseVendorExtnValue (E : Ext) (parserType : EntityParser) (vendorExtn : List Byte)
    (info : EntityInfo) : EntityInfo × Option String :=
  match ianaLen vendorExtn with
  | none => (info, some invalidFmt)
  | some n =>
      match E.stdParseString (cstr (vendorExtn.drop n)) vendorExtnDelimiter with
      | none => (info, none)
      | some tokens =>
          match (parseVendorExtn parserType vendorExtn).run.run ⟨info, tokens⟩ with
          | (.ok (), s) => (s.entityData, none)
          | (.error errMesg, s) => (s.entityData, some errMesg)

/-- `tlvFld` points at the tag of the field. -/
def fillVendorExtn (E : Ext) (tlvFld : Ptr) (parserType : EntityParser) (info : EntityInfo) :
    Checked EntityInfo :=
  if parserType = .onieFanEeprom ∨ parserType = .oniePsuEeprom then do
    let length ← tlvFld.load 1
    let vendorExtn ← memcpy (Vector.replicate maxTlvValueLen 0) (tlvFld.add 2) length.toNat
    .ok (parseVendorExtnValue E parserType vendorExtn.toList info).1
  else
    .ok info

/-! ## The functions of other packages, as they are documented

The model takes them as parameters; these are what a concrete run uses.
-/

def crc32Bit (crc : BitVec 32) : BitVec 32 :=
  if crc.getLsbD 0 then (crc >>> 1) ^^^ 0xedb88320 else crc >>> 1

def crc32Byte (crc : BitVec 32) (b : Byte) : BitVec 32 :=
  Nat.repeat crc32Bit 8 (crc ^^^ b.setWidth 32)

/-- `crc32(0, buf, len)` of zlib. -/
def crc32 (buf : List Byte) : BitVec 32 := ~~~ (buf.foldl crc32Byte (~~~ 0))

/-- The parts between the delimiters, which are single characters. -/
def splitString (delimiter : List Byte) : List Byte → List (List Byte)
  | [] => [[]]
  | b :: bs =>
      if b ∈ delimiter then [] :: splitString delimiter bs
      else
        match splitString delimiter bs with
        | [] => [[b]]
        | part :: parts => (b :: part) :: parts

def platform : Ext where
  crc32 := crc32
  stdParseString string delimiter := some (splitString delimiter string)
  safestrncpy src size := src.take (size - 1)

example : crc32 (bytesOf "123456789") = 0xcbf43926 := by decide +kernel

end OpxSdi.Onie
