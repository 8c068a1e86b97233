import OpxSdi.Lib.Text
import OpxSdi.Lib.Tlv
import OpxSdi.Onie.VendorExtn

/-!
# The formats of a vendor extension

The two formats that a comment of `sdi_onie_fill_vendor_extn` describes, each after one of the two IANA
prefixes, and what a value in one of them says of a power supply or a fan tray.
-/

namespace OpxSdi.Onie

open Lib

inductive ExtnEntity
  | psu
  | fantray
  deriving DecidableEq, Repr

namespace ExtnEntity

def word : ExtnEntity → List Byte
  | .psu => bytesOf "PSU"
  | .fantray => bytesOf "FANTRAY"

def parserType : ExtnEntity → EntityParser
  | .psu => .oniePsuEeprom
  | .fantray => .onieFanEeprom

/-- The air flow that a type stands for, if the entity has the type -/
def airFlow : ExtnEntity → (type : Nat) → Option AirFlow
  | .psu, 0 | .psu, 2 => some .normal
  | .psu, 1 | .psu, 3 => some .reverse
  | .fantray, 0 => some .normal
  | .fantray, 1 => some .reverse
  | _, _ => none

/-- A type of a power supply also stands for its input, which is one. -/
def powerType : ExtnEntity → (type : Nat) → Option PowerType
  | .psu, 0 | .psu, 1 => some ⟨true, false⟩
  | .psu, 2 | .psu, 3 => some ⟨false, true⟩
  | _, _ => none

end ExtnEntity

/-- A value in one of the formats: in the one with keywords if there is an entity word, in the positional one if
there is none -/
structure ExtnValue where
  word : Option ExtnEntity
  type : Fin 4
  numFans : Digits
  maxRpm : Digits

namespace ExtnValue

variable (x : ExtnValue)

def typeDigit : List Byte := [BitVec.ofNat 8 (0x30 + x.type.val)]

def parts : List (List Byte) :=
  match x.word with
  | some entity =>
      [entity.word, x.typeDigit, bytesOf "MAXRPM", x.maxRpm.bytes, bytesOf "FANS", x.numFans.bytes, bytesOf "FF"]
  | none => [x.typeDigit, x.numFans.bytes, x.maxRpm.bytes, bytesOf "FF"]

def Spells (value : List Byte) : Prop :=
  value = ianaNum ++ [0x2d].intercalate x.parts ∨ value = ianaAscii ++ [0x2d].intercalate x.parts

/-- The value is one of this entity. -/
def Agrees (entity : ExtnEntity) : Prop :=
  (∀ w, x.word = some w → w = entity) ∧ entity.airFlow x.type.val ≠ none

/-- The members are exactly what the value says. A fan tray keeps its power type. -/
structure SetsTo (entity : ExtnEntity) (info info' : EntityInfo) : Prop where
  powerType : info'.powerType = (entity.powerType x.type.val).getD info.powerType
  airFlow : entity.airFlow x.type.val = some info'.airFlow
  maxSpeed : info'.maxSpeed.toInt = x.maxRpm.value
  numFans : info'.numFans.toInt = x.numFans.value

end ExtnValue

structure Unchanged (info info' : EntityInfo) : Prop where
  powerType : info'.powerType = info.powerType
  airFlow : info'.airFlow = info.airFlow
  maxSpeed : info'.maxSpeed = info.maxSpeed
  numFans : info'.numFans = info.numFans

/-- A value in one of the formats sets the members to what it says of the entity. Every other value leaves
them unchanged. `before` is the power type that the entity info has so far. -/
def FollowsGrammar (E : Ext) (entity : ExtnEntity) (t : Tlv) (before : PowerType) : Prop :=
  ∀ pre post info, info.powerType = before → ∃ info',
    fillVendorExtn E ⟨pre ++ (t.encode ++ post), pre.length⟩ entity.parserType info = .ok info' ∧
      (∀ x : ExtnValue, x.Spells t.value → x.Agrees entity → x.SetsTo entity info info') ∧
      ((∀ x : ExtnValue, x.Spells t.value → ¬x.Agrees entity) → Unchanged info info')

/-! ## When the code keeps to the formats -/

/-- The string after the prefix -/
def extnText (value : List Byte) : Option (List Byte) :=
  if ianaNum <+: value then some (cstr (value.drop ianaNum.length))
  else if ianaAscii <+: value then some (cstr (value.drop ianaAscii.length))
  else none

/-- The part that is read as the type: the first one, or the one after a word for the entity -/
def typePart (entity : ExtnEntity) : List (List Byte) → Option (List Byte)
  | [] => none
  | part :: rest =>
      if part = ExtnEntity.fantray.word ∨ part = ExtnEntity.psu.word then
        if part = entity.word then rest.head? else none
      else some part

/-- The number at the place of the type is a type of the entity, whatever comes after it. -/
def GivesType (entity : ExtnEntity) (value : List Byte) : Prop :=
  ∃ text part, extnText value = some text ∧ typePart entity (nonEmptyParts 0x2d text) = some part ∧
    entity.airFlow (numberOf part).toNat ≠ none

/-- No input is set but the one of the type. -/
def OnlyInput (entity : ExtnEntity) (type : Nat) (before : PowerType) : Prop :=
  ∀ p, entity.powerType type = some p →
    (before.acPower = true → p.acPower = true) ∧ (before.dcPower = true → p.dcPower = true)

/-- If the value gives a type, all of it is in one of the formats, its numbers are read as they are written,
and the power type so far has no other input. -/
def Regular (entity : ExtnEntity) (value : List Byte) (before : PowerType) : Prop :=
  (GivesType entity value → ∃ x : ExtnValue, x.Spells value ∧ x.Agrees entity) ∧
    ∀ x : ExtnValue, x.Spells value → x.Agrees entity →
      x.numFans.Reads 31 ∧ x.maxRpm.Reads 31 ∧ OnlyInput entity x.type.val before

end OpxSdi.Onie
