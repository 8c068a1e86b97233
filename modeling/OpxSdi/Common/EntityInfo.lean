import OpxSdi.Lib.Checked

/-!
# The entity info structure (`sdi_entity_info_t`)

A character array is a vector of its size, so every copy of the structure has the arrays whole.
The sizes are those of `sdi_entity_info.h`, with the `NAME_MAX` of Linux.
-/

namespace OpxSdi

open Lib

def nameMax : Nat := 255
def ppidLen : Nat := 120
def hwRevLen : Nat := 8
def partNumLen : Nat := 10
def macAddrLen : Nat := 6

inductive AirFlow
  | normal | reverse | unknown | notApplicable
  deriving DecidableEq, Repr

structure PowerType where
  acPower : Bool
  dcPower : Bool
  deriving DecidableEq, Repr

/-- The `int` members are their 32 bits. -/
structure EntityInfo where
  prodName : Vector Byte nameMax
  ppid : Vector Byte ppidLen
  hwRevision : Vector Byte hwRevLen
  platformName : Vector Byte nameMax
  vendorName : Vector Byte nameMax
  serviceTag : Vector Byte nameMax
  macSize : BitVec 32
  baseMac : Vector Byte macAddrLen
  numFans : BitVec 32
  maxSpeed : BitVec 32
  airFlow : AirFlow
  powerRating : BitVec 32
  powerType : PowerType
  partNumber : Vector Byte partNumLen
  deriving DecidableEq

/-- The structure after `memset(info, 0, sizeof(*info))`. -/
def EntityInfo.zero : EntityInfo where
  prodName := .replicate _ 0
  ppid := .replicate _ 0
  hwRevision := .replicate _ 0
  platformName := .replicate _ 0
  vendorName := .replicate _ 0
  serviceTag := .replicate _ 0
  macSize := 0
  baseMac := .replicate _ 0
  numFans := 0
  maxSpeed := 0
  airFlow := .normal
  powerRating := 0
  powerType := ⟨false, false⟩
  partNumber := .replicate _ 0

end OpxSdi
