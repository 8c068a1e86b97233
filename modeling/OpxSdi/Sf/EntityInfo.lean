import OpxSdi.Common.EntityInfo
import OpxSdi.Common.StdError
import OpxSdi.Entity.Presence
import OpxSdi.Lib.CharArray
import OpxSdi.Lib.RegBus
import OpxSdi.Lib.Text

/-!
# Entity info behind SmartFusion (`sdi_sf_entity_info.c`)

Each field is read byte by byte from its registers. A PPID that is not stored as such is put together in place, by a
pointer that goes on by the configured length of each field.
-/

namespace OpxSdi.Sf

open Lib
open Entity (PinLevel)

abbrev Bus := RegBus (BitVec 32) Errno

/-- A computation on buffers that reads registers -/
abbrev SfM := StateT Bus Checked

def readByte (offset : BitVec 32) : SfM (Except (Stop Errno) Byte) := fun bus =>
  .ok ((RegBus.readByte offset).out bus)

/-- The range is unset if the two addresses are the same. -/
structure AddrRange where
  startAddr : BitVec 32
  endAddr : BitVec 32

/-- `1 + end - start` -/
def AddrRange.len (range : AddrRange) : BitVec 32 := 1 + range.endAddr - range.startAddr

/-- The members of `sdi_sf_entity_info_device_t`, with what a pin reads for the handle of it -/
structure EntityInfoDevice where
  ppid : AddrRange
  partNum : AddrRange
  hwRevision : AddrRange
  serviceTag : AddrRange
  mfgId : AddrRange
  mfgDate : AddrRange
  serialNumber : AddrRange
  countryCode : AddrRange
  airFlowStatus : Option (Except Errno PinLevel)
  currentType : Option (Except Errno PinLevel)
  noOfFans : BitVec 32
  maxFanSpeed : BitVec 32
  ppidAddrValid : Bool

section Populate

variable {k : Nat}

/-- The loop of `entity_info_populate`, of at most `n` bytes that are left, from `data[len]` on. -/
def populateFrom (endAddr : BitVec 32) : (n len : Nat) → (offset : BitVec 32) → Vector Byte k → SfM (Vector Byte k)
  | 0, len, _, data => store data len 0
  | n + 1, len, offset, data =>
      if offset ≤ endAddr then do
        match ← readByte offset with
        | .error _ => store data len 0
        | .ok buf =>
            if !isprint buf then store data len 0
            else do
              let data ← store data len buf
              populateFrom endAddr n (len + 1) (offset + 1) data
      else store data len 0

/-- `entity_info_populate`, into `data + at` -/
def entityInfoPopulate (range : AddrRange) (data : Vector Byte k) («at» : Nat) (dataLen : BitVec 32) :
    SfM (Vector Byte k) :=
  if range.startAddr ≠ range.endAddr then populateFrom range.endAddr dataLen.toNat «at» range.startAddr data
  else pure data

end Populate

/-! ## The date code -/

def alphanumeric : List Byte := bytesOf "0123456789ABCDEFGHIJKLMNOPQRSTUVXYZ"

/-- The number at `p`, or `tmp` if there is none -/
def scanU (p : Ptr) (tmp : BitVec 32) : Checked (BitVec 32) := do
  let s ← p.loadCStr
  .ok ((sscanfU s).getD tmp)

variable {k : Nat}

def constructDateCode (data : Vector Byte k) («at» : Nat) : Checked (Vector Byte k) := do
  let dateStr ← (Ptr.mk data.toList «at»).loadCStr
  let tmp := BitVec.ofNat 32 dateStr.length
  let tmpStr : Vector Byte (dateStr.length + 1) := ⟨(dateStr ++ [0]).toArray, by simp⟩
  let data ← store data («at» + 3) 0
  let tmp ← scanU ⟨tmpStr.toList, 4⟩ tmp
  let day ← (Ptr.mk alphanumeric 0).load tmp.toNat
  let data ← store data («at» + 2) day
  let tmpStr ← store tmpStr 4 0
  let tmp ← scanU ⟨tmpStr.toList, 2⟩ tmp
  let month ← (Ptr.mk alphanumeric 0).load tmp.toNat
  let data ← store data («at» + 1) month
  let tmpStr ← store tmpStr 2 0
  let year ← (Ptr.mk tmpStr.toList 1).load 0
  store data «at» year

/-! ## `sdi_sf_entity_info_data_get` -/

def constructPpid (dev : EntityInfoDevice) (info : EntityInfo) : SfM EntityInfo := do
  let ptr := 0
  let ppid ← entityInfoPopulate dev.countryCode info.ppid ptr dev.countryCode.len
  let ptr := ptr + dev.countryCode.len.toNat
  let partNumber ← (Ptr.mk info.partNumber.toList 0).loadCStr
  let ppid ← stores ppid ptr partNumber
  let ptr := ptr + partNumber.length
  let ppid ← entityInfoPopulate dev.mfgId ppid ptr dev.mfgId.len
  let ptr := ptr + dev.mfgId.len.toNat
  let ppid ← entityInfoPopulate dev.mfgDate ppid ptr dev.mfgDate.len
  let ppid ← constructDateCode ppid ptr
  let ptr := ptr + 3
  let ppid ← entityInfoPopulate dev.serialNumber ppid ptr dev.serialNumber.len
  pure { info with ppid }

/-- The return code and the level after a pin is read, if there is one -/
def readPin (pin : Option (Except Errno PinLevel)) (rc : TStdError) (level : PinLevel) : TStdError × PinLevel :=
  match pin with
  | none => (rc, level)
  | some (.error e) => (.errcode e, level)
  | some (.ok level) => (.ok, level)

/-- The air flow and the power type. An error of the first pin is lost if the second is read. -/
def readPins (dev : EntityInfoDevice) (info : EntityInfo) : TStdError × EntityInfo :=
  let (rc, level) := readPin dev.airFlowStatus .ok .low
  let info := if dev.airFlowStatus.isSome then
    { info with airFlow := if level = .high then .normal else .reverse } else info
  let (rc, level) := readPin dev.currentType rc level
  let info := if dev.currentType.isSome then
    { info with powerType := if level = .high then ⟨true, false⟩ else ⟨false, true⟩ } else info
  (rc, { info with numFans := dev.noOfFans, maxSpeed := dev.maxFanSpeed })

def entityInfoDataGet (dev : EntityInfoDevice) (info : EntityInfo) : SfM (TStdError × EntityInfo) := do
  let partNumber ← entityInfoPopulate dev.partNum info.partNumber 0 (BitVec.ofNat 32 partNumLen)
  let hwRevision ← entityInfoPopulate dev.hwRevision info.hwRevision 0 (BitVec.ofNat 32 hwRevLen)
  let serviceTag ← entityInfoPopulate dev.serviceTag info.serviceTag 0 (BitVec.ofNat 32 nameMax)
  let info := { info with partNumber, hwRevision, serviceTag }
  if dev.ppidAddrValid then do
    let ppid ← entityInfoPopulate dev.ppid info.ppid 0 (BitVec.ofNat 32 ppidLen)
    pure (readPins dev { info with ppid })
  else do
    let info ← constructPpid dev info
    pure (readPins dev info)

end OpxSdi.Sf
