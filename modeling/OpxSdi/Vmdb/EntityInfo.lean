import OpxSdi.Common.EntityInfo
import OpxSdi.Lib.Fgets
import OpxSdi.Lib.Fields
import OpxSdi.Lib.Text
import OpxSdi.Vmdb.BinField

/-!
# Entity info of the VM (`sdi_entity_info_read`)

The string columns are read straight into the structure, which is one object here, so that a string that is too
long goes on in the members behind. Only the hardware revision is read into a buffer.
-/

namespace OpxSdi.Vmdb

open Lib

/-! ## The members of the structure -/

/-- `sizeof(sdi_entity_info_t)` -/
def entityInfoSize : Nat := 1192

abbrev EntityInfoBytes := Vector Byte entityInfoSize

inductive StrColumn
  | product | ppid | hwRev | platform | vendor | serviceTag
  deriving DecidableEq

inductive IntColumn
  | numMacs | numFans | fanMaxSpeed | fanAirflow | powerRating | powerType
  deriving DecidableEq

inductive Column
  | str (c : StrColumn)
  | int (c : IntColumn)
  deriving DecidableEq

def StrColumn.field : StrColumn → Field
  | product => ⟨0, nameMax⟩
  | ppid => ⟨255, ppidLen⟩
  | hwRev => ⟨375, hwRevLen⟩
  | platform => ⟨383, nameMax⟩
  | vendor => ⟨638, nameMax⟩
  | serviceTag => ⟨893, nameMax⟩

def IntColumn.field : IntColumn → Field
  | numMacs => ⟨1148, 4⟩
  | numFans => ⟨1160, 4⟩
  | fanMaxSpeed => ⟨1164, 4⟩
  | fanAirflow => ⟨1168, 4⟩
  | powerRating => ⟨1172, 4⟩
  | powerType => ⟨1176, 4⟩

def Column.field : Column → Field
  | str c => c.field
  | int c => c.field

def baseMacField : Field := ⟨1152, macAddrLen⟩

def partNumberField : Field := ⟨1180, partNumLen⟩

/-- An `int` in memory -/
def intBytes (w : BitVec 32) : List Byte :=
  [w.setWidth 8, (w >>> 8).setWidth 8, (w >>> 16).setWidth 8, (w >>> 24).setWidth 8]

/-! ## Reading the columns -/

/-- The row of a resource, and what comes of reading each of its columns. -/
structure InfoRow where
  str : StrColumn → Name
  int : IntColumn → BitVec 64
  result : Column → TStdError

/-- The variables of `sdi_entity_info_get`. The library writes strings of less than `outputLen` characters
(`DB_SQL_OUTPUT_LEN`). -/
structure InfoVars (outputLen : Nat) where
  info : EntityInfoBytes
  hwRevBuffer : Vector Byte outputLen

variable {outputLen : Nat} (afterNul : Byte → Byte) (row : InfoRow)

/-- What `db_sql_get_attribute` writes -/
def attributeBytes (outputLen : Nat) (value : Name) : List Byte := value.bytes.take (outputLen - 1) ++ [0]

def readColumn (column : Column) (vars : InfoVars outputLen) : Checked (TStdError × InfoVars outputLen) :=
  if row.result column = .ok then
    match column with
    | .str .hwRev => do
        let hwRevBuffer ← stores vars.hwRevBuffer 0 (attributeBytes outputLen (row.str .hwRev))
        .ok (.ok, { vars with hwRevBuffer })
    | .str c => do
        let info ← stores vars.info c.field.off (attributeBytes outputLen (row.str c))
        .ok (.ok, { vars with info })
    | .int c =>
        match dbStrtol (decimalInt (row.int c).toInt) with
        | .error rc => .ok (rc, vars)
        | .ok value => do
            let info ← stores vars.info c.field.off (intBytes value)
            .ok (.ok, { vars with info })
  else .ok (row.result column, vars)

/-- The reads that `||` chains -/
def readColumns : List Column → InfoVars outputLen → Checked (TStdError × InfoVars outputLen)
  | [], vars => .ok (.ok, vars)
  | column :: columns, vars => do
      let (rc, vars) ← readColumn row column vars
      if rc = .ok then readColumns columns vars else .ok (rc, vars)

def infoColumns : List Column :=
  [.str .product, .str .ppid, .str .hwRev, .str .platform, .str .vendor, .str .serviceTag, .int .numMacs,
    .int .numFans, .int .fanMaxSpeed, .int .fanAirflow, .int .powerRating, .int .powerType]

def entityInfoGet (vars : InfoVars outputLen) : Checked (TStdError × EntityInfoBytes) := do
  let (rc, vars) ← readColumns row infoColumns vars
  if rc = .ok then
    .ok (.ok, vars.info)
  else
    let info ← safestrncpy afterNul vars.info StrColumn.hwRev.field.off ⟨vars.hwRevBuffer.toList, 0⟩ hwRevLen
    .ok (rc, info)

/-! ## The base MAC -/

/-- What decides where the base MAC comes from -/
structure BaseMacSource where
  /-- `entity_type == SDI_ENTITY_SYSTEM_BOARD` -/
  systemBoard : Bool
  /-- The text of `/sys/class/net/eth0/address`, if it can be opened -/
  address : Option (List Byte)
  /-- `base_mac` before anything is stored in it -/
  stack : Nat → BitVec 32
  setResult : TStdError
  getResult : TStdError
  blob : List Byte

namespace BaseMacSource

variable (source : BaseMacSource)

/-- `(uint8_t) base_mac[i]` for each `i` -/
def scanned (line : List Byte) : List Byte :=
  let words := sscanfHexBytes macAddrLen (cstr line)
  (List.range macAddrLen).map fun i => ((words[i]?).getD (source.stack i)).setWidth 8

/-- What is read of the address, if it is the source -/
def addressLine (isInit : Bool) : Option (Option (List Byte)) :=
  (if isInit ∧ source.systemBoard then source.address else none).map fun text => (fgets 18 text).map (·.1)

/-- The part of `sdi_entity_info_read` behind the other columns, with the new value of `is_init` -/
def read (isInit : Bool) (info : EntityInfoBytes) : Checked (TStdError × EntityInfoBytes × Bool) :=
  match source.addressLine isInit with
  | some none => .ok (.errcode .einval, info, isInit)
  | some (some line) => do
      let info ← stores info baseMacField.off (source.scanned line)
      .ok (source.setResult, info, if source.setResult = .ok then false else isInit)
  | none =>
      if source.getResult = .ok then do
        let info ← stores info baseMacField.off (source.blob.take macAddrLen)
        .ok (.ok, info, isInit)
      else .ok (source.getResult, info, isInit)

/-- The base MAC, if it can be had -/
def mac (isInit : Bool) : Option (List Byte) :=
  match source.addressLine isInit with
  | some none => none
  | some (some line) => if source.setResult = .ok then some (source.scanned line) else none
  | none => if source.getResult = .ok then some (source.blob.take macAddrLen) else none

end BaseMacSource

def entityInfoRead (source : BaseMacSource) (isInit : Bool) (hwRevBuffer : Vector Byte outputLen) :
    Checked (TStdError × EntityInfoBytes × Bool) := do
  let (rc, info) ← entityInfoGet afterNul row ⟨.replicate _ 0, hwRevBuffer⟩
  if rc = .ok then source.read isInit info else .ok (rc, info, isInit)

/-! ## What the call is for -/

/-- Each member is what its column says, a text cut and with a NUL. The base MAC is `mac`, and nothing is in the
member without a column. -/
structure InfoRow.Copied (mac : List Byte) (info : EntityInfoBytes) : Prop where
  str : ∀ c : StrColumn, c.field.Holds ((row.str c).bytes.take (c.field.size - 1)) info
  int : ∀ c : IntColumn, ∃ w : BitVec 32, c.field.Holds (intBytes w) info ∧ w.toInt = (row.int c).toInt
  baseMac : baseMacField.Holds mac info
  partNumber : partNumberField.Holds [] info

/-- The call returns; with success if every column can be read, and then with a copy of the row. -/
def CopiesRow (source : BaseMacSource) (isInit : Bool) (hwRevBuffer : Vector Byte outputLen) : Prop :=
  ∃ rc info isInit', entityInfoRead afterNul row source isInit hwRevBuffer = .ok (rc, info, isInit') ∧
    (rc = .ok → ∃ mac, source.mac isInit = some mac ∧ row.Copied mac info) ∧
    ((∃ c, row.result c ≠ .ok) ∨ source.mac isInit = none → rc ≠ .ok)

/-! ## The columns that are copied -/

namespace InfoRow

/-- The columns before the first one that cannot be read -/
def columnsRead : List Column := infoColumns.takeWhile fun c => row.result c = .ok

/-- The library cuts the text where the member would, and an integer is an `int`. There is no hardware revision. -/
structure Fits (outputLen : Nat) : Prop where
  str : ∀ c : StrColumn, c ≠ .hwRev →
    min (row.str c).bytes.length (outputLen - 1) = min (row.str c).bytes.length (c.field.size - 1)
  int : ∀ c : IntColumn, -2 ^ 31 ≤ (row.int c).toInt ∧ (row.int c).toInt < 2 ^ 31
  hwRev : (row.str .hwRev).bytes = []

/-- The texts that are read end in the structure. -/
def InObject (outputLen : Nat) : Prop :=
  ∀ c : StrColumn, c ≠ .hwRev → .str c ∈ row.columnsRead →
    c.field.off + min (row.str c).bytes.length (outputLen - 1) < entityInfoSize

end InfoRow

end OpxSdi.Vmdb
