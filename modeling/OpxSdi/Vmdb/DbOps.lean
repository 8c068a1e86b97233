import OpxSdi.Common.StdError
import OpxSdi.Lib.Sql
import OpxSdi.Lib.Walk

/-!
# Handles in the VM database (`sdi_db_ops.c`)

Each lookup formats a condition, takes the attribute of the first row that the database returns for it, and
casts the number it reads to a handle. No condition is cut off in its buffer (`infoConditions_fit`,
`resourceConditions_fit`). The semaphore around every query has a model of its own.
-/

namespace OpxSdi.Vmdb

open Lib Sql

/-! ## Tables -/

/-- The column of `Entity_Info` that the lookups use. -/
inductive InfoColumn
  | entityHandle
  deriving DecidableEq, Repr

def InfoColumn.name : InfoColumn → String
  | .entityHandle => "Entity_Handle"

/-- The columns of `Entity_Resource` that the lookups use. -/
inductive ResourceColumn
  | entityHandle | resourceHandle | resourceType
  deriving DecidableEq, Repr

def ResourceColumn.name : ResourceColumn → String
  | .entityHandle => "Entity_Handle"
  | .resourceHandle => "Resource_Handle"
  | .resourceType => "Resource_Type"

structure InfoTable extends Table InfoColumn where
  nodup : (rows.map (· .entityHandle)).Nodup
  pos : ∀ r ∈ rows, 0 < r .entityHandle
  lt : ∀ r ∈ rows, r .entityHandle < 2 ^ 31

structure ResourceTable extends Table ResourceColumn where
  nodup : (rows.map (· .resourceHandle)).Nodup
  pos : ∀ r ∈ rows, 0 < r .resourceHandle

structure Database where
  info : InfoTable
  resources : ResourceTable

/-! ## Handles -/

abbrev Handle := BitVec 64

def null : Handle := 0

/-- `(sdi_hdl_t)(uintptr_t)hdl` of an `int`. -/
def toHandle (hdl : BitVec 32) : Handle := hdl.signExtend 64

/-- `(uint_t)(uintptr_t)hdl` -/
def uint (hdl : Handle) : BitVec 32 := hdl.setWidth 32

/-- A handle variable that is passed by reference. -/
structure Reference where
  address : BitVec 64
  value : Handle

/-! ## Queries -/

/-- `SDI_DB_SQL_DEFAULT_BUFFER_LENGTH` -/
def sqlDefaultBufferLength : Nat := 128

section

variable {κ : Type}

def dbSqlGetAttribute (table : Table κ) (attr : Attribute κ) (condition : Condition κ) :
    Except TStdError (List Byte) :=
  match (select attr condition table.rows).head? with
  | none => .error .errno
  | some v => .ok (decimalInt v)

def dbStrtol (buffer : List Byte) : Except TStdError (BitVec 32) :=
  let (v, rest) := strtol buffer
  if rest = [] then .ok (BitVec.ofInt 32 v) else .error .errno

/-- What every lookup of a handle does with its condition. -/
def dbGetHandle (table : Table κ) (column : κ) (condition : Condition κ) : Except TStdError Handle := do
  let result ← dbSqlGetAttribute table (.column column) condition
  let hdl ← dbStrtol result
  return toHandle hdl

end

def firstEntityCondition : Condition InfoColumn where
  terms := []
  orderBy := some .entityHandle
  limit := some 1

def dbGetFirstEntity (db : Database) : Except TStdError Handle :=
  dbGetHandle db.info.toTable .entityHandle firstEntityCondition

def nextEntityCondition (hdl : BitVec 32) : Condition InfoColumn where
  terms := [⟨.entityHandle, .gt, hdl⟩]
  orderBy := some .entityHandle
  limit := some 1

-- The address of the handle, not the handle, is formatted.
def dbGetNextEntity (db : Database) (entityHandle : Reference) : Except TStdError Handle :=
  dbGetHandle db.info.toTable .entityHandle (nextEntityCondition (uint entityHandle.address))

def ofEntity (entityHandle : Handle) (resourceType : BitVec 32) : List (Term ResourceColumn) :=
  [⟨.entityHandle, .eq, uint entityHandle⟩, ⟨.resourceType, .eq, resourceType⟩]

def resourceCountCondition (entityHandle : Handle) (resourceType : BitVec 32) : Condition ResourceColumn where
  terms := ofEntity entityHandle resourceType

def dbGetResourceCount (db : Database) (entityHandle : Handle) (resourceType : BitVec 32) :
    Except TStdError (BitVec 32) := do
  let result ← dbSqlGetAttribute db.resources.toTable .count (resourceCountCondition entityHandle resourceType)
  dbStrtol result

def firstResourceCondition (entityHandle : Handle) (resourceType : BitVec 32) : Condition ResourceColumn where
  terms := ofEntity entityHandle resourceType
  orderBy := some .resourceHandle
  limit := some 1

def dbGetFirstResource (db : Database) (entityHandle : Handle) (resourceType : BitVec 32) :
    Except TStdError Handle :=
  dbGetHandle db.resources.toTable .resourceHandle (firstResourceCondition entityHandle resourceType)

def nextResourceCondition (entityHandle : Handle) (resourceType : BitVec 32) (hdl : BitVec 32) :
    Condition ResourceColumn where
  terms := ofEntity entityHandle resourceType ++ [⟨.resourceHandle, .gt, hdl⟩]
  orderBy := some .resourceHandle
  limit := some 1

def dbGetNextResource (db : Database) (entityHandle : Handle) (resourceType : BitVec 32)
    (resourceHandle : Reference) : Except TStdError Handle :=
  dbGetHandle db.resources.toTable .resourceHandle
    (nextResourceCondition entityHandle resourceType (uint resourceHandle.value))

def instanceCondition (entityHandle : Handle) (resourceType resourceInstance : BitVec 32) :
    Condition ResourceColumn where
  terms := ofEntity entityHandle resourceType
  orderBy := some .resourceHandle
  limit := some 1
  offset := some (resourceInstance - 1)

def dbGetResourceHandle (db : Database) (entityHandle : Handle) (resourceType resourceInstance : BitVec 32) :
    Except TStdError Handle :=
  dbGetHandle db.resources.toTable .resourceHandle
    (instanceCondition entityHandle resourceType resourceInstance)

def parentEntityCondition (resourceHandle : Handle) (resourceType : BitVec 32) : Condition ResourceColumn where
  terms := [⟨.resourceHandle, .eq, uint resourceHandle⟩, ⟨.resourceType, .eq, resourceType⟩]

def dbResourceGetParentEntity (db : Database) (resourceHandle : Handle) (resourceType : BitVec 32) :
    Except TStdError Handle :=
  dbGetHandle db.resources.toTable .entityHandle (parentEntityCondition resourceHandle resourceType)

/-! ## Entities and resources of the VM (`sdi_vm_entity.c`)

`stack k` is the address of the parameter of the `k`-th call of a function that passes it on by reference.
-/

/-- Lookups that fail return `NULL`. -/
def orNull : Except TStdError Handle → Handle
  | .error _ => null
  | .ok hdl => hdl

variable (db : Database) (stack : Nat → BitVec 64)

def entityFindFirst : Handle := orNull (dbGetFirstEntity db)

def entityFindNext (address : BitVec 64) (hdl : Handle) : Handle := orNull (dbGetNextEntity db ⟨address, hdl⟩)

/-- The handles that `fn` is called with, in their order. -/
def entityForEach (fuel : Nat) : Option (List Handle) :=
  walk null (fun k hdl => entityFindNext db (stack k) hdl) fuel 0 (entityFindFirst db)

def entityResourceCountGet (hdl : Handle) (resourceType : BitVec 32) : BitVec 32 :=
  match dbGetResourceCount db hdl resourceType with
  | .error _ => 0
  | .ok resourceCount => resourceCount

def entityGetFirstResource (hdl : Handle) (type : BitVec 32) : Handle := orNull (dbGetFirstResource db hdl type)

def entityGetNextResource (address : BitVec 64) (hdl : Handle) (type : BitVec 32) : Handle :=
  match dbResourceGetParentEntity db hdl type with
  | .error _ => null
  | .ok entityHdl => orNull (dbGetNextResource db entityHdl type ⟨address, hdl⟩)

/-- What `entityGetNextResource` returns from call to call, from `entityGetFirstResource` on. -/
def iterateResources (hdl : Handle) (type : BitVec 32) (fuel : Nat) : Option (List Handle) :=
  walk null (fun k rHdl => entityGetNextResource db (stack k) rHdl type) fuel 0 (entityGetFirstResource db hdl type)

/-- `SDI_RESOURCE_MAX`, where `SDI_RESOURCE_MIN` is 0. -/
def resourceMax : Nat := 13

/-- The handles that `fn` is called with, in their order. -/
def entityForEachResource (hdl : Handle) : List Handle :=
  (List.range resourceMax).flatMap fun type =>
    match dbGetResourceCount db hdl (BitVec.ofNat 32 type) with
    | .error _ => []
    | .ok count => (List.range count.toNat).filterMap fun i =>
        (dbGetResourceHandle db hdl (BitVec.ofNat 32 type) (BitVec.ofNat 32 (i + 1))).toOption

/-! ### What the enumerations are for -/

/-- Every entity is visited once, in ascending order, and the enumeration stops. -/
def EntitiesEnumerated : Prop :=
  ∃ hdls, (∃ fuel, entityForEach db stack fuel = some hdls) ∧ hdls.Pairwise (· < ·) ∧
    ∀ hdl : Handle, hdl ∈ hdls ↔ ∃ r ∈ db.info.rows, (hdl.toNat : Int) = r .entityHandle

/-- The resources of a type come in the order of their instances, as many as are counted, and then `NULL`. -/
def ResourcesEnumerated (hdl : Handle) (type : BitVec 32) : Prop :=
  ∃ hdls, (∃ fuel, iterateResources db stack hdl type fuel = some hdls) ∧ hdls.Pairwise (· < ·) ∧
    hdls.length = (entityResourceCountGet db hdl type).toNat ∧
    ∀ i, ∀ h : i < hdls.length, dbGetResourceHandle db hdl type (BitVec.ofNat 32 (i + 1)) = .ok hdls[i]

def Enumerated : Prop := EntitiesEnumerated db stack ∧ ∀ hdl type, ResourcesEnumerated db stack hdl type

end OpxSdi.Vmdb
