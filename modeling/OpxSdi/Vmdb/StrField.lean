import Mathlib.Logic.Function.Basic
import OpxSdi.Vmdb.BinField

/-!
# Strings in the VM database (`sdi_db_str_field_set`, `sdi_db_get_resource_handle_by_alias`)

A string is put between quotes in a buffer of 128 bytes and handed to the SQL library, which makes the
statement.
-/

namespace OpxSdi.Vmdb

open Lib Sql Buffer

/-! ## The SQL library -/

/-- The arguments of `db_sql_set_attribute`: `UPDATE table SET field=value WHERE condition` -/
structure SetAttribute where
  table : Name
  field : Name
  value : List Byte
  condition : List Byte

/-- A row of a table with string fields. -/
structure FieldRow where
  resourceHandle : Int
  fields : List Byte → List Byte

/-- A row of `Entity_Resource`. -/
structure AliasRow where
  key : Row ResourceColumn
  aliasName : List Byte

/-- What the SQL library does with its texts. -/
structure SqlLibrary where
  update : SetAttribute → List FieldRow → Except TStdError Unit × List FieldRow
  /-- Whether the row meets the condition. -/
  selects : (condition : List Byte) → AliasRow → Bool

/-! ## Setting a string -/

/-- `"'%s'"` -/
def quotedText (value : Name) : List Byte := quote :: (value.bytes ++ [quote])

/-- The code that is returned before the database is asked, or what it is asked for. -/
def dbStrFieldSet (resHandle : Handle) (table field value : Name) : Checked (Except TStdError SetAttribute) := do
  let (condition, _) ← dbCondResourceHandle (indeterminate sqlDefaultBufferLength) 0 resHandle
  let (valueStr, _) ← (indeterminate sqlDefaultBufferLength).snprintf 0 sqlDefaultBufferLength (quotedText value)
  let valueStr ← valueStr.string
  let condition ← condition.string
  return .ok ⟨table, field, valueStr, condition⟩

/-! ## Looking up an alias -/

/-- `"%s = %u AND %s = %u AND %s = "` -/
def aliasPrefix (entityHandle : Handle) (resourceType : BitVec 32) : List Byte :=
  (bytesOf " AND ").intercalate ((ofEntity entityHandle resourceType).map (·.text ResourceColumn.name)) ++
    bytesOf " AND Alias = "

/-- The code that is returned before the database is asked, or the condition that it is asked for. -/
def aliasCondition (entityHandle : Handle) (resourceType : BitVec 32) (aliasName : Name) :
    Checked (Except TStdError (List Byte)) := do
  let (condition, _) ← (indeterminate sqlDefaultBufferLength).snprintf 0 sqlDefaultBufferLength
    (aliasPrefix entityHandle resourceType ++ quotedText aliasName)
  let condition ← condition.string
  return .ok condition

/-- The handle in the first row that is selected. -/
def firstHandle (selects : AliasRow → Bool) (rows : List AliasRow) : Except TStdError Handle :=
  match rows.find? selects with
  | none => .error .errno
  | some row => (dbStrtol (decimalInt (row.key .resourceHandle))).map toHandle

def dbGetResourceHandleByAlias (lib : SqlLibrary) (rows : List AliasRow) (entityHandle : Handle)
    (resourceType : BitVec 32) (aliasName : Name) : Checked (Except TStdError Handle) := do
  match ← aliasCondition entityHandle resourceType aliasName with
  | .error rc => .ok (.error rc)
  | .ok condition => .ok (firstHandle (lib.selects condition) rows)

/-! ## What the strings are for -/

/-- The field of the rows of the resource becomes the string. -/
def assign (resHandle : Handle) (field : Name) (value : List Byte) (row : FieldRow) : FieldRow :=
  if row.resourceHandle = (uint resHandle).toNat then
    { row with fields := Function.update row.fields field.bytes value }
  else row

def AliasRow.hasAlias (entityHandle : Handle) (resourceType : BitVec 32) (value : List Byte) (row : AliasRow) : Bool :=
  (ofEntity entityHandle resourceType).all (·.holds row.key) && row.aliasName = value

/-- The library does with well-formed literals what SQL says. -/
structure SqlLibrary.Documented (lib : SqlLibrary) (table field : Name) : Prop where
  update : ∀ resHandle text value rows rows', Literal text value →
    lib.update ⟨table, field, text, condText resHandle⟩ rows = (.ok (), rows') →
      rows' = rows.map (assign resHandle field value)
  selects : ∀ entityHandle resourceType text value row, Literal text value →
    lib.selects (aliasPrefix entityHandle resourceType ++ text) row =
      AliasRow.hasAlias entityHandle resourceType value row

/-- The call fails before it asks the database, or it asks for a literal of the string. Then a successful call
makes the string the field of the resource, and changes no other field or row. -/
def StoresString (resHandle : Handle) (table field value : Name) : Prop :=
  (∃ rc, dbStrFieldSet resHandle table field value = .ok (.error rc)) ∨
    ∃ call, dbStrFieldSet resHandle table field value = .ok (.ok call) ∧ Literal call.value value.bytes ∧
      ∀ lib : SqlLibrary, lib.Documented table field → ∀ rows rows', lib.update call rows = (.ok (), rows') →
        rows' = rows.map (assign resHandle field value.bytes)

/-- The call fails before it asks the database, or it asks with a literal of the alias. Then it matches the
rows with the alias. -/
def FindsAlias (entityHandle : Handle) (resourceType : BitVec 32) (aliasName : Name) : Prop :=
  (∃ rc, aliasCondition entityHandle resourceType aliasName = .ok (.error rc)) ∨
    ∃ text, aliasCondition entityHandle resourceType aliasName =
        .ok (.ok (aliasPrefix entityHandle resourceType ++ text)) ∧ Literal text aliasName.bytes ∧
      ∀ (lib : SqlLibrary) (table field : Name), lib.Documented table field → ∀ rows,
        dbGetResourceHandleByAlias lib rows entityHandle resourceType aliasName =
          .ok (firstHandle (AliasRow.hasAlias entityHandle resourceType aliasName.bytes) rows)

end OpxSdi.Vmdb
