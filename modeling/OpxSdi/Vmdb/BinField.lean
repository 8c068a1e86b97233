import OpxSdi.Lib.Print
import OpxSdi.Vmdb.DbOps

/-!
# Blobs in the VM database (`sdi_db_bin_field_set`)

The statement is put together in a buffer of 128 bytes: an `UPDATE` clause, the digits of the blob, and a
`WHERE` clause that is built in a buffer of its own.
-/

namespace OpxSdi.Vmdb

open Lib Buffer

/-- A name that is passed as a string. -/
structure Name where
  bytes : List Byte
  nul_free : 0 ∉ bytes

structure BinWrite where
  resHandle : Handle
  table : Name
  field : Name
  /-- The bytes at `value`. -/
  value : Nat → Byte
  len : BitVec 32

namespace BinWrite

def blob (w : BinWrite) : List Byte := (List.range w.len.toNat).map w.value

/-- `"UPDATE %s SET %s = x'"` -/
def updateText (w : BinWrite) : List Byte :=
  bytesOf "UPDATE " ++ w.table.bytes ++ bytesOf " SET " ++ w.field.bytes ++ bytesOf " = x'"

end BinWrite

/-- `"%s=%u"` -/
def condText (rHdl : Handle) : List Byte :=
  bytesOf ResourceColumn.resourceHandle.name ++ bytesOf "=" ++ decimal (uint rHdl).toNat

def dbCondResourceHandle (buf : Buffer) (pos : Nat) (rHdl : Handle) : Checked (Buffer × BitVec 32) :=
  buf.snprintf pos sqlDefaultBufferLength (condText rHdl)

def whereText (rHdl : Handle) : List Byte := bytesOf "' WHERE " ++ condText rHdl

/-- The condition with its keyword, and its length. -/
def whereCondition (rHdl : Handle) : Checked (Buffer × BitVec 32) := do
  let (condition, stmtLen) ← (indeterminate sqlDefaultBufferLength).snprintf 0 sqlDefaultBufferLength
    (bytesOf "' WHERE ")
  let (condition, condLen) ← dbCondResourceHandle condition stmtLen.toNat rHdl
  return (condition, condLen + stmtLen)

/-- One iteration of the loop over the blob; the room is computed as a `size_t`. -/
def printByte (s : Buffer × BitVec 32) (b : Byte) : Checked (Buffer × BitVec 32) := do
  let (sqlStmt, n) ← s.1.snprintf s.2.toNat (BitVec.ofNat 64 sqlDefaultBufferLength - s.2.setWidth 64).toNat
    (hexByte b)
  return (sqlStmt, s.2 + n)

/-- The code that is returned before the database is asked, or the buffer that it is given to execute. -/
def dbBinFieldSet (w : BinWrite) : Checked (Except TStdError Buffer) := do
  let (condition, condLen) ← whereCondition w.resHandle
  let (sqlStmt, stmtLen) ← (indeterminate sqlDefaultBufferLength).snprintf 0 sqlDefaultBufferLength w.updateText
  if (BitVec.ofNat 32 sqlDefaultBufferLength + stmtLen + condLen) >>> 1 ≤ w.len then
    return .error (.errcode .einval)
  let (sqlStmt, _) ← w.blob.foldlM printByte (sqlStmt, stmtLen)
  let sqlStmt ← sqlStmt.strcat condition
  return .ok sqlStmt

/-! ## What a write is for -/

namespace BinWrite

variable (w : BinWrite)

def Fits : Prop := w.updateText.length + 2 * w.len.toNat + (whereText w.resHandle).length < sqlDefaultBufferLength

/-- The buffer holds the complete statement, whose digits stand for the blob. -/
def Stated (sqlStmt : Buffer) : Prop :=
  sqlStmt.length = sqlDefaultBufferLength ∧ ∃ h, sqlStmt.string = .ok (w.updateText ++ h ++ whereText w.resHandle) ∧
    h.length = 2 * w.len.toNat ∧ decodeHex h = some w.blob

/-- The blob is refused because it does not fit, or the statement is complete. -/
def Meets : Prop :=
  dbBinFieldSet w = .ok (.error (.errcode .einval)) ∧ ¬ w.Fits ∨
    ∃ sqlStmt, dbBinFieldSet w = .ok (.ok sqlStmt) ∧ w.Stated sqlStmt

def Refused : Prop :=
  (BitVec.ofNat 32 sqlDefaultBufferLength + printed w.updateText + printed (whereText w.resHandle)) >>> 1 ≤ w.len

end BinWrite

end OpxSdi.Vmdb
