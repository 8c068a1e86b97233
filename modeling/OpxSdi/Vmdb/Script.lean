import Mathlib.Data.List.Forall2
import OpxSdi.Lib.Fgets

/-!
# The SQL script runner (`sdi_db_run_sql_script`)

The runner reads a script into a buffer on its stack, each time behind what is there already, and executes
what the buffer holds when what it has just read has a semicolon. Every access to the buffer is checked.
-/

namespace OpxSdi.Vmdb

open Lib

def semicolon : Byte := 0x3b

/-- `sizeof(sql_cmd)` -/
def sqlCmdSize : Nat := 1024

/-- The variables of the runner, with what is left of the script and the texts that were executed. -/
structure Runner where
  sqlCmd : Vector Byte sqlCmdSize
  sqlCmdPtr : Nat
  lenRemaining : Int
  sql : List Byte
  executed : List (List Byte)

namespace Runner

/-- `bytes_read`, and whether the text that was read has a semicolon. -/
def scan (sqlCmd : Vector Byte sqlCmdSize) (sqlCmdPtr : Nat) : Checked (Nat × Bool) := do
  let text ← Ptr.loadCStr ⟨sqlCmd.toList, sqlCmdPtr⟩
  .ok (text.length, text.contains semicolon)

/-- One turn of the loop, and whether there is another one. -/
def turn (r : Runner) : Checked (Bool × Runner) :=
  match fgets r.lenRemaining r.sql with
  | none => .ok (false, r)
  | some (piece, sql) => do
      let sqlCmd ← stores r.sqlCmd r.sqlCmdPtr (piece ++ [0])
      let (bytesRead, found) ← scan sqlCmd r.sqlCmdPtr
      if found then
        let command ← Ptr.loadCStr ⟨sqlCmd.toList, 0⟩
        .ok (true, { sqlCmd, sqlCmdPtr := 0, lenRemaining := sqlCmdSize, sql, executed := r.executed ++ [command] })
      else
        let lenRemaining := r.lenRemaining - bytesRead
        .ok (decide (¬lenRemaining ≤ 0), { r with sqlCmd, sqlCmdPtr := r.sqlCmdPtr + bytesRead, lenRemaining, sql })

/-- The loop, if it ends within `fuel` turns. -/
def loop : (fuel : Nat) → Runner → Checked (Option Runner)
  | 0, _ => .ok none
  | fuel + 1, r => do
      let (more, r) ← turn r
      if more then loop fuel r else .ok (some r)

end Runner

/-- The texts that are executed. The script is `none` if the file is not opened, and `stack` is what the
buffer holds before. -/
def sdiDbRunSqlScript (stack : Vector Byte sqlCmdSize) (script : Option (List Byte)) (fuel : Nat) :
    Checked (Option (List (List Byte))) :=
  match script with
  | none => .ok (some [])
  | some sql => do
      let r ← Runner.loop fuel
        { sqlCmd := stack, sqlCmdPtr := 0, lenRemaining := sqlCmdSize, sql, executed := [] }
      .ok (r.map (·.executed))

/-! ## The documented format -/

/-- A command over one or more lines. Only the last line ends with a semicolon. -/
structure SqlCommand where
  /-- The lines before the last one, without their newlines -/
  inner : List (List Byte)
  /-- The last line before its semicolon -/
  last : List Byte
  inner_lines : ∀ line ∈ inner, newline ∉ line ∧ line.getLast? ≠ some semicolon
  last_line : newline ∉ last

namespace SqlCommand

def body (c : SqlCommand) : List Byte := c.inner.flatMap (· ++ [newline]) ++ (c.last ++ [semicolon])

/-- The text is the command, perhaps with the newlines before and after it. -/
def Passed (text : List Byte) (c : SqlCommand) : Prop :=
  ∃ before after, before ∈ [[], [newline]] ∧ after ∈ [[], [newline]] ∧ text = before ++ c.body ++ after

/-- No NUL, and no semicolon before the last line -/
def Plain (c : SqlCommand) : Prop := 0 ∉ c.body ∧ ∀ line ∈ c.inner, semicolon ∉ line

end SqlCommand

/-- Commands with a newline after each. The newline after the last one may be missing. -/
inductive ScriptOf : List SqlCommand → List Byte → Prop
  | nil : ScriptOf [] []
  | last (c : SqlCommand) : ScriptOf [c] c.body
  | cons (c : SqlCommand) {cs : List SqlCommand} {script : List Byte} : ScriptOf cs script →
      ScriptOf (c :: cs) (c.body ++ newline :: script)

/-- For every stack, the runner does not leave its buffer and comes to an end, and the texts that it has then
executed are the commands of a script in the documented format. -/
def RunsScript (script : List Byte) : Prop := ∀ stack : Vector Byte sqlCmdSize,
  (∀ fuel, Returns (sdiDbRunSqlScript stack (some script) fuel)) ∧
    ∃ fuel executed, sdiDbRunSqlScript stack (some script) fuel = .ok (some executed) ∧
      ∀ commands : List SqlCommand, (∀ c ∈ commands, c.body.length < sqlCmdSize) → ScriptOf commands script →
        List.Forall₂ SqlCommand.Passed executed commands

/-! ## What decides about a script -/

/-- From this place of a script on, with `used` bytes of a command read, the bytes of a command come to be all
that the buffer can hold, and the piece that is read last has no semicolon before its first NUL. -/
inductive Clogs : (used : Nat) → (script : List Byte) → Prop
  | full (script : List Byte) : Clogs (sqlCmdSize - 1) script
  | command {used : Nat} {script : List Byte} : used < sqlCmdSize - 1 →
      semicolon ∈ cstr (readLine (sqlCmdSize - 1 - used) script).1 →
        Clogs 0 (readLine (sqlCmdSize - 1 - used) script).2 → Clogs used script
  | part {used : Nat} {script : List Byte} : used < sqlCmdSize - 1 → script ≠ [] →
      semicolon ∉ cstr (readLine (sqlCmdSize - 1 - used) script).1 →
        Clogs (used + (cstr (readLine (sqlCmdSize - 1 - used) script).1).length)
          (readLine (sqlCmdSize - 1 - used) script).2 → Clogs used script

/-- Each command fits in the buffer with the newline that is left over where a command before it has filled
the buffer. `carry` is the length of what is left over. -/
def Spaced : (carry : Nat) → List SqlCommand → Prop
  | _, [] => True
  | carry, c :: cs => carry + c.body.length < sqlCmdSize ∧
      Spaced (if carry + c.body.length = sqlCmdSize - 1 then 1 else 0) cs

end OpxSdi.Vmdb
