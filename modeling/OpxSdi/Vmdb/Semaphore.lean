import Mathlib.Data.Finset.Card

/-!
# The semaphore of the VM database (`sdi_db_ops.c`)

Each query of the functions that read and write a field is made between `sdi_db_sem_take` and
`sdi_db_sem_give`, which ignore what `semop` returns. The semaphore begins at 0, and each master that opens the
database gives it once. The scripts that `sdi_db_init_database` and `sdi_db_reinit_database` run do not take it:
`sdi_db_open` runs them after the give of a master, and they are no part of the model.
-/

namespace OpxSdi.Vmdb

/-! ## System V semaphores -/

/-- `SEMVMX` -/
@[irreducible]
def semvmx : Nat := 32767

inductive Semop
  | done (value : Nat)
  | blocked
  | erange
  | eintr
  deriving DecidableEq

/-- One operation on a semaphore with no flags. A signal ends it only while it blocks. -/
def semop (value : Nat) (semOp : Int) (signal : Bool) : Semop :=
  if 0 ≤ semOp then
    if value + semOp ≤ semvmx then .done (value + semOp).toNat else .erange
  else if 0 ≤ value + semOp then .done (value + semOp).toNat
  else if signal then .eintr else .blocked

/-! ## Queries of several threads -/

structure Semaphore where
  value : Nat
  /-- The threads in `sdi_db_sem_take`. -/
  waiting : Finset Nat
  /-- The threads that are asking the database. -/
  inside : Finset Nat
  /-- How many threads have died there. -/
  died : Nat
  /-- How often a master has opened the database. -/
  opened : Nat
  /-- How many takes a signal has ended. -/
  interrupted : Nat
  /-- How many gives have been lost at the limit of the semaphore. -/
  lost : Nat
  deriving DecidableEq

inductive SemEvent
  | openDb (masterf : Bool)
  | query (t : Nat)
  | take (t : Nat) (signal : Bool)
  | give (t : Nat)
  | die (t : Nat)
  deriving DecidableEq, Repr

namespace Semaphore

def created : Semaphore := ⟨0, ∅, ∅, 0, 0, 0, 0⟩

def dbSemGive (s : Semaphore) : Semaphore :=
  match semop s.value 1 false with
  | .done value => { s with value := value }
  | _ => { s with lost := s.lost + 1 }

def dbSemTake (s : Semaphore) (t : Nat) (signal : Bool) : Semaphore :=
  match semop s.value (-1) signal with
  | .done value => { s with value := value, waiting := s.waiting.erase t, inside := insert t s.inside }
  | .blocked => s
  | _ => { s with waiting := s.waiting.erase t, inside := insert t s.inside, interrupted := s.interrupted + 1 }

def step (s : Semaphore) : SemEvent → Semaphore
  | .openDb masterf => if masterf then { s.dbSemGive with opened := s.opened + 1 } else s
  | .query t => if t ∈ s.inside then s else { s with waiting := insert t s.waiting }
  | .take t signal => if t ∈ s.waiting then s.dbSemTake t signal else s
  | .give t => if t ∈ s.inside then { s.dbSemGive with inside := s.inside.erase t } else s
  | .die t => if t ∈ s.inside then { s with inside := s.inside.erase t, died := s.died + 1 } else s

end Semaphore

end OpxSdi.Vmdb
