import OpxSdi.Common.StdError
import OpxSdi.Lib.Checked
import OpxSdi.Lib.Device

/-!
# The devices behind an NVRAM

Files that are opened, positioned, read and written, and EEPROMs that transfer one byte in each transaction.
Whatever is done to a device is counted. The bus lock is left out: a bus is acquired or the acquisition fails.
-/

namespace OpxSdi.Nvram

open Lib

/-- A regular file grows when it is written past its end, a disk does not. -/
structure File where
  size : Nat
  byte : Nat → Byte
  grows : Bool
  zero_past : ∀ i, size ≤ i → byte i = 0

/-- An EEPROM takes the low `offsetBits` bits of an SMBus command as its address. -/
structure Chip where
  i2cAddr : BitVec 16
  offsetBits : Nat
  offsetBits_le : offsetBits ≤ 32
  deriving DecidableEq, Repr

structure Io where
  files : String → Option File
  eeproms : Chip → Nat → Byte
  /-- The caller's buffer. -/
  buf : Nat → Byte
  /-- The lowest free file descriptor. -/
  fd : Nat
  /-- How often a device has been touched. -/
  touched : Nat

abbrev M := Device.M Unit Errno Io

abbrev State := Device Unit Errno Io

namespace File

def empty : File := ⟨0, fun _ => 0, true, fun _ _ => rfl⟩

def truncate (n : Nat) (f : File) : File where
  size := n
  byte i := if i < n then f.byte i else 0
  grows := f.grows
  zero_past _ h := if_neg (Nat.not_lt.mpr h)

/-- How many of `n` bytes fit from `pos` on. -/
def room (f : File) (pos n : Nat) : Nat := if f.grows then n else min n (f.size - pos)

/-- A write of no bytes does not make the file longer. -/
def write (f : File) (pos n : Nat) (data : Nat → Byte) : File where
  size := if n = 0 then f.size else max f.size (pos + n)
  byte i := if pos ≤ i ∧ i < pos + n then data (i - pos) else f.byte i
  grows := f.grows
  zero_past i h := by
    split at h
    · rw [if_neg (by omega)]
      exact f.zero_past i h
    · rw [if_neg (by omega)]
      exact f.zero_past i (by omega)

end File

/-! ## System calls -/

/-- `MAX_RW_COUNT` of the kernel: no call transfers more bytes. -/
def maxRwCount : Nat := 0x7ffff000

def touch : M Unit := Device.internal fun io => ((), { io with touched := io.touched + 1 })

def syscall {α : Type} (f : Io → α × Io) : M α := do
  touch
  Device.access f

def fileAccess (path : String) : M Bool := syscall fun io => ((io.files path).isSome, io)

def fileOpen (path : String) : M Nat := do
  let (found, fd) ← syscall fun io => (((io.files path).isSome, io.fd), io)
  if found then return fd else Device.fail .current

/-- `open` with `O_CREAT` of a file that does not exist. -/
def fileCreate (path : String) : M Nat :=
  syscall fun io => (io.fd, { io with files := Function.update io.files path (some .empty) })

def ftruncate (path : String) (size : Nat) : M Unit :=
  syscall fun io => ((), { io with files := Function.update io.files path ((io.files path).map (·.truncate size)) })

/-- `lseek` to an absolute position, which must not be negative. -/
def lseek (pos : BitVec 64) : M Nat := do
  syscall fun io => ((), io)
  if pos.toInt < 0 then Device.fail .einval else return pos.toNat

/-- The number of bytes that are read into the buffer. -/
def fileRead (path : String) (pos len : Nat) : M Nat :=
  syscall fun io =>
    match io.files path with
    | none => (0, io)
    | some f =>
        let n := min (min len maxRwCount) (f.size - pos)
        (n, { io with buf := fun i => if i < n then f.byte (pos + i) else io.buf i })

/-- The number of bytes that are written from the buffer. -/
def fileWrite (path : String) (pos len : Nat) : M Nat :=
  syscall fun io =>
    match io.files path with
    | none => (0, io)
    | some f =>
        let n := f.room pos (min len maxRwCount)
        (n, { io with files := Function.update io.files path (some (f.write pos n io.buf)) })

/-! ## SMBus transactions -/

def i2cAcquireBus : M Unit := Device.access fun io => ((), io)

def Chip.address (chip : Chip) (cmd : BitVec 32) : Nat := cmd.toNat % 2 ^ chip.offsetBits

/-- `sdi_smbus_execute` of a byte read to `buffer + count`. -/
def smbusReadExecute (chip : Chip) (cmd : BitVec 32) (count : Nat) : M Unit :=
  syscall fun io => ((), { io with buf := Function.update io.buf count (io.eeproms chip (chip.address cmd)) })

/-- `sdi_smbus_execute` of a byte write from `buffer + count`. -/
def smbusWriteExecute (chip : Chip) (cmd : BitVec 32) (count : Nat) : M Unit :=
  syscall fun io => ((), { io with
    eeproms := Function.update io.eeproms chip
      (Function.update (io.eeproms chip) (chip.address cmd) (io.buf count)) })

/-- The loop of a multi-byte transfer with `left` bytes to go. -/
def multiByteLoop (execute : BitVec 32 → Nat → M Unit) (cmd : BitVec 32) : (count left : Nat) → M Unit
  | _, 0 => pure ()
  | count, left + 1 => do
      execute (cmd + BitVec.ofNat 32 count) count
      multiByteLoop execute cmd (count + 1) left

def smbusReadMultiByte (chip : Chip) (cmd : BitVec 32) (byteCount : Nat) : M Unit := do
  i2cAcquireBus
  multiByteLoop (smbusReadExecute chip) cmd 0 byteCount

def smbusWriteMultiByte (chip : Chip) (cmd : BitVec 32) (byteCount : Nat) : M Unit := do
  i2cAcquireBus
  multiByteLoop (smbusWriteExecute chip) cmd 0 byteCount

end OpxSdi.Nvram
