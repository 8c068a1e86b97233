import OpxSdi.Nvram.Storage

/-!
# NVRAM accesses (`sdi_nvram.c`, `sdi_vm_nvram.c`)

An NVRAM is a window of a device. The driver and the VM back end check a range against the size of the
window and transfer it from the offset of the window on.
-/

namespace OpxSdi.Nvram

open Lib

inductive Op
  | read | write
  deriving DecidableEq, Repr

/-- `dev` names a file, or is 0 for the chassis EEPROM. -/
inductive NvramDev
  | file (path : String)
  | eeprom (chip : Chip)
  deriving DecidableEq, Repr

/-- `nvram_device_t` -/
structure NvramDevice where
  dev : NvramDev
  ofs : BitVec 64
  size : BitVec 32
  deriving DecidableEq, Repr

/-- A row of the table `NVRAM`. -/
structure NvramRow where
  dataSize : BitVec 32
  dataFile : String
  offset : BitVec 64
  deriving DecidableEq, Repr

/-- `off_t` plus `uint_t`. -/
def position (base : BitVec 64) (ofs : BitVec 32) : BitVec 64 := base + ofs.setWidth 64

def Op.transfer : Op → String → (pos len : Nat) → M Nat
  | .read => fileRead
  | .write => fileWrite

def Op.multiByte : Op → Chip → (cmd : BitVec 32) → (byteCount : Nat) → M Unit
  | .read => smbusReadMultiByte
  | .write => smbusWriteMultiByte

/-- Open the file, seek the position and transfer the range. A short transfer is an error. -/
def seekTransfer (op : Op) (openFile : M Nat) (path : String) (pos : BitVec 64) (len : BitVec 32) : M Unit := do
  let _ ← openFile
  let pos ← lseek pos
  let count ← op.transfer path pos len.toNat
  if count ≠ len.toNat then Device.fail .current

/-! ## The driver -/

def nvramAccess (op : Op) (nvramData : NvramDevice) (ofs len : BitVec 32) : M Unit :=
  if nvramData.size < ofs + len then Device.fail .einval
  else match nvramData.dev with
    | .file path => seekTransfer op (fileOpen path) path (position nvramData.ofs ofs) len
    | .eeprom chip => op.multiByte chip ((position nvramData.ofs ofs).setWidth 32) len.toNat

def nvramRead := nvramAccess .read
def nvramWrite := nvramAccess .write

/-! ## The VM back end -/

def dbFieldGet {α : Type} (value : α) : M α := Device.access fun io => (value, io)

def nvramFindOrCreateNvramFile (path : String) (size : BitVec 32) : M Nat := do
  if ← fileAccess path then fileOpen path
  else do
    let fd ← fileCreate path
    if 0 < fd then ftruncate path size.toNat
    return fd

def sdiNvramAccess (op : Op) (row : NvramRow) (ofs len : BitVec 32) : M Unit := do
  let nvramSize ← dbFieldGet row.dataSize
  if nvramSize < ofs + len then Device.fail .e2big
  else do
    let nvramFilename ← dbFieldGet row.dataFile
    let nvramOfs ← dbFieldGet row.offset
    match ← Device.attempt (seekTransfer op (nvramFindOrCreateNvramFile nvramFilename nvramSize) nvramFilename
      (position nvramOfs ofs) len) with
    | .ok () => return ()
    | .error _ => Device.fail .efault

def sdiNvramRead := sdiNvramAccess .read
def sdiNvramWrite := sdiNvramAccess .write

/-! ## Resources and their windows -/

inductive Resource
  | driver (nvramData : NvramDevice)
  | vm (row : NvramRow)
  deriving DecidableEq, Repr

namespace Resource

def dev : Resource → NvramDev
  | driver nvramData => nvramData.dev
  | vm row => .file row.dataFile

def base : Resource → BitVec 64
  | driver nvramData => nvramData.ofs
  | vm row => row.offset

def size : Resource → BitVec 32
  | driver nvramData => nvramData.size
  | vm row => row.dataSize

end Resource

/-- What the memory of a device holds at a position. A byte past the end of a file is 0. -/
def Io.byteAt (io : Io) : NvramDev → Int → Option Byte
  | .file path, i => if 0 ≤ i then some (((io.files path).getD .empty).byte i.toNat) else none
  | .eeprom chip, i => if 0 ≤ i ∧ i < 2 ^ chip.offsetBits then some (io.eeproms chip i.toNat) else none

structure Call where
  op : Op
  res : Resource
  ofs : BitVec 32
  len : BitVec 32
  deriving DecidableEq, Repr

namespace Call

def exec (c : Call) : M Unit :=
  match c.res with
  | .driver nvramData => nvramAccess c.op nvramData c.ofs c.len
  | .vm row => sdiNvramAccess c.op row c.ofs c.len

def start (c : Call) : Int := c.res.base.toInt + c.ofs.toNat

def InRange (c : Call) (i : Int) : Prop := c.start ≤ i ∧ i < c.start + c.len.toNat

def InWindow (c : Call) (i : Int) : Prop := c.res.base.toInt ≤ i ∧ i < c.res.base.toInt + c.res.size.toNat

instance (c : Call) (i : Int) : Decidable (c.InRange i) := inferInstanceAs (Decidable (_ ∧ _))

def Fits (c : Call) : Prop := c.ofs.toNat + c.len.toNat ≤ c.res.size.toNat

instance (c : Call) : Decidable c.Fits := inferInstanceAs (Decidable (_ ≤ _))

/-- The laws of a call in a process whose lowest free descriptor is `fd`. -/
structure Lawful (c : Call) (fd : Nat) : Prop where
  /-- A range that does not lie in the window is refused and nothing is touched. -/
  refused : ¬ c.Fits → ∀ d : State, d.hw.fd = fd →
    ∃ e d', c.exec.out d = (.error (.error e), d') ∧ d'.hw = d.hw
  written : c.op = .write → ∀ d d' : State, d.hw.fd = fd → c.exec.out d = (.ok (), d') →
    ∀ dev i, d'.hw.byteAt dev i =
      if dev = c.res.dev ∧ c.InRange i then some (d.hw.buf (i - c.start).toNat) else d.hw.byteAt dev i
  read : c.op = .read → ∀ d d' : State, d.hw.fd = fd → c.exec.out d = (.ok (), d') →
    (∀ dev i, d'.hw.byteAt dev i = d.hw.byteAt dev i) ∧ (∀ k, c.len.toNat ≤ k → d'.hw.buf k = d.hw.buf k) ∧
      ∀ k < c.len.toNat, some (d'.hw.buf k) = d.hw.byteAt c.res.dev (c.start + k)
  /-- Whatever the call ends with, only bytes of its own window change. -/
  apart : ∀ d : State, d.hw.fd = fd → ∀ dev i, ¬ (dev = c.res.dev ∧ c.InWindow i) →
    (c.exec.out d).2.hw.byteAt dev i = d.hw.byteAt dev i
  /-- A read succeeds if it creates the file of a VM, or if the file has just been created for the window. -/
  fresh : c.op = .read → c.Fits → ∀ row, c.res = .vm row → ∀ d : State, d.hw.fd = fd → d.Quiet →
    d.hw.files row.dataFile = none ∨ d.hw.files row.dataFile = some (.truncate row.dataSize.toNat .empty) →
    (c.exec.out d).1 = .ok ()

/-- The 32-bit sum of the check does not wrap to a value within the size. -/
def SumHolds (c : Call) : Prop :=
  c.ofs.toNat + c.len.toNat < 2 ^ 32 ∨ c.res.size.toNat < (c.ofs.toNat + c.len.toNat) % 2 ^ 32

/-- An EEPROM has an address for every byte of the range. -/
def AddressHolds (c : Call) : Prop :=
  ∀ chip, c.res.dev = .eeprom chip → c.Fits → c.len ≠ 0 →
    0 ≤ c.start ∧ c.start + c.len.toNat ≤ 2 ^ chip.offsetBits

/-- The file that is created for a window reaches to the end of the range. -/
def CreatedHolds (c : Call) (fd : Nat) : Prop :=
  ∀ row, c.res = .vm row → c.op = .read → c.Fits →
    0 ≤ c.start ∧ c.start < 2 ^ 63 ∧
      (c.len ≠ 0 → 0 < fd ∧ c.len.toNat ≤ maxRwCount ∧ c.start + c.len.toNat ≤ c.res.size.toNat)

end Call

end OpxSdi.Nvram
