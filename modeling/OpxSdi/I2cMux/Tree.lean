import OpxSdi.I2c.BusApi
import OpxSdi.Lib.LockOrder

/-!
# Trees of I2C buses (`sdi_i2cmux_pca.c`, `sdi_i2cmux_pin.c`, `sdi_i2cdev.c`)

The bus that a mux is attached to may itself be a channel of a mux. A transaction on a channel goes up to the bus
of the i2cdev driver at the root. A pin group has a lock and a level of its own and takes no bus of the tree.
-/

namespace OpxSdi.I2cMux.Tree

open Lib I2c

/-! ## Buses -/

inductive Bus
  | smbus (busId : Nat)
  | pca (mux : Nat) (i2cBus : Bus) (muxI2cAddr : I2cAddr) (muxSelValue : BitVec 32)
  | pin (mux : Nat) (i2cbusHdl : Bus) (pingroupHdl : Nat) (i2cMuxChannel : BitVec 32)
  deriving DecidableEq

inductive Lock
  | bus (busId : Nat)
  | pcaMux (mux : Nat) (i2cBus : Bus)
  | pinMux (mux : Nat) (i2cbusHdl : Bus) (pingroupHdl : Nat)
  | pinGroup (pingroupHdl : Nat)
  deriving DecidableEq

/-- A transaction that writes a byte -/
structure Transfer where
  i2cAddr : I2cAddr
  buffer : Byte

/-- What is written: a slave address on a bus of the i2cdev driver, or a pin group. -/
inductive Cell
  | slave (busId : Nat) (i2cAddr : I2cAddr)
  | level (pingroupHdl : Nat)
  deriving DecidableEq

abbrev P := Prog Lock Errno Cell (BitVec 32)

def stdMutexLock (l : Lock) : P (Except Errno Unit) := .lock l .ret

def stdMutexUnlock (l : Lock) : P Unit := .unlock l (.ret ())

/-! ## Bus operations -/

/-- `sdi_i2c_bus_ops_t` -/
structure BusOps where
  acquireBus : P (Except Errno Unit)
  smbusExecute : Transfer → P (Except Errno Unit)
  releaseBus : P Unit

def smbusWriteByte (bus : BusOps) (i2cAddr : I2cAddr) (buffer : Byte) : P (Except Errno Unit) := do
  match ← bus.acquireBus with
  | .error e => return .error e
  | .ok () =>
      let error ← bus.smbusExecute ⟨i2cAddr, buffer⟩
      bus.releaseBus
      return error

def i2cdevOps (busId : Nat) : BusOps where
  acquireBus := stdMutexLock (.bus busId)
  smbusExecute transfer := .set (.slave busId transfer.i2cAddr) (transfer.buffer.setWidth 32) .ret
  releaseBus := stdMutexUnlock (.bus busId)

def i2cmuxPcaOps (muxLock : Lock) (i2cBus : BusOps) (muxI2cAddr : I2cAddr) (muxSelValue : BitVec 32) : BusOps where
  acquireBus := do
    match ← stdMutexLock muxLock with
    | .error _ => return .error .current
    | .ok () =>
        match ← smbusWriteByte i2cBus muxI2cAddr (muxSelValue.setWidth 8) with
        | .error e =>
            stdMutexUnlock muxLock
            return .error e
        | .ok () => return .ok ()
  smbusExecute := i2cBus.smbusExecute
  releaseBus := do
    let _ ← smbusWriteByte i2cBus muxI2cAddr 0
    stdMutexUnlock muxLock

/-- The `do … while (0)` of the acquisition: its error, and `is_pin_group_bus_acquired`. -/
def pinChanSelect (i2cbusHdl : BusOps) (pingroupHdl : Nat) (i2cMuxChannel : BitVec 32) :
    P (Except Errno Unit × Bool) := do
  match ← stdMutexLock (.pinGroup pingroupHdl) with
  | .error e => return (.error e, false)
  | .ok () =>
      match ← .set (.level pingroupHdl) i2cMuxChannel .ret with
      | .error e => return (.error e, true)
      | .ok () =>
          let error ← i2cbusHdl.acquireBus
          return (error, true)

def i2cmuxPinOps (muxLock : Lock) (i2cbusHdl : BusOps) (pingroupHdl : Nat) (i2cMuxChannel : BitVec 32) : BusOps where
  acquireBus := do
    match ← stdMutexLock muxLock with
    | .error _ => return .error .current
    | .ok () =>
        let r ← pinChanSelect i2cbusHdl pingroupHdl i2cMuxChannel
        match r.1 with
        | .error e =>
            if r.2 then stdMutexUnlock (.pinGroup pingroupHdl)
            stdMutexUnlock muxLock
            return .error e
        | .ok () => return .ok ()
  smbusExecute := i2cbusHdl.smbusExecute
  releaseBus := do
    i2cbusHdl.releaseBus
    stdMutexUnlock (.pinGroup pingroupHdl)
    stdMutexUnlock muxLock

def Bus.ops : Bus → BusOps
  | smbus busId => i2cdevOps busId
  | pca mux i2cBus muxI2cAddr muxSelValue => i2cmuxPcaOps (.pcaMux mux i2cBus) i2cBus.ops muxI2cAddr muxSelValue
  | pin mux i2cbusHdl pingroupHdl i2cMuxChannel =>
      i2cmuxPinOps (.pinMux mux i2cbusHdl pingroupHdl) i2cbusHdl.ops pingroupHdl i2cMuxChannel

/-! ## Clients -/

def Bus.depth : Bus → Nat
  | smbus _ => 0
  | pca _ b _ _ => b.depth + 1
  | pin _ b _ _ => b.depth + 1

/-- The muxes of pin group `g` are at depth `level g`. -/
def Bus.Levelled (level : Nat → Nat) : Bus → Prop
  | smbus _ => True
  | pca _ b _ _ => b.Levelled level
  | pin _ b g _ => level g = b.depth + 1 ∧ b.Levelled level

structure Client (level : Nat → Nat) where
  bus : Bus
  levelled : bus.Levelled level
  transfer : Transfer

/-- What clients call: `sdi_i2c_acquire_bus`, `sdi_smbus_execute` and `sdi_i2c_release_bus`. -/
def busService (level : Nat → Nat) : Service (Client level) Lock Errno Cell (BitVec 32) where
  acquire c := c.bus.ops.acquireBus
  execute c := c.bus.ops.smbusExecute c.transfer
  release c := c.bus.ops.releaseBus

/-! ## Muxes -/

/-- The registers of the PCA muxes, by the bus that they are on and their address, and the levels of the pin groups. -/
structure Hardware where
  register : Bus → I2cAddr → Byte
  level : Nat → BitVec 32

namespace Bus

def root : Bus → Nat
  | smbus busId => busId
  | pca _ b _ _ => b.root
  | pin _ b _ _ => b.root

/-- Every mux on the way to the root connects the channel. A PCA mux with register 0 connects none. -/
def connected (hw : Hardware) : Bus → Bool
  | smbus _ => true
  | pca _ b a v => b.connected hw && hw.register b a == v.setWidth 8 && v.setWidth 8 != 0#8
  | pin _ b g c => b.connected hw && hw.level g == c

/-- The number of PCA muxes on the way to the root -/
def pcas : Bus → Nat
  | smbus _ => 0
  | pca _ b _ _ => b.pcas + 1
  | pin _ b _ _ => b.pcas

/-- Every PCA mux on the way has a channel to select. -/
def Selects : Bus → Prop
  | smbus _ => True
  | pca _ b _ v => v.setWidth 8 ≠ 0#8 ∧ b.Selects
  | pin _ b _ _ => b.Selects

end Bus

/-- A transaction reaches the muxes of its address on every bus that is connected to its root. -/
def Hardware.write : Cell → BitVec 32 → Hardware → Hardware
  | .slave busId i2cAddr, v, hw =>
      { hw with register := fun b a =>
          if b.root = busId ∧ a = i2cAddr ∧ b.connected hw = true then v.setWidth 8 else hw.register b a }
  | .level g, v, hw => { hw with level := Function.update hw.level g v }

end OpxSdi.I2cMux.Tree
