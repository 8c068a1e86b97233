import OpxSdi.I2c.BusApi
import OpxSdi.Lib.Threads

/-!
# I2C mux channels (`sdi_i2cmux_pca.c`, `sdi_i2cmux_pin.c`)

A channel is a bus whose transactions go to the parent bus once its mux is selected. The parent bus has one
lock. A PCA mux has a register on the parent bus, a pin mux is selected by the level of its pin group.
-/

namespace OpxSdi.I2cMux

open Lib I2c

/-- `sdi_i2cmux_pin_t` -/
structure PinMux where
  muxLock : Nat
  pingroupHdl : Nat
  deriving DecidableEq, Repr

/-- `sdi_i2cmux_pca_chan_bus_t`: the channels of one mux driver have their own mux addresses. -/
structure PcaChannel where
  i2cMux : Nat
  muxI2cAddr : I2cAddr
  muxSelValue : BitVec 32
  deriving DecidableEq, Repr

/-- `sdi_i2cmux_pin_chan_bus_t` -/
structure PinChannel where
  i2cMux : PinMux
  i2cMuxChannel : BitVec 32
  deriving DecidableEq, Repr

inductive Channel
  | pca (bus : PcaChannel)
  | pin (bus : PinChannel)
  deriving DecidableEq, Repr

inductive Lock
  | parent
  | pcaMux (mux : Nat)
  | pinMux (mux : PinMux)
  | pinGroup (pingroupHdl : Nat)
  deriving DecidableEq, Repr

/-- What selects the channel of a mux. -/
inductive Cell
  | register (i2cAddr : I2cAddr)
  | level (pingroupHdl : Nat)
  deriving DecidableEq, Repr

abbrev P := Prog Lock Errno Cell (BitVec 32)

def stdMutexLock (l : Lock) : P (Except Errno Unit) := .lock l .ret

def stdMutexUnlock (l : Lock) : P Unit := .unlock l (.ret ())

/-! ## The parent bus -/

def i2cAcquireBus : P (Except Errno Unit) := stdMutexLock .parent

def smbusExecute : P (Except Errno Unit) := .use .ret

def i2cReleaseBus : P Unit := stdMutexUnlock .parent

/-- `sdi_smbus_write_byte` to the register of a mux. -/
def smbusWriteByte (i2cAddr : I2cAddr) (buffer : Byte) : P (Except Errno Unit) := do
  match ← i2cAcquireBus with
  | .error e => return .error e
  | .ok () =>
      let error ← .set (.register i2cAddr) (buffer.setWidth 32) .ret
      i2cReleaseBus
      return error

/-! ## PCA muxes -/

def i2cmuxPcaChanAcquireBus (bus : PcaChannel) : P (Except Errno Unit) := do
  match ← stdMutexLock (.pcaMux bus.i2cMux) with
  | .error _ => return .error .current
  | .ok () =>
      match ← smbusWriteByte bus.muxI2cAddr (bus.muxSelValue.setWidth 8) with
      | .error e =>
          stdMutexUnlock (.pcaMux bus.i2cMux)
          return .error e
      | .ok () => return .ok ()

/-- Whether the deselection fails is not looked at. -/
def i2cmuxPcaChanReleaseBus (bus : PcaChannel) : P Unit := do
  let _ ← smbusWriteByte bus.muxI2cAddr 0
  stdMutexUnlock (.pcaMux bus.i2cMux)

/-! ## Pin muxes -/

/-- The `do … while (0)` of the acquisition: its error, and `is_pin_group_bus_acquired`. -/
def pinChanSelect (bus : PinChannel) : P (Except Errno Unit × Bool) := do
  match ← stdMutexLock (.pinGroup bus.i2cMux.pingroupHdl) with
  | .error e => return (.error e, false)
  | .ok () =>
      match ← .set (.level bus.i2cMux.pingroupHdl) bus.i2cMuxChannel .ret with
      | .error e => return (.error e, true)
      | .ok () =>
          let error ← i2cAcquireBus
          return (error, true)

def i2cmuxPinChanAcquireBus (bus : PinChannel) : P (Except Errno Unit) := do
  match ← stdMutexLock (.pinMux bus.i2cMux) with
  | .error _ => return .error .current
  | .ok () =>
      match ← pinChanSelect bus with
      | (.error e, isPinGroupBusAcquired) =>
          if isPinGroupBusAcquired then
            stdMutexUnlock (.pinGroup bus.i2cMux.pingroupHdl)
          stdMutexUnlock (.pinMux bus.i2cMux)
          return .error e
      | (.ok (), _) => return .ok ()

def i2cmuxPinChanReleaseBus (bus : PinChannel) : P Unit := do
  i2cReleaseBus
  stdMutexUnlock (.pinGroup bus.i2cMux.pingroupHdl)
  stdMutexUnlock (.pinMux bus.i2cMux)

/-! ## The buses of the clients -/

/-- The parent bus, or a channel of a mux on it. -/
inductive Bus (channels : List Channel)
  | parent
  | channel (c : Channel) (h : c ∈ channels)
  deriving DecidableEq

/-- The bus operations. A channel executes on the parent bus. -/
def busOps (channels : List Channel) : Service (Bus channels) Lock Errno Cell (BitVec 32) where
  acquire
    | .parent => i2cAcquireBus
    | .channel (.pca bus) _ => i2cmuxPcaChanAcquireBus bus
    | .channel (.pin bus) _ => i2cmuxPinChanAcquireBus bus
  execute _ := smbusExecute
  release
    | .parent => i2cReleaseBus
    | .channel (.pca bus) _ => i2cmuxPcaChanReleaseBus bus
    | .channel (.pin bus) _ => i2cmuxPinChanReleaseBus bus

abbrev State (channels : List Channel) := System Nat (Bus channels) Lock Errno Cell (BitVec 32)

abbrev Move (channels : List Channel) := Nat × Act (Bus channels) Errno

namespace Channel

def selector : Channel → Cell
  | pca bus => .register bus.muxI2cAddr
  | pin bus => .level bus.i2cMux.pingroupHdl

def value : Channel → BitVec 32
  | pca bus => bus.muxSelValue
  | pin bus => bus.i2cMuxChannel

/-- The mux connects the channel to the parent bus. A PCA mux whose register is 0 connects none. -/
def Connected (cell : Cell → BitVec 32) : Channel → Prop
  | pca bus => cell (.register bus.muxI2cAddr) = bus.muxSelValue ∧ bus.muxSelValue ≠ 0
  | pin bus => cell (.level bus.i2cMux.pingroupHdl) = bus.i2cMuxChannel

end Channel

/-- Client `t` owns the parent bus, and `c` is the channel that is connected to it. -/
structure Isolated {channels : List Channel} (s : State channels) (t : Nat) (c : Channel) : Prop where
  owner : s.world.owner .parent = some t
  connected : c.Connected s.world.cell
  only : ∀ c' ∈ channels, c'.Connected s.world.cell → c'.selector = c.selector ∧ c'.value = c.value

/-- No lock is left over or taken from another client, and every transaction of a channel is isolated. -/
structure Sound {channels : List Channel} (s : State channels) : Prop where
  others : ∀ (m : Move channels) u, u ≠ m.1 → ∀ l,
    ((busOps channels).step s m).world.owner l = some u ↔ s.world.owner l = some u
  idle : ∀ t, s.stage t = .idle → ∀ l, s.world.owner l ≠ some t
  failed : ∀ t b e, s.stage t = .acquiring b (.ret (.error e)) → ∀ l, s.world.owner l ≠ some t
  released : ∀ t b, s.stage t = .releasing b (.ret ()) → ∀ l, s.world.owner l ≠ some t
  isolated : ∀ t c h k, s.stage t = .executing (.channel c h) (.use k) → Isolated s t c

end OpxSdi.I2cMux
