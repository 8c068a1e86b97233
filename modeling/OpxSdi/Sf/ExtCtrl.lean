import OpxSdi.Common.Config
import OpxSdi.Common.StdError
import OpxSdi.Lib.RegBus

/-!
# External control behind SmartFusion (`sdi_sf_ext_ctrl.c`)

A temperature in degrees is kept in tenths of a degree, in one byte register or in two. The caller's variable is
`data`: it is what a call finds there on entry and what it leaves.
-/

namespace OpxSdi.Sf

open Lib

abbrev ExtCtrlBus := RegBus (BitVec 32) Errno

/-- The bus is acquired and released with an operation that has no effect on the registers. -/
def sfIoAcquireBus : RegBus.M (BitVec 32) Errno Unit := RegBus.transact fun regs => ((), regs)

def stopRc : Stop Errno → TStdError
  | .bus e => .errcode e
  | .undefined => .errno

/-- The members of `sdi_sf_ext_ctrl_device_t` that are looked at after the registration -/
structure ExtCtrlDevice where
  ctrlValueOffset : BitVec 16
  width : BitVec 16
  step : BitVec 16
  ioBusFailure : BitVec 64
  writeFailure : BitVec 64

def registerStepAllowed : BitVec 16 := 1
def registerTwoByteWidth : BitVec 16 := 2

/-- `offset`, and `offset + step`, which is an `int` -/
def ExtCtrlDevice.addr (dev : ExtCtrlDevice) : BitVec 32 := dev.ctrlValueOffset.setWidth 32

def ExtCtrlDevice.lowAddr (dev : ExtCtrlDevice) : BitVec 32 := dev.addr + dev.step.setWidth 32

/-- What a call returns and leaves: `size` is only written by a call that gets a value. -/
structure ExtCtrlResult where
  rc : TStdError
  data : BitVec 32
  size : BitVec 32
  dev : ExtCtrlDevice

/-! ## `sdi_sf_ext_ctrl_data_get` -/

/-- The return code, the last byte read and the data -/
structure Reading where
  rc : TStdError
  byte : Byte
  data : BitVec 32

def readValue (dev : ExtCtrlDevice) (data : BitVec 32) (bus : ExtCtrlBus) : Reading × ExtCtrlBus :=
  match (RegBus.readByte dev.addr).out bus with
  | (.error e, bus) => (⟨stopRc e, 0, data⟩, bus)
  | (.ok byte, bus) =>
      let data := byte.setWidth 32
      if dev.width = registerTwoByteWidth then
        let data := data <<< 8
        match (RegBus.readByte dev.lowAddr).out bus with
        | (.error e, bus) => (⟨stopRc e, byte, data⟩, bus)
        | (.ok byte, bus) => (⟨.ok, byte, data ||| byte.setWidth 32⟩, bus)
      else
        (⟨.ok, byte, data⟩, bus)

def extCtrlDataGet (dev : ExtCtrlDevice) (data size : BitVec 32) (bus : ExtCtrlBus) :
    Except Crash (ExtCtrlResult × ExtCtrlBus) := do
  assert (dev.width ≤ registerTwoByteWidth)
  assert (dev.step = registerStepAllowed)
  match sfIoAcquireBus.out bus with
  | (.error e, bus) => .ok (⟨stopRc e, data, size, { dev with ioBusFailure := dev.ioBusFailure + 1 }⟩, bus)
  | (.ok (), bus) =>
      let (reading, bus) := readValue dev data bus
      if reading.byte = 0xFF then .ok (⟨.errcode .einval, reading.data, size, dev⟩, bus)
      else .ok (⟨reading.rc, reading.data.sdiv 10, 1, dev⟩, bus)

/-! ## `sdi_sf_ext_ctrl_data_set` -/

/-- The bytes of the data, the high one first if there are two. A write that fails is counted. -/
def writeValue (dev : ExtCtrlDevice) (nIter : BitVec 16) (data : BitVec 32) (bus : ExtCtrlBus) :
    (TStdError × ExtCtrlDevice) × ExtCtrlBus :=
  let failed := { dev with writeFailure := dev.writeFailure + 1 }
  if nIter = 2 then
    match (RegBus.writeByte dev.addr ((data.sshiftRight 8).setWidth 8)).out bus with
    | (.error e, bus) => ((stopRc e, failed), bus)
    | (.ok (), bus) =>
        match (RegBus.writeByte dev.lowAddr (data.setWidth 8)).out bus with
        | (.error e, bus) => ((stopRc e, failed), bus)
        | (.ok (), bus) => ((.ok, dev), bus)
  else
    match (RegBus.writeByte dev.addr (data.setWidth 8)).out bus with
    | (.error e, bus) => ((stopRc e, failed), bus)
    | (.ok (), bus) => ((.ok, dev), bus)

/-- Nothing is written if there would be more than two bytes, and the return code is that of the bus. A step of 0 is a
division by zero. -/
def extCtrlDataSet (dev : ExtCtrlDevice) (data size : BitVec 32) (bus : ExtCtrlBus) :
    Except Crash (ExtCtrlResult × ExtCtrlBus) := do
  assert (dev.step ≠ 0)
  let nIter := dev.width / dev.step
  assert (dev.width ≤ registerTwoByteWidth)
  assert (size = 1)
  match sfIoAcquireBus.out bus with
  | (.error e, bus) => .ok (⟨stopRc e, data, size, { dev with ioBusFailure := dev.ioBusFailure + 1 }⟩, bus)
  | (.ok (), bus) =>
      if 2 < nIter then .ok (⟨.ok, data, size, dev⟩, bus)
      else
        let data := data * 10
        let ((rc, dev), bus) := writeValue dev nIter data bus
        .ok (⟨rc, data, size, dev⟩, bus)

end OpxSdi.Sf
