import OpxSdi.Lib.RegBus
import OpxSdi.Common.StdError

/-!
# CPLD pin groups (`sdi_cpld_pin_group.c`)

A pin group is a range of bits in consecutive registers, read and written register by register. Bytes
are masked with `(1 << n) - 1`, where `n` comes from unsigned subtraction: it is a shift only if it did
not wrap around.
-/

namespace OpxSdi.Cpld

open Lib

inductive PinPolarity
  | normal | inverted
  deriving DecidableEq, Repr

structure PinGroup where
  startAddr : BitVec 32
  startOffset : Fin 8
  endAddr : BitVec 32
  endOffset : Fin 8
  length : Nat
  defaultPolarity : PinPolarity

abbrev BusM := RegBus.M (BitVec 32) Errno

/-! ## Masks -/

/-- `(1 << ((end_offset - start_offset) + 1)) - 1`, cut to a byte. -/
def bitMask (startOffset endOffset : Nat) : Option Byte :=
  if startOffset ≤ endOffset + 1 then some (BitVec.ofNat 8 (2 ^ (endOffset + 1 - startOffset) - 1))
  else none

def cpldBitMask (bitfield : Byte) (startOffset endOffset : Nat) : Option Byte :=
  (bitMask startOffset endOffset).map (bitfield &&& ·)

def cpldToggleAndMask (target : Byte) (startOffset endOffset : Nat) : Option Byte :=
  (bitMask startOffset endOffset).map (~~~target &&& ·)

def toggleIfInverted (polarity : PinPolarity) (target : Byte) (startOffset endOffset : Nat) :
    Option Byte :=
  match polarity with
  | .normal => some target
  | .inverted => cpldToggleAndMask target startOffset endOffset

def cpldBitSetSubBitstream (dstTarget srcBitStream : BitVec 64) (startBitOffset endBitOffset : Nat) :
    BitVec 64 :=
  let left := ~~~(0 : BitVec 64) - (((1 : BitVec 64) <<< endBitOffset) - 1)
  let right := ((1 : BitVec 64) <<< startBitOffset) - 1
  let mask := left ||| right
  (dstTarget &&& mask) ||| (srcBitStream <<< startBitOffset)

/-- The call on a register, whose result is cut to a byte. -/
def setSubBitstream (buffer level : Byte) (startBitOffset endBitOffset : Nat) : Byte :=
  (cpldBitSetSubBitstream (buffer.setWidth 64) (level.setWidth 64) startBitOffset endBitOffset).setWidth 8

/-! ## Reading and writing one register -/

/-- The level after register number `regCount`, counted from 1, has been read as `buffer`. -/
def readRegister (g : PinGroup) (regCount : Nat) (buffer : Byte) (level : BitVec 32) :
    Option (BitVec 32) :=
  if g.length = 1 then do
    let data ← cpldBitMask (buffer >>> g.startOffset.val) g.startOffset g.endOffset
    let data ← toggleIfInverted g.defaultPolarity data g.startOffset g.endOffset
    some (data.setWidth 32)
  else if regCount = g.length then do
    let data := buffer &&& BitVec.ofNat 8 (2 ^ (g.endOffset.val + 1) - 1)
    let data ← toggleIfInverted g.defaultPolarity data 0 g.endOffset
    some ((level ||| data.setWidth 32 <<< ((regCount - 1) * 8)) >>> g.startOffset.val)
  else if regCount = 1 then do
    -- The bits of the register are toggled and masked where they are, before any shift.
    let data ← toggleIfInverted g.defaultPolarity buffer g.startOffset 7
    some (data.setWidth 32)
  else do
    let data ← toggleIfInverted g.defaultPolarity buffer 0 7
    some (level ||| data.setWidth 32 <<< ((regCount - 1) * 8))

/-- What is written to a register that has been read as `buffer`; `regCount` registers are left. -/
def writeRegister (g : PinGroup) (regCount : Nat) (level buffer : Byte) : Option Byte :=
  if g.length = 1 then do
    let level ← toggleIfInverted g.defaultPolarity level g.startOffset g.endOffset
    some (setSubBitstream buffer level g.startOffset (g.endOffset + 1))
  else if regCount = g.length then do
    let level ← toggleIfInverted g.defaultPolarity level g.startOffset 7
    some (setSubBitstream buffer level g.startOffset 8)
  else if regCount = 1 then do
    let level ← toggleIfInverted g.defaultPolarity level 0 g.endOffset
    some (setSubBitstream buffer level 0 (g.endOffset + 1))
  else
    let level := match g.defaultPolarity with
      | .normal => level
      | .inverted => ~~~level
    some (setSubBitstream buffer level 0 8)

/-! ## `sdi_cpld_pin_group_read_level` and `sdi_cpld_pin_group_write_level` -/

def nextOffset (g : PinGroup) (offset : BitVec 32) : BitVec 32 :=
  if g.endAddr ≤ g.startAddr then offset - 1 else offset + 1

/-- The loop with `left` registers to read. -/
def readLoop (g : PinGroup) : (left regCount : Nat) → (offset level : BitVec 32) → BusM (BitVec 32)
  | 0, _, _, level => pure level
  | left + 1, regCount, offset, level => do
      let buffer ← RegBus.readByte offset
      let level ← RegBus.ofOption (readRegister g regCount buffer level)
      readLoop g left (regCount + 1) (nextOffset g offset) level

def pinGroupReadLevel (g : PinGroup) : BusM (BitVec 32) := readLoop g g.length 1 g.startAddr 0

/-- The loop with `regCount` registers to write. -/
def writeLoop (g : PinGroup) : (regCount : Nat) → (data offset : BitVec 32) → BusM Unit
  | 0, _, _ => pure ()
  | regCount + 1, data, offset => do
      RegBus.modifyByte offset (writeRegister g (regCount + 1) (data.setWidth 8))
      writeLoop g regCount (data >>> 8) (nextOffset g offset)

def pinGroupWriteLevel (g : PinGroup) (value : BitVec 32) : BusM Unit :=
  writeLoop g g.length value g.startAddr

/-! ## `sdi_cpld_pin_group_driver_register` -/

/-- The range and the length of a group, from its configuration. -/
def driverRegister (startAddr : BitVec 32) (endAddr : Option (BitVec 32)) (startOffset endOffset : Fin 8)
    (polarity : PinPolarity) : PinGroup :=
  match endAddr with
  | none => ⟨startAddr, startOffset, startAddr, endOffset, 1, polarity⟩
  | some endAddr =>
      let length := if endAddr < startAddr then startAddr - endAddr + 1 else endAddr - startAddr + 1
      ⟨startAddr, startOffset, endAddr, endOffset, length.toNat, polarity⟩

end OpxSdi.Cpld
