import OpxSdi.Lib.Device
import OpxSdi.Common.StdError

/-!
# The PHY of a copper SFP (`sdi_media_phy_mgmt.c`)

A write to the control register with the reset bit set is a software reset, which clears the power-down
bit. PHYs differ in whether the reset bit then reads back as set.
-/

namespace OpxSdi.Media

open Lib

structure Phy where
  reg : BitVec 8 → BitVec 16
  resetReadsBack : Bool

namespace Phy

def ctrlReg : BitVec 8 := 0x00
def anaReg : BitVec 8 := 0x04
def gbCtrlReg : BitVec 8 := 0x09
def phyCtrlReg : BitVec 8 := 0x10
def extStatus2Reg : BitVec 8 := 0x1B

def bit (n : Nat) : BitVec 16 := (1 : BitVec 16) <<< n

def ctrlPd : BitVec 16 := bit 11
def ctrlAe : BitVec 16 := bit 12
def ctrlReset : BitVec 16 := bit 15
def phyCtrlMacIntPd : BitVec 16 := bit 3
def anaHd10 : BitVec 16 := bit 5
def anaFd10 : BitVec 16 := bit 6
def anaHd100 : BitVec 16 := bit 7
def anaFd100 : BitVec 16 := bit 8
def gbCtrlAdv1000Fd : BitVec 16 := bit 9
def gbCtrlAdv1000Hd : BitVec 16 := bit 8

def sgmiiMode : BitVec 16 := 0x9084

def swap (v : BitVec 16) : BitVec 16 := (v >>> 8) ||| (v <<< 8)

/-- The control register after a write of `v`. -/
def written (resetReadsBack : Bool) (v : BitVec 16) : BitVec 16 :=
  if v &&& ctrlReset = 0 then v
  else if resetReadsBack then v &&& ~~~ctrlPd
  else v &&& ~~~ctrlPd &&& ~~~ctrlReset

def store (phy : Phy) (offset : BitVec 8) (v : BitVec 16) : Phy :=
  { phy with
    reg := Function.update phy.reg offset (if offset = ctrlReg then written phy.resetReadsBack v else v) }

/-- The PHY sends and takes the high byte of a register first, SMBus words have the low byte first. -/
def readWord (offset : BitVec 8) (phy : Phy) : BitVec 16 × Phy := (swap (phy.reg offset), phy)

def writeWord (offset : BitVec 8) (w : BitVec 16) (phy : Phy) : Unit × Phy := ((), phy.store offset (swap w))

end Phy

abbrev PhyM := Device.M Empty Errno Phy

def sfpPhyWrite (regOffset : BitVec 8) (regData : BitVec 16) : PhyM Unit :=
  Device.access (Phy.writeWord regOffset ((regData >>> 8) ||| (regData <<< 8)))

def sfpPhyRead (regOffset : BitVec 8) : PhyM (BitVec 16) := do
  let wordBuf ← Device.access (Phy.readWord regOffset)
  return Phy.swap wordBuf

open Phy

/-- A failed read leaves `regData` as it was, 0. -/
def mediaPhySwReset : PhyM Unit := do
  let regData ← Device.attempt (sfpPhyRead ctrlReg)
  sfpPhyWrite ctrlReg (regData.toOption.getD 0 ||| ctrlReset)

def cusfpPhyAutonegSet (enable : Bool) : PhyM Unit := do
  let regData ← sfpPhyRead ctrlReg
  let regData := if enable then regData ||| ctrlAe else regData &&& ~~~ctrlAe
  sfpPhyWrite ctrlReg regData
  -- A software reset would clear the power-down bit.
  if regData &&& ctrlPd = 0 then mediaPhySwReset else return

inductive MediaMode
  | mii | gmii | sgmii
  deriving DecidableEq, Repr

def cusfpPhyModeSet (mode : MediaMode) : PhyM Unit := do
  let regData ← sfpPhyRead extStatus2Reg
  let regData := if mode = .sgmii then sgmiiMode else regData
  sfpPhyWrite extStatus2Reg regData
  if regData &&& ctrlPd = 0 then mediaPhySwReset else return

inductive MediaSpeed
  | invalid | s10M | s100M | s1G | s10G | s25G | s40G | s100G | s20G | s50G | s200G | s400G | s4GFC | s8GFC
  | s16GFC | s32GFC | s2500M | s5G
  deriving DecidableEq, Repr

def cusfpPhySpeedSet (speed : MediaSpeed) : PhyM Unit := do
  let abilGB := if speed = .s1G then gbCtrlAdv1000Fd else 0
  let abil := if speed = .s100M then anaFd100 ||| anaFd10 else if speed = .s10M then anaFd10 else 0
  let regData ← sfpPhyRead anaReg
  sfpPhyWrite anaReg ((regData &&& ~~~(anaHd10 ||| anaFd10 ||| anaHd100 ||| anaFd100)) ||| abil)
  let regData ← sfpPhyRead gbCtrlReg
  sfpPhyWrite gbCtrlReg ((regData &&& ~~~(gbCtrlAdv1000Fd ||| gbCtrlAdv1000Hd)) ||| abilGB)

/-- `sdi_sfp_phy_speed_set` of a module without the AQ controller. `select` is what the selection of the module
returns. -/
def sfpPhySpeedSet (select : Except Errno Unit) (speed : MediaSpeed) : PhyM Unit := do
  Device.ofResult select
  cusfpPhySpeedSet speed

/-- The loop of `sdi_media_phy_speed_set`, from speed number `n`. An error is logged. -/
def phySpeedSetLoop (select : Nat → Except Errno Unit) (n : Nat) (rc : Except Errno Unit) :
    List MediaSpeed → PhyM Unit
  | [] => Device.ofResult rc
  | speed :: speeds => do
      let rc ← Device.attempt (sfpPhySpeedSet (select n) speed)
      phySpeedSetLoop select (n + 1) rc speeds

/-- `isMedia` says that the type of the resource is `SDI_RESOURCE_MEDIA`. -/
def mediaPhySpeedSet (isMedia : Bool) (select : Nat → Except Errno Unit) (speeds : List MediaSpeed) : PhyM Unit :=
  if !isMedia then Device.fail .eperm else phySpeedSetLoop select 0 (.ok ()) speeds

def clearMacIntPd (stRegData : BitVec 16) : PhyM Unit :=
  if stRegData &&& phyCtrlMacIntPd ≠ 0 then do
    sfpPhyWrite phyCtrlReg (stRegData &&& ~~~phyCtrlMacIntPd)
    let _ ← Device.attempt mediaPhySwReset
  else return

def writePowerDown (regData : BitVec 16) (enable : Bool) : PhyM Unit :=
  if enable then
    if regData &&& ctrlPd ≠ 0 then return else sfpPhyWrite ctrlReg (regData ||| ctrlPd)
  else
    if regData &&& ctrlPd = 0 then return else sfpPhyWrite ctrlReg (regData &&& ~~~ctrlPd)

def cusfpPhyPowerDownEnable (enable : Bool) : PhyM Unit := do
  let regData ← sfpPhyRead ctrlReg
  let stRegData ← sfpPhyRead phyCtrlReg
  clearMacIntPd stRegData
  -- `regData` was read before the reset.
  writePowerDown regData enable

end OpxSdi.Media
