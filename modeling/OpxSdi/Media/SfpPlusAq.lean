import OpxSdi.Media.ExtModCtrl
import OpxSdi.Media.Phy

/-!
# The rate of a copper SFP+ module

`sdi_media_aq_set_rate` and what it calls. The module is registers, each operation on which may fail. The
record of a call has its operations and its calls that set the state of the transmitter.
-/

namespace OpxSdi.Media.Aq

open Lib ExtMod

def aqCurrLinkStateAddr : Byte := 1
def aqLineSideLinkRateAddr : Byte := 7
def aqRateSetMemAddr : Byte := 7
def aqLinkStateBitmask : BitVec 16 := 1
def aqLineSideSpeedBitmask : BitVec 16 := 7 <<< 1

/-- The read of the register of the transmitter, whose bit disables it -/
def txStatePacket : OperPacket := ⟨aqTxStateSetAddr, 0x0009, 0, .memRead⟩

section

variable {L ε ω : Type} (perform : OperPacket → Device.M L ε ω (BitVec 16))

/-- `sdi_media_aq_set_tx_state` on any module -/
def setTxStateOn (state : Bool) : Device.M L ε ω Unit := do
  let data ← chainOne perform txStatePacket
  let data := if state then data &&& ~~~aqTxStateSetBitmask else data ||| aqTxStateSetBitmask
  let _ ← chainOne perform { txStatePacket with dataBufBigEndian := data, oper := .memWrite }

end

theorem setTxStateOn_performOper (mailbox : Mailbox) (state : Bool) :
    setTxStateOn (ExtMod.performOper mailbox) state = aqSetTxState mailbox state := by
  rw [setTxStateOn, aqSetTxState, chainOne_eq]
  simp only [chainOne_eq]
  rfl

/-! ## Registers -/

/-- The registers of a module by the address of their memory and their offset -/
abbrev Registers := Byte × BitVec 16 → BitVec 16

inductive Seen
  | oper (packet : OperPacket) (rc : Except Errno (BitVec 16))
  | txSet (state : Bool) (rc : Except Errno Unit)

abbrev AqM := Device.M Empty Errno (Registers × List Seen)

def performOn (packet : OperPacket) (regs : Registers) : BitVec 16 × Registers :=
  match packet.oper with
  | .memRead => (regs (packet.memAddr, packet.regOffset), regs)
  | .memWrite => (packet.dataBufBigEndian,
      Function.update regs (packet.memAddr, packet.regOffset) packet.dataBufBigEndian)

def performOper (packet : OperPacket) : AqM (BitVec 16) :=
  Device.observed (fun _ => .oper packet) (Device.access (performOn packet))

/-! ## The driver -/

/-- The line side speed that a register shows: the invalid one is no speed, and no value an unknown one. -/
def speedOf (data : BitVec 16) : Option MediaSpeed :=
  match ((aqLineSideSpeedBitmask &&& data) >>> 1).toNat with
  | 1 => some .s100M
  | 2 => some .s1G
  | 3 => some .s10G
  | 4 => some .s2500M
  | 5 => some .s5G
  | 0 => some .invalid
  | _ => none

def lineSideStatusOf (link rate : BitVec 16) : Except Errno (Bool × MediaSpeed) :=
  match speedOf rate with
  | some speed => .ok (link &&& aqLinkStateBitmask ≠ 0, speed)
  | none => .error .notOk

/-- `sdi_media_aq_get_line_side_status`: `*link_status` and `*link_speed_rate` -/
def getLineSideStatus : AqM (Bool × MediaSpeed) := do
  let linkStatePacket : OperPacket := ⟨aqCurrLinkStateAddr, 0xE800, 0, .memRead⟩
  let link ← chainOne performOper linkStatePacket
  let rate ← chainOne performOper { linkStatePacket with
    memAddr := aqLineSideLinkRateAddr, regOffset := 0xC800, dataBufBigEndian := link }
  Device.ofResult (lineSideStatusOf link rate)

/-- `sdi_media_aq_get_tx_state` -/
def getTxState : AqM Bool := do
  let data ← chainOne performOper txStatePacket
  pure (data &&& aqTxStateSetBitmask = 0)

/-- `sdi_media_aq_set_tx_state` -/
def setTxState (state : Bool) : AqM Unit := Device.noted (.txSet state) (setTxStateOn performOper state)

/-- A sequence that advertises one rate -/
def rateSetPackets (adv multi rate : BitVec 16) : List OperPacket :=
  [(0x0000, 0x2000), (0x0010, adv), (0xC400, multi), (0x0020, rate), (0x0000, 0x3000)].map fun r =>
    ⟨aqRateSetMemAddr, r.1, r.2, .memWrite⟩

def aq10gRateSetPackets : List OperPacket := rateSetPackets 0x9001 0x0040 0x1001
def aq1gRateSetPackets : List OperPacket := rateSetPackets 0x8001 0x8040 0x0001
def aq100mRateSetPackets : List OperPacket := rateSetPackets 0x0101 0x0040 0x0001
def aq2500mRateSetPackets : List OperPacket := rateSetPackets 0x9001 0x0040 0x00A1
def aq5gRateSetPackets : List OperPacket := rateSetPackets 0x9001 0x0040 0x0141

def packetsFor : MediaSpeed → List OperPacket
  | .s100M => aq100mRateSetPackets
  | .s1G => aq1gRateSetPackets
  | .s2500M => aq2500mRateSetPackets
  | .s5G => aq5gRateSetPackets
  | _ => aq10gRateSetPackets

/-- The part of a change of the rate with the transmitter off -/
def changeRate (rate : MediaSpeed) (serdesStat : Bool) : AqM Unit := do
  let r ← chainOperWith performOper (packetsFor rate)
  Device.ofResult r.1
  if serdesStat then setTxState true else pure ()

/-- `sdi_media_aq_set_rate` -/
def setRate (rate : MediaSpeed) : AqM Unit := do
  let status ← getLineSideStatus
  if status.2 = rate then pure ()
  else do
    let serdesStat ← getTxState
    setTxState false
    changeRate rate serdesStat

end OpxSdi.Media.Aq
