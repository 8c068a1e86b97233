import OpxSdi.Lib.Observed
import OpxSdi.Media.TxControl

/-!
# Operations through a mailbox

`sdi_media_ext_mod_ctrl_chain_oper` has a module perform operations through its mailbox. The module is any
machine that takes and gives bytes and works between two polls. The record of a call has what passes the
mailbox.
-/

namespace OpxSdi.Media

open Lib

namespace ExtMod

def dataBufSize : Nat := 2
def statusPollErrorState : Byte := 2

/-- The state that a status byte shows -/
def pollState (status : Byte) : Byte := (status &&& statusOperCompleteBitmask) >>> 2

/-- The bytes that are written to have the operation of a packet performed -/
def OperPacket.setBuf (packet : OperPacket) : List Byte :=
  let data := if packet.oper = .memWrite then packet.dataBufBigEndian else 0
  [packet.memAddr, (packet.regOffset >>> 8).setWidth 8, packet.regOffset.setWidth 8,
    (data >>> 8).setWidth 8, data.setWidth 8, operMask &&& packet.oper.value]

/-! ## The driver -/

/-- The transactions of the driver with a mailbox. -/
structure Mail (m : Type → Type) where
  command : List Byte → m Unit
  status : m Byte
  data : m (List Byte)

section

variable {m : Type → Type} [Monad m] (mail : Mail m)

def pollUntilDone : (polls : Nat) → m Bool
  | 0 => pure false
  | polls + 1 => do
      let status ← mail.status
      if pollState status = statusPollCompleteState then pure true else pollUntilDone polls

/-- The part of an operation after its polls. One that has not completed in time is no error. -/
def collectData (operSetSuccess : Bool) (packet : OperPacket) : m (BitVec 16) :=
  if operSetSuccess = false ∨ packet.oper = .memWrite then pure packet.dataBufBigEndian
  else do
    let bufRead ← mail.data
    pure (bufRead.getD 0 0 ++ bufRead.getD 1 0 : BitVec (8 + 8))

/-- `perform_oper` on any mailbox: the data of the packet after it -/
def performOperOn (packet : OperPacket) : m (BitVec 16) := do
  mail.command packet.setBuf
  let operSetSuccess ← pollUntilDone mail (statusPollMaxTimeoutMs / statusPollIntervalMs)
  collectData mail operSetSuccess packet

end

section

variable {L ε ω : Type}

/-- `sdi_media_ext_mod_ctrl_chain_oper`: the return code, and the packets after the call -/
def chainOperWith (perform : OperPacket → Device.M L ε ω (BitVec 16)) :
    List OperPacket → Device.M L ε ω (Except ε Unit × List OperPacket)
  | [] => pure (.ok (), [])
  | packet :: packets => do
      let rc ← Device.attempt (perform packet)
      match rc with
      | .error e => pure (.error e, packet :: packets)
      | .ok data => do
          let r ← chainOperWith perform packets
          pure (r.1, { packet with dataBufBigEndian := data } :: r.2)

def chainOper (mail : Mail (Device.M L ε ω)) (packets : List OperPacket) :
    Device.M L ε ω (Except ε Unit × List OperPacket) :=
  chainOperWith (performOperOn mail) packets

/-- A chain of one packet: its data after the call -/
def chainOne (perform : OperPacket → Device.M L ε ω (BitVec 16)) (packet : OperPacket) :
    Device.M L ε ω (BitVec 16) := do
  let r ← chainOperWith perform [packet]
  Device.ofResult r.1
  pure (r.2.headD packet).dataBufBigEndian

theorem chainOne_eq (perform : OperPacket → Device.M L ε ω (BitVec 16)) (packet : OperPacket) :
    chainOne perform packet = perform packet := by
  funext d
  change (chainOne perform packet).out d = (perform packet).out d
  rcases hout : (perform packet).out d with ⟨r, d'⟩
  cases r with
  | ok a =>
      have hattempt := Device.out_attempt (r := .ok a) hout
      simp only [chainOne, chainOperWith, Acts.out_bind, hattempt]
      rfl
  | error halt =>
      cases halt with
      | error e =>
          have hattempt := Device.out_attempt (r := .error e) hout
          simp only [chainOne, chainOperWith, Acts.out_bind, hattempt]
          rfl
      | blocked => simp only [chainOne, chainOperWith, Acts.out_bind, Device.out_attempt_blocked hout]
      | aborted => simp only [chainOne, chainOperWith, Acts.out_bind, Device.out_attempt_aborted hout]

end

/-! ## The mailbox of a cage -/

/-- The mailbox in the upper memory of the module in a cage -/
def cageMail (mailbox : Mailbox) : Mail M where
  command bytes := smbusWriteMultiByte Sfp.sfpI2cAddr activeDevMemAddrOffset bytes
  status := do
    settle mailbox
    let status ← smbusReadMultiByte Sfp.sfpI2cAddr ctrlStatusOffset 1
    pure (status.getD 0 0)
  data := smbusReadMultiByte Sfp.sfpI2cAddr dataMsbOffset dataBufSize

theorem pollUntilDone_cageMail (mailbox : Mailbox) (polls : Nat) :
    pollUntilDone (cageMail mailbox) polls = pollStatus mailbox polls := by
  induction polls with
  | zero => rfl
  | succ polls ih =>
      simp only [pollUntilDone, pollStatus, pollState, cageMail, bind_assoc, pure_bind] at ih ⊢
      rw [ih]
      rfl

theorem performOperOn_cageMail (mailbox : Mailbox) (packet : OperPacket) :
    performOperOn (cageMail mailbox) packet = performOper mailbox packet := by
  rw [performOperOn, performOper, pollUntilDone_cageMail]
  rfl

/-! ## A machine behind a mailbox -/

structure Machine (σ : Type) where
  write : σ → (offset value : Byte) → σ
  read : σ → (offset : Byte) → Byte × σ
  /-- What the module does until the next poll. -/
  work : σ → σ

inductive Reply (ε : Type)
  | poll (rc : Except ε Byte)
  | data (rc : Except ε (List Byte))

inductive Event (ε : Type)
  | command (bytes : List Byte) (rc : Except ε Unit)
  | reply (r : Reply ε)

namespace Machine

variable {L ε σ : Type} (m : Machine σ)

def readByte (cmd : BitVec 32) : Device.M L ε σ Byte := Device.access fun s => m.read s (cmd.setWidth 8)

def writeByte (cmd : BitVec 32) (b : Byte) : Device.M L ε σ Unit :=
  Device.access fun s => ((), m.write s (cmd.setWidth 8) b)

def readMultiByte : (cmd : BitVec 32) → (byteCount : Nat) → Device.M L ε σ (List Byte)
  | _, 0 => pure []
  | cmd, byteCount + 1 => do
      let b ← m.readByte cmd
      let bs ← readMultiByte (cmd + 1) byteCount
      pure (b :: bs)

def writeMultiByte : (cmd : BitVec 32) → (buffer : List Byte) → Device.M L ε σ Unit
  | _, [] => pure ()
  | cmd, b :: bs => do
      m.writeByte cmd b
      writeMultiByte (cmd + 1) bs

/-- The mailbox of the machine, with a record of the transactions -/
def mail : Mail (Device.M L ε (σ × List (Event ε))) where
  command bytes := Device.observed (fun _ => .command bytes) (m.writeMultiByte activeDevMemAddrOffset bytes)
  status := Device.observed (fun _ rc => .reply (.poll rc)) do
    Device.internal fun s => ((), m.work s)
    m.readByte ctrlStatusOffset
  data := Device.observed (fun _ rc => .reply (.data rc)) (m.readMultiByte dataMsbOffset dataBufSize)

end Machine

end ExtMod

end OpxSdi.Media
