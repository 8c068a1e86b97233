import Mathlib.Logic.Function.Basic
import OpxSdi.CommDev.Theorems
import OpxSdi.CommDev.Writes
import OpxSdi.Lib.CharArray
import OpxSdi.Lib.Run

/-!
# Messages that the device takes

The host puts a message into the northbound mailbox and then sets a bit of the control register. The device
takes the message at some later time and clears the bit, also between two transactions of a call. The host
sets every bit of the register by reading it and writing it back. What the device does with the other bits
is left out.
-/

namespace OpxSdi.CommDev

open Lib

/-! ## The device -/

/-- A message waits to be taken. -/
def Pending (regs : ByteMem 16) : Prop := (regs mailboxControl).getLsbD downloadCompleteBit = true

instance (regs : ByteMem 16) : Decidable (Pending regs) := inferInstanceAs (Decidable (_ = _))

/-- The message in the northbound mailbox, if its checksum is right. -/
def message (regs : ByteMem 16) : Option (List Byte) :=
  let size := regs (northboundMailbox + 3) ++ regs (northboundMailbox + 2)
  let payload := regs.bytesAt (northboundMailbox + 4) size.toNat
  let checksum := regs (northboundMailbox + 1) ++ regs northboundMailbox
  if ~~~(mailboxSum payload size) + 1 = checksum then some payload else none

def clearComplete (regs : ByteMem 16) : ByteMem 16 :=
  Function.update regs mailboxControl (regs mailboxControl &&& ~~~((1 : Byte) <<< downloadCompleteBit))

/-- The device with the messages that it has taken. -/
structure Station where
  dev : MemDev
  taken : List (Option (List Byte))

namespace Station

def take (s : Station) : Station :=
  if Pending s.dev.regs then ⟨⟨clearComplete s.dev.regs, s.dev.next⟩, s.taken ++ [message s.dev.regs]⟩ else s

/-- The messages that have been taken, and the one that waits. -/
def delivered (s : Station) : List (Option (List Byte)) :=
  s.taken ++ if Pending s.dev.regs then [message s.dev.regs] else []

end Station

/-- The device during a call: before which transactions it takes a message, and which of them fail. -/
structure Peer where
  station : Station
  time : Nat
  takes : Nat → Bool
  fault : Nat → Option Errno

def Peer.transaction {α : Type} (f : MemDev → α × MemDev) (onError : Errno → α) (p : Peer) : α × Peer :=
  let s := if p.takes p.time then p.station.take else p.station
  match p.fault p.time with
  | some e => (onError e, { p with station := s, time := p.time + 1 })
  | none => ((f s.dev).1, { p with station := ⟨(f s.dev).2, s.taken⟩, time := p.time + 1 })

def peerBus : SmBus Peer where
  writeByte cmd buffer := Peer.transaction (memBus.writeByte cmd buffer) .errcode
  recvByte := Peer.transaction memBus.recvByte .error
  writeBlock cmd block := Peer.transaction (memBus.writeBlock cmd block) .errcode

def peerDevice : Resource Peer := ⟨.commDev, peerBus⟩

/-! ## The host -/

/-- A string with what is behind it, as long as the caller says. -/
structure Text where
  bytes : List Byte
  nul : 0 ∈ bytes
  short : bytes.length ≤ bufferMaxSize

def Text.message (text : Text) : List Byte := cstr text.bytes ++ [0]

inductive HostCall
  | send (text : Text)
  | flush
  | msgRead (sizeData : Nat) (size : sizeData ≠ 0 ∧ sizeData ≤ bufferMaxSize)
  | bufferReady

/-- The call on the device, and the text that it has sent with success. -/
def HostCall.run (p : Peer) : HostCall → List Text × Peer
  | .send text =>
      let r := (commDevMsgWrite peerDevice text.bytes).out p
      (match r.1 with
        | .ok .ok => [text]
        | _ => [], r.2)
  | .flush => ([], ((flushMsgBuffer peerDevice).out p).2)
  | .msgRead sizeData _ => ([], ((commDevMsgRead peerDevice sizeData).out p).2)
  | .bufferReady => ([], ((isBufferReady peerDevice).out p).2)

/-! ## Runs -/

/-- The host makes a call, or the device takes the message that waits. -/
inductive LinkEvent
  | call (c : HostCall) (takes : Nat → Bool) (fault : Nat → Option Errno)
  | take

structure Link where
  station : Station
  sent : List Text

namespace Link

def step (l : Link) : LinkEvent → Link
  | .call c takes fault =>
      let r := c.run ⟨l.station, 0, takes, fault⟩
      ⟨r.2.station, l.sent ++ r.1⟩
  | .take => ⟨l.station.take, l.sent⟩

def start (dev : MemDev) : Link := ⟨⟨dev, []⟩, []⟩

/-- Each text that has been sent is taken once, or waits. -/
def Exact (l : Link) : Prop := l.station.delivered = l.sent.map fun text => some text.message

/-- While a message waits, only calls of `may` begin. -/
def Permits (may : HostCall → Prop) (l : Link) (e : LinkEvent) : Prop :=
  ∀ c takes fault, e = .call c takes fault → Pending l.station.dev.regs → may c

end Link

/-! ## Taking a message -/

section

variable {regs : ByteMem 16}

theorem not_pending_clearComplete (regs : ByteMem 16) : ¬Pending (clearComplete regs) := by
  rw [Pending, clearComplete, Function.update_self, BitVec.getLsbD_and, BitVec.getLsbD_not]
  simp [downloadCompleteBit]

namespace Station

variable {s : Station}

theorem delivered_of_idle (h : ¬Pending s.dev.regs) : s.delivered = s.taken := by
  rw [delivered, if_neg h, List.append_nil]

theorem delivered_of_pending (h : Pending s.dev.regs) : s.delivered = s.taken ++ [message s.dev.regs] := by
  rw [delivered, if_pos h]

theorem take_of_idle (h : ¬Pending s.dev.regs) : s.take = s := if_neg h

theorem delivered_take (s : Station) : s.take.delivered = s.delivered := by
  by_cases h : Pending s.dev.regs
  · rw [delivered_of_pending h, take, if_pos h]
    exact delivered_of_idle (not_pending_clearComplete _)
  · rw [take_of_idle h]

end Station

end

/-! ## Calls while no message waits -/

namespace Peer

variable {p : Peer} {α : Type} {f : MemDev → α × MemDev} {g : Errno → α}

/-- The device has taken `taken`, and nothing waits. -/
def Idle (taken : List (Option (List Byte))) (p : Peer) : Prop :=
  p.station.taken = taken ∧ ¬Pending p.station.dev.regs

/-- The peer with another device, some time later. -/
def later (p : Peer) (dev : MemDev) (time : Nat) : Peer :=
  { p with station := ⟨dev, p.station.taken⟩, time := time }

theorem transaction_of_idle (h : ¬Pending p.station.dev.regs) :
    (∃ e, transaction f g p = (g e, p.later p.station.dev (p.time + 1))) ∨
      transaction f g p = ((f p.station.dev).1, p.later (f p.station.dev).2 (p.time + 1)) := by
  have htake : (if p.takes p.time then p.station.take else p.station) = p.station := by
    rw [Station.take_of_idle h, ite_self]
  simp only [transaction, htake]
  cases p.fault p.time with
  | some e => exact .inl ⟨e, rfl⟩
  | none => exact .inr rfl

/-- The messages that have been delivered change only with the registers. -/
theorem delivered_transaction (hf : ∀ d, (f d).2.regs = d.regs) (p : Peer) :
    (transaction f g p).2.station.delivered = p.station.delivered := by
  have htake : (if p.takes p.time then p.station.take else p.station).delivered = p.station.delivered := by
    split
    · exact p.station.delivered_take
    · rfl
  rw [← htake, transaction]
  cases p.fault p.time with
  | some e => rfl
  | none => rw [Station.delivered, Station.delivered, hf]

end Peer

section

variable {p : Peer} {n : Nat}

theorem receive_idle (h : ¬Pending p.station.dev.regs) (n : Nat) :
    (∃ next time, (receive peerBus n p).2 = p.later ⟨p.station.dev.regs, next⟩ time) ∧
      ∀ b, (receive peerBus n p).1[0]? = some (.ok b) → b = p.station.dev.regs p.station.dev.next := by
  induction n generalizing p with
  | zero => exact ⟨⟨_, _, rfl⟩, fun b hb => by cases hb⟩
  | succ n ih =>
      rw [receive]
      have hrecv := Peer.transaction_of_idle (f := memBus.recvByte) (g := Except.error) h
      change (∃ e, peerBus.recvByte p = _) ∨ peerBus.recvByte p = _ at hrecv
      obtain ⟨e, hrecv⟩ | hrecv := hrecv
      · rw [hrecv]
        obtain ⟨⟨next, time, hstate⟩, -⟩ := ih (p := p.later p.station.dev (p.time + 1)) h
        exact ⟨⟨next, time, hstate⟩, fun b hb => by cases hb⟩
      · rw [hrecv]
        obtain ⟨⟨next, time, hstate⟩, -⟩ := ih (p := p.later (memBus.recvByte p.station.dev).2 (p.time + 1)) h
        exact ⟨⟨next, time, hstate⟩, fun b hb => by cases hb; rfl⟩

theorem exchange_idle (h : ¬Pending p.station.dev.regs) (offset : BitVec 16) (n : Nat) :
    (∃ next time, (exchange peerBus offset n p).state = p.later ⟨p.station.dev.regs, next⟩ time) ∧
      ∀ b, (exchange peerBus offset n p).received[0]? = some (.ok b) → b = p.station.dev.regs offset := by
  have hwrite := Peer.transaction_of_idle (f := memBus.writeByte (lowByte offset) (highByte offset))
    (g := TStdError.errcode) h
  change (∃ e, peerBus.writeByte _ _ p = _) ∨ peerBus.writeByte _ _ p = _ at hwrite
  rw [exchange]
  obtain ⟨e, hwrite⟩ | hwrite := hwrite
  · simp only [hwrite]
    exact ⟨⟨_, _, rfl⟩, fun b hb => by cases hb⟩
  · obtain ⟨⟨next, time, hstate⟩, hfirst⟩ := receive_idle (p := p.later
      (memBus.writeByte (lowByte offset) (highByte offset) p.station.dev).2 (p.time + 1)) h n
    simp only [hwrite, memBus, high_append_low, ↓reduceIte] at hstate hfirst ⊢
    exact ⟨⟨next, time, hstate⟩, hfirst⟩

/-- What the control register is read as, if anything has been received. -/
theorem load_control {rs : List (Except Errno Byte)} {regs : ByteMem 16} (hidle : ¬Pending regs)
    (hfirst : ∀ b, rs[0]? = some (.ok b) → b = regs mailboxControl) {lo : Byte}
    (hlo : (fill 0 rs (Buffer.zeroed n))[0]? = some (some lo)) : lo.getLsbD downloadCompleteBit = false := by
  by_cases hr : ∃ b, rs[0]? = some (.ok b)
  · obtain ⟨b, hb⟩ := hr
    have hlt : 0 + 0 < (Buffer.zeroed n).length := by
      rw [← fill_length 0 rs]
      exact (List.getElem?_eq_some_iff.mp hlo).1
    have hfill := fill_received (Buffer.zeroed n) 0 hb hlt
    rw [Nat.add_zero, hlo] at hfill
    obtain rfl : lo = b := Option.some.inj (Option.some.inj hfill)
    rw [hfirst lo hb]
    exact Bool.eq_false_iff.mpr hidle
  · have hfill := fill_not_received (Buffer.zeroed n) 0 fun b hb => hr ⟨b, hb⟩
    rw [Nat.add_zero, hlo] at hfill
    have hzero := List.mem_of_getElem? hfill.symm
    obtain rfl : lo = 0 := Option.some.inj (List.eq_of_mem_replicate hzero)
    rfl

/-- The control register is read without the bit of a message that waits, whatever fails. -/
theorem read_control (h : ¬Pending p.station.dev.regs) (hn : 2 ≤ n) :
    ∃ rc control next time lo hi, (commDevRead peerDevice mailboxControl 2 (Buffer.zeroed n)).out p =
        (.ok (rc, control), p.later ⟨p.station.dev.regs, next⟩ time) ∧
      control.load 0 = .ok lo ∧ control.load 1 = .ok hi ∧ lo.getLsbD downloadCompleteBit = false := by
  obtain ⟨⟨next, time, hstate⟩, hfirst⟩ := exchange_idle h mailboxControl 2
  have hread : (commDevRead peerDevice mailboxControl 2 (Buffer.zeroed n)).out p =
      (.ok ((exchange peerBus mailboxControl 2 p).rc, fill 0 (exchange peerBus mailboxControl 2 p).received
        (Buffer.zeroed n)), (exchange peerBus mailboxControl 2 p).state) :=
    commDevRead_of_le rfl (Nat.le_trans hn (Buffer.le_length_zeroed n))
  have hinit := fill_init (exchange peerBus mailboxControl 2 p).received (Buffer.init_zeroed n)
  obtain ⟨lo, hlo⟩ := hinit 0 (by rw [fill_length, Buffer.length_zeroed]; omega)
  obtain ⟨hi, hhi⟩ := hinit 1 (by rw [fill_length, Buffer.length_zeroed]; omega)
  refine ⟨(exchange peerBus mailboxControl 2 p).rc, fill 0 (exchange peerBus mailboxControl 2 p).received
    (Buffer.zeroed n), next, time, lo, hi, ?_, Buffer.load_some hlo, Buffer.load_some hhi,
    load_control h hfirst hlo⟩
  rw [hread, hstate]

/-- A block is written, or nothing is. -/
theorem writeBlock_idle (h : ¬Pending p.station.dev.regs) (offset : BitVec 16) {data : List Byte}
    (hlen : data.length ≤ smbusBlockLen) :
    (∃ e, (commDevWriteBlock peerBus offset data).out p =
        (.ok (.errcode e), p.later p.station.dev (p.time + 1))) ∨
      (commDevWriteBlock peerBus offset data).out p =
        (.ok .ok, p.later ⟨p.station.dev.regs.storeAt offset data, p.station.dev.next⟩ (p.time + 1)) := by
  have hmem : smbusWriteI2cBlockData memBus offset data p.station.dev =
      (.ok, { p.station.dev with regs := p.station.dev.regs.storeAt offset data }) :=
    smbusWriteI2cBlockData_mem p.station.dev hlen
  rw [smbusWriteI2cBlockData_eq _ hlen] at hmem
  rw [commDevWriteBlock, Acts.out_act, smbusWriteI2cBlockData_eq _ hlen]
  have hwrite := Peer.transaction_of_idle (f := memBus.writeBlock (lowByte offset)
    (BitVec.ofNat 8 (data.length + 1) :: highByte offset :: data)) (g := TStdError.errcode) h
  change (∃ e, peerBus.writeBlock _ _ p = _) ∨ peerBus.writeBlock _ _ p = _ at hwrite
  obtain ⟨e, hfail⟩ | hok := hwrite
  · exact .inl ⟨e, by rw [hfail]⟩
  · exact .inr (by rw [hok, hmem])

end

/-! ### What reads keep -/

section

variable {σ : Type} {R : Resource σ} {J : σ → Prop}
  (hw : ∀ cmd buffer s, J s → J (R.bus.writeByte cmd buffer s).2)
  (hr : ∀ s, J s → J (R.bus.recvByte s).2)

include hr in
theorem recvLoop_keeps (left lenCount : Nat) (rc : TStdError) (buf : Buffer) :
    Acts.Keeps J (recvLoop R.bus left lenCount rc buf) := by
  induction left generalizing lenCount rc buf with
  | zero => exact Acts.Keeps.pure _
  | succ left ih =>
      rw [recvLoop]
      refine (Acts.Keeps.act hr).bind fun r => ?_
      cases r with
      | error e => exact ih _ _ _
      | ok b => exact (Acts.Keeps.check _).bind fun _ => ih _ _ _

include hw hr in
theorem commDevRead_keeps (offset : BitVec 16) (n : Nat) (buf : Buffer) :
    Acts.Keeps J (commDevRead R offset n buf) := by
  rw [commDevRead]
  split
  · exact Acts.Keeps.pure _
  · refine (Acts.Keeps.act (hw _ _)).bind fun rc => ?_
    split
    · exact recvLoop_keeps hr _ _ _ _
    · exact Acts.Keeps.pure _

include hw hr in
theorem readMailbox_keeps (buf : Buffer) : Acts.Keeps J (readMailbox R buf) := by
  have hread := commDevRead_keeps hw hr
  refine (hread _ _ _).bind ?_
  rintro ⟨rc, header⟩
  dsimp only
  refine (Acts.Keeps.check _).bind fun size => ?_
  split
  · exact Acts.Keeps.pure _
  · split
    · refine (hread _ _ _).bind ?_
      rintro ⟨rc, regData⟩
      dsimp only
      split
      · refine (Acts.Keeps.check _).bind fun valid => ?_
        split
        · exact Acts.Keeps.pure _
        · exact Acts.Keeps.pure _
      · exact Acts.Keeps.pure _
    · exact Acts.Keeps.pure _

include hw hr in
theorem isBufferReady_keeps : Acts.Keeps J (isBufferReady R) := by
  refine (commDevRead_keeps hw hr _ _ _).bind ?_
  rintro ⟨rc, mboxStatus⟩
  dsimp only
  split
  · exact (Acts.Keeps.check _).bind fun status => Acts.Keeps.pure _
  · exact Acts.Keeps.pure _

/-- A write of no more than a block is one block. -/
theorem out_commDevWrite_block (ht : R.type = .commDev) (offset : BitVec 16) {data : List Byte}
    (hpos : 0 < data.length) (hlen : data.length ≤ smbusBlockLen) (s : σ) :
    (commDevWrite R offset data).out s = (commDevWriteBlock R.bus offset data).out s := by
  obtain ⟨n, hn⟩ := Nat.exists_eq_add_of_lt hpos
  have hblock : (data.drop 0).take
      (if data.length - 0 > smbusBlockLen then smbusBlockLen else data.length - 0) = data := by
    rw [take_block, List.drop_zero, List.take_of_length_le hlen]
  have hend (fuel : Nat) : writeBlocks R.bus offset data fuel (0 + smbusBlockLen) = pure .ok := by
    cases fuel <;> rw [writeBlocks, if_neg (by omega)]
  rw [commDevWrite, if_neg (not_not_intro ht), hn, Nat.zero_add, writeBlocks, if_pos hpos]
  simp only [hblock, hend, BitVec.add_zero]
  rw [Acts.out_bind]
  have hblockOut : ∃ rc t, (commDevWriteBlock R.bus offset data).out s = (.ok rc, t) := ⟨_, _, rfl⟩
  obtain ⟨rc, t, hout⟩ := hblockOut
  rw [hout]
  simp only
  split
  · rfl
  · rename_i hrc
    rw [Decidable.not_not.mp hrc]
    rfl

end

/-! ### Calls -/

section

variable {taken : List (Option (List Byte))} {p : Peer} {offset : BitVec 16} {data : List Byte}

theorem Peer.Idle.transaction {α : Type} {f : MemDev → α × MemDev} {g : Errno → α}
    (hf : ∀ d, (f d).2.regs = d.regs) (h : p.Idle taken) : (Peer.transaction f g p).2.Idle taken := by
  obtain ⟨e, hout⟩ | hout := Peer.transaction_of_idle (f := f) (g := g) h.2
  · rw [hout]
    exact h
  · rw [hout]
    refine ⟨h.1, ?_⟩
    change ¬Pending (f p.station.dev).2.regs
    rw [hf]
    exact h.2

theorem writeByte_idle (cmd buffer : Byte) (p : Peer) (h : p.Idle taken) :
    (peerBus.writeByte cmd buffer p).2.Idle taken := h.transaction fun _ => rfl

theorem recvByte_idle (p : Peer) (h : p.Idle taken) : (peerBus.recvByte p).2.Idle taken :=
  h.transaction fun _ => rfl

theorem commDevRead_idle (offset : BitVec 16) (n : Nat) (buf : Buffer) :
    Acts.Keeps (Peer.Idle taken) (commDevRead peerDevice offset n buf) :=
  commDevRead_keeps writeByte_idle recvByte_idle offset n buf

theorem readMailbox_idle (buf : Buffer) : Acts.Keeps (Peer.Idle taken) (readMailbox peerDevice buf) :=
  readMailbox_keeps writeByte_idle recvByte_idle buf

theorem isBufferReady_idle : Acts.Keeps (Peer.Idle taken) (isBufferReady peerDevice) :=
  isBufferReady_keeps writeByte_idle recvByte_idle

theorem pending_storeAt_of_outside (regs : ByteMem 16) (h : data.length ≤ (mailboxControl - offset).toNat) :
    Pending (regs.storeAt offset data) ↔ Pending regs := by
  rw [Pending, Pending, ByteMem.storeAt_outside h]

theorem pending_storeAt_control (regs : ByteMem 16) (lo : Byte) (rest : List Byte) :
    Pending (regs.storeAt mailboxControl (lo :: rest)) ↔ lo.getLsbD downloadCompleteBit = true := by
  have hstore : regs.storeAt mailboxControl (lo :: rest) mailboxControl = lo := by
    simp only [ByteMem.storeAt, BitVec.sub_self]
    rfl
  rw [Pending, hstore]

/-- A write of no more than a block is made, or nothing is. -/
theorem write_idle (h : ¬Pending p.station.dev.regs) (offset : BitVec 16) (data : List Byte)
    (hpos : 0 < data.length) (hlen : data.length ≤ smbusBlockLen) :
    (∃ e, (commDevWrite peerDevice offset data).out p =
        (.ok (.errcode e), p.later p.station.dev (p.time + 1))) ∨
      (commDevWrite peerDevice offset data).out p =
        (.ok .ok, p.later ⟨p.station.dev.regs.storeAt offset data, p.station.dev.next⟩ (p.time + 1)) := by
  rw [out_commDevWrite_block rfl offset hpos hlen p]
  exact writeBlock_idle h offset hlen

theorem commDevWrite_idle (hpos : 0 < data.length) (hlen : data.length ≤ smbusBlockLen)
    (hout : data.length ≤ (mailboxControl - offset).toNat) :
    Acts.Keeps (Peer.Idle taken) (commDevWrite peerDevice offset data) := by
  intro p h
  obtain ⟨e, hwrite⟩ | hwrite := write_idle h.2 offset data hpos hlen
  · rw [hwrite]
    exact h
  · rw [hwrite]
    exact ⟨h.1, (pending_storeAt_of_outside _ hout).not.mpr h.2⟩

/-- Another bit of the control register is set. -/
theorem setControlBit_idle {bit : Nat} (hbit : ((1 : Byte) <<< bit).getLsbD downloadCompleteBit = false) :
    Acts.Keeps (Peer.Idle taken) (setControlBit peerDevice bit) := by
  intro p h
  obtain ⟨rc, control, next, time, lo, hi, hread, hlo, hhi, hclear⟩ := read_control h.2 (Nat.le_refl 2)
  have hwrite := write_idle (p := p.later ⟨p.station.dev.regs, next⟩ time) h.2 mailboxControl
    [lo ||| (1 : Byte) <<< bit, hi] (Nat.zero_lt_succ _) (Nat.le_of_ble_eq_true rfl)
  rw [setControlBit, Acts.out_bind_ok hread]
  dsimp only
  split
  · rw [Acts.out_bind_ok (by rw [Acts.out_check, hlo]), Acts.out_bind_ok (by rw [Acts.out_check, hhi])]
    obtain ⟨e, hwrite⟩ | hwrite := hwrite
    · rw [hwrite]
      exact h
    · rw [hwrite]
      refine ⟨h.1, (pending_storeAt_control _ _ _).not.mpr ?_⟩
      rw [BitVec.getLsbD_or, hclear, hbit]
      decide
  · exact h

theorem flushMsgBuffer_idle : Acts.Keeps (Peer.Idle taken) (flushMsgBuffer peerDevice) :=
  setControlBit_idle rfl

theorem statusCheckAndClear_idle : Acts.Keeps (Peer.Idle taken) (statusCheckAndClear peerDevice) := by
  refine (commDevRead_idle _ _ _).bind ?_
  rintro ⟨rc, status⟩
  dsimp only
  split
  · exact (commDevWrite_idle (by decide) (by decide) (by decide)).bind fun _ => flushMsgBuffer_idle
  · exact Acts.Keeps.pure _

theorem commDevMsgRead_idle (sizeData : Nat) :
    Acts.Keeps (Peer.Idle taken) (commDevMsgRead peerDevice sizeData) := by
  refine (readMailbox_idle _).bind ?_
  rintro ⟨rc, readData⟩
  dsimp only
  split
  · exact (setControlBit_idle rfl).bind fun _ => Acts.Keeps.pure _
  · exact Acts.Keeps.pure _

/-! ### Sending -/

theorem statusCheckAndClear_returns (p : Peer) : (statusCheckAndClear peerDevice).Returns p := by
  rw [statusCheckAndClear, Acts.returns_bind_iff (commDevRead_of_le rfl (Buffer.le_length_zeroed 2))]
  simp only
  split
  · exact (commDevWrite_returns _ _ _).bind fun _ p' _ => setControlBit_returns _ p'
  · exact Acts.Returns.pure _ _

theorem toNat_sub_add_ofNat {a base : BitVec 16} {k : Nat} (h : k ≤ (a - base).toNat) :
    (a - (base + BitVec.ofNat 16 k)).toNat = (a - base).toNat - k := by
  have hk : (BitVec.ofNat 16 k).toNat = k := by
    rw [BitVec.toNat_ofNat, Nat.mod_eq_of_lt (Nat.lt_of_le_of_lt h (a - base).isLt)]
  rw [← BitVec.sub_sub, BitVec.toNat_sub_of_le (by rwa [BitVec.le_def, hk]), hk]

/-- Of data outside of the control register, each block is written in turn, and a failure ends the write. -/
theorem writeBlocks_idle (offset : BitVec 16) (data : List Byte) {fuel : Nat} (lenCount : Nat)
    (h : ¬Pending p.station.dev.regs) (hfuel : data.length ≤ lenCount + fuel) (hlen : data.length ≤ 2 ^ 16)
    (hout : data.length ≤ (mailboxControl - offset).toNat) :
    ∃ rc regs time, (writeBlocks peerBus offset data fuel lenCount).out p =
        (.ok rc, p.later ⟨regs, p.station.dev.next⟩ time) ∧ ¬Pending regs ∧
      (rc = .ok →
        regs = p.station.dev.regs.storeAt (offset + BitVec.ofNat 16 lenCount) (data.drop lenCount)) := by
  induction fuel generalizing lenCount p with
  | zero =>
      rw [writeBlocks, if_neg (by omega), List.drop_eq_nil_of_le (by omega)]
      exact ⟨.ok, p.station.dev.regs, p.time, rfl, h, fun _ => rfl⟩
  | succ fuel ih =>
      rw [writeBlocks]
      by_cases hlt : lenCount < data.length
      · rw [if_pos hlt]
        simp only [take_block]
        have hblock : ((data.drop lenCount).take smbusBlockLen).length ≤
            (mailboxControl - (offset + BitVec.ofNat 16 lenCount)).toNat := by
          rw [toNat_sub_add_ofNat (by omega), List.length_take, List.length_drop]
          omega
        obtain ⟨e, hfail⟩ | hok := writeBlock_idle h (offset + BitVec.ofNat 16 lenCount)
          (List.length_take_le smbusBlockLen (data.drop lenCount))
        · rw [Acts.out_bind_ok hfail, if_pos TStdError.noConfusion]
          exact ⟨.errcode e, p.station.dev.regs, p.time + 1, rfl, h, fun hrc => (by cases hrc)⟩
        · obtain ⟨rc, regs, time, hrest, hidle, hstored⟩ := ih (lenCount + smbusBlockLen)
            (p := p.later ⟨p.station.dev.regs.storeAt (offset + BitVec.ofNat 16 lenCount)
              ((data.drop lenCount).take smbusBlockLen), p.station.dev.next⟩ (p.time + 1))
            ((pending_storeAt_of_outside _ hblock).not.mpr h) (by simp only [smbusBlockLen]; omega)
          rw [Acts.out_bind_ok hok, if_neg (not_not_intro rfl)]
          refine ⟨rc, regs, time, hrest, hidle, fun hrc => ?_⟩
          rw [hstored hrc, BitVec.ofNat_add, ← BitVec.add_assoc, ← List.drop_drop]
          exact ByteMem.storeAt_take_drop _ _ _ _ (by rw [List.length_drop]; omega)
      · rw [if_neg hlt, List.drop_eq_nil_of_le (by omega)]
        exact ⟨.ok, p.station.dev.regs, p.time, rfl, h, fun _ => rfl⟩

variable {text : List Byte}

/-- The text is in the northbound mailbox. -/
def Mailed (text : List Byte) (regs : ByteMem 16) : Prop :=
  regs.bytesAt northboundMailbox (mailboxImage text).length = mailboxImage text

theorem length_mailboxImage (text : List Byte) :
    (mailboxImage text).length = mailboxHeaderSize + text.length :=
  List.length_append

theorem writeMailbox_idle (h : p.Idle taken) (hlen : text.length ≤ bufferMaxSize) :
    ∃ rc p', (writeMailbox peerDevice text).out p = (.ok rc, p') ∧ p'.Idle taken ∧
      (rc = .ok → Mailed text p'.station.dev.regs) := by
  have hbus : peerDevice.bus = peerBus := rfl
  have hheader : (addMailboxHeader text).bytes.length = mailboxHeaderSize := rfl
  have hmax : bufferMaxSize = 4100 := rfl
  obtain ⟨rc₀, q, hclear⟩ := statusCheckAndClear_returns p
  have hidle := statusCheckAndClear_idle p h
  rw [hclear] at hidle
  rw [writeMailbox, if_neg (not_not_intro (show peerDevice.type = .commDev from rfl)),
    Acts.out_bind_ok hclear, hbus]
  have hfits : (addMailboxHeader text).bytes.length ≤ smbusBlockLen := Nat.le_of_ble_eq_true rfl
  have houtside : (addMailboxHeader text).bytes.length ≤ (mailboxControl - northboundMailbox).toNat := by
    rw [hheader]
    decide
  obtain ⟨e, hfail⟩ | hok := writeBlock_idle hidle.2 northboundMailbox hfits
  · simp only
    rw [Acts.out_bind_ok hfail, if_pos TStdError.noConfusion]
    exact ⟨_, _, rfl, hidle, fun hrc => (by cases hrc)⟩
  · obtain ⟨rc, regs, time, hrest, hquiet, hstored⟩ := writeBlocks_idle
      (northboundMailbox + BitVec.ofNat 16 mailboxHeaderSize) text 0
      (p := q.later ⟨q.station.dev.regs.storeAt northboundMailbox (addMailboxHeader text).bytes,
        q.station.dev.next⟩ (q.time + 1)) ((pending_storeAt_of_outside _ houtside).not.mpr hidle.2)
      (Nat.le_of_eq (Nat.zero_add _).symm) (by omega) (Nat.le_trans hlen (by decide))
    simp only
    rw [Acts.out_bind_ok hok, if_neg (not_not_intro rfl)]
    refine ⟨rc, _, hrest, ⟨hidle.1, hquiet⟩, fun hrc => ?_⟩
    change Mailed text regs
    have himage := ByteMem.storeAt_append q.station.dev.regs northboundMailbox
      (addMailboxHeader text).bytes text (by rw [hheader]; simp only [mailboxHeaderSize]; omega)
    rw [hstored hrc, BitVec.add_zero, List.drop_zero, Mailed]
    change ((q.station.dev.regs.storeAt _ (addMailboxHeader text).bytes).storeAt _ text).bytesAt _ _ = _
    rw [← hheader, himage]
    exact ByteMem.bytesAt_storeAt _ _ (mailboxImage text) (by
      rw [length_mailboxImage]
      simp only [mailboxHeaderSize]
      omega)

/-- The device gets the string without what is behind it. -/
theorem message_of_mailed {regs : ByteMem 16} (hnul : 0 ∈ text) (hlen : text.length ≤ bufferMaxSize)
    (h : Mailed text regs) : message regs = some (cstr text ++ [0]) := by
  have hstr := cstr_length_lt hnul
  have hmax : bufferMaxSize = 4100 := rfl
  have hheader : (addMailboxHeader text).bytes.length = mailboxHeaderSize := rfl
  have hsize : (addMailboxHeader text).size.toNat = (cstr text).length + 1 := by
    simp only [addMailboxHeader, BitVec.toNat_ofNat]
    omega
  rw [Mailed, mailboxImage, List.length_append, ByteMem.bytesAt_append] at h
  obtain ⟨hbytes, htext⟩ := List.append_inj h (ByteMem.bytesAt_length ..)
  have hfour : regs.bytesAt northboundMailbox 4 = [regs northboundMailbox, regs (northboundMailbox + 1),
      regs (northboundMailbox + 2), regs (northboundMailbox + 3)] := rfl
  rw [hheader] at hbytes htext
  obtain ⟨h₀, h₁, h₂, h₃⟩ : regs northboundMailbox = lowByte (addMailboxHeader text).checksum ∧
      regs (northboundMailbox + 1) = highByte (addMailboxHeader text).checksum ∧
      regs (northboundMailbox + 2) = lowByte (addMailboxHeader text).size ∧
      regs (northboundMailbox + 3) = highByte (addMailboxHeader text).size := by
    simpa [MailboxHeader.bytes] using hfour.symm.trans hbytes
  have hpayload : regs.bytesAt (northboundMailbox + 4) (addMailboxHeader text).size.toNat =
      cstr text ++ [0] := by
    rw [ByteMem.bytesAt_take regs _ (show (addMailboxHeader text).size.toNat ≤ text.length by omega), hsize,
      ← take_cstr hnul]
    exact congrArg (List.take _) htext
  have hsum : (addMailboxHeader text).checksum =
      ~~~(mailboxSum (text.take (addMailboxHeader text).size.toNat) (addMailboxHeader text).size) + 1 := rfl
  rw [message, h₀, h₁, h₂, h₃, high_append_low, high_append_low, hpayload, hsum, hsize,
    take_cstr hnul, if_pos rfl]

theorem mailed_storeAt_control {regs : ByteMem 16} (hlen : text.length ≤ bufferMaxSize) (h : Mailed text regs)
    (hdata : data.length ≤ smbusBlockLen) : Mailed text (regs.storeAt mailboxControl data) := by
  refine Eq.trans (List.map_congr_left fun i hi => ByteMem.storeAt_outside ?_) h
  rw [List.mem_range, length_mailboxImage] at hi
  simp only [bufferMaxSize, mailboxHeaderSize, smbusBlockLen, northboundMailbox, mailboxControl] at *
  bv_omega

/-- The message waits if the call succeeds, and only then. -/
theorem packageDownloadComplete_idle (h : p.Idle taken) (hlen : text.length ≤ bufferMaxSize)
    (hmail : Mailed text p.station.dev.regs) :
    ∃ rc p', (packageDownloadComplete peerDevice).out p = (.ok rc, p') ∧ p'.station.taken = taken ∧
      (rc = .ok → Pending p'.station.dev.regs ∧ Mailed text p'.station.dev.regs) ∧
      (rc ≠ .ok → ¬Pending p'.station.dev.regs) := by
  obtain ⟨rc, control, next, time, lo, hi, hread, hlo, hhi, -⟩ := read_control h.2 (show 2 ≤ 4 by decide)
  have hwrite := write_idle (p := p.later ⟨p.station.dev.regs, next⟩ time) h.2 mailboxControl
    [lo ||| (1 : Byte) <<< downloadCompleteBit, hi, lowByte northboundMailboxTimeThreshold,
      highByte northboundMailboxTimeThreshold] (Nat.zero_lt_succ _) (Nat.le_of_ble_eq_true rfl)
  rw [packageDownloadComplete, Acts.out_bind_ok hread]
  dsimp only
  split
  · rw [Acts.out_bind_ok (by rw [Acts.out_check, hlo]), Acts.out_bind_ok (by rw [Acts.out_check, hhi])]
    obtain ⟨e, hwrite⟩ | hwrite := hwrite
    · exact ⟨_, _, hwrite, h.1, fun hok => (by cases hok), fun _ => h.2⟩
    · refine ⟨_, _, hwrite, h.1, fun _ => ⟨(pending_storeAt_control _ _ _).mpr ?_, ?_⟩,
        fun hne => absurd rfl hne⟩
      · simp [downloadCompleteBit]
      · exact mailed_storeAt_control hlen hmail (Nat.le_of_ble_eq_true rfl)
  · rename_i hrc
    exact ⟨rc, _, rfl, h.1, fun hok => absurd hok hrc, fun _ => h.2⟩

/-- A message that is sent with success waits; without success none does. -/
theorem commDevMsgWrite_idle (h : p.Idle taken) (text : Text) :
    ∃ rc p', (commDevMsgWrite peerDevice text.bytes).out p = (.ok rc, p') ∧
      p'.station.delivered = taken ++ if rc = .ok then [some text.message] else [] := by
  obtain ⟨rc, q, hwrite, hidle, hmail⟩ := writeMailbox_idle h text.short
  rw [commDevMsgWrite, if_neg (not_not_intro (show peerDevice.type = .commDev from rfl)),
    Acts.out_bind_ok hwrite]
  by_cases hrc : rc = .ok
  · obtain ⟨rc', q', hcomplete, htaken, hok, hfail⟩ :=
      packageDownloadComplete_idle hidle text.short (hmail hrc)
    rw [if_pos hrc]
    refine ⟨rc', q', hcomplete, ?_⟩
    by_cases hrc' : rc' = .ok
    · obtain ⟨hpending, hmailed⟩ := hok hrc'
      rw [Station.delivered_of_pending hpending, message_of_mailed text.nul text.short hmailed,
        htaken, if_pos hrc']
      rfl
    · rw [Station.delivered_of_idle (hfail hrc'), htaken, if_neg hrc', List.append_nil]
  · rw [if_neg hrc]
    exact ⟨rc, q, rfl, by rw [Station.delivered_of_idle hidle.2, hidle.1, if_neg hrc, List.append_nil]⟩

end

/-! ## Runs of the link -/

section

variable {p : Peer}

theorem HostCall.delivered_run (c : HostCall) (h : ¬Pending p.station.dev.regs) :
    (c.run p).2.station.delivered = p.station.taken ++ (c.run p).1.map fun text => some text.message := by
  have hidle : p.Idle p.station.taken := ⟨rfl, h⟩
  have hkeep {α : Type} {x : DevM Peer α} (hx : Acts.Keeps (Peer.Idle p.station.taken) x) :
      (x.out p).2.station.delivered = p.station.taken ++ [] := by
    obtain ⟨htaken, hquiet⟩ := hx p hidle
    rw [Station.delivered_of_idle hquiet, htaken, List.append_nil]
  cases c with
  | send text =>
      obtain ⟨rc, q, hout, hdelivered⟩ := commDevMsgWrite_idle hidle text
      rw [HostCall.run, hout]
      cases rc with
      | ok => exact hdelivered
      | errcode e => exact hdelivered
  | flush => exact hkeep flushMsgBuffer_idle
  | msgRead sizeData size => exact hkeep (commDevMsgRead_idle sizeData)
  | bufferReady => exact hkeep isBufferReady_idle

/-- The ready poll loses and repeats nothing, also while a message waits. -/
theorem HostCall.delivered_bufferReady (p : Peer) :
    (HostCall.bufferReady.run p).2.station.delivered = p.station.delivered :=
  isBufferReady_keeps (J := fun q => q.station.delivered = p.station.delivered)
    (fun _ _ q h => (Peer.delivered_transaction (fun _ => rfl) q).trans h)
    (fun q h => (Peer.delivered_transaction (fun _ => rfl) q).trans h) p rfl

theorem Link.exact_step {may : HostCall → Prop} (hmay : ∀ c, may c → c = .bufferReady) {l : Link}
    {e : LinkEvent}
    (h : l.Exact) (hpermits : l.Permits may e) : (l.step e).Exact := by
  cases e with
  | take => exact (Station.delivered_take l.station).trans h
  | call c takes fault =>
      by_cases hpending : Pending l.station.dev.regs
      · obtain rfl := hmay c (hpermits c takes fault rfl hpending)
        exact (HostCall.delivered_bufferReady _).trans
          (h.trans (by rw [Link.step, HostCall.run, List.append_nil]))
      · change (c.run ⟨l.station, 0, takes, fault⟩).2.station.delivered =
          (l.sent ++ (c.run ⟨l.station, 0, takes, fault⟩).1).map fun text => some text.message
        rw [c.delivered_run hpending, List.map_append]
        exact congrArg (· ++ _) ((Station.delivered_of_idle hpending).symm.trans h)

/-! ### A call while a message waits -/

def zeroDev : MemDev := ⟨fun _ => 0, 0⟩

def emptyText : Text := ⟨[0], by decide, by decide⟩

/-- Nothing happens during the call. -/
def calm : Peer := ⟨⟨zeroDev, []⟩, 0, fun _ => false, fun _ => none⟩

/-- The device after the empty text has been sent to it. -/
def waiting : Station := ((HostCall.send emptyText).run calm).2.station

/-- The device takes the message between the read of the control register and the write
that sets the bit again. -/
theorem exists_twice {c : HostCall} (hc : c ≠ .bufferReady) :
    ∃ takes fault, (c.run ⟨waiting, 0, takes, fault⟩).1 = [] ∧
      (c.run ⟨waiting, 0, takes, fault⟩).2.station.delivered.length = 2 := by
  cases c with
  | send text =>
      -- The flush of the mailbox sets the bit, and then the mailbox is not written.
      refine ⟨(· == 7), fun n => if 8 ≤ n then some .eio else none, ?_, ?_⟩
      · with_unfolding_all rfl
      · with_unfolding_all rfl
  | flush =>
      refine ⟨(· == 3), fun _ => none, rfl, ?_⟩
      with_unfolding_all rfl
  | msgRead sizeData size =>
      refine ⟨(· == 9), fun _ => none, rfl, ?_⟩
      with_unfolding_all rfl
  | bufferReady => exact absurd rfl hc

theorem not_exact_of_twice {c : HostCall} {takes : Nat → Bool} {fault : Nat → Option Errno}
    (hsent : (c.run ⟨waiting, 0, takes, fault⟩).1 = [])
    (htwice : (c.run ⟨waiting, 0, takes, fault⟩).2.station.delivered.length = 2) :
    ¬(run Link.step (.start zeroDev)
      [.call (.send emptyText) (fun _ => false) (fun _ => none), .call c takes fault]).Exact := by
  intro hexact
  have hfirst : ((HostCall.send emptyText).run calm).1.length = 1 := by decide +kernel
  have hlen := congrArg List.length hexact
  change (c.run ⟨waiting, 0, takes, fault⟩).2.station.delivered.length =
    (((HostCall.send emptyText).run calm).1 ++ (c.run ⟨waiting, 0, takes, fault⟩).1 |>.map
      fun text => some text.message).length at hlen
  rw [htwice, hsent, List.length_map, List.append_nil, hfirst] at hlen
  cases hlen

/-- Whatever the interleaving and whatever fails, each message that is sent is taken once, in order and
whole, if and only if no call other than the ready poll begins while a message waits. -/
theorem exactly_once_iff (may : HostCall → Prop) :
    (∀ dev, ¬Pending dev.regs → ∀ events, Along Link.step (Link.Permits may) (.start dev) events →
      (run Link.step (.start dev) events).Exact) ↔
    ∀ c, may c → c = .bufferReady := by
  constructor
  · intro h c hmay
    by_contra hc
    obtain ⟨takes, fault, hsent, htwice⟩ := exists_twice hc
    refine not_exact_of_twice hsent htwice (h zeroDev (by decide) _ ⟨?_, ?_, trivial⟩)
    · intro c' takes' fault' heq hpending
      exact absurd hpending (by decide)
    · intro c' takes' fault' heq hpending
      cases heq
      exact hmay
  · intro hmay dev hidle events hpermits
    have hstart : (Link.start dev).Exact := Station.delivered_of_idle hidle
    exact run_inv (fun l e h => Link.exact_step hmay h) hstart hpermits

end

end OpxSdi.CommDev
