import OpxSdi.CommDev.Lemmas.Receive
import OpxSdi.Lib.ByteMem

/-!
# The device as a byte memory

A device without bus errors whose registers are bytes at 16-bit addresses. What the driver writes in
blocks of sixteen is one block of the memory, and what it reads is a block.
-/

namespace OpxSdi.CommDev

open Lib

structure MemDev where
  regs : ByteMem 16
  next : BitVec 16

/-- A written byte sets the address, and a block is its count, the high byte of its address and its data. -/
def memBus : SmBus MemDev where
  writeByte cmd buffer d := (.ok, { d with next := buffer ++ cmd })
  recvByte d := (.ok (d.regs d.next), { d with next := d.next + 1 })
  writeBlock cmd block d :=
    match block with
    | count :: high :: values =>
        (.ok, { d with regs := d.regs.storeAt (high ++ cmd) (values.take (count.toNat - 1)) })
    | _ => (.ok, d)

def memDevice : Resource MemDev := ⟨.commDev, memBus⟩

theorem high_append_low (x : BitVec 16) : highByte x ++ lowByte x = x := by
  apply BitVec.eq_of_toNat_eq
  have hlt : (lowByte x).toNat < 2 ^ 8 := (lowByte x).isLt
  rw [BitVec.toNat_append, ← Nat.shiftLeft_add_eq_or_of_lt hlt]
  simp only [highByte, lowByte, BitVec.toNat_setWidth, BitVec.toNat_ushiftRight, Nat.shiftRight_eq_div_pow,
    Nat.shiftLeft_eq]
  omega

/-! ## Reading -/

theorem receive_mem (n : Nat) (d : MemDev) :
    receive memBus n d =
      ((d.regs.bytesAt d.next n).map .ok, { d with next := d.next + BitVec.ofNat 16 n }) := by
  induction n generalizing d with
  | zero => simp [receive, ByteMem.bytesAt]
  | succ n ih =>
      rw [receive, ih, Nat.add_comm n 1, ByteMem.bytesAt_append, BitVec.ofNat_add, ← BitVec.add_assoc]
      simp [memBus, ByteMem.bytesAt]

theorem exchange_mem (offset : BitVec 16) (n : Nat) (d : MemDev) :
    exchange memBus offset n d =
      ⟨.ok, (d.regs.bytesAt offset n).map .ok, { d with next := offset + BitVec.ofNat 16 n }⟩ := by
  have hw : memBus.writeByte (lowByte offset) (highByte offset) d = (.ok, { d with next := offset }) := by
    simp only [memBus, high_append_low]
  have hrc (bs : List Byte) : lastRc .ok (bs.map .ok) = .ok := by
    induction bs with
    | nil => rfl
    | cons b bs ih => exact ih
  simp only [exchange, hw, receive_mem, hrc, if_true]

theorem commDevRead_mem (offset : BitVec 16) {n : Nat} {buf : Buffer} (d : MemDev) (h : n ≤ buf.length) :
    (commDevRead memDevice offset n buf).out d =
      (.ok (.ok, (d.regs.bytesAt offset n).map some ++ buf.drop n),
        { d with next := offset + BitVec.ofNat 16 n }) := by
  have hbus : memDevice.bus = memBus := rfl
  rw [commDevRead_of_le rfl h, hbus, exchange_mem]
  simp only
  rw [fill_ok (by rwa [ByteMem.bytesAt_length]), ByteMem.bytesAt_length]

/-! ## Writing -/

theorem smbusWriteI2cBlockData_mem {cmd : BitVec 16} {values : List Byte} (d : MemDev)
    (h : values.length ≤ smbusBlockLen) :
    smbusWriteI2cBlockData memBus cmd values d = (.ok, { d with regs := d.regs.storeAt cmd values }) := by
  simp only [smbusBlockLen] at h
  have hmod : values.length % 256 = values.length := Nat.mod_eq_of_lt (by omega)
  have hcount : (BitVec.ofNat 8 (values.length + 1)).toNat = values.length + 1 := by
    rw [BitVec.toNat_ofNat, Nat.mod_eq_of_lt (by omega)]
  simp only [smbusWriteI2cBlockData, hmod, smbusBlockLen, if_neg (Nat.not_lt.mpr h), memBus, hcount,
    high_append_low, Nat.add_sub_cancel, List.take_length]

/-- All blocks together store the data that is left, if the data does not wrap around the memory. -/
theorem writeBlocks_mem {offset : BitVec 16} {data : List Byte} {fuel lenCount : Nat} (d : MemDev)
    (hfuel : data.length ≤ lenCount + fuel) (hlen : data.length ≤ 2 ^ 16) :
    (writeBlocks memBus offset data fuel lenCount).out d =
      (.ok .ok,
        { d with regs := d.regs.storeAt (offset + BitVec.ofNat 16 lenCount) (data.drop lenCount) }) := by
  induction fuel generalizing lenCount d with
  | zero =>
      rw [writeBlocks, if_neg (by omega), List.drop_eq_nil_of_le (by omega)]
      rfl
  | succ fuel ih =>
      rw [writeBlocks]
      split
      · rename_i hlt
        -- The next block is sixteen bytes, or the rest.
        have hblock : (data.drop lenCount).take (if data.length - lenCount > smbusBlockLen then smbusBlockLen
            else data.length - lenCount) = (data.drop lenCount).take smbusBlockLen := by
          split
          · rfl
          · rw [List.take_of_length_le (Nat.le_of_eq List.length_drop), List.take_of_length_le (by
              rw [List.length_drop]; omega)]
        have hwrite : (commDevWriteBlock memBus (offset + BitVec.ofNat 16 lenCount)
            ((data.drop lenCount).take smbusBlockLen)).out d = (.ok .ok, { d with
              regs := d.regs.storeAt (offset + BitVec.ofNat 16 lenCount)
                ((data.drop lenCount).take smbusBlockLen) }) := by
          rw [commDevWriteBlock, Acts.out_act, smbusWriteI2cBlockData_mem d (List.length_take_le ..)]
        simp only [hblock]
        rw [Acts.out_bind_ok hwrite, if_neg (not_not_intro rfl),
          ih _ (by simp only [smbusBlockLen]; omega), BitVec.ofNat_add, ← BitVec.add_assoc, ← List.drop_drop,
          ByteMem.storeAt_take_drop _ _ _ _ (by rw [List.length_drop]; omega)]
      · rw [List.drop_eq_nil_of_le (by omega)]
        rfl

theorem commDevWrite_mem {offset : BitVec 16} {data : List Byte} (d : MemDev)
    (hlen : data.length ≤ 2 ^ 16) : (commDevWrite memDevice offset data).out d =
      (.ok .ok, { d with regs := d.regs.storeAt offset data }) := by
  have hbus : memDevice.bus = memBus := rfl
  rw [commDevWrite, if_neg (not_not_intro (show memDevice.type = .commDev from rfl)), hbus,
    writeBlocks_mem d (by omega) hlen, BitVec.add_zero, List.drop_zero]

/-! ## The control registers -/

def setBit (m : ByteMem 16) (bit : Nat) : ByteMem 16 :=
  m.storeAt mailboxControl [m mailboxControl ||| (1 : Byte) <<< bit, m (mailboxControl + 1)]

theorem setControlBit_mem (bit : Nat) (d : MemDev) :
    ∃ next, (setControlBit memDevice bit).out d = (.ok .ok, ⟨setBit d.regs bit, next⟩) := by
  have hread := commDevRead_mem mailboxControl d (Buffer.le_length_zeroed 2)
  rw [setControlBit, Acts.out_bind_ok hread]
  exact ⟨_, commDevWrite_mem _ (Nat.le_of_ble_eq_true rfl)⟩

theorem statusCheckAndClear_mem (d : MemDev) :
    ∃ next, (statusCheckAndClear memDevice).out d =
      (.ok .ok, ⟨setBit (d.regs.storeAt statusRegister [0, 0]) flushMailboxBit, next⟩) := by
  have hread := commDevRead_mem statusRegister d (Buffer.le_length_zeroed 2)
  rw [statusCheckAndClear, Acts.out_bind_ok hread]
  simp only [if_true]
  rw [Acts.out_bind_ok (commDevWrite_mem _ (by decide))]
  exact setControlBit_mem flushMailboxBit _

end OpxSdi.CommDev
