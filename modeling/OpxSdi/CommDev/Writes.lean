import OpxSdi.CommDev.Lemmas.Memory

/-!
# Writes in blocks of sixteen bytes

`sdi_comm_dev_write` on the caller's pointer: which bytes it reads, and what it leaves in the memory of a
device whose blocks may fail. The traces are left to the logging macro, which is not part of the model.
-/

namespace OpxSdi.CommDev

open Lib

variable {σ : Type}

/-! ## The driver, with the caller's data behind a pointer -/

/-- `length` is cut to a byte and then to half of `I2C_SMBUS_BLOCK_MAX`. -/
def smbusWriteI2cBlockDataAt (B : SmBus σ) (cmd : BitVec 16) (length : Nat) (values : Ptr) :
    DevM σ TStdError := do
  let length := length % 256
  let length := if smbusBlockLen < length then smbusBlockLen else length
  let values ← Acts.check (values.loadBytes length)
  Acts.act (B.writeBlock (lowByte cmd) (BitVec.ofNat 8 (length + 1) :: highByte cmd :: values))

def commDevWriteBlockAt (B : SmBus σ) (regOffset : BitVec 16) (len : Nat) (regData : Ptr) :
    DevM σ TStdError :=
  smbusWriteI2cBlockDataAt B regOffset len regData

def writeBlocksAt (B : SmBus σ) (offset : BitVec 16) (len : Nat) (data : Ptr) :
    (fuel lenCount : Nat) → DevM σ TStdError
  | 0, lenCount => if lenCount < len then throw .fuel else pure .ok
  | fuel + 1, lenCount =>
      if lenCount < len then do
        let left := len - lenCount
        let n := if left > smbusBlockLen then smbusBlockLen else left
        let rc ← commDevWriteBlockAt B (offset + BitVec.ofNat 16 lenCount) n (data.add lenCount)
        if rc ≠ .ok then pure rc else writeBlocksAt B offset len data fuel (lenCount + smbusBlockLen)
      else
        pure .ok

def commDevWriteAt (R : Resource σ) (offset : BitVec 16) (len : Nat) (data : Ptr) : DevM σ TStdError :=
  if R.type ≠ .commDev then pure (.errcode .eperm)
  else if len ≠ 0 then writeBlocksAt R.bus offset len data len 0
  else pure .ok

/-! ## Reads of the caller's data -/

theorem smbusWriteI2cBlockData_eq {B : SmBus σ} {cmd : BitVec 16} {values : List Byte} (s : σ)
    (h : values.length ≤ smbusBlockLen) : smbusWriteI2cBlockData B cmd values s =
      B.writeBlock (lowByte cmd) (BitVec.ofNat 8 (values.length + 1) :: highByte cmd :: values) s := by
  have hmod : values.length % 256 = values.length :=
    Nat.mod_eq_of_lt (by simp only [smbusBlockLen] at h; omega)
  simp only [smbusWriteI2cBlockData, hmod, if_neg (Nat.not_lt.mpr h), List.take_length]

/-- A block that lies in the data is read from there and nowhere else. -/
theorem out_writeBlockAt {B : SmBus σ} {regOffset : BitVec 16} {data : List Byte} {i n : Nat}
    (hn : n ≤ smbusBlockLen) (h : i + n ≤ data.length) (s : σ) :
    (commDevWriteBlockAt B regOffset n ⟨data, i⟩).out s =
      (commDevWriteBlock B regOffset ((data.drop i).take n)).out s := by
  have hload : (Ptr.mk data i).loadBytes n = .ok ((data.drop i).take n) := Ptr.loadBytes_ok h
  have hlen : ((data.drop i).take n).length = n := by
    rw [List.length_take, List.length_drop]
    omega
  have hmod : n % 256 = n := Nat.mod_eq_of_lt (by simp only [smbusBlockLen] at hn; omega)
  rw [commDevWriteBlockAt, smbusWriteI2cBlockDataAt]
  simp only [hmod, if_neg (Nat.not_lt.mpr hn)]
  rw [Acts.out_bind_ok (by rw [Acts.out_check, hload]), Acts.out_act, commDevWriteBlock, Acts.out_act,
    smbusWriteI2cBlockData_eq s (Nat.le_trans (Nat.le_of_eq hlen) hn), hlen]

theorem out_writeBlocksAt {B : SmBus σ} {offset : BitVec 16} {data : List Byte} (fuel lenCount : Nat)
    (s : σ) : (writeBlocksAt B offset data.length ⟨data, 0⟩ fuel lenCount).out s =
      (writeBlocks B offset data fuel lenCount).out s := by
  induction fuel generalizing lenCount s with
  | zero => rfl
  | succ fuel ih =>
      rw [writeBlocksAt, writeBlocks]
      split
      · rename_i hlt
        have hblock (n : Nat) (hn : n = if data.length - lenCount > smbusBlockLen then smbusBlockLen
            else data.length - lenCount) : (commDevWriteBlockAt B (offset + BitVec.ofNat 16 lenCount) n
              ((Ptr.mk data 0).add lenCount)).out s =
            (commDevWriteBlock B (offset + BitVec.ofNat 16 lenCount)
              ((data.drop lenCount).take n)).out s := by
          simp only [Ptr.add, Nat.zero_add]
          exact out_writeBlockAt (by split at hn <;> omega) (by split at hn <;> omega) s
        dsimp only
        rw [Acts.out_bind, Acts.out_bind, hblock _ rfl]
        split
        · rename_i rc s' _
          split
          · rfl
          · exact ih _ s'
        · rfl
      · rfl

/-- With `len` bytes of data the write reads no other byte, and does what `commDevWrite` does with them. -/
theorem out_commDevWriteAt (R : Resource σ) (offset : BitVec 16) (data : List Byte) (s : σ) :
    (commDevWriteAt R offset data.length ⟨data, 0⟩).out s = (commDevWrite R offset data).out s := by
  rw [commDevWriteAt, commDevWrite]
  split
  · rfl
  · split
    · exact out_writeBlocksAt _ _ s
    · rename_i hzero
      rw [Decidable.not_not.mp hzero, writeBlocks, if_neg (by omega)]

/-! ## A memory whose blocks may fail -/

/-- A memory and the blocks that fail, by number. -/
structure FailingDev where
  dev : MemDev
  fault : Nat → Option Errno
  block : Nat

def failingBus : SmBus FailingDev where
  writeByte cmd buffer d := (.ok, { d with dev := (memBus.writeByte cmd buffer d.dev).2 })
  recvByte d := ((memBus.recvByte d.dev).1, { d with dev := (memBus.recvByte d.dev).2 })
  writeBlock cmd block d :=
    match d.fault d.block with
    | some e => (.errcode e, { d with block := d.block + 1 })
    | none => ((memBus.writeBlock cmd block d.dev).1,
        { d with dev := (memBus.writeBlock cmd block d.dev).2, block := d.block + 1 })

def failingDevice : Resource FailingDev := ⟨.commDev, failingBus⟩

def blocks (n : Nat) : Nat := (n + (smbusBlockLen - 1)) / smbusBlockLen

/-- The first `k` blocks from number `block` on succeed. -/
def Succeed (d : FailingDev) (k : Nat) : Prop := ∀ j < k, d.fault (d.block + j) = none

def FailingDev.stored (d : FailingDev) (offset : BitVec 16) (data : List Byte) (k : Nat) : FailingDev :=
  { d with dev := { d.dev with regs := d.dev.regs.storeAt offset data }, block := d.block + k }

theorem out_block_fault {d : FailingDev} {e : Errno} (hf : d.fault d.block = some e) (cmd : BitVec 16)
    (values : List Byte) : (commDevWriteBlock failingBus cmd values).out d =
      (.ok (.errcode e), { d with block := d.block + 1 }) := by
  simp only [commDevWriteBlock, Acts.out_act, smbusWriteI2cBlockData, failingBus, hf]

theorem out_block_ok {d : FailingDev} (hf : d.fault d.block = none) {cmd : BitVec 16} {values : List Byte}
    (h : values.length ≤ smbusBlockLen) :
    (commDevWriteBlock failingBus cmd values).out d = (.ok .ok, d.stored cmd values 1) := by
  have hmem : smbusWriteI2cBlockData memBus cmd values d.dev =
      (.ok, { d.dev with regs := d.dev.regs.storeAt cmd values }) := smbusWriteI2cBlockData_mem d.dev h
  rw [smbusWriteI2cBlockData_eq _ h] at hmem
  rw [commDevWriteBlock, Acts.out_act, smbusWriteI2cBlockData_eq _ h]
  simp only [failingBus, hf, hmem, FailingDev.stored]

/-- A first block and the data after it are stored as one. -/
theorem FailingDev.stored_stored (d : FailingDev) (a : BitVec 16) {data : List Byte} (k : Nat)
    (h : data.length ≤ 2 ^ 16) :
    (d.stored a (data.take smbusBlockLen) 1).stored (a + BitVec.ofNat 16 smbusBlockLen)
        (data.drop smbusBlockLen) k =
      d.stored a data (k + 1) := by
  simp only [stored, ByteMem.storeAt_take_drop _ a data smbusBlockLen h, Nat.add_assoc, Nat.add_comm 1 k]

theorem Succeed.tail {d : FailingDev} {k : Nat} (h : Succeed d (k + 1)) (a : BitVec 16) (data : List Byte) :
    d.fault d.block = none ∧ Succeed (d.stored a data 1) k :=
  ⟨h 0 (Nat.zero_lt_succ k), fun j hj => by
    have hnext := h (j + 1) (Nat.succ_lt_succ hj)
    rwa [← Nat.add_assoc, Nat.add_right_comm] at hnext⟩

/-- A first block and the `k` blocks after it are `k + 1` blocks of the data. -/
theorem FailingDev.stored_blocks (d : FailingDev) (a : BitVec 16) {data : List Byte} (h : data.length ≤ 2 ^ 16)
    (k n : Nat) :
    (d.stored a (data.take smbusBlockLen) 1).stored (a + BitVec.ofNat 16 smbusBlockLen)
        ((data.drop smbusBlockLen).take (smbusBlockLen * k)) n =
      d.stored a (data.take (smbusBlockLen * (k + 1))) (n + 1) := by
  have hfront : (data.take (smbusBlockLen * (k + 1))).take smbusBlockLen = data.take smbusBlockLen := by
    rw [List.take_take, Nat.min_eq_left (by simp only [smbusBlockLen]; omega)]
  have hback : (data.take (smbusBlockLen * (k + 1))).drop smbusBlockLen =
      (data.drop smbusBlockLen).take (smbusBlockLen * k) := by
    rw [List.drop_take, Nat.mul_succ, Nat.add_sub_cancel]
  have hlen : (data.take (smbusBlockLen * (k + 1))).length ≤ 2 ^ 16 := by
    rw [List.length_take]
    omega
  have hjoin := d.stored_stored a n hlen
  rwa [hfront, hback] at hjoin

section

variable {offset : BitVec 16} {data : List Byte} {fuel lenCount : Nat} {d : FailingDev}

theorem blocks_done (h : ¬lenCount < data.length) : blocks (data.length - lenCount) = 0 := by
  simp only [blocks, smbusBlockLen]
  omega

theorem blocks_next (h : lenCount < data.length) :
    blocks (data.length - lenCount) = blocks (data.length - (lenCount + smbusBlockLen)) + 1 := by
  simp only [blocks, smbusBlockLen]
  omega

theorem out_writeBlocks_done (h : ¬lenCount < data.length) :
    (writeBlocks failingBus offset data fuel lenCount).out d = (.ok .ok, d) := by
  cases fuel <;> rw [writeBlocks, if_neg h] <;> rfl

/-- The next block is a whole one, or the rest of the data. -/
theorem take_block : (data.drop lenCount).take (if data.length - lenCount > smbusBlockLen then smbusBlockLen
    else data.length - lenCount) = (data.drop lenCount).take smbusBlockLen := by
  split
  · rfl
  · rw [List.take_of_length_le (Nat.le_of_eq List.length_drop), List.take_of_length_le (by
      rw [List.length_drop]; omega)]

theorem out_writeBlocks_fault (h : lenCount < data.length) {e : Errno} (hf : d.fault d.block = some e) :
    (writeBlocks failingBus offset data (fuel + 1) lenCount).out d =
      (.ok (.errcode e), { d with block := d.block + 1 }) := by
  have herr : TStdError.errcode e ≠ .ok := TStdError.noConfusion
  rw [writeBlocks, if_pos h, Acts.out_bind_ok (out_block_fault hf _ _), if_pos herr]
  rfl

theorem out_writeBlocks_next (h : lenCount < data.length) (hf : d.fault d.block = none) :
    (writeBlocks failingBus offset data (fuel + 1) lenCount).out d =
      (writeBlocks failingBus offset data fuel (lenCount + smbusBlockLen)).out
        (d.stored (offset + BitVec.ofNat 16 lenCount) ((data.drop lenCount).take smbusBlockLen) 1) := by
  rw [writeBlocks, if_pos h]
  simp only [take_block]
  rw [Acts.out_bind_ok (out_block_ok hf (List.length_take_le ..)), if_neg (not_not_intro rfl)]

end

/-- The blocks that are left are written up to the first that fails. -/
theorem out_writeBlocks_failing (offset : BitVec 16) {data : List Byte} {fuel : Nat} (lenCount : Nat)
    (d : FailingDev)
    (hfuel : data.length ≤ lenCount + fuel) (hlen : data.length ≤ 2 ^ 16) :
    (Succeed d (blocks (data.length - lenCount)) →
      (writeBlocks failingBus offset data fuel lenCount).out d =
        (.ok .ok, d.stored (offset + BitVec.ofNat 16 lenCount) (data.drop lenCount)
          (blocks (data.length - lenCount)))) ∧
    ∀ k < blocks (data.length - lenCount), ∀ e, Succeed d k → d.fault (d.block + k) = some e →
      (writeBlocks failingBus offset data fuel lenCount).out d =
        (.ok (.errcode e), d.stored (offset + BitVec.ofNat 16 lenCount)
          ((data.drop lenCount).take (smbusBlockLen * k)) (k + 1)) := by
  induction fuel generalizing lenCount d with
  | zero =>
      have hend : ¬lenCount < data.length := by omega
      rw [blocks_done hend, out_writeBlocks_done hend, List.drop_eq_nil_of_le (by omega)]
      exact ⟨fun _ => rfl, fun k hk => absurd hk (Nat.not_lt_zero k)⟩
  | succ fuel ih =>
      by_cases hlt : lenCount < data.length
      · obtain ⟨ihOk, ihFault⟩ := ih (lenCount + smbusBlockLen)
          (d.stored (offset + BitVec.ofNat 16 lenCount) ((data.drop lenCount).take smbusBlockLen) 1)
          (by simp only [smbusBlockLen]; omega)
        have hrest : (data.drop lenCount).length ≤ 2 ^ 16 := by
          rw [List.length_drop]
          omega
        rw [BitVec.ofNat_add, ← BitVec.add_assoc, ← List.drop_drop] at ihOk ihFault
        rw [blocks_next hlt]
        refine ⟨fun hsucceed => ?_, fun k hk e hsucceed hfault => ?_⟩
        · obtain ⟨hfirst, htail⟩ := hsucceed.tail (offset + BitVec.ofNat 16 lenCount)
            ((data.drop lenCount).take smbusBlockLen)
          rw [out_writeBlocks_next hlt hfirst, ihOk htail, FailingDev.stored_stored _ _ _ hrest]
        · cases k with
          | zero =>
              rw [out_writeBlocks_fault hlt hfault]
              rfl
          | succ k =>
              obtain ⟨hfirst, htail⟩ := hsucceed.tail (offset + BitVec.ofNat 16 lenCount)
                ((data.drop lenCount).take smbusBlockLen)
              have hnext := ihFault k (Nat.lt_of_succ_lt_succ hk) e htail
                (by rw [← hfault]; exact congrArg d.fault (by simp only [FailingDev.stored]; omega))
              rw [out_writeBlocks_next hlt hfirst, hnext, FailingDev.stored_blocks _ _ hrest]
      · rw [blocks_done hlt, out_writeBlocks_done hlt, List.drop_eq_nil_of_le (by omega)]
        exact ⟨fun _ => rfl, fun k hk => absurd hk (Nat.not_lt_zero k)⟩

theorem out_commDevWrite_failing (offset : BitVec 16) {data : List Byte} (d : FailingDev)
    (hlen : data.length ≤ 2 ^ 16) :
    (Succeed d (blocks data.length) → (commDevWrite failingDevice offset data).out d =
      (.ok .ok, d.stored offset data (blocks data.length))) ∧
    ∀ k < blocks data.length, ∀ e, Succeed d k → d.fault (d.block + k) = some e →
      (commDevWrite failingDevice offset data).out d =
        (.ok (.errcode e), d.stored offset (data.take (smbusBlockLen * k)) (k + 1)) := by
  have hloop := out_writeBlocks_failing offset 0 d (Nat.le_of_eq (Nat.zero_add data.length).symm) hlen
  rw [Nat.sub_zero, BitVec.add_zero, List.drop_zero] at hloop
  exact hloop

/-! ## Exact writes -/

/-- The first `n` bytes of the data are in the memory from `offset` on, and nothing else has changed. -/
def Written (offset : BitVec 16) (data : List Byte) (n : Nat) (m m' : ByteMem 16) : Prop :=
  (∀ i < n, data[i]? = some (m' (offset + BitVec.ofNat 16 i))) ∧
    ∀ a, (∀ i < n, a ≠ offset + BitVec.ofNat 16 i) → m' a = m a

/-- With `len` bytes behind the pointer no other byte is read. If no block fails, all of the data is written;
if block `k` is the first to fail, its error is returned and the blocks before it are written. -/
def WritesExactly (offset : BitVec 16) (data : List Byte) (d : FailingDev) : Prop :=
  ∃ rc d', (commDevWriteAt failingDevice offset data.length ⟨data, 0⟩).out d = (.ok rc, d') ∧
    (Succeed d (blocks data.length) → rc = .ok ∧
      Written offset data data.length d.dev.regs d'.dev.regs) ∧
    ∀ k < blocks data.length, ∀ e, Succeed d k → d.fault (d.block + k) = some e →
      rc = .errcode e ∧ Written offset data (smbusBlockLen * k) d.dev.regs d'.dev.regs

theorem written_stored (offset : BitVec 16) {data : List Byte} {n : Nat} (m : ByteMem 16)
    (hn : n ≤ data.length)
    (h : data.length ≤ 2 ^ 16) : Written offset data n m (m.storeAt offset (data.take n)) := by
  have hlen : (data.take n).length = n := List.length_take_of_le hn
  refine ⟨fun i hi => ?_, fun a ha => ByteMem.storeAt_outside (Nat.not_lt.mp fun hin => ?_)⟩
  · have hoff : (offset + BitVec.ofNat 16 i - offset).toNat = i := by
      rw [BitVec.add_comm, BitVec.add_sub_cancel, BitVec.toNat_ofNat, Nat.mod_eq_of_lt (by omega)]
    rw [ByteMem.storeAt_inside (by omega)]
    simp only [hoff, List.getElem_take]
    exact List.getElem?_eq_getElem (by omega)
  · refine ha (a - offset).toNat (by omega) ?_
    rw [BitVec.ofNat_toNat, BitVec.setWidth_eq, BitVec.add_comm, BitVec.sub_add_cancel]

theorem blocks_before {n k : Nat} (h : k < blocks n) : smbusBlockLen * k ≤ n := by
  simp only [blocks, smbusBlockLen] at h ⊢
  omega

/-- Of some blocks, either all succeed or one is the first to fail. -/
theorem succeed_or_fault (d : FailingDev) (n : Nat) :
    Succeed d n ∨ ∃ k < n, Succeed d k ∧ ∃ e, d.fault (d.block + k) = some e := by
  induction n with
  | zero => exact .inl fun _ hj => absurd hj (Nat.not_lt_zero _)
  | succ n ih =>
      rcases ih with hall | ⟨k, hk, hfault⟩
      · cases hf : d.fault (d.block + n) with
        | some e => exact .inr ⟨n, Nat.lt_succ_self n, hall, e, hf⟩
        | none =>
            refine .inl fun j hj => ?_
            rcases Nat.lt_succ_iff_lt_or_eq.mp hj with hlt | rfl
            · exact hall j hlt
            · exact hf
      · exact .inr ⟨k, Nat.lt_succ_of_lt hk, hfault⟩

theorem fault_unique {d : FailingDev} {j k : Nat} {e f : Errno} (hj : Succeed d j) (hk : Succeed d k)
    (he : d.fault (d.block + j) = some e) (hf : d.fault (d.block + k) = some f) : j = k ∧ e = f := by
  obtain rfl : j = k := by
    rcases Nat.lt_trichotomy j k with hlt | heq | hgt
    · cases (hk j hlt).symm.trans he
    · exact heq
    · cases (hj k hgt).symm.trans hf
  exact ⟨rfl, Option.some.inj (he.symm.trans hf)⟩

/-- Every write within the address space is exact, whichever of its blocks fail. -/
theorem commDevWrite_exact (offset : BitVec 16) (data : List Byte) (d : FailingDev)
    (h : offset.toNat + data.length ≤ 65536) : WritesExactly offset data d := by
  have hlen : data.length ≤ 2 ^ 16 := by omega
  obtain ⟨hok, hfault⟩ := out_commDevWrite_failing offset d hlen
  rw [← out_commDevWriteAt] at hok
  simp only [← out_commDevWriteAt] at hfault
  rcases succeed_or_fault d (blocks data.length) with hall | ⟨k, hk, hsucceed, e, hf⟩
  · refine ⟨_, _, hok hall, fun _ => ⟨rfl, ?_⟩, fun k hk e _ hf => nomatch (hall k hk).symm.trans hf⟩
    have hwritten := written_stored offset d.dev.regs (Nat.le_refl data.length) hlen
    rwa [List.take_length] at hwritten
  · refine ⟨_, _, hfault k hk e hsucceed hf, fun hall => (nomatch (hall k hk).symm.trans hf), ?_⟩
    intro j hj f hsucceed' hf'
    obtain ⟨rfl, rfl⟩ := fault_unique hsucceed hsucceed' hf hf'
    exact ⟨rfl, written_stored offset d.dev.regs (blocks_before hk) hlen⟩

/-- The second of two blocks fails. -/
theorem commDevWrite_exact_seventeen :
    WritesExactly 0x8504 (List.replicate 17 7)
      ⟨⟨fun _ => 0, 0⟩, fun n => if n = 1 then some .eio else none, 0⟩ :=
  commDevWrite_exact _ _ _ (by decide)

end OpxSdi.CommDev
