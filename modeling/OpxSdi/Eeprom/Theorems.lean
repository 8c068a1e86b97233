import OpxSdi.Eeprom.Read
import OpxSdi.Lib.Results

/-!
# What a read of an EEPROM returns

A read of a small EEPROM returns its bytes. One of a large EEPROM never leaves the first page.
-/

namespace OpxSdi.Eeprom

open Lib

/-! ## What a read should return -/

/-- An EEPROM of `size` bytes. It does not look at the bits of its pointer that are above its last cell. -/
def chip (size : BitVec 32) (contents : Nat → Byte) (ptr : Nat) : Slave where
  addrBytes := if size = 256 then 1 else 2
  ptr := ptr
  mem := fun a => contents (a % size.toNat)

def Holds (addr : I2c.I2cAddr) (size : BitVec 32) (contents : Nat → Byte) (slaves : Slaves) : Prop :=
  ∃ ptr, slaves addr = chip size contents ptr

/-- On every free bus that has an EEPROM with these contents, whatever fails: a read within the EEPROM
that returns gives the bytes at the requested offsets, and any other read ends with an error. -/
def ReadsWindow (size : BitVec 32) (contents : Nat → Byte) (offset len : BitVec 32) : Prop :=
  ∀ hdl : DeviceEntry, hdl.privateData.entitySize = size →
    ∀ d : Device Unit Errno Slaves, d.held () = false → Holds hdl.i2cAddr size contents d.hw →
      (offset.toNat + len.toNat ≤ size.toNat →
        ∀ data d', (sdiEepromRead (some hdl) false offset len).out d = (.ok data, d') →
          ∀ i < len.toNat, data[i]? = some (contents (offset.toNat + i))) ∧
      (size.toNat < offset.toNat + len.toNat →
        ∃ e d', (sdiEepromRead (some hdl) false offset len).out d = (.error (.error e), d'))

/-! ## Transactions -/

section Transactions

variable {held : Unit → Bool} {addr : I2c.I2cAddr} {size : BitVec 32} {contents : Nat → Byte}

theorem yields_withBus {α : Type} {P Q : Slaves → Prop} {x : M α} {n : Nat} {a : α} (hfree : held () = false)
    (hx : Device.Yields (Function.update held () true) P x n a Q) :
    Device.Yields held P (I2c.withBus bus x) (1 + n) a Q :=
  hx.locked hfree

/-- The memory whose pointer is at a cell of the first page. -/
def At (addr : I2c.I2cAddr) (size : BitVec 32) (contents : Nat → Byte) (cell : Byte) (slaves : Slaves) : Prop :=
  slaves addr = chip size contents cell.toNat

/-- As many bytes as an address has move the pointer. -/
theorem chip_write (bs : List Byte) (ptr : Nat) (hlen : bs.length = (chip size contents ptr).addrBytes)
    (hpos : 0 < bs.length) :
    (chip size contents ptr).write bs = chip size contents (Slave.beNat 0 bs % 256 ^ bs.length) := by
  have h := Slave.write_addr (chip size contents ptr) [] hlen (hlen ▸ hpos)
  rw [List.append_nil, List.foldl_nil, Slave.size, ← hlen] at h
  exact h

theorem chip_write_addr (hsize : size ≠ 256) (ptr : Nat) (lo : Byte) :
    (chip size contents ptr).write [0, lo] = chip size contents lo.toNat := by
  rw [chip_write [0, lo] ptr (if_neg hsize).symm Nat.two_pos]
  have haddr : Slave.beNat 0 [0, lo] % 256 ^ 2 = lo.toNat := by
    have hzero : (0 : Byte).toNat = 0 := rfl
    simp only [Slave.beNat, List.foldl_cons, List.foldl_nil, hzero]
    omega
  exact congrArg (chip size contents) haddr

theorem chip_write_cmd (hsize : size = 256) (ptr : Nat) (cmd : Byte) :
    (chip size contents ptr).write [cmd] = chip size contents cmd.toNat := by
  rw [chip_write [cmd] ptr (if_pos hsize).symm Nat.one_pos]
  have haddr : Slave.beNat 0 [cmd] % 256 ^ 1 = cmd.toNat := by
    simp only [Slave.beNat, List.foldl_cons, List.foldl_nil]
    omega
  exact congrArg (chip size contents) haddr

/-- What was meant as the low byte of an offset puts the pointer in the first page. -/
theorem yields_writeByte (hfree : held () = false) (hsize : size ≠ 256) (lo : Byte) (flags : BitVec 32) :
    Device.Yields held (Holds addr size contents) (I2c.smbusWriteByte bus addr 0 lo flags) 2 ()
      (At addr size contents lo) := by
  have hwrite : Device.Yields (Function.update held () true) (Holds addr size contents)
      (bus.smbusExecute addr .write .byteData 0 (lo.setWidth 16) flags) 1 (lo.setWidth 16)
      (At addr size contents lo) := by
    refine .access fun slaves hholds => ⟨rfl, ?_⟩
    obtain ⟨ptr, hptr⟩ := hholds
    change Function.update slaves addr _ addr = _
    rw [Function.update_self, hptr, show I2c.lowByte (lo.setWidth 16) = lo by simp [I2c.lowByte]]
    exact chip_write_addr hsize ptr lo
  exact (yields_withBus hfree hwrite).bind (f := fun _ => pure ()) (.pure ())

theorem yields_recvByte (hfree : held () = false) (cell : Byte) (flags : BitVec 32) :
    Device.Yields held (At addr size contents cell) (I2c.smbusRecvByte bus addr flags) 2
      (contents (cell.toNat % size.toNat)) (Holds addr size contents) := by
  have hread : Device.Yields (Function.update held () true) (At addr size contents cell)
      (bus.smbusExecute addr .read .byte I2c.smbusOffsetNonCmd 0 flags) 1
      ((contents (cell.toNat % size.toNat)).setWidth 16) (Holds addr size contents) := by
    refine .access fun slaves hat => ?_
    change (slaves addr).load.1.setWidth 16 = _ ∧ Holds _ _ _ (Function.update slaves addr (slaves addr).load.2)
    rw [hat]
    exact ⟨rfl, _, Function.update_self ..⟩
  have hbyte : ((contents (cell.toNat % size.toNat)).setWidth 16).setWidth 8 = contents (cell.toNat % size.toNat) :=
    BitVec.setWidth_setWidth_of_le _ (by decide)
  have h := (yields_withBus hfree hread).bind (f := fun buffer => pure (buffer.setWidth 8)) (.pure _)
  rwa [hbyte] at h

/-- The byte at `cmd`, whose upper bits do not reach the wire. -/
theorem yields_readByteData {held : Unit → Bool} (hsize : size = 256) (cmd flags : BitVec 32) :
    Device.Yields held (Holds addr size contents) (bus.smbusExecute addr .read .byteData cmd 0 flags) 1
      ((contents (cmd.toNat % 256)).setWidth 16) (Holds addr size contents) := by
  refine .access fun slaves hholds => ?_
  obtain ⟨ptr, hptr⟩ := hholds
  change ((slaves addr).write [cmd.setWidth 8]).load.1.setWidth 16 = _ ∧
    Holds _ _ _ (Function.update slaves addr ((slaves addr).write [cmd.setWidth 8]).load.2)
  rw [hptr, chip_write_cmd hsize]
  refine ⟨?_, _, Function.update_self ..⟩
  simp [chip, Slave.load, hsize]

end Transactions

/-! ## Loops -/

/-- The bytes at `n` offsets from `k` on, each taken modulo the size of the first page. -/
def pageBytes (contents : Nat → Byte) (k n : Nat) : List Byte :=
  (List.range n).map fun i => contents ((k + i) % 256)

theorem pageBytes_succ (contents : Nat → Byte) (k n : Nat) :
    pageBytes contents k (n + 1) = contents (k % 256) :: pageBytes contents (k + 1) n := by
  rw [pageBytes, List.range_succ_eq_map, List.map_cons, List.map_map, pageBytes]
  refine congrArg (contents (k % 256) :: ·) (List.map_congr_left fun i _ => ?_)
  exact congrArg (fun a => contents (a % 256)) (Nat.add_right_comm k i 1)

theorem getElem?_pageBytes {contents : Nat → Byte} {k n i : Nat} (hi : i < n) :
    (pageBytes contents k n)[i]? = some (contents ((k + i) % 256)) := by
  rw [pageBytes, List.getElem?_map, List.getElem?_range hi]
  rfl

section Loops

variable {held : Unit → Bool} {addr : I2c.I2cAddr} {size : BitVec 32} {contents : Nat → Byte}

theorem toNat_add_one_mod {x : BitVec 32} {k : Nat} (h : x.toNat % 256 = k % 256) :
    (x + 1).toNat % 256 = (k + 1) % 256 := by
  rw [BitVec.toNat_add]
  have hone : (1 : BitVec 32).toNat = 1 := rfl
  omega

theorem low_mask (x : BitVec 32) : (x &&& 0xff).setWidth 8 = x.setWidth 8 := by
  rw [BitVec.setWidth_and]
  exact BitVec.and_allOnes

theorem yields_readFrom (hfree : held () = false) (hsize : size = 8192) (offset : BitVec 32) (n : Nat)
    (counter : BitVec 32) (k : Nat) (hk : (offset + counter).toNat % 256 = k % 256) :
    Device.Yields held (Holds addr size contents) (readFrom addr offset n counter) (4 * n)
      (pageBytes contents k n) (Holds addr size contents) := by
  induction n generalizing counter k with
  | zero => exact .pure []
  | succ n ih =>
      have hcell : (((offset + counter) &&& 0xff).setWidth 8).toNat % size.toNat = k % 256 := by
        rw [low_mask, BitVec.toNat_setWidth, hsize, ← hk]
        exact Nat.mod_eq_of_lt (Nat.lt_trans (Nat.mod_lt _ (by decide)) (by decide : 256 < 8192))
      have hrest := ih (counter + 1) (k + 1) (by rw [← BitVec.add_assoc]; exact toNat_add_one_mod hk)
      have hne : size ≠ 256 := by rw [hsize]; decide
      have hstep : Device.Yields held (Holds addr size contents) (readFrom addr offset (n + 1) counter)
          (2 + (2 + (4 * n + 0))) (contents (k % 256) :: pageBytes contents (k + 1) n)
          (Holds addr size contents) := by
        refine (yields_writeByte hfree hne _ i2cFlagNone).bind
          ((yields_recvByte hfree _ i2cFlagNone).bind (hrest.bind ?_))
        rw [hcell]
        exact .pure _
      rw [pageBytes_succ]
      exact hstep.of_eq (by omega)

theorem yields_smbusReadBytes {held : Unit → Bool} (hsize : size = 256) (flags : BitVec 32) (n : Nat)
    (cmd : BitVec 32) (k : Nat) (hk : cmd.toNat % 256 = k % 256) :
    Device.Yields held (Holds addr size contents) (I2c.smbusReadBytes bus addr flags n cmd) n
      (pageBytes contents k n) (Holds addr size contents) := by
  induction n generalizing cmd k with
  | zero => exact .pure []
  | succ n ih =>
      have hrest := ih (cmd + 1) (k + 1) (toNat_add_one_mod hk)
      have hbyte : ((contents (k % 256)).setWidth 16).setWidth 8 = contents (k % 256) :=
        BitVec.setWidth_setWidth_of_le _ (by decide)
      have hstep : Device.Yields held (Holds addr size contents) (I2c.smbusReadBytes bus addr flags (n + 1) cmd)
          (1 + (n + 0)) (contents (k % 256) :: pageBytes contents (k + 1) n) (Holds addr size contents) := by
        refine (yields_readByteData hsize cmd flags).bind (hrest.bind ?_)
        rw [hk, hbyte]
        exact .pure _
      rw [pageBytes_succ]
      exact hstep.of_eq (by omega)

end Loops

/-! ## The read -/

section Read

variable {size : BitVec 32} {contents : Nat → Byte} {hdl : DeviceEntry} {offset len : BitVec 32}

/-- A read beyond the last cell reaches no chip. -/
theorem read_beyond (hentity : hdl.privateData.entitySize = size) (hoffset : size.toNat ≤ offset.toNat)
    (d : Device Unit Errno Slaves) :
    (sdiEepromRead (some hdl) false offset len).out d = (.error (.error .einval), d) := by
  have hge : offset ≥ hdl.privateData.entitySize := hentity ▸ hoffset
  simp only [sdiEepromRead, hge, ↓reduceIte]
  rfl

/-- A read that starts within the EEPROM gives the bytes of the first page, whatever its length. -/
theorem yields_read {held : Unit → Bool} (hfree : held () = false) (hsize : size = 256 ∨ size = 8192)
    (hentity : hdl.privateData.entitySize = size) (hoffset : offset.toNat < size.toNat) :
    ∃ n, Device.Yields held (Holds hdl.i2cAddr size contents) (sdiEepromRead (some hdl) false offset len) n
      (pageBytes contents offset.toNat len.toNat) (Holds hdl.i2cAddr size contents) := by
  have hlt : ¬offset ≥ size := Nat.not_le.mpr hoffset
  simp only [sdiEepromRead, hentity]
  rw [if_neg hlt]
  rcases hsize with rfl | rfl
  · rw [if_neg (by decide), if_pos rfl]
    exact ⟨_, yields_withBus hfree (yields_smbusReadBytes rfl i2cFlagNone len.toNat offset offset.toNat rfl)⟩
  · rw [if_pos rfl]
    refine ⟨_, yields_readFrom hfree rfl offset len.toNat 0 offset.toNat ?_⟩
    rw [show offset + 0 = offset from BitVec.add_zero offset]

/-- A read returns the window that was asked for iff it starts beyond the last cell, or all of it lies within
the EEPROM and each of its bytes is also at the same place of the first page. -/
theorem readsWindow_iff (hsize : size = 256 ∨ size = 8192) : ReadsWindow size contents offset len ↔
    size.toNat ≤ offset.toNat ∨ (offset.toNat + len.toNat ≤ size.toNat ∧
      ∀ i < len.toNat, contents ((offset.toNat + i) % 256) = contents (offset.toNat + i)) := by
  constructor
  · intro h
    refine or_iff_not_imp_left.mpr fun hoffset => ?_
    let hdl : DeviceEntry := ⟨⟨0, false⟩, size, 0, 0⟩
    let d : Device Unit Errno Slaves := ⟨fun _ => false, fun _ => none, 0, fun _ => chip size contents 0⟩
    have hholds : Holds hdl.i2cAddr size contents d.hw := ⟨0, rfl⟩
    obtain ⟨n, hread⟩ := @yields_read size contents hdl offset len d.held rfl hsize rfl (Nat.not_le.mp hoffset)
    obtain ⟨d', hok⟩ := hread.ok_of_quiet rfl hholds fun _ _ => rfl
    obtain ⟨hin, hout⟩ := h hdl rfl d rfl hholds
    have hrange : offset.toNat + len.toNat ≤ size.toNat := by
      by_contra hlong
      obtain ⟨e, d'', herr⟩ := hout (Nat.not_le.mp hlong)
      cases hok.symm.trans herr
    refine ⟨hrange, fun i hi => ?_⟩
    have hbyte := hin hrange _ d' hok i hi
    rw [getElem?_pageBytes hi] at hbyte
    exact Option.some.inj hbyte
  · intro hcond hdl hentity d hfree hholds
    rcases Nat.lt_or_ge offset.toNat size.toNat with hoffset | hoffset
    · obtain ⟨hrange, hpage⟩ := hcond.resolve_left (Nat.not_le.mpr hoffset)
      refine ⟨fun _ data d' hok i hi => ?_, fun hlong => absurd hlong (Nat.not_lt.mpr hrange)⟩
      obtain ⟨n, hread⟩ := @yields_read size contents hdl offset len d.held hfree hsize hentity hoffset
      rw [hread.eq_of_ok rfl hholds hok, getElem?_pageBytes hi, hpage i hi]
    · exact ⟨fun hrange data d' hok i hi => by omega, fun _ => ⟨_, d, read_beyond hentity hoffset d⟩⟩

/-- The window from the first byte to the last one of an EEPROM of 256 bytes. -/
theorem readsWindow_smallChip : ReadsWindow 256 (BitVec.ofNat 8) 0 256 :=
  (readsWindow_iff (.inl rfl)).mpr (.inr ⟨Nat.le_refl _, fun i hi => by
    rw [Nat.mod_eq_of_lt (by simpa using hi)]⟩)

/-- The first byte of the second page of an EEPROM of 64K bits. -/
theorem not_readsWindow_secondPage : ¬ReadsWindow 8192 (fun a => BitVec.ofNat 8 (a / 256)) 256 1 := by
  intro h
  let hdl : DeviceEntry := ⟨⟨0x50, false⟩, 8192, 0, 0⟩
  let d : Device Unit Errno Slaves :=
    ⟨fun _ => false, fun _ => none, 0, fun _ => chip 8192 (fun a => BitVec.ofNat 8 (a / 256)) 0⟩
  have hholds : Holds hdl.i2cAddr 8192 (fun a => BitVec.ofNat 8 (a / 256)) d.hw := ⟨0, rfl⟩
  obtain ⟨n, hread⟩ := @yields_read 8192 (fun a => BitVec.ofNat 8 (a / 256)) hdl 256 1 d.held rfl (.inr rfl) rfl
    (by decide)
  have hfirst : 0 < (1 : BitVec 32).toNat := by decide
  obtain ⟨d', hok⟩ := hread.ok_of_quiet rfl hholds fun _ _ => rfl
  have hbyte := (h hdl rfl d rfl hholds).1 (by decide) _ d' hok 0 hfirst
  rw [getElem?_pageBytes hfirst] at hbyte
  exact absurd (Option.some.inj hbyte) (by decide)

end Read

end OpxSdi.Eeprom
