import OpxSdi.I2c.Lemmas.Wire

/-!
# Theorems about the I2C bus API

Which requests the kernel bus driver delivers.
-/

namespace OpxSdi.I2c

open Lib I2cDev

variable {address : I2cAddr} {buflen flags : BitVec 32} {s : Slave}

/-! ## Offsets -/

theorem addrBytes_pos (address : I2cAddr) : 0 < address.addrBytes := by
  unfold I2cAddr.addrBytes
  split <;> decide

theorem length_offsetBytes (cmd : BitVec 32) : (offsetBytes address cmd).length = address.addrBytes := by
  unfold offsetBytes I2cAddr.addrBytes
  split <;> rfl

theorem beNat_offsetBytes {cmd : BitVec 32} (h : cmd.toNat < 256 ^ address.addrBytes) :
    Slave.beNat 0 (offsetBytes address cmd) = cmd.toNat := by
  unfold offsetBytes
  unfold I2cAddr.addrBytes at h
  split
  · rename_i h16
    simp only [h16, ↓reduceIte] at h
    simp only [Slave.beNat, List.foldl_cons, List.foldl_nil, BitVec.toNat_setWidth, BitVec.toNat_ushiftRight,
      Nat.shiftRight_eq_div_pow]
    omega
  · rename_i h16
    simp only [h16, Bool.false_eq_true, ↓reduceIte] at h
    simp only [Slave.beNat, List.foldl_cons, List.foldl_nil, BitVec.toNat_setWidth]
    omega

theorem beNat_pair (b c : Byte) : Slave.beNat 0 [b, c] = offset16 b c := by
  simp [Slave.beNat, offset16]

theorem offset16_lt (b c : Byte) : offset16 b c < 256 ^ 2 := by
  have hb := b.isLt
  have hc := c.isLt
  unfold offset16
  omega

theorem write_offset {cmd : BitVec 32} (h : cmd.toNat < 256 ^ address.addrBytes)
    (hs : s.addrBytes = address.addrBytes) (data : List Byte) :
    s.write (offsetBytes address cmd ++ data) = data.foldl Slave.store (s.seek cmd.toNat) := by
  rw [Slave.write_addr s data ((length_offsetBytes cmd).trans hs.symm) (hs ▸ addrBytes_pos address),
    beNat_offsetBytes h, Slave.size, hs, Nat.mod_eq_of_lt h]

theorem write_pair (b c : Byte) (hs : s.addrBytes = 2) (data : List Byte) :
    s.write ([b, c] ++ data) = data.foldl Slave.store (s.seek (offset16 b c)) := by
  have hlength : [b, c].length = s.addrBytes := hs.symm
  rw [Slave.write_addr s data hlength (hs ▸ Nat.zero_lt_two), beNat_pair, Slave.size, hs,
    Nat.mod_eq_of_lt (offset16_lt b c)]

/-! ## Requests that are carried out -/

theorem not_ne_self (b : Byte) : ~~~b ≠ b := by
  intro h
  have hbit := congrArg (BitVec.getLsbD · 0) h
  simp at hbit

theorem lowByte_append (hi lo : Byte) : lowByte (hi ++ lo) = lo := by
  ext i h
  have hbit : (hi ++ lo : BitVec (8 + 8)).getLsbD i = lo[i] := by
    rw [BitVec.getLsbD_append, if_pos h, BitVec.getLsbD_eq_getElem h]
  simpa [lowByte] using hbit

namespace Request

/-- What the driver does to a slave is what the request means, for every slave. -/
def Carried (address : I2cAddr) (r : Request) : Prop :=
  ∀ s, r.Fits address s → r.Transfers s (r.effect address s).1 (r.effect address s).2

theorem carried_smbusSendByte_iff (buffer : Byte) :
    Carried address (smbusSendByte buffer) ↔ buffer = smbusOffsetNonCmd.setWidth 8 := by
  constructor
  · intro h
    have hptr := congrArg Slave.ptr (h ⟨address.addrBytes, 0, fun _ => 0⟩ rfl)
    have hlt : buffer.toNat < 256 ^ address.addrBytes :=
      Nat.lt_of_lt_of_le buffer.isLt (Nat.le_self_pow (addrBytes_pos address).ne' 256)
    obtain ⟨n, hn⟩ := Nat.exists_eq_succ_of_ne_zero (addrBytes_pos address).ne'
    simp only [effect, Slave.write, hn, List.take_succ_cons, List.take_nil, List.drop_succ_cons,
      List.drop_nil, List.foldl_cons, List.foldl_nil, Slave.latch, Slave.size, Nat.zero_mul, Nat.zero_add]
      at hptr
    rw [hn] at hlt
    rw [Nat.mod_eq_of_lt hlt] at hptr
    exact BitVec.eq_of_toNat_eq (hptr.symm.trans (Nat.zero_mod _))
  · rintro rfl s -
    rfl

theorem carried_smbusWriteByte {cmd : BitVec 32} (buffer : Byte) (h : cmd.toNat < 256 ^ address.addrBytes) :
    Carried address (smbusWriteByte cmd buffer) := by
  intro s hs
  simp only [Transfers, effect, write_offset h hs, List.foldl_cons, List.foldl_nil]
  rfl

theorem carried_smbusReadByte {cmd : BitVec 32} (h : cmd.toNat < 256 ^ address.addrBytes) :
    Carried address (smbusReadByte cmd) := by
  intro s hs
  have hwrite := write_offset h hs []
  rw [List.append_nil, List.foldl_nil] at hwrite
  simp only [Transfers, effect, hwrite]
  exact ⟨rfl, rfl⟩

theorem write_offset8 {cmd : BitVec 32} (h8 : address.addrMode16bit = false)
    (h : cmd.toNat < 256 ^ address.addrBytes) (hs : s.addrBytes = address.addrBytes) (data : List Byte) :
    s.write (cmd.setWidth 8 :: data) = data.foldl Slave.store (s.seek cmd.toNat) := by
  rw [← write_offset h hs data, offsetBytes, h8]
  rfl

/-- The first byte of a word is taken as the second byte of a 16-bit offset. -/
theorem write_offset16 (h16 : address.addrMode16bit = true) (hs : s.addrBytes = address.addrBytes)
    (b c : Byte) (data : List Byte) :
    s.write (b :: c :: data) = data.foldl Slave.store (s.seek (offset16 b c)) :=
  write_pair b c (by rw [hs, I2cAddr.addrBytes, h16]; rfl) data

theorem size_of_16bit (h16 : address.addrMode16bit = true) (hs : s.addrBytes = address.addrBytes) :
    s.size = 65536 := by
  rw [Slave.size, hs, I2cAddr.addrBytes, h16]
  rfl

theorem carried_smbusWriteWord_iff {cmd : BitVec 32} (buffer : BitVec 16)
    (h : cmd.toNat < 256 ^ address.addrBytes) :
    Carried address (smbusWriteWord cmd buffer) ↔ address.addrMode16bit = false := by
  constructor
  · intro hcarried
    by_contra h16
    rw [Bool.not_eq_false] at h16
    -- The cell that gets the high byte cannot be both cells of the word.
    let s : Slave := ⟨address.addrBytes, 0, fun a => if a = cmd.toNat then ~~~lowByte buffer else ~~~highByte buffer⟩
    have hmem := hcarried s rfl
    have hsize : s.size = 65536 := size_of_16bit h16 rfl
    simp only [Transfers, effect, write_offset16 h16 (rfl : s.addrBytes = _), List.foldl_cons, List.foldl_nil,
      Slave.store, Slave.seek_mem, Slave.seek_ptr, hsize] at hmem
    have hnext : (cmd.toNat + 1) % 65536 ≠ cmd.toNat := by omega
    have hlow := congrFun hmem cmd.toNat
    have hhigh := congrFun hmem ((cmd.toNat + 1) % 65536)
    rw [Function.update_self] at hhigh
    rw [Function.update_of_ne hnext.symm, Function.update_self] at hlow
    by_cases hcell : (cmd.toNat + 1) % 65536 = offset16 (cmd.setWidth 8) (lowByte buffer)
    · rw [Function.update_of_ne (hcell ▸ hnext.symm)] at hlow
      exact not_ne_self _ ((if_pos rfl).symm.trans hlow)
    · rw [Function.update_of_ne hcell] at hhigh
      exact not_ne_self _ ((if_neg hnext).symm.trans hhigh)
  · intro h8 s hs
    simp only [Transfers, effect, write_offset8 h8 h hs, List.foldl_cons, List.foldl_nil]
    rfl

theorem carried_smbusReadWord_iff {cmd : BitVec 32} (h : cmd.toNat < 256 ^ address.addrBytes) :
    Carried address (smbusReadWord cmd) ↔ address.addrMode16bit = false := by
  constructor
  · intro hcarried
    by_contra h16
    rw [Bool.not_eq_false] at h16
    let s : Slave := ⟨address.addrBytes, cmd.toNat / 256 + 1, fun a => if a = cmd.toNat then 1 else 0⟩
    have hresponse := (hcarried s rfl).2
    have hsize : s.size = 65536 := size_of_16bit h16 rfl
    have haddr : address.addrBytes = 2 := by rw [I2cAddr.addrBytes, h16]; rfl
    have hbyte : (cmd.setWidth 8).toNat = cmd.toNat % 256 := BitVec.toNat_setWidth ..
    have hcell : (s.write [cmd.setWidth 8]).ptr ≠ cmd.toNat := by
      simp only [Slave.write, s, haddr, List.take_succ_cons, List.take_nil, List.drop_succ_cons, List.drop_nil,
        List.foldl_cons, List.foldl_nil, Slave.latch, Slave.size, hbyte]
      omega
    have hmem : (s.write [cmd.setWidth 8]).mem = s.mem := Slave.write_short s (by simp [s, haddr])
    have hlow := congrArg lowByte (Response.word.inj hresponse)
    simp only [smbusTransfer, lowByte_append, Slave.load, hmem] at hlow
    rw [show s.mem (s.write [cmd.setWidth 8]).ptr = 0 from if_neg hcell,
      show s.mem cmd.toNat = 1 from if_pos rfl] at hlow
    cases hlow
  · intro h8 s hs
    simp only [Transfers, effect, smbusTransfer, write_offset8 h8 h hs, List.foldl_nil]
    exact ⟨rfl, rfl⟩

theorem offset16_eq_iff (b c c' : Byte) : offset16 b c = offset16 b c' ↔ c = c' := by
  rw [offset16, offset16, Nat.add_left_cancel_iff, BitVec.toNat_inj]

theorem mem_effect_i2cWrite (cmd0 cmd1 buffer : Byte) (hs : s.addrBytes = 2) :
    (effect address (i2cWrite cmd0 cmd1 buffer) s).2.mem =
      Function.update s.mem (offset16 cmd0 cmd0) buffer :=
  congrArg Slave.mem (write_pair cmd0 cmd0 hs [buffer])

theorem effect_i2cRead (cmd0 cmd1 : Byte) (hs : s.addrBytes = 2) :
    effect address (i2cRead cmd0 cmd1) s =
      (.byte (s.mem (offset16 cmd0 cmd0)), (s.seek (offset16 cmd0 cmd0)).load.2) := by
  have hwrite : s.write [cmd0, cmd0] = s.seek (offset16 cmd0 cmd0) := write_pair cmd0 cmd0 hs []
  simp only [effect, hwrite]
  rfl

theorem carried_i2cWrite_iff (cmd0 cmd1 buffer : Byte) :
    Carried address (i2cWrite cmd0 cmd1 buffer) ↔ cmd0 = cmd1 := by
  constructor
  · intro hcarried
    by_contra hne
    let s : Slave := ⟨2, 0, fun _ => ~~~buffer⟩
    have hcell : offset16 cmd0 cmd1 ≠ offset16 cmd0 cmd0 := fun h => hne ((offset16_eq_iff ..).mp h).symm
    have hmem := (mem_effect_i2cWrite cmd0 cmd1 buffer (rfl : s.addrBytes = 2)).symm.trans (hcarried s rfl)
    have hbyte := congrFun hmem (offset16 cmd0 cmd1)
    rw [Function.update_self, Function.update_of_ne hcell] at hbyte
    exact not_ne_self _ hbyte
  · rintro rfl s hs
    exact mem_effect_i2cWrite cmd0 cmd0 buffer hs

theorem carried_i2cRead_iff (cmd0 cmd1 : Byte) : Carried address (i2cRead cmd0 cmd1) ↔ cmd0 = cmd1 := by
  constructor
  · intro hcarried
    by_contra hne
    let s : Slave := ⟨2, 0, fun a => if a = offset16 cmd0 cmd1 then 1 else 0⟩
    have hcell : offset16 cmd0 cmd0 ≠ offset16 cmd0 cmd1 := fun h => hne ((offset16_eq_iff ..).mp h)
    have hresponse := (hcarried s rfl).2
    rw [effect_i2cRead cmd0 cmd1 (rfl : s.addrBytes = 2)] at hresponse
    have hbyte := Response.byte.inj hresponse
    rw [show s.mem (offset16 cmd0 cmd0) = 0 from if_neg hcell,
      show s.mem (offset16 cmd0 cmd1) = 1 from if_pos rfl] at hbyte
    cases hbyte
  · rintro rfl s hs
    rw [effect_i2cRead cmd0 cmd0 hs]
    exact ⟨rfl, rfl⟩

theorem carried_iff (r : Request) (h : r.InRange address) : Carried address r ↔ r.Kept address := by
  cases r with
  | smbusSendByte buffer => exact carried_smbusSendByte_iff buffer
  | smbusWriteByte cmd buffer => exact iff_of_true (carried_smbusWriteByte buffer h) trivial
  | smbusReadByte cmd => exact iff_of_true (carried_smbusReadByte h) trivial
  | smbusWriteWord cmd buffer => exact carried_smbusWriteWord_iff buffer h
  | smbusReadWord cmd => exact carried_smbusReadWord_iff h
  | i2cWrite cmd0 cmd1 buffer => exact carried_i2cWrite_iff cmd0 cmd1 buffer
  | i2cRead cmd0 cmd1 => exact carried_i2cRead_iff cmd0 cmd1

/-- The driver delivers a request iff it is one of those it keeps. -/
theorem delivered_iff (r : Request) (h : r.InRange address) :
    r.Delivered address buflen flags ↔ r.Kept address :=
  (delivered_iff_effect r).trans (carried_iff r h)

theorem delivered_writeByte_0x1234 :
    Delivered ⟨0x50, true⟩ 1 i2cFlagPec (smbusWriteByte 0x1234 0xab) ↔
      Kept ⟨0x50, true⟩ (smbusWriteByte 0x1234 0xab) :=
  delivered_iff _ (show (0x1234 : BitVec 32).toNat < 256 ^ 2 by decide)

/-- A two-byte command never reaches its second byte. -/
theorem i2cWrite_not_delivered : ¬ Delivered ⟨0x50, true⟩ 1 0 (i2cWrite 0x12 0x34 0xab) := by
  rw [delivered_iff_effect]
  exact fun h => absurd ((carried_i2cWrite_iff 0x12 0x34 0xab).mp h) (by decide)

end Request

end OpxSdi.I2c
