import OpxSdi.I2c.I2cDev

/-!
# What the driver puts on the wire

On an adapter that does not fail, every transaction of the driver acts on the slave that has been set and
on no other.
-/

namespace OpxSdi.I2c

open Lib Device

/-! ## Bytes of words -/

theorem lowByte_setWidth (b : Byte) : lowByte (b.setWidth 16) = b := by
  ext i hi
  simp [lowByte]

theorem setWidth_setWidth_byte (b : Byte) : (b.setWidth 32).setWidth 8 = b := by
  ext i hi
  simp

theorem lowByte_word (lo hi : Byte) : lowByte (lo.setWidth 16 ||| hi.setWidth 16 <<< 8) = lo := by
  ext i h
  simp [lowByte]

theorem highByte_word (lo hi : Byte) : highByte (lo.setWidth 16 ||| hi.setWidth 16 <<< 8) = hi := by
  ext i h
  simp [highByte, show 8 + i < 16 by omega, show i < 16 by omega, BitVec.getLsbD_eq_getElem h]

theorem and_byteMask (cmd : BitVec 32) : cmd &&& 0xff = (cmd.setWidth 8).setWidth 32 := by
  apply BitVec.eq_of_toNat_eq
  have hmod : cmd.toNat % 2 ^ 8 < 2 ^ 32 := Nat.lt_of_le_of_lt (Nat.mod_le _ _) cmd.isLt
  rw [BitVec.toNat_and, BitVec.toNat_setWidth, BitVec.toNat_setWidth, Nat.mod_eq_of_lt hmod]
  exact Nat.and_two_pow_sub_one_eq_mod cmd.toNat 8

theorem setWidth_byte_word (b : Byte) : (b.setWidth 32).setWidth 16 = b.setWidth 16 :=
  BitVec.setWidth_setWidth_of_le b (by decide)

/-! ## Transactions on the slave that is set -/

namespace Adapter

def slave (a : Adapter) : Slave := a.slaves a.slaveAddr

def put (a : Adapter) (s : Slave) : Adapter := { a with slaves := Function.update a.slaves a.slaveAddr s }

@[simp] theorem slave_put (a : Adapter) (s : Slave) : (a.put s).slave = s := by
  simp [slave, put]

@[simp] theorem put_put (a : Adapter) (s s' : Slave) : (a.put s).put s' = a.put s' := by
  simp [put]

@[simp] theorem put_slave (a : Adapter) : a.put a.slave = a := by
  simp [slave, put]

end Adapter

namespace I2cDev

variable {α β : Type}

/-- `x` does `f` to the slave that is set and returns its value. -/
def Drives (x : M α) (f : Slave → α × Slave) : Prop :=
  ∀ held (a : Adapter), Gives x held a (f a.slave).1 held (a.put (f a.slave).2)

theorem Drives.pure (v : α) : Drives (Pure.pure v) fun s => (v, s) := by
  intro held a
  rw [Adapter.put_slave]
  exact .pure v

theorem Drives.bind {x : M α} {k : α → M β} {f : Slave → α × Slave} {g : α → Slave → β × Slave}
    (hx : Drives x f) (hk : ∀ v, Drives (k v) (g v)) :
    Drives (x >>= k) fun s => g (f s).1 (f s).2 := by
  intro held a
  have h := hk (f a.slave).1 held (a.put (f a.slave).2)
  rw [Adapter.slave_put, Adapter.put_put] at h
  exact (hx held a).bind h

theorem Gives.retry {x : M α} {held held' : Unit → Bool} {a a' : Adapter} {v : α}
    (hx : Gives x held a v held' a') (left : Nat) : Gives (retry x left) held a v held' a' := by
  cases left with
  | zero => exact hx
  | succ left => exact hx.attempt.bind (.pure v)

theorem drives_sysSmbusExecute (operation : SmbusOperation) (size : I2cSmbusSize) (commandbuf : BitVec 32)
    (data : BitVec 16) :
    Drives (sysSmbusExecute operation size commandbuf data)
      (smbusTransfer operation (commandbuf.setWidth 8) size data) :=
  fun _ _ => Gives.retry (.access _) _

/-! ## The transactions of the driver -/

/-- The bytes of an offset as the slave takes them. -/
def offsetBytes (address : I2cAddr) (cmd : BitVec 32) : List Byte :=
  if address.addrMode16bit then [(cmd >>> 8).setWidth 8, cmd.setWidth 8] else [cmd.setWidth 8]

/-- What a transaction of the driver does to its slave. -/
def transactionOn (address : I2cAddr) (operation : SmbusOperation) (dataType : SmbusDataType)
    (cmd : BitVec 32) (buffer : BitVec 16) : Slave → BitVec 16 × Slave :=
  match dataType, operation with
  | .byte, .write => fun s => (buffer, s.write [cmd.setWidth 8])
  | .byte, .read => fun s => (s.load.1.setWidth 16, s.load.2)
  | .byteData, .write => fun s => (buffer, s.write (offsetBytes address cmd ++ [lowByte buffer]))
  | .byteData, .read => fun s =>
      ((s.write (offsetBytes address cmd)).load.1.setWidth 16, (s.write (offsetBytes address cmd)).load.2)
  | .wordData, .write => fun s => (buffer, s.write [cmd.setWidth 8, lowByte buffer, highByte buffer])
  | .wordData, .read => smbusTransfer .read (cmd.setWidth 8) .wordData 0

theorem Drives.map {x : M α} {f : Slave → α × Slave} (k : α → β) (hx : Drives x f) :
    Drives (do let v ← x; Pure.pure (k v)) fun s => (k (f s).1, (f s).2) :=
  hx.bind fun v => .pure (k v)

theorem drives_smbusRecvByte (size : I2cSmbusSize) (hsize : size = .byte) :
    Drives (smbusRecvByte .read size) Slave.load := by
  subst hsize
  have h := (drives_sysSmbusExecute .read .byte smbusRecvByteCmdOffset 0).map lowByte
  simp only [smbusTransfer, lowByte_setWidth] at h
  exact h

theorem drives_smbusWriteByte (size : I2cSmbusSize) (cmd : BitVec 32) (buffer : Byte) (hsize : size = .byteData) :
    Drives (smbusWriteByte .write size cmd buffer) fun s => ((), s.write [cmd.setWidth 8, buffer]) := by
  subst hsize
  have h := (drives_sysSmbusExecute .write .byteData cmd (buffer.setWidth 16)).map fun _ => ()
  simp only [smbusTransfer, lowByte_setWidth] at h
  exact h

theorem drives_byteDataWrite (address : I2cAddr) (cmd : BitVec 32) (buffer : BitVec 16) :
    Drives (smbusTransaction address .write .byteData cmd buffer)
      (transactionOn address .write .byteData cmd buffer) := by
  simp only [smbusTransaction, transactionOn, offsetBytes, and_byteMask, setWidth_byte_word]
  cases address.addrMode16bit with
  | true =>
      simp only [Bool.true_eq_false, ↓reduceIte]
      rw [BitVec.or_comm]
      have h := ((drives_sysSmbusExecute .write .wordData (((cmd >>> 8).setWidth 8).setWidth 32)
        ((cmd.setWidth 8).setWidth 16 ||| (lowByte buffer).setWidth 16 <<< 8)).map fun _ => ()).map
          fun _ => buffer
      simp only [smbusTransfer, setWidth_setWidth_byte, lowByte_word, highByte_word] at h
      exact h
  | false =>
      simp only [Bool.false_eq_true, ↓reduceIte]
      exact (drives_smbusWriteByte _ cmd _ rfl).map fun _ => buffer

theorem drives_byteDataRead (address : I2cAddr) (cmd : BitVec 32) (buffer : BitVec 16) :
    Drives (smbusTransaction address .read .byteData cmd buffer)
      (transactionOn address .read .byteData cmd buffer) := by
  simp only [smbusTransaction, transactionOn, offsetBytes, and_byteMask, setWidth_setWidth_byte]
  cases address.addrMode16bit with
  | true =>
      simp only [Bool.true_eq_false, ↓reduceIte]
      have hwrite := drives_smbusWriteByte .byteData (((cmd >>> 8).setWidth 8).setWidth 32) (cmd.setWidth 8) rfl
      rw [setWidth_setWidth_byte] at hwrite
      exact hwrite.bind fun _ => (drives_smbusRecvByte .byte rfl).map fun b => b.setWidth 16
  | false =>
      simp only [Bool.false_eq_true, ↓reduceIte]
      have h := ((drives_sysSmbusExecute .read .byteData cmd 0).map lowByte).map fun b => b.setWidth 16
      simp only [smbusTransfer, lowByte_setWidth] at h
      exact h

theorem drives_smbusTransaction (address : I2cAddr) (operation : SmbusOperation)
    (dataType : SmbusDataType) (cmd : BitVec 32) (buffer : BitVec 16) :
    Drives (smbusTransaction address operation dataType cmd buffer)
      (transactionOn address operation dataType cmd buffer) := by
  cases dataType with
  | byte =>
      cases operation with
      | write => exact ((drives_sysSmbusExecute _ _ _ _).map fun _ => ()).map fun _ => buffer
      | read => exact (drives_smbusRecvByte _ rfl).map _
  | byteData =>
      cases operation with
      | write => exact drives_byteDataWrite address cmd buffer
      | read => exact drives_byteDataRead address cmd buffer
  | wordData =>
      cases operation with
      | write => exact ((drives_sysSmbusExecute _ _ _ _).map fun _ => ()).map fun _ => buffer
      | read => exact drives_sysSmbusExecute _ _ _ _

theorem drives_i2cWrite (cmd0 cmd1 buf : Byte) :
    Drives (i2cWrite [cmd0, cmd1] buf) fun s => ((), s.write [cmd0, cmd0, buf]) := by
  have h := (drives_sysSmbusExecute .write .wordData (cmd0.setWidth 32)
    (cmd0.setWidth 16 ||| buf.setWidth 16 <<< 8)).map fun _ => ()
  simp only [smbusTransfer, setWidth_setWidth_byte, lowByte_word, highByte_word] at h
  exact h

theorem drives_i2cRead (cmd0 cmd1 : Byte) :
    Drives (i2cRead [cmd0, cmd1]) fun s => (s.write [cmd0, cmd0]).load := by
  have hwrite := drives_smbusWriteByte .byteData (cmd0.setWidth 32) cmd0 rfl
  have hread := (drives_sysSmbusExecute .read .byte smbus16bitCmdDefOffset 0).map lowByte
  simp only [smbusTransfer, setWidth_setWidth_byte, lowByte_setWidth] at hwrite hread
  exact hwrite.bind fun _ => hread

/-! ## Calls of the bus API -/

/-- A call on the free bus acts on the slave with this address alone, and gives the bus back. -/
def Serves (x : M α) (i2cAddr : BitVec 16) (f : Slave → α × Slave) : Prop :=
  ∀ a : Adapter, ∃ a' : Adapter,
    Gives x (fun _ => false) a (f (a.slaves i2cAddr)).1 (fun _ => false) a' ∧
      a'.slaves = Function.update a.slaves i2cAddr (f (a.slaves i2cAddr)).2

theorem Serves.map {x : M α} {i2cAddr : BitVec 16} {f : Slave → α × Slave} (k : α → β)
    (hx : Serves x i2cAddr f) : Serves (do let v ← x; Pure.pure (k v)) i2cAddr fun s => (k (f s).1, (f s).2) := by
  intro a
  obtain ⟨a', hgives, hslaves⟩ := hx a
  exact ⟨a', hgives.bind (.pure _), hslaves⟩

theorem gives_withBus {x : M α} {a a' : Adapter} {v : α} (hx : Gives x (fun _ => true) a v (fun _ => true) a') :
    Gives (withBus busOps x) (fun _ => false) a v (fun _ => false) a' := by
  have hlock : Function.update (fun _ : Unit => false) () true = fun _ => true := by
    funext l
    simp
  have hunlock : Function.update (fun _ : Unit => true) () false = fun _ => false := by
    funext l
    simp
  have htake : Gives busOps.acquireBus (fun _ => false) a () (fun _ => true) a := hlock ▸ .lock rfl
  have hgive : Gives busOps.releaseBus (fun _ => true) a' () (fun _ => false) a' := hunlock ▸ .unlock ()
  exact htake.bind (hx.attempt.bind (hgive.bind (.pure v)))

theorem serves_smbusExecute (address : I2cAddr) (operation : SmbusOperation) (dataType : SmbusDataType)
    (cmd : BitVec 32) (buffer : BitVec 16) (flags : BitVec 32) :
    Serves (withBus busOps (busOps.smbusExecute address operation dataType cmd buffer flags))
      address.i2cAddr (transactionOn address operation dataType cmd buffer) := by
  intro a
  let set : Adapter := { a with slaveAddr := address.i2cAddr }
  let s := (transactionOn address operation dataType cmd buffer set.slave).2
  have hset : Gives (access (Adapter.ioctlSlave address.i2cAddr) : M Unit) (fun _ => true) a ()
      (fun _ => true) set := .access _
  have hrun := drives_smbusTransaction address operation dataType cmd buffer fun _ => true
  by_cases hpec : flags = i2cFlagPec
  · refine ⟨{ set.put s with pec := false }, gives_withBus ?_, rfl⟩
    simp only [busOps, smbusExecute, hpec, ↓reduceIte]
    have hon : Gives (access (Adapter.ioctlPec true) : M Unit) (fun _ => true) set () (fun _ => true)
        { set with pec := true } := .access _
    have hoff : Gives (access (Adapter.ioctlPec false) : M Unit) (fun _ => true)
        (Adapter.put { set with pec := true } s) () (fun _ => true) { set.put s with pec := false } := .access _
    exact hset.bind (hon.bind ((hrun _).attempt.bind (hoff.bind (.pure _))))
  · refine ⟨set.put s, gives_withBus ?_, rfl⟩
    simp only [busOps, smbusExecute, hpec, ↓reduceIte]
    exact hset.bind ((hrun _).attempt.bind (.pure _))

theorem serves_i2cRead (address : I2cAddr) (cmd0 cmd1 : Byte) (buflen flags : BitVec 32) :
    Serves (I2c.i2cRead busOps address [cmd0, cmd1] buflen flags) address.i2cAddr
      fun s => (s.write [cmd0, cmd0]).load := by
  intro a
  let set : Adapter := { a with slaveAddr := address.i2cAddr }
  have hset : Gives (access (Adapter.ioctlSlave address.i2cAddr) : M Unit) (fun _ => true) a ()
      (fun _ => true) set := .access _
  exact ⟨set.put _, gives_withBus (hset.bind (drives_i2cRead cmd0 cmd1 _ _)), rfl⟩

theorem serves_i2cWrite (address : I2cAddr) (cmd0 cmd1 buffer : Byte) (buflen flags : BitVec 32) :
    Serves (I2c.i2cWrite busOps address [cmd0, cmd1] buffer buflen flags) address.i2cAddr
      fun s => ((), s.write [cmd0, cmd0, buffer]) := by
  refine Serves.map (f := fun s => (buffer, s.write [cmd0, cmd0, buffer])) (fun _ => ()) fun a => ?_
  let set : Adapter := { a with slaveAddr := address.i2cAddr }
  have hset : Gives (access (Adapter.ioctlSlave address.i2cAddr) : M Unit) (fun _ => true) a ()
      (fun _ => true) set := .access _
  exact ⟨set.put _, gives_withBus (hset.bind ((drives_i2cWrite cmd0 cmd1 buffer).map (fun _ => buffer) _ _)), rfl⟩

end I2cDev

/-! ## The effect of a request on its slave

A request is delivered iff what the driver does to a slave is what the request means, for every slave.
-/

open I2cDev

variable {address : I2cAddr} {buflen flags : BitVec 32}

namespace Request

def effect (address : I2cAddr) : Request → Slave → Response × Slave
  | smbusSendByte _ => fun s => (.done, s.write [smbusOffsetNonCmd.setWidth 8])
  | smbusWriteByte cmd buffer => fun s => (.done, s.write (offsetBytes address cmd ++ [buffer]))
  | smbusReadByte cmd => fun s =>
      (.byte (s.write (offsetBytes address cmd)).load.1, (s.write (offsetBytes address cmd)).load.2)
  | smbusWriteWord cmd buffer => fun s =>
      (.done, s.write [cmd.setWidth 8, lowByte buffer, highByte buffer])
  | smbusReadWord cmd => fun s =>
      (.word (smbusTransfer .read (cmd.setWidth 8) .wordData 0 s).1,
        (smbusTransfer .read (cmd.setWidth 8) .wordData 0 s).2)
  | i2cWrite cmd0 _ buffer => fun s => (.done, s.write [cmd0, cmd0, buffer])
  | i2cRead cmd0 _ => fun s => (.byte (s.write [cmd0, cmd0]).load.1, (s.write [cmd0, cmd0]).load.2)

variable (address buflen flags) in
theorem serves_run (r : Request) : Serves (r.run address buflen flags) address.i2cAddr (r.effect address) := by
  cases r with
  | smbusSendByte buffer =>
      have h := serves_smbusExecute address .write .byte smbusOffsetNonCmd (buffer.setWidth 16) flags
      exact (h.map fun _ => ()).map fun _ => Response.done
  | smbusWriteByte cmd buffer =>
      have h := serves_smbusExecute address .write .byteData cmd (buffer.setWidth 16) flags
      simp only [transactionOn, lowByte_setWidth] at h
      exact (h.map fun _ => ()).map fun _ => Response.done
  | smbusReadByte cmd =>
      have h := (serves_smbusExecute address .read .byteData cmd 0 flags).map lowByte
      simp only [transactionOn, lowByte_setWidth] at h
      exact h.map Response.byte
  | smbusWriteWord cmd buffer =>
      have h := serves_smbusExecute address .write .wordData cmd buffer flags
      exact (h.map fun _ => ()).map fun _ => Response.done
  | smbusReadWord cmd => exact (serves_smbusExecute address .read .wordData cmd 0 flags).map Response.word
  | i2cWrite cmd0 cmd1 buffer =>
      exact (serves_i2cWrite address cmd0 cmd1 buffer buflen flags).map fun _ => Response.done
  | i2cRead cmd0 cmd1 => exact (serves_i2cRead address cmd0 cmd1 buflen flags).map Response.byte

theorem delivered_iff_effect (r : Request) :
    r.Delivered address buflen flags ↔
      ∀ s, r.Fits address s → r.Transfers s (r.effect address s).1 (r.effect address s).2 := by
  constructor
  · intro h s hs
    let a : Adapter := ⟨0, false, fun _ => s⟩
    obtain ⟨a', hgives, hslaves⟩ := serves_run address buflen flags r a
    obtain ⟨d', hout, -, -, hhw⟩ := hgives ⟨fun _ => false, fun _ => none, 0, a⟩ (fun _ _ => rfl) rfl rfl
    obtain ⟨response, d'', hrun, -, htransfers, -⟩ := h ⟨fun _ => false, fun _ => none, 0, a⟩
      (fun _ _ => rfl) rfl hs
    rw [hrun] at hout
    cases hout
    rw [hhw, hslaves, Function.update_self] at htransfers
    exact htransfers
  · intro h d hquiet hfree hfits
    have hheld : d.held = fun _ => false := funext fun _ => hfree
    obtain ⟨a', hgives, hslaves⟩ := serves_run address buflen flags r d.hw
    obtain ⟨d', hout, -, hheld', hhw⟩ := hgives d hquiet hheld rfl
    refine ⟨_, d', hout, hheld'.trans hheld.symm, ?_, fun other hne => ?_⟩
    · rw [hhw, hslaves, Function.update_self]
      exact h _ hfits
    · rw [hhw, hslaves, Function.update_of_ne hne]

end Request

end OpxSdi.I2c
