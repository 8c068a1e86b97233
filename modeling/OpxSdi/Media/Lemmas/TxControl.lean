import OpxSdi.Media.Lemmas.Monitor
import OpxSdi.Media.TxControl

/-!
# When a call on a transmitter returns

The mailbox of a module is in its upper memory, so that the control of its transmitter by the PHY changes
neither the options of the module nor the bit that disables the transmitter.
-/

namespace OpxSdi.Media

open Lib Device

variable {α : Type} {d d' : State} {a : BitVec 16}

/-! ## Lower memory -/

theorem Eeprom.read_lower {e : Eeprom} {offset : Byte} (h : offset < 128) : e.read offset = e.lower offset :=
  if_pos h

theorem Eeprom.write_lower {e : Eeprom} {offset value : Byte} (h : offset < 128) :
    (e.write offset value).lower = Function.update e.lower offset value := by
  rw [Eeprom.write, if_pos h]

/-- Transactions that leave the lower memory of each module as it is. -/
def LowerKept (d d' : State) : Prop :=
  ∃ n slaves, d' = d.passed n slaves ∧ ∀ a, (slaves a).lower = (d.hw.slaves a).lower

theorem LowerKept.refl (d : State) : LowerKept d d := ⟨0, d.hw.slaves, (passed_zero d).symm, fun _ => rfl⟩

theorem LowerKept.trans (d d' d'' : State) (h : LowerKept d d') (h' : LowerKept d' d'') :
    LowerKept d d'' := by
  obtain ⟨n, slaves, rfl, hn⟩ := h
  obtain ⟨m, slaves', rfl, hm⟩ := h'
  exact ⟨n + m, slaves', passed_passed .., fun a => (hm a).trans (hn a)⟩

abbrev KeepsLower (x : M α) : Prop := Keeps LowerKept x

namespace KeepsLower

variable {β : Type} {x : M α}

theorem pure (a : α) : KeepsLower (Pure.pure a : M α) := Keeps.pure LowerKept.refl a

theorem bind {f : α → M β} (hx : KeepsLower x) (hf : ∀ a, KeepsLower (f a)) : KeepsLower (x >>= f) :=
  Keeps.bind LowerKept.trans hx hf

/-- A transaction that changes the modules in their upper memory only. -/
theorem transaction (f : Cage → α × Cage)
    (hf : ∀ c, ∃ slaves, (f c).2 = { c with slaves } ∧ ∀ a, (slaves a).lower = (c.slaves a).lower) :
    KeepsLower (note .transaction >>= fun _ => Device.access f) := by
  intro d
  cases hfault : d.fault d.time with
  | some e =>
      exact ⟨.error e, _, err_transaction.mpr ⟨hfault, rfl⟩, 1, d.hw.slaves, rfl, fun _ => rfl⟩
  | none =>
      obtain ⟨slaves, hslaves, hlower⟩ := hf { d.hw with log := d.hw.log ++ [.transaction] }
      refine ⟨.ok _, _, ok_transaction.mpr ⟨hfault, rfl, rfl⟩, 1, slaves, ?_, hlower⟩
      rw [hslaves]
      rfl

theorem smbusReadByte (a : BitVec 16) (cmd : BitVec 32) : KeepsLower (smbusReadByte a cmd) :=
  transaction _ fun c => ⟨c.slaves, rfl, fun _ => rfl⟩

theorem update_lower {slaves : BitVec 16 → Eeprom} {e : Eeprom} (h : e.lower = (slaves a).lower)
    (a' : BitVec 16) :
    (Function.update slaves a e a').lower = (slaves a').lower := by
  by_cases ha : a' = a
  · subst ha
    rw [Function.update_self, h]
  · rw [Function.update_of_ne ha]

theorem smbusWriteByte {a : BitVec 16} {cmd : BitVec 32} {b : Byte} (h : ¬cmd.setWidth 8 < (128 : Byte)) :
    KeepsLower (smbusWriteByte a cmd b) := by
  refine transaction _ fun c => ⟨_, rfl, update_lower ?_⟩
  rw [Eeprom.write, if_neg h]

theorem smbusReadMultiByte (a : BitVec 16) (cmd : BitVec 32) (n : Nat) :
    KeepsLower (smbusReadMultiByte a cmd n) := by
  induction n generalizing cmd with
  | zero => exact pure []
  | succ n ih => exact bind (smbusReadByte a cmd) fun b => bind (ih _) fun bs => pure (b :: bs)

end KeepsLower

namespace ExtMod

variable (mailbox : Mailbox)

theorem keepsLower_settle : KeepsLower (settle mailbox) := by
  refine Keeps.internal _ fun d => ⟨0, Function.update d.hw.slaves Sfp.sfpI2cAddr
    { d.hw.slaves Sfp.sfpI2cAddr with upper := mailbox (d.hw.slaves Sfp.sfpI2cAddr) }, ?_,
      KeepsLower.update_lower rfl⟩
  simp only [State.passed, List.replicate_zero, List.append_nil, Nat.add_zero]

theorem keepsLower_pollStatus (polls : Nat) : KeepsLower (pollStatus mailbox polls) := by
  induction polls with
  | zero => exact KeepsLower.pure false
  | succ polls ih =>
      refine KeepsLower.bind (keepsLower_settle mailbox) fun _ =>
        KeepsLower.bind (KeepsLower.smbusReadMultiByte _ _ _) fun status => ?_
      split
      · exact KeepsLower.pure true
      · exact ih

theorem keepsLower_performOper (packet : OperPacket) : KeepsLower (performOper mailbox packet) := by
  rw [performOper]
  refine KeepsLower.bind ?_ fun _ => KeepsLower.bind (keepsLower_pollStatus mailbox _)
    fun operSetSuccess => ?_
  · simp only [smbusWriteMultiByte]
    refine KeepsLower.bind (KeepsLower.smbusWriteByte (by decide)) fun _ =>
      KeepsLower.bind (KeepsLower.smbusWriteByte (by decide)) fun _ =>
      KeepsLower.bind (KeepsLower.smbusWriteByte (by decide)) fun _ =>
      KeepsLower.bind (KeepsLower.smbusWriteByte (by decide)) fun _ =>
      KeepsLower.bind (KeepsLower.smbusWriteByte (by decide)) fun _ =>
      KeepsLower.bind (KeepsLower.smbusWriteByte (by decide)) fun _ => KeepsLower.pure ()
  · split
    · exact KeepsLower.pure _
    · exact KeepsLower.bind (KeepsLower.smbusReadMultiByte _ _ _) fun _ => KeepsLower.pure _

theorem keepsLower_aqSetTxState (state : Bool) : KeepsLower (aqSetTxState mailbox state) :=
  KeepsLower.bind (keepsLower_performOper mailbox _) fun _ =>
    KeepsLower.bind (keepsLower_performOper mailbox _) fun _ => KeepsLower.pure ()

end ExtMod

/-! ## Pins -/

def State.acquired (d : State) (g : PinGroup) : State :=
  { d with
    held := Function.update d.held g true
    time := d.time + 1
    hw := { d.hw with log := d.hw.log ++ [.acquire g] } }

def State.released (d : State) (g : PinGroup) : State :=
  { d with
    held := Function.update d.held g false
    hw := { d.hw with log := d.hw.log ++ [.release g] } }

/-- The bus of the pin group can be taken. -/
def State.AcquiresAt (d : State) (g : PinGroup) : Prop := d.fault d.time = none ∧ d.held g = false

theorem ok_withPinGroup {g : PinGroup} {body : M α} {r : α} : Ok (withPinGroup g body) d r d' ↔
    d.AcquiresAt g ∧ ∃ d1 : State, Ok body (d.acquired g) r d1 ∧ d' = d1.released g := by
  rw [withPinGroup, ok_bind]
  constructor
  · rintro ⟨u, d1, hacquire, h⟩
    obtain ⟨hfault, hheld, rfl⟩ := ok_pinGroupAcquireBus.mp hacquire
    obtain ⟨rc, d2, hbody, h⟩ := ok_bind.mp h
    obtain ⟨u', d3, hrelease, hresult⟩ := ok_bind.mp h
    obtain ⟨rfl, rfl⟩ := ok_ofResult.mp hresult
    obtain ⟨r', hr, hok⟩ | ⟨e, hr, -⟩ := ok_attempt.mp hbody
    · cases hr
      exact ⟨⟨hfault, hheld⟩, d2, hok, ok_pinGroupReleaseBus.mp hrelease⟩
    · cases hr
  · rintro ⟨⟨hfault, hheld⟩, d1, hbody, rfl⟩
    refine ⟨(), _, ok_pinGroupAcquireBus.mpr ⟨hfault, hheld, rfl⟩, ok_bind.mpr ⟨.ok r, d1, ?_, ?_⟩⟩
    · exact ok_attempt.mpr (.inl ⟨r, rfl, hbody⟩)
    · exact ok_bind.mpr ⟨(), _, ok_pinGroupReleaseBus.mpr rfl, ok_ofResult.mpr ⟨rfl, rfl⟩⟩

/-- The state after a pin group has been read. -/
def State.pinRead (d : State) (g : PinGroup) : State :=
  State.released { d.acquired g with time := (d.acquired g).time + 1 } g

theorem ok_readPinGroup {g : PinGroup} {v : BitVec 32} : Ok (withPinGroup g (pinGroupReadLevel g)) d v d' ↔
    d.AcquiresAt g ∧ d.fault (d.time + 1) = none ∧ v = d.hw.pins g ∧ d' = d.pinRead g := by
  rw [ok_withPinGroup]
  refine and_congr_right fun _ => ?_
  constructor
  · rintro ⟨d1, hread, rfl⟩
    obtain ⟨hfault, rfl, rfl⟩ := ok_pinGroupReadLevel.mp hread
    exact ⟨hfault, rfl, rfl⟩
  · rintro ⟨hfault, rfl, rfl⟩
    exact ⟨_, ok_pinGroupReadLevel.mpr ⟨hfault, rfl, rfl⟩, rfl⟩

/-- A pin group is read, and what is made of its value is written. -/
theorem ok_updatePinGroup {g : PinGroup} {f : BitVec 32 → BitVec 32}
    (h : Ok (withPinGroup g (pinGroupReadLevel g >>= fun v => pinGroupWriteLevel g (f v))) d () d') :
    d'.hw.pins = Function.update d.hw.pins g (f (d.hw.pins g)) := by
  obtain ⟨-, d1, hbody, rfl⟩ := ok_withPinGroup.mp h
  obtain ⟨v, d2, hread, hwrite⟩ := ok_bind.mp hbody
  obtain ⟨-, rfl, rfl⟩ := ok_pinGroupReadLevel.mp hread
  obtain ⟨-, rfl⟩ := ok_pinGroupWriteLevel.mp hwrite
  rfl

/-! ## Control of the transmitter -/

namespace SfpCage

open Sfp

variable (s : SfpCage) (mailbox : Mailbox)

theorem keepsLower_serdesControl (enable : Bool) : KeepsLower (s.serdesControl mailbox enable) := by
  refine KeepsLower.bind (KeepsLower.bind (Keeps.attempt (KeepsLower.smbusReadByte _ _)) fun _ =>
    KeepsLower.pure _) fun sup => ?_
  split
  · exact KeepsLower.bind (Keeps.attempt (ExtMod.keepsLower_aqSetTxState mailbox enable)) fun _ =>
      KeepsLower.pure ()
  · exact KeepsLower.pure ()

/-- The state after the control by the PHY. -/
def told (enable : Bool) (d : State) : State := ((s.serdesControl mailbox enable).out d).2

theorem told_eq (enable : Bool) (d : State) : ∃ n slaves, s.told mailbox enable d = d.passed n slaves ∧
    ∀ a, (slaves a).lower = (d.hw.slaves a).lower := by
  obtain ⟨r, d', hout, hkept⟩ := s.keepsLower_serdesControl mailbox enable d
  rw [told, hout]
  exact hkept

/-- The control by the PHY is no error, whatever fails in it. -/
theorem ok_serdesControl {enable : Bool} {u : Unit} : Ok (s.serdesControl mailbox enable) d u d' ↔
    d' = s.told mailbox enable d := by
  obtain ⟨r, d1, hout, -⟩ := s.keepsLower_serdesControl mailbox enable d
  rw [told, hout]
  cases r with
  | ok u' => 
      rw [Ok, hout]
      exact ⟨fun h => (Prod.mk.inj h).2.symm, fun h => Prod.ext rfl h.symm⟩
  | error e =>
      exfalso
      rcases err_bind.mp (show Err _ _ _ _ from hout) with hsup | ⟨sup, d1, -, h⟩
      · rcases err_bind.mp hsup with hread | ⟨r, d1, -, h⟩
        · exact err_attempt hread
        · exact err_pure h
      · split at h
        · rcases err_bind.mp h with hset | ⟨r, d2, -, h⟩
          · exact err_attempt hset
          · exact err_pure h
        · exact err_pure h

/-- The options of the module. -/
def options (slaves : BitVec 16 → Eeprom) : Byte := (slaves s.i2cAddr).read (enhancedOptionsOffset.setWidth 8)

/-- The register with the bit that disables the transmitter. -/
def control (slaves : BitVec 16 → Eeprom) : Byte :=
  (slaves sfpI2cAddr).read (optionalStatusControlOffset.setWidth 8)

variable {s}

theorem options_congr {slaves slaves' : BitVec 16 → Eeprom} (h : ∀ a, (slaves' a).lower = (slaves a).lower) :
    s.options slaves' = s.options slaves := by
  rw [options, options, Eeprom.read_lower (by decide), Eeprom.read_lower (by decide), h]

theorem control_congr {slaves slaves' : BitVec 16 → Eeprom} (h : ∀ a, (slaves' a).lower = (slaves a).lower) :
    control slaves' = control slaves := by
  rw [control, control, Eeprom.read_lower (by decide), Eeprom.read_lower (by decide), h]

/-- The modules after a write of the register. -/
def withControl (slaves : BitVec 16 → Eeprom) (b : Byte) : BitVec 16 → Eeprom :=
  Function.update slaves sfpI2cAddr ((slaves sfpI2cAddr).write (optionalStatusControlOffset.setWidth 8) b)

@[simp] theorem control_withControl (slaves : BitVec 16 →
  Eeprom) (b : Byte) : control (withControl slaves b) = b := by
  rw [control, withControl, Function.update_self, Eeprom.read_lower (by decide),
    Eeprom.write_lower (by decide),
    Function.update_self]

@[simp] theorem options_withControl (slaves : BitVec 16 → Eeprom) (b : Byte) :
    s.options (withControl slaves b) = s.options slaves := by
  rw [options, options, withControl]
  by_cases ha : s.i2cAddr = sfpI2cAddr
  · rw [ha, Function.update_self, Eeprom.read_lower (by decide), Eeprom.read_lower (by decide),
      Eeprom.write_lower (by decide), Function.update_of_ne (by decide)]
  · rw [Function.update_of_ne ha]

theorem ne_zero_of_getLsbD {b : Byte} {n : Nat} (h : b.getLsbD n = true) : b ≠ 0 := by
  rintro rfl
  cases (BitVec.getLsbD_zero (w := 8)).symm.trans h

theorem ok_softTxControl {enable : Bool} {u : Unit} : Ok (s.softTxControl enable) d u d' ↔
    s.options d.hw.slaves = 0 ∧ d.Clear 1 ∧ d' = d.passed 1 d.hw.slaves ∨
    (s.options d.hw.slaves).getLsbD softTxDisableCtrlBitOffset = true ∧ d.Clear 3 ∧
      d' = d.passed 3 (withControl d.hw.slaves
        (Qsfp.stdBit (control d.hw.slaves) optionalSoftTxDisableStateBitOffset (!enable))) := by
  rw [softTxControl, ok_smbusReadByte_bind, ← options, clear_one,
    @clear_succ_passed _ _ d.hw.slaves, clear_two]
  by_cases hzero : s.options d.hw.slaves = 0
  · rw [if_pos hzero, ok_pure, and_iff_right hzero, or_iff_left fun h => ne_zero_of_getLsbD h.1 hzero]
    exact and_congr_right fun _ => and_iff_right rfl
  · rw [if_neg hzero, ok_smbusReadByte_bind, or_iff_right fun h => hzero h.1]
    by_cases hsup : (s.options d.hw.slaves).getLsbD softTxDisableCtrlBitOffset = true
    · rw [if_pos hsup, ok_smbusWriteByte, passed_passed, passed_passed, and_iff_right hsup,
        and_assoc, and_assoc]
      exact Iff.rfl
    · rw [if_neg hsup]
      exact iff_of_false (fun h => ok_fail h.2.2) fun h => hsup h.1

theorem answers_softTxControlStatusGet {r : Option Bool} : Answers s.softTxControlStatusGet d r ↔
    s.options d.hw.slaves = 0 ∧ d.Clear 1 ∧ r = none ∨
    (s.options d.hw.slaves).getLsbD softTxDisableCtrlBitOffset = true ∧ d.Clear 2 ∧
      r = some (!(control d.hw.slaves).getLsbD optionalSoftTxDisableStateBitOffset) := by
  rw [softTxControlStatusGet, answers_smbusReadByte_bind, ← options, clear_one, clear_two]
  by_cases hzero : s.options d.hw.slaves = 0
  · rw [if_pos hzero, answers_pure, and_iff_right hzero, or_iff_left fun h => ne_zero_of_getLsbD h.1 hzero]
  · rw [if_neg hzero, answers_smbusReadByte_bind, or_iff_right fun h => hzero h.1]
    by_cases hsup : (s.options d.hw.slaves).getLsbD softTxDisableCtrlBitOffset = true
    · rw [if_pos hsup, answers_pure, and_iff_right hsup, and_assoc]
      exact Iff.rfl
    · rw [if_neg hsup]
      exact iff_of_false (fun ⟨_, _, _, h⟩ => ok_fail h) fun h => hsup h.1

end SfpCage

end OpxSdi.Media
