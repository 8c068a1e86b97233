import OpxSdi.Media.Cdr
import OpxSdi.Media.Lemmas.TxControl

/-!
# When a CDR call returns

The conditions under which the CDR of a channel is set and read, and what is then in the registers.
-/

namespace OpxSdi.Media

open Lib Device

variable {α : Type} {d d' : State}

/-! ## Registers -/

theorem Eeprom.read_write_self {e : Eeprom} {offset value : Byte} (h : offset < 128) :
    (e.write offset value).read offset = value := by
  rw [Eeprom.read_lower h, Eeprom.write_lower h, Function.update_self]

/-- The register with the page is not written. -/
theorem Eeprom.read_write_of_ne {e : Eeprom} {offset offset' value : Byte} (h : offset < 127)
    (hne : offset' ≠ offset) : (e.write offset value).read offset' = e.read offset' := by
  have hlower : offset < 128 := BitVec.lt_trans h (by decide)
  have hpage : pageSelectByteOffset ≠ offset := by
    rintro rfl
    exact absurd h (by decide)
  simp only [Eeprom.write, if_pos hlower, Eeprom.read, Function.update_of_ne hne, Function.update_of_ne hpage]

namespace Qsfp

variable (q : Qsfp)

def register (slaves : BitVec 16 → Eeprom) (offset : BitVec 32) : Byte :=
  (slaves q.i2cAddr).read (offset.setWidth 8)

def withRegister (slaves : BitVec 16 → Eeprom) (offset : BitVec 32) (b : Byte) : BitVec 16 → Eeprom :=
  Function.update slaves q.i2cAddr ((slaves q.i2cAddr).write (offset.setWidth 8) b)

variable {q}

theorem read_withRegister {slaves : BitVec 16 → Eeprom} {offset : BitVec 32} {b o : Byte}
    (h : offset.setWidth 8 < (127 : Byte)) :
    (q.withRegister slaves offset b q.i2cAddr).read o =
      if o = offset.setWidth 8 then b else (slaves q.i2cAddr).read o := by
  rw [withRegister, Function.update_self]
  split
  · rename_i ho
    rw [ho, Eeprom.read_write_self (BitVec.lt_trans h (by decide))]
  · rename_i ho
    exact Eeprom.read_write_of_ne h ho

/-! ## Directions -/

theorem getLsbD_supportStatusOf (buf : Byte) (dir : Direction) :
    (supportStatusOf buf).getLsbD dir.cdrControlBitOffset = buf.getLsbD dir.cdrControlBitOffset := by
  cases htx : buf.getLsbD Direction.tx.cdrControlBitOffset <;>
    cases hrx : buf.getLsbD Direction.rx.cdrControlBitOffset <;> cases dir <;>
      simp only [supportStatusOf, htx, hrx] <;> decide

theorem supportStatusOf_ne_zero {buf : Byte} :
    supportStatusOf buf ≠ 0 ↔ ∃ dir : Direction, buf.getLsbD dir.cdrControlBitOffset = true := by
  constructor
  · intro h
    by_contra hno
    have hnone : ∀ dir : Direction, buf.getLsbD dir.cdrControlBitOffset = false :=
      fun dir => Bool.of_not_eq_true fun hdir => hno ⟨dir, hdir⟩
    rw [supportStatusOf, hnone .tx, hnone .rx] at h
    exact h rfl
  · rintro ⟨dir, hdir⟩ hzero
    rw [← getLsbD_supportStatusOf, hzero, BitVec.ofNat_eq_ofNat, BitVec.getLsbD_zero] at hdir
    cases hdir

/-- The direction is supported. -/
def Supports (q : Qsfp) (slaves : BitVec 16 → Eeprom) (dir : Direction) : Prop :=
  (q.register slaves options3Offset).getLsbD dir.cdrControlBitOffset = true

instance (q : Qsfp) (slaves : BitVec 16 → Eeprom) (dir : Direction) : Decidable (q.Supports slaves dir) :=
  inferInstanceAs (Decidable (_ = _))

def supportStatus (q : Qsfp) (slaves : BitVec 16 → Eeprom) : BitVec 32 :=
  supportStatusOf (q.register slaves options3Offset)

theorem supportStatus_ne_zero {slaves : BitVec 16 → Eeprom} :
    q.supportStatus slaves ≠ 0 ↔ ∃ dir, q.Supports slaves dir := supportStatusOf_ne_zero

theorem fetches_isCdrControlSupported : Fetches q.isCdrControlSupported 1 q.supportStatus :=
  Fetches.bind (n := 0) (Fetches.smbusReadByte q.i2cAddr options3Offset) fun buf =>
    Fetches.pure (supportStatusOf buf)

theorem getLsbD_setCdrBit {slaves : BitVec 16 → Eeprom} {dir : Direction} {buf : Byte} {bit k : Nat}
    {enable : Bool}
    (h : bit < 8) : (setCdrBit (q.supportStatus slaves) dir buf bit enable).getLsbD k =
      if q.Supports slaves dir ∧ k = bit then enable else buf.getLsbD k := by
  rw [setCdrBit, supportStatus, getLsbD_supportStatusOf]
  by_cases hsup : q.Supports slaves dir
  · rw [if_pos (show _ = true from hsup)]
    by_cases hk : k = bit
    · rw [if_pos ⟨hsup, hk⟩, hk, getLsbD_stdBit_self h]
    · rw [if_neg fun h => hk h.2, getLsbD_stdBit_of_ne hk]
  · rw [if_neg (show ¬_ = true from hsup), if_neg fun h => hsup h.1]

/-! ## Selections -/

variable {channel : BitVec 32}

/-- The call is for a channel of a module that is no adapter, nothing holds the locks, and some direction is
supported. -/
structure ReachesCdr (q : Qsfp) (channel : BitVec 32) (d : State) : Prop where
  modType_ne : d.hw.priv.modType ≠ .qsaAdapter
  valid : validateChannel channel d.hw.priv.modCategory = true
  free : q.sel.Free d
  supports : ∃ dir, q.Supports d.hw.slaves dir

/-- The state in which the registers are accessed. -/
def cdrOpened (q : Qsfp) (d : State) : State := (q.sel.opened d).passed 1 d.hw.slaves

theorem ok_withCdrControl {body : QsfpCategory → BitVec 32 → M α} {r : α} :
    Ok (q.withCdrControl channel body) d r d' ↔
      q.ReachesCdr channel d ∧ d.Clear (q.sel.ops + 1) ∧ ∃ d1 : State,
        Ok (body d.hw.priv.modCategory (q.supportStatus d.hw.slaves)) (q.cdrOpened d) r d1 ∧
          d' = q.sel.closed d1 := by
  have hclear : d.Clear (q.sel.ops + 1) ↔ d.Clear q.sel.ops ∧ (q.sel.opened d).Clear 1 :=
    @clear_add _ _ _ d q.sel.ops 1 d.hw
  rw [withCdrControl, getPriv, ok_bind, hclear]
  constructor
  · rintro ⟨priv, d0, hpriv, h⟩
    obtain ⟨rfl, rfl⟩ := ok_internal.mp hpriv
    split at h
    · exact absurd h ok_fail
    · rename_i hmod
      split at h
      · exact absurd h ok_fail
      · rename_i hvalid
        obtain ⟨⟨hfree, hops⟩, d1, hbody, rfl⟩ := q.sel.ok_withModule.mp h
        obtain ⟨sup, d2, hsup, h⟩ := ok_bind.mp hbody
        obtain ⟨hone, rfl, rfl⟩ := fetches_isCdrControlSupported.ok_iff.mp hsup
        split at h
        · exact absurd h ok_fail
        · rename_i hnonzero
          exact ⟨⟨hmod, Bool.of_not_eq_false hvalid, hfree, supportStatus_ne_zero.mp hnonzero⟩,
            ⟨hops, hone⟩, d1, h, rfl⟩
  · rintro ⟨⟨hmod, hvalid, hfree, hsupports⟩, ⟨hops, hone⟩, d1, h, rfl⟩
    refine ⟨_, d, ok_internal.mpr ⟨rfl, rfl⟩, ?_⟩
    rw [if_neg hmod, if_neg (by rw [hvalid]; decide)]
    have hsup : Ok q.isCdrControlSupported (q.sel.opened d) (q.supportStatus d.hw.slaves) (q.cdrOpened d) :=
      fetches_isCdrControlSupported.ok_iff.mpr ⟨hone, rfl, rfl⟩
    refine q.sel.ok_withModule.mpr ⟨⟨hfree, hops⟩, d1, ok_bind.mpr ⟨_, _, hsup, ?_⟩, rfl⟩
    rw [if_neg (supportStatus_ne_zero.mpr hsupports)]
    exact h

/-! ## Registers of the directions -/

variable {enable : Bool} {slaves : BitVec 16 → Eeprom} {dir : Direction}

/-- The modules after a round of the registers of one direction. -/
def withDdCdr (q : Qsfp) (channel : BitVec 32) (enable : Bool) (dir : Direction)
    (slaves : BitVec 16 → Eeprom) :
    BitVec 16 → Eeprom :=
  q.withRegister slaves dir.ddCdrControlOffset (setCdrBit (q.supportStatus slaves) dir
    (q.register slaves dir.ddCdrControlOffset) (dir.ddCdrControlBit channel) enable)

/-- The modules after the round of the register of both directions. -/
def withPlainCdr (q : Qsfp) (channel : BitVec 32) (enable : Bool) (slaves : BitVec 16 → Eeprom) :
    BitVec 16 → Eeprom :=
  q.withRegister slaves cdrControlOffset (setCdrBit (q.supportStatus slaves) .rx
    (setCdrBit (q.supportStatus slaves) .tx (q.register slaves cdrControlOffset)
      (Direction.tx.cdrControlBit channel)
      enable) (Direction.rx.cdrControlBit channel) enable)

theorem supportStatus_withRegister {offset : BitVec 32} {b : Byte} (h : offset.setWidth 8 < (127 : Byte)) :
    q.supportStatus (q.withRegister slaves offset b) = q.supportStatus slaves := by
  have hne : options3Offset.setWidth 8 ≠ offset.setWidth 8 := by
    intro heq
    rw [← heq] at h
    exact absurd h (by decide)
  rw [supportStatus, supportStatus, register, read_withRegister h, if_neg hne, register]

theorem ok_setDdCdr {rc : Except Errno Unit} :
    Ok (q.setDdCdr channel enable (q.supportStatus d.hw.slaves) dir) d rc d' ↔ d.fault d.time = none ∧
      (d.fault (d.time + 1) = none ∧ rc = .ok () ∧
      d' = d.passed 2 (q.withDdCdr channel enable dir d.hw.slaves) ∨
      ∃ e, d.fault (d.time + 1) = some e ∧ rc = .error e ∧ d' = d.passed 2 d.hw.slaves) := by
  rw [setDdCdr, ok_smbusReadByte_bind, ok_attempt]
  refine and_congr_right fun _ => or_congr ⟨?_, ?_⟩ ⟨?_, ?_⟩
  · rintro ⟨u, rfl, hwrite⟩
    obtain ⟨hfault, rfl⟩ := ok_smbusWriteByte.mp hwrite
    exact ⟨hfault, rfl, passed_passed ..⟩
  · rintro ⟨hfault, rfl, rfl⟩
    exact ⟨(), rfl, ok_smbusWriteByte.mpr ⟨hfault, (passed_passed d 1 1 _ _).symm⟩⟩
  · rintro ⟨e, rfl, hwrite⟩
    obtain ⟨hfault, rfl⟩ := err_smbusWriteByte.mp hwrite
    exact ⟨e, hfault, rfl, passed_passed ..⟩
  · rintro ⟨e, hfault, rfl, rfl⟩
    exact ⟨e, rfl, err_smbusWriteByte.mpr ⟨hfault, (passed_passed d 1 1 _ _).symm⟩⟩

theorem supportStatus_withDdCdr :
    q.supportStatus (q.withDdCdr channel enable dir slaves) = q.supportStatus slaves :=
  supportStatus_withRegister (by cases dir <;> decide)

/-- A round whose return code is not looked at. -/
theorem ok_setDdCdr_bind {β : Type} {y : M β} {r : β} :
    Ok (q.setDdCdr channel enable (q.supportStatus d.hw.slaves) dir >>= fun _ => y) d r d' ↔
    d.fault d.time = none ∧
      Ok y (d.passed 2 (if (d.fault (d.time + 1)).isNone then q.withDdCdr channel enable dir d.hw.slaves
        else d.hw.slaves)) r d' := by
  rw [ok_bind]
  simp only [ok_setDdCdr]
  cases hfault : d.fault (d.time + 1) with
  | none =>
      constructor
      · rintro ⟨rc, d1, ⟨hread, ⟨-, -, rfl⟩ | ⟨e, hwrite, -⟩⟩, h⟩
        · exact ⟨hread, h⟩
        · cases hwrite
      · rintro ⟨hread, h⟩
        exact ⟨_, _, ⟨hread, .inl ⟨rfl, rfl, rfl⟩⟩, h⟩
  | some e =>
      constructor
      · rintro ⟨rc, d1, ⟨hread, ⟨hwrite, -⟩ | ⟨e', -, -, rfl⟩⟩, h⟩
        · cases hwrite
        · exact ⟨hread, h⟩
      · rintro ⟨hread, h⟩
        exact ⟨_, _, ⟨hread, .inr ⟨e, rfl, rfl, rfl⟩⟩, h⟩

theorem ok_setDdCdr_ofResult {u : Unit} :
    Ok (q.setDdCdr channel enable (q.supportStatus d.hw.slaves) dir >>= Device.ofResult) d u d' ↔
      d.Clear 2 ∧ d' = d.passed 2 (q.withDdCdr channel enable dir d.hw.slaves) := by
  rw [ok_bind, clear_two]
  simp only [ok_setDdCdr, ok_ofResult]
  constructor
  · rintro ⟨rc, d1, ⟨hread, ⟨hwrite, -, rfl⟩ | ⟨e, -, rfl, -⟩⟩, hrc, rfl⟩
    · exact ⟨⟨hread, hwrite⟩, rfl⟩
    · cases hrc
  · rintro ⟨⟨hread, hwrite⟩, rfl⟩
    exact ⟨_, _, ⟨hread, .inl ⟨hwrite, rfl, rfl⟩⟩, rfl, rfl⟩

/-- The two rounds of a module with two registers. -/
theorem ok_setDdCdrs {u : Unit} : Ok (q.setDdCdr channel enable (q.supportStatus d.hw.slaves) .tx >>= fun _ =>
      q.setDdCdr channel enable (q.supportStatus d.hw.slaves) .rx >>= Device.ofResult) d u d' ↔
    d.ClearBut 4 1 ∧ d' = d.passed 4 (q.withDdCdr channel enable .rx
      (if (d.fault (d.time + 1)).isNone then q.withDdCdr channel enable .tx d.hw.slaves
      else d.hw.slaves)) := by
  rw [ok_setDdCdr_bind, @clearBut_iff _ _ _ d 2 1 d.hw, clear_one, and_assoc]
  refine and_congr_right fun _ => ?_
  have hsame : q.supportStatus (if (d.fault (d.time + 1)).isNone then q.withDdCdr channel enable
    .tx d.hw.slaves
      else d.hw.slaves) = q.supportStatus d.hw.slaves := by
    split
    · exact supportStatus_withDdCdr
    · rfl
  revert hsame
  generalize (if (d.fault (d.time + 1)).isNone then q.withDdCdr channel enable .tx d.hw.slaves
    else d.hw.slaves) = slaves'
  intro hsame
  have hrx : Ok (q.setDdCdr channel enable (q.supportStatus slaves') .rx >>= Device.ofResult)
    (d.passed 2 slaves') u d' ↔
      (d.passed 2 slaves').Clear 2 ∧ d' = (d.passed 2 slaves').passed 2
        (q.withDdCdr channel enable .rx slaves') :=
    ok_setDdCdr_ofResult (d := d.passed 2 slaves')
  rw [← hsame, hrx, passed_passed]
  exact Iff.rfl

/-- The round of a module with one register. -/
theorem ok_setPlainCdr {u : Unit} : Ok (smbusReadByte q.i2cAddr cdrControlOffset >>= fun buf =>
      smbusWriteByte q.i2cAddr cdrControlOffset (setCdrBit (q.supportStatus d.hw.slaves) .rx
        (setCdrBit (q.supportStatus d.hw.slaves) .tx buf (Direction.tx.cdrControlBit channel) enable)
        (Direction.rx.cdrControlBit channel) enable)) d u d' ↔
    d.Clear 2 ∧ d' = d.passed 2 (q.withPlainCdr channel enable d.hw.slaves) := by
  rw [ok_smbusReadByte_bind, ok_smbusWriteByte, passed_passed, clear_two, and_assoc]
  exact Iff.rfl

/-! ## The calls -/

/-- The transactions of a call that sets the bits, after the selection -/
def cdrSetOps (category : QsfpCategory) : Nat := if category = .qsfpdd then 5 else 3

def cdrGetOps (category : QsfpCategory) : Nat := if category = .qsfpdd then 3 else 2

/-- No operation of the call that sets the bits fails, but maybe the first write of two. -/
def SetsCdrAt (q : Qsfp) (d : State) : Prop :=
  if d.hw.priv.modCategory = .qsfpdd then d.ClearBut (q.sel.ops + 5) (q.sel.ops + 2) else d.Clear
    (q.sel.ops + 3)

def GetsCdrAt (q : Qsfp) (d : State) : Prop :=
  if d.hw.priv.modCategory = .qsfpdd then d.ClearBut (q.sel.ops + 3) (q.sel.ops + 1) else d.Clear
    (q.sel.ops + 2)

/-- The modules after the bits have been set. -/
def withCdr (q : Qsfp) (channel : BitVec 32) (enable : Bool) (category : QsfpCategory) (txWritten : Bool)
    (slaves : BitVec 16 → Eeprom) : BitVec 16 → Eeprom :=
  if category = .qsfpdd then
    q.withDdCdr channel enable .rx (if txWritten then q.withDdCdr channel enable .tx slaves else slaves)
  else q.withPlainCdr channel enable slaves

def cdrSet (q : Qsfp) (channel : BitVec 32) (enable : Bool) (d : State) : State :=
  q.sel.closed ((q.sel.opened d).passed (cdrSetOps d.hw.priv.modCategory)
    (q.withCdr channel enable d.hw.priv.modCategory (d.fault (d.time + (q.sel.ops + 2))).isNone d.hw.slaves))

theorem cdrOpened_passed (n : Nat) (slaves : BitVec 16 → Eeprom) :
    (q.cdrOpened d).passed n slaves = (q.sel.opened d).passed (1 + n) slaves := passed_passed ..

theorem ok_cdrStatusSet {u : Unit} : Ok (q.cdrStatusSet channel enable) d u d' ↔
    q.ReachesCdr channel d ∧ q.SetsCdrAt d ∧ d' = q.cdrSet channel enable d := by
  rw [cdrStatusSet, ok_withCdrControl, SetsCdrAt, cdrSet, cdrSetOps, withCdr]
  refine and_congr_right fun _ => ?_
  by_cases hdd : d.hw.priv.modCategory = .qsfpdd
  · simp only [if_pos hdd]
    rw [show q.sel.ops + 5 = q.sel.ops + 1 + 4 from rfl, show q.sel.ops + 2 = q.sel.ops + 1 + 1 from rfl,
      @clearBut_add _ _ _ d (q.sel.ops + 1) 4 1 d.hw, and_assoc]
    refine and_congr_right fun _ => ?_
    constructor
    · rintro ⟨d1, h, rfl⟩
      obtain ⟨hclear, rfl⟩ := (ok_setDdCdrs (d := q.cdrOpened d)).mp h
      exact ⟨hclear, congrArg q.sel.closed (cdrOpened_passed 4 _)⟩
    · rintro ⟨hclear, rfl⟩
      exact ⟨_, (ok_setDdCdrs (d := q.cdrOpened d)).mpr ⟨hclear, rfl⟩,
        congrArg q.sel.closed (cdrOpened_passed 4 _).symm⟩
  · simp only [if_neg hdd]
    rw [show q.sel.ops + 3 = q.sel.ops + 1 + 2 from rfl, @clear_add _ _ _ d (q.sel.ops + 1) 2 d.hw, and_assoc]
    refine and_congr_right fun _ => ?_
    constructor
    · rintro ⟨d1, h, rfl⟩
      obtain ⟨hclear, rfl⟩ := (ok_setPlainCdr (d := q.cdrOpened d)).mp h
      exact ⟨hclear, congrArg q.sel.closed (cdrOpened_passed 2 _)⟩
    · rintro ⟨hclear, rfl⟩
      exact ⟨_, (ok_setPlainCdr (d := q.cdrOpened d)).mpr ⟨hclear, rfl⟩,
        congrArg q.sel.closed (cdrOpened_passed 2 _).symm⟩

/-- The register of the transmitters is read, or the buffer stays 0. -/
theorem ok_getDdCdrs {r : Bool} : Ok (Device.attempt
    (smbusReadByte q.i2cAddr Direction.tx.ddCdrControlOffset) >>=
      fun rc => smbusReadByte q.i2cAddr Direction.rx.ddCdrControlOffset >>= fun buf1 =>
        pure ((rc.toOption.getD 0).getLsbD (Direction.tx.ddCdrControlBit channel) ||
          buf1.getLsbD (Direction.rx.ddCdrControlBit channel))) d r d' ↔
    d.ClearBut 2 0 ∧ r = (((d.fault d.time).isNone &&
    (q.register d.hw.slaves Direction.tx.ddCdrControlOffset).getLsbD
        (Direction.tx.ddCdrControlBit channel)) ||
      (q.register d.hw.slaves Direction.rx.ddCdrControlOffset).getLsbD
      (Direction.rx.ddCdrControlBit channel)) ∧
      d' = d.passed 2 d.hw.slaves := by
  rw [ok_attempt_bind, @clearBut_iff _ _ _ d 1 0 d.hw, and_iff_right d.clear_zero, clear_one]
  simp only [ok_smbusReadByte, err_smbusReadByte, ok_smbusReadByte_bind, ok_pure]
  cases hfault : d.fault d.time with
  | none =>
      constructor
      · rintro (⟨b, d1, ⟨-, rfl, rfl⟩, hrx, rfl, rfl⟩ | ⟨e, d1, ⟨hread, -⟩, -⟩)
        · exact ⟨hrx, by simp only [Option.isNone_none, Bool.true_and]; rfl, passed_passed ..⟩
        · cases hread
      · rintro ⟨hrx, rfl, rfl⟩
        refine .inl ⟨_, _, ⟨rfl, rfl, rfl⟩, hrx, ?_, (passed_passed d 1 1 _ _).symm⟩
        simp only [Option.isNone_none, Bool.true_and]
        rfl
  | some e =>
      constructor
      · rintro (⟨b, d1, ⟨hread, -⟩, -⟩ | ⟨e', d1, ⟨-, rfl⟩, hrx, rfl, rfl⟩)
        · cases hread
        · refine ⟨hrx, ?_, passed_passed ..⟩
          simp only [Except.toOption, Option.getD_none, BitVec.ofNat_eq_ofNat, BitVec.getLsbD_zero,
            Option.isNone_some, Bool.false_and]
          rfl
      · rintro ⟨hrx, rfl, rfl⟩
        refine .inr ⟨e, _, ⟨rfl, rfl⟩, hrx, ?_, (passed_passed d 1 1 _ _).symm⟩
        simp only [Except.toOption, Option.getD_none, BitVec.ofNat_eq_ofNat, BitVec.getLsbD_zero,
          Option.isNone_some, Bool.false_and]
        rfl

theorem ok_getPlainCdr {r : Bool} : Ok (smbusReadByte q.i2cAddr cdrControlOffset >>= fun buf =>
      pure (buf.getLsbD (Direction.tx.cdrControlBit channel) || buf.getLsbD
      (Direction.rx.cdrControlBit channel)))
      d r d' ↔
    d.Clear 1 ∧ r = ((q.register d.hw.slaves cdrControlOffset).getLsbD (Direction.tx.cdrControlBit channel) ||
      (q.register d.hw.slaves cdrControlOffset).getLsbD (Direction.rx.cdrControlBit channel)) ∧
      d' = d.passed 1 d.hw.slaves := by
  rw [ok_smbusReadByte_bind, ok_pure, clear_one]
  exact Iff.rfl

/-- What the call returns for these modules -/
def cdrStatus (q : Qsfp) (channel : BitVec 32) (category : QsfpCategory) (txRead : Bool)
    (slaves : BitVec 16 → Eeprom) : Bool :=
  if category = .qsfpdd then
    (txRead && (q.register slaves Direction.tx.ddCdrControlOffset).getLsbD
      (Direction.tx.ddCdrControlBit channel)) ||
      (q.register slaves Direction.rx.ddCdrControlOffset).getLsbD (Direction.rx.ddCdrControlBit channel)
  else (q.register slaves cdrControlOffset).getLsbD (Direction.tx.cdrControlBit channel) ||
    (q.register slaves cdrControlOffset).getLsbD (Direction.rx.cdrControlBit channel)

theorem ok_cdrStatusGet {r : Bool} : Ok (q.cdrStatusGet channel) d r d' ↔
    q.ReachesCdr channel d ∧ q.GetsCdrAt d ∧
      r = q.cdrStatus channel d.hw.priv.modCategory (d.fault (d.time + (q.sel.ops + 1))).isNone d.hw.slaves ∧
      d' = q.sel.closed ((q.sel.opened d).passed (cdrGetOps d.hw.priv.modCategory) d.hw.slaves) := by
  rw [cdrStatusGet, ok_withCdrControl, GetsCdrAt, cdrGetOps, cdrStatus]
  refine and_congr_right fun _ => ?_
  by_cases hdd : d.hw.priv.modCategory = .qsfpdd
  · simp only [if_pos hdd]
    rw [show q.sel.ops + 3 = q.sel.ops + 1 + 2 from rfl, show q.sel.ops + 1 = q.sel.ops + 1 + 0 from rfl,
      @clearBut_add _ _ _ d (q.sel.ops + 1) 2 0 d.hw, and_assoc]
    refine and_congr_right fun _ => ?_
    constructor
    · rintro ⟨d1, h, rfl⟩
      obtain ⟨hclear, rfl, rfl⟩ := (ok_getDdCdrs (d := q.cdrOpened d)).mp h
      exact ⟨hclear, rfl, congrArg q.sel.closed (cdrOpened_passed 2 _)⟩
    · rintro ⟨hclear, rfl, rfl⟩
      exact ⟨_, (ok_getDdCdrs (d := q.cdrOpened d)).mpr ⟨hclear, rfl, rfl⟩,
        congrArg q.sel.closed (cdrOpened_passed 2 _).symm⟩
  · simp only [if_neg hdd]
    rw [show q.sel.ops + 2 = q.sel.ops + 1 + 1 from rfl, @clear_add _ _ _ d (q.sel.ops + 1) 1 d.hw, and_assoc]
    refine and_congr_right fun _ => ?_
    constructor
    · rintro ⟨d1, h, rfl⟩
      obtain ⟨hclear, rfl, rfl⟩ := (ok_getPlainCdr (d := q.cdrOpened d)).mp h
      exact ⟨hclear, rfl, congrArg q.sel.closed (cdrOpened_passed 1 _)⟩
    · rintro ⟨hclear, rfl, rfl⟩
      exact ⟨_, (ok_getPlainCdr (d := q.cdrOpened d)).mpr ⟨hclear, rfl, rfl⟩,
        congrArg q.sel.closed (cdrOpened_passed 1 _).symm⟩

end Qsfp

end OpxSdi.Media
