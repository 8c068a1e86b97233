import OpxSdi.Lib.Bits
import OpxSdi.Lib.Run
import OpxSdi.Media.Phy

/-!
# When power-down is sticky

Two calls end with a software reset guarded by a test of a power-down bit, and `power_down_enable` resets
between its read of the control register and its write. What each call leaves of the bit depends on the
registers that it reads.
-/

namespace OpxSdi.Media

open Lib

namespace Phy

theorem swap_swap (v : BitVec 16) : swap (swap v) = v := by
  apply BitVec.eq_of_getLsbD_eq
  intro i hi
  have htop : v.getLsbD (8 + (8 + i)) = false := BitVec.getLsbD_of_ge v _ (by omega)
  simp only [swap, BitVec.getLsbD_or, BitVec.getLsbD_ushiftRight, BitVec.getLsbD_shiftLeft, htop, hi,
    decide_true, Bool.true_and, Bool.false_or]
  by_cases h : i < 8
  · simp [h, show 8 + i < 16 by omega]
  · simp [h, show i - 8 < 8 by omega, show 8 + (i - 8) = i by omega, show i - 8 < 16 by omega]

theorem getLsbD_bit {n k : Nat} (hk : k < 16) : (bit n).getLsbD k = decide (k = n) := by
  rw [bit, getLsbD_one_shiftLeft, decide_eq_true hk, Bool.true_and]

theorem and_bit_eq_zero {v : BitVec 16} {n : Nat} (h : n < 16) : v &&& bit n = 0 ↔ v.getLsbD n = false :=
  and_one_shiftLeft_eq_zero h

theorem and_ctrlPd {v : BitVec 16} : v &&& ctrlPd = 0 ↔ v.getLsbD 11 = false := and_bit_eq_zero (by decide)

/-- Bit `n` of a register -/
def Bit (phy : Phy) (offset : BitVec 8) (n : Nat) : Bool := (phy.reg offset).getLsbD n

def Pd (phy : Phy) : Bool := phy.Bit ctrlReg 11

theorem pd_store_ctrl {phy : Phy} {v : BitVec 16} :
    (phy.store ctrlReg v).Pd = (v.getLsbD 11 && !v.getLsbD 15) := by
  simp only [Pd, Bit, store, Function.update_self, if_pos, written]
  split
  · rename_i h
    rw [(and_bit_eq_zero (by decide)).mp h, Bool.not_false, Bool.and_true]
  · rename_i h
    have hset : v.getLsbD 15 = true := by simpa using mt (and_bit_eq_zero (n := 15) (by decide)).mpr h
    have hpd : (bit 11).getLsbD 11 = true := getLsbD_bit (by decide)
    split <;> simp only [ctrlPd, hset, hpd, BitVec.getLsbD_and, BitVec.getLsbD_not, Bool.not_true,
      Bool.and_false, Bool.false_and]

theorem pd_store_other {phy : Phy} {offset : BitVec 8} {v : BitVec 16} (h : ctrlReg ≠ offset) :
    (phy.store offset v).Pd = phy.Pd := by
  simp only [Pd, Bit, store, Function.update_of_ne h]

end Phy

open Phy

/-! ## What the calls leave of the power-down bit -/

variable {phy : Phy}

theorem phyRead_works {offset : BitVec 8} {f : BitVec 16 → PhyM Unit} {Q : Unit → Phy → Prop}
    (h : Device.Works (f (phy.reg offset)) phy Q) : Device.Works (sfpPhyRead offset >>= f) phy Q := by
  have hread : Device.Works (sfpPhyRead offset) phy fun v phy' => v = phy.reg offset ∧ phy' = phy := by
    refine (Device.Works.access (Q := fun w phy' => swap w = phy.reg offset ∧ phy' = phy) ?_).bind ?_
    · exact ⟨swap_swap _, rfl⟩
    · exact fun _ _ hw => .pure hw
  refine hread.bind ?_
  rintro _ _ ⟨rfl, rfl⟩
  exact h

theorem phyWrite_works {offset : BitVec 8} {v : BitVec 16} {Q : Unit → Phy → Prop}
    (h : Q () (phy.store offset v)) : Device.Works (sfpPhyWrite offset v) phy Q :=
  .access (by rwa [writeWord, show v >>> 8 ||| v <<< 8 = swap v from rfl, swap_swap])

theorem phyWrite_then_works {offset : BitVec 8} {v : BitVec 16} {f : Unit → PhyM Unit} {Q : Unit → Phy → Prop}
    (h : Device.Works (f ()) (phy.store offset v) Q) : Device.Works (sfpPhyWrite offset v >>= f) phy Q := by
  refine (phyWrite_works (Q := fun _ phy' => phy' = phy.store offset v) rfl).bind ?_
  rintro _ _ rfl
  exact h

/-- A software reset clears the power-down bit, whether or not its read fails. -/
theorem swReset_works : Device.Works mediaPhySwReset phy fun _ phy' => phy'.Pd = false := by
  have hread : Device.Works (Device.attempt (sfpPhyRead ctrlReg)) phy fun _ _ => True := by
    refine .attempt ((Device.Works.access (Q := fun _ _ => True) trivial).bind ?_)
    exact fun _ _ _ => .pure trivial
  refine hread.bind fun v phy' _ => phyWrite_works ?_
  rw [pd_store_ctrl, BitVec.getLsbD_or, ctrlReset, BitVec.getLsbD_or, getLsbD_bit (k := 15) (by decide)]
  simp only [decide_true, Bool.or_true, Bool.not_true, Bool.and_false]

/-- A reset guarded by the power-down bit of the value `regData`. -/
theorem guardedReset_works (regData : BitVec 16) :
    Device.Works (if regData &&& ctrlPd = 0 then mediaPhySwReset else return) phy fun _ phy' =>
      phy'.Pd = (phy.Pd && regData.getLsbD 11) := by
  cases hbit : regData.getLsbD 11 with
  | false =>
      rw [if_pos (and_ctrlPd.mpr hbit)]
      exact swReset_works.mono fun _ _ h => by rw [h, Bool.and_false]
  | true =>
      rw [if_neg (mt and_ctrlPd.mp (by rw [hbit]; decide))]
      exact .pure (Bool.and_true _).symm

theorem autonegSet_works (enable : Bool) : Device.Works (cusfpPhyAutonegSet enable) phy fun _ phy' =>
    phy'.Pd = (phy.Pd && !phy.Bit ctrlReg 15) := by
  have hkept : ∀ k, k < 16 → k ≠ 12 → (if enable then phy.reg ctrlReg ||| ctrlAe
      else phy.reg ctrlReg &&& ~~~ctrlAe).getLsbD k = phy.Bit ctrlReg k := by
    intro k hk hne
    have hae : ctrlAe.getLsbD k = false := (getLsbD_bit hk).trans (decide_eq_false hne)
    split <;> simp only [BitVec.getLsbD_or, BitVec.getLsbD_and, BitVec.getLsbD_not, hae, hk, decide_true,
      Bool.or_false, Bool.not_false, Bool.and_true, Bit]
  refine phyRead_works ?_
  dsimp only
  generalize (if enable then phy.reg ctrlReg ||| ctrlAe else phy.reg ctrlReg &&& ~~~ctrlAe) = v at hkept ⊢
  have hpd : (phy.store ctrlReg v).Pd = (phy.Pd && !phy.Bit ctrlReg 15) := by
    rw [pd_store_ctrl, hkept 11 (by decide) (by decide), hkept 15 (by decide) (by decide), Pd]
  refine phyWrite_then_works ((guardedReset_works v).mono fun _ phy' hpd' => ?_)
  rw [hpd', hpd, hkept 11 (by decide) (by decide), ← Pd]
  cases phy.Pd <;> simp

theorem modeSet_works (mode : MediaMode) : Device.Works (cusfpPhyModeSet mode) phy fun _ phy' =>
    phy'.Pd = (phy.Pd && (decide (mode ≠ .sgmii) && phy.Bit extStatus2Reg 11)) := by
  have hbit : (if mode = .sgmii then sgmiiMode else phy.reg extStatus2Reg).getLsbD 11 =
      (decide (mode ≠ .sgmii) && phy.Bit extStatus2Reg 11) := by
    by_cases h : mode = .sgmii
    · simp only [h, ↓reduceIte, ne_eq, not_true_eq_false, decide_false, Bool.false_and]
      decide
    · simp only [h, ↓reduceIte, ne_eq, not_false_eq_true, decide_true, Bool.true_and, Bit]
  rw [← hbit]
  refine phyRead_works (phyWrite_then_works ((guardedReset_works _).mono fun _ phy' hpd => ?_))
  rw [hpd, pd_store_other (by decide)]

theorem speedSet_works (speed : MediaSpeed) : Device.Works (cusfpPhySpeedSet speed) phy fun _ phy' =>
    phy'.Pd = phy.Pd := by
  refine phyRead_works (phyWrite_then_works (phyRead_works (phyWrite_works ?_)))
  rw [pd_store_other (by decide), pd_store_other (by decide)]

theorem clearMacIntPd_works (st : BitVec 16) : Device.Works (clearMacIntPd st) phy fun _ phy' =>
    phy'.Pd = (phy.Pd && !st.getLsbD 3) := by
  have hmask : st &&& phyCtrlMacIntPd = 0 ↔ st.getLsbD 3 = false := and_bit_eq_zero (by decide)
  rw [clearMacIntPd]
  cases hbit : st.getLsbD 3 with
  | false =>
      rw [if_neg (not_not.mpr (hmask.mpr hbit))]
      exact .pure (Bool.and_true _).symm
  | true =>
      rw [if_pos (mt hmask.mp (by rw [hbit]; decide))]
      refine phyWrite_then_works ((Device.Works.attempt (S := fun _ phy' => phy'.Pd = false) swReset_works).bind ?_)
      exact fun _ _ h => .pure (by rw [h, Bool.not_true, Bool.and_false])

/-- `regData` was read before the reset of `clearMacIntPd`. -/
theorem writePowerDown_works (regData : BitVec 16) (enable : Bool) :
    Device.Works (writePowerDown regData enable) phy fun _ phy' =>
      phy'.Pd = (bif enable == regData.getLsbD 11 then phy.Pd else enable && !regData.getLsbD 15) := by
  have hpd : ctrlPd.getLsbD 11 = true := getLsbD_bit (by decide)
  have hreset : ctrlPd.getLsbD 15 = false := getLsbD_bit (by decide)
  rw [writePowerDown]
  cases enable with
  | true =>
      cases hbit : regData.getLsbD 11 with
      | true =>
          rw [if_pos rfl, if_pos (mt and_ctrlPd.mp (by rw [hbit]; decide))]
          exact .pure rfl
      | false =>
          rw [if_pos rfl, if_neg (not_not.mpr (and_ctrlPd.mpr hbit))]
          refine phyWrite_works ?_
          simp only [pd_store_ctrl, BitVec.getLsbD_or, hpd, hreset, Bool.or_true, Bool.or_false]
          rfl
  | false =>
      cases hbit : regData.getLsbD 11 with
      | false =>
          rw [if_neg Bool.false_ne_true, if_pos (and_ctrlPd.mpr hbit)]
          exact .pure rfl
      | true =>
          rw [if_neg Bool.false_ne_true, if_neg (mt and_ctrlPd.mp (by rw [hbit]; decide))]
          refine phyWrite_works ?_
          simp only [pd_store_ctrl, BitVec.getLsbD_and, BitVec.getLsbD_not, hpd, Bool.not_true, Bool.and_false,
            Bool.false_and]
          rfl

theorem powerDownEnable_works (enable : Bool) : Device.Works (cusfpPhyPowerDownEnable enable) phy fun _ phy' =>
    phy'.Pd = (enable && bif phy.Pd then !phy.Bit phyCtrlReg 3 else !phy.Bit ctrlReg 15) := by
  refine phyRead_works (phyRead_works ((clearMacIntPd_works _).bind fun _ phy' hpd => ?_))
  refine (writePowerDown_works _ enable).mono fun _ phy'' hpd' => ?_
  rw [hpd', hpd]
  change (bif enable == phy.Pd then phy.Pd && !phy.Bit phyCtrlReg 3 else enable && !phy.Bit ctrlReg 15) = _
  cases enable <;> cases phy.Pd <;> rfl

/-! ## Runs -/

inductive PhyOp
  | powerDownEnable (enable : Bool)
  | autonegSet (enable : Bool)
  | modeSet (mode : MediaMode)
  | speedSet (speed : MediaSpeed)
  deriving DecidableEq, Repr

namespace PhyOp

def call : PhyOp → PhyM Unit
  | powerDownEnable enable => cusfpPhyPowerDownEnable enable
  | autonegSet enable => cusfpPhyAutonegSet enable
  | modeSet mode => cusfpPhyModeSet mode
  | speedSet speed => cusfpPhySpeedSet speed

/-- What the power-down bit shall be after the call. -/
def wanted (phy : Phy) : PhyOp → Bool
  | powerDownEnable enable => enable
  | _ => phy.Pd

/-- The registers on which the call does what is wanted. -/
def Keeps (phy : Phy) : PhyOp → Prop
  | powerDownEnable enable => enable = true →
      (phy.Pd = true → phy.Bit phyCtrlReg 3 = false) ∧ (phy.Pd = false → phy.Bit ctrlReg 15 = false)
  | autonegSet _ => phy.Pd = true → phy.Bit ctrlReg 15 = false
  | modeSet mode => phy.Pd = true → mode ≠ .sgmii ∧ phy.Bit extStatus2Reg 11 = true
  | speedSet _ => True

end PhyOp

abbrev PhyDevice := Device Empty Errno Phy

def PhyDevice.step (d : PhyDevice) (op : PhyOp) : PhyDevice := (op.call.out d).2

/-- No transaction on the PHY fails. -/
def PhyDevice.start (phy : Phy) : PhyDevice := ⟨nofun, fun _ => none, 0, phy⟩

/-- The call returns `STD_ERR_OK` and leaves the power-down bit as it shall be. -/
def Sticks (d : PhyDevice) (op : PhyOp) : Prop :=
  (op.call.out d).1 = .ok () ∧ (d.step op).hw.Pd = op.wanted d.hw

theorem call_sticks_iff (phy : Phy) (op : PhyOp) : ∃ pd, Device.Works op.call phy (fun _ phy' => phy'.Pd = pd) ∧
    (pd = op.wanted phy ↔ op.Keeps phy) := by
  cases op with
  | powerDownEnable enable =>
      refine ⟨_, powerDownEnable_works enable, ?_⟩
      simp only [PhyOp.wanted, PhyOp.Keeps]
      cases enable <;> cases phy.Pd <;> simp
  | autonegSet enable =>
      refine ⟨_, autonegSet_works enable, ?_⟩
      simp only [PhyOp.wanted, PhyOp.Keeps]
      cases phy.Pd <;> simp
  | modeSet mode =>
      refine ⟨_, modeSet_works mode, ?_⟩
      simp only [PhyOp.wanted, PhyOp.Keeps]
      cases phy.Pd <;> simp
  | speedSet speed => exact ⟨_, speedSet_works speed, iff_of_true rfl trivial⟩

theorem step_sticks_iff {d : PhyDevice} (hd : d.Quiet) (op : PhyOp) :
    (d.step op).Quiet ∧ (Sticks d op ↔ op.Keeps d.hw) := by
  obtain ⟨pd, hworks, hiff⟩ := call_sticks_iff d.hw op
  obtain ⟨⟨⟩, d', hout, hd', hpd⟩ := hworks d hd rfl
  have hstep : d.step op = d' := congrArg Prod.snd hout
  rw [hstep, ← hiff, Sticks, hstep, hpd, hout]
  exact ⟨hd', and_iff_right rfl⟩

/-- Along a run of error-free calls, power-down is sticky iff each call finds registers on which it keeps
the power-down bit. -/
theorem powerDown_sticky_iff (phy : Phy) (ops : List PhyOp) :
    Along PhyDevice.step Sticks (.start phy) ops ↔
      Along PhyDevice.step (fun d op => op.Keeps d.hw) (.start phy) ops :=
  along_congr (I := Device.Quiet) (fun _ op hd => (step_sticks_iff hd op).2)
    (fun _ op hd _ => (step_sticks_iff hd op).1) fun _ _ => rfl

/-- A powered-down PHY comes up when its mode is set to SGMII. -/
theorem modeSet_powers_up :
    ¬Along PhyDevice.step Sticks (.start ⟨fun _ => 0, false⟩) [.powerDownEnable true, .modeSet .sgmii] :=
  fun h => absurd h.2.1.2 (by decide)

end OpxSdi.Media
