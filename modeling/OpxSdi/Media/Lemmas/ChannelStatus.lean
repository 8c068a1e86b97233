import OpxSdi.Lib.WriteLog
import OpxSdi.Media.ChannelStatus
import OpxSdi.Media.Lemmas.TxControl

/-!
# When the status of a channel returns

The flags that have pins are read one after another. What is made of the values is a fold over the flags.
-/

namespace OpxSdi.Media

open Lib Device

variable {d d' : State}

/-! ## Reading pins -/

/-- The pin groups can be taken and read, one after another. -/
def State.PinsAt (d : State) (gs : List PinGroup) : Prop :=
  d.Clear (2 * gs.length) ∧ ∀ g ∈ gs, d.held g = false

theorem State.pinsAt_nil : d.PinsAt [] := ⟨d.clear_zero, fun _ hg => absurd hg List.not_mem_nil⟩

theorem State.pinsAt_cons {g : PinGroup} {gs : List PinGroup} : d.PinsAt (g :: gs) ↔
    (d.AcquiresAt g ∧ d.fault (d.time + 1) = none) ∧ (d.pinRead g).PinsAt gs := by
  have hheld : d.held g = false → ((∀ g' ∈ gs, (d.pinRead g).held g' = false) ↔
    ∀ g' ∈ gs, d.held g' = false) := by
    intro hfree
    refine forall₂_congr fun g' _ => ?_
    by_cases hg : g' = g
    · subst hg
      exact iff_of_true (Function.update_self ..) hfree
    · change Function.update (Function.update d.held g true) g false g' = false ↔ _
      rw [Function.update_of_ne hg, Function.update_of_ne hg]
  have hclear : d.Clear (2 * (g :: gs).length) ↔
      (d.fault d.time = none ∧ d.fault (d.time + 1) = none) ∧ (d.pinRead g).Clear (2 * gs.length) := by
    rw [List.length_cons, show 2 * (gs.length + 1) = 2 + 2 * gs.length by omega, ← clear_two]
    exact @clear_add _ _ _ d 2 (2 * gs.length) d.hw
  rw [PinsAt, PinsAt, hclear, List.forall_mem_cons, AcquiresAt]
  constructor
  · rintro ⟨⟨⟨hfault, hfault'⟩, hrest⟩, hfree, hfrees⟩
    exact ⟨⟨⟨hfault, hfree⟩, hfault'⟩, hrest, (hheld hfree).mpr hfrees⟩
  · rintro ⟨⟨⟨hfault, hfree⟩, hfault'⟩, hrest, hfrees⟩
    exact ⟨⟨⟨hfault, hfault'⟩, hrest⟩, hfree, (hheld hfree).mp hfrees⟩

namespace SfpCage

open Sfp

variable {s : SfpCage} {flags : BitVec 32} {bufSup bufData : Byte} {fs : List StatusFlag}

/-! ## One flag after another -/

/-- The flag is asked for, and it has a pin. -/
def Pinned (s : SfpCage) (flags : BitVec 32) (f : StatusFlag) : Prop :=
  flags.getLsbD f.bit = true ∧ s.hdl f = true

instance (s : SfpCage) (flags : BitVec 32) (f : StatusFlag) : Decidable (s.Pinned flags f) :=
  inferInstanceAs (Decidable (_ ∧ _))

/-- The flag is asked for, it has no pin, and the module does not support it. -/
def Unsupported (s : SfpCage) (flags : BitVec 32) (bufSup : Byte) (f : StatusFlag) : Prop :=
  flags.getLsbD f.bit = true ∧ s.hdl f = false ∧ bufSup.getLsbD f.supportBit = false

instance (s : SfpCage) (flags : BitVec 32) (bufSup : Byte) (f : StatusFlag) :
    Decidable (s.Unsupported flags bufSup f) := inferInstanceAs (Decidable (_ ∧ _ ∧ _))

/-- The flag is raised, by its pin or by the module. -/
def Raised (s : SfpCage) (pins : PinGroup → BitVec 32) (bufSup bufData : Byte) (f : StatusFlag) : Bool :=
  if s.hdl f then (pins f.pinGroup).getLsbD (s.bitmask f)
  else bufSup.getLsbD f.supportBit && bufData.getLsbD f.stateBit

def pinGroups (s : SfpCage) (flags : BitVec 32) (fs : List StatusFlag) : List PinGroup :=
  (fs.filter fun f => s.Pinned flags f).map StatusFlag.pinGroup

/-- The status and the return code after one flag. -/
def afterFlag (s : SfpCage) (flags : BitVec 32) (bufSup bufData : Byte) (pins : PinGroup → BitVec 32)
    (st : BitVec 32 × Except Errno Unit) (f : StatusFlag) : BitVec 32 × Except Errno Unit :=
  (mark st.1 f (flags.getLsbD f.bit && s.Raised pins bufSup bufData f),
    overwrite (fun f => decide (s.Pinned flags f)) (fun f =>
      decide (s.Unsupported flags bufSup f)) .eopnotsupp st.2 f)

theorem raised_of_no_pin {pins : PinGroup → BitVec 32} {f : StatusFlag} (h : s.hdl f = false) :
    s.Raised pins bufSup bufData f = (bufSup.getLsbD f.supportBit && bufData.getLsbD f.stateBit) := by
  rw [Raised, h]
  rfl

theorem ok_flagStatus_pinned {st st' : BitVec 32 × Except Errno Unit} {f : StatusFlag}
    (h : s.Pinned flags f) :
    Ok (s.flagStatus flags bufSup bufData st f) d st' d' ↔
      (d.AcquiresAt f.pinGroup ∧ d.fault (d.time + 1) = none) ∧
      st' = s.afterFlag flags bufSup bufData d.hw.pins st f ∧ d' = d.pinRead f.pinGroup := by
  have hafter : s.afterFlag flags bufSup bufData d.hw.pins st f =
      (mark st.1 f ((d.hw.pins f.pinGroup).getLsbD (s.bitmask f)), .ok ()) := by
    rw [afterFlag, overwrite, if_pos (decide_eq_true h), Raised, h.1, h.2, if_pos rfl, Bool.true_and]
  rw [flagStatus, if_neg (by rw [h.1]; decide), if_neg (by rw [h.2]; decide), hafter]
  simp only [ok_bind, ok_readPinGroup, ok_pure, and_assoc, exists_and_left, exists_eq_left]

theorem ok_flagStatus {st st' : BitVec 32 × Except Errno Unit} {f : StatusFlag} (h : ¬s.Pinned flags f) :
    Ok (s.flagStatus flags bufSup bufData st f) d st' d' ↔
      st' = s.afterFlag flags bufSup bufData d.hw.pins st f ∧ d' = d := by
  have hpinned : ¬decide (s.Pinned flags f) = true := by simpa using h
  rw [flagStatus, afterFlag, overwrite, if_neg hpinned]
  cases hasked : flags.getLsbD f.bit with
  | false =>
      have hsupported : ¬decide (s.Unsupported flags bufSup f) = true := by simp [Unsupported, hasked]
      rw [if_pos rfl, if_neg hsupported]
      exact ok_pure
  | true =>
      have hhdl : s.hdl f = false := Bool.of_not_eq_true fun hhdl => h ⟨hasked, hhdl⟩
      rw [if_neg (by decide), if_pos hhdl, raised_of_no_pin hhdl, Bool.true_and]
      cases hsup : bufSup.getLsbD f.supportBit with
      | true =>
          have hsupported : ¬decide (s.Unsupported flags bufSup f) = true := by simp [Unsupported, hsup]
          rw [if_pos rfl, if_neg hsupported, Bool.true_and]
          exact ok_pure
      | false =>
          rw [if_neg (by decide), if_pos (decide_eq_true ⟨hasked, hhdl, hsup⟩), Bool.false_and]
          exact ok_pure

theorem pinGroups_cons {f : StatusFlag} : s.pinGroups flags (f :: fs) =
    if s.Pinned flags f then f.pinGroup :: s.pinGroups flags fs else s.pinGroups flags fs := by
  rw [pinGroups, List.filter_cons]
  by_cases h : s.Pinned flags f <;> simp only [h, decide_true, decide_false, ↓reduceIte] <;> rfl

/-- The flags are read iff their pins can be, and what is made of them is a fold. -/
theorem answers_flagStatuses {st st' : BitVec 32 × Except Errno Unit} :
    Answers (s.flagStatuses flags bufSup bufData fs st) d st' ↔
      d.PinsAt (s.pinGroups flags fs) ∧ st' = fs.foldl (s.afterFlag flags bufSup bufData d.hw.pins) st := by
  induction fs generalizing d st with
  | nil => exact answers_pure.trans (and_iff_right State.pinsAt_nil).symm
  | cons f fs ih =>
      rw [flagStatuses, List.foldl_cons, pinGroups_cons, answers_bind]
      by_cases hpinned : s.Pinned flags f
      · rw [if_pos hpinned, State.pinsAt_cons]
        simp only [ok_flagStatus_pinned hpinned, ih, and_assoc, exists_and_left, exists_eq_left]
        exact Iff.rfl
      · rw [if_neg hpinned]
        simp only [ok_flagStatus hpinned, ih, and_assoc, exists_and_left, exists_eq_left]

/-! ## What is made of the flags -/

theorem getLsbD_mark {status : BitVec 32} {f : StatusFlag} {value : Bool} {i : Nat} :
    (mark status f value).getLsbD i = true ↔ status.getLsbD i = true ∨ f.bit = i ∧ value = true := by
  have hbit : f.bit < 32 := by cases f <;> decide
  rw [mark]
  cases value with
  | true => simp only [↓reduceIte, Flags.getLsbD_or_one_shiftLeft hbit, and_true]
  | false => simp only [Bool.false_eq_true, ↓reduceIte, and_false, or_false]

variable {pins : PinGroup → BitVec 32} {st : BitVec 32 × Except Errno Unit}

theorem getLsbD_afterFlags {i : Nat} : (fs.foldl
    (s.afterFlag flags bufSup bufData pins) st).1.getLsbD i = true ↔
    st.1.getLsbD i = true ∨
      ∃ f ∈ fs, f.bit = i ∧ flags.getLsbD f.bit = true ∧ s.Raised pins bufSup bufData f = true := by
  induction fs generalizing st with
  | nil => exact (or_iff_left fun ⟨f, hf, _⟩ => List.not_mem_nil hf).symm
  | cons f fs ih =>
      rw [List.foldl_cons, ih, afterFlag, getLsbD_mark, Bool.and_eq_true, or_assoc]
      simp only [List.mem_cons, or_and_right, exists_or, exists_eq_left]

theorem afterFlags_rc : (fs.foldl (s.afterFlag flags bufSup bufData pins) st).2 = fs.foldl
    (overwrite (fun f => decide (s.Pinned flags f)) (fun f =>
    decide (s.Unsupported flags bufSup f)) .eopnotsupp)
    st.2 := by
  induction fs generalizing st with
  | nil => rfl
  | cons f fs ih => exact ih

/-! ## The options and the states -/

/-- The options and the states, as the driver has them. -/
def states (s : SfpCage) (slaves : BitVec 16 → Eeprom) : Byte × Byte :=
  (s.options slaves, if s.options slaves = 0 then 0 else control slaves)

def stateReads (s : SfpCage) (slaves : BitVec 16 → Eeprom) : Nat := if s.options slaves = 0 then 1 else 2

theorem ok_readStates {r : Byte × Byte} : Ok s.readStates d r d' ↔
    d.Clear (s.stateReads d.hw.slaves) ∧ r = s.states d.hw.slaves ∧
      d' = d.passed (s.stateReads d.hw.slaves) d.hw.slaves := by
  rw [readStates, ok_smbusReadByte_bind, ← options, stateReads, states]
  by_cases hzero : s.options d.hw.slaves = 0
  · simp only [hzero, ↓reduceIte, clear_one, ok_pure]
  · rw [if_neg hzero, if_neg hzero, if_neg hzero, ok_smbusReadByte_bind, clear_two, passed_passed,
      ok_pure, and_assoc]
    exact Iff.rfl

end SfpCage

end OpxSdi.Media
