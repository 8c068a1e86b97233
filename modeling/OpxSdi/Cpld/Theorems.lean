import OpxSdi.Cpld.Lemmas.Register

/-!
# What a pin group write does to its registers

The writer advances its value by whole bytes although the first register takes fewer bits, and puts the
value into a register without masking it. These are the values that survive the first and the writes
that do no harm by the second.
-/

namespace OpxSdi.Cpld

open Lib

/-! ## Writing and reading back -/

def PinGroup.width (g : PinGroup) : Nat := 8 * (g.length - 1) + g.endOffset.val + 1 - g.startOffset.val

/-- The low bits that a group of several registers gives back whatever else is written. -/
def PinGroup.keptWidth (g : PinGroup) : Nat :=
  match g.defaultPolarity with
  | .normal => 8 - g.startOffset.val
  | .inverted => 8 - 2 * g.startOffset.val

theorem PinGroup.keptWidth_normal {g : PinGroup} (h : g.defaultPolarity = .normal) :
    g.keptWidth = 8 - g.startOffset.val := by
  simp only [keptWidth, h]

theorem PinGroup.keptWidth_inverted {g : PinGroup} (h : g.defaultPolarity = .inverted) :
    g.keptWidth = 8 - 2 * g.startOffset.val := by
  simp only [keptWidth, h]

def readBack (g : PinGroup) (b : RegBus (BitVec 32) Errno) (v : BitVec 32) :
    Except (Stop Errno) (BitVec 32) :=
  ((pinGroupReadLevel g).out ((pinGroupWriteLevel g v).out b).2).1

section ReadBack

variable {g : PinGroup} {b : RegBus (BitVec 32) Errno} {v : BitVec 32}

/-- Without bus errors the reader finds in each register what the writer has made of it. -/
theorem readBack_eq (hlen : g.length ≤ 2 ^ 32) (hq : ∀ t, b.fault t = none) {w : Nat → Byte → Byte}
    (hw : ∀ i < g.length, ∀ old, writeRegister g (g.length - i) (levelByte v i) old = some (w i old)) :
    ∃ bytes : Nat → Byte, (∀ i < g.length, bytes i = w i (b.regs (regAddr g i))) ∧
      readBack g b v = (readBytes g bytes g.length 0 0).elim (.error .undefined) .ok := by
  obtain ⟨m, -, hm, -, -, hmod⟩ := RegBus.modifyEach_spec (regAddr g) (b := b) (g := w) g.length
    (k := 0) (fun i _ hi old => hw i (by omega) old) (fun i j _ hij hj => regAddr_ne hij (by omega))
  obtain rfl := hm.mpr fun t _ => hq (b.time + t)
  rw [← writeLevel_eq] at hmod
  refine ⟨fun i => ((pinGroupWriteLevel g v).out b).2.regs (regAddr g i), fun i hi => ?_, ?_⟩
  · exact hmod.inside i (Nat.zero_le i) (by omega)
  · have hread := readLoop_quiet (g := g) (b := ((pinGroupWriteLevel g v).out b).2)
      (fun t => by rw [hmod.fault]; exact hq t) g.length 0 0
    rwa [regAddr_zero] at hread

theorem readBack_single (h1 : g.length = 1) (hoff : g.startOffset ≤ g.endOffset)
    (hq : ∀ t, b.fault t = none) (hv : v.toNat < 2 ^ g.width) : readBack g b v = .ok v := by
  have hle : g.startOffset.val ≤ g.endOffset.val + 1 := Nat.le_succ_of_le hoff
  have heo := g.endOffset.isLt
  obtain ⟨bytes, hbytes, hread⟩ := readBack_eq (g := g) (b := b) (v := v)
    (w := fun i old => writeSingle g (levelByte v i) old) (by omega) hq fun i hi old => by
      rw [show g.length - i = 1 by omega]
      exact writeRegister_single h1 (.inr hle) _ old
  rw [hread, show readBytes g bytes g.length 0 0 = readBytes g bytes 1 0 0 by rw [h1], readBytes,
    readRegister_single h1 hle, hbytes 0 (by omega)]
  refine congrArg Except.ok (BitVec.eq_of_getLsbD_eq fun i hi => ?_)
  have hwidth : g.width = g.endOffset.val + 1 - g.startOffset.val := by
    simp only [PinGroup.width, h1]; omega
  rw [toNat_lt_iff, hwidth] at hv
  rw [BitVec.getLsbD_setWidth, decide_eq_true hi, Bool.true_and]
  rcases Nat.lt_or_ge i 8 with hlt | hge
  · rw [getLsbD_readSingle_writeSingle hoff hlt, getLsbD_levelByte _ _ hlt, Nat.mul_zero, Nat.zero_add]
    rcases Nat.lt_or_ge i (g.endOffset.val + 1 - g.startOffset.val) with h | h
    · simp [h]
    · simp [hv i h]
  · rw [BitVec.getLsbD_of_ge _ _ hge, hv i (by omega)]

theorem readBack_several (h2 : 2 ≤ g.length) (h4 : g.length ≤ 4) (hq : ∀ t, b.fault t = none)
    (hv : v.toNat < 2 ^ g.width) :
    ∃ r : BitVec 32, readBack g b v = .ok r ∧ ∀ i, r.getLsbD i =
      if g.startOffset.val + i < 8 then
        (v.getLsbD i && (decide (g.defaultPolarity = .normal) ||
          decide (g.startOffset.val + i < 8 - g.startOffset.val)))
      else v.getLsbD (g.startOffset.val + i) := by
  have h1 : g.length ≠ 1 := by omega
  obtain ⟨bytes, hbytes, hread⟩ := readBack_eq (g := g) (b := b) (v := v)
    (w := fun i old => writeData g i (levelByte v i) old) (by omega) hq
    fun i hi old => writeRegister_eq h1 hi _ old
  rw [readBytes_several bytes h2] at hread
  refine ⟨_, hread, fun i => ?_⟩
  rw [toNat_lt_iff, PinGroup.width] at hv
  rw [BitVec.getLsbD_ushiftRight, getLsbD_assemble]
  split
  · rename_i hfirst
    rw [Nat.div_eq_of_lt hfirst, Nat.mod_eq_of_lt hfirst, hbytes 0 (by omega),
      getLsbD_readData_writeData_first h1 (by omega) hfirst, getLsbD_levelByte _ _ (by omega)]
    simp [show g.startOffset.val + i < 32 by omega, show g.startOffset.val + i < 8 * g.length by omega]
  · rename_i hlater
    rcases Nat.lt_or_ge (g.startOffset.val + i) (8 * g.length) with hin | hout
    · have hmod : (g.startOffset.val + i) % 8 < 8 := Nat.mod_lt _ (by decide)
      have hsplit : 8 * ((g.startOffset.val + i) / 8) + (g.startOffset.val + i) % 8 = g.startOffset.val + i :=
        Nat.div_add_mod _ 8
      rw [hbytes _ (by omega), getLsbD_readData_writeData (by omega) hmod, getLsbD_levelByte _ _ hmod, hsplit]
      by_cases hend : (g.startOffset.val + i) / 8 + 1 = g.length ∧
          g.endOffset.val < (g.startOffset.val + i) % 8
      · rw [hv (g.startOffset.val + i) (by omega)]
        simp
      · simp only [show g.startOffset.val + i < 32 by omega, hin, decide_true, Bool.true_and]
        rcases Classical.not_and_iff_not_or_not.mp hend with h | h
        · simp [h]
        · simp [Nat.not_lt.mp h]
    · have hlen : 8 * (g.length - 1) + g.endOffset.val + 1 - g.startOffset.val ≤ g.startOffset.val + i := by
        have := g.endOffset.isLt
        omega
      rw [hv _ hlen]
      simp [Nat.not_lt.mpr hout]

/-- Several registers give a value back iff the group begins with a register, or the value fits in the
bits that the first register gives back. -/
theorem readBack_several_iff (h2 : 2 ≤ g.length) (h4 : g.length ≤ 4) (hq : ∀ t, b.fault t = none)
    (hv : v.toNat < 2 ^ g.width) :
    readBack g b v = .ok v ↔ g.startOffset.val = 0 ∨ v.toNat < 2 ^ g.keptWidth := by
  obtain ⟨r, hr, hbits⟩ := readBack_several h2 h4 hq hv
  have hso := g.startOffset.isLt
  rw [hr, Except.ok.injEq]
  constructor
  · intro hrv
    rw [hrv] at hbits
    refine (Nat.eq_zero_or_pos g.startOffset.val).imp_right fun hpos => ?_
    have hperiod : v.toNat < 2 ^ (8 - g.startOffset.val) := toNat_lt_of_period v hpos fun i hi => by
      rw [hbits i, if_neg (by omega), Nat.add_comm]
    cases hpol : g.defaultPolarity with
    | normal => rwa [PinGroup.keptWidth_normal hpol]
    | inverted =>
        rw [PinGroup.keptWidth_inverted hpol]
        rw [toNat_lt_iff] at hperiod ⊢
        intro i hi
        rcases Nat.lt_or_ge i (8 - g.startOffset.val) with hlt | hge
        · rw [hbits i, if_pos (by omega), hpol]
          simp [show ¬ g.startOffset.val + i < 8 - g.startOffset.val by omega]
        · exact hperiod i hge
  · intro hkept
    refine BitVec.eq_of_getLsbD_eq fun i _ => ?_
    rw [hbits i]
    rcases hkept with hzero | hlt
    · rw [hzero, Nat.zero_add]
      split
      · rename_i hi
        simp [hi]
      · rfl
    · rw [toNat_lt_iff] at hlt
      split
      · rename_i hi
        cases hpol : g.defaultPolarity with
        | normal => simp
        | inverted =>
            rw [PinGroup.keptWidth_inverted hpol] at hlt
            rcases Nat.lt_or_ge (g.startOffset.val + i) (8 - g.startOffset.val) with h | h
            · simp [h]
            · rw [hlt i (by omega)]
              rfl
      · have hle : g.keptWidth ≤ 8 - g.startOffset.val := by
          unfold PinGroup.keptWidth
          split <;> omega
        rw [hlt (g.startOffset.val + i) (by omega), hlt i (by omega)]

/-- Reading undoes writing iff the group has one register or begins with a whole one, or the value fits
in the bits that the first register gives back. -/
theorem read_write_iff (hlen : 1 ≤ g.length) (h4 : g.length ≤ 4)
    (hoff : g.length = 1 → g.startOffset ≤ g.endOffset) (hq : ∀ t, b.fault t = none)
    (hv : v.toNat < 2 ^ g.width) :
    readBack g b v = .ok v ↔ g.length = 1 ∨ g.startOffset.val = 0 ∨ v.toNat < 2 ^ g.keptWidth := by
  by_cases h1 : g.length = 1
  · exact ⟨fun _ => .inl h1, fun _ => readBack_single h1 (hoff h1) hq hv⟩
  · rw [readBack_several_iff (by omega) h4 hq hv]
    exact ⟨.inr, fun h => h.resolve_left h1⟩

end ReadBack

/-- Eight bits, the low four in the upper half of one register and the others in the lower half of the
next. -/
def splitGroup : PinGroup := driverRegister 0x10 (some 0x11) 4 3 .normal

def clearBus : RegBus (BitVec 32) Errno := ⟨fun _ => 0, fun _ => none, 0⟩

theorem splitGroup_loses_bits : (0xab : BitVec 32).toNat < 2 ^ splitGroup.width ∧
    readBack splitGroup clearBus 0xab = .ok 0x0b ∧ readBack splitGroup clearBus 0xab ≠ .ok 0xab := by
  have hread : readBack splitGroup clearBus 0xab = .ok 0x0b := by rfl
  refine ⟨by decide, hread, ?_⟩
  rw [hread, ne_eq, Except.ok.injEq]
  decide

theorem splitGroup_keeps_nibble : readBack splitGroup clearBus 0x0b = .ok 0x0b :=
  (read_write_iff (by decide) (by decide) (by decide) (fun _ => rfl) (by decide)).mpr
    (.inr (.inr (by decide)))

/-! ## The bits around a group -/

/-- Registers outside the range and bits outside the offsets hold what they held. -/
structure FrameKept (g : RegisteredGroup) (regs regs' : BitVec 32 → Byte) : Prop where
  outside : ∀ a, ¬ g.Inside a → regs' a = regs a
  below : ∀ j < g.startOffset.val, (regs' g.startAddr).getLsbD j = (regs g.startAddr).getLsbD j
  above : ∀ j > g.endOffset.val, (regs' g.endAddr).getLsbD j = (regs g.endAddr).getLsbD j

/-- A write whose shifts are defined keeps the frame, whether or not it stops at a bus error. -/
def WriteKeepsFrame (g : RegisteredGroup) (b : RegBus (BitVec 32) Errno) (v : BitVec 32) : Prop :=
  ((pinGroupWriteLevel g.toPinGroup v).out b).1 ≠ .error .undefined ∧
    FrameKept g b.regs ((pinGroupWriteLevel g.toPinGroup v).out b).2.regs

def topBits (g : PinGroup) (v : BitVec 32) : Byte :=
  if g.length = 1 then levelByte v 0 <<< g.startOffset.val else levelByte v (g.length - 1)

/-- The mask of an inverted group of one register is a shift by a negative count. -/
def MaskUndefined (g : PinGroup) : Prop :=
  g.length = 1 ∧ g.defaultPolarity = .inverted ∧ g.endOffset.val + 1 < g.startOffset.val

section Frame

variable {g : RegisteredGroup} {b b' : RegBus (BitVec 32) Errno} {v : BitVec 32}

/-- What is left to check when the first `m` registers have been modified: the last of them. -/
theorem frameKept_iff {w : Nat → Byte → Byte} {m : Nat} (hm : m ≤ g.length)
    (hmod : RegBus.Modified (regAddr g.toPinGroup) w 0 m b b')
    (hlow : ∀ old, ∀ j < g.startOffset.val, (w 0 old).getLsbD j = old.getLsbD j) :
    FrameKept g b.regs b'.regs ↔ m < g.length ∨ ∀ j > g.endOffset.val,
      (w (g.length - 1) (b.regs g.endAddr)).getLsbD j = (b.regs g.endAddr).getLsbD j := by
  have hpos := g.length_pos
  have hlt : g.length ≤ 2 ^ 32 := by
    rw [g.length_eq]
    exact Nat.le_of_lt (BitVec.isLt _)
  have hlast := g.regAddr_last
  have hfirst : regAddr g.toPinGroup 0 = g.startAddr := regAddr_zero
  constructor
  · intro h
    rcases Nat.lt_or_ge m g.length with hmlt | hmge
    · exact .inl hmlt
    · refine .inr fun j hj => ?_
      have hin := hmod.inside (g.length - 1) (Nat.zero_le _) (by omega)
      rw [hlast] at hin
      rw [← hin]
      exact h.above j hj
  · intro h
    refine ⟨fun a ha => ?_, fun j hj => ?_, fun j hj => ?_⟩
    · refine hmod.outside a fun i _ hi hai => ha ?_
      rw [hai]
      exact g.regAddr_inside (by omega)
    · rcases Nat.eq_zero_or_pos m with rfl | hmpos
      · rw [hmod.outside _ fun i _ hi => by omega]
      · have hin := hmod.inside 0 (Nat.le_refl 0) (by omega)
        rw [hfirst] at hin
        rw [hin]
        exact hlow _ j hj
    · rcases Nat.lt_or_ge m g.length with hmlt | hmge
      · rw [hmod.outside g.endAddr fun i _ hi => ?_]
        rw [← hlast]
        exact (regAddr_ne (by omega) (by omega)).symm
      · have hin := hmod.inside (g.length - 1) (Nat.zero_le _) (by omega)
        rw [hlast] at hin
        rw [hin]
        exact h.resolve_left (by omega) j hj

/-- A write keeps the frame iff it does not get to the last register, or does not put bits over it that
are not there already. -/
theorem keepsFrame_iff_of_writes {w : Nat → Byte → Byte}
    (hw : ∀ i < g.length, ∀ old,
      writeRegister g.toPinGroup (g.length - i) (levelByte v i) old = some (w i old))
    (hlow : ∀ old, ∀ j < g.startOffset.val, (w 0 old).getLsbD j = old.getLsbD j) :
    WriteKeepsFrame g b v ↔ ¬ b.Quiet (2 * g.length) ∨ ∀ j > g.endOffset.val,
      (w (g.length - 1) (b.regs g.endAddr)).getLsbD j = (b.regs g.endAddr).getLsbD j := by
  have hlt : g.length ≤ 2 ^ 32 := by
    rw [g.length_eq]
    exact Nat.le_of_lt (BitVec.isLt _)
  obtain ⟨m, hm, hquiet, -, hund, hmod⟩ := RegBus.modifyEach_spec (regAddr g.toPinGroup) (b := b)
    (g := w) g.length (k := 0) (fun i _ hi old => hw i (by omega) old)
    (fun i j _ hij hj => regAddr_ne hij (by omega))
  rw [← writeLevel_eq] at hund hmod
  rw [WriteKeepsFrame, frameKept_iff hm hmod hlow, ← hquiet]
  exact ⟨fun h => h.2.imp_left Nat.ne_of_lt, fun h => ⟨hund, h.imp_left fun hne => by omega⟩⟩

theorem or_and_eq_left_iff (old top p : Bool) :
    (old || (p && top)) = old ↔ p = false ∨ (top = true → old = true) := by
  cases old <;> cases top <;> cases p <;> decide

theorem above_iff {w : Byte} (hw : ∀ j > g.endOffset.val, w.getLsbD j =
      ((b.regs g.endAddr).getLsbD j ||
        (decide (g.defaultPolarity = .normal) && (topBits g.toPinGroup v).getLsbD j))) :
    (∀ j > g.endOffset.val, w.getLsbD j = (b.regs g.endAddr).getLsbD j) ↔
      g.defaultPolarity = .inverted ∨ ∀ j > g.endOffset.val,
        (topBits g.toPinGroup v).getLsbD j = true → (b.regs g.endAddr).getLsbD j = true := by
  have hiff (j : Nat) (hj : j > g.endOffset.val) := or_and_eq_left_iff ((b.regs g.endAddr).getLsbD j)
    ((topBits g.toPinGroup v).getLsbD j) (decide (g.defaultPolarity = .normal))
  cases hpol : g.defaultPolarity with
  | inverted =>
      refine ⟨fun _ => .inl rfl, fun _ j hj => ?_⟩
      rw [hw j hj, hiff j hj, hpol]
      exact .inl rfl
  | normal =>
      refine ⟨fun h => .inr fun j hj => ?_, fun h j hj => ?_⟩
      · have := h j hj
        rw [hw j hj, hiff j hj, hpol] at this
        exact this.resolve_left (by decide)
      · rw [hw j hj, hiff j hj]
        exact .inr (h.resolve_left (by decide) j hj)

/-- Without a mask the write either fails at its first read or is undefined. -/
theorem keepsFrame_undefined (hmask : MaskUndefined g.toPinGroup) :
    WriteKeepsFrame g b v ↔ b.fault b.time ≠ none := by
  obtain ⟨h1, hpol, hoff⟩ := hmask
  have hwrite (old : Byte) : writeRegister g.toPinGroup (g.length - 0) (levelByte v 0) old = none := by
    rw [Nat.sub_zero, h1]
    simp only [writeRegister, if_pos h1, hpol, toggleIfInverted_none hoff]
    rfl
  have hloop : pinGroupWriteLevel g.toPinGroup v = RegBus.modifyEach (regAddr g.toPinGroup)
      (fun i => writeRegister g.toPinGroup (g.length - i) (levelByte v i)) 1 0 := by
    rw [writeLevel_eq, h1]
  rw [WriteKeepsFrame, hloop, RegBus.modifyEach]
  cases hf : b.fault b.time with
  | none =>
      rw [Acts.out_bind_error (RegBus.modifyByte_undefined (hwrite _) hf)]
      exact ⟨fun h => absurd rfl h.1, fun h => absurd rfl h⟩
  | some e =>
      rw [Acts.out_bind_error (RegBus.modifyByte_read_fault hf)]
      refine ⟨fun _ h => (by cases h), fun _ => ⟨fun h => (by cases h), ?_, ?_, ?_⟩⟩
      · exact fun _ _ => rfl
      · exact fun _ _ => rfl
      · exact fun _ _ => rfl

/-- A write keeps the frame iff its mask is defined or not needed, and it stops before the last register,
or toggles (and so masks) the value, or finds set what the value has above the end offset. -/
theorem write_keepsFrame_iff (g : RegisteredGroup) (b : RegBus (BitVec 32) Errno) (v : BitVec 32) :
    WriteKeepsFrame g b v ↔
      (MaskUndefined g.toPinGroup → b.fault b.time ≠ none) ∧
        (¬ b.Quiet (2 * g.length) ∨ g.defaultPolarity = .inverted ∨ ∀ j > g.endOffset.val,
          (topBits g.toPinGroup v).getLsbD j = true → (b.regs g.endAddr).getLsbD j = true) := by
  by_cases hmask : MaskUndefined g.toPinGroup
  · rw [keepsFrame_undefined hmask]
    refine ⟨fun h => ⟨fun _ => h, .inl fun hq => h (hq 0 ?_)⟩, fun h => h.1 hmask⟩
    have := g.length_pos
    omega
  · have hdef : MaskUndefined g.toPinGroup → b.fault b.time ≠ none := fun h => absurd h hmask
    rw [and_iff_right hdef]
    by_cases h1 : g.length = 1
    · have hsingle : g.defaultPolarity = .normal ∨ g.startOffset.val ≤ g.endOffset.val + 1 := by
        cases hpol : g.defaultPolarity with
        | normal => exact .inl rfl
        | inverted => exact .inr (Nat.not_lt.mp fun h => hmask ⟨h1, hpol, h⟩)
      rw [keepsFrame_iff_of_writes (w := fun i old => writeSingle g.toPinGroup (levelByte v i) old)
        (fun i hi old => by
          rw [show g.length - i = 1 by omega]
          exact writeRegister_single h1 hsingle _ old)
        fun old j hj => writeSingle_below _ old hj]
      refine or_congr_right (above_iff fun j hj => ?_)
      rw [writeSingle_above _ _ hj, topBits, if_pos h1, h1]
    · have hpos := g.length_pos
      rw [keepsFrame_iff_of_writes (w := fun i old => writeData g.toPinGroup i (levelByte v i) old)
        (fun i hi old => writeRegister_eq h1 hi _ old) fun old j hj => writeData_below _ old hj]
      refine or_congr_right (above_iff fun j hj => ?_)
      rw [writeData_above (by omega) (by omega) _ _ hj, topBits, if_neg h1]

end Frame

def twoBitGroup : RegisteredGroup := .ofConfig 0x20 none 2 3 .normal (by decide)

theorem twoBitGroup_sets_neighbour :
    (((pinGroupWriteLevel twoBitGroup.toPinGroup 4).out clearBus).2.regs 0x20).getLsbD 4 = true ∧
      ¬ WriteKeepsFrame twoBitGroup clearBus 4 := by
  have hset :
      (((pinGroupWriteLevel twoBitGroup.toPinGroup 4).out clearBus).2.regs 0x20).getLsbD 4 = true := by
    rfl
  refine ⟨hset, fun h => ?_⟩
  have habove := h.2.above 4 (by decide)
  rw [show twoBitGroup.endAddr = 0x20 from rfl, hset] at habove
  exact absurd habove (by decide)

/-! ## Reading with either polarity

The reader toggles a register before it shifts it. The first register of several is masked with as many
bits as it holds of the group, counted from bit 0 instead of from the start offset.
-/

section

def PinGroup.withPolarity (g : PinGroup) (polarity : PinPolarity) : PinGroup :=
  { g with defaultPolarity := polarity }

def readLevel (g : PinGroup) (b : RegBus (BitVec 32) Errno) : Except (Stop Errno) (BitVec 32) :=
  ((pinGroupReadLevel g).out b).1

/-- Both polarities give a value, and the inverted one is the complement of the other within the width. -/
def PolaritiesComplement (g : PinGroup) (b : RegBus (BitVec 32) Errno) : Prop :=
  ∃ v, readLevel (g.withPolarity .normal) b = .ok v ∧
    readLevel (g.withPolarity .inverted) b = .ok (~~~v &&& BitVec.ofNat 32 (2 ^ g.width - 1))

variable {g : PinGroup} {b : RegBus (BitVec 32) Errno}

theorem readLevel_eq (hq : ∀ t, b.fault t = none) :
    readLevel g b = (readBytes g (fun i => b.regs (regAddr g i)) g.length 0 0).elim (.error .undefined) .ok := by
  have hread := readLoop_quiet (g := g) hq g.length 0 0
  rwa [regAddr_zero] at hread

/-! ### One register -/

theorem readSingle_complement (buffer : Byte) :
    (readSingle (g.withPolarity .inverted) buffer).setWidth 32 =
      ~~~(readSingle (g.withPolarity .normal) buffer).setWidth 32 &&&
        BitVec.ofNat 32 (2 ^ (g.endOffset.val + 1 - g.startOffset.val) - 1) := by
  have heo := g.endOffset.isLt
  refine BitVec.eq_of_getLsbD_eq fun i hi => ?_
  simp only [readSingle, PinGroup.withPolarity, toggled, BitVec.getLsbD_setWidth, BitVec.getLsbD_and,
    BitVec.getLsbD_not, getLsbD_lowMask, hi, decide_true, Bool.true_and]
  by_cases h8 : i < 8
  · by_cases hin : i < g.endOffset.val + 1 - g.startOffset.val
    · simp only [h8, hin, decide_true, Bool.and_true, Bool.true_and]
    · simp only [h8, hin, decide_true, decide_false, Bool.and_false, Bool.true_and]
  · have hout : ¬ i < g.endOffset.val + 1 - g.startOffset.val := by omega
    simp only [h8, hout, decide_false, Bool.and_false, Bool.false_and]

theorem polaritiesComplement_single (h1 : g.length = 1) (hq : ∀ t, b.fault t = none) :
    PolaritiesComplement g b ↔ g.startOffset.val ≤ g.endOffset.val + 1 := by
  have hwidth : g.width = g.endOffset.val + 1 - g.startOffset.val := by
    simp only [PinGroup.width, h1]; omega
  have hread (p : PinPolarity) : readLevel (g.withPolarity p) b =
      ((readRegister (g.withPolarity p) 1 (b.regs (regAddr g 0)) 0).bind some).elim (.error .undefined) .ok := by
    rw [readLevel_eq hq]
    change (readBytes (g.withPolarity p) _ g.length 0 0).elim _ _ = _
    rw [h1]
    rfl
  rw [PolaritiesComplement, hread, hread, hwidth]
  by_cases hoff : g.startOffset.val ≤ g.endOffset.val + 1
  · rw [readRegister_single (g := g.withPolarity .normal) h1 hoff,
      readRegister_single (g := g.withPolarity .inverted) h1 hoff, readSingle_complement]
    exact iff_of_true ⟨_, rfl, rfl⟩ hoff
  · refine iff_of_false ?_ hoff
    rintro ⟨v, hv, -⟩
    have hnone : readRegister (g.withPolarity .normal) 1 (b.regs (regAddr g 0)) 0 = none := by
      simp only [readRegister, PinGroup.withPolarity, h1, ↓reduceIte, cpldBitMask, bitMask, if_neg hoff,
        Option.map_none, Option.bind_eq_bind, Option.bind_none]
    rw [hnone] at hv
    cases hv

/-! ### Several registers -/

theorem readData_withPolarity (polarity : PinPolarity) (i : Nat) (buffer : Byte) :
    readData (g.withPolarity polarity) i buffer =
      if i + 1 = g.length then
        toggled polarity (buffer &&& BitVec.ofNat 8 (2 ^ (g.endOffset.val + 1) - 1)) 0 g.endOffset
      else if i = 0 then toggled polarity buffer g.startOffset 7
      else toggled polarity buffer 0 7 := rfl

/-- Every register but the first is complemented up to the end of the group. -/
theorem getLsbD_readData_inverted (buffer : Byte) {i j : Nat} (hi : 1 ≤ i) (hj : j < 8) :
    (readData (g.withPolarity .inverted) i buffer).getLsbD j =
      (!(readData (g.withPolarity .normal) i buffer).getLsbD j &&
        (decide (i + 1 ≠ g.length) || decide (j ≤ g.endOffset.val))) := by
  have h0 : i ≠ 0 := by omega
  by_cases hlast : i + 1 = g.length
  · rw [readData_withPolarity, readData_withPolarity, if_pos hlast, if_pos hlast]
    rw [getLsbD_toggled _ _ _ _ hj, getLsbD_toggled _ _ _ _ hj]
    simp only [← Nat.lt_succ_iff]
    simp [hlast]
  · simp only [readData_withPolarity, if_neg hlast, if_neg h0]
    rw [getLsbD_toggled _ _ _ _ hj, getLsbD_toggled _ _ _ _ hj]
    simp [hlast, hj]

/-- The first register is complemented in as many bits as it holds of the group, the other bits read as 0. -/
theorem getLsbD_readData_inverted_first (h1 : g.length ≠ 1) (buffer : Byte) {j : Nat} (hj : j < 8) :
    (readData (g.withPolarity .normal) 0 buffer).getLsbD j = buffer.getLsbD j ∧
      (readData (g.withPolarity .inverted) 0 buffer).getLsbD j =
        (!buffer.getLsbD j && decide (j < 8 - g.startOffset.val)) := by
  simp only [readData_withPolarity, Nat.zero_add, if_neg (Ne.symm h1), ↓reduceIte]
  exact ⟨getLsbD_toggled .normal _ _ _ hj, getLsbD_toggled .inverted _ _ _ hj⟩

/-- The bits of the first register that belong to the group and are lost by the mask. -/
def PinGroup.LostOnes (g : PinGroup) (buffer : Byte) : Prop :=
  ∀ j, g.startOffset.val ≤ j → 8 - g.startOffset.val ≤ j → j < 8 → buffer.getLsbD j = true

/-- Bit `i` of what several registers give. -/
theorem getLsbD_several (h4 : g.length ≤ 4) (ds : Nat → Byte) (i : Nat) :
    (assemble ds g.length >>> g.startOffset.val).getLsbD i =
      (decide (g.startOffset.val + i < 8 * g.length) &&
        (ds ((g.startOffset.val + i) / 8)).getLsbD ((g.startOffset.val + i) % 8)) := by
  rw [BitVec.getLsbD_ushiftRight, getLsbD_assemble]
  by_cases hin : g.startOffset.val + i < 8 * g.length
  · simp only [hin, show g.startOffset.val + i < 32 by omega, decide_true, Bool.true_and]
  · simp only [hin, decide_false, Bool.and_false, Bool.false_and]

theorem several_complement_iff (h2 : 2 ≤ g.length) (h4 : g.length ≤ 4) (bytes : Nat → Byte) :
    assemble (fun k => readData (g.withPolarity .inverted) k (bytes k)) g.length >>> g.startOffset.val =
        ~~~(assemble (fun k => readData (g.withPolarity .normal) k (bytes k)) g.length >>> g.startOffset.val) &&&
          BitVec.ofNat 32 (2 ^ g.width - 1) ↔
      g.LostOnes (bytes 0) := by
  have hso := g.startOffset.isLt
  have heo := g.endOffset.isLt
  have h1 : g.length ≠ 1 := by omega
  have hwidth : g.width = 8 * (g.length - 1) + g.endOffset.val + 1 - g.startOffset.val := rfl
  -- The bits of the first register decide, the others are complemented.
  have hbit (i : Nat) (hi : i < 32) :
      (assemble (fun k => readData (g.withPolarity .inverted) k (bytes k)) g.length >>> g.startOffset.val).getLsbD i =
          (~~~(assemble (fun k => readData (g.withPolarity .normal) k (bytes k)) g.length >>> g.startOffset.val) &&&
            BitVec.ofNat 32 (2 ^ g.width - 1)).getLsbD i ↔
        (g.startOffset.val + i < 8 → 8 - g.startOffset.val ≤ g.startOffset.val + i →
          (bytes 0).getLsbD (g.startOffset.val + i) = true) := by
    rw [BitVec.getLsbD_and, BitVec.getLsbD_not, getLsbD_lowMask, getLsbD_several h4, getLsbD_several h4]
    rcases Nat.lt_or_ge (g.startOffset.val + i) 8 with hfirst | hlater
    · obtain ⟨hnormal, hinverted⟩ := getLsbD_readData_inverted_first h1 (bytes 0) hfirst
      rw [Nat.div_eq_of_lt hfirst, Nat.mod_eq_of_lt hfirst, hnormal, hinverted]
      simp only [hi, hfirst, show g.startOffset.val + i < 8 * g.length by omega, show i < g.width by omega,
        decide_true, Bool.true_and, Bool.and_true, true_imp_iff]
      by_cases hkept : g.startOffset.val + i < 8 - g.startOffset.val
      · simp [hkept, Nat.not_le.mpr hkept]
      · cases (bytes 0).getLsbD (g.startOffset.val + i) <;> simp [hkept, Nat.not_lt.mp hkept]
    · refine iff_of_true ?_ fun h => absurd h (Nat.not_lt.mpr hlater)
      rcases Nat.lt_or_ge (g.startOffset.val + i) (8 * g.length) with hin | hout
      · rw [getLsbD_readData_inverted _ (by omega) (Nat.mod_lt _ (by decide))]
        have hw : decide (i < g.width) = (decide ((g.startOffset.val + i) / 8 + 1 ≠ g.length) ||
            decide ((g.startOffset.val + i) % 8 ≤ g.endOffset.val)) := by
          rw [← Bool.decide_or]
          exact decide_eq_decide.mpr (by omega)
        simp only [hi, hin, hw, decide_true, Bool.true_and]
      · simp only [show ¬g.startOffset.val + i < 8 * g.length by omega, show ¬i < g.width by omega, decide_false,
          Bool.false_and, Bool.and_false]
  constructor
  · intro h j hstart hlost hj
    have hdecided := (hbit (j - g.startOffset.val) (by omega)).mp (congrArg (BitVec.getLsbD · _) h)
    rw [Nat.add_sub_cancel' hstart] at hdecided
    exact hdecided hj hlost
  · intro h
    exact BitVec.eq_of_getLsbD_eq fun i hi => (hbit i hi).mpr fun hfirst hlost => h _ (Nat.le_add_right _ _) hlost hfirst

theorem polaritiesComplement_several (h2 : 2 ≤ g.length) (h4 : g.length ≤ 4) (hq : ∀ t, b.fault t = none) :
    PolaritiesComplement g b ↔ g.LostOnes (b.regs g.startAddr) := by
  have hread (p : PinPolarity) : readLevel (g.withPolarity p) b =
      .ok (assemble (fun k => readData (g.withPolarity p) k (b.regs (regAddr g k))) g.length >>>
        g.startOffset.val) := by
    rw [readLevel_eq hq, readBytes_several (g := g.withPolarity p) _ h2]
    rfl
  rw [PolaritiesComplement, hread, hread, ← regAddr_zero, ← several_complement_iff h2 h4 fun k => b.regs (regAddr g k)]
  constructor
  · rintro ⟨v, hv, hw⟩
    obtain rfl := Except.ok.inj hv
    exact Except.ok.inj hw
  · exact fun h => ⟨_, rfl, congrArg _ h⟩

/-- The polarities give complements iff a group of one register has a mask, and the first register of
several has ones in the bits that the mask loses. -/
theorem polaritiesComplement_iff (hlen : 1 ≤ g.length) (h4 : g.length ≤ 4) (hq : ∀ t, b.fault t = none) :
    PolaritiesComplement g b ↔
      (g.length = 1 → g.startOffset.val ≤ g.endOffset.val + 1) ∧
        (2 ≤ g.length → g.LostOnes (b.regs g.startAddr)) := by
  by_cases h1 : g.length = 1
  · rw [polaritiesComplement_single h1 hq]
    exact ⟨fun h => ⟨fun _ => h, fun h2 => by omega⟩, fun h => h.1 h1⟩
  · rw [polaritiesComplement_several (by omega) h4 hq]
    exact ⟨fun h => ⟨fun h' => absurd h' h1, fun _ => h⟩, fun h => h.2 (by omega)⟩

/-- All registers of `splitGroup` are clear: read inverted, the low nibble is lost. -/
theorem splitGroup_not_complement : readLevel (splitGroup.withPolarity .normal) clearBus = .ok 0 ∧
    readLevel (splitGroup.withPolarity .inverted) clearBus = .ok 0xf0 ∧
      ¬PolaritiesComplement splitGroup clearBus := by
  have hnormal : readLevel (splitGroup.withPolarity .normal) clearBus = .ok 0 := by rfl
  have hinverted : readLevel (splitGroup.withPolarity .inverted) clearBus = .ok 0xf0 := by rfl
  refine ⟨hnormal, hinverted, ?_⟩
  rintro ⟨v, hv, hw⟩
  obtain rfl := Except.ok.inj (hnormal.symm.trans hv)
  exact absurd (Except.ok.inj (hinverted.symm.trans hw)) (by decide)

/-- A group that begins with a whole register loses no bit. -/
theorem wholeRegisters_complement : PolaritiesComplement (driverRegister 0x10 (some 0x11) 0 3 .normal) clearBus :=
  (polaritiesComplement_iff (by decide) (by decide) fun _ => rfl).mpr
    ⟨by decide, fun _ j _ h8 hj => absurd hj (Nat.not_lt.mpr h8)⟩

end

end OpxSdi.Cpld
