import OpxSdi.Cpld.PinGroup
import OpxSdi.Lib.Bits

/-!
# The registers of a pin group, bit by bit
-/

namespace OpxSdi.Cpld

open Lib

/-! ## Masks and toggles -/

theorem bitMask_some {startOffset endOffset : Nat} (h : startOffset ≤ endOffset + 1) :
    bitMask startOffset endOffset = some (BitVec.ofNat 8 (2 ^ (endOffset + 1 - startOffset) - 1)) := by
  rw [bitMask, if_pos h]

def toggled (polarity : PinPolarity) (target : Byte) (startOffset endOffset : Nat) : Byte :=
  match polarity with
  | .normal => target
  | .inverted => ~~~target &&& BitVec.ofNat 8 (2 ^ (endOffset + 1 - startOffset) - 1)

theorem toggleIfInverted_some {startOffset endOffset : Nat} (h : startOffset ≤ endOffset + 1)
    (polarity : PinPolarity) (target : Byte) :
    toggleIfInverted polarity target startOffset endOffset =
      some (toggled polarity target startOffset endOffset) := by
  cases polarity with
  | normal => rfl
  | inverted => simp only [toggleIfInverted, cpldToggleAndMask, bitMask_some h, Option.map_some, toggled]

theorem toggleIfInverted_none {startOffset endOffset : Nat} (h : endOffset + 1 < startOffset)
    (target : Byte) : toggleIfInverted .inverted target startOffset endOffset = none := by
  simp only [toggleIfInverted, cpldToggleAndMask, bitMask, if_neg (Nat.not_le.mpr h), Option.map_none]

theorem getLsbD_toggled (polarity : PinPolarity) (target : Byte) (startOffset endOffset : Nat) {j : Nat}
    (hj : j < 8) :
    (toggled polarity target startOffset endOffset).getLsbD j =
      match polarity with
      | .normal => target.getLsbD j
      | .inverted => !target.getLsbD j && decide (j < endOffset + 1 - startOffset) := by
  cases polarity with
  | normal => rfl
  | inverted => simp only [toggled, BitVec.getLsbD_and, BitVec.getLsbD_not, getLsbD_lowMask, hj, decide_true,
      Bool.true_and]

/-- The bits from the start on are those of the source, unmasked; the others are kept where the mask is. -/
theorem getLsbD_setSubBitstream (buffer level : Byte) {startBitOffset endBitOffset j : Nat}
    (hs : startBitOffset < 8) (he : endBitOffset ≤ 8) (hj : j < 8) :
    (setSubBitstream buffer level startBitOffset endBitOffset).getLsbD j =
      ((buffer.getLsbD j && (decide (endBitOffset ≤ j) || decide (j < startBitOffset))) ||
        (decide (startBitOffset ≤ j) && level.getLsbD (j - startBitOffset))) := by
  have hleft (x : BitVec 64) : ~~~(0 : BitVec 64) - x = ~~~x := by
    have hones : ~~~(0 : BitVec 64) = BitVec.allOnes 64 := BitVec.not_zero
    rw [hones, BitVec.allOnes_sub_eq_not]
  have hs64 : startBitOffset < 64 := by omega
  have he64 : endBitOffset < 64 := by omega
  have hj64 : j < 64 := by omega
  have hsub : j - startBitOffset < 64 := by omega
  simp only [setSubBitstream, cpldBitSetSubBitstream, shift_sub_one he64, shift_sub_one hs64, hleft,
    BitVec.getLsbD_setWidth, BitVec.getLsbD_or, BitVec.getLsbD_and, BitVec.getLsbD_not, getLsbD_lowMask,
    BitVec.getLsbD_shiftLeft]
  have hle : ∀ n, (!decide (j < n)) = decide (n ≤ j) := fun n => by
    rw [← decide_not]
    exact decide_eq_decide.mpr Nat.not_lt
  simp [hj, hj64, hsub, hle]

/-! ## A register of a group of several registers -/

section

variable {g : PinGroup}

def readData (g : PinGroup) (i : Nat) (buffer : Byte) : Byte :=
  if i + 1 = g.length then
    toggled g.defaultPolarity (buffer &&& BitVec.ofNat 8 (2 ^ (g.endOffset.val + 1) - 1)) 0 g.endOffset
  else if i = 0 then toggled g.defaultPolarity buffer g.startOffset 7
  else toggled g.defaultPolarity buffer 0 7

def writeData (g : PinGroup) (i : Nat) (level buffer : Byte) : Byte :=
  if i = 0 then setSubBitstream buffer (toggled g.defaultPolarity level g.startOffset 7) g.startOffset 8
  else if i + 1 = g.length then
    setSubBitstream buffer (toggled g.defaultPolarity level 0 g.endOffset) 0 (g.endOffset + 1)
  else setSubBitstream buffer (toggled g.defaultPolarity level 0 7) 0 8

theorem toggled_full (polarity : PinPolarity) (level : Byte) :
    toggled polarity level 0 7 = match polarity with
      | .normal => level
      | .inverted => ~~~level := by
  cases polarity with
  | normal => rfl
  | inverted => exact BitVec.and_allOnes

theorem PinGroup.startOffset_le_last (g : PinGroup) : g.startOffset.val ≤ 7 + 1 := Nat.le_of_lt g.startOffset.isLt

theorem readRegister_last {i : Nat} (hi : 1 ≤ i) (hlast : i + 1 = g.length) (buffer : Byte)
    (level : BitVec 32) :
    readRegister g (i + 1) buffer level = some
      ((level ||| (readData g i buffer).setWidth 32 <<< (i * 8)) >>> g.startOffset.val) := by
  have h1 : g.length ≠ 1 := by omega
  simp only [readRegister, if_neg h1, if_pos hlast, readData, toggleIfInverted_some (Nat.zero_le _),
    Nat.add_sub_cancel, Option.bind_eq_bind, Option.bind_some]

theorem readRegister_first (h1 : g.length ≠ 1) (buffer : Byte) (level : BitVec 32) :
    readRegister g 1 buffer level = some ((readData g 0 buffer).setWidth 32) := by
  simp only [readRegister, if_neg h1, if_neg (Ne.symm h1), ↓reduceIte, readData, Nat.zero_add,
    toggleIfInverted_some g.startOffset_le_last, Option.bind_eq_bind, Option.bind_some]

theorem readRegister_middle {i : Nat} (hi : 1 ≤ i) (hlt : i + 1 < g.length) (buffer : Byte)
    (level : BitVec 32) :
    readRegister g (i + 1) buffer level = some (level ||| (readData g i buffer).setWidth 32 <<< (i * 8)) := by
  have h1 : g.length ≠ 1 := by omega
  have hlast : i + 1 ≠ g.length := Nat.ne_of_lt hlt
  have h0 : i ≠ 0 := by omega
  have hfirst : i + 1 ≠ 1 := by omega
  simp only [readRegister, if_neg h1, if_neg hlast, if_neg hfirst, readData, if_neg h0,
    toggleIfInverted_some (Nat.zero_le _), Nat.add_sub_cancel, Option.bind_eq_bind, Option.bind_some]

theorem writeRegister_eq (h1 : g.length ≠ 1) {i : Nat} (hlt : i < g.length) (level buffer : Byte) :
    writeRegister g (g.length - i) level buffer = some (writeData g i level buffer) := by
  by_cases h0 : i = 0
  · simp only [writeRegister, if_neg h1, h0, Nat.sub_zero, ↓reduceIte, writeData,
      toggleIfInverted_some g.startOffset_le_last, Option.bind_eq_bind, Option.bind_some]
  · have hfirst : g.length - i ≠ g.length := by omega
    by_cases hlast : i + 1 = g.length
    · have hone : g.length - i = 1 := by omega
      simp only [writeRegister, if_neg h1, if_neg hfirst, if_pos hone, writeData, if_neg h0, if_pos hlast,
        toggleIfInverted_some (Nat.zero_le _), Option.bind_eq_bind, Option.bind_some]
    · have hone : g.length - i ≠ 1 := by omega
      cases hp : g.defaultPolarity <;>
        simp only [writeRegister, if_neg h1, if_neg hfirst, if_neg hone, writeData, if_neg h0,
          if_neg hlast, toggled_full, hp]

/-! ## Reading back what was written -/

/-- Registers after the first give back the bits written, up to the end of the group. -/
theorem getLsbD_readData_writeData {i j : Nat} (hi : 1 ≤ i) (hj : j < 8) (level buffer : Byte) :
    (readData g i (writeData g i level buffer)).getLsbD j =
      (level.getLsbD j && (decide (i + 1 ≠ g.length) || decide (j ≤ g.endOffset))) := by
  have h0 : i ≠ 0 := by omega
  by_cases hlast : i + 1 = g.length
  · have hend : g.endOffset.val + 1 ≤ 8 := g.endOffset.isLt
    simp only [readData, writeData, if_pos hlast, if_neg h0]
    rw [getLsbD_toggled _ _ _ _ hj]
    simp only [BitVec.getLsbD_and, getLsbD_lowMask, hj, getLsbD_setSubBitstream _ _ (Nat.zero_lt_succ 7) hend hj,
      getLsbD_toggled _ level _ _ hj, Nat.sub_zero]
    rcases Nat.lt_or_ge g.endOffset.val j with hgt | hle
    · have hout : ¬ j < g.endOffset.val + 1 := by omega
      cases g.defaultPolarity <;> simp [hlast, hout, Nat.not_le.mpr hgt]
    · have hin : ¬ g.endOffset.val + 1 ≤ j := by omega
      cases g.defaultPolarity <;> simp [hlast, hle, hin, Nat.lt_succ_of_le hle]
  · simp only [readData, writeData, if_neg hlast, if_neg h0]
    rw [getLsbD_toggled _ _ _ _ hj]
    simp only [getLsbD_setSubBitstream _ _ (Nat.zero_lt_succ 7) (Nat.le_refl 8) hj,
      getLsbD_toggled _ level _ _ hj, Nat.sub_zero]
    cases g.defaultPolarity <;> simp [hlast, hj, Nat.not_le.mpr hj]

/-- The first register gives the bits back from the start offset on. Under inverted polarity the reader
masks the register before it shifts it, and loses as many bits again. -/
theorem getLsbD_readData_writeData_first (h1 : g.length ≠ 1) {j : Nat} (hs : g.startOffset ≤ j) (hj : j < 8)
    (level buffer : Byte) :
    (readData g 0 (writeData g 0 level buffer)).getLsbD j =
      (level.getLsbD (j - g.startOffset) &&
        (decide (g.defaultPolarity = .normal) || decide (j < 8 - g.startOffset))) := by
  have hso := g.startOffset.isLt
  simp only [readData, writeData, ↓reduceIte, Nat.zero_add, if_neg (Ne.symm h1)]
  rw [getLsbD_toggled _ _ _ _ hj]
  have hsub : j - g.startOffset.val < 8 - g.startOffset.val := by omega
  have hsub8 : j - g.startOffset.val < 8 := by omega
  simp only [getLsbD_setSubBitstream _ _ hso (Nat.le_refl 8) hj, getLsbD_toggled _ level _ _ hsub8]
  cases g.defaultPolarity <;> simp [hs, hj, hsub, Nat.not_le.mpr hj, Nat.not_lt.mpr hs]

/-! ## A group of one register -/

def readSingle (g : PinGroup) (buffer : Byte) : Byte :=
  toggled g.defaultPolarity (buffer >>> g.startOffset.val &&&
    BitVec.ofNat 8 (2 ^ (g.endOffset.val + 1 - g.startOffset.val) - 1)) g.startOffset g.endOffset

def writeSingle (g : PinGroup) (level buffer : Byte) : Byte :=
  setSubBitstream buffer (toggled g.defaultPolarity level g.startOffset g.endOffset) g.startOffset
    (g.endOffset + 1)

theorem readRegister_single (h1 : g.length = 1) (hoff : g.startOffset.val ≤ g.endOffset.val + 1)
    (buffer : Byte) (level : BitVec 32) :
    readRegister g 1 buffer level = some ((readSingle g buffer).setWidth 32) := by
  simp only [readRegister, if_pos h1, cpldBitMask, bitMask_some hoff, toggleIfInverted_some hoff]
  rfl

theorem writeRegister_single (h1 : g.length = 1)
    (hdef : g.defaultPolarity = .normal ∨ g.startOffset.val ≤ g.endOffset.val + 1) (level buffer : Byte) :
    writeRegister g 1 level buffer = some (writeSingle g level buffer) := by
  have htoggle : toggleIfInverted g.defaultPolarity level g.startOffset g.endOffset =
      some (toggled g.defaultPolarity level g.startOffset g.endOffset) := by
    rcases hdef with h | h
    · rw [h]; rfl
    · exact toggleIfInverted_some h _ _
  simp only [writeRegister, if_pos h1, htoggle]
  rfl

theorem getLsbD_readSingle_writeSingle (hoff : g.startOffset ≤ g.endOffset) {j : Nat} (hj : j < 8)
    (level buffer : Byte) :
    (readSingle g (writeSingle g level buffer)).getLsbD j =
      (level.getLsbD j && decide (j < g.endOffset.val + 1 - g.startOffset.val)) := by
  have hso := g.startOffset.isLt
  have heo := g.endOffset.isLt
  simp only [readSingle]
  rw [getLsbD_toggled _ _ _ _ hj]
  simp only [BitVec.getLsbD_and, BitVec.getLsbD_ushiftRight, getLsbD_lowMask, hj, decide_true, Bool.true_and]
  rcases Nat.lt_or_ge j (g.endOffset.val + 1 - g.startOffset.val) with hlt | hge
  · have hwritten : (writeSingle g level buffer).getLsbD (g.startOffset.val + j) =
        (toggled g.defaultPolarity level g.startOffset g.endOffset).getLsbD j := by
      have hin : ¬ g.endOffset.val + 1 ≤ g.startOffset.val + j := by omega
      rw [writeSingle, getLsbD_setSubBitstream _ _ hso (by omega) (by omega)]
      simp [hin, Nat.not_lt.mpr (Nat.le_add_right _ _)]
    rw [hwritten, getLsbD_toggled _ _ _ _ hj]
    cases g.defaultPolarity <;> simp [hlt]
  · cases g.defaultPolarity <;> simp [Nat.not_lt.mpr hge]

/-! ## The bits around the group -/

theorem setSubBitstream_below (level buffer : Byte) {startBitOffset endBitOffset j : Nat}
    (hs : startBitOffset < 8) (he : endBitOffset ≤ 8) (hj : j < startBitOffset) :
    (setSubBitstream buffer level startBitOffset endBitOffset).getLsbD j = buffer.getLsbD j := by
  rw [getLsbD_setSubBitstream _ _ hs he (Nat.lt_trans hj hs)]
  simp [hj, Nat.not_le.mpr hj]

/-- Above the end the source is put over the bits that are kept. -/
theorem setSubBitstream_above (level buffer : Byte) {startBitOffset endBitOffset j : Nat}
    (hs : startBitOffset < 8) (he : endBitOffset ≤ j) :
    (setSubBitstream buffer level startBitOffset endBitOffset).getLsbD j =
      (buffer.getLsbD j || (level <<< startBitOffset).getLsbD j) := by
  rcases Nat.lt_or_ge j 8 with hlt | hge
  · rw [getLsbD_setSubBitstream _ _ hs (Nat.le_trans he (Nat.le_of_lt hlt)) hlt, BitVec.getLsbD_shiftLeft]
    rcases Nat.lt_or_ge j startBitOffset with h | h
    · simp [hlt, he, h, Nat.not_le.mpr h]
    · simp [hlt, he, h, Nat.not_lt.mpr h]
  · simp only [BitVec.getLsbD_of_ge _ _ hge, Bool.or_false]

/-- The mask of inverted polarity leaves nothing above the end. -/
theorem getLsbD_toggled_above (polarity : PinPolarity) (level : Byte) (startOffset : Nat) {endOffset j : Nat}
    (hj : endOffset < j) :
    (toggled polarity level startOffset endOffset <<< startOffset).getLsbD j =
      (decide (polarity = .normal) && (level <<< startOffset).getLsbD j) := by
  cases polarity with
  | normal => simp [toggled]
  | inverted =>
      have hout : ¬ j - startOffset < endOffset + 1 - startOffset := by omega
      simp [toggled, BitVec.getLsbD_shiftLeft, getLsbD_lowMask, hout]

theorem writeSingle_below (level buffer : Byte) {j : Nat} (hj : j < g.startOffset.val) :
    (writeSingle g level buffer).getLsbD j = buffer.getLsbD j := by
  rw [writeSingle, setSubBitstream_below _ _ g.startOffset.isLt g.endOffset.isLt hj]

theorem writeData_below (level buffer : Byte) {j : Nat} (hj : j < g.startOffset.val) :
    (writeData g 0 level buffer).getLsbD j = buffer.getLsbD j := by
  rw [writeData, if_pos rfl, setSubBitstream_below _ _ g.startOffset.isLt (Nat.le_refl 8) hj]

theorem writeSingle_above (level buffer : Byte) {j : Nat} (hj : g.endOffset.val < j) :
    (writeSingle g level buffer).getLsbD j =
      (buffer.getLsbD j || (decide (g.defaultPolarity = .normal) &&
        (level <<< g.startOffset.val).getLsbD j)) := by
  rw [writeSingle, setSubBitstream_above _ _ g.startOffset.isLt hj, getLsbD_toggled_above _ _ _ hj]

theorem writeData_above {i : Nat} (hi : 1 ≤ i) (hlast : i + 1 = g.length) (level buffer : Byte) {j : Nat}
    (hj : g.endOffset.val < j) :
    (writeData g i level buffer).getLsbD j =
      (buffer.getLsbD j || (decide (g.defaultPolarity = .normal) && level.getLsbD j)) := by
  have htoggle := getLsbD_toggled_above g.defaultPolarity level 0 hj
  rw [BitVec.shiftLeft_zero, BitVec.shiftLeft_zero] at htoggle
  rw [writeData, if_neg (by omega), if_pos hlast, setSubBitstream_above _ _ (Nat.zero_lt_succ 7) hj,
    BitVec.shiftLeft_zero, htoggle]

end

/-! ## The register loops

The writer modifies the registers of the group one after another; the reader puts their bytes together.
-/

section

variable {g : PinGroup}

/-! ## Addresses -/

def regAddr (g : PinGroup) (i : Nat) : BitVec 32 :=
  if g.endAddr ≤ g.startAddr then g.startAddr - BitVec.ofNat 32 i else g.startAddr + BitVec.ofNat 32 i

theorem regAddr_zero : regAddr g 0 = g.startAddr := by
  unfold regAddr
  split
  · exact BitVec.sub_zero _
  · exact BitVec.add_zero _

theorem nextOffset_regAddr (i : Nat) : nextOffset g (regAddr g i) = regAddr g (i + 1) := by
  have hone : BitVec.ofNat 32 (i + 1) = BitVec.ofNat 32 i + 1#32 := BitVec.ofNat_add ..
  unfold nextOffset regAddr
  split
  · rw [hone]; exact BitVec.sub_sub ..
  · rw [hone, ← BitVec.add_assoc]; rfl

theorem regAddr_ne {i j : Nat} (hij : i < j) (hj : j < 2 ^ 32) : regAddr g i ≠ regAddr g j := by
  intro h
  have hval := congrArg BitVec.toNat h
  have hlt := g.startAddr.isLt
  unfold regAddr at hval
  split at hval
  · simp only [BitVec.toNat_sub, BitVec.toNat_ofNat] at hval
    omega
  · simp only [BitVec.toNat_add, BitVec.toNat_ofNat] at hval
    omega

/-! ## The writer -/

def levelByte (value : BitVec 32) (i : Nat) : Byte := (value >>> (8 * i)).setWidth 8

theorem getLsbD_levelByte (value : BitVec 32) (i : Nat) {j : Nat} (hj : j < 8) :
    (levelByte value i).getLsbD j = value.getLsbD (8 * i + j) := by
  simp only [levelByte, BitVec.getLsbD_setWidth, BitVec.getLsbD_ushiftRight, hj, decide_true, Bool.true_and]

theorem writeLoop_eq (g : PinGroup) (value : BitVec 32) {n k : Nat} (h : n + k = g.length) :
    writeLoop g n (value >>> (8 * k)) (regAddr g k) =
      RegBus.modifyEach (regAddr g) (fun i => writeRegister g (g.length - i) (levelByte value i)) n k := by
  induction n generalizing k with
  | zero => rfl
  | succ n ih =>
      have hshift : value >>> (8 * k) >>> 8 = value >>> (8 * (k + 1)) := by
        rw [← BitVec.shiftRight_add]; rfl
      rw [writeLoop, RegBus.modifyEach, nextOffset_regAddr, hshift, ih (by omega),
        show g.length - k = n + 1 by omega]
      rfl

theorem writeLevel_eq (g : PinGroup) (value : BitVec 32) :
    pinGroupWriteLevel g value =
      RegBus.modifyEach (regAddr g) (fun i => writeRegister g (g.length - i) (levelByte value i))
        g.length 0 := by
  have h := writeLoop_eq g value (n := g.length) (k := 0) rfl
  rwa [regAddr_zero] at h

/-! ## The reader -/

def readBytes (g : PinGroup) (bytes : Nat → Byte) : (left i : Nat) → BitVec 32 → Option (BitVec 32)
  | 0, _, level => some level
  | left + 1, i, level => (readRegister g (i + 1) (bytes i) level).bind (readBytes g bytes left (i + 1))

theorem readLoop_quiet {b : RegBus (BitVec 32) Errno} (hq : ∀ t, b.fault t = none) (left i : Nat)
    (level : BitVec 32) :
    ((readLoop g left (i + 1) (regAddr g i) level).out b).1 =
      (readBytes g (fun i => b.regs (regAddr g i)) left i level).elim (.error .undefined) .ok := by
  induction left generalizing i level b with
  | zero => rfl
  | succ left ih =>
      have hread : (RegBus.readByte (regAddr g i)).out b =
          (.ok (b.regs (regAddr g i)), { b with time := b.time + 1 }) := RegBus.transact_ok _ (hq b.time)
      rw [readLoop, Acts.out_bind_ok hread, readBytes]
      cases hreg : readRegister g (i + 1) (b.regs (regAddr g i)) level with
      | none => rw [Acts.out_bind_error (RegBus.ofOption_none _)]; rfl
      | some level' =>
          rw [Acts.out_bind_ok (RegBus.ofOption_some _ _), nextOffset_regAddr]
          exact ih (b := { b with time := b.time + 1 }) hq (i + 1) level'

/-- After the first register of several the level is put together from what the registers give. -/
theorem readBytes_assemble (bytes : Nat → Byte) (left : Nat) {i : Nat} (hi : 1 ≤ i)
    (h : left + 1 + i = g.length) :
    readBytes g bytes (left + 1) i (assemble (fun k => readData g k (bytes k)) i) =
      some (assemble (fun k => readData g k (bytes k)) g.length >>> g.startOffset.val) := by
  induction left generalizing i with
  | zero =>
      rw [readBytes, readRegister_last hi (by omega), show g.length = i + 1 by omega]
      rfl
  | succ left ih =>
      rw [readBytes, readRegister_middle hi (by omega)]
      exact ih (by omega) (by omega)

theorem readBytes_several (bytes : Nat → Byte) (h : 2 ≤ g.length) :
    readBytes g bytes g.length 0 0 =
      some (assemble (fun k => readData g k (bytes k)) g.length >>> g.startOffset.val) := by
  obtain ⟨left, hleft⟩ : ∃ left, g.length = left + 2 := ⟨g.length - 2, by omega⟩
  have hrest := readBytes_assemble bytes (g := g) left (Nat.le_refl 1) (by omega)
  have hfirst := readRegister_first (g := g) (by omega) (bytes 0) 0
  rw [show readBytes g bytes g.length 0 0 = readBytes g bytes (left + 2) 0 0 by rw [hleft], readBytes, hfirst,
    ← hrest]
  simp only [Option.bind_some, assemble, Nat.zero_mul, BitVec.shiftLeft_zero]
  exact congrArg _ BitVec.zero_or.symm

end

/-! ## The range of registers of a group

A group that the driver has registered goes from its start address to its end address, up or down.
-/

/-- A group as the driver registers it, with at least one register. -/
structure RegisteredGroup extends PinGroup where
  length_pos : 1 ≤ length
  length_eq : length =
    (if endAddr < startAddr then startAddr - endAddr + 1 else endAddr - startAddr + 1).toNat

/-- The driver registers such a group unless its range wraps around the whole address space. -/
def RegisteredGroup.ofConfig (startAddr : BitVec 32) (endAddr : Option (BitVec 32))
    (startOffset endOffset : Fin 8) (polarity : PinPolarity)
    (h : 1 ≤ (driverRegister startAddr endAddr startOffset endOffset polarity).length) : RegisteredGroup :=
  { driverRegister startAddr endAddr startOffset endOffset polarity with
    length_pos := h
    length_eq := by
      cases endAddr with
      | some a => rfl
      | none => simp [driverRegister] }

namespace RegisteredGroup

variable (g : RegisteredGroup)

/-- The registers from `start_addr` to `end_addr`, whichever is the lower. -/
def Inside (a : BitVec 32) : Prop :=
  g.startAddr ≤ a ∧ a ≤ g.endAddr ∨ g.endAddr ≤ a ∧ a ≤ g.startAddr

theorem length_toNat : g.length =
    (g.startAddr.toNat - g.endAddr.toNat) + (g.endAddr.toNat - g.startAddr.toNat) + 1 := by
  have h := g.length_eq
  have hpos := g.length_pos
  have hs := g.startAddr.isLt
  have he := g.endAddr.isLt
  split at h
  · rename_i hlt
    rw [BitVec.lt_def] at hlt
    simp only [BitVec.toNat_add, BitVec.toNat_sub, BitVec.toNat_ofNat, BitVec.ofNat_eq_ofNat] at h
    omega
  · rename_i hge
    rw [BitVec.lt_def] at hge
    simp only [BitVec.toNat_add, BitVec.toNat_sub, BitVec.toNat_ofNat, BitVec.ofNat_eq_ofNat] at h
    omega

theorem regAddr_toNat {i : Nat} (hi : i < g.length) :
    (regAddr g.toPinGroup i).toNat =
      if g.endAddr ≤ g.startAddr then g.startAddr.toNat - i else g.startAddr.toNat + i := by
  have hlen := g.length_toNat
  have hs := g.startAddr.isLt
  have he := g.endAddr.isLt
  unfold regAddr
  split
  · rename_i hle
    rw [BitVec.le_def] at hle
    simp only [BitVec.toNat_sub, BitVec.toNat_ofNat]
    omega
  · rename_i hgt
    rw [BitVec.le_def] at hgt
    simp only [BitVec.toNat_add, BitVec.toNat_ofNat]
    omega

theorem regAddr_inside {i : Nat} (hi : i < g.length) : g.Inside (regAddr g.toPinGroup i) := by
  have hlen := g.length_toNat
  have haddr := g.regAddr_toNat hi
  simp only [Inside, BitVec.le_def]
  split at haddr
  · rename_i hle
    rw [BitVec.le_def] at hle
    omega
  · rename_i hgt
    rw [BitVec.le_def] at hgt
    omega

theorem regAddr_last : regAddr g.toPinGroup (g.length - 1) = g.endAddr := by
  have hlen := g.length_toNat
  have haddr := g.regAddr_toNat (show g.length - 1 < g.length by omega)
  apply BitVec.eq_of_toNat_eq
  split at haddr
  · rename_i hle
    rw [BitVec.le_def] at hle
    omega
  · rename_i hgt
    rw [BitVec.le_def] at hgt
    omega

end RegisteredGroup

end OpxSdi.Cpld
