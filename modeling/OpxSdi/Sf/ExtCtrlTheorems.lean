import OpxSdi.Lib.Bits
import OpxSdi.Sf.ExtCtrl

/-!
# Reading back an external control

A temperature comes back if it fits in the registers. No temperature is refused, and the caller's variable is left with
ten times its value.
-/

namespace OpxSdi.Sf

open Lib

/-- The widths and the step that no assertion and no branch turns away -/
structure ExtCtrlDevice.Accepted (dev : ExtCtrlDevice) : Prop where
  width : dev.width = 1 ∨ dev.width = 2
  step : dev.step = 1

/-- The registers of the control -/
def ExtCtrlDevice.Holds (dev : ExtCtrlDevice) (a : BitVec 32) : Prop :=
  dev.ctrlValueOffset.toNat ≤ a.toNat ∧ a.toNat < dev.ctrlValueOffset.toNat + dev.width.toNat

/-- The tenths of a degree are a number of as many bytes. -/
def Representable (width : BitVec 16) (t : BitVec 32) : Prop :=
  0 ≤ 10 * t.toInt ∧ 10 * t.toInt < 256 ^ width.toNat

instance (width : BitVec 16) (t : BitVec 32) : Decidable (Representable width t) :=
  inferInstanceAs (Decidable (_ ∧ _))

/-- A bus on which no operation fails -/
def quietBus (regs : BitVec 32 → Byte) : ExtCtrlBus := ⟨regs, fun _ => none, 0⟩

/-- What a call that sets `t`, and one that gets a value after it, are to do -/
structure ReadsBack (dev : ExtCtrlDevice) (regs : BitVec 32 → Byte) (t : BitVec 32) : Prop where
  kept : ∀ r bus, extCtrlDataSet dev t 1 (quietBus regs) = .ok (r, bus) → r.rc = .ok → r.data = t
  outside : ∀ r bus, extCtrlDataSet dev t 1 (quietBus regs) = .ok (r, bus) → r.rc = .ok →
    ∀ a, ¬dev.Holds a → bus.regs a = regs a
  value : ∀ r bus, extCtrlDataSet dev t 1 (quietBus regs) = .ok (r, bus) → r.rc = .ok →
    ∀ data size r' bus', extCtrlDataGet r.dev data size bus = .ok (r', bus') → r'.rc = .ok → r'.data = t
  refused : ¬Representable dev.width t → ∀ r bus, extCtrlDataSet dev t 1 (quietBus regs) = .ok (r, bus) → r.rc ≠ .ok

section Calls

variable {dev : ExtCtrlDevice} {regs : BitVec 32 → Byte} {t data size : BitVec 32} {bus : ExtCtrlBus}

/-- The registers that a call leaves -/
def written (dev : ExtCtrlDevice) (regs : BitVec 32 → Byte) (data : BitVec 32) : BitVec 32 → Byte := fun a =>
  if dev.width = 2 then
    if a = dev.lowAddr then data.setWidth 8 else if a = dev.addr then (data.sshiftRight 8).setWidth 8 else regs a
  else if a = dev.addr then data.setWidth 8 else regs a

theorem set_eq (h : dev.Accepted) (t : BitVec 32) (regs : BitVec 32 → Byte) :
    ∃ time, extCtrlDataSet dev t 1 (quietBus regs) =
      .ok (⟨.ok, t * 10, 1, dev⟩, ⟨written dev regs (t * 10), fun _ => none, time⟩) := by
  obtain hwidth | hwidth := h.width
  · refine ⟨2, ?_⟩
    have hregs : written dev regs (t * 10) = fun a => if a = dev.addr then (t * 10).setWidth 8 else regs a := by
      funext a
      rw [written, if_neg (by rw [hwidth]; decide)]
    rw [extCtrlDataSet, h.step, hwidth, hregs]
    rfl
  · refine ⟨3, ?_⟩
    have hregs : written dev regs (t * 10) = fun a => if a = dev.lowAddr then (t * 10).setWidth 8
        else if a = dev.addr then ((t * 10).sshiftRight 8).setWidth 8 else regs a := by
      funext a
      rw [written, if_pos hwidth]
    rw [extCtrlDataSet, h.step, hwidth, hregs]
    rfl

/-- The value of the registers, and the byte of it that is looked at -/
def valueOf (dev : ExtCtrlDevice) (regs : BitVec 32 → Byte) : BitVec 32 × Byte :=
  if dev.width = 2 then ((regs dev.addr).setWidth 32 <<< 8 ||| (regs dev.lowAddr).setWidth 32, regs dev.lowAddr)
  else ((regs dev.addr).setWidth 32, regs dev.addr)

theorem readValue_eq (h : dev.Accepted) (data : BitVec 32) (regs : BitVec 32 → Byte) (time : Nat) :
    ∃ time', readValue dev data ⟨regs, fun _ => none, time⟩ =
      (⟨.ok, (valueOf dev regs).2, (valueOf dev regs).1⟩, ⟨regs, fun _ => none, time'⟩) := by
  obtain hwidth | hwidth := h.width
  · have hvalue : valueOf dev regs = ((regs dev.addr).setWidth 32, regs dev.addr) :=
      if_neg (by rw [hwidth]; decide)
    rw [hvalue, readValue, hwidth]
    exact ⟨time + 1, rfl⟩
  · rw [show valueOf dev regs = _ from if_pos hwidth, readValue, hwidth]
    exact ⟨time + 2, rfl⟩

/-- The value is not ready if the last byte of it is 0xff. -/
theorem get_eq (h : dev.Accepted) (data size : BitVec 32) (regs : BitVec 32 → Byte) (time : Nat) :
    ∃ time', extCtrlDataGet dev data size ⟨regs, fun _ => none, time⟩ =
      .ok (if (valueOf dev regs).2 = 0xFF then ⟨.errcode .einval, (valueOf dev regs).1, size, dev⟩
        else ⟨.ok, (valueOf dev regs).1.sdiv 10, 1, dev⟩, ⟨regs, fun _ => none, time'⟩) := by
  obtain ⟨time', hread⟩ := readValue_eq h data regs (time + 1)
  have hwidth : assert (dev.width ≤ registerTwoByteWidth) = .ok () := if_pos (by
    obtain hwidth | hwidth := h.width <;> rw [hwidth] <;> decide)
  have hstep : assert (dev.step = registerStepAllowed) = .ok () := if_pos h.step
  have hcall : extCtrlDataGet dev data size ⟨regs, fun _ => none, time⟩ =
      if (readValue dev data ⟨regs, fun _ => none, time + 1⟩).1.byte = 0xFF then
        .ok (⟨.errcode .einval, (readValue dev data ⟨regs, fun _ => none, time + 1⟩).1.data, size, dev⟩,
          (readValue dev data ⟨regs, fun _ => none, time + 1⟩).2)
      else .ok (⟨(readValue dev data ⟨regs, fun _ => none, time + 1⟩).1.rc,
        (readValue dev data ⟨regs, fun _ => none, time + 1⟩).1.data.sdiv 10, 1, dev⟩,
          (readValue dev data ⟨regs, fun _ => none, time + 1⟩).2) := by
    rw [extCtrlDataGet, hwidth, hstep]
    rfl
  refine ⟨time', ?_⟩
  rw [hcall, hread]
  by_cases hready : (valueOf dev regs).2 = 0xFF
  · rw [if_pos hready, if_pos hready]
  · rw [if_neg hready, if_neg hready]

/-- The bytes that are written are the low ones of the data. -/
theorem valueOf_written (h : dev.Accepted) (regs : BitVec 32 → Byte) (data : BitVec 32) :
    (valueOf dev (written dev regs data)).1.toNat = data.toNat % 256 ^ dev.width.toNat ∧
      (valueOf dev (written dev regs data)).2 = data.setWidth 8 := by
  obtain hwidth | hwidth := h.width
  · have hne : ¬dev.width = 2 := by
      rw [hwidth]
      decide
    simp only [valueOf, written, if_neg hne, ↓reduceIte, and_true]
    rw [BitVec.toNat_setWidth, BitVec.toNat_setWidth, hwidth]
    change data.toNat % 2 ^ 8 % 2 ^ 32 = data.toNat % 256 ^ 1
    omega
  · have hne : ¬dev.addr = dev.lowAddr := by
      rw [ExtCtrlDevice.lowAddr, h.step]
      exact fun heq => by bv_omega
    simp only [valueOf, written, if_pos hwidth, if_neg hne, ↓reduceIte, and_true]
    rw [hwidth]
    have hsplit : (BitVec.setWidth 8 (data.sshiftRight 8)).setWidth 32 <<< 8 ||| (data.setWidth 8).setWidth 32 =
        (data.setWidth 16).setWidth 32 := by
      apply BitVec.eq_of_getLsbD_eq
      intro i hi
      simp only [BitVec.getLsbD_or, BitVec.getLsbD_shiftLeft, BitVec.getLsbD_setWidth, BitVec.getLsbD_sshiftRight]
      grind
    rw [hsplit, BitVec.toNat_setWidth, BitVec.toNat_setWidth]
    change data.toNat % 2 ^ 16 % 2 ^ 32 = data.toNat % 256 ^ 2
    omega

/-- The number of tenths is even, so the value is ready. -/
theorem tenths_ne (t : BitVec 32) : (t * 10).setWidth 8 ≠ 0xFF := by
  intro h
  have := congrArg BitVec.toNat h
  rw [BitVec.toNat_setWidth, BitVec.toNat_mul] at this
  change t.toNat * 10 % 2 ^ 32 % 2 ^ 8 = 255 at this
  omega

/-- A temperature comes back if and only if it fits. -/
theorem get_set_iff (h : dev.Accepted) (regs : BitVec 32 → Byte) (t data size : BitVec 32) (time : Nat) :
    (∃ r bus, extCtrlDataGet dev data size ⟨written dev regs (t * 10), fun _ => none, time⟩ = .ok (r, bus) ∧
      r.rc = .ok ∧ r.data = t) ↔ Representable dev.width t := by
  obtain ⟨hvalue, hbyte⟩ := valueOf_written h regs (t * 10)
  obtain ⟨time', hget⟩ := get_eq h data size (written dev regs (t * 10)) time
  rw [hbyte, if_neg (tenths_ne t)] at hget
  have hiff : (∃ r bus, extCtrlDataGet dev data size ⟨written dev regs (t * 10), fun _ => none, time⟩ = .ok (r, bus) ∧
      r.rc = .ok ∧ r.data = t) ↔ (valueOf dev (written dev regs (t * 10))).1.sdiv 10 = t := by
    rw [hget]
    constructor
    · rintro ⟨r, bus, heq, -, hdata⟩
      cases heq
      exact hdata
    · exact fun hdata => ⟨_, _, rfl, rfl, hdata⟩
  have hmul : (t * 10).toNat = t.toNat * 10 % 2 ^ 32 := BitVec.toNat_mul ..
  have hint := BitVec.toInt_eq_toNat_cond t
  have hlt := t.isLt
  rw [hiff, ← BitVec.toNat_inj, Representable]
  obtain hwidth | hwidth := h.width
  · rw [hwidth] at hvalue ⊢
    change _ = _ % 256 ^ 1 at hvalue
    change _ ↔ 0 ≤ 10 * t.toInt ∧ 10 * t.toInt < 256 ^ 1
    rw [toNat_sdiv_ten (by omega), hvalue, hmul, hint]
    split <;> omega
  · rw [hwidth] at hvalue ⊢
    change _ = _ % 256 ^ 2 at hvalue
    change _ ↔ 0 ≤ 10 * t.toInt ∧ 10 * t.toInt < 256 ^ 2
    rw [toNat_sdiv_ten (by omega), hvalue, hmul, hint]
    split <;> omega

theorem written_outside (h : dev.Accepted) (data : BitVec 32) {a : BitVec 32} (ha : ¬dev.Holds a) :
    written dev regs data a = regs a := by
  have haddr : dev.addr.toNat = dev.ctrlValueOffset.toNat := by
    rw [ExtCtrlDevice.addr, BitVec.toNat_setWidth]
    exact Nat.mod_eq_of_lt (Nat.lt_trans dev.ctrlValueOffset.isLt (by decide))
  have hlow : dev.lowAddr.toNat = dev.ctrlValueOffset.toNat + 1 := by
    rw [ExtCtrlDevice.lowAddr, h.step, BitVec.toNat_add, haddr]
    have := dev.ctrlValueOffset.isLt
    change (_ + 1) % 2 ^ 32 = _
    omega
  rw [ExtCtrlDevice.Holds] at ha
  rw [written]
  obtain hwidth | hwidth := h.width
  · rw [if_neg (by rw [hwidth]; decide), if_neg]
    rintro rfl
    rw [hwidth] at ha
    exact ha ⟨by omega, by change _ < _ + 1; omega⟩
  · rw [hwidth] at ha
    rw [if_pos hwidth, if_neg, if_neg]
    · rintro rfl
      exact ha ⟨by omega, by change _ < _ + 2; omega⟩
    · rintro rfl
      exact ha ⟨by omega, by change _ < _ + 2; omega⟩

/-- Nine is a unit of the numbers of 32 bits. -/
theorem eq_zero_of_mul_ten {t : BitVec 32} (h : t * 10 = t) : t = 0 := by
  have hnine : t * 9 = 0 := by grind
  have hinv : (9 : BitVec 32) * 954437177 = 1 := by decide
  calc t = t * 1 := (BitVec.mul_one t).symm
    _ = t * 9 * 954437177 := by rw [← hinv, BitVec.mul_assoc]
    _ = 0 := by
      rw [hnine]
      exact BitVec.zero_mul

theorem extCtrl_readsBack_iff (h : dev.Accepted) (regs : BitVec 32 → Byte) (t : BitVec 32) :
    ReadsBack dev regs t ↔ t = 0 := by
  obtain ⟨time, hset⟩ := set_eq h t regs
  constructor
  · intro hreads
    have hkept : t * 10 = t := hreads.kept _ _ hset rfl
    exact eq_zero_of_mul_ten hkept
  · rintro rfl
    have hfits : Representable dev.width 0 := ⟨by decide, by
      change 0 < (256 : ℤ) ^ dev.width.toNat
      exact Int.pow_pos (by decide)⟩
    refine ⟨fun r bus hok _ => ?_, fun r bus hok _ a ha => ?_, fun r bus hok _ data size r' bus' hget hrc => ?_,
      fun hno => absurd hfits hno⟩
    · rw [hset] at hok
      cases hok
      rfl
    · rw [hset] at hok
      cases hok
      exact written_outside h _ ha
    · rw [hset] at hok
      cases hok
      obtain ⟨r'', bus'', hget', -, hdata⟩ := (get_set_iff h regs 0 data size time).mpr hfits
      rw [hget] at hget'
      cases hget'
      exact hdata

/-- The defaults of the registration -/
def defaultDevice : ExtCtrlDevice := ⟨0, 1, 1, 0, 0⟩

theorem readsBack_defaultDevice : ReadsBack defaultDevice (fun _ => 0x55) 0 :=
  (extCtrl_readsBack_iff ⟨.inl rfl, rfl⟩ _ 0).mpr rfl

/-- A temperature of 26 degrees does not fit in a byte of tenths. It is set, its variable holds 260 then, and 0 degrees
come back. -/
theorem not_readsBack_defaultDevice : ¬ReadsBack defaultDevice (fun _ => 0x55) 26 ∧
    ¬Representable defaultDevice.width 26 ∧
    ∃ bus bus', extCtrlDataSet defaultDevice 26 1 (quietBus fun _ => 0x55) = .ok (⟨.ok, 260, 1, defaultDevice⟩, bus) ∧
      extCtrlDataGet defaultDevice 0 0 bus = .ok (⟨.ok, 0, 1, defaultDevice⟩, bus') := by
  refine ⟨fun h => ?_, by decide, _, _, rfl, rfl⟩
  exact absurd (h.kept ⟨.ok, 260, 1, defaultDevice⟩ _ rfl rfl) (by decide)

end Calls

end OpxSdi.Sf
