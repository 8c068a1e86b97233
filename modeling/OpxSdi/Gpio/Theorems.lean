import Mathlib.Data.Nat.Bitwise
import OpxSdi.Gpio.PinGroup
import OpxSdi.Lib.Bits
import OpxSdi.Lib.Serves

/-!
# Theorems about GPIO pin groups

Which values of a pin group are read back after they are written. Without errors the writer drives every pin from
its own mask and the reader gathers the pins, the last one at bit 0.
-/

namespace OpxSdi.Gpio

open Lib Device

section

variable {pins : Pins} {gpios : List Nat} {held : Unit → Bool}

/-! ## Writing -/

/-- The level of the pin with `left - 1` pins after it. -/
def level (value : BitVec 32) (left : Nat) : Bool := value &&& BitVec.ofNat 32 left ≠ 0

def drive (value : BitVec 32) : List Nat → Pins → Pins
  | [], pins => pins
  | gpio :: gpios, pins => drive value gpios (Function.update pins gpio (level value (gpios.length + 1)))

theorem serves_writeLoop {gpioCnt : Nat} (value : BitVec 32) (gpioIndex : Nat) (gpios : List Nat)
    (h : gpioIndex + gpios.length = gpioCnt) :
    Serves (writeLoop gpioCnt value gpioIndex gpios) gpios.length fun pins => ((), drive value gpios pins) := by
  induction gpios generalizing gpioIndex with
  | nil => exact .pure ()
  | cons gpio gpios ih =>
      rw [List.length_cons] at h
      have hleft : gpioCnt - gpioIndex = gpios.length + 1 := by omega
      simp only [writeLoop, hleft]
      exact ((Serves.access _).bind fun _ => ih (gpioIndex + 1) (by omega)).of_eq (Nat.add_comm ..)

theorem drive_of_notMem (value : BitVec 32) {gpio : Nat} (h : gpio ∉ gpios) (pins : Pins) :
    drive value gpios pins gpio = pins gpio := by
  induction gpios generalizing pins with
  | nil => rfl
  | cons g gpios ih =>
      rw [List.mem_cons, not_or] at h
      rw [drive, ih h.2, Function.update_of_ne h.1]

theorem drive_getElem (value : BitVec 32) (hnodup : gpios.Nodup) (pins : Pins) {i : Nat}
    (hi : i < gpios.length) : drive value gpios pins gpios[i] = level value (gpios.length - i) := by
  induction gpios generalizing pins i with
  | nil => cases hi
  | cons gpio gpios ih =>
      rw [List.nodup_cons] at hnodup
      cases i with
      | zero => exact (drive_of_notMem value hnodup.1 _).trans (Function.update_self ..)
      | succ i =>
          have hlt : i < gpios.length := Nat.lt_of_succ_lt_succ hi
          have hrest := ih hnodup.2 (Function.update pins gpio (level value (gpios.length + 1))) hlt
          rw [List.length_cons, Nat.add_sub_add_right]
          exact hrest

/-! ## Reading -/

def gather (pins : Pins) : List Nat → BitVec 32
  | [] => 0
  | gpio :: gpios => (if pins gpio then (1 : BitVec 32) <<< gpios.length else 0) ||| gather pins gpios

theorem serves_readLoop {gpioCnt : Nat} (gpioIndex : Nat) (gpios : List Nat)
    (h : gpioIndex + gpios.length = gpioCnt) (value : BitVec 32) :
    Serves (readLoop gpioCnt gpioIndex gpios value) gpios.length
      fun pins => (value ||| gather pins gpios, pins) := by
  induction gpios generalizing gpioIndex value with
  | nil =>
      simp only [gather, BitVec.ofNat_eq_ofNat, BitVec.or_zero]
      exact .pure value
  | cons gpio gpios ih =>
      rw [List.length_cons] at h
      have hleft : gpioCnt - gpioIndex - 1 = gpios.length := by omega
      have hvalue : ∀ level : Bool, (if level then value ||| (1 : BitVec 32) <<< gpios.length else value) =
          value ||| (if level then (1 : BitVec 32) <<< gpios.length else 0) := by
        rintro (_ | _)
        · exact BitVec.or_zero.symm
        · rfl
      simp only [readLoop, hleft, hvalue, gather, ← BitVec.or_assoc]
      exact ((Serves.access _).bind fun level => ih (gpioIndex + 1) (by omega) _).of_eq (Nat.add_comm ..)

theorem getLsbD_gather_of_ge {k : Nat} (h : gpios.length ≤ k) : (gather pins gpios).getLsbD k = false := by
  induction gpios with
  | nil => exact BitVec.getLsbD_zero
  | cons gpio gpios ih =>
      rw [List.length_cons] at h
      rw [gather, BitVec.getLsbD_or, ih (by omega), Bool.or_false]
      cases pins gpio with
      | false => exact BitVec.getLsbD_zero
      | true =>
          have hne : k ≠ gpios.length := by omega
          simp only [↓reduceIte, getLsbD_one_shiftLeft, hne, decide_false, Bool.and_false]

theorem getLsbD_gather {i : Nat} (hi : i < gpios.length) (h32 : gpios.length - 1 - i < 32) :
    (gather pins gpios).getLsbD (gpios.length - 1 - i) = pins gpios[i] := by
  induction gpios generalizing i with
  | nil => cases hi
  | cons gpio gpios ih =>
      rw [List.length_cons] at h32
      cases i with
      | zero =>
          simp only [List.length_cons, Nat.add_sub_cancel, Nat.sub_zero, gather, BitVec.getLsbD_or,
            getLsbD_gather_of_ge (Nat.le_refl _), Bool.or_false, List.getElem_cons_zero]
          cases pins gpio with
          | false => exact BitVec.getLsbD_zero
          | true =>
              have hlt : gpios.length < 32 := by omega
              simp only [↓reduceIte, getLsbD_one_shiftLeft, hlt, decide_true, Bool.and_true]
      | succ i =>
          have hlt : i < gpios.length := Nat.lt_of_succ_lt_succ hi
          have hbit : gpios.length + 1 - 1 - (i + 1) = gpios.length - 1 - i := by omega
          rw [List.length_cons, hbit, gather, BitVec.getLsbD_or, ih hlt (by omega), List.getElem_cons_succ]
          cases pins gpio with
          | false => simp
          | true =>
              have hne : gpios.length - 1 - i ≠ gpios.length := by omega
              simp only [↓reduceIte, getLsbD_one_shiftLeft, hne, decide_false, Bool.and_false, Bool.false_or]

end

/-! ## Values whose masks are their bits -/

theorem and_ne_zero_iff (v m : Nat) : v &&& m ≠ 0 ↔ ∃ j, v.testBit j = true ∧ m.testBit j = true := by
  constructor
  · intro h
    obtain ⟨j, hj⟩ := Nat.exists_testBit_of_ne_zero h
    rw [Nat.testBit_and, Bool.and_eq_true] at hj
    exact ⟨j, hj⟩
  · rintro ⟨j, hv, hm⟩ h
    have hj : (v &&& m).testBit j = true := by rw [Nat.testBit_and, hv, hm]; rfl
    rw [h, Nat.zero_testBit] at hj
    cases hj

/-- Bit `k` says whether the value has a bit in common with `k + 1`. -/
def SelfMasked (n v : Nat) : Prop := ∀ k < n, v.testBit k = true ↔ v &&& (k + 1) ≠ 0

theorem lt_of_testBit_succ {j k : Nat} (hk : 2 ≤ k) (h : (k + 1).testBit j = true) : j < k := by
  by_contra hge
  have hpow : 2 ^ k ≤ 2 ^ j := Nat.pow_le_pow_right (by decide) (Nat.le_of_not_lt hge)
  have hle := Nat.ge_two_pow_of_testBit h
  have hlt : k + 1 < 2 ^ k := by
    clear h hge hpow hle
    induction k, hk using Nat.le_induction with
    | base => decide
    | succ k hk ih => rw [Nat.pow_succ]; omega
  omega

theorem SelfMasked.eq_zero {n v : Nat} (h : SelfMasked n v) (hv : v < 2 ^ n) (h0 : v.testBit 0 = false)
    (h1 : v.testBit 1 = false) : v = 0 := by
  have hbits : ∀ k, v.testBit k = false := by
    intro k
    induction k using Nat.strong_induction_on with
    | h k ih =>
        rcases Nat.lt_or_ge k 2 with hlow | hhigh
        · obtain rfl | rfl : k = 0 ∨ k = 1 := by omega
          · exact h0
          · exact h1
        · by_contra hk
          rw [Bool.not_eq_false] at hk
          have hkn : k < n := by
            by_contra hge
            have hpow : 2 ^ n ≤ 2 ^ k := Nat.pow_le_pow_right (by decide) (Nat.le_of_not_lt hge)
            rw [Nat.testBit_lt_two_pow (Nat.lt_of_lt_of_le hv hpow)] at hk
            cases hk
          obtain ⟨j, hvj, hmj⟩ := (and_ne_zero_iff v (k + 1)).mp ((h k hkn).mp hk)
          rw [ih j (lt_of_testBit_succ hhigh hmj)] at hvj
          cases hvj
  exact Nat.eq_of_testBit_eq fun k => (hbits k).trans (Nat.zero_testBit k).symm

/-- A number from 3 on has a bit in common with a low bit and the bits from 2 on below it. -/
theorem and_succ_ne_zero {v k : Nat} (hk : 2 ≤ k) (hlow : v.testBit 0 = true ∨ v.testBit 1 = true)
    (hhigh : ∀ j, 2 ≤ j → j < k → v.testBit j = true) : v &&& (k + 1) ≠ 0 := by
  rw [and_ne_zero_iff]
  rcases Nat.lt_or_ge 2 k with hlt | hle
  · have htop : (k + 1).testBit (k + 1).log2 = true := Nat.testBit_log2 (Nat.succ_ne_zero k)
    have hj : 2 ≤ (k + 1).log2 := (Nat.le_log2 (Nat.succ_ne_zero k)).mpr (by omega)
    exact ⟨_, hhigh _ hj (lt_of_testBit_succ hk htop), htop⟩
  · obtain rfl : k = 2 := Nat.le_antisymm hle hk
    rcases hlow with h0 | h1
    · exact ⟨0, h0, rfl⟩
    · exact ⟨1, h1, rfl⟩

/-- One low bit sets bit 2, and each bit from 2 on sets the next. -/
theorem SelfMasked.testBit {n v k : Nat} (h : SelfMasked n v)
    (hlow : v.testBit 0 = true ∨ v.testBit 1 = true) (hk : 2 ≤ k) (hkn : k < n) : v.testBit k = true := by
  induction k using Nat.strong_induction_on with
  | h k ih =>
      refine (h k hkn).mpr (and_succ_ne_zero hk hlow fun j hj hjk => ?_)
      exact ih j hjk hj (Nat.lt_trans hjk hkn)

theorem and_two_pow_ne_zero_iff (v k : Nat) : v &&& 2 ^ k ≠ 0 ↔ v.testBit k = true := by
  rw [Nat.and_two_pow]
  cases v.testBit k with
  | false => simp
  | true => simp

theorem testBit_low_iff (v : Nat) : (v.testBit 0 = true ∨ v.testBit 1 = true) ↔ v % 4 ≠ 0 := by
  rw [Nat.testBit_succ, Nat.testBit_zero, Nat.testBit_zero, decide_eq_true_iff, decide_eq_true_iff]
  omega

theorem testBit_high_iff {n v : Nat} (hn : 2 ≤ n) (hv : v < 2 ^ n) :
    (∀ k, 2 ≤ k → k < n → v.testBit k = true) ↔ v / 4 + 1 = 2 ^ (n - 2) := by
  have hshift : ∀ k, (v / 4).testBit k = v.testBit (2 + k) := fun k => by
    rw [show v / 4 = v / 2 ^ 2 from rfl, Nat.testBit_div_two_pow, Nat.add_comm]
  have hpos := Nat.two_pow_pos (n - 2)
  constructor
  · intro h
    have hall : v / 4 = 2 ^ (n - 2) - 1 := by
      apply Nat.eq_of_testBit_eq
      intro k
      rw [hshift, Nat.testBit_two_pow_sub_one]
      by_cases hk : k < n - 2
      · rw [h (2 + k) (by omega) (by omega), decide_eq_true hk]
      · have hpow : 2 ^ n ≤ 2 ^ (2 + k) := Nat.pow_le_pow_right (by decide) (by omega)
        rw [Nat.testBit_lt_two_pow (Nat.lt_of_lt_of_le hv hpow), decide_eq_false hk]
    omega
  · intro h k hk hkn
    have hall : v / 4 = 2 ^ (n - 2) - 1 := by omega
    have hbit := hshift (k - 2)
    rw [hall, Nat.testBit_two_pow_sub_one, decide_eq_true (by omega : k - 2 < n - 2)] at hbit
    rw [hbit]
    congr 1
    omega

/-- The values whose bits are their masks: none of the bits, or all but some of the lowest two. -/
theorem selfMasked_iff {n v : Nat} (hn : 2 ≤ n) (hv : v < 2 ^ n) :
    SelfMasked n v ↔ v = 0 ∨ 2 ^ n - 3 ≤ v := by
  have hfour : 2 ^ n = 4 * 2 ^ (n - 2) := by
    rw [show 4 = 2 ^ 2 from rfl, ← Nat.pow_add, Nat.add_sub_cancel' hn]
  constructor
  · intro h
    by_cases hlow : v.testBit 0 = true ∨ v.testBit 1 = true
    · have hhigh := (testBit_high_iff hn hv).mp fun k hk hkn => h.testBit hlow hk hkn
      have hmod := (testBit_low_iff v).mp hlow
      omega
    · rw [not_or, Bool.not_eq_true, Bool.not_eq_true] at hlow
      exact .inl (h.eq_zero hv hlow.1 hlow.2)
  · rintro (rfl | hge) k hkn
    · simp
    · have hlow : v.testBit 0 = true ∨ v.testBit 1 = true := (testBit_low_iff v).mpr (by omega)
      have hhigh := (testBit_high_iff hn hv).mpr (by omega)
      rcases Nat.lt_or_ge k 2 with hk | hk
      · obtain rfl | rfl : k = 0 ∨ k = 1 := by omega
        · exact (and_two_pow_ne_zero_iff v 0).symm
        · exact (and_two_pow_ne_zero_iff v 1).symm
      · refine iff_of_true (hhigh k hk hkn) (and_succ_ne_zero hk hlow fun j hj hjk => ?_)
        exact hhigh j hj (Nat.lt_trans hjk hkn)

/-! ## Writing and reading a group -/

namespace GpioGroup

variable {g : GpioGroup} {held : Unit → Bool}

/-- The pins hold the value, the last pin its bit 0. -/
def Holds (g : GpioGroup) (pins : Pins) (value : BitVec 32) : Prop :=
  ∀ i (_ : i < g.gpioGroup.length), pins g.gpioGroup[i] = value.getLsbD (g.gpioCount - 1 - i)

/-- Without errors, a value that is written is on the pins and is read back. -/
def ReadsBack (g : GpioGroup) (value : BitVec 32) : Prop :=
  ∀ d : Device Unit Errno Pins, d.Quiet →
    ∃ d' d'', (gpioGroupLevelWrite g value).out d = (.ok (), d') ∧
      (gpioGroupLevelRead g).out d' = (.ok value, d'') ∧ g.Holds d'.hw value

theorem serves_write {value : BitVec 32} (hv : value.toNat < 2 ^ g.gpioCount) :
    Serves (gpioGroupLevelWrite g value) g.gpioCount fun pins => ((), drive value g.gpioGroup pins) :=
  ((Serves.assert hv).bind fun _ => serves_writeLoop value 0 g.gpioGroup (Nat.zero_add _)).of_eq
    (Nat.zero_add _)

theorem serves_read (g : GpioGroup) :
    Serves (gpioGroupLevelRead g) g.gpioCount fun pins => (gather pins g.gpioGroup, pins) := by
  have h := serves_readLoop 0 g.gpioGroup (Nat.zero_add _) 0
  simp only [BitVec.ofNat_eq_ofNat, BitVec.zero_or] at h
  exact h

/-- What is read is a value iff the pins whose bits a value has hold its bits. -/
theorem gather_eq_iff_low {value : BitVec 32} (hv : value.toNat < 2 ^ g.gpioCount) (pins : Pins) :
    gather pins g.gpioGroup = value ↔ ∀ i (_ : i < g.gpioGroup.length), g.gpioCount - 1 - i < 32 →
      pins g.gpioGroup[i] = value.getLsbD (g.gpioCount - 1 - i) := by
  constructor
  · rintro rfl i hi h32
    exact (getLsbD_gather hi h32).symm
  · intro h
    apply BitVec.eq_of_getLsbD_eq
    intro k hk
    rcases Nat.lt_or_ge k g.gpioCount with hlt | hge
    · rw [GpioGroup.gpioCount] at hlt
      have hi : g.gpioGroup.length - 1 - k < g.gpioGroup.length := by omega
      have hbit : g.gpioGroup.length - 1 - (g.gpioGroup.length - 1 - k) = k := by omega
      have h32 : g.gpioGroup.length - 1 - (g.gpioGroup.length - 1 - k) < 32 := by omega
      have hpin := (getLsbD_gather hi h32).trans (h _ hi h32)
      rw [GpioGroup.gpioCount, hbit] at hpin
      exact hpin
    · rw [getLsbD_gather_of_ge hge, (toNat_lt_iff value _).mp hv k hge]

theorem gather_eq_iff (h32 : g.gpioCount ≤ 32) {value : BitVec 32} (hv : value.toNat < 2 ^ g.gpioCount)
    (pins : Pins) : gather pins g.gpioGroup = value ↔ g.Holds pins value := by
  rw [gather_eq_iff_low hv]
  exact forall_congr' fun i => forall_congr' fun _ => imp_iff_right (by omega)

theorem level_iff (value : BitVec 32) {left : Nat} (h : left < 2 ^ 32) :
    level value left = true ↔ value.toNat &&& left ≠ 0 := by
  rw [level, decide_eq_true_iff, Ne, BitVec.toNat_inj.symm, BitVec.toNat_and, BitVec.toNat_ofNat,
    Nat.mod_eq_of_lt h]
  rfl

theorem holds_drive_iff (h32 : g.gpioCount < 2 ^ 32) (value : BitVec 32) (pins : Pins) :
    g.Holds (drive value g.gpioGroup pins) value ↔ SelfMasked g.gpioCount value.toNat := by
  have hlength : g.gpioGroup.length = g.gpioCount := rfl
  have hpin : ∀ k < g.gpioCount, ∀ _ : g.gpioCount - 1 - k < g.gpioGroup.length,
      (drive value g.gpioGroup pins g.gpioGroup[g.gpioCount - 1 - k] = true ↔
        value.toNat &&& (k + 1) ≠ 0) := by
    intro k hk hi
    have hleft : g.gpioGroup.length - (g.gpioCount - 1 - k) = k + 1 := by omega
    rw [drive_getElem value g.nodup pins hi, hleft]
    exact level_iff value (by omega)
  constructor
  · intro h k hk
    have hi : g.gpioCount - 1 - k < g.gpioCount := by omega
    have hbit := h _ hi
    rw [show g.gpioCount - 1 - (g.gpioCount - 1 - k) = k by omega] at hbit
    rw [BitVec.testBit_toNat, ← hbit]
    exact hpin k hk hi
  · intro h i hi
    have hk : g.gpioCount - 1 - i < g.gpioCount := by omega
    have hbit := (h _ hk).symm
    rw [← hpin _ hk (by omega), BitVec.testBit_toNat, ← Bool.eq_iff_iff] at hbit
    rw [← hbit]
    congr 2
    omega

theorem readsBack_iff_selfMasked (hcount : g.gpioCount ≤ 31) {value : BitVec 32}
    (hv : value.toNat < 2 ^ g.gpioCount) : g.ReadsBack value ↔ SelfMasked g.gpioCount value.toNat := by
  constructor
  · intro h
    obtain ⟨d', d'', hwrite, -, hholds⟩ := h ⟨fun _ => false, fun _ => none, 0, fun _ => false⟩ fun _ _ => rfl
    obtain ⟨e, hout, -, -, hpins⟩ := (serves_write hv).gives
      ⟨fun _ => false, fun _ => none, 0, fun _ => false⟩ (fun _ _ => rfl) rfl rfl
    rw [hwrite] at hout
    cases hout
    rw [hpins] at hholds
    exact (holds_drive_iff (by omega) value _).mp hholds
  · intro h d hd
    have hholds := (holds_drive_iff (g := g) (by omega) value d.hw).mpr h
    obtain ⟨d', hwrite, hd', hheld, hpins⟩ := (serves_write hv).gives d hd rfl rfl
    obtain ⟨d'', hread, -⟩ := (serves_read g).gives d' hd' rfl rfl
    rw [(gather_eq_iff (by omega) hv d'.hw).mpr (hpins ▸ hholds)] at hread
    exact ⟨d', d'', hwrite, hread, hpins ▸ hholds⟩

/-- A value is read back iff it is zero or one of the three greatest. -/
theorem readsBack_iff (hcount : g.gpioCount ≤ 31) {value : BitVec 32} (hv : value.toNat < 2 ^ g.gpioCount) :
    g.ReadsBack value ↔ value = 0 ∨ 2 ^ g.gpioCount - 3 ≤ value.toNat := by
  have hzero : value = 0 ↔ value.toNat = 0 := BitVec.toNat_inj.symm
  rw [hzero, readsBack_iff_selfMasked hcount hv]
  exact selfMasked_iff g.two_le hv

def eightPins : GpioGroup := ⟨[8, 9, 10, 11, 12, 13, 14, 15], by decide, by decide⟩

theorem readsBack_eightPins :
    eightPins.ReadsBack 0xfe ↔ (0xfe : BitVec 32) = 0 ∨ 2 ^ 8 - 3 ≤ (0xfe : BitVec 32).toNat :=
  readsBack_iff (g := eightPins) (by decide) (by decide)

/-- With three pins, selector 4 drives the pins of selector 0. -/
theorem not_readsBack_threePins : ¬ ReadsBack ⟨[1, 2, 3], by decide, by decide⟩ 4 := by
  rw [readsBack_iff_selfMasked (by decide) (by decide)]
  intro h
  exact absurd ((h 2 (by decide)).mp rfl) (by decide)

end GpioGroup

end OpxSdi.Gpio
