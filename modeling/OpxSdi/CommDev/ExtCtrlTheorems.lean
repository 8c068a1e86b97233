import OpxSdi.CommDev.Driver
import OpxSdi.CommDev.Lemmas.Memory
import OpxSdi.CommDev.MessagingTheorems
import OpxSdi.Lib.Bits

/-!
# Reading back a temperature in tenths

The two bytes are read as a number without sign, and a failure to receive the first of them is not reported.
-/

namespace OpxSdi.CommDev

open Lib

/-! ## A memory whose transactions may fail -/

structure UnsteadyDev where
  dev : MemDev
  /-- The error of transaction number `n`, if it fails. -/
  fault : Nat → Option Errno
  time : Nat

def unsteadyBus : SmBus UnsteadyDev where
  writeByte cmd buffer d :=
    match d.fault d.time with
    | some e => (.errcode e, { d with time := d.time + 1 })
    | none => (.ok, { d with dev := (memBus.writeByte cmd buffer d.dev).2, time := d.time + 1 })
  recvByte d :=
    match d.fault d.time with
    | some e => (.error e, { d with time := d.time + 1 })
    | none => ((memBus.recvByte d.dev).1, { d with dev := (memBus.recvByte d.dev).2, time := d.time + 1 })
  writeBlock cmd block d :=
    match d.fault d.time with
    | some e => (.errcode e, { d with time := d.time + 1 })
    | none =>
        ((memBus.writeBlock cmd block d.dev).1,
          { d with dev := (memBus.writeBlock cmd block d.dev).2, time := d.time + 1 })

def unsteadyDevice : Resource UnsteadyDev := ⟨.commDev, unsteadyBus⟩

/-- The value of two bytes, the high one first -/
def celsius (high low : Byte) : BitVec 32 := (high.setWidth 32 <<< 8 ||| low.setWidth 32).sdiv 10

/-- A get computes its value from the two bytes that its buffer holds after the read, whatever has been received. -/
theorem extCtrlDataGet_out {σ : Type} {R : Resource σ} (ht : R.type = .commDev) (offset : BitVec 16) (refresh : Bool)
    (buffer : Byte × Byte) (s : σ) (high low : Byte)
    (h : fill 0 (exchange R.bus offset 2 s).received [some buffer.1, some buffer.2] = [some low, some high]) :
    ∃ get, extCtrlDataGet R ⟨offset, maxCtrlDataLen, refresh⟩ buffer = .ok get ∧
      get.out s = (.ok ((exchange R.bus offset 2 s).rc, celsius high low), (exchange R.bus offset 2 s).state) := by
  have hread : (commDevRead R offset 2 [some buffer.1, some buffer.2]).out s = _ :=
    commDevRead_of_le ht (Nat.le_refl 2)
  rw [h] at hread
  exact ⟨_, rfl, Acts.out_bind_ok hread⟩

section

variable (regs : ByteMem 16) (next offset : BitVec 16) (fault : Nat → Option Errno) (buffer : Byte × Byte)

/-- The value that a get computes if it has received the last byte -/
def received : BitVec 32 :=
  bif (fault 1).isNone then celsius (regs (offset + 1)) (regs offset) else celsius (regs offset) buffer.1

/-- The bytes that the buffer of a get holds after the read -/
theorem exchange_unsteady : ∃ low high,
    fill 0 (exchange unsteadyBus offset 2 ⟨⟨regs, next⟩, fault, 0⟩).received [some buffer.1, some buffer.2] =
      [some low, some high] ∧
    ((exchange unsteadyBus offset 2 ⟨⟨regs, next⟩, fault, 0⟩).rc = .ok ↔ fault 0 = none ∧ fault 2 = none) ∧
    ((exchange unsteadyBus offset 2 ⟨⟨regs, next⟩, fault, 0⟩).rc = .ok →
      celsius high low = received regs offset fault buffer) := by
  rw [exchange]
  cases h0 : fault 0 with
  | some e =>
      simp only [unsteadyBus, h0]
      exact ⟨buffer.1, buffer.2, rfl, by simp, fun h => by simp at h⟩
  | none =>
      simp only [unsteadyBus, memBus, h0, receive, high_append_low, ↓reduceIte, received]
      cases h1 : fault 1 with
      | none =>
          cases h2 : fault 2 with
          | none =>
              simp only [h2]
              exact ⟨regs offset, regs (offset + 1), rfl, by simp [lastRc], fun _ => rfl⟩
          | some e =>
              simp only [h2]
              exact ⟨regs offset, buffer.2, rfl, by simp [lastRc], fun h => by simp [lastRc] at h⟩
      | some e =>
          cases h2 : fault 2 with
          | none =>
              simp only [h2]
              exact ⟨buffer.1, regs offset, rfl, by simp [lastRc], fun _ => rfl⟩
          | some e' =>
              simp only [h2]
              exact ⟨buffer.1, buffer.2, rfl, by simp [lastRc], fun h => by simp [lastRc] at h⟩

theorem extCtrlDataGet_unsteady (refresh : Bool) : ∃ get,
    extCtrlDataGet unsteadyDevice ⟨offset, maxCtrlDataLen, refresh⟩ buffer = .ok get ∧
    ∃ rc data d, get.out ⟨⟨regs, next⟩, fault, 0⟩ = (.ok (rc, data), d) ∧
      (rc = .ok ↔ fault 0 = none ∧ fault 2 = none) ∧
      (rc = .ok → data = received regs offset fault buffer) := by
  obtain ⟨low, high, hfill, hrc, hdata⟩ := exchange_unsteady regs next offset fault buffer
  obtain ⟨get, heq, hout⟩ := extCtrlDataGet_out (R := unsteadyDevice) rfl offset refresh buffer
    ⟨⟨regs, next⟩, fault, 0⟩ high low hfill
  exact ⟨get, heq, _, _, _, hout, hrc, hdata⟩

end

/-! ## What comes back -/

/-- Ten times the temperature is a number of 16 bits with sign. -/
def InTenths (t : BitVec 32) : Prop := -2 ^ 15 ≤ 10 * t.toInt ∧ 10 * t.toInt < 2 ^ 15

instance (t : BitVec 32) : Decidable (InTenths t) := inferInstanceAs (Decidable (_ ∧ _))

theorem toNat_celsius (high low : Byte) : (celsius high low).toNat = (high.toNat * 256 + low.toNat) / 10 := by
  rw [celsius, toNat_sdiv_ten, toNat_shiftLeft_or]
  rw [toNat_shiftLeft_or]
  have := high.isLt
  have := low.isLt
  omega

/-- The two bytes are read without a sign. -/
theorem celsius_tenths_iff {t : BitVec 32} (h : InTenths t) :
    celsius (highByte ((t * 10).setWidth 16)) (lowByte ((t * 10).setWidth 16)) = t ↔ 0 ≤ t.toInt := by
  obtain ⟨hmin, hmax⟩ := h
  have hword (w : BitVec 16) : (highByte w).toNat * 256 + (lowByte w).toNat = w.toNat := by
    simp only [highByte, lowByte, BitVec.toNat_setWidth, BitVec.toNat_ushiftRight, Nat.shiftRight_eq_div_pow]
    omega
  have hint := BitVec.toInt_eq_toNat_cond t
  have hlt := t.isLt
  rw [← BitVec.toNat_inj, toNat_celsius, hword, BitVec.toNat_setWidth, BitVec.toNat_mul, hint]
  rw [hint] at hmin hmax
  change t.toNat * 10 % 2 ^ 32 % 2 ^ 16 / 10 = t.toNat ↔ _
  split at hmin <;> split <;> omega

/-- The value that is got if only the second byte has been received depends on what its buffer held before. -/
theorem exists_celsius_ne (high : Byte) (t : BitVec 32) : ∃ low, celsius high low ≠ t := by
  by_cases h : celsius high 0 = t
  · refine ⟨10, fun hten => ?_⟩
    have := congrArg BitVec.toNat (h.trans hten.symm)
    rw [toNat_celsius, toNat_celsius] at this
    change (_ + 0) / 10 = (_ + 10) / 10 at this
    omega
  · exact ⟨0, h⟩

theorem afterTemperature_bytes (offset : BitVec 16) (refresh : Bool) (t : BitVec 32) (regs : ByteMem 16) :
    afterTemperature offset refresh t regs offset = lowByte ((t * 10).setWidth 16) ∧
      afterTemperature offset refresh t regs (offset + 1) = highByte ((t * 10).setWidth 16) := by
  have hbytes := ByteMem.bytesAt_storeAt (bif refresh then afterRefresh regs else regs) offset (tenths t)
    (show 2 ≤ 2 ^ 16 by decide)
  obtain ⟨hlow, hrest⟩ := List.cons.inj hbytes
  obtain ⟨hhigh, -⟩ := List.cons.inj hrest
  exact ⟨(congrArg _ (BitVec.add_zero offset).symm).trans hlow, hhigh⟩

/-- A call that sets a temperature without errors, and one that gets it from a device that may fail -/
structure CtrlReadsBack (d : MemDev) (offset : BitVec 16) (refresh : Bool) (t : BitVec 32)
    (fault : Nat → Option Errno) : Prop where
  value : InTenths t → ∀ set d', extCtrlDataSet memDevice ⟨offset, maxCtrlDataLen, refresh⟩ t 1 = .ok set →
    set.out d = (.ok .ok, d') → ∀ buffer get data d'',
      extCtrlDataGet unsteadyDevice ⟨offset, maxCtrlDataLen, refresh⟩ buffer = .ok get →
      get.out ⟨d', fault, 0⟩ = (.ok (.ok, data), d'') → data = t
  refused : ¬InTenths t → ∀ set rc d', extCtrlDataSet memDevice ⟨offset, maxCtrlDataLen, refresh⟩ t 1 = .ok set →
    set.out d = (.ok rc, d') → rc ≠ .ok

theorem ctrlReadsBack_iff (d : MemDev) (offset : BitVec 16) (refresh : Bool) (t : BitVec 32)
    (fault : Nat → Option Errno) : CtrlReadsBack d offset refresh t fault ↔
      InTenths t ∧ (fault 0 = none → fault 2 = none → fault 1 = none ∧ 0 ≤ t.toInt) := by
  obtain ⟨next, hset⟩ := extCtrlStore_mem offset t refresh d
  obtain ⟨hlow, hhigh⟩ := afterTemperature_bytes offset refresh t d.regs
  constructor
  · intro h
    have ht : InTenths t := Decidable.byContradiction fun ht => h.refused ht _ _ _ rfl hset rfl
    refine ⟨ht, fun h0 h2 => ?_⟩
    have hvalue (buffer : Byte × Byte) :
        received (afterTemperature offset refresh t d.regs) offset fault buffer = t := by
      obtain ⟨get, heq, rc, data, d', hout, hrc, hdata⟩ := extCtrlDataGet_unsteady
        (afterTemperature offset refresh t d.regs) next offset fault buffer refresh
      obtain rfl := hrc.mpr ⟨h0, h2⟩
      rw [← hdata rfl]
      exact h.value ht _ _ rfl hset buffer get data d' heq hout
    cases h1 : fault 1 with
    | none =>
        have hnone := hvalue (0, 0)
        rw [received, h1, hlow, hhigh] at hnone
        exact ⟨rfl, (celsius_tenths_iff ht).mp hnone⟩
    | some e =>
        obtain ⟨low, hne⟩ := exists_celsius_ne (afterTemperature offset refresh t d.regs offset) t
        have hsome := hvalue (low, 0)
        rw [received, h1] at hsome
        exact absurd hsome hne
  · rintro ⟨ht, hreads⟩
    refine ⟨fun _ set d' heq hout buffer get data d'' hget hgot => ?_, fun hno => absurd ht hno⟩
    cases heq
    cases hset.symm.trans hout
    obtain ⟨get', heq', rc, data', d3, hout', hrc, hdata⟩ := extCtrlDataGet_unsteady
      (afterTemperature offset refresh t d.regs) next offset fault buffer refresh
    cases heq'.symm.trans hget
    cases hout'.symm.trans hgot
    obtain ⟨h0, h2⟩ := hrc.mp rfl
    obtain ⟨h1, hsign⟩ := hreads h0 h2
    rw [hdata rfl, received, h1, hlow, hhigh]
    exact (celsius_tenths_iff ht).mpr hsign

end OpxSdi.CommDev
