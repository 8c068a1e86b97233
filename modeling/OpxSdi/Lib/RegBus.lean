import OpxSdi.Lib.Acts
import OpxSdi.Lib.Checked

/-!
# A bus to byte registers

A read returns the last byte written to its address. A schedule says which transactions fail; a failing
transaction leaves the registers alone.
-/

namespace OpxSdi.Lib

/-- What ends a sequence of accesses early: a bus error, or a computation without a value. -/
inductive Stop (ε : Type)
  | bus (e : ε)
  | undefined
  deriving DecidableEq, Repr

structure RegBus (α ε : Type) where
  regs : α → Byte
  /-- The error of transaction number `n`, if it fails. -/
  fault : Nat → Option ε
  time : Nat

namespace RegBus

variable {α ε : Type}

abbrev M (α ε : Type) := Acts (RegBus α ε) (Stop ε)

/-- The next transaction: it fails, or has its effect on the registers and returns a byte. -/
def transact {β : Type} (f : (α → Byte) → β × (α → Byte)) : M α ε β := fun b =>
  match b.fault b.time with
  | some e => (.error (.bus e), { b with time := b.time + 1 })
  | none => (.ok (f b.regs).1, { b with regs := (f b.regs).2, time := b.time + 1 })

def readByte (a : α) : M α ε Byte := transact fun regs => (regs a, regs)

def writeByte [DecidableEq α] (a : α) (v : Byte) : M α ε Unit :=
  transact fun regs => ((), fun a' => if a' = a then v else regs a')

def ofOption {β : Type} : Option β → M α ε β
  | some x => pure x
  | none => throw .undefined

/-- Replace the byte at `a` by what `f` makes of it. -/
def modifyByte [DecidableEq α] (a : α) (f : Byte → Option Byte) : M α ε Unit := do
  let old ← readByte a
  let new ← ofOption (f old)
  writeByte a new

/-- Replace the bytes at `n` addresses from number `k` on, one after another. -/
def modifyEach [DecidableEq α] (addr : Nat → α) (f : Nat → Byte → Option Byte) : (n k : Nat) → M α ε Unit
  | 0, _ => pure ()
  | n + 1, k => do
      modifyByte (addr k) (f k)
      modifyEach addr f n (k + 1)

/-- No transaction among the next `n` fails. -/
def Quiet (b : RegBus α ε) (n : Nat) : Prop := ∀ t < n, b.fault (b.time + t) = none

theorem Quiet.mono {b : RegBus α ε} {m n : Nat} (h : b.Quiet n) (hm : m ≤ n) : b.Quiet m :=
  fun t ht => h t (by omega)

theorem quiet_two_iff {b : RegBus α ε} :
    b.Quiet 2 ↔ b.fault b.time = none ∧ b.fault (b.time + 1) = none := by
  refine ⟨fun h => ⟨h 0 (by omega), h 1 (by omega)⟩, fun ⟨hfirst, hsecond⟩ t ht => ?_⟩
  obtain rfl | rfl : t = 0 ∨ t = 1 := by omega
  · exact hfirst
  · exact hsecond

theorem ofOption_some {β : Type} (x : β) (b : RegBus α ε) :
    (ofOption (some x) : M α ε β).out b = (.ok x, b) := rfl

theorem ofOption_none {β : Type} (b : RegBus α ε) :
    (ofOption none : M α ε β).out b = (.error .undefined, b) := rfl

theorem transact_ok {β : Type} (f : (α → Byte) → β × (α → Byte)) {b : RegBus α ε}
    (h : b.fault b.time = none) :
    (transact f).out b = (.ok (f b.regs).1, { b with regs := (f b.regs).2, time := b.time + 1 }) := by
  simp only [transact, Acts.out, ExceptT.run, StateT.run, h]

theorem transact_fault {β : Type} (f : (α → Byte) → β × (α → Byte)) {b : RegBus α ε} {e : ε}
    (h : b.fault b.time = some e) :
    (transact f).out b = (.error (.bus e), { b with time := b.time + 1 }) := by
  simp only [transact, Acts.out, ExceptT.run, StateT.run, h]

section Modify

variable [DecidableEq α]

def replaced (b : RegBus α ε) (a : α) (v : Byte) : RegBus α ε :=
  { b with regs := fun a' => if a' = a then v else b.regs a', time := b.time + 2 }

theorem modifyByte_ok {b : RegBus α ε} {a : α} {f : Byte → Option Byte} {v : Byte}
    (hf : f (b.regs a) = some v) (hq : b.Quiet 2) : (modifyByte a f).out b = (.ok (), b.replaced a v) := by
  have hread : (readByte a).out b = (.ok (b.regs a), { b with time := b.time + 1 }) :=
    transact_ok _ (hq 0 (by omega))
  rw [modifyByte, Acts.out_bind_ok hread, hf, Acts.out_bind_ok (ofOption_some v _)]
  exact transact_ok (b := { b with time := b.time + 1 }) _ (hq 1 (by omega))

theorem modifyByte_read_fault {b : RegBus α ε} {a : α} {f : Byte → Option Byte} {e : ε}
    (h : b.fault b.time = some e) :
    (modifyByte a f).out b = (.error (.bus e), { b with time := b.time + 1 }) :=
  Acts.out_bind_error (transact_fault _ h)

theorem modifyByte_fault {b : RegBus α ε} {a : α} {f : Byte → Option Byte} {v : Byte}
    (hf : f (b.regs a) = some v) (hq : ¬ b.Quiet 2) :
    ∃ e n, (modifyByte a f).out b = (.error (.bus e), { b with time := n }) := by
  cases h0 : b.fault b.time with
  | some e => exact ⟨e, b.time + 1, modifyByte_read_fault h0⟩
  | none =>
      have hread : (readByte a).out b = (.ok (b.regs a), { b with time := b.time + 1 }) :=
        transact_ok _ h0
      cases h1 : b.fault (b.time + 1) with
      | some e =>
          refine ⟨e, b.time + 2, ?_⟩
          rw [modifyByte, Acts.out_bind_ok hread, hf, Acts.out_bind_ok (ofOption_some v _)]
          exact transact_fault (b := { b with time := b.time + 1 }) _ h1
      | none => exact absurd (quiet_two_iff.mpr ⟨h0, h1⟩) hq

theorem modifyByte_undefined {b : RegBus α ε} {a : α} {f : Byte → Option Byte}
    (hf : f (b.regs a) = none) (h : b.fault b.time = none) :
    (modifyByte a f).out b = (.error .undefined, { b with time := b.time + 1 }) := by
  have hread : (readByte a).out b = (.ok (b.regs a), { b with time := b.time + 1 }) := transact_ok _ h
  rw [modifyByte, Acts.out_bind_ok hread, hf, Acts.out_bind_error (ofOption_none _)]

/-- The first `m` addresses from number `k` on hold what `g` makes of their bytes, and every other
address holds what it held. -/
structure Modified (addr : Nat → α) (g : Nat → Byte → Byte) (k m : Nat) (b b' : RegBus α ε) : Prop where
  inside : ∀ i, k ≤ i → i < k + m → b'.regs (addr i) = g i (b.regs (addr i))
  outside : ∀ a, (∀ i, k ≤ i → i < k + m → a ≠ addr i) → b'.regs a = b.regs a
  fault : b'.fault = b.fault

theorem quiet_replaced_iff {b : RegBus α ε} (hq : b.Quiet 2) (a : α) (v : Byte) (n : Nat) :
    (b.replaced a v).Quiet n ↔ b.Quiet (n + 2) := by
  constructor
  · intro h t ht
    rcases Nat.lt_or_ge t 2 with hlt | hge
    · exact hq t hlt
    · have hrest := h (t - 2) (by omega)
      simp only [replaced] at hrest
      rwa [show b.time + 2 + (t - 2) = b.time + t by omega] at hrest
  · intro h t ht
    have hrest := h (t + 2) (by omega)
    simp only [replaced]
    rwa [show b.time + 2 + t = b.time + (t + 2) by omega]

omit [DecidableEq α] in
theorem Modified.refl (addr : Nat → α) (g : Nat → Byte → Byte) (k : Nat) {b b' : RegBus α ε}
    (hregs : b'.regs = b.regs) (hfault : b'.fault = b.fault) : Modified addr g k 0 b b' :=
  ⟨fun i hk hi => by omega, fun a _ => congrFun hregs a, hfault⟩

/-- The first address is not touched again when the others are modified. -/
theorem Modified.cons {addr : Nat → α} {g : Nat → Byte → Byte} {k m : Nat} {b b' : RegBus α ε}
    (hne : ∀ i, k < i → i < k + (m + 1) → addr k ≠ addr i)
    (h : Modified addr g (k + 1) m (b.replaced (addr k) (g k (b.regs (addr k)))) b') :
    Modified addr g k (m + 1) b b' := by
  refine ⟨fun i hi hi' => ?_, fun a ha => ?_, h.fault⟩
  · rcases Nat.eq_or_lt_of_le hi with rfl | hlt
    · rw [h.outside _ fun j hj hj' => hne j hj (by omega)]
      simp only [replaced, ↓reduceIte]
    · rw [h.inside i hlt (by omega)]
      simp only [replaced, (hne i hlt hi').symm, ↓reduceIte]
  · rw [h.outside a fun i hi hi' => ha i (by omega) (by omega)]
    simp only [replaced, ha k (Nat.le_refl k) (by omega), ↓reduceIte]

/-- All addresses are modified iff no transaction fails; otherwise those before the failure. -/
theorem modifyEach_spec (addr : Nat → α) {f : Nat → Byte → Option Byte} {g : Nat → Byte → Byte} (n : Nat)
    {k : Nat} {b : RegBus α ε} (hf : ∀ i, k ≤ i → i < k + n → ∀ old, f i old = some (g i old))
    (hinj : ∀ i j, k ≤ i → i < j → j < k + n → addr i ≠ addr j) :
    ∃ m ≤ n, (m = n ↔ b.Quiet (2 * n)) ∧
      (((modifyEach addr f n k).out b).1 = .ok () ↔ m = n) ∧
      ((modifyEach addr f n k).out b).1 ≠ .error .undefined ∧
      Modified addr g k m b ((modifyEach addr f n k).out b).2 := by
  induction n generalizing k b with
  | zero =>
      refine ⟨0, Nat.le_refl 0, ⟨fun _ t ht => by omega, fun _ => rfl⟩, ⟨fun _ => rfl, fun _ => rfl⟩, ?_, ?_⟩
      · rw [modifyEach, Acts.out_pure]
        exact fun h => by cases h
      · exact .refl addr g k rfl rfl
  | succ n ih =>
      have hv := hf k (Nat.le_refl k) (by omega) (b.regs (addr k))
      by_cases hq : b.Quiet 2
      · have hstep := modifyByte_ok hv hq
        obtain ⟨m, hm, hquiet, hok, hund, hmod⟩ := ih (k := k + 1)
          (b := b.replaced (addr k) (g k (b.regs (addr k))))
          (fun i hi hi' => hf i (by omega) (by omega))
          (fun i j hi hij hj => hinj i j (by omega) hij (by omega))
        refine ⟨m + 1, by omega, ?_, ?_, ?_, ?_⟩
        · rw [Nat.add_right_cancel_iff, hquiet]
          exact quiet_replaced_iff hq _ _ (2 * n)
        · rw [modifyEach, Acts.out_bind_ok hstep, Nat.add_right_cancel_iff]
          exact hok
        · rw [modifyEach, Acts.out_bind_ok hstep]
          exact hund
        · rw [modifyEach, Acts.out_bind_ok hstep]
          exact hmod.cons fun i hi hi' => hinj k i (Nat.le_refl k) hi (by omega)
      · obtain ⟨e, time, hstep⟩ := modifyByte_fault hv hq
        refine ⟨0, by omega, ⟨fun h => by omega, fun h => absurd (h.mono (by omega)) hq⟩, ?_, ?_, ?_⟩
        · rw [modifyEach, Acts.out_bind_error hstep]
          exact ⟨fun h => (by cases h), fun h => by omega⟩
        · rw [modifyEach, Acts.out_bind_error hstep]
          exact fun h => by cases h
        · rw [modifyEach, Acts.out_bind_error hstep]
          exact .refl addr g k rfl rfl

end Modify

end RegBus

end OpxSdi.Lib
