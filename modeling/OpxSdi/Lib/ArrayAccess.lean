import Mathlib.Data.List.DropRight
import Mathlib.Logic.Function.Basic
import OpxSdi.Lib.Checked

/-!
# Arrays whose accesses are recorded

A computation on one array with the indices that it accesses. It stops at the first index outside of the
array; nothing is assumed of the memory there.
-/

namespace OpxSdi.Lib

structure ArrayState where
  bytes : Nat → Byte
  accessed : List ℤ

/-- Computations on an array: the error is the index at which one stops. -/
abbrev ArrayM := StateT ArrayState (Except ℤ)

namespace ArrayM

variable {α β : Type} {size n : Nat} {x : ArrayM α} {bytes bytes' bytes'' : Nat → Byte} {a : α} {b : β}

def load (size : Nat) (i : ℤ) : ArrayM Byte := fun s =>
  if 0 ≤ i ∧ i < size then .ok (s.bytes i.toNat, { s with accessed := s.accessed ++ [i] }) else .error i

def store (size : Nat) (i : ℤ) (b : Byte) : ArrayM Unit := fun s =>
  if 0 ≤ i ∧ i < size then .ok ((), ⟨Function.update s.bytes i.toNat b, s.accessed ++ [i]⟩) else .error i

/-- Load the first `n` bytes. -/
def loads (size : Nat) : (n : Nat) → ArrayM (List Byte)
  | 0 => pure []
  | n + 1 => do
      let bs ← loads size n
      let b ← load size n
      pure (bs ++ [b])

/-! ## Computations that return -/

/-- The computation returns `a` and leaves these bytes; the indices that it accesses are less than `n`. -/
def Does (n : Nat) (x : ArrayM α) (bytes : Nat → Byte) (a : α) (bytes' : Nat → Byte) : Prop :=
  ∀ is, ∃ js, x.run ⟨bytes, is⟩ = .ok (a, ⟨bytes', is ++ js⟩) ∧ ∀ j ∈ js, 0 ≤ j ∧ j < n

namespace Does

theorem pure (a : α) : Does n (Pure.pure a) bytes a bytes := by
  intro is
  refine ⟨[], ?_, fun j hj => nomatch hj⟩
  rw [List.append_nil]
  rfl

theorem bind {f : α → ArrayM β} (hx : Does n x bytes a bytes') (hf : Does n (f a) bytes' b bytes'') :
    Does n (x >>= f) bytes b bytes'' := by
  intro is
  obtain ⟨js, hrun, hjs⟩ := hx is
  obtain ⟨ks, hrun', hks⟩ := hf (is ++ js)
  refine ⟨js ++ ks, ?_, fun j hj => (List.mem_append.mp hj).elim (hjs j) (hks j)⟩
  rw [StateT.run_bind, hrun, ← List.append_assoc]
  exact hrun'

theorem load {i : Nat} (h : i < n) (hn : n ≤ size) : Does n (load size i) bytes (bytes i) bytes := by
  intro is
  refine ⟨[(i : ℤ)], if_pos ⟨Int.natCast_nonneg i, by omega⟩, fun j hj => ?_⟩
  rw [List.mem_singleton.mp hj]
  omega

theorem store {i : Nat} (h : i < n) (hn : n ≤ size) (b : Byte) :
    Does n (store size i b) bytes () (Function.update bytes i b) := by
  intro is
  refine ⟨[(i : ℤ)], if_pos ⟨Int.natCast_nonneg i, by omega⟩, fun j hj => ?_⟩
  rw [List.mem_singleton.mp hj]
  omega

theorem loads {m : Nat} (h : m ≤ n) (hn : n ≤ size) :
    Does n (loads size m) bytes ((List.range m).map bytes) bytes := by
  induction m with
  | zero => exact pure []
  | succ m ih =>
      rw [List.range_succ, List.map_append]
      exact (ih (Nat.le_of_succ_le h)).bind ((load h hn).bind (pure _))

end Does

/-! ## Computations that stop -/

/-- The computation stops at the index `i`. -/
def Stops (x : ArrayM α) (bytes : Nat → Byte) (i : ℤ) : Prop := ∀ is, x.run ⟨bytes, is⟩ = .error i

namespace Stops

variable {i : ℤ}

theorem load (h : i < 0) : Stops (load size i) bytes i :=
  fun _ => if_neg fun hi => absurd hi.1 (Int.not_le.mpr h)

theorem bind {f : α → ArrayM β} (hx : Stops x bytes i) : Stops (x >>= f) bytes i := by
  intro is
  rw [StateT.run_bind, hx is]
  rfl

theorem after {f : α → ArrayM β} (hx : Does n x bytes a bytes') (hf : Stops (f a) bytes' i) :
    Stops (x >>= f) bytes i := by
  intro is
  obtain ⟨js, hrun, -⟩ := hx is
  rw [StateT.run_bind, hrun]
  exact hf _

end Stops

end ArrayM

end OpxSdi.Lib
