import Mathlib.Data.Nat.ModEq
import Mathlib.Logic.Function.Basic
import Mathlib.Tactic.Ring
import OpxSdi.Lib.Checked

/-!
# Memories behind an address pointer

A slave takes the first bytes of a write as an address, most significant byte first, and stores the rest
where its pointer stands. A read starts where the pointer stands. The pointer moves on with every byte
of data and starts again after the last cell.
-/

namespace OpxSdi.Lib

structure Slave where
  addrBytes : Nat
  ptr : Nat
  mem : Nat → Byte

namespace Slave

def size (s : Slave) : Nat := 256 ^ s.addrBytes

/-- Shift a byte of an address into the pointer. -/
def latch (s : Slave) (b : Byte) : Slave := { s with ptr := (s.ptr * 256 + b.toNat) % s.size }

def store (s : Slave) (b : Byte) : Slave :=
  { s with mem := Function.update s.mem s.ptr b, ptr := (s.ptr + 1) % s.size }

def load (s : Slave) : Byte × Slave := (s.mem s.ptr, { s with ptr := (s.ptr + 1) % s.size })

def write (s : Slave) (bs : List Byte) : Slave :=
  (bs.drop s.addrBytes).foldl store ((bs.take s.addrBytes).foldl latch s)

@[simp] theorem latch_addrBytes (s : Slave) (b : Byte) : (s.latch b).addrBytes = s.addrBytes := rfl
@[simp] theorem latch_mem (s : Slave) (b : Byte) : (s.latch b).mem = s.mem := rfl
@[simp] theorem store_addrBytes (s : Slave) (b : Byte) : (s.store b).addrBytes = s.addrBytes := rfl
@[simp] theorem load_addrBytes (s : Slave) : s.load.2.addrBytes = s.addrBytes := rfl
@[simp] theorem load_mem (s : Slave) : s.load.2.mem = s.mem := rfl

/-- The slave with its pointer at `a`. -/
def seek (s : Slave) (a : Nat) : Slave := { s with ptr := a }

@[simp] theorem seek_mem (s : Slave) (a : Nat) : (s.seek a).mem = s.mem := rfl
@[simp] theorem seek_ptr (s : Slave) (a : Nat) : (s.seek a).ptr = a := rfl
@[simp] theorem seek_addrBytes (s : Slave) (a : Nat) : (s.seek a).addrBytes = s.addrBytes := rfl

/-! ## Addresses -/

/-- The number that bytes are, most significant byte first, after the digits of `n`. -/
def beNat (n : Nat) (bs : List Byte) : Nat := bs.foldl (fun n b => n * 256 + b.toNat) n

theorem beNat_cons (n : Nat) (b : Byte) (bs : List Byte) :
    beNat n (b :: bs) = beNat (n * 256 + b.toNat) bs := rfl

theorem beNat_eq (n : Nat) (bs : List Byte) : beNat n bs = n * 256 ^ bs.length + beNat 0 bs := by
  induction bs generalizing n with
  | nil => simp [beNat]
  | cons b bs ih =>
      have h := ih (n * 256 + b.toNat)
      have h0 := ih (0 * 256 + b.toNat)
      simp only [beNat, List.foldl_cons, List.length_cons] at h h0 ⊢
      rw [h, h0, Nat.pow_succ]
      ring

theorem foldl_latch (s : Slave) (b : Byte) (bs : List Byte) :
    (b :: bs).foldl latch s = s.seek (beNat s.ptr (b :: bs) % s.size) := by
  induction bs generalizing s b with
  | nil => rfl
  | cons c bs ih =>
      rw [List.foldl_cons, ih (s.latch b) c]
      have hmod : beNat (s.latch b).ptr (c :: bs) % s.size = beNat s.ptr (b :: c :: bs) % s.size := by
        rw [beNat_eq, beNat_cons s.ptr, beNat_eq (s.ptr * 256 + b.toNat)]
        exact ((Nat.mod_modEq _ _).mul_right _).add_right _
      exact congrArg s.seek hmod

/-- The address bytes move the pointer to the address, wherever it stood. -/
theorem write_addr (s : Slave) {addr : List Byte} (data : List Byte) (h : addr.length = s.addrBytes)
    (hpos : 0 < s.addrBytes) :
    s.write (addr ++ data) = data.foldl store (s.seek (beNat 0 addr % s.size)) := by
  obtain ⟨b, bs, rfl⟩ := List.exists_cons_of_length_pos (h ▸ hpos)
  have hsize : beNat s.ptr (b :: bs) % s.size = beNat 0 (b :: bs) % s.size := by
    rw [beNat_eq, h]
    exact Nat.mul_add_mod_self_right ..
  rw [write, ← h, List.drop_left, List.take_left, foldl_latch, hsize]

theorem write_short (s : Slave) {bs : List Byte} (h : bs.length ≤ s.addrBytes) :
    (s.write bs).mem = s.mem := by
  rw [write, List.drop_eq_nil_of_le h, List.foldl_nil, List.take_of_length_le h]
  cases bs with
  | nil => rfl
  | cons b bs => rw [foldl_latch, seek_mem]

end Slave

end OpxSdi.Lib
