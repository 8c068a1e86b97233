import Mathlib.Algebra.Group.Int.Defs
import Mathlib.Algebra.Group.Nat.Defs

/-!
# Memory accesses that are checked against the object they are made on

A computation on buffers either returns a value or stops at the first access that leaves its object.
Two computations run in lockstep when both return, with the same value.
-/

namespace OpxSdi.Lib

abbrev Byte := BitVec 8

/-- What stops a checked computation: an access outside the object, the use of a byte that has not been
written, or a loop without fuel. -/
inductive Fault
  | load (i : Nat)
  | store (i : Nat)
  | uninit (i : Nat)
  | fuel
  deriving DecidableEq, Repr

abbrev Checked (α : Type) := Except Fault α

theorem Checked.bind_ok {α β : Type} (a : α) (f : α → Checked β) : (.ok a : Checked α) >>= f = f a := rfl

theorem Checked.bind_eq_ok {α β : Type} {x : Checked α} {f : α → Checked β} {r : β}
    (h : x >>= f = .ok r) : ∃ a, x = .ok a ∧ f a = .ok r := by
  cases x with
  | error e => cases h
  | ok a => exact ⟨a, rfl, h⟩

/-! ## Computations that return the same value -/

def Lockstep {α : Type} (x y : Checked α) : Prop := ∃ r, x = .ok r ∧ y = .ok r

namespace Lockstep

variable {α β : Type} {x y : Checked α}

theorem pure (a : α) : Lockstep (.ok a) (.ok a) := ⟨a, rfl, rfl⟩

theorem bind {f g : α → Checked β} (h : Lockstep x y)
    (hf : ∀ a, x = .ok a → Lockstep (f a) (g a)) : Lockstep (x >>= f) (y >>= g) := by
  obtain ⟨r, rfl, rfl⟩ := h
  exact hf r rfl

theorem symm (h : Lockstep x y) : Lockstep y x := by
  obtain ⟨r, hx, hy⟩ := h
  exact ⟨r, hy, hx⟩

theorem eq (h : Lockstep x y) : x = y := by
  obtain ⟨r, rfl, rfl⟩ := h; rfl

theorem returns (h : Lockstep x y) : ∃ r, x = .ok r := by
  obtain ⟨r, hx, _⟩ := h
  exact ⟨r, hx⟩

end Lockstep

/-! ## Computations that stop at a load only -/

/-- No store leaves its object and no loop runs out of fuel. -/
def OnlyLoads {α : Type} (x : Checked α) : Prop := ∀ f, x = .error f → ∃ i, f = .load i

namespace OnlyLoads

variable {α β : Type} {x : Checked α}

theorem ok (a : α) : OnlyLoads (.ok a) := by
  intro f h; cases h

theorem bind {g : α → Checked β} (hx : OnlyLoads x) (hg : ∀ a, x = .ok a → OnlyLoads (g a)) :
    OnlyLoads (x >>= g) := by
  cases x with
  | error e => exact fun f h => hx f (by cases h; rfl)
  | ok a => exact hg a rfl

end OnlyLoads

/-! ## Pointers into a buffer -/

/-- A pointer: the buffer it points into and the offset of the byte it points at. -/
structure Ptr where
  buf : List Byte
  off : Nat
  deriving DecidableEq

namespace Ptr

def add (p : Ptr) (n : Nat) : Ptr := { p with off := p.off + n }

@[simp] theorem add_buf (p : Ptr) (n : Nat) : (p.add n).buf = p.buf := rfl
@[simp] theorem add_off (p : Ptr) (n : Nat) : (p.add n).off = p.off + n := rfl

def load (p : Ptr) (i : Nat) : Checked Byte :=
  match p.buf[p.off + i]? with
  | some b => .ok b
  | none => .error (.load (p.off + i))

theorem load_add (p : Ptr) (n i : Nat) : (p.add n).load i = p.load (n + i) := by
  simp [load, Nat.add_assoc]

theorem load_ok {p : Ptr} {i : Nat} (h : p.off + i < p.buf.length) :
    p.load i = .ok (p.buf.getD (p.off + i) 0) := by
  simp [load, List.getElem?_eq_getElem h]

theorem load_error {p : Ptr} {i : Nat} (h : p.buf.length ≤ p.off + i) :
    p.load i = .error (.load (p.off + i)) := by
  simp [load, List.getElem?_eq_none h]

theorem lt_of_load {p : Ptr} {i : Nat} {b : Byte} (h : p.load i = .ok b) :
    p.off + i < p.buf.length ∧ b = p.buf.getD (p.off + i) 0 := by
  rcases Nat.lt_or_ge (p.off + i) p.buf.length with hlt | hge
  · rw [load_ok hlt] at h
    exact ⟨hlt, (Except.ok.inj h).symm⟩
  · rw [load_error hge] at h
    cases h

theorem load_onlyLoads (p : Ptr) (i : Nat) : OnlyLoads (p.load i) := by
  rcases Nat.lt_or_ge (p.off + i) p.buf.length with hlt | hge
  · rw [load_ok hlt]; exact .ok _
  · rw [load_error hge]
    intro f h
    cases h
    exact ⟨_, rfl⟩

def Agree (n : Nat) (p q : Ptr) : Prop := ∀ i < n, Lockstep (p.load i) (q.load i)

theorem Agree.mono {m n : Nat} {p q : Ptr} (h : Agree n p q) (hm : m ≤ n) : Agree m p q :=
  fun i hi => h i (by omega)

theorem Agree.add {m n : Nat} {p q : Ptr} (k : Nat) (h : Agree n p q) (hm : k + m ≤ n) :
    Agree m (p.add k) (q.add k) := by
  intro i hi
  rw [load_add, load_add]
  exact h (k + i) (by omega)

theorem Agree.refl {n : Nat} {p : Ptr} (h : p.off + n ≤ p.buf.length) : Agree n p p :=
  fun i hi => ⟨_, load_ok (by omega), load_ok (by omega)⟩

theorem Agree.block (pre a post : List Byte) :
    Agree a.length ⟨pre ++ a ++ post, pre.length⟩ ⟨a, 0⟩ := by
  intro i hi
  have hget : (pre ++ a ++ post)[pre.length + i]? = some a[i] := by
    rw [List.append_assoc, List.getElem?_append_right (by omega), List.getElem?_append_left (by omega)]
    simp [hi]
  exact ⟨a[i], by simp only [load, hget], by simp [load, hi]⟩

def loadBytes (p : Ptr) : Nat → Checked (List Byte)
  | 0 => .ok []
  | n + 1 => do
      let b ← p.load 0
      let bs ← (p.add 1).loadBytes n
      .ok (b :: bs)

theorem loadBytes_ok {p : Ptr} {n : Nat} (h : p.off + n ≤ p.buf.length) :
    p.loadBytes n = .ok ((p.buf.drop p.off).take n) := by
  induction n generalizing p with
  | zero => simp [loadBytes]
  | succ n ih =>
      have hlt : p.off < p.buf.length := by omega
      have ih' := ih (p := p.add 1) (by simp only [add_off, add_buf]; omega)
      simp only [loadBytes, load_ok (show p.off + 0 < p.buf.length by omega), ih']
      rw [List.drop_eq_getElem_cons hlt, List.take_succ_cons]
      simp [bind, Except.bind, hlt]

end Ptr

/-! ## Arrays of a fixed size -/

variable {k : Nat}

def store (dst : Vector Byte k) (i : Nat) (b : Byte) : Checked (Vector Byte k) :=
  if h : i < k then .ok (dst.set i b h) else .error (.store i)

theorem store_lockstep {i : Nat} (dst : Vector Byte k) (b : Byte) (h : i < k) :
    Lockstep (store dst i b) (store dst i b) := by
  simp only [store, h, ↓reduceDIte]
  exact .pure _

theorem store_onlyLoads {i : Nat} (dst : Vector Byte k) (b : Byte) (h : i < k) :
    OnlyLoads (store dst i b) := by
  simp only [store, h, ↓reduceDIte]
  exact .ok _

def stores (dst : Vector Byte k) : (i : Nat) → List Byte → Checked (Vector Byte k)
  | _, [] => .ok dst
  | i, b :: bs => do
      let dst ← store dst i b
      stores dst (i + 1) bs

theorem stores_ok (dst : Vector Byte k) (i : Nat) {bs : List Byte} (h : i + bs.length ≤ k) :
    ∃ dst', stores dst i bs = .ok dst' ∧
      dst'.toList = dst.toList.take i ++ bs ++ dst.toList.drop (i + bs.length) := by
  induction bs generalizing dst i with
  | nil => exact ⟨dst, rfl, by simp⟩
  | cons b bs ih =>
      rw [List.length_cons] at h
      have hi : i < k := by omega
      obtain ⟨dst', hdst', hlist⟩ := ih (dst.set i b) (i + 1) (by omega)
      refine ⟨dst', ?_, ?_⟩
      · rw [stores, store, dif_pos hi]
        exact hdst'
      · have hset : (dst.set i b).toList = dst.toList.set i b := Vector.toList_set ..
        have htake : (dst.toList.set i b).take (i + 1) = dst.toList.take i ++ [b] := by
          rw [List.set_eq_take_append_cons_drop, if_pos (by simpa using hi), List.take_append,
            List.length_take_of_le (by simp; omega), Nat.add_sub_cancel_left]
          simp [List.take_take]
        have hdrop : (dst.toList.set i b).drop (i + 1 + bs.length) =
            dst.toList.drop (i + (b :: bs).length) := by
          rw [List.drop_set_of_lt (by omega), List.length_cons, Nat.add_assoc, Nat.add_comm 1]
        rw [hlist, hset, htake, hdrop, List.append_assoc (dst.toList.take i), List.singleton_append]

/-- Copy `n` bytes from `p`, from index `i` on, to the same indices of an array. -/
def memcpyFrom (p : Ptr) : (n i : Nat) → Vector Byte k → Checked (Vector Byte k)
  | 0, _, dst => .ok dst
  | n + 1, i, dst => do
      let b ← p.load i
      let dst ← store dst i b
      memcpyFrom p n (i + 1) dst

def memcpy (dst : Vector Byte k) (p : Ptr) (n : Nat) : Checked (Vector Byte k) := memcpyFrom p n 0 dst

theorem memcpyFrom_eq {p : Ptr} {n i : Nat} (dst : Vector Byte k) (h : p.off + i + n ≤ p.buf.length) :
    memcpyFrom p n i dst = stores dst i ((p.buf.drop (p.off + i)).take n) := by
  induction n generalizing i dst with
  | zero => rfl
  | succ n ih =>
      have hlt : p.off + i < p.buf.length := by omega
      rw [List.drop_eq_getElem_cons hlt, List.take_succ_cons, stores, memcpyFrom, Ptr.load_ok hlt, Checked.bind_ok]
      simp only [List.getD_eq_getElem?_getD, List.getElem?_eq_getElem hlt, Option.getD_some]
      exact congrArg _ (funext fun dst' => ih dst' (i := i + 1) (by omega))

theorem memcpy_ok {p : Ptr} {n : Nat} (dst : Vector Byte k) (h : p.off + n ≤ p.buf.length) (hk : n ≤ k) :
    ∃ dst', memcpy dst p n = .ok dst' ∧ dst'.toList = (p.buf.drop p.off).take n ++ dst.toList.drop n := by
  have hlen : ((p.buf.drop p.off).take n).length = n := by
    rw [List.length_take, List.length_drop]
    omega
  have hfits : 0 + ((p.buf.drop p.off).take n).length ≤ k := by omega
  obtain ⟨dst', hdst', hlist⟩ := stores_ok dst 0 hfits
  refine ⟨dst', ?_, ?_⟩
  · rw [memcpy, memcpyFrom_eq dst (by omega)]
    exact hdst'
  · rw [hlist, List.take_zero, List.nil_append, Nat.zero_add, hlen]

theorem memcpyFrom_lockstep {p q : Ptr} {m : Nat} (h : Ptr.Agree m p q) (n i : Nat)
    (dst : Vector Byte k) (hm : i + n ≤ m) (hk : i + n ≤ k) :
    Lockstep (memcpyFrom p n i dst) (memcpyFrom q n i dst) := by
  induction n generalizing i dst with
  | zero => exact .pure dst
  | succ n ih =>
      refine (h i (by omega)).bind fun b _ => ?_
      refine (store_lockstep dst b (by omega)).bind fun dst' _ => ?_
      exact ih (i + 1) dst' (by omega) (by omega)

theorem memcpy_lockstep {p q : Ptr} {n : Nat} (h : Ptr.Agree n p q) (dst : Vector Byte k) (hk : n ≤ k) :
    Lockstep (memcpy dst p n) (memcpy dst q n) :=
  memcpyFrom_lockstep h n 0 dst (by omega) (by omega)

theorem memcpyFrom_onlyLoads (p : Ptr) (n i : Nat) (dst : Vector Byte k) (hk : i + n ≤ k) :
    OnlyLoads (memcpyFrom p n i dst) := by
  induction n generalizing i dst with
  | zero => exact .ok dst
  | succ n ih =>
      refine (p.load_onlyLoads i).bind fun b _ => ?_
      refine (store_onlyLoads dst b (by omega)).bind fun dst' _ => ?_
      exact ih (i + 1) dst' (by omega)

theorem memcpy_onlyLoads (p : Ptr) (n : Nat) (dst : Vector Byte k) (hk : n ≤ k) :
    OnlyLoads (memcpy dst p n) :=
  memcpyFrom_onlyLoads p n 0 dst (by omega)

end OpxSdi.Lib
