import OpxSdi.Lib.Checked

/-!
# Buffers whose bytes may be indeterminate

A byte of a buffer has no value until one is stored. Loads and stores are checked against the size of
the buffer, and loads against indeterminate bytes.
-/

namespace OpxSdi.Lib

abbrev Buffer := List (Option Byte)

namespace Buffer

def zeroed (n : Nat) : Buffer := List.replicate n (some 0)

/-- A local variable of `n` bytes before its first use. -/
def indeterminate (n : Nat) : Buffer := List.replicate n none

@[simp] theorem length_zeroed (n : Nat) : (zeroed n).length = n := List.length_replicate

@[simp] theorem length_indeterminate (n : Nat) : (indeterminate n).length = n := List.length_replicate

theorem le_length_zeroed (n : Nat) : n ≤ (zeroed n).length := Nat.le_of_eq (length_zeroed n).symm

theorem le_length_indeterminate (n : Nat) : n ≤ (indeterminate n).length :=
  Nat.le_of_eq (length_indeterminate n).symm

def load (buf : Buffer) (i : Nat) : Checked Byte :=
  match buf[i]? with
  | none => .error (.load i)
  | some none => .error (.uninit i)
  | some (some b) => .ok b

def store (buf : Buffer) (i : Nat) (b : Byte) : Checked Buffer :=
  if i < buf.length then .ok (buf.set i (some b)) else .error (.store i)

def loads (buf : Buffer) (n : Nat) : Checked (List Byte) := (List.range n).mapM buf.load

theorem load_some {buf : Buffer} {i : Nat} {b : Byte} (h : buf[i]? = some (some b)) : buf.load i = .ok b := by
  simp only [load, h]

theorem load_ok {buf : Buffer} {i : Nat} {b : Byte} (h : buf.load i = .ok b) : buf[i]? = some (some b) := by
  unfold load at h
  split at h
  · cases h
  · cases h
  · rename_i hget
    rw [hget, Except.ok.inj h]

theorem store_ok {buf : Buffer} {i : Nat} (b : Byte) (h : i < buf.length) :
    buf.store i b = .ok (buf.set i (some b)) := by
  rw [store, if_pos h]

theorem store_fault {buf : Buffer} {i : Nat} (b : Byte) (h : buf.length ≤ i) :
    buf.store i b = .error (.store i) := by
  rw [store, if_neg (Nat.not_lt.mpr h)]

theorem mapM_load {buf : Buffer} {is : List Nat} {bs : List Byte}
    (h : is.map (buf[·]?) = bs.map (some ∘ some)) : is.mapM buf.load = .ok bs := by
  induction is generalizing bs with
  | nil =>
      obtain rfl : bs = [] := by simpa using h.symm
      rfl
  | cons i is ih =>
      cases bs with
      | nil => cases h
      | cons b bs =>
          obtain ⟨hb, hbs⟩ := List.cons.inj h
          rw [List.mapM_cons, load_some hb, ih hbs]
          rfl

theorem loads_append (bs : List Byte) (rest : Buffer) :
    loads (bs.map some ++ rest) bs.length = .ok bs := by
  refine mapM_load (List.ext_getElem (by simp) fun i hi _ => ?_)
  have hlt : i < bs.length := by simpa using hi
  simp [hlt, List.getElem?_append_left]

def Init (buf : Buffer) : Prop := ∀ i < buf.length, ∃ b, buf[i]? = some (some b)

theorem init_zeroed (n : Nat) : (zeroed n).Init := by
  intro i hi
  rw [length_zeroed] at hi
  exact ⟨0, by simp [zeroed, hi]⟩

theorem Init.loads {buf : Buffer} (h : buf.Init) {n : Nat} (hn : n ≤ buf.length) :
    ∃ bs, buf.loads n = .ok bs := by
  have hmapM (is : List Nat) (his : ∀ i ∈ is, i < buf.length) : ∃ bs, is.mapM buf.load = .ok bs := by
    induction is with
    | nil => exact ⟨[], rfl⟩
    | cons i is ih =>
        obtain ⟨b, hb⟩ := h i (his i List.mem_cons_self)
        obtain ⟨bs, hbs⟩ := ih fun j hj => his j (List.mem_cons_of_mem i hj)
        exact ⟨b :: bs, by rw [List.mapM_cons, load_some hb, hbs]; rfl⟩
  exact hmapM (List.range n) fun i hi => Nat.lt_of_lt_of_le (List.mem_range.mp hi) hn

end Buffer

end OpxSdi.Lib
