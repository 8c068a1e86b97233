import OpxSdi.Lib.Returns

/-!
# Strings and numbers in byte buffers, as the C library reads them
-/

namespace OpxSdi.Lib

def bytesOf (s : String) : List Byte := s.toList.map fun c => BitVec.ofNat 8 c.toNat

/-- The string a buffer holds: its bytes before the first NUL. -/
def cstr (buf : List Byte) : List Byte := buf.takeWhile (· ≠ 0)

theorem cstr_append_nul {s : List Byte} (h : 0 ∉ s) : cstr (s ++ [0]) = s := by
  have hne : ∀ b ∈ s, (decide (b ≠ 0)) = true := fun b hb => by
    refine decide_eq_true fun h0 => ?_
    rw [h0] at hb
    exact h hb
  rw [cstr, List.takeWhile_append_of_pos hne]
  exact List.append_nil s

def isprint (c : Byte) : Bool := 0x20 ≤ c.toNat && c.toNat ≤ 0x7e

def isspace (c : Byte) : Bool := c.toNat = 0x20 || (0x09 ≤ c.toNat && c.toNat ≤ 0x0d)

/-- The part of a string from the last `c` on, if there is one (`strrchr`). -/
def strrchr (s : List Byte) (c : Byte) : Option (List Byte) :=
  match s with
  | [] => none
  | b :: bs =>
      match strrchr bs c with
      | some r => some r
      | none => if b = c then some (b :: bs) else none

/-- The string at a pointer, of which no more than `n` characters are looked at. -/
def Ptr.loadString (p : Ptr) : Nat → Checked (List Byte)
  | 0 => .ok []
  | n + 1 => do
      let b ← p.load 0
      if b = 0 then .ok []
      else do
        let s ← (p.add 1).loadString n
        .ok (b :: s)

theorem Ptr.returns_loadString_iff (p : Ptr) (n : Nat) : Returns (p.loadString n) ↔
    0 ∈ (p.buf.drop p.off).take n ∨ n ≤ (p.buf.drop p.off).length := by
  induction n generalizing p with
  | zero => exact iff_of_true (returns_ok _) (.inr (Nat.zero_le _))
  | succ n ih =>
      rw [Ptr.loadString, returns_bind_iff]
      rcases Nat.lt_or_ge p.off p.buf.length with hlt | hge
      · have hdrop := List.drop_eq_getElem_cons hlt
        have hload : p.load 0 = .ok p.buf[p.off] := by
          simp only [Ptr.load, Nat.add_zero, List.getElem?_eq_getElem hlt]
        have hrest := ih (p.add 1)
        simp only [Ptr.add_buf, Ptr.add_off] at hrest
        rw [hdrop, List.take_succ_cons, List.mem_cons, List.length_cons, Nat.succ_le_succ_iff, or_assoc, ← hrest,
          hload]
        constructor
        · rintro ⟨b, hb, h⟩
          cases hb
          split at h
          · rename_i hzero
            exact .inl hzero.symm
          · exact .inr (returns_map_iff.mp h)
        · intro h
          refine ⟨_, rfl, ?_⟩
          split
          · exact returns_ok _
          · rename_i hnonzero
            exact returns_map_iff.mpr (h.resolve_left fun hzero => hnonzero hzero.symm)
      · rw [List.drop_eq_nil_of_le hge]
        refine iff_of_false ?_ (by simp)
        rintro ⟨b, hb, -⟩
        rw [Ptr.load_error hge] at hb
        cases hb

/-! ## `strtoul` with base 0 -/

def digitVal (c : Byte) : Nat :=
  let n := c.toNat
  if 0x30 ≤ n ∧ n ≤ 0x39 then n - 0x30
  else if 0x41 ≤ n ∧ n ≤ 0x5a then n - 0x41 + 10
  else if 0x61 ≤ n ∧ n ≤ 0x7a then n - 0x61 + 10
  else 36

def readDigits (base : Nat) : (acc : Nat) → List Byte → Nat
  | acc, [] => acc
  | acc, c :: cs => if digitVal c < base then readDigits base (acc * base + digitVal c) cs else acc

def readAuto (s : List Byte) : Nat :=
  match s with
  | z :: x :: d :: cs =>
      if z = 0x30 ∧ (x = 0x78 ∨ x = 0x58) ∧ digitVal d < 16 then readDigits 16 0 (d :: cs)
      else if z = 0x30 then readDigits 8 0 s
      else readDigits 10 0 s
  | z :: _ => if z = 0x30 then readDigits 8 0 s else readDigits 10 0 s
  | [] => 0

def ulongMax : Nat := 2 ^ 64 - 1

/-- `strtoul(s, 0, 0)` with a 64-bit `unsigned long`. -/
def strtoul (s : List Byte) : Nat :=
  match s.dropWhile isspace with
  | [] => 0
  | c :: cs =>
      let neg := c = 0x2d
      let n := readAuto (if neg ∨ c = 0x2b then cs else c :: cs)
      if ulongMax < n then ulongMax else if neg then (2 ^ 64 - n) % 2 ^ 64 else n

/-- A number with base 16, which may start with `0x`. -/
def readHex (s : List Byte) : Nat :=
  match s with
  | z :: x :: d :: cs =>
      if z = 0x30 ∧ (x = 0x78 ∨ x = 0x58) ∧ digitVal d < 16 then readDigits 16 0 (d :: cs) else readDigits 16 0 s
  | _ => readDigits 16 0 s

/-- `strtoul(s, 0, 16)`. -/
def strtoul16 (s : List Byte) : Nat :=
  match s.dropWhile isspace with
  | [] => 0
  | c :: cs =>
      let neg := c = 0x2d
      let n := readHex (if neg ∨ c = 0x2b then cs else c :: cs)
      if ulongMax < n then ulongMax else if neg then (2 ^ 64 - n) % 2 ^ 64 else n

end OpxSdi.Lib
