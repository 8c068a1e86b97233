import OpxSdi.Lib.Checked

/-!
# Blocks in a byte memory with wrapping addresses
-/

namespace OpxSdi.Lib

variable {w : Nat}

abbrev ByteMem (w : Nat) := BitVec w → Byte

namespace ByteMem

def storeAt (m : ByteMem w) (base : BitVec w) (data : List Byte) : ByteMem w :=
  fun a => data.getD (a - base).toNat (m a)

def bytesAt (m : ByteMem w) (base : BitVec w) (n : Nat) : List Byte :=
  (List.range n).map fun i => m (base + BitVec.ofNat w i)

@[simp] theorem bytesAt_length (m : ByteMem w) (base : BitVec w) (n : Nat) :
    (m.bytesAt base n).length = n := by
  simp [bytesAt]

theorem storeAt_nil (m : ByteMem w) (base : BitVec w) : m.storeAt base [] = m := rfl

theorem storeAt_outside {m : ByteMem w} {base a : BitVec w} {data : List Byte}
    (h : data.length ≤ (a - base).toNat) : m.storeAt base data a = m a := by
  rw [storeAt, List.getD_eq_getElem?_getD, List.getElem?_eq_none h]
  rfl

theorem storeAt_inside {m : ByteMem w} {base a : BitVec w} {data : List Byte}
    (h : (a - base).toNat < data.length) : m.storeAt base data a = data[(a - base).toNat] := by
  rw [storeAt, List.getD_eq_getElem?_getD, List.getElem?_eq_getElem h]
  rfl

/-- Two blocks one after the other are one block, as long as they do not wrap onto each other. -/
theorem storeAt_append (m : ByteMem w) (base : BitVec w) (d₁ d₂ : List Byte)
    (h : d₁.length + d₂.length ≤ 2 ^ w) :
    (m.storeAt base d₁).storeAt (base + BitVec.ofNat w d₁.length) d₂ = m.storeAt base (d₁ ++ d₂) := by
  rcases Nat.eq_zero_or_pos d₂.length with hnil | hpos
  · rw [List.length_eq_zero_iff.mp hnil, List.append_nil, storeAt_nil]
  funext a
  have ha := (a - base).isLt
  have hmod : d₁.length % 2 ^ w = d₁.length := Nat.mod_eq_of_lt (by omega)
  have hoff : (a - (base + BitVec.ofNat w d₁.length)).toNat =
      (2 ^ w - d₁.length + (a - base).toNat) % 2 ^ w := by
    rw [show a - (base + BitVec.ofNat w d₁.length) = a - base - BitVec.ofNat w d₁.length from
      (BitVec.sub_sub ..).symm, BitVec.toNat_sub, BitVec.toNat_ofNat, hmod]
  rcases Nat.lt_or_ge (a - base).toNat d₁.length with hlt | hge
  · rw [Nat.mod_eq_of_lt (by omega)] at hoff
    rw [storeAt_outside (by omega), storeAt_inside hlt, storeAt_inside (by rw [List.length_append]; omega),
      List.getElem_append_left hlt]
  · rw [show 2 ^ w - d₁.length + (a - base).toNat = (a - base).toNat - d₁.length + 2 ^ w by omega,
      Nat.add_mod_right, Nat.mod_eq_of_lt (by omega)] at hoff
    rcases Nat.lt_or_ge ((a - base).toNat - d₁.length) d₂.length with hin | hout
    · rw [storeAt_inside (by omega), storeAt_inside (by rw [List.length_append]; omega),
        List.getElem_append_right hge]
      simp only [hoff]
    · rw [storeAt_outside (by omega), storeAt_outside hge,
        storeAt_outside (by rw [List.length_append]; omega)]

theorem storeAt_take_drop (m : ByteMem w) (base : BitVec w) (data : List Byte) (n : Nat)
    (h : data.length ≤ 2 ^ w) :
    (m.storeAt base (data.take n)).storeAt (base + BitVec.ofNat w n) (data.drop n) = m.storeAt base data := by
  rcases Nat.lt_or_ge n data.length with hlt | hge
  · have hlen : (data.take n).length = n := List.length_take_of_le (Nat.le_of_lt hlt)
    have happend := storeAt_append m base (data.take n) (data.drop n) (by
      rw [← List.length_append, List.take_append_drop]
      exact h)
    rwa [hlen, List.take_append_drop] at happend
  · rw [List.take_of_length_le hge, List.drop_eq_nil_of_le hge, storeAt_nil]

theorem bytesAt_storeAt (m : ByteMem w) (base : BitVec w) (data : List Byte) (h : data.length ≤ 2 ^ w) :
    (m.storeAt base data).bytesAt base data.length = data := by
  refine List.ext_getElem (bytesAt_length ..) fun i hi hi' => ?_
  have hoff : (base + BitVec.ofNat w i - base).toNat = i := by
    rw [BitVec.add_comm, BitVec.add_sub_cancel, BitVec.toNat_ofNat, Nat.mod_eq_of_lt (by omega)]
  simp only [bytesAt, List.getElem_map, List.getElem_range]
  rw [storeAt_inside (by omega)]
  simp only [hoff]

theorem bytesAt_append (m : ByteMem w) (base : BitVec w) (n k : Nat) :
    m.bytesAt base (n + k) = m.bytesAt base n ++ m.bytesAt (base + BitVec.ofNat w n) k := by
  simp only [bytesAt, List.range_add, List.map_append, List.map_map]
  refine congrArg (_ ++ ·) (List.map_congr_left fun i _ => ?_)
  rw [Function.comp_apply, BitVec.ofNat_add, BitVec.add_assoc]

theorem bytesAt_take (m : ByteMem w) (base : BitVec w) {k n : Nat} (h : k ≤ n) :
    m.bytesAt base k = (m.bytesAt base n).take k := by
  rw [bytesAt, bytesAt, ← List.map_take, List.take_range, Nat.min_eq_left h]

end ByteMem

end OpxSdi.Lib
