import OpxSdi.Lib.Checked

/-!
# Chains of fields made of a tag byte, a length byte and that many value bytes

A buffer read from an offset on always gives a chain of field boundaries, whatever its bytes are.
For the encoding of a list of fields the chain gives back the fields.
-/

namespace OpxSdi.Lib

def fieldLen (buf : List Byte) (p : Nat) : Nat := (buf.getD (p + 1) 0).toNat

/-- Where field number `k` of the chain from `base` begins. -/
def boundary (buf : List Byte) (base : Nat) : Nat → Nat
  | 0 => base
  | k + 1 => boundary buf base k + (fieldLen buf (boundary buf base k) + 2)

theorem boundary_add (buf : List Byte) (base i k : Nat) :
    boundary buf base (i + k) = boundary buf (boundary buf base i) k := by
  induction k with
  | zero => rfl
  | succ k ih => rw [← Nat.add_assoc]; simp only [boundary, ih]

theorem boundary_lt_succ (buf : List Byte) (base k : Nat) :
    boundary buf base k + 2 ≤ boundary buf base (k + 1) := by
  simp only [boundary]; omega

theorem boundary_mono (buf : List Byte) (base : Nat) {i k : Nat} (h : i ≤ k) :
    boundary buf base i + 2 * (k - i) ≤ boundary buf base k := by
  induction k with
  | zero => obtain rfl : i = 0 := by omega
            simp
  | succ k ih =>
      rcases Nat.lt_or_ge k i with hlt | hge
      · obtain rfl : i = k + 1 := by omega
        simp
      · have hk := ih hge
        have hs := boundary_lt_succ buf base k
        omega

/-! ## Fields -/

structure Tlv where
  tag : Byte
  value : List Byte
  value_lt : value.length < 256

namespace Tlv

def length (t : Tlv) : Nat := t.value.length

def encode (t : Tlv) : List Byte := t.tag :: BitVec.ofNat 8 t.value.length :: t.value

@[simp] theorem encode_length (t : Tlv) : t.encode.length = t.length + 2 := by
  simp [encode, length]

def encodeAll (ts : List Tlv) : List Byte := ts.flatMap encode

@[simp] theorem encodeAll_nil : encodeAll [] = [] := rfl
@[simp] theorem encodeAll_cons (t : Tlv) (ts : List Tlv) :
    encodeAll (t :: ts) = t.encode ++ encodeAll ts := rfl

def offsets (base : Nat) : List Tlv → List Nat
  | [] => []
  | t :: ts => base :: offsets (base + (t.length + 2)) ts

theorem offsets_length (base : Nat) (ts : List Tlv) : (offsets base ts).length = ts.length := by
  induction ts generalizing base with
  | nil => rfl
  | cons t ts ih => simp [offsets, ih]

theorem length_toNat (t : Tlv) : (BitVec.ofNat 8 t.value.length).toNat = t.length := by
  have := t.value_lt
  simp only [BitVec.toNat_ofNat, length]
  omega

theorem fieldLen_encode (pre post : List Byte) (t : Tlv) :
    fieldLen (pre ++ (t.encode ++ post)) pre.length = t.length := by
  have hget : (pre ++ (t.encode ++ post)).getD (pre.length + 1) 0 = BitVec.ofNat 8 t.value.length := by
    rw [List.getD_eq_getElem?_getD, List.getElem?_append_right (by omega)]
    simp [encode]
  rw [fieldLen, hget, length_toNat]

/-- Along an encoding the chain goes from each field to the next. -/
theorem boundary_encodeAll (pre post : List Byte) (ts : List Tlv) {k : Nat} (hk : k ≤ ts.length) :
    boundary (pre ++ (encodeAll ts ++ post)) pre.length k =
      pre.length + (encodeAll (ts.take k)).length := by
  induction ts generalizing pre k with
  | nil => obtain rfl : k = 0 := by simpa using hk
           simp [boundary]
  | cons t ts ih =>
      cases k with
      | zero => simp [boundary]
      | succ k =>
          have hlen := fieldLen_encode pre (encodeAll ts ++ post) t
          have ih' := ih (pre ++ t.encode) (k := k) (by simpa using hk)
          rw [Nat.add_comm k 1, boundary_add]
          simp only [boundary, encodeAll_cons, List.append_assoc, hlen]
          simp only [List.append_assoc, List.length_append, encode_length] at ih'
          rw [ih', Nat.add_comm 1 k]
          simp only [List.take_succ_cons, encodeAll_cons, List.length_append, encode_length]
          omega

theorem offsets_eq_boundary (pre post : List Byte) (ts : List Tlv) :
    offsets pre.length ts =
      (List.range ts.length).map (boundary (pre ++ (encodeAll ts ++ post)) pre.length) := by
  induction ts generalizing pre with
  | nil => rfl
  | cons t ts ih =>
      have hlen := fieldLen_encode pre (encodeAll ts ++ post) t
      have ih' := ih (pre ++ t.encode)
      simp only [List.append_assoc, List.length_append, encode_length] at ih'
      simp only [offsets, ih', List.length_cons, List.range_succ_eq_map, List.map_cons, List.map_map,
        encodeAll_cons, List.append_assoc]
      refine congrArg (List.cons _) (List.map_congr_left fun k _ => ?_)
      simp only [Function.comp_apply, Nat.succ_eq_add_one]
      rw [Nat.add_comm k 1, boundary_add]
      simp only [boundary, hlen]

theorem agree_encode (pre post : List Byte) (t : Tlv) :
    Ptr.Agree (t.length + 2) ⟨pre ++ (t.encode ++ post), pre.length⟩ ⟨t.encode, 0⟩ := by
  have h := Ptr.Agree.block pre t.encode post
  rwa [List.append_assoc, encode_length] at h

end Tlv

end OpxSdi.Lib
