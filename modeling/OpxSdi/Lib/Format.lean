import Mathlib.Data.List.TakeWhile
import OpxSdi.Lib.CString

/-!
# Numbers written as text, and read back
-/

namespace OpxSdi.Lib

@[simp] theorem length_bytesOf (s : String) : (bytesOf s).length = s.length := by
  rw [bytesOf, List.length_map, String.length_toList]

/-! ## Decimal digits -/

/-- `%u` -/
def decimal (n : Nat) : List Byte := bytesOf n.repr

/-- `%ld` -/
def decimalInt (v : Int) : List Byte := if v < 0 then 0x2d :: decimal v.natAbs else decimal v.natAbs

theorem length_decimal_le {n k : Nat} (hk : 0 < k) (h : n < 10 ^ k) : (decimal n).length ≤ k := by
  rw [decimal, length_bytesOf]
  exact (Nat.length_repr_le_iff hk).mpr h

theorem decimal_ne_nil (n : Nat) : decimal n ≠ [] := by
  simp [decimal, bytesOf]

def isdigit (c : Byte) : Bool := 0x30 ≤ c.toNat && c.toNat ≤ 0x39

theorem toNat_of_isDigit {c : Char} (h : c.isDigit) :
    0x30 ≤ c.toNat ∧ c.toNat ≤ 0x39 ∧ (BitVec.ofNat 8 c.toNat).toNat = c.toNat := by
  simp only [Char.isDigit, Bool.and_eq_true, decide_eq_true_eq] at h
  have h1 : 0x30 ≤ c.toNat := h.1
  have h2 : c.toNat ≤ 0x39 := h.2
  exact ⟨h1, h2, by rw [BitVec.toNat_ofNat]; omega⟩

theorem isdigit_of_mem_decimal {n : Nat} {c : Byte} (h : c ∈ decimal n) : isdigit c := by
  obtain ⟨d, hd, rfl⟩ := List.mem_map.mp h
  rw [Nat.toList_repr] at hd
  obtain ⟨h1, h2, heq⟩ := toNat_of_isDigit (Nat.isDigit_of_mem_toDigits (by decide) (by decide) hd)
  simp [isdigit, heq, h1, h2]

theorem readDigits_digits {cs : List Char} (h : ∀ c ∈ cs, c.isDigit) (acc : Nat) :
    readDigits 10 acc (cs.map fun c => BitVec.ofNat 8 c.toNat) = Nat.ofDigitChars 10 cs acc := by
  induction cs generalizing acc with
  | nil => simp [readDigits]
  | cons c cs ih =>
      obtain ⟨h1, h2, heq⟩ := toNat_of_isDigit (h c List.mem_cons_self)
      have hval : digitVal (BitVec.ofNat 8 c.toNat) = c.toNat - '0'.toNat := by
        rw [digitVal, heq, if_pos ⟨h1, h2⟩]
        rfl
      have hlt : c.toNat - '0'.toNat < 10 := by
        change c.toNat - 48 < 10
        omega
      rw [List.map_cons, readDigits, hval, if_pos hlt, ih fun d hd => h d (List.mem_cons_of_mem c hd),
        Nat.ofDigitChars_cons, Nat.mul_comm 10]

theorem readDigits_decimal (n : Nat) : readDigits 10 0 (decimal n) = n := by
  rw [decimal, bytesOf, Nat.toList_repr,
    readDigits_digits fun c hc => Nat.isDigit_of_mem_toDigits (by decide) (by decide) hc]
  exact Nat.ofDigitChars_ten_toDigits

theorem decimal_inj {m n : Nat} : decimal m = decimal n ↔ m = n := by
  constructor
  · intro h
    rw [← readDigits_decimal m, h, readDigits_decimal]
  · exact congrArg decimal

/-- A negative number is written with a sign, which is no digit. -/
theorem decimalInt_eq_decimal {v : Int} {n : Nat} : decimalInt v = decimal n ↔ v = n := by
  rw [decimalInt]
  split
  · refine iff_of_false (fun h => ?_) (by omega)
    have hdigit := isdigit_of_mem_decimal (h ▸ List.mem_cons_self : 0x2d ∈ decimal n)
    cases hdigit
  · rw [decimal_inj]
    omega

/-- What comes before the first separator, and what comes after it -/
theorem cut_injective {α : Type} {c : α} {a b x y : List α} (ha : c ∉ a) (hb : c ∉ b)
    (h : a ++ c :: x = b ++ c :: y) : a = b ∧ x = y := by
  induction a generalizing b with
  | nil =>
      cases b with
      | nil => exact ⟨rfl, (List.cons.inj h).2⟩
      | cons d b => exact absurd ((List.cons.inj h).1 ▸ List.mem_cons_self) hb
  | cons d a ih =>
      cases b with
      | nil => exact absurd ((List.cons.inj h).1 ▸ List.mem_cons_self) ha
      | cons e b =>
          obtain ⟨rfl, htail⟩ := List.cons.inj h
          obtain ⟨rfl, hxy⟩ := ih (fun hc => ha (List.mem_cons_of_mem d hc))
            (fun hc => hb (List.mem_cons_of_mem d hc)) htail
          exact ⟨rfl, hxy⟩

/-! ## `strtol` with base 10 -/

def longMax : Int := 2 ^ 63 - 1

def longMin : Int := -2 ^ 63

/-- The digits `d` of the string `s` as a `long`, and what is left after them. -/
def readLong (s : List Byte) (neg : Bool) (d : List Byte) : Int × List Byte :=
  if d.takeWhile isdigit = [] then (0, s)
  else
    let n : Int := readDigits 10 0 (d.takeWhile isdigit)
    (max longMin (min longMax (if neg then -n else n)), d.dropWhile isdigit)

/-- The value, and what is left of the string where reading stopped. -/
def strtol (s : List Byte) : Int × List Byte :=
  match s.dropWhile isspace with
  | [] => (0, s)
  | c :: cs => readLong s (c = 0x2d) (if c = 0x2d ∨ c = 0x2b then cs else c :: cs)

theorem isspace_of_isdigit {c : Byte} (h : isdigit c) : isspace c = false := by
  simp only [isdigit, Bool.and_eq_true, decide_eq_true_eq] at h
  simp only [isspace, Bool.or_eq_false_iff, Bool.and_eq_false_iff, decide_eq_false_iff_not]
  omega

theorem decimal_cons (n : Nat) : ∃ c cs, decimal n = c :: cs ∧ isdigit c := by
  obtain ⟨c, cs, hcons⟩ := List.exists_cons_of_ne_nil (decimal_ne_nil n)
  exact ⟨c, cs, hcons, isdigit_of_mem_decimal (hcons ▸ List.mem_cons_self)⟩

theorem readLong_decimal (s : List Byte) (neg : Bool) (n : Nat) :
    readLong s neg (decimal n) = (max longMin (min longMax (if neg then -n else n)), []) := by
  have hall : ∀ c ∈ decimal n, isdigit c := fun c => isdigit_of_mem_decimal
  have htake : (decimal n).takeWhile isdigit = decimal n := List.takeWhile_eq_self_iff.mpr hall
  have hdrop : (decimal n).dropWhile isdigit = [] := List.dropWhile_eq_nil_iff.mpr hall
  rw [readLong, htake, hdrop, if_neg (decimal_ne_nil n), readDigits_decimal]

/-- A number that fits a `long` is read back as it was written. -/
theorem strtol_decimalInt {v : Int} (hmin : longMin ≤ v) (hmax : v ≤ longMax) :
    strtol (decimalInt v) = (v, []) := by
  by_cases hneg : v < 0
  · have hread := readLong_decimal (decimalInt v) true v.natAbs
    have hclamp : max longMin (min longMax (-(v.natAbs : Int))) = v := by omega
    rw [if_pos rfl, hclamp] at hread
    rw [strtol, ← hread, decimalInt, if_pos hneg]
    rfl
  · obtain ⟨c, cs, hcons, hc⟩ := decimal_cons v.natAbs
    have hread := readLong_decimal (decimalInt v) false v.natAbs
    have hclamp : max longMin (min longMax (v.natAbs : Int)) = v := by omega
    have hsign : c ≠ 0x2d ∧ c ≠ 0x2b := by
      constructor <;> (rintro rfl; cases hc)
    rw [if_neg Bool.false_ne_true, hclamp] at hread
    have hspace : (c :: cs).dropWhile isspace = c :: cs := by
      rw [List.dropWhile_cons, if_neg (by simp [isspace_of_isdigit hc])]
    have hstr : decimalInt v = c :: cs := by rw [decimalInt, if_neg hneg, hcons]
    rw [strtol, ← hread, hstr, hspace, hcons]
    change readLong (c :: cs) (decide (c = 0x2d)) (if c = 0x2d ∨ c = 0x2b then cs else c :: cs) = _
    rw [decide_eq_false hsign.1, if_neg (not_or.mpr hsign)]

/-! ## Hexadecimal digits -/

def hexDigit (n : Nat) : Byte := BitVec.ofNat 8 (if n < 10 then 0x30 + n else 0x61 + (n - 10))

/-- `%02x` -/
def hexByte (b : Byte) : List Byte := [hexDigit (b.toNat / 16), hexDigit (b.toNat % 16)]

def hexText (bs : List Byte) : List Byte := bs.flatMap hexByte

def hexVal (c : Byte) : Option Nat :=
  if 0x30 ≤ c.toNat ∧ c.toNat ≤ 0x39 then some (c.toNat - 0x30)
  else if 0x61 ≤ c.toNat ∧ c.toNat ≤ 0x66 then some (c.toNat - 0x61 + 10)
  else none

/-- The bytes that a text of lower-case digits stands for. -/
def decodeHex : List Byte → Option (List Byte)
  | [] => some []
  | [_] => none
  | a :: b :: cs => do
      let x ← hexVal a
      let y ← hexVal b
      let bs ← decodeHex cs
      return BitVec.ofNat 8 (16 * x + y) :: bs

@[simp] theorem hexText_nil : hexText [] = [] := rfl

@[simp] theorem hexText_cons (b : Byte) (bs : List Byte) : hexText (b :: bs) = hexByte b ++ hexText bs :=
  List.flatMap_cons

@[simp] theorem length_hexByte (b : Byte) : (hexByte b).length = 2 := rfl

@[simp] theorem length_hexText (bs : List Byte) : (hexText bs).length = 2 * bs.length := by
  induction bs with
  | nil => rfl
  | cons b bs ih =>
      rw [hexText_cons, List.length_append, ih, length_hexByte, List.length_cons]
      omega

theorem hexVal_hexDigit {n : Nat} (h : n < 16) : hexVal (hexDigit n) = some n := by
  have hall : ∀ m : Fin 16, hexVal (hexDigit m) = some m.val := by decide
  exact hall ⟨n, h⟩

theorem zero_notMem_hexByte (b : Byte) : 0 ∉ hexByte b := by
  have hne {n : Nat} (h : n < 16) : hexDigit n ≠ 0 := by
    intro h0
    have hval := hexVal_hexDigit h
    rw [h0] at hval
    cases hval
  have hb := b.isLt
  simp only [hexByte, List.mem_cons, List.not_mem_nil, or_false, not_or]
  exact ⟨(hne (by omega)).symm, (hne (by omega)).symm⟩

theorem decodeHex_hexText (bs : List Byte) : decodeHex (hexText bs) = some bs := by
  induction bs with
  | nil => rfl
  | cons b bs ih =>
      have hb := b.isLt
      have hsum : 16 * (b.toNat / 16) + b.toNat % 16 = b.toNat := Nat.div_add_mod _ 16
      rw [hexText_cons, hexByte, List.cons_append, List.cons_append, List.nil_append, decodeHex,
        hexVal_hexDigit (by omega), hexVal_hexDigit (by omega), ih]
      simp [hsum]

end OpxSdi.Lib
