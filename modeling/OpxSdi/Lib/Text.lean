import OpxSdi.Lib.CString

/-!
# Texts made of parts and numbers

The parts of a text between separators, and how `strtoul` with base 0 reads a decimal number: a number that
starts with a zero is read as an octal one.
-/

namespace OpxSdi.Lib

/-! ## Parts -/

/-- The parts between the separators that are not empty -/
def nonEmptyParts (sep : Byte) (s : List Byte) : List (List Byte) := (s.splitOn sep).filter (· ≠ [])

theorem nonEmptyParts_intercalate {sep : Byte} {parts : List (List Byte)} (hne : parts ≠ [])
    (hparts : ∀ part ∈ parts, part ≠ [] ∧ sep ∉ part) : nonEmptyParts sep ([sep].intercalate parts) = parts := by
  rw [nonEmptyParts, List.splitOn_intercalate sep (fun part hpart => (hparts part hpart).2) hne,
    List.filter_eq_self.mpr fun part hpart => decide_eq_true (hparts part hpart).1]

theorem mem_intercalate {sep b : Byte} {parts : List (List Byte)} (h : b ∈ [sep].intercalate parts) :
    b = sep ∨ ∃ part ∈ parts, b ∈ part := by
  induction parts with
  | nil => cases h
  | cons part parts ih =>
      cases parts with
      | nil =>
          rw [List.intercalate_singleton] at h
          exact .inr ⟨part, List.mem_cons_self, h⟩
      | cons part' parts =>
          rw [List.intercalate_cons_cons, List.mem_append, List.mem_append, List.mem_singleton] at h
          rcases h with (hpart | hsep) | hrest
          · exact .inr ⟨part, List.mem_cons_self, hpart⟩
          · exact .inl hsep
          · obtain hsep | ⟨part'', hmem, hb⟩ := ih hrest
            · exact .inl hsep
            · exact .inr ⟨part'', List.mem_cons_of_mem part hmem, hb⟩

/-! ## Buffers with zeros after the text -/

theorem cstr_append_zeros (s : List Byte) (n : Nat) : cstr (s ++ List.replicate n 0) = cstr s := by
  induction s with
  | nil =>
      cases n with
      | zero => rfl
      | succ n => rfl
  | cons b s ih =>
      simp only [cstr, List.cons_append, List.takeWhile_cons] at ih ⊢
      rw [ih]

/-- A pattern that does not end with a zero begins the buffer iff it begins the text. -/
theorem take_append_zeros_iff {pattern s : List Byte} {c : Byte} {n : Nat} (hlast : pattern.getLast? = some c)
    (hc : c ≠ 0) : (s ++ List.replicate n 0).take pattern.length = pattern ↔ pattern <+: s := by
  rcases Nat.lt_or_ge s.length pattern.length with hlt | hge
  · refine iff_of_false (fun h => ?_) fun h => absurd h.length_le (Nat.not_le.mpr hlt)
    rw [List.take_append, List.take_of_length_le (Nat.le_of_lt hlt), List.take_replicate] at h
    have hlen := congrArg List.length h
    simp only [List.length_append, List.length_replicate] at hlen
    have hpos : min (pattern.length - s.length) n ≠ 0 := by omega
    rw [← h, List.getLast?_append, List.getLast?_replicate, if_neg hpos] at hlast
    exact hc (Option.some.inj hlast).symm
  · rw [List.take_append_of_le_length hge, List.prefix_iff_eq_take]
    exact eq_comm

/-! ## Numbers -/

def IsDigit (c : Byte) : Prop := 0x30 ≤ c.toNat ∧ c.toNat ≤ 0x39

instance (c : Byte) : Decidable (IsDigit c) := inferInstanceAs (Decidable (_ ∧ _))

theorem IsDigit.digitVal {c : Byte} (h : IsDigit c) : digitVal c = c.toNat - 0x30 := if_pos h

theorem IsDigit.digitVal_lt {c : Byte} (h : IsDigit c) : Lib.digitVal c < 10 := by
  rw [h.digitVal]
  have := h.2
  omega

theorem IsDigit.ne {c x : Byte} (h : IsDigit c) (hx : ¬IsDigit x) : c ≠ x := fun hcx => hx (hcx ▸ h)

/-- A number of one or more decimal digits, as it is written -/
structure Digits where
  bytes : List Byte
  ne_nil : bytes ≠ []
  isDigit : ∀ c ∈ bytes, IsDigit c

theorem Digits.ne (d : Digits) {s : List Byte} {c : Byte} (hc : c ∈ s) (hdigit : ¬IsDigit c) : d.bytes ≠ s :=
  fun h => hdigit (d.isDigit c (h ▸ hc))

/-- The number that is read when these digits follow the number `n`. -/
def decimalFrom (n : Nat) (ds : List Byte) : Nat := ds.foldl (fun n c => n * 10 + digitVal c) n

namespace Digits

variable {ds : List Byte} {m n : Nat}

def value (d : Digits) : Nat := decimalFrom 0 d.bytes

theorem decimalFrom_cons (n : Nat) (c : Byte) (ds : List Byte) :
    decimalFrom n (c :: ds) = decimalFrom (n * 10 + digitVal c) ds :=
  rfl

theorem le_decimalFrom (n : Nat) (ds : List Byte) : n ≤ decimalFrom n ds := by
  induction ds generalizing n with
  | nil => exact Nat.le_refl n
  | cons c ds ih =>
      rw [decimalFrom_cons]
      exact Nat.le_trans (by omega) (ih _)

theorem readDigits_ten (hds : ∀ c ∈ ds, IsDigit c) : readDigits 10 n ds = decimalFrom n ds := by
  induction ds generalizing n with
  | nil => rfl
  | cons c ds ih =>
      rw [readDigits, if_pos (hds c List.mem_cons_self).digitVal_lt, decimalFrom_cons]
      exact ih fun c' hc' => hds c' (List.mem_cons_of_mem c hc')

theorem readDigits_eight_lt (h : m < n) : readDigits 8 m ds < decimalFrom n ds := by
  induction ds generalizing m n with
  | nil => exact h
  | cons c ds ih =>
      rw [readDigits, decimalFrom_cons]
      split
      · exact ih (by omega)
      · exact Nat.lt_of_lt_of_le (by omega) (le_decimalFrom _ ds)

/-- As an octal number, one digit up to 7 is the same number, and anything longer is a smaller one. -/
theorem readDigits_eight_cases (ds : List Byte) (h : n ≤ 7) :
    readDigits 8 n ds = decimalFrom n ds ∧ decimalFrom n ds ≤ 7 ∨
      readDigits 8 n ds < decimalFrom n ds ∧ 7 < decimalFrom n ds := by
  induction ds generalizing n with
  | nil => exact .inl ⟨rfl, h⟩
  | cons c ds ih =>
      have hle := le_decimalFrom (n * 10 + digitVal c) ds
      rw [readDigits, decimalFrom_cons]
      split
      · rename_i hc
        rcases Nat.eq_zero_or_pos n with rfl | hn
        · rw [Nat.zero_mul, Nat.zero_add]
          exact ih (by omega)
        · exact .inr ⟨readDigits_eight_lt (by omega), by omega⟩
      · exact .inr ⟨by omega, by omega⟩

/-! ## What `strtoul` reads -/

/-- The number fits in `w` bits and is not read as another, octal number. -/
def Reads (d : Digits) (w : Nat) : Prop := d.value < 2 ^ w ∧ (d.bytes.head? = some 0x30 → d.value ≤ 7)

instance (d : Digits) (w : Nat) : Decidable (d.Reads w) := inferInstanceAs (Decidable (_ ∧ _))

theorem readAuto_eq (d : Digits) : readAuto d.bytes =
    if d.bytes.head? = some 0x30 then readDigits 8 0 d.bytes else decimalFrom 0 d.bytes := by
  have hten := readDigits_ten (n := 0) d.isDigit
  have hdigit := d.isDigit
  generalize d.bytes = ds at *
  unfold readAuto
  split
  · rename_i z x c cs
    have hx : IsDigit x := hdigit x (List.mem_cons_of_mem z List.mem_cons_self)
    have hhex : ¬(z = 0x30 ∧ (x = 0x78 ∨ x = 0x58) ∧ digitVal c < 16) := by
      rintro ⟨-, hx' | hx', -⟩
      · exact hx.ne (by decide) hx'
      · exact hx.ne (by decide) hx'
    rw [if_neg hhex, hten]
    simp only [List.head?_cons, Option.some.injEq]
  · rw [hten]
    simp only [List.head?_cons, Option.some.injEq]
  · rfl

theorem strtoul_eq (d : Digits) : strtoul d.bytes = min (readAuto d.bytes) ulongMax := by
  have hne := d.ne_nil
  have hdigit := d.isDigit
  generalize d.bytes = ds at *
  cases ds with
  | nil => exact absurd rfl hne
  | cons c cs =>
      have hc : IsDigit c := hdigit c List.mem_cons_self
      have hspace : isspace c = false := by
        obtain ⟨hge, hle⟩ := hc
        simp only [isspace, Bool.or_eq_false_iff, Bool.and_eq_false_iff, decide_eq_false_iff_not]
        omega
      have hneg : c ≠ 0x2d := hc.ne (by decide)
      have hplus : c ≠ 0x2b := hc.ne (by decide)
      rw [strtoul, List.dropWhile_cons_of_neg (by rw [hspace]; decide)]
      simp only [hneg, hplus, or_self, ↓reduceIte]
      split <;> omega

/-- What is read is the number, or else it is a smaller one than an octal number of more than one digit. -/
theorem toNat_strtoul_iff (d : Digits) {w : Nat} (hw : w ≤ 64) :
    (BitVec.ofNat w (strtoul d.bytes)).toNat = d.value ↔ d.Reads w := by
  have hpow : 2 ^ w ≤ 2 ^ 64 := Nat.pow_le_pow_right (by decide) hw
  have hcases : readAuto d.bytes = d.value ∧ (d.bytes.head? = some 0x30 → d.value ≤ 7) ∨
      readAuto d.bytes < d.value ∧ d.bytes.head? = some 0x30 ∧ 7 < d.value := by
    rw [readAuto_eq, value]
    split
    · rename_i hzero
      obtain ⟨heq, hle⟩ | ⟨hlt, hgt⟩ := readDigits_eight_cases d.bytes (Nat.zero_le 7)
      · exact .inl ⟨heq, fun _ => hle⟩
      · exact .inr ⟨hlt, hzero, hgt⟩
    · rename_i hzero
      exact .inl ⟨rfl, fun h => absurd h hzero⟩
  rw [BitVec.toNat_ofNat, strtoul_eq, Reads]
  obtain ⟨heq, hoctal⟩ | ⟨hlt, hzero, hgt⟩ := hcases
  · rw [heq, and_iff_left hoctal]
    constructor
    · intro h
      rw [← h]
      exact Nat.mod_lt _ (Nat.two_pow_pos w)
    · intro h
      rw [Nat.min_eq_left (by rw [ulongMax]; omega), Nat.mod_eq_of_lt h]
  · have hmod := Nat.mod_le (min (readAuto d.bytes) ulongMax) (2 ^ w)
    exact iff_of_false (by omega) fun h => absurd (h.2 hzero) (Nat.not_le.mpr hgt)

theorem toInt_strtoul_iff (d : Digits) {w : Nat} (hw : w < 64) :
    (BitVec.ofNat (w + 1) (strtoul d.bytes)).toInt = d.value ↔ d.Reads w := by
  have hiff := d.toNat_strtoul_iff (w := w + 1) hw
  have hlt := (BitVec.ofNat (w + 1) (strtoul d.bytes)).isLt
  rw [Reads, Nat.pow_succ] at *
  rw [BitVec.toInt_eq_toNat_cond, Nat.pow_succ]
  constructor
  · intro h
    split at h
    · obtain ⟨-, hoctal⟩ := hiff.mp (by omega)
      exact ⟨by omega, hoctal⟩
    · omega
  · rintro ⟨hfits, hoctal⟩
    have heq := hiff.mpr ⟨by omega, hoctal⟩
    rw [if_pos (by omega), heq]

end Digits

/-! ## `sscanf` with the conversions `%u` and `%x` -/

/-- What `sscanf(s, "%u", ..)` stores, if there is a number. A number that does not fit is that of `strtoul`, cut to
an `unsigned int`. -/
def sscanfU (s : List Byte) : Option (BitVec 32) :=
  match s.dropWhile isspace with
  | [] => none
  | c :: cs =>
      let neg := c = 0x2d
      let digits := if neg ∨ c = 0x2b then cs else c :: cs
      match digits with
      | [] => none
      | d :: ds =>
          if digitVal d < 10 then
            let n := readDigits 10 0 (d :: ds)
            some (BitVec.ofNat 32 (if ulongMax < n then ulongMax else if neg then (2 ^ 64 - n) % 2 ^ 64 else n))
          else none

/-- The number that `%x` reads in at most `width` characters, and what is left. A prefix `0x` counts, and is zero
if no digit fits behind it. -/
def scanHex (width : Nat) (s : List Byte) : Option (BitVec 32 × List Byte) :=
  let s := s.dropWhile isspace
  let sign := (s.take (min 1 width)).takeWhile fun c => c = 0x2d || c = 0x2b
  let s := s.drop sign.length
  let width := width - sign.length
  let zeroX := 2 ≤ width && s.head? = some 0x30 && (s[1]? = some 0x78 || s[1]? = some 0x58)
  let digits := ((s.drop (if zeroX then 2 else 0)).take (width - if zeroX then 2 else 0)).takeWhile (digitVal · < 16)
  if digits = [] ∧ zeroX = false then none
  else
    let n := BitVec.ofNat 32 (readDigits 16 0 digits)
    some (if sign = [0x2d] then -n else n, s.drop (digits.length + if zeroX then 2 else 0))

/-- The numbers that `sscanf` stores for `n` conversions `%02x` with colons between them -/
def sscanfHexBytes : (n : Nat) → (s : List Byte) → List (BitVec 32)
  | 0, _ => []
  | n + 1, s =>
      match scanHex 2 s with
      | none => []
      | some (v, rest) => v :: if rest.head? = some 0x3a then sscanfHexBytes n rest.tail else []

/-- Decimal digits are read as their number. -/
theorem sscanfU_digits (d : Digits) (hlt : d.value ≤ ulongMax) : sscanfU d.bytes = some (BitVec.ofNat 32 d.value) := by
  have hne := d.ne_nil
  have hdigit := d.isDigit
  rw [Digits.value] at hlt ⊢
  generalize d.bytes = ds at *
  cases ds with
  | nil => exact absurd rfl hne
  | cons c cs =>
      have hc : IsDigit c := hdigit c List.mem_cons_self
      have hspace : isspace c = false := by
        obtain ⟨hge, hle⟩ := hc
        simp only [isspace, Bool.or_eq_false_iff, Bool.and_eq_false_iff, decide_eq_false_iff_not]
        omega
      have hneg : c ≠ 0x2d := hc.ne (by decide)
      have hplus : c ≠ 0x2b := hc.ne (by decide)
      rw [sscanfU, List.dropWhile_cons_of_neg (by rw [hspace]; decide)]
      simp only [hneg, hplus, or_self, ↓reduceIte, hc.digitVal_lt, Digits.readDigits_ten hdigit]
      rw [if_neg (Nat.not_lt.mpr hlt)]

end OpxSdi.Lib
