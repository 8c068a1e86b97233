import Mathlib.Data.List.Sort
import Mathlib.Data.Int.Interval
import OpxSdi.Lib.CString
import OpxSdi.Lib.Format

/-!
# Queries on tables of integers

A condition restricts the rows to those that meet its terms, orders them by a column, drops an offset and
keeps a limit. The keys of the selected rows in their order are what the queries on one column are about.
-/

namespace OpxSdi.Lib.Sql

abbrev Row (κ : Type) := κ → Int

/-- A table whose columns hold 64-bit integers. -/
structure Table (κ : Type) where
  rows : List (Row κ)
  int64 : ∀ r ∈ rows, ∀ c, longMin ≤ r c ∧ r c ≤ longMax

inductive Rel
  | eq | gt
  deriving DecidableEq, Repr

/-- `column = value` or `column > value`, the value written with `%u`. -/
structure Term (κ : Type) where
  column : κ
  rel : Rel
  value : BitVec 32

/-- The text behind `WHERE`. -/
structure Condition (κ : Type) where
  terms : List (Term κ)
  orderBy : Option κ := none
  limit : Option Nat := none
  offset : Option (BitVec 32) := none

inductive Attribute (κ : Type)
  | column (c : κ)
  | count

section

variable {κ : Type}

/-! ## The text of a condition -/

def Rel.text : Rel → List Byte
  | .eq => bytesOf " = "
  | .gt => bytesOf " > "

def Term.text (name : κ → String) (t : Term κ) : List Byte :=
  bytesOf (name t.column) ++ t.rel.text ++ decimal t.value.toNat

namespace Condition

def clauses (name : κ → String) (c : Condition κ) : List (List Byte) :=
  (if c.terms = [] then [] else [(bytesOf " AND ").intercalate (c.terms.map (·.text name))]) ++
    (c.orderBy.map fun k => bytesOf "ORDER BY " ++ bytesOf (name k)).toList ++
    (c.limit.map fun n => bytesOf "LIMIT " ++ decimal n).toList ++
    (c.offset.map fun n => bytesOf "OFFSET " ++ decimal n.toNat).toList

def text (name : κ → String) (c : Condition κ) : List Byte := (bytesOf " ").intercalate (c.clauses name)

end Condition

/-! ## The rows of a condition -/

def Term.holds (t : Term κ) (r : Row κ) : Bool :=
  match t.rel with
  | .eq => r t.column = t.value.toNat
  | .gt => (t.value.toNat : Int) < r t.column

namespace Condition

def filtered (c : Condition κ) (rows : List (Row κ)) : List (Row κ) :=
  rows.filter fun r => c.terms.all (·.holds r)

def ordered (c : Condition κ) (rows : List (Row κ)) : List (Row κ) :=
  match c.orderBy with
  | none => rows
  | some k => rows.insertionSort fun r s => r k ≤ s k

def window {α : Type} (c : Condition κ) (xs : List α) : List α :=
  let ys := xs.drop ((c.offset.map BitVec.toNat).getD 0)
  match c.limit with
  | none => ys
  | some n => ys.take n

end Condition

/-- `SELECT attribute FROM rows WHERE c` -/
def select (attr : Attribute κ) (c : Condition κ) (rows : List (Row κ)) : List Int :=
  c.window <| match attr with
    | .column k => (c.ordered (c.filtered rows)).map (· k)
    | .count => [((c.filtered rows).length : Int)]

/-! ## Ordered keys -/

/-- The keys in column `k` of the rows that meet the terms, in ascending order. -/
def keys (k : κ) (terms : List (Term κ)) (rows : List (Row κ)) : List Int :=
  (((rows.filter fun r => terms.all (·.holds r))).map (· k)).insertionSort (· ≤ ·)

variable {k : κ} {terms : List (Term κ)} {rows : List (Row κ)}

theorem mem_keys {v : Int} : v ∈ keys k terms rows ↔ ∃ r ∈ rows, (∀ t ∈ terms, t.holds r) ∧ r k = v := by
  simp [keys, and_assoc]

theorem length_keys : (keys k terms rows).length = (rows.filter fun r => terms.all (·.holds r)).length := by
  simp [keys]

theorem nodup_keys (h : (rows.map (· k)).Nodup) : (keys k terms rows).Nodup :=
  (List.perm_insertionSort _ _).nodup_iff.mpr (h.sublist (List.filter_sublist.map _))

theorem pairwise_keys (h : (rows.map (· k)).Nodup) : (keys k terms rows).Pairwise (· < ·) := by
  have hle : (keys k terms rows).Pairwise (· ≤ ·) := List.pairwise_insertionSort _ _
  exact (hle.and (nodup_keys h)).imp fun hab => lt_of_le_of_ne hab.1 hab.2

theorem select_ordered (c : Condition κ) (h : c.orderBy = some k) :
    select (.column k) c rows = c.window (keys k c.terms rows) := by
  have hmap := List.map_insertionSort (fun r s : Row κ => r k ≤ s k) (· ≤ ·) (fun r => r k) (c.filtered rows)
    fun _ _ _ _ => Iff.rfl
  rw [select, Condition.ordered, h]
  exact congrArg c.window hmap

theorem insertionSort_filter (xs : List Int) (p : Int → Bool) :
    (xs.filter p).insertionSort (· ≤ ·) = (xs.insertionSort (· ≤ ·)).filter p :=
  ((List.perm_insertionSort _ _).trans ((List.perm_insertionSort _ xs).symm.filter p)).eq_of_pairwise'
    (List.pairwise_insertionSort _ _) ((List.pairwise_insertionSort _ xs).filter p)

theorem keys_above (k : κ) (terms : List (Term κ)) (rows : List (Row κ)) (v : BitVec 32) :
    keys k (terms ++ [⟨k, .gt, v⟩]) rows = (keys k terms rows).filter fun key => decide ((v.toNat : Int) < key) := by
  rw [keys, keys, ← insertionSort_filter, List.filter_map, List.filter_filter]
  congr 2
  refine List.filter_congr fun r _ => ?_
  simp [Term.holds, Bool.and_comm]

/-- Distinct numbers above 0 and below `n` are fewer than `n`. -/
theorem length_lt_of_nodup {vs : List Int} {n : Int} (hn : 0 < n) (h : vs.Nodup) (hpos : ∀ v ∈ vs, 0 < v)
    (hlt : ∀ v ∈ vs, v < n) : (vs.length : Int) < n := by
  have hsub : vs.toFinset ⊆ Finset.Ioo 0 n := fun v hv => by
    rw [List.mem_toFinset] at hv
    exact Finset.mem_Ioo.mpr ⟨hpos v hv, hlt v hv⟩
  have hcard := Finset.card_le_card hsub
  rw [List.toFinset_card_of_nodup h, Int.card_Ioo] at hcard
  omega

end

/-! ## String literals

A literal is a text between two quotes, in which two quotes stand for one.
-/

def quote : Byte := 0x27

/-- The value of a literal from behind its opening quote on, and what follows the closing one. -/
def readQuoted : List Byte → Option (List Byte × List Byte)
  | [] => none
  | [b] => if b = quote then some ([], []) else none
  | b :: c :: text =>
      if b ≠ quote then (readQuoted (c :: text)).map fun r => (b :: r.1, r.2)
      else if c = quote then (readQuoted text).map fun r => (quote :: r.1, r.2)
      else some ([], c :: text)

def readLiteral : List Byte → Option (List Byte × List Byte)
  | [] => none
  | b :: text => if b = quote then readQuoted text else none

/-- The text is one literal with this value. -/
def Literal (text value : List Byte) : Prop := readLiteral text = some (value, [])

def escape (value : List Byte) : List Byte := value.flatMap fun b => if b = quote then [quote, quote] else [b]

/-- The literal of a value -/
def literal (value : List Byte) : List Byte := quote :: (escape value ++ [quote])

theorem escape_cons (b : Byte) (value : List Byte) :
    escape (b :: value) = (if b = quote then [quote, quote] else [b]) ++ escape value := rfl

theorem escape_of_notMem {value : List Byte} (h : quote ∉ value) : escape value = value := by
  induction value with
  | nil => rfl
  | cons b value ih =>
      rw [List.mem_cons, not_or] at h
      rw [escape_cons, if_neg (Ne.symm h.1), ih h.2]
      rfl

theorem length_escape (value : List Byte) : (escape value).length = value.length + value.count quote := by
  induction value with
  | nil => rfl
  | cons b value ih =>
      rw [escape_cons, List.length_append, ih, List.length_cons, List.count_cons]
      by_cases h : b = quote
      · simp only [h, ↓reduceIte, List.length_cons, List.length_nil, beq_self_eq_true]
        omega
      · simp only [h, ↓reduceIte, List.length_cons, List.length_nil, beq_iff_eq]
        omega

theorem readQuoted_escape (value : List Byte) : readQuoted (escape value ++ [quote]) = some (value, []) := by
  induction value with
  | nil => rfl
  | cons b value ih =>
      obtain ⟨c, text, htext⟩ := List.exists_cons_of_ne_nil (List.append_ne_nil_of_right_ne_nil (escape value)
        (List.cons_ne_nil quote []))
      by_cases h : b = quote
      · simp only [escape_cons, h, ↓reduceIte, List.cons_append, List.nil_append, readQuoted, ne_eq,
          not_true_eq_false, ih, Option.map_some]
      · simp only [escape_cons, h, ↓reduceIte, List.cons_append, List.nil_append]
        rw [htext] at ih ⊢
        simp only [readQuoted, ne_eq, h, not_false_eq_true, ↓reduceIte, ih, Option.map_some]

theorem eq_escape_of_readQuoted {text value rest : List Byte} (h : readQuoted text = some (value, rest)) :
    text = escape value ++ quote :: rest := by
  fun_induction readQuoted text generalizing value rest with
  | case1 => cases h
  | case2 =>
      cases h
      rfl
  | case3 b hb => cases h
  | case4 b c text hb ih =>
      obtain ⟨r, hr, heq⟩ := Option.map_eq_some_iff.mp h
      cases heq
      rw [escape_cons, if_neg hb, ih hr]
      rfl
  | case5 b text hb ih =>
      obtain ⟨r, hr, heq⟩ := Option.map_eq_some_iff.mp h
      cases heq
      rw [escape_cons, if_pos rfl, Decidable.not_not.mp hb, ih hr]
      rfl
  | case6 b c text hb hc =>
      cases h
      rw [Decidable.not_not.mp hb]
      rfl

theorem literal_iff {text value : List Byte} : Literal text value ↔ text = literal value := by
  constructor
  · intro h
    cases text with
    | nil => cases h
    | cons b text =>
        rw [Literal, readLiteral] at h
        split at h
        · rename_i hb
          rw [hb, eq_escape_of_readQuoted h]
          rfl
        · cases h
  · rintro rfl
    exact readQuoted_escape value

theorem literal_inj {v w : List Byte} : literal v = literal w ↔ v = w := by
  constructor
  · intro h
    have hread : Literal (literal w) v := literal_iff.mpr h.symm
    exact (Prod.mk.inj (Option.some.inj (hread.symm.trans (literal_iff.mpr rfl)))).1
  · exact congrArg literal

theorem length_literal (value : List Byte) : (literal value).length = value.length + value.count quote + 2 := by
  rw [literal, List.length_cons, List.length_append, length_escape]
  rfl

/-- A text behind a prefix that is put between quotes and cut off is the literal of the text iff the text has
no quote and nothing is cut off. -/
theorem take_quoted_eq_iff {before value : List Byte} {n : Nat} :
    (before ++ (quote :: (value ++ [quote]))).take n = before ++ literal value ↔
      quote ∉ value ∧ before.length + value.length + 2 ≤ n := by
  constructor
  · intro h
    have hlen := congrArg List.length h
    simp only [List.length_take, List.length_append, List.length_cons, List.length_nil, length_literal] at hlen
    have hcount : value.count quote = 0 := by omega
    exact ⟨List.count_eq_zero.mp hcount, by omega⟩
  · rintro ⟨hquote, hfits⟩
    rw [List.take_of_length_le, literal, escape_of_notMem hquote]
    simp only [List.length_append, List.length_cons, List.length_nil]
    omega

end OpxSdi.Lib.Sql
