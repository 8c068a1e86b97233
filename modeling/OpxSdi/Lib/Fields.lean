import OpxSdi.Lib.CharArray

/-!
# Writes to the fields of an object

A write starts at a field of an object and may go on behind it. Where every write stays in its field, each field
holds what was written to it, and zeros behind it.
-/

namespace OpxSdi.Lib

structure Field where
  off : Nat
  size : Nat
  deriving DecidableEq

namespace Field

/-- `f` ends before `g` -/
def Before (f g : Field) : Prop := f.off + f.size ≤ g.off

instance (f g : Field) : Decidable (f.Before g) := Nat.decLe ..

variable {k : Nat}

/-- The field is `bytes`, then zero. -/
def Holds (f : Field) (bytes : List Byte) (dst : Vector Byte k) : Prop :=
  ∀ i < f.size, dst.toList[f.off + i]? = some (bytes.getD i 0)

theorem holds_replicate {f : Field} (h : f.off + f.size ≤ k) : f.Holds [] (Vector.replicate k 0) := by
  intro i hi
  rw [Vector.toList_replicate, List.getElem?_replicate_of_lt (by omega), List.getD_nil]

theorem Holds.congr {f : Field} {bs bs' : List Byte} {dst : Vector Byte k} (h : f.Holds bs dst)
    (hbs : ∀ i < f.size, bs.getD i 0 = bs'.getD i 0) : f.Holds bs' dst := fun i hi => hbs i hi ▸ h i hi

theorem Holds.unique {f : Field} {bs bs' : List Byte} {dst : Vector Byte k} (h : f.Holds bs dst)
    (h' : f.Holds bs' dst) {i : Nat} (hi : i < f.size) : bs.getD i 0 = bs'.getD i 0 :=
  Option.some.inj ((h i hi).symm.trans (h' i hi))

end Field

structure FieldWrite extends Field where
  bytes : List Byte

namespace FieldWrite

variable {k : Nat} {w : FieldWrite} {ws : List FieldWrite} {dst dst' : Vector Byte k} {f : Field} {j : Nat}

def run (dst : Vector Byte k) : List FieldWrite → Checked (Vector Byte k)
  | [] => .ok dst
  | w :: ws => do
      let dst ← stores dst w.off w.bytes
      run dst ws

def Fits (w : FieldWrite) : Prop := w.bytes.length ≤ w.size

/-- The write does not reach the field. -/
def Spares (w : FieldWrite) (f : Field) : Prop := f.off + f.size ≤ w.off ∨ w.off + w.bytes.length ≤ f.off

theorem Fits.spares (h : w.Fits) (hbefore : f.Before w.toField ∨ w.toField.Before f) : w.Spares f :=
  hbefore.imp_right fun hle => Nat.le_trans (Nat.add_le_add_left h _) hle

end FieldWrite

/-! ## Texts that are cut -/

theorem getD_append_zero (s : List Byte) (i : Nat) : (s ++ [0]).getD i 0 = s.getD i 0 := by
  rw [List.getD_eq_getElem?_getD, List.getD_eq_getElem?_getD]
  rcases Nat.lt_or_ge i s.length with hlt | hge
  · rw [List.getElem?_append_left hlt]
  · rw [List.getElem?_append_right hge, List.getElem?_eq_none hge]
    cases i - s.length <;> rfl

theorem getD_eq_zero_iff {s : List Byte} (h : 0 ∉ s) (i : Nat) : s.getD i 0 = 0 ↔ s.length ≤ i := by
  rw [List.getD_eq_getElem?_getD]
  rcases Nat.lt_or_ge i s.length with hlt | hge
  · rw [List.getElem?_eq_getElem hlt, Option.getD_some]
    exact iff_of_false (fun hzero => h (hzero ▸ List.getElem_mem hlt)) (Nat.not_le.mpr hlt)
  · exact iff_of_true (by rw [List.getElem?_eq_none hge]; rfl) hge

/-- A text that is cut at `m` characters, and agrees within `size` with the text that is cut to `size` with its NUL,
is that text. -/
theorem min_length_eq {s : List Byte} (hs : 0 ∉ s) {m size : Nat} (hsize : 0 < size)
    (h : ∀ i < size, i < min s.length m + 1 → (s.take m).getD i 0 = (s.take (size - 1)).getD i 0) :
    min s.length m = min s.length (size - 1) := by
  have hzero : ∀ n i, (s.take n).getD i 0 = 0 ↔ min n s.length ≤ i := fun n i => by
    rw [getD_eq_zero_iff fun hmem => hs (List.mem_of_mem_take hmem), List.length_take]
  have hiff : ∀ i < size, i < min s.length m + 1 → (min m s.length ≤ i ↔ min (size - 1) s.length ≤ i) :=
    fun i hi hm => by rw [← hzero, ← hzero, h i hi hm]
  have hat := hiff (min (min s.length m) (size - 1)) (by omega) (by omega)
  omega

/-! ## One write -/

section

variable {k : Nat} {dst dst' : Vector Byte k} {i j : Nat} {bs : List Byte}

theorem stores_toList (h : stores dst i bs = .ok dst') : bs = [] ∧ dst' = dst ∨
    i + bs.length ≤ k ∧ dst'.toList = dst.toList.take i ++ bs ++ dst.toList.drop (i + bs.length) := by
  rcases (returns_stores_iff dst i bs).mp ⟨dst', h⟩ with rfl | hle
  · exact .inl ⟨rfl, (Except.ok.inj h).symm⟩
  · obtain ⟨dst'', hdst'', hlist⟩ := stores_ok dst i hle
    rw [h] at hdst''
    exact .inr ⟨hle, by rw [Except.ok.inj hdst'', hlist]⟩

theorem stores_getElem?_outside (h : stores dst i bs = .ok dst') (hj : j < i ∨ i + bs.length ≤ j) :
    dst'.toList[j]? = dst.toList[j]? := by
  rcases stores_toList h with ⟨-, rfl⟩ | ⟨hle, hlist⟩
  · rfl
  · have hlen : (dst.toList.take i).length = i := by
      rw [List.length_take, Vector.length_toList]
      omega
    rw [hlist, List.append_assoc]
    rcases hj with hj | hj
    · rw [List.getElem?_append_left (by omega), List.getElem?_take_of_lt hj]
    · rw [List.getElem?_append_right (by omega), List.getElem?_append_right (by omega), List.getElem?_drop, hlen]
      congr 1
      omega

theorem stores_getElem?_inside (h : stores dst i bs = .ok dst') (hj : j < bs.length) :
    dst'.toList[i + j]? = bs[j]? := by
  rcases stores_toList h with ⟨rfl, -⟩ | ⟨hle, hlist⟩
  · cases hj
  · have hlen : (dst.toList.take i).length = i := by
      rw [List.length_take, Vector.length_toList]
      omega
    rw [hlist, List.append_assoc, List.getElem?_append_right (by omega), List.getElem?_append_left (by omega), hlen,
      Nat.add_sub_cancel_left]

end

/-! ## A sequence of writes -/

namespace FieldWrite

variable {k : Nat} {w : FieldWrite} {ws : List FieldWrite} {dst dst' : Vector Byte k} {f : Field} {bs : List Byte}
  {j : Nat}

theorem run_append (dst : Vector Byte k) (ws ws' : List FieldWrite) :
    run dst (ws ++ ws') = run dst ws >>= fun dst => run dst ws' := by
  induction ws generalizing dst with
  | nil => rfl
  | cons w ws ih =>
      rw [List.cons_append, run, run, bind_assoc]
      exact congrArg _ (funext fun dst => ih dst)

theorem returns_run_iff (dst : Vector Byte k) (ws : List FieldWrite) :
    Returns (run dst ws) ↔ ∀ w ∈ ws, w.bytes = [] ∨ w.off + w.bytes.length ≤ k := by
  induction ws generalizing dst with
  | nil => exact iff_of_true (returns_ok dst) (List.forall_mem_nil _)
  | cons w ws ih =>
      rw [run, List.forall_mem_cons, returns_bind_and fun dst _ => ih dst, returns_stores_iff]

theorem run_getElem?_of_forall (h : run dst ws = .ok dst') (hj : ∀ w ∈ ws, j < w.off ∨ w.off + w.bytes.length ≤ j) :
    dst'.toList[j]? = dst.toList[j]? := by
  induction ws generalizing dst with
  | nil => rw [Except.ok.inj h]
  | cons w ws ih =>
      rw [List.forall_mem_cons] at hj
      obtain ⟨dst₁, hfirst, hrest⟩ := bind_eq_ok h
      rw [ih hrest hj.2, stores_getElem?_outside hfirst hj.1]

theorem Spares.index (h : w.Spares f) {i : Nat} (hi : i < f.size) :
    f.off + i < w.off ∨ w.off + w.bytes.length ≤ f.off + i :=
  h.imp (fun hle => by omega) fun hle => by omega

theorem run_getElem?_of_mem (h : run dst ws = .ok dst') (hws : ws.Pairwise fun w w' => w'.Spares w.toField)
    (hw : w ∈ ws) {i : Nat} (hi : i < w.size) (hbytes : i < w.bytes.length) :
    dst'.toList[w.off + i]? = w.bytes[i]? := by
  induction ws generalizing dst with
  | nil => cases hw
  | cons w' ws ih =>
      obtain ⟨dst₁, hfirst, hrest⟩ := bind_eq_ok h
      rw [List.pairwise_cons] at hws
      rcases List.mem_cons.mp hw with rfl | hw
      · rw [run_getElem?_of_forall hrest fun w' hw' => (hws.1 w' hw').index hi,
          stores_getElem?_inside hfirst hbytes]
      · exact ih hrest hws.2 hw

/-- What a field holds at the end has the bytes that were written to it, as far as they are in the field. -/
theorem getD_eq_of_holds (h : run dst ws = .ok dst') (hws : ws.Pairwise fun w w' => w'.Spares w.toField)
    (hw : w ∈ ws) (hholds : w.Holds bs dst') {i : Nat} (hi : i < w.size) (hbytes : i < w.bytes.length) :
    w.bytes.getD i 0 = bs.getD i 0 := by
  have hget := (run_getElem?_of_mem h hws hw hi hbytes).symm.trans (hholds i hi)
  rw [List.getD_eq_getElem?_getD, hget, Option.getD_some]

theorem Spares.holds_run (hws : ∀ w ∈ ws, w.Spares f) (h : run dst ws = .ok dst') (hf : f.Holds bs dst) :
    f.Holds bs dst' := by
  intro i hi
  rw [run_getElem?_of_forall h fun w hw => (hws w hw).index hi]
  exact hf i hi

theorem holds_stores (h : stores dst w.off w.bytes = .ok dst') (hzero : w.Holds [] dst) : w.Holds w.bytes dst' := by
  intro i hi
  rcases Nat.lt_or_ge i w.bytes.length with hlt | hge
  · rw [stores_getElem?_inside h hlt, List.getElem?_eq_getElem hlt, List.getD_eq_getElem?_getD,
      List.getElem?_eq_getElem hlt, Option.getD_some]
  · rw [stores_getElem?_outside h (.inr (Nat.add_le_add_left hge _)), hzero i hi, List.getD_eq_getElem?_getD,
      List.getD_eq_getElem?_getD, List.getElem?_eq_none hge, List.getElem?_nil]

/-- Writes that stay in their fields, to fields that are zero before -/
theorem holds_of_fits (h : run dst ws = .ok dst')
    (hws : ws.Pairwise fun w w' => w.toField.Before w'.toField ∨ w'.toField.Before w.toField)
    (hfits : ∀ w ∈ ws, w.Fits) (hzero : ∀ w ∈ ws, w.Holds [] dst) (hw : w ∈ ws) : w.Holds w.bytes dst' := by
  induction ws generalizing dst with
  | nil => cases hw
  | cons w' ws ih =>
      obtain ⟨dst₁, hfirst, hrest⟩ := bind_eq_ok h
      rw [List.pairwise_cons] at hws
      rw [List.forall_mem_cons] at hfits hzero
      rcases List.mem_cons.mp hw with rfl | hw
      · exact Spares.holds_run (fun w' hw' => (hfits.2 w' hw').spares (hws.1 w' hw')) hrest
          (holds_stores hfirst hzero.1)
      · refine ih hrest hws.2 hfits.2 (fun w hw => ?_) hw
        have hspares : w'.Spares w.toField := hfits.1.spares (hws.1 w hw).symm
        exact Spares.holds_run (List.forall_mem_singleton.mpr hspares) (by rw [run, hfirst]; rfl) (hzero.2 w hw)

end FieldWrite

end OpxSdi.Lib
