import Mathlib.Order.Lattice

/-!
# Maps that keep their entries in the order of the keys

An insertion never replaces an entry, as with `std::map`.
-/

namespace OpxSdi.Lib

variable {κ ν : Type} [LinearOrder κ]

/-- A finite map whose entries are listed by increasing keys. -/
structure SortedMap (κ ν : Type) [LinearOrder κ] where
  entries : List (κ × ν)
  sorted : entries.Pairwise fun a b => a.1 < b.1

namespace SortedMap

def insertEntry (k : κ) (v : ν) : List (κ × ν) → List (κ × ν)
  | [] => [(k, v)]
  | e :: es =>
      if k < e.1 then (k, v) :: e :: es
      else if k = e.1 then e :: es
      else e :: insertEntry k v es

theorem key_of_mem_insertEntry {k : κ} {v : ν} {e : κ × ν} {es : List (κ × ν)}
    (h : e ∈ insertEntry k v es) : e = (k, v) ∨ e ∈ es := by
  induction es with
  | nil => exact .inl (List.mem_singleton.mp h)
  | cons e' es ih =>
      rw [insertEntry] at h
      split at h
      · exact List.mem_cons.mp h
      · split at h
        · exact .inr h
        · rcases List.mem_cons.mp h with rfl | hes
          · exact .inr List.mem_cons_self
          · exact (ih hes).imp id (List.mem_cons_of_mem e')

theorem sorted_insertEntry (k : κ) (v : ν) {es : List (κ × ν)} (h : es.Pairwise fun a b => a.1 < b.1) :
    (insertEntry k v es).Pairwise fun a b => a.1 < b.1 := by
  induction es with
  | nil => exact List.pairwise_singleton _ _
  | cons e es ih =>
      obtain ⟨hhead, htail⟩ := List.pairwise_cons.mp h
      rw [insertEntry]
      split
      · rename_i hlt
        refine List.pairwise_cons.mpr ⟨fun e' he' => ?_, h⟩
        rcases List.mem_cons.mp he' with rfl | hes
        · exact hlt
        · exact lt_trans hlt (hhead e' hes)
      · rename_i hge
        split
        · exact h
        · rename_i hne
          refine List.pairwise_cons.mpr ⟨fun e' he' => ?_, ih htail⟩
          rcases key_of_mem_insertEntry he' with rfl | hes
          · exact lt_of_le_of_ne (not_lt.mp hge) (Ne.symm hne)
          · exact hhead e' hes

def empty : SortedMap κ ν := ⟨[], .nil⟩

def find? (m : SortedMap κ ν) (k : κ) : Option ν := m.entries.lookup k

def insert (m : SortedMap κ ν) (k : κ) (v : ν) : SortedMap κ ν :=
  ⟨insertEntry k v m.entries, sorted_insertEntry k v m.sorted⟩

def erase (m : SortedMap κ ν) (k : κ) : SortedMap κ ν :=
  ⟨m.entries.filter fun e => e.1 ≠ k, m.sorted.filter _⟩

def values (m : SortedMap κ ν) : List ν := m.entries.map Prod.snd

@[simp] theorem find?_empty (k : κ) : (empty : SortedMap κ ν).find? k = none := rfl

theorem lookup_cons_if (k : κ) (e : κ × ν) (es : List (κ × ν)) :
    (e :: es).lookup k = if k = e.1 then some e.2 else es.lookup k := by
  rw [List.lookup_cons]
  by_cases h : k = e.1
  · simp [h]
  · simp [h, beq_eq_false_iff_ne.mpr h]

theorem find?_insert {m : SortedMap κ ν} {k : κ} {v : ν} (h : m.find? k = none) (k' : κ) :
    (m.insert k v).find? k' = if k' = k then some v else m.find? k' := by
  obtain ⟨es, hes⟩ := m
  simp only [find?, insert] at h ⊢
  clear hes
  induction es with
  | nil => rw [insertEntry, lookup_cons_if]
  | cons e es ih =>
      have hne : k ≠ e.1 := by
        rintro rfl
        rw [lookup_cons_if, if_pos rfl] at h
        cases h
      rw [lookup_cons_if, if_neg hne] at h
      rw [insertEntry]
      split
      · rw [lookup_cons_if]
      · rw [lookup_cons_if, lookup_cons_if, ih h]
        by_cases hk : k' = k
        · rw [if_pos hk, if_pos hk, if_neg (hk ▸ hne)]
        · rw [if_neg hk, if_neg hk]

theorem find?_erase (m : SortedMap κ ν) (k k' : κ) :
    (m.erase k).find? k' = if k' = k then none else m.find? k' := by
  obtain ⟨es, hes⟩ := m
  simp only [find?, erase]
  clear hes
  induction es with
  | nil => exact (ite_self none).symm
  | cons e es ih =>
      rw [List.filter_cons]
      by_cases he : e.1 = k
      · rw [if_neg (by simpa using he), ih, lookup_cons_if]
        by_cases hk : k' = k
        · rw [if_pos hk, if_pos hk]
        · rw [if_neg hk, if_neg hk, if_neg (he ▸ hk)]
      · rw [if_pos (by simpa using he), lookup_cons_if, lookup_cons_if, ih]
        by_cases hk : k' = k
        · rw [if_pos hk, if_pos hk, if_neg (hk ▸ Ne.symm he)]
        · rw [if_neg hk, if_neg hk]

/-- Each value is found under its key, and only those are. -/
theorem mem_values_iff {m : SortedMap κ ν} {v : ν} : v ∈ m.values ↔ ∃ k, m.find? k = some v := by
  obtain ⟨es, hes⟩ := m
  simp only [values, find?]
  induction es with
  | nil => simp
  | cons e es ih =>
      obtain ⟨hhead, htail⟩ := List.pairwise_cons.mp hes
      rw [List.map_cons, List.mem_cons, ih htail]
      constructor
      · rintro (rfl | ⟨k, hk⟩)
        · exact ⟨e.1, by rw [lookup_cons_if, if_pos rfl]⟩
        · refine ⟨k, ?_⟩
          -- The key of a later entry is above the first one.
          obtain ⟨l₁, l₂, hsplit, -⟩ := List.lookup_eq_some_iff.mp hk
          have hlt := hhead (k, v) (hsplit ▸ List.mem_append_right l₁ List.mem_cons_self)
          rw [lookup_cons_if, if_neg (ne_of_gt hlt), hk]
      · rintro ⟨k, hk⟩
        rw [lookup_cons_if] at hk
        split at hk
        · exact .inl (Option.some.inj hk).symm
        · exact .inr ⟨k, hk⟩

end SortedMap

end OpxSdi.Lib
