import Mathlib.Order.Lattice

/-!
# Walks along a list through a cursor

`for (a = first; a != null; a = next(a))` visits a list when the cursor starts at its head, each element
leads to the one after it, and the last one leads to `null`.
-/

namespace OpxSdi.Lib

section Walk

variable {α : Type} [DecidableEq α] (null : α) (next : Nat → α → α)

/-- The cursors visited from call `k` of `next` on, when `fuel` calls are enough to reach `null`. -/
def walk : (fuel k : Nat) → α → Option (List α)
  | 0, _, _ => none
  | fuel + 1, k, a => if a = null then some [] else (walk fuel (k + 1) (next k a)).map (a :: ·)

def Visits (k : Nat) (a : α) (as : List α) : Prop := ∃ fuel, walk null next fuel k a = some as

variable {null next} {k : Nat} {a : α} {as : List α}

theorem visits_nil : Visits null next k a [] ↔ a = null := by
  constructor
  · rintro ⟨fuel, h⟩
    cases fuel with
    | zero => cases h
    | succ fuel =>
        rw [walk] at h
        split at h
        · assumption
        · simp at h
  · intro h
    exact ⟨1, by rw [walk, if_pos h]⟩

theorem visits_cons {b : α} :
    Visits null next k a (b :: as) ↔ a = b ∧ b ≠ null ∧ Visits null next (k + 1) (next k b) as := by
  constructor
  · rintro ⟨fuel, h⟩
    cases fuel with
    | zero => cases h
    | succ fuel =>
        rw [walk] at h
        split at h
        · cases h
        · rename_i hne
          obtain ⟨cs, hcs, heq⟩ := Option.map_eq_some_iff.mp h
          obtain ⟨rfl, rfl⟩ := List.cons.inj heq
          exact ⟨rfl, hne, fuel, hcs⟩
  · rintro ⟨rfl, hne, fuel, h⟩
    exact ⟨fuel + 1, by rw [walk, if_neg hne, h]; rfl⟩

/-- The cursor is at the head, `null` is no element, and each element leads to the next one. -/
theorem visits_iff :
    Visits null next k a as ↔
      a = as.headD null ∧ null ∉ as ∧ ∀ i, ∀ h : i < as.length, next (k + i) as[i] = as[i + 1]?.getD null := by
  induction as generalizing k a with
  | nil => simp [visits_nil]
  | cons b as ih =>
      rw [visits_cons, ih, List.headD_cons, List.mem_cons, not_or]
      refine and_congr_right fun _ => ⟨?_, ?_⟩
      · rintro ⟨hne, hhead, hnull, hlead⟩
        refine ⟨⟨Ne.symm hne, hnull⟩, fun i hi => ?_⟩
        cases i with
        | zero => simpa [List.head?_eq_getElem?] using hhead
        | succ i => simpa [Nat.add_assoc, Nat.add_comm 1] using hlead i (by simpa using hi)
      · rintro ⟨⟨hne, hnull⟩, hlead⟩
        refine ⟨Ne.symm hne, ?_, hnull, fun i hi => ?_⟩
        · simpa [List.head?_eq_getElem?] using hlead 0 (Nat.zero_lt_succ _)
        · have h := hlead (i + 1) (Nat.succ_lt_succ hi)
          rwa [List.getElem_cons_succ, List.getElem?_cons_succ, ← Nat.add_assoc, Nat.add_right_comm] at h

end Walk

/-! ## Cursors into an ascending list -/

section Ascending

variable {α : Type} [LinearOrder α] {as : List α} {c : α}

/-- The first element above `c` is the head iff `c` lies below every element. -/
theorem find?_above_head_iff (hasc : as.Pairwise (· < ·)) :
    as.find? (fun a => decide (c < a)) = as[0]? ↔ ∀ a ∈ as, c < a := by
  cases as with
  | nil => simp
  | cons b as =>
      have hb := (List.pairwise_cons.mp hasc).1
      constructor
      · intro h
        have hcb : c < b := by simpa using List.find?_some h
        exact List.forall_mem_cons.mpr ⟨hcb, fun a ha => lt_trans hcb (hb a ha)⟩
      · intro h
        rw [List.find?_cons_of_pos (by simpa using h b List.mem_cons_self)]
        rfl

/-- The first element above `c` is the one after `as[i]` iff `c` lies at or above `as[i]` and below every
larger element. -/
theorem find?_above_iff (hasc : as.Pairwise (· < ·)) {i : Nat} (hi : i < as.length) :
    as.find? (fun a => decide (c < a)) = as[i + 1]? ↔ as[i] ≤ c ∧ ∀ a ∈ as, as[i] < a → c < a := by
  induction as generalizing i with
  | nil => cases hi
  | cons b as ih =>
      obtain ⟨hb, htail⟩ := List.pairwise_cons.mp hasc
      have hle : b ≤ (b :: as)[i] := by
        cases i with
        | zero => exact le_refl b
        | succ i => exact le_of_lt (hb _ (List.getElem_mem _))
      rw [List.getElem?_cons_succ]
      by_cases hcb : c < b
      · refine iff_of_false (fun h => ?_) fun h => absurd (lt_of_lt_of_le hcb (le_trans hle h.1)) (lt_irrefl c)
        rw [List.find?_cons_of_pos (by simpa using hcb)] at h
        exact lt_irrefl b (hb b (List.mem_of_getElem? h.symm))
      · rw [List.find?_cons_of_neg (by simpa using hcb), List.forall_mem_cons]
        cases i with
        | zero =>
            rw [find?_above_head_iff htail, List.getElem_cons_zero]
            refine ⟨fun h => ⟨not_lt.mp hcb, fun hlt => absurd hlt (lt_irrefl b), fun a ha _ => h a ha⟩, ?_⟩
            rintro ⟨-, -, h⟩ a ha
            exact h a ha (hb a ha)
        | succ i =>
            rw [List.getElem_cons_succ] at hle ⊢
            rw [ih htail (Nat.lt_of_succ_lt_succ hi)]
            exact and_congr_right fun _ => ⟨fun h => ⟨fun hlt => absurd hlt (not_lt.mpr hle), h⟩, fun h => h.2⟩

end Ascending

end OpxSdi.Lib
