import Mathlib.Data.List.MinMax

/-!
# The first minimum of a list

A scan that replaces its best element only by a strictly better one ends with the first at which the
function is least.
-/

namespace OpxSdi.Lib

variable {α β : Type} [LinearOrder β] {f : α → β} {l : List α} {m q : α}

/-- The function is least at `m`, and greater at every element before it. -/
def IsFirstMin (f : α → β) (l : List α) (m : α) : Prop :=
  ∃ before after, l = before ++ m :: after ∧ (∀ q ∈ before, f m < f q) ∧ ∀ q ∈ after, f m ≤ f q

theorem isFirstMin_of_argmin (h : l.argmin f = some m) : IsFirstMin f l m := by
  induction l using List.reverseRecOn generalizing m with
  | nil => cases h
  | append_singleton l a ih =>
      rw [List.argmin_concat] at h
      cases hbest : l.argmin f with
      | none =>
          rw [hbest] at h
          obtain rfl := List.argmin_eq_none.mp hbest
          obtain rfl := Option.some.inj h
          exact ⟨[], [], rfl, fun _ hq => absurd hq List.not_mem_nil, fun _ hq => absurd hq List.not_mem_nil⟩
      | some c =>
          rw [hbest] at h
          dsimp only at h
          split at h
          · rename_i hlt
            obtain rfl := Option.some.inj h
            exact ⟨l, [], rfl, fun q hq => hlt.trans_le (List.le_of_mem_argmin hq hbest),
              fun _ hq => absurd hq List.not_mem_nil⟩
          · rename_i hle
            obtain rfl := Option.some.inj h
            obtain ⟨before, after, rfl, hbefore, hafter⟩ := ih hbest
            refine ⟨before, after ++ [a], by simp, hbefore, fun q hq => ?_⟩
            rcases List.mem_append.mp hq with hq | hq
            · exact hafter q hq
            · exact List.mem_singleton.mp hq ▸ not_lt.mp hle

theorem IsFirstMin.mem (h : IsFirstMin f l m) : m ∈ l := by
  obtain ⟨before, after, rfl, -⟩ := h
  exact List.mem_append_right _ List.mem_cons_self

theorem IsFirstMin.le (h : IsFirstMin f l m) (hq : q ∈ l) : f m ≤ f q := by
  obtain ⟨before, after, rfl, hbefore, hafter⟩ := h
  rcases List.mem_append.mp hq with hq | hq
  · exact (hbefore q hq).le
  · rcases List.mem_cons.mp hq with rfl | hq
    · exact le_rfl
    · exact hafter q hq

end OpxSdi.Lib
