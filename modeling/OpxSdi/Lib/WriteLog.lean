import Mathlib.Data.List.Induction
import Mathlib.Logic.Function.Basic

/-!
# What was written last

A log of writes to registers, oldest first, and a cache of what they hold: each entry of the cache is the
value of the last write to its register, or what it was at first.
-/

namespace OpxSdi.Lib

variable {ρ ν τ κ : Type} [DecidableEq ρ]

def lastWritten (r : ρ) : List (ρ × ν) → Option ν
  | [] => none
  | w :: ws => (lastWritten r ws).or (if w.1 = r then some w.2 else none)

theorem lastWritten_append (r : ρ) (ws ws' : List (ρ × ν)) :
    lastWritten r (ws ++ ws') = (lastWritten r ws').or (lastWritten r ws) := by
  induction ws with
  | nil => exact (Option.or_none).symm
  | cons w ws ih => rw [List.cons_append, lastWritten, lastWritten, ih, Option.or_assoc]

theorem lastWritten_concat (r : ρ) (ws : List (ρ × ν)) (w : ρ × ν) :
    lastWritten r (ws ++ [w]) = if w.1 = r then some w.2 else lastWritten r ws := by
  rw [lastWritten_append, lastWritten, lastWritten, Option.none_or]
  split
  · rw [Option.some_or]
  · rw [Option.none_or]

theorem lastWritten_eq_none_iff (r : ρ) (ws : List (ρ × ν)) : lastWritten r ws = none ↔ ∀ w ∈ ws, w.1 ≠ r := by
  induction ws with
  | nil => exact iff_of_true rfl fun w hw => absurd hw List.not_mem_nil
  | cons w ws ih => rw [lastWritten, Option.or_eq_none_iff, ih, List.forall_mem_cons, and_comm, ite_eq_right_iff,
      imp_iff_not (Option.some_ne_none _)]

/-- Each entry that has a register is the value last written to it, or as it was in `first`. -/
def Recalls (reg : κ → Option ρ) (val : ν → τ) (first cache : κ → τ) (ws : List (ρ × ν)) : Prop :=
  ∀ k r, reg k = some r → cache k = ((lastWritten r ws).map val).getD (first k)

namespace Recalls

variable {reg : κ → Option ρ} {val : ν → τ} {first cache : κ → τ} {ws : List (ρ × ν)} {k : κ} {r : ρ} {v : ν} {t : τ}

theorem start (first : κ → τ) : Recalls reg val first first [] := fun _ _ _ => rfl

variable [DecidableEq κ]

/-- A write of a register, and of the entry that it belongs to -/
theorem write (hreg : ∀ k k' r, reg k = some r → reg k' = some r → k = k') (h : Recalls reg val first cache ws)
    (hk : reg k = some r) (hv : val v = t) :
    Recalls reg val first (Function.update cache k t) (ws ++ [(r, v)]) := by
  intro k' r' hk'
  rw [lastWritten_concat]
  by_cases hkk : k' = k
  · subst hkk
    rw [Function.update_self, if_pos (Option.some.inj (hk.symm.trans hk'))]
    exact hv.symm
  · have hr : r ≠ r' := by
      rintro rfl
      exact hkk (hreg k' k r hk' hk)
    rw [Function.update_of_ne hkk, if_neg hr]
    exact h k' r' hk'

/-- An entry that is changed without a write must be as it was. -/
theorem store_iff (h : Recalls reg val first cache ws) (hk : reg k = some r) :
    Recalls reg val first (Function.update cache k t) ws ↔ cache k = t := by
  constructor
  · intro h'
    have := h' k r hk
    rw [Function.update_self] at this
    rw [this]
    exact h k r hk
  · rintro rfl
    rwa [Function.update_eq_self]

end Recalls

/-! ## A result that later steps overwrite

Each step of a sequence sets a result to success, sets it to an error or keeps it. An error is the result
only if no step that succeeds comes after it.
-/

variable {α ε : Type} {succeeds fails : α → Bool} {e : ε} {key : α → Nat} {as : List α}

def overwrite (succeeds fails : α → Bool) (e : ε) (r : Except ε Unit) (a : α) : Except ε Unit :=
  if succeeds a then .ok () else if fails a then .error e else r

/-- Along a sequence in the order of the keys, the result is a success iff each error has one after it. -/
theorem foldl_overwrite_eq_ok (h : as.Pairwise fun a b => key a < key b) :
    as.foldl (overwrite succeeds fails e) (.ok ()) = .ok () ↔
      ∀ a ∈ as, succeeds a = false → fails a = true → ∃ b ∈ as, succeeds b = true ∧ key a < key b := by
  induction as using List.reverseRecOn with
  | nil => exact iff_of_true rfl fun a ha => absurd ha List.not_mem_nil
  | append_singleton as c ih =>
      obtain ⟨has, -, hlast⟩ := List.pairwise_append.mp h
      have hlt : ∀ a ∈ as, key a < key c := fun a ha => hlast a ha c (List.mem_singleton_self c)
      rw [List.foldl_append, List.foldl_cons, List.foldl_nil, overwrite]
      cases hsucceeds : succeeds c with
      | true =>
          refine iff_of_true (if_pos rfl) fun a ha hno _ => ⟨c, by simp, hsucceeds, ?_⟩
          rcases List.mem_append.mp ha with ha | ha
          · exact hlt a ha
          · rw [List.mem_singleton.mp ha, hsucceeds] at hno
            cases hno
      | false =>
          rw [if_neg (by decide)]
          cases hfails : fails c with
          | true =>
              rw [if_pos rfl]
              refine iff_of_false (by rintro ⟨⟩) fun hall => ?_
              obtain ⟨b, hb, hok, hafter⟩ := hall c (by simp) hsucceeds hfails
              rcases List.mem_append.mp hb with hb | hb
              · exact Nat.lt_asymm hafter (hlt b hb)
              · rw [List.mem_singleton.mp hb, hsucceeds] at hok
                cases hok
          | false =>
              rw [if_neg (by decide), ih has]
              constructor
              · intro hall a ha hno hbad
                rcases List.mem_append.mp ha with ha | ha
                · obtain ⟨b, hb, hok, hafter⟩ := hall a ha hno hbad
                  exact ⟨b, List.mem_append_left _ hb, hok, hafter⟩
                · rw [List.mem_singleton.mp ha, hfails] at hbad
                  cases hbad
              · intro hall a ha hno hbad
                obtain ⟨b, hb, hok, hafter⟩ := hall a (List.mem_append_left _ ha) hno hbad
                rcases List.mem_append.mp hb with hb | hb
                · exact ⟨b, hb, hok, hafter⟩
                · rw [List.mem_singleton.mp hb, hsucceeds] at hok
                  cases hok

end OpxSdi.Lib
