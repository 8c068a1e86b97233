/-!
# Runs of a step function

A run feeds a list of inputs to a step function. `Along` says that a property of a state and an input
holds at every step of the run; an invariant turns what one step does into what the run does.
-/

namespace OpxSdi.Lib

variable {σ ι : Type} (step : σ → ι → σ)

def run (s : σ) (is : List ι) : σ := is.foldl step s

@[simp] theorem run_nil (s : σ) : run step s [] = s := rfl
@[simp] theorem run_cons (s : σ) (i : ι) (is : List ι) : run step s (i :: is) = run step (step s i) is := rfl

theorem run_append (s : σ) (is js : List ι) : run step s (is ++ js) = run step (run step s is) js :=
  List.foldl_append

/-- Every step of the run is taken from a state and with an input that meet `P`. -/
def Along (P : σ → ι → Prop) : σ → List ι → Prop
  | _, [] => True
  | s, i :: is => P s i ∧ Along P (step s i) is

/-- A property along a run holds at each step, whatever comes before and after it. -/
theorem along_iff {P : σ → ι → Prop} {s : σ} {is : List ι} :
    Along step P s is ↔ ∀ pre i post, is = pre ++ i :: post → P (run step s pre) i := by
  induction is generalizing s with
  | nil => exact ⟨fun _ pre i post h => by simp at h, fun _ => trivial⟩
  | cons j js ih =>
      constructor
      · rintro ⟨hj, hjs⟩ pre i post h
        cases pre with
        | nil =>
            obtain ⟨rfl, -⟩ := List.cons.inj h
            exact hj
        | cons k pre =>
            obtain ⟨rfl, hrest⟩ := List.cons.inj h
            exact ih.mp hjs pre i post hrest
      · intro h
        refine ⟨h [] j js rfl, ih.mpr fun pre i post hjs => ?_⟩
        exact h (j :: pre) i post (by rw [hjs]; rfl)

variable {step} {I : σ → Prop} {C P : σ → ι → Prop}

/-- What every step with `C` keeps holds at the end of a run whose steps all have `C`. -/
theorem run_inv {s : σ} {is : List ι} (hstep : ∀ s i, I s → C s i → I (step s i)) (h : I s)
    (hC : Along step C s is) : I (run step s is) := by
  induction is generalizing s with
  | nil => exact h
  | cons i is ih => exact ih (hstep s i h hC.1) hC.2

theorem run_rel {τ : Type} {step' : τ → ι → τ} {R : σ → τ → Prop} {s : σ} {t : τ}
    (hstep : ∀ s t i, R s t → R (step s i) (step' t i)) (h : R s t) (is : List ι) :
    R (run step s is) (run step' t is) := by
  induction is generalizing s t with
  | nil => exact h
  | cons i is ih => exact ih (hstep s t i h)

/-- Two runs stay related if every input of `D` keeps them related. -/
theorem run_rel_of {τ : Type} {step' : τ → ι → τ} {R : σ → τ → Prop} {D : ι → Prop} {s : σ} {t : τ} {is : List ι}
    (hstep : ∀ s t i, D i → R s t → R (step s i) (step' t i)) (h : R s t) (hD : ∀ i ∈ is, D i) :
    R (run step s is) (run step' t is) := by
  induction is generalizing s t with
  | nil => exact h
  | cons i is ih =>
      obtain ⟨hi, his⟩ := List.forall_mem_cons.mp hD
      exact ih (hstep s t i hi h) his

/-- If `C` gives `P` in a state with the invariant, it gives `P` along the run. -/
theorem along_of {s : σ} {is : List ι} (h : I s) (hstep : ∀ s i, I s → C s i → I (step s i))
    (hP : ∀ s i, I s → C s i → P s i) (hC : Along step C s is) : Along step P s is := by
  induction is generalizing s with
  | nil => exact trivial
  | cons i is ih => exact ⟨hP s i h hC.1, ih (hstep s i h hC.1) hC.2⟩

/-- If in a state with the invariant `P` is `C`, and a step with `C` keeps the invariant, then `P`
holds along a run iff `C` does. -/
theorem along_congr {s : σ} {is : List ι} (hiff : ∀ s i, I s → (P s i ↔ C s i))
    (hstep : ∀ s i, I s → C s i → I (step s i)) (h : I s) :
    Along step P s is ↔ Along step C s is := by
  induction is generalizing s with
  | nil => exact Iff.rfl
  | cons i is ih =>
      refine (and_congr_left fun _ => hiff s i h).trans (and_congr_right fun hC => ?_)
      exact ih (hstep s i h hC)

theorem along_append {s : σ} {is js : List ι} :
    Along step P s (is ++ js) ↔ Along step P s is ∧ Along step P (run step s is) js := by
  induction is generalizing s with
  | nil => exact (and_iff_right trivial).symm
  | cons i is ih => exact (and_congr_right fun _ => ih).trans and_assoc.symm

/-- A property of all inputs does not matter for what holds along the run. -/
theorem along_and_iff {Q : ι → Prop} {s : σ} {is : List ι} (h : ∀ i ∈ is, Q i) :
    Along step (fun s i => Q i ∧ P s i) s is ↔ Along step P s is := by
  induction is generalizing s with
  | nil => exact Iff.rfl
  | cons i is ih =>
      obtain ⟨hi, his⟩ := List.forall_mem_cons.mp h
      exact and_congr (and_iff_right hi) (ih his)

/-! ## Calls made in turn

The answers of a system to one call for each element of a list.
-/

section

variable {ι ω ρ : Type} (call : ι → ω → ρ × ω)

/-- The answers with their arguments, and the system after them -/
def inTurn : List ι → ω → List (ι × ρ) × ω
  | [], w => ([], w)
  | i :: is, w =>
      let answer := call i w
      let rest := inTurn is answer.2
      ((i, answer.1) :: rest.1, rest.2)

theorem map_fst_inTurn (is : List ι) (w : ω) : (inTurn call is w).1.map Prod.fst = is := by
  induction is generalizing w with
  | nil => rfl
  | cons i is ih => exact congrArg (i :: ·) (ih _)

theorem mem_of_mem_inTurn {is : List ι} {w : ω} {p : ι × ρ} (h : p ∈ (inTurn call is w).1) : p.1 ∈ is := by
  rw [← map_fst_inTurn call is w]
  exact List.mem_map_of_mem h

theorem exists_mem_inTurn {is : List ι} {i : ι} (h : i ∈ is) (w : ω) : ∃ r, (i, r) ∈ (inTurn call is w).1 := by
  rw [← map_fst_inTurn call is w] at h
  obtain ⟨⟨_, r⟩, hmem, rfl⟩ := List.mem_map.mp h
  exact ⟨r, hmem⟩

end

end OpxSdi.Lib
