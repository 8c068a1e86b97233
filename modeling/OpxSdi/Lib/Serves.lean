import OpxSdi.Lib.Observed

/-!
# Computations that an operation ends

A computation that makes a fixed number of operations on a device: it returns if none of them fails, and
ends with an error if one does.
-/

namespace OpxSdi.Lib

namespace Device

variable {L ε ω ι α β : Type}

/-- The computation makes `n` operations, after which it returns what `g` gives. -/
def Serves (x : M L ε ω α) (n : Nat) (g : ω → α × ω) : Prop := ∀ d : Device L ε ω,
  (d.Clear n ∧ Ok x d (g d.hw).1 (d.after n (g d.hw).2)) ∨ (¬d.Clear n ∧ ∃ e d', Err x d e d')

namespace Serves

variable {x : M L ε ω α} {m n : Nat} {g : ω → α × ω}

theorem pure (a : α) : Serves (Pure.pure a : M L ε ω α) 0 fun hw => (a, hw) :=
  fun d => .inl ⟨d.clear_zero, ok_pure.mpr ⟨rfl, rfl⟩⟩

theorem internal (g : ω → α × ω) : Serves (Device.internal g : M L ε ω α) 0 g :=
  fun d => .inl ⟨d.clear_zero, ok_internal.mpr ⟨rfl, rfl⟩⟩

theorem access (g : ω → α × ω) : Serves (Device.access g : M L ε ω α) 1 g := by
  intro d
  rw [clear_one]
  cases hfault : d.fault d.time with
  | none => exact .inl ⟨rfl, ok_access.mpr ⟨hfault, rfl, rfl⟩⟩
  | some e => exact .inr ⟨Option.some_ne_none e, e, _, err_access.mpr ⟨hfault, rfl⟩⟩

theorem bind {f : α → M L ε ω β} {h : α → ω → β × ω} (hx : Serves x m g)
    (hf : ∀ a, Serves (f a) n (h a)) : Serves (x >>= f) (m + n) fun hw => h (g hw).1 (g hw).2 := by
  intro d
  rw [@clear_add _ _ _ d m n (g d.hw).2]
  rcases hx d with ⟨hclear, hok⟩ | ⟨hclear, e, d', herr⟩
  · rcases hf (g d.hw).1 (d.after m (g d.hw).2) with ⟨hclear', hok'⟩ | ⟨hclear', e, d', herr⟩
    · refine .inl ⟨⟨hclear, hclear'⟩, ok_bind.mpr ⟨_, _, hok, ?_⟩⟩
      rwa [after_after] at hok'
    · exact .inr ⟨fun hc => hclear' hc.2, e, d', err_bind.mpr (.inr ⟨_, _, hok, herr⟩)⟩
  · exact .inr ⟨fun hc => hclear hc.1, e, d', err_bind.mpr (.inl herr)⟩

theorem assert {p : Prop} [Decidable p] (h : p) : Serves (Device.assert p : M L ε ω Unit) 0 fun hw => ((), hw) :=
  fun d => .inl ⟨d.clear_zero, ok_assert h⟩

theorem of_eq (hx : Serves x m g) (h : m = n) : Serves x n g := h ▸ hx

theorem ok_iff {d d' : Device L ε ω} {a : α} (hx : Serves x n g) :
    Ok x d a d' ↔ d.Clear n ∧ a = (g d.hw).1 ∧ d' = d.after n (g d.hw).2 := by
  rcases hx d with ⟨hclear, hok⟩ | ⟨hclear, e, d'', herr⟩
  · refine ⟨fun h => ⟨hclear, h.unique hok⟩, ?_⟩
    rintro ⟨-, rfl, rfl⟩
    exact hok
  · exact iff_of_false herr.not_ok fun h => hclear h.1

theorem gives {held : L → Bool} {hw : ω} (hx : Serves x n g) : Gives x held hw (g hw).1 held (g hw).2 := by
  rintro d hquiet rfl rfl
  refine ⟨d.after n (g d.hw).2, hx.ok_iff.mpr ⟨fun t _ => hquiet _ (Nat.le_add_right ..), rfl, rfl⟩, ?_, rfl, rfl⟩
  exact fun t ht => hquiet t (Nat.le_trans (Nat.le_add_right ..) ht)

/-- A computation that is recorded. -/
theorem observed (hx : Serves x n g) (f : ω → Except ε α → ι) (d : Device L ε ω) (is : List ι) :
    (d.Clear n ∧ Ok (Device.observed f x) (d.recorded is) (g d.hw).1
      ((d.after n (g d.hw).2).recorded (is ++ [f d.hw (.ok (g d.hw).1)]))) ∨
    (¬d.Clear n ∧ ∃ (e : ε) (d' : Device L ε ω), Err (Device.observed f x) (d.recorded is) e
      (d'.recorded (is ++ [f d.hw (.error e)]))) := by
  rcases hx d with ⟨hclear, hok⟩ | ⟨hclear, e, d', herr⟩
  · exact .inl ⟨hclear, ok_observed.mpr ⟨_, hok, rfl⟩⟩
  · exact .inr ⟨hclear, e, d', err_observed.mpr ⟨d', herr, rfl⟩⟩

end Serves

/-! ## Computations on a part of a device

A computation on what shows of a device becomes one on the device: it sees the part that `get` shows, and
`put` gives the device that shows what the computation leaves.
-/

variable {σ : Type}

def zoom (get : ω → σ) (put : σ → ω → ω) (x : M L ε σ α) : M L ε ω α := fun d =>
  let (r, d') := x.out ⟨d.held, d.fault, d.time, get d.hw⟩
  (r, ⟨d'.held, d'.fault, d'.time, put d'.hw d.hw⟩)

theorem out_zoom {x : M L ε σ α} {get : ω → σ} {put : σ → ω → ω} {d : Device L ε ω} {r : Except (Halt ε) α}
    {d' : Device L ε σ} (h : x.out ⟨d.held, d.fault, d.time, get d.hw⟩ = (r, d')) :
    (zoom get put x).out d = (r, ⟨d'.held, d'.fault, d'.time, put d'.hw d.hw⟩) := by
  simp only [zoom, Acts.out, ExceptT.run, StateT.run] at h ⊢
  rw [h]

theorem Serves.zoom {x : M L ε σ α} {n : Nat} {g : σ → α × σ} (hx : Serves x n g) (get : ω → σ)
    (put : σ → ω → ω) :
    Serves (Device.zoom get put x) n fun hw => ((g (get hw)).1, put (g (get hw)).2 hw) := by
  intro d
  rcases hx ⟨d.held, d.fault, d.time, get d.hw⟩ with ⟨hclear, hok⟩ | ⟨hclear, e, d', herr⟩
  · exact .inl ⟨hclear, out_zoom hok⟩
  · exact .inr ⟨hclear, e, _, out_zoom herr⟩

/-- What a second computation returns after a first one, whatever fails -/
theorem Serves.then_iff {x : M L ε ω α} {y : M L ε ω β} {m n : Nat} {f : ω → α × ω} {g : ω → β × ω}
    (hx : Serves x m f) (hy : Serves y n g) (hw : ω) (Q : β → Prop) :
    (∀ (d d' d'' : Device L ε ω) (b : β), d.hw = hw → Ok x d (f hw).1 d' → Ok y d' b d'' → Q b) ↔
      Q (g (f hw).2).1 := by
  constructor
  · intro h
    exact h ⟨fun _ => false, fun _ => none, 0, hw⟩ _ _ _ rfl (hx.ok_iff.mpr ⟨fun _ _ => rfl, rfl, rfl⟩)
      (hy.ok_iff.mpr ⟨fun _ _ => rfl, rfl, rfl⟩)
  · rintro h d d' d'' b rfl hok hok'
    obtain ⟨-, -, rfl⟩ := hx.ok_iff.mp hok
    obtain ⟨-, rfl, -⟩ := hy.ok_iff.mp hok'
    exact h

end Device

end OpxSdi.Lib
