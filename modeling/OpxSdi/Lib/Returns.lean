import OpxSdi.Lib.Checked

/-!
# Computations that return

A computation returns when nothing stops it. The rules say when a sequence and a fold return.
-/

namespace OpxSdi.Lib

variable {ε α β σ : Type}

def Returns (x : Except ε α) : Prop := ∃ a, x = .ok a

@[simp] theorem returns_ok (a : α) : Returns (.ok a : Except ε α) := ⟨a, rfl⟩

@[simp] theorem not_returns_error (e : ε) : ¬Returns (.error e : Except ε α) := nofun

theorem bind_eq_ok {x : Except ε α} {f : α → Except ε β} {b : β} (h : x >>= f = .ok b) :
    ∃ a, x = .ok a ∧ f a = .ok b := by
  cases x with
  | error e => cases h
  | ok a => exact ⟨a, rfl, h⟩

theorem returns_bind_iff {x : Except ε α} {f : α → Except ε β} :
    Returns (x >>= f) ↔ ∃ a, x = .ok a ∧ Returns (f a) := by
  cases x with
  | error e => exact iff_of_false (not_returns_error e) nofun
  | ok a => exact ⟨fun h => ⟨a, rfl, h⟩, fun ⟨_, hx, h⟩ => by cases hx; exact h⟩

theorem returns_bind_and {x : Except ε α} {f : α → Except ε β} {P : Prop}
    (h : ∀ a, x = .ok a → (Returns (f a) ↔ P)) :
    Returns (x >>= f) ↔ Returns x ∧ P := by
  rw [returns_bind_iff]
  constructor
  · rintro ⟨a, hx, hf⟩
    exact ⟨⟨a, hx⟩, (h a hx).mp hf⟩
  · rintro ⟨⟨a, hx⟩, hP⟩
    exact ⟨a, hx, (h a hx).mpr hP⟩

theorem returns_bind_left {x : Except ε α} {f : α → Except ε β} (h : ∀ a, Returns (f a)) :
    Returns (x >>= f) ↔ Returns x :=
  (returns_bind_and fun a _ => iff_true_intro (h a)).trans (and_iff_left trivial)

theorem returns_map_iff {x : Except ε α} {f : α → β} : Returns (f <$> x) ↔ Returns x := by
  cases x with
  | error e => exact iff_of_false (not_returns_error e) (not_returns_error e)
  | ok a => exact iff_of_true (returns_ok _) (returns_ok _)

theorem returns_mapError_iff {ε' : Type} {x : Except ε α} {f : ε → ε'} :
    Returns (x.mapError f) ↔ Returns x := by
  cases x with
  | error e => exact iff_of_false (not_returns_error _) (not_returns_error e)
  | ok a => exact iff_of_true (returns_ok a) (returns_ok a)

/-- A fold returns iff each of its steps does, where that depends on the element only. -/
theorem returns_foldlM_iff {step : σ → α → Except ε σ} {Ok : α → Prop} (h : ∀ s a, Returns (step s a) ↔ Ok a)
    (s : σ) (l : List α) : Returns (l.foldlM step s) ↔ ∀ a ∈ l, Ok a := by
  induction l generalizing s with
  | nil => exact iff_of_true (returns_ok s) nofun
  | cons a l ih =>
      rw [List.foldlM_cons, returns_bind_and fun s' _ => ih s', h, List.forall_mem_cons]

/-- A map whose elements all return has their results in their order. -/
theorem mapM_ok {f : α → Except ε β} {l : List α} (h : ∀ a ∈ l, Returns (f a)) :
    ∃ out, l.mapM f = .ok out ∧ ∀ (i : Nat) a, l[i]? = some a → ∃ b, f a = .ok b ∧ out[i]? = some b := by
  induction l with
  | nil => exact ⟨[], rfl, nofun⟩
  | cons a l ih =>
      obtain ⟨⟨b, hb⟩, hl⟩ := List.forall_mem_cons.mp h
      obtain ⟨out, hout, hget⟩ := ih hl
      refine ⟨b :: out, by rw [List.mapM_cons, hb, hout]; rfl, fun i a' ha' => ?_⟩
      cases i with
      | zero =>
          cases ha'
          exact ⟨b, hb, rfl⟩
      | succ i => exact hget i a' ha'

/-- A fold under an invariant of what has been folded, what is left and the state. -/
theorem foldlM_inv {step : σ → α → Except ε σ} (Inv : (done left : List α) → σ → Prop) {Ok : α → Prop}
    (hstep : ∀ done a left s, Inv done (a :: left) s →
      (Returns (step s a) ↔ Ok a) ∧ ∀ s', step s a = .ok s' → Inv (done ++ [a]) left s')
    (done : List α) {l : List α} {s : σ} (h : Inv done l s) :
    (Returns (l.foldlM step s) ↔ ∀ a ∈ l, Ok a) ∧ ∀ s', l.foldlM step s = .ok s' → Inv (done ++ l) [] s' := by
  induction l generalizing done s with
  | nil =>
      refine ⟨iff_of_true (returns_ok s) nofun, fun s' hs' => ?_⟩
      cases hs'
      rwa [List.append_nil]
  | cons a l ih =>
      obtain ⟨hreturns, hnext⟩ := hstep done a l s h
      rw [List.foldlM_cons, List.forall_mem_cons, ← hreturns]
      constructor
      · rw [returns_bind_iff]
        constructor
        · rintro ⟨s', hs', hrest⟩
          exact ⟨⟨s', hs'⟩, (ih _ (hnext s' hs')).1.mp hrest⟩
        · rintro ⟨⟨s', hs'⟩, hrest⟩
          exact ⟨s', hs', (ih _ (hnext s' hs')).1.mpr hrest⟩
      · intro s'' hs''
        obtain ⟨s', hs', hrest⟩ := bind_eq_ok hs''
        have hlast := (ih _ (hnext s' hs')).2 s'' hrest
        rwa [List.append_assoc, List.singleton_append] at hlast

theorem foldlM_preserves {step : σ → α → Except ε σ} {P : σ → Prop}
    (hstep : ∀ s a s', P s → step s a = .ok s' → P s')
    {l : List α} {s s' : σ} (hs : P s) (h : l.foldlM step s = .ok s') : P s' := by
  induction l generalizing s with
  | nil => cases h; exact hs
  | cons a l ih =>
      obtain ⟨t, ht, hrest⟩ := bind_eq_ok h
      exact ih (hstep s a t hs ht) hrest

end OpxSdi.Lib
