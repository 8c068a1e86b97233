import OpxSdi.Lib.Results

/-!
# The device that a computation leaves

Whether a computation returns, ends with an error or does not end, it leaves a device. A part of it that
stays within a relation does not change what the relation keeps.
-/

namespace OpxSdi.Lib

namespace Device

variable {L ε ω α β : Type} {x : M L ε ω α} {f : α → M L ε ω β} {d : Device L ε ω} {a : α}
variable {P : Device L ε ω → Prop} {R : Device L ε ω → Device L ε ω → Prop}

/-- The computation leaves `d` in a state with `P`, whatever its result is. -/
def Leaves (x : M L ε ω α) (d : Device L ε ω) (P : Device L ε ω → Prop) : Prop := P (x.out d).2

theorem leaves_of_ok {d' : Device L ε ω} (h : Ok x d a d') : Leaves x d P ↔ P d' := by
  rw [Leaves, show x.out d = (.ok a, d') from h]

theorem leaves_of_err {e : ε} {d' : Device L ε ω} (h : Err x d e d') : Leaves x d P ↔ P d' := by
  rw [Leaves, show x.out d = (.error (.error e), d') from h]

theorem leaves_bind_of_ok {d' : Device L ε ω} (h : Ok x d a d') :
    Leaves (x >>= f) d P ↔ Leaves (f a) d' P := by
  rw [Leaves, Acts.out_bind_ok h, Leaves]

theorem leaves_assert_bind {p : Prop} [Decidable p] (h : p) {f : Unit → M L ε ω β} :
    Leaves (assert p >>= f) d P ↔ Leaves (f ()) d P := leaves_bind_of_ok (ok_assert h)

theorem leaves_bind : Leaves (x >>= f) d P ↔
    (∀ a d', Ok x d a d' → Leaves (f a) d' P) ∧ ((∀ a d', ¬Ok x d a d') → Leaves x d P) := by
  cases hx : x.out d with
  | mk r d' =>
      cases r with
      | ok a =>
          have hok : Ok x d a d' := hx
          rw [Leaves, Acts.out_bind_ok hx]
          constructor
          · intro h
            refine ⟨fun b d'' hb => ?_, fun hno => absurd hok (hno a d')⟩
            obtain ⟨rfl, rfl⟩ := hb.unique hok
            exact h
          · intro h
            exact h.1 a d' hok
      | error e =>
          have hno : ∀ a d'', ¬Ok x d a d'' := by
            intro a d'' h
            cases hx.symm.trans h
          rw [Leaves, Acts.out_bind_error hx, Leaves, hx]
          exact ⟨fun h => ⟨fun a d'' ha => absurd ha (hno a d''), fun _ => h⟩, fun h => h.2 hno⟩

theorem leaves_bind_of_leaves (h : Leaves x d P) :
    Leaves (x >>= f) d P ↔ ∀ a d', Ok x d a d' → Leaves (f a) d' P := by
  rw [leaves_bind]
  exact and_iff_left fun _ => h

theorem leaves_attempt : Leaves (attempt x) d P ↔ Leaves x d P := by
  simp only [Leaves, attempt, Acts.out, ExceptT.run, StateT.run]
  split <;> rename_i hx <;> rw [hx]

theorem leaves_attempt_bind {g : Except ε α → M L ε ω β} : Leaves (attempt x >>= g) d P ↔
    (∀ a d', Ok x d a d' → Leaves (g (.ok a)) d' P) ∧ (∀ e d', Err x d e d' → Leaves (g (.error e)) d' P) ∧
      ((∀ a d', ¬Ok x d a d') → (∀ e d', ¬Err x d e d') → Leaves x d P) := by
  rw [leaves_bind, leaves_attempt]
  constructor
  · rintro ⟨hend, hno⟩
    refine ⟨fun a d' h => ?_, fun e d' h => ?_, fun hok herr => hno fun r d' h => ?_⟩
    · exact hend _ d' (ok_attempt.mpr (.inl ⟨a, rfl, h⟩))
    · exact hend _ d' (ok_attempt.mpr (.inr ⟨e, rfl, h⟩))
    · rcases ok_attempt.mp h with ⟨a, rfl, hx⟩ | ⟨e, rfl, hx⟩
      · exact hok a d' hx
      · exact herr e d' hx
  · rintro ⟨hok, herr, hno⟩
    refine ⟨fun r d' h => ?_, fun hnone => hno (fun a d' h => ?_) fun e d' h => ?_⟩
    · rcases ok_attempt.mp h with ⟨a, rfl, hx⟩ | ⟨e, rfl, hx⟩
      · exact hok a d' hx
      · exact herr e d' hx
    · exact hnone _ d' (ok_attempt.mpr (.inl ⟨a, rfl, h⟩))
    · exact hnone _ d' (ok_attempt.mpr (.inr ⟨e, rfl, h⟩))

/-! ## Computations that stay within a relation -/

/-- The device that the computation leaves is related to the one that it starts on. -/
def Stays (R : Device L ε ω → Device L ε ω → Prop) (x : M L ε ω α) : Prop := ∀ d, R d (x.out d).2

namespace Stays

theorem ofResult (hrefl : ∀ d, R d d) (r : Except ε α) : Stays R (Device.ofResult r : M L ε ω α) := by
  intro d
  cases r <;> exact hrefl d

theorem pure (hrefl : ∀ d, R d d) (a : α) : Stays R (Pure.pure a : M L ε ω α) := hrefl

theorem fail (hrefl : ∀ d, R d d) (e : ε) : Stays R (Device.fail e : M L ε ω α) := hrefl

theorem internal (g : ω → α × ω) (hR : ∀ d : Device L ε ω, R d { d with hw := (g d.hw).2 }) :
    Stays R (Device.internal g : M L ε ω α) := hR

theorem assert (hrefl : ∀ d, R d d) {p : Prop} [Decidable p] : Stays R (Device.assert p : M L ε ω Unit) := by
  intro d
  simp only [Device.assert, Acts.out, ExceptT.run, StateT.run]
  split <;> exact hrefl d

theorem access (g : ω → α × ω) (herr : ∀ d : Device L ε ω, R d { d with time := d.time + 1 })
    (hok : ∀ d : Device L ε ω, R d { d with hw := (g d.hw).2, time := d.time + 1 }) :
    Stays R (Device.access g : M L ε ω α) := by
  intro d
  obtain ⟨r, d', hout, hR⟩ := Keeps.access g herr hok d
  rw [hout]
  exact hR

theorem lock [DecidableEq L] {l : L} (hrefl : ∀ d, R d d)
    (hR : ∀ d : Device L ε ω, ∀ held, R d { d with held, time := d.time + 1 }) :
    Stays R (Device.lock l : M L ε ω Unit) := by
  intro d
  simp only [Device.lock, Acts.out, ExceptT.run, StateT.run]
  split
  · exact hR d d.held
  · split
    · exact hrefl d
    · exact hR d _

theorem unlock [DecidableEq L] {l : L} (hR : ∀ d : Device L ε ω, ∀ held, R d { d with held }) :
    Stays R (Device.unlock l : M L ε ω Unit) := fun d => hR d _

theorem attempt (hx : Stays R x) : Stays R (Device.attempt x) := fun d => leaves_attempt.mpr (hx d)

theorem mono {R' : Device L ε ω → Device L ε ω → Prop} (hx : Stays R x) (h : ∀ d d', R d d' → R' d d') : Stays R' x :=
  fun d => h _ _ (hx d)

/-- What comes after the computation may rest on what it has returned. -/
theorem bind_of_ok (htrans : ∀ d d' d'', R d d' → R d' d'' → R d d'') (hx : Stays R x)
    (hf : ∀ d a d', Ok x d a d' → Leaves (f a) d' (R d')) : Stays R (x >>= f) := by
  intro d
  have hR := hx d
  rw [Acts.out_bind]
  cases hout : x.out d with
  | mk r d' =>
      rw [hout] at hR
      cases r with
      | ok a => exact htrans _ _ _ hR (hf d a d' hout)
      | error e => exact hR

theorem bind (htrans : ∀ d d' d'', R d d' → R d' d'' → R d d'') (hx : Stays R x) (hf : ∀ a, Stays R (f a)) :
    Stays R (x >>= f) := hx.bind_of_ok htrans fun _ a d' _ => hf a d'

/-- What the relation keeps is as it was. -/
theorem leaves_iff (hx : Stays R x) (hP : ∀ d d', R d d' → (P d' ↔ P d)) : Leaves x d P ↔ P d := hP _ _ (hx d)

theorem leaves_bind_iff (hx : Stays R x) (hP : ∀ d d', R d d' → (P d' ↔ P d)) (hd : P d) :
    Leaves (x >>= f) d P ↔ ∀ a d', Ok x d a d' → Leaves (f a) d' P := by
  rw [leaves_bind]
  exact and_iff_left fun _ => (hx.leaves_iff hP).mpr hd

/-- What the relation keeps from holding does not hold before the computation has returned. -/
theorem leaves_bind_iff_of_not (hx : Stays R x) (hP : ∀ d d', R d d' → (P d' ↔ P d)) (hd : ¬P d) :
    Leaves (x >>= f) d P ↔ ∃ a d', Ok x d a d' ∧ Leaves (f a) d' P := by
  constructor
  · intro h
    by_contra hno
    obtain ⟨hok, hleaves⟩ := leaves_bind.mp h
    refine hd ((hx.leaves_iff hP).mp (hleaves fun a d' ha => ?_))
    exact hno ⟨a, d', ha, hok a d' ha⟩
  · rintro ⟨a, d', ha, hf⟩
    exact (leaves_bind_of_ok ha).mpr hf

theorem of_ok (hx : Stays R x) {d' : Device L ε ω} (h : Ok x d a d') : R d d' :=
  (leaves_of_ok (P := R d) h).mp (hx d)

theorem of_err (hx : Stays R x) {e : ε} {d' : Device L ε ω} (h : Err x d e d') : R d d' :=
  (leaves_of_err (P := R d) h).mp (hx d)

end Stays

/-- What comes after a computation and stays within the relation does not change what it leaves. -/
theorem leaves_bind_stays (hf : ∀ a, Stays R (f a)) (hP : ∀ d d', R d d' → (P d' ↔ P d)) :
    Leaves (x >>= f) d P ↔ Leaves x d P := by
  cases hx : x.out d with
  | mk r d' =>
      cases r with
      | ok a =>
          rw [Leaves, Acts.out_bind_ok hx, leaves_of_ok hx]
          exact (hf a).leaves_iff hP
      | error e => rw [Leaves, Acts.out_bind_error hx, Leaves, hx]

end Device

end OpxSdi.Lib
