import OpxSdi.Lib.Leaves

/-!
# Devices that are observed

A device with a record of what a computation has done. The record is not in the program: what the
computation does to the device does not depend on it.
-/

namespace OpxSdi.Lib

namespace Device

variable {L ε ω ι α : Type}

def bare (d : Device L ε (ω × List ι)) : Device L ε ω := ⟨d.held, d.fault, d.time, d.hw.1⟩

def recorded (d : Device L ε ω) (is : List ι) : Device L ε (ω × List ι) := ⟨d.held, d.fault, d.time, d.hw, is⟩

section

variable (d : Device L ε ω) (is : List ι)

@[simp] theorem recorded_held : (d.recorded is).held = d.held := rfl
@[simp] theorem recorded_fault : (d.recorded is).fault = d.fault := rfl
@[simp] theorem recorded_time : (d.recorded is).time = d.time := rfl
@[simp] theorem recorded_hw : (d.recorded is).hw = (d.hw, is) := rfl
@[simp] theorem bare_recorded : (d.recorded is).bare = d := rfl

end

/-- A computation that leaves the record as it is. -/
def unobserved (x : M L ε ω α) : M L ε (ω × List ι) α := fun d =>
  ((x.out d.bare).1, (x.out d.bare).2.recorded d.hw.2)

/-- A computation that is recorded, with the state it starts on and its result. -/
def observed (f : ω → Except ε α → ι) (x : M L ε ω α) : M L ε (ω × List ι) α := fun d =>
  match x.out d.bare with
  | (.ok a, d') => (.ok a, d'.recorded (d.hw.2 ++ [f d.hw.1 (.ok a)]))
  | (.error (.error e), d') => (.error (.error e), d'.recorded (d.hw.2 ++ [f d.hw.1 (.error e)]))
  | (.error .blocked, d') => (.error .blocked, d'.recorded d.hw.2)
  | (.error .aborted, d') => (.error .aborted, d'.recorded d.hw.2)

/-- A computation with a record that adds its own result to it -/
def noted (f : Except ε α → ι) (x : M L ε (ω × List ι) α) : M L ε (ω × List ι) α := do
  let rc ← attempt x
  internal fun hw => ((), hw.1, hw.2 ++ [f rc])
  ofResult rc

variable {x : M L ε ω α} {f : ω → Except ε α → ι} {d : Device L ε ω} {is : List ι}
  {d' : Device L ε (ω × List ι)} {a : α} {e : ε}

theorem ok_unobserved : Ok (unobserved x) (d.recorded is) a d' ↔
    ∃ d1, Ok x d a d1 ∧ d' = d1.recorded is := by
  change ((x.out d).1, (x.out d).2.recorded is) = (.ok a, d') ↔ _
  constructor
  · intro h
    obtain ⟨hr, hd⟩ := Prod.mk.inj h
    exact ⟨(x.out d).2, Prod.ext hr rfl, hd.symm⟩
  · rintro ⟨d1, hx, rfl⟩
    rw [show x.out d = (.ok a, d1) from hx]

theorem err_unobserved : Err (unobserved x) (d.recorded is) e d' ↔
    ∃ d1, Err x d e d1 ∧ d' = d1.recorded is := by
  change ((x.out d).1, (x.out d).2.recorded is) = (.error (.error e), d') ↔ _
  constructor
  · intro h
    obtain ⟨hr, hd⟩ := Prod.mk.inj h
    exact ⟨(x.out d).2, Prod.ext hr rfl, hd.symm⟩
  · rintro ⟨d1, hx, rfl⟩
    rw [show x.out d = (.error (.error e), d1) from hx]

theorem ok_observed : Ok (observed f x) (d.recorded is) a d' ↔
    ∃ d1, Ok x d a d1 ∧ d' = d1.recorded (is ++ [f d.hw (.ok a)]) := by
  constructor
  · intro h
    simp only [Ok, observed, Acts.out, ExceptT.run, StateT.run, bare_recorded, recorded_hw] at h
    split at h <;> cases h
    exact ⟨_, ‹_›, rfl⟩
  · rintro ⟨d1, hx, rfl⟩
    simp only [Ok, observed, Acts.out, ExceptT.run, StateT.run, bare_recorded, recorded_hw] at hx ⊢
    rw [hx]

theorem err_observed : Err (observed f x) (d.recorded is) e d' ↔
    ∃ d1, Err x d e d1 ∧ d' = d1.recorded (is ++ [f d.hw (.error e)]) := by
  constructor
  · intro h
    simp only [Err, observed, Acts.out, ExceptT.run, StateT.run, bare_recorded, recorded_hw] at h
    split at h <;> cases h
    exact ⟨_, ‹_›, rfl⟩
  · rintro ⟨d1, hx, rfl⟩
    simp only [Err, observed, Acts.out, ExceptT.run, StateT.run, bare_recorded, recorded_hw] at hx ⊢
    rw [hx]

/-! ## What a recorded computation keeps -/

theorem Stays.unobserved {R : Device L ε (ω × List ι) → Device L ε (ω × List ι) → Prop} {x : M L ε ω α}
    (hR : ∀ d d', d'.hw.2 = d.hw.2 → R d d') : Stays R (Device.unobserved x) :=
  fun d => hR d _ rfl

theorem Stays.observed {R : Device L ε (ω × List ι) → Device L ε (ω × List ι) → Prop} {x : M L ε ω α}
    {f : ω → Except ε α → ι} (hR : ∀ d d', d'.hw.2 = d.hw.2 → R d d')
    (hrecord : ∀ d d' r, d'.hw.2 = d.hw.2 ++ [f d.hw.1 r] → R d d') : Stays R (Device.observed f x) := by
  intro d
  simp only [Device.observed, Acts.out, ExceptT.run, StateT.run]
  split
  · exact hrecord d _ _ rfl
  · exact hrecord d _ _ rfl
  · exact hR d _ rfl
  · exact hR d _ rfl

/-! ## What a recorded computation is without its record -/

/-- Without its record, the first computation is the second. -/
def Erases (x : M L ε (ω × List ι) α) (y : M L ε ω α) : Prop :=
  ∀ d, ((x.out d).1, (x.out d).2.bare) = y.out d.bare

namespace Erases

variable {β : Type} {x : M L ε (ω × List ι) α} {y : M L ε ω α} {f : α → M L ε (ω × List ι) β} {g : α → M L ε ω β}

theorem ofResult (r : Except ε α) : Erases (Device.ofResult r : M L ε (ω × List ι) α) (Device.ofResult r) := by
  intro d
  rw [out_ofResult, out_ofResult]

theorem pure (a : α) : Erases (Pure.pure a : M L ε (ω × List ι) α) (Pure.pure a) := ofResult (.ok a)

theorem fail (e : ε) : Erases (Device.fail e : M L ε (ω × List ι) α) (Device.fail e) := ofResult (.error e)

theorem bind (hx : Erases x y) (hf : ∀ a, Erases (f a) (g a)) : Erases (x >>= f) (y >>= g) := by
  intro d
  rw [Acts.out_bind, Acts.out_bind, ← hx d]
  cases hr : x.out d with
  | mk r d' =>
      cases r with
      | ok a => exact hf a d'
      | error e => rfl

theorem attempt (hx : Erases x y) : Erases (Device.attempt x) (Device.attempt y) := by
  intro d
  have h : ((x d).1, (x d).2.bare) = y d.bare := hx d
  simp only [Device.attempt, Acts.out, ExceptT.run, StateT.run]
  rw [← h]
  generalize x d = out
  obtain ⟨(_ | _ | _) | _, d'⟩ := out <;> rfl

theorem unobserved (y : M L ε ω α) : Erases (Device.unobserved y : M L ε (ω × List ι) α) y := fun _ => rfl

theorem observed (f : ω → Except ε α → ι) (y : M L ε ω α) : Erases (Device.observed f y) y := by
  intro d
  simp only [Device.observed, Acts.out, ExceptT.run, StateT.run]
  generalize y d.bare = out
  obtain ⟨(_ | _ | _) | _, d'⟩ := out <;> rfl

end Erases

/-! ## What a recorded computation leads to -/

/-- On `d`, the computation makes `n` operations, ends with `rc` and this state, and
adds `is` to the record. -/
def Leads (x : M L ε (ω × List ι) α) (d : Device L ε ω) (rc : Except ε α) (n : Nat) (hw : ω) (is : List ι) :
    Prop :=
  ∀ before, x.out (d.recorded before) = (outcome rc, (d.after n hw).recorded (before ++ is))

namespace Leads

variable {β : Type} {x : M L ε (ω × List ι) α} {g : α → M L ε (ω × List ι) β} {d : Device L ε ω} {hw hw' : ω}
  {m n : Nat} {is js : List ι} {a : α} {b : β} {e : ε} {rc : Except ε α} {rc' : Except ε β}

theorem ofResult {r : Except ε α} (h : r = rc) :
    Leads (Device.ofResult r : M L ε (ω × List ι) α) d rc 0 d.hw [] := by
  intro before
  rw [h, List.append_nil]
  exact out_ofResult rc _

theorem pure (a : α) : Leads (Pure.pure a : M L ε (ω × List ι) α) d (.ok a) 0 d.hw [] :=
  ofResult (show .ok a = .ok a from rfl)

theorem bind (hx : Leads x d (.ok a) m hw is) (hg : Leads (g a) (d.after m hw) rc' n hw' js) :
    Leads (x >>= g) d rc' (n + m) hw' (is ++ js) := by
  intro before
  rw [Acts.out_bind_ok (hx before), hg, after_after, List.append_assoc, Nat.add_comm]

theorem map (hx : Leads x d (.ok a) n hw is) (k : α → β) :
    Leads (x >>= fun a => Pure.pure (k a)) d (.ok (k a)) n hw is :=
  fun before => Acts.out_bind_ok (hx before)

theorem stop (hx : Leads x d (.error e) n hw is) : Leads (x >>= g) d (.error e) n hw is :=
  fun before => Acts.out_bind_error (hx before)

theorem attempt (hx : Leads x d rc n hw is) : Leads (Device.attempt x) d (.ok rc) n hw is :=
  fun before => out_attempt (hx before)

theorem noted (hx : Leads x d rc n hw is) (f : Except ε α → ι) :
    Leads (Device.noted f x) d rc n hw (is ++ [f rc]) := by
  intro before
  rw [Device.noted, Acts.out_bind_ok (hx.attempt before), ← List.append_assoc]
  exact out_ofResult rc _

/-- One operation, which is recorded -/
theorem access_ok {k : ω → α × ω} (f : ω → Except ε α → ι) (h : d.fault d.time = none) :
    Leads (observed f (access k)) d (.ok (k d.hw).1) 1 (k d.hw).2 [f d.hw (.ok (k d.hw).1)] :=
  fun _ => ok_observed.mpr ⟨_, ok_access.mpr ⟨h, rfl, rfl⟩, rfl⟩

theorem access_error {k : ω → α × ω} (f : ω → Except ε α → ι) (h : d.fault d.time = some e) :
    Leads (observed f (access k)) d (.error e) 1 d.hw [f d.hw (.error e)] :=
  fun _ => err_observed.mpr ⟨_, err_access.mpr ⟨h, rfl⟩, rfl⟩

end Leads

end Device

end OpxSdi.Lib
