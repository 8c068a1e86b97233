import OpxSdi.Lib.Results

/-!
# Computations that make their operations in a row

The first operation that fails is the last, so the schedule says how many there are.
-/

namespace OpxSdi.Lib.Device

variable {L ε ω α β : Type} {fault : Nat → Option ε} {m n t : Nat}

/-- None of the `n` operations from time `t` fails. -/
def Served (fault : Nat → Option ε) (n t : Nat) : Prop := ∀ i < n, fault (t + i) = none

theorem served_zero : Served fault 0 t := fun _ h => absurd h (Nat.not_lt_zero _)

theorem served_succ : Served fault (n + 1) t ↔ fault t = none ∧ Served fault n (t + 1) := by
  constructor
  · intro h
    refine ⟨h 0 (Nat.succ_pos n), fun i hi => ?_⟩
    rw [Nat.add_right_comm, Nat.add_assoc]
    exact h (i + 1) (Nat.succ_lt_succ hi)
  · rintro ⟨hfirst, hrest⟩ i hi
    cases i with
    | zero => exact hfirst
    | succ i =>
        have h := hrest i (Nat.lt_of_succ_lt_succ hi)
        rwa [Nat.add_right_comm, Nat.add_assoc] at h

theorem served_add : Served fault (m + n) t ↔ Served fault m t ∧ Served fault n (t + m) := by
  induction m generalizing t with
  | zero => simp only [Nat.zero_add, Nat.add_zero, served_zero, true_and]
  | succ m ih => rw [Nat.add_right_comm m 1 n, served_succ, ih, served_succ, and_assoc, Nat.add_right_comm t 1 m,
      Nat.add_assoc t m 1]

theorem made_add_of_served (h : Served fault m t) : made fault t (m + n) = m + made fault (t + m) n := by
  induction m generalizing t with
  | zero => rw [Nat.zero_add, Nat.zero_add, Nat.add_zero]
  | succ m ih =>
      obtain ⟨hfirst, hrest⟩ := served_succ.mp h
      rw [Nat.add_right_comm m 1 n, made, hfirst, ih hrest, Nat.add_right_comm t 1 m, Nat.add_assoc t m 1]
      exact Nat.add_right_comm ..

theorem made_of_served (h : Served fault n t) : made fault t n = n := made_add_of_served (n := 0) h

theorem made_add_of_not_served (h : ¬Served fault m t) : made fault t (m + n) = made fault t m := by
  induction m generalizing t with
  | zero => exact absurd served_zero h
  | succ m ih =>
      rw [Nat.add_right_comm m 1 n, made, made]
      cases hfirst : fault t with
      | some e => rfl
      | none => rw [ih fun hrest => h (served_succ.mpr ⟨hfirst, hrest⟩)]

/-- The computation makes `n` operations in a row, and returns a value iff none of them fails. -/
def InRow (n : Nat) (x : M L ε ω α) : Prop :=
  ∀ d, ∃ r d', x.out d = (outcome r, d') ∧ d'.fault = d.fault ∧ d'.time = d.time + made d.fault d.time n ∧
    ((∃ a, r = .ok a) ↔ Served d.fault n d.time)

namespace InRow

theorem pure (a : α) : InRow 0 (Pure.pure a : M L ε ω α) :=
  fun d => ⟨.ok a, d, rfl, rfl, rfl, iff_of_true ⟨a, rfl⟩ served_zero⟩

theorem access (f : ω → α × ω) : InRow 1 (Device.access f : M L ε ω α) := by
  intro d
  simp only [Device.access, Acts.out, ExceptT.run, StateT.run, made, served_succ]
  cases d.fault d.time with
  | some e => exact ⟨.error e, _, rfl, rfl, rfl, by simp⟩
  | none => exact ⟨.ok (f d.hw).1, _, rfl, rfl, rfl, iff_of_true ⟨_, rfl⟩ ⟨rfl, served_zero⟩⟩

theorem bind {x : M L ε ω α} {f : α → M L ε ω β} (hx : InRow m x) (hf : ∀ a, InRow n (f a)) :
    InRow (m + n) (x >>= f) := by
  intro d
  obtain ⟨r, d', hout, hfault, htime, hok⟩ := hx d
  cases r with
  | error e =>
      have hserved : ¬Served d.fault m d.time := fun h => by
        obtain ⟨_, h⟩ := hok.mpr h
        cases h
      refine ⟨.error e, d', Acts.out_bind_error hout, hfault, ?_, ?_⟩
      · rw [made_add_of_not_served hserved, htime]
      · exact iff_of_false (fun ⟨_, h⟩ => by cases h) fun h => hserved (served_add.mp h).1
  | ok a =>
      have hserved := hok.mp ⟨a, rfl⟩
      rw [made_of_served hserved] at htime
      obtain ⟨r', d'', hout', hfault', htime', hok'⟩ := hf a d'
      rw [hfault, htime] at htime' hok'
      refine ⟨r', d'', (Acts.out_bind_ok hout).trans hout', hfault'.trans hfault, ?_, ?_⟩
      · rw [made_add_of_served hserved, htime', Nat.add_assoc]
      · rw [hok', served_add]
        exact (and_iff_right hserved).symm

end InRow

end OpxSdi.Lib.Device
