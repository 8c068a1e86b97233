import OpxSdi.Lib.Device

/-!
# Computations that return iff nothing fails

A computation on a device takes a fixed number of operations and gives back the locks it takes. It returns
iff none of these operations fails, with what a pure computation on the device returns.
-/

namespace OpxSdi.Lib

namespace Device

variable {L ε ω φ α β : Type}

/-- The next `n` operations do not fail. -/
def Clear (d : Device L ε ω) (n : Nat) : Prop := ∀ t < n, d.fault (d.time + t) = none

def after (d : Device L ε ω) (n : Nat) (hw : ω) : Device L ε ω := { d with hw, time := d.time + n }

@[simp] theorem after_held (d : Device L ε ω) (n : Nat) (hw : ω) : (d.after n hw).held = d.held := rfl
@[simp] theorem after_hw (d : Device L ε ω) (n : Nat) (hw : ω) : (d.after n hw).hw = hw := rfl
@[simp] theorem after_time (d : Device L ε ω) (n : Nat) (hw : ω) : (d.after n hw).time = d.time + n := rfl
@[simp] theorem after_zero (d : Device L ε ω) : d.after 0 d.hw = d := rfl

theorem after_after (d : Device L ε ω) (m n : Nat) (hw hw' : ω) :
    (d.after m hw).after n hw' = d.after (m + n) hw' := by
  simp only [after, Nat.add_assoc]

theorem clear_zero (d : Device L ε ω) : d.Clear 0 := fun _ ht => absurd ht (Nat.not_lt_zero _)

theorem clear_one {d : Device L ε ω} : d.Clear 1 ↔ d.fault d.time = none := by
  refine ⟨fun h => h 0 Nat.one_pos, fun h t ht => ?_⟩
  rwa [Nat.lt_one_iff.mp ht]

theorem clear_succ {d : Device L ε ω} {n : Nat} : d.Clear (n + 1) ↔ d.Clear n ∧ d.fault (d.time + n) = none :=
  Nat.forall_lt_succ_right

theorem clear_two {d : Device L ε ω} :
    d.Clear 2 ↔ d.fault d.time = none ∧ d.fault (d.time + 1) = none := by
  rw [clear_succ, clear_one]

theorem clear_add {d : Device L ε ω} {m n : Nat} {hw : ω} :
    d.Clear (m + n) ↔ d.Clear m ∧ (d.after m hw).Clear n := by
  constructor
  · intro h
    refine ⟨fun t ht => h t (by omega), fun t ht => ?_⟩
    have := h (m + t) (by omega)
    rwa [← Nat.add_assoc] at this
  · rintro ⟨hm, hn⟩ t ht
    by_cases htm : t < m
    · exact hm t htm
    · have := hn (t - m) (by omega)
      rwa [after_time, Nat.add_assoc, Nat.add_sub_cancel' (Nat.le_of_not_lt htm)] at this

def Takes (held : L → Bool) (x : M L ε ω α) (n : Nat) (f : StateT ω (Except φ) α) : Prop :=
  ∀ d : Device L ε ω, d.held = held → ∀ a d',
    x.out d = (.ok a, d') ↔ d.Clear n ∧ f.run d.hw = .ok (a, d'.hw) ∧ d' = d.after n d'.hw

namespace Takes

variable {held : L → Bool} {x : M L ε ω α} {m n : Nat} {f : StateT ω (Except φ) α}

theorem pure (a : α) : Takes held (Pure.pure a : M L ε ω α) 0 (Pure.pure a : StateT ω (Except φ) α) := by
  rintro d - b d'
  rw [Acts.out_pure]
  constructor
  · rintro h
    cases h
    exact ⟨d.clear_zero, rfl, rfl⟩
  · rintro ⟨-, hf, hd⟩
    obtain ⟨rfl, hhw⟩ := Prod.mk.inj (Except.ok.inj hf)
    rw [hd, ← hhw]
    rfl

theorem internal (g : ω → α × ω) :
    Takes held (Device.internal g : M L ε ω α) 0 (fun hw => .ok (g hw) : StateT ω (Except φ) α) := by
  rintro d - b d'
  constructor
  · intro h
    cases h
    exact ⟨d.clear_zero, rfl, rfl⟩
  · rintro ⟨-, hf, hd⟩
    have hg := Except.ok.inj hf
    rw [hd, ← (Prod.mk.inj hg).1, ← (Prod.mk.inj hg).2]
    rfl

theorem access (g : ω → α × ω) :
    Takes held (Device.access g : M L ε ω α) 1 (fun hw => .ok (g hw) : StateT ω (Except φ) α) := by
  rintro d - b d'
  simp only [Device.access, Acts.out, ExceptT.run, StateT.run, clear_one]
  cases hfault : d.fault d.time with
  | some e => simp only [Prod.mk.injEq, reduceCtorEq, false_and]
  | none =>
      constructor
      · intro h
        cases h
        exact ⟨rfl, rfl, rfl⟩
      · rintro ⟨-, hf, hd⟩
        have hg := Except.ok.inj hf
        rw [hd, ← (Prod.mk.inj hg).1, ← (Prod.mk.inj hg).2]
        rfl

theorem bind {k : α → M L ε ω β} {g : α → StateT ω (Except φ) β} (hx : Takes held x m f)
    (hk : ∀ a, Takes held (k a) n (g a)) : Takes held (x >>= k) (m + n) (f >>= g) := by
  intro d hd b d'
  constructor
  · intro h
    obtain ⟨a, d1, hout, hout'⟩ := Acts.out_bind_returns h
    obtain ⟨hm, hf, hd1⟩ := (hx d hd a d1).mp hout
    rw [hd1] at hout'
    obtain ⟨hn, hg, hd'⟩ := (hk a (d.after m d1.hw) hd b d').mp hout'
    refine ⟨clear_add.mpr ⟨hm, hn⟩, ?_, hd'.trans (after_after ..)⟩
    rw [StateT.run_bind, hf]
    exact hg
  · rintro ⟨hclear, hfg, hd'⟩
    rw [StateT.run_bind] at hfg
    cases hf : f.run d.hw with
    | error e =>
        rw [hf] at hfg
        cases hfg
    | ok r =>
        obtain ⟨a, hw⟩ := r
        rw [hf] at hfg
        obtain ⟨hm, hn⟩ := clear_add.mp hclear
        have hout := (hx d hd a (d.after m hw)).mpr ⟨hm, hf, rfl⟩
        rw [Acts.out_bind_ok hout]
        exact (hk a (d.after m hw) hd b d').mpr ⟨hn, hfg, hd'.trans (after_after ..).symm⟩

end Takes

end Device

end OpxSdi.Lib
