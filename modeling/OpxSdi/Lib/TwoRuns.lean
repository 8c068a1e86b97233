import OpxSdi.Lib.Leaves

/-!
# Two runs side by side

Two computations run on devices that differ only where a relation allows it. They are matched if both return
related values, or both end in the same way, and the devices they leave still differ only there.
-/

namespace OpxSdi.Lib

/-- Both have returned, with related values, or both have ended with the same error. -/
inductive Paired {ε α β : Type} (S : α → β → Prop) : Except ε α → Except ε β → Prop
  | ok {a : α} {b : β} (h : S a b) : Paired S (.ok a) (.ok b)
  | error (e : ε) : Paired S (.error e) (.error e)

theorem Paired.eq {ε α : Type} {r r' : Except ε α} (h : Paired Eq r r') : r = r' := by
  cases h with
  | ok h => rw [h]
  | error e => rfl

theorem Paired.mono {ε α β : Type} {S S' : α → β → Prop} {r : Except ε α} {r' : Except ε β} (h : Paired S r r')
    (hS : ∀ a b, S a b → S' a b) : Paired S' r r' := by
  cases h with
  | ok h => exact .ok (hS _ _ h)
  | error e => exact .error e

theorem Paired.refl {ε α : Type} (r : Except ε α) : Paired Eq r r := by
  cases r with
  | ok a => exact .ok rfl
  | error e => exact .error e

namespace Device

variable {L ε ω α α' β β' : Type}

/-- The devices are equal but for what `r` allows to differ. -/
structure Alike (r : ω → ω → Prop) (d e : Device L ε ω) : Prop where
  held_eq : e.held = d.held
  fault_eq : e.fault = d.fault
  time_eq : e.time = d.time
  hw : r d.hw e.hw

def Matched (r : ω → ω → Prop) (S : α → β → Prop) (x : M L ε ω α) (y : M L ε ω β) : Prop :=
  ∀ d e, Alike r d e → Paired S (x.out d).1 (y.out e).1 ∧ Alike r (x.out d).2 (y.out e).2

namespace Matched

variable {r : ω → ω → Prop} {S : α → β → Prop} {T : α' → β' → Prop} {x : M L ε ω α} {y : M L ε ω β}

theorem pure {a : α} {b : β} (h : S a b) : Matched r S (Pure.pure a : M L ε ω α) (Pure.pure b) :=
  fun _ _ hd => ⟨.ok h, hd⟩

theorem fail (e : ε) : Matched r S (Device.fail e : M L ε ω α) (Device.fail e) :=
  fun _ _ hd => ⟨.error _, hd⟩

theorem ofResult {s : Except ε α} {s' : Except ε β} (h : Paired S s s') :
    Matched r S (Device.ofResult s : M L ε ω α) (Device.ofResult s') := by
  cases h with
  | ok h => exact pure h
  | error e => exact fail e

theorem internal {f : ω → α × ω} {g : ω → β × ω} (h : ∀ c c', r c c' → S (f c).1 (g c').1 ∧ r (f c).2 (g c').2) :
    Matched r S (Device.internal f : M L ε ω α) (Device.internal g) := by
  intro d e hd
  obtain ⟨hS, hr⟩ := h d.hw e.hw hd.hw
  exact ⟨.ok hS, hd.held_eq, hd.fault_eq, hd.time_eq, hr⟩

theorem access {f : ω → α × ω} {g : ω → β × ω} (h : ∀ c c', r c c' → S (f c).1 (g c').1 ∧ r (f c).2 (g c').2) :
    Matched r S (Device.access f : M L ε ω α) (Device.access g) := by
  rintro ⟨_, _, _, c⟩ ⟨held, fault, time, c'⟩ ⟨rfl, rfl, rfl, hc⟩
  obtain ⟨hS, hr⟩ := h c c' hc
  simp only [Device.access, Acts.out, ExceptT.run, StateT.run]
  cases fault time with
  | some _ => exact ⟨.error _, rfl, rfl, rfl, hc⟩
  | none => exact ⟨.ok hS, rfl, rfl, rfl, hr⟩

theorem lock [DecidableEq L] (l : L) : Matched r Eq (Device.lock l : M L ε ω Unit) (Device.lock l) := by
  rintro ⟨_, _, _, c⟩ ⟨held, fault, time, c'⟩ ⟨rfl, rfl, rfl, hc⟩
  simp only [Device.lock, Acts.out, ExceptT.run, StateT.run]
  cases fault time with
  | some _ => exact ⟨.error _, rfl, rfl, rfl, hc⟩
  | none =>
      cases held l with
      | true => exact ⟨.error _, rfl, rfl, rfl, hc⟩
      | false => exact ⟨.ok rfl, rfl, rfl, rfl, hc⟩

theorem unlock [DecidableEq L] (l : L) : Matched r Eq (Device.unlock l : M L ε ω Unit) (Device.unlock l) := by
  rintro ⟨_, _, _, c⟩ ⟨held, fault, time, c'⟩ ⟨rfl, rfl, rfl, hc⟩
  exact ⟨.ok rfl, rfl, rfl, rfl, hc⟩

theorem bind {f : α → M L ε ω α'} {g : β → M L ε ω β'} (hx : Matched r S x y)
    (hf : ∀ a b, S a b → Matched r T (f a) (g b)) : Matched r T (x >>= f) (y >>= g) := by
  intro d e hd
  obtain ⟨hresult, hd'⟩ := hx d e hd
  rw [Acts.out_bind, Acts.out_bind]
  cases hxd : x.out d with
  | mk s d' =>
      cases hye : y.out e with
      | mk s' e' =>
          rw [hxd, hye] at hresult hd'
          cases hresult with
          | ok h => exact hf _ _ h d' e' hd'
          | error h => exact ⟨.error h, hd'⟩

theorem attempt (hx : Matched r S x y) : Matched r (Paired S) (Device.attempt x) (Device.attempt y) := by
  intro d e hd
  obtain ⟨hresult, hd'⟩ := hx d e hd
  simp only [Device.attempt, Acts.out, ExceptT.run, StateT.run] at hresult hd' ⊢
  generalize x d = out at hresult hd' ⊢
  generalize y e = out' at hresult hd' ⊢
  obtain ⟨s, d'⟩ := out
  obtain ⟨s', e'⟩ := out'
  cases hresult with
  | ok h => exact ⟨.ok (.ok h), hd'⟩
  | error halt =>
      cases halt with
      | error e => exact ⟨.ok (.error e), hd'⟩
      | blocked => exact ⟨.error _, hd'⟩
      | aborted => exact ⟨.error _, hd'⟩

theorem mono {S' : α → β → Prop} (hx : Matched r S x y) (h : ∀ a b, S a b → S' a b) : Matched r S' x y := by
  intro d e hd
  obtain ⟨hresult, hd'⟩ := hx d e hd
  exact ⟨hresult.mono h, hd'⟩

/-! ## Computations that return equal values -/

variable {x y : M L ε ω α}

theorem attempt_eq (hx : Matched r Eq x y) : Matched r Eq (Device.attempt x) (Device.attempt y) :=
  mono (attempt hx) fun _ _ h => h.eq

theorem bind_eq {f : α → M L ε ω α'} {g : α → M L ε ω β'} (hx : Matched r Eq x y)
    (hf : ∀ a, Matched r T (f a) (g a)) : Matched r T (x >>= f) (y >>= g) := by
  refine bind hx ?_
  rintro a _ rfl
  exact hf a

/-- What a computation returns does not depend on what `r` allows to differ. -/
theorem out_eq (hx : Matched r Eq x x) {d e : Device L ε ω} (hd : Alike r d e) :
    (x.out e).1 = (x.out d).1 := (hx d e hd).1.eq.symm

end Matched

end Device

end OpxSdi.Lib
