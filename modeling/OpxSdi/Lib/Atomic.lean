import OpxSdi.Lib.Results

/-!
# Computations that change all or nothing

A computation that makes a fixed number of operations on a device. If one of them fails, the computation ends with
an error, and the state and the locks are as they were.
-/

namespace OpxSdi.Lib

namespace Device

variable {L ε ω α β : Type}

/-- With these locks, the computation returns and does what `g` gives, or one of `n` operations fails and nothing
has changed. -/
def Atomic (held : L → Bool) (x : M L ε ω α) (n : Nat) (g : ω → α × ω) : Prop :=
  ∀ d : Device L ε ω, d.held = held →
    (d.Clear n ∧ Ok x d (g d.hw).1 (d.after n (g d.hw).2)) ∨
      (¬d.Clear n ∧ ∃ e d', Err x d e d' ∧ d'.held = held ∧ d'.hw = d.hw)

namespace Atomic

variable {held : L → Bool} {x : M L ε ω α} {n : Nat} {g : ω → α × ω}

theorem access (g : ω → α × ω) : Atomic held (Device.access g : M L ε ω α) 1 g := by
  intro d hd
  rw [clear_one]
  cases hfault : d.fault d.time with
  | none => exact .inl ⟨rfl, ok_access.mpr ⟨hfault, rfl, rfl⟩⟩
  | some e => exact .inr ⟨Option.some_ne_none e, e, _, err_access.mpr ⟨hfault, rfl⟩, hd, rfl⟩

/-- What follows cannot fail. -/
theorem andThen {f : α → M L ε ω β} {h : α → ω → β × ω} (hx : Atomic held x n g)
    (hf : ∀ a d, Ok (f a) d (h a d.hw).1 { d with hw := (h a d.hw).2 }) :
    Atomic held (x >>= f) n fun hw => h (g hw).1 (g hw).2 := by
  intro d hd
  rcases hx d hd with ⟨hclear, hok⟩ | ⟨hclear, e, d', herr, hsame⟩
  · exact .inl ⟨hclear, ok_bind.mpr ⟨_, _, hok, hf _ _⟩⟩
  · exact .inr ⟨hclear, e, d', err_bind.mpr (.inl herr), hsame⟩

theorem map (hx : Atomic held x n g) (f : α → β) :
    Atomic held (x >>= fun a => Pure.pure (f a)) n fun hw => (f (g hw).1, (g hw).2) :=
  hx.andThen (h := fun a hw => (f a, hw)) fun _ _ => ok_pure.mpr ⟨rfl, rfl⟩

/-- What comes before only reads. -/
theorem read {r : ω → α} {f : α → M L ε ω β} {h : α → ω → β × ω} (hf : ∀ a, Atomic held (f a) n (h a)) :
    Atomic held (Device.internal (fun hw => (r hw, hw)) >>= f) n fun hw => h (r hw) hw := by
  intro d hd
  have hread : Ok (Device.internal fun hw => (r hw, hw)) d (r d.hw) d := ok_internal.mpr ⟨rfl, rfl⟩
  rcases hf (r d.hw) d hd with ⟨hclear, hok⟩ | ⟨hclear, e, d', herr, hsame⟩
  · exact .inl ⟨hclear, ok_bind.mpr ⟨_, _, hread, hok⟩⟩
  · exact .inr ⟨hclear, e, d', err_bind.mpr (.inr ⟨_, _, hread, herr⟩), hsame⟩

/-- A lock around a computation makes one operation more. -/
theorem locked [DecidableEq L] {l : L} (hl : held l = false) (hx : Atomic (Function.update held l true) x n g) :
    Atomic held (do
      Device.lock l
      let r ← Device.attempt x
      Device.unlock l
      Device.ofResult r) (1 + n) g := by
  rintro d rfl
  rw [clear_locking l]
  cases hfault : d.fault d.time with
  | some e =>
      refine .inr ⟨fun h => Option.some_ne_none e h.1, e, _, (err_locked hl).mpr (.inl ⟨hfault, rfl⟩), rfl, rfl⟩
  | none =>
      rcases hx (d.locking l) rfl with ⟨hclear, hok⟩ | ⟨hclear, e, d2, herr, hheld, hhw⟩
      · exact .inl ⟨⟨rfl, hclear⟩, (ok_locked hl).mpr ⟨hfault, _, hok, (unlocking_after hl n _).symm⟩⟩
      · exact .inr ⟨fun h => hclear h.2, e, _, (err_locked hl).mpr (.inr ⟨hfault, d2, herr, rfl⟩),
          unlocking_held hl hheld, hhw⟩

/-- What holds of every result that is an error -/
theorem exists_iff (hx : Atomic held x n g) {d : Device L ε ω} (hd : d.held = held)
    {Q : Except ε α → Device L ε ω → Prop} (herr : ∀ e d', Q (.error e) d') :
    (∃ r d', x.out d = (outcome r, d') ∧ Q r d') ↔ (d.Clear n → Q (.ok (g d.hw).1) (d.after n (g d.hw).2)) := by
  constructor
  · rintro ⟨r, d', hout, hQ⟩ hclear
    rcases hx d hd with ⟨-, hok⟩ | ⟨hnot, -⟩
    · obtain ⟨hr, rfl⟩ := Prod.mk.inj (hout.symm.trans hok)
      obtain rfl : r = .ok _ := outcome_injective hr
      exact hQ
    · exact absurd hclear hnot
  · intro h
    rcases hx d hd with ⟨hclear, hok⟩ | ⟨-, e, d', herr', -⟩
    · exact ⟨.ok _, _, hok, h hclear⟩
    · exact ⟨.error e, d', herr', herr e d'⟩

end Atomic

end Device

end OpxSdi.Lib
