/-!
# Computations that act on a state and may stop

The state at a stop is the one the computation has reached, so what it did before is not undone.
-/

namespace OpxSdi.Lib

/-- Act on a state of type `σ`; return a value or stop with an error. -/
abbrev Acts (σ ε : Type) := ExceptT ε (StateM σ)

namespace Acts

variable {σ ε α β : Type}

def out (x : Acts σ ε α) (s : σ) : Except ε α × σ := x.run.run s

def act (f : σ → α × σ) : Acts σ ε α := fun s => ((.ok (f s).1), (f s).2)

def check (x : Except ε α) : Acts σ ε α := fun s => (x, s)

theorem out_act (f : σ → α × σ) (s : σ) : (act f : Acts σ ε α).out s = (.ok (f s).1, (f s).2) := rfl

theorem out_check (x : Except ε α) (s : σ) : (check x : Acts σ ε α).out s = (x, s) := rfl

theorem out_pure (a : α) (s : σ) : out (pure a : Acts σ ε α) s = (.ok a, s) := rfl

theorem out_bind (x : Acts σ ε α) (f : α → Acts σ ε β) (s : σ) :
    (x >>= f).out s = match x.out s with
      | (.ok a, s') => (f a).out s'
      | (.error e, s') => (.error e, s') := by
  simp only [out, ExceptT.run_bind, StateT.run_bind]
  obtain ⟨r, s'⟩ := x.run.run s
  cases r <;> rfl

theorem out_bind_ok {x : Acts σ ε α} {f : α → Acts σ ε β} {s s' : σ} {a : α} (h : x.out s = (.ok a, s')) :
    (x >>= f).out s = (f a).out s' := by
  rw [out_bind, h]

theorem out_bind_error {x : Acts σ ε α} {f : α → Acts σ ε β} {s s' : σ} {e : ε}
    (h : x.out s = (.error e, s')) : (x >>= f).out s = (.error e, s') := by
  rw [out_bind, h]

theorem out_bind_returns {x : Acts σ ε α} {f : α → Acts σ ε β} {s s' : σ} {b : β}
    (h : (x >>= f).out s = (.ok b, s')) : ∃ a t, x.out s = (.ok a, t) ∧ (f a).out t = (.ok b, s') := by
  rw [out_bind] at h
  split at h
  · rename_i a t hx
    exact ⟨a, t, hx, h⟩
  · cases h

/-- The computation does not stop. -/
def Returns (x : Acts σ ε α) (s : σ) : Prop := ∃ a s', x.out s = (.ok a, s')

theorem Returns.bind {x : Acts σ ε α} {f : α → Acts σ ε β} {s : σ} (h : x.Returns s)
    (hf : ∀ a s', x.out s = (.ok a, s') → (f a).Returns s') : (x >>= f).Returns s := by
  obtain ⟨a, s', hx⟩ := h
  obtain ⟨b, t, hb⟩ := hf a s' hx
  exact ⟨b, t, by rw [out_bind_ok hx, hb]⟩

theorem Returns.pure (a : α) (s : σ) : (Pure.pure a : Acts σ ε α).Returns s := ⟨a, s, rfl⟩

theorem Returns.act (f : σ → α × σ) (s : σ) : (Acts.act f : Acts σ ε α).Returns s := ⟨_, _, rfl⟩

theorem returns_bind_iff {x : Acts σ ε α} {f : α → Acts σ ε β} {s s' : σ} {a : α}
    (h : x.out s = (.ok a, s')) : (x >>= f).Returns s ↔ (f a).Returns s' := by
  simp only [Returns, out_bind_ok h]

/-- What always returns does not matter for whether the whole returns. -/
theorem returns_bind_of_returns {x : Acts σ ε α} {f : α → Acts σ ε β} {s : σ}
    (hf : ∀ a s', (f a).Returns s') : (x >>= f).Returns s ↔ x.Returns s := by
  refine ⟨fun ⟨b, s', h⟩ => ?_, fun h => h.bind fun a s' _ => hf a s'⟩
  obtain ⟨a, t, hx, -⟩ := out_bind_returns h
  exact ⟨a, t, hx⟩

theorem returns_check_iff {x : Except ε α} {s : σ} : (check x).Returns s ↔ ∃ a, x = .ok a :=
  ⟨fun ⟨a, _, h⟩ => ⟨a, (Prod.mk.inj h).1⟩, fun ⟨a, h⟩ => ⟨a, s, by rw [out_check, h]⟩⟩

theorem returns_check_bind_iff {x : Except ε α} {f : α → Acts σ ε β} {s : σ} :
    (check x >>= f).Returns s ↔ ∃ a, x = .ok a ∧ (f a).Returns s := by
  cases x with
  | error e =>
      refine ⟨fun ⟨b, s', h⟩ => ?_, fun ⟨a, h, _⟩ => (by cases h)⟩
      rw [out_bind_error (out_check (.error e) s)] at h
      cases h
  | ok a =>
      rw [returns_bind_iff (out_check (.ok a) s)]
      exact ⟨fun h => ⟨a, rfl, h⟩, fun ⟨b, h, hb⟩ => Except.ok.inj h ▸ hb⟩

/-! ## What a computation keeps -/

/-- `J` holds after the computation if it does before, whether it returns or stops. -/
def Keeps (J : σ → Prop) (x : Acts σ ε α) : Prop := ∀ s, J s → J (x.out s).2

namespace Keeps

variable {J : σ → Prop} {x : Acts σ ε α} {f : α → Acts σ ε β}

theorem pure (a : α) : Keeps J (Pure.pure a : Acts σ ε α) := fun _ h => h

theorem check (x : Except ε α) : Keeps J (Acts.check x) := fun _ h => h

theorem act {f : σ → α × σ} (h : ∀ s, J s → J (f s).2) : Keeps J (Acts.act f : Acts σ ε α) := h

theorem bind (hx : Keeps J x) (hf : ∀ a, Keeps J (f a)) : Keeps J (x >>= f) := by
  intro s h
  have hend := hx s h
  rw [out_bind]
  split
  next a s' hout =>
    rw [hout] at hend
    exact hf a s' hend
  next e s' hout =>
    rw [hout] at hend
    exact hend

end Keeps

end Acts

end OpxSdi.Lib
