import OpxSdi.Lib.RegBus

/-!
# Computations of a driver with machine numbers

A driver computes with 32-bit numbers between the transactions on its bus. A division by zero stops it. A
product that leaves the range wraps around and the computation goes on, which its outcome records.
-/

namespace OpxSdi.Lib

structure Rig (δ α ε : Type) where
  data : δ
  bus : RegBus α ε

/-- How a computation ends: its result, the state it has reached, and whether some product has wrapped. -/
structure Outcome (σ ε β : Type) where
  result : Except (Stop ε) β
  state : σ
  wraps : Bool

def Calc (δ α ε β : Type) := Rig δ α ε → Outcome (Rig δ α ε) ε β

namespace Calc

variable {δ α ε β γ : Type}

instance : Monad (Calc δ α ε) where
  pure b := fun s => ⟨.ok b, s, false⟩
  bind x f := fun s =>
    match (x s).result with
    | .error e => ⟨.error e, (x s).state, (x s).wraps⟩
    | .ok b => { f b (x s).state with wraps := (x s).wraps || (f b (x s).state).wraps }

def data : Calc δ α ε δ := fun s => ⟨.ok s.data, s, false⟩

def modifyData (f : δ → δ) : Calc δ α ε Unit := fun s => ⟨.ok (), { s with data := f s.data }, false⟩

def onBus (x : RegBus.M α ε β) : Calc δ α ε β := fun s =>
  ⟨(x.out s.bus).1, { s with bus := (x.out s.bus).2 }, false⟩

def fail (e : ε) : Calc δ α ε β := fun s => ⟨.error (.bus e), s, false⟩

/-- A bus error is a value of the computation and does not stop it. -/
def attempt (x : Calc δ α ε β) : Calc δ α ε (Except ε β) := fun s =>
  match (x s).result with
  | .ok b => ⟨.ok (.ok b), (x s).state, (x s).wraps⟩
  | .error (.bus e) => ⟨.ok (.error e), (x s).state, (x s).wraps⟩
  | .error .undefined => ⟨.error .undefined, (x s).state, (x s).wraps⟩

/-! ## Unsigned numbers -/

def mul (a b : BitVec 32) : Calc δ α ε (BitVec 32) :=
  fun s => ⟨.ok (a * b), s, decide (2 ^ 32 ≤ a.toNat * b.toNat)⟩

def div (a b : BitVec 32) : Calc δ α ε (BitVec 32) := fun s =>
  ⟨if b = 0 then .error .undefined else .ok (a / b), s, false⟩

/-! ## Signed numbers -/

def InInt (a : Int) : Prop := -2 ^ 31 ≤ a ∧ a < 2 ^ 31

instance (a : Int) : Decidable (InInt a) := inferInstanceAs (Decidable (_ ∧ _))

def mulInt (a b : Int) : Calc δ α ε Int := fun s => ⟨.ok ((a * b).bmod (2 ^ 32)), s, decide ¬InInt (a * b)⟩

def divInt (a b : Int) : Calc δ α ε Int := fun s =>
  ⟨if b = 0 then .error .undefined else .ok ((a.tdiv b).bmod (2 ^ 32)), s, decide ¬InInt (a.tdiv b)⟩

/-! ## Running a computation -/

theorem bind_ok {x : Calc δ α ε β} {f : β → Calc δ α ε γ} {s : Rig δ α ε} {b : β} (h : (x s).result = .ok b) :
    (x >>= f) s = { f b (x s).state with wraps := (x s).wraps || (f b (x s).state).wraps } := by
  change (match (x s).result with
    | .error e => _
    | .ok b => _) = _
  rw [h]

theorem bind_error {x : Calc δ α ε β} {f : β → Calc δ α ε γ} {s : Rig δ α ε} {e : Stop ε}
    (h : (x s).result = .error e) : (x >>= f) s = ⟨.error e, (x s).state, (x s).wraps⟩ := by
  change (match (x s).result with
    | .error e => _
    | .ok b => _) = _
  rw [h]

theorem data_bind (f : δ → Calc δ α ε γ) (s : Rig δ α ε) : (data >>= f) s = f s.data s := rfl

/-- What the computation ends with, if no product wraps. -/
def Yields (x : Calc δ α ε β) (s : Rig δ α ε) (r : Except (Stop ε) β) (s' : Rig δ α ε) : Prop :=
  x s = ⟨r, s', false⟩

theorem Yields.bind {x : Calc δ α ε β} {f : β → Calc δ α ε γ} {s s' t : Rig δ α ε} {b : β}
    {r : Except (Stop ε) γ} (hx : x.Yields s (.ok b) s') (hf : (f b).Yields s' r t) :
    (x >>= f).Yields s r t := by
  rw [Yields] at hx hf ⊢
  rw [bind_ok (by rw [hx]), hx]
  exact hf ▸ rfl

theorem Yields.stop {x : Calc δ α ε β} {f : β → Calc δ α ε γ} {s s' : Rig δ α ε} {e : Stop ε}
    (hx : x.Yields s (.error e) s') : (x >>= f).Yields s (.error e) s' := by
  rw [Yields] at hx ⊢
  rw [bind_error (by rw [hx]), hx]

theorem yields_data (s : Rig δ α ε) : (data : Calc δ α ε δ).Yields s (.ok s.data) s := rfl

theorem yields_mul {a b : BitVec 32} (h : a.toNat * b.toNat < 2 ^ 32) (s : Rig δ α ε) :
    (mul a b).Yields s (.ok (a * b)) s := by
  rw [Yields, mul, decide_eq_false (Nat.not_le.mpr h)]

theorem yields_div {a b : BitVec 32} (h : b ≠ 0) (s : Rig δ α ε) : (div a b).Yields s (.ok (a / b)) s := by
  rw [Yields, div, if_neg h]

theorem bmod_of_inInt {a : Int} (h : InInt a) : a.bmod (2 ^ 32) = a :=
  Int.bmod_eq_of_le (by have := h.1; omega) (by have := h.2; omega)

theorem yields_mulInt {a b n : Int} (h : a * b = n) (hn : InInt n) (s : Rig δ α ε) :
    (mulInt a b).Yields s (.ok n) s := by
  rw [Yields, mulInt, h, bmod_of_inInt hn, decide_eq_false (not_not_intro hn)]

theorem yields_divInt {a b n : Int} (hb : b ≠ 0) (h : a.tdiv b = n) (hn : InInt n) (s : Rig δ α ε) :
    (divInt a b).Yields s (.ok n) s := by
  rw [Yields, divInt, if_neg hb, h, bmod_of_inInt hn, decide_eq_false (not_not_intro hn)]

theorem yields_divInt_zero (a : Int) (s : Rig δ α ε) : (divInt a 0).Yields s (.error .undefined) s := by
  rw [Yields, divInt, if_pos rfl, Int.tdiv_zero]
  rfl

theorem yields_transact {g : (α → Byte) → β × (α → Byte)} {s : Rig δ α ε}
    (h : s.bus.fault s.bus.time = none) :
    (onBus (RegBus.transact g)).Yields s (.ok (g s.bus.regs).1)
      { s with bus := { s.bus with regs := (g s.bus.regs).2, time := s.bus.time + 1 } } := by
  rw [Yields, onBus, RegBus.transact_ok g h]

theorem yields_transact_fault (g : (α → Byte) → β × (α → Byte)) {s : Rig δ α ε} {e : ε}
    (h : s.bus.fault s.bus.time = some e) :
    (onBus (RegBus.transact g)).Yields s (.error (.bus e))
    { s with bus := { s.bus with time := s.bus.time + 1 } } := by
  rw [Yields, onBus, RegBus.transact_fault g h]

/-! ## Soundness -/

/-- No division is by zero and no product wraps. -/
def Sound (x : Calc δ α ε β) (s : Rig δ α ε) : Prop := (x s).result ≠ .error .undefined ∧ (x s).wraps = false

variable {f : β → Calc δ α ε γ} {s s' : Rig δ α ε}

theorem Yields.sound {x : Calc δ α ε β} {b : β} (h : x.Yields s (.ok b) s') : x.Sound s := by
  rw [Sound, h]
  exact ⟨nofun, rfl⟩

theorem Yields.sound_stop {x : Calc δ α ε β} {e : ε} (h : x.Yields s (.error (.bus e)) s') : x.Sound s := by
  rw [Sound, h]
  exact ⟨nofun, rfl⟩

theorem sound_bind_iff {x : Calc δ α ε β} :
    (x >>= f).Sound s ↔ x.Sound s ∧ ∀ b, (x s).result = .ok b → (f b).Sound (x s).state := by
  cases h : (x s).result with
  | error e =>
      rw [Sound, Sound, bind_error h, h]
      simp only [ne_eq, Except.error.injEq, reduceCtorEq, false_implies, implies_true, and_true]
  | ok b =>
      rw [Sound, Sound, bind_ok h, h]
      simp only [Bool.or_eq_false_iff, Except.ok.injEq, forall_eq', Sound, reduceCtorEq, ne_eq,
        not_false_eq_true, true_and]
      exact and_left_comm

theorem Sound.bind {x : Calc δ α ε β} (hx : x.Sound s) (hf : ∀ b t, (f b).Sound t) : (x >>= f).Sound s :=
  sound_bind_iff.mpr ⟨hx, fun b _ => hf b _⟩

theorem sound_bind_left {x : Calc δ α ε β} (h : ∀ b t, (f b).Sound t) : (x >>= f).Sound s ↔ x.Sound s := by
  rw [sound_bind_iff]
  exact and_iff_left fun b _ => h b _

theorem sound_pure (b : β) (s : Rig δ α ε) : (pure b : Calc δ α ε β).Sound s := ⟨nofun, rfl⟩

theorem sound_fail (e : ε) (s : Rig δ α ε) : (fail e : Calc δ α ε β).Sound s := ⟨nofun, rfl⟩

theorem Yields.sound_bind_iff {x : Calc δ α ε β} {b : β} (h : x.Yields s (.ok b) s') :
    (x >>= f).Sound s ↔ (f b).Sound s' := by
  rw [Calc.sound_bind_iff, h]
  simp only [h.sound, true_and, Except.ok.injEq, forall_eq']

theorem sound_mul_bind_iff {a b : BitVec 32} {f : BitVec 32 → Calc δ α ε γ} :
    (mul a b >>= f).Sound s ↔ a.toNat * b.toNat < 2 ^ 32 ∧ (f (a * b)).Sound s := by
  by_cases h : a.toNat * b.toNat < 2 ^ 32
  · rw [(yields_mul h s).sound_bind_iff, and_iff_right h]
  · rw [sound_bind_iff, Sound, mul, decide_eq_true (Nat.not_lt.mp h)]
    simp only [h, Bool.true_eq_false, and_false, false_and]

theorem sound_div_bind_iff {a b : BitVec 32} {f : BitVec 32 → Calc δ α ε γ} :
    (div a b >>= f).Sound s ↔ b ≠ 0 ∧ (f (a / b)).Sound s := by
  by_cases h : b = 0
  · rw [sound_bind_iff, Sound, div, if_pos h]
    simp only [h, ne_eq, not_true_eq_false, false_and]
  · rw [(yields_div h s).sound_bind_iff, and_iff_right h]

theorem sound_div_iff {a b : BitVec 32} : (div a b : Calc δ α ε _).Sound s ↔ b ≠ 0 := by
  by_cases h : b = 0
  · rw [Sound, div, if_pos h]
    simp only [h, ne_eq, not_true_eq_false, false_and]
  · exact iff_of_true (yields_div h s).sound h

theorem sound_mulInt_bind_iff {a b : Int} {f : Int → Calc δ α ε γ} :
    (mulInt a b >>= f).Sound s ↔ InInt (a * b) ∧ (f (a * b)).Sound s := by
  by_cases h : InInt (a * b)
  · rw [(yields_mulInt rfl h s).sound_bind_iff, and_iff_right h]
  · rw [sound_bind_iff, Sound, mulInt, decide_eq_true h]
    simp only [h, Bool.true_eq_false, and_false, false_and]

theorem sound_divInt_bind_iff {a b : Int} {f : Int → Calc δ α ε γ} :
    (divInt a b >>= f).Sound s ↔ b ≠ 0 ∧ InInt (a.tdiv b) ∧ (f (a.tdiv b)).Sound s := by
  by_cases hb : b = 0
  · rw [sound_bind_iff, Sound, divInt, if_pos hb]
    simp only [hb, ne_eq, not_true_eq_false, false_and]
  · by_cases h : InInt (a.tdiv b)
    · rw [(yields_divInt hb rfl h s).sound_bind_iff, and_iff_right hb, and_iff_right h]
    · rw [sound_bind_iff, Sound, divInt, decide_eq_true h]
      simp only [h, Bool.true_eq_false, and_false, false_and]

theorem sound_data_bind_iff {f : δ → Calc δ α ε γ} : (data >>= f).Sound s ↔ (f s.data).Sound s :=
  (yields_data s).sound_bind_iff

theorem sound_transact (g : (α → Byte) → β × (α → Byte)) (s : Rig δ α ε) :
    (onBus (RegBus.transact g)).Sound s := by
  cases h : s.bus.fault s.bus.time with
  | none => exact (yields_transact h).sound
  | some e => exact (yields_transact_fault g h).sound_stop

theorem sound_writeByte [DecidableEq α] (a : α) (v : Byte) (s : Rig δ α ε) :
    (onBus (RegBus.writeByte a v)).Sound s :=
  sound_transact _ s

theorem sound_transact_bind_iff {g : (α → Byte) → β × (α → Byte)} :
    (onBus (RegBus.transact g) >>= f).Sound s ↔ (s.bus.fault s.bus.time = none →
      (f (g s.bus.regs).1).Sound
        { s with bus := { s.bus with regs := (g s.bus.regs).2, time := s.bus.time + 1 } }) := by
  cases h : s.bus.fault s.bus.time with
  | none =>
      rw [(yields_transact h).sound_bind_iff]
      exact ⟨fun hs _ => hs, fun hs => hs rfl⟩
  | some e => exact iff_of_true (yields_transact_fault g h).stop.sound_stop nofun

/-! ## What a computation leaves of the data -/

def Preserves (P : δ → Prop) (x : Calc δ α ε β) : Prop := ∀ s, P s.data → P (x s).state.data

section Preserves

variable {P : δ → Prop} {x : Calc δ α ε β}

theorem Preserves.bind {f : β → Calc δ α ε γ} (hx : x.Preserves P) (hf : ∀ b, (f b).Preserves P) :
    (x >>= f).Preserves P := by
  intro s hs
  cases h : (x s).result with
  | error e =>
      rw [bind_error h]
      exact hx s hs
  | ok b =>
      rw [bind_ok h]
      exact hf b _ (hx s hs)

theorem Preserves.attempt (hx : x.Preserves P) : (attempt x).Preserves P := by
  intro s hs
  rw [Calc.attempt]
  split <;> exact hx s hs

theorem preserves_pure (b : β) : (pure b : Calc δ α ε β).Preserves P := fun _ => id

theorem preserves_fail (e : ε) : (fail e : Calc δ α ε β).Preserves P := fun _ => id

theorem preserves_data : (data : Calc δ α ε δ).Preserves P := fun _ => id

theorem preserves_modifyData {f : δ → δ} (h : ∀ d, P d → P (f d)) :
    (modifyData f : Calc δ α ε Unit).Preserves P :=
  fun s => h s.data

theorem preserves_onBus (x : RegBus.M α ε β) : (onBus x : Calc δ α ε β).Preserves P := fun _ => id

theorem preserves_mul (a b : BitVec 32) : (mul a b : Calc δ α ε _).Preserves P := fun _ => id

theorem preserves_div (a b : BitVec 32) : (div a b : Calc δ α ε _).Preserves P := fun _ => id

theorem preserves_mulInt (a b : Int) : (mulInt a b : Calc δ α ε _).Preserves P := fun _ => id

theorem preserves_divInt (a b : Int) : (divInt a b : Calc δ α ε _).Preserves P := fun _ => id

end Preserves

/-- The data after some calls. The bus at each of them is arbitrary. -/
inductive Reached {ι : Type} (start : δ → Prop) (calls : ι → Calc δ α ε Unit) : δ → Prop
  | start {d : δ} (h : start d) : Reached start calls d
  | call {d : δ} (c : ι) (bus : RegBus α ε) (h : Reached start calls d) :
      Reached start calls (calls c ⟨d, bus⟩).state.data

theorem Reached.inv {ι : Type} {start P : δ → Prop} {calls : ι → Calc δ α ε Unit}
    (hstart : ∀ d, start d → P d)
    (hcall : ∀ c, (calls c).Preserves P) {d : δ} (h : Reached start calls d) : P d := by
  induction h with
  | start h => exact hstart _ h
  | call c bus _ ih => exact hcall c ⟨_, bus⟩ ih

end Calc

end OpxSdi.Lib
