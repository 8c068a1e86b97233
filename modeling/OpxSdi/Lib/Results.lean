import OpxSdi.Lib.Takes

/-!
# Results as conditions

That a computation on a device returns a value, or ends with an error, is a condition on the device it
starts on. The rules give the condition of a computation from those of its parts.
-/

namespace OpxSdi.Lib

namespace Device

variable {L ε ω α β : Type}

/-- On `d`, the computation returns `a` and leaves `d'`. -/
def Ok (x : M L ε ω α) (d : Device L ε ω) (a : α) (d' : Device L ε ω) : Prop := x.out d = (.ok a, d')

/-- On `d`, the computation ends with the error `e` and leaves `d'`. -/
def Err (x : M L ε ω α) (d : Device L ε ω) (e : ε) (d' : Device L ε ω) : Prop :=
  x.out d = (.error (.error e), d')

variable {x : M L ε ω α} {f : α → M L ε ω β} {d d' d'' : Device L ε ω} {a a' : α} {b : β} {e : ε}

theorem Ok.unique (h : Ok x d a d') (h' : Ok x d a' d'') : a = a' ∧ d' = d'' := by
  have heq := h.symm.trans h'
  exact ⟨Except.ok.inj (Prod.mk.inj heq).1, (Prod.mk.inj heq).2⟩

theorem Err.unique {e' : ε} (h : Err x d e d') (h' : Err x d e' d'') : e = e' ∧ d' = d'' := by
  cases h.symm.trans h'
  exact ⟨rfl, rfl⟩

theorem Err.not_ok (h : Err x d e d') : ¬Ok x d a d'' := fun hok => by cases h.symm.trans hok

/-! ## Values -/

theorem ok_pure : Ok (pure a' : M L ε ω α) d a d' ↔ a = a' ∧ d' = d := by
  rw [Ok, Acts.out_pure]
  constructor
  · intro h
    cases h
    exact ⟨rfl, rfl⟩
  · rintro ⟨rfl, rfl⟩
    rfl

theorem err_pure : ¬Err (pure a' : M L ε ω α) d e d' := fun h => nomatch h

theorem ok_fail {e : ε} : ¬Ok (fail e : M L ε ω α) d a d' := fun h => nomatch h

theorem err_fail {e' : ε} : Err (fail e' : M L ε ω α) d e d' ↔ e = e' ∧ d' = d := by
  constructor
  · intro h
    cases h
    exact ⟨rfl, rfl⟩
  · rintro ⟨rfl, rfl⟩
    rfl

theorem ok_ofResult {r : Except ε α} : Ok (ofResult r : M L ε ω α) d a d' ↔ r = .ok a ∧ d' = d := by
  cases r with
  | ok a' => exact ok_pure.trans (and_congr_left fun _ => ⟨fun h => h ▸ rfl, fun h => (Except.ok.inj h).symm⟩)
  | error e => exact iff_of_false ok_fail fun h => nomatch h.1

/-! ## Operations -/

theorem ok_internal {g : ω → α × ω} :
    Ok (internal g : M L ε ω α) d a d' ↔ a = (g d.hw).1 ∧ d' = { d with hw := (g d.hw).2 } := by
  constructor
  · intro h
    cases h
    exact ⟨rfl, rfl⟩
  · rintro ⟨rfl, rfl⟩
    rfl

theorem err_internal {g : ω → α × ω} : ¬Err (internal g : M L ε ω α) d e d' := fun h => nomatch h

theorem ok_access {g : ω → α × ω} : Ok (access g : M L ε ω α) d a d' ↔
    d.fault d.time = none ∧ a = (g d.hw).1 ∧ d' = { d with hw := (g d.hw).2, time := d.time + 1 } := by
  simp only [Ok, access, Acts.out, ExceptT.run, StateT.run]
  cases d.fault d.time with
  | none =>
      constructor
      · intro h
        cases h
        exact ⟨rfl, rfl, rfl⟩
      · rintro ⟨-, rfl, rfl⟩
        rfl
  | some e => simp only [Prod.mk.injEq, reduceCtorEq, false_and]

theorem err_access {g : ω → α × ω} :
    Err (access g : M L ε ω α) d e d' ↔ d.fault d.time = some e ∧ d' = { d with time := d.time + 1 } := by
  simp only [Err, access, Acts.out, ExceptT.run, StateT.run]
  cases d.fault d.time with
  | none => simp only [Prod.mk.injEq, reduceCtorEq, false_and]
  | some e' =>
      constructor
      · intro h
        cases h
        exact ⟨rfl, rfl⟩
      · rintro ⟨he, rfl⟩
        cases he
        rfl

theorem ok_unlock [DecidableEq L] {l : L} {u : Unit} : Ok (unlock l : M L ε ω Unit) d u d' ↔
    d' = { d with held := Function.update d.held l false } := by
  constructor
  · intro h
    cases h
    rfl
  · rintro rfl
    rfl

theorem ok_lock [DecidableEq L] {l : L} {u : Unit} : Ok (lock l : M L ε ω Unit) d u d' ↔
    d.fault d.time = none ∧ d.held l = false ∧
      d' = { d with held := Function.update d.held l true, time := d.time + 1 } := by
  simp only [Ok, lock, Acts.out, ExceptT.run, StateT.run]
  cases d.fault d.time with
  | some e => simp only [Prod.mk.injEq, reduceCtorEq, false_and]
  | none =>
      cases d.held l with
      | true => simp only [↓reduceIte, Prod.mk.injEq, reduceCtorEq, false_and, and_false]
      | false =>
          constructor
          · intro h
            cases h
            exact ⟨rfl, rfl, rfl⟩
          · rintro ⟨-, -, rfl⟩
            rfl

theorem err_lock [DecidableEq L] {l : L} : Err (lock l : M L ε ω Unit) d e d' ↔
    d.fault d.time = some e ∧ d' = { d with time := d.time + 1 } := by
  simp only [Err, lock, Acts.out, ExceptT.run, StateT.run]
  cases d.fault d.time with
  | some e' =>
      constructor
      · intro h
        cases h
        exact ⟨rfl, rfl⟩
      · rintro ⟨he, rfl⟩
        cases he
        rfl
  | none =>
      cases d.held l with
      | true => simp only [↓reduceIte, Prod.mk.injEq, Except.error.injEq, reduceCtorEq, false_and]
      | false => simp only [Bool.false_eq_true, ↓reduceIte, Prod.mk.injEq, reduceCtorEq, false_and]

theorem ok_assert {p : Prop} [Decidable p] (h : p) : Ok (assert p : M L ε ω Unit) d () d := by
  simp only [Ok, assert, Acts.out, ExceptT.run, StateT.run, h, ↓reduceIte]

/-! ## Sequences -/

theorem ok_bind : Ok (x >>= f) d b d'' ↔ ∃ a d', Ok x d a d' ∧ Ok (f a) d' b d'' :=
  ⟨Acts.out_bind_returns, fun ⟨_, _, hx, hf⟩ => (Acts.out_bind_ok hx).trans hf⟩

theorem err_bind : Err (x >>= f) d e d'' ↔ Err x d e d'' ∨ ∃ a d', Ok x d a d' ∧ Err (f a) d' e d'' := by
  constructor
  · intro h
    rw [Err, Acts.out_bind] at h
    split at h
    · rename_i a d' hx
      exact .inr ⟨a, d', hx, h⟩
    · rename_i e' d' hx
      cases h
      exact .inl hx
  · rintro (hx | ⟨a, d', hx, hf⟩)
    · exact Acts.out_bind_error hx
    · exact (Acts.out_bind_ok hx).trans hf

/-- The result of a computation as a value: it has returned or it has ended with an error. -/
theorem ok_attempt {r : Except ε α} :
    Ok (attempt x) d r d' ↔ (∃ a, r = .ok a ∧ Ok x d a d') ∨ ∃ e, r = .error e ∧ Err x d e d' := by
  constructor
  · intro h
    simp only [Ok, attempt, Acts.out, ExceptT.run, StateT.run] at h
    split at h <;> cases h
    · exact .inl ⟨_, rfl, ‹_›⟩
    · exact .inr ⟨_, rfl, ‹_›⟩
  · rintro (⟨a, rfl, h⟩ | ⟨e, rfl, h⟩)
    · exact out_attempt (r := .ok a) h
    · exact out_attempt (r := .error e) h

theorem err_attempt : ¬Err (attempt x) d e d' := by
  intro h
  simp only [Err, attempt, Acts.out, ExceptT.run, StateT.run] at h
  split at h <;> cases h

theorem ok_attempt_bind {g : Except ε α → M L ε ω β} : Ok (attempt x >>= g) d b d'' ↔
    (∃ a d', Ok x d a d' ∧ Ok (g (.ok a)) d' b d'') ∨ ∃ e d', Err x d e d' ∧ Ok (g (.error e)) d' b d'' := by
  rw [ok_bind]
  constructor
  · rintro ⟨r, d', hr, hg⟩
    rcases ok_attempt.mp hr with ⟨a, rfl, hx⟩ | ⟨e, rfl, hx⟩
    · exact .inl ⟨a, d', hx, hg⟩
    · exact .inr ⟨e, d', hx, hg⟩
  · rintro (⟨a, d', hx, hg⟩ | ⟨e, d', hx, hg⟩)
    · exact ⟨.ok a, d', ok_attempt.mpr (.inl ⟨a, rfl, hx⟩), hg⟩
    · exact ⟨.error e, d', ok_attempt.mpr (.inr ⟨e, rfl, hx⟩), hg⟩

theorem err_attempt_bind {g : Except ε α → M L ε ω β} : Err (attempt x >>= g) d e d'' ↔
    (∃ a d', Ok x d a d' ∧ Err (g (.ok a)) d' e d'') ∨ ∃ e' d', Err x d e' d' ∧
    Err (g (.error e')) d' e d'' := by
  rw [err_bind, or_iff_right err_attempt]
  constructor
  · rintro ⟨r, d', hr, hg⟩
    rcases ok_attempt.mp hr with ⟨a, rfl, hx⟩ | ⟨e, rfl, hx⟩
    · exact .inl ⟨a, d', hx, hg⟩
    · exact .inr ⟨e, d', hx, hg⟩
  · rintro (⟨a, d', hx, hg⟩ | ⟨e, d', hx, hg⟩)
    · exact ⟨.ok a, d', ok_attempt.mpr (.inl ⟨a, rfl, hx⟩), hg⟩
    · exact ⟨.error e, d', ok_attempt.mpr (.inr ⟨e, rfl, hx⟩), hg⟩

theorem not_ok_then_fail {y : M L ε ω α} : ¬Ok (y >>= fun _ => (fail e : M L ε ω β)) d b d' := by
  rw [ok_bind]
  rintro ⟨a, d1, -, hfail⟩
  exact ok_fail hfail

/-- An error that is handled and handed on is no result. -/
theorem ok_attempt_or_fail {g : Except ε α → M L ε ω β} (hg : ∀ e d' d'', ¬Ok (g (.error e)) d' b d'') :
    Ok (attempt x >>= g) d b d'' ↔ ∃ a d', Ok x d a d' ∧ Ok (g (.ok a)) d' b d'' := by
  rw [ok_attempt_bind, or_iff_left]
  rintro ⟨e, d', -, h⟩
  exact hg e d' d'' h

/-! ## Locks around computations -/

section

variable [DecidableEq L] {l : L}

/-- The device once its lock has been taken -/
def locking (d : Device L ε ω) (l : L) : Device L ε ω :=
  { d with held := Function.update d.held l true, time := d.time + 1 }

def unlocking (d : Device L ε ω) (l : L) : Device L ε ω := { d with held := Function.update d.held l false }

/-- A lock that was free is free again. -/
theorem unlocking_held (hl : d.held l = false) (h : d'.held = (d.locking l).held) : (d'.unlocking l).held = d.held := by
  rw [unlocking, h, locking, Function.update_idem, ← hl, Function.update_eq_self]

theorem unlocking_after (hl : d.held l = false) (n : Nat) (hw : ω) :
    ((d.locking l).after n hw).unlocking l = d.after (1 + n) hw := by
  rw [← after_after d 1 n d.hw]
  exact congrArg (Device.mk · d.fault (d.time + 1 + n) hw) (unlocking_held hl (rfl : (d.locking l).held = _))

theorem clear_locking (l : L) {n : Nat} :
    d.Clear (1 + n) ↔ d.fault d.time = none ∧ (d.locking l).Clear n := by
  rw [@clear_add _ _ _ d 1 n d.hw, clear_one]
  exact Iff.rfl

theorem ok_locked (hl : d.held l = false) :
    Ok (do
      lock l
      let r ← attempt x
      unlock l
      ofResult r) d a d' ↔ d.fault d.time = none ∧ ∃ d2, Ok x (d.locking l) a d2 ∧ d' = d2.unlocking l := by
  rw [ok_bind]
  constructor
  · rintro ⟨u, d1, hlock, h⟩
    obtain ⟨hfault, -, rfl⟩ := ok_lock.mp hlock
    refine ⟨hfault, ?_⟩
    rcases ok_attempt_bind.mp h with ⟨a', d2, hx, h⟩ | ⟨e, d2, hx, h⟩
    · obtain ⟨v, d3, hunlock, h⟩ := ok_bind.mp h
      obtain ⟨hr, rfl⟩ := ok_ofResult.mp h
      cases Except.ok.inj hr
      exact ⟨d2, hx, ok_unlock.mp hunlock⟩
    · exact absurd h not_ok_then_fail
  · rintro ⟨hfault, d2, hx, rfl⟩
    refine ⟨(), d.locking l, ok_lock.mpr ⟨hfault, hl, rfl⟩, ok_attempt_bind.mpr (.inl ⟨a, d2, hx, ?_⟩)⟩
    exact ok_bind.mpr ⟨(), _, ok_unlock.mpr rfl, ok_ofResult.mpr ⟨rfl, rfl⟩⟩

/-- The computation fails under the lock, or the lock cannot be taken. -/
theorem err_locked (hl : d.held l = false) :
    Err (do
      lock l
      let r ← attempt x
      unlock l
      ofResult r) d e d' ↔ d.fault d.time = some e ∧ d' = { d with time := d.time + 1 } ∨
        d.fault d.time = none ∧ ∃ d2, Err x (d.locking l) e d2 ∧ d' = d2.unlocking l := by
  rw [err_bind, err_lock]
  refine or_congr_right ⟨?_, ?_⟩
  · rintro ⟨u, d1, hlock, h⟩
    obtain ⟨hfault, -, rfl⟩ := ok_lock.mp hlock
    refine ⟨hfault, ?_⟩
    rcases err_attempt_bind.mp h with ⟨a, d2, hx, h⟩ | ⟨e', d2, hx, h⟩
    · rcases err_bind.mp h with h | ⟨u, d3, -, h⟩
      · cases h
      · exact absurd h err_pure
    · rcases err_bind.mp h with h | ⟨u, d3, hunlock, h⟩
      · cases h
      · obtain ⟨rfl, rfl⟩ := err_fail.mp h
        exact ⟨d2, hx, ok_unlock.mp hunlock⟩
  · rintro ⟨hfault, d2, hx, rfl⟩
    refine ⟨(), d.locking l, ok_lock.mpr ⟨hfault, hl, rfl⟩, err_attempt_bind.mpr (.inr ⟨e, d2, hx, ?_⟩)⟩
    exact err_bind.mpr (.inr ⟨(), _, ok_unlock.mpr rfl, err_fail.mpr ⟨rfl, rfl⟩⟩)

/-- A lock around a computation makes one operation more. -/
theorem Takes.locked {φ : Type} {held : L → Bool} {n : Nat} {g : StateT ω (Except φ) α} (hl : held l = false)
    (hx : Takes (Function.update held l true) x n g) :
    Takes held (do
      Device.lock l
      let r ← Device.attempt x
      Device.unlock l
      Device.ofResult r) (1 + n) g := by
  rintro d rfl a d'
  refine (ok_locked hl).trans ?_
  rw [clear_locking l, and_assoc]
  refine and_congr_right fun _ => ⟨?_, ?_⟩
  · rintro ⟨d2, hok, rfl⟩
    obtain ⟨hn, hg, hd2⟩ := (hx (d.locking l) rfl a d2).mp hok
    refine ⟨hn, hg, ?_⟩
    rw [hd2, unlocking_after hl]
    rfl
  · rintro ⟨hn, hg, hd'⟩
    refine ⟨(d.locking l).after n d'.hw, (hx (d.locking l) rfl a _).mpr ⟨hn, hg, rfl⟩, ?_⟩
    rw [unlocking_after hl]
    exact hd'

end

/-! ## Answers -/

/-- On `d`, the computation returns `a`. -/
def Answers (x : M L ε ω α) (d : Device L ε ω) (a : α) : Prop := ∃ d', Ok x d a d'

theorem answers_pure : Answers (pure a' : M L ε ω α) d a ↔ a = a' := by
  simp only [Answers, ok_pure, exists_and_left, exists_eq, and_true]

theorem answers_ofResult {r : Except ε α} : Answers (ofResult r : M L ε ω α) d a ↔ r = .ok a := by
  simp only [Answers, ok_ofResult, exists_and_left, exists_eq, and_true]

theorem answers_fail : ¬Answers (fail e : M L ε ω α) d a := fun ⟨_, h⟩ => ok_fail h

theorem answers_bind : Answers (x >>= f) d b ↔ ∃ a d', Ok x d a d' ∧ Answers (f a) d' b := by
  simp only [Answers, ok_bind]
  constructor
  · rintro ⟨d'', a, d', hx, hf⟩
    exact ⟨a, d', hx, d'', hf⟩
  · rintro ⟨a, d', hx, d'', hf⟩
    exact ⟨d'', a, d', hx, hf⟩

theorem answers_bind_pure {g : α → β} :
    Answers (x >>= fun a => pure (g a)) d b ↔ ∃ a, Answers x d a ∧ b = g a := by
  rw [answers_bind]
  constructor
  · rintro ⟨a, d', hx, hb⟩
    exact ⟨a, ⟨d', hx⟩, answers_pure.mp hb⟩
  · rintro ⟨a, ⟨d', hx⟩, rfl⟩
    exact ⟨a, d', hx, answers_pure.mpr rfl⟩

/-- A read or an update of the device that cannot fail. -/
theorem answers_internal_bind {g : ω → α × ω} : Answers (internal g >>= f) d b ↔
    Answers (f (g d.hw).1) { d with hw := (g d.hw).2 } b := by
  rw [answers_bind]
  simp only [ok_internal, and_assoc, exists_and_left, exists_eq_left]

theorem ok_assert_iff {p : Prop} [Decidable p] {u : Unit} :
    Ok (assert p : M L ε ω Unit) d u d' ↔ p ∧ d' = d := by
  by_cases h : p
  · constructor
    · intro hok
      exact ⟨h, (hok.unique (ok_assert h)).2⟩
    · rintro ⟨-, rfl⟩
      exact ok_assert h
  · refine iff_of_false (fun hok => ?_) fun hp => h hp.1
    simp only [Ok, assert, Acts.out, ExceptT.run, StateT.run, h, ↓reduceIte, Prod.mk.injEq, reduceCtorEq,
      false_and] at hok

theorem answers_assert_bind_iff {p : Prop} [Decidable p] {f : Unit → M L ε ω β} :
    Answers (assert p >>= f) d b ↔ p ∧ Answers (f ()) d b := by
  rw [answers_bind]
  constructor
  · rintro ⟨u, d', hok, hf⟩
    obtain ⟨hp, rfl⟩ := ok_assert_iff.mp hok
    exact ⟨hp, hf⟩
  · rintro ⟨hp, hf⟩
    exact ⟨(), d, ok_assert_iff.mpr ⟨hp, rfl⟩, hf⟩

theorem answers_assert_bind {p : Prop} [Decidable p] (h : p) {f : Unit → M L ε ω β} :
    Answers (assert p >>= f) d b ↔ Answers (f ()) d b :=
  answers_assert_bind_iff.trans (and_iff_right h)

theorem answers_attempt_bind {g : Except ε α → M L ε ω β} : Answers (attempt x >>= g) d b ↔
    (∃ a d', Ok x d a d' ∧ Answers (g (.ok a)) d' b) ∨ ∃ e d', Err x d e d' ∧
    Answers (g (.error e)) d' b := by
  rw [answers_bind]
  constructor
  · rintro ⟨r, d', hr, hg⟩
    rcases ok_attempt.mp hr with ⟨a, rfl, hx⟩ | ⟨e, rfl, hx⟩
    · exact .inl ⟨a, d', hx, hg⟩
    · exact .inr ⟨e, d', hx, hg⟩
  · rintro (⟨a, d', hx, hg⟩ | ⟨e, d', hx, hg⟩)
    · exact ⟨.ok a, d', ok_attempt.mpr (.inl ⟨a, rfl, hx⟩), hg⟩
    · exact ⟨.error e, d', ok_attempt.mpr (.inr ⟨e, rfl, hx⟩), hg⟩

/-- A computation that waits for nothing returns or ends with an error. -/
theorem Keeps.ok_or_err {R : Device L ε ω → Device L ε ω → Prop} (hx : Keeps R x) (d : Device L ε ω) :
    (∃ a d', Ok x d a d') ∨ ∃ e d', Err x d e d' := by
  obtain ⟨r, d', hout, -⟩ := hx d
  cases r with
  | ok a => exact .inl ⟨a, d', hout⟩
  | error e => exact .inr ⟨e, d', hout⟩

/-! ## Runs of operations -/

theorem Clear.mono {m n : Nat} (h : d.Clear n) (hm : m ≤ n) : d.Clear m :=
  fun t ht => h t (Nat.lt_of_lt_of_le ht hm)

/-- Operation `k` is the first of the next ones that fails. -/
def FailsAt (d : Device L ε ω) (k : Nat) (e : ε) : Prop := d.Clear k ∧ d.fault (d.time + k) = some e

theorem failsAt_zero : d.FailsAt 0 e ↔ d.fault d.time = some e := and_iff_right d.clear_zero

theorem failsAt_succ {k : Nat} {hw : ω} : d.FailsAt (k + 1) e ↔ d.Clear 1 ∧ (d.after 1 hw).FailsAt k e := by
  rw [FailsAt, Nat.add_comm k, @clear_add _ _ _ d 1 k hw, and_assoc, ← Nat.add_assoc]
  rfl

theorem clear_or_failsAt (d : Device L ε ω) (n : Nat) : d.Clear n ∨ ∃ k < n, ∃ e, d.FailsAt k e := by
  induction n with
  | zero => exact .inl d.clear_zero
  | succ n ih =>
      rcases ih with hclear | ⟨k, hk, e, h⟩
      · cases hfault : d.fault (d.time + n) with
        | some e => exact .inr ⟨n, Nat.lt_succ_self n, e, hclear, hfault⟩
        | none =>
            refine .inl fun t ht => ?_
            rcases Nat.lt_succ_iff_lt_or_eq.mp ht with hlt | rfl
            · exact hclear t hlt
            · exact hfault
      · exact .inr ⟨k, Nat.lt_succ_of_lt hk, e, h⟩

/-- How many of `n` operations are made, where the first that fails is the last one. -/
def made (fault : Nat → Option ε) : (t n : Nat) → Nat
  | _, 0 => 0
  | t, n + 1 => match fault t with
    | none => made fault (t + 1) n + 1
    | some _ => 1

theorem Clear.made_eq {n : Nat} (h : d.Clear n) : made d.fault d.time n = n := by
  induction n generalizing d with
  | zero => rfl
  | succ n ih =>
      rw [Nat.add_comm, @clear_add _ _ _ d 1 n d.hw, clear_one] at h
      rw [made, h.1]
      exact congrArg (· + 1) (ih h.2)

theorem FailsAt.made_eq {n k : Nat} (h : d.FailsAt k e) (hk : k < n) : made d.fault d.time n = k + 1 := by
  induction n generalizing d k with
  | zero => exact absurd hk (Nat.not_lt_zero k)
  | succ n ih =>
      cases k with
      | zero =>
          have hfault := failsAt_zero.mp h
          simp only [made, hfault]
      | succ k =>
          obtain ⟨hclear, hrest⟩ := (@failsAt_succ _ _ _ d _ k d.hw).mp h
          rw [made, clear_one.mp hclear]
          exact congrArg (· + 1) (ih hrest (Nat.lt_of_succ_lt_succ hk))

/-- None of the next `n` operations fails but operation `k`. -/
def ClearBut (d : Device L ε ω) (n k : Nat) : Prop := ∀ t < n, t ≠ k → d.fault (d.time + t) = none

theorem clear_iff_clearBut {n k : Nat} (h : k < n) :
    d.Clear n ↔ d.ClearBut n k ∧ d.fault (d.time + k) = none := by
  constructor
  · intro hclear
    exact ⟨fun t ht _ => hclear t ht, hclear k h⟩
  · rintro ⟨hbut, hfault⟩ t ht
    by_cases htk : t = k
    · rw [htk, hfault]
    · exact hbut t ht htk

theorem clearBut_iff {n k : Nat} {hw : ω} :
    d.ClearBut (k + 1 + n) k ↔ d.Clear k ∧ (d.after (k + 1) hw).Clear n := by
  constructor
  · intro h
    refine ⟨fun t ht => h t (by omega) (by omega), fun t ht => ?_⟩
    have := h (k + 1 + t) (by omega) (by omega)
    rwa [← Nat.add_assoc] at this
  · rintro ⟨hk, hn⟩ t ht htk
    by_cases hlt : t < k
    · exact hk t hlt
    · have := hn (t - (k + 1)) (by omega)
      rwa [after_time, Nat.add_assoc, Nat.add_sub_cancel' (by omega)] at this

theorem clearBut_add {m n k : Nat} {hw : ω} :
    d.ClearBut (m + n) (m + k) ↔ d.Clear m ∧ (d.after m hw).ClearBut n k := by
  constructor
  · intro h
    refine ⟨fun t ht => h t (by omega) (by omega), fun t ht htk => ?_⟩
    have := h (m + t) (by omega) (by omega)
    rwa [← Nat.add_assoc] at this
  · rintro ⟨hm, hn⟩ t ht htk
    by_cases htm : t < m
    · exact hm t htm
    · have := hn (t - m) (by omega) (by omega)
      rwa [after_time, Nat.add_assoc, Nat.add_sub_cancel' (Nat.le_of_not_lt htm)] at this

/-! ## Computations with one result

From states that a condition allows, a computation returns iff none of a fixed number of operations fails,
with a result that does not depend on the state.
-/

/-- From a state that `P` allows, the computation makes `n` operations, returns `a` and leaves a state that
`Q` allows, with the same locks. -/
def Yields (held : L → Bool) (P : ω → Prop) (x : M L ε ω α) (n : Nat) (a : α) (Q : ω → Prop) : Prop :=
  ∀ d : Device L ε ω, d.held = held → P d.hw →
    ∃ hw, Q hw ∧ ∀ a' d', Ok x d a' d' ↔ d.Clear n ∧ a' = a ∧ d' = d.after n hw

namespace Yields

variable {held : L → Bool} {P Q R : ω → Prop} {x : M L ε ω α} {f : α → M L ε ω β} {m n : Nat} {a : α} {b : β}

theorem pure (a : α) : Yields held P (Pure.pure a : M L ε ω α) 0 a P := by
  intro d _ hP
  refine ⟨d.hw, hP, fun a' d' => ?_⟩
  rw [ok_pure, after_zero]
  exact (and_iff_right d.clear_zero).symm

theorem access {g : ω → α × ω} (h : ∀ hw, P hw → (g hw).1 = a ∧ Q (g hw).2) :
    Yields held P (Device.access g : M L ε ω α) 1 a Q := by
  intro d _ hP
  obtain ⟨rfl, hQ⟩ := h d.hw hP
  refine ⟨(g d.hw).2, hQ, fun a' d' => ?_⟩
  rw [ok_access, clear_one]
  rfl

theorem bind (hx : Yields held P x m a Q) (hf : Yields held Q (f a) n b R) :
    Yields held P (x >>= f) (m + n) b R := by
  intro d hd hP
  obtain ⟨hw, hQ, hx⟩ := hx d hd hP
  obtain ⟨hw', hR, hf⟩ := hf (d.after m hw) hd hQ
  refine ⟨hw', hR, fun b' d' => ?_⟩
  rw [ok_bind, @clear_add _ _ _ d m n hw]
  constructor
  · rintro ⟨a', d1, hok, hok'⟩
    obtain ⟨hm, rfl, rfl⟩ := (hx a' d1).mp hok
    obtain ⟨hn, rfl, rfl⟩ := (hf b' d').mp hok'
    exact ⟨⟨hm, hn⟩, rfl, after_after ..⟩
  · rintro ⟨⟨hm, hn⟩, rfl, rfl⟩
    exact ⟨a, d.after m hw, (hx _ _).mpr ⟨hm, rfl, rfl⟩, (hf _ _).mpr ⟨hn, rfl, (after_after ..).symm⟩⟩

theorem of_eq (hx : Yields held P x m a Q) (h : m = n) : Yields held P x n a Q := h ▸ hx

/-- A lock around a computation makes one operation more. -/
theorem locked [DecidableEq L] {l : L} (hl : held l = false)
    (hx : Yields (Function.update held l true) P x n a Q) :
    Yields held P (do
      Device.lock l
      let r ← Device.attempt x
      Device.unlock l
      Device.ofResult r) (1 + n) a Q := by
  rintro d rfl hP
  obtain ⟨hw, hQ, hx⟩ := hx (d.locking l) rfl hP
  refine ⟨hw, hQ, fun a' d' => (ok_locked hl).trans ?_⟩
  simp only [hx, clear_locking l, and_assoc, exists_and_left, exists_eq_left, unlocking_after hl]

/-- The result of a computation that returns. -/
theorem eq_of_ok {d d' : Device L ε ω} {a' : α} (hx : Yields held P x n a Q) (hd : d.held = held)
    (hP : P d.hw) (h : Ok x d a' d') : a' = a := by
  obtain ⟨hw, -, hx⟩ := hx d hd hP
  exact ((hx a' d').mp h).2.1

theorem ok_of_quiet {d : Device L ε ω} (hx : Yields held P x n a Q) (hd : d.held = held) (hP : P d.hw)
    (hquiet : d.Quiet) : ∃ d', Ok x d a d' := by
  obtain ⟨hw, -, hx⟩ := hx d hd hP
  exact ⟨d.after n hw, (hx _ _).mpr ⟨fun t _ => hquiet _ (Nat.le_add_right ..), rfl, rfl⟩⟩

end Yields

end Device

end OpxSdi.Lib
