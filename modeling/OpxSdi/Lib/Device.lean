import Mathlib.Logic.Function.Basic
import OpxSdi.Lib.Acts

/-!
# Devices behind locks

A computation takes and gives back non-recursive locks and accesses a device. A schedule says which lock
operations and accesses fail; one that fails changes nothing. A lock that is already held is never given
back while the computation waits for it.
-/

namespace OpxSdi.Lib

/-- What ends a computation early: an error, the wait for a lock that is held, or an assertion that does
not hold. -/
inductive Halt (ε : Type)
  | error (e : ε)
  | blocked
  | aborted
  deriving DecidableEq, Repr

structure Device (L ε ω : Type) where
  held : L → Bool
  /-- The error of operation number `n`, if it fails. -/
  fault : Nat → Option ε
  time : Nat
  hw : ω

namespace Device

variable {L ε ω α β : Type}

abbrev M (L ε ω : Type) := Acts (Device L ε ω) (Halt ε)

def access (f : ω → α × ω) : M L ε ω α := fun d =>
  match d.fault d.time with
  | some e => (.error (.error e), { d with time := d.time + 1 })
  | none => (.ok (f d.hw).1, { d with hw := (f d.hw).2, time := d.time + 1 })

def lock [DecidableEq L] (l : L) : M L ε ω Unit := fun d =>
  match d.fault d.time with
  | some e => (.error (.error e), { d with time := d.time + 1 })
  | none =>
      if d.held l then (.error .blocked, d)
      else (.ok (), { d with held := Function.update d.held l true, time := d.time + 1 })

def unlock [DecidableEq L] (l : L) : M L ε ω Unit := fun d =>
  (.ok (), { d with held := Function.update d.held l false })

def fail (e : ε) : M L ε ω α := fun d => (.error (.error e), d)

/-- Act on the device without an operation that can fail. -/
def internal (f : ω → α × ω) : M L ε ω α := fun d => (.ok (f d.hw).1, { d with hw := (f d.hw).2 })

def assert (p : Prop) [Decidable p] : M L ε ω Unit := fun d =>
  if p then (.ok (), d) else (.error .aborted, d)

/-- The result of a computation as a value. A wait or a failed assertion has no result. -/
def attempt (x : M L ε ω α) : M L ε ω (Except ε α) := fun d =>
  match x.out d with
  | (.ok a, d') => (.ok (.ok a), d')
  | (.error (.error e), d') => (.ok (.error e), d')
  | (.error .blocked, d') => (.error .blocked, d')
  | (.error .aborted, d') => (.error .aborted, d')

def ofResult : Except ε α → M L ε ω α
  | .ok a => pure a
  | .error e => fail e

/-- No operation fails any more. -/
def Quiet (d : Device L ε ω) : Prop := ∀ t ≥ d.time, d.fault t = none

/-! ## Computations on a device that does not fail -/

/-- On a device that does not fail, the computation returns `a` and leaves these locks and this device. -/
def Gives (x : M L ε ω α) (held : L → Bool) (hw : ω) (a : α) (held' : L → Bool) (hw' : ω) : Prop :=
  ∀ d : Device L ε ω, d.Quiet → d.held = held → d.hw = hw →
    ∃ d', x.out d = (.ok a, d') ∧ d'.Quiet ∧ d'.held = held' ∧ d'.hw = hw'

namespace Gives

variable {x : M L ε ω α} {held held' held'' : L → Bool} {hw hw' hw'' : ω} {a : α}

theorem bind {f : α → M L ε ω β} {b : β} (hx : Gives x held hw a held' hw')
    (hf : Gives (f a) held' hw' b held'' hw'') : Gives (x >>= f) held hw b held'' hw'' := by
  intro d hd hheld hhw
  obtain ⟨d', hout, hd', hheld', hhw'⟩ := hx d hd hheld hhw
  obtain ⟨d'', hout', hend⟩ := hf d' hd' hheld' hhw'
  exact ⟨d'', by rw [Acts.out_bind_ok hout, hout'], hend⟩

theorem pure (a : α) : Gives (Pure.pure a : M L ε ω α) held hw a held hw :=
  fun d hd hheld hhw => ⟨d, rfl, hd, hheld, hhw⟩

theorem access (f : ω → α × ω) : Gives (Device.access f : M L ε ω α) held hw (f hw).1 held (f hw).2 := by
  rintro d hd rfl rfl
  refine ⟨{ d with hw := (f d.hw).2, time := d.time + 1 }, ?_, fun t ht => hd t (Nat.le_of_succ_le ht),
    rfl, rfl⟩
  simp only [Device.access, Acts.out, ExceptT.run, StateT.run, hd d.time (Nat.le_refl _)]

theorem lock [DecidableEq L] {l : L} (h : held l = false) :
    Gives (Device.lock l : M L ε ω Unit) held hw () (Function.update held l true) hw := by
  rintro d hd rfl rfl
  refine ⟨{ d with held := Function.update d.held l true, time := d.time + 1 }, ?_,
    fun t ht => hd t (Nat.le_of_succ_le ht), rfl, rfl⟩
  simp only [Device.lock, Acts.out, ExceptT.run, StateT.run, hd d.time (Nat.le_refl _), h,
    Bool.false_eq_true, ↓reduceIte]

theorem unlock [DecidableEq L] (l : L) :
    Gives (Device.unlock l : M L ε ω Unit) held hw () (Function.update held l false) hw := by
  rintro d hd rfl rfl
  exact ⟨_, rfl, hd, rfl, rfl⟩

theorem attempt (hx : Gives x held hw a held' hw') :
    Gives (Device.attempt x) held hw (.ok a) held' hw' := by
  intro d hd hheld hhw
  obtain ⟨d', hout, hend⟩ := hx d hd hheld hhw
  refine ⟨d', ?_, hend⟩
  simp only [Device.attempt, Acts.out, ExceptT.run, StateT.run] at hout ⊢
  rw [hout]

end Gives

/-! ## What a computation keeps whatever fails -/

/-- The result of a computation that neither waits nor aborts. -/
def outcome (r : Except ε α) : Except (Halt ε) α := r.mapError .error

theorem outcome_injective {r r' : Except ε α} (h : outcome r = outcome r') : r = r' := by
  cases r <;> cases r' <;> cases h <;> rfl

theorem out_ofResult (r : Except ε α) (d : Device L ε ω) : (ofResult r).out d = (outcome r, d) := by
  cases r <;> rfl

theorem out_access_ok {f : ω → α × ω} {d : Device L ε ω} (h : d.fault d.time = none) :
    (access f : M L ε ω α).out d = (.ok (f d.hw).1, { d with hw := (f d.hw).2, time := d.time + 1 }) := by
  simp only [access, Acts.out, ExceptT.run, StateT.run, h]

theorem out_access_error {f : ω → α × ω} {d : Device L ε ω} {e : ε} (h : d.fault d.time = some e) :
    (access f : M L ε ω α).out d = (.error (.error e), { d with time := d.time + 1 }) := by
  simp only [access, Acts.out, ExceptT.run, StateT.run, h]

theorem out_attempt {x : M L ε ω α} {d d' : Device L ε ω} {r : Except ε α} (h : x.out d = (outcome r, d')) :
    (attempt x).out d = (.ok r, d') := by
  simp only [Device.attempt, Acts.out, ExceptT.run, StateT.run] at h ⊢
  rw [h]
  cases r <;> rfl

theorem out_attempt_blocked {x : M L ε ω α} {d d' : Device L ε ω} (h : x.out d = (.error .blocked, d')) :
    (attempt x).out d = (.error .blocked, d') := by
  simp only [Device.attempt, Acts.out, ExceptT.run, StateT.run] at h ⊢
  rw [h]

theorem out_attempt_aborted {x : M L ε ω α} {d d' : Device L ε ω} (h : x.out d = (.error .aborted, d')) :
    (attempt x).out d = (.error .aborted, d') := by
  simp only [Device.attempt, Acts.out, ExceptT.run, StateT.run] at h ⊢
  rw [h]

/-- Whatever fails, the computation takes each device to one that `R` relates to it, with a result or an
error. -/
def Keeps (R : Device L ε ω → Device L ε ω → Prop) (x : M L ε ω α) : Prop :=
  ∀ d, ∃ r d', x.out d = (outcome r, d') ∧ R d d'

namespace Keeps

variable {R : Device L ε ω → Device L ε ω → Prop} {x : M L ε ω α}

theorem ofResult (hrefl : ∀ d, R d d) (r : Except ε α) : Keeps R (Device.ofResult r : M L ε ω α) :=
  fun d => ⟨r, d, out_ofResult r d, hrefl d⟩

theorem pure (hrefl : ∀ d, R d d) (a : α) : Keeps R (Pure.pure a : M L ε ω α) := ofResult hrefl (.ok a)

theorem fail (hrefl : ∀ d, R d d) (e : ε) : Keeps R (Device.fail e : M L ε ω α) := ofResult hrefl (.error e)

theorem internal (f : ω → α × ω) (hR : ∀ d : Device L ε ω, R d { d with hw := (f d.hw).2 }) :
    Keeps R (Device.internal f : M L ε ω α) :=
  fun d => ⟨.ok (f d.hw).1, _, rfl, hR d⟩

theorem access (f : ω → α × ω) (herr : ∀ d : Device L ε ω, R d { d with time := d.time + 1 })
    (hok : ∀ d : Device L ε ω, R d { d with hw := (f d.hw).2, time := d.time + 1 }) :
    Keeps R (Device.access f : M L ε ω α) := by
  intro d
  simp only [Device.access, Acts.out, ExceptT.run, StateT.run]
  cases d.fault d.time with
  | some e => exact ⟨.error e, _, rfl, herr d⟩
  | none => exact ⟨.ok (f d.hw).1, _, rfl, hok d⟩

theorem bind (htrans : ∀ d d' d'', R d d' → R d' d'' → R d d'') {f : α → M L ε ω β} (hx : Keeps R x)
    (hf : ∀ a, Keeps R (f a)) : Keeps R (x >>= f) := by
  intro d
  obtain ⟨r, d', hout, hR⟩ := hx d
  cases r with
  | error e => exact ⟨.error e, d', Acts.out_bind_error hout, hR⟩
  | ok a =>
      obtain ⟨r', d'', hout', hR'⟩ := hf a d'
      exact ⟨r', d'', (Acts.out_bind_ok hout).trans hout', htrans _ _ _ hR hR'⟩

theorem attempt (hx : Keeps R x) : Keeps R (Device.attempt x) := by
  intro d
  obtain ⟨r, d', hout, hR⟩ := hx d
  exact ⟨.ok r, d', out_attempt hout, hR⟩

end Keeps

/-! ## What a computation ends in whatever fails -/

/-- From this state of the device, the computation ends with a result or an error and a state that `Q`
allows. -/
def Ends (x : M L ε ω α) (hw : ω) (Q : Except ε α → ω → Prop) : Prop :=
  ∀ d : Device L ε ω, d.hw = hw → ∃ r d', x.out d = (outcome r, d') ∧ Q r d'.hw

namespace Ends

variable {x : M L ε ω α} {hw : ω} {Q R : Except ε α → ω → Prop}

theorem ofResult {r : Except ε α} (h : Q r hw) : Ends (Device.ofResult r : M L ε ω α) hw Q := by
  rintro d rfl
  exact ⟨r, d, out_ofResult r d, h⟩

theorem pure {a : α} (h : Q (.ok a) hw) : Ends (Pure.pure a : M L ε ω α) hw Q := ofResult h

theorem fail {e : ε} (h : Q (.error e) hw) : Ends (Device.fail e : M L ε ω α) hw Q := ofResult h

theorem internal {f : ω → α × ω} (h : Q (.ok (f hw).1) (f hw).2) :
    Ends (Device.internal f : M L ε ω α) hw Q := by
  rintro d rfl
  exact ⟨.ok (f d.hw).1, _, rfl, h⟩

theorem access {f : ω → α × ω} (herr : ∀ e, Q (.error e) hw) (hok : Q (.ok (f hw).1) (f hw).2) :
    Ends (Device.access f : M L ε ω α) hw Q := by
  rintro d rfl
  simp only [Device.access, Acts.out, ExceptT.run, StateT.run]
  cases d.fault d.time with
  | some e => exact ⟨.error e, _, rfl, herr e⟩
  | none => exact ⟨.ok (f d.hw).1, _, rfl, hok⟩

theorem mono (hx : Ends x hw Q) (h : ∀ r hw', Q r hw' → R r hw') : Ends x hw R := by
  intro d hd
  obtain ⟨r, d', hout, hQ⟩ := hx d hd
  exact ⟨r, d', hout, h r d'.hw hQ⟩

theorem bind {f : α → M L ε ω β} {S : Except ε β → ω → Prop} (hx : Ends x hw Q)
    (herr : ∀ e hw', Q (.error e) hw' → S (.error e) hw')
    (hok : ∀ a hw', Q (.ok a) hw' → Ends (f a) hw' S) : Ends (x >>= f) hw S := by
  intro d hd
  obtain ⟨r, d', hout, hQ⟩ := hx d hd
  cases r with
  | error e => exact ⟨.error e, d', Acts.out_bind_error hout, herr e d'.hw hQ⟩
  | ok a =>
      obtain ⟨r', d'', hout', hS⟩ := hok a d'.hw hQ d' rfl
      exact ⟨r', d'', (Acts.out_bind_ok hout).trans hout', hS⟩

theorem attempt {S : Except ε (Except ε α) → ω → Prop} (hx : Ends x hw fun r => S (.ok r)) :
    Ends (Device.attempt x) hw S := by
  intro d hd
  obtain ⟨r, d', hout, hS⟩ := hx d hd
  exact ⟨.ok r, d', out_attempt hout, hS⟩

theorem of_out {d d' : Device L ε ω} {r : Except ε α} (hx : Ends x d.hw Q) (hout : x.out d = (outcome r, d')) :
    Q r d'.hw := by
  obtain ⟨s, d'', hout', hQ⟩ := hx d rfl
  obtain ⟨hr, rfl⟩ := Prod.mk.inj (hout.symm.trans hout')
  cases r <;> cases s <;> cases hr <;> exact hQ

end Ends

/-! ## What a computation returns when nothing fails -/

/-- From this state of a device that does not fail, the computation returns a value and leaves a state that
`Q` allows. -/
def Works (x : M L ε ω α) (hw : ω) (Q : α → ω → Prop) : Prop :=
  ∀ d : Device L ε ω, d.Quiet → d.hw = hw → ∃ a d', x.out d = (.ok a, d') ∧ d'.Quiet ∧ Q a d'.hw

namespace Works

variable {x : M L ε ω α} {hw : ω} {Q R : α → ω → Prop}

theorem pure {a : α} (h : Q a hw) : Works (Pure.pure a : M L ε ω α) hw Q := by
  rintro d hd rfl
  exact ⟨a, d, rfl, hd, h⟩

theorem internal {f : ω → α × ω} (h : Q (f hw).1 (f hw).2) : Works (Device.internal f : M L ε ω α) hw Q := by
  rintro d hd rfl
  exact ⟨_, _, rfl, hd, h⟩

theorem access {f : ω → α × ω} (h : Q (f hw).1 (f hw).2) : Works (Device.access f : M L ε ω α) hw Q := by
  rintro d hd rfl
  refine ⟨(f d.hw).1, { d with hw := (f d.hw).2, time := d.time + 1 }, ?_,
    fun t ht => hd t (Nat.le_of_succ_le ht), h⟩
  simp only [Device.access, Acts.out, ExceptT.run, StateT.run, hd d.time (Nat.le_refl _)]

theorem mono (hx : Works x hw Q) (h : ∀ a hw', Q a hw' → R a hw') : Works x hw R := by
  intro d hd hhw
  obtain ⟨a, d', hout, hd', hQ⟩ := hx d hd hhw
  exact ⟨a, d', hout, hd', h a d'.hw hQ⟩

theorem bind {f : α → M L ε ω β} {S : β → ω → Prop} (hx : Works x hw Q)
    (hf : ∀ a hw', Q a hw' → Works (f a) hw' S) : Works (x >>= f) hw S := by
  intro d hd hhw
  obtain ⟨a, d', hout, hd', hQ⟩ := hx d hd hhw
  obtain ⟨b, d'', hout', hd'', hS⟩ := hf a d'.hw hQ d' hd' rfl
  exact ⟨b, d'', (Acts.out_bind_ok hout).trans hout', hd'', hS⟩

theorem attempt {S : Except ε α → ω → Prop} (hx : Works x hw fun a => S (.ok a)) :
    Works (Device.attempt x) hw S := by
  intro d hd hhw
  obtain ⟨a, d', hout, hd', hS⟩ := hx d hd hhw
  exact ⟨.ok a, d', out_attempt (r := .ok a) hout, hd', hS⟩

end Works

end Device

end OpxSdi.Lib
