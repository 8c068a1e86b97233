import Mathlib.Logic.Function.Basic
import OpxSdi.Lib.Run

/-!
# Calls under a lock

A call takes one lock, uses registers in operations that may fail, and gives the lock back. The calls of several
threads interleave at their operations. If the lock of each call guards the registers it uses, every interleaving
does what a serial run of its calls does.
-/

namespace OpxSdi.Lib

inductive Access (Op : Type) (Resp : Op → Type) (ε α : Type)
  | ret (a : α)
  | io (op : Op) (k : Except ε (Resp op) → Access Op Resp ε α)

/-- Operations on one register each: the register, the response, and the register after it. -/
structure Registers (Op : Type) (Resp : Op → Type) (R V : Type) where
  loc : Op → R
  exec : (op : Op) → V → Resp op × V

structure LockedCall (L Op : Type) (Resp : Op → Type) (ε α : Type) where
  lock : L
  body : Access Op Resp ε α
  /-- What the call returns if the lock cannot be taken. -/
  refused : ε → α

variable {T C L Op R V ε α β : Type} {Resp : Op → Type}

namespace Access

def bind : Access Op Resp ε α → (α → Access Op Resp ε β) → Access Op Resp ε β
  | ret a, f => f a
  | io op k, f => io op fun r => (k r).bind f

instance : Monad (Access Op Resp ε) where
  pure := ret
  bind := bind

/-- An operation whose failure ends the body. -/
def call (op : Op) : ExceptT ε (Access Op Resp ε) (Resp op) := ExceptT.mk (io op ret)

/-- All operations of the body meet `P`, whatever the device answers. -/
def Uses (P : Op → Prop) : Access Op Resp ε α → Prop
  | ret _ => True
  | io op k => P op ∧ ∀ r, (k r).Uses P

section

variable [DecidableEq R] (regs : Registers Op Resp R V)

/-- One operation, which fails with `fault`. A body that is over stays as it is. -/
def step (s : Access Op Resp ε α × (R → V)) (fault : Option ε) : Access Op Resp ε α × (R → V) :=
  match s.1, fault with
  | ret _, _ => s
  | io _ k, some e => (k (.error e), s.2)
  | io op k, none =>
      let r := regs.exec op (s.2 (regs.loc op))
      (k (.ok r.1), Function.update s.2 (regs.loc op) r.2)

/-- For some failures of its operations, the body returns `a` and leaves `d'`. -/
def Does (p : Access Op Resp ε α) (d : R → V) (a : α) (d' : R → V) : Prop :=
  ∃ faults, run (step regs) (p, d) faults = (ret a, d')

variable {regs} {p q : Access Op Resp ε α} {d d' e e' : R → V} {a b : α} {P : Op → Prop} {Q : R → Prop}
  {fault : Option ε}

theorem run_ret (faults : List (Option ε)) : run (step regs) (ret a, d) faults = (ret a, d) := by
  induction faults with
  | nil => rfl
  | cons fault faults ih => exact ih

theorem does_ret : (ret a : Access Op Resp ε α).Does regs d b d' ↔ b = a ∧ d' = d := by
  constructor
  · rintro ⟨faults, h⟩
    rw [run_ret] at h
    cases h
    exact ⟨rfl, rfl⟩
  · rintro ⟨rfl, rfl⟩
    exact ⟨[], rfl⟩

theorem does_io {op : Op} {k : Except ε (Resp op) → Access Op Resp ε α} :
    (io op k).Does regs d a d' ↔ (∃ err, (k (.error err)).Does regs d a d') ∨
      (k (.ok (regs.exec op (d (regs.loc op))).1)).Does regs
        (Function.update d (regs.loc op) (regs.exec op (d (regs.loc op))).2) a d' := by
  constructor
  · rintro ⟨faults, h⟩
    cases faults with
    | nil => cases h
    | cons fault faults =>
        cases fault with
        | some err => exact .inl ⟨err, faults, h⟩
        | none => exact .inr ⟨faults, h⟩
  · rintro (⟨err, faults, h⟩ | ⟨faults, h⟩)
    · exact ⟨some err :: faults, h⟩
    · exact ⟨none :: faults, h⟩

theorem does_bind {x : Access Op Resp ε α} {f : α → Access Op Resp ε β} {b : β} :
    (x.bind f).Does regs d b d' ↔ ∃ a e, x.Does regs d a e ∧ (f a).Does regs e b d' := by
  induction x generalizing d with
  | ret a =>
      simp only [bind, does_ret]
      constructor
      · exact fun h => ⟨a, d, ⟨rfl, rfl⟩, h⟩
      · rintro ⟨_, _, ⟨rfl, rfl⟩, h⟩
        exact h
  | io op k ih =>
      simp only [bind, does_io, ih]
      constructor
      · rintro (⟨err, a, e, hk, hf⟩ | ⟨a, e, hk, hf⟩)
        · exact ⟨a, e, .inl ⟨err, hk⟩, hf⟩
        · exact ⟨a, e, .inr hk, hf⟩
      · rintro ⟨a, e, ⟨err, hk⟩ | hk, hf⟩
        · exact .inl ⟨err, a, e, hk, hf⟩
        · exact .inr ⟨a, e, hk, hf⟩

theorem does_call {op : Op} {r : Except ε (Resp op)} :
    (call op : ExceptT ε (Access Op Resp ε) (Resp op)).run.Does regs d r d' ↔ (∃ e, r = .error e ∧ d' = d) ∨
      r = .ok (regs.exec op (d (regs.loc op))).1 ∧
        d' = Function.update d (regs.loc op) (regs.exec op (d (regs.loc op))).2 := by
  simp only [call, ExceptT.run_mk, does_io, does_ret]

/-- The rest of a body is done only after a part that has not failed. -/
theorem does_bind_run {x : ExceptT ε (Access Op Resp ε) α} {f : α → ExceptT ε (Access Op Resp ε) β}
    {r : Except ε β} : (x >>= f).run.Does regs d r d' ↔ (∃ e, r = .error e ∧ x.run.Does regs d (.error e) d') ∨
      ∃ a e, x.run.Does regs d (.ok a) e ∧ (f a).run.Does regs e r d' := by
  refine does_bind.trans ?_
  constructor
  · rintro ⟨a, e, hx, hf⟩
    cases a with
    | error err =>
        obtain ⟨rfl, rfl⟩ := does_ret.mp hf
        exact .inl ⟨err, rfl, hx⟩
    | ok a => exact .inr ⟨a, e, hx, hf⟩
  · rintro (⟨err, rfl, hx⟩ | ⟨a, e, hx, hf⟩)
    · exact ⟨.error err, d', hx, does_ret.mpr ⟨rfl, rfl⟩⟩
    · exact ⟨.ok a, e, hx, hf⟩

/-! ## The registers that a body uses -/

theorem Uses.imp {P' : Op → Prop} (h : p.Uses P) (himp : ∀ op, P op → P' op) : p.Uses P' := by
  induction p with
  | ret a => trivial
  | io op k ih => exact ⟨himp op h.1, fun r => ih r (h.2 r)⟩

theorem Uses.step (h : p.Uses P) (fault : Option ε) : (Access.step regs (p, d) fault).1.Uses P := by
  cases p with
  | ret a => trivial
  | io op k => cases fault with
    | some err => exact h.2 _
    | none => exact h.2 _

theorem Uses.runs (h : p.Uses P) (faults : List (Option ε)) : (run (Access.step regs) (p, d) faults).1.Uses P := by
  induction faults generalizing p d with
  | nil => exact h
  | cons fault faults ih => exact ih (h.step fault)

/-- A body leaves the registers that it does not use. -/
theorem Uses.frame (h : p.Uses fun op => Q (regs.loc op)) {r : R} (hr : ¬Q r) (faults : List (Option ε)) :
    (run (Access.step regs) (p, d) faults).2 r = d r := by
  induction faults generalizing p d with
  | nil => rfl
  | cons fault faults ih =>
      refine (ih (h.step fault)).trans ?_
      cases p with
      | ret a => rfl
      | io op k =>
          cases fault with
          | some err => rfl
          | none => exact Function.update_of_ne (fun heq : r = regs.loc op => hr (heq ▸ h.1)) _ _

/-- What a body does depends on the registers that it uses only. -/
theorem Uses.congr_step (h : p.Uses fun op => Q (regs.loc op)) (hd : ∀ r, Q r → d r = e r)
    (fault : Option ε) :
    (Access.step regs (p, d) fault).1 = (Access.step regs (p, e) fault).1 ∧
      ∀ r, Q r → (Access.step regs (p, d) fault).2 r = (Access.step regs (p, e) fault).2 r := by
  cases p with
  | ret a => exact ⟨rfl, hd⟩
  | io op k =>
      cases fault with
      | some err => exact ⟨rfl, hd⟩
      | none =>
          simp only [Access.step, hd _ h.1]
          refine ⟨trivial, fun r hr => ?_⟩
          by_cases heq : r = regs.loc op
          · subst heq
            simp only [Function.update_self]
          · simp only [Function.update_of_ne heq, hd r hr]

theorem Uses.congr (h : p.Uses fun op => Q (regs.loc op)) (hd : ∀ r, Q r → d r = e r)
    {faults : List (Option ε)} (hrun : run (Access.step regs) (p, d) faults = (q, d')) :
    ∃ e', run (Access.step regs) (p, e) faults = (q, e') ∧ ∀ r, Q r → d' r = e' r := by
  induction faults generalizing p d e with
  | nil =>
      cases hrun
      exact ⟨e, rfl, hd⟩
  | cons fault faults ih =>
      obtain ⟨hprog, hregs⟩ := h.congr_step hd fault
      obtain ⟨e', hrun', hreg⟩ := ih (h.step fault) hregs hrun
      refine ⟨e', ?_, hreg⟩
      rw [run_cons, ← hrun', hprog]

end

end Access

/-! ## Threads -/

inductive CallStage (C Op : Type) (Resp : Op → Type) (ε α : Type)
  | idle
  | waiting (c : C)
  | inside (c : C) (p : Access Op Resp ε α)

/-- A thread begins a call, or goes on with the one it is in. -/
inductive CallEvent (T C ε : Type)
  | call (t : T) (c : C)
  | go (t : T) (fault : Option ε)
  deriving DecidableEq, Repr

structure LockedSystem (T C L R V Op : Type) (Resp : Op → Type) (ε α : Type) where
  owner : L → Option T
  regs : R → V
  stage : T → CallStage C Op Resp ε α
  /-- The calls that have returned, in their order. -/
  returned : List (C × α)

namespace LockedSystem

def start (d : R → V) : LockedSystem T C L R V Op Resp ε α := ⟨fun _ => none, d, fun _ => .idle, []⟩

variable (registers : Registers Op Resp R V) (calls : C → LockedCall L Op Resp ε α)

/-- What the calls do one after another, whatever fails. -/
inductive Serial [DecidableEq R] (d : R → V) : List (C × α) → (R → V) → Prop
  | nil : Serial d [] d
  | refused {h d'} (c : C) (e : ε) : Serial d h d' → Serial d (h ++ [(c, (calls c).refused e)]) d'
  | done {h d' d'' c a} : Serial d h d' → (calls c).body.Does registers d' a d'' → Serial d (h ++ [(c, a)]) d''

section

variable [DecidableEq T] [DecidableEq L] [DecidableEq R]

def goOn (s : LockedSystem T C L R V Op Resp ε α) (t : T) (fault : Option ε) :
    LockedSystem T C L R V Op Resp ε α :=
  match s.stage t, fault with
  | .idle, _ => s
  | .waiting c, some e =>
      { s with stage := Function.update s.stage t .idle, returned := s.returned ++ [(c, (calls c).refused e)] }
  | .waiting c, none =>
      match s.owner (calls c).lock with
      | some _ => s
      | none =>
          { s with owner := Function.update s.owner (calls c).lock (some t)
                   stage := Function.update s.stage t (.inside c (calls c).body) }
  | .inside c (.ret a), _ =>
      { s with owner := Function.update s.owner (calls c).lock none
               stage := Function.update s.stage t .idle
               returned := s.returned ++ [(c, a)] }
  | .inside c p, fault =>
      let r := Access.step registers (p, s.regs) fault
      { s with regs := r.2, stage := Function.update s.stage t (.inside c r.1) }

def step (s : LockedSystem T C L R V Op Resp ε α) : CallEvent T C ε → LockedSystem T C L R V Op Resp ε α
  | .call t c =>
      match s.stage t with
      | .idle => { s with stage := Function.update s.stage t (.waiting c) }
      | _ => s
  | .go t fault => s.goOn registers calls t fault

/-! ## Locks that guard the registers -/

/-- Each call uses only registers that its lock guards. -/
def Guards (guard : R → L) : Prop :=
  ∀ c, (calls c).body.Uses fun op => guard (registers.loc op) = (calls c).lock

/-- The system has done the calls that have returned one after another, which has left `d'`, and a call that has
not returned has gone on from there alone. -/
structure Consistent (guard : R → L) (d : R → V) (s : LockedSystem T C L R V Op Resp ε α) (d' : R → V) :
    Prop where
  serial : Serial registers calls d s.returned d'
  free : ∀ r, s.owner (guard r) = none → s.regs r = d' r
  owns : ∀ t c p, s.stage t = .inside c p → s.owner (calls c).lock = some t
  inside : ∀ t c p, s.stage t = .inside c p → ∃ faults e,
    run (Access.step registers) ((calls c).body, d') faults = (p, e) ∧
      ∀ r, guard r = (calls c).lock → s.regs r = e r
  owned : ∀ l t, s.owner l = some t → ∃ c p, s.stage t = .inside c p ∧ (calls c).lock = l

variable {registers calls} {guard : R → L} {d d' : R → V} {s : LockedSystem T C L R V Op Resp ε α} {t : T} {c : C}

namespace Consistent

omit [DecidableEq T] [DecidableEq L] in
theorem start (d : R → V) :
    Consistent registers calls guard d (LockedSystem.start (T := T) d) d where
  serial := .nil
  free _ _ := rfl
  owns _ _ _ h := by cases h
  inside _ _ _ h := by cases h
  owned _ _ h := by cases h

omit [DecidableEq L] in
/-- A thread that holds no lock changes to a stage without one. -/
theorem outside (h : Consistent registers calls guard d s d') {stage : CallStage C Op Resp ε α}
    {returned : List (C × α)} (hold : ∀ c p, s.stage t ≠ .inside c p) (hnew : ∀ c p, stage ≠ .inside c p)
    (hserial : Serial registers calls d returned d') :
    Consistent registers calls guard d
      { s with stage := Function.update s.stage t stage, returned := returned } d' := by
  have hother : ∀ {u c p}, Function.update s.stage t stage u = .inside c p → s.stage u = .inside c p := by
    intro u c p hu
    by_cases hut : u = t
    · subst hut
      rw [Function.update_self] at hu
      exact absurd hu (hnew c p)
    · rwa [Function.update_of_ne hut] at hu
  refine ⟨hserial, h.free, fun u c p hu => h.owns u c p (hother hu), fun u c p hu => h.inside u c p (hother hu),
    fun l u hu => ?_⟩
  obtain ⟨c, p, hstage, hl⟩ := h.owned l u hu
  have hut : u ≠ t := by
    rintro rfl
    exact hold c p hstage
  exact ⟨c, p, by simpa only [Function.update_of_ne hut] using hstage, hl⟩

theorem acquire (h : Consistent registers calls guard d s d') (hstage : s.stage t = .waiting c)
    (hfree : s.owner (calls c).lock = none) :
    Consistent registers calls guard d
      { s with owner := Function.update s.owner (calls c).lock (some t)
               stage := Function.update s.stage t (.inside c (calls c).body) } d' := by
  refine ⟨h.serial, fun r hr => ?_, fun u c' p hu => ?_, fun u c' p hu => ?_, fun l u hu => ?_⟩
  · by_cases hl : guard r = (calls c).lock
    · simp only [hl, Function.update_self, reduceCtorEq] at hr
    · simp only [Function.update_of_ne hl] at hr
      exact h.free r hr
  · by_cases hut : u = t
    · subst hut
      simp only [Function.update_self, CallStage.inside.injEq] at hu ⊢
      rw [← hu.1, Function.update_self]
    · simp only [Function.update_of_ne hut] at hu
      have howner := h.owns u c' p hu
      have hne : (calls c').lock ≠ (calls c).lock := fun heq => by
        rw [heq, hfree] at howner
        cases howner
      simpa only [Function.update_of_ne hne] using howner
  · by_cases hut : u = t
    · subst hut
      simp only [Function.update_self, CallStage.inside.injEq] at hu
      obtain ⟨rfl, rfl⟩ := hu
      exact ⟨[], d', rfl, fun r hr => h.free r (hr ▸ hfree)⟩
    · simp only [Function.update_of_ne hut] at hu
      exact h.inside u c' p hu
  · by_cases hl : l = (calls c).lock
    · subst hl
      simp only [Function.update_self, Option.some.injEq] at hu
      subst hu
      exact ⟨c, _, Function.update_self .., rfl⟩
    · simp only [Function.update_of_ne hl] at hu
      obtain ⟨c', p, hu', hl'⟩ := h.owned l u hu
      have hut : u ≠ t := by
        rintro rfl
        rw [hstage] at hu'
        cases hu'
      exact ⟨c', p, by simpa only [Function.update_of_ne hut] using hu', hl'⟩

theorem release (hg : Guards registers calls guard) (h : Consistent registers calls guard d s d') {a : α}
    (hstage : s.stage t = .inside c (.ret a)) :
    ∃ e, Consistent registers calls guard d
      { s with owner := Function.update s.owner (calls c).lock none
               stage := Function.update s.stage t .idle
               returned := s.returned ++ [(c, a)] } e := by
  obtain ⟨faults, e, hrun, hreg⟩ := h.inside t c _ hstage
  -- The call has changed no register of another lock.
  have hframe : ∀ r, guard r ≠ (calls c).lock → e r = d' r := fun r hr => by
    have := (hg c).frame (Q := fun r => guard r = (calls c).lock) (d := d') hr faults
    rwa [hrun] at this
  have howner := h.owns t c _ hstage
  have hother : ∀ {u c' p}, Function.update s.stage t .idle u = .inside c' p →
      s.stage u = .inside c' p ∧ (calls c').lock ≠ (calls c).lock := by
    intro u c' p hu
    have hut : u ≠ t := by
      rintro rfl
      rw [Function.update_self] at hu
      cases hu
    rw [Function.update_of_ne hut] at hu
    refine ⟨hu, fun heq => hut ?_⟩
    have := h.owns u c' p hu
    rw [heq, howner] at this
    exact (Option.some.inj this).symm
  refine ⟨e, .done h.serial ⟨faults, hrun⟩, fun r hr => ?_, fun u c' p hu => ?_, fun u c' p hu => ?_,
    fun l u hu => ?_⟩
  · by_cases hl : guard r = (calls c).lock
    · exact hreg r hl
    · simp only [Function.update_of_ne hl] at hr
      rw [hframe r hl]
      exact h.free r hr
  · obtain ⟨hu', hne⟩ := hother hu
    simpa only [Function.update_of_ne hne] using h.owns u c' p hu'
  · obtain ⟨hu', hne⟩ := hother hu
    obtain ⟨faults', f, hrun', hreg'⟩ := h.inside u c' p hu'
    obtain ⟨f', hrun'', hreg''⟩ := (hg c').congr (Q := fun r => guard r = (calls c').lock) (e := e)
      (fun r hr => (hframe r (hr ▸ hne)).symm) hrun'
    exact ⟨faults', f', hrun'', fun r hr => (hreg' r hr).trans (hreg'' r hr)⟩
  · by_cases hl : l = (calls c).lock
    · simp only [hl, Function.update_self, reduceCtorEq] at hu
    · simp only [Function.update_of_ne hl] at hu
      obtain ⟨c', p, hu', hl'⟩ := h.owned l u hu
      have hut : u ≠ t := by
        rintro rfl
        rw [hstage] at hu'
        cases hu'
        exact hl hl'.symm
      exact ⟨c', p, by simpa only [Function.update_of_ne hut] using hu', hl'⟩

omit [DecidableEq L] in
theorem access (hg : Guards registers calls guard) (h : Consistent registers calls guard d s d')
    {p : Access Op Resp ε α} (hstage : s.stage t = .inside c p) (fault : Option ε) :
    Consistent registers calls guard d
      { s with regs := (Access.step registers (p, s.regs) fault).2
               stage := Function.update s.stage t (.inside c (Access.step registers (p, s.regs) fault).1) }
      d' := by
  obtain ⟨faults, e, hrun, hreg⟩ := h.inside t c p hstage
  have huses : p.Uses fun op => guard (registers.loc op) = (calls c).lock := by
    have hend : (run (Access.step registers) ((calls c).body, d') faults).1.Uses _ := (hg c).runs faults
    rwa [hrun] at hend
  have hframe : ∀ r, guard r ≠ (calls c).lock →
      (Access.step registers (p, s.regs) fault).2 r = s.regs r := fun r hr =>
    huses.frame (Q := fun r => guard r = (calls c).lock) hr [fault]
  have howner := h.owns t c p hstage
  refine ⟨h.serial, fun r hr => ?_, fun u c' q hu => ?_, fun u c' q hu => ?_, fun l u hu => ?_⟩
  · have hl : guard r ≠ (calls c).lock := fun heq => by
      rw [heq, howner] at hr
      cases hr
    exact (hframe r hl).trans (h.free r hr)
  · by_cases hut : u = t
    · subst hut
      simp only [Function.update_self, CallStage.inside.injEq] at hu
      exact hu.1 ▸ howner
    · simp only [Function.update_of_ne hut] at hu
      exact h.owns u c' q hu
  · by_cases hut : u = t
    · subst hut
      simp only [Function.update_self, CallStage.inside.injEq] at hu
      obtain ⟨rfl, rfl⟩ := hu
      obtain ⟨hprog, hregs⟩ := huses.congr_step (Q := fun r => guard r = (calls c).lock) hreg fault
      refine ⟨faults ++ [fault], (Access.step registers (p, e) fault).2, ?_, hregs⟩
      rw [run_append, hrun, hprog, run_cons, run_nil]
    · simp only [Function.update_of_ne hut] at hu
      obtain ⟨faults', f, hrun', hreg'⟩ := h.inside u c' q hu
      refine ⟨faults', f, hrun', fun r hr => (hframe r fun heq => hut ?_).trans (hreg' r hr)⟩
      have := h.owns u c' q hu
      rw [← hr, heq, howner] at this
      exact (Option.some.inj this).symm
  · obtain ⟨c', q, hu', hl'⟩ := h.owned l u hu
    by_cases hut : u = t
    · subst hut
      rw [hstage] at hu'
      cases hu'
      exact ⟨c, _, Function.update_self .., hl'⟩
    · exact ⟨c', q, by simpa only [Function.update_of_ne hut] using hu', hl'⟩

theorem step (hg : Guards registers calls guard) (h : Consistent registers calls guard d s d')
    (e : CallEvent T C ε) : ∃ d'', Consistent registers calls guard d (s.step registers calls e) d'' := by
  cases e with
  | call t c =>
      simp only [LockedSystem.step]
      split
      · rename_i hstage
        exact ⟨d', h.outside (fun _ _ heq => by rw [hstage] at heq; cases heq) nofun h.serial⟩
      · exact ⟨d', h⟩
  | go t fault =>
      simp only [LockedSystem.step]
      fun_cases LockedSystem.goOn with
      | case1 => exact ⟨d', h⟩
      | case2 c e hstage =>
          exact ⟨d', h.outside (fun _ _ heq => by rw [hstage] at heq; cases heq) nofun (.refused c e h.serial)⟩
      | case3 => exact ⟨d', h⟩
      | case4 c hstage hfree => exact ⟨d', h.acquire hstage hfree⟩
      | case5 c _ a hstage => exact h.release hg hstage
      | case6 c p _ _ hstage => exact ⟨d', h.access hg hstage fault⟩

end Consistent

/-- In every interleaving the calls have done what they do one after another, in the order in which they have
returned, to every register whose lock is free. -/
theorem serializable (hg : Guards registers calls guard) (d : R → V) (events : List (CallEvent T C ε)) :
    ∃ d', Consistent registers calls guard d (run (step registers calls) (start d) events) d' :=
  run_inv (I := fun s => ∃ d', Consistent registers calls guard d s d') (C := fun _ _ => True)
    (fun _ e ⟨_, h⟩ _ => h.step hg e) ⟨d, .start d⟩ ((along_iff _).mpr fun _ _ _ _ => trivial)

/-! ## Proof outlines -/

variable (registers calls) in
/-- While thread `t` is in call `c`, `P t c` holds of what is left of it and of the registers, which an operation of
another thread that does not hold the same lock does not disturb. -/
structure Outline (allowed : T → C → Prop) (P : T → C → Access Op Resp ε α → (R → V) → Prop) : Prop where
  start : ∀ t c d, allowed t c → P t c (calls c).body d
  step : ∀ t c p d fault, P t c p d →
    P t c (Access.step registers (p, d) fault).1 (Access.step registers (p, d) fault).2
  free : ∀ t c p u c' p' d fault, u ≠ t → (calls c').lock ≠ (calls c).lock → P t c p d → P u c' p' d →
    P u c' p' (Access.step registers (p, d) fault).2

variable (calls) in
structure Outlined (allowed : T → C → Prop) (P : T → C → Access Op Resp ε α → (R → V) → Prop)
    (s : LockedSystem T C L R V Op Resp ε α) : Prop where
  waiting : ∀ t c, s.stage t = .waiting c → allowed t c
  owns : ∀ t c p, s.stage t = .inside c p → s.owner (calls c).lock = some t
  at_point : ∀ t c p, s.stage t = .inside c p → P t c p s.regs

def Allowed (allowed : T → C → Prop) : CallEvent T C ε → Prop
  | .call t c => allowed t c
  | .go _ _ => True

variable {allowed : T → C → Prop} {P : T → C → Access Op Resp ε α → (R → V) → Prop}

namespace Outlined

omit [DecidableEq L] [DecidableEq R] in
/-- A thread goes to a stage without a lock. The others keep theirs. -/
theorem outside (h : s.Outlined calls allowed P) {stage : CallStage C Op Resp ε α} {owner : L → Option T}
    {returned : List (C × α)} (hnew : ∀ c p, stage ≠ .inside c p) (hwaiting : ∀ c, stage = .waiting c → allowed t c)
    (howner : ∀ l u, u ≠ t → s.owner l = some u → owner l = some u) :
    Outlined calls allowed P ⟨owner, s.regs, Function.update s.stage t stage, returned⟩ := by
  have hinside : ∀ {u c p}, Function.update s.stage t stage u = .inside c p → u ≠ t ∧ s.stage u = .inside c p := by
    intro u c p hu
    have hut : u ≠ t := by
      rintro rfl
      rw [Function.update_self] at hu
      exact hnew c p hu
    exact ⟨hut, by rwa [Function.update_of_ne hut] at hu⟩
  refine ⟨fun u c hu => ?_, fun u c p hu => ?_, fun u c p hu => h.at_point u c p (hinside hu).2⟩
  · by_cases hut : u = t
    · subst hut
      simp only [Function.update_self] at hu
      exact hwaiting c hu
    · simp only [Function.update_of_ne hut] at hu
      exact h.waiting u c hu
  · obtain ⟨hut, hu'⟩ := hinside hu
    exact howner _ u hut (h.owns u c p hu')

omit [DecidableEq L] [DecidableEq R] in
/-- A thread goes on inside a call that it has the lock of. -/
theorem inside (h : s.Outlined calls allowed P) {p : Access Op Resp ε α} {owner : L → Option T} {d : R → V}
    (howner : ∀ l u, s.owner l = some u → owner l = some u) (howns : owner (calls c).lock = some t)
    (hpoint : P t c p d) (hfree : ∀ u c' p', u ≠ t → s.stage u = .inside c' p' → P u c' p' d) :
    Outlined calls allowed P ⟨owner, d, Function.update s.stage t (.inside c p), s.returned⟩ := by
  refine ⟨fun u c' hu => ?_, fun u c' p' hu => ?_, fun u c' p' hu => ?_⟩
  · by_cases hut : u = t
    · subst hut
      simp only [Function.update_self] at hu
      cases hu
    · simp only [Function.update_of_ne hut] at hu
      exact h.waiting u c' hu
  · by_cases hut : u = t
    · subst hut
      simp only [Function.update_self] at hu
      cases hu
      exact howns
    · simp only [Function.update_of_ne hut] at hu
      exact howner _ u (h.owns u c' p' hu)
  · by_cases hut : u = t
    · subst hut
      simp only [Function.update_self] at hu
      cases hu
      exact hpoint
    · simp only [Function.update_of_ne hut] at hu
      exact hfree u c' p' hut hu

end Outlined

theorem Outline.step_outlined (h : Outline registers calls allowed P) (hs : s.Outlined calls allowed P)
    (e : CallEvent T C ε) (he : Allowed allowed e) : (s.step registers calls e).Outlined calls allowed P := by
  cases e with
  | call t c =>
      simp only [LockedSystem.step]
      split
      · refine hs.outside (fun _ _ heq => by cases heq) (fun c' heq => ?_) fun _ _ _ howner => howner
        cases heq
        exact he
      · exact hs
  | go t fault =>
      simp only [LockedSystem.step]
      fun_cases LockedSystem.goOn with
      | case1 => exact hs
      | case2 =>
          exact hs.outside (fun _ _ heq => by cases heq) (fun _ heq => by cases heq) fun _ _ _ howner => howner
      | case3 => exact hs
      | case4 c hstage hfree =>
          refine hs.inside (fun l u howner => ?_) (Function.update_self ..) (h.start t c _ (hs.waiting t c hstage))
            fun u c' p' _ hu => hs.at_point u c' p' hu
          have hl : l ≠ (calls c).lock := by
            rintro rfl
            rw [hfree] at howner
            cases howner
          rwa [Function.update_of_ne hl]
      | case5 _ c a hstage =>
          refine hs.outside (fun _ _ heq => by cases heq) (fun _ heq => by cases heq) fun l u hut howner => ?_
          have hl : l ≠ (calls c).lock := by
            rintro rfl
            rw [hs.owns t c _ hstage] at howner
            exact hut (Option.some.inj howner).symm
          rwa [Function.update_of_ne hl]
      | case6 c p _ _ hstage =>
          have howns := hs.owns t c p hstage
          have hpoint := hs.at_point t c p hstage
          refine hs.inside (fun _ _ howner => howner) howns (h.step t c p _ fault hpoint) fun u c' p' hut hu => ?_
          refine h.free t c p u c' p' _ fault hut (fun hl => hut ?_) hpoint (hs.at_point u c' p' hu)
          have howns' := hs.owns u c' p' hu
          rw [hl, howns] at howns'
          exact (Option.some.inj howns').symm

/-- Whatever the interleaving of allowed calls, each call is at a point of its outline. -/
theorem Outline.run (h : Outline registers calls allowed P) (d : R → V) {events : List (CallEvent T C ε)}
    (hevents : ∀ e ∈ events, Allowed allowed e) :
    Outlined calls allowed P (run (LockedSystem.step registers calls) (LockedSystem.start d) events) := by
  refine run_inv (I := Outlined calls allowed P) (C := fun _ e => Allowed allowed e)
    (fun _ e hs he => h.step_outlined hs e he) ⟨?_, ?_, ?_⟩
    ((along_iff _).mpr fun pre e post hsplit => hevents e (hsplit ▸ List.mem_append_right _ List.mem_cons_self))
  · exact fun _ _ heq => by cases heq
  · exact fun _ _ _ heq => by cases heq
  · exact fun _ _ _ heq => by cases heq

/-! ## Runs of one thread -/

variable (registers calls) in
def Reaches (s s' : LockedSystem T C L R V Op Resp ε α) : Prop :=
  ∃ events, run (step registers calls) s events = s'

theorem Reaches.trans {s' s'' : LockedSystem T C L R V Op Resp ε α} (h : Reaches registers calls s s')
    (h' : Reaches registers calls s' s'') : Reaches registers calls s s'' := by
  obtain ⟨first, rfl⟩ := h
  obtain ⟨rest, rfl⟩ := h'
  exact ⟨first ++ rest, run_append ..⟩

theorem reach_access {p q : Access Op Resp ε α} (hstage : s.stage t = .inside c q)
    {faults : List (Option ε)} (hrun : run (Access.step registers) (q, s.regs) faults = (p, d')) :
    Reaches registers calls s
      { s with regs := d', stage := Function.update s.stage t (.inside c p) } := by
  induction faults generalizing s q with
  | nil =>
      cases hrun
      refine ⟨[], ?_⟩
      rw [← hstage, Function.update_eq_self, run_nil]
  | cons fault faults ih =>
      cases q with
      | ret b => exact ih hstage hrun
      | io op k =>
          obtain ⟨events, hevents⟩ := ih
            (s := { s with regs := (Access.step registers (.io op k, s.regs) fault).2
                           stage := Function.update s.stage t
                            (.inside c (Access.step registers (.io op k, s.regs) fault).1) })
            (Function.update_self ..) hrun
          refine ⟨.go t fault :: events, ?_⟩
          rw [run_cons]
          simp only [step, goOn, hstage]
          rw [hevents]
          simp only [Function.update_idem]

/-- A thread takes a free lock and goes on for some operations. -/
theorem reach_inside (hidle : s.stage t = .idle) (hfree : s.owner (calls c).lock = none)
    {faults : List (Option ε)} {p : Access Op Resp ε α}
    (hrun : run (Access.step registers) ((calls c).body, s.regs) faults = (p, d')) :
    Reaches registers calls s
      { s with owner := Function.update s.owner (calls c).lock (some t)
               regs := d'
               stage := Function.update s.stage t (.inside c p) } := by
  have hlock : Reaches registers calls s
      { s with owner := Function.update s.owner (calls c).lock (some t)
               stage := Function.update s.stage t (.inside c (calls c).body) } := by
    refine ⟨[.call t c, .go t none], ?_⟩
    simp only [run_cons, run_nil, step, hidle, goOn, Function.update_self, hfree, Function.update_idem]
  refine hlock.trans ?_
  simpa only [Function.update_idem] using reach_access
    (s := { s with owner := Function.update s.owner (calls c).lock (some t)
                   stage := Function.update s.stage t (.inside c (calls c).body) }) (Function.update_self ..) hrun

/-- A thread finishes its call and gives the lock back. -/
theorem reach_returned {p : Access Op Resp ε α} {a : α} (hstage : s.stage t = .inside c p)
    (hdoes : p.Does registers s.regs a d') :
    Reaches registers calls s
      { owner := Function.update s.owner (calls c).lock none
        regs := d'
        stage := Function.update s.stage t .idle
        returned := s.returned ++ [(c, a)] } := by
  obtain ⟨faults, hrun⟩ := hdoes
  refine (reach_access hstage hrun).trans ⟨[.go t none], ?_⟩
  simp only [run_cons, run_nil, step, goOn, Function.update_self, Function.update_idem]

/-- A thread makes a whole call while the others do nothing. -/
theorem reach_call {a : α} (hidle : s.stage t = .idle) (hfree : s.owner (calls c).lock = none)
    (hdoes : (calls c).body.Does registers s.regs a d') :
    Reaches registers calls s
      { s with regs := d', returned := s.returned ++ [(c, a)] } := by
  refine (reach_inside hidle hfree (run_nil _ _)).trans ?_
  have hend : Reaches registers calls
      { s with owner := Function.update s.owner (calls c).lock (some t)
               stage := Function.update s.stage t (.inside c (calls c).body) } _ :=
    reach_returned (Function.update_self ..) hdoes
  simpa only [Function.update_idem, ← hfree, ← hidle, Function.update_eq_self] using hend

/-- Between two operations of a call, another thread makes a whole call that takes another lock. -/
theorem reach_around {u : T} (hidle : s.stage t = .idle) (hidle' : s.stage u = .idle) (hne : u ≠ t)
    {c' : C} (hfree : s.owner (calls c).lock = none) (hfree' : s.owner (calls c').lock = none)
    (hlock : (calls c').lock ≠ (calls c).lock) {faults : List (Option ε)} {p : Access Op Resp ε α} {e e' : R → V}
    {a a' : α} (hfirst : run (Access.step registers) ((calls c).body, s.regs) faults = (p, d'))
    (hother : (calls c').body.Does registers d' a' e) (hlast : p.Does registers e a e') :
    Reaches registers calls s { s with regs := e', returned := s.returned ++ [(c', a'), (c, a)] } := by
  have h₁ := reach_inside hidle hfree hfirst
  have h₂ := h₁.trans (reach_call (t := u) (c := c') ((Function.update_of_ne hne _ _).trans hidle')
    ((Function.update_of_ne hlock _ _).trans hfree') hother)
  have h₃ := h₂.trans (reach_returned (t := t) (Function.update_self ..) hlast)
  simpa only [Function.update_idem, ← hfree, ← hidle, Function.update_eq_self, List.append_assoc,
    List.singleton_append] using h₃

end

end LockedSystem

end OpxSdi.Lib
