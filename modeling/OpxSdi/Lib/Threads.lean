import Mathlib.Logic.Function.Basic
import OpxSdi.Lib.Run

/-!
# Threads that share locks and cells

A program takes and gives back non-recursive locks, sets cells that other threads see, and uses a device.
Each cell has a lock that guards it. A thread owns some locks and knows the values of some cells that they
guard; no step of another thread changes either.
-/

namespace OpxSdi.Lib

inductive Prog (L E C V α : Type)
  | ret (a : α)
  | lock (l : L) (k : Except E Unit → Prog L E C V α)
  | unlock (l : L) (p : Prog L E C V α)
  | set (c : C) (v : V) (k : Except E Unit → Prog L E C V α)
  | use (k : Except E Unit → Prog L E C V α)

structure World (T L C V : Type) where
  owner : L → Option T
  cell : C → V

variable {T B L E C V α β : Type}

namespace Prog

def bind : Prog L E C V α → (α → Prog L E C V β) → Prog L E C V β
  | ret a, f => f a
  | lock l k, f => lock l fun r => (k r).bind f
  | unlock l p, f => unlock l (p.bind f)
  | set c v k, f => set c v fun r => (k r).bind f
  | use k, f => use fun r => (k r).bind f

instance : Monad (Prog L E C V) where
  pure := ret
  bind := bind

/-- What thread `t` owns, and what it knows of the cells that its locks guard. -/
structure Agrees (guard : C → L) (w : World T L C V) (t : T) (S : L → Bool) (K : C → Option V) : Prop where
  owns : ∀ l, S l = true ↔ w.owner l = some t
  guarded : ∀ c v, K c = some v → S (guard c) = true
  known : ∀ c v, K c = some v → w.cell c = v

theorem Agrees.start {guard : C → L} {w : World T L C V} {t : T} (h : ∀ l, w.owner l ≠ some t) :
    Agrees guard w t (fun _ => false) fun _ => none :=
  ⟨fun l => ⟨fun hf => (Bool.false_ne_true hf).elim, fun ho => absurd ho (h l)⟩,
    fun _ _ hk => (Option.some_ne_none _ hk.symm).elim, fun _ _ hk => (Option.some_ne_none _ hk.symm).elim⟩

section

variable [DecidableEq L] [DecidableEq C]

/-- One step of thread `t`, which fails with `fault` where it can fail. A thread that waits for a lock, or
whose program is over, stays where it is. -/
def step (t : T) (fault : Option E) (w : World T L C V) : Prog L E C V α → World T L C V × Prog L E C V α
  | ret a => (w, ret a)
  | lock l k =>
      match fault, w.owner l with
      | some e, _ => (w, k (.error e))
      | none, none => ({ w with owner := Function.update w.owner l (some t) }, k (.ok ()))
      | none, some _ => (w, lock l k)
  | unlock l p => ({ w with owner := Function.update w.owner l none }, p)
  | set c v k =>
      match fault with
      | some e => (w, k (.error e))
      | none => ({ w with cell := Function.update w.cell c v }, k (.ok ()))
  | use k =>
      match fault with
      | some e => (w, k (.error e))
      | none => (w, k (.ok ()))

/-- What the program returns when its thread runs alone and nothing fails. -/
def solo (t : T) : Prog L E C V α → World T L C V → Option (α × World T L C V)
  | ret a, w => some (a, w)
  | lock l k, w =>
      if w.owner l = none then
        (k (.ok ())).solo t { w with owner := Function.update w.owner l (some t) }
      else none
  | unlock l p, w => p.solo t { w with owner := Function.update w.owner l none }
  | set c v k, w => (k (.ok ())).solo t { w with cell := Function.update w.cell c v }
  | use k, w => (k (.ok ())).solo t w

/-- What the program does to a device when its thread runs alone with the locks `S`, and nothing fails. It does not
come back from a lock that it has already. -/
def soloOn {D : Type} (write : C → V → D → D) : Prog L E C V α → (L → Bool) → D → Option (α × (L → Bool) × D)
  | ret a, S, d => some (a, S, d)
  | lock l k, S, d => if S l = true then none else (k (.ok ())).soloOn write (Function.update S l true) d
  | unlock l p, S, d => p.soloOn write (Function.update S l false) d
  | set c v k, S, d => (k (.ok ())).soloOn write S (write c v d)
  | use k, S, d => (k (.ok ())).soloOn write S d

def forget (guard : C → L) (l : L) (K : C → Option V) : C → Option V := fun c =>
  if guard c = l then none else K c

/-- The program gives back only locks that it owns and sets only cells that it guards, uses the device only
under `U`, and ends with `Q`. -/
def Safe (guard : C → L) (U : (L → Bool) → (C → Option V) → Prop)
    (Q : α → (L → Bool) → (C → Option V) → Prop) :
    Prog L E C V α → (L → Bool) → (C → Option V) → Prop
  | ret a, S, K => Q a S K
  | lock l k, S, K =>
      (∀ e, (k (.error e)).Safe guard U Q S K) ∧
        (k (.ok ())).Safe guard U Q (Function.update S l true) K
  | unlock l p, S, K =>
      S l = true ∧ p.Safe guard U Q (Function.update S l false) (forget guard l K)
  | set c v k, S, K =>
      S (guard c) = true ∧ (∀ e, (k (.error e)).Safe guard U Q S K) ∧
        (k (.ok ())).Safe guard U Q S (Function.update K c (some v))
  | use k, S, K => U S K ∧ ∀ r, (k r).Safe guard U Q S K

omit [DecidableEq C] in
theorem soloOn_bind {D : Type} {write : C → V → D → D} {p : Prog L E C V α} {f : α → Prog L E C V β} {S S' : L → Bool}
    {d d' : D} {a : α} (h : p.soloOn write S d = some (a, S', d')) :
    (p >>= f).soloOn write S d = (f a).soloOn write S' d' := by
  change (p.bind f).soloOn write S d = _
  induction p generalizing S d with
  | ret b =>
      cases h
      rfl
  | lock l k ih =>
      simp only [bind, soloOn] at h ⊢
      split
      · rename_i hl
        rw [if_pos hl] at h
        cases h
      · rename_i hl
        rw [if_neg hl] at h
        exact ih _ h
  | unlock l p ih => exact ih h
  | set c v k ih => exact ih _ h
  | use k ih => exact ih _ h

/-! ## Steps of safe programs -/

variable {guard : C → L} {U : (L → Bool) → (C → Option V) → Prop}
  {Q : α → (L → Bool) → (C → Option V) → Prop} {w : World T L C V} {S S' : L → Bool} {K K' : C → Option V}
  {t u : T} {p : Prog L E C V α}

theorem Safe.step (fault : Option E) (h : p.Safe guard U Q S K) (ha : Agrees guard w t S K) :
    ∃ S' K', Agrees guard (p.step t fault w).1 t S' K' ∧ (p.step t fault w).2.Safe guard U Q S' K' := by
  cases p with
  | ret a => exact ⟨S, K, ha, h⟩
  | lock l k =>
      cases fault with
      | some e => exact ⟨S, K, ha, h.1 e⟩
      | none =>
          cases howner : w.owner l with
          | some u => exact ⟨S, K, by simpa only [Prog.step, howner] using ha, by
              simpa only [Prog.step, howner] using h⟩
          | none =>
              simp only [Prog.step, howner]
              refine ⟨_, K, ⟨fun l' => ?_, fun c v hk => ?_, ha.known⟩, h.2⟩
              · by_cases hl : l' = l
                · subst hl
                  simp only [Function.update_self]
                · simp only [Function.update_of_ne hl]
                  exact ha.owns l'
              · by_cases hl : guard c = l
                · rw [hl, Function.update_self]
                · rw [Function.update_of_ne hl]
                  exact ha.guarded c v hk
  | unlock l p =>
      refine ⟨_, _, ⟨fun l' => ?_, fun c v hk => ?_, fun c v hk => ?_⟩, h.2⟩
      · by_cases hl : l' = l
        · subst hl
          simp only [Prog.step, Function.update_self, Bool.false_eq_true, reduceCtorEq]
        · simp only [Prog.step, Function.update_of_ne hl]
          exact ha.owns l'
      · by_cases hl : guard c = l
        · simp only [forget, hl, ↓reduceIte, reduceCtorEq] at hk
        · simp only [forget, hl, ↓reduceIte] at hk
          rw [Function.update_of_ne hl]
          exact ha.guarded c v hk
      · by_cases hl : guard c = l
        · simp only [forget, hl, ↓reduceIte, reduceCtorEq] at hk
        · simp only [forget, hl, ↓reduceIte] at hk
          exact ha.known c v hk
  | set c v k =>
      cases fault with
      | some e => exact ⟨S, K, ha, h.2.1 e⟩
      | none =>
          refine ⟨S, _, ⟨ha.owns, fun c' v' hk => ?_, fun c' v' hk => ?_⟩, h.2.2⟩
          · by_cases hc : c' = c
            · exact hc ▸ h.1
            · rw [Function.update_of_ne hc] at hk
              exact ha.guarded c' v' hk
          · by_cases hc : c' = c
            · subst hc
              rw [Function.update_self] at hk
              simp only [Prog.step, Function.update_self]
              exact Option.some.inj hk
            · rw [Function.update_of_ne hc] at hk
              simp only [Prog.step, Function.update_of_ne hc]
              exact ha.known c' v' hk
  | use k =>
      cases fault with
      | some e => exact ⟨S, K, ha, h.2 _⟩
      | none => exact ⟨S, K, ha, h.2 _⟩

/-- A step of a safe program leaves to every other thread its locks and what it knows. -/
theorem Safe.frame (fault : Option E) (h : p.Safe guard U Q S K) (ha : Agrees guard w t S K)
    (hne : u ≠ t) (hu : Agrees guard w u S' K') : Agrees guard (p.step t fault w).1 u S' K' := by
  cases p with
  | ret a => exact hu
  | lock l k =>
      cases fault with
      | some e => exact hu
      | none =>
          cases howner : w.owner l with
          | some v => simpa only [Prog.step, howner] using hu
          | none =>
              simp only [Prog.step, howner]
              refine ⟨fun l' => ?_, hu.guarded, hu.known⟩
              by_cases hl : l' = l
              · subst hl
                simp only [hu.owns, howner, Function.update_self, Option.some.injEq, Ne.symm hne,
                  reduceCtorEq]
              · simp only [Function.update_of_ne hl]
                exact hu.owns l'
  | unlock l p =>
      refine ⟨fun l' => ?_, hu.guarded, hu.known⟩
      by_cases hl : l' = l
      · subst hl
        have howner := (ha.owns l').mp h.1
        simp only [Prog.step, hu.owns, howner, Function.update_self, Option.some.injEq, Ne.symm hne,
          reduceCtorEq]
      · simp only [Prog.step, Function.update_of_ne hl]
        exact hu.owns l'
  | set c v k =>
      cases fault with
      | some e => exact hu
      | none =>
          refine ⟨hu.owns, hu.guarded, fun c' v' hk => ?_⟩
          -- The lock that guards the cell is not the other thread's.
          have hc : c' ≠ c := by
            rintro rfl
            have hguard := (hu.owns _).mp (hu.guarded c' v' hk)
            rw [(ha.owns _).mp h.1] at hguard
            exact hne (Option.some.inj hguard).symm
          simp only [Prog.step, Function.update_of_ne hc]
          exact hu.known c' v' hk
  | use k => cases fault <;> exact hu

theorem Safe.bind {R : β → (L → Bool) → (C → Option V) → Prop} {f : α → Prog L E C V β}
    (h : p.Safe guard U Q S K) (hf : ∀ a S K, Q a S K → (f a).Safe guard U R S K) :
    (p.bind f).Safe guard U R S K := by
  induction p generalizing S K with
  | ret a => exact hf a S K h
  | lock l k ih => exact ⟨fun e => ih _ (h.1 e), ih _ h.2⟩
  | unlock l p ih => exact ⟨h.1, ih h.2⟩
  | set c v k ih => exact ⟨h.1, fun e => ih _ (h.2.1 e), ih _ h.2.2⟩
  | use k ih => exact ⟨h.1, fun r => ih _ (h.2 r)⟩

end

end Prog

/-! ## Clients of a service -/

/-- What a client calls to take a bus, to use it and to give it back. -/
structure Service (B L E C V : Type) where
  acquire : B → Prog L E C V (Except E Unit)
  execute : B → Prog L E C V (Except E Unit)
  release : B → Prog L E C V Unit

inductive Stage (B L E C V : Type)
  | idle
  | acquiring (b : B) (p : Prog L E C V (Except E Unit))
  | holding (b : B)
  | executing (b : B) (p : Prog L E C V (Except E Unit))
  | releasing (b : B) (p : Prog L E C V Unit)

structure System (T B L E C V : Type) where
  world : World T L C V
  stage : T → Stage B L E C V

/-- A client begins a call, or goes on with the one it is in. -/
inductive Act (B E : Type)
  | acquire (b : B)
  | execute
  | release
  | go (fault : Option E)
  deriving DecidableEq, Repr

namespace Service

section

variable [DecidableEq L] [DecidableEq C] (svc : Service B L E C V)

/-- One step of client `t` at its stage. An act that its stage does not allow does nothing. -/
def act (t : T) (w : World T L C V) : Stage B L E C V → Act B E → World T L C V × Stage B L E C V
  | .idle, .acquire b => (w, .acquiring b (svc.acquire b))
  | .acquiring b (.ret (.ok ())), .go _ => (w, .holding b)
  | .acquiring _ (.ret (.error _)), .go _ => (w, .idle)
  | .acquiring b p, .go fault => ((p.step t fault w).1, .acquiring b (p.step t fault w).2)
  | .holding b, .execute => (w, .executing b (svc.execute b))
  | .executing b (.ret _), .go _ => (w, .holding b)
  | .executing b p, .go fault => ((p.step t fault w).1, .executing b (p.step t fault w).2)
  | .holding b, .release => (w, .releasing b (svc.release b))
  | .releasing _ (.ret ()), .go _ => (w, .idle)
  | .releasing b p, .go fault => ((p.step t fault w).1, .releasing b (p.step t fault w).2)
  | stage, _ => (w, stage)

def step [DecidableEq T] (s : System T B L E C V) (m : T × Act B E) : System T B L E C V :=
  ⟨(svc.act m.1 s.world (s.stage m.1) m.2).1,
    Function.update s.stage m.1 (svc.act m.1 s.world (s.stage m.1) m.2).2⟩

/-- No client is in a call and no lock is taken. -/
def start (cell : C → V) : System T B L E C V := ⟨⟨fun _ => none, cell⟩, fun _ => .idle⟩

/-! ## Services that keep to their locks -/

/-- The client owns the locks of the bus and knows its cells. -/
def Holds (locks : B → L → Bool) (knows : B → C → V → Prop) (b : B) (S : L → Bool) (K : C → Option V) : Prop :=
  S = locks b ∧ ∀ c v, knows b c v → K c = some v

/-- A call that fails leaves the client without a lock. -/
def Acquired (locks : B → L → Bool) (knows : B → C → V → Prop) (b : B) :
    Except E Unit → (L → Bool) → (C → Option V) → Prop
  | .ok _, S, K => Holds locks knows b S K
  | .error _, S, _ => S = fun _ => false

/-- A client that has acquired a bus holds it whenever it uses the device, and a release leaves it
without a lock. -/
structure Meets (guard : C → L) (locks : B → L → Bool) (knows : B → C → V → Prop) : Prop where
  acquire : ∀ b, (svc.acquire b).Safe guard (fun _ _ => True) (Acquired locks knows b) (fun _ => false)
    fun _ => none
  execute : ∀ b S K, Holds locks knows b S K →
    (svc.execute b).Safe guard (Holds locks knows b) (fun _ => Holds locks knows b) S K
  release : ∀ b S K, Holds locks knows b S K →
    (svc.release b).Safe guard (fun _ _ => True) (fun _ S _ => S = fun _ => false) S K

def StageSafe (guard : C → L) (locks : B → L → Bool) (knows : B → C → V → Prop) :
    Stage B L E C V → (L → Bool) → (C → Option V) → Prop
  | .idle, S, _ => S = fun _ => false
  | .acquiring b p, S, K => p.Safe guard (fun _ _ => True) (Acquired locks knows b) S K
  | .holding b, S, K => Holds locks knows b S K
  | .executing b p, S, K => p.Safe guard (Holds locks knows b) (fun _ => Holds locks knows b) S K
  | .releasing _ p, S, K => p.Safe guard (fun _ _ => True) (fun _ S _ => S = fun _ => false) S K

def Good (guard : C → L) (locks : B → L → Bool) (knows : B → C → V → Prop) (s : System T B L E C V) : Prop :=
  ∀ t, ∃ S K, Prog.Agrees guard s.world t S K ∧ StageSafe guard locks knows (s.stage t) S K

variable {svc} {guard : C → L} {locks : B → L → Bool} {knows : B → C → V → Prop} {w : World T L C V}
  {S S' : L → Bool} {K K' : C → Option V} {t u : T} {stage : Stage B L E C V} {s : System T B L E C V}

theorem act_safe (hsvc : svc.Meets guard locks knows) (a : Act B E)
    (h : StageSafe guard locks knows stage S K) (ha : Prog.Agrees guard w t S K) :
    ∃ S' K', Prog.Agrees guard (svc.act t w stage a).1 t S' K' ∧
      StageSafe guard locks knows (svc.act t w stage a).2 S' K' := by
  fun_cases Service.act svc t w stage a with
  | case1 b =>
      have howns : ∀ l, w.owner l ≠ some t := fun l ho => by
        have hl := (ha.owns l).mpr ho
        rw [show S = fun _ => false from h] at hl
        cases hl
      exact ⟨_, _, .start howns, hsvc.acquire b⟩
  | case2 b fault => exact ⟨S, K, ha, h⟩
  | case3 b e fault => exact ⟨S, K, ha, h⟩
  | case4 b p fault => exact Prog.Safe.step fault h ha
  | case5 b => exact ⟨S, K, ha, hsvc.execute b S K h⟩
  | case6 b r fault => exact ⟨S, K, ha, h⟩
  | case7 b p fault => exact Prog.Safe.step fault h ha
  | case8 b => exact ⟨S, K, ha, hsvc.release b S K h⟩
  | case9 b fault => exact ⟨S, K, ha, h⟩
  | case10 b p fault => exact Prog.Safe.step fault h ha
  | case11 => exact ⟨S, K, ha, h⟩

variable (svc) in
theorem act_frame (a : Act B E) (h : StageSafe guard locks knows stage S K)
    (ha : Prog.Agrees guard w t S K) (hne : u ≠ t) (hu : Prog.Agrees guard w u S' K') :
    Prog.Agrees guard (svc.act t w stage a).1 u S' K' := by
  fun_cases Service.act svc t w stage a with
  | case4 b p fault => exact Prog.Safe.frame fault h ha hne hu
  | case7 b p fault => exact Prog.Safe.frame fault h ha hne hu
  | case10 b p fault => exact Prog.Safe.frame fault h ha hne hu
  | _ => exact hu

omit [DecidableEq L] [DecidableEq C] in
theorem free_of_agrees (ha : Prog.Agrees guard w t S K) (h : S = fun _ => false) (l : L) :
    w.owner l ≠ some t := fun ho => by
  have hl := (ha.owns l).mpr ho
  rw [h] at hl
  cases hl

theorem Good.idle (h : Good guard locks knows s) (hstage : s.stage t = .idle) (l : L) :
    s.world.owner l ≠ some t := by
  obtain ⟨S, K, ha, hsafe⟩ := h t
  rw [hstage] at hsafe
  exact free_of_agrees ha hsafe l

theorem Good.failed (h : Good guard locks knows s) {b : B} {e : E}
    (hstage : s.stage t = .acquiring b (.ret (.error e))) (l : L) : s.world.owner l ≠ some t := by
  obtain ⟨S, K, ha, hsafe⟩ := h t
  rw [hstage] at hsafe
  exact free_of_agrees ha hsafe l

theorem Good.released (h : Good guard locks knows s) {b : B} (hstage : s.stage t = .releasing b (.ret ()))
    (l : L) : s.world.owner l ≠ some t := by
  obtain ⟨S, K, ha, hsafe⟩ := h t
  rw [hstage] at hsafe
  exact free_of_agrees ha hsafe l

variable [DecidableEq T]

theorem Good.step (hsvc : svc.Meets guard locks knows) (h : Good guard locks knows s) (m : T × Act B E) :
    Good guard locks knows (svc.step s m) := by
  intro u
  obtain ⟨S, K, ha, hsafe⟩ := h m.1
  by_cases hne : u = m.1
  · subst hne
    simp only [Service.step, Function.update_self]
    exact act_safe hsvc m.2 hsafe ha
  · obtain ⟨S', K', hu, hsafe'⟩ := h u
    simp only [Service.step, Function.update_of_ne hne]
    exact ⟨S', K', act_frame svc m.2 hsafe ha hne hu, hsafe'⟩

/-- A step of one client leaves the locks of the others as they are. -/
theorem Good.others (h : Good guard locks knows s) {m : T × Act B E} (hne : u ≠ m.1) (l : L) :
    (svc.step s m).world.owner l = some u ↔ s.world.owner l = some u := by
  obtain ⟨S, K, ha, hsafe⟩ := h m.1
  obtain ⟨S', K', hu, -⟩ := h u
  exact ((act_frame svc m.2 hsafe ha hne hu).owns l).symm.trans (hu.owns l)

/-- Every client keeps to its locks in every interleaving. -/
theorem Good.run (hsvc : svc.Meets guard locks knows) (cell : C → V) (ms : List (T × Act B E)) :
    Good guard locks knows (Lib.run svc.step (start cell) ms) :=
  run_inv (C := fun _ _ => True) (fun _ m h _ => h.step hsvc m)
    (fun _ => ⟨_, _, .start fun _ => (Option.some_ne_none _).symm, rfl⟩)
    ((along_iff _).mpr fun _ _ _ _ => trivial)

/-! ## A client that runs alone -/

variable (svc)

end

end Service

end OpxSdi.Lib
