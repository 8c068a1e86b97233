import Mathlib.Logic.Relation
import OpxSdi.Lib.Threads

/-!
# Locks in an order

Locks have ranks, and a program takes a lock only while every lock that it holds has a higher rank. Clients of
a service of such programs do not deadlock.
-/

namespace OpxSdi.Lib

variable {T B L E C V α β : Type}

/-- The locks of thread `t` are `S`. -/
def World.Owns (w : World T L C V) (t : T) (S : L → Bool) : Prop := ∀ l, S l = true ↔ w.owner l = some t

theorem World.owns_nothing {w : World T L C V} {t : T} (h : ∀ l, w.owner l ≠ some t) : w.Owns t fun _ => false :=
  fun l => ⟨fun hf => (Bool.false_ne_true hf).elim, fun howner => absurd howner (h l)⟩

namespace Prog

/-- The lock that the program is about to take -/
def wants : Prog L E C V α → Option L
  | lock l _ => some l
  | _ => none

variable [DecidableEq L]

/-- The program takes locks in descending order while it holds `S`, gives back only locks that it holds, and ends
with `Q`. -/
def Descends (rank : L → Nat) (Q : α → (L → Bool) → Prop) : Prog L E C V α → (L → Bool) → Prop
  | ret a, S => Q a S
  | lock l k, S => (∀ l', S l' = true → rank l < rank l') ∧ (∀ e, (k (.error e)).Descends rank Q S) ∧
      (k (.ok ())).Descends rank Q (Function.update S l true)
  | unlock l p, S => S l = true ∧ p.Descends rank Q (Function.update S l false)
  | set _ _ k, S => ∀ r, (k r).Descends rank Q S
  | use k, S => ∀ r, (k r).Descends rank Q S

variable {rank : L → Nat} {Q : α → (L → Bool) → Prop} {R : β → (L → Bool) → Prop} {S S' : L → Bool}
  {p : Prog L E C V α}

theorem Descends.bind {f : α → Prog L E C V β} (h : p.Descends rank Q S)
    (hf : ∀ a S, Q a S → (f a).Descends rank R S) : (p.bind f).Descends rank R S := by
  induction p generalizing S with
  | ret a => exact hf a S h
  | lock l k ih => exact ⟨h.1, fun e => ih _ (h.2.1 e), ih _ h.2.2⟩
  | unlock l p ih => exact ⟨h.1, ih h.2⟩
  | set c v k ih => exact fun r => ih _ (h r)
  | use k ih => exact fun r => ih _ (h r)

theorem Descends.mono {Q' : α → (L → Bool) → Prop} (h : p.Descends rank Q S) (hQ : ∀ a S, Q a S → Q' a S) :
    p.Descends rank Q' S := by
  induction p generalizing S with
  | ret a => exact hQ a S h
  | lock l k ih => exact ⟨h.1, fun e => ih _ (h.2.1 e), ih _ h.2.2⟩
  | unlock l p ih => exact ⟨h.1, ih h.2⟩
  | set c v k ih => exact fun r => ih _ (h r)
  | use k ih => exact fun r => ih _ (h r)

theorem Descends.wants_lt (h : p.Descends rank Q S) {l l' : L} (hl : p.wants = some l) (hl' : S l' = true) :
    rank l < rank l' := by
  cases p with
  | lock l k =>
      cases hl
      exact h.1 l' hl'
  | ret a => cases hl
  | unlock l p => cases hl
  | set c v k => cases hl
  | use k => cases hl

section

variable [DecidableEq C] {w : World T L C V} {t u : T}

theorem Descends.step (fault : Option E) (h : p.Descends rank Q S) (ho : w.Owns t S) :
    ∃ S', (p.step t fault w).1.Owns t S' ∧ (p.step t fault w).2.Descends rank Q S' := by
  cases p with
  | ret a => exact ⟨S, ho, h⟩
  | lock l k =>
      cases fault with
      | some e => exact ⟨S, ho, h.2.1 e⟩
      | none =>
          cases howner : w.owner l with
          | some v => exact ⟨S, by simpa only [Prog.step, howner] using ho, by simpa only [Prog.step, howner] using h⟩
          | none =>
              simp only [Prog.step, howner]
              refine ⟨_, fun l' => ?_, h.2.2⟩
              by_cases hl : l' = l
              · subst hl
                simp
              · simp only [Function.update_of_ne hl]
                exact ho l'
  | unlock l p =>
      refine ⟨_, fun l' => ?_, h.2⟩
      by_cases hl : l' = l
      · subst hl
        simp [Prog.step]
      · simp only [Prog.step, Function.update_of_ne hl]
        exact ho l'
  | set c v k => cases fault <;> exact ⟨S, ho, h _⟩
  | use k => cases fault <;> exact ⟨S, ho, h _⟩

/-- A step leaves the locks of the other threads as they are. -/
theorem Descends.frame (fault : Option E) (h : p.Descends rank Q S) (ho : w.Owns t S) (hne : u ≠ t)
    (hu : w.Owns u S') : (p.step t fault w).1.Owns u S' := by
  cases p with
  | ret a => exact hu
  | lock l k =>
      cases fault with
      | some e => exact hu
      | none =>
          cases howner : w.owner l with
          | some v => simpa only [Prog.step, howner] using hu
          | none =>
              simp only [Prog.step, howner]
              intro l'
              by_cases hl : l' = l
              · subst hl
                simp [hu l', howner, Ne.symm hne]
              · simp only [Function.update_of_ne hl]
                exact hu l'
  | unlock l p =>
      intro l'
      by_cases hl : l' = l
      · subst hl
        simp [Prog.step, hu l', (ho l').mp h.1, Ne.symm hne]
      · simp only [Prog.step, Function.update_of_ne hl]
        exact hu l'
  | set c v k => cases fault <;> exact hu
  | use k => cases fault <;> exact hu

end

end Prog

namespace Service

/-- The lock that a client waits for or is about to take -/
def wants : Stage B L E C V → Option L
  | .acquiring _ p => p.wants
  | .executing _ p => p.wants
  | .releasing _ p => p.wants
  | _ => none

/-- Client `t` wants a lock of client `u`. -/
def BlockedBy (s : System T B L E C V) (t u : T) : Prop := ∃ l, wants (s.stage t) = some l ∧ s.world.owner l = some u

variable [DecidableEq L]

/-- A client has the locks `holds b` while it has bus `b`, and a call that fails leaves it without a lock. -/
def Taken (holds : B → L → Bool) (b : B) : Except E Unit → (L → Bool) → Prop
  | .ok _, S => S = holds b
  | .error _, S => S = fun _ => false

structure Ordered (svc : Service B L E C V) (rank : L → Nat) (holds : B → L → Bool) : Prop where
  acquire : ∀ b, (svc.acquire b).Descends rank (Taken holds b) fun _ => false
  execute : ∀ b, (svc.execute b).Descends rank (fun _ S => S = holds b) (holds b)
  release : ∀ b, (svc.release b).Descends rank (fun _ S => S = fun _ => false) (holds b)

section

variable (rank : L → Nat) (holds : B → L → Bool)

def StageOrdered : Stage B L E C V → (L → Bool) → Prop
  | .idle, S => S = fun _ => false
  | .acquiring b p, S => p.Descends rank (Taken holds b) S
  | .holding b, S => S = holds b
  | .executing b p, S => p.Descends rank (fun _ S => S = holds b) S
  | .releasing _ p, S => p.Descends rank (fun _ S => S = fun _ => false) S

def InOrder (s : System T B L E C V) : Prop := ∀ t, ∃ S, s.world.Owns t S ∧ StageOrdered rank holds (s.stage t) S

end

variable {svc : Service B L E C V} {rank : L → Nat} {holds : B → L → Bool} {w : World T L C V} {S S' : L → Bool}
  {t u : T} {stage : Stage B L E C V} {s : System T B L E C V}

theorem StageOrdered.wants_lt (h : StageOrdered rank holds stage S) {l l' : L} (hl : wants stage = some l)
    (hl' : S l' = true) : rank l < rank l' := by
  cases stage with
  | idle => cases hl
  | acquiring b p => exact Prog.Descends.wants_lt h hl hl'
  | holding b => cases hl
  | executing b p => exact Prog.Descends.wants_lt h hl hl'
  | releasing b p => exact Prog.Descends.wants_lt h hl hl'

/-- A client that is blocked waits, perhaps through others, for a client that is not blocked. The induction is on
the rank of the lock that it wants: a client that has the lock can only want one of a lower rank. -/
theorem InOrder.waits_for_free (h : InOrder rank holds s) (n : Nat) : ∀ t u l, rank l ≤ n → wants (s.stage t) = some l →
    s.world.owner l = some u → ∃ v, Relation.TransGen (BlockedBy s) t v ∧ ∀ x, ¬BlockedBy s v x := by
  induction n with
  | zero =>
      intro t u l hn hwants howner
      refine ⟨u, .single ⟨l, hwants, howner⟩, ?_⟩
      rintro x ⟨l', hwants', -⟩
      obtain ⟨S, ho, hstage⟩ := h u
      have hlt := hstage.wants_lt hwants' ((ho l).mpr howner)
      omega
  | succ n ih =>
      intro t u l hn hwants howner
      by_cases hfree : ∀ x, ¬BlockedBy s u x
      · exact ⟨u, .single ⟨l, hwants, howner⟩, hfree⟩
      · simp only [not_forall, not_not] at hfree
        obtain ⟨x, l', hwants', howner'⟩ := hfree
        obtain ⟨S, ho, hstage⟩ := h u
        have hlt := hstage.wants_lt hwants' ((ho l).mpr howner)
        obtain ⟨v, htrans, hv⟩ := ih u x l' (by omega) hwants' howner'
        exact ⟨v, .head ⟨l, hwants, howner⟩ htrans, hv⟩

variable [DecidableEq C]

theorem act_ordered (hsvc : svc.Ordered rank holds) (a : Act B E) (h : StageOrdered rank holds stage S)
    (ho : w.Owns t S) : ∃ S', (svc.act t w stage a).1.Owns t S' ∧ StageOrdered rank holds (svc.act t w stage a).2 S' := by
  fun_cases Service.act svc t w stage a with
  | case1 b => exact ⟨S, ho, (show S = _ from h) ▸ hsvc.acquire b⟩
  | case2 b fault => exact ⟨S, ho, h⟩
  | case3 b e fault => exact ⟨S, ho, h⟩
  | case4 b p fault => exact Prog.Descends.step fault h ho
  | case5 b => exact ⟨S, ho, (show S = _ from h) ▸ hsvc.execute b⟩
  | case6 b r fault => exact ⟨S, ho, h⟩
  | case7 b p fault => exact Prog.Descends.step fault h ho
  | case8 b => exact ⟨S, ho, (show S = _ from h) ▸ hsvc.release b⟩
  | case9 b fault => exact ⟨S, ho, h⟩
  | case10 b p fault => exact Prog.Descends.step fault h ho
  | case11 => exact ⟨S, ho, h⟩

theorem act_owns (a : Act B E) (h : StageOrdered rank holds stage S) (ho : w.Owns t S) (hne : u ≠ t)
    (hu : w.Owns u S') : (svc.act t w stage a).1.Owns u S' := by
  fun_cases Service.act svc t w stage a with
  | case4 b p fault => exact Prog.Descends.frame fault h ho hne hu
  | case7 b p fault => exact Prog.Descends.frame fault h ho hne hu
  | case10 b p fault => exact Prog.Descends.frame fault h ho hne hu
  | _ => exact hu

variable [DecidableEq T]

theorem InOrder.step (hsvc : svc.Ordered rank holds) (h : InOrder rank holds s) (m : T × Act B E) :
    InOrder rank holds (svc.step s m) := by
  intro u
  obtain ⟨S, ho, hstage⟩ := h m.1
  by_cases hne : u = m.1
  · subst hne
    simp only [Service.step, Function.update_self]
    exact act_ordered hsvc m.2 hstage ho
  · obtain ⟨S', hu, hstage'⟩ := h u
    simp only [Service.step, Function.update_of_ne hne]
    exact ⟨S', act_owns m.2 hstage ho hne hu, hstage'⟩

theorem InOrder.run (hsvc : svc.Ordered rank holds) (cell : C → V) (ms : List (T × Act B E)) :
    InOrder rank holds (Lib.run svc.step (start cell) ms) :=
  run_inv (C := fun _ _ => True) (fun _ m h _ => h.step hsvc m)
    (fun _ => ⟨_, World.owns_nothing fun _ => (Option.some_ne_none _).symm, rfl⟩) ((along_iff _).mpr fun _ _ _ _ => trivial)

/-- No client of a service of descending programs is ever in a deadlock. -/
theorem Ordered.no_deadlock (hsvc : svc.Ordered rank holds) (cell : C → V) (ms : List (T × Act B E)) {t u : T}
    (hblocked : BlockedBy (Lib.run svc.step (start cell) ms) t u) :
    ∃ v, Relation.TransGen (BlockedBy (Lib.run svc.step (start cell) ms)) t v ∧
      ∀ x, ¬BlockedBy (Lib.run svc.step (start cell) ms) v x := by
  obtain ⟨l, hwants, howner⟩ := hblocked
  exact (InOrder.run hsvc cell ms).waits_for_free (rank l) t u l (Nat.le_refl _) hwants howner

end Service

end OpxSdi.Lib
