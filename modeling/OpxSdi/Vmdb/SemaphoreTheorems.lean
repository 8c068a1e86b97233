import Mathlib.Order.Bounds.Basic
import OpxSdi.Lib.Run
import OpxSdi.Vmdb.Semaphore

/-!
# Who asks the database

How many threads may ask the database at once, and when none ever will again. Both follow from one count: the
value of the semaphore, the threads inside, those that have died there and the gives that were lost are together
the opens of masters and the takes that a signal has ended.
-/

namespace OpxSdi.Vmdb

open Lib

theorem one_le_semvmx : 0 + 1 ≤ semvmx := by
  rw [semvmx]
  decide

namespace Semaphore

/-- How often the semaphore has been given by a master or passed by a signal. -/
def permits (s : Semaphore) : Nat := s.opened + s.interrupted

/-- No master opens the database, and no signal comes while a take blocks. -/
def Quiet : SemEvent → Prop
  | .openDb masterf => masterf = false
  | .take _ signal => signal = false
  | _ => True

/-- No thread asks the database, and none ever will, whatever comes but an open of a master or a signal. -/
def Stuck (s : Semaphore) : Prop := ∀ events, (∀ e ∈ events, Quiet e) → (run step s events).inside = ∅

/-! ## One step -/

variable {s : Semaphore} {t : Nat}

theorem semop_give (value : Nat) :
    semop value 1 false = if value + 1 ≤ semvmx then .done (value + 1) else .erange := by
  rw [semop, if_pos (by decide)]
  by_cases h : value + 1 ≤ semvmx
  · rw [if_pos (by omega), if_pos h]
    rfl
  · rw [if_neg (by omega), if_neg h]

/-- A give that would overflow is lost. -/
theorem dbSemGive_eq : s.dbSemGive =
    if s.value + 1 ≤ semvmx then { s with value := s.value + 1 } else { s with lost := s.lost + 1 } := by
  rw [dbSemGive, semop_give]
  by_cases h : s.value + 1 ≤ semvmx
  · rw [if_pos h, if_pos h]
  · rw [if_neg h, if_neg h]

theorem dbSemTake_pos (h : 0 < s.value) (signal : Bool) : s.dbSemTake t signal =
    { s with value := s.value - 1, waiting := s.waiting.erase t, inside := insert t s.inside } := by
  simp only [dbSemTake, semop]
  rw [if_neg (by decide), if_pos (by omega)]
  simp only
  congr 1
  omega

theorem dbSemTake_zero (h : s.value = 0) (signal : Bool) : s.dbSemTake t signal = if signal then
    { s with waiting := s.waiting.erase t, inside := insert t s.inside, interrupted := s.interrupted + 1 } else s := by
  simp only [dbSemTake, semop]
  rw [if_neg (by decide), if_neg (by omega)]
  cases signal <;> rfl

/-- The threads that wait are not inside, and those that have been let in are accounted for. -/
structure Counted (s : Semaphore) : Prop where
  apart : Disjoint s.waiting s.inside
  count : s.value + s.inside.card + s.died + s.lost = s.permits

theorem Counted.created : created.Counted := ⟨Finset.disjoint_empty_right ∅, rfl⟩

theorem Counted.step (h : s.Counted) (e : SemEvent) : (s.step e).Counted := by
  obtain ⟨hapart, hcount⟩ := h
  simp only [permits] at hcount
  cases e with
  | openDb masterf =>
      cases masterf with
      | false => exact ⟨hapart, hcount⟩
      | true =>
          simp only [Semaphore.step, ↓reduceIte, dbSemGive_eq]
          split
          · exact ⟨hapart, by simp only [permits]; omega⟩
          · exact ⟨hapart, by simp only [permits]; omega⟩
  | query t =>
      simp only [Semaphore.step]
      split
      · exact ⟨hapart, hcount⟩
      · rename_i ht
        exact ⟨Finset.disjoint_insert_left.mpr ⟨ht, hapart⟩, hcount⟩
  | take t signal =>
      simp only [Semaphore.step]
      split
      · rename_i ht
        have hcard := Finset.card_insert_of_notMem (Finset.disjoint_left.mp hapart ht)
        have hnew : Disjoint (s.waiting.erase t) (insert t s.inside) :=
          Finset.disjoint_insert_right.mpr ⟨Finset.notMem_erase t _, hapart.mono_left (Finset.erase_subset t _)⟩
        obtain hzero | hpos := Nat.eq_zero_or_pos s.value
        · rw [dbSemTake_zero hzero]
          cases signal with
          | false => exact ⟨hapart, hcount⟩
          | true => exact ⟨hnew, by simp [permits, hcard]; omega⟩
        · rw [dbSemTake_pos hpos]
          exact ⟨hnew, by simp [permits, hcard]; omega⟩
      · exact ⟨hapart, hcount⟩
  | give t =>
      simp only [Semaphore.step]
      split
      · rename_i ht
        have hcard := Finset.card_erase_add_one ht
        have hnew : Disjoint s.waiting (s.inside.erase t) := hapart.mono_right (Finset.erase_subset t _)
        rw [dbSemGive_eq]
        split
        · exact ⟨hnew, by simp only [permits]; omega⟩
        · exact ⟨hnew, by simp only [permits]; omega⟩
      · exact ⟨hapart, hcount⟩
  | die t =>
      simp only [Semaphore.step]
      split
      · rename_i ht
        have hcard := Finset.card_erase_add_one ht
        have hnew : Disjoint s.waiting (s.inside.erase t) := hapart.mono_right (Finset.erase_subset t _)
        exact ⟨hnew, by simp only [permits]; omega⟩
      · exact ⟨hapart, hcount⟩

/-! ## A semaphore that nobody will give -/

/-- While nobody is inside and the semaphore is 0, a quiet event lets nobody in. -/
theorem shut_step {s : Semaphore} (h : s.value = 0 ∧ s.inside = ∅) {e : SemEvent} (he : Quiet e) :
    (s.step e).value = 0 ∧ (s.step e).inside = ∅ := by
  obtain ⟨hzero, hinside⟩ := h
  have hnotin : ∀ t, t ∉ s.inside := fun t => hinside ▸ Finset.notMem_empty t
  cases e with
  | openDb masterf =>
      obtain rfl : masterf = false := he
      exact ⟨hzero, hinside⟩
  | query t =>
      rw [step, if_neg (hnotin t)]
      exact ⟨hzero, hinside⟩
  | take t signal =>
      obtain rfl : signal = false := he
      rw [step, dbSemTake_zero hzero]
      split <;> exact ⟨hzero, hinside⟩
  | give t =>
      rw [step, if_neg (hnotin t)]
      exact ⟨hzero, hinside⟩
  | die t =>
      rw [step, if_neg (hnotin t)]
      exact ⟨hzero, hinside⟩

theorem shut_stuck (h : s.value = 0 ∧ s.inside = ∅) : s.Stuck := by
  intro events hquiet
  have halong : Along step (fun _ e => Quiet e) s events := by
    refine (along_iff _).mpr fun pre e post hsplit => hquiet e ?_
    rw [hsplit]
    exact List.mem_append_right pre List.mem_cons_self
  exact (run_inv (I := fun s : Semaphore => s.value = 0 ∧ s.inside = ∅) (fun _ _ hs he => shut_step hs he) h halong).2

/-- While the semaphore is positive, a thread that asks gets in. -/
theorem Stuck.shut (h : s.Stuck) : s.value = 0 ∧ s.inside = ∅ := by
  have hinside : s.inside = ∅ := h [] fun _ he => absurd he List.not_mem_nil
  refine ⟨Nat.eq_zero_of_not_pos fun hpos => ?_, hinside⟩
  have hrun := h [.query 0, .take 0 false] (by
    intro e he
    rcases List.mem_cons.mp he with rfl | he
    · exact trivial
    · rcases List.mem_singleton.mp he with rfl
      exact rfl)
  have hquery : s.step (.query 0) = { s with waiting := insert 0 s.waiting } :=
    if_neg (hinside ▸ Finset.notMem_empty 0)
  have hasking : 0 < ({ s with waiting := insert 0 s.waiting } : Semaphore).value := hpos
  rw [run_cons, run_cons, run_nil, hquery, step, if_pos (Finset.mem_insert_self ..), dbSemTake_pos hasking] at hrun
  exact absurd hrun (Finset.insert_ne_empty 0 s.inside)

theorem Counted.stuck_iff (h : s.Counted) : s.Stuck ↔ s.died + s.lost = s.permits := by
  have hcount := h.count
  constructor
  · intro hstuck
    obtain ⟨hzero, hinside⟩ := hstuck.shut
    rw [hzero, hinside, Finset.card_empty] at hcount
    omega
  · intro hdied
    exact shut_stuck ⟨by omega, Finset.card_eq_zero.mp (by omega)⟩

/-! ## Runs -/

def runSem (events : List SemEvent) : Semaphore := run step created events

theorem counted_runSem (events : List SemEvent) : (runSem events).Counted :=
  run_inv (I := Counted) (C := fun _ _ => True) (fun _ e h _ => h.step e) .created
    ((along_iff _).mpr fun _ _ _ _ => trivial)

/-- All threads below `n` are inside, `m` of them by what masters have given and the others by signals. -/
def crowd (m i : Nat) : Semaphore := ⟨0, ∅, Finset.range (m + i), 0, m, i, 0⟩

theorem crowd_signal (m i : Nat) : run step (crowd m i) [.query (m + i), .take (m + i) true] = crowd m (i + 1) := by
  have hquery : (crowd m i).step (.query (m + i)) = { crowd m i with waiting := insert (m + i) ∅ } :=
    if_neg Finset.notMem_range_self
  rw [run_cons, run_cons, run_nil, hquery, step, if_pos (Finset.mem_insert_self ..), dbSemTake_zero rfl, if_pos rfl]
  simp only [crowd, Finset.erase_insert (Finset.notMem_empty _), ← Nat.add_assoc, Finset.range_add_one]

theorem crowd_open (m : Nat) : run step (crowd m 0) [.openDb true, .query m, .take m false] = crowd (m + 1) 0 := by
  have hopen : (crowd m 0).step (.openDb true) = { crowd m 0 with value := 1, opened := m + 1 } := by
    simp only [step, ↓reduceIte, dbSemGive_eq, crowd, one_le_semvmx]
  have hinside : (crowd m 0).inside = Finset.range m := rfl
  rw [run_cons, run_cons, run_cons, run_nil, hopen, step, if_neg (by rw [hinside]; exact Finset.notMem_range_self),
    step, if_pos (Finset.mem_insert_self ..), dbSemTake_pos Nat.one_pos]
  simp only [crowd, Finset.erase_insert (Finset.notMem_empty _), Nat.add_zero, Finset.range_add_one]

theorem exists_crowd (m i : Nat) : ∃ events, runSem events = crowd m i := by
  induction i with
  | zero =>
      induction m with
      | zero => exact ⟨[], rfl⟩
      | succ m ih =>
          obtain ⟨events, h⟩ := ih
          exact ⟨events ++ _, by rw [runSem, run_append, ← runSem, h, crowd_open]⟩
  | succ i ih =>
      obtain ⟨events, h⟩ := ih
      exact ⟨events ++ _, by rw [runSem, run_append, ← runSem, h, crowd_signal]⟩

/-- As many threads may ask the database at once as masters have opened it and takes have been interrupted. -/
theorem isGreatest_inside (m i : Nat) : IsGreatest
    {n | ∃ events, (runSem events).opened = m ∧ (runSem events).interrupted = i ∧ (runSem events).inside.card = n}
    (m + i) := by
  constructor
  · obtain ⟨events, h⟩ := exists_crowd m i
    exact ⟨events, by rw [h, crowd], by rw [h, crowd], by rw [h, crowd, Finset.card_range]⟩
  · rintro n ⟨events, rfl, rfl, rfl⟩
    have := (counted_runSem events).count
    rw [permits] at this
    omega

/-- The database is shut for good if and only if all that masters and signals have let in have died inside or have
been lost as gives. -/
theorem stuck_iff_died (events : List SemEvent) :
    (runSem events).Stuck ↔ (runSem events).died + (runSem events).lost = (runSem events).permits :=
  (counted_runSem events).stuck_iff

end Semaphore

end OpxSdi.Vmdb
