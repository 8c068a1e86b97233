import OpxSdi.Lib.Bits

/-!
# Flags that are reported in pairs

A status word is a set of flags. The flags come in pairs, and the low flag of a pair is tested only when the
high one is clear.
-/

namespace OpxSdi.Lib

inductive Side
  | high | low
  deriving DecidableEq, Repr

namespace Flags

variable {P : Type} {w : Nat}

/-- The word is the set of these flags. -/
def Holds (bit : P → Side → Nat) (word : BitVec w) (flag : P → Side → Prop) : Prop :=
  ∀ i, word.getLsbD i = true ↔ ∃ p s, bit p s = i ∧ flag p s

section

variable (bit : P → Side → Nat) (tested : P → Side → Bool)

def reportPair (status : BitVec w) (p : P) : BitVec w :=
  if tested p .high then status ||| (1 : BitVec w) <<< bit p .high
  else if tested p .low then status ||| (1 : BitVec w) <<< bit p .low
  else status

def report (ps : List P) (status : BitVec w) : BitVec w := ps.foldl (reportPair bit tested) status

end

/-- The flag is tested as raised, and the high flag of its pair does not hide it. -/
def Shows (tested : P → Side → Bool) (ps : List P) (p : P) : Side → Prop
  | .high => p ∈ ps ∧ tested p .high = true
  | .low => p ∈ ps ∧ tested p .high = false ∧ tested p .low = true

variable {bit : P → Side → Nat} {tested : P → Side →
  Bool} {ps : List P} {status : BitVec w} {flag : P → Side → Prop}

theorem shows_cons {p : P} {p' : P} {s : Side} :
    Shows tested (p :: ps) p' s ↔ p' = p ∧ Shows tested [p] p' s ∨ Shows tested ps p' s := by
  cases s <;> simp only [Shows, List.mem_cons, List.not_mem_nil, or_false, or_and_right, and_self_left]

theorem getLsbD_or_one_shiftLeft {n i : Nat} (hn : n < w) :
    (status ||| (1 : BitVec w) <<< n).getLsbD i = true ↔ status.getLsbD i = true ∨ n = i := by
  rw [BitVec.getLsbD_or, getLsbD_one_shiftLeft, Bool.or_eq_true, Bool.and_eq_true, decide_eq_true_eq,
    decide_eq_true_eq]
  refine or_congr_right ⟨fun h => h.2.symm, ?_⟩
  rintro rfl
  exact ⟨hn, rfl⟩

/-- One pair adds the flag of it that shows. -/
theorem getLsbD_reportPair (hbit : ∀ p s, bit p s < w) {p : P} {i : Nat} :
    (reportPair bit tested status p).getLsbD i = true ↔
      status.getLsbD i = true ∨ ∃ s, bit p s = i ∧ Shows tested [p] p s := by
  have hsides : (∃ s, bit p s = i ∧ Shows tested [p] p s) ↔ bit p .high = i ∧ tested p .high = true ∨
      bit p .low = i ∧ tested p .high = false ∧ tested p .low = true := by
    constructor
    · rintro ⟨s, hs, hshows⟩
      cases s with
      | high => exact .inl ⟨hs, hshows.2⟩
      | low => exact .inr ⟨hs, hshows.2⟩
    · rintro (⟨hs, h⟩ | ⟨hs, h⟩)
      · exact ⟨.high, hs, List.mem_singleton_self p, h⟩
      · exact ⟨.low, hs, List.mem_singleton_self p, h⟩
  rw [hsides, reportPair]
  cases hhigh : tested p .high with
  | true =>
      rw [if_pos rfl, getLsbD_or_one_shiftLeft (hbit p .high)]
      simp
  | false =>
      rw [if_neg (by decide)]
      cases hlow : tested p .low with
      | true =>
          rw [if_pos rfl, getLsbD_or_one_shiftLeft (hbit p .low)]
          simp
      | false =>
          rw [if_neg (by decide)]
          simp

/-- A report adds the flags that show to the status, and takes none from it. -/
theorem getLsbD_report (hbit : ∀ p s, bit p s < w) {i : Nat} :
    (report bit tested ps status).getLsbD i = true ↔
    status.getLsbD i = true ∨ ∃ p s, bit p s = i ∧ Shows tested ps p s := by
  induction ps generalizing status with
  | nil =>
      refine (or_iff_left ?_).symm
      rintro ⟨p, s, -, hshows⟩
      cases s <;> exact absurd hshows.1 (List.not_mem_nil)
  | cons p ps ih =>
      rw [report, List.foldl_cons, ← report, ih, getLsbD_reportPair hbit, or_assoc]
      refine or_congr_right ?_
      constructor
      · rintro (⟨s, hs, hshows⟩ | ⟨p', s, hs, hshows⟩)
        · exact ⟨p, s, hs, shows_cons.mpr (.inl ⟨rfl, hshows⟩)⟩
        · exact ⟨p', s, hs, shows_cons.mpr (.inr hshows)⟩
      · rintro ⟨p', s, hs, hshows⟩
        rcases shows_cons.mp hshows with ⟨rfl, hshows⟩ | hshows
        · exact .inl ⟨s, hs, hshows⟩
        · exact .inr ⟨p', s, hs, hshows⟩

/-- When a report is the set of the flags with a property. -/
structure Exact (bit : P → Side → Nat) (tested : P → Side → Bool) (ps : List P) (status : BitVec w)
    (flag : P → Side → Prop) : Prop where
  /-- The status before the report holds no other flag. -/
  prior : ∀ i, status.getLsbD i = true → ∃ p s, bit p s = i ∧ flag p s
  sound : ∀ p s, Shows tested ps p s → flag p s
  complete : ∀ p s, flag p s → status.getLsbD (bit p s) = true ∨ Shows tested ps p s

/-- What a pair contributes is what it has to. -/
structure PairExact (tested prior : Side → Bool) (flag : Side → Prop) : Prop where
  high : tested .high = true → flag .high
  low : tested .high = false → tested .low = true → flag .low
  high_reported : flag .high → prior .high = true ∨ tested .high = true
  low_reported : flag .low → prior .low = true ∨ tested .high = false ∧ tested .low = true

/-- A report is exact iff each pair is, for tests of no pairs but those that are reported. -/
theorem exact_iff (htested : ∀ p ∉ ps, ∀ s, tested p s = false) : Exact bit tested ps status flag ↔
    (∀ i, status.getLsbD i = true → ∃ p s, bit p s = i ∧ flag p s) ∧
    ∀ p, PairExact (tested p) (fun s => status.getLsbD (bit p s)) (flag p) := by
  have hmem : ∀ p s, tested p s = true → p ∈ ps := fun p s h =>
    Classical.byContradiction fun hp => Bool.false_ne_true ((htested p hp s).symm.trans h)
  constructor
  · intro h
    refine ⟨h.prior, fun p => ⟨fun hhigh => h.sound p .high ⟨hmem p _ hhigh, hhigh⟩,
      fun hhigh hlow => h.sound p .low ⟨hmem p _ hlow, hhigh, hlow⟩,
      fun hflag => (h.complete p .high hflag).imp_right And.right,
      fun hflag => (h.complete p .low hflag).imp_right And.right⟩⟩
  · rintro ⟨hprior, hpairs⟩
    refine ⟨hprior, fun p s hshows => ?_, fun p s hflag => ?_⟩
    · cases s with
      | high => exact (hpairs p).high hshows.2
      | low => exact (hpairs p).low hshows.2.1 hshows.2.2
    · cases s with
      | high => exact ((hpairs p).high_reported hflag).imp_right fun h => ⟨hmem p _ h, h⟩
      | low => exact ((hpairs p).low_reported hflag).imp_right fun h => ⟨hmem p _ h.2, h⟩

/-- The bits of a pair: those that are set are asked for, and a low one that is asked for is hidden by its high
one only if it is there before. -/
structure Agrees (asked own prior : Side → Bool) : Prop where
  high : own .high = true → asked .high = true
  low : own .low = true → own .high = false → asked .low = true
  hidden : own .low = true → own .high = true → asked .low = true → prior .low = true

/-- A pair whose bits, and those of a neighbour, are tested if they are read. -/
theorem pairExact_neighbour_iff {read : Bool} {asked own neighbour prior : Side → Bool}
    (hread : ∀ s, asked s = true → read = true) :
    PairExact (fun s => read && (own s || neighbour s)) prior (fun s => asked s = true ∧ own s = true) ↔
      (read = true → Agrees asked own prior ∧ (neighbour .high = true → own .high = true) ∧
        (neighbour .low = true → own .high = true ∨ own .low = true)) := by
  cases read with
  | false =>
      have hnone : ∀ s, asked s ≠ true := fun s h => Bool.false_ne_true (hread s h)
      refine iff_of_true ⟨?_, ?_, ?_, ?_⟩ fun h => absurd h Bool.false_ne_true
      · exact fun h => absurd h Bool.false_ne_true
      · exact fun _ h => absurd h Bool.false_ne_true
      · exact fun h => absurd h.1 (hnone .high)
      · exact fun h => absurd h.1 (hnone .low)
  | true =>
      simp only [Bool.true_and, forall_const]
      constructor
      · intro h
        have hhigh : neighbour .high = true → own .high = true := fun hn => (h.high (by simp [hn])).2
        refine ⟨⟨fun ho => (h.high (by simp [ho])).1, fun hl hh => ?_, fun hl hh ha => ?_⟩, hhigh, fun hn => ?_⟩
        · refine (h.low ?_ (by simp [hl])).1
          simpa [hh] using hhigh
        · refine (h.low_reported ⟨ha, hl⟩).resolve_right fun hnot => ?_
          simp [hh] at hnot
        · by_cases hh : own .high = true
          · exact .inl hh
          · refine .inr (h.low ?_ (by simp [hn])).2
            simpa [hh] using mt hhigh hh
      · rintro ⟨hagrees, hhigh, hlow⟩
        have htested : (own .high || neighbour .high) = own .high := by
          cases hn : neighbour .high with
          | false => exact Bool.or_false _
          | true => rw [hhigh hn]; rfl
        refine ⟨fun h => ?_, fun hh hl => ?_, fun h => .inr (by simp [h.2]), fun h => ?_⟩
        · rw [htested] at h
          exact ⟨hagrees.high h, h⟩
        · rw [htested] at hh
          have ho : own .low = true := by
            rcases Bool.or_eq_true_iff.mp hl with ho | hn
            · exact ho
            · exact (hlow hn).resolve_left (by simp [hh])
          exact ⟨hagrees.low ho hh, ho⟩
        · rw [htested]
          cases hh : own .high with
          | true => exact .inl (hagrees.hidden h.2 hh h.1)
          | false => exact .inr ⟨rfl, by simp [h.2]⟩

theorem pairExact_iff {read : Bool} {asked own prior : Side → Bool}
    (hread : ∀ s, asked s = true → read = true) :
    PairExact (fun s => read && own s) prior (fun s => asked s = true ∧ own s = true) ↔
      (read = true → Agrees asked own prior) := by
  have h := @pairExact_neighbour_iff read asked own (fun _ => false) prior hread
  simp only [Bool.or_false, reduceCtorEq, false_imp_iff, and_true] at h
  exact h

theorem holds_report_iff (hbit : ∀ p s, bit p s < w)
    (hinj : ∀ p s p' s', bit p s = bit p' s' → p = p' ∧ s = s') :
    Holds bit (report bit tested ps status) flag ↔ Exact bit tested ps status flag := by
  simp only [Holds, getLsbD_report hbit]
  constructor
  · intro h
    refine ⟨fun i hi => (h i).mp (.inl hi), fun p s hshows => ?_, fun p s hflag => ?_⟩
    · obtain ⟨p', s', hs, hflag⟩ := (h (bit p s)).mp (.inr ⟨p, s, rfl, hshows⟩)
      obtain ⟨rfl, rfl⟩ := hinj _ _ _ _ hs
      exact hflag
    · refine ((h (bit p s)).mpr ⟨p, s, rfl, hflag⟩).imp_right ?_
      rintro ⟨p', s', hs, hshows⟩
      obtain ⟨rfl, rfl⟩ := hinj _ _ _ _ hs
      exact hshows
  · intro h i
    constructor
    · rintro (hi | ⟨p, s, rfl, hshows⟩)
      · exact h.prior i hi
      · exact ⟨p, s, rfl, h.sound p s hshows⟩
    · rintro ⟨p, s, rfl, hflag⟩
      exact (h.complete p s hflag).imp_right fun hshows => ⟨p, s, rfl, hshows⟩

end Flags

end OpxSdi.Lib
