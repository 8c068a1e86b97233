import OpxSdi.Media.Lemmas.TxControl
import OpxSdi.Media.Qsa

/-!
# What a reset and a read of the identification do

A reset takes the bus of the reset pins, reads them and writes them. It stops at the first of these
operations that fails, and so does a read of the identification.
-/

namespace OpxSdi.Media

open Lib Device

variable {d d' : State} {e : Errno} {is : List Seen} {w : Device PinGroup Errno (Cage × List Seen)}

namespace Qsfp

variable {q : Qsfp} {reset : Bool} {rc : Except Errno Unit}

/-! ## Resets -/

/-- The value that a reset writes -/
def resetValue (q : Qsfp) (reset : Bool) (c : Cage) : BitVec 32 :=
  stdBit (c.pins .modReset) q.modResetBitmask reset

/-- The step takes the bus of the reset pins, makes `n` operations and gives the bus back. It leaves the
modules and the private data as they were. -/
structure Resets (n : Nat) (d d' : State) : Prop where
  fault_eq : d'.fault = d.fault
  held_eq : d'.held = d.held
  time_eq : d'.time = d.time + n
  priv_eq : d'.hw.priv = d.hw.priv
  slaves_eq : d'.hw.slaves = d.hw.slaves

theorem Resets.released {n : Nat} {pins : PinGroup → BitVec 32} {log : List Event}
    (hfree : d.held .modReset = false) :
    Resets n d { d with
      held := Function.update (Function.update d.held .modReset true) .modReset false
      time := d.time + n
      hw := { d.hw with pins, log } } := by
  refine ⟨rfl, ?_, rfl, rfl, rfl⟩
  rw [Function.update_idem, ← hfree, Function.update_eq_self]

theorem ok_attempt_resetHeld : Ok (attempt (q.resetHeld reset)) (d.recorded is) rc w ↔
    (d.Clear 2 ∧ rc = .ok () ∧
      w = recorded { d with
        hw := { d.hw with pins := Function.update d.hw.pins .modReset (q.resetValue reset d.hw) }
        time := d.time + 1 + 1 } (is ++ [.resetWrite (q.resetValue reset d.hw) rc])) ∨
    ∃ k < 2, ∃ e, d.FailsAt k e ∧ rc = .error e ∧ w = recorded { d with time := d.time + (k + 1) }
      (if k = 1 then is ++ [.resetWrite (q.resetValue reset d.hw) rc] else is) := by
  rw [ok_attempt]
  refine or_congr ?_ ?_
  · simp only [resetHeld, ok_bind, ok_unobserved, ok_pinGroupReadLevel]
    constructor
    · rintro ⟨u, rfl, v, d1, ⟨d2, ⟨hread, rfl, rfl⟩, rfl⟩, h⟩
      obtain ⟨d3, hwrite, rfl⟩ := ok_observed.mp h
      obtain ⟨hfault, rfl⟩ := ok_pinGroupWriteLevel.mp hwrite
      exact ⟨clear_two.mpr ⟨hread, hfault⟩, rfl, rfl⟩
    · rintro ⟨hclear, rfl, rfl⟩
      obtain ⟨hread, hfault⟩ := clear_two.mp hclear
      exact ⟨(), rfl, _, _, ⟨_, ⟨hread, rfl, rfl⟩, rfl⟩,
        ok_observed.mpr ⟨_, ok_pinGroupWriteLevel.mpr ⟨hfault, rfl⟩, rfl⟩⟩
  · simp only [resetHeld, err_bind, err_unobserved, ok_unobserved, ok_pinGroupReadLevel, err_pinGroupReadLevel]
    constructor
    · rintro ⟨e, rfl, ⟨d1, ⟨hread, rfl⟩, rfl⟩ | ⟨v, d1, ⟨d2, ⟨hread, rfl, rfl⟩, rfl⟩, h⟩⟩
      · exact ⟨0, by decide, e, failsAt_zero.mpr hread, rfl, rfl⟩
      · obtain ⟨d3, hwrite, rfl⟩ := err_observed.mp h
        obtain ⟨hfault, rfl⟩ := err_pinGroupWriteLevel.mp hwrite
        exact ⟨1, by decide, e, ⟨clear_one.mpr hread, hfault⟩, rfl, rfl⟩
    · rintro ⟨k, hk, e, ⟨hclear, hfault⟩, rfl, rfl⟩
      obtain rfl | rfl : k = 0 ∨ k = 1 := by omega
      · exact ⟨e, rfl, .inl ⟨_, ⟨hfault, rfl⟩, rfl⟩⟩
      · exact ⟨e, rfl, .inr ⟨_, _, ⟨_, ⟨clear_one.mp hclear, rfl, rfl⟩, rfl⟩,
          err_observed.mpr ⟨_, err_pinGroupWriteLevel.mpr ⟨hfault, rfl⟩, rfl⟩⟩⟩

theorem clear_acquired {n : Nat} {g : PinGroup} :
    d.Clear (n + 1) ↔ d.fault d.time = none ∧ (d.acquired g).Clear n := by
  rw [Nat.add_comm n, @clear_add _ _ _ d 1 n d.hw, clear_one]
  exact Iff.rfl

theorem failsAt_acquired {k : Nat} {g : PinGroup} :
    d.FailsAt (k + 1) e ↔ d.fault d.time = none ∧ (d.acquired g).FailsAt k e := by
  rw [@failsAt_succ _ _ _ d e k d.hw, clear_one]
  exact Iff.rfl

theorem ok_attempt_moduleReset : Ok (attempt (q.moduleReset reset)) (d.recorded is) rc w ↔
    (∃ e, d.FailsAt 0 e ∧ rc = .error e ∧ w = recorded { d with time := d.time + 1 } is) ∨
    d.AcquiresAt .modReset ∧
      ∃ w1, Ok (attempt (q.resetHeld reset)) ((d.acquired .modReset).recorded is) rc w1 ∧
        w = (State.released w1.bare .modReset).recorded w1.hw.2 := by
  have hrelease : ∀ {d1 : Device PinGroup Errno (Cage × List Seen)} {u : Unit},
      Ok (unobserved (pinGroupReleaseBus .modReset)) d1 u w ↔
        w = (State.released d1.bare .modReset).recorded d1.hw.2 := by
    intro d1 u
    rw [show d1 = d1.bare.recorded d1.hw.2 from rfl, ok_unobserved]
    simp only [ok_pinGroupReleaseBus]
    exact exists_eq_left
  rw [ok_attempt, moduleReset]
  constructor
  · rintro (⟨u, rfl, h⟩ | ⟨e, rfl, h⟩)
    · obtain ⟨u1, w1, hacquire, h⟩ := ok_bind.mp h
      obtain ⟨d1, hacq, rfl⟩ := ok_unobserved.mp hacquire
      obtain ⟨hfault, hheld, rfl⟩ := ok_pinGroupAcquireBus.mp hacq
      obtain ⟨rc, w2, hbody, h⟩ := ok_bind.mp h
      obtain ⟨u2, w3, hend, h⟩ := ok_bind.mp h
      obtain ⟨rfl, rfl⟩ := ok_ofResult.mp h
      exact .inr ⟨⟨hfault, hheld⟩, w2, hbody, hrelease.mp hend⟩
    · rcases err_bind.mp h with hacquire | ⟨u1, w1, hacquire, h⟩
      · obtain ⟨d1, hacq, rfl⟩ := err_unobserved.mp hacquire
        obtain ⟨hfault, rfl⟩ := err_pinGroupAcquireBus.mp hacq
        exact .inl ⟨e, failsAt_zero.mpr hfault, rfl, rfl⟩
      · obtain ⟨d1, hacq, rfl⟩ := ok_unobserved.mp hacquire
        obtain ⟨hfault, hheld, rfl⟩ := ok_pinGroupAcquireBus.mp hacq
        rcases err_bind.mp h with hbody | ⟨rc, w2, hbody, h⟩
        · exact absurd hbody err_attempt
        · rcases err_bind.mp h with hend | ⟨u2, w3, hend, h⟩
          · cases hend
          · cases rc with
            | ok u3 => cases h
            | error e' =>
                obtain ⟨rfl, rfl⟩ := err_fail.mp h
                exact .inr ⟨⟨hfault, hheld⟩, w2, hbody, hrelease.mp hend⟩
  · rintro (⟨e, hfails, rfl, rfl⟩ | ⟨⟨hfault, hheld⟩, w1, hbody, rfl⟩)
    · exact .inr ⟨e, rfl, err_bind.mpr (.inl (err_unobserved.mpr
        ⟨_, err_pinGroupAcquireBus.mpr ⟨failsAt_zero.mp hfails, rfl⟩, rfl⟩))⟩
    · have hacquire : Ok (unobserved (pinGroupAcquireBus .modReset)) (d.recorded is) ()
          ((d.acquired .modReset).recorded is) :=
        ok_unobserved.mpr ⟨_, ok_pinGroupAcquireBus.mpr ⟨hfault, hheld, rfl⟩, rfl⟩
      cases rc with
      | ok u =>
          exact .inl ⟨u, rfl, ok_bind.mpr ⟨(), _, hacquire, ok_bind.mpr ⟨_, _, hbody,
            ok_bind.mpr ⟨(), _, hrelease.mpr rfl, ok_ofResult.mpr ⟨rfl, rfl⟩⟩⟩⟩⟩
      | error e =>
          exact .inr ⟨e, rfl, err_bind.mpr (.inr ⟨(), _, hacquire, err_bind.mpr (.inr ⟨_, _, hbody,
            err_bind.mpr (.inr ⟨(), _, hrelease.mpr rfl, err_fail.mpr ⟨rfl, rfl⟩⟩)⟩)⟩)⟩

/-- What a reset does that starts on `d` and ends with `rc`; `js` is what is recorded of it. -/
structure ResetRun (q : Qsfp) (reset : Bool) (d d' : State) (rc : Except Errno Unit) (js : List Seen) : Prop where
  resets : Resets (made d.fault d.time 3) d d'
  free : d.Clear 1 → d.held .modReset = false
  ok_iff : rc = .ok () ↔ d.Clear 3
  pins_ok : rc = .ok () → d'.hw.pins = Function.update d.hw.pins .modReset (q.resetValue reset d.hw)
  pins_error : rc ≠ .ok () → d'.hw.pins = d.hw.pins
  written : d.Clear 2 → js = [.resetWrite (q.resetValue reset d.hw) rc]
  unwritten : ¬d.Clear 2 → js = []

theorem not_clear_of_failsAt {k n : Nat} (h : d.FailsAt k e) (hk : k < n) : ¬d.Clear n := by
  intro hclear
  have hfault := hclear k hk
  rw [h.2] at hfault
  cases hfault

/-- A reset whose operation `k` fails. -/
theorem ResetRun.of_failsAt {k : Nat} {js : List Seen} (hfails : d.FailsAt k e) (hk : k < 3)
    (hresets : Resets (k + 1) d d') (hpins : d'.hw.pins = d.hw.pins)
    (hfree : 0 < k → d.held .modReset = false)
    (hjs : js = if k = 2 then [.resetWrite (q.resetValue reset d.hw) (.error e)] else []) :
    q.ResetRun reset d d' (.error e) js := by
  refine ⟨?_, ?_, ?_, (fun h => nomatch h), fun _ => hpins, ?_, ?_⟩
  · rwa [hfails.made_eq hk]
  · intro hclear
    refine hfree (Nat.pos_of_ne_zero ?_)
    rintro rfl
    exact not_clear_of_failsAt hfails Nat.one_pos hclear
  · exact iff_of_false (fun h => nomatch h) (not_clear_of_failsAt hfails hk)
  · intro hclear
    rw [hjs, if_pos]
    by_contra hne
    exact not_clear_of_failsAt hfails (by omega) hclear
  · intro hclear
    rw [hjs, if_neg]
    rintro rfl
    exact hclear hfails.1

theorem reset_run (h : Ok (attempt (q.moduleReset reset)) (d.recorded is) rc w) :
    ∃ d' js, w = d'.recorded (is ++ js) ∧ q.ResetRun reset d d' rc js := by
  rcases ok_attempt_moduleReset.mp h with ⟨e, hfails, rfl, rfl⟩ | ⟨⟨hfault, hfree⟩, w1, hbody, rfl⟩
  · refine ⟨{ d with time := d.time + 1 }, [], ?_, .of_failsAt hfails (by decide) ⟨rfl, rfl, rfl, rfl, rfl⟩ rfl
      (fun h => absurd h (by decide)) rfl⟩
    rw [List.append_nil]
  · rcases ok_attempt_resetHeld.mp hbody with ⟨hclear, rfl, rfl⟩ | ⟨k, hk, e, hfails, rfl, rfl⟩
    · have hclear := clear_acquired.mpr ⟨hfault, hclear⟩
      refine ⟨_, _, rfl, ?_, fun _ => hfree, iff_of_true rfl hclear, fun _ => rfl,
        fun h => absurd rfl h, fun _ => rfl, fun h => absurd (hclear.mono (by decide)) h⟩
      rw [hclear.made_eq]
      exact .released hfree
    · have hfails := failsAt_acquired.mpr ⟨hfault, hfails⟩
      obtain rfl | rfl : k = 0 ∨ k = 1 := by omega
      · refine ⟨State.released { d.acquired .modReset with time := d.time + 1 + 1 } .modReset, [], ?_,
          .of_failsAt hfails (by decide) (.released hfree) rfl (fun _ => hfree) rfl⟩
        rw [List.append_nil]
        rfl
      · exact ⟨_, _, rfl, .of_failsAt hfails (by decide) (.released hfree) rfl (fun _ => hfree) rfl⟩

/-- A reset returns unless it waits for the bus of the reset pins. -/
theorem reset_returns (q : Qsfp) (reset : Bool) (is : List Seen) (hfree : d.held .modReset = false) :
    ∃ rc w, Ok (attempt (q.moduleReset reset)) (d.recorded is) rc w := by
  rcases d.clear_or_failsAt 3 with hclear | ⟨k, hk, e, hfails⟩
  · obtain ⟨hfault, hclear⟩ := clear_acquired.mp hclear
    exact ⟨.ok (), _, ok_attempt_moduleReset.mpr (.inr ⟨⟨hfault, hfree⟩, _,
      ok_attempt_resetHeld.mpr (.inl ⟨hclear, rfl, rfl⟩), rfl⟩)⟩
  · cases k with
    | zero => exact ⟨.error e, _, ok_attempt_moduleReset.mpr (.inl ⟨e, hfails, rfl, rfl⟩)⟩
    | succ k =>
        obtain ⟨hfault, hfails⟩ := failsAt_acquired.mp hfails
        exact ⟨.error e, _, ok_attempt_moduleReset.mpr (.inr ⟨⟨hfault, hfree⟩, _,
          ok_attempt_resetHeld.mpr (.inr ⟨k, Nat.lt_of_succ_lt_succ hk, e, hfails, rfl, rfl⟩), rfl⟩)⟩

/-! ## Reads of the identification -/

/-- The identification in the memory of the module -/
def oui (q : Qsfp) (c : Cage) : List Byte := [64, 65, 66].map (c.slaves q.i2cAddr).read

/-- The read returns, and it succeeds if none of its three transactions fails. -/
theorem ouiRead_run (q : Qsfp) (d : State) (is : List Seen) : ∃ rc,
    Ok (attempt (observed (fun c => Seen.ouiRead (c.pins .modReset)) q.readQsa28Oui)) (d.recorded is) rc
      ((d.passed (made d.fault d.time 3) d.hw.slaves).recorded (is ++ [.ouiRead (d.hw.pins .modReset) rc])) ∧
    (rc = .ok (q.oui d.hw) ↔ d.Clear 3) ∧ (¬d.Clear 3 → ∃ e, rc = .error e) := by
  have hrun : q.readQsa28Oui = (readBurst qsa28OuiOffset qsa28OuiLen).run q.i2cAddr :=
    (readBurst_run qsa28OuiLen).symm
  have hmem : ∀ k, Function.update d.hw.slaves q.i2cAddr
      ((readBurst qsa28OuiOffset qsa28OuiLen).mem k (d.hw.slaves q.i2cAddr)) = d.hw.slaves := by
    intro k
    rw [readBurst_mem, Function.update_eq_self]
  rcases d.clear_or_failsAt 3 with hclear | ⟨k, hk, e, hfails⟩
  · refine ⟨.ok (q.oui d.hw), ok_attempt.mpr (.inl ⟨_, rfl, ok_observed.mpr ⟨_, ?_, rfl⟩⟩),
      iff_of_true rfl hclear, fun h => absurd hclear h⟩
    rw [hrun, (readBurst qsa28OuiOffset qsa28OuiLen).ok_iff, readBurst_size, hclear.made_eq, hmem]
    exact ⟨hclear, rfl, rfl⟩
  · refine ⟨.error e, ok_attempt.mpr (.inr ⟨_, rfl, err_observed.mpr ⟨_, ?_, rfl⟩⟩),
      iff_of_false (fun h => nomatch h) (not_clear_of_failsAt hfails hk), fun _ => ⟨e, rfl⟩⟩
    rw [hrun, (readBurst qsa28OuiOffset qsa28OuiLen).err_iff, readBurst_size, hfails.made_eq hk]
    refine ⟨k, hk, hfails, ?_⟩
    rw [hmem]

end Qsfp

/-! ## Selections that fail -/

/-- The acquisition of the bus of a pin group fails, or else the write after it. -/
def State.TakeFails (d : State) (g : PinGroup) : Prop :=
  d.fault d.time ≠ none ∨ d.held g = false ∧ d.fault (d.time + 1) ≠ none

namespace Selection

variable {s : Selection}

/-- The selection that starts now returns an error. -/
def FailsFrom (s : Selection) (d : State) : Prop :=
  s.muxSelHdl = true ∧ d.TakeFails .muxSel ∨
  (s.muxSelHdl = true → d.held .muxSel = false) ∧ d.Clear (if s.muxSelHdl then 2 else 0) ∧
    s.modSelHdl = true ∧ State.TakeFails (d.after (if s.muxSelHdl then 2 else 0) d.hw) .modSel

theorem err_release_fail {g : PinGroup} {e' : Errno} :
    Err (pinGroupReleaseBus g >>= fun _ => (fail e' : M Unit)) d e d' ↔ e = e' ∧ d' = d.released g := by
  rw [err_bind]
  constructor
  · rintro (h | ⟨u, d1, hrelease, h⟩)
    · cases h
    · obtain rfl := ok_pinGroupReleaseBus.mp hrelease
      exact err_fail.mp h
  · rintro ⟨rfl, rfl⟩
    exact .inr ⟨(), _, ok_pinGroupReleaseBus.mpr rfl, err_fail.mpr ⟨rfl, rfl⟩⟩

theorem ok_acquire {g : PinGroup} (hfault : d.fault d.time = none) (hheld : d.held g = false) :
    Ok (pinGroupAcquireBus g) d () (d.acquired g) :=
  ok_pinGroupAcquireBus.mpr ⟨hfault, hheld, rfl⟩

theorem err_selectMux (h : Err s.selectMux d e d') :
    s.muxSelHdl = true ∧ d.TakeFails .muxSel ∧ d'.hw.pins = d.hw.pins := by
  rw [selectMux] at h
  cases hmux : s.muxSelHdl with
  | false =>
      rw [hmux] at h
      exact absurd h err_pure
  | true =>
      rw [hmux, if_pos rfl] at h
      rcases err_bind.mp h with hacquire | ⟨u, d1, hacquire, h⟩
      · obtain ⟨hfault, rfl⟩ := err_pinGroupAcquireBus.mp hacquire
        exact ⟨rfl, .inl (by rw [hfault]; exact Option.some_ne_none e), rfl⟩
      · obtain ⟨hfault, hheld, rfl⟩ := ok_pinGroupAcquireBus.mp hacquire
        rcases err_attempt_bind.mp h with ⟨u', d2, -, h⟩ | ⟨e', d2, hwrite, h⟩
        · exact absurd h err_pure
        · obtain ⟨hfault', rfl⟩ := err_pinGroupWriteLevel.mp hwrite
          obtain ⟨rfl, rfl⟩ := err_release_fail.mp h
          exact ⟨rfl, .inr ⟨hheld, by rw [hfault']; exact Option.some_ne_none e⟩, rfl⟩

theorem selectMux_fails (hmux : s.muxSelHdl = true) (h : d.TakeFails .muxSel) : ∃ e d', Err s.selectMux d e d' := by
  rw [selectMux, hmux, if_pos rfl]
  cases hfault : d.fault d.time with
  | some e => exact ⟨e, _, err_bind.mpr (.inl (err_pinGroupAcquireBus.mpr ⟨hfault, rfl⟩))⟩
  | none =>
      rcases h with h | ⟨hheld, h⟩
      · exact absurd hfault h
      · obtain ⟨e, hfault'⟩ := Option.ne_none_iff_exists'.mp h
        exact ⟨e, _, err_bind.mpr (.inr ⟨(), _, ok_acquire hfault hheld, err_attempt_bind.mpr
          (.inr ⟨e, _, err_pinGroupWriteLevel.mpr ⟨hfault', rfl⟩, err_release_fail.mpr ⟨rfl, rfl⟩⟩)⟩)⟩

theorem err_releaseMux_bind {f : M Unit} :
    Err (s.releaseMux >>= fun _ => f) d e d' ↔ Err f (if s.muxSelHdl then d.released .muxSel else d) e d' := by
  rw [releaseMux, err_bind]
  cases s.muxSelHdl with
  | false =>
      constructor
      · rintro (h | ⟨u, d1, h, hf⟩)
        · cases h
        · cases h
          exact hf
      · exact fun hf => .inr ⟨(), d, rfl, hf⟩
  | true =>
      constructor
      · rintro (h | ⟨u, d1, h, hf⟩)
        · cases h
        · cases h
          exact hf
      · exact fun hf => .inr ⟨(), _, rfl, hf⟩

theorem err_selectMod (h : Err s.selectMod d e d') :
    s.modSelHdl = true ∧ d.TakeFails .modSel ∧ d'.hw.pins = d.hw.pins := by
  rw [selectMod] at h
  cases hmod : s.modSelHdl with
  | false =>
      rw [hmod] at h
      exact absurd h err_pure
  | true =>
      rw [hmod, if_pos rfl] at h
      rcases err_attempt_bind.mp h with ⟨u, d1, hacquire, h⟩ | ⟨e', d1, hacquire, h⟩
      · obtain ⟨hfault, hheld, rfl⟩ := ok_pinGroupAcquireBus.mp hacquire
        rcases err_attempt_bind.mp h with ⟨u', d2, -, h⟩ | ⟨e', d2, hwrite, h⟩
        · exact absurd h err_pure
        · obtain ⟨hfault', rfl⟩ := err_pinGroupWriteLevel.mp hwrite
          obtain ⟨rfl, rfl⟩ := err_release_fail.mp (err_releaseMux_bind.mp h)
          refine ⟨rfl, .inr ⟨hheld, by rw [hfault']; exact Option.some_ne_none e⟩, ?_⟩
          split <;> rfl
      · obtain ⟨hfault, rfl⟩ := err_pinGroupAcquireBus.mp hacquire
        obtain ⟨rfl, rfl⟩ := err_fail.mp (err_releaseMux_bind.mp h)
        refine ⟨rfl, .inl (by rw [hfault]; exact Option.some_ne_none e), ?_⟩
        split <;> rfl

theorem selectMod_fails (hmod : s.modSelHdl = true) (h : d.TakeFails .modSel) : ∃ e d', Err s.selectMod d e d' := by
  rw [selectMod, hmod, if_pos rfl]
  cases hfault : d.fault d.time with
  | some e =>
      exact ⟨e, _, err_attempt_bind.mpr (.inr ⟨e, _, err_pinGroupAcquireBus.mpr ⟨hfault, rfl⟩,
        err_releaseMux_bind.mpr (err_fail.mpr ⟨rfl, rfl⟩)⟩)⟩
  | none =>
      rcases h with h | ⟨hheld, h⟩
      · exact absurd hfault h
      · obtain ⟨e, hfault'⟩ := Option.ne_none_iff_exists'.mp h
        exact ⟨e, _, err_attempt_bind.mpr (.inl ⟨(), _, ok_acquire hfault hheld, err_attempt_bind.mpr
          (.inr ⟨e, _, err_pinGroupWriteLevel.mpr ⟨hfault', rfl⟩,
            err_releaseMux_bind.mpr (err_release_fail.mpr ⟨rfl, rfl⟩)⟩)⟩)⟩

/-- A selection that fails leaves the reset pins as they are. -/
theorem err_moduleSelect (h : Err s.moduleSelect d e d') :
    s.FailsFrom d ∧ d'.hw.pins .modReset = d.hw.pins .modReset := by
  rcases err_bind.mp h with hmux | ⟨u, d1, hmux, h⟩
  · obtain ⟨hhdl, htake, hpins⟩ := err_selectMux hmux
    exact ⟨.inl ⟨hhdl, htake⟩, congrFun hpins _⟩
  · obtain ⟨hfree, hclear, rfl⟩ := s.ok_selectMux.mp hmux
    rcases err_bind.mp h with hmod | ⟨u', d2, -, h⟩
    · obtain ⟨hhdl, htake, hpins⟩ := err_selectMod hmod
      refine ⟨.inr ⟨hfree, hclear, hhdl, ?_⟩, ?_⟩
      · rwa [State.TakeFails, takenIf_time, takenIf_fault, takenIf_held _ (by decide)] at htake
      · rw [hpins]
        cases s.muxSelHdl <;> rfl
    · cases h

theorem moduleSelect_fails (h : s.FailsFrom d) : ∃ e d', Err s.moduleSelect d e d' := by
  rcases h with ⟨hhdl, htake⟩ | ⟨hfree, hclear, hhdl, htake⟩
  · obtain ⟨e, d', herr⟩ := selectMux_fails hhdl htake
    exact ⟨e, d', err_bind.mpr (.inl herr)⟩
  · have htake : State.TakeFails (takenIf s.muxSelHdl d .muxSel s.muxSelValue) .modSel := by
      rwa [State.TakeFails, takenIf_time, takenIf_fault, takenIf_held _ (by decide)]
    obtain ⟨e, d', herr⟩ := selectMod_fails hhdl htake
    exact ⟨e, d', err_bind.mpr (.inr ⟨(), _, s.ok_selectMux.mpr ⟨hfree, hclear, rfl⟩,
      err_bind.mpr (.inl herr)⟩)⟩

theorem FailsFrom.not_selectsAt (h : s.FailsFrom d) : ¬s.SelectsAt d := by
  rintro ⟨⟨hmuxfree, hmodfree⟩, hclear⟩
  rw [ops] at hclear
  rcases h with ⟨hhdl, hfault | ⟨-, hfault⟩⟩ | ⟨-, -, hhdl, hfault | ⟨-, hfault⟩⟩
  · rw [hhdl] at hclear
    exact hfault (hclear 0 (by rw [if_pos rfl]; omega))
  · rw [hhdl] at hclear
    exact hfault (hclear 1 (by rw [if_pos rfl]; omega))
  · rw [hhdl] at hclear
    exact hfault (hclear (if s.muxSelHdl then 2 else 0) (by simp))
  · rw [hhdl] at hclear
    exact hfault (hclear ((if s.muxSelHdl then 2 else 0) + 1) (by simp))

end Selection

end OpxSdi.Media
