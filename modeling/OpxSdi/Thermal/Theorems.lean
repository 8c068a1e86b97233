import Mathlib.Data.Fintype.Prod
import OpxSdi.Lib.Leaves
import OpxSdi.Lib.Run
import OpxSdi.Lib.WriteLog
import OpxSdi.Thermal.Sensors

/-!
# Thresholds that are remembered as they were set

A threshold that a driver remembers is the one that was last written to its limit register. Two things
break this: the TMP75 remembers a threshold before the write of it, which may fail, and the initialisation
of an EMC142x sensor remembers the default of the critical threshold even if it could not be set.
-/

namespace OpxSdi.Thermal

open Lib Device

variable {n : Nat} {limitReg : Limit n → Option Byte} {first : Limit n → BitVec 32} {d d' : State n} {s : Sensors n}
  {l : Limit n} {reg : Byte} {v : BitVec 32} {u : Unit} {config : Config n}

/-- The supported thresholds are those last written, or what they were in `first`. -/
def Remembers (limitReg : Limit n → Option Byte) (first : Limit n → BitVec 32) (d : State n) : Prop :=
  Recalls limitReg (BitVec.setWidth 32) first d.hw.threshold d.hw.writes

/-- After the call, what is remembered is what was last written, and a threshold that the call could not set
is as it was, like all the other thresholds and the registers. -/
def Chip.RemembersSet (chip : Chip) (config : Config chip.sensors) (first : Limit chip.sensors → BitVec 32)
    (d : State chip.sensors) (c : Call chip.sensors) : Prop :=
  Remembers chip.limitReg first (chip.step config d c) ∧
    ∀ l v, c = .thresholdSet l v → ∀ e d', Err (chip.call config c) d e d' → d'.hw = d.hw

/-! ## Steps of the drivers -/

instance : Fintype Threshold := ⟨{.low, .high, .critical}, by rintro ⟨⟩ <;> decide⟩

/-- Each supported threshold has its own register. -/
def LimitsApart (limitReg : Limit n → Option Byte) : Prop :=
  ∀ l l', limitReg l ≠ none → limitReg l = limitReg l' → l = l'

instance (limitReg : Limit n → Option Byte) : Decidable (LimitsApart limitReg) :=
  inferInstanceAs (Decidable (∀ l l', limitReg l ≠ none → limitReg l = limitReg l' → l = l'))

theorem Fits.setWidth (h : Fits v) : (v.setWidth 8).setWidth 32 = v := by
  refine BitVec.eq_of_getLsbD_eq fun i hi => ?_
  rw [BitVec.getLsbD_setWidth, BitVec.getLsbD_setWidth]
  by_cases hbyte : i < 8
  · simp only [hi, hbyte, decide_true, Bool.true_and]
  · have hmask : ∀ i < 32, ¬i < 8 → (~~~0xff#32).getLsbD i = true := by decide
    have hbit : (v &&& ~~~0xff#32).getLsbD i = false := by 
      rw [show v &&& ~~~0xff#32 = 0#32 from h, BitVec.getLsbD_zero]
    rw [BitVec.getLsbD_and, hmask i hi hbyte, Bool.and_true] at hbit
    simp only [hbyte, decide_false, Bool.and_false, hbit]

/-- A threshold that is set: its register is written, and the driver remembers it. -/
def Sensors.set (s : Sensors n) (l : Limit n) (reg : Byte) (v : BitVec 32) : Sensors n :=
  (s.written reg (v.setWidth 8)).stored l v

theorem Remembers.set (hapart : LimitsApart limitReg) (h : Remembers limitReg first d) (hreg : limitReg l = some reg)
    (hv : Fits v) (k : Nat) : Remembers limitReg first (d.after k (d.hw.set l reg v)) :=
  Recalls.write (fun l l' _ hl hl' => hapart l l' (hl ▸ Option.some_ne_none _) (hl.trans hl'.symm)) h hreg hv.setWidth

theorem ok_smbusWriteByte {b : Byte} : Ok (smbusWriteByte reg b) d u d' ↔
    d.fault d.time = none ∧ d' = d.after 1 (d.hw.written reg b) := by
  rw [smbusWriteByte, ok_access]
  exact and_congr_right fun _ => and_iff_right rfl

/-- A threshold is set, or everything stays as it is. -/
theorem thresholdSet_cases (limitReg : Limit n → Option Byte) (l : Limit n) (v : BitVec 32) (d : State n) :
    (∃ reg, limitReg l = some reg ∧ Fits v ∧ d.fault d.time = none ∧
      Ok (thresholdSet limitReg l v) d () (d.after 1 (d.hw.set l reg v))) ∨
    ((∀ reg, limitReg l = some reg → ¬(Fits v ∧ d.fault d.time = none)) ∧
      ∃ e k, Err (thresholdSet limitReg l v) d e (d.after k d.hw)) := by
  rw [thresholdSet]
  split
  · rename_i hv
    exact .inr ⟨fun _ _ h => hv h.1, .einval, 0, err_fail.mpr ⟨rfl, rfl⟩⟩
  · rename_i hv
    cases hreg : limitReg l with
    | none => exact .inr ⟨fun _ h => (Option.some_ne_none _ h.symm).elim, .eopnotsupp, 0, err_fail.mpr ⟨rfl, rfl⟩⟩
    | some reg =>
        cases hfault : d.fault d.time with
        | none =>
            refine .inl ⟨reg, rfl, not_not.mp hv, rfl, ?_⟩
            exact ok_bind.mpr ⟨(), _, ok_smbusWriteByte.mpr ⟨hfault, rfl⟩, ok_internal.mpr ⟨rfl, rfl⟩⟩
        | some e =>
            refine .inr ⟨fun _ _ h => (Option.some_ne_none _ h.2).elim, e, 1, ?_⟩
            exact err_bind.mpr (.inl (err_access.mpr ⟨hfault, rfl⟩))

theorem ok_thresholdSet (hreg : limitReg l = some reg) : Ok (thresholdSet limitReg l v) d u d' ↔
    Fits v ∧ d.fault d.time = none ∧ d' = d.after 1 (d.hw.set l reg v) := by
  obtain ⟨reg', hreg', hv, hfault, hok⟩ | ⟨hno, e, k, herr⟩ := thresholdSet_cases limitReg l v d
  · obtain rfl := Option.some.inj (hreg.symm.trans hreg')
    exact ⟨fun h => ⟨hv, hfault, (h.unique hok).2⟩, fun h => h.2.2 ▸ hok⟩
  · exact iff_of_false (herr.not_ok) fun h => hno reg hreg ⟨h.1, h.2.1⟩

theorem err_thresholdSet {e : Errno} (h : Err (thresholdSet limitReg l v) d e d') : d'.hw = d.hw := by
  obtain ⟨reg', -, -, -, hok⟩ | ⟨-, e', k, herr⟩ := thresholdSet_cases limitReg l v d
  · exact absurd hok h.not_ok
  · rw [(h.unique herr).2]
    rfl

theorem leaves_thresholdSet (hapart : LimitsApart limitReg) (h : Remembers limitReg first d) :
    Leaves (thresholdSet limitReg l v) d (Remembers limitReg first) := by
  obtain ⟨reg, hreg, hv, -, hok⟩ | ⟨-, e, k, herr⟩ := thresholdSet_cases limitReg l v d
  · exact (leaves_of_ok hok).mpr (h.set hapart hreg hv 1)
  · exact (leaves_of_err herr).mpr h

@[simp] theorem Sensors.set_threshold (s : Sensors n) (l : Limit n) (reg : Byte) (v : BitVec 32) :
    (s.set l reg v).threshold = Function.update s.threshold l v := rfl

@[simp] theorem Sensors.set_stored (s : Sensors n) (l : Limit n) (reg : Byte) (v : BitVec 32) :
    (s.set l reg v).stored l v = s.set l reg v :=
  congrArg (fun threshold => ({ (s.set l reg v) with threshold } : Sensors n)) (Function.update_idem ..)

theorem ok_initThreshold (hreg : limitReg l = some reg) :
    Ok (initThreshold (thresholdSet limitReg) config l) d u d' ↔ Fits (config.defaultThreshold l) ∧
      d.fault d.time = none ∧ d' = d.after 1 (d.hw.set l reg (config.defaultThreshold l)) := by
  rw [initThreshold, ok_bind]
  constructor
  · rintro ⟨u1, d1, hset, hstore⟩
    obtain ⟨hv, hfault, rfl⟩ := (ok_thresholdSet hreg).mp hset
    refine ⟨hv, hfault, (ok_internal.mp hstore).2.trans ?_⟩
    rw [after_hw, Sensors.set_stored]
    rfl
  · rintro ⟨hv, hfault, rfl⟩
    refine ⟨(), _, (ok_thresholdSet hreg).mpr ⟨hv, hfault, rfl⟩, ok_internal.mpr ⟨rfl, ?_⟩⟩
    rw [after_hw, Sensors.set_stored]
    rfl

theorem leaves_initThreshold (hapart : LimitsApart limitReg) (h : Remembers limitReg first d) :
    Leaves (initThreshold (thresholdSet limitReg) config l) d (Remembers limitReg first) := by
  obtain ⟨reg', hreg', hv, hfault, -⟩ | ⟨-, e, k, herr⟩ :=
    thresholdSet_cases limitReg l (config.defaultThreshold l) d
  · have hok : Ok _ d () _ := (ok_initThreshold hreg').mpr ⟨hv, hfault, rfl⟩
    exact (leaves_of_ok hok).mpr (h.set hapart hreg' hv 1)
  · exact (leaves_of_err (err_bind.mpr (.inl herr))).mpr h

/-- If no initialisation of a sensor breaks what is remembered, that of the chip does not. -/
theorem leaves_initSensors {resourceInit : Fin n → M n Unit}
    (hinit : ∀ i d, Remembers limitReg first d → Leaves (resourceInit i) d (Remembers limitReg first))
    (sensorIds : List (Fin n)) (h : Remembers limitReg first d) :
    Leaves (initSensors config resourceInit sensorIds) d (Remembers limitReg first) := by
  induction sensorIds generalizing d with
  | nil => exact h
  | cons i rest ih =>
      rw [initSensors]
      split
      · rw [leaves_bind_of_leaves (hinit i d h)]
        exact fun u d' hok => ih ((leaves_of_ok hok).mp (hinit i d h))
      · exact ih h

/-! ## TMP75 -/

/-- Operation number `t`, which writes the threshold, fails only if that value is already remembered. -/
def tmp75Keeps (d : State 1) (t : Nat) (l : Limit 1) (v : BitVec 32) : Prop :=
  Fits v → tmp75LimitReg l ≠ none → d.fault t ≠ none → d.hw.threshold l = v

section Tmp75

variable {d d' : State 1} {l : Limit 1} {first : Limit 1 → BitVec 32} {config : Config 1}

theorem tmp75_limitsApart : LimitsApart tmp75LimitReg := by decide

theorem tmp75ThresholdSet_cases (l : Limit 1) (v : BitVec 32) (d : State 1) :
    (∃ reg, tmp75LimitReg l = some reg ∧ Fits v ∧
      ((d.fault d.time = none ∧ Ok (tmp75ThresholdSet l v) d () (d.after 1 (d.hw.set l reg v))) ∨
        ∃ e, d.fault d.time = some e ∧ Err (tmp75ThresholdSet l v) d e (d.after 1 (d.hw.stored l v)))) ∨
    ((Fits v → tmp75LimitReg l = none) ∧ ∃ e, Err (tmp75ThresholdSet l v) d e d) := by
  rw [tmp75ThresholdSet]
  split
  · rename_i hv
    exact .inr ⟨fun h => absurd h hv, .einval, err_fail.mpr ⟨rfl, rfl⟩⟩
  · rename_i hv
    cases hreg : tmp75LimitReg l with
    | none => exact .inr ⟨fun _ => rfl, .eopnotsupp, err_fail.mpr ⟨rfl, rfl⟩⟩
    | some reg =>
        refine .inl ⟨reg, rfl, not_not.mp hv, ?_⟩
        have hstore : Ok (storeThreshold l v) d () (d.after 0 (d.hw.stored l v)) := ok_internal.mpr ⟨rfl, rfl⟩
        cases hfault : d.fault d.time with
        | none => exact .inl ⟨rfl, ok_bind.mpr ⟨(), _, hstore, ok_smbusWriteByte.mpr ⟨hfault, rfl⟩⟩⟩
        | some e => exact .inr ⟨e, rfl, err_bind.mpr (.inr ⟨(), _, hstore, err_access.mpr ⟨hfault, rfl⟩⟩)⟩

theorem leaves_tmp75ThresholdSet (h : Remembers tmp75LimitReg first d) :
    Leaves (tmp75ThresholdSet l v) d (Remembers tmp75LimitReg first) ↔ tmp75Keeps d d.time l v := by
  obtain ⟨reg, hreg, hv, ⟨hfault, hok⟩ | ⟨e, hfault, herr⟩⟩ | ⟨hno, e, herr⟩ := tmp75ThresholdSet_cases l v d
  · rw [leaves_of_ok hok]
    exact iff_of_true (h.set tmp75_limitsApart hreg hv 1) fun _ _ hfault' => absurd hfault hfault'
  · rw [leaves_of_err herr]
    refine (Recalls.store_iff h hreg).trans ⟨fun hstored _ _ _ => hstored, fun hkeeps => ?_⟩
    refine hkeeps hv ?_ ?_
    · rw [hreg]
      exact Option.some_ne_none reg
    · rw [hfault]
      exact Option.some_ne_none e
  · rw [leaves_of_err herr]
    exact iff_of_true h fun hv hreg _ => absurd (hno hv) hreg

theorem err_tmp75ThresholdSet {e : Errno} (hkeeps : tmp75Keeps d d.time l v)
    (herr : Err (tmp75ThresholdSet l v) d e d') : d'.hw = d.hw := by
  obtain ⟨reg, hreg, hv, ⟨-, hok⟩ | ⟨e', hfault, herr'⟩⟩ | ⟨-, e', herr'⟩ := tmp75ThresholdSet_cases l v d
  · exact absurd hok herr.not_ok
  · have hkept : d.hw.threshold l = v := hkeeps hv (hreg ▸ Option.some_ne_none reg) (hfault ▸ Option.some_ne_none e')
    rw [(herr.unique herr').2, after_hw, Sensors.stored, ← hkept, Function.update_eq_self]
  · rw [(herr.unique herr').2]

theorem ok_initTmp75 {reg : Byte} {v : BitVec 32} (hreg : tmp75LimitReg l = some reg)
    (hv : config.defaultThreshold l = v) (hfits : Fits v) (hfault : d.fault d.time = none) :
    Ok (initThreshold tmp75ThresholdSet config l) d () (d.after 1 (d.hw.set l reg v)) := by
  obtain ⟨reg', hreg', -, ⟨-, hok⟩ | ⟨e, hfault', -⟩⟩ | ⟨hno, -⟩ := tmp75ThresholdSet_cases l v d
  · obtain rfl := Option.some.inj (hreg.symm.trans hreg')
    rw [initThreshold, hv]
    refine ok_bind.mpr ⟨(), _, hok, ok_internal.mpr ⟨rfl, ?_⟩⟩
    rw [after_hw, Sensors.set_stored]
    rfl
  · exact absurd (hfault.symm.trans hfault') (Option.some_ne_none e).symm
  · exact absurd (hreg.symm.trans (hno hfits)) (Option.some_ne_none reg)

theorem leaves_initTmp75 (h : Remembers tmp75LimitReg first d) :
    Leaves (initThreshold tmp75ThresholdSet config l) d (Remembers tmp75LimitReg first) ↔
      tmp75Keeps d d.time l (config.defaultThreshold l) := by
  rw [← leaves_tmp75ThresholdSet h]
  obtain ⟨reg, hreg, hv, ⟨hfault, hok⟩ | ⟨e, hfault, herr⟩⟩ | ⟨-, e, herr⟩ :=
    tmp75ThresholdSet_cases l (config.defaultThreshold l) d
  · rw [leaves_of_ok hok, leaves_of_ok (ok_initTmp75 hreg rfl hv hfault)]
  · exact (leaves_of_err (err_bind.mpr (.inl herr))).trans (leaves_of_err herr).symm
  · exact (leaves_of_err (err_bind.mpr (.inl herr))).trans (leaves_of_err herr).symm

/-- The initialisation ends with the first default that does not fit or whose write fails. -/
def tmp75KeepsInit (config : Config 1) (d : State 1) : Prop :=
  tmp75Keeps d d.time tmp75Low (config.defaultThreshold tmp75Low) ∧
    (Fits (config.defaultThreshold tmp75Low) → d.fault d.time = none →
      tmp75Keeps d (d.time + 1) tmp75High (config.defaultThreshold tmp75High))

theorem leaves_tmp75ChipInit (h : Remembers tmp75LimitReg first d) :
    Leaves (tmp75ChipInit config) d (Remembers tmp75LimitReg first) ↔ tmp75KeepsInit config d := by
  rw [tmp75ChipInit, tmp75KeepsInit]
  by_cases hlow : Fits (config.defaultThreshold (0, .low)) ∧ d.fault d.time = none
  · obtain ⟨hv, hfault⟩ := hlow
    have hok : Ok (initThreshold tmp75ThresholdSet config (0, .low)) d () _ := ok_initTmp75 rfl rfl hv hfault
    have hset := h.set (l := (0, .low)) tmp75_limitsApart rfl hv 1
    have hhigh : (d.hw.set (0, .low) 0x02 (config.defaultThreshold (0, .low))).threshold (0, .high) =
        d.hw.threshold (0, .high) := by
      rw [Sensors.set_threshold, Function.update_of_ne (by decide)]
    rw [leaves_bind_of_ok hok, leaves_initTmp75 hset]
    simp only [hv, hfault, forall_const, tmp75Keeps, after_hw, hhigh, after_time, not_true_eq_false, ne_eq,
      false_implies, implies_true, true_and]
    rfl
  · have hno : ∀ u d', ¬Ok (initThreshold tmp75ThresholdSet config (0, .low)) d u d' := by
      intro u d' hok
      obtain ⟨u1, d1, hset, -⟩ := ok_bind.mp hok
      obtain ⟨reg, -, hv, ⟨hfault, -⟩ | ⟨e, -, herr⟩⟩ | ⟨-, e, herr⟩ :=
        tmp75ThresholdSet_cases (0, .low) (config.defaultThreshold (0, .low)) d
      · exact hlow ⟨hv, hfault⟩
      · exact herr.not_ok hset
      · exact herr.not_ok hset
    rw [leaves_bind]
    constructor
    · rintro ⟨-, hleaves⟩
      exact ⟨(leaves_initTmp75 h).mp (hleaves hno), fun hv hfault => absurd ⟨hv, hfault⟩ hlow⟩
    · rintro ⟨hkeeps, -⟩
      exact ⟨fun u d' hok => absurd hok (hno u d'), fun _ => (leaves_initTmp75 h).mpr hkeeps⟩

end Tmp75


/-! ## EMC142x -/

section Emc142x

variable {d d' : State 8} {first : Limit 8 → BitVec 32} {config : Config 8} {i : Fin 8}

/-- The initialisation of sensor `i` from operation number `t` on succeeds. -/
def emc142xInits (config : Config 8) (d : State 8) (t : Nat) (i : Fin 8) : Prop :=
  (∀ type, Fits (config.defaultThreshold (i, type))) ∧
    d.fault t = none ∧ d.fault (t + 1) = none ∧ d.fault (t + 2) = none

/-- If the other two thresholds can be set, the critical one can be too, or its default is already
remembered. -/
def emc142xKeeps (config : Config 8) (d : State 8) (t : Nat) (i : Fin 8) : Prop :=
  Fits (config.defaultThreshold (i, .low)) → d.fault t = none →
    Fits (config.defaultThreshold (i, .high)) → d.fault (t + 1) = none →
      ¬(Fits (config.defaultThreshold (i, .critical)) ∧ d.fault (t + 2) = none) →
        d.hw.threshold (i, .critical) = config.defaultThreshold (i, .critical)

/-- The first sensor whose initialisation fails is the last one. -/
def emc142xKeepsInit (config : Config 8) (d : State 8) : (t : Nat) → List (Fin 8) → Prop
  | _, [] => True
  | t, i :: rest =>
      if config.connectedSensors i then
        emc142xKeeps config d t i ∧ (emc142xInits config d t i → emc142xKeepsInit config d (t + 3) rest)
      else emc142xKeepsInit config d t rest

theorem emc142x_limitsApart : LimitsApart emc142xLimitReg := by decide

theorem emc142xLimitReg_isSome (l : Limit 8) : ∃ reg, emc142xLimitReg l = some reg := by
  have h : ∀ l, (emc142xLimitReg l).isSome := by decide
  exact Option.isSome_iff_exists.mp (h l)

/-- The critical threshold is remembered in any case. -/
theorem leaves_emc142xInitCritical (h : Remembers emc142xLimitReg first d) :
    Leaves (emc142xInitCritical config i) d (Remembers emc142xLimitReg first) ↔
      (¬(Fits (config.defaultThreshold (i, .critical)) ∧ d.fault d.time = none) →
        d.hw.threshold (i, .critical) = config.defaultThreshold (i, .critical)) := by
  obtain ⟨reg, hreg⟩ := emc142xLimitReg_isSome (i, .critical)
  have hapart := emc142x_limitsApart
  obtain ⟨reg', hreg', hv, hfault, hok⟩ | ⟨hno, e, k, herr⟩ :=
    thresholdSet_cases emc142xLimitReg (i, .critical) (config.defaultThreshold (i, .critical)) d
  · have hinit : Ok (emc142xInitCritical config i) d () _ := ok_bind.mpr ⟨_, _, ok_attempt.mpr (.inl ⟨(), rfl, hok⟩),
      ok_bind.mpr ⟨(), _, ok_internal.mpr ⟨rfl, rfl⟩, ok_ofResult.mpr ⟨rfl, rfl⟩⟩⟩
    rw [leaves_of_ok hinit]
    refine iff_of_true ?_ fun hfails => absurd ⟨hv, hfault⟩ hfails
    rw [after_hw, Sensors.set_stored]
    exact h.set hapart hreg' hv 1
  · have hinit : Err (emc142xInitCritical config i) d e _ := err_bind.mpr (.inr ⟨_, _,
      ok_attempt.mpr (.inr ⟨e, rfl, herr⟩), err_bind.mpr (.inr ⟨(), _, ok_internal.mpr ⟨rfl, rfl⟩,
        err_fail.mpr ⟨rfl, rfl⟩⟩)⟩)
    rw [leaves_of_err hinit]
    exact (Recalls.store_iff h hreg).trans ⟨fun hstored _ => hstored, fun hkeeps => hkeeps (hno reg hreg)⟩

theorem leaves_emc142xResourceInit (h : Remembers emc142xLimitReg first d) :
    Leaves (emc142xResourceInit config i) d (Remembers emc142xLimitReg first) ↔ emc142xKeeps config d d.time i := by
  obtain ⟨low, hlow⟩ := emc142xLimitReg_isSome (i, .low)
  obtain ⟨high, hhigh⟩ := emc142xLimitReg_isSome (i, .high)
  have hapart := emc142x_limitsApart
  rw [emc142xResourceInit, emc142xThresholdSet, leaves_bind_of_leaves (leaves_initThreshold hapart h)]
  have hstep : ∀ d1, Remembers emc142xLimitReg first d1 → (Leaves (do
      initThreshold (thresholdSet emc142xLimitReg) config (i, .high)
      emc142xInitCritical config i) d1 (Remembers emc142xLimitReg first) ↔
        (Fits (config.defaultThreshold (i, .high)) → d1.fault d1.time = none →
          ¬(Fits (config.defaultThreshold (i, .critical)) ∧ d1.fault (d1.time + 1) = none) →
            d1.hw.threshold (i, .critical) = config.defaultThreshold (i, .critical))) := by
    intro d1 h1
    rw [leaves_bind_of_leaves (leaves_initThreshold hapart h1)]
    have hcritical : ∀ v, (d1.hw.set (i, .high) high v).threshold (i, .critical) = d1.hw.threshold (i, .critical) := by
      intro v
      rw [Sensors.set_threshold, Function.update_of_ne (by simp)]
    constructor
    · intro hleaves hv hfault
      have hinit := hleaves () _ ((ok_initThreshold hhigh).mpr ⟨hv, hfault, rfl⟩)
      rw [leaves_emc142xInitCritical (h1.set hapart hhigh hv 1), after_hw, hcritical] at hinit
      exact hinit
    · rintro hkeeps u d2 hok
      obtain ⟨hv, hfault, rfl⟩ := (ok_initThreshold hhigh).mp hok
      rw [leaves_emc142xInitCritical (h1.set hapart hhigh hv 1), after_hw, hcritical]
      exact hkeeps hv hfault
  have hcritical : ∀ v, (d.hw.set (i, .low) low v).threshold (i, .critical) = d.hw.threshold (i, .critical) := by
    intro v
    rw [Sensors.set_threshold, Function.update_of_ne (by simp)]
  constructor
  · intro hleaves hv hfault
    have hinit := hleaves () _ ((ok_initThreshold hlow).mpr ⟨hv, hfault, rfl⟩)
    rw [hstep _ (h.set hapart hlow hv 1), after_hw, hcritical] at hinit
    exact hinit
  · rintro hkeeps u d1 hok
    obtain ⟨hv, hfault, rfl⟩ := (ok_initThreshold hlow).mp hok
    rw [hstep _ (h.set hapart hlow hv 1), after_hw, hcritical]
    exact hkeeps hv hfault

/-- The sensor once its three thresholds are set to the defaults -/
def emc142xSet (config : Config 8) (i : Fin 8) (low high critical : Byte) (s : Sensors 8) : Sensors 8 :=
  ((s.set (i, .low) low (config.defaultThreshold (i, .low))).set (i, .high) high
    (config.defaultThreshold (i, .high))).set (i, .critical) critical (config.defaultThreshold (i, .critical))

theorem ok_emc142xInitCritical {reg : Byte} (hreg : emc142xLimitReg (i, .critical) = some reg) :
    Ok (emc142xInitCritical config i) d u d' ↔ Fits (config.defaultThreshold (i, .critical)) ∧
      d.fault d.time = none ∧ d' = d.after 1 (d.hw.set (i, .critical) reg (config.defaultThreshold (i, .critical))) := by
  rw [emc142xInitCritical, emc142xThresholdSet, ok_attempt_or_fail]
  · constructor
    · rintro ⟨u1, d1, hset, h⟩
      obtain ⟨hv, hfault, rfl⟩ := (ok_thresholdSet hreg).mp hset
      obtain ⟨u2, d2, hstore, hok⟩ := ok_bind.mp h
      obtain ⟨-, rfl⟩ := ok_ofResult.mp hok
      refine ⟨hv, hfault, (ok_internal.mp hstore).2.trans ?_⟩
      rw [after_hw, Sensors.set_stored]
      rfl
    · rintro ⟨hv, hfault, rfl⟩
      refine ⟨(), _, (ok_thresholdSet hreg).mpr ⟨hv, hfault, rfl⟩, ok_bind.mpr ⟨(), _, ok_internal.mpr ⟨rfl, rfl⟩, ?_⟩⟩
      rw [after_hw, Sensors.set_stored]
      exact ok_ofResult.mpr ⟨rfl, rfl⟩
  · intro e d1 d2 h
    obtain ⟨u2, d2, -, hfail⟩ := ok_bind.mp h
    exact ok_fail hfail

theorem ok_emc142xResourceInit {low high critical : Byte} (hlow : emc142xLimitReg (i, .low) = some low)
    (hhigh : emc142xLimitReg (i, .high) = some high) (hcritical : emc142xLimitReg (i, .critical) = some critical) :
    Ok (emc142xResourceInit config i) d u d' ↔
      emc142xInits config d d.time i ∧ d' = d.after 3 (emc142xSet config i low high critical d.hw) := by
  rw [emc142xResourceInit, emc142xThresholdSet]
  constructor
  · intro h
    obtain ⟨u1, d1, hinit, h⟩ := ok_bind.mp h
    obtain ⟨hvlow, hfault, rfl⟩ := (ok_initThreshold hlow).mp hinit
    obtain ⟨u2, d2, hinit', h⟩ := ok_bind.mp h
    obtain ⟨hvhigh, hfault', rfl⟩ := (ok_initThreshold hhigh).mp hinit'
    obtain ⟨hvcritical, hfault'', rfl⟩ := (ok_emc142xInitCritical hcritical).mp h
    refine ⟨⟨?_, hfault, hfault', hfault''⟩, ?_⟩
    · rintro ⟨⟩
      · exact hvlow
      · exact hvhigh
      · exact hvcritical
    · rw [after_after, after_after]
      rfl
  · rintro ⟨⟨hv, hfault, hfault', hfault''⟩, rfl⟩
    refine ok_bind.mpr ⟨(), _, (ok_initThreshold hlow).mpr ⟨hv .low, hfault, rfl⟩, ok_bind.mpr ⟨(), _,
      (ok_initThreshold hhigh).mpr ⟨hv .high, hfault', rfl⟩, (ok_emc142xInitCritical hcritical).mpr
        ⟨hv .critical, hfault'', ?_⟩⟩⟩
    rw [after_after, after_after]
    rfl

theorem Remembers.emc142xSet {low high critical : Byte} (h : Remembers emc142xLimitReg first d)
    (hlow : emc142xLimitReg (i, .low) = some low) (hhigh : emc142xLimitReg (i, .high) = some high)
    (hcritical : emc142xLimitReg (i, .critical) = some critical)
    (hv : ∀ type, Fits (config.defaultThreshold (i, type))) (k : Nat) :
    Remembers emc142xLimitReg first (d.after k (emc142xSet config i low high critical d.hw)) := by
  have hapart := emc142x_limitsApart
  have hset := ((h.set hapart hlow (hv .low) 1).set hapart hhigh (hv .high) 1).set hapart hcritical (hv .critical) k
  exact hset

theorem emc142xKeepsInit_congr {sensorIds : List (Fin 8)} (hfault : d'.fault = d.fault)
    (hsame : ∀ i ∈ sensorIds, d'.hw.threshold (i, .critical) = d.hw.threshold (i, .critical)) (t : Nat) :
    emc142xKeepsInit config d' t sensorIds ↔ emc142xKeepsInit config d t sensorIds := by
  induction sensorIds generalizing t with
  | nil => exact Iff.rfl
  | cons i rest ih =>
      have hrest := ih fun j hj => hsame j (List.mem_cons_of_mem i hj)
      rw [emc142xKeepsInit, emc142xKeepsInit]
      split
      · rw [emc142xKeeps, emc142xKeeps, emc142xInits, emc142xInits, hfault, hsame i List.mem_cons_self, hrest]
      · exact hrest t

theorem leaves_emc142xInitSensors {sensorIds : List (Fin 8)} (hnodup : sensorIds.Nodup)
    (h : Remembers emc142xLimitReg first d) :
    Leaves (initSensors config (emc142xResourceInit config) sensorIds) d (Remembers emc142xLimitReg first) ↔
      emc142xKeepsInit config d d.time sensorIds := by
  induction sensorIds generalizing d with
  | nil => exact iff_of_true h trivial
  | cons i rest ih =>
      obtain ⟨hi, hnodup⟩ := List.nodup_cons.mp hnodup
      rw [initSensors, emc142xKeepsInit]
      split
      · obtain ⟨low, hlow⟩ := emc142xLimitReg_isSome (i, .low)
        obtain ⟨high, hhigh⟩ := emc142xLimitReg_isSome (i, .high)
        obtain ⟨critical, hcritical⟩ := emc142xLimitReg_isSome (i, .critical)
        by_cases hinits : emc142xInits config d d.time i
        · have hok : Ok (emc142xResourceInit config i) d () _ :=
            (ok_emc142xResourceInit hlow hhigh hcritical).mpr ⟨hinits, rfl⟩
          have hset := h.emc142xSet hlow hhigh hcritical hinits.1 3
          have hkeeps : emc142xKeeps config d d.time i :=
            (leaves_emc142xResourceInit h).mp ((leaves_of_ok hok).mpr hset)
          rw [leaves_bind_of_ok hok, ih hnodup hset, and_iff_right hkeeps, forall_prop_of_true hinits]
          have hfault : (d.after 3 (emc142xSet config i low high critical d.hw)).fault = d.fault := rfl
          refine emc142xKeepsInit_congr hfault (fun j hj => ?_) _
          have hne : ∀ type, ((j, Threshold.critical) : Limit 8) ≠ (i, type) := by
            rintro type heq
            exact hi ((Prod.mk.inj heq).1 ▸ hj)
          simp only [after_hw, emc142xSet, Sensors.set_threshold, Function.update_of_ne (hne _)]
        · have hno : ∀ u d', ¬Ok (emc142xResourceInit config i) d u d' := fun u d' hok =>
            hinits ((ok_emc142xResourceInit hlow hhigh hcritical).mp hok).1
          rw [leaves_bind, and_iff_right fun u d' hok => absurd hok (hno u d'), forall_prop_of_true hno,
            leaves_emc142xResourceInit h]
          exact (and_iff_left fun hok => absurd hok hinits).symm
      · exact ih hnodup h

end Emc142x

/-! ## MAX6699 -/

theorem max6699_limitsApart : LimitsApart max6699LimitReg := by decide

theorem leaves_max6699ResourceInit {d : State 5} {first : Limit 5 → BitVec 32} {config : Config 5} (i : Fin 5)
    (h : Remembers max6699LimitReg first d) :
    Leaves (max6699ResourceInit config i) d (Remembers max6699LimitReg first) :=
  leaves_initThreshold max6699_limitsApart h

/-! ## Calls -/

namespace Chip

/-- The condition under which a call remembers what it sets: on a TMP75 no write of a new value fails, and on
an EMC142x no default of a critical threshold that is not remembered yet fails to be set. -/
def WritesThrough : (chip : Chip) → Config chip.sensors → State chip.sensors → Call chip.sensors → Prop
  | .tmp75, config, d, .chipInit => tmp75KeepsInit config d
  | .tmp75, _, d, .thresholdSet l v => tmp75Keeps d d.time l v
  | .tmp75, _, _, .resourceInit _ => True
  | .emc142x, config, d, .chipInit => emc142xKeepsInit config d d.time (List.finRange 8)
  | .emc142x, config, d, .resourceInit i => emc142xKeeps config d d.time i
  | .emc142x, _, _, .thresholdSet _ _ => True
  | .max6699, _, _, _ => True

variable {chip : Chip} {config : Config chip.sensors} {first : Limit chip.sensors → BitVec 32}
  {d : State chip.sensors}

theorem remembers_step (h : Remembers chip.limitReg first d) (c : Call chip.sensors) :
    Remembers chip.limitReg first (chip.step config d c) ↔ chip.WritesThrough config d c := by
  change Leaves (chip.call config c) d (Remembers chip.limitReg first) ↔ _
  cases chip with
  | tmp75 =>
      cases c with
      | chipInit => exact leaves_tmp75ChipInit h
      | resourceInit i => exact iff_of_true h trivial
      | thresholdSet l v => exact leaves_tmp75ThresholdSet h
  | emc142x =>
      cases c with
      | chipInit => exact leaves_emc142xInitSensors (List.nodup_finRange 8) h
      | resourceInit i => exact leaves_emc142xResourceInit h
      | thresholdSet l v => exact iff_of_true (leaves_thresholdSet emc142x_limitsApart h) trivial
  | max6699 =>
      refine iff_of_true ?_ trivial
      cases c with
      | chipInit => exact leaves_initSensors (fun i _ => leaves_max6699ResourceInit i) _ h
      | resourceInit i => exact leaves_max6699ResourceInit i h
      | thresholdSet l v => exact leaves_thresholdSet max6699_limitsApart h

theorem err_thresholdSet {l : Limit chip.sensors} {v : BitVec 32} {e : Errno} {d' : State chip.sensors}
    (hthrough : chip.WritesThrough config d (.thresholdSet l v)) (herr : Err (chip.thresholdSet l v) d e d') :
    d'.hw = d.hw := by
  cases chip with
  | tmp75 => exact err_tmp75ThresholdSet hthrough herr
  | emc142x => exact Thermal.err_thresholdSet herr
  | max6699 => exact Thermal.err_thresholdSet herr

theorem remembersSet_step (h : Remembers chip.limitReg first d) (c : Call chip.sensors) :
    chip.RemembersSet config first d c ↔ chip.WritesThrough config d c := by
  rw [RemembersSet, remembers_step h]
  refine and_iff_left_of_imp fun hthrough l v hc e d' herr => ?_
  subst hc
  exact err_thresholdSet hthrough herr

/-- Along every run, each call remembers what it sets iff it writes through. -/
theorem remembersSet_iff (chip : Chip) (config : Config chip.sensors) (threshold : Limit chip.sensors → BitVec 32)
    (regs : Byte → Byte) (fault : Nat → Option Errno) (calls : List (Call chip.sensors)) :
    Along (chip.step config) (chip.RemembersSet config threshold) (started threshold regs fault) calls ↔
      Along (chip.step config) (chip.WritesThrough config) (started threshold regs fault) calls :=
  along_congr (I := Remembers chip.limitReg threshold) (fun _ c h => remembersSet_step h c)
    (fun _ c h hthrough => (remembers_step h c).mpr hthrough) (Recalls.start threshold)

/-! ## What the queries return -/

theorem ok_thresholdGet {l : Limit chip.sensors} {v : BitVec 32} {d' : State chip.sensors} :
    Ok (chip.thresholdGet l) d v d' ↔ (∃ reg, chip.limitReg l = some reg) ∧ v = d.hw.threshold l ∧ d' = d := by
  have hget : chip.thresholdGet = Thermal.thresholdGet chip.limitReg := by cases chip <;> rfl
  rw [hget, Thermal.thresholdGet]
  cases chip.limitReg l with
  | none => exact iff_of_false ok_fail fun ⟨⟨_, h⟩, _⟩ => Option.some_ne_none _ h.symm
  | some reg => exact ok_internal.trans (and_iff_right ⟨reg, rfl⟩).symm

/-- After a run whose calls all write through, a query returns the threshold that was last written. -/
theorem thresholdGet_run {threshold : Limit chip.sensors → BitVec 32} {regs : Byte → Byte}
    {fault : Nat → Option Errno} {calls : List (Call chip.sensors)} {l : Limit chip.sensors} {v : BitVec 32}
    {d' : State chip.sensors}
    (hthrough : Along (chip.step config) (chip.WritesThrough config) (started threshold regs fault) calls)
    (hget : Ok (chip.thresholdGet l) (run (chip.step config) (started threshold regs fault) calls) v d') :
    ∃ reg, chip.limitReg l = some reg ∧ v = ((lastWritten reg d'.hw.writes).map (BitVec.setWidth 32)).getD
      (threshold l) := by
  obtain ⟨⟨reg, hreg⟩, rfl, rfl⟩ := ok_thresholdGet.mp hget
  have hrun : Remembers chip.limitReg threshold (run (chip.step config) (started threshold regs fault) calls) :=
    run_inv (fun _ c h hthrough => (remembers_step h c).mpr hthrough) (Recalls.start threshold) hthrough
  exact ⟨reg, hreg, hrun l reg hreg⟩

end Chip

/-- The alarm of the TMP75 depends on what is remembered and not on the limit registers. -/
theorem ok_tmp75StatusGet {d d' : State 1} {i : Fin 1} {b : Bool} : Ok (tmp75StatusGet i) d b d' ↔
    d.fault d.time = none ∧ d' = d.after 1 d.hw ∧
      b = (decide ((d.hw.threshold (i, .high)).toInt ≤ ((d.hw.regs 0x00).setWidth 32).toInt) ||
        decide (((d.hw.regs 0x00).setWidth 32).toInt ≤ (d.hw.threshold (i, .low)).toInt)) := by
  constructor
  · intro h
    obtain ⟨temperature, d1, htemp, h⟩ := ok_bind.mp h
    obtain ⟨buf, d2, hread, hbuf⟩ := ok_bind.mp htemp
    obtain ⟨rfl, rfl⟩ := ok_pure.mp hbuf
    obtain ⟨hfault, rfl, rfl⟩ := ok_access.mp hread
    obtain ⟨rfl, rfl⟩ := ok_internal.mp h
    exact ⟨hfault, rfl, rfl⟩
  · rintro ⟨hfault, rfl, rfl⟩
    have hread : Ok (smbusReadByte (tmp75TempReg i)) d _ _ := ok_access.mpr ⟨hfault, rfl, rfl⟩
    exact ok_bind.mpr ⟨_, _, ok_bind.mpr ⟨_, _, hread, ok_pure.mpr ⟨rfl, rfl⟩⟩, ok_internal.mpr ⟨rfl, rfl⟩⟩

/-! ## A write that fails -/

def tmp75Config : Config 1 := ⟨fun _ => true, fun _ => 80⟩

/-- A threshold of the TMP75 whose write fails is remembered. -/
theorem not_remembersSet_writeFails : ¬Along (Chip.tmp75.step tmp75Config)
    (Chip.tmp75.RemembersSet tmp75Config fun _ => 80) (started (fun _ => 80) (fun _ => 80) fun _ => some .eio)
      [.thresholdSet ((0 : Fin 1), .high) 90] := by
  rintro ⟨⟨hremembers, -⟩, -⟩
  exact absurd (hremembers ((0 : Fin 1), .high) 0x03 rfl) (by decide)

/-- The default of the critical threshold does not fit its register. -/
def emc142xConfig : Config 8 := ⟨fun _ => true, fun l => if l.2 = .critical then 300 else 85⟩

theorem not_remembersSet_critical : ¬Along (Chip.emc142x.step emc142xConfig)
    (Chip.emc142x.RemembersSet emc142xConfig fun _ => 0) (started (fun _ => 0) (fun _ => 85) fun _ => none)
      [.resourceInit (0 : Fin 8)] := by
  rintro ⟨⟨hremembers, -⟩, -⟩
  exact absurd (hremembers ((0 : Fin 8), .critical) 0x20 rfl) (by decide)

end OpxSdi.Thermal
