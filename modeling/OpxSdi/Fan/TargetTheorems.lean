import Mathlib.Tactic.IntervalCases
import OpxSdi.Fan.SoundTheorems
import OpxSdi.Lib.Bits

/-!
# The target count of a MAX6620 fan

The register keeps 11 bits of a target. A slow speed whose target has more of them programs a fast fan, and
so does a speed whose product with the pulses wraps.
-/

namespace OpxSdi.Fan

open Lib Calc

/-! ## The register -/

theorem getLsbD_maxTachCount (i : Nat) : maxTachCount.getLsbD i = decide (i < 11) := by
  rw [maxTachCount, show (2047 : BitVec 32) = BitVec.ofNat 32 (2 ^ 11 - 1) from rfl, getLsbD_lowMask]
  refine Bool.eq_iff_iff.mpr ?_
  simp only [Bool.and_eq_true, decide_eq_true_eq]
  omega

theorem tachCountVal_targetWord (target : BitVec 32) (old : BitVec 16) :
    tachCountVal (bytesLe (targetWord target old)).2 (bytesLe (targetWord target old)).1 =
      target &&& maxTachCount := by
  rw [targetWord, bytesLe_word, tachCountVal]
  refine BitVec.eq_of_getLsbD_eq fun i h => ?_
  simp only [BitVec.getLsbD_or, BitVec.getLsbD_and, getLsbD_maxTachCount, BitVec.getLsbD_shiftLeft,
    BitVec.getLsbD_setWidth, BitVec.getLsbD_ushiftRight, BitVec.getLsbD_not]
  interval_cases i <;> simp

theorem and_maxTachCount_iff {n : BitVec 32} : n &&& maxTachCount = n ↔ n.toNat < 2048 := by
  rw [show 2048 = 2 ^ 11 from rfl, toNat_lt_iff, BitVec.and_comm, and_eq_right_iff]
  refine forall_congr' fun i => ?_
  rw [getLsbD_maxTachCount]
  cases h : n.getLsbD i <;> simp

variable {bus bus' : Max6620Bus}

def targetCountAt (bus : Max6620Bus) (fanId : Fin 4) : BitVec 32 :=
  tachCountVal (bus.regs (fanTgtTachCnt fanId + 1)) (bus.regs (fanTgtTachCnt fanId))

theorem fanTargetTachCountSet_yields (d : Max6620Device) (fanId : Fin 4) (hq : bus.Quiet 2)
    (target : BitVec 32) :
    ∃ left, (fanTargetTachCountSet fanId target).Yields ⟨d, bus⟩ (.ok ()) ⟨d, left⟩ ∧
      targetCountAt left fanId = target &&& maxTachCount := by
  obtain ⟨hread, hwrite⟩ := RegBus.quiet_two_iff.mp hq
  refine ⟨_, (yields_transact hread).bind (yields_transact hwrite), ?_⟩
  have hne : fanTgtTachCnt fanId + 1 ≠ fanTgtTachCnt fanId := by
    intro h
    exact absurd (BitVec.add_right_eq_self.mp h) (by decide)
  rw [← tachCountVal_targetWord target (wordAt bus.regs (fanTgtTachCnt fanId)), targetCountAt, bytesLe]
  dsimp only
  rw [if_pos rfl, if_neg hne, if_pos rfl]

/-! ## The count of a speed -/

variable {d : Max6620Device} {fanId : Fin 4} {speed slow fast : BitVec 32}

namespace Max6620FanData

/-- The target of `sdi_max6620_fan_speed_set`. -/
def targetTachCount (fan : Max6620FanData) (speed : BitVec 32) : BitVec 32 :=
  if speed = 0 then maxTachCount
  else fan.tachCountPeriod * (60 * 8192) / (fan.noOfTachPulse * speed)

def withPeriod (fan : Max6620FanData) : Max6620FanData :=
  { fan with tachCountPeriod := (Fan.tachCountPeriod fan.maxSpeed).1 }

variable {fan : Max6620FanData}

def Divides (fan : Max6620FanData) (speed : BitVec 32) : Prop := speed = 0 ∨ fan.noOfTachPulse * speed ≠ 0

/-- The divisor of the speed, which is a product of 32 bits, is more than `60 * 8192 / 2048` times the
period. -/
def CountFits (fan : Max6620FanData) (speed : BitVec 32) : Prop :=
  speed = 0 ∨ 240 * fan.tachCountPeriod.toNat < (fan.noOfTachPulse * speed).toNat

/-- No wrap of a product puts the divisors of two speeds out of order. -/
def InOrder (fan : Max6620FanData) (slow fast : BitVec 32) : Prop :=
  ∀ n : Nat, n * (fan.noOfTachPulse * fast).toNat ≤ fan.tachCountPeriod.toNat * 491520 →
    n * (fan.noOfTachPulse * slow).toNat ≤ fan.tachCountPeriod.toNat * 491520

theorem inOrder_of_lt (h : slow ≤ fast) (hfits : fan.noOfTachPulse.toNat * fast.toNat < 2 ^ 32) :
    fan.InOrder slow fast := by
  intro n hn
  have hle : fan.noOfTachPulse.toNat * slow.toNat ≤ fan.noOfTachPulse.toNat * fast.toNat :=
    Nat.mul_le_mul_left _ h
  rw [BitVec.toNat_mul, Nat.mod_eq_of_lt hfits] at hn
  rw [BitVec.toNat_mul, Nat.mod_eq_of_lt (Nat.lt_of_le_of_lt hle hfits)]
  exact (Nat.mul_le_mul_left n hle).trans hn

theorem toNat_targetTachCount (hperiod : fan.tachCountPeriod.toNat ≤ 32) (h : speed ≠ 0) :
    (fan.targetTachCount speed).toNat =
      fan.tachCountPeriod.toNat * 491520 / (fan.noOfTachPulse * speed).toNat := by
  rw [targetTachCount, if_neg h, BitVec.toNat_udiv, BitVec.toNat_mul]
  exact congrArg (· / _) (Nat.mod_eq_of_lt (by
    change _ * 491520 < _
    omega))

theorem countFits_iff (hperiod : fan.tachCountPeriod.toNat ≤ 32) :
    fan.CountFits speed ↔ fan.Divides speed ∧ (fan.targetTachCount speed).toNat < 2048 := by
  by_cases h : speed = 0
  · refine iff_of_true (.inl h) ⟨.inl h, ?_⟩
    rw [targetTachCount, if_pos h]
    decide
  · rw [CountFits, Divides, or_iff_right h, or_iff_right h, toNat_targetTachCount hperiod h, ne_eq,
      ← BitVec.toNat_inj, show (0 : BitVec 32).toNat = 0 from rfl]
    generalize (fan.noOfTachPulse * speed).toNat = divisor
    rcases Nat.eq_zero_or_pos divisor with rfl | hpos
    · exact iff_of_false (Nat.not_lt_zero _) fun hand => hand.1 rfl
    · rw [and_iff_right (Nat.ne_of_gt hpos), Nat.div_lt_iff_lt_mul hpos]
      omega

theorem le_targetTachCount_iff (hperiod : fan.tachCountPeriod.toNat ≤ 32) (h : slow ≤ fast)
    (hslow : fan.CountFits slow) (hfast : fan.CountFits fast) :
    fan.targetTachCount fast ≤ fan.targetTachCount slow ↔ fan.InOrder slow fast := by
  by_cases hzero : slow = 0
  · have hlt := ((countFits_iff hperiod).mp hfast).2
    refine iff_of_true ?_ fun n _ => ?_
    · rw [BitVec.le_def, targetTachCount.eq_def fan slow, if_pos hzero]
      exact Nat.le_of_lt_succ hlt
    · rw [hzero, show fan.noOfTachPulse * 0 = 0#32 from BitVec.mul_zero]
      exact Nat.zero_le _
  · have hne : fast ≠ 0 := by
      rintro rfl
      exact hzero (BitVec.le_zero_iff.mp h)
    have hpos := Nat.zero_lt_of_lt (hslow.resolve_left hzero)
    have hpos' := Nat.zero_lt_of_lt (hfast.resolve_left hne)
    rw [BitVec.le_def, toNat_targetTachCount hperiod hzero, toNat_targetTachCount hperiod hne]
    constructor
    · intro hle n hn
      exact (Nat.le_div_iff_mul_le hpos).mp (((Nat.le_div_iff_mul_le hpos').mpr hn).trans hle)
    · intro hall
      exact (Nat.le_div_iff_mul_le hpos).mpr (hall _ (Nat.div_mul_le_self _ _))

end Max6620FanData

/-! ## Setting a speed -/

theorem tachRatio_result (fan : Max6620FanData) (n : BitVec 32) (s : Rig Max6620Device Byte Errno) :
    (tachRatio fan n s).result = (if fan.noOfTachPulse * n = 0 then .error .undefined
      else .ok (fan.tachCountPeriod * (60 * 8192) / (fan.noOfTachPulse * n))) := rfl

theorem tachRatio_state (fan : Max6620FanData) (n : BitVec 32) (s : Rig Max6620Device Byte Errno) :
    (tachRatio fan n s).state = s := rfl

section FanSpeedSet

variable {fan : Max6620FanData} (hfan : d.max6620Fan fanId = fan)
include hfan

theorem max6620FanSpeedSet_of_le (hmax : speed ≤ fan.maxSpeed) : max6620FanSpeedSet fanId speed ⟨d, bus⟩ =
    (if speed = 0 then fanTargetTachCountSet fanId maxTachCount
      else tachRatio fan speed >>= fanTargetTachCountSet fanId) ⟨d, bus⟩ := by
  rw [max6620FanSpeedSet, data_bind]
  dsimp only
  rw [hfan, if_neg (BitVec.not_lt.mpr hmax)]

theorem max6620FanSpeedSet_stops (hmax : speed ≤ fan.maxSpeed) (h : ¬fan.Divides speed) :
    (max6620FanSpeedSet fanId speed ⟨d, bus⟩).result = .error .undefined := by
  obtain ⟨hne, hzero⟩ := not_or.mp h
  have hratio := tachRatio_result fan speed ⟨d, bus⟩
  rw [if_pos (not_not.mp hzero)] at hratio
  rw [max6620FanSpeedSet_of_le hfan hmax, if_neg hne, bind_error hratio]

theorem max6620FanSpeedSet_returns (hmax : speed ≤ fan.maxSpeed) (hq : bus.Quiet 2) (h : fan.Divides speed) :
    ∃ left, (max6620FanSpeedSet fanId speed ⟨d, bus⟩).result = .ok () ∧
      (max6620FanSpeedSet fanId speed ⟨d, bus⟩).state = ⟨d, left⟩ ∧
      targetCountAt left fanId = fan.targetTachCount speed &&& maxTachCount := by
  obtain ⟨left, hset, hleft⟩ := fanTargetTachCountSet_yields d fanId hq (fan.targetTachCount speed)
  refine ⟨left, ?_, ?_, hleft⟩
  all_goals
    rw [max6620FanSpeedSet_of_le hfan hmax]
    rw [Max6620FanData.targetTachCount] at hset
    split
    · rename_i hzero
      rw [if_pos hzero] at hset
      rw [hset]
    · rename_i hne
      rw [if_neg hne] at hset
      have hratio := tachRatio_result fan speed ⟨d, bus⟩
      rw [if_neg (h.resolve_left hne)] at hratio
      rw [bind_ok hratio, tachRatio_state, hset]

end FanSpeedSet

/-- The call returns with success, and its target is in the register. -/
def Programs (d : Max6620Device) (fanId : Fin 4) (speed : BitVec 32) (bus : Max6620Bus) : Prop :=
  (max6620FanSpeedSet fanId speed ⟨d, bus⟩).result = .ok () ∧
    targetCountAt (max6620FanSpeedSet fanId speed ⟨d, bus⟩).state.bus fanId =
      (d.max6620Fan fanId).targetTachCount speed

structure SetsInOrder (d : Max6620Device) (fanId : Fin 4) (slow fast : BitVec 32) (bus bus' : Max6620Bus) :
    Prop where
  programsSlow : Programs d fanId slow bus
  programsFast : Programs d fanId fast bus'
  order : targetCountAt (max6620FanSpeedSet fanId fast ⟨d, bus'⟩).state.bus fanId ≤
    targetCountAt (max6620FanSpeedSet fanId slow ⟨d, bus⟩).state.bus fanId

section SetsInOrder

variable {fan : Max6620FanData} (hfan : d.max6620Fan fanId = fan) (hperiod : fan.tachCountPeriod.toNat ≤ 32)
include hfan hperiod

theorem programs_iff (hmax : speed ≤ fan.maxSpeed) (hq : bus.Quiet 2) :
    Programs d fanId speed bus ↔ fan.CountFits speed := by
  rw [Max6620FanData.countFits_iff hperiod, Programs, hfan]
  by_cases h : fan.Divides speed
  · obtain ⟨left, hresult, hstate, hleft⟩ := max6620FanSpeedSet_returns hfan hmax hq h
    rw [and_iff_right hresult, and_iff_right h, hstate, hleft]
    exact and_maxTachCount_iff
  · refine iff_of_false (fun hp => ?_) fun hand => h hand.1
    cases hp.1.symm.trans (max6620FanSpeedSet_stops hfan hmax h)

theorem setsInOrder_iff (h : slow ≤ fast) (hmax : fast ≤ fan.maxSpeed) (hq : bus.Quiet 2)
    (hq' : bus'.Quiet 2) :
    SetsInOrder d fanId slow fast bus bus' ↔
      fan.CountFits slow ∧ fan.CountFits fast ∧ fan.InOrder slow fast := by
  have hslow := programs_iff hfan hperiod (BitVec.le_trans h hmax) hq
  have hfast := programs_iff hfan hperiod hmax hq'
  have horder (hp : Programs d fanId slow bus) (hp' : Programs d fanId fast bus') :
      targetCountAt (max6620FanSpeedSet fanId fast ⟨d, bus'⟩).state.bus fanId ≤
        targetCountAt (max6620FanSpeedSet fanId slow ⟨d, bus⟩).state.bus fanId ↔ fan.InOrder slow fast := by
    rw [hp.2, hp'.2, hfan]
    exact Max6620FanData.le_targetTachCount_iff hperiod h (hslow.mp hp) (hfast.mp hp')
  constructor
  · rintro ⟨hp, hp', hle⟩
    exact ⟨hslow.mp hp, hfast.mp hp', (horder hp hp').mp hle⟩
  · rintro ⟨hfits, hfits', hall⟩
    exact ⟨hslow.mpr hfits, hfast.mpr hfits', (horder (hslow.mpr hfits) (hfast.mpr hfits')).mpr hall⟩

end SetsInOrder

theorem fanTachCountPeriodSet_fan (fanId : Fin 4) (s : Rig Max6620Device Byte Errno) :
    (fanTachCountPeriodSet fanId s).state.data.max6620Fan fanId = (s.data.max6620Fan fanId).withPeriod := by
  let P (d : Max6620Device) : Prop := d.max6620Fan fanId = (s.data.max6620Fan fanId).withPeriod
  let start : Rig Max6620Device Byte Errno :=
    ⟨s.data.setFan fanId (s.data.max6620Fan fanId).withPeriod, s.bus⟩
  have hstart : P start.data := Function.update_self fanId _ _
  exact (preserves_onBus (P := P) _).bind (fun _ => preserves_onBus _) start hstart

/-- With the period for its maximum speed, a fan is set in order iff both counts have 11 bits and no wrap
puts their divisors out of order. -/
theorem max6620_setsInOrder_iff {s : Rig Max6620Device Byte Errno} (h : slow ≤ fast)
    (hmax : fast ≤ (s.data.max6620Fan fanId).maxSpeed) (hq : bus.Quiet 2) (hq' : bus'.Quiet 2) :
    SetsInOrder (fanTachCountPeriodSet fanId s).state.data fanId slow fast bus bus' ↔
      (s.data.max6620Fan fanId).withPeriod.CountFits slow ∧
        (s.data.max6620Fan fanId).withPeriod.CountFits fast ∧
        (s.data.max6620Fan fanId).withPeriod.InOrder slow fast :=
  setsInOrder_iff (fanTachCountPeriodSet_fan fanId s) (tachCountPeriod_le _) h hmax hq hq'

/-- A fan of two pulses that turns 500 times a minute at most. -/
def slowFan : Max6620FanData := ⟨2, 0, 500⟩

def slowFanRig : Rig Max6620Device Byte Errno := ⟨⟨fun _ => slowFan⟩, ⟨fun _ => 0, fun _ => none, 0⟩⟩

theorem max6620_setsInOrder_200_500 :
    SetsInOrder (fanTachCountPeriodSet 0 slowFanRig).state.data 0 200 500 slowFanRig.bus slowFanRig.bus :=
  (max6620_setsInOrder_iff (by decide) (by decide) (fun _ _ => rfl) fun _ _ => rfl).mpr
    ⟨.inr (by decide), .inr (by decide), Max6620FanData.inOrder_of_lt (by decide) (by decide)⟩

/-- The count of 100 is 2457, of which the register keeps 409; the count of 500 is 491. -/
theorem max6620_slower_target_faster :
    let d := (fanTachCountPeriodSet 0 slowFanRig).state.data
    let target speed := targetCountAt (max6620FanSpeedSet 0 speed ⟨d, slowFanRig.bus⟩).state.bus 0
    (d.max6620Fan 0).targetTachCount 100 = 2457 ∧ target 100 = 409 ∧ target 500 = 491 ∧
      ¬SetsInOrder d 0 100 500 slowFanRig.bus slowFanRig.bus :=
  ⟨rfl, rfl, rfl, fun h => absurd h.order (by decide)⟩

end OpxSdi.Fan
