import OpxSdi.Fan.Emc2305
import OpxSdi.Fan.Max6620
import OpxSdi.Fan.Pmbus

/-!
# When the arithmetic of the fan drivers is sound

Divisors and factors come from the configuration, from the entity and from the registers. For every device
that registration and any calls leave behind, a callback is sound iff those it meets are in range.
-/

namespace OpxSdi.Fan

open Lib Calc

/-- The callbacks of a fan resource that compute with its data. -/
inductive FanCall (n : Nat)
  | init (fanId : Fin n) (maxRpm : BitVec 32)
  | speedGet (fanId : Fin n)
  | speedSet (fanId : Fin n) (speed : BitVec 32)

theorem inInt_of_natAbs {a : Int} (h : a.natAbs < 2 ^ 31) : InInt a := ⟨by omega, by omega⟩

theorem natAbs_tdiv_le (a b : Int) : (a.tdiv b).natAbs ≤ a.natAbs := by
  rw [Int.natAbs_tdiv]
  exact Nat.div_le_self _ _

theorem natAbs_tdiv_mul_le (a b : Int) : (a.tdiv b * b).natAbs ≤ a.natAbs := by
  rw [Int.natAbs_mul, Int.natAbs_tdiv]
  exact Nat.div_mul_le_self _ _

theorem natCast_toNat_eq_zero_iff {w : Nat} {x : BitVec w} : (x.toNat : Int) = 0 ↔ x = 0 := by
  rw [Int.natCast_eq_zero, BitVec.toNat_eq]
  rfl

/-! ## EMC2305 -/

/-- No edges outside the table and no range but the default, or the zeros of a fan without a node. -/
structure Emc2305FanData.Bounded (fan : Emc2305FanData) : Prop where
  edges_le : fan.edges.toNat ≤ 9
  ranges_le : fan.ranges.toNat ≤ 2

def Emc2305Device.Bounded (d : Emc2305Device) : Prop := ∀ fanId, (d.emc2305Fan fanId).Bounded

section Emc2305

variable {fan : Emc2305FanData} {s : Rig Emc2305Device Byte Errno}

theorem sound_tachCountToRpm_iff (h : fan.Bounded) {count : BitVec 16} :
    (tachCountToRpm fan count).Sound s ↔ count ≠ 0 ∧ fan.poles ≠ 0 := by
  have hedges := h.edges_le
  have hranges := h.ranges_le
  have hcount := count.isLt
  have hpoles := fan.poles.isLt
  have hn : (((fan.edges.toNat : Int) - 1) * tachFreq * fan.ranges.toNat).natAbs ≤ 524288 := by
    rw [tachFreq]
    obtain hr | hr | hr : fan.ranges.toNat = 0 ∨ fan.ranges.toNat = 1 ∨ fan.ranges.toNat = 2 := by omega
    all_goals rw [hr]; omega
  have hn' : (((fan.edges.toNat : Int) - 1) * tachFreq * fan.ranges.toNat * rpmConstVal).natAbs ≤
      31457280 := by
    rw [rpmConstVal]
    omega
  have hd : count.toNat * fan.poles.toNat ≤ 65535 * 255 := Nat.mul_le_mul (by omega) (by omega)
  rw [tachCountToRpm, sound_mulInt_bind_iff, sound_mulInt_bind_iff, sound_mulInt_bind_iff,
    sound_mulInt_bind_iff, sound_divInt_bind_iff, and_iff_right (inInt_of_natAbs (by rw [tachFreq]; omega)),
    and_iff_right (inInt_of_natAbs (by omega)), and_iff_right (inInt_of_natAbs (by omega)),
    and_iff_right (inInt_of_natAbs (by omega)),
    and_iff_left ⟨inInt_of_natAbs (Nat.lt_of_le_of_lt (natAbs_tdiv_le _ _) (by omega)),
      sound_pure _ _⟩, ne_eq,
    Int.mul_eq_zero, not_or, natCast_toNat_eq_zero_iff, natCast_toNat_eq_zero_iff]

theorem sound_rpmToTachCount_iff (h : fan.Bounded) {speed : BitVec 32} :
    (rpmToTachCount fan speed).Sound s ↔ fan.poles ≠ 0 ∧ speed ≠ 0 := by
  have hedges := h.edges_le
  rw [rpmToTachCount, sound_bind_left fun _ _ => sound_pure _ _, targetCount, sound_mulInt_bind_iff,
    sound_mulInt_bind_iff, sound_divInt_bind_iff, sound_mulInt_bind_iff, sound_div_iff]
  have hn : (((fan.edges.toNat : Int) - 1) * tachFreq * rpmConstVal).natAbs ≤ 15728640 := by
    rw [tachFreq, rpmConstVal]
    omega
  rw [and_iff_right (inInt_of_natAbs (by rw [tachFreq]; omega)), and_iff_right (inInt_of_natAbs (by omega)),
    and_iff_right (inInt_of_natAbs (Nat.lt_of_le_of_lt (natAbs_tdiv_le _ _) (by omega))),
    and_iff_right (inInt_of_natAbs (Nat.lt_of_le_of_lt (natAbs_tdiv_mul_le _ _) (by omega))), ne_eq,
    natCast_toNat_eq_zero_iff]

theorem sound_rpmToSpeedPercentGet_iff {maxSpeed rpm : BitVec 32} :
    (rpmToSpeedPercentGet maxSpeed rpm).Sound s ↔ rpm.toNat * 100 < 2 ^ 32 ∧ maxSpeed ≠ 0 := by
  rw [rpmToSpeedPercentGet, sound_mul_bind_iff, sound_div_bind_iff]
  exact and_congr_right fun _ => and_iff_left (sound_pure _ _)

variable {d : Emc2305Device} {fanId : Fin 5} {bus : Emc2305Bus}

/-- The condition on the count, which is 0 when a fan stands still, and on the poles. -/
def Emc2305FanData.ReadsSoundly (fan : Emc2305FanData) (count : BitVec 16) : Prop := count ≠ 0 ∧ fan.poles ≠ 0

def emc2305CountAt (bus : Emc2305Bus) (fanId : Fin 5) : BitVec 16 :=
  tachCount (bus.regs (fanTachReg fanId)) (bus.regs (fanTachLbyteReg fanId))

theorem sound_emc2305FanSpeedGet_iff (h : d.Bounded) :
    (emc2305FanSpeedGet fanId).Sound ⟨d, bus⟩ ↔
      (bus.Quiet 2 → (d.emc2305Fan fanId).ReadsSoundly (emc2305CountAt bus fanId)) := by
  rw [emc2305FanSpeedGet, sound_data_bind_iff, RegBus.readByte, RegBus.readByte, sound_transact_bind_iff,
    sound_transact_bind_iff, sound_tachCountToRpm_iff (h fanId), RegBus.quiet_two_iff]
  exact and_imp.symm

def Emc2305FanData.SetsSoundly (fan : Emc2305FanData) (speed : BitVec 32) : Emc2305FanControl → Prop
  | .rpm => fan.poles ≠ 0 ∧ fan.limit speed ≠ 0
  | .direct => (fan.limit speed).toNat * 100 < 2 ^ 32 ∧ fan.maxSpeed ≠ 0

theorem sound_emc2305FanSpeedSet_iff (h : d.Bounded) {speed : BitVec 32} :
    (emc2305FanSpeedSet fanId speed).Sound ⟨d, bus⟩ ↔
      (d.emc2305Fan fanId).SetsSoundly speed d.fanControlType := by
  rw [emc2305FanSpeedSet, sound_data_bind_iff]
  cases hmode : d.fanControlType with
  | rpm =>
      refine Iff.trans (sound_bind_left fun tachval t => ?_) (sound_rpmToTachCount_iff (h fanId))
      refine (sound_writeByte _ _ t).bind fun _ t => ?_
      exact (sound_writeByte _ _ t).bind fun _ t => sound_writeByte _ _ t
  | direct => exact (sound_bind_left fun _ _ => sound_writeByte _ _ _).trans sound_rpmToSpeedPercentGet_iff

/-! ### What registration and the calls leave -/

theorem Emc2305Device.Bounded.setFan (h : d.Bounded) {fan : Emc2305FanData} (hfan : fan.Bounded) :
    (d.setFan fanId fan).Bounded :=
  (Function.forall_update_iff d.emc2305Fan fun _ fan => fan.Bounded).mpr ⟨hfan, fun i _ => h i⟩

theorem polesEdge_le (poles : BitVec 8) : (polesEdge poles).toNat ≤ 9 := by
  rw [polesEdge]
  match poles.toNat - 1 with
  | 0 | 1 | 2 | 3 => decide
  | n + 4 => exact Nat.zero_le 9

theorem addFan_bounded {s : Emc2305Registered} (h : s.rig.data.Bounded) (hranges : fan.ranges.toNat ≤ 2)
    (hedges : fan.edges.toNat ≤ 9) : (addFan s fanId fan).rig.data.Bounded := by
  rw [addFan]
  split
  · exact h.setFan ⟨polesEdge_le _, hranges⟩
  · exact h.setFan ⟨hedges, hranges⟩

theorem registerFan_bounded {s : Emc2305Registered} {node : ConfigNode} (h : s.rig.data.Bounded)
    (hfan : fan.Bounded) :
    (registerFan s node fanId fan).rig.data.Bounded := by
  rw [registerFan]
  split
  · exact addFan_bounded h (Nat.le_refl 2) hfan.edges_le
  · split
    · exact h.setFan hfan
    · exact addFan_bounded h (Nat.le_refl 2) hfan.edges_le

theorem emc2305DeviceDatabaseInit_bounded {s s' : Emc2305Registered} {node : ConfigNode}
    (h : s.rig.data.Bounded)
    (hs' : emc2305DeviceDatabaseInit s node = .ok s') : s'.rig.data.Bounded := by
  obtain ⟨i, -, hs'⟩ := bind_eq_ok hs'
  cases i with
  | none => cases hs'; exact h
  | some fanId =>
      obtain ⟨maxSpeed, -, hs'⟩ := bind_eq_ok hs'
      cases hs'
      exact registerFan_bounded h ⟨(h fanId).edges_le, (h fanId).ranges_le⟩

theorem emc2305Register_bounded {s : Emc2305Registered} {node : ConfigNode} {children : List ConfigNode}
    (h : emc2305Register node children bus = .ok s) : s.rig.data.Bounded := by
  obtain ⟨_, -, h⟩ := bind_eq_ok h
  obtain ⟨_, -, h⟩ := bind_eq_ok h
  refine foldlM_preserves (P := fun s => s.rig.data.Bounded)
    (fun _ _ _ => emc2305DeviceDatabaseInit_bounded) ?_ h
  exact fun _ => ⟨Nat.zero_le 9, Nat.zero_le 2⟩

def emc2305Call : FanCall 5 → Emc2305Calc Unit
  | .init fanId maxRpm => emc2305ResourceInit fanId maxRpm
  | .speedGet fanId => do let _ ← emc2305FanSpeedGet fanId
  | .speedSet fanId speed => emc2305FanSpeedSet fanId speed

/-- A device that has been registered and on which any calls have been made. -/
def Emc2305Device.Reached : Emc2305Device → Prop :=
  Calc.Reached
    (fun d => ∃ node children bus s, emc2305Register node children bus = .ok s ∧ s.rig.data = d)
    emc2305Call

variable {P : Emc2305Device → Prop}

theorem emc2305FanSpeedGet_preserves (fanId : Fin 5) : (emc2305FanSpeedGet fanId).Preserves P := by
  refine preserves_data.bind fun _ => (preserves_onBus _).bind fun _ => (preserves_onBus _).bind fun _ => ?_
  refine (preserves_mulInt _ _).bind fun _ => (preserves_mulInt _ _).bind fun _ => ?_
  refine (preserves_mulInt _ _).bind fun _ => (preserves_mulInt _ _).bind fun _ => ?_
  exact (preserves_divInt _ _).bind fun _ => preserves_pure _

theorem rpmToTachCount_preserves (fan : Emc2305FanData) (speed : BitVec 32) :
    (rpmToTachCount fan speed).Preserves P := by
  refine Preserves.bind ?_ fun _ => preserves_pure _
  refine (preserves_mulInt _ _).bind fun _ => (preserves_mulInt _ _).bind fun _ => ?_
  exact (preserves_divInt _ _).bind fun _ => (preserves_mulInt _ _).bind fun _ => preserves_div _ _

theorem emc2305FanSpeedSet_preserves (fanId : Fin 5) (speed : BitVec 32) :
    (emc2305FanSpeedSet fanId speed).Preserves P := by
  refine preserves_data.bind fun d => ?_
  cases d.fanControlType with
  | rpm =>
      refine (rpmToTachCount_preserves _ _).bind fun _ => (preserves_onBus _).bind fun _ => ?_
      exact (preserves_onBus _).bind fun _ => preserves_onBus _
  | direct =>
      refine Preserves.bind ?_ fun _ => preserves_onBus _
      exact (preserves_mul _ _).bind fun _ => (preserves_div _ _).bind fun _ => preserves_pure _

theorem Emc2305Device.Bounded.initMaxSpeed (h : d.Bounded) (maxRpm : BitVec 32) :
    (d.initMaxSpeed fanId maxRpm).Bounded := by
  rw [Emc2305Device.initMaxSpeed]
  split
  · exact h.setFan ⟨(h fanId).edges_le, (h fanId).ranges_le⟩
  · exact h

theorem emc2305Call_preserves (c : FanCall 5) : (emc2305Call c).Preserves Emc2305Device.Bounded := by
  cases c with
  | init fanId maxRpm =>
      refine (preserves_onBus _).attempt.bind fun _ => ?_
      refine (preserves_modifyData fun d h => h.initMaxSpeed maxRpm).bind fun _ => ?_
      exact preserves_data.bind fun _ => emc2305FanSpeedSet_preserves _ _
  | speedGet fanId => exact (emc2305FanSpeedGet_preserves fanId).bind fun _ => preserves_pure _
  | speedSet fanId speed => exact emc2305FanSpeedSet_preserves fanId speed

theorem Emc2305Device.Reached.bounded (h : d.Reached) : d.Bounded := by
  refine Calc.Reached.inv ?_ emc2305Call_preserves h
  rintro _ ⟨node, children, bus, s, hs, rfl⟩
  exact emc2305Register_bounded hs

end Emc2305

/-! ## MAX6620 -/

def Max6620Device.Bounded (d : Max6620Device) : Prop :=
  ∀ fanId, (d.max6620Fan fanId).tachCountPeriod.toNat ≤ 32

section Max6620

variable {d : Max6620Device} {fanId : Fin 4} {bus : Max6620Bus} {s : Rig Max6620Device Byte Errno}

theorem sound_tachRatio_iff {fan : Max6620FanData} (h : fan.tachCountPeriod.toNat ≤ 32) {n : BitVec 32}
    (hn : n ≠ 0) :
    (tachRatio fan n).Sound s ↔ fan.noOfTachPulse ≠ 0 ∧ fan.noOfTachPulse.toNat * n.toNat < 2 ^ 32 := by
  have hperiod : fan.tachCountPeriod.toNat * (60 * 8192 : BitVec 32).toNat < 2 ^ 32 :=
    Nat.lt_of_le_of_lt (Nat.mul_le_mul_right _ h) (by decide)
  rw [tachRatio, sound_mul_bind_iff, and_iff_right hperiod, sound_mul_bind_iff, sound_div_iff, and_comm]
  refine and_congr_left fun hfits => not_congr ?_
  have hn' : n.toNat ≠ 0 := fun h0 => hn (BitVec.eq_of_toNat_eq h0)
  rw [← BitVec.toNat_inj, ← BitVec.toNat_inj, BitVec.toNat_mul, Nat.mod_eq_of_lt hfits]
  exact Nat.mul_eq_zero.trans (or_iff_left hn')

def Max6620FanData.ConvertsSoundly (fan : Max6620FanData) (n : BitVec 32) : Prop :=
  fan.noOfTachPulse ≠ 0 ∧ fan.noOfTachPulse.toNat * n.toNat < 2 ^ 32

def tachCountAt (bus : Max6620Bus) (fanId : Fin 4) : BitVec 32 :=
  tachCountVal (bus.regs (fanTachCnt fanId + 1)) (bus.regs (fanTachCnt fanId))

theorem fanTachCountGet_yields (h : bus.fault bus.time = none) :
    (fanTachCountGet fanId).Yields ⟨d, bus⟩ (.ok (tachCountAt bus fanId))
      ⟨d, { bus with time := bus.time + 1 }⟩ := by
  refine Yields.bind (yields_transact h) ?_
  rw [bytesLe_wordAt]
  rfl

theorem fanTachCountGet_fault {e : Errno} (h : bus.fault bus.time = some e) :
    (fanTachCountGet fanId).Yields ⟨d, bus⟩ (.error (.bus e)) ⟨d, { bus with time := bus.time + 1 }⟩ :=
  (yields_transact_fault _ h).stop

theorem sound_max6620FanSpeedGet_iff (h : d.Bounded) :
    (max6620FanSpeedGet fanId).Sound ⟨d, bus⟩ ↔ (bus.fault bus.time = none →
      tachCountAt bus fanId ≠ 0 → tachCountAt bus fanId ≠ maxTachCount →
      (d.max6620Fan fanId).ConvertsSoundly (tachCountAt bus fanId)) := by
  rw [max6620FanSpeedGet, sound_data_bind_iff]
  cases hfault : bus.fault bus.time with
  | some e =>
      exact iff_of_true (fanTachCountGet_fault hfault).stop.sound_stop nofun
  | none =>
      rw [forall_prop_of_true rfl, (fanTachCountGet_yields hfault).sound_bind_iff]
      split
      · rename_i hzero
        exact iff_of_true (sound_pure _ _) fun hne => absurd hzero hne
      · rename_i hzero
        rw [forall_prop_of_true hzero]
        split
        · rename_i hmax
          exact iff_of_true (sound_pure _ _) fun hne => absurd hmax hne
        · rename_i hmax
          rw [forall_prop_of_true hmax]
          exact (sound_bind_left fun _ _ => sound_pure _ _).trans (sound_tachRatio_iff (h fanId) hzero)

theorem sound_fanTargetTachCountSet (fanId : Fin 4) (target : BitVec 32) (s : Rig Max6620Device Byte Errno) :
    (fanTargetTachCountSet fanId target).Sound s :=
  (sound_transact _ s).bind fun _ t => sound_transact _ t

theorem sound_max6620FanSpeedSet_iff (h : d.Bounded) {speed : BitVec 32} :
    (max6620FanSpeedSet fanId speed).Sound ⟨d, bus⟩ ↔
      (speed ≤ (d.max6620Fan fanId).maxSpeed → speed ≠ 0 → (d.max6620Fan fanId).ConvertsSoundly speed) := by
  rw [max6620FanSpeedSet, sound_data_bind_iff]
  dsimp only
  split
  · rename_i hmax
    exact iff_of_true (sound_fail _ _) fun hle => absurd hmax (BitVec.not_lt.mpr hle)
  · rename_i hmax
    rw [forall_prop_of_true (BitVec.not_lt.mp hmax)]
    split
    · rename_i hzero
      exact iff_of_true (sound_fanTargetTachCountSet _ _ _) fun hne => absurd hzero hne
    · rename_i hne
      rw [forall_prop_of_true hne]
      exact (sound_bind_left fun _ _ => sound_fanTargetTachCountSet _ _ _).trans
        (sound_tachRatio_iff (h fanId) hne)

/-! ### What registration and the calls leave -/

theorem Max6620Device.Bounded.setFan (h : d.Bounded) {fan : Max6620FanData}
    (hfan : fan.tachCountPeriod.toNat ≤ 32) :
    (d.setFan fanId fan).Bounded :=
  (Function.forall_update_iff d.max6620Fan fun _ fan => fan.tachCountPeriod.toNat ≤ 32).mpr
    ⟨hfan, fun i _ => h i⟩

theorem max6620DeviceDatabaseInit_bounded {s s' : Max6620Registered} {node : ConfigNode}
    (h : s.device.Bounded)
    (hs' : max6620DeviceDatabaseInit s node = .ok s') : s'.device.Bounded := by
  obtain ⟨i, -, hs'⟩ := bind_eq_ok hs'
  cases i with
  | none => cases hs'; exact h
  | some fanId =>
      obtain ⟨maxSpeed, -, hs'⟩ := bind_eq_ok hs'
      cases hs'
      exact h.setFan (h fanId)

theorem max6620Register_bounded {s : Max6620Registered} {node : ConfigNode} {children : List ConfigNode}
    (h : max6620Register node children = .ok s) : s.device.Bounded := by
  obtain ⟨_, -, h⟩ := bind_eq_ok h
  obtain ⟨_, -, h⟩ := bind_eq_ok h
  refine foldlM_preserves (P := fun s => s.device.Bounded)
    (fun _ _ _ => max6620DeviceDatabaseInit_bounded) ?_ h
  exact fun _ => Nat.zero_le 32

variable {P : Max6620Device → Prop}

theorem tachRatio_preserves {fan : Max6620FanData} {n : BitVec 32} : (tachRatio fan n).Preserves P :=
  (preserves_mul _ _).bind fun _ => (preserves_mul _ _).bind fun _ => preserves_div _ _

theorem max6620FanSpeedGet_preserves (fanId : Fin 4) : (max6620FanSpeedGet fanId).Preserves P := by
  refine preserves_data.bind fun d => ?_
  refine ((preserves_onBus _).bind fun _ => preserves_pure _).bind fun count => ?_
  split
  · exact preserves_pure _
  · split
    · exact preserves_pure _
    · exact tachRatio_preserves.bind fun _ => preserves_pure _

theorem fanTargetTachCountSet_preserves (fanId : Fin 4) (target : BitVec 32) :
    (fanTargetTachCountSet fanId target).Preserves P := (preserves_onBus _).bind fun _ => preserves_onBus _

theorem max6620FanSpeedSet_preserves (fanId : Fin 4) (speed : BitVec 32) :
    (max6620FanSpeedSet fanId speed).Preserves P := by
  refine preserves_data.bind fun d => ?_
  dsimp only
  split
  · exact preserves_fail _
  · split
    · exact fanTargetTachCountSet_preserves _ _
    · exact tachRatio_preserves.bind fun _ => fanTargetTachCountSet_preserves _ _

theorem tachCountPeriod_le (maxSpeed : BitVec 32) : (tachCountPeriod maxSpeed).1.toNat ≤ 32 := by
  rw [tachCountPeriod]
  repeat' split
  all_goals decide

theorem fanTachCountPeriodSet_preserves (fanId : Fin 4) :
    (fanTachCountPeriodSet fanId).Preserves Max6620Device.Bounded := by
  refine preserves_data.bind fun d => ?_
  refine (preserves_modifyData fun d' h => h.setFan (tachCountPeriod_le _)).bind fun _ => ?_
  exact (preserves_onBus _).bind fun _ => preserves_onBus _

theorem max6620InitFan_preserves (fanId : Fin 4) :
    (max6620InitFan fanId).Preserves Max6620Device.Bounded := by
  refine (fanTachCountPeriodSet_preserves fanId).attempt.bind fun _ => (preserves_onBus _).bind fun _ => ?_
  refine preserves_data.bind fun _ => (preserves_mul _ _).bind fun _ => (preserves_div _ _).bind fun _ => ?_
  exact (max6620FanSpeedSet_preserves _ _).bind fun _ => preserves_onBus _

theorem Max6620Device.Bounded.initMaxSpeed (h : d.Bounded) (maxRpm : BitVec 32) :
    (d.initMaxSpeed fanId maxRpm).Bounded := by
  rw [Max6620Device.initMaxSpeed]
  split
  · exact h.setFan (h fanId)
  · exact h

def max6620Call : FanCall 4 → Max6620Calc Unit
  | .init fanId maxRpm => max6620ResourceInit fanId maxRpm
  | .speedGet fanId => do let _ ← max6620FanSpeedGet fanId
  | .speedSet fanId speed => max6620FanSpeedSet fanId speed

theorem max6620Call_preserves (c : FanCall 4) : (max6620Call c).Preserves Max6620Device.Bounded := by
  cases c with
  | init fanId maxRpm =>
      exact (preserves_modifyData fun d h => h.initMaxSpeed maxRpm).bind fun _ =>
        max6620InitFan_preserves fanId
  | speedGet fanId => exact (max6620FanSpeedGet_preserves fanId).bind fun _ => preserves_pure _
  | speedSet fanId speed => exact max6620FanSpeedSet_preserves fanId speed

def Max6620Device.Reached : Max6620Device → Prop :=
  Calc.Reached (fun d => ∃ node children s, max6620Register node children = .ok s ∧ s.device = d) max6620Call

theorem Max6620Device.Reached.bounded (h : d.Reached) : d.Bounded := by
  refine Calc.Reached.inv ?_ max6620Call_preserves h
  rintro _ ⟨node, children, s, hs, rfl⟩
  exact max6620Register_bounded hs

end Max6620

/-! ## PMBus -/

section Pmbus

variable {Pat : Type} (regexec : Pat → List Char → Bool) {dev : PmbusDev Pat} {bus : RegBus Byte Errno}

/-- The condition on a device and a PPID: the maximum speed does not come to less than one percent step. -/
def PmbusDev.ConvertsSoundly (dev : PmbusDev Pat) (ppid : Option (List Char)) : Prop :=
  dev.HasEntry regexec ppid ∨ dev.maxFanSpeed = 0 ∨ 100 ≤ dev.maxFanSpeed.toNat

theorem sound_fanSpeedRpmToPct_iff {ppid : Option (List Char)} {rpm : BitVec 32} :
    (fanSpeedRpmToPct regexec ppid rpm).Sound ⟨dev, bus⟩ ↔ dev.ConvertsSoundly regexec ppid := by
  rw [fanSpeedRpmToPct, sound_data_bind_iff, PmbusDev.ConvertsSoundly]
  cases hpct : mappedPct regexec dev ppid rpm with
  | some pct =>
      refine iff_of_true (sound_pure _ _) (.inl (not_not.mp fun h => ?_))
      cases hpct.symm.trans ((mappedPct_eq_none_iff regexec).mpr h)
  | none =>
      rw [or_iff_right ((mappedPct_eq_none_iff regexec).mp hpct)]
      dsimp only
      split
      · rename_i hmax
        rw [or_iff_right hmax, sound_div_bind_iff, sound_div_iff, and_iff_right (by decide), ne_eq,
          ← BitVec.toNat_inj, BitVec.toNat_udiv]
        exact (not_congr Nat.div_eq_zero_iff).trans (by simp)
      · rename_i hmax
        exact iff_of_true (sound_pure _ _) (.inl (not_not.mp hmax))

/-! ## All drivers -/

/-- On every device that registration and calls have left, whatever its bus holds and whatever fails, a
callback is sound iff the numbers it meets are in range. -/
theorem fan_arithmetic_sound_iff :
    (∀ d : Emc2305Device, d.Reached → ∀ fanId bus, (emc2305FanSpeedGet fanId).Sound ⟨d, bus⟩ ↔
      (bus.Quiet 2 → (d.emc2305Fan fanId).ReadsSoundly (emc2305CountAt bus fanId))) ∧
    (∀ d : Emc2305Device, d.Reached → ∀ fanId speed bus, (emc2305FanSpeedSet fanId speed).Sound ⟨d, bus⟩ ↔
      (d.emc2305Fan fanId).SetsSoundly speed d.fanControlType) ∧
    (∀ d : Max6620Device, d.Reached → ∀ fanId bus, (max6620FanSpeedGet fanId).Sound ⟨d, bus⟩ ↔
      (bus.fault bus.time = none → tachCountAt bus fanId ≠ 0 → tachCountAt bus fanId ≠ maxTachCount →
        (d.max6620Fan fanId).ConvertsSoundly (tachCountAt bus fanId))) ∧
    (∀ d : Max6620Device, d.Reached → ∀ fanId speed bus, (max6620FanSpeedSet fanId speed).Sound ⟨d, bus⟩ ↔
      (speed ≤ (d.max6620Fan fanId).maxSpeed → speed ≠ 0 → (d.max6620Fan fanId).ConvertsSoundly speed)) ∧
    ∀ (dev : PmbusDev Pat) ppid rpm bus, (fanSpeedRpmToPct regexec ppid rpm).Sound ⟨dev, bus⟩ ↔
      dev.ConvertsSoundly regexec ppid :=
  ⟨fun _ hd _ _ => sound_emc2305FanSpeedGet_iff hd.bounded,
    fun _ hd _ _ _ => sound_emc2305FanSpeedSet_iff hd.bounded,
    fun _ hd _ _ => sound_max6620FanSpeedGet_iff hd.bounded,
    fun _ hd _ _ _ => sound_max6620FanSpeedSet_iff hd.bounded,
    fun _ _ _ _ => sound_fanSpeedRpmToPct_iff regexec⟩

end Pmbus

def emc2305Node : ConfigNode :=
  ⟨some "emc2305".toList, [("instance".toList, "0".toList), ("addr".toList, "2c".toList)]⟩

def twoPoleNode : ConfigNode :=
  ⟨some "fan".toList, [("fan_speed".toList, "10000".toList), ("poles".toList, "2".toList)]⟩

def twoPoleDevice : Emc2305Device := ⟨Function.update (fun _ => ⟨0, 0, 0, 0⟩) 0 ⟨10000, 2, 5, 2⟩, .direct⟩

/-- The tachometer of a fan that stands still counts nothing. -/
def stoppedBus : Emc2305Bus := ⟨fun _ => 0, fun _ => none, 0⟩

theorem twoPoleDevice_reached : twoPoleDevice.Reached :=
  .start ⟨emc2305Node, [twoPoleNode], stoppedBus, ⟨⟨twoPoleDevice, stoppedBus⟩, [0]⟩, rfl, rfl⟩

theorem twoPoleDevice_sets_soundly : (emc2305FanSpeedSet 0 5000).Sound ⟨twoPoleDevice, stoppedBus⟩ :=
  ((fan_arithmetic_sound_iff fun (_ : Unit) _ => false).2.1 _ twoPoleDevice_reached 0 5000 _).mpr
    ⟨by decide, by decide⟩

theorem emc2305_stopped_divides_by_zero :
    twoPoleDevice.Reached ∧ (emc2305FanSpeedGet 0 ⟨twoPoleDevice, stoppedBus⟩).result = .error .undefined :=
  ⟨twoPoleDevice_reached, rfl⟩

end OpxSdi.Fan
