import OpxSdi.Fan.Emc2305

/-!
# The speed that is read back

The speed that `sdi_emc2305_fan_speed_get` returns when the fan runs at the target that
`sdi_emc2305_fan_speed_set` has programmed.
-/

namespace OpxSdi.Fan

open Lib Calc

/-! ## The formula -/

namespace Emc2305FanData

/-- `(N - 1) * M * FREQ * 60`, where `M` is the multiplier of the range. -/
def edgeRate (fan : Emc2305FanData) : Nat := (fan.edges.toNat - 1) * fan.ranges.toNat * 32768 * 60

def rpm (fan : Emc2305FanData) (count : Nat) : Nat := fan.edgeRate / (fan.poles.toNat * count)

/-- The target count of a speed, rounded down. -/
def count (fan : Emc2305FanData) (speed : Nat) : Nat := fan.edgeRate / (fan.poles.toNat * speed)

/-- A fan with its edges from the table and with the default range. -/
structure Standard (fan : Emc2305FanData) : Prop where
  one_le_poles : 1 ≤ fan.poles.toNat
  poles_le_four : fan.poles.toNat ≤ 4
  edges_eq : fan.edges = polesEdge fan.poles
  ranges_eq : fan.ranges = rangexDefault

/-- The speed the formula gives for the target count, less than one count above the speed asked for. -/
structure WithinOneCount (fan : Emc2305FanData) (speed read : Nat) : Prop where
  count_pos : 0 < fan.count speed
  read_eq : read = fan.rpm (fan.count speed)
  next_lt : fan.rpm (fan.count speed + 1) < speed
  le_read : speed ≤ read

theorem Standard.edges_toNat {fan : Emc2305FanData} (h : fan.Standard) :
    fan.edges.toNat = 2 * fan.poles.toNat + 1 := by
  have hone := h.one_le_poles
  have hfour := h.poles_le_four
  rw [h.edges_eq, polesEdge]
  obtain hp | hp | hp | hp : fan.poles.toNat = 1 ∨ fan.poles.toNat = 2 ∨ fan.poles.toNat = 3 ∨
      fan.poles.toNat = 4 := by omega
  all_goals rw [hp]; rfl

theorem Standard.ranges_toNat {fan : Emc2305FanData} (h : fan.Standard) : fan.ranges.toNat = 2 := by
  rw [h.ranges_eq]
  rfl

theorem Standard.edgeRate_eq {fan : Emc2305FanData} (h : fan.Standard) :
    fan.edgeRate = fan.poles.toNat * 7864320 := by
  rw [edgeRate, h.edges_toNat, h.ranges_toNat]
  omega

theorem Standard.rpm_eq {fan : Emc2305FanData} (h : fan.Standard) (count : Nat) :
    fan.rpm count = 7864320 / count := by
  rw [rpm, h.edgeRate_eq, Nat.mul_div_mul_left _ _ h.one_le_poles]

theorem Standard.count_eq {fan : Emc2305FanData} (h : fan.Standard) (speed : Nat) :
    fan.count speed = 7864320 / speed := h.rpm_eq speed

end Emc2305FanData

/-! ## Rounding -/

theorem le_div_div {n k : Nat} (h : 0 < n / k) : k ≤ n / (n / k) :=
  (Nat.le_div_iff_mul_le h).mpr (Nat.mul_div_le n k)

theorem div_lt_of_div_lt {n k m : Nat} (hk : 0 < k) (h : n / k < m) : n / m < k := by
  rw [Nat.div_lt_iff_lt_mul (Nat.zero_lt_of_lt h), Nat.mul_comm]
  exact (Nat.div_lt_iff_lt_mul hk).mp h

theorem div_lt_div_div {n k m : Nat} (hk : 0 < k) (hpos : 0 < n / k) (h : n / k < m) : n / m < n / (n / k) :=
  Nat.lt_of_lt_of_le (div_lt_of_div_lt hk h) (le_div_div hpos)

theorem Emc2305FanData.Standard.withinOneCount_iff {fan : Emc2305FanData} (h : fan.Standard) {speed : Nat}
    (hspeed : 0 < speed) (read : Nat) :
    fan.WithinOneCount speed read ↔ 0 < 7864320 / speed ∧ read = 7864320 / (7864320 / speed) := by
  constructor
  · rintro ⟨hpos, hread, -, -⟩
    rw [h.count_eq] at hpos hread
    exact ⟨hpos, hread.trans (h.rpm_eq _)⟩
  · rintro ⟨hpos, rfl⟩
    refine ⟨by rwa [h.count_eq], by rw [h.count_eq, h.rpm_eq], ?_, le_div_div hpos⟩
    rw [h.count_eq, h.rpm_eq]
    exact div_lt_of_div_lt hspeed (Nat.lt_succ_self _)

/-! ## The setter's count

It is `q = p * 3932160 / s` for `p` poles and the speed `s`: the multiplier of the range is left out and the
poles cancel. The target count is `c = 7864320 / s`.
-/

/-- The speed at `q` is the one at the target count, and `q` fits. -/
def Restores (p s : Nat) : Prop :=
  p * 3932160 / s < 2 ^ 13 ∧ 0 < p * 3932160 / s ∧ 0 < 7864320 / s ∧
    7864320 / (p * 3932160 / s) = 7864320 / (7864320 / s)

variable {s : Nat}

/-- With one pole the count is at most half the target, and the speed is at least twice as high. -/
theorem not_restores_one (hs : 0 < s) : ¬Restores 1 s := by
  rintro ⟨-, hq, hc, heq⟩
  have hmul : 1 * 3932160 / s * s ≤ 3932160 := Nat.div_mul_le_self _ _
  have htwice : 1 * 3932160 / s * 2 ≤ 7864320 / s := by
    rw [Nat.le_div_iff_mul_le hs, Nat.mul_right_comm]
    omega
  have hhalf : 7864320 / (7864320 / s) ≤ 7864320 / (1 * 3932160 / s) / 2 := by
    rw [Nat.div_div_eq_div_mul]
    exact Nat.div_le_div_left htwice (by omega)
  have hle : 1 * 3932160 / s ≤ 7864320 := Nat.le_trans (Nat.div_le_self _ _) (by omega)
  have hpos : 0 < 7864320 / (1 * 3932160 / s) := Nat.div_pos hle hq
  omega

theorem restores_two_iff (hs : 0 < s) : Restores 2 s ↔ 960 < s ∧ s ≤ 7864320 := by
  have hfits : 7864320 / s < 2 ^ 13 ↔ 960 < s := by
    rw [Nat.div_lt_iff_lt_mul hs]
    omega
  rw [Restores, show 2 * 3932160 = 7864320 from rfl, hfits, Nat.div_pos_iff]
  exact ⟨fun h => ⟨h.1, h.2.1.2⟩, fun h => ⟨h.1, ⟨hs, h.2⟩, ⟨hs, h.2⟩, rfl⟩⟩

theorem not_restores_of_lt {p : Nat} (hs : 0 < s) (h : 7864320 / s < p * 3932160 / s) : ¬Restores p s :=
  fun ⟨_, _, hc, heq⟩ => Nat.ne_of_lt (div_lt_div_div hs hc h) heq

/-- With three poles the count is one and a half times the target. -/
theorem restores_three_iff (hs : 0 < s) : Restores 3 s ↔ 5898240 < s ∧ s ≤ 7864320 := by
  constructor
  · intro h
    have hle : s ≤ 7864320 := (Nat.div_pos_iff.mp h.2.2.1).2
    refine ⟨Nat.lt_of_not_le fun hslow => not_restores_of_lt hs ?_ h, hle⟩
    have hmul : 7864320 / s * s ≤ 7864320 := Nat.div_mul_le_self _ _
    rw [Nat.lt_iff_add_one_le, Nat.le_div_iff_mul_le hs, Nat.add_mul, Nat.one_mul]
    rcases Nat.lt_or_ge (7864320 / s) 2 with hone | htwo
    · have hc : 7864320 / s * s ≤ 1 * s := Nat.mul_le_mul_right s (by omega)
      omega
    · have hc : 2 * s ≤ 7864320 / s * s := Nat.mul_le_mul_right s htwo
      omega
  · rintro ⟨hfast, hle⟩
    have hq : 3 * 3932160 / s = 1 := Nat.div_eq_of_lt_le (by omega) (by omega)
    have hc : 7864320 / s = 1 := Nat.div_eq_of_lt_le (by omega) (by omega)
    rw [Restores, hq, hc]
    decide

theorem not_restores_four (hs : 0 < s) : ¬Restores 4 s := by
  intro h
  refine not_restores_of_lt hs ?_ h
  have hmul : 7864320 / s * s ≤ 7864320 := Nat.div_mul_le_self _ _
  have hle : s ≤ 7864320 := (Nat.div_pos_iff.mp h.2.2.1).2
  rw [Nat.lt_iff_add_one_le, Nat.le_div_iff_mul_le hs, Nat.add_mul, Nat.one_mul]
  omega

theorem restores_iff {p : Nat} (hone : 1 ≤ p) (hfour : p ≤ 4) (hs : 0 < s) :
    Restores p s ↔ p = 2 ∧ 960 < s ∧ s ≤ 7864320 ∨ p = 3 ∧ 5898240 < s ∧ s ≤ 7864320 := by
  obtain rfl | rfl | rfl | rfl : p = 1 ∨ p = 2 ∨ p = 3 ∨ p = 4 := by omega
  · exact iff_of_false (not_restores_one hs) (by omega)
  · rw [restores_two_iff hs]
    omega
  · rw [restores_three_iff hs]
    omega
  · exact iff_of_false (not_restores_four hs) (by omega)

/-! ## Runs of the formulas -/

variable {fan : Emc2305FanData}

theorem inInt_of_lt {n : Nat} (h : n < 2 ^ 31) : InInt n := ⟨by omega, by omega⟩

theorem Emc2305FanData.Standard.targetCount_yields (h : fan.Standard) {speed : BitVec 32}
    (hspeed : 0 < speed.toNat) (s : Rig Emc2305Device Byte Errno) :
    (targetCount fan speed).Yields s (.ok (BitVec.ofNat 32 (fan.poles.toNat * 3932160) / speed)) s := by
  have hone := h.one_le_poles
  have hfour := h.poles_le_four
  have hp : (fan.poles.toNat : Int) ≠ 0 := by omega
  rw [targetCount]
  refine (yields_mulInt (n := (fan.poles.toNat * 65536 : Nat)) ?_ (inInt_of_lt (by omega)) s).bind ?_
  · rw [h.edges_toNat, tachFreq]
    omega
  refine (yields_mulInt (n := (fan.poles.toNat * 3932160 : Nat)) ?_ (inInt_of_lt (by omega)) s).bind ?_
  · rw [rpmConstVal]
    omega
  refine (yields_divInt hp (n := (3932160 : Nat)) ?_ (inInt_of_lt (by omega)) s).bind ?_
  · rw [Int.natCast_mul, Int.mul_tdiv_cancel_left _ hp]
  refine (yields_mulInt (n := (fan.poles.toNat * 3932160 : Nat)) ?_ (inInt_of_lt (by omega)) s).bind ?_
  · omega
  rw [BitVec.ofInt_natCast]
  exact yields_div (by rintro rfl; exact Nat.lt_irrefl 0 hspeed) s

theorem Emc2305FanData.Standard.tachCountToRpm_yields (h : fan.Standard) {count : BitVec 16}
    {s : Rig Emc2305Device Byte Errno} {r : Except (Stop Errno) Int}
    (hdiv : (divInt (fan.poles.toNat * 7864320 : Nat) (count.toNat * fan.poles.toNat : Nat)).Yields s r s) :
    (tachCountToRpm fan count).Yields s (r.map (BitVec.ofInt 32)) s := by
  have hfour := h.poles_le_four
  have hlt := count.isLt
  have hd : count.toNat * fan.poles.toNat ≤ 65535 * 4 := Nat.mul_le_mul (by omega) hfour
  rw [tachCountToRpm]
  refine (yields_mulInt (n := (fan.poles.toNat * 65536 : Nat)) ?_ (inInt_of_lt (by omega)) s).bind ?_
  · rw [h.edges_toNat, tachFreq]
    omega
  refine (yields_mulInt (n := (fan.poles.toNat * 131072 : Nat)) ?_ (inInt_of_lt (by omega)) s).bind ?_
  · rw [h.ranges_toNat]
    omega
  refine (yields_mulInt (n := (fan.poles.toNat * 7864320 : Nat)) ?_ (inInt_of_lt (by omega)) s).bind ?_
  · rw [rpmConstVal]
    omega
  refine (yields_mulInt (n := (count.toNat * fan.poles.toNat : Nat)) rfl (inInt_of_lt (by omega)) s).bind ?_
  cases r with
  | error e => exact hdiv.stop
  | ok speed => exact hdiv.bind rfl

theorem Emc2305FanData.Standard.tachCountToRpm_pos (h : fan.Standard) {count : BitVec 16}
    (hcount : 0 < count.toNat) (s : Rig Emc2305Device Byte Errno) :
    (tachCountToRpm fan count).Yields s (.ok (BitVec.ofNat 32 (7864320 / count.toNat))) s := by
  have hdpos : 0 < count.toNat * fan.poles.toNat := Nat.mul_pos hcount h.one_le_poles
  have hle : 7864320 / count.toNat ≤ 7864320 := Nat.div_le_self _ _
  refine h.tachCountToRpm_yields (r := .ok (7864320 / count.toNat : Nat)) ?_
  refine yields_divInt (by omega) ?_ (inInt_of_lt (by omega)) s
  rw [← Int.ofNat_tdiv, Nat.mul_comm count.toNat, Nat.mul_div_mul_left _ _ h.one_le_poles]

theorem Emc2305FanData.Standard.tachCountToRpm_zero (h : fan.Standard) {count : BitVec 16}
    (hcount : count.toNat = 0) (s : Rig Emc2305Device Byte Errno) :
    (tachCountToRpm fan count).Yields s (.error .undefined) s := by
  refine h.tachCountToRpm_yields (r := .error .undefined) ?_
  rw [hcount, Nat.zero_mul]
  exact yields_divInt_zero _ s

/-! ## Through the registers -/

theorem getLsbD_highByte : ∀ i < 8, BitVec.getLsbD (0xff00 : BitVec 16) (8 + i) = true := by decide

theorem getLsbD_lowByte : ∀ i < 8, BitVec.getLsbD (0xff : BitVec 16) i = true := by decide

theorem tachHigh_tachLow (tachval : BitVec 16) :
    (tachHigh tachval).setWidth 16 <<< 8 ||| (tachLow tachval).setWidth 16 = tachval := by
  ext i hi
  simp only [tachHigh, tachLow, BitVec.getElem_or, BitVec.getElem_shiftLeft, BitVec.getElem_setWidth,
    BitVec.getLsbD_setWidth, BitVec.getLsbD_ushiftRight, BitVec.getLsbD_and]
  by_cases hlow : i < 8
  · rw [getLsbD_lowByte i hlow]
    simp [hlow, BitVec.getLsbD_eq_getElem hi]
  · rw [getLsbD_highByte (i - 8) (by omega), show 8 + (i - 8) = i by omega]
    simp [hlow, show i - 8 < 8 by omega, BitVec.getLsbD_eq_getElem hi]

theorem tachCount_target (tachval : BitVec 16) :
    tachCount (tachHigh tachval) (tachLow tachval) = tachval >>> 3 := by
  rw [tachCount, tachHigh_tachLow]

theorem shift_target (count : BitVec 32) :
    ((count.setWidth 16 <<< 3) >>> 3).toNat = count.toNat % 2 ^ 13 := by
  simp only [BitVec.toNat_ushiftRight, BitVec.toNat_shiftLeft, BitVec.toNat_setWidth,
    Nat.shiftRight_eq_div_pow, Nat.shiftLeft_eq]
  omega

theorem fanReg_ne {a b : Byte} (h : a ≠ b) (fanId : Fin 5) : fanReg a fanId ≠ fanReg b fanId :=
  fun he => h (BitVec.add_left_inj _ |>.mp he)

/-- What the getter is asked to read: the tachometer reports the target. -/
structure Reports (fanId : Fin 5) (target bus : Emc2305Bus) : Prop where
  high : bus.regs (fanTachReg fanId) = target.regs (fanTachTargReg fanId)
  low : bus.regs (fanTachLbyteReg fanId) = target.regs (fanTachLtargReg fanId)

theorem emc2305FanSpeedGet_yields {d : Emc2305Device} {fanId : Fin 5} {bus : Emc2305Bus}
    {r : Except (Stop Errno) (BitVec 32)} {t : Rig Emc2305Device Byte Errno} (hquiet : bus.Quiet 2)
    (h : (tachCountToRpm (d.emc2305Fan fanId)
      (tachCount (bus.regs (fanTachReg fanId)) (bus.regs (fanTachLbyteReg fanId)))).Yields
        ⟨d, { bus with time := bus.time + 2 }⟩ r t) :
    (emc2305FanSpeedGet fanId).Yields ⟨d, bus⟩ r t := by
  rw [emc2305FanSpeedGet]
  refine (yields_data _).bind ?_
  refine (yields_transact (hquiet 0 (by omega))).bind ?_
  exact (yields_transact (s := ⟨d, { bus with time := bus.time + 1 }⟩) (hquiet 1 (by omega))).bind h

def written (regs : Byte → Byte) (fanId : Fin 5) (tachval : BitVec 16) : Byte → Byte := fun a =>
  if a = fanConfig1Reg fanId then Emc2305FanControl.rpm.code
  else if a = fanTachLtargReg fanId then tachLow tachval
  else if a = fanTachTargReg fanId then tachHigh tachval
  else regs a

theorem emc2305FanSpeedSet_yields {d : Emc2305Device} {fanId : Fin 5} {speed : BitVec 32} {bus : Emc2305Bus}
    (hrpm : d.fanControlType = .rpm) (hmax : speed ≤ (d.emc2305Fan fanId).maxSpeed) (hquiet : bus.Quiet 3)
    {tachval : BitVec 16}
    (ht : (rpmToTachCount (d.emc2305Fan fanId) speed).Yields ⟨d, bus⟩ (.ok tachval) ⟨d, bus⟩) :
    (emc2305FanSpeedSet fanId speed).Yields ⟨d, bus⟩ (.ok ())
      ⟨d, { bus with regs := written bus.regs fanId tachval, time := bus.time + 3 }⟩ := by
  rw [emc2305FanSpeedSet]
  refine (yields_data _).bind ?_
  simp only [hrpm, Emc2305FanData.limit, if_neg (BitVec.not_lt.mpr hmax)]
  refine ht.bind ?_
  refine (yields_transact (hquiet 0 (by omega))).bind ?_
  refine (yields_transact (s := ⟨d, { bus with regs := _, time := bus.time + 1 }⟩)
    (hquiet 1 (by omega))).bind ?_
  exact yields_transact (s := ⟨d, { bus with regs := _, time := bus.time + 2 }⟩) (hquiet 2 (by omega))

theorem written_targ (regs : Byte → Byte) (fanId : Fin 5) (tachval : BitVec 16) :
    written regs fanId tachval (fanTachTargReg fanId) = tachHigh tachval := by
  rw [written, fanConfig1Reg, fanTachLtargReg, fanTachTargReg, if_neg (fanReg_ne (by decide) fanId),
    if_neg (fanReg_ne (by decide) fanId), if_pos rfl]

theorem written_ltarg (regs : Byte → Byte) (fanId : Fin 5) (tachval : BitVec 16) :
    written regs fanId tachval (fanTachLtargReg fanId) = tachLow tachval := by
  rw [written, fanConfig1Reg, fanTachLtargReg, if_neg (fanReg_ne (by decide) fanId), if_pos rfl]

/-- The count the getter makes of the target is the one the setter has programmed, cut to 13 bits. -/
theorem Reports.tachCount_eq {fanId : Fin 5} {target bus : Emc2305Bus} (h : Reports fanId target bus)
    {regs : Byte → Byte} {count : BitVec 32}
    (hregs : target.regs = written regs fanId (count.setWidth 16 <<< 3)) :
    (tachCount (bus.regs (fanTachReg fanId)) (bus.regs (fanTachLbyteReg fanId))).toNat =
      count.toNat % 2 ^ 13 := by
  rw [h.high, h.low, hregs, written_targ, written_ltarg, tachCount_target, shift_target]

/-! ## Reading back -/

/-- The count programmed for a speed fits its 13 bits, and the getter returns a speed
within one count of it. -/
def ReadsBack (d : Emc2305Device) (fanId : Fin 5) (speed : BitVec 32) (bus bus' : Emc2305Bus) : Prop :=
  ∃ count read, (targetCount (d.emc2305Fan fanId) speed ⟨d, bus⟩).result = .ok count ∧ count.toNat < 2 ^ 13 ∧
    (emc2305FanSpeedGet fanId ⟨d, bus'⟩).result = .ok read ∧
    (d.emc2305Fan fanId).WithinOneCount speed.toNat read.toNat

def Emc2305FanData.Restored (fan : Emc2305FanData) (speed : BitVec 32) : Prop :=
  fan.poles = 2 ∧ 960 < speed.toNat ∧ speed.toNat ≤ 7864320 ∨
    fan.poles = 3 ∧ 5898240 < speed.toNat ∧ speed.toNat ≤ 7864320

theorem Emc2305FanData.Standard.restored_iff (h : fan.Standard) {speed : BitVec 32}
    (hspeed : 0 < speed.toNat) :
    fan.Restored speed ↔ Restores fan.poles.toNat speed.toNat := by
  rw [restores_iff h.one_le_poles h.poles_le_four hspeed, Restored, ← BitVec.toNat_inj, ← BitVec.toNat_inj]
  rfl

theorem emc2305FanSpeedGet_target {d : Emc2305Device} {fanId : Fin 5} {bus : Emc2305Bus}
    (hfan : (d.emc2305Fan fanId).Standard) (hquiet : bus.Quiet 2) {n : Nat}
    (hn : (tachCount (bus.regs (fanTachReg fanId)) (bus.regs (fanTachLbyteReg fanId))).toNat = n) :
    (emc2305FanSpeedGet fanId ⟨d, bus⟩).result =
      if 0 < n then .ok (BitVec.ofNat 32 (7864320 / n)) else .error .undefined := by
  split
  · rename_i hpos
    rw [emc2305FanSpeedGet_yields hquiet (hfan.tachCountToRpm_pos (hn ▸ hpos) _), hn]
  · rename_i hzero
    rw [emc2305FanSpeedGet_yields hquiet (hfan.tachCountToRpm_zero (by omega) _)]

/-- A standard fan in the RPM mode reads back the speed that is set iff it has two poles and the speed is
between 961 and 7864320, or three poles and the speed is between 5898241 and 7864320. -/
theorem emc2305_readsBack_iff {d : Emc2305Device} {fanId : Fin 5} {speed : BitVec 32} {bus bus' : Emc2305Bus}
    (hrpm : d.fanControlType = .rpm) (hfan : (d.emc2305Fan fanId).Standard) (hspeed : 0 < speed.toNat)
    (hmax : speed ≤ (d.emc2305Fan fanId).maxSpeed) (hquiet : bus.Quiet 3) (hquiet' : bus'.Quiet 2)
    (hreports : Reports fanId (emc2305FanSpeedSet fanId speed ⟨d, bus⟩).state.bus bus') :
    ReadsBack d fanId speed bus bus' ↔ (d.emc2305Fan fanId).Restored speed := by
  have hp := hfan.poles_le_four
  have hcount := hfan.targetCount_yields hspeed ⟨d, bus⟩
  generalize hq : BitVec.ofNat 32 ((d.emc2305Fan fanId).poles.toNat * 3932160) / speed = count at hcount
  have hqn : count.toNat = (d.emc2305Fan fanId).poles.toNat * 3932160 / speed.toNat := by
    rw [← hq, BitVec.toNat_udiv, BitVec.toNat_ofNat, Nat.mod_eq_of_lt (by omega)]
  have hset := emc2305FanSpeedSet_yields hrpm hmax hquiet (hcount.bind rfl)
  rw [hset] at hreports
  have hget := emc2305FanSpeedGet_target hfan hquiet' (hreports.tachCount_eq rfl)
  have hread (n : Nat) : (BitVec.ofNat 32 (7864320 / n)).toNat = 7864320 / n := by
    have hle : 7864320 / n ≤ 7864320 := Nat.div_le_self _ _
    rw [BitVec.toNat_ofNat, Nat.mod_eq_of_lt (by omega)]
  rw [hfan.restored_iff hspeed, Restores, ← hqn]
  constructor
  · rintro ⟨count', read, hcount', hfits, hok, hwithin⟩
    obtain ⟨htarget, heq⟩ := (hfan.withinOneCount_iff hspeed _).mp hwithin
    rw [hcount] at hcount'
    cases hcount'
    rw [hget, Nat.mod_eq_of_lt hfits] at hok
    split at hok
    · rename_i hpos
      cases hok
      exact ⟨hfits, hpos, htarget, (hread _).symm.trans heq⟩
    · cases hok
  · rintro ⟨hfits, hpos, htarget, heq⟩
    have hok : (emc2305FanSpeedGet fanId ⟨d, bus'⟩).result =
        .ok (BitVec.ofNat 32 (7864320 / count.toNat)) := by
      rw [hget, Nat.mod_eq_of_lt hfits, if_pos hpos]
    exact ⟨count, _, by rw [hcount], hfits, hok,
      (hfan.withinOneCount_iff hspeed _).mpr ⟨htarget, (hread _).trans heq⟩⟩

/-- The fan runs at its target, which its tachometer reports. -/
def atTarget (fanId : Fin 5) (target : Emc2305Bus) : Emc2305Bus :=
  { target with regs := fun a =>
      if a = fanTachReg fanId then target.regs (fanTachTargReg fanId)
      else if a = fanTachLbyteReg fanId then target.regs (fanTachLtargReg fanId)
      else target.regs a }

def rpmFan (poles edges : BitVec 8) : Emc2305Device := ⟨fun _ => ⟨10000, poles, edges, 2⟩, .rpm⟩

def idleBus : Emc2305Bus := ⟨fun _ => 0, fun _ => none, 0⟩

theorem emc2305_readsBack_twoPoles :
    ReadsBack (rpmFan 2 5) 0 5000 idleBus
      (atTarget 0 (emc2305FanSpeedSet 0 5000 ⟨rpmFan 2 5, idleBus⟩).state.bus) :=
  (emc2305_readsBack_iff rfl ⟨by decide, by decide, rfl, rfl⟩ (by decide) (by decide) (fun _ _ => rfl)
    (fun _ _ => rfl) ⟨rfl, rfl⟩).mpr (.inl ⟨rfl, by decide, by decide⟩)

/-- A fan with one pole that is set to 5000 reads 10005, where the count of 5000 stands for 5002. -/
theorem emc2305_onePole_reads_twice :
    (rpmFan 1 3).fanControlType = .rpm ∧ ((rpmFan 1 3).emc2305Fan 0).Standard ∧
      5000 ≤ ((rpmFan 1 3).emc2305Fan 0).maxSpeed ∧
      Reports 0 (emc2305FanSpeedSet 0 5000 ⟨rpmFan 1 3, idleBus⟩).state.bus
        (atTarget 0 (emc2305FanSpeedSet 0 5000 ⟨rpmFan 1 3, idleBus⟩).state.bus) ∧
      ¬ReadsBack (rpmFan 1 3) 0 5000 idleBus
        (atTarget 0 (emc2305FanSpeedSet 0 5000 ⟨rpmFan 1 3, idleBus⟩).state.bus) := by
  refine ⟨rfl, ⟨by decide, by decide, rfl, rfl⟩, by decide, ⟨rfl, rfl⟩, ?_⟩
  rintro ⟨count, read, -, -, hread, hwithin⟩
  have hget : (emc2305FanSpeedGet 0 ⟨rpmFan 1 3,
      atTarget 0 (emc2305FanSpeedSet 0 5000 ⟨rpmFan 1 3, idleBus⟩).state.bus⟩).result = .ok 10005 := rfl
  rw [hget] at hread
  cases hread
  exact absurd hwithin.read_eq (by decide)

end OpxSdi.Fan
