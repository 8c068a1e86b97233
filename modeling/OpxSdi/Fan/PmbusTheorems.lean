import Mathlib.Data.List.Nodup
import OpxSdi.Fan.Pmbus
import OpxSdi.Lib.Argmin

/-!
# Speed maps and duty cycles of PMBus fans

A speed map is looked up at its nearest entry in both directions. Without one, a duty cycle is a percentage
iff the maximum speed is close enough to a multiple of 100.
-/

namespace OpxSdi.Fan

open Lib Calc

/-! ## The nearest entry -/

theorem toNat_absDiff (a b : BitVec 32) : (absDiff a b).toNat = ((a.toNat : Int) - b.toNat).natAbs := by
  rw [absDiff]
  split
  · rename_i hle
    rw [BitVec.toNat_sub_of_le hle]
    have := BitVec.le_def.mp hle
    omega
  · rename_i hlt
    have hle := BitVec.le_of_lt (BitVec.not_le.mp hlt)
    rw [BitVec.toNat_sub_of_le hle]
    have := BitVec.le_def.mp hle
    omega

/-- The first of the entries whose member is closest to `x`. -/
def Nearest (member : SpeedMapEntry → BitVec 32) (x : BitVec 32) (speeds : List SpeedMapEntry)
    (e : SpeedMapEntry) : Prop :=
  IsFirstMin (fun q => ((x.toNat : Int) - (member q).toNat).natAbs) speeds e

variable {member : SpeedMapEntry → BitVec 32} {x : BitVec 32} {speeds : List SpeedMapEntry}
  {e q : SpeedMapEntry}

theorem closestTo_nearest (member : SpeedMapEntry → BitVec 32) (x : BitVec 32) (hne : speeds ≠ []) :
    ∃ e, Nearest member x speeds e ∧ closestTo member x speeds = some (e, absDiff x (member e)) := by
  cases h : closestEntryTo member x speeds with
  | none => exact absurd (List.argmin_eq_none.mp h) hne
  | some e =>
      refine ⟨e, ?_, by rw [closestTo_eq, h, Option.map_some]⟩
      have hmin := isFirstMin_of_argmin h
      simp only [toNat_absDiff] at hmin
      exact hmin

theorem Nearest.eq_of_mem (h : Nearest member (member q) speeds e) (hq : q ∈ speeds)
    (hnodup : (speeds.map member).Nodup) : e = q := by
  refine List.inj_on_of_nodup_map hnodup h.mem hq ?_
  have hle := h.le hq
  exact BitVec.eq_of_toNat_eq (by omega)

/-! ## Looking a speed map up -/

section Map

variable {Pat : Type} (regexec : Pat → List Char → Bool) {ppid : Option (List Char)}

/-- Both directions find the nearest entry. With distinct members they undo each other. -/
structure LooksUp (ppid : Option (List Char)) (speeds : List SpeedMapEntry)
    (s : Rig (PmbusDev Pat) Byte Errno) : Prop where
  pct : ∀ rpm, ∃ e, Nearest SpeedMapEntry.rpm rpm speeds e ∧
    (fanSpeedRpmToPct regexec ppid rpm).Yields s (.ok e.pct) s
  rpm : ∀ pct, ∃ e, Nearest SpeedMapEntry.pct pct speeds e ∧
    (fanSpeedPctToRpm regexec ppid pct).Yields s (.ok e.rpm) s
  pctToRpm_rpmToPct : (speeds.map SpeedMapEntry.rpm).Nodup → (speeds.map SpeedMapEntry.pct).Nodup →
    ∀ e ∈ speeds,
      (fanSpeedRpmToPct regexec ppid e.rpm >>= fanSpeedPctToRpm regexec ppid).Yields s (.ok e.rpm) s
  rpmToPct_pctToRpm : (speeds.map SpeedMapEntry.rpm).Nodup → (speeds.map SpeedMapEntry.pct).Nodup →
    ∀ rpm, ∃ pct, (fanSpeedRpmToPct regexec ppid rpm).Yields s (.ok pct) s ∧
      (fanSpeedRpmToPct regexec ppid rpm >>= fun pct => fanSpeedPctToRpm regexec ppid pct >>=
        fanSpeedRpmToPct regexec ppid).Yields s (.ok pct) s

variable {s : Rig (PmbusDev Pat) Byte Errno} {p : SpeedPpidMap Pat} {rpm pct : BitVec 32}

theorem fanSpeedRpmToPct_yields (h : ppidMap regexec s.data ppid = some p)
    (he : closestTo SpeedMapEntry.rpm rpm p.speeds = some (e, x)) :
    (fanSpeedRpmToPct regexec ppid rpm).Yields s (.ok e.pct) s := by
  have hpct : mappedPct regexec s.data ppid rpm = some e.pct := by
    rw [mappedPct, h, Option.bind_eq_bind, Option.bind_some, closest_eq_closestTo, he]
    rfl
  rw [Yields, fanSpeedRpmToPct, data_bind, hpct]
  rfl

theorem fanSpeedPctToRpm_yields (h : ppidMap regexec s.data ppid = some p)
    (he : closestTo SpeedMapEntry.pct pct p.speeds = some (e, x)) :
    (fanSpeedPctToRpm regexec ppid pct).Yields s (.ok e.rpm) s := by
  have hrpm : mappedRpm regexec s.data ppid pct = some e.rpm := by
    rw [mappedRpm, h, Option.bind_eq_bind, Option.bind_some, he]
    rfl
  rw [Yields, fanSpeedPctToRpm, data_bind, hrpm]
  rfl

theorem looksUp_of_ppidMap (h : ppidMap regexec s.data ppid = some p) (hne : p.speeds ≠ []) :
    LooksUp regexec ppid p.speeds s := by
  have hpct (rpm : BitVec 32) : ∃ e, Nearest SpeedMapEntry.rpm rpm p.speeds e ∧
      (fanSpeedRpmToPct regexec ppid rpm).Yields s (.ok e.pct) s := by
    obtain ⟨e, hnear, he⟩ := closestTo_nearest SpeedMapEntry.rpm rpm hne
    exact ⟨e, hnear, fanSpeedRpmToPct_yields regexec h he⟩
  have hrpm (pct : BitVec 32) : ∃ e, Nearest SpeedMapEntry.pct pct p.speeds e ∧
      (fanSpeedPctToRpm regexec ppid pct).Yields s (.ok e.rpm) s := by
    obtain ⟨e, hnear, he⟩ := closestTo_nearest SpeedMapEntry.pct pct hne
    exact ⟨e, hnear, fanSpeedPctToRpm_yields regexec h he⟩
  -- Each direction finds an entry again by its own member.
  have hpct' (hnodup : (p.speeds.map SpeedMapEntry.rpm).Nodup) {e} (he : e ∈ p.speeds) :
      (fanSpeedRpmToPct regexec ppid e.rpm).Yields s (.ok e.pct) s := by
    obtain ⟨e', hnear, hyields⟩ := hpct e.rpm
    rwa [hnear.eq_of_mem he hnodup] at hyields
  have hrpm' (hnodup : (p.speeds.map SpeedMapEntry.pct).Nodup) {e} (he : e ∈ p.speeds) :
      (fanSpeedPctToRpm regexec ppid e.pct).Yields s (.ok e.rpm) s := by
    obtain ⟨e', hnear, hyields⟩ := hrpm e.pct
    rwa [hnear.eq_of_mem he hnodup] at hyields
  refine ⟨hpct, hrpm, fun hr hp e he => (hpct' hr he).bind (hrpm' hp he), fun hr hp rpm => ?_⟩
  obtain ⟨e, hnear, hyields⟩ := hpct rpm
  exact ⟨e.pct, hyields, hyields.bind ((hrpm' hp hnear.mem).bind (hpct' hr hnear.mem))⟩

/-- The first map whose pattern matches the PPID is looked up. -/
theorem speedMap_lookup {text : List Char} {before after : List (SpeedPpidMap Pat)}
    (hmaps : s.data.fanSpeedMap = before ++ p :: after)
    (hbefore : ∀ q ∈ before, regexec q.ppidPat text = false) (hp : regexec p.ppidPat text = true)
    (hne : p.speeds ≠ []) : LooksUp regexec (some text) p.speeds s := by
  refine looksUp_of_ppidMap regexec ?_ hne
  have hnone : before.find? (fun q => regexec q.ppidPat text) = none :=
    List.find?_eq_none.mpr fun q hq => by simp [hbefore q hq]
  rw [ppidMap, Option.bind_eq_bind, Option.bind_some, hmaps, List.find?_append, hnone, Option.none_or,
    List.find?_cons, hp]

end Map

def psuMap : SpeedPpidMap Char := ⟨'P', [⟨5000, 50⟩, ⟨10000, 100⟩]⟩

/-- The pattern is the first letter of the PPID. -/
def startsWith (letter : Char) (text : List Char) : Bool := text.head? = some letter

def mappedRig : Rig (PmbusDev Char) Byte Errno := ⟨⟨[psuMap], 18000⟩, ⟨fun _ => 0, fun _ => none, 0⟩⟩

theorem speedMap_lookup_psu : LooksUp startsWith (some "PSU".toList) psuMap.speeds mappedRig :=
  speedMap_lookup startsWith (List.nil_append _).symm (fun _ hq => absurd hq List.not_mem_nil) rfl nofun

/-! ## Duty cycles -/

section DutyCycle

variable {Pat : Type} (regexec : Pat → List Char → Bool) {ppid : Option (List Char)} {dev : PmbusDev Pat}
  {bus : RegBus Byte Errno} {speed : BitVec 32}

/-- Every speed up to the maximum has a duty cycle of at most 100 percent, which is the byte that is written
to the command register; the duty cycle is monotone in the speed, and 100 at the maximum. -/
structure StaysPercent (ppid : Option (List Char)) (dev : PmbusDev Pat) (bus : RegBus Byte Errno) : Prop where
  percent : ∀ speed ≤ dev.maxFanSpeed, ∃ pct ≤ 100,
    (fanSpeedRpmToPct regexec ppid speed).Yields ⟨dev, bus⟩ (.ok pct) ⟨dev, bus⟩ ∧
    (bus.fault bus.time = none → ∀ (resource : PmbusResource) reg, resource.fanCommand = some reg →
      ∃ pval, (pmbusFanSpeedSet regexec resource ppid speed ⟨dev, bus⟩).result = .ok (reg, pval) ∧
        (pval.setWidth 8).toNat = pct.toNat)
  mono : ∀ slow fast pct pct', slow ≤ fast → fast ≤ dev.maxFanSpeed →
    (fanSpeedRpmToPct regexec ppid slow ⟨dev, bus⟩).result = .ok pct →
    (fanSpeedRpmToPct regexec ppid fast ⟨dev, bus⟩).result = .ok pct' → pct ≤ pct'
  full : (fanSpeedRpmToPct regexec ppid dev.maxFanSpeed ⟨dev, bus⟩).result = .ok 100

theorem fanSpeedRpmToPct_unmapped (hmap : ¬dev.HasEntry regexec ppid) (hmax : dev.maxFanSpeed ≠ 0) :
    fanSpeedRpmToPct regexec ppid speed ⟨dev, bus⟩ =
      ⟨if dev.maxFanSpeed / 100 = 0 then .error .undefined else .ok (speed / (dev.maxFanSpeed / 100)),
        ⟨dev, bus⟩, false⟩ := by
  rw [fanSpeedRpmToPct, data_bind, (mappedPct_eq_none_iff regexec).mpr hmap]
  dsimp only
  rw [if_pos hmax]
  rfl

theorem leToUint16_setWidth (b : Byte) : (leToUint16 b 0).setWidth 8 = b := by
  ext i h
  simp [leToUint16]

theorem pmbusFanSpeedSet_yields {resource : PmbusResource} {reg : Byte} {pct : BitVec 32}
    (hreg : resource.fanCommand = some reg) (hfault : bus.fault bus.time = none)
    (h : (fanSpeedRpmToPct regexec ppid speed).Yields ⟨dev, bus⟩ (.ok pct) ⟨dev, bus⟩) :
    (pmbusFanSpeedSet regexec resource ppid speed).Yields ⟨dev, bus⟩
      (.ok (reg, leToUint16 (pct.setWidth 8) 0)) ⟨dev, { bus with time := bus.time + 1 }⟩ := by
  have hwrite : (smbusWriteWord reg (leToUint16 (pct.setWidth 8) 0) : PmbusCalc Pat _).Yields ⟨dev, bus⟩
      (.ok (reg, leToUint16 (pct.setWidth 8) 0)) ⟨dev, { bus with time := bus.time + 1 }⟩ :=
    yields_transact hfault
  rw [pmbusFanSpeedSet, hreg]
  exact h.bind hwrite

/-- What is left of the maximum speed at 100 steps is less than a step. -/
theorem div_step_eq_iff {n : Nat} (h : n / 100 ≠ 0) : n / (n / 100) = 100 ↔ n % 100 < n / 100 := by
  have hpos : 0 < n / 100 := Nat.pos_of_ne_zero h
  have hsplit : n / 100 * 100 + n % 100 = n := by omega
  rw [Nat.div_eq_iff hpos]
  omega

theorem step_eq_zero_iff {max : BitVec 32} : max / 100 = 0 ↔ max.toNat / 100 = 0 := by
  rw [← BitVec.toNat_inj, BitVec.toNat_udiv]
  rfl

/-- Without a speed map, duty cycles are percentages iff the last two digits of the maximum speed are less
than the number before them. -/
theorem staysPercent_iff (hmap : ¬dev.HasEntry regexec ppid) (hmax : 1 ≤ dev.maxFanSpeed) :
    StaysPercent regexec ppid dev bus ↔ dev.maxFanSpeed.toNat % 100 < dev.maxFanSpeed.toNat / 100 := by
  have hne : dev.maxFanSpeed ≠ 0 := by
    rintro h
    rw [h] at hmax
    exact absurd hmax (by decide)
  have hpct (speed : BitVec 32) : fanSpeedRpmToPct regexec ppid speed ⟨dev, bus⟩ = _ :=
    fanSpeedRpmToPct_unmapped regexec hmap hne
  by_cases hstep : dev.maxFanSpeed.toNat / 100 = 0
  · refine iff_of_false (fun h => ?_) (by omega)
    have hfull := h.full
    rw [hpct, if_pos (step_eq_zero_iff.mpr hstep)] at hfull
    cases hfull
  · simp only [if_neg (mt step_eq_zero_iff.mp hstep)] at hpct
    rw [← div_step_eq_iff hstep]
    constructor
    · intro h
      have hfull := Except.ok.inj ((congrArg Outcome.result (hpct _)).symm.trans h.full)
      have hnat := congrArg BitVec.toNat hfull
      rwa [BitVec.toNat_udiv, BitVec.toNat_udiv] at hnat
    · intro hfull
      have hle (speed : BitVec 32) (h : speed ≤ dev.maxFanSpeed) :
          (speed / (dev.maxFanSpeed / 100)).toNat ≤ 100 := by
        rw [BitVec.toNat_udiv, BitVec.toNat_udiv, ← hfull]
        exact Nat.div_le_div_right h
      refine ⟨fun speed h => ?_, fun slow fast pct pct' h hfast hslow' hfast' => ?_, ?_⟩
      · refine ⟨_, hle speed h, hpct speed, fun hfault resource reg hreg => ?_⟩
        refine ⟨_, congrArg Outcome.result (pmbusFanSpeedSet_yields regexec hreg hfault (hpct speed)), ?_⟩
        rw [leToUint16_setWidth, BitVec.toNat_setWidth]
        exact Nat.mod_eq_of_lt (Nat.lt_of_le_of_lt (hle speed h) (by decide))
      · rw [hpct] at hslow' hfast'
        obtain rfl := Except.ok.inj hslow'
        obtain rfl := Except.ok.inj hfast'
        rw [BitVec.le_def, BitVec.toNat_udiv, BitVec.toNat_udiv]
        exact Nat.div_le_div_right h
      · rw [hpct]
        refine congrArg Except.ok (BitVec.eq_of_toNat_eq ?_)
        rw [BitVec.toNat_udiv, BitVec.toNat_udiv]
        exact hfull

end DutyCycle

def unmappedRig (max : BitVec 32) : Rig (PmbusDev Char) Byte Errno :=
  ⟨⟨[], max⟩, ⟨fun _ => 0, fun _ => none, 0⟩⟩

theorem staysPercent_18000 :
    StaysPercent startsWith none (unmappedRig 18000).data (unmappedRig 18000).bus :=
  (staysPercent_iff startsWith (fun ⟨_, h, _⟩ => nomatch h) (by decide)).mpr (by decide)

/-- A fan of 199 revolutions a minute is set to 199 percent at its maximum speed. -/
theorem duty_cycle_above_100 :
    (fanSpeedRpmToPct startsWith none 199 (unmappedRig 199)).result = .ok 199 ∧
      ¬StaysPercent startsWith none (unmappedRig 199).data (unmappedRig 199).bus := by
  refine ⟨rfl, fun h => ?_⟩
  have hfull := h.full
  exact absurd (Except.ok.inj hfull) (by decide)

end OpxSdi.Fan
