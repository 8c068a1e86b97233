import Mathlib.Data.List.Basic
import Mathlib.Data.List.Induction
import OpxSdi.Lib.InRow
import OpxSdi.Media.PhyTheorems

/-!
# What a copper SFP advertises

`sdi_media_phy_speed_set` sets its speeds one by one, and each takes back the abilities of those before.
-/

namespace OpxSdi.Media

open Lib Device Phy

/-! ## The abilities of the speeds -/

namespace MediaSpeed

def abil (speed : MediaSpeed) : BitVec 16 :=
  if speed = .s100M then anaFd100 ||| anaFd10 else if speed = .s10M then anaFd10 else 0

def abilGB (speed : MediaSpeed) : BitVec 16 := if speed = .s1G then gbCtrlAdv1000Fd else 0

/-- The abilities of the speed include those of the other. -/
def Covers (speed other : MediaSpeed) : Prop :=
  ∀ k, (other.abil.getLsbD k = true → speed.abil.getLsbD k = true) ∧
    (other.abilGB.getLsbD k = true → speed.abilGB.getLsbD k = true)

end MediaSpeed

namespace Phy

def anaAdv : BitVec 16 := anaHd10 ||| anaFd10 ||| anaHd100 ||| anaFd100
def gbCtrlAdv : BitVec 16 := gbCtrlAdv1000Fd ||| gbCtrlAdv1000Hd

def speedSet (phy : Phy) (speed : MediaSpeed) : Phy :=
  (phy.store anaReg ((phy.reg anaReg &&& ~~~anaAdv) ||| speed.abil)).store gbCtrlReg
    ((phy.reg gbCtrlReg &&& ~~~gbCtrlAdv) ||| speed.abilGB)

/-- The advertisement bits of a register are the union of the abilities of the speeds, and its other bits are as
before. -/
def Advertises (phy phy' : Phy) (offset : BitVec 8) (adv : BitVec 16) (abil : MediaSpeed → BitVec 16)
    (speeds : List MediaSpeed) : Prop :=
  ∀ k, phy'.Bit offset k =
    if adv.getLsbD k then speeds.any fun speed => (abil speed).getLsbD k else phy.Bit offset k

theorem getLsbD_masked_or (v mask a : BitVec 16) (h : ∀ k, a.getLsbD k = true → mask.getLsbD k = true) (k : Nat) :
    ((v &&& ~~~mask) ||| a).getLsbD k = if mask.getLsbD k then a.getLsbD k else v.getLsbD k := by
  rw [BitVec.getLsbD_or, BitVec.getLsbD_and, BitVec.getLsbD_not]
  cases hmask : mask.getLsbD k with
  | true => simp
  | false =>
      have ha : a.getLsbD k = false := Bool.eq_false_iff.mpr fun ha => by simp [h k ha] at hmask
      rw [ha, Bool.or_false, Bool.not_false, Bool.and_true, if_neg Bool.false_ne_true]
      by_cases hk : k < 16
      · rw [decide_eq_true hk, Bool.and_true]
      · rw [BitVec.getLsbD_of_ge v k (Nat.le_of_not_lt hk), Bool.false_and]

theorem abil_adv (speed : MediaSpeed) (k : Nat) (h : speed.abil.getLsbD k = true) : anaAdv.getLsbD k = true := by
  have hand : speed.abil &&& anaAdv = speed.abil := by cases speed <;> decide
  rw [← hand, BitVec.getLsbD_and, Bool.and_eq_true] at h
  exact h.2

theorem abilGB_adv (speed : MediaSpeed) (k : Nat) (h : speed.abilGB.getLsbD k = true) :
    gbCtrlAdv.getLsbD k = true := by
  have hand : speed.abilGB &&& gbCtrlAdv = speed.abilGB := by cases speed <;> decide
  rw [← hand, BitVec.getLsbD_and, Bool.and_eq_true] at h
  exact h.2

theorem bit_speedSet_ana (phy : Phy) (speed : MediaSpeed) (k : Nat) : (phy.speedSet speed).Bit anaReg k =
    if anaAdv.getLsbD k then speed.abil.getLsbD k else phy.Bit anaReg k :=
  getLsbD_masked_or (phy.reg anaReg) anaAdv speed.abil (abil_adv speed) k

theorem bit_speedSet_gb (phy : Phy) (speed : MediaSpeed) (k : Nat) : (phy.speedSet speed).Bit gbCtrlReg k =
    if gbCtrlAdv.getLsbD k then speed.abilGB.getLsbD k else phy.Bit gbCtrlReg k :=
  getLsbD_masked_or (phy.reg gbCtrlReg) gbCtrlAdv speed.abilGB (abilGB_adv speed) k

end Phy

/-! ## One speed -/

variable {phy : Phy} {Q : Except Errno Unit → Phy → Prop}

theorem phyRead_ends {offset : BitVec 8} {f : BitVec 16 → PhyM Unit} (herr : ∀ e, Q (.error e) phy)
    (h : Ends (f (phy.reg offset)) phy Q) : Ends (sfpPhyRead offset >>= f) phy Q := by
  have hread : Ends (sfpPhyRead offset) phy fun r phy' => phy' = phy ∧ ∀ v, r = .ok v → v = phy.reg offset := by
    refine (Ends.access (f := readWord offset) (Q := fun r phy' => phy' = phy ∧ ∀ w, r = .ok w →
      swap w = phy.reg offset) (fun e => ⟨rfl, fun w h => by cases h⟩) ⟨rfl, fun w h => ?_⟩).bind ?_ ?_
    · cases h
      exact swap_swap _
    · rintro e _ ⟨rfl, -⟩
      exact ⟨rfl, fun v h => by cases h⟩
    · rintro w _ ⟨rfl, hw⟩
      exact .pure ⟨rfl, fun v h => by cases h; exact hw w rfl⟩
  refine hread.bind ?_ ?_
  · rintro e _ ⟨rfl, -⟩
    exact herr e
  · rintro v _ ⟨rfl, hv⟩
    rw [hv v rfl]
    exact h

theorem phyWrite_ends {offset : BitVec 8} {v : BitVec 16} (herr : ∀ e, Q (.error e) phy)
    (h : Q (.ok ()) (phy.store offset v)) : Ends (sfpPhyWrite offset v) phy Q :=
  .access herr (by rwa [writeWord, show v >>> 8 ||| v <<< 8 = swap v from rfl, swap_swap])

theorem phyWrite_then_ends {offset : BitVec 8} {v : BitVec 16} {f : Unit → PhyM Unit}
    (herr : ∀ e, Q (.error e) phy) (h : Ends (f ()) (phy.store offset v) Q) :
    Ends (sfpPhyWrite offset v >>= f) phy Q := by
  refine (phyWrite_ends (Q := fun r phy' => phy' = bif r.toBool then phy.store offset v else phy)
    (fun e => rfl) rfl).bind ?_ ?_
  · rintro e _ rfl
    exact herr e
  · rintro ⟨⟩ _ rfl
    exact h

theorem cusfpPhySpeedSet_ends (speed : MediaSpeed) :
    Ends (cusfpPhySpeedSet speed) phy fun r phy' => r = .ok () → phy' = phy.speedSet speed := by
  have herr : ∀ (e : Errno) (phy' : Phy), .error e = Except.ok () → phy' = phy.speedSet speed :=
    fun _ _ h => by cases h
  refine phyRead_ends (herr · _) (phyWrite_then_ends (herr · _) (phyRead_ends (herr · _)
    (phyWrite_ends (herr · _) fun _ => ?_)))
  rfl

theorem inRow_phyRead (offset : BitVec 8) : InRow 1 (sfpPhyRead offset) :=
  (InRow.access (readWord offset)).bind fun w => .pure (swap w)

theorem inRow_cusfpPhySpeedSet (speed : MediaSpeed) : InRow 4 (cusfpPhySpeedSet speed) :=
  (inRow_phyRead anaReg).bind fun _ => (InRow.access _).bind fun _ =>
    (inRow_phyRead gbCtrlReg).bind fun _ => InRow.access _

theorem cusfpPhySpeedSet_out (speed : MediaSpeed) (d : PhyDevice) : ∃ r d',
    (cusfpPhySpeedSet speed).out d = (outcome r, d') ∧ d'.fault = d.fault ∧
      d'.time = d.time + made d.fault d.time 4 ∧ (r = .ok () ↔ Served d.fault 4 d.time) ∧
      (r = .ok () → d'.hw = d.hw.speedSet speed) := by
  obtain ⟨r, d', hout, hfault, htime, hok⟩ := inRow_cusfpPhySpeedSet speed d
  have hhw := (cusfpPhySpeedSet_ends speed).of_out hout
  exact ⟨r, d', hout, hfault, htime, ⟨fun h => hok.mp ⟨(), h⟩, fun h => (hok.mpr h).elim fun _ h => h⟩, hhw⟩

/-! ## All speeds -/

section

variable (select : Nat → Except Errno Unit)

/-- When the driver is called for speed number `n` -/
def callTime (fault : Nat → Option Errno) (t : Nat) : Nat → Nat
  | 0 => t
  | n + 1 => callTime fault t n + bif (select n).isOk then made fault (callTime fault t n) 4 else 0

/-- The module is selected for speed number `n`, and no access from time `t` fails. -/
def Reaches (fault : Nat → Option Errno) (n t : Nat) : Prop := select n = .ok () ∧ Served fault 4 t

/-- The module is selected for each of the first `n` speeds, and none of their accesses fails. -/
def ReachesAll (fault : Nat → Option Errno) (n t : Nat) : Prop :=
  (∀ i < n, select i = .ok ()) ∧ Served fault (4 * n) t

variable {select} {fault : Nat → Option Errno} {n t : Nat}

theorem reachesAll_succ :
    ReachesAll select fault (n + 1) t ↔ ReachesAll select fault n t ∧ Reaches select fault n (t + 4 * n) := by
  rw [ReachesAll, ReachesAll, Reaches, Nat.mul_succ, served_add]
  constructor
  · rintro ⟨hselect, hinit, hlast⟩
    exact ⟨⟨fun i hi => hselect i (Nat.lt_succ_of_lt hi), hinit⟩, hselect n (Nat.lt_succ_self n), hlast⟩
  · rintro ⟨⟨hselect, hinit⟩, hn, hlast⟩
    refine ⟨fun i hi => ?_, hinit, hlast⟩
    rcases Nat.lt_succ_iff_lt_or_eq.mp hi with hi | rfl
    · exact hselect i hi
    · exact hn

theorem ReachesAll.callTime_eq (h : ReachesAll select fault n t) : callTime select fault t n = t + 4 * n := by
  induction n with
  | zero => rfl
  | succ n ih =>
      obtain ⟨hinit, hselect, hlast⟩ := reachesAll_succ.mp h
      rw [callTime, ih hinit, hselect, made_of_served hlast]
      rfl

variable (select) in
theorem sfpPhySpeedSet_out (n : Nat) (speed : MediaSpeed) (d : PhyDevice) : ∃ r d',
    (sfpPhySpeedSet (select n) speed).out d = (outcome r, d') ∧ d'.fault = d.fault ∧
      d'.time = d.time + (bif (select n).isOk then made d.fault d.time 4 else 0) ∧
      (r = .ok () ↔ Reaches select d.fault n d.time) ∧ (r = .ok () → d'.hw = d.hw.speedSet speed) := by
  cases hselect : select n with
  | error e =>
      refine ⟨.error e, d, Acts.out_bind_error (out_ofResult _ d), rfl, rfl, ?_, fun h => by cases h⟩
      rw [Reaches, hselect]
      exact iff_of_false (fun h => by cases h) fun h => by cases h.1
  | ok =>
      obtain ⟨r, d', hout, hfault, htime, hok, hhw⟩ := cusfpPhySpeedSet_out speed d
      refine ⟨r, d', (Acts.out_bind_ok (out_ofResult (.ok ()) d)).trans hout, hfault, htime, ?_, hhw⟩
      rw [hok, Reaches, hselect, and_iff_right rfl]

variable (select) in
/-- The loop has done the first speeds of the list. Their registers are known if no error was lost. -/
theorem phySpeedSetLoop_append (speeds : List MediaSpeed) (d : PhyDevice) : ∃ rc d',
    (∀ rest, (phySpeedSetLoop select 0 (.ok ()) (speeds ++ rest)).out d =
      (phySpeedSetLoop select speeds.length rc rest).out d') ∧
    d'.fault = d.fault ∧ d'.time = callTime select d.fault d.time speeds.length ∧
    (ReachesAll select d.fault speeds.length d.time → d'.hw = speeds.foldl Phy.speedSet d.hw) := by
  induction speeds using List.reverseRecOn with
  | nil => exact ⟨.ok (), d, fun rest => rfl, rfl, rfl, fun _ => rfl⟩
  | append_singleton speeds speed ih =>
      obtain ⟨rc, d', hout, hfault, htime, hhw⟩ := ih
      obtain ⟨rc', d'', hout', hfault', htime', hok, hhw'⟩ := sfpPhySpeedSet_out select speeds.length speed d'
      rw [hfault, htime] at htime'
      rw [hfault, htime] at hok
      rw [List.length_append, List.length_singleton]
      refine ⟨rc', d'', fun rest => ?_, hfault'.trans hfault, htime', fun hreach => ?_⟩
      · rw [List.append_assoc, hout, List.singleton_append]
        exact Acts.out_bind_ok (out_attempt hout')
      · obtain ⟨hinit, hlast⟩ := reachesAll_succ.mp hreach
        rw [hhw' (hok.mpr (by rwa [hinit.callTime_eq])), hhw hinit, List.foldl_append]
        rfl

theorem bit_foldl_speedSet (speeds : List MediaSpeed) (phy : Phy) (k : Nat) :
    (anaAdv.getLsbD k = false → (speeds.foldl Phy.speedSet phy).Bit anaReg k = phy.Bit anaReg k) ∧
      (gbCtrlAdv.getLsbD k = false → (speeds.foldl Phy.speedSet phy).Bit gbCtrlReg k = phy.Bit gbCtrlReg k) := by
  induction speeds generalizing phy with
  | nil => exact ⟨fun _ => rfl, fun _ => rfl⟩
  | cons speed speeds ih =>
      obtain ⟨hana, hgb⟩ := ih (phy.speedSet speed)
      refine ⟨fun h => (hana h).trans ?_, fun h => (hgb h).trans ?_⟩
      · rw [bit_speedSet_ana, h, if_neg Bool.false_ne_true]
      · rw [bit_speedSet_gb, h, if_neg Bool.false_ne_true]

/-- The last speed has all abilities of the list iff they are its own. -/
theorem any_getLsbD_iff {abil : MediaSpeed → BitVec 16} {init : List MediaSpeed} {last : MediaSpeed} {k : Nat} :
    (abil last).getLsbD k = (init ++ [last]).any (fun speed => (abil speed).getLsbD k) ↔
      ∀ speed ∈ init, (abil speed).getLsbD k = true → (abil last).getLsbD k = true := by
  rw [List.any_append, List.any_cons, List.any_nil, Bool.or_false]
  cases (abil last).getLsbD k with
  | true => simp
  | false =>
      rw [Bool.or_false, eq_comm]
      simp only [List.any_eq_false, Bool.false_eq_true, imp_false]

variable (select) in
/-- What a call has done that returns `STD_ERR_OK` -/
structure SpeedsSet (d : PhyDevice) (speeds : List MediaSpeed) (phy' : Phy) : Prop where
  reached : ReachesAll select d.fault speeds.length d.time
  ana : d.hw.Advertises phy' anaReg anaAdv MediaSpeed.abil speeds
  gb : d.hw.Advertises phy' gbCtrlReg gbCtrlAdv MediaSpeed.abilGB speeds

theorem speedsSet_nil_iff (d : PhyDevice) : SpeedsSet select d [] d.hw ↔ ∀ k,
    (anaAdv.getLsbD k = true → d.hw.Bit anaReg k = false) ∧
      (gbCtrlAdv.getLsbD k = true → d.hw.Bit gbCtrlReg k = false) := by
  constructor
  · rintro ⟨-, hana, hgb⟩ k
    refine ⟨fun h => (hana k).trans ?_, fun h => (hgb k).trans ?_⟩
    · rw [if_pos h, List.any_nil]
    · rw [if_pos h, List.any_nil]
  · intro h
    refine ⟨⟨fun i hi => absurd hi (Nat.not_lt_zero i), served_zero⟩, fun k => ?_, fun k => ?_⟩
    · split
      · exact (h k).1 ‹_›
      · rfl
    · split
      · exact (h k).2 ‹_›
      · rfl

theorem speedsSet_concat_iff {d : PhyDevice} {init : List MediaSpeed} {last : MediaSpeed} {phy : Phy}
    (hreach : Reaches select d.fault init.length (callTime select d.fault d.time init.length))
    (hphy : ReachesAll select d.fault init.length d.time → phy = init.foldl Phy.speedSet d.hw) :
    SpeedsSet select d (init ++ [last]) (phy.speedSet last) ↔
      ReachesAll select d.fault init.length d.time ∧ ∀ speed ∈ init, last.Covers speed := by
  constructor
  · rintro ⟨hreached, hana, hgb⟩
    rw [List.length_append, List.length_singleton, reachesAll_succ] at hreached
    refine ⟨hreached.1, fun speed hspeed k => ⟨fun h => ?_, fun h => ?_⟩⟩
    · have hk := hana k
      rw [bit_speedSet_ana, if_pos (abil_adv speed k h), if_pos (abil_adv speed k h)] at hk
      exact any_getLsbD_iff.mp hk speed hspeed h
    · have hk := hgb k
      rw [bit_speedSet_gb, if_pos (abilGB_adv speed k h), if_pos (abilGB_adv speed k h)] at hk
      exact any_getLsbD_iff.mp hk speed hspeed h
  · rintro ⟨hinit, hcovers⟩
    rw [hinit.callTime_eq] at hreach
    rw [hphy hinit]
    refine ⟨?_, fun k => ?_, fun k => ?_⟩
    · rw [List.length_append, List.length_singleton, reachesAll_succ]
      exact ⟨hinit, hreach⟩
    · rw [bit_speedSet_ana]
      cases hk : anaAdv.getLsbD k with
      | true => exact any_getLsbD_iff.mpr fun speed hspeed => (hcovers speed hspeed k).1
      | false => exact (bit_foldl_speedSet init d.hw k).1 hk
    · rw [bit_speedSet_gb]
      cases hk : gbCtrlAdv.getLsbD k with
      | true => exact any_getLsbD_iff.mpr fun speed hspeed => (hcovers speed hspeed k).2
      | false => exact (bit_foldl_speedSet init d.hw k).2 hk

/-- A PHY whose last speed can be set advertises the speeds it was given iff all others can be set, and the last
has all their abilities. -/
theorem mediaPhySpeedSet_advertises_iff (select : Nat → Except Errno Unit) (speeds : List MediaSpeed)
    (d : PhyDevice) :
    (((mediaPhySpeedSet true select speeds).out d).1 = .ok () →
      SpeedsSet select d speeds ((mediaPhySpeedSet true select speeds).out d).2.hw) ↔
    (speeds = [] → ∀ k, (anaAdv.getLsbD k = true → d.hw.Bit anaReg k = false) ∧
      (gbCtrlAdv.getLsbD k = true → d.hw.Bit gbCtrlReg k = false)) ∧
    ∀ init last, speeds = init ++ [last] →
      Reaches select d.fault init.length (callTime select d.fault d.time init.length) →
      ReachesAll select d.fault init.length d.time ∧ ∀ speed ∈ init, last.Covers speed := by
  rw [mediaPhySpeedSet, Bool.not_true, if_neg Bool.false_ne_true]
  rcases speeds.eq_nil_or_concat' with rfl | ⟨init, last, rfl⟩
  · rw [← speedsSet_nil_iff d]
    exact ⟨fun h => ⟨fun _ => h rfl, fun init last h => by simp at h⟩, fun h _ => h.1 rfl⟩
  · obtain ⟨rc, d', hout, hfault, htime, hhw⟩ := phySpeedSetLoop_append select init d
    obtain ⟨r, d'', hout', -, -, hok, hhw'⟩ := sfpPhySpeedSet_out select init.length last d'
    rw [hfault, htime] at hok
    have hrun : (phySpeedSetLoop select 0 (.ok ()) (init ++ [last])).out d = (outcome r, d'') := by
      rw [hout]
      exact (Acts.out_bind_ok (out_attempt hout')).trans (out_ofResult r d'')
    have hreturned : outcome r = .ok () ↔ Reaches select d.fault init.length
        (callTime select d.fault d.time init.length) :=
      ⟨fun h => hok.mp (outcome_injective (show outcome r = outcome (.ok ()) from h)), fun h => by rw [hok.mpr h]; rfl⟩
    rw [hrun, hreturned]
    constructor
    · refine fun h => ⟨fun hnil => by simp at hnil, fun init' last' heq hreach => ?_⟩
      obtain ⟨rfl, hlast⟩ := List.append_inj' heq rfl
      cases hlast
      exact (speedsSet_concat_iff hreach hhw).mp (hhw' (hok.mpr hreach) ▸ h hreach)
    · rintro ⟨-, h⟩ hreach
      rw [hhw' (hok.mpr hreach)]
      exact (speedsSet_concat_iff hreach hhw).mpr (h init last rfl hreach)

/-- The PHY of a port that was given 1G and 100M does not advertise 1G. -/
theorem not_speedsSet_two :
    ((mediaPhySpeedSet true (fun _ => .ok ()) [.s1G, .s100M]).out (PhyDevice.start ⟨fun _ => 0, false⟩)).1 = .ok () ∧
    ¬SpeedsSet (fun _ => .ok ()) (PhyDevice.start ⟨fun _ => 0, false⟩) [.s1G, .s100M]
      ((mediaPhySpeedSet true (fun _ => .ok ()) [.s1G, .s100M]).out (PhyDevice.start ⟨fun _ => 0, false⟩)).2.hw := by
  refine ⟨rfl, fun h => ?_⟩
  have hbit := h.gb 9
  revert hbit
  decide +kernel

end

end OpxSdi.Media
