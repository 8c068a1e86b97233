import OpxSdi.Media.Lemmas.Cdr

/-!
# The CDR of a channel reads back

A call that sets the CDR of a channel of a QSFP with `STD_ERR_OK` has set the bits of the
supported directions, and it reads back so, iff no lone failure is overwritten and no bit of an
unsupported direction is in the way.
-/

namespace OpxSdi.Media

open Lib Device

namespace Qsfp

variable (q : Qsfp)

/-! ## Bits -/

/-- The register and the bit of a direction of the channel -/
def cdrPlace (category : QsfpCategory) (channel : BitVec 32) (dir : Direction) : Byte × Nat :=
  if category = .qsfpdd then (dir.ddCdrControlOffset.setWidth 8, dir.ddCdrControlBit channel)
  else (cdrControlOffset.setWidth 8, dir.cdrControlBit channel)

/-- A bit of a register of the module -/
def bitAt (slaves : BitVec 16 → Eeprom) (p : Byte × Nat) : Bool := ((slaves q.i2cAddr).read p.1).getLsbD p.2

/-- The bits of the supported directions are `enable`, and everything else is as it was. -/
structure SetsCdr (channel : BitVec 32) (enable : Bool) (c c' : Cage) : Prop where
  bit_eq : ∀ dir, q.Supports c.slaves dir → q.bitAt c'.slaves
    (cdrPlace c.priv.modCategory channel dir) = enable
  rest_eq : ∀ p, (∀ dir, q.Supports c.slaves dir → p ≠ cdrPlace c.priv.modCategory channel dir) →
    q.bitAt c'.slaves p = q.bitAt c.slaves p
  others_eq : ∀ a, a ≠ q.i2cAddr → c'.slaves a = c.slaves a

/-- What a call that sets the CDR of a channel, and one that reads it after it, have to do. No operation of a
call that returns `STD_ERR_OK` has failed. -/
structure ControlsCdr (channel : BitVec 32) (enable : Bool) (d : State) : Prop where
  writes : ∀ d', Ok (q.cdrStatusSet channel enable) d () d' → d.Clear (d'.time - d.time)
  sets : ∀ d', Ok (q.cdrStatusSet channel enable) d () d' → q.SetsCdr channel enable d.hw d'.hw
  reads : ∀ d' d'' r, Ok (q.cdrStatusSet channel enable) d () d' → Ok (q.cdrStatusGet channel) d' r d'' →
    d'.Clear (d''.time - d'.time)
  reads_back : ∀ d' r, Ok (q.cdrStatusSet channel enable) d () d' →
    Answers (q.cdrStatusGet channel) d' r → r = enable

/-! ## The condition -/

/-- For a module with two registers, neither the first write nor the first read after it fails alone. When the
CDR is disabled, no bit of a direction that is not supported is set. -/
structure KeepsCdr (channel : BitVec 32) (enable : Bool) (d : State) : Prop where
  writes : q.ReachesCdr channel d → d.hw.priv.modCategory = .qsfpdd →
    d.ClearBut (q.sel.ops + 5) (q.sel.ops + 2) → d.Clear (q.sel.ops + 5)
  reads : q.ReachesCdr channel d → d.hw.priv.modCategory = .qsfpdd →
    d.ClearBut (q.sel.ops + 5 + (q.sel.ops + 3)) (q.sel.ops + 5 + (q.sel.ops + 1)) →
      d.Clear (q.sel.ops + 5 + (q.sel.ops + 3))
  clears : q.ReachesCdr channel d → d.Clear (q.sel.ops + cdrSetOps d.hw.priv.modCategory +
    (q.sel.ops + cdrGetOps d.hw.priv.modCategory)) → enable = false → ∀ dir, ¬q.Supports d.hw.slaves dir →
      q.bitAt d.hw.slaves (cdrPlace d.hw.priv.modCategory channel dir) = false

/-! ## Bits that are written -/

variable {q} {channel : BitVec 32} {enable : Bool} {d d' : State} {category : QsfpCategory} {dir : Direction}
  {slaves : BitVec 16 → Eeprom} {p : Byte × Nat}

theorem cdrPlace_lt (hvalid : validateChannel channel category = true) (dir : Direction) :
    (cdrPlace category channel dir).2 < 8 := by
  rw [validateChannel] at hvalid
  rw [cdrPlace]
  split
  · rename_i hdd
    rw [if_pos hdd, decide_eq_true_eq] at hvalid
    have hle : channel ≤ 7 := hvalid
    cases dir <;> exact Nat.lt_succ_of_le (BitVec.le_def.mp hle)
  · rename_i hdd
    rw [if_neg hdd, decide_eq_true_eq] at hvalid
    have hle : channel ≤ 3 := hvalid
    cases dir with
    | tx =>
        change (channel + 4).toNat < 8
        bv_omega
    | rx =>
        change channel.toNat < 8
        bv_omega

/-- The directions have different bits. -/
theorem cdrPlace_ne (category : QsfpCategory) (channel : BitVec 32) :
    cdrPlace category channel .tx ≠ cdrPlace category channel .rx := by
  rw [cdrPlace, cdrPlace]
  split
  · intro heq
    exact absurd (Prod.mk.inj heq).1 (by decide)
  · intro heq
    have hbits : (channel + 4).toNat = channel.toNat := (Prod.mk.inj heq).2
    bv_omega

theorem bitAt_withDdCdr (hlt : dir.ddCdrControlBit channel < 8) :
    q.bitAt (q.withDdCdr channel enable dir slaves) p =
    if q.Supports slaves dir ∧ p = cdrPlace .qsfpdd channel dir then enable else q.bitAt slaves p := by
  obtain ⟨o, k⟩ := p
  rw [bitAt, bitAt, withDdCdr, read_withRegister (by cases dir <;> decide), cdrPlace, if_pos rfl]
  simp only [Prod.mk.injEq]
  by_cases ho : o = dir.ddCdrControlOffset.setWidth 8
  · subst ho
    rw [if_pos rfl, getLsbD_setCdrBit hlt]
    simp only [true_and]
    rfl
  · rw [if_neg ho, if_neg fun h => ho h.2.1]

theorem supports_withRegister {offset : BitVec 32} {b : Byte} (h : offset.setWidth 8 < (127 : Byte)) :
    q.Supports (q.withRegister slaves offset b) dir ↔ q.Supports slaves dir := by
  have hne : options3Offset.setWidth 8 ≠ offset.setWidth 8 := by
    intro heq
    rw [← heq] at h
    exact absurd h (by decide)
  rw [Supports, Supports, register, read_withRegister h, if_neg hne, register]

theorem bitAt_withPlainCdr (hcategory : category ≠ .qsfpdd) (htx : Direction.tx.cdrControlBit channel < 8)
    (hrx : Direction.rx.cdrControlBit channel < 8) : q.bitAt (q.withPlainCdr channel enable slaves) p =
      if q.Supports slaves .rx ∧ p = cdrPlace category channel .rx then enable
      else if q.Supports slaves .tx ∧ p = cdrPlace category channel .tx then enable
      else q.bitAt slaves p := by
  obtain ⟨o, k⟩ := p
  rw [bitAt, bitAt, withPlainCdr, read_withRegister (by decide), cdrPlace, cdrPlace, if_neg hcategory,
    if_neg hcategory]
  simp only [Prod.mk.injEq]
  by_cases ho : o = cdrControlOffset.setWidth 8
  · subst ho
    rw [if_pos rfl, getLsbD_setCdrBit hrx, getLsbD_setCdrBit htx]
    simp only [true_and]
    rfl
  · rw [if_neg ho, if_neg fun h => ho h.2.1, if_neg fun h => ho h.2.1]

/-- The bits of the supported directions are set, and no others. -/
theorem bitAt_withCdr (hvalid : validateChannel channel category = true) :
    q.bitAt (q.withCdr channel enable category true slaves) p =
      if q.Supports slaves .rx ∧ p = cdrPlace category channel .rx then enable
      else if q.Supports slaves .tx ∧ p = cdrPlace category channel .tx then enable
      else q.bitAt slaves p := by
  have hlt := fun dir => cdrPlace_lt hvalid dir
  rw [withCdr]
  by_cases hdd : category = .qsfpdd
  · subst hdd
    have hbits : ∀ dir : Direction, dir.ddCdrControlBit channel < 8 := hlt
    rw [if_pos rfl, if_pos rfl, bitAt_withDdCdr (hbits .rx), bitAt_withDdCdr (hbits .tx)]
    have hsup : q.Supports (q.withDdCdr channel enable .tx slaves) .rx ↔ q.Supports slaves .rx :=
      supports_withRegister (by decide)
    simp only [hsup]
  · simp only [cdrPlace, if_neg hdd] at hlt
    rw [if_neg hdd, bitAt_withPlainCdr hdd (hlt .tx) (hlt .rx)]

theorem setsCdr_withCdr {c c' : Cage} (hvalid : validateChannel channel c.priv.modCategory = true)
    (hslaves : c'.slaves = q.withCdr channel enable c.priv.modCategory true c.slaves) :
    q.SetsCdr channel enable c c' := by
  refine ⟨fun dir hsup => ?_, fun p hp => ?_, fun a ha => ?_⟩
  · rw [hslaves, bitAt_withCdr hvalid]
    cases dir with
    | tx =>
        rw [if_neg fun h => cdrPlace_ne _ _ h.2, if_pos ⟨hsup, rfl⟩]
    | rx => rw [if_pos ⟨hsup, rfl⟩]
  · rw [hslaves, bitAt_withCdr hvalid, if_neg fun h => hp .rx h.1 h.2, if_neg fun h => hp .tx h.1 h.2]
  · rw [hslaves, withCdr]
    split
    · exact (Function.update_of_ne ha _ _).trans (Function.update_of_ne ha _ _)
    · exact Function.update_of_ne ha _ _

/-! ## Calls that meet it -/

variable {r : Bool}

/-- What the call returns when no read fails -/
theorem cdrStatus_true : q.cdrStatus channel category true slaves =
    (q.bitAt slaves (cdrPlace category channel .tx) || q.bitAt slaves (cdrPlace category channel .rx)) := by
  rw [cdrStatus, cdrPlace, cdrPlace]
  split <;> rfl

/-- The state after the bits have been set with no failure -/
theorem cdrSet_of_clear (hclear : d.Clear (q.sel.ops + cdrSetOps d.hw.priv.modCategory)) :
    (q.cdrSet channel enable d).hw.slaves = q.withCdr channel enable d.hw.priv.modCategory true
    d.hw.slaves := by
  rw [cdrSet, Selection.closed_slaves, passed_slaves, withCdr, withCdr]
  split
  · rename_i hdd
    rw [cdrSetOps, if_pos hdd] at hclear
    rw [hclear (q.sel.ops + 2) (by omega)]
    rfl
  · rfl

theorem closed_passed_time (n : Nat) (slaves : BitVec 16 → Eeprom) :
    (q.sel.closed ((q.sel.opened d).passed n slaves)).time = d.time + (q.sel.ops + n) := Nat.add_assoc ..

theorem cdrSet_time : (q.cdrSet channel enable d).time = d.time +
    (q.sel.ops + cdrSetOps d.hw.priv.modCategory) :=
  closed_passed_time ..

/-- A call that sets the bits returns only if nothing fails. -/
theorem KeepsCdr.clear_of_sets (h : q.KeepsCdr channel enable d) (hreaches : q.ReachesCdr channel d)
    (hsets : q.SetsCdrAt d) : d.Clear (q.sel.ops + cdrSetOps d.hw.priv.modCategory) := by
  rw [SetsCdrAt] at hsets
  rw [cdrSetOps]
  split at hsets
  · rename_i hdd
    rw [if_pos hdd]
    exact h.writes hreaches hdd hsets
  · rename_i hdd
    rw [if_neg hdd]
    exact hsets

theorem clear_cdrSet {n : Nat} : (q.cdrSet channel enable d).Clear n ↔
    (d.after (q.sel.ops + cdrSetOps d.hw.priv.modCategory) d.hw).Clear n := by
  rw [Clear, Clear, cdrSet_time]
  exact Iff.rfl

theorem clearBut_cdrSet {n k : Nat} : (q.cdrSet channel enable d).ClearBut n k ↔
    (d.after (q.sel.ops + cdrSetOps d.hw.priv.modCategory) d.hw).ClearBut n k := by
  rw [ClearBut, ClearBut, cdrSet_time]
  exact Iff.rfl

/-- A call that then reads the bits returns only if nothing fails. -/
theorem KeepsCdr.clear_of_gets (h : q.KeepsCdr channel enable d) (hreaches : q.ReachesCdr channel d)
    (hclear : d.Clear (q.sel.ops + cdrSetOps d.hw.priv.modCategory))
    (hgets : q.GetsCdrAt (q.cdrSet channel enable d)) :
    d.Clear (q.sel.ops + cdrSetOps d.hw.priv.modCategory +
      (q.sel.ops + cdrGetOps d.hw.priv.modCategory)) := by
  rw [GetsCdrAt] at hgets
  split at hgets
  · rename_i hdd
    have hcategory : d.hw.priv.modCategory = .qsfpdd := hdd
    rw [clearBut_cdrSet] at hgets
    rw [cdrSetOps, if_pos hcategory] at hclear hgets
    rw [cdrSetOps, cdrGetOps, if_pos hcategory, if_pos hcategory]
    exact h.reads hreaches hcategory (clearBut_add.mpr ⟨hclear, hgets⟩)
  · rename_i hdd
    rw [clear_cdrSet] at hgets
    have hops : cdrGetOps d.hw.priv.modCategory = 2 := if_neg hdd
    rw [hops]
    exact clear_add.mpr ⟨hclear, hgets⟩

theorem cdrStatus_of_clear (hclear : d.Clear (q.sel.ops + cdrGetOps d.hw.priv.modCategory)) :
    q.cdrStatus channel category (d.fault (d.time + (q.sel.ops + 1))).isNone slaves =
      q.cdrStatus channel category true slaves := by
  have hops : q.sel.ops + 1 < q.sel.ops + cdrGetOps d.hw.priv.modCategory := by
    rw [cdrGetOps]
    split <;> omega
  rw [hclear _ hops]
  rfl

namespace SetsCdr

variable {c c' : Cage}

/-- The bit of a direction that is not supported is as it was. -/
theorem unsupported_eq (h : q.SetsCdr channel enable c c') (hno : ¬q.Supports c.slaves dir) :
    q.bitAt c'.slaves (cdrPlace c.priv.modCategory channel dir) =
      q.bitAt c.slaves (cdrPlace c.priv.modCategory channel dir) := by
  refine h.rest_eq _ fun dir' hsup heq => ?_
  cases dir with
  | tx =>
      cases dir' with
      | tx => exact hno hsup
      | rx => exact cdrPlace_ne _ _ heq
  | rx =>
      cases dir' with
      | tx => exact cdrPlace_ne _ _ heq.symm
      | rx => exact hno hsup

/-- The bits read back if no bit of an unsupported direction is in the way. -/
theorem reads_back (h : q.SetsCdr channel enable c c') (hsupports : ∃ dir, q.Supports c.slaves dir)
    (hclears : enable = false → ∀ dir, ¬q.Supports c.slaves dir →
      q.bitAt c.slaves (cdrPlace c.priv.modCategory channel dir) = false) :
    (q.bitAt c'.slaves (cdrPlace c.priv.modCategory channel .tx) ||
      q.bitAt c'.slaves (cdrPlace c.priv.modCategory channel .rx)) = enable := by
  cases enable with
  | true =>
      obtain ⟨dir, hsup⟩ := hsupports
      have hbit := h.bit_eq dir hsup
      cases dir with
      | tx => rw [hbit, Bool.true_or]
      | rx => rw [hbit, Bool.or_true]
  | false =>
      have hbit : ∀ dir, q.bitAt c'.slaves (cdrPlace c.priv.modCategory channel dir) = false := by
        intro dir
        by_cases hsup : q.Supports c.slaves dir
        · exact h.bit_eq dir hsup
        · exact (h.unsupported_eq hsup).trans (hclears rfl dir hsup)
      rw [hbit, hbit, Bool.false_or]

end SetsCdr

theorem controlsCdr_of_keepsCdr (h : q.KeepsCdr channel enable d) : q.ControlsCdr channel enable d := by
  have hset : ∀ {d'}, Ok (q.cdrStatusSet channel enable) d () d' → q.ReachesCdr channel d ∧
      d.Clear (q.sel.ops + cdrSetOps d.hw.priv.modCategory) ∧ d' = q.cdrSet channel enable d := by
    intro d' hok
    obtain ⟨hreaches, hsets, hd'⟩ := ok_cdrStatusSet.mp hok
    exact ⟨hreaches, h.clear_of_sets hreaches hsets, hd'⟩
  refine ⟨fun d' hok => ?_, fun d' hok => ?_, fun d' d'' r hok hget => ?_, fun d' r hok hget => ?_⟩
  · obtain ⟨-, hclear, rfl⟩ := hset hok
    rw [cdrSet_time, Nat.add_sub_cancel_left]
    exact hclear
  · obtain ⟨hreaches, hclear, rfl⟩ := hset hok
    exact setsCdr_withCdr hreaches.valid (cdrSet_of_clear hclear)
  · obtain ⟨hreaches, hclear, rfl⟩ := hset hok
    obtain ⟨-, hgets, -, rfl⟩ := ok_cdrStatusGet.mp hget
    have hall := h.clear_of_gets hreaches hclear hgets
    rw [closed_passed_time, Nat.add_sub_cancel_left, clear_cdrSet]
    exact (clear_add.mp hall).2
  · obtain ⟨hreaches, hclear, rfl⟩ := hset hok
    obtain ⟨d'', hget⟩ := hget
    obtain ⟨-, hgets, rfl, -⟩ := ok_cdrStatusGet.mp hget
    have hall := h.clear_of_gets hreaches hclear hgets
    rw [cdrStatus_of_clear (clear_cdrSet.mpr (clear_add.mp hall).2), cdrStatus_true]
    exact (setsCdr_withCdr hreaches.valid (cdrSet_of_clear hclear)).reads_back hreaches.supports
      (h.clears hreaches hall)

/-! ## Calls that do not -/

/-- Once the selection has ended, its locks are free. -/
theorem free_closed (s : Selection) (d : State) : s.Free (s.closed d) := by
  obtain ⟨mux, muxValue, mod, modValue⟩ := s
  cases mux <;> cases mod <;> refine ⟨fun h => ?_, fun h => ?_⟩ <;> first | rfl | cases h

theorem supports_withCdr {txWritten : Bool} :
    q.Supports (q.withCdr channel enable category txWritten slaves) dir ↔ q.Supports slaves dir := by
  rw [withCdr]
  split
  · refine (supports_withRegister (by decide)).trans ?_
    cases txWritten with
    | true => exact supports_withRegister (by decide)
    | false => exact Iff.rfl
  · exact supports_withRegister (by decide)

theorem ReachesCdr.cdrSet (h : q.ReachesCdr channel d) :
    q.ReachesCdr channel (q.cdrSet channel enable d) where
  modType_ne := h.modType_ne
  valid := h.valid
  free := free_closed q.sel _
  supports := by
    obtain ⟨dir, hsup⟩ := h.supports
    exact ⟨dir, supports_withCdr.mpr hsup⟩

theorem setsCdrAt_of_clear (h : d.Clear (q.sel.ops + cdrSetOps d.hw.priv.modCategory)) : q.SetsCdrAt d := by
  rw [cdrSetOps] at h
  rw [SetsCdrAt]
  split
  · rename_i hdd
    rw [if_pos hdd] at h
    exact ((clear_iff_clearBut (by omega)).mp h).1
  · rename_i hdd
    rw [if_neg hdd] at h
    exact h

theorem getsCdrAt_of_clear (h : d.Clear (q.sel.ops + cdrGetOps d.hw.priv.modCategory)) : q.GetsCdrAt d := by
  rw [cdrGetOps] at h
  rw [GetsCdrAt]
  split
  · rename_i hdd
    rw [if_pos hdd] at h
    exact ((clear_iff_clearBut (by omega)).mp h).1
  · rename_i hdd
    rw [if_neg hdd] at h
    exact h

/-- A bit of an unsupported direction that is in the way is read back. -/
theorem ControlsCdr.clears (h : q.ControlsCdr channel enable d) (hreaches : q.ReachesCdr channel d)
    (hclear : d.Clear (q.sel.ops + cdrSetOps d.hw.priv.modCategory +
    (q.sel.ops + cdrGetOps d.hw.priv.modCategory)))
    (henable : enable = false) (hno : ¬q.Supports d.hw.slaves dir) :
    q.bitAt d.hw.slaves (cdrPlace d.hw.priv.modCategory channel dir) = false := by
  obtain ⟨hsets, hgets⟩ := (@clear_add _ _ _ d _ _ d.hw).mp hclear
  have hgets' : (q.cdrSet channel enable d).Clear (q.sel.ops + cdrGetOps d.hw.priv.modCategory) :=
    clear_cdrSet.mpr hgets
  have hok : Ok (q.cdrStatusSet channel enable) d () (q.cdrSet channel enable d) :=
    ok_cdrStatusSet.mpr ⟨hreaches, setsCdrAt_of_clear hsets, rfl⟩
  have hr := h.reads_back _ _ hok
    ⟨_, ok_cdrStatusGet.mpr ⟨hreaches.cdrSet, getsCdrAt_of_clear hgets', rfl, rfl⟩⟩
  rw [cdrStatus_of_clear hgets', cdrStatus_true, henable, Bool.or_eq_false_iff] at hr
  have hbit : q.bitAt (q.cdrSet channel false d).hw.slaves
    (cdrPlace d.hw.priv.modCategory channel dir) = false := by
    cases dir with
    | tx => exact hr.1
    | rx => exact hr.2
  rw [← (setsCdr_withCdr hreaches.valid (cdrSet_of_clear hsets)).unsupported_eq hno]
  exact hbit

theorem ControlsCdr.reads_clear (h : q.ControlsCdr channel enable d) (hreaches : q.ReachesCdr channel d)
    (hclear : d.Clear (q.sel.ops + cdrSetOps d.hw.priv.modCategory))
    (hgets : q.GetsCdrAt (q.cdrSet channel enable d)) :
    d.Clear (q.sel.ops + cdrSetOps d.hw.priv.modCategory +
    (q.sel.ops + cdrGetOps d.hw.priv.modCategory)) := by
  have hreads := h.reads _ _ _ (ok_cdrStatusSet.mpr ⟨hreaches, setsCdrAt_of_clear hclear, rfl⟩)
    (ok_cdrStatusGet.mpr ⟨hreaches.cdrSet, hgets, rfl, rfl⟩)
  rw [closed_passed_time, Nat.add_sub_cancel_left, clear_cdrSet] at hreads
  exact clear_add.mpr ⟨hclear, hreads⟩

theorem keepsCdr_of_controlsCdr (h : q.ControlsCdr channel enable d) : q.KeepsCdr channel enable d where
  writes hreaches hdd hbut := by
    have hsets : q.SetsCdrAt d := by
      rw [SetsCdrAt, if_pos hdd]
      exact hbut
    have hclear := h.writes _ (ok_cdrStatusSet.mpr ⟨hreaches, hsets, rfl⟩)
    rw [cdrSet_time, Nat.add_sub_cancel_left, cdrSetOps, if_pos hdd] at hclear
    exact hclear
  reads hreaches hdd hbut := by
    have hsetOps : cdrSetOps d.hw.priv.modCategory = 5 := if_pos hdd
    have hgetOps : cdrGetOps d.hw.priv.modCategory = 3 := if_pos hdd
    obtain ⟨hclear, hbut⟩ := (@clearBut_add _ _ _ d (q.sel.ops + 5) _ _ d.hw).mp hbut
    rw [← hsetOps] at hclear hbut
    have hgets : q.GetsCdrAt (q.cdrSet channel enable d) := by
      rw [GetsCdrAt, if_pos (show (q.cdrSet channel enable d).hw.priv.modCategory = .qsfpdd from hdd),
        clearBut_cdrSet]
      exact hbut
    have hall := h.reads_clear hreaches hclear hgets
    rw [hsetOps, hgetOps] at hall
    exact hall
  clears hreaches hclear henable _ hno := h.clears hreaches hclear henable hno

/-- The CDR of a channel is set and reads back exactly when no lone failure is overwritten and no bit of an
unsupported direction is in the way. -/
theorem controlsCdr_iff (q : Qsfp) (channel : BitVec 32) (enable : Bool) (d : State) :
    q.ControlsCdr channel enable d ↔ q.KeepsCdr channel enable d :=
  ⟨keepsCdr_of_controlsCdr, controlsCdr_of_keepsCdr⟩

/-- The write of the register of the transmitters fails, and no error is returned. -/
theorem not_controlsCdr_txWrite : ¬ControlsCdr muxedCage 0 true
    ⟨fun _ => false, fun t => if t = 4 then some .eio else none, 0,
      ⟨fun _ => 0, fun _ => ⟨fun _ => 0, fun _ _ => 0xc0⟩,
      { QsfpDevice.create with modCategory := .qsfpdd }, [], 0,
        []⟩⟩ := by
  intro h
  have hclear := h.writes _ rfl
  exact absurd (hclear 4 (by decide)) (by decide)

end Qsfp

end OpxSdi.Media
