import OpxSdi.Lib.Results
import OpxSdi.Media.Adapter

/-!
# When a call to a module returns

The conditions under which transactions, a selection and a call between a selection and its end return, and
the state that they leave.
-/

namespace OpxSdi.Media

open Lib Device

variable {d d' : State} {a : BitVec 16} {cmd : BitVec 32} {e : Errno} {b : Byte} {u : Unit}

/-! ## Transactions -/

/-- The state after `n` transactions, with these modules. -/
def State.passed (d : State) (n : Nat) (slaves : BitVec 16 → Eeprom) : State :=
  { d with
    time := d.time + n
    hw := { d.hw with slaves, log := d.hw.log ++ List.replicate n .transaction } }

section

variable (d : State) (m n : Nat) (slaves slaves' : BitVec 16 → Eeprom)

@[simp] theorem passed_time : (d.passed n slaves).time = d.time + n := rfl
@[simp] theorem passed_fault : (d.passed n slaves).fault = d.fault := rfl
@[simp] theorem passed_held : (d.passed n slaves).held = d.held := rfl
@[simp] theorem passed_slaves : (d.passed n slaves).hw.slaves = slaves := rfl
@[simp] theorem passed_priv : (d.passed n slaves).hw.priv = d.hw.priv := rfl
@[simp] theorem passed_pins : (d.passed n slaves).hw.pins = d.hw.pins := rfl

@[simp] theorem passed_zero : d.passed 0 d.hw.slaves = d := by
  simp only [State.passed, Nat.add_zero, List.replicate_zero, List.append_nil]

@[simp] theorem passed_passed : (d.passed m slaves).passed n slaves' = d.passed (m + n) slaves' := by
  simp only [State.passed, List.append_assoc, List.replicate_append_replicate, Nat.add_assoc]

end

section

variable {α : Type} {r : α} {f : Cage → α × Cage}

theorem ok_transaction : Ok (note .transaction >>= fun _ => access f) d r d' ↔ d.fault d.time = none ∧
    r = (f { d.hw with log := d.hw.log ++ [.transaction] }).1 ∧
    d' = { d with hw := (f { d.hw with log := d.hw.log ++ [.transaction] }).2, time := d.time + 1 } := by
  rw [ok_bind]
  constructor
  · rintro ⟨u, d1, hnote, h⟩
    rw [(ok_internal.mp hnote).2] at h
    exact ok_access.mp h
  · intro h
    exact ⟨(), _, rfl, ok_access.mpr h⟩

theorem err_transaction : Err (note .transaction >>= fun _ => access f) d e d' ↔
    d.fault d.time = some e ∧ d' = d.passed 1 d.hw.slaves := by
  rw [err_bind]
  constructor
  · rintro (hnote | ⟨u, d1, hnote, h⟩)
    · exact absurd hnote err_internal
    · rw [(ok_internal.mp hnote).2] at h
      exact err_access.mp h
  · intro h
    exact .inr ⟨(), _, rfl, err_access.mpr h⟩

end

theorem ok_smbusReadByte : Ok (smbusReadByte a cmd) d b d' ↔
    d.fault d.time = none ∧ b = (d.hw.slaves a).read (cmd.setWidth 8) ∧ d' = d.passed 1 d.hw.slaves :=
  ok_transaction

theorem err_smbusReadByte : Err (smbusReadByte a cmd) d e d' ↔
    d.fault d.time = some e ∧ d' = d.passed 1 d.hw.slaves := err_transaction

theorem ok_smbusWriteByte : Ok (smbusWriteByte a cmd b) d u d' ↔ d.fault d.time = none ∧
    d' = d.passed 1 (Function.update d.hw.slaves a ((d.hw.slaves a).write (cmd.setWidth 8) b)) :=
  ok_transaction.trans (and_congr_right fun _ => and_iff_right rfl)

theorem err_smbusWriteByte : Err (smbusWriteByte a cmd b) d e d' ↔
    d.fault d.time = some e ∧ d' = d.passed 1 d.hw.slaves := err_transaction

theorem ok_smbusReadWord {w : BitVec 16} : Ok (smbusReadWord a cmd) d w d' ↔ d.fault d.time = none ∧
    w = (d.hw.slaves a).read (cmd.setWidth 8 + 1) ++ (d.hw.slaves a).read (cmd.setWidth 8) ∧
      d' = d.passed 1 d.hw.slaves := ok_transaction

theorem err_smbusReadWord : Err (smbusReadWord a cmd) d e d' ↔
    d.fault d.time = some e ∧ d' = d.passed 1 d.hw.slaves := err_transaction

/-- A read before other operations. -/
theorem ok_smbusReadByte_bind {α : Type} {f : Byte → M α} {r : α} : Ok (smbusReadByte a cmd >>= f) d r d' ↔
    d.fault d.time = none ∧ Ok (f ((d.hw.slaves a).read (cmd.setWidth 8))) (d.passed 1 d.hw.slaves) r d' := by
  simp only [ok_bind, ok_smbusReadByte, and_assoc, exists_and_left, exists_eq_left]

theorem answers_smbusReadByte_bind {α : Type} {f : Byte → M α} {r : α} : Answers (smbusReadByte a cmd >>= f) d r ↔
    d.fault d.time = none ∧ Answers (f ((d.hw.slaves a).read (cmd.setWidth 8))) (d.passed 1 d.hw.slaves) r := by
  simp only [Answers, ok_smbusReadByte_bind, exists_and_left]

theorem ok_getPriv {p : QsfpDevice} : Ok getPriv d p d' ↔ p = d.hw.priv ∧ d' = d := ok_internal

/-! ## Pin groups and the selection -/

variable {g : PinGroup} {v : BitVec 32}

theorem ok_pinGroupAcquireBus : Ok (pinGroupAcquireBus g) d u d' ↔ d.fault d.time = none ∧ d.held g = false ∧
    d' = { d with
      held := Function.update d.held g true
      time := d.time + 1
      hw := { d.hw with log := d.hw.log ++ [.acquire g] } } := by
  rw [pinGroupAcquireBus, ok_bind]
  constructor
  · rintro ⟨u, d1, hlock, hnote⟩
    obtain ⟨hfault, hheld, rfl⟩ := ok_lock.mp hlock
    exact ⟨hfault, hheld, (ok_internal.mp hnote).2⟩
  · rintro ⟨hfault, hheld, rfl⟩
    exact ⟨(), _, ok_lock.mpr ⟨hfault, hheld, rfl⟩, rfl⟩

theorem err_pinGroupAcquireBus : Err (pinGroupAcquireBus g) d e d' ↔
    d.fault d.time = some e ∧ d' = { d with time := d.time + 1 } := by
  rw [pinGroupAcquireBus, err_bind, or_iff_left, err_lock]
  rintro ⟨u, d1, -, hnote⟩
  exact err_internal hnote

theorem ok_pinGroupReleaseBus : Ok (pinGroupReleaseBus g) d u d' ↔
    d' = { d with
      held := Function.update d.held g false
      hw := { d.hw with log := d.hw.log ++ [.release g] } } := by
  constructor
  · intro h
    cases h
    rfl
  · rintro rfl
    rfl

theorem ok_pinGroupReadLevel : Ok (pinGroupReadLevel g) d v d' ↔
    d.fault d.time = none ∧ v = d.hw.pins g ∧ d' = { d with time := d.time + 1 } := ok_access

theorem err_pinGroupReadLevel : Err (pinGroupReadLevel g) d e d' ↔
    d.fault d.time = some e ∧ d' = { d with time := d.time + 1 } := err_access

theorem ok_pinGroupWriteLevel : Ok (pinGroupWriteLevel g v) d u d' ↔ d.fault d.time = none ∧
    d' = { d with hw := { d.hw with pins := Function.update d.hw.pins g v }, time := d.time + 1 } := by
  refine ok_access.trans (and_congr_right fun _ => ?_)
  exact and_iff_right rfl

theorem err_pinGroupWriteLevel : Err (pinGroupWriteLevel g v) d e d' ↔
    d.fault d.time = some e ∧ d' = { d with time := d.time + 1 } := err_access

namespace Selection

variable (s : Selection)

/-- The selection that starts now succeeds. -/
def SelectsAt (d : State) : Prop := s.Free d ∧ d.Clear s.ops

def driven (pins : PinGroup → BitVec 32) : PinGroup → BitVec 32 := fun g =>
  match g with
  | .muxSel => if s.muxSelHdl then s.muxSelValue else pins .muxSel
  | .modSel => if s.modSelHdl then s.modSelValue else pins .modSel
  | g => pins g

def opened (d : State) : State :=
  { d with
    held := replay d.held s.opening
    time := d.time + s.ops
    hw := { d.hw with pins := s.driven d.hw.pins, log := d.hw.log ++ s.opening } }

def closed (d : State) : State :=
  { d with
    held := replay d.held s.closing
    hw := { d.hw with log := d.hw.log ++ s.closing } }

@[simp] theorem opened_time (d : State) : (s.opened d).time = d.time + s.ops := rfl
@[simp] theorem opened_fault (d : State) : (s.opened d).fault = d.fault := rfl
@[simp] theorem opened_slaves (d : State) : (s.opened d).hw.slaves = d.hw.slaves := rfl
@[simp] theorem opened_priv (d : State) : (s.opened d).hw.priv = d.hw.priv := rfl
@[simp] theorem closed_time (d : State) : (s.closed d).time = d.time := rfl
@[simp] theorem closed_fault (d : State) : (s.closed d).fault = d.fault := rfl
@[simp] theorem closed_slaves (d : State) : (s.closed d).hw.slaves = d.hw.slaves := rfl
@[simp] theorem closed_priv (d : State) : (s.closed d).hw.priv = d.hw.priv := rfl
@[simp] theorem closed_pins (d : State) : (s.closed d).hw.pins = d.hw.pins := rfl

theorem ok_moduleDeselect : Ok s.moduleDeselect d u d' ↔ d' = s.closed d := by
  have hout : s.moduleDeselect.out d = (.ok (), s.closed d) := by
    obtain ⟨mux, muxValue, mod, modValue⟩ := s
    cases mux <;> cases mod <;>
      exact Prod.ext rfl (congrArg (fun log => ({ d with
        held := _, hw := { d.hw with log := log } } : State)) (by simp [closing, muxReleased, modReleased]))
  rw [Ok, hout]
  exact ⟨fun h => (Prod.mk.inj h).2.symm, fun h => Prod.ext rfl h.symm⟩

/-- The state once a pin group has been taken and written. -/
def taken (d : State) (g : PinGroup) (v : BitVec 32) : State :=
  { d with
    held := Function.update d.held g true
    time := d.time + 2
    hw := { d.hw with pins := Function.update d.hw.pins g v, log := d.hw.log ++ [.acquire g] } }

theorem ok_take : (∃ u d1, Ok (pinGroupAcquireBus g) d u d1 ∧ ∃ u' d2, Ok (pinGroupWriteLevel g v) d1 u' d2 ∧
    d' = d2) ↔ d.held g = false ∧ d.Clear 2 ∧ d' = taken d g v := by
  rw [clear_two]
  constructor
  · rintro ⟨u, d1, hacquire, u', d2, hwrite, rfl⟩
    obtain ⟨hfault, hheld, rfl⟩ := ok_pinGroupAcquireBus.mp hacquire
    obtain ⟨hfault', rfl⟩ := ok_pinGroupWriteLevel.mp hwrite
    exact ⟨hheld, ⟨hfault, hfault'⟩, rfl⟩
  · rintro ⟨hheld, ⟨hfault, hfault'⟩, rfl⟩
    exact ⟨(), _, ok_pinGroupAcquireBus.mpr ⟨hfault, hheld, rfl⟩, (), _,
      ok_pinGroupWriteLevel.mpr ⟨hfault', rfl⟩, rfl⟩

/-- The state once a pin group has been taken and written, if there is one. -/
def takenIf (hdl : Bool) (d : State) (g : PinGroup) (v : BitVec 32) : State := if hdl then taken d g v else d

section

variable (hdl : Bool)

theorem takenIf_time : (takenIf hdl d g v).time = d.time + if hdl then 2 else 0 := by
  cases hdl <;> rfl

theorem takenIf_fault : (takenIf hdl d g v).fault = d.fault := by
  cases hdl <;> rfl

theorem takenIf_held {g' : PinGroup} (h : g' ≠ g) : (takenIf hdl d g v).held g' = d.held g' := by
  cases hdl
  · rfl
  · exact Function.update_of_ne h _ _

theorem clear_takenIf {n : Nat} : (d.Clear (if hdl then 2 else 0) ∧ (takenIf hdl d g v).Clear n) ↔
    d.Clear ((if hdl then 2 else 0) + n) := by
  rw [@clear_add _ _ _ d _ n d.hw]
  refine and_congr_right fun _ => ?_
  simp only [Clear, takenIf_time, takenIf_fault]
  rfl

end

theorem ok_selectMux : Ok s.selectMux d u d' ↔ (s.muxSelHdl = true → d.held .muxSel = false) ∧
    d.Clear (if s.muxSelHdl then 2 else 0) ∧ d' = takenIf s.muxSelHdl d .muxSel s.muxSelValue := by
  rw [selectMux]
  cases s.muxSelHdl with
  | false => exact ok_pure.trans ⟨fun h => ⟨nofun, d.clear_zero, h.2⟩, fun h => ⟨rfl, h.2.2⟩⟩
  | true =>
      simp only [↓reduceIte, forall_const, takenIf]
      rw [← ok_take, ok_bind]
      refine exists_congr fun u1 => exists_congr fun d1 => and_congr_right fun _ => ?_
      rw [ok_attempt_or_fail fun e d' d'' => not_ok_then_fail]
      exact exists_congr fun u2 => exists_congr fun d2 => and_congr_right fun _ =>
        ok_pure.trans (and_iff_right rfl)

theorem ok_selectMod : Ok s.selectMod d u d' ↔ (s.modSelHdl = true → d.held .modSel = false) ∧
    d.Clear (if s.modSelHdl then 2 else 0) ∧ d' = takenIf s.modSelHdl d .modSel s.modSelValue := by
  rw [selectMod]
  cases s.modSelHdl with
  | false => exact ok_pure.trans ⟨fun h => ⟨nofun, d.clear_zero, h.2⟩, fun h => ⟨rfl, h.2.2⟩⟩
  | true =>
      simp only [↓reduceIte, forall_const, takenIf]
      rw [← ok_take, ok_attempt_or_fail fun e d' d'' => not_ok_then_fail]
      refine exists_congr fun u1 => exists_congr fun d1 => and_congr_right fun _ => ?_
      rw [ok_attempt_or_fail fun e d' d'' => ?_]
      · exact exists_congr fun u2 => exists_congr fun d2 => and_congr_right fun _ =>
          ok_pure.trans (and_iff_right rfl)
      · rw [ok_bind]
        rintro ⟨u2, d2, -, h⟩
        exact not_ok_then_fail h

theorem driven_eq (pins : PinGroup → BitVec 32) : s.driven pins =
    (if s.modSelHdl then fun p => Function.update p .modSel s.modSelValue else id)
      ((if s.muxSelHdl then fun p => Function.update p .muxSel s.muxSelValue else id) pins) := by
  obtain ⟨mux, muxValue, mod, modValue⟩ := s
  funext g
  cases mux <;> cases mod <;> cases g <;> rfl

theorem opened_eq : s.opened d =
    let d2 := takenIf s.modSelHdl (takenIf s.muxSelHdl d .muxSel s.muxSelValue) .modSel s.modSelValue
    { d2 with hw := { d2.hw with log := d2.hw.log ++ [.selected] } } := by
  rw [opened, driven_eq]
  obtain ⟨mux, muxValue, mod, modValue⟩ := s
  cases mux <;> cases mod <;>
    simp [takenIf, taken, opening, muxAcquired, modAcquired, replay, ops]

theorem ok_moduleSelect : Ok s.moduleSelect d u d' ↔ s.SelectsAt d ∧ d' = s.opened d := by
  rw [moduleSelect, ok_bind]
  constructor
  · rintro ⟨u1, d1, hmux, h⟩
    obtain ⟨u2, d2, hmod, hnote⟩ := ok_bind.mp h
    obtain ⟨hmuxfree, hmuxclear, rfl⟩ := s.ok_selectMux.mp hmux
    obtain ⟨hmodfree, hmodclear, rfl⟩ := s.ok_selectMod.mp hmod
    refine ⟨⟨⟨hmuxfree, fun h => ?_⟩, (clear_takenIf _).mp ⟨hmuxclear, hmodclear⟩⟩, ?_⟩
    · rw [← hmodfree h, takenIf_held _ (by decide)]
    · rw [(ok_internal.mp hnote).2, opened_eq]
  · rintro ⟨⟨⟨hmuxfree, hmodfree⟩, hclear⟩, rfl⟩
    obtain ⟨hmuxclear, hmodclear⟩ := (clear_takenIf (g := .muxSel) (v := s.muxSelValue) s.muxSelHdl).mpr hclear
    refine ⟨(), _, s.ok_selectMux.mpr ⟨hmuxfree, hmuxclear, rfl⟩, ok_bind.mpr ⟨(), _, s.ok_selectMod.mpr
      ⟨fun h => ?_, hmodclear, rfl⟩, ?_⟩⟩
    · rw [takenIf_held _ (by decide), hmodfree h]
    · exact ok_internal.mpr ⟨rfl, s.opened_eq⟩

theorem ok_withModule {α : Type} {body : M α} {r : α} : Ok (s.withModule body) d r d' ↔
    s.SelectsAt d ∧ ∃ d1, Ok body (s.opened d) r d1 ∧ d' = s.closed d1 := by
  rw [withModule, ok_bind]
  constructor
  · rintro ⟨u, d1, hselect, h⟩
    obtain ⟨hselects, rfl⟩ := s.ok_moduleSelect.mp hselect
    obtain ⟨rc, d2, hbody, h⟩ := ok_bind.mp h
    obtain ⟨u', d3, hdeselect, hresult⟩ := ok_bind.mp h
    obtain ⟨rfl, rfl⟩ := ok_ofResult.mp hresult
    rw [s.ok_moduleDeselect] at hdeselect
    obtain ⟨r', hr, hok⟩ | ⟨e, hr, -⟩ := ok_attempt.mp hbody
    · cases hr
      exact ⟨hselects, d2, hok, hdeselect⟩
    · cases hr
  · rintro ⟨hselects, d1, hbody, rfl⟩
    refine ⟨(), _, s.ok_moduleSelect.mpr ⟨hselects, rfl⟩, ok_bind.mpr ⟨_, _, ok_attempt.mpr (.inl ⟨r, rfl, hbody⟩), ?_⟩⟩
    exact ok_bind.mpr ⟨(), _, s.ok_moduleDeselect.mpr rfl, ok_ofResult.mpr ⟨rfl, rfl⟩⟩

theorem answers_withModule {α : Type} {body : M α} {r : α} :
    Answers (s.withModule body) d r ↔ s.SelectsAt d ∧ Answers body (s.opened d) r := by
  simp only [Answers, ok_withModule, exists_and_left]
  refine and_congr_right fun _ => ?_
  constructor
  · rintro ⟨d', d1, h, -⟩
    exact ⟨d1, h⟩
  · rintro ⟨d1, h⟩
    exact ⟨_, d1, h, rfl⟩

end Selection

end OpxSdi.Media
