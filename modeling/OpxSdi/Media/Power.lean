import OpxSdi.Lib.Bits
import OpxSdi.Media.Adapter

/-!
# Power follows the module

Over the initialisations and the control calls of one cage: the power class that is stored is the one of the
module in the cage, a module whose own class is too high is not powered up, and a call that succeeds has
written all that the mode needs. What breaks this is a module whose power class is not read again, and a
power control register that could not be written.
-/

namespace OpxSdi.Media

open Lib

variable {q : Qsfp} {d d' : State}

inductive PowerCall
  | moduleInit (pres : Bool)
  | moduleControl (ctrlType : Qsfp.ModuleCtrlType) (enable : Bool)

/-- A call and the memory of the module that it finds in the cage. -/
structure PowerInput where
  slaves : BitVec 16 → Eeprom
  call : PowerCall

def PowerCall.exec (q : Qsfp) : PowerCall → M Unit
  | .moduleInit pres => q.moduleInit pres
  | .moduleControl ctrlType enable => q.moduleControl ctrlType enable

def PowerInput.out (q : Qsfp) (d : State) (i : PowerInput) : Except (Halt Errno) Unit × State :=
  (i.call.exec q).out (insert d i.slaves)

instance (q : Qsfp) (d : State) : Decidable (q.FindsAdapter d) := inferInstanceAs (Decidable (_ ∨ _))

/-- The initialisation reads the power class of the module. -/
def Qsfp.ReadsPower (q : Qsfp) (d : State) : Prop :=
  q.Reads d ∧ ¬ q.FindsAdapter d ∧ q.identifier d ≠ 0x18 ∧
    q.sel.SucceedsAt d.fault (q.powerReadTime d) ∧ d.fault (q.powerReadTime d + q.sel.ops) = none

instance (q : Qsfp) (d : State) : Decidable (q.ReadsPower d) :=
  inferInstanceAs (Decidable (_ ∧ _ ∧ _ ∧ _ ∧ _))

/-- A cage with the power that was read from the module in it. -/
structure Powered where
  state : State
  ownPower : Option Int

/-- The cage with other values in place of the stored power class. -/
def State.withPowerInfo (d : State) (info : Int × Bool) : State :=
  d.withPriv { d.hw.priv with maxModulePowerMw := info.1, softwareControlledPowerMode := info.2 }

namespace Powered

def step (q : Qsfp) (t : Powered) (i : PowerInput) : Powered :=
  { state := (i.out q t.state).2
    ownPower := match i.call with
      | .moduleInit pres =>
          if pres = true ∧ q.ReadsPower (insert t.state i.slaves) then
            some (q.freshPowerInfo (insert t.state i.slaves)).1
          else none
      | .moduleControl _ _ => t.ownPower }

/-- What the power decisions promise of one call. -/
structure Decides (q : Qsfp) (t : Powered) (i : PowerInput) : Prop where
  /-- Whatever was stored before, the initialisation stores what it reads from the module. -/
  determined : i.call = .moduleInit true → (i.out q t.state).1 ≠ .error .blocked →
    (i.out q t.state).2.hw.priv.modType ≠ .qsaAdapter → ∀ info,
      (i.out q (State.withPowerInfo t.state info)).2.hw.priv.powerInfo = q.freshPowerInfo (insert t.state i.slaves)
  limited : ∀ p, t.ownPower = some p → q.maxPortPowerMw < p → i.call = .moduleControl .lpMode false →
    (i.out q t.state).1 ≠ .ok ()
  refused : i.call = .moduleControl .lpMode false → q.maxPortPowerMw < t.state.hw.priv.maxModulePowerMw →
    (i.out q t.state).2.hw.pins = t.state.hw.pins ∧ (i.out q t.state).2.hw.slaves = i.slaves
  completed : ∀ enable, i.call = .moduleControl .lpMode enable → (i.out q t.state).1 = .ok () →
    (∀ k < 32, ((i.out q t.state).2.hw.pins .modLpmode).getLsbD k =
      if k = q.modLpmodeBitmask then enable else (t.state.hw.pins .modLpmode).getLsbD k) ∧
    (t.state.hw.priv.softwareControlledPowerMode = true →
      let control := ((i.out q t.state).2.hw.slaves q.i2cAddr).read 93
      control.getLsbD 0 = true ∧ control.getLsbD 1 = enable ∧ control.getLsbD 2 = !enable)

end Powered

/-! ## Conditions -/

namespace Qsfp

def EndsAsAdapter (q : Qsfp) (d : State) : Prop :=
  d.hw.priv.modType = .qsaAdapter ∨ q.Reads d ∧ IsQsaIdentifier (q.identifier d)

/-- The call waits for a lock that an earlier call left behind. -/
def Waits (q : Qsfp) (d : State) : Prop := ¬ q.sel.Free d ∧ d.fault d.time = none

/-- No operation fails that the power control register needs, and software controls the power of the
module. -/
def ControlsPower (q : Qsfp) (d : State) : Prop :=
  let paged := d.time + q.sel.ops
  let t := paged + defaultPageOps (d.hw.slaves q.i2cAddr) d.fault paged
  q.sel.Free d ∧ q.sel.SucceedsAt d.fault d.time ∧ d.fault t = none ∧
    softCtrlOf ((defaultPaged (d.hw.slaves q.i2cAddr) d.fault paged).read 129) = true ∧
    d.fault (t + 1) = none ∧ d.fault (t + 2) = none

end Qsfp

/-- An initialisation reads the power class, and a call for the low power mode of a module that software
controls writes the register. -/
def Powered.Fits (q : Qsfp) (t : Powered) (i : PowerInput) : Prop :=
  let d := insert t.state i.slaves
  match i.call with
  | .moduleInit false => True
  | .moduleInit true => q.EndsAsAdapter d ∨ (q.Reads d ∧ q.identifier d ≠ 0x18) ∨ q.Waits d
  | .moduleControl .lpMode enable =>
      d.hw.priv.modType = .qsaAdapter ∨ d.hw.priv.softwareControlledPowerMode = false ∨
        (q.maxPortPowerMw < d.hw.priv.maxModulePowerMw ∧ enable = false) ∨ q.ControlsPower d ∨ q.Waits d
  | .moduleControl .reset _ => True

/-! ## One pin of a group -/

/-- The step changes no lock and no power class. -/
structure KeepsPower (d d' : State) : Prop where
  held_eq : d'.held = d.held
  powerInfo_eq : d'.hw.priv.powerInfo = d.hw.priv.powerInfo

theorem KeepsPower.refl (d : State) : KeepsPower d d := ⟨rfl, rfl⟩

/-- The bit is written, and the modules are left alone. -/
structure Writes (g : PinGroup) (bit : Fin 32) (enable : Bool) (d d' : State) : Prop where
  pins_eq : d'.hw.pins g = Qsfp.stdBit (d.hw.pins g) bit enable
  slaves_eq : d'.hw.slaves = d.hw.slaves

theorem pinGroupReadLevel_out (g : PinGroup) (d : State) :
    (pinGroupReadLevel g).out d =
      (Device.outcome (resultAt d.fault d.time (d.hw.pins g)), { d with time := d.time + 1 }) := by
  simp only [pinGroupReadLevel, Device.access, Acts.out, ExceptT.run, StateT.run, resultAt]
  cases d.fault d.time <;> rfl

theorem pinGroupWriteLevel_out (g : PinGroup) (value : BitVec 32) (d : State) :
    ∃ r d', (pinGroupWriteLevel g value).out d = (Device.outcome r, d') ∧ KeepsPower d d' ∧
      (r = .ok () → d'.hw.pins g = value ∧ d'.hw.slaves = d.hw.slaves) := by
  simp only [pinGroupWriteLevel, Device.access, Acts.out, ExceptT.run, StateT.run]
  cases d.fault d.time with
  | none => exact ⟨.ok (), _, rfl, ⟨rfl, rfl⟩, fun _ => ⟨Function.update_self g value d.hw.pins, rfl⟩⟩
  | some e => exact ⟨.error e, _, rfl, ⟨rfl, rfl⟩, fun h => by cases h⟩

theorem updatePin_cases (g : PinGroup) (bit : Fin 32) (enable : Bool) (d : State) :
    ∃ r d', (do
        let value ← pinGroupReadLevel g
        pinGroupWriteLevel g (Qsfp.stdBit value bit enable)).out d = (Device.outcome r, d') ∧
      KeepsPower d d' ∧ (r = .ok () → Writes g bit enable d d') := by
  have hread := pinGroupReadLevel_out g d
  unfold resultAt at hread
  cases hfault : d.fault d.time with
  | some e =>
      rw [hfault] at hread
      exact ⟨.error e, _, Acts.out_bind_error hread, ⟨rfl, rfl⟩, fun h => by cases h⟩
  | none =>
      rw [hfault] at hread
      obtain ⟨r, d1, hwrite, hkeeps, hok⟩ := pinGroupWriteLevel_out g
        (Qsfp.stdBit (d.hw.pins g) bit enable) { d with time := d.time + 1 }
      exact ⟨r, d1, (Acts.out_bind_ok hread).trans hwrite, ⟨hkeeps.1, hkeeps.2⟩,
        fun h => ⟨(hok h).1, (hok h).2⟩⟩

/-- The pin group is locked for the call only. A call that succeeds has written the bit. -/
theorem setPin_cases (g : PinGroup) (bit : Fin 32) (enable : Bool) (hfree : d.held g = false) :
    ∃ r d', (Qsfp.setPin g bit enable).out d = (Device.outcome r, d') ∧ KeepsPower d d' ∧
      (g = .modLpmode → r = .ok () → Writes .modLpmode bit enable d d') := by
  unfold Qsfp.setPin
  rcases pinGroupAcquireBus_tries hfree with
    ⟨-, d1, hout1, hdoes1, -, hslaves1⟩ | ⟨ks, rfl, -, e, d1, hout1, hdoes1⟩
  · obtain ⟨r, d2, hout2, hkeeps2, hwrites2⟩ := updatePin_cases g bit enable d1
    obtain ⟨-, d3, hout3, hdoes3, -, hslaves3⟩ := Succeeds.release g d2
    refine ⟨r, d3, ?_, ⟨?_, ?_⟩, ?_⟩
    · rw [Acts.out_bind_ok hout1, Acts.out_bind_ok (Device.out_attempt hout2), Acts.out_bind_ok hout3,
        Device.out_ofResult]
    · rw [hdoes3.held_eq, hkeeps2.held_eq, hdoes1.held_eq]
      change Function.update (Function.update d.held g true) g false = d.held
      rw [Function.update_idem, ← hfree, Function.update_eq_self]
    · exact hdoes3.powerInfo_eq.trans (hkeeps2.powerInfo_eq.trans hdoes1.powerInfo_eq)
    · rintro rfl hok
      have hwrites := hwrites2 hok
      exact ⟨hdoes3.modLpmode_eq.trans (hwrites.pins_eq.trans
        (congrArg (Qsfp.stdBit · bit enable) hdoes1.modLpmode_eq)),
        hslaves3.trans (hwrites.slaves_eq.trans hslaves1)⟩
  · exact ⟨.error e, d1, Acts.out_bind_error hout1, ⟨hdoes1.held_eq, hdoes1.powerInfo_eq⟩,
      fun _ h => by cases h⟩

/-! ## The power control register -/

/-- Software writes the register: the pin is overridden, and the mode is set. -/
theorem getLsbD_powerClassControl (buf : Byte) (state : Bool) :
    (Qsfp.powerClassControl buf state).getLsbD 0 = true ∧
      (Qsfp.powerClassControl buf state).getLsbD 1 = !state ∧
      (Qsfp.powerClassControl buf state).getLsbD 2 = state := by
  unfold Qsfp.powerClassControl
  refine ⟨?_, ?_, ?_⟩
  · rw [getLsbD_stdBit _ _ _ (by decide), if_pos rfl]
  · rw [getLsbD_stdBit _ _ _ (by decide), if_neg (by decide), getLsbD_stdBit _ _ _ (by decide), if_pos rfl]
  · rw [getLsbD_stdBit _ _ _ (by decide), if_neg (by decide), getLsbD_stdBit _ _ _ (by decide),
      if_neg (by decide), getLsbD_stdBit _ _ _ (by decide), if_pos rfl]

theorem Eeprom.read_write (e : Eeprom) {offset offset' : Byte} (h : offset < 128) (h' : offset' < 128)
    (value : Byte) : (e.write offset value).read offset' = if offset' = offset then value else e.read offset' := by
  unfold Eeprom.write Eeprom.read
  rw [if_pos h, if_pos h', if_pos h']
  exact Function.update_apply _ _ _ _

theorem read_defaultPaged (e : Eeprom) (fault : Nat → Option Errno) (t : Nat) :
    (defaultPaged e fault t).read 93 = e.read 93 := by
  unfold defaultPaged
  split
  · exact (e.read_write (by decide) (by decide) 0).trans (if_neg (by decide))
  · rfl

/-- Where software controls the power of the module, the register is written. -/
theorem setPowerClassControl_ok {s : Selection} (state : Bool) (hopen : Open s d d')
    (hfirst : d.fault (d'.time + defaultPageOps (d'.hw.slaves q.i2cAddr) d.fault d'.time) = none)
    (hsoft : Qsfp.softCtrlOf ((defaultPaged (d'.hw.slaves q.i2cAddr) d.fault d'.time).read 129) = true)
    (hread : d.fault (d'.time + defaultPageOps (d'.hw.slaves q.i2cAddr) d.fault d'.time + 1) = none)
    (hwrite : d.fault (d'.time + defaultPageOps (d'.hw.slaves q.i2cAddr) d.fault d'.time + 2) = none) :
    ∃ d'', (q.setPowerClassControl state).out d' = (.ok (), d'') ∧ Open s d d'' ∧
      (d''.hw.slaves q.i2cAddr).read 93 =
        Qsfp.powerClassControl ((d'.hw.slaves q.i2cAddr).read 93) state := by
  obtain ⟨n, hn⟩ := id hopen
  obtain ⟨r1, d1, hout1, htrans1, htime1, hslaves1⟩ := defaultPageSelect_cases q d'
  obtain ⟨m, hm⟩ := id htrans1
  rw [hn.fault_eq] at htime1 hslaves1
  have hfault1 : d1.fault = d.fault := hm.fault_eq.trans hn.fault_eq
  obtain ⟨d2, hout2, hdoes2, htime2, hslaves2⟩ := smbusReadByte_cases q.i2cAddr Qsfp.extIdentifierOffset d1
  obtain ⟨d3, hout3, hdoes3, htime3, hslaves3⟩ := smbusReadByte_cases q.i2cAddr Qsfp.powerClassControlOffset d2
  obtain ⟨d4, hout4, hdoes4, -, hslaves4⟩ := smbusWriteByte_cases q.i2cAddr Qsfp.powerClassControlOffset
    (Qsfp.powerClassControl ((d2.hw.slaves q.i2cAddr).read 93) state) d3
  rw [hfault1, htime1, resultAt, hfirst] at hout2
  rw [hdoes2.fault_eq, hfault1, htime2, htime1, resultAt, hread] at hout3
  rw [hdoes3.fault_eq, hdoes2.fault_eq, hfault1, htime3, htime2, htime1, resultAt, hwrite] at hout4
  rw [hdoes3.fault_eq, hdoes2.fault_eq, hfault1, htime3, htime2, htime1, if_pos hwrite] at hslaves4
  have hmodule : d1.hw.slaves q.i2cAddr = defaultPaged (d'.hw.slaves q.i2cAddr) d.fault d'.time := by
    rw [hslaves1, Function.update_self]
  refine ⟨d4, ?_, (((hopen.trans htrans1).trans (does_transaction hdoes2)).trans
    (does_transaction hdoes3)).trans (does_transaction hdoes4), ?_⟩
  · have hsupported : q.isSoftwareControlledPowerModeSupported.out d' = (.ok true, d2) := by
      rw [Qsfp.isSoftwareControlledPowerModeSupported, Acts.out_bind_ok (Device.out_attempt hout1),
        Acts.out_bind_ok hout2]
      rw [hmodule]
      exact congrArg (fun b => (Except.ok b, d2)) hsoft
    rw [Qsfp.setPowerClassControl, Acts.out_bind_ok hsupported, if_pos rfl, Acts.out_bind_ok hout3]
    exact hout4
  · rw [hslaves4, Function.update_self]
    refine ((d3.hw.slaves q.i2cAddr).read_write (by decide) (by decide) _).trans ((if_pos rfl).trans ?_)
    rw [hslaves2, hmodule, read_defaultPaged]

theorem mediaForcePowerModeSet_ok (state : Bool) (hfree : d.held = noneHeld)
    (hqsa : d.hw.priv.modType ≠ .qsaAdapter) (h : q.ControlsPower d) :
    ∃ d', Closes (q.mediaForcePowerModeSet state) d (.ok ()) d' ∧
      (d'.hw.slaves q.i2cAddr).read 93 = Qsfp.powerClassControl ((d.hw.slaves q.i2cAddr).read 93) state := by
  obtain ⟨-, hok, hfirst, hsoft, hread, hwrite⟩ := h
  rcases select_cases (s := q.sel) hfree with ⟨-, d1, hout1, hopen1, htime1, hslaves1⟩ | ⟨hfail, -⟩
  · obtain ⟨d2, hout2, hopen2, hcontrol⟩ := setPowerClassControl_ok (q := q) state hopen1
      (by rw [htime1, hslaves1]; exact hfirst) (by rw [htime1, hslaves1]; exact hsoft)
      (by rw [htime1, hslaves1]; exact hread) (by rw [htime1, hslaves1]; exact hwrite)
    obtain ⟨d3, hout3, hdoes3, -, hslaves3⟩ := hopen2.deselect
    refine ⟨d3, ⟨?_, hdoes3⟩, by rw [hslaves3, hcontrol, hslaves1]⟩
    rw [Qsfp.mediaForcePowerModeSet, Acts.out_bind_ok (getPriv_out d), if_neg hqsa, Acts.out_bind_ok hout1,
      Acts.out_bind_ok (Device.out_attempt (r := .ok ()) hout2), Acts.out_bind_ok hout3]
    rfl
  · exact absurd hok hfail

/-! ## Module control -/

theorem between_control_free (h : Between q.sel d) :
    d.held .modLpmode = false ∧ d.held .modReset = false := by
  rcases h with hfree | ⟨-, hheld⟩
  · rw [hfree]
    exact ⟨rfl, rfl⟩
  · rw [hheld, q.sel.replay_opening, q.sel.replay_opening]
    exact ⟨rfl, rfl⟩

/-- Between calls, the change of the power mode waits for a lock, or it leaves the locks, the stored power
class and the pins of the low power mode as they are. -/
theorem mediaForcePowerModeSet_cases (state : Bool) (h : Between q.sel d) :
    (q.Waits d ∧ (q.mediaForcePowerModeSet state).out d = (.error .blocked, d)) ∨
      ∃ r d', (q.mediaForcePowerModeSet state).out d = (Device.outcome r, d') ∧ KeepsPower d d' ∧
        d'.hw.pins .modLpmode = d.hw.pins .modLpmode ∧
        (d.hw.priv.modType ≠ .qsaAdapter → ¬ q.Waits d) := by
  by_cases hfree : d.held = noneHeld
  · obtain ⟨r, d', hcloses⟩ := mediaForcePowerModeSet_closes (q := q) state hfree
    have hheld := hcloses.held_eq hfree
    obtain ⟨hout, es, hdoes, -⟩ := hcloses
    exact .inr ⟨r, d', hout, ⟨hheld.trans hfree.symm, hdoes.powerInfo_eq⟩, hdoes.modLpmode_eq,
      fun _ hwaits => hwaits.1 ((free_iff h).mpr hfree)⟩
  · obtain ⟨hlock, hstuck⟩ := id h |>.resolve_left hfree
    by_cases hqsa : d.hw.priv.modType = .qsaAdapter
    · refine .inr ⟨.error .enotsup, d, ?_, KeepsPower.refl d, rfl, absurd hqsa⟩
      rw [Qsfp.mediaForcePowerModeSet, Acts.out_bind_ok (getPriv_out d), if_pos hqsa]
      rfl
    · rcases moduleSelect_stuck hlock hstuck with ⟨hnone, hout⟩ | ⟨hsome, e, d', hout, hdoes⟩
      · refine .inl ⟨⟨fun hsel => hfree ((free_iff h).mp hsel), hnone⟩, ?_⟩
        rw [Qsfp.mediaForcePowerModeSet, Acts.out_bind_ok (getPriv_out d), if_neg hqsa,
          Acts.out_bind_error hout]
      · refine .inr ⟨.error e, d', ?_, ⟨hdoes.held_eq, hdoes.powerInfo_eq⟩, hdoes.modLpmode_eq,
          fun _ hwaits => hsome hwaits.2⟩
        rw [Qsfp.mediaForcePowerModeSet, Acts.out_bind_ok (getPriv_out d), if_neg hqsa]
        exact Acts.out_bind_error hout

theorem moduleControl_adapter {ctrlType : Qsfp.ModuleCtrlType} {enable : Bool}
    (hqsa : d.hw.priv.modType = .qsaAdapter) :
    (q.moduleControl ctrlType enable).out d = (Device.outcome (.error .eopnotsupp), d) := by
  rw [Qsfp.moduleControl, Acts.out_bind_ok (getPriv_out d), if_pos hqsa]
  rfl

theorem moduleControl_refused (hpower : q.maxPortPowerMw < d.hw.priv.maxModulePowerMw) :
    (q.moduleControl .lpMode false).out d = (Device.outcome (.error .eopnotsupp), d) := by
  by_cases hqsa : d.hw.priv.modType = .qsaAdapter
  · exact moduleControl_adapter hqsa
  · rw [Qsfp.moduleControl, Acts.out_bind_ok (getPriv_out d), if_neg hqsa]
    dsimp only
    rw [if_pos ⟨hpower, rfl⟩]
    rfl

/-- The low power mode is set by the pin alone, or by the register and then by the pin. -/
theorem moduleControl_lpMode {enable : Bool} (hbetween : Between q.sel d)
    (hqsa : d.hw.priv.modType ≠ .qsaAdapter)
    (hpower : ¬ (q.maxPortPowerMw < d.hw.priv.maxModulePowerMw ∧ enable = false)) :
    (q.Waits d ∧ (q.moduleControl .lpMode enable).out d = (.error .blocked, d)) ∨
      ∃ d1 r d', (q.moduleControl .lpMode enable).out d = (Device.outcome r, d') ∧ KeepsPower d d' ∧
        (if d.hw.priv.softwareControlledPowerMode = true then
          ∃ rc, (q.mediaForcePowerModeSet (!enable)).out d = (Device.outcome rc, d1) else d1 = d) ∧
        (r = .ok () → d'.hw.slaves = d1.hw.slaves ∧
          d'.hw.pins .modLpmode = Qsfp.stdBit (d.hw.pins .modLpmode) q.modLpmodeBitmask enable) := by
  have hlp := (between_control_free hbetween).1
  rw [Qsfp.moduleControl, Acts.out_bind_ok (getPriv_out d), if_neg hqsa]
  dsimp only
  rw [if_neg hpower]
  cases hsoft : d.hw.priv.softwareControlledPowerMode with
  | false =>
      obtain ⟨r, d', hout, hkeeps, hwrites⟩ := setPin_cases .modLpmode q.modLpmodeBitmask enable hlp
      exact .inr ⟨d, r, d', hout, hkeeps, rfl, fun hok => ⟨(hwrites rfl hok).slaves_eq, (hwrites rfl hok).pins_eq⟩⟩
  | true =>
      rcases mediaForcePowerModeSet_cases (!enable) hbetween with ⟨hwaits, hout⟩ | ⟨rc, d1, hout, hkeeps, hpins, -⟩
      · refine .inl ⟨hwaits, ?_⟩
        rw [if_pos rfl]
        exact Acts.out_bind_error (Device.out_attempt_blocked hout)
      · obtain ⟨r, d', hout', hkeeps', hwrites⟩ := setPin_cases .modLpmode q.modLpmodeBitmask enable
          ((congrFun hkeeps.held_eq _).trans hlp)
        refine .inr ⟨d1, r, d', ?_, ⟨hkeeps'.held_eq.trans hkeeps.held_eq,
          hkeeps'.powerInfo_eq.trans hkeeps.powerInfo_eq⟩, ⟨rc, hout⟩, fun hok =>
            ⟨(hwrites rfl hok).slaves_eq, (hwrites rfl hok).pins_eq.trans ?_⟩⟩
        · rw [if_pos rfl, Acts.out_bind_ok (Device.out_attempt hout)]
          exact hout'
        · rw [hpins]

/-! ## What one call does -/

theorem moduleInit_adapter_of_modType (hbetween : Between q.sel d) (hqsa : d.hw.priv.modType = .qsaAdapter) :
    ((q.moduleInit true).out d).2.hw.priv.modType = .qsaAdapter := by
  by_cases hfree : d.held = noneHeld
  · obtain ⟨r, d', hout, hcases⟩ := moduleInit_true (q := q) hfree
    rw [hout]
    rcases hcases with ⟨-, hkeeps, -⟩ | ⟨-, -, halloc, -⟩ | ⟨-, hadapter, -⟩ | ⟨-, hadapter, -⟩
    · exact hkeeps.modType_eq.trans hqsa
    · exact halloc.modType_eq
    · exact absurd (.inl hqsa) hadapter
    · exact absurd (.inl hqsa) hadapter
  · obtain ⟨r, d', hout, hdoes, -⟩ := moduleInit_stuck hbetween hfree
    rw [hout]
    exact hdoes.modType_eq.trans hqsa

/-- With the identifier of a module that is no adapter and no QSFP28-DD module, the power class is read. -/
theorem moduleInit_fresh (hfree : d.held = noneHeld) (hid : q.Identifies d) (hadapter : ¬ q.FindsAdapter d)
    (hdd : q.identifier d ≠ 0x18) :
    ((q.moduleInit true).out d).2.hw.priv.powerInfo = q.freshPowerInfo d := by
  obtain ⟨r, d', hout, hcases⟩ := moduleInit_true (q := q) hfree
  rw [hout]
  rcases hcases with ⟨hnot, -⟩ | ⟨-, hfinds, -⟩ | ⟨-, -, hident, -⟩ | ⟨-, -, -, -, hinfo, -⟩
  · exact absurd hid hnot
  · exact absurd hfinds hadapter
  · exact absurd hident hdd
  · exact hinfo

theorem moduleInit_determined (hbetween : Between q.sel d)
    (hc : q.EndsAsAdapter d ∨ (q.Reads d ∧ q.identifier d ≠ 0x18) ∨ q.Waits d)
    (hreturns : ((q.moduleInit true).out d).1 ≠ .error .blocked)
    (hmod : ((q.moduleInit true).out d).2.hw.priv.modType ≠ .qsaAdapter) (info : Int × Bool) :
    ((q.moduleInit true).out (d.withPowerInfo info)).2.hw.priv.powerInfo = q.freshPowerInfo d := by
  have hfinds : q.Reads d → ¬ q.FindsAdapter d := by
    rintro ⟨hsel, hid⟩ hadapter
    obtain ⟨r, d', hout, hcases⟩ := moduleInit_true (q := q) ((free_iff hbetween).mp hsel)
    rw [hout] at hmod
    rcases hcases with ⟨hnot, -⟩ | ⟨-, -, halloc, -⟩ | ⟨-, hnot, -⟩ | ⟨-, hnot, -⟩
    · exact hnot hid
    · exact hmod halloc.modType_eq
    · exact hnot hadapter
    · exact hnot hadapter
  rcases hc with (hqsa | ⟨hreads, hident⟩) | ⟨hreads, hdd⟩ | ⟨hsel, hnone⟩
  · exact absurd (moduleInit_adapter_of_modType hbetween hqsa) hmod
  · exact absurd (.inr hident) (hfinds hreads)
  · exact moduleInit_fresh (d := d.withPowerInfo info) ((free_iff hbetween).mp hreads.1) hreads.2
      (hfinds hreads) hdd
  · obtain ⟨r, d', hout, -, hblocked⟩ := moduleInit_stuck hbetween fun hfree => hsel ((free_iff hbetween).mpr hfree)
    rw [hout, hblocked hnone] at hreturns
    exact absurd rfl hreturns

/-- A call for the low power mode that succeeds has written the pin and, where software controls the power,
the register. -/
theorem moduleControl_completed {enable : Bool} (hbetween : Between q.sel d)
    (hc : d.hw.priv.modType = .qsaAdapter ∨ d.hw.priv.softwareControlledPowerMode = false ∨
      (q.maxPortPowerMw < d.hw.priv.maxModulePowerMw ∧ enable = false) ∨ q.ControlsPower d ∨ q.Waits d)
    (hok : ((q.moduleControl .lpMode enable).out d).1 = .ok ()) :
    ((q.moduleControl .lpMode enable).out d).2.hw.pins .modLpmode =
        Qsfp.stdBit (d.hw.pins .modLpmode) q.modLpmodeBitmask enable ∧
      (d.hw.priv.softwareControlledPowerMode = true →
        (((q.moduleControl .lpMode enable).out d).2.hw.slaves q.i2cAddr).read 93 =
          Qsfp.powerClassControl ((d.hw.slaves q.i2cAddr).read 93) (!enable)) := by
  by_cases hqsa : d.hw.priv.modType = .qsaAdapter
  · rw [moduleControl_adapter hqsa] at hok
    cases hok
  by_cases hpower : q.maxPortPowerMw < d.hw.priv.maxModulePowerMw ∧ enable = false
  · obtain ⟨hlt, rfl⟩ := hpower
    rw [moduleControl_refused hlt] at hok
    cases hok
  rcases moduleControl_lpMode hbetween hqsa hpower with
    ⟨-, hout⟩ | ⟨d1, r, d', hout, -, hforce, hwrites⟩
  · rw [hout] at hok
    cases hok
  rw [hout] at hok ⊢
  have hr : r = .ok () := by
    cases r with
    | ok a => rfl
    | error e => cases hok
  obtain ⟨hslaves, hpins⟩ := hwrites hr
  refine ⟨hpins, fun hsoft => ?_⟩
  rw [if_pos hsoft] at hforce
  obtain ⟨rc, hforce⟩ := hforce
  rcases hc with hc | hc | hc | hc | hwaits
  · exact absurd hc hqsa
  · rw [hsoft] at hc
    cases hc
  · exact absurd hc hpower
  · obtain ⟨d2, ⟨hout2, -⟩, hcontrol⟩ := mediaForcePowerModeSet_ok (!enable)
      ((free_iff hbetween).mp hc.1) hqsa hc
    have hsame : d2 = d1 := congrArg Prod.snd (hout2.symm.trans hforce)
    change (d'.hw.slaves q.i2cAddr).read 93 = _
    rw [hslaves, ← hsame, hcontrol]
  · rcases mediaForcePowerModeSet_cases (!enable) hbetween with ⟨-, hout2⟩ | ⟨-, -, -, -, -, hnot⟩
    · rw [hout2] at hforce
      cases rc <;> cases hforce
    · exact absurd hwaits (hnot hqsa)

theorem moduleControl_keeps (hbetween : Between q.sel d) (ctrlType : Qsfp.ModuleCtrlType) (enable : Bool) :
    KeepsPower d ((q.moduleControl ctrlType enable).out d).2 := by
  by_cases hqsa : d.hw.priv.modType = .qsaAdapter
  · rw [moduleControl_adapter hqsa]
    exact KeepsPower.refl d
  cases ctrlType with
  | lpMode =>
      by_cases hpower : q.maxPortPowerMw < d.hw.priv.maxModulePowerMw ∧ enable = false
      · obtain ⟨hlt, rfl⟩ := hpower
        rw [moduleControl_refused hlt]
        exact KeepsPower.refl d
      · rcases moduleControl_lpMode hbetween hqsa hpower with ⟨-, hout⟩ | ⟨-, r, d', hout, hkeeps, -⟩
        · rw [hout]
          exact KeepsPower.refl d
        · rw [hout]
          exact hkeeps
  | reset =>
      obtain ⟨r, d', hout, hkeeps, -⟩ := setPin_cases .modReset q.modResetBitmask enable
        (between_control_free hbetween).2
      rw [Qsfp.moduleControl, Acts.out_bind_ok (getPriv_out d), if_neg hqsa]
      dsimp only
      rw [hout]
      exact hkeeps

/-! ## Runs -/

/-- The power that was read from the module in the cage is the one that is stored. -/
structure Powered.Knows (q : Qsfp) (t : Powered) : Prop where
  between : Between q.sel t.state
  own_eq : ∀ p, t.ownPower = some p → t.state.hw.priv.maxModulePowerMw = p

theorem Powered.Knows.step {t : Powered} (h : t.Knows q) (i : PowerInput) : (t.step q i).Knows q := by
  obtain ⟨slaves, call⟩ := i
  have hbetween : Between q.sel (insert t.state slaves) := h.between
  cases call with
  | moduleInit pres =>
      refine ⟨moduleInit_between hbetween pres, fun p hp => ?_⟩
      change (if pres = true ∧ q.ReadsPower (insert t.state slaves) then _ else none) = some p at hp
      split at hp
      · rename_i hreads
        obtain ⟨rfl, ⟨hsel, hid⟩, hadapter, hdd, -⟩ := hreads
        have hinfo := moduleInit_fresh ((free_iff hbetween).mp hsel) hid hadapter hdd
        exact (congrArg Prod.fst hinfo).trans (Option.some.inj hp)
      · cases hp
  | moduleControl ctrlType enable =>
      have hkeeps := moduleControl_keeps hbetween ctrlType enable
      refine ⟨?_, fun p hp => (congrArg Prod.fst hkeeps.powerInfo_eq).trans (h.own_eq p hp)⟩
      exact hbetween.imp (hkeeps.held_eq.trans ·) (And.imp_right (hkeeps.held_eq.trans ·))

theorem Powered.Knows.decides {t : Powered} (h : t.Knows q) {i : PowerInput} (hc : t.Fits q i) :
    t.Decides q i := by
  obtain ⟨slaves, call⟩ := i
  have hbetween : Between q.sel (insert t.state slaves) := h.between
  refine ⟨?_, ?_, ?_, ?_⟩
  · rintro hcall hreturns hmod info
    obtain rfl : call = .moduleInit true := hcall
    exact moduleInit_determined hbetween hc hreturns hmod info
  · rintro p hp hlt hcall hok
    obtain rfl : call = .moduleControl .lpMode false := hcall
    have hpower : q.maxPortPowerMw < (insert t.state slaves).hw.priv.maxModulePowerMw := by
      rw [← h.own_eq p hp] at hlt
      exact hlt
    have hout := (congrArg Prod.fst (moduleControl_refused hpower)).symm.trans hok
    cases hout
  · rintro hcall hlt
    obtain rfl : call = .moduleControl .lpMode false := hcall
    have hout := moduleControl_refused (q := q) (d := insert t.state slaves) hlt
    exact ⟨congrArg (fun x => x.2.hw.pins) hout, congrArg (fun x => x.2.hw.slaves) hout⟩
  · rintro enable hcall hok
    obtain rfl : call = .moduleControl .lpMode enable := hcall
    obtain ⟨hpins, hcontrol⟩ := moduleControl_completed hbetween hc hok
    refine ⟨fun k hk => ?_, fun hsoft => ?_⟩
    · exact (congrArg (·.getLsbD k) hpins).trans (getLsbD_stdBit _ _ _ hk)
    · obtain ⟨h0, h1, h2⟩ := getLsbD_powerClassControl (((insert t.state slaves).hw.slaves q.i2cAddr).read 93)
        (!enable)
      have hread := hcontrol hsoft
      exact ⟨(congrArg (·.getLsbD 0) hread).trans h0, (congrArg (·.getLsbD 1) hread).trans (h1.trans
        (Bool.not_not _)), (congrArg (·.getLsbD 2) hread).trans h2⟩

/-- Over every run whose initialisations read the power class and whose calls for the low power mode write
the register, the power decisions follow the module. -/
theorem run_decides (q : Qsfp) (d : State) (hd : Registered d) (is : List PowerInput)
    (hfits : Along (Powered.step q) (Powered.Fits q) ⟨d, none⟩ is) :
    Along (Powered.step q) (Powered.Decides q) ⟨d, none⟩ is := by
  have hknows : Powered.Knows q ⟨d, none⟩ := ⟨.inl hd.held_eq, fun p hp => by cases hp⟩
  exact along_of hknows (fun t i h _ => h.step i) (fun t i h hc => h.decides hc) hfits

/-- A module with one page, an identifier and a power class. -/
def poweredModule (identifier extIdentifier : Byte) : BitVec 16 → Eeprom :=
  fun _ => ⟨Function.update (fun _ => 0) 0 identifier, fun _ => Function.update (fun _ => 0) 129 extIdentifier⟩

/-- A module of 1.5 W is powered up. One of 4.5 W that software controls takes its place: it is put in low power
mode, and the call that would power it up is refused. -/
def swappedModules : List PowerInput :=
  [⟨poweredModule 0x0d 0, .moduleInit true⟩, ⟨poweredModule 0x0d 0, .moduleControl .lpMode false⟩,
    ⟨poweredModule 0x0d 0, .moduleInit false⟩, ⟨poweredModule 0x0d 2, .moduleInit true⟩,
    ⟨poweredModule 0x0d 2, .moduleControl .lpMode true⟩, ⟨poweredModule 0x0d 2, .moduleControl .lpMode false⟩]

theorem run_decides_plain :
    Along (Powered.step muxedCage) (Powered.Decides muxedCage) ⟨registered fun _ => none, none⟩ swappedModules := by
  refine run_decides muxedCage _ ⟨rfl, rfl, rfl⟩ _ ⟨.inr (.inl (by decide)), .inr (.inl (by decide)), trivial,
    .inr (.inl (by decide)), .inr (.inr (.inr (.inl ?_))), .inr (.inr (.inl (by decide))), trivial⟩
  exact ⟨by decide, by decide, by decide, by decide, by decide, by decide⟩

/-- A QSFP28-DD module keeps the power class of the module before it. -/
theorem not_run_decides_dd : ¬ Along (Powered.step muxedCage) (Powered.Decides muxedCage)
    ⟨registered fun _ => none, none⟩
    [⟨moduleWith 0x0d, .moduleInit true⟩, ⟨moduleWith 0x0d, .moduleInit false⟩,
      ⟨moduleWith 0x18, .moduleInit true⟩] := by
  rintro ⟨-, -, h, -⟩
  have hreturns : (Except.ok () : Except (Halt Errno) Unit) ≠ .error .blocked := fun h => by cases h
  have h₁ := h.determined rfl hreturns (by decide) (4000, true)
  have h₂ := h.determined rfl hreturns (by decide) (1500, false)
  exact absurd (h₁.trans h₂.symm) (by decide)

end OpxSdi.Media
