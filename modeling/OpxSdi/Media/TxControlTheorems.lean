import OpxSdi.Media.Lemmas.TxControl

/-!
# The transmitter reads back

A control of the transmitter of an SFP that returns `STD_ERR_OK` has set the bit that disables it, and its
status reads back so, iff the driver does not find the module without any option.
-/

namespace OpxSdi.Media

open Lib Device

namespace SfpCage

open Sfp

variable (s : SfpCage)

/-! ## The bit of the transmitter -/

/-- The bits of the pin group or of the register that control the transmitter. -/
def txBits (c : Cage) : Nat → Bool :=
  if s.modTxControlHdl then (c.pins .modTxControl).getLsbD else (control c.slaves).getLsbD

def txBit : Nat := if s.modTxControlHdl then s.modTxControlBitmask else optionalSoftTxDisableStateBitOffset

/-- The bit that disables the transmitter is `!enable`, and the other bits are as they were. -/
structure SetsTx (enable : Bool) (c c' : Cage) : Prop where
  bit_eq : s.txBits c' s.txBit = !enable
  rest_eq : ∀ k, k ≠ s.txBit → s.txBits c' k = s.txBits c k

/-- A module that is controlled by its register can disable its transmitter. -/
def SupportsTx (c : Cage) : Prop :=
  s.modTxControlHdl = false → (s.options c.slaves).getLsbD softTxDisableCtrlBitOffset = true

/-- What a control of the transmitter and a status that is read after it have to do. -/
structure ControlsTx (mailbox : Mailbox) (channel : BitVec 32) (enable : Bool) (d : State) : Prop where
  sets : ∀ d', Ok (s.txControl mailbox channel enable) d () d' → s.SetsTx enable d.hw d'.hw
  reads_back : ∀ d' r, Ok (s.txControl mailbox channel enable) d () d' →
    Answers (s.txControlStatusGet channel) d' r → r = some enable
  control_fails : ¬s.SupportsTx d.hw → ∀ d', ¬Ok (s.txControl mailbox channel enable) d () d'
  status_fails : ¬s.SupportsTx d.hw → ∀ r, ¬Answers (s.txControlStatusGet channel) d r

/-! ## The condition -/

/-- The selection succeeds, and so does the read of the options, after the control by
the PHY or without it. -/
def ReadsOptions (mailbox : Mailbox) (enable : Bool) (d : State) : Prop :=
  s.sel.SelectsAt d ∧
    ((s.sel.opened d).Clear 1 ∨ (s.told mailbox enable (s.sel.opened d)).Clear 1)

/-- The driver does not find a module without any option. -/
def FindsOptions (mailbox : Mailbox) (channel : BitVec 32) (enable : Bool) (d : State) : Prop :=
  channel = channelNum → s.modTxControlHdl = false → s.ReadsOptions mailbox enable d →
    s.options d.hw.slaves ≠ 0

/-! ## Controls that meet it -/

variable {s} {mailbox : Mailbox} {channel : BitVec 32} {enable : Bool} {d d' : State} {r : Option Bool}

theorem ok_txControl_pin (hhdl : s.modTxControlHdl = true)
    (h : Ok (s.txControl mailbox channel enable) d () d') :
    d'.hw.pins = Function.update d.hw.pins .modTxControl
      (Qsfp.stdBit (d.hw.pins .modTxControl) s.modTxControlBitmask (!enable)) := by
  rw [txControl, hhdl] at h
  split at h
  · exact absurd h ok_fail
  · rw [if_neg (by decide)] at h
    exact ok_updatePinGroup h

theorem answers_txControlStatusGet_pin (hhdl : s.modTxControlHdl = true)
    (h : Answers (s.txControlStatusGet channel) d r) :
    r = some (!(d.hw.pins .modTxControl).getLsbD s.modTxControlBitmask) := by
  rw [txControlStatusGet, hhdl] at h
  split at h
  · obtain ⟨d', h⟩ := h
    exact absurd h ok_fail
  · rw [if_neg (by decide), answers_bind_pure] at h
    obtain ⟨value, ⟨d', hread⟩, rfl⟩ := h
    rw [(ok_readPinGroup.mp hread).2.2.1]

theorem ok_txControl_soft (hhdl : s.modTxControlHdl = false) :
    Ok (s.txControl mailbox channel enable) d () d' ↔
    channel = channelNum ∧ s.sel.SelectsAt d ∧ ∃ d2 : State,
      Ok (s.softTxControl enable) (s.told mailbox enable (s.sel.opened d)) () d2 ∧ d' = s.sel.closed d2 := by
  rw [txControl, hhdl, if_pos rfl]
  by_cases hchannel : channel = channelNum
  · rw [if_neg (not_not_intro hchannel), and_iff_right hchannel, s.sel.ok_withModule]
    simp only [ok_bind, ok_serdesControl, exists_eq_left, exists_const]
  · rw [if_pos hchannel]
    exact iff_of_false ok_fail fun h => hchannel h.1

theorem answers_txControlStatusGet_soft (hhdl : s.modTxControlHdl = false) :
    Answers (s.txControlStatusGet channel) d r ↔
      channel = channelNum ∧ s.sel.SelectsAt d ∧ Answers s.softTxControlStatusGet (s.sel.opened d) r := by
  rw [txControlStatusGet, hhdl, if_pos rfl]
  by_cases hchannel : channel = channelNum
  · rw [if_neg (not_not_intro hchannel), and_iff_right hchannel]
    exact s.sel.answers_withModule
  · rw [if_pos hchannel]
    exact iff_of_false (fun ⟨_, h⟩ => ok_fail h) fun h => hchannel h.1

/-- A transmitter with a pin. -/
theorem controlsTx_pin (hhdl : s.modTxControlHdl = true) : s.ControlsTx mailbox channel enable d := by
  have hsupports : s.SupportsTx d.hw := fun h => absurd (hhdl.symm.trans h) (by decide)
  refine ⟨fun d' h => ?_, fun d' r h hr => ?_, fun h => absurd hsupports h, fun h => absurd hsupports h⟩
  · have hbits : s.txBits d'.hw =
        (Qsfp.stdBit (d.hw.pins .modTxControl) s.modTxControlBitmask (!enable)).getLsbD := by
      rw [txBits, hhdl, if_pos rfl, ok_txControl_pin hhdl h, Function.update_self]
    refine ⟨?_, fun k hk => ?_⟩
    · rw [hbits, txBit, hhdl, if_pos rfl, getLsbD_stdBit_self s.modTxControlBitmask.isLt]
    · rw [txBit, hhdl, if_pos rfl] at hk
      rw [hbits, getLsbD_stdBit_of_ne hk, txBits, hhdl, if_pos rfl]
  · rw [answers_txControlStatusGet_pin hhdl hr, ok_txControl_pin hhdl h, Function.update_self,
      getLsbD_stdBit_self s.modTxControlBitmask.isLt, Bool.not_not]

/-- The register is written when the module has some option. -/
theorem ok_txControl_register (hhdl : s.modTxControlHdl = false)
    (hoptions : s.FindsOptions mailbox channel enable d)
    (h : Ok (s.txControl mailbox channel enable) d () d') :
    (s.options d.hw.slaves).getLsbD softTxDisableCtrlBitOffset = true ∧
    s.options d'.hw.slaves = s.options d.hw.slaves ∧
    control d'.hw.slaves = Qsfp.stdBit (control d.hw.slaves) optionalSoftTxDisableStateBitOffset
    (!enable) := by
  obtain ⟨n, slaves, htold, hlower⟩ := s.told_eq mailbox enable (s.sel.opened d)
  obtain ⟨hchannel, hselects, d2, hsoft, rfl⟩ := (ok_txControl_soft hhdl).mp h
  rcases ok_softTxControl.mp hsoft with ⟨hzero, hclear, -⟩ | ⟨hsupported, -, rfl⟩
  · rw [htold, passed_slaves, options_congr hlower] at hzero
    exact absurd hzero (hoptions hchannel hhdl ⟨hselects, .inr hclear⟩)
  · rw [htold, passed_slaves, options_congr hlower] at hsupported
    rw [Selection.closed_slaves, passed_slaves, htold, passed_slaves, options_withControl,
      control_withControl,
      options_congr hlower, control_congr hlower]
    exact ⟨hsupported, rfl, rfl⟩

/-- A transmitter that is controlled by a register of a module with some option. -/
theorem controlsTx_soft (hhdl : s.modTxControlHdl = false)
    (hoptions : s.FindsOptions mailbox channel enable d) : s.ControlsTx mailbox channel enable d := by
  refine ⟨fun d' h => ?_, fun d' r h hr => ?_, fun hno d' h => ?_, fun hno r hr => ?_⟩
  · obtain ⟨-, -, hcontrol⟩ := ok_txControl_register hhdl hoptions h
    refine ⟨?_, fun k hk => ?_⟩
    · rw [txBits, txBit, hhdl, if_neg (by decide), if_neg (by decide), hcontrol,
        getLsbD_stdBit_self (by decide)]
    · rw [txBit, hhdl, if_neg (by decide)] at hk
      rw [txBits, txBits, hhdl, if_neg (by decide), if_neg (by decide), hcontrol, getLsbD_stdBit_of_ne hk]
  · obtain ⟨hsupported, hsame, hcontrol⟩ := ok_txControl_register hhdl hoptions h
    obtain ⟨-, -, hget⟩ := (answers_txControlStatusGet_soft hhdl).mp hr
    rcases answers_softTxControlStatusGet.mp hget with ⟨hzero, -⟩ | ⟨-, -, rfl⟩
    · rw [Selection.opened_slaves, hsame] at hzero
      exact absurd hzero (ne_zero_of_getLsbD hsupported)
    · rw [Selection.opened_slaves, hcontrol, getLsbD_stdBit_self (by decide), Bool.not_not]
  · exact hno fun _ => (ok_txControl_register hhdl hoptions h).1
  · obtain ⟨hchannel, hselects, hget⟩ := (answers_txControlStatusGet_soft hhdl).mp hr
    rcases answers_softTxControlStatusGet.mp hget with ⟨hzero, hclear, -⟩ | ⟨hsupported, -, -⟩
    · exact hoptions hchannel hhdl ⟨hselects, .inl hclear⟩ hzero
    · exact hno fun _ => hsupported

/-- A module that has no option at all is found to be controlled, or its status to be known. -/
theorem not_controlsTx (hhdl : s.modTxControlHdl = false) (hreads : s.ReadsOptions mailbox enable d)
    (hzero : s.options d.hw.slaves = 0) : ¬s.ControlsTx mailbox channelNum enable d := by
  intro h
  have hno : ¬s.SupportsTx d.hw := fun hsupports => ne_zero_of_getLsbD (hsupports hhdl) hzero
  obtain ⟨hselects, hclear | hclear⟩ := hreads
  · exact h.status_fails hno none ((answers_txControlStatusGet_soft hhdl).mpr ⟨rfl, hselects,
      answers_softTxControlStatusGet.mpr (.inl ⟨hzero, hclear, rfl⟩)⟩)
  · obtain ⟨n, slaves, htold, hlower⟩ := s.told_eq mailbox enable (s.sel.opened d)
    have hoptions : s.options (s.told mailbox enable (s.sel.opened d)).hw.slaves = 0 := by
      rw [htold]
      exact (options_congr hlower).trans hzero
    exact h.control_fails hno _ ((ok_txControl_soft hhdl).mpr ⟨rfl, hselects, _,
      ok_softTxControl.mpr (.inl ⟨hoptions, hclear, rfl⟩), rfl⟩)

/-- The transmitter is controlled and reads back exactly when no module without any option is found. -/
theorem controlsTx_iff (s : SfpCage) (mailbox : Mailbox) (channel : BitVec 32) (enable : Bool) (d : State) :
    s.ControlsTx mailbox channel enable d ↔ s.FindsOptions mailbox channel enable d := by
  constructor
  · intro h hchannel hhdl hreads hzero
    subst hchannel
    exact not_controlsTx hhdl hreads hzero h
  · intro h
    cases hhdl : s.modTxControlHdl with
    | true => exact controlsTx_pin hhdl
    | false => exact controlsTx_soft hhdl h

/-- A module without any option is not controlled, and no error is returned. -/
theorem not_controlsTx_noOptions : ¬ControlsTx ⟨⟨0x50, ⟨false, 0, false, 0⟩⟩, false, 0, true, 1, true, 2⟩
    (fun e => e.upper) 0 false (registered fun _ => none) :=
  not_controlsTx rfl ⟨⟨⟨nofun, nofun⟩, fun _ _ => rfl⟩, .inl fun _ _ => rfl⟩ rfl

end SfpCage

end OpxSdi.Media
