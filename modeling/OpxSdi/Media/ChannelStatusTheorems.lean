import OpxSdi.Media.Lemmas.ChannelStatus

/-!
# The status of a channel is known

The status of an SFP channel that is returned with `STD_ERR_OK` is that of all the flags that are asked for,
and no other pin matters, iff no pin hides that the module lacks a flag, and the module is not read in vain.
-/

namespace OpxSdi.Media

open Lib Device

namespace SfpCage

open Sfp

variable (s : SfpCage)

/-! ## Statuses -/

/-- The cages have the same module and the same pins for the flags that are asked for. -/
structure Agrees (s s' : SfpCage) (flags : BitVec 32) : Prop where
  sfp_eq : s'.toSfp = s.toSfp
  hdl_eq : ∀ f : StatusFlag, flags.getLsbD f.bit = true → s'.hdl f = s.hdl f
  bitmask_eq : ∀ f : StatusFlag, flags.getLsbD f.bit = true → s'.bitmask f = s.bitmask f

/-- The flag is asserted, at its pin or in the register of the module. -/
def Asserted (c : Cage) (f : StatusFlag) : Bool :=
  if s.hdl f then (c.pins f.pinGroup).getLsbD (s.bitmask f) else (control c.slaves).getLsbD f.stateBit

/-- What a status that is returned with `STD_ERR_OK` has to be. -/
structure Determines (channel flags : BitVec 32) (d : State) : Prop where
  no_txLoss : ∀ r, Answers (s.channelStatusGet channel flags) d r → flags.getLsbD statusTxLoss = false
  determined : ∀ r, Answers (s.channelStatusGet channel flags) d r →
    ∀ f : StatusFlag, flags.getLsbD f.bit = true →
      s.hdl f = true ∨ (s.options d.hw.slaves).getLsbD f.supportBit = true
  exact : ∀ r, Answers (s.channelStatusGet channel flags) d r →
    ∀ i, r.getLsbD i = true ↔ ∃ f : StatusFlag, f.bit = i ∧ flags.getLsbD f.bit = true ∧
      s.Asserted d.hw f = true
  independent : ∀ s', Agrees s s' flags → ∀ r,
    Answers (s'.channelStatusGet channel flags) d r ↔ Answers (s.channelStatusGet channel flags) d r

/-! ## The condition -/

def allFlags : List StatusFlag := [.txDisable, .txFault, .rxLoss]

/-- The pins that are read. -/
def pinsOf (flags : BitVec 32) : List PinGroup := s.pinGroups flags allFlags

/-- The module can be selected, and its options and states can be read. -/
def ReadsStates (d : State) : Prop := s.sel.SelectsAt d ∧ (s.sel.opened d).Clear (s.stateReads d.hw.slaves)

def statesRead (d : State) : State :=
  s.sel.closed ((s.sel.opened d).passed (s.stateReads d.hw.slaves) d.hw.slaves)

/-- Everything that is read can be: the states, if some flag has no pin, and then the pins. -/
def Completes (flags : BitVec 32) (d : State) : Prop :=
  if s.LacksPin then s.ReadsStates d ∧ (s.statesRead d).PinsAt (s.pinsOf flags)
  else d.PinsAt (s.pinsOf flags)

/-- Each flag that the module lacks comes before one with a pin. -/
def Hides (flags : BitVec 32) (bufSup : Byte) : Prop :=
  ∀ f, s.Unsupported flags bufSup f → ∃ g, s.Pinned flags g ∧ f.bit < g.bit

/-- No pin hides that a flag is not supported. If all that is asked for has pins, the module can be read
whenever the pins can. -/
structure Reveals (channel flags : BitVec 32) (d : State) : Prop where
  supported : channel = channelNum → flags.getLsbD statusTxLoss = false → s.Completes flags d →
    s.Hides flags (s.options d.hw.slaves) → ∀ f, ¬s.Unsupported flags (s.options d.hw.slaves) f
  unrelated : channel = channelNum → flags.getLsbD statusTxLoss = false →
    (∀ f : StatusFlag, flags.getLsbD f.bit = true → s.hdl f = true) →
    (∃ f : StatusFlag, flags.getLsbD f.bit = false) → d.PinsAt (s.pinsOf flags) →
      s.ReadsStates d ∧ (s.statesRead d).PinsAt (s.pinsOf flags)

/-! ## Answers -/

variable {s} {channel flags : BitVec 32} {d d' : State} {r : BitVec 32}

theorem mem_allFlags (f : StatusFlag) : f ∈ allFlags := by
  cases f <;> decide

/-- The pins of the flags are not those of the selection. -/
theorem statesRead_pins (d : State) (f : StatusFlag) :
    (s.statesRead d).hw.pins f.pinGroup = d.hw.pins f.pinGroup := by
  cases f <;> rfl

theorem statesRead_held (d : State) (f : StatusFlag) :
    (s.statesRead d).held f.pinGroup = d.held f.pinGroup := by
  obtain ⟨⟨i2cAddr, ⟨mux, muxValue, mod, modValue⟩⟩, _, _, _, _, _, _⟩ := s
  cases mux <;> cases mod <;> cases f <;> rfl

theorem foldl_rc {bufSup bufData : Byte} {pins : PinGroup → BitVec 32} :
    (allFlags.foldl (s.afterFlag flags bufSup bufData pins) (0, .ok ())).2 = .ok () ↔
    s.Hides flags bufSup := by
  have hsorted : allFlags.Pairwise fun f g => f.bit < g.bit := by decide
  rw [afterFlags_rc, foldl_overwrite_eq_ok hsorted]
  simp only [mem_allFlags, forall_true_left, true_and, decide_eq_true_eq, decide_eq_false_iff_not]
  refine forall_congr' fun f => ⟨fun h hno => h (fun hp => ?_) hno, fun h _ hno => h hno⟩
  exact absurd (hp.2.symm.trans hno.2.1) (by decide)

theorem lacksPin_iff : s.LacksPin ↔ ∃ f, s.hdl f = false := by
  constructor
  · rintro (h | h | h)
    · exact ⟨.txDisable, h⟩
    · exact ⟨.rxLoss, h⟩
    · exact ⟨.txFault, h⟩
  · rintro ⟨f, h⟩
    cases f with
    | txDisable => exact .inl h
    | txFault => exact .inr (.inr h)
    | rxLoss => exact .inr (.inl h)

/-- A flag with a pin needs nothing of the module. -/
theorem raised_congr {pins pins' : PinGroup → BitVec 32} {bufSup bufData bufSup' bufData' : Byte}
    {f : StatusFlag}
    (hpins : pins' f.pinGroup = pins f.pinGroup)
    (h : s.hdl f = false → bufSup' = bufSup ∧ bufData' = bufData) :
    s.Raised pins' bufSup' bufData' f = s.Raised pins bufSup bufData f := by
  rw [Raised, Raised]
  cases hhdl : s.hdl f with
  | true => rw [if_pos rfl, if_pos rfl, hpins]
  | false =>
      obtain ⟨rfl, rfl⟩ := h hhdl
      rfl

theorem map_eq_ok_iff {rc : Except Errno Unit} {status : BitVec 32} :
    rc.map (fun _ => status) = .ok r ↔ rc = .ok () ∧ r = status := by
  cases rc with
  | ok u => exact ⟨fun h => ⟨rfl, (Except.ok.inj h).symm⟩, fun h => congrArg Except.ok h.2.symm⟩
  | error e => exact iff_of_false (by rintro ⟨⟩) (by rintro ⟨⟨⟩, -⟩)

theorem eq_iff_getLsbD {status : BitVec 32} {p : Nat → Prop} (h : ∀ i, status.getLsbD i = true ↔ p i) :
    r = status ↔ ∀ i, r.getLsbD i = true ↔ p i := by
  constructor
  · rintro rfl
    exact h
  · intro hr
    refine BitVec.eq_of_getLsbD_eq fun i _ => ?_
    rw [Bool.eq_iff_iff, hr, h]

/-- What the call makes of the flags that it reads. -/
theorem answers_statusOf {bufSup bufData : Byte} : Answers (s.statusOf flags bufSup bufData) d r ↔
    flags.getLsbD statusTxLoss = false ∧ d.PinsAt (s.pinsOf flags) ∧ s.Hides flags bufSup ∧
    ∀ i, r.getLsbD i = true ↔ ∃ f : StatusFlag, f.bit = i ∧ flags.getLsbD f.bit = true ∧
      s.Raised d.hw.pins bufSup bufData f = true := by
  have hend : ∀ (status : BitVec 32) (rc : Except Errno Unit) (d' : State),
      Answers (if flags.getLsbD statusTxLoss then (Device.fail .eopnotsupp : M (BitVec 32))
        else Device.ofResult (rc.map fun _ => status)) d' r ↔
      flags.getLsbD statusTxLoss = false ∧ rc = .ok () ∧ r = status := by
    intro status rc d'
    cases flags.getLsbD statusTxLoss with
    | true => exact iff_of_false answers_fail fun h => absurd h.1 (by decide)
    | false => exact answers_ofResult.trans (map_eq_ok_iff.trans (and_iff_right rfl).symm)
  have hstatus : ∀ i, (allFlags.foldl (s.afterFlag flags bufSup bufData d.hw.pins) (0,
    .ok ())).1.getLsbD i = true ↔
      ∃ f : StatusFlag, f.bit = i ∧ flags.getLsbD f.bit = true ∧
        s.Raised d.hw.pins bufSup bufData f = true := by
    intro i
    rw [getLsbD_afterFlags, or_iff_right (by simp)]
    simp only [mem_allFlags, true_and]
  rw [statusOf, answers_bind, ← eq_iff_getLsbD hstatus, ← @foldl_rc _ _ _ bufData d.hw.pins]
  constructor
  · rintro ⟨⟨status, rc⟩, d', hok, h⟩
    obtain ⟨htxLoss, hrc, rfl⟩ := (hend status rc d').mp h
    obtain ⟨hpins, hst⟩ := answers_flagStatuses.mp ⟨d', hok⟩
    obtain ⟨rfl, rfl⟩ := Prod.mk.inj hst
    exact ⟨htxLoss, hpins, hrc, rfl⟩
  · rintro ⟨htxLoss, hpins, hrc, rfl⟩
    obtain ⟨d', hok⟩ := answers_flagStatuses.mpr ⟨hpins, rfl⟩
    exact ⟨_, d', hok, (hend _ _ d').mpr ⟨htxLoss, hrc, rfl⟩⟩

/-- The flag is raised, as the driver reads it. -/
def Shown (s : SfpCage) (c : Cage) (f : StatusFlag) : Bool :=
  s.Raised c.pins (s.states c.slaves).1 (s.states c.slaves).2 f

theorem answers_channelStatusGet : Answers (s.channelStatusGet channel flags) d r ↔
    channel = channelNum ∧ flags.getLsbD statusTxLoss = false ∧ s.Completes flags d ∧
    s.Hides flags (s.options d.hw.slaves) ∧
    ∀ i, r.getLsbD i = true ↔ ∃ f : StatusFlag, f.bit = i ∧ flags.getLsbD f.bit = true ∧
    s.Shown d.hw f = true := by
  rw [channelStatusGet]
  by_cases hchannel : channel = channelNum
  · rw [if_neg (not_not_intro hchannel), and_iff_right hchannel, Completes, readMissing]
    by_cases hlacks : s.LacksPin
    · rw [if_pos hlacks, if_pos hlacks, answers_bind]
      have hshown : ∀ f, s.Raised (s.statesRead d).hw.pins (s.states d.hw.slaves).1
        (s.states d.hw.slaves).2 f =
          s.Shown d.hw f := fun f => raised_congr (statesRead_pins d f) fun _ => ⟨rfl, rfl⟩
      constructor
      · rintro ⟨bufs, d1, hread, h⟩
        obtain ⟨hselects, d2, hstates, rfl⟩ := s.sel.ok_withModule.mp hread
        obtain ⟨hclear, rfl, rfl⟩ := ok_readStates.mp hstates
        change Answers (s.statusOf flags (s.states d.hw.slaves).1 (s.states d.hw.slaves).2)
          (s.statesRead d) r at h
        obtain ⟨htxLoss, hpins, hhides, hr⟩ := answers_statusOf.mp h
        simp only [hshown] at hr
        exact ⟨htxLoss, ⟨⟨hselects, hclear⟩, hpins⟩, hhides, hr⟩
      · rintro ⟨htxLoss, ⟨⟨hselects, hclear⟩, hpins⟩, hhides, hr⟩
        simp only [← hshown] at hr
        exact ⟨_, s.statesRead d, s.sel.ok_withModule.mpr ⟨hselects, _,
          ok_readStates.mpr ⟨hclear, rfl, rfl⟩, rfl⟩,
          answers_statusOf.mpr ⟨htxLoss, hpins, hhides, hr⟩⟩
    · rw [if_neg hlacks, if_neg hlacks, pure_bind, answers_statusOf]
      have hpinned : ∀ f, s.hdl f = true := fun f => Bool.of_not_eq_false fun h =>
        hlacks (lacksPin_iff.mpr ⟨f, h⟩)
      have hhides : ∀ bufSup, s.Hides flags bufSup := fun bufSup f hno =>
        absurd ((hpinned f).symm.trans hno.2.1) (by decide)
      have hshown : ∀ f, s.Raised d.hw.pins 0 0 f = s.Shown d.hw f := fun f =>
        raised_congr rfl fun h => absurd ((hpinned f).symm.trans h) (by decide)
      simp only [hhides, hshown, true_and]
  · rw [if_pos hchannel]
    exact iff_of_false answers_fail fun h => hchannel h.1

/-- When everything can be read and no flag is lacking at the end, the call returns. -/
theorem exists_answer (htxLoss : flags.getLsbD statusTxLoss = false) (hcompletes : s.Completes flags d)
    (hhides : s.Hides flags (s.options d.hw.slaves)) :
    ∃ r, Answers (s.channelStatusGet channelNum flags) d r := by
  let st := allFlags.foldl
    (s.afterFlag flags (s.states d.hw.slaves).1 (s.states d.hw.slaves).2 d.hw.pins) (0, .ok ())
  refine ⟨st.1, answers_channelStatusGet.mpr ⟨rfl, htxLoss, hcompletes, hhides, fun i => ?_⟩⟩
  rw [getLsbD_afterFlags, or_iff_right (by simp)]
  simp only [mem_allFlags, true_and]
  rfl

/-! ## Cages that agree -/

namespace Agrees

variable {s' : SfpCage} (h : Agrees s s' flags)

include h

theorem pinned_iff (f : StatusFlag) : s'.Pinned flags f ↔ s.Pinned flags f :=
  and_congr_right fun hasked => by rw [h.hdl_eq f hasked]

theorem unsupported_iff (bufSup : Byte) (f : StatusFlag) :
    s'.Unsupported flags bufSup f ↔ s.Unsupported flags bufSup f :=
  and_congr_right fun hasked => by rw [h.hdl_eq f hasked]

theorem options_eq (slaves : BitVec 16 → Eeprom) : s'.options slaves = s.options slaves := by
  rw [options, options, h.sfp_eq]

theorem pinsOf_eq : s'.pinsOf flags = s.pinsOf flags :=
  congrArg (List.map StatusFlag.pinGroup) (List.filter_congr fun f _ => decide_eq_decide.mpr (h.pinned_iff f))

theorem shown_eq (c : Cage) {f : StatusFlag} (hasked : flags.getLsbD f.bit = true) :
    s'.Shown c f = s.Shown c f := by
  rw [Shown, Shown, Raised, Raised, states, states, h.options_eq, h.hdl_eq f hasked, h.bitmask_eq f hasked]

theorem readsStates_iff : s'.ReadsStates d ↔ s.ReadsStates d := by
  rw [ReadsStates, ReadsStates, stateReads, stateReads, h.options_eq, h.sfp_eq]

theorem statesRead_eq : s'.statesRead d = s.statesRead d := by
  rw [statesRead, statesRead, stateReads, stateReads, h.options_eq, h.sfp_eq]

/-- The answers are the same if what is read can be read for both or for none. -/
theorem answers_iff (hcompletes : s'.Completes flags d ↔ s.Completes flags d) :
    Answers (s'.channelStatusGet channel flags) d r ↔ Answers (s.channelStatusGet channel flags) d r := by
  simp only [answers_channelStatusGet, hcompletes, h.options_eq, Hides, h.unsupported_iff, h.pinned_iff]
  refine and_congr_right fun _ => and_congr_right fun _ => and_congr_right fun _ =>
    and_congr_right fun _ => ?_
  refine forall_congr' fun i => iff_congr Iff.rfl (exists_congr fun f => and_congr_right fun _ => ?_)
  exact and_congr_right fun hasked => by rw [h.shown_eq _ hasked]

end Agrees

/-- The cage with other pins. -/
def withPins (s : SfpCage) (pins : StatusFlag → Bool) : SfpCage :=
  { s with
    modTxControlHdl := pins .txDisable
    modSfpTxFaultHdl := pins .txFault
    modSfpRxLosHdl := pins .rxLoss }

theorem withPins_hdl (pins : StatusFlag → Bool) (f : StatusFlag) : (s.withPins pins).hdl f = pins f := by
  cases f <;> rfl

theorem agrees_withPins {pins : StatusFlag → Bool} (h : ∀ f, flags.getLsbD f.bit = true → pins f = s.hdl f) :
    Agrees s (s.withPins pins) flags :=
  ⟨rfl, fun f hasked => (withPins_hdl pins f).trans (h f hasked), fun f _ => by cases f <;> rfl⟩

/-! ## When the module matters -/

/-- Pins that can be read after the module can be read without it. -/
theorem pinsAt_of_statesRead (hreads : s.ReadsStates d) (hpins : (s.statesRead d).PinsAt (s.pinsOf flags)) :
    d.PinsAt (s.pinsOf flags) := by
  obtain ⟨hclear, hheld⟩ := hpins
  constructor
  · have hopened : (s.sel.opened d).Clear (s.stateReads d.hw.slaves + 2 * (s.pinsOf flags).length) :=
      (@clear_add_passed _ _ _ d.hw.slaves).mpr ⟨hreads.2, hclear⟩
    have hall : d.Clear (s.sel.ops + (s.stateReads d.hw.slaves + 2 * (s.pinsOf flags).length)) :=
      (@clear_add _ _ _ d _ _ d.hw).mpr ⟨hreads.1.2, hopened⟩
    exact hall.mono (by omega)
  · intro g hg
    obtain ⟨f, -, rfl⟩ := List.mem_map.mp hg
    rw [← s.statesRead_held]
    exact hheld _ hg

/-- When all that is asked for has pins, and the module can be read whenever they can, they are all that
matters. -/
theorem completes_iff_pinsAt (hpinned : ∀ f : StatusFlag, flags.getLsbD f.bit = true → s.hdl f = true)
    (hunrelated : (∃ f : StatusFlag, flags.getLsbD f.bit = false) → d.PinsAt (s.pinsOf flags) →
      s.ReadsStates d ∧ (s.statesRead d).PinsAt (s.pinsOf flags)) :
    s.Completes flags d ↔ d.PinsAt (s.pinsOf flags) := by
  rw [Completes]
  split
  · rename_i hlacks
    obtain ⟨f, hf⟩ := lacksPin_iff.mp hlacks
    have hunasked : flags.getLsbD f.bit = false :=
      Bool.of_not_eq_true fun hasked => absurd ((hpinned f hasked).symm.trans hf) (by decide)
    exact ⟨fun h => pinsAt_of_statesRead h.1 h.2, hunrelated ⟨f, hunasked⟩⟩
  · exact Iff.rfl

/-- A status that does not depend on the other pins is read with the module when one of them is missing. -/
theorem unrelated_of_independent (hindependent : ∀ s', Agrees s s' flags → ∀ r,
      Answers (s'.channelStatusGet channelNum flags) d r ↔ Answers (s.channelStatusGet channelNum flags) d r)
    (htxLoss : flags.getLsbD statusTxLoss = false)
    (hpinned : ∀ f : StatusFlag, flags.getLsbD f.bit = true → s.hdl f = true)
    (hunasked : ∃ f : StatusFlag, flags.getLsbD f.bit = false) (hpins : d.PinsAt (s.pinsOf flags)) :
    s.ReadsStates d ∧ (s.statesRead d).PinsAt (s.pinsOf flags) := by
  -- with all the pins, the status is that of the pins
  have hall : Agrees s (s.withPins fun _ => true) flags :=
    agrees_withPins fun f hasked => (hpinned f hasked).symm
  have hhides : (s.withPins fun _ => true).Hides flags ((s.withPins fun _ => true).options d.hw.slaves) :=
    fun f hno => absurd ((withPins_hdl _ f).symm.trans hno.2.1) (by decide)
  have hcompletes : (s.withPins fun _ => true).Completes flags d := by
    have hlacks : ¬(s.withPins fun _ => true).LacksPin := by
      rw [lacksPin_iff]
      rintro ⟨f, hf⟩
      exact absurd ((withPins_hdl _ f).symm.trans hf) (by decide)
    rw [Completes, if_neg hlacks, hall.pinsOf_eq]
    exact hpins
  obtain ⟨r, hr⟩ := exists_answer htxLoss hcompletes hhides
  -- without the pin that is not asked for, it is the same status, and the module is read
  have hasked : Agrees s (s.withPins fun f => flags.getLsbD f.bit) flags :=
    agrees_withPins fun f hasked => hasked.trans (hpinned f hasked).symm
  have hanswers : Answers ((s.withPins fun f => flags.getLsbD f.bit).channelStatusGet channelNum flags) d r :=
    (hindependent _ hasked r).mpr ((hindependent _ hall r).mp hr)
  have hread : (s.withPins fun f => flags.getLsbD f.bit).Completes flags d :=
    (answers_channelStatusGet.mp hanswers).2.2.1
  have hlacks : (s.withPins fun f => flags.getLsbD f.bit).LacksPin := by
    obtain ⟨f, hf⟩ := hunasked
    exact lacksPin_iff.mpr ⟨f, (withPins_hdl _ f).trans hf⟩
  rw [Completes, if_pos hlacks, hasked.readsStates_iff, hasked.statesRead_eq, hasked.pinsOf_eq] at hread
  exact hread

theorem reveals_of_determines (h : s.Determines channel flags d) : s.Reveals channel flags d where
  supported := by
    rintro rfl htxLoss hcompletes hhides f ⟨hasked, hhdl, hsup⟩
    obtain ⟨r, hr⟩ := exists_answer htxLoss hcompletes hhides
    rcases h.determined r hr f hasked with hpin | hoption
    · exact absurd (hpin.symm.trans hhdl) (by decide)
    · exact absurd (hoption.symm.trans hsup) (by decide)
  unrelated := by
    rintro rfl htxLoss hpinned hunasked hpins
    exact unrelated_of_independent h.independent htxLoss hpinned hunasked hpins

/-- The driver shows a flag that has a pin or that the module supports iff it is asserted. -/
theorem shown_eq_asserted {c : Cage} {f : StatusFlag}
    (h : s.hdl f = true ∨ (s.options c.slaves).getLsbD f.supportBit = true) :
    s.Shown c f = s.Asserted c f := by
  rw [Shown, Raised, Asserted]
  cases hhdl : s.hdl f with
  | true => rfl
  | false =>
      have hsup : (s.options c.slaves).getLsbD f.supportBit = true := h.resolve_left (by rw [hhdl]; decide)
      have hnonzero : s.options c.slaves ≠ 0 := ne_zero_of_getLsbD hsup
      rw [states, if_neg hnonzero, hsup, Bool.true_and]

theorem supported_of_answers (h : s.Reveals channel flags d)
    (hanswers : Answers (s.channelStatusGet channel flags) d r) {f : StatusFlag}
    (hasked : flags.getLsbD f.bit = true) :
    s.hdl f = true ∨ (s.options d.hw.slaves).getLsbD f.supportBit = true := by
  obtain ⟨hchannel, htxLoss, hcompletes, hhides, -⟩ := answers_channelStatusGet.mp hanswers
  by_contra hno
  obtain ⟨hhdl, hsup⟩ := not_or.mp hno
  exact h.supported hchannel htxLoss hcompletes hhides f
    ⟨hasked, Bool.of_not_eq_true hhdl, Bool.of_not_eq_true hsup⟩

/-- The module is read for both cages or for none, unless all that is asked for has pins. -/
theorem Agrees.completes_iff {s' : SfpCage} (h : Agrees s s' flags) (hreveals : s.Reveals channelNum flags d)
    (htxLoss : flags.getLsbD statusTxLoss = false) : s'.Completes flags d ↔ s.Completes flags d := by
  by_cases hpinned : ∀ f : StatusFlag, flags.getLsbD f.bit = true → s.hdl f = true
  · have hpinned' : ∀ f : StatusFlag, flags.getLsbD f.bit = true → s'.hdl f = true :=
      fun f hasked => (h.hdl_eq f hasked).trans (hpinned f hasked)
    have hunrelated := hreveals.unrelated rfl htxLoss hpinned
    have hcompletes : s'.Completes flags d ↔ d.PinsAt (s'.pinsOf flags) := by
      refine completes_iff_pinsAt hpinned' ?_
      rw [h.pinsOf_eq, h.readsStates_iff, h.statesRead_eq]
      exact hunrelated
    rw [hcompletes, completes_iff_pinsAt hpinned hunrelated, h.pinsOf_eq]
  · obtain ⟨f, hf⟩ := not_forall.mp hpinned
    obtain ⟨hasked, hhdl⟩ := Classical.not_imp.mp hf
    have hlacks : s.LacksPin := lacksPin_iff.mpr ⟨f, Bool.of_not_eq_true hhdl⟩
    have hlacks' : s'.LacksPin :=
      lacksPin_iff.mpr ⟨f, (h.hdl_eq f hasked).trans (Bool.of_not_eq_true hhdl)⟩
    rw [Completes, Completes, if_pos hlacks, if_pos hlacks', h.readsStates_iff, h.statesRead_eq, h.pinsOf_eq]

theorem determines_of_reveals (h : s.Reveals channel flags d) : s.Determines channel flags d where
  no_txLoss r hr := (answers_channelStatusGet.mp hr).2.1
  determined r hr f hasked := supported_of_answers h hr hasked
  exact r hr i := by
    rw [(answers_channelStatusGet.mp hr).2.2.2.2 i]
    refine exists_congr fun f => and_congr_right fun _ => and_congr_right fun hasked => ?_
    rw [shown_eq_asserted (supported_of_answers h hr hasked)]
  independent s' hs' r := by
    by_cases hget : channel = channelNum ∧ flags.getLsbD statusTxLoss = false
    · obtain ⟨rfl, htxLoss⟩ := hget
      exact hs'.answers_iff (hs'.completes_iff h htxLoss)
    · have hnone : ∀ s₀ : SfpCage, ¬Answers (s₀.channelStatusGet channel flags) d r := by
        intro s₀ hr
        obtain ⟨hchannel, htxLoss, -⟩ := answers_channelStatusGet.mp hr
        exact hget ⟨hchannel, htxLoss⟩
      exact iff_of_false (hnone s') (hnone s)

/-- A status with `STD_ERR_OK` is that of all the flags that are asked for, whatever the other pins are, iff
no pin hides that the module lacks a flag and the module can be read whenever it does not matter. -/
theorem determines_iff (s : SfpCage) (channel flags : BitVec 32) (d : State) :
    s.Determines channel flags d ↔ s.Reveals channel flags d :=
  ⟨reveals_of_determines, determines_of_reveals⟩

/-- The pin of the transmitter faults hides that the module lacks the state of the transmitter. -/
theorem not_determines_hidden : ¬Determines ⟨⟨0x50, ⟨false, 0, false, 0⟩⟩, false, 0, true, 1, true, 2⟩ 0 3
    (registered fun _ => none) := by
  intro h
  have hr : Answers (channelStatusGet ⟨⟨0x50, ⟨false, 0, false, 0⟩⟩, false, 0, true, 1, true, 2⟩ 0 3)
      (registered fun _ => none) 0 := ⟨_, rfl⟩
  rcases h.determined 0 hr .txDisable (by decide) with hpin | hoption
  · exact absurd hpin (by decide)
  · exact absurd hoption (by decide)

end SfpCage

end OpxSdi.Media
