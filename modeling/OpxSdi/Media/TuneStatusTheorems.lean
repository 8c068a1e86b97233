import OpxSdi.Media.RestoreTheorems
import OpxSdi.Media.TuneStatus

/-!
# Tunings that the module confirms

A tuning that succeeds was confirmed by the status of the module. What breaks this is that neither status
register is read: both reads are of the register that says how the module can be tuned, and the test of what
they return tests no bit.
-/

namespace OpxSdi.Media

open Lib Device

namespace Sfp

variable {evolve : Evolution} {d d' : State} {is : List TuneSeen} {u : Unit} {value : Float32} {s : Sfp}

/-- The registers of a module that show the status of its tuning now, and what it has been -/
structure StatusRegisters where
  current : BitVec 32
  latched : BitVec 32
  current_ne : current ≠ tuneTypeSupportOffset
  latched_ne : latched ≠ tuneTypeSupportOffset

/-- One poll has read both registers, and no bit is set that tells of a failure or of a tuning that goes on. -/
def Confirmed (regs : StatusRegisters) (seen : List TuneSeen) : Prop :=
  ∃ current latched,
    [.statusRead regs.current (.ok current), .statusRead regs.latched (.ok latched)] <:+: seen ∧
    current &&& (tecFaultBitmask ||| wavUnlockedBitmask ||| txTuningBitmask) = 0 ∧
    latched &&& (tecFaultBitmask ||| wavUnlockedBitmask ||| latchedBadChannelBitmask) = 0

/-- The status is good only once the module has confirmed the tuning. -/
def StatusConfirmed (regs : StatusRegisters) (evolve : Evolution) (d : State) : Prop :=
  ∀ rc d', Ok (tuneSetStatusGetSeen evolve) (d.recorded []) (rc, true) d' → Confirmed regs d'.hw.2

/-- The call returns only if the module can be tuned, has been and has confirmed it. -/
def SetConfirmed (regs : StatusRegisters) (evolve : Evolution) (s : Sfp) (value : Float32) (d : State) : Prop :=
  ∀ u d', Ok (wavelengthSetSeen evolve s value) (d.recorded []) u d' →
    s.Tunable d.hw.slaves ∧ .tuned (.ok ()) ∈ d'.hw.2 ∧ Confirmed regs d'.hw.2

/-- No check and no transaction fails, but for the first read of the status, and a module that cannot be tuned
is left alone. -/
def Sets (s : Sfp) (value : Float32) (d : State) : Prop :=
  ¬value.toFloat ≤ 0.0 ∧ s.sel.SelectsAt d ∧ (s.sel.opened d).Clear 1 ∧
    (s.Tunable d.hw.slaves → (s.sel.opened d).Clear 2) ∧ s.RestoresWavelength value d

/-! ## A module that stays as it is -/

theorem erases_statusRead (n : Nat) (offset : BitVec 32) :
    Erases (statusRead (fun _ e => e) n offset) (smbusReadByte sfpI2cAddr offset) := by
  have hbody : (becomes (fun _ e => e) n >>= fun _ => smbusReadByte sfpI2cAddr offset) =
      smbusReadByte sfpI2cAddr offset := by
    funext c
    simp only [becomes, Function.update_eq_self]
    rfl
  rw [statusRead, hbody]
  exact Erases.observed _ _

theorem erases_pollTuneSetStatus (polls n : Nat) (unlatched latched : Byte) (rc : Except Errno Byte) :
    Erases (pollTuneSetStatusSeen (fun _ e => e) polls n unlatched latched rc)
      (pollTuneSetStatus polls unlatched latched rc) := by
  induction polls generalizing n unlatched latched rc with
  | zero => exact Erases.pure _
  | succ polls ih =>
      refine (erases_statusRead n _).attempt.bind fun rc => (erases_statusRead (n + 1) _).attempt.bind fun rc' => ?_
      dsimp only
      split
      · exact Erases.pure _
      · exact ih _ _ _ _

theorem erases_tune (value : Float32) : Erases (tuneSeen (fun _ e => e) value) (tune value) := by
  refine (Erases.unobserved _).bind fun tuneCap => (Erases.observed _ _).bind fun _ =>
    (erases_pollTuneSetStatus _ _ _ _ _).bind fun r => (Erases.ofResult r.1).bind fun _ => ?_
  split
  · exact Erases.pure _
  · exact Erases.fail _

theorem erases_wavelengthSet (s : Sfp) (value : Float32) :
    Erases (wavelengthSetSeen (fun _ e => e) s value) (s.wavelengthSet value) := by
  rw [wavelengthSetSeen, wavelengthSet]
  split
  · exact Erases.fail _
  · refine (Erases.unobserved _).bind fun _ => (Erases.attempt ?_).bind fun rc =>
      (Erases.unobserved _).bind fun _ => Erases.ofResult rc
    refine (Erases.observed _ _).bind fun status => ?_
    split
    · exact Erases.pure _
    · exact (Erases.unobserved _).bind fun _ => (erases_tune value).bind fun _ => Erases.unobserved _

/-! ## The registers that are read -/

/-- The reads of the status that are added are of the register that says how the module can be tuned. -/
def ReadsSupport (w w' : Device PinGroup Errno (Cage × List TuneSeen)) : Prop :=
  ∀ offset rc, .statusRead offset rc ∈ w'.hw.2 → .statusRead offset rc ∈ w.hw.2 ∨ offset = tuneTypeSupportOffset

namespace ReadsSupport

variable {α β : Type} {w w' w'' : Device PinGroup Errno (Cage × List TuneSeen)}

theorem of_record_eq (h : w'.hw.2 = w.hw.2) : ReadsSupport w w' :=
  fun _ _ hmem => .inl (h ▸ hmem)

theorem refl (w : Device PinGroup Errno (Cage × List TuneSeen)) : ReadsSupport w w := of_record_eq rfl

theorem trans (w w' w'' : Device PinGroup Errno (Cage × List TuneSeen)) (h : ReadsSupport w w')
    (h' : ReadsSupport w' w'') : ReadsSupport w w'' :=
  fun offset rc hmem => (h' offset rc hmem).elim (h offset rc) .inr

theorem of_record_append {seen : TuneSeen}
    (hseen : ∀ offset rc, seen = .statusRead offset rc → offset = tuneTypeSupportOffset)
    (h : w'.hw.2 = w.hw.2 ++ [seen]) : ReadsSupport w w' := by
  intro offset rc hmem
  rw [h] at hmem
  rcases List.mem_append.mp hmem with hold | hnew
  · exact .inl hold
  · exact .inr (hseen offset rc (List.mem_singleton.mp hnew).symm)

theorem bind {x : TuneM α} {f : α → TuneM β} (hx : Stays ReadsSupport x) (hf : ∀ a, Stays ReadsSupport (f a)) :
    Stays ReadsSupport (x >>= f) := Stays.bind trans hx hf

theorem unobserved (x : M α) : Stays ReadsSupport (Device.unobserved x : TuneM α) :=
  Stays.unobserved fun _ _ => of_record_eq

theorem observed {x : M α} {f : Cage → Except Errno α → TuneSeen}
    (hf : ∀ c r offset rc, f c r = .statusRead offset rc → offset = tuneTypeSupportOffset) :
    Stays ReadsSupport (Device.observed f x) :=
  Stays.observed (fun _ _ => of_record_eq) fun w _ r => of_record_append (hf w.hw.1 r)

theorem pollTuneSetStatusSeen (polls n : Nat) (unlatched latched : Byte) (rc : Except Errno Byte) :
    Stays ReadsSupport (pollTuneSetStatusSeen evolve polls n unlatched latched rc) := by
  have hread : ∀ n, Stays ReadsSupport (Device.attempt (statusRead evolve n tuneTypeSupportOffset)) :=
    fun n => (observed fun _ _ _ _ h => (TuneSeen.statusRead.inj h).1.symm).attempt
  induction polls generalizing n unlatched latched rc with
  | zero => exact Stays.pure refl _
  | succ polls ih =>
      refine bind (hread n) fun rc => bind (hread (n + 1)) fun rc' => ?_
      dsimp only
      split
      · exact Stays.pure refl _
      · exact ih _ _ _ _

theorem tuneSeen (value : Float32) : Stays ReadsSupport (tuneSeen evolve value) := by
  refine bind (unobserved _) fun tuneCap => bind (observed fun _ _ _ _ h => nomatch h) fun _ =>
    bind (pollTuneSetStatusSeen _ _ _ _ _) fun r => bind (Stays.ofResult refl _) fun _ => ?_
  split
  · exact Stays.pure refl _
  · exact Stays.fail refl _

theorem wavelengthSetSeen (s : Sfp) (value : Float32) : Stays ReadsSupport (wavelengthSetSeen evolve s value) := by
  rw [Sfp.wavelengthSetSeen]
  split
  · exact Stays.fail refl _
  · refine bind (unobserved _) fun _ => bind (Stays.attempt ?_) fun rc => bind (unobserved _) fun _ =>
      Stays.ofResult refl _
    refine bind (observed fun _ _ _ _ h => nomatch h) fun status => ?_
    split
    · exact Stays.pure refl _
    · exact bind (unobserved _) fun _ => bind (tuneSeen value) fun _ => unobserved _

end ReadsSupport

theorem not_confirmed {regs : StatusRegisters} {w : Device PinGroup Errno (Cage × List TuneSeen)}
    (h : ReadsSupport (d.recorded []) w) : ¬Confirmed regs w.hw.2 := by
  rintro ⟨current, latched, hpoll, -⟩
  have hmem := hpoll.subset List.mem_cons_self
  rcases h _ _ hmem with hnil | hoffset
  · exact absurd hnil List.not_mem_nil
  · exact regs.current_ne hoffset

/-! ## When the calls return -/

/-- A read of the status returns iff it does not fail. -/
theorem leads_statusRead (evolve : Evolution) (n : Nat) (offset : BitVec 32) (d : State) :
    ∃ rc hw, ((∃ b, rc = .ok b) ↔ d.fault d.time = none) ∧
      Leads (statusRead evolve n offset) d rc 1 hw [.statusRead offset rc] := by
  let d1 : State := { d with hw := { d.hw with
    slaves := Function.update d.hw.slaves sfpI2cAddr (evolve n (d.hw.slaves sfpI2cAddr)) } }
  cases hfault : d.fault d.time with
  | none =>
      have hread : Ok (smbusReadByte sfpI2cAddr offset) d1 _ _ := ok_smbusReadByte.mpr ⟨hfault, rfl, rfl⟩
      have hok : Ok (becomes evolve n >>= fun _ => smbusReadByte sfpI2cAddr offset) d _ _ :=
        ok_bind.mpr ⟨(), d1, rfl, hread⟩
      exact ⟨_, (d1.passed 1 d1.hw.slaves).hw, iff_of_true ⟨_, rfl⟩ rfl, fun before => ok_observed.mpr ⟨_, hok, rfl⟩⟩
  | some e =>
      have hread : Err (smbusReadByte sfpI2cAddr offset) d1 e _ := err_smbusReadByte.mpr ⟨hfault, rfl⟩
      have herr : Err (becomes evolve n >>= fun _ => smbusReadByte sfpI2cAddr offset) d e _ :=
        err_bind.mpr (.inr ⟨(), d1, rfl, hread⟩)
      refine ⟨.error e, (d1.passed 1 d1.hw.slaves).hw, ?_, fun before => err_observed.mpr ⟨_, herr, rfl⟩⟩
      exact iff_of_false (fun ⟨_, h⟩ => nomatch h) (Option.some_ne_none e)

/-- The poll ends with its first two reads, whatever they return. -/
theorem leads_tuneSetStatusGet (evolve : Evolution) (d : State) : ∃ rc rc' hw,
    ((∃ b, rc' = .ok b) ↔ d.fault (d.time + 1) = none) ∧
      Leads (tuneSetStatusGetSeen evolve) d (.ok (rc', true)) 2 hw
        [.statusRead tuneTypeSupportOffset rc, .statusRead tuneTypeSupportOffset rc'] := by
  obtain ⟨rc, hw, -, hfirst⟩ := leads_statusRead evolve 0 tuneTypeSupportOffset d
  obtain ⟨rc', hw', hrc', hsecond⟩ := leads_statusRead evolve 1 tuneTypeSupportOffset (d.after 1 hw)
  refine ⟨rc, rc', hw', hrc', ?_⟩
  change Leads (pollTuneSetStatusSeen evolve (9 + 1) 0 (~~~0) (~~~0) (.ok 0)) _ _ _ _ _
  simp only [pollTuneSetStatusSeen, testStatus, Bool.and_self, ↓reduceIte]
  exact hfirst.attempt.bind (hsecond.attempt.map fun rc => (rc, true))

theorem not_statusConfirmed (regs : StatusRegisters) (evolve : Evolution) (d : State) :
    ¬StatusConfirmed regs evolve d := by
  obtain ⟨rc, rc', hw, -, hleads⟩ := leads_tuneSetStatusGet evolve d
  intro h
  have hok : Ok (tuneSetStatusGetSeen evolve) (d.recorded []) (rc', true) _ := hleads []
  exact not_confirmed ((ReadsSupport.pollTuneSetStatusSeen _ _ _ _ _).of_ok hok) (h rc' _ hok)

/-- The status is good whenever its second read succeeds. -/
theorem ok_tuneStatus (evolve : Evolution) (d : State) (is : List TuneSeen) : (∃ u w, Ok (do
    let r ← tuneSetStatusGetSeen evolve
    let _ ← Device.ofResult r.1
    if r.2 then pure () else Device.fail .notOk) (d.recorded is) u w ∧ w.fault w.time = none) ↔
      d.fault (d.time + 1) = none ∧ d.fault (d.time + 2) = none := by
  obtain ⟨rc, rc', hw, hrc', hleads⟩ := leads_tuneSetStatusGet evolve d
  rw [← hrc']
  have hout := hleads is
  constructor
  · rintro ⟨u, w, h, hnext⟩
    obtain ⟨r, w1, hstatus, h⟩ := ok_bind.mp h
    obtain ⟨rfl, rfl⟩ := hstatus.unique hout
    obtain ⟨b, w2, hresult, h⟩ := ok_bind.mp h
    obtain ⟨rfl, rfl⟩ := ok_ofResult.mp hresult
    obtain ⟨-, rfl⟩ := ok_pure.mp h
    exact ⟨⟨b, rfl⟩, hnext⟩
  · rintro ⟨⟨b, rfl⟩, hnext⟩
    exact ⟨(), _, ok_bind.mpr ⟨_, _, hout, ok_bind.mpr ⟨b, _, ok_ofResult.mpr ⟨rfl, rfl⟩, ok_pure.mpr ⟨rfl, rfl⟩⟩⟩,
      hnext⟩

/-- The tuning returns, and the operation after it succeeds. -/
theorem ok_tuneSeen (evolve : Evolution) (d : State) (is : List TuneSeen) :
    (∃ u w, Ok (tuneSeen evolve value) (d.recorded is) u w ∧ w.fault w.time = none) ↔
    (d.hw.slaves sfpI2cAddr).tunableCapabilities.Allows value ∧ d.Clear 13 ∧
      d.fault (d.time + 14) = none ∧ d.fault (d.time + 15) = none := by
  constructor
  · rintro ⟨u, w, h, hnext⟩
    obtain ⟨tuneCap, w1, hcap, h⟩ := ok_bind.mp h
    obtain ⟨d1, hcap', rfl⟩ := ok_unobserved.mp hcap
    obtain ⟨hclear, hsupported, hordered, rfl, rfl⟩ := ok_getTunableCapabilities.mp hcap'
    obtain ⟨u1, w2, hset, h⟩ := ok_bind.mp h
    obtain ⟨d2, hset', rfl⟩ := ok_observed.mp hset
    obtain ⟨hbounds, hclear', rfl⟩ := (ok_setTunableModuleByWavelength hsupported).mp hset'
    exact ⟨⟨hsupported, hordered, hbounds⟩, clear_add_passed.mpr ⟨hclear, hclear'⟩,
      (ok_tuneStatus evolve _ _).mp ⟨u, w, h, hnext⟩⟩
  · rintro ⟨⟨hsupported, hordered, hbounds⟩, hclear, hstatus⟩
    obtain ⟨hcap, hset⟩ := (@clear_add_passed d 11 2 d.hw.slaves).mp hclear
    have hcap' : Ok (Device.unobserved getTunableCapabilities) (d.recorded is) _ _ :=
      ok_unobserved.mpr ⟨_, ok_getTunableCapabilities.mpr ⟨hcap, hsupported, hordered, rfl, rfl⟩, rfl⟩
    have hset' : Ok (Device.observed (fun _ => TuneSeen.tuned) (setTunableModuleByWavelength
        (d.hw.slaves sfpI2cAddr).tunableCapabilities value)) ((d.passed 11 d.hw.slaves).recorded is) () _ :=
      ok_observed.mpr ⟨_, (ok_setTunableModuleByWavelength hsupported).mpr ⟨hbounds, hset, rfl⟩, rfl⟩
    obtain ⟨u, w, h, hnext⟩ := (ok_tuneStatus evolve ((d.passed 11 d.hw.slaves).passed 2
      (Function.update d.hw.slaves sfpI2cAddr ((tuningBurst (d.hw.slaves sfpI2cAddr).tunableCapabilities value).mem 2
        (d.hw.slaves sfpI2cAddr)))) (is ++ [.tuned (.ok ())])).mpr hstatus
    exact ⟨u, w, ok_bind.mpr ⟨_, _, hcap', ok_bind.mpr ⟨(), _, hset', h⟩⟩, hnext⟩

theorem ok_unobserved_pageSelect {page : Byte} {w : Device PinGroup Errno (Cage × List TuneSeen)} :
    Ok (Device.unobserved (pageSelect page)) (d.recorded is) u w ↔
      d.fault d.time = none ∧ w = (d.passed 1 (paged page d.hw.slaves)).recorded is := by
  rw [ok_unobserved]
  constructor
  · rintro ⟨d1, hpage, rfl⟩
    obtain ⟨hfault, rfl⟩ := ok_smbusWriteByte.mp hpage
    exact ⟨hfault, rfl⟩
  · rintro ⟨hfault, rfl⟩
    exact ⟨_, ok_smbusWriteByte.mpr ⟨hfault, rfl⟩, rfl⟩

/-- The device that the tuning starts on -/
def tuningStart (d : State) : State := d.passed 2 (paged tunablePage d.hw.slaves)

theorem tuningStart_eq (d : State) :
    (d.passed 1 d.hw.slaves).passed 1 (paged tunablePage d.hw.slaves) = tuningStart d := passed_passed ..

theorem ok_wavelengthSetHeld : (∃ u w, Ok (wavelengthSetHeld evolve s value) (d.recorded is) u w) ↔
    d.Clear 1 ∧ (s.Tunable d.hw.slaves → d.Clear 2 ∧
      ((tuningStart d).hw.slaves sfpI2cAddr).tunableCapabilities.Allows value ∧ (tuningStart d).Clear 13 ∧
        (tuningStart d).fault ((tuningStart d).time + 14) = none ∧
        (tuningStart d).fault ((tuningStart d).time + 15) = none) := by
  have hsupported : d.fault d.time = none → Ok (Device.observed (fun _ => TuneSeen.supported)
      s.isWavelengthTuneSupported) (d.recorded is) (decide (s.Tunable d.hw.slaves)) ((d.passed 1 d.hw.slaves).recorded
        (is ++ [.supported (.ok (decide (s.Tunable d.hw.slaves)))])) := fun hfault =>
    ok_observed.mpr ⟨_, ok_isWavelengthTuneSupported.mpr ⟨hfault, rfl, rfl⟩, rfl⟩
  constructor
  · rintro ⟨u, w, h⟩
    obtain ⟨status, w1, hstatus, h⟩ := ok_bind.mp h
    obtain ⟨d1, hstatus', rfl⟩ := ok_observed.mp hstatus
    obtain ⟨hfault, rfl, rfl⟩ := ok_isWavelengthTuneSupported.mp hstatus'
    refine ⟨clear_one.mpr hfault, fun htunable => ?_⟩
    rw [if_neg (by rw [decide_eq_true htunable]; decide)] at h
    obtain ⟨u1, w2, hpage, h⟩ := ok_bind.mp h
    obtain ⟨hselect, rfl⟩ := ok_unobserved_pageSelect.mp hpage
    obtain ⟨u2, w3, htune, h⟩ := ok_bind.mp h
    have hdefault : Ok (Device.unobserved (pageSelect defaultPage)) (w3.bare.recorded w3.hw.2) u w := h
    have hnext := (ok_unobserved_pageSelect.mp hdefault).1
    rw [passed_slaves, tuningStart_eq] at htune
    exact ⟨clear_two.mpr ⟨hfault, hselect⟩, (ok_tuneSeen evolve _ _).mp ⟨u2, w3, htune, hnext⟩⟩
  · rintro ⟨hclear, htune⟩
    have hfault := clear_one.mp hclear
    by_cases htunable : s.Tunable d.hw.slaves
    · obtain ⟨hclear', htune'⟩ := htune htunable
      obtain ⟨u, w, htune'', hnext⟩ := (ok_tuneSeen evolve (tuningStart d)
        (is ++ [.supported (.ok (decide (s.Tunable d.hw.slaves)))])).mpr htune'
      have hdefault : ∃ w', Ok (Device.unobserved (pageSelect defaultPage)) (w.bare.recorded w.hw.2) () w' :=
        ⟨_, ok_unobserved_pageSelect.mpr ⟨hnext, rfl⟩⟩
      obtain ⟨w', hdefault⟩ := hdefault
      rw [← tuningStart_eq] at htune''
      refine ⟨(), w', ok_bind.mpr ⟨_, _, hsupported hfault, ?_⟩⟩
      rw [if_neg (by rw [decide_eq_true htunable]; decide)]
      refine ok_bind.mpr ⟨(), _, ok_unobserved_pageSelect.mpr ⟨(clear_two.mp hclear').2, rfl⟩, ?_⟩
      exact ok_bind.mpr ⟨u, w, htune'', hdefault⟩
    · refine ⟨(), (d.passed 1 d.hw.slaves).recorded (is ++ [.supported (.ok (decide (s.Tunable d.hw.slaves)))]),
        ok_bind.mpr ⟨_, _, hsupported hfault, ?_⟩⟩
      rw [if_pos (decide_eq_false htunable)]
      exact ok_pure.mpr ⟨rfl, rfl⟩

theorem ok_wavelengthSetSeen (evolve : Evolution) (d : State) (is : List TuneSeen) :
    (∃ u w, Ok (wavelengthSetSeen evolve s value) (d.recorded is) u w) ↔ s.Sets value d := by
  rw [wavelengthSetSeen]
  split
  · rename_i hvalue
    exact iff_of_false (fun ⟨_, _, h⟩ => ok_fail h) fun h => h.1 hvalue
  · rename_i hvalue
    have hbody : (∃ u w, Ok (do
        Device.unobserved s.sel.moduleSelect
        let rc ← Device.attempt (wavelengthSetHeld evolve s value)
        Device.unobserved s.sel.moduleDeselect
        Device.ofResult rc) (d.recorded is) u w) ↔
          s.sel.SelectsAt d ∧ ∃ u w, Ok (wavelengthSetHeld evolve s value) ((s.sel.opened d).recorded is) u w := by
      constructor
      · rintro ⟨u, w, h⟩
        obtain ⟨u1, w1, hselect, h⟩ := ok_bind.mp h
        obtain ⟨d1, hselect', rfl⟩ := ok_unobserved.mp hselect
        obtain ⟨hselects, rfl⟩ := s.sel.ok_moduleSelect.mp hselect'
        obtain ⟨rc, w2, hheld, h⟩ := ok_bind.mp h
        obtain ⟨u3, w3, -, h⟩ := ok_bind.mp h
        obtain ⟨rfl, -⟩ := ok_ofResult.mp h
        obtain ⟨u', hrc, hok⟩ | ⟨e, hrc, -⟩ := ok_attempt.mp hheld
        · exact ⟨hselects, u', w2, hok⟩
        · cases hrc
      · rintro ⟨hselects, u, w, hheld⟩
        have hselect : Ok s.sel.moduleSelect d () _ := s.sel.ok_moduleSelect.mpr ⟨hselects, rfl⟩
        have hdeselect : Ok (Device.unobserved s.sel.moduleDeselect) (w.bare.recorded w.hw.2) () _ :=
          ok_unobserved.mpr ⟨_, s.sel.ok_moduleDeselect.mpr rfl, rfl⟩
        refine ⟨u, (s.sel.closed w.bare).recorded w.hw.2,
          ok_bind.mpr ⟨(), _, ok_unobserved.mpr ⟨_, hselect, rfl⟩, ?_⟩⟩
        refine ok_bind.mpr ⟨_, w, ok_attempt.mpr (.inl ⟨u, rfl, hheld⟩), ?_⟩
        exact ok_bind.mpr ⟨(), _, hdeselect, ok_ofResult.mpr ⟨rfl, rfl⟩⟩
    rw [hbody, ok_wavelengthSetHeld, Sets, RestoresWavelength]
    simp only [hvalue, not_false_eq_true, true_and, forall_const]
    constructor
    · rintro ⟨hselects, hclear, htune⟩
      exact ⟨hselects, hclear, fun htunable => (htune htunable).1, fun _ htunable _ => (htune htunable).2⟩
    · rintro ⟨hselects, hclear, hclear', htune⟩
      exact ⟨hselects, hclear, fun htunable => ⟨hclear' htunable, htune hselects htunable (hclear' htunable)⟩⟩

/-- The status is never confirmed, and a call confirms its tuning iff it does not return without an error. -/
theorem confirmed_iff (regs : StatusRegisters) (evolve : Evolution) (s : Sfp) (value : Float32) (d : State) :
    ¬StatusConfirmed regs evolve d ∧ (SetConfirmed regs evolve s value d ↔ ¬s.Sets value d) := by
  refine ⟨not_statusConfirmed regs evolve d, ?_⟩
  rw [← ok_wavelengthSetSeen evolve d []]
  constructor
  · rintro h ⟨u, w, hok⟩
    exact not_confirmed ((ReadsSupport.wavelengthSetSeen s value).of_ok hok) (h u w hok).2.2
  · intro h u w hok
    exact absurd ⟨u, w, hok⟩ h

/-- A module whose status tells of all the failures -/
def faulty : State :=
  { registered (fun _ => none) with hw := { (registered fun _ => none).hw with
    slaves := fun _ => ⟨fun _ => 0, fun _ _ => 0x70⟩ } }

def statusRegisters : StatusRegisters := ⟨168, 172, by decide, by decide⟩

theorem not_statusConfirmed_faulty :
    (faulty.hw.slaves sfpI2cAddr).read 168 = tecFaultBitmask ||| wavUnlockedBitmask ||| txTuningBitmask ∧
      (faulty.hw.slaves sfpI2cAddr).read 172 = tecFaultBitmask ||| wavUnlockedBitmask ||| latchedBadChannelBitmask ∧
      ¬StatusConfirmed statusRegisters (fun _ e => e) faulty :=
  ⟨by decide, by decide, not_statusConfirmed _ _ _⟩

end Sfp

end OpxSdi.Media
