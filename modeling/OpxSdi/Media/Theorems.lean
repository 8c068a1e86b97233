import OpxSdi.Media.Lemmas.Init

/-!
# Media calls leave no lock behind

The calls of a run are balanced as long as each of them meets its condition. A call that leaves a lock
behind is a read that fails within a selection and returns at once, without `moduleDeselect`.
-/

namespace OpxSdi.Media

open Lib

variable {q : Qsfp} {d d' d1 : State} {i : Input} {es : List Event}

/-- No lock is held, and a cage with an adapter has its SFP device. -/
structure Idle (d : State) : Prop where
  held_eq : d.held = noneHeld
  sfpDevice : d.hw.priv.modType = .qsaAdapter → d.hw.priv.sfpDevice ≠ none

/-! ## What the log says about balance -/

theorem balanced_of_settled {r : Except Errno Unit} (hfree : d.held = noneHeld)
    (hout : i.out q d = (Device.outcome r, d')) (hlogs : Logs es (insert d i.slaves) d')
    (hsettled : Settled es) : Balanced q d i := by
  have hstep : step q d i = d' := congrArg Prod.snd hout
  refine ⟨fun h herr => ?_, ?_, es, ?_, hsettled.inWindow, hsettled.count_eq⟩
  · rw [hout] at herr
    cases r with
    | ok a => cases herr
    | error e => exact ⟨e, (Except.error.inj herr).symm⟩
  · rw [hstep, hlogs.held_eq, hfree]
    exact (congrArg (replay · es) hfree).trans hsettled.replay_eq
  · rw [hstep]
    exact hlogs.log_eq

theorem balanced_of_ended {r : Except Errno Unit} (hfree : d.held = noneHeld)
    (hout : i.out q d = (Device.outcome r, d')) (h : Ended (insert d i.slaves) d') : Balanced q d i := by
  obtain ⟨es, hlogs, hclosed⟩ := h
  exact balanced_of_settled hfree hout hlogs hclosed.toSettled

/-- A selection that is left open matters where it takes a lock. -/
theorem balanced_iff_of_begun {s : Selection} {r : Except Errno Unit} (hfree : d.held = noneHeld)
    (hout : i.out q d = (Device.outcome r, d')) (hended : Ended (insert d i.slaves) d1) (h : Begun s d1 d') :
    Balanced q d i ↔ ¬ s.HasLock := by
  obtain ⟨es, hlogs, hclosed⟩ := hended
  obtain ⟨n, hn⟩ := h
  constructor
  · intro hbalanced hlock
    have hheld : d'.held = d.held := (congrArg (fun x => x.2.held) hout).symm.trans hbalanced.held_eq
    rw [hn.held_eq, hlogs.held_eq] at hheld
    refine s.replay_open_ne hlock n ?_
    rw [← hclosed.replay_eq]
    exact (congrArg (fun h => replay (replay h es) _) hfree).symm.trans (hheld.trans (hfree.trans
      hclosed.replay_eq.symm))
  · intro hlock
    exact balanced_of_settled hfree hout (hlogs.trans hn) (hclosed.append_settled (s.settled_open hlock n))

theorem not_balanced_of_transaction {r : Except Errno Unit} (hout : i.out q d = (Device.outcome r, d'))
    (hlogs : Logs (.transaction :: es) (insert d i.slaves) d') : ¬ Balanced q d i := by
  intro h
  obtain ⟨fs, hlog, hwindow, -⟩ := h.log
  have hstep : step q d i = d' := congrArg Prod.snd hout
  rw [hstep, hlogs.log_eq] at hlog
  obtain rfl := List.append_cancel_left hlog
  exact absurd hwindow.1 (by decide)

theorem out_discard {α : Type} {x : M α} {r : Except Errno α} (h : x.out d = (Device.outcome r, d')) :
    (do
      let _ ← x
      pure () : M Unit).out d = (Device.outcome (r.map fun _ => ()), d') := by
  cases r with
  | ok a => exact Acts.out_bind_ok h
  | error e => exact Acts.out_bind_error h

theorem Closes.ended {α : Type} {x : M α} {r : Except Errno α} (h : Closes x d r d') : Ended d d' := by
  obtain ⟨-, es, hdoes, hclosed⟩ := h
  exact ⟨es, hdoes.toLogs, hclosed⟩

theorem Open.begun {s : Selection} (h : Open s d d') : Begun s d d' := by
  obtain ⟨n, hn⟩ := h
  exact ⟨n, hn.toLogs⟩

theorem Ended.refl (d : State) : Ended d d := ⟨[], Logs.refl d, Closed.nil⟩

/-! ## Call by call -/

theorem moduleInit_balanced_iff (hidle : Idle d) (slaves : BitVec 16 → Eeprom) (pres : Bool) :
    Balanced q d ⟨slaves, .moduleInit pres⟩ ↔ KeepsBalance q d ⟨slaves, .moduleInit pres⟩ := by
  cases pres with
  | false =>
      obtain ⟨d', hout, hlogs, -⟩ := moduleInit_false q (insert d slaves)
      have hbalanced : Balanced q d ⟨slaves, .moduleInit false⟩ :=
        balanced_of_ended (r := .ok ()) hidle.held_eq hout ⟨[], hlogs, Closed.nil⟩
      exact iff_of_true hbalanced fun h => Bool.false_ne_true h.2.1
  | true =>
      obtain ⟨r, d', hout, hcases⟩ := moduleInit_true (q := q) (d := insert d slaves) hidle.held_eq
      have hended : Ended (insert d slaves) d' → Balanced q d ⟨slaves, .moduleInit true⟩ :=
        fun h => balanced_of_ended hidle.held_eq hout h
      rcases hcases with ⟨hid, -, -, hend⟩ | ⟨-, hadapter, -, -, hend⟩ | ⟨-, -, hdd, -, -, hend⟩ |
        ⟨hid, hadapter, hdd, -, -, ⟨hread, d1, hend, hbegun⟩ | ⟨hread, hend⟩⟩
      · exact iff_of_true (hended hend) fun h => hid h.2.2.1
      · exact iff_of_true (hended hend) fun h => hadapter.elim h.2.2.2.1 h.2.2.2.2.1
      · exact iff_of_true (hended hend) fun h => h.2.2.2.2.2.1 hdd
      · obtain ⟨hne, hplain⟩ := not_or.mp hadapter
        refine (balanced_iff_of_begun (i := ⟨slaves, .moduleInit true⟩) hidle.held_eq hout hend hbegun).trans
          (not_congr ⟨fun h => ?_, fun h => h.1⟩)
        exact ⟨h, rfl, hid, hne, hplain, hdd, hread⟩
      · exact iff_of_true (hended hend) fun h => hread h.2.2.2.2.2.2

theorem mediaMaxPowerGet_balanced_iff (hidle : Idle d) (slaves : BitVec 16 → Eeprom) :
    Balanced q d ⟨slaves, .mediaMaxPowerGet⟩ ↔ KeepsBalance q d ⟨slaves, .mediaMaxPowerGet⟩ := by
  by_cases hqsa : d.hw.priv.modType = .qsaAdapter
  · have hcloses := mediaMaxPowerGet_adapter (q := q) (d := insert d slaves) hqsa
    exact iff_of_true (balanced_of_ended hidle.held_eq (out_discard hcloses.1) hcloses.ended)
      fun h => h.2.1 hqsa
  · rcases mediaMaxPowerGet_cases (q := q) (d := insert d slaves) hidle.held_eq hqsa with
      ⟨hfail, e, d', hcloses⟩ | ⟨hok, hfault, e, d', hout, hopen⟩ | ⟨hok, hnone, d', hcloses⟩
    · exact iff_of_true (balanced_of_ended hidle.held_eq (out_discard hcloses.1) hcloses.ended)
        fun h => hfail h.2.2.1
    · refine (balanced_iff_of_begun (i := ⟨slaves, .mediaMaxPowerGet⟩) hidle.held_eq (out_discard hout)
        (Ended.refl _) hopen.begun).trans (not_congr ⟨fun h => ⟨h, hqsa, hok, hfault⟩, fun h => h.1⟩)
    · exact iff_of_true (balanced_of_ended hidle.held_eq (out_discard hcloses.1) hcloses.ended)
        fun h => h.2.2.2 hnone

theorem sfpParameterGet_balanced_iff (hidle : Idle d) (slaves : BitVec 16 → Eeprom) (s : Sfp)
    (param : MediaParamType) :
    Balanced q d ⟨slaves, .sfpParameterGet s param⟩ ↔ KeepsBalance q d ⟨slaves, .sfpParameterGet s param⟩ := by
  rcases parameterGet_cases s param (d := insert d slaves) hidle.held_eq with
    ⟨hfails, e, d', hout, hopen⟩ | ⟨hreads, r, d', hcloses⟩
  · exact (balanced_iff_of_begun (i := ⟨slaves, .sfpParameterGet s param⟩) hidle.held_eq (out_discard hout)
      (Ended.refl _) hopen.begun).trans (not_congr ⟨fun h => ⟨h, hfails⟩, fun h => h.1⟩)
  · exact iff_of_true (balanced_of_ended hidle.held_eq (out_discard hcloses.1) hcloses.ended)
      fun h => hreads h.2

/-- Raw access, whatever it transfers. -/
theorem accessGeneric_balanced_iff {α : Type} {addr : EepromAddr} {transfer : BitVec 16 → M α}
    (hidle : Idle d) (hx : ∀ a, Transacts (transfer a))
    (hout : i.out q d = (do
      let _ ← q.accessGeneric addr transfer
      pure () : M Unit).out (insert d i.slaves)) :
    Balanced q d i ↔ d.hw.priv.modType = .qsaAdapter ∨ addr.deviceAddr < -1 ∨ addr.page < 0 := by
  have hcases := accessGeneric_cases q addr (d := insert d i.slaves) hx hidle.held_eq
    hidle.sfpDevice
  split at hcases
  · rename_i h
    obtain ⟨r, d', hcloses⟩ := hcases
    exact iff_of_true (balanced_of_ended hidle.held_eq (hout.trans (out_discard hcloses.1)) hcloses.ended) h
  · rename_i h
    obtain ⟨r, d', es, hout', hdoes⟩ := hcases
    exact iff_of_false (not_balanced_of_transaction (hout.trans (out_discard hout')) hdoes.toLogs) h

theorem out_assert {p : Prop} [Decidable p] (h : p) (d : State) :
    (Device.assert p : M Unit).out d = (.ok (), d) := by
  simp only [Device.assert, Acts.out, ExceptT.run, StateT.run, h, ↓reduceIte]

theorem balanced_iff (hidle : Idle d) (i : Input) : Balanced q d i ↔ KeepsBalance q d i := by
  obtain ⟨slaves, call⟩ := i
  cases call with
  | moduleInit pres => exact moduleInit_balanced_iff hidle slaves pres
  | mediaMaxPowerGet => exact mediaMaxPowerGet_balanced_iff hidle slaves
  | readGeneric addr dataLen =>
      refine accessGeneric_balanced_iff hidle
        (fun a => Transacts.smbusReadMultiByte a addr.offset dataLen.val) ?_
      rw [Input.out, Call.exec, Qsfp.readGeneric, bind_assoc, Acts.out_bind_ok (out_assert dataLen.property _)]
  | writeGeneric addr data =>
      refine accessGeneric_balanced_iff hidle
        (fun a => Transacts.smbusWriteMultiByte a addr.offset data.val) ?_
      rw [Input.out, Call.exec, Qsfp.writeGeneric, bind_assoc, Acts.out_bind_ok (out_assert data.property _)]
  | sfpParameterGet s param => exact sfpParameterGet_balanced_iff hidle slaves s param

/-! ## Runs -/

theorem KeepsAdapter.sfpDevice_ne (h : KeepsAdapter d d')
    (hsfp : d.hw.priv.modType = .qsaAdapter → d.hw.priv.sfpDevice ≠ none) :
    d'.hw.priv.modType = .qsaAdapter → d'.hw.priv.sfpDevice ≠ none := by
  rw [h.modType_eq, h.sfpDevice_eq]
  exact hsfp

theorem moduleInit_sfpDevice (hfree : d.held = noneHeld)
    (hsfp : d.hw.priv.modType = .qsaAdapter → d.hw.priv.sfpDevice ≠ none) (pres : Bool) :
    ((q.moduleInit pres).out d).2.hw.priv.modType = .qsaAdapter →
      ((q.moduleInit pres).out d).2.hw.priv.sfpDevice ≠ none := by
  cases pres with
  | false =>
      obtain ⟨d', hout, -, hmod, -⟩ := moduleInit_false q d
      rw [hout]
      intro hqsa
      rw [hmod] at hqsa
      cases hqsa
  | true =>
      obtain ⟨r, d', hout, hcases⟩ := moduleInit_true (q := q) hfree
      rw [hout]
      rcases hcases with ⟨-, hkeeps, -⟩ | ⟨-, -, halloc, -⟩ | ⟨-, -, -, hkeeps, -⟩ | ⟨-, -, -, hkeeps, -⟩
      · exact hkeeps.sfpDevice_ne hsfp
      · intro _
        rw [halloc.sfpDevice_eq]
        exact Option.some_ne_none _
      · exact hkeeps.sfpDevice_ne hsfp
      · exact hkeeps.sfpDevice_ne hsfp

/-- A call other than the initialisation keeps the private data but for the version. -/
theorem exec_does (hidle : Idle d) {call : Call} (hcall : ∀ pres, call ≠ .moduleInit pres) :
    ∃ r d' es, (call.exec q).out d = (Device.outcome r, d') ∧ Does es d d' := by
  have hclosed : ∀ {α : Type} {x : M α} {r : Except Errno α} {d'}, Closes x d r d' → ∃ r d' es, (do
      let _ ← x
      pure () : M Unit).out d = (Device.outcome r, d') ∧ Does es d d' := by
    rintro α x r d' ⟨hout, es, hdoes, -⟩
    exact ⟨_, d', es, out_discard hout, hdoes⟩
  have hopened : ∀ {α : Type} {x : M α} {s : Selection} {r : Except Errno α} {d'},
      x.out d = (Device.outcome r, d') → Open s d d' → ∃ r d' es, (do
        let _ ← x
        pure () : M Unit).out d = (Device.outcome r, d') ∧ Does es d d' := by
    rintro α x s r d' hout ⟨n, hn⟩
    exact ⟨_, d', _, out_discard hout, hn⟩
  have haccess : ∀ {α : Type} {addr : EepromAddr} {transfer : BitVec 16 → M α},
      (∀ a, Transacts (transfer a)) → ∃ r d' es, (do
        let _ ← q.accessGeneric addr transfer
        pure () : M Unit).out d = (Device.outcome r, d') ∧ Does es d d' := by
    intro α addr transfer hx
    have hcases := accessGeneric_cases q addr hx hidle.held_eq hidle.sfpDevice
    split at hcases
    · obtain ⟨r, d', hcloses⟩ := hcases
      exact hclosed hcloses
    · obtain ⟨r, d', es, hout, hdoes⟩ := hcases
      exact ⟨_, d', _, out_discard hout, hdoes⟩
  cases call with
  | moduleInit pres => exact absurd rfl (hcall pres)
  | mediaMaxPowerGet =>
      by_cases hqsa : d.hw.priv.modType = .qsaAdapter
      · exact hclosed (mediaMaxPowerGet_adapter (q := q) hqsa)
      · rcases mediaMaxPowerGet_cases (q := q) hidle.held_eq hqsa with
          ⟨-, e, d', hcloses⟩ | ⟨-, -, e, d', hout, hopen⟩ | ⟨-, -, d', hcloses⟩
        · exact hclosed hcloses
        · exact hopened hout hopen
        · exact hclosed hcloses
  | readGeneric addr dataLen =>
      rw [Call.exec, Qsfp.readGeneric, bind_assoc, Acts.out_bind_ok (out_assert dataLen.property _)]
      exact haccess fun a => Transacts.smbusReadMultiByte a addr.offset dataLen.val
  | writeGeneric addr data =>
      rw [Call.exec, Qsfp.writeGeneric, bind_assoc, Acts.out_bind_ok (out_assert data.property _)]
      exact haccess fun a => Transacts.smbusWriteMultiByte a addr.offset data.val
  | sfpParameterGet s param =>
      rcases parameterGet_cases s param hidle.held_eq with
        ⟨-, e, d', hout, hopen⟩ | ⟨-, r, d', hcloses⟩
      · exact hopened hout hopen
      · exact hclosed hcloses

theorem step_idle (hidle : Idle d) (i : Input) (h : KeepsBalance q d i) : Idle (step q d i) := by
  have hidle' : Idle (insert d i.slaves) := ⟨hidle.held_eq, hidle.sfpDevice⟩
  refine ⟨((balanced_iff hidle i).mpr h).held_eq.trans hidle.held_eq, ?_⟩
  obtain ⟨slaves, call⟩ := i
  by_cases hcall : ∃ pres, call = .moduleInit pres
  · obtain ⟨pres, rfl⟩ := hcall
    exact moduleInit_sfpDevice hidle'.held_eq hidle'.sfpDevice pres
  · obtain ⟨r, d', es, hout, hdoes⟩ := exec_does (q := q) hidle' fun pres h => hcall ⟨pres, h⟩
    have hstep : step q d ⟨slaves, call⟩ = d' := congrArg Prod.snd hout
    rw [hstep]
    exact hdoes.keepsAdapter.sfpDevice_ne hidle'.sfpDevice

/-- The calls of a run that starts with no lock held are balanced iff each meets its condition. -/
theorem run_balanced_iff (q : Qsfp) (d : State) (hidle : Idle d) (is : List Input) :
    Along (step q) (Balanced q) d is ↔ Along (step q) (KeepsBalance q) d is :=
  along_congr (fun _ i h => balanced_iff h i) (fun _ i h => step_idle h i) hidle

theorem run_balanced_powerRead : Along (step muxedCage) (Balanced muxedCage) (registered fun _ => none)
    [⟨moduleWith 0x0d, .mediaMaxPowerGet⟩, ⟨moduleWith 0x0d, .readGeneric ⟨-1, -1, 0⟩ ⟨4, by decide⟩⟩] :=
  (run_balanced_iff muxedCage _ ⟨rfl, fun h => by cases h⟩ _).mpr
    ⟨fun h => h.2.2.2 rfl, .inr (.inr (by decide)), trivial⟩

/-- The read of the power class fails, and the lock of the multiplexer stays held. -/
theorem not_run_balanced_powerRead :
    ¬ Along (step muxedCage) (Balanced muxedCage) (registered fun t => if t = 2 then some .eio else none)
      [⟨moduleWith 0x0d, .mediaMaxPowerGet⟩, ⟨moduleWith 0x0d, .mediaMaxPowerGet⟩] :=
  fun h => absurd (congrFun h.1.held_eq .muxSel) (by decide)

end OpxSdi.Media
