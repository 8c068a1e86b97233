import OpxSdi.Media.Lemmas.Select

/-!
# Calls that select the module once

From a state in which no lock is held, a call that makes its transactions between a selection and its end is
closed, whatever fails. A call that returns from within the selection leaves it open.
-/

namespace OpxSdi.Media

open Lib

variable {α β : Type} {d d' d'' : State} {es : List Event} {s : Selection} {q : Qsfp} {x : M α}

/-- Since `d` the module has been selected and not been deselected. -/
def Open (s : Selection) (d d' : State) : Prop :=
  ∃ n, Does (s.opening ++ List.replicate n .transaction) d d'

theorem Open.trans (h : Open s d d') (h' : Transacted d' d'') : Open s d d'' := by
  obtain ⟨n, hn⟩ := h
  obtain ⟨m, hm⟩ := h'
  have hdoes := hn.trans hm
  rw [List.append_assoc, List.replicate_append_replicate] at hdoes
  exact ⟨n + m, hdoes⟩

/-- The computation ends with a result or an error after closed events. -/
def Closes (x : M α) (d : State) (r : Except Errno α) (d' : State) : Prop :=
  x.out d = (Device.outcome r, d') ∧ ∃ es, Does es d d' ∧ Closed es

theorem Open.deselect (h : Open s d d') :
    ∃ d'', s.moduleDeselect.out d' = (.ok (), d'') ∧ (∃ es, Does es d d'' ∧ Closed es) ∧
      d''.time = d'.time ∧ d''.hw.slaves = d'.hw.slaves := by
  obtain ⟨n, hn⟩ := h
  obtain ⟨-, d'', hout, hdoes, htime, hslaves⟩ := Selection.moduleDeselect_succeeds (s := s) d'
  exact ⟨d'', hout, ⟨_, hn.trans hdoes, s.closed_window n⟩, htime, hslaves⟩

theorem select_cases (hfree : d.held = noneHeld) :
    (s.SucceedsAt d.fault d.time ∧ ∃ d', s.moduleSelect.out d = (.ok (), d') ∧ Open s d d' ∧
        d'.time = d.time + s.ops ∧ d'.hw.slaves = d.hw.slaves) ∨
      ¬ s.SucceedsAt d.fault d.time ∧ ∃ e d', Closes s.moduleSelect d (.error e) d' := by
  rcases Selection.moduleSelect_tries (s := s) hfree with h | ⟨ks, hclosed, ⟨i, hi, hfault⟩, e, d', hout, hdoes⟩
  · obtain ⟨hok, d', hout, hdoes, hrest⟩ := h
    exact .inl ⟨hok, d', hout, ⟨0, (List.append_nil _).symm ▸ hdoes⟩, hrest⟩
  · exact .inr ⟨fun hok => hfault (hok i hi), e, d', hout, ks, hdoes, hclosed⟩

/-- The end of a window after transactions whose result the call turns into its own. -/
theorem closes_attempt {g : Except Errno α → Except Errno β} (hx : Transacts x) (hopen : Open s d d') :
    ∃ r d'', (do
      let rc ← Device.attempt x
      s.moduleDeselect
      Device.ofResult (g rc)).out d' = (Device.outcome r, d'') ∧ ∃ es, Does es d d'' ∧ Closed es := by
  obtain ⟨r, d1, hout, htrans⟩ := hx d'
  obtain ⟨d2, hout', hdoes, -⟩ := (hopen.trans htrans).deselect
  refine ⟨g r, d2, ?_, hdoes⟩
  rw [Acts.out_bind_ok (Device.out_attempt hout), Acts.out_bind_ok hout', Device.out_ofResult]

theorem closes_within (hx : Transacts x) (hfree : d.held = noneHeld) :
    ∃ r d', Closes (do
      s.moduleSelect
      let rc ← Device.attempt x
      s.moduleDeselect
      Device.ofResult rc) d r d' := by
  rcases select_cases (s := s) hfree with ⟨-, d1, hout, hopen, -⟩ | ⟨-, e, d1, hout, hdoes⟩
  · obtain ⟨r, d2, hout', hdoes⟩ := closes_attempt hx hopen
    exact ⟨r, d2, (Acts.out_bind_ok hout).trans hout', hdoes⟩
  · exact ⟨.error e, d1, Acts.out_bind_error hout, hdoes⟩

/-! ## Transactions one by one -/

/-- The result of operation number `t` if it returns `a` when it does not fail. -/
def resultAt (fault : Nat → Option Errno) (t : Nat) (a : α) : Except Errno α :=
  match fault t with
  | none => .ok a
  | some e => .error e

theorem transaction_cases (f : Cage → α × Cage) (hlog : ∀ c, (f c).2.log = c.log)
    (hpriv : ∀ c, (f c).2.priv = c.priv) (hdevs : ∀ c, (f c).2.sfpDevices = c.sfpDevices)
    (hnext : ∀ c, (f c).2.nextSfpDevice = c.nextSfpDevice) (hpins : ∀ c, (f c).2.pins = c.pins) (d : State) :
    ∃ d', (note .transaction >>= fun _ => Device.access f).out d =
        (Device.outcome (resultAt d.fault d.time (f { d.hw with log := d.hw.log ++ [.transaction] }).1), d') ∧
      Does [.transaction] d d' ∧ d'.time = d.time + 1 ∧
      d'.hw.slaves = if d.fault d.time = none then (f { d.hw with log := d.hw.log ++ [.transaction] }).2.slaves
        else d.hw.slaves := by
  have hout : (note .transaction >>= fun _ => Device.access f).out d =
      (Device.access f).out { d with hw := { d.hw with log := d.hw.log ++ [.transaction] } } := rfl
  rw [hout]
  simp only [Device.access, Acts.out, ExceptT.run, StateT.run, resultAt]
  cases d.fault d.time with
  | none => exact ⟨_, rfl, ⟨⟨rfl, rfl, hlog _⟩, ⟨_, hpriv _⟩, hdevs _, hnext _, congrFun (hpins _) _⟩, rfl, rfl⟩
  | some e => exact ⟨_, rfl, ⟨⟨rfl, rfl, rfl⟩, ⟨_, rfl⟩, rfl, rfl, rfl⟩, rfl, rfl⟩

theorem smbusReadByte_cases (addr : BitVec 16) (cmd : BitVec 32) (d : State) :
    ∃ d', (smbusReadByte addr cmd).out d =
        (Device.outcome (resultAt d.fault d.time ((d.hw.slaves addr).read (cmd.setWidth 8))), d') ∧
      Does [.transaction] d d' ∧ d'.time = d.time + 1 ∧ d'.hw.slaves = d.hw.slaves := by
  obtain ⟨d', hout, hdoes, htime, hslaves⟩ := transaction_cases
    (fun c => ((c.slaves addr).read (cmd.setWidth 8), c)) (fun _ => rfl) (fun _ => rfl) (fun _ => rfl)
    (fun _ => rfl) (fun _ => rfl) d
  exact ⟨d', hout, hdoes, htime, hslaves.trans (ite_self _)⟩

theorem smbusWriteByte_cases (addr : BitVec 16) (cmd : BitVec 32) (buffer : Byte) (d : State) :
    ∃ d', (smbusWriteByte addr cmd buffer).out d = (Device.outcome (resultAt d.fault d.time ()), d') ∧
      Does [.transaction] d d' ∧ d'.time = d.time + 1 ∧
      d'.hw.slaves = if d.fault d.time = none then
          Function.update d.hw.slaves addr ((d.hw.slaves addr).write (cmd.setWidth 8) buffer)
        else d.hw.slaves := by
  obtain ⟨d', hout, hdoes, htime, hslaves⟩ := transaction_cases
    (fun c => ((), { c with
      slaves := Function.update c.slaves addr ((c.slaves addr).write (cmd.setWidth 8) buffer) }))
    (fun _ => rfl) (fun _ => rfl) (fun _ => rfl) (fun _ => rfl) (fun _ => rfl) d
  exact ⟨d', hout, hdoes, htime, hslaves⟩

theorem isPagingSupported_cases (q : Qsfp) (d : State) :
    ∃ r d', q.isPagingSupported.out d = (Device.outcome r, d') ∧ Does [.transaction] d d' ∧
      d'.time = d.time + 1 ∧ d'.hw.slaves = d.hw.slaves ∧
      r = resultAt d.fault d.time (!((d.hw.slaves q.i2cAddr).read 2).getLsbD 2) := by
  obtain ⟨d', hout, hrest⟩ := smbusReadByte_cases q.i2cAddr Qsfp.statusIndicatorOffset d
  refine ⟨_, d', ?_, hrest.1, hrest.2.1, hrest.2.2, rfl⟩
  unfold resultAt at hout ⊢
  cases hfault : d.fault d.time with
  | none =>
      rw [hfault] at hout
      exact Acts.out_bind_ok hout
  | some e =>
      rw [hfault] at hout
      exact Acts.out_bind_error hout

theorem does_transaction (h : Does [.transaction] d d') : Transacted d d' := ⟨1, h⟩

/-! ## Power classes -/

theorem getPriv_out (d : State) : getPriv.out d = (.ok d.hw.priv, d) := rfl

theorem mediaMaxPowerGet_adapter (h : d.hw.priv.modType = .qsaAdapter) :
    Closes q.mediaMaxPowerGet d (.error .enotsup) d := by
  refine ⟨?_, [], Does.refl d, Closed.nil⟩
  rw [Qsfp.mediaMaxPowerGet, Acts.out_bind_ok (getPriv_out d), if_pos h]
  rfl

/-- The read of the power class: the selection fails, or the read fails within it, or it gives the power
class of the module. -/
theorem mediaMaxPowerGet_cases (hfree : d.held = noneHeld) (h : d.hw.priv.modType ≠ .qsaAdapter) :
    (¬ q.sel.SucceedsAt d.fault d.time ∧ ∃ e d', Closes q.mediaMaxPowerGet d (.error e) d') ∨
      (q.sel.SucceedsAt d.fault d.time ∧ d.fault (d.time + q.sel.ops) ≠ none ∧
        ∃ e d', q.mediaMaxPowerGet.out d = (Device.outcome (.error e), d') ∧ Open q.sel d d') ∨
      q.sel.SucceedsAt d.fault d.time ∧ d.fault (d.time + q.sel.ops) = none ∧
        ∃ d', Closes q.mediaMaxPowerGet d
          (.ok (Qsfp.powerOf ((d.hw.slaves q.i2cAddr).read 129),
            Qsfp.softCtrlOf ((d.hw.slaves q.i2cAddr).read 129))) d' := by
  have hbody : q.mediaMaxPowerGet.out d = (do
      q.sel.moduleSelect
      let buf ← smbusReadByte q.i2cAddr Qsfp.extIdentifierOffset
      q.sel.moduleDeselect
      pure (Qsfp.powerOf buf, Qsfp.softCtrlOf buf)).out d := by
    rw [Qsfp.mediaMaxPowerGet, Acts.out_bind_ok (getPriv_out d), if_neg h]
  rcases select_cases (s := q.sel) hfree with ⟨hok, d1, hout1, hopen, htime, hslaves⟩ | ⟨hfail, e, d1, hout1, hdoes⟩
  · right
    obtain ⟨d2, hread, hdoes2, -⟩ := smbusReadByte_cases q.i2cAddr Qsfp.extIdentifierOffset d1
    have hopen2 := hopen.trans (does_transaction hdoes2)
    obtain ⟨n, hn⟩ := id hopen
    rw [hn.fault_eq, htime, hslaves, resultAt] at hread
    cases hfault : d.fault (d.time + q.sel.ops) with
    | some e =>
        rw [hfault] at hread
        exact .inl ⟨hok, by simp, e, d2, hbody.trans ((Acts.out_bind_ok hout1).trans
          (Acts.out_bind_error hread)), hopen2⟩
    | none =>
        rw [hfault] at hread
        obtain ⟨d3, hout3, hdoes3, -⟩ := hopen2.deselect
        refine .inr ⟨hok, rfl, d3, hbody.trans ?_, hdoes3⟩
        rw [Acts.out_bind_ok hout1, Acts.out_bind_ok hread, Acts.out_bind_ok hout3]
        rfl
  · exact .inl ⟨hfail, e, d1, hbody.trans (Acts.out_bind_error hout1), hdoes⟩

theorem mediaForcePowerModeSet_closes (state : Bool) (hfree : d.held = noneHeld) :
    ∃ r d', Closes (q.mediaForcePowerModeSet state) d r d' := by
  by_cases h : d.hw.priv.modType = .qsaAdapter
  · refine ⟨.error .enotsup, d, ?_, [], Does.refl d, Closed.nil⟩
    rw [Qsfp.mediaForcePowerModeSet, Acts.out_bind_ok (getPriv_out d), if_pos h]
    rfl
  · obtain ⟨r, d', hout, hdoes⟩ := closes_within (s := q.sel) (Transacts.setPowerClassControl (q := q) state)
      hfree
    refine ⟨r, d', ?_, hdoes⟩
    rw [Qsfp.mediaForcePowerModeSet, Acts.out_bind_ok (getPriv_out d), if_neg h]
    exact hout

/-! ## Raw access -/

theorem sfpAccessGeneric_closes (sfp : Sfp) (addr : EepromAddr) {transfer : BitVec 16 → M α}
    (hx : ∀ a, Transacts (transfer a)) (hfree : d.held = noneHeld) :
    ∃ r d', Closes (sfp.accessGeneric addr transfer) d r d' := by
  unfold Sfp.accessGeneric
  split
  · exact ⟨.error .einval, d, rfl, [], Does.refl d, Closed.nil⟩
  · exact closes_within (hx _) hfree

variable (q) in
/-- Raw access is closed, or its first event is a transaction. -/
theorem accessGeneric_cases (addr : EepromAddr) {transfer : BitVec 16 → M α}
    (hx : ∀ a, Transacts (transfer a)) (hfree : d.held = noneHeld)
    (hsfp : d.hw.priv.modType = .qsaAdapter → d.hw.priv.sfpDevice ≠ none) :
    if d.hw.priv.modType = .qsaAdapter ∨ addr.deviceAddr < -1 ∨ addr.page < 0 then
      ∃ r d', Closes (q.accessGeneric addr transfer) d r d'
    else
      ∃ r d' es, (q.accessGeneric addr transfer).out d = (Device.outcome r, d') ∧
        Does (.transaction :: es) d d' := by
  unfold Qsfp.accessGeneric Closes
  rw [Acts.out_bind_ok (getPriv_out d)]
  by_cases hqsa : d.hw.priv.modType = .qsaAdapter
  · simp only [hqsa, ↓reduceIte, true_or]
    obtain ⟨r, d', hout, hdoes⟩ := sfpAccessGeneric_closes q.sfp addr hx hfree
    have hassert : (Device.assert (d.hw.priv.sfpDevice ≠ none) : M Unit).out d = (.ok (), d) := by
      simp only [Device.assert, Acts.out, ExceptT.run, StateT.run, hsfp hqsa, ↓reduceIte, not_false_eq_true,
        ne_eq]
    rw [Acts.out_bind_ok hassert]
    cases r with
    | ok a => exact ⟨.ok (some a), d', Acts.out_bind_ok hout, hdoes⟩
    | error e => exact ⟨.error e, d', Acts.out_bind_error hout, hdoes⟩
  · by_cases hdev : addr.deviceAddr < -1
    · simp only [hqsa, hdev, mediaDeviceAddrAuto, ↓reduceIte, true_or, or_true]
      exact ⟨.error .einval, d, rfl, [], Does.refl d, Closed.nil⟩
    · by_cases hpage : addr.page < -1
      · have hneg : addr.page < 0 := by omega
        simp only [hqsa, hdev, hpage, hneg, mediaDeviceAddrAuto, mediaPageSelectIgnore, ↓reduceIte, or_true]
        exact ⟨.error .einval, d, rfl, [], Does.refl d, Closed.nil⟩
      · by_cases hignore : addr.page = -1
        · simp only [hqsa, hdev, hignore, mediaDeviceAddrAuto, mediaPageSelectIgnore, ↓reduceIte,
            Int.lt_irrefl]
          exact closes_within (Transacts.transferOnPage _ _ (hx _)) hfree
        · have hnonneg : ¬ addr.page < 0 := by omega
          simp only [hqsa, hdev, hpage, hignore, hnonneg, mediaDeviceAddrAuto, mediaPageSelectIgnore,
            ↓reduceIte, or_self]
          obtain ⟨paging, d1, hout1, hdoes1, -⟩ := isPagingSupported_cases q d
          have hfree1 : d1.held = noneHeld := hdoes1.held_eq.trans hfree
          obtain ⟨r, d', hout, es, hdoes, -⟩ := closes_within (s := q.sel)
            (Transacts.transferOnPage (q := q) addr.page (paging.toOption.getD false) (hx _)) hfree1
          refine ⟨r, d', es, ?_, hdoes1.trans hdoes⟩
          rw [Acts.out_bind_ok (Device.out_attempt hout1)]
          exact hout

/-! ## Parameters -/

section

variable {sfp : Sfp} {param : MediaParamType}

theorem deselect_fail (hopen : Open s d d') (e : Errno) :
    ∃ d'', (do
      s.moduleDeselect
      Device.fail e : M α).out d' = (Device.outcome (.error e), d'') ∧ ∃ es, Does es d d'' ∧ Closed es := by
  obtain ⟨d'', hout, hdoes, -⟩ := hopen.deselect
  exact ⟨d'', Acts.out_bind_ok hout, hdoes⟩

/-- The wavelength of a tunable module: closed unless a read of it fails once its page is selected. -/
theorem tunedWavelengthGet_cases (hopen : Open sfp.sel d d') :
    if d.fault d'.time = none ∧ (d.fault (d'.time + 1) ≠ none ∨ d.fault (d'.time + 2) ≠ none) then
      ∃ e d'', (sfp.tunedWavelengthGet param).out d' = (Device.outcome (.error e), d'') ∧ Open sfp.sel d d''
    else
      ∃ r d'', (sfp.tunedWavelengthGet param).out d' = (Device.outcome r, d'') ∧
        ∃ es, Does es d d'' ∧ Closed es := by
  obtain ⟨n, hn⟩ := id hopen
  obtain ⟨d1, hout1, hdoes1, htime1, -⟩ := smbusWriteByte_cases Sfp.sfpI2cAddr Sfp.pageSelectByteOffset
    Sfp.tunablePage d'
  have hopen1 := hopen.trans (does_transaction hdoes1)
  obtain ⟨d2, hout2, hdoes2, htime2, -⟩ := smbusReadByte_cases Sfp.sfpI2cAddr Sfp.wavelengthSetOffset d1
  have hopen2 := hopen1.trans (does_transaction hdoes2)
  obtain ⟨d3, hout3, hdoes3, -⟩ := smbusReadByte_cases Sfp.sfpI2cAddr (Sfp.wavelengthSetOffset + 1) d2
  have hopen3 := hopen2.trans (does_transaction hdoes3)
  rw [hn.fault_eq, show smbusWriteByte Sfp.sfpI2cAddr Sfp.pageSelectByteOffset Sfp.tunablePage =
    Sfp.pageSelect Sfp.tunablePage from rfl] at hout1
  rw [hdoes1.fault_eq, hn.fault_eq, htime1] at hout2
  rw [hdoes2.fault_eq, hdoes1.fault_eq, hn.fault_eq, htime2, htime1] at hout3
  unfold Sfp.tunedWavelengthGet
  rw [Acts.out_bind_ok (Device.out_attempt hout1)]
  unfold resultAt at hout2 hout3 ⊢
  cases hpage : d.fault d'.time with
  | some e =>
      rw [if_neg (by simp)]
      obtain ⟨d4, hout4, hdoes4⟩ := deselect_fail hopen1 e
      exact ⟨.error e, d4, hout4, hdoes4⟩
  | none =>
      simp only [true_and]
      cases hhigh : d.fault (d'.time + 1) with
      | some e =>
          rw [hhigh] at hout2
          rw [if_pos (by simp)]
          exact ⟨e, d2, Acts.out_bind_error hout2, hopen2⟩
      | none =>
          rw [hhigh] at hout2
          rw [Acts.out_bind_ok hout2]
          cases hlow : d.fault (d'.time + 2) with
          | some e =>
              rw [hlow] at hout3
              rw [if_pos (by simp)]
              exact ⟨e, d3, Acts.out_bind_error hout3, hopen3⟩
          | none =>
              rw [hlow] at hout3
              rw [if_neg (by simp), Acts.out_bind_ok hout3]
              exact closes_attempt (Transacts.sfpPageSelect Sfp.defaultPage) hopen3

/-- What `parameterGet` does once it knows whether the module is tunable. -/
theorem parameterGet_tail (hopen : Open sfp.sel d d') (tunable : Prop) [Decidable tunable] (offset : BitVec 32)
    (size : Nat) :
    if tunable ∧ d.fault d'.time = none ∧ (d.fault (d'.time + 1) ≠ none ∨ d.fault (d'.time + 2) ≠ none) then
      ∃ e d'', (if tunable then sfp.tunedWavelengthGet param else do
        let rc ← Device.attempt (sfp.readRegister offset size)
        sfp.sel.moduleDeselect
        Device.ofResult rc).out d' = (Device.outcome (.error e), d'') ∧ Open sfp.sel d d''
    else
      ∃ r d'', (if tunable then sfp.tunedWavelengthGet param else do
        let rc ← Device.attempt (sfp.readRegister offset size)
        sfp.sel.moduleDeselect
        Device.ofResult rc).out d' = (Device.outcome r, d'') ∧ ∃ es, Does es d d'' ∧ Closed es := by
  by_cases htune : tunable
  · simp only [htune, true_and, ↓reduceIte]
    exact tunedWavelengthGet_cases hopen
  · simp only [htune, false_and, ↓reduceIte]
    exact closes_attempt (Transacts.readRegister offset size) hopen

theorem isWavelengthTuneSupported_cases (sfp : Sfp) (d : State) :
    ∃ d', sfp.isWavelengthTuneSupported.out d = (Device.outcome (resultAt d.fault d.time
        (decide ((d.hw.slaves sfp.i2cAddr).read 65 &&& Sfp.tunableSupportBitmask ≠ 0))), d') ∧
      Does [.transaction] d d' ∧ d'.time = d.time + 1 := by
  obtain ⟨d', hout, hdoes, htime, -⟩ := smbusReadByte_cases sfp.i2cAddr Sfp.options2Offset d
  refine ⟨d', ?_, hdoes, htime⟩
  unfold resultAt at hout ⊢
  cases hfault : d.fault d.time with
  | none =>
      rw [hfault] at hout
      exact Acts.out_bind_ok hout
  | some e =>
      rw [hfault] at hout
      exact Acts.out_bind_error hout

theorem cases_of_ite {C C' A B : Prop} [Decidable C'] (h : C ↔ C') (hcases : if C' then A else B) :
    C ∧ A ∨ ¬ C ∧ B := by
  by_cases hC : C'
  · rw [if_pos hC] at hcases
    exact .inl ⟨h.mpr hC, hcases⟩
  · rw [if_neg hC] at hcases
    exact .inr ⟨fun hc => hC (h.mp hc), hcases⟩

variable (sfp param) in
/-- A parameter is read within one selection, unless the wavelength of a tunable module is unreadable. -/
theorem parameterGet_cases (hfree : d.held = noneHeld) :
    (sfp.WavelengthReadFails d (d.hw.slaves sfp.i2cAddr) param ∧
      ∃ e d', (sfp.parameterGet param).out d = (Device.outcome (.error e), d') ∧ Open sfp.sel d d') ∨
    ¬ sfp.WavelengthReadFails d (d.hw.slaves sfp.i2cAddr) param ∧
      ∃ r d', Closes (sfp.parameterGet param) d r d' := by
  unfold Sfp.parameterGet Closes
  dsimp only
  split
  · rename_i hzero
    refine .inr ⟨fun ⟨_, hparam, _⟩ => ?_, .error .eopnotsupp, d, rfl, [], Does.refl d, Closed.nil⟩
    rcases hparam with rfl | ⟨rfl, -⟩ <;> exact absurd hzero (by decide)
  rcases select_cases (s := sfp.sel) hfree with ⟨hok, d1, hout1, hopen1, htime1, hslaves1⟩ | ⟨hfail, e, d1, hout1, hdoes⟩
  · obtain ⟨n, hn⟩ := id hopen1
    rw [Acts.out_bind_ok hout1]
    by_cases hwave : param = .wavelength
    · obtain ⟨d2, hout2, hdoes2, htime2⟩ := isWavelengthTuneSupported_cases sfp d1
      have hopen2 := hopen1.trans (does_transaction hdoes2)
      rw [hn.fault_eq, htime1, hslaves1] at hout2
      rw [if_pos hwave, Acts.out_bind_ok (Device.out_attempt hout2)]
      unfold resultAt
      cases hstatus : d.fault (d.time + sfp.sel.ops) with
      | some e =>
          obtain ⟨d3, hout3, hdoes3⟩ := deselect_fail hopen2 e
          refine .inr ⟨?_, .error e, d3, hout3, hdoes3⟩
          rintro ⟨-, rfl | ⟨-, hnone, -⟩, -⟩
          · cases hwave
          · rw [hstatus] at hnone
            cases hnone
      | none =>
          have hfails : sfp.WavelengthReadFails d (d.hw.slaves sfp.i2cAddr) param ↔
              (param = .tuneWavelengthPicoMeters ∨
                decide ((d.hw.slaves sfp.i2cAddr).read 65 &&& Sfp.tunableSupportBitmask ≠ 0) = true) ∧
              d.fault d2.time = none ∧ (d.fault (d2.time + 1) ≠ none ∨ d.fault (d2.time + 2) ≠ none) := by
            simp only [Sfp.WavelengthReadFails, hok, hwave, hstatus, true_and, ↓reduceIte, htime2, htime1,
              decide_eq_true_eq]
          exact cases_of_ite hfails (parameterGet_tail hopen2 _ _ _)
    · have hstatus : (pure false : M Bool).out d1 = (Device.outcome (.ok false), d1) := rfl
      rw [if_neg hwave, Acts.out_bind_ok (Device.out_attempt hstatus)]
      have hfails : sfp.WavelengthReadFails d (d.hw.slaves sfp.i2cAddr) param ↔
          (param = .tuneWavelengthPicoMeters ∨ false = true) ∧
          d.fault d1.time = none ∧ (d.fault (d1.time + 1) ≠ none ∨ d.fault (d1.time + 2) ≠ none) := by
        simp only [Sfp.WavelengthReadFails, hok, hwave, true_and, false_and, ↓reduceIte, htime1,
          Bool.false_eq_true]
      exact cases_of_ite hfails (parameterGet_tail hopen1 _ _ _)
  · exact .inr ⟨fun ⟨hok, _⟩ => hfail hok, .error e, d1, Acts.out_bind_error hout1, hdoes⟩

end

end OpxSdi.Media
