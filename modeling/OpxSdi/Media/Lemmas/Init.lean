import OpxSdi.Media.Lemmas.Window

/-!
# The initialisation of a module

What `sdi_qsfp_module_init` does in a state in which no lock is held, case by case: the locks and the log,
the adapter, and the power class that it stores.
-/

namespace OpxSdi.Media

open Lib

variable {d d' d'' : State} {es : List Event} {s : Selection} {q : Qsfp}

structure KeepsAdapter (d d' : State) : Prop where
  modType_eq : d'.hw.priv.modType = d.hw.priv.modType
  sfpDevice_eq : d'.hw.priv.sfpDevice = d.hw.priv.sfpDevice
  sfpDevices_eq : d'.hw.sfpDevices = d.hw.sfpDevices
  nextSfpDevice_eq : d'.hw.nextSfpDevice = d.hw.nextSfpDevice

theorem KeepsAdapter.trans (h : KeepsAdapter d d') (h' : KeepsAdapter d' d'') : KeepsAdapter d d'' :=
  ⟨h'.modType_eq.trans h.modType_eq, h'.sfpDevice_eq.trans h.sfpDevice_eq,
    h'.sfpDevices_eq.trans h.sfpDevices_eq, h'.nextSfpDevice_eq.trans h.nextSfpDevice_eq⟩

theorem Does.keepsAdapter (h : Does es d d') : KeepsAdapter d d' :=
  ⟨h.modType_eq, h.sfpDevice_eq, h.sfpDevices_eq, h.nextSfpDevice_eq⟩

def QsfpDevice.powerInfo (p : QsfpDevice) : Int × Bool := (p.maxModulePowerMw, p.softwareControlledPowerMode)

theorem Does.powerInfo_eq (h : Does es d d') : d'.hw.priv.powerInfo = d.hw.priv.powerInfo := by
  obtain ⟨v, hv⟩ := h.priv_eq
  rw [hv]
  rfl

def State.withPriv (d : State) (p : QsfpDevice) : State := { d with hw := { d.hw with priv := p } }

theorem modifyPriv_out (f : QsfpDevice → QsfpDevice) (d : State) :
    (modifyPriv f).out d = (.ok (), d.withPriv (f d.hw.priv)) := rfl

theorem Logs.withPriv (h : Logs es d d') (p : QsfpDevice) : Logs es d (d'.withPriv p) :=
  ⟨h.held_eq, h.fault_eq, h.log_eq⟩

theorem Closes.held_eq {α : Type} {x : M α} {r : Except Errno α} (h : Closes x d r d')
    (hfree : d.held = noneHeld) : d'.held = noneHeld := by
  obtain ⟨-, es, hdoes, hclosed⟩ := h
  rw [hdoes.held_eq, hfree, hclosed.replay_eq]

/-! ## The power class -/

/-- The power class that a read at this moment stores. -/
def Qsfp.readPowerInfo (q : Qsfp) (d : State) : Int × Bool :=
  if q.sel.SucceedsAt d.fault d.time ∧ d.fault (d.time + q.sel.ops) = none then
    (powerOf ((d.hw.slaves q.i2cAddr).read 129), softCtrlOf ((d.hw.slaves q.i2cAddr).read 129))
  else (mediaNoMaxPowerDefined, false)

theorem storePower_out (info : Int × Bool) (d : State) :
    ∃ d', (Qsfp.storePower info).out d = (.ok (), d') ∧ KeepsAdapter d d' ∧ d'.hw.priv.powerInfo = info ∧
      Logs [] d d' :=
  ⟨_, modifyPriv_out _ d, ⟨rfl, rfl, rfl, rfl⟩, rfl, (Logs.refl d).withPriv _⟩

/-- A read of the power class is closed, or left open where the read fails within its selection. -/
theorem moduleInfoUpdate_cases (hfree : d.held = noneHeld) (hqsa : d.hw.priv.modType ≠ .qsaAdapter) :
    ∃ d', q.moduleInfoUpdate.out d = (.ok (), d') ∧ KeepsAdapter d d' ∧
      d'.hw.priv.powerInfo = q.readPowerInfo d ∧
      ((q.sel.ReadFailsAt d.fault d.time ∧ ∃ n, Logs (q.sel.opening ++ List.replicate n .transaction) d d') ∨
        ¬ q.sel.ReadFailsAt d.fault d.time ∧ ∃ es, Logs es d d' ∧ Closed es) := by
  unfold Qsfp.moduleInfoUpdate
  rcases mediaMaxPowerGet_cases (q := q) hfree hqsa with
    ⟨hfail, e, d1, hout, es, hdoes, hclosed⟩ | ⟨hok, hfault, e, d1, hout, n, hn⟩ | ⟨hok, hnone, d1, hcloses⟩
  · obtain ⟨d2, hout2, hkeeps, hinfo, hlogs⟩ := storePower_out (mediaNoMaxPowerDefined, false) d1
    rw [Acts.out_bind_ok (Device.out_attempt hout)]
    exact ⟨d2, hout2, hdoes.keepsAdapter.trans hkeeps, hinfo.trans (if_neg fun h => hfail h.1).symm,
      .inr ⟨fun h => hfail h.1, es ++ [], hdoes.toLogs.trans hlogs, hclosed.append Closed.nil⟩⟩
  · obtain ⟨d2, hout2, hkeeps, hinfo, hlogs⟩ := storePower_out (mediaNoMaxPowerDefined, false) d1
    have hopen := hn.toLogs.trans hlogs
    rw [List.append_nil] at hopen
    rw [Acts.out_bind_ok (Device.out_attempt hout)]
    exact ⟨d2, hout2, hn.keepsAdapter.trans hkeeps, hinfo.trans (if_neg fun h => hfault h.2).symm,
      .inl ⟨⟨hok, hfault⟩, n, hopen⟩⟩
  · obtain ⟨hout, es, hdoes, hclosed⟩ := id hcloses
    obtain ⟨d2, hout2, hkeeps, hinfo, hlogs⟩ := storePower_out
      (Qsfp.powerOf ((d.hw.slaves q.i2cAddr).read 129), Qsfp.softCtrlOf ((d.hw.slaves q.i2cAddr).read 129)) d1
    have hkeeps2 := hdoes.keepsAdapter.trans hkeeps
    have hlogs2 := hdoes.toLogs.trans hlogs
    have hclosed2 := hclosed.append Closed.nil
    have hinfo2 : d2.hw.priv.powerInfo = q.readPowerInfo d := hinfo.trans (if_pos ⟨hok, hnone⟩).symm
    have hread : ¬ q.sel.ReadFailsAt d.fault d.time := fun h => h.2 hnone
    rw [Acts.out_bind_ok (Device.out_attempt hout)]
    dsimp only
    rw [Acts.out_bind_ok hout2]
    cases Qsfp.softCtrlOf ((d.hw.slaves q.i2cAddr).read 129) with
    | false => exact ⟨d2, rfl, hkeeps2, hinfo2, .inr ⟨hread, es ++ [], hlogs2, hclosed2⟩⟩
    | true =>
        have hfree2 : d2.held = noneHeld := by rw [hlogs2.held_eq, hfree, hclosed2.replay_eq]
        obtain ⟨r, d3, hout3, fs, hdoes3, hclosed3⟩ := mediaForcePowerModeSet_closes (q := q) false hfree2
        refine ⟨d3, ?_, hkeeps2.trans hdoes3.keepsAdapter, hdoes3.powerInfo_eq.trans hinfo2,
          .inr ⟨hread, (es ++ []) ++ fs, hlogs2.trans hdoes3.toLogs, hclosed2.append hclosed3⟩⟩
        rw [if_pos rfl, Acts.out_bind_ok (Device.out_attempt hout3)]
        rfl

/-! ## The default page -/

theorem pageSelect_cases (q : Qsfp) (page : Int) (d : State) :
    ∃ r d', (q.pageSelect page).out d = (Device.outcome r, d') ∧ Transacted d d' ∧
      (d'.time = d.time + if d.fault d.time ≠ none ∨ (d.hw.slaves q.i2cAddr).FlatMem then 1 else 2) ∧
      d'.hw.slaves =
        if d.fault d.time = none ∧ ¬ (d.hw.slaves q.i2cAddr).FlatMem ∧ d.fault (d.time + 1) = none then
          Function.update d.hw.slaves q.i2cAddr ((d.hw.slaves q.i2cAddr).write 127 (BitVec.ofInt 8 page))
        else d.hw.slaves := by
  obtain ⟨d1, hout1, hdoes1, htime1, hslaves1⟩ := smbusReadByte_cases q.i2cAddr Qsfp.statusIndicatorOffset d
  unfold Qsfp.pageSelect
  unfold resultAt at hout1
  cases hfault : d.fault d.time with
  | some e =>
      rw [hfault] at hout1
      exact ⟨.error e, d1, Acts.out_bind_error hout1, does_transaction hdoes1, by simpa using htime1,
        by simpa using hslaves1⟩
  | none =>
      rw [hfault] at hout1
      rw [Acts.out_bind_ok hout1]
      by_cases hflat : (d.hw.slaves q.i2cAddr).FlatMem
      · rw [if_pos (show ((d.hw.slaves q.i2cAddr).read (Qsfp.statusIndicatorOffset.setWidth 8)).getLsbD
          Qsfp.flatMemBitOffset = true from hflat)]
        exact ⟨.error .enotsup, d1, rfl, does_transaction hdoes1, by simpa [hflat] using htime1,
          by simpa [hflat] using hslaves1⟩
      · rw [if_neg (show ¬ ((d.hw.slaves q.i2cAddr).read (Qsfp.statusIndicatorOffset.setWidth 8)).getLsbD
          Qsfp.flatMemBitOffset = true from hflat)]
        obtain ⟨d2, hout2, hdoes2, htime2, hslaves2⟩ :=
          smbusWriteByte_cases q.i2cAddr Qsfp.pageSelectByteOffset (BitVec.ofInt 8 page) d1
        refine ⟨_, d2, hout2, (does_transaction hdoes1).trans _ _ _ (does_transaction hdoes2), ?_, ?_⟩
        · simp only [htime2, htime1, hflat, ne_eq, not_true_eq_false, or_self, ↓reduceIte]
        · rw [hslaves2, hdoes1.fault_eq, htime1, hslaves1]
          simp only [hflat, not_false_eq_true, true_and]
          rfl

/-- The memory of a module after the selection of the default page that starts with operation number
`t`. -/
def defaultPaged (e : Eeprom) (fault : Nat → Option Errno) (t : Nat) : Eeprom :=
  if fault t = none ∧ ¬ e.FlatMem ∧ fault (t + 1) = none ∧ fault (t + 2) = none then e.write 127 0 else e

theorem defaultPageSelect_cases (q : Qsfp) (d : State) :
    ∃ r d', q.defaultPageSelect.out d = (Device.outcome r, d') ∧ Transacted d d' ∧
      d'.time = d.time + defaultPageOps (d.hw.slaves q.i2cAddr) d.fault d.time ∧
      d'.hw.slaves =
        Function.update d.hw.slaves q.i2cAddr (defaultPaged (d.hw.slaves q.i2cAddr) d.fault d.time) := by
  obtain ⟨r1, d1, hout1, hdoes1, htime1, hslaves1, rfl⟩ := isPagingSupported_cases q d
  unfold Qsfp.defaultPageSelect defaultPageOps defaultPaged
  rw [Acts.out_bind_ok (Device.out_attempt hout1)]
  unfold resultAt
  cases hfault : d.fault d.time with
  | some e => exact ⟨.ok (), d1, rfl, does_transaction hdoes1, by simpa using htime1, by simpa using hslaves1⟩
  | none =>
      by_cases hflat : (d.hw.slaves q.i2cAddr).FlatMem
      · have hread : ((d.hw.slaves q.i2cAddr).read 2).getLsbD 2 = true := hflat
        rw [hread]
        exact ⟨.ok (), d1, rfl, does_transaction hdoes1, by simpa [hflat] using htime1,
          by simpa [hflat] using hslaves1⟩
      · have hread : ((d.hw.slaves q.i2cAddr).read 2).getLsbD 2 = false := Bool.eq_false_iff.mpr hflat
        rw [hread]
        obtain ⟨r2, d2, hout2, htrans2, htime2, hslaves2⟩ := pageSelect_cases q mediaPageDefault d1
        rw [hdoes1.fault_eq, htime1, hslaves1] at htime2 hslaves2
        refine ⟨r2, d2, hout2, (does_transaction hdoes1).trans _ _ _ htrans2, ?_, ?_⟩
        · rw [htime2]
          simp only [hflat, or_false, ne_eq, not_true_eq_false, ↓reduceIte]
          split <;> omega
        · rw [hslaves2]
          simp only [hflat, not_false_eq_true, true_and]
          split
          · rfl
          · exact (Function.update_eq_self _ _).symm

/-! ## By the kind of the module -/

/-- Since `d` the module has been selected and not been deselected, whatever was stored since. -/
def Begun (s : Selection) (d d' : State) : Prop :=
  ∃ n, Logs (s.opening ++ List.replicate n .transaction) d d'

/-- The events since `d` are closed. -/
def Ended (d d' : State) : Prop := ∃ es, Logs es d d' ∧ Closed es

theorem Begun.trans (h : Begun s d d') (h' : Transacted d' d'') : Begun s d d'' := by
  obtain ⟨n, hn⟩ := h
  obtain ⟨m, hm⟩ := h'
  have hlogs := hn.trans hm.toLogs
  rw [List.append_assoc, List.replicate_append_replicate] at hlogs
  exact ⟨n + m, hlogs⟩

theorem Begun.deselect (h : Begun s d d') :
    ∃ d'', s.moduleDeselect.out d' = (.ok (), d'') ∧ Does s.closing d' d'' ∧ Ended d d'' ∧
      d''.time = d'.time ∧ d''.hw.slaves = d'.hw.slaves := by
  obtain ⟨n, hn⟩ := h
  obtain ⟨-, d'', hout, hdoes, htime, hslaves⟩ := Selection.moduleDeselect_succeeds (s := s) d'
  exact ⟨d'', hout, hdoes, ⟨_, hn.trans hdoes.toLogs, s.closed_window n⟩, htime, hslaves⟩

theorem Ended.held_eq (h : Ended d d') (hfree : d.held = noneHeld) : d'.held = noneHeld := by
  obtain ⟨es, hlogs, hclosed⟩ := h
  rw [hlogs.held_eq, hfree, hclosed.replay_eq]

theorem Ended.trans (h : Ended d d') (h' : Ended d' d'') : Ended d d'' := by
  obtain ⟨es, hlogs, hclosed⟩ := h
  obtain ⟨fs, hlogs', hclosed'⟩ := h'
  exact ⟨es ++ fs, hlogs.trans hlogs', hclosed.append hclosed'⟩

variable {b : Byte}

theorem initByKind_adapter (hbegun : Begun q.sel d d') (h : d'.hw.priv.modType = .qsaAdapter) :
    ∃ d'', (q.initByKind b).out d' = (.ok (), d'') ∧ Ended d d'' ∧
      d''.hw.priv.modType = .qsaAdapter ∧ d''.hw.priv.sfpDevice = some d'.hw.nextSfpDevice ∧
      d''.hw.sfpDevices = d'.hw.nextSfpDevice :: d'.hw.sfpDevices ∧
      d''.hw.nextSfpDevice = d'.hw.nextSfpDevice + 1 ∧ d''.hw.priv.powerInfo = d'.hw.priv.powerInfo := by
  obtain ⟨n, hn⟩ := hbegun
  obtain ⟨d1, halloc⟩ : ∃ d1, Qsfp.allocSfpDevice.out d' = (.ok (), d1) := ⟨_, rfl⟩
  have hd1 : d1 = (Qsfp.allocSfpDevice.out d').2 := by rw [halloc]
  have hbegun1 : Begun q.sel d d1 := ⟨n, by rw [hd1]; exact ⟨hn.held_eq, hn.fault_eq, hn.log_eq⟩⟩
  obtain ⟨d2, hout2, hdoes2, hended, -⟩ := hbegun1.deselect
  refine ⟨d2, ?_, hended, ?_, ?_, ?_, ?_, ?_⟩
  · rw [Qsfp.initByKind, Acts.out_bind_ok (getPriv_out d'), if_pos h, Acts.out_bind_ok halloc, hout2]
  · rw [hdoes2.modType_eq, hd1]
    exact h
  · rw [hdoes2.sfpDevice_eq, hd1]
    rfl
  · rw [hdoes2.sfpDevices_eq, hd1]
    rfl
  · rw [hdoes2.nextSfpDevice_eq, hd1]
    rfl
  · rw [hdoes2.powerInfo_eq, hd1]
    rfl

theorem initByKind_dd (hbegun : Begun q.sel d d') (h : d'.hw.priv.modType ≠ .qsaAdapter) :
    ∃ r d'', (q.initByKind 0x18).out d' = (Device.outcome r, d'') ∧ Ended d d'' ∧ KeepsAdapter d' d'' ∧
      d''.hw.priv.powerInfo = d'.hw.priv.powerInfo := by
  obtain ⟨r1, d1, hout1, htrans1⟩ := Transacts.defaultPageSelect (q := q) d'
  obtain ⟨r2, d2, hout2, htrans2⟩ := Transacts.datapathPowerup (q := q) d1
  obtain ⟨d3, hout3, hdoes3, hended, -⟩ := ((hbegun.trans htrans1).trans htrans2).deselect
  obtain ⟨n, hn⟩ := htrans1.trans _ _ _ htrans2
  have hdoes := hn.trans hdoes3
  refine ⟨r2, d3, ?_, hended, hdoes.keepsAdapter, hdoes.powerInfo_eq⟩
  rw [Qsfp.initByKind, Acts.out_bind_ok (getPriv_out d'), if_neg h,
    Acts.out_bind_ok (Device.out_attempt hout1), if_pos rfl, Acts.out_bind_ok (Device.out_attempt hout2),
    Acts.out_bind_ok hout3, Device.out_ofResult]

/-- A module of another kind is deselected, and its power class is then read in a selection of its own. -/
theorem initByKind_plain (hfree : d.held = noneHeld) (hbegun : Begun q.sel d d')
    (h : d'.hw.priv.modType ≠ .qsaAdapter) (hb : b ≠ 0x18) :
    ∃ r d1 d'', (q.initByKind b).out d' = (Device.outcome r, d'') ∧ KeepsAdapter d' d'' ∧
      Ended d d1 ∧ d1.fault = d'.fault ∧
      d1.time = d'.time + defaultPageOps (d'.hw.slaves q.i2cAddr) d'.fault d'.time ∧
      d1.hw.slaves q.i2cAddr = defaultPaged (d'.hw.slaves q.i2cAddr) d'.fault d'.time ∧
      d''.hw.priv.powerInfo = q.readPowerInfo d1 ∧
      ((q.sel.ReadFailsAt d1.fault d1.time ∧ Begun q.sel d1 d'') ∨
        ¬ q.sel.ReadFailsAt d1.fault d1.time ∧ Ended d1 d'') := by
  obtain ⟨r1, d1, hout1, htrans1, htime1, hslaves1⟩ := defaultPageSelect_cases q d'
  obtain ⟨d2, hout2, hdoes2, hended, htime2, hslaves2⟩ := (hbegun.trans htrans1).deselect
  obtain ⟨n, hn⟩ := htrans1
  have hdoes := hn.trans hdoes2
  obtain ⟨d3, hout3, hkeeps3, hinfo3, hcases⟩ := moduleInfoUpdate_cases (q := q) (hended.held_eq hfree)
    (by rw [hdoes.modType_eq]; exact h)
  refine ⟨r1, d2, d3, ?_, hdoes.keepsAdapter.trans hkeeps3, hended, hdoes.fault_eq, htime2.trans htime1, ?_,
    hinfo3, hcases⟩
  · rw [Qsfp.initByKind, Acts.out_bind_ok (getPriv_out d'), if_neg h,
      Acts.out_bind_ok (Device.out_attempt hout1), if_neg hb, Acts.out_bind_ok hout2, Acts.out_bind_ok hout3,
      Device.out_ofResult]
  · rw [hslaves2, hslaves1, Function.update_self]

/-! ## The whole initialisation -/

theorem moduleInit_false (q : Qsfp) (d : State) :
    ∃ d', (q.moduleInit false).out d = (.ok (), d') ∧ Logs [] d d' ∧
      d'.hw.priv.modType = .mediaDefault ∧
      d'.hw.priv.powerInfo = d.hw.priv.powerInfo ∧ d'.hw.nextSfpDevice = d.hw.nextSfpDevice ∧
      if d.hw.priv.modType = .qsaAdapter then
        d'.hw.priv.sfpDevice = none ∧
          d'.hw.sfpDevices = d.hw.sfpDevices.filter fun s => d.hw.priv.sfpDevice ≠ some s
      else d'.hw.priv.sfpDevice = d.hw.priv.sfpDevice ∧ d'.hw.sfpDevices = d.hw.sfpDevices := by
  refine ⟨((q.moduleInit false).out d).2, rfl, ?_⟩
  have hout : (q.moduleInit false).out d =
      Qsfp.removeModule.out (d.withPriv { d.hw.priv with eepromVersion := 0 }) := rfl
  rw [hout]
  unfold Qsfp.removeModule Device.internal State.withPriv
  simp only [Acts.out, ExceptT.run, StateT.run]
  cases hmod : d.hw.priv.modType with
  | qsaAdapter => exact ⟨⟨rfl, rfl, (List.append_nil _).symm⟩, rfl, rfl, rfl, rfl, rfl⟩
  | mediaDefault => exact ⟨⟨rfl, rfl, (List.append_nil _).symm⟩, rfl, rfl, rfl, rfl, rfl⟩

/-- The cage when the selection of an initialisation begins. -/
def State.cleared (d : State) : State := d.withPriv { d.hw.priv with eepromVersion := 0 }

section

variable {e : Errno} {d1 d2 : State} {b : Byte}

theorem moduleInit_unselected (hsel : q.sel.moduleSelect.out d.cleared = (Device.outcome (.error e), d1)) :
    (q.moduleInit true).out d = (Device.outcome (.error e), d1) := by
  rw [Qsfp.moduleInit, Acts.out_bind_ok (modifyPriv_out _ d), if_neg (by decide)]
  exact Acts.out_bind_error hsel

theorem moduleInit_unread (hsel : q.sel.moduleSelect.out d.cleared = (.ok (), d1))
    (hread : (smbusReadByte q.i2cAddr Qsfp.identifierOffset).out d1 = (Device.outcome (.error e), d2)) :
    (q.moduleInit true).out d = (q.sel.moduleDeselect >>= fun _ => (Device.fail e : M Unit)).out d2 := by
  rw [Qsfp.moduleInit, Acts.out_bind_ok (modifyPriv_out _ d), if_neg (by decide)]
  exact (Acts.out_bind_ok hsel).trans (Acts.out_bind_ok (Device.out_attempt hread))

theorem moduleInit_read (hsel : q.sel.moduleSelect.out d.cleared = (.ok (), d1))
    (hread : (smbusReadByte q.i2cAddr Qsfp.identifierOffset).out d1 = (Device.outcome (.ok b), d2)) :
    (q.moduleInit true).out d = (Qsfp.identify b >>= fun _ => q.initByKind b).out d2 := by
  rw [Qsfp.moduleInit, Acts.out_bind_ok (modifyPriv_out _ d), if_neg (by decide)]
  exact (Acts.out_bind_ok hsel).trans (Acts.out_bind_ok (Device.out_attempt hread))

end

/-- With no lock held: the initialisation ends early, or it knows the identifier. -/
theorem moduleInit_cases (hfree : d.held = noneHeld) :
    (¬ q.Identifies d ∧ ∃ e d', Closes (q.moduleInit true) d (.error e) d') ∨
      q.Identifies d ∧ ∃ d', (q.moduleInit true).out d =
          (q.initByKind ((d.hw.slaves q.i2cAddr).read 0)).out d' ∧ Begun q.sel d d' ∧
        d'.fault = d.fault ∧ d'.time = d.time + q.sel.ops + 1 ∧ d'.hw.slaves = d.hw.slaves ∧
        (d'.hw.priv.modType = if Qsfp.IsQsaIdentifier ((d.hw.slaves q.i2cAddr).read 0) then .qsaAdapter
          else d.hw.priv.modType) ∧
        d'.hw.priv.sfpDevice = d.hw.priv.sfpDevice ∧ d'.hw.sfpDevices = d.hw.sfpDevices ∧
        d'.hw.nextSfpDevice = d.hw.nextSfpDevice ∧ d'.hw.priv.powerInfo = d.hw.priv.powerInfo := by
  have hversion : Does [] d (d.withPriv { d.hw.priv with eepromVersion := 0 }) :=
    ⟨⟨rfl, rfl, (List.append_nil _).symm⟩, ⟨0, rfl⟩, rfl, rfl, rfl⟩
  rcases select_cases (s := q.sel) (d := d.withPriv { d.hw.priv with eepromVersion := 0 }) hfree with
    ⟨hok, d1, hout1, ⟨n, hn⟩, htime1, hslaves1⟩ | ⟨hfail, e, d1, hout1, es, hdoes, hclosed⟩
  · obtain ⟨d2, hout2, hdoes2, htime2, hslaves2⟩ := smbusReadByte_cases q.i2cAddr Qsfp.identifierOffset d1
    have hopen : Open q.sel d d2 :=
      Open.trans ⟨n, hversion.trans hn⟩ (does_transaction hdoes2)
    have hfault1 : d1.fault = d.fault := hn.fault_eq
    have htime1' : d1.time = d.time + q.sel.ops := htime1
    have hslaves1' : d1.hw.slaves = d.hw.slaves := hslaves1
    rw [hfault1, htime1', hslaves1'] at hout2
    unfold resultAt at hout2
    cases hfault : d.fault (d.time + q.sel.ops) with
    | some e =>
        rw [hfault] at hout2
        obtain ⟨d3, hout3, hdoes3⟩ := deselect_fail (α := Unit) hopen e
        refine .inl ⟨fun h => ?_, e, d3, (moduleInit_unread hout1 hout2).trans hout3, hdoes3⟩
        rw [Qsfp.Identifies, hfault] at h
        cases h.2
    | none =>
        rw [hfault] at hout2
        obtain ⟨m, hm⟩ := hopen
        refine .inr ⟨⟨hok, hfault⟩, State.withPriv d2 { d2.hw.priv with
            modType := if Qsfp.IsQsaIdentifier ((d.hw.slaves q.i2cAddr).read 0) then .qsaAdapter
              else d2.hw.priv.modType
            modCategory := Qsfp.getCategory ((d.hw.slaves q.i2cAddr).read 0) }, ?_,
          ⟨m, hm.toLogs.withPriv _⟩, hm.fault_eq, ?_, hslaves2.trans hslaves1', ?_, hm.sfpDevice_eq,
          hm.sfpDevices_eq, hm.nextSfpDevice_eq, hm.powerInfo_eq⟩
        · exact moduleInit_read hout1 hout2
        · exact htime2.trans (congrArg (· + 1) htime1')
        · rw [← hm.modType_eq]
          rfl
  · exact .inl ⟨fun h => hfail h.1, e, d1, moduleInit_unselected hout1, es, hversion.trans hdoes, hclosed⟩

/-- The initialisation makes the cage an adapter with a new SFP device. -/
structure Allocates (d d' : State) : Prop where
  modType_eq : d'.hw.priv.modType = .qsaAdapter
  sfpDevice_eq : d'.hw.priv.sfpDevice = some d.hw.nextSfpDevice
  sfpDevices_eq : d'.hw.sfpDevices = d.hw.nextSfpDevice :: d.hw.sfpDevices
  nextSfpDevice_eq : d'.hw.nextSfpDevice = d.hw.nextSfpDevice + 1

def Qsfp.identifier (q : Qsfp) (d : State) : Byte := (d.hw.slaves q.i2cAddr).read 0

/-- The operation at which the initialisation starts to read the power class. -/
def Qsfp.powerReadTime (q : Qsfp) (d : State) : Nat :=
  let paged := d.time + q.sel.ops + 1
  paged + defaultPageOps (d.hw.slaves q.i2cAddr) d.fault paged

/-- The power class that the initialisation reads from the module, or none where it fails to. -/
def Qsfp.freshPowerInfo (q : Qsfp) (d : State) : Int × Bool :=
  if q.sel.SucceedsAt d.fault (q.powerReadTime d) ∧ d.fault (q.powerReadTime d + q.sel.ops) = none then
    let e := defaultPaged (d.hw.slaves q.i2cAddr) d.fault (d.time + q.sel.ops + 1)
    (powerOf (e.read 129), softCtrlOf (e.read 129))
  else (mediaNoMaxPowerDefined, false)

def Qsfp.FindsAdapter (q : Qsfp) (d : State) : Prop :=
  d.hw.priv.modType = .qsaAdapter ∨ Qsfp.IsQsaIdentifier (q.identifier d)

/-- Everything that an initialisation of a module can do when no lock is held. -/
theorem moduleInit_true (hfree : d.held = noneHeld) :
    ∃ r d', (q.moduleInit true).out d = (Device.outcome r, d') ∧
      ((¬ q.Identifies d ∧ KeepsAdapter d d' ∧ d'.hw.priv.powerInfo = d.hw.priv.powerInfo ∧ Ended d d') ∨
        (q.Identifies d ∧ q.FindsAdapter d ∧ Allocates d d' ∧
          d'.hw.priv.powerInfo = d.hw.priv.powerInfo ∧ Ended d d') ∨
        (q.Identifies d ∧ ¬ q.FindsAdapter d ∧ q.identifier d = 0x18 ∧ KeepsAdapter d d' ∧
          d'.hw.priv.powerInfo = d.hw.priv.powerInfo ∧ Ended d d') ∨
        (q.Identifies d ∧ ¬ q.FindsAdapter d ∧ q.identifier d ≠ 0x18 ∧ KeepsAdapter d d' ∧
          d'.hw.priv.powerInfo = q.freshPowerInfo d ∧
          ((q.sel.ReadFailsAt d.fault (q.powerReadTime d) ∧ ∃ d1, Ended d d1 ∧ Begun q.sel d1 d') ∨
            ¬ q.sel.ReadFailsAt d.fault (q.powerReadTime d) ∧ Ended d d'))) := by
  rcases moduleInit_cases (q := q) hfree with
    ⟨hid, e, d', hout, es, hdoes, hclosed⟩ |
      ⟨hid, d1, hout, hbegun, hfault1, htime1, hslaves1, hmod1, hsfp1, hdevs1, hnext1, hinfo1⟩
  · exact ⟨.error e, d', hout, .inl ⟨hid, hdoes.keepsAdapter, hdoes.powerInfo_eq, es, hdoes.toLogs, hclosed⟩⟩
  rw [hout]
  by_cases hadapter : q.FindsAdapter d
  · have hqsa : d1.hw.priv.modType = .qsaAdapter := by
      rw [hmod1]
      split
      · rfl
      · exact hadapter.resolve_right ‹_›
    obtain ⟨d2, hout2, hended, hmod2, hsfp2, hdevs2, hnext2, hinfo2⟩ := initByKind_adapter hbegun hqsa
    exact ⟨.ok (), d2, hout2, .inr (.inl ⟨hid, hadapter, ⟨hmod2, hsfp2.trans (congrArg some hnext1),
      hdevs2.trans (by rw [hnext1, hdevs1]), hnext2.trans (by rw [hnext1])⟩, hinfo2.trans hinfo1, hended⟩)⟩
  · obtain ⟨hne, hplain⟩ := not_or.mp hadapter
    have hmod1' : d1.hw.priv.modType = d.hw.priv.modType := hmod1.trans (if_neg hplain)
    have hkeeps : KeepsAdapter d d1 := ⟨hmod1', hsfp1, hdevs1, hnext1⟩
    have hqsa : d1.hw.priv.modType ≠ .qsaAdapter := by rw [hmod1']; exact hne
    by_cases hdd : q.identifier d = 0x18
    · obtain ⟨r, d2, hout2, hended, hkeeps2, hinfo2⟩ := initByKind_dd hbegun hqsa
      refine ⟨r, d2, ?_, .inr (.inr (.inl ⟨hid, hadapter, hdd, hkeeps.trans hkeeps2, hinfo2.trans hinfo1,
        hended⟩))⟩
      rw [show (d.hw.slaves q.i2cAddr).read 0 = 0x18 from hdd, hout2]
    · obtain ⟨r, d2, d3, hout3, hkeeps3, hended, hfault2, htime2, hslaves2, hinfo3, hcases⟩ :=
        initByKind_plain hfree hbegun hqsa (b := q.identifier d) hdd
      have htime : d2.time = q.powerReadTime d := by rw [htime2, htime1, hslaves1, hfault1]; rfl
      rw [hfault2, hfault1, htime] at hcases
      refine ⟨r, d3, hout3, .inr (.inr (.inr ⟨hid, hadapter, hdd, hkeeps.trans hkeeps3, hinfo3.trans ?_, ?_⟩))⟩
      · rw [Qsfp.readPowerInfo, Qsfp.freshPowerInfo, hfault2, hfault1, htime, hslaves2, hslaves1, hfault1, htime1]
      · rcases hcases with ⟨hread, hbegun3⟩ | ⟨hread, hended3⟩
        · exact .inl ⟨hread, d2, hended, hbegun3⟩
        · exact .inr ⟨hread, hended.trans hended3⟩

/-! ## Locks that an earlier call left behind -/

theorem pinGroupAcquireBus_held {g : PinGroup} (h : d.held g = true) :
    (d.fault d.time = none ∧ (pinGroupAcquireBus g).out d = (.error .blocked, d)) ∨
      d.fault d.time ≠ none ∧
        ∃ e d', (pinGroupAcquireBus g).out d = (Device.outcome (.error e), d') ∧ Does [] d d' := by
  cases hfault : d.fault d.time with
  | none =>
      have hlock : (Device.lock g : M Unit).out d = (.error .blocked, d) := by
        simp only [Device.lock, Acts.out, ExceptT.run, StateT.run, hfault, h, ↓reduceIte]
      exact .inl ⟨rfl, Acts.out_bind_error hlock⟩
  | some e =>
      have hlock : (Device.lock g : M Unit).out d = (Device.outcome (.error e), { d with time := d.time + 1 }) := by
        simp only [Device.lock, Acts.out, ExceptT.run, StateT.run, hfault]
        rfl
      exact .inr ⟨by simp, e, _, Acts.out_bind_error hlock,
        ⟨⟨rfl, rfl, (List.append_nil _).symm⟩, ⟨_, rfl⟩, rfl, rfl, rfl⟩⟩

/-- With the locks of an earlier selection still held, a selection waits, or its first operation fails. -/
theorem moduleSelect_stuck (hlock : s.HasLock) (hheld : d.held = replay noneHeld s.opening) :
    (d.fault d.time = none ∧ s.moduleSelect.out d = (.error .blocked, d)) ∨
      d.fault d.time ≠ none ∧
        ∃ e d', s.moduleSelect.out d = (Device.outcome (.error e), d') ∧ Does [] d d' := by
  cases hmux : s.muxSelHdl with
  | true =>
      have hheld' : d.held .muxSel = true := by rw [hheld, s.replay_opening, hmux]
      unfold Selection.moduleSelect Selection.selectMux
      rw [hmux, if_pos rfl]
      rcases pinGroupAcquireBus_held hheld' with ⟨hnone, hout⟩ | ⟨hsome, e, d', hout, hdoes⟩
      · exact .inl ⟨hnone, Acts.out_bind_error (Acts.out_bind_error hout)⟩
      · exact .inr ⟨hsome, e, d', Acts.out_bind_error (Acts.out_bind_error hout), hdoes⟩
  | false =>
      have hmod : s.modSelHdl = true := hlock.resolve_left (by rw [hmux]; decide)
      have hheld' : d.held .modSel = true := by rw [hheld, s.replay_opening, hmod]
      have hselect : s.selectMux.out d = (.ok (), d) := by
        unfold Selection.selectMux
        rw [hmux]
        rfl
      unfold Selection.moduleSelect
      rw [Acts.out_bind_ok hselect]
      unfold Selection.selectMod
      rw [hmod, if_pos rfl]
      rcases pinGroupAcquireBus_held hheld' with ⟨hnone, hout⟩ | ⟨hsome, e, d', hout, hdoes⟩
      · exact .inl ⟨hnone, Acts.out_bind_error (Acts.out_bind_error (Device.out_attempt_blocked hout))⟩
      · refine .inr ⟨hsome, e, d', Acts.out_bind_error ?_, hdoes⟩
        rw [Acts.out_bind_ok (Device.out_attempt hout)]
        unfold Selection.releaseMux
        rw [hmux]
        rfl

end OpxSdi.Media
