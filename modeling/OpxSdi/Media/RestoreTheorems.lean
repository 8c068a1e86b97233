import OpxSdi.Lib.Run
import OpxSdi.Media.Lemmas.Tuning
import OpxSdi.Media.PageTheorems

/-!
# The default page after a call

A call that selects a page selects the default page again iff it reaches the end of its block. The SFP
calls leave the block on the first error; the QSFP calls end with the selection of the default page.
-/

namespace OpxSdi.Media

open Lib Device

/-! ## The page of the modules -/

/-- The upper bytes are those of the default page. -/
structure Eeprom.ShowsDefault (e : Eeprom) : Prop where
  page_eq : e.page = 0
  reads_default : ∀ offset, ¬offset < 128 → e.read offset = e.upper 0 offset

theorem Eeprom.showsDefault_iff {e : Eeprom} : e.ShowsDefault ↔ e.page = 0 := by
  refine ⟨Eeprom.ShowsDefault.page_eq, fun h => ⟨h, fun offset hoffset => ?_⟩⟩
  rw [Eeprom.read, if_neg hoffset, show e.lower Eeprom.pageSelectByteOffset = 0 from h]

/-- The page registers that the calls use are at the default page. -/
def DefaultPage (q : Qsfp) (d : State) : Prop :=
  (d.hw.slaves Sfp.sfpI2cAddr).ShowsDefault ∧ (d.hw.slaves q.i2cAddr).ShowsDefault

/-! ## Calls -/

inductive PageCall
  | sfpParameterGet (param : MediaParamType)
  | sfpWavelengthSet (value : Float32)
  | qsfpReadGeneric (addr : EepromAddr) (dataLen : { n : Nat // 0 < n })
  | qsfpWriteGeneric (addr : EepromAddr)
      (data : { bs : List Byte // 0 < bs.length ∧ AvoidsPageSelect addr.offset bs.length })
  | qsfpThresholdGet (thresholdType : MediaThresholdType)

/-- The word of the threshold of the SFP device in an adapter. -/
def Qsfp.sfpThresholdGet (q : Qsfp) (thresholdType : MediaThresholdType) : M (BitVec 16) := do
  let r ← q.sfp.thresholdGet thresholdType
  pure r.1

def PageCall.exec (s : Sfp) (q : Qsfp) : PageCall → M Unit
  | sfpParameterGet param => do
      let _ ← s.parameterGet param
      pure ()
  | sfpWavelengthSet value => s.wavelengthSet value
  | qsfpReadGeneric addr dataLen => do
      let _ ← q.readGeneric addr dataLen.val
      pure ()
  | qsfpWriteGeneric addr data => do
      let _ ← q.writeGeneric addr data.val
      pure ()
  | qsfpThresholdGet thresholdType => do
      let _ ← q.thresholdGet (q.sfpThresholdGet thresholdType) thresholdType
      pure ()

/-- The state after a call, whatever it returns. -/
def pageStep (s : Sfp) (q : Qsfp) (d : State) (c : PageCall) : State := ((c.exec s q).out d).2

/-! ## Conditions -/

namespace Sfp

/-- The modules with this page selected for the registers at the second address. -/
def paged (page : Byte) (slaves : BitVec 16 → Eeprom) : BitVec 16 → Eeprom :=
  Function.update slaves sfpI2cAddr ((slaves sfpI2cAddr).selectPage page)

/-- Once the page for tuning is selected, both bytes are read and the default page is selected. -/
def RestoresParameter (s : Sfp) (param : MediaParamType) (d : State) : Prop :=
  s.sel.SelectsAt d →
    (param = .tuneWavelengthPicoMeters → (s.sel.opened d).Clear 1 → (s.sel.opened d).Clear 4) ∧
    (param = .wavelength → s.Tunable d.hw.slaves → (s.sel.opened d).Clear 2 → (s.sel.opened d).Clear 5)

/-- Once the page for tuning is selected, no check and no transaction fails, but for the first read of the
status. -/
def RestoresWavelength (s : Sfp) (value : Float32) (d : State) : Prop :=
  ¬value.toFloat ≤ 0.0 → s.sel.SelectsAt d → s.Tunable d.hw.slaves → (s.sel.opened d).Clear 2 →
    let d2 := (s.sel.opened d).passed 2 (paged tunablePage d.hw.slaves)
    (d2.hw.slaves sfpI2cAddr).tunableCapabilities.Allows value ∧ d2.Clear 13 ∧
      d2.fault (d2.time + 14) = none ∧ d2.fault (d2.time + 15) = none

end Sfp

namespace Qsfp

variable {α : Type}

/-- Once another page is selected, the selection of the default page after the transfer, or after the
transaction of it that fails, succeeds. -/
def Restores (q : Qsfp) (page : Int) (b : Burst α) (a : BitVec 16) (d : State) : Prop :=
  BitVec.ofInt 8 page ≠ 0 → d.Clear 2 → ¬q.Flat d.hw.slaves →
    (d.Clear (2 + b.size) → q.RestoresAt d (2 + b.size) (q.reached page b a b.size d.hw.slaves)) ∧
    ∀ k < b.size, ∀ e, d.FailsAt (2 + k) e → q.RestoresAt d (2 + k + 1) (q.reached page b a k d.hw.slaves)

def RestoresGeneric (q : Qsfp) (addr : EepromAddr) (b : Burst α) (d : State) : Prop :=
  d.hw.priv.modType ≠ .qsaAdapter → mediaDeviceAddrAuto ≤ addr.deviceAddr → mediaMinimumPage ≤ addr.page →
    q.FindsPages d → q.sel.SelectsAt (d.passed 1 d.hw.slaves) →
      q.Restores addr.page b (Sfp.address q.i2cAddr addr.deviceAddr) (q.sel.opened (d.passed 1 d.hw.slaves))

def RestoresThreshold (q : Qsfp) (thresholdType : MediaThresholdType) (d : State) : Prop :=
  let (page, offset) := thresholdReg d.hw.priv.eepromVersion thresholdType
  d.hw.priv.modType ≠ .qsaAdapter → offset ≠ 0 → q.sel.SelectsAt d →
    q.Restores page (readWordBurst offset) q.i2cAddr (q.sel.opened d)

end Qsfp

/-- The call selects the default page again. -/
def RestoresPage (s : Sfp) (q : Qsfp) (d : State) : PageCall → Prop
  | .sfpParameterGet param => s.RestoresParameter param d
  | .sfpWavelengthSet value => s.RestoresWavelength value d
  | .qsfpReadGeneric addr dataLen => q.RestoresGeneric addr (readBurst addr.offset dataLen.val) d
  | .qsfpWriteGeneric addr data => q.RestoresGeneric addr (writeBurst addr.offset data.val) d
  | .qsfpThresholdGet thresholdType => q.RestoresThreshold thresholdType d

/-! ## A module on another page -/

section

variable {q : Qsfp} {d d' : State} {a : BitVec 16} {p : Byte}

def Qsfp.registers (q : Qsfp) : List (BitVec 16) := [Sfp.sfpI2cAddr, q.i2cAddr]

theorem defaultPage_iff : DefaultPage q d ↔ ∀ a ∈ q.registers, (d.hw.slaves a).page = 0 := by
  simp only [DefaultPage, Eeprom.showsDefault_iff, Qsfp.registers, List.mem_cons, List.not_mem_nil, or_false,
    forall_eq_or_imp, forall_eq]

theorem defaultPage_congr (d d' : State) (h : SamePages d d') : DefaultPage q d' ↔ DefaultPage q d := by
  simp only [defaultPage_iff, h _]

/-- The module at `a` is on page `p`, and at the other register the page is the default one. -/
def Strayed (q : Qsfp) (a : BitVec 16) (p : Byte) (d : State) : Prop :=
  (d.hw.slaves a).page = p ∧ ∀ a' ∈ q.registers, a' ≠ a → (d.hw.slaves a').page = 0

theorem Strayed.congr (h : Strayed q a p d) (hsame : SamePages d d') : Strayed q a p d' :=
  ⟨(hsame a).trans h.1, fun a' ha' hne => (hsame a').trans (h.2 a' ha' hne)⟩

theorem Strayed.passed (h : Strayed q a p d) (n : Nat) : Strayed q a p (d.passed n d.hw.slaves) :=
  h.congr fun _ => rfl

theorem DefaultPage.strayed (h : DefaultPage q d) (ha : a ∈ q.registers) : Strayed q a 0 d :=
  ⟨defaultPage_iff.mp h a ha, fun a' ha' _ => defaultPage_iff.mp h a' ha'⟩

theorem Strayed.defaultPage_iff (h : Strayed q a p d) (ha : a ∈ q.registers) : DefaultPage q d ↔ p = 0 := by
  rw [Media.defaultPage_iff]
  constructor
  · intro hdefault
    exact h.1.symm.trans (hdefault a ha)
  · rintro hp a' ha'
    by_cases hne : a' = a
    · rw [hne, h.1, hp]
    · exact h.2 a' ha' hne

/-- The selection of a page at `a`. -/
theorem Strayed.select (h : Strayed q a p d) (p' : Byte) (n : Nat) :
    Strayed q a p' (d.passed n (Function.update d.hw.slaves a ((d.hw.slaves a).selectPage p'))) := by
  constructor
  · rw [passed_slaves, Function.update_self, Eeprom.selectPage_page]
  · intro a' ha' hne
    rw [passed_slaves, Function.update_of_ne hne]
    exact h.2 a' ha' hne

end

/-! ## The SFP calls -/

section

variable {q : Qsfp} {s : Sfp} {d d' : State} {u : Unit} {α : Type}

theorem Qsfp.sfp_mem_registers (q : Qsfp) : Sfp.sfpI2cAddr ∈ q.registers := List.mem_cons_self

theorem Qsfp.i2cAddr_mem_registers (q : Qsfp) : q.i2cAddr ∈ q.registers := List.mem_cons_of_mem _ List.mem_cons_self

theorem Sfp.ok_pageSelect {page : Byte} : Ok (Sfp.pageSelect page) d u d' ↔
    d.fault d.time = none ∧ d' = d.passed 1 (Sfp.paged page d.hw.slaves) := ok_smbusWriteByte

theorem Sfp.err_pageSelect {page : Byte} {e : Errno} : Err (Sfp.pageSelect page) d e d' ↔
    d.fault d.time = some e ∧ d' = d.passed 1 d.hw.slaves := err_smbusWriteByte

/-- From the default page, the selection of the page for tuning fails or leads to that page. -/
theorem leaves_select_tunable (hd : DefaultPage q d) {f : Unit → M α} :
    Leaves (Sfp.pageSelect Sfp.tunablePage >>= f) d (DefaultPage q) ↔
      (d.fault d.time = none → Leaves (f ()) (d.passed 1 (Sfp.paged Sfp.tunablePage d.hw.slaves)) (DefaultPage q)) := by
  cases hfault : d.fault d.time with
  | none =>
      rw [leaves_bind_of_ok (Sfp.ok_pageSelect (u := ()).mpr ⟨hfault, rfl⟩)]
      exact ⟨fun h _ => h, fun h => h rfl⟩
  | some e =>
      have herr : Err (Sfp.pageSelect Sfp.tunablePage >>= f) d e (d.passed 1 d.hw.slaves) :=
        err_bind.mpr (.inl (Sfp.err_pageSelect.mpr ⟨hfault, rfl⟩))
      rw [leaves_of_err herr]
      exact iff_of_true ((defaultPage_congr d (d.passed 1 d.hw.slaves) fun _ => rfl).mpr hd) nofun

/-- From another page, the default page is selected iff its transaction succeeds. -/
theorem leaves_select_default {page : Byte} (hpage : page ≠ 0) (hd : Strayed q Sfp.sfpI2cAddr page d) :
    Leaves (Sfp.pageSelect Sfp.defaultPage) d (DefaultPage q) ↔ d.fault d.time = none := by
  cases hfault : d.fault d.time with
  | none =>
      rw [leaves_of_ok (Sfp.ok_pageSelect (u := ()).mpr ⟨hfault, rfl⟩)]
      exact iff_of_true (((hd.select Sfp.defaultPage 1).defaultPage_iff q.sfp_mem_registers).mpr rfl) rfl
  | some e =>
      rw [leaves_of_err (Sfp.err_pageSelect.mpr ⟨hfault, rfl⟩),
        defaultPage_congr d (d.passed 1 d.hw.slaves) fun _ => rfl, hd.defaultPage_iff q.sfp_mem_registers]
      exact iff_of_false hpage nofun

theorem defaultPage_opened {sel : Selection} : DefaultPage q (sel.opened d) ↔ DefaultPage q d :=
  defaultPage_congr d (sel.opened d) fun _ => rfl

theorem defaultPage_passed {n : Nat} : DefaultPage q (d.passed n d.hw.slaves) ↔ DefaultPage q d :=
  defaultPage_congr d (d.passed n d.hw.slaves) fun _ => rfl

/-- A call that selects the module first. -/
theorem leaves_moduleSelect_bind (sel : Selection) (hd : DefaultPage q d) {f : Unit → M α} :
    Leaves (sel.moduleSelect >>= f) d (DefaultPage q) ↔
      (sel.SelectsAt d → Leaves (f ()) (sel.opened d) (DefaultPage q)) := by
  rw [(KeepsPages.moduleSelect sel).leaves_bind_iff defaultPage_congr hd]
  simp only [sel.ok_moduleSelect]
  constructor
  · intro h hselects
    exact h () _ ⟨hselects, rfl⟩
  · rintro h u d' ⟨hselects, rfl⟩
    exact h hselects

/-- A call between a selection of the module and its end. -/
theorem leaves_withModule (sel : Selection) (hd : DefaultPage q d) {body : M α} :
    Leaves (sel.withModule body) d (DefaultPage q) ↔
      (sel.SelectsAt d → Leaves body (sel.opened d) (DefaultPage q)) := by
  have hend : ∀ r : Except Errno α, KeepsPages (sel.moduleDeselect >>= fun _ => Device.ofResult r) := fun r =>
    KeepsPages.bind (KeepsPages.moduleDeselect sel) fun _ => KeepsPages.ofResult r
  rw [Selection.withModule, leaves_moduleSelect_bind sel hd, leaves_bind_stays hend defaultPage_congr, leaves_attempt]

/-- The page for tuning, the tuning and the default page. -/
theorem leaves_tune (hd : DefaultPage q d) {value : Float32} : Leaves (do
      Sfp.pageSelect Sfp.tunablePage
      Sfp.tune value
      Sfp.pageSelect Sfp.defaultPage) d (DefaultPage q) ↔
    (d.fault d.time = none →
      let d1 := d.passed 1 (Sfp.paged Sfp.tunablePage d.hw.slaves)
      (d1.hw.slaves Sfp.sfpI2cAddr).tunableCapabilities.Allows value ∧ d1.Clear 13 ∧
        d1.fault (d1.time + 14) = none ∧ d1.fault (d1.time + 15) = none) := by
  have hstray : Strayed q Sfp.sfpI2cAddr Sfp.tunablePage (d.passed 1 (Sfp.paged Sfp.tunablePage d.hw.slaves)) :=
    (hd.strayed q.sfp_mem_registers).select Sfp.tunablePage 1
  have hnot := (hstray.defaultPage_iff q.sfp_mem_registers).not.mpr (by decide)
  rw [leaves_select_tunable hd]
  refine forall_congr' fun _ => ?_
  rw [(KeepsPages.tune value).leaves_bind_iff_of_not defaultPage_congr hnot, ← Sfp.ok_tune]
  refine exists_congr fun u => exists_congr fun d' => and_congr_right fun htune => ?_
  exact leaves_select_default (by decide) (hstray.congr ((KeepsPages.tune value).of_ok htune))

theorem leaves_wavelengthSet (hd : DefaultPage q d) {value : Float32} :
    Leaves (s.wavelengthSet value) d (DefaultPage q) ↔ s.RestoresWavelength value d := by
  rw [Sfp.wavelengthSet, Sfp.RestoresWavelength]
  split
  · rename_i hvalue
    exact iff_of_true hd fun h => absurd hvalue h
  · rename_i hvalue
    rw [leaves_withModule s.sel hd]
    simp only [hvalue, not_false_eq_true, forall_const]
    refine forall_congr' fun _ => ?_
    rw [(KeepsPages.isWavelengthTuneSupported s).leaves_bind_iff defaultPage_congr (defaultPage_opened.mpr hd)]
    simp only [Sfp.ok_isWavelengthTuneSupported]
    have hpassed : DefaultPage q ((s.sel.opened d).passed 1 (s.sel.opened d).hw.slaves) :=
      defaultPage_passed.mpr (defaultPage_opened.mpr hd)
    by_cases htune : s.Tunable d.hw.slaves
    · have hread : decide (s.Tunable (s.sel.opened d).hw.slaves) = true := decide_eq_true htune
      simp only [htune, forall_const]
      rw [clear_two]
      constructor
      · rintro h ⟨hfault, hselect⟩
        have hleaves := h _ _ ⟨hfault, rfl, rfl⟩
        rw [hread] at hleaves
        exact (leaves_tune hpassed).mp hleaves hselect
      · rintro h b d' ⟨hfault, rfl, rfl⟩
        rw [hread]
        exact (leaves_tune hpassed).mpr fun hselect => h ⟨hfault, hselect⟩
    · refine iff_of_true ?_ fun h => absurd h htune
      rintro b d' ⟨-, rfl, rfl⟩
      have hread : decide (s.Tunable (s.sel.opened d).hw.slaves) = false := decide_eq_false htune
      rw [hread]
      exact hpassed

/-- On another page, a read that fails leaves the module there. -/
theorem leaves_read_of_strayed {page : Byte} (hpage : page ≠ 0) (hd : Strayed q Sfp.sfpI2cAddr page d)
    {cmd : BitVec 32} {f : Byte → M α} :
    Leaves (smbusReadByte Sfp.sfpI2cAddr cmd >>= f) d (DefaultPage q) ↔ d.fault d.time = none ∧
      Leaves (f ((d.hw.slaves Sfp.sfpI2cAddr).read (cmd.setWidth 8))) (d.passed 1 d.hw.slaves) (DefaultPage q) := by
  have hnot := (hd.defaultPage_iff q.sfp_mem_registers).not.mpr hpage
  rw [(KeepsPages.smbusReadByte _ _).leaves_bind_iff_of_not defaultPage_congr hnot]
  constructor
  · rintro ⟨b, d', hread, h⟩
    obtain ⟨hfault, rfl, rfl⟩ := ok_smbusReadByte.mp hread
    exact ⟨hfault, h⟩
  · rintro ⟨hfault, h⟩
    exact ⟨_, _, ok_smbusReadByte.mpr ⟨hfault, rfl, rfl⟩, h⟩

/-- The read of the wavelength: once its page is selected, the next three transactions succeed. -/
theorem leaves_tunedWavelengthGet (hd : DefaultPage q d) (param : MediaParamType) :
    Leaves (s.tunedWavelengthGet param) d (DefaultPage q) ↔ (d.Clear 1 → d.Clear 4) := by
  rw [clear_one]
  cases hfault : d.fault d.time with
  | some e =>
      have hselect : Ok (Device.attempt (Sfp.pageSelect Sfp.tunablePage)) d (.error e) (d.passed 1 d.hw.slaves) :=
        ok_attempt.mpr (.inr ⟨e, rfl, Sfp.err_pageSelect.mpr ⟨hfault, rfl⟩⟩)
      rw [Sfp.tunedWavelengthGet, leaves_bind_of_ok hselect]
      refine iff_of_true ?_ nofun
      exact ((KeepsPages.bind (KeepsPages.moduleDeselect _) fun _ => KeepsPages.fail e).leaves_iff
        defaultPage_congr).mpr (defaultPage_passed.mpr hd)
  | none =>
      have hselect : Ok (Device.attempt (Sfp.pageSelect Sfp.tunablePage)) d (.ok ())
          (d.passed 1 (Sfp.paged Sfp.tunablePage d.hw.slaves)) :=
        ok_attempt.mpr (.inl ⟨(), rfl, Sfp.ok_pageSelect.mpr ⟨hfault, rfl⟩⟩)
      have hend : ∀ rc : Except Errno (BitVec 32),
          KeepsPages (s.sel.moduleDeselect >>= fun _ => Device.ofResult rc) := fun rc =>
        KeepsPages.bind (KeepsPages.moduleDeselect _) fun _ => KeepsPages.ofResult rc
      have hpage : Sfp.tunablePage ≠ 0 := by decide
      have hhigh : Strayed q Sfp.sfpI2cAddr Sfp.tunablePage (d.passed 1 (Sfp.paged Sfp.tunablePage d.hw.slaves)) :=
        (hd.strayed q.sfp_mem_registers).select Sfp.tunablePage 1
      have hlow := hhigh.passed 1
      rw [Sfp.tunedWavelengthGet, leaves_bind_of_ok hselect]
      dsimp only
      rw [leaves_read_of_strayed hpage hhigh, leaves_read_of_strayed hpage hlow,
        leaves_bind_stays (fun _ => hend _) defaultPage_congr, leaves_attempt,
        leaves_select_default hpage (hlow.passed 1)]
      simp only [clear_succ, clear_zero, forall_true_left, true_and, Nat.add_zero, hfault, passed_fault, passed_time,
        Nat.add_assoc, Nat.reduceAdd, and_assoc]

/-- The wavelength is tuned if the module says so in its first transaction. -/
theorem leaves_parameterGet_wavelength (hd : DefaultPage q d) :
    Leaves (s.parameterGet .wavelength) d (DefaultPage q) ↔ (s.sel.SelectsAt d → s.Tunable d.hw.slaves →
      (s.sel.opened d).Clear 2 → (s.sel.opened d).Clear 5) := by
  have hpassed : DefaultPage q ((s.sel.opened d).passed 1 (s.sel.opened d).hw.slaves) :=
    defaultPage_passed.mpr (defaultPage_opened.mpr hd)
  change Leaves (s.sel.moduleSelect >>= fun _ => Device.attempt s.isWavelengthTuneSupported >>= _) d _ ↔ _
  rw [leaves_moduleSelect_bind s.sel hd]
  refine forall_congr' fun _ => ?_
  cases hfault : (s.sel.opened d).fault (s.sel.opened d).time with
  | some e =>
      have herr : Err s.isWavelengthTuneSupported (s.sel.opened d) e _ :=
        err_bind.mpr (.inl (err_smbusReadByte.mpr ⟨hfault, rfl⟩))
      rw [leaves_bind_of_ok (ok_attempt.mpr (.inr ⟨e, rfl, herr⟩))]
      refine iff_of_true ?_ fun _ hclear => ?_
      · exact ((KeepsPages.bind (KeepsPages.moduleDeselect _) fun _ => KeepsPages.fail e).leaves_iff
          defaultPage_congr).mpr hpassed
      · cases hfault.symm.trans (clear_two.mp hclear).1
  | none =>
      rw [leaves_bind_of_ok (ok_attempt.mpr (.inl ⟨_, rfl, Sfp.ok_isWavelengthTuneSupported.mpr ⟨hfault, rfl, rfl⟩⟩))]
      have htwo : ∀ n, (s.sel.opened d).Clear (n + 1) ↔
          ((s.sel.opened d).passed 1 (s.sel.opened d).hw.slaves).Clear n := fun n =>
        clear_succ_passed.trans (and_iff_right hfault)
      rw [htwo 1, htwo 4]
      by_cases htune : s.Tunable d.hw.slaves
      · have hstatus : decide (s.Tunable (s.sel.opened d).hw.slaves) = true := decide_eq_true htune
        rw [hstatus]
        exact (leaves_tunedWavelengthGet hpassed _).trans ⟨fun h _ => h, fun h => h htune⟩
      · have hstatus : decide (s.Tunable (s.sel.opened d).hw.slaves) = false := decide_eq_false htune
        rw [hstatus]
        refine iff_of_true ?_ fun h => absurd h htune
        refine (Stays.leaves_iff ?_ defaultPage_congr).mpr hpassed
        exact KeepsPages.attempt_bind (KeepsPages.readRegister s _ _) fun r =>
          KeepsPages.bind (KeepsPages.moduleDeselect _) fun _ => KeepsPages.ofResult r

theorem leaves_parameterGet (hd : DefaultPage q d) {param : MediaParamType} :
    Leaves (s.parameterGet param) d (DefaultPage q) ↔ s.RestoresParameter param d := by
  rw [Sfp.RestoresParameter]
  have hopened : DefaultPage q (s.sel.opened d) := defaultPage_opened.mpr hd
  by_cases hpm : param = .tuneWavelengthPicoMeters
  · subst hpm
    have heq : s.parameterGet .tuneWavelengthPicoMeters =
        s.sel.moduleSelect >>= fun _ => s.tunedWavelengthGet .tuneWavelengthPicoMeters := rfl
    rw [heq, leaves_moduleSelect_bind s.sel hd, leaves_tunedWavelengthGet hopened]
    simp only [forall_const, reduceCtorEq, false_imp_iff, and_true]
  · by_cases hnm : param = .wavelength
    · subst hnm
      rw [leaves_parameterGet_wavelength hd]
      simp only [reduceCtorEq, false_imp_iff, true_and, forall_const]
    · rw [(KeepsPages.parameterGet s hnm hpm).leaves_iff defaultPage_congr]
      exact iff_of_true hd fun _ => ⟨fun h => absurd h hpm, fun h => absurd h hnm⟩

end

/-! ## The QSFP calls -/

section

variable {α : Type} {q : Qsfp} {d d' : State} {page : Int} {b : Burst α} {a : BitVec 16} {r : Option α}

/-- The selection of the default page at the end of a call on another page. -/
theorem leaves_restore {p : Byte} {n : Nat} {slaves : BitVec 16 → Eeprom}
    (hd : Strayed q q.i2cAddr p (d.passed n slaves)) : Leaves (q.pageSelect mediaPageDefault >>= fun _ => pure r)
      (d.passed n slaves) (DefaultPage q) ↔ (p ≠ 0 → q.RestoresAt d n slaves) := by
  rw [leaves_bind_stays (fun _ => KeepsPages.pure r) defaultPage_congr, ← @ok_restore d q mediaPageDefault]
  by_cases hok : ∃ u d', Ok (q.pageSelect mediaPageDefault) (d.passed n slaves) u d'
  · refine iff_of_true ?_ fun _ => hok
    obtain ⟨u, d', hok⟩ := hok
    rw [leaves_of_ok hok, (ok_pageSelect.mp hok).2.2]
    exact ((hd.select 0 2).defaultPage_iff q.i2cAddr_mem_registers).mpr rfl
  · have hsame : SamePages (d.passed n slaves) ((q.pageSelect mediaPageDefault).out (d.passed n slaves)).2 := by
      rcases (Transacts.pageSelect mediaPageDefault).ok_or_err (d.passed n slaves) with h | ⟨e, d', herr⟩
      · exact absurd h hok
      · rw [show (q.pageSelect mediaPageDefault).out (d.passed n slaves) = (.error (.error e), d') from herr]
        rcases err_pageSelect.mp herr with ⟨-, rfl⟩ | ⟨-, -, -, rfl⟩ | ⟨-, -, rfl⟩ <;> exact fun _ => rfl
    rw [Leaves, defaultPage_congr _ _ hsame, hd.defaultPage_iff q.i2cAddr_mem_registers]
    exact ⟨fun hp hne => absurd hp hne, fun h => by_contra fun hne => hok (h hne)⟩

/-- The transfer on its page, from the state that the selection of the page leaves. -/
theorem leaves_transfer_then {p : Byte} {slaves : BitVec 16 → Eeprom} (hkeeps : KeepsPages (b.run a))
    (hd : Strayed q q.i2cAddr p (d.passed 2 slaves)) :
    Leaves (do
      let rc ← Device.attempt (b.run a)
      q.pageSelect mediaPageDefault
      pure rc.toOption) (d.passed 2 slaves) (DefaultPage q) ↔
    (p ≠ 0 →
      ((d.passed 2 slaves).Clear b.size →
        q.RestoresAt d (2 + b.size) (Function.update slaves a (b.mem b.size (slaves a)))) ∧
      ∀ k < b.size, ∀ e, (d.passed 2 slaves).FailsAt k e →
        q.RestoresAt d (2 + k + 1) (Function.update slaves a (b.mem k (slaves a)))) := by
  have hend : ∀ {x d'}, Ok (b.run a) (d.passed 2 slaves) x d' →
      d' = d.passed (2 + b.size) (Function.update slaves a (b.mem b.size (slaves a))) ∧
        Strayed q q.i2cAddr p (d.passed (2 + b.size) (Function.update slaves a (b.mem b.size (slaves a)))) := by
    intro x d' h
    obtain rfl := (b.ok_iff.mp h).2.2.trans (passed_passed ..)
    exact ⟨rfl, hd.congr (hkeeps.of_ok h)⟩
  rw [leaves_attempt_bind]
  constructor
  · rintro ⟨hok, herr, -⟩ hp
    refine ⟨fun hclear => ?_, fun k hk e hfails => ?_⟩
    · have hrun : Ok (b.run a) (d.passed 2 slaves) _ _ := b.ok_iff.mpr ⟨hclear, rfl, rfl⟩
      have h := hok _ _ hrun
      rw [(hend hrun).1] at h
      exact (leaves_restore (hend hrun).2).mp h hp
    · have hrun : Err (b.run a) (d.passed 2 slaves) e _ := b.err_iff.mpr ⟨k, hk, hfails, rfl⟩
      have hstray := hd.congr (hkeeps.of_err hrun)
      have h := herr _ _ hrun
      rw [passed_passed] at h hstray
      exact (leaves_restore hstray).mp h hp
  · intro h
    refine ⟨fun x d' hrun => ?_, fun e d' hrun => ?_, fun hok herr => ?_⟩
    · obtain ⟨rfl, hstray⟩ := hend hrun
      exact (leaves_restore hstray).mpr fun hp => (h hp).1 (b.ok_iff.mp hrun).1
    · obtain ⟨k, hk, hfails, rfl⟩ := b.err_iff.mp hrun
      have hstray := hd.congr (hkeeps.of_err hrun)
      rw [passed_passed] at hstray ⊢
      exact (leaves_restore hstray).mpr fun hp => (h hp).2 k hk e hfails
    · rcases clear_or_failsAt (d.passed 2 slaves) b.size with hclear | ⟨k, hk, e, hfails⟩
      · exact absurd (b.ok_iff.mpr ⟨hclear, rfl, rfl⟩) (hok _ _)
      · exact absurd (b.err_iff.mpr ⟨k, hk, hfails, rfl⟩) (herr _ _)

theorem leaves_transferOnPage (hd : DefaultPage q d) (hkeeps : KeepsPages (b.run a)) :
    Leaves (q.transferOnPage page true (b.run a)) d (DefaultPage q) ↔ q.Restores page b a d := by
  rw [Qsfp.transferOnPage, if_pos rfl, Qsfp.Restores]
  by_cases hselect : d.Clear 2 ∧ ¬q.Flat d.hw.slaves
  · have hok : Ok (q.pageSelect page) d () (d.passed 2 (q.paged page d.hw.slaves)) :=
      ok_pageSelect.mpr ⟨hselect.1, hselect.2, rfl⟩
    have hstray : Strayed q q.i2cAddr (BitVec.ofInt 8 page) (d.passed 2 (q.paged page d.hw.slaves)) :=
      (hd.strayed q.i2cAddr_mem_registers).select _ 2
    have hclear : d.Clear (2 + b.size) ↔ (d.passed 2 (q.paged page d.hw.slaves)).Clear b.size :=
      clear_add_passed.trans (and_iff_right hselect.1)
    have hfails : ∀ k e, d.FailsAt (2 + k) e ↔ (d.passed 2 (q.paged page d.hw.slaves)).FailsAt k e := fun k e =>
      failsAt_add_passed.trans (and_iff_right hselect.1)
    rw [leaves_bind_of_ok (ok_attempt.mpr (.inl ⟨(), rfl, hok⟩))]
    simp only [hclear, hfails, hselect, not_false_eq_true, forall_true_left]
    exact leaves_transfer_then hkeeps hstray
  · refine iff_of_true ?_ fun _ hclear hflat => absurd ⟨hclear, hflat⟩ hselect
    rcases (Transacts.pageSelect page).ok_or_err d with ⟨u, d', hok⟩ | ⟨e, d', herr⟩
    · exact absurd ⟨(ok_pageSelect.mp hok).1, (ok_pageSelect.mp hok).2.1⟩ hselect
    · obtain ⟨n, rfl⟩ : ∃ n, d' = d.passed n d.hw.slaves := by
        rcases err_pageSelect.mp herr with ⟨-, rfl⟩ | ⟨-, -, -, rfl⟩ | ⟨-, -, rfl⟩ <;> exact ⟨_, rfl⟩
      have hrestore : Leaves (q.pageSelect mediaPageDefault >>= fun _ => pure (none : Option α))
          (d.passed n d.hw.slaves) (DefaultPage q) :=
        (leaves_restore ((hd.strayed q.i2cAddr_mem_registers).passed n)).mpr fun hp => absurd rfl hp
      rw [leaves_bind_of_ok (ok_attempt.mpr (.inr ⟨e, rfl, herr⟩))]
      cases e <;> first | exact hrestore | exact defaultPage_passed.mpr hd

/-- Without pages, the transfer is all that is made. -/
theorem leaves_unpaged (hd : DefaultPage q d) (hkeeps : KeepsPages (b.run a)) :
    Leaves (q.transferOnPage page false (b.run a)) d (DefaultPage q) := by
  refine (Stays.leaves_iff ?_ defaultPage_congr).mpr hd
  exact KeepsPages.bind hkeeps fun _ => KeepsPages.pure _

theorem leaves_accessGeneric (hd : DefaultPage q d) (hkeeps : ∀ a, KeepsPages (b.run a)) {addr : EepromAddr} :
    Leaves (q.accessGeneric addr b.run) d (DefaultPage q) ↔ q.RestoresGeneric addr b d := by
  rw [Qsfp.RestoresGeneric, Qsfp.accessGeneric, leaves_bind_of_ok (ok_getPriv.mpr ⟨rfl, rfl⟩)]
  by_cases hmod : d.hw.priv.modType = .qsaAdapter
  · rw [if_pos hmod]
    refine iff_of_true ((Stays.leaves_iff ?_ defaultPage_congr).mpr hd) fun h => absurd hmod h
    exact KeepsPages.bind (Stays.assert SamePages.refl) fun _ =>
      KeepsPages.bind (KeepsPages.accessGeneric _ _ hkeeps) fun _ => KeepsPages.pure _
  rw [if_neg hmod]
  -- A call without pages keeps them, and its condition asks for nothing.
  have hunpaged : ∀ {d : State} (rc : Except Errno Bool), DefaultPage q d → rc.toOption.getD false = false →
      Leaves (q.sel.withModule (q.transferOnPage addr.page (rc.toOption.getD false)
        (b.run (Sfp.address q.i2cAddr addr.deviceAddr)))) d (DefaultPage q) := by
    intro d rc hd hrc
    rw [hrc]
    exact (leaves_withModule q.sel hd).mpr fun _ => leaves_unpaged (defaultPage_opened.mpr hd) (hkeeps _)
  by_cases haddr : addr.deviceAddr < mediaDeviceAddrAuto
  · rw [if_pos haddr]
    exact iff_of_true hd fun _ h => absurd haddr (Int.not_lt.mpr h)
  rw [if_neg haddr]
  by_cases hpage : addr.page < mediaPageSelectIgnore
  · rw [if_pos hpage]
    exact iff_of_true hd fun _ _ h => absurd (Int.lt_of_lt_of_le hpage (by decide)) (Int.not_lt.mpr h)
  rw [if_neg hpage]
  by_cases hignore : addr.page = mediaPageSelectIgnore
  · rw [if_pos hignore]
    refine iff_of_true (hunpaged (.ok false) hd rfl) fun _ _ h => ?_
    rw [hignore] at h
    exact absurd h (by decide)
  rw [if_neg hignore]
  cases hfault : d.fault d.time with
  | some e =>
      rw [leaves_bind_of_ok (ok_attempt.mpr (.inr ⟨e, rfl, err_isPagingSupported.mpr ⟨hfault, rfl⟩⟩))]
      refine iff_of_true (hunpaged (.error e) (defaultPage_passed.mpr hd) rfl) fun _ _ _ hfinds => ?_
      cases hfault.symm.trans hfinds.1
  | none =>
      rw [leaves_bind_of_ok (ok_attempt.mpr (.inl ⟨_, rfl, ok_isPagingSupported.mpr ⟨hfault, rfl, rfl⟩⟩))]
      by_cases hflat : q.Flat d.hw.slaves
      · have hrc : (!decide (q.Flat d.hw.slaves)) = false := by rw [decide_eq_true hflat]; rfl
        refine iff_of_true (hunpaged (.ok _) (defaultPage_passed.mpr hd) hrc) fun _ _ _ hfinds => ?_
        exact absurd hflat hfinds.2
      · have hrc : (!decide (q.Flat d.hw.slaves)) = true := by rw [decide_eq_false hflat]; rfl
        have hmin : mediaMinimumPage ≤ addr.page := by
          unfold mediaPageSelectIgnore at hpage hignore
          unfold mediaMinimumPage
          omega
        rw [hrc]
        change Leaves (q.sel.withModule _) _ _ ↔ _
        rw [leaves_withModule q.sel (defaultPage_passed.mpr hd)]
        have hopened : DefaultPage q (q.sel.opened (d.passed 1 d.hw.slaves)) :=
          defaultPage_opened.mpr (defaultPage_passed.mpr hd)
        constructor
        · intro h _ _ _ _ hselects
          exact (leaves_transferOnPage hopened (hkeeps _)).mp (h hselects)
        · intro h hselects
          exact (leaves_transferOnPage hopened (hkeeps _)).mpr
            (h hmod (Int.not_lt.mp haddr) hmin ⟨hfault, hflat⟩ hselects)

theorem leaves_thresholdGet (hd : DefaultPage q d) {thresholdType : MediaThresholdType} :
    Leaves (q.thresholdGet (q.sfpThresholdGet thresholdType) thresholdType) d (DefaultPage q) ↔
      q.RestoresThreshold thresholdType d := by
  rw [Qsfp.thresholdGet, leaves_bind_of_ok (ok_getPriv.mpr ⟨rfl, rfl⟩), Qsfp.RestoresThreshold]
  by_cases hmod : d.hw.priv.modType = .qsaAdapter
  · rw [if_pos hmod]
    refine iff_of_true ((Stays.leaves_iff ?_ defaultPage_congr).mpr hd) fun h => absurd hmod h
    exact KeepsPages.bind (KeepsPages.bind (KeepsPages.thresholdGet _ _) fun _ => KeepsPages.pure _) fun _ =>
      KeepsPages.pure _
  rw [if_neg hmod, leaves_bind_stays (fun _ => KeepsPages.pure _) defaultPage_congr, Qsfp.thresholdAccess,
    leaves_bind_of_ok (ok_getPriv.mpr ⟨rfl, rfl⟩)]
  generalize Qsfp.thresholdReg d.hw.priv.eepromVersion thresholdType = reg
  obtain ⟨page, offset⟩ := reg
  dsimp only
  by_cases hoffset : offset = 0
  · rw [if_pos hoffset]
    exact iff_of_true hd fun _ h => absurd hoffset h
  · rw [if_neg hoffset, leaves_withModule q.sel hd, ← readWordBurst_run]
    have hkeeps : KeepsPages ((readWordBurst offset).run q.i2cAddr) := by
      rw [readWordBurst_run]
      exact KeepsPages.smbusReadWord _ _
    simp only [ne_eq, hmod, hoffset, not_false_eq_true, forall_true_left,
      leaves_transferOnPage (defaultPage_opened.mpr hd) hkeeps]

end

/-! ## Runs -/

section

variable (s : Sfp) (q : Qsfp)

/-- One call on modules at their default page. -/
theorem pageStep_iff {d : State} (hd : DefaultPage q d) (c : PageCall) :
    DefaultPage q (pageStep s q d c) ↔ RestoresPage s q d c := by
  change Leaves (c.exec s q) d (DefaultPage q) ↔ _
  cases c with
  | sfpParameterGet param =>
      exact (leaves_bind_stays (fun _ => KeepsPages.pure ()) defaultPage_congr).trans (leaves_parameterGet hd)
  | sfpWavelengthSet value => exact leaves_wavelengthSet hd
  | qsfpReadGeneric addr dataLen =>
      have hrun : (fun a => smbusReadMultiByte a addr.offset dataLen.val) = (readBurst addr.offset dataLen.val).run :=
        funext fun _ => (readBurst_run dataLen.val).symm
      refine (leaves_bind_stays (fun _ => KeepsPages.pure ()) defaultPage_congr).trans ?_
      rw [Qsfp.readGeneric, leaves_assert_bind dataLen.property, hrun]
      refine leaves_accessGeneric hd fun a => ?_
      rw [readBurst_run]
      exact KeepsPages.smbusReadMultiByte _ _ _
  | qsfpWriteGeneric addr data =>
      have hrun : (fun a => smbusWriteMultiByte a addr.offset data.val) = (writeBurst addr.offset data.val).run :=
        funext fun _ => (writeBurst_run data.val).symm
      refine (leaves_bind_stays (fun _ => KeepsPages.pure ()) defaultPage_congr).trans ?_
      rw [Qsfp.writeGeneric, leaves_assert_bind data.property.1, hrun]
      refine leaves_accessGeneric hd fun a => ?_
      rw [writeBurst_run]
      exact KeepsPages.smbusWriteMultiByte data.property.2
  | qsfpThresholdGet thresholdType =>
      exact (leaves_bind_stays (fun _ => KeepsPages.pure ()) defaultPage_congr).trans (leaves_thresholdGet hd)

/-- Along a run that starts on the default page, each call leaves the modules there iff each selects it
again. -/
theorem run_defaultPage_iff {d : State} (hd : DefaultPage q d) (cs : List PageCall) :
    Along (pageStep s q) (fun d c => DefaultPage q (pageStep s q d c)) d cs ↔
      Along (pageStep s q) (RestoresPage s q) d cs :=
  along_congr (fun _ c hd => pageStep_iff s q hd c) (fun _ c hd hc => (pageStep_iff s q hd c).mpr hc) hd

end

/-- A module whose SFP registers are at the address of the QSFP cage. -/
def plainSfp : Sfp := ⟨0x50, ⟨false, 0, false, 0⟩⟩

theorem defaultPage_registered (fault : Nat → Option Errno) : DefaultPage muxedCage (registered fault) :=
  ⟨Eeprom.showsDefault_iff.mpr rfl, Eeprom.showsDefault_iff.mpr rfl⟩

/-- Without failures, a wavelength and four bytes of page 3. -/
theorem run_defaultPage_reads : Along (pageStep plainSfp muxedCage)
    (fun d c => DefaultPage muxedCage (pageStep plainSfp muxedCage d c)) (registered fun _ => none)
    [.sfpParameterGet .tuneWavelengthPicoMeters, .qsfpReadGeneric ⟨-1, 3, 128⟩ ⟨4, by decide⟩] := by
  refine (run_defaultPage_iff plainSfp muxedCage (defaultPage_registered _) _).mpr ⟨?_, ?_, trivial⟩
  · exact fun _ => ⟨fun _ _ _ _ => rfl, nofun⟩
  · intro _ _ _ _ _ _ _ _
    refine ⟨fun _ => ⟨rfl, rfl, by decide⟩, ?_⟩
    rintro k - e ⟨-, hfault⟩
    cases hfault

/-- The first byte of a wavelength cannot be read, and the module stays on the page for tuning. -/
theorem not_run_defaultPage_readFails : ¬Along (pageStep plainSfp muxedCage)
    (fun d c => DefaultPage muxedCage (pageStep plainSfp muxedCage d c))
    (registered fun t => if t = 1 then some .eio else none) [.sfpParameterGet .tuneWavelengthPicoMeters] :=
  fun h => absurd h.1.1.page_eq (by decide)

end OpxSdi.Media
