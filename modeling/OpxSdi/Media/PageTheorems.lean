import OpxSdi.Media.Lemmas.Pages

/-!
# Page accesses that report success

A QSFP call that returns `STD_ERR_OK` has accessed the page that it was asked for iff no failure before the
selection of the default page is hidden by it, and the page was shown during the transfer.
-/

namespace OpxSdi.Media

open Lib Device

/-! ## Accesses to a page -/

inductive PageAccess
  | readGeneric (deviceAddr : Int) (page : Nat) (offset : BitVec 32) (dataLen : { n : Nat // 0 < n })
  | writeGeneric (deviceAddr : Int) (page : Nat) (offset : BitVec 32) (data : { bs : List Byte // 0 < bs.length })
  | thresholdGet (thresholdType : MediaThresholdType)

namespace PageAccess

/-- What is read. -/
abbrev Data : PageAccess → Type
  | readGeneric .. => List Byte
  | writeGeneric .. => Unit
  | thresholdGet _ => BitVec 16

def exec (q : Qsfp) (sfpThresholdGet : M (BitVec 16)) : (c : PageAccess) → M (Option c.Data)
  | readGeneric deviceAddr page offset dataLen => q.readGeneric ⟨deviceAddr, page, offset⟩ dataLen.val
  | writeGeneric deviceAddr page offset data => q.writeGeneric ⟨deviceAddr, page, offset⟩ data.val
  | thresholdGet thresholdType => q.thresholdGet sfpThresholdGet thresholdType

/-- The call with a transfer that also returns the memory that it finds. -/
def watch (q : Qsfp) : (c : PageAccess) → M (Option (Eeprom × c.Data))
  | readGeneric deviceAddr page offset dataLen =>
      q.accessGeneric ⟨deviceAddr, page, offset⟩ (watched fun a => smbusReadMultiByte a offset dataLen.val)
  | writeGeneric deviceAddr page offset data =>
      q.accessGeneric ⟨deviceAddr, page, offset⟩ (watched fun a => smbusWriteMultiByte a offset data.val)
  | thresholdGet thresholdType =>
      q.thresholdAccess thresholdType fun a offset => watched (fun a => smbusReadWord a offset) a

def page (priv : QsfpDevice) : PageAccess → Int
  | readGeneric _ page _ _ => page
  | writeGeneric _ page _ _ => page
  | thresholdGet thresholdType => (Qsfp.thresholdReg priv.eepromVersion thresholdType).1

def burst (priv : QsfpDevice) : (c : PageAccess) → Burst c.Data
  | readGeneric _ _ offset dataLen => readBurst offset dataLen.val
  | writeGeneric _ _ offset data => writeBurst offset data.val
  | thresholdGet thresholdType => readWordBurst (Qsfp.thresholdReg priv.eepromVersion thresholdType).2

end PageAccess

/-- The transfer has found page `p` at each of its transactions, and what it has read or written is that of
page `p`. -/
structure OnPage {α : Type} (p : Int) (b : Burst α) (before : Eeprom) (a : α) : Prop where
  shows_page : ∀ k < b.size, (b.mem k before).Shows p.toNat
  data_eq : a = b.result (before.onPage p.toNat)
  written_eq : b.mem b.size before = b.mem b.size (before.onPage p.toNat)

/-- A call that returns `STD_ERR_OK` has made its transfer on the page. -/
def AccessesPage (q : Qsfp) (sfpThresholdGet : M (BitVec 16)) (c : PageAccess) (d : State) : Prop :=
  ∀ r, Answers (c.exec q sfpThresholdGet) d r → ∃ before a, r = some a ∧
    Answers (c.watch q) d (some (before, a)) ∧ OnPage (c.page d.hw.priv) (c.burst d.hw.priv) before a

/-! ## The condition -/

section

variable {α : Type}

/-- On a module with pages no failure is hidden. The memory at the transfer shows the page. -/
def Qsfp.HoldsPage (q : Qsfp) (page : Int) (paging : Prop) (b : Burst α) (a : BitVec 16) (d : State) : Prop :=
  (paging → ¬q.Masks page b a d ∧
    (q.Completes page b a d → ∀ k < b.size, (b.mem k (q.paged page d.hw.slaves a)).Shows page.toNat)) ∧
  (¬paging → d.Clear b.size → ∀ k < b.size, (b.mem k (d.hw.slaves a)).Shows page.toNat)

/-- `sdi_qsfp_threshold_get` has no branch for the type. -/
def Qsfp.isTxPwr : MediaThresholdType → Prop
  | .txPwrHighAlarm | .txPwrLowAlarm | .txPwrHighWarning | .txPwrLowWarning => True
  | _ => False

/-- The test for pages finds a module with pages. -/
def Qsfp.FindsPages (q : Qsfp) (d : State) : Prop := d.fault d.time = none ∧ ¬q.Flat d.hw.slaves

def Qsfp.HoldsPageGeneric (q : Qsfp) (deviceAddr : Int) (page : Nat) (b : Burst α) (d : State) : Prop :=
  mediaDeviceAddrAuto ≤ deviceAddr → q.sel.SelectsAt (d.passed 1 d.hw.slaves) →
    q.HoldsPage page (q.FindsPages d) b (Sfp.address q.i2cAddr deviceAddr)
      (q.sel.opened (d.passed 1 d.hw.slaves))

end

def PageAccess.HoldsPage (q : Qsfp) (d : State) : PageAccess → Prop
  | .readGeneric deviceAddr page offset dataLen =>
      q.HoldsPageGeneric deviceAddr page (readBurst offset dataLen.val) d
  | .writeGeneric deviceAddr page offset data =>
      q.HoldsPageGeneric deviceAddr page (writeBurst offset data.val) d
  | .thresholdGet thresholdType =>
      let (page, offset) := Qsfp.thresholdReg d.hw.priv.eepromVersion thresholdType
      offset ≠ 0 → q.sel.SelectsAt d →
        q.HoldsPage page True (readWordBurst offset) q.i2cAddr (q.sel.opened d) ∧
          (Qsfp.isTxPwr thresholdType → ¬q.Completes page (readWordBurst offset) q.i2cAddr (q.sel.opened d))

/-! ## Accesses that meet it -/

section

variable {α : Type} {q : Qsfp} {d : State} {b : Burst α} {a : BitVec 16} {page : Int}

/-- A transfer that finds its page at each of its transactions has the data of that page. -/
theorem onPage_iff (hsize : 0 < b.size) {before : Eeprom} {x : α} (hx : x = b.result before) :
    OnPage page b before x ↔ ∀ k < b.size, (b.mem k before).Shows page.toNat := by
  constructor
  · exact OnPage.shows_page
  · intro hshows
    have hbefore : before.onPage page.toNat = before := by
      have h0 := hshows 0 hsize
      rw [b.mem_zero] at h0
      exact Eeprom.onPage_of_shows h0
    exact ⟨hshows, by rw [hbefore, hx], by rw [hbefore]⟩

/-- What an access to a page has to do, for its transfer between two page selections. -/
def TransfersOnPage (q : Qsfp) (page : Int) (paging : Bool) (b : Burst α) (a : BitVec 16) (d : State) : Prop :=
  ∀ r, Answers (q.transferOnPage page paging (b.run a)) d r → ∃ before x, r = some x ∧
    Answers (q.transferOnPage page paging (b.watched.run a)) d (some (before, x)) ∧ OnPage page b before x

theorem transfersOnPage_true (hsize : 0 < b.size) : TransfersOnPage q page true b a d ↔ ¬q.Masks page b a d ∧
    (q.Completes page b a d → ∀ k < b.size, (b.mem k (q.paged page d.hw.slaves a)).Shows page.toNat) := by
  constructor
  · intro h
    constructor
    · intro hmasks
      obtain ⟨before, x, hr, -⟩ := h none (answers_transferOnPage_true.mpr (.inr ⟨hmasks, rfl⟩))
      cases hr
    · intro hcompletes
      obtain ⟨before, x, -, hwatch, hon⟩ := h _ (answers_transferOnPage_true.mpr (.inl ⟨hcompletes, rfl⟩))
      rcases answers_transferOnPage_true.mp hwatch with ⟨-, hdata⟩ | ⟨-, hnone⟩
      · cases hdata
        exact hon.shows_page
      · cases hnone
  · rintro ⟨hmasks, hshows⟩ r hr
    rcases answers_transferOnPage_true.mp hr with ⟨hcompletes, rfl⟩ | ⟨hmasked, -⟩
    · exact ⟨_, _, rfl, answers_transferOnPage_true.mpr (.inl ⟨hcompletes, rfl⟩),
        (onPage_iff hsize rfl).mpr (hshows hcompletes)⟩
    · exact absurd hmasked hmasks

theorem transfersOnPage_false (hsize : 0 < b.size) : TransfersOnPage q page false b a d ↔
    (d.Clear b.size → ∀ k < b.size, (b.mem k (d.hw.slaves a)).Shows page.toNat) := by
  constructor
  · intro h hclear
    obtain ⟨before, x, -, hwatch, hon⟩ := h _ (answers_transferOnPage_false.mpr ⟨hclear, rfl⟩)
    cases (answers_transferOnPage_false.mp hwatch).2
    exact hon.shows_page
  · intro hshows r hr
    obtain ⟨hclear, rfl⟩ := answers_transferOnPage_false.mp hr
    exact ⟨_, _, rfl, answers_transferOnPage_false.mpr ⟨hclear, rfl⟩,
      (onPage_iff hsize rfl).mpr (hshows hclear)⟩

theorem transfersOnPage_iff (hsize : 0 < b.size) {paging : Prop} [Decidable paging] :
    TransfersOnPage q page (decide paging) b a d ↔ q.HoldsPage page paging b a d := by
  rw [Qsfp.HoldsPage]
  by_cases hpaging : paging
  · simp only [hpaging, decide_true, forall_const, not_true, false_imp_iff, and_true]
    exact transfersOnPage_true hsize
  · simp only [hpaging, decide_false, false_imp_iff, not_false_eq_true, forall_const, true_and]
    exact transfersOnPage_false hsize

instance : Decidable (q.FindsPages d) := by
  unfold Qsfp.FindsPages
  infer_instance

/-- A raw access of a module that is no adapter: the test for pages, the selection and the transfer. -/
theorem answers_accessGeneric (hmod : d.hw.priv.modType ≠ .qsaAdapter) {deviceAddr : Int} {page : Nat}
    {offset : BitVec 32} {transfer : BitVec 16 → M α} {r : Option α} :
    Answers (q.accessGeneric ⟨deviceAddr, page, offset⟩ transfer) d r ↔
      mediaDeviceAddrAuto ≤ deviceAddr ∧ q.sel.SelectsAt (d.passed 1 d.hw.slaves) ∧
      Answers (q.transferOnPage page (decide (q.FindsPages d)) (transfer (Sfp.address q.i2cAddr deviceAddr)))
        (q.sel.opened (d.passed 1 d.hw.slaves)) r := by
  have hpage : ¬(page : Int) < mediaPageSelectIgnore ∧ (page : Int) ≠ mediaPageSelectIgnore := by
    unfold mediaPageSelectIgnore
    omega
  rw [Qsfp.accessGeneric, getPriv, answers_internal_bind, if_neg hmod]
  by_cases haddr : deviceAddr < mediaDeviceAddrAuto
  · rw [if_pos haddr]
    exact iff_of_false (fun ⟨_, h⟩ => ok_fail h) fun ⟨h, _⟩ => absurd haddr (Int.not_lt.mpr h)
  · rw [if_neg haddr, if_neg hpage.1, if_neg hpage.2, and_iff_right (Int.not_lt.mp haddr),
      ← q.sel.answers_withModule, answers_attempt_bind]
    have hfinds : d.fault d.time = none → decide (q.FindsPages d) = !decide (q.Flat d.hw.slaves) := by
      intro hfault
      simp only [Qsfp.FindsPages, hfault, true_and, decide_not]
    have hfails : ∀ e, d.fault d.time = some e → decide (q.FindsPages d) = false := by
      intro e hfault
      simp only [Qsfp.FindsPages, hfault, reduceCtorEq, false_and, decide_false]
    constructor
    · rintro (⟨p, d1, htest, h⟩ | ⟨e, d1, htest, h⟩)
      · obtain ⟨hfault, rfl, rfl⟩ := ok_isPagingSupported.mp htest
        rw [hfinds hfault]
        exact h
      · obtain ⟨hfault, rfl⟩ := err_isPagingSupported.mp htest
        rw [hfails e hfault]
        exact h
    · intro h
      cases hfault : d.fault d.time with
      | none =>
          rw [hfinds hfault] at h
          exact .inl ⟨_, _, ok_isPagingSupported.mpr ⟨hfault, rfl, rfl⟩, h⟩
      | some e =>
          rw [hfails e hfault] at h
          exact .inr ⟨e, _, err_isPagingSupported.mpr ⟨hfault, rfl⟩, h⟩

theorem accessGeneric_onPage_iff (hmod : d.hw.priv.modType ≠ .qsaAdapter) (hsize : 0 < b.size)
    {deviceAddr : Int} {page : Nat} {offset : BitVec 32} :
    (∀ r, Answers (q.accessGeneric ⟨deviceAddr, page, offset⟩ b.run) d r → ∃ before x, r = some x ∧
      Answers (q.accessGeneric ⟨deviceAddr, page, offset⟩ b.watched.run) d (some (before, x)) ∧
      OnPage page b before x) ↔ q.HoldsPageGeneric deviceAddr page b d := by
  simp only [answers_accessGeneric hmod]
  rw [Qsfp.HoldsPageGeneric]
  constructor
  · intro h haddr hselects
    refine (transfersOnPage_iff hsize).mp fun r hr => ?_
    obtain ⟨before, x, hrx, ⟨-, -, hwatch⟩, hon⟩ := h r ⟨haddr, hselects, hr⟩
    exact ⟨before, x, hrx, hwatch, hon⟩
  · rintro h r ⟨haddr, hselects, hr⟩
    obtain ⟨before, x, hrx, hwatch, hon⟩ := (transfersOnPage_iff hsize).mpr (h haddr hselects) r hr
    exact ⟨before, x, hrx, ⟨haddr, hselects, hwatch⟩, hon⟩

/-- The access of the thresholds of a module that is no adapter. -/
theorem answers_thresholdAccess {thresholdType : MediaThresholdType} {offset : BitVec 32}
    (hreg : Qsfp.thresholdReg d.hw.priv.eepromVersion thresholdType = (page, offset))
    {transfer : BitVec 16 → BitVec 32 → M α} {r : Option α} :
    Answers (q.thresholdAccess thresholdType transfer) d r ↔
      offset ≠ 0 ∧ q.sel.SelectsAt d ∧
        Answers (q.transferOnPage page true (transfer q.i2cAddr offset)) (q.sel.opened d) r := by
  rw [Qsfp.thresholdAccess, getPriv, answers_internal_bind, hreg]
  dsimp only
  by_cases hoffset : offset = 0
  · rw [if_pos hoffset]
    exact iff_of_false (fun ⟨_, h⟩ => ok_fail h) fun ⟨h, _⟩ => absurd hoffset h
  · rw [if_neg hoffset, and_iff_right hoffset]
    exact q.sel.answers_withModule

theorem convertedWord_txPwr {thresholdType : MediaThresholdType} (h : Qsfp.isTxPwr thresholdType)
    (buf : BitVec 16) : Qsfp.convertedWord thresholdType buf = none := by
  cases thresholdType <;> first | rfl | exact h.elim

theorem convertedWord_some {thresholdType : MediaThresholdType} (h : ¬Qsfp.isTxPwr thresholdType)
    (buf : BitVec 16) : Qsfp.convertedWord thresholdType buf = some buf := by
  cases thresholdType <;> first | rfl | exact absurd trivial h

/-- A word that is assigned is the one of the transfer, and not the zeros before it. -/
theorem convertedOnPage_iff {b : Burst (BitVec 16)} (hsize : 0 < b.size) (thresholdType : MediaThresholdType) :
    (∀ r, Answers (q.transferOnPage page true (b.run a)) d r → ∃ before x,
      Qsfp.convertedWord thresholdType (r.getD 0) = some x ∧
      Answers (q.transferOnPage page true (b.watched.run a)) d (some (before, x)) ∧ OnPage page b before x) ↔
    q.HoldsPage page True b a d ∧ (Qsfp.isTxPwr thresholdType → ¬q.Completes page b a d) := by
  rw [← transfersOnPage_iff hsize, decide_true]
  constructor
  · intro h
    refine ⟨fun r hr => ?_, fun htx hcompletes => ?_⟩
    · obtain ⟨before, x, -, hwatch, hon⟩ := h r hr
      rcases answers_transferOnPage_true.mp hwatch with ⟨hcompletes, hx⟩ | ⟨-, hnone⟩
      · -- The call returns the word of its transfer, so no failure is hidden.
        have htransfer : Answers (q.transferOnPage page true (b.run a)) d
            (some (b.result (q.paged page d.hw.slaves a))) :=
          answers_transferOnPage_true.mpr (.inl ⟨hcompletes, rfl⟩)
        obtain ⟨d', hr⟩ := hr
        obtain ⟨d'', htransfer⟩ := htransfer
        obtain ⟨rfl, -⟩ := hr.unique htransfer
        cases hx
        exact ⟨_, _, rfl, hwatch, hon⟩
      · cases hnone
    · obtain ⟨before, x, hx, -⟩ := h _ (answers_transferOnPage_true.mpr (.inl ⟨hcompletes, rfl⟩))
      cases (convertedWord_txPwr htx _).symm.trans hx
  · rintro ⟨htransfers, htx⟩ r hr
    obtain ⟨before, x, rfl, hwatch, hon⟩ := htransfers r hr
    refine ⟨before, x, convertedWord_some (fun h => htx h ?_) x, hwatch, hon⟩
    rcases answers_transferOnPage_true.mp hr with ⟨hcompletes, -⟩ | ⟨-, hnone⟩
    · exact hcompletes
    · cases hnone

theorem thresholdGet_onPage_iff (hmod : d.hw.priv.modType ≠ .qsaAdapter) {sfpThresholdGet : M (BitVec 16)}
    {thresholdType : MediaThresholdType} {offset : BitVec 32}
    (hreg : Qsfp.thresholdReg d.hw.priv.eepromVersion thresholdType = (page, offset)) :
    (∀ r, Answers (q.thresholdGet sfpThresholdGet thresholdType) d r → ∃ before x, r = some x ∧
      Answers ((PageAccess.thresholdGet thresholdType).watch q) d (some (before, x)) ∧
      OnPage page (readWordBurst offset) before x) ↔
    (offset ≠ 0 → q.sel.SelectsAt d →
      q.HoldsPage page True (readWordBurst offset) q.i2cAddr (q.sel.opened d) ∧
        (Qsfp.isTxPwr thresholdType → ¬q.Completes page (readWordBurst offset) q.i2cAddr (q.sel.opened d))) := by
  have hrun : ∀ a, smbusReadWord a offset = (readWordBurst offset).run a := fun _ => readWordBurst_run.symm
  have hiff := @convertedOnPage_iff q (q.sel.opened d) q.i2cAddr page (readWordBurst offset) Nat.one_pos
    thresholdType
  have hanswers : ∀ r, Answers (q.thresholdGet sfpThresholdGet thresholdType) d r ↔
      ∃ buf, Answers (q.thresholdAccess thresholdType smbusReadWord) d buf ∧
        r = Qsfp.convertedWord thresholdType (buf.getD 0) := fun r => by
    rw [Qsfp.thresholdGet, getPriv, answers_internal_bind, if_neg hmod, answers_bind_pure]
  simp only [PageAccess.watch, hanswers, answers_thresholdAccess hreg, hrun]
  constructor
  · intro h hoffset hselects
    refine hiff.mp fun buf hbuf => ?_
    obtain ⟨before, x, hx, ⟨-, -, hwatched⟩, hon⟩ := h _ ⟨buf, ⟨hoffset, hselects, hbuf⟩, rfl⟩
    exact ⟨before, x, hx, hwatched, hon⟩
  · rintro h _ ⟨buf, ⟨hoffset, hselects, hbuf⟩, rfl⟩
    obtain ⟨before, x, hx, hwatched, hon⟩ := hiff.mpr (h hoffset hselects) buf hbuf
    exact ⟨before, x, hx, ⟨hoffset, hselects, hwatched⟩, hon⟩

end

/-- Every call on a module that is no adapter accesses its page exactly when it holds the page. -/
theorem accessesPage_iff (q : Qsfp) (sfpThresholdGet : M (BitVec 16)) (c : PageAccess) (d : State)
    (hmod : d.hw.priv.modType ≠ .qsaAdapter) : AccessesPage q sfpThresholdGet c d ↔ c.HoldsPage q d := by
  cases c with
  | readGeneric deviceAddr page offset dataLen =>
      have hrun : (fun a => smbusReadMultiByte a offset dataLen.val) = (readBurst offset dataLen.val).run :=
        funext fun _ => (readBurst_run dataLen.val).symm
      have hsize : 0 < (readBurst offset dataLen.val).size := by
        rw [readBurst_size]
        exact dataLen.property
      rw [AccessesPage]
      simp only [PageAccess.exec, PageAccess.watch, Qsfp.readGeneric, answers_assert_bind dataLen.property, hrun]
      exact accessGeneric_onPage_iff hmod hsize
  | writeGeneric deviceAddr page offset data =>
      have hrun : (fun a => smbusWriteMultiByte a offset data.val) = (writeBurst offset data.val).run :=
        funext fun _ => (writeBurst_run data.val).symm
      have hsize : 0 < (writeBurst offset data.val).size := by
        rw [writeBurst_size]
        exact data.property
      rw [AccessesPage]
      simp only [PageAccess.exec, PageAccess.watch, Qsfp.writeGeneric, answers_assert_bind data.property, hrun]
      exact accessGeneric_onPage_iff hmod hsize
  | thresholdGet thresholdType => exact thresholdGet_onPage_iff hmod rfl

/-- The first four bytes of page 3, without a failure. -/
theorem accessesPage_pageThree : AccessesPage muxedCage (pure 0) (.readGeneric (-1) 3 128 ⟨4, by decide⟩)
    (registered fun _ => none) := by
  refine (accessesPage_iff muxedCage (pure 0) _ _ (by decide)).mpr fun _ _ => ⟨fun _ => ⟨?_, ?_⟩, ?_⟩
  · rintro ⟨-, k, -, e, hfails, -⟩
    cases hfails.2
  · intro _ k _
    rw [readBurst_mem]
    decide
  · intro hpaging
    exact absurd ⟨rfl, by decide⟩ hpaging

/-- The transfer fails, the default page is selected, and the call returns without data. -/
theorem not_accessesPage_transferFails : ¬AccessesPage muxedCage (pure 0)
    (.readGeneric (-1) 3 128 ⟨4, by decide⟩) (registered fun t => if t = 5 then some .eio else none) := by
  intro h
  obtain ⟨before, a, hnone, -⟩ := h none ⟨_, rfl⟩
  cases hnone

end OpxSdi.Media
