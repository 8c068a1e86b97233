import OpxSdi.Media.CdrTheorems
import OpxSdi.Media.QsfpChannel

/-!
# The status of a channel of a QSFP is exact

A status that is returned is the set of the flags that are asked for and raised, unless one loss of a
register of two is asked for and the other one is raised. The control of a transmitter reads back.
-/

namespace OpxSdi.Media

open Lib Device

/-! ## Flags -/

namespace ChannelFlag

/-- The other flag of the register of both losses -/
def twin : ChannelFlag → ChannelFlag
  | txDisable => txDisable
  | txFault => txFault
  | txLoss => rxLoss
  | rxLoss => txLoss

theorem bit_inj {f f' : ChannelFlag} (h : f.bit = f'.bit) : f = f' := by
  cases f <;> cases f' <;> first | rfl | cases h

theorem bit_lt (f : ChannelFlag) : f.bit < 32 := by
  cases f <;> decide

/-- The flags that are raised, added to a status -/
def marks (value : ChannelFlag → Bool) (status : BitVec 32) : BitVec 32 :=
  rxLoss.mark (value rxLoss) (txLoss.mark (value txLoss)
    (txFault.mark (value txFault) (txDisable.mark (value txDisable) status)))

theorem getLsbD_mark (f : ChannelFlag) (value : Bool) (status : BitVec 32) (i : Nat) :
    (f.mark value status).getLsbD i = true ↔ status.getLsbD i = true ∨ f.bit = i ∧ value = true := by
  rw [mark]
  cases value with
  | false => simp only [Bool.false_eq_true, ↓reduceIte, and_false, or_false]
  | true =>
      rw [if_pos rfl, BitVec.getLsbD_or, getLsbD_one_shiftLeft, Bool.or_eq_true, and_iff_left rfl]
      refine or_congr_right ?_
      rw [Bool.and_eq_true, decide_eq_true_eq, decide_eq_true_eq]
      constructor
      · rintro ⟨-, h⟩
        exact h.symm
      · rintro rfl
        exact ⟨f.bit_lt, rfl⟩

theorem getLsbD_marks {value : ChannelFlag → Bool} {i : Nat} :
    (marks value 0).getLsbD i = true ↔ ∃ f : ChannelFlag, f.bit = i ∧ value f = true := by
  simp only [marks, getLsbD_mark, BitVec.ofNat_eq_ofNat, BitVec.getLsbD_zero, Bool.false_eq_true, false_or]
  constructor
  · rintro (((h | h) | h) | h)
    · exact ⟨txDisable, h⟩
    · exact ⟨txFault, h⟩
    · exact ⟨txLoss, h⟩
    · exact ⟨rxLoss, h⟩
  · rintro ⟨f, h⟩
    cases f with
    | txDisable => exact .inl (.inl (.inl h))
    | txFault => exact .inl (.inl (.inr h))
    | txLoss => exact .inl (.inr h)
    | rxLoss => exact .inr h

end ChannelFlag

namespace Qsfp

variable (q : Qsfp)

/-- The register and the bit of a flag of the channel -/
def flagPlace (category : QsfpCategory) (channel : BitVec 32) : ChannelFlag → Byte × Nat
  | .txDisable => (if category = .qsfpdd then 84 else 86, channel.toNat)
  | .txFault => (if category = .qsfpdd then 7 else 4, channel.toNat)
  | .txLoss => (3, if category = .qsfpdd then channel.toNat else channel.toNat + 4)
  | .rxLoss => (if category = .qsfpdd then 4 else 3, channel.toNat)

def Raised (channel : BitVec 32) (c : Cage) (f : ChannelFlag) : Prop :=
  q.bitAt c.slaves (flagPlace c.priv.modCategory channel f) = true

/-- The transmitter of the channel can be disabled, its bit is `!enable`, and everything else is as it was. -/
structure SetsTx (channel : BitVec 32) (enable : Bool) (c c' : Cage) : Prop where
  supports : q.bitAt c.slaves (195, 4) = true
  bit_eq : q.bitAt c'.slaves (flagPlace c.priv.modCategory channel .txDisable) = !enable
  rest_eq : ∀ p, p ≠ flagPlace c.priv.modCategory channel .txDisable → q.bitAt c'.slaves p = q.bitAt c.slaves p
  others_eq : ∀ a, a ≠ q.i2cAddr → c'.slaves a = c.slaves a

/-- Nothing is written to a module, and no module is initialised. -/
structure Kept (d d' : State) : Prop where
  slaves_eq : d'.hw.slaves = d.hw.slaves
  priv_eq : d'.hw.priv = d.hw.priv

/-- What the status of a channel and the control of its transmitter have to do -/
structure ControlsTx (mailbox : Mailbox) (channel flags : BitVec 32) (enable : Bool) (d : State) : Prop where
  exact : ∀ r, Answers (q.mediaChannelStatusGet channel flags) d r → ∀ i, r.getLsbD i = true ↔
    ∃ f : ChannelFlag, f.bit = i ∧ flags.getLsbD f.bit = true ∧ q.Raised channel d.hw f
  sets : ∀ d', Ok (q.txControl mailbox channel enable) d () d' → q.SetsTx channel enable d.hw d'.hw
  reads_back : ∀ d' e r e', Ok (q.txControl mailbox channel enable) d () d' → Kept d' e →
    Ok (q.txControlStatusGet channel) e r e' → r = some enable ∧ Kept d' e'
  agrees : ∀ d' e r e', Ok (q.txControl mailbox channel enable) d () d' → Kept d' e →
    Ok (q.mediaChannelStatusGet channel flags) e r e' → flags.getLsbD ChannelFlag.txDisable.bit = true →
      (r.getLsbD ChannelFlag.txDisable.bit = !enable) ∧ Kept d' e'

/-- The same for a module that is no adapter -/
def TellsStatus (mailbox : Mailbox) (channel flags : BitVec 32) (enable : Bool) (d : State) : Prop :=
  d.hw.priv.modType ≠ .qsaAdapter → q.ControlsTx mailbox channel flags enable d

/-! ## The condition -/

/-- The reads of a status -/
def statusReads (category : QsfpCategory) (flags : BitVec 32) : Nat :=
  let txLoss := flags.getLsbD ChannelFlag.txLoss.bit
  let rxLoss := flags.getLsbD ChannelFlag.rxLoss.bit
  (flags.getLsbD ChannelFlag.txDisable.bit).toNat + ((flags.getLsbD ChannelFlag.txFault.bit).toNat +
    if category = .qsfpdd then txLoss.toNat + rxLoss.toNat else (txLoss || rxLoss).toNat)

/-- The losses have one register, one of them is asked for and the other one is raised, and neither a lock nor
a failure is in the way. -/
structure LeaksLoss (channel flags : BitVec 32) (d : State) : Prop where
  modType_ne : d.hw.priv.modType ≠ .qsaAdapter
  category_ne : d.hw.priv.modCategory ≠ .qsfpdd
  valid : validateChannel channel d.hw.priv.modCategory = true
  reads : q.ReadsMonitors (statusReads d.hw.priv.modCategory flags) d
  leaks : ∃ f : ChannelFlag, flags.getLsbD f.twin.bit = true ∧ flags.getLsbD f.bit = false ∧
    q.Raised channel d.hw f

/-! ## Statuses -/

variable {q} {channel flags status : BitVec 32} {enable : Bool} {d d' e : State} {category : QsfpCategory}
  {mailbox : Mailbox} {r : BitVec 32}

/-- A flag is tested if it is asked for, or if it shares the register with one that is. -/
def tests (category : QsfpCategory) (flags : BitVec 32) (f : ChannelFlag) : Bool :=
  flags.getLsbD f.bit || !decide (category = .qsfpdd) && flags.getLsbD f.twin.bit

/-- The flags that a status shows -/
def shown (q : Qsfp) (category : QsfpCategory) (channel flags : BitVec 32) (slaves : BitVec 16 → Eeprom)
    (f : ChannelFlag) : Bool := tests category flags f && q.bitAt slaves (flagPlace category channel f)

theorem fetches_flagStatus {f : ChannelFlag} {offset : BitVec 32} : Fetches
    (q.flagStatus flags f offset channel status) (flags.getLsbD f.bit).toNat
      fun slaves => f.mark (flags.getLsbD f.bit && (q.register slaves offset).getLsbD channel.toNat) status := by
  rw [flagStatus]
  cases flags.getLsbD f.bit with
  | false => exact Fetches.pure status
  | true => exact (Fetches.smbusReadByte q.i2cAddr offset).bind fun buf => Fetches.pure (f.mark _ status)

theorem fetches_lossStatus : Fetches (q.lossStatus flags channel status)
    (flags.getLsbD ChannelFlag.txLoss.bit || flags.getLsbD ChannelFlag.rxLoss.bit).toNat fun slaves =>
      let asked := flags.getLsbD ChannelFlag.txLoss.bit || flags.getLsbD ChannelFlag.rxLoss.bit
      let buf := q.register slaves channelLosIndicator
      ChannelFlag.rxLoss.mark (asked && buf.getLsbD channel.toNat)
        (ChannelFlag.txLoss.mark (asked && buf.getLsbD (channel.toNat + 4)) status) := by
  rw [lossStatus]
  cases flags.getLsbD ChannelFlag.txLoss.bit || flags.getLsbD ChannelFlag.rxLoss.bit with
  | false => exact Fetches.pure status
  | true => exact (Fetches.smbusReadByte q.i2cAddr channelLosIndicator).bind fun buf => Fetches.pure _

theorem Fetches.congr {α : Type} {x : M α} {n : Nat} {f g : (BitVec 16 → Eeprom) → α} (h : Fetches x n f)
    (hfg : ∀ slaves, f slaves = g slaves) : Fetches x n g := funext hfg ▸ h

theorem fetches_channelStatuses : Fetches (q.channelStatuses category channel flags status)
    (statusReads category flags)
      fun slaves => ChannelFlag.marks (q.shown category channel flags slaves) status := by
  rw [channelStatuses, statusReads]
  by_cases hdd : category = .qsfpdd
  · subst hdd
    rw [if_pos rfl]
    refine Fetches.congr (fetches_flagStatus.bind fun status => fetches_flagStatus.bind fun status =>
      fetches_flagStatus.bind fun status => fetches_flagStatus) fun slaves => ?_
    have htests : ∀ f, tests .qsfpdd flags f = flags.getLsbD f.bit := fun f => Bool.or_false _
    simp only [ChannelFlag.marks, shown, htests]
    rfl
  · simp only [if_neg hdd]
    refine Fetches.congr (fetches_flagStatus.bind fun status => fetches_flagStatus.bind fun status =>
      fetches_lossStatus) fun slaves => ?_
    have htests : ∀ f, tests category flags f = (flags.getLsbD f.bit || flags.getLsbD f.twin.bit) := by
      intro f
      rw [tests, decide_eq_false hdd]
      rfl
    simp only [ChannelFlag.marks, shown, htests, ChannelFlag.twin, Bool.or_self, flagPlace, if_neg hdd,
      txControlOffset, channelTxFaultIndicator]
    rw [Bool.or_comm (flags.getLsbD ChannelFlag.rxLoss.bit)]
    rfl

theorem answers_mediaChannelStatusGet (hmod : d.hw.priv.modType ≠ .qsaAdapter) :
    Answers (q.mediaChannelStatusGet channel flags) d r ↔
      validateChannel channel d.hw.priv.modCategory = true ∧
      q.ReadsMonitors (statusReads d.hw.priv.modCategory flags) d ∧
      r = ChannelFlag.marks (q.shown d.hw.priv.modCategory channel flags d.hw.slaves) 0 := by
  rw [mediaChannelStatusGet, channelStatusGet]
  exact (answers_onChannel hmod).trans (and_congr_right fun _ => answers_withModule_reads fetches_channelStatuses)

theorem tests_eq_true {f : ChannelFlag} : tests category flags f = true ↔
    flags.getLsbD f.bit = true ∨ category ≠ .qsfpdd ∧ flags.getLsbD f.twin.bit = true := by
  rw [tests, Bool.or_eq_true, Bool.and_eq_true, Bool.not_eq_true', decide_eq_false_iff_not]

/-- The bits of a status -/
theorem getLsbD_of_answers (hmod : d.hw.priv.modType ≠ .qsaAdapter)
    (h : Answers (q.mediaChannelStatusGet channel flags) d r) (f : ChannelFlag) :
    r.getLsbD f.bit = true ↔ tests d.hw.priv.modCategory flags f = true ∧ q.Raised channel d.hw f := by
  rw [((answers_mediaChannelStatusGet hmod).mp h).2.2, ChannelFlag.getLsbD_marks]
  constructor
  · rintro ⟨f', hbit, hshown⟩
    rw [← ChannelFlag.bit_inj hbit]
    exact Bool.and_eq_true_iff.mp hshown
  · intro hf
    exact ⟨f, rfl, Bool.and_eq_true_iff.mpr hf⟩

/-- Without a leak the flags that a status shows are those that are asked for and raised. -/
theorem shown_iff (hleak : ¬q.LeaksLoss channel flags d)
    (hanswers : Answers (q.mediaChannelStatusGet channel flags) d r) (hmod : d.hw.priv.modType ≠ .qsaAdapter)
    (f : ChannelFlag) : q.shown d.hw.priv.modCategory channel flags d.hw.slaves f = true ↔
      flags.getLsbD f.bit = true ∧ q.Raised channel d.hw f := by
  obtain ⟨hvalid, hreads, -⟩ := (answers_mediaChannelStatusGet hmod).mp hanswers
  rw [shown, Bool.and_eq_true, tests_eq_true]
  refine and_congr_left fun hraised => or_iff_left_of_imp ?_
  rintro ⟨hcategory, htwin⟩
  by_contra hasked
  exact hleak ⟨hmod, hcategory, hvalid, hreads, f, htwin, Bool.of_not_eq_true hasked, hraised⟩

/-! ## The transmitter -/

theorem kept_withModule {α : Type} {body : M α} {n : Nat} {f : (BitVec 16 → Eeprom) → α} {a : α}
    (hbody : Fetches body n f) (h : Ok (q.sel.withModule body) d a d') : Kept d d' := by
  obtain ⟨-, d1, hok, rfl⟩ := q.sel.ok_withModule.mp h
  obtain ⟨-, -, rfl⟩ := hbody.ok_iff.mp hok
  exact ⟨rfl, rfl⟩

theorem Kept.trans (h : Kept d e) (h' : Kept e d') : Kept d d' :=
  ⟨h'.slaves_eq.trans h.slaves_eq, h'.priv_eq.trans h.priv_eq⟩

theorem kept_mediaChannelStatusGet (hmod : d.hw.priv.modType ≠ .qsaAdapter)
    (h : Ok (q.mediaChannelStatusGet channel flags) d r d') : Kept d d' := by
  rw [mediaChannelStatusGet, channelStatusGet] at h
  exact kept_withModule fetches_channelStatuses ((ok_onChannel hmod).mp h).2

theorem ok_txControlStatusGet {enabled : Option Bool} (hmod : d.hw.priv.modType ≠ .qsaAdapter)
    (h : Ok (q.txControlStatusGet channel) d enabled d') :
    enabled = some (!q.bitAt d.hw.slaves (flagPlace d.hw.priv.modCategory channel .txDisable)) ∧ Kept d d' := by
  rw [txControlStatusGet] at h
  obtain ⟨buf, d1, hread, hpure⟩ := ok_bind.mp ((ok_onChannel hmod).mp h).2
  obtain ⟨rfl, rfl⟩ := ok_pure.mp hpure
  have hbuf := (answers_withModule_reads (Fetches.smbusReadByte _ _)).mp ⟨_, hread⟩
  refine ⟨?_, kept_withModule (Fetches.smbusReadByte _ _) hread⟩
  rw [hbuf.2, bitAt, flagPlace, txControlOffset]
  split <;> rfl

/-- The modules after the bit of the transmitter has been written -/
def withTx (q : Qsfp) (category : QsfpCategory) (channel : BitVec 32) (enable : Bool)
    (slaves : BitVec 16 → Eeprom) : BitVec 16 → Eeprom :=
  q.withRegister slaves (txControlOffset category)
    (stdBit (q.register slaves (txControlOffset category)) channel.toNat (!enable))

theorem ok_txControl {u : Unit} (hmod : d.hw.priv.modType ≠ .qsaAdapter)
    (h : Ok (q.txControl mailbox channel enable) d u d') :
    validateChannel channel d.hw.priv.modCategory = true ∧ q.bitAt d.hw.slaves (195, 4) = true ∧
      d' = q.sel.closed ((q.sel.opened d).passed 3
        (q.withTx d.hw.priv.modCategory channel enable d.hw.slaves)) := by
  rw [txControl] at h
  obtain ⟨hvalid, h⟩ := (ok_onChannel hmod).mp h
  obtain ⟨-, d1, hbody, rfl⟩ := q.sel.ok_withModule.mp h
  have hsup : Fetches q.isTxControlSupported 1 fun slaves => q.bitAt slaves (195, 4) :=
    (Fetches.smbusReadByte q.i2cAddr options4Offset).bind fun buf => Fetches.pure _
  obtain ⟨sup, d2, hread, hwrite⟩ := ok_bind.mp hbody
  obtain ⟨-, rfl, rfl⟩ := hsup.ok_iff.mp hread
  split at hwrite
  · exact absurd hwrite ok_fail
  · rename_i hyes
    obtain ⟨-, hwrite⟩ := ok_smbusReadByte_bind.mp hwrite
    obtain ⟨-, rfl⟩ := ok_smbusWriteByte.mp hwrite
    refine ⟨hvalid, Bool.of_not_eq_false hyes, ?_⟩
    rw [passed_passed, passed_passed]
    rfl

theorem txControlOffset_lt (category : QsfpCategory) : (txControlOffset category).setWidth 8 < (127 : Byte) := by
  cases category <;> decide

theorem flagPlace_txDisable : flagPlace category channel .txDisable =
    ((txControlOffset category).setWidth 8, channel.toNat) := by
  rw [flagPlace, txControlOffset]
  split <;> rfl

theorem bitAt_withTx {slaves : BitVec 16 → Eeprom} (hvalid : validateChannel channel category = true)
    (p : Byte × Nat) : q.bitAt (q.withTx category channel enable slaves) p =
      if p = flagPlace category channel .txDisable then !enable else q.bitAt slaves p := by
  obtain ⟨o, k⟩ := p
  have hlt : channel.toNat < 8 := by
    rw [validateChannel_iff, lanes] at hvalid
    split at hvalid <;> omega
  rw [bitAt, bitAt, withTx, read_withRegister (txControlOffset_lt category), flagPlace_txDisable]
  simp only [Prod.mk.injEq]
  by_cases ho : o = (txControlOffset category).setWidth 8
  · subst ho
    rw [if_pos rfl]
    simp only [true_and]
    by_cases hk : k = channel.toNat
    · rw [if_pos hk, hk, getLsbD_stdBit_self hlt]
    · rw [if_neg hk, getLsbD_stdBit_of_ne hk]
      rfl
  · rw [if_neg ho, if_neg fun h => ho h.1]

theorem setsTx_of_ok (hmod : d.hw.priv.modType ≠ .qsaAdapter)
    (h : Ok (q.txControl mailbox channel enable) d () d') : q.SetsTx channel enable d.hw d'.hw := by
  obtain ⟨hvalid, hsup, rfl⟩ := ok_txControl hmod h
  refine ⟨hsup, ?_, fun p hp => ?_, fun a ha => Function.update_of_ne ha _ _⟩
  · exact (bitAt_withTx hvalid _).trans (if_pos rfl)
  · exact (bitAt_withTx hvalid p).trans (if_neg hp)

/-- The bit of the transmitter, in any state in which the modules are as they were after the control -/
theorem bitAt_of_kept (hmod : d.hw.priv.modType ≠ .qsaAdapter)
    (h : Ok (q.txControl mailbox channel enable) d () d') (hkept : Kept d' e) :
    e.hw.priv.modType ≠ .qsaAdapter ∧
      q.bitAt e.hw.slaves (flagPlace e.hw.priv.modCategory channel .txDisable) = !enable := by
  have hset := (setsTx_of_ok hmod h).bit_eq
  obtain ⟨-, -, rfl⟩ := ok_txControl hmod h
  rw [hkept.priv_eq, hkept.slaves_eq]
  exact ⟨hmod, hset⟩

theorem LeaksLoss.not_exact (h : q.LeaksLoss channel flags d) :
    ¬∀ r, Answers (q.mediaChannelStatusGet channel flags) d r → ∀ i, r.getLsbD i = true ↔
      ∃ f : ChannelFlag, f.bit = i ∧ flags.getLsbD f.bit = true ∧ q.Raised channel d.hw f := by
  intro hexact
  obtain ⟨f, htwin, hasked, hraised⟩ := h.leaks
  have hanswers := (answers_mediaChannelStatusGet h.modType_ne).mpr ⟨h.valid, h.reads, rfl⟩
  have hbit := (getLsbD_of_answers h.modType_ne hanswers f).mpr
    ⟨tests_eq_true.mpr (.inr ⟨h.category_ne, htwin⟩), hraised⟩
  obtain ⟨f', hf', hasked', -⟩ := (hexact _ hanswers f.bit).mp hbit
  rw [ChannelFlag.bit_inj hf', hasked] at hasked'
  cases hasked'

/-- The status of a channel is exact, and its transmitter reads back, exactly if no loss leaks. -/
theorem tellsStatus_iff (q : Qsfp) (mailbox : Mailbox) (channel flags : BitVec 32) (enable : Bool) (d : State) :
    q.TellsStatus mailbox channel flags enable d ↔ ¬q.LeaksLoss channel flags d := by
  constructor
  · intro h hleak
    exact hleak.not_exact (h hleak.modType_ne).exact
  · intro hleak hmod
    refine ⟨fun r hr i => ?_, fun d' hok => setsTx_of_ok hmod hok, fun d' e r e' hok hkept hget => ?_,
      fun d' e r e' hok hkept hget hasked => ?_⟩
    · rw [((answers_mediaChannelStatusGet hmod).mp hr).2.2, ChannelFlag.getLsbD_marks]
      exact exists_congr fun f => and_congr_right fun _ => shown_iff hleak hr hmod f
    · obtain ⟨hmod', hbit⟩ := bitAt_of_kept hmod hok hkept
      obtain ⟨hr, hkept'⟩ := ok_txControlStatusGet hmod' hget
      rw [hr, hbit, Bool.not_not]
      exact ⟨rfl, hkept.trans hkept'⟩
    · obtain ⟨hmod', hbit⟩ := bitAt_of_kept hmod hok hkept
      refine ⟨?_, hkept.trans (kept_mediaChannelStatusGet hmod' hget)⟩
      have hiff := getLsbD_of_answers hmod' ⟨e', hget⟩ .txDisable
      rw [Raised, hbit, tests_eq_true, and_iff_right (.inl hasked)] at hiff
      exact Bool.eq_iff_iff.mpr hiff

/-- Only the loss of the receiver is asked for, and the loss of the transmitter is reported. -/
theorem not_tellsStatus_rxLoss : ¬TellsStatus muxedCage (fun e => e.upper) 0 8 true
    (insert (registered fun _ => none) fun _ => ⟨Function.update (fun _ => 0) 3 0x10, fun _ _ => 0⟩) := by
  intro h
  obtain ⟨f, hbit, hasked, -⟩ := ((h (by decide)).exact 4 ⟨_, rfl⟩ 2).mp rfl
  have hf : f = .txLoss := ChannelFlag.bit_inj hbit
  subst hf
  exact absurd hasked (by decide)

end Qsfp

end OpxSdi.Media
