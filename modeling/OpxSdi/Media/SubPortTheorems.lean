import OpxSdi.Media.Lemmas.Lanes
import OpxSdi.Media.MonitorValueTheorems
import OpxSdi.Media.QsfpChannelTheorems

/-!
# The lanes of a sub-port

Each operation of the QSFP28-DD driver on a channel acts on the lane at the offset of the sub-port and no other,
or is refused without a write, iff the sum of both does not wrap around to a lane and the operation of the QSFP
driver is one that keeps to its lane.
-/

namespace OpxSdi.Media

open Lib Device Flags

/-- No value is returned, and no module is changed. -/
def Refuses {α : Type} (x : M α) (d : State) : Prop := (∀ a d', ¬Ok x d a d') ∧ Leaves x d (SameSlaves d)

namespace Qsfp

/-- Only bits of the lane are changed, and no bit of another lane has an effect. -/
structure ActsOnly (q : Qsfp) (category : QsfpCategory) (lane : Nat) {α : Type} (x : M α) (d : State) : Prop where
  confined : Leaves x d fun d' => q.Confined category lane d.hw d'.hw
  result_eq : ∀ e, Alike (q.SameLane category lane) d e → (x.out e).1 = (x.out d).1
  alike : ∀ e, Alike (q.SameLane category lane) d e → Alike (q.SameLane category lane) (x.out d).2 (x.out e).2

/-- A register that has a bit of another lane -/
def Shares (category : QsfpCategory) (lane : Nat) (offset : BitVec 32) : Prop :=
  ∃ k < 8, ¬Own category lane (offset.setWidth 8, k)

end Qsfp

/-- The module in the cage is no adapter and of this category. -/
structure HasModule (category : QsfpCategory) (d : State) : Prop where
  modType_ne : d.hw.priv.modType ≠ .qsaAdapter
  category_eq : d.hw.priv.modCategory = category

namespace ChannelCall

variable (mailbox : Mailbox) (convertMwToDbm : ℚ → ℚ)

/-- From every state with such a module, the call is refused or acts only on the lane at the offset of the
sub-port. -/
def Addresses (p : Qsfp28Dd) (category : QsfpCategory) (channel : BitVec 32) (call : ChannelCall) : Prop :=
  ∀ status d, HasModule category d → Refuses (call.exec mailbox convertMwToDbm p channel status) d ∨
    (p.subPortChannelOffset.toNat + channel.toNat < Qsfp.lanes category ∧
      p.ActsOnly category (p.subPortChannelOffset.toNat + channel.toNat)
        (call.exec mailbox convertMwToDbm p channel status) d)

/-- The power of a transmitter can be read from double-density modules only. -/
def Served (category : QsfpCategory) : ChannelCall → Prop
  | channelMonitorGet monitor => monitor = .txPwr → category = .qsfpdd
  | _ => True

/-- The call keeps to the lane of its channel: the registers of a monitor status have no bit of another lane,
and the revision of a rate select is not one that sets all lanes. -/
def Lanewise (category : QsfpCategory) (channel : BitVec 32) : ChannelCall → Prop
  | channelMonitorStatusGet flags =>
      (asks channelFlag flags Qsfp.rxPwrFlags = true →
        ¬Qsfp.Shares category channel.toNat (Qsfp.rxPowerInterruptOffset channel)) ∧
      (asks channelFlag flags Qsfp.txBiasFlags = true →
        ¬Qsfp.Shares category channel.toNat (Qsfp.txBiasInterruptOffset channel))
  | extRateSelect rev _ => rev ≠ Qsfp.mediaFwRev0 ∧ rev ≠ Qsfp.mediaFwRev1
  | _ => True

/-- If the call gets to a channel of the module, its sum has not wrapped around and it keeps to its lane. -/
def KeepsLane (p : Qsfp28Dd) (category : QsfpCategory) (channel : BitVec 32) (call : ChannelCall) : Prop :=
  call.Served category → Qsfp.validateChannel (channel + p.subPortChannelOffset) category = true →
    channel.toNat + p.subPortChannelOffset.toNat < 2 ^ 32 ∧
      call.Lanewise category (channel + p.subPortChannelOffset)

end ChannelCall

/-! ## Calls that keep to a lane -/

namespace Qsfp

variable {q : Qsfp} {category : QsfpCategory} {lane : Nat} {channel : BitVec 32} {α β : Type}

structure OnLane (q : Qsfp) (category : QsfpCategory) (lane : Nat) (x : M α) : Prop where
  keeps : q.KeepsOthers category lane x
  blind : q.Blind category lane Eq x x

theorem OnLane.withModule {x : M α} (hx : q.OnLane category lane x) : q.OnLane category lane (q.sel.withModule x) :=
  ⟨hx.keeps.withModule, blind_withModule q.sel hx.blind⟩

theorem OnLane.fail (e : Errno) : q.OnLane category lane (Device.fail e : M α) :=
  ⟨.of_slaves (.fail e), .fail e⟩

theorem OnLane.pure (a : α) : q.OnLane category lane (Pure.pure a : M α) := ⟨.of_slaves (.pure a), .pure rfl⟩

theorem OnLane.bind {x : M α} {f : α → M β} (hx : q.OnLane category lane x) (hf : ∀ a, q.OnLane category lane (f a)) :
    q.OnLane category lane (x >>= f) :=
  ⟨hx.keeps.bind fun a => (hf a).keeps, .bind_eq hx.blind fun a => (hf a).blind⟩

/-- A call refuses a channel that the module does not have, and keeps to the lane of the channel otherwise. -/
def OnChannel (q : Qsfp) (category : QsfpCategory) (channel : BitVec 32) (x : M α) : Prop :=
  ∃ rest : QsfpDevice → M α,
    (∀ d, HasModule category d → x.out d =
      if validateChannel channel category = false then (.error (.error .param), d) else (rest d.hw.priv).out d) ∧
    ∀ priv : QsfpDevice, priv.modCategory = category → validateChannel channel category = true →
      q.OnLane category channel.toNat (rest priv)

theorem OnChannel.of_rest {adapter rest : QsfpDevice → M α} (hrest : ∀ priv : QsfpDevice,
    priv.modCategory = category → validateChannel channel category = true →
      q.OnLane category channel.toNat (rest priv)) :
    q.OnChannel category channel (getPriv >>= fun priv =>
      if priv.modType = .qsaAdapter then adapter priv
      else if validateChannel channel priv.modCategory = false then Device.fail .param else rest priv) := by
  refine ⟨rest, fun d hmod => ?_, hrest⟩
  rw [Acts.out_bind_ok (show getPriv.out d = (.ok d.hw.priv, d) from rfl), if_neg hmod.modType_ne, hmod.category_eq]
  split <;> rfl

variable {x : M α} {d : State}

theorem OnChannel.refuses (h : q.OnChannel category channel x) (hmod : HasModule category d)
    (hvalid : validateChannel channel category = false) : Refuses x d := by
  obtain ⟨rest, hout, -⟩ := h
  have herr : Err x d .param d := by
    rw [Err, hout d hmod, if_pos hvalid]
  exact ⟨fun a d' => herr.not_ok, (leaves_of_err herr).mpr rfl⟩

theorem OnChannel.actsOnly (h : q.OnChannel category channel x) (hmod : HasModule category d)
    (hvalid : validateChannel channel category = true) : q.ActsOnly category channel.toNat x d := by
  obtain ⟨rest, hout, hlane⟩ := h
  obtain ⟨hkeeps, hblind⟩ := hlane d.hw.priv hmod.category_eq hvalid
  have hx : ∀ e : State, e.hw.priv = d.hw.priv → x.out e = (rest d.hw.priv).out e := by
    intro e he
    rw [hout e ⟨he ▸ hmod.modType_ne, he ▸ hmod.category_eq⟩, he, hvalid, if_neg (by decide)]
  have hpriv : ∀ e, Alike (q.SameLane category channel.toNat) d e → e.hw.priv = d.hw.priv := by
    intro e he
    obtain ⟨slaves, heq, -⟩ := he.hw
    rw [heq]
  refine ⟨?_, fun e he => ?_, fun e he => ?_⟩
  · rw [Leaves, hx d rfl]
    exact hkeeps d
  · rw [hx d rfl, hx e (hpriv e he)]
    exact hblind.out_eq he
  · rw [hx d rfl, hx e (hpriv e he)]
    exact (hblind d e he).2

/-! ## Registers -/

theorem own_whole {o : Byte} (hdd : ddLayout o.toNat = .whole) (hplain : plainLayout o.toNat = .whole) (k : Nat) :
    Own category lane (o, k) := by
  refine .inl ?_
  rw [laneOf]
  split
  · exact congrArg (Layout.laneOf · k) hdd
  · exact congrArg (Layout.laneOf · k) hplain

theorem OnLane.readOwn {cmd : BitVec 32} (hown : ∀ k < 8, Own category lane (cmd.setWidth 8, k)) :
    q.OnLane category lane (smbusReadByte q.i2cAddr cmd) :=
  ⟨.of_slaves (.smbusReadByte _ _), blind_smbusReadByte_own hown⟩

/-- Of a register that is read, only bits of the lane count. -/
theorem OnLane.readBits {cmd : BitVec 32} {f : Byte → M β} (hkeeps : ∀ b, KeepsSlaves (f b))
    (hf : ∀ b b', OwnBits category lane (cmd.setWidth 8) b b' → q.Blind category lane Eq (f b) (f b')) :
    q.OnLane category lane (smbusReadByte q.i2cAddr cmd >>= f) :=
  ⟨.of_slaves (.bind (.smbusReadByte _ _) hkeeps), .bind (blind_smbusReadByte cmd) hf⟩

theorem laneOf_txControlOffset (category : QsfpCategory) (k : Nat) :
    laneOf category ((txControlOffset category).setWidth 8, k) = some k := by
  cases category <;> rfl

theorem OwnBits.stdBit {o b b' : Byte} (h : OwnBits category lane o b b') (k : Nat) (state : Bool) :
    OwnBits category lane o (Qsfp.stdBit b k state) (Qsfp.stdBit b' k state) := by
  intro j hj
  by_cases hk : j = k
  · subst hk
    by_cases hlt : j < 8
    · rw [getLsbD_stdBit_self hlt, getLsbD_stdBit_self hlt]
    · rw [BitVec.getLsbD_of_ge _ _ (Nat.le_of_not_lt hlt), BitVec.getLsbD_of_ge _ _ (Nat.le_of_not_lt hlt)]
  · rw [getLsbD_stdBit_of_ne hk, getLsbD_stdBit_of_ne hk]
    exact h j hj

/-! ## The transmitter -/

theorem onLane_isTxControlSupported : q.OnLane category lane q.isTxControlSupported :=
  .bind (.readOwn fun k _ => own_whole (by decide) (by decide) k) fun _ => .pure _

theorem onChannel_txControl (mailbox : Mailbox) (enable : Bool) :
    q.OnChannel category channel (q.txControl mailbox channel enable) := by
  rw [txControl]
  refine .of_rest ?_
  rintro priv rfl hvalid
  refine .withModule (.bind onLane_isTxControlSupported fun sup => ?_)
  split
  · exact .fail _
  · refine ⟨KeepsOthers.modify (g := fun b => stdBit b channel.toNat (!enable)) (txControlOffset_lt _) (fun _ _ h => h)
      fun b k hk => getLsbD_stdBit_of_ne ?_ _, .bind (blind_smbusReadByte _) fun b b' hb =>
        blind_smbusWriteByte (txControlOffset_lt _) (hb.stdBit _ _)⟩
    rintro rfl
    exact hk (laneOf_txControlOffset _ _)

theorem onChannel_txControlStatusGet : q.OnChannel category channel (q.txControlStatusGet channel) := by
  rw [txControlStatusGet]
  refine .of_rest ?_
  rintro priv rfl hvalid
  refine ⟨.of_slaves ?_, ?_⟩
  · exact .bind (.withModule _ (.smbusReadByte _ _)) fun _ => .pure _
  · refine .bind (blind_withModule _ (blind_smbusReadByte _)) fun b b' hb => .pure ?_
    rw [hb channel.toNat (.inr (laneOf_txControlOffset _ _))]

/-! ## The CDR -/

theorem OwnBits.setCdrBit {o b b' : Byte} (h : OwnBits category lane o b b') (supportStatus : BitVec 32)
    (dir : Direction) (k : Nat) (enable : Bool) : OwnBits category lane o
      (Qsfp.setCdrBit supportStatus dir b k enable) (Qsfp.setCdrBit supportStatus dir b' k enable) := by
  rw [Qsfp.setCdrBit, Qsfp.setCdrBit]
  split
  · exact h.stdBit k enable
  · exact h

theorem getLsbD_setCdrBit_of_ne {supportStatus : BitVec 32} {dir : Direction} {b : Byte} {k j : Nat} (h : j ≠ k)
    (enable : Bool) : (Qsfp.setCdrBit supportStatus dir b k enable).getLsbD j = b.getLsbD j := by
  rw [Qsfp.setCdrBit]
  split
  · exact getLsbD_stdBit_of_ne h enable
  · rfl

/-- The bits of both directions of a channel are those of its lane. -/
theorem laneOf_cdrControlBit (hcategory : category ≠ .qsfpdd) (hvalid : validateChannel channel category = true)
    (dir : Direction) :
    laneOf category (cdrControlOffset.setWidth 8, dir.cdrControlBit channel) = some channel.toNat := by
  rw [validateChannel_iff, lanes, if_neg hcategory] at hvalid
  rw [laneOf, if_neg hcategory]
  refine congrArg some ?_
  cases dir with
  | tx =>
      change (channel + 4).toNat % 4 = _
      bv_omega
  | rx => exact Nat.mod_eq_of_lt hvalid

theorem laneOf_ddCdrControlBit (dir : Direction) :
    laneOf .qsfpdd (dir.ddCdrControlOffset.setWidth 8, dir.ddCdrControlBit channel) = some channel.toNat := by
  cases dir <;> rfl

theorem onLane_isCdrControlSupported : q.OnLane category lane q.isCdrControlSupported :=
  .bind (.readOwn fun k _ => own_whole (by decide) (by decide) k) fun _ => .pure _

theorem onChannel_withCdrControl {body : QsfpCategory → BitVec 32 → M α}
    (hbody : ∀ supportStatus, validateChannel channel category = true →
      q.OnLane category channel.toNat (body category supportStatus)) :
    q.OnChannel category channel (q.withCdrControl channel body) := by
  rw [withCdrControl]
  refine .of_rest ?_
  rintro priv rfl hvalid
  refine .withModule (.bind onLane_isCdrControlSupported fun supportStatus => ?_)
  split
  · exact .fail _
  · exact hbody _ hvalid

theorem onLane_setDdCdr (enable : Bool) (supportStatus : BitVec 32) (dir : Direction) :
    q.OnLane .qsfpdd channel.toNat (q.setDdCdr channel enable supportStatus dir) := by
  have hlt : dir.ddCdrControlOffset.setWidth 8 < (127 : Byte) := by
    cases dir <;> decide
  refine ⟨KeepsOthers.modify
    (g := fun b => setCdrBit supportStatus dir b (dir.ddCdrControlBit channel) enable) hlt
    (fun _ _ h => leaves_attempt.mpr h) fun b k hk => getLsbD_setCdrBit_of_ne ?_ _,
    .bind (blind_smbusReadByte _) fun b b' hb => .attempt_eq ?_⟩
  · rintro rfl
    exact hk (laneOf_ddCdrControlBit dir)
  · exact blind_smbusWriteByte hlt (hb.setCdrBit _ _ _ _)

theorem onChannel_cdrStatusSet (enable : Bool) : q.OnChannel category channel (q.cdrStatusSet channel enable) := by
  refine onChannel_withCdrControl fun supportStatus hvalid => ?_
  split
  · rename_i hcategory
    subst hcategory
    exact .bind (onLane_setDdCdr _ _ _) fun _ => .bind (onLane_setDdCdr _ _ _) fun rc =>
      ⟨.of_slaves (Stays.ofResult SameSlaves.refl rc), .ofResult (Paired.refl rc)⟩
  · rename_i hcategory
    refine ⟨KeepsOthers.modify (g := fun b => setCdrBit supportStatus .rx
      (setCdrBit supportStatus .tx b (Direction.tx.cdrControlBit channel) enable)
      (Direction.rx.cdrControlBit channel) enable) (by decide) (fun _ _ h => h) fun b k hk => ?_,
      .bind (blind_smbusReadByte _) fun b b' hb => blind_smbusWriteByte (by decide)
        ((hb.setCdrBit _ _ _ _).setCdrBit _ _ _ _)⟩
    have hne : ∀ dir : Direction, k ≠ dir.cdrControlBit channel := by
      rintro dir rfl
      exact hk (laneOf_cdrControlBit hcategory hvalid dir)
    rw [getLsbD_setCdrBit_of_ne (hne .rx), getLsbD_setCdrBit_of_ne (hne .tx)]

theorem onChannel_cdrStatusGet : q.OnChannel category channel (q.cdrStatusGet channel) := by
  refine onChannel_withCdrControl fun supportStatus hvalid => ?_
  split
  · rename_i hcategory
    subst hcategory
    refine ⟨.of_slaves (.attempt_bind (.smbusReadByte _ _) fun _ => .bind (.smbusReadByte _ _) fun _ => .pure _),
      .bind (.attempt (blind_smbusReadByte _)) fun rc rc' hrc => .bind (blind_smbusReadByte _) fun b b' hb =>
        .pure ?_⟩
    have hown : ∀ dir : Direction, Own .qsfpdd channel.toNat
        (dir.ddCdrControlOffset.setWidth 8, dir.ddCdrControlBit channel) := fun dir =>
      .inr (laneOf_ddCdrControlBit dir)
    have htx : (rc'.toOption.getD 0).getLsbD (Direction.tx.ddCdrControlBit channel) =
        (rc.toOption.getD 0).getLsbD (Direction.tx.ddCdrControlBit channel) := by
      cases hrc with
      | ok h => exact h _ (hown .tx)
      | error e => rfl
    rw [htx, hb _ (hown .rx)]
  · rename_i hcategory
    refine .readBits (fun b => .pure _) fun b b' hb => .pure ?_
    have hbit := fun dir : Direction => hb _ (.inr (laneOf_cdrControlBit hcategory hvalid dir))
    rw [hbit .tx, hbit .rx]

/-! ## The status -/

variable {flags status : BitVec 32}

theorem onLane_flagStatus {f : ChannelFlag} {offset : BitVec 32}
    (hlane : laneOf category (offset.setWidth 8, channel.toNat) = some channel.toNat) :
    q.OnLane category channel.toNat (q.flagStatus flags f offset channel status) := by
  rw [flagStatus]
  split
  · refine .readBits (fun b => .pure _) fun b b' hb => .pure ?_
    rw [hb _ (.inr hlane)]
  · exact .pure _

theorem onLane_lossStatus (hcategory : category ≠ .qsfpdd) (hvalid : validateChannel channel category = true) :
    q.OnLane category channel.toNat (q.lossStatus flags channel status) := by
  rw [validateChannel_iff, lanes, if_neg hcategory] at hvalid
  have hown : ∀ k, k % 4 = channel.toNat → Own category channel.toNat (channelLosIndicator.setWidth 8, k) := by
    intro k hk
    rw [Own, laneOf, if_neg hcategory]
    exact .inr (congrArg some hk)
  rw [lossStatus]
  split
  · refine .readBits (fun b => .pure _) fun b b' hb => .pure ?_
    rw [hb _ (hown (channel.toNat + 4) (by omega)), hb _ (hown channel.toNat (Nat.mod_eq_of_lt hvalid))]
  · exact .pure _

theorem onChannel_channelStatusGet : q.OnChannel category channel (q.channelStatusGet channel flags status) := by
  rw [channelStatusGet]
  refine .of_rest ?_
  rintro priv rfl hvalid
  have hfault : ∀ category, laneOf category ((channelTxFaultIndicator category).setWidth 8, channel.toNat) =
      some channel.toNat := by
    intro category
    cases category <;> rfl
  refine .withModule (.bind (onLane_flagStatus (laneOf_txControlOffset _ _)) fun status =>
    .bind (onLane_flagStatus (hfault _)) fun status => ?_)
  split
  · rename_i hcategory
    rw [hcategory]
    exact .bind (onLane_flagStatus rfl) fun status => onLane_flagStatus rfl
  · rename_i hcategory
    exact onLane_lossStatus hcategory hvalid

/-! ## The monitors -/

theorem not_shares_iff {offset : BitVec 32} :
    ¬Shares category lane offset ↔ ∀ k < 8, Own category lane (offset.setWidth 8, k) := by
  simp only [Shares, not_exists, not_and, not_not]

theorem onLane_readIf {asked : Bool} {offset : BitVec 32} (h : asked = true → ¬Shares category lane offset) :
    q.OnLane category lane (readIf asked q.i2cAddr offset) := by
  rw [readIf]
  split
  · rename_i hasked
    exact .readOwn (not_shares_iff.mp (h hasked))
  · exact .pure 0

theorem onChannel_channelMonitorStatusGet (h : validateChannel channel category = true →
      (ChannelCall.channelMonitorStatusGet flags).Lanewise category channel) :
    q.OnChannel category channel (q.channelMonitorStatusGet channel flags status) := by
  rw [channelMonitorStatusGet]
  refine .of_rest ?_
  rintro priv rfl hvalid
  obtain ⟨hrx, htx⟩ := h hvalid
  refine .bind (.withModule (.bind (onLane_readIf hrx) fun rxPwrBuf => .bind (onLane_readIf htx) fun txBiasBuf =>
    .pure _)) fun bufs => ?_
  obtain ⟨rxPwrBuf, txBiasBuf⟩ := bufs
  exact .pure _

/-- The two bytes of a value belong to the lane of the channel. -/
theorem laneOf_register {p : QsfpDevice} {monitor : ChannelMonitor}
    (hvalid : validateChannel channel p.modCategory = true) (hserved : ¬(monitor = .txPwr ∧ p.modCategory ≠ .qsfpdd))
    (k : Nat) : laneOf p.modCategory (BitVec.ofNat 8 (Reading.register p (.channel channel monitor)), k) =
        some channel.toNat ∧
      laneOf p.modCategory (BitVec.ofNat 8 (Reading.register p (.channel channel monitor)) + 1, k) =
        some channel.toNat := by
  rw [validateChannel_iff, lanes] at hvalid
  have hof : ∀ {l : Nat → Layout} {o n : Nat}, l (BitVec.ofNat 8 o).toNat = .lane n →
      l (BitVec.ofNat 8 o + 1).toNat = .lane n → (l (BitVec.ofNat 8 o).toNat).laneOf k = some n ∧
        (l (BitVec.ofNat 8 o + 1).toNat).laneOf k = some n := fun h h' =>
    ⟨congrArg (Layout.laneOf · k) h, congrArg (Layout.laneOf · k) h'⟩
  rw [laneOf, laneOf]
  by_cases hdd : p.modCategory = .qsfpdd
  · rw [if_pos hdd] at hvalid ⊢
    cases monitor <;> simp only [Reading.register, if_pos hdd] <;> generalize channel.toNat = n at hvalid ⊢ <;>
      interval_cases n <;> exact hof (by decide) (by decide)
  · rw [if_neg hdd] at hvalid ⊢
    cases monitor with
    | txPwr => exact absurd ⟨rfl, hdd⟩ hserved
    | rxPwr =>
        rw [Reading.register]
        generalize channel.toNat = n at hvalid ⊢
        interval_cases n <;> exact hof (by decide) (by decide)
    | txBias =>
        rw [Reading.register, if_neg hdd]
        generalize channel.toNat = n at hvalid ⊢
        interval_cases n <;> exact hof (by decide) (by decide)

theorem onChannel_channelMonitorGet (convertMwToDbm : ℚ → ℚ) (monitor : ChannelMonitor) :
    q.OnChannel category channel (q.channelMonitorGet convertMwToDbm channel monitor) := by
  rw [channelMonitorGet]
  refine .of_rest ?_
  rintro priv rfl hvalid
  rw [Reading.channelMonitorOffset_eq hvalid]
  by_cases hserved : monitor = .txPwr ∧ priv.modCategory ≠ .qsfpdd
  · rw [if_pos hserved]
    exact .fail _
  · rw [if_neg hserved, Device.ofResult, pure_bind]
    have hlane := laneOf_register hvalid hserved
    refine .bind (.withModule ⟨.of_slaves (.smbusReadWord _ _), blind_smbusReadWord (fun k _ => .inr ?_)
      fun k _ => .inr ?_⟩) fun tempBuf => .pure _
    · rw [BitVec.setWidth_ofNat_of_le (by decide)]
      exact (hlane k).1
    · rw [BitVec.setWidth_ofNat_of_le (by decide)]
      exact (hlane k).2

/-! ## Rate select -/

theorem extRateSelectValue_eq_none {rev : BitVec 32} (h : rev ≠ mediaFwRev0 ∧ rev ≠ mediaFwRev1) (cdrEnable : Bool) :
    extRateSelectValue rev cdrEnable = none := by
  rw [extRateSelectValue, if_neg h.1, if_neg h.2]

theorem onChannel_extRateSelect {rev : BitVec 32} {cdrEnable : Bool} (h : validateChannel channel category = true →
      (ChannelCall.extRateSelect rev cdrEnable).Lanewise category channel) :
    q.OnChannel category channel (q.extRateSelect channel rev cdrEnable) := by
  rw [extRateSelect]
  refine .of_rest ?_
  rintro priv rfl hvalid
  rw [extRateSelectValue_eq_none (h hvalid)]
  exact .withModule (.readBits (fun _ => .bind (.smbusReadByte _ _) fun _ => .pure _) fun _ _ _ =>
    .bind (blind_smbusReadByte _) fun _ _ _ => .pure rfl)

/-! ## Calls that are answered -/

/-- Every register of every module is `b`. -/
def filled (b : Byte) : BitVec 16 → Eeprom := fun _ => ⟨fun _ => b, fun _ _ => b⟩

theorem read_filled (b : Byte) (a : BitVec 16) (o : Byte) : (filled b a).read o = b := ite_self b

/-- No lock is held, and no operation fails. -/
def idle (category : QsfpCategory) (slaves : BitVec 16 → Eeprom) : State :=
  ⟨fun _ => false, fun _ => none, 0,
    ⟨fun _ => 0, slaves, { QsfpDevice.create with modCategory := category }, [], 0, []⟩⟩

variable {slaves : BitVec 16 → Eeprom}

theorem hasModule_idle : HasModule category (idle category slaves) := ⟨fun h => MediaType.noConfusion h, rfl⟩

theorem selectsAt_idle (s : Selection) : s.SelectsAt (idle category slaves) :=
  ⟨⟨fun _ => rfl, fun _ => rfl⟩, fun _ _ => rfl⟩

theorem readsMonitors_idle (n : Nat) : q.ReadsMonitors n (idle category slaves) :=
  ⟨selectsAt_idle q.sel, fun _ _ => rfl⟩

theorem answers_txControl (mailbox : Mailbox) (enable : Bool) (hvalid : validateChannel channel category = true) :
    Answers (q.txControl mailbox channel enable) (idle category (filled 0xFF)) () := by
  have hsup : ((filled 0xFF q.i2cAddr).read (options4Offset.setWidth 8)).getLsbD txDisableBitOffset = true := by
    rw [read_filled]
    rfl
  refine (answers_onChannel hasModule_idle.modType_ne).mpr
    ⟨hvalid, q.sel.answers_withModule.mpr ⟨selectsAt_idle q.sel, ?_⟩⟩
  rw [isTxControlSupported, bind_assoc, answers_smbusReadByte_bind]
  refine ⟨rfl, ?_⟩
  rw [pure_bind, if_neg fun h => Bool.false_ne_true (h.symm.trans hsup), answers_smbusReadByte_bind]
  exact ⟨rfl, _, ok_smbusWriteByte.mpr ⟨rfl, rfl⟩⟩

theorem reachesCdr_idle (hvalid : validateChannel channel category = true) :
    q.ReachesCdr channel (idle category (filled 0xFF)) where
  modType_ne := hasModule_idle.modType_ne
  valid := hvalid
  free := (selectsAt_idle q.sel).1
  supports := ⟨.tx, (congrArg (BitVec.getLsbD · 7) (read_filled 0xFF q.i2cAddr _)).trans rfl⟩

/-- All bits of the modules are set, and the call gets to a channel. -/
theorem answers_exec (mailbox : Mailbox) (convertMwToDbm : ℚ → ℚ) {p : Qsfp28Dd} {call : ChannelCall}
    (hserved : call.Served category) (hvalid : validateChannel (channel + p.subPortChannelOffset) category = true)
    (hlanewise : call.Lanewise category (channel + p.subPortChannelOffset)) :
    ∃ r, Answers (call.exec mailbox convertMwToDbm p channel 0) (idle category (filled 0xFF)) r := by
  have hmod : (idle category (filled 0xFF)).hw.priv.modType ≠ .qsaAdapter := hasModule_idle.modType_ne
  have hclear : ∀ n, (idle category (filled 0xFF)).Clear n := fun _ _ _ => rfl
  cases call with
  | txControl enable => exact ⟨(), answers_txControl mailbox enable hvalid⟩
  | txControlStatusGet =>
      exact ⟨_, (answers_onChannel hmod).mpr ⟨hvalid, answers_bind_pure.mpr
        ⟨_, (answers_withModule_reads (Fetches.smbusReadByte _ _)).mpr ⟨readsMonitors_idle 1, rfl⟩, rfl⟩⟩⟩
  | cdrStatusSet enable =>
      exact ⟨(), _, ok_cdrStatusSet.mpr ⟨reachesCdr_idle hvalid, setsCdrAt_of_clear (hclear _), rfl⟩⟩
  | cdrStatusGet =>
      exact ⟨_, _, ok_cdrStatusGet.mpr ⟨reachesCdr_idle hvalid, getsCdrAt_of_clear (hclear _), rfl, rfl⟩⟩
  | channelStatusGet flags =>
      exact ⟨_, (answers_mediaChannelStatusGet hmod).mpr ⟨hvalid, readsMonitors_idle _, rfl⟩⟩
  | channelMonitorStatusGet flags =>
      exact ⟨_, (channelScan_of _ _ flags 0 hmod _).mpr ⟨⟨hvalid, readsMonitors_idle _⟩, rfl⟩⟩
  | channelMonitorGet monitor =>
      exact ⟨_, (Reading.answers_channel hmod).mpr ⟨hvalid, fun h => h.2 (hserved h.1), readsMonitors_idle 1, rfl⟩⟩
  | extRateSelect rev cdrEnable =>
      refine ⟨(), (answers_onChannel hmod).mpr ⟨hvalid, p.sel.answers_withModule.mpr ⟨selectsAt_idle p.sel, ?_⟩⟩⟩
      rw [extRateSelectValue_eq_none hlanewise]
      exact answers_smbusReadByte_bind.mpr ⟨rfl, answers_smbusReadByte_bind.mpr ⟨rfl, answers_pure.mpr rfl⟩⟩

/-! ## Calls that do not keep to a lane -/

/-- The modules with one bit set -/
def oneBit (q : Qsfp) (offset : BitVec 32) (k : Nat) : BitVec 16 → Eeprom :=
  q.withRegister (filled 0) offset ((1 : Byte) <<< k)

theorem read_oneBit {offset : BitVec 32} {k : Nat} (hoffset : offset.setWidth 8 < (127 : Byte)) (o : Byte) :
    (q.oneBit offset k q.i2cAddr).read o = if o = offset.setWidth 8 then (1 : Byte) <<< k else 0 := by
  rw [oneBit, read_withRegister hoffset, read_filled]

/-- A bit of another lane does not show in the lane. -/
theorem alike_oneBit {offset : BitVec 32} {k : Nat} (hoffset : offset.setWidth 8 < (127 : Byte))
    (hother : ¬Own category lane (offset.setWidth 8, k)) :
    Alike (q.SameLane category lane) (idle category (filled 0)) (idle category (q.oneBit offset k)) := by
  refine ⟨rfl, rfl, rfl, _, rfl, fun a ha => Function.update_of_ne ha _ _, fun p hp => ?_⟩
  obtain ⟨o, j⟩ := p
  rw [bitAt, bitAt]
  change ((q.oneBit offset k q.i2cAddr).read o).getLsbD j = ((filled 0 q.i2cAddr).read o).getLsbD j
  rw [read_oneBit hoffset, read_filled]
  split
  · rename_i ho
    subst ho
    rw [getLsbD_one_shiftLeft, decide_eq_false (p := j = k), Bool.and_false]
    · exact (BitVec.getLsbD_zero ..).symm
    · rintro rfl
      exact hother hp
  · rfl

/-- The status of a channel in a memory -/
def monitorStatus (flags channel : BitVec 32) (e : Eeprom) : BitVec 32 :=
  report channelFlag (channelTested (e.readIf (asks channelFlag flags rxPwrFlags) (rxPowerInterruptOffset channel))
    (e.readIf (asks channelFlag flags txBiasFlags) (txBiasInterruptOffset channel))) (rxPwrFlags ++ txBiasFlags) 0

theorem answers_channelMonitorStatusGet (q : Qsfp) (flags : BitVec 32) (slaves : BitVec 16 → Eeprom)
    (hvalid : validateChannel channel category = true) :
    Answers (q.channelMonitorStatusGet channel flags 0) (idle category slaves)
      (monitorStatus flags channel (slaves q.i2cAddr)) :=
  (channelScan_of q channel flags 0 hasModule_idle.modType_ne _).mpr ⟨⟨hvalid, readsMonitors_idle _⟩, rfl⟩

theorem monitorStatus_filled : monitorStatus flags channel (filled 0 q.i2cAddr) = 0 := by
  have hzero : ∀ asked offset, (filled 0 q.i2cAddr).readIf asked offset = 0 := fun asked offset => by
    rw [Eeprom.readIf, read_filled, ite_self]
  rw [monitorStatus, hzero, hzero]
  decide

theorem readIf_oneBit {offset offset' : BitVec 32} {k : Nat} (hoffset : offset.setWidth 8 < (127 : Byte))
    (asked : Bool) : (q.oneBit offset k q.i2cAddr).readIf asked offset' =
      if asked = true ∧ offset'.setWidth 8 = offset.setWidth 8 then (1 : Byte) <<< k else 0 := by
  rw [Eeprom.readIf, read_oneBit hoffset, ite_and]

theorem interruptOffsets (channel : BitVec 32) : (rxPowerInterruptOffset channel).setWidth 8 < (127 : Byte) ∧
    (txBiasInterruptOffset channel).setWidth 8 < (127 : Byte) ∧
    (rxPowerInterruptOffset channel).setWidth 8 ≠ (txBiasInterruptOffset channel).setWidth 8 := by
  rw [rxPowerInterruptOffset, txBiasInterruptOffset]
  split <;> decide

/-- Each bit of a register that is asked for has an effect. -/
theorem monitorStatus_rxPwr {k : Nat} (hk : k < 8) (hasked : asks channelFlag flags rxPwrFlags = true) :
    monitorStatus flags channel (q.oneBit (rxPowerInterruptOffset channel) k q.i2cAddr) ≠ 0 := by
  obtain ⟨hrx, -, hne⟩ := interruptOffsets channel
  rw [monitorStatus, readIf_oneBit hrx, readIf_oneBit hrx, if_pos ⟨hasked, rfl⟩, if_neg fun h => hne h.2.symm]
  interval_cases k <;> decide

theorem monitorStatus_txBias {k : Nat} (hk : k < 8) (hasked : asks channelFlag flags txBiasFlags = true) :
    monitorStatus flags channel (q.oneBit (txBiasInterruptOffset channel) k q.i2cAddr) ≠ 0 := by
  obtain ⟨-, htx, hne⟩ := interruptOffsets channel
  rw [monitorStatus, readIf_oneBit htx, readIf_oneBit htx, if_neg fun h => hne h.2, if_pos ⟨hasked, rfl⟩]
  interval_cases k <;> decide

/-- A register that has an effect on a call that acts only on the lane has no bit of another lane. -/
theorem ActsOnly.not_shares {offset : BitVec 32} (hoffset : offset.setWidth 8 < (127 : Byte))
    (hvalid : validateChannel channel category = true)
    (h : q.ActsOnly category channel.toNat (q.channelMonitorStatusGet channel flags 0) (idle category (filled 0)))
    (heffect : ∀ k < 8, monitorStatus flags channel (q.oneBit offset k q.i2cAddr) ≠ 0) :
    ¬Shares category channel.toNat offset := by
  rintro ⟨k, hk, hother⟩
  have heq := h.result_eq _ (alike_oneBit hoffset hother)
  obtain ⟨d', hd⟩ := answers_channelMonitorStatusGet q flags (filled 0) hvalid
  obtain ⟨e', he⟩ := answers_channelMonitorStatusGet q flags (q.oneBit offset k) hvalid
  rw [show (q.channelMonitorStatusGet channel flags 0).out _ = _ from hd,
    show (q.channelMonitorStatusGet channel flags 0).out _ = _ from he] at heq
  exact heffect k hk ((Except.ok.inj heq).trans monitorStatus_filled)

theorem ok_writeChanged {offset : BitVec 32} {old value : Byte} {rc : Except Errno Unit} (hne : old ≠ value)
    (hfault : d.fault d.time = none) : Ok (q.writeChanged offset old value rc) d (.ok ())
      (d.passed 1 (q.withRegister d.hw.slaves offset value)) := by
  rw [writeChanged, if_neg hne]
  exact ok_attempt.mpr (.inl ⟨(), rfl, ok_smbusWriteByte.mpr ⟨hfault, rfl⟩⟩)

/-- The value of a revision is written to registers with another value. -/
theorem ok_extRateSelect {rev : BitVec 32} {cdrEnable : Bool} {b value : Byte}
    (hvalid : validateChannel channel category = true) (hvalue : extRateSelectValue rev cdrEnable = some value)
    (hne : b ≠ value) : ∃ d', Ok (q.extRateSelect channel rev cdrEnable) (idle category (filled b)) () d' ∧
      (d'.hw.slaves q.i2cAddr).read 87 = value := by
  have hread : ∀ o, (filled b q.i2cAddr).read o ≠ value := fun o => by
    rw [read_filled]
    exact hne
  let rxSet := q.withRegister (filled b) rxExtRateSelectOffset value
  let read := ((q.sel.opened (idle category (filled b))).passed 1 (filled b)).passed 1 (filled b)
  refine ⟨q.sel.closed ((read.passed 1 rxSet).passed 1 (q.withRegister rxSet txExtRateSelectOffset value)),
    (ok_onChannel hasModule_idle.modType_ne).mpr
      ⟨hvalid, q.sel.ok_withModule.mpr ⟨selectsAt_idle q.sel, _, ?_, rfl⟩⟩, ?_⟩
  · rw [hvalue]
    exact ok_smbusReadByte_bind.mpr ⟨rfl, ok_smbusReadByte_bind.mpr ⟨rfl, ok_bind.mpr ⟨_, _,
      ok_writeChanged (hread _) rfl, ok_bind.mpr ⟨_, _, ok_writeChanged (hread _) rfl,
        ok_ofResult.mpr ⟨rfl, rfl⟩⟩⟩⟩⟩
  · rw [Selection.closed_slaves, passed_slaves, read_withRegister (by decide), if_neg (by decide),
      read_withRegister (by decide), if_pos (by decide)]

theorem not_ne_self (b : Byte) : ~~~b ≠ b := by
  intro heq
  have hbit := congrArg (BitVec.getLsbD · 0) heq
  rw [BitVec.getLsbD_not] at hbit
  exact Bool.not_ne_self _ hbit

/-- A rate select changes a bit of another lane, whatever the lane is. -/
theorem not_actsOnly_extRateSelect {rev : BitVec 32} {cdrEnable : Bool} {value : Byte}
    (hvalid : validateChannel channel category = true) (hvalue : extRateSelectValue rev cdrEnable = some value) :
    ¬q.ActsOnly category lane (q.extRateSelect channel rev cdrEnable) (idle category (filled (~~~value))) := by
  intro h
  obtain ⟨d', hok, hread⟩ := ok_extRateSelect (q := q) hvalid hvalue (not_ne_self value)
  have hconfined := (leaves_of_ok hok).mp h.confined
  have hbit : ∀ k < 8, laneOf category (87, k) = some lane := by
    intro k hk
    by_contra hother
    have heq := hconfined.bit_eq (87, k) hother
    rw [bitAt, bitAt, hread] at heq
    change _ = ((filled (~~~value) q.i2cAddr).read 87).getLsbD k at heq
    rw [read_filled, BitVec.getLsbD_not, decide_eq_true hk, Bool.true_and] at heq
    exact Bool.not_ne_self _ heq.symm
  have hfirst := hbit 0 (by decide)
  have hsecond := hbit 2 (by decide)
  rw [← hfirst] at hsecond
  cases category <;> exact absurd hsecond (by decide)

end Qsfp

namespace ChannelCall

variable {mailbox : Mailbox} {convertMwToDbm : ℚ → ℚ} {p : Qsfp28Dd} {category : QsfpCategory}
  {channel status : BitVec 32} {call : ChannelCall} {d : State}

theorem onChannel_exec (h : Qsfp.validateChannel (channel + p.subPortChannelOffset) category = true →
      call.Lanewise category (channel + p.subPortChannelOffset)) :
    p.OnChannel category (channel + p.subPortChannelOffset)
      (call.exec mailbox convertMwToDbm p channel status) := by
  cases call with
  | txControl enable => exact Qsfp.onChannel_txControl mailbox enable
  | txControlStatusGet => exact Qsfp.onChannel_txControlStatusGet
  | cdrStatusSet enable => exact Qsfp.onChannel_cdrStatusSet enable
  | cdrStatusGet => exact Qsfp.onChannel_cdrStatusGet
  | channelStatusGet flags => exact Qsfp.onChannel_channelStatusGet
  | channelMonitorStatusGet flags => exact Qsfp.onChannel_channelMonitorStatusGet h
  | channelMonitorGet monitor => exact Qsfp.onChannel_channelMonitorGet convertMwToDbm monitor
  | extRateSelect rev cdrEnable => exact Qsfp.onChannel_extRateSelect h

theorem refuses_of_not_served (hd : HasModule category d)
    (hvalid : Qsfp.validateChannel (channel + p.subPortChannelOffset) category = true)
    (hserved : ¬call.Served category) : Refuses (call.exec mailbox convertMwToDbm p channel status) d := by
  cases call with
  | channelMonitorGet monitor =>
      have htx : monitor = .txPwr ∧ d.hw.priv.modCategory ≠ .qsfpdd := by
        rw [hd.category_eq]
        exact Classical.not_imp.mp hserved
      have herr : Err (p.channelMonitorGet convertMwToDbm channel monitor) d .eopnotsupp d := by
        refine err_bind.mpr (.inr ⟨d.hw.priv, d, ok_getPriv.mpr ⟨rfl, rfl⟩, ?_⟩)
        rw [← hd.category_eq] at hvalid
        rw [if_neg hd.modType_ne, Qsfp28Dd.channelOffsetGet, hvalid, if_neg (by decide),
          Reading.channelMonitorOffset_eq hvalid, if_pos htx]
        rfl
      exact ⟨fun a d' => herr.not_ok, (leaves_of_err herr).mpr rfl⟩
  | _ => exact absurd trivial hserved

/-- A call that is answered has acted on the lane at the offset. -/
theorem Addresses.actsOnly (h : call.Addresses mailbox convertMwToDbm p category channel) (hd : HasModule category d)
    (status : BitVec 32) {r : call.Result} (hr : Answers (call.exec mailbox convertMwToDbm p channel status) d r) :
    p.subPortChannelOffset.toNat + channel.toNat < Qsfp.lanes category ∧
      p.ActsOnly category (p.subPortChannelOffset.toNat + channel.toNat)
        (call.exec mailbox convertMwToDbm p channel status) d := by
  refine (h status d hd).resolve_left fun hrefuses => ?_
  obtain ⟨d', hok⟩ := hr
  exact hrefuses.1 r d' hok

/-- No bit of a lane below the offset is changed. -/
theorem Addresses.bit_eq_of_lt (h : call.Addresses mailbox convertMwToDbm p category channel)
    (hd : HasModule category d) {lane : Nat} (hlane : lane < p.subPortChannelOffset.toNat) {b : Byte × Nat}
    (hb : Qsfp.laneOf category b = some lane) : Leaves (call.exec mailbox convertMwToDbm p channel status) d
      fun d' => p.bitAt d'.hw.slaves b = p.bitAt d.hw.slaves b := by
  rcases h status d hd with hrefuses | ⟨-, hacts⟩
  · exact congrArg (p.bitAt · b) hrefuses.2
  · refine hacts.confined.bit_eq b fun heq => ?_
    have hown := Option.some.inj (hb.symm.trans heq)
    omega

theorem toNat_add_of_lt {o : BitVec 32} (h : o.toNat + channel.toNat < 2 ^ 32) :
    (channel + o).toNat = o.toNat + channel.toNat := by
  rw [BitVec.toNat_add, Nat.mod_eq_of_lt (by omega), Nat.add_comm]

theorem lanes_le (category : QsfpCategory) : Qsfp.lanes category ≤ 8 := by
  cases category <;> decide

theorem Addresses.lanewise (h : call.Addresses mailbox convertMwToDbm p category channel)
    (hvalid : Qsfp.validateChannel (channel + p.subPortChannelOffset) category = true) :
    call.Lanewise category (channel + p.subPortChannelOffset) := by
  cases call with
  | channelMonitorStatusGet flags =>
      obtain ⟨hlt, hacts⟩ := h.actsOnly Qsfp.hasModule_idle 0
        (Qsfp.answers_channelMonitorStatusGet p.toQsfp flags (Qsfp.filled 0) hvalid)
      rw [← toNat_add_of_lt (Nat.lt_of_lt_of_le hlt (Nat.le_trans (lanes_le category) (by decide)))] at hacts
      obtain ⟨hrx, htx, -⟩ := Qsfp.interruptOffsets (channel + p.subPortChannelOffset)
      exact ⟨fun hasked => hacts.not_shares hrx hvalid fun k hk => Qsfp.monitorStatus_rxPwr hk hasked,
        fun hasked => hacts.not_shares htx hvalid fun k hk => Qsfp.monitorStatus_txBias hk hasked⟩
  | extRateSelect rev cdrEnable =>
      have hnone : ∀ value, Qsfp.extRateSelectValue rev cdrEnable ≠ some value := by
        intro value hvalue
        obtain ⟨d', hok, -⟩ := Qsfp.ok_extRateSelect (q := p.toQsfp) hvalid hvalue (Qsfp.not_ne_self value)
        exact Qsfp.not_actsOnly_extRateSelect hvalid hvalue (h.actsOnly Qsfp.hasModule_idle 0 ⟨d', hok⟩).2
      constructor
      · rintro rfl
        exact hnone _ rfl
      · rintro rfl
        exact hnone _ rfl
  | _ => trivial

/-- Each operation on a channel of a sub-port acts only on the lane at its offset, or is refused without a
write, exactly if a channel of the module that it gets to is that lane and it keeps to the lane. -/
theorem addresses_iff (mailbox : Mailbox) (convertMwToDbm : ℚ → ℚ) (p : Qsfp28Dd) (category : QsfpCategory)
    (channel : BitVec 32) (call : ChannelCall) :
    call.Addresses mailbox convertMwToDbm p category channel ↔ call.KeepsLane p category channel := by
  constructor
  · intro h hserved hvalid
    have hlanewise := h.lanewise hvalid
    obtain ⟨r, hr⟩ := Qsfp.answers_exec mailbox convertMwToDbm hserved hvalid hlanewise
    have hlt := (h.actsOnly Qsfp.hasModule_idle 0 hr).1
    have hle := lanes_le category
    exact ⟨by omega, hlanewise⟩
  · intro h status d hd
    cases hvalid : Qsfp.validateChannel (channel + p.subPortChannelOffset) category with
    | false => exact .inl ((onChannel_exec fun h => by rw [hvalid] at h; cases h).refuses hd hvalid)
    | true =>
        by_cases hserved : call.Served category
        · obtain ⟨hlt, hlanewise⟩ := h hserved hvalid
          rw [← toNat_add_of_lt (by omega)]
          exact .inr ⟨Qsfp.validateChannel_iff.mp hvalid, (onChannel_exec fun _ => hlanewise).actsOnly hd hvalid⟩
        · exact .inl (refuses_of_not_served hd hvalid hserved)

/-- The last channel number and an offset of 4 make the lane before the sub-port. -/
theorem not_addresses_wrapped : ¬(txControl true).Addresses (fun e => e.upper) id ⟨muxedCage, 0, 1, 4⟩ .qsfpdd
    0xFFFFFFFF := by
  intro h
  have hlt := (h.actsOnly Qsfp.hasModule_idle 0 (Qsfp.answers_txControl _ true (by decide))).1
  exact absurd hlt (by decide)

end ChannelCall

end OpxSdi.Media
