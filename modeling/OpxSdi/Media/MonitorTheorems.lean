import OpxSdi.Media.Balance
import OpxSdi.Media.Lemmas.Monitor

/-!
# The flags that are reported

When a monitor call that succeeds reports the flags of its mask whose bits are set: the condition is on the bits of
a pair of flags, on those of a neighbouring channel, and on the status before.
-/

namespace OpxSdi.Media

open Lib Device Flags

/-! ## The bit of a flag -/

/-- A bit of a register of a module. -/
structure RegisterBit where
  addr : BitVec 16
  offset : BitVec 32
  bit : Nat

def RegisterBit.value (b : RegisterBit) (slaves : BitVec 16 → Eeprom) : Bool :=
  ((slaves b.addr).read (b.offset.setWidth 8)).getLsbD b.bit

namespace Sfp

def moduleRegister : ModuleMonitor × Level → Side → Option RegisterBit
  | (m, .alarm), s => some ⟨sfpI2cAddr, alarmStatus1Offset, moduleStatusBit m s⟩
  | (m, .warning), s => some ⟨sfpI2cAddr, warningStatus1Offset, moduleStatusBit m s⟩

def channelRegister : ChannelMonitor × Level → Side → Option RegisterBit
  | (.rxPwr, .alarm), s => some ⟨sfpI2cAddr, alarmStatus2Offset, channelStatusBit .rxPwr s⟩
  | (.rxPwr, .warning), s => some ⟨sfpI2cAddr, warningStatus2Offset, channelStatusBit .rxPwr s⟩
  | (m, .alarm), s => some ⟨sfpI2cAddr, alarmStatus1Offset, channelStatusBit m s⟩
  | (m, .warning), s => some ⟨sfpI2cAddr, warningStatus1Offset, channelStatusBit m s⟩

end Sfp

namespace Qsfp

def moduleRegister (q : Qsfp) (category : QsfpCategory) : ModuleMonitor × Level → Side → Option RegisterBit
  | (.temp, l), s => some ⟨q.i2cAddr, tempInterruptOffset category, interruptBit l s + 4⟩
  | (.volt, l), s => some ⟨q.i2cAddr, voltInterruptOffset category, interruptBit l s + 4⟩

/-- `QSFP_DD_RX_POWER_LW_INTERRUPT_OFFSET` to `QSFP_DD_TX_POWER_HA_INTERRUPT_OFFSET`: one register for each
flag, with a bit for each channel -/
def ddInterruptOffset : ChannelMonitor × Level → Side → Option (BitVec 32)
  | (.rxPwr, .warning), .low => some 10
  | (.rxPwr, .alarm), .low => some 11
  | (.rxPwr, .alarm), .high => some 12
  | (.txBias, .alarm), .low => some 13
  | (.txBias, .alarm), .high => some 14
  | (.txPwr, .alarm), .low => some 15
  | (.txPwr, .alarm), .high => some 16
  | _, _ => none

/-- The first channel of a register has the upper half. -/
def channelInterruptBit (channel : BitVec 32) (l : Level) (s : Side) : Nat :=
  if channel.getLsbD 0 then interruptBit l s else interruptBit l s + 4

def channelRegister (q : Qsfp) (category : QsfpCategory) (channel : BitVec 32) (p : ChannelMonitor × Level)
    (s : Side) : Option RegisterBit :=
  if category = .qsfpdd then (ddInterruptOffset p s).map fun offset => ⟨q.i2cAddr, offset, channel.toNat⟩
  else match p with
    | (.rxPwr, l) => some ⟨q.i2cAddr, rxPowerInterruptOffset channel, channelInterruptBit channel l s⟩
    | (.txBias, l) => some ⟨q.i2cAddr, txBiasInterruptOffset channel, channelInterruptBit channel l s⟩
    | (.txPwr, _) => none

end Qsfp

/-! ## Calls -/

inductive MonitorDriver
  | sfp (s : Sfp)
  | qsfp (q : Qsfp)

inductive MonitorCall
  | module
  | channel (channel : BitVec 32)

/-- The driver that makes the call: that of the SFP device for an adapter. -/
def MonitorDriver.target (priv : QsfpDevice) : MonitorDriver → MonitorDriver
  | .sfp s => .sfp s
  | .qsfp q => if priv.modType = .qsaAdapter then .sfp q.sfp else .qsfp q

/-- An adapter has its SFP device. -/
def MonitorDriver.HasTarget (priv : QsfpDevice) : MonitorDriver → Prop
  | .sfp _ => True
  | .qsfp _ => priv.modType = .qsaAdapter → priv.sfpDevice ≠ none

namespace MonitorCall

abbrev Pair : MonitorCall → Type
  | module => ModuleMonitor × Level
  | channel _ => ChannelMonitor × Level

def flag : (c : MonitorCall) → c.Pair → Side → Nat
  | module => moduleFlag
  | channel _ => channelFlag

def exec (flags status : BitVec 32) : MonitorDriver → MonitorCall → M (BitVec 32)
  | .sfp s, module => s.moduleMonitorStatusGet flags
  | .sfp s, channel n => s.channelMonitorStatusGet n flags
  | .qsfp q, module => q.moduleMonitorStatusGet flags status
  | .qsfp q, channel n => q.channelMonitorStatusGet n flags status

def register (category : QsfpCategory) : MonitorDriver → (c : MonitorCall) → c.Pair → Side →
    Option RegisterBit
  | .sfp _, module => Sfp.moduleRegister
  | .sfp _, channel _ => Sfp.channelRegister
  | .qsfp q, module => q.moduleRegister category
  | .qsfp q, channel n => q.channelRegister category n

def scan (flags status : BitVec 32) (d : State) : MonitorDriver → (c : MonitorCall) → Scan c.Pair
  | .sfp s, module => s.moduleScan flags d
  | .sfp s, channel n => s.channelScan n flags d
  | .qsfp q, module => q.moduleScan flags status d
  | .qsfp q, channel n => q.channelScan n flags status d

/-- The flag is asked for, and its own bit is set. -/
def Raised (dev : MonitorDriver) (c : MonitorCall) (flags : BitVec 32) (d : State) (p : c.Pair)
    (s : Side) : Prop :=
  flags.getLsbD (c.flag p s) = true ∧
    ∃ b, c.register d.hw.priv.modCategory (dev.target d.hw.priv) p s = some b ∧ b.value d.hw.slaves = true

end MonitorCall

/-- A call that succeeds has set the status to the flags that are asked for and raised. -/
def Reports (dev : MonitorDriver) (c : MonitorCall) (flags status : BitVec 32) (d : State) : Prop :=
  ∀ r, Answers (c.exec flags status dev) d r → Holds c.flag r (c.Raised dev flags d)

/-! ## The condition -/

/-- The own bit of a flag. It is clear if there is no register for it. -/
def ownBit {P : Type} (register : P → Side → Option RegisterBit) (d : State) (p : P) (s : Side) : Bool :=
  (register p s).elim false fun b => b.value d.hw.slaves

section

variable {P : Type} (flag : P → Side → Nat) (register : P → Side → Option RegisterBit) (flags status : BitVec 32)
  (d : State)

def PairAgrees (p : P) : Prop :=
  Agrees (fun s => flags.getLsbD (flag p s)) (ownBit register d p) fun s => status.getLsbD (flag p s)

/-- Each bit of the status before is the flag of a bit that is set and asked for. -/
def PriorAgrees : Prop := ∀ i, status.getLsbD i = true → ∃ p s, flag p s = i ∧
  flags.getLsbD (flag p s) = true ∧ ownBit register d p s = true

end

namespace Sfp

/-- The flags of the register that a module flag is in. The register is read for any of them. -/
def moduleGroup : Level → List (ModuleMonitor × Level)
  | .alarm => moduleAlarms
  | .warning => moduleWarnings

def txGroup : Level → List (ChannelMonitor × Level)
  | .alarm => txAlarms
  | .warning => txWarnings

def rxGroup : Level → List (ChannelMonitor × Level)
  | .alarm => rxAlarms
  | .warning => rxWarnings

def ModuleBitsAgree (flags : BitVec 32) (d : State) : Prop :=
  ∀ p, asks moduleFlag flags (moduleGroup p.2) = true → PairAgrees moduleFlag moduleRegister flags 0 d p

/-- The bit that is tested for the low flag of the receiver: it is in the register of the transmitter. -/
def strayRegister : Level → RegisterBit
  | .alarm => ⟨sfpI2cAddr, alarmStatus1Offset, channelStatusBit .rxPwr .low⟩
  | .warning => ⟨sfpI2cAddr, warningStatus1Offset, channelStatusBit .rxPwr .low⟩

/-- Of the receiver, the high bit is asked for if it is set, and the low one is set and asked for iff the stray bit
is read, set and not hidden by the high one. -/
structure RxBitsAgree (flags : BitVec 32) (d : State) (l : Level) : Prop where
  high : asks channelFlag flags (rxGroup l) = true → ownBit channelRegister d (.rxPwr, l) .high = true →
    flags.getLsbD (channelFlag (.rxPwr, l) .high) = true
  low : asks channelFlag flags (txGroup l) = true ∧ (strayRegister l).value d.hw.slaves = true ∧
      ¬(asks channelFlag flags (rxGroup l) = true ∧ ownBit channelRegister d (.rxPwr, l) .high = true) ↔
    flags.getLsbD (channelFlag (.rxPwr, l) .low) = true ∧ ownBit channelRegister d (.rxPwr, l) .low = true

def ChannelBitsAgree (flags : BitVec 32) (d : State) : Prop :=
  (∀ m l, m ≠ .rxPwr → asks channelFlag flags (txGroup l) = true →
    PairAgrees channelFlag channelRegister flags 0 d (m, l)) ∧
  ∀ l, RxBitsAgree flags d l

end Sfp

namespace Qsfp

def moduleGroup : ModuleMonitor → List (ModuleMonitor × Level)
  | .temp => tempFlags
  | .volt => voltFlags

/-- There is no read for the power of the transmitter. -/
def channelGroup : ChannelMonitor → List (ChannelMonitor × Level)
  | .rxPwr => rxPwrFlags
  | .txBias => txBiasFlags
  | .txPwr => []

def ModuleBitsAgree (q : Qsfp) (flags status : BitVec 32) (d : State) : Prop :=
  let register := q.moduleRegister d.hw.priv.modCategory
  PriorAgrees moduleFlag register flags status d ∧
    ∀ p, asks moduleFlag flags (moduleGroup p.1) = true → PairAgrees moduleFlag register flags status d p

/-- The other half of a register is for the neighbour of a channel. -/
def neighbourInterruptBit (channel : BitVec 32) (l : Level) (s : Side) : Nat :=
  if channel.getLsbD 0 then interruptBit l s + 4 else interruptBit l s

def neighbourRegister (q : Qsfp) (channel : BitVec 32) : ChannelMonitor × Level → Side → Option RegisterBit
  | (.rxPwr, l), s => some ⟨q.i2cAddr, rxPowerInterruptOffset channel, neighbourInterruptBit channel l s⟩
  | (.txBias, l), s => some ⟨q.i2cAddr, txBiasInterruptOffset channel, neighbourInterruptBit channel l s⟩
  | (.txPwr, _), _ => none

/-- The neighbour has no bit set where the channel has none, unless the high flag of the channel hides it. -/
def NeighbourAgrees (q : Qsfp) (category : QsfpCategory) (channel : BitVec 32) (d : State)
    (p : ChannelMonitor × Level) : Prop :=
  let own := ownBit (q.channelRegister category channel) d p
  let neighbour := ownBit (q.neighbourRegister channel) d p
  (neighbour .high = true → own .high = true) ∧ (neighbour .low = true → own .high = true ∨ own .low = true)

/-- Registers 9 to 12 of a plain QSFP, read on a QSFP-DD: the bits of a flag in both halves -/
def plainBit (q : Qsfp) (channel flags : BitVec 32) (d : State) (p : ChannelMonitor × Level) (s : Side) : Bool :=
  asks channelFlag flags (channelGroup p.1) &&
    (ownBit (q.channelRegister .qsfp channel) d p s || ownBit (q.neighbourRegister channel) d p s)

/-- On a QSFP-DD the bits that are tested have the values of the own bits that are asked for. -/
def DdBitsAgree (q : Qsfp) (channel flags status : BitVec 32) (d : State) (p : ChannelMonitor × Level) : Prop :=
  PairExact (q.plainBit channel flags d p) (fun s => status.getLsbD (channelFlag p s)) fun s =>
    flags.getLsbD (channelFlag p s) = true ∧ ownBit (q.channelRegister .qsfpdd channel) d p s = true

def ChannelBitsAgree (q : Qsfp) (channel flags status : BitVec 32) (d : State) : Prop :=
  let category := d.hw.priv.modCategory
  PriorAgrees channelFlag (q.channelRegister category channel) flags status d ∧
    if category = .qsfpdd then ∀ p, q.DdBitsAgree channel flags status d p
    else ∀ p, asks channelFlag flags (channelGroup p.1) = true →
      PairAgrees channelFlag (q.channelRegister category channel) flags status d p ∧
        q.NeighbourAgrees category channel d p

end Qsfp

namespace MonitorCall

/-- The channel is valid, the module has alarm flags if it is an SFP, and the selection and the reads succeed. -/
def Completes (flags : BitVec 32) (d : State) : MonitorDriver → MonitorCall → Prop
  | .sfp s, module =>
      s.ReadsAlarms ((asks moduleFlag flags Sfp.moduleAlarms).toNat +
        (asks moduleFlag flags Sfp.moduleWarnings).toNat) d
  | .sfp s, channel n => n = Sfp.channelNum ∧
      s.ReadsAlarms ((asks channelFlag flags Sfp.txAlarms).toNat + ((asks channelFlag flags Sfp.rxAlarms).toNat +
        ((asks channelFlag flags Sfp.txWarnings).toNat + (asks channelFlag flags Sfp.rxWarnings).toNat))) d
  | .qsfp q, module =>
      q.ReadsMonitors ((asks moduleFlag flags Qsfp.tempFlags).toNat +
        (asks moduleFlag flags Qsfp.voltFlags).toNat) d
  | .qsfp q, channel n => Qsfp.validateChannel n d.hw.priv.modCategory = true ∧
      q.ReadsMonitors ((asks channelFlag flags Qsfp.rxPwrFlags).toNat +
        (asks channelFlag flags Qsfp.txBiasFlags).toNat) d

/-- The bits of the registers, by the driver that reads them -/
def BitsAgree (flags status : BitVec 32) (d : State) : MonitorDriver → MonitorCall → Prop
  | .sfp _, module => Sfp.ModuleBitsAgree flags d
  | .sfp _, channel _ => Sfp.ChannelBitsAgree flags d
  | .qsfp q, module => q.ModuleBitsAgree flags status d
  | .qsfp q, channel n => q.ChannelBitsAgree n flags status d

/-- The bits agree in a call that succeeds. -/
def ReadsAgreeing (dev : MonitorDriver) (c : MonitorCall) (flags status : BitVec 32) (d : State) : Prop :=
  dev.HasTarget d.hw.priv → c.Completes flags d (dev.target d.hw.priv) →
    c.BitsAgree flags status d (dev.target d.hw.priv)

end MonitorCall

/-! ## What a call returns -/

theorem flagBit_lt {n : Nat} (h : n < 8) (l : Level) (s : Side) : flagBit n l s < 32 := by
  cases l <;> cases s <;> simp only [flagBit] <;> omega

theorem flagBit_inj {m n : Nat} {l l' : Level} {s s' : Side} (h : flagBit m l s = flagBit n l' s') :
    m = n ∧ l = l' ∧ s = s' := by
  cases l <;> cases l' <;> cases s <;> cases s' <;> simp only [flagBit] at h <;>
    first | exact ⟨by omega, rfl, rfl⟩ | omega

namespace MonitorCall

theorem flag_lt (c : MonitorCall) (p : c.Pair) (s : Side) : c.flag p s < 32 := by
  cases c with
  | module => obtain ⟨_ | _, l⟩ := p <;> exact flagBit_lt (by decide) l s
  | channel => obtain ⟨_ | _ | _, l⟩ := p <;> exact flagBit_lt (by decide) l s

theorem flag_inj (c : MonitorCall) {p p' : c.Pair} {s s' : Side} (h : c.flag p s = c.flag p' s') :
    p = p' ∧ s = s' := by
  cases c with
  | module =>
      obtain ⟨_ | _, l⟩ := p <;> obtain ⟨_ | _, l'⟩ := p' <;> obtain ⟨hm, rfl, rfl⟩ := flagBit_inj h <;>
        first | exact ⟨rfl, rfl⟩ | cases hm
  | channel =>
      obtain ⟨_ | _ | _, l⟩ := p <;> obtain ⟨_ | _ | _, l'⟩ := p' <;> obtain ⟨hm, rfl, rfl⟩ :=
        flagBit_inj h <;>
        first | exact ⟨rfl, rfl⟩ | cases hm

/-- A QSFP call on an adapter is that of its SFP device. -/
theorem answers_adapter {q : Qsfp} {c : MonitorCall} {flags status r : BitVec 32} {d : State}
    (hmod : d.hw.priv.modType = .qsaAdapter) : Answers (c.exec flags status (.qsfp q)) d r ↔
      d.hw.priv.sfpDevice ≠ none ∧ Answers (c.exec flags status (.sfp q.sfp)) d r := by
  cases c with
  | module =>
      change Answers (q.moduleMonitorStatusGet flags status) d r ↔ _
      rw [Qsfp.moduleMonitorStatusGet, getPriv, answers_internal_bind, if_pos hmod]
      exact answers_assert_bind_iff
  | channel n =>
      change Answers (q.channelMonitorStatusGet n flags status) d r ↔ _
      rw [Qsfp.channelMonitorStatusGet, getPriv, answers_internal_bind, if_pos hmod]
      exact answers_assert_bind_iff

theorem scan_of_sfp (s : Sfp) (c : MonitorCall) (flags status : BitVec 32) (d : State) :
    (c.scan flags status d (.sfp s)).Of c.flag (c.exec flags status (.sfp s)) d := by
  cases c with
  | module => exact s.moduleScan_of flags d
  | channel n => exact s.channelScan_of n flags d

theorem scan_of_qsfp (q : Qsfp) (c : MonitorCall) (flags status : BitVec 32) {d : State}
    (hmod : d.hw.priv.modType ≠ .qsaAdapter) :
    (c.scan flags status d (.qsfp q)).Of c.flag (c.exec flags status (.qsfp q)) d := by
  cases c with
  | module => exact q.moduleScan_of flags status hmod
  | channel n => exact q.channelScan_of n flags status hmod

theorem answers_exec (dev : MonitorDriver) (c : MonitorCall) (flags status : BitVec 32) (d : State)
    (r : BitVec 32) :
    let scan := c.scan flags status d (dev.target d.hw.priv)
    Answers (c.exec flags status dev) d r ↔ dev.HasTarget d.hw.priv ∧ scan.succeeds ∧
      r = report c.flag scan.tested scan.pairs scan.status := by
  cases dev with
  | sfp s => exact (scan_of_sfp s c flags status d r).trans (and_iff_right trivial).symm
  | qsfp q =>
      dsimp only [MonitorDriver.target, MonitorDriver.HasTarget]
      by_cases hmod : d.hw.priv.modType = .qsaAdapter
      · rw [if_pos hmod, answers_adapter hmod, scan_of_sfp q.sfp c flags status d r]
        simp only [hmod, forall_const]
      · rw [if_neg hmod, scan_of_qsfp q c flags status hmod r]
        simp only [hmod, false_imp_iff, true_and]

end MonitorCall

/-! ## The bits of a call -/

section

variable {P : Type} {flag : P → Side → Nat} {flags : BitVec 32} {ps : List P} {p : P}

/-- A flag that is asked for is in a register that is read. -/
theorem asks_of_mem (hp : p ∈ ps) (s : Side) (h : flags.getLsbD (flag p s) = true) : asks flag flags ps = true := by
  refine List.any_eq_true.mpr ⟨p, hp, ?_⟩
  cases s with
  | high => rw [h, Bool.true_or]
  | low => rw [h, Bool.or_true]

theorem Eeprom.getLsbD_readIf {e : Eeprom} {asked : Bool} {offset : BitVec 32} {i : Nat} :
    (e.readIf asked offset).getLsbD i = (asked && (e.read (offset.setWidth 8)).getLsbD i) := by
  cases asked with
  | false => exact BitVec.getLsbD_zero
  | true => rfl

end

/-- The report of a scan is the set of the flags whose own bits are set and asked for. -/
def Scan.IsExact {P : Type} (scan : Scan P) (flag : P → Side → Nat) (register : P → Side → Option RegisterBit)
    (flags : BitVec 32) (d : State) : Prop :=
  Exact flag scan.tested scan.pairs scan.status fun p s =>
    flags.getLsbD (flag p s) = true ∧ ownBit register d p s = true

theorem no_prior {P : Type} (flag : P → Side → Nat) (register : P → Side → Option RegisterBit) (flags : BitVec 32)
    (d : State) : PriorAgrees flag register flags 0 d :=
  fun _ h => absurd (BitVec.getLsbD_zero.symm.trans h) Bool.false_ne_true

namespace Sfp

variable {s : Sfp} {flags : BitVec 32} {d : State}

theorem module_exact_iff :
    (s.moduleScan flags d).IsExact moduleFlag moduleRegister flags d ↔ ModuleBitsAgree flags d := by
  have hall : ∀ p : ModuleMonitor × Level, p ∈ moduleAlarms ++ moduleWarnings := by
    rintro ⟨_ | _, _ | _⟩ <;> decide
  have hgroup : ∀ p : ModuleMonitor × Level, p ∈ moduleGroup p.2 := by
    rintro ⟨_ | _, _ | _⟩ <;> decide
  have htested : ∀ p, (s.moduleScan flags d).tested p = fun s =>
      asks moduleFlag flags (moduleGroup p.2) && ownBit moduleRegister d p s := by
    rintro ⟨m, _ | _⟩ <;> exact funext fun _ => Eeprom.getLsbD_readIf
  refine (exact_iff fun p hp _ => absurd (hall p) hp).trans ?_
  refine (and_iff_right (no_prior moduleFlag moduleRegister flags d)).trans (forall_congr' fun p => ?_)
  rw [htested]
  exact pairExact_iff fun s h => asks_of_mem (hgroup p) s h

theorem channel_pair_iff {m : ChannelMonitor} (hm : m ≠ .rxPwr) (l : Level) {channel : BitVec 32} :
    PairExact ((s.channelScan channel flags d).tested (m, l))
      (fun s => (0 : BitVec 32).getLsbD (channelFlag (m, l) s))
      (fun s => flags.getLsbD (channelFlag (m, l) s) = true ∧ ownBit channelRegister d (m, l) s = true) ↔
    (asks channelFlag flags (txGroup l) = true → PairAgrees channelFlag channelRegister flags 0 d (m, l)) := by
  have hgroup : (m, l) ∈ txGroup l := by
    cases m <;> cases l <;> first | exact absurd rfl hm | decide
  have htested : (s.channelScan channel flags d).tested (m, l) = fun s =>
      asks channelFlag flags (txGroup l) && ownBit channelRegister d (m, l) s := by
    cases m <;> cases l <;> first | exact absurd rfl hm | exact funext fun _ => Eeprom.getLsbD_readIf
  rw [htested]
  exact pairExact_iff fun s h => asks_of_mem hgroup s h

theorem channel_rx_iff (l : Level) {channel : BitVec 32} :
    PairExact ((s.channelScan channel flags d).tested (.rxPwr, l))
      (fun s => (0 : BitVec 32).getLsbD (channelFlag (.rxPwr, l) s))
      (fun s => flags.getLsbD (channelFlag (.rxPwr, l) s) = true ∧
        ownBit channelRegister d (.rxPwr, l) s = true) ↔ RxBitsAgree flags d l := by
  have hhigh : (s.channelScan channel flags d).tested (.rxPwr, l) .high = true ↔
      asks channelFlag flags (rxGroup l) = true ∧ ownBit channelRegister d (.rxPwr, l) .high = true := by
    rw [← Bool.and_eq_true]
    cases l <;> exact iff_of_eq (congrArg (· = true) Eeprom.getLsbD_readIf)
  have hlow : (s.channelScan channel flags d).tested (.rxPwr, l) .low = true ↔
      asks channelFlag flags (txGroup l) = true ∧ (strayRegister l).value d.hw.slaves = true := by
    rw [← Bool.and_eq_true]
    cases l <;> exact iff_of_eq (congrArg (· = true) Eeprom.getLsbD_readIf)
  have hclear := (Bool.not_eq_true _).symm.to_iff.trans (not_congr hhigh)
  have hzero : ∀ i, (0 : BitVec 32).getLsbD i ≠ true := fun _ h =>
    Bool.false_ne_true (BitVec.getLsbD_zero.symm.trans h)
  constructor
  · intro h
    refine ⟨fun hread hown => (h.high (hhigh.mpr ⟨hread, hown⟩)).1, fun ⟨hread, hstray, hhidden⟩ =>
      h.low (hclear.mpr hhidden) (hlow.mpr ⟨hread, hstray⟩), fun hflag => ?_⟩
    obtain ⟨hhidden, htested⟩ := (h.low_reported hflag).resolve_left (hzero _)
    exact ⟨(hlow.mp htested).1, (hlow.mp htested).2, hclear.mp hhidden⟩
  · intro h
    refine ⟨fun htested => ?_, fun hhidden htested => ?_, fun hflag => ?_, fun hflag => ?_⟩
    · obtain ⟨hread, hown⟩ := hhigh.mp htested
      exact ⟨h.high hread hown, hown⟩
    · obtain ⟨hread, hstray⟩ := hlow.mp htested
      exact h.low.mp ⟨hread, hstray, hclear.mp hhidden⟩
    · exact .inr (hhigh.mpr ⟨asks_of_mem (by cases l <;> decide) .high hflag.1, hflag.2⟩)
    · obtain ⟨hread, hstray, hhidden⟩ := h.low.mpr hflag
      exact .inr ⟨hclear.mpr hhidden, hlow.mpr ⟨hread, hstray⟩⟩

theorem channel_exact_iff {channel : BitVec 32} :
    (s.channelScan channel flags d).IsExact channelFlag channelRegister flags d ↔ ChannelBitsAgree flags d := by
  have hall : ∀ p : ChannelMonitor × Level, p ∈ txAlarms ++ rxAlarms ++ txWarnings ++ rxWarnings := by
    rintro ⟨_ | _ | _, _ | _⟩ <;> decide
  refine (exact_iff fun p hp _ => absurd (hall p) hp).trans ?_
  refine (and_iff_right (no_prior channelFlag channelRegister flags d)).trans ?_
  constructor
  · exact fun h => ⟨fun m l hm => (channel_pair_iff hm l).mp (h (m, l)), fun l => (channel_rx_iff l).mp (h (.rxPwr, l))⟩
  · rintro ⟨htx, hrx⟩ ⟨m, l⟩
    by_cases hm : m = .rxPwr
    · subst hm
      exact (channel_rx_iff l).mpr (hrx l)
    · exact (channel_pair_iff hm l).mpr (htx m l hm)

end Sfp

namespace Qsfp

variable {q : Qsfp} {channel flags status : BitVec 32} {d : State}

theorem module_exact_iff : (q.moduleScan flags status d).IsExact moduleFlag
    (q.moduleRegister d.hw.priv.modCategory) flags d ↔ q.ModuleBitsAgree flags status d := by
  have hall : ∀ p : ModuleMonitor × Level, p ∈ tempFlags ++ voltFlags := by
    rintro ⟨_ | _, _ | _⟩ <;> decide
  have hgroup : ∀ p : ModuleMonitor × Level, p ∈ moduleGroup p.1 := by
    rintro ⟨_ | _, _ | _⟩ <;> decide
  have htested : ∀ p, (q.moduleScan flags status d).tested p = fun s =>
      asks moduleFlag flags (moduleGroup p.1) && ownBit (q.moduleRegister d.hw.priv.modCategory) d p s := by
    rintro ⟨_ | _, l⟩ <;> exact funext fun _ => Eeprom.getLsbD_readIf
  refine (exact_iff fun p hp _ => absurd (hall p) hp).trans ?_
  refine and_congr_right fun _ => forall_congr' fun p => ?_
  rw [htested]
  exact pairExact_iff fun s h => asks_of_mem (hgroup p) s h

/-- The bits of a flag in both halves of a register -/
theorem halves (e : Eeprom) (asked : Bool) (offset channel : BitVec 32) (l : Level) (s : Side) :
    ((e.readIf asked offset).getLsbD (interruptBit l s + 4) || (e.readIf asked offset).getLsbD (interruptBit l s)) =
      (asked && ((e.read (offset.setWidth 8)).getLsbD (channelInterruptBit channel l s) ||
        (e.read (offset.setWidth 8)).getLsbD (neighbourInterruptBit channel l s))) := by
  rw [Eeprom.getLsbD_readIf, Eeprom.getLsbD_readIf, ← Bool.and_or_distrib_left, channelInterruptBit,
    neighbourInterruptBit]
  split
  · rw [Bool.or_comm]
  · rfl

/-- A flag is tested in the half of its channel and in that of the neighbour. -/
theorem channel_tested {category : QsfpCategory} (hcategory : category ≠ .qsfpdd) (p : ChannelMonitor × Level) :
    (q.channelScan channel flags status d).tested p = fun s => asks channelFlag flags (channelGroup p.1) &&
      (ownBit (q.channelRegister category channel) d p s || ownBit (q.neighbourRegister channel) d p s) := by
  funext s
  have hregister : q.channelRegister category channel p s = q.channelRegister .qsfp channel p s := by
    simp only [channelRegister, hcategory, reduceCtorEq, if_false]
  rw [ownBit, hregister]
  obtain ⟨_ | _ | _, l⟩ := p
  · exact halves _ _ _ channel l s
  · exact halves _ _ _ channel l s
  · exact (Bool.and_false _).symm

theorem channel_pair_iff {category : QsfpCategory} (hcategory : category ≠ .qsfpdd) (p : ChannelMonitor × Level) :
    PairExact ((q.channelScan channel flags status d).tested p) (fun s => status.getLsbD (channelFlag p s))
      (fun s => flags.getLsbD (channelFlag p s) = true ∧
        ownBit (q.channelRegister category channel) d p s = true) ↔
    (asks channelFlag flags (channelGroup p.1) = true →
      PairAgrees channelFlag (q.channelRegister category channel) flags status d p ∧
        q.NeighbourAgrees category channel d p) := by
  rw [channel_tested hcategory]
  by_cases hp : p.1 = .txPwr
  · -- There is no bit for the power of the transmitter.
    obtain ⟨m, l⟩ := p
    obtain rfl : m = .txPwr := hp
    have hown : ∀ s, ownBit (q.channelRegister category channel) d (.txPwr, l) s ≠ true := fun s => by
      rw [ownBit, channelRegister, if_neg hcategory]
      exact Bool.false_ne_true
    refine iff_of_true ⟨?_, ?_, ?_, ?_⟩ fun h => absurd h Bool.false_ne_true
    · exact fun h => absurd h Bool.false_ne_true
    · exact fun _ h => absurd h Bool.false_ne_true
    · exact fun h => absurd h.2 (hown .high)
    · exact fun h => absurd h.2 (hown .low)
  · have hgroup : p ∈ channelGroup p.1 := by
      obtain ⟨_ | _ | _, _ | _⟩ := p <;> first | exact absurd rfl hp | decide
    exact pairExact_neighbour_iff fun s h => asks_of_mem hgroup s h

theorem channel_exact_iff : (q.channelScan channel flags status d).IsExact channelFlag
    (q.channelRegister d.hw.priv.modCategory channel) flags d ↔ q.ChannelBitsAgree channel flags status d := by
  have hpairs : ∀ p ∉ (q.channelScan channel flags status d).pairs, ∀ s,
      (q.channelScan channel flags status d).tested p s = false := by
    have hall : ∀ m l, m ≠ .txPwr → (m, l) ∈ rxPwrFlags ++ txBiasFlags := by
      rintro (_ | _ | _) (_ | _) hm <;> first | exact absurd rfl hm | decide
    rintro ⟨m, l⟩ hp s
    obtain rfl : m = .txPwr := Decidable.byContradiction fun hm => hp (hall m l hm)
    rfl
  refine (exact_iff hpairs).trans (and_congr_right fun _ => ?_)
  by_cases hcategory : d.hw.priv.modCategory = .qsfpdd
  · rw [if_pos hcategory, hcategory]
    refine forall_congr' fun p => ?_
    have hplain : QsfpCategory.qsfp ≠ .qsfpdd := by decide
    rw [channel_tested hplain]
    exact Iff.rfl
  · rw [if_neg hcategory]
    exact forall_congr' fun p => channel_pair_iff hcategory p

end Qsfp

/-- A scan is exact iff the bits agree. -/
theorem MonitorCall.exact_iff_bitsAgree (dev : MonitorDriver) (c : MonitorCall) (flags status : BitVec 32)
    (d : State) : (c.scan flags status d dev).IsExact c.flag (c.register d.hw.priv.modCategory dev) flags d ↔
      c.BitsAgree flags status d dev := by
  cases dev with
  | sfp s =>
      cases c with
      | module => exact Sfp.module_exact_iff
      | channel n => exact Sfp.channel_exact_iff
  | qsfp q =>
      cases c with
      | module => exact Qsfp.module_exact_iff
      | channel n => exact Qsfp.channel_exact_iff

theorem MonitorCall.raised_iff {dev : MonitorDriver} {c : MonitorCall} {flags : BitVec 32} {d : State} {p : c.Pair}
    {s : Side} : c.Raised dev flags d p s ↔ flags.getLsbD (c.flag p s) = true ∧
      ownBit (c.register d.hw.priv.modCategory (dev.target d.hw.priv)) d p s = true := by
  rw [Raised, ownBit]
  refine and_congr_right fun _ => ?_
  cases c.register d.hw.priv.modCategory (dev.target d.hw.priv) p s with
  | none => exact iff_of_false (fun ⟨_, h, _⟩ => absurd h (Option.some_ne_none _).symm) Bool.false_ne_true
  | some b => exact ⟨fun ⟨_, h, hvalue⟩ => Option.some.inj h ▸ hvalue, fun h => ⟨b, rfl, h⟩⟩

theorem MonitorCall.completes_iff (c : MonitorCall) (flags status : BitVec 32) (d : State) (dev : MonitorDriver) :
    (c.scan flags status d dev).succeeds ↔ c.Completes flags d dev := by
  cases dev <;> cases c <;> exact Iff.rfl

/-- A monitor call reports the raised flags exactly when the bits that it reads agree with the mask, with the
neighbour's and with the status before. -/
theorem reports_iff (dev : MonitorDriver) (c : MonitorCall) (flags status : BitVec 32) (d : State) :
    Reports dev c flags status d ↔ c.ReadsAgreeing dev flags status d := by
  have hexact := fun tested ps prior => @holds_report_iff _ 32 c.flag tested ps prior (c.Raised dev flags d)
    c.flag_lt fun _ _ _ _ => c.flag_inj
  have hbits := c.exact_iff_bitsAgree (dev.target d.hw.priv) flags status d
  rw [Scan.IsExact] at hbits
  simp only [← MonitorCall.raised_iff] at hbits
  rw [Reports, MonitorCall.ReadsAgreeing, ← hbits, ← c.completes_iff flags status]
  simp only [c.answers_exec]
  constructor
  · intro h htarget hsucceeds
    exact (hexact _ _ _).mp (h _ ⟨htarget, hsucceeds, rfl⟩)
  · rintro h r ⟨htarget, hsucceeds, rfl⟩
    exact (hexact _ _ _).mpr (h htarget hsucceeds)

/-- The high alarm of the second channel is reported for the first one. -/
theorem not_reports_neighbour : ¬Reports (.qsfp muxedCage) (.channel 0) 1 0
    (insert (registered fun _ => none) fun _ => ⟨Function.update (fun _ => 0) 9 0x08, fun _ _ => 0⟩) := by
  intro h
  obtain ⟨p, s, hbit, -, b, hregister, hvalue⟩ := (h 1 ⟨_, rfl⟩ 0).mp rfl
  have hflag : p = (.rxPwr, .alarm) ∧ s = .high := MonitorCall.flag_inj (.channel 0) hbit
  obtain ⟨rfl, rfl⟩ := hflag
  cases hregister
  exact absurd hvalue (by decide)

end OpxSdi.Media
