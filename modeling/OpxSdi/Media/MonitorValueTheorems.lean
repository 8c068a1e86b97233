import Mathlib.Tactic.IntervalCases
import Mathlib.Tactic.Ring
import OpxSdi.Media.CalibrationTheorems
import OpxSdi.Media.MonitorValue

/-!
# A monitor of a QSFP is the decoded register

A call that returns assigns the value of the two bytes of the register of the monitor, but one for the power
of a transmitter of a QSFP-DD, which assigns nothing.
-/

namespace OpxSdi.Media

open Lib Device

/-! ## Words -/

/-- A word from its halves, as `convert_qsfp_temp` splits it -/
theorem toNat_halves (t : BitVec 16) :
    t.toNat = ((t &&& 0xFF00) >>> 8).toNat * 256 + (t &&& 0xFF).toNat := by
  have hlow : (t &&& 0xFF).toNat = t.toNat % 2 ^ 8 := Nat.and_two_pow_sub_one_eq_mod t.toNat 8
  have hmask : ∀ i < 8, (0xFF00 : BitVec 16).getLsbD (8 + i) = true := by decide
  have hhigh : (t &&& 0xFF00) >>> 8 = t >>> 8 := by
    refine BitVec.eq_of_getLsbD_eq fun i hi => ?_
    rw [BitVec.getLsbD_ushiftRight, BitVec.getLsbD_ushiftRight, BitVec.getLsbD_and]
    by_cases h : i < 8
    · rw [hmask i h, Bool.and_true]
    · rw [BitVec.getLsbD_of_ge t _ (by omega), Bool.false_and]
  rw [hlow, hhigh, BitVec.toNat_ushiftRight, Nat.shiftRight_eq_div_pow]
  exact (Nat.div_add_mod' t.toNat 256).symm

/-- As an unsigned word, the magnitude is right for the lowest temperature too. -/
theorem toNat_magnitude {t : BitVec 16} (h : t.toInt < 0) : ((~~~t + 1).toNat : ℤ) = -t.toInt := by
  have hneg : ~~~t + 1 = -t := (BitVec.neg_eq_not_add t).symm
  have hlt := t.isLt
  rw [BitVec.toInt_eq_toNat_cond] at h ⊢
  rw [hneg, BitVec.toNat_neg]
  split at h <;> omega

theorem toNat_of_toInt_nonneg {t : BitVec 16} (h : ¬t.toInt < 0) : (t.toNat : ℤ) = t.toInt := by
  have hlt := t.isLt
  rw [BitVec.toInt_eq_toNat_cond] at h ⊢
  split at h <;> omega

namespace Qsfp

theorem convertQsfpTemp_eq (buf : Byte × Byte) :
    convertQsfpTemp buf = ((wordOfBytes buf).toInt : ℚ) / 256 := by
  have hsum : ∀ t : BitVec 16,
      ((t &&& 0xFF).toNat : ℚ) / 256 + ((t &&& 0xFF00) >>> 8).toNat = (t.toNat : ℚ) / 256 := by
    intro t
    rw [toNat_halves t]
    push_cast
    ring
  simp only [convertQsfpTemp, hsum, BitVec.slt, decide_eq_true_eq]
  by_cases hneg : (wordOfBytes buf).toInt < 0
  · have hneg0 : (wordOfBytes buf).toInt < (0 : BitVec 16).toInt := hneg
    rw [if_pos hneg0, if_pos hneg0, ← Int.cast_natCast, toNat_magnitude hneg]
    push_cast
    ring
  · have hneg0 : ¬(wordOfBytes buf).toInt < (0 : BitVec 16).toInt := hneg
    rw [if_neg hneg0, if_neg hneg0, ← Int.cast_natCast, toNat_of_toInt_nonneg hneg]

theorem convertQsfpTxBias_eq (buf : Byte × Byte) :
    convertQsfpTxBias buf = 2 * ((wordOfBytes buf).toNat : ℚ) / 1000 := by
  rw [convertQsfpTxBias]
  push_cast
  ring

end Qsfp

/-! ## Readings -/

/-- A monitor of the module or of a channel -/
inductive Reading
  | module (monitor : ModuleMonitor)
  | channel (channel : BitVec 32) (monitor : ChannelMonitor)
  deriving DecidableEq, Repr

namespace Reading

variable (convertMwToDbm : ℚ → ℚ)

def get (q : Qsfp) : (reading : Reading) → M (Option ℚ)
  | module monitor => q.moduleMonitorGet monitor
  | channel n monitor => q.channelMonitorGet convertMwToDbm n monitor

/-- The first of the two bytes. Each channel has two bytes after those of the one before. -/
def register (p : QsfpDevice) : Reading → Nat
  | module .temp => if 0x30 ≤ p.eepromVersion then 14 else if 0x20 ≤ p.eepromVersion then 26 else 22
  | module .volt => if 0x30 ≤ p.eepromVersion then 16 else if 0x20 ≤ p.eepromVersion then 30 else 26
  | channel n .rxPwr => 34 + 2 * n.toNat
  | channel n .txBias => (if p.modCategory = .qsfpdd then 50 else 42) + 2 * n.toNat
  | channel n .txPwr => 66 + 2 * n.toNat

/-- The value of a word in degrees, volts, decibels or milliamperes -/
def decode (word : BitVec 16) : Reading → ℚ
  | module .temp => (word.toInt : ℚ) / 256
  | module .volt => (word.toNat : ℚ) / 10000
  | channel _ .txBias => 2 * (word.toNat : ℚ) / 1000
  | channel _ .rxPwr => convertMwToDbm ((word.toNat : ℚ) / 10000)
  | channel _ .txPwr => convertMwToDbm ((word.toNat : ℚ) / 10000)

/-- The two bytes of the register, the first one most significant -/
def word (q : Qsfp) (c : Cage) (reading : Reading) : BitVec 16 :=
  let e := c.slaves q.i2cAddr
  let first := BitVec.ofNat 8 (reading.register c.priv)
  wordOfBytes (e.read first, e.read (first + 1))

/-- A call for a module that is no adapter assigns the value of the register if it returns. -/
def Decodes (q : Qsfp) (reading : Reading) (d : State) : Prop :=
  d.hw.priv.modType ≠ .qsaAdapter → ∀ value, Answers (get convertMwToDbm q reading) d value →
    value = some (decode convertMwToDbm (reading.word q d.hw) reading)

/-- The call is for the power of a transmitter that a QSFP-DD has, and no lock and no failure is in the
way. -/
structure Unassigned (q : Qsfp) (reading : Reading) (d : State) : Prop where
  monitor : ∃ n, reading = .channel n .txPwr ∧ Qsfp.validateChannel n .qsfpdd = true
  modType_ne : d.hw.priv.modType ≠ .qsaAdapter
  category : d.hw.priv.modCategory = .qsfpdd
  reads : q.ReadsMonitors 1 d

/-! ## Registers -/

variable {q : Qsfp} {d : State} {w : BitVec 16} {offset : BitVec 32} {value : Option ℚ} {n : BitVec 32}

/-- A read of a word, with its bytes in the order in which they are converted -/
theorem answers_readWord : Answers (q.sel.withModule (smbusReadWord q.i2cAddr offset)) d w ↔
    q.ReadsMonitors 1 d ∧ w = (d.hw.slaves q.i2cAddr).read (offset.setWidth 8 + 1) ++
      (d.hw.slaves q.i2cAddr).read (offset.setWidth 8) :=
  Qsfp.answers_withModule_reads (Fetches.smbusReadWord q.i2cAddr offset)

theorem answers_readWord_bind {α : Type} {f : Byte × Byte → α} {a : α} :
    Answers (q.sel.withModule (smbusReadWord q.i2cAddr offset) >>= fun w => pure (f (bytesOfWord w))) d a ↔
      q.ReadsMonitors 1 d ∧ a = f ((d.hw.slaves q.i2cAddr).read (offset.setWidth 8),
        (d.hw.slaves q.i2cAddr).read (offset.setWidth 8 + 1)) := by
  rw [answers_bind_pure]
  simp only [answers_readWord, and_assoc, exists_and_left, exists_eq_left, SfpMonitor.bytesOfWord_append]

theorem offset_of_version (v : Byte) (rev1 rev2 rev3 : Nat) :
    (if Qsfp.qsfp28DdEepromVersion3 ≤ v then BitVec.ofNat 32 rev3
      else if v < Qsfp.qsfp28DdEepromVersion2 then BitVec.ofNat 32 rev1 else BitVec.ofNat 32 rev2) =
      BitVec.ofNat 32 (if 0x30 ≤ v then rev3 else if 0x20 ≤ v then rev2 else rev1) := by
  rw [Qsfp.qsfp28DdEepromVersion3, Qsfp.qsfp28DdEepromVersion2]
  by_cases h3 : (0x30 : Byte) ≤ v
  · rw [if_pos h3, if_pos h3]
  · rw [if_neg h3, if_neg h3]
    by_cases h2 : (0x20 : Byte) ≤ v
    · rw [if_neg (BitVec.not_lt.mpr h2), if_pos h2]
    · rw [if_pos (BitVec.not_le.mp h2), if_neg h2]

theorem tempOffset_eq (p : QsfpDevice) :
    Qsfp.tempOffset p.eepromVersion = BitVec.ofNat 32 (register p (module .temp)) :=
  offset_of_version p.eepromVersion 22 26 14

theorem voltOffset_eq (p : QsfpDevice) :
    Qsfp.voltOffset p.eepromVersion = BitVec.ofNat 32 (register p (module .volt)) :=
  offset_of_version p.eepromVersion 26 30 16

theorem rxPowerOffset_eq (h : n.toNat < 8) :
    Qsfp.rxPowerOffset n = .ok (BitVec.ofNat 32 (34 + 2 * n.toNat)) := by
  rw [Qsfp.rxPowerOffset]
  generalize n.toNat = k at h
  interval_cases k <;> rfl

theorem txPowerBiasOffset_eq (h : n.toNat < 4) :
    Qsfp.txPowerBiasOffset n = .ok (BitVec.ofNat 32 (42 + 2 * n.toNat)) := by
  rw [Qsfp.txPowerBiasOffset]
  generalize n.toNat = k at h
  interval_cases k <;> rfl

theorem ddTxBiasOffset_eq (h : n.toNat < 8) :
    Qsfp.ddTxBiasOffset n = .ok (BitVec.ofNat 32 (50 + 2 * n.toNat)) := by
  rw [Qsfp.ddTxBiasOffset]
  generalize n.toNat = k at h
  interval_cases k <;> rfl

theorem ddTxPowerOffset_eq (h : n.toNat < 8) :
    Qsfp.ddTxPowerOffset n = .ok (BitVec.ofNat 32 (66 + 2 * n.toNat)) := by
  rw [Qsfp.ddTxPowerOffset]
  generalize n.toNat = k at h
  interval_cases k <;> rfl

/-- The register of a valid channel, from the tables of the monitors -/
theorem channelMonitorOffset_eq {p : QsfpDevice} (hvalid : Qsfp.validateChannel n p.modCategory = true)
    (monitor : ChannelMonitor) : Qsfp.channelMonitorOffset p.modCategory n monitor =
      if monitor = .txPwr ∧ p.modCategory ≠ .qsfpdd then .error .eopnotsupp
      else .ok (BitVec.ofNat 32 (register p (channel n monitor))) := by
  rw [Qsfp.validateChannel_iff, Qsfp.lanes] at hvalid
  cases monitor with
  | rxPwr =>
      refine (rxPowerOffset_eq ?_).trans (if_neg fun h => ChannelMonitor.noConfusion h.1).symm
      split at hvalid <;> omega
  | txBias =>
      rw [Qsfp.channelMonitorOffset]
      by_cases hdd : p.modCategory = .qsfpdd
      · rw [if_pos hdd] at hvalid ⊢
        rw [ddTxBiasOffset_eq hvalid, if_neg fun h => h.2 hdd, register, if_pos hdd]
      · rw [if_neg hdd] at hvalid ⊢
        rw [txPowerBiasOffset_eq hvalid, if_neg fun h => ChannelMonitor.noConfusion h.1, register, if_neg hdd]
  | txPwr =>
      rw [Qsfp.channelMonitorOffset]
      by_cases hdd : p.modCategory = .qsfpdd
      · rw [if_pos hdd] at hvalid ⊢
        rw [ddTxPowerOffset_eq hvalid, if_neg (fun h => h.2 hdd), register]
      · rw [if_neg hdd, if_pos ⟨rfl, hdd⟩]

/-! ## Calls -/

variable {convertMwToDbm : ℚ → ℚ}

/-- The word of a register that is read at its place -/
theorem word_eq {reading : Reading} {c : Cage} (h : offset = BitVec.ofNat 32 (reading.register c.priv)) :
    wordOfBytes ((c.slaves q.i2cAddr).read (offset.setWidth 8),
      (c.slaves q.i2cAddr).read (offset.setWidth 8 + 1)) = reading.word q c := by
  rw [h, BitVec.setWidth_ofNat_of_le (by decide)]
  rfl

theorem answers_module {monitor : ModuleMonitor} (hmod : d.hw.priv.modType ≠ .qsaAdapter) :
    Answers (get convertMwToDbm q (module monitor)) d value ↔ q.ReadsMonitors 1 d ∧
      value = some (decode convertMwToDbm (word q d.hw (module monitor)) (module monitor)) := by
  rw [get, Qsfp.moduleMonitorGet, getPriv, answers_internal_bind, if_neg hmod]
  cases monitor with
  | temp =>
      refine (answers_readWord_bind (f := fun buf => some (Qsfp.convertQsfpTemp buf))).trans ?_
      rw [Qsfp.convertQsfpTemp_eq, word_eq (tempOffset_eq d.hw.priv), decode]
  | volt =>
      refine (answers_readWord_bind (f := fun buf => some (Qsfp.convertQsfpVolt buf))).trans ?_
      rw [Qsfp.convertQsfpVolt, word_eq (voltOffset_eq d.hw.priv), decode]

theorem answers_channel {monitor : ChannelMonitor} (hmod : d.hw.priv.modType ≠ .qsaAdapter) :
    Answers (get convertMwToDbm q (channel n monitor)) d value ↔
      Qsfp.validateChannel n d.hw.priv.modCategory = true ∧
      ¬(monitor = .txPwr ∧ d.hw.priv.modCategory ≠ .qsfpdd) ∧ q.ReadsMonitors 1 d ∧
      value = if monitor = .txPwr then none
        else some (decode convertMwToDbm (word q d.hw (channel n monitor)) (channel n monitor)) := by
  rw [get, Qsfp.channelMonitorGet]
  refine (Qsfp.answers_onChannel hmod).trans (and_congr_right fun hvalid => ?_)
  rw [channelMonitorOffset_eq hvalid]
  by_cases htx : monitor = .txPwr ∧ d.hw.priv.modCategory ≠ .qsfpdd
  · rw [if_pos htx]
    exact iff_of_false answers_fail fun h => h.1 htx
  · rw [if_neg htx, and_iff_right htx]
    refine (answers_readWord_bind
      (f := fun buf => Qsfp.convertChannelMonitor convertMwToDbm buf monitor)).trans ?_
    refine and_congr_right fun _ => Eq.congr_right ?_
    cases monitor with
    | rxPwr =>
        rw [Qsfp.convertChannelMonitor, Qsfp.convertQsfpRxPower, word_eq rfl]
        rfl
    | txBias =>
        rw [Qsfp.convertChannelMonitor, Qsfp.convertQsfpTxBias_eq, word_eq rfl]
        rfl
    | txPwr => rfl

theorem Unassigned.answers {reading : Reading} (h : reading.Unassigned q d) :
    Answers (get convertMwToDbm q reading) d none := by
  obtain ⟨n, rfl, hvalid⟩ := h.monitor
  refine (answers_channel h.modType_ne).mpr ⟨?_, fun hno => hno.2 h.category, h.reads, rfl⟩
  rw [h.category]
  exact hvalid

/-- A monitor is decoded exactly if it is not the power of a transmitter of a QSFP-DD. -/
theorem decodes_iff (convertMwToDbm : ℚ → ℚ) (q : Qsfp) (reading : Reading) (d : State) :
    Decodes convertMwToDbm q reading d ↔ ¬reading.Unassigned q d := by
  constructor
  · intro h hno
    cases h hno.modType_ne none hno.answers
  · intro h hmod value hget
    cases reading with
    | module monitor => exact ((answers_module hmod).mp hget).2
    | channel n monitor =>
        obtain ⟨hvalid, hsup, hreads, hvalue⟩ := (answers_channel hmod).mp hget
        by_cases htx : monitor = .txPwr
        · have hdd : d.hw.priv.modCategory = .qsfpdd := Decidable.not_not.mp fun hdd => hsup ⟨htx, hdd⟩
          rw [hdd] at hvalid
          exact absurd ⟨⟨n, by rw [htx], hvalid⟩, hmod, hdd, hreads⟩ h
        · rw [hvalue, if_neg htx]

/-- The power of the first transmitter of a QSFP-DD -/
theorem not_decodes_txPwr : ¬Decodes id ⟨0x50, ⟨false, 0, false, 0⟩, 0, 0, 0⟩ (.channel 0 .txPwr)
    ⟨fun _ => false, fun _ => none, 0, ⟨fun _ => 0, fun _ => ⟨fun _ => 0, fun _ _ => 0⟩,
      { QsfpDevice.create with modCategory := .qsfpdd }, [], 0, []⟩⟩ := by
  intro h
  cases h (by decide) none ⟨_, rfl⟩

end Reading

end OpxSdi.Media
