import OpxSdi.Media.Lemmas.PageRegister

/-!
# When tuning returns

The steps of `tune` make their transactions with the page for tuning selected. The poll of the status ends
with its first two reads, and the second one makes its return code.
-/

namespace OpxSdi.Media

open Lib Device

/-- The capabilities in the memory of the module. -/
def Eeprom.tunableCapabilities (e : Eeprom) : Sfp.TunableCapabilities :=
  Sfp.tunableCapabilities (e.read (Sfp.tuneTypeSupportOffset.setWidth 8))
    (e.reads Sfp.tunableFreqCapabilitiesOffset Sfp.tunableFreqCapabilitiesLen)

namespace Sfp

variable {d d' : State} {u : Unit} {value : Float32}

namespace TunableCapabilities

def Supported (tuneCap : TunableCapabilities) : Prop :=
  tuneCap.channelSetSupport = true ∨ tuneCap.wavelengthSetSupport = true

/-- The module can be tuned, gives a range of frequencies and has the one of the wavelength in it. -/
structure Allows (tuneCap : TunableCapabilities) (wavelengthNm : Float32) : Prop where
  supported : tuneCap.Supported
  ordered : ¬tuneCap.maxFreq < tuneCap.minFreq
  in_bounds : ¬(wavelengthNmToFreqThz wavelengthNm > tuneCap.maxFreq ∨
    wavelengthNmToFreqThz wavelengthNm < tuneCap.minFreq)

end TunableCapabilities

theorem supported_iff {supportBuf : Byte} {capabilitiesBuf : List Byte} :
    (tunableCapabilities supportBuf capabilitiesBuf).Supported ↔
      ¬(supportBuf.getLsbD txFreqChannelTuneSupportBitmask = false ∧
        supportBuf.getLsbD txWavelengthTuneSupportBitmask = false) := by
  simp only [TunableCapabilities.Supported, tunableCapabilities, not_and_or, Bool.not_eq_false]

theorem ok_getTunableCapabilities {tuneCap : TunableCapabilities} : Ok getTunableCapabilities d tuneCap d' ↔
    d.Clear 11 ∧ tuneCap.Supported ∧ ¬tuneCap.maxFreq < tuneCap.minFreq ∧
      tuneCap = (d.hw.slaves sfpI2cAddr).tunableCapabilities ∧ d' = d.passed 11 d.hw.slaves := by
  have hread : ∀ {d : State} {bs d'}, Ok (smbusReadMultiByte sfpI2cAddr tunableFreqCapabilitiesOffset
      tunableFreqCapabilitiesLen) d bs d' ↔ d.Clear 10 ∧ bs = (d.hw.slaves sfpI2cAddr).reads
        tunableFreqCapabilitiesOffset tunableFreqCapabilitiesLen ∧ d' = d.passed 10 d.hw.slaves := by
    intro d bs d'
    rw [← readBurst_run, Burst.ok_iff, readBurst_size, readBurst_result, readBurst_mem, Function.update_eq_self]
    rfl
  rw [getTunableCapabilities, ok_bind]
  constructor
  · rintro ⟨b, d1, hsupport, h⟩
    obtain ⟨hfault, rfl, rfl⟩ := ok_smbusReadByte.mp hsupport
    split at h
    · exact absurd h ok_fail
    · rename_i hsupported
      obtain ⟨bs, d2, hbytes, h⟩ := ok_bind.mp h
      obtain ⟨hclear, rfl, rfl⟩ := hread.mp hbytes
      dsimp only at h
      split at h
      · exact absurd h ok_fail
      · rename_i hordered
        obtain ⟨rfl, rfl⟩ := ok_pure.mp h
        refine ⟨clear_succ_passed.mpr ⟨hfault, hclear⟩, ?_, hordered, rfl, passed_passed ..⟩
        exact supported_iff.mpr hsupported
  · rintro ⟨hclear, hsupported, hordered, rfl, rfl⟩
    obtain ⟨hfault, hclear⟩ := clear_succ_passed.mp hclear
    refine ⟨_, _, ok_smbusReadByte.mpr ⟨hfault, rfl, rfl⟩, ?_⟩
    rw [if_neg (supported_iff.mp hsupported)]
    refine ok_bind.mpr ⟨_, _, hread.mpr ⟨hclear, rfl, rfl⟩, ?_⟩
    dsimp only
    rw [if_neg (by exact hordered)]
    exact ok_pure.mpr ⟨rfl, (passed_passed d 1 10 _ _).symm⟩

/-- The two bytes that are written, the most significant one first. -/
def bigEndianBurst (offset : BitVec 32) (v : UInt16) : Burst Unit :=
  writeBurst offset [(v.toBitVec >>> 8).setWidth 8, v.toBitVec.setWidth 8]

theorem bigEndianBurst_run (offset : BitVec 32) (v : UInt16) :
    (bigEndianBurst offset v).run sfpI2cAddr = writeBigEndian offset v := by
  rw [bigEndianBurst, writeBurst_run]
  exact bind_congr fun _ => bind_pure _

/-- What the module is tuned with: its channel, if it can be set, or its wavelength. -/
def tuningBurst (tuneCap : TunableCapabilities) (wavelengthNm : Float32) : Burst Unit :=
  if tuneCap.channelSetSupport then
    bigEndianBurst channelNumberSetOffset
      (getChannelNoFromFreq (wavelengthNmToFreqThz wavelengthNm) tuneCap.minFreq tuneCap.gridSpacing)
  else bigEndianBurst wavelengthSetOffset (wavelengthNm.toFloat / 0.05).toUInt16

theorem tuningBurst_size (tuneCap : TunableCapabilities) (wavelengthNm : Float32) :
    (tuningBurst tuneCap wavelengthNm).size = 2 := by
  rw [tuningBurst]
  split <;> exact writeBurst_size _

theorem setTunableModuleByWavelength_eq {tuneCap : TunableCapabilities} (h : tuneCap.Supported) :
    setTunableModuleByWavelength tuneCap value =
      if wavelengthNmToFreqThz value > tuneCap.maxFreq ∨ wavelengthNmToFreqThz value < tuneCap.minFreq then
        Device.fail .einval
      else (tuningBurst tuneCap value).run sfpI2cAddr := by
  rw [setTunableModuleByWavelength, tuningBurst]
  refine if_congr Iff.rfl rfl ?_
  cases hchannel : tuneCap.channelSetSupport with
  | true =>
      rw [if_pos rfl, if_pos rfl]
      exact (bigEndianBurst_run _ _).symm
  | false =>
      rcases h with h | hwavelength
      · exact absurd h (by rw [hchannel]; decide)
      · rw [if_neg (by decide), if_pos hwavelength, if_neg (by decide)]
        exact (bigEndianBurst_run _ _).symm

theorem ok_setTunableModuleByWavelength {tuneCap : TunableCapabilities} (h : tuneCap.Supported) :
    Ok (setTunableModuleByWavelength tuneCap value) d u d' ↔
      ¬(wavelengthNmToFreqThz value > tuneCap.maxFreq ∨ wavelengthNmToFreqThz value < tuneCap.minFreq) ∧
        d.Clear 2 ∧ d' = d.passed 2 (Function.update d.hw.slaves sfpI2cAddr
          ((tuningBurst tuneCap value).mem 2 (d.hw.slaves sfpI2cAddr))) := by
  rw [setTunableModuleByWavelength_eq h]
  split
  · rename_i hbounds
    exact iff_of_false ok_fail fun h => h.1 hbounds
  · rename_i hbounds
    rw [Burst.ok_iff, tuningBurst_size, and_iff_right hbounds]
    exact and_congr_right fun _ => and_iff_right rfl

/-- The masks of a status leave no bit of it. -/
theorem testStatus (x : Byte) : testUnlatchedStatus x = true ∧ testLatchedStatus x = true := by
  have hmask : tecFaultBitmask &&& wavUnlockedBitmask = 0 := by decide
  simp [testUnlatchedStatus, testLatchedStatus, BitVec.and_assoc x, hmask]

/-- The poll ends with its first two reads. -/
theorem tuneSetStatusGet_eq : tuneSetStatusGet = (do
    let _ ← Device.attempt (smbusReadByte sfpI2cAddr tuneTypeSupportOffset)
    let rc ← Device.attempt (smbusReadByte sfpI2cAddr tuneTypeSupportOffset)
    pure (rc, true)) := by
  change pollTuneSetStatus (9 + 1) _ _ _ = _
  simp only [pollTuneSetStatus, testStatus, Bool.and_self, ↓reduceIte]

/-- A read whose result is not used takes its time and nothing else. -/
theorem ok_ignored_read {α : Type} {a : BitVec 16} {cmd : BitVec 32} {y : M α} {r : α} :
    Ok (Device.attempt (smbusReadByte a cmd) >>= fun _ => y) d r d' ↔ Ok y (d.passed 1 d.hw.slaves) r d' := by
  rw [ok_attempt_bind]
  constructor
  · rintro (⟨b, d1, hread, h⟩ | ⟨e, d1, hread, h⟩)
    · obtain ⟨-, -, rfl⟩ := ok_smbusReadByte.mp hread
      exact h
    · obtain ⟨-, rfl⟩ := err_smbusReadByte.mp hread
      exact h
  · intro h
    cases hfault : d.fault d.time with
    | none => exact .inl ⟨_, _, ok_smbusReadByte.mpr ⟨hfault, rfl, rfl⟩, h⟩
    | some e => exact .inr ⟨e, _, err_smbusReadByte.mpr ⟨hfault, rfl⟩, h⟩

/-- The status is good whenever its second read succeeds. -/
theorem ok_tuneSetStatus : Ok (do
    let (rc, status) ← tuneSetStatusGet
    let _ ← Device.ofResult rc
    if status then pure () else Device.fail .notOk) d u d' ↔
      d.fault (d.time + 1) = none ∧ d' = d.passed 2 d.hw.slaves := by
  rw [tuneSetStatusGet_eq]
  simp only [bind_assoc, pure_bind, ↓reduceIte]
  rw [ok_ignored_read, ok_attempt_or_fail fun e d' d'' => ?_]
  · constructor
    · rintro ⟨b, d1, hread, h⟩
      obtain ⟨hfault, rfl, rfl⟩ := ok_smbusReadByte.mp hread
      obtain ⟨-, rfl⟩ := ok_pure.mp h
      exact ⟨hfault, passed_passed ..⟩
    · rintro ⟨hfault, rfl⟩
      exact ⟨_, _, ok_smbusReadByte.mpr ⟨hfault, rfl, rfl⟩, ok_pure.mpr ⟨rfl, (passed_passed d 1 1 _ _).symm⟩⟩
  · exact ok_fail

/-- The tuning returns, and the operation after it succeeds. -/
theorem ok_tune : (∃ u d', Ok (tune value) d u d' ∧ d'.fault d'.time = none) ↔
    (d.hw.slaves sfpI2cAddr).tunableCapabilities.Allows value ∧ d.Clear 13 ∧
      d.fault (d.time + 14) = none ∧ d.fault (d.time + 15) = none := by
  constructor
  · rintro ⟨u, d', h, hnext⟩
    obtain ⟨tuneCap, d1, hcap, h⟩ := ok_bind.mp h
    obtain ⟨hclear, hsupported, hordered, rfl, rfl⟩ := ok_getTunableCapabilities.mp hcap
    obtain ⟨u1, d2, hset, h⟩ := ok_bind.mp h
    obtain ⟨hbounds, hclear', rfl⟩ := (ok_setTunableModuleByWavelength hsupported).mp hset
    obtain ⟨hlatched, rfl⟩ := ok_tuneSetStatus.mp h
    exact ⟨⟨hsupported, hordered, hbounds⟩, clear_add_passed.mpr ⟨hclear, hclear'⟩, hlatched, hnext⟩
  · rintro ⟨⟨hsupported, hordered, hbounds⟩, hclear, hlatched, hnext⟩
    obtain ⟨hcap, hset⟩ := (@clear_add_passed d 11 2 d.hw.slaves).mp hclear
    exact ⟨(), _, ok_bind.mpr ⟨_, _, ok_getTunableCapabilities.mpr ⟨hcap, hsupported, hordered, rfl, rfl⟩,
      ok_bind.mpr ⟨(), _, (ok_setTunableModuleByWavelength hsupported).mpr ⟨hbounds, hset, rfl⟩,
      ok_tuneSetStatus.mpr ⟨hlatched, rfl⟩⟩⟩, hnext⟩

/-- The bit of the module that the driver tests. -/
def Tunable (s : Sfp) (slaves : BitVec 16 → Eeprom) : Prop :=
  (slaves s.i2cAddr).read (options2Offset.setWidth 8) &&& tunableSupportBitmask ≠ 0

instance (s : Sfp) (slaves : BitVec 16 → Eeprom) : Decidable (s.Tunable slaves) :=
  inferInstanceAs (Decidable (_ ≠ _))

theorem ok_isWavelengthTuneSupported {s : Sfp} {b : Bool} : Ok s.isWavelengthTuneSupported d b d' ↔
    d.fault d.time = none ∧ d' = d.passed 1 d.hw.slaves ∧ b = decide (s.Tunable d.hw.slaves) := by
  rw [isWavelengthTuneSupported, ok_bind]
  constructor
  · rintro ⟨buf, d1, hread, h⟩
    obtain ⟨hfault, rfl, rfl⟩ := ok_smbusReadByte.mp hread
    obtain ⟨rfl, rfl⟩ := ok_pure.mp h
    exact ⟨hfault, rfl, rfl⟩
  · rintro ⟨hfault, rfl, rfl⟩
    exact ⟨_, _, ok_smbusReadByte.mpr ⟨hfault, rfl, rfl⟩, ok_pure.mpr ⟨rfl, rfl⟩⟩

end Sfp

/-! ## Pages -/

namespace KeepsPages

open Sfp

theorem getTunableCapabilities : KeepsPages getTunableCapabilities := by
  refine bind (smbusReadByte _ _) fun b => ?_
  split
  · exact fail _
  · refine bind (smbusReadMultiByte _ _ _) fun bs => ?_
    dsimp only
    split
    · exact fail _
    · exact pure _

theorem bigEndianBurst {offset : BitVec 32} {v : UInt16} (h : AvoidsPageSelect offset 2) :
    KeepsPages ((bigEndianBurst offset v).run sfpI2cAddr) := by
  rw [Sfp.bigEndianBurst, writeBurst_run]
  exact smbusWriteMultiByte h

theorem writeBigEndian {offset : BitVec 32} {v : UInt16} (h : AvoidsPageSelect offset 2) :
    KeepsPages (writeBigEndian offset v) := by
  rw [← bigEndianBurst_run]
  exact bigEndianBurst h

theorem setTunableModuleByWavelength (tuneCap : TunableCapabilities) (value : Float32) :
    KeepsPages (setTunableModuleByWavelength tuneCap value) := by
  rw [Sfp.setTunableModuleByWavelength]
  split
  · exact fail _
  · split
    · exact writeBigEndian (by decide)
    · split
      · exact writeBigEndian (by decide)
      · exact fail _

theorem tune (value : Float32) : KeepsPages (tune value) := by
  refine bind getTunableCapabilities fun tuneCap => bind (setTunableModuleByWavelength _ _) fun _ => ?_
  rw [tuneSetStatusGet_eq]
  refine bind (attempt_bind (smbusReadByte _ _) fun _ => attempt_bind (smbusReadByte _ _) fun _ => pure _) fun r => ?_
  refine bind (ofResult _) fun _ => ?_
  split
  · exact pure ()
  · exact fail _

theorem isWavelengthTuneSupported (s : Sfp) : KeepsPages s.isWavelengthTuneSupported :=
  bind (smbusReadByte _ _) fun _ => pure _

theorem readRegister (s : Sfp) (offset : BitVec 32) (size : Nat) : KeepsPages (s.readRegister offset size) := by
  rw [Sfp.readRegister]
  split
  · exact bind (smbusReadByte _ _) fun _ => pure _
  · split
    · exact bind (smbusReadWord _ _) fun _ => pure _
    · exact fail _

/-- A parameter that is no wavelength is read without a selection of a page. -/
theorem parameterGet (s : Sfp) {param : MediaParamType} (hnm : param ≠ .wavelength)
    (hpm : param ≠ .tuneWavelengthPicoMeters) : KeepsPages (s.parameterGet param) := by
  rw [Sfp.parameterGet]
  dsimp only
  split
  · exact fail _
  · refine bind (moduleSelect _) fun _ => ?_
    change KeepsPages (if param = .tuneWavelengthPicoMeters ∨ false = true then s.tunedWavelengthGet param else _)
    rw [if_neg (not_or_intro hpm (by decide))]
    exact attempt_bind (readRegister s _ _) fun r => bind (moduleDeselect _) fun _ => ofResult r

theorem thresholdGet (s : Sfp) (thresholdType : MediaThresholdType) : KeepsPages (s.thresholdGet thresholdType) := by
  refine bind (parameterGet s (by decide) (by decide)) fun diagMonValue => ?_
  split
  · exact fail _
  · split
    · exact fail _
    · refine withModule _ (bind (smbusReadWord _ _) fun w => ?_)
      dsimp only
      split
      · exact pure _
      · split
        · exact bind (smbusReadMultiByte _ _ _) fun _ => pure _
        · exact bind (smbusReadWord _ _) fun _ => bind (smbusReadWord _ _) fun _ => pure _

theorem accessGeneric {α : Type} (s : Sfp) (addr : EepromAddr) {transfer : BitVec 16 → M α}
    (h : ∀ a, KeepsPages (transfer a)) : KeepsPages (s.accessGeneric addr transfer) := by
  rw [Sfp.accessGeneric]
  split
  · exact fail _
  · exact withModule _ (h _)

end KeepsPages

end OpxSdi.Media
