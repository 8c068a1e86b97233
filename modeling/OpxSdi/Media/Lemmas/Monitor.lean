import OpxSdi.Media.Lemmas.Pages
import OpxSdi.Media.Monitor

/-!
# What a monitor call returns

Each of the calls reads the registers that it is asked for and adds the flags that it tests as raised to a
status.
-/

namespace OpxSdi.Media

open Lib Device Flags

variable {α β : Type} {d d' : State}

/-! ## Reads -/

def Eeprom.readIf (e : Eeprom) (asked : Bool) (offset : BitVec 32) : Byte :=
  if asked then e.read (offset.setWidth 8) else 0

/-- The bytes that a read of `n` bytes returns -/
def Eeprom.readFrom (e : Eeprom) : (offset : BitVec 32) → (n : Nat) → List Byte
  | _, 0 => []
  | offset, n + 1 => e.read (offset.setWidth 8) :: e.readFrom (offset + 1) n

theorem Eeprom.length_readFrom (e : Eeprom) (offset : BitVec 32) (n : Nat) : (e.readFrom offset n).length = n := by
  induction n generalizing offset with
  | zero => rfl
  | succ n ih => exact congrArg (· + 1) (ih (offset + 1))

/-- The computation makes `n` transactions, and what it returns is in the memory of the modules. -/
structure Fetches (x : M α) (n : Nat) (f : (BitVec 16 → Eeprom) → α) : Prop where
  ok_iff : ∀ {d d' : State} {a : α}, Ok x d a d' ↔
    d.Clear n ∧ a = f d.hw.slaves ∧ d' = d.passed n d.hw.slaves

namespace Fetches

theorem pure (a : α) : Fetches (Pure.pure a : M α) 0 fun _ => a := by
  refine ⟨fun {d d' a'} => ?_⟩
  rw [passed_zero]
  exact ok_pure.trans (and_iff_right d.clear_zero).symm

theorem bind {x : M α} {g : α → M β} {m n : Nat} {f : (BitVec 16 → Eeprom) → α}
    {h : α → (BitVec 16 → Eeprom) → β} (hx : Fetches x m f) (hg : ∀ a, Fetches (g a) n (h a)) :
    Fetches (x >>= g) (m + n) fun slaves => h (f slaves) slaves := by
  refine ⟨fun {d d' b} => ?_⟩
  rw [ok_bind, @clear_add_passed _ _ _ d.hw.slaves]
  constructor
  · rintro ⟨a, d1, hx', hg'⟩
    obtain ⟨hm, rfl, rfl⟩ := hx.ok_iff.mp hx'
    obtain ⟨hn, rfl, rfl⟩ := (hg _).ok_iff.mp hg'
    exact ⟨⟨hm, hn⟩, rfl, passed_passed ..⟩
  · rintro ⟨⟨hm, hn⟩, rfl, rfl⟩
    exact ⟨_, _, hx.ok_iff.mpr ⟨hm, rfl, rfl⟩, (hg _).ok_iff.mpr ⟨hn, rfl, (passed_passed ..).symm⟩⟩

theorem smbusReadByte (addr : BitVec 16) (offset : BitVec 32) :
    Fetches (smbusReadByte addr offset) 1 fun slaves => (slaves addr).read (offset.setWidth 8) := by
  refine ⟨fun {d d' b} => ?_⟩
  rw [clear_one]
  exact ok_smbusReadByte

theorem smbusReadWord (addr : BitVec 16) (offset : BitVec 32) :
    Fetches (smbusReadWord addr offset) 1 fun slaves =>
      (slaves addr).read (offset.setWidth 8 + 1) ++ (slaves addr).read (offset.setWidth 8) := by
  refine ⟨fun {d d' b} => ?_⟩
  rw [clear_one]
  exact ok_smbusReadWord

theorem smbusReadMultiByte (addr : BitVec 16) (offset : BitVec 32) (n : Nat) :
    Fetches (smbusReadMultiByte addr offset n) n fun slaves => (slaves addr).readFrom offset n := by
  induction n generalizing offset with
  | zero => exact pure []
  | succ n ih =>
      have h := (smbusReadByte addr offset).bind fun b => (ih (offset + 1)).bind fun bs => pure (b :: bs)
      rwa [Nat.add_zero, Nat.add_comm 1] at h

theorem readIf (asked : Bool) (addr : BitVec 16) (offset : BitVec 32) :
    Fetches (readIf asked addr offset) asked.toNat
      fun slaves => (slaves addr).readIf asked offset := by
  cases asked with
  | false => exact pure 0
  | true => exact smbusReadByte addr offset

theorem answers {x : M α} {n : Nat} {f : (BitVec 16 → Eeprom) → α} (hx : Fetches x n f) {a : α} :
    Answers x d a ↔ d.Clear n ∧ a = f d.hw.slaves := by
  constructor
  · rintro ⟨d', h⟩
    exact ⟨(hx.ok_iff.mp h).1, (hx.ok_iff.mp h).2.1⟩
  · rintro ⟨hclear, rfl⟩
    exact ⟨_, hx.ok_iff.mpr ⟨hclear, rfl, rfl⟩⟩

end Fetches

/-! ## Scans -/

/-- A call that returns has added the flags of these pairs that it tests as raised to this status. -/
structure Scan (P : Type) where
  succeeds : Prop
  tested : P → Side → Bool
  pairs : List P
  status : BitVec 32

def Scan.Of {P : Type} (scan : Scan P) (bit : P → Side → Nat) (x : M (BitVec 32)) (d : State) : Prop :=
  ∀ r, Answers x d r ↔ scan.succeeds ∧ r = report bit scan.tested scan.pairs scan.status

namespace Sfp

variable {s : Sfp}

/-- The module has alarm flags, and its selection, the test for them and `n` reads more succeed. -/
def ReadsAlarms (s : Sfp) (n : Nat) (d : State) : Prop :=
  s.sel.SelectsAt d ∧ (s.sel.opened d).Clear (1 + n) ∧
    ((d.hw.slaves s.i2cAddr).read (enhancedOptionsOffset.setWidth 8)).getLsbD alarmSupportBitOffset = true

theorem answers_withAlarmFlags {body : M α} {n : Nat} {f : (BitVec 16 → Eeprom) → α}
    (hbody : Fetches body n f)
    {a : α} : Answers (s.withAlarmFlags body) d a ↔ s.ReadsAlarms n d ∧ a = f d.hw.slaves := by
  have hsupport : Fetches s.isAlarmFlagsSupported (1 + 0) _ :=
    Fetches.bind (Fetches.smbusReadByte _ _) fun _ => Fetches.pure _
  rw [withAlarmFlags, s.sel.answers_withModule, ReadsAlarms, and_assoc, answers_bind]
  refine and_congr_right fun _ => ?_
  constructor
  · rintro ⟨status, d1, hstatus, h⟩
    obtain ⟨hclear, rfl, rfl⟩ := hsupport.ok_iff.mp hstatus
    split at h
    · obtain ⟨d', h⟩ := h
      exact absurd h ok_fail
    · rename_i hsup
      obtain ⟨hclear', rfl⟩ := hbody.answers.mp h
      exact ⟨⟨clear_add_passed.mpr ⟨hclear, hclear'⟩, Bool.of_not_eq_false hsup⟩, rfl⟩
  · rintro ⟨⟨hclear, hsup⟩, rfl⟩
    obtain ⟨hclear, hclear'⟩ := (@clear_add_passed _ _ _ d.hw.slaves).mp hclear
    refine ⟨_, _, hsupport.ok_iff.mpr ⟨hclear, rfl, rfl⟩, ?_⟩
    rw [if_neg (by rw [Selection.opened_slaves, hsup]; decide)]
    exact hbody.answers.mpr ⟨hclear', rfl⟩

def moduleScan (s : Sfp) (flags : BitVec 32) (d : State) : Scan (ModuleMonitor × Level) :=
  let e := d.hw.slaves sfpI2cAddr
  let alarm := asks moduleFlag flags moduleAlarms
  let warning := asks moduleFlag flags moduleWarnings
  { succeeds := s.ReadsAlarms (alarm.toNat + warning.toNat) d
    tested := moduleTested (e.readIf alarm alarmStatus1Offset) (e.readIf warning warningStatus1Offset)
    pairs := moduleAlarms ++ moduleWarnings
    status := 0 }

theorem moduleScan_of (s : Sfp) (flags : BitVec 32) (d : State) :
    (s.moduleScan flags d).Of moduleFlag (s.moduleMonitorStatusGet flags) d := by
  intro r
  rw [moduleMonitorStatusGet, answers_bind_pure]
  simp only [answers_withAlarmFlags
    (Fetches.bind (Fetches.readIf _ _ _) fun _ => Fetches.bind (Fetches.readIf _ _ _) fun _ =>
      Fetches.pure _),
    and_assoc, exists_and_left, exists_eq_left]
  exact Iff.rfl

def channelScan (s : Sfp) (channel flags : BitVec 32) (d : State) : Scan (ChannelMonitor × Level) :=
  let e := d.hw.slaves sfpI2cAddr
  let txAlarm := asks channelFlag flags txAlarms
  let rxAlarm := asks channelFlag flags rxAlarms
  let txWarn := asks channelFlag flags txWarnings
  let rxWarn := asks channelFlag flags rxWarnings
  { succeeds := channel = channelNum ∧
      s.ReadsAlarms (txAlarm.toNat + (rxAlarm.toNat + (txWarn.toNat + rxWarn.toNat))) d
    tested := channelTested (e.readIf txAlarm alarmStatus1Offset) (e.readIf rxAlarm alarmStatus2Offset)
      (e.readIf txWarn warningStatus1Offset) (e.readIf rxWarn warningStatus2Offset)
    pairs := txAlarms ++ rxAlarms ++ txWarnings ++ rxWarnings
    status := 0 }

theorem channelScan_of (s : Sfp) (channel flags : BitVec 32) (d : State) :
    (s.channelScan channel flags d).Of channelFlag (s.channelMonitorStatusGet channel flags) d := by
  intro r
  rw [channelMonitorStatusGet, channelScan]
  by_cases hchannel : channel = channelNum
  · rw [if_neg (not_not_intro hchannel), and_iff_right hchannel, answers_bind_pure]
    simp only [answers_withAlarmFlags (Fetches.bind (Fetches.readIf _ _ _) fun _ =>
      Fetches.bind (Fetches.readIf _ _ _) fun _ =>
      Fetches.bind (Fetches.readIf _ _ _) fun _ => Fetches.bind (Fetches.readIf _ _ _) fun _ =>
        Fetches.pure _),
      and_assoc, exists_and_left, exists_eq_left]
    exact Iff.rfl
  · rw [if_pos hchannel]
    exact iff_of_false (fun ⟨_, h⟩ => ok_fail h) fun h => hchannel h.1.1

end Sfp

namespace Qsfp

variable {q : Qsfp}

/-- The selection of the module and `n` reads succeed. -/
def ReadsMonitors (q : Qsfp) (n : Nat) (d : State) : Prop := q.sel.SelectsAt d ∧ (q.sel.opened d).Clear n

theorem answers_withModule_reads {body : M α} {n : Nat} {f : (BitVec 16 → Eeprom) → α}
    (hbody : Fetches body n f)
    {a : α} : Answers (q.sel.withModule body) d a ↔ q.ReadsMonitors n d ∧ a = f d.hw.slaves := by
  rw [q.sel.answers_withModule, hbody.answers, ReadsMonitors, and_assoc]
  exact Iff.rfl

/-- The channels of a module -/
def lanes (category : QsfpCategory) : Nat := if category = .qsfpdd then 8 else 4

theorem validateChannel_iff {channel : BitVec 32} {category : QsfpCategory} :
    validateChannel channel category = true ↔ channel.toNat < lanes category := by
  cases category <;>
    exact decide_eq_true_iff.trans (BitVec.le_def.trans Nat.lt_succ_iff.symm)

def moduleScan (q : Qsfp) (flags status : BitVec 32) (d : State) : Scan (ModuleMonitor × Level) :=
  let e := d.hw.slaves q.i2cAddr
  let temp := asks moduleFlag flags tempFlags
  let volt := asks moduleFlag flags voltFlags
  { succeeds := q.ReadsMonitors (temp.toNat + volt.toNat) d
    tested := moduleTested (e.readIf temp (tempInterruptOffset d.hw.priv.modCategory))
      (e.readIf volt (voltInterruptOffset d.hw.priv.modCategory))
    pairs := tempFlags ++ voltFlags
    status }

theorem moduleScan_of (q : Qsfp) (flags status : BitVec 32) {d : State}
    (hmod : d.hw.priv.modType ≠ .qsaAdapter) :
    (q.moduleScan flags status d).Of moduleFlag (q.moduleMonitorStatusGet flags status) d := by
  intro r
  rw [moduleMonitorStatusGet, getPriv, answers_internal_bind, if_neg hmod, answers_bind_pure]
  simp only [answers_withModule_reads
    (Fetches.bind (Fetches.readIf _ _ _) fun _ => Fetches.bind (Fetches.readIf _ _ _) fun _ =>
      Fetches.pure _),
    and_assoc, exists_and_left, exists_eq_left]
  exact Iff.rfl

def channelScan (q : Qsfp) (channel flags status : BitVec 32) (d : State) : Scan (ChannelMonitor × Level) :=
  let e := d.hw.slaves q.i2cAddr
  let rxPwr := asks channelFlag flags rxPwrFlags
  let txBias := asks channelFlag flags txBiasFlags
  { succeeds := validateChannel channel d.hw.priv.modCategory = true ∧
      q.ReadsMonitors (rxPwr.toNat + txBias.toNat) d
    tested := channelTested (e.readIf rxPwr (rxPowerInterruptOffset channel))
      (e.readIf txBias (txBiasInterruptOffset channel))
    pairs := rxPwrFlags ++ txBiasFlags
    status }

/-- A call on a channel of a module that is no adapter is made for channels of its category. -/
theorem ok_onChannel {α : Type} {adapter rest : QsfpDevice → M α} {a : α} {d d' : State}
    {channel : BitVec 32} (hmod : d.hw.priv.modType ≠ .qsaAdapter) :
    Ok (getPriv >>= fun priv => if priv.modType = .qsaAdapter then adapter priv
      else if validateChannel channel priv.modCategory = false then Device.fail .param else rest priv) d a d' ↔
      validateChannel channel d.hw.priv.modCategory = true ∧ Ok (rest d.hw.priv) d a d' := by
  rw [ok_bind]
  constructor
  · rintro ⟨priv, d0, hpriv, h⟩
    obtain ⟨rfl, rfl⟩ := ok_getPriv.mp hpriv
    rw [if_neg hmod] at h
    split at h
    · exact absurd h ok_fail
    · exact ⟨Bool.of_not_eq_false ‹_›, h⟩
  · rintro ⟨hvalid, h⟩
    refine ⟨_, _, ok_getPriv.mpr ⟨rfl, rfl⟩, ?_⟩
    rw [if_neg hmod, hvalid, if_neg (by decide)]
    exact h

theorem answers_onChannel {α : Type} {adapter rest : QsfpDevice → M α} {a : α} {d : State}
    {channel : BitVec 32} (hmod : d.hw.priv.modType ≠ .qsaAdapter) :
    Answers (getPriv >>= fun priv => if priv.modType = .qsaAdapter then adapter priv
      else if validateChannel channel priv.modCategory = false then Device.fail .param else rest priv) d a ↔
      validateChannel channel d.hw.priv.modCategory = true ∧ Answers (rest d.hw.priv) d a := by
  simp only [Answers, ok_onChannel hmod, exists_and_left]

theorem channelScan_of (q : Qsfp) (channel flags status : BitVec 32) {d : State}
    (hmod : d.hw.priv.modType ≠ .qsaAdapter) :
    (q.channelScan channel flags status d).Of channelFlag
    (q.channelMonitorStatusGet channel flags status) d := by
  intro r
  rw [channelMonitorStatusGet, channelScan, and_assoc]
  refine (answers_onChannel hmod).trans (and_congr_right fun _ => ?_)
  rw [answers_bind_pure]
  simp only [answers_withModule_reads
    (Fetches.bind (Fetches.readIf _ _ _) fun _ => Fetches.bind (Fetches.readIf _ _ _) fun _ =>
      Fetches.pure _),
    and_assoc, exists_and_left, exists_eq_left]
  exact Iff.rfl

end Qsfp

end OpxSdi.Media
