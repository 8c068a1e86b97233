import OpxSdi.CommDev.Driver
import OpxSdi.CommDev.Lemmas.Memory
import OpxSdi.Lib.Run

/-!
# Whether messaging stays as it was set

The device is a byte memory that also changes when it resets. A history says what the caller may expect of it.
-/

namespace OpxSdi.CommDev

open Lib

/-! ## The registers -/

/-- What the code takes for a reset alarm: the bit is clear. -/
def AlarmSeen (regs : ByteMem 16) : Prop := (regs statusRegister).getLsbD statusBitReset = false

instance (regs : ByteMem 16) : Decidable (AlarmSeen regs) := inferInstanceAs (Decidable (_ = _))

def mailboxEnableBytes (regs : ByteMem 16) : List Byte := regs.bytesAt mailboxEnableReg 2

def messagingBytes (enable : Bool) : List Byte :=
  wordBytes (if enable then mailboxEnableValue else mailboxDisableValue)

/-- The registers after a reset, of which only those that matter are known -/
def afterReset (regs : ByteMem 16) : ByteMem 16 :=
  (regs.storeAt statusRegister [regs statusRegister &&& 0xfe]).storeAt mailboxEnableReg (messagingBytes false)

def afterRefresh (regs : ByteMem 16) : ByteMem 16 :=
  (if AlarmSeen regs then regs.storeAt mailboxEnableReg (messagingBytes true) else regs).storeAt statusRegister [0, 0]

/-- Two bytes at the address are neither of the mailbox enable register nor of the first half of the status. -/
def Apart (offset : BitVec 16) : Prop :=
  2 ≤ (mailboxEnableReg - offset).toNat ∧ 2 ≤ (mailboxEnableReg + 1 - offset).toNat ∧
    2 ≤ (statusRegister - offset).toNat

instance (offset : BitVec 16) : Decidable (Apart offset) := inferInstanceAs (Decidable (_ ∧ _ ∧ _))

section

variable {regs : ByteMem 16}

theorem mailboxEnableBytes_eq (regs : ByteMem 16) :
    mailboxEnableBytes regs = [regs mailboxEnableReg, regs (mailboxEnableReg + 1)] := rfl

theorem storeAt_word_outside {offset a : BitVec 16} (h : 2 ≤ (a - offset).toNat) (w : BitVec 16) :
    regs.storeAt offset (wordBytes w) a = regs a :=
  ByteMem.storeAt_outside h

/-- A word that is written apart from the registers changes none of them. -/
theorem storeAt_apart {offset : BitVec 16} (h : Apart offset) (w : BitVec 16) :
    mailboxEnableBytes (regs.storeAt offset (wordBytes w)) = mailboxEnableBytes regs ∧
      (AlarmSeen (regs.storeAt offset (wordBytes w)) ↔ AlarmSeen regs) := by
  obtain ⟨hlow, hhigh, hstatus⟩ := h
  rw [mailboxEnableBytes_eq, mailboxEnableBytes_eq, AlarmSeen, AlarmSeen, storeAt_word_outside hlow,
    storeAt_word_outside hhigh, storeAt_word_outside hstatus]
  exact ⟨rfl, Iff.rfl⟩

theorem storeAt_mailboxEnable (w : BitVec 16) :
    mailboxEnableBytes (regs.storeAt mailboxEnableReg (wordBytes w)) = wordBytes w ∧
      (AlarmSeen (regs.storeAt mailboxEnableReg (wordBytes w)) ↔ AlarmSeen regs) := by
  have hlen : (wordBytes w).length ≤ 2 ^ 16 := show 2 ≤ 2 ^ 16 by decide
  refine ⟨ByteMem.bytesAt_storeAt regs mailboxEnableReg (wordBytes w) hlen, ?_⟩
  rw [AlarmSeen, AlarmSeen, storeAt_word_outside (by decide)]

theorem storeAt_status (data : List Byte) (h : data.length ≤ 2) :
    mailboxEnableBytes (regs.storeAt statusRegister data) = mailboxEnableBytes regs := by
  rw [mailboxEnableBytes_eq, mailboxEnableBytes_eq,
    ByteMem.storeAt_outside (Nat.le_trans h (by decide)), ByteMem.storeAt_outside (Nat.le_trans h (by decide))]

/-- A refresh leaves the bit clear, so the next one sees an alarm. -/
theorem alarmSeen_afterRefresh (regs : ByteMem 16) : AlarmSeen (afterRefresh regs) := by
  rw [AlarmSeen, afterRefresh, ByteMem.storeAt_inside (by decide)]
  rfl

theorem mailboxEnableBytes_afterRefresh (regs : ByteMem 16) : mailboxEnableBytes (afterRefresh regs) =
    if AlarmSeen regs then messagingBytes true else mailboxEnableBytes regs := by
  rw [afterRefresh, storeAt_status [0, 0] (Nat.le_refl 2)]
  split
  · exact (storeAt_mailboxEnable _).1
  · rfl

theorem alarmSeen_afterReset (regs : ByteMem 16) : AlarmSeen (afterReset regs) := by
  have hzero : (statusRegister - statusRegister).toNat < [regs statusRegister &&& 0xfe].length := Nat.zero_lt_one
  rw [afterReset, messagingBytes, (storeAt_mailboxEnable _).2, AlarmSeen, ByteMem.storeAt_inside hzero]
  change (regs statusRegister &&& 0xfe).getLsbD 0 = false
  rw [BitVec.getLsbD_and]
  exact Bool.and_false _

end

/-! ## What the calls do -/

theorem commDevResetRefresh_mem (d : MemDev) :
    ∃ next, (commDevResetRefresh memDevice).out d = (.ok .ok, ⟨afterRefresh d.regs, next⟩) := by
  have hread := commDevRead_mem statusRegister d (Buffer.le_length_zeroed 2)
  rw [commDevResetRefresh, Acts.out_bind_ok hread]
  simp only [↓reduceIte]
  have hload : (Acts.check (Buffer.load ((d.regs.bytesAt statusRegister 2).map some ++ (Buffer.zeroed 2).drop 2) 0) :
      DevM MemDev Byte).out { d with next := statusRegister + BitVec.ofNat 16 2 } =
      (.ok (d.regs statusRegister), { d with next := statusRegister + BitVec.ofNat 16 2 }) := rfl
  rw [Acts.out_bind_ok hload, afterRefresh]
  by_cases halarm : AlarmSeen d.regs
  · rw [if_pos halarm, if_pos (show BitVec.getLsbD _ _ = false from halarm),
      Acts.out_bind_ok (commDevWrite_mem _ (by decide))]
    exact ⟨_, commDevWrite_mem _ (by decide)⟩
  · rw [if_neg halarm, if_neg (show ¬BitVec.getLsbD _ _ = false from halarm), Acts.out_bind_ok (Acts.out_pure _ _)]
    exact ⟨_, commDevWrite_mem _ (by decide)⟩

/-- The assertions of the call hold for a width of two bytes and one value. -/
theorem extCtrlDataSet_two {σ : Type} (R : Resource σ) (offset : BitVec 16) (refresh : Bool) (data : BitVec 32) :
    extCtrlDataSet R ⟨offset, maxCtrlDataLen, refresh⟩ data 1 = .ok (extCtrlStore R offset data refresh) := rfl

theorem commDevWrite_word (offset w : BitVec 16) (d : MemDev) : (commDevWrite memDevice offset (wordBytes w)).out d =
    (.ok .ok, { d with regs := d.regs.storeAt offset (wordBytes w) }) :=
  commDevWrite_mem d (show 2 ≤ 2 ^ 16 by decide)

theorem mailboxEnable_mem (enable : Bool) (d : MemDev) : (mailboxEnable memDevice enable).out d =
    (.ok .ok, { d with regs := d.regs.storeAt mailboxEnableReg (messagingBytes enable) }) :=
  commDevWrite_word _ _ d

/-- The registers after a temperature has been written to a sensor -/
def afterTemperature (offset : BitVec 16) (refresh : Bool) (t : BitVec 32) (regs : ByteMem 16) : ByteMem 16 :=
  (bif refresh then afterRefresh regs else regs).storeAt offset (tenths t)

theorem extCtrlStore_mem (offset : BitVec 16) (t : BitVec 32) (refresh : Bool) (d : MemDev) : ∃ next,
    (extCtrlStore memDevice offset t refresh).out d = (.ok .ok, ⟨afterTemperature offset refresh t d.regs, next⟩) := by
  rw [extCtrlStore]
  cases refresh with
  | false =>
      rw [if_neg Bool.false_ne_true, Acts.out_bind_ok (Acts.out_pure _ d)]
      exact ⟨_, commDevWrite_word _ _ _⟩
  | true =>
      obtain ⟨next, hrefresh⟩ := commDevResetRefresh_mem d
      rw [if_pos rfl, Acts.out_bind_ok hrefresh]
      exact ⟨_, commDevWrite_word _ _ _⟩

/-! ## Runs -/

inductive Op
  | messagingEnable (enable : Bool)
  | writeTempSensor (t : BitVec 32)
  | writeNpuTempSensor (t : BitVec 32)
  | writeAmbientTempSensor (t : BitVec 32)
  | extCtrlSet (offset : BitVec 16) (refresh : Bool) (t : BitVec 32)
  /-- The device resets, and its registers are these but for those that a reset sets. -/
  | reset (regs : ByteMem 16)

namespace Op

def step (d : MemDev) : Op → MemDev
  | messagingEnable enable => ((mailboxEnable memDevice enable).out d).2
  | writeTempSensor t => ((writeSensor06Telemetry memDevice t).out d).2
  | writeNpuTempSensor t => ((writeSensor06Telemetry memDevice t).out d).2
  | writeAmbientTempSensor t => ((writeSensor07Telemetry memDevice t).out d).2
  | extCtrlSet offset refresh t => ((extCtrlStore memDevice offset t refresh).out d).2
  | reset regs => { d with regs := afterReset regs }

def refreshing : Op → Bool
  | messagingEnable _ => false
  | writeTempSensor _ => true
  | writeNpuTempSensor _ => true
  | writeAmbientTempSensor _ => false
  | extCtrlSet _ refresh _ => refresh
  | reset _ => false

/-- A control has the register of a sensor. -/
def Apart : Op → Prop
  | extCtrlSet offset _ _ => CommDev.Apart offset
  | messagingEnable _ | writeTempSensor _ | writeNpuTempSensor _ | writeAmbientTempSensor _ | reset _ => True

end Op

structure History where
  /-- What messaging is to be: as it was set last, or enabled by a refresh after a reset. -/
  wanted : Option Bool
  /-- The device has been reset after messaging was set. -/
  resetSince : Bool
  /-- A refresh has seen an alarm, and the device has not been reset since. -/
  acknowledged : Bool
  deriving DecidableEq

namespace History

def start : History := ⟨none, false, false⟩

def step (h : History) (alarmSeen : Bool) : Op → History
  | .messagingEnable enable => { h with wanted := some enable, resetSince := false }
  | .reset _ => ⟨none, true, false⟩
  | op =>
      if op.refreshing then
        ⟨if h.resetSince then some true else h.wanted, h.resetSince, h.acknowledged || alarmSeen⟩
      else h

end History

abbrev Tracked := MemDev × History

def Tracked.step (s : Tracked) (op : Op) : Tracked := (Op.step s.1 op, s.2.step (decide (AlarmSeen s.1.regs)) op)

/-- The mailbox enable register is as it is to be after the call, and the call does not see an alarm that has been
acknowledged. -/
def Keeps (s : Tracked) (op : Op) : Prop :=
  (∀ enable, (s.step op).2.wanted = some enable → mailboxEnableBytes (s.step op).1.regs = messagingBytes enable) ∧
    (op.refreshing = true → s.2.acknowledged = true → ¬AlarmSeen s.1.regs)

/-- A refresh comes after none that has seen an alarm since the last reset, and does not itself see one while messaging
is to be disabled. -/
def Refreshes (s : Tracked) (op : Op) : Prop :=
  op.refreshing = true → s.2.acknowledged = false ∧ (AlarmSeen s.1.regs → s.2.wanted ≠ some false)

/-- What a history says of the registers -/
structure Tracked.Inv (s : Tracked) : Prop where
  wanted : ∀ enable, s.2.wanted = some enable → mailboxEnableBytes s.1.regs = messagingBytes enable
  acknowledged : s.2.acknowledged = true → AlarmSeen s.1.regs
  resetSince : s.2.resetSince = true → AlarmSeen s.1.regs ∧ s.2.wanted ≠ some false

theorem inv_start (d : MemDev) : Tracked.Inv (d, .start) :=
  ⟨fun _ h => (by cases h), fun h => (by cases h), fun h => (by cases h)⟩

/-- A temperature in the register of a sensor changes no register that matters, but for the refresh. -/
theorem afterTemperature_apart {offset : BitVec 16} (h : Apart offset) (refresh : Bool) (t : BitVec 32)
    (regs : ByteMem 16) :
    mailboxEnableBytes (afterTemperature offset refresh t regs) =
      (if refresh = true ∧ AlarmSeen regs then messagingBytes true else mailboxEnableBytes regs) ∧
    (AlarmSeen (afterTemperature offset refresh t regs) ↔ refresh = true ∨ AlarmSeen regs) := by
  rw [afterTemperature, tenths]
  generalize hafter : (bif refresh then afterRefresh regs else regs) = after
  obtain ⟨hbytes, halarm⟩ := @storeAt_apart after _ h ((t * 10).setWidth 16)
  rw [hbytes, halarm, ← hafter]
  cases refresh with
  | false => simp
  | true =>
      rw [cond_true, mailboxEnableBytes_afterRefresh]
      exact ⟨by simp, iff_of_true (alarmSeen_afterRefresh regs) (.inl rfl)⟩

/-- What a call or a reset does to the registers and to the history -/
inductive Op.Does (s : Tracked) : Op → Tracked → Prop
  | messaging (enable : Bool) (next : BitVec 16) : Does s (.messagingEnable enable)
      (⟨s.1.regs.storeAt mailboxEnableReg (messagingBytes enable), next⟩,
        { s.2 with wanted := some enable, resetSince := false })
  | reset (regs : ByteMem 16) (next : BitVec 16) : Does s (.reset regs) (⟨afterReset regs, next⟩, ⟨none, true, false⟩)
  | temperature (op : Op) (offset next : BitVec 16) (t : BitVec 32) (h : CommDev.Apart offset)
      (hrefresh : op.refreshing = false) : Does s op (⟨afterTemperature offset false t s.1.regs, next⟩, s.2)
  | refresh (op : Op) (offset next : BitVec 16) (t : BitVec 32) (h : CommDev.Apart offset)
      (hrefresh : op.refreshing = true) : Does s op (⟨afterTemperature offset true t s.1.regs, next⟩,
        ⟨if s.2.resetSince then some true else s.2.wanted, s.2.resetSince,
          s.2.acknowledged || decide (AlarmSeen s.1.regs)⟩)

/-- An operation that writes a temperature to a sensor -/
theorem Op.does_store {s : Tracked} {op : Op} {offset : BitVec 16} {t : BitVec 32} (h : CommDev.Apart offset)
    (hstep : Op.step s.1 op = ((extCtrlStore memDevice offset t op.refreshing).out s.1).2)
    (hhistory : s.2.step (decide (AlarmSeen s.1.regs)) op = if op.refreshing then
      ⟨if s.2.resetSince then some true else s.2.wanted, s.2.resetSince,
        s.2.acknowledged || decide (AlarmSeen s.1.regs)⟩ else s.2) : op.Does s (s.step op) := by
  obtain ⟨next, hout⟩ := extCtrlStore_mem offset t op.refreshing s.1
  rw [Tracked.step, hstep, hhistory, hout]
  cases hrefresh : op.refreshing with
  | false => exact .temperature op offset next t h hrefresh
  | true => exact .refresh op offset next t h hrefresh

theorem Op.does_step (s : Tracked) {op : Op} (h : op.Apart) : op.Does s (s.step op) := by
  cases op with
  | messagingEnable enable =>
      rw [Tracked.step, Op.step, mailboxEnable_mem]
      exact .messaging enable s.1.next
  | reset regs => exact .reset regs s.1.next
  | writeTempSensor t => exact does_store (t := t) (show CommDev.Apart sensor06Telemetry by decide) rfl rfl
  | writeNpuTempSensor t => exact does_store (t := t) (show CommDev.Apart sensor06Telemetry by decide) rfl rfl
  | writeAmbientTempSensor t => exact does_store (t := t) (show CommDev.Apart sensor07Telemetry by decide) rfl rfl
  | extCtrlSet offset refresh t => exact does_store h rfl rfl

/-! ## What is kept -/

theorem messagingBytes_true_iff {enable : Bool} : messagingBytes true = messagingBytes enable ↔ enable = true := by
  cases enable with
  | false => decide
  | true => exact iff_of_true rfl rfl

/-- A refresh leaves messaging as it is to be unless it sees an alarm while messaging is to be disabled. -/
theorem refresh_wanted_iff {s : Tracked} (hs : s.Inv) :
    (∀ enable, (if s.2.resetSince then some true else s.2.wanted) = some enable →
      (if AlarmSeen s.1.regs then messagingBytes true else mailboxEnableBytes s.1.regs) = messagingBytes enable) ↔
    (AlarmSeen s.1.regs → s.2.wanted ≠ some false) := by
  by_cases halarm : AlarmSeen s.1.regs
  · rw [if_pos halarm, forall_prop_of_true halarm]
    simp only [messagingBytes_true_iff]
    cases hreset : s.2.resetSince with
    | true =>
        refine iff_of_true (fun enable heq => ?_) (hs.resetSince hreset).2
        exact (Option.some.inj heq).symm
    | false =>
        rw [if_neg Bool.false_ne_true]
        constructor
        · intro h hfalse
          exact Bool.false_ne_true (h false hfalse)
        · intro h enable heq
          cases enable with
          | false => exact absurd heq h
          | true => rfl
  · have hreset : s.2.resetSince = false := Bool.eq_false_iff.mpr fun h => halarm (hs.resetSince h).1
    rw [if_neg halarm, hreset, if_neg Bool.false_ne_true]
    exact iff_of_true hs.wanted fun h => absurd h halarm

theorem keeps_iff {s : Tracked} (hs : s.Inv) {op : Op} (h : op.Apart) : Keeps s op ↔ Refreshes s op := by
  have hdoes := Op.does_step s h
  rw [Keeps, Refreshes]
  generalize s.step op = s' at hdoes
  cases hdoes with
  | messaging enable next =>
      refine iff_of_true ⟨fun enable' heq => ?_, fun h => (by cases h)⟩ fun h => (by cases h)
      cases heq
      exact (storeAt_mailboxEnable _).1
  | reset regs next => exact iff_of_true ⟨fun _ heq => (by cases heq), fun h => (by cases h)⟩ fun h => (by cases h)
  | temperature op offset next t hapart hrefresh =>
      rw [hrefresh]
      refine iff_of_true ⟨fun enable heq => ?_, fun h => (by cases h)⟩ fun h => (by cases h)
      rw [(afterTemperature_apart hapart false t _).1, if_neg fun h => Bool.false_ne_true h.1]
      exact hs.wanted enable heq
  | refresh op offset next t hapart hrefresh =>
      have hbytes := (afterTemperature_apart hapart true t s.1.regs).1
      simp only [true_and] at hbytes
      simp only [hrefresh, hbytes, forall_const]
      rw [and_comm]
      refine and_congr ?_ ?_
      · cases hack : s.2.acknowledged with
        | false => simp
        | true => simp [hs.acknowledged hack]
      · exact refresh_wanted_iff hs

theorem Tracked.Inv.step {s : Tracked} (hs : s.Inv) {op : Op} (h : op.Apart) (hrefreshes : Refreshes s op) :
    Tracked.Inv (s.step op) := by
  have hwanted := ((keeps_iff hs h).mpr hrefreshes).1
  have hdoes := Op.does_step s h
  generalize s.step op = s' at hdoes hwanted
  cases hdoes with
  | messaging enable next =>
      refine ⟨hwanted, fun hack => ?_, fun hreset => by cases hreset⟩
      exact (storeAt_mailboxEnable _).2.mpr (hs.acknowledged hack)
  | reset regs next =>
      exact ⟨hwanted, fun _ => alarmSeen_afterReset regs, fun _ => ⟨alarmSeen_afterReset regs, by simp⟩⟩
  | temperature op offset next t hapart _ =>
      have halarm := (afterTemperature_apart hapart false t s.1.regs).2
      refine ⟨hwanted, fun hack => halarm.mpr (.inr (hs.acknowledged hack)), fun hreset => ?_⟩
      exact ⟨halarm.mpr (.inr (hs.resetSince hreset).1), (hs.resetSince hreset).2⟩
  | refresh op offset next t hapart _ =>
      have halarm := (afterTemperature_apart hapart true t s.1.regs).2.mpr (.inl rfl)
      refine ⟨hwanted, fun _ => halarm, fun hreset => ⟨halarm, ?_⟩⟩
      rw [if_pos hreset]
      simp

/-- Along a run whose controls have registers of their own, messaging stays as it was set iff no refresh sees an
alarm that another has acknowledged, or sees one while messaging is to be disabled. -/
theorem messaging_stays_iff (d : MemDev) (ops : List Op) (h : ∀ op ∈ ops, op.Apart) :
    Along Tracked.step Keeps (d, .start) ops ↔ Along Tracked.step Refreshes (d, .start) ops := by
  rw [← along_and_iff h, ← along_and_iff (P := Refreshes) h]
  refine along_congr (I := Tracked.Inv) (fun s op hs => ?_) (fun s op hs hC => hs.step hC.1 hC.2) (inv_start d)
  exact and_congr_right fun hapart => keeps_iff hs hapart

/-- The registers of a device that has no alarm -/
def quietDevice : MemDev := ⟨fun _ => 1, 0⟩

/-- Messaging that is disabled on a device without alarm stays so for one temperature. -/
theorem messaging_stays_once :
    Along Tracked.step Keeps (quietDevice, .start) [.messagingEnable false, .writeTempSensor 40] :=
  (messaging_stays_iff quietDevice _ (by
    rintro op (_ | ⟨_, _ | ⟨_, ⟨⟩⟩⟩) <;> trivial)).mpr ⟨fun h => (by cases h), fun _ => ⟨rfl, by decide⟩, trivial⟩

/-- It is enabled by the second, although the device has not been reset. -/
theorem not_messaging_stays : ¬AlarmSeen quietDevice.regs ∧ ¬Along Tracked.step Keeps (quietDevice, .start)
    [.messagingEnable false, .writeTempSensor 40, .writeTempSensor 41] := by
  refine ⟨by decide, fun h => ?_⟩
  have hwanted := h.2.2.1.1 false rfl
  revert hwanted
  decide

end OpxSdi.CommDev
