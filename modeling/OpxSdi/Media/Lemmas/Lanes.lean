import OpxSdi.Lib.TwoRuns
import OpxSdi.Media.CdrTheorems
import OpxSdi.Media.Lemmas.PageRegister
import OpxSdi.Media.SubPort

/-!
# The lanes of a module

Each bit of a register belongs to a lane or to the module as a whole. A computation acts on one lane only if it
changes no other bit, and if no bit of another lane has an effect on it.
-/

namespace OpxSdi.Media

open Lib Device

/-! ## Layout -/

/-- How the bits of a register are divided among the lanes -/
inductive Layout
  | whole
  | lane (n : Nat)
  /-- One bit for each lane -/
  | single
  /-- One bit for each lane and direction -/
  | both
  /-- Two bits for each lane -/
  | pairs
  /-- The upper half for lane `n`, the lower one for the next lane -/
  | halves (n : Nat)
  deriving DecidableEq, Repr

def Layout.laneOf : Layout → (bit : Nat) → Option Nat
  | whole, _ => none
  | lane n, _ => some n
  | single, k => some k
  | both, k => some (k % 4)
  | pairs, k => some (k / 2)
  | halves n, k => some (if 4 ≤ k then n else n + 1)

namespace Qsfp

/-- The registers of `qsfp_reg_offset_t` -/
def plainLayout (offset : Nat) : Layout :=
  if offset = 3 ∨ offset = 98 then .both
  else if offset = 4 ∨ offset = 86 then .single
  else if offset = 9 ∨ offset = 11 then .halves 0
  else if offset = 10 ∨ offset = 12 then .halves 2
  else if 34 ≤ offset ∧ offset < 42 then .lane ((offset - 34) / 2)
  else if 42 ≤ offset ∧ offset < 50 then .lane ((offset - 42) / 2)
  else if offset = 87 ∨ offset = 88 then .pairs
  else .whole

/-- The registers of `qsfp_dd_reg_offset_t`, and those for rate select -/
def ddLayout (offset : Nat) : Layout :=
  if 3 ≤ offset ∧ offset < 8 ∨ 10 ≤ offset ∧ offset < 17 then .single
  else if 34 ≤ offset ∧ offset < 50 then .lane ((offset - 34) / 2)
  else if 50 ≤ offset ∧ offset < 66 then .lane ((offset - 50) / 2)
  else if 66 ≤ offset ∧ offset < 82 then .lane ((offset - 66) / 2)
  else if offset = 84 ∨ offset = 90 ∨ offset = 91 then .single
  else if offset = 87 ∨ offset = 88 then .pairs
  else .whole

/-- The lane that a bit of a register belongs to -/
def laneOf (category : QsfpCategory) (p : Byte × Nat) : Option Nat :=
  ((if category = .qsfpdd then ddLayout else plainLayout) p.1.toNat).laneOf p.2

/-- The bit belongs to no other lane. -/
def Own (category : QsfpCategory) (lane : Nat) (p : Byte × Nat) : Prop :=
  laneOf category p = none ∨ laneOf category p = some lane

variable (q : Qsfp) (category : QsfpCategory) (lane : Nat)

/-- Nothing but bits of the lane has changed. -/
structure Confined (c c' : Cage) : Prop where
  others_eq : ∀ a, a ≠ q.i2cAddr → c'.slaves a = c.slaves a
  upper_eq : (c'.slaves q.i2cAddr).upper = (c.slaves q.i2cAddr).upper
  bit_eq : ∀ p, laneOf category p ≠ some lane → q.bitAt c'.slaves p = q.bitAt c.slaves p

/-- The modules are equal but for bits of other lanes. -/
structure Agrees (slaves slaves' : BitVec 16 → Eeprom) : Prop where
  others_eq : ∀ a, a ≠ q.i2cAddr → slaves' a = slaves a
  bit_eq : ∀ p, Own category lane p → q.bitAt slaves' p = q.bitAt slaves p

/-- The cages are equal but for bits of other lanes. -/
def SameLane (c c' : Cage) : Prop :=
  ∃ slaves', c' = { c with slaves := slaves' } ∧ q.Agrees category lane c.slaves slaves'

abbrev KeepsOthers {α : Type} (x : M α) : Prop := Stays (fun d d' : State => q.Confined category lane d.hw d'.hw) x

abbrev Blind {α β : Type} (S : α → β → Prop) (x : M α) (y : M β) : Prop :=
  Matched (q.SameLane category lane) S x y

/-- The bytes have the same bits of the lane and of the module. -/
def OwnBits (offset : Byte) (b b' : Byte) : Prop := ∀ k, Own category lane (offset, k) → b'.getLsbD k = b.getLsbD k

variable {q} {category} {lane} {α β : Type}

/-! ## What is changed -/

theorem Confined.of_slaves (d d' : State) (h : SameSlaves d d') : q.Confined category lane d.hw d'.hw where
  others_eq a _ := congrFun h a
  upper_eq := congrArg Eeprom.upper (congrFun h _)
  bit_eq p _ := congrArg (q.bitAt · p) h

theorem Confined.trans (d d' d'' : State) (h : q.Confined category lane d.hw d'.hw)
    (h' : q.Confined category lane d'.hw d''.hw) : q.Confined category lane d.hw d''.hw where
  others_eq a ha := (h'.others_eq a ha).trans (h.others_eq a ha)
  upper_eq := h'.upper_eq.trans h.upper_eq
  bit_eq p hp := (h'.bit_eq p hp).trans (h.bit_eq p hp)

namespace KeepsOthers

theorem of_slaves {x : M α} (hx : KeepsSlaves x) : q.KeepsOthers category lane x := Stays.mono hx Confined.of_slaves

theorem bind {x : M α} {f : α → M β} (hx : q.KeepsOthers category lane x)
    (hf : ∀ a, q.KeepsOthers category lane (f a)) : q.KeepsOthers category lane (x >>= f) :=
  Stays.bind Confined.trans hx hf

theorem withModule {x : M α} (hx : q.KeepsOthers category lane x) :
    q.KeepsOthers category lane (q.sel.withModule x) := stays_withModule q.sel Confined.of_slaves Confined.trans hx

end KeepsOthers

variable {cmd : BitVec 32} {v : Byte} {d : State}

theorem confined_withRegister {c c' : Cage} (hcmd : cmd.setWidth 8 < (127 : Byte))
    (hv : ∀ k, laneOf category (cmd.setWidth 8, k) ≠ some lane →
      v.getLsbD k = (q.register c.slaves cmd).getLsbD k) (hslaves : c'.slaves = q.withRegister c.slaves cmd v) :
    q.Confined category lane c c' := by
  refine ⟨fun a ha => ?_, ?_, fun p hp => ?_⟩
  · rw [hslaves, withRegister, Function.update_of_ne ha]
  · rw [hslaves, withRegister, Function.update_self, Eeprom.write, if_pos (BitVec.lt_trans hcmd (by decide))]
  · obtain ⟨o, k⟩ := p
    rw [bitAt, bitAt, hslaves, read_withRegister hcmd]
    split
    · rename_i ho
      subst ho
      exact hv k hp
    · rfl

/-- A write that keeps the bits of the register that are not of the lane -/
theorem leaves_smbusWriteByte (hcmd : cmd.setWidth 8 < (127 : Byte))
    (hv : ∀ k, laneOf category (cmd.setWidth 8, k) ≠ some lane →
      v.getLsbD k = (q.register d.hw.slaves cmd).getLsbD k) :
    Leaves (smbusWriteByte q.i2cAddr cmd v) d fun d' => q.Confined category lane d.hw d'.hw := by
  cases hfault : d.fault d.time with
  | some e =>
      rw [leaves_of_err (err_smbusWriteByte.mpr ⟨hfault, rfl⟩)]
      exact Confined.of_slaves d _ rfl
  | none =>
      rw [leaves_of_ok ((ok_smbusWriteByte (u := ())).mpr ⟨hfault, rfl⟩)]
      exact confined_withRegister hcmd hv rfl

/-- A register that is read and written. -/
theorem KeepsOthers.modify {f : Byte → M α} {g : Byte → Byte} (hcmd : cmd.setWidth 8 < (127 : Byte))
    (hf : ∀ b d, Leaves (smbusWriteByte q.i2cAddr cmd (g b)) d (fun d' => q.Confined category lane d.hw d'.hw) →
      Leaves (f b) d fun d' => q.Confined category lane d.hw d'.hw)
    (hg : ∀ b k, laneOf category (cmd.setWidth 8, k) ≠ some lane → (g b).getLsbD k = b.getLsbD k) :
    q.KeepsOthers category lane (smbusReadByte q.i2cAddr cmd >>= f) := by
  refine Stays.bind_of_ok Confined.trans (KeepsOthers.of_slaves (KeepsSlaves.smbusReadByte _ _))
    fun d b d' hread => ?_
  obtain ⟨-, rfl, rfl⟩ := ok_smbusReadByte.mp hread
  exact hf _ _ (leaves_smbusWriteByte hcmd fun k hk => hg _ k hk)

/-! ## What has an effect -/

theorem blind_internal {f : Cage → α × Cage}
    (hf : ∀ c slaves, f { c with slaves } = ((f c).1, { (f c).2 with slaves })) :
    q.Blind category lane Eq (Device.internal f : M α) (Device.internal f) := by
  refine Matched.internal ?_
  rintro c c' ⟨slaves, rfl, hagrees⟩
  have hslaves : (f c).2.slaves = c.slaves := congrArg (·.2.slaves) (hf c c.slaves)
  rw [hf c slaves]
  exact ⟨rfl, slaves, rfl, hslaves ▸ hagrees⟩

theorem blind_access {f : Cage → α × Cage}
    (hf : ∀ c slaves, f { c with slaves } = ((f c).1, { (f c).2 with slaves })) :
    q.Blind category lane Eq (Device.access f : M α) (Device.access f) := by
  refine Matched.access ?_
  rintro c c' ⟨slaves, rfl, hagrees⟩
  have hslaves : (f c).2.slaves = c.slaves := congrArg (·.2.slaves) (hf c c.slaves)
  rw [hf c slaves]
  exact ⟨rfl, slaves, rfl, hslaves ▸ hagrees⟩

theorem blind_note (e : Event) : q.Blind category lane Eq (note e) (note e) := blind_internal fun _ _ => rfl

theorem blind_pinGroupAcquireBus (g : PinGroup) :
    q.Blind category lane Eq (pinGroupAcquireBus g) (pinGroupAcquireBus g) :=
  .bind_eq (.lock g) fun _ => blind_note _

theorem blind_pinGroupReleaseBus (g : PinGroup) :
    q.Blind category lane Eq (pinGroupReleaseBus g) (pinGroupReleaseBus g) :=
  .bind_eq (.unlock g) fun _ => blind_note _

theorem blind_pinGroupWriteLevel (g : PinGroup) (value : BitVec 32) :
    q.Blind category lane Eq (pinGroupWriteLevel g value) (pinGroupWriteLevel g value) :=
  blind_access fun _ _ => rfl

theorem blind_releaseMux (s : Selection) : q.Blind category lane Eq s.releaseMux s.releaseMux := by
  rw [Selection.releaseMux]
  split
  · exact blind_pinGroupReleaseBus _
  · exact .pure rfl

theorem blind_moduleSelect (s : Selection) : q.Blind category lane Eq s.moduleSelect s.moduleSelect := by
  refine .bind_eq ?_ fun _ => .bind_eq ?_ fun _ => blind_note _
  · rw [Selection.selectMux]
    split
    · refine .bind_eq (blind_pinGroupAcquireBus _) fun _ => .bind_eq (.attempt_eq (blind_pinGroupWriteLevel _ _))
        fun rc => ?_
      cases rc with
      | ok u => exact .pure rfl
      | error e => exact .bind_eq (blind_pinGroupReleaseBus _) fun _ => .fail e
    · exact .pure rfl
  · rw [Selection.selectMod]
    split
    · refine .bind_eq (.attempt_eq (blind_pinGroupAcquireBus _)) fun rc => ?_
      cases rc with
      | error e => exact .bind_eq (blind_releaseMux s) fun _ => .fail e
      | ok u =>
          refine .bind_eq (.attempt_eq (blind_pinGroupWriteLevel _ _)) fun rc => ?_
          cases rc with
          | ok u => exact .pure rfl
          | error e =>
              exact .bind_eq (blind_releaseMux s) fun _ => .bind_eq (blind_pinGroupReleaseBus _) fun _ => .fail e
    · exact .pure rfl

theorem blind_moduleDeselect (s : Selection) : q.Blind category lane Eq s.moduleDeselect s.moduleDeselect := by
  refine .bind_eq (blind_note _) fun _ => .bind_eq (blind_releaseMux s) fun _ => ?_
  split
  · exact blind_pinGroupReleaseBus _
  · exact .pure rfl

theorem blind_withModule {S : α → β → Prop} {x : M α} {y : M β} (s : Selection) (hx : q.Blind category lane S x y) :
    q.Blind category lane S (s.withModule x) (s.withModule y) :=
  .bind_eq (blind_moduleSelect s) fun _ => .bind (.attempt hx) fun _ _ h =>
    .bind_eq (blind_moduleDeselect s) fun _ => .ofResult h

/-! ### Transactions -/

theorem OwnBits.eq {offset b b' : Byte} (h : OwnBits category lane offset b b')
    (hown : ∀ k < 8, Own category lane (offset, k)) : b' = b :=
  BitVec.eq_of_getLsbD_eq fun k hk => h k (hown k hk)

theorem blind_smbusReadByte (cmd : BitVec 32) : q.Blind category lane (OwnBits category lane (cmd.setWidth 8))
    (smbusReadByte q.i2cAddr cmd) (smbusReadByte q.i2cAddr cmd) := by
  refine .bind_eq (blind_note _) fun _ => Matched.access ?_
  rintro c c' ⟨slaves, rfl, hagrees⟩
  exact ⟨fun k hk => hagrees.bit_eq (cmd.setWidth 8, k) hk, slaves, rfl, hagrees⟩

/-- A register without a bit of another lane -/
theorem blind_smbusReadByte_own {cmd : BitVec 32} (hown : ∀ k < 8, Own category lane (cmd.setWidth 8, k)) :
    q.Blind category lane Eq (smbusReadByte q.i2cAddr cmd) (smbusReadByte q.i2cAddr cmd) :=
  (blind_smbusReadByte cmd).mono fun _ _ h => (h.eq hown).symm

theorem blind_smbusReadWord {cmd : BitVec 32} (hown : ∀ k < 8, Own category lane (cmd.setWidth 8, k))
    (hown' : ∀ k < 8, Own category lane (cmd.setWidth 8 + 1, k)) :
    q.Blind category lane Eq (smbusReadWord q.i2cAddr cmd) (smbusReadWord q.i2cAddr cmd) := by
  refine .bind_eq (blind_note _) fun _ => Matched.access ?_
  rintro c c' ⟨slaves, rfl, hagrees⟩
  have hread : ∀ o, (∀ k < 8, Own category lane (o, k)) →
      (c.slaves q.i2cAddr).read o = (slaves q.i2cAddr).read o := fun o ho =>
    BitVec.eq_of_getLsbD_eq fun k hk => (hagrees.bit_eq (o, k) (ho k hk)).symm
  exact ⟨congrArg₂ (· ++ ·) (hread _ hown') (hread _ hown), slaves, rfl, hagrees⟩

theorem Agrees.withRegister {slaves slaves' : BitVec 16 → Eeprom} {b b' : Byte} (hcmd : cmd.setWidth 8 < (127 : Byte))
    (h : q.Agrees category lane slaves slaves') (hb : OwnBits category lane (cmd.setWidth 8) b b') :
    q.Agrees category lane (q.withRegister slaves cmd b) (q.withRegister slaves' cmd b') := by
  refine ⟨fun a ha => ?_, fun p hp => ?_⟩
  · rw [Qsfp.withRegister, Qsfp.withRegister, Function.update_of_ne ha, Function.update_of_ne ha, h.others_eq a ha]
  · obtain ⟨o, k⟩ := p
    rw [bitAt, bitAt, read_withRegister hcmd, read_withRegister hcmd]
    split
    · rename_i ho
      subst ho
      exact hb k hp
    · exact h.bit_eq (o, k) hp

theorem blind_smbusWriteByte {b b' : Byte} (hcmd : cmd.setWidth 8 < (127 : Byte))
    (hb : OwnBits category lane (cmd.setWidth 8) b b') :
    q.Blind category lane Eq (smbusWriteByte q.i2cAddr cmd b) (smbusWriteByte q.i2cAddr cmd b') := by
  refine .bind_eq (blind_note _) fun _ => Matched.access ?_
  rintro c c' ⟨slaves, rfl, hagrees⟩
  exact ⟨rfl, _, rfl, hagrees.withRegister hcmd hb⟩

end Qsfp

end OpxSdi.Media
