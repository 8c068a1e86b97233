import OpxSdi.Lib.Leaves
import OpxSdi.Media.Balance
import OpxSdi.Media.Lemmas.Pages
import OpxSdi.Media.Tuning

/-!
# Computations that leave the modules alone

Reads, pin groups and the selection of a module change nothing in a module.
-/

namespace OpxSdi.Media

open Lib Device

def SameSlaves (d d' : State) : Prop := d'.hw.slaves = d.hw.slaves

theorem SameSlaves.refl (d : State) : SameSlaves d d := rfl

theorem SameSlaves.trans (d d' d'' : State) (h : SameSlaves d d') (h' : SameSlaves d' d'') : SameSlaves d d'' :=
  Eq.trans h' h

/-- The computation changes nothing in a module. -/
abbrev KeepsSlaves {α : Type} (x : M α) : Prop := Stays SameSlaves x

namespace KeepsSlaves

variable {α β : Type} {x : M α} (s : Selection)

theorem pure (a : α) : KeepsSlaves (Pure.pure a : M α) := Stays.pure SameSlaves.refl a

theorem fail (e : Errno) : KeepsSlaves (Device.fail e : M α) := Stays.fail SameSlaves.refl e

theorem bind {f : α → M β} (hx : KeepsSlaves x) (hf : ∀ a, KeepsSlaves (f a)) : KeepsSlaves (x >>= f) :=
  Stays.bind SameSlaves.trans hx hf

theorem attempt_bind {f : Except Errno α → M β} (hx : KeepsSlaves x) (hf : ∀ r, KeepsSlaves (f r)) :
    KeepsSlaves (Device.attempt x >>= f) := bind (Stays.attempt hx) hf

theorem internal (f : Cage → α × Cage) (hf : ∀ c, (f c).2.slaves = c.slaves) :
    KeepsSlaves (Device.internal f : M α) := Stays.internal f fun d => hf d.hw

theorem access (f : Cage → α × Cage) (hf : ∀ c, (f c).2.slaves = c.slaves) : KeepsSlaves (Device.access f : M α) :=
  Stays.access f SameSlaves.refl fun d => hf d.hw

theorem note (e : Event) : KeepsSlaves (note e) := internal _ fun _ => rfl

theorem smbusReadByte (a : BitVec 16) (cmd : BitVec 32) : KeepsSlaves (smbusReadByte a cmd) :=
  bind (note _) fun _ => access _ fun _ => rfl

theorem smbusReadWord (a : BitVec 16) (cmd : BitVec 32) : KeepsSlaves (smbusReadWord a cmd) :=
  bind (note _) fun _ => access _ fun _ => rfl

theorem smbusReadMultiByte (a : BitVec 16) (cmd : BitVec 32) (n : Nat) :
    KeepsSlaves (smbusReadMultiByte a cmd n) := by
  induction n generalizing cmd with
  | zero => exact pure []
  | succ n ih => exact bind (smbusReadByte a cmd) fun b => bind (ih _) fun bs => pure (b :: bs)

theorem pinGroupAcquireBus (g : PinGroup) : KeepsSlaves (pinGroupAcquireBus g) :=
  bind (Stays.lock SameSlaves.refl fun _ _ => rfl) fun _ => note _

theorem pinGroupReleaseBus (g : PinGroup) : KeepsSlaves (pinGroupReleaseBus g) :=
  bind (Stays.unlock fun _ _ => rfl) fun _ => note _

theorem pinGroupWriteLevel (g : PinGroup) (v : BitVec 32) : KeepsSlaves (pinGroupWriteLevel g v) :=
  access _ fun _ => rfl

theorem releaseMux : KeepsSlaves s.releaseMux := by
  rw [Selection.releaseMux]
  split
  · exact pinGroupReleaseBus _
  · exact pure ()

theorem moduleSelect : KeepsSlaves s.moduleSelect := by
  refine bind ?_ fun _ => bind ?_ fun _ => note _
  · rw [Selection.selectMux]
    split
    · refine bind (pinGroupAcquireBus _) fun _ => attempt_bind (pinGroupWriteLevel _ _) fun r => ?_
      cases r with
      | ok u => exact pure ()
      | error e => exact bind (pinGroupReleaseBus _) fun _ => fail e
    · exact pure ()
  · rw [Selection.selectMod]
    split
    · refine attempt_bind (pinGroupAcquireBus _) fun r => ?_
      cases r with
      | error e => exact bind (releaseMux s) fun _ => fail e
      | ok u =>
          refine attempt_bind (pinGroupWriteLevel _ _) fun r => ?_
          cases r with
          | ok u => exact pure ()
          | error e => exact bind (releaseMux s) fun _ => bind (pinGroupReleaseBus _) fun _ => fail e
    · exact pure ()

theorem moduleDeselect : KeepsSlaves s.moduleDeselect := by
  refine bind (note _) fun _ => bind (releaseMux s) fun _ => ?_
  split
  · exact pinGroupReleaseBus _
  · exact pure ()

end KeepsSlaves

/-- A call to a selected module changes what its transactions change. -/
theorem stays_withModule {α : Type} {R : State → State → Prop} (s : Selection) {x : M α}
    (hR : ∀ d d', SameSlaves d d' → R d d') (htrans : ∀ d d' d'', R d d' → R d' d'' → R d d'') (hx : Stays R x) :
    Stays R (s.withModule x) :=
  Stays.bind htrans ((KeepsSlaves.moduleSelect s).mono hR) fun _ =>
    Stays.bind htrans (Stays.attempt hx) fun r =>
      Stays.bind htrans ((KeepsSlaves.moduleDeselect s).mono hR) fun _ =>
        Stays.ofResult (fun d => hR d d (SameSlaves.refl d)) r

theorem KeepsSlaves.withModule {α : Type} (s : Selection) {x : M α} (hx : KeepsSlaves x) :
    KeepsSlaves (s.withModule x) := stays_withModule s (fun _ _ h => h) SameSlaves.trans hx

/-! ## The page register

Only the selection of a page, and a write to the byte of the register, change the page of a module.
-/

section

/-- Both states have each module on the same page. -/
def SamePages (d d' : State) : Prop := ∀ a, (d'.hw.slaves a).page = (d.hw.slaves a).page

theorem SamePages.refl (d : State) : SamePages d d := fun _ => rfl

theorem SamePages.trans (d d' d'' : State) (h : SamePages d d') (h' : SamePages d' d'') : SamePages d d'' :=
  fun a => (h' a).trans (h a)

theorem SamePages.of_slaves (d d' : State) (h : SameSlaves d d') : SamePages d d' :=
  fun a => congrArg (fun slaves => (slaves a).page) h

/-- The computation leaves each module on its page. -/
abbrev KeepsPages {α : Type} (x : M α) : Prop := Stays SamePages x

theorem Eeprom.write_page {e : Eeprom} {offset value : Byte} (h : offset ≠ pageSelectByteOffset) :
    (e.write offset value).page = e.page := by
  rw [Eeprom.write]
  split
  · exact Function.update_of_ne h.symm _ _
  · rfl

theorem Eeprom.selectPage_page (e : Eeprom) (p : Byte) : (e.selectPage p).page = p := by
  rw [Eeprom.selectPage, Eeprom.write, if_pos (by decide)]
  exact Function.update_self Eeprom.pageSelectByteOffset p e.lower

/-! ### Computations that keep the pages -/

namespace KeepsPages

variable {α β : Type} {x : M α}

theorem pure (a : α) : KeepsPages (Pure.pure a : M α) := Stays.pure SamePages.refl a

theorem fail (e : Errno) : KeepsPages (Device.fail e : M α) := Stays.fail SamePages.refl e

theorem ofResult (r : Except Errno α) : KeepsPages (Device.ofResult r : M α) := Stays.ofResult SamePages.refl r

theorem bind {f : α → M β} (hx : KeepsPages x) (hf : ∀ a, KeepsPages (f a)) : KeepsPages (x >>= f) :=
  Stays.bind SamePages.trans hx hf

theorem attempt_bind {f : Except Errno α → M β} (hx : KeepsPages x) (hf : ∀ r, KeepsPages (f r)) :
    KeepsPages (Device.attempt x >>= f) := bind (Stays.attempt hx) hf

/-- What leaves the modules alone leaves them on their pages. -/
theorem of_slaves (hx : KeepsSlaves x) : KeepsPages x := Stays.mono hx SamePages.of_slaves

theorem access (f : Cage → α × Cage) (hf : ∀ c a, ((f c).2.slaves a).page = (c.slaves a).page) :
    KeepsPages (Device.access f : M α) := Stays.access f SamePages.refl fun d a => hf d.hw a

theorem smbusReadByte (a : BitVec 16) (cmd : BitVec 32) : KeepsPages (smbusReadByte a cmd) :=
  of_slaves (KeepsSlaves.smbusReadByte a cmd)

theorem smbusReadWord (a : BitVec 16) (cmd : BitVec 32) : KeepsPages (smbusReadWord a cmd) :=
  of_slaves (KeepsSlaves.smbusReadWord a cmd)

theorem smbusReadMultiByte (a : BitVec 16) (cmd : BitVec 32) (n : Nat) : KeepsPages (smbusReadMultiByte a cmd n) :=
  of_slaves (KeepsSlaves.smbusReadMultiByte a cmd n)

/-- A write to any other byte keeps the page. -/
theorem smbusWriteByte {a : BitVec 16} {cmd : BitVec 32} {b : Byte}
    (h : cmd.setWidth 8 ≠ Eeprom.pageSelectByteOffset) : KeepsPages (smbusWriteByte a cmd b) := by
  refine bind (of_slaves (KeepsSlaves.note _)) fun _ => access _ fun c a' => ?_
  by_cases ha : a' = a
  · subst ha
    change (Function.update c.slaves a' _ a').page = _
    rw [Function.update_self]
    exact Eeprom.write_page h
  · change (Function.update c.slaves a _ a').page = _
    rw [Function.update_of_ne ha]

end KeepsPages

/-- No byte of a transfer is the page register. -/
def AvoidsPageSelect (offset : BitVec 32) (n : Nat) : Prop :=
  ∀ k < n, (offset + BitVec.ofNat 32 k).setWidth 8 ≠ Eeprom.pageSelectByteOffset

instance (offset : BitVec 32) (n : Nat) : Decidable (AvoidsPageSelect offset n) :=
  inferInstanceAs (Decidable (∀ k < n, _))

theorem AvoidsPageSelect.head {offset : BitVec 32} {n : Nat} (h : AvoidsPageSelect offset (n + 1)) :
    offset.setWidth 8 ≠ Eeprom.pageSelectByteOffset := by
  have h0 := h 0 (Nat.succ_pos n)
  rwa [BitVec.add_zero] at h0

theorem AvoidsPageSelect.tail {offset : BitVec 32} {n : Nat} (h : AvoidsPageSelect offset (n + 1)) :
    AvoidsPageSelect (offset + 1) n := by
  intro k hk
  have hadd : offset + 1 + BitVec.ofNat 32 k = offset + BitVec.ofNat 32 (k + 1) := by
    rw [BitVec.ofNat_add, BitVec.add_assoc]
    exact congrArg (offset + ·) (BitVec.add_comm _ _)
  rw [hadd]
  exact h (k + 1) (Nat.succ_lt_succ hk)

theorem KeepsPages.smbusWriteMultiByte {a : BitVec 16} {cmd : BitVec 32} {bs : List Byte}
    (h : AvoidsPageSelect cmd bs.length) : KeepsPages (smbusWriteMultiByte a cmd bs) := by
  induction bs generalizing cmd with
  | nil => exact pure ()
  | cons b bs ih => exact bind (smbusWriteByte h.head) fun _ => ih h.tail

namespace KeepsPages

variable {α : Type} (s : Selection)

theorem moduleSelect : KeepsPages s.moduleSelect := of_slaves (KeepsSlaves.moduleSelect s)

theorem moduleDeselect : KeepsPages s.moduleDeselect := of_slaves (KeepsSlaves.moduleDeselect s)

theorem withModule {x : M α} (hx : KeepsPages x) : KeepsPages (s.withModule x) :=
  stays_withModule s SamePages.of_slaves SamePages.trans hx

end KeepsPages

end

end OpxSdi.Media
