import OpxSdi.Lib.Bits
import OpxSdi.Media.Balance

/-!
# What a computation does to the locks and the log

The locks of a cage are those that its log has taken and not given back. Between a selection and its end
the drivers only make transactions with the module.
-/

namespace OpxSdi.Media

open Lib

def replay (held : PinGroup → Bool) : List Event → PinGroup → Bool
  | [] => held
  | .acquire g :: es => replay (Function.update held g true) es
  | .release g :: es => replay (Function.update held g false) es
  | .selected :: es => replay held es
  | .deselected :: es => replay held es
  | .transaction :: es => replay held es

@[simp] theorem replay_append (held : PinGroup → Bool) (es fs : List Event) :
    replay held (es ++ fs) = replay (replay held es) fs := by
  induction es generalizing held with
  | nil => rfl
  | cons e es ih => cases e <;> exact ih _

@[simp] theorem replay_transactions (held : PinGroup → Bool) (n : Nat) :
    replay held (List.replicate n .transaction) = held := by
  induction n with
  | zero => rfl
  | succ n ih => exact ih

/-- The step from `d` to `d'` has these events. -/
structure Logs (es : List Event) (d d' : State) : Prop where
  held_eq : d'.held = replay d.held es
  fault_eq : d'.fault = d.fault
  log_eq : d'.hw.log = d.hw.log ++ es

/-- The step changes of the private data the version at most, and not the pins of the low power mode. -/
structure Does (es : List Event) (d d' : State) : Prop extends Logs es d d' where
  priv_eq : ∃ v, d'.hw.priv = { d.hw.priv with eepromVersion := v }
  sfpDevices_eq : d'.hw.sfpDevices = d.hw.sfpDevices
  nextSfpDevice_eq : d'.hw.nextSfpDevice = d.hw.nextSfpDevice
  modLpmode_eq : d'.hw.pins .modLpmode = d.hw.pins .modLpmode

variable {d d' d'' : State} {es fs : List Event}

namespace Logs

theorem refl (d : State) : Logs [] d d := ⟨rfl, rfl, (List.append_nil _).symm⟩

theorem trans (h : Logs es d d') (h' : Logs fs d' d'') : Logs (es ++ fs) d d'' := by
  refine ⟨?_, h'.fault_eq.trans h.fault_eq, ?_⟩
  · rw [h'.held_eq, h.held_eq, replay_append]
  · rw [h'.log_eq, h.log_eq, List.append_assoc]

end Logs

namespace Does

theorem refl (d : State) : Does [] d d := ⟨Logs.refl d, ⟨_, rfl⟩, rfl, rfl, rfl⟩

theorem trans (h : Does es d d') (h' : Does fs d' d'') : Does (es ++ fs) d d'' := by
  obtain ⟨v, hv⟩ := h.priv_eq
  obtain ⟨v', hv'⟩ := h'.priv_eq
  exact ⟨h.toLogs.trans h'.toLogs, ⟨v', by rw [hv', hv]⟩, h'.sfpDevices_eq.trans h.sfpDevices_eq,
    h'.nextSfpDevice_eq.trans h.nextSfpDevice_eq, h'.modLpmode_eq.trans h.modLpmode_eq⟩

theorem modType_eq (h : Does es d d') : d'.hw.priv.modType = d.hw.priv.modType := by
  obtain ⟨v, hv⟩ := h.priv_eq
  rw [hv]

theorem sfpDevice_eq (h : Does es d d') : d'.hw.priv.sfpDevice = d.hw.priv.sfpDevice := by
  obtain ⟨v, hv⟩ := h.priv_eq
  rw [hv]

end Does

/-! ## Transactions -/

/-- The step makes transactions and does nothing else that shows in the log. -/
def Transacted (d d' : State) : Prop := ∃ n, Does (List.replicate n .transaction) d d'

theorem Transacted.refl (d : State) : Transacted d d := ⟨0, Does.refl d⟩

theorem Transacted.trans (d d' d'' : State) (h : Transacted d d') (h' : Transacted d' d'') :
    Transacted d d'' := by
  obtain ⟨n, hn⟩ := h
  obtain ⟨m, hm⟩ := h'
  exact ⟨n + m, List.replicate_append_replicate (a := Event.transaction) ▸ hn.trans hm⟩

abbrev Transacts {α : Type} (x : M α) : Prop := Device.Keeps Transacted x

namespace Transacts

variable {α β : Type} {x : M α} {s : Sfp} {q : Qsfp}

theorem pure (a : α) : Transacts (Pure.pure a : M α) := Device.Keeps.pure Transacted.refl a

theorem fail (e : Errno) : Transacts (Device.fail e : M α) := Device.Keeps.fail Transacted.refl e

theorem bind {f : α → M β} (hx : Transacts x) (hf : ∀ a, Transacts (f a)) : Transacts (x >>= f) :=
  Device.Keeps.bind Transacted.trans hx hf

theorem attempt_bind {f : Except Errno α → M β} (hx : Transacts x) (hf : ∀ r, Transacts (f r)) :
    Transacts (Device.attempt x >>= f) :=
  bind (Device.Keeps.attempt hx) hf

/-- A transaction leaves the cage as it is but for the module. -/
theorem transaction (f : Cage → α × Cage) (hlog : ∀ c, (f c).2.log = c.log)
    (hpriv : ∀ c, (f c).2.priv = c.priv) (hdevs : ∀ c, (f c).2.sfpDevices = c.sfpDevices)
    (hnext : ∀ c, (f c).2.nextSfpDevice = c.nextSfpDevice) (hpins : ∀ c, (f c).2.pins = c.pins) :
    Transacts (note .transaction >>= fun _ => Device.access f) := by
  refine bind (Device.Keeps.internal _ fun d => ⟨1, ⟨⟨rfl, rfl, rfl⟩, ⟨_, rfl⟩, rfl, rfl, rfl⟩⟩) fun _ =>
    Device.Keeps.access f (fun d => ⟨0, ⟨⟨rfl, rfl, ?_⟩, ⟨_, rfl⟩, rfl, rfl, rfl⟩⟩)
      fun d => ⟨0, ⟨⟨rfl, rfl, ?_⟩, ⟨_, hpriv _⟩, hdevs _, hnext _, congrFun (hpins _) _⟩⟩
  · exact (List.append_nil _).symm
  · exact (hlog d.hw).trans (List.append_nil _).symm

theorem smbusReadByte (addr : BitVec 16) (cmd : BitVec 32) : Transacts (smbusReadByte addr cmd) :=
  transaction _ (fun _ => rfl) (fun _ => rfl) (fun _ => rfl) (fun _ => rfl) fun _ => rfl

theorem smbusWriteByte (addr : BitVec 16) (cmd : BitVec 32) (buffer : Byte) :
    Transacts (smbusWriteByte addr cmd buffer) :=
  transaction _ (fun _ => rfl) (fun _ => rfl) (fun _ => rfl) (fun _ => rfl) fun _ => rfl

theorem smbusReadWord (addr : BitVec 16) (cmd : BitVec 32) : Transacts (smbusReadWord addr cmd) :=
  transaction _ (fun _ => rfl) (fun _ => rfl) (fun _ => rfl) (fun _ => rfl) fun _ => rfl

theorem smbusReadMultiByte (addr : BitVec 16) (cmd : BitVec 32) (n : Nat) :
    Transacts (smbusReadMultiByte addr cmd n) := by
  induction n generalizing cmd with
  | zero => exact pure []
  | succ n ih => exact (smbusReadByte addr cmd).bind fun b => (ih (cmd + 1)).bind fun bs => pure (b :: bs)

theorem smbusWriteMultiByte (addr : BitVec 16) (cmd : BitVec 32) (bs : List Byte) :
    Transacts (smbusWriteMultiByte addr cmd bs) := by
  induction bs generalizing cmd with
  | nil => exact pure ()
  | cons b bs ih => exact (smbusWriteByte addr cmd b).bind fun _ => ih (cmd + 1)

/-! ### The SFP driver -/

theorem sfpPageSelect (page : Byte) : Transacts (Sfp.pageSelect page) := smbusWriteByte _ _ page

theorem readRegister (offset : BitVec 32) (size : Nat) : Transacts (s.readRegister offset size) := by
  unfold Sfp.readRegister
  split
  · exact (smbusReadByte _ _).bind fun _ => pure _
  · split
    · exact (smbusReadWord _ _).bind fun _ => pure _
    · exact fail _

/-! ### The QSFP driver -/

theorem isPagingSupported : Transacts q.isPagingSupported := (smbusReadByte _ _).bind fun _ => pure _

theorem pageSelect (page : Int) : Transacts (q.pageSelect page) := by
  refine (smbusReadByte _ _).bind fun buf => ?_
  split
  · exact fail _
  · exact smbusWriteByte _ _ _

theorem defaultPageSelect : Transacts q.defaultPageSelect := by
  refine attempt_bind isPagingSupported fun paging => ?_
  split
  · exact pageSelect _
  · exact pure ()

theorem isSoftwareControlledPowerModeSupported : Transacts q.isSoftwareControlledPowerModeSupported :=
  attempt_bind defaultPageSelect fun _ => (smbusReadByte _ _).bind fun _ => pure _

theorem setPowerClassControl (state : Bool) : Transacts (q.setPowerClassControl state) := by
  refine isSoftwareControlledPowerModeSupported.bind fun featureSup => ?_
  split
  · exact (smbusReadByte _ _).bind fun _ => smbusWriteByte _ _ _
  · exact fail _

theorem setEepromVersion (v : Byte) : Transacts (modifyPriv fun p => { p with eepromVersion := v }) :=
  Device.Keeps.internal _ fun _ => ⟨0, ⟨⟨rfl, rfl, (List.append_nil _).symm⟩, ⟨v, rfl⟩, rfl, rfl, rfl⟩⟩

theorem datapathPowerup : Transacts q.datapathPowerup := by
  refine attempt_bind (smbusReadByte _ _) fun first => (setEepromVersion _).bind fun _ =>
    attempt_bind (smbusReadByte _ _) fun second => ?_
  split
  · exact attempt_bind (pageSelect _) fun _ => attempt_bind (smbusWriteByte _ _ _) fun _ =>
      attempt_bind (smbusReadByte _ _) fun _ => attempt_bind (pageSelect _) fun _ =>
        Device.Keeps.ofResult Transacted.refl _
  · exact Device.Keeps.ofResult Transacted.refl _

theorem transferOnPage (page : Int) (pagingSupport : Bool) (hx : Transacts x) :
    Transacts (q.transferOnPage page pagingSupport x) := by
  unfold Qsfp.transferOnPage
  split
  · refine attempt_bind (pageSelect page) fun selected => ?_
    split
    · exact fail _
    · exact (pageSelect _).bind fun _ => pure _
    · exact attempt_bind hx fun _ => (pageSelect _).bind fun _ => pure _
  · exact hx.bind fun _ => pure _

end Transacts

/-! ## One bit of a word -/

theorem getLsbD_stdBit {w : Nat} (value : BitVec w) (bit : Nat) (state : Bool) {k : Nat} (hk : k < w) :
    (Qsfp.stdBit value bit state).getLsbD k = if k = bit then state else value.getLsbD k := by
  unfold Qsfp.stdBit
  cases state with
  | true =>
      simp only [↓reduceIte, BitVec.getLsbD_or, getLsbD_one_shiftLeft, hk, decide_true, Bool.true_and]
      by_cases h : k = bit <;> simp [h]
  | false =>
      simp only [Bool.false_eq_true, ↓reduceIte, BitVec.getLsbD_and, BitVec.getLsbD_not, getLsbD_one_shiftLeft,
        hk, decide_true, Bool.true_and]
      by_cases h : k = bit <;> simp [h]

theorem getLsbD_stdBit_self {w : Nat} {value : BitVec w} {bit : Nat} (h : bit < w) (state : Bool) :
    (Qsfp.stdBit value bit state).getLsbD bit = state := by
  rw [getLsbD_stdBit value bit state h, if_pos rfl]

theorem getLsbD_stdBit_of_ne {w : Nat} {value : BitVec w} {bit k : Nat} (h : k ≠ bit) (state : Bool) :
    (Qsfp.stdBit value bit state).getLsbD k = value.getLsbD k := by
  by_cases hk : k < w
  · rw [getLsbD_stdBit value bit state hk, if_neg h]
  · rw [BitVec.getLsbD_of_ge _ _ (Nat.not_lt.mp hk), BitVec.getLsbD_of_ge _ _ (Nat.not_lt.mp hk)]

end OpxSdi.Media
