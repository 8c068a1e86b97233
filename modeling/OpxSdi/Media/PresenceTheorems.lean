import OpxSdi.Media.Lemmas.TxControl
import OpxSdi.Media.Presence

/-!
# The presence of a sub-port is told

Over every run of initialisations and of calls for the presence: a call tells the presence of the sub-port,
and leaves a module that is not there alone, iff the sub-port has rank 0 or the pin says that there is a
module.
-/

namespace OpxSdi.Media

open Lib Device

namespace Qsfp28Dd

variable (p : Qsfp28Dd)

/-! ## The presence -/

/-- The bit of the presence pins -/
def presenceBit (c : Cage) : Bool := (c.pins .modPres).getLsbD p.modPresBitmask

/-- The byte with the identifier, as the cached adapter and EEPROM version have it -/
def identifierByte (c : Cage) : Byte :=
  (c.slaves p.i2cAddr).read (if c.priv.modType = .qsaAdapter ∨ 0x30 ≤ c.priv.eepromVersion then 0 else 128)

/-- The pins are read, and the bit of the presence is not set. -/
structure ReadsAbsent (d : State) : Prop where
  acquires : d.AcquiresAt .modPres
  reads : d.fault (d.time + 1) = none
  bit_eq : p.presenceBit d.hw = false

/-- What a call for the presence has to do -/
structure TellsPresence (d : State) : Prop where
  exact : ∀ pres, Answers p.presenceGet d (.ok (), pres) → (pres = true ↔
    p.presenceBit d.hw = true ∧ (p.subPortRank = 0 ∨ p.identifierByte d.hw = 0x18))
  absent : p.ReadsAbsent d → ∃ d' es, Ok p.presenceGet d (.ok (), false) d' ∧
    d'.hw.log = d.hw.log ++ es ∧ Event.transaction ∉ es
  error : ∀ e pres, Answers p.presenceGet d (.error e, pres) → pres = false

/-- The module of a sub-port of another rank is asked for its identifier, and there is none. -/
structure ReadsInVain (d : State) : Prop where
  rank_ne : p.subPortRank ≠ 0
  absent : p.ReadsAbsent d

/-! ## Runs -/

inductive PortCall
  | moduleInit (pres : Bool)
  | presenceGet
  deriving DecidableEq, Repr

/-- A call, and the memory of the module and the presence pins that it finds -/
structure Visit where
  slaves : BitVec 16 → Eeprom
  presPins : BitVec 32
  call : PortCall

def Visit.found (v : Visit) (d : State) : State :=
  { d with hw := { d.hw with slaves := v.slaves, pins := Function.update d.hw.pins .modPres v.presPins } }

def step (d : State) (v : Visit) : State :=
  match v.call with
  | .moduleInit pres => ((p.moduleInit pres).out (v.found d)).2
  | .presenceGet => (p.presenceGet.out (v.found d)).2

/-! ## The identifier -/

variable {p} {d d' : State} {q : Qsfp} {id : BitVec 32}

def readIdentifier (q : Qsfp) (offset : BitVec 32) : M (BitVec 32) := q.sel.withModule do
  let byteBuf ← smbusReadByte q.i2cAddr offset
  pure (byteBuf.setWidth 32)

/-- The identifier is read at the offset of its table. -/
theorem parameterGet_identifier (q : Qsfp) : q.parameterGet .identifier = (do
    let priv ← getPriv
    if priv.modType = .qsaAdapter then do
      Device.assert (priv.sfpDevice ≠ none)
      readIdentifier q 0
    else readIdentifier q (if Qsfp.qsfp28DdEepromVersion3 ≤ priv.eepromVersion then 0 else 128)) := by
  refine congrArg (getPriv >>= ·) (funext fun priv => ?_)
  refine if_congr Iff.rfl rfl ?_
  by_cases h : Qsfp.qsfp28DdEepromVersion3 ≤ priv.eepromVersion
  · rw [decide_eq_true h, if_pos h]
    rfl
  · rw [decide_eq_false h, if_neg h]
    rfl

theorem ok_readIdentifier {offset : BitVec 32} (h : Ok (readIdentifier q offset) d id d') :
    id = ((d.hw.slaves q.i2cAddr).read (offset.setWidth 8)).setWidth 32 ∧
      d' = q.sel.closed ((q.sel.opened d).passed 1 d.hw.slaves) := by
  have hread : Fetches (smbusReadByte q.i2cAddr offset >>= fun b => pure (b.setWidth 32)) (1 + 0) _ :=
    (Fetches.smbusReadByte q.i2cAddr offset).bind fun b => Fetches.pure (b.setWidth 32 : BitVec 32)
  obtain ⟨-, d1, hok, rfl⟩ := q.sel.ok_withModule.mp h
  obtain ⟨-, rfl, rfl⟩ := hread.ok_iff.mp hok
  exact ⟨rfl, rfl⟩

theorem ok_parameterGet (h : Ok (p.parameterGet .identifier) d id d') :
    id = (p.identifierByte d.hw).setWidth 32 ∧
      d' = p.sel.closed ((p.sel.opened d).passed 1 d.hw.slaves) := by
  rw [parameterGet_identifier, ok_bind] at h
  obtain ⟨priv, d0, hpriv, h⟩ := h
  obtain ⟨rfl, rfl⟩ := ok_getPriv.mp hpriv
  rw [identifierByte]
  split at h
  · rename_i hmod
    obtain ⟨u, d1, hassert, hread⟩ := ok_bind.mp h
    obtain ⟨-, rfl⟩ := ok_assert_iff.mp hassert
    obtain ⟨rfl, rfl⟩ := ok_readIdentifier hread
    rw [if_pos (.inl hmod)]
    exact ⟨rfl, rfl⟩
  · rename_i hmod
    obtain ⟨rfl, rfl⟩ := ok_readIdentifier h
    by_cases hrev : Qsfp.qsfp28DdEepromVersion3 ≤ d0.hw.priv.eepromVersion
    · rw [if_pos hrev, if_pos (.inr hrev)]
      exact ⟨rfl, rfl⟩
    · rw [if_neg hrev, if_neg fun h => h.elim hmod hrev]
      exact ⟨rfl, rfl⟩

/-! ## Calls -/

variable {r : Except Errno Unit × Bool} {pres : Bool} {e : Errno}

/-- The pin is read, or there is an error and no presence. -/
theorem ok_qsfpPresenceGet (h : Ok p.qsfpPresenceGet d r d') :
    (r = (.ok (), p.presenceBit d.hw) ∧ d' = d.pinRead .modPres) ∨ ∃ e, r = (.error e, false) := by
  rw [qsfpPresenceGet] at h
  rcases ok_attempt_bind.mp h with ⟨value, d1, hread, hpure⟩ | ⟨e, d1, -, hpure⟩
  · obtain ⟨-, -, rfl, rfl⟩ := ok_readPinGroup.mp hread
    obtain ⟨rfl, rfl⟩ := ok_pure.mp hpure
    exact .inl ⟨rfl, rfl⟩
  · obtain ⟨rfl, -⟩ := ok_pure.mp hpure
    exact .inr ⟨e, rfl⟩

theorem ok_doubleDensityPresence (h : Ok (p.doubleDensityPresence pres) d r d') :
    (r = (.ok (), pres && decide (p.identifierByte d.hw = 0x18)) ∧
      d' = p.sel.closed ((p.sel.opened d).passed 1 d.hw.slaves)) ∨ ∃ e, r = (.error e, false) := by
  rw [doubleDensityPresence] at h
  rcases ok_attempt_bind.mp h with ⟨id, d1, hread, hpure⟩ | ⟨e, d1, -, hpure⟩
  · obtain ⟨rfl, rfl⟩ := ok_parameterGet hread
    obtain ⟨rfl, rfl⟩ := ok_pure.mp hpure
    have hid : (p.identifierByte d.hw).setWidth 32 = mediaDoubleDensityModuleId ↔
        p.identifierByte d.hw = 0x18 := by
      rw [← BitVec.toNat_inj, ← BitVec.toNat_inj, BitVec.toNat_setWidth,
        Nat.mod_eq_of_lt (Nat.lt_trans (p.identifierByte d.hw).isLt (by decide))]
      rfl
    refine .inl ⟨?_, rfl⟩
    simp only [hid]
    rfl
  · obtain ⟨rfl, -⟩ := ok_pure.mp hpure
    exact .inr ⟨e, rfl⟩

theorem rank_pos_iff {rank : BitVec 32} : 0 < rank ↔ rank ≠ 0 := by
  bv_omega

/-- What a call returns: the bit of a sub-port of rank 0, the bit and the identifier of another one, or an
error without a presence -/
theorem ok_presenceGet (h : Ok p.presenceGet d r d') :
    (p.subPortRank = 0 ∧ r = (.ok (), p.presenceBit d.hw) ∧ d' = d.pinRead .modPres) ∨
    (p.subPortRank ≠ 0 ∧ r = (.ok (), p.presenceBit d.hw && decide (p.identifierByte d.hw = 0x18)) ∧
      d' = p.sel.closed ((p.sel.opened (d.pinRead .modPres)).passed 1 d.hw.slaves)) ∨
    ∃ e, r = (.error e, false) := by
  rw [presenceGet] at h
  obtain ⟨r1, d1, hpin, h⟩ := ok_bind.mp h
  rcases ok_qsfpPresenceGet hpin with ⟨rfl, rfl⟩ | ⟨e, rfl⟩
  · simp only [rank_pos_iff] at h
    split at h
    · rename_i hrank
      rcases ok_doubleDensityPresence h with ⟨rfl, rfl⟩ | herror
      · exact .inr (.inl ⟨hrank, rfl, rfl⟩)
      · exact .inr (.inr herror)
    · rename_i hrank
      obtain ⟨rfl, rfl⟩ := ok_pure.mp h
      exact .inl ⟨Decidable.not_not.mp hrank, rfl, rfl⟩
  · obtain ⟨rfl, -⟩ := ok_pure.mp h
    exact .inr (.inr ⟨e, rfl⟩)

theorem tellsPresence_exact (h : Answers p.presenceGet d (.ok (), pres)) : pres = true ↔
    p.presenceBit d.hw = true ∧ (p.subPortRank = 0 ∨ p.identifierByte d.hw = 0x18) := by
  obtain ⟨d', hok⟩ := h
  rcases ok_presenceGet hok with ⟨hrank, hr, -⟩ | ⟨hrank, hr, -⟩ | ⟨e, hr⟩
  · rw [(Prod.mk.inj hr).2, and_iff_left (.inl hrank)]
  · rw [(Prod.mk.inj hr).2, Bool.and_eq_true, decide_eq_true_eq, or_iff_right hrank]
  · cases (Prod.mk.inj hr).1

theorem tellsPresence_error (h : Answers p.presenceGet d (.error e, pres)) : pres = false := by
  obtain ⟨d', hok⟩ := h
  rcases ok_presenceGet hok with ⟨-, hr, -⟩ | ⟨-, hr, -⟩ | ⟨e', hr⟩
  · cases (Prod.mk.inj hr).1
  · cases (Prod.mk.inj hr).1
  · exact (Prod.mk.inj hr).2

theorem ReadsAbsent.ok_presenceGet (h : p.ReadsAbsent d) (hrank : p.subPortRank = 0) :
    Ok p.presenceGet d (.ok (), false) (d.pinRead .modPres) := by
  have hpin : Ok p.qsfpPresenceGet d (.ok (), false) (d.pinRead .modPres) := by
    refine ok_attempt_bind.mpr (.inl ⟨_, _, ok_readPinGroup.mpr ⟨h.acquires, h.reads, rfl, rfl⟩, ?_⟩)
    exact ok_pure.mpr ⟨congrArg (Prod.mk _) h.bit_eq.symm, rfl⟩
  refine ok_bind.mpr ⟨_, _, hpin, ?_⟩
  simp only [rank_pos_iff, if_neg (not_not.mpr hrank)]
  rfl

/-- The log of a call that reads the identifier has a transaction. -/
theorem ReadsInVain.not_tellsPresence (h : p.ReadsInVain d) : ¬p.TellsPresence d := by
  intro htells
  obtain ⟨d', es, hok, hlog, hnone⟩ := htells.absent h.absent
  rcases Qsfp28Dd.ok_presenceGet hok with ⟨hrank, -⟩ | ⟨-, -, rfl⟩ | ⟨e, hr⟩
  · exact h.rank_ne hrank
  · have hlog' : d.hw.log ++ es = ((((d.hw.log ++ [.acquire .modPres]) ++ [.release .modPres]) ++
        p.sel.opening) ++ [.transaction]) ++ p.sel.closing := hlog.symm
    simp only [List.append_assoc, List.append_cancel_left_eq] at hlog'
    rw [hlog'] at hnone
    simp at hnone
  · cases (Prod.mk.inj hr).1

theorem tellsPresence_iff : p.TellsPresence d ↔ ¬p.ReadsInVain d := by
  constructor
  · intro h hvain
    exact hvain.not_tellsPresence h
  · intro h
    refine ⟨fun _ => tellsPresence_exact, fun habsent => ?_, fun _ _ => tellsPresence_error⟩
    have hrank : p.subPortRank = 0 := Decidable.not_not.mp fun hrank => h ⟨hrank, habsent⟩
    refine ⟨_, [.acquire .modPres, .release .modPres], habsent.ok_presenceGet hrank, ?_, by decide⟩
    exact List.append_assoc ..

/-- Over every run of a port, each call for the presence tells it iff none of them asks for an identifier
where there is no module. -/
theorem run_tellsPresence_iff (p : Qsfp28Dd) (d : State) (vs : List Visit) :
    Along p.step (fun d v => v.call = .presenceGet → p.TellsPresence (v.found d)) d vs ↔
      Along p.step (fun d v => v.call = .presenceGet → ¬p.ReadsInVain (v.found d)) d vs :=
  along_congr (I := fun _ => True) (fun _ _ _ => imp_congr_right fun _ => tellsPresence_iff)
    (fun _ _ _ _ => trivial) trivial

/-- The second sub-port of a cage from which the module has been removed -/
theorem not_run_tellsPresence_removed : ¬Along (step ⟨muxedCage, 0, 1, 4⟩)
    (fun d v => v.call = .presenceGet → TellsPresence ⟨muxedCage, 0, 1, 4⟩ (v.found d))
    (registered fun _ => none)
    [⟨moduleWith 0x18, 1, .moduleInit true⟩, ⟨moduleWith 0, 0, .moduleInit false⟩,
      ⟨moduleWith 0, 0, .presenceGet⟩] := by
  rintro ⟨-, -, h, -⟩
  refine ReadsInVain.not_tellsPresence ⟨by decide, ⟨?_, ?_, ?_⟩⟩ (h rfl)
  · exact ⟨rfl, by decide⟩
  · rfl
  · rfl

end Qsfp28Dd

end OpxSdi.Media
