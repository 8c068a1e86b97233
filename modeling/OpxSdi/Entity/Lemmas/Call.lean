import OpxSdi.Entity.Presence

/-!
# One call of `sdi_entity_presence_get`

What the readings of a call say, without the return code that the code threads through them, and what
the call does in terms of that.
-/

namespace OpxSdi.Entity

open Bmc

variable {c : EntityConfig} {r : Readings} {s : EntityState} {entry : Bool}

/-! ## What the readings say -/

/-- The presence the source says: nothing when its reading fails or has no decoding. -/
def sourcePresence (c : EntityConfig) (r : Readings) : Option Bool :=
  match c.accessType with
  | .direct =>
      match r.presPin with
      | .ok level => some (level = .high)
      | .error _ => none
  | .bmc =>
      match dcSensorReadingGetByName r.sensors c.presAttr with
      | .ok reading =>
          match c.type with
          | .fanTray =>
              some (if c.presBit = bmcInvalidBit then reading = bmcEntityPresent
                else stdBitTest reading c.presBit)
          | .psuTray => some (stdBitTest reading bmcPsuStatusPrsnt)
          | .systemBoard => none
      | .error _ => none

def SourceFails (c : EntityConfig) (r : Readings) : Prop :=
  c.hotswappable = true ∧
    match c.accessType with
    | .direct => ∃ e, r.presPin = .error e
    | .bmc => ∃ e, dcSensorReadingGetByName r.sensors c.presAttr = .error e

def PowerFails (c : EntityConfig) (r : Readings) : Prop :=
  if c.hasPowerOutputStatusPin then ∃ e, r.powerOutputStatusPin = .error e
  else c.accessType = .bmc ∧ ∃ e, dcSensorReadingGetByName r.sensors c.powerOutputStatusAttr = .error e

/-- The entity has power: a PSU tray only if its power source says so. -/
def PowerGood (c : EntityConfig) (r : Readings) : Prop :=
  c.type = .psuTray →
    if c.hasPowerOutputStatusPin then r.powerOutputStatusPin = .ok .high
    else c.accessType = .bmc ∧ ∃ reading,
      dcSensorReadingGetByName r.sensors c.powerOutputStatusAttr = .ok reading ∧
        stdBitTest reading bmcPsuStatusFailure = false ∧ stdBitTest reading bmcPsuStatusInputLost = false

/-- The call finds the entity absent. Without a presence from a BMC source it takes the value that the
caller's variable holds. -/
def FindsAbsent (c : EntityConfig) (r : Readings) (entry : Bool) : Prop :=
  c.hotswappable = true ∧
    (sourcePresence c r = some false ∨
      sourcePresence c r = none ∧ c.accessType = .bmc ∧ entry = false)

theorem SourceFails.presence (h : SourceFails c r) : sourcePresence c r = none := by
  obtain ⟨-, h⟩ := h
  unfold sourcePresence
  cases ha : c.accessType with
  | direct =>
      simp only [ha] at h ⊢
      obtain ⟨e, he⟩ := h
      rw [he]
  | bmc =>
      simp only [ha] at h ⊢
      obtain ⟨e, he⟩ := h
      rw [he]

/-! ## The readings of the code -/

theorem readPower_good (rc : TStdError) : (readPower c r rc).2 = true ↔ PowerGood c r := by
  unfold readPower PowerGood
  by_cases ht : c.type = .psuTray
  · simp only [ht, ↓reduceIte, forall_const]
    by_cases hp : c.hasPowerOutputStatusPin
    · simp only [hp, ↓reduceIte]
      cases r.powerOutputStatusPin with
      | error e => simp
      | ok level => simp
    · simp only [hp, Bool.false_eq_true, ↓reduceIte]
      by_cases ha : c.accessType = .bmc
      · simp only [ha, ↓reduceIte, true_and]
        cases dcSensorReadingGetByName r.sensors c.powerOutputStatusAttr with
        | error e => simp
        | ok reading => simp
      · simp [ha]
  · simp [ht]

inductive ReadsPresence (c : EntityConfig) (r : Readings) (entry : Bool) :
    Except Errno (TStdError × Bool) → Prop
  | fixed (h : c.hotswappable = false) : ReadsPresence c r entry (.ok (.ok, true))
  | source (h : c.hotswappable = true) (p : Bool) (hs : sourcePresence c r = some p) :
      ReadsPresence c r entry (.ok (.ok, p))
  | pinFails (h : c.hotswappable = true) (ha : c.accessType = .direct) (e : Errno)
      (hp : r.presPin = .error e) : ReadsPresence c r entry (.error e)
  | bmcFails (h : c.hotswappable = true) (ha : c.accessType = .bmc) (e : Errno)
      (hr : dcSensorReadingGetByName r.sensors c.presAttr = .error e) :
      ReadsPresence c r entry (.ok (.errcode e, entry))
  | undecoded (h : c.hotswappable = true) (ha : c.accessType = .bmc) (ht : c.type = .systemBoard)
      (reading : BitVec 32) (hr : dcSensorReadingGetByName r.sensors c.presAttr = .ok reading) :
      ReadsPresence c r entry (.ok (.ok, entry))

theorem readPresence_cases (c : EntityConfig) (r : Readings) (entry : Bool) :
    ReadsPresence c r entry (readPresence c r entry) := by
  unfold readPresence
  split
  · rename_i h
    split
    · rename_i ha
      split
      · rename_i reading hr
        unfold bmcPresence
        split
        · rename_i ht
          exact .source h _ (by simp only [sourcePresence, ha, hr, ht])
        · rename_i ht
          exact .source h _ (by simp only [sourcePresence, ha, hr, ht])
        · rename_i ht
          exact .undecoded h ha ht reading hr
      · rename_i e hr
        exact .bmcFails h ha e hr
    · rename_i ha
      cases hp : r.presPin with
      | error e => exact .pinFails h ha e hp
      | ok level => exact .source h _ (by simp only [sourcePresence, ha, hp])
  · rename_i h
    exact .fixed (Bool.eq_false_iff.mpr h)

theorem findsAbsent_iff {rc : TStdError} {presence : Bool}
    (h : readPresence c r entry = .ok (rc, presence)) :
    FindsAbsent c r entry ↔ presence = false := by
  have hcases := readPresence_cases c r entry
  rw [h] at hcases
  unfold FindsAbsent
  cases hcases with
  | fixed hh => simp [hh]
  | source hh p hs => simp [hh, hs]
  | bmcFails hh ha e hr => simp [hh, ha, sourcePresence, hr]
  | undecoded hh ha ht reading hr => simp [hh, ha, sourcePresence, hr, ht]

/-! ## The return code and the action -/

theorem readPower_rc_of_ne (rc : TStdError) (ht : c.type ≠ .psuTray) : (readPower c r rc).1 = rc := by
  simp only [readPower, ht, ↓reduceIte]

theorem readPower_rc_bmc (rc : TStdError) (ht : c.type = .psuTray) (ha : c.accessType = .bmc) :
    (readPower c r rc).1 ≠ .ok ↔ PowerFails c r := by
  simp only [readPower, PowerFails, ht, ha, ↓reduceIte, true_and]
  split
  · cases r.powerOutputStatusPin with
    | error e => simp
    | ok level => simp
  · cases dcSensorReadingGetByName r.sensors c.powerOutputStatusAttr with
    | error e => simp
    | ok reading => simp

theorem PowerGood.not_fails (h : PowerGood c r) (ht : c.type = .psuTray) : ¬ PowerFails c r := by
  have hg := h ht
  unfold PowerFails
  split
  · rename_i hp
    rw [if_pos hp] at hg
    simp [hg]
  · rename_i hp
    rw [if_neg hp] at hg
    obtain ⟨-, reading, hr, -⟩ := hg
    simp [hr]

/-- What the action can do: run `sdi_entity_inserted`, run `sdi_entity_removed`, or neither. -/
theorem presenceAction_cases (r : Readings) (powerGood : Bool) (s : EntityState) (presence : Bool) :
    ((presence = true ∧ s.present = false ∨ s.entityInfoValid = false ∧ powerGood = true) ∧
        presenceAction r powerGood s presence = (entityInserted r { s with present := presence }, true)) ∨
      (presence = false ∧ s.present = true ∧ (s.entityInfoValid = true ∨ powerGood = false) ∧
        presenceAction r powerGood s presence = (entityRemoved { s with present := presence }, false)) ∨
      (presence = s.present ∧ (s.entityInfoValid = true ∨ powerGood = false) ∧
        presenceAction r powerGood s presence = (s, false)) := by
  obtain ⟨present, valid, info⟩ := s
  cases presence <;> cases present <;> cases valid <;> cases powerGood <;> simp [presenceAction]

theorem entityInserted_ok (h : r.eeprom.1 = .ok) :
    entityInserted r s = { s with entityInfo := r.eeprom.2, entityInfoValid := true } := by
  simp only [entityInserted, h, ↓reduceIte]

theorem entityInserted_failed (h : r.eeprom.1 ≠ .ok) :
    entityInserted r s = { s with entityInfo := r.eeprom.2 } := by
  simp only [entityInserted, h, ↓reduceIte]

@[simp] theorem entityInserted_present (r : Readings) (s : EntityState) :
    (entityInserted r s).present = s.present := by
  simp only [entityInserted]
  split <;> rfl

/-- The action changes nothing iff the presence is what it was and no EEPROM read has an effect. -/
theorem presenceAction_unchanged_iff (r : Readings) (powerGood : Bool) (s : EntityState) (presence : Bool) :
    (presenceAction r powerGood s presence).1 = s ↔ presence = s.present ∧
      (s.entityInfoValid = true ∨ powerGood = false ∨ r.eeprom.1 ≠ .ok ∧ r.eeprom.2 = s.entityInfo) := by
  obtain ⟨hins, hact⟩ | ⟨hpres, hold, -, hact⟩ | ⟨hpres, hkeep, hact⟩ :=
    presenceAction_cases r powerGood s presence
  · rw [hact]
    constructor
    · intro h
      have hpres := congrArg EntityState.present h
      rw [entityInserted_present] at hpres
      refine ⟨hpres, ?_⟩
      by_cases hrc : r.eeprom.1 = .ok
      · rw [entityInserted_ok hrc] at h
        exact .inl (congrArg EntityState.entityInfoValid h).symm
      · rw [entityInserted_failed hrc] at h
        exact .inr (.inr ⟨hrc, congrArg EntityState.entityInfo h⟩)
    · rintro ⟨rfl, hkeep⟩
      obtain ⟨hvalid, hgood⟩ : s.entityInfoValid = false ∧ powerGood = true := by
        rcases hins with ⟨h, h'⟩ | h
        · rw [h] at h'; cases h'
        · exact h
      rcases hkeep with h | h | ⟨hrc, hinfo⟩
      · rw [h] at hvalid; cases hvalid
      · rw [h] at hgood; cases hgood
      · rw [entityInserted_failed hrc, hinfo]
  · rw [hact]
    constructor
    · intro h
      have := congrArg EntityState.present h
      simp only [entityRemoved, hpres, hold, Bool.false_eq_true] at this
    · rintro ⟨h, -⟩
      rw [hpres, hold] at h
      cases h
  · rw [hact]
    exact ⟨fun _ => ⟨hpres, hkeep.imp_right .inl⟩, fun _ => rfl⟩

/-! ## The whole call -/

theorem entityPresenceGet_error {e : Errno} (h : readPresence c r entry = .error e) :
    entityPresenceGet c r s entry = ⟨.errcode e, entry, s, false⟩ := by
  simp only [entityPresenceGet, h]

theorem entityPresenceGet_ok {rc : TStdError} {presence : Bool}
    (h : readPresence c r entry = .ok (rc, presence)) :
    entityPresenceGet c r s entry = ⟨(readPower c r rc).1, presence,
      (presenceAction r (readPower c r rc).2 s presence).1,
      (presenceAction r (readPower c r rc).2 s presence).2⟩ := by
  simp only [entityPresenceGet, h]

end OpxSdi.Entity
