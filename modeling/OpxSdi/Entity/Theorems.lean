import OpxSdi.Entity.Lemmas.Call
import OpxSdi.Lib.Run

/-!
# The cached entity info

A call refreshes the cache whenever it is invalid and power is good, whether or not the entity is there.
These are the calls that do not go wrong by that, and the calls that report an undetermined presence.
-/

namespace OpxSdi.Entity

open Bmc Lib

/-! ## Runs of calls -/

structure PresenceCall where
  readings : Readings
  /-- What the caller's variable holds on entry. -/
  presence : Bool

inductive Event
  | insertion
  | removal
  | eepromRead (rc : TStdError) (info : EntityInfo)

/-- An entity and what has happened to it, the latest first. -/
structure Polled where
  entity : EntityState
  log : List Event

def Polled.create : Polled := ⟨EntityState.create, []⟩

/-- The info of the latest successful EEPROM read, if no insertion or removal came after it. -/
def freshInfo : List Event → Option EntityInfo
  | [] => none
  | .insertion :: _ | .removal :: _ => none
  | .eepromRead .ok info :: _ => some info
  | .eepromRead (.errcode _) _ :: log => freshInfo log

/-- What a call does to an entity with `present` set to `old`. -/
def callEvents (r : Readings) (old : Bool) (res : PresenceResult) : List Event :=
  (if res.inserted then [.eepromRead r.eeprom.1 r.eeprom.2] else []) ++
    if res.state.present && !old then [.insertion]
    else if !res.state.present && old then [.removal]
    else []

variable (c : EntityConfig)

def Polled.get (p : Polled) (call : PresenceCall) : PresenceResult :=
  entityPresenceGet c call.readings p.entity call.presence

def poll (p : Polled) (call : PresenceCall) : Polled :=
  ⟨(p.get c call).state, callEvents call.readings p.entity.present (p.get c call) ++ p.log⟩

/-- A valid cache is that of an entity that is there, and is what was read from it. -/
def Polled.Exact (p : Polled) : Prop :=
  p.entity.entityInfoValid = true → p.entity.present = true ∧ freshInfo p.log = some p.entity.entityInfo

structure CacheKept (p : Polled) (call : PresenceCall) : Prop where
  exact : (poll c p call).Exact
  inserted_present : (p.get c call).inserted = true → (poll c p call).entity.present = true
  failed_read : (p.get c call).inserted = true → call.readings.eeprom.1 ≠ .ok →
    (poll c p call).entity.entityInfoValid = false

/-- The call finds an entity without valid info absent, and its power good. -/
def InsertsAbsent (p : Polled) (call : PresenceCall) : Prop :=
  FindsAbsent c call.readings call.presence ∧ PowerGood c call.readings ∧
    p.entity.entityInfoValid = false

/-! ## The cache over runs -/

variable {c} {p : Polled} {call : PresenceCall}

theorem poll_unchanged (h : (p.get c call).state = p.entity) (hi : (p.get c call).inserted = false) :
    poll c p call = p := by
  simp only [poll, callEvents, h, hi]
  simp

theorem exact_inserted (log : List Event) (s : EntityState) (hp : s.present = true)
    (hv : s.entityInfoValid = false) (r : Readings) (old : Bool) (rc : TStdError) (presence : Bool) :
    let res : PresenceResult := ⟨rc, presence, entityInserted r s, true⟩
    Polled.Exact ⟨res.state, callEvents r old res ++ log⟩ ∧
      (r.eeprom.1 ≠ .ok → res.state.entityInfoValid = false) := by
  intro res
  by_cases hrc : r.eeprom.1 = .ok
  · have hres : res.state = { s with entityInfo := r.eeprom.2, entityInfoValid := true } :=
      entityInserted_ok hrc
    refine ⟨fun _ => ⟨by rw [hres]; exact hp, ?_⟩, fun h => absurd hrc h⟩
    simp only [callEvents, res, ↓reduceIte, List.cons_append, hrc, freshInfo]
    rw [entityInserted_ok hrc]
  · have hres : res.state.entityInfoValid = false := by
      simp only [res, entityInserted_failed hrc, hv]
    exact ⟨fun hvalid => absurd hvalid (by simp [hres]), fun _ => hres⟩

theorem cacheKept_of_not_inserted (hi : (p.get c call).inserted = false) (hexact : (poll c p call).Exact) :
    CacheKept c p call where
  exact := hexact
  inserted_present h := by rw [hi] at h; cases h
  failed_read h := by rw [hi] at h; cases h

theorem cacheKept_of_unchanged (hexact : p.Exact) (h : (p.get c call).state = p.entity)
    (hi : (p.get c call).inserted = false) : CacheKept c p call :=
  cacheKept_of_not_inserted hi (by rw [poll_unchanged h hi]; exact hexact)

theorem cacheKept_of_removed (h : (p.get c call).state.entityInfoValid = false)
    (hi : (p.get c call).inserted = false) : CacheKept c p call :=
  cacheKept_of_not_inserted hi fun hv => (by simp [poll, h] at hv)

section Inserted

variable {rc rc' : TStdError} {presence : Bool}

/-- A valid cache is of an entity that is there, so no insertion finds one. -/
theorem Polled.Exact.invalid (hexact : p.Exact) {powerGood : Bool}
    (hins : presence = true ∧ p.entity.present = false ∨
      p.entity.entityInfoValid = false ∧ powerGood = true) :
    p.entity.entityInfoValid = false := by
  rcases hins with ⟨-, hold⟩ | ⟨hv, -⟩
  · exact Bool.eq_false_iff.mpr fun hv => absurd (hexact hv).1 (by simp [hold])
  · exact hv

/-- `sdi_entity_inserted` keeps the cache iff the entity has been found present. -/
theorem cacheKept_inserted_iff (hvalid : p.entity.entityInfoValid = false)
    (hget : p.get c call =
      ⟨rc', presence, entityInserted call.readings { p.entity with present := presence }, true⟩) :
    CacheKept c p call ↔ presence = true := by
  have hpresent : (poll c p call).entity.present = presence := by
    simp only [poll, hget, entityInserted_present]
  constructor
  · intro hkept
    exact hpresent.symm.trans (hkept.inserted_present (by rw [hget]))
  · rintro rfl
    have hkept := exact_inserted p.log { p.entity with present := true } rfl hvalid call.readings
      p.entity.present rc' true
    refine ⟨?_, fun _ => hpresent, ?_⟩
    · simp only [poll, hget]
      exact hkept.1
    · simp only [poll, hget]
      exact fun _ => hkept.2

end Inserted

theorem cacheKept_iff (hexact : p.Exact) : CacheKept c p call ↔ ¬ InsertsAbsent c p call := by
  cases hread : readPresence c call.readings call.presence with
  | error e =>
      have hget : p.get c call = ⟨.errcode e, call.presence, p.entity, false⟩ :=
        entityPresenceGet_error hread
      have hcases := readPresence_cases c call.readings call.presence
      rw [hread] at hcases
      have habsent : ¬ FindsAbsent c call.readings call.presence := by
        cases hcases with
        | pinFails h ha e hp => simp [FindsAbsent, sourcePresence, ha, hp]
      exact ⟨fun _ hi => habsent hi.1, fun _ => cacheKept_of_unchanged hexact (by rw [hget]) (by rw [hget])⟩
  | ok out =>
      obtain ⟨rc, presence⟩ := out
      have hget : p.get c call = _ := entityPresenceGet_ok (s := p.entity) hread
      have habsent := findsAbsent_iff hread
      have hgood := readPower_good (c := c) (r := call.readings) rc
      have hnot (hkeep : p.entity.entityInfoValid = true ∨ (readPower c call.readings rc).2 = false) :
          ¬ InsertsAbsent c p call := by
        rintro ⟨-, hpower, hv⟩
        rcases hkeep with h | h
        · rw [h] at hv
          cases hv
        · rw [hgood.mpr hpower] at h
          cases h
      obtain ⟨hins, hact⟩ | ⟨-, -, hkeep, hact⟩ | ⟨-, hkeep, hact⟩ :=
        presenceAction_cases call.readings (readPower c call.readings rc).2 p.entity presence
      · -- `sdi_entity_inserted` has run, on an entity whose cache was not valid
        have hvalid := hexact.invalid hins
        rw [hact] at hget
        rw [cacheKept_inserted_iff hvalid hget]
        cases presence with
        | true => exact iff_of_true rfl fun hi => absurd (habsent.mp hi.1) (by decide)
        | false =>
            have hpower : (readPower c call.readings rc).2 = true := by
              rcases hins with ⟨h, -⟩ | ⟨-, h⟩
              · cases h
              · exact h
            exact iff_of_false (by decide) fun h => h ⟨habsent.mpr rfl, hgood.mp hpower, hvalid⟩
      · -- the cache has been made invalid
        rw [hact] at hget
        exact iff_of_true (cacheKept_of_removed (by rw [hget]; rfl) (by rw [hget])) (hnot hkeep)
      · -- nothing has changed
        rw [hact] at hget
        exact iff_of_true (cacheKept_of_unchanged hexact (by rw [hget]) (by rw [hget])) (hnot hkeep)

/-- Over every run of calls the cache is kept iff no call finds the entity absent, without valid info
and with its power good. -/
theorem cache_kept_iff (c : EntityConfig) (calls : List PresenceCall) :
    Along (poll c) (CacheKept c) Polled.create calls ↔
      Along (poll c) (fun p call => ¬ InsertsAbsent c p call) Polled.create calls := by
  refine along_congr (I := Polled.Exact) (fun p call => cacheKept_iff) (fun p call hexact hC => ?_) ?_
  · exact ((cacheKept_iff hexact).mpr hC).exact
  · intro h; cases h

def pinFanTray : EntityConfig where
  operSupportFlag := 4
  type := .fanTray
  accessType := .direct
  presAttr := []
  presBit := bmcInvalidBit
  powerOutputStatusAttr := []
  hasPowerOutputStatusPin := false

/-- The pin says that the tray is not there; an EEPROM answers nevertheless. -/
def absentCall : PresenceCall where
  readings :=
    { presPin := .ok .low
      powerOutputStatusPin := .error .einval
      sensors := []
      entityInfoDataGet := fun info => (.ok, { info with numFans := 2 }) }
  presence := false

/-- On the first call for an empty slot the info is read and marked valid. -/
theorem absent_inserted :
    (Polled.create.get pinFanTray absentCall).inserted = true ∧
      (poll pinFanTray Polled.create absentCall).entity.present = false ∧
      (poll pinFanTray Polled.create absentCall).entity.entityInfoValid = true ∧
      ¬ Along (poll pinFanTray) (CacheKept pinFanTray) Polled.create [absentCall] := by
  refine ⟨rfl, rfl, rfl, fun h => ?_⟩
  have hpresent : false = true := h.1.inserted_present rfl
  cases hpresent

/-! ## Undetermined presence -/

/-- A failed presence reading is reported and changes nothing, and `STD_ERR_OK` comes with the presence
of a slot that is fixed or has been read. -/
structure PresenceDetermined (c : EntityConfig) (r : Readings) (s : EntityState) (entry : Bool) :
    Prop where
  failed : SourceFails c r → (entityPresenceGet c r s entry).rc ≠ .ok ∧
    (entityPresenceGet c r s entry).state = s
  determined : (entityPresenceGet c r s entry).rc = .ok → c.hotswappable = false ∨
    sourcePresence c r = some (entityPresenceGet c r s entry).presence

/-- A failed BMC reading does no harm: the caller's variable holds what the entity has, and the failure
is not overwritten and nothing is read into the cache. -/
def HarmlessBmcFailure (c : EntityConfig) (r : Readings) (s : EntityState) (entry : Bool) : Prop :=
  SourceFails c r ∧ entry = s.present ∧
    if c.type = .psuTray then PowerFails c r
    else s.entityInfoValid = true ∨ r.eeprom.1 ≠ .ok ∧ r.eeprom.2 = s.entityInfo

section Determined

variable {r : Readings} {s : EntityState} {entry : Bool}

/-- After a failed BMC reading the call must report it and leave the entity alone. -/
theorem bmc_failure_iff (ha : c.accessType = .bmc) {e : Errno}
    (hread : readPresence c r entry = .ok (.errcode e, entry)) :
    ((entityPresenceGet c r s entry).rc ≠ .ok ∧ (entityPresenceGet c r s entry).state = s) ↔
      entry = s.present ∧ if c.type = .psuTray then PowerFails c r
        else s.entityInfoValid = true ∨ r.eeprom.1 ≠ .ok ∧ r.eeprom.2 = s.entityInfo := by
  rw [entityPresenceGet_ok hread, presenceAction_unchanged_iff]
  have hgood := readPower_good (c := c) (r := r) (.errcode e)
  by_cases ht : c.type = .psuTray
  · rw [if_pos ht, readPower_rc_bmc _ ht ha]
    constructor
    · rintro ⟨hfails, hentry, -⟩
      exact ⟨hentry, hfails⟩
    · rintro ⟨hentry, hfails⟩
      refine ⟨hfails, hentry, .inr (.inl (Bool.eq_false_iff.mpr fun hg => ?_))⟩
      exact (hgood.mp hg).not_fails ht hfails
  · have hpower : (readPower c r (.errcode e)).2 = true := hgood.mpr fun h => absurd h ht
    rw [if_neg ht, readPower_rc_of_ne _ ht, hpower]
    simp only [ne_eq, reduceCtorEq, not_false_eq_true, true_and, Bool.true_eq_false, false_or]

theorem presence_determined_iff (c : EntityConfig) (r : Readings) (s : EntityState) (entry : Bool) :
    PresenceDetermined c r s entry ↔ c.hotswappable = false ∨ c.accessType = .direct ∨
      (∃ p, sourcePresence c r = some p) ∨ HarmlessBmcFailure c r s entry := by
  have hcases := readPresence_cases c r entry
  generalize hread : readPresence c r entry = out at hcases
  cases hcases with
  | fixed h =>
      refine ⟨fun _ => .inl h, fun _ => ⟨fun hf => ?_, fun _ => .inl h⟩⟩
      exact absurd hf.1 (by simp [h])
  | source h p hs =>
      refine ⟨fun _ => .inr (.inr (.inl ⟨p, hs⟩)), fun _ => ⟨fun hf => ?_, fun _ => .inr ?_⟩⟩
      · rw [hf.presence] at hs
        cases hs
      · rw [entityPresenceGet_ok hread]
        exact hs
  | pinFails h ha e hp =>
      have hget := entityPresenceGet_error (s := s) hread
      refine ⟨fun _ => .inr (.inl ha), fun _ => ⟨fun _ => ?_, fun hrc => ?_⟩⟩
      · rw [hget]
        exact ⟨fun hrc => (by cases hrc), rfl⟩
      · rw [hget] at hrc
        cases hrc
  | bmcFails h ha e hr =>
      have hf : SourceFails c r := ⟨h, by simp only [ha, hr]; exact ⟨e, rfl⟩⟩
      have hiff := bmc_failure_iff (s := s) ha hread
      constructor
      · intro hd
        exact .inr (.inr (.inr ⟨hf, hiff.mp (hd.failed hf)⟩))
      · rintro (hfix | hdir | ⟨p, hp⟩ | ⟨-, hkept⟩)
        · simp [h] at hfix
        · simp [ha] at hdir
        · rw [hf.presence] at hp
          cases hp
        · have hdone := hiff.mpr hkept
          exact ⟨fun _ => hdone, fun hrc => absurd hrc hdone.1⟩
  | undecoded h ha ht reading hr =>
      have hnone : sourcePresence c r = none := by simp only [sourcePresence, ha, hr, ht]
      constructor
      · intro hd
        have hrc : (entityPresenceGet c r s entry).rc = .ok := by
          rw [entityPresenceGet_ok hread]
          exact readPower_rc_of_ne _ (by simp [ht])
        rcases hd.determined hrc with hfix | hp
        · exact .inl hfix
        · rw [hnone] at hp
          cases hp
      · rintro (hfix | hdir | ⟨p, hp⟩ | ⟨⟨-, hf⟩, -⟩)
        · simp [h] at hfix
        · simp [ha] at hdir
        · rw [hnone] at hp
          cases hp
        · simp [ha, hr] at hf

end Determined

/-- A PSU tray behind the BMC, without the sensor that tells its presence. -/
def bmcPsuTray : EntityConfig where
  operSupportFlag := 4
  type := .psuTray
  accessType := .bmc
  presAttr := "PSU1 Status".toList
  presBit := bmcInvalidBit
  powerOutputStatusAttr := "PSU1 Output".toList
  hasPowerOutputStatusPin := false

def outputGood : Readings where
  presPin := .error .einval
  powerOutputStatusPin := .error .einval
  sensors := [⟨0, 10, 1, "PSU1 Output".toList, .discrete, 1⟩]
  entityInfoDataGet info := (.errcode .eio, info)

/-- The presence reading fails, the power reading does not: the call returns `STD_ERR_OK` and marks the
tray present, as the caller's variable had it. -/
theorem presence_failure_overwritten :
    dcSensorReadingGetByName outputGood.sensors bmcPsuTray.presAttr = .error .einval ∧
      (entityPresenceGet bmcPsuTray outputGood EntityState.create true).rc = .ok ∧
      (entityPresenceGet bmcPsuTray outputGood EntityState.create true).state.present = true ∧
      ¬ PresenceDetermined bmcPsuTray outputGood EntityState.create true := by
  have hfails : dcSensorReadingGetByName outputGood.sensors bmcPsuTray.presAttr = .error .einval :=
    rfl
  have hrc : (entityPresenceGet bmcPsuTray outputGood EntityState.create true).rc = .ok := by decide
  refine ⟨hfails, hrc, by decide, fun h => ?_⟩
  exact (h.failed ⟨rfl, _, hfails⟩).1 hrc

end OpxSdi.Entity
