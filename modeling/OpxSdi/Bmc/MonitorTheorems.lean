import Mathlib.Data.Set.Function
import OpxSdi.Bmc.Monitor
import OpxSdi.Bmc.Theorems

/-!
# The monitor shows the board

The answers are found in the database by name, in the order of its keys, or at an address that was found
earlier. They are those of the board as long as no two sensors have one name.
-/

namespace OpxSdi.Bmc

open Lib

variable {R V : Type}

/-! ## Reports -/

theorem getLsbD_discreteState (states : IpmiStates) {n i : Nat} (hn : n ≤ 32) (hi : i < 32) :
    (states.discreteState n).getLsbD i = decide (i < n ∧ states.readable i = some true ∧ states.isSet i) := by
  induction n with
  | zero => simp [IpmiStates.discreteState]
  | succ n ih =>
      have hbit : (BitVec.twoPow 32 n).getLsbD i = decide (n = i) := by simp [BitVec.getLsbD_twoPow]; omega
      have hlt : i < n + 1 ↔ i < n ∨ n = i := by omega
      rw [IpmiStates.discreteState]
      split
      next hset =>
        rw [BitVec.getLsbD_or, ih (by omega), hbit]
        by_cases h : n = i
        · subst h
          simp [hset]
        · simp [hlt, h]
      next hset =>
        rw [ih (by omega)]
        by_cases h : n = i
        · subst h
          simp [hset]
        · simp [hlt, h]

/-- The loop over the states leaves the bits that are on. -/
theorem discreteState_eq (states : IpmiStates) : states.discreteState 32 = Board.discreteState states := by
  refine BitVec.eq_of_getLsbD_eq fun i hi => ?_
  rw [getLsbD_discreteState states (Nat.le_refl 32) hi, Board.discreteState, BitVec.getLsbD_setWidth,
    BitVec.getLsbD_ofBoolListLE]
  simp [hi]

namespace Monitor

variable {m m' : Monitor R V} {sensor x y : IpmiSensor}

/-! ## Records and their addresses -/

def addrOf (m : Monitor R V) (sensor : IpmiSensor) : Option Nat := (m.sensorGet sensor).map (·.addr)

theorem IpmiSensor.eq_of_key (h : sensorKey x.entityId x.entityInstance x.sensorId.text =
    sensorKey y.entityId y.entityInstance y.sensorId.text) : x = y := by
  obtain ⟨hid, hinst, hname⟩ := sensorKey_injective x.sensorId.short y.sensorId.short h
  cases x
  cases y
  obtain rfl := SensorName.eq_of_text hname
  cases hid
  cases hinst
  rfl

@[simp] theorem addrOf_setReading (addr : Nat) (reading : Reading V) :
    (m.setReading addr reading).addrOf sensor = m.addrOf sensor := rfl

theorem sensorGet_eq (h : m'.registry.db = m.registry.db) : m'.sensorGet sensor = m.sensorGet sensor := by
  rw [sensorGet, sensorGet, h]

theorem addrOf_eq (h : m'.registry.db = m.registry.db) : m'.addrOf sensor = m.addrOf sensor := by
  rw [addrOf, addrOf, sensorGet_eq h]

theorem find?_sensors (m : Monitor R V) (name : List Char) : dbSensorGetByName m.sensors name =
    (dbSensorGetByName m.registry.db.sensorMap.values name).map fun sensor => { sensor with
      readingType := (m.reading sensor.addr).readingType
      discreteState := (m.reading sensor.addr).discreteState } :=
  List.find?_map

theorem dcReadingGetByName_eq (m : Monitor R V) (sensorId : List Char) :
    m.dcReadingGetByName sensorId =
      ((m.registry.sensorAddr sensorId).map m.reading).elim (.error .einval) fun reading =>
        if reading.readingType ≠ .discrete then .error .enotsup else .discrete reading.discreteState := by
  rw [dcReadingGetByName, dcSensorReadingGetByName, find?_sensors, Registry.sensorAddr]
  cases dbSensorGetByName m.registry.db.sensorMap.values sensorId with
  | none => rfl
  | some sen => by_cases hdiscrete : (m.reading sen.addr).readingType = .discrete <;> simp [hdiscrete]

/-! ## Reports on the monitor -/

theorem store_none (h : m.sensorGet sensor = none) (f : Reading V → Reading V) : m.store sensor f = m := by
  rw [store, h]

theorem store_some {sen : BmcSensor} (h : m.sensorGet sensor = some sen) (f : Reading V → Reading V) :
    m.store sensor f = m.setReading sen.addr (f (m.reading sen.addr)) := by
  rw [store, h]

section

variable {nameLen : Nat} {double : Double V} {isThreshold : Bool}

theorem sensorCreate_known {sen : BmcSensor} (h : m.sensorGet sensor = some sen) (calloc : Bool) :
    m.sensorCreate nameLen double calloc isThreshold sensor = m := by
  rw [sensorCreate, h]

theorem sensorCreate_no_memory (h : m.sensorGet sensor = none) :
    m.sensorCreate nameLen double false isThreshold sensor = m := by
  have hadd := addUnder_no_memory h (.setTriple nameLen sensor.entityId sensor.entityInstance
    sensor.sensorId.text)
  rw [sensorCreate, h, dbSensorAdd, hadd]
  rfl

/-- The record that is made for a sensor. -/
def newRecord (nameLen : Nat) (m : Monitor R V) (sensor : IpmiSensor) : BmcSensor :=
  (BmcSensor.cleared m.registry.db.nextAddr).setTriple nameLen sensor.entityId sensor.entityInstance
    sensor.sensorId.text

def newDb (nameLen : Nat) (m : Monitor R V) (sensor : IpmiSensor) : SensorDb :=
  ⟨m.registry.db.sensorMap.insert (sensorKey sensor.entityId sensor.entityInstance sensor.sensorId.text)
    (m.newRecord nameLen sensor), m.registry.db.nextAddr + 1⟩

theorem sensorCreate_new (h : m.sensorGet sensor = none) :
    m.sensorCreate nameLen double true isThreshold sensor =
      (m.setDb (m.newDb nameLen sensor)).setReading m.registry.db.nextAddr (.create double isThreshold) := by
  have hadd := addUnder_new h (.setTriple nameLen sensor.entityId sensor.entityInstance sensor.sensorId.text)
  rw [sensorCreate, h, dbSensorAdd, hadd]
  rfl

theorem sensorGet_create (h : m.sensorGet sensor = none) :
    (m.sensorCreate nameLen double true isThreshold sensor).sensorGet sensor =
      some (m.newRecord nameLen sensor) := by
  rw [sensorCreate_new h]
  exact (SortedMap.find?_insert h _).trans (if_pos rfl)

theorem sensorGet_create_of_ne (h : m.sensorGet sensor = none) (hne : y ≠ sensor) :
    (m.sensorCreate nameLen double true isThreshold sensor).sensorGet y = m.sensorGet y := by
  rw [sensorCreate_new h]
  exact (SortedMap.find?_insert h _).trans (if_neg fun hkey => hne (IpmiSensor.eq_of_key hkey))

theorem addrOf_create (h : m.sensorGet sensor = none) :
    (m.sensorCreate nameLen double true isThreshold sensor).addrOf sensor = some m.registry.db.nextAddr := by
  rw [addrOf, sensorGet_create h]
  rfl

theorem addrOf_create_of_ne (h : m.sensorGet sensor = none) (hne : y ≠ sensor) :
    (m.sensorCreate nameLen double true isThreshold sensor).addrOf y = m.addrOf y := by
  rw [addrOf, sensorGet_create_of_ne h hne, addrOf]

theorem addrOf_create_of_some (h : m.sensorGet sensor = none) {addr : Nat} (haddr : m.addrOf x = some addr) :
    (m.sensorCreate nameLen double true isThreshold sensor).addrOf x = some addr := by
  have hne : x ≠ sensor := by
    rintro rfl
    simp [addrOf, h] at haddr
  rw [addrOf_create_of_ne h hne, haddr]

theorem nextAddr_create (h : m.sensorGet sensor = none) :
    (m.sensorCreate nameLen double true isThreshold sensor).registry.db.nextAddr =
      m.registry.db.nextAddr + 1 := by
  rw [sensorCreate_new h]
  rfl

/-- The address of a sensor after another one has been made. -/
theorem addrOf_create_cases (h : m.sensorGet sensor = none) {addr : Nat}
    (haddr : (m.sensorCreate nameLen double true isThreshold sensor).addrOf x = some addr) :
    x = sensor ∧ addr = m.registry.db.nextAddr ∨ m.addrOf x = some addr := by
  by_cases hx : x = sensor
  · subst hx
    rw [addrOf_create h] at haddr
    exact .inl ⟨rfl, (Option.some.inj haddr).symm⟩
  · rw [addrOf_create_of_ne h hx] at haddr
    exact .inr haddr

theorem mem_values_create (h : m.sensorGet sensor = none) {sen : BmcSensor}
    (hsen : sen ∈ (m.sensorCreate nameLen double true isThreshold sensor).registry.db.sensorMap.values) :
    sen = m.newRecord nameLen sensor ∨ sen ∈ m.registry.db.sensorMap.values := by
  rw [sensorCreate_new h] at hsen
  obtain ⟨key, hkey⟩ := SortedMap.mem_values_iff.mp hsen
  have hfind := (SortedMap.find?_insert h key).symm.trans hkey
  split at hfind
  · exact .inl (Option.some.inj hfind).symm
  · exact .inr (SortedMap.mem_values_iff.mpr ⟨key, hfind⟩)

theorem reading_create (h : m.sensorGet sensor = none) :
    (m.sensorCreate nameLen double true isThreshold sensor).reading =
      Function.update m.reading m.registry.db.nextAddr (.create double isThreshold) := by
  rw [sensorCreate_new h]
  rfl

theorem res_create (calloc : Bool) (m : Monitor R V) :
    (m.sensorCreate nameLen double calloc isThreshold sensor).res = m.res := by
  rw [sensorCreate]
  split
  · rfl
  · split <;> rfl

end

/-! ## The records of the sensors -/

/-- All but the addresses that are kept, of what the calls read -/
def SameConfig (a b : DevResourceInfo) : Prop :=
  a.dataSdrId = b.dataSdrId ∧ a.statusSdrId = b.statusSdrId ∧ a.statusBit = b.statusBit

/-- Nothing has been looked up. A fan without a status sensor may have the address of a placeholder. -/
def NoAddress (res : DevResourceInfo) : Prop :=
  res.dataSdr = none ∧ (res.statusSdrId ≠ [] → res.statusSdr = none)

/-- What holds of the records and of the addresses that the resources keep, while the reports
are of sensors in `S`. -/
structure Tracks (S : Set IpmiSensor) (res : R → DevResourceInfo) (m : Monitor R V) (b : Board V) : Prop where
  fresh : ∀ x addr, m.addrOf x = some addr → addr < m.registry.db.nextAddr
  apart : ∀ x y addr, m.addrOf x = some addr → m.addrOf y = some addr → x = y
  known : ∀ sensor ∈ m.registry.db.sensorMap.values,
    ∃ x ∈ S, m.sensorGet x = some sensor ∧ sensor.name = x.sensorId.text
  reported : ∀ x ∈ S, b x.sensorId.text = (m.addrOf x).map m.reading
  unreported : ∀ name, (∀ x ∈ S, x.sensorId.text ≠ name) → b name = none
  config : ∀ r, SameConfig (m.res r) (res r)
  dataSdr : ∀ r addr, (m.res r).dataSdr = some addr →
    ∃ x ∈ S, x.sensorId.text = (res r).dataSdrId ∧ m.addrOf x = some addr
  statusSdr : ∀ r addr, (res r).statusSdrId ≠ [] → (m.res r).statusSdr = some addr →
    ∃ x ∈ S, x.sensorId.text = (res r).statusSdrId ∧ m.addrOf x = some addr

namespace Tracks

variable {S : Set IpmiSensor} {res : R → DevResourceInfo} {b : Board V}

theorem eq_of_name (h : Tracks S res m b) {sen : BmcSensor} (hget : m.sensorGet x = some sen) :
    x ∈ S ∧ sen.name = x.sensorId.text := by
  obtain ⟨y, hy, hy', hname⟩ := h.known sen (SortedMap.mem_values_iff.mpr ⟨_, hget⟩)
  obtain rfl := h.apart x y sen.addr (by rw [addrOf, hget]; rfl) (by rw [addrOf, hy']; rfl)
  exact ⟨hy, hname⟩

theorem board_of_addr (h : Tracks S res m b) {addr : Nat} (hx : x ∈ S) (haddr : m.addrOf x = some addr) :
    b x.sensorId.text = some (m.reading addr) := by
  rw [h.reported x hx, haddr, Option.map_some]

theorem exists_of_sensorAddr (h : Tracks S res m b) {name : List Char} {addr : Nat}
    (haddr : m.registry.sensorAddr name = some addr) :
    ∃ x ∈ S, x.sensorId.text = name ∧ m.addrOf x = some addr := by
  obtain ⟨sen, hfind, rfl⟩ := Option.map_eq_some_iff.mp haddr
  obtain ⟨x, hx, hget, hname⟩ := h.known sen (List.mem_of_find?_eq_some hfind)
  have hsen : sen.name = name := by simpa using List.find?_some hfind
  exact ⟨x, hx, hname ▸ hsen, by rw [addrOf, hget]; rfl⟩

/-- A search by name finds what the board has for it. -/
theorem board_eq (h : Tracks S res m b) (name : List Char) :
    b name = (m.registry.sensorAddr name).map m.reading := by
  cases haddr : m.registry.sensorAddr name with
  | some addr =>
      obtain ⟨x, hx, rfl, hx'⟩ := h.exists_of_sensorAddr haddr
      exact h.board_of_addr hx hx'
  | none =>
      by_cases hname : ∃ x ∈ S, x.sensorId.text = name
      · obtain ⟨x, hx, rfl⟩ := hname
        rw [h.reported x hx, addrOf]
        cases hget : m.sensorGet x with
        | none => rfl
        | some sen =>
            have hnone := List.find?_eq_none.mp (Option.map_eq_none_iff.mp haddr) sen
              (SortedMap.mem_values_iff.mpr ⟨_, hget⟩)
            simp [(h.eq_of_name hget).2] at hnone
      · rw [h.unreported name fun x hx hx' => hname ⟨x, hx, hx'⟩]
        rfl

/-! ### What the calls keep -/

/-- A resource keeps its addresses, or takes them from a search. -/
structure Refreshed (m : Monitor R V) (r : R) (res' : DevResourceInfo) : Prop where
  config : SameConfig res' (m.res r)
  dataSdr : ∀ addr, res'.dataSdr = some addr →
    (m.res r).dataSdr = some addr ∨ m.registry.sensorAddr (m.res r).dataSdrId = some addr
  statusSdr : ∀ addr, res'.statusSdr = some addr →
    (m.res r).statusSdr = some addr ∨ m.registry.sensorAddr (m.res r).statusSdrId = some addr

theorem refresh [DecidableEq R] (h : Tracks S res m b) {r : R} {res' : DevResourceInfo}
    (hres' : Refreshed m r res') (hdb : m'.registry.db = m.registry.db) (hreading : m'.reading = m.reading)
    (hres : m'.res = Function.update m.res r res') : Tracks S res m' b where
  fresh x addr := by
    rw [addrOf_eq hdb, hdb]
    exact h.fresh x addr
  apart x y addr := by
    rw [addrOf_eq hdb, addrOf_eq hdb]
    exact h.apart x y addr
  known sensor hsensor := by
    rw [hdb] at hsensor
    obtain ⟨x, hx, hget, hname⟩ := h.known sensor hsensor
    exact ⟨x, hx, (sensorGet_eq hdb).trans hget, hname⟩
  reported x hx := by rw [h.reported x hx, addrOf_eq hdb, hreading]
  unreported := h.unreported
  config r' := by
    obtain ⟨hdata, hstatus, hbit⟩ := h.config r'
    rw [hres]
    by_cases hr : r' = r
    · subst hr
      rw [Function.update_self]
      obtain ⟨hdata', hstatus', hbit'⟩ := hres'.config
      exact ⟨hdata'.trans hdata, hstatus'.trans hstatus, hbit'.trans hbit⟩
    · rw [Function.update_of_ne hr]
      exact ⟨hdata, hstatus, hbit⟩
  dataSdr r' addr haddr := by
    simp only [addrOf_eq hdb]
    rw [hres] at haddr
    by_cases hr : r' = r
    · subst hr
      rw [Function.update_self] at haddr
      cases hres'.dataSdr addr haddr with
      | inl hold => exact h.dataSdr r' addr hold
      | inr hfound => exact h.exists_of_sensorAddr ((h.config r').1 ▸ hfound)
    · rw [Function.update_of_ne hr] at haddr
      exact h.dataSdr r' addr haddr
  statusSdr r' addr hid haddr := by
    simp only [addrOf_eq hdb]
    rw [hres] at haddr
    by_cases hr : r' = r
    · subst hr
      rw [Function.update_self] at haddr
      cases hres'.statusSdr addr haddr with
      | inl hold => exact h.statusSdr r' addr hid hold
      | inr hfound => exact h.exists_of_sensorAddr ((h.config r').2.1 ▸ hfound)
    · rw [Function.update_of_ne hr] at haddr
      exact h.statusSdr r' addr hid haddr

theorem setRes [DecidableEq R] (h : Tracks S res m b) {r : R} {res' : DevResourceInfo}
    (hres' : Refreshed m r res') : Tracks S res (m.setRes r res') b :=
  h.refresh hres' rfl rfl rfl

theorem fanResRegister [DecidableEq R] (h : Tracks S res m b) (r : R) :
    Tracks S res (m.fanResRegister r) b := by
  have hres' : Refreshed m r (m.registry.bmcFanResRegister (m.res r)).1 :=
    ⟨⟨rfl, rfl, rfl⟩, fun _ => .inr, fun _ => .inr⟩
  exact h.refresh hres' rfl rfl rfl

theorem tmpResRegister [DecidableEq R] (h : Tracks S res m b) (r : R) :
    Tracks S res (m.tmpResRegister r) b := by
  have hres' : Refreshed m r (m.registry.bmcTmpResRegister (m.res r)).1 :=
    ⟨⟨rfl, rfl, rfl⟩, fun _ => .inr, fun _ => .inl⟩
  exact h.refresh hres' rfl rfl rfl

/-! ### What the calls answer -/

theorem dataGet [DecidableEq R] (h : Tracks S res m b) (r : R) (convert : V → Answer V) :
    (m.dataGet r convert).1 =
        (b (res r).dataSdrId).elim (.error .einval) (fun reading => convert reading.data) ∧
      Tracks S res (m.dataGet r convert).2 b := by
  rw [Monitor.dataGet]
  cases hkept : (m.res r).dataSdr with
  | some addr =>
      obtain ⟨x, hx, hname, haddr⟩ := h.dataSdr r addr hkept
      rw [← hname, h.board_of_addr hx haddr]
      exact ⟨rfl, h⟩
  | none =>
      rw [h.board_eq, ← (h.config r).1]
      cases haddr : m.registry.sensorAddr (m.res r).dataSdrId with
      | none => exact ⟨rfl, h⟩
      | some addr =>
          exact ⟨rfl, h.setRes ⟨⟨rfl, rfl, rfl⟩, fun _ heq => .inr (heq ▸ haddr), fun _ => .inl⟩⟩

theorem fault_eq (h : Tracks S res m b) (r : R) : (m.res r).fault = (res r).fault := by
  funext reading
  rw [DevResourceInfo.fault, DevResourceInfo.fault, (h.config r).2.2]

theorem fanStatusGet [DecidableEq R] (h : Tracks S res m b) (r : R) :
    (m.fanStatusGet r).1 =
        (if (res r).statusSdrId = [] then .status false
          else (b (res r).statusSdrId).elim (.status false) fun reading =>
            .status ((res r).fault reading.discreteState)) ∧
      Tracks S res (m.fanStatusGet r).2 b := by
  rw [Monitor.fanStatusGet, (h.config r).2.1, h.fault_eq r]
  split
  · exact ⟨rfl, h⟩
  next hid =>
    cases hkept : (m.res r).statusSdr with
    | some addr =>
        obtain ⟨x, hx, hname, haddr⟩ := h.statusSdr r addr hid hkept
        rw [← hname, h.board_of_addr hx haddr]
        exact ⟨rfl, h⟩
    | none =>
        rw [h.board_eq]
        cases haddr : m.registry.sensorAddr (res r).statusSdrId with
        | none => exact ⟨rfl, h⟩
        | some addr =>
            refine ⟨rfl, h.setRes ⟨⟨rfl, rfl, rfl⟩, fun _ => .inl, fun _ heq => .inr ?_⟩⟩
            rw [(h.config r).2.1, haddr]
            exact heq

theorem dcReadingGetByName (h : Tracks S res m b) (sensorId : List Char) :
    m.dcReadingGetByName sensorId = (b sensorId).elim (.error .einval) fun reading =>
      if reading.readingType ≠ .discrete then .error .enotsup else .discrete reading.discreteState := by
  rw [dcReadingGetByName_eq, h.board_eq]

theorem thSensorReadingGetByName (h : Tracks S res m b) (sensorId : List Char) :
    m.thSensorReadingGetByName sensorId = (b sensorId).elim (.error .einval) fun reading =>
      if reading.readingType ≠ .threshold then .error .enotsup else .threshold reading.data := by
  rw [Monitor.thSensorReadingGetByName, find?_sensors, h.board_eq, Registry.sensorAddr]
  cases dbSensorGetByName m.registry.db.sensorMap.values sensorId with
  | none => rfl
  | some sen => rfl

/-! ### What the reports keep -/

theorem store (h : Tracks S res m b) (hinj : S.InjOn IpmiSensor.sensorId) {sensor : IpmiSensor}
    (hsensor : sensor ∈ S) (f : Reading V → Reading V) :
    Tracks S res (m.store sensor f) (b.store sensor f) := by
  cases hget : m.sensorGet sensor with
  | none =>
      have hnone : b sensor.sensorId.text = none := by rw [h.reported sensor hsensor, addrOf, hget]; rfl
      rw [store_none hget, Board.store, hnone, Option.map_none, ← hnone, Function.update_eq_self]
      exact h
  | some sen =>
      have haddr : m.addrOf sensor = some sen.addr := by rw [addrOf, hget]; rfl
      rw [store_some hget]
      refine ⟨h.fresh, h.apart, h.known, fun x hx => ?_, fun name hname => ?_, h.config, h.dataSdr,
        h.statusSdr⟩
      · rw [addrOf_setReading, Board.store]
        by_cases hname : x.sensorId.text = sensor.sensorId.text
        · obtain rfl := hinj hx hsensor (SensorName.eq_of_text hname)
          rw [Function.update_self, h.board_of_addr hx haddr, haddr]
          simp [setReading]
        · rw [Function.update_of_ne hname, h.reported x hx]
          cases hother : m.addrOf x with
          | none => rfl
          | some addr =>
              have hne : addr ≠ sen.addr := by
                rintro rfl
                exact hname (by rw [h.apart x sensor sen.addr hother haddr])
              simp [setReading, hne]
      · rw [Board.store, Function.update_of_ne (hname sensor hsensor).symm]
        exact h.unreported name hname

theorem create_new {nameLen : Nat} (hlen : 64 ≤ nameLen) (h : Tracks S res m b)
    (hinj : S.InjOn IpmiSensor.sensorId) {sensor : IpmiSensor} (hsensor : sensor ∈ S)
    (hget : m.sensorGet sensor = none) (double : Double V) (isThreshold : Bool) :
    Tracks S res (m.sensorCreate nameLen double true isThreshold sensor)
      (Function.update b sensor.sensorId.text (some (.create double isThreshold))) where
  fresh x addr haddr := by
    rw [nextAddr_create hget]
    cases addrOf_create_cases hget haddr with
    | inl hnew => omega
    | inr hold => exact Nat.lt_succ_of_lt (h.fresh x addr hold)
  apart x y addr hx hy := by
    obtain ⟨rfl, haddr⟩ | hx' := addrOf_create_cases hget hx
    · obtain ⟨rfl, -⟩ | hy' := addrOf_create_cases hget hy
      · rfl
      · exact absurd haddr (Nat.ne_of_lt (h.fresh y addr hy'))
    · obtain ⟨rfl, haddr⟩ | hy' := addrOf_create_cases hget hy
      · exact absurd haddr (Nat.ne_of_lt (h.fresh x addr hx'))
      · exact h.apart x y addr hx' hy'
  known sen hsen := by
    obtain rfl | hold := mem_values_create hget hsen
    · exact ⟨sensor, hsensor, sensorGet_create hget, safestrncpy_text hlen sensor.sensorId⟩
    · obtain ⟨x, hx, hget', hname⟩ := h.known sen hold
      have hne : x ≠ sensor := by
        rintro rfl
        simp [hget] at hget'
      exact ⟨x, hx, (sensorGet_create_of_ne hget hne).trans hget', hname⟩
  reported x hx := by
    rw [reading_create hget]
    by_cases hname : x.sensorId.text = sensor.sensorId.text
    · obtain rfl := hinj hx hsensor (SensorName.eq_of_text hname)
      rw [addrOf_create hget]
      simp
    · have hne : x ≠ sensor := fun heq => hname (by rw [heq])
      rw [Function.update_of_ne hname, h.reported x hx, addrOf_create_of_ne hget hne]
      cases haddr : m.addrOf x with
      | none => rfl
      | some addr => simp [Nat.ne_of_lt (h.fresh x addr haddr)]
  unreported name hname := by
    rw [Function.update_of_ne (hname sensor hsensor).symm]
    exact h.unreported name hname
  config r := by
    rw [res_create]
    exact h.config r
  dataSdr r addr haddr := by
    rw [res_create] at haddr
    obtain ⟨x, hx, hname, hx'⟩ := h.dataSdr r addr haddr
    exact ⟨x, hx, hname, addrOf_create_of_some hget hx'⟩
  statusSdr r addr hid haddr := by
    rw [res_create] at haddr
    obtain ⟨x, hx, hname, hx'⟩ := h.statusSdr r addr hid haddr
    exact ⟨x, hx, hname, addrOf_create_of_some hget hx'⟩

theorem create {nameLen : Nat} (hlen : 64 ≤ nameLen) (h : Tracks S res m b)
    (hinj : S.InjOn IpmiSensor.sensorId) {sensor : IpmiSensor} (hsensor : sensor ∈ S)
    (double : Double V) (calloc isThreshold : Bool) :
    Tracks S res (m.sensorCreate nameLen double calloc isThreshold sensor)
      (b.create double calloc isThreshold sensor) := by
  cases hget : m.sensorGet sensor with
  | some sen =>
      have hsome : b sensor.sensorId.text ≠ none := by rw [h.reported sensor hsensor, addrOf, hget]; simp
      rw [sensorCreate_known hget, Board.create, if_neg fun hnew => hsome hnew.1]
      exact h
  | none =>
      have hnone : b sensor.sensorId.text = none := by rw [h.reported sensor hsensor, addrOf, hget]; rfl
      cases calloc with
      | false =>
          rw [sensorCreate_no_memory hget, Board.create, if_neg fun hnew => Bool.false_ne_true hnew.2]
          exact h
      | true =>
          rw [Board.create, if_pos ⟨hnone, rfl⟩]
          exact h.create_new hlen hinj hsensor hget double isThreshold

theorem start {double : Double V} (hres : ∀ r, NoAddress (res r)) :
    Tracks S res (.start double res) fun _ => none where
  fresh x addr haddr := by cases haddr
  apart x y addr hx := by cases hx
  known sensor hsensor := by cases hsensor
  reported x hx := rfl
  unreported name hname := rfl
  config r := ⟨rfl, rfl, rfl⟩
  dataSdr r addr haddr := by
    have hnone : (res r).dataSdr = some addr := haddr
    simp [(hres r).1] at hnone
  statusSdr r addr hid haddr := by
    have hnone : (res r).statusSdr = some addr := haddr
    simp [(hres r).2 hid] at hnone

/-- An event is answered as the board answers it. -/
theorem handle [DecidableEq R] {nameLen : Nat} (hlen : 64 ≤ nameLen) (h : Tracks S res m b)
    (hinj : S.InjOn IpmiSensor.sensorId) (double : Double V) (event : MonitorEvent R V)
    (hevent : ∀ sensor, event.sensor = some sensor → sensor ∈ S) :
    (m.handle nameLen double event).1 = (b.handle double res event).1 ∧
      Tracks S res (m.handle nameLen double event).2 (b.handle double res event).2 := by
  cases event with
  | create calloc isThreshold sensor =>
      exact ⟨rfl, h.create hlen hinj (hevent sensor rfl) double calloc isThreshold⟩
  | reading sensor value => exact ⟨rfl, h.store hinj (hevent sensor rfl) value.store⟩
  | thresholdEvent sensor value => exact ⟨rfl, h.store hinj (hevent sensor rfl) value.store⟩
  | states sensor states =>
      refine ⟨rfl, ?_⟩
      rw [Board.handle, ← discreteState_eq]
      exact h.store hinj (hevent sensor rfl) states.store
  | registerFan r => exact ⟨rfl, h.fanResRegister r⟩
  | registerTmp r => exact ⟨rfl, h.tmpResRegister r⟩
  | temperatureGet r => exact (h.dataGet r fun data =>
      .temperature (double.toInt data)).imp_left (congrArg some)
  | fanSpeedGet r => exact (h.dataGet r fun data => .speed (double.toUint data)).imp_left (congrArg some)
  | fanStatusGet r => exact (h.fanStatusGet r).imp_left (congrArg some)
  | dcReading sensorId => exact ⟨congrArg some (h.dcReadingGetByName sensorId), h⟩
  | thReading sensorId => exact ⟨congrArg some (h.thSensorReadingGetByName sensorId), h⟩

end Tracks

/-! ## Two sensors of one name -/

/-- A state that only the sensor can have got is found by its name only if its record is. -/
theorem sensorAddr_of_answer {f : Reading V → Reading V} {state : BitVec 32} {name : List Char}
    (hstate : ∀ addr, (m.reading addr).discreteState ≠ state)
    (h : (m.store sensor f).dcReadingGetByName name = .discrete state) :
    ∃ addr, m.registry.sensorAddr name = some addr ∧ m.addrOf sensor = some addr := by
  have hother : m.dcReadingGetByName name ≠ .discrete state := by
    rw [dcReadingGetByName_eq]
    cases m.registry.sensorAddr name with
    | none => simp
    | some addr =>
        by_cases hdiscrete : (m.reading addr).readingType = .discrete <;> simp [hdiscrete, hstate addr]
  cases hget : m.sensorGet sensor with
  | none => exact absurd (store_none hget f ▸ h) hother
  | some sen =>
      refine ⟨sen.addr, ?_, by rw [addrOf, hget]; rfl⟩
      rw [store_some hget, dcReadingGetByName_eq] at h
      rw [dcReadingGetByName_eq] at hother
      cases haddr : (m.setReading sen.addr (f (m.reading sen.addr))).registry.sensorAddr name with
      | none => simp [haddr] at h
      | some addr =>
          have haddr' : m.registry.sensorAddr name = some addr := haddr
          by_cases hsame : addr = sen.addr
          · rw [haddr', hsame]
          · rw [haddr] at h
            rw [haddr'] at hother
            simp [setReading, hsame] at h
            simp [h] at hother

end Monitor

section

variable [DecidableEq R] (nameLen : Nat) (double : Double V) (res : R → DevResourceInfo)

def Monitor.after (events : List (MonitorEvent R V)) : Monitor R V :=
  run (fun m event => (m.handle nameLen double event).2) (.start double res) events

def Board.after (events : List (MonitorEvent R V)) : Board V :=
  run (fun b event => (b.handle double res event).2) (fun _ => none) events

end

def MonitorEvent.Of (S : Set IpmiSensor) (event : MonitorEvent R V) : Prop :=
  ∀ sensor, event.sensor = some sensor → sensor ∈ S

variable {S : Set IpmiSensor} {nameLen : Nat}

theorem tracks_after [DecidableEq R] (hlen : 64 ≤ nameLen) (hinj : S.InjOn IpmiSensor.sensorId)
    (double : Double V) {res : R → DevResourceInfo} (hres : ∀ r, Monitor.NoAddress (res r))
    {events : List (MonitorEvent R V)} (hevents : ∀ e ∈ events, e.Of S) :
    Monitor.Tracks S res (Monitor.after nameLen double res events) (Board.after double res events) :=
  run_rel_of (fun _ _ event hevent h => (h.handle hlen hinj double event hevent).2)
    (Monitor.Tracks.start hres) hevents

/-- Every state readable and set. -/
def allSet : IpmiStates := ⟨fun _ => some true, fun _ => true⟩

theorem discreteState_allSet : Board.discreteState allSet = .allOnes 32 := by decide

/-- The reports of two sensors, and of all states of one of them. -/
def twoReports (a b x : IpmiSensor) : List (MonitorEvent R V) :=
  [.create true false a, .create true false b, .states x allSet]

theorem board_twoReports (double : Double V) (res : R → DevResourceInfo) {a b x : IpmiSensor}
    (hname : a.sensorId = b.sensorId) (hx : x.sensorId = a.sensorId) :
    ((Board.after double res (twoReports a b x)).handle double res (.dcReading a.sensorId.text)).1 =
      some (.discrete (.allOnes 32)) := by
  simp [Board.after, twoReports, Board.handle, Board.create, Board.store, Reading.create, hname, hx,
    discreteState_allSet]

namespace Monitor

theorem discreteState_create (double : Double V) {r : Nat → Reading V}
    (hr : ∀ addr, (r addr).discreteState ≠ .allOnes 32) (addr : Nat) (isThreshold : Bool) (addr' : Nat) :
    ((Function.update r addr (.create double isThreshold)) addr').discreteState ≠ .allOnes 32 := by
  by_cases h : addr' = addr
  · subst h
    cases isThreshold <;> simp [Reading.create]
  · rw [Function.update_of_ne h]
    exact hr addr'

/-- Two records are made for two sensors, whatever their names are, and the state of neither is all set. -/
theorem two_creates (nameLen : Nat) (double : Double V) (res : R → DevResourceInfo) {a b : IpmiSensor}
    (hne : a ≠ b) : ∃ m : Monitor R V,
      m = ((start double res).sensorCreate nameLen double true false a).sensorCreate nameLen double true false b ∧
      m.addrOf a = some 0 ∧ m.addrOf b = some 1 ∧ ∀ addr, (m.reading addr).discreteState ≠ .allOnes 32 := by
  have ha : (start double res).sensorGet a = none := rfl
  have hb : ((start double res).sensorCreate nameLen double true false a).sensorGet b = none :=
    sensorGet_create_of_ne ha hne.symm
  refine ⟨_, rfl, addrOf_create_of_some hb (addrOf_create ha), ?_, ?_⟩
  · rw [addrOf_create hb, nextAddr_create ha]
    rfl
  · rw [reading_create hb, reading_create ha]
    refine discreteState_create double (discreteState_create double (fun addr => ?_) _ _) _ _
    simp [start]

end Monitor

/-- Whatever is reported and asked for, the answers are the board's, if and only if no two
sensors have one name. -/
theorem answers_of_board_iff [DecidableEq R] (hlen : 64 ≤ nameLen) (double : Double V) (S : Set IpmiSensor) :
    (∀ (res : R → DevResourceInfo) (events : List (MonitorEvent R V)) (event : MonitorEvent R V),
      (∀ r, Monitor.NoAddress (res r)) → (∀ e ∈ events, e.Of S) → event.Of S →
        ((Monitor.after nameLen double res events).handle nameLen double event).1 =
          ((Board.after double res events).handle double res event).1) ↔
    S.InjOn IpmiSensor.sensorId := by
  constructor
  · intro h a ha b hb hname
    by_contra hne
    obtain ⟨m, hm, haddrA, haddrB, hstate⟩ := Monitor.two_creates nameLen double (fun _ : R => .zeroed) hne
    have hfound : ∀ x ∈ S, x.sensorId = a.sensorId →
        ∃ addr, m.registry.sensorAddr a.sensorId.text = some addr ∧ m.addrOf x = some addr := by
      intro x hx hxname
      have hanswer := h (fun _ => .zeroed) (twoReports a b x) (.dcReading a.sensorId.text)
        (fun _ => ⟨rfl, fun _ => rfl⟩) (by simp [twoReports, MonitorEvent.Of,
          MonitorEvent.sensor, ha, hb, hx])
        (fun _ hnone => by cases hnone)
      rw [board_twoReports double _ hname hxname] at hanswer
      refine Monitor.sensorAddr_of_answer (f := allSet.store) hstate ?_
      rw [hm]
      exact Option.some.inj hanswer
    obtain ⟨addr, hsearch, hA⟩ := hfound a ha rfl
    obtain ⟨addr', hsearch', hB⟩ := hfound b hb hname.symm
    simp [haddrA] at hA
    simp [haddrB] at hB
    simp [hsearch, ← hA, ← hB] at hsearch'
  · intro hinj res events event hres hevents hevent
    exact ((tracks_after hlen hinj double hres hevents).handle hlen hinj double event hevent).1

def fanIpmiSensor : IpmiSensor := ⟨29, 1, ⟨"FAN1".toList, by decide⟩⟩

def psuIpmiSensor : IpmiSensor := ⟨10, 1, ⟨"PSU1".toList, by decide⟩⟩

def wholeNumbers : Double Nat := ⟨0, .ofNat 32, .ofNat 32⟩

def fanResource (_ : Unit) : DevResourceInfo := { DevResourceInfo.zeroed with dataSdrId := "FAN1".toList }

def fanReports : List (MonitorEvent Unit Nat) :=
  [.create true false psuIpmiSensor, .create true true fanIpmiSensor, .reading fanIpmiSensor (.both 50 5000)]

theorem fanSpeed_of_board :
    ((Monitor.after 64 wholeNumbers fanResource fanReports).handle 64 wholeNumbers (.fanSpeedGet ())).1 =
      some (.speed 5000) := by
  have hinj : ({psuIpmiSensor, fanIpmiSensor} : Set IpmiSensor).InjOn IpmiSensor.sensorId := by
    refine Set.injOn_pair.mpr fun hname => ?_
    simp [psuIpmiSensor, fanIpmiSensor] at hname
  refine ((answers_of_board_iff (Nat.le_refl 64) wholeNumbers _).mpr hinj fanResource fanReports (.fanSpeedGet ())
    ?_ ?_ ?_).trans ?_
  · exact fun _ => ⟨rfl, fun _ => rfl⟩
  · simp [fanReports, MonitorEvent.Of, MonitorEvent.sensor]
  · exact fun _ hnone => by cases hnone
  · rfl

end OpxSdi.Bmc
