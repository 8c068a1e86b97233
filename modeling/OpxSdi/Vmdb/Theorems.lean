import OpxSdi.Vmdb.Lemmas.Query

/-!
# Enumeration of the VM's entities and resources

The cursor of the entity enumeration is the address of a variable, so the enumeration is complete only where
the addresses fall between the handles. The cursor of the resource enumeration is the handle.
-/

namespace OpxSdi.Vmdb

open Lib Sql

variable {db : Database} {stack : Nat → BitVec 64}

/-! ## Entities -/

/-- At each call the low half of the address lies at or above the handle that the call is given, and below
every larger one. -/
def AddressesFollow (db : Database) (stack : Nat → BitVec 64) : Prop :=
  ∀ i, ∀ h : i < db.entityHandles.length, db.entityHandles[i] ≤ (uint (stack i)).toNat ∧
    ∀ v ∈ db.entityHandles, db.entityHandles[i] < v → ((uint (stack i)).toNat : Int) < v

theorem toNat_handleOf {v : Int} (h0 : 0 ≤ v) (h : v < 2 ^ 31) : ((handleOf v).toNat : Int) = v := by
  have hlow := toNat_low h0 (by omega)
  rw [handleOf, toNat_toHandle, if_neg (by omega), Nat.add_zero, hlow]

theorem mem_map_handleOf {hdl : Handle} :
    hdl ∈ db.entityHandles.map handleOf ↔ ∃ r ∈ db.info.rows, (hdl.toNat : Int) = r .entityHandle := by
  have heq {v : Int} (hv : v ∈ db.entityHandles) : handleOf v = hdl ↔ (hdl.toNat : Int) = v := by
    obtain ⟨h0, hlt⟩ := entityHandles_range db hv
    have hnat := toNat_handleOf (Int.le_of_lt h0) hlt
    exact ⟨fun h => h ▸ hnat, fun h => BitVec.eq_of_toNat_eq (by omega)⟩
  constructor
  · intro h
    obtain ⟨v, hv, hhdl⟩ := List.mem_map.mp h
    obtain ⟨r, hr, rfl⟩ := (mem_entityHandles db).mp hv
    exact ⟨r, hr, (heq hv).mp hhdl⟩
  · rintro ⟨r, hr, hhdl⟩
    have hv := (mem_entityHandles db).mpr ⟨r, hr, rfl⟩
    exact List.mem_map.mpr ⟨_, hv, (heq hv).mpr hhdl⟩

theorem pairwise_map_handleOf : (db.entityHandles.map handleOf).Pairwise (· < ·) := by
  rw [List.pairwise_map]
  refine (entityHandles_pairwise db).imp_of_mem fun {v w} hv hw hlt => ?_
  have hvr := entityHandles_range db hv
  have hwr := entityHandles_range db hw
  have hvn := toNat_handleOf (Int.le_of_lt hvr.1) hvr.2
  have hwn := toNat_handleOf (Int.le_of_lt hwr.1) hwr.2
  rw [BitVec.lt_def]
  omega

/-- The enumeration of the table is the only list it can be. -/
theorem entitiesEnumerated_iff_visits : EntitiesEnumerated db stack ↔
    Visits null (fun k hdl => entityFindNext db (stack k) hdl) 0 (entityFindFirst db)
      (db.entityHandles.map handleOf) := by
  constructor
  · rintro ⟨hdls, hvisits, hasc, hmem⟩
    have heq : hdls = db.entityHandles.map handleOf :=
      hasc.eq_of_mem_iff pairwise_map_handleOf fun hdl => (hmem hdl).trans mem_map_handleOf.symm
    exact heq ▸ hvisits
  · intro h
    exact ⟨_, h, pairwise_map_handleOf, fun hdl => mem_map_handleOf⟩

/-- Handles that are read back agree when the numbers in the table do. -/
theorem getD_low_inj {o p : Option Int} (ho : ∀ v ∈ o, 0 < v ∧ v < 2 ^ 32) (hp : ∀ v ∈ p, 0 < v ∧ v < 2 ^ 32) :
    (o.map low).getD 0 = (p.map low).getD 0 ↔ o = p := by
  have hnat {q : Option Int} (hq : ∀ v ∈ q, 0 < v ∧ v < 2 ^ 32) :
      (((q.map low).getD 0).toNat : Int) = q.getD 0 := by
    cases q with
    | none => rfl
    | some v => exact toNat_low (Int.le_of_lt (hq v rfl).1) (hq v rfl).2
  refine ⟨fun h => ?_, fun h => by rw [h]⟩
  have heq : o.getD 0 = p.getD 0 := by rw [← hnat ho, ← hnat hp, h]
  cases o with
  | none =>
      cases p with
      | none => rfl
      | some w => exact absurd heq (Int.ne_of_lt (hp w rfl).1)
  | some v =>
      cases p with
      | none => exact absurd heq (Int.ne_of_gt (ho v rfl).1)
      | some w => exact congrArg some heq

theorem getD_map_toHandle (o : Option Int) : (o.map handleOf).getD null = toHandle ((o.map low).getD 0) := by
  cases o with
  | none => exact toHandle_zero.symm
  | some v => rfl

/-- Calls from one place of the stack never enumerate two entities. -/
theorem not_addressesFollow_const (h : 2 ≤ db.entityHandles.length) (address : BitVec 64) :
    ¬ AddressesFollow db fun _ => address := by
  intro hfollow
  have hlt : db.entityHandles[0] < db.entityHandles[1] :=
    List.pairwise_iff_getElem.mp (entityHandles_pairwise db) 0 1 _ _ Nat.zero_lt_one
  have hbelow := (hfollow 0 (by omega)).2 _ (List.getElem_mem (by omega)) hlt
  exact absurd hbelow (not_lt.mpr (hfollow 1 (by omega)).1)

theorem entitiesEnumerated_iff : EntitiesEnumerated db stack ↔ AddressesFollow db stack := by
  have hrange {o : Option Int} (ho : ∀ v ∈ o, v ∈ db.entityHandles) : ∀ v ∈ o, 0 < v ∧ v < 2 ^ 32 := by
    intro v hv
    obtain ⟨h0, hlt⟩ := entityHandles_range db (ho v hv)
    exact ⟨h0, by omega⟩
  rw [entitiesEnumerated_iff_visits, visits_iff]
  have hstart : entityFindFirst db = (db.entityHandles.map handleOf).headD null := by
    rw [entityFindFirst_eq, ← getD_map_toHandle, List.headD_eq_head?_getD, List.head?_map]
  have hnull : null ∉ db.entityHandles.map handleOf := by
    intro h
    obtain ⟨r, hr, heq⟩ := mem_map_handleOf.mp h
    exact absurd heq (Int.ne_of_lt (db.info.pos r hr))
  have hstep (i : Nat) (hi : i < db.entityHandles.length) (hdl : Handle) :
      entityFindNext db (stack (0 + i)) hdl = (db.entityHandles.map handleOf)[i + 1]?.getD null ↔
        db.entityHandles[i] ≤ (uint (stack i)).toNat ∧
          ∀ v ∈ db.entityHandles, db.entityHandles[i] < v → ((uint (stack i)).toNat : Int) < v := by
    rw [entityFindNext_eq, List.getElem?_map, getD_map_toHandle, toHandle_inj,
      getD_low_inj (hrange fun v => List.mem_of_find?_eq_some) (hrange fun v => List.mem_of_getElem?),
      find?_above_iff (entityHandles_pairwise db) hi, Nat.zero_add]
  rw [and_iff_right hstart, and_iff_right hnull]
  constructor
  · exact fun h i hi => (hstep i hi _).mp (h i (by rwa [List.length_map]))
  · exact fun h i hi => (hstep i (by rwa [List.length_map] at hi) _).mpr (h i _)

/-! ## Resources -/

namespace ResourceTable

variable (t : ResourceTable) (type entity : BitVec 32)

/-- The cursors of as many resources as the count holds, in their order. -/
def cursors : List (BitVec 32) :=
  ((t.handles type entity).take ((t.handles type entity).length % 2 ^ 32)).map low

/-- The cursors start with the first resource, ascend from 1 on, and each leads to the next one. -/
structure Followed : Prop where
  starts : ((t.handles type entity).head?.map low).getD 0 = (t.cursors type entity).headD 0
  rises : (0 :: t.cursors type entity).Pairwise (· < ·)
  leads : ∀ i, ∀ h : i < (t.cursors type entity).length,
    ((t.after type (t.cursors type entity)[i]).map low).getD 0 = (t.cursors type entity)[i + 1]?.getD 0

theorem length_cursors : (t.cursors type entity).length = (t.handles type entity).length % 2 ^ 32 := by
  rw [cursors, List.length_map, List.length_take, Nat.min_eq_left (Nat.mod_le _ _)]

theorem getElem?_cursors {i : Nat} (hi : i < (t.cursors type entity).length) :
    (t.cursors type entity)[i]? = (t.handles type entity)[i]?.map low := by
  rw [length_cursors] at hi
  rw [cursors, List.getElem?_map, List.getElem?_take, if_pos hi]

end ResourceTable

theorem dbGetResourceHandle_cursor {hdl : Handle} {type : BitVec 32} {i : Nat}
    (hi : i < (db.resources.cursors type (uint hdl)).length) :
    dbGetResourceHandle db hdl type (BitVec.ofNat 32 (i + 1)) =
      .ok (toHandle (db.resources.cursors type (uint hdl))[i]) := by
  have hlt : i < 2 ^ 32 - 1 := by
    rw [ResourceTable.length_cursors] at hi
    omega
  have hcursor := db.resources.getElem?_cursors type (uint hdl) hi
  rw [List.getElem?_eq_getElem hi] at hcursor
  obtain ⟨v, hv, hlow⟩ := Option.map_eq_some_iff.mp hcursor.symm
  rw [dbGetResourceHandle_eq db hdl type hlt, hv, ← hlow]
  rfl

/-- The handles of the instances are the cursors of the resources. -/
theorem instances_iff {hdl : Handle} {type : BitVec 32} {hdls : List Handle} :
    (hdls.length = (entityResourceCountGet db hdl type).toNat ∧
      ∀ i, ∀ h : i < hdls.length, dbGetResourceHandle db hdl type (BitVec.ofNat 32 (i + 1)) = .ok hdls[i]) ↔
    hdls = (db.resources.cursors type (uint hdl)).map toHandle := by
  have hcount : (entityResourceCountGet db hdl type).toNat = (db.resources.cursors type (uint hdl)).length := by
    rw [entityResourceCountGet_eq, BitVec.toNat_ofNat, ResourceTable.length_cursors]
  rw [hcount]
  constructor
  · rintro ⟨hlen, hhdls⟩
    refine List.ext_getElem (by rw [hlen, List.length_map]) fun i hi hi' => ?_
    have heq := (hhdls i hi).symm.trans (dbGetResourceHandle_cursor (hlen ▸ hi))
    rw [Except.ok.inj heq, List.getElem_map]
  · rintro rfl
    refine ⟨List.length_map _, fun i hi => ?_⟩
    rw [dbGetResourceHandle_cursor (by rwa [List.length_map] at hi), List.getElem_map]

theorem mem_map_toHandle {cs : List (BitVec 32)} : null ∈ cs.map toHandle ↔ 0 ∈ cs := by
  rw [← toHandle_zero, List.mem_map_of_injective fun _ _ => toHandle_inj.mp]

theorem getD_map_cursor (o : Option (BitVec 32)) : (o.map toHandle).getD null = toHandle (o.getD 0) := by
  cases o with
  | none => exact toHandle_zero.symm
  | some c => rfl

theorem visitsResources_iff {hdl : Handle} {type : BitVec 32} {cs : List (BitVec 32)} :
    Visits null (fun k rHdl => entityGetNextResource db (stack k) rHdl type) 0 (entityGetFirstResource db hdl type)
        (cs.map toHandle) ↔
      ((db.resources.handles type (uint hdl)).head?.map low).getD 0 = cs.headD 0 ∧ 0 ∉ cs ∧
        ∀ i, ∀ h : i < cs.length, ((db.resources.after type cs[i]).map low).getD 0 = cs[i + 1]?.getD 0 := by
  have hhead : (cs.map toHandle).headD null = toHandle (cs.headD 0) := by
    rw [List.headD_eq_head?_getD, List.head?_map, getD_map_cursor, List.headD_eq_head?_getD]
  have hstep (i : Nat) (hi : i < cs.length) :
      entityGetNextResource db (stack (0 + i)) (toHandle cs[i]) type = (cs.map toHandle)[i + 1]?.getD null ↔
        ((db.resources.after type cs[i]).map low).getD 0 = cs[i + 1]?.getD 0 := by
    rw [entityGetNextResource_eq, uint_toHandle, List.getElem?_map, getD_map_cursor, toHandle_inj]
  rw [visits_iff, entityGetFirstResource_eq, hhead, toHandle_inj, mem_map_toHandle]
  refine and_congr_right fun _ => and_congr_right fun _ => ⟨fun h i hi => ?_, fun h i hi => ?_⟩
  · have hnext := h i (by rwa [List.length_map])
    rw [List.getElem_map] at hnext
    exact (hstep i hi).mp hnext
  · rw [List.length_map] at hi
    rw [List.getElem_map]
    exact (hstep i hi).mpr (h i hi)

theorem rises_iff {cs : List (BitVec 32)} :
    (0 :: cs).Pairwise (· < ·) ↔ 0 ∉ cs ∧ (cs.map toHandle).Pairwise (· < ·) := by
  have hmap : (cs.map toHandle).Pairwise (· < ·) ↔ cs.Pairwise (· < ·) := by
    rw [List.pairwise_map]
    exact List.Pairwise.iff fun _ _ => toHandle_lt
  rw [List.pairwise_cons, hmap]
  refine and_congr_left fun _ => ⟨fun h h0 => absurd (h 0 h0) (by decide), fun h c hc => ?_⟩
  have hne : c ≠ 0 := fun h0 => h (h0 ▸ hc)
  rw [BitVec.lt_def]
  exact Nat.pos_of_ne_zero fun h0 => hne (BitVec.eq_of_toNat_eq h0)

theorem resourcesEnumerated_iff {hdl : Handle} {type : BitVec 32} :
    ResourcesEnumerated db stack hdl type ↔ db.resources.Followed type (uint hdl) := by
  constructor
  · rintro ⟨hdls, hvisits, hasc, hinstances⟩
    obtain rfl := instances_iff.mp hinstances
    obtain ⟨hstarts, h0, hleads⟩ := visitsResources_iff.mp hvisits
    exact ⟨hstarts, rises_iff.mpr ⟨h0, hasc⟩, hleads⟩
  · rintro ⟨hstarts, hrises, hleads⟩
    obtain ⟨h0, hasc⟩ := rises_iff.mp hrises
    exact ⟨_, visitsResources_iff.mpr ⟨hstarts, h0, hleads⟩, hasc, instances_iff.mpr rfl⟩

/-- Handles of 32 bits are always followed. -/
theorem ResourceTable.followed_of_lt {t : ResourceTable} {type entity : BitVec 32}
    (h : ∀ v ∈ t.handles type entity, v < 2 ^ 32) : t.Followed type entity := by
  have hlen : (t.handles type entity).length < 2 ^ 32 := by
    have hint : ((t.handles type entity).length : Int) < 2 ^ 32 :=
      length_lt_of_nodup (by decide) (nodup_keys t.nodup) (fun v => handles_pos) h
    omega
  have hcursors : t.cursors type entity = (t.handles type entity).map low := by
    rw [cursors, Nat.mod_eq_of_lt hlen, List.take_length]
  have hnat {v : Int} (hv : v ∈ t.handles type entity) : ((low v).toNat : Int) = v :=
    toNat_low (Int.le_of_lt (handles_pos hv)) (h v hv)
  refine ⟨?_, ?_, ?_⟩
  · rw [hcursors, List.headD_eq_head?_getD, List.head?_map]
  · rw [hcursors, List.pairwise_cons, List.pairwise_map]
    constructor
    · intro c hc
      obtain ⟨v, hv, rfl⟩ := List.mem_map.mp hc
      have hpos := handles_pos hv
      have hv := hnat hv
      rw [BitVec.lt_def]
      change 0 < _
      omega
    · refine handles_pairwise.imp_of_mem fun {v w} hv hw hlt => ?_
      have hv := hnat hv
      have hw := hnat hw
      rw [BitVec.lt_def]
      omega
  · intro i hi
    simp only [hcursors] at hi ⊢
    rw [List.length_map] at hi
    have hmem := List.getElem_mem hi
    obtain ⟨r, hr, hentity⟩ := rowOf_low hmem (h _ hmem)
    have hfind := (find?_above_iff handles_pairwise hi).mpr ⟨Int.le_refl _, fun v _ hlt => hlt⟩
    rw [List.getElem_map, after, hr, Option.bind_some, hentity, low_natCast, hnat hmem, hfind,
      List.getElem?_map]

/-- The loop over the types calls `fn` with the resources of each type in their order. -/
theorem entityForEachResource_eq (hdl : Handle) : entityForEachResource db hdl =
    (List.range resourceMax).flatMap fun type =>
      (db.resources.cursors (BitVec.ofNat 32 type) (uint hdl)).map toHandle := by
  refine congrArg (List.flatMap · _) (funext fun type => ?_)
  have hcount : (BitVec.ofNat 32 (db.resources.handles (BitVec.ofNat 32 type) (uint hdl)).length).toNat =
      (db.resources.cursors (BitVec.ofNat 32 type) (uint hdl)).length := by
    rw [BitVec.toNat_ofNat, ResourceTable.length_cursors]
  rw [dbGetResourceCount_eq]
  simp only [hcount]
  generalize hcs : db.resources.cursors (BitVec.ofNat 32 type) (uint hdl) = cs
  have hsome : ∀ i ∈ List.range cs.length,
      (dbGetResourceHandle db hdl (BitVec.ofNat 32 type) (BitVec.ofNat 32 (i + 1))).toOption =
        some (toHandle (cs[i]?.getD 0)) := by
    intro i hi
    have hlt := List.mem_range.mp hi
    subst hcs
    rw [dbGetResourceHandle_cursor hlt, List.getElem?_eq_getElem hlt]
    rfl
  rw [List.filterMap_congr hsome]
  refine List.ext_getElem (by simp) fun i _ hi => ?_
  rw [List.length_map] at hi
  simp [hi]

/-! ## Both enumerations -/

theorem enumerated_iff : Enumerated db stack ↔
    AddressesFollow db stack ∧ ∀ type entity, db.resources.Followed type entity := by
  refine and_congr entitiesEnumerated_iff ?_
  constructor
  · intro h type entity
    have hfollowed := resourcesEnumerated_iff.mp (h (toHandle entity) type)
    rwa [uint_toHandle] at hfollowed
  · exact fun h hdl type => resourcesEnumerated_iff.mpr (h type (uint hdl))

/-- Two entities, and an address above both handles: the enumeration stops after the first one. -/
def twoEntities : Database where
  info :=
    { rows := [fun _ => 2, fun _ => 1]
      int64 := by simp [longMin, longMax]
      nodup := by decide
      pos := by decide
      lt := by decide }
  resources := { rows := [], int64 := nofun, nodup := List.nodup_nil, pos := nofun }

theorem not_enumerated_twoEntities :
    entityForEach twoEntities (fun _ => 0x7ffd00001000) 2 = some [1] ∧
      ¬ Enumerated twoEntities fun _ => 0x7ffd00001000 := by
  refine ⟨by decide +kernel, fun h => ?_⟩
  exact not_addressesFollow_const (by decide) _ (entitiesEnumerated_iff.mp h.1)

end OpxSdi.Vmdb
