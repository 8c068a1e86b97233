import OpxSdi.Vdriver.EntityInfo

/-! # Which mappings of part numbers are found -/

namespace OpxSdi.Vdriver

open Lib

/-! ## Storing a child -/

namespace Child

variable {child : Child} {iter : Nat} {db : List MapEntry}

/-- What an attribute does to its entry -/
def setAttr (child : Child) (key : String) (set : List Char → MapEntry → MapEntry) : MapEntry → MapEntry :=
  match child.attr key with
  | none => id
  | some text => set text

/-- What the loop does to the entry of a child -/
def record (child : Child) (entry : MapEntry) : MapEntry :=
  let entry := child.setAttr "airflow_val" (fun text entry => { entry with airflowDir := number 32 text }) entry
  let entry := child.setAttr "ac_type"
    (fun text entry => { entry with psuAcType := strtoul (textBytes text) ≠ 0 }) entry
  let entry := child.setAttr "dc_type"
    (fun text entry => { entry with psuDcType := strtoul (textBytes text) ≠ 0 }) entry
  child.setAttr "part_no" (fun text entry => { entry with partno := (cstr (textBytes text)).take (partnoSize - 1) })
    entry

theorem storeAttr_eq {key : String} {set : List Char → MapEntry → MapEntry}
    (h : iter < db.length ∨ child.attr key = none) :
    child.storeAttr key set iter db = .ok (db.modify iter (child.setAttr key set)) := by
  rw [storeAttr, setAttr]
  cases hattr : child.attr key with
  | none => rw [List.modify_id]
  | some text =>
      have hlt : iter < db.length := h.resolve_right (by rw [hattr]; exact Option.some_ne_none text)
      exact if_pos hlt

/-- Beyond the array, only an attribute that is not there is stored. -/
theorem eq_of_storeAttr {key : String} {set : List Char → MapEntry → MapEntry} {db' : List MapEntry}
    (hge : ¬iter < db.length) (h : child.storeAttr key set iter db = .ok db') : child.attr key = none ∧ db' = db := by
  rw [storeAttr] at h
  cases hattr : child.attr key with
  | none =>
      rw [hattr] at h
      exact ⟨rfl, (Except.ok.inj h).symm⟩
  | some text =>
      simp only [hattr, hge, ↓reduceIte] at h
      cases h

theorem store_eq (h : iter < db.length ∨ child.Bare) : child.store iter db = .ok (db.modify iter child.record) := by
  have hattr : ∀ key ∈ ["airflow_val", "ac_type", "dc_type", "part_no"], ∀ db' : List MapEntry,
      db'.length = db.length → iter < db'.length ∨ child.attr key = none :=
    fun key hkey db' hlen => hlen ▸ h.imp_right fun hbare => hbare key hkey
  rw [store, storeAttr_eq (hattr _ (by decide) _ rfl), Checked.bind_ok,
    storeAttr_eq (hattr _ (by decide) _ (by simp only [List.length_modify])), Checked.bind_ok,
    storeAttr_eq (hattr _ (by decide) _ (by simp only [List.length_modify])), Checked.bind_ok,
    storeAttr_eq (hattr _ (by decide) _ (by simp only [List.length_modify]))]
  simp only [List.modify_modify_eq]
  rfl

theorem returns_store_iff : Returns (child.store iter db) ↔ iter < db.length ∨ child.Bare := by
  refine ⟨?_, fun h => ⟨_, store_eq h⟩⟩
  rintro ⟨db', h⟩
  refine Decidable.or_iff_not_imp_left.mpr fun hge => ?_
  obtain ⟨db1, h1, hrest⟩ := bind_eq_ok h
  obtain ⟨db2, h2, hrest⟩ := bind_eq_ok hrest
  obtain ⟨db3, h3, h4⟩ := bind_eq_ok hrest
  obtain ⟨hairflow, hdb1⟩ := eq_of_storeAttr hge h1
  rw [hdb1] at h2
  obtain ⟨hac, hdb2⟩ := eq_of_storeAttr hge h2
  rw [hdb2] at h3
  obtain ⟨hdc, hdb3⟩ := eq_of_storeAttr hge h3
  rw [hdb3] at h4
  obtain ⟨hpart, -⟩ := eq_of_storeAttr hge h4
  simp only [Bare, List.forall_mem_cons]
  exact ⟨hairflow, hac, hdc, hpart, nofun⟩

/-- What is stored for a child in an entry that is zero -/
theorem record_zero : child.record .zero = ⟨child.airFlow, child.powerType.acPower, child.powerType.dcPower,
    ((child.partNumber).getD []).take (partnoSize - 1)⟩ := by
  simp only [record, setAttr, airFlow, powerType, partNumber]
  cases child.attr "airflow_val" <;> cases child.attr "ac_type" <;> cases child.attr "dc_type" <;>
    cases child.attr "part_no" <;> rfl

end Child

/-! ## Filling the table -/

/-- The entries from `iter` on after the mappings have been stored -/
def recorded : List Child → (iter : Nat) → List MapEntry → List MapEntry
  | [], _, db => db
  | child :: children, iter, db => recorded children (iter + 1) (db.modify iter child.record)

theorem recorded_getElem?_of_lt (children : List Child) {iter i : Nat} (h : i < iter) (db : List MapEntry) :
    (recorded children iter db)[i]? = db[i]? := by
  induction children generalizing iter db with
  | nil => rfl
  | cons child children ih =>
      rw [recorded, ih (Nat.lt_succ_of_lt h), List.getElem?_modify_ne _ _ (Nat.ne_of_gt h)]

theorem recorded_getElem? {children : List Child} {child : Child} {k : Nat} (hk : children[k]? = some child)
    (iter : Nat) (db : List MapEntry) :
    (recorded children iter db)[iter + k]? = (db[iter + k]?).map child.record := by
  induction children generalizing iter db k with
  | nil => cases hk
  | cons first children ih =>
      cases k with
      | zero =>
          cases hk
          change (recorded children (iter + 1) (db.modify iter child.record))[iter]? = db[iter]?.map child.record
          rw [recorded_getElem?_of_lt _ (Nat.lt_succ_self iter), List.getElem?_modify_eq]
          rfl
      | succ k =>
          have hnext := ih hk (iter + 1) (db.modify iter first.record)
          rw [Nat.add_assoc, Nat.add_comm 1] at hnext
          rw [recorded, hnext, List.getElem?_modify_ne _ _ (by omega)]

theorem getElem?_forall_cons {α : Type} {a : α} {as : List α} {P : Nat → α → Prop} :
    (∀ k b, (a :: as)[k]? = some b → P k b) ↔ P 0 a ∧ ∀ k b, as[k]? = some b → P (k + 1) b := by
  constructor
  · exact fun h => ⟨h 0 a rfl, fun k b hk => h (k + 1) b hk⟩
  · rintro ⟨hzero, hsucc⟩ k b hk
    cases k with
    | zero =>
        cases hk
        exact hzero
    | succ k => exact hsucc k b hk

theorem returns_fill_iff (children : List Child) (iter : Nat) (db : List MapEntry) :
    Returns (fill children iter db) ↔
      ∀ k child, (mappings children)[k]? = some child → iter + k < db.length ∨ child.Bare := by
  induction children generalizing iter db with
  | nil => exact iff_of_true (returns_ok db) nofun
  | cons child children ih =>
      rw [fill, mappings, List.filter_cons]
      split
      · rw [returns_bind_and (P := ∀ k c, (mappings children)[k]? = some c → iter + (k + 1) < db.length ∨ c.Bare),
          child.returns_store_iff, getElem?_forall_cons]
        · exact Iff.rfl
        · intro db' hdb'
          have hlt := child.returns_store_iff.mp ⟨db', hdb'⟩
          have hlen : db'.length = db.length := by
            rw [child.store_eq hlt] at hdb'
            rw [← Except.ok.inj hdb', List.length_modify]
          rw [ih, hlen]
          simp only [Nat.add_assoc, Nat.add_comm 1]
      · exact ih iter db

theorem fill_eq (children : List Child) (iter : Nat) (db : List MapEntry) {db' : List MapEntry}
    (h : fill children iter db = .ok db') : db' = recorded (mappings children) iter db := by
  induction children generalizing iter db with
  | nil => exact (Except.ok.inj h).symm
  | cons child children ih =>
      rw [fill] at h
      rw [mappings, List.filter_cons]
      split at h
      · obtain ⟨db1, hstore, h⟩ := bind_eq_ok h
        rw [child.store_eq (child.returns_store_iff.mp ⟨db1, hstore⟩)] at hstore
        rw [if_pos ‹_›, recorded, Except.ok.inj hstore]
        exact ih (iter + 1) db1 h
      · rw [if_neg ‹_›]
        exact ih iter db h

/-! ## Finding a part number -/

variable {before : List MapEntry} {node : ConfigNode} {children : List Child} {db : List MapEntry}

theorem returns_partNumberMappingInfoGet_iff :
    Returns (partNumberMappingInfoGet before node children) ↔ Fits before node children := by
  rw [partNumberMappingInfoGet, returns_fill_iff, Fits, List.length_replicate]
  simp only [Nat.zero_add]

/-- What the table holds for a mapping that is in it -/
theorem table_getElem? (h : partNumberMappingInfoGet before node children = .ok db) {k : Nat} {child : Child}
    (hk : (mappings children)[k]? = some child) (hlt : k < maxPartNumType before node) :
    db[k]? = some ⟨child.airFlow, child.powerType.acPower, child.powerType.dcPower,
      ((child.partNumber).getD []).take (partnoSize - 1)⟩ := by
  have hget := recorded_getElem? hk 0 (List.replicate (maxPartNumType before node) .zero)
  rw [← fill_eq _ _ _ h, Nat.zero_add, List.getElem?_replicate_of_lt hlt] at hget
  rw [hget, Option.map_some, child.record_zero]

theorem sysPartNumberGet_eq (systemPartNumber : CharArray partNumLen) :
    sysPartNumberGet systemPartNumber = systemPartNumber.str := by
  have hlen := cstr_length_lt systemPartNumber.terminated
  rw [Vector.length_toList] at hlen
  exact List.take_of_length_le (Nat.le_sub_one_of_lt hlen)

theorem findIdx?_eq_some_iff {α : Type} {p : α → Bool} {as : List α} {i : Nat} :
    as.findIdx? p = some i ↔ (∃ a, as[i]? = some a ∧ p a = true) ∧ ∀ k < i, ∀ a, as[k]? = some a → p a = false := by
  rw [List.findIdx?_eq_some_iff_getElem]
  constructor
  · rintro ⟨hi, hp, hbefore⟩
    refine ⟨⟨as[i], List.getElem?_eq_getElem hi, hp⟩, fun k hk a ha => ?_⟩
    obtain ⟨hlt, rfl⟩ := List.getElem?_eq_some_iff.mp ha
    exact Bool.eq_false_iff.mpr (hbefore k hk)
  · rintro ⟨⟨a, ha, hp⟩, hbefore⟩
    obtain ⟨hi, rfl⟩ := List.getElem?_eq_some_iff.mp ha
    refine ⟨hi, hp, fun k hk => ?_⟩
    have hfalse := hbefore k hk _ (List.getElem?_eq_getElem (Nat.lt_trans hk hi))
    rw [hfalse]
    exact Bool.false_ne_true

theorem firstMapping_eq_some {partNo : List Byte} {j : Nat} (h : firstMapping children partNo = some j) :
    ∃ child, (mappings children)[j]? = some child ∧ child.partNumber = some partNo := by
  obtain ⟨⟨child, hj, hpart⟩, -⟩ := findIdx?_eq_some_iff.mp h
  exact ⟨child, hj, of_decide_eq_true hpart⟩

theorem Child.not_bare {child : Child} {partNo : List Byte} (h : child.partNumber = some partNo) : ¬child.Bare := by
  intro hbare
  rw [partNumber, hbare "part_no" (by decide)] at h
  cases h

/-- The search stops at the first mapping iff its part number is not cut and no part number is cut to it before. -/
theorem findIdx?_table_iff (h : partNumberMappingInfoGet before node children = .ok db) {partNo : List Byte} {j : Nat}
    {child : Child} (hj : (mappings children)[j]? = some child) (hpart : child.partNumber = some partNo) :
    db.findIdx? (fun entry => entry.partno = partNo) = some j ↔ partNo.length < partnoSize ∧
      ∀ k < j, ∀ child, (mappings children)[k]? = some child →
        ((child.partNumber).getD []).take (partnoSize - 1) ≠ partNo := by
  have hlt : j < maxPartNumType before node :=
    (returns_partNumberMappingInfoGet_iff.mp ⟨db, h⟩ j child hj).resolve_right (Child.not_bare hpart)
  have htake : partNo.take (partnoSize - 1) = partNo ↔ partNo.length < partnoSize := by
    rw [← Nat.le_sub_one_iff_lt (by decide : 0 < partnoSize)]
    refine ⟨fun heq => ?_, List.take_of_length_le⟩
    rw [← heq]
    exact List.length_take_le ..
  rw [findIdx?_eq_some_iff, table_getElem? h hj hlt, hpart, Option.getD_some, ← htake]
  refine and_congr ?_ (forall_congr' fun k => forall_congr' fun hk => ?_)
  · constructor
    · rintro ⟨entry, hentry, hmatch⟩
      cases hentry
      exact of_decide_eq_true hmatch
    · exact fun heq => ⟨_, rfl, decide_eq_true heq⟩
  · obtain ⟨hjlt, -⟩ := List.getElem?_eq_some_iff.mp hj
    have hget := List.getElem?_eq_getElem (Nat.lt_trans hk hjlt)
    have hentry := table_getElem? h hget (Nat.lt_trans hk hlt)
    constructor
    · intro hno child' hchild'
      obtain rfl := Option.some.inj (hget.symm.trans hchild')
      exact of_decide_eq_false (hno _ hentry)
    · intro hno entry' hentry'
      obtain rfl := Option.some.inj (hentry.symm.trans hentry')
      exact decide_eq_false (hno _ hget)

/-- Every part number that is mapped is found at its first mapping iff there is room for what is stored, the part
number has a NUL in its array, and no mapping before is cut to it. -/
theorem tabulated_iff (before : List MapEntry) (node : ConfigNode) (children : List Child)
    (systemPartNumber : CharArray partNumLen) : Tabulated before node children systemPartNumber ↔
      Fits before node children ∧ Distinguished children systemPartNumber.str := by
  rw [← returns_partNumberMappingInfoGet_iff]
  constructor
  · rintro ⟨db, hdb, htakes⟩
    refine ⟨⟨db, hdb⟩, fun j hfirst => ?_⟩
    obtain ⟨child, hj, hpart⟩ := firstMapping_eq_some hfirst
    have hfind := (htakes j child hfirst hj).1
    rw [sysPartNumberGet_eq] at hfind
    exact (findIdx?_table_iff hdb hj hpart).mp hfind
  · rintro ⟨⟨db, hdb⟩, hdistinguished⟩
    refine ⟨db, hdb, fun j child hfirst hj => ?_⟩
    obtain ⟨child', hj', hpart⟩ := firstMapping_eq_some hfirst
    obtain rfl := Option.some.inj (hj'.symm.trans hj)
    have hfind := (findIdx?_table_iff hdb hj hpart).mpr (hdistinguished j hfirst)
    have hlt : j < maxPartNumType before node :=
      (returns_partNumberMappingInfoGet_iff.mp ⟨db, hdb⟩ j child' hj).resolve_right (Child.not_bare hpart)
    rw [sysPartNumberGet_eq]
    refine ⟨hfind, fun data info hbased => ?_⟩
    rw [entityInfoDataGet, sysPartNumberGet_eq, if_pos hbased, takePartNumber, hfind, Option.bind_some,
      table_getElem? hdb hj hlt]

def sampleChild (partNo : String) : Child where
  name := some "part_no_mapping".toList
  attrs := [("part_no".toList, partNo.toList), ("airflow_val".toList, "1".toList)]
  named := rfl

def sampleSize (maxTypes : String) : ConfigNode :=
  ⟨some "entity_info".toList, [("max_part_no_types".toList, maxTypes.toList)]⟩

/-- A mapping for which there is no room, and a part number of nine characters -/
theorem not_tabulated_sample :
    ¬Tabulated [] (sampleSize "1") [sampleChild "0XD4WR", sampleChild "0N5R1H"] ⟨.replicate _ 0, by decide⟩ ∧
      ¬Tabulated [] (sampleSize "1") [sampleChild "012345678"]
        ⟨#v[0x30, 0x31, 0x32, 0x33, 0x34, 0x35, 0x36, 0x37, 0x38, 0], by decide⟩ := by
  constructor
  · rintro ⟨db, hdb, -⟩
    cases hdb
  · rintro ⟨db, hdb, htakes⟩
    cases hdb
    exact absurd (htakes 0 _ rfl rfl).1 (by decide)

end OpxSdi.Vdriver
