import OpxSdi.Vmdb.DbOps

/-!
# What each lookup of the VM database returns
-/

namespace OpxSdi.Vmdb

open Lib Sql

/-! ## Numbers as handles -/

/-- What a later query sees of a number in the database. -/
def low (v : Int) : BitVec 32 := BitVec.ofInt 32 v

def handleOf (v : Int) : Handle := toHandle (low v)

@[simp] theorem low_natCast (v : BitVec 32) : low v.toNat = v := by
  rw [low, BitVec.ofInt_natCast, BitVec.ofNat_toNat, BitVec.setWidth_eq]

theorem toNat_low {v : Int} (h0 : 0 ≤ v) (h : v < 2 ^ 32) : ((low v).toNat : Int) = v := by
  rw [low, BitVec.toNat_ofInt]
  omega

@[simp] theorem uint_toHandle (hdl : BitVec 32) : uint (toHandle hdl) = hdl := by
  ext i hi
  simp [uint, toHandle, BitVec.getLsbD_signExtend, hi]
  omega

theorem toHandle_inj {x y : BitVec 32} : toHandle x = toHandle y ↔ x = y :=
  ⟨fun h => by rw [← uint_toHandle x, h, uint_toHandle], congrArg toHandle⟩

theorem toHandle_zero : toHandle 0 = null := by decide

theorem toNat_toHandle (x : BitVec 32) :
    (toHandle x).toNat = x.toNat + if 2 ^ 31 ≤ x.toNat then 2 ^ 64 - 2 ^ 32 else 0 := by
  rw [toHandle, BitVec.toNat_signExtend, BitVec.toNat_setWidth, BitVec.msb_eq_decide]
  simp
  omega

theorem toHandle_lt {x y : BitVec 32} : toHandle x < toHandle y ↔ x < y := by
  rw [BitVec.lt_def, BitVec.lt_def, toNat_toHandle, toNat_toHandle]
  split <;> split <;> omega

/-! ## Conditions -/

theorem length_decimal_uint (v : BitVec 32) : (decimal v.toNat).length ≤ 10 :=
  length_decimal_le (by decide) (by omega)

theorem length_words :
    "Entity_Handle".length = 13 ∧ "Resource_Handle".length = 15 ∧ "Resource_Type".length = 13 ∧
      " = ".length = 3 ∧ " > ".length = 3 ∧ " AND ".length = 5 ∧ " ".length = 1 ∧ "ORDER BY ".length = 9 ∧
      "LIMIT ".length = 6 ∧ "OFFSET ".length = 7 ∧ (decimal 1).length = 1 := by
  decide

/-- No condition is cut off in its buffer. -/
theorem infoConditions_fit (hdl : BitVec 32) :
    ∀ c ∈ [firstEntityCondition, nextEntityCondition hdl],
      (c.text InfoColumn.name).length < sqlDefaultBufferLength := by
  have hhdl := length_decimal_uint hdl
  have hwords := length_words
  simp [Condition.text, Condition.clauses, firstEntityCondition, nextEntityCondition, List.intercalate,
    List.intersperse, Term.text, Rel.text, InfoColumn.name, sqlDefaultBufferLength]
  omega

theorem resourceConditions_fit (hdl : Handle) (type n : BitVec 32) :
    ∀ c ∈ [resourceCountCondition hdl type, firstResourceCondition hdl type, nextResourceCondition hdl type n,
        instanceCondition hdl type n, parentEntityCondition hdl type],
      (c.text ResourceColumn.name).length < sqlDefaultBufferLength := by
  have hhdl := length_decimal_uint (uint hdl)
  have htype := length_decimal_uint type
  have hn := length_decimal_uint n
  have hoffset := length_decimal_uint (n - 1#32)
  have hwords := length_words
  simp [-BitVec.toNat_sub, Condition.text, Condition.clauses, resourceCountCondition, firstResourceCondition,
    nextResourceCondition, instanceCondition, parentEntityCondition, ofEntity, List.intercalate, List.intersperse,
    Term.text, Rel.text, ResourceColumn.name, sqlDefaultBufferLength]
  omega

/-! ## Lookups -/

section

variable {κ : Type}

theorem mem_select {k : κ} {c : Condition κ} {rows : List (Row κ)} {v : Int}
    (h : v ∈ select (.column k) c rows) : ∃ r ∈ rows, r k = v := by
  have hwindow : (select (.column k) c rows).Sublist ((c.ordered (c.filtered rows)).map (· k)) := by
    simp only [select, Condition.window]
    split
    · exact List.drop_sublist _ _
    · exact (List.take_sublist _ _).trans (List.drop_sublist _ _)
  obtain ⟨r, hr, rfl⟩ := List.mem_map.mp (hwindow.mem h)
  have hfiltered : r ∈ c.filtered rows := by
    rw [Condition.ordered] at hr
    split at hr
    · exact hr
    · exact (List.mem_insertionSort _).mp hr
  exact ⟨r, List.mem_of_mem_filter hfiltered, rfl⟩

theorem dbStrtol_decimalInt {v : Int} (hmin : longMin ≤ v) (hmax : v ≤ longMax) :
    dbStrtol (decimalInt v) = .ok (low v) := by
  rw [dbStrtol, strtol_decimalInt hmin hmax]
  rfl

theorem dbGetHandle_eq (table : Table κ) (k : κ) (c : Condition κ) :
    dbGetHandle table k c = (select (.column k) c table.rows).head?.elim (.error .errno) fun v => .ok (handleOf v) := by
  rw [dbGetHandle, dbSqlGetAttribute]
  cases hsel : (select (.column k) c table.rows).head? with
  | none => rfl
  | some v =>
      obtain ⟨r, hr, rfl⟩ := mem_select (List.mem_of_head? hsel)
      obtain ⟨hmin, hmax⟩ := table.int64 r hr k
      change (dbStrtol (decimalInt (r k)) >>= fun hdl => Except.ok (toHandle hdl)) = _
      rw [dbStrtol_decimalInt hmin hmax]
      rfl

theorem orNull_dbGetHandle (table : Table κ) (k : κ) (c : Condition κ) :
    orNull (dbGetHandle table k c) = toHandle (((select (.column k) c table.rows).head?.map low).getD 0) := by
  rw [dbGetHandle_eq]
  cases (select (.column k) c table.rows).head? with
  | none => exact toHandle_zero.symm
  | some v => rfl

theorem head?_select_first {k : κ} {c : Condition κ} {rows : List (Row κ)} (hby : c.orderBy = some k)
    (hlimit : c.limit = some 1) (hoffset : c.offset = none) :
    (select (.column k) c rows).head? = (keys k c.terms rows).head? := by
  rw [select_ordered c hby, Condition.window, hlimit, hoffset]
  cases keys k c.terms rows <;> rfl

theorem head?_select_offset {k : κ} {c : Condition κ} {rows : List (Row κ)} {o : BitVec 32}
    (hby : c.orderBy = some k) (hlimit : c.limit = some 1) (hoffset : c.offset = some o) :
    (select (.column k) c rows).head? = (keys k c.terms rows)[o.toNat]? := by
  rw [select_ordered c hby, Condition.window, hlimit, hoffset, List.head?_take, if_neg Nat.one_ne_zero,
    List.head?_drop]
  rfl

theorem head?_select_unordered {k : κ} {c : Condition κ} {rows : List (Row κ)} (hby : c.orderBy = none)
    (hlimit : c.limit = none) (hoffset : c.offset = none) :
    (select (.column k) c rows).head? = (rows.find? fun r => c.terms.all (·.holds r)).map (· k) := by
  rw [select, Condition.window, hlimit, hoffset, Condition.ordered, hby, ← List.head?_filter]
  exact List.head?_map

end

/-! ## Entities -/

def Database.entityHandles (db : Database) : List Int := keys .entityHandle [] db.info.rows

variable (db : Database)

theorem entityFindFirst_eq : entityFindFirst db = toHandle ((db.entityHandles.head?.map low).getD 0) := by
  rw [entityFindFirst, dbGetFirstEntity, orNull_dbGetHandle, head?_select_first rfl rfl rfl]
  rfl

theorem entityFindNext_eq (address : BitVec 64) (hdl : Handle) :
    entityFindNext db address hdl =
      toHandle (((db.entityHandles.find? fun v => decide (((uint address).toNat : Int) < v)).map low).getD 0) := by
  have hkeys := keys_above .entityHandle [] db.info.rows (uint address)
  rw [entityFindNext, dbGetNextEntity, orNull_dbGetHandle, head?_select_first rfl rfl rfl, ← List.head?_filter,
    Database.entityHandles, ← hkeys]
  rfl

theorem entityHandles_pairwise : db.entityHandles.Pairwise (· < ·) := pairwise_keys db.info.nodup

theorem mem_entityHandles {v : Int} : v ∈ db.entityHandles ↔ ∃ r ∈ db.info.rows, r .entityHandle = v := by
  simp [Database.entityHandles, mem_keys]

theorem entityHandles_range {v : Int} (h : v ∈ db.entityHandles) : 0 < v ∧ v < 2 ^ 31 := by
  obtain ⟨r, hr, rfl⟩ := (mem_entityHandles db).mp h
  exact ⟨db.info.pos r hr, db.info.lt r hr⟩

/-! ## Resources -/

namespace ResourceTable

variable (t : ResourceTable) (type : BitVec 32)

/-- The handles of the resources of a type in the entity that is numbered `entity`. -/
def handles (entity : BitVec 32) : List Int :=
  keys .resourceHandle [⟨.entityHandle, .eq, entity⟩, ⟨.resourceType, .eq, type⟩] t.rows

def rowOf (cursor : BitVec 32) : Option (Row ResourceColumn) :=
  t.rows.find? fun r => r .resourceHandle = (cursor.toNat : Int) ∧ r .resourceType = (type.toNat : Int)

/-- The next handle of the type in the entity of the resource that a cursor stands for. -/
def after (cursor : BitVec 32) : Option Int :=
  (t.rowOf type cursor).bind fun r =>
    (t.handles type (low (r .entityHandle))).find? fun v => decide ((cursor.toNat : Int) < v)

variable {t type} {entity : BitVec 32} {v : Int}

theorem mem_handles : v ∈ t.handles type entity ↔
    ∃ r ∈ t.rows, r .entityHandle = (entity.toNat : Int) ∧ r .resourceType = (type.toNat : Int) ∧
      r .resourceHandle = v := by
  simp [handles, mem_keys, Term.holds, and_assoc]

theorem handles_pos (h : v ∈ t.handles type entity) : 0 < v := by
  obtain ⟨r, hr, -, -, rfl⟩ := mem_handles.mp h
  exact t.pos r hr

theorem handles_pairwise : (t.handles type entity).Pairwise (· < ·) := pairwise_keys t.nodup

/-- A number that fits a cursor is found in its own row. -/
theorem rowOf_low (h : v ∈ t.handles type entity) (hlt : v < 2 ^ 32) :
    ∃ r, t.rowOf type (low v) = some r ∧ r .entityHandle = (entity.toNat : Int) := by
  have hv := toNat_low (Int.le_of_lt (handles_pos h)) hlt
  obtain ⟨r, hr, hentity, htype, hhandle⟩ := mem_handles.mp h
  have hfound : (t.rowOf type (low v)).isSome :=
    List.find?_isSome.mpr ⟨r, hr, by simp [hv, hhandle, htype]⟩
  obtain ⟨r', hr'⟩ := Option.isSome_iff_exists.mp hfound
  have hhandle' : r' .resourceHandle = v ∧ r' .resourceType = (type.toNat : Int) := by
    simpa [hv] using List.find?_some hr'
  have heq : r' = r :=
    List.inj_on_of_nodup_map t.nodup (List.mem_of_find?_eq_some hr') hr (hhandle'.1.trans hhandle.symm)
  exact ⟨r', hr', heq ▸ hentity⟩

end ResourceTable

theorem holds_ofEntity (hdl : Handle) (type : BitVec 32) (resources : ResourceTable) :
    keys .resourceHandle (ofEntity hdl type) resources.rows = resources.handles type (uint hdl) := rfl

theorem dbGetResourceCount_eq (hdl : Handle) (type : BitVec 32) :
    dbGetResourceCount db hdl type = .ok (BitVec.ofNat 32 (db.resources.handles type (uint hdl)).length) := by
  have hlen : ((db.resources.handles type (uint hdl)).length : Int) < 2 ^ 63 := by
    refine length_lt_of_nodup (by decide) (nodup_keys db.resources.nodup) (fun v => ResourceTable.handles_pos)
      fun v hv => ?_
    obtain ⟨r, hr, -, -, rfl⟩ := ResourceTable.mem_handles.mp hv
    have := (db.resources.int64 r hr .resourceHandle).2
    rw [longMax] at this
    omega
  have hselect : select .count (resourceCountCondition hdl type) db.resources.rows =
      [((db.resources.handles type (uint hdl)).length : Int)] := by
    rw [← holds_ofEntity, length_keys]
    rfl
  rw [dbGetResourceCount, dbSqlGetAttribute, hselect]
  change dbStrtol (decimalInt _) = _
  rw [dbStrtol_decimalInt (by rw [longMin]; omega) (by rw [longMax]; omega), low, BitVec.ofInt_natCast]

theorem entityResourceCountGet_eq (hdl : Handle) (type : BitVec 32) :
    entityResourceCountGet db hdl type = BitVec.ofNat 32 (db.resources.handles type (uint hdl)).length := by
  rw [entityResourceCountGet, dbGetResourceCount_eq]

theorem dbGetResourceHandle_eq (hdl : Handle) (type : BitVec 32) {i : Nat} (hi : i < 2 ^ 32 - 1) :
    dbGetResourceHandle db hdl type (BitVec.ofNat 32 (i + 1)) =
      (db.resources.handles type (uint hdl))[i]?.elim (.error .errno) fun v => .ok (handleOf v) := by
  have hoffset : (BitVec.ofNat 32 (i + 1) - 1).toNat = i := by
    rw [BitVec.toNat_sub_of_le] <;> simp [BitVec.le_def] <;> omega
  rw [dbGetResourceHandle, dbGetHandle_eq, head?_select_offset rfl rfl rfl, hoffset]
  rfl

theorem entityGetFirstResource_eq (hdl : Handle) (type : BitVec 32) :
    entityGetFirstResource db hdl type =
      toHandle (((db.resources.handles type (uint hdl)).head?.map low).getD 0) := by
  rw [entityGetFirstResource, dbGetFirstResource, orNull_dbGetHandle, head?_select_first rfl rfl rfl]
  rfl

theorem dbResourceGetParentEntity_eq (hdl : Handle) (type : BitVec 32) :
    dbResourceGetParentEntity db hdl type =
      (db.resources.rowOf type (uint hdl)).elim (.error .errno) fun r => .ok (handleOf (r .entityHandle)) := by
  have hrow : (db.resources.rows.find? fun r => (parentEntityCondition hdl type).terms.all (·.holds r)) =
      db.resources.rowOf type (uint hdl) := by
    simp [ResourceTable.rowOf, parentEntityCondition, Term.holds]
  rw [dbResourceGetParentEntity, dbGetHandle_eq, head?_select_unordered rfl rfl rfl, hrow]
  cases db.resources.rowOf type (uint hdl) <;> rfl

theorem orNull_dbGetNextResource (hdl : Handle) (type : BitVec 32) (cursor : Reference) :
    orNull (dbGetNextResource db hdl type cursor) =
      toHandle ((((db.resources.handles type (uint hdl)).find? fun v =>
        decide (((uint cursor.value).toNat : Int) < v)).map low).getD 0) := by
  have hkeys := keys_above .resourceHandle (ofEntity hdl type) db.resources.rows (uint cursor.value)
  rw [dbGetNextResource, orNull_dbGetHandle, head?_select_first rfl rfl rfl, ← List.head?_filter,
    ← holds_ofEntity, ← hkeys]
  rfl

/-- The cursor alone decides which resource is next, wherever it is kept. -/
theorem entityGetNextResource_eq (address : BitVec 64) (hdl : Handle) (type : BitVec 32) :
    entityGetNextResource db address hdl type =
      toHandle (((db.resources.after type (uint hdl)).map low).getD 0) := by
  rw [entityGetNextResource, dbResourceGetParentEntity_eq, ResourceTable.after]
  cases db.resources.rowOf type (uint hdl) with
  | none => exact toHandle_zero.symm
  | some r =>
      have hnext := orNull_dbGetNextResource db (handleOf (r .entityHandle)) type ⟨address, hdl⟩
      rw [handleOf, uint_toHandle] at hnext
      exact hnext

end OpxSdi.Vmdb
