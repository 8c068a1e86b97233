import OpxSdi.Vmdb.Lemmas.Statement
import OpxSdi.Vmdb.StrField

/-!
# Which strings the VM database takes for themselves

A string denotes itself if the text that is printed into the buffer is a literal of it.
-/

namespace OpxSdi.Vmdb

open Lib Sql Buffer

/-! ## A library as it is documented -/

/-- The condition that is printed for the handle of the row. -/
def FieldRow.text (row : FieldRow) : List Byte :=
  bytesOf ResourceColumn.resourceHandle.name ++ bytesOf "=" ++ decimalInt row.resourceHandle

/-- The condition that is printed for the entity, the type and the alias of the row. -/
def AliasRow.text (row : AliasRow) : List Byte :=
  bytesOf "Entity_Handle = " ++ decimalInt (row.key .entityHandle) ++ bytesOf " AND Resource_Type = " ++
    decimalInt (row.key .resourceType) ++ bytesOf " AND Alias = " ++ literal row.aliasName

/-- It reads the value, and compares a condition with those of the rows. -/
def comparingLibrary : SqlLibrary where
  update call rows :=
    match readLiteral call.value with
    | some (value, []) =>
        (.ok (), rows.map fun row =>
          if call.condition = row.text then { row with fields := Function.update row.fields call.field.bytes value }
          else row)
    | _ => (.error .errno, rows)
  selects condition row := condition = row.text

theorem condText_eq_text {resHandle : Handle} {row : FieldRow} :
    condText resHandle = row.text ↔ row.resourceHandle = (uint resHandle).toNat := by
  rw [condText, FieldRow.text, List.append_cancel_left_eq, eq_comm, decimalInt_eq_decimal]

theorem space_notMem_decimal (n : Nat) : 0x20 ∉ decimal n := fun h => by cases isdigit_of_mem_decimal h

theorem space_notMem_decimalInt (v : Int) : 0x20 ∉ decimalInt v := by
  rw [decimalInt]
  split
  · rw [List.mem_cons, not_or]
    exact ⟨by decide, space_notMem_decimal _⟩
  · exact space_notMem_decimal _

theorem aliasPrefix_eq (entityHandle : Handle) (resourceType : BitVec 32) : aliasPrefix entityHandle resourceType =
    bytesOf "Entity_Handle = " ++ (decimal (uint entityHandle).toNat ++ 0x20 :: (bytesOf "AND Resource_Type = " ++
      (decimal resourceType.toNat ++ 0x20 :: bytesOf "AND Alias = "))) := by
  simp only [aliasPrefix, ofEntity, List.map_cons, List.map_nil, List.intercalate, List.intersperse, List.flatten_cons,
    List.flatten_nil, List.append_nil, Term.text, List.append_assoc]
  rfl

theorem AliasRow.text_eq (row : AliasRow) : row.text =
    bytesOf "Entity_Handle = " ++ (decimalInt (row.key .entityHandle) ++ 0x20 :: (bytesOf "AND Resource_Type = " ++
      (decimalInt (row.key .resourceType) ++ 0x20 :: (bytesOf "AND Alias = " ++ literal row.aliasName)))) := by
  simp only [AliasRow.text, List.append_assoc]
  rfl

theorem AliasRow.hasAlias_iff {entityHandle : Handle} {resourceType : BitVec 32} {value : List Byte} {row : AliasRow} :
    AliasRow.hasAlias entityHandle resourceType value row = true ↔
      row.key .entityHandle = (uint entityHandle).toNat ∧ row.key .resourceType = resourceType.toNat ∧
        row.aliasName = value := by
  simp only [AliasRow.hasAlias, ofEntity, List.all_cons, List.all_nil, Term.holds, Bool.and_true, Bool.and_eq_true,
    decide_eq_true_eq, and_assoc]

theorem aliasText_eq_text {entityHandle : Handle} {resourceType : BitVec 32} {value : List Byte} {row : AliasRow} :
    aliasPrefix entityHandle resourceType ++ literal value = row.text ↔
      AliasRow.hasAlias entityHandle resourceType value row = true := by
  rw [AliasRow.hasAlias_iff, aliasPrefix_eq, AliasRow.text_eq]
  simp only [List.append_assoc, List.cons_append, List.append_cancel_left_eq]
  constructor
  · intro h
    obtain ⟨hentity, hrest⟩ := cut_injective (space_notMem_decimal _) (space_notMem_decimalInt _) h
    obtain ⟨htype, hrest⟩ := cut_injective (space_notMem_decimal _) (space_notMem_decimalInt _)
      (List.append_cancel_left hrest)
    exact ⟨decimalInt_eq_decimal.mp hentity.symm, decimalInt_eq_decimal.mp htype.symm,
      (literal_inj.mp (List.append_cancel_left hrest)).symm⟩
  · rintro ⟨hentity, htype, rfl⟩
    rw [decimalInt_eq_decimal.mpr hentity, decimalInt_eq_decimal.mpr htype]

/-- There is a library that does with well-formed literals what SQL says. -/
theorem comparingLibrary_documented (table field : Name) : comparingLibrary.Documented table field := by
  constructor
  · intro resHandle text value rows rows' hvalue h
    simp only [comparingLibrary, show readLiteral text = some (value, []) from hvalue] at h
    rw [← (Prod.mk.inj h).2]
    refine List.map_congr_left fun row _ => ?_
    rw [assign]
    exact if_congr condText_eq_text rfl rfl
  · intro entityHandle resourceType text value row hvalue
    obtain rfl := literal_iff.mp hvalue
    rw [Bool.eq_iff_iff, ← aliasText_eq_text]
    exact decide_eq_true_iff

/-! ## The texts that are printed -/

theorem zero_notMem_quotedText (value : Name) : 0 ∉ quotedText value := by
  simp only [quotedText, List.mem_cons, List.mem_append, List.not_mem_nil, or_false, not_or]
  exact ⟨by decide, value.nul_free, by decide⟩

/-! ## Setting a string -/

theorem dbStrFieldSet_eq (resHandle : Handle) (table field value : Name) :
    dbStrFieldSet resHandle table field value = .ok (.ok
      ⟨table, field, (quotedText value).take (sqlDefaultBufferLength - 1), condText resHandle⟩) := by
  obtain ⟨condition, hcondition, -, hcond⟩ := snprintf_fresh (n := sqlDefaultBufferLength) (by decide)
    (zero_notMem_condText resHandle)
  obtain ⟨valueStr, hvalueStr, -, hvalue⟩ := snprintf_fresh (n := sqlDefaultBufferLength) (by decide)
    (zero_notMem_quotedText value)
  have hlen := (length_condText resHandle).2
  rw [List.take_of_length_le (by rw [sqlDefaultBufferLength]; omega)] at hcond
  simp only [dbStrFieldSet, dbCondResourceHandle, hcondition, hvalueStr, Checked.bind_ok, hvalue.string_eq,
    hcond.string_eq]
  rfl

theorem storesString_iff (resHandle : Handle) (table field value : Name) :
    StoresString resHandle table field value ↔
      quote ∉ value.bytes ∧ value.bytes.length + 2 < sqlDefaultBufferLength := by
  have hliteral : Literal ((quotedText value).take (sqlDefaultBufferLength - 1)) value.bytes ↔
      quote ∉ value.bytes ∧ value.bytes.length + 2 < sqlDefaultBufferLength := by
    have h := @take_quoted_eq_iff [] value.bytes (sqlDefaultBufferLength - 1)
    rw [List.nil_append, List.nil_append, List.length_nil, Nat.zero_add] at h
    exact literal_iff.trans (h.trans (and_congr_right fun _ => Nat.le_sub_one_iff_lt (by decide)))
  rw [← hliteral]
  constructor
  · rintro (⟨rc, h⟩ | ⟨call, h, hcall, -⟩)
    · rw [dbStrFieldSet_eq] at h
      cases h
    · rw [dbStrFieldSet_eq] at h
      cases h
      exact hcall
  · intro h
    refine .inr ⟨_, dbStrFieldSet_eq .., h, fun lib hlib rows rows' hupdate => ?_⟩
    exact hlib.update _ _ _ rows rows' h hupdate

/-! ## Looking up an alias -/

theorem zero_notMem_aliasPrefix (entityHandle : Handle) (resourceType : BitVec 32) :
    0 ∉ aliasPrefix entityHandle resourceType := by
  have hterm : ∀ t : Term ResourceColumn, t ∈ ofEntity entityHandle resourceType →
      0 ∉ t.text ResourceColumn.name := by
    intro t ht
    simp only [ofEntity, List.mem_cons, List.not_mem_nil, or_false] at ht
    rcases ht with rfl | rfl
    · simp only [Term.text, List.mem_append, not_or]
      exact ⟨⟨by decide, by decide⟩, zero_notMem_decimal _⟩
    · simp only [Term.text, List.mem_append, not_or]
      exact ⟨⟨by decide, by decide⟩, zero_notMem_decimal _⟩
  simp only [aliasPrefix, ofEntity, List.map_cons, List.map_nil, List.intercalate, List.intersperse, List.flatten_cons,
    List.flatten_nil, List.mem_append, List.append_nil, not_or]
  exact ⟨⟨hterm _ List.mem_cons_self, by decide, hterm _ (List.mem_cons_of_mem _ List.mem_cons_self)⟩, by decide⟩

theorem aliasCondition_eq (entityHandle : Handle) (resourceType : BitVec 32) (aliasName : Name) :
    aliasCondition entityHandle resourceType aliasName = .ok (.ok
      ((aliasPrefix entityHandle resourceType ++ quotedText aliasName).take (sqlDefaultBufferLength - 1))) := by
  have hzero : 0 ∉ aliasPrefix entityHandle resourceType ++ quotedText aliasName := by
    rw [List.mem_append, not_or]
    exact ⟨zero_notMem_aliasPrefix entityHandle resourceType, zero_notMem_quotedText aliasName⟩
  obtain ⟨condition, hcondition, -, hcond⟩ := snprintf_fresh (n := sqlDefaultBufferLength) (by decide) hzero
  simp only [aliasCondition, hcondition, Checked.bind_ok, hcond.string_eq]
  rfl

theorem findsAlias_iff (entityHandle : Handle) (resourceType : BitVec 32) (aliasName : Name) :
    FindsAlias entityHandle resourceType aliasName ↔ quote ∉ aliasName.bytes ∧
      (aliasPrefix entityHandle resourceType).length + aliasName.bytes.length + 2 < sqlDefaultBufferLength := by
  have hliteral := @take_quoted_eq_iff (aliasPrefix entityHandle resourceType) aliasName.bytes
    (sqlDefaultBufferLength - 1)
  rw [Nat.le_sub_one_iff_lt (by decide)] at hliteral
  rw [← hliteral]
  constructor
  · rintro (⟨rc, h⟩ | ⟨text, h, htext, -⟩)
    · rw [aliasCondition_eq] at h
      cases h
    · rw [aliasCondition_eq, literal_iff.mp htext] at h
      exact Except.ok.inj (Except.ok.inj h)
  · intro h
    have hcondition := aliasCondition_eq entityHandle resourceType aliasName
    rw [quotedText, h] at hcondition
    refine .inr ⟨_, hcondition, literal_iff.mpr rfl, fun lib table field hlib rows => ?_⟩
    rw [dbGetResourceHandleByAlias, hcondition, Checked.bind_ok]
    refine congrArg (fun selects => (.ok (firstHandle selects rows) : Checked (Except TStdError Handle))) ?_
    exact funext fun row => hlib.selects _ _ _ _ row (literal_iff.mpr rfl)

/-- A string or an alias denotes itself iff it has no quote and fits in its buffer with its quotes. -/
theorem strings_iff (resHandle : Handle) (table field value : Name) (entityHandle : Handle)
    (resourceType : BitVec 32) (aliasName : Name) :
    (StoresString resHandle table field value ↔
      quote ∉ value.bytes ∧ value.bytes.length + 2 < sqlDefaultBufferLength) ∧
    (FindsAlias entityHandle resourceType aliasName ↔ quote ∉ aliasName.bytes ∧
      (aliasPrefix entityHandle resourceType).length + aliasName.bytes.length + 2 < sqlDefaultBufferLength) :=
  ⟨storesString_iff .., findsAlias_iff ..⟩

/-- A string that is one quote -/
theorem not_storesString_quote :
    ¬StoresString 1 ⟨bytesOf "Entity_Resource", by decide⟩ ⟨bytesOf "Alias", by decide⟩ ⟨[quote], by decide⟩ := by
  rw [storesString_iff]
  decide

end OpxSdi.Vmdb
