import Mathlib.Data.List.TakeWhile
import OpxSdi.Lib.Acts
import OpxSdi.Onie.Lemmas.Fill
import OpxSdi.Onie.VendorGrammar

/-!
# Values that are not in a format

A member is written as soon as its part has been read. So a value whose type is read changes the entity
info, also if something after the type is not as the format has it.
-/

namespace OpxSdi.Onie

open Lib

variable {entity : ExtnEntity} {info : EntityInfo} {tokens rest : List (List Byte)} {part value : List Byte}
  {E : Ext} {t : Tlv}

/-! ## The steps -/

theorem out_parseStringNext : Acts.out parseStringNext ⟨info, part :: rest⟩ = (.ok part, ⟨info, rest⟩) := rfl

theorem out_parseStringNext_nil : Acts.out parseStringNext ⟨info, []⟩ = (.error prematureEnd, ⟨info, []⟩) := rfl

theorem out_setMaxSpeed : Acts.out (setMaxSpeed part) ⟨info, tokens⟩ =
    (.ok (), ⟨{ info with maxSpeed := numberOf part }, tokens⟩) := rfl

theorem out_setNumFans : Acts.out (setNumFans part) ⟨info, tokens⟩ =
    (.ok (), ⟨{ info with numFans := numberOf part }, tokens⟩) := rfl

/-- The flag of the input that a type stands for is set, and the other flag stays as it is. -/
def inputAdded (entity : ExtnEntity) (type : Nat) (before : PowerType) : PowerType :=
  match entity.powerType type with
  | some p => ⟨before.acPower || p.acPower, before.dcPower || p.dcPower⟩
  | none => before

theorem inputAdded_eq_iff {type : Nat} {before : PowerType} :
    inputAdded entity type before = (entity.powerType type).getD before ↔ OnlyInput entity type before := by
  rw [inputAdded, OnlyInput]
  cases entity.powerType type with
  | none => exact ⟨fun _ p hp => absurd hp (Option.some_ne_none p).symm, fun _ => rfl⟩
  | some p =>
      simp only [Option.getD_some, Option.some.injEq, forall_eq']
      obtain ⟨ac, dc⟩ := p
      simp only [PowerType.mk.injEq, Bool.or_eq_right_iff_imp]

/-- The entity info once its type is read -/
def typed (entity : ExtnEntity) (type : Nat) (flow : AirFlow) (info : EntityInfo) : EntityInfo :=
  { info with powerType := inputAdded entity type info.powerType, airFlow := flow }

theorem setEntityType_ok {v : BitVec 32} {flow : AirFlow} (h : entity.airFlow v.toNat = some flow) :
    Acts.out (setEntityType entity.parserType v) ⟨info, tokens⟩ = (.ok (), ⟨typed entity v.toNat flow info, tokens⟩) := by
  simp only [setEntityType, typed]
  generalize v.toNat = n at h
  cases entity <;> rcases n with _ | _ | _ | _ | n <;> cases h <;>
    simp only [inputAdded, ExtnEntity.powerType, Bool.or_true, Bool.or_false] <;> rfl

theorem setEntityType_error (info : EntityInfo) (tokens : List (List Byte)) {v : BitVec 32} (h : entity.airFlow v.toNat = none) :
    ∃ errMesg, Acts.out (setEntityType entity.parserType v) ⟨info, tokens⟩ = (.error errMesg, ⟨info, tokens⟩) := by
  simp only [setEntityType]
  generalize v.toNat = n at h
  cases entity <;> rcases n with _ | _ | _ | _ | n <;> cases h <;> exact ⟨_, rfl⟩

/-- The parts up to the type -/
def parseType (parserType : EntityParser) : ExtnM Unit := do
  let value ← parseStringNext
  let value ← skipEntityWord parserType value
  setEntityType parserType (numberOf value)

def checkTerminator (vendorExtn : List Byte) : ExtnM Unit :=
  match strrchr (cstr (vendorExtn.drop ianaNum.length)) 0x2d with
  | none => throw prematureEnd
  | some value => if value = bytesOf "-FF" then return else throw invalidFmt

/-- The parts after the type -/
def parseNumbers (vendorExtn : List Byte) : ExtnM Unit := do
  let value ← parseStringNext
  if value = bytesOf "MAXRPM" then
    setMaxSpeed (← parseStringNext)
  else
    setNumFans value
  let value ← parseStringNext
  if value = bytesOf "FANS" then
    setNumFans (← parseStringNext)
  else
    setMaxSpeed value
  checkTerminator vendorExtn

theorem parseVendorExtn_eq (parserType : EntityParser) (vendorExtn : List Byte) :
    parseVendorExtn parserType vendorExtn = parseType parserType >>= fun _ => parseNumbers vendorExtn := by
  rw [parseVendorExtn, parseType, parseNumbers, bind_assoc]
  refine bind_congr fun value => ?_
  rw [bind_assoc]
  rfl

theorem checkTerminator_state (vendorExtn : List Byte) (s : ExtnState) :
    (Acts.out (checkTerminator vendorExtn) s).2 = s := by
  rw [checkTerminator]
  split
  · rfl
  · split <;> rfl

/-! ## The parts up to the type -/

theorem skipEntityWord_other (h : ¬(part = ExtnEntity.fantray.word ∨ part = ExtnEntity.psu.word)) :
    skipEntityWord entity.parserType part = pure part := if_neg h

theorem skipEntityWord_word (h : part = ExtnEntity.fantray.word ∨ part = ExtnEntity.psu.word) :
    skipEntityWord entity.parserType part = if part = entity.word then parseStringNext else throw typeMismatch := by
  have hne : ExtnEntity.fantray.word ≠ ExtnEntity.psu.word := by decide
  refine (if_pos h).trans ?_
  cases entity <;> obtain rfl | rfl := h
  · exact (if_pos (.inl ⟨rfl, by decide⟩)).trans (if_neg hne).symm
  · exact (if_neg (by decide)).trans (if_pos rfl).symm
  · exact (if_neg (by decide)).trans (if_pos rfl).symm
  · exact (if_pos (.inr ⟨rfl, by decide⟩)).trans (if_neg hne.symm).symm

/-- The type is read, or the entity info is as it was. -/
theorem parseType_cases (entity : ExtnEntity) (tokens : List (List Byte)) (info : EntityInfo) :
    (∃ part flow rest, typePart entity tokens = some part ∧ entity.airFlow (numberOf part).toNat = some flow ∧
      Acts.out (parseType entity.parserType) ⟨info, tokens⟩ =
        (.ok (), ⟨typed entity (numberOf part).toNat flow info, rest⟩)) ∨
    ((∀ part, typePart entity tokens = some part → entity.airFlow (numberOf part).toNat = none) ∧
      ∃ errMesg rest, Acts.out (parseType entity.parserType) ⟨info, tokens⟩ = (.error errMesg, ⟨info, rest⟩)) := by
  have hread : ∀ part rest, (∃ part' flow rest', some part = some part' ∧
      entity.airFlow (numberOf part').toNat = some flow ∧
        Acts.out (setEntityType entity.parserType (numberOf part)) ⟨info, rest⟩ =
          (.ok (), ⟨typed entity (numberOf part').toNat flow info, rest'⟩)) ∨
      ((∀ part', some part = some part' → entity.airFlow (numberOf part').toNat = none) ∧
        ∃ errMesg rest', Acts.out (setEntityType entity.parserType (numberOf part)) ⟨info, rest⟩ =
          (.error errMesg, ⟨info, rest'⟩)) := by
    intro part rest
    cases hflow : entity.airFlow (numberOf part).toNat with
    | some flow => exact .inl ⟨part, flow, rest, rfl, hflow, setEntityType_ok hflow⟩
    | none =>
        obtain ⟨errMesg, herr⟩ := setEntityType_error info rest hflow
        exact .inr ⟨fun part' h => Option.some.inj h ▸ hflow, errMesg, rest, herr⟩
  cases tokens with
  | nil => exact .inr ⟨fun part h => (Option.some_ne_none part h.symm).elim, _, [], Acts.out_bind_error out_parseStringNext_nil⟩
  | cons part rest =>
      rw [parseType, Acts.out_bind_ok out_parseStringNext, typePart]
      split
      · rename_i hword
        rw [skipEntityWord_word hword]
        split
        · cases rest with
          | nil =>
              refine .inr ⟨fun part' h => (Option.some_ne_none part' h.symm).elim, prematureEnd, [], ?_⟩
              exact Acts.out_bind_error out_parseStringNext_nil
          | cons part' rest =>
              rw [Acts.out_bind_ok out_parseStringNext]
              exact hread part' rest
        · exact .inr ⟨fun part' h => (Option.some_ne_none part' h.symm).elim, _, rest, rfl⟩
      · rename_i hword
        rw [skipEntityWord_other hword, pure_bind]
        exact hread part rest

theorem ExtnEntity.word_cases (entity : ExtnEntity) :
    entity.word = ExtnEntity.fantray.word ∨ entity.word = ExtnEntity.psu.word := by
  cases entity
  · exact .inr rfl
  · exact .inl rfl

theorem parseType_word {flow : AirFlow} (h : entity.airFlow (numberOf part).toNat = some flow)
    (rest : List (List Byte)) : Acts.out (parseType entity.parserType) ⟨info, entity.word :: part :: rest⟩ =
      (.ok (), ⟨typed entity (numberOf part).toNat flow info, rest⟩) := by
  rw [parseType, Acts.out_bind_ok out_parseStringNext, skipEntityWord_word entity.word_cases, if_pos rfl,
    Acts.out_bind_ok out_parseStringNext]
  exact setEntityType_ok h

theorem parseType_other {flow : AirFlow} (hpart : ¬(part = ExtnEntity.fantray.word ∨ part = ExtnEntity.psu.word))
    (h : entity.airFlow (numberOf part).toNat = some flow) (rest : List (List Byte)) :
    Acts.out (parseType entity.parserType) ⟨info, part :: rest⟩ =
      (.ok (), ⟨typed entity (numberOf part).toNat flow info, rest⟩) := by
  rw [parseType, Acts.out_bind_ok out_parseStringNext, skipEntityWord_other hpart, pure_bind]
  exact setEntityType_ok h

/-! ## The parts after the type -/

/-- The computation leaves the air flow as it is. -/
def KeepsFlow {α : Type} (x : ExtnM α) : Prop := ∀ s, (Acts.out x s).2.entityData.airFlow = s.entityData.airFlow

namespace KeepsFlow

theorem bind {α β : Type} {x : ExtnM α} {f : α → ExtnM β} (hx : KeepsFlow x) (hf : ∀ a, KeepsFlow (f a)) :
    KeepsFlow (x >>= f) := by
  intro s
  rw [Acts.out_bind, ← hx s]
  cases Acts.out x s with
  | mk r s' =>
      cases r with
      | ok a => exact hf a s'
      | error e => rfl

theorem parseStringNext : KeepsFlow parseStringNext := by
  rintro ⟨info, _ | ⟨part, rest⟩⟩ <;> rfl

theorem setMaxSpeed (part : List Byte) : KeepsFlow (setMaxSpeed part) := fun _ => rfl

theorem setNumFans (part : List Byte) : KeepsFlow (setNumFans part) := fun _ => rfl

theorem checkTerminator (vendorExtn : List Byte) : KeepsFlow (checkTerminator vendorExtn) := by
  intro s
  rw [checkTerminator_state]

theorem parseNumbers (vendorExtn : List Byte) : KeepsFlow (parseNumbers vendorExtn) := by
  have hsecond : KeepsFlow (do
      let value ← Onie.parseStringNext
      if value = bytesOf "FANS" then
        Onie.setNumFans (← Onie.parseStringNext)
      else
        Onie.setMaxSpeed value
      Onie.checkTerminator vendorExtn) := by
    refine parseStringNext.bind fun value => ?_
    split
    · exact parseStringNext.bind fun part => (setNumFans part).bind fun _ => checkTerminator vendorExtn
    · exact (setMaxSpeed value).bind fun _ => checkTerminator vendorExtn
  refine parseStringNext.bind fun value => ?_
  split
  · exact parseStringNext.bind fun part => (setMaxSpeed part).bind fun _ => hsecond
  · exact (setNumFans value).bind fun _ => hsecond

end KeepsFlow

/-- The numbers after their keywords -/
theorem parseNumbers_keywords (vendorExtn maxRpm numFans : List Byte) (rest : List (List Byte)) :
    (Acts.out (parseNumbers vendorExtn)
      ⟨info, bytesOf "MAXRPM" :: maxRpm :: bytesOf "FANS" :: numFans :: rest⟩).2.entityData =
        { info with maxSpeed := numberOf maxRpm, numFans := numberOf numFans } := by
  simp only [parseNumbers, Acts.out_bind, out_parseStringNext, ↓reduceIte, out_setMaxSpeed, out_setNumFans,
    checkTerminator_state]

/-- The numbers without keywords -/
theorem parseNumbers_positional (vendorExtn : List Byte) {numFans maxRpm : List Byte} (rest : List (List Byte))
    (hfans : numFans ≠ bytesOf "MAXRPM") (hrpm : maxRpm ≠ bytesOf "FANS") :
    (Acts.out (parseNumbers vendorExtn) ⟨info, numFans :: maxRpm :: rest⟩).2.entityData =
      { info with maxSpeed := numberOf maxRpm, numFans := numberOf numFans } := by
  simp only [parseNumbers, Acts.out_bind, out_parseStringNext, hfans, hrpm, ↓reduceIte, out_setMaxSpeed,
    out_setNumFans, checkTerminator_state]

/-! ## What a value does -/

/-- The entity info once the parts are read -/
def parsed (entity : ExtnEntity) (vendorExtn : List Byte) (tokens : List (List Byte)) (info : EntityInfo) :
    EntityInfo :=
  (Acts.out (parseVendorExtn entity.parserType vendorExtn) ⟨info, tokens⟩).2.entityData

theorem parsed_cases (entity : ExtnEntity) (vendorExtn : List Byte) (tokens : List (List Byte)) (info : EntityInfo) :
    (∃ part flow, typePart entity tokens = some part ∧ entity.airFlow (numberOf part).toNat = some flow ∧
      (parsed entity vendorExtn tokens info).airFlow = flow) ∨
    ((∀ part, typePart entity tokens = some part → entity.airFlow (numberOf part).toNat = none) ∧
      parsed entity vendorExtn tokens info = info) := by
  rw [parsed, parseVendorExtn_eq]
  obtain ⟨part, flow, rest, hpart, hflow, hok⟩ | ⟨hno, errMesg, rest, herr⟩ := parseType_cases entity tokens info
  · refine .inl ⟨part, flow, hpart, hflow, ?_⟩
    rw [Acts.out_bind_ok hok, KeepsFlow.parseNumbers]
    rfl
  · refine .inr ⟨hno, ?_⟩
    rw [Acts.out_bind_error herr]

theorem ExtnValue.numberOf_typeDigit (x : ExtnValue) : (numberOf x.typeDigit).toNat = x.type.val := by
  have h : ∀ k : Fin 4, (numberOf [BitVec.ofNat 8 (0x30 + k.val)]).toNat = k.val := by decide
  exact h x.type

theorem ExtnValue.typeDigit_ne_word (x : ExtnValue) :
    ¬(x.typeDigit = ExtnEntity.fantray.word ∨ x.typeDigit = ExtnEntity.psu.word) := by
  have hlen : x.typeDigit.length = 1 := rfl
  rintro (h | h) <;> rw [h] at hlen <;> cases hlen

/-- A value of the entity sets the members as it says. -/
theorem parsed_parts {x : ExtnValue} (h : x.Agrees entity) (vendorExtn : List Byte) (info : EntityInfo) :
    ∃ flow, entity.airFlow x.type.val = some flow ∧ parsed entity vendorExtn x.parts info =
      { typed entity x.type.val flow info with
        maxSpeed := numberOf x.maxRpm.bytes
        numFans := numberOf x.numFans.bytes } := by
  obtain ⟨hword, hflow⟩ := h
  obtain ⟨flow, hflow⟩ := Option.ne_none_iff_exists'.mp hflow
  refine ⟨flow, hflow, ?_⟩
  rw [← x.numberOf_typeDigit] at hflow ⊢
  rw [parsed, parseVendorExtn_eq, ExtnValue.parts]
  cases hw : x.word with
  | some w =>
      obtain rfl := hword w hw
      dsimp only
      rw [Acts.out_bind_ok (parseType_word hflow _)]
      exact parseNumbers_keywords ..
  | none =>
      have hfans : x.numFans.bytes ≠ bytesOf "MAXRPM" := x.numFans.ne (c := 0x4d) (by decide) (by decide)
      have hrpm : x.maxRpm.bytes ≠ bytesOf "FANS" := x.maxRpm.ne (c := 0x46) (by decide) (by decide)
      dsimp only
      rw [Acts.out_bind_ok (parseType_other x.typeDigit_ne_word hflow _)]
      exact parseNumbers_positional _ _ hfans hrpm

/-! ## The text of a value -/

/-- A part has no separator and no end of a string in it. -/
def Plain (part : List Byte) : Prop := part ≠ [] ∧ 0x2d ∉ part ∧ 0 ∉ part

instance (part : List Byte) : Decidable (Plain part) := inferInstanceAs (Decidable (_ ∧ _))

theorem plain_digits (d : Digits) : Plain d.bytes :=
  ⟨d.ne_nil, fun h => absurd (d.isDigit _ h) (by decide), fun h => absurd (d.isDigit _ h) (by decide)⟩

namespace ExtnValue

variable (x : ExtnValue)

theorem plain_parts : ∀ part ∈ x.parts, Plain part := by
  have hdigit : Plain x.typeDigit := by
    have h : ∀ k : Fin 4, Plain [BitVec.ofNat 8 (0x30 + k.val)] := by decide
    exact h x.type
  have hfans := plain_digits x.numFans
  have hrpm := plain_digits x.maxRpm
  have hend : Plain (bytesOf "FF") := by decide
  rw [parts]
  cases x.word with
  | some w =>
      have hword : Plain w.word := by cases w <;> decide
      have hmaxrpm : Plain (bytesOf "MAXRPM") := by decide
      have hfansword : Plain (bytesOf "FANS") := by decide
      simp only [List.forall_mem_cons, List.not_mem_nil, false_implies, implies_true, and_true]
      exact ⟨hword, hdigit, hmaxrpm, hrpm, hfansword, hfans, hend⟩
  | none =>
      simp only [List.forall_mem_cons, List.not_mem_nil, false_implies, implies_true, and_true]
      exact ⟨hdigit, hfans, hrpm, hend⟩

theorem parts_ne_nil : x.parts ≠ [] := by
  rw [parts]
  split <;> exact List.cons_ne_nil _ _

theorem cstr_bytes : cstr ([0x2d].intercalate x.parts) = [0x2d].intercalate x.parts := by
  refine List.takeWhile_eq_self_iff.mpr fun b hb => decide_eq_true fun hzero => ?_
  obtain hsep | ⟨part, hpart, hmem⟩ := mem_intercalate hb
  · exact absurd (hzero.symm.trans hsep) (by decide)
  · exact (x.plain_parts part hpart).2.2 (hzero ▸ hmem)

theorem nonEmptyParts_bytes : nonEmptyParts 0x2d ([0x2d].intercalate x.parts) = x.parts :=
  nonEmptyParts_intercalate x.parts_ne_nil fun part hpart => ⟨(x.plain_parts part hpart).1, (x.plain_parts part hpart).2.1⟩

theorem extnText_of_spells (h : x.Spells value) : extnText value = some ([0x2d].intercalate x.parts) := by
  have hascii : ∀ s, ¬ianaNum <+: ianaAscii ++ s := fun s h => by
    have hhead := (List.cons_prefix_cons.mp h).1
    exact absurd hhead (by decide)
  rw [extnText]
  rcases h with rfl | rfl
  · rw [if_pos (List.prefix_append ..), List.drop_left, cstr_bytes]
  · rw [if_neg (hascii _), if_pos (List.prefix_append ..), List.drop_left, cstr_bytes]

end ExtnValue

/-! ## The fields of a buffer -/

theorem ianaLen_eq (value : List Byte) (n : Nat) : ianaLen (value ++ List.replicate n 0) =
    if ianaNum <+: value then some ianaNum.length
    else if ianaAscii <+: value then some ianaAscii.length else none := by
  have hnum : (value ++ List.replicate n 0).take ianaNum.length = ianaNum ↔ ianaNum <+: value :=
    take_append_zeros_iff (c := 0x2d) rfl (by decide)
  have hascii : (value ++ List.replicate n 0).take ianaAscii.length = ianaAscii ↔ ianaAscii <+: value :=
    take_append_zeros_iff (c := 0x2d) (by decide) (by decide)
  simp only [ianaLen, hnum, hascii]

theorem parseVendorExtnValue_none {vendorExtn : List Byte} (h : ianaLen vendorExtn = none) :
    (parseVendorExtnValue E entity.parserType vendorExtn info).1 = info := by
  rw [parseVendorExtnValue, h]

theorem parseVendorExtnValue_some {vendorExtn : List Byte} {n : Nat} (h : ianaLen vendorExtn = some n)
    (hE : E.stdParseString (cstr (vendorExtn.drop n)) vendorExtnDelimiter = some tokens) :
    (parseVendorExtnValue E entity.parserType vendorExtn info).1 = parsed entity vendorExtn tokens info := by
  rw [parseVendorExtnValue, h, parsed, Acts.out]
  simp only [hE]
  generalize StateT.run (ExceptT.run (parseVendorExtn entity.parserType vendorExtn)) ⟨info, tokens⟩ = out
  obtain ⟨_ | _, s⟩ := out <;> rfl

/-- The value is copied, and its text is read part by part. -/
theorem fillVendorExtn_eq (hE : ∀ s, E.stdParseString s vendorExtnDelimiter = some (nonEmptyParts 0x2d s))
    (entity : ExtnEntity) (t : Tlv) (pre post : List Byte) (info : EntityInfo) :
    ∃ vendorExtn, fillVendorExtn E ⟨pre ++ (t.encode ++ post), pre.length⟩ entity.parserType info =
      .ok (match extnText t.value with
        | none => info
        | some text => parsed entity vendorExtn (nonEmptyParts 0x2d text) info) := by
  have hload : Ptr.load ⟨pre ++ (t.encode ++ post), pre.length⟩ 1 = .ok (BitVec.ofNat 8 t.value.length) := by
    rw [((Tlv.agree_encode pre post t) 1 (by omega)).eq]
    simp [Ptr.load, Tlv.encode]
  have hdrop : (pre ++ (t.encode ++ post)).drop (pre.length + 2) = t.value ++ post := by
    rw [← List.drop_drop, List.drop_left]
    rfl
  have hlen := t.value_lt
  obtain ⟨dst, hcopy, hlist⟩ := memcpy_ok (Vector.replicate maxTlvValueLen 0)
    (show (Ptr.add ⟨pre ++ (t.encode ++ post), pre.length⟩ 2).off + t.length ≤ _ by
      simp only [Ptr.add_off, Ptr.add_buf, List.length_append, Tlv.encode_length]
      omega) (Nat.le_of_lt hlen)
  have hbuf : dst.toList = t.value ++ List.replicate (maxTlvValueLen - t.length) 0 := by
    rw [hlist, Ptr.add_buf, Ptr.add_off, hdrop, Tlv.length, List.take_left]
    simp [Vector.toList_replicate]
  refine ⟨dst.toList, ?_⟩
  have hparser : entity.parserType = .onieFanEeprom ∨ entity.parserType = .oniePsuEeprom := by
    cases entity
    · exact .inr rfl
    · exact .inl rfl
  rw [fillVendorExtn, if_pos hparser, hload, Checked.bind_ok, t.length_toNat, hcopy, Checked.bind_ok]
  refine congrArg Except.ok ?_
  have hparts : ∀ n ≤ t.value.length, E.stdParseString (cstr (dst.toList.drop n)) vendorExtnDelimiter =
      some (nonEmptyParts 0x2d (cstr (t.value.drop n))) := by
    intro n hn
    rw [hE, hbuf, List.drop_append_of_le_length hn, cstr_append_zeros]
  have hiana := ianaLen_eq t.value (maxTlvValueLen - t.length)
  rw [← hbuf] at hiana
  rw [extnText]
  split at hiana
  · rename_i hnum
    rw [if_pos hnum]
    exact parseVendorExtnValue_some hiana (hparts _ hnum.length_le)
  · rename_i hnum
    rw [if_neg hnum]
    split at hiana
    · rename_i hascii
      rw [if_pos hascii]
      exact parseVendorExtnValue_some hiana (hparts _ hascii.length_le)
    · rename_i hascii
      rw [if_neg hascii]
      exact parseVendorExtnValue_none hiana

theorem Unchanged.refl (info : EntityInfo) : Unchanged info info := ⟨rfl, rfl, rfl, rfl⟩

theorem numberOf_digits (d : Digits) : (numberOf d.bytes).toInt = d.value ↔ d.Reads 31 :=
  d.toInt_strtoul_iff (by decide)

/-- A value of the entity sets the members as it says iff its numbers are read as they are written and its input
is the only one. -/
theorem setsTo_parsed_iff {x : ExtnValue} (h : x.Agrees entity) (vendorExtn : List Byte) (info : EntityInfo) :
    x.SetsTo entity info (parsed entity vendorExtn x.parts info) ↔
      x.numFans.Reads 31 ∧ x.maxRpm.Reads 31 ∧ OnlyInput entity x.type.val info.powerType := by
  obtain ⟨flow, hflow, hparsed⟩ := parsed_parts h vendorExtn info
  rw [hparsed, ← numberOf_digits, ← numberOf_digits, ← inputAdded_eq_iff]
  exact ⟨fun hsets => ⟨hsets.numFans, hsets.maxSpeed, hsets.powerType⟩,
    fun ⟨hfans, hrpm, hinput⟩ => ⟨hinput, hflow, hrpm, hfans⟩⟩

/-- A value without a type changes nothing, and a value with a type sets the air flow. -/
theorem airFlow_of_givesType (h : GivesType entity value) : ∃ text flow, extnText value = some text ∧
    flow ≠ .unknown ∧ ∀ vendorExtn info,
      (parsed entity vendorExtn (nonEmptyParts 0x2d text) info).airFlow = flow := by
  obtain ⟨text, part, htext, hpart, hflow⟩ := h
  obtain ⟨flow, hflow⟩ := Option.ne_none_iff_exists'.mp hflow
  have hknown : flow ≠ .unknown := by
    rintro rfl
    generalize (numberOf part).toNat = n at hflow
    cases entity <;> rcases n with _ | _ | _ | _ | n <;> cases hflow
  refine ⟨text, flow, htext, hknown, fun vendorExtn info => ?_⟩
  obtain ⟨part', flow', hpart', hflow', hair⟩ | ⟨hno, -⟩ :=
    parsed_cases entity vendorExtn (nonEmptyParts 0x2d text) info
  · obtain rfl := Option.some.inj (hpart.symm.trans hpart')
    exact hair.trans (Option.some.inj (hflow'.symm.trans hflow))
  · exact absurd (hflow.symm.trans (hno part hpart)) (Option.some_ne_none flow)

theorem parsed_of_not_givesType {text : List Byte} (h : ¬GivesType entity value) (htext : extnText value = some text)
    (vendorExtn : List Byte) (info : EntityInfo) :
    parsed entity vendorExtn (nonEmptyParts 0x2d text) info = info := by
  obtain ⟨part, flow, hpart, hflow, -⟩ | ⟨-, heq⟩ := parsed_cases entity vendorExtn (nonEmptyParts 0x2d text) info
  · exact absurd ⟨text, part, htext, hpart, hflow ▸ Option.some_ne_none flow⟩ h
  · exact heq

/-- What breaks the formats: the air flow is set although the value is in none of them. -/
theorem not_followsGrammar (hE : ∀ s, E.stdParseString s vendorExtnDelimiter = some (nonEmptyParts 0x2d s))
    (htype : GivesType entity t.value) (hno : ∀ x : ExtnValue, x.Spells t.value → ¬x.Agrees entity)
    (before : PowerType) : ¬FollowsGrammar E entity t before := by
  intro h
  let info := { EntityInfo.zero with airFlow := .unknown, powerType := before }
  obtain ⟨text, flow, htext, hknown, hflow⟩ := airFlow_of_givesType htype
  obtain ⟨vendorExtn, hfill⟩ := fillVendorExtn_eq hE entity t [] [] info
  obtain ⟨info', hinfo, -, hunchanged⟩ := h [] [] info rfl
  rw [htext] at hfill
  obtain rfl := Except.ok.inj (hinfo.symm.trans hfill)
  exact hknown ((hflow _ _).symm.trans (hunchanged hno).airFlow)

theorem followsGrammar_iff (hE : ∀ s, E.stdParseString s vendorExtnDelimiter = some (nonEmptyParts 0x2d s))
    (entity : ExtnEntity) (t : Tlv) (before : PowerType) :
    FollowsGrammar E entity t before ↔ Regular entity t.value before := by
  constructor
  · intro h
    refine ⟨fun htype => ?_, fun x hx hagrees => ?_⟩
    · by_contra hno
      exact not_followsGrammar hE htype (fun x hx hagrees => hno ⟨x, hx, hagrees⟩) before h
    · let info := { EntityInfo.zero with powerType := before }
      obtain ⟨vendorExtn, hfill⟩ := fillVendorExtn_eq hE entity t [] [] info
      obtain ⟨info', hinfo, hsets, -⟩ := h [] [] info rfl
      simp only [x.extnText_of_spells hx, x.nonEmptyParts_bytes] at hfill
      obtain rfl := Except.ok.inj (hinfo.symm.trans hfill)
      exact (setsTo_parsed_iff hagrees _ _).mp (hsets x hx hagrees)
  · rintro ⟨htype, hreads⟩ pre post info rfl
    obtain ⟨vendorExtn, hfill⟩ := fillVendorExtn_eq hE entity t pre post info
    refine ⟨_, hfill, fun x hx hagrees => ?_, fun hno => ?_⟩
    · simp only [x.extnText_of_spells hx, x.nonEmptyParts_bytes]
      exact (setsTo_parsed_iff hagrees _ _).mpr (hreads x hx hagrees)
    · have hnotype : ¬GivesType entity t.value := fun h => by
        obtain ⟨x, hx, hagrees⟩ := htype h
        exact hno x hx hagrees
      cases htext : extnText t.value with
      | none => exact .refl info
      | some text =>
          simp only [parsed_of_not_givesType hnotype htext]
          exact .refl info

/-! ## A value that ends too early -/

/-- The rest of the driver's surroundings, with the parts between the separators -/
def partsExt : Ext where
  crc32 := fun _ => 0
  stdParseString := fun s delimiter => delimiter.head?.map fun sep => nonEmptyParts sep s
  safestrncpy := fun src size => src.take (size - 1)

theorem partsExt_parts (s : List Byte) :
    partsExt.stdParseString s vendorExtnDelimiter = some (nonEmptyParts 0x2d s) := rfl

def truncatedExtn : Tlv := ⟨0xfd, bytesOf "674-PSU-1", by decide⟩

/-- The air flow of a truncated value is set. -/
theorem not_followsGrammar_truncated : ¬FollowsGrammar partsExt .psu truncatedExtn ⟨false, false⟩ := by
  have htext : extnText truncatedExtn.value = some (bytesOf "PSU-1") := by decide
  have hparts : nonEmptyParts 0x2d (bytesOf "PSU-1") = [bytesOf "PSU", bytesOf "1"] := by decide
  refine not_followsGrammar partsExt_parts ⟨_, bytesOf "1", htext, ?_, by decide⟩ (fun x hx _ => ?_) _
  · rw [hparts]
    decide
  · have heq := Option.some.inj ((x.extnText_of_spells hx).symm.trans htext)
    have hlen := congrArg (fun s => (nonEmptyParts 0x2d s).length) heq
    simp only [x.nonEmptyParts_bytes, hparts] at hlen
    rw [ExtnValue.parts] at hlen
    split at hlen <;> cases hlen

theorem followsGrammar_truncated_iff :
    FollowsGrammar partsExt .psu truncatedExtn ⟨true, false⟩ ↔
      Regular .psu truncatedExtn.value ⟨true, false⟩ :=
  followsGrammar_iff partsExt_parts .psu truncatedExtn ⟨true, false⟩

end OpxSdi.Onie
