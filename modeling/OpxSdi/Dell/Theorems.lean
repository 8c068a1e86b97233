import OpxSdi.Dell.Eeprom
import OpxSdi.Lib.Results
import OpxSdi.Onie.Lemmas.Fill

/-!
# Invalid fields of a Dell EEPROM

A call that reads all its fields returns the code of the last one. In the legacy formats that is the only
field which can be invalid; in the Delta format it is never invalid.
-/

namespace OpxSdi.Dell

open Lib Onie Device

/-! ## The fields as they are decoded when nothing fails -/

def EepromInfo.bytes {Name : Type} (row : EepromInfo Name) (eeprom : Byte → Byte) : List Byte :=
  (List.range' row.offset row.size).map fun i => eeprom (BitVec.ofNat 8 i)

section Loop

variable {Name : Type} {decode : Name → List Byte → EntityInfo → Checked (FillRc × EntityInfo)}
  {row : EepromInfo Name} {rows : List (EepromInfo Name)} {rc rc' : FillRc} {chip chip' : Chip}
  {d d' : Device Unit Errno Chip}

/-- Decode a field of the chip and fill its entity info. -/
def decodeRow (decode : Name → List Byte → EntityInfo → Checked (FillRc × EntityInfo))
    (row : EepromInfo Name) :
    StateT Chip Checked FillRc := fun chip => do
  let (rc, info) ← decode row.name (row.bytes chip.eeprom) chip.entityData
  .ok (rc, { chip with entityData := info })

def decodeRows (decode : Name → List Byte → EntityInfo → Checked (FillRc × EntityInfo)) :
    (rc : FillRc) → List (EepromInfo Name) → StateT Chip Checked FillRc
  | rc, [] => pure rc
  | _, row :: rows => do
      let rc ← decodeRow decode row
      decodeRows decode rc rows

theorem decodeRow_eeprom (h : (decodeRow decode row).run chip = .ok (rc, chip')) :
    chip'.eeprom = chip.eeprom := by
  obtain ⟨r, -, hr⟩ := bind_eq_ok h
  rw [← (Prod.mk.inj (Except.ok.inj hr)).2]

/-- Only the last field leaves its return code. -/
theorem decodeRows_concat {init : List (EepromInfo Name)} (hrows : rows = init ++ [row])
    (h : (decodeRows decode rc rows).run chip = .ok (rc', chip')) :
    ∃ info, ∃ r, decode row.name (row.bytes chip.eeprom) info = .ok r ∧ rc' = r.1 := by
  subst hrows
  induction init generalizing rc chip with
  | nil =>
      obtain ⟨r, hr, hrest⟩ := bind_eq_ok h
      obtain ⟨r', hr', hlast⟩ := bind_eq_ok hr
      refine ⟨chip.entityData, r', hr', ?_⟩
      cases hrest
      rw [← (Prod.mk.inj (Except.ok.inj hlast)).1]
  | cons first init ih =>
      obtain ⟨r, hr, hrest⟩ := bind_eq_ok h
      obtain ⟨info, r', hr', hlast⟩ := ih hrest
      exact ⟨info, r', decodeRow_eeprom hr ▸ hr', hlast⟩

theorem decodeRows_returns (h : ∀ row ∈ rows, ∀ info,
    Returns (decode row.name (row.bytes chip.eeprom) info)) :
    Returns ((decodeRows decode rc rows).run chip) := by
  induction rows generalizing rc chip with
  | nil => exact returns_ok _
  | cons row rows ih =>
      obtain ⟨hrow, hrows⟩ := List.forall_mem_cons.mp h
      obtain ⟨r, hr⟩ := hrow chip.entityData
      have hout : (decodeRow decode row).run chip = .ok (r.1, { chip with entityData := r.2 }) := by
        change decode row.name (row.bytes chip.eeprom) chip.entityData >>= _ = _
        rw [hr]
        rfl
      refine returns_bind_iff.mpr ⟨_, hout, ih hrows⟩

/-! ## The calls on a device -/

theorem takes_readBytes {held : Unit → Bool} (cmd n : Nat) : Takes held (readBytes cmd n) n
    (fun chip => .ok ((List.range' cmd n).map fun i => chip.eeprom (BitVec.ofNat 8 i), chip) :
      StateT Chip Checked (List Byte)) := by
  induction n generalizing cmd with
  | zero => exact .pure []
  | succ n ih =>
      have hfirst : Takes held (Device.access fun chip : Chip =>
        (chip.eeprom (BitVec.ofNat 8 cmd), chip) : M Byte) 1
          (fun chip => .ok (chip.eeprom (BitVec.ofNat 8 cmd), chip) : StateT Chip Checked Byte) := .access _
      have h := hfirst.bind fun b => (ih (cmd + 1)).bind fun bs => Takes.pure (b :: bs)
      have hcount : 1 + (n + 0) = n + 1 := by omega
      rw [hcount] at h
      exact h

theorem takes_ofChecked {α : Type} {held : Unit → Bool} (x : Checked α) : Takes held (ofChecked x) 0
    (fun chip => x >>= fun a => .ok (a, chip) : StateT Chip Checked α) := by
  cases x with
  | ok a => exact .pure a
  | error e => exact fun d _ a d' => iff_of_false nofun fun h => nomatch h.2.1

theorem takes_fillField {held : Unit → Bool} (hfree : held () = false) (row : EepromInfo Name) :
    Takes held (fillField decode row) (row.size + 1) (decodeRow decode row) := by
  have hread := Takes.locked hfree (takes_readBytes row.offset row.size)
  have hchip : Takes held (Device.internal fun chip : Chip => (chip, chip) : M Chip) 0
      (fun chip => .ok (chip, chip) : StateT Chip Checked Chip) := .internal _
  have h := hread.bind fun data => hchip.bind fun chip =>
    (takes_ofChecked (decode row.name data chip.entityData)).bind fun r =>
      (Takes.internal (φ := Fault) (fun chip : Chip => ((), { chip with entityData := r.2 }))).bind fun _ =>
        Takes.pure r.1
  have hcount : 1 + row.size + (0 + (0 + (0 + 0))) = row.size + 1 := by omega
  rw [hcount] at h
  refine cast (congrArg _ ?_) h
  funext chip
  change (decode row.name (row.bytes chip.eeprom) chip.entityData >>= fun a => .ok (a, chip)) >>= _ = _
  rw [decodeRow]
  cases decode row.name (row.bytes chip.eeprom) chip.entityData <;> rfl

/-- The operations that reading the fields takes: for each the bus and its bytes. -/
def reads : List (EepromInfo Name) → Nat
  | [] => 0
  | row :: rows => row.size + 1 + reads rows

theorem takes_fillFields {held : Unit → Bool} (hfree : held () = false) (rc : FillRc)
    (rows : List (EepromInfo Name)) :
    Takes held (fillFields decode rc rows) (reads rows) (decodeRows decode rc rows) := by
  induction rows generalizing rc with
  | nil => exact .pure rc
  | cons row rows ih => exact (takes_fillField hfree row).bind fun rc => ih rc

theorem fillFields_held (hheld : d.held () = true) (rc rc' : FillRc) (row : EepromInfo Name)
    (rows : List (EepromInfo Name)) : (fillFields decode rc (row :: rows)).out d ≠ (.ok rc', d') := by
  intro h
  obtain ⟨r, d1, hfield, -⟩ := Acts.out_bind_returns h
  obtain ⟨data, d2, hread, -⟩ := Acts.out_bind_returns hfield
  obtain ⟨u, d3, hlock, -⟩ := Acts.out_bind_returns hread
  simp only [Device.lock, Acts.out, ExceptT.run, StateT.run, hheld, ↓reduceIte] at hlock
  split at hlock <;> cases hlock

/-- No operation of reading the fields fails. -/
def Readable (d : Device Unit Errno Chip) (rows : List (EepromInfo Name)) : Prop :=
  d.held () = false ∧ d.Clear (reads rows)

/-- The chip when the first field is read. -/
def Chip.zeroed (chip : Chip) : Chip :=
  { chip with
    entityData := { EntityInfo.zero with
      numFans := chip.privateData.noOfFans
      maxSpeed := chip.privateData.maxFanSpeed } }

theorem fillTable_ok_iff (hne : rows ≠ []) : (fillTable decode (some rows)).out d = (.ok rc, d') ↔
    Readable d rows ∧ (decodeRows decode .ok rows).run d.hw.zeroed = .ok (rc, d'.hw) ∧
      d' = d.after (reads rows) d'.hw := by
  change (fillFields decode .ok rows).out { d with hw := d.hw.zeroed } = (.ok rc, d') ↔ _
  cases hheld : d.held () with
  | true =>
      obtain ⟨row, rows, rfl⟩ := List.exists_cons_of_ne_nil hne
      refine iff_of_false (fillFields_held (d := { d with hw := d.hw.zeroed }) hheld .ok rc row rows) ?_
      rintro ⟨⟨hfree, -⟩, -⟩
      rw [hheld] at hfree
      cases hfree
  | false =>
      rw [Readable, and_iff_right hheld]
      exact takes_fillFields hheld .ok rows { d with hw := d.hw.zeroed } rfl rc d'

end Loop

/-! ## What the fields decode to -/

/-- The air-flow field is a direction and the power source names AC or DC. -/
def DeltaField.Valid : DeltaField → List Byte → Prop
  | .fanAirflow, data => strncmpEq data (bytesOf "FORWARD") 7 ∨ strncmpEq data (bytesOf "REVERSE") 7
  | .powerSrc, data => contains data (bytesOf "AC") ∨ contains data (bytesOf "DC")
  | _, _ => True

/-- The type byte is one of the listed codes. -/
def LegacyField.Valid : LegacyField → List Byte → Prop
  | .fanType, data => ∃ type ∈ [legacyFanAirFlowNormal, legacyFanAirFlowReverse], data[0]? = some type
  | .psuType, data =>
      ∃ type ∈ [legacyPsuAcNormal, legacyPsuAcReverse, legacyPsuDcNormal, legacyPsuDcReverse],
      data[0]? = some type
  | _, _ => True

theorem copyBytesToString_returns {k : Nat} (dst : Vector Byte k) (data : List Byte) (hk : 0 < k) :
    Returns (copyBytesToString dst ⟨data, 0⟩ data.length) :=
  (copyBytesToString_lockstep (Ptr.Agree.refl (Nat.zero_add _).le) dst hk).returns

theorem deltaPsuDecode_returns (name : DeltaField) (data : List Byte) (info : EntityInfo) :
    Returns (deltaPsuDecode name data info) := by
  cases name with
  | serialNum => exact (returns_bind_left fun _ =>
      returns_ok _).mpr (copyBytesToString_returns _ _ (by decide))
  | partNum => exact (returns_bind_left fun _ => returns_ok _).mpr (copyBytesToString_returns _ _ (by decide))
  | labelRev => exact (returns_bind_left fun _ =>
      returns_ok _).mpr (copyBytesToString_returns _ _ (by decide))
  | fanAirflow =>
      rw [deltaPsuDecode]
      split
      · exact returns_ok _
      · split <;> exact returns_ok _
  | powerSrc => exact returns_ok _
  | powerWatt => exact returns_ok _
  | fanNumber => exact returns_ok _
  | fanSpeed => exact returns_ok _

theorem get_of_load {data : List Byte} {b : Byte} (h : Ptr.load ⟨data, 0⟩ 0 = .ok b) : data[0]? = some b := by
  rw [Ptr.load] at h
  split at h
  · cases h
    assumption
  · cases h

theorem dellLegacyDecode_valid {name : LegacyField} {data : List Byte} {info : EntityInfo}
    {r : FillRc × EntityInfo} (h : dellLegacyDecode name data info = .ok r) (hr : r.1 = .ok) :
    name.Valid data := by
  cases name with
  | fanType =>
      obtain ⟨type, hload, h⟩ := bind_eq_ok h
      refine ⟨type, ?_, get_of_load hload⟩
      split_ifs at h with h1 h2
      · simp [h1]
      · simp [h2]
      · cases h
        cases hr
  | psuType =>
      obtain ⟨type, hload, h⟩ := bind_eq_ok h
      refine ⟨type, ?_, get_of_load hload⟩
      dsimp only at h
      split_ifs at h with h1 h2 h3 h4
      · simp [h1]
      · simp [h2]
      · simp [h3]
      · simp [h4]
      · cases h
        cases hr
  | ppid => trivial
  | rev => trivial
  | serviceTag => trivial
  | partNum => trivial
  | fanCount => trivial

/-! ## Whether an invalid field is reported -/

inductive InfoFill
  | deltaPsu | dellLegacy
  deriving DecidableEq, Repr

namespace InfoFill

def call : InfoFill → EntityParser → M FillRc
  | deltaPsu => deltaPsuEepromInfoFill
  | dellLegacy => dellLegacyInfoFill

def FieldsValid (parserType : EntityParser) (eeprom : Byte → Byte) : InfoFill → Prop
  | deltaPsu => ∀ rows, deltaTable parserType = some rows → ∀ row ∈ rows, row.name.Valid (row.bytes eeprom)
  | dellLegacy => ∀ rows, legacyTable parserType = some rows → ∀ row ∈ rows, row.name.Valid (row.bytes eeprom)

end InfoFill

/-- A call that returns `STD_ERR_OK` has found each field valid, and none of its operations has failed. -/
def Reports (fill : InfoFill) (parserType : EntityParser) (d : Device Unit Errno Chip) : Prop :=
  ∀ d', (fill.call parserType).out d = (.ok .ok, d') →
    fill.FieldsValid parserType d.hw.eeprom ∧ ∀ t, d.time ≤ t → t < d'.time → d.fault t = none

variable {d d' : Device Unit Errno Chip} {parserType : EntityParser}

theorem no_fault_of_readable {Name : Type} {rows : List (EepromInfo Name)} {hw : Chip} (h : Readable d rows)
    (hd : d' = d.after (reads rows) hw) (t : Nat) (hle : d.time ≤ t) (hlt : t < d'.time) :
    d.fault t = none := by
  rw [hd, after_time] at hlt
  have := h.2 (t - d.time) (by omega)
  rwa [Nat.add_sub_cancel' hle] at this

/-- The type is the last field of both legacy tables, and the only one that can be invalid. -/
theorem legacyTable_concat {rows : List (EepromInfo LegacyField)} (h : legacyTable parserType = some rows) :
    ∃ init last, rows = init ++ [last] ∧ ∀ row ∈ init, ∀ data, row.name.Valid data := by
  cases parserType with
  | dellLegacyPsuEeprom =>
      cases h
      refine ⟨dellLegacyPsuEepromInfo.dropLast, ⟨.psuType, 134, 1⟩, rfl, ?_⟩
      simp [dellLegacyPsuEepromInfo, LegacyField.Valid]
  | dellLegacyFanEeprom =>
      cases h
      refine ⟨dellLegacyFanEepromInfo.dropLast, ⟨.fanType, 135, 1⟩, rfl, ?_⟩
      simp [dellLegacyFanEepromInfo, LegacyField.Valid]
  | _ => cases h

theorem fillTable_none {Name : Type} {decode : Name → List Byte → EntityInfo →
    Checked (FillRc × EntityInfo)} :
    (fillTable decode none).out d ≠ (.ok .ok, d') := fun h => nomatch h

theorem dellLegacy_reports (parserType : EntityParser) (d : Device Unit Errno Chip) :
    Reports .dellLegacy parserType d := by
  intro d' h
  change (fillTable dellLegacyDecode (legacyTable parserType)).out d = (.ok .ok, d') at h
  cases htable : legacyTable parserType with
  | none =>
      rw [htable] at h
      exact absurd h fillTable_none
  | some rows =>
      rw [htable] at h
      obtain ⟨init, last, rfl, hinit⟩ := legacyTable_concat htable
      obtain ⟨hread, hdecode, hd'⟩ := (fillTable_ok_iff
        (List.append_ne_nil_of_right_ne_nil _ (List.cons_ne_nil _ _))).mp h
      obtain ⟨info, r, hlast, hr⟩ := decodeRows_concat rfl hdecode
      refine ⟨fun rows hrows row hrow => ?_, no_fault_of_readable hread hd'⟩
      cases htable.symm.trans hrows
      rcases List.mem_append.mp hrow with hmem | hmem
      · exact hinit row hmem _
      · rw [List.mem_singleton.mp hmem]
        exact dellLegacyDecode_valid hlast hr.symm

/-- The Delta fields that are read without a failure are answered with `STD_ERR_OK`, whatever they hold. -/
theorem deltaPsu_ok (hread : Readable d deltaPsuEepromInfo) :
    ∃ d', (deltaPsuEepromInfoFill .deltaPsuEeprom).out d = (.ok .ok, d') := by
  have hreturns : Returns ((decodeRows deltaPsuDecode .ok deltaPsuEepromInfo).run d.hw.zeroed) :=
    decodeRows_returns fun row _ info => deltaPsuDecode_returns row.name _ info
  obtain ⟨⟨rc, chip⟩, hdecode⟩ := hreturns
  -- The last field is the speed, which any bytes give.
  have hrows : deltaPsuEepromInfo = deltaPsuEepromInfo.dropLast ++ [⟨.fanSpeed, 0xf2, 5⟩] := rfl
  obtain ⟨info, r, hlast, rfl⟩ := decodeRows_concat hrows hdecode
  rw [← Except.ok.inj hlast] at hdecode
  have hne : deltaPsuEepromInfo ≠ [] := by decide
  exact ⟨d.after _ chip, (fillTable_ok_iff hne).mpr ⟨hread, hdecode, rfl⟩⟩

/-- Only the Delta format loses an invalid field: when all its fields are read. -/
theorem infoFill_reports_iff (fill : InfoFill) (parserType : EntityParser) (d : Device Unit Errno Chip) :
    Reports fill parserType d ↔
      (fill = .deltaPsu → parserType = .deltaPsuEeprom → Readable d deltaPsuEepromInfo →
        fill.FieldsValid parserType d.hw.eeprom) := by
  cases fill with
  | dellLegacy => exact iff_of_true (dellLegacy_reports parserType d) nofun
  | deltaPsu =>
      constructor
      · rintro h - rfl hread
        obtain ⟨d', hout⟩ := deltaPsu_ok hread
        exact (h d' hout).1
      · intro h d' hout
        change (fillTable deltaPsuDecode (deltaTable parserType)).out d = (.ok .ok, d') at hout
        cases htable : deltaTable parserType with
        | none =>
            rw [htable] at hout
            exact absurd hout fillTable_none
        | some rows =>
            rw [htable] at hout
            have hparser : parserType = .deltaPsuEeprom ∧ rows = deltaPsuEepromInfo := by
              cases parserType <;> cases htable
              exact ⟨rfl, rfl⟩
            obtain ⟨rfl, rfl⟩ := hparser
            obtain ⟨hread, -, hd'⟩ := (fillTable_ok_iff (List.cons_ne_nil _ _)).mp hout
            exact ⟨h rfl rfl hread, no_fault_of_readable hread hd'⟩

/-- An EEPROM of zeros on a bus that does not fail. -/
def blank : Device Unit Errno Chip :=
  ⟨fun _ => false, fun _ => none, 0, ⟨fun _ => 0, ⟨0, 0, 0⟩, EntityInfo.zero⟩⟩

theorem delta_blank_accepted : ¬Reports .deltaPsu .deltaPsuEeprom blank := by
  rw [infoFill_reports_iff]
  intro h
  rcases h rfl rfl ⟨rfl, fun _ _ => rfl⟩ _ rfl ⟨.fanAirflow, 0xe1, 7⟩ (by decide) with hforward | hreverse
  · exact absurd hforward (by decide)
  · exact absurd hreverse (by decide)

end OpxSdi.Dell
