import OpxSdi.Vmdb.Lemmas.Query
import OpxSdi.Vmdb.Lemmas.Statement
import OpxSdi.VmCore.Devices

/-!
# What the calls on the VM devices keep

The maximum speeds and the resources are set by no call, so what a call has read of them still holds when it
writes.
-/

namespace OpxSdi.VmCore

open Lib Sql Vmdb

/-! ## Texts -/

theorem length_fieldName (field : IntField) : (bytesOf field.name).length ≤ 18 := by
  cases field <;> decide

/-- No column, condition or value is cut off in its buffer. -/
theorem texts_fit (c : Column) (hdl : Handle) (value : BitVec 32) : c.name.length < sqlDefaultBufferLength ∧
    (condText hdl).length < sqlDefaultBufferLength ∧ (decimalInt value.toInt).length < sqlDefaultBufferLength := by
  have hname := length_fieldName c.field
  have hprefix : (bytesOf (if c.target then "Target_" else "")).length ≤ 7 := by
    cases c.target <;> decide
  have hcond := (length_condText hdl).2
  have hvalue := value.isLt
  have hdigits : (decimal value.toInt.natAbs).length ≤ 10 := length_decimal_le (by decide) (by
    rw [BitVec.toInt_eq_toNat_cond]
    split <;> omega)
  refine ⟨?_, ?_, ?_⟩
  · rw [Column.name, List.length_append, sqlDefaultBufferLength]
    omega
  · rw [sqlDefaultBufferLength]
    omega
  · rw [sqlDefaultBufferLength, decimalInt]
    split
    · rw [List.length_cons]
      omega
    · omega

theorem read_congr {Db : Type} (lib : VmLibrary Db) (c : Column) {hdl hdl' : Handle} (h : uint hdl = uint hdl')
    (d : Db) : lib.read c hdl d = lib.read c hdl' d := by
  rw [VmLibrary.read, VmLibrary.read, Column.query, Column.query, condText, condText, h]

theorem dbStrtol_decimalInt_toInt (v : BitVec 32) : dbStrtol (decimalInt v.toInt) = .ok v := by
  have hmin := v.le_toInt
  have hmax := v.toInt_lt
  rw [dbStrtol_decimalInt (by rw [longMin]; omega) (by rw [longMax]; omega), low, BitVec.ofInt_toInt]

/-! ## A library as it is documented -/

/-- The texts in the database, by the places that queries name -/
abbrev TextDb := Query → Option (List Byte)

/-- It finds a place by its texts. -/
def textLibrary : VmLibrary TextDb where
  getAttribute q db := (db q).elim (.error .errno) .ok
  setAttribute q value db := (.ok (), fun q' => if q' = q then (db q').map fun _ => value else db q')

def IntField.all : List IntField :=
  [.entityReset, .entityPower, .maxSpeed, .presence, .faultStatus, .speed, .alertOn, .temperature, .thresholdLow,
    .thresholdHigh, .thresholdCritical]

theorem find?_name (field : IntField) :
    IntField.all.find? (fun f => bytesOf f.name = bytesOf field.name) = some field := by
  cases field <;> rfl

theorem IntField.name_inj {f f' : IntField} (h : bytesOf f.name = bytesOf f'.name) : f = f' := by
  have hf := find?_name f
  rw [h, find?_name f'] at hf
  exact (Option.some.inj hf).symm

theorem name_ne_target (f : IntField) (text : List Byte) : bytesOf f.name ≠ bytesOf "Target_" ++ text := by
  have htake : (bytesOf f.name).take 7 ≠ bytesOf "Target_" := by
    cases f <;> decide
  intro h
  rw [h] at htake
  exact htake rfl

theorem Column.name_inj {c c' : Column} (h : c.name = c'.name) : c = c' := by
  obtain ⟨f, target⟩ := c
  obtain ⟨f', target'⟩ := c'
  cases target <;> cases target'
  · rw [IntField.name_inj (show bytesOf f.name = bytesOf f'.name from h)]
  · exact absurd h (name_ne_target f _)
  · exact absurd h.symm (name_ne_target f' _)
  · rw [IntField.name_inj (show bytesOf f.name = bytesOf f'.name from List.append_cancel_left h)]

theorem uint_eq_of_condText {hdl hdl' : Handle} (h : condText hdl = condText hdl') : uint hdl = uint hdl' := by
  rw [condText, condText, List.append_cancel_left_eq, decimal_inj] at h
  exact BitVec.eq_of_toNat_eq h

theorem resourceQuery_ne (column : ResourceColumn) (condition : Condition ResourceColumn) (c : Column) (hdl : Handle) :
    resourceQuery column condition ≠ c.query hdl := by
  intro h
  have htable : bytesOf "Entity_Resource" = bytesOf c.field.table := congrArg Query.table h
  cases hfield : c.field <;> rw [hfield] at htable <;> exact absurd htable (by decide)

theorem textLibrary_self (c : Column) (hdl : Handle) (value : BitVec 32) (db : TextDb) :
    textLibrary.read c hdl (textLibrary.update c hdl value db).2 =
      (textLibrary.read c hdl db).map fun _ => decimalInt value.toInt := by
  simp only [VmLibrary.read, VmLibrary.update, textLibrary, ↓reduceIte]
  cases db (c.query hdl) <;> rfl

theorem textLibrary_of_ne {q : Query} {c : Column} {hdl : Handle} (h : q ≠ c.query hdl) (value : BitVec 32)
    (db : TextDb) :
    textLibrary.getAttribute q (textLibrary.update c hdl value db).2 = textLibrary.getAttribute q db := by
  simp only [VmLibrary.update, textLibrary, if_neg h]

/-- There is a library that does with the texts what SQL says. -/
theorem textLibrary_documented : textLibrary.Documented where
  failed h := by cases h
  updated := by
    rintro c hdl value db db' hset text htext
    obtain rfl := congrArg Prod.snd hset
    rw [textLibrary_self] at htext
    cases hold : textLibrary.read c hdl db with
    | error rc =>
        rw [hold] at htext
        cases htext
    | ok old =>
        rw [hold] at htext
        exact (Except.ok.inj htext).symm
  row := by
    rintro c hdl value db db' hset text htext
    obtain rfl := congrArg Prod.snd hset
    exact ⟨decimalInt value.toInt, by rw [textLibrary_self, htext]; rfl⟩
  others := by
    rintro c hdl value db db' hset c' hdl' hne
    obtain rfl := congrArg Prod.snd hset
    refine textLibrary_of_ne (fun h => ?_) _ _
    exact hne (Column.name_inj (congrArg Query.column h)) (uint_eq_of_condText (congrArg Query.condition h))
  resources := by
    rintro c hdl value db db' hset column condition
    obtain rfl := congrArg Prod.snd hset
    exact textLibrary_of_ne (resourceQuery_ne column condition c hdl) _ _

/-! ## What calls rely on -/

variable {Db : Type} {lib : VmLibrary Db} {d d' : Db} {α β : Type} {P : α → Prop} {P' : β → Prop}

/-- The queries that no call changes the answers to -/
def Constant (q : Query) : Prop :=
  (∃ hdl, q = (Column.regular .maxSpeed).query hdl) ∨ ∃ column condition, q = resourceQuery column condition

variable (lib d) in
/-- What a query answers while the constant ones answer as in `d`. -/
def Answers : (op : VmOp) → op.Resp → Prop
  | .getAttribute q, r => Constant q → r = lib.getAttribute q d
  | .setAttribute _ _, _ => True

variable (lib d) in
/-- A value that calls may set -/
structure Permitted (c : Column) (hdl : Handle) (value : BitVec 32) : Prop where
  maxSpeed : c.field ≠ .maxSpeed
  speed : c.field = .speed → ∀ maxSpeed, lib.fanMaxSpeed d hdl = .ok maxSpeed → value ≤ maxSpeed

variable (lib d) in
def Grants : VmOp → Prop
  | .getAttribute _ => True
  | .setAttribute q text =>
      ∃ c hdl value, q = Column.query c hdl ∧ text = decimalInt value.toInt ∧ Permitted lib d c hdl value

variable (lib d) in
/-- The constant queries answer as in `d`, and a speed is as in `d` or one that a call may set. -/
structure Follows (d' : Db) : Prop where
  constant : ∀ q, Constant q → lib.getAttribute q d' = lib.getAttribute q d
  speeds : ∀ target hdl text, lib.read ⟨.speed, target⟩ hdl d' = .ok text →
    lib.read ⟨.speed, target⟩ hdl d = .ok text ∨
      ∃ value, text = decimalInt value.toInt ∧ ∀ maxSpeed, lib.fanMaxSpeed d hdl = .ok maxSpeed → value ≤ maxSpeed

variable (lib d) in
def Guarded (P : α → Prop) (x : VmM α) : Prop := x.run.Safe (Grants lib d) (Answers lib d) fun r => ∀ a, r = .ok a → P a

theorem Follows.refl : Follows lib d d := ⟨fun _ _ => rfl, fun _ _ _ h => .inl h⟩

theorem fanMaxSpeed_congr {hdl hdl' : Handle} (h : uint hdl = uint hdl') :
    lib.fanMaxSpeed d hdl = lib.fanMaxSpeed d hdl' := by
  simp only [VmLibrary.fanMaxSpeed, VmLibrary.associatedInfo, parentEntityCondition, h]

theorem Follows.answers (h : Follows lib d d') (op : VmOp) : Answers lib d op (lib.port.exec op d').1 := by
  cases op with
  | getAttribute q => exact fun hq => h.constant q hq
  | setAttribute q value => trivial

/-- What an update leaves of a constant query. -/
theorem constant_update (hlib : lib.Documented) {c : Column} {hdl : Handle} {value : BitVec 32}
    (hset : lib.update c hdl value d = (.ok (), d')) (hc : c.field ≠ .maxSpeed) {q : Query} (hq : Constant q) :
    lib.getAttribute q d' = lib.getAttribute q d := by
  rcases hq with ⟨infoHdl, rfl⟩ | ⟨column, condition, rfl⟩
  · exact hlib.others hset fun heq => absurd (congrArg Column.field heq).symm hc
  · exact hlib.resources hset column condition

theorem Follows.update (hlib : lib.Documented) (h : Follows lib d d') {c : Column} {hdl : Handle} {value : BitVec 32}
    (hvalue : Permitted lib d c hdl value) : Follows lib d (lib.update c hdl value d').2 := by
  cases hset : lib.update c hdl value d' with
  | mk r d'' =>
      cases r with
      | error rc =>
          rw [hlib.failed hset]
          exact h
      | ok u =>
          refine ⟨fun q hq => (constant_update hlib hset hvalue.maxSpeed hq).trans (h.constant q hq),
            fun target fanHdl text htext => ?_⟩
          by_cases hsame : c = ⟨.speed, target⟩ ∧ uint fanHdl = uint hdl
          · -- the row that the update is about
            obtain ⟨rfl, hhdl⟩ := hsame
            rw [read_congr _ _ hhdl] at htext
            refine .inr ⟨value, hlib.updated hset text htext, fun maxSpeed hmax => ?_⟩
            exact hvalue.speed rfl maxSpeed ((fanMaxSpeed_congr hhdl).symm.trans hmax)
          · rw [hlib.others hset fun heq hhdl => hsame ⟨heq.symm, hhdl⟩] at htext
            exact h.speeds target fanHdl text htext

theorem Follows.exec (hlib : lib.Documented) (h : Follows lib d d') (op : VmOp) (hop : Grants lib d op) :
    Follows lib d (lib.port.exec op d').2 := by
  cases op with
  | getAttribute q => exact h
  | setAttribute q text =>
      obtain ⟨c, hdl, value, rfl, rfl, hvalue⟩ := hop
      exact h.update hlib hvalue

/-! ## Steps of a call -/

theorem guarded_pure {a : α} (h : P a) : Guarded lib d P (pure a) := fun b hb => by
  cases hb
  exact h

theorem guarded_throw (e : TStdError) : Guarded lib d P (throw e) := fun b hb => by cases hb

theorem Guarded.bind {x : VmM α} {f : α → VmM β} (hx : Guarded lib d P x)
    (hf : ∀ a, P a → Guarded lib d P' (f a)) : Guarded lib d P' (x >>= f) := by
  refine Proc.Safe.bind hx fun r hr => ?_
  cases r with
  | error e => exact fun b hb => by cases hb
  | ok a => exact hf a (hr a rfl)

theorem Guarded.mono {Q : α → Prop} {x : VmM α} (hx : Guarded lib d P x) (h : ∀ a, P a → Q a) : Guarded lib d Q x :=
  Proc.Safe.mono hx fun _ hr a ha => h a (hr a ha)

theorem Guarded.map {x : VmM α} (hx : Guarded lib d P x) (f : α → β) : Guarded lib d (fun _ => True) (f <$> x) := by
  refine Proc.Safe.bind hx fun r _ => ?_
  cases r <;> exact fun _ _ => trivial

theorem guarded_read (q : Query) :
    Guarded lib d (fun text => Constant q → lib.getAttribute q d = .ok text) (dbSqlGetAttribute q) := by
  refine ⟨trivial, fun e a ha => (by cases ha), fun r hr a ha hq => ?_⟩
  have hanswer : r = lib.getAttribute q d := hr hq
  rw [← hanswer]
  exact ha

theorem guarded_strtol (text : List Byte) :
    Guarded lib d (fun v => dbStrtol text = .ok v) (strtolResult text) := fun _ h => h

theorem guarded_get (field : IntField) (hdl : Handle) :
    Guarded lib d (fun v => Constant ((Column.regular field).query hdl) → lib.int d (.regular field) hdl = .ok v)
      (dbIntFieldGet field hdl) := by
  refine (guarded_read _).bind fun text htext v hv hq => ?_
  rw [VmLibrary.int, VmLibrary.read, htext hq]
  exact hv

theorem guarded_set {c : Column} {hdl : Handle} {value : BitVec 32} (h : Permitted lib d c hdl value) :
    Guarded lib d (fun _ => True) (dbIntFieldSet c hdl value) :=
  ⟨⟨c, hdl, value, rfl, rfl, h⟩, fun _ _ _ => trivial, fun _ _ _ _ => trivial⟩

theorem guarded_targetSet {w : Bool} {field : IntField} {hdl : Handle} {value : BitVec 32}
    (h : ∀ target, Permitted lib d ⟨field, target⟩ hdl value) :
    Guarded lib d (fun _ => True) (dbIntFieldTargetSet w field hdl value) := by
  refine (guarded_set (h true)).bind fun _ _ => ?_
  cases w with
  | true => exact guarded_set (h false)
  | false => exact guarded_pure trivial

theorem guarded_handle (column : ResourceColumn) (condition : Condition ResourceColumn) :
    Guarded lib d (fun hdl => lib.handle d column condition = .ok hdl) (dbGetHandle column condition) := by
  refine (guarded_read _).bind fun text htext => (guarded_strtol text).bind fun v hv => guarded_pure ?_
  rw [VmLibrary.handle, htext (.inr ⟨column, condition, rfl⟩)]
  change (dbStrtol text).map toHandle = _
  rw [hv]
  rfl

theorem guarded_maxSpeed (fanHdl : Handle) :
    Guarded lib d (fun m => lib.fanMaxSpeed d fanHdl = .ok m) (fanMaxSpeedGet fanHdl) := by
  refine Guarded.bind (P := fun info => lib.associatedInfo d fanHdl resourceFan = .ok info) ?_ fun info hinfo => ?_
  · refine (guarded_handle _ _).bind fun parent hparent => ?_
    rw [VmLibrary.associatedInfo, hparent]
    exact guarded_handle _ _
  · rw [VmLibrary.fanMaxSpeed, hinfo]
    exact (guarded_get _ _).mono fun m hm => hm (.inl ⟨info, rfl⟩)

/-! ## Each call -/

theorem guarded_fanSpeedSet (w : Bool) (fanHdl : Handle) (speed : BitVec 32) :
    Guarded lib d (fun _ => True) (fanSpeedSet w fanHdl speed) := by
  refine (guarded_maxSpeed fanHdl).bind fun maxSpeed hmax => ?_
  by_cases hlt : maxSpeed < speed
  · rw [if_pos hlt]
    exact (guarded_throw (P := fun _ => False) _).bind fun _ h => h.elim
  · rw [if_neg hlt]
    refine guarded_targetSet fun target => ⟨fun h => (by cases h), fun _ m hm => ?_⟩
    rw [hmax] at hm
    cases hm
    exact BitVec.not_lt.mp hlt

theorem guarded_targetFree {w : Bool} {field : IntField} (hmax : field ≠ .maxSpeed) (hspeed : field ≠ .speed)
    (hdl : Handle) (value : BitVec 32) : Guarded lib d (fun _ => True) (dbIntFieldTargetSet w field hdl value) :=
  guarded_targetSet fun _ => ⟨hmax, fun h => absurd h hspeed⟩

theorem guarded_thresholdSet (w : Bool) (sensorHdl : Handle) (type : Option Thermal.Threshold) (val : BitVec 32) :
    Guarded lib d (fun _ => True) (temperatureThresholdSet w sensorHdl type val) := by
  cases type with
  | none => exact guarded_throw _
  | some type => cases type <;> exact guarded_targetFree (by decide) (by decide) sensorHdl val

theorem guarded_thresholdGet (sensorHdl : Handle) (type : Option Thermal.Threshold) :
    Guarded lib d (fun _ => True) (temperatureThresholdGet sensorHdl type) := by
  cases type with
  | none => exact guarded_throw _
  | some type => exact (guarded_get _ _).mono fun _ _ => trivial

theorem guarded_entityReset (w : Bool) (hdl : Handle) (type : BitVec 32) :
    Guarded lib d (fun _ => True) (entityReset w hdl type) :=
  (guarded_handle _ _).bind fun info _ => guarded_targetFree (by decide) (by decide) info type

theorem guarded_entityPower (w : Bool) (hdl : Handle) (enable : Bool) :
    Guarded lib d (fun _ => True) (entityPowerStatusControl w hdl enable) :=
  (guarded_handle _ _).bind fun info _ => guarded_targetFree (by decide) (by decide) info _

theorem guarded_flagGet (field : IntField) (hdl : Handle) : Guarded lib d (fun _ => True) (dbEntityFlagGet field hdl) :=
  (guarded_handle _ _).bind fun info _ => (guarded_get field info).bind fun _ _ => guarded_pure trivial

theorem guarded_flagSet {field : IntField} (hmax : field ≠ .maxSpeed) (hspeed : field ≠ .speed) (hdl : Handle)
    (flag : Bool) : Guarded lib d (fun _ => True) (dbEntityFlagSet field hdl flag) :=
  (guarded_handle _ _).bind fun _ _ => guarded_set ⟨hmax, fun h => absurd h hspeed⟩

theorem guarded_conversion (fanHdl : Handle) (f : BitVec 32 → BitVec 32) :
    Guarded lib d (fun _ => True) (fanMaxSpeedGet fanHdl >>= fun maxSpeed => pure (f maxSpeed)) :=
  (guarded_maxSpeed fanHdl).bind fun _ _ => guarded_pure trivial

theorem guarded_vmCall (w : Bool) (c : VmCall) : Guarded lib d (fun _ => True) (vmCall w c) := by
  cases c with
  | fanSpeedGet hdl => exact (guarded_get .speed hdl).map _
  | fanSpeedSet hdl speed => exact (guarded_fanSpeedSet w hdl speed).map _
  | fanStatusGet hdl =>
      exact Guarded.map ((guarded_get .alertOn hdl).bind fun _ _ => guarded_pure (P := fun _ => True) trivial) _
  | fanSpeedRpmToPct hdl rpm => exact (guarded_conversion hdl (rpmToPct · rpm)).map _
  | fanSpeedPctToRpm hdl pct => exact (guarded_conversion hdl (pctToRpm · pct)).map _
  | temperatureGet hdl => exact (guarded_get .temperature hdl).map _
  | temperatureThresholdGet hdl type => exact (guarded_thresholdGet hdl type).map _
  | temperatureThresholdSet hdl type val => exact (guarded_thresholdSet w hdl type val).map _
  | entityReset hdl type => exact (guarded_entityReset w hdl type).map _
  | entityPowerStatusControl hdl enable => exact (guarded_entityPower w hdl enable).map _
  | entityInit hdl =>
      exact ((guarded_entityReset w hdl coldReset).bind fun _ _ => guarded_entityPower w hdl true).map _
  | entityPresenceGet hdl => exact (guarded_flagGet .presence hdl).map _
  | entityPresenceSet hdl present => exact (guarded_flagSet (by decide) (by decide) hdl present).map _
  | entityFaultStatusGet hdl => exact (guarded_flagGet .faultStatus hdl).map _
  | entityFaultStatusSet hdl faultStatus => exact (guarded_flagSet (by decide) (by decide) hdl faultStatus).map _

/-! ## Every interleaving -/

theorem follows_runVm (hlib : lib.Documented) (w : Bool) (d : Db) (events : List (Event Nat VmCall TStdError Empty)) :
    Follows lib d (runVm w lib d events).dev :=
  Calls.run_safe (fun op _ h => h.answers op) (fun op _ h hop => h.exec hlib op hop) (fun _ _ h => h)
    (fun c => guarded_vmCall w c) .refl () events

theorem Follows.fanMaxSpeed (h : Follows lib d d') (fanHdl : Handle) :
    lib.fanMaxSpeed d' fanHdl = lib.fanMaxSpeed d fanHdl := by
  have hhandle : ∀ column condition, lib.handle d' column condition = lib.handle d column condition :=
    fun column condition => by
      rw [VmLibrary.handle, VmLibrary.handle, h.constant _ (.inr ⟨column, condition, rfl⟩)]
  have hint : ∀ info : Handle, lib.int d' (.regular .maxSpeed) info = lib.int d (.regular .maxSpeed) info :=
    fun info => by rw [VmLibrary.int, VmLibrary.int, VmLibrary.read, VmLibrary.read, h.constant _ (.inl ⟨info, rfl⟩)]
  simp only [VmLibrary.fanMaxSpeed, VmLibrary.associatedInfo, hhandle, funext hint]

/-- In every interleaving of calls on the VM devices, whichever queries fail, no fan is set above its maximum
speed. -/
theorem fan_speeds_bounded (hlib : lib.Documented) (w : Bool) {d : Db} (h : lib.SpeedsBounded d)
    (events : List (Event Nat VmCall TStdError Empty)) : lib.SpeedsBounded (runVm w lib d events).dev := by
  intro fanHdl target maxSpeed speed hmax hspeed
  have hfollows := follows_runVm hlib w d events
  rw [hfollows.fanMaxSpeed] at hmax
  rw [VmLibrary.int] at hspeed
  cases htext : lib.read ⟨.speed, target⟩ fanHdl (runVm w lib d events).dev with
  | error rc =>
      rw [htext] at hspeed
      cases hspeed
  | ok text =>
      rw [htext] at hspeed
      obtain hold | ⟨value, rfl, hvalue⟩ := hfollows.speeds target fanHdl text htext
      · refine h fanHdl target maxSpeed speed hmax ?_
        rw [VmLibrary.int, hold]
        exact hspeed
      · obtain rfl := Except.ok.inj ((dbStrtol_decimalInt_toInt value).symm.trans hspeed)
        exact hvalue maxSpeed hmax

/-- A fan of resource handle 2, whose entity has its info under the handle 1. -/
def oneFan : TextDb := fun q =>
  if q = (Column.regular .speed).query 2 ∨ q = (Column.toTarget .speed).query 2 then some (bytesOf "3000")
  else if q = (Column.regular .maxSpeed).query 1 then some (bytesOf "9000")
  else if q = resourceQuery .entityHandle (parentEntityCondition 2 resourceFan) ∨
      q = resourceQuery .resourceHandle (firstResourceCondition 1 resourceEntityInfo) then some (bytesOf "1")
  else none

theorem fanMaxSpeed_oneFan : textLibrary.fanMaxSpeed oneFan 2 = .ok 9000 := by rfl

theorem speedsBounded_oneFan : textLibrary.SpeedsBounded oneFan := by
  intro fanHdl target maxSpeed speed hmax hspeed
  have hfan : Column.query ⟨.speed, target⟩ fanHdl = (Column.regular .speed).query 2 ∨
      Column.query ⟨.speed, target⟩ fanHdl = (Column.toTarget .speed).query 2 := by
    by_contra hne
    have hinfo : Column.query ⟨.speed, target⟩ fanHdl ≠ (Column.regular .maxSpeed).query 1 := fun h => by
      cases Column.name_inj (congrArg Query.column h)
    have hresource : ¬ (Column.query ⟨.speed, target⟩ fanHdl =
        resourceQuery .entityHandle (parentEntityCondition 2 resourceFan) ∨ Column.query ⟨.speed, target⟩ fanHdl =
        resourceQuery .resourceHandle (firstResourceCondition 1 resourceEntityInfo)) := fun h =>
      h.elim (fun h => resourceQuery_ne _ _ _ _ h.symm) fun h => resourceQuery_ne _ _ _ _ h.symm
    simp only [VmLibrary.int, VmLibrary.read, textLibrary, oneFan, if_neg hne, if_neg hinfo, if_neg hresource] at hspeed
    cases hspeed
  have hhdl : uint fanHdl = uint 2 :=
    uint_eq_of_condText (hfan.elim (congrArg Query.condition) (congrArg Query.condition))
  simp only [VmLibrary.int, VmLibrary.read, textLibrary, oneFan, if_pos hfan] at hspeed
  obtain rfl : (3000 : BitVec 32) = speed := Except.ok.inj hspeed
  rw [fanMaxSpeed_congr hhdl, fanMaxSpeed_oneFan] at hmax
  obtain rfl := Except.ok.inj hmax
  decide

/-- Two threads set the fan at once, and one is refused. -/
theorem oneFan_stays_bounded : textLibrary.SpeedsBounded (runVm true textLibrary oneFan
    [.call 0 (.fanSpeedSet 2 9000), .call 1 (.fanSpeedSet 2 9001), .go 0 none, .go 1 none, .go 0 none, .go 1 none,
      .go 0 none, .go 1 none, .go 0 none, .go 1 none, .go 0 none, .go 0 none]).dev :=
  fan_speeds_bounded textLibrary_documented true speedsBounded_oneFan _

/-! ## Speeds in percent -/

variable (lib) in
/-- What the call returns and leaves when it runs alone and no query is lost. -/
def VmM.alone (x : VmM α) (d : Db) : Except TStdError α × Db :=
  ((x.run.solo lib.port d ()).1, (x.run.solo lib.port d ()).2.1)

theorem alone_bind {x : VmM α} {f : α → VmM β} {a : α} (h : x.alone lib d = (.ok a, d')) :
    (x >>= f).alone lib d = (f a).alone lib d' := by
  have hx : x.run.solo lib.port d () = (.ok a, d', ()) := Prod.ext (Prod.mk.inj h).1 (Prod.ext (Prod.mk.inj h).2 rfl)
  change (((x.run.bind (ExceptT.bindCont f)).solo lib.port d ()).1,
    ((x.run.bind (ExceptT.bindCont f)).solo lib.port d ()).2.1) = _
  rw [Proc.solo_bind, hx]
  rfl

theorem alone_bind_error {x : VmM α} {f : α → VmM β} {rc : TStdError} (h : x.alone lib d = (.error rc, d')) :
    (x >>= f).alone lib d = (.error rc, d') := by
  have hx : x.run.solo lib.port d () = (.error rc, d', ()) :=
    Prod.ext (Prod.mk.inj h).1 (Prod.ext (Prod.mk.inj h).2 rfl)
  change (((x.run.bind (ExceptT.bindCont f)).solo lib.port d ()).1,
    ((x.run.bind (ExceptT.bindCont f)).solo lib.port d ()).2.1) = _
  rw [Proc.solo_bind, hx]
  rfl

theorem alone_bind_ok {x : VmM α} {f : α → VmM β} {b : β} (h : (x >>= f).alone lib d = (.ok b, d')) :
    ∃ a d₁, x.alone lib d = (.ok a, d₁) ∧ (f a).alone lib d₁ = (.ok b, d') := by
  cases hx : x.alone lib d with
  | mk r d₁ =>
      cases r with
      | error rc =>
          rw [alone_bind_error hx] at h
          cases h
      | ok a => exact ⟨a, d₁, rfl, (alone_bind hx).symm.trans h⟩

/-- A part that only reads. -/
theorem alone_bind_read {x : VmM α} {f : α → VmM β} {r : Except TStdError α} {g : α → Except TStdError β}
    (hx : x.alone lib d = (r, d)) (hf : ∀ a, (f a).alone lib d = (g a, d)) :
    (x >>= f).alone lib d = (r.bind g, d) := by
  cases r with
  | ok a => exact (alone_bind hx).trans (hf a)
  | error rc => exact alone_bind_error hx

theorem alone_dbSqlGetAttribute (q : Query) : (dbSqlGetAttribute q).alone lib d = (lib.getAttribute q d, d) := rfl

theorem alone_strtolResult (text : List Byte) : (strtolResult text).alone lib d = (dbStrtol text, d) := rfl

theorem alone_dbIntFieldGet (field : IntField) (hdl : Handle) :
    (dbIntFieldGet field hdl).alone lib d = (lib.int d (.regular field) hdl, d) :=
  alone_bind_read (alone_dbSqlGetAttribute _) fun _ => alone_strtolResult _

theorem alone_dbGetHandle (column : ResourceColumn) (condition : Condition ResourceColumn) :
    (dbGetHandle column condition).alone lib d = (lib.handle d column condition, d) := by
  refine (alone_bind_read (alone_dbSqlGetAttribute _) fun text =>
    alone_bind_read (g := fun v => .ok (toHandle v)) (alone_strtolResult text) fun _ => rfl).trans ?_
  rw [VmLibrary.handle]
  cases lib.getAttribute (resourceQuery column condition) d with
  | error rc => rfl
  | ok text => exact congrArg (·, d) (show (dbStrtol text).bind _ = (dbStrtol text).map toHandle by
      cases dbStrtol text <;> rfl)

theorem alone_fanMaxSpeedGet (fanHdl : Handle) : (fanMaxSpeedGet fanHdl).alone lib d = (lib.fanMaxSpeed d fanHdl, d) :=
  alone_bind_read (alone_bind_read (alone_dbGetHandle _ _) fun _ => alone_dbGetHandle _ _) fun _ =>
    alone_dbIntFieldGet _ _

/-- A target set makes its two updates. -/
theorem alone_targetSet {field : IntField} {hdl : Handle} {value : BitVec 32}
    (h : (dbIntFieldTargetSet true field hdl value).alone lib d = (.ok (), d')) :
    ∃ d₁, lib.update (.toTarget field) hdl value d = (.ok (), d₁) ∧
      lib.update (.regular field) hdl value d₁ = (.ok (), d') := by
  obtain ⟨_, d₁, htarget, hregular⟩ := alone_bind_ok h
  exact ⟨d₁, htarget, hregular⟩

/-- A column in which a resource has a row holds the value after an update. -/
theorem int_update (hlib : lib.Documented) {c : Column} {hdl : Handle} {value : BitVec 32} {text : List Byte}
    (hset : lib.update c hdl value d = (.ok (), d')) (hrow : lib.read c hdl d = .ok text) :
    lib.int d' c hdl = .ok value := by
  obtain ⟨text', htext⟩ := hlib.row hset text hrow
  rw [VmLibrary.int, htext, hlib.updated hset text' htext]
  exact dbStrtol_decimalInt_toInt value

theorem toNat_pctToRpm {maxSpeed pct : BitVec 32} (hmax : 0 < maxSpeed.toNat)
    (hfits : pct.toNat * maxSpeed.toNat < 2 ^ 32) :
    (pctToRpm maxSpeed pct).toNat = pct.toNat * maxSpeed.toNat / 100 := by
  have hne : maxSpeed ≠ 0 := by
    rintro rfl
    simp at hmax
  rw [pctToRpm, if_neg hne, BitVec.toNat_udiv, BitVec.toNat_mul, Nat.mod_eq_of_lt hfits]
  rfl

/-- A percentage that is set through the speed in rpm reads back as itself if it is a whole number of rpm, and as
one less otherwise. -/
theorem rpmToPct_pctToRpm {maxSpeed pct : BitVec 32} (hmax : 100 ≤ maxSpeed.toNat)
    (hfits : pct.toNat * maxSpeed.toNat < 2 ^ 32) : rpmToPct maxSpeed (pctToRpm maxSpeed pct) =
      if 100 ∣ pct.toNat * maxSpeed.toNat then pct else pct - 1 := by
  have hne : maxSpeed ≠ 0 := by
    rintro rfl
    simp at hmax
  have hrpm := toNat_pctToRpm (by omega) hfits
  have hhundred : (100 : BitVec 32).toNat = 100 := rfl
  have hdiv := Nat.div_add_mod (pct.toNat * maxSpeed.toNat) 100
  rw [rpmToPct, if_neg hne, ← BitVec.toNat_inj, BitVec.toNat_udiv, BitVec.toNat_mul, hrpm, hhundred,
    Nat.mod_eq_of_lt (by omega)]
  split
  · rename_i hdvd
    rw [Nat.mul_div_cancel' hdvd, Nat.mul_div_cancel _ (by omega)]
  · rename_i hdvd
    have hrest : 0 < pct.toNat * maxSpeed.toNat % 100 := Nat.pos_of_ne_zero fun h => hdvd (Nat.dvd_of_mod_eq_zero h)
    have hlt : pct.toNat * maxSpeed.toNat % 100 < 100 := Nat.mod_lt _ (by decide)
    have hpct : 1 ≤ pct.toNat := Nat.one_le_iff_ne_zero.mpr fun h => hdvd (by
      rw [h, Nat.zero_mul]
      exact Nat.dvd_zero _)
    rw [BitVec.toNat_sub_of_le hpct]
    refine Nat.div_eq_of_lt_le ?_ ?_
    · change (pct.toNat - 1) * maxSpeed.toNat ≤ _
      rw [Nat.sub_one_mul]
      omega
    · change _ < (pct.toNat - 1 + 1) * maxSpeed.toNat
      rw [Nat.sub_add_cancel hpct]
      omega

theorem pctToRpm_le {maxSpeed pct : BitVec 32} (hmax : 0 < maxSpeed.toNat) (hpct : pct.toNat ≤ 100)
    (hfits : pct.toNat * maxSpeed.toNat < 2 ^ 32) : pctToRpm maxSpeed pct ≤ maxSpeed := by
  rw [BitVec.le_def, toNat_pctToRpm hmax hfits]
  exact Nat.div_le_of_le_mul (Nat.mul_le_mul_right _ hpct)

/-- Setting a percentage and reading it back, with the regular column written beside the target column. -/
theorem fan_percent_reads_back (hlib : lib.Documented) {fanHdl : Handle} {maxSpeed pct : BitVec 32}
    (hmax : lib.fanMaxSpeed d fanHdl = .ok maxSpeed) {text : List Byte}
    (hrow : lib.read (.regular .speed) fanHdl d = .ok text) (hhundred : 100 ≤ maxSpeed.toNat)
    (hpct : pct.toNat ≤ 100) (hfits : pct.toNat * maxSpeed.toNat < 2 ^ 32)
    (hset : (fanSpeedPctToRpm fanHdl pct >>= fanSpeedSet true fanHdl).alone lib d = (.ok (), d')) :
    (fanSpeedGet fanHdl >>= fanSpeedRpmToPct fanHdl).alone lib d' =
      (.ok (if 100 ∣ pct.toNat * maxSpeed.toNat then pct else pct - 1), d') := by
  have hrpm := pctToRpm_le (by omega) hpct hfits
  have hpctToRpm : (fanSpeedPctToRpm fanHdl pct).alone lib d = (.ok (pctToRpm maxSpeed pct), d) :=
    (alone_bind_read (alone_fanMaxSpeedGet fanHdl) fun _ => rfl).trans (by rw [hmax]; rfl)
  rw [alone_bind hpctToRpm, fanSpeedSet, alone_bind ((alone_fanMaxSpeedGet fanHdl).trans (by rw [hmax])),
    if_neg (BitVec.not_lt.mpr hrpm)] at hset
  obtain ⟨d₁, htarget, hregular⟩ := alone_targetSet hset
  have hpermitted : ∀ target, Permitted lib d ⟨.speed, target⟩ fanHdl (pctToRpm maxSpeed pct) := fun target =>
    ⟨fun h => (by cases h), fun _ m hm => by rw [hmax] at hm; cases hm; exact hrpm⟩
  have htargetSet := Follows.refl.update hlib (hpermitted true)
  rw [show (⟨.speed, true⟩ : Column) = .toTarget .speed from rfl, htarget] at htargetSet
  have hregularSet := htargetSet.update hlib (hpermitted false)
  rw [show (⟨.speed, false⟩ : Column) = .regular .speed from rfl, hregular] at hregularSet
  have hmax' : lib.fanMaxSpeed d' fanHdl = .ok maxSpeed := (hregularSet.fanMaxSpeed fanHdl).trans hmax
  have hrow' : lib.read (.regular .speed) fanHdl d₁ = .ok text :=
    (hlib.others htarget fun h => by cases h).trans hrow
  have hread : (fanSpeedGet fanHdl).alone lib d' = (.ok (pctToRpm maxSpeed pct), d') :=
    (alone_dbIntFieldGet .speed fanHdl).trans (by rw [int_update hlib hregular hrow'])
  rw [alone_bind hread, fanSpeedRpmToPct, alone_bind ((alone_fanMaxSpeedGet fanHdl).trans (by rw [hmax'])),
    rpmToPct_pctToRpm hhundred hfits]
  rfl

/-- Half of a maximum of 9000, a whole number of rpm -/
theorem oneFan_percent_reads_back :
    (fanSpeedGet 2 >>= fanSpeedRpmToPct 2).alone textLibrary
      ((fanSpeedPctToRpm 2 50 >>= fanSpeedSet true 2).alone textLibrary oneFan).2 =
      (.ok 50, ((fanSpeedPctToRpm 2 50 >>= fanSpeedSet true 2).alone textLibrary oneFan).2) :=
  fan_percent_reads_back textLibrary_documented fanMaxSpeed_oneFan
    (show textLibrary.read (.regular .speed) 2 oneFan = .ok (bytesOf "3000") by rfl) (by decide)
    (show (50#32).toNat ≤ 100 by decide) (by decide) (Prod.ext (by rfl) (by rfl))

end OpxSdi.VmCore
