import OpxSdi.Bmc.SensorDb
import OpxSdi.Lib.Format

/-!
# Keys made from an entity and a name

Such a key is never cut, and its numbers end at the first dot after them, so it tells the entity and the
name.
-/

namespace OpxSdi.Bmc

open Lib

theorem decimal_injective {x y : BitVec 32} (h : decimal x = decimal y) : x = y := by
  have hnat : x.toNat = y.toNat := by
    calc
      x.toNat = Nat.ofDigitChars 10 (decimal x) 0 := Nat.ofDigitChars_ten_toDigits.symm
      _ = Nat.ofDigitChars 10 (decimal y) 0 := by rw [h]
      _ = y.toNat := Nat.ofDigitChars_ten_toDigits
  exact BitVec.eq_of_toNat_eq hnat

theorem dot_notMem_decimal (x : BitVec 32) : '.' ∉ decimal x := fun h => by
  have hdigit : Char.isDigit '.' := Nat.isDigit_of_mem_toDigits (by decide) (by decide) h
  cases hdigit

theorem decimal_length (x : BitVec 32) : (decimal x).length ≤ 10 := by
  refine (Nat.length_toDigits_le_iff (by decide) (by decide)).mpr ?_
  have := x.isLt
  omega

theorem sensorKey_uncut {id inst : BitVec 32} {name : List Char} (h : name.length < 64) :
    sensorKey id inst name = "sensor.".toList ++ decimal id ++ '.' :: (decimal inst ++ '.' :: name) := by
  have hid := decimal_length id
  have hinst := decimal_length inst
  have hsensor : "sensor.".toList.length = 7 := by decide
  refine List.take_of_length_le ?_
  simp only [List.length_append, List.length_cons, hsensor, dbKeyLen]
  omega

theorem sensorKey_injective {id inst id' inst' : BitVec 32} {name name' : List Char} (hn : name.length < 64)
    (hn' : name'.length < 64) (h : sensorKey id inst name = sensorKey id' inst' name') :
    id = id' ∧ inst = inst' ∧ name = name' := by
  rw [sensorKey_uncut hn, sensorKey_uncut hn', List.append_assoc, List.append_assoc] at h
  obtain ⟨hid, hrest⟩ := cut_injective (dot_notMem_decimal id) (dot_notMem_decimal id')
    (List.append_cancel_left h)
  obtain ⟨hinst, hname⟩ := cut_injective (dot_notMem_decimal inst) (dot_notMem_decimal inst') hrest
  exact ⟨decimal_injective hid, decimal_injective hinst, hname⟩

/-! ## The calls that the records come from

Without the records themselves, the database is a partial map from keys to the calls that have made the
live records. What a record says about its sensor is what its call has put there.
-/

/-! ### The map of origins -/

inductive Origin
  | triple (id inst : BitVec 32) (name : SensorName)
  | byName (name : SensorName)

namespace Origin

def key : Origin → List Char
  | triple id inst name => sensorKey id inst name.text
  | byName name => sensorKeyByName name.text

def name : Origin → SensorName
  | triple _ _ name => name
  | byName name => name

def identity : Origin → BitVec 32 × BitVec 32 × List Char
  | triple id inst name => (id, inst, name.text)
  | byName name => (0, 0, name.text)

end Origin

/-- The origin of the record that is live under a key. -/
abbrev Origins := List Char → Option Origin

namespace Origins

def add (o : Origins) (calloc : Bool) (origin : Origin) : Origins :=
  fun key => if key = origin.key ∧ calloc ∧ o key = none then some origin else o key

def step (o : Origins) : SensorOp → Origins
  | .add calloc id inst name => o.add calloc (.triple id inst name)
  | .addByName calloc name => o.add calloc (.byName name)
  | .remove id inst name => fun key => if key = sensorKey id inst name.text then none else o key
  | .cleanup => fun _ => none

def after (ops : List SensorOp) : Origins := run step (fun _ => none) ops

def Keyed (o : Origins) : Prop := ∀ key origin, o key = some origin → origin.key = key

theorem keyed_add {o : Origins} (h : o.Keyed) (calloc : Bool) (origin : Origin) :
    (o.add calloc origin).Keyed := by
  intro key origin' ho
  rw [add] at ho
  split at ho
  · rename_i hkey
    rw [← Option.some.inj ho, hkey.1]
  · exact h key origin' ho

theorem keyed_step {o : Origins} (h : o.Keyed) (op : SensorOp) : (o.step op).Keyed := by
  cases op with
  | add calloc id inst name => exact keyed_add h calloc _
  | addByName calloc name => exact keyed_add h calloc _
  | remove id inst name =>
      intro key origin ho
      simp only [step] at ho
      split at ho
      · cases ho
      · exact h key origin ho
  | cleanup =>
      intro key origin ho
      cases ho

theorem keyed_after (ops : List SensorOp) : (after ops).Keyed :=
  run_inv (C := fun _ _ => True) (fun _ op h _ => keyed_step h op) (fun _ _ h => by cases h)
    (along_iff _ |>.mpr fun _ _ _ _ => trivial)

end Origins

/-! ### The database has these origins -/

def BmcSensor.identity (sensor : BmcSensor) : BitVec 32 × BitVec 32 × List Char :=
  (sensor.entityId, sensor.entityInstance, sensor.name)

/-- The live records say what their origins have put there. -/
def SensorDb.Represents (db : SensorDb) (o : Origins) : Prop :=
  ∀ key, (db.sensorMap.find? key).map BmcSensor.identity = (o key).map Origin.identity

theorem addUnder_found {db : SensorDb} {key : List Char} {sensor : BmcSensor}
    (h : db.sensorMap.find? key = some sensor) (calloc : Bool) (init : BmcSensor → BmcSensor) :
    addUnder db calloc key init = (some sensor, db) := by
  simp only [addUnder, dataGet, h]

theorem addUnder_no_memory {db : SensorDb} {key : List Char} (h : db.sensorMap.find? key = none)
    (init : BmcSensor → BmcSensor) : addUnder db false key init = (none, db) := by
  simp [addUnder, dataGet, h]

theorem addUnder_new {db : SensorDb} {key : List Char} (h : db.sensorMap.find? key = none)
    (init : BmcSensor → BmcSensor) :
    addUnder db true key init = (some (init (.cleared db.nextAddr)),
      ⟨db.sensorMap.insert key (init (.cleared db.nextAddr)), db.nextAddr + 1⟩) := by
  simp [addUnder, dataGet, dataInsert, h]

theorem represents_addUnder {db : SensorDb} {o : Origins} (h : db.Represents o) (calloc : Bool)
    {origin : Origin} {init : BmcSensor → BmcSensor}
    (hinit : ∀ addr, (init (.cleared addr)).identity = origin.identity) :
    (addUnder db calloc origin.key init).2.Represents (o.add calloc origin) := by
  intro key
  cases hfind : db.sensorMap.find? origin.key with
  | some sensor =>
      have hlive := h origin.key
      rw [hfind] at hlive
      rw [addUnder_found hfind, h key, Origins.add, if_neg]
      rintro ⟨rfl, -, hnone⟩
      rw [hnone] at hlive
      cases hlive
  | none =>
      have hlive : o origin.key = none := by
        have hlive := h origin.key
        rw [hfind] at hlive
        exact Option.map_eq_none_iff.mp hlive.symm
      cases calloc with
      | false =>
          rw [addUnder_no_memory hfind, h key, Origins.add, if_neg]
          rintro ⟨-, hmem, -⟩
          cases hmem
      | true =>
          rw [addUnder_new hfind]
          simp only
          rw [SortedMap.find?_insert hfind, Origins.add]
          by_cases hkey : key = origin.key
          · rw [if_pos hkey, if_pos ⟨hkey, rfl, hkey ▸ hlive⟩, Option.map_some, Option.map_some, hinit]
          · rw [if_neg hkey, if_neg (fun hc => hkey hc.1), h key]

theorem safestrncpy_text {nameLen : Nat} (hlen : 64 ≤ nameLen) (name : SensorName) :
    safestrncpy nameLen name.text = name.text := by
  have := name.short
  exact List.take_of_length_le (by omega)

theorem identity_setTriple {nameLen : Nat} (hlen : 64 ≤ nameLen) (id inst : BitVec 32) (name : SensorName)
    (sensor : BmcSensor) :
    (sensor.setTriple nameLen id inst name.text).identity = (Origin.triple id inst name).identity := by
  simp only [BmcSensor.identity, BmcSensor.setTriple, Origin.identity, safestrncpy_text hlen]

theorem identity_setName {nameLen : Nat} (hlen : 64 ≤ nameLen) (name : SensorName) (addr : Nat) :
    ((BmcSensor.cleared addr).setName nameLen name.text).identity = (Origin.byName name).identity := by
  simp only [BmcSensor.identity, BmcSensor.setName, BmcSensor.cleared, Origin.identity, safestrncpy_text hlen]

theorem represents_step {nameLen : Nat} (hlen : 64 ≤ nameLen) {db : SensorDb} {o : Origins}
    (h : db.Represents o) (op : SensorOp) : (db.step nameLen op).Represents (o.step op) := by
  cases op with
  | add calloc id inst name =>
      exact represents_addUnder h calloc fun addr => identity_setTriple hlen id inst name _
  | addByName calloc name => exact represents_addUnder h calloc (identity_setName hlen name)
  | remove id inst name =>
      intro key
      simp only [SensorDb.step, dbSensorRemove, dataRemove, Origins.step]
      split
      · rw [SortedMap.find?_erase]
        by_cases hkey : key = sensorKey id inst name.text
        · rw [if_pos hkey, if_pos hkey]
          rfl
        · rw [if_neg hkey, if_neg hkey, h key]
      · rename_i hnone
        by_cases hkey : key = sensorKey id inst name.text
        · rw [if_pos hkey, hkey, hnone]
          rfl
        · rw [if_neg hkey, h key]
  | cleanup => exact fun key => rfl

/-- After any calls the database has the origins that the calls leave. -/
theorem represents_after {nameLen : Nat} (hlen : 64 ≤ nameLen) (ops : List SensorOp) :
    (SensorDb.after nameLen ops).Represents (Origins.after ops) := by
  have hempty : SensorDb.empty.Represents fun _ => none := fun key => rfl
  exact run_rel (R := SensorDb.Represents) (fun _ _ op h => represents_step hlen h op) hempty ops

/-! ### What an addition returns -/

theorem find?_addUnder {db : SensorDb} {calloc : Bool} {key : List Char} {init : BmcSensor → BmcSensor}
    {sensor : BmcSensor} (h : (addUnder db calloc key init).1 = some sensor) :
    (addUnder db calloc key init).2.sensorMap.find? key = some sensor := by
  cases hfind : db.sensorMap.find? key with
  | some live =>
      rw [addUnder_found hfind] at h ⊢
      exact hfind.trans h
  | none =>
      cases calloc with
      | false =>
          rw [addUnder_no_memory hfind] at h
          cases h
      | true =>
          rw [addUnder_new hfind] at h ⊢
          rw [SortedMap.find?_insert hfind, if_pos rfl]
          exact h

/-- The record that is returned says what its origin has put there, which is the addition itself if there
was no record. -/
theorem identity_addUnder {db : SensorDb} {o : Origins} (h : db.Represents o) {calloc : Bool}
    {origin : Origin} {init : BmcSensor → BmcSensor}
    (hinit : ∀ addr, (init (.cleared addr)).identity = origin.identity) {sensor : BmcSensor}
    (hret : (addUnder db calloc origin.key init).1 = some sensor) :
    sensor.identity = ((o origin.key).getD origin).identity := by
  have hnow := represents_addUnder h calloc hinit origin.key
  rw [find?_addUnder hret, Option.map_some, Origins.add] at hnow
  split at hnow
  · rename_i hnew
    rw [hnew.2.2]
    exact Option.some.inj hnow
  · rename_i hlive
    cases ho : o origin.key with
    | some live =>
        rw [ho] at hnow
        exact Option.some.inj hnow
    | none =>
        rw [ho] at hnow
        cases hnow

theorem exists_live {db : SensorDb} {o : Origins} (h : db.Represents o) {key : List Char} {origin : Origin}
    (ho : o key = some origin) :
    ∃ sensor, sensor.identity = origin.identity ∧
      ∀ calloc init, (addUnder db calloc key init).1 = some sensor := by
  have hlive := h key
  rw [ho] at hlive
  obtain ⟨sensor, hfind, hid⟩ := Option.map_eq_some_iff.mp hlive
  exact ⟨sensor, hid, fun calloc init => by rw [addUnder_found hfind]⟩

end OpxSdi.Bmc
