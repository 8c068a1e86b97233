import OpxSdi.Bmc.Lemmas.Origin
import OpxSdi.Bmc.OemCmd
import OpxSdi.Lib.Returns

/-!
# The BMC requests and the sensor database

The length of an OEM request is not the length of its bytes, except for the requests below. A record of
the database is given out under a key that two calls may share, and says what the first has put there.
-/

namespace OpxSdi.Bmc

open Lib

/-! ## OEM requests -/

section OemCmd

variable {μ : Type} {oemCmd : OemCmdInfo}

def OemCmdInfo.head (oemCmd : OemCmdInfo) : List Byte :=
  if oemCmd.data = 0 then oemCmd.header else [oemCmd.data]

def OemCmdInfo.request (oemCmd : OemCmdInfo) : Option oemCmd.Payload → List Byte
  | some payload => oemCmd.header ++ payload.toList
  | none => oemCmd.head

theorem OemCmdInfo.msgDataLen_of_data {hasPayload : Bool} (h : oemCmd.data ≠ 0) :
    oemCmd.msgDataLen hasPayload = 1 := by
  rw [msgDataLen, if_pos h]

/-- The condition of the inner `?:` is a positive number, so there is always a size. -/
theorem OemCmdInfo.msgDataLen_of_no_data {hasPayload : Bool} (h : oemCmd.data = 0)
    (hsize : oemCmd.dataSize.toNat ≤ oemDataLen) :
    (oemCmd.msgDataLen hasPayload).toNat = oemCmd.dataSize.toNat := by
  simp only [oemDataLen] at hsize
  rw [msgDataLen, if_neg (not_not_intro h), if_pos (by omega), BitVec.toNat_setWidth]
  omega

theorem OemCmdInfo.fillHead_ok (oemCmd : OemCmdInfo) :
    ∃ reqData, oemCmd.fillHead = .ok reqData ∧ oemCmd.head <+: reqData.toList := by
  rw [fillHead, head]
  split
  · obtain ⟨reqData, hok, hlist⟩ := stores_ok oemCmd.reqData 0
      (show 0 + oemCmd.header.length ≤ oemDataLen + 4 from Nat.le_of_ble_eq_true rfl)
    exact ⟨reqData, hok, _, by rw [hlist]; rfl⟩
  · obtain ⟨reqData, hok, hlist⟩ := stores_ok oemCmd.reqData 0
      (show 0 + [oemCmd.data].length ≤ oemDataLen + 4 from Nat.le_of_ble_eq_true rfl)
    exact ⟨reqData, hok, _, by rw [hlist]; rfl⟩

theorem fillPayload_ok {n : Nat} (reqData : Vector Byte (oemDataLen + 4)) (data : Option (Vector Byte n))
    (hn : n ≤ oemDataLen) :
    ∃ reqData', fillPayload reqData data = .ok reqData' ∧ (data = none → reqData' = reqData) := by
  cases data with
  | none => exact ⟨reqData, rfl, fun _ => rfl⟩
  | some payload =>
      obtain ⟨reqData', hok, -⟩ := stores_ok reqData 4
        (show 4 + payload.toList.length ≤ oemDataLen + 4 by rw [Vector.length_toList]; omega)
      exact ⟨reqData', hok, fun h => by cases h⟩

/-- No byte is written outside of the request, and without a payload the request is the command's head. -/
theorem oemCmdExecute_returns (ipmi : Ipmi μ) (data : Option oemCmd.Payload)
    (hsize : oemCmd.dataSize.toNat ≤ oemDataLen) :
    ∃ r, oemCmdExecute ipmi oemCmd data = .ok r ∧ r.sent.isSome = ipmi.systemInterfaceMc.isSome ∧
      ∀ msg, r.sent = some msg → msg.dataLen = oemCmd.msgDataLen data.isSome ∧
        (data = none → oemCmd.head <+: msg.data.toList) := by
  obtain ⟨reqData, hhead, hprefix⟩ := oemCmd.fillHead_ok
  obtain ⟨reqData', hpayload, hsame⟩ := fillPayload_ok reqData data hsize
  rw [oemCmdExecute, if_neg (Nat.not_lt.mpr hsize), hhead]
  simp only [bind, Except.bind, hpayload]
  cases ipmi.systemInterfaceMc with
  | none => exact ⟨_, rfl, rfl, fun msg h => by cases h⟩
  | some mc =>
      refine ⟨_, rfl, rfl, fun msg h => ?_⟩
      obtain rfl := Option.some.inj h
      exact ⟨rfl, fun hnone => by rw [hsame hnone]; exact hprefix⟩

theorem returns_oemCmdExecute (ipmi : Ipmi μ) (oemCmd : OemCmdInfo) : Returns (oemCmdExecute ipmi oemCmd none) := by
  rcases Nat.lt_or_ge oemDataLen oemCmd.dataSize.toNat with hlong | hsize
  · rw [oemCmdExecute, if_pos hlong]
    exact returns_ok _
  · obtain ⟨r, hr, -⟩ := oemCmdExecute_returns ipmi none hsize
    exact ⟨r, hr⟩

theorem OemCmdInfo.msgDataLen_eq_iff (hsize : oemCmd.dataSize.toNat ≤ oemDataLen)
    (data : Option oemCmd.Payload) :
    (oemCmd.msgDataLen data.isSome).toNat = (oemCmd.request data).length ↔
      data = none ∧ (oemCmd.data ≠ 0 ∨ oemCmd.dataSize = 4) := by
  have hfour : oemCmd.header.length = 4 := rfl
  have hdata : oemCmd.dataSize = 4 ↔ oemCmd.dataSize.toNat = 4 :=
    ⟨fun h => by rw [h]; rfl, fun h => BitVec.eq_of_toNat_eq h⟩
  cases data with
  | some payload =>
      refine ⟨fun h => ?_, fun h => (by cases h.1)⟩
      rw [request, List.length_append, hfour, Vector.length_toList] at h
      by_cases h0 : oemCmd.data = 0
      · rw [msgDataLen_of_no_data h0 hsize] at h
        omega
      · rw [msgDataLen_of_data h0] at h
        have hone : (1 : BitVec 16).toNat = 1 := rfl
        omega
  | none =>
      rw [request, head]
      by_cases h0 : oemCmd.data = 0
      · rw [if_pos h0, hfour, msgDataLen_of_no_data h0 hsize, hdata]
        exact ⟨fun h => ⟨rfl, .inr h⟩, fun h => h.2.resolve_left (not_not_intro h0)⟩
      · rw [if_neg h0, msgDataLen_of_data h0]
        exact ⟨fun _ => ⟨rfl, .inl h0⟩, fun _ => rfl⟩

/-- A command is sent as the request it stands for iff nothing is sent, or it has no payload and its length
happens to be right. -/
theorem oemCmdExecute_carries_iff (ipmi : Ipmi μ) (oemCmd : OemCmdInfo) (data : Option oemCmd.Payload)
    (hsize : oemCmd.dataSize.toNat ≤ oemDataLen) :
    (∃ r, oemCmdExecute ipmi oemCmd data = .ok r ∧ ∀ msg, r.sent = some msg →
      msg.dataLen.toNat = (oemCmd.request data).length ∧ msg.bytes = oemCmd.request data) ↔
    ipmi.systemInterfaceMc = none ∨ data = none ∧ (oemCmd.data ≠ 0 ∨ oemCmd.dataSize = 4) := by
  obtain ⟨r, hr, hsent, hmsg⟩ := oemCmdExecute_returns ipmi data hsize
  constructor
  · rintro ⟨r', hr', h⟩
    obtain rfl := Except.ok.inj (hr.symm.trans hr')
    cases hmc : ipmi.systemInterfaceMc with
    | none => exact .inl rfl
    | some mc =>
        rw [hmc] at hsent
        obtain ⟨msg, hm⟩ := Option.isSome_iff_exists.mp hsent
        exact .inr ((OemCmdInfo.msgDataLen_eq_iff hsize data).mp ((hmsg msg hm).1 ▸ (h msg hm).1))
  · intro h
    refine ⟨r, hr, fun msg hm => ?_⟩
    rcases h with hmc | hright
    · rw [hm, hmc] at hsent
      cases hsent
    · have hlen := (OemCmdInfo.msgDataLen_eq_iff hsize data).mpr hright
      rw [← (hmsg msg hm).1] at hlen
      refine ⟨hlen, ?_⟩
      obtain ⟨rfl, -⟩ := hright
      rw [IpmiMsg.bytes, hlen]
      exact List.prefix_iff_eq_take.mp ((hmsg msg hm).2 rfl) |>.symm

def readyIpmi : Ipmi Unit := ⟨some (), fun _ _ _ => 0⟩

def fourByteCmd : OemCmdInfo := ⟨0x30, 0x25, 3, 0x50, 0x10, 4, 0, .replicate _ 0⟩

theorem oemCmdExecute_carries_four :
    (∃ r, oemCmdExecute readyIpmi fourByteCmd none = .ok r ∧ ∀ msg, r.sent = some msg →
      msg.dataLen.toNat = (fourByteCmd.request none).length ∧ msg.bytes = fourByteCmd.request none) ↔
    readyIpmi.systemInterfaceMc = none ∨
      (none : Option fourByteCmd.Payload) = none ∧ (fourByteCmd.data ≠ 0 ∨ fourByteCmd.dataSize = 4) :=
  oemCmdExecute_carries_iff readyIpmi fourByteCmd none (by decide)

def psuTypeCmd : OemCmdInfo := ⟨0x30, 0x25, 3, 0x50, 0x10, 1, 0, .replicate _ 0⟩

theorem psuTypeCmd_cut :
    (oemCmdExecute readyIpmi psuTypeCmd none).map (fun r => r.sent.map IpmiMsg.bytes) = .ok (some [3]) ∧
      psuTypeCmd.request none = [3, 0x50, 1, 0x10] :=
  ⟨rfl, rfl⟩

end OemCmd

/-! ## The sensor database -/

section SensorDb

variable {nameLen : Nat}

/-- An addition returns the record of its own sensor. By entity and name the record is the one that is
stored, says that entity and name, and is visited for the entity. -/
def Identified (nameLen : Nat) (db : SensorDb) : SensorOp → Prop
  | .add calloc id inst name =>
      let (returned, db') := dbSensorAdd nameLen db calloc id inst name.text
      ∀ sensor, returned = some sensor →
        sensor.entityId = id ∧ sensor.entityInstance = inst ∧ sensor.name = name.text ∧
          dbSensorGet db' id inst name.text = some sensor ∧ sensor ∈ dbForEachSensor db' id inst
  | .addByName calloc name =>
      ∀ sensor, (dbSensorAddByName nameLen db calloc name.text).1 = some sensor → sensor.name = name.text
  | .remove _ _ _ | .cleanup => True

/-- No addition meets a record of another sensor: by entity and name a record made by name, which has entity
0 and instance 0, and by name a record of another name. -/
def Origins.Undisputed (o : Origins) : SensorOp → Prop
  | .add _ id inst name =>
      ∀ other, o (sensorKey id inst name.text) = some (.byName other) → other = name ∧ id = 0 ∧ inst = 0
  | .addByName _ name => ∀ origin, o (sensorKeyByName name.text) = some origin → origin.name = name
  | .remove _ _ _ | .cleanup => True

theorem SensorName.eq_of_text {a b : SensorName} (h : a.text = b.text) : a = b := by
  obtain ⟨text, _⟩ := a
  obtain rfl : text = b.text := h
  rfl

theorem Origin.name_of_identity {origin : Origin} {id inst : BitVec 32} {text : List Char}
    (h : origin.identity = (id, inst, text)) : origin.name.text = text := by
  cases origin with
  | triple _ _ _ => exact congrArg (·.2.2) h
  | byName _ => exact congrArg (·.2.2) h

theorem Origins.triple_of_live {o : Origins} (hkeyed : o.Keyed) {id inst : BitVec 32} {name : SensorName}
    {origin : Origin} (h : o (sensorKey id inst name.text) = some origin) :
    origin = .triple id inst name ∨ ∃ other, origin = .byName other := by
  cases origin with
  | byName other => exact .inr ⟨other, rfl⟩
  | triple id' inst' name' =>
      obtain ⟨rfl, rfl, htext⟩ := sensorKey_injective name'.short name.short (hkeyed _ _ h)
      rw [SensorName.eq_of_text htext]
      exact .inl rfl

theorem mem_dbForEachSensor_iff {db : SensorDb} {id inst : BitVec 32} {sensor : BmcSensor} :
    sensor ∈ dbForEachSensor db id inst ↔
      (∃ key, db.sensorMap.find? key = some sensor) ∧
        sensor.entityId = id ∧ sensor.entityInstance = inst := by
  rw [dbForEachSensor, List.mem_filter, SortedMap.mem_values_iff, decide_eq_true_iff]

theorem identified_add_iff (hlen : 64 ≤ nameLen) {db : SensorDb} {o : Origins} (h : db.Represents o)
    (hkeyed : o.Keyed) (calloc : Bool) (id inst : BitVec 32) (name : SensorName) :
    Identified nameLen db (.add calloc id inst name) ↔ o.Undisputed (.add calloc id inst name) := by
  constructor
  · intro hid other ho
    obtain ⟨sensor, hsensor, hret⟩ := exists_live h ho
    obtain ⟨hentity, hinst, hname, -⟩ := hid sensor (hret calloc _)
    rw [BmcSensor.identity, hentity, hinst, hname, Origin.identity, Prod.mk.injEq, Prod.mk.injEq] at hsensor
    exact ⟨SensorName.eq_of_text hsensor.2.2.symm, hsensor.1, hsensor.2.1⟩
  · intro hundisputed sensor hret
    have hfound := find?_addUnder hret
    have hsensor := identity_addUnder h (fun _ => identity_setTriple hlen id inst name _) hret
    have horigin : ((o (sensorKey id inst name.text)).getD (.triple id inst name)).identity =
        (id, inst, name.text) := by
      cases ho : o (sensorKey id inst name.text) with
      | none => rfl
      | some origin =>
          rcases Origins.triple_of_live hkeyed ho with rfl | ⟨other, rfl⟩
          · rfl
          · obtain ⟨rfl, rfl, rfl⟩ := hundisputed other ho
            rfl
    rw [Origin.key, horigin, BmcSensor.identity, Prod.mk.injEq, Prod.mk.injEq] at hsensor
    obtain ⟨hentity, hinst, hname⟩ := hsensor
    exact ⟨hentity, hinst, hname, hfound, mem_dbForEachSensor_iff.mpr ⟨⟨_, hfound⟩, hentity, hinst⟩⟩

theorem identified_addByName_iff (hlen : 64 ≤ nameLen) {db : SensorDb} {o : Origins} (h : db.Represents o)
    (calloc : Bool) (name : SensorName) :
    Identified nameLen db (.addByName calloc name) ↔ o.Undisputed (.addByName calloc name) := by
  constructor
  · intro hid origin ho
    obtain ⟨sensor, hsensor, hret⟩ := exists_live h ho
    refine SensorName.eq_of_text ?_
    rw [Origin.name_of_identity hsensor.symm]
    exact hid sensor (hret calloc _)
  · intro hundisputed sensor hret
    have hsensor := identity_addUnder h (identity_setName hlen name) hret
    rw [← Origin.name_of_identity hsensor.symm, Origin.key]
    cases ho : o (sensorKeyByName name.text) with
    | none => rfl
    | some origin => rw [Option.getD_some, hundisputed origin ho]

/-- After any calls, a call gives out the record of its own sensor iff it meets none of another sensor. -/
theorem identified_iff (hlen : 64 ≤ nameLen) (ops : List SensorOp) (op : SensorOp) :
    Identified nameLen (SensorDb.after nameLen ops) op ↔ (Origins.after ops).Undisputed op := by
  have h := represents_after hlen ops
  cases op with
  | add calloc id inst name => exact identified_add_iff hlen h (Origins.keyed_after ops) calloc id inst name
  | addByName calloc name => exact identified_addByName_iff hlen h calloc name
  | remove id inst name => exact Iff.rfl
  | cleanup => exact Iff.rfl

/-- In a run, every call gives out the record of its own sensor iff none meets a record of another sensor. -/
theorem run_identified_iff (hlen : 64 ≤ nameLen) (ops : List SensorOp) :
    Along (SensorDb.step nameLen) (Identified nameLen) .empty ops ↔
      Along Origins.step Origins.Undisputed (fun _ => none) ops := by
  rw [along_iff, along_iff]
  exact forall₃_congr fun pre op post => imp_congr_right fun _ => identified_iff hlen pre op

def entityInfoName : SensorName := ⟨"Entity_info.10.1".toList, by decide⟩

theorem run_identified_entityInfo :
    Along (SensorDb.step 64) (Identified 64) .empty
        [.add true 10 1 entityInfoName, .addByName true entityInfoName, .remove 10 1 entityInfoName] ↔
      Along Origins.step Origins.Undisputed (fun _ => none)
        [.add true 10 1 entityInfoName, .addByName true entityInfoName, .remove 10 1 entityInfoName] :=
  run_identified_iff (Nat.le_refl 64) _

/-- A record made by name keeps entity 0 when its entity is added. -/
theorem entityInfo_unidentified :
    ¬ Along (SensorDb.step 64) (Identified 64) .empty
      [.addByName true entityInfoName, .add true 10 1 entityInfoName] := by
  rintro ⟨-, hadd, -⟩
  have hentity := (hadd _ rfl).1
  cases hentity

def SensorOp.NotByName (op : SensorOp) : Prop := ∀ calloc name, op ≠ .addByName calloc name

def Origins.NoneByName (o : Origins) : Prop := ∀ key other, o key ≠ some (.byName other)

theorem Origins.noneByName_step {o : Origins} {op : SensorOp} (ho : o.NoneByName) (hop : op.NotByName) :
    (o.step op).NoneByName := by
  intro key other h
  cases op with
  | add calloc id inst name =>
      simp only [step, add] at h
      split at h
      · cases h
      · exact ho key other h
  | addByName calloc name => exact hop calloc name rfl
  | remove id inst name =>
      simp only [step] at h
      split at h
      · cases h
      · exact ho key other h
  | cleanup => cases h

/-- Without additions by name, every addition gives out the record of its own sensor. -/
theorem identified_of_notByName (hlen : 64 ≤ nameLen) {ops : List SensorOp} (hops : ∀ op ∈ ops, op.NotByName)
    {op : SensorOp} (hop : op.NotByName) : Identified nameLen (SensorDb.after nameLen ops) op := by
  have halong : Along Origins.step (fun _ op => op.NotByName) (fun _ => none) ops :=
    (along_iff _).mpr fun pre op post h => hops op (h ▸ List.mem_append_right pre List.mem_cons_self)
  have hnone : (Origins.after ops).NoneByName :=
    run_inv (fun _ _ => Origins.noneByName_step) (fun _ _ h => nomatch h) halong
  refine (identified_iff hlen ops op).mpr ?_
  cases op with
  | add calloc id inst name => exact fun other ho => absurd ho (hnone _ other)
  | addByName calloc name => exact absurd rfl (hop calloc name)
  | remove id inst name => trivial
  | cleanup => trivial

end SensorDb

end OpxSdi.Bmc
