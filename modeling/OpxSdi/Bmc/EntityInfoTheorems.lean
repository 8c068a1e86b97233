import OpxSdi.Bmc.EntityInfo

/-!
# The part number, the revision and the PPID of a power supply

The offsets are those of texts of full length. A shorter text ends the PPID before its last part, and the revision is
read from behind a part number that has none.
-/

namespace OpxSdi.Bmc

open Lib

namespace SdrEntityInfo

variable (res : SdrEntityInfo)

/-- The serial number's first two characters, the part number and the rest of the serial number, as far as it fits -/
def ppid : List Byte :=
  (res.boardSerialNumber.str.take 2 ++ res.boardPartNumber.str.take 6 ++ res.boardSerialNumber.str.drop 2).take
    (ppidLen - 1)

/-- The texts stand at the offsets of `copyPsuPpid`. -/
def Placed : Prop :=
  if 2 ≤ res.boardSerialNumber.str.length then
    6 ≤ res.boardPartNumber.str.length ∨ res.boardSerialNumber.str.length = 2
  else res.boardPartNumber.str = []

/-- There is a revision, or a second NUL where one would start. -/
def RevisionPlaced : Prop := 6 ≤ res.boardPartNumber.str.length ∨ res.boardPartNumber.bytes[6] = 0

/-- The texts after `copyTexts` -/
structure Copied (info : EntityInfo) : Prop where
  partNumber : cstr info.partNumber.toList = res.boardPartNumber.str.take 6
  hwRevision : cstr info.hwRevision.toList = cstr (res.boardPartNumber.bytes.toList.drop 6)
  ppid : cstr info.ppid.toList = res.boardSerialNumber.str

end SdrEntityInfo

/-- What is to be in the entity info -/
structure IdentityOf (sensor : EntityInfoSensor) (info : EntityInfo) : Prop where
  partNumber : cstr info.partNumber.toList = sensor.entityInfo.boardPartNumber.str.take 6
  hwRevision : cstr info.hwRevision.toList = sensor.entityInfo.boardPartNumber.str.drop 6
  ppid : sensor.entityId = ipmiEntityIdPowerSupply → cstr info.ppid.toList = sensor.entityInfo.ppid

/-- The call stays in its arrays and, if it is successful, has put the texts together. -/
def Assembles (afterNul : Byte → Byte) (dataSdr sensorByName : Option EntityInfoSensor) (info : EntityInfo) : Prop :=
  ∃ rc info', entityInfoDataGet afterNul dataSdr sensorByName info = .ok (rc, info') ∧
    (rc = .ok → ∃ sensor, dataSdr.or sensorByName = some sensor ∧ IdentityOf sensor info')

variable (afterNul : Byte → Byte)

namespace SdrEntityInfo

variable {res : SdrEntityInfo} {info : EntityInfo}

theorem str_length (a : CharArray partNumLen) : a.str.length ≤ 9 := by
  have := cstr_length_lt a.terminated
  rw [Vector.length_toList] at this
  exact Nat.le_of_lt_succ this

/-- The revision can be copied if there is a NUL behind the part number. -/
theorem readable_hwRevision_iff :
    Readable (res.boardPartNumber.ptr dellPnSize) (hwRevLen - 1) ↔ 0 ∈ res.boardPartNumber.bytes.toList.drop 6 := by
  have hlen : (res.boardPartNumber.bytes.toList.drop 6).length = 4 := by
    rw [List.length_drop, Vector.length_toList]
    rfl
  change 0 ∈ (res.boardPartNumber.bytes.toList.drop 6).take 7 ∨ 7 ≤ (res.boardPartNumber.bytes.toList.drop 6).length ↔ _
  rw [List.take_of_length_le (by omega), hlen]
  exact or_iff_left (by decide)

theorem copyTexts_ok (info : EntityInfo) (h : 0 ∈ res.boardPartNumber.bytes.toList.drop 6) :
    ∃ info', res.copyTexts afterNul info = .ok info' ∧ res.Copied info' := by
  obtain ⟨vendorName, hvendorName, -⟩ := cstr_safestrncpy_zero afterNul info.vendorName nameMax
    (res.boardManufacturer.readable (Nat.zero_le _) _) (by decide) (by decide)
  obtain ⟨prodName, hprodName, -⟩ := cstr_safestrncpy_zero afterNul info.prodName nameMax
    (res.boardProductName.readable (Nat.zero_le _) _) (by decide) (by decide)
  obtain ⟨partNumber, hpartNumber, hpart⟩ := cstr_safestrncpy_zero afterNul info.partNumber partNumLen
    (res.boardPartNumber.readable (Nat.zero_le _) _) (by decide) (by decide)
  obtain ⟨hwRevision, hhwRevision, hhw⟩ := cstr_safestrncpy_zero afterNul info.hwRevision hwRevLen
    (readable_hwRevision_iff.mpr h) (by decide) (by decide)
  obtain ⟨ppid, hppid, hserial⟩ := cstr_safestrncpy_zero afterNul info.ppid ppidLen
    (res.boardSerialNumber.readable (Nat.zero_le _) _) (by decide) (by decide)
  have hstore : store partNumber dellPnSize 0 = .ok (partNumber.set 6 0) := rfl
  refine ⟨{ info with vendorName, prodName, partNumber := partNumber.set 6 0, hwRevision, ppid }, ?_, ?_⟩
  · simp only [copyTexts, hvendorName, hprodName, hpartNumber, hhwRevision, hppid, hstore, Checked.bind_ok]
  · have hpn := str_length res.boardPartNumber
    refine ⟨?_, ?_, ?_⟩
    · change cstr (partNumber.set 6 0).toList = _
      rw [Vector.toList_set, cstr_set_zero (by rw [Vector.length_toList]; decide), hpart]
      change ((cstr (res.boardPartNumber.bytes.toList.drop 0)).take 9).take 6 = _
      rw [List.take_take]
      rfl
    · refine hhw.trans (List.take_of_length_le ?_)
      refine Nat.le_trans (List.takeWhile_sublist _).length_le ?_
      change (res.boardPartNumber.bytes.toList.drop 6).length ≤ 7
      rw [List.length_drop, Vector.length_toList]
      decide
    · refine hserial.trans (List.take_of_length_le ?_)
      have := cstr_length_lt res.boardSerialNumber.terminated
      rw [Vector.length_toList] at this
      exact Nat.le_of_lt_succ this

/-- The PPID ends before the place of the first text that is too short for the next one. -/
theorem copyPsuPpid_ok (hcopied : res.Copied info) : ∃ info', res.copyPsuPpid afterNul info = .ok info' ∧
    info'.partNumber = info.partNumber ∧ info'.hwRevision = info.hwRevision ∧
    cstr info'.ppid.toList =
      if 2 ≤ res.boardSerialNumber.str.length then
        if 6 ≤ res.boardPartNumber.str.length then
          res.boardSerialNumber.str.take 2 ++ res.boardPartNumber.str.take 6 ++
            (res.boardSerialNumber.str.drop 2).take 111
        else res.boardSerialNumber.str.take 2 ++ res.boardPartNumber.str.take 6
      else res.boardSerialNumber.str := by
  have hnul : 0 ∈ info.partNumber.toList := by
    apply mem_of_cstr_length_lt
    rw [hcopied.partNumber, Vector.length_toList]
    exact Nat.lt_of_le_of_lt (List.length_take_le ..) (by decide)
  have hreadable : Readable ⟨info.partNumber.toList, 0⟩ (ppidLen - dellCnSize - 1) := by
    left
    change 0 ∈ info.partNumber.toList.take 117
    rwa [List.take_of_length_le (by rw [Vector.length_toList]; decide)]
  obtain ⟨ppid, hppid, hcn⟩ := cstr_safestrncpy afterNul info.ppid dellCnSize
    (ppidLen - dellCnSize) hreadable (by decide) (by decide)
  have hreadable' : Readable (res.boardSerialNumber.ptr dellCnSize) (ppidLen - dellCnSize - dellPnSize - 1) := by
    right
    change _ ≤ (res.boardSerialNumber.bytes.toList.drop 2).length
    rw [List.length_drop, Vector.length_toList]
    decide
  obtain ⟨ppid', hppid', hmgid⟩ := cstr_safestrncpy afterNul ppid mgidOffset
    (ppidLen - dellCnSize - dellPnSize) hreadable' (by decide) (by decide)
  refine ⟨{ info with ppid := ppid' }, ?_, rfl, rfl, ?_⟩
  · simp only [copyPsuPpid, hppid, hppid', Checked.bind_ok]
  · have hcn' : cstr ppid.toList = if 2 ≤ res.boardSerialNumber.str.length then
        res.boardSerialNumber.str.take 2 ++ res.boardPartNumber.str.take 6 else res.boardSerialNumber.str := by
      rw [hcn, hcopied.ppid]
      change (if 2 ≤ _ then _ ++ (cstr info.partNumber.toList).take 117 else _) = _
      rw [hcopied.partNumber, List.take_take]
      rfl
    change cstr ppid'.toList = _
    rw [hmgid, hcn']
    by_cases hs : 2 ≤ res.boardSerialNumber.str.length
    · obtain ⟨-, hdrop⟩ := cstr_drop res.boardSerialNumber.terminated hs
      rw [if_pos hs, if_pos hs]
      have hlen : (res.boardSerialNumber.str.take 2 ++ res.boardPartNumber.str.take 6).length =
          2 + min 6 res.boardPartNumber.str.length := by
        rw [List.length_append, List.length_take, List.length_take]
        omega
      by_cases hp : 6 ≤ res.boardPartNumber.str.length
      · rw [if_pos hp, if_pos (by rw [hlen, mgidOffset, dellPnSize, dellCnSize]; omega),
          List.take_of_length_le (by rw [hlen, mgidOffset, dellPnSize, dellCnSize]; omega)]
        exact congrArg (fun t : List Byte => _ ++ t.take 111) hdrop
      · rw [if_neg hp, if_neg (by rw [hlen, mgidOffset, dellPnSize, dellCnSize]; omega)]
    · rw [if_neg hs, if_neg hs, if_neg (by rw [mgidOffset, dellPnSize, dellCnSize]; omega)]

/-- The PPID is put together if and only if the texts reach the offsets. -/
theorem ppid_iff_placed :
    (if 2 ≤ res.boardSerialNumber.str.length then
        if 6 ≤ res.boardPartNumber.str.length then
          res.boardSerialNumber.str.take 2 ++ res.boardPartNumber.str.take 6 ++
            (res.boardSerialNumber.str.drop 2).take 111
        else res.boardSerialNumber.str.take 2 ++ res.boardPartNumber.str.take 6
      else res.boardSerialNumber.str) = res.ppid ↔ res.Placed := by
  have hlen : (res.boardSerialNumber.str.take 2 ++ res.boardPartNumber.str.take 6).length =
      min 2 res.boardSerialNumber.str.length + min 6 res.boardPartNumber.str.length := by
    rw [List.length_append, List.length_take, List.length_take]
  have hppid : res.ppid = res.boardSerialNumber.str.take 2 ++ res.boardPartNumber.str.take 6 ++
      (res.boardSerialNumber.str.drop 2).take
        (119 - (min 2 res.boardSerialNumber.str.length + min 6 res.boardPartNumber.str.length)) := by
    change (_ ++ _ ++ _ : List Byte).take 119 = _
    rw [List.take_append, hlen, List.take_of_length_le (by omega)]
  rw [hppid, Placed]
  by_cases hs : 2 ≤ res.boardSerialNumber.str.length
  · rw [if_pos hs, if_pos hs, Nat.min_eq_left hs]
    by_cases hp : 6 ≤ res.boardPartNumber.str.length
    · rw [if_pos hp, Nat.min_eq_left hp]
      exact iff_of_true rfl (.inl hp)
    · rw [if_neg hp, or_iff_right hp, List.self_eq_append_right, List.take_eq_nil_iff, List.drop_eq_nil_iff]
      omega
  · have hshort := Nat.le_of_lt (Nat.lt_of_not_le hs)
    rw [if_neg hs, if_neg hs, List.drop_of_length_le hshort, List.take_nil, List.append_nil,
      List.take_of_length_le hshort, List.self_eq_append_right, List.take_eq_nil_iff]
    exact or_iff_right (by decide)

theorem revision_iff_placed :
    cstr (res.boardPartNumber.bytes.toList.drop 6) = res.boardPartNumber.str.drop 6 ↔ res.RevisionPlaced := by
  rw [RevisionPlaced]
  by_cases hp : 6 ≤ res.boardPartNumber.str.length
  · exact iff_of_true (cstr_drop res.boardPartNumber.terminated hp).2 (.inl hp)
  · have hlt : 6 < res.boardPartNumber.bytes.toList.length := by
      rw [Vector.length_toList]
      decide
    rw [or_iff_right hp, List.drop_of_length_le (Nat.le_of_lt (Nat.lt_of_not_le hp)), cstr_eq_nil_iff,
      List.head?_drop, List.getElem?_eq_getElem hlt, or_iff_right (Option.some_ne_none _), Option.some_inj,
      Vector.getElem_toList]

theorem RevisionPlaced.terminated (h : res.RevisionPlaced) : 0 ∈ res.boardPartNumber.bytes.toList.drop 6 := by
  obtain hp | hzero := h
  · exact (cstr_drop res.boardPartNumber.terminated hp).1
  · have hlt : 6 < res.boardPartNumber.bytes.toList.length := by
      rw [Vector.length_toList]
      decide
    rw [List.drop_eq_getElem_cons hlt, Vector.getElem_toList, hzero]
    exact List.mem_cons_self

theorem not_returns_copyTexts (h : 0 ∉ res.boardPartNumber.bytes.toList.drop 6) :
    ¬Returns (res.copyTexts afterNul info) := by
  rintro ⟨info', hok⟩
  rw [copyTexts] at hok
  obtain ⟨_, _, hok⟩ := bind_eq_ok hok
  obtain ⟨_, _, hok⟩ := bind_eq_ok hok
  obtain ⟨_, _, hok⟩ := bind_eq_ok hok
  obtain ⟨_, _, hok⟩ := bind_eq_ok hok
  obtain ⟨hwRevision, hhw, -⟩ := bind_eq_ok hok
  have hreadable := (returns_safestrncpy_iff afterNul info.hwRevision 0 hwRevLen (by decide) (by decide)).mp
    ⟨hwRevision, hhw⟩
  exact h (readable_hwRevision_iff.mp hreadable)

end SdrEntityInfo

open SdrEntityInfo

/-- What follows the copies of a known power type -/
theorem identity_iff {sensor : EntityInfoSensor} {info : EntityInfo} (hcopied : sensor.entityInfo.Copied info) :
    (∃ rc info', (if sensor.entityId = ipmiEntityIdPowerSupply then do
          let info ← sensor.entityInfo.copyPsuPpid afterNul info
          .ok (.ok, info)
        else .ok (.ok, info) : Checked (TStdError × EntityInfo)) = .ok (rc, info') ∧
      (rc = .ok → ∃ sensor', sensor = sensor' ∧ IdentityOf sensor' info')) ↔
    sensor.entityInfo.RevisionPlaced ∧ (sensor.entityId = ipmiEntityIdPowerSupply → sensor.entityInfo.Placed) := by
  by_cases hid : sensor.entityId = ipmiEntityIdPowerSupply
  · obtain ⟨info', hok, hpart, hhw, hppid⟩ := copyPsuPpid_ok afterNul hcopied
    rw [if_pos hid, hok, Checked.bind_ok, forall_prop_of_true hid]
    constructor
    · rintro ⟨rc, info'', heq, h⟩
      cases heq
      obtain ⟨_, rfl, hident⟩ := h rfl
      exact ⟨revision_iff_placed.mp (hcopied.hwRevision.symm.trans (hhw ▸ hident.hwRevision)),
        ppid_iff_placed.mp (hppid.symm.trans (hident.ppid hid))⟩
    · rintro ⟨hrevision, hplaced⟩
      exact ⟨_, _, rfl, fun _ => ⟨_, rfl, (congrArg (fun v => cstr v.toList) hpart).trans hcopied.partNumber,
        (congrArg (fun v => cstr v.toList) hhw).trans
          (hcopied.hwRevision.trans (revision_iff_placed.mpr hrevision)),
        fun _ => hppid.trans (ppid_iff_placed.mpr hplaced)⟩⟩
  · rw [if_neg hid, and_iff_left fun h => absurd h hid, ← revision_iff_placed, ← hcopied.hwRevision]
    constructor
    · rintro ⟨rc, info'', heq, h⟩
      cases heq
      obtain ⟨_, rfl, hident⟩ := h rfl
      exact hident.hwRevision
    · exact fun hrevision => ⟨_, _, rfl, fun _ => ⟨_, rfl, hcopied.partNumber, hrevision, fun h => absurd h hid⟩⟩

theorem assembles_iff (dataSdr sensorByName : Option EntityInfoSensor) (info : EntityInfo) :
    Assembles afterNul dataSdr sensorByName info ↔
      ∀ sensor, dataSdr.or sensorByName = some sensor → sensor.entityInfo.valid = true →
        0 ∈ sensor.entityInfo.boardPartNumber.bytes.toList.drop 6 ∧
        ((powerTypeOf sensor.entityInfo.type).isSome → sensor.entityInfo.RevisionPlaced ∧
          (sensor.entityId = ipmiEntityIdPowerSupply → sensor.entityInfo.Placed)) := by
  rw [Assembles, entityInfoDataGet]
  cases hsensor : dataSdr.or sensorByName with
  | none => exact iff_of_true ⟨_, _, rfl, fun h => TStdError.noConfusion h⟩ (by rintro sensor ⟨⟩)
  | some sensor =>
      simp only [Option.some.injEq, forall_eq']
      cases hvalid : sensor.entityInfo.valid with
      | false => exact iff_of_true ⟨_, _, rfl, fun h => TStdError.noConfusion h⟩ (by rintro ⟨⟩)
      | true =>
          rw [if_pos rfl, forall_prop_of_true rfl]
          by_cases hnul : 0 ∈ sensor.entityInfo.boardPartNumber.bytes.toList.drop 6
          · obtain ⟨copied, hcopied, htexts⟩ := copyTexts_ok afterNul info hnul
            rw [hcopied, Checked.bind_ok, and_iff_right hnul]
            cases htype : powerTypeOf sensor.entityInfo.type with
            | none => exact iff_of_true ⟨_, _, rfl, fun h => TStdError.noConfusion h⟩ (by rintro ⟨⟩)
            | some powerType =>
                dsimp only
                refine (identity_iff afterNul ?_).trans ⟨fun h _ => h, fun h => h rfl⟩
                exact ⟨htexts.partNumber, htexts.hwRevision, htexts.ppid⟩
          · refine iff_of_false ?_ fun h => hnul h.1
            rintro ⟨rc, info', hok, -⟩
            obtain ⟨copied, hcopied, -⟩ := bind_eq_ok hok
            exact not_returns_copyTexts afterNul hnul ⟨copied, hcopied⟩

/-- A text in an array that is zero behind it -/
def paddedArray {n : Nat} (s : List Byte) (h : s.length < n) : CharArray n where
  bytes := ⟨(s ++ List.replicate (n - s.length) 0).toArray, by simp; omega⟩
  terminated := by
    rw [Vector.toList_mk, List.toList_toArray]
    exact List.mem_append_right _ (List.mem_replicate.mpr ⟨by omega, rfl⟩)

/-- An AC power supply whose part number has three characters -/
def shortPartNumber : EntityInfoSensor where
  entityId := ipmiEntityIdPowerSupply
  entityInfo :=
    { valid := true
      boardManufacturer := paddedArray [] (by decide)
      boardProductName := paddedArray [] (by decide)
      boardSerialNumber := paddedArray (bytesOf "CN12345") (by decide)
      boardPartNumber := paddedArray (bytesOf "0AB") (by decide)
      airFlow := 0
      type := 0
      numFans := 1
      maxSpeed := 18000 }

/-- The PPID ends with the part number. -/
theorem not_assembles_shortPartNumber :
    ((entityInfoDataGet id (some shortPartNumber) none .zero).toOption.map fun x => (x.1, cstr x.2.ppid.toList)) =
      some (.ok, bytesOf "CN0AB") ∧
    shortPartNumber.entityInfo.ppid = bytesOf "CN0AB12345" ∧
    ¬Assembles id (some shortPartNumber) none .zero := by
  have hrun : ((entityInfoDataGet id (some shortPartNumber) none .zero).toOption.map
      fun x => (x.1, cstr x.2.ppid.toList)) = some (.ok, bytesOf "CN0AB") := by decide +kernel
  have hppid : shortPartNumber.entityInfo.ppid = bytesOf "CN0AB12345" := by decide +kernel
  refine ⟨hrun, hppid, ?_⟩
  rintro ⟨rc, info', hok, h⟩
  rw [hok] at hrun
  obtain ⟨hrc, hshort⟩ := Prod.ext_iff.mp (Option.some.inj hrun)
  obtain ⟨sensor, hsensor, hident⟩ := h hrc
  obtain rfl := Option.some.inj hsensor
  have hlong := (hident.ppid rfl).trans hppid
  exact absurd (hshort.symm.trans hlong) (by decide +kernel)

end OpxSdi.Bmc
