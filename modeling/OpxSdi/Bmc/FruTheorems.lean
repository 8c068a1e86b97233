import OpxSdi.Bmc.Fru
import OpxSdi.Bmc.Theorems

/-!
# Which FRU data and OEM responses are read in bounds
-/

namespace OpxSdi.Bmc

open Lib

variable {μ : Type}

/-! ## The traversal -/

theorem returns_requestByte (ipmi : Ipmi μ) (field : ByteField) (oemCmd : Option OemCmdInfo) (t : Traversal) :
    Returns (requestByte ipmi field oemCmd t) := by
  cases oemCmd with
  | none => exact returns_ok t
  | some oemCmd => exact returns_map_iff.mpr (returns_mapError_iff.mpr (returns_oemCmdExecute ipmi oemCmd))

theorem FruField.toNat_dataLen (f : FruField) : f.dataLen.toNat = f.data.length := by
  rw [dataLen, BitVec.toNat_ofNat, Nat.mod_eq_of_lt f.small]

theorem FruField.returns_load_iff (f : FruField) (i : BitVec 32) : Returns (f.load i) ↔ i < f.dataLen := by
  rw [load, returns_mapError_iff, BitVec.lt_def, f.toNat_dataLen]
  rcases Nat.lt_or_ge i.toNat f.data.length with hlt | hge
  · exact iff_of_true ⟨_, Ptr.load_ok (by simpa using hlt)⟩ hlt
  · refine iff_of_false ?_ (Nat.not_lt.mpr hge)
    rw [Ptr.load_error (by simpa using hge)]
    exact not_returns_error _

theorem FruField.load_eq {f : FruField} {i : BitVec 32} {b : Byte} (h : f.load i = .ok b) :
    f.data[i.toNat]? = some b := by
  rw [load, Ptr.load, Nat.zero_add] at h
  cases hget : f.data[i.toNat]? with
  | none => rw [hget] at h; cases h
  | some c => rw [hget] at h; cases h; rfl

/-- The comparison lets the index just behind the data through. -/
theorem returns_readByte_iff (f : FruField) (elmData offset : BitVec 32) (field : ByteField)
    (info : BmcEntityInfo) :
    Returns (readByte f elmData offset field info) ↔
      (offset ≠ invalidOffset → elmData + offset ≠ f.dataLen) := by
  rw [readByte]
  split
  · rename_i h
    obtain ⟨hvalid, hle⟩ := h
    rw [imp_iff_right hvalid.symm]
    refine returns_map_iff.trans ((f.returns_load_iff _).trans ⟨BitVec.ne_of_lt, fun hne => ?_⟩)
    exact Nat.lt_of_le_of_ne hle fun heq => hne (BitVec.eq_of_toNat_eq heq)
  · rename_i h
    refine iff_of_true (returns_ok info) fun hvalid heq => h ⟨hvalid.symm, ?_⟩
    rw [heq]
    exact BitVec.le_refl _

/-- No position behind the data is looked at for the air flow or for the type of the power supply. -/
def DevResourceInfo.StaysIn (res : DevResourceInfo) (f : FruField) : Prop :=
  res.intUseElmOffset ≠ invalidOffset → ∀ b, f.data[res.intUseElmOffset.toNat]? = some b →
    (res.airflowOffset ≠ invalidOffset → elmData res.hdrSzOffset b + res.airflowOffset ≠ f.dataLen) ∧
      (res.psuTypeOffset ≠ invalidOffset → elmData res.hdrSzOffset b + res.psuTypeOffset ≠ f.dataLen)

theorem returns_readInternalUse_iff (res : DevResourceInfo) (f : FruField) (info : BmcEntityInfo) :
    Returns (readInternalUse res f info) ↔ res.StaysIn f := by
  rw [readInternalUse, DevResourceInfo.StaysIn]
  split
  · rename_i h
    obtain ⟨hvalid, hlt⟩ := h
    obtain ⟨b, hb⟩ := (f.returns_load_iff _).mpr hlt
    rw [imp_iff_right hvalid.symm, hb, FruField.load_eq hb]
    simp only [Option.some.injEq, forall_eq']
    rw [← returns_readByte_iff f _ _ .airFlow info]
    exact returns_bind_and fun info' _ => returns_readByte_iff f _ _ .type info'
  · rename_i h
    refine iff_of_true (returns_ok info) fun hvalid b hb => absurd ⟨hvalid.symm, ?_⟩ h
    rw [BitVec.lt_def, f.toNat_dataLen]
    exact (List.getElem?_eq_some_iff.mp hb).1

/-- A text ends within its data, or there are at least as many characters as fit. -/
def FruField.TextEnds (f : FruField) : Prop :=
  f.dtype = .ascii → ∀ field, BoardField.ofFruName f.name = some field →
    0 ∈ f.data.take (field.size - 1) ∨ field.size - 1 ≤ f.data.length

theorem returns_readText_iff (f : FruField) (info : BmcEntityInfo) :
    Returns (readText f info) ↔ f.TextEnds := by
  rw [readText, FruField.TextEnds]
  cases BoardField.ofFruName f.name with
  | none => exact iff_of_true (returns_ok info) fun _ _ h => (nomatch h)
  | some field =>
      simp only [Option.some.injEq, forall_eq']
      split
      · rename_i hascii
        rw [imp_iff_right hascii]
        exact returns_map_iff.trans (returns_mapError_iff.trans (Ptr.returns_loadString_iff _ _))
      · rename_i hascii
        exact iff_of_true (returns_ok info) fun h => absurd h hascii

def FruField.InBounds (f : FruField) (res : DevResourceInfo) : Prop :=
  if f.name = "internal_use".toList then res.StaysIn f else f.TextEnds

theorem returns_readField_iff (res : DevResourceInfo) (f : FruField) (info : BmcEntityInfo) :
    Returns (readField res f info) ↔ f.InBounds res := by
  rw [readField, FruField.InBounds]
  split
  · exact returns_readInternalUse_iff res f info
  · exact returns_readText_iff f info

variable (ipmi : Ipmi μ) (devHdl : Option DevEntry) (sensorName : List Char)

theorem returns_traverseField_iff (t : Traversal) (f : FruField) :
    Returns (traverseField ipmi devHdl sensorName t f) ↔
      ∃ res, devGetByDataSdr devHdl sensorName = .ok (some res) ∧ f.InBounds res := by
  rw [traverseField, returns_bind_iff]
  constructor
  · rintro ⟨res, hres, h⟩
    cases res with
    | none => exact absurd h (not_returns_error _)
    | some res =>
        obtain ⟨t₁, -, h⟩ := returns_bind_iff.mp h
        obtain ⟨t₂, -, h⟩ := returns_bind_iff.mp h
        exact ⟨res, hres, (returns_readField_iff res f t₂.info).mp (returns_map_iff.mp h)⟩
  · rintro ⟨res, hres, h⟩
    obtain ⟨t₁, ht₁⟩ := returns_requestByte ipmi .type res.psuTypeOemCmd t
    obtain ⟨t₂, ht₂⟩ := returns_requestByte ipmi .airFlow res.airFlowOemCmd t₁
    refine ⟨some res, hres, returns_bind_iff.mpr ⟨t₁, ht₁,
      returns_bind_iff.mpr ⟨t₂, ht₂, returns_map_iff.mpr ?_⟩⟩⟩
    exact (returns_readField_iff res f t₂.info).mpr h

def FruReply.Read : FruReply → Prop
  | .field f => ∃ res, devGetByDataSdr devHdl sensorName = .ok (some res) ∧ f.InBounds res
  | .error => True

theorem returns_traverseFruNodeTree_iff (info : BmcEntityInfo) (replies : List FruReply) :
    Returns (traverseFruNodeTree ipmi devHdl sensorName info replies) ↔
      ∀ reply ∈ replies, reply.Read devHdl sensorName := by
  refine returns_foldlM_iff (fun t reply => ?_) _ replies
  cases reply with
  | field f => exact returns_traverseField_iff ipmi devHdl sensorName t f
  | error => exact iff_of_true (returns_ok t) trivial

/-! ## The handler -/

theorem BmcEntityInfo.exists_setByte (info : BmcEntityInfo) (field : ByteField) :
    ∃ b, info.setByte field b = info := by
  cases field with
  | type => exact ⟨info.type, rfl⟩
  | airFlow => exact ⟨info.airFlow, rfl⟩

theorem not_returns_copyResp (rsp : Ptr) (field : ByteField) (n : Nat) {i : Nat} (hi : i ≠ 0)
    (info : BmcEntityInfo) :
    ¬Returns (copyResp rsp field (n + 1) i info) := by
  intro h
  obtain ⟨b, -, h⟩ := returns_bind_iff.mp h
  obtain ⟨info', hstore, -⟩ := returns_bind_iff.mp h
  rw [BmcEntityInfo.storeByte, if_neg hi] at hstore
  cases hstore

theorem copyResp_cases (completion : Byte) (bytes : List Byte) (field : ByteField) (n : Nat)
    (info : BmcEntityInfo) :
    (n ≤ 1 ∧ n ≤ bytes.length ∧
      ∃ b, copyResp ⟨completion :: bytes, 0⟩ field n 0 info = .ok (info.setByte field b)) ∨
    ¬(n ≤ 1 ∧ n ≤ bytes.length) ∧ ¬Returns (copyResp ⟨completion :: bytes, 0⟩ field n 0 info) := by
  match n with
  | 0 =>
      obtain ⟨b, hb⟩ := info.exists_setByte field
      exact .inl ⟨Nat.zero_le _, Nat.zero_le _, b, by rw [hb]; rfl⟩
  | 1 =>
      cases bytes with
      | nil => exact .inr ⟨fun h => absurd h.2 (Nat.not_succ_le_zero 0), not_returns_error _⟩
      | cons b bytes => exact .inl ⟨Nat.le_refl _, Nat.succ_le_succ (Nat.zero_le _), b, rfl⟩
  | n + 2 =>
      refine .inr ⟨fun h => absurd h.1 (by omega), fun h => ?_⟩
      obtain ⟨b, -, h⟩ := returns_bind_iff.mp h
      obtain ⟨info', -, h⟩ := returns_bind_iff.mp h
      exact not_returns_copyResp _ field n (Nat.succ_ne_zero 0) info' h

/-- The handler reads bytes that have come, and changes nothing but the field that `resp_data` points at. -/
def Handles (debug : Bool) (src : Option μ) (rsp : List Byte) (oemCmd : OemCmdInfo) (field : ByteField)
    (info : BmcEntityInfo) : Prop :=
  ∃ b, oemRespHandler debug src rsp oemCmd field info = .ok (info.setByte field b)

/-- What a response has to be for a command that asks for `dataSize` bytes. -/
def Answers (debug : Bool) (dataSize : Nat) : List Byte → Prop
  | [] => False
  | completion :: bytes =>
      completion ≠ 0 ∨ (dataSize ≤ 1 ∧ dataSize ≤ bytes.length ∧ (debug = true → 0 < bytes.length))

theorem handles_iff (debug : Bool) (src : Option μ) (rsp : List Byte) (oemCmd : OemCmdInfo)
    (field : ByteField)
    (info : BmcEntityInfo) :
    Handles debug src rsp oemCmd field info ↔ src = none ∨ Answers debug oemCmd.dataSize.toNat rsp := by
  obtain ⟨b₀, hsame⟩ := info.exists_setByte field
  cases src with
  | none => exact iff_of_true ⟨b₀, by rw [hsame]; rfl⟩ (.inl rfl)
  | some mc =>
      rw [or_iff_right (Option.some_ne_none mc)]
      cases rsp with
      | nil => exact iff_of_false nofun id
      | cons completion bytes =>
          rw [Answers]
          have hload : (Ptr.mk (completion :: bytes) 0).load 0 = .ok completion := rfl
          rw [Handles, oemRespHandler, hload, Checked.bind_ok]
          split
          · rename_i hfailed
            exact iff_of_true ⟨b₀, by rw [hsame]⟩ (.inl hfailed)
          · rename_i hzero
            rw [or_iff_right hzero]
            rcases copyResp_cases completion bytes field oemCmd.dataSize.toNat info with
              ⟨hone, hcome, b, hcopy⟩ | ⟨hbad, hcopy⟩
            · rw [hcopy, Checked.bind_ok, and_iff_right hone, and_iff_right hcome]
              cases debug with
              | false => exact iff_of_true ⟨b, rfl⟩ nofun
              | true =>
                  cases bytes with
                  | nil => exact iff_of_false nofun fun h => absurd (h rfl) (Nat.lt_irrefl 0)
                  | cons c bytes => exact iff_of_true ⟨b, rfl⟩ fun _ => Nat.succ_pos _
            · refine iff_of_false ?_ fun h => hbad ⟨h.1, h.2.1⟩
              rintro ⟨b, h⟩
              obtain ⟨info', hinfo, -⟩ := returns_bind_iff.mp ⟨_, h⟩
              exact hcopy ⟨info', hinfo⟩

/-! ## Responses in bounds -/

/-- The FRU data are read in bounds iff every field that comes finds an entry and is read in bounds under it;
the response to an OEM request is iff it answers the request with no more than a byte. -/
theorem bmc_responses_inBounds_iff :
    (∀ (ipmi : Ipmi μ) devHdl sensorName info replies,
      Returns (traverseFruNodeTree ipmi devHdl sensorName info replies) ↔
        ∀ reply ∈ replies, reply.Read devHdl sensorName) ∧
    ∀ debug (src : Option μ) rsp oemCmd field info,
      Handles debug src rsp oemCmd field info ↔ src = none ∨ Answers debug oemCmd.dataSize.toNat rsp :=
  ⟨returns_traverseFruNodeTree_iff, handles_iff⟩

/-! ## Reads and writes out of bounds -/

def idleIpmi : Ipmi Unit := ⟨none, fun _ _ _ => 0⟩

def emptyInfo : BmcEntityInfo := ⟨false, [], [], [], [], 0, 0⟩

/-- An element at position 2, whose air flow is kept two bytes behind. -/
def psuEntry : DevResourceInfo :=
  { DevResourceInfo.zeroed with
    dataSdrId := "PSU1".toList, airflowOffset := 2, psuTypeOffset := invalidOffset }

def psuDev : DevEntry := ⟨some ⟨some [psuEntry]⟩⟩

/-- Four bytes of data, the first of which points at the third. -/
def internalUse : FruField := ⟨"internal_use".toList, .binary, [2, 0, 0, 0], by decide⟩

def twoByteCmd : OemCmdInfo := ⟨0x30, 0x45, 0, 0, 0, 2, 3, Vector.replicate (oemDataLen + 4) 0⟩

/-- The fifth byte of four is read, an entry that does not exist is used, and the second byte of a response is
written behind a field of one byte. -/
theorem bmc_responses_out_of_bounds :
    traverseFruNodeTree idleIpmi (some psuDev) "PSU1".toList emptyInfo [.field internalUse] =
        .error (.access (.load 4)) ∧
      traverseFruNodeTree idleIpmi (some psuDev) "PSU2".toList emptyInfo [.field internalUse] = .error .null ∧
      oemRespHandler false (some ()) [0, 1, 2] twoByteCmd .airFlow emptyInfo = .error (.store 1) :=
  ⟨rfl, rfl, rfl⟩

end OpxSdi.Bmc
