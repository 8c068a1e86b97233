import OpxSdi.Onie.Delivery
import OpxSdi.Onie.Theorems

/-!
# Fields that run over the delivered bytes

After the delivered bytes the buffer is zero, so the checksum is accepted only if the tag and the length of
the CRC field have been delivered. A chain of fields that leads to the CRC field then ends in time; one that
passes over it need not.
-/

namespace OpxSdi.Onie

open Lib

variable {E : Ext} {chip : EepromChip} {dev : EntityInfoDevice} {format : EntityParser}
  {st st' : FillState} {size : Nat}

/-! ## The buffer -/

namespace EepromChip

theorem length_bytes (offset n : Nat) : (chip.bytes offset n).length = n := by simp [bytes]

theorem bytes_append (m n : Nat) : chip.bytes 0 m ++ chip.bytes m n = chip.bytes 0 (m + n) := by
  simp [bytes, List.range_add, List.map_append, Function.comp_def]

theorem bytes_take (offset : Nat) {m n : Nat} (h : n ≤ m) :
    (chip.bytes offset m).take n = chip.bytes offset n := by
  rw [bytes, ← List.map_take, List.take_range, Nat.min_eq_left h, bytes]

theorem getD_bytes {n i : Nat} (rest : List Byte) (h : i < n) :
    (chip.bytes 0 n ++ rest).getD i 0 = chip.contents i := by
  simp [bytes, List.getD_eq_getElem?_getD, List.getElem?_append_left, h]

theorem delivered_le (offset len : Nat) : chip.delivered offset len ≤ len := by
  rw [delivered]
  cases chip.outcome offset len with
  | complete => exact Nat.le_refl len
  | fails rc n failed => exact Nat.min_le_right n len

theorem deliveredEnd_le : chip.deliveredEnd ≤ tlvHeaderSize + chip.totalLen :=
  Nat.add_le_add_left (chip.delivered_le _ _) _

theorem header_le_deliveredEnd : tlvHeaderSize ≤ chip.deliveredEnd := Nat.le_add_right _ _

/-- Nothing follows the delivered bytes. -/
theorem getD_buffer_of_le {i : Nat} (h : chip.deliveredEnd ≤ i) : (chip.buffer size).getD i 0 = 0 := by
  rw [buffer, List.getD_eq_getElem?_getD, List.getElem?_append_right (by rw [length_bytes]; exact h)]
  rw [List.getElem?_replicate]
  split <;> rfl

theorem length_buffer (h : chip.deliveredEnd ≤ size) : (chip.buffer size).length = size := by
  simp only [buffer, List.length_append, length_bytes, List.length_replicate]
  omega

theorem totalLen_lt : chip.totalLen < 2 ^ 16 := by
  have hhi := (chip.contents 9).isLt
  have hlo := (chip.contents 10).isLt
  rw [totalLen]
  omega

end EepromChip

/-! ## The calls of `sdi_onie_eeprom_data_get` -/

/-- Bytes are written right after those that are there already. -/
theorem storeBytes_append (bs cs : List Byte) (h : bs.length + cs.length ≤ size) :
    storeBytes (bs ++ List.replicate (size - bs.length) 0) bs.length cs =
      .ok (bs ++ cs ++ List.replicate (size - (bs.length + cs.length)) 0) := by
  have hdrop : (bs ++ List.replicate (size - bs.length) (0 : Byte)).drop (bs.length + cs.length) =
      List.replicate (size - (bs.length + cs.length)) 0 := by
    rw [← List.drop_drop, List.drop_left, List.drop_replicate, Nat.sub_sub]
  rw [storeBytes, if_pos (by simp only [List.length_append, List.length_replicate]; omega),
    List.take_left, hdrop]

theorem le_of_storeBytes {buf bs buf' : List Byte} {off : Nat} (h : storeBytes buf off bs = .ok buf') :
    off + bs.length ≤ buf.length := by
  rw [storeBytes] at h
  split at h
  · assumption
  · cases h

variable {n : Nat}

theorem load_bytes (rest : List Byte) (off i : Nat) (h : off + i < n) :
    Ptr.load ⟨chip.bytes 0 n ++ rest, off⟩ i = .ok (chip.contents (off + i)) := by
  rw [Ptr.load_ok (by simp only [List.length_append, chip.length_bytes]; omega), chip.getD_bytes rest h]

theorem totalLen_bytes (rest : List Byte) (h : tlvHeaderSize ≤ n) :
    totalLen (chip.bytes 0 n ++ rest) = .ok chip.totalLen := by
  rw [tlvHeaderSize] at h
  rw [totalLen, load_bytes rest 9 0 (by omega), Checked.bind_ok, load_bytes rest 9 1 (by omega)]
  rfl

theorem validateHeader_bytes (rest : List Byte) (h : tlvHeaderSize ≤ n) (entitySize : BitVec 32) :
    validateHeader (chip.bytes 0 n ++ rest) entitySize =
      .ok (if chip.bytes 0 8 = hdrIdString ∧ chip.contents 8 = hdrVersion ∧
      (chip.totalLen : Int) ≤ sizeLeft entitySize
        then .ok else .errcode .einval) := by
  have hn : 11 ≤ n := h
  have hlen : 8 ≤ (chip.bytes 0 n).length := by
    rw [chip.length_bytes]
    omega
  rw [validateHeader, Ptr.loadBytes_ok (by simp only [List.length_append]; omega), Checked.bind_ok,
    load_bytes rest 8 0 (by omega), Checked.bind_ok, totalLen_bytes rest h, Checked.bind_ok]
  simp only [List.drop_zero, List.take_append_of_le_length hlen, chip.bytes_take 0 (show 8 ≤ n by omega)]

/-- An accepted header says that the image fits into the buffer. -/
theorem totalLen_le_of_header {entitySize : BitVec 32} {buf : List Byte}
    (hsize : tlvHeaderSize ≤ entitySize.toNat)
    (h : validateHeader (chip.bytes 0 tlvHeaderSize ++ buf) entitySize = .ok .ok) :
    tlvHeaderSize + chip.totalLen ≤ entitySize.toNat := by
  have hlt := chip.totalLen_lt
  rw [validateHeader_bytes buf (Nat.le_refl _)] at h
  split at h
  · rename_i hcond
    have hle := hcond.2.2
    have hint := BitVec.toInt_eq_toNat_cond entitySize
    simp only [sizeLeft, tlvHeaderSize] at hle hsize ⊢
    split at hint <;> omega
  · cases h

theorem storeBytes_second (h : tlvHeaderSize + chip.totalLen ≤ size) :
    storeBytes (chip.bytes 0 tlvHeaderSize ++ List.replicate (size - tlvHeaderSize) 0) tlvHeaderSize
        ((chip.read tlvHeaderSize chip.totalLen).2.take chip.totalLen) = .ok (chip.buffer size) := by
  have hle := chip.delivered_le tlvHeaderSize chip.totalLen
  have hstore := storeBytes_append (chip.bytes 0 tlvHeaderSize)
    (chip.bytes tlvHeaderSize (chip.delivered tlvHeaderSize chip.totalLen))
    (show _ ≤ size by rw [chip.length_bytes, chip.length_bytes]; omega)
  rw [chip.length_bytes, chip.length_bytes, chip.bytes_append] at hstore
  rw [EepromChip.read, List.take_of_length_le (by rw [chip.length_bytes]; exact hle)]
  exact hstore

/-- What is done with a buffer that has been accepted -/
def decodeImage (E : Ext) (format : EntityParser) (dev : EntityInfoDevice) (buf : List Byte)
    (st : FillState) : Checked (TStdError × FillState) :=
  if format = .onieSysEeprom ∨ format = .oniePsuEeprom ∨ format = .onieFanEeprom then do
    let r ← fillTlvEntityInfo E format buf st.systemPartNumber
    return (.ok, finishInfo format dev r.state)
  else
    return (.errcode .eperm, st)

/-- The code after a header that has been read -/
theorem dataGet_complete (E : Ext) (format : EntityParser) (st : FillState)
    (hheader : chip.outcome 0 tlvHeaderSize = .complete)
    (hsize : tlvHeaderSize ≤ dev.entitySize.toNat) :
    onieEepromDataGet E chip.read dev format st = (do
      let rc ← validateHeader (chip.buffer dev.entitySize.toNat) dev.entitySize
      if rc ≠ .ok then return (rc, st)
      let rc ← validateChecksum E (chip.buffer dev.entitySize.toNat)
      if rc ≠ .ok then return (rc, st)
      decodeImage E format dev (chip.buffer dev.entitySize.toNat) st) := by
  have hread : chip.read 0 tlvHeaderSize = (.ok, chip.bytes 0 tlvHeaderSize) := by
    rw [EepromChip.read, EepromChip.delivered, hheader]
    rfl
  have hfirst := storeBytes_append [] (chip.bytes 0 tlvHeaderSize)
    (show _ ≤ dev.entitySize.toNat by rw [chip.length_bytes, List.length_nil, Nat.zero_add]; exact hsize)
  simp only [List.nil_append, List.length_nil, Nat.sub_zero, Nat.zero_add, chip.length_bytes] at hfirst
  have hsame : validateHeader (chip.buffer dev.entitySize.toNat) dev.entitySize = validateHeader
      (chip.bytes 0 tlvHeaderSize ++ List.replicate (dev.entitySize.toNat - tlvHeaderSize) 0)
        dev.entitySize := by
    rw [EepromChip.buffer, validateHeader_bytes _ chip.header_le_deliveredEnd,
      validateHeader_bytes _ (Nat.le_refl _)]
  rw [hsame, onieEepromDataGet, hread]
  simp only [chip.bytes_take 0 (Nat.le_refl _), hfirst, Checked.bind_ok]
  rw [if_neg (not_not.mpr rfl)]
  cases hvalid : validateHeader (chip.bytes 0 tlvHeaderSize ++
      List.replicate (dev.entitySize.toNat - tlvHeaderSize) 0) dev.entitySize with
  | error f => rfl
  | ok rc =>
      simp only [Checked.bind_ok]
      split
      · rfl
      · rename_i hrc
        obtain rfl := not_not.mp hrc
        have hfits := totalLen_le_of_header hsize hvalid
        rw [totalLen_bytes _ (Nat.le_refl _), Checked.bind_ok, storeBytes_second hfits, Checked.bind_ok]
        refine bind_congr fun rc => ?_
        split
        · rfl
        · cases format <;> rfl

/-- The accepted image is the buffer. -/
def acceptedImage (hsize : tlvHeaderSize ≤ dev.entitySize.toNat)
    (hvalid : validateHeader (chip.buffer dev.entitySize.toNat) dev.entitySize = .ok .ok)
    (hcrc : validateChecksum E (chip.buffer dev.entitySize.toNat) = .ok .ok) :
    AcceptedImage E dev.entitySize where
  bytes := chip.buffer dev.entitySize.toNat
  len := chip.totalLen
  large := hsize
  size := by
    rw [EepromChip.buffer, validateHeader_bytes _ chip.header_le_deliveredEnd,
      ← validateHeader_bytes [] (Nat.le_refl _)] at hvalid
    exact EepromChip.length_buffer (Nat.le_trans chip.deliveredEnd_le (totalLen_le_of_header hsize hvalid))
  total := totalLen_bytes _ chip.header_le_deliveredEnd
  headerOk := hvalid
  checksumOk := hcrc

namespace Accepts

/-- The buffer of an accepted image -/
def image (h : Accepts E chip dev format) : AcceptedImage E dev.entitySize :=
  acceptedImage h.large h.headerOk h.checksumOk

theorem fill_returns (h : Accepts E chip dev format) (systemPartNumber : List Byte) :
    ∃ r, fillTlvEntityInfo E format (chip.buffer dev.entitySize.toNat) systemPartNumber = .ok r :=
  (h.image.fill_in_bounds_iff format systemPartNumber).mpr h.bounded

theorem dataGet_eq (h : Accepts E chip dev format) (st : FillState) :
    onieEepromDataGet E chip.read dev format st =
      fillTlvEntityInfo E format (chip.buffer dev.entitySize.toNat) st.systemPartNumber >>= fun r =>
        return (.ok, finishInfo format dev r.state) := by
  rw [dataGet_complete E format st h.header h.large, h.headerOk, Checked.bind_ok, if_neg (not_not.mpr rfl),
    h.checksumOk, Checked.bind_ok, if_neg (not_not.mpr rfl), decodeImage, if_pos h.format]

end Accepts

/-- The call fails and leaves the entity info, or the image has been accepted and is decoded. -/
theorem dataGet_cases {rc : TStdError} (h : onieEepromDataGet E chip.read dev format st = .ok (rc, st')) :
    (rc ≠ .ok ∧ st' = st) ∨ (rc = .ok ∧ Accepts E chip dev format ∧ ∃ r,
      fillTlvEntityInfo E format (chip.buffer dev.entitySize.toNat) st.systemPartNumber = .ok r ∧
        st' = finishInfo format dev r.state) := by
  cases hheader : chip.outcome 0 tlvHeaderSize with
  | fails rc' n failed =>
      have hfailed : (chip.outcome 0 tlvHeaderSize).rc ≠ .ok := by
        rw [hheader]
        exact failed
      obtain ⟨data, -, h⟩ := Checked.bind_eq_ok h
      rw [if_pos hfailed] at h
      cases h
      exact .inl ⟨hfailed, rfl⟩
  | complete =>
      have hlarge : tlvHeaderSize ≤ dev.entitySize.toNat := by
        obtain ⟨data, hdata, -⟩ := Checked.bind_eq_ok h
        have hle := le_of_storeBytes hdata
        simp only [EepromChip.delivered, hheader, ReadOutcome.delivered, List.length_replicate,
          List.length_take, chip.length_bytes, Nat.zero_add, Nat.min_self] at hle
        exact hle
      rw [dataGet_complete E format st hheader hlarge] at h
      obtain ⟨rcHeader, hvalid, h⟩ := Checked.bind_eq_ok h
      split at h
      · rename_i hne
        cases h
        exact .inl ⟨hne, rfl⟩
      · rename_i hok
        obtain rfl := not_not.mp hok
        obtain ⟨rcChecksum, hcrc, h⟩ := Checked.bind_eq_ok h
        split at h
        · rename_i hne
          cases h
          exact .inl ⟨hne, rfl⟩
        · rename_i hok
          obtain rfl := not_not.mp hok
          rw [decodeImage] at h
          split at h
          · rename_i hformat
            obtain ⟨r, hr, h⟩ := Checked.bind_eq_ok h
            cases h
            have hbounded := ((acceptedImage hlarge hvalid hcrc).fill_in_bounds_iff format
              st.systemPartNumber).mp ⟨r, hr⟩
            exact .inr ⟨rfl, ⟨hheader, hlarge, hvalid, hcrc, hformat, hbounded⟩, r, hr, rfl⟩
          · cases h
            exact .inl ⟨TStdError.noConfusion, rfl⟩

/-! ## What the `switch` reads -/

/-- For the other fields nothing is stored. -/
theorem fillTlv_of_not_decodes {buf : List Byte} {off : Nat} (hoff : off + 1 < buf.length)
    (h : ¬Decodes format buf off) (st : FillState) : fillTlv E format ⟨buf, off⟩ st = .ok st := by
  have htag : Ptr.load ⟨buf, off⟩ 0 = .ok (buf.getD off 0) := Ptr.load_ok (by simp only; omega)
  have hlength : Ptr.load ⟨buf, off⟩ 1 = .ok (buf.getD (off + 1) 0) := Ptr.load_ok hoff
  rw [Decodes] at h
  rw [fillTlv, htag, Checked.bind_ok]
  cases hto : OnieTag.ofByte (buf.getD off 0) with
  | other => rfl
  | macAddr =>
      rw [hto] at h
      simp only [hlength, Checked.bind_ok]
      exact if_neg h
  | vendorExtn =>
      rw [hto] at h
      simp only [fillVendorExtn, if_neg h]
      rfl
  | productName | partNo | serialNo | labelVersion | platformName | noMacs | vendor | svcTag =>
      rw [hto] at h
      exact absurd trivial h

theorem le_readEnd (buf : List Byte) (off : Nat) : off + 2 + fieldLen buf off ≤ readEnd buf off := by
  rw [readEnd]
  split
  · exact Nat.add_le_add_left (Nat.le_max_right ..) _
  · exact Nat.le_refl _

theorem readEnd_le (buf : List Byte) (off : Nat) : readEnd buf off ≤ off + 2 + max 2 (fieldLen buf off) := by
  rw [readEnd]
  split
  · exact Nat.le_refl _
  · exact Nat.add_le_add_left (Nat.le_max_right ..) _

/-- What is made of a field depends on the bytes up to `readEnd` only. -/
theorem fillTlv_of_readEnd {bs xs : List Byte} {off : Nat} (h : readEnd (bs ++ xs) off ≤ bs.length)
    (ys : List Byte) (st : FillState) :
    Lockstep (fillTlv E format ⟨bs ++ xs, off⟩ st) (fillTlv E format ⟨bs ++ ys, off⟩ st) := by
  have hload (zs : List Byte) (i : Nat) (hi : off + i < bs.length) :
      Ptr.load ⟨bs ++ zs, off⟩ i = .ok ((bs ++ xs).getD (off + i) 0) := by
    rw [Ptr.load_ok (by simp only [List.length_append]; omega)]
    simp only [List.getD_eq_getElem?_getD, List.getElem?_append_left hi]
  have hmin := le_readEnd (bs ++ xs) off
  have hagree : Ptr.Agree (readEnd (bs ++ xs) off - (off + 2) + 2) ⟨bs ++ xs, off⟩ ⟨bs ++ ys, off⟩ :=
    fun i hi => ⟨_, hload xs i (by omega), hload ys i (by omega)⟩
  refine fillTlv_lockstep (.of_agree hagree ?_ ?_) st
  · intro b hb
    rw [hload xs 1 (by omega)] at hb
    obtain rfl := Except.ok.inj hb
    change fieldLen (bs ++ xs) off ≤ _
    omega
  · intro b hb hmacs
    rw [hload xs 0 (by omega), Nat.add_zero] at hb
    obtain rfl := Except.ok.inj hb
    have hread : readEnd (bs ++ xs) off = off + 2 + max 2 (fieldLen (bs ++ xs) off) := by
      rw [readEnd, hmacs]
      rfl
    omega

/-! ## The fields the loop comes to -/

theorem remaining_antitone (buf : List Byte) (off : Nat) (tlvLen : Int) {i k : Nat} (h : i ≤ k) :
    remaining buf off tlvLen k ≤ remaining buf off tlvLen i := by
  have hmono := boundary_mono buf off (show i + 1 ≤ k + 1 by omega)
  simp only [remaining]
  omega

/-- The loop comes to the boundaries before the one where its counter is used up. -/
theorem AcceptedImage.mem_visited_iff {entitySize : BitVec 32} (I : AcceptedImage E entitySize)
    {systemPartNumber : List Byte} {r : FillResult}
    (h : fillTlvEntityInfo E format I.bytes systemPartNumber = .ok r) (off : Nat) :
    off ∈ r.visited ↔ ∃ k, off = boundary I.bytes 11 k ∧
      boundary I.bytes 11 (k + 1) < I.len + 7 + fieldLen I.bytes 11 + k := by
  have hone : boundary I.bytes 11 1 = 11 + (fieldLen I.bytes 11 + 2) := rfl
  have hcounted : ∀ k, 0 < remaining I.bytes 11 ((I.len : Int) - tlvCrcSize) k ↔
      boundary I.bytes 11 (k + 1) < I.len + 7 + fieldLen I.bytes 11 + k := by
    intro k
    simp only [remaining, tlvCrcSize, hone]
    omega
  rw [I.fill_eq] at h
  obtain ⟨m, hgo, hstop, ⟨-, st', -, hloop⟩ | ⟨-, hnone⟩⟩ := fillLoop_spec E format I.bytes 11
    ⟨EntityInfo.zero, systemPartNumber⟩ (Nat.le_refl ((I.len : Int) - tlvCrcSize).toNat)
  · obtain rfl := Except.ok.inj (h.symm.trans hloop)
    simp only [List.mem_map, List.mem_range]
    constructor
    · rintro ⟨k, hk, rfl⟩
      exact ⟨k, rfl, (hcounted k).mp (hgo k hk)⟩
    · rintro ⟨k, rfl, hk⟩
      refine ⟨k, ?_, rfl⟩
      by_contra hge
      have hle := remaining_antitone I.bytes 11 ((I.len : Int) - tlvCrcSize) (show m ≤ k by omega)
      have hpos := (hcounted k).mpr hk
      omega
  · exact absurd h (hnone r)

/-- The tag of a field after the delivered bytes is zero. -/
theorem not_decodes_of_le {off : Nat} (h : chip.deliveredEnd ≤ off) :
    ¬Decodes format (chip.buffer size) off := by
  rw [Decodes, chip.getD_buffer_of_le h]
  exact id

/-- What breaks the guarantee: a field that runs over is decoded with success. -/
theorem not_decodesDelivered {k : Nat} (haccepts : Accepts E chip dev format)
    (hover : RunsOver chip dev.entitySize.toNat format k) : ¬DecodesDelivered E chip dev format := by
  intro h
  obtain ⟨r, hr⟩ := haccepts.fill_returns []
  have hget := haccepts.dataGet_eq ⟨EntityInfo.zero, []⟩
  rw [hr] at hget
  obtain ⟨-, r', hr', -, hdelivered⟩ := h.success _ _ hget
  have hvisited := (haccepts.image.mem_visited_iff hr' _).mpr ⟨k, rfl, hover.counted⟩
  exact absurd (hdelivered _ hvisited hover.decodes) (Nat.not_le.mpr hover.past)

theorem decodesDelivered_iff (E : Ext) (chip : EepromChip) (dev : EntityInfoDevice) (format : EntityParser) :
    DecodesDelivered E chip dev format ↔
      (Accepts E chip dev format → ∀ k, ¬RunsOver chip dev.entitySize.toNat format k) := by
  constructor
  · exact fun h haccepts k hover => not_decodesDelivered haccepts hover h
  · intro h
    refine ⟨fun st st' hget => ?_, fun st rc st' hget hrc => ?_⟩
    · obtain ⟨hne, -⟩ | ⟨-, haccepts, r, hr, hst'⟩ := dataGet_cases hget
      · exact absurd rfl hne
      · refine ⟨?_, r, hr, hst', fun off hoff hdecodes => ?_⟩
        · rw [EepromChip.delivered, haccepts.header]
          rfl
        · obtain ⟨k, rfl, hcounted⟩ := (haccepts.image.mem_visited_iff hr off).mp hoff
          have hbegins : boundary (chip.buffer dev.entitySize.toNat) 11 k < chip.deliveredEnd := by
            by_contra hge
            exact not_decodes_of_le (Nat.not_lt.mp hge) hdecodes
          by_contra hpast
          exact h haccepts k ⟨hbegins, hdecodes, Nat.not_le.mp hpast, hcounted⟩
    · obtain ⟨-, rfl⟩ | ⟨rfl, -⟩ := dataGet_cases hget
      · rfl
      · exact absurd rfl hrc

/-- A MAC address whose last byte is that of the CRC, which the second read has not delivered -/
def macChip : EepromChip where
  contents i := (bytesOf "TlvInfo" ++ [0, 1, 0, 14, 0x25, 4] ++ bytesOf "0076" ++
    [0x24, 6, 0xfe, 4, 0x3e, 0xb6, 0xf7, 0]).getD i 0
  outcome offset _ := if offset = 0 then .complete else .fails .errno 13 TStdError.noConfusion

def macDevice : EntityInfoDevice := ⟨32, 0, 0⟩

theorem not_decodesDelivered_mac : ¬DecodesDelivered platform macChip macDevice .onieSysEeprom := by
  have hbuffer : macChip.buffer macDevice.entitySize.toNat = bytesOf "TlvInfo" ++ [0, 1, 0, 14, 0x25, 4] ++
      bytesOf "0076" ++ [0x24, 6, 0xfe, 4, 0x3e, 0xb6, 0xf7, 0] ++ List.replicate 7 0 := by decide +kernel
  have haccepts : Accepts platform macChip macDevice .onieSysEeprom := by
    refine ⟨rfl, by decide, ?_, ?_, .inl rfl, .inr ⟨2, by decide, ?_⟩⟩
    all_goals
      rw [hbuffer]
      decide +kernel
  have hover : RunsOver macChip macDevice.entitySize.toNat .onieSysEeprom 1 := by
    have htag : OnieTag.ofByte ((macChip.buffer macDevice.entitySize.toNat).getD
        (boundary (macChip.buffer macDevice.entitySize.toNat) 11 1) 0) = .macAddr := by
      rw [hbuffer]
      decide +kernel
    refine ⟨?_, ?_, ?_, ?_⟩
    · rw [hbuffer]
      decide +kernel
    · rw [Decodes, htag, hbuffer]
      decide +kernel
    · rw [readEnd, htag, hbuffer]
      decide +kernel
    · rw [hbuffer]
      decide +kernel
  exact not_decodesDelivered haccepts hover

/-! ## Fields that lead to the CRC field -/

/-- The zeros after the delivered bytes are no CRC field. -/
theorem Accepts.crcField (h : Accepts E chip dev format) : 7 + chip.totalLen ≤ chip.deliveredEnd ∧
    (chip.buffer dev.entitySize.toNat).getD (5 + chip.totalLen) 0 = crc32Tag ∧
    fieldLen (chip.buffer dev.entitySize.toNat) (5 + chip.totalLen) = 4 := by
  have hsix : 6 ≤ chip.totalLen := h.image.six_le
  obtain ⟨htag, hlen, -⟩ : (chip.buffer dev.entitySize.toNat).getD (11 + chip.totalLen - 6) 0 = crc32Tag ∧
    fieldLen (chip.buffer dev.entitySize.toNat) (11 + chip.totalLen - 6) = 4 ∧ _ := h.image.crcField
  rw [show 11 + chip.totalLen - 6 = 5 + chip.totalLen by omega] at htag hlen
  refine ⟨?_, htag, hlen⟩
  by_contra hlt
  rw [fieldLen, chip.getD_buffer_of_le (by omega)] at hlen
  cases hlen

/-- Where the fields lead to the CRC field, the decoded ones have been delivered wherever a read fails. -/
theorem Accepts.not_runsOver (h : Accepts E chip dev format) {n : Nat}
    (hchain : boundary (chip.buffer dev.entitySize.toNat) 11 n = 5 + chip.totalLen) (k : Nat) :
    ¬RunsOver chip dev.entitySize.toNat format k := by
  intro hover
  obtain ⟨hend, htag, hlen⟩ := h.crcField
  have hpast := hover.past
  have hbegins := hover.begins
  have hread := readEnd_le (chip.buffer dev.entitySize.toNat)
    (boundary (chip.buffer dev.entitySize.toNat) 11 k)
  have hnext : boundary (chip.buffer dev.entitySize.toNat) 11 (k + 1) =
      boundary (chip.buffer dev.entitySize.toNat) 11 k +
        (fieldLen (chip.buffer dev.entitySize.toNat)
          (boundary (chip.buffer dev.entitySize.toNat) 11 k) + 2) := rfl
  obtain hlt | rfl | hgt := Nat.lt_trichotomy k n
  · -- The field ends where the CRC field begins, or before.
    have hmono := boundary_mono (chip.buffer dev.entitySize.toNat) 11 (show k + 1 ≤ n by omega)
    omega
  · have hdecodes := hover.decodes
    rw [Decodes, hchain, htag] at hdecodes
    exact hdecodes
  · -- The field begins where the CRC field ends, or after.
    have hmono := boundary_mono (chip.buffer dev.entitySize.toNat) 11 (show n + 1 ≤ k by omega)
    have hcrcEnd : boundary (chip.buffer dev.entitySize.toNat) 11 (n + 1) =
        boundary (chip.buffer dev.entitySize.toNat) 11 n +
          (fieldLen (chip.buffer dev.entitySize.toNat)
            (boundary (chip.buffer dev.entitySize.toNat) 11 n) + 2) := rfl
    rw [hchain, hlen] at hcrcEnd
    have hle := chip.deliveredEnd_le
    rw [tlvHeaderSize] at hle
    omega

end OpxSdi.Onie
