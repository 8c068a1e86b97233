import OpxSdi.Onie.Lemmas.Loop
import OpxSdi.Onie.VendorExtn

/-!
# What the ONIE TLV loop reads

The counter of the loop is reduced by one byte less than a field has, and by the length of the next
field instead of the one just read. These are the images on which it nevertheless stops at the CRC
field, and those on which it stays in the buffer.
-/

namespace OpxSdi.Onie

open Lib

variable {E : Ext} {entitySize : BitVec 32}

/-! ## Images that have been accepted -/

/-- A buffer of `entity_size` bytes whose header and checksum have been accepted. -/
structure AcceptedImage (E : Ext) (entitySize : BitVec 32) where
  bytes : List Byte
  len : Nat
  large : tlvHeaderSize ≤ entitySize.toNat
  size : bytes.length = entitySize.toNat
  total : totalLen bytes = .ok len
  headerOk : validateHeader bytes entitySize = .ok .ok
  checksumOk : validateChecksum E bytes = .ok .ok

namespace AcceptedImage

variable (I : AcceptedImage E entitySize)

theorem eleven_le : 11 ≤ I.bytes.length := by
  have h := I.large
  rw [← I.size] at h
  exact h

theorem crcField : I.bytes.getD (11 + I.len - 6) 0 = crc32Tag ∧ fieldLen I.bytes (11 + I.len - 6) = 4 ∧
    11 + I.len - 6 + 5 < I.bytes.length := by
  have h := I.checksumOk
  unfold validateChecksum at h
  rw [I.total] at h
  obtain ⟨len, hlen, h⟩ := Checked.bind_eq_ok h
  obtain rfl := Except.ok.inj hlen
  obtain ⟨tag, htag, h⟩ := Checked.bind_eq_ok h
  obtain ⟨length, hlength, h⟩ := Checked.bind_eq_ok h
  obtain ⟨-, rfl⟩ := Ptr.lt_of_load htag
  obtain ⟨-, rfl⟩ := Ptr.lt_of_load hlength
  split at h
  · cases h
  · rename_i hcond
    obtain ⟨crcBytes, -, h⟩ := Checked.bind_eq_ok h
    obtain ⟨v0, -, h⟩ := Checked.bind_eq_ok h
    obtain ⟨v1, -, h⟩ := Checked.bind_eq_ok h
    obtain ⟨v2, -, h⟩ := Checked.bind_eq_ok h
    obtain ⟨v3, hv3, -⟩ := Checked.bind_eq_ok h
    obtain ⟨hlast, -⟩ := Ptr.lt_of_load hv3
    rw [not_or, not_not, not_not] at hcond
    exact ⟨hcond.1, hcond.2, hlast⟩

theorem headerBytes : (I.bytes.take 8) = hdrIdString ∧ I.bytes.getD 8 0 = hdrVersion := by
  have h := I.headerOk
  have hlen := I.eleven_le
  unfold validateHeader at h
  obtain ⟨id, hid, h⟩ := Checked.bind_eq_ok h
  obtain ⟨version, hversion, h⟩ := Checked.bind_eq_ok h
  obtain ⟨len, -, h⟩ := Checked.bind_eq_ok h
  rw [Ptr.loadBytes_ok (by simp only; omega)] at hid
  obtain rfl := Except.ok.inj hid
  obtain ⟨-, rfl⟩ := Ptr.lt_of_load hversion
  split at h
  · rename_i hcond
    exact ⟨hcond.1, hcond.2.1⟩
  · cases h

theorem totalBytes : I.len = (I.bytes.getD 9 0).toNat * 256 + (I.bytes.getD 10 0).toNat := by
  have h := I.total
  unfold totalLen at h
  obtain ⟨hi, hhi, h⟩ := Checked.bind_eq_ok h
  obtain ⟨lo, hlo, h⟩ := Checked.bind_eq_ok h
  obtain ⟨-, rfl⟩ := Ptr.lt_of_load hhi
  obtain ⟨-, rfl⟩ := Ptr.lt_of_load hlo
  exact (Except.ok.inj h).symm

/-- A smaller total would put the CRC field into the header, where its tag is nowhere. -/
theorem six_le : 6 ≤ I.len := by
  obtain ⟨htag, -, -⟩ := I.crcField
  obtain ⟨hid, hversion⟩ := I.headerBytes
  have htotal := I.totalBytes
  by_contra hlt
  have hid' (k : Nat) (hk : k < 8) : I.bytes.getD k 0 = hdrIdString.getD k 0 := by
    rw [← hid]
    simp only [List.getD_eq_getElem?_getD, List.getElem?_take, hk, ↓reduceIte]
  have hcrc : (crc32Tag : Byte).toNat = 254 := rfl
  obtain h | h | h | h | h | h : I.len = 0 ∨ I.len = 1 ∨ I.len = 2 ∨ I.len = 3 ∨ I.len = 4 ∨ I.len = 5 := by
    omega
  · rw [h, hid' 5 (by omega)] at htag
    exact absurd htag (by decide)
  · rw [h, hid' 6 (by omega)] at htag
    exact absurd htag (by decide)
  · rw [h, hid' 7 (by omega)] at htag
    exact absurd htag (by decide)
  · rw [h, hversion] at htag
    exact absurd htag (by decide)
  · rw [h] at htag htotal
    rw [htag, hcrc] at htotal
    omega
  · rw [h] at htag htotal
    rw [htag, hcrc] at htotal
    omega

theorem fill_eq (parserType : EntityParser) (systemPartNumber : List Byte) :
    fillTlvEntityInfo E parserType I.bytes systemPartNumber =
      fillLoop E parserType I.bytes ((I.len : Int) - tlvCrcSize).toNat (I.len - tlvCrcSize) 11
        ⟨EntityInfo.zero, systemPartNumber⟩ := by
  unfold fillTlvEntityInfo
  rw [I.total]
  rfl

/-! ## The buffer -/

/-- Every fault is a read: no write leaves its member and the loop ends. -/
theorem fill_onlyLoads (parserType : EntityParser) (systemPartNumber : List Byte) :
    OnlyLoads (fillTlvEntityInfo E parserType I.bytes systemPartNumber) := by
  rw [I.fill_eq]
  exact fillLoop_onlyLoads _ (Nat.le_refl _)

/-- The loop stays in the buffer iff it has no turn, or some boundary whose length byte is in the
buffer is one at which the counter is used up. -/
theorem fill_in_bounds_iff (parserType : EntityParser) (systemPartNumber : List Byte) :
    (∃ r, fillTlvEntityInfo E parserType I.bytes systemPartNumber = .ok r) ↔
      I.len = 6 ∨ ∃ m ≥ 1, boundary I.bytes 11 m + 1 < entitySize.toNat ∧
        I.len + 7 + fieldLen I.bytes 11 + m ≤ boundary I.bytes 11 (m + 1) := by
  have hsix := I.six_le
  have hone : boundary I.bytes 11 1 = 11 + (fieldLen I.bytes 11 + 2) := rfl
  rw [I.fill_eq, fillLoop_returns_iff _ (Nat.le_refl _), I.size]
  refine or_congr ?_ (exists_congr fun m => and_congr_right fun _ => and_congr_right fun _ => ?_)
  · simp only [tlvCrcSize]
    omega
  · simp only [remaining, tlvCrcSize, hone]
    omega

end AcceptedImage

def fullImage : AcceptedImage platform 23 where
  bytes := bytesOf "TlvInfo" ++ [0, 1, 0, 12, 0x21, 4] ++ bytesOf "S404" ++
    [0xfe, 4, 0x32, 0xc5, 0x06, 0x1f]
  len := 12
  large := by decide
  size := rfl
  total := rfl
  headerOk := rfl
  checksumOk := by decide +kernel

/-- The CRC field is taken for one more field, and the length byte after it is past the end. -/
theorem fill_reads_past_end :
    fillTlvEntityInfo platform .onieSysEeprom fullImage.bytes [] = .error (.load 24) := by
  decide +kernel

/-! ## Images made of fields -/

/-- An accepted image whose bytes between the header and the CRC field are fields. -/
structure TlvImage (E : Ext) (entitySize : BitVec 32) extends AcceptedImage E entitySize where
  header : List Byte
  tlvs : List Tlv
  rest : List Byte
  header_length : header.length = 11
  bytes_eq : bytes = header ++ (Tlv.encodeAll tlvs ++ rest)
  len_eq : len = (Tlv.encodeAll tlvs).length + 6

/-- The fields handed to the `switch` one after another, each on its own. -/
def foldTlvs (E : Ext) (parserType : EntityParser) (tlvs : List Tlv) (st : FillState) :
    Checked FillState :=
  tlvs.foldlM (fun st t => fillTlv E parserType ⟨t.encode, 0⟩ st) st

theorem foldTlvs_cons (parserType : EntityParser) (t : Tlv) (ts : List Tlv) (st : FillState) :
    foldTlvs E parserType (t :: ts) st =
      fillTlv E parserType ⟨t.encode, 0⟩ st >>= foldTlvs E parserType ts := rfl

theorem foldTlvs_mac_length {parserType : EntityParser} {tlvs : List Tlv} {st st' : FillState}
    (h : foldTlvs E parserType tlvs st = .ok st') :
    ∀ t ∈ tlvs, OnieTag.ofByte t.tag = .noMacs → 2 ≤ t.length := by
  induction tlvs generalizing st with
  | nil => exact fun t ht => absurd ht List.not_mem_nil
  | cons t ts ih =>
      rw [foldTlvs_cons] at h
      obtain ⟨st₁, hst₁, h⟩ := Checked.bind_eq_ok h
      intro u hu htag
      rcases List.mem_cons.mp hu with rfl | hu
      · by_contra hlt
        obtain ⟨f, hf⟩ := fillTlv_short_noMacs E parserType u htag (by omega) st
        rw [hf] at hst₁
        cases hst₁
      · exact ih h u hu htag

/-- The fields inside an image are interpreted as the fields on their own. -/
theorem foldTlvs_image (parserType : EntityParser) (pre post : List Byte) (tlvs : List Tlv)
    (hmac : ∀ t ∈ tlvs, OnieTag.ofByte t.tag = .noMacs → 2 ≤ t.length) (st : FillState) :
    Lockstep ((Tlv.offsets pre.length tlvs).foldlM
        (fun st p => fillTlv E parserType ⟨pre ++ (Tlv.encodeAll tlvs ++ post), p⟩ st) st)
      (foldTlvs E parserType tlvs st) := by
  induction tlvs generalizing pre st with
  | nil => exact .pure st
  | cons t ts ih =>
      have hhead := fillTlv_encode E parserType pre (Tlv.encodeAll ts ++ post) t
        (hmac t List.mem_cons_self) st
      have htail := fun st' => ih (pre ++ t.encode) (fun u hu => hmac u (List.mem_cons_of_mem t hu)) st'
      simp only [List.append_assoc, List.length_append, Tlv.encode_length] at htail
      rw [Tlv.encodeAll_cons, List.append_assoc, Tlv.offsets, List.foldlM_cons, foldTlvs_cons]
      exact hhead.bind fun st' _ => htail st'

namespace TlvImage

variable (I : TlvImage E entitySize)

/-- The boundaries are where the fields begin, and after the last one where the CRC field begins. -/
theorem boundary_eq {k : Nat} (hk : k ≤ I.tlvs.length) :
    boundary I.bytes 11 k = 11 + (Tlv.encodeAll (I.tlvs.take k)).length := by
  have h := Tlv.boundary_encodeAll I.header I.rest I.tlvs hk
  rwa [← I.bytes_eq, I.header_length] at h

theorem boundary_last : boundary I.bytes 11 I.tlvs.length = 5 + I.len := by
  rw [I.boundary_eq (Nat.le_refl _), List.take_length, I.len_eq]
  omega

theorem boundary_past : boundary I.bytes 11 (I.tlvs.length + 1) = 11 + I.len := by
  obtain ⟨-, hlen, -⟩ := I.crcField
  rw [show 11 + I.len - 6 = 5 + I.len by omega] at hlen
  simp only [boundary, I.boundary_last, hlen]
  omega

theorem offsets_eq : (List.range I.tlvs.length).map (boundary I.bytes 11) = Tlv.offsets 11 I.tlvs := by
  have h := Tlv.offsets_eq_boundary I.header I.rest I.tlvs
  rw [← I.bytes_eq, I.header_length] at h
  exact h.symm

/-- The loop does not stop before it has been at every field. -/
theorem remaining_pos {k : Nat} (hk : k < I.tlvs.length) :
    0 < remaining I.bytes 11 (I.len - tlvCrcSize) k := by
  have hmono := boundary_mono I.bytes 11 (show k + 1 ≤ I.tlvs.length by omega)
  have hone := boundary_mono I.bytes 11 (show 0 ≤ 1 by omega)
  have hlast := I.boundary_last
  simp only [remaining, tlvCrcSize, boundary] at hmono hone hlast ⊢
  omega

/-- At the CRC field the counter is off by the length of the first field and the number of fields. -/
theorem remaining_last {t : Tlv} {ts : List Tlv} (h : I.tlvs = t :: ts) :
    remaining I.bytes 11 (I.len - tlvCrcSize) I.tlvs.length = t.length + I.tlvs.length - 4 := by
  have hone := I.boundary_eq (k := 1) (by simp only [h, List.length_cons]; omega)
  rw [h, List.take_succ_cons, List.take_zero, Tlv.encodeAll_cons, Tlv.encodeAll_nil, List.append_nil,
    Tlv.encode_length] at hone
  simp only [remaining, tlvCrcSize, I.boundary_past, hone]
  omega

/-- The first boundary at which the counter is used up is the CRC field iff the length of the first field
and the number of fields are at most 4 together. -/
theorem stops_at_crc_iff {m : Nat} (hgo : ∀ k < m, 0 < remaining I.bytes 11 (I.len - tlvCrcSize) k)
    (hstop : remaining I.bytes 11 (I.len - tlvCrcSize) m ≤ 0) :
    m = I.tlvs.length ↔ ∀ t ∈ I.tlvs.head?, t.length + I.tlvs.length ≤ 4 := by
  have hle : I.tlvs.length ≤ m := by
    by_contra hlt
    have := I.remaining_pos (k := m) (by omega)
    omega
  cases htlvs : I.tlvs with
  | nil =>
      have hzero : remaining I.bytes 11 (I.len - tlvCrcSize) 0 ≤ 0 := by
        rw [remaining_zero, I.len_eq, htlvs]
        decide
      refine ⟨fun _ t ht => (by cases ht), fun _ => ?_⟩
      by_contra hm
      have := hgo 0 (Nat.pos_of_ne_zero hm)
      omega
  | cons t ts =>
      have hlast := I.remaining_last htlvs
      rw [← htlvs]
      constructor
      · rintro rfl u hu
        rw [htlvs] at hu
        obtain rfl := Option.mem_some.mp hu
        omega
      · intro h
        have hcond := h t (by rw [htlvs]; rfl)
        by_contra hm
        have := hgo I.tlvs.length (by omega)
        omega

/-- The loop has been at the fields, each once and in order, and nowhere else, and has made of them
what the `switch` makes of each on its own. -/
def Decoded (parserType : EntityParser) (systemPartNumber : List Byte) : Prop :=
  ∃ st, foldTlvs E parserType I.tlvs ⟨EntityInfo.zero, systemPartNumber⟩ = .ok st ∧
    fillTlvEntityInfo E parserType I.bytes systemPartNumber = .ok ⟨st, Tlv.offsets 11 I.tlvs⟩

/-- The fields are decoded iff the length of the first and their number are at most 4 together, if
there are any, and no MAC count is too short. -/
theorem decoded_iff (parserType : EntityParser) (systemPartNumber : List Byte) :
    I.Decoded parserType systemPartNumber ↔
      (∀ t ∈ I.tlvs.head?, t.length + I.tlvs.length ≤ 4) ∧
        ∀ t ∈ I.tlvs, OnieTag.ofByte t.tag = .noMacs → 2 ≤ t.length := by
  obtain ⟨m, hgo, hstop, hres⟩ := fillLoop_spec E parserType I.bytes 11
    ⟨EntityInfo.zero, systemPartNumber⟩ (Nat.le_refl ((I.len : Int) - tlvCrcSize).toNat)
  rw [← I.fill_eq] at hres
  have hcount := I.stops_at_crc_iff hgo hstop
  constructor
  · rintro ⟨st, hfold, hfill⟩
    refine ⟨hcount.mp ?_, foldTlvs_mac_length hfold⟩
    rcases hres with ⟨-, st', -, hloop⟩ | ⟨-, hnone⟩
    · rw [hfill] at hloop
      have hvisited := congrArg (fun r => r.visited.length) (Except.ok.inj hloop)
      simpa only [Tlv.offsets_length, List.length_map, List.length_range] using hvisited.symm
    · exact absurd hfill (hnone _)
  · rintro ⟨hc, hmac⟩
    obtain rfl := hcount.mpr hc
    have hfold := foldTlvs_image (E := E) parserType I.header I.rest I.tlvs hmac
      ⟨EntityInfo.zero, systemPartNumber⟩
    rw [← I.bytes_eq, I.header_length, ← I.offsets_eq] at hfold
    obtain ⟨-, -, hcrc⟩ := I.crcField
    rcases hres with ⟨-, st', hst', hloop⟩ | ⟨⟨-, hout⟩, -⟩
    · rw [hst'] at hfold
      rw [I.offsets_eq] at hloop
      exact ⟨st', hfold.eq.symm, hloop⟩
    · rw [I.boundary_last] at hout
      omega

end TlvImage

def productNameImage : TlvImage platform 32 where
  bytes := fullImage.bytes ++ List.replicate 9 0
  len := 12
  large := by decide
  size := rfl
  total := rfl
  headerOk := rfl
  checksumOk := by decide +kernel
  header := bytesOf "TlvInfo" ++ [0, 1, 0, 12]
  tlvs := [⟨0x21, bytesOf "S404", by decide⟩]
  rest := [0xfe, 4, 0x32, 0xc5, 0x06, 0x1f] ++ List.replicate 9 0
  header_length := rfl
  bytes_eq := rfl
  len_eq := rfl

/-- The only field is at offset 11, but the CRC field at offset 17 is interpreted as well. -/
theorem fill_interprets_crc :
    productNameImage.tlvs.length = 1 ∧
      ((fillTlvEntityInfo platform .onieSysEeprom productNameImage.bytes []).map (·.visited) =
        .ok [11, 17]) ∧
      ¬ productNameImage.Decoded .onieSysEeprom [] := by
  have hvisited : (fillTlvEntityInfo platform .onieSysEeprom productNameImage.bytes []).map
      (·.visited) = .ok [11, 17] := by decide +kernel
  refine ⟨rfl, hvisited, ?_⟩
  rintro ⟨st, -, hfill⟩
  rw [hfill] at hvisited
  cases hvisited

end OpxSdi.Onie
