import OpxSdi.CommDev.Lemmas.Memory
import OpxSdi.CommDev.Lemmas.Receive

/-!
# The mailboxes of the communication device

A message that is read goes into the caller's buffer at the length that the peer announces, and the
announced length is looked at before it is known to have arrived. These are the answers of the device
for which neither does harm.
-/

namespace OpxSdi.CommDev

open Lib

variable {σ : Type} {R : Resource σ}

/-! ## Reading stays inside the buffer -/

/-- No byte of the payload arrives outside of the buffer, and the checksum has arrived if it is looked
at. -/
def PayloadFits (R : Resource σ) (mailbox size : BitVec 16) (header : List (Except Errno Byte))
    (sizeData : Nat) (s : σ) : Prop :=
  let payload := exchange R.bus (mailbox + BitVec.ofNat 16 mailboxHeaderSize) size.toNat s
  Fits sizeData 0 payload.received ∧
    (payload.rc = .ok → ∃ c₀ c₁, header[0]? = some (.ok c₀) ∧ header[1]? = some (.ok c₁))

/-- What the device answers to a read of the mailbox can be taken by a buffer of `sizeData` bytes: the size
arrives, and it is refused or the payload fits. -/
def MailboxFits (R : Resource σ) (mailbox : BitVec 16) (sizeData : Nat) (s : σ) : Prop :=
  let header := exchange R.bus mailbox mailboxHeaderSize s
  ∃ lo hi, header.received[2]? = some (.ok lo) ∧ header.received[3]? = some (.ok hi) ∧
    (bufferMaxSize < (hi ++ lo).toNat ∨
      PayloadFits R mailbox (hi ++ lo) header.received sizeData header.state)

theorem size_le_of_fits {offset : BitVec 16} {size sizeData : Nat} {s : σ} {B : SmBus σ}
    (hfits : Fits sizeData 0 (exchange B offset size s).received)
    (hrc : (exchange B offset size s).rc = .ok) : size ≤ sizeData := by
  cases size with
  | zero => exact Nat.zero_le _
  | succ n =>
      obtain ⟨b, hb⟩ := exchange_last_of_rc hrc
      have := hfits n b hb
      omega

theorem checkMailboxHeader_ok_iff {regData : Buffer} (hinit : regData.Init)
    {rs : List (Except Errno Byte)} {size : BitVec 16}
    (hsize : loadU16 (fill 0 rs (Buffer.indeterminate mailboxHeaderSize)) 2 = .ok size)
    (hle : size.toNat ≤ regData.length) :
    (∃ valid, checkMailboxHeader regData (fill 0 rs (Buffer.indeterminate mailboxHeaderSize)) = .ok valid) ↔
      ∃ c₀ c₁, rs[0]? = some (.ok c₀) ∧ rs[1]? = some (.ok c₁) := by
  obtain ⟨payload, hpayload⟩ := hinit.loads hle
  have hcheck : checkMailboxHeader regData (fill 0 rs (Buffer.indeterminate mailboxHeaderSize)) =
      (loadU16 (fill 0 rs (Buffer.indeterminate mailboxHeaderSize)) 0).map
        fun checksum => decide (~~~(mailboxSum payload size) + 1 = checksum) := by
    rw [checkMailboxHeader, hsize]
    simp only [bind, Except.bind, hpayload]
    cases loadU16 (fill 0 rs (Buffer.indeterminate mailboxHeaderSize)) 0 <;> rfl
  rw [hcheck]
  constructor
  · rintro ⟨valid, h⟩
    cases hload : loadU16 (fill 0 rs (Buffer.indeterminate mailboxHeaderSize)) 0 with
    | error e =>
        rw [hload] at h
        cases h
    | ok v =>
        obtain ⟨c₀, c₁, h₀, h₁, -⟩ := (loadU16_received_iff (by decide)).mp hload
        exact ⟨c₀, c₁, h₀, h₁⟩
  · rintro ⟨c₀, c₁, h₀, h₁⟩
    rw [(loadU16_received_iff (by decide)).mpr ⟨c₀, c₁, h₀, h₁, rfl⟩]
    exact ⟨_, rfl⟩

theorem readMailboxPayload_returns_iff (ht : R.type = .commDev) {mailbox size : BitVec 16} {regData : Buffer}
    {s : σ} (hinit : regData.Init) {rs : List (Except Errno Byte)}
    (hsize : loadU16 (fill 0 rs (Buffer.indeterminate mailboxHeaderSize)) 2 = .ok size) :
    (readMailboxPayload R mailbox (fill 0 rs (Buffer.indeterminate mailboxHeaderSize)) size
      regData).Returns s ↔ PayloadFits R mailbox size rs regData.length s := by
  rw [PayloadFits]
  generalize hp : exchange R.bus (mailbox + BitVec.ofNat 16 mailboxHeaderSize) size.toNat s = payload
  by_cases hfits : Fits regData.length 0 payload.received
  · have hread := commDevRead_ok ht (hp.symm ▸ hfits)
    rw [readMailboxPayload, Acts.returns_bind_iff hread, hp]
    simp only [hfits, true_and]
    split
    · rename_i hrc
      have hle : size.toNat ≤ regData.length := size_le_of_fits (hp.symm ▸ hfits) (hp.symm ▸ hrc)
      rw [Acts.returns_bind_of_returns fun valid s' => ?_, Acts.returns_check_iff,
        checkMailboxHeader_ok_iff (fill_init _ hinit) hsize (by rwa [fill_length])]
      · exact ⟨fun h _ => h, fun h => h hrc⟩
      · split
        · exact Acts.Returns.pure _ s'
        · exact Acts.Returns.pure _ s'
    · rename_i hrc
      exact ⟨fun _ h => absurd h hrc, fun _ => Acts.Returns.pure _ _⟩
  · refine ⟨fun h => ?_, fun h => absurd h.1 hfits⟩
    obtain ⟨b, s', hout⟩ := h
    obtain ⟨a, t, hread, -⟩ := Acts.out_bind_returns hout
    exact absurd (hp ▸ (commDevRead_returns_iff ht).mp ⟨a, t, hread⟩) hfits

theorem readMailboxAt_returns_iff (ht : R.type = .commDev) {mailbox : BitVec 16} {regData : Buffer} {s : σ}
    (hinit : regData.Init) :
    (readMailboxAt R mailbox regData).Returns s ↔ MailboxFits R mailbox regData.length s := by
  rw [readMailboxAt, Acts.returns_bind_iff (commDevRead_of_le ht (Buffer.le_length_indeterminate _))]
  simp only
  rw [Acts.returns_check_bind_iff, MailboxFits]
  constructor
  · rintro ⟨size, hsize, h⟩
    obtain ⟨lo, hi, hlo, hhi, rfl⟩ := (loadU16_received_iff (by decide)).mp hsize
    refine ⟨lo, hi, hlo, hhi, ?_⟩
    split at h
    · rename_i hlarge
      exact .inl hlarge
    · -- The last byte of the header has arrived, so the read counts as a success.
      rw [if_pos (exchange_rc_of_last hhi rfl)] at h
      exact .inr ((readMailboxPayload_returns_iff ht hinit hsize).mp h)
  · rintro ⟨lo, hi, hlo, hhi, h⟩
    have hsize := (loadU16_received_iff (n := mailboxHeaderSize) (by decide)).mpr ⟨lo, hi, hlo, hhi, rfl⟩
    refine ⟨hi ++ lo, hsize, ?_⟩
    split
    · exact Acts.Returns.pure _ _
    · rename_i hsmall
      rw [if_pos (exchange_rc_of_last hhi rfl)]
      exact (readMailboxPayload_returns_iff ht hinit hsize).mpr (h.resolve_left hsmall)

/-- A message is read inside the caller's buffer and with a header that has arrived iff the mailbox fits. -/
theorem commDevMsgRead_returns_iff (R : Resource σ) (sizeData : Nat) (s : σ) :
    (commDevMsgRead R sizeData).Returns s ↔
      R.type ≠ .commDev ∨ MailboxFits R southboundMailbox sizeData s := by
  rw [commDevMsgRead]
  by_cases ht : R.type = .commDev
  · rw [if_neg (not_not_intro ht), Acts.returns_bind_of_returns fun r s' => ?_, readMailbox,
      readMailboxAt_returns_iff ht (Buffer.init_zeroed sizeData), Buffer.length_zeroed]
    · exact ⟨.inr, fun h => h.resolve_left (not_not_intro ht)⟩
    · simp only
      split
      · exact (setControlBit_returns _ s').bind fun rc t _ => Acts.Returns.pure _ t
      · exact Acts.Returns.pure _ s'
  · rw [if_pos ht]
    exact ⟨fun _ => .inl ht, fun _ => Acts.Returns.pure _ s⟩

/-- A peer that announces a message of two bytes. -/
def twoByteMail : MemDev := ⟨fun a => if a = southboundMailbox + 2 then 2 else 0, 0⟩

theorem twoByteMail_overruns :
    ((commDevMsgRead memDevice 1).out twoByteMail).1 = .error (.store 1) := rfl

/-! ## What is written can be read -/

/-- What a text looks like in a mailbox. -/
def mailboxImage (text : List Byte) : List Byte := (addMailboxHeader text).bytes ++ text

def clearedRegs (m : ByteMem 16) : ByteMem 16 := setBit (m.storeAt statusRegister [0, 0]) flushMailboxBit

/-- Only the status and the control register are touched. -/
theorem clearedRegs_outside (m : ByteMem 16) {a : BitVec 16} (h : 4 ≤ (a - statusRegister).toNat) :
    clearedRegs m a = m a := by
  have hctl : 2 ≤ (a - mailboxControl).toNat := by
    simp only [statusRegister, mailboxControl] at *
    bv_omega
  rw [clearedRegs, setBit, ByteMem.storeAt_outside (by simpa using hctl),
    ByteMem.storeAt_outside (by simpa using Nat.le_trans (by decide) h)]

theorem writeMailbox_mem (text : List Byte) (d : MemDev) (hlen : text.length + mailboxHeaderSize ≤ 2 ^ 16) :
    ∃ next, (writeMailbox memDevice text).out d =
      (.ok .ok, ⟨(clearedRegs d.regs).storeAt northboundMailbox (mailboxImage text), next⟩) := by
  have hbus : memDevice.bus = memBus := rfl
  have hheader : (addMailboxHeader text).bytes.length = mailboxHeaderSize := rfl
  obtain ⟨next, hclear⟩ := statusCheckAndClear_mem d
  refine ⟨next, ?_⟩
  rw [writeMailbox, if_neg (not_not_intro (show memDevice.type = .commDev from rfl)), Acts.out_bind_ok hclear,
    hbus]
  simp only
  rw [Acts.out_bind_ok (by
    rw [commDevWriteBlock, Acts.out_act, smbusWriteI2cBlockData_mem _ (by rw [hheader]; decide)])]
  simp only [ne_eq, not_true_eq_false, if_false]
  rw [writeBlocks_mem _ (by omega) (by omega), BitVec.add_zero, List.drop_zero, ← hheader,
    ByteMem.storeAt_append _ _ _ _ (by omega)]
  rfl

theorem addMailboxHeader_size {s : List Byte} (hnul : 0 ∉ s) (hlen : s.length + 1 < 2 ^ 16) :
    (addMailboxHeader (s ++ [0])).size.toNat = (s ++ [0]).length := by
  simp only [addMailboxHeader, cstr_append_nul hnul, BitVec.toNat_ofNat, List.length_append,
    List.length_singleton]
  omega

theorem loadU16_bytes (header : MailboxHeader) (rest : Buffer) :
    loadU16 (header.bytes.map some ++ rest) 0 = .ok header.checksum ∧
      loadU16 (header.bytes.map some ++ rest) 2 = .ok header.size := by
  have hload : ∀ i (b : Byte), header.bytes[i]? = some b →
      Buffer.load (header.bytes.map some ++ rest) i = .ok b := fun i b h => by
    have hlt : i < header.bytes.length := (List.getElem?_eq_some_iff.mp h).1
    refine Buffer.load_some ?_
    rw [List.getElem?_append_left (by simpa using hlt), List.getElem?_map, h]
    rfl
  constructor
  · rw [loadU16, hload 0 _ rfl, hload 1 _ rfl]
    exact congrArg Except.ok (high_append_low header.checksum)
  · rw [loadU16, hload 2 _ rfl, hload 3 _ rfl]
    exact congrArg Except.ok (high_append_low header.size)

theorem checkMailboxHeader_image {text : List Byte} (hsize : (addMailboxHeader text).size.toNat = text.length)
    (rest header : Buffer) : checkMailboxHeader (text.map some ++ rest)
      ((addMailboxHeader text).bytes.map some ++ header) = .ok true := by
  obtain ⟨hchecksum, hload⟩ := loadU16_bytes (addMailboxHeader text) header
  have hsum : (addMailboxHeader text).checksum =
      ~~~(mailboxSum (text.take (addMailboxHeader text).size.toNat) (addMailboxHeader text).size) + 1 := rfl
  rw [checkMailboxHeader, hload]
  simp only [bind, Except.bind, hsize, Buffer.loads_append, hchecksum]
  rw [hsum, hsize, List.take_length, decide_eq_true rfl]

theorem readMailboxAt_image {mailbox : BitVec 16} {text : List Byte} {buf : Buffer} {d : MemDev}
    (hsize : (addMailboxHeader text).size.toNat = text.length) (hlen : text.length ≤ bufferMaxSize)
    (hbuf : text.length ≤ buf.length)
    (himage : d.regs.bytesAt mailbox (mailboxImage text).length = mailboxImage text) :
    ∃ next, (readMailboxAt memDevice mailbox buf).out d =
      (.ok (.ok, text.map some ++ buf.drop text.length), ⟨d.regs, next⟩) := by
  have hheader : (addMailboxHeader text).bytes.length = mailboxHeaderSize := rfl
  rw [mailboxImage, List.length_append, ByteMem.bytesAt_append] at himage
  obtain ⟨hbytes, htext⟩ := List.append_inj himage (ByteMem.bytesAt_length ..)
  rw [hheader] at hbytes htext
  obtain ⟨-, hload⟩ := loadU16_bytes (addMailboxHeader text)
    ((Buffer.indeterminate mailboxHeaderSize).drop mailboxHeaderSize)
  rw [readMailboxAt, Acts.out_bind_ok (commDevRead_mem mailbox d (Buffer.le_length_indeterminate _)),
    hbytes]
  simp only
  rw [Acts.out_bind_ok (by rw [Acts.out_check, hload]), if_neg (by omega), if_pos trivial,
    readMailboxPayload, hsize, Acts.out_bind_ok (commDevRead_mem _ _ hbuf)]
  simp only [htext, if_true]
  rw [Acts.out_bind_ok (by rw [Acts.out_check, checkMailboxHeader_image hsize])]
  exact ⟨_, rfl⟩

/-- A text of up to 4095 bytes is framed in the northbound mailbox, is read back from there, and changes
nothing but the mailbox and the status and control registers. -/
theorem mailbox_round_trip {s : List Byte} (hnul : 0 ∉ s) (hlen : s.length + 1 ≤ 4096) (d : MemDev)
    (buf : Buffer) (hbuf : s.length + 1 ≤ buf.length) :
    ∃ d', (writeMailbox memDevice (s ++ [0])).out d = (.ok .ok, d') ∧
      (∃ header : List Byte, header.length = 4 ∧
        d'.regs.bytesAt northboundMailbox (4 + (s.length + 1)) = header ++ (s ++ [0])) ∧
      ((readMailboxAt memDevice northboundMailbox buf).out d').1 =
        .ok (.ok, (s ++ [0]).map some ++ buf.drop (s.length + 1)) ∧
      ∀ a, bufferMaxSize ≤ (a - northboundMailbox).toNat → 4 ≤ (a - statusRegister).toNat →
        d'.regs a = d.regs a := by
  have htext : (s ++ [0]).length = s.length + 1 := List.length_append
  have hsize := addMailboxHeader_size hnul (by omega)
  have himage : (mailboxImage (s ++ [0])).length = 4 + (s.length + 1) := by
    rw [mailboxImage, List.length_append, htext]
    rfl
  obtain ⟨next, hwrite⟩ := writeMailbox_mem (s ++ [0]) d (by rw [htext]; simp only [mailboxHeaderSize]; omega)
  have hbytes := ByteMem.bytesAt_storeAt (clearedRegs d.regs) northboundMailbox
    (mailboxImage (s ++ [0])) (by omega)
  have hfits : (s ++ [0]).length ≤ buf.length := by omega
  obtain ⟨_, hread⟩ := readMailboxAt_image
    (d := ⟨(clearedRegs d.regs).storeAt northboundMailbox (mailboxImage (s ++ [0])), next⟩) hsize
    (by rw [htext]; simp only [bufferMaxSize]; omega) hfits hbytes
  refine ⟨_, hwrite, ⟨(addMailboxHeader (s ++ [0])).bytes, rfl, ?_⟩, ?_, fun a hout hctl => ?_⟩
  · rw [← himage]
    exact hbytes
  · rw [hread, htext]
  · simp only [bufferMaxSize] at hout
    simp only
    rw [ByteMem.storeAt_outside (by omega), clearedRegs_outside d.regs hctl]

theorem mailbox_round_trip_short :
    ∃ d', (writeMailbox memDevice [0x4f, 0x4b, 0]).out ⟨fun _ => 0, 0⟩ = (.ok .ok, d') ∧
      (∃ header : List Byte, header.length = 4 ∧
        d'.regs.bytesAt northboundMailbox 7 = header ++ [0x4f, 0x4b, 0]) ∧
      ((readMailboxAt memDevice northboundMailbox (Buffer.zeroed 3)).out d').1 =
        .ok (.ok, [some 0x4f, some 0x4b, some 0]) ∧
      ∀ a, bufferMaxSize ≤ (a - northboundMailbox).toNat → 4 ≤ (a - statusRegister).toNat → d'.regs a = 0 :=
  mailbox_round_trip (s := [0x4f, 0x4b]) (by decide) (by decide) ⟨fun _ => 0, 0⟩ (Buffer.zeroed 3) (by decide)

/-! ## Which errors a read reports

The loop of `sdi_comm_dev_recv_byte` keeps the return code of its last reception only.
-/

section

variable {σ : Type} {B : SmBus σ}

/-- What the device answers to `n` receptions after it has taken the offset. -/
def answers (B : SmBus σ) (offset : BitVec 16) (n : Nat) (s : σ) : List (Except Errno Byte) :=
  (receive B n (B.writeByte (lowByte offset) (highByte offset) s).2).1

def addressRc (B : SmBus σ) (offset : BitVec 16) (s : σ) : TStdError :=
  (B.writeByte (lowByte offset) (highByte offset) s).1

/-- If the read returns `STD_ERR_OK`, the device has taken the offset and has given each of the `n` bytes. -/
def ReportsErrors (x : DevM σ (TStdError × Buffer)) (B : SmBus σ) (offset : BitVec 16) (n : Nat)
    (s : σ) : Prop :=
  ∀ buf s', x.out s = (.ok (.ok, buf), s') →
    addressRc B offset s = .ok ∧ ∃ bs : List Byte, answers B offset n s = bs.map .ok ∧
      buf.take n = bs.map some

/-- The device does not take the offset, or it gives every byte, or not the last one. -/
def LastFailsToo (B : SmBus σ) (offset : BitVec 16) (n : Nat) (s : σ) : Prop :=
  addressRc B offset s ≠ .ok ∨ (∀ r ∈ answers B offset n s, ∃ b, r = .ok b) ∨
    ∃ e, (answers B offset n s).getLast? = some (.error e)

theorem all_ok_iff {rs : List (Except Errno Byte)} :
    (∀ r ∈ rs, ∃ b, r = .ok b) ↔ ∃ bs : List Byte, rs = bs.map .ok := by
  induction rs with
  | nil => exact iff_of_true (fun _ h => nomatch h) ⟨[], rfl⟩
  | cons r rs ih =>
      rw [List.forall_mem_cons, ih]
      constructor
      · rintro ⟨⟨b, rfl⟩, bs, rfl⟩
        exact ⟨b :: bs, rfl⟩
      · rintro ⟨bs, hbs⟩
        cases bs with
        | nil => cases hbs
        | cons b bs =>
            obtain ⟨rfl, rfl⟩ := List.cons.inj hbs
            exact ⟨⟨b, rfl⟩, bs, rfl⟩

theorem lastRc_ok_iff {rs : List (Except Errno Byte)} :
    lastRc .ok rs = .ok ↔ ∀ e, rs.getLast? ≠ some (.error e) := by
  cases hlast : rs.getLast? with
  | none =>
      obtain rfl := List.getLast?_eq_none_iff.mp hlast
      exact iff_of_true rfl fun _ h => nomatch h
  | some r =>
      cases r with
      | ok b => exact iff_of_true (lastRc_of_last_ok hlast) fun _ h => nomatch Option.some.inj h
      | error e =>
          refine iff_of_false (fun hrc => ?_) fun h => h e rfl
          have hne : rs ≠ [] := fun hnil => by rw [hnil] at hlast; cases hlast
          obtain ⟨b, hb⟩ := lastRc_ok hrc hne
          rw [← List.getLast?_eq_getElem?, hlast] at hb
          cases hb

theorem exchange_of_ok {offset : BitVec 16} {n : Nat} {s : σ} (h : addressRc B offset s = .ok) :
    (exchange B offset n s).rc = lastRc .ok (answers B offset n s) ∧
      (exchange B offset n s).received = answers B offset n s := by
  unfold addressRc at h
  simp only [exchange, h, answers, ↓reduceIte, and_self]

theorem exchange_of_error {offset : BitVec 16} {n : Nat} {s : σ} (h : addressRc B offset s ≠ .ok) :
    (exchange B offset n s).rc = addressRc B offset s := by
  unfold addressRc at h ⊢
  simp only [exchange, if_neg h]

theorem recvByte_reportsErrors_iff (offset : BitVec 16) {n : Nat} {buf : Buffer} (s : σ)
    (h : n ≤ buf.length) :
    ReportsErrors (commDevRecvByte B offset n buf) B offset n s ↔ LastFailsToo B offset n s := by
  have hout : (commDevRecvByte B offset n buf).out s = _ := commDevRecvByte_ok (fits_of_le h)
  by_cases haddr : addressRc B offset s = .ok
  · obtain ⟨hrc, hreceived⟩ := exchange_of_ok (n := n) haddr
    rw [hrc, hreceived] at hout
    constructor
    · intro hrep
      by_cases hlast : ∃ e, (answers B offset n s).getLast? = some (.error e)
      · exact .inr (.inr hlast)
      · have hok := lastRc_ok_iff.mpr (not_exists.mp hlast)
        rw [hok] at hout
        obtain ⟨-, bs, hbs, -⟩ := hrep _ _ hout
        exact .inr (.inl (all_ok_iff.mpr ⟨bs, hbs⟩))
    · rintro hcond buf' s' hout'
      obtain ⟨hpair, -⟩ := Prod.mk.inj (hout.symm.trans hout')
      obtain ⟨hok, rfl⟩ := Prod.mk.inj (Except.ok.inj hpair)
      rcases hcond with hne | hall | ⟨e, he⟩
      · exact absurd haddr hne
      · obtain ⟨bs, hbs⟩ := all_ok_iff.mp hall
        have hlen : bs.length = n := by
          have hreceive : (answers B offset n s).length = n := receive_length n _
          rwa [hbs, List.length_map] at hreceive
        refine ⟨haddr, bs, hbs, ?_⟩
        rw [hbs, fill_ok (hlen ▸ h), List.take_left' (by rw [List.length_map, hlen])]
      · exact absurd he (lastRc_ok_iff.mp hok e)
  · refine iff_of_true (fun buf' s' hout' => ?_) (.inl haddr)
    obtain ⟨hpair, -⟩ := Prod.mk.inj (hout.symm.trans hout')
    exact absurd ((exchange_of_error haddr).symm.trans (Prod.mk.inj (Except.ok.inj hpair)).1) haddr

/-- A read into a buffer of `n` bytes reports every error iff none of its receptions fails, or the last one
does; or the device does not take the offset. -/
theorem read_reportsErrors_iff (R : Resource σ) (offset : BitVec 16) {n : Nat} {buf : Buffer} (s : σ)
    (h : n ≤ buf.length) :
    (ReportsErrors (commDevRecvByte R.bus offset n buf) R.bus offset n s ↔ LastFailsToo R.bus offset n s) ∧
      (ReportsErrors (commDevRead R offset n buf) R.bus offset n s ↔
        R.type ≠ .commDev ∨ LastFailsToo R.bus offset n s) := by
  refine ⟨recvByte_reportsErrors_iff offset s h, ?_⟩
  by_cases ht : R.type = .commDev
  · rw [commDevRead, if_neg (not_not_intro ht), recvByte_reportsErrors_iff offset s h]
    exact ⟨.inr, fun hcond => hcond.resolve_left fun hne => hne ht⟩
  · refine iff_of_true (fun buf' s' hout => ?_) (.inl ht)
    rw [commDevRead, if_pos ht, Acts.out_pure] at hout
    cases hout

/-- A device that takes every offset and answers receptions with what it is given. -/
def scriptedBus : SmBus (List (Except Errno Byte)) where
  writeByte _ _ script := (.ok, script)
  recvByte script := (script.headD (.error .eio), script.tail)
  writeBlock _ _ script := (.ok, script)

/-- The first of two receptions fails. -/
theorem recvByte_loses_error :
    ((commDevRecvByte scriptedBus 0 2 (Buffer.zeroed 2)).out [.error .eio, .ok 7]).1 =
        .ok (.ok, [some 0, some 7]) ∧
      ¬ReportsErrors (commDevRecvByte scriptedBus 0 2 (Buffer.zeroed 2)) scriptedBus 0 2
        [.error .eio, .ok 7] := by
  refine ⟨rfl, fun h => ?_⟩
  obtain ⟨-, bs, hbs, -⟩ := h _ _ rfl
  cases bs with
  | nil => cases hbs
  | cons b bs => cases hbs

theorem read_reports_errors_two :
    ReportsErrors (commDevRead ⟨.commDev, scriptedBus⟩ 0 2 (Buffer.zeroed 2)) scriptedBus 0 2
      [.ok 5, .error .eio] :=
  (read_reportsErrors_iff ⟨.commDev, scriptedBus⟩ 0 [.ok 5, .error .eio] (Buffer.le_length_zeroed 2)).2.mpr
    (.inr (.inr (.inr ⟨.eio, rfl⟩)))

end

end OpxSdi.CommDev
