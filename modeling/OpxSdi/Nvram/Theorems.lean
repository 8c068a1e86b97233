import OpxSdi.Nvram.Lemmas.Effect

/-!
# Accesses stay in their window

An access obeys its laws iff the 32-bit sum of the check does not wrap into the window, the EEPROM has an
address for each byte, and the file that the VM creates for the window reaches to the end of the range.
-/

namespace OpxSdi.Nvram

open Lib Device

namespace Call

variable {c : Call}

theorem check_iff : c.res.size < c.ofs + c.len ↔
    c.res.size.toNat < (c.ofs.toNat + c.len.toNat) % 2 ^ 32 := by
  rw [BitVec.lt_def, BitVec.toNat_add]

theorem check_of_not_fits (hsum : c.SumHolds) (h : ¬ c.Fits) : c.res.size < c.ofs + c.len := by
  rw [check_iff]
  unfold Fits at h
  unfold SumHolds at hsum
  omega

theorem not_check_of_fits (h : c.Fits) : ¬ c.res.size < c.ofs + c.len := by
  have hsize := c.res.size.isLt
  rw [check_iff]
  unfold Fits at h
  omega

end Call

/-! ## The back ends -/

variable {io : Io} {op : Op} {ofs len : BitVec 32} {row : NvramRow} {nvramData : NvramDevice}

theorem dbFieldGet_ends {α : Type} (value : α) :
    Ends (dbFieldGet value) io fun r io' => io' = io ∧ ∀ a, r = .ok a → a = value :=
  Ends.access (fun _ => ⟨rfl, fun _ h => nomatch h⟩) ⟨rfl, fun _ h => (Except.ok.inj h).symm⟩

theorem sdiNvramAccess_refused (h : row.dataSize < ofs + len) :
    Ends (sdiNvramAccess op row ofs len) io fun r io' => (∃ e, r = .error e) ∧ io' = io := by
  refine Ends.bind (dbFieldGet_ends _) (fun e _ h => ⟨⟨e, rfl⟩, h.1⟩) ?_
  rintro _ _ ⟨rfl, hvalue⟩
  rw [hvalue _ rfl, if_pos h]
  exact Ends.fail ⟨⟨_, rfl⟩, rfl⟩

/-- The VM back end does what its transfer does, or fails before it. -/
theorem sdiNvramAccess_ends {Q : Except Errno Unit → Io → Prop} (hcheck : ¬ row.dataSize < ofs + len)
    (herr : ∀ e, Q (.error e) io) (hmap : ∀ e e' io', Q (.error e) io' → Q (.error e') io')
    (hx : Ends (seekTransfer op (nvramFindOrCreateNvramFile row.dataFile row.dataSize) row.dataFile
      (position row.offset ofs) len) io Q) :
    Ends (sdiNvramAccess op row ofs len) io Q := by
  refine Ends.bind (dbFieldGet_ends _) (fun e _ h => h.1 ▸ herr e) ?_
  rintro _ _ ⟨rfl, hvalue⟩
  rw [hvalue _ rfl, if_neg hcheck]
  refine Ends.bind (dbFieldGet_ends _) (fun e _ h => h.1 ▸ herr e) ?_
  rintro _ _ ⟨rfl, hvalue⟩
  rw [hvalue _ rfl]
  refine Ends.bind (dbFieldGet_ends _) (fun e _ h => h.1 ▸ herr e) ?_
  rintro _ io' ⟨rfl, hvalue⟩
  rw [hvalue _ rfl]
  refine Ends.bind (Q := fun r io'' => ∃ s, r = .ok s ∧ Q s io'')
    (Ends.attempt (hx.mono fun r _ h => ⟨r, rfl, h⟩)) (fun _ _ ⟨_, h, _⟩ => nomatch h) ?_
  rintro s io'' ⟨_, hs, hQ⟩
  cases hs
  cases s with
  | ok _ => exact Ends.pure hQ
  | error e => exact Ends.fail (hmap e _ _ hQ)

theorem sdiNvramAccess_works (hcheck : ¬ row.dataSize < ofs + len)
    (hx : Works (seekTransfer op (nvramFindOrCreateNvramFile row.dataFile row.dataSize) row.dataFile
      (position row.offset ofs) len) io fun _ _ => True) :
    Works (sdiNvramAccess op row ofs len) io fun _ _ => True := by
  have hget : ∀ {α : Type} (value : α), Works (dbFieldGet value) io fun a io' => a = value ∧ io' = io :=
    fun value => Works.access ⟨rfl, rfl⟩
  refine Works.bind (hget _) ?_
  rintro _ _ ⟨rfl, rfl⟩
  rw [if_neg hcheck]
  refine Works.bind (hget _) ?_
  rintro _ _ ⟨rfl, rfl⟩
  refine Works.bind (hget _) ?_
  rintro _ _ ⟨rfl, rfl⟩
  refine Works.bind (Q := fun r _ => r = .ok ()) (Works.attempt (hx.mono fun _ _ _ => rfl)) ?_
  rintro _ _ rfl
  exact Works.pure trivial

theorem nvramAccess_transfers (hcheck : ¬ nvramData.size < ofs + len)
    (haddr : ∀ chip, nvramData.dev = .eeprom chip → len ≠ 0 → 0 ≤ nvramData.ofs.toInt + ofs.toNat ∧
      nvramData.ofs.toInt + ofs.toNat + len.toNat ≤ 2 ^ chip.offsetBits) :
    Ends (nvramAccess op nvramData ofs len) io
      (Transfers op nvramData.dev (nvramData.ofs.toInt + ofs.toNat) len.toNat io) := by
  rw [nvramAccess, if_neg hcheck]
  obtain ⟨dev, base, size⟩ := nvramData
  cases dev with
  | file path => exact seekTransfer_ends op path base ofs len (fileOpen_ends path)
  | eeprom chip =>
      exact multiByte_ends op fun hlen => haddr chip rfl fun hzero => hlen (by rw [hzero]; rfl)

theorem sdiNvramAccess_transfers (hcheck : ¬ row.dataSize < ofs + len) :
    Ends (sdiNvramAccess op row ofs len) io
      (Transfers op (.file row.dataFile) (row.offset.toInt + ofs.toNat) len.toNat io) :=
  sdiNvramAccess_ends hcheck (fun _ => Transfers.failed (Same.refl io))
    (fun _ _ _ ⟨n, hn, hmoved, _⟩ => ⟨n, hn, hmoved, fun h => Bool.noConfusion h⟩)
    (seekTransfer_ends op row.dataFile row.offset ofs len (findOrCreate_ends row.dataFile row.dataSize))

namespace Call

variable {c : Call} {fd : Nat} {d : State}

/-! ## Calls that are lawful -/

theorem exec_refused (h : c.res.size < c.ofs + c.len) :
    Ends c.exec io fun r io' => (∃ e, r = .error e) ∧ io' = io := by
  obtain ⟨op, res, ofs, len⟩ := c
  cases res with
  | driver nvramData =>
      refine (?_ : Ends (nvramAccess op nvramData ofs len) io _)
      rw [nvramAccess, if_pos (by exact h)]
      exact Ends.fail ⟨⟨_, rfl⟩, rfl⟩
  | vm row => exact sdiNvramAccess_refused h

theorem exec_transfers (hfits : c.Fits) (haddr : c.AddressHolds) :
    Ends c.exec io (Transfers c.op c.res.dev c.start c.len.toNat io) := by
  have hcheck := not_check_of_fits hfits
  obtain ⟨op, res, ofs, len⟩ := c
  cases res with
  | driver nvramData => exact nvramAccess_transfers hcheck fun chip hdev hlen => haddr chip hdev hfits hlen
  | vm row => exact sdiNvramAccess_transfers hcheck

theorem InRange.inWindow {i : Int} (hfits : c.Fits) (h : c.InRange i) : c.InWindow i := by
  unfold Fits at hfits
  unfold InRange start at h
  unfold InWindow
  omega

theorem Moved.outside {op : Op} {dev : NvramDev} {start : Int} {n : Nat} {io' : Io}
    (h : Moved op dev start n io io') {dev' : NvramDev} {i : Int}
    (hi : ¬ (dev' = dev ∧ start ≤ i ∧ i < start + n)) : io'.byteAt dev' i = io.byteAt dev' i := by
  cases op with
  | read => exact h.byteAt dev' i
  | write => exact h.outside dev' i hi

/-- A position in the range of a call that fits is a file offset. -/
theorem position_start {base : BitVec 64} {ofs : BitVec 32} (h0 : 0 ≤ base.toInt + ofs.toNat)
    (h : base.toInt + ofs.toNat < 2 ^ 63) : (position base ofs).toInt = base.toInt + ofs.toNat := by
  have hofs := ofs.isLt
  have hbase := base.isLt
  simp only [position, BitVec.toInt_eq_toNat_cond, BitVec.toNat_add, BitVec.toNat_setWidth] at h0 h ⊢
  omega

theorem fresh_works (hfits : (Call.mk .read (.vm row) ofs len).Fits)
    (hcreated : (Call.mk .read (.vm row) ofs len).CreatedHolds io.fd)
    (hfile : io.files row.dataFile = none ∨ io.files row.dataFile = some (.truncate row.dataSize.toNat .empty)) :
    Works (sdiNvramAccess .read row ofs len) io fun _ _ => True := by
  obtain ⟨h0, h63, hlen⟩ := hcreated row rfl rfl hfits
  change 0 ≤ row.offset.toInt + ofs.toNat at h0
  change row.offset.toInt + ofs.toNat < 2 ^ 63 at h63
  change len ≠ 0 → 0 < io.fd ∧ len.toNat ≤ maxRwCount ∧
    row.offset.toInt + ofs.toNat + len.toNat ≤ row.dataSize.toNat at hlen
  have hpos : 0 ≤ (position row.offset ofs).toInt := position_start h0 h63 ▸ h0
  refine sdiNvramAccess_works (not_check_of_fits hfits) (seekRead_works hpos ?_ ?_)
  · by_cases hzero : len = 0
    · rw [hzero]
      exact Nat.zero_le _
    · exact (hlen hzero).2.1
  · refine (findOrCreate_works hfile).mono fun _ _ ⟨f, hf, hsize⟩ => ⟨f, hf, fun hzero => ?_⟩
    obtain ⟨hfd, -, hend⟩ := hlen hzero
    have hstart := position_toInt hpos
    rw [hsize hfd]
    omega

theorem lawful_of_holds (hsum : c.SumHolds) (haddr : c.AddressHolds) (hcreated : c.CreatedHolds fd) :
    c.Lawful fd := by
  have hfits : ∀ d d' : State, c.exec.out d = (.ok (), d') → c.Fits := fun d d' hout => by
    by_contra h
    obtain ⟨⟨e, he⟩, -⟩ := (exec_refused (check_of_not_fits hsum h)).of_out (r := .ok ()) hout
    cases he
  have hmoved : ∀ d d' : State, c.exec.out d = (.ok (), d') →
      Moved c.op c.res.dev c.start c.len.toNat d.hw d'.hw := fun d d' hout => by
    obtain ⟨n, -, hmoved, hn⟩ := (exec_transfers (hfits d d' hout) haddr).of_out (r := .ok ()) hout
    exact hn rfl ▸ hmoved
  refine ⟨fun h d _ => ?_, fun hop d d' _ hout dev i => ?_, fun hop d d' _ hout => ?_, fun d _ dev i hi => ?_, ?_⟩
  · obtain ⟨r, d', hout, ⟨e, rfl⟩, hhw⟩ := exec_refused (check_of_not_fits hsum h) d rfl
    exact ⟨e, d', hout, hhw⟩
  · have hstored := hmoved d d' hout
    rw [hop] at hstored
    split
    · rename_i h
      obtain ⟨rfl, hlow, hhigh⟩ := h
      have hin := hstored.inside (i - c.start).toNat (by omega)
      rwa [show c.start + ((i - c.start).toNat : Int) = i by omega] at hin
    · rename_i h
      exact hstored.outside dev i h
  · have hloaded := hmoved d d' hout
    rw [hop] at hloaded
    exact ⟨hloaded.byteAt, hloaded.outside, hloaded.inside⟩
  · by_cases h : c.Fits
    · obtain ⟨r, d', hout, n, hn, hmoved, -⟩ := exec_transfers h haddr d rfl
      rw [hout]
      exact Moved.outside hmoved fun ⟨hdev, hlow, hhigh⟩ =>
        hi ⟨hdev, InRange.inWindow h ⟨hlow, by omega⟩⟩
    · obtain ⟨r, d', hout, -, hhw⟩ := exec_refused (check_of_not_fits hsum h) d rfl
      rw [hout, hhw]
  · rintro hop hfit row hres d hfd hquiet hfile
    obtain ⟨op, res, ofs, len⟩ := c
    cases hop
    cases hres
    obtain ⟨_, d', hout, -, -⟩ := fresh_works hfit (hfd ▸ hcreated) hfile d hquiet rfl
    exact congrArg Prod.fst hout

/-! ## Calls that are not lawful -/

def atRest (fd : Nat) : State :=
  ⟨fun _ => false, fun _ => none, 0, ⟨fun _ => none, fun _ _ => 0, fun _ => 0, fd, 0⟩⟩

/-- Operation number `n` fails. -/
def failsAt (fd n : Nat) : State :=
  { atRest fd with fault := fun t => if t = n then some .eio else none }

/-- A call that passes the check touches its device, even if the first operation on it fails. -/
theorem exec_touches (fd : Nat) (hcheck : ¬ c.res.size < c.ofs + c.len) (hlen : c.len ≠ 0) :
    ∃ d : State, d.hw.fd = fd ∧ (c.exec.out d).2.hw ≠ d.hw := by
  have hne : ∀ {io io' : Io}, io'.touched = io.touched + 1 → io' ≠ io := fun h heq => by
    rw [heq] at h
    omega
  obtain ⟨op, res, ofs, len⟩ := c
  cases res with
  | driver nvramData =>
      obtain ⟨dev, base, size⟩ := nvramData
      have hexec : exec ⟨op, .driver ⟨dev, base, size⟩, ofs, len⟩ = _ := if_neg hcheck
      cases dev with
      | file path =>
          refine ⟨failsAt fd 0, rfl, hne ?_⟩
          rw [hexec]
          rfl
      | eeprom chip =>
          refine ⟨failsAt fd 1, rfl, hne ?_⟩
          obtain ⟨n, hn⟩ : ∃ n, len.toNat = n + 1 :=
            Nat.exists_eq_succ_of_ne_zero fun h => hlen (BitVec.eq_of_toNat_eq h)
          rw [hexec]
          dsimp only
          rw [hn, multiByte_eq]
          cases op <;> rfl
  | vm row =>
      refine ⟨failsAt fd 3, rfl, hne ?_⟩
      change ((sdiNvramAccess op row ofs len).out (failsAt fd 3)).2.hw.touched = _
      have hcheck : ¬ row.dataSize < ofs + len := hcheck
      have hsize : (dbFieldGet row.dataSize).out (failsAt fd 3) =
          (.ok row.dataSize, { failsAt fd 3 with time := 1 }) := rfl
      rw [sdiNvramAccess, Acts.out_bind_ok hsize, if_neg hcheck]
      rfl

theorem sum_of_lawful (h : c.Lawful fd) : c.SumHolds := by
  by_contra hsum
  unfold SumHolds at hsum
  have hsize := c.res.size.isLt
  have hofs := c.ofs.isLt
  have hnot : ¬ c.Fits := by
    unfold Fits
    omega
  have hcheck : ¬ c.res.size < c.ofs + c.len := by
    rw [check_iff]
    omega
  have hlen : c.len ≠ 0 := by
    intro hzero
    rw [hzero, show (0 : BitVec 32).toNat = 0 from rfl] at hsum
    omega
  obtain ⟨d, hfd, hne⟩ := exec_touches fd hcheck hlen
  obtain ⟨e, d', hout, hhw⟩ := h.refused hnot d hfd
  rw [hout] at hne
  exact hne hhw

theorem multiByte_works (op : Op) (chip : Chip) (cmd : BitVec 32) (byteCount : Nat) :
    Works (op.multiByte chip cmd byteCount) io fun _ _ => True := by
  have hloop : ∀ left count io, Works (multiByteLoop (op.execute chip) cmd count left) io fun _ _ => True := by
    intro left
    induction left with
    | zero => exact fun count io => Works.pure trivial
    | succ left ih =>
        intro count io
        refine Works.bind (Q := fun _ _ => True) ?_ fun _ io' _ => ih (count + 1) io'
        cases op <;> exact syscall_works trivial
  rw [multiByte_eq]
  exact Works.bind (Q := fun _ _ => True) (Works.access trivial) fun _ io' _ => hloop byteCount 0 io'

/-- An EEPROM takes every command, so a byte without an address is lost. -/
theorem address_of_lawful (h : c.Lawful fd) : c.AddressHolds := by
  intro chip hdev hfits hlen
  have hcheck := not_check_of_fits hfits
  obtain ⟨d', hout⟩ : ∃ d', c.exec.out (atRest fd) = (.ok (), d') := by
    obtain ⟨op, res, ofs, len⟩ := c
    cases res with
    | vm row => cases hdev
    | driver nvramData =>
        obtain ⟨dev, base, size⟩ := nvramData
        cases hdev
        have hexec : exec ⟨op, .driver ⟨.eeprom chip, base, size⟩, ofs, len⟩ = _ := if_neg hcheck
        rw [hexec]
        obtain ⟨_, d', hout, -⟩ := multiByte_works op chip ((position base ofs).setWidth 32) len.toNat
          (atRest fd) (fun _ _ => rfl) rfl
        exact ⟨d', hout⟩
  by_contra hrange
  have hpos : 0 < c.len.toNat := Nat.pos_of_ne_zero fun h => hlen (BitVec.eq_of_toNat_eq h)
  -- A byte of the range without an address.
  obtain ⟨k, hk, hnone⟩ : ∃ k < c.len.toNat, ∀ io : Io, io.byteAt c.res.dev (c.start + k) = none := by
    rw [hdev]
    by_cases h0 : 0 ≤ c.start
    · exact ⟨c.len.toNat - 1, by omega, fun io => if_neg (by omega)⟩
    · exact ⟨0, hpos, fun io => if_neg (by omega)⟩
  cases hop : c.op with
  | read =>
      have hread := (h.read hop (atRest fd) d' rfl hout).2.2 k hk
      rw [hnone] at hread
      cases hread
  | write =>
      have hwritten := h.written hop (atRest fd) d' rfl hout c.res.dev (c.start + k)
      rw [hnone, if_pos ⟨rfl, by unfold InRange; omega⟩] at hwritten
      cases hwritten

theorem created_of_lawful (h : c.Lawful fd) : c.CreatedHolds fd := by
  rintro row hres hop hfits
  obtain ⟨op, res, ofs, len⟩ := c
  cases hop
  cases hres
  have hcovers : Covers (createdSize fd row.dataSize) (position row.offset ofs) len := by
    obtain ⟨r, d', hout, hok⟩ := sdiNvramAccess_ends (not_check_of_fits hfits)
      (fun _ h => nomatch h) (fun _ _ _ _ h => nomatch h) (ok_seekRead (ok_findOrCreate rfl)) (atRest fd) rfl
    have hfresh := h.fresh rfl hfits row rfl (atRest fd) rfl (fun _ _ => rfl) (.inl rfl)
    rw [show exec ⟨.read, .vm row, ofs, len⟩ = sdiNvramAccess .read row ofs len from rfl, hout] at hfresh
    cases r with
    | ok _ => exact hok rfl
    | error e => cases hfresh
  obtain ⟨hpos, hmax, hend⟩ := hcovers
  have hstart := position_toInt hpos
  have hsize : (position row.offset ofs).toNat < 2 ^ 63 := by
    have hlt := (position row.offset ofs).isLt
    rw [BitVec.toInt_eq_toNat_cond] at hpos
    omega
  change 0 ≤ row.offset.toInt + ofs.toNat ∧ row.offset.toInt + ofs.toNat < 2 ^ 63 ∧ (len ≠ 0 → 0 < fd ∧
    len.toNat ≤ maxRwCount ∧ row.offset.toInt + ofs.toNat + len.toNat ≤ row.dataSize.toNat)
  refine ⟨by omega, by omega, fun hlen => ?_⟩
  have hlen' : len.toNat ≠ 0 := fun h => hlen (BitVec.eq_of_toNat_eq h)
  have hcreated := hend hlen
  unfold createdSize at hcreated
  split at hcreated
  · rename_i hfd
    exact ⟨hfd, hmax, by omega⟩
  · omega

/-- A call obeys its laws iff the check, the addresses and the created file hold. -/
theorem lawful_iff (c : Call) (fd : Nat) :
    c.Lawful fd ↔ c.SumHolds ∧ c.AddressHolds ∧ c.CreatedHolds fd :=
  ⟨fun h => ⟨sum_of_lawful h, address_of_lawful h, created_of_lawful h⟩,
    fun ⟨hsum, haddr, hcreated⟩ => lawful_of_holds hsum haddr hcreated⟩

/-- A read of one byte at the last offset passes the check of every window. -/
theorem not_lawful_wrapped :
    ¬ Lawful ⟨.read, .driver ⟨.file "nvram", 0, 256⟩, 0xffffffff, 1⟩ 3 := fun h => by
  obtain ⟨e, d', hout, hhw⟩ := h.refused (by decide) (atRest 3) rfl
  have htouched : ((exec ⟨.read, .driver ⟨.file "nvram", 0, 256⟩, 0xffffffff, 1⟩).out (atRest 3)).2.hw.touched =
      1 := rfl
  rw [hout, hhw] at htouched
  cases htouched

end Call

end OpxSdi.Nvram
