import OpxSdi.Nvram.Access

/-!
# What an access does to the memory

Each system call and each transaction has one lemma that says what it leaves, whatever fails. They add up to
the effect of a transfer.
-/

namespace OpxSdi.Nvram

open Lib Device

section

variable {α : Type} {io io' io'' : Io} {dev : NvramDev} {start : Int} {len : Nat}

/-- The buffer and the memory of every device are the same. -/
structure Same (io io' : Io) : Prop where
  buf : io'.buf = io.buf
  byteAt : ∀ dev i, io'.byteAt dev i = io.byteAt dev i

theorem Same.refl (io : Io) : Same io io := ⟨rfl, fun _ _ => rfl⟩

theorem Same.trans (h : Same io io') (h' : Same io' io'') : Same io io'' :=
  ⟨h'.buf.trans h.buf, fun dev i => (h'.byteAt dev i).trans (h.byteAt dev i)⟩

theorem same_touched (io : Io) (n : Nat) : Same io { io with touched := n } :=
  ⟨rfl, fun dev _ => by cases dev <;> rfl⟩

/-- `n` bytes of the buffer were stored from `start` on. -/
structure Stored (dev : NvramDev) (start : Int) (n : Nat) (io io' : Io) : Prop where
  buf : io'.buf = io.buf
  inside : ∀ k < n, io'.byteAt dev (start + k) = some (io.buf k)
  outside : ∀ dev' i, ¬ (dev' = dev ∧ start ≤ i ∧ i < start + n) → io'.byteAt dev' i = io.byteAt dev' i

/-- `n` bytes from `start` on were loaded into the buffer. -/
structure Loaded (dev : NvramDev) (start : Int) (n : Nat) (io io' : Io) : Prop where
  byteAt : ∀ dev i, io'.byteAt dev i = io.byteAt dev i
  inside : ∀ k < n, some (io'.buf k) = io.byteAt dev (start + k)
  outside : ∀ k, n ≤ k → io'.buf k = io.buf k

def Moved : Op → NvramDev → Int → Nat → Io → Io → Prop
  | .read => Loaded
  | .write => Stored

/-- The range was transferred, or a part of it and the transfer failed. -/
def Transfers (op : Op) (dev : NvramDev) (start : Int) (len : Nat) (io : Io) (r : Except Errno α) (io' : Io) : Prop :=
  ∃ n ≤ len, Moved op dev start n io io' ∧ (r.isOk → n = len)

theorem Moved.same (op : Op) (h : Same io io') : Moved op dev start 0 io io' := by
  cases op with
  | read => exact ⟨h.byteAt, fun k hk => absurd hk (Nat.not_lt_zero k), fun k _ => congrFun h.buf k⟩
  | write => exact ⟨h.buf, fun k hk => absurd hk (Nat.not_lt_zero k), fun dev' i _ => h.byteAt dev' i⟩

theorem Moved.after_same {op : Op} {n : Nat} (h : Same io io') (h' : Moved op dev start n io' io'') :
    Moved op dev start n io io'' := by
  cases op with
  | read =>
      exact ⟨fun dev i => (h'.byteAt dev i).trans (h.byteAt dev i),
        fun k hk => (h'.inside k hk).trans (h.byteAt _ _),
        fun k hk => (h'.outside k hk).trans (congrFun h.buf k)⟩
  | write =>
      exact ⟨h'.buf.trans h.buf, fun k hk => (h'.inside k hk).trans (by rw [h.buf]),
        fun dev' i hi => (h'.outside dev' i hi).trans (h.byteAt dev' i)⟩

theorem Moved.before_same {op : Op} {n : Nat} (h : Moved op dev start n io io') (h' : Same io' io'') :
    Moved op dev start n io io'' := by
  cases op with
  | read =>
      exact ⟨fun dev i => (h'.byteAt dev i).trans (h.byteAt dev i),
        fun k hk => (congrArg some (congrFun h'.buf k)).trans (h.inside k hk),
        fun k hk => (congrFun h'.buf k).trans (h.outside k hk)⟩
  | write =>
      exact ⟨h'.buf.trans h.buf, fun k hk => (h'.byteAt _ _).trans (h.inside k hk),
        fun dev' i hi => (h'.byteAt dev' i).trans (h.outside dev' i hi)⟩

theorem Transfers.failed {op : Op} {e : Errno} (h : Same io io') :
    Transfers op dev start len io (.error e : Except Errno α) io' :=
  ⟨0, Nat.zero_le _, Moved.same op h, fun hok => Bool.noConfusion hok⟩

/-! ## System calls -/

theorem syscall_ends {f : Io → α × Io} {Q : Except Errno α → Io → Prop}
    (herr : ∀ e, Q (.error e) { io with touched := io.touched + 1 })
    (hok : Q (.ok (f { io with touched := io.touched + 1 }).1) (f { io with touched := io.touched + 1 }).2) :
    Ends (syscall f) io Q :=
  Ends.bind (Q := fun r io' => r = .ok () ∧ io' = { io with touched := io.touched + 1 })
    (Ends.internal ⟨rfl, rfl⟩) (fun _ _ h => nomatch h.1) (by
      rintro _ _ ⟨-, rfl⟩
      exact Ends.access herr hok)

theorem fileAccess_ends (path : String) :
    Ends (fileAccess path) io fun r io' => io' = { io with touched := io.touched + 1 } ∧
      ∀ found, r = .ok found → found = (io.files path).isSome :=
  syscall_ends (fun _ => ⟨rfl, fun _ h => nomatch h⟩) ⟨rfl, fun _ h => (Except.ok.inj h).symm⟩

theorem fileOpen_ends (path : String) : Ends (fileOpen path) io fun _ io' => Same io io' := by
  refine Ends.bind (Q := fun _ io' => Same io io')
    (syscall_ends (fun _ => same_touched io _) (same_touched io _)) (fun _ _ h => h) ?_
  rintro ⟨found, fd⟩ io' h
  dsimp only
  split
  · exact Ends.pure h
  · exact Ends.fail h

/-- A file that does not exist is created with the bytes that it already seemed to have. -/
theorem same_created {path : String} {f : File} (hnone : io.files path = none) (hzero : ∀ i, f.byte i = 0)
    (n : Nat) : Same io { io with files := Function.update io.files path (some f), touched := n } := by
  refine ⟨rfl, fun dev i => ?_⟩
  cases dev with
  | eeprom chip => rfl
  | file path' =>
      by_cases hp : path' = path
      · subst hp
        simp only [Io.byteAt, Function.update_self, hnone, Option.getD_some, Option.getD_none, hzero]
        rfl
      · simp only [Io.byteAt, Function.update_of_ne hp]

theorem findOrCreate_ends (path : String) (size : BitVec 32) :
    Ends (nvramFindOrCreateNvramFile path size) io fun _ io' => Same io io' := by
  refine Ends.bind (fileAccess_ends path) (fun _ _ h => h.1 ▸ same_touched io _) ?_
  rintro found _ ⟨rfl, hfound⟩
  have hsame := same_touched io (io.touched + 1)
  cases hfiles : io.files path with
  | some f =>
      rw [hfound found rfl, hfiles]
      exact (fileOpen_ends path).mono fun _ _ h => hsame.trans h
  | none =>
      rw [hfound found rfl, hfiles]
      refine Ends.bind (Q := fun r io' => ∃ n, match r with
        | .error _ => io' = { io with touched := n }
        | .ok _ => io' = { io with files := Function.update io.files path (some .empty), touched := n })
        (syscall_ends (fun _ => ⟨_, rfl⟩) ⟨_, rfl⟩) (fun _ _ ⟨n, h⟩ => h ▸ same_touched io n) ?_
      rintro fd _ ⟨n, rfl⟩
      dsimp only
      split
      · refine Ends.bind (Q := fun _ io' => Same io io') (syscall_ends (fun _ => ?_) ?_) (fun _ _ h => h)
          fun _ _ h => Ends.pure h
        · exact same_created hfiles (fun _ => rfl) _
        · dsimp only
          rw [Function.update_self, Function.update_idem, Option.map_some]
          exact same_created hfiles (fun i => ite_self 0) _
      · exact Ends.pure (same_created hfiles (fun _ => rfl) _)

theorem lseek_ends (pos : BitVec 64) :
    Ends (lseek pos) io fun r io' => io' = { io with touched := io.touched + 1 } ∧
      ∀ p, r = .ok p → 0 ≤ pos.toInt ∧ p = pos.toNat := by
  refine Ends.bind (Q := fun _ io' => io' = { io with touched := io.touched + 1 })
    (syscall_ends (fun _ => rfl) rfl) (fun _ _ h => ⟨h, fun _ hp => nomatch hp⟩) ?_
  rintro _ _ rfl
  split
  · exact Ends.fail ⟨rfl, fun _ hp => nomatch hp⟩
  · rename_i hpos
    exact Ends.pure ⟨rfl, fun p hp => ⟨Int.not_lt.mp hpos, (Except.ok.inj hp).symm⟩⟩

/-! ## Transfers of files -/

theorem fileRead_ends (path : String) (pos len : Nat) :
    Ends (fileRead path pos len) io fun r io' => ∃ n ≤ len, Loaded (.file path) pos n io io' ∧
      ∀ count, r = .ok count → count = n := by
  refine syscall_ends (fun _ => ⟨0, Nat.zero_le _, Moved.same .read (same_touched io _),
    fun _ h => nomatch h⟩) ?_
  dsimp only
  cases hfile : io.files path with
  | none => exact ⟨0, Nat.zero_le _, Moved.same .read (same_touched io _),
      fun _ h => (Except.ok.inj h).symm⟩
  | some f =>
      refine ⟨min (min len maxRwCount) (f.size - pos), by omega, ⟨fun dev i => ?_, fun k hk => ?_, fun k hk => ?_⟩,
        fun _ h => (Except.ok.inj h).symm⟩
      · cases dev <;> rfl
      · have hpos : (0 : Int) ≤ pos + k := by omega
        have hnat : ((pos : Int) + k).toNat = pos + k := by omega
        simp only [Io.byteAt, hfile, hk, hpos, hnat, ↓reduceIte, Option.getD_some]
      · exact if_neg (Nat.not_lt.mpr hk)

theorem fileWrite_ends (path : String) (pos len : Nat) :
    Ends (fileWrite path pos len) io fun r io' => ∃ n ≤ len, Stored (.file path) pos n io io' ∧
      ∀ count, r = .ok count → count = n := by
  refine syscall_ends (fun _ => ⟨0, Nat.zero_le _, Moved.same .write (same_touched io _),
    fun _ h => nomatch h⟩) ?_
  dsimp only
  cases hfile : io.files path with
  | none => exact ⟨0, Nat.zero_le _, Moved.same .write (same_touched io _),
      fun _ h => (Except.ok.inj h).symm⟩
  | some f =>
      have hroom : f.room pos (min len maxRwCount) ≤ len := by
        unfold File.room
        split <;> omega
      refine ⟨f.room pos (min len maxRwCount), hroom, ⟨rfl, fun k hk => ?_, fun dev i hi => ?_⟩,
        fun _ h => (Except.ok.inj h).symm⟩
      · have hpos : (0 : Int) ≤ pos + k := by omega
        have hin : pos ≤ ((pos : Int) + k).toNat ∧
            ((pos : Int) + k).toNat < pos + f.room pos (min len maxRwCount) := by omega
        have hk' : ((pos : Int) + k).toNat - pos = k := by omega
        simp only [Io.byteAt, Function.update_self, Option.getD_some, hpos, ↓reduceIte, File.write, hin,
          and_self, hk']
      · cases dev with
        | eeprom chip => rfl
        | file path' =>
            by_cases hp : path' = path
            · subst hp
              by_cases hpos : 0 ≤ i
              · have hout : ¬ (pos ≤ i.toNat ∧ i.toNat < pos + f.room pos (min len maxRwCount)) := fun h =>
                  hi ⟨rfl, by omega, by omega⟩
                simp only [Io.byteAt, Function.update_self, Option.getD_some, hpos, ↓reduceIte, File.write,
                  hout, hfile]
              · simp only [Io.byteAt, hpos, ↓reduceIte]
            · simp only [Io.byteAt, Function.update_of_ne hp]

theorem transfer_ends (op : Op) (path : String) (pos len : Nat) :
    Ends (op.transfer path pos len) io fun r io' => ∃ n ≤ len, Moved op (.file path) pos n io io' ∧
      ∀ count, r = .ok count → count = n := by
  cases op with
  | read => exact fileRead_ends path pos len
  | write => exact fileWrite_ends path pos len

theorem position_toInt {base : BitVec 64} {ofs : BitVec 32} (h : 0 ≤ (position base ofs).toInt) :
    ((position base ofs).toNat : Int) = base.toInt + ofs.toNat := by
  have hofs := ofs.isLt
  have hbase := base.isLt
  simp only [position, BitVec.toInt_eq_toNat_cond, BitVec.toNat_add, BitVec.toNat_setWidth] at h ⊢
  omega

theorem position_setWidth {base : BitVec 64} {ofs : BitVec 32} (h0 : 0 ≤ base.toInt + ofs.toNat)
    (h : base.toInt + ofs.toNat < 2 ^ 32) :
    (((position base ofs).setWidth 32).toNat : Int) = base.toInt + ofs.toNat := by
  have hofs := ofs.isLt
  have hbase := base.isLt
  simp only [position, BitVec.toInt_eq_toNat_cond, BitVec.toNat_add, BitVec.toNat_setWidth] at h0 h ⊢
  omega

/-- A file is transferred from the offset of the window on. -/
theorem seekTransfer_ends (op : Op) {openFile : M Nat} (path : String) (base : BitVec 64) (ofs len : BitVec 32)
    (hopen : Ends openFile io fun _ io' => Same io io') :
    Ends (seekTransfer op openFile path (position base ofs) len) io
      (Transfers op (.file path) (base.toInt + ofs.toNat) len.toNat io) := by
  refine Ends.bind hopen (fun _ _ h => Transfers.failed h) fun _ io1 h1 => ?_
  have hsame := h1.trans (same_touched io1 (io1.touched + 1))
  refine Ends.bind (lseek_ends _) (fun _ _ h => h.1 ▸ Transfers.failed hsame) ?_
  rintro _ _ ⟨rfl, hseek⟩
  obtain ⟨hpos, rfl⟩ := hseek _ rfl
  refine Ends.bind (transfer_ends op path _ _) ?_ ?_
  · rintro e io3 ⟨n, hn, hmoved, -⟩
    exact ⟨n, hn, position_toInt hpos ▸ hmoved.after_same hsame, fun hok => Bool.noConfusion hok⟩
  · rintro count io3 ⟨n, hn, hmoved, hcount⟩
    have hmoved := position_toInt hpos ▸ hmoved.after_same hsame
    obtain rfl := hcount count rfl
    split
    · exact Ends.fail ⟨_, hn, hmoved, fun hok => Bool.noConfusion hok⟩
    · rename_i heq
      exact Ends.pure ⟨_, hn, hmoved, fun _ => Classical.not_not.mp heq⟩

/-! ## Transfers of EEPROMs -/

variable {chip : Chip} {cmd : BitVec 32} {count left : Nat}

def Op.execute : Op → Chip → (cmd : BitVec 32) → (count : Nat) → M Unit
  | .read => smbusReadExecute
  | .write => smbusWriteExecute

theorem Chip.size_le (chip : Chip) : (2 : Int) ^ chip.offsetBits ≤ 2 ^ 32 := by
  exact_mod_cast Nat.pow_le_pow_right Nat.zero_lt_two chip.offsetBits_le

theorem address_eq {i : Int} (hcmd : (cmd.toNat : Int) = i) (h : i < 2 ^ chip.offsetBits) :
    chip.address cmd = i.toNat := by
  have hlt : cmd.toNat < 2 ^ chip.offsetBits := by
    have hcast : ((2 ^ chip.offsetBits : Nat) : Int) = 2 ^ chip.offsetBits := by norm_cast
    omega
  rw [Chip.address, Nat.mod_eq_of_lt hlt]
  omega

theorem Loaded.next {io0 : Io} (h : Loaded (.eeprom chip) start count io0 io) {n : Nat}
    (hin : 0 ≤ start + count ∧ start + count < 2 ^ chip.offsetBits) :
    Loaded (.eeprom chip) start (count + 1) io0 { io with
      buf := Function.update io.buf count (io.eeproms chip (start + count).toNat), touched := n } := by
  refine ⟨fun dev i => ?_, fun k hk => ?_, fun k hk => ?_⟩
  · refine Eq.trans ?_ (h.byteAt dev i)
    cases dev <;> rfl
  · by_cases hc : k = count
    · subst hc
      simp only [← h.byteAt (.eeprom chip)]
      simp only [Function.update_self, Io.byteAt, hin, and_self, ↓reduceIte]
    · simp only [Function.update_of_ne hc]
      exact h.inside k (by omega)
  · have hc : k ≠ count := by omega
    simp only [Function.update_of_ne hc]
    exact h.outside k (by omega)

theorem Stored.next {io0 : Io} (h : Stored (.eeprom chip) start count io0 io) {n : Nat}
    (hin : 0 ≤ start + count ∧ start + count < 2 ^ chip.offsetBits) :
    Stored (.eeprom chip) start (count + 1) io0 { io with
      eeproms := Function.update io.eeproms chip
        (Function.update (io.eeproms chip) (start + count).toNat (io.buf count)), touched := n } := by
  have hother : ∀ dev i, ¬ (dev = .eeprom chip ∧ i = start + count) → Io.byteAt { io with
      eeproms := Function.update io.eeproms chip
        (Function.update (io.eeproms chip) (start + count).toNat (io.buf count)), touched := n } dev i =
      io.byteAt dev i := by
    intro dev i hne
    cases dev with
    | file path => rfl
    | eeprom chip' =>
        by_cases hchip : chip' = chip
        · subst hchip
          simp only [Io.byteAt, Function.update_self]
          split
          · rw [Function.update_of_ne fun heq => hne ⟨rfl, by omega⟩]
          · rfl
        · simp only [Io.byteAt, Function.update_of_ne hchip]
  refine ⟨h.buf, fun k hk => ?_, fun dev i hi => ?_⟩
  · by_cases hc : k = count
    · subst hc
      simp only [Io.byteAt, hin, and_self, ↓reduceIte, Function.update_self, h.buf]
    · rw [hother _ _ (by omega)]
      exact h.inside k (by omega)
  · rw [hother dev i fun heq => hi ⟨heq.1, by omega, by omega⟩]
    exact h.outside dev i fun hin => hi ⟨hin.1, hin.2.1, by omega⟩

/-- One transaction transfers the next byte, or fails. -/
theorem execute_ends (op : Op) {io0 : Io} (hmoved : Moved op (.eeprom chip) start count io0 io)
    (hcmd : (cmd.toNat : Int) = start + count) (h : start + count < 2 ^ chip.offsetBits) :
    Ends (op.execute chip cmd count) io fun r io' =>
      Moved op (.eeprom chip) start (match r with | .ok _ => count + 1 | .error _ => count) io0 io' := by
  have haddr := address_eq hcmd h
  have hin : 0 ≤ start + count ∧ start + count < 2 ^ chip.offsetBits := ⟨by omega, h⟩
  cases op with
  | read =>
      refine syscall_ends (fun _ => hmoved.before_same (same_touched io _)) ?_
      rw [haddr]
      exact Loaded.next hmoved hin
  | write =>
      refine syscall_ends (fun _ => hmoved.before_same (same_touched io _)) ?_
      rw [haddr]
      exact Stored.next hmoved hin

theorem multiByteLoop_ends (op : Op) {io0 : Io} (hmoved : Moved op (.eeprom chip) start count io0 io)
    (hcmd : (cmd.toNat : Int) = start) (hlen : count + left = len) (h : start + len ≤ 2 ^ chip.offsetBits) :
    Ends (multiByteLoop (op.execute chip) cmd count left) io
      (Transfers op (.eeprom chip) start len io0) := by
  induction left generalizing count io with
  | zero => exact Ends.pure ⟨count, by omega, hmoved, fun _ => by omega⟩
  | succ left ih =>
      have hbits := chip.size_le
      have hnext : ((cmd + BitVec.ofNat 32 count).toNat : Int) = start + count := by
        rw [BitVec.toNat_add, BitVec.toNat_ofNat]
        omega
      refine Ends.bind (execute_ends op hmoved hnext (by omega)) ?_ fun _ io' h' => ?_
      · exact fun e io' h' => ⟨count, by omega, h', fun hok => Bool.noConfusion hok⟩
      · exact ih h' (by omega)

theorem multiByte_eq (op : Op) (byteCount : Nat) : op.multiByte chip cmd byteCount = (do
    i2cAcquireBus
    multiByteLoop (op.execute chip) cmd 0 byteCount) := by
  cases op <;> rfl

theorem multiByte_ends (op : Op) {base : BitVec 64} {ofs : BitVec 32}
    (h : len ≠ 0 → 0 ≤ base.toInt + ofs.toNat ∧ base.toInt + ofs.toNat + len ≤ 2 ^ chip.offsetBits) :
    Ends (op.multiByte chip ((position base ofs).setWidth 32) len) io
      (Transfers op (.eeprom chip) (base.toInt + ofs.toNat) len io) := by
  rw [multiByte_eq]
  refine Ends.bind (Q := fun _ io' => io' = io) (Ends.access (fun _ => rfl) rfl)
    (fun _ _ h => h ▸ Transfers.failed (Same.refl _)) ?_
  rintro _ _ rfl
  cases len with
  | zero => exact Ends.pure ⟨0, Nat.le_refl _, Moved.same op (Same.refl _), fun _ => rfl⟩
  | succ len =>
      obtain ⟨h0, hend⟩ := h (Nat.succ_ne_zero len)
      have hbits := chip.size_le
      exact multiByteLoop_ends op (Moved.same op (Same.refl _)) (position_setWidth h0 (by omega)) (Nat.zero_add _)
        hend

end

/-! ## Reads of files that were just created

A file that is created for a window has the size of the window. Whether a read of it succeeds depends on
where the window begins.
-/

variable {α : Type} {io io1 : Io} {path : String} {f : File} {size len : BitVec 32} {pos : BitVec 64}
  {held : Unit → Bool} {fd : Nat}

/-- The bytes of the range are in a file of this size, and one call transfers them. -/
def Covers (fileSize : Nat) (pos : BitVec 64) (len : BitVec 32) : Prop :=
  0 ≤ pos.toInt ∧ len.toNat ≤ maxRwCount ∧ (len ≠ 0 → pos.toNat + len.toNat ≤ fileSize)

def createdSize (fd : Nat) (size : BitVec 32) : Nat := if 0 < fd then size.toNat else 0

/-! ### What a success implies -/

theorem ok_findOrCreate (hnone : io.files path = none) :
    Ends (nvramFindOrCreateNvramFile path size) io fun r io' => ∀ fd, r = .ok fd →
      ∃ f, io'.files path = some f ∧ f.size = createdSize io.fd size := by
  refine Ends.bind (fileAccess_ends path) (fun _ _ _ _ h => nomatch h) ?_
  rintro found _ ⟨rfl, hfound⟩
  rw [hfound found rfl, hnone]
  refine Ends.bind (Q := fun r io' => ∀ fd, r = .ok fd → fd = io.fd ∧ io'.files path = some .empty)
    (syscall_ends (fun _ _ h => nomatch h) fun _ h => ⟨(Except.ok.inj h).symm, Function.update_self ..⟩)
    (fun _ _ _ _ h => nomatch h) ?_
  intro fd io' h
  obtain ⟨rfl, hfile⟩ := h fd rfl
  unfold createdSize
  dsimp only
  split
  · refine Ends.bind (Q := fun r io'' => r = .ok () → io''.files path = some (.truncate size.toNat .empty))
      (syscall_ends (fun _ h => nomatch h) fun _ => ?_) (fun _ _ _ _ h => nomatch h) fun _ io'' h'' =>
      Ends.pure fun _ _ => ⟨_, h'' rfl, rfl⟩
    dsimp only
    rw [Function.update_self, hfile, Option.map_some]
  · exact Ends.pure fun _ _ => ⟨_, hfile, rfl⟩

theorem ok_fileRead {pos len : Nat} (hfile : io.files path = some f) :
    Ends (fileRead path pos len) io fun r _ => ∀ count, r = .ok count →
      count = min (min len maxRwCount) (f.size - pos) := by
  refine syscall_ends (fun _ _ h => nomatch h) fun _ h => ?_
  dsimp only at h
  rw [hfile] at h
  exact (Except.ok.inj h).symm

theorem ok_seekRead {openFile : M Nat} {n : Nat}
    (hopen : Ends openFile io fun r io' => ∀ fd, r = .ok fd → ∃ f, io'.files path = some f ∧ f.size = n) :
    Ends (seekTransfer .read openFile path pos len) io fun r _ => r = .ok () → Covers n pos len := by
  refine Ends.bind hopen (fun _ _ _ h => nomatch h) fun fd io1 h1 => ?_
  obtain ⟨g, hg, hsize⟩ := h1 fd rfl
  refine Ends.bind (lseek_ends pos) (fun _ _ _ h => nomatch h) ?_
  rintro _ _ ⟨rfl, hseek⟩
  obtain ⟨hpos, rfl⟩ := hseek _ rfl
  refine Ends.bind (ok_fileRead hg) (fun _ _ _ h => nomatch h) fun count io3 hcount => ?_
  have hcount := hcount count rfl
  split
  · exact Ends.fail fun h => nomatch h
  · rename_i heq
    refine Ends.pure fun _ => ⟨hpos, by omega, fun hlen => ?_⟩
    have hlen : len.toNat ≠ 0 := fun h => hlen (BitVec.eq_of_toNat_eq h)
    omega

/-! ### Success without failures -/

theorem syscall_works {f : Io → α × Io} {Q : α → Io → Prop}
    (h : Q (f { io with touched := io.touched + 1 }).1 (f { io with touched := io.touched + 1 }).2) :
    Works (syscall f) io Q :=
  Works.bind (Q := fun _ io' => io' = { io with touched := io.touched + 1 }) (Works.internal rfl) (by
    rintro _ _ rfl
    exact Works.access h)

theorem fileOpen_works (hfile : io.files path = some f) :
    Works (fileOpen path) io fun _ io' => io'.files path = some f := by
  refine Works.bind (Q := fun r io' => r.1 = true ∧ io'.files path = some f)
    (syscall_works ⟨by rw [hfile]; rfl, hfile⟩) ?_
  rintro ⟨found, fd⟩ io' ⟨rfl, h⟩
  exact Works.pure h

theorem findOrCreate_works (h : io.files path = none ∨ io.files path = some (.truncate size.toNat .empty)) :
    Works (nvramFindOrCreateNvramFile path size) io fun _ io' => ∃ f, io'.files path = some f ∧
      (0 < io.fd → f.size = size.toNat) := by
  refine Works.bind (Q := fun r io' => r = (io.files path).isSome ∧ io'.files = io.files ∧ io'.fd = io.fd)
    (syscall_works ⟨rfl, rfl, rfl⟩) ?_
  rintro found io1 ⟨rfl, hfiles, hfd1⟩
  rcases h with hnone | hsome
  · rw [hnone]
    refine Works.bind (Q := fun fd io2 => fd = io.fd ∧ io2.files path = some .empty)
      (syscall_works ⟨hfd1, Function.update_self ..⟩) ?_
    rintro fd io2 ⟨rfl, hfile⟩
    dsimp only
    split
    · refine Works.bind (Q := fun _ io3 => io3.files path = some (.truncate size.toNat .empty))
        (syscall_works ?_) fun _ _ h3 => Works.pure ⟨_, h3, fun _ => rfl⟩
      dsimp only
      rw [Function.update_self, hfile, Option.map_some]
    · rename_i hzero
      exact Works.pure ⟨_, hfile, fun hfd => absurd hfd hzero⟩
  · rw [hsome]
    exact (fileOpen_works (hfiles ▸ hsome)).mono fun _ _ h => ⟨_, h, fun _ => rfl⟩

theorem seekRead_works {openFile : M Nat} (hpos : 0 ≤ pos.toInt) (hlen : len.toNat ≤ maxRwCount)
    (hopen : Works openFile io fun _ io' => ∃ f, io'.files path = some f ∧
      (len ≠ 0 → pos.toNat + len.toNat ≤ f.size)) :
    Works (seekTransfer .read openFile path pos len) io fun _ _ => True := by
  refine Works.bind hopen ?_
  rintro _ io1 ⟨f, hfile, hsize⟩
  refine Works.bind (Q := fun p io2 => p = pos.toNat ∧ io2.files path = some f) ?_ ?_
  · refine Works.bind (Q := fun _ io2 => io2.files path = some f) (syscall_works hfile) fun _ io2 h2 => ?_
    rw [if_neg (Int.not_lt.mpr hpos)]
    exact Works.pure ⟨rfl, h2⟩
  · rintro _ io2 ⟨rfl, h2⟩
    refine Works.bind (Q := fun count _ => count = len.toNat) (syscall_works ?_) ?_
    · dsimp only
      rw [h2]
      by_cases hzero : len = 0
      · subst hzero
        exact Nat.zero_min _
      · have hfits := hsize hzero
        dsimp only
        omega
    · rintro _ io3 rfl
      rw [if_neg (not_not_intro rfl)]
      exact Works.pure trivial

end OpxSdi.Nvram
