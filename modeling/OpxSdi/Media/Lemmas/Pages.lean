import OpxSdi.Media.Lemmas.Module
import OpxSdi.Media.Pages

/-!
# When a page access returns

A transfer makes its transactions one after another and stops at the first that fails. The selection of the
default page after it makes the return code of the access.
-/

namespace OpxSdi.Media

open Lib Device

variable {d d' : State} {a : BitVec 16} {cmd : BitVec 32} {e : Errno} {u : Unit}

/-! ## Transfers -/

theorem clear_add_passed {m n : Nat} {slaves : BitVec 16 → Eeprom} :
    d.Clear (m + n) ↔ d.Clear m ∧ (d.passed m slaves).Clear n := @clear_add _ _ _ d m n d.hw

theorem failsAt_add_passed {m k : Nat} {slaves : BitVec 16 → Eeprom} :
    d.FailsAt (m + k) e ↔ d.Clear m ∧ (d.passed m slaves).FailsAt k e := by
  rw [FailsAt, FailsAt, @clear_add_passed d m k slaves, and_assoc, passed_fault, passed_time, Nat.add_assoc]

theorem clear_succ_passed {n : Nat} {slaves : BitVec 16 → Eeprom} :
    d.Clear (n + 1) ↔ d.fault d.time = none ∧ (d.passed 1 slaves).Clear n := by
  rw [Nat.add_comm n, clear_add_passed, clear_one]

theorem failsAt_succ_passed {k : Nat} {slaves : BitVec 16 → Eeprom} :
    d.FailsAt (k + 1) e ↔ d.fault d.time = none ∧ (d.passed 1 slaves).FailsAt k e := by
  rw [Nat.add_comm k, failsAt_add_passed, clear_one]

/-- A transfer with the module at an address: the memory after its first transactions, and what it
returns for the memory that it finds. -/
structure Burst (α : Type) where
  run : (address : BitVec 16) → M α
  size : Nat
  mem : (k : Nat) → Eeprom → Eeprom
  result : Eeprom → α
  mem_zero : ∀ m, mem 0 m = m
  ok_iff : ∀ {a} {d : State} {r d'}, Ok (run a) d r d' ↔ d.Clear size ∧ r = result (d.hw.slaves a) ∧
    d' = d.passed size (Function.update d.hw.slaves a (mem size (d.hw.slaves a)))
  err_iff : ∀ {a} {d : State} {e d'}, Err (run a) d e d' ↔ ∃ k < size, d.FailsAt k e ∧
    d' = d.passed (k + 1) (Function.update d.hw.slaves a (mem k (d.hw.slaves a)))

/-- One transaction with the module at an address. -/
structure Beat (α : Type) where
  run : (address : BitVec 16) → M α
  mem : Eeprom → Eeprom
  result : Eeprom → α
  ok_iff : ∀ {a} {d : State} {r d'}, Ok (run a) d r d' ↔ d.fault d.time = none ∧ r = result (d.hw.slaves a) ∧
    d' = d.passed 1 (Function.update d.hw.slaves a (mem (d.hw.slaves a)))
  err_iff : ∀ {a} {d : State} {e d'}, Err (run a) d e d' ↔
    d.fault d.time = some e ∧ d' = d.passed 1 d.hw.slaves

def readBeat (cmd : BitVec 32) : Beat Byte where
  run address := smbusReadByte address cmd
  mem e := e
  result e := e.read (cmd.setWidth 8)
  ok_iff := by
    intros
    rw [Function.update_eq_self]
    exact ok_smbusReadByte
  err_iff := err_smbusReadByte

def readWordBeat (cmd : BitVec 32) : Beat (BitVec 16) where
  run address := smbusReadWord address cmd
  mem e := e
  result e := e.readWord cmd
  ok_iff := by
    intros
    rw [Function.update_eq_self]
    exact ok_smbusReadWord
  err_iff := err_smbusReadWord

def writeBeat (cmd : BitVec 32) (b : Byte) : Beat Unit where
  run address := smbusWriteByte address cmd b
  mem e := e.write (cmd.setWidth 8) b
  result _ := ()
  ok_iff := ok_smbusWriteByte.trans (and_congr_right fun _ => (and_iff_right rfl).symm)
  err_iff := err_smbusWriteByte

namespace Burst

variable {α β γ : Type}

def nil (r : α) : Burst α where
  run _ := pure r
  size := 0
  mem _ e := e
  result _ := r
  mem_zero _ := rfl
  ok_iff := by
    intro a d r d'
    rw [Function.update_eq_self, passed_zero]
    exact ok_pure.trans (and_iff_right d.clear_zero).symm
  err_iff := iff_of_false err_pure fun ⟨k, hk, _⟩ => Nat.not_lt_zero k hk

/-- A transaction before a transfer. -/
def cons (first : Beat β) (rest : Burst γ) (f : β → γ → α) : Burst α where
  run address := do
    let b ← first.run address
    let c ← rest.run address
    pure (f b c)
  size := rest.size + 1
  mem k e := match k with
    | 0 => e
    | k + 1 => rest.mem k (first.mem e)
  result e := f (first.result e) (rest.result (first.mem e))
  mem_zero _ := rfl
  ok_iff := by
    intro a d r d'
    rw [ok_bind]
    constructor
    · rintro ⟨b, d1, hfirst, h⟩
      obtain ⟨hfault, rfl, rfl⟩ := first.ok_iff.mp hfirst
      obtain ⟨c, d2, hrest, h⟩ := ok_bind.mp h
      obtain ⟨hclear, rfl, rfl⟩ := rest.ok_iff.mp hrest
      obtain ⟨rfl, rfl⟩ := ok_pure.mp h
      refine ⟨clear_succ_passed.mpr ⟨hfault, hclear⟩, ?_, ?_⟩
      · rw [passed_slaves, Function.update_self]
      · rw [passed_slaves, passed_passed, Function.update_self, Function.update_idem, Nat.add_comm]
    · rintro ⟨hclear, rfl, rfl⟩
      obtain ⟨hfault, hclear⟩ := clear_succ_passed.mp hclear
      refine ⟨_, _, first.ok_iff.mpr ⟨hfault, rfl, rfl⟩, ok_bind.mpr ⟨_, _, rest.ok_iff.mpr ⟨hclear, rfl, rfl⟩, ?_⟩⟩
      rw [passed_slaves, passed_passed, Function.update_self, Function.update_idem, Nat.add_comm]
      exact ok_pure.mpr ⟨rfl, rfl⟩
  err_iff := by
    intro a d e d'
    rw [err_bind, first.err_iff, Nat.exists_lt_succ_left, failsAt_zero, Function.update_eq_self]
    refine or_congr Iff.rfl ⟨?_, ?_⟩
    · rintro ⟨b, d1, hfirst, h⟩
      obtain ⟨hfault, -, rfl⟩ := first.ok_iff.mp hfirst
      rcases err_bind.mp h with hrest | ⟨c, d2, -, h⟩
      · obtain ⟨k, hk, hfails, rfl⟩ := rest.err_iff.mp hrest
        refine ⟨k, hk, failsAt_succ_passed.mpr ⟨hfault, hfails⟩, ?_⟩
        rw [passed_slaves, passed_passed, Function.update_self, Function.update_idem, Nat.add_comm 1]
      · exact absurd h err_pure
    · rintro ⟨k, hk, hfails, rfl⟩
      obtain ⟨hfault, hfails⟩ := failsAt_succ_passed.mp hfails
      refine ⟨_, _, first.ok_iff.mpr ⟨hfault, rfl, rfl⟩, err_bind.mpr (.inl (rest.err_iff.mpr ⟨k, hk, hfails, ?_⟩))⟩
      rw [passed_slaves, passed_passed, Function.update_self, Function.update_idem, Nat.add_comm 1]

/-- The transfer that also returns the memory that it finds. -/
def watched (b : Burst α) : Burst (Eeprom × α) where
  run := Media.watched b.run
  size := b.size
  mem := b.mem
  result e := (e, b.result e)
  mem_zero := b.mem_zero
  ok_iff := by
    intro a d r d'
    rw [Media.watched, ok_bind]
    constructor
    · rintro ⟨before, d1, hbefore, h⟩
      obtain ⟨rfl, rfl⟩ := ok_internal.mp hbefore
      obtain ⟨r', d2, hrun, h⟩ := ok_bind.mp h
      obtain ⟨hclear, rfl, rfl⟩ := b.ok_iff.mp hrun
      obtain ⟨rfl, rfl⟩ := ok_pure.mp h
      exact ⟨hclear, rfl, rfl⟩
    · rintro ⟨hclear, rfl, rfl⟩
      exact ⟨_, _, ok_internal.mpr ⟨rfl, rfl⟩, ok_bind.mpr ⟨_, _, b.ok_iff.mpr ⟨hclear, rfl, rfl⟩,
        ok_pure.mpr ⟨rfl, rfl⟩⟩⟩
  err_iff := by
    intro a d e d'
    rw [Media.watched, err_bind, or_iff_right err_internal]
    constructor
    · rintro ⟨before, d1, hbefore, h⟩
      obtain ⟨rfl, rfl⟩ := ok_internal.mp hbefore
      rcases err_bind.mp h with hrun | ⟨r, d2, -, h⟩
      · exact b.err_iff.mp hrun
      · exact absurd h err_pure
    · intro h
      exact ⟨_, _, ok_internal.mpr ⟨rfl, rfl⟩, err_bind.mpr (.inl (b.err_iff.mpr h))⟩

end Burst

def readBurst : (cmd : BitVec 32) → (byteCount : Nat) → Burst (List Byte)
  | _, 0 => .nil []
  | cmd, byteCount + 1 => .cons (readBeat cmd) (readBurst (cmd + 1) byteCount) fun b bs => b :: bs

def writeBurst : (cmd : BitVec 32) → (buffer : List Byte) → Burst Unit
  | _, [] => .nil ()
  | cmd, b :: bs => .cons (writeBeat cmd b) (writeBurst (cmd + 1) bs) fun _ u => u

def readWordBurst (cmd : BitVec 32) : Burst (BitVec 16) := .cons (readWordBeat cmd) (.nil ()) fun w _ => w

theorem readBurst_run (n : Nat) : (readBurst cmd n).run a = smbusReadMultiByte a cmd n := by
  induction n generalizing cmd with
  | zero => rfl
  | succ n ih =>
      rw [smbusReadMultiByte, ← ih]
      rfl

theorem writeBurst_run (bs : List Byte) : (writeBurst cmd bs).run a = smbusWriteMultiByte a cmd bs := by
  induction bs generalizing cmd with
  | nil => rfl
  | cons b bs ih =>
      rw [smbusWriteMultiByte, ← ih]
      exact bind_congr fun _ => bind_pure _

theorem readWordBurst_run : (readWordBurst cmd).run a = smbusReadWord a cmd := bind_pure _

theorem readBurst_size (n : Nat) : (readBurst cmd n).size = n := by
  induction n generalizing cmd with
  | zero => rfl
  | succ n ih => exact congrArg (· + 1) ih

theorem writeBurst_size (bs : List Byte) : (writeBurst cmd bs).size = bs.length := by
  induction bs generalizing cmd with
  | nil => rfl
  | cons b bs ih => exact congrArg (· + 1) ih

theorem readBurst_mem (n k : Nat) (m : Eeprom) : (readBurst cmd n).mem k m = m := by
  induction n generalizing cmd k with
  | zero => rfl
  | succ n ih =>
      cases k with
      | zero => rfl
      | succ k => exact ih k

theorem readBurst_result (n : Nat) (m : Eeprom) : (readBurst cmd n).result m = m.reads cmd n := by
  induction n generalizing cmd with
  | zero => rfl
  | succ n ih => exact congrArg (m.read (cmd.setWidth 8) :: ·) ih

/-! ## The selection of a page -/

variable {q : Qsfp} {page : Int}

def Qsfp.paged (q : Qsfp) (page : Int) (slaves : BitVec 16 → Eeprom) : BitVec 16 → Eeprom :=
  Function.update slaves q.i2cAddr ((slaves q.i2cAddr).selectPage (BitVec.ofInt 8 page))

def Qsfp.Flat (q : Qsfp) (slaves : BitVec 16 → Eeprom) : Prop := (slaves q.i2cAddr).FlatMem

instance (slaves : BitVec 16 → Eeprom) : Decidable (q.Flat slaves) :=
  inferInstanceAs (Decidable (slaves q.i2cAddr).FlatMem)

/-- The bit of the status indicator that the driver tests. -/
theorem flat_iff (slaves : BitVec 16 → Eeprom) : q.Flat slaves ↔
    ((slaves q.i2cAddr).read (Qsfp.statusIndicatorOffset.setWidth 8)).getLsbD Qsfp.flatMemBitOffset = true :=
  Iff.rfl

theorem ok_isPagingSupported {r : Bool} : Ok q.isPagingSupported d r d' ↔ d.fault d.time = none ∧
    r = !decide (q.Flat d.hw.slaves) ∧ d' = d.passed 1 d.hw.slaves := by
  have hbit : ∀ b : Bool, (!decide (b = true)) = !b := by decide
  rw [Qsfp.isPagingSupported, ok_bind]
  simp only [flat_iff, hbit]
  constructor
  · rintro ⟨b, d1, hread, h⟩
    obtain ⟨hfault, rfl, rfl⟩ := ok_smbusReadByte.mp hread
    obtain ⟨rfl, rfl⟩ := ok_pure.mp h
    exact ⟨hfault, rfl, rfl⟩
  · rintro ⟨hfault, rfl, rfl⟩
    exact ⟨_, _, ok_smbusReadByte.mpr ⟨hfault, rfl, rfl⟩, ok_pure.mpr ⟨rfl, rfl⟩⟩

theorem err_isPagingSupported : Err q.isPagingSupported d e d' ↔
    d.fault d.time = some e ∧ d' = d.passed 1 d.hw.slaves := by
  rw [Qsfp.isPagingSupported, err_bind, err_smbusReadByte, or_iff_left]
  rintro ⟨b, d1, -, h⟩
  exact err_pure h

theorem ok_pageSelect : Ok (q.pageSelect page) d u d' ↔ d.Clear 2 ∧ ¬q.Flat d.hw.slaves ∧
    d' = d.passed 2 (q.paged page d.hw.slaves) := by
  rw [Qsfp.pageSelect, ok_bind, clear_two, flat_iff]
  constructor
  · rintro ⟨buf, d1, hread, h⟩
    obtain ⟨hfault, rfl, rfl⟩ := ok_smbusReadByte.mp hread
    split at h
    · exact absurd h ok_fail
    · rename_i hflat
      obtain ⟨hfault', rfl⟩ := ok_smbusWriteByte.mp h
      exact ⟨⟨hfault, hfault'⟩, hflat, passed_passed ..⟩
  · rintro ⟨⟨hfault, hfault'⟩, hflat, rfl⟩
    refine ⟨_, _, ok_smbusReadByte.mpr ⟨hfault, rfl, rfl⟩, ?_⟩
    rw [if_neg hflat]
    exact ok_smbusWriteByte.mpr ⟨hfault', (passed_passed d 1 1 _ _).symm⟩

theorem err_pageSelect : Err (q.pageSelect page) d e d' ↔
    (d.FailsAt 0 e ∧ d' = d.passed 1 d.hw.slaves) ∨
    (d.fault d.time = none ∧ q.Flat d.hw.slaves ∧ e = .enotsup ∧ d' = d.passed 1 d.hw.slaves) ∨
    (d.FailsAt 1 e ∧ ¬q.Flat d.hw.slaves ∧ d' = d.passed 2 d.hw.slaves) := by
  rw [Qsfp.pageSelect, err_bind, failsAt_zero, FailsAt, clear_one, flat_iff]
  refine or_congr err_smbusReadByte ⟨?_, ?_⟩
  · rintro ⟨buf, d1, hread, h⟩
    obtain ⟨hfault, rfl, rfl⟩ := ok_smbusReadByte.mp hread
    split at h
    · rename_i hflat
      obtain ⟨rfl, rfl⟩ := err_fail.mp h
      exact .inl ⟨hfault, hflat, rfl, rfl⟩
    · rename_i hflat
      obtain ⟨hfault', rfl⟩ := err_smbusWriteByte.mp h
      exact .inr ⟨⟨hfault, hfault'⟩, hflat, passed_passed ..⟩
  · rintro (⟨hfault, hflat, rfl, rfl⟩ | ⟨⟨hfault, hfault'⟩, hflat, rfl⟩)
    · refine ⟨_, _, ok_smbusReadByte.mpr ⟨hfault, rfl, rfl⟩, ?_⟩
      rw [if_pos hflat]
      exact err_fail.mpr ⟨rfl, rfl⟩
    · refine ⟨_, _, ok_smbusReadByte.mpr ⟨hfault, rfl, rfl⟩, ?_⟩
      rw [if_neg hflat]
      exact err_smbusWriteByte.mpr ⟨hfault', (passed_passed d 1 1 _ _).symm⟩

/-! ## A transfer between the selection of its page and that of the default page -/

/-- The modules once the page has been selected and the first transactions have been made. -/
def Qsfp.reached (q : Qsfp) (page : Int) {α : Type} (b : Burst α) (a : BitVec 16) (k : Nat)
    (slaves : BitVec 16 → Eeprom) : BitVec 16 → Eeprom :=
  Function.update (q.paged page slaves) a (b.mem k (q.paged page slaves a))

variable {α : Type} {b : Burst α} {r : Option α}

/-- The selection of the default page from operation `n` on succeeds. -/
def Qsfp.RestoresAt (q : Qsfp) (d : State) (n : Nat) (slaves : BitVec 16 → Eeprom) : Prop :=
  d.fault (d.time + n) = none ∧ d.fault (d.time + n + 1) = none ∧ ¬q.Flat slaves

/-- The page is selected, the transfer is made, and the default page is selected again. -/
def Qsfp.Completes (q : Qsfp) (page : Int) (b : Burst α) (a : BitVec 16) (d : State) : Prop :=
  ¬q.Flat d.hw.slaves ∧ d.Clear (2 + b.size) ∧
    q.RestoresAt d (2 + b.size) (q.reached page b a b.size d.hw.slaves)

/-- A transaction of the selection or of the transfer fails, and the default page is selected after it. -/
def Qsfp.Masks (q : Qsfp) (page : Int) (b : Burst α) (a : BitVec 16) (d : State) : Prop :=
  ¬q.Flat d.hw.slaves ∧ ∃ k < 2 + b.size, ∃ e, d.FailsAt k e ∧ (k < 2 → e ≠ .enotsup) ∧
    q.RestoresAt d (k + 1) (q.reached page b a (k - 2) d.hw.slaves)

theorem reached_zero (slaves : BitVec 16 → Eeprom) : q.reached page b a 0 slaves = q.paged page slaves := by
  rw [Qsfp.reached, b.mem_zero, Function.update_eq_self]

theorem flat_paged (slaves : BitVec 16 → Eeprom) : q.Flat (q.paged page slaves) ↔ q.Flat slaves := by
  rw [Qsfp.Flat, Qsfp.paged, Function.update_self]
  rfl

theorem ok_restore {n : Nat} {slaves : BitVec 16 → Eeprom} :
    (∃ u d', Ok (q.pageSelect page) (d.passed n slaves) u d') ↔ q.RestoresAt d n slaves := by
  simp only [ok_pageSelect, clear_two, exists_const, exists_and_left, exists_eq, and_true, and_assoc]
  rfl

theorem ok_restore_then {β : Type} {x y : β} {n : Nat} {slaves : BitVec 16 → Eeprom} :
    (∃ d', Ok (q.pageSelect page >>= fun _ => pure x) (d.passed n slaves) y d') ↔
      q.RestoresAt d n slaves ∧ y = x := by
  simp only [← @ok_restore d q page, ok_bind, ok_pure]
  exact ⟨fun ⟨_, u, d', h, hy, _⟩ => ⟨⟨u, d', h⟩, hy⟩, fun ⟨⟨u, d', h⟩, hy⟩ => ⟨d', u, d', h, hy, rfl⟩⟩

/-- The transfer on its page, from the state that the selection of the page leaves. -/
theorem ok_transfer_then {slaves : BitVec 16 → Eeprom} :
    (∃ d', Ok (do
      let rc ← attempt (b.run a)
      q.pageSelect mediaPageDefault
      pure rc.toOption) (d.passed 2 slaves) r d') ↔
    ((d.passed 2 slaves).Clear b.size ∧
      q.RestoresAt d (2 + b.size) (Function.update slaves a (b.mem b.size (slaves a))) ∧
      r = some (b.result (slaves a))) ∨
    ∃ k < b.size, ∃ e, (d.passed 2 slaves).FailsAt k e ∧
      q.RestoresAt d (2 + k + 1) (Function.update slaves a (b.mem k (slaves a))) ∧ r = none := by
  constructor
  · rintro ⟨d', h⟩
    rcases ok_attempt_bind.mp h with ⟨x, d1, hrun, h⟩ | ⟨e, d1, hrun, h⟩
    · obtain ⟨hclear, rfl, rfl⟩ := b.ok_iff.mp hrun
      rw [passed_passed] at h
      obtain ⟨hrestore, hr⟩ := ok_restore_then.mp ⟨d', h⟩
      exact .inl ⟨hclear, hrestore, hr⟩
    · obtain ⟨k, hk, hfails, rfl⟩ := b.err_iff.mp hrun
      rw [passed_passed] at h
      obtain ⟨hrestore, hr⟩ := ok_restore_then.mp ⟨d', h⟩
      exact .inr ⟨k, hk, e, hfails, hrestore, hr⟩
  · rintro (⟨hclear, hrestore, hr⟩ | ⟨k, hk, e, hfails, hrestore, hr⟩)
    · obtain ⟨d', h⟩ := ok_restore_then.mpr ⟨hrestore, hr⟩
      rw [← passed_passed d 2 b.size slaves] at h
      exact ⟨d', ok_attempt_bind.mpr (.inl ⟨_, _, b.ok_iff.mpr ⟨hclear, rfl, rfl⟩, h⟩)⟩
    · obtain ⟨d', h⟩ := ok_restore_then.mpr ⟨hrestore, hr⟩
      rw [Nat.add_assoc, ← passed_passed d 2 (k + 1) slaves] at h
      exact ⟨d', ok_attempt_bind.mpr (.inr ⟨e, _, b.err_iff.mpr ⟨k, hk, hfails, rfl⟩, h⟩)⟩

/-- The selection of the default page after a selection that fails. -/
theorem ok_unselected (hne : e ≠ .enotsup) :
    (∃ d1, Err (q.pageSelect page) d e d1 ∧ ∃ d', Ok (do
      q.pageSelect mediaPageDefault
      pure none) d1 r d') ↔
    ¬q.Flat d.hw.slaves ∧ ∃ k < 2, d.FailsAt k e ∧ q.RestoresAt d (k + 1) d.hw.slaves ∧ r = none := by
  constructor
  · rintro ⟨d1, hselect, h⟩
    rcases err_pageSelect.mp hselect with ⟨hfails, rfl⟩ | ⟨-, -, he, -⟩ | ⟨hfails, hflat, rfl⟩
    · obtain ⟨hrestore, hr⟩ := ok_restore_then.mp h
      exact ⟨hrestore.2.2, 0, by decide, hfails, hrestore, hr⟩
    · exact absurd he hne
    · obtain ⟨hrestore, hr⟩ := ok_restore_then.mp h
      exact ⟨hflat, 1, by decide, hfails, hrestore, hr⟩
  · rintro ⟨hflat, k, hk, hfails, hrestore, hr⟩
    have h : ∃ d', Ok (q.pageSelect mediaPageDefault >>= fun _ => pure none) (d.passed (k + 1) d.hw.slaves) r d' :=
      ok_restore_then.mpr ⟨hrestore, hr⟩
    rcases Nat.lt_succ_iff_lt_or_eq.mp hk with hlt | rfl
    · obtain rfl := Nat.lt_one_iff.mp hlt
      exact ⟨_, err_pageSelect.mpr (.inl ⟨hfails, rfl⟩), h⟩
    · exact ⟨_, err_pageSelect.mpr (.inr (.inr ⟨hfails, hflat, rfl⟩)), h⟩

theorem restoresAt_unselected {n k : Nat} (hk : k < 2) :
    q.RestoresAt d n (q.reached page b a (k - 2) d.hw.slaves) ↔ q.RestoresAt d n d.hw.slaves := by
  rw [Nat.sub_eq_zero_of_le (Nat.le_of_lt hk), reached_zero, Qsfp.RestoresAt, flat_paged]
  rfl

theorem answers_transferOnPage_true : Answers (q.transferOnPage page true (b.run a)) d r ↔
    (q.Completes page b a d ∧ r = some (b.result (q.paged page d.hw.slaves a))) ∨
    (q.Masks page b a d ∧ r = none) := by
  rw [Qsfp.transferOnPage, if_pos rfl]
  constructor
  · rintro ⟨d', h⟩
    rcases ok_attempt_bind.mp h with ⟨u, d1, hselect, h⟩ | ⟨e, d1, hselect, h⟩
    · obtain ⟨hclear, hflat, rfl⟩ := ok_pageSelect.mp hselect
      rcases ok_transfer_then.mp ⟨d', h⟩ with ⟨hrest, hrestore, hr⟩ | ⟨k, hk, e, hfails, hrestore, hr⟩
      · exact .inl ⟨⟨hflat, clear_add_passed.mpr ⟨hclear, hrest⟩, hrestore⟩, hr⟩
      · refine .inr ⟨⟨hflat, 2 + k, by omega, e, failsAt_add_passed.mpr ⟨hclear, hfails⟩, by omega, ?_⟩, hr⟩
        rwa [Nat.add_sub_cancel_left]
    · by_cases hne : e = .enotsup
      · subst hne
        exact absurd h ok_fail
      · have h' : Ok (q.pageSelect mediaPageDefault >>= fun _ => pure none) d1 r d' := by
          cases e <;> first | exact absurd rfl hne | exact h
        obtain ⟨hflat, k, hk, hfails, hrestore, hr⟩ := (ok_unselected hne).mp ⟨d1, hselect, d', h'⟩
        exact .inr ⟨⟨hflat, k, by omega, e, hfails, fun _ => hne, (restoresAt_unselected hk).mpr hrestore⟩, hr⟩
  · rintro (⟨⟨hflat, hclear, hrestore⟩, hr⟩ | ⟨⟨hflat, k, hk, e, hfails, hne, hrestore⟩, hr⟩)
    · obtain ⟨hselect, hrest⟩ := (@clear_add_passed d 2 b.size (q.paged page d.hw.slaves)).mp hclear
      obtain ⟨d', h⟩ := ok_transfer_then.mpr (.inl ⟨hrest, hrestore, hr⟩)
      exact ⟨d', ok_attempt_bind.mpr (.inl ⟨(), _, ok_pageSelect.mpr ⟨hselect, hflat, rfl⟩, h⟩)⟩
    · by_cases hlt : k < 2
      · rw [restoresAt_unselected hlt] at hrestore
        obtain ⟨d1, hselect, d', h⟩ := (ok_unselected (hne hlt)).mpr ⟨hflat, k, hlt, hfails, hrestore, hr⟩
        refine ⟨d', ok_attempt_bind.mpr (.inr ⟨e, d1, hselect, ?_⟩)⟩
        have hne := hne hlt
        cases e <;> first | exact absurd rfl hne | exact h
      · obtain ⟨k, rfl⟩ := Nat.exists_eq_add_of_le (Nat.le_of_not_lt hlt)
        obtain ⟨hselect, hfails⟩ := (@failsAt_add_passed d e 2 k (q.paged page d.hw.slaves)).mp hfails
        rw [Nat.add_sub_cancel_left] at hrestore
        obtain ⟨d', h⟩ := ok_transfer_then.mpr (.inr ⟨k, by omega, e, hfails, hrestore, hr⟩)
        exact ⟨d', ok_attempt_bind.mpr (.inl ⟨(), _, ok_pageSelect.mpr ⟨hselect, hflat, rfl⟩, h⟩)⟩

theorem answers_transferOnPage_false : Answers (q.transferOnPage page false (b.run a)) d r ↔
    d.Clear b.size ∧ r = some (b.result (d.hw.slaves a)) := by
  rw [Qsfp.transferOnPage, if_neg Bool.false_ne_true, answers_bind]
  simp only [b.ok_iff, answers_pure]
  constructor
  · rintro ⟨x, d1, ⟨hclear, rfl, -⟩, hr⟩
    exact ⟨hclear, hr⟩
  · rintro ⟨hclear, hr⟩
    exact ⟨_, _, ⟨hclear, rfl, rfl⟩, hr⟩

end OpxSdi.Media
