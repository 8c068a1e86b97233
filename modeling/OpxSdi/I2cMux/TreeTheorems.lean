import OpxSdi.I2cMux.Tree

/-!
# Locks and channels in trees of I2C buses

The locks of a bus are below those of the muxes on it, so clients do not deadlock. A PCA mux is deselected after
the selection of a PCA mux on one of its channels, so that channel is not connected when it is used.
-/

namespace OpxSdi.I2cMux.Tree

open Lib I2c

/-! ## The order of the locks -/

def rank (level : Nat → Nat) : Lock → Nat
  | .bus _ => 0
  | .pcaMux _ b => 3 * (b.depth + 1)
  | .pinMux _ b _ => 3 * (b.depth + 1) + 1
  | .pinGroup g => 3 * level g

/-- The locks of a client with the locks `S` once it has the bus. -/
def Bus.hold : Bus → (Lock → Bool) → Lock → Bool
  | smbus busId, S => Function.update S (.bus busId) true
  | pca mux b _ _, S => Function.update S (.pcaMux mux b) true
  | pin mux b g _, S => b.hold (Function.update (Function.update S (.pinMux mux b g) true) (.pinGroup g) true)

variable {level : Nat → Nat} {b : Bus} {S : Lock → Bool} {ops : BusOps}

/-- All locks are of muxes on the bus or further down. -/
def Below (level : Nat → Nat) (depth : Nat) (S : Lock → Bool) : Prop := ∀ l, S l = true → 3 * (depth + 1) ≤ rank level l

theorem below_none (level : Nat → Nat) (depth : Nat) : Below level depth fun _ => false :=
  fun _ hl => (Bool.false_ne_true hl).elim

theorem Below.update {d : Nat} (h : Below level d S) {l : Lock} (hl : 3 * (d + 1) ≤ rank level l) :
    Below level d (Function.update S l true) := by
  intro l' hl'
  by_cases heq : l' = l
  · exact heq ▸ hl
  · rw [Function.update_of_ne heq] at hl'
    exact h l' hl'

theorem Below.not_mem {d : Nat} (h : Below level d S) {l : Lock} (hl : rank level l < 3 * (d + 1)) : S l = false := by
  by_contra hS
  have hle := h l (by simpa using hS)
  omega

theorem Below.mono {d d' : Nat} (h : Below level d S) (hle : d' ≤ d) : Below level d' S := by
  intro l hl
  have := h l hl
  omega

theorem update_restore {l : Lock} (h : S l = false) : Function.update (Function.update S l true) l false = S := by
  rw [Function.update_idem, ← h, Function.update_eq_self]

/-- A failed acquisition gives back what it has taken. -/
def Left (hold : (Lock → Bool) → Lock → Bool) (S : Lock → Bool) : Except Errno Unit → (Lock → Bool) → Prop
  | .ok _, S' => S' = hold S
  | .error _, S' => S' = S

/-- The operations of a bus at a depth take their locks in order. -/
structure Disciplined (level : Nat → Nat) (depth : Nat) (hold : (Lock → Bool) → Lock → Bool) (ops : BusOps) : Prop where
  acquireBus : ∀ S, Below level depth S → ops.acquireBus.Descends (rank level) (Left hold S) S
  smbusExecute : ∀ transfer S, (ops.smbusExecute transfer).Descends (rank level) (fun _ S' => S' = S) S
  releaseBus : ∀ S, Below level depth S → ops.releaseBus.Descends (rank level) (fun _ S' => S' = S) (hold S)

section

variable {α : Type} {Q : α → (Lock → Bool) → Prop}

theorem descends_lock {l : Lock} {f : Except Errno Unit → P α} (hl : ∀ l', S l' = true → rank level l < rank level l')
    (herror : ∀ e, (f (.error e)).Descends (rank level) Q S)
    (hok : (f (.ok ())).Descends (rank level) Q (Function.update S l true)) :
    (stdMutexLock l >>= f).Descends (rank level) Q S := ⟨hl, herror, hok⟩

theorem descends_set {c : Cell} {v : BitVec 32} {f : Except Errno Unit → P α}
    (h : ∀ r, (f r).Descends (rank level) Q S) : (Prog.set c v .ret >>= f : P α).Descends (rank level) Q S := h

end

section

variable {d : Nat} {hold : (Lock → Bool) → Lock → Bool}

theorem Disciplined.writeByte (h : Disciplined level d hold ops) (a : I2cAddr) (v : Byte) (hS : Below level d S) :
    (smbusWriteByte ops a v).Descends (rank level) (fun _ S' => S' = S) S := by
  refine Prog.Descends.bind (h.acquireBus S hS) fun r S' hr => ?_
  cases r with
  | error e => exact hr
  | ok _ =>
      refine Prog.Descends.bind (h.smbusExecute _ S') fun error S'' hS'' => ?_
      have hheld : S'' = hold S := hS''.trans hr
      rw [hheld]
      exact Prog.Descends.bind (h.releaseBus S hS) fun _ _ hS' => hS'

theorem disciplined_i2cdev (busId : Nat) :
    Disciplined level 0 (fun S => Function.update S (.bus busId) true) (i2cdevOps busId) where
  acquireBus S hS := ⟨fun l hl => by have := hS l hl; change 0 < _; omega, fun _ => rfl, rfl⟩
  smbusExecute _ _ _ := rfl
  releaseBus S hS := ⟨Function.update_self .., update_restore (hS.not_mem (by change 0 < _; omega))⟩

theorem Disciplined.pca (h : Disciplined level d hold ops) {muxLock : Lock}
    (hlock : rank level muxLock = 3 * (d + 1)) (a : I2cAddr) (v : BitVec 32) :
    Disciplined level (d + 1) (fun S => Function.update S muxLock true) (i2cmuxPcaOps muxLock ops a v) where
  acquireBus S hS := by
    have hfree : S muxLock = false := hS.not_mem (by omega)
    refine descends_lock (fun l hl => by have := hS l hl; omega) (fun _ => rfl) ?_
    refine Prog.Descends.bind (h.writeByte a _ ((hS.mono (Nat.le_succ d)).update (Nat.le_of_eq hlock.symm))) fun r S' hr => ?_
    cases r with
    | error e => exact ⟨by rw [hr]; exact Function.update_self .., by rw [hr]; exact update_restore hfree⟩
    | ok _ => exact hr
  smbusExecute := h.smbusExecute
  releaseBus S hS := by
    have hfree : S muxLock = false := hS.not_mem (by omega)
    refine Prog.Descends.bind (h.writeByte a 0 ((hS.mono (Nat.le_succ d)).update (Nat.le_of_eq hlock.symm))) fun r S' hr => ?_
    rw [hr]
    exact ⟨Function.update_self .., update_restore hfree⟩

/-- A selection that fails has taken the pin group if it says so. -/
def SelectLeft (hold : (Lock → Bool) → Lock → Bool) (S : Lock → Bool) (g : Nat) :
    Except Errno Unit × Bool → (Lock → Bool) → Prop
  | (.ok _, _), S' => S' = hold (Function.update S (.pinGroup g) true)
  | (.error _, true), S' => S' = Function.update S (.pinGroup g) true
  | (.error _, false), S' => S' = S

theorem Disciplined.select (h : Disciplined level d hold ops) {g : Nat} (hlevel : level g = d + 1) (c : BitVec 32)
    (hS : ∀ l, S l = true → 3 * (d + 1) < rank level l) :
    (pinChanSelect ops g c).Descends (rank level) (SelectLeft hold S g) S := by
  have hrank : rank level (.pinGroup g) = 3 * (d + 1) := by rw [rank, hlevel]
  have hbelow : Below level d (Function.update S (.pinGroup g) true) :=
    Below.update (fun l hl => Nat.le_of_lt (hS l hl)) (Nat.le_of_eq hrank.symm)
  refine descends_lock (fun l hl => hrank ▸ hS l hl) (fun _ => rfl) (descends_set fun r => ?_)
  cases r with
  | error e => rfl
  | ok _ =>
      refine Prog.Descends.bind (h.acquireBus _ hbelow) fun r S' hr => ?_
      cases r with
      | error e => exact hr
      | ok _ => exact hr

theorem Disciplined.pin (h : Disciplined level d hold ops) {muxLock : Lock} {g : Nat}
    (hlock : rank level muxLock = 3 * (d + 1) + 1) (hlevel : level g = d + 1) (c : BitVec 32) :
    Disciplined level (d + 1)
      (fun S => hold (Function.update (Function.update S muxLock true) (.pinGroup g) true)) (i2cmuxPinOps muxLock ops g c) := by
  have hrank : rank level (.pinGroup g) = 3 * (d + 1) := by rw [rank, hlevel]
  have hne : Lock.pinGroup g ≠ muxLock := by
    rintro rfl
    omega
  have hfree : ∀ {S}, Below level (d + 1) S → S muxLock = false := fun hS => hS.not_mem (by omega)
  have hgroup : ∀ {S}, Below level (d + 1) S → (Function.update S muxLock true) (.pinGroup g) = false := fun hS => by
    rw [Function.update_of_ne hne]
    exact hS.not_mem (by omega)
  have habove : ∀ {S}, Below level (d + 1) S → ∀ l, (Function.update S muxLock true) l = true →
      3 * (d + 1) < rank level l := fun hS l hl => by
    by_cases heq : l = muxLock
    · rw [heq, hlock]
      exact Nat.lt_succ_self _
    · rw [Function.update_of_ne heq] at hl
      have := hS l hl
      omega
  refine ⟨fun S hS => ?_, h.smbusExecute, fun S hS => ?_⟩
  · refine descends_lock (fun l hl => by have := hS l hl; omega) (fun _ => rfl) ?_
    refine Prog.Descends.bind (h.select hlevel c (habove hS)) fun r S' hr => ?_
    obtain ⟨r, acquired⟩ := r
    cases r with
    | ok _ => exact hr
    | error e =>
        cases acquired with
        | true =>
            rw [hr]
            refine ⟨Function.update_self .., ?_⟩
            rw [update_restore (hgroup hS)]
            exact ⟨Function.update_self .., update_restore (hfree hS)⟩
        | false =>
            rw [hr]
            exact ⟨Function.update_self .., update_restore (hfree hS)⟩
  · have hbelow : Below level d (Function.update (Function.update S muxLock true) (.pinGroup g) true) :=
      Below.update (fun l hl => Nat.le_of_lt (habove hS l hl)) (Nat.le_of_eq hrank.symm)
    refine Prog.Descends.bind (h.releaseBus _ hbelow) fun _ S' hS' => ?_
    rw [hS']
    refine ⟨Function.update_self .., ?_⟩
    rw [update_restore (hgroup hS)]
    exact ⟨Function.update_self .., update_restore (hfree hS)⟩

end

theorem disciplined (b : Bus) (hb : b.Levelled level) : Disciplined level b.depth b.hold b.ops := by
  induction b with
  | smbus busId => exact disciplined_i2cdev busId
  | pca mux b a v ih => exact (ih hb).pca rfl a v
  | pin mux b g c ih => exact (ih hb.2).pin rfl hb.1 c

theorem busService_ordered (level : Nat → Nat) :
    (busService level).Ordered (rank level) fun c => c.bus.hold fun _ => false where
  acquire c := ((disciplined c.bus c.levelled).acquireBus _ (below_none level c.bus.depth)).mono fun r S h => by
    cases r <;> exact h
  execute c := (disciplined c.bus c.levelled).smbusExecute c.transfer _
  release c := (disciplined c.bus c.levelled).releaseBus _ (below_none level c.bus.depth)

/-- In every interleaving of clients of the buses of a tree, whichever locks and transactions fail, a client that
waits for a lock waits, perhaps through others, for a client that does not wait. -/
theorem buses_never_deadlock {T : Type} [DecidableEq T] (level : Nat → Nat) (cell : Cell → BitVec 32)
    (moves : List (T × Act (Client level) Errno)) {t u : T}
    (hblocked : Service.BlockedBy (run (busService level).step (Service.start cell) moves) t u) :
    ∃ v, Relation.TransGen (Service.BlockedBy (run (busService level).step (Service.start cell) moves)) t v ∧
      ∀ x, ¬Service.BlockedBy (run (busService level).step (Service.start cell) moves) v x :=
  (busService_ordered level).no_deadlock cell moves hblocked

/-- A PCA mux on a channel of a pin mux. -/
def pcaOnPin : Client fun _ => 1 where
  bus := .pca 1 (.pin 0 (.smbus 0) 7 2) ⟨0x70, false⟩ 4
  levelled := ⟨rfl, trivial⟩
  transfer := ⟨⟨0x50, false⟩, 0⟩

theorem pcaOnPin_waits :
    ∃ v, Relation.TransGen (Service.BlockedBy (run (busService fun _ => 1).step (Service.start fun _ => 0)
        [(0, .acquire pcaOnPin), (0, .go none), (1, .acquire pcaOnPin)])) (1 : Fin 2) v ∧
      ∀ x, ¬Service.BlockedBy (run (busService fun _ => 1).step (Service.start fun _ => 0)
        [(0, .acquire pcaOnPin), (0, .go none), (1, .acquire pcaOnPin)]) v x :=
  buses_never_deadlock _ _ _ (u := 0) ⟨.pcaMux 1 (.pin 0 (.smbus 0) 7 2), rfl, rfl⟩

/-! ## The channel that is connected -/

namespace Bus

/-- The pin groups of the muxes on the way to the root have the levels of the channel. -/
def LevelsSet (pins : Nat → BitVec 32) : Bus → Prop
  | smbus _ => True
  | pca _ b _ _ => b.LevelsSet pins
  | pin _ b g c => pins g = c ∧ b.LevelsSet pins

/-- The PCA mux next to the root connects no channel. -/
def Cleared (hw : Hardware) : Bus → Prop
  | smbus _ => True
  | pca _ b a _ => if b.pcas = 0 then hw.register b a = 0 else b.Cleared hw
  | pin _ b _ _ => b.Cleared hw

variable {b : Bus} {hw hw' : Hardware}

theorem connected_of_levelsSet (b : Bus) (hpcas : b.pcas = 0) (h : b.LevelsSet hw.level) : b.connected hw = true := by
  induction b with
  | smbus busId => rfl
  | pca mux b a v ih => cases hpcas
  | pin mux b g c ih => simp [connected, ih hpcas h.2, h.1]

theorem Cleared.not_connected (b : Bus) (hpcas : 1 ≤ b.pcas) (h : b.Cleared hw) : b.connected hw = false := by
  induction b with
  | smbus busId => cases hpcas
  | pin mux b g c ih => simp [connected, ih hpcas h]
  | pca mux b a v ih =>
      by_cases hzero : b.pcas = 0
      · rw [Cleared, if_pos hzero] at h
        by_cases hv : v.setWidth 8 = 0#8
        · simp [connected, hv]
        · simp [connected, h, Ne.symm hv]
      · rw [Cleared, if_neg hzero] at h
        simp [connected, ih (Nat.one_le_iff_ne_zero.mpr hzero) h]

/-! ### What the operations do -/

structure Acquired (level : Nat → Nat) (b : Bus) (hw hw' : Hardware) : Prop where
  frame : ∀ g, b.depth < level g → hw'.level g = hw.level g
  levelsSet : b.LevelsSet hw'.level
  register : b.pcas = 0 → hw'.register = hw.register
  connected : b.pcas = 1 → b.connected hw' = true
  cleared : 2 ≤ b.pcas → b.Cleared hw'

structure Released (level : Nat → Nat) (b : Bus) (hw hw' : Hardware) : Prop where
  frame : ∀ g, b.depth < level g → hw'.level g = hw.level g
  levelsSet : b.LevelsSet hw'.level
  register : b.pcas = 0 → hw'.register = hw.register
  cleared : 1 ≤ b.pcas → b.Cleared hw'

structure Written (level : Nat → Nat) (b : Bus) (a : I2cAddr) (v : Byte) (hw hw' : Hardware) : Prop where
  frame : ∀ g, b.depth < level g → hw'.level g = hw.level g
  levelsSet : b.LevelsSet hw'.level
  register : b.pcas = 0 → hw'.register b a = v
  cleared : 1 ≤ b.pcas → b.Cleared hw'

/-- What the operations of the bus do when they run alone, and nothing fails. -/
structure Works (level : Nat → Nat) (b : Bus) : Prop where
  acquireBus : ∀ S hw, Below level b.depth S → ∃ hw',
    b.ops.acquireBus.soloOn Hardware.write S hw = some (.ok (), b.hold S, hw') ∧ b.Acquired level hw hw'
  releaseBus : ∀ S hw, Below level b.depth S → b.LevelsSet hw.level → ∃ hw',
    b.ops.releaseBus.soloOn Hardware.write (b.hold S) hw = some ((), S, hw') ∧ b.Released level hw hw'

theorem smbusExecute_solo (b : Bus) (transfer : Transfer) (S : Lock → Bool) (hw : Hardware) :
    (b.ops.smbusExecute transfer).soloOn Hardware.write S hw =
      some (.ok (), S, hw.write (.slave b.root transfer.i2cAddr) (transfer.buffer.setWidth 32)) := by
  induction b with
  | smbus busId => rfl
  | pca mux b a v ih => exact ih
  | pin mux b g c ih => exact ih

theorem solo_lock {α : Type} {l : Lock} {f : Except Errno Unit → P α} {S : Lock → Bool} (hfree : S l = false) :
    (stdMutexLock l >>= f).soloOn Hardware.write S hw =
      (f (.ok ())).soloOn Hardware.write (Function.update S l true) hw := by
  refine Prog.soloOn_bind ?_
  simp [stdMutexLock, Prog.soloOn, hfree]

theorem solo_unlock {α : Type} {l : Lock} {f : Unit → P α} {S : Lock → Bool} :
    (stdMutexUnlock l >>= f).soloOn Hardware.write S hw = (f ()).soloOn Hardware.write (Function.update S l false) hw := rfl

theorem solo_set {α : Type} {c : Cell} {v : BitVec 32} {f : Except Errno Unit → P α} {S : Lock → Bool} :
    (Prog.set c v .ret >>= f : P α).soloOn Hardware.write S hw = (f (.ok ())).soloOn Hardware.write S (hw.write c v) := rfl

theorem Works.writeByte (h : b.Works level) {S : Lock → Bool} (hS : Below level b.depth S) (a : I2cAddr) (v : Byte)
    (hw : Hardware) : ∃ hw', (smbusWriteByte b.ops a v).soloOn Hardware.write S hw = some (.ok (), S, hw') ∧
      b.Written level a v hw hw' := by
  obtain ⟨hw₁, hacquire, h₁⟩ := h.acquireBus S hw hS
  obtain ⟨hw₃, hrelease, h₃⟩ := h.releaseBus S (hw₁.write (.slave b.root a) (v.setWidth 32)) hS h₁.levelsSet
  refine ⟨hw₃, ?_, fun g hg => (h₃.frame g hg).trans (h₁.frame g hg), h₃.levelsSet, fun hpcas => ?_, h₃.cleared⟩
  · rw [smbusWriteByte, Prog.soloOn_bind hacquire]
    change (_ >>= _ : P _).soloOn _ _ _ = _
    rw [Prog.soloOn_bind (smbusExecute_solo b ⟨a, v⟩ _ _), Prog.soloOn_bind hrelease]
    rfl
  · have hconnected : b.connected hw₁ = true := connected_of_levelsSet b hpcas h₁.levelsSet
    rw [h₃.register hpcas]
    simp [Hardware.write, hconnected]

theorem works_smbus (busId : Nat) : (smbus busId).Works level where
  acquireBus S hw hS := by
    refine ⟨hw, ?_, fun _ _ => rfl, trivial, fun _ => rfl, fun _ => rfl, fun h => by cases h⟩
    have hfree : S (.bus busId) = false := hS.not_mem (by change 0 < _; omega)
    simp [ops, i2cdevOps, stdMutexLock, Prog.soloOn, hfree, hold]
  releaseBus S hw hS _ := by
    refine ⟨hw, ?_, fun _ _ => rfl, trivial, fun _ => rfl, fun h => by cases h⟩
    have hfree : S (.bus busId) = false := hS.not_mem (by change 0 < _; omega)
    simp only [ops, i2cdevOps, stdMutexUnlock, Prog.soloOn, hold, update_restore hfree]

theorem Works.pca (h : b.Works level) (mux : Nat) (a : I2cAddr) {v : BitVec 32} (hv : v.setWidth 8 ≠ 0#8) :
    (Bus.pca mux b a v).Works level where
  acquireBus S hw hS := by
    have hfree : S (.pcaMux mux b) = false := hS.not_mem (by simp only [rank, depth]; omega)
    have hbelow : Below level b.depth (Function.update S (.pcaMux mux b) true) :=
      (hS.mono (Nat.le_succ _)).update (Nat.le_refl _)
    obtain ⟨hw', hwrite, h'⟩ := h.writeByte hbelow a (v.setWidth 8) hw
    refine ⟨hw', ?_, fun g hg => h'.frame g (Nat.lt_of_succ_lt hg), h'.levelsSet, fun hpcas => (by cases hpcas),
      fun hpcas => ?_, fun hpcas => ?_⟩
    · rw [ops, i2cmuxPcaOps, solo_lock hfree]
      change (_ >>= _ : P _).soloOn _ _ _ = _
      rw [Prog.soloOn_bind hwrite]
      rfl
    · have hzero : b.pcas = 0 := Nat.succ.inj hpcas
      simp [connected, connected_of_levelsSet b hzero h'.levelsSet, h'.register hzero, hv]
    · have hone : 1 ≤ b.pcas := Nat.le_of_succ_le_succ hpcas
      rw [Cleared, if_neg (Nat.one_le_iff_ne_zero.mp hone)]
      exact h'.cleared hone
  releaseBus S hw hS _ := by
    have hfree : S (.pcaMux mux b) = false := hS.not_mem (by simp only [rank, depth]; omega)
    have hbelow : Below level b.depth (Function.update S (.pcaMux mux b) true) :=
      (hS.mono (Nat.le_succ _)).update (Nat.le_refl _)
    obtain ⟨hw', hwrite, h'⟩ := h.writeByte hbelow a 0 hw
    refine ⟨hw', ?_, fun g hg => h'.frame g (Nat.lt_of_succ_lt hg), h'.levelsSet, fun hpcas => (by cases hpcas),
      fun hpcas => ?_⟩
    · rw [ops, i2cmuxPcaOps, hold]
      change (_ >>= _ : P _).soloOn _ _ _ = _
      rw [Prog.soloOn_bind hwrite]
      simp only [stdMutexUnlock, Prog.soloOn, update_restore hfree]
    · by_cases hzero : b.pcas = 0
      · rw [Cleared, if_pos hzero]
        exact h'.register hzero
      · rw [Cleared, if_neg hzero]
        exact h'.cleared (Nat.one_le_iff_ne_zero.mpr hzero)

theorem Works.pin (h : b.Works level) (mux : Nat) {g : Nat} (c : BitVec 32) (hlevel : level g = b.depth + 1) :
    (Bus.pin mux b g c).Works level := by
  have hrank : rank level (.pinGroup g) = 3 * (b.depth + 1) := by rw [rank, hlevel]
  have hmux : ∀ {S}, Below level (b.depth + 1) S → S (.pinMux mux b g) = false := fun hS =>
    hS.not_mem (by simp only [rank]; omega)
  have hgroup : ∀ {S}, Below level (b.depth + 1) S → (Function.update S (.pinMux mux b g) true) (.pinGroup g) = false :=
    fun hS => by
      rw [Function.update_of_ne (by simp)]
      exact hS.not_mem (by omega)
  have hbelow : ∀ {S}, Below level (b.depth + 1) S →
      Below level b.depth (Function.update (Function.update S (.pinMux mux b g) true) (.pinGroup g) true) := fun hS =>
    ((hS.mono (Nat.le_succ _)).update (by simp only [rank]; omega)).update (Nat.le_of_eq hrank.symm)
  constructor
  · intro S hw hS
    obtain ⟨hw', hacquire, h'⟩ := h.acquireBus _ (hw.write (.level g) c) (hbelow hS)
    have hset : hw'.level g = c := (h'.frame g (by omega)).trans (by simp [Hardware.write])
    refine ⟨hw', ?_, fun g' hg => ?_, ⟨hset, h'.levelsSet⟩, h'.register, fun hpcas => ?_, h'.cleared⟩
    · have hselect : (pinChanSelect b.ops g c).soloOn Hardware.write (Function.update S (.pinMux mux b g) true) hw =
          some ((.ok (), true), b.hold (Function.update (Function.update S (.pinMux mux b g) true) (.pinGroup g) true), hw') := by
        rw [pinChanSelect, solo_lock (hgroup hS)]
        change (Prog.set _ _ .ret >>= _ : P _).soloOn _ _ _ = _
        rw [solo_set]
        change (_ >>= _ : P _).soloOn _ _ _ = _
        rw [Prog.soloOn_bind hacquire]
        rfl
      rw [ops, i2cmuxPinOps, solo_lock (hmux hS)]
      change (_ >>= _ : P _).soloOn _ _ _ = _
      rw [Prog.soloOn_bind hselect]
      rfl
    · have hne : g' ≠ g := by
        rintro rfl
        simp only [depth] at hg
        omega
      exact (h'.frame g' (Nat.lt_of_succ_lt hg)).trans (by simp [Hardware.write, hne])
    · simp [connected, h'.connected hpcas, hset]
  · intro S hw hS hlevels
    obtain ⟨hw', hrelease, h'⟩ := h.releaseBus _ hw (hbelow hS) hlevels.2
    refine ⟨hw', ?_, fun g' hg => h'.frame g' (Nat.lt_of_succ_lt hg),
      ⟨(h'.frame g (by omega)).trans hlevels.1, h'.levelsSet⟩, h'.register, h'.cleared⟩
    rw [ops, i2cmuxPinOps, hold]
    change (_ >>= _ : P _).soloOn _ _ _ = _
    rw [Prog.soloOn_bind hrelease]
    rw [solo_unlock, update_restore (hgroup hS)]
    simp only [stdMutexUnlock, Prog.soloOn, update_restore (hmux hS)]

theorem works (b : Bus) (hlevelled : b.Levelled level) (hselects : b.Selects) : b.Works level := by
  induction b with
  | smbus busId => exact works_smbus busId
  | pca mux b a v ih => exact (ih hlevelled hselects.2).pca mux a hselects.1
  | pin mux b g c ih => exact (ih hlevelled.2 hselects).pin mux c hlevelled.1

end Bus

/-- A client that acquires a bus alone, when no lock is taken and nothing fails, has the bus with its channel
connected to the root if and only if there is at most one PCA mux between them. -/
theorem channel_connected_iff (level : Nat → Nat) (b : Bus) (hlevelled : b.Levelled level) (hselects : b.Selects)
    (hw : Hardware) : ∃ hw', b.ops.acquireBus.soloOn Hardware.write (fun _ => false) hw =
        some (.ok (), b.hold fun _ => false, hw') ∧ (b.connected hw' = true ↔ b.pcas ≤ 1) := by
  obtain ⟨hw', hacquire, h'⟩ := (Bus.works b hlevelled hselects).acquireBus _ hw (below_none level b.depth)
  refine ⟨hw', hacquire, fun hconnected => ?_, fun hpcas => ?_⟩
  · by_contra hpcas
    have htwo : 2 ≤ b.pcas := by omega
    rw [Bus.Cleared.not_connected b (Nat.le_of_lt htwo) (h'.cleared htwo)] at hconnected
    cases hconnected
  · by_cases hzero : b.pcas = 0
    · exact Bus.connected_of_levelsSet b hzero h'.levelsSet
    · exact h'.connected (by omega)

/-- A PCA mux on a channel of a PCA mux. -/
def pcaOnPca : Bus := .pca 1 (.pca 0 (.smbus 0) ⟨0x70, false⟩ 1) ⟨0x71, false⟩ 1

theorem pcaOnPca_connected_iff :
    ∃ hw', pcaOnPca.ops.acquireBus.soloOn Hardware.write (fun _ => false) ⟨fun _ _ => 0, fun _ => 0⟩ =
      some (.ok (), pcaOnPca.hold fun _ => false, hw') ∧ (pcaOnPca.connected hw' = true ↔ pcaOnPca.pcas ≤ 1) :=
  channel_connected_iff (fun _ => 0) pcaOnPca trivial ⟨by decide, by decide, trivial⟩ _

end OpxSdi.I2cMux.Tree
