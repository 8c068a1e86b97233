import OpxSdi.Cpld.PinGroup
import OpxSdi.Entity.Presence
import OpxSdi.Gpio.PinGroup
import OpxSdi.Lib.Bits
import OpxSdi.Lib.Locked

/-!
# CPLD pins (`sdi_cpld_pin.c`, `sdi_pin_bus_api.c`)

A pin is a bit of a register that is read and written as a byte. Every pin bus has a mutex of its own, and a
write to a pin reads the register of the pin and writes it back.
-/

namespace OpxSdi.Cpld

open Lib
open Entity (PinLevel)
open Gpio (PinBusDirection)

inductive BusOp
  | readByte (addr : BitVec 32)
  | writeByte (addr : BitVec 32) (buffer : Byte)

def BusOp.Resp : BusOp → Type
  | .readByte _ => Byte
  | .writeByte _ _ => Unit

def cpldRegisters : Registers BusOp BusOp.Resp (BitVec 32) Byte where
  loc
    | .readByte addr => addr
    | .writeByte addr _ => addr
  exec
    | .readByte _, v => (v, v)
    | .writeByte _ buffer, _ => ((), buffer)

abbrev PinM := ExceptT Errno (Access BusOp BusOp.Resp Errno)

def busReadByte (addr : BitVec 32) : PinM Byte := Access.call (BusOp.readByte addr)

def busWriteByte (addr : BitVec 32) (buffer : Byte) : PinM Unit := Access.call (BusOp.writeByte addr buffer)

/-- `sdi_cpld_pin_t` -/
structure CpldPin where
  addr : BitVec 32
  offset : Fin 8
  defaultDirection : PinBusDirection
  defaultPolarity : PinPolarity

namespace CpldPin

variable (pin : CpldPin)

def bit : Byte := (1 : Byte) <<< pin.offset.val

/-- The level of the pin in its register. -/
def level (buffer : Byte) : PinLevel :=
  if buffer &&& pin.bit ≠ 0#8 then if pin.defaultPolarity = .normal then .high else .low
  else if pin.defaultPolarity = .normal then .low else .high

/-- The register with the level of the pin. -/
def withLevel (value : PinLevel) (buffer : Byte) : Byte :=
  if pin.defaultPolarity = .normal then
    if value = .high then buffer ||| pin.bit else buffer &&& ~~~pin.bit
  else if value = .high then buffer &&& ~~~pin.bit else buffer ||| pin.bit

def cpldPinReadLevel : PinM PinLevel := do
  let buffer ← busReadByte pin.addr
  return pin.level buffer

def cpldPinWriteLevel (value : PinLevel) : PinM Unit := do
  if pin.defaultDirection = .input then throw .enotsup
  let buffer ← busReadByte pin.addr
  busWriteByte pin.addr (pin.withLevel value buffer)

end CpldPin

/-! ## Calls on the pin buses -/

inductive PinCall (ι : Type)
  | readLevel (bus : ι)
  | writeLevel (bus : ι) (value : PinLevel)
  deriving DecidableEq, Repr

inductive PinResult
  | level (r : Except Errno PinLevel)
  | written (r : Except Errno Unit)

/-- `sdi_pin_read_level` and `sdi_pin_write_level`, each with the mutex of its bus. -/
def pinCall {ι : Type} (pins : ι → CpldPin) : PinCall ι → LockedCall ι BusOp BusOp.Resp Errno PinResult
  | .readLevel bus =>
      { lock := bus
        body := (pins bus).cpldPinReadLevel.run.bind fun r => .ret (.level r)
        refused := fun e => .level (.error e) }
  | .writeLevel bus value =>
      { lock := bus
        body := ((pins bus).cpldPinWriteLevel value).run.bind fun r => .ret (.written r)
        refused := fun e => .written (.error e) }

abbrev PinSystem (ι : Type) :=
  LockedSystem Nat (PinCall ι) ι (BitVec 32) Byte BusOp BusOp.Resp Errno PinResult

/-! ## What the pins are for -/

section

variable {ι : Type} [DecidableEq ι] (pins : ι → CpldPin)

/-- The level that a call leaves a pin on. -/
def setBy (bus : ι) (level : PinLevel) : PinCall ι × PinResult → PinLevel
  | (.writeLevel bus' value, .written (.ok ())) => if bus' = bus then value else level
  | _ => level

/-- Every read of a pin that succeeds returns the level that the calls which have returned before have left it on. -/
def ReadsLastSet (d : BitVec 32 → Byte) (calls : List (PinCall ι × PinResult)) : Prop :=
  ∀ bus, Along (setBy bus) (fun level c => ∀ v, c = (.readLevel bus, .level (.ok v)) → v = level)
    ((pins bus).level (d (pins bus).addr)) calls

def runPins (d : BitVec 32 → Byte) (events : List (CallEvent Nat (PinCall ι) Errno)) : PinSystem ι :=
  run (LockedSystem.step cpldRegisters (pinCall pins)) (.start d) events

/-- No two pins are bits of one register. -/
def Separate : Prop := Function.Injective fun bus => (pins bus).addr

end

/-! ## Bits of a register -/

namespace CpldPin

variable (pin : CpldPin)

theorem and_bit (buffer : Byte) : buffer &&& pin.bit = 0#8 ↔ buffer.getLsbD pin.offset = false :=
  and_one_shiftLeft_eq_zero pin.offset.isLt

theorem getLsbD_bit (k : Nat) : pin.bit.getLsbD k = decide (k = pin.offset) := by
  rw [bit, getLsbD_one_shiftLeft]
  have := pin.offset.isLt
  by_cases h : k = pin.offset
  · simp [h]
  · simp [h]

theorem or_bit_and_bit (buffer : Byte) : (buffer ||| pin.bit) &&& pin.bit ≠ 0#8 := fun h => by
  rw [and_bit, BitVec.getLsbD_or, getLsbD_bit, decide_eq_true rfl, Bool.or_true] at h
  cases h

theorem and_not_bit_and_bit (buffer : Byte) : buffer &&& ~~~pin.bit &&& pin.bit = 0#8 := by
  rw [and_bit, BitVec.getLsbD_and, BitVec.getLsbD_not, getLsbD_bit, decide_eq_true rfl, Bool.not_true,
    Bool.and_false, Bool.and_false]

theorem or_bit_of_set {buffer : Byte} (h : buffer.getLsbD pin.offset = true) : buffer ||| pin.bit = buffer := by
  refine BitVec.eq_of_getLsbD_eq fun k _ => ?_
  rw [BitVec.getLsbD_or, getLsbD_bit]
  by_cases hk : k = pin.offset
  · rw [hk, h, Bool.true_or]
  · rw [decide_eq_false hk, Bool.or_false]

theorem and_not_bit_of_clear {buffer : Byte} (h : buffer.getLsbD pin.offset = false) :
    buffer &&& ~~~pin.bit = buffer := by
  refine BitVec.eq_of_getLsbD_eq fun k hlt => ?_
  rw [BitVec.getLsbD_and, BitVec.getLsbD_not, getLsbD_bit, decide_eq_true hlt, Bool.true_and]
  by_cases hk : k = pin.offset
  · rw [hk, h, Bool.false_and]
  · rw [decide_eq_false hk, Bool.not_false, Bool.and_true]

@[simp] theorem level_withLevel (value : PinLevel) (buffer : Byte) :
    pin.level (pin.withLevel value buffer) = value := by
  unfold level withLevel
  cases pin.defaultPolarity <;> cases value <;>
    simp [or_bit_and_bit, and_not_bit_and_bit]

/-- A write of the level that the pin has changes nothing. -/
@[simp] theorem withLevel_level (buffer : Byte) : pin.withLevel (pin.level buffer) buffer = buffer := by
  unfold level withLevel
  cases hbit : buffer.getLsbD pin.offset with
  | false =>
      have hand := (pin.and_bit buffer).mpr hbit
      cases hpol : pin.defaultPolarity <;> simp [hand, pin.and_not_bit_of_clear hbit]
  | true =>
      have hand : buffer &&& pin.bit ≠ 0#8 := fun h => by
        rw [pin.and_bit, hbit] at h
        cases h
      cases hpol : pin.defaultPolarity <;> simp [hand, pin.or_bit_of_set hbit]

end CpldPin

/-! ## What one call does -/

section

variable {d d' : BitVec 32 → Byte}

theorem does_busReadByte {addr : BitVec 32} {r : Except Errno Byte}
    (h : (busReadByte addr).run.Does cpldRegisters d r d') :
    (∃ e, r = .error e ∧ d' = d) ∨ r = .ok (d addr) ∧ d' = d := by
  obtain h | ⟨rfl, rfl⟩ := Access.does_call.mp h
  · exact .inl h
  · exact .inr ⟨rfl, Function.update_eq_self addr d⟩

theorem does_busWriteByte {addr : BitVec 32} {buffer : Byte} {r : Except Errno Unit}
    (h : (busWriteByte addr buffer).run.Does cpldRegisters d r d') :
    (∃ e, r = .error e ∧ d' = d) ∨ r = .ok () ∧ d' = Function.update d addr buffer :=
  Access.does_call.mp h

variable {ι : Type} {pins : ι → CpldPin} {r : PinResult} {bus : ι} {v : PinLevel}

theorem does_readLevel (h : (pinCall pins (.readLevel bus)).body.Does cpldRegisters d r d') :
    d' = d ∧ ∀ v, r = .level (.ok v) → v = (pins bus).level (d (pins bus).addr) := by
  obtain ⟨a, e, hbody, hret⟩ := Access.does_bind.mp h
  obtain ⟨rfl, rfl⟩ := Access.does_ret.mp hret
  obtain ⟨err, rfl, hread⟩ | ⟨buffer, e, hread, hlevel⟩ := Access.does_bind_run.mp hbody
  · obtain ⟨_, -, rfl⟩ | ⟨hok, -⟩ := does_busReadByte hread
    · exact ⟨rfl, fun v hv => by cases hv⟩
    · cases hok
  · obtain ⟨rfl, rfl⟩ := Access.does_ret.mp hlevel
    obtain ⟨_, herr, -⟩ | ⟨hok, rfl⟩ := does_busReadByte hread
    · cases herr
    · cases hok
      refine ⟨rfl, fun v hv => ?_⟩
      cases hv
      rfl

theorem does_writeLevel (hout : (pins bus).defaultDirection = .output)
    (h : (pinCall pins (.writeLevel bus v)).body.Does cpldRegisters d r d') :
    (∃ e, r = .written (.error e) ∧ d' = d) ∨ r = .written (.ok ()) ∧
      d' = Function.update d (pins bus).addr ((pins bus).withLevel v (d (pins bus).addr)) := by
  obtain ⟨a, e, hbody, hret⟩ := Access.does_bind.mp h
  obtain ⟨rfl, rfl⟩ := Access.does_ret.mp hret
  simp only [CpldPin.cpldPinWriteLevel, hout, reduceCtorEq, ↓reduceIte] at hbody
  obtain ⟨err, rfl, hread⟩ | ⟨buffer, e, hread, hwrite⟩ := Access.does_bind_run.mp hbody
  · obtain ⟨_, -, rfl⟩ | ⟨hok, -⟩ := does_busReadByte hread
    · exact .inl ⟨err, rfl, rfl⟩
    · cases hok
  · obtain ⟨_, herr, -⟩ | ⟨hok, rfl⟩ := does_busReadByte hread
    · cases herr
    · cases hok
      obtain ⟨err, rfl, rfl⟩ | ⟨rfl, rfl⟩ := does_busWriteByte hwrite
      · exact .inl ⟨err, rfl, rfl⟩
      · exact .inr ⟨rfl, rfl⟩

/-! ## Pins that share no register -/

variable [DecidableEq ι]

/-- After calls one after another each pin is on the level that they have left it on, and each read has returned
what the calls before it have left. -/
theorem serial_readsLastSet (hout : ∀ p, (pins p).defaultDirection = .output) (hsep : Separate pins)
    {calls : List (PinCall ι × PinResult)}
    (h : LockedSystem.Serial cpldRegisters (pinCall pins) d calls d') :
    (∀ p, (pins p).level (d' (pins p).addr) = run (setBy p) ((pins p).level (d (pins p).addr)) calls) ∧
      ReadsLastSet pins d calls := by
  induction h with
  | nil => exact ⟨fun p => rfl, fun p => trivial⟩
  | @refused calls d' c e h ih =>
      refine ⟨fun p => ?_, fun p => along_append.mpr ⟨ih.2 p, ?_, trivial⟩⟩
      · rw [run_append, ← ih.1 p]
        cases c <;> rfl
      · rintro v hv
        cases c <;> cases hv
  | @done calls d' d'' c a h hdoes ih =>
      cases c with
      | readLevel bus =>
          obtain ⟨rfl, hv⟩ := does_readLevel hdoes
          refine ⟨fun p => ?_, fun p => along_append.mpr ⟨ih.2 p, ?_, trivial⟩⟩
          · rw [run_append, ← ih.1 p]
            rfl
          · intro v heq
            cases heq
            exact (hv v rfl).trans (ih.1 bus)
      | writeLevel bus value =>
          have hnone : ∀ p r, ∀ v, (PinCall.writeLevel bus value, PinResult.written r) =
              (.readLevel p, .level (.ok v)) → v = run (setBy p) ((pins p).level (d (pins p).addr)) calls := by
            intro p r v hv
            cases hv
          obtain ⟨e, rfl, rfl⟩ | ⟨rfl, rfl⟩ := does_writeLevel (hout bus) hdoes
          · refine ⟨fun p => ?_, fun p => along_append.mpr ⟨ih.2 p, hnone p _, trivial⟩⟩
            rw [run_append, ← ih.1 p]
            rfl
          · refine ⟨fun p => ?_, fun p => along_append.mpr ⟨ih.2 p, hnone p _, trivial⟩⟩
            rw [run_append, ← ih.1 p, run_cons, run_nil, setBy]
            by_cases hp : bus = p
            · subst hp
              rw [Function.update_self, CpldPin.level_withLevel, if_pos rfl]
            · rw [Function.update_of_ne fun heq => hp (hsep heq).symm, if_neg hp]

omit [DecidableEq ι] in
theorem uses_own (p : ι) (c : PinCall ι) (hc : (pinCall pins c).lock = p) :
    (pinCall pins c).body.Uses fun op => cpldRegisters.loc op = (pins p).addr := by
  subst hc
  cases c with
  | readLevel bus =>
      refine ⟨rfl, fun r => ?_⟩
      cases r <;> exact trivial
  | writeLevel bus value =>
      simp only [pinCall, CpldPin.cpldPinWriteLevel]
      split
      · exact trivial
      · refine ⟨rfl, fun r => ?_⟩
        cases r with
        | error e => exact trivial
        | ok buffer =>
            refine ⟨rfl, fun r => ?_⟩
            cases r <;> exact trivial

/-! ## Pins that share a register -/

omit [DecidableEq ι] in
theorem writeLevel_reads (hout : (pins bus).defaultDirection = .output) :
    ∃ k, run (Access.step cpldRegisters) ((pinCall pins (.writeLevel bus v)).body, d) [none] = (k, d) ∧
      ∀ e, k.Does cpldRegisters e (.written (.ok ()))
        (Function.update e (pins bus).addr ((pins bus).withLevel v (d (pins bus).addr))) := by
  simp only [pinCall, CpldPin.cpldPinWriteLevel, hout, reduceCtorEq, ↓reduceIte]
  exact ⟨_, Prod.ext rfl (Function.update_eq_self _ d), fun e => ⟨[none], rfl⟩⟩

omit [DecidableEq ι] in
theorem reach_write (hout : (pins bus).defaultDirection = .output) :
    (pinCall pins (.writeLevel bus v)).body.Does cpldRegisters d (.written (.ok ()))
      (Function.update d (pins bus).addr ((pins bus).withLevel v (d (pins bus).addr))) := by
  obtain ⟨k, hreads, hk⟩ := writeLevel_reads (d := d) (v := v) hout
  obtain ⟨faults, hfaults⟩ := hk d
  exact ⟨none :: faults, by rw [← hfaults, ← hreads]; rfl⟩

omit [DecidableEq ι] in
theorem reach_read : (pinCall pins (.readLevel bus)).body.Does cpldRegisters d
    (.level (.ok ((pins bus).level (d (pins bus).addr)))) d :=
  ⟨[none], Prod.ext rfl (Function.update_eq_self _ d)⟩

/-- Between the read and the write of a pin, a write to another pin of the register is lost. -/
theorem write_lost (hout : ∀ p, (pins p).defaultDirection = .output) {p q : ι} (hne : p ≠ q)
    (haddr : (pins p).addr = (pins q).addr) (d : BitVec 32 → Byte) :
    ∃ events v, v ≠ (pins p).level (d (pins p).addr) ∧ (runPins pins d events).returned =
      [(.writeLevel p v, .written (.ok ())),
       (.writeLevel q ((pins q).level (d (pins q).addr)), .written (.ok ())),
       (.readLevel p, .level (.ok ((pins p).level (d (pins p).addr))))] := by
  obtain ⟨v, hv⟩ : ∃ v, v ≠ (pins p).level (d (pins p).addr) := by
    cases (pins p).level (d (pins p).addr) with
    | low => exact ⟨.high, by decide⟩
    | high => exact ⟨.low, by decide⟩
  obtain ⟨k, hreads, hk⟩ := writeLevel_reads (d := d) (v := (pins q).level (d (pins q).addr)) (hout q)
  -- The write to `q` puts the register back that it has read, as if `p` had not been written.
  have hback : ∀ buffer, k.Does cpldRegisters (Function.update d (pins p).addr buffer) (.written (.ok ())) d := by
    intro buffer
    have := hk (Function.update d (pins p).addr buffer)
    rwa [CpldPin.withLevel_level, haddr, Function.update_idem, Function.update_eq_self, ← haddr] at this
  obtain ⟨events, hevents⟩ := (LockedSystem.reach_around (s := .start d) (t := 0) (u := 1)
    (c := .writeLevel q ((pins q).level (d (pins q).addr))) rfl rfl (Nat.succ_ne_zero 0) rfl rfl hne hreads
    (reach_write (hout p)) (hback _)).trans (LockedSystem.reach_call (t := 0) (c := .readLevel p) rfl rfl reach_read)
  exact ⟨events, v, hv, congrArg LockedSystem.returned hevents⟩

/-- In every interleaving of the calls on output pins, each read returns the level that the writes before it have
set, if and only if no two of the pins are in one register: a mutex for each pin does not guard the register. -/
theorem output_pins_keep_levels_iff (hout : ∀ p, (pins p).defaultDirection = .output) (d : BitVec 32 → Byte) :
    (∀ events, ReadsLastSet pins d (runPins pins d events).returned) ↔ Separate pins := by
  constructor
  · intro h p q haddr
    by_contra hne
    obtain ⟨events, v, hv, hreturned⟩ := write_lost hout hne haddr d
    have hread := h events p
    rw [hreturned] at hread
    have hlast := (hread.2.2.1 _ rfl).symm
    simp only [setBy, ↓reduceIte, if_neg (Ne.symm hne)] at hlast
    exact hv hlast
  · intro hsep events p
    have : Nonempty ι := ⟨p⟩
    have hguards : LockedSystem.Guards cpldRegisters (pinCall pins) (Function.invFun fun bus => (pins bus).addr) :=
      fun c => by
        refine (uses_own _ c rfl).imp fun op hop => ?_
        rw [hop]
        exact Function.leftInverse_invFun hsep _
    obtain ⟨d', hconsistent⟩ := LockedSystem.serializable hguards d events
    exact (serial_readsLastSet hout hsep hconsistent.serial).2 p

/-- Pins of two registers -/
def twoPins (bus : Bool) : CpldPin := ⟨if bus then 0x31 else 0x32, ⟨0, Nat.zero_lt_succ 7⟩, .output, .normal⟩

/-- Two threads write the pins step by step, and one of them reads its pin back. -/
def overlappingWrites : List (CallEvent Nat (PinCall Bool) Errno) :=
  [.call 0 (.writeLevel true .high), .call 1 (.writeLevel false .low), .go 0 none, .go 1 none, .go 0 none, .go 1 none,
    .go 0 none, .go 1 none, .go 0 none, .go 1 none, .call 0 (.readLevel true), .go 0 none, .go 0 none, .go 0 none]

theorem pins_of_two_registers_keep_levels :
    (runPins twoPins (fun _ => 0) overlappingWrites).returned =
        [(.writeLevel true .high, .written (.ok ())), (.writeLevel false .low, .written (.ok ())),
          (.readLevel true, .level (.ok .high))] ∧
      ReadsLastSet twoPins (fun _ => 0) (runPins twoPins (fun _ => 0) overlappingWrites).returned :=
  ⟨rfl, (output_pins_keep_levels_iff (fun _ => rfl) _).mpr (fun p q h => by cases p <;> cases q <;> cases h <;> rfl) _⟩

end

end OpxSdi.Cpld
