import OpxSdi.Lib.Bits
import OpxSdi.Fan.Max6620

/-!
# When a fault that was read is reported

A read of the fault register takes the faults of all fans, and the call that has read them stores them in the
latch later, without a lock. A fault is kept until it is reported as long as no two calls use the latch at the
same time: from the transaction before its load and store until the store of faults to be reported, or until
the call returns.
-/

namespace OpxSdi.Fan

open Lib

abbrev Max6620Calls (T : Type) :=
  Calls T (Fin 4) Max6620Op Max6620Op.Resp Max6620Chip (BitVec 32) Errno FanStatus

abbrev Max6620Event (T : Type) := Event T (Fin 4) Errno (BitVec 8)

/-! ## Bits of the latch -/

def Latched (fanId : Fin 4) (fanFaults : BitVec 32) : Prop := fanFaults.getLsbD (fanId.val + 4) = true

theorem and_faultMask {fanId : Fin 4} {m : BitVec 32} : m &&& faultMask fanId ≠ 0 ↔ Latched fanId m := by
  rw [Latched, ← Bool.not_eq_false]
  exact not_congr (and_one_shiftLeft_eq_zero (by omega))

theorem latched_clear {fanId f : Fin 4} {m : BitVec 32} :
    Latched f (m &&& ~~~faultMask fanId) ↔ Latched f m ∧ f ≠ fanId := by
  have hlt : f.val + 4 < 32 := by omega
  have hlt' : fanId.val + 4 < 32 := by omega
  simp only [Latched, faultMask, ← BitVec.twoPow_eq, BitVec.getLsbD_and, BitVec.getLsbD_not, hlt, hlt',
    decide_true, Bool.true_and, BitVec.getLsbD_twoPow, Bool.and_eq_true, Bool.not_eq_true',
    decide_eq_false_iff_not, Nat.add_right_cancel_iff, Fin.val_inj, ne_eq, eq_comm (a := f)]

theorem latched_or {f : Fin 4} {m : BitVec 32} {buf : BitVec 8} :
    Latched f (m ||| buf.setWidth 32) ↔ Latched f m ∨ buf.getLsbD (f.val + 4) = true := by
  have hlt : f.val + 4 < 32 := by omega
  simp only [Latched, BitVec.getLsbD_or, BitVec.getLsbD_setWidth, hlt, decide_true, Bool.true_and,
    Bool.or_eq_true]

/-! ## Points of a call -/

/-- The call has a load or a store of the latch before its next transaction, or what it returns rests on them. -/
def UsesLatch : Max6620Proc FanStatus → Prop
  | .bus _ _ => False
  | .update _ _ => True
  | .ret r => r.rc = .ok

/-- The latch is used after these transactions if they succeed. -/
def EntersLatch (p : Max6620Proc FanStatus) : Prop :=
  match p.next with
  | some .readFanFault => True
  | some (.writeFanTgtTachCnt _ _) => True
  | _ => False

instance : DecidablePred UsesLatch
  | .bus _ _ => isFalse id
  | .update _ _ => isTrue trivial
  | .ret r => inferInstanceAs (Decidable (r.rc = .ok))

/-- The points of a call for `fanId`, with the latch `m` as it is while no other call uses it. -/
inductive Point (fanId : Fin 4) (m : BitVec 32) : Max6620Proc FanStatus → Prop
  | start : Point fanId m (max6620FanStatusGet fanId)
  | latch (buf : BitVec 8) : Point fanId m (latchFaults fanId buf)
  | store (v : BitVec 32) (h : ∀ f, Latched f m → Latched f v) : Point fanId m (storeFaults fanId v)
  | found : Point fanId m (resetTach fanId)
  | reread (tach : BitVec 16) : Point fanId m (writeTach fanId tach)
  | clear : Point fanId m (clearFault fanId)
  | cleared (v : BitVec 32) (h : ∀ f, f ≠ fanId → Latched f m → Latched f v) : Point fanId m (storeCleared v)
  | clean (h : ¬Latched fanId m) : Point fanId m (.ret ⟨.ok, false⟩)
  | reported : Point fanId m (.ret ⟨.ok, true⟩)
  | failed (e : Errno) (status : Bool) : Point fanId m (.ret ⟨.errcode e, status⟩)

/-- A point at which the latch is not used does not depend on it. -/
theorem Point.of_not_usesLatch {fanId : Fin 4} {m m' : BitVec 32} {p : Max6620Proc FanStatus}
    (h : Point fanId m p) (hp : ¬UsesLatch p) : Point fanId m' p := by
  cases h with
  | start => exact .start
  | found => exact .found
  | reread tach => exact .reread tach
  | failed e status => exact .failed e status
  | reported => exact .reported
  | clean h => exact absurd rfl hp
  | latch | store | clear | cleared => exact absurd trivial hp

/-- What a step from a point leaves: the call is at a point again, it uses the latch only after a transaction that
enters it, it changes the latch only where it uses it, and it takes out of the latch only the fault that it
reports. -/
structure Stepped (fanId : Fin 4) (m : BitVec 32) (p : Max6620Proc FanStatus) (fault : Option Errno)
    (m' : BitVec 32) (q : Max6620Proc FanStatus) : Prop where
  point : Point fanId m' q
  enters : UsesLatch q → UsesLatch p ∨ fault = none ∧ EntersLatch p
  kept : m' = m ∨ UsesLatch p
  latched : ∀ f, Latched f m → Latched f m' ∨ f = fanId ∧ q = .ret ⟨.ok, true⟩

theorem advance_store (fanId : Fin 4) (fault : Option Errno) (chip : Max6620Chip) (m v : BitVec 32) :
    Calls.advance Max6620Chip.port fault chip m (storeFaults fanId v) =
      (chip, v, if v &&& faultMask fanId ≠ 0 then resetTach fanId else .ret ⟨.ok, false⟩) := rfl

section

variable {fanId : Fin 4} {m : BitVec 32} {p q : Max6620Proc FanStatus} {fault : Option Errno}

theorem not_usesLatch_failed (e : Errno) (status : Bool) : ¬UsesLatch (.ret ⟨.errcode e, status⟩) :=
  fun h => TStdError.noConfusion h

/-- A step that leaves the latch as it is. -/
theorem Stepped.same (h : Point fanId m q) (henters : UsesLatch q → UsesLatch p ∨ fault = none ∧ EntersLatch p) :
    Stepped fanId m p fault m q := ⟨h, henters, .inl rfl, fun _ hf => .inl hf⟩

theorem Stepped.fails (e : Errno) (status : Bool) : Stepped fanId m p fault m (.ret ⟨.errcode e, status⟩) :=
  .same (.failed e status) fun h => absurd h (not_usesLatch_failed e status)

theorem Point.stepped (h : Point fanId m p) (fault : Option Errno) (chip : Max6620Chip) :
    Stepped fanId m p fault (Calls.advance Max6620Chip.port fault chip m p).2.1
      (Calls.advance Max6620Chip.port fault chip m p).2.2 := by
  cases h with
  | start =>
      cases fault with
      | some e => exact .fails e false
      | none => exact .same (.latch _) fun _ => .inr ⟨rfl, trivial⟩
  | latch buf => exact .same (.store _ fun f hf => latched_or.mpr (.inl hf)) fun _ => .inl trivial
  | store v hv =>
      rw [advance_store]
      refine ⟨?_, fun _ => .inl trivial, .inr trivial, fun f hf => .inl (hv f hf)⟩
      dsimp only
      split
      · exact .found
      · rename_i hclean
        exact .clean (mt and_faultMask.mpr hclean)
  | found =>
      cases fault with
      | some e => exact .fails e true
      | none => exact .same (.reread _) fun hq => hq.elim
  | reread tach =>
      cases fault with
      | some e => exact .fails e true
      | none => exact .same .clear fun _ => .inr ⟨rfl, trivial⟩
  | clear => exact .same (.cleared _ fun f hne hf => latched_clear.mpr ⟨hf, hne⟩) fun _ => .inl trivial
  | cleared v hv =>
      refine ⟨.reported, fun _ => .inl trivial, .inr trivial, fun f hf => ?_⟩
      by_cases hne : f = fanId
      · exact .inr ⟨hne, rfl⟩
      · exact .inl (hv f hne hf)
  | clean h => exact .same (.clean h) fun _ => .inl rfl
  | reported => exact .same .reported fun _ => .inl rfl
  | failed e status => exact .fails e status

end

/-! ## Interleaved calls -/

variable {T : Type} [DecidableEq T]

abbrev Max6620Calls.step : Max6620Calls T → Max6620Event T → Max6620Calls T :=
  Calls.step Max6620Chip.port max6620FanStatusGet

abbrev Max6620Calls.start (chip : Max6620Chip) (fanFaults : BitVec 32) : Max6620Calls T :=
  Calls.start chip fanFaults

abbrev Max6620Calls.returned : Max6620Calls T → Max6620Event T → Option (Fin 4 × FanStatus) :=
  Calls.returned

open Max6620Calls

/-- The event is a read of the fault register that succeeds and returns the bit of the fan. -/
def ReadsFault (fanId : Fin 4) (s : Max6620Calls T) : Max6620Event T → Prop
  | .go t none => (∃ g p, s.call t = some (g, p) ∧ p.next = some .readFanFault) ∧
      s.dev.fanFault.getLsbD (fanId.val + 4) = true
  | _ => False

/-- A call for the fan returns `STD_ERR_OK`. -/
def Completes (fanId : Fin 4) (status : Bool) (s : Max6620Calls T) (e : Max6620Event T) : Prop :=
  returned s e = some (fanId, ⟨.ok, status⟩)

instance (fanId : Fin 4) (status : Bool) (s : Max6620Calls T) (e : Max6620Event T) :
    Decidable (Completes fanId status s e) := inferInstanceAs (Decidable (_ = _))

/-- The first call for the fan that completes along the run reports a fault. -/
def NextReports (fanId : Fin 4) : Max6620Calls T → List (Max6620Event T) → Prop
  | _, [] => True
  | s, e :: es => Completes fanId true s e ∨ ¬Completes fanId false s e ∧ NextReports fanId (step s e) es

instance decidableNextReports (fanId : Fin 4) :
    (s : Max6620Calls T) → (es : List (Max6620Event T)) → Decidable (NextReports fanId s es)
  | _, [] => isTrue trivial
  | s, e :: es => @instDecidableOr _ _ _ (@instDecidableAnd _ _ _ (decidableNextReports fanId (step s e) es))

/-- The event is a step of a call for the fan that has then only to return `STD_ERR_OK` and the status true. -/
def IsReported (fanId : Fin 4) (s : Max6620Calls T) (e : Max6620Event T) : Prop :=
  ∃ t fault, e = .go t fault ∧ (step s e).call t = some (fanId, .ret ⟨.ok, true⟩)

/-- Every fault bit that a read of the register returns is reported by the next call for its fan that completes,
and a bit leaves the latch only with a call for its fan that reports it and returns `STD_ERR_OK`. -/
structure KeepsFaults (chip : Max6620Chip) (fanFaults : BitVec 32) (es : List (Max6620Event T)) (fanId : Fin 4) :
    Prop where
  reports : ∀ pre e post, es = pre ++ e :: post → ReadsFault fanId (run step (start chip fanFaults) pre) e →
    NextReports fanId (run step (start chip fanFaults) pre) (e :: post)
  removes : Along step (fun s e => Latched fanId s.mem → ¬Latched fanId (step s e).mem → IsReported fanId s e)
    (start chip fanFaults) es

/-- A call begins to use the latch while no other call does. -/
def NoOverlap (s : Max6620Calls T) : Max6620Event T → Prop
  | .go t none => (∃ cp ∈ s.call t, EntersLatch cp.2) → ∀ u, u ≠ t → ∀ dq ∈ s.call u, ¬UsesLatch dq.2
  | _ => True

/-! ## Calls that do not overlap -/

structure Consistent (s : Max6620Calls T) : Prop where
  point : ∀ t c p, s.call t = some (c, p) → Point c s.mem p
  alone : ∀ t u c d p q, s.call t = some (c, p) → UsesLatch p → s.call u = some (d, q) → UsesLatch q → t = u

variable {s : Max6620Calls T} {f : Fin 4}

/-- A step changes the latch only if it is one of a call that uses it. -/
theorem mem_step (hs : Consistent s) (e : Max6620Event T) : (step s e).mem = s.mem ∨
    ∃ t fault c p, e = .go t fault ∧ s.call t = some (c, p) ∧ UsesLatch p := by
  cases e with
  | env faults => exact .inl rfl
  | call t c =>
      refine .inl ?_
      rw [step, Calls.step]
      split <;> rfl
  | go t fault =>
      cases hcall : s.call t with
      | none => exact .inl (by rw [step, Calls.step, hcall])
      | some cp =>
          rw [step, Calls.step_go hcall]
          exact ((hs.point t cp.1 cp.2 hcall).stepped fault s.dev).kept.imp_right
            fun h => ⟨t, fault, cp.1, cp.2, rfl, hcall, h⟩

/-- A call that uses the latch after a step has used it before, or enters it with the step. -/
theorem usesLatch_step (hs : Consistent s) {e : Max6620Event T} {t : T} {c : Fin 4} {q : Max6620Proc FanStatus}
    (h : (step s e).call t = some (c, q)) (hq : UsesLatch q) :
    (∃ p, s.call t = some (c, p) ∧ UsesLatch p) ∨ ∃ p, e = .go t none ∧ s.call t = some (c, p) ∧ EntersLatch p := by
  obtain ⟨hcall, -⟩ | ⟨-, rfl⟩ | ⟨fault, p, rfl, hcall, rfl⟩ := Calls.call_step e h
  · exact .inl ⟨q, hcall, hq⟩
  · exact hq.elim
  · obtain hp | ⟨rfl, hp⟩ := ((hs.point t c p hcall).stepped fault s.dev).enters hq
    · exact .inl ⟨p, hcall, hp⟩
    · exact .inr ⟨p, rfl, hcall, hp⟩

theorem consistent_step (hs : Consistent s) (e : Max6620Event T) (he : NoOverlap s e) : Consistent (step s e) := by
  constructor
  · intro u c q h
    obtain ⟨hcall, hne⟩ | ⟨-, rfl⟩ | ⟨fault, p, rfl, hcall, rfl⟩ := Calls.call_step e h
    · obtain hmem | ⟨t, fault, d, p, rfl, hp, huses⟩ := mem_step hs e
      · rw [hmem]
        exact hs.point u c q hcall
      · refine (hs.point u c q hcall).of_not_usesLatch fun hq => ?_
        exact hne t fault rfl (hs.alone u t c d q p hcall hq hp huses)
    · exact .start
    · have hpoint := ((hs.point u c p hcall).stepped fault s.dev).point
      rwa [step, Calls.step_go hcall]
  · intro t u c d p q hp huses hq huses'
    by_contra hne
    obtain ⟨p', hp', hbefore⟩ | ⟨p', rfl, hp', henters⟩ := usesLatch_step hs hp huses
    · obtain ⟨q', hq', hbefore'⟩ | ⟨q', rfl, hq', henters⟩ := usesLatch_step hs hq huses'
      · exact hne (hs.alone t u c d p' q' hp' hbefore hq' hbefore')
      · exact he ⟨(d, q'), hq', henters⟩ t hne (c, p') hp' hbefore
    · obtain ⟨q', hq', hbefore'⟩ | ⟨q', heq, -⟩ := usesLatch_step hs hq huses'
      · exact he ⟨(c, p'), hp', henters⟩ u (Ne.symm hne) (d, q') hq' hbefore'
      · cases heq
        exact hne rfl

/-! ## Faults that are on their way -/

/-- The call has read the fault and not stored it yet, or it has taken it out of the latch and not returned yet. -/
inductive Carries (f : Fin 4) : Fin 4 → Max6620Proc FanStatus → Prop
  | latch (c : Fin 4) (buf : BitVec 8) (h : buf.getLsbD (f.val + 4) = true) : Carries f c (latchFaults c buf)
  | store (c : Fin 4) (v : BitVec 32) (h : Latched f v) : Carries f c (storeFaults c v)
  | reported : Carries f f (.ret ⟨.ok, true⟩)

theorem Carries.usesLatch {c : Fin 4} {p : Max6620Proc FanStatus} (h : Carries f c p) : UsesLatch p := by
  cases h with
  | latch | store => exact trivial
  | reported => exact rfl

/-- A call for the fan that comes next to return cannot miss the fault. -/
def Pending (f : Fin 4) (s : Max6620Calls T) : Prop :=
  Latched f s.mem ∨ ∃ t c p, s.call t = some (c, p) ∧ Carries f c p

omit [DecidableEq T] in
theorem completes_iff {status : Bool} {e : Max6620Event T} : Completes f status s e ↔
    ∃ t fault, e = .go t fault ∧ s.call t = some (f, .ret ⟨.ok, status⟩) := by
  constructor
  · intro h
    cases e with
    | env faults => cases h
    | call t c => cases h
    | go t fault =>
        refine ⟨t, fault, rfl, ?_⟩
        simp only [Completes, Max6620Calls.returned, Calls.returned] at h
        cases hcall : s.call t with
        | none =>
            rw [hcall] at h
            cases h
        | some cp =>
            obtain ⟨c, p⟩ := cp
            rw [hcall] at h
            cases p with
            | ret r =>
                obtain ⟨rfl, rfl⟩ := Prod.mk.inj (Option.some.inj h)
                rfl
            | bus op k => cases h
            | update g k => cases h
  · rintro ⟨t, fault, rfl, hcall⟩
    simp only [Completes, Max6620Calls.returned, Calls.returned, hcall]
    rfl

theorem not_carries_false {c : Fin 4} {p : Max6620Proc FanStatus} (h : Carries f c p) (hp : p = .ret ⟨.ok, false⟩) :
    False := by
  cases h with
  | latch buf _ => cases hp
  | store v _ => cases hp
  | reported => cases hp

omit [DecidableEq T] in
/-- No call for the fan returns without its fault. -/
theorem pending_not_completes (hs : Consistent s) (h : Pending f s) (e : Max6620Event T) : ¬Completes f false s e := by
  intro hc
  obtain ⟨t, fault, -, hcall⟩ := completes_iff.mp hc
  obtain hlatched | ⟨u, c, p, hp, hcarries⟩ := h
  · cases hs.point t f _ hcall with
    | clean hclean => exact hclean hlatched
  · obtain rfl := hs.alone u t c f p _ hp hcarries.usesLatch hcall rfl
    obtain ⟨-, hret⟩ := Prod.mk.inj (Option.some.inj (hp.symm.trans hcall))
    exact not_carries_false hcarries hret

/-- The call that carries the fault goes on: it carries it still, or the fault is latched, or the call returns with
it. -/
theorem carries_step {t : T} {c : Fin 4} {p : Max6620Proc FanStatus} (hcall : s.call t = some (c, p))
    (h : Carries f c p) (fault : Option Errno) :
    Completes f true s (.go t fault) ∨ Pending f (step s (.go t fault)) := by
  cases h with
  | latch _ buf hbit =>
      refine .inr (.inr ⟨t, c, storeFaults c (s.mem ||| buf.setWidth 32), ?_, ?_⟩)
      · rw [step, Calls.step_go hcall]
        exact Function.update_self ..
      · exact .store c _ (latched_or.mpr (.inr hbit))
  | store _ v hv =>
      refine .inr (.inl ?_)
      rw [step, Calls.step_go hcall, advance_store]
      exact hv
  | reported => exact .inl (completes_iff.mpr ⟨t, fault, rfl, hcall⟩)

/-- A fault that is latched stays so until a call carries it to its return. -/
theorem latched_step (hs : Consistent s) (h : Latched f s.mem) (e : Max6620Event T) :
    Latched f (step s e).mem ∨ IsReported f s e := by
  obtain hmem | ⟨t, fault, c, p, rfl, hcall, huses⟩ := mem_step hs e
  · exact .inl (hmem ▸ h)
  · have hstepped := (hs.point t c p hcall).stepped fault s.dev
    rw [step, Calls.step_go hcall]
    cases p with
    | ret r => exact .inl h
    | bus op k => exact huses.elim
    | update g k =>
        refine (hstepped.latched f h).imp_right ?_
        rintro ⟨rfl, hq⟩
        refine ⟨t, fault, rfl, ?_⟩
        rw [step, Calls.step_go hcall, hq]
        exact Function.update_self ..

theorem pending_step (hs : Consistent s) (h : Pending f s) (e : Max6620Event T) :
    Completes f true s e ∨ Pending f (step s e) := by
  obtain hlatched | ⟨t, c, p, hcall, hcarries⟩ := h
  · obtain hlatched | ⟨t, fault, -, hcall⟩ := latched_step hs hlatched e
    · exact .inr (.inl hlatched)
    · exact .inr (.inr ⟨t, f, _, hcall, .reported⟩)
  · by_cases he : ∃ fault, e = .go t fault
    · obtain ⟨fault, rfl⟩ := he
      exact carries_step hcall hcarries fault
    · exact .inr (.inr ⟨t, c, p, Calls.call_kept hcall fun fault heq => he ⟨fault, heq⟩, hcarries⟩)

/-- The read that returns the bit of a fan makes its call carry the fault. -/
theorem readsFault_step (hs : Consistent s) {e : Max6620Event T} (h : ReadsFault f s e) :
    Pending f (step s e) ∧ ∀ status, ¬Completes f status s e := by
  cases e with
  | env faults => exact h.elim
  | call t c => exact h.elim
  | go t fault =>
      cases fault with
      | some e => exact h.elim
      | none =>
          obtain ⟨⟨c, p, hcall, hnext⟩, hbit⟩ := h
          constructor
          · cases hs.point t c p hcall with
            | start =>
                refine .inr ⟨t, c, latchFaults c s.dev.fanFault, ?_, .latch c _ hbit⟩
                rw [step, Calls.step_go hcall]
                exact Function.update_self ..
            | found => cases (hnext : some (Max6620Op.readFanTgtTachCnt c) = some .readFanFault)
            | reread tach => cases (hnext : some (Max6620Op.writeFanTgtTachCnt c tach) = some .readFanFault)
            | latch | store | clear | cleared | clean | reported | failed =>
                cases (hnext : none = some Max6620Op.readFanFault)
          · intro status hc
            obtain ⟨u, fault, heq, hret⟩ := completes_iff.mp hc
            cases heq
            obtain ⟨rfl, rfl⟩ := Prod.mk.inj (Option.some.inj (hcall.symm.trans hret))
            cases hnext

/-! ## Runs -/

theorem nextReports_of_pending (hs : Consistent s) (h : Pending f s) {es : List (Max6620Event T)}
    (hes : Along step NoOverlap s es) : NextReports f s es := by
  induction es generalizing s with
  | nil => trivial
  | cons e es ih =>
      obtain hc | hpending := pending_step hs h e
      · exact .inl hc
      · exact .inr ⟨pending_not_completes hs h e, ih (consistent_step hs e hes.1) hpending hes.2⟩

theorem nextReports_of_reads (hs : Consistent s) {e : Max6620Event T} (h : ReadsFault f s e)
    {es : List (Max6620Event T)} (hes : Along step NoOverlap s (e :: es)) : NextReports f s (e :: es) := by
  obtain ⟨hpending, hc⟩ := readsFault_step hs h
  exact .inr ⟨hc false, nextReports_of_pending (consistent_step hs e hes.1) hpending hes.2⟩

omit [DecidableEq T] in
theorem consistent_start (chip : Max6620Chip) (fanFaults : BitVec 32) :
    Consistent (start chip fanFaults : Max6620Calls T) :=
  ⟨(fun _ _ _ h => by cases h), fun _ _ _ _ _ _ h => by cases h⟩

/-- In every run whose calls begin to use the latch one at a time, no fault that was read is lost. -/
theorem max6620_keeps_faults (chip : Max6620Chip) (fanFaults : BitVec 32) (es : List (Max6620Event T)) (f : Fin 4)
    (h : Along step NoOverlap (start chip fanFaults) es) : KeepsFaults chip fanFaults es f := by
  have hconsistent : ∀ pre post, es = pre ++ post → Consistent (run step (start chip fanFaults) pre) ∧
      Along step NoOverlap (run step (start chip fanFaults) pre) post := by
    rintro pre post rfl
    obtain ⟨hpre, hpost⟩ := along_append.mp h
    exact ⟨run_inv (I := Consistent) (fun s e hs he => consistent_step hs e he) (consistent_start ..) hpre, hpost⟩
  constructor
  · intro pre e post heq hread
    obtain ⟨hs, hpost⟩ := hconsistent pre (e :: post) heq
    exact nextReports_of_reads hs hread hpost
  · refine (along_iff step).mpr fun pre e post heq hlatched hclear => ?_
    exact (latched_step (hconsistent pre (e :: post) heq).1 hlatched e).resolve_left hclear

/-- Fans 0 and 1 have failed when the call for fan 0 reads the register. The call for fan 1 reads it while the first
one reads and writes its target count. -/
def inTurnRun : List (Max6620Event Bool) :=
  [.call false 0, .go false none, .go false none, .go false none, .call true 1, .go true none, .go true none,
    .go true none, .go false none, .go false none, .go false none, .go false none, .go false none, .go true none,
    .go true none, .go true none, .go true none, .go true none]

theorem noOverlap_bool {s : Max6620Calls Bool} {t : Bool} {fault : Option Errno}
    (h : ∀ dq ∈ s.call (!t), ¬UsesLatch dq.2) : NoOverlap s (.go t fault) := by
  cases fault with
  | some e => trivial
  | none =>
      intro _ u hne
      rwa [Bool.eq_not_of_ne hne]

theorem max6620_keeps_faults_in_turn : KeepsFaults ⟨0x30, fun _ => 0⟩ 0 inTurnRun 1 := by
  refine max6620_keeps_faults _ _ _ _ ⟨trivial, ?_, ?_, ?_, trivial, ?_, ?_, ?_, ?_, ?_, ?_, ?_, ?_, ?_, ?_, ?_, ?_, ?_,
    trivial⟩
  all_goals exact noOverlap_bool (by decide)

/-- The call for fan 0 has read the faults of fans 0 and 1 and not stored them when the call for fan 1 reads the
register, which is empty, and returns. -/
def overlappingRun : List (Max6620Event Bool) :=
  [.call false 0, .go false none, .call true 1, .go true none, .go true none, .go true none, .go true none]

theorem not_keepsFaults_overlapping : ¬KeepsFaults ⟨0x30, fun _ => 0⟩ 0 overlappingRun 1 := by
  intro h
  have hreports := h.reports [.call false 0] (.go false none) _ rfl ⟨⟨0, _, rfl, rfl⟩, by decide⟩
  revert hreports
  decide

end OpxSdi.Fan
