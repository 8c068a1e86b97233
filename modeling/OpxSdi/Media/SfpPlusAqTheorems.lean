import OpxSdi.Media.SfpPlusAq

/-!
# The transmitter of a module whose rate changes

A change of the rate leaves the register of the transmitter as it was, and has performed its sequence if it
succeeds. What breaks this is an operation of the sequence that fails while the transmitter is off.
-/

namespace OpxSdi.Media.Aq

open Lib Device ExtMod

variable {rate : MediaSpeed} {d d' : Device Empty Errno Registers} {is : List Seen} {packet : OperPacket}

def txReg : Byte × BitVec 16 := (aqTxStateSetAddr, 0x0009)
def rateReg : Byte × BitVec 16 := (aqLineSideLinkRateAddr, 0xC800)

/-- No call fails that sets the state of the transmitter. -/
def TxSetsSucceed (seen : List Seen) : Prop := ∀ state rc, .txSet state rc ∈ seen → rc = .ok ()

def performed (packet : OperPacket) : Seen := .oper packet (.ok packet.dataBufBigEndian)

/-- What a change of the rate promises of the registers after it and of its operations. -/
structure Kept (rate : MediaSpeed) (regs regs' : Registers) (rc : Except Errno Unit) (seen : List Seen) :
    Prop where
  disable_eq : (regs' txReg).getLsbD 0 = (regs txReg).getLsbD 0
  others_eq : ∀ i ≠ 0, (regs' txReg).getLsbD i = (regs txReg).getLsbD i
  performed_eq : rc = .ok () → speedOf (regs rateReg) ≠ some rate → (packetsFor rate).map performed <:+: seen

def KeepsTransmitter (rate : MediaSpeed) (d : Device Empty Errno Registers) : Prop :=
  ∃ rc d', (setRate rate).out (d.recorded []) = (outcome rc, d') ∧
    (TxSetsSucceed d'.hw.2 → Kept rate d.hw d'.hw.1 rc d'.hw.2)

/-- The transmitter is on, the rate is one to change, and an operation of the sequence fails. -/
def Strands (rate : MediaSpeed) (d : Device Empty Errno Registers) : Prop :=
  (d.hw txReg).getLsbD 0 = false ∧ d.Clear 5 ∧ (∃ speed, speedOf (d.hw rateReg) = some speed ∧ speed ≠ rate) ∧
    ¬(d.after 5 d.hw).Clear 5

/-! ## Operations -/

/-- The operation is performed, or it fails and changes no register. -/
theorem performOper_cases (packet : OperPacket) (d : Device Empty Errno Registers) :
    (d.Clear 1 ∧ Leads (performOper packet) d (.ok (performOn packet d.hw).1) 1 (performOn packet d.hw).2
      [.oper packet (.ok (performOn packet d.hw).1)]) ∨
    (¬d.Clear 1 ∧ ∃ e, Leads (performOper packet) d (.error e) 1 d.hw [.oper packet (.error e)]) := by
  rw [clear_one]
  cases hfault : d.fault d.time with
  | none => exact .inl ⟨rfl, Leads.access_ok _ hfault⟩
  | some e => exact .inr ⟨Option.some_ne_none e, e, Leads.access_error _ hfault⟩

/-- The record has operations only. -/
def Opers (seen : List Seen) : Prop := ∀ s ∈ seen, ∃ packet rc, s = .oper packet rc

theorem opers_nil : Opers [] := fun _ h => absurd h List.not_mem_nil

theorem opers_cons {rc : Except Errno (BitVec 16)} {seen : List Seen} (h : Opers seen) :
    Opers (.oper packet rc :: seen) :=
  List.forall_mem_cons.mpr ⟨⟨packet, rc, rfl⟩, h⟩

theorem getLineSideStatus_cases (d : Device Empty Errno Registers) :
    (∃ r seen, d.Clear 2 ∧ speedOf (d.hw rateReg) = some r.2 ∧ Opers seen ∧
      Leads getLineSideStatus d (.ok r) 2 d.hw seen) ∨
    (¬(d.Clear 2 ∧ ∃ speed, speedOf (d.hw rateReg) = some speed) ∧ ∃ e n seen, Opers seen ∧
      Leads getLineSideStatus d (.error e) n d.hw seen) := by
  rw [@clear_add _ _ _ d 1 1 d.hw]
  simp only [getLineSideStatus, chainOne_eq]
  rcases performOper_cases ⟨aqCurrLinkStateAddr, 0xE800, 0, .memRead⟩ d with ⟨hlink, hok⟩ | ⟨hlink, e, herr⟩
  case inr => exact .inr ⟨fun h => hlink h.1.1, e, 1, _, opers_cons opers_nil, herr.stop⟩
  rcases performOper_cases ⟨aqLineSideLinkRateAddr, 0xC800, d.hw (aqCurrLinkStateAddr, 0xE800), .memRead⟩
    (d.after 1 d.hw) with ⟨hrate, hok'⟩ | ⟨hrate, e, herr⟩
  case inr =>
    refine .inr ⟨fun h => hrate h.1.2, e, _, _, ?_, hok.bind herr.stop⟩
    exact opers_cons (opers_cons opers_nil)
  cases hspeed : speedOf (d.hw rateReg) with
  | none =>
      have hrc : ∀ link, lineSideStatusOf link (d.hw rateReg) = .error .notOk := fun link => by
        rw [lineSideStatusOf, hspeed]
      refine .inr ⟨fun ⟨_, _, h⟩ => (nomatch h), .notOk, _, _, ?_,
        hok.bind (hok'.bind (Leads.ofResult (hrc _)))⟩
      exact opers_cons (opers_cons opers_nil)
  | some speed =>
      have hrc : ∀ link, lineSideStatusOf link (d.hw rateReg) =
        .ok (link &&& aqLinkStateBitmask ≠ 0, speed) :=
        fun link => by rw [lineSideStatusOf, hspeed]
      refine .inl ⟨_, _, ⟨hlink, hrate⟩, rfl, ?_, hok.bind (hok'.bind (Leads.ofResult (hrc _)))⟩
      exact opers_cons (opers_cons opers_nil)

theorem getTxState_cases (d : Device Empty Errno Registers) :
    (d.Clear 1 ∧ ∃ seen, Opers seen ∧
      Leads getTxState d (.ok (d.hw txReg &&& aqTxStateSetBitmask = 0)) 1 d.hw seen) ∨
    (¬d.Clear 1 ∧ ∃ e n seen, Opers seen ∧ Leads getTxState d (.error e) n d.hw seen) := by
  rw [getTxState, chainOne_eq]
  rcases performOper_cases txStatePacket d with ⟨hclear, hok⟩ | ⟨hclear, e, herr⟩
  · refine .inl ⟨hclear, _, ?_, hok.bind (Leads.pure _)⟩
    exact opers_cons opers_nil
  · exact .inr ⟨hclear, e, 1, _, opers_cons opers_nil, herr.stop⟩

/-- The value of the register of the transmitter for its state -/
def txValue (state : Bool) (data : BitVec 16) : BitVec 16 :=
  if state then data &&& ~~~aqTxStateSetBitmask else data ||| aqTxStateSetBitmask

def txSetRegs (state : Bool) (regs : Registers) : Registers :=
  Function.update regs txReg (txValue state (regs txReg))

theorem setTxState_cases (state : Bool) (d : Device Empty Errno Registers) :
    (d.Clear 2 ∧ ∃ seen, Opers seen ∧
      Leads (setTxState state) d (.ok ()) 2 (txSetRegs state d.hw) (seen ++ [.txSet state (.ok ())])) ∨
    (¬d.Clear 2 ∧ ∃ e n regs seen,
      Leads (setTxState state) d (.error e) n regs (seen ++ [.txSet state (.error e)])) := by
  rw [setTxState, @clear_add _ _ _ d 1 1 d.hw, setTxStateOn]
  simp only [chainOne_eq]
  rcases performOper_cases txStatePacket d with ⟨hread, hok⟩ | ⟨hread, e, herr⟩
  case inr => exact .inr ⟨fun h => hread h.1, e, 1, _, _, herr.stop.noted _⟩
  rcases performOper_cases ⟨aqTxStateSetAddr, 0x0009, txValue state (d.hw txReg), .memWrite⟩
    (d.after 1 d.hw) with
    ⟨hwrite, hok'⟩ | ⟨hwrite, e, herr⟩
  case inr => exact .inr ⟨fun h => hwrite h.2, e, _, _, _, (hok.bind herr.stop).noted _⟩
  refine .inl ⟨⟨hread, hwrite⟩, _, ?_, (hok.bind (hok'.bind (Leads.pure ()))).noted _⟩
  exact opers_cons (opers_cons opers_nil)

/-! ## The sequence of a rate -/

section

variable {L ε ω ι : Type} {perform : OperPacket → Device.M L ε (ω × List ι) (BitVec 16)} {dev : Device L ε ω}
  {packets packets' : List OperPacket} {m n : Nat} {hw hw' : ω} {seen seen' : List ι} {rc : Except ε Unit}

theorem leads_chain_error {e : ε} (h : Leads (perform packet) dev (.error e) n hw seen) :
    Leads (chainOperWith perform (packet :: packets)) dev (.ok (.error e, packet :: packets)) n hw seen :=
  fun before => Acts.out_bind_ok (h.attempt before)

theorem leads_chain_ok {data : BitVec 16} (h : Leads (perform packet) dev (.ok data) m hw seen)
    (h' : Leads (chainOperWith perform packets) (dev.after m hw) (.ok (rc, packets')) n hw' seen') :
    Leads (chainOperWith perform (packet :: packets)) dev
      (.ok (rc, { packet with dataBufBigEndian := data } :: packets')) (n + m) hw' (seen ++ seen') :=
  h.attempt.bind (h'.map fun r => (r.1, { packet with dataBufBigEndian := data } :: r.2))

end

/-- A chain of writes to other registers than the one of the transmitter. -/
theorem chainOper_cases {packets : List OperPacket}
    (h : ∀ packet ∈ packets, packet.oper = .memWrite ∧ packet.memAddr ≠ aqTxStateSetAddr)
    (d : Device Empty Errno Registers) :
    (d.Clear packets.length ∧ ∃ regs, regs txReg = d.hw txReg ∧
      Leads (chainOperWith performOper packets) d (.ok (.ok (), packets)) packets.length regs
        (packets.map performed)) ∨
    (¬d.Clear packets.length ∧ ∃ e packets' n regs seen, regs txReg = d.hw txReg ∧ Opers seen ∧
      Leads (chainOperWith performOper packets) d (.ok (.error e, packets')) n regs seen) := by
  induction packets generalizing d with
  | nil => exact .inl ⟨d.clear_zero, d.hw, rfl, Leads.pure _⟩
  | cons packet packets ih =>
      obtain ⟨⟨hwrite, haddr⟩, hrest⟩ := List.forall_mem_cons.mp h
      have hreg : (performOn packet d.hw).2 txReg = d.hw txReg := by
        rw [performOn, hwrite]
        exact Function.update_of_ne (fun heq => haddr (Prod.mk.inj heq).1.symm) _ _
      have hdata : (performOn packet d.hw).1 = packet.dataBufBigEndian := by rw [performOn, hwrite]
      rw [List.length_cons, Nat.add_comm, @clear_add _ _ _ d 1 packets.length (performOn packet d.hw).2]
      rcases performOper_cases packet d with ⟨hclear, hok⟩ | ⟨hclear, e, herr⟩
      case inr =>
        exact .inr ⟨fun h => hclear h.1, e, packet :: packets, 1, d.hw, _, rfl, opers_cons opers_nil,
          leads_chain_error herr⟩
      rw [hdata] at hok
      rcases ih hrest (d.after 1 (performOn packet d.hw).2) with
        ⟨hclear', regs, hregs, hok'⟩ | ⟨hclear', e, packets', n, regs, seen, hregs, hseen, hok'⟩
      · refine .inl ⟨⟨hclear, hclear'⟩, regs, hregs.trans hreg, ?_⟩
        rw [Nat.add_comm]
        exact leads_chain_ok hok hok'
      · refine .inr ⟨fun h => hclear' h.2, e, packet :: packets', n + 1, regs, _, hregs.trans hreg, ?_,
          leads_chain_ok hok hok'⟩
        exact opers_cons hseen

theorem packetsFor_writes (rate : MediaSpeed) :
    (packetsFor rate).length = 5 ∧
      ∀ packet ∈ packetsFor rate, packet.oper = .memWrite ∧ packet.memAddr ≠ aqTxStateSetAddr := by
  cases rate <;> decide

/-- After the sequence, the state of the transmitter is set if it was on. -/
theorem leads_changeRate (serdesStat : Bool) {packets : List OperPacket} {rc : Except Errno Unit} {m n : Nat}
    {regs regs' : Registers} {seen seen' : List Seen}
    (h : Leads (chainOperWith performOper (packetsFor rate)) d (.ok (.ok (), packets)) m regs seen)
    (h' : Leads (if serdesStat then setTxState true else pure ()) (d.after m regs) rc n regs' seen') :
    Leads (changeRate rate serdesStat) d rc (n + m) regs' (seen ++ seen') :=
  h.bind h'

/-- The sequence fails, or it is performed and the state of the transmitter set if it was on. -/
theorem changeRate_cases (rate : MediaSpeed) (serdesStat : Bool) (d : Device Empty Errno Registers) :
    (¬d.Clear 5 ∧ ∃ e n regs seen, regs txReg = d.hw txReg ∧ Opers seen ∧
      Leads (changeRate rate serdesStat) d (.error e) n regs seen) ∨
    (d.Clear 5 ∧ serdesStat = false ∧ ∃ n regs, regs txReg = d.hw txReg ∧
      Leads (changeRate rate serdesStat) d (.ok ()) n regs ((packetsFor rate).map performed)) ∨
    (d.Clear 5 ∧ serdesStat = true ∧ ∃ n regs seen, regs txReg = txValue true (d.hw txReg) ∧
      Leads (changeRate rate serdesStat) d (.ok ()) n regs ((packetsFor rate).map performed ++ seen)) ∨
    (d.Clear 5 ∧ ∃ e n regs seen,
      Leads (changeRate rate serdesStat) d (.error e) n regs (seen ++ [.txSet true (.error e)])) := by
  have hwrites := packetsFor_writes rate
  rcases chainOper_cases hwrites.2 d with ⟨hclear, regs, hregs, hok⟩ | ⟨hclear, e, packets', n,
    regs, seen, hregs,
    hseen, hok⟩
  case inr =>
    have hstop : Leads (changeRate rate serdesStat) d (.error e) (0 + n) regs (seen ++ []) :=
      hok.bind (Leads.stop (Leads.ofResult rfl))
    rw [List.append_nil] at hstop
    exact .inl ⟨hwrites.1 ▸ hclear, e, _, regs, seen, hregs, hseen, hstop⟩
  have hclear5 : d.Clear 5 := hwrites.1 ▸ hclear
  cases serdesStat with
  | false =>
      have hdone := leads_changeRate false hok (Leads.pure ())
      rw [List.append_nil] at hdone
      exact .inr (.inl ⟨hclear5, rfl, _, _, hregs, hdone⟩)
  | true =>
      rcases setTxState_cases true (d.after (packetsFor rate).length regs) with
        ⟨-, seen, -, hset⟩ | ⟨-, e, n, regs', seen, hset⟩
      · refine .inr (.inr (.inl ⟨hclear5, rfl, _, txSetRegs true regs, _, ?_,
          leads_changeRate true hok hset⟩))
        rw [txSetRegs, Function.update_self, hregs]
      · have hstop := leads_changeRate true hok hset
        rw [← List.append_assoc] at hstop
        exact .inr (.inr (.inr ⟨hclear5, e, _, regs', _, hstop⟩))

/-! ## The transmitter -/

theorem keepsTransmitter_iff_of_leads {rc : Except Errno Unit} {n : Nat} {regs : Registers} {seen : List Seen}
    (h : Leads (setRate rate) d rc n regs seen) :
    KeepsTransmitter rate d ↔ (TxSetsSucceed seen → Kept rate d.hw regs rc seen) := by
  have hout := h []
  rw [List.nil_append] at hout
  constructor
  · rintro ⟨rc', d', hout', hkept⟩
    obtain ⟨hrc, rfl⟩ := Prod.mk.inj (hout'.symm.trans hout)
    rw [outcome_injective hrc] at hkept
    exact hkept
  · exact fun hkept => ⟨rc, _, hout, hkept⟩

theorem kept_of_txReg_eq {regs regs' : Registers} {rc : Except Errno Unit} {seen : List Seen}
    (h : regs' txReg = regs txReg)
    (hperformed : rc = .ok () → speedOf (regs rateReg) ≠ some rate →
    (packetsFor rate).map performed <:+: seen) :
    Kept rate regs regs' rc seen :=
  ⟨by rw [h], fun _ _ => by rw [h], hperformed⟩

theorem txSetsSucceed_append {seen seen' : List Seen} :
    TxSetsSucceed (seen ++ seen') ↔ TxSetsSucceed seen ∧ TxSetsSucceed seen' := by
  constructor
  · intro h
    exact ⟨fun state rc hmem => h state rc (List.mem_append_left _ hmem),
      fun state rc hmem => h state rc (List.mem_append_right _ hmem)⟩
  · rintro ⟨h, h'⟩ state rc hmem
    exact (List.mem_append.mp hmem).elim (h state rc) (h' state rc)

theorem txSetsSucceed_txSet {state : Bool} {rc : Except Errno Unit} :
    TxSetsSucceed [.txSet state rc] ↔ rc = .ok () := by
  refine ⟨fun h => h state rc List.mem_cons_self, fun h state' rc' hmem => ?_⟩
  cases List.mem_singleton.mp hmem
  exact h

theorem Opers.txSetsSucceed {seen : List Seen} (h : Opers seen) : TxSetsSucceed seen := by
  intro state rc hmem
  obtain ⟨packet, rc', hs⟩ := h _ hmem
  cases hs

theorem leads_setRate {r : Bool × MediaSpeed} {serdesStat : Bool} {rc : Except Errno Unit} {n : Nat}
    {regs regs' : Registers} {status tx off change : List Seen} (hne : r.2 ≠ rate)
    (hstatus : Leads getLineSideStatus d (.ok r) 2 d.hw status)
    (htx : Leads getTxState (d.after 2 d.hw) (.ok serdesStat) 1 d.hw tx)
    (hoff : Leads (setTxState false) (d.after 3 d.hw) (.ok ()) 2 regs off)
    (h : Leads (changeRate rate serdesStat) (d.after 5 regs) rc n regs' change) :
    Leads (setRate rate) d rc (n + 2 + 1 + 2) regs' (status ++ (tx ++ (off ++ change))) := by
  refine hstatus.bind ?_
  rw [if_neg hne]
  exact htx.bind (hoff.bind h)

theorem getLsbD_txValue (state : Bool) (data : BitVec 16) {i : Nat} (hi : i < 16) :
    (txValue state data).getLsbD i = if i = 0 then !state else data.getLsbD i := by
  have hmask : aqTxStateSetBitmask.getLsbD i = decide (i = 0) := by
    rw [aqTxStateSetBitmask, BitVec.ofNat_eq_ofNat, BitVec.getLsbD_one]
    exact Bool.true_and _
  cases state with
  | false =>
      rw [txValue, if_neg (by decide), BitVec.getLsbD_or, hmask]
      by_cases h : i = 0 <;> simp [h]
  | true =>
      rw [txValue, if_pos rfl, BitVec.getLsbD_and, BitVec.getLsbD_not, hmask]
      by_cases h : i = 0 <;> simp [h, hi]

theorem txOn_iff (data : BitVec 16) : data &&& aqTxStateSetBitmask = 0 ↔ data.getLsbD 0 = false :=
  and_one_shiftLeft_eq_zero (k := 0) (by decide)

theorem txValue_eq_self {state : Bool} {data : BitVec 16} (h : data.getLsbD 0 = !state) :
    txValue state data = data := by
  refine BitVec.eq_of_getLsbD_eq fun i hi => ?_
  rw [getLsbD_txValue state data hi]
  split
  · subst i
    exact h.symm
  · rfl

theorem txValue_true_false {data : BitVec 16} (h : data.getLsbD 0 = false) :
    txValue true (txValue false data) = data := by
  refine BitVec.eq_of_getLsbD_eq fun i hi => ?_
  rw [getLsbD_txValue true _ hi, getLsbD_txValue false _ hi]
  split
  · subst i
    exact h.symm
  · rfl

/-- The change of the rate with the transmitter switched off -/
theorem keepsTransmitter_iff_of_off {speed : MediaSpeed} {status tx off : List Seen} {link : Bool}
    (hspeed : speedOf (d.hw rateReg) = some speed) (hne : speed ≠ rate) (hclear : d.Clear 5)
    (hstatus : Leads getLineSideStatus d (.ok (link, speed)) 2 d.hw status) (hopers : Opers status)
    (htx : Leads getTxState (d.after 2 d.hw) (.ok (d.hw txReg &&& aqTxStateSetBitmask = 0)) 1 d.hw tx)
    (hopers' : Opers tx)
    (hoff : Leads (setTxState false) (d.after 3 d.hw) (.ok ()) 2 (txSetRegs false d.hw)
      (off ++ [.txSet false (.ok ())])) (hopers'' : Opers off) :
    KeepsTransmitter rate d ↔ ¬Strands rate d := by
  have hreg : txSetRegs false d.hw txReg = txValue false (d.hw txReg) := Function.update_self ..
  rcases changeRate_cases rate (d.hw txReg &&& aqTxStateSetBitmask = 0)
    (d.after 5 (txSetRegs false d.hw)) with
    ⟨hfail, e, n, regs, seen, hregs, hseen, h⟩ | ⟨hrest, hon, n, regs, hregs, h⟩ |
      ⟨hrest, hon, n, regs, seen, hregs, h⟩ | ⟨hrest, e, n, regs, seen, h⟩
  all_goals rw [keepsTransmitter_iff_of_leads (leads_setRate hne hstatus htx hoff h)]
  · have hsucceed : TxSetsSucceed (status ++ (tx ++ (off ++ [.txSet false (.ok ())] ++ seen))) := by
      simp only [txSetsSucceed_append, txSetsSucceed_txSet]
      exact ⟨hopers.txSetsSucceed, hopers'.txSetsSucceed, ⟨hopers''.txSetsSucceed, trivial⟩,
        hseen.txSetsSucceed⟩
    constructor
    · rintro hkept ⟨hon, -⟩
      have hdisable := (hkept hsucceed).disable_eq
      rw [hregs.trans hreg, getLsbD_txValue false _ (by decide), hon] at hdisable
      cases hdisable
    · intro hstrands _
      have htxOff : (d.hw txReg).getLsbD 0 = true := by
        by_contra hon
        exact hstrands ⟨(Bool.not_eq_true _).mp hon, hclear, ⟨speed, hspeed, hne⟩, hfail⟩
      exact kept_of_txReg_eq ((hregs.trans hreg).trans (txValue_eq_self htxOff)) fun h => nomatch h
  · refine iff_of_true (fun _ => kept_of_txReg_eq ?_ fun _ _ => ?_) fun hstrands => hstrands.2.2.2 hrest
    · have htxOff : (d.hw txReg).getLsbD 0 = true := by
        by_contra hbit
        exact of_decide_eq_false hon ((txOn_iff _).mpr ((Bool.not_eq_true _).mp hbit))
      exact (hregs.trans hreg).trans (txValue_eq_self htxOff)
    · exact ⟨status ++ (tx ++ (off ++ [.txSet false (.ok ())])), [],
        by simp only [List.append_assoc, List.append_nil]⟩
  · refine iff_of_true (fun _ => kept_of_txReg_eq ?_ fun _ _ => ?_) fun hstrands => hstrands.2.2.2 hrest
    · rw [hregs, after_hw, hreg, txValue_true_false ((txOn_iff _).mp (of_decide_eq_true hon))]
    · exact ⟨status ++ (tx ++ (off ++ [.txSet false (.ok ())])), seen, by simp only [List.append_assoc]⟩
  · refine iff_of_true (fun hsucceed => ?_) fun hstrands => hstrands.2.2.2 hrest
    simp only [txSetsSucceed_append, txSetsSucceed_txSet] at hsucceed
    exact nomatch hsucceed.2.2.2.2

theorem keepsTransmitter_iff (rate : MediaSpeed) (d : Device Empty Errno Registers) :
    KeepsTransmitter rate d ↔ ¬Strands rate d := by
  rcases getLineSideStatus_cases d with ⟨⟨link, speed⟩, status, hclear, hspeed, hopers, hok⟩ |
    ⟨hnone, e, n, seen, -, herr⟩
  case inr =>
    rw [keepsTransmitter_iff_of_leads herr.stop]
    refine iff_of_true (fun _ => kept_of_txReg_eq rfl fun h => nomatch h) ?_
    rintro ⟨-, hclear, ⟨speed, hspeed, -⟩, -⟩
    exact hnone ⟨hclear.mono (by decide), speed, hspeed⟩
  by_cases hne : speed = rate
  · have hdone : Leads (setRate rate) d (.ok ()) 2 d.hw status :=
      fun before => (Acts.out_bind_ok (hok before)).trans (congrArg (Acts.out · _) (if_pos hne))
    rw [keepsTransmitter_iff_of_leads hdone]
    refine iff_of_true (fun _ => kept_of_txReg_eq rfl fun _ hchange => absurd (hne ▸ hspeed) hchange) ?_
    rintro ⟨-, -, ⟨speed', hspeed', hne'⟩, -⟩
    rw [hspeed] at hspeed'
    exact hne' ((Option.some.inj hspeed').symm.trans hne)
  rcases getTxState_cases (d.after 2 d.hw) with ⟨hclear', tx, hopers', htx⟩ | ⟨hclear', e, n, tx, -, herr⟩
  case inr =>
    have hstop : Leads (setRate rate) d (.error e) (n + 2) d.hw (status ++ tx) := by
      refine hok.bind ?_
      rw [if_neg hne]
      exact herr.stop
    rw [keepsTransmitter_iff_of_leads hstop]
    refine iff_of_true (fun _ => kept_of_txReg_eq rfl fun h => nomatch h) ?_
    rintro ⟨-, hclear5, -⟩
    exact hclear' ((@clear_add _ _ _ d 2 1 d.hw).mp (hclear5.mono (by decide))).2
  rcases setTxState_cases false (d.after 3 d.hw) with ⟨hclear'', off, hopers'', hoff⟩ | ⟨hclear'', e, n,
    regs, off, herr⟩
  case inr =>
    have hstop : Leads (setRate rate) d (.error e) (n + 1 + 2) regs
        (status ++ (tx ++ (off ++ [.txSet false (.error e)]))) := by
      refine hok.bind ?_
      rw [if_neg hne]
      exact htx.bind herr.stop
    rw [keepsTransmitter_iff_of_leads hstop]
    refine iff_of_true (fun hsucceed => ?_) ?_
    · simp only [txSetsSucceed_append, txSetsSucceed_txSet] at hsucceed
      exact nomatch hsucceed.2.2.2
    · rintro ⟨-, hclear5, -⟩
      exact hclear'' ((@clear_add _ _ _ d 3 2 d.hw).mp hclear5).2
  have hclear5 : d.Clear 5 :=
    (@clear_add _ _ _ d 3 2 d.hw).mpr ⟨(@clear_add _ _ _ d 2 1 d.hw).mpr ⟨hclear, hclear'⟩, hclear''⟩
  exact keepsTransmitter_iff_of_off hspeed hne hclear5 hok hopers htx hopers' hoff hopers''

/-- A module at 1G whose transmitter is on. The first operation of the sequence for another rate fails. -/
def strandedDevice : Device Empty Errno Registers where
  held := nofun
  fault t := if t = 5 then some .eio else none
  time := 0
  hw reg := if reg = rateReg then 0x0004 else 0

theorem not_keepsTransmitter_stranded : ¬KeepsTransmitter .s10G strandedDevice := by
  rintro ⟨rc, d', hout, hkept⟩
  have hd' : ((setRate .s10G).out (strandedDevice.recorded [])).2 = d' := congrArg Prod.snd hout
  subst hd'
  have hsucceed : TxSetsSucceed ((setRate .s10G).out (strandedDevice.recorded [])).2.hw.2 := by
    change TxSetsSucceed [.oper _ _, .oper _ _, .oper _ _, .oper _ _, .oper _ _,
      .txSet false (.ok ()), .oper _ _]
    intro state rc hmem
    simp only [List.mem_cons, reduceCtorEq, Seen.txSet.injEq, false_or, or_false, List.not_mem_nil] at hmem
    exact hmem.2
  have hdisable := (hkept hsucceed).disable_eq
  revert hdisable
  decide

end OpxSdi.Media.Aq
