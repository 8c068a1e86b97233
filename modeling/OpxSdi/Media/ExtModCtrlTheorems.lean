import OpxSdi.Lib.Serves
import OpxSdi.Media.ExtModCtrl

/-!
# Operations that a module completes

A chain of operations that reports success has had each of them completed by the module, and ends at one
that the module does not complete. What breaks this is an operation whose status does not show done in any
of its polls: it is no error.
-/

namespace OpxSdi.Media.ExtMod

open Lib Device

variable {L ε σ : Type} {m : Machine σ} {packet : OperPacket} {d d' d'' : Device L ε σ}

/-! ## Operations -/

/-- A command, and what passes the mailbox after it until the next one, in order -/
structure Operation (ε : Type) where
  bytes : List Byte
  rc : Except ε Unit
  replies : List (Reply ε)

/-- What comes before the first command, and the operations after it -/
def gather : List (Event ε) → List (Reply ε) × List (Operation ε)
  | [] => ([], [])
  | .command bytes rc :: es =>
      let r := gather es
      ([], ⟨bytes, rc, r.1⟩ :: r.2)
  | .reply reply :: es =>
      let r := gather es
      (reply :: r.1, r.2)

def operations (es : List (Event ε)) : List (Operation ε) := (gather es).2

def Done (status : Byte) : Prop := pollState status = statusPollCompleteState

instance (status : Byte) : Decidable (Done status) := inferInstanceAs (Decidable (_ = _))

/-- The number of polls before the timeout -/
def pollCount : Nat := statusPollMaxTimeoutMs / statusPollIntervalMs

/-- Polls that do not fail -/
def polls (statuses : List Byte) : List (Reply ε) := statuses.map fun status => .poll (.ok status)

/-- What is read for a packet that has this data after the read -/
def OperPacket.collects (packet : OperPacket) (data : BitVec 16) : List (Reply ε) :=
  match packet.oper with
  | .memRead => [.data (.ok [data.extractLsb' 8 8, data.extractLsb' 0 8])]
  | .memWrite => []

namespace Operation

/-- The module completes the operation of the packet: a poll shows done, and what is read after it is the data of
the packet. -/
structure Performs (op : Operation ε) (packet : OperPacket) (data : BitVec 16) : Prop where
  bytes_eq : op.bytes = packet.setBuf
  rc_eq : op.rc = .ok ()
  replies_eq : ∃ statuses status, op.replies = polls (statuses ++ [status]) ++ packet.collects data ∧
    statuses.length < pollCount ∧ Done status

def TimesOut (op : Operation ε) : Prop :=
  ∃ statuses, op.replies = polls statuses ∧ statuses.length = pollCount ∧ ∀ status ∈ statuses, ¬Done status

def EndsInError (op : Operation ε) : Prop :=
  ∃ statuses status, op.replies = polls (statuses ++ [status]) ∧ pollState status = statusPollErrorState

/-- The module has the command and does not complete it. -/
def Unfinished (op : Operation ε) : Prop := op.rc = .ok () ∧ (op.TimesOut ∨ op.EndsInError)

end Operation

/-- The operations are those of the packets, in order, and the module completes each of them. -/
def Performed : (packets packets' : List OperPacket) → List (Operation ε) → Prop
  | [], [], [] => True
  | packet :: packets, packet' :: packets', op :: ops =>
      op.Performs packet packet'.dataBufBigEndian ∧ Performed packets packets' ops
  | _, _, _ => False

/-- What the return code of a chain says about its operations. -/
structure Reports (packets : List OperPacket) (rc : Except ε Unit) (packets' : List OperPacket)
    (ops : List (Operation ε)) : Prop where
  completed : rc = .ok () → Performed packets packets' ops
  stopped : ∀ pre op post, ops = pre ++ op :: post → op.Unfinished → (∃ e, rc = .error e) ∧ post = []

/-- A chain on a module returns, and its return code is right about its operations. -/
def Machine.ReportsCompletion (m : Machine σ) (packets : List OperPacket) (d : Device L ε σ) : Prop :=
  ∃ rc packets' d', Ok (chainOper m.mail packets) (d.recorded []) (rc, packets') d' ∧
    Reports packets rc packets' (operations d'.hw.2)

/-! ## What the module makes of an operation -/

namespace Machine

variable (m)

def writes : (cmd : BitVec 32) → List Byte → σ → σ
  | _, [], s => s
  | cmd, b :: bs, s => writes (cmd + 1) bs (m.write s (cmd.setWidth 8) b)

def reads : (cmd : BitVec 32) → (n : Nat) → σ → List Byte × σ
  | _, 0, s => ([], s)
  | cmd, n + 1, s =>
      let r := m.read s (cmd.setWidth 8)
      let rs := reads (cmd + 1) n r.2
      (r.1 :: rs.1, rs.2)

def commanded (packet : OperPacket) (s : σ) : σ := m.writes activeDevMemAddrOffset packet.setBuf s

/-- The status byte of the next poll -/
def polled (s : σ) : Byte × σ := m.read (m.work s) (ctrlStatusOffset.setWidth 8)

def statuses : (polls : Nat) → σ → List Byte
  | 0, _ => []
  | polls + 1, s => (m.polled s).1 :: statuses polls (m.polled s).2

def afterPolls : (polls : Nat) → σ → σ
  | 0, s => s
  | polls + 1, s => afterPolls polls (m.polled s).2

/-- Poll `k` is the first one that shows done. -/
def DoneAt (s : σ) (k : Nat) : Prop :=
  (∀ status ∈ m.statuses k s, ¬Done status) ∧ Done (m.polled (m.afterPolls k s)).1

theorem statuses_mem {s : σ} {k n : Nat} (h : k < n) : (m.polled (m.afterPolls k s)).1 ∈ m.statuses n s := by
  induction n generalizing s k with
  | zero => exact absurd h (Nat.not_lt_zero k)
  | succ n ih =>
      cases k with
      | zero => exact List.mem_cons_self
      | succ k => exact List.mem_cons_of_mem _ (ih (Nat.lt_of_succ_lt_succ h))

theorem statuses_length (n : Nat) (s : σ) : (m.statuses n s).length = n := by
  induction n generalizing s with
  | zero => rfl
  | succ n ih => exact congrArg (· + 1) (ih _)

theorem statuses_succ (k : Nat) (s : σ) :
    m.statuses (k + 1) s = m.statuses k s ++ [(m.polled (m.afterPolls k s)).1] := by
  induction k generalizing s with
  | zero => rfl
  | succ k ih => exact congrArg _ (ih _)

end Machine

def OperPacket.dataOps (packet : OperPacket) : Nat :=
  match packet.oper with
  | .memRead => dataBufSize
  | .memWrite => 0

def Machine.collected (m : Machine σ) (packet : OperPacket) (s : σ) : σ :=
  match packet.oper with
  | .memRead => (m.reads dataMsbOffset dataBufSize s).2
  | .memWrite => s

/-- The module completes the operation in one of the polls, and no transaction fails. -/
def Machine.Completes (m : Machine σ) (packet : OperPacket) (d d' : Device L ε σ) : Prop :=
  ∃ k < pollCount, m.DoneAt (m.commanded packet d.hw) k ∧ d.Clear (6 + (k + 1) + packet.dataOps) ∧
    d' = d.after (6 + (k + 1) + packet.dataOps)
      (m.collected packet (m.afterPolls (k + 1) (m.commanded packet d.hw)))

/-- The command is written, and none of the polls, which do not fail either, shows done. -/
def Machine.Stalls (m : Machine σ) (packet : OperPacket) (d : Device L ε σ) : Prop :=
  d.Clear (6 + pollCount) ∧ ∀ status ∈ m.statuses pollCount (m.commanded packet d.hw), ¬Done status

/-- No operation stalls that the chain starts. -/
def Machine.NoneStalls (m : Machine σ) : List OperPacket → Device L ε σ → Prop
  | [], _ => True
  | packet :: packets, d => ¬m.Stalls packet d ∧ ∀ d', m.Completes packet d d' → NoneStalls m packets d'

theorem Machine.Completes.not_stalls (h : m.Completes packet d d') : ¬m.Stalls packet d := by
  obtain ⟨k, hk, hdone, -, -⟩ := h
  rintro ⟨-, hnever⟩
  exact hnever _ (m.statuses_mem hk) hdone.2

theorem Machine.DoneAt.unique {s : σ} {k k' : Nat} (h : m.DoneAt s k) (h' : m.DoneAt s k') : k = k' := by
  rcases Nat.lt_trichotomy k k' with hlt | heq | hgt
  · exact absurd h.2 (h'.1 _ (m.statuses_mem hlt))
  · exact heq
  · exact absurd h'.2 (h.1 _ (m.statuses_mem hgt))

theorem Machine.Completes.unique (h : m.Completes packet d d') (h' : m.Completes packet d d'') :
    d' = d'' := by
  obtain ⟨k, -, hdone, -, rfl⟩ := h
  obtain ⟨k', -, hdone', -, rfl⟩ := h'
  rw [hdone.unique hdone']

/-! ## Transactions -/

namespace Machine

variable (m)

theorem serves_writeMultiByte (cmd : BitVec 32) (bs : List Byte) :
    Serves (m.writeMultiByte cmd bs : Device.M L ε σ Unit) bs.length fun s => ((), m.writes cmd bs s) := by
  induction bs generalizing cmd with
  | nil => exact Serves.pure ()
  | cons b bs ih => exact ((Serves.access _).bind fun _ => ih (cmd + 1)).of_eq (Nat.add_comm 1 _)

theorem serves_readMultiByte (cmd : BitVec 32) (n : Nat) :
    Serves (m.readMultiByte cmd n : Device.M L ε σ (List Byte)) n (m.reads cmd n) := by
  induction n generalizing cmd with
  | zero => exact Serves.pure []
  | succ n ih =>
      refine Serves.of_eq ?_ (Nat.add_comm 1 n)
      exact (Serves.access _).bind fun b => (ih (cmd + 1)).bind fun bs => Serves.pure (b :: bs)

theorem serves_poll : Serves (do
    Device.internal fun s => ((), m.work s)
    m.readByte ctrlStatusOffset : Device.M L ε σ Byte) 1 m.polled :=
  (Serves.internal _).bind fun _ => Serves.access _

end Machine

/-! ## The record -/

def Operation.events (op : Operation ε) : List (Event ε) := .command op.bytes op.rc :: op.replies.map .reply

theorem gather_replies (replies : List (Reply ε)) (es : List (Event ε)) :
    gather (replies.map .reply ++ es) = (replies ++ (gather es).1, (gather es).2) := by
  induction replies with
  | nil => rfl
  | cons reply replies ih => rw [List.map_cons, List.cons_append, gather, ih, List.cons_append]

theorem gather_flatMap (ops : List (Operation ε)) : gather (ops.flatMap Operation.events) = ([], ops) := by
  induction ops with
  | nil => rfl
  | cons op ops ih =>
      rw [List.flatMap_cons, Operation.events, List.cons_append, gather, gather_replies, ih, List.append_nil]

theorem operations_flatMap (ops : List (Operation ε)) : operations (ops.flatMap Operation.events) = ops := by
  rw [operations, gather_flatMap]

/-! ## One operation -/

/-- The record of polls that do not fail -/
def shown (statuses : List Byte) : List (Event ε) := (polls statuses).map .reply

theorem polls_append (as bs : List Byte) : (polls (as ++ bs) : List (Reply ε)) = polls as ++ polls bs :=
  List.map_append

theorem polls_inj {as bs : List Byte} : (polls as : List (Reply ε)) = polls bs ↔ as = bs :=
  List.map_inj_right fun _ _ h => Except.ok.inj (Reply.poll.inj h)

/-- After a poll that does not show done, the others come. -/
theorem pollUntilDone_next {n : Nat} {is : List (Event ε)} (hclear : d.Clear 1) (hdone : ¬Done (m.polled d.hw).1) :
    (pollUntilDone m.mail (n + 1)).out (d.recorded is) = (pollUntilDone m.mail n).out
      ((d.after 1 (m.polled d.hw).2).recorded (is ++ [.reply (.poll (.ok (m.polled d.hw).1))])) := by
  rcases (m.serves_poll (L := L)).observed (fun _ rc => Event.reply (.poll rc)) d is with ⟨-, hok⟩ | ⟨hfails, -⟩
  · refine (Acts.out_bind_ok hok).trans ?_
    rw [if_neg (show ¬pollState _ = _ from hdone)]
  · exact absurd hclear hfails

/-- One of the polls shows done, or none of them does, or one fails. -/
theorem pollUntilDone_cases (n : Nat) (d : Device L ε σ) (is : List (Event ε)) :
    (∃ k < n, m.DoneAt d.hw k ∧ d.Clear (k + 1) ∧ Ok (pollUntilDone m.mail n) (d.recorded is) true
      ((d.after (k + 1) (m.afterPolls (k + 1) d.hw)).recorded (is ++ shown (m.statuses (k + 1) d.hw)))) ∨
    ((∀ status ∈ m.statuses n d.hw, ¬Done status) ∧ d.Clear n ∧
      Ok (pollUntilDone m.mail n) (d.recorded is) false
        ((d.after n (m.afterPolls n d.hw)).recorded (is ++ shown (m.statuses n d.hw)))) ∨
    ∃ k < n, (∀ status ∈ m.statuses k d.hw, ¬Done status) ∧ ¬d.Clear (k + 1) ∧
      ∃ (e : ε) (d' : Device L ε σ), Err (pollUntilDone m.mail n) (d.recorded is) e
        (d'.recorded (is ++ shown (m.statuses k d.hw) ++ [.reply (.poll (.error e))])) := by
  induction n generalizing d is with
  | zero =>
      refine .inr (.inl ⟨fun _ h => absurd h List.not_mem_nil, d.clear_zero, ok_pure.mpr ⟨rfl, ?_⟩⟩)
      rw [Machine.statuses, shown, polls, List.map_nil, List.map_nil, List.append_nil]
      rfl
  | succ n ih =>
      rcases (m.serves_poll (L := L)).observed (fun _ rc => Event.reply (.poll rc)) d is with ⟨hclear, hok⟩ | ⟨hclear, e, d', herr⟩
      · by_cases hdone : Done (m.polled d.hw).1
        · refine .inl ⟨0, Nat.succ_pos n, ⟨fun _ h => absurd h List.not_mem_nil, hdone⟩, hclear,
            ok_bind.mpr ⟨_, _, hok, ?_⟩⟩
          rw [if_pos (show pollState _ = _ from hdone)]
          exact ok_pure.mpr ⟨rfl, rfl⟩
        · have hcons : ∀ k, (∀ status ∈ m.statuses k (m.polled d.hw).2, ¬Done status) →
              ∀ status ∈ m.statuses (k + 1) d.hw, ¬Done status :=
            fun k h status hs => (List.mem_cons.mp hs).elim (fun heq => heq ▸ hdone) (h status)
          have hstep : ∀ k, d.Clear (k + 1) ↔ (d.after 1 (m.polled d.hw).2).Clear k := fun k => by
            rw [Nat.add_comm, clear_add, and_iff_right hclear]
          have hih := ih (d.after 1 (m.polled d.hw).2) (is ++ [.reply (.poll (.ok (m.polled d.hw).1))])
          simp only [Ok, Err, ← pollUntilDone_next hclear hdone, ← hstep, after_after, List.append_assoc,
            Nat.add_comm 1] at hih
          rcases hih with ⟨k, hk, hdoneAt, hclear', hok'⟩ | ⟨hnever, hclear', hok'⟩ |
            ⟨k, hk, hnever, hclear', e, d', herr⟩
          · exact .inl ⟨k + 1, Nat.succ_lt_succ hk, ⟨hcons k hdoneAt.1, hdoneAt.2⟩, hclear', hok'⟩
          · exact .inr (.inl ⟨hcons n hnever, hclear', hok'⟩)
          · refine .inr (.inr ⟨k + 1, Nat.succ_lt_succ hk, hcons k hnever, hclear', e, d', ?_⟩)
            rw [List.append_assoc]
            exact herr
      · refine .inr (.inr ⟨0, Nat.succ_pos n, fun _ h => absurd h List.not_mem_nil, hclear, e, d',
          err_bind.mpr (.inl ?_)⟩)
        rw [Machine.statuses, shown, polls, List.map_nil, List.map_nil, List.append_nil]
        exact herr

theorem not_done_of_pollState_error {status : Byte} (h : pollState status = statusPollErrorState) :
    ¬Done status := by
  rw [Done, h]
  decide

theorem mem_polls {reply : Reply ε} {statuses : List Byte} :
    reply ∈ (polls statuses : List (Reply ε)) ↔ ∃ status ∈ statuses, .poll (.ok status) = reply := List.mem_map

/-- An operation that is not completed ends with its polls, of which the last one does not show done. -/
theorem Operation.Unfinished.replies_eq {op : Operation ε} (h : op.Unfinished) :
    ∃ statuses, op.replies = polls statuses ∧ ∀ status, statuses.getLast? = some status → ¬Done status := by
  obtain ⟨-, ⟨statuses, hreplies, -, hnever⟩ | ⟨statuses, status, hreplies, herror⟩⟩ := h
  · exact ⟨statuses, hreplies, fun status hlast => hnever status (List.mem_of_getLast? hlast)⟩
  · refine ⟨_, hreplies, fun status' hlast => ?_⟩
    rw [List.getLast?_concat] at hlast
    obtain rfl := Option.some.inj hlast
    exact not_done_of_pollState_error herror

/-- The last poll shows done, and only data comes after it. -/
theorem Operation.not_unfinished_of_done {op : Operation ε} {statuses : List Byte} {status : Byte}
    {rest : List (Reply ε)} (hreplies : op.replies = polls (statuses ++ [status]) ++ rest) (hdone : Done status)
    (hrest : ∀ reply ∈ rest, ∃ rc, reply = .data rc) : ¬op.Unfinished := by
  intro h
  obtain ⟨statuses', hreplies', hlast⟩ := h.replies_eq
  rw [hreplies'] at hreplies
  have hnil : rest = [] := List.eq_nil_iff_forall_not_mem.mpr fun reply hreply => by
    obtain ⟨rc, rfl⟩ := hrest reply hreply
    obtain ⟨status', -, heq⟩ := mem_polls.mp (hreplies ▸ List.mem_append_right _ hreply)
    cases heq
  rw [hnil, List.append_nil, polls_inj] at hreplies
  exact hlast status (by rw [hreplies, List.getLast?_concat]) hdone

theorem collects_data {data : BitVec 16} {reply : Reply ε} (h : reply ∈ packet.collects data) :
    ∃ rc, reply = .data rc := by
  unfold OperPacket.collects at h
  split at h
  · exact ⟨_, List.mem_singleton.mp h⟩
  · cases h

theorem Operation.Performs.not_unfinished {op : Operation ε} {data : BitVec 16}
    (h : op.Performs packet data) : ¬op.Unfinished := by
  obtain ⟨statuses, status, hreplies, -, hdone⟩ := h.replies_eq
  exact not_unfinished_of_done hreplies hdone fun reply => collects_data

/-- A poll fails. -/
theorem Operation.not_unfinished_of_failed {op : Operation ε} {e : ε} (h : .poll (.error e) ∈ op.replies) :
    ¬op.Unfinished := by
  intro hop
  obtain ⟨statuses, hreplies, -⟩ := hop.replies_eq
  obtain ⟨status, -, heq⟩ := mem_polls.mp (hreplies ▸ h)
  cases heq

/-- The command, the polls that do not fail, and what comes after them -/
def begun (packet : OperPacket) (statuses : List Byte) (rest : List (Reply ε)) : Operation ε :=
  ⟨packet.setBuf, .ok (), polls statuses ++ rest⟩

theorem begun_events (packet : OperPacket) (statuses : List Byte) (rest : List (Reply ε)) (is : List (Event ε)) :
    is ++ (begun packet statuses rest).events =
      is ++ [.command packet.setBuf (.ok ())] ++ shown statuses ++ rest.map .reply := by
  simp only [begun, Operation.events, shown, List.map_append, List.append_assoc, List.cons_append, List.nil_append]

theorem setBuf_length : packet.setBuf.length = 6 := rfl

/-- The data that is put together from two bytes is that of a read of them. -/
theorem collects_append (hread : packet.oper = .memRead) (msb lsb : Byte) :
    (packet.collects (msb ++ lsb : BitVec (8 + 8)) : List (Reply ε)) = [.data (.ok [msb, lsb])] := by
  have hmsb : (msb ++ lsb : BitVec (8 + 8)).extractLsb' 8 8 = msb :=
    (BitVec.extractLsb'_append_eq_of_le (Nat.le_refl 8)).trans BitVec.extractLsb'_eq_self
  have hlsb : (msb ++ lsb : BitVec (8 + 8)).extractLsb' 0 8 = lsb :=
    (BitVec.extractLsb'_append_eq_of_add_le (Nat.le_refl 8)).trans BitVec.extractLsb'_eq_self
  rw [OperPacket.collects, hread, hmsb, hlsb]

/-- After a poll that shows done, the data is collected iff no transaction fails. -/
theorem collectData_cases (packet : OperPacket) (d : Device L ε σ) (is : List (Event ε)) :
    (d.Clear packet.dataOps ∧ ∃ data : BitVec 16, Ok (collectData m.mail true packet) (d.recorded is) data
      ((d.after packet.dataOps (m.collected packet d.hw)).recorded (is ++ (packet.collects data).map .reply))) ∨
    (¬d.Clear packet.dataOps ∧ ∃ (e : ε) (d' : Device L ε σ), Err (collectData m.mail true packet) (d.recorded is) e
      (d'.recorded (is ++ [.reply (.data (.error e))]))) := by
  obtain ⟨memAddr, regOffset, data, oper⟩ := packet
  cases oper with
  | memWrite =>
      refine .inl ⟨d.clear_zero, data, ?_⟩
      rw [collectData, if_pos (.inr rfl), OperPacket.collects, List.map_nil, List.append_nil]
      exact ok_pure.mpr ⟨rfl, rfl⟩
  | memRead =>
      have hif : ¬((true : Bool) = false ∨ Oper.memRead = Oper.memWrite) := by decide
      rw [collectData, if_neg hif]
      rcases (m.serves_readMultiByte (L := L) dataMsbOffset dataBufSize).observed
        (fun _ rc => Event.reply (.data rc)) d is with ⟨hclear, hok⟩ | ⟨hclear, e, d', herr⟩
      · refine .inl ⟨hclear, _, ok_bind.mpr ⟨_, _, hok, ok_pure.mpr ⟨rfl, ?_⟩⟩⟩
        rw [collects_append rfl]
        rfl
      · exact .inr ⟨hclear, e, d', err_bind.mpr (.inl herr)⟩

/-- The module completes the operation, or it stalls, or a transaction fails. -/
inductive Outcome (m : Machine σ) (packet : OperPacket) (d : Device L ε σ) (is : List (Event ε)) : Prop
  | completed (op : Operation ε) (data : BitVec 16) (d' : Device L ε σ) (hcompletes : m.Completes packet d d')
      (hperforms : op.Performs packet data)
      (hok : Ok (performOperOn m.mail packet) (d.recorded is) data (d'.recorded (is ++ op.events)))
  | stalled (op : Operation ε) (d' : Device L ε σ) (hstalls : m.Stalls packet d) (hop : op.Unfinished)
      (hok : Ok (performOperOn m.mail packet) (d.recorded is) packet.dataBufBigEndian
        (d'.recorded (is ++ op.events)))
  | failed (op : Operation ε) (e : ε) (d' : Device L ε σ) (hstalls : ¬m.Stalls packet d)
      (hcompletes : ∀ d'', ¬m.Completes packet d d'') (hop : ¬op.Unfinished)
      (herr : Err (performOperOn m.mail packet) (d.recorded is) e (d'.recorded (is ++ op.events)))

section

variable {is : List (Event ε)} {k : Nat}
  (hcmd : Ok (m.mail.command packet.setBuf) (d.recorded is) ()
    ((d.after 6 (m.commanded packet d.hw)).recorded (is ++ [.command packet.setBuf (.ok ())])))

include hcmd

theorem Outcome.of_done (hk : k < pollCount) (hdone : m.DoneAt (m.commanded packet d.hw) k)
    (hclear : d.Clear (6 + (k + 1)))
    (hpolled : Ok (pollUntilDone m.mail pollCount)
      ((d.after 6 (m.commanded packet d.hw)).recorded (is ++ [.command packet.setBuf (.ok ())])) true
      ((d.after (6 + (k + 1)) (m.afterPolls (k + 1) (m.commanded packet d.hw))).recorded
        (is ++ [.command packet.setBuf (.ok ())] ++ shown (m.statuses (k + 1) (m.commanded packet d.hw))))) :
    Outcome m packet d is := by
  have hpolls : ∀ rest : List (Reply ε), (begun packet (m.statuses (k + 1) (m.commanded packet d.hw)) rest).replies =
      polls (m.statuses k (m.commanded packet d.hw) ++
        [(m.polled (m.afterPolls k (m.commanded packet d.hw))).1]) ++ rest := fun rest => by
    rw [begun, m.statuses_succ]
  rcases collectData_cases (m := m) packet
    (d.after (6 + (k + 1)) (m.afterPolls (k + 1) (m.commanded packet d.hw)))
    (is ++ [.command packet.setBuf (.ok ())] ++ shown (m.statuses (k + 1) (m.commanded packet d.hw))) with
    ⟨hcollects, data, hok⟩ | ⟨hcollects, e, d', herr⟩
  · refine .completed (begun packet (m.statuses (k + 1) (m.commanded packet d.hw)) (packet.collects data)) data _
      ⟨k, hk, hdone, clear_add.mpr ⟨hclear, hcollects⟩, rfl⟩
      ⟨rfl, rfl, _, _, hpolls _, (m.statuses_length _ _).symm ▸ hk, hdone.2⟩
      (ok_bind.mpr ⟨_, _, hcmd, ok_bind.mpr ⟨_, _, hpolled, ?_⟩⟩)
    rw [begun_events]
    rw [after_after] at hok
    exact hok
  · refine .failed (begun packet (m.statuses (k + 1) (m.commanded packet d.hw)) [.data (.error e)]) e d'
      (fun h => h.2 _ (m.statuses_mem hk) hdone.2) (fun d'' ⟨k', _, hdone', h, _⟩ => ?_)
      (Operation.not_unfinished_of_done (hpolls _) hdone.2 fun _ h => ⟨_, List.mem_singleton.mp h⟩)
      (err_bind.mpr (.inr ⟨_, _, hcmd, err_bind.mpr (.inr ⟨_, _, hpolled, ?_⟩)⟩))
    · rw [hdone'.unique hdone] at h
      exact hcollects (clear_add.mp h).2
    · rw [begun_events]
      exact herr

theorem Outcome.of_never (hnever : ∀ status ∈ m.statuses pollCount (m.commanded packet d.hw), ¬Done status)
    (hclear : d.Clear (6 + pollCount))
    (hpolled : Ok (pollUntilDone m.mail pollCount)
      ((d.after 6 (m.commanded packet d.hw)).recorded (is ++ [.command packet.setBuf (.ok ())])) false
      ((d.after (6 + pollCount) (m.afterPolls pollCount (m.commanded packet d.hw))).recorded
        (is ++ [.command packet.setBuf (.ok ())] ++ shown (m.statuses pollCount (m.commanded packet d.hw))))) :
    Outcome m packet d is := by
  refine .stalled (begun packet (m.statuses pollCount (m.commanded packet d.hw)) [])
    (d.after (6 + pollCount) (m.afterPolls pollCount (m.commanded packet d.hw))) ⟨hclear, hnever⟩
    ⟨rfl, .inl ⟨_, List.append_nil _, m.statuses_length _ _, hnever⟩⟩
    (ok_bind.mpr ⟨_, _, hcmd, ok_bind.mpr ⟨_, _, hpolled, ?_⟩⟩)
  rw [begun_events, collectData, if_pos (.inl rfl), List.map_nil, List.append_nil]
  exact ok_pure.mpr ⟨rfl, rfl⟩

theorem Outcome.of_failed_poll {e : ε} (hk : k < pollCount)
    (hnever : ∀ status ∈ m.statuses k (m.commanded packet d.hw), ¬Done status) (hfails : ¬d.Clear (6 + (k + 1)))
    (hpolled : Err (pollUntilDone m.mail pollCount)
      ((d.after 6 (m.commanded packet d.hw)).recorded (is ++ [.command packet.setBuf (.ok ())])) e
      (d'.recorded (is ++ [.command packet.setBuf (.ok ())] ++ shown (m.statuses k (m.commanded packet d.hw)) ++
        [.reply (.poll (.error e))]))) :
    Outcome m packet d is := by
  refine .failed (begun packet (m.statuses k (m.commanded packet d.hw)) [.poll (.error e)]) e d'
    (fun h => hfails (h.1.mono (Nat.add_le_add_left hk 6))) (fun d'' ⟨k', _, hdone, h, _⟩ => hfails ?_)
    (Operation.not_unfinished_of_failed List.mem_concat_self) (err_bind.mpr (.inr ⟨_, _, hcmd, err_bind.mpr (.inl ?_)⟩))
  · have hle : k ≤ k' := Nat.le_of_not_lt fun hlt => hnever _ (m.statuses_mem hlt) hdone.2
    exact (h.mono (Nat.le_add_right _ _)).mono (Nat.add_le_add_left (Nat.succ_le_succ hle) 6)
  · rw [begun_events]
    exact hpolled

end

theorem performOper_outcome (packet : OperPacket) (d : Device L ε σ) (is : List (Event ε)) :
    Outcome m packet d is := by
  rcases (m.serves_writeMultiByte (L := L) activeDevMemAddrOffset packet.setBuf).observed
    (fun _ => Event.command packet.setBuf) d is with ⟨hclear, hcmd⟩ | ⟨hclear, e, d', herr⟩
  · rw [setBuf_length] at hclear hcmd
    have hbegun : ∀ n, (d.after 6 (m.commanded packet d.hw)).Clear n ↔ d.Clear (6 + n) := fun n => by
      rw [clear_add, and_iff_right hclear]
    have hpolls := pollUntilDone_cases (m := m) pollCount (d.after 6 (m.commanded packet d.hw))
      (is ++ [.command packet.setBuf (.ok ())])
    simp only [hbegun, after_after] at hpolls
    rcases hpolls with ⟨k, hk, hdone, hclear, hok⟩ | ⟨hnever, hclear, hok⟩ | ⟨k, hk, hnever, hfails, e, d', herr⟩
    · exact .of_done hcmd hk hdone hclear hok
    · exact .of_never hcmd hnever hclear hok
    · exact .of_failed_poll hcmd hk hnever hfails herr
  · rw [setBuf_length] at hclear
    exact .failed ⟨packet.setBuf, .error e, []⟩ e d' (fun h => hclear (h.1.mono (Nat.le_add_right 6 _)))
      (fun d'' ⟨k, _, _, h, _⟩ => hclear (h.mono (by omega))) (fun h => nomatch h.1) (err_bind.mpr (.inl herr))

/-! ## Chains -/

theorem reports_nil : Reports [] (.ok ()) [] ([] : List (Operation ε)) :=
  ⟨fun _ => trivial, fun pre _ _ h => absurd h.symm
    (List.append_ne_nil_of_right_ne_nil pre (List.cons_ne_nil _ _))⟩

variable {packets packets' : List OperPacket} {rc : Except ε Unit} {op : Operation ε}
  {ops : List (Operation ε)}

theorem reports_cons {data : BitVec 16} (h : op.Performs packet data) :
    Reports (packet :: packets) rc ({ packet with dataBufBigEndian := data } :: packets') (op :: ops) ↔
      Reports packets rc packets' ops := by
  constructor
  · rintro ⟨hcompleted, hstopped⟩
    refine ⟨fun hrc => (hcompleted hrc).2, fun pre op' post heq hop' => hstopped (op :: pre) op' post ?_ hop'⟩
    rw [heq, List.cons_append]
  · rintro ⟨hcompleted, hstopped⟩
    refine ⟨fun hrc => ⟨h, hcompleted hrc⟩, fun pre op' post heq hop' => ?_⟩
    cases pre with
    | nil =>
        obtain ⟨rfl, -⟩ := List.cons.inj heq
        exact absurd hop' h.not_unfinished
    | cons op'' pre => exact hstopped pre op' post (List.cons.inj heq).2 hop'

/-- The chain ends with an operation whose transactions fail. -/
theorem reports_error {e : ε} (h : ¬op.Unfinished) : Reports packets (.error e) packets' [op] := by
  refine ⟨fun hrc => (nomatch hrc), fun pre op' post heq hop' => ?_⟩
  cases pre with
  | nil =>
      obtain ⟨rfl, -⟩ := List.cons.inj heq
      exact absurd hop' h
  | cons op'' pre =>
      have hempty := (List.cons.inj heq).2.symm
      exact absurd hempty (List.append_ne_nil_of_right_ne_nil pre (List.cons_ne_nil _ _))

/-- The chain returns. Its return code is right about its operations iff none of them stalls. -/
theorem chainOper_cases (packets : List OperPacket) (d : Device L ε σ) (is : List (Event ε)) :
    ∃ rc packets' ops, ∃ d' : Device L ε σ,
      Ok (chainOper m.mail packets) (d.recorded is) (rc, packets')
        (d'.recorded (is ++ ops.flatMap Operation.events)) ∧
      (Reports packets rc packets' ops ↔ m.NoneStalls packets d) ∧ (ops = [] → rc = .ok ()) := by
  induction packets generalizing d is with
  | nil =>
      refine ⟨.ok (), [], [], d, ok_pure.mpr ⟨rfl, ?_⟩, iff_of_true reports_nil trivial, fun _ => rfl⟩
      rw [List.flatMap_nil, List.append_nil]
  | cons packet packets ih =>
      cases performOper_outcome (m := m) packet d is with
      | completed op data d1 hcompletes hperforms hok =>
          obtain ⟨rc, packets', ops, d', hchain, hiff, -⟩ := ih d1 (is ++ op.events)
          refine ⟨rc, { packet with dataBufBigEndian := data } :: packets', op :: ops, d', ?_, ?_,
            fun h => absurd h (List.cons_ne_nil _ _)⟩
          · rw [List.flatMap_cons, ← List.append_assoc]
            exact ok_attempt_bind.mpr (.inl ⟨data, _, hok, ok_bind.mpr ⟨_, _, hchain, ok_pure.mpr ⟨rfl, rfl⟩⟩⟩)
          · rw [reports_cons hperforms, hiff]
            exact ⟨fun h => ⟨hcompletes.not_stalls, fun d'' h' => hcompletes.unique h' ▸ h⟩,
              fun h => h.2 d1 hcompletes⟩
      | stalled op d1 hstalls hop hok =>
          obtain ⟨rc, packets', ops, d', hchain, -, hnil⟩ := ih d1 (is ++ op.events)
          refine ⟨rc, packet :: packets', op :: ops, d', ?_, iff_of_false (fun h => ?_) fun h => h.1 hstalls,
            fun h => absurd h (List.cons_ne_nil _ _)⟩
          · rw [List.flatMap_cons, ← List.append_assoc]
            exact ok_attempt_bind.mpr (.inl ⟨_, _, hok, ok_bind.mpr ⟨_, _, hchain, ok_pure.mpr ⟨rfl, rfl⟩⟩⟩)
          · obtain ⟨⟨e, herr⟩, hempty⟩ := h.stopped [] op ops rfl hop
            rw [hnil hempty] at herr
            cases herr
      | failed op e d1 hstalls hcompletes hop herr =>
          refine ⟨.error e, packet :: packets, [op], d1, ?_,
            iff_of_true (reports_error hop) ⟨hstalls, fun d'' h => absurd h (hcompletes d'')⟩,
            fun h => absurd h (List.cons_ne_nil _ _)⟩
          rw [List.flatMap_singleton]
          exact ok_attempt_bind.mpr (.inr ⟨e, _, herr, ok_pure.mpr ⟨rfl, rfl⟩⟩)

theorem Machine.ReportsCompletion.noneStalls (h : m.ReportsCompletion packets d) :
    m.NoneStalls packets d := by
  obtain ⟨rc, packets', ops, d', hok, hiff, -⟩ := chainOper_cases (m := m) packets d []
  obtain ⟨rc', packets'', d'', hok', h⟩ := h
  obtain ⟨heq, rfl⟩ := hok'.unique hok
  cases heq
  rw [recorded_hw, List.nil_append, operations_flatMap] at h
  exact hiff.mp h

theorem Machine.reportsCompletion_iff (m : Machine σ) (packets : List OperPacket) (d : Device L ε σ) :
    m.ReportsCompletion packets d ↔ m.NoneStalls packets d := by
  refine ⟨ReportsCompletion.noneStalls, fun h => ?_⟩
  obtain ⟨rc, packets', ops, d', hok, hiff, -⟩ := chainOper_cases (m := m) packets d []
  refine ⟨rc, packets', _, hok, ?_⟩
  rw [recorded_hw, List.nil_append, operations_flatMap]
  exact hiff.mpr h

/-- A module that is in the error state at each poll -/
def failingMachine : Machine Unit where
  write _ _ _ := ()
  read _ _ := (0x08, ())
  work _ := ()

def failingDevice : Device PinGroup Errno Unit := ⟨fun _ => false, fun _ => none, 0, ()⟩

/-- The read of a register that the module refuses -/
def refusedPacket : OperPacket := ⟨aqTxStateSetAddr, 0x0009, 0, .memRead⟩

theorem not_reportsCompletion_refused : ¬failingMachine.ReportsCompletion [refusedPacket] failingDevice := by
  intro h
  have hstalls : failingMachine.Stalls refusedPacket failingDevice := ⟨fun _ _ => rfl, by decide +kernel⟩
  exact h.noneStalls.1 hstalls

end OpxSdi.Media.ExtMod
