import Mathlib.Data.List.FinRange
import OpxSdi.Lib.Bits
import OpxSdi.Lib.Locked
import OpxSdi.Media.Phy

/-!
# Channels of a QSFP 4X1 1000BASE-T module (`sdi_qsfp_4X1_1000baseT.c`)

Each of the four channels of the module has a PHY. All of them have one address, behind a mux in the module.
A call connects its channel and then uses the PHY, each in transactions of its own. The transactions of a
call are kept together only by the lock of a pin group that selects the module, if it has one.
-/

namespace OpxSdi.Media

open Lib

/-! ## A PHY between the transactions of other calls (`sdi_media_phy_mgmt.c`) -/

inductive PhyWordOp
  | readWord (offset : BitVec 8)
  | writeWord (offset : BitVec 8) (w : BitVec 16)
  deriving DecidableEq, Repr

namespace PhyWordOp

def Resp : PhyWordOp → Type
  | readWord _ => BitVec 16
  | writeWord _ _ => Unit

def exec : (op : PhyWordOp) → Phy → op.Resp × Phy
  | readWord offset => Phy.readWord offset
  | writeWord offset w => Phy.writeWord offset w

end PhyWordOp

abbrev PhyAccess := ExceptT Errno (Access PhyWordOp PhyWordOp.Resp Errno)

namespace PhyAccess

open Phy

def sfpPhyWrite (regOffset : BitVec 8) (regData : BitVec 16) : PhyAccess Unit :=
  Access.call (PhyWordOp.writeWord regOffset ((regData >>> 8) ||| (regData <<< 8)))

def sfpPhyRead (regOffset : BitVec 8) : PhyAccess (BitVec 16) := do
  let wordBuf ← Access.call (PhyWordOp.readWord regOffset)
  return Phy.swap wordBuf

def attempt {α : Type} (x : PhyAccess α) : PhyAccess (Except Errno α) := ExceptT.lift x.run

def mediaPhySwReset : PhyAccess Unit := do
  let regData ← attempt (sfpPhyRead ctrlReg)
  sfpPhyWrite ctrlReg (regData.toOption.getD 0 ||| ctrlReset)

def cusfpPhyAutonegSet (enable : Bool) : PhyAccess Unit := do
  let regData ← sfpPhyRead ctrlReg
  let regData := if enable then regData ||| ctrlAe else regData &&& ~~~ctrlAe
  sfpPhyWrite ctrlReg regData
  if regData &&& ctrlPd = 0 then mediaPhySwReset else return

def cusfpPhyModeSet (mode : MediaMode) : PhyAccess Unit := do
  let regData ← sfpPhyRead extStatus2Reg
  let regData := if mode = .sgmii then sgmiiMode else regData
  sfpPhyWrite extStatus2Reg regData
  if regData &&& ctrlPd = 0 then mediaPhySwReset else return

def cusfpPhySpeedSet (speed : MediaSpeed) : PhyAccess Unit := do
  let abilGB := if speed = .s1G then gbCtrlAdv1000Fd else 0
  let abil := if speed = .s100M then anaFd100 ||| anaFd10 else if speed = .s10M then anaFd10 else 0
  let regData ← sfpPhyRead anaReg
  sfpPhyWrite anaReg ((regData &&& ~~~(anaHd10 ||| anaFd10 ||| anaHd100 ||| anaFd100)) ||| abil)
  let regData ← sfpPhyRead gbCtrlReg
  sfpPhyWrite gbCtrlReg ((regData &&& ~~~(gbCtrlAdv1000Fd ||| gbCtrlAdv1000Hd)) ||| abilGB)

end PhyAccess

/-! ## The module -/

/-- The mux connects the channels whose bits are set. -/
structure QuadModule where
  mux : Byte
  phy : Fin 4 → Phy

inductive QuadOp
  | select (value : Byte)
  | phy (op : PhyWordOp)
  deriving DecidableEq, Repr

namespace QuadOp

def Resp : QuadOp → Type
  | select _ => Unit
  | phy op => op.Resp

end QuadOp

namespace QuadModule

def connects (q : QuadModule) (channel : Fin 4) : Bool := q.mux.getLsbD channel

/-- PHYs that are connected together pull the lines of the bus down together. -/
def readWord (q : QuadModule) (offset : BitVec 8) : BitVec 16 :=
  ((List.finRange 4).filter q.connects).foldl (fun w channel => w &&& (Phy.readWord offset (q.phy channel)).1)
    (.allOnes 16)

def writeWord (q : QuadModule) (offset : BitVec 8) (w : BitVec 16) : QuadModule :=
  { q with phy := fun channel =>
      if q.connects channel then (Phy.writeWord offset w (q.phy channel)).2 else q.phy channel }

def exec : (op : QuadOp) → QuadModule → op.Resp × QuadModule
  | .select value, q => ((), { q with mux := value })
  | .phy (.readWord offset), q => (q.readWord offset, q)
  | .phy (.writeWord offset w), q => ((), q.writeWord offset w)

end QuadModule

/-! ## Settings of a channel -/

section

variable (M : Type)

abbrev ModuleOp := M × QuadOp

abbrev ModuleOp.Resp (op : ModuleOp M) : Type := op.2.Resp

abbrev ModuleAccess := Access (ModuleOp M) (ModuleOp.Resp M) Errno

def quadRegisters : Registers (ModuleOp M) (ModuleOp.Resp M) M QuadModule where
  loc op := op.1
  exec op := QuadModule.exec op.2

end

variable {T M L α : Type}

/-- The transactions with a PHY, made with the module. -/
def onModule (module : M) : Access PhyWordOp PhyWordOp.Resp Errno α → ModuleAccess M α
  | .ret a => .ret a
  | .io op k => .io (module, .phy op) fun r => onModule module (k r)

def channelSelMuxVal (channel : Fin 4) : Byte := 1#8 <<< channel.val

def muxWriteByte (module : M) (value : Byte) : ExceptT Errno (ModuleAccess M) Unit :=
  ExceptT.mk (.io (module, .select value) .ret)

def channelSelect (module : M) (channel : BitVec 32) : ExceptT Errno (ModuleAccess M) Unit :=
  if h : channel.toNat < 4 then muxWriteByte module (channelSelMuxVal ⟨channel.toNat, h⟩) else throw .param

inductive PhySetting
  | autoneg (enable : Bool)
  | mode (mode : MediaMode)
  | speed (speed : MediaSpeed)
  deriving DecidableEq, Repr

def PhySetting.set : PhySetting → PhyAccess Unit
  | .autoneg enable => PhyAccess.cusfpPhyAutonegSet enable
  | .mode m => PhyAccess.cusfpPhyModeSet m
  | .speed s => PhyAccess.cusfpPhySpeedSet s

/-- `sdi_qsfp_4X1_1000baseT_autoneg_set`, `sdi_qsfp_4X1_1000baseT_mode_set` and
`sdi_qsfp_4X1_1000baseT_speed_set` -/
def quadPhySet (module : M) (channel : BitVec 32) (setting : PhySetting) :
    ExceptT Errno (ModuleAccess M) Unit := do
  channelSelect module channel
  ExceptT.mk (onModule module setting.set.run)

/-- A setting that a thread makes. -/
structure PhyCall (T M : Type) where
  thread : T
  module : M
  channel : BitVec 32
  setting : PhySetting

/-- `sdi_qsfp_phy_autoneg_set`, `sdi_qsfp_phy_mode_set` and `sdi_qsfp_phy_speed_set`. `selectLock` is the lock
of the first pin group that selects a module. Without one, a call has only what no other thread takes. -/
def qsfpPhySet (selectLock : M → Option L) (c : PhyCall T M) :
    LockedCall (L ⊕ T) (ModuleOp M) (ModuleOp.Resp M) Errno (Except Errno Unit) where
  lock := (selectLock c.module).elim (.inr c.thread) .inl
  body := (quadPhySet c.module c.channel c.setting).run
  refused := .error

/-! ## One call at a time

Without other calls a setting does to a PHY what the functions of `Phy.lean` do.
-/

/-- The transactions one after another on a PHY. -/
def atOnce : Access PhyWordOp PhyWordOp.Resp Errno α → PhyM α
  | .ret a => return a
  | .io op k => do
      let r ← Device.attempt (Device.access op.exec)
      atOnce (k r)

/-- All at once `x` returns and leaves what `y` does. -/
def Matches (x : PhyAccess α) (y : PhyM α) : Prop :=
  ∀ d, ∃ r d', (atOnce x.run).out d = (.ok r, d') ∧ y.out d = (Device.outcome r, d')

theorem atOnce_bind {β : Type} (x : Access PhyWordOp PhyWordOp.Resp Errno α)
    (f : α → Access PhyWordOp PhyWordOp.Resp Errno β) :
    atOnce (x.bind f) = atOnce x >>= fun a => atOnce (f a) := by
  induction x with
  | ret a => rw [Access.bind, atOnce, pure_bind]
  | io op k ih => simp only [Access.bind, atOnce, ih, bind_assoc]

namespace Matches

variable {β : Type}

theorem pure (a : α) : Matches (Pure.pure a) (Pure.pure a) := fun d => ⟨.ok a, d, rfl, rfl⟩

theorem call (op : PhyWordOp) : Matches (Access.call op) (Device.access op.exec) := by
  intro d
  have hout : ∀ {r d'}, (Device.access op.exec : PhyM op.Resp).out d = (Device.outcome r, d') →
      (atOnce (Access.call op).run).out d = (.ok r, d') := fun h => Acts.out_bind_ok (Device.out_attempt h)
  cases hfault : d.fault d.time with
  | some e => exact ⟨.error e, _, hout (Device.out_access_error hfault), Device.out_access_error hfault⟩
  | none => exact ⟨.ok _, _, hout (Device.out_access_ok hfault), Device.out_access_ok hfault⟩

theorem attempt {x : PhyAccess α} {y : PhyM α} (h : Matches x y) :
    Matches (PhyAccess.attempt x) (Device.attempt y) := by
  intro d
  obtain ⟨r, d', hx, hy⟩ := h d
  refine ⟨.ok r, d', ?_, Device.out_attempt hy⟩
  have hrun : (PhyAccess.attempt x).run = x.run.bind fun r => .ret (.ok r) := rfl
  rw [hrun, atOnce_bind, Acts.out_bind_ok hx]
  rfl

theorem bind {x : PhyAccess α} {y : PhyM α} {f : α → PhyAccess β} {g : α → PhyM β} (h : Matches x y)
    (hf : ∀ a, Matches (f a) (g a)) : Matches (x >>= f) (y >>= g) := by
  intro d
  obtain ⟨r, d', hx, hy⟩ := h d
  have hrun : (atOnce (x >>= f).run).out d = (atOnce (ExceptT.bindCont f r)).out d' :=
    (congrArg (Acts.out · d) (atOnce_bind _ _)).trans (Acts.out_bind_ok hx)
  cases r with
  | error e => exact ⟨.error e, d', hrun, Acts.out_bind_error hy⟩
  | ok a =>
      obtain ⟨r', d'', hfa, hga⟩ := hf a d'
      exact ⟨r', d'', hrun.trans hfa, (Acts.out_bind_ok hy).trans hga⟩

end Matches

namespace PhyAccess

open Phy

theorem matches_sfpPhyWrite (regOffset : BitVec 8) (regData : BitVec 16) :
    Matches (sfpPhyWrite regOffset regData) (Media.sfpPhyWrite regOffset regData) :=
  .call _

theorem matches_sfpPhyRead (regOffset : BitVec 8) :
    Matches (sfpPhyRead regOffset) (Media.sfpPhyRead regOffset) :=
  (Matches.call (.readWord regOffset)).bind fun _ => .pure _

theorem matches_mediaPhySwReset : Matches mediaPhySwReset Media.mediaPhySwReset :=
  (matches_sfpPhyRead ctrlReg).attempt.bind fun _ => matches_sfpPhyWrite _ _

theorem matches_resetUnlessPd (regData : BitVec 16) :
    Matches (if regData &&& ctrlPd = 0 then mediaPhySwReset else return)
      (if regData &&& ctrlPd = 0 then Media.mediaPhySwReset else return) := by
  split
  · exact matches_mediaPhySwReset
  · exact .pure _

theorem matches_cusfpPhyAutonegSet (enable : Bool) :
    Matches (cusfpPhyAutonegSet enable) (Media.cusfpPhyAutonegSet enable) :=
  (matches_sfpPhyRead ctrlReg).bind fun _ => (matches_sfpPhyWrite _ _).bind fun _ => matches_resetUnlessPd _

theorem matches_cusfpPhyModeSet (mode : MediaMode) :
    Matches (cusfpPhyModeSet mode) (Media.cusfpPhyModeSet mode) :=
  (matches_sfpPhyRead extStatus2Reg).bind fun _ =>
    (matches_sfpPhyWrite _ _).bind fun _ => matches_resetUnlessPd _

theorem matches_cusfpPhySpeedSet (speed : MediaSpeed) :
    Matches (cusfpPhySpeedSet speed) (Media.cusfpPhySpeedSet speed) :=
  (matches_sfpPhyRead anaReg).bind fun _ => (matches_sfpPhyWrite _ _).bind fun _ =>
    (matches_sfpPhyRead gbCtrlReg).bind fun _ => matches_sfpPhyWrite _ _

end PhyAccess

/-! ## One channel of a module -/

theorem getLsbD_channelSelMuxVal (channel other : Fin 4) :
    (channelSelMuxVal channel).getLsbD other = decide (other = channel) := by
  revert channel other
  decide

theorem filter_eq_channel (channel : Fin 4) :
    (List.finRange 4).filter (fun other => other = channel) = [channel] := by
  revert channel
  decide

namespace QuadModule

variable {q : QuadModule} {channel : Fin 4}

theorem connects_channelSelMuxVal (hmux : q.mux = channelSelMuxVal channel) (other : Fin 4) :
    q.connects other = decide (other = channel) := by
  rw [connects, hmux, getLsbD_channelSelMuxVal]

theorem readWord_of_connected (hmux : q.mux = channelSelMuxVal channel) (offset : BitVec 8) :
    q.readWord offset = (Phy.readWord offset (q.phy channel)).1 := by
  have hfilter : (List.finRange 4).filter q.connects = [channel] := by
    rw [List.filter_congr fun other _ => connects_channelSelMuxVal hmux other, filter_eq_channel]
  rw [readWord, hfilter, List.foldl_cons, List.foldl_nil, BitVec.allOnes_and]

theorem writeWord_of_connected (hmux : q.mux = channelSelMuxVal channel) (offset : BitVec 8) (w : BitVec 16) :
    q.writeWord offset w =
      { q with phy := Function.update q.phy channel (Phy.writeWord offset w (q.phy channel)).2 } := by
  have hphy : (fun other =>
      if q.connects other then (Phy.writeWord offset w (q.phy other)).2 else q.phy other) =
      Function.update q.phy channel (Phy.writeWord offset w (q.phy channel)).2 := by
    funext other
    rw [connects_channelSelMuxVal hmux]
    by_cases h : other = channel
    · subst h
      simp
    · simp [h]
  rw [writeWord, hphy]

/-- A transaction with the PHY of a channel alone. -/
def execOn (q : QuadModule) (channel : Fin 4) (op : PhyWordOp) : op.Resp × QuadModule :=
  ((op.exec (q.phy channel)).1, { q with phy := Function.update q.phy channel (op.exec (q.phy channel)).2 })

theorem exec_of_connected (hmux : q.mux = channelSelMuxVal channel) (op : PhyWordOp) :
    exec (.phy op) q = q.execOn channel op := by
  cases op with
  | readWord offset =>
      refine Prod.ext (readWord_of_connected hmux offset) ?_
      exact congrArg (mk q.mux) (Function.update_eq_self channel q.phy).symm
  | writeWord offset w => exact Prod.ext rfl (writeWord_of_connected hmux offset w)

@[simp] theorem mux_exec_phy (op : PhyWordOp) : (exec (.phy op) q).2.mux = q.mux := by
  cases op <;> rfl

end QuadModule

/-! ## Calls on the channels -/

section

variable [DecidableEq T] [DecidableEq M] [DecidableEq L]

abbrev QuadSystem (T M L : Type) :=
  LockedSystem T (PhyCall T M) (L ⊕ T) M QuadModule (ModuleOp M) (ModuleOp.Resp M) Errno (Except Errno Unit)

def runQuad (selectLock : M → Option L) (modules : M → QuadModule)
    (events : List (CallEvent T (PhyCall T M) Errno)) : QuadSystem T M L :=
  run (LockedSystem.step (quadRegisters M) (qsfpPhySet selectLock)) (.start modules) events

end

/-- The calls that thread `t` may make. -/
def MayCall (may : T → M → BitVec 32 → Prop) (t : T) (c : PhyCall T M) : Prop :=
  c.thread = t ∧ may t c.module c.channel

/-- Each transaction that a call is about to make with a PHY is one with the PHY of its channel alone. -/
def ReachOwn (s : QuadSystem T M L) : Prop :=
  ∀ t c module op k, s.stage t = .inside c (.io (module, .phy op) k) → module = c.module ∧
    ∃ channel : Fin 4, channel.val = c.channel.toNat ∧
      QuadModule.exec (.phy op) (s.regs module) = (s.regs module).execOn channel op

/-! ### Points of a call -/

def PhyOf (module : M) (op : ModuleOp M) : Prop := op.1 = module ∧ ∃ phyOp, op.2 = .phy phyOp

theorem uses_onModule (module : M) (x : Access PhyWordOp PhyWordOp.Resp Errno α) :
    (onModule module x).Uses (PhyOf module) := by
  induction x with
  | ret a => trivial
  | io op k ih => exact ⟨⟨rfl, op, rfl⟩, ih⟩

def Connected (c : PhyCall T M) (modules : M → QuadModule) : Prop :=
  ∃ channel : Fin 4, channel.val = c.channel.toNat ∧ (modules c.module).mux = channelSelMuxVal channel

/-- A call has not selected its channel, or is over, or uses the PHYs while its channel is connected. -/
def Point (selectLock : M → Option L) (may : T → M → BitVec 32 → Prop) (t : T) (c : PhyCall T M)
    (p : ModuleAccess M (Except Errno Unit)) (modules : M → QuadModule) : Prop :=
  MayCall may t c ∧
    (p = (qsfpPhySet selectLock c).body ∨ (∃ r, p = .ret r) ∨ p.Uses (PhyOf c.module) ∧ Connected c modules)

variable {selectLock : M → Option L} {may : T → M → BitVec 32 → Prop} {c : PhyCall T M}

/-- What a call does after its selection. -/
def afterSelect (c : PhyCall T M) : Except Errno Unit → ModuleAccess M (Except Errno Unit)
  | .ok _ => onModule c.module c.setting.set.run
  | .error e => .ret (.error e)

theorem body_of_channel (h : c.channel.toNat < 4) : (qsfpPhySet selectLock c).body =
    .io (c.module, .select (channelSelMuxVal ⟨c.channel.toNat, h⟩)) (afterSelect c) := by
  simp only [qsfpPhySet, quadPhySet, channelSelect, dif_pos h]
  refine congrArg (Access.io _) (funext fun r => ?_)
  cases r <;> rfl

theorem body_of_no_channel (h : ¬c.channel.toNat < 4) :
    (qsfpPhySet selectLock c).body = .ret (.error .param) := by
  simp only [qsfpPhySet, quadPhySet, channelSelect, dif_neg h]
  rfl

section

variable [DecidableEq M] {t u : T} {p p' : ModuleAccess M (Except Errno Unit)} {modules : M → QuadModule}
  {c' : PhyCall T M}

/-- One transaction of a call: what is left of it, and what it may have done to the muxes. -/
theorem Point.step (h : Point selectLock may t c p modules) (fault : Option Errno) :
    Point selectLock may t c (Access.step (quadRegisters M) (p, modules) fault).1
        (Access.step (quadRegisters M) (p, modules) fault).2 ∧
      ∀ m, ((Access.step (quadRegisters M) (p, modules) fault).2 m).mux = (modules m).mux ∨
        m = c.module ∧ Connected c (Access.step (quadRegisters M) (p, modules) fault).2 := by
  obtain ⟨hmay, rfl | ⟨r, rfl⟩ | ⟨huses, hconnected⟩⟩ := h
  · by_cases hchannel : c.channel.toNat < 4
    · rw [body_of_channel hchannel]
      cases fault with
      | some e => exact ⟨⟨hmay, .inr (.inl ⟨_, rfl⟩)⟩, fun _ => .inl rfl⟩
      | none =>
          have hstep : (Access.step (quadRegisters M)
              (.io (c.module, .select (channelSelMuxVal ⟨c.channel.toNat, hchannel⟩))
                (afterSelect c), modules)
                none).2 = Function.update modules c.module
                  { modules c.module with mux := channelSelMuxVal ⟨c.channel.toNat, hchannel⟩ } := rfl
          have hconnected : Connected c (Function.update modules c.module
              { modules c.module with mux := channelSelMuxVal ⟨c.channel.toNat, hchannel⟩ }) :=
            ⟨⟨c.channel.toNat, hchannel⟩, rfl, by rw [Function.update_self]⟩
          rw [hstep]
          refine ⟨⟨hmay, .inr (.inr ⟨uses_onModule _ _, hconnected⟩)⟩, fun m => ?_⟩
          by_cases hm : m = c.module
          · exact .inr ⟨hm, hconnected⟩
          · rw [Function.update_of_ne hm]
            exact .inl rfl
    · rw [body_of_no_channel hchannel]
      exact ⟨⟨hmay, .inr (.inl ⟨_, rfl⟩)⟩, fun _ => .inl rfl⟩
  · exact ⟨⟨hmay, .inr (.inl ⟨r, rfl⟩)⟩, fun _ => .inl rfl⟩
  · have hmux : ∀ m, ((Access.step (quadRegisters M) (p, modules) fault).2 m).mux = (modules m).mux := by
      intro m
      cases p with
      | ret r => rfl
      | io op k =>
          cases fault with
          | some e => rfl
          | none =>
              obtain ⟨module, op⟩ := op
              obtain ⟨rfl, op, rfl⟩ := huses.1
              by_cases hm : m = c.module
              · subst hm
                exact (congrArg QuadModule.mux (Function.update_self ..)).trans (QuadModule.mux_exec_phy op)
              · exact congrArg QuadModule.mux (Function.update_of_ne hm _ _)
    obtain ⟨channel, hchannel, hsel⟩ := hconnected
    exact ⟨⟨hmay, .inr (.inr ⟨huses.step fault, channel, hchannel, (hmux _).trans hsel⟩)⟩,
      fun m => .inl (hmux m)⟩

/-- Two threads that set channels of a module without a select lock set the same one. -/
def OneChannel (selectLock : M → Option L) (may : T → M → BitVec 32 → Prop) : Prop :=
  ∀ module, selectLock module = none → ∀ t u a b, t ≠ u → may t module a → may u module b →
    a.toNat < 4 → b.toNat < 4 → a = b

theorem Point.free (hone : OneChannel selectLock may) (hne : u ≠ t)
    (hlock : (qsfpPhySet selectLock c').lock ≠ (qsfpPhySet selectLock c).lock)
    (h : Point selectLock may t c p modules) (h' : Point selectLock may u c' p' modules)
    (fault : Option Errno) :
    Point selectLock may u c' p' (Access.step (quadRegisters M) (p, modules) fault).2 := by
  obtain ⟨hmay, hbody | hret | ⟨huses, channel, hchannel, hmux⟩⟩ := h'
  · exact ⟨hmay, .inl hbody⟩
  · exact ⟨hmay, .inr (.inl hret)⟩
  · refine ⟨hmay, .inr (.inr ⟨huses, channel, hchannel, ?_⟩)⟩
    obtain hsame | ⟨hmodule, other, hother, hmux'⟩ := (h.step fault).2 c'.module
    · exact hsame.trans hmux
    · have hnone : selectLock c.module = none := by
        cases hselect : selectLock c.module with
        | none => rfl
        | some l =>
            simp [qsfpPhySet, hmodule, hselect] at hlock
      have hsame : c'.channel = c.channel :=
        hone c.module hnone u t _ _ hne (hmodule ▸ hmay.2) h.1.2 (hchannel ▸ channel.isLt)
          (hother ▸ other.isLt)
      obtain rfl : other = channel := Fin.ext (hother.trans (hsame ▸ hchannel.symm))
      rw [hmodule]
      exact hmux'

theorem outline_quad [DecidableEq T] [DecidableEq L] (hone : OneChannel selectLock may) :
    LockedSystem.Outline (quadRegisters M) (qsfpPhySet selectLock) (MayCall may) (Point selectLock may) where
  start _ _ _ hmay := ⟨hmay, .inl rfl⟩
  step _ _ _ _ fault h := (h.step fault).1
  free _ _ _ _ _ _ _ fault hne hlock h h' := h.free hone hne hlock h' fault

end

section

variable [DecidableEq T] [DecidableEq M] [DecidableEq L] {s : QuadSystem T M L} {t u : T}

omit [DecidableEq T] [DecidableEq M] [DecidableEq L] in
theorem reachOwn_of_outlined
    (h : s.Outlined (qsfpPhySet selectLock) (MayCall may) (Point selectLock may)) : ReachOwn s := by
  intro t c module op k hstage
  obtain ⟨-, hbody | ⟨r, hret⟩ | ⟨huses, channel, hchannel, hmux⟩⟩ := h.at_point t c _ hstage
  · by_cases hlt : c.channel.toNat < 4
    · rw [body_of_channel hlt] at hbody
      cases hbody
    · rw [body_of_no_channel hlt] at hbody
      cases hbody
  · cases hret
  · obtain ⟨rfl, -⟩ := huses.1
    exact ⟨rfl, channel, hchannel, QuadModule.exec_of_connected hmux op⟩

/-! ### Two threads on two channels -/

theorem run_select (hidle : s.stage t = .idle) (hfree : s.owner (qsfpPhySet selectLock c).lock = none)
    (hchannel : c.channel.toNat < 4) :
    run (LockedSystem.step (quadRegisters M) (qsfpPhySet selectLock)) s [.call t c, .go t none, .go t none] =
      { s with
        owner := Function.update s.owner (qsfpPhySet selectLock c).lock (some t)
        regs := Function.update s.regs c.module ⟨channelSelMuxVal ⟨c.channel.toNat, hchannel⟩,
          (s.regs c.module).phy⟩
        stage := Function.update s.stage t (.inside c (afterSelect c (.ok ()))) } := by
  simp only [run_cons, run_nil, LockedSystem.step, hidle, LockedSystem.goOn, Function.update_self, hfree,
    body_of_channel hchannel, Function.update_idem]
  rfl

/-- The PHY of one channel has 0 in its registers, the others have 1. -/
def oneZero (channel : BitVec 32) : QuadModule :=
  ⟨0, fun other => ⟨fun _ => if other.val = channel.toNat then 0 else 1, false⟩⟩

theorem exec_ne_execOn {q : QuadModule} {a b : BitVec 32} {channel other : Fin 4}
    (hphy : q.phy = (oneZero a).phy)
    (hmux : q.mux = channelSelMuxVal other) (hchannel : channel.val = a.toNat) (hother : other.val = b.toNat)
    (hab : a ≠ b) (offset : BitVec 8) :
    QuadModule.exec (.phy (.readWord offset)) q ≠ q.execOn channel (.readWord offset) := by
  intro h
  rw [QuadModule.exec_of_connected hmux] at h
  have hread : (Phy.readWord offset (q.phy other)).1 = (Phy.readWord offset (q.phy channel)).1 :=
    (Prod.mk.inj h).1
  have hne : other.val ≠ a.toNat := fun heq => hab (BitVec.eq_of_toNat_eq (heq.symm.trans hother))
  simp only [hphy, oneZero, Phy.readWord, if_pos hchannel, if_neg hne] at hread
  exact absurd hread (by decide)

theorem not_reachOwn_of_two {module : M} (hnone : selectLock module = none) (hne : t ≠ u) {a b : BitVec 32}
    (hmay : may t module a) (hmay' : may u module b) (ha : a.toNat < 4) (hb : b.toNat < 4) (hab : a ≠ b) :
    ∃ events : List (CallEvent T (PhyCall T M) Errno), (∀ e ∈ events, LockedSystem.Allowed (MayCall may) e) ∧
      ¬ReachOwn (runQuad selectLock (fun _ => oneZero a) events) := by
  let first : PhyCall T M := ⟨t, module, a, .autoneg true⟩
  let second : PhyCall T M := ⟨u, module, b, .autoneg true⟩
  refine ⟨[.call t first, .go t none, .go t none] ++ [.call u second, .go u none, .go u none], ?_,
    fun hreach => ?_⟩
  · simp [LockedSystem.Allowed, MayCall, first, second, hmay, hmay']
  · have hlock : (qsfpPhySet selectLock second).lock ≠ (qsfpPhySet selectLock first).lock := by
      simp [qsfpPhySet, first, second, hnone, hne.symm]
    rw [runQuad, run_append, run_select (c := first) rfl rfl ha] at hreach
    rw [run_select (c := second) (Function.update_of_ne hne.symm _ _)
      (Function.update_of_ne hlock _ _) hb] at hreach
    obtain ⟨-, channel, hchannel, hexec⟩ := hreach t first module (.readWord Phy.ctrlReg) _
      ((Function.update_of_ne hne _ _).trans (Function.update_self ..))
    have hother : (⟨b.toNat, hb⟩ : Fin 4).val = b.toNat := rfl
    refine exec_ne_execOn (a := a) ?_ ?_ hchannel hother hab _ hexec
    · simp [first, second, LockedSystem.start]
    · simp [second]

/-- Whatever the interleaving and whatever fails, each transaction of a setting reaches the PHY of its
channel alone, if and only if every module is selected by a pin group, whose lock holds a call together, or
no two different threads set different channels of it. -/
theorem settings_reach_own_channel_iff (selectLock : M → Option L) (may : T → M → BitVec 32 → Prop) :
    (∀ (modules : M → QuadModule) (events : List (CallEvent T (PhyCall T M) Errno)),
      (∀ e ∈ events, LockedSystem.Allowed (MayCall may) e) → ReachOwn (runQuad selectLock modules events)) ↔
    OneChannel selectLock may := by
  constructor
  · intro h module hnone t u a b hne hmay hmay' ha hb
    by_contra hab
    obtain ⟨events, hevents, hnot⟩ := not_reachOwn_of_two hnone hne hmay hmay' ha hb hab
    exact hnot (h _ events hevents)
  · intro hone modules events hevents
    exact reachOwn_of_outlined ((outline_quad hone).run modules hevents)

end

end OpxSdi.Media
