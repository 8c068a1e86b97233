import OpxSdi.Common.StdError
import OpxSdi.Lib.Calls

/-!
# Bus lists (`sdi_bus_framework.c`)

The list of each bus type has a lock, under which nodes are put in, found and taken out. A node that has been found
is read after the lock has been given back.
-/

namespace OpxSdi.Framework

open Lib

inductive BusType
  | i2c | pin | pinGroup | pseudo | io | sfIo | bmcIo | fpgaPci
  deriving DecidableEq, Repr

/-- `SDI_MAX_NAME_LEN` -/
def maxNameLen : Nat := 64

structure Bus where
  busType : BusType
  busId : BitVec 32
  busName : List (BitVec 8)
  deriving DecidableEq

/-- `sdi_bus_search_type_t` with its argument -/
inductive BusSearch
  | byId (busId : BitVec 32)
  | byName (busName : List (BitVec 8))
  deriving DecidableEq

/-- Names are compared up to `SDI_MAX_NAME_LEN`. -/
def BusSearch.finds : BusSearch → Bus → Bool
  | .byId busId, bus => busId = bus.busId
  | .byName busName, bus => busName.take maxNameLen = bus.busName.take maxNameLen

/-- A handle is the address of a bus, a node the address of an element of a list. -/
abbrev BusHdl := Nat

abbrev NodeAddr := Nat

structure BusLists where
  list : BusType → List NodeAddr
  /-- The bus of a node, `none` if the node is not allocated. -/
  node : NodeAddr → Option BusHdl
  /-- The address of the next node. -/
  next : NodeAddr
  /-- Whether a node has been used that was not allocated. -/
  usedFreed : Bool

inductive BusListOp
  | enqueue (type : BusType) (hdl : BusHdl)
  | find (type : BusType) (p : BusHdl → Bool)
  /-- Reads `node->bus`. -/
  | readNode (a : NodeAddr)
  | dequeue (type : BusType) (a : NodeAddr)
  /-- Calls the function of `sdi_bus_for_each` for each bus. -/
  | visit (type : BusType)

def BusListOp.Resp : BusListOp → Type
  | .enqueue _ _ => Unit
  | .find _ _ => Option NodeAddr
  | .readNode _ => Option BusHdl
  | .dequeue _ _ => Unit
  | .visit _ => List BusHdl

namespace BusLists

def used (l : BusLists) (a : NodeAddr) : BusLists := { l with usedFreed := l.usedFreed || (l.node a).isNone }

def exec : (op : BusListOp) → BusLists → op.Resp × BusLists
  | .enqueue type hdl, l =>
      ((), { l with list := Function.update l.list type (l.list type ++ [l.next])
                    node := Function.update l.node l.next (some hdl)
                    next := l.next + 1 })
  | .find type p, l => ((l.list type).find? fun a => (l.node a).any p, l)
  | .readNode a, l => (l.node a, l.used a)
  | .dequeue type a, l =>
      ((), { l.used a with list := Function.update l.list type ((l.list type).erase a)
                           node := Function.update l.node a none })
  | .visit type, l => ((l.list type).filterMap l.node, l)

def port : Port BusListOp BusListOp.Resp BusLists Empty := ⟨exec, fun l _ => l⟩

end BusLists

/-! ## The calls -/

abbrev BusProc := Proc BusListOp BusListOp.Resp Unit Errno

/-- A handle, and `none` for `NULL`. -/
inductive BusResult
  | code (rc : TStdError)
  | handle (hdl : Option BusHdl)
  | visited (hdls : List BusHdl)
  deriving DecidableEq

section

variable (bus : BusHdl → Bus)

def busRegister (hdl : BusHdl) : BusProc BusResult :=
  .bus (.enqueue (bus hdl).busType hdl) fun
    | .error e => .ret (.code (.errcode e))
    | .ok _ => .ret (.code .ok)

def busDequeue (a : NodeAddr) (hdl : BusHdl) : BusProc BusResult :=
  .bus (.dequeue (bus hdl).busType a) fun
    | .error e => .ret (.code (.errcode e))
    | .ok _ => .ret (.code .ok)

/-- `sdi_bus_dequeue_list`. Nothing is known of what follows the use of a node that is not allocated. -/
def busDequeueList (a : NodeAddr) : BusProc BusResult :=
  .bus (.readNode a) fun
    | .error e => .ret (.code (.errcode e))
    | .ok none => .ret (.code (.errcode .efault))
    | .ok (some hdl) => busDequeue bus a hdl

/-- The assertion of `sdi_bus_unregister` ends a call for a bus that is not registered. -/
def busUnregister (hdl : BusHdl) : BusProc BusResult :=
  .bus (.find (bus hdl).busType fun h => h = hdl) fun
    | .error e => .ret (.code (.errcode e))
    | .ok none => .ret (.code (.errcode .efault))
    | .ok (some a) => busDequeueList bus a

/-- `return dll_node->bus` -/
def readHandle (a : NodeAddr) : BusProc BusResult :=
  .bus (.readNode a) fun
    | .error _ => .ret (.handle none)
    | .ok hdl => .ret (.handle hdl)

def busGetHandle (type : BusType) (search : BusSearch) : BusProc BusResult :=
  .bus (.find type fun h => search.finds (bus h)) fun
    | .error _ => .ret (.handle none)
    | .ok none => .ret (.handle none)
    | .ok (some a) => readHandle a

def busForEach (type : BusType) : BusProc BusResult :=
  .bus (.visit type) fun
    | .error e => .ret (.code (.errcode e))
    | .ok hdls => .ret (.visited hdls)

inductive BusCall
  | register (hdl : BusHdl)
  | unregister (hdl : BusHdl)
  | getHandle (type : BusType) (search : BusSearch)
  | forEach (type : BusType)
  deriving DecidableEq

def busCall : BusCall → BusProc BusResult
  | .register hdl => busRegister bus hdl
  | .unregister hdl => busUnregister bus hdl
  | .getHandle type search => busGetHandle bus type search
  | .forEach type => busForEach type

/-! ## Nodes that calls hold -/

/-- A call is at its beginning, or it holds a node that is allocated, or it has only to return. -/
inductive Point : BusCall → BusProc BusResult → BusLists → Prop
  | start (c : BusCall) (l : BusLists) : Point c (busCall bus c) l
  | found (hdl : BusHdl) {a : NodeAddr} {l : BusLists} (ha : (l.node a).isSome) :
      Point (.unregister hdl) (busDequeueList bus a) l
  | read (hdl : BusHdl) {a : NodeAddr} (h : BusHdl) {l : BusLists} (ha : (l.node a).isSome) :
      Point (.unregister hdl) (busDequeue bus a h) l
  | handle (type : BusType) (search : BusSearch) {a : NodeAddr} {l : BusLists} (ha : (l.node a).isSome) :
      Point (.getHandle type search) (readHandle a) l
  | done (c : BusCall) (r : BusResult) (l : BusLists) : Point c (.ret r) l

/-- What a step of a call leaves. -/
structure Advanced (c : BusCall) (l : BusLists) (r : BusLists × Unit × BusProc BusResult) : Prop where
  used : r.1.usedFreed = l.usedFreed
  point : Point bus c r.2.2 r.1
  /-- Only an unregister call frees a node. -/
  kept : (∃ hdl, c = .unregister hdl) ∨ ∀ a, (l.node a).isSome → (r.1.node a).isSome

end

variable {bus : BusHdl → Bus} {l : BusLists} {c : BusCall}

theorem used_of_isSome {a : NodeAddr} (ha : (l.node a).isSome) : (l.used a).usedFreed = l.usedFreed := by
  rw [BusLists.used, ← Option.not_isSome, ha, Bool.not_true, Bool.or_false]

theorem isSome_of_find {type : BusType} {p : BusHdl → Bool} {a : NodeAddr}
    (h : ((l.list type).find? fun a => (l.node a).any p) = some a) : (l.node a).isSome := by
  have hany := List.find?_some h
  cases hnode : l.node a with
  | none =>
      rw [hnode] at hany
      cases hany
  | some hdl => rfl

theorem Advanced.done {r : BusResult} (m : Unit) : Advanced bus c l (l, m, .ret r) :=
  ⟨rfl, .done c r l, .inr fun _ ha => ha⟩

theorem Advanced.holds {m : Unit} {p : BusProc BusResult} (h : Point bus c p l) : Advanced bus c l (l, m, p) :=
  ⟨rfl, h, .inr fun _ ha => ha⟩

theorem Point.advance {p : BusProc BusResult} (h : Point bus c p l) (fault : Option Errno) (m : Unit) :
    Advanced bus c l (Calls.advance BusLists.port fault l m p) := by
  cases h with
  | start =>
      cases c with
      | register hdl =>
          cases fault with
          | some e => exact .done m
          | none =>
              refine ⟨rfl, .done _ _ _, .inr fun a ha => ?_⟩
              by_cases heq : a = l.next
              · subst heq
                exact congrArg Option.isSome (Function.update_self l.next (some hdl) l.node)
              · exact (congrArg Option.isSome (Function.update_of_ne heq (some hdl) l.node)).trans ha
      | unregister hdl =>
          cases fault with
          | some e => exact .done m
          | none =>
              cases hfind : (l.list (bus hdl).busType).find? fun a => (l.node a).any fun h => h = hdl with
              | none =>
                  simp only [Calls.advance, busCall, busUnregister, BusLists.port, BusLists.exec, hfind]
                  exact .done m
              | some a =>
                  simp only [Calls.advance, busCall, busUnregister, BusLists.port, BusLists.exec, hfind]
                  exact .holds (.found hdl (isSome_of_find hfind))
      | getHandle type search =>
          cases fault with
          | some e => exact .done m
          | none =>
              cases hfind : (l.list type).find? fun a => (l.node a).any fun h => search.finds (bus h) with
              | none =>
                  simp only [Calls.advance, busCall, busGetHandle, BusLists.port, BusLists.exec, hfind]
                  exact .done m
              | some a =>
                  simp only [Calls.advance, busCall, busGetHandle, BusLists.port, BusLists.exec, hfind]
                  exact .holds (.handle type search (isSome_of_find hfind))
      | forEach type =>
          cases fault with
          | some e => exact .done m
          | none => exact .done m
  | @found hdl a _ ha =>
      cases fault with
      | some e => exact .done m
      | none =>
          refine ⟨used_of_isSome ha, ?_, .inr fun _ h => h⟩
          obtain ⟨h, hnode⟩ := Option.isSome_iff_exists.mp ha
          simp only [Calls.advance, busDequeueList, BusLists.port, BusLists.exec, hnode]
          exact .read hdl h ha
  | read hdl h ha =>
      cases fault with
      | some e => exact .done m
      | none => exact ⟨used_of_isSome ha, .done _ _ _, .inl ⟨hdl, rfl⟩⟩
  | handle type search ha =>
      cases fault with
      | some e => exact .done m
      | none => exact ⟨used_of_isSome ha, .done _ _ _, .inr fun _ h => h⟩
  | done => exact .done m

/-! ## Interleaved calls -/

variable {T : Type} [DecidableEq T] {unregisters looksUp : T → Prop}

/-- The threads that may unregister buses and the threads that may look them up. -/
def MayCall (unregisters looksUp : T → Prop) (t : T) : BusCall → Prop
  | .unregister _ => unregisters t
  | .getHandle _ _ => looksUp t
  | _ => True

def runBus (bus : BusHdl → Bus) (l : BusLists) (events : List (Event T BusCall Errno Empty)) :
    Calls T BusCall BusListOp BusListOp.Resp BusLists Unit Errno BusResult :=
  run (Calls.step BusLists.port (busCall bus)) (Calls.start l ()) events

omit [DecidableEq T] in
/-- A call that holds a node is made by a thread that may unregister buses or look them up. -/
theorem Point.kept {t : T} {l' : BusLists} {p : BusProc BusResult} (h : Point bus c p l)
    (hmay : MayCall unregisters looksUp t c)
    (hkept : unregisters t ∨ looksUp t → ∀ a, (l.node a).isSome → (l'.node a).isSome) : Point bus c p l' := by
  cases h with
  | start => exact .start c l'
  | found hdl ha => exact .found hdl (hkept (.inl hmay) _ ha)
  | read hdl h ha => exact .read hdl h (hkept (.inl hmay) _ ha)
  | handle type search ha => exact .handle type search (hkept (.inr hmay) _ ha)
  | done => exact .done c _ l'

omit [DecidableEq T] in
theorem busOutline (halone : ∀ t u, unregisters t → unregisters u ∨ looksUp u → u = t) :
    Calls.Outline BusLists.port (busCall bus) (MayCall unregisters looksUp) (fun l _ => l.usedFreed = false)
      fun t c p l _ => MayCall unregisters looksUp t c ∧ Point bus c p l := by
  refine ⟨fun t c l _ hmay _ => ⟨hmay, .start c l⟩, fun t c p fault l m hI hp => ?_,
    fun t c p fault l m u c' p' hne _ hp hp' => ⟨hp'.1, hp'.2.kept hp'.1 fun hu => ?_⟩, fun i => i.elim, fun i => i.elim⟩
  · obtain hadvanced := hp.2.advance fault m
    exact ⟨hadvanced.used.trans hI, hp.1, hadvanced.point⟩
  · obtain ⟨hdl, rfl⟩ | hkept := (hp.2.advance fault m).kept
    · exact absurd (halone t u hp.1 hu) hne
    · exact hkept

/-- A list of one bus, whose node is found and then freed by another thread. -/
def oneBus (bus : BusHdl → Bus) : BusLists :=
  ⟨fun type => if type = (bus 0).busType then [0] else [], fun a => if a = 0 then some 0 else none, 1, false⟩

def race (t u : T) (c : BusCall) : List (Event T BusCall Errno Empty) :=
  [.call u c, .go u none, .call t (.unregister 0), .go t none, .go t none, .go t none, .go u none]

omit [DecidableEq T] in
theorem allowed_race {t u : T} (ht : unregisters t) {c : BusCall} (hc : MayCall unregisters looksUp u c) :
    ∀ e ∈ race t u c, Calls.Allowed (MayCall unregisters looksUp) e := by
  have hunregister : MayCall unregisters looksUp t (.unregister 0) := ht
  simp [race, Calls.Allowed, hc, hunregister]

theorem usedFreed_of_race {t u : T} (hne : u ≠ t) {c : BusCall} (hc : c = .unregister 0 ∨
    c = .getHandle (bus 0).busType (.byId (bus 0).busId)) :
    (runBus bus (oneBus bus) (race t u c)).dev.usedFreed = true := by
  have hne' := Ne.symm hne
  rcases hc with rfl | rfl
  · simp [runBus, race, Calls.step, Calls.start, Calls.advance, Calls.left, busCall, busUnregister, busDequeueList, busDequeue,
      oneBus, BusLists.port, BusLists.exec, BusLists.used, Function.update, hne, hne']
  · simp [runBus, race, Calls.step, Calls.start, Calls.advance, Calls.left, busCall, busUnregister, busDequeueList, busDequeue,
      busGetHandle, readHandle, BusSearch.finds,
      oneBus, BusLists.port, BusLists.exec, BusLists.used, Function.update, hne, hne']

/-- In every interleaving, no call uses a node that has been freed, if and only if no thread unregisters buses while
another one unregisters buses or looks them up: the lock is given back before the node is used. -/
theorem freed_nodes_unused_iff (bus : BusHdl → Bus) (unregisters looksUp : T → Prop) :
    (∀ (l : BusLists) (events : List (Event T BusCall Errno Empty)), l.usedFreed = false →
      (∀ e ∈ events, Calls.Allowed (MayCall unregisters looksUp) e) → (runBus bus l events).dev.usedFreed = false) ↔
    ∀ t u, unregisters t → unregisters u ∨ looksUp u → u = t := by
  constructor
  · intro h t u ht hu
    by_contra hne
    have hunused : ∀ c, (c = .unregister 0 ∨ c = .getHandle (bus 0).busType (.byId (bus 0).busId)) →
        ¬MayCall unregisters looksUp u c := by
      intro c hc hmay
      have hused := h (oneBus bus) (race t u c) rfl (allowed_race ht hmay)
      rw [usedFreed_of_race hne hc] at hused
      cases hused
    rcases hu with hu | hu
    · exact hunused _ (.inl rfl) hu
    · exact hunused _ (.inr rfl) hu
  · exact fun halone l events hused hevents => ((busOutline halone).run hused hevents).inv

end OpxSdi.Framework
