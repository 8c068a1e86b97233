import OpxSdi.Bmc.Config
import OpxSdi.Bmc.Theorems
import OpxSdi.Lib.Bits
import OpxSdi.Lib.Returns

/-!
# Which sensors the OEM pollers watch
-/

namespace OpxSdi.Bmc

open Lib

variable (sensors : List BmcSensor)

/-! ## The pollers after an update -/

/-- A poller whose sensor is in the database points at it. -/
def OemPoller.Watches (node : OemPoller) : Prop :=
  ∀ sensor, dbSensorGetByName sensors node.sensor = some sensor → node.sensorLoc = sensor.addr

/-- A poller behind one whose sensor is not there already watches its own. -/
def Settled (nodes : List OemPoller) : Prop :=
  ∀ pre node post, nodes = pre ++ node :: post →
    (∃ earlier ∈ pre, dbSensorGetByName sensors earlier.sensor = none) → node.Watches sensors

theorem settled_cons_missing {node : OemPoller} (h : dbSensorGetByName sensors node.sensor = none)
    (nodes : List OemPoller) : Settled sensors (node :: nodes) ↔ ∀ later ∈ nodes, later.Watches sensors := by
  constructor
  · intro hsettled later hlater
    obtain ⟨pre, post, rfl⟩ := List.append_of_mem hlater
    exact hsettled (node :: pre) later post rfl ⟨node, List.mem_cons_self, h⟩
  · intro hall pre later post heq hmissing
    cases pre with
    | nil =>
        obtain ⟨earlier, hearlier, -⟩ := hmissing
        cases hearlier
    | cons first pre =>
        obtain ⟨-, rfl⟩ := List.cons.inj heq
        exact hall later (List.mem_append_right pre List.mem_cons_self)

theorem settled_cons_found {node : OemPoller} {sensor : BmcSensor}
    (h : dbSensorGetByName sensors node.sensor = some sensor) (nodes : List OemPoller) :
    Settled sensors (node :: nodes) ↔ Settled sensors nodes := by
  constructor
  · rintro hsettled pre later post rfl ⟨earlier, hearlier, hmissing⟩
    exact hsettled (node :: pre) later post rfl ⟨earlier, List.mem_cons_of_mem node hearlier, hmissing⟩
  · rintro hsettled pre later post heq ⟨earlier, hearlier, hmissing⟩
    cases pre with
    | nil => cases hearlier
    | cons first pre =>
        obtain ⟨rfl, hnodes⟩ := List.cons.inj heq
        rcases List.mem_cons.mp hearlier with rfl | hearlier
        · cases h.symm.trans hmissing
        · exact hsettled pre later post hnodes ⟨earlier, hearlier, hmissing⟩

theorem populate_watches_iff (nodes : List OemPoller) :
    (∀ node ∈ populateSensorForPoller sensors nodes, node.Watches sensors) ↔ Settled sensors nodes := by
  induction nodes with
  | nil => exact iff_of_true nofun fun pre node post heq => by simp at heq
  | cons node nodes ih =>
      rw [populateSensorForPoller]
      cases h : dbSensorGetByName sensors node.sensor with
      | none =>
          rw [settled_cons_missing sensors h, List.forall_mem_cons]
          exact and_iff_right fun sensor hsensor => by cases h.symm.trans hsensor
      | some sensor =>
          rw [settled_cons_found sensors h, ← ih, List.forall_mem_cons]
          refine and_iff_right fun sensor' hsensor' => ?_
          cases h.symm.trans hsensor'
          rfl

def OemPoller.config (node : OemPoller) : List Char × BitVec 32 × List OemCmdInfo :=
  (node.sensor, node.sensorBit, node.oemCmd)

theorem populate_config (nodes : List OemPoller) :
    (populateSensorForPoller sensors nodes).map OemPoller.config = nodes.map OemPoller.config := by
  induction nodes with
  | nil => rfl
  | cons node nodes ih =>
      rw [populateSensorForPoller]
      split
      · rfl
      · rw [List.map_cons, List.map_cons, ih]
        rfl

/-! ## What a poll runs -/

variable {μ : Type} (ipmi : Ipmi μ)

theorem returns_execute (node : OemPoller) : Returns (node.execute ipmi) := by
  obtain ⟨out, hout, -⟩ := mapM_ok (l := node.oemCmd) fun oemCmd _ => returns_oemCmdExecute ipmi oemCmd
  exact ⟨out, hout⟩

def AllSet (x mask : BitVec 32) : Prop := ∀ k, mask.getLsbD k = true → x.getLsbD k = true

/-- A poll runs the commands of a node whose sensor is in the database exactly when all bits of its mask are
set in the state of that sensor. -/
def PollsOwn (state : Nat → BitVec 32) (nodes : List OemPoller) : Prop :=
  ∃ out, oemPoller ipmi state nodes = .ok out ∧
    ∀ (i : Nat) node sensor, nodes[i]? = some node → dbSensorGetByName sensors node.sensor = some sensor →
      (AllSet (state sensor.addr) node.sensorBit → ∃ results, node.execute ipmi = .ok results ∧
        out[i]? = some results) ∧
        (¬AllSet (state sensor.addr) node.sensorBit → out[i]? = some [])

theorem pollsOwn_of_watches {nodes : List OemPoller} (h : ∀ node ∈ nodes, node.Watches sensors)
    (state : Nat → BitVec 32) : PollsOwn sensors ipmi state nodes := by
  obtain ⟨out, hout, hget⟩ := mapM_ok (l := nodes)
    (f := fun node =>
      if state node.sensorLoc &&& node.sensorBit = node.sensorBit then node.execute ipmi else .ok [])
    fun node _ => by
      split
      · exact returns_execute ipmi node
      · exact returns_ok []
  refine ⟨out, hout, fun i node sensor hnode hsensor => ?_⟩
  obtain ⟨results, hresults, hi⟩ := hget i node hnode
  rw [h node (List.mem_of_getElem? hnode) sensor hsensor] at hresults
  constructor
  · intro hset
    rw [if_pos (and_eq_right_iff.mpr hset)] at hresults
    exact ⟨results, hresults, hi⟩
  · intro hclear
    rw [if_neg fun hset => hclear (and_eq_right_iff.mp hset)] at hresults
    cases hresults
    exact hi

/-- After an update the same pollers watch their own sensors, and a poll follows the states of these. -/
structure WatchesOwn (nodes nodes' : List OemPoller) : Prop where
  config : nodes'.map OemPoller.config = nodes.map OemPoller.config
  watches : ∀ node ∈ nodes', node.Watches sensors
  polls : ∀ state, PollsOwn sensors ipmi state nodes'

/-- Every poller watches its own sensor after an update iff each one that the update does
not come to already does. -/
theorem watchesOwn_iff (nodes : List OemPoller) :
    WatchesOwn sensors ipmi nodes (populateSensorForPoller sensors nodes) ↔ Settled sensors nodes := by
  rw [← populate_watches_iff]
  exact ⟨fun h => h.watches,
    fun h => ⟨populate_config sensors nodes, h, pollsOwn_of_watches sensors ipmi h⟩⟩

/-! ## A poller behind a missing sensor -/

def absentMc : Ipmi Unit := ⟨none, fun _ _ _ => 0⟩

def psuSensor : BmcSensor := ⟨7, 10, 1, "PSU1_stat".toList, .discrete, 0⟩

def statusCmd : OemCmdInfo := ⟨0x30, 0x45, 0, 0, 0, 0, 3, Vector.replicate (oemDataLen + 4) 0⟩

/-- Two pollers that point at their placeholders, with the addresses 1 and 2. -/
def freshPollers : List OemPoller :=
  [⟨"PSU2_stat".toList, 1, 1, [statusCmd]⟩, ⟨"PSU1_stat".toList, 1, 2, [statusCmd]⟩]

/-- The sensor has no bit set, the placeholders have all. -/
def placeholderStates (addr : Nat) : BitVec 32 := if addr = psuSensor.addr then 0 else 0xff

/-- The first sensor is missing, so the second poller goes on with the state of its
placeholder and its command runs. -/
theorem second_poller_stale :
    ((oemPoller absentMc placeholderStates (populateSensorForPoller [psuSensor] freshPollers)).map fun out =>
        out.map List.length) = .ok [1, 1] ∧
      ¬WatchesOwn [psuSensor] absentMc freshPollers (populateSensorForPoller [psuSensor] freshPollers) := by
  refine ⟨rfl, fun h => ?_⟩
  have hsame : populateSensorForPoller [psuSensor] freshPollers = freshPollers := rfl
  have hwatches := h.watches
  rw [hsame] at hwatches
  have hloc := hwatches _ (List.mem_cons_of_mem _ List.mem_cons_self) psuSensor rfl
  revert hloc
  decide

end OpxSdi.Bmc
