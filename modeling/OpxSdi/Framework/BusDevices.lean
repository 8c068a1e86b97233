import Mathlib.Data.List.Nodup
import OpxSdi.Common.StdError

/-!
# Devices on a bus (`sdi_bus_framework.c`, `sdi_driver_framework.c`)

The register function of a driver returns the handle of the new device or an error. A handle variable
holds `none` for `NULL`.
-/

namespace OpxSdi.Framework

variable {Node Hdl : Type}

/-- The device list of the framework and the device list of one bus. -/
structure Registry (Hdl : Type) where
  deviceList : List Hdl
  busDevices : List (Option Hdl)

namespace Registry

/-- `sdi_bus_register` leaves a bus without devices. -/
def newBus (deviceList : List Hdl) : Registry Hdl := ⟨deviceList, []⟩

def addDevice (hdl : Hdl) (r : Registry Hdl) : Registry Hdl := { r with deviceList := hdl :: r.deviceList }

/-- `sdi_register_driver`: the caller's `*device_hdl` is written on success only. -/
def registerDriver (registerFn : Node → Except Errno Hdl) (node : Node) (deviceHdl : Option Hdl)
    (r : Registry Hdl) : TStdError × Option Hdl × Registry Hdl :=
  match registerFn node with
  | .ok devHdl => (.ok, some devHdl, r.addDevice devHdl)
  | .error e => (.errcode e, deviceHdl, r)

def attachDeviceToBus (devHandle : Option Hdl) (r : Registry Hdl) : Registry Hdl :=
  { r with busDevices := r.busDevices ++ [devHandle] }

/-- The loop of `sdi_bus_register_device_list` with the nodes that are left. -/
def registerLoop (registerFn : Node → Except Errno Hdl) :
    (nodes : List Node) → (deviceHdl : Option Hdl) → Registry Hdl → Registry Hdl
  | [], _, r => r
  | node :: nodes, deviceHdl, r =>
      let (_, deviceHdl, r) := registerDriver registerFn node deviceHdl r
      registerLoop registerFn nodes deviceHdl (r.attachDeviceToBus deviceHdl)

def busRegisterDeviceList (registerFn : Node → Except Errno Hdl) (nodes : List Node) (r : Registry Hdl) :
    Registry Hdl :=
  registerLoop registerFn nodes none r

end Registry

/-- `sdi_bus_init_device_list`: the devices whose `init` is called, in order, and whether the assertion
in `sdi_device_init` has stopped the loop. -/
def busInitDeviceList : List (Option Hdl) → List Hdl × Bool
  | [] => ([], false)
  | none :: _ => ([], true)
  | some device :: rest =>
      let (inits, stopped) := busInitDeviceList rest
      (device :: inits, stopped)

/-! ## What the device list of a bus holds -/

variable {registerFn : Node → Except Errno Hdl}

/-- The handles of the devices whose registration succeeds, in configuration order. -/
def registered (registerFn : Node → Except Errno Hdl) (nodes : List Node) : List Hdl :=
  nodes.filterMap fun node => (registerFn node).toOption

/-- The handle variable after each node. -/
def handles (registerFn : Node → Except Errno Hdl) : List Node → Option Hdl → List (Option Hdl)
  | [], _ => []
  | node :: nodes, deviceHdl =>
      let deviceHdl := (registerFn node).toOption <|> deviceHdl
      deviceHdl :: handles registerFn nodes deviceHdl

@[simp] theorem length_handles (nodes : List Node) (deviceHdl : Option Hdl) :
    (handles registerFn nodes deviceHdl).length = nodes.length := by
  induction nodes generalizing deviceHdl with
  | nil => rfl
  | cons node nodes ih => simp only [handles, List.length_cons, ih]

namespace Registry

/-- A failed registration attaches the handle of the last device before it, or `NULL`. -/
theorem busDevices_registerLoop (nodes : List Node) (deviceHdl : Option Hdl) (r : Registry Hdl) :
    (registerLoop registerFn nodes deviceHdl r).busDevices =
      r.busDevices ++ handles registerFn nodes deviceHdl := by
  induction nodes generalizing deviceHdl r with
  | nil => exact (List.append_nil _).symm
  | cons node nodes ih =>
      simp only [registerLoop, handles, registerDriver]
      cases registerFn node with
      | error e => simp [ih, attachDeviceToBus, Except.toOption]
      | ok devHdl => simp [ih, attachDeviceToBus, addDevice, Except.toOption]

end Registry

/-! ### The devices of a bus are those that registered -/

def AllRegister (registerFn : Node → Except Errno Hdl) (nodes : List Node) : Prop :=
  ∀ node ∈ nodes, ∃ hdl, registerFn node = .ok hdl

theorem length_registered_iff (nodes : List Node) :
    (registered registerFn nodes).length = nodes.length ↔ AllRegister registerFn nodes := by
  rw [registered, List.filterMap_length_eq_length]
  refine forall₂_congr fun node _ => ?_
  cases registerFn node with
  | error e => simp [Except.toOption]
  | ok hdl => simp [Except.toOption]

theorem handles_of_allRegister {nodes : List Node} (h : AllRegister registerFn nodes)
    (deviceHdl : Option Hdl) :
    handles registerFn nodes deviceHdl = (registered registerFn nodes).map some := by
  induction nodes generalizing deviceHdl with
  | nil => rfl
  | cons node nodes ih =>
      obtain ⟨hdl, hnode⟩ := h node List.mem_cons_self
      have hrest := ih (fun other hmem => h other (List.mem_cons_of_mem node hmem)) (some hdl)
      simp only [handles, registered, hnode, Except.toOption, List.filterMap_cons, List.map_cons] at hrest ⊢
      exact congrArg (some hdl :: ·) hrest

theorem handles_eq_registered_iff (nodes : List Node) (deviceHdl : Option Hdl) :
    handles registerFn nodes deviceHdl = (registered registerFn nodes).map some ↔
      AllRegister registerFn nodes := by
  refine ⟨fun h => ?_, fun h => handles_of_allRegister h deviceHdl⟩
  have hlength := congrArg List.length h
  rw [length_handles, List.length_map] at hlength
  exact (length_registered_iff nodes).mp hlength.symm

theorem busInitDeviceList_map_some (devices : List Hdl) :
    busInitDeviceList (devices.map some) = (devices, false) := by
  induction devices with
  | nil => rfl
  | cons device devices ih => simp only [List.map_cons, busInitDeviceList, ih]

/-- The bus has exactly the registered devices, each once and in configuration order, and each of them
is initialised once. -/
def ExactDevices [DecidableEq Hdl] (registerFn : Node → Except Errno Hdl) (nodes : List Node)
    (busDevices : List (Option Hdl)) : Prop :=
  busDevices = (registered registerFn nodes).map some ∧ busDevices.Nodup ∧
    ∀ hdl ∈ registered registerFn nodes, (busInitDeviceList busDevices).1.count hdl = 1

/-- Where different devices have different handles, the list of a new bus is exact iff no registration
fails. -/
theorem exactDevices_iff [DecidableEq Hdl] (nodes : List Node) (deviceList : List Hdl)
    (hnodup : (registered registerFn nodes).Nodup) :
    ExactDevices registerFn nodes
        (Registry.busRegisterDeviceList registerFn nodes (.newBus deviceList)).busDevices ↔
      AllRegister registerFn nodes := by
  have hdevices : (Registry.busRegisterDeviceList registerFn nodes (.newBus deviceList)).busDevices =
      handles registerFn nodes none := Registry.busDevices_registerLoop nodes none _
  rw [hdevices]
  constructor
  · exact fun h => (handles_eq_registered_iff nodes none).mp h.1
  · intro h
    rw [handles_of_allRegister h]
    refine ⟨rfl, hnodup.map fun _ _ => Option.some.inj, fun hdl hmem => ?_⟩
    rw [busInitDeviceList_map_some]
    exact List.count_eq_one_of_mem hnodup hmem

/-- A driver that registers every node but node 1. -/
def registerFnExceptOne (node : Nat) : Except Errno Nat :=
  if node = 1 then .error .einval else .ok (100 + node)

theorem exactDevices_two :
    ExactDevices registerFnExceptOne [0, 2]
        (Registry.busRegisterDeviceList registerFnExceptOne [0, 2] (.newBus [])).busDevices ↔
      AllRegister registerFnExceptOne [0, 2] :=
  exactDevices_iff [0, 2] [] (by decide)

/-- The device before a failed one is attached twice; a failed one in front is attached as `NULL`. -/
theorem not_exactDevices_failed :
    ¬ ExactDevices registerFnExceptOne [0, 1, 2]
        (Registry.busRegisterDeviceList registerFnExceptOne [0, 1, 2] (.newBus [])).busDevices := by
  rintro ⟨-, hnodup, -⟩
  exact absurd hnodup (by decide)

end OpxSdi.Framework
