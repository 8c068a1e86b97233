import Mathlib.Data.List.TakeDrop
import OpxSdi.Bmc.Config
import OpxSdi.Bmc.Lemmas.Origin

/-!
# When the children of a BMC node become its resources
-/

namespace OpxSdi.Bmc

open Lib

/-! ## What a child says -/

def Command (node : ConfigNode) : Prop := node.Has "oem_netfn" ∧ node.Has "oem_cmd"

theorem returns_populateOemCmdInfo_iff (node : ConfigNode) (oemInfo : OemCmdInfo) :
    Returns (populateOemCmdInfo node oemInfo) ↔ Command node := by
  rw [Command, ← node.returns_required_iff, ← node.returns_required_iff]
  exact returns_bind_and fun _ _ => returns_bind_left fun _ => returns_ok _

namespace ChildNode

def kind (child : ChildNode) : Option ResourceType := child.name.bind childType

/-- A node whose command tells the status of a fan. -/
def Status (node : ConfigNode) : Prop :=
  node.name = some "oem_status_sdr".toList ∧ node.Has "sensor_req" ∧ Command node

/-- A node whose command tells the type or the air flow of a power supply. -/
def PsuInfo (node : ConfigNode) : Prop :=
  ∀ name, node.name = some name → (name = "oem_psu_type".toList ∨ name = "oem_airflow".toList) ∧ Command node

/-- What a child has to say for a resource of its type. -/
def Describes (child : ChildNode) : ResourceType → Prop
  | .fan => child.Has "status_sdr_id" ∨ ∀ node ∈ child.children.head?, Status node
  | .entityInfo => child.Has "no_of_fans" ∧ child.Has "max_fan_speed" ∧ ∀ node ∈ child.children, PsuInfo node
  | _ => True

def Common (child : ChildNode) : Prop := child.Has "instance" ∧ child.Has "alias" ∧ child.Has "data_sdr_id"

end ChildNode

/-! ## One slot

A slot keeps its alias while the members for its type are filled in, and gets that type. -/

section

variable (dirty : OemCmdInfo) (base : Nat)

theorem returns_populateOemStatus_iff (node : ConfigNode) (slot : DevResourceInfo) (p : Populated) :
    Returns (populateOemStatus dirty base node slot p) ↔ ChildNode.Status node := by
  rw [ChildNode.Status, ← returns_assert_iff (node.name = some "oem_status_sdr".toList),
    ← node.returns_required_iff, ← returns_populateOemCmdInfo_iff node dirty]
  exact returns_bind_and fun _ _ => returns_bind_and fun _ _ => returns_bind_left fun _ => returns_ok _

structure SameCommon (slot slot' : DevResourceInfo) (p p' : Populated) : Prop where
  aliasName : slot'.aliasName = slot.aliasName
  data : p'.data = p.data
  count : p'.count = p.count

theorem populateOemStatus_ok {node : ConfigNode} {slot slot' : DevResourceInfo} {p p' : Populated}
    (h : populateOemStatus dirty base node slot p = .ok (slot', p')) :
    slot'.resourceType = slot.resourceType ∧ SameCommon slot slot' p p' := by
  obtain ⟨_, -, h⟩ := bind_eq_ok h
  obtain ⟨sensor, -, h⟩ := bind_eq_ok h
  obtain ⟨oemCmd, -, h⟩ := bind_eq_ok h
  cases h
  exact ⟨rfl, rfl, rfl, rfl⟩

theorem returns_populateFan_iff (child : ChildNode) (slot : DevResourceInfo) (p : Populated) :
    Returns (populateFan dirty base child slot p) ↔ child.Describes .fan := by
  rw [populateFan, ChildNode.Describes, ConfigNode.Has]
  cases child.attr "status_sdr_id" with
  | some text => exact iff_of_true (returns_ok _) (.inl rfl)
  | none =>
      refine Iff.trans ?_ (or_iff_right Bool.false_ne_true).symm
      cases child.children with
      | nil => exact iff_of_true (returns_ok _) fun _ h => absurd h (Option.not_mem_none _)
      | cons node nodes =>
          simp only [List.head?_cons, Option.mem_some_iff, forall_eq']
          exact returns_populateOemStatus_iff dirty base node _ p

theorem populateFan_ok {child : ChildNode} {slot slot' : DevResourceInfo} {p p' : Populated}
    (h : populateFan dirty base child slot p = .ok (slot', p')) :
    slot'.resourceType = .fan ∧ SameCommon slot slot' p p' := by
  rw [populateFan] at h
  split at h
  · cases h
    exact ⟨rfl, rfl, rfl, rfl⟩
  · split at h
    · cases h
      exact ⟨rfl, rfl, rfl, rfl⟩
    · obtain ⟨htype, hsame⟩ := populateOemStatus_ok dirty base h
      exact ⟨htype, hsame.aliasName, hsame.data, hsame.count⟩

theorem returns_populateOemChild_iff (slot : DevResourceInfo) (node : ConfigNode) :
    Returns (populateOemChild slot node) ↔ ChildNode.PsuInfo node := by
  rw [populateOemChild, ChildNode.PsuInfo]
  cases node.name with
  | none => exact iff_of_true (returns_ok slot) nofun
  | some name =>
      simp only [Option.some.injEq, forall_eq']
      refine Iff.trans ?_ (and_congr (returns_assert_iff _)
        (returns_populateOemCmdInfo_iff node OemCmdInfo.zeroed))
      exact returns_bind_and fun _ _ => returns_bind_left fun _ => returns_ok _

theorem populateOemChild_ok {slot slot' : DevResourceInfo} {node : ConfigNode}
    (h : populateOemChild slot node = .ok slot') :
    slot'.resourceType = slot.resourceType ∧ slot'.aliasName = slot.aliasName := by
  rw [populateOemChild] at h
  split at h
  · cases h
    exact ⟨rfl, rfl⟩
  · obtain ⟨_, -, h⟩ := bind_eq_ok h
    obtain ⟨oemCmd, -, h⟩ := bind_eq_ok h
    cases h
    split <;> exact ⟨rfl, rfl⟩

theorem returns_populateEeprom_iff (child : ChildNode) (slot : DevResourceInfo) :
    Returns (populateEeprom child slot) ↔ child.Describes .entityInfo := by
  rw [ChildNode.Describes, ← child.returns_required_iff, ← child.returns_required_iff]
  refine returns_bind_and fun _ _ => returns_bind_and fun _ _ => ?_
  exact returns_foldlM_iff returns_populateOemChild_iff _ _

theorem populateEeprom_ok {child : ChildNode} {slot slot' : DevResourceInfo}
    (h : populateEeprom child slot = .ok slot') :
    slot'.resourceType = .entityInfo ∧ slot'.aliasName = slot.aliasName := by
  obtain ⟨fanCount, -, h⟩ := bind_eq_ok h
  obtain ⟨maxFanSpeed, -, h⟩ := bind_eq_ok h
  refine (foldlM_inv (fun _ _ s => s.resourceType = .entityInfo ∧ s.aliasName = slot.aliasName)
    (fun _ node _ s hs => ⟨returns_populateOemChild_iff s node, fun s' hs' => ?_⟩) [] ⟨rfl, rfl⟩).2 slot' h
  obtain ⟨htype, halias⟩ := populateOemChild_ok hs'
  rw [htype, halias]
  exact hs

theorem childType_cases {name : List Char} {type : ResourceType} (h : childType name = some type) :
    type = .fan ∨ type = .temperature ∨ type = .entityInfo := by
  rw [childType] at h
  split at h
  · cases h; exact .inl rfl
  · split at h
    · cases h; exact .inr (.inl rfl)
    · split at h
      · cases h; exact .inr (.inr rfl)
      · cases h

theorem returns_populateType_iff (child : ChildNode) (type : ResourceType) (slot : DevResourceInfo)
    (p : Populated) :
    Returns (populateType dirty base child type slot p) ↔ child.Describes type := by
  cases type with
  | fan => exact returns_populateFan_iff dirty base child slot p
  | entityInfo =>
      exact (returns_bind_left fun _ => returns_ok _).trans (returns_populateEeprom_iff child slot)
  | _ => exact iff_of_true (returns_ok _) trivial

theorem populateType_ok {child : ChildNode} {type : ResourceType} {slot slot' : DevResourceInfo}
    {p p' : Populated}
    (h : populateType dirty base child type slot p = .ok (slot', p')) :
    slot'.resourceType = type ∧ SameCommon slot slot' p p' := by
  cases type with
  | fan => exact populateFan_ok dirty base h
  | entityInfo =>
      obtain ⟨slot'', hslot, h⟩ := bind_eq_ok h
      cases h
      obtain ⟨htype, halias⟩ := populateEeprom_ok hslot
      exact ⟨htype, halias, rfl, rfl⟩
  | _ =>
      cases h
      exact ⟨rfl, rfl, rfl, rfl⟩

theorem returns_populateCommon_iff (child : ChildNode) (slot : DevResourceInfo) :
    Returns (populateCommon child slot) ↔ child.Common := by
  rw [ChildNode.Common, ← child.returns_required_iff, ← child.returns_required_iff,
    ← child.returns_required_iff]
  exact returns_bind_and fun _ _ => returns_bind_and fun _ _ => returns_bind_left fun _ => returns_ok _

theorem populateCommon_ok {child : ChildNode} {slot slot' : DevResourceInfo}
    (h : populateCommon child slot = .ok slot') :
    slot'.resourceType = slot.resourceType ∧ ∃ text, child.attr "alias" = some text ∧
      slot'.aliasName = snprintfName text := by
  obtain ⟨inst, -, h⟩ := bind_eq_ok h
  obtain ⟨text, htext, h⟩ := bind_eq_ok h
  obtain ⟨dataSdrId, -, h⟩ := bind_eq_ok h
  cases h
  exact ⟨rfl, text, ConfigNode.required_eq htext, rfl⟩

/-! ## All slots -/

def ChildNode.Passes (child : ChildNode) : Prop :=
  ∀ name, child.name = some name → child.Common ∧ ∀ type, childType name = some type → child.Describes type

theorem returns_populateChild_iff {p : Populated} (hp : p.count < p.data.length) (child : ChildNode) :
    Returns (populateChild dirty base p child) ↔ child.Passes := by
  rw [populateChild, ChildNode.Passes]
  cases child.name with
  | none => exact iff_of_true (returns_ok p) nofun
  | some name =>
      simp only [List.getElem?_eq_getElem hp, Option.some.injEq, forall_eq']
      rw [← returns_populateCommon_iff child p.data[p.count]]
      refine returns_bind_and fun slot _ => ?_
      cases childType name with
      | none => exact iff_of_true (returns_ok _) nofun
      | some type =>
          simp only [Option.some.injEq, forall_eq']
          exact (returns_bind_left fun _ => returns_ok _).trans
            (returns_populateType_iff dirty base child type slot p)

def DevResourceInfo.label (slot : DevResourceInfo) : Resource := ⟨slot.resourceType, slot.aliasName⟩

/-- The resource that a child stands for, with the type and the alias of the child. -/
def ChildNode.resource (child : ChildNode) : Option Resource :=
  child.kind.bind fun type => (child.attr "alias").map fun text => ⟨type, text⟩

def Resource.inSlot (resource : Resource) : Resource := { resource with name := snprintfName resource.name }

def ChildNode.label (child : ChildNode) : Option Resource := child.resource.map Resource.inSlot

def ResourceType.Registrable (type : ResourceType) : Prop :=
  type = .fan ∨ type = .temperature ∨ type = .entityInfo

/-- The slots in front are those of the children so far that stand for a resource, in their order. -/
structure Filled (done left : List ChildNode) (p : Populated) : Prop where
  length : p.data.length = done.length + left.length
  count_le : p.count ≤ done.length
  types : ∀ slot ∈ p.data, slot.resourceType.Registrable
  front : (p.data.take p.count).map DevResourceInfo.label = done.filterMap ChildNode.label

theorem Filled.lt {done left : List ChildNode} {child : ChildNode} {p : Populated}
    (h : Filled done (child :: left) p) :
    p.count < p.data.length := by
  have hlength := h.length
  rw [List.length_cons] at hlength
  have hcount := h.count_le
  omega

theorem filled_start (children : List ChildNode) :
    Filled [] children ⟨List.replicate children.length .zeroed, 0, [], []⟩ where
  length := by simp
  count_le := Nat.le_refl 0
  types slot hslot := by
    rw [List.eq_of_mem_replicate hslot]
    exact .inr (.inl rfl)
  front := rfl

theorem Filled.step {done left : List ChildNode} {child : ChildNode} {p p' : Populated}
    (h : Filled done (child :: left) p) (hstep : populateChild dirty base p child = .ok p') :
    Filled (done ++ [child]) left p' := by
  have hlt := h.lt
  have hlength : p.data.length = (done ++ [child]).length + left.length := by
    rw [h.length, List.length_append, List.length_cons, List.length_singleton]
    omega
  have hcount : p.count + 1 ≤ (done ++ [child]).length := by
    rw [List.length_append]
    exact Nat.succ_le_succ h.count_le
  have hset {slot : DevResourceInfo} (htype : slot.resourceType.Registrable) :
      ∀ slot' ∈ p.data.set p.count slot, slot'.resourceType.Registrable := by
    intro slot' hmem
    rcases List.mem_or_eq_of_mem_set hmem with hold | rfl
    · exact h.types slot' hold
    · exact htype
  rw [populateChild] at hstep
  split at hstep
  · rename_i hname
    cases hstep
    have hlabel : child.label = none := by
      rw [ChildNode.label, ChildNode.resource, ChildNode.kind, hname]
      rfl
    exact ⟨hlength, Nat.le_of_succ_le hcount, h.types, by rw [List.filterMap_append, h.front]; simp [hlabel]⟩
  · rename_i name hname
    rw [List.getElem?_eq_getElem hlt] at hstep
    obtain ⟨slot, hslot, hstep⟩ := bind_eq_ok hstep
    obtain ⟨hold, text, htext, halias⟩ := populateCommon_ok hslot
    split at hstep
    · rename_i hnone
      cases hstep
      have hlabel : child.label = none := by
        rw [ChildNode.label, ChildNode.resource, ChildNode.kind, hname, Option.bind_some, hnone]
        rfl
      refine ⟨by rw [List.length_set, hlength], Nat.le_of_succ_le hcount, hset ?_, ?_⟩
      · rw [hold]
        exact h.types _ (List.getElem_mem hlt)
      · rw [List.filterMap_append, ← h.front, List.take_set_of_le (Nat.le_refl _)]
        simp [hlabel]
    · rename_i type htype
      obtain ⟨⟨slot', p''⟩, hfill, hstep⟩ := bind_eq_ok hstep
      cases hstep
      obtain ⟨hkind, hsame⟩ := populateType_ok dirty base hfill
      have hlabel : child.label = some slot'.label := by
        rw [ChildNode.label, ChildNode.resource, ChildNode.kind, hname, Option.bind_some, htype,
          Option.bind_some, htext,
          DevResourceInfo.label, hkind, hsame.aliasName, halias]
        rfl
      simp only [hsame.data, hsame.count]
      refine ⟨by rw [List.length_set, hlength], hcount, hset (hkind ▸ childType_cases htype), ?_⟩
      rw [List.take_add_one, List.take_set_of_le (Nat.le_refl _), List.getElem?_set_self hlt,
        List.map_append, h.front,
        List.filterMap_append]
      simp [hlabel]

theorem populate_filled (children : List ChildNode) :
    (Returns (children.foldlM (populateChild dirty base)
        ⟨List.replicate children.length .zeroed, 0, [], []⟩) ↔
      ∀ child ∈ children, child.Passes) ∧
    ∀ p, children.foldlM (populateChild dirty base)
        ⟨List.replicate children.length .zeroed, 0, [], []⟩ = .ok p →
      Filled children [] p :=
  foldlM_inv Filled
    (fun _ child _ _ h =>
      ⟨returns_populateChild_iff dirty base h.lt child, fun _ hs' => h.step dirty base hs'⟩)
    [] (filled_start children)

/-! ## The resources -/

variable (nameLen : Nat)

/-- `sdi_resource_add` cuts a name. -/
def Resource.added (resource : Resource) : Resource :=
  { resource with name := resource.name.take (maxNameLen - 1) }

theorem addUnder_memory (db : SensorDb) (key : List Char) (init : BmcSensor → BmcSensor) :
    ∃ sensor db', addUnder db true key init = (some sensor, db') := by
  cases h : db.sensorMap.find? key with
  | none => exact ⟨_, _, addUnder_new h init⟩
  | some sensor => exact ⟨_, _, addUnder_found h true init⟩

/-- With memory for a record there is always one. -/
theorem Registry.resources_bmcEntityInfoResRegister (r : Registry) (slot : DevResourceInfo) :
    (bmcEntityInfoResRegister nameLen r slot).2.resources = r.resources ++ [slot.label.added] := by
  obtain ⟨sensor, db, hadd⟩ := addUnder_memory r.db (sensorKeyByName slot.dataSdrId)
    (.setName nameLen slot.dataSdrId)
  rw [bmcEntityInfoResRegister, dbSensorAddByName, hadd]
  cases r.sensorAddr slot.dataSdrId with
  | none => rfl
  | some addr => rfl

theorem Registry.resources_resRegister (r : Registry) {slot : DevResourceInfo}
    (h : slot.resourceType.Registrable) :
    (resRegister nameLen r slot).2.resources = r.resources ++ [slot.label.added] := by
  rcases h with h | h | h
  · simp only [resRegister, h, bmcFanResRegister, resourceAdd, DevResourceInfo.label, Resource.added]
  · simp only [resRegister, h, bmcTmpResRegister, resourceAdd, DevResourceInfo.label, Resource.added]
  · simp only [resRegister, h, resources_bmcEntityInfoResRegister]

theorem Registry.resources_registerSlots (r : Registry) {data : DevList}
    (h : ∀ slot ∈ data, slot.resourceType.Registrable) :
    (registerSlots nameLen r data).2.resources = r.resources ++ data.map fun slot => slot.label.added := by
  induction data generalizing r with
  | nil => exact (List.append_nil _).symm
  | cons slot data ih =>
      obtain ⟨hslot, hdata⟩ := List.forall_mem_cons.mp h
      rw [registerSlots, List.map_cons, ← List.singleton_append, ← List.append_assoc,
        ← r.resources_resRegister nameLen hslot]
      exact ih _ hdata

theorem filterMap_inj {α β : Type} {f g : α → Option β} {l : List α} (hf : ∀ a ∈ l, (f a).isSome)
    (hg : ∀ a ∈ l, (g a).isSome) : l.filterMap f = l.filterMap g ↔ ∀ a ∈ l, f a = g a := by
  induction l with
  | nil => exact iff_of_true rfl nofun
  | cons a l ih =>
      rw [List.forall_mem_cons] at hf hg ⊢
      obtain ⟨b, hb⟩ := Option.isSome_iff_exists.mp hf.1
      obtain ⟨c, hc⟩ := Option.isSome_iff_exists.mp hg.1
      rw [List.filterMap_cons_some hb, List.filterMap_cons_some hc, hb, hc, List.cons.injEq,
        Option.some.injEq,
        ih hf.2 hg.2]

/-- The slots are registered as the children's resources iff every child stands for one whose alias fits. -/
theorem Filled.registered_iff {children : List ChildNode} {p : Populated} (h : Filled children [] p) :
    (p.data.map fun slot => slot.label.added) = children.filterMap ChildNode.resource ↔
      ∀ child ∈ children, ∃ resource, child.resource = some resource ∧ resource.inSlot.added = resource := by
  have hlength : p.data.length = children.length := h.length
  -- When every child stands for a resource, no slot is left over.
  have hfull (hall : ∀ child ∈ children, child.resource.isSome) : (p.data.map fun slot => slot.label.added) =
      children.filterMap fun child => child.label.map Resource.added := by
    have hcount : (children.filterMap ChildNode.label).length = children.length :=
      List.filterMap_length_eq_length.mpr fun child hchild => by
        rw [ChildNode.label, Option.isSome_map]
        exact hall child hchild
    have htake := congrArg List.length h.front
    rw [List.length_map, List.length_take, hcount] at htake
    have hfront := h.front
    rw [List.take_of_length_le (by omega)] at hfront
    rw [← List.map_filterMap, ← hfront, List.map_map]
    rfl
  constructor
  · intro heq
    have hall := List.filterMap_length_eq_length.mp (by rw [← heq, List.length_map, hlength] :
      (children.filterMap ChildNode.resource).length = children.length)
    rw [hfull hall, filterMap_inj (by simpa [ChildNode.label] using hall) hall] at heq
    intro child hchild
    obtain ⟨resource, hresource⟩ := Option.isSome_iff_exists.mp (hall child hchild)
    have hsame := heq child hchild
    rw [ChildNode.label, hresource] at hsame
    exact ⟨resource, hresource, Option.some.inj hsame⟩
  · intro hall
    rw [hfull fun child hchild => by
      obtain ⟨resource, hresource, -⟩ := hall child hchild
      rw [hresource]
      rfl]
    refine List.filterMap_congr fun child hchild => ?_
    obtain ⟨resource, hresource, hsame⟩ := hall child hchild
    rw [ChildNode.label, hresource]
    exact congrArg some hsame

/-- The list of children is populated, and then exactly the resources that they stand for are registered, with
their types and aliases and in their order. -/
def RegistersChildren (children : List ChildNode) (r : Registry) : Prop :=
  ∃ p data r', populateDevList dirty base children = .ok p ∧
    Registry.bmcDevResRegister nameLen r (p.map (·.data)) = .ok (data, r') ∧
      r'.resources = r.resources ++ children.filterMap ChildNode.resource

/-- A child that stands for a resource, says all that is asked for one, and has an alias that fits. -/
structure ChildNode.Configures (child : ChildNode) : Prop where
  common : child.Common
  describes : ∃ type, child.kind = some type ∧ child.Describes type
  fits : ∀ text, child.attr "alias" = some text → text.length ≤ maxNameLen - 2

theorem ChildNode.configures_iff (child : ChildNode) : child.Configures ↔
    child.Passes ∧ ∃ resource, child.resource = some resource ∧ resource.inSlot.added = resource := by
  have hfits (type : ResourceType) (text : List Char) :
      (Resource.mk type text).inSlot.added = ⟨type, text⟩ ↔ text.length ≤ maxNameLen - 2 := by
    simp only [Resource.inSlot, Resource.added, snprintfName, Resource.mk.injEq, true_and, List.take_take]
    exact List.take_eq_self_iff text
  constructor
  · rintro ⟨hcommon, ⟨type, hkind, hdescribes⟩, hfit⟩
    obtain ⟨text, htext⟩ := Option.isSome_iff_exists.mp hcommon.2.1
    refine ⟨fun name hname => ⟨hcommon, fun type' htype' => ?_⟩, ⟨type, text⟩, ?_,
      (hfits type text).mpr (hfit text htext)⟩
    · rw [kind, hname, Option.bind_some, htype'] at hkind
      cases hkind
      exact hdescribes
    · rw [resource, hkind, htext]
      rfl
  · rintro ⟨hpasses, resource, hresource, hsame⟩
    obtain ⟨type, hkind, hresource⟩ := Option.bind_eq_some_iff.mp hresource
    obtain ⟨text, htext, rfl⟩ := Option.map_eq_some_iff.mp hresource
    obtain ⟨name, hname, htype⟩ := Option.bind_eq_some_iff.mp hkind
    refine ⟨(hpasses name hname).1, ⟨type, hkind, (hpasses name hname).2 type htype⟩, fun text' htext' => ?_⟩
    rw [htext] at htext'
    cases htext'
    exact (hfits type text).mp hsame

/-- The resources are those of the children iff there are children, and each of them configures a resource. -/
theorem registersChildren_iff (children : List ChildNode) (r : Registry) :
    RegistersChildren dirty base nameLen children r ↔
      children ≠ [] ∧ ∀ child ∈ children, child.Configures := by
  obtain ⟨hreturns, hfilled⟩ := populate_filled dirty base children
  simp only [ChildNode.configures_iff, forall_and]
  constructor
  · rintro ⟨p, data, r', hp, hr, hresources⟩
    rw [populateDevList] at hp
    split at hp
    · cases hp
      cases hr
    · rename_i hchildren
      obtain ⟨p', hp', hp⟩ := bind_eq_ok hp
      cases hp
      have hfill := hfilled p' hp'
      have hlast : (Registry.registerSlots nameLen r p'.data).2 = r' := congrArg Prod.snd (Except.ok.inj hr)
      rw [← hlast, Registry.resources_registerSlots nameLen r hfill.types,
        List.append_cancel_left_eq] at hresources
      exact ⟨hchildren, hreturns.mp ⟨p', hp'⟩, hfill.registered_iff.mp hresources⟩
  · rintro ⟨hchildren, hpasses, hresources⟩
    obtain ⟨p, hp⟩ := hreturns.mpr hpasses
    have hfill := hfilled p hp
    refine ⟨some p, _, _, ?_, rfl, ?_⟩
    · rw [populateDevList, if_neg hchildren, hp]
      rfl
    · rw [Registry.resources_registerSlots nameLen r hfill.types, hfill.registered_iff.mpr hresources]

end

/-! ## A child that stands for no resource -/

def tempChild : ChildNode where
  name := some "bmc_temp".toList
  attrs := [("instance".toList, "1".toList), ("alias".toList, "T1".toList),
    ("data_sdr_id".toList, "CPU temp".toList)]
  children := []

def ledChild : ChildNode where
  name := some "bmc_led".toList
  attrs := [("instance".toList, "1".toList), ("alias".toList, "L1".toList),
    ("data_sdr_id".toList, "LED".toList)]
  children := []

def emptyRegistry : Registry := ⟨.empty, []⟩

def registered (children : List ChildNode) : Except Crash (List Resource) := do
  let p ← populateDevList .zeroed 0 children
  let (_, r) ← Registry.bmcDevResRegister maxNameLen emptyRegistry (p.map (·.data))
  .ok r.resources

/-- The slot that is left over at the end is registered as a temperature sensor under the alias of the LED. -/
theorem led_becomes_temperature :
    registered [tempChild, ledChild] = .ok [⟨.temperature, "T1".toList⟩, ⟨.temperature, "L1".toList⟩] ∧
      ¬RegistersChildren .zeroed 0 maxNameLen [tempChild, ledChild] emptyRegistry := by
  have hrun : registered [tempChild, ledChild] =
    .ok [⟨.temperature, "T1".toList⟩, ⟨.temperature, "L1".toList⟩] := rfl
  refine ⟨hrun, ?_⟩
  rintro ⟨p, data, r, hp, hr, hresources⟩
  obtain ⟨p', hp', hrun⟩ := bind_eq_ok hrun
  obtain rfl : p = p' := Except.ok.inj (hp.symm.trans hp')
  obtain ⟨⟨data', r'⟩, hr', hrun⟩ := bind_eq_ok hrun
  obtain rfl : r = r' := congrArg Prod.snd (Except.ok.inj (hr.symm.trans hr'))
  have hlength := congrArg List.length ((Except.ok.inj hrun).symm.trans hresources)
  revert hlength
  decide

end OpxSdi.Bmc
