import OpxSdi.Bmc.Config
import OpxSdi.Entity.Presence
import OpxSdi.Lib.WriteLog

/-!
# Resources of the entities (`sdi_entity_framework.c`, `sdi_resource_framework.c`)

A handle is the number of its object. An entity has a list of handles; the name of a resource within its entity,
the entity and the pattern are kept in the resource, where every entity that refers to it finds them.
-/

namespace OpxSdi.Entity

open Lib
open Bmc (ResourceType maxNameLen)

/-- `regcomp` and `regexec` of the C library. A pattern buffer is written also if the pattern is not valid. -/
structure RegexLib (Regex : Type) where
  cleared : Regex
  regcomp : List Char → Bool × Regex
  regexec : Regex → List Byte → Bool

/-- The members of `struct sdi_resource` without the callbacks -/
structure Resource (Regex : Type) where
  name : List Char
  type : ResourceType
  aliasName : List Char
  parent : Option Nat
  entityPpidRegexpValid : Bool
  entityPpidRegexp : Regex

/-- The members of `struct sdi_entity` that have to do with its resources -/
structure EntityResources where
  entityInfoHdl : Option Nat
  resourceList : List Nat

structure Registry (Regex : Type) where
  resources : Nat → Resource Regex
  /-- `resource_list` of the resource framework -/
  resourceList : List Nat
  entities : Nat → EntityResources

/-- `strncmp(s, t, n) == 0`, of strings without NUL. -/
def strncmpEq (s t : List Char) (n : Nat) : Bool := s.take n = t.take n

/-- What `safestrncpy` leaves of a string in a name -/
def storedName (name : List Char) : List Char := name.take (maxNameLen - 1)

section

variable {Regex : Type} (lib : RegexLib Regex)

namespace Registry

/-! ## `sdi_resource_add` and `sdi_find_resource_by_name` -/

def empty : Registry Regex where
  resources _ := ⟨[], .temperature, [], none, false, lib.cleared⟩
  resourceList := []
  entities _ := ⟨none, []⟩

def resourceAdd (type : ResourceType) (name : List Char) (r : Registry Regex) : Registry Regex :=
  { r with
    resources := Function.update r.resources r.resourceList.length
      ⟨storedName name, type, [], none, false, lib.cleared⟩
    resourceList := r.resourceList ++ [r.resourceList.length] }

def findResourceByName (r : Registry Regex) (name : List Char) : Option Nat :=
  r.resourceList.find? fun hdl => strncmpEq (r.resources hdl).name name maxNameLen

/-! ## `sdi_entity_register_resources` -/

def setResource (hdl : Nat) (f : Resource Regex → Resource Regex) (r : Registry Regex) : Registry Regex :=
  { r with resources := Function.update r.resources hdl (f (r.resources hdl)) }

def setEntity (e : Nat) (f : EntityResources → EntityResources) (r : Registry Regex) : Registry Regex :=
  { r with entities := Function.update r.entities e (f (r.entities e)) }

def entityAddResource (e hdl : Nat) (name : List Char) (r : Registry Regex) : Registry Regex :=
  (r.setResource hdl fun res => { res with aliasName := storedName name, parent := some e }).setEntity e fun ent =>
    { ent with resourceList := ent.resourceList ++ [hdl] }

/-- A reference of an entity to a resource -/
structure Ref where
  hdl : Nat
  name : List Char
  ppid : Option (List Char)

/-- The attributes of a node, of which two are asserted to be there and the reference to be one. -/
def resolve (r : Registry Regex) (node : ConfigNode) : Except Crash Ref := do
  let resourceReference ← node.required "reference"
  let resourceName ← node.required "name"
  match r.findResourceByName resourceReference with
  | none => .error .assert
  | some resHdl => .ok ⟨resHdl, resourceName, node.attr "ppid"⟩

/-- The entity info handle of an entity is set by a reference to an entity info. -/
def setEntityInfoHdl (e hdl : Nat) (r : Registry Regex) : Registry Regex :=
  if (r.resources hdl).type = .entityInfo then r.setEntity e fun ent => { ent with entityInfoHdl := some hdl } else r

def registerRef (e : Nat) (ref : Ref) (r : Registry Regex) : Registry Regex :=
  let r := r.setEntityInfoHdl e ref.hdl
  match ref.ppid with
  | none => r.entityAddResource e ref.hdl ref.name
  | some ppid =>
      let (valid, regexp) := lib.regcomp ppid
      let r := r.setResource ref.hdl fun res => { res with entityPpidRegexp := regexp }
      if valid then
        (r.setResource ref.hdl fun res => { res with entityPpidRegexpValid := true }).entityAddResource
          e ref.hdl ref.name
      else r

def entityRegisterResources (e : Nat) : List ConfigNode → Registry Regex → Except Crash (Registry Regex)
  | [], r => .ok r
  | node :: nodes, r => do
      let ref ← r.resolve node
      entityRegisterResources e nodes (registerRef lib e ref r)

/-- The loop of `sdi_register_entities`, of the nodes that are left, with the number of the next entity. -/
def registerEntities (e : Nat) : List (List ConfigNode) → Registry Regex → Except Crash (Registry Regex)
  | [], r => .ok r
  | nodes :: rest, r => do
      let r ← entityRegisterResources lib e nodes r
      registerEntities (e + 1) rest r

/-! ## The queries -/

-- The presence and the entity info of the entities at the time of the query.
variable (states : Nat → EntityState) (r : Registry Regex)

def regexecPpid (regexp : Regex) (s : EntityState) : Bool := lib.regexec regexp (cstr s.entityInfo.ppid.toList)

/-- A resource in the list of an entity has a parent (`Registered.parent_isSome`). -/
def resourceEntityPpidMatch (hdl : Nat) : Bool :=
  !(r.resources hdl).entityPpidRegexpValid ||
    match (r.resources hdl).parent with
    | none => false
    | some e => (states e).entityInfoValid && regexecPpid lib (r.resources hdl).entityPpidRegexp (states e)

def entityResourceCountGet (e : Nat) (type : ResourceType) : Nat :=
  (r.entities e).resourceList.countP fun hdl =>
    resourceEntityPpidMatch lib states r hdl && (r.resources hdl).type = type

/-- The type is not looked at. -/
def entityResourceLookup (e : Nat) (_type : ResourceType) (aliasName : List Char) : Option Nat :=
  (r.entities e).resourceList.find? fun hdl =>
    resourceEntityPpidMatch lib states r hdl && strncmpEq (r.resources hdl).aliasName aliasName maxNameLen

def entityForEachResource {σ : Type} (fn : Nat → σ → σ) (e : Nat) (userData : σ) : σ :=
  (r.entities e).resourceList.foldl
    (fun userData hdl => if !resourceEntityPpidMatch lib states r hdl then userData else fn hdl userData) userData

end Registry

end

/-! ## The fault of an entity (`sdi_entity_fault_status_get`)

An entity without a pin for its fault has one if one of its fans does. A fan is asked by a function of its driver,
which may change the system. The record has the answers of the fans.
-/

variable {Regex ω : Type}

/-- The caller's fault, the system, and the record -/
structure FaultCheck (ω : Type) where
  fault : Bool
  world : ω
  answers : List (Nat × Except Errno Bool)

/-- What a call returns and leaves. -/
structure FaultResult (ω : Type) extends FaultCheck ω where
  rc : TStdError
  states : Nat → EntityState

variable (lib : RegexLib Regex) (r : Registry Regex) (fanStatusGet : Nat → ω → Except Errno Bool × ω)

/-- `sdi_check_fault_each_resource`. An error is logged. -/
def checkFaultEachResource (hdl : Nat) (data : FaultCheck ω) : FaultCheck ω :=
  if (r.resources hdl).type = .fan then
    let (rc, world) := fanStatusGet hdl data.world
    let fault :=
      match rc with
      | .ok fault => data.fault || fault
      | .error _ => data.fault
    ⟨fault, world, data.answers ++ [(hdl, rc)]⟩
  else data

/-- `sdi_entity_fault_status_get` of entity `e`. The fault on entry is not looked at. -/
def entityFaultStatusGet (c : EntityConfig) (faultStatusPin : Option (Except Errno PinLevel)) (readings : Readings)
    (e : Nat) (states : Nat → EntityState) (world : ω) (_fault : Bool) : FaultResult ω :=
  let data : FaultCheck ω := ⟨false, world, []⟩
  match faultStatusPin with
  | some (.ok level) => ⟨{ data with fault := level = .high }, .ok, states⟩
  | some (.error rc) => ⟨data, .errcode rc, states⟩
  | none =>
      let pres := entityPresenceGet c readings (states e) false
      let states := Function.update states e pres.state
      if pres.rc ≠ .ok then ⟨data, pres.rc, states⟩
      else if pres.presence then
        ⟨r.entityForEachResource lib states (checkFaultEachResource r fanStatusGet) e data, pres.rc, states⟩
      else ⟨data, .errcode .enxio, states⟩

end OpxSdi.Entity
