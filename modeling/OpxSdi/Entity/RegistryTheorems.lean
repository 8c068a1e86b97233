import Mathlib.Data.List.Count
import OpxSdi.Entity.Registry

/-!
# What the entities find of their resources

A resource keeps the name, the entity and the pattern of the last reference to it. The queries of an entity go
by these, whichever entity the reference is from.
-/

namespace OpxSdi.Entity

open Lib
open Bmc (ResourceType maxNameLen)

variable {Regex : Type} (lib : RegexLib Regex)

namespace Registry

/-! ## The references of a configuration -/

/-- The references of all entities in the order in which they are registered, each with its entity -/
abbrev Log := List (Nat × Ref)

namespace Ref

/-- The reference has no pattern, or one that is valid. -/
def compiles (ref : Ref) : Bool :=
  match ref.ppid with
  | none => true
  | some ppid => (lib.regcomp ppid).1

/-- The pattern of the reference, if any, is that of the PPID of an entity. -/
def available (s : EntityState) (ref : Ref) : Bool :=
  match ref.ppid with
  | none => true
  | some ppid => (lib.regcomp ppid).1 && (s.entityInfoValid && regexecPpid lib (lib.regcomp ppid).2 s)

end Ref

namespace Log

variable (log : Log)

def refs (e : Nat) : List Ref := (log.filter (·.1 = e)).map (·.2)

/-- The references whose resource the entity has -/
def available (states : Nat → EntityState) (e : Nat) : List Ref := (log.refs e).filter (·.available lib (states e))

/-- The entity and the name of the last reference to a resource -/
def lastAdded (hdl : Nat) : Option (Nat × List Char) :=
  lastWritten hdl ((log.filter (·.2.compiles lib)).map fun x => (x.2.hdl, (x.1, x.2.name)))

def lastPattern (hdl : Nat) : Option (List Char) :=
  lastWritten hdl (log.filterMap fun x => x.2.ppid.map fun ppid => (x.2.hdl, ppid))

def hasPattern (hdl : Nat) : Bool := log.any fun x => x.2.hdl = hdl && (x.2.ppid.isSome && x.2.compiles lib)

/-- The last pattern given for a resource, if any is valid, is that of the PPID of the entity that was the
last to refer to it. -/
def lastMatches (states : Nat → EntityState) (hdl : Nat) : Bool :=
  !log.hasPattern lib hdl ||
    match log.lastAdded lib hdl with
    | none => false
    | some (e, _) => (states e).entityInfoValid &&
        regexecPpid lib (((log.lastPattern hdl).map fun ppid => (lib.regcomp ppid).2).getD lib.cleared) (states e)

/-- The name by which a resource was last referred to -/
def lastName (hdl : Nat) : List Char := ((log.lastAdded lib hdl).map fun x => storedName x.2).getD []

/-- The first resource an entity has that was last referred to by a name -/
def firstNamed (states : Nat → EntityState) (e : Nat) (name : List Char) : Option Nat :=
  ((log.available lib states e).map (·.hdl)).find? fun hdl => log.lastName lib hdl = name

end Log

/-- The resources that the drivers have added -/
def ofResources (added : List (ResourceType × List Char)) : Registry Regex :=
  added.foldl (fun r x => r.resourceAdd lib x.1 x.2) (empty lib)

/-- The references of the nodes that are left -/
def log (r : Registry Regex) (e : Nat) : List (List ConfigNode) → Log
  | [] => []
  | nodes :: rest =>
      (nodes.filterMap fun node => (r.resolve node).toOption.map fun ref => (e, ref)) ++ log r (e + 1) rest

/-! ## The queries -/

/-- What the queries of entity `e` for a type and a name are to give -/
structure Consistent (states : Nat → EntityState) (log : Log) (r : Registry Regex) (e : Nat) (type : ResourceType)
    (name : List Char) : Prop where
  lookup_isSome : (r.entityResourceLookup lib states e type name).isSome ↔
    ∃ ref ∈ log.available lib states e, ref.name = name ∧ (r.resources ref.hdl).type = type
  lookup_some : ∀ hdl, r.entityResourceLookup lib states e type name = some hdl →
    ∃ ref ∈ log.available lib states e, ref.hdl = hdl ∧ ref.name = name ∧ (r.resources hdl).type = type
  forEach : r.entityForEachResource lib states (fun hdl visited => visited ++ [hdl]) e [] =
    (log.available lib states e).map (·.hdl)
  count : r.entityResourceCountGet lib states e type =
    (log.available lib states e).countP fun ref => (r.resources ref.hdl).type = type

/-- For entity `e`, what the last references have left in the resources is what its own references say. -/
structure Undisturbed (states : Nat → EntityState) (log : Log) (r : Registry Regex) (e : Nat) (type : ResourceType)
    (name : List Char) : Prop where
  pattern : ∀ ref ∈ log.refs e, ref.compiles lib = true →
    log.lastMatches lib states ref.hdl = ref.available lib (states e)
  found : ∀ hdl, log.firstNamed lib states e name = some hdl → (r.resources hdl).type = type ∧
    ∃ ref ∈ log.available lib states e, ref.hdl = hdl ∧ ref.name = name
  missed : log.firstNamed lib states e name = none →
    ∀ ref ∈ log.available lib states e, ref.name = name → (r.resources ref.hdl).type ≠ type

/-! ## One reference -/

variable {lib} {r r0 : Registry Regex} {log : Log} {e : Nat} {ref : Ref}

/-- What a reference leaves of its resource -/
def referred (lib : RegexLib Regex) (e : Nat) (ref : Ref) (res : Resource Regex) : Resource Regex :=
  let res := match ref.ppid with
    | none => res
    | some ppid => { res with
        entityPpidRegexp := (lib.regcomp ppid).2
        entityPpidRegexpValid := res.entityPpidRegexpValid || (lib.regcomp ppid).1 }
  if ref.compiles lib then { res with aliasName := storedName ref.name, parent := some e } else res

section Referred

variable (res : Resource Regex)

theorem referred_name : (referred lib e ref res).name = res.name := by
  rw [referred]
  cases ref.ppid <;> split <;> rfl

theorem referred_type : (referred lib e ref res).type = res.type := by
  rw [referred]
  cases ref.ppid <;> split <;> rfl

theorem referred_aliasName :
    (referred lib e ref res).aliasName = if ref.compiles lib then storedName ref.name else res.aliasName := by
  rw [referred]
  cases ref.ppid <;> split <;> rfl

theorem referred_parent : (referred lib e ref res).parent = if ref.compiles lib then some e else res.parent := by
  rw [referred]
  cases ref.ppid <;> split <;> rfl

theorem referred_valid : (referred lib e ref res).entityPpidRegexpValid =
    (res.entityPpidRegexpValid || (ref.ppid.isSome && ref.compiles lib)) := by
  rw [referred, Ref.compiles]
  cases ref.ppid with
  | none => exact (Bool.or_false _).symm
  | some ppid =>
      dsimp only
      split <;> rfl

theorem referred_regexp : (referred lib e ref res).entityPpidRegexp =
    (ref.ppid.map fun ppid => (lib.regcomp ppid).2).getD res.entityPpidRegexp := by
  rw [referred]
  cases ref.ppid <;> split <;> rfl

end Referred

@[simp] theorem resources_setEntityInfoHdl (e hdl : Nat) (r : Registry Regex) :
    (r.setEntityInfoHdl e hdl).resources = r.resources := by
  rw [setEntityInfoHdl]
  split <;> rfl

@[simp] theorem resourceList_setEntityInfoHdl (e hdl : Nat) (r : Registry Regex) :
    (r.setEntityInfoHdl e hdl).resourceList = r.resourceList := by
  rw [setEntityInfoHdl]
  split <;> rfl

theorem entities_setEntity (e : Nat) (f : EntityResources → EntityResources) (r : Registry Regex) (e' : Nat) :
    (r.setEntity e f).entities e' = if e = e' then f (r.entities e') else r.entities e' := by
  simp only [setEntity, Function.update_apply, eq_comm (a := e)]
  split
  · rename_i heq
    rw [heq]
  · rfl

@[simp] theorem entities_setEntityInfoHdl (e hdl : Nat) (r : Registry Regex) (e' : Nat) :
    ((r.setEntityInfoHdl e hdl).entities e').resourceList = (r.entities e').resourceList := by
  rw [setEntityInfoHdl]
  split
  · rw [entities_setEntity]
    split <;> rfl
  · rfl

theorem entities_entityAddResource (e hdl : Nat) (name : List Char) (r : Registry Regex) (e' : Nat) :
    ((r.entityAddResource e hdl name).entities e').resourceList =
      if e = e' then (r.entities e').resourceList ++ [hdl] else (r.entities e').resourceList := by
  rw [entityAddResource, entities_setEntity]
  split <;> rfl

theorem resources_registerRef (lib : RegexLib Regex) (e : Nat) (ref : Ref) (r : Registry Regex) :
    (registerRef lib e ref r).resources =
      Function.update r.resources ref.hdl (referred lib e ref (r.resources ref.hdl)) := by
  rw [registerRef, referred, Ref.compiles]
  cases ref.ppid with
  | none => simp [entityAddResource, setResource, setEntity]
  | some ppid => cases hvalid : (lib.regcomp ppid).1 <;> simp [entityAddResource, setResource, setEntity, hvalid]

theorem resource_registerRef (lib : RegexLib Regex) (e : Nat) (ref : Ref) (r : Registry Regex) (hdl : Nat) :
    (registerRef lib e ref r).resources hdl =
      if ref.hdl = hdl then referred lib e ref (r.resources hdl) else r.resources hdl := by
  rw [resources_registerRef, Function.update_apply]
  simp only [eq_comm (a := hdl)]
  split
  · rename_i heq
    rw [heq]
  · rfl

theorem resourceList_registerRef (lib : RegexLib Regex) (e : Nat) (ref : Ref) (r : Registry Regex) :
    (registerRef lib e ref r).resourceList = r.resourceList := by
  rw [registerRef]
  cases ref.ppid with
  | none => exact resourceList_setEntityInfoHdl ..
  | some ppid =>
      dsimp only
      split <;> exact resourceList_setEntityInfoHdl ..

theorem entities_registerRef (lib : RegexLib Regex) (e : Nat) (ref : Ref) (r : Registry Regex) (e' : Nat) :
    ((registerRef lib e ref r).entities e').resourceList =
      if e = e' ∧ ref.compiles lib then (r.entities e').resourceList ++ [ref.hdl]
      else (r.entities e').resourceList := by
  rw [registerRef, Ref.compiles]
  cases ref.ppid with
  | none =>
      rw [entities_entityAddResource, entities_setEntityInfoHdl]
      simp
  | some ppid =>
      cases hvalid : (lib.regcomp ppid).1 with
      | true => simp [entities_entityAddResource, setResource, hvalid]
      | false => simp [setResource, hvalid]

/-! ## All references -/

namespace Log

theorem refs_concat (log : Log) (e : Nat) (ref : Ref) (e' : Nat) :
    Log.refs (log ++ [(e, ref)]) e' = if e = e' then log.refs e' ++ [ref] else log.refs e' := by
  by_cases h : e = e' <;> simp [refs, h]

theorem lastAdded_concat (log : Log) (e : Nat) (ref : Ref) (hdl : Nat) :
    Log.lastAdded lib (log ++ [(e, ref)]) hdl =
      if ref.compiles lib ∧ ref.hdl = hdl then some (e, ref.name) else log.lastAdded lib hdl := by
  rw [lastAdded, lastAdded, List.filter_append, List.map_append]
  cases hc : ref.compiles lib with
  | true => simp [hc, lastWritten_concat]
  | false => simp [hc]

theorem lastPattern_concat (log : Log) (e : Nat) (ref : Ref) (hdl : Nat) :
    Log.lastPattern (log ++ [(e, ref)]) hdl =
      if ref.hdl = hdl then ref.ppid.or (log.lastPattern hdl) else log.lastPattern hdl := by
  rw [lastPattern, lastPattern, List.filterMap_append]
  cases hp : ref.ppid with
  | none => simp [hp]
  | some ppid => simp [hp, lastWritten_concat]

theorem hasPattern_concat (log : Log) (e : Nat) (ref : Ref) (hdl : Nat) :
    Log.hasPattern lib (log ++ [(e, ref)]) hdl =
      (log.hasPattern lib hdl || (ref.hdl = hdl && (ref.ppid.isSome && ref.compiles lib))) := by
  simp [hasPattern, List.any_append]

end Log

/-- The registry after the references of `log`: the resources hold what the last of them have left. -/
structure Registered (lib : RegexLib Regex) (log : Log) (r0 r : Registry Regex) : Prop where
  name : ∀ hdl, (r.resources hdl).name = (r0.resources hdl).name
  type : ∀ hdl, (r.resources hdl).type = (r0.resources hdl).type
  resourceList : r.resourceList = r0.resourceList
  aliasName : ∀ hdl, (r.resources hdl).aliasName = log.lastName lib hdl
  parent : ∀ hdl, (r.resources hdl).parent = (log.lastAdded lib hdl).map (·.1)
  valid : ∀ hdl, (r.resources hdl).entityPpidRegexpValid = log.hasPattern lib hdl
  regexp : ∀ hdl, (r.resources hdl).entityPpidRegexp =
    ((log.lastPattern hdl).map fun ppid => (lib.regcomp ppid).2).getD lib.cleared
  entity : ∀ e, (r.entities e).resourceList = ((log.refs e).filter (·.compiles lib)).map (·.hdl)

theorem Registered.registerRef (h : Registered lib log r0 r) (e : Nat) (ref : Ref) :
    Registered lib (log ++ [(e, ref)]) r0 (registerRef lib e ref r) where
  name hdl := by
    rw [resource_registerRef, ← h.name hdl]
    split
    · exact referred_name _
    · rfl
  type hdl := by
    rw [resource_registerRef, ← h.type hdl]
    split
    · exact referred_type _
    · rfl
  resourceList := (resourceList_registerRef ..).trans h.resourceList
  aliasName hdl := by
    rw [resource_registerRef, Log.lastName, Log.lastAdded_concat]
    by_cases hhdl : ref.hdl = hdl
    · rw [if_pos hhdl, referred_aliasName, h.aliasName, Log.lastName]
      cases ref.compiles lib <;> simp [hhdl]
    · rw [if_neg hhdl, if_neg fun h => hhdl h.2, h.aliasName]
      rfl
  parent hdl := by
    rw [resource_registerRef, Log.lastAdded_concat]
    by_cases hhdl : ref.hdl = hdl
    · rw [if_pos hhdl, referred_parent, h.parent]
      cases ref.compiles lib <;> simp [hhdl]
    · rw [if_neg hhdl, if_neg fun h => hhdl h.2, h.parent]
  valid hdl := by
    rw [resource_registerRef, Log.hasPattern_concat, ← h.valid]
    by_cases hhdl : ref.hdl = hdl
    · rw [if_pos hhdl, referred_valid, decide_eq_true hhdl, Bool.true_and]
    · rw [if_neg hhdl, decide_eq_false hhdl, Bool.false_and, Bool.or_false]
  regexp hdl := by
    rw [resource_registerRef, Log.lastPattern_concat]
    by_cases hhdl : ref.hdl = hdl
    · rw [if_pos hhdl, if_pos hhdl, referred_regexp, h.regexp]
      cases ref.ppid <;> rfl
    · rw [if_neg hhdl, if_neg hhdl, h.regexp]
  entity e' := by
    rw [entities_registerRef, h.entity, Log.refs_concat]
    by_cases he : e = e'
    · cases hc : ref.compiles lib <;> simp [he, hc]
    · rw [if_neg fun h => he h.1, if_neg he]

theorem Registered.resolve (h : Registered lib log r0 r) (node : ConfigNode) : r.resolve node = r0.resolve node := by
  have hfind : ∀ name, r.findResourceByName name = r0.findResourceByName name := fun name => by
    simp only [findResourceByName, h.resourceList, h.name]
  simp only [Registry.resolve, hfind]

/-- The loop of one entity -/
theorem Registered.registerResources {nodes : List ConfigNode} {r' : Registry Regex} (h : Registered lib log r0 r)
    (hok : entityRegisterResources lib e nodes r = .ok r') :
    Registered lib (log ++ nodes.filterMap fun node => (r0.resolve node).toOption.map fun ref => (e, ref)) r0 r' := by
  induction nodes generalizing log r with
  | nil =>
      obtain rfl := Except.ok.inj hok
      rw [List.filterMap_nil, List.append_nil]
      exact h
  | cons node nodes ih =>
      rw [entityRegisterResources, h.resolve] at hok
      cases hnode : r0.resolve node with
      | error c =>
          rw [hnode] at hok
          cases hok
      | ok ref =>
          rw [hnode] at hok
          have hrest := ih (h.registerRef e ref) hok
          rw [List.append_assoc] at hrest
          rw [List.filterMap_cons, hnode]
          exact hrest

/-- The loop over the entities -/
theorem Registered.registerEntities {cfg : List (List ConfigNode)} {r' : Registry Regex} (h : Registered lib log r0 r)
    (hok : Registry.registerEntities lib e cfg r = .ok r') : Registered lib (log ++ r0.log e cfg) r0 r' := by
  induction cfg generalizing log r e with
  | nil =>
      obtain rfl := Except.ok.inj hok
      rw [Registry.log, List.append_nil]
      exact h
  | cons nodes rest ih =>
      rw [Registry.registerEntities] at hok
      cases hnodes : entityRegisterResources lib e nodes r with
      | error c =>
          rw [hnodes] at hok
          cases hok
      | ok r1 =>
          rw [hnodes] at hok
          have hrest := ih (h.registerResources hnodes) hok
          rw [List.append_assoc] at hrest
          exact hrest

theorem resource_resourceAdd (lib : RegexLib Regex) (type : ResourceType) (name : List Char) (r : Registry Regex)
    (hdl : Nat) : (r.resourceAdd lib type name).resources hdl =
      if hdl = r.resourceList.length then ⟨storedName name, type, [], none, false, lib.cleared⟩ else r.resources hdl :=
  Function.update_apply ..

theorem Registered.resourceAdd (h : Registered lib [] r r) (type : ResourceType) (name : List Char) :
    Registered lib [] (r.resourceAdd lib type name) (r.resourceAdd lib type name) where
  name _ := rfl
  type _ := rfl
  resourceList := rfl
  aliasName hdl := by
    rw [resource_resourceAdd]
    split
    · rfl
    · exact h.aliasName hdl
  parent hdl := by
    rw [resource_resourceAdd]
    split
    · rfl
    · exact h.parent hdl
  valid hdl := by
    rw [resource_resourceAdd]
    split
    · rfl
    · exact h.valid hdl
  regexp hdl := by
    rw [resource_resourceAdd]
    split
    · rfl
    · exact h.regexp hdl
  entity := h.entity

/-- The resources before any entity is registered -/
theorem Registered.ofResources (lib : RegexLib Regex) (added : List (ResourceType × List Char)) :
    Registered lib [] (ofResources lib added) (ofResources lib added) := by
  have hfold : ∀ r, Registered lib [] r r → Registered lib []
      (added.foldl (fun r x => r.resourceAdd lib x.1 x.2) r) (added.foldl (fun r x => r.resourceAdd lib x.1 x.2) r) := by
    induction added with
    | nil => exact fun r h => h
    | cons x added ih => exact fun r h => ih _ (h.resourceAdd x.1 x.2)
  exact hfold _ ⟨fun _ => rfl, fun _ => rfl, rfl, fun _ => rfl, fun _ => rfl, fun _ => rfl, fun _ => rfl, fun _ => rfl⟩

/-! ## What the queries go by -/

theorem strncmpEq_iff {s t : List Char} {n : Nat} (h : s.length < n) : strncmpEq s t n = true ↔ s = t := by
  rw [strncmpEq, decide_eq_true_iff, List.take_of_length_le (Nat.le_of_lt h)]
  constructor
  · intro heq
    have hlen := congrArg List.length heq
    rw [List.length_take] at hlen
    rw [heq, List.take_of_length_le (by omega)]
  · rintro rfl
    exact (List.take_of_length_le (Nat.le_of_lt h)).symm

/-- The values of a list at which `p` holds are those of the members at which `q` does if and only if no member
is told apart by `p` and `q`: counted value by value, `p` takes all or none. -/
theorem filter_map_eq_map_filter_iff {α β : Type} [DecidableEq β] (l : List α) (f : α → β) (p : β → Bool)
    (q : α → Bool) : (l.map f).filter p = (l.filter q).map f ↔ ∀ a ∈ l, p (f a) = q a := by
  constructor
  · intro h a ha
    have hmem : a ∈ l.filter fun x => f x == f a := List.mem_filter.mpr ⟨ha, beq_self_eq_true _⟩
    have hsame : ∀ x ∈ l.filter fun x => f x == f a, p (f x) = p (f a) := fun x hx =>
      congrArg p (beq_iff_eq.mp (List.mem_filter.mp hx).2)
    have hcount : (l.filter fun x => f x == f a).countP (fun x => p (f x)) =
        (l.filter fun x => f x == f a).countP q := by
      have := congrArg (List.countP (· == f a)) h
      rw [List.countP_filter, List.countP_map, List.countP_map, List.countP_filter] at this
      rw [List.countP_filter, List.countP_filter]
      simpa only [Function.comp_def, Bool.and_comm] using this
    cases hp : p (f a) with
    | true =>
        have hall := List.countP_eq_length.mpr fun x hx => (hsame x hx).trans hp
        exact (List.countP_eq_length.mp (hcount.symm.trans hall) a hmem).symm
    | false =>
        have hnone := List.countP_eq_zero.mpr fun x hx => Bool.eq_false_iff.mp ((hsame x hx).trans hp)
        exact (Bool.eq_false_iff.mpr (List.countP_eq_zero.mp (hcount.symm.trans hnone) a hmem)).symm
  · intro h
    rw [List.filter_map]
    exact congrArg (List.map f) (List.filter_congr h)

namespace Registered

variable {states : Nat → EntityState}

theorem match_eq (h : Registered lib log r0 r) (hdl : Nat) :
    resourceEntityPpidMatch lib states r hdl = log.lastMatches lib states hdl := by
  rw [resourceEntityPpidMatch, Log.lastMatches, h.valid, h.parent, h.regexp]
  cases log.lastAdded lib hdl <;> rfl

theorem alias_eq (h : Registered lib log r0 r) (hdl : Nat) (name : List Char) :
    strncmpEq (r.resources hdl).aliasName name maxNameLen = decide (log.lastName lib hdl = name) := by
  have hlen : (log.lastName lib hdl).length < maxNameLen := by
    rw [Log.lastName]
    cases log.lastAdded lib hdl with
    | none => decide
    | some x => exact Nat.lt_of_le_of_lt (List.length_take_le ..) (by decide)
  rw [h.aliasName, Bool.eq_iff_iff, strncmpEq_iff hlen, decide_eq_true_iff]

/-- A resource in the list of an entity has a parent. -/
theorem parent_isSome (h : Registered lib log r0 r) {hdl : Nat} (hmem : hdl ∈ (r.entities e).resourceList) :
    (r.resources hdl).parent.isSome := by
  rw [h.entity] at hmem
  obtain ⟨ref, href, rfl⟩ := List.mem_map.mp hmem
  obtain ⟨href, hcompiles⟩ := List.mem_filter.mp href
  obtain ⟨⟨e', ref'⟩, hlog, rfl⟩ := List.mem_map.mp href
  rw [h.parent, Option.isSome_map, ← Option.ne_none_iff_isSome, Log.lastAdded, Ne, lastWritten_eq_none_iff]
  exact fun hno => hno _ (List.mem_map_of_mem (List.mem_filter.mpr ⟨List.mem_of_mem_filter hlog, hcompiles⟩)) rfl

end Registered

theorem Ref.compiles_of_available {s : EntityState} (h : ref.available lib s = true) : ref.compiles lib = true := by
  rw [Ref.available] at h
  rw [Ref.compiles]
  cases hp : ref.ppid with
  | none => rfl
  | some ppid =>
      rw [hp, Bool.and_eq_true] at h
      exact h.1

theorem Log.available_eq (log : Log) (states : Nat → EntityState) (e : Nat) :
    log.available lib states e = ((log.refs e).filter (·.compiles lib)).filter (·.available lib (states e)) := by
  rw [Log.available, List.filter_filter]
  exact List.filter_congr fun ref _ =>
    (Bool.and_eq_left_iff_imp.mpr Ref.compiles_of_available).symm

theorem entityForEachResource_append (states : Nat → EntityState) (r : Registry Regex) (e : Nat) :
    r.entityForEachResource lib states (fun hdl visited => visited ++ [hdl]) e [] =
      (r.entities e).resourceList.filter (resourceEntityPpidMatch lib states r) := by
  have hfold : ∀ (hdls visited : List Nat), hdls.foldl
      (fun visited hdl => if !resourceEntityPpidMatch lib states r hdl then visited else visited ++ [hdl]) visited =
        visited ++ hdls.filter (resourceEntityPpidMatch lib states r) := fun hdls => by
    induction hdls with
    | nil => exact fun visited => (List.append_nil visited).symm
    | cons hdl hdls ih =>
        intro visited
        rw [List.foldl_cons, ih, List.filter_cons]
        cases resourceEntityPpidMatch lib states r hdl with
        | true => exact List.append_assoc ..
        | false => rfl
  exact (hfold _ []).trans (List.nil_append _)

namespace Registered

variable {states : Nat → EntityState}

/-- The handles visited are those of the available references if and only if no pattern is disturbed. -/
theorem forEach_iff (h : Registered lib log r0 r) : r.entityForEachResource lib states
      (fun hdl visited => visited ++ [hdl]) e [] = (log.available lib states e).map (·.hdl) ↔
    ∀ ref ∈ log.refs e, ref.compiles lib = true →
      log.lastMatches lib states ref.hdl = ref.available lib (states e) := by
  rw [entityForEachResource_append, h.entity, Log.available_eq, filter_map_eq_map_filter_iff]
  simp only [List.mem_filter, and_imp, h.match_eq]

theorem lookup_eq (h : Registered lib log r0 r) (hvisited : (r.entities e).resourceList.filter
      (resourceEntityPpidMatch lib states r) = (log.available lib states e).map (·.hdl)) (type : ResourceType)
    (name : List Char) : r.entityResourceLookup lib states e type name = log.firstNamed lib states e name := by
  rw [entityResourceLookup, Log.firstNamed, ← hvisited, List.find?_filter]
  simp only [h.alias_eq, Bool.decide_and, Bool.decide_eq_true]

theorem count_eq (hvisited : (r.entities e).resourceList.filter (resourceEntityPpidMatch lib states r) =
      (log.available lib states e).map (·.hdl)) (type : ResourceType) :
    r.entityResourceCountGet lib states e type =
      (log.available lib states e).countP fun ref => (r.resources ref.hdl).type = type := by
  have hcount := congrArg (List.countP fun hdl => (r.resources hdl).type = type) hvisited
  rw [List.countP_filter, List.countP_map] at hcount
  rw [entityResourceCountGet]
  simpa only [Function.comp_def, Bool.and_comm] using hcount

end Registered

theorem consistent_iff {cfg : List (List ConfigNode)} {added : List (ResourceType × List Char)}
    (states : Nat → EntityState) (h : registerEntities lib 0 cfg (ofResources lib added) = .ok r) (e : Nat)
    (type : ResourceType) (name : List Char) :
    Consistent lib states ((ofResources lib added).log 0 cfg) r e type name ↔
      Undisturbed lib states ((ofResources lib added).log 0 cfg) (ofResources lib added) e type name := by
  have hreg := (Registered.ofResources lib added).registerEntities h
  rw [List.nil_append] at hreg
  generalize (ofResources lib added).log 0 cfg = log at hreg ⊢
  constructor
  · intro hc
    have hvisited := (entityForEachResource_append states r e).symm.trans hc.forEach
    have hlookup := hreg.lookup_eq hvisited type name
    refine ⟨hreg.forEach_iff.mp hc.forEach, fun hdl hdl' => ?_, fun hnone ref href hname htype => ?_⟩
    · obtain ⟨ref, href, rfl, hname, htype⟩ := hc.lookup_some hdl (hlookup.trans hdl')
      exact ⟨(hreg.type _).symm.trans htype, ref, href, rfl, hname⟩
    · have hsome := hc.lookup_isSome.mpr ⟨ref, href, hname, (hreg.type _).trans htype⟩
      rw [hlookup, hnone] at hsome
      exact Bool.false_ne_true hsome
  · intro hu
    have hforEach := hreg.forEach_iff.mpr hu.pattern
    have hvisited := (entityForEachResource_append states r e).symm.trans hforEach
    have hlookup := hreg.lookup_eq hvisited type name
    have hfound : ∀ hdl, r.entityResourceLookup lib states e type name = some hdl →
        ∃ ref ∈ log.available lib states e, ref.hdl = hdl ∧ ref.name = name ∧ (r.resources hdl).type = type :=
      fun hdl hdl' => by
        obtain ⟨htype, ref, href, rfl, hname⟩ := hu.found hdl (hlookup.symm.trans hdl')
        exact ⟨ref, href, rfl, hname, (hreg.type _).trans htype⟩
    refine ⟨⟨fun hsome => ?_, fun hex => ?_⟩, hfound, hforEach, Registered.count_eq hvisited type⟩
    · obtain ⟨hdl, hdl'⟩ := Option.isSome_iff_exists.mp hsome
      obtain ⟨ref, href, rfl, hname, htype⟩ := hfound hdl hdl'
      exact ⟨ref, href, hname, htype⟩
    · obtain ⟨ref, href, hname, htype⟩ := hex
      rw [hlookup, ← Option.ne_none_iff_isSome]
      exact fun hnone => hu.missed hnone ref href hname ((hreg.type _).symm.trans htype)

/-! ## Two entities and one resource -/

/-- Patterns without special characters -/
def literalLib : RegexLib (List Char) where
  cleared := []
  regcomp ppid := (true, ppid)
  regexec ppid s := (List.range (s.length + 1)).any fun i =>
    (ppid.map fun c => BitVec.ofNat 8 c.toNat).isPrefixOf (s.drop i)

def sensor : List (ResourceType × List Char) := [(.temperature, ['T'])]

def sensorRef (name : List Char) : ConfigNode := ⟨none, [("reference".toList, ['T']), ("name".toList, name)]⟩

/-- An entity with this character as its PPID -/
def entityOf (ppid : Byte) : EntityState := ⟨true, true, { EntityInfo.zero with ppid := EntityInfo.zero.ppid.set 0 ppid }⟩

/-- Two entities share a sensor, for which the first one gives a pattern. -/
def sharedSensor : List (List ConfigNode) :=
  [[⟨none, [("reference".toList, ['T']), ("name".toList, ['A']), ("ppid".toList, ['F'])]⟩], [sensorRef ['B']]]

/-- The sensor is the one of the second entity, whose PPID the pattern of the first one fits. The first entity has
lost its name for the sensor. -/
theorem consistent_sensor :
    ∃ r, registerEntities literalLib 0 sharedSensor (ofResources literalLib sensor) = .ok r ∧
      Consistent literalLib (fun _ => entityOf 0x46) ((ofResources literalLib sensor).log 0 sharedSensor) r 1
        .temperature ['B'] ∧
      ¬Consistent literalLib (fun _ => entityOf 0x46) ((ofResources literalLib sensor).log 0 sharedSensor) r 0
        .temperature ['A'] := by
  refine ⟨_, rfl, (consistent_iff (fun _ => entityOf 0x46) rfl 1 .temperature ['B']).mpr ⟨by decide, ?_, ?_⟩, fun h => ?_⟩
  · intro hdl hfound
    obtain rfl : 0 = hdl := Option.some.inj hfound
    exact ⟨rfl, ⟨0, ['B'], none⟩, List.mem_cons_self, rfl, rfl⟩
  · intro hmissed
    cases hmissed
  · have hundisturbed := (consistent_iff (fun _ => entityOf 0x46) rfl 0 .temperature ['A']).mp h
    exact hundisturbed.missed rfl ⟨0, ['A'], some ['F']⟩ List.mem_cons_self rfl rfl

/-- A sensor is found when a fan is looked for. The name that the first entity gave to the sensor is lost when the
second gives it another. -/
theorem not_consistent_sensor :
    (∃ r, registerEntities literalLib 0 [[sensorRef ['A']]] (ofResources literalLib sensor) = .ok r ∧
      ¬Consistent literalLib (fun _ => .create) ((ofResources literalLib sensor).log 0 [[sensorRef ['A']]]) r 0 .fan
        ['A']) ∧
    ∃ r, registerEntities literalLib 0 [[sensorRef ['A']], [sensorRef ['B']]] (ofResources literalLib sensor) =
        .ok r ∧
      ¬Consistent literalLib (fun _ => .create)
        ((ofResources literalLib sensor).log 0 [[sensorRef ['A']], [sensorRef ['B']]]) r 0 .temperature ['A'] := by
  refine ⟨⟨_, rfl, fun h => ?_⟩, ⟨_, rfl, fun h => ?_⟩⟩
  · obtain ⟨-, -, -, -, htype⟩ := h.lookup_some 0 rfl
    cases htype
  · have hsome := h.lookup_isSome.mpr ⟨⟨0, ['A'], none⟩, List.mem_cons_self .., rfl, rfl⟩
    cases hsome

end Registry

end OpxSdi.Entity
