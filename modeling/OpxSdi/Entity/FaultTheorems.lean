import OpxSdi.Entity.Registry
import OpxSdi.Entity.Lemmas.Call
import OpxSdi.Lib.Run

/-!
# The fault of an entity without a pin

The call answers `STD_ERR_OK` although a fan could not be read, so what the answer means depends on the fans.
-/

namespace OpxSdi.Entity

open Lib

variable {Regex ω : Type}

/-! ## What an answer should mean -/

/-- An answer of `STD_ERR_OK`: the entity is there, all its fans have been asked and have answered, and it has a
fault iff one of them has. -/
structure Vouches (r : Registry Regex) (c : EntityConfig) (readings : Readings) (e : Nat) (out : FaultResult ω) :
    Prop where
  present : (out.states e).present = true
  seen : c.hotswappable = true → sourcePresence c readings = some true
  asked : ∀ hdl ∈ (r.entities e).resourceList, (r.resources hdl).type = .fan →
    ∃ fault, (hdl, .ok fault) ∈ out.answers
  answered : ∀ p ∈ out.answers, ∃ fault, p.2 = .ok fault
  fault_iff : out.fault = true ↔ ∃ hdl, (hdl, .ok true) ∈ out.answers

section

variable (lib : RegexLib Regex) (r : Registry Regex) (fanStatusGet : Nat → ω → Except Errno Bool × ω)

/-- The fans of an entity that have the PPID which their references ask for, if they ask for one -/
def Registry.fittingFans (states : Nat → EntityState) (e : Nat) : List Nat :=
  (r.entities e).resourceList.filter fun hdl =>
    Registry.resourceEntityPpidMatch lib states r hdl && (r.resources hdl).type = .fan

/-! ## The loop -/

/-- The check after a fan has been asked -/
def asked (data : FaultCheck ω) (hdl : Nat) : FaultCheck ω :=
  ⟨data.fault || (fanStatusGet hdl data.world).1.toOption.getD false, (fanStatusGet hdl data.world).2,
    data.answers ++ [(hdl, (fanStatusGet hdl data.world).1)]⟩

theorem checkFaultEachResource_fan {hdl : Nat} (h : (r.resources hdl).type = .fan) (data : FaultCheck ω) :
    checkFaultEachResource r fanStatusGet hdl data = asked fanStatusGet data hdl := by
  rw [checkFaultEachResource, if_pos h, asked]
  cases fanStatusGet hdl data.world with
  | mk rc world =>
      cases rc with
      | ok fault => rfl
      | error e => simp [Except.toOption]

theorem entityForEachResource_checkFault (states : Nat → EntityState) (e : Nat) (data : FaultCheck ω) :
    r.entityForEachResource lib states (checkFaultEachResource r fanStatusGet) e data =
      (r.fittingFans lib states e).foldl (asked fanStatusGet) data := by
  rw [Registry.entityForEachResource, Registry.fittingFans, List.foldl_filter]
  congr 1
  funext data hdl
  cases hfits : Registry.resourceEntityPpidMatch lib states r hdl with
  | false => rfl
  | true =>
      by_cases hfan : (r.resources hdl).type = .fan
      · rw [checkFaultEachResource_fan r fanStatusGet hfan, hfan]
        rfl
      · rw [checkFaultEachResource, if_neg hfan, decide_eq_false hfan]
        rfl

/-- The fans are asked one after another, and a fault is one of theirs or was there before. -/
theorem foldl_asked (hdls : List Nat) (data : FaultCheck ω) :
    (hdls.foldl (asked fanStatusGet) data).answers = data.answers ++ (inTurn fanStatusGet hdls data.world).1 ∧
    ((hdls.foldl (asked fanStatusGet) data).fault = true ↔
      data.fault = true ∨ ∃ hdl, (hdl, .ok true) ∈ (inTurn fanStatusGet hdls data.world).1) := by
  induction hdls generalizing data with
  | nil => simp [inTurn]
  | cons hdl hdls ih =>
      obtain ⟨hanswers, hfault⟩ := ih (asked fanStatusGet data hdl)
      refine ⟨?_, ?_⟩
      · rw [List.foldl_cons, hanswers, asked, List.append_assoc]
        rfl
      · rw [List.foldl_cons, hfault, asked, inTurn]
        simp only [Bool.or_eq_true, List.mem_cons, Prod.mk.injEq, exists_or, or_assoc]
        refine or_congr_right (or_congr_left ?_)
        cases (fanStatusGet hdl data.world).1 with
        | ok fault => simp [Except.toOption, eq_comm]
        | error e => simp [Except.toOption]

end

/-! ## The presence -/

theorem presenceAction_present (readings : Readings) (powerGood : Bool) (s : EntityState) (presence : Bool) :
    (presenceAction readings powerGood s presence).1.present = presence := by
  obtain ⟨-, h⟩ | ⟨hpresence, -, -, h⟩ | ⟨hpresence, -, h⟩ := presenceAction_cases readings powerGood s presence
  · rw [h]
    exact entityInserted_present readings _
  · rw [h, hpresence]
    rfl
  · rw [h, hpresence]

/-- A call that starts from `false` finds an entity only if its source says so. -/
theorem entityPresenceGet_present {c : EntityConfig} {readings : Readings} {s : EntityState}
    (h : (entityPresenceGet c readings s false).presence = true) :
    (entityPresenceGet c readings s false).state.present = true ∧
      (c.hotswappable = true → sourcePresence c readings = some true) := by
  have hcases := readPresence_cases c readings false
  cases hread : readPresence c readings false with
  | error e =>
      rw [entityPresenceGet_error hread] at h
      cases h
  | ok read =>
      obtain ⟨rc, presence⟩ := read
      rw [entityPresenceGet_ok hread] at h ⊢
      cases h
      refine ⟨presenceAction_present _ _ _ _, fun hswap => ?_⟩
      rw [hread] at hcases
      cases hcases with
      | fixed hfixed => rw [hfixed] at hswap; cases hswap
      | source _ _ hs => exact hs

/-! ## The whole call -/

section

variable (lib : RegexLib Regex) (r : Registry Regex) (fanStatusGet : Nat → ω → Except Errno Bool × ω)
  (c : EntityConfig) (readings : Readings) (e : Nat) (states : Nat → EntityState) (world : ω) (fault : Bool)

/-- The entities after the presence of one has been read -/
def presenceRead : Nat → EntityState :=
  Function.update states e (entityPresenceGet c readings (states e) false).state

/-- The presence of the entity has been read, and it is there. -/
def FoundPresent : Prop :=
  (entityPresenceGet c readings (states e) false).rc = .ok ∧
    (entityPresenceGet c readings (states e) false).presence = true

theorem entityFaultStatusGet_present (h : FoundPresent c readings e states) :
    entityFaultStatusGet lib r fanStatusGet c none readings e states world fault =
      ⟨(r.fittingFans lib (presenceRead c readings e states) e).foldl (asked fanStatusGet) ⟨false, world, []⟩,
        .ok, presenceRead c readings e states⟩ := by
  obtain ⟨hrc, hpresence⟩ := h
  simp only [entityFaultStatusGet, hrc, hpresence, ne_eq, not_true_eq_false, ↓reduceIte,
    entityForEachResource_checkFault, presenceRead]

theorem entityFaultStatusGet_ok_iff :
    (entityFaultStatusGet lib r fanStatusGet c none readings e states world fault).rc = .ok ↔
      FoundPresent c readings e states := by
  refine ⟨fun h => ?_, fun h => by rw [entityFaultStatusGet_present lib r fanStatusGet c readings e states
    world fault h]⟩
  simp only [entityFaultStatusGet] at h
  split at h
  · contradiction
  · split at h
    · exact ⟨h, ‹_›⟩
    · cases h

/-- An answer of `STD_ERR_OK` means what it should iff no fan is skipped and every fan can be read. -/
theorem entityFaultStatusGet_vouches_iff :
    ((entityFaultStatusGet lib r fanStatusGet c none readings e states world fault).rc = .ok →
      Vouches r c readings e (entityFaultStatusGet lib r fanStatusGet c none readings e states world fault)) ↔
    (FoundPresent c readings e states →
      (∀ hdl ∈ (r.entities e).resourceList, (r.resources hdl).type = .fan →
        Registry.resourceEntityPpidMatch lib (presenceRead c readings e states) r hdl = true) ∧
      ∀ p ∈ (inTurn fanStatusGet (r.fittingFans lib (presenceRead c readings e states) e) world).1,
        ∃ fault, p.2 = .ok fault) := by
  rw [entityFaultStatusGet_ok_iff]
  refine forall_congr' fun hpres => ?_
  obtain ⟨hpresent, hseen⟩ := entityPresenceGet_present hpres.2
  obtain ⟨hanswers, hfault⟩ := foldl_asked fanStatusGet (r.fittingFans lib (presenceRead c readings e states) e)
    ⟨false, world, []⟩
  rw [List.nil_append] at hanswers
  rw [entityFaultStatusGet_present lib r fanStatusGet c readings e states world fault hpres]
  constructor
  · rintro ⟨-, -, hasked, hanswered, -⟩
    rw [hanswers] at hasked hanswered
    refine ⟨fun hdl hmem hfan => ?_, hanswered⟩
    obtain ⟨_, hmem⟩ := hasked hdl hmem hfan
    have hfits := mem_of_mem_inTurn fanStatusGet hmem
    simp only [Registry.fittingFans, List.mem_filter, Bool.and_eq_true] at hfits
    exact hfits.2.1
  · rintro ⟨hfit, hread⟩
    refine ⟨?_, hseen, fun hdl hmem hfan => ?_, ?_, ?_⟩
    · exact (congrArg EntityState.present (Function.update_self e _ states)).trans hpresent
    · rw [hanswers]
      have hfits : hdl ∈ r.fittingFans lib (presenceRead c readings e states) e := by
        simp only [Registry.fittingFans, List.mem_filter, Bool.and_eq_true]
        exact ⟨hmem, hfit hdl hmem hfan, decide_eq_true hfan⟩
      obtain ⟨rc, hmem⟩ := exists_mem_inTurn fanStatusGet hfits world
      obtain ⟨fault, rfl⟩ := hread _ hmem
      exact ⟨fault, hmem⟩
    · rw [hanswers]
      exact hread
    · rw [hfault, hanswers]
      simp

end

/-! ## A fan tray with one fan -/

def trayConfig : EntityConfig := ⟨4, .fanTray, .direct, [], 0, [], false⟩

def trayReadings : Readings := ⟨.ok .high, .ok .high, [], fun info => (.ok, info)⟩

/-- The resource 0 is a fan, and the list of the entity 0 has it. -/
def tray : Registry Unit where
  resources _ := ⟨['F'], .fan, ['F'], some 0, false, ()⟩
  resourceList := [0]
  entities _ := ⟨none, [0]⟩

/-- The tray has no fault if its fan cannot be read. -/
theorem not_vouches_tray :
    (entityFaultStatusGet (ω := Unit) ⟨(), fun _ => (false, ()), fun _ _ => false⟩ tray
      (fun _ w => (.error .eio, w)) trayConfig none trayReadings 0 (fun _ => .create) () true).rc = .ok ∧
    (entityFaultStatusGet (ω := Unit) ⟨(), fun _ => (false, ()), fun _ _ => false⟩ tray
      (fun _ w => (.error .eio, w)) trayConfig none trayReadings 0 (fun _ => .create) () true).fault = false ∧
    ¬ Vouches tray trayConfig trayReadings 0
      (entityFaultStatusGet ⟨(), fun _ => (false, ()), fun _ _ => false⟩ tray
        (fun _ w => (.error .eio, w)) trayConfig none trayReadings 0 (fun _ => .create) () true) := by
  refine ⟨rfl, rfl, fun h => ?_⟩
  obtain ⟨_, hanswer⟩ := h.answered (0, .error .eio) (List.mem_singleton_self _)
  cases hanswer

end OpxSdi.Entity
