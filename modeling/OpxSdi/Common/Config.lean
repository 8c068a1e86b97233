import OpxSdi.Lib.CString
import OpxSdi.Lib.Returns

/-!
# Configuration nodes

A driver reads the attributes of the nodes of its configuration. It asserts that some of them are there.
-/

namespace OpxSdi

open Lib

/-- What stops a driver: an assertion that fails, the use of a NULL pointer, or an access
that leaves its object. -/
inductive Crash
  | assert
  | null
  | access (f : Fault)
  deriving DecidableEq, Repr

def assert (p : Prop) [Decidable p] : Except Crash Unit := if p then .ok () else .error .assert

theorem returns_assert_iff (p : Prop) [Decidable p] : Returns (assert p) ↔ p := by
  rw [assert]
  split
  · rename_i h
    exact iff_of_true (returns_ok ()) h
  · rename_i h
    exact iff_of_false (not_returns_error _) h

structure ConfigNode where
  name : Option (List Char)
  attrs : List (List Char × List Char)

namespace ConfigNode

/-- `std_config_attr_get`. -/
def attr (node : ConfigNode) (key : String) : Option (List Char) :=
  (node.attrs.find? (·.1 = key.toList)).map (·.2)

/-- An attribute whose absence is asserted against. -/
def required (node : ConfigNode) (key : String) : Except Crash (List Char) :=
  match node.attr key with
  | none => .error .assert
  | some text => .ok text

def Has (node : ConfigNode) (key : String) : Prop := (node.attr key).isSome

theorem returns_required_iff (node : ConfigNode) (key : String) :
    Returns (node.required key) ↔ node.Has key := by
  rw [required, Has]
  cases node.attr key with
  | none => exact iff_of_false (not_returns_error _) nofun
  | some text => exact iff_of_true (returns_ok text) rfl

theorem required_eq {node : ConfigNode} {key : String} {text : List Char} (h : node.required key = .ok text) :
    node.attr key = some text := by
  rw [required] at h
  cases hattr : node.attr key with
  | none => rw [hattr] at h; cases h
  | some text' => rw [hattr] at h; cases h; rfl

end ConfigNode

def textBytes (text : List Char) : List Byte := text.map fun c => BitVec.ofNat 8 c.toNat

/-- `strtoul(text, NULL, 0)` in a variable of `w` bits. -/
def number (w : Nat) (text : List Char) : BitVec w := BitVec.ofNat w (strtoul (textBytes text))

/-- `strtoul(text, NULL, 16)` in a variable of `w` bits. -/
def hexNumber (w : Nat) (text : List Char) : BitVec w := BitVec.ofNat w (strtoul16 (textBytes text))

/-- The instance of a node whose name starts with `kind`, asserted to be below `n`.
Other nodes are skipped. -/
def ConfigNode.instanceOf (node : ConfigNode) (kind : String) (n : Nat) : Except Crash (Option (Fin n)) :=
  match node.name with
  | none => .error .null
  | some name =>
      if kind.toList.isPrefixOf name then
        let instanceId := match node.attr "instance" with
          | none => 0
          | some text => (number 32 text).toNat
        if h : instanceId < n then .ok (some ⟨instanceId, h⟩) else .error .assert
      else .ok none

end OpxSdi
