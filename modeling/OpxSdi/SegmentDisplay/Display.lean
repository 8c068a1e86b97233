import OpxSdi.Common.Config
import OpxSdi.Common.StdError
import OpxSdi.Lib.Device
import OpxSdi.Lib.Run
import OpxSdi.Lib.Takes
import OpxSdi.Lib.WriteLog

/-!
# The segment display (`sdi_segment_display.c`)

A character is displayed by writing its pattern to a pin group, which keeps the level that is written to it. The
patterns are in a map, and a display that is turned on shows the pattern that was set last.
-/

namespace OpxSdi.SegmentDisplay

open Lib

def segmentDisplayMapSize : Nat := 256

def segmentDisplayOffPatternDefault : BitVec 32 := 0xff

def ledNumOfDigitSupported : Nat := 1

structure SegmentDisplayData where
  offPattern : BitVec 32
  lastWritten : BitVec 32
  charMap : Fin segmentDisplayMapSize → BitVec 32

/-! ## Registration -/

def mapNode (data : SegmentDisplayData) (child : ConfigNode) : Except Crash SegmentDisplayData :=
  match child.name with
  | none => .error .null
  | some name =>
      if name = "display_map".toList then do
        let input ← child.required "input"
        let output ← child.required "output"
        if h : (number 32 input).toNat < segmentDisplayMapSize then
          .ok { data with charMap := Function.update data.charMap ⟨_, h⟩ (number 32 output) }
        else
          .ok data
      else
        .ok data

def offPatternOf (node : ConfigNode) : BitVec 32 :=
  match node.attr "off_pattern" with
  | none => segmentDisplayOffPatternDefault
  | some text => number 32 text

/-- `sdi_segment_display_register` with the children of the node. What `malloc` returns is not cleared. -/
def segmentDisplayRegister (allocated : SegmentDisplayData) (node : ConfigNode) (children : List ConfigNode) :
    Except Crash SegmentDisplayData := do
  let _ ← node.required "instance"
  children.foldlM mapNode { allocated with offPattern := offPatternOf node, charMap := fun _ => offPatternOf node }

/-! ## The calls -/

/-- The display, and the level of its pin group -/
structure Panel where
  data : SegmentDisplayData
  level : BitVec 32

abbrev M := Device.M Unit Errno Panel

abbrev Display := Device Unit Errno Panel

def onBus {α : Type} (x : M α) : M α := do
  Device.lock ()
  let rc ← Device.attempt x
  Device.unlock ()
  Device.ofResult rc

def segmentDisplaySetValue (value : BitVec 32) : M Unit :=
  onBus (Device.access fun panel => ((), { panel with level := value }))

def segmentDisplayGetValue : M (BitVec 32) := onBus (Device.access fun panel => (panel.level, panel))

def privateData : M SegmentDisplayData := Device.internal fun panel => (panel.data, panel)

/-- The first character whose pattern is on the display -/
def SegmentDisplayData.parse (data : SegmentDisplayData) (readValue : BitVec 32) : Byte :=
  match (List.finRange segmentDisplayMapSize).find? fun i => data.charMap i = readValue with
  | none => 0x3f
  | some i => BitVec.ofNat 8 i

/-- What `snprintf(buf, n, "%c", c)` writes -/
def printChar (n : Nat) (c : Byte) : List Byte := if n = 0 then [] else [c].take (n - 1) ++ [0]

/-- The bytes that are written to the buffer -/
def segmentDisplayGet (bufSize : Nat) : M (List Byte) := do
  let data ← privateData
  let readValue ← segmentDisplayGetValue
  pure (printChar (min bufSize (ledNumOfDigitSupported + 1)) (data.parse readValue))

/-- `(uint_t) c`, where `c` is a `char`, which has a sign -/
def indexOf (c : Byte) : Nat := (c.signExtend 32).toNat

/-- An index that is not below the size of the map aborts. -/
def segmentDisplaySet (displayString : List Byte) : M Unit :=
  match displayString with
  | [c] => do
      let data ← privateData
      if h : indexOf c < segmentDisplayMapSize then
        segmentDisplaySetValue (data.charMap ⟨_, h⟩)
        Device.internal fun panel =>
          ((), { panel with data := { panel.data with lastWritten := data.charMap ⟨_, h⟩ } })
      else
        Device.assert False
  | _ => Device.fail .eopnotsupp

def segmentDisplayGetState : M Bool := do
  let data ← privateData
  let readValue ← segmentDisplayGetValue
  pure (readValue ≠ data.offPattern)

def segmentDisplayOn : M Unit := do
  let data ← privateData
  segmentDisplaySetValue data.lastWritten

def segmentDisplayOff : M Unit := do
  let data ← privateData
  segmentDisplaySetValue data.offPattern

inductive Call
  | set (displayString : List Byte)
  | on
  | off
  | get (bufSize : Nat)
  | getState

inductive Reply
  | done
  | bytes (bs : List Byte)
  | state (on : Bool)

def Call.exec : Call → M Reply
  | set displayString => do
      segmentDisplaySet displayString
      pure .done
  | on => do
      segmentDisplayOn
      pure .done
  | off => do
      segmentDisplayOff
      pure .done
  | get bufSize => do
      let bs ← segmentDisplayGet bufSize
      pure (.bytes bs)
  | getState => do
      let state ← segmentDisplayGetState
      pure (.state state)

/-! ## What the display is for -/

/-- A map of characters to patterns -/
structure DisplayMap where
  offPattern : BitVec 32
  pattern : Byte → Option (BitVec 32)

namespace DisplayMap

variable (m : DisplayMap)

/-- Different characters that are mapped have different patterns, and none is the off pattern. -/
structure Distinct : Prop where
  inj : ∀ c c' p, m.pattern c = some p → m.pattern c' = some p → c = c'
  on : ∀ c, m.pattern c ≠ some m.offPattern

/-- A character that is not mapped is displayed as nothing. -/
def shows (c : Byte) : BitVec 32 := (m.pattern c).getD m.offPattern

end DisplayMap

def mapping (child : ConfigNode) : Option (BitVec 32 × BitVec 32) :=
  if child.name = some "display_map".toList then do
    let input ← child.attr "input"
    let output ← child.attr "output"
    some (number 32 input, number 32 output)
  else none

/-- The last mapping of a character counts. -/
def configured (node : ConfigNode) (children : List ConfigNode) : DisplayMap where
  offPattern := offPatternOf node
  pattern c := lastWritten (c.setWidth 32) (children.filterMap mapping)

inductive Shown
  | off
  | char (c : Byte)

/-- What was set last, and what the last successful write was to show -/
structure History where
  lastSet : Option Byte
  shown : Option Shown

def History.start : History := ⟨none, none⟩

/-- After a successful call -/
def History.after (h : History) : Call → History
  | .set [c] => ⟨some c, some (.char c)⟩
  | .on => { h with shown := some ((h.lastSet.map .char).getD .off) }
  | .off => { h with shown := some .off }
  | _ => h

def step (s : Display × History) (call : Call) : Display × History :=
  match call.exec.out s.1 with
  | (.ok _, d) => (d, s.2.after call)
  | (.error _, d) => (d, s.2)

/-- The call ends without leaving the map, and its result is what the calls before it ask for. -/
def Right (m : DisplayMap) (s : Display × History) (call : Call) : Prop :=
  ∃ r d, call.exec.out s.1 = (Device.outcome r, d) ∧
    match call with
    | .get bufSize => ∀ bs c, r = .ok (.bytes bs) → s.2.shown = some (.char c) → (m.pattern c).isSome →
        2 ≤ bufSize → bs = [c, 0]
    | .getState => ∀ on, r = .ok (.state on) → (s.2.shown = some .off → on = false) ∧
        ∀ c, s.2.shown = some (.char c) → (m.pattern c).isSome → on = true
    | .on => r = .ok .done → d.hw.level = (s.2.lastSet.map m.shows).getD m.offPattern
    | _ => True

/-- A string of one character is of ASCII. The display is turned on after something has been set, or the memory
happens to hold the off pattern, or the bus fails. -/
def Within (s : Display × History) : Call → Prop
  | .set displayString => ∀ c, displayString = [c] → c.toNat < 128
  | .on => s.2.lastSet = none → s.1.Clear 2 → s.1.hw.data.lastWritten = s.1.hw.data.offPattern
  | _ => True

end OpxSdi.SegmentDisplay
