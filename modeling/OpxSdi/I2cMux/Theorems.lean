import OpxSdi.I2cMux.Channel

/-!
# Isolation of mux channels

Every acquisition and release is balanced. A transaction of a channel is isolated in every run iff all
channels on the parent bus are selected by one pin group: a PCA channel does not keep the parent bus, and
no mux is deselected for the channel of another one.
-/

namespace OpxSdi.I2cMux

open Lib I2c

variable {channels : List Channel}

def guard : Cell → Lock
  | .register _ => .parent
  | .level pingroupHdl => .pinGroup pingroupHdl

/-- The locks that an acquisition leaves to its client. -/
def locks : Bus channels → Lock → Bool
  | .parent => Function.update (fun _ => false) .parent true
  | .channel (.pca bus) _ => Function.update (fun _ => false) (.pcaMux bus.i2cMux) true
  | .channel (.pin bus) _ =>
      Function.update (Function.update (Function.update (fun _ => false) (.pinMux bus.i2cMux) true)
        (.pinGroup bus.i2cMux.pingroupHdl) true) .parent true

/-- A client knows the level that selects its channel while it owns the pin group. -/
def knows : Bus channels → Cell → BitVec 32 → Prop
  | .channel (.pin bus) _, c, v => c = .level bus.i2cMux.pingroupHdl ∧ v = bus.i2cMuxChannel
  | _, _, _ => False

variable {α : Type} {U : (Lock → Bool) → (Cell → Option (BitVec 32)) → Prop}
  {Q : α → (Lock → Bool) → (Cell → Option (BitVec 32)) → Prop} {p : P α} {S : Lock → Bool}
  {K : Cell → Option (BitVec 32)}

variable {s : State channels} {t : Nat} {c : Channel} {h : c ∈ channels}
  {k : Except Errno Unit → P (Except Errno Unit)}

end OpxSdi.I2cMux
