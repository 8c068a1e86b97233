import OpxSdi.Common.StdError
import OpxSdi.Lib.Checked
import OpxSdi.Lib.Device
import OpxSdi.Lib.Serves

/-!
# GPIO pin groups (`sdi_gpio.c`)

A pin group is a list of GPIO numbers. The sysfs value file of a GPIO holds one bit, and a read returns
the last bit written. The reader and the writer make their masks in different ways.
-/

namespace OpxSdi.Gpio

open Lib

/-- `sdi_gpio_group_t`: the pins are different, and at least `MIN_NUMBER_OF_PINS_IN_GROUP`. -/
structure GpioGroup where
  gpioGroup : List Nat
  nodup : gpioGroup.Nodup
  two_le : 2 ≤ gpioGroup.length

def GpioGroup.gpioCount (g : GpioGroup) : Nat := g.gpioGroup.length

/-- The value files, by GPIO number. -/
abbrev Pins := Nat → Bool

abbrev M := Device.M Unit Errno Pins

def sysfsGpioValueRead (gpio : Nat) : M Bool := Device.access fun pins => (pins gpio, pins)

def sysfsGpioValueWrite (gpio : Nat) (level : Bool) : M Unit :=
  Device.access fun pins => ((), Function.update pins gpio level)

/-- The loop of `sdi_gpio_group_level_read` from index `gpioIndex` on. -/
def readLoop (gpioCnt : Nat) : (gpioIndex : Nat) → (gpios : List Nat) → (value : BitVec 32) → M (BitVec 32)
  | _, [], value => pure value
  | gpioIndex, gpio :: gpios, value => do
      let gpioLevel ← sysfsGpioValueRead gpio
      let value := if gpioLevel then value ||| (1 : BitVec 32) <<< (gpioCnt - gpioIndex - 1) else value
      readLoop gpioCnt (gpioIndex + 1) gpios value

def gpioGroupLevelRead (g : GpioGroup) : M (BitVec 32) := readLoop g.gpioCount 0 g.gpioGroup 0

/-- The loop of `sdi_gpio_group_level_write` from index `gpioIndex` on. -/
def writeLoop (gpioCnt : Nat) (value : BitVec 32) : (gpioIndex : Nat) → (gpios : List Nat) → M Unit
  | _, [] => pure ()
  | gpioIndex, gpio :: gpios => do
      -- The mask is the number of pins that are left, not the bit of this pin.
      let gpioLevel : Bool := value &&& BitVec.ofNat 32 (gpioCnt - gpioIndex) ≠ 0
      sysfsGpioValueWrite gpio gpioLevel
      writeLoop gpioCnt value (gpioIndex + 1) gpios

def gpioGroupLevelWrite (g : GpioGroup) (value : BitVec 32) : M Unit := do
  Device.assert (value.toNat < 2 ^ g.gpioCount)
  writeLoop g.gpioCount value 0 g.gpioGroup

/-! ## The default configuration of GPIO pins (`sdi_gpio.c`)

The kernel keeps the raw level of a GPIO and its active-low flag. Its value file shows one through the
other. The driver of a pin and that of a pin group write the same three attributes.
-/

/-- `sdi_pin_bus_direction_t` -/
inductive PinBusDirection
  | input | output
  deriving DecidableEq, Repr

/-- `sdi_pin_bus_polarity_t` -/
inductive PinBusPolarity
  | normal | inverted
  deriving DecidableEq, Repr

/-- The value that the polarity is as a `bool`. -/
def PinBusPolarity.activeLow : PinBusPolarity → Bool
  | normal => false
  | inverted => true

structure SysfsGpio where
  raw : Bool
  activeLow : Bool
  direction : PinBusDirection
  deriving DecidableEq, Repr

namespace SysfsGpio

/-- What a read of the value file gives. -/
def value (pin : SysfsGpio) : Bool := pin.raw ^^ pin.activeLow

def writeValue (v : Bool) (pin : SysfsGpio) : SysfsGpio := { pin with raw := v ^^ pin.activeLow }

def writeActiveLow (v : Bool) (pin : SysfsGpio) : SysfsGpio := { pin with activeLow := v }

def writeDirection (direction : PinBusDirection) (pin : SysfsGpio) : SysfsGpio := { pin with direction }

end SysfsGpio

/-- The pins of the kernel, by GPIO number. -/
abbrev SysfsGpios := Nat → SysfsGpio

namespace SysfsGpios

def values (pins : SysfsGpios) : Pins := fun gpio => (pins gpio).value

def writeValues (levels : Pins) (pins : SysfsGpios) : SysfsGpios := fun gpio => (pins gpio).writeValue (levels gpio)

def modify (f : SysfsGpio → SysfsGpio) (gpio : Nat) (pins : SysfsGpios) : SysfsGpios :=
  Function.update pins gpio (f (pins gpio))

end SysfsGpios

abbrev SysfsM := Device.M Unit Errno SysfsGpios

/-- What a computation on the value files does to the pins. -/
def onValueFiles {α : Type} : M α → SysfsM α := Device.zoom SysfsGpios.values SysfsGpios.writeValues

def sysfsGpioActiveLowWrite (polarity : PinBusPolarity) (gpio : Nat) : SysfsM Unit :=
  Device.access fun pins => ((), pins.modify (.writeActiveLow polarity.activeLow) gpio)

def sysfsGpioDirectionWrite (direction : PinBusDirection) (gpio : Nat) : SysfsM Unit :=
  Device.access fun pins => ((), pins.modify (.writeDirection direction) gpio)

/-! ### A pin -/

/-- The members of `sdi_gpio_pin_t` that the configuration uses. -/
structure GpioPin where
  gpioNum : Nat
  defaultDirection : PinBusDirection
  defaultLevel : Bool
  defaultPolarity : PinBusPolarity
  deriving DecidableEq, Repr

def gpioLevelRead (pin : GpioPin) : SysfsM Bool := onValueFiles (sysfsGpioValueRead pin.gpioNum)

def gpioDefaultConfigurationSet (pin : GpioPin) : SysfsM Unit := do
  sysfsGpioDirectionWrite pin.defaultDirection pin.gpioNum
  if pin.defaultDirection = .output then
    onValueFiles (sysfsGpioValueWrite pin.gpioNum pin.defaultLevel)
  -- The level has been written through the flag that the pin had before.
  sysfsGpioActiveLowWrite pin.defaultPolarity pin.gpioNum

/-! ### A pin group -/

/-- `sdi_gpio_group_t` with its default configuration. -/
structure GpioGroupBus where
  group : GpioGroup
  defaultDirection : PinBusDirection
  defaultLevel : BitVec 32
  defaultPolarity : PinBusPolarity

/-- Write an attribute of each pin. -/
def writeEach (write : Nat → SysfsM Unit) : List Nat → SysfsM Unit
  | [] => pure ()
  | gpio :: gpios => do
      write gpio
      writeEach write gpios

def gpioGroupDirectionSet (g : GpioGroup) (direction : PinBusDirection) : SysfsM Unit :=
  writeEach (sysfsGpioDirectionWrite direction) g.gpioGroup

def gpioGroupPolaritySet (g : GpioGroup) (polarity : PinBusPolarity) : SysfsM Unit :=
  writeEach (sysfsGpioActiveLowWrite polarity) g.gpioGroup

def setGpioGroupDefaultConfiguration (bus : GpioGroupBus) : SysfsM Unit := do
  gpioGroupDirectionSet bus.group bus.defaultDirection
  if bus.defaultDirection = .output then
    onValueFiles (gpioGroupLevelWrite bus.group bus.defaultLevel)
  gpioGroupPolaritySet bus.group bus.defaultPolarity

/-! ### What the configuration is for -/

/-- A level that is read after the configuration is the default level, whatever fails. -/
def GpioPin.Configures (pin : GpioPin) (pins : SysfsGpios) : Prop :=
  ∀ (d d' d'' : Device Unit Errno SysfsGpios) (level : Bool), d.hw = pins →
    Device.Ok (gpioDefaultConfigurationSet pin) d () d' → Device.Ok (gpioLevelRead pin) d' level d'' →
      level = pin.defaultLevel

def GpioGroupBus.Configures (bus : GpioGroupBus) (pins : SysfsGpios) : Prop :=
  ∀ (d d' d'' : Device Unit Errno SysfsGpios) (value : BitVec 32), d.hw = pins →
    Device.Ok (setGpioGroupDefaultConfiguration bus) d () d' →
      Device.Ok (onValueFiles (gpioGroupLevelRead bus.group)) d' value d'' → value = bus.defaultLevel

end OpxSdi.Gpio
