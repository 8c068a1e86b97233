import OpxSdi.Gpio.PinGroup
import OpxSdi.Gpio.Theorems

/-! # Which pins have their default level after the configuration -/

namespace OpxSdi.Gpio

open Lib Device

/-! ## Pins that are modified -/

@[simp] theorem SysfsGpio.writeActiveLow_writeActiveLow (v : Bool) (pin : SysfsGpio) :
    (pin.writeActiveLow v).writeActiveLow v = pin.writeActiveLow v := rfl

@[simp] theorem SysfsGpio.writeDirection_writeDirection (direction : PinBusDirection) (pin : SysfsGpio) :
    (pin.writeDirection direction).writeDirection direction = pin.writeDirection direction := rfl

namespace SysfsGpios

def modifyEach (f : SysfsGpio → SysfsGpio) (gpios : List Nat) (pins : SysfsGpios) : SysfsGpios :=
  gpios.foldl (fun pins gpio => pins.modify f gpio) pins

/-- A modification that may be made again without effect is made to the pins of a list. -/
theorem modifyEach_of_mem {f : SysfsGpio → SysfsGpio} (hf : ∀ pin, f (f pin) = f pin) {gpios : List Nat}
    (pins : SysfsGpios) {gpio : Nat} (h : gpio ∈ gpios) : modifyEach f gpios pins gpio = f (pins gpio) := by
  have hall : ∀ pins, modifyEach f gpios pins gpio = if gpio ∈ gpios then f (pins gpio) else pins gpio := by
    clear h
    induction gpios with
    | nil => exact fun _ => rfl
    | cons g gpios ih =>
        intro pins
        refine (ih (pins.modify f g)).trans ?_
        rw [modify]
        by_cases h : gpio = g
        · subst h
          simp [hf]
        · simp [h]
  rw [hall, if_pos h]

end SysfsGpios

theorem serves_writeEach {write : Nat → SysfsM Unit} {f : SysfsGpio → SysfsGpio}
    (h : ∀ gpio, write gpio = Device.access fun pins => ((), pins.modify f gpio)) (gpios : List Nat) :
    Serves (writeEach write gpios) gpios.length
      fun pins => ((), pins.modifyEach f gpios) := by
  induction gpios with
  | nil => exact .pure ()
  | cons gpio gpios ih =>
      rw [writeEach, h]
      exact ((Serves.access _).bind fun _ => ih).of_eq (Nat.add_comm ..)

/-- Two flags leave a level iff they agree, and turn it over iff they do not. -/
theorem xor_xor_eq_iff (v a b w : Bool) : (v ^^ a ^^ b) = w ↔ (a = b ↔ v = w) := by
  cases v <;> cases a <;> cases b <;> cases w <;> decide

/-! ## A pin -/

namespace GpioPin

variable {pin : GpioPin}

def configured (pin : GpioPin) (pins : SysfsGpios) : SysfsGpios :=
  let pins := pins.modify (.writeDirection pin.defaultDirection) pin.gpioNum
  let pins := pins.writeValues (Function.update pins.values pin.gpioNum pin.defaultLevel)
  pins.modify (.writeActiveLow pin.defaultPolarity.activeLow) pin.gpioNum

theorem serves_configure (hout : pin.defaultDirection = .output) :
    Serves (gpioDefaultConfigurationSet pin) 3 fun pins => ((), pin.configured pins) := by
  rw [gpioDefaultConfigurationSet, if_pos hout]
  have hlevel : Serves (sysfsGpioValueWrite pin.gpioNum pin.defaultLevel) 1
      fun pins => ((), Function.update pins pin.gpioNum pin.defaultLevel) := .access _
  exact (Serves.access _).bind fun _ => (hlevel.zoom _ _).bind fun _ => Serves.access _

theorem serves_levelRead (pin : GpioPin) :
    Serves (gpioLevelRead pin) 1 fun pins => (pins.values pin.gpioNum, pins.writeValues pins.values) := by
  have hread : Serves (sysfsGpioValueRead pin.gpioNum) 1 fun pins => (pins pin.gpioNum, pins) := .access _
  exact hread.zoom _ _

/-- The level goes to the raw level through the flag before the configuration, and comes back through the
flag after it. -/
theorem value_configured (pin : GpioPin) (pins : SysfsGpios) : (pin.configured pins).values pin.gpioNum =
    (pin.defaultLevel ^^ (pins pin.gpioNum).activeLow ^^ pin.defaultPolarity.activeLow) := by
  simp only [configured, SysfsGpios.values, SysfsGpios.modify, SysfsGpios.writeValues, Function.update_self,
    SysfsGpio.value, SysfsGpio.writeActiveLow, SysfsGpio.writeValue, SysfsGpio.writeDirection]

theorem configures_iff (hout : pin.defaultDirection = .output) (pins : SysfsGpios) :
    pin.Configures pins ↔ (pins pin.gpioNum).activeLow = pin.defaultPolarity.activeLow := by
  have h := (serves_configure hout).then_iff pin.serves_levelRead pins fun level => level = pin.defaultLevel
  refine h.trans ?_
  rw [value_configured]
  exact (xor_xor_eq_iff ..).trans (iff_true_right rfl)

end GpioPin

/-! ## A pin group -/

namespace GpioGroupBus

variable {bus : GpioGroupBus}

def configured (bus : GpioGroupBus) (pins : SysfsGpios) : SysfsGpios :=
  let gpios := bus.group.gpioGroup
  let pins := pins.modifyEach (.writeDirection bus.defaultDirection) gpios
  let pins := pins.writeValues (drive bus.defaultLevel gpios pins.values)
  pins.modifyEach (.writeActiveLow bus.defaultPolarity.activeLow) gpios

theorem serves_configure (hout : bus.defaultDirection = .output)
    (hlevel : bus.defaultLevel.toNat < 2 ^ bus.group.gpioCount) :
    Serves (setGpioGroupDefaultConfiguration bus) (3 * bus.group.gpioCount)
      fun pins => ((), bus.configured pins) := by
  rw [setGpioGroupDefaultConfiguration, if_pos hout]
  have hdirection : Serves (gpioGroupDirectionSet bus.group bus.defaultDirection) _ _ :=
    serves_writeEach (fun _ => rfl) bus.group.gpioGroup
  have hpolarity : Serves (gpioGroupPolaritySet bus.group bus.defaultPolarity) _ _ :=
    serves_writeEach (fun _ => rfl) bus.group.gpioGroup
  have hwrite := (GpioGroup.serves_write hlevel).zoom SysfsGpios.values SysfsGpios.writeValues
  refine (hdirection.bind fun _ => hwrite.bind fun _ => hpolarity).of_eq ?_
  rw [GpioGroup.gpioCount]
  omega

theorem value_configured (pins : SysfsGpios) {i : Nat} (hi : i < bus.group.gpioGroup.length) :
    (bus.configured pins).values bus.group.gpioGroup[i] = (level bus.defaultLevel (bus.group.gpioCount - i) ^^
      (pins bus.group.gpioGroup[i]).activeLow ^^ bus.defaultPolarity.activeLow) := by
  have hmem : bus.group.gpioGroup[i] ∈ bus.group.gpioGroup := List.getElem_mem hi
  rw [configured, SysfsGpios.values,
    SysfsGpios.modifyEach_of_mem (SysfsGpio.writeActiveLow_writeActiveLow _) _ hmem]
  simp only [SysfsGpio.value, SysfsGpio.writeActiveLow, SysfsGpios.writeValues, SysfsGpio.writeValue]
  rw [drive_getElem _ bus.group.nodup _ hi,
    SysfsGpios.modifyEach_of_mem (SysfsGpio.writeDirection_writeDirection _) _ hmem]
  rfl

theorem serves_levelRead (bus : GpioGroupBus) :
    Serves (onValueFiles (gpioGroupLevelRead bus.group)) bus.group.gpioCount
      fun pins => (gather pins.values bus.group.gpioGroup, pins.writeValues pins.values) :=
  bus.group.serves_read.zoom _ _

theorem configures_iff (hout : bus.defaultDirection = .output)
    (hlevel : bus.defaultLevel.toNat < 2 ^ bus.group.gpioCount) (pins : SysfsGpios) :
    bus.Configures pins ↔ ∀ i (_ : i < bus.group.gpioGroup.length), bus.group.gpioCount - 1 - i < 32 →
      ((pins bus.group.gpioGroup[i]).activeLow = bus.defaultPolarity.activeLow ↔
        level bus.defaultLevel (bus.group.gpioCount - i) =
          bus.defaultLevel.getLsbD (bus.group.gpioCount - 1 - i)) := by
  have h := (serves_configure hout hlevel).then_iff bus.serves_levelRead pins fun value => value = bus.defaultLevel
  refine h.trans ((GpioGroup.gather_eq_iff_low hlevel _).trans ?_)
  refine forall_congr' fun i => forall_congr' fun hi => imp_congr_right fun _ => ?_
  rw [value_configured pins hi]
  exact xor_xor_eq_iff ..

end GpioGroupBus

/-- The configuration of a pin gives its default level iff the pin had its default polarity before. That of a
group does iff each pin whose polarity was not the default one is driven from its mask to the level that it
should not have, and each other pin to the level that it should have. -/
theorem defaultConfiguration_iff (pin : GpioPin) (bus : GpioGroupBus) (pins : SysfsGpios) :
    (pin.defaultDirection = .output →
      (pin.Configures pins ↔ (pins pin.gpioNum).activeLow = pin.defaultPolarity.activeLow)) ∧
    (bus.defaultDirection = .output → bus.defaultLevel.toNat < 2 ^ bus.group.gpioCount →
      (bus.Configures pins ↔ ∀ i (_ : i < bus.group.gpioGroup.length), bus.group.gpioCount - 1 - i < 32 →
        ((pins bus.group.gpioGroup[i]).activeLow = bus.defaultPolarity.activeLow ↔
          level bus.defaultLevel (bus.group.gpioCount - i) =
            bus.defaultLevel.getLsbD (bus.group.gpioCount - 1 - i)))) :=
  ⟨fun hout => GpioPin.configures_iff hout pins, fun hout hlevel => GpioGroupBus.configures_iff hout hlevel pins⟩

def ledPin : GpioPin := ⟨5, .output, true, .inverted⟩

def ledPins : GpioGroupBus := ⟨⟨[5, 6], by decide, by decide⟩, .output, 3, .inverted⟩

def resetGpios : SysfsGpios := fun _ => ⟨false, false, .input⟩

theorem defaultConfiguration_leds :
    (ledPin.Configures resetGpios ↔ (resetGpios 5).activeLow = true) ∧
    (ledPins.Configures resetGpios ↔ ∀ i (_ : i < ledPins.group.gpioGroup.length),
      ledPins.group.gpioCount - 1 - i < 32 →
        ((resetGpios ledPins.group.gpioGroup[i]).activeLow = true ↔
          level 3 (ledPins.group.gpioCount - i) = (3 : BitVec 32).getLsbD (ledPins.group.gpioCount - 1 - i))) :=
  ⟨(defaultConfiguration_iff ledPin ledPins resetGpios).1 rfl,
    (defaultConfiguration_iff ledPin ledPins resetGpios).2 rfl (by decide)⟩

/-- After a reset, a pin that is to be high and inverted reads low. -/
theorem not_configures_ledPin : ¬ledPin.Configures resetGpios := by
  rw [GpioPin.configures_iff rfl]
  decide

end OpxSdi.Gpio
