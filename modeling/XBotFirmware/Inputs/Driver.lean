import XBotFirmware.Emergency.Reason
import XBotFirmware.Service.ServiceExt

/-!
Inputs and the drivers that own them (`src/drivers/input/input_driver.hpp`,
`input_driver.cpp`).

A pointer into `all_inputs_` is a position in that list, and a null pointer is
`none`.  The list of a driver is threaded through `next_for_driver_`.
-/

namespace XBotFirmware.Inputs

open XBotFirmware.Platform XBotFirmware.Service XBotFirmware.Emergency

/-- `ioline_t`. -/
abbrev IoLine := BitVec 32

/-- `Input::VIRTUAL`, the index of inputs that no driver owns. -/
def virtualIdx : BitVec 8 := 255

structure Input where
  idx : BitVec 8
  invert : Bool
  emergencyReason : Reasons
  emergencyDelayMs : BitVec 16
  /-- `gpio.line`; the union is uninitialised until the configuration sets it. -/
  gpioLine : Option IoLine
  active : Bool
  activeSince : Micros
  nextForDriver : Option Nat
  deriving DecidableEq, Repr

namespace Input

def create (idx : BitVec 8) : Input where
  idx := idx
  invert := false
  emergencyReason := 0
  emergencyDelayMs := 0
  gpioLine := none
  active := false
  activeSince := 0
  nextForDriver := none

def activeDuration (input : Input) (now : Micros) : Micros := now - input.activeSince

/-- `emergency_delay_ms * 1'000`; the product of a `uint16_t` fits an `int`. -/
def emergencyDelay (input : Input) : Micros :=
  BitVec.ofNat 32 (input.emergencyDelayMs.toNat * 1000)

theorem toNat_emergencyDelay (input : Input) :
    input.emergencyDelay.toNat = input.emergencyDelayMs.toNat * 1000 := by
  have bound := input.emergencyDelayMs.isLt
  simp only [emergencyDelay, BitVec.toNat_ofNat]
  omega

/-- The state change of a successful compare-exchange in `Input::Update`. -/
def exchange (input : Input) (newActive : Bool) (now : Micros) : Input :=
  { input with
    active := newActive
    activeSince := if newActive then now else input.activeSince }

/-- The level that `Update` compares with, after the configured inversion. -/
def target (input : Input) (newActive : Bool) : Bool :=
  if input.invert then !newActive else newActive

/-- The input is active and its delay has passed at `now`. -/
def Due (input : Input) (now : Micros) : Prop :=
  input.active = true ∧ input.emergencyDelayMs.toNat * 1000 ≤ (now - input.activeSince).toNat

instance (input : Input) (now : Micros) : Decidable (input.Due now) :=
  inferInstanceAs (Decidable (_ ∧ _))

def SameConfiguration (first second : Input) : Prop :=
  first.idx = second.idx ∧ first.invert = second.invert ∧
    first.emergencyReason = second.emergencyReason ∧
    first.emergencyDelayMs = second.emergencyDelayMs ∧
    first.gpioLine = second.gpioLine ∧ first.nextForDriver = second.nextForDriver

theorem SameConfiguration.refl (input : Input) : input.SameConfiguration input :=
  ⟨rfl, rfl, rfl, rfl, rfl, rfl⟩

theorem SameConfiguration.trans {first second third : Input}
    (left : first.SameConfiguration second) (right : second.SameConfiguration third) :
    first.SameConfiguration third :=
  ⟨left.1.trans right.1, left.2.1.trans right.2.1, left.2.2.1.trans right.2.2.1,
    left.2.2.2.1.trans right.2.2.2.1, left.2.2.2.2.1.trans right.2.2.2.2.1,
    left.2.2.2.2.2.trans right.2.2.2.2.2⟩

theorem sameConfiguration_exchange (input : Input) (newActive : Bool) (now : Micros) :
    input.SameConfiguration (input.exchange newActive now) :=
  ⟨rfl, rfl, rfl, rfl, rfl, rfl⟩

end Input

/-- The drivers that `StartServices` registers. -/
inductive DriverKind where
  | gpio
  | simulated
  deriving DecidableEq, Repr

structure InputDriver where
  kind : DriverKind
  inputsHead : Option Nat
  deriving DecidableEq, Repr

namespace InputDriver

def clearInputs (driver : InputDriver) : InputDriver := { driver with inputsHead := none }

/-- Walk to the last input of a list.  A list that visits more inputs than there
are runs in a circle, on which the source never returns. -/
def lastInput? (inputs : List Input) : Nat → Nat → Option Nat
  | 0, _ => none
  | fuel + 1, current =>
      match inputs[current]? with
      | none => none
      | some input =>
          match input.nextForDriver with
          | none => some current
          | some next => lastInput? inputs fuel next

def addInput (driver : InputDriver) (inputs : List Input) (position : Nat) :
    Option (InputDriver × List Input) :=
  match driver.inputsHead with
  | none => some ({ driver with inputsHead := some position }, inputs)
  | some head =>
      match lastInput? inputs inputs.length head with
      | none => none
      | some last =>
          some (driver, inputs.modify last fun input =>
            { input with nextForDriver := some position })

end InputDriver

end XBotFirmware.Inputs
