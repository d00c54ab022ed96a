import Mathlib.Logic.Function.Basic
import XBotFirmware.Library.Mailbox
import XBotFirmware.Inputs.DriverLists

set_option autoImplicit false

/-!
The GPIO lines, their interrupts and the thread of the input service
(`src/drivers/input/gpio_input_driver.cpp`, `ServiceExt::SendEvent`,
`InputService::OnLoop`, `portable/xbot/queue.cpp`).

A line that changes owes an interrupt, which may come late, once for several
changes, or for no change at all.  The loop of the framework calls `OnLoop`
between any two `queuePopItem`.  A tick of the GPIO driver reads and updates one
input after the other, and everything else may happen in between.
-/

namespace XBotFirmware.Inputs

open XBotFirmware.Library XBotFirmware.Platform XBotFirmware.Json

inductive QueueItem where
  | null
  | packet
  deriving DecidableEq, Repr

/-- Where the thread of the input service is.  `looped` says that `OnLoop` has been
called since the last `queuePopItem`, and `cleared` that the tick is the one of
`OnLoop`, after `chEvtGetAndClearEvents`.  The loop of a tick is at an input, or at the
end, or between `palReadLine` and `Update`. -/
inductive ThreadPhase where
  | popping
  | awake (looped : Bool)
  | ticking (looped cleared : Bool) (current : Option Nat)
  | updating (looped cleared : Bool) (position : Nat) (level : Bool)
  deriving DecidableEq, Repr

/-- The service and its lines, with `GPIO_TRIGGERED` of its thread.  `watching` says that
`OnStart` has been called for the present inputs and `OnStop` has not since, and `ticked`
that a tick has been completed since then. -/
structure GpioSystem (capacity : Nat) where
  input : InputService
  levels : IoLine → Bool
  owed : IoLine → Bool
  triggered : Bool
  mailbox : Mailbox QueueItem capacity
  phase : ThreadPhase
  watching : Bool
  ticked : Bool

inductive GpioOp where
  | edge (line : IoLine)
  | interrupt (line : IoLine)
  | pushPacket
  | popItem
  | popTimeout
  | enterPop
  | onLoop
  | scheduledTick
  | readLine
  | update (readings : List Micros)
  | endTick
  | onStart
  | onStop
  | configure (source : List Char)

/-- `drivers_.find("gpio")->second`, and the head of its inputs. -/
def InputService.gpioHead (service : InputService) : Option (Option Nat) :=
  (service.drivers.find? fun entry => entry.1 = "gpio").map fun entry => entry.2.inputsHead

namespace GpioSystem

variable {capacity : Nat} {ParserState : Type} (externals : Externals)
  (parser : StreamParser ParserState)

def boot (capacity : Nat) (drivers : List (String × InputDriver)) (levels : IoLine → Bool) :
    GpioSystem capacity where
  input := .initial drivers
  levels := levels
  owed := fun _ => false
  triggered := false
  mailbox := .empty QueueItem capacity
  phase := .awake true
  watching := false
  ticked := false

/-- `SendEvent(Events::GPIO_TRIGGERED)`, under the system lock. -/
def sendEvent (system : GpioSystem capacity) : GpioSystem capacity :=
  { system with
    triggered := true
    mailbox := system.mailbox.post .null }

/-- The start of `GpioInputDriver::tick`. -/
def beginTick (system : GpioSystem capacity) (looped cleared : Bool) :
    Option (GpioSystem capacity) :=
  match system.input.gpioHead with
  | none => none
  | some head => some { system with phase := .ticking looped cleared head }

def onLoop (system : GpioSystem capacity) : Option (GpioSystem capacity) :=
  if system.triggered then
    { system with triggered := false }.beginTick true true
  else
    some { system with phase := .awake true }

/-- `palReadLine`, of the line that the configuration has set. -/
def readLine (system : GpioSystem capacity) (looped cleared : Bool) (position : Nat) :
    Option (GpioSystem capacity) :=
  match system.input.allInputs[position]?.bind Input.gpioLine with
  | none => none
  | some line =>
      some { system with phase := .updating looped cleared position (system.levels line) }

/-- `Input::Update`, and on to the next input. -/
def updateInput (system : GpioSystem capacity) (readings : List Micros) (looped cleared : Bool)
    (position : Nat) (level : Bool) : Option (GpioSystem capacity) :=
  match system.input.update readings position level with
  | none => none
  | some (_, service) =>
      some { system with
        input := service
        phase := .ticking looped cleared (link service.allInputs position) }

def threadStep (system : GpioSystem capacity) :
    ThreadPhase → GpioOp → Option (GpioSystem capacity)
  | .popping, .popItem =>
      match system.mailbox.fetch? with
      | none => none
      | some (_, mailbox) => some { system with mailbox := mailbox, phase := .awake false }
  | .popping, .popTimeout =>
      if system.mailbox.items = [] then some { system with phase := .awake false } else none
  | .awake true, .enterPop => some { system with phase := .popping }
  | .awake _, .onLoop => system.onLoop
  | .awake looped, .scheduledTick => system.beginTick looped false
  | .awake _, .onStart => some { system with watching := true, ticked := false }
  | .awake _, .onStop => some { system with watching := false }
  | .awake _, .configure source =>
      match system.input.step externals parser (.configure source) with
      | none => none
      | some service => some { system with input := service, watching := false }
  | .ticking looped cleared (some position), .readLine => system.readLine looped cleared position
  | .ticking looped _ none, .endTick => some { system with phase := .awake looped, ticked := true }
  | .updating looped cleared position level, .update readings =>
      system.updateInput readings looped cleared position level
  | _, _ => none

def step (system : GpioSystem capacity) : GpioOp → Option (GpioSystem capacity)
  | .edge line =>
      some { system with
        levels := Function.update system.levels line (!system.levels line)
        owed := if system.watching then Function.update system.owed line true else system.owed }
  | .interrupt line =>
      some { system with owed := Function.update system.owed line false }.sendEvent
  | .pushPacket => some { system with mailbox := system.mailbox.post .packet }
  | op => system.threadStep externals parser system.phase op

end GpioSystem

end XBotFirmware.Inputs
