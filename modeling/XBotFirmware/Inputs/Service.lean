import XBotFirmware.Inputs.Driver

/-!
The input service at run time (`src/services/input_service/input_service.cpp`,
`Input::Update` in `src/drivers/input/input_driver.cpp`).

Every call of `getTimeMicros` inside an operation is an element of the list of
readings passed to it, so an operation that needs more time samples than it is
given has no result.
-/

namespace XBotFirmware.Inputs

open XBotFirmware.Platform XBotFirmware.Service XBotFirmware.Emergency

inductive InputEventType where
  | active
  | inactive
  | short
  | long
  deriving DecidableEq, Repr

/-- What the service hands to the outside, in order. -/
inductive InputOutput where
  | inputEvent (idx : BitVec 8) (type : InputEventType)
  | activeInputs (mask : BitVec 64)
  /-- `chEvtBroadcastFlags(&mower_events, MowerEvents::INPUTS_CHANGED)`. -/
  | inputsChanged
  deriving DecidableEq, Repr

structure InputService where
  /-- `drivers_`, a map from the configuration key to the driver. -/
  drivers : List (String × InputDriver)
  allInputs : List Input
  numActiveLift : BitVec 8
  liftMultipleInput : Option Nat
  outbox : List InputOutput
  deriving DecidableEq, Repr

/-- `1 << idx`, an `int` that is widened to the mask. -/
def idxBit (idx : BitVec 8) : BitVec 64 := ((1 : BitVec 32) <<< idx.toNat).signExtend 64

namespace InputService

def initial (drivers : List (String × InputDriver)) : InputService where
  drivers := drivers
  allInputs := []
  numActiveLift := 0
  liftMultipleInput := none
  outbox := []

def send (service : InputService) (outputs : List InputOutput) : InputService :=
  { service with outbox := service.outbox ++ outputs }

def setInput (service : InputService) (position : Nat) (input : Input) : InputService :=
  { service with allInputs := service.allInputs.set position input }

/-- The events that `OnInputChanged` sends for one change. -/
def changeEvents (idx : BitVec 8) (active : Bool) (duration : Micros) : List InputOutput :=
  if active then
    [.inputEvent idx .active]
  else
    [.inputEvent idx .inactive, .inputEvent idx (if 500000 ≤ duration then .long else .short)]

/-- The lift counter of `OnInputChanged` and the virtual input it drives. -/
def countLift (update : InputService → Nat → Bool → Option (Bool × InputService))
    (service : InputService) (active : Bool) : Option InputService :=
  let numActiveLift :=
    if active then service.numActiveLift + 1 else service.numActiveLift - 1
  match service.liftMultipleInput with
  | none => none
  | some lift =>
      (update { service with numActiveLift := numActiveLift } lift
        (decide (2 ≤ numActiveLift))).map Prod.snd

/-- `InputService::OnInputChanged`; `update` is the nested `Input::Update`. -/
def onInputChanged (update : InputService → Nat → Bool → Option (Bool × InputService))
    (service : InputService) (input : Input) (active : Bool) (duration : Micros) :
    Option InputService :=
  if input.idx = virtualIdx then
    some service
  else if input.emergencyReason &&& EmergencyReason.lift.mask ≠ 0 then
    (countLift update service active).map fun counted =>
      counted.send (changeEvents input.idx active duration)
  else
    some (service.send (changeEvents input.idx active duration))

/-- `Input::Update` on the input at a position. -/
def update : List Micros → InputService → Nat → Bool → Option (Bool × InputService)
  | readings, service, position, newActive =>
      match service.allInputs[position]? with
      | none => none
      | some input =>
          let newActive := input.target newActive
          if input.active = newActive then
            some (false, service)
          else
            match readings with
            | [] => none
            | now :: later =>
                let changed := input.exchange newActive now
                (onInputChanged (update later) (service.setInput position changed) changed
                  newActive (changed.activeDuration now)).map fun notified =>
                    (true, notified.send [.inputsChanged])

/-- One iteration of the loop of `GetEmergencyReasons`. -/
def emergencyStep (now : Micros) (collected : Reasons × Micros) (input : Input) :
    Reasons × Micros :=
  if input.emergencyReason = 0 ∨ input.active = false then
    collected
  else
    let reached := timeoutReached (input.activeDuration now) input.emergencyDelay collected.2
    (if reached.1 then collected.1 ||| input.emergencyReason else collected.1, reached.2)

/-- `GetEmergencyReasons`: the reasons of all due inputs and the block time. -/
def getEmergencyReasons (service : InputService) (now : Micros) : Reasons × Micros :=
  service.allInputs.foldl (emergencyStep now) (0, uint32Max)

/-- The mask that `SendStatus` publishes. -/
def activeInputsMask (service : InputService) : BitVec 64 :=
  service.allInputs.foldl (fun mask input =>
    if input.active = true ∧ input.idx ≠ virtualIdx then mask ||| idxBit input.idx else mask) 0

def sendStatus (service : InputService) : InputService :=
  service.send [.activeInputs service.activeInputsMask]

end InputService

end XBotFirmware.Inputs
