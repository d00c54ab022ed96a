import XBotFirmware.DiffDrive.Motor

set_option autoImplicit false

/-!
The differential drive (`src/services/diff_drive_service/diff_drive_service.cpp`).

Time samples, the answers of `GetEmergency` and the register values are
arguments of the operations that read them.  `RequestStatus` calls back into the
service while `tick` holds `state_mutex_`, which is recursive.
-/

namespace XBotFirmware.DiffDrive

open XBotFirmware.Platform

/-- What the service hands to the outside, in order. -/
inductive DriveOutput where
  | leftEscTemperature (value : ℚ)
  | leftEscCurrent (value : ℚ)
  | leftEscStatus (value : BitVec 8)
  | rightEscTemperature (value : ℚ)
  | rightEscCurrent (value : ℚ)
  | rightEscStatus (value : BitVec 8)
  /-- The first and the last of the six elements; the others are zero. -/
  | actualTwist (vx vr : ℚ)
  /-- A twist whose values C++ leaves open, as an `int32_t` overflowed. -/
  | overflowedTwist
  | wheelTicks (left right : BitVec 32)
  deriving DecidableEq, Repr

structure Registers where
  wheelTicksPerMeter : ℚ
  wheelDistance : ℚ

structure DiffDriveService where
  leftEscDriver : PwmMotorDriver
  rightEscDriver : PwmMotorDriver
  leftEscState : EscState
  rightEscState : EscState
  leftEscStateValid : Bool
  rightEscStateValid : Bool
  lastValidEscStateMicros : Micros
  lastDutyReceivedMicros : Micros
  lastTicksLeft : BitVec 32
  lastTicksRight : BitVec 32
  lastTicksValid : Bool
  lastTicksMicros : Micros
  speedL : ℚ
  speedR : ℚ
  dutySent : Bool
  outbox : List DriveOutput
  deriving DecidableEq, Repr

/-- The time samples that one `tick` takes, in order. -/
structure TickTimes where
  duty : Micros
  left : Micros
  right : Micros
  status : Micros
  deriving DecidableEq, Repr

namespace DiffDriveService

def initial : DiffDriveService where
  leftEscDriver := .initial
  rightEscDriver := .initial
  leftEscState := .zero
  rightEscState := .zero
  leftEscStateValid := false
  rightEscStateValid := false
  lastValidEscStateMicros := 0
  lastDutyReceivedMicros := 0
  lastTicksLeft := 0
  lastTicksRight := 0
  lastTicksValid := false
  lastTicksMicros := 0
  speedL := 0
  speedR := 0
  dutySent := false
  outbox := []

def send (service : DiffDriveService) (outputs : List DriveOutput) : DiffDriveService :=
  { service with outbox := service.outbox ++ outputs }

/-- `left_esc_driver_->SetDuty` in `SetDuty`. -/
def commandLeft (service : DiffDriveService) (emergency : Bool) : DiffDriveService :=
  { service with leftEscDriver :=
    service.leftEscDriver.setDuty (if emergency then 0 else service.speedL) }

/-- `right_esc_driver_->SetDuty` in `SetDuty`. -/
def commandRight (service : DiffDriveService) (emergency : Bool) : DiffDriveService :=
  { service with rightEscDriver :=
    service.rightEscDriver.setDuty (if emergency then 0 else service.speedR) }

def markSent (service : DiffDriveService) : DiffDriveService := { service with dutySent := true }

/-- `SetDuty`, given what `GetEmergency` answered. -/
def setDuty (service : DiffDriveService) (emergency : Bool) : DiffDriveService :=
  ((service.commandLeft emergency).commandRight emergency).markSent

/-- `if (!duty_sent_) SetDuty();`. -/
def setDutyOnce (service : DiffDriveService) (emergency : Bool) : DiffDriveService :=
  if service.dutySent then service else service.setDuty emergency

def clearSpeeds (service : DiffDriveService) : DiffDriveService :=
  { service with speedL := 0, speedR := 0 }

/-- `OnEmergencyChangedEvent`; the first answer of `GetEmergency` is its own, the
second one that of `SetDuty`. -/
def onEmergencyChangedEvent (service : DiffDriveService) (emergency sending : Bool) :
    DiffDriveService :=
  if emergency then service.clearSpeeds.setDuty sending else service

def onStart (service : DiffDriveService) : DiffDriveService :=
  { service.clearSpeeds with lastTicksValid := false }

def onStop (service : DiffDriveService) : DiffDriveService :=
  { service.clearSpeeds with lastTicksValid := false }

/-- `speed >= 1.0 ? 1.0 : speed <= -1.0 ? -1.0 : speed`, as the two branches do it. -/
def clampSpeed (speed : ℚ) : ℚ :=
  if 1 ≤ speed then 1 else if speed ≤ -1 then -1 else speed

/-- The part of `OnControlTwistChanged` before its `SetDuty`. -/
def receiveTwist (registers : Registers) (service : DiffDriveService) (now : Micros)
    (newValue : Nat → ℚ) : DiffDriveService :=
  let linear := newValue 0
  let angular := newValue 5
  { service with
    lastDutyReceivedMicros := now
    speedR := clampSpeed (-(linear + 1 / 2 * registers.wheelDistance * angular))
    speedL := clampSpeed (linear - 1 / 2 * registers.wheelDistance * angular) }

def onControlTwistChanged (registers : Registers) (service : DiffDriveService) (now : Micros)
    (newValue : Nat → ℚ) (length : Nat) (emergency : Bool) : DiffDriveService :=
  if length ≠ 6 then
    service
  else
    (service.receiveTwist registers now newValue).setDutyOnce emergency

/-- The difference and the sum of the ticks of both sides are values of `int32_t`. -/
def FitInt32 (left right : Int) : Prop :=
  (-2 ^ 31 ≤ left - right ∧ left - right < 2 ^ 31) ∧
    -2 ^ 31 ≤ left + right ∧ left + right < 2 ^ 31

instance (left right : Int) : Decidable (FitInt32 left right) :=
  inferInstanceAs (Decidable (_ ∧ _))

def actualTwist (registers : Registers) (dt : ℚ) (left right : Int) : DriveOutput :=
  let divisor := 2 * dt * registers.wheelTicksPerMeter
  if FitInt32 left right then
    .actualTwist ((left - right : Int) / divisor) (-(left + right : Int) / divisor)
  else .overflowedTwist

def processStatusUpdate (registers : Registers) (service : DiffDriveService) (micros : Micros) :
    DiffDriveService :=
  let left := service.leftEscState
  let right := service.rightEscState
  let dt : ℚ := (micros - service.lastTicksMicros).toNat / 1000000
  let status : List DriveOutput :=
    [.leftEscTemperature left.temperaturePcb, .leftEscCurrent left.currentInput,
      .leftEscStatus left.status, .rightEscTemperature right.temperaturePcb,
      .rightEscCurrent right.currentInput, .rightEscStatus right.status]
  let moved : List DriveOutput :=
    if service.lastTicksValid then
      [actualTwist registers dt (left.tacho - service.lastTicksLeft).toInt
        (right.tacho - service.lastTicksRight).toInt,
        .wheelTicks left.tacho right.tacho]
    else
      []
  { service with
    lastValidEscStateMicros := micros
    lastTicksValid := true
    lastTicksLeft := left.tacho
    lastTicksRight := right.tacho
    lastTicksMicros := micros
    leftEscStateValid := false
    rightEscStateValid := false }.send (status ++ moved)

def leftEscCallback (registers : Registers) (service : DiffDriveService) (state : EscState)
    (micros : Micros) : DiffDriveService :=
  let received := { service with leftEscState := state, leftEscStateValid := true }
  if received.rightEscStateValid then received.processStatusUpdate registers micros else received

def rightEscCallback (registers : Registers) (service : DiffDriveService) (state : EscState)
    (micros : Micros) : DiffDriveService :=
  let received := { service with rightEscState := state, rightEscStateValid := true }
  if received.leftEscStateValid then received.processStatusUpdate registers micros else received

/-- `left_esc_driver_->RequestStatus()`, which notifies the callback. -/
def requestLeftStatus (registers : Registers) (service : DiffDriveService) (micros : Micros) :
    DiffDriveService :=
  let driver := service.leftEscDriver.requestStatus
  { service with leftEscDriver := driver }.leftEscCallback registers driver.latestState micros

/-- `right_esc_driver_->RequestStatus()`. -/
def requestRightStatus (registers : Registers) (service : DiffDriveService) (micros : Micros) :
    DiffDriveService :=
  let driver := service.rightEscDriver.requestStatus
  { service with rightEscDriver := driver }.rightEscCallback registers driver.latestState micros

/-- The watchdog on commands at the start of `tick`. -/
def expireSpeeds (service : DiffDriveService) (now : Micros) : DiffDriveService :=
  if 1000000 < now - service.lastDutyReceivedMicros then service.clearSpeeds else service

def reportDisconnected (service : DiffDriveService) (now : Micros) : DiffDriveService :=
  if 1000000 < now - service.lastValidEscStateMicros then
    service.send
      ((if service.leftEscStateValid then [] else [.leftEscStatus escStatusDisconnected]) ++
        (if service.rightEscStateValid then [] else [.rightEscStatus escStatusDisconnected]))
  else
    service

/-- The part of `tick` after its `SetDuty`. -/
def finishTick (registers : Registers) (service : DiffDriveService) (times : TickTimes) :
    DiffDriveService :=
  { ((service.requestLeftStatus registers times.left).requestRightStatus registers
      times.right).reportDisconnected times.status with dutySent := false }

def tick (registers : Registers) (service : DiffDriveService) (times : TickTimes)
    (emergency : Bool) : DiffDriveService :=
  ((service.expireSpeeds times.duty).setDutyOnce emergency).finishTick registers times

end DiffDriveService

end XBotFirmware.DiffDrive
