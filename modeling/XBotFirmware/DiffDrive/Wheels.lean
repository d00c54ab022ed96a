import Mathlib.Logic.Function.Basic
import XBotFirmware.DiffDrive.Service

set_option autoImplicit false

/-!
What the odometry is made from: for each side the counter of the encoder, its
last locked copy, and what the service has received and processed of it.

Every operation of the service acts on this part by itself.  `RequestStatus` is
cut in two, since encoder edges can fall between its copy and its callback.
-/

namespace XBotFirmware.DiffDrive

open XBotFirmware.Platform

inductive Side where
  | left
  | right
  deriving DecidableEq, Repr

def Side.other : Side → Side
  | .left => .right
  | .right => .left

theorem Side.eq_or_eq_other (first second : Side) : first = second ∨ first = second.other := by
  cases first <;> cases second <;> decide

structure Wheel where
  tacho : BitVec 32
  latestState : EscState
  escState : EscState
  valid : Bool
  lastTicks : BitVec 32

namespace Wheel

/-- The effect of `HandleEncoderTick`. -/
def edge (forward : Bool) (wheel : Wheel) : Wheel :=
  { wheel with tacho := if forward then wheel.tacho + 1 else wheel.tacho - 1 }

/-- The effect of the locked copy in `RequestStatus`. -/
def copy (tachoAbs : BitVec 32) (wheel : Wheel) : Wheel :=
  { wheel with latestState :=
    { wheel.latestState with tacho := wheel.tacho, tachoAbsolute := tachoAbs } }

def receive (wheel : Wheel) : Wheel := { wheel with escState := wheel.latestState, valid := true }

def consume (wheel : Wheel) : Wheel :=
  { wheel with valid := false, lastTicks := wheel.escState.tacho }

end Wheel

namespace DiffDriveService

variable (service : DiffDriveService) (registers : Registers)

def wheel : Side → Wheel
  | .left => ⟨service.leftEscDriver.tacho, service.leftEscDriver.latestState, service.leftEscState,
      service.leftEscStateValid, service.lastTicksLeft⟩
  | .right => ⟨service.rightEscDriver.tacho, service.rightEscDriver.latestState,
      service.rightEscState, service.rightEscStateValid, service.lastTicksRight⟩

def tachoAbs : Side → BitVec 32
  | .left => service.leftEscDriver.tachoAbs
  | .right => service.rightEscDriver.tachoAbs

def encoderEdge (encoderB : Bool) : Side → DiffDriveService
  | .left => { service with leftEscDriver := service.leftEscDriver.handleEncoderTick encoderB }
  | .right => { service with rightEscDriver := service.rightEscDriver.handleEncoderTick encoderB }

/-- The locked copy in `RequestStatus`. -/
def copyStatus : Side → DiffDriveService
  | .left => { service with leftEscDriver := service.leftEscDriver.requestStatus }
  | .right => { service with rightEscDriver := service.rightEscDriver.requestStatus }

/-- `NotifyCallback`, which calls the service back with the last copy. -/
def notifyCallback (micros : Micros) : Side → DiffDriveService
  | .left => service.leftEscCallback registers service.leftEscDriver.latestState micros
  | .right => service.rightEscCallback registers service.rightEscDriver.latestState micros

/-- The part of `tick` before `RequestStatus`. -/
def beginTick (now : Micros) (emergency : Bool) : DiffDriveService :=
  (service.expireSpeeds now).setDutyOnce emergency

/-- The part of `tick` after `RequestStatus`. -/
def endTick (now : Micros) : DiffDriveService :=
  { service.reportDisconnected now with dutySent := false }

-- The parts of `tick` in order.
example (times : TickTimes) (emergency : Bool) :
    service.tick registers times emergency =
      (((((service.beginTick times.duty emergency).copyStatus .left).notifyCallback registers
        times.left .left).copyStatus .right).notifyCallback registers times.right .right).endTick
          times.status := rfl

variable {service registers}

theorem encoderEdge_wheel (encoderB : Bool) (side : Side) :
    (service.encoderEdge encoderB side).wheel =
      Function.update service.wheel side ((service.wheel side).edge encoderB) := by
  funext place
  cases side <;> cases place <;> rfl

theorem copyStatus_wheel (side : Side) :
    (service.copyStatus side).wheel =
      Function.update service.wheel side ((service.wheel side).copy (service.tachoAbs side)) := by
  funext place
  cases side <;> cases place <;> rfl

theorem processStatusUpdate_wheel (micros : Micros) (side : Side) :
    (service.processStatusUpdate registers micros).wheel side = (service.wheel side).consume := by
  cases side <;> rfl

def receive (service : DiffDriveService) : Side → DiffDriveService
  | .left => { service with
      leftEscState := service.leftEscDriver.latestState
      leftEscStateValid := true }
  | .right => { service with
      rightEscState := service.rightEscDriver.latestState
      rightEscStateValid := true }

theorem receive_wheel (side : Side) :
    (service.receive side).wheel =
      Function.update service.wheel side (service.wheel side).receive := by
  funext place
  cases side <;> cases place <;> rfl

theorem receive_lastTicksValid (side : Side) :
    (service.receive side).lastTicksValid = service.lastTicksValid := by
  cases side <;> rfl

theorem receive_lastTicks (side place : Side) :
    ((service.receive side).wheel place).lastTicks = (service.wheel place).lastTicks := by
  cases side <;> cases place <;> rfl

theorem receive_outbox (side : Side) : (service.receive side).outbox = service.outbox := by
  cases side <;> rfl

/-- A callback processes exactly when the other side is valid. -/
theorem notifyCallback_eq (micros : Micros) (side : Side) :
    service.notifyCallback registers micros side =
      if (service.wheel side.other).valid then
        (service.receive side).processStatusUpdate registers micros
      else service.receive side := by
  cases side <;> rfl

/-- The operation leaves the odometry alone. -/
structure Unmoved (service next : DiffDriveService) : Prop where
  wheel : next.wheel = service.wheel
  lastTicksValid : next.lastTicksValid = service.lastTicksValid

theorem setDuty_unmoved (emergency : Bool) : Unmoved service (service.setDuty emergency) := by
  have counts : ∀ (driver : PwmMotorDriver) (duty : ℚ),
      (driver.setDuty duty).tacho = driver.tacho ∧
        (driver.setDuty duty).latestState = driver.latestState := by
    intro driver duty
    unfold PwmMotorDriver.setDuty
    split <;> exact ⟨rfl, rfl⟩
  refine ⟨?_, rfl⟩
  funext side
  cases side <;>
    simp [wheel, setDuty, commandLeft, commandRight, markSent, counts]

theorem setDutyOnce_unmoved (emergency : Bool) :
    Unmoved service (service.setDutyOnce emergency) := by
  unfold setDutyOnce
  split
  · exact ⟨rfl, rfl⟩
  · exact setDuty_unmoved emergency

theorem clearSpeeds_unmoved : Unmoved service service.clearSpeeds := by
  refine ⟨?_, rfl⟩
  funext side
  cases side <;> rfl

theorem Unmoved.trans {first second third : DiffDriveService} (left : Unmoved first second)
    (right : Unmoved second third) : Unmoved first third :=
  ⟨right.wheel.trans left.wheel, right.lastTicksValid.trans left.lastTicksValid⟩

theorem beginTick_unmoved (now : Micros) (emergency : Bool) :
    Unmoved service (service.beginTick now emergency) := by
  have expired : Unmoved service (service.expireSpeeds now) := by
    unfold expireSpeeds
    split
    · exact clearSpeeds_unmoved
    · exact ⟨rfl, rfl⟩
  exact expired.trans (setDutyOnce_unmoved emergency)

theorem endTick_unmoved (now : Micros) : Unmoved service (service.endTick now) := by
  unfold endTick reportDisconnected
  refine ⟨?_, ?_⟩
  · funext side
    cases side <;> split <;> rfl
  · split <;> rfl

theorem onEmergencyChangedEvent_unmoved (emergency sending : Bool) :
    Unmoved service (service.onEmergencyChangedEvent emergency sending) := by
  unfold onEmergencyChangedEvent
  split
  · exact clearSpeeds_unmoved.trans (setDuty_unmoved sending)
  · exact ⟨rfl, rfl⟩

theorem onControlTwistChanged_unmoved (now : Micros) (newValue : Nat → ℚ) (length : Nat)
    (emergency : Bool) :
    Unmoved service
      (service.onControlTwistChanged registers now newValue length emergency) := by
  have received : Unmoved service (service.receiveTwist registers now newValue) := by
    refine ⟨?_, rfl⟩
    funext side
    cases side <;> rfl
  unfold onControlTwistChanged
  split
  · exact ⟨rfl, rfl⟩
  · exact received.trans (setDutyOnce_unmoved emergency)

end DiffDriveService

end XBotFirmware.DiffDrive
