import Mathlib.Tactic.FieldSimp
import Mathlib.Tactic.Ring
import XBotFirmware.DiffDrive.Odometry

set_option autoImplicit false

/-!
The commanded twist and the one that the odometry publishes.

A twist becomes two wheel speeds through half of the wheel distance.  The way back
divides by the ticks per meter alone, so that the rotation comes out scaled.
-/

namespace XBotFirmware.DiffDrive

open XBotFirmware.Platform

namespace DiffDriveService

/-- The speeds that a twist asks for, before they are clamped. -/
def askedSpeed (registers : Registers) (newValue : Nat → ℚ) : Side → ℚ
  | .left => newValue 0 - 1 / 2 * registers.wheelDistance * newValue 5
  | .right => -(newValue 0 + 1 / 2 * registers.wheelDistance * newValue 5)

def speed (service : DiffDriveService) : Side → ℚ
  | .left => service.speedL
  | .right => service.speedR

/-- The `dt` of `ProcessStatusUpdate`. -/
def elapsed (service : DiffDriveService) (micros : Micros) : ℚ :=
  (micros - service.lastTicksMicros).toNat / 1000000

/-- The `d_left` or `d_right` of `ProcessStatusUpdate`. -/
def ticksMoved (service : DiffDriveService) (side : Side) : Int :=
  ((service.wheel side).escState.tacho - (service.wheel side).lastTicks).toInt

variable {registers : Registers} {service : DiffDriveService} {newValue : Nat → ℚ}

theorem setDutyOnce_speed (emergency : Bool) :
    (service.setDutyOnce emergency).speed = service.speed := by
  unfold setDutyOnce
  funext side
  cases side <;> split <;> rfl

theorem onControlTwistChanged_speed (now : Micros) (emergency : Bool)
    (unclamped : ∀ side, -1 ≤ askedSpeed registers newValue side ∧
      askedSpeed registers newValue side ≤ 1) :
    (service.onControlTwistChanged registers now newValue 6 emergency).speed =
      askedSpeed registers newValue := by
  have kept : ∀ side, clampSpeed (askedSpeed registers newValue side) =
      askedSpeed registers newValue side := by
    intro side
    obtain ⟨low, high⟩ := unclamped side
    unfold clampSpeed
    split
    next above => exact (le_antisymm high above).symm
    next =>
      split
      next below => exact (le_antisymm below low).symm
      next => rfl
  unfold onControlTwistChanged
  rw [if_neg (by decide), setDutyOnce_speed]
  funext side
  cases side with
  | left => exact kept .left
  | right => exact kept .right

theorem actualTwist_of_fit {dt : ℚ} {left right : Int} (fit : FitInt32 left right) :
    actualTwist registers dt left right =
      .actualTwist ((left - right : Int) / (2 * dt * registers.wheelTicksPerMeter))
        (-(left + right : Int) / (2 * dt * registers.wheelTicksPerMeter)) :=
  if_pos fit

theorem actualTwist_of_not_fit {dt : ℚ} {left right : Int} (overflows : ¬FitInt32 left right) :
    actualTwist registers dt left right = .overflowedTwist :=
  if_neg overflows

theorem mem_statusUpdate_actualTwist (valid : service.lastTicksValid = true) (micros : Micros)
    (vx vr : ℚ) :
    .actualTwist vx vr ∈ service.statusUpdate registers micros ↔
      .actualTwist vx vr = actualTwist registers (service.elapsed micros)
        (service.ticksMoved .left) (service.ticksMoved .right) := by
  simp [statusUpdate, usedDeltas, valid, elapsed, ticksMoved, actualTwist]

/-- Wheels that move as they were commanded. -/
def MovesAs (registers : Registers) (service : DiffDriveService) (micros : Micros)
    (speed : Side → ℚ) : Prop :=
  ∀ side, (service.ticksMoved side : ℚ) =
    speed side * service.elapsed micros * registers.wheelTicksPerMeter

/-- What `ProcessStatusUpdate` computes in `int32_t` from the ticks does not overflow. -/
def TicksFit (service : DiffDriveService) : Prop :=
  FitInt32 (service.ticksMoved .left) (service.ticksMoved .right)

/-- The twist comes back with its rotation scaled by half of the wheel distance. -/
theorem actualTwist_of_movesAs {micros : Micros} (ticks : registers.wheelTicksPerMeter ≠ 0)
    (positive : 0 < service.elapsed micros) (fit : service.TicksFit)
    (moves : service.MovesAs registers micros (askedSpeed registers newValue)) :
    actualTwist registers (service.elapsed micros) (service.ticksMoved .left)
        (service.ticksMoved .right) =
      .actualTwist (newValue 0) (registers.wheelDistance / 2 * newValue 5) := by
  have nonzero : service.elapsed micros ≠ 0 := ne_of_gt positive
  have left := moves .left
  have right := moves .right
  unfold askedSpeed at left right
  rw [actualTwist_of_fit fit]
  push_cast
  rw [left, right]
  congr 1
  · field_simp
    ring
  · field_simp
    ring

theorem scaled_rotation_eq_iff (distance angular : ℚ) :
    angular = distance / 2 * angular ↔ angular = 0 ∨ distance = 2 := by
  constructor
  · intro same
    by_cases still : angular = 0
    · exact .inl still
    · right
      have scaled : distance / 2 * angular = 1 * angular := by
        rw [one_mul, ← same]
      have half := mul_right_cancel₀ still scaled
      field_simp at half
      exact half
  · rintro (still | apart)
    · rw [still, mul_zero]
    · rw [apart]
      ring

/-- The odometry publishes the commanded twist exactly when the ticks of the wheels add up
without overflow, and the twist does not turn or the wheels are two meters apart. -/
theorem commanded_twist_published_iff (commander : DiffDriveService) (now : Micros)
    (emergency : Bool) {micros : Micros} (ticks : registers.wheelTicksPerMeter ≠ 0)
    (unclamped : ∀ side, -1 ≤ askedSpeed registers newValue side ∧
      askedSpeed registers newValue side ≤ 1)
    (valid : service.lastTicksValid = true) (positive : 0 < service.elapsed micros)
    (moves : service.MovesAs registers micros
      (commander.onControlTwistChanged registers now newValue 6 emergency).speed) :
    ∃ messages, (service.processStatusUpdate registers micros).outbox =
        service.outbox ++ messages ∧
      (.actualTwist (newValue 0) (newValue 5) ∈ messages ↔
        service.TicksFit ∧ (newValue 5 = 0 ∨ registers.wheelDistance = 2)) := by
  rw [onControlTwistChanged_speed now emergency unclamped] at moves
  refine ⟨_, processStatusUpdate_outbox registers service micros, ?_⟩
  rw [mem_statusUpdate_actualTwist valid]
  by_cases fit : service.TicksFit
  · rw [actualTwist_of_movesAs ticks positive fit moves]
    simp only [DriveOutput.actualTwist.injEq, true_and, fit]
    exact scaled_rotation_eq_iff registers.wheelDistance (newValue 5)
  · rw [actualTwist_of_not_fit fit]
    constructor
    · intro published
      cases published
    · rintro ⟨fits, _⟩
      exact absurd fits fit

end DiffDriveService

def defaultRegisters : Registers := ⟨100, 13 / 50⟩

def fineRegisters : Registers := ⟨2 ^ 31, 13 / 50⟩

def twistOf (linear angular : ℚ) (index : Nat) : ℚ :=
  if index = 0 then linear else if index = 5 then angular else 0

def movedBy (left right : BitVec 32) : DiffDriveService :=
  { DiffDriveService.initial with
    leftEscState := { EscState.zero with tacho := left }
    rightEscState := { EscState.zero with tacho := right }
    lastTicksValid := true }

namespace DiffDriveService

/-- Turning at one radian a second is published as 0.13; and with many ticks per meter,
half a meter of each wheel overflows their difference. -/
theorem turning_twist_not_published :
    ((∀ side, -1 ≤ askedSpeed defaultRegisters (twistOf 0 1) side ∧
        askedSpeed defaultRegisters (twistOf 0 1) side ≤ 1) ∧
      (movedBy (-13) (-13)).MovesAs defaultRegisters 1000000
        (initial.onControlTwistChanged defaultRegisters 0 (twistOf 0 1) 6 false).speed ∧
      .actualTwist 0 1 ∉
        ((movedBy (-13) (-13)).processStatusUpdate defaultRegisters 1000000).outbox) ∧
    (∀ side, -1 ≤ askedSpeed fineRegisters (twistOf (1 / 2) 0) side ∧
      askedSpeed fineRegisters (twistOf (1 / 2) 0) side ≤ 1) ∧
    (movedBy 0x40000000 (-0x40000000)).MovesAs fineRegisters 1000000
      (initial.onControlTwistChanged fineRegisters 0 (twistOf (1 / 2) 0) 6 false).speed ∧
    .actualTwist (1 / 2) 0 ∉
      ((movedBy 0x40000000 (-0x40000000)).processStatusUpdate fineRegisters 1000000).outbox := by
  refine ⟨⟨?_, ?_, by decide +kernel⟩, ?_, ?_, by decide +kernel⟩
  · intro side
    cases side <;> decide +kernel
  · intro side
    cases side <;> decide +kernel
  · intro side
    cases side <;> decide +kernel
  · intro side
    cases side <;> decide +kernel

theorem commanded_twist_published_straight :
    ∃ messages,
      ((movedBy 50 (-50)).processStatusUpdate defaultRegisters 1000000).outbox =
        (movedBy 50 (-50)).outbox ++ messages ∧
      .actualTwist (1 / 2) 0 ∈ messages := by
  have unclamped : ∀ side, -1 ≤ askedSpeed defaultRegisters (twistOf (1 / 2) 0) side ∧
      askedSpeed defaultRegisters (twistOf (1 / 2) 0) side ≤ 1 := by
    intro side
    cases side <;> decide +kernel
  have moves : (movedBy 50 (-50)).MovesAs defaultRegisters 1000000
      (initial.onControlTwistChanged defaultRegisters 0 (twistOf (1 / 2) 0) 6 false).speed := by
    intro side
    cases side <;> decide +kernel
  obtain ⟨messages, sent, published⟩ := commanded_twist_published_iff initial 0 false
    (by decide) unclamped rfl (by decide +kernel) moves
  have fit : (movedBy 50 (-50)).TicksFit :=
    (by decide : FitInt32 ((movedBy 50 (-50)).ticksMoved .left)
      ((movedBy 50 (-50)).ticksMoved .right))
  exact ⟨messages, sent, published.mpr ⟨fit, .inl rfl⟩⟩

end DiffDriveService

end XBotFirmware.DiffDrive
