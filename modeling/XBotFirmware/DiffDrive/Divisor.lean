import XBotFirmware.DiffDrive.Kinematics

set_option autoImplicit false

/-!
What the twist is divided by, against true time.

Operations happen at the current tick, which only advances, and the registers may change
at any time.  A ghost variable records the tick of the last processed update, which the
service keeps as a 32-bit sample.
-/

namespace XBotFirmware.DiffDrive

open XBotFirmware.Library XBotFirmware.Platform

namespace DiffDriveService

/-- The divisors of the twist that `ProcessStatusUpdate` computes, if it computes one. -/
def divisors (registers : Registers) (service : DiffDriveService) (micros : Micros) : List ℚ :=
  if service.lastTicksValid then
    [2 * service.elapsed micros * registers.wheelTicksPerMeter]
  else
    []

/-- The twists in the messages are the quotients by these divisors, where nothing overflows. -/
theorem statusUpdate_twists (registers : Registers) (service : DiffDriveService)
    (micros : Micros) (vx vr : ℚ) :
    .actualTwist vx vr ∈ service.statusUpdate registers micros ↔
      service.TicksFit ∧ ∃ divisor ∈ service.divisors registers micros,
        vx = (service.ticksMoved .left - service.ticksMoved .right : Int) / divisor ∧
        vr = -(service.ticksMoved .left + service.ticksMoved .right : Int) / divisor := by
  cases valid : service.lastTicksValid with
  | false => simp [statusUpdate, usedDeltas, divisors, valid]
  | true =>
      rw [mem_statusUpdate_actualTwist valid]
      by_cases fit : service.TicksFit
      · rw [actualTwist_of_fit fit]
        simp [divisors, valid, fit]
      · rw [actualTwist_of_not_fit fit]
        simp [fit]

theorem setDutyOnce_lastTicksMicros (service : DiffDriveService) (emergency : Bool) :
    (service.setDutyOnce emergency).lastTicksMicros = service.lastTicksMicros := by
  unfold setDutyOnce
  split <;> rfl

theorem receive_lastTicksMicros (service : DiffDriveService) (side : Side) :
    (service.receive side).lastTicksMicros = service.lastTicksMicros := by
  cases side <;> rfl

end DiffDriveService

theorem Odometry.step_lastTicksMicros {system next : Odometry} {op : OdometryOp}
    (stepped : system.step op = some next) :
    next.service.lastTicksMicros =
      match op with
      | .notifyCallback side _ micros =>
          if (system.service.wheel side.other).valid then micros
          else system.service.lastTicksMicros
      | _ => system.service.lastTicksMicros := by
  cases op with
  | encoderEdge side encoderB =>
      cases stepped
      cases side <;> rfl
  | copyStatus side =>
      cases stepped
      cases side <;> rfl
  | notifyCallback side registers micros =>
      cases stepped
      simp only [notify, DiffDriveService.notifyCallback_eq]
      split
      next => rfl
      next => exact DiffDriveService.receive_lastTicksMicros _ side
  | beginTick now emergency =>
      cases stepped
      simp only [DiffDriveService.beginTick, DiffDriveService.setDutyOnce_lastTicksMicros,
        DiffDriveService.expireSpeeds]
      split <;> rfl
  | endTick now =>
      cases stepped
      simp only [DiffDriveService.endTick, DiffDriveService.reportDisconnected]
      split <;> rfl
  | onStart =>
      cases stepped
      rfl
  | onStop =>
      cases stepped
      rfl
  | onControlTwistChanged registers now newValue length emergency =>
      cases stepped
      simp only [DiffDriveService.onControlTwistChanged]
      split
      next => rfl
      next => exact DiffDriveService.setDutyOnce_lastTicksMicros _ emergency
  | onEmergencyChangedEvent emergency sending =>
      cases stepped
      simp only [DiffDriveService.onEmergencyChangedEvent]
      split <;> rfl

structure TimedDrive where
  clock : Nat
  registers : Registers
  odometry : Odometry
  /-- The tick of the last processed update. -/
  lastUpdate : Nat

inductive TimedDriveOp where
  | pass (ticks : Nat)
  | setRegisters (registers : Registers)
  | encoderEdge (side : Side) (encoderB : Bool)
  | copyStatus (side : Side)
  | notifyCallback (side : Side)
  | beginTick (emergency : Bool)
  | endTick
  | onStart
  | onStop
  | onControlTwistChanged (newValue : Nat → ℚ) (length : Nat) (emergency : Bool)
  | onEmergencyChangedEvent (emergency sending : Bool)

namespace TimedDrive

def initial (registers : Registers) : TimedDrive where
  clock := 0
  registers := registers
  odometry := .initial
  lastUpdate := 0

def perform (system : TimedDrive) (op : OdometryOp) : Option TimedDrive :=
  (system.odometry.step op).map fun odometry => { system with odometry := odometry }

def Completes (system : TimedDrive) (side : Side) : Prop :=
  (system.odometry.service.wheel side.other).valid = true

instance (system : TimedDrive) (side : Side) : Decidable (system.Completes side) :=
  inferInstanceAs (Decidable (_ = _))

def step (system : TimedDrive) : TimedDriveOp → Option TimedDrive
  | .pass ticks => some { system with clock := system.clock + ticks }
  | .setRegisters registers => some { system with registers := registers }
  | .encoderEdge side encoderB => system.perform (.encoderEdge side encoderB)
  | .copyStatus side => system.perform (.copyStatus side)
  | .notifyCallback side =>
      let lastUpdate := if system.Completes side then system.clock else system.lastUpdate
      { system with lastUpdate := lastUpdate }.perform
        (.notifyCallback side system.registers (getTimeMicros system.clock))
  | .beginTick emergency => system.perform (.beginTick (getTimeMicros system.clock) emergency)
  | .endTick => system.perform (.endTick (getTimeMicros system.clock))
  | .onStart => system.perform .onStart
  | .onStop => system.perform .onStop
  | .onControlTwistChanged newValue length emergency =>
      system.perform (.onControlTwistChanged system.registers (getTimeMicros system.clock)
        newValue length emergency)
  | .onEmergencyChangedEvent emergency sending =>
      system.perform (.onEmergencyChangedEvent emergency sending)

/-- The divisors of the twists that the operation computes. -/
def divisors (system : TimedDrive) : TimedDriveOp → List ℚ
  | .notifyCallback side =>
      if system.Completes side then
        (system.odometry.service.receive side).divisors system.registers
          (getTimeMicros system.clock)
      else
        []
  | _ => []

/-- An update that computes a twist finds ticks per meter and comes at another reading of
the clock than the one before. -/
def Divisible (system : TimedDrive) : TimedDriveOp → Prop
  | .notifyCallback side =>
      system.Completes side → system.odometry.service.lastTicksValid = true →
        system.registers.wheelTicksPerMeter ≠ 0 ∧ ¬2 ^ 30 ∣ system.clock - system.lastUpdate
  | _ => True

structure Sampled (system : TimedDrive) : Prop where
  last : system.odometry.service.lastTicksMicros = getTimeMicros system.lastUpdate
  lastLe : system.lastUpdate ≤ system.clock

theorem initial_sampled (registers : Registers) : (initial registers).Sampled :=
  ⟨getTimeMicros_zero.symm, Nat.le_refl 0⟩

theorem perform_sampled {system next : TimedDrive} {op : OdometryOp} (sampled : system.Sampled)
    (notCallback : ∀ side registers micros, op ≠ .notifyCallback side registers micros)
    (performed : system.perform op = some next) : next.Sampled := by
  obtain ⟨odometry, stepped, rfl⟩ := Option.map_eq_some_iff.mp performed
  have last := Odometry.step_lastTicksMicros stepped
  cases op with
  | notifyCallback side registers micros => exact absurd rfl (notCallback side registers micros)
  | _ => exact ⟨last.trans sampled.last, sampled.lastLe⟩

theorem notifyCallback_sampled {system next : TimedDrive} {side : Side} (sampled : system.Sampled)
    (stepped : system.step (.notifyCallback side) = some next) : next.Sampled := by
  simp only [step, perform] at stepped
  obtain ⟨odometry, performed, rfl⟩ := Option.map_eq_some_iff.mp stepped
  have last := Odometry.step_lastTicksMicros performed
  by_cases completes : system.Completes side
  · simp only [if_pos completes]
    refine ⟨last.trans ?_, Nat.le_refl _⟩
    exact if_pos completes
  · simp only [if_neg completes]
    refine ⟨last.trans ?_, sampled.lastLe⟩
    exact (if_neg completes).trans sampled.last

theorem step_sampled (system : TimedDrive) (op : TimedDriveOp) (next : TimedDrive)
    (sampled : system.Sampled) (stepped : system.step op = some next) : next.Sampled := by
  cases op with
  | pass ticks =>
      cases stepped
      exact ⟨sampled.last, Nat.le_add_right_of_le sampled.lastLe⟩
  | setRegisters registers =>
      cases stepped
      exact ⟨sampled.last, sampled.lastLe⟩
  | notifyCallback side => exact notifyCallback_sampled sampled stepped
  | _ => exact perform_sampled sampled (by simp) stepped

/-- The service divides by zero without ticks per meter, and when the clock shows the same
as at the last update: in the same tick, or after a whole number of rounds. -/
theorem divisor_eq_zero_iff {system : TimedDrive} (sampled : system.Sampled) :
    2 * system.odometry.service.elapsed (getTimeMicros system.clock) *
        system.registers.wheelTicksPerMeter = 0 ↔
      system.registers.wheelTicksPerMeter = 0 ∨ 2 ^ 30 ∣ system.clock - system.lastUpdate := by
  have difference := toNat_getTimeMicros_sub sampled.lastLe
  have rounds : 100 * (system.clock - system.lastUpdate) % 2 ^ 32 = 0 ↔
      2 ^ 30 ∣ system.clock - system.lastUpdate := by omega
  rw [DiffDriveService.elapsed, sampled.last, difference, ← rounds]
  simp [or_comm]

theorem divisors_ne_zero_iff {system : TimedDrive} (sampled : system.Sampled)
    (op : TimedDriveOp) :
    (∀ divisor ∈ system.divisors op, divisor ≠ 0) ↔ system.Divisible op := by
  cases op with
  | notifyCallback side =>
      simp only [divisors, Divisible]
      by_cases completes : system.Completes side
      · rw [if_pos completes, DiffDriveService.divisors, DiffDriveService.receive_lastTicksValid]
        cases valid : system.odometry.service.lastTicksValid with
        | false => simp
        | true =>
            have zero := divisor_eq_zero_iff sampled
            simp only [DiffDriveService.elapsed, DiffDriveService.receive_lastTicksMicros,
              if_true, List.mem_singleton, forall_eq, completes, true_implies] at zero ⊢
            rw [ne_eq, zero, not_or]
      · simp [completes]
  | _ => simp [divisors, Divisible]

/-- In a run no twist is divided by zero if and only if every update that computes one
finds ticks per meter and is not a multiple of `2 ^ 30` ticks after the one before. -/
theorem run_divisors_ne_zero_iff (registers : Registers) (ops : List TimedDriveOp) :
    AtEveryStep step (initial registers) ops
        (fun system op _ => ∀ divisor ∈ system.divisors op, divisor ≠ 0) ↔
      AtEveryStep step (initial registers) ops fun system op _ => system.Divisible op :=
  atEveryStep_congr step_sampled (initial_sampled registers)
    (fun _ op _ sampled _ => divisors_ne_zero_iff sampled op) ops

/-- Two pairs of callbacks in one tick, and one tick apart without ticks per meter. -/
theorem twist_divided_by_zero :
    ¬AtEveryStep step (initial defaultRegisters)
      [.pass 10, .notifyCallback .left, .notifyCallback .right, .notifyCallback .left,
        .notifyCallback .right]
      (fun system op _ => ∀ divisor ∈ system.divisors op, divisor ≠ 0) ∧
    ¬AtEveryStep step (initial defaultRegisters)
      [.setRegisters ⟨0, 13 / 50⟩, .notifyCallback .left, .notifyCallback .right, .pass 1,
        .notifyCallback .left, .notifyCallback .right]
      (fun system op _ => ∀ divisor ∈ system.divisors op, divisor ≠ 0) := by
  constructor
  · intro nonzero
    exact nonzero [.pass 10, .notifyCallback .left, .notifyCallback .right,
      .notifyCallback .left] (.notifyCallback .right) [] _ _ rfl rfl rfl 0 (by decide +kernel) rfl
  · intro nonzero
    exact nonzero [.setRegisters ⟨0, 13 / 50⟩, .notifyCallback .left, .notifyCallback .right,
      .pass 1, .notifyCallback .left] (.notifyCallback .right) [] _ _ rfl rfl rfl 0
      (by decide +kernel) rfl

end TimedDrive

end XBotFirmware.DiffDrive
