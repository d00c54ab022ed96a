import XBotFirmware.DiffDrive.Watchdog

set_option autoImplicit false

/-!
The drive under its framework, which runs `tick` and the twist handler only
between `OnStart` and `OnStop`.

`OnStop` clears the speeds but sends nothing, and no tick follows that would.
-/

namespace XBotFirmware.DiffDrive

open XBotFirmware.Library XBotFirmware.Platform

namespace DriveSystem

def scheduled (system : DriveSystem) : DriveOp → Bool
  | .tick _ _ _ _ => system.phase = .running
  | .onControlTwistChanged _ _ _ => system.phase = .running
  | _ => true

def scheduledStep (system : DriveSystem) (op : DriveOp) : Option DriveSystem :=
  if system.scheduled op then system.step op else none

theorem scheduledStep_eq_some {system next : DriveSystem} {op : DriveOp} :
    system.scheduledStep op = some next ↔
      system.scheduled op = true ∧ system.step op = some next := by
  unfold scheduledStep
  split
  next permitted => simp [permitted]
  next refused => simp [refused]

/-- A stopped drive has both motors commanded zero. -/
def StoppedOff (system : DriveSystem) : Prop := system.phase = .stopped → system.motion.Off

theorem scheduledStep_stoppedOff {system next : DriveSystem} {op : DriveOp}
    (off : system.StoppedOff) (stopping : op.IsStop → system.motion.Off)
    (stepped : system.scheduledStep op = some next) : next.StoppedOff := by
  obtain ⟨permitted, stepped⟩ := scheduledStep_eq_some.mp stepped
  cases op with
  | onStart =>
      cases stepped
      exact fun stopped => by cases stopped
  | onStop =>
      cases stepped
      exact fun _ => stopping trivial
  | tick left right status emergency =>
      have running : system.phase = .running := by simpa [scheduled] using permitted
      cases stepped
      exact fun stopped => by cases running.symm.trans stopped
  | onControlTwistChanged newValue length emergency =>
      have running : system.phase = .running := by simpa [scheduled] using permitted
      cases stepped
      exact fun stopped => by cases running.symm.trans stopped
  | onEmergencyChangedEvent emergency sending =>
      have moved := step_motion id stepped
      cases stepped
      intro stopped
      rw [moved]
      cases emergency with
      | true => exact Motion.setDuty_off_of_still ⟨rfl, rfl⟩ sending
      | false => exact off stopped
  | _ =>
      have moved := step_motion_of_background (by trivial) stepped
      cases stepped
      intro stopped
      rw [moved]
      exact off stopped

theorem scheduledStep_onStop {system next : DriveSystem} {op : DriveOp} (isStop : op.IsStop)
    (stepped : system.scheduledStep op = some next) :
    next.phase = .stopped ∧ (next.motion.Off ↔ system.motion.Off) := by
  obtain ⟨_, stepped⟩ := scheduledStep_eq_some.mp stepped
  cases op with
  | onStop =>
      cases stepped
      exact ⟨rfl, Iff.rfl⟩
  | _ => exact absurd isStop id

/-- In a run of the drive the motors are off whenever it is stopped, exactly if they
were commanded zero before every `OnStop` of the run. -/
theorem stopped_off_iff (registers : Registers) (ops : List DriveOp) :
    Throughout scheduledStep (boot registers) ops StoppedOff ↔
      AtEveryStep scheduledStep (boot registers) ops
        (fun system op _ => op.IsStop → system.motion.Off) := by
  constructor
  · intro off before op after system next split executed stepped isStop
    obtain ⟨stopped, same⟩ := scheduledStep_onStop isStop stepped
    refine same.mp (off (before ++ [op]) after next ?_ ?_ stopped)
    · rw [split, List.append_assoc, List.singleton_append]
    · exact run_concat_eq_some.mpr ⟨system, executed, stepped⟩
  · intro stopping
    refine throughout_of_atEveryStep (fun system op next off idle stepped =>
      scheduledStep_stoppedOff off idle stepped) ?_ stopping
    intro stopped
    cases stopped

/-- A twist sends full speed, and `OnStop` right after it leaves the motors running. -/
theorem stopped_drive_moves :
    ¬ Throughout scheduledStep (boot ⟨100, 13 / 50⟩)
      [.onStart, .onControlTwistChanged (fun index => if index = 0 then 1 else 0) 6 false, .onStop]
      StoppedOff := by
  intro off
  have stopped := off _ [] _ (List.append_nil _).symm rfl rfl
  revert stopped
  decide +kernel

end DriveSystem

end XBotFirmware.DiffDrive
