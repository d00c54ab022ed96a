import XBotFirmware.Library.Run
import XBotFirmware.DiffDrive.Motion

set_option autoImplicit false

/-!
Runs of the drive against true time.

Operations happen at the current tick of the clock.  What `GetEmergency` answers,
and the later time samples of a `tick`, are choices of the environment.
-/

namespace XBotFirmware.DiffDrive

open XBotFirmware.Library XBotFirmware.Platform

/-- Whether `OnStart` or `OnStop` was called last. -/
inductive Phase where
  | created
  | running
  | stopped
  deriving DecidableEq, Repr

structure DriveSystem where
  clock : Nat
  service : DiffDriveService
  registers : Registers
  phase : Phase
  /-- The tick of the last accepted twist. -/
  lastTwist : Option Nat

inductive DriveOp where
  | pass (ticks : Nat)
  | registersChanged (registers : Registers)
  | onStart
  | onStop
  | onControlTwistChanged (newValue : Nat → ℚ) (length : Nat) (emergency : Bool)
  | tick (left right status : Micros) (emergency : Bool)
  | onEmergencyChangedEvent (emergency sending : Bool)
  | leftEscCallback (state : EscState) (micros : Micros)
  | rightEscCallback (state : EscState) (micros : Micros)
  | leftEncoderTick (encoderB : Bool)
  | rightEncoderTick (encoderB : Bool)

namespace DriveOp

def IsTick : DriveOp → Prop
  | .tick _ _ _ _ => True
  | _ => False

def IsStop : DriveOp → Prop
  | .onStop => True
  | _ => False

/-- A twist that `OnControlTwistChanged` does not ignore. -/
def AcceptsTwist : DriveOp → Prop
  | .onControlTwistChanged _ length _ => length = 6
  | _ => False

def IsBackground : DriveOp → Prop
  | .pass _ | .registersChanged _ | .leftEscCallback _ _ | .rightEscCallback _ _
  | .leftEncoderTick _ | .rightEncoderTick _ => True
  | _ => False

end DriveOp

namespace DriveSystem

def boot (registers : Registers) : DriveSystem where
  clock := 0
  service := .initial
  registers := registers
  phase := .created
  lastTwist := none

def step (system : DriveSystem) : DriveOp → Option DriveSystem
  | .pass ticks => some { system with clock := system.clock + ticks }
  | .registersChanged registers => some { system with registers := registers }
  | .onStart => some { system with service := system.service.onStart, phase := .running }
  | .onStop => some { system with service := system.service.onStop, phase := .stopped }
  | .onControlTwistChanged newValue length emergency =>
      some { system with
        service := system.service.onControlTwistChanged system.registers
          (getTimeMicros system.clock) newValue length emergency
        lastTwist := if length = 6 then some system.clock else system.lastTwist }
  | .tick left right status emergency =>
      let times : TickTimes := ⟨getTimeMicros system.clock, left, right, status⟩
      some { system with service := system.service.tick system.registers times emergency }
  | .onEmergencyChangedEvent emergency sending =>
      some { system with service := system.service.onEmergencyChangedEvent emergency sending }
  | .leftEscCallback state micros =>
      some { system with service := system.service.leftEscCallback system.registers state micros }
  | .rightEscCallback state micros =>
      some { system with service := system.service.rightEscCallback system.registers state micros }
  | .leftEncoderTick encoderB =>
      some { system with service := { system.service with
        leftEscDriver := system.service.leftEscDriver.handleEncoderTick encoderB } }
  | .rightEncoderTick encoderB =>
      some { system with service := { system.service with
        rightEscDriver := system.service.rightEscDriver.handleEncoderTick encoderB } }

abbrev motion (system : DriveSystem) : Motion := system.service.motion

/-- Microseconds of true time since the last accepted twist, or since boot. -/
def sinceTwist (system : DriveSystem) : Nat :=
  100 * (system.clock - system.lastTwist.getD 0)

theorem step_motion {system next : DriveSystem} {op : DriveOp} (ignored : ¬ op.AcceptsTwist)
    (stepped : system.step op = some next) :
    next.motion =
      match op with
      | .onStart | .onStop => system.motion.clearSpeeds
      | .tick _ _ _ emergency => system.motion.tick (getTimeMicros system.clock) emergency
      | .onEmergencyChangedEvent emergency sending =>
          if emergency then system.motion.clearSpeeds.setDuty sending else system.motion
      | _ => system.motion := by
  cases op with
  | onControlTwistChanged newValue length emergency =>
      cases stepped
      have unequal : length ≠ 6 := ignored
      simp [motion, DiffDriveService.onControlTwistChanged, unequal]
  | leftEncoderTick encoderB =>
      cases stepped
      rfl
  | rightEncoderTick encoderB =>
      cases stepped
      rfl
  | _ =>
      cases stepped
      simp [motion]

theorem step_motion_of_background {system next : DriveSystem} {op : DriveOp}
    (background : op.IsBackground) (stepped : system.step op = some next) :
    next.motion = system.motion := by
  have ignored : ¬ op.AcceptsTwist := by
    cases op with
    | onControlTwistChanged newValue length emergency => exact absurd background id
    | _ => exact id
  have moved := step_motion ignored stepped
  cases op with
  | onStart => exact absurd background id
  | onStop => exact absurd background id
  | tick left right status emergency => exact absurd background id
  | onEmergencyChangedEvent emergency sending => exact absurd background id
  | onControlTwistChanged newValue length emergency => exact absurd background id
  | _ => exact moved

/-- The sample that the service keeps is that of the recorded true time. -/
structure Clocked (system : DriveSystem) : Prop where
  last : system.service.lastDutyReceivedMicros = getTimeMicros (system.lastTwist.getD 0)
  lastLe : system.lastTwist.getD 0 ≤ system.clock

theorem boot_clocked (registers : Registers) : (boot registers).Clocked :=
  ⟨getTimeMicros_zero.symm, Nat.le_refl 0⟩

theorem step_lastTwist {system next : DriveSystem} {op : DriveOp} (ignored : ¬ op.AcceptsTwist)
    (stepped : system.step op = some next) : next.lastTwist = system.lastTwist := by
  cases op with
  | onControlTwistChanged newValue length emergency =>
      cases stepped
      exact if_neg ignored
  | _ =>
      cases stepped
      rfl

theorem step_clock_le {system next : DriveSystem} {op : DriveOp}
    (stepped : system.step op = some next) : system.clock ≤ next.clock := by
  cases op with
  | pass ticks =>
      cases stepped
      exact Nat.le_add_right system.clock ticks
  | _ =>
      cases stepped
      exact Nat.le_refl system.clock

theorem step_clocked (system : DriveSystem) (op : DriveOp) (next : DriveSystem)
    (clocked : system.Clocked) (stepped : system.step op = some next) : next.Clocked := by
  by_cases accepted : op.AcceptsTwist
  · cases op with
    | onControlTwistChanged newValue length emergency =>
        cases stepped
        obtain rfl : length = 6 := accepted
        refine ⟨?_, Nat.le_refl system.clock⟩
        have kept := DiffDriveService.motion_setDutyOnce (system.service.receiveTwist
          system.registers (getTimeMicros system.clock) newValue) emergency
        exact (congrArg Motion.lastDutyReceivedMicros kept).trans
          (Motion.setDutyOnce_lastDutyReceivedMicros _ emergency)
    | _ => exact absurd accepted id
  · have twist := step_lastTwist accepted stepped
    have moved := congrArg Motion.lastDutyReceivedMicros (step_motion accepted stepped)
    refine ⟨?_, twist ▸ clocked.lastLe.trans (step_clock_le stepped)⟩
    rw [twist, ← clocked.last]
    refine Eq.trans moved ?_
    cases op with
    | tick left right status emergency => exact Motion.tick_lastDutyReceivedMicros _ _ _
    | onEmergencyChangedEvent emergency sending => cases emergency <;> rfl
    | _ => rfl

/-- A tick in the window of the watchdog clears the speeds. -/
theorem tick_expires {system next : DriveSystem} {op : DriveOp} (clocked : system.Clocked)
    (isTick : op.IsTick) (stepped : system.step op = some next)
    (overdue : 1000000 < system.sinceTwist) (inRange : system.sinceTwist < 2 ^ 32) :
    next.motion.Expired := by
  cases op with
  | tick left right status emergency =>
      rw [step_motion id stepped]
      have elapsed := toNat_getTimeMicros_sub_of_short clocked.lastLe inRange
      rw [← clocked.last] at elapsed
      have reached :
          1000000 < getTimeMicros system.clock - system.motion.lastDutyReceivedMicros := by
        rw [BitVec.lt_def]
        exact lt_of_lt_of_eq overdue elapsed.symm
      refine ⟨?_, fun sent => absurd sent Bool.false_ne_true⟩
      rw [Motion.tick_still_iff, Motion.expireSpeeds, if_pos reached]
      exact Motion.clearSpeeds_still _
  | _ => exact absurd isTick id

theorem step_expired (system : DriveSystem) (op : DriveOp) (next : DriveSystem)
    (ignored : ¬ op.AcceptsTwist) (expired : system.motion.Expired)
    (stepped : system.step op = some next) : next.motion.Expired := by
  rw [step_motion ignored stepped]
  cases op with
  | onStart => exact ⟨Motion.clearSpeeds_still _, expired.2⟩
  | onStop => exact ⟨Motion.clearSpeeds_still _, expired.2⟩
  | tick left right status emergency =>
      refine ⟨?_, fun sent => absurd sent Bool.false_ne_true⟩
      exact (Motion.tick_still_iff _ _ _).mpr (Motion.expireSpeeds_still expired.1 _)
  | onEmergencyChangedEvent emergency sending =>
      cases emergency with
      | true => exact ⟨⟨rfl, rfl⟩, fun _ => Motion.setDuty_off_of_still ⟨rfl, rfl⟩ sending⟩
      | false => exact expired
  | _ => exact expired

theorem step_expired_off (system : DriveSystem) (op : DriveOp) (next : DriveSystem)
    (ignored : ¬ op.AcceptsTwist) (idle : system.motion.Expired ∧ (op.IsTick ∨ system.motion.Off))
    (stepped : system.step op = some next) : next.motion.Expired ∧ next.motion.Off := by
  refine ⟨step_expired system op next ignored idle.1 stepped, ?_⟩
  obtain ⟨expired, off⟩ := idle
  rw [step_motion ignored stepped]
  cases op with
  | tick left right status emergency => exact Motion.tick_off_of_still expired.1 expired.2 _ _
  | onEmergencyChangedEvent emergency sending =>
      cases emergency with
      | true => exact Motion.setDuty_off_of_still ⟨rfl, rfl⟩ sending
      | false => exact off.resolve_left id
  | _ => exact off.resolve_left id

/-- Without a twist the speeds stay cleared, and the motors are off for good from the
first tick on. -/
theorem run_expired {system final : DriveSystem} {later : List DriveOp}
    (expired : system.motion.Expired) (quiet : ∀ op ∈ later, ¬ op.AcceptsTwist)
    (executed : run step system later = some final) :
    final.motion.Still ∧
      ((∃ op ∈ later, op.IsTick) ∨ system.motion.Off → final.motion.Off) := by
  induction later generalizing system with
  | nil =>
      simp only [run_nil, Option.some.injEq] at executed
      subst executed
      simp [expired.1]
  | cons op rest inductionHypothesis =>
      obtain ⟨next, stepped, remaining⟩ := run_cons_eq_some.mp executed
      obtain ⟨ignored, quietRest⟩ := List.forall_mem_cons.mp quiet
      have nextExpired := step_expired system op next ignored expired stepped
      obtain ⟨still, off⟩ := inductionHypothesis nextExpired quietRest remaining
      refine ⟨still, ?_⟩
      intro cause
      by_cases now : op.IsTick ∨ system.motion.Off
      · exact off (.inr (step_expired_off system op next ignored ⟨expired, now⟩ stepped).2)
      · obtain ⟨notTick, notOff⟩ := not_or.mp now
        rcases cause with ⟨later, membership, isTick⟩ | already
        · rcases List.mem_cons.mp membership with rfl | membership
          · exact absurd isTick notTick
          · exact off (.inl ⟨later, membership, isTick⟩)
        · exact absurd already notOff

theorem run_background {system final : DriveSystem} {between : List DriveOp}
    (background : ∀ op ∈ between, op.IsBackground)
    (executed : run step system between = some final) : final.motion = system.motion :=
  run_invariant_of_labels DriveOp.IsBackground
    (fun _ _ _ isBackground (kept : _ = system.motion) stepped =>
      (step_motion_of_background isBackground stepped).trans kept)
    background rfl executed

theorem step_tick_dutySent {system next : DriveSystem} {op : DriveOp} (isTick : op.IsTick)
    (stepped : system.step op = some next) : next.motion.dutySent = false := by
  cases op with
  | tick left right status emergency =>
      rw [step_motion id stepped]
      exact Motion.tick_dutySent _ _ _
  | _ => exact absurd isTick id

/-- A tick more than a second after the last twist clears the speeds until the next
twist, and the tick after it switches the motors off.  Of two ticks with only
background operations between them, the second commands the current speeds, or zero
in an emergency. -/
theorem command_watchdog {registers : Registers} {history : List DriveOp}
    {system : DriveSystem} (reached : run step (boot registers) history = some system) :
    (∀ op next later final, op.IsTick → system.step op = some next →
      1000000 < system.sinceTwist → system.sinceTwist < 2 ^ 32 →
      (∀ op ∈ later, ¬ op.AcceptsTwist) → run step next later = some final →
      final.motion.Still ∧ ((∃ op ∈ later, op.IsTick) → final.motion.Off)) ∧
    (∀ first between left right status emergency final, first.IsTick →
      (∀ op ∈ between, op.IsBackground) →
      run step system (first :: between ++ [.tick left right status emergency]) = some final →
      final.motion.dutyL = (if emergency then 0 else final.motion.speedL) ∧
        final.motion.dutyR = (if emergency then 0 else final.motion.speedR)) := by
  have clocked : system.Clocked := run_invariant step_clocked (boot_clocked registers) reached
  refine ⟨?_, ?_⟩
  · intro op next later final isTick stepped overdue inRange quiet executed
    have expired := tick_expires clocked isTick stepped overdue inRange
    obtain ⟨still, off⟩ := run_expired expired quiet executed
    exact ⟨still, fun ticked => off (.inl ticked)⟩
  · intro first between left right status emergency final isTick background executed
    obtain ⟨middle, before, stepped⟩ := run_concat_eq_some.mp executed
    obtain ⟨ticked, firstStep, waited⟩ := run_cons_eq_some.mp before
    have notSent : middle.motion.dutySent = false := by
      rw [run_background background waited]
      exact step_tick_dutySent isTick firstStep
    rw [step_motion id stepped]
    exact Motion.tick_sends notSent _ emergency

def abandonedRun : List DriveOp :=
  [.onStart, .onControlTwistChanged (fun index => if index = 0 then 1 else 0) 6 false,
    .pass 20000]

theorem command_watchdog_abandoned :
    ∃ system next final : DriveSystem,
      run step (boot ⟨100, 13 / 50⟩) abandonedRun = some system ∧ system.motion.dutyL = 1 ∧
      system.step (.tick 0 0 0 false) = some next ∧
      run step next [.pass 400, .tick 0 0 0 false] = some final ∧ final.motion.Off := by
  have reached : run step (boot ⟨100, 13 / 50⟩) abandonedRun = some _ := rfl
  refine ⟨_, _, _, reached, by decide +kernel, rfl, rfl, ?_⟩
  refine ((command_watchdog reached).1 (.tick 0 0 0 false) _ [.pass 400, .tick 0 0 0 false] _
    trivial rfl (by decide +kernel) (by decide +kernel) ?_ rfl).2 ?_
  · simp [DriveOp.AcceptsTwist]
  · exact ⟨.tick 0 0 0 false, by simp, trivial⟩

end DriveSystem

end XBotFirmware.DiffDrive
