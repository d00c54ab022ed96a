import XBotFirmware.System.Threads

set_option autoImplicit false

/-!
What the motors are commanded, in every interleaving of the threads.

`SetDuty` commands one wheel after the other.  The pair of commands that stands between two
sections of `state_mutex_` is still one pair: both zero, or the speeds of one twist.
-/

namespace XBotFirmware.System

open XBotFirmware.Library XBotFirmware.Platform XBotFirmware.DiffDrive

def twistSpeeds (registers : Registers) (newValue : Nat → ℚ) : ℚ × ℚ :=
  (DiffDriveService.clampSpeed
      (newValue 0 - 1 / 2 * registers.wheelDistance * newValue 5),
    DiffDriveService.clampSpeed
      (-(newValue 0 + 1 / 2 * registers.wheelDistance * newValue 5)))

namespace Threads

variable {registers : Registers}

/-- What the mutex says about the pair of duties. -/
def DutiesPaired (pair : ℚ × ℚ → Prop) (threads : Threads) : Prop :=
  match threads.mutex with
  | some (_, .leftSent emergency) =>
      threads.drive.motion.dutyL = if emergency then 0 else threads.drive.motion.speedL
  | _ => pair (threads.drive.motion.dutyL, threads.drive.motion.dutyR)

/-- The wanted speeds and, outside a half sent command, the duties are pairs of a kind. -/
structure Paired (pair : ℚ × ℚ → Prop) (threads : Threads) : Prop where
  speeds : pair (threads.drive.motion.speedL, threads.drive.motion.speedR)
  duties : DutiesPaired pair threads
  /-- The main thread takes the mutex to stop the drive. -/
  stopping : ∀ inputs sending, threads.mutex = some (.dispatcher inputs, sending) →
    threads.drive.motion.Still

section Steps

variable {pair : ℚ × ℚ → Prop} {threads next : Threads}

theorem Paired.of_same (paired : threads.Paired pair) (drive : next.drive = threads.drive)
    (mutex : next.mutex = threads.mutex) : next.Paired pair := by
  obtain ⟨speeds, duties, stopping⟩ := paired
  refine ⟨by rwa [drive], ?_, ?_⟩
  · unfold DutiesPaired at duties ⊢
    rwa [mutex, drive]
  · rw [mutex, drive]
    exact stopping

theorem Paired.of_free (paired : threads.Paired pair) (free : threads.mutex = none)
    {drive : DiffDriveService} (speeds : pair (drive.motion.speedL, drive.motion.speedR))
    (left : drive.motion.dutyL = threads.drive.motion.dutyL)
    (right : drive.motion.dutyR = threads.drive.motion.dutyR)
    (sameDrive : next.drive = drive) (sameMutex : next.mutex = none ∨
      ∃ owner, next.mutex = some (owner, .entered) ∧
        ∀ inputs, owner = .dispatcher inputs → drive.motion.Still) : next.Paired pair := by
  have duties := paired.duties
  unfold DutiesPaired at duties
  rw [free] at duties
  have whole : pair (next.drive.motion.dutyL, next.drive.motion.dutyR) := by
    rw [sameDrive, left, right]
    exact duties
  obtain mutex | ⟨owner, mutex, stopping⟩ := sameMutex
  · refine ⟨by rwa [sameDrive], ?_, by simp [mutex]⟩
    unfold DutiesPaired
    rwa [mutex]
  · refine ⟨by rwa [sameDrive], ?_, ?_⟩
    · unfold DutiesPaired
      rwa [mutex]
    · intro inputs sending held
      rw [mutex, Option.some.injEq, Prod.mk.injEq] at held
      rw [sameDrive]
      exact stopping inputs held.1

theorem Paired.enter (paired : threads.Paired pair) (free : threads.mutex = none) {owner : Owner}
    (outside : ∀ inputs, owner ≠ .dispatcher inputs) {prepared finished : DiffDriveService}
    (speeds : pair (prepared.motion.speedL, prepared.motion.speedR))
    (left : prepared.motion.dutyL = threads.drive.motion.dutyL)
    (right : prepared.motion.dutyR = threads.drive.motion.dutyR)
    (finishes : finished.motion.speedL = prepared.motion.speedL ∧
      finished.motion.speedR = prepared.motion.speedR ∧
      finished.motion.dutyL = prepared.motion.dutyL ∧
      finished.motion.dutyR = prepared.motion.dutyR) :
    (threads.enter owner prepared finished).Paired pair := by
  obtain ⟨sameL, sameR, sameDutyL, sameDutyR⟩ := finishes
  unfold Threads.enter
  split
  · exact paired.of_free free (by rwa [sameL, sameR]) (sameDutyL.trans left)
      (sameDutyR.trans right) rfl (.inl free)
  · exact paired.of_free free speeds left right rfl
      (.inr ⟨owner, rfl, fun inputs same => absurd same (outside inputs)⟩)

theorem Paired.leave (paired : threads.Paired pair) {owner : Owner}
    (sent : threads.mutex = some (owner, .sent)) :
    (threads.leave registers owner).Paired pair := by
  have speeds := paired.speeds
  have duties := paired.duties
  unfold DutiesPaired at duties
  rw [sent] at duties
  cases owner with
  | tick times =>
      refine ⟨?_, ?_, by simp [Threads.leave]⟩
      · simpa [Threads.leave] using speeds
      · simpa [Threads.leave, DutiesPaired] using duties
  | twist => exact ⟨speeds, duties, by simp [Threads.leave]⟩
  | dispatcher inputs => exact ⟨speeds, duties, by simp [Threads.leave]⟩

theorem Paired.cleared (paired : threads.Paired pair) (zero : pair (0, 0))
    (idle : threads.driveBusy = false) {drive : DiffDriveService}
    (clears : drive.motion = threads.drive.motion.clearSpeeds) :
    ({ threads with drive := drive } : Threads).Paired pair := by
  obtain ⟨speeds, duties, stopping⟩ := paired
  refine ⟨?_, ?_, ?_⟩
  · simpa [clears, Motion.clearSpeeds] using zero
  · unfold DutiesPaired at duties ⊢
    cases mutex : threads.mutex with
    | none =>
        rw [mutex] at duties
        simpa [mutex, clears, Motion.clearSpeeds] using duties
    | some held =>
        obtain ⟨owner, sending⟩ := held
        cases owner with
        | tick times => simp [driveBusy, mutex] at idle
        | twist => simp [driveBusy, mutex] at idle
        | dispatcher inputs =>
            have still := stopping inputs sending mutex
            rw [mutex] at duties
            cases sending with
            | leftSent emergency => simpa [mutex, clears, Motion.clearSpeeds, still.1] using duties
            | entered => simpa [mutex, clears, Motion.clearSpeeds] using duties
            | read emergency => simpa [mutex, clears, Motion.clearSpeeds] using duties
            | sent => simpa [mutex, clears, Motion.clearSpeeds] using duties
  · intro inputs sending held
    rw [clears]
    exact Motion.clearSpeeds_still _

theorem Paired.of_section (paired : threads.Paired pair) {owner : Owner} {sending after : Sending}
    (held : threads.mutex = some (owner, sending)) {drive : DiffDriveService}
    (sameL : drive.motion.speedL = threads.drive.motion.speedL)
    (sameR : drive.motion.speedR = threads.drive.motion.speedR)
    (duties : DutiesPaired pair { threads with drive := drive, mutex := some (owner, after) }) :
    ({ threads with drive := drive, mutex := some (owner, after) } : Threads).Paired pair := by
  refine ⟨?_, duties, ?_⟩
  · rw [sameL, sameR]
    exact paired.speeds
  · intro inputs sending' owned
    simp only [Option.some.injEq, Prod.mk.injEq] at owned
    obtain ⟨rfl, -⟩ := owned
    have still := paired.stopping inputs sending held
    exact ⟨sameL.trans still.1, sameR.trans still.2⟩

theorem Paired.readEmergency (paired : threads.Paired pair)
    (stepped : threads.step registers .readEmergency = some next) : next.Paired pair := by
  have duties := paired.duties
  unfold DutiesPaired at duties
  simp only [step] at stepped
  split at stepped
  next owner held =>
    rw [held] at duties
    rw [← Option.some.inj stepped]
    exact paired.of_section held rfl rfl duties
  next => exact absurd stepped (by simp)

theorem Paired.commandLeft (paired : threads.Paired pair)
    (stepped : threads.step registers .commandLeft = some next) : next.Paired pair := by
  simp only [step] at stepped
  split at stepped
  next owner emergency held =>
    rw [← Option.some.inj stepped]
    refine paired.of_section held ?_ ?_ ?_
    · rfl
    · rfl
    · simp [DutiesPaired, DiffDriveService.commandLeft, DiffDriveService.motion]
  next => exact absurd stepped (by simp)

/-- The second command of a section makes the pair whole. -/
theorem Paired.commandRight (paired : threads.Paired pair) (zero : pair (0, 0))
    (stepped : threads.step registers .commandRight = some next) : next.Paired pair := by
  have speeds := paired.speeds
  have duties := paired.duties
  unfold DutiesPaired at duties
  simp only [step] at stepped
  split at stepped
  next owner emergency held =>
    rw [held] at duties
    have left : threads.drive.leftEscDriver.duty =
        if emergency then 0 else threads.drive.speedL := duties
    rw [← Option.some.inj stepped]
    refine paired.of_section held ?_ ?_ ?_
    · rfl
    · rfl
    · cases emergency with
      | false =>
          simpa [DutiesPaired, DiffDriveService.commandRight, DiffDriveService.markSent,
            DiffDriveService.motion, left] using speeds
      | true =>
          simpa [DutiesPaired, DiffDriveService.commandRight, DiffDriveService.markSent,
            DiffDriveService.motion, left] using zero
  next => exact absurd stepped (by simp)

theorem Paired.lockForEmergency (paired : threads.Paired pair) (zero : pair (0, 0))
    (stepped : threads.step registers .lockForEmergency = some next) : next.Paired pair := by
  simp only [step] at stepped
  split at stepped
  next inputs _ free =>
    rw [← Option.some.inj stepped]
    have still : threads.drive.clearSpeeds.motion.Still :=
      Motion.clearSpeeds_still threads.drive.motion
    refine @Paired.of_free _ _ _ paired free threads.drive.clearSpeeds zero rfl rfl rfl ?_
    exact .inr ⟨.dispatcher inputs, rfl, fun _ _ => still⟩
  next => exact absurd stepped (by simp)

theorem Paired.lockTick (paired : threads.Paired pair) (zero : pair (0, 0)) {times : TickTimes}
    (stepped : threads.step registers (.lockTick times) = some next) : next.Paired pair := by
  simp only [step] at stepped
  split at stepped
  next free =>
    rw [← Option.some.inj stepped]
    have expired : pair ((threads.drive.expireSpeeds times.duty).motion.speedL,
        (threads.drive.expireSpeeds times.duty).motion.speedR) := by
      rw [DiffDriveService.motion_expireSpeeds]
      unfold Motion.expireSpeeds
      split
      · exact zero
      · exact paired.speeds
    exact paired.enter free (by simp) expired (by simp) (by simp) (by simp)
  next => exact absurd stepped (by simp)

theorem Paired.lockTwist (paired : threads.Paired pair) {now : Micros} {newValue : Nat → ℚ}
    {length : Nat} (twist : length = 6 → pair (twistSpeeds registers newValue))
    (stepped : threads.step registers (.lockTwist now newValue length) = some next) :
    next.Paired pair := by
  simp only [step] at stepped
  split at stepped
  next => exact Option.some.inj stepped ▸ paired
  next complete =>
    split at stepped
    next free =>
      rw [← Option.some.inj stepped]
      exact paired.enter free (by simp) (twist (not_not.mp complete)) rfl rfl ⟨rfl, rfl, rfl, rfl⟩
    next => exact absurd stepped (by simp)

theorem Paired.escCallback (paired : threads.Paired pair) (free : threads.mutex = none)
    {drive : DiffDriveService} (same : drive.motion = threads.drive.motion) :
    ({ threads with drive := drive } : Threads).Paired pair :=
  paired.of_free free (by rw [same]; exact paired.speeds) (by rw [same]) (by rw [same]) rfl
    (.inl free)

/-- The steps that neither take the mutex nor touch the drive. -/
def Step.elsewhere : Step → Bool
  | .updateEmergency .. | .broadcastEmergency | .sendOwedStatus | .sendStatus | .broadcastInputs
  | .wake | .getFlags | .getEmergency | .checkInputs .. | .broadcastChecked
  | .sendCheckedStatus => true
  | _ => false

theorem step_elsewhere {label : Step} (elsewhere : Step.elsewhere label = true)
    (stepped : threads.step registers label = some next) :
    next.drive = threads.drive ∧ next.mutex = threads.mutex := by
  cases label with
  | updateEmergency add clear | broadcastEmergency | sendOwedStatus | sendStatus | broadcastInputs
  | getFlags | getEmergency | checkInputs collected | broadcastChecked | sendCheckedStatus =>
      simp only [step] at stepped
      grind [Threads.broadcast]
  | wake =>
      simp only [step, Option.ite_none_right_eq_some, Option.map_eq_some_iff] at stepped
      obtain ⟨-, listener, -, rfl⟩ := stepped
      exact ⟨rfl, rfl⟩
  | _ => exact absurd elsewhere Bool.false_ne_true

theorem step_paired {label : Step} (zero : pair (0, 0))
    (twist : ∀ now newValue, label = .lockTwist now newValue 6 →
      pair (twistSpeeds registers newValue))
    (paired : threads.Paired pair) (stepped : threads.step registers label = some next) :
    next.Paired pair := by
  cases elsewhere : Step.elsewhere label with
  | true =>
      obtain ⟨drive, mutex⟩ := step_elsewhere elsewhere stepped
      exact paired.of_same drive mutex
  | false =>
      cases label with
      | lockForEmergency => exact paired.lockForEmergency zero stepped
      | lockTick times => exact paired.lockTick zero stepped
      | lockTwist now newValue length =>
          exact paired.lockTwist (fun six => twist now newValue (six ▸ rfl)) stepped
      | readEmergency => exact paired.readEmergency stepped
      | commandLeft => exact paired.commandLeft stepped
      | commandRight => exact paired.commandRight zero stepped
      | unlock =>
          simp only [step] at stepped
          split at stepped
          next owner sent =>
            rw [← Option.some.inj stepped]
            exact paired.leave sent
          next => exact absurd stepped (by simp)
      | onStart | onStop =>
          simp only [step] at stepped
          split at stepped
          next => exact absurd stepped (by simp)
          next idle =>
            rw [← Option.some.inj stepped]
            exact paired.cleared zero (by simpa using idle) rfl
      | leftEscCallback state micros | rightEscCallback state micros =>
          simp only [step] at stepped
          split at stepped
          next free =>
            rw [← Option.some.inj stepped]
            exact paired.escCallback free (by simp)
          next => exact absurd stepped (by simp)
      | _ => exact absurd elsewhere Bool.noConfusion

end Steps

theorem boot_paired {pair : ℚ × ℚ → Prop} (zero : pair (0, 0)) : boot.Paired pair :=
  ⟨zero, zero, by simp [boot]⟩

theorem run_paired {pair : ℚ × ℚ → Prop} {labels : List Step} {threads : Threads}
    (zero : pair (0, 0))
    (twists : ∀ now newValue, Step.lockTwist now newValue 6 ∈ labels →
      pair (twistSpeeds registers newValue))
    (executed : run (step registers) boot labels = some threads) : threads.Paired pair := by
  apply run_invariant_of_labels (fun label => label ∈ labels) _ (fun _ inside => inside)
    (boot_paired zero) executed
  intro state label next inside paired stepped
  refine step_paired zero ?_ paired stepped
  rintro now newValue rfl
  exact twists now newValue inside

/-- Whenever no thread is in a section of the drive, the duties of the two wheels belong
together: both are zero, or they are the speeds of one twist that has been received. -/
theorem wheels_follow_one_twist {labels : List Step} {threads : Threads}
    (executed : run (step registers) boot labels = some threads) (free : threads.mutex = none) :
    threads.drive.motion.Off ∨ ∃ now newValue, Step.lockTwist now newValue 6 ∈ labels ∧
      (threads.drive.motion.dutyL, threads.drive.motion.dutyR) =
        twistSpeeds registers newValue := by
  have paired := @run_paired registers (fun speeds => speeds = (0, 0) ∨
    ∃ now newValue, Step.lockTwist now newValue 6 ∈ labels ∧
      speeds = twistSpeeds registers newValue) labels threads (.inl rfl)
    (fun now newValue inside => .inr ⟨now, newValue, inside, rfl⟩) executed
  have duties := paired.duties
  unfold DutiesPaired at duties
  rw [free] at duties
  obtain zero | twist := duties
  · exact .inl (Prod.mk.inj zero)
  · exact .inr twist

def straightOn (value : ℚ) (index : Nat) : ℚ := if index = 0 then value else 0

def drivingOff : List Step :=
  [.updateEmergency 0 0xFFFF, .lockTwist 5 (straightOn (1 / 2)) 6, .readEmergency, .commandLeft,
    .broadcastEmergency, .commandRight, .unlock]

theorem wheels_follow_one_twist_drivingOff :
    ∃ threads, run (step ⟨100, 1⟩) boot drivingOff = some threads ∧
      threads.mutex = none ∧ threads.drive.motion.dutyL = 1 / 2 ∧
      ∃ now newValue, Step.lockTwist now newValue 6 ∈ drivingOff ∧
        (threads.drive.motion.dutyL, threads.drive.motion.dutyR) =
          twistSpeeds ⟨100, 1⟩ newValue := by
  have reached : (run (step ⟨100, 1⟩) boot drivingOff).map
      (fun threads => (threads.mutex, threads.drive.motion.dutyL)) = some (none, 1 / 2) := by
    decide +kernel
  obtain ⟨threads, executed, facts⟩ := Option.map_eq_some_iff.mp reached
  obtain ⟨free, moving⟩ := Prod.mk.inj facts
  obtain off | twist := wheels_follow_one_twist executed free
  · rw [off.1] at moving
    exact absurd moving (by norm_num)
  · exact ⟨threads, executed, free, moving, twist⟩

end Threads

end XBotFirmware.System
