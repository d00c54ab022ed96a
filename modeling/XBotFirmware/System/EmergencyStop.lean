import XBotFirmware.System.Threads

set_option autoImplicit false

/-!
An emergency stops the motors, whatever the threads do.

While the emergency is on, either the motors are commanded zero or a reaction is
still outstanding: a broadcast, a flag, or a dispatcher that has taken the flag.
A section that has read "no emergency" before it came on may undo the zero, but
then the reaction that belongs to the change is outstanding when it ends.
-/

namespace XBotFirmware.System

open XBotFirmware.Library XBotFirmware.Platform XBotFirmware.Emergency XBotFirmware.DiffDrive

/-- The dispatcher is between taking EMERGENCY_CHANGED and locking the drive, or owes
a broadcast of its own. -/
def Dispatcher.Reacting : Dispatcher → Prop
  | .emergencyEvent _ | .lockWanted _ | .broadcasting => True
  | _ => False

namespace Threads

variable {registers : Registers}

def Outstanding (threads : Threads) : Prop :=
  0 < threads.owedBroadcasts ∨ threads.listener.EmergencyPending ∨ threads.dispatcher.Reacting

/-- An emergency has a reaction outstanding. -/
def Covered (threads : Threads) : Prop :=
  threads.emergency.reasons ≠ 0 → threads.Outstanding

def DutiesCovered (threads : Threads) : Prop :=
  match threads.mutex with
  | none => threads.drive.motion.Off ∨ threads.Covered
  | some (_, .entered) => True
  | some (_, .read emergency) => emergency = true ∨ threads.Covered
  | some (_, .leftSent emergency) =>
      (emergency = true ∧ threads.drive.motion.dutyL = 0) ∨ threads.Covered
  | some (_, .sent) => threads.drive.motion.Off ∨ threads.Covered

structure Invariant (threads : Threads) : Prop where
  owned : ∀ inputs sending, threads.mutex = some (.dispatcher inputs, sending) →
    threads.dispatcher = .inSection inputs
  duties : threads.DutiesCovered

theorem boot_invariant : boot.Invariant := by
  refine ⟨?_, .inl ⟨rfl, rfl⟩⟩
  intro inputs sending owned
  cases owned

theorem getEmergency_eq_false_iff (service : EmergencyService) :
    service.getEmergency = false ↔ service.reasons = 0 := by
  simp [EmergencyService.getEmergency]

/-- A step that touches neither the reasons nor the outstanding reactions. -/
theorem Covered.of_same {threads next : Threads} (covered : threads.Covered)
    (reasons : next.emergency.reasons = threads.emergency.reasons)
    (owed : next.owedBroadcasts = threads.owedBroadcasts)
    (pending : threads.listener.EmergencyPending → next.listener.EmergencyPending)
    (reacting : threads.dispatcher.Reacting → next.dispatcher.Reacting) : next.Covered := by
  intro emergency
  rw [reasons] at emergency
  rcases covered emergency with stillOwed | flagged | dispatching
  · exact .inl (owed ▸ stillOwed)
  · exact .inr (.inl (pending flagged))
  · exact .inr (.inr (reacting dispatching))

theorem covered_of_broadcast (threads : Threads) {next : Threads}
    (listener : next.listener = threads.listener.broadcastFlags emergencyChanged) :
    next.Covered := by
  intro _
  apply Or.inr
  apply Or.inl
  rw [listener]
  exact threads.listener.emergencyPending_broadcast

/-- A step that leaves the section and the duties alone keeps the invariant if it
keeps the cover. -/
theorem Invariant.of_frame {threads next : Threads} (invariant : threads.Invariant)
    (mutex : next.mutex = threads.mutex)
    (inSection : ∀ inputs, threads.dispatcher = .inSection inputs →
      next.dispatcher = .inSection inputs)
    (left : next.drive.motion.dutyL = threads.drive.motion.dutyL)
    (right : next.drive.motion.dutyR = threads.drive.motion.dutyR)
    (covered : threads.Covered → next.Covered) : next.Invariant := by
  constructor
  · intro inputs sending owned
    exact inSection inputs (invariant.owned inputs sending (mutex ▸ owned))
  · have duties := invariant.duties
    unfold DutiesCovered Motion.Off at duties ⊢
    rw [mutex, left, right]
    split at duties
    · exact duties.imp_right covered
    · trivial
    · exact duties.imp_right covered
    · exact duties.imp_right covered
    · exact duties.imp_right covered

section EmergencySteps

variable {threads next : Threads}

theorem Invariant.of_emergency (invariant : threads.Invariant)
    (mutex : next.mutex = threads.mutex) (dispatcher : next.dispatcher = threads.dispatcher)
    (drive : next.drive = threads.drive) (covered : threads.Covered → next.Covered) :
    next.Invariant := by
  apply invariant.of_frame mutex
  · intro inputs inside
    exact dispatcher.trans inside
  · rw [drive]
  · rw [drive]
  · exact covered

theorem Invariant.updateEmergency {add clear : Reasons} (invariant : threads.Invariant)
    (stepped : threads.step registers (.updateEmergency add clear) = some next) :
    next.Invariant := by
  simp only [step] at stepped
  split at stepped
  next =>
    cases stepped
    exact invariant
  next =>
    cases stepped
    refine invariant.of_emergency rfl rfl rfl ?_
    intro _ _
    exact .inl (Nat.succ_pos threads.owedBroadcasts)

theorem Invariant.broadcastEmergency (invariant : threads.Invariant)
    (stepped : threads.step registers .broadcastEmergency = some next) : next.Invariant := by
  simp only [step] at stepped
  split at stepped
  next => cases stepped
  next =>
    cases stepped
    refine invariant.of_emergency rfl rfl rfl ?_
    intro _
    exact covered_of_broadcast threads rfl

theorem Invariant.sendOwedStatus (invariant : threads.Invariant)
    (stepped : threads.step registers .sendOwedStatus = some next) : next.Invariant := by
  simp only [step] at stepped
  split at stepped
  next => cases stepped
  next =>
    cases stepped
    exact invariant.of_emergency rfl rfl rfl id

theorem Invariant.sendStatus (invariant : threads.Invariant)
    (stepped : threads.step registers .sendStatus = some next) : next.Invariant := by
  cases stepped
  exact invariant.of_emergency rfl rfl rfl id

theorem Invariant.broadcastInputs (invariant : threads.Invariant)
    (stepped : threads.step registers .broadcastInputs = some next) : next.Invariant := by
  cases stepped
  refine invariant.of_emergency rfl rfl rfl ?_
  intro covered
  exact covered.of_same rfl rfl (fun pending => pending.broadcastFlags inputsChanged) id

end EmergencySteps

section DispatcherSteps

variable {threads next : Threads}

theorem Invariant.of_dispatcher (invariant : threads.Invariant)
    (mutex : next.mutex = threads.mutex) (drive : next.drive = threads.drive)
    (elsewhere : ∀ inputs, threads.dispatcher ≠ .inSection inputs)
    (covered : threads.Covered → next.Covered) : next.Invariant := by
  apply invariant.of_frame mutex
  · intro inputs inside
    exact absurd inside (elsewhere inputs)
  · rw [drive]
  · rw [drive]
  · exact covered

theorem Invariant.wake (invariant : threads.Invariant)
    (stepped : threads.step registers .wake = some next) : next.Invariant := by
  simp only [step] at stepped
  split at stepped
  next waiting =>
    obtain ⟨listener, woken, rfl⟩ := Option.map_eq_some_iff.mp stepped
    refine invariant.of_dispatcher rfl rfl (by simp [waiting]) ?_
    intro covered
    refine covered.of_same rfl rfl ?_ ?_
    · intro pending
      rw [EventListener.EmergencyPending, EventListener.waitAny_flags woken]
      exact pending
    · intro reacting
      rw [waiting] at reacting
      exact absurd reacting id
  next => cases stepped

/-- Taking the flag makes the dispatcher the one who reacts. -/
theorem Invariant.getFlags (invariant : threads.Invariant)
    (stepped : threads.step registers .getFlags = some next) : next.Invariant := by
  simp only [step] at stepped
  split at stepped
  next woken =>
    cases stepped
    refine invariant.of_dispatcher rfl rfl (by simp [woken]) ?_
    intro covered emergency
    by_cases flagged : threads.listener.getAndClearFlags.2 &&& emergencyChanged ≠ 0
    · apply Or.inr
      apply Or.inr
      simp only [if_pos flagged]
      trivial
    · rcases covered emergency with owed | pending | reacting
      · exact .inl owed
      · exact absurd pending flagged
      · rw [woken] at reacting
        exact absurd reacting id
  next => cases stepped

/-- The dispatcher goes on to react, unless the emergency is over. -/
theorem Invariant.getEmergency (invariant : threads.Invariant)
    (stepped : threads.step registers .getEmergency = some next) : next.Invariant := by
  simp only [step] at stepped
  split at stepped
  next inputs reading =>
    cases stepped
    refine invariant.of_dispatcher rfl rfl (by simp [reading]) ?_
    intro _ emergency
    have on : threads.emergency.getEmergency = true := by
      by_contra off
      exact emergency ((getEmergency_eq_false_iff _).mp (Bool.eq_false_of_not_eq_true off))
    apply Or.inr
    apply Or.inr
    simp only [if_pos on]
    trivial
  next => cases stepped

theorem Invariant.lockForEmergency
    (stepped : threads.step registers .lockForEmergency = some next) : next.Invariant := by
  simp only [step] at stepped
  split at stepped
  next inputs wanted free =>
    cases stepped
    refine ⟨?_, trivial⟩
    intro other sending owned
    simp only [Option.some.injEq, Prod.mk.injEq, Owner.dispatcher.injEq] at owned
    rw [owned.1]
  next => cases stepped

theorem Invariant.checkInputs {collected : Reasons} (invariant : threads.Invariant)
    (stepped : threads.step registers (.checkInputs collected) = some next) :
    next.Invariant := by
  simp only [step] at stepped
  split at stepped
  next checking =>
    cases stepped
    split
    next =>
      refine invariant.of_dispatcher rfl rfl (by simp [checking]) ?_
      intro covered
      refine covered.of_same rfl rfl id ?_
      intro reacting
      rw [checking] at reacting
      exact absurd reacting id
    next =>
      refine invariant.of_dispatcher rfl rfl (by simp [checking]) ?_
      intro _ _
      exact .inr (.inr trivial)
  next => cases stepped

theorem Invariant.broadcastChecked (invariant : threads.Invariant)
    (stepped : threads.step registers .broadcastChecked = some next) : next.Invariant := by
  simp only [step] at stepped
  split at stepped
  next broadcasting =>
    cases stepped
    refine invariant.of_dispatcher rfl rfl (by simp [broadcasting]) ?_
    intro _
    exact covered_of_broadcast threads rfl
  next => cases stepped

theorem Invariant.sendCheckedStatus (invariant : threads.Invariant)
    (stepped : threads.step registers .sendCheckedStatus = some next) : next.Invariant := by
  simp only [step] at stepped
  split at stepped
  next sending =>
    cases stepped
    refine invariant.of_dispatcher rfl rfl (by simp [sending]) ?_
    intro covered
    refine covered.of_same rfl rfl id ?_
    intro reacting
    rw [sending] at reacting
    exact absurd reacting id
  next => cases stepped

end DispatcherSteps

section DriveSteps

variable {threads next : Threads}

theorem Invariant.of_drive (invariant : threads.Invariant) {drive : DiffDriveService}
    (left : drive.motion.dutyL = threads.drive.motion.dutyL)
    (right : drive.motion.dutyR = threads.drive.motion.dutyR) :
    ({ threads with drive := drive } : Threads).Invariant :=
  invariant.of_frame rfl (fun _ => id) left right id

/-- A thread that takes the free mutex sends a duty or leaves the old one. -/
theorem Invariant.enter (invariant : threads.Invariant) {owner : Owner}
    (outside : ∀ inputs, owner ≠ .dispatcher inputs) (prepared : DiffDriveService)
    {finished : DiffDriveService}
    (left : finished.motion.dutyL = threads.drive.motion.dutyL)
    (right : finished.motion.dutyR = threads.drive.motion.dutyR) :
    (threads.enter owner prepared finished).Invariant := by
  unfold Threads.enter
  split
  next => exact invariant.of_drive left right
  next =>
    refine ⟨?_, trivial⟩
    intro inputs sending owned
    simp only [Option.some.injEq, Prod.mk.injEq] at owned
    exact absurd owned.1 (outside inputs)

theorem Invariant.leave {owner : Owner} (invariant : threads.Invariant)
    (sent : threads.mutex = some (owner, .sent)) : (threads.leave registers owner).Invariant := by
  have duties := invariant.duties
  unfold DutiesCovered at duties
  rw [sent] at duties
  have unowned : ∀ next : Threads, next.mutex = none → ∀ inputs sending,
      next.mutex = some (.dispatcher inputs, sending) → next.dispatcher = .inSection inputs := by
    intro next free inputs sending owned
    rw [free] at owned
    cases owned
  cases owner with
  | tick times =>
      refine ⟨unowned _ rfl, duties.imp_left ?_⟩
      intro off
      simpa [Threads.leave, Motion.Off] using off
  | twist =>
      exact ⟨unowned _ rfl, duties⟩
  | dispatcher inputs =>
      refine ⟨unowned _ rfl, duties.imp_right fun covered => covered.of_same rfl rfl id ?_⟩
      intro reacting
      rw [invariant.owned inputs .sent sent] at reacting
      exact absurd reacting id

theorem Invariant.lockTick {times : TickTimes} (invariant : threads.Invariant)
    (stepped : threads.step registers (.lockTick times) = some next) : next.Invariant := by
  simp only [step] at stepped
  split at stepped
  next =>
    cases stepped
    have expired := DiffDriveService.motion_expireSpeeds threads.drive times.duty
    apply invariant.enter (by simp)
    · rw [DiffDriveService.motion_finishTick, expired]
      exact Motion.expireSpeeds_dutyL threads.drive.motion times.duty
    · rw [DiffDriveService.motion_finishTick, expired]
      exact Motion.expireSpeeds_dutyR threads.drive.motion times.duty
  next => cases stepped

theorem Invariant.lockTwist {now : Micros} {newValue : Nat → ℚ} {length : Nat}
    (invariant : threads.Invariant)
    (stepped : threads.step registers (.lockTwist now newValue length) = some next) :
    next.Invariant := by
  simp only [step] at stepped
  split at stepped
  next =>
    cases stepped
    exact invariant
  next =>
    split at stepped
    next =>
      cases stepped
      exact invariant.enter (by simp) _ rfl rfl
    next => cases stepped

/-- A read of "no emergency" finds no reason, so nothing needs a reaction yet. -/
theorem Invariant.readEmergency (invariant : threads.Invariant)
    (stepped : threads.step registers .readEmergency = some next) : next.Invariant := by
  simp only [step] at stepped
  split at stepped
  next owner entered =>
    cases stepped
    constructor
    · intro inputs sending owned
      simp only [Option.some.injEq, Prod.mk.injEq] at owned
      exact invariant.owned inputs .entered (owned.1 ▸ entered)
    · by_cases on : threads.emergency.getEmergency = true
      · exact .inl on
      · have absent := (getEmergency_eq_false_iff _).mp (Bool.eq_false_of_not_eq_true on)
        exact .inr fun emergency => absurd absent emergency
  next => cases stepped

theorem Invariant.commandLeft (invariant : threads.Invariant)
    (stepped : threads.step registers .commandLeft = some next) : next.Invariant := by
  have duties := invariant.duties
  unfold DutiesCovered at duties
  simp only [step] at stepped
  split at stepped
  next owner emergency read =>
    rw [read] at duties
    cases stepped
    constructor
    · intro inputs sending owned
      simp only [Option.some.injEq, Prod.mk.injEq] at owned
      exact invariant.owned inputs _ (owned.1 ▸ read)
    · apply duties.imp
      · intro on
        refine ⟨on, ?_⟩
        simp [DiffDriveService.motion, DiffDriveService.commandLeft, on]
      · exact id
  next => cases stepped

theorem Invariant.commandRight (invariant : threads.Invariant)
    (stepped : threads.step registers .commandRight = some next) : next.Invariant := by
  have duties := invariant.duties
  unfold DutiesCovered at duties
  simp only [step] at stepped
  split at stepped
  next owner emergency left =>
    rw [left] at duties
    cases stepped
    constructor
    · intro inputs sending owned
      simp only [Option.some.injEq, Prod.mk.injEq] at owned
      exact invariant.owned inputs _ (owned.1 ▸ left)
    · apply duties.imp
      · rintro ⟨on, leftOff⟩
        refine ⟨leftOff, ?_⟩
        simp [DiffDriveService.motion, DiffDriveService.commandRight, DiffDriveService.markSent, on]
      · exact id
  next => cases stepped

theorem Invariant.unlock (invariant : threads.Invariant)
    (stepped : threads.step registers .unlock = some next) : next.Invariant := by
  simp only [step] at stepped
  split at stepped
  next owner sent =>
    cases stepped
    exact invariant.leave sent
  next => cases stepped

theorem Invariant.onStart (invariant : threads.Invariant)
    (stepped : threads.step registers .onStart = some next) : next.Invariant := by
  simp only [step] at stepped
  split at stepped
  next => cases stepped
  next =>
    cases stepped
    exact invariant.of_drive rfl rfl

theorem Invariant.onStop (invariant : threads.Invariant)
    (stepped : threads.step registers .onStop = some next) : next.Invariant := by
  simp only [step] at stepped
  split at stepped
  next => cases stepped
  next =>
    cases stepped
    exact invariant.of_drive rfl rfl

theorem Invariant.leftEscCallback {state : EscState} {micros : Micros}
    (invariant : threads.Invariant)
    (stepped : threads.step registers (.leftEscCallback state micros) = some next) :
    next.Invariant := by
  simp only [step] at stepped
  split at stepped
  next =>
    cases stepped
    exact invariant.of_drive (by simp) (by simp)
  next => cases stepped

theorem Invariant.rightEscCallback {state : EscState} {micros : Micros}
    (invariant : threads.Invariant)
    (stepped : threads.step registers (.rightEscCallback state micros) = some next) :
    next.Invariant := by
  simp only [step] at stepped
  split at stepped
  next =>
    cases stepped
    exact invariant.of_drive (by simp) (by simp)
  next => cases stepped

end DriveSteps

theorem step_invariant (threads : Threads) (label : Step) (next : Threads)
    (invariant : threads.Invariant) (stepped : threads.step registers label = some next) :
    next.Invariant := by
  cases label with
  | updateEmergency add clear => exact invariant.updateEmergency stepped
  | broadcastEmergency => exact invariant.broadcastEmergency stepped
  | sendOwedStatus => exact invariant.sendOwedStatus stepped
  | sendStatus => exact invariant.sendStatus stepped
  | broadcastInputs => exact invariant.broadcastInputs stepped
  | wake => exact invariant.wake stepped
  | getFlags => exact invariant.getFlags stepped
  | getEmergency => exact invariant.getEmergency stepped
  | lockForEmergency => exact Invariant.lockForEmergency stepped
  | checkInputs collected => exact invariant.checkInputs stepped
  | broadcastChecked => exact invariant.broadcastChecked stepped
  | sendCheckedStatus => exact invariant.sendCheckedStatus stepped
  | lockTick times => exact invariant.lockTick stepped
  | lockTwist now newValue length => exact invariant.lockTwist stepped
  | readEmergency => exact invariant.readEmergency stepped
  | commandLeft => exact invariant.commandLeft stepped
  | commandRight => exact invariant.commandRight stepped
  | unlock => exact invariant.unlock stepped
  | onStart => exact invariant.onStart stepped
  | onStop => exact invariant.onStop stepped
  | leftEscCallback state micros => exact invariant.leftEscCallback stepped
  | rightEscCallback state micros => exact invariant.rightEscCallback stepped

/-- With the emergency on and nothing left to react to, the drive is off. -/
theorem off_of_settled {threads : Threads} (reached : Reachable (step registers) boot threads)
    (emergency : threads.emergency.reasons ≠ 0) (noneOwed : threads.owedBroadcasts = 0)
    (notPending : ¬ threads.listener.EmergencyPending)
    (idle : threads.dispatcher = .waiting) (free : threads.mutex = none) :
    threads.drive.motion.Off := by
  have duties := (reached.invariant boot_invariant step_invariant).duties
  unfold DutiesCovered at duties
  rw [free] at duties
  rcases duties with off | covered
  · exact off
  · rcases covered emergency with owed | pending | reacting
    · rw [noneOwed] at owed
      exact absurd owed (Nat.lt_irrefl 0)
    · exact absurd pending notPending
    · rw [idle] at reacting
      exact absurd reacting id

variable (registers) in
/-- Whenever the emergency is on and nothing is left to react to, both motors are
commanded zero. -/
theorem emergency_stops_motors {threads : Threads}
    (reached : Reachable (step registers) boot threads)
    (emergency : threads.emergency.reasons ≠ 0) (noneOwed : threads.owedBroadcasts = 0)
    (notPending : ¬ threads.listener.EmergencyPending)
    (idle : threads.dispatcher = .waiting) (free : threads.mutex = none) :
    threads.drive.leftEscDriver.duty = 0 ∧ threads.drive.rightEscDriver.duty = 0 :=
  off_of_settled reached emergency noneOwed notPending idle free

/-- The reasons are cleared, a twist starts to send full speed, and a stop comes
between its read of the emergency and its commands. -/
def lateStop : List Step :=
  [.updateEmergency 0 (BitVec.allOnes 16), .broadcastEmergency, .sendOwedStatus,
    .wake, .getFlags, .getEmergency,
    .lockTwist 7 (fun index => if index = 0 then 1 else 0) 6, .readEmergency,
    .updateEmergency EmergencyReason.stop.mask 0, .broadcastEmergency, .wake, .getFlags,
    .getEmergency, .commandLeft, .commandRight, .unlock]

/-- The motors still run when the twist is done, and nothing is left to react to when the
dispatcher is. -/
theorem lateStop_settles :
    ∃ driving threads : Threads,
      run (step ⟨100, 13 / 50⟩) boot lateStop = some driving ∧
      driving.drive.leftEscDriver.duty = 1 ∧
      run (step ⟨100, 13 / 50⟩) driving
        [.lockForEmergency, .readEmergency, .commandLeft, .commandRight, .unlock] =
          some threads ∧
      Reachable (step ⟨100, 13 / 50⟩) boot threads ∧
      threads.emergency.reasons ≠ 0 ∧ threads.owedBroadcasts = 0 ∧
      ¬ threads.listener.EmergencyPending ∧ threads.dispatcher = .waiting ∧
      threads.mutex = none := by
  have evaluated : (run (step ⟨100, 13 / 50⟩) boot lateStop).map (fun driving =>
      (driving.drive.leftEscDriver.duty,
        (run (step ⟨100, 13 / 50⟩) driving
          [.lockForEmergency, .readEmergency, .commandLeft, .commandRight, .unlock]).map
            fun threads => decide (threads.emergency.reasons ≠ 0 ∧ threads.owedBroadcasts = 0 ∧
              ¬ threads.listener.EmergencyPending ∧ threads.dispatcher = .waiting ∧
              threads.mutex = none))) = some (1, some true) := by
    decide +kernel
  obtain ⟨driving, executed, values⟩ := Option.map_eq_some_iff.mp evaluated
  simp only [Prod.mk.injEq] at values
  obtain ⟨duty, finishing⟩ := values
  obtain ⟨threads, finished, settled⟩ := Option.map_eq_some_iff.mp finishing
  exact ⟨driving, threads, executed, duty, finished,
    ⟨_, run_append_eq_some.mpr ⟨driving, executed, finished⟩⟩, of_decide_eq_true settled⟩

theorem emergency_stops_motors_late :
    ∃ driving threads : Threads,
      run (step ⟨100, 13 / 50⟩) boot lateStop = some driving ∧
      driving.drive.leftEscDriver.duty = 1 ∧
      run (step ⟨100, 13 / 50⟩) driving
        [.lockForEmergency, .readEmergency, .commandLeft, .commandRight, .unlock] =
          some threads ∧
      threads.drive.leftEscDriver.duty = 0 ∧ threads.drive.rightEscDriver.duty = 0 := by
  obtain ⟨driving, threads, executed, duty, finished, reached, emergency, noneOwed, notPending,
    idle, free⟩ := lateStop_settles
  exact ⟨driving, threads, executed, duty, finished,
    emergency_stops_motors ⟨100, 13 / 50⟩ reached emergency noneOwed notPending idle free⟩

variable (registers) in
/-- And then the PWM channels of both motors are off, forwards and backwards. -/
theorem emergency_switches_channels_off {threads : Threads}
    (reached : Reachable (step registers) boot threads)
    (emergency : threads.emergency.reasons ≠ 0) (noneOwed : threads.owedBroadcasts = 0)
    (notPending : ¬ threads.listener.EmergencyPending)
    (idle : threads.dispatcher = .waiting) (free : threads.mutex = none) :
    (threads.drive.leftEscDriver.channel1 = 0 ∧ threads.drive.leftEscDriver.channel2 = 0) ∧
      threads.drive.rightEscDriver.channel1 = 0 ∧ threads.drive.rightEscDriver.channel2 = 0 :=
  DiffDriveService.channels_of_off
    (off_of_settled reached emergency noneOwed notPending idle free)

theorem emergency_switches_channels_off_late :
    ∃ driving threads : Threads,
      run (step ⟨100, 13 / 50⟩) boot lateStop = some driving ∧
      run (step ⟨100, 13 / 50⟩) driving
        [.lockForEmergency, .readEmergency, .commandLeft, .commandRight, .unlock] =
          some threads ∧
      (threads.drive.leftEscDriver.channel1 = 0 ∧ threads.drive.leftEscDriver.channel2 = 0) ∧
      threads.drive.rightEscDriver.channel1 = 0 ∧ threads.drive.rightEscDriver.channel2 = 0 := by
  obtain ⟨driving, threads, executed, _, finished, reached, emergency, noneOwed, notPending,
    idle, free⟩ := lateStop_settles
  exact ⟨driving, threads, executed, finished, emergency_switches_channels_off ⟨100, 13 / 50⟩
    reached emergency noneOwed notPending idle free⟩

end Threads

end XBotFirmware.System
