import XBotFirmware.Platform.Events
import XBotFirmware.Emergency.Service
import XBotFirmware.DiffDrive.Motion

set_option autoImplicit false

/-!
The emergency service, the drive and the dispatcher of the main thread
(`DispatchEvents` in `src/main.cpp`) as threads.

A step is one access to shared state.  `UpdateEmergency` is a locked change, a
broadcast and a status message; `SetDuty` is a read of the emergency and two
commands, all of them under `state_mutex_`.  The main thread has registered its
listener.
-/

namespace XBotFirmware.System

open XBotFirmware.Library XBotFirmware.Platform XBotFirmware.Emergency XBotFirmware.DiffDrive

/-- Where the main thread is in an iteration of `DispatchEvents`: in `chEvtWaitAnyTimeout`,
before `chEvtGetAndClearFlags`, in `OnEmergencyChangedEvent` before its `GetEmergency`,
before `chMtxLock` or with the mutex, and in `CheckInputs` before the locked change, the
broadcast or the message of its `UpdateEmergency`.  The argument says whether it still has
to handle INPUTS_CHANGED. -/
inductive Dispatcher where
  | waiting
  | woken
  | emergencyEvent (inputs : Bool)
  | lockWanted (inputs : Bool)
  | inSection (inputs : Bool)
  | checkingInputs
  | broadcasting
  | sendingStatus
  deriving DecidableEq, Repr

def Dispatcher.afterEmergency (inputs : Bool) : Dispatcher :=
  if inputs then .checkingInputs else .waiting

/-- Who holds `state_mutex_` of the drive in order to send a duty. -/
inductive Owner where
  | tick (times : TickTimes)
  | twist
  | dispatcher (inputs : Bool)
  deriving DecidableEq, Repr

/-- How far the `SetDuty` of the owner has come. -/
inductive Sending where
  | entered
  | read (emergency : Bool)
  | leftSent (emergency : Bool)
  | sent
  deriving DecidableEq, Repr

structure Threads where
  emergency : EmergencyService
  /-- Calls of `UpdateEmergency` outside the main thread that have changed the
  reasons and not broadcast yet, and those that have broadcast and not sent yet. -/
  owedBroadcasts : Nat
  owedStatus : Nat
  listener : EventListener
  dispatcher : Dispatcher
  drive : DiffDriveService
  mutex : Option (Owner × Sending)
  deriving DecidableEq, Repr

inductive Step where
  | updateEmergency (add clear : Reasons)
  | broadcastEmergency
  | sendOwedStatus
  | sendStatus
  | broadcastInputs
  | wake
  | getFlags
  | getEmergency
  | lockForEmergency
  | checkInputs (collected : Reasons)
  | broadcastChecked
  | sendCheckedStatus
  | lockTick (times : TickTimes)
  | lockTwist (now : Micros) (newValue : Nat → ℚ) (length : Nat)
  | readEmergency
  | commandLeft
  | commandRight
  | unlock
  | onStart
  | onStop
  | leftEscCallback (state : EscState) (micros : Micros)
  | rightEscCallback (state : EscState) (micros : Micros)

namespace Threads

/-- The locked change of `UpdateEmergency`. -/
def change (service : EmergencyService) (add clear : Reasons) : EmergencyService :=
  { service with reasons := revise service.reasons add clear }

/-- The broadcast of `UpdateEmergency`, by any thread. -/
def broadcast (threads : Threads) : Threads :=
  { threads with
    emergency := { threads.emergency with
      outbox := threads.emergency.outbox ++ [.emergencyChanged] }
    listener := threads.listener.broadcastFlags Platform.emergencyChanged }

/-- The drive has a duty to send, or is done with the section. -/
def enter (threads : Threads) (owner : Owner) (prepared finished : DiffDriveService) : Threads :=
  if prepared.dutySent then { threads with drive := finished }
  else { threads with drive := prepared, mutex := some (owner, .entered) }

/-- The thread of the drive is inside `tick` or the twist handler. -/
def driveBusy (threads : Threads) : Bool :=
  match threads.mutex with
  | some (.tick _, _) | some (.twist, _) => true
  | _ => false

/-- The rest of the section after `SetDuty`, and what its owner does next. -/
def leave (registers : Registers) (threads : Threads) : Owner → Threads
  | .tick times =>
      { threads with drive := threads.drive.finishTick registers times, mutex := none }
  | .twist => { threads with mutex := none }
  | .dispatcher inputs =>
      { threads with mutex := none, dispatcher := .afterEmergency inputs }

def boot : Threads where
  emergency := .initial
  owedBroadcasts := 0
  owedStatus := 0
  listener := .initial
  dispatcher := .waiting
  drive := .initial
  mutex := none

variable (registers : Registers)

def step (threads : Threads) : Step → Option Threads
  | .updateEmergency add clear =>
      let changed := change threads.emergency add clear
      if changed.reasons = threads.emergency.reasons then
        some threads
      else
        some { threads with
          emergency := changed, owedBroadcasts := threads.owedBroadcasts + 1 }
  | .broadcastEmergency =>
      if threads.owedBroadcasts = 0 then none
      else some { threads.broadcast with
        owedBroadcasts := threads.owedBroadcasts - 1, owedStatus := threads.owedStatus + 1 }
  | .sendOwedStatus =>
      if threads.owedStatus = 0 then none
      else some { threads with
        emergency := threads.emergency.sendStatus, owedStatus := threads.owedStatus - 1 }
  | .sendStatus => some { threads with emergency := threads.emergency.sendStatus }
  | .broadcastInputs =>
      some { threads with listener := threads.listener.broadcastFlags inputsChanged }
  | .wake =>
      if threads.dispatcher = .waiting then
        threads.listener.waitAny.map fun listener =>
          { threads with listener := listener, dispatcher := .woken }
      else none
  | .getFlags =>
      if threads.dispatcher = .woken then
        let (listener, flags) := threads.listener.getAndClearFlags
        let inputs := decide (flags &&& inputsChanged ≠ 0)
        some { threads with
          listener := listener
          dispatcher :=
            if flags &&& emergencyChanged ≠ 0 then .emergencyEvent inputs
            else .afterEmergency inputs }
      else none
  | .getEmergency =>
      match threads.dispatcher with
      | .emergencyEvent inputs =>
          some { threads with dispatcher :=
            if threads.emergency.getEmergency then .lockWanted inputs
            else .afterEmergency inputs }
      | _ => none
  | .lockForEmergency =>
      match threads.dispatcher, threads.mutex with
      | .lockWanted inputs, none =>
          some { threads with
            dispatcher := .inSection inputs
            drive := threads.drive.clearSpeeds
            mutex := some (.dispatcher inputs, .entered) }
      | _, _ => none
  | .checkInputs collected =>
      if threads.dispatcher = .checkingInputs then
        let changed := change threads.emergency collected inputReasons
        some (if changed.reasons = threads.emergency.reasons then
          { threads with dispatcher := .waiting }
        else
          { threads with emergency := changed, dispatcher := .broadcasting })
      else none
  | .broadcastChecked =>
      if threads.dispatcher = .broadcasting then
        some { threads.broadcast with dispatcher := .sendingStatus }
      else none
  | .sendCheckedStatus =>
      if threads.dispatcher = .sendingStatus then
        some { threads with
          emergency := threads.emergency.sendStatus, dispatcher := .waiting }
      else none
  | .lockTick times =>
      match threads.mutex with
      | none =>
          let prepared := threads.drive.expireSpeeds times.duty
          some (threads.enter (.tick times) prepared (prepared.finishTick registers times))
      | some _ => none
  | .lockTwist now newValue length =>
      if length ≠ 6 then some threads
      else
        match threads.mutex with
        | none =>
            let prepared := threads.drive.receiveTwist registers now newValue
            some (threads.enter .twist prepared prepared)
        | some _ => none
  | .readEmergency =>
      match threads.mutex with
      | some (owner, .entered) =>
          some { threads with mutex := some (owner, .read threads.emergency.getEmergency) }
      | _ => none
  | .commandLeft =>
      match threads.mutex with
      | some (owner, .read emergency) =>
          some { threads with
            drive := threads.drive.commandLeft emergency
            mutex := some (owner, .leftSent emergency) }
      | _ => none
  | .commandRight =>
      match threads.mutex with
      | some (owner, .leftSent emergency) =>
          some { threads with
            drive := (threads.drive.commandRight emergency).markSent
            mutex := some (owner, .sent) }
      | _ => none
  | .unlock =>
      match threads.mutex with
      | some (owner, .sent) => some (threads.leave registers owner)
      | _ => none
  | .onStart =>
      if threads.driveBusy then none else some { threads with drive := threads.drive.onStart }
  | .onStop =>
      if threads.driveBusy then none else some { threads with drive := threads.drive.onStop }
  | .leftEscCallback state micros =>
      match threads.mutex with
      | none =>
          some { threads with drive := threads.drive.leftEscCallback registers state micros }
      | some _ => none
  | .rightEscCallback state micros =>
      match threads.mutex with
      | none =>
          some { threads with drive := threads.drive.rightEscCallback registers state micros }
      | some _ => none

def sectionSteps (lock : Step) (sent : Bool) : List Step :=
  if sent then [lock] else [lock, .readEmergency, .commandLeft, .commandRight, .unlock]

def eventSteps (emergency : Bool) : List Step :=
  if emergency then
    [.getEmergency, .lockForEmergency, .readEmergency, .commandLeft, .commandRight, .unlock]
  else [.getEmergency]

def updateSteps (service : EmergencyService) (add clear : Reasons) : List Step :=
  if revise service.reasons add clear = service.reasons then [.updateEmergency add clear]
  else [.updateEmergency add clear, .broadcastEmergency, .sendOwedStatus]

variable {registers}

theorem run_section {threads : Threads} {owner : Owner}
    (entered : threads.mutex = some (owner, .entered)) :
    run (step registers) threads [.readEmergency, .commandLeft, .commandRight, .unlock] =
      some ({ threads with
        drive := threads.drive.setDuty threads.emergency.getEmergency
        mutex := some (owner, .sent) }.leave registers owner) := by
  simp [run, step, entered, DiffDriveService.setDuty]

theorem run_sectionSteps {threads : Threads} {owner : Owner} {lock : Step}
    {prepared finished : DiffDriveService}
    (locks : threads.step registers lock = some (threads.enter owner prepared finished)) :
    run (step registers) threads (sectionSteps lock prepared.dutySent) =
      if prepared.dutySent then some { threads with drive := finished }
      else some ({ threads with
        drive := prepared.setDuty threads.emergency.getEmergency
        mutex := some (owner, .sent) }.leave registers owner) := by
  unfold sectionSteps
  by_cases sent : prepared.dutySent = true
  · rw [if_pos sent, if_pos sent, run_cons, locks, enter, if_pos sent]
    rfl
  · have entered : ({ threads with
        drive := prepared, mutex := some (owner, .entered) } : Threads).mutex =
          some (owner, .entered) := rfl
    rw [if_neg sent, if_neg sent, run_cons, locks, enter, if_neg sent, Option.bind_some]
    exact run_section entered

theorem run_tick {threads : Threads} (free : threads.mutex = none) (times : TickTimes) :
    run (step registers) threads (sectionSteps (.lockTick times) threads.drive.dutySent) =
      some { threads with
        drive := threads.drive.tick registers times threads.emergency.getEmergency } := by
  have locks : threads.step registers (.lockTick times) =
      some (threads.enter (.tick times) (threads.drive.expireSpeeds times.duty)
        ((threads.drive.expireSpeeds times.duty).finishTick registers times)) := by
    simp only [step, free]
  rw [← DiffDriveService.expireSpeeds_dutySent threads.drive times.duty, run_sectionSteps locks]
  unfold DiffDriveService.tick DiffDriveService.setDutyOnce
  split
  · rfl
  · rw [leave, ← free]

theorem run_twist {threads : Threads} (free : threads.mutex = none) (now : Micros)
    (newValue : Nat → ℚ) :
    run (step registers) threads (sectionSteps (.lockTwist now newValue 6) threads.drive.dutySent) =
      some { threads with
        drive := threads.drive.onControlTwistChanged registers now newValue 6
          threads.emergency.getEmergency } := by
  have locks : threads.step registers (.lockTwist now newValue 6) =
      some (threads.enter .twist (threads.drive.receiveTwist registers now newValue)
        (threads.drive.receiveTwist registers now newValue)) := by
    simp [step, free]
  have sent : (threads.drive.receiveTwist registers now newValue).dutySent =
      threads.drive.dutySent := rfl
  rw [← sent, run_sectionSteps locks]
  unfold DiffDriveService.onControlTwistChanged DiffDriveService.setDutyOnce
  rw [if_neg (not_not.mpr rfl)]
  split
  · rfl
  · rw [leave, ← free]

theorem run_emergencyEvent {threads : Threads} {inputs : Bool} (free : threads.mutex = none)
    (dispatching : threads.dispatcher = .emergencyEvent inputs) :
    run (step registers) threads (eventSteps threads.emergency.getEmergency) =
      some { threads with
        dispatcher := .afterEmergency inputs
        drive := threads.drive.onEmergencyChangedEvent threads.emergency.getEmergency
          threads.emergency.getEmergency } := by
  cases emergency : threads.emergency.getEmergency with
  | false => simp [run, step, eventSteps, dispatching, emergency,
      DiffDriveService.onEmergencyChangedEvent]
  | true => simp [run, step, eventSteps, dispatching, emergency, free, leave,
      DiffDriveService.setDuty, DiffDriveService.onEmergencyChangedEvent]

theorem run_updateEmergency (threads : Threads) (add clear : Reasons) :
    run (step registers) threads (updateSteps threads.emergency add clear) =
      some { threads with
        emergency := threads.emergency.updateEmergency add clear
        listener :=
          if revise threads.emergency.reasons add clear = threads.emergency.reasons then
            threads.listener
          else threads.listener.broadcastFlags emergencyChanged } := by
  by_cases same : revise threads.emergency.reasons add clear = threads.emergency.reasons
  · simp [run, step, updateSteps, change, same, EmergencyService.updateEmergency]
  · simp [run, step, updateSteps, change, same, broadcast, EmergencyService.updateEmergency]

variable (registers) in
/-- Steps that no other thread comes between add up to the functions of the source: `tick`,
`OnControlTwistChanged`, `OnEmergencyChangedEvent` and `UpdateEmergency`. -/
theorem uninterrupted_steps_are_functions {threads : Threads} (free : threads.mutex = none) :
    (∀ times, run (step registers) threads
        (sectionSteps (.lockTick times) threads.drive.dutySent) =
      some { threads with
        drive := threads.drive.tick registers times threads.emergency.getEmergency }) ∧
    (∀ now newValue, run (step registers) threads
        (sectionSteps (.lockTwist now newValue 6) threads.drive.dutySent) =
      some { threads with
        drive := threads.drive.onControlTwistChanged registers now newValue 6
          threads.emergency.getEmergency }) ∧
    (∀ inputs, threads.dispatcher = .emergencyEvent inputs →
      run (step registers) threads (eventSteps threads.emergency.getEmergency) =
        some { threads with
          dispatcher := .afterEmergency inputs
          drive := threads.drive.onEmergencyChangedEvent threads.emergency.getEmergency
            threads.emergency.getEmergency }) ∧
    ∀ add clear, run (step registers) threads (updateSteps threads.emergency add clear) =
      some { threads with
        emergency := threads.emergency.updateEmergency add clear
        listener :=
          if revise threads.emergency.reasons add clear = threads.emergency.reasons then
            threads.listener
          else threads.listener.broadcastFlags emergencyChanged } :=
  ⟨run_tick free, run_twist free, fun _ => run_emergencyEvent free, run_updateEmergency threads⟩

/-- The main thread is about to stop a robot that drives. -/
def aboutToStop : Threads :=
  { boot with
    emergency := { EmergencyService.initial with reasons := EmergencyReason.stop.mask }
    dispatcher := .emergencyEvent true
    drive := { DiffDriveService.initial with speedL := 1, dutySent := true } }

theorem uninterrupted_steps_are_functions_aboutToStop :
    ∃ stopped, run (step ⟨100, 13 / 50⟩) aboutToStop (eventSteps true) = some stopped ∧
      stopped.dispatcher = .checkingInputs ∧ stopped.drive.speedL = 0 ∧
      stopped.drive.leftEscDriver.duty = 0 := by
  obtain ⟨_, _, event, _⟩ := uninterrupted_steps_are_functions ⟨100, 13 / 50⟩
    (rfl : aboutToStop.mutex = none)
  exact ⟨_, event true rfl, rfl, rfl, by decide +kernel⟩

end Threads

end XBotFirmware.System
